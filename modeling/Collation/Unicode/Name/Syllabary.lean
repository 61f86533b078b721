/-! Names of characters from U+1100 to U+1FFF: syllables, and letters with marks. -/

namespace Collation.Unicode.Name

def syllabaries : String :=
  "@1100&uvCHOSEONGwn+ze+NIEUN+wo+zf+RIEUL+MIEUM+PIEUP+SSANGPIEUP+SIOS+SSANGSIOS+ya+yb+SSANGCIEUC
   +ua+ub+uc+ud+HIEUH+NIEUN-KIYEOK+SSANGNIEUN+NIEUN-TIKEUT+NIEUN-PIEUP+TIKEUT-KIYEOK+RIEUL-NIEUN
   +SSANGRIEUL+zg+KAPYEOUNRIEUL+MIEUM-PIEUP+KAPYEOUNMIEUM+PIEUP-KIYEOK+PIEUP-NIEUN+PIEUP-TIKEUT
   +PIEUP-SIOS+PIEUP-SIOS-KIYEOK+yc+PIEUP-SIOS-PIEUP+PIEUP-SSANGSIOS+PIEUP-SIOS-CIEUC+PIEUP-CIEUC
   +PIEUP-CHIEUCH+PIEUP-THIEUTH+PIEUP-PHIEUPH+KAPYEOUNPIEUP+KAPYEOUNSSANGPIEUP+SIOS-KIYEOK
   +SIOS-NIEUN+SIOS-TIKEUT+SIOS-RIEUL+SIOS-MIEUM+SIOS-PIEUP+SIOS-PIEUP-KIYEOK+SIOS-SSANGSIOS
   +SIOS-IEUNG+SIOS-CIEUC+SIOS-CHIEUCH+SIOS-KHIEUKH+SIOS-THIEUTH+SIOS-PHIEUPH+SIOS-HIEUH
   +CHITUEUMSIOS+CHITUEUMSSANGSIOS+CEONGCHIEUMSIOS+CEONGCHIEUMSSANGSIOS+PANSIOS+IEUNG-KIYEOK
   +IEUNG-TIKEUT+IEUNG-MIEUM+IEUNG-PIEUP+IEUNG-SIOS+IEUNG-PANSIOS+SSANGIEUNG+IEUNG-CIEUC
   +IEUNG-CHIEUCH+IEUNG-THIEUTH+IEUNG-PHIEUPH+YESIEUNG+CIEUC-IEUNG+CHITUEUMCIEUC
   +CHITUEUMSSANGCIEUC+CEONGCHIEUMCIEUC+CEONGCHIEUMSSANGCIEUC+CHIEUCH-KHIEUKH+CHIEUCH-HIEUH
   +CHITUEUMCHIEUCH+CEONGCHIEUMCHIEUCH+PHIEUPH-PIEUP+KAPYEOUNPHIEUPH+SSANGHIEUH+YEORINHIEUH
   +KIYEOK-TIKEUT+NIEUN-SIOS+zh+zi+TIKEUT-RIEUL+uw*JUNGSEONGuw+A+AE+YA+YAE+EO+E+YEO+YE+O+WA+WAE+OE
   +YO+U+WEO+WE+WI+YU+EU+YI+I+A-O+A-U+YA-O+YA-YO+EO-O+EO-U+EO-EU+YEO-O+YEO-U+O-EO+O-E+O-YE+O-O+O-U
   +YO-YA+YO-YAE+YO-YEO+YO-O+YO-I+U-A+U-AE+U-EO-EU+U-YE+U-U+YU-A+YU-EO+YU-E+YU-YEO+YU-YE+YU-U+YU-I
   +EU-U+EU-EU+YI-U+I-A+I-YA+I-O+I-U+I-EU+I-ARAEA+ARAEA+ARAEA-EO+ARAEA-U+ARAEA-I+SSANGARAEA+A-EU
   +YA-U+YEO-YA+O-YA+O-YAE*JONGSEONGwn+ze+KIYEOK-SIOS+NIEUN+zh+zi+wo+RIEUL+xn+zj+zk+RIEUL-SIOS
   +RIEUL-THIEUTH+RIEUL-PHIEUPH+zg+MIEUM+PIEUP+PIEUP-SIOS+SIOS+SSANGSIOS+ya+yb+ua+ub+uc+ud+HIEUH
   +KIYEOK-RIEUL+KIYEOK-SIOS-KIYEOK+NIEUN-KIYEOK+NIEUN-TIKEUT+NIEUN-SIOS+NIEUN-PANSIOS
   +NIEUN-THIEUTH+TIKEUT-KIYEOK+TIKEUT-RIEUL+RIEUL-KIYEOK-SIOS+RIEUL-NIEUN+RIEUL-TIKEUT
   +RIEUL-TIKEUT-HIEUH+SSANGRIEUL+RIEUL-MIEUM-KIYEOK+RIEUL-MIEUM-SIOS+RIEUL-PIEUP-SIOS
   +RIEUL-PIEUP-HIEUH+RIEUL-KAPYEOUNPIEUP+RIEUL-SSANGSIOS+RIEUL-PANSIOS+RIEUL-KHIEUKH
   +RIEUL-YEORINHIEUH+MIEUM-KIYEOK+MIEUM-RIEUL+MIEUM-PIEUP+MIEUM-SIOS+MIEUM-SSANGSIOS
   +MIEUM-PANSIOS+MIEUM-CHIEUCH+MIEUM-HIEUH+KAPYEOUNMIEUM+PIEUP-RIEUL+PIEUP-PHIEUPH+PIEUP-HIEUH
   +KAPYEOUNPIEUP+SIOS-KIYEOK+SIOS-TIKEUT+SIOS-RIEUL+SIOS-PIEUP+PANSIOS+IEUNG-KIYEOK
   +IEUNG-SSANGKIYEOK+SSANGIEUNG+IEUNG-KHIEUKH+YESIEUNG+YESIEUNG-SIOS+YESIEUNG-PANSIOS
   +PHIEUPH-PIEUP+KAPYEOUNPHIEUPH+HIEUH-NIEUN+HIEUH-RIEUL+HIEUH-MIEUM+HIEUH-PIEUP+YEORINHIEUH
   +KIYEOK-NIEUN+KIYEOK-PIEUP+KIYEOK-CHIEUCH+KIYEOK-KHIEUKH+KIYEOK-HIEUH+SSANGNIEUN&ETHIOPICjlHA
   +HU+HI+HAA+HEE+HE+HO+HOA+LA+LU+LI+LAA+LEE+LE+LO+LWA+HHA+HHU+HHI+HHAA+HHEE+HHE+HHO+HHWA+MA+MU+MI
   +MAA+MEE+ME+MO+MWA+SZA+SZU+SZI+SZAA+SZEE+SZE+SZO+SZWA+RA+RU+RI+RAA+REE+RE+RO+RWA+SA+SU+SI+SAA
   +SEE+SE+SO+SWA+hm+SHU+SHI+SHAA+SHEE+nn+SHO+SHWA+QA+QU+QI+QAA+QEE+QE+QO+QOA+QWA@124A+QWI+QWAA
   +QWEE+QWE@1250+QHA+QHU+QHI+QHAA+QHEE+QHE+QHO@1258+QHWA@125A+QHWI+QHWAA+QHWEE+QHWE@1260+BA+BU+BI
   +BAA+BEE+BE+BO+BWA+VA+VU+VI+VAA+VEE+VE+VO+VWA+TA+TU+TI+TAA+TEE+TE+TO+TWA+CA+CU+CI+CAA+CEE+CE+CO
   +CWA+XA+XU+XI+XAA+XEE+XE+XO+XOA+XWA@128A+XWI+XWAA+XWEE+XWE@1290+NA+NU+NI+NAA+NEE+NE+NO+NWA+hz
   +NYU+NYI+NYAA+NYEE+NYE+NYO+NYWA+guA,U,I,AA,EE,E,O,WA+KA+KU+KI+KAA+KEE+KE+KO+KOA+KWA@12B2+KWI
   +KWAA+KWEE+KWE@12B8+KXA+KXU+KXI+KXAA+KXEE+KXE+KXO@12C0+KXWA@12C2+KXWI+KXWAA+KXWEE+KXWE@12C8+WA
   +WU+WI+WAA+WEE+WE+WO+WOA+PHARYNGEAL A,U,I,AA,EE,E,O@12D8+ZA+ZU+ZI+ZAA+ZEE+ZE+ZO+ZWA+ty+ZHU+ZHI
   +ZHAA+ZHEE+yu+ZHO+ZHWA+YA+YU+YI+YAA+YEE+YE+YO+YOA+DA+DU+DI+DAA+DEE+DE+DO+DWA+kc+DDU+DDI+DDAA
   +DDEE+DDE+DDO+DDWA+JA+JU+JI+JAA+JEE+JE+JO+JWA+GA+GU+GI+GAA+GEE+GE+GO+GOA+GWA@1312+GWI+GWAA+GWEE
   +GWE@1318+GGA+GGU+GGI+GGAA+GGEE+GGE+GGO+GGWAA+iu+THU+THI+THAA+THEE+mm+zc+THWA+hw+CHU+ss+CHAA
   +CHEE+st+CHO+CHWA+jh+PHU+sc+PHAA+PHEE+PHE+PHO+PHWA+oy+TSU+TSI+TSAA+TSEE+TSE+TSO+TSWA+TZA+TZU
   +TZI+TZAA+TZEE+TZE+TZO+TZOA+FA+FU+FI+FAA+FEE+FE+FO+FWA+PA+PU+PI+PAA+PEE+PE+PO+PWA+RYA+MYA+FYA
   @135D*dvvuapckndba+ckndba+vuba*hrba*WORDSPACE*hhez*en*kx*iq*PREFACEiq*fpba*xygb*ctbr+bl+at+bm
   +bt+du+by+bp+cu*dogw+fl+jm+nk+ie+ny+fm+ne+ga+bc+gwbe@1380*jlSEBATBEIT MWA+MWI+MWEE+MWE
   +SEBATBEIT BWA+BWI+BWEE+BWE+SEBATBEIT FWA+FWI+FWEE+FWE+SEBATBEIT PWA+PWI+PWEE+PWE*TONALbaYIZET
   ,DERET,RIKRIK,ffRIKRIK,DIFAT,KENAT,CHIRET,HIDET,DERET-HIDET,KURT@13A0&CHEROKEEaaA+E+I+O+U+V+GA
   +KA+GE+GI+GO+GU+GV+HA+HE+HI+HO+HU+HV+LA+LE+LI+LO+LU+LV+MA+ME+MI+MO+MU+NA+HNA+NAH+NE+NI+NO+NU+NV
   +QUA+QUE+QUI+QUO+QUU+QUV+SA+S+SE+SI+SO+SU+SV+DA+TA+DE+TE+DI+TI+DO+DU+DV+DLA+TLA+TLE+TLI+TLO+TLU
   +TLV+oy+TSE+TSI+TSO+TSU+TSV+WA+WE+WI+WO+WU+WV+YA+YE+YI+YO+YU+YV+MV@13F8*adaaYE,YI,YO,YU,YV,MV
   @1400&CANADIAN SYLLABICSpt+E+AAI+I+II+O+OO+puOO+onEE,I+A+AA+WE+bjWE+WI+bjWI+WII+bjWII+WO+bjWO
   +WOO+bjWOO+qkWOO+WA+bjWA+WAA+bjWAA+qkWAA+AI+puW+guez+ancy,ef,hecodx,lrcodx,ahcodx,dx,alcy
   .ffarSTROKES,bbbv,ffayau,ch,cpjt+EN+IN+ON+AN+PE+PAAI+PI+PII+PO+POO+puPOO+onHEE,HI+PA+PAA+PWE
   +bjPWE+PWI+bjPWI+PWII+bjPWII+PWO+bjPWO+PWOO+bjPWOO+PWA+bjPWA+PWAA+bjPWAA+puPWAA+P+bjP+onH+TE
   +TAAI+TI+TII+TO+TOO+puTOO+onDEE,DI+TA+TAA+TWE+bjTWE+TWI+bjTWI+TWII+bjTWII+bl+bjbl+TWOO+bjTWOO
   +TWA+bjTWA+TWAA+bjTWAA+qkTWAA+T+TTE+TTI+TTO+jx+KE+KAAI+KI+KII+KO+KOO+puKOO+KA+KAA+KWE+bjKWE+KWI
   +bjKWI+KWII+bjKWII+KWO+bjKWO+KWOO+bjKWOO+KWA+bjKWA+KWAA+bjKWAA+qkKWAA+K+KW+SOUTH-SLAVEY KEH,KIH
   ,KOH,KAH+CE+CAAI+CI+CII+CO+COO+puCOO+CA+CAA+CWE+bjCWE+CWI+bjCWI+CWII+bjCWII+CWO+bjCWO+CWOO
   +bjCWOO+CWA+bjCWA+CWAA+bjCWAA+qkCWAA+C+uxTH+ME+MAAI+MI+MII+MO+MOO+puMOO+MA+MAA+MWE+bjMWE+MWI
   +bjMWI+MWII+bjMWII+MWO+bjMWO+MWOO+bjMWOO+MWA+bjMWA+MWAA+bjMWAA+qkMWAA+M+bjM+MH+ATHAPASCAN M+uxM
   +NE+NAAI+NI+NII+NO+NOO+puNOO+NA+NAA+NWE+bjNWE+NWA+bjNWA+NWAA+bjNWAA+qkNWAA+N+onNG+NH+LE+LAAI+LI
   +LII+LO+LOO+puLOO+LA+LAA+LWE+bjLWE+LWI+bjLWI+LWII+bjLWII+LWO+bjLWO+LWOO+bjLWOO+LWA+bjLWA+LWAA
   +bjLWAA+L+bjL+ceL+SE+SAAI+SI+SII+SO+SOO+puSOO+SA+SAA+SWE+bjSWE+SWI+bjSWI+SWII+bjSWII+SWO+bjSWO
   +SWOO+bjSWOO+SWA+bjSWA+SWAA+bjSWAA+qkSWAA+S+ATHAPASCAN S+SW+BLACKFOOT S+MOOSE-CREE SK+qkSKW,S-W
   ,SPWA,STWA,SKWA,SCWA+nn+SHI+SHII+SHO+SHOO+hm+SHAA+SHWE+bjSHWE+SHWI+bjSHWI+SHWII+bjSHWII+SHWO
   +bjSHWO+SHWOO+bjSHWOO+SHWA+bjSHWA+SHWAA+bjSHWAA+SH+YE+YAAI+YI+YII+YO+YOO+puYOO+YA+YAA+YWE+bjYWE
   +YWI+bjYWI+YWII+bjYWII+YWO+bjYWO+YWOO+bjYWOO+YWA+bjYWA+YWAA+bjYWAA+qkYWAA+Y+BIBLE-CREE Y+bjY
   +uxYI+RE+R-CREE RE+bjLE+RAAI+RI+RII+RO+ROO+bjLO+RA+RAA+bjLA+RWAA+bjRWAA+R+bjR+ceR+FE+FAAI+FI
   +FII+FO+FOO+FA+FAA+FWAA+bjFWAA+F+mm+N-CREEmm+THI+N-CREE THI+THII+N-CREE THII+zc+THOO+iu+THAA
   +THWAA+bjTHWAA+TH+TTHE+TTHI+TTHO+ip+TTH+TYE+TYI+TYO+TYA+NUNAVIK HE,HI,HII,HO,HOO,HA,HAA,H
   +NUNAVUT H+HK+QAAI+QI+QII+QO+QOO+QA+QAA+Q+TLHE+TLHI+TLHO+TLHA+bjRE,RI,RO,RA+NGAAI+NGI+NGII+NGO
   +NGOO+hl+NGAA+NG+NNG+uxnn,SHI,SHO,hm+WOODS-CREEmm,THI,zc,iu,TH+LHI+LHII+LHO+LHOO+LHA+LHAA+LH
   +TH-CREEmm,THI,THII,zc,THOO,iu,THAA,TH+AIVILIK B+BLACKFOOT E,I,O,A,WE,WI,WO,WA,NE,NI,NO,NA,KE
   ,KI,KO,KA+uxHE,HI,HO,HA+onGHU,GHO,xg,GHEE,GHI,kl,RU,RO,RE,REE,RI,RA,WU,WO,WE,WEE,WI,WA,HWU,HWO
   ,HWE,HWEE,HWI,HWA,THU,zc,mm,THEE,THI,iu,TTU,TTO,TTE,TTEE,TTI,jx,PU,PO,PE,PEE,PI,PA,P,GU,GO,GE
   ,GEE,GI,GA,KHU,KHO,KHE,KHEE,KHI,id,KKU,KKO,KKE,KKEE,KKI,KKA,KK,NU,NO,NE,NEE,NI,NA,MU,MO,ME,MEE
   ,MI,MA,YU,YO,YE,YEE,YI,YA,JU+uxJU+onJO,JE,JEE,JI+uxJI+onJA,JJU,JJO,JJE,JJEE,JJI,JJA,LU,LO,LE
   ,LEE,LI,LA,DLU,DLO,DLE,DLEE,DLI,DLA,LHU,LHO,LHE,LHEE,LHI,LHA,TLHU,TLHO,TLHE,TLHEE,TLHI,TLHA,TLU
   ,TLO,TLE,TLEE,TLI,TLA,ZU,ZO,ZE,ZEE,ZI,ZA,Z,asZ,DZU,DZO,DZE,DZEE,DZI,DZA,SU,SO,SE,SEE,SI,SA,SHU
   ,SHO,nn,SHEE,SHI,hm,SH,TSU,TSO,TSE,TSEE,TSI,oy,CHU,CHO,st,CHEE,ss,hw,TTSU,TTSO,TTSE,TTSEE,TTSI
   ,TTSA+ssag+hhez+QAI+NGAI+NNGI+NNGII+NNGO+NNGOO+NNGA+NNGAA+WOODS-CREE THWEE,THWI,THWII,THWO
   ,THWOO,THWA,THWAA,anTH+BLACKFOOT W&OGHAMlgba*aaBEITH+LUIS+FEARN+SAIL+NION+UATH+DAIR+TINNE+COLL
   +CEIRT+MUIN+GORT+NGEADAL+STRAIF+RUIS+AILM+ONN+UR+EADHADH+IODHADH+EABHADH+OR+UILLEANN+IFIN
   +EAMHANCHOLL+PEITH*FEATHERba*bzFEATHERba@16A0&RUNICaaFEHU FEOH FE F+V+URUZ UR U+YR+Y+W
   +THURISAZ THURS THORN+ETH+ANSUZ A+OS O+AC A+AESC+LONG-BRANCH-OSS O+SHORT-TWIG-OSS O+O+OE+ON
   +RAIDO RAD REID R+KAUNA+CEN+KAUN K+G+ENG+GEBO GYFU G+qt+WUNJO WYNN W+HAGLAZ H+HAEGL H
   +LONG-BRANCH-HAGALL H+SHORT-TWIG-HAGALL H+NAUDIZ NYD NAUD N+SHORT-TWIG-NAUD N+DOTTED-N
   +ISAZ IS ISS I+E+JERAN J+GER+LONG-BRANCH-AR AE+SHORT-TWIG-AR A+IWAZ EOH+PERTHO PEORTH P
   +ALGIZ EOLHX+SOWILO S+SIGEL LONG-BRANCH-SOL S+SHORT-TWIG-SOL S+C+Z+TIWAZ TIR TYR T
   +SHORT-TWIG-TYR T+D+BERKANAN BEORC BJARKAN B+SHORT-TWIG-BJARKAN B+DOTTED-P+OPEN-P+EHWAZ EH E
   +MANNAZuuM+LONG-BRANCH-MADR M+SHORT-TWIG-MADR M+LAUKAZ LAGU LOGR L+DOTTED-L+INGWAZ+ING
   +DAGAZ DAEG D+OTHALAN ETHEL O+EAR+IOR+CWEORTH+CALC+CEALC+STAN+LONG-BRANCH-YR+SHORT-TWIG-YR
   +ICELANDIC-YR+Q+X*decn*ljcn*gdcn*ARLAUGav*TVIMADURav*BELGTHORav*aaK+SH+OO+FRANKS CASKET OS.IS
   .EH.AC.AESC@1700&TAGALOGaaA+I+U+KA+GA+hl+TA+DA+NA+PA+BA+MA+YA+RA+LA+WA+SA+HA*ckagI,U*agfk
   +PAMUDPOD@171F*aajgRA&HANUNOOaaA+I+U+KA+GA+hl+TA+DA+NA+PA+BA+MA+YA+RA+LA+WA+SA+HA*ckagI,U
   *agPAMUDPOD&PHILIPPINEdecn*alcn@1740&BUHIDaaA+I+U+KA+GA+hl+TA+DA+NA+PA+BA+MA+YA+RA+LA+WA+SA+HA
   *ckagI,U@1760&TAGBANWAaaA+I+U+KA+GA+hl+TA+DA+NA+PA+BA+MA+YA@176E+LA+WA+SA@1772*ckagI,U
   @1780&KHMERaaKA+id+KO+KHO+NGO+CA+hw+CO+CHO+NYO+DA+ip+DO+TTHO+NNO+TA+iu+TO+zc+NO+BA+jh+PO+PHO+MO
   +YO+RO+LO+VO+hm+SSO+SA+HA+LA+QA*nfckQAQ,QAA,QI,QII,QU,QUK,QUU,QUUV,RY,RYY,LY,LYY,QE,QAI
   ,QOO TYPEbr:bl,QAU*ckINHERENT AQ,AA+agAA,I,II,Y,YY,U,UU,UA,OE,YA,IE,E,AE,AI,OO,AU*agNIKAHIT
   +REAHMUK+YUUKALEAPINTU+MUUSIKATOAN+TRIISAP+BANTOC+ROBAT+TOANDAKHIAT+KAKABAT+AHSDA+SAMYOK SANNYA
   +VIRIAM+COENG+BATHAMASAT+KHAN+BARIYOOSAN+CAMNUC PII KUUH+LEK TOO+BEYYAL+PHNAEK MUAN+KOOMUUT
   *CURRENCYavRIEL*agAVAKRAHASANYA+ATTHACAN@17E0*cteh+br+bl+at+bm+bt+du+by+bp+cu
   @17F0*avLEK ATTAK SON.MUOY.PII.BEI.BUON.PRAM.PRAM-MUOY.PRAM-PII.PRAM-BEI.PRAM-BUON
   @1800&MONGOLIANvx*ro*en*hhez*iq*bmdb*TODOvept*SIBEjlBOUNDARYwk*MANCHUen+hhez*NIRUGU
   *FREEydSELECTORbr.bl.at*ckgb*FREEydSELECTORbm*cteh+br+bl+at+bm+bt+du+by+bp+cu@1820*aaA+E+I+O+U
   +OE+UE+EE+NA+ANG+BA+PA+QA+GA+MA+LA+SA+hm+TA+DA+hw+JA+YA+RA+WA+FA+KA+id+oy+ZA+HAA+ZRA+LHA+ZHI+ss
   +TODOemckag,E,I,O,U,OE,UE,ANG,BA,PA,QA,GA,MA,TA,DA,hw,JA,oy,YA,WA,KA,GAA,HAA,JIA,NIA,DZA+SIBE E
   ,I,IY,UE,U,ANG,KA,GA,HA,PA,hm,TA,DA,JA,FA,GAA,HAA,oy,ZA,RAA,hw,ty+MANCHU I,KA,RA,FA,ty+hwabbldb
   @1880+ALI GALIdfbr.fbbr.DAMARU.UBADAMA.ccUBADAMA.BALUDA.atBALUDA.A.I.KA.hl.CA.jx.ip.kc.la.TA.DA
   .PA.jh.lz.ty.ZA.AH+TODO ALI GALI TA:ty+MANCHU ALI GALIkl:hl:CA:nc:jx:ja:TA:kj:lz:CYA:ty:ZA
   +ALI GALIcoU:YA+MANCHU ALI GALIle+ALI GALI DAGALGA+MANCHU ALI GALI LHA
   @18B0&CANADIAN SYLLABICS OY+AY+AAY+WAY+POY+PAY+PWOY+TAY+KAY+KWAY+MAY+NOY+NAY+LAY+SOY+SAY+SHOY
   +SHAY+SHWOY+YOY+YAY+RAY+NWI+OJIBWAY NWI+NWII+OJIBWAY NWII+NWO+OJIBWAY NWO+NWOO+OJIBWAY NWOO
   +RWEE+RWI+RWII+RWO+RWOO+RWA+OJIBWAY P,T,K,C,M,N,S,SH+EASTERN W+WESTERN W+anaddx,imbv+R-CREE RWE
   +bjLOO,LAA+THWE+THWA+TTHWE+TTHOO+TTHAA+TLHWE+TLHOO+uxSHWE,SHOO,HOO+onGWU,DENE GEE,GAA,GWA+uxJUU
   +onJWA+BEAVER DENE L.R+onDENTAL S@1900&LIMBU VOWEL-CARRIERaa*aaKA+id+GA+kl+hl+CA+hw+JA+nc+YAN
   +TA+iu+DA+kj+NA+PA+jh+BA+le+MA+YA+RA+LA+WA+hm+lz+SA+HA+GYAN+TRA@1920*ckagA,I,U,EE,AI,OO,AU,E,O
   *usaaYA,RA,WA@1930*adaaKA,hl,df,TA,NA,PA,MA,RA,LA*agMUKPHRENG+KEMPHRENG+SA-I@1940+LOO@1944*eiba
   *fpba*cteh+br+bl+at+bm+bt+du+by+bp+cu&TAI LEaaKA,XA,hl,oy,SA,YA,TA,iu,LA,PA,jh,MA,FA,VA,HA,QA
   ,id,tz,NA,A,I,EE,EH,U,OO,O,UE,E,AUE,AI@1970,ta,ut,zd,tb,TONE-6@1980&NEW TAI LUEaaevQA.ftQA.evKA
   :XA:hl.ftKA:XA:hl.evoy:SA:YA.ftoy:SA:YA.evTA:iu:NA.ftTA:iu:NA.evPA:jh:MA.ftPA:jh:MA.evFA:VA:LA
   .ftFA:VA:LA.evHA:DA:BA.ftHA:DA:BA.evKVA:XVA.ftKVA:XVA.evSUA.ftSUA@19B0,ckagckSHORTENER:AA:II:U
   :UU:E:AE:O:OA:UE:AY:AAY:UY:OY:OAY:UEY:IY,aaanV:NG:N:M:K:D:B,eoMARK-1.MARK-2@19D0,cteh.br.bl.at
   .bm.bt.du.by.bp.cu,THAMctbr@19DE,agLAE.LAEV&KHMERavPATHAMASAT+MUOYue+PIIue+BEIue+BUONue+PRAMue
   +PRAM-MUOYue+PRAM-PIIue+PRAM-BEIue+PRAM-BUONue+DAPue+DAP-MUOYue+DAP-PIIue+DAP-BEIue+DAP-BUONue
   +DAP-PRAMue+TUTEYASAT+MUOY ROC+PII ROC+BEI ROC+BUON ROC+PRAM ROC+PRAM-MUOY ROC+PRAM-PII ROC
   +PRAM-BEI ROC+PRAM-BUON ROC+DAP ROC+DAP-MUOY ROC+DAP-PII ROC+DAP-BEI ROC+DAP-BUON ROC
   +DAP-PRAM ROC&BUGINESEaaKA+GA+hl+NGKA+PA+BA+MA+MPA+TA+DA+NA+NRA+CA+JA+hz+NYCA+YA+RA+LA+VA+SA+A
   +HA*ckagI,U,E,O,AE@1A1E*PALLAWA*owOFhr&TAI THAMaaevKA.id.KXA,ftKA.KXA.id,hl,evCA.hw,ftCA.SA.hw
   ,hz,RATA,evRATHA,DA,ftRATHA,RANA,evTA.iu,ftTA.iu,NA,BA,evPA.jh.FA,ftPA.FA.jh,MA,ftYA,evYA,RA
   ,RUE,LA,LUE,WA,evhm.lz.SA.HA,qs,A,ftHA,I,II,U,UU,EE,OO,LAE,GREAT SA+ghagceRA:LA.LA TANG LAI
   +agMAI KANG LAI+ghaganhl.ftPA.evRATHA ORftPA.MA.BA.SA@1A60+agSAKOT+ckagA.MAI SAT.AA.TALL AA.I
   .II.UE.UUE.U.UU.O.OAam.OY.E.AE.OO.AI.THAM AI.OAai+agMAI KANG,TONE-1,ta,KHUENut.zd.tb,RA HAAM
   ,MAI SAM,KHUEN-LUE KARAN@1A7F+dvkebv+HORActeh.br.bl.at.bm.bt.du.by.bp.cu@1A90+THAMcteh.br.bl.at
   .bm.bt.du.by.bp.cu@1AA0+agWIANG,WIANGWAAK,SAWAN,KEOW,HOY,DOKMAI,bzczRANA,MAI YAMOK,KAAN,KAANKUU
   ,SATKAAN,SATKAANKUU,HANG,CAANG@1AB0&dvDOUBLEDbgfs*DIAERESIS-RING*wp*bdaf*ewbv*X-Xam*WIGGLYfqam
   *ejbaam*alejbaam*clvfauam*STRONGvfauam*PARENTHESESai*alPARENTHESESai*PARENTHESESam+hv*feadaaWam
   .crWam*aocqaiao*ahcqaiah*aocqamao*ahcqamah*bnBRACKETSai*doagai*ccalARCHai*chagai*alchagai.am
   *ewcyfs*feadaajpG:R:T@1B00&BALINESEagULU RICEM,nb+CECEK+SURANG+BISAH*aaAKARA,pv+IKARA,pv+UKARA
   ,pv+RA REPA.pv+LA LENGA.pv+EKARA+AIKARA+OKARA,pv+KA,pi+GA,GORA+hl+CA,LACA+JA,JERA+hz+TA LATIK
   ,uypi+DAuyALPAPRANA.pi+NA RAMBAT+TA,TAWA+DA,MADU+NA+PA,KAPAL+BA,KEMBANG+MA+YA+RA+LA+WA+SA SAGA
   ,SAPA,+HA*agREREKAN*ckagpv,ULU.SARI,SUKU.ILUT,RA REPA:pv,LA LENGA:pv,TALING.REPA.pv.REPApv
   ,PEPET.pv*ADEG ADEG*aaoxSASAK+KHOT SASAK+TZIR SASAK+EF SASAK+VE SASAK+ZAL SASAK+ASYURA SASAK
   +jgJNYA@1B50*cteh+br+bl+at+bm+bt+du+by+bp+cu*PANTI*PAMADA*WINDU*CARIK PAMUNGKAH+SIKI+PAREREN
   *PAMENENG*noavDONG,DENG,DUNG,DANG.SURANG,DING,DAENG,DEUNG,DAING,DANG GEDE,dvTEGEH.ENDEP.KEMPUL
   .KEMPLI.JEGOGAN.KEMPULabJEGOGAN.KEMPLIabJEGOGAN.BENDE.GONG,RIGHT-HANDejDUG:DAG.gmTUK:TAK
   ,LEFT-HANDejPANG:PUNG.gmPLAK:PLUK.ejPING*PANTI LANTANG*PAMADA LANTANG@1B80&SUNDANESEagPANYECEK
   +PANGLAYAR+PANGWISAD*aaA+I+U+AE+O+E+EU+KA+QA+GA+hl+CA+JA+ZA+hz+TA+DA+NA+PA+FA+VA+BA+MA+YA+RA+LA
   +WA+SA+XA+HA*ghagPAMINGKAL,PANYAKRA,PANYIKU*ckagPANGHULU,PANYUKU,PANAELAENG,PANOLONG,PAMEPET
   ,PANEULEUNG*agPAMAAEH+fk*ghagPASANGAN MA.WA*aaid+SYA*cteh+br+bl+at+bm+bt+du+by+bp+cu*jk*aaREU
   +LEU+le+anK,M&BATAKaaA+ktA+HA+ktHA+MANDAILING HA+BA+KARO BA+PA+ktPA+NA+MANDAILING NA+WA+ktWA
   +PAKPAK WA+GA+ktGA+JA+DA+RA+ktRA+MA+ktMA+SOUTHERN TA+NORTHERN TA+SA+ktSA+MANDAILING SA+YA+ktYA
   +hl+LA+ktLA+hz+CA+NDA+MBA+I+U*agTOMPI*ckagE,PAKPAK E,EE,I,KARO I,O,KARO O,U.mkktSA*ghagNG,H
   *PANGOLAT*PANONGONAN@1BFC*avBINDU NA METEK,PINARBORAS,JUDUL,PANGOLAT&LEPCHAaaKA+KLA+id+GA+GLA
   +hl+CA+hw+JA+hz+TA+iu+DA+NA+PA+PLA+jh+FA+FLA+BA+BLA+MA+MLA+oy+tz+DZA+YA+RA+LA+HA+HLA+VA+SA+hm
   +WA+A*usaaYA,RA*ckagAA,I,O,OO,U,UU,E*ghagK,M,L,N,P,R,T,NYIN-DO,KANG*agRAN+kd@1C3B*cnTA-ROL
   +NYET THYOOM TA-ROL+CER-WA+TSHOOK CER-WA,*cteh+br+bl+at+bm+bt+du+by+bp+cu@1C4D*aajx+ip+kc
   &OL CHIKIcteh,br,bl,at,bm,bt,du,by,bp,cu+aaLA,AT,AG,ANG,AL,LAA,AAK,AAJ,AAM,AAW,LI,IS,IH,INY,IR
   ,LU,UC,UD,UNN,UY,LE,EP,EDD,EN,ERR,LO,OTT,OB,OV,OH+MU TTUDDAG+GAAHLAA TTUDDAAG
   +MU-GAAHLAA TTUDDAAG+RELAA+PHAARKAA+AHAD+cnMUCAAD,alMUCAAD&knadaaqgVE,LONG-LEGGED DE,NARROW O
   ,WIDE ES,TALL TE,THREE-LEGGED TE,TALL HARDag.YAT,UNBLENDED UK@1C90&GEORGIAN MTAVRULIacaaAN.BAN
   .GAN.DON.EN.VIN.ZEN.TAN.IN.KAN.LAS.uu.NAR.ON.PAR.ZHAR.RAE.SAN.TAR.UN.PHAR.KHAR.GHAN.QAR.lc.CHIN
   .CAN.JIL.CIL.CHAR.XAN.JHAN.HAE.HE.HIE.WE.HAR.HOE.FI.YN.ELIFI.crGAN.nv@1CBD.AEN.HARDag.LABIALag
   &SUNDANESEcnBINDU SURYA,PANGLONG,PURNAMA,CAKRA,LEU SATANGA,KA SATANGA,DA SATANGA,BA SATANGA
   @1CD0&VEDICeoKARSHANA+SHARA+PRENKHA*agNIHSHVASA+YAJURVEDIC MIDLINEql
   *eoYAJURVEDIC AGGRAVATEDnfql,nfql,KATHAKAnfql+nbam+YAJURVEDIC KATHAKAnfqlSCHROEDER+alql+ewql
   +KATHAKA ANUDATTA+bvam+bldbam+atdbam+RIGVEDIC KASHMIRInfql+ATHARVAVEDICnfql*agfbql,UDATTA
   +bzfbUDATTA+fbANUDATTA+bzfbANUDATTA+fbUDATTAabgt,ANUDATTAabgt+dfANTARGOMUKHA,BAHIRGOMUKHA
   ,VAMAGOMUKHA.abgt+TIRYAK+HEXIFORMemdf+emdf+RTHANGemdf+dfUBHAYATO MUKHA+ARDHAVISARGA
   +czARDHAVISARGA*eonbai*agre+rf+ATIKRAMA*eodxai+aldxai*agaldfANTARGOMUKHA@1D00&feaaadacA.AE
   *adaacrAE*aaadacsuB.C.D.ETH.E*adaacrejE.I*aaadacJ.K.Labau.M.bzN.O.ejO*adaaphO.ejO.Oabau,crOE
   *aaadacOU*adaalrcoO,hecoO*aaadacP.bzR.crR.T.U*adaaphU.DIAERESIZED U.crM*aaadacV.W.Z.EZH
   +svLARYNGEAL SPIRANT+nv&kaaaadaclh.qp.PI.qq.xw&knaaadacEL&fjaaacA,AE,B,suB,D,E,bzE,G,H,I,J,K,L
   ,M,N,bzN,O,OU,P,R,T,U,W+adA,crA,ic,crAE,B,D,E,vn,ejE,crejE,G,crI,K,M,ENG,O,ejO,lrcoO,hecoO,P,T
   ,U,phU,crM,V,nv,qe,kalh,mc,kasc,ss&fesfadaaI.R.U.V&kasfadaaqe.lh.qq.sc.ss&feadaaUE,Babbbcs
   ,Dabbbcs,Fabbbcs,Mabbbcs,Nabbbcs,Pabbbcs,Rabbbcs:tsapbbcs,Sabbbcs,Tabbbcs,Zabbbcs,crG&fjaaknEN
   &feadaajpG,THabSTRIKETHROUGH+acaaIabau+aakpabau,Pabau+acaaUabau+aagsabau,Babgpbo,Dabgpbo
   ,Fabgpbo,Gabgpbo,Kabgpbo,Labgpbo,Mabgpbo,Nabgpbo,Pabgpbo,Rabgpbo,Sabgpbo,xeabgpbo,Vabgpbo
   ,Xabgpbo,Zabgpbo,Aabdjbo,icabdjbo,Dabboapgt,Eabdjbo,ejEabdjbo,bzejEabdjbo,vnabdjbo,Iabdjbo
   ,ejOabdjbo,xeabdjbo,Uabdjbo,EZHabdjbo&fjaaadcric,C.aboe,ETH,bzejE,F,lxJabau,jcG,crH,Iabau,kp
   ,acI:abau,Jabky,Labdjbo:gpbo,acL,Mabbo,crMabemxv,Nabaobo:djbo,acN,suO,sc,Sabbo,xe,Tabgpbo,Ueb
   ,gs,acU,Vabbo,crV,Z.abdjbo:oe,EZH,kb&dvfzeffs+cyfs*SNAKEam*SUSPENSIONba*MACRON-ACUTE
   *GRAVE-MACRON*MACRON-GRAVE*ACUTE-MACRON*GRAVE-ACUTE-GRAVE*ACUTE-GRAVE-ACUTE*feadaaRam
   *BREVE-MACRON*MACRON-BREVE*albgai*naai*wjam*ISam*URai*USai*feadaaFLATTENEDejAai.AE.AO.AV.Cgo
   .jpD.ETH.G+aaadacG+adaaK.L+aaadacL:M+adaaN+aaadacN:R+adaaR ROTUNDA.S.emS.Z.ic.B.qe.vn.F
   .Labalbbcs.Oabclvfau.P.xe.Uabclvfau.W.Aabbs.Oabbs.Uabbs*UPjtai*KAVYKAaiah,ao*bvaiao
   *WIDEccBRIDGEam*bvamao*DELETIONba*alcceyam*mdcjTOam*aobwai*ahbwapcpbwam&feacaaAabdxam
   *adaaAabdxam*acaaBabbvai*adaaBabbvai*acaaBabbvam*adaaBabbvam*acaaBabfqam*adaaBabfqam
   *acaaCabgoapcy*adaaCabgoapcy*acaaDabbvai*adaaDabbvai*acaaDabbvam*adaaDabbvam*acaaDabfqam
   *adaaDabfqam*acaaDabgo*adaaDabgo*acaaDabbgam*adaaDabbgam*acaaEabdlapef*adaaEabdlapef
   *acaaEabdlapcy*adaaEabdlapcy*acaaEabbgam*adaaEabbgam*acaaEabcsam*adaaEabcsam*acaaEabgoapey
   *adaaEabgoapey*acaaFabbvai*adaaFabbvai*acaaGabdl*adaaGabdl*acaaHabbvai*adaaHabbvai*acaaHabbvam
   *adaaHabbvam*acaaHabbs*adaaHabbs*acaaHabgo*adaaHabgo*acaaHabeyam*adaaHabeyam*acaaIabcsam
   *adaaIabcsam*acaaIabbsapcy*adaaIabbsapcy*acaaKabcy*adaaKabcy*acaaKabbvam*adaaKabbvam
   *acaaKabfqam*adaaKabfqam*acaaLabbvam*adaaLabbvam*acaaLabbvamapdl*adaaLabbvamapdl*acaaLabfqam
   *adaaLabfqam*acaaLabbgam*adaaLabbgam*acaaMabcy*adaaMabcy*acaaMabbvai*adaaMabbvai*acaaMabbvam
   *adaaMabbvam*acaaNabbvai*adaaNabbvai*acaaNabbvam*adaaNabbvam*acaaNabfqam*adaaNabfqam
   *acaaNabbgam*adaaNabbgam*acaaOabcsapcy*adaaOabcsapcy*acaaOabcsapbs*adaaOabcsapbs*acaaOabdlapef
   *adaaOabdlapef*acaaOabdlapcy*adaaOabdlapcy*acaaPabcy*adaaPabcy*acaaPabbvai*adaaPabbvai
   *acaaRabbvai*adaaRabbvai*acaaRabbvam*adaaRabbvam*acaaRabbvamapdl*adaaRabbvamapdl*acaaRabfqam
   *adaaRabfqam*acaaSabbvai*adaaSabbvai*acaaSabbvam*adaaSabbvam*acaaSabcyapbvai*adaaSabcyapbvai
   *acaaSabggapbvai*adaaSabggapbvai*acaaSabbvamapbvai*adaaSabbvamapbvai*acaaTabbvai*adaaTabbvai
   *acaaTabbvam*adaaTabbvam*acaaTabfqam*adaaTabfqam*acaaTabbgam*adaaTabbgam*acaaUabbsam
   *adaaUabbsam*acaaUabcsam*adaaUabcsam*acaaUabbgam*adaaUabbgam*acaaUabcsapcy*adaaUabcsapcy
   *acaaUabdlapbs*adaaUabdlapbs*acaaVabcs*adaaVabcs*acaaVabbvam*adaaVabbvam*acaaWabef*adaaWabef
   *acaaWabcy*adaaWabcy*acaaWabbs*adaaWabbs*acaaWabbvai*adaaWabbvai*acaaWabbvam*adaaWabbvam
   *acaaXabbvai*adaaXabbvai*acaaXabbs*adaaXabbs*acaaYabbvai*adaaYabbvai*acaaZabbg*adaaZabbg
   *acaaZabbvam*adaaZabbvam*acaaZabfqam*adaaZabfqam,Habfqam,Tabbs,Wabdxai,Yabdxai,Aabahcodx
   ,emSabbvai;dsau;evau*acaaSHARP S*adaamc*acaaAabbvam*adaaAabbvam*acaaAabboai*adaaAabboai
   *acaaAabbgapcy*adaaAabbgapcy*acaaAabbgapef*adaaAabbgapef*acaaAabbgapboai*adaaAabbgapboai
   *acaaAabbgapcs*adaaAabbgapcs*acaaAabbgapbvam*adaaAabbgapbvam*acaaAabeyapcy*adaaAabeyapcy
   *acaaAabeyapef*adaaAabeyapef*acaaAabeyapboai*adaaAabeyapboai*acaaAabeyapcs*adaaAabeyapcs
   *acaaAabeyapbvam*adaaAabeyapbvam*acaaEabbvam*adaaEabbvam*acaaEabboai*adaaEabboai*acaaEabcs
   *adaaEabcs*acaaEabbgapcy*adaaEabbgapcy*acaaEabbgapef*adaaEabbgapef*acaaEabbgapboai
   *adaaEabbgapboai*acaaEabbgapcs*adaaEabbgapcs*acaaEabbgapbvam*adaaEabbgapbvam*acaaIabboai
   *adaaIabboai*acaaIabbvam*adaaIabbvam*acaaOabbvam*adaaOabbvam*acaaOabboai*adaaOabboai
   *acaaOabbgapcy*adaaOabbgapcy*acaaOabbgapef*adaaOabbgapef*acaaOabbgapboai*adaaOabbgapboai
   *acaaOabbgapcs*adaaOabbgapcs*acaaOabbgapbvam*adaaOabbgapbvam*acaaOabjsapcy*adaaOabjsapcy
   *acaaOabjsapef*adaaOabjsapef*acaaOabjsapboai*adaaOabjsapboai*acaaOabjsapcs*adaaOabjsapcs
   *acaaOabjsapbvam*adaaOabjsapbvam*acaaUabbvam*adaaUabbvam*acaaUabboai*adaaUabboai*acaaUabjsapcy
   *adaaUabjsapcy*acaaUabjsapef*adaaUabjsapef*acaaUabjsapboai*adaaUabjsapboai*acaaUabjsapcs
   *adaaUabjsapcs*acaaUabjsapbvam*adaaUabjsapbvam*acaaYabef*adaaYabef*acaaYabbvam*adaaYabbvam
   *acaaYabboai*adaaYabboai*acaaYabcs*adaaYabcs*acaaxoLL*adaaxoLL*acaaxoV*adaaxoV*acaaYabqz
   *adaaYabqz&kaadaaicabdw:dt:dwapel:dtapel:dwapgc:dtapgc:dwapci:dtapci*acaaicabdw:dt:dwapel
   :dtapel:dwapgc:dtapgc:dwapci:dtapci*adaahjabdw:dt:dwapel:dtapel:dwapgc:dtapgc@1F18*acaahjabdw
   :dt:dwapel:dtapel:dwapgc:dtapgc@1F20*adaaupabdw:dt:dwapel:dtapel:dwapgc:dtapgc:dwapci:dtapci
   *acaaupabdw:dt:dwapel:dtapel:dwapgc:dtapgc:dwapci:dtapci*adaakpabdw:dt:dwapel:dtapel:dwapgc
   :dtapgc:dwapci:dtapci*acaakpabdw:dt:dwapel:dtapel:dwapgc:dtapgc:dwapci:dtapci*adaajoabdw:dt
   :dwapel:dtapel:dwapgc:dtapgc@1F48*acaajoabdw:dt:dwapel:dtapel:dwapgc:dtapgc@1F50*adaagsabdw:dt
   :dwapel:dtapel:dwapgc:dtapgc:dwapci:dtapci@1F59*acaagsabdt@1F5B;apel@1F5D<gc@1F5F<ci*adaahkabdw
   :dt:dwapel:dtapel:dwapgc:dtapgc:dwapci:dtapci*acaahkabdw:dt:dwapel:dtapel:dwapgc:dtapgc:dwapci
   :dtapci*adaaicabel:gc,hjabel:gc,upabel:gc,kpabel:gc,joabel:gc,gsabel:gc,hkabel:gc
   @1F80,icabdwapcf:dtapcf:dwapelapcf:dtapelapcf:dwapgcapcf:dtapgcapcf:dwapciapcf:dtapciapcf
   *acaaicabdwapdc:dtapdc:dwapelapdc:dtapelapdc:dwapgcapdc:dtapgcapdc:dwapciapdc:dtapciapdc
   *adaaupabdwapcf:dtapcf:dwapelapcf:dtapelapcf:dwapgcapcf:dtapgcapcf:dwapciapcf:dtapciapcf
   *acaaupabdwapdc:dtapdc:dwapelapdc:dtapelapdc:dwapgcapdc:dtapgcapdc:dwapciapdc:dtapciapdc
   *adaahkabdwapcf:dtapcf:dwapelapcf:dtapelapcf:dwapgcapcf:dtapgcapcf:dwapciapcf:dtapciapcf
   *acaahkabdwapdc:dtapdc:dwapelapdc:dtapelapdc:dwapgcapdc:dtapgcapdc:dwapciapdc:dtapciapdc
   *adaaicabVRACHY:dl:elapcf:cf:gcapcf@1FB6:ci;apcf*acaaicabVRACHY:dl:el:gc:dc*KORONIS*dc*dw*ci
   *jnapci*adaaupabelapcf:cf:gcapcf@1FC6:ci;apcf*acaahjabel:gc,upabel:gc:dc*dwapel,gc,ci
   *adaakpabVRACHY:dl:jnapel<gc@1FD6:ci:jnapci*acaakpabVRACHY:dl:el:gc@1FDD*dtapel,gc,ci
   *adaagsabVRACHY:dl:jnapel<gc,qqabdw:dt,gsabci:jnapci*acaagsabVRACHY:dl:el:gc,qqabdt*jnapel,gc
   *el@1FF2*adaahkabelapcf:cf:gcapcf@1FF6:ci;apcf*acaajoabel:gc,hkabel:gc:dc*gc*dt"

end Collation.Unicode.Name
