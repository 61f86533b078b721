/-! Names of characters from U+10000 to U+11FFF: letters of scripts of the past. -/

namespace Collation.Unicode.Name

def ancients : String :=
  "@10000&LINEAR BjlB008 A,B038 E,B028 I,B061 O,B010 U,B001 DA,B045 DE,B007 DI,B014 DO,B051 DU
   ,B057 JA,B046 JE@1000D,B036 JO,B065 JU,B077 KA,B044 KE,B067 KI,B070 KO,B081 KU,B080 MA,B013 ME
   ,B073 MI,B015 MO,B023 MU,B006 NA,B024 NE,B030 NI,B052 NO,B055 NU,B003 PA,B072 PE,B039 PI
   ,B011 PO,B050 PU,B016 QA,B078 QE,B021 QI,B032 QO@10028,B060 RA,B027 RE,B053 RI,B002 RO,B026 RU
   ,B031 SA,B009 SE,B041 SI,B012 SO,B058 SU,B059 TA,B004 TE,B037 TI,B005 TO,B069 TU,B054 WA
   ,B075 WE,B040 WI,B042 WO@1003C,B017 ZA,B074 ZE@1003F,B020 ZO,B025 A2,B043 A3,B085 AU,B071 DWE
   ,B090 DWO,B048 NWA,B029 PU2,B062 PTE,B076 RA2,B033 RA3,B068 RO2,B066 TA2,B087 TWE,B091bl
   @10050+avB018,B019,B022,B034,B047,B049,B056,B063,B064,B079,B082,B083,B086,B089
   @10080+IDEOGRAM B100uu,B102 WOMAN,B104 DEER,B105 EQUID,B105F MARE,B105M STALLION,B106F EWE
   ,B106M RAM,B107F SHE-GOAT,B107M HE-GOAT,B108F SOW,B108M BOAR,B109F COW,B109M BULL,B120 WHEAT
   ,B121 BARLEY,B122 OLIVE,B123 SPICE,B125 CYPERUS+wsB127 KAPO,B128 KANAKO+IDEOGRAM B130 OIL
   ,B131 WINE,B132+wsB133 AREPA,B135 MERI+IDEOGRAM B140 BRONZE,B141 GOLD,B142,B145 WOOL,B146,B150
   ,B151js,B152,B153,B154+wsB156 TURO2+IDEOGRAM B157,B158,B159 CLOTH,B160,B161,B162 GARMENT
   ,B163 ARMOUR,B164,B165,B166,B167,B168,B169,B170,B171,B172,B173 MONTH,B174,B176 TREE,B177,B178
   ,B179,B180,B181,B182,B183,B184,B185,B189,B190,B191 HELMET,B220 FOOTSTOOL,B225 BATHTUB
   ,B230 SPEAR,B231af,B232,B233 SWORD,B234,B236,B240 WHEELED CHARIOT,B241 CHARIOT
   ,B242 CHARIOT FRAME,B243 WHEEL,B245,B246+wsB247 DIPTE+IDEOGRAM B248,B249,B251,B252,B253
   ,B254 DART,B255,B256,B257,B258,B259,VESSEL B155.B200.B201.B202.B203.B204.B205.B206.B207.B208
   .B209.B210.B211.B212.B213.B214.B215.B216.B217.B218.B219.B221.B222.B226.B227.B228.B229.B250.B305
   @10100&AEGEANtxgbfq,bv*tpba@10107*dobr+bl+at+bm+bt+du+by+bp+cu+gw+fl+jm+nk+ie+ny+fm+ne+ga+brbc
   +blbc+atbc+bmbc+btbc+dubc+bybc+bpbc+cubc+brbe+blbe+atbe+bmbe+btbe+dube+bybe+bpbe+cube+gwbe+flbe
   +jmbe+nkbe+iebe+nybe+fmbe+nebe+gabe@10137*WEIGHT BASE UNIT+yeuj+zwuj+sjuj+FOURTHuj
   *DRY MEASUREyeuj*LIQUID MEASUREyeuj*MEASUREzwuj+sjuj&kaACROPHONIC ATTICbrfr.co.DRACHMA,bt,ie
   ,btbc.be,iebe,btwg,gwwg,iewg,brbcwg,btbcwg,brbewg,btbewg.uk,gwuk,ieuk,brbcuk,btbcuk,brbeuk
   ,gwbeuk,iebeuk,gwMNAS+HERAEUMbrPLETHRON+wxbr+HERMIONIANbr+EPIDAUREANbl+wxbl+CYRENAICblDRACHMAS
   +EPIDAUREANblDRACHMAS+TROEZENIANbt,gw.gjae+HERMIONIANgw+MESSENIANgw+wxgw,jm+TROEZENIANie.gjae
   +HERMIONIANie+wxie,brbc,atbc+EPIDAUREANbtbc+TROEZENIANbtbc+wxbtbc+CARYSTIANbtbc+NAXIANbtbc
   +wxbrbe,btbe+DELPHICbtMNAS+STRATIANieMNAS*brcoag.gjae*blvaag*atjwag*YEARag*TALENTag*DRACHMAag
   *OBOLag*blOBOLSag*atOBOLSag*bmOBOLSag*btOBOLSag*METRETESag*KYATHOS BASEag*LITRAag*OUNKIAag
   *XESTESag*ARTABEag*AROURAag*GRAMMAag*TRYBLION BASEag*ehag*brfrag*SINUSOIDag*INDICTIONag
   &NOMISMAag@10190&ROMAN SEXTANSag*UNCIAag*SEMUNCIAag*SEXTULAag*DIMIDIA SEXTULAag*SILIQUAag
   *DENARIUSag*QUINARIUSag*SESTERTIUSag*DUPONDIUSag*ASag*CENTURIALag&ASCIAav@101A0&kaavxfqq
   @101D0&PHAISTOS DISCagPEDESTRIAN,PLUMEDqh,TATTOOEDqh,CAPTIVE,CHILD,WOMAN,HELMET,GAUNTLET,TIARA
   ,af,BOW,SHIELD,CLUB,MANACLES,MATTOCK,SAW,LID,BOOMERANG,CARPENTRY PLANE,DOLIUM,COMB,SLING,COLUMN
   ,BEEHIVE,SHIP,js,HIDE,BULLSxv,CAT,RAM,EAGLE,DOVE,TUNNY,BEE,PLANE TREE,VINE,PAPYRUS,ROSETTE,LILY
   ,OXxu,FLUTE,GRATER,STRAINER,adAXE,WAVY BAND,dvliau@10280&LYCIANaaA+E+B+BH+G+D+I+W+Z+TH+J+K+Q+L
   +M+N+MM+NN+U+P+KK+R+S+T+TT+AN+EN+H+X@102A0&CARIANaaA+P2+D+L+UUU+R+LD+A2+Q+B+M+O+D2+T+SH+SH2+S
   +C-18+U+NN+X+N+TT2+P+SS+I+E+UUUU+K+K2+ND+UU+G+G2+ST+ST2+NG+II+C-39+TT+UUU2+RR+MB+MB2+MB3+MB4
   +LD2+E2+UUU3@102E0&itEPACTpdba+ctbr,bl,at,bm,bt,du,by,bp,cu+dogw,fl,jm,nk,ie,ny,fm,ne,ga,brbc
   ,blbc,atbc,bmbc,btbc,dubc,bybc,bpbc,cubc@10300&jirgaaA,BE,KE,DE,E,VE,ZE,HE,mm,I,KA,EL,EM,EN,xe
   ,O,PE,nn,KU,ER,ES,TE,U,EKS,PHE,KHE,EF,ERS,st,II,UU,ESS+qdbr,bt,gw,ie@1032D+aaYE,NORTHERN TSE
   ,SOUTHERN TSE&GOTHICaaAHSA+BAIRKAN+GIBA+DAGS+AIHVUS+QAIRTHRA+IUJA+HAGL+THIUTH+EIS+KUSMA+LAGUS
   +MANNA+NAUTHS+JER+URUS+PAIRTHRA+ga+RAIDA+SAUIL+TEIWS+WINJA+FAIHU+IGGWS+HWAIR+OTHAL+cubc
   @10350&jiPERMICaaAN,BUR,GAI,DOI,E,ZHOI,DZHOI,ZATA,DZITA,I,KOKE,LEI,MENOE,NENOE,VOOI,PEEI,REI
   ,SII,TAI,U,CHERY,SHOOI,SHCHOOI,YRY,yv,O,OO,EF,HA,TSIU,VER,YER,YERI,YAT,IE,YU,YA,IA
   &dvjiPERMICaaAN.DOI.ZATA.NENOE.SII@10380&UGARITICaaALPA+qe+GAMLA+id+mc+HO+WO+vo+HOTA+TET+YOD+ox
   +lc+qp+vp+DHAL+kk+ZU+SAMKA+nv+PU+SADE+QOPA+RASHA+THANNA+nw+TO+I+U+SSU@1039F*txzu&jiPERSIANagA,I
   ,U,KA,KU,GA,GU,XA,CA,JA,JI,TA,TU,DA,DI,DU,iu,PA,BA,FA,NA,NU,MA,MI,MU,YA,VA,VI,RA,RU,LA,SA,ZA,hm
   ,lz,HA@103C8,AURAMAZDAA,AURAMAZDAA-2,AURAMAZDAAHA,XSHAAYATHIYA,DAHYAAUSH,DAHYAAUSH-2,BAGA
   ,BUUMISH+txzu+dobr,bl,gw,fl,bc@10400&DESERETacaaemI.E.A.AH.O.OO,ffI.E.A.AH.O.OO,AY,OW,WU,YEE,H
   ,PEE,BEE,TEE,DEE,CHEE,JEE,KAY,GAY,EF,VEE,ETH,THEE,ES,ZEE,xe,ZHEE,ER,EL,EM,EN,ENG,OI,EW*adaaemI
   .E.A.AH.O.OO,ffI.E.A.AH.O.OO,AY,OW,WU,YEE,H,PEE,BEE,TEE,DEE,CHEE,JEE,KAY,GAY,EF,VEE,ETH,THEE,ES
   ,ZEE,xe,ZHEE,ER,EL,EM,EN,ENG,OI,EW&SHAVIANaaPEEP+TOT+KICK+FEE+THIGH+SO+SURE+CHURCH+YEA+HUNG+BIB
   +DEAD+GAG+VOW+THEY+ZOO+MEASURE+JUDGE+WOE+HA-HA+LOLL+MIME+IF+EGG+kz+ADO+ON+WOOL+OUT+AH+ROAR+kk
   +EAT+AGE+ICE+UP+OAK+OOZE+OIL+AWE+ARE+OR+AIR+ERR+ARRAY+EAR+IAN+YEW&OSMANYAaadk+BA+TA+JA+XA+id
   +DEEL+RA+SA+SHIIN+kj+CAYN+GA+FA+QAAF+KAAF+LAAN+MIIN+NUUN+ml+HA+YA+A+E+I+O+U+AA+EE+OO@104A0*cteh
   +br+bl+at+bm+bt+du+by+bp+cu@104B0&OSAGEacaaA,AI,nv,AH,BRA,hw,EHCHA,E,EIN,HA,HYA,I,KA,EHKA,KYA
   ,LA,MA,NA,O,OIN,PA,EHPA,SA,hm,TA,EHTA,oy,EHTSA,tz,kj,U,WA,id,kl,ZA,ty@104D8*adaaA,AI,nv,AH,BRA
   ,hw,EHCHA,E,EIN,HA,HYA,I,KA,EHKA,KYA,LA,MA,NA,O,OIN,PA,EHPA,SA,hm,TA,EHTA,oy,EHTSA,tz,kj,U,WA
   ,id,kl,ZA,ty@10500&ELBASANaaA+BE+CE+st+DE+NDE+DHE+EI+E+FE+GE+GJE+HE+I+JE+KE+LE+LLE+ME+NE+NA+NJE
   +O+PE+QE+RE+RRE+SE+nn+TE+mm+U+VE+XE+Y+ZE+yu+xg+GHAMMA+KHE@10530&CAUCASIAN ALBANIANaaALT,BET,GIM
   ,DAT,EB,ZARL,EYN,ZHIL,TAS,hw,YOWD,ty,IRB,hm,LAN,INYA,XEYN,DYAN,CAR,JHOX,KAR,LYIT,HEYT,QAY,AOR
   ,CHOY,ss,CYAY,MAQ,QAR,NOWC,DZYAY,SHAK,JAYN,ON,TYAY,FAM,DZAY,CHAT,PEN,GHEYS,RAT,SEYK,VEYZ,TIWR
   ,SHOY,IWN,CYAW,CAYN,YAYD,PIWR,KIW@1056F+CITATIONba&VITHKUQIacaaA,BBE,BE,CE,st,DE,DHE,EI,E,FE,GA
   @1057C,HA,HHA,I,IJE,JE,KA,LA,qs,ME,NE,NJE,O,PE,QA,RE@1058C,SE,nn,TE,mm,U,VE,XE@10594,Y,ZE
   @10597*adaaA,BBE,BE,CE,st,DE,DHE,EI,E,FE,GA@105A3,HA,HHA,I,IJE,JE,KA,LA,qs,ME,NE,NJE,O,PE,QA,RE
   @105B3,SE,nn,TE,mm,U,VE,XE@105BB,Y,ZE@10600&LINEAR AagAB001,AB002,AB003,AB004,AB005,AB006,AB007
   ,AB008,AB009,AB010,AB011,AB013,AB016,AB017,AB020,AB021,AB021F,AB021M,AB022,AB022F,AB022M,AB023
   ,AB023M,AB024,AB026,AB027,AB028,A028B,AB029,AB030,AB031,AB034,AB037,AB038,AB039,AB040,AB041
   ,AB044,AB045,AB046,AB047,AB048,AB049,AB050,AB051,AB053,AB054,AB055,AB056,AB057,AB058,AB059
   ,AB060,AB061,AB065,AB066,AB067,AB069,AB070,AB073,AB074,AB076,AB077,AB078,AB079,AB080,AB081
   ,AB082,AB085,AB086,AB087,A100-102,AB118,AB120,A120B,AB122,AB123,AB131A,AB131B,A131C,AB164,AB171
   ,AB180,AB188,AB191,A301,A302,A303,A304,A305,A306,A307,A308,A309A,A309B,A309C,A310,A311,A312
   ,A313A,A313B,A313C,A314,A315,A316,A317,A318,A319,A320,A321,A322,A323,A324,A325,A326,A327,A328
   ,A329,A330,A331,A332,A333,A334,A335,A336,A337,A338,A339,A340,A341,A342,A343,A344,A345,A346,A347
   ,A348,A349,A350,A351,A352,A353,A354,A355,A356,A357,A358,A359,A360,A361,A362,A363,A364,A365,A366
   ,A367,A368,A369,A370,A371,A400-VAS,A401-VAS,A402-VAS,A403-VAS,A404-VAS,A405-VAS,A406-VAS
   ,A407-VAS,A408-VAS,A409-VAS,A410-VAS,A411-VAS,A412-VAS,A413-VAS,A414-VAS,A415-VAS,A416-VAS
   ,A417-VAS,A418-VAS,A501,A502,A503,A504,A505,A506,A508,A509,A510,A511,A512,A513,A515,A516,A520
   ,A521,A523,A524,A525,A526,A527,A528,A529,A530,A531,A532,A534,A535,A536,A537,A538,A539,A540,A541
   ,A542,A545,A547,A548,A549,A550,A551,A552,A553,A554,A555,A556,A557,A559,A563,A564,A565,A566,A568
   ,A569,A570,A571,A572,A573,A574,A575,A576,A577,A578,A579,A580,A581,A582,A583,A584,A585,A586,A587
   ,A588,A589,A591,A592,A594,A595,A596,A598,A600,A601,A602,A603,A604,A606,A608,A609,A610,A611,A612
   ,A613,A614,A615,A616,A617,A618,A619,A620,A621,A622,A623,A624,A626,A627,A628,A629,A634,A637,A638
   ,A640,A642,A643,A644,A645,A646,A648,A649,A651,A652,A653,A654,A655,A656,A657,A658,A659,A660,A661
   ,A662,A663,A664@10740,A701 A,A702 B,A703 D,A704 E,A705 F,A706 H,A707 J,A708 K,A709 L,A709-2 L2
   ,A709-3 L3,A709-4 L4,A709-6 L6,A710 W,A711 X,A712 Y,A713hk,A714 ABB,A715 BB,A717 DD,A726 EYYY
   ,A732 JE@10760,A800,A801,A802,A803,A804,A805,A806,A807@10780&fjaaadacAA+isfuiq,cofuiq+adAE,acB
   ,Babbo@10787,DZgv:abdjbo;oe,DEZHgv,Dabgt:bo;apgt,bzE,gmbzejE,FENGgv,RAMSjs,acG,Gabbo,acGabbo
   ,Habau,acH,HENGabbo,lxJabauapbo,LSgv,LZgv,Labyr,acLabyr,Labdjboapyr,LEZH.abdjbo,crY:abyr,Oabau
   ,acOE,gmhk,Q,crRabemxv=apdjbo,Rabgt:ts,acR,TCgvaboe,TSgv:abdjbo,TESHgv,Tabdjbo,Vabahbo
   @107B2,acY+guezabau+bzguezabau+BILABIALuo+DENTALuo+LATERALuo+ALVEOLARuo+djuoabdjbo+adSaboe
   @10800&CYPRIOTjlA+E+I+O+U+JA@10808+JO@1080A+KA+KE+KI+KO+KU+LA+LE+LI+LO+LU+MA+ME+MI+MO+MU+NA+NE
   +NI+NO+NU+PA+PE+PI+PO+PU+RA+RE+RI+RO+RU+SA+SE+SI+SO+SU+TA+TE+TI+TO+TU+WA+WE+WI+WO@10837+XA+XE
   @1083C+ZA@1083F+ZO&IMPERIAL ARAMAICaaod,sg,ol,te,HE,ml,qr,tw,TETH,ul,sy,nh,vp,kk,me,xk,PE,pg
   ,QOPH,vq,lc,yy@10857+hrag+dobr,bl,at,gw,fl,brbc.be,gwbe&PALMYRENEaaod+sg+ol+te+HE+ml+qr+tw+TETH
   +ul+sy+nh+vp+ankk+kk+me+xk+PE+pg+QOPH+vq+lc+yy*euFLEURON*eaFLEURON*dobr+bl+at+bm+bt+gw+fl
   &NABATAEANaaanod+od+ansg+sg+ol+te+anHE+HE+ml+qr+tw+TETH+anul+ul+ansy+sy+annh+nh+anvp+vp+ankk+kk
   +me+xk+PE+pg+QOPH+vq+anlc+lc+yy@108A7*dobr+bl+at+bm*CRUCIFORMdobm*dobt+gw+fl+brbc
   @108E0&HATRANaaod+sg+ol+DALETH-RESH+HE+ml+ZAYN+tw+TETH+ul+sy+nh+vp+kk+me+AYN+PE+pg+QOPH
   @108F4+lc+yy@108FB*dobr+bt+gw+fl+brbc&PHOENICIANaaALF+BET+GAML+DELT+HE+WAU+ZAI+HET+TET+YOD+ox
   +LAMD+vp+kk+SEMK+nv+PE+SADE+QOF+ROSH+lc+xf*dobr+gw+fl+brbc+bl+at@1091F*txgb&LYDIANaaA+B+G+D+E+V
   +I+Y+K+L+M+N+O+R+SS+T+U+F+Q+S+TT+AN+EN+LY+NN+C@1093F*fuba@10980&MEROITIC HIEROGLYPHICaaA,E,I,O
   ,YA,WA,BA,BA-2,PA,MA,NA,NA-2,NE,NE-2,RA,RA-2,LA,id,HHA,SA,SA-2,SE,KA,QA,TA,TA-2,TE,TE-2,TO,DA
   +avVIDJ,VIDJ-2*CURSIVEaaA,E,I,O,YA,WA,BA,PA,MA,NA,NE,RA,LA,id,HHA,SA,jgSA,SE,KA,QA,TA,TE,TO,DA
   @109BC+ifpxoi,brco+LOGOGRAM RMT,IMN+dobr,bl,at,bm,bt,du,by,bp,cu,gw,fl,jm,nk,ie,ny,fm
   @109D2,brbc,blbc,atbc,bmbc,btbc,dubc,bybc,bpbc,cubc,brbe,blbe,atbe,bmbe,btbe,dube,bybe,bpbe
   ,cube,gwbe,flbe,jmbe,nkbe,iebe,nybe,fmbe,nebe,gabe,brbcbe,blbcbe,atbcbe,bmbcbe,btbcbe,dubcbe
   ,bybcbe,bpbcbe,cubcbe+ifbrTWELFTH,bloi,atoi,bmoi,btoi,duoi,byoi,bpoi,cuoi,gwoi&KHAROSHTHIaaA
   *ckagI,U,ddR@10A05,E,O@10A0C+ndba*agaldxam+df+fb*aaKA+id+GA+kl@10A15+CA+hw+JA@10A19+hz+jx+ip+kc
   +ja+la+TA+iu+DA+kj+NA+PA+jh+BA+le+MA+YA+RA+LA+VA+hm+lz+SA+ZA+HA+KKA+TTTHA+TTTA+VHA@10A38*agebai
   +CAUDA+bvam@10A3F*fk*ctbr+bl+at+bm*dogw+fl+brbc,be*ifbrco@10A50*cnbv+adbu+bu+wreb+MANGALAM
   +LOTUS+jb+aljb+LINES@10A60&jigqARABIANaaHE.nh.tw.vp.QOPH.ml.lc.vq.sg.yy.SAT.sy.kk.KHETH.pg.me
   .FE.dk.AYN.DHADHE.ol.te.GHAYN.TETH.ZAYN.DHALETH.ul.THAW.THETH,dobr.ie,NUMERICpb*fvARABIANaapf
   .mp.ge.cg.rd.ml.ES-2.ok.vk.vs.ES-1.ox.jd.hb.tm.ES-3.tk.dk.nv.vt.GEEM.DAL.nw.qf.tv.THAL.ep.xl
   .ZAH,dobr.gw.fl@10AC0&MANICHAEANaaod+sg+BHETH+ol+GHIMEL+te+HE+ml*agUD*aaqr+ZHAYIN+JAYIN+JHAYIN
   +tw+TETH+ul+sy+XAPH+KHAPH+nh+DHAMEDH+THAMEDH+vp+kk+me+xk+AAYIN+PE+FE+pg+QOPH+XOPH+QHOPH+vq+lc
   +SSHIN+yy*fwbaai,am@10AEB*dobr+bt+gw+fl+brbc*cngk+FLEURON+albvzabv+bvzabv,+bldb+fquw
   @10B00&AVESTANaaA+AA+AO+AAO+AN+AAN+AE+AEE+E+EE+O+OO+I+II+U+UU+KE+XE+XYE+XVE+GE+GGE+xg+CE+JE+TE
   +mm+DE+DHE+TTE+PE+FE+BE+BHE+NGE+NGYE+NGVE+NE+NYE+NNE+ME+HME+YYE+YE+VE+RE+LE+SE+ZE+nn+yu+SHYE
   +SSHE+HE@10B39*fwba&TINYbldbdgbrbvcn&adbldbdgbrbvcn&eebldbdgbrbvcn*brbvdgbldbcn*blRINGSdgbrdxcn
   *brdxdgblRINGScn&INSCRIPTIONAL PARTHIANaaod,sg,ol,te,HE,ml,qr,tw,TETH,ul,sy,nh,vp,kk,me,xk,PE
   ,pg,QOPH,vq,lc,yy@10B58+dobr,bl,at,bm,gw,fl,brbc.be*PAHLAVIaaod,sg,ol,te,HE,WAW-AYIN-RESH,qr,tw
   ,TETH,ul,sy,nh,MEM-QOPH,kk,me,PE,pg,lc,yy@10B78+dobr,bl,at,bm,gw,fl,brbc.be&PSALTER PAHLAVIaaod
   ,sg,ol,te,HE,WAW-AYIN-RESH,qr,tw,ul,sy,nh,MEM-QOPH,kk,me,PE,pg,lc,yy@10B99+hrba+crhrba+bmdbabgd
   :bv@10BA9+dobr,bl,at,bm,gw,fl,brbc@10C00&jiTURKICaahpA,gxA.AE,hpI,gxI.E,hpO.OE,gxOE,hpAB,gxAB
   ,hpAEB,gxAEB,hpAG,gxAG,hpAEG,gxAEG,hpAD,gxAD,hpAED.EZ,gxEZ,hpAY,gxAY,hpAEY,gxAEY,hpAEK,gxAEK
   ,hpOEK,gxOEK,hpAL,gxAL,hpAEL.ELT.EM.AN.AEN,gxAEN,hpENT,gxENT,hpENC,gxENC,hpENY,gxENY.ANG,hpENG
   ,gxAENG,hpEP.OP.IC.EC,gxEC,hpAQ,gxAQ,hpIQ,gxIQ,hpOQ,gxOQ,hpAR,gxAR,hpAER.AS.AES.kz,gxkz,hpxe
   ,gxxe,hpAT,gxAT,hpAET,gxAET,hpOT.BASH@10C80*HUNGARIANacaaA.AA.EB.AMB.EC.ENC.ECS.ED.ap.E.CLOSE E
   .EE.EF.EG.EGY.EH.I.II.EJ.EK.AK.UNK.EL.ELY.EM.EN.ENY.O.OO.NIKOLSBURG OE.RUDIMENTA OE.OEE.EP.EMP
   .ER.ffER.ES.ESZ.ET.ENT.ETY.ECH.U.UU.NIKOLSBURG UE.RUDIMENTA UE.EV.EZ.EZS.ENT-SHAPEDag.US
   @10CC0+adaaA.AA.EB.AMB.EC.ENC.ECS.ED.ap.E.CLOSE E.EE.EF.EG.EGY.EH.I.II.EJ.EK.AK.UNK.EL.ELY.EM
   .EN.ENY.O.OO.NIKOLSBURG OE.RUDIMENTA OE.OEE.EP.EMP.ER.ffER.ES.ESZ.ET.ENT.ETY.ECH.U.UU
   .NIKOLSBURG UE.RUDIMENTA UE.EV.EZ.EZS.ENT-SHAPEDag.US@10CFA+dobr,bt,gw,ie,brbc.be
   &HANIFI ROHINGYAaaA,BA,PA,TA,jx,JA,CA,HA,id,FA,DA,kc,RA,vl,ZA,SA,hm,KA,GA,LA,MA,NA,WA,KINNA WA
   ,YA,KINNA YA,hl,hz,VA+ckA,I,U,E,O+baSAKIN,NA KHONNA+agHARBAHAY,TAHALA,TANA,TASSI@10D30+cteh,br
   ,bl,at,bm,bt,du,by,bp,cu@10E60&RUMIctbr+bl+at+bm+bt+du+by+bp+cu*dogw+fl+jm+nk+ie+ny+fm+ne+ga
   +brbc+blbc+atbc+bmbc+btbc+dubc+bybc+bpbc+cubc*ifbrco,fr,sj+blva@10E80&YEZIDIaaELIF+BE+PE+PHE+mm
   +SE+CIM+CHIM+CHHIM+HHA+XA+DAL+ZAL+RA+RHA+ZA+JA+SIN+lc+tm+vt+TA+ZE+EYN+XHEYN+FA+VA,gjae+rd+ox
   +KHAF+GAF+mp+MIM+kk+UM+ml+OW+EW+HAY+YOT+ET@10EAB*dvhnba+xxba*HYPHENATIONba@10EB0*aampabbvai
   +YOTabbgai@10F00&jiSOGDIANaaod,anod,sg,ansg,ol,HE,anHE,ml,qr,tw,ul,sy,nh,vp,kk,ankk:abargt,me
   ,xk,gjxk,PE,pg,anpg:abargt,RESH-AYIN-DALETH,lc,yy,anyy:abargt+dobr,bl,at,bm,bt,gw,fl,jm,brbc
   +ifbrco+exAYIN-DALETH@10F30&SOGDIANaaod+sg+ol+HE+ml+qr+tw+ul+sy+nh+vp+kk+me+xk+PE+pg+RESH-AYIN
   +lc+yy+FETH+LESH*nflc*dvbvam+bldbam+bvai+bldbai+nlai,am+boai,am+emboam+vqam+auam*dobr+gw+fl
   +brbc*cnblarBARS:abdb+buabbv+blmxabdb+cobuabbv@10F70&jiUYGHURaaod,sg,GIMEL-HETH,ml,qr,antw,ul
   ,sy,nh,vp,kk,me,PE,pg,vq,lc,yy,LESH+dvbvai.am,bldbai:am+cneb,blBARS.db,bmdb
   @10FB0&CHORASMIANaaod+adod+sg+ol+te+HE+ml+CURLEDml+qr+tw+ul+sy+nh+vp+kk+me+xk+PE+vq+lc+yy*dobr
   +bl+at+bm+gw+fl+brbc@10FE0&ELYMAICaaod+sg+ol+te+HE+ml+qr+tw+TETH+ul+sy+nh+vp+kk+me+xk+PE+pg
   +QOPH+vq+lc+yy*exZAYIN-YODH@11000&BRAHMIagdz+df+fb+re+rf*aaA+AA+I+II+U+UU+ddR,RR,L,LL+E+AI+O+AU
   +KA+id+GA+kl+hl+CA+hw+JA+nc+hz+jx+ip+kc+ja+la+TA+iu+DA+kj+NA+PA+jh+BA+le+MA+YA+RA+LA+VA+hm+lz
   +SA+HA+qs+jiTAMIL LLLA.vl.NNNA*ckagAA,BHATTIPROLU AA,I,II,U,UU,ddR.RR.L.LL,E,AI,O,AU*fk*jb*aljb
   *cnbv+albv+fq+wreb+LOTUS@11052*dobr+bl+at+bm+bt+du+by+bp+cu+gw+fl+jm+nk+ie+ny+fm+ne+ga+brbc,be
   *cteh+br+bl+at+bm+bt+du+by+bp+cu*agjiTAMILfk*aajiTAMILffE:O*ckagjiTAMILffE;O*aajiTAMILqs
   @1107F*doys&KAITHIagdz+df+fb*aaA+AA+I+II+U+UU+E+AI+O+AU+KA+id+GA+kl+hl+CA+hw+JA+nc+hz+jx+ip+kc
   +DDDHA+ja+RHA+la+TA+iu+DA+kj+NA+PA+jh+BA+le+MA+YA+RA+LA+VA+hm+lz+SA+HA*ckagAA,I,II,U,UU,E,AI,O
   ,AU*agfk+kd*fwag*ENUMERATIONag*doag*hrba*alhrba*jb*aljb*ckagddR@110CD*doagai
   @110D0&SORA SOMPENGaaSAH,qf,BAH,CAH,DAH,GAH,MAH,NGAH,LAH,NAH,VAH,PAH,YAH,RAH,ge,KAH,JAH,NYAH,AH
   ,EEH,IH,UH,OH,EH,MAE@110F0+cteh,br,bl,at,bm,bt,du,by,bp,cu@11100&CHAKMAagdz+df+fb*aaAA+I+U+E
   +KAA+KHAA+GAA+GHAA+NGAA+CAA+CHAA+JAA+JHAA+NYAA+TTAA+TTHAA+DDAA+DDHAA+NNAA+TAA+THAA+DAA+DHAA+NAA
   +PAA+PHAA+BAA+BHAA+MAA+YYAA+YAA+RAA+LAA+WAA+SAA+HAA*ckagA,I,II,U,UU,E,AI,O,AU,OI*Oba*AUba*fk
   *MAAYYAA@11136*cteh+br+bl+at+bm+bt+du+by+bp+cu*hrba*jb*aljb*fpba*aaLHAA*ckagAA,EI*aaVAA
   @11150&MAHAJANIaaA+I+U+E+O+KA+id+GA+kl+CA+hw+JA+nc+hz+jx+ip+kc+ja+la+TA+iu+DA+kj+NA+PA+jh+BA+le
   +MA+RA+LA+VA+SA+HA+vl*agkd*fwag*hrba*exSHRI@11180&SHARADAagdz+df+fb*aaA+AA+I+II+U+UU+ddR,RR,L
   ,LL+E+AI+O+AU+KA+id+GA+kl+hl+CA+hw+JA+nc+hz+jx+ip+kc+ja+la+TA+iu+DA+kj+NA+PA+jh+BA+le+MA+YA+RA
   +LA+qs+VA+hm+lz+SA+HA*ckagAA,I,II,U,UU,ddR.RR.L.LL,E,AI,O,AU*agfk+jk+re+rf*OM*jb*aljb*fwag*gb
   *SANDHIba*agkd*ckfjba*EXTRAffckba*SUTRAba*ckagPRISHTHAMATRA E*agccdz*cteh+br+bl+at+bm+bt+du+by
   +bp+cu*EKAM*agvv*HEADSTROKE*CONTINUATIONag*hrMARK-1+MARK-2@111E1&SINHALAjgctbr,bl,at,bm,bt,du
   ,by,bp,cu+dogw,fl,jm,nk,ie,ny,fm,ne,ga,brbc.be@11200&KHOJKIaaA+AA+I+U+E+AI+O+AU+KA+id+GA+GGA+kl
   +hl+CA+hw+JA+JJA@11213+hz+jx+ip+kc+ja+la+TA+iu+DA+DDDA+kj+NA+PA+jh+BA+BBA+le+MA+YA+RA+LA+VA+SA
   +HA+qs*ckagAA,I,II,U,E,AI,O,AU*agdf+fk+kd+SHADDA*jb*aljb*txgb*hrba*alhrba*fwag*agSUKUN
   @11280&MULTANIaaA+I+U+E+KA+id+GA@11288+kl@1128A+CA+hw+JA+JJA@1128F+hz+jx+ip+kc+DDDA+ja+la+TA+iu
   +DA+kj+NA+PA+jh+BA@1129F+le+MA+YA+RA+LA+VA+SA+HA+vl+RHA*hrba@112B0&KHUDAWADIaaA+AA+I+II+U+UU+E
   +AI+O+AU+KA+id+GA+GGA+kl+hl+CA+hw+JA+JJA+nc+hz+jx+ip+kc+DDDA+vl+ja+la+TA+iu+DA+kj+NA+PA+jh+BA
   +BBA+le+MA+YA+RA+LA+VA+hm+SA+HA*agdf*ckagAA,I,II,U,UU,E,AI,O,AU*agkd+fk@112F0*cteh+br+bl+at+bm
   +bt+du+by+bp+cu@11300&GRANTHAagdvdfai+dz+df+fb@11305*aaA+AA+I+II+U+UU+ddR,L@1130F+EE+AI
   @11313+OO+AU+KA+id+GA+kl+hl+CA+hw+JA+nc+hz+jx+ip+kc+ja+la+TA+iu+DA+kj+NA@1132A+PA+jh+BA+le+MA
   +YA+RA@11332+LA+qs@11335+VA+hm+lz+SA+HA@1133B&dvBINDUam&GRANTHAagkd+jk*ckagAA,I,II,U,UU,ddR.RR
   @11347,EE,AI@1134B,OO,AU*agfk@11350*OM@11357*AUndba@1135D*agPLUTA*aaVEDICdf,aldf+ddRR,LL
   *ckagddL.LL@11366&dvGRANTHActeh,br,bl,at,bm,bt,du@11370+aaA,KA,NA,VI,PA@11400&NEWAaaA+AA+I+II+U
   +UU+ddR,RR,L,LL+E+AI+O+AU+KA+id+GA+kl+hl+NGHA+CA+hw+JA+nc+hz+NYHA+jx+ip+kc+ja+la+TA+iu+DA+kj+NA
   +NHA+PA+jh+BA+le+MA+MHA+YA+RA+RHA+LA+LHA+WA+hm+lz+SA+HA*ckagAA,I,II,U,UU,ddR.RR.L.LL,E,AI,O,AU
   *agfk+dz+df+fb+kd+jk+andf*OM*SIDDHI*jb*aljb*en*GAPuw*fwag*cteh+br+bl+at+bm+bt+du+by+bp+cu*alen
   *PLACEHOLDERba@1145D*INSERTIONag*SANDHIba*aaVEDICdf*agre+rf@11480&TIRHUTA ANJI*aaA+AA+I+II+U+UU
   +ddR,RR,L,LL+E+AI+O+AU+KA+id+GA+kl+hl+CA+hw+JA+nc+hz+jx+ip+kc+ja+la+TA+iu+DA+kj+NA+PA+jh+BA+le
   +MA+YA+RA+LA+VA+hm+lz+SA+HA*ckagAA,I,II,U,UU,ddR.RR.L.LL,E,ffE,AI,O,ffO,AU*agdz+df+fb+fk+kd+jk
   *GVANG*fwag*OM@114D0*cteh+br+bl+at+bm+bt+du+by+bp+cu@11580&vvaaA+AA+I+II+U+UU+ddR,RR,L,LL+E+AI
   +O+AU+KA+id+GA+kl+hl+CA+hw+JA+nc+hz+jx+ip+kc+ja+la+TA+iu+DA+kj+NA+PA+jh+BA+le+MA+YA+RA+LA+VA+hm
   +lz+SA+HA*ckagAA,I,II,U,UU,ddR.RR@115B8,E,AI,O,AU*agdz+df+fb+fk+kd+vv*jb*aljb*gbbv+eb
   *REPETITION MARK-1+MARK-2+MARK-3*owOF TEXTba*hrbaabTRIDENTapU-SHAPED ORNAMENTS;fzpr.RAYSapfzpr
   <alpr<ewpr,aldx:abRAYS,abalpr.ewpr.lupr.SEPTUPLEpr.mxapRAYS;blENCLOSURES;bmENCLOSURES
   *aaTHREE-CIRCLEgjI+TWO-CIRCLEgjI.II+gjU*ckaggjU.UU@11600&MODIaaA+AA+I+II+U+UU+ddR,RR,L,LL+E+AI
   +O+AU+KA+id+GA+kl+hl+CA+hw+JA+nc+hz+jx+ip+kc+ja+la+TA+iu+DA+kj+NA+PA+jh+BA+le+MA+YA+RA+LA+VA+hm
   +lz+SA+HA+qs*ckagAA,I,II,U,UU,ddR.RR.L.LL,E,AI,O,AU*agdf+fb+fk+ARDHACANDRA*jb*aljb*fwag*agHUVA
   @11650*cteh+br+bl+at+bm+bt+du+by+bp+cu@11660&MONGOLIANvxabda*czvx*alvxabda*ewvxabda*vxabalda
   *czvxabda.alda*ccvx,abalda*SWIRLvx,abda.alda*crSWIRLvxabalda@11680&TAKRIaaA+AA+I+II+U+UU+E+AI+O
   +AU+KA+id+GA+kl+hl+CA+hw+JA+nc+hz+jx+ip+kc+ja+la+TA+iu+DA+kj+NA+PA+jh+BA+le+MA+YA+RA+LA+VA+hm
   +SA+HA+vl*agdf+fb*ckagAA,I,II,U,UU,E,AI,O,AU*agfk+kd*aajgid*fwag@116C0*cteh+br+bl+at+bm+bt+du
   +by+bp+cu@11700&AHOMaaKA+id+hl+NA+TA+gjTA+PA+jh+BA+MA+JA+hw+iu+RA+LA+SA+hz+HA+A+DA+kj+GA+gjGA
   +kl+le+nc+gjBA@1171D*ghagceLA.RA.LIGATING RA*ckagA,AA,I,II,U,UU,E,AW,O,AI,AM*agKILLER
   @11730*cteh+br+bl+at+bm+bt+du+by+bp+cu*dogw+fl*agadhr+hr+RULAI*avVI*aaCA+jx+ip+kc+ja+la+qs
   @11800&DOGRAaaA+AA+I+II+U+UU+E+AI+O+AU+KA+id+GA+kl+hl+CA+hw+JA+nc+hz+jx+ip+kc+ja+la+TA+iu+DA+kj
   +NA+PA+jh+BA+le+MA+YA+RA+LA+VA+hm+lz+SA+HA+vl*ckagAA,I,II,U,UU,ddR.RR,E,AI,O,AU*agdf+fb+fk+kd
   *fwag@118A0&WARANG CITIacaaNGAA.A.WI.YU.YA.YO.II.UU.E.O.ANG.GA.KO.ENY.YUJ.UC.ENN.ODD.TTE.NUNG
   .DA.AT.AM.BU.PU.HIYO.HOLO.HORR.HAR.SSUU.SII.VIYO+adaaNGAA.A.WI.YU.YA.YO.II.UU.E.O.ANG.GA.KO.ENY
   .YUJ.UC.ENN.ODD.TTE.NUNG.DA.AT.AM.BU.PU.HIYO.HOLO.HORR.HAR.SSUU.SII.VIYO+cteh,br,bl,at,bm,bt,du
   ,by,bp,cu+dogw,fl,jm,nk,ie,ny,fm,ne,ga@118FF+OM&DIVES AKURUaaA,AA,I,II,U,UU,E@11909,O@1190C,KA
   ,id,GA,kl,hl,CA,hw,JA@11915,hz,jx@11918,kc,ja,la,TA,iu,DA,kj,NA,PA,jh,BA,le,MA,YA,YYA,RA,LA,VA
   ,hm,lz,SA,HA,qs,ZA+ckagAA.I.II.U.UU.E@11937.AI.O@1193B+agdf,dz,HALANTA+fk+PREFIXED NASALag+ceYA
   +asRA+ceRA+agkd+aljb+GAPuw+owOF TEXTba@11950+cteh,br,bl,at,bm,bt,du,by,bp,cu
   @119A0&NANDINAGARIaaA+AA+I+II+U+UU+ddR,RR@119AA+E+AI+O+AU+KA+id+GA+kl+hl+CA+hw+JA+nc+hz+jx+ip
   +kc+ja+la+TA+iu+DA+kj+NA+PA+jh+BA+le+MA+YA+RA+LA+VA+hm+lz+SA+HA+qs+vl*ckagAA,I,II,U,UU,ddR.RR
   @119DA,E,AI,O,AU*agdf+fb+fk+jk+vv*HEADSTROKE*ckagPRISHTHAMATRA E@11A00&ZANABAZARbnaaA+ckagI.UE
   .U.E.OE.O.AI.AU.bzI,ndba+aaKA,id,GA,kl,hl,CA,hw,JA,hz,jx,ip,kc,ja,la,TA,iu,DA,kj,NA,PA,jh,BA,le
   ,MA,oy,tz,DZA,DZHA,ty,ZA,-A,YA,RA,LA,VA,hm,lz,SA,HA,KSSA+anghba+agfk,dz.abda,nbabda,df,fb
   +CLUSTER-INITIALaaRA+CLUSTER-FINALaaYA.RA.LA.VA+asqhba+CLOSINGqhba+baur,sz,alsz,emur
   +asDOUBLE-LINEDqhba+CLOSING DOUBLE-LINEDqhba+SUBJOINER@11A50&SOYOMBOaaA*ckagI,UE,U,E,O,OE,AI,AU
   ,ddR.L+ndba*aaKA+id+GA+kl+hl+CA+hw+JA+nc+hz+jx+ip+kc+ja+la+TA+iu+DA+kj+NA+PA+jh+BA+le+MA+oy+tz
   +DZA+ty+ZA+-A+YA+RA+LA+VA+hm+lz+SA+HA+KSSA*agre+rf*CLUSTER-INITIALaaRA,LA,hm,SA*anghagG.K.NG.D
   .N.B.M.R.L.SH.S.-A*agdf+fb*vuba*SUBJOINER*baur+sz+alsz+PLUTA*qhbaabmgapSUNapewFLAME=FLAME<
   *TERMINAL MARK-1+MARK-2@11AB0&CANADIAN SYLLABICS NATTILIK HI,HII,HO,HOO,HA,HAA,SHRI,SHRII,SHRO
   ,SHROO,SHRA,SHRAA+SPE+SPI+SPO+SPA&PAU CIN HAUaaPA.KA.LA.MA.DA.ZA.VA.hl.HA.GA.id.SA.BA.CA.TA.iu
   .NA.jh.RA.FA.hw.A.E.I.O.U.UA.IA.anP:K:T:M:N:L:W:NG:Y,omeoem:,SANDHIguez,omeoeman:an
   ,SANDHIguezan.eoem::eman:an,MID-LEVELeo,guezii,MID-LEVELeoeman:an,LOW-FALLINGeoem:,guez
   ,LOW-FALLINGeoeman:an,guezan@11C00&BHAIKSUKIaaA+AA+I+II+U+UU+ddR,RR,L@11C0A+E+AI+O+AU+KA+id+GA
   +kl+hl+CA+hw+JA+nc+hz+jx+ip+kc+ja+la+TA+iu+DA+kj+NA+PA+jh+BA+le+MA+YA+RA+LA+VA+hm+lz+SA+HA
   *ckagAA,I,II,U,UU,ddR.RR.L@11C38,E,AI,O,AU*agdz+df+fb+fk+jk*jb*aljb*txgb*GAP FILLER-1+FILLER-2
   @11C50*cteh+br+bl+at+bm+bt+du+by+bp+cu*dobr+bl+at+bm+bt+du+by+bp+cu+gw+fl+jm+nk+ie+ny+fm+ne+ga
   *HUNDREDS UNITba@11C70&MARCHENqhba*basz*aaKA+id+GA+hl+CA+hw+JA+hz+TA+iu+DA+NA+PA+jh+BA+MA+oy+tz
   +DZA+WA+ty+ZA+-A+YA+RA+LA+hm+SA+HA+A@11C92*usaaKA,id,GA,hl,CA,hw,JA,hz,TA,iu,DA,NA,PA,jh,BA,MA
   ,oy,tz,DZA,WA,ty,ZA@11CA9,YA,RA,LA,hm,SA,HA,A*ckagAA,I,U,E,O*agdf+dz@11D00&MASARAM GONDIaaA,AA
   ,I,II,U,UU,E@11D08,AI,O@11D0B,AU,KA,id,GA,kl,hl,CA,hw,JA,nc,hz,jx,ip,kc,ja,la,TA,iu,DA,kj,NA,PA
   ,jh,BA,le,MA,YA,RA,LA,VA,hm,lz,SA,HA,qs,KSSA,JNYA,TRA+ckagAA.I.II.U.UU.ddR@11D3A.E@11D3C.AI.O
   @11D3F.AU+agdf,fb,kd,nb,HALANTA+fk+REPHA+RA-KARA@11D50+cteh,br,bl,at,bm,bt,du,by,bp,cu
   @11D60&GUNJALA GONDIaaA,AA,I,II,U,UU@11D67,EE,AI@11D6A,OO,AU,YA,VA,BA,le,MA,KA,id,TA,iu,LA,GA
   ,kl,DA,kj,NA,CA,hw,jx,ip,qs,JA,nc,kc,ja,hl,PA,jh,HA,RA,SA+ckagAA.I.II.U.UU@11D90.EE.AI@11D93.OO
   .AU+agdf,fb+fk+OM@11DA0+cteh,br,bl,at,bm,bt,du,by,bp,cu@11EE0&MAKASARaaKA+GA+hl+PA+BA+MA+TA+DA
   +NA+CA+JA+hz+YA+RA+LA+VA+SA+A*ANGKA*ckagI,U,E,O*PASSIMBANG*owOFhr@11FB0&LISUaaYHA
   @11FC0&TAMILifbrTHREE-HUNDRED-AND-TWENTIETH,ONE-HUNDRED-AND-SIXTIETH,EIGHTIETH,SIXTY-FOURTH
   ,FORTIETH,THIRTY-SECOND+atEIGHTIETHS,SIXTY-FOURTHS+brTWENTIETH,SIXTEENTH-1,SIXTEENTH-2,TENTH,ia
   +atTWENTIETHS,SIXTEENTHS+brFIFTH,fr,HALF-1,HALF-2+atjw+DOWNSCALING FACTOR KIIZH*agNEL+CEVITU
   +AAZHAAKKU+UZHAKKU+MUUVUZHAKKU+KURUNI+PATHAKKU+MUKKURUNI+KAACU+PANAM+PON+VARAAKAN+PAARAM+KUZHI
   +VELI*WET CULTIVATIONag*DRY CULTIVATIONag*LANDag*SALT PANag*TRADITIONAL CREDITag+doag*CURRENTag
   *apODDag*SPENTag*TOTALag*IN POSSESSIONag*STARTINGkuag*agMUTHALIYA+VAKAIYARAA@11FFF*cnowOF TEXT"

end Collation.Unicode.Name
