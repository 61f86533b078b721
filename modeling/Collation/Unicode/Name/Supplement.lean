/-! Names of characters from U+2C00 to U+FFFF: further letters, and forms of letters. -/

namespace Collation.Unicode.Name

def supplements : String :=
  "@2C00&GLAGOLITICacaaAZU,BUKY,VEDE,GLAGOLI,DOBRO,YESTU,ZHIVETE,DZELO,ZEMLJA,IZHE,asIZHE,I,DJERVI
   ,KAKO,LJUDIJE,MYSLITE,NASHI,ONU,POKOJI,RITSI,SLOVO,TVRIDO,UKU,FRITU,HERU,OTU,PE,SHTA,TSI,CHRIVI
   ,hm,yv,YERI,YATI,SPIDERY HA,YU,adpc:abgt,YO,ztadpc,BIGpc,ztBIGpc,FITA,yw,SHTAPIC,TROKUTASTI A
   ,LATINATE MYSLITE,CAUDATE CHRIVI*adaaAZU,BUKY,VEDE,GLAGOLI,DOBRO,YESTU,ZHIVETE,DZELO,ZEMLJA
   ,IZHE,asIZHE,I,DJERVI,KAKO,LJUDIJE,MYSLITE,NASHI,ONU,POKOJI,RITSI,SLOVO,TVRIDO,UKU,FRITU,HERU
   ,OTU,PE,SHTA,TSI,CHRIVI,hm,yv,YERI,YATI,SPIDERY HA,YU,adpc:abgt,YO,ztadpc,BIGpc,ztBIGpc,FITA,yw
   ,SHTAPIC,TROKUTASTI A,LATINATE MYSLITE,CAUDATE CHRIVI&feacaaLabaleb*adaaLabaleb*acaaLabbbcs
   ,Pabau,Rabgt*adaaAabau,Tabdsau*acaaHabdq*adaaHabdq*acaaKabdq*adaaKabdq*acaaZabdq*adaaZabdq
   *acaaic,Mabbo,crA.ic*adaaVabahbo*acaaWabbo*adaaWabbo,Vaboe*acaacoH*adaacoH,TAILLESSsc,EabNOTCH
   ,crRabgt,Oabftdxkr*aaadaccrE*sfadaaJ&fjaaacV&feacaaSabSWASHgt,ZabSWASHgt&itacaaALFA*adaaALFA
   *acaaVIDA*adaaVIDA*acaalh*adaalh*acaaDALDA*adaaDALDA*acaaEIE*adaaEIE*acaaSOU*adaaSOU*acaaZATA
   *adaaZATA*acaaHATE*adaaHATE*acaaTHETHE*adaaTHETHE*acaaIAUDA*adaaIAUDA*acaaKAPA*adaaKAPA
   *acaaLAULA*adaaLAULA*acaaMI*adaaMI*acaaNI*adaaNI*acaaKSI*adaaKSI*acaaO*adaaO*acaaPI*adaaPI
   *acaaRO*adaaRO*acaaSIMA*adaaSIMA*acaaxf*adaaxf*acaaUA*adaaUA*acaaFI*adaaFI*acaaKHI*adaaKHI
   *acaaxw*adaaxw*acaaOOU*adaaOOU*acaapqdk*adaapqdk*acaajiitnv*adaajiitnv*acaakeEIE*adaakeEIE
   *acaapqKAPA*adaapqKAPA*acaapqNI*adaapqNI*acaakeNI*adaakeNI*acaajiitOOU*adaajiitOOU*acaaSAMPI
   *adaaSAMPI*acaamvSHEI*adaamvSHEI*acaajiitSHEI*adaajiitSHEI*acaajiitxe*adaajiitxe
   *acaaAKHMIMIC KHEI*adaaAKHMIMIC KHEI*acaapqHORI*adaapqHORI*acaajiitHORI*adaajiitHORI*acaajiitHA
   *adaajiitHA*acaaL-SHAPED HA*adaaL-SHAPED HA*acaajiitHEI*adaajiitHEI*acaajiitHAT*adaajiitHAT
   *acaajiitGANGIA*adaajiitGANGIA*acaajiitDJA*adaajiitDJA*acaajiitSHIMA*adaajiitSHIMA
   *acaajivbSHIMA*adaajivbSHIMA*acaajivbNGI*adaajivbNGI*acaajivbNYI*adaajivbNYI*acaajivbWAU
   *adaajivbWAU*avKAI+MI RO+PI RO+STAUROS+xfRO+KHI RO+SHIMA SIMA*acaakeSHEI*adaakeSHEI
   *acaakeGANGIA*adaakeGANGIA*dvNIai+SPIRITUS ASPER,LENIS*acaaBOHAIRIC KHEI*adaaBOHAIRIC KHEI
   @2CF9*jivbhhez,DIRECTfpba,INDIRECTfpba,VERSEzu*ifbrco*hhez*MORPHOLOGICALzu&GEORGIANadaaAN,BAN
   ,GAN,DON,EN,VIN,ZEN,TAN,IN,KAN,LAS,uu,NAR,ON,PAR,ZHAR,RAE,SAN,TAR,UN,PHAR,KHAR,GHAN,QAR,lc,CHIN
   ,CAN,JIL,CIL,CHAR,XAN,JHAN,HAE,HE,HIE,WE,HAR,HOE@2D27,YN@2D2D,AEN@2D30&TIFINAGHaaYA+YAB+YABH
   +YAG+YAGHH+BERBER ACADEMY YAJ+YAJ+YAD+YADH+YADD+YADDH+YEY+YAF+YAK+zvYAK+YAKHH+YAH
   +BERBER ACADEMY YAH+zvYAH+YAHH+YAA+YAKH+zvYAKH+YAQ+zvYAQ+YI+YAZH+AHAGGAR YAZH+zvYAZH+YAL+YAM
   +YAN+zvYAGN,xi+YAP+YU+YAR+YARR+YAGH+zvYAGH+AYER YAGH+YAS+YASS+YASH+YAT+YATH+YACH+YATT+YAV+YAW
   +YAY+YAZ+TAWELLEMET YAZ+YAZZ+YE+YO@2D6F*fjaaLABIALIZATIONba*gbba@2D7F*ghys&ETHIOPICjlLOA+MOA
   +ROA+SOA+SHOA+BOA+TOA+COA+NOA+NYOA+guOA+ZOA+DOA+DDOA+JOA+THOA+CHOA+PHOA+POA+GGWA+GGWI+GGWEE
   +GGWE@2DA0+lz+SSU+SSI+SSAA+SSEE+SSE+SSO@2DA8+CCA+CCU+CCI+CCAA+CCEE+CCE+CCO@2DB0+ZZA+ZZU+ZZI
   +ZZAA+ZZEE+ZZE+ZZO@2DB8+CCHA+CCHU+CCHI+CCHAA+CCHEE+CCHE+CCHO@2DC0+QYA+QYU+QYI+QYAA+QYEE+QYE+QYO
   @2DC8+KYA+KYU+KYI+KYAA+KYEE+KYE+KYO@2DD0+XYA+XYU+XYI+XYAA+XYEE+XYE+XYO@2DD8+GYA+GYU+GYI+GYAA
   +GYEE+GYE+GYO@2DE0&dvknaaBE,VE,xg,DE,yu,ZE,KA,EL,EM,EN,O,PE,ER,ES,TE,HA,TSE,st,hm,SHCHA,FITA
   ,ES-TE,A,IE,DJERV,MONOGRAPH UK,YAT,YU,jjA,egpc,BIGpc,jjBIGpc&ahfdqawk+fzqawk&aoqabf&ahqabf
   &aofzqabf&ahfzqabf&imINTERPOLATIONwk*fzINTERPOLATIONwk&fzTRANSPOSITIONwk&aoTRANSPOSITIONbf
   &ahTRANSPOSITIONbf&imbn&aoimOMISSIONbf&ahimOMISSIONbf&EDITORIAL CORONIS&PARAGRAPHOS
   &FORKED PARAGRAPHOS&bzFORKED PARAGRAPHOS&HYPODIASTOLE&fzOBELOS&bdANCORA&bxANCORA&fzeafd&allipt
   &ccuz&PALM BRANCH&ptabbs&csabdxai&aoftPARAPHRASEbf&ahftPARAPHRASEbf&csabbvai,am&aoarebabQUILL
   &aharebabQUILL&lraocobf*ahcobf&heaocobf*ahcobf&aophUbf&ahphUbf&aoalcq&ahalcq&bldbdgbrbvcn
   &brbvdgbldbcn&fibmbvcn&btbvba&bzfpba&arcs&dxsd&txgbbbbv&cren&imbv*en&crkx&DAGGERabaoGUARD
   +ahGUARD&crDAGGER&lrcohrag&TWO-EMiv&THREE-EMiv&STENOGRAPHIChhez&ardudb&WIGGLYarfq&CAPITULUM
   &alpt&bzen&alLOW-REVERSED-9erba&ivabaoUPTURN&alSUSPENSIONba&ccftKAVYKA,abKAVYKAai&ftKAVYKA+abbv
   &alSTACKEDen&fzhq&ewDAGGER&MEDIEVALen&PARAGRAPHUSba&PUNCTUS ELEVATUSba&CORNISH VERSEzu
   &gdPATTYabahCROSSBAR,aoCROSSBAR&TIRONIANagacET&MEDIEVALeiba*fpba&aobnbfabau&ahbnbfabau
   &aobnbfabalau&ahbnbfabalau&lrcoaocq+ahcq&hecoaocq+ahcq&lipt@2E80&CJK RADICAL REPEAT+CLIFF+zwbr
   ,bl,at+mh+qu+TABLE+KNIFEbr,bl+DIVINATION+SEAL+adbr,bl+LAMEbr,bl,at,bm+SNAKE+THREAD+SNOUTbr,bl
   +jebr,bl+kv+RAP@2E9B+CHOKE+SUN+mg+DEATH+MOTHER+CIVILIAN+snbr,bl+zq+PAWbr,bl
   +SIMPLIFIEDcoTREE TRUNK+COW+DOG+JADE+BOLT OF CLOTH+EYE+SPIRITbr,bl+BAMBOO+SILK+hgSILK+NETbr,bl
   ,at,bm+MESH+SHEEP+RAM+EWE+ji+BRUSHbr,bl+MEAT+MORTAR+GRASSbr,bl,at+TIGER+CLOTHES+hcbr,bl+hgSEE
   +SIMPLIFIEDjs+js+hgzx,km+FOOT+hgCART+SIMPLIFIED WALK+WALKbr,bl+CITY+hgGOLD+embr,bl+hgem,GATE
   +MOUNDbr,bl+RAIN+BLUE+hgTANNED LEATHER,og,zr,FLY+EATbr,bl,at+hgEAT+qh+hgyh+BONE+GHOST+hgFISH
   ,BIRD,SALT+SIMPLIFIED WHEAT,YELLOW+hgFROG+xtEVEN+hgEVEN+xtTOOTH+hgTOOTH+xtwu+hgwu+TURTLE
   +xtTURTLE+hgTURTLE@2F00&KANGXI RADICALbr+fq+bv+oo+zw+bo+bl+LID+uu+LEGS+ENTER+bp+cpqu+COVER+ICE
   +TABLE+ejqu+KNIFE+POWER+WRAP+SPOON+ahejqu+HIDING ENCLOSURE+gw+DIVINATION+SEAL+CLIFF+PRIVATE
   +AGAIN+lv+ENCLOSURE+qv+SCHOLAR+GO,SLOWLY+EVENING+BIG+WOMAN+CHILD+ROOF+INCH+ad+LAME+CORPSE
   +SPROUT+rw+RIVER+WORK+ONESELF+TURBAN+DRY+ffTHREAD+fzCLIFF+emSTRIDE+blyi+SHOOT+BOW+SNOUT+BRISTLE
   +STEP+je+HALBERD+DOOR+kv+BRANCH+RAP+jc+DIPPER+AXE+bn+iz+SUN+SAY+mg+TREE+LACK+ez+DEATH+WEAPON
   +DOiz+COMPARE+FUR+CLAN+STEAM+sn+zq+CLAW+FATHER+alX+coTREE TRUNK+SLICE+FANG+COW+DOG+PROFOUND
   +JADE+MELON+TILE+SWEET+LIFE+USE+FIELD+BOLT OF CLOTH+SICKNESS+fzTENT+az+SKIN+np+EYE+SPEAR+af
   +STONE+SPIRIT+TRACK+GRAIN+CAVE+STAND+BAMBOO+RICE+SILK+JAR+NET+SHEEP+FEATHER+ji+ap+PLOW+EAR
   +BRUSH+MEAT+MINISTER+SELF+ARRIVE+MORTAR+zy+OPPOSE+BOAT+STOPPING+COLOR+GRASS+TIGER+INSECT+BLOOD
   +WALK ENCLOSURE+CLOTHES+hc+SEE+js+zx+VALLEY+BEAN+PIG+BADGER+km+RED+RUN+FOOT+BODY+CART+BITTER
   +MORNING+WALK+CITY+WINE+DISTINGUISH+VILLAGE+GOLD+em+GATE+MOUND+SLAVE+ffTAILED BIRD+RAIN+BLUE
   +WRONG+cx+LEATHER+TANNED LEATHER+LEEK+nz+og+zr+FLY+EAT+qh+FRAGRANT+yh+BONE+TALL+HAIR+FIGHT
   +SACRIFICIAL WINE+CAULDRON+GHOST+FISH+BIRD+SALT+DEER+WHEAT+HEMP+YELLOW+MILLET+ax+EMBROIDERY
   +FROG+TRIPOD+DRUM+RAT+NOSE+EVEN+TOOTH+wu+TURTLE+FLUTE@2FF0&hoDESCRIPTIONnxaoTOah,aiTOam
   ,aoTObbapah,aiTObbapam,hhSURROUND,SURROUNDkuai:am:ao:dhao;ah:cvao,OVERLAID@3000*lg*en*hhez
   &DITTOba&uhINDUSTRIAL STANDARDav&hoobba*CLOSINGba*doeh&aofdbf&ahfdbf&aoalfdbf&ahalfdbf&aohfbf
   &ahhfbf&aoazhfbf&ahazhfbf&aoaxohbf&ahaxohbf&POSTALba&GETAba&aoiykmbf&ahiykmbf&aoazohbf&ahazohbf
   &aoaziykmbf&ahaziykmbf&aoazbnbf&ahazbnbf&ofiv&bzaltierba&altierba&ftaltierba&POSTALbacx
   &HANGZHOUqdbr+bl+at+bm+bt+du+by+bp+cu&hoLEVELeoba*omeoba*DEPARTINGeoba*ENTERINGeoba&uvdebveoba
   *albveoba&WAVYiv&arKANA REPEATba,absvnzba,badhco,absvnzbadhco,bacvco&dnPOSTALba
   &hoTELEGRAPHfqFEEDgbav&HANGZHOUqdgw+fl+jm&arhoobba&MASUba&PART ALTERNATIONba&hoydpb*covhlg
   @3041&wvaaadA+A+adI+I+adU+U+adE+E+adO+O+KA+GA+KI+GI+KU+GU+KE+GE+KO+GO+SA+ZA+SI+ZI+SU+ZU+SE+ZE
   +SO+ZO+TA+DA+TI+DI+adTU+TU+DU+TE+DE+TO+DO+NA+NI+NU+NE+NO+HA+BA+PA+HI+BI+PI+HU+BU+PU+HE+BE+PE+HO
   +BO+PO+MA+MI+MU+ME+MO+adYA+YA+adYU+YU+adYO+YO+RA+RI+RU+RE+RO+adWA+WA+WI+WE+WO+N+VU+adKA,KE
   @3099&dvocsvnzba+SEMI-VOICEDnzba&ocsvnzba*SEMI-VOICEDnzba&wvobba*svobba*gvYORI&ocalpt&ngaaadA+A
   +adI+I+adU+U+adE+E+adO+O+KA+GA+KI+GI+KU+GU+KE+GE+KO+GO+SA+ZA+SI+ZI+SU+ZU+SE+ZE+SO+ZO+TA+DA+TI
   +DI+adTU+TU+DU+TE+DE+TO+DO+NA+NI+NU+NE+NO+HA+BA+PA+HI+BI+PI+HU+BU+PU+HE+BE+PE+HO+BO+PO+MA+MI+MU
   +ME+MO+adYA+YA+adYU+YU+adYO+YO+RA+RI+RU+RE+RO+adWA+WA+WI+WE+WO+N+VU+adKA,KE+VA+VI+VE+VO*bbbv
   &ocPROLONGEDnzba&ngobba*svobba*gvKOTO@3105&BOPOMOFOaaB+P+M+F+D+T+N+L+G+K+H+J+Q+X+ZH+CH+SH+R+Z+C
   +S+A+O+E+EH+AI+EI+AU+OU+AN+EN+ANG+ENG+ER+I+U+IU+V+NG+GN+IH+Oabbvai+NN@3131&uvaawn+ze
   +KIYEOK-SIOS+NIEUN+zh+zi+wo+zf+RIEUL+xn+zj+zk+RIEUL-SIOS+RIEUL-THIEUTH+RIEUL-PHIEUPH+zg+MIEUM
   +PIEUP+SSANGPIEUP+PIEUP-SIOS+SIOS+SSANGSIOS+ya+yb+SSANGCIEUC+ua+ub+uc+ud+HIEUH+A+AE+YA+YAE+EO+E
   +YEO+YE+O+WA+WAE+OE+YO+U+WEO+WE+WI+YU+EU+YI+I*uw*aaSSANGNIEUN+NIEUN-TIKEUT+NIEUN-SIOS
   +NIEUN-PANSIOS+RIEUL-KIYEOK-SIOS+RIEUL-TIKEUT+RIEUL-PIEUP-SIOS+RIEUL-PANSIOS+RIEUL-YEORINHIEUH
   +MIEUM-PIEUP+MIEUM-SIOS+MIEUM-PANSIOS+KAPYEOUNMIEUM+PIEUP-KIYEOK+PIEUP-TIKEUT+PIEUP-SIOS-KIYEOK
   +yc+PIEUP-CIEUC+PIEUP-THIEUTH+KAPYEOUNPIEUP+KAPYEOUNSSANGPIEUP+SIOS-KIYEOK+SIOS-NIEUN
   +SIOS-TIKEUT+SIOS-PIEUP+SIOS-CIEUC+PANSIOS+SSANGIEUNG+YESIEUNG+YESIEUNG-SIOS+YESIEUNG-PANSIOS
   +KAPYEOUNPHIEUPH+SSANGHIEUH+YEORINHIEUH+YO-YA+YO-YAE+YO-I+YU-YEO+YU-YE+YU-I+ARAEA+ARAEAE
   @3190&hoANNOTATION LINKINGba+irba+brba+blba+atba+bmba+lrba+bbba+heba+yeba+zwba+sjba+FOURTHba
   +HEAVENba+qvba+uuba&BOPOMOFOaaBU+ZI+JI+GU+EE+ENN+OO+ONN+IR+ANN+INN+UNN+IM+NGG+AINN+AUNN+AM+OM
   +ONG+INNN*anaaP,T,K,H*aaGH+LH+ZY*anaaG*aaGW+KW+OE+AH&CJKauT+WG+XG+BXG+SW+HZZ+HZG+HP+HZWG+SZWG
   +HZT+HZZP+HPWG+HZW+HZZZ+N+H+S+P+SP+D+HZ+HG+SZ+SWZ+ST+SG+PD+PZ+TN+SZZ+SWG+HXWG+HZZZG+PG+Q
   @31F0&ngaaadKU,SI,SU,TO,NU,HA,HI,HU,HE,HO,MU,RA,RI,RU,RE,RO&wcuvwn+NIEUN+wo+RIEUL+MIEUM+PIEUP
   +SIOS+ya+yb+ua+ub+uc+ud+HIEUH+wnA+NIEUN A+woA+RIEUL A+MIEUM A+PIEUP A+SIOS A+yaA+ybA+uaA+ubA
   +ucA+udA+HIEUH A+ybU*KOREANnxOJEON,O HU@3220*IDEOGRAPHbr+bl+at+bm+bt+du+by+bp+cu+gw+mg+zq+sn
   +WOOD+METAL+qv+SUN+STOCK+HAVE+SOCIETY+NAME+SPECIAL+FINANCIAL+CONGRATULATION+LABOR+REPRESENT
   +CALL+STUDY+SUPERVISE+ENTERPRISE+RESOURCE+ALLIANCE+FESTIVAL+rb+SELF+REACH&dnIDEOGRAPHfp
   +KINDERGARTEN+SCHOOL+KOTO*dogwONaxbn+flONaxbn+jmONaxbn+nkONaxbn+ieONaxbn+nyONaxbn+fmONaxbn
   +neONaxbn&PARTNERSHIPag&dndoflbr,bl,at,bm,bt,du,by,bp,cu+jm,br,bl,at,bm,bt*uvwn+NIEUN+wo+RIEUL
   +MIEUM+PIEUP+SIOS+ya+yb+ua+ub+uc+ud+HIEUH+wnA+NIEUN A+woA+RIEUL A+MIEUM A+PIEUP A+SIOS A+yaA
   +ybA+uaA+ubA+ucA+udA+HIEUH A*KOREANnxCHAMKO,JUEUI*uvyaU&KOREAN STANDARDav&dnIDEOGRAPHbr+bl+at
   +bm+bt+du+by+bp+cu+gw+mg+zq+sn+WOOD+METAL+qv+SUN+STOCK+HAVE+SOCIETY+NAME+SPECIAL+FINANCIAL
   +CONGRATULATION+LABOR+SECRET+MALE+FEMALE+SUITABLE+EXCELLENT+PRINT+ATTENTION+ITEM+rb+COPY
   +CORRECT+ev+ed+ft+ao+ah+MEDICINE+RELIGION+STUDY+SUPERVISE+ENTERPRISE+RESOURCE+ALLIANCE+NIGHT
   *dojmdu,by,bp,cu+nk,br,bl,at,bm,bt,du,by,bp,cu+ie&hoTELEGRAPHavmkJANUARY.FEBRUARY.MARCH.APRIL
   .MAY.JUNE.JULY.AUGUST.SEPTEMBER.OCTOBER.NOVEMBER.DECEMBER&bnHG*ERG*EV&LIMITED LIABILITYag&dnngA
   +I+U+E+O+KA+KI+KU+KE+KO+SA+SI+SU+SE+SO+TA+TI+TU+TE+TO+NA+NI+NU+NE+NO+HA+HI+HU+HE+HO+MA+MI+MU+ME
   +MO+YA+YU+YO+RA+RI+RU+RE+RO+WA+WI+WE+WO&bnERA NAME REIWA*APAATO*ARUHUA*ANPEA*AARU*ININGU*INTI
   *UON*ESUKUUDO*EEKAA*ONSU*OOMU*KAIRI*KARATTO*KARORII*GARON*GANMA*GIGA*GINII*KYURII*GIRUDAA*KIRO
   *KIROGURAMU*KIROMEETORU*KIROWATTO*GURAMU*GURAMUTON*KURUZEIRO*KUROONE*KEESU*KORUNA*KOOPO*SAIKURU
   *SANTIIMU*SIRINGU*SENTI*SENTO*DAASU*DESI*DORU*TON*NANO*NOTTO*HAITU*PAASENTO*PAATU*BAARERU
   *PIASUTORU*PIKURU*PIKO*BIRU*HUARADDO*HUIITO*BUSSYERU*HURAN*HEKUTAARU*PESO*PENIHI*HERUTU*PENSU
   *PEEZI*BEETA*POINTO*BORUTO*HON*PONDO*HOORU*HOON*MAIKURO*MAIRU*MAHHA*MARUKU*MANSYON*MIKURON*MIRI
   *MIRIBAARU*MEGA*MEGATON*MEETORU*YAADO*YAARU*YUAN*RITTORU*RIRA*RUPII*RUUBURU*REMU*RENTOGEN*WATTO
   &hoTELEGRAPHavmkHOUReh:br:bl:at:bm:bt:du:by:bp:cu:gw:px:nt:rt:ru:oq:qj:pl:pm:rv:fl:TWENTY-ONE
   :TWENTY-TWO:TWENTY-THREE:TWENTY-FOUR&bnHPA*DA*AU*eb*OV*PC*DM+fi+CUBED*IU*ERA NAME HEISEI,SYOUWA
   ,TAISYOU,MEIZI*CORPORATION*PA AMPS*NA*MU A*MA*KA*KB*MB*GB*CAL*KCAL*PF*NF*MU F+G*MG*KG*HZ*KHZ
   *MHZ*GHZ*THZ*MU L*ML*DL*KL*FM*NM*MU M*MM*CM*KM*MMfi*CMfi*Mfi*KMfi*MM CUBED*CM CUBED*M CUBED
   *KM CUBED*MdgS.fi*PA*KPA*MPA*GPA*RAD+dgS.fi*PS*NS*MU S*MS*PV*NV*MU V*MV*KV*MV MEGA*PW*NW*MU W
   *MW*KW*MW MEGA*K OHM*M OHM*AM*BQ*CC*CD*CdgKG*CO*DB*GY*HA*HP*IN*KK*KMac*KT*LM*LN*LOG*LX*MBad*MIL
   *MOL*PH*PM*PPM*PR*SR*SV*WB*VdgM*AdgM&hoTELEGRAPHavmkDAYbr:bl:at:bm:bt:du:by:bp:cu:gw:px:nt:rt
   :ru:oq:qj:pl:pm:rv:fl:TWENTY-ONE:TWENTY-TWO:TWENTY-THREE:TWENTY-FOUR:zz:TWENTY-SIX:TWENTY-SEVEN
   :TWENTY-EIGHT:TWENTY-NINE:jm:THIRTY-ONE&bnGAL@4DC0&HEXAGRAMmkmmCREATIVE HEAVEN,RECEPTIVEqv
   +DIFFICULTY ATmmBEGINNING+YOUTHFUL FOLLY+WAITING+CONFLICT+mmARMY+HOLDING TOGETHER+adTAMING
   +TREADING+PEACE+STANDSTILL+FELLOWSHIP+GREAT POSSESSION+MODESTY+ENTHUSIASM+FOLLOWING
   +WORK ONmmDECAYED+APPROACH+CONTEMPLATION+BITINGma+GRACE+SPLITTING APART+RETURN+INNOCENCE
   +GREAT TAMING+lvzo+GREAT PREPONDERANCE+mmABYSMALsn,CLINGINGzq+INFLUENCE+DURATION+RETREAT
   +GREAT POWER+PROGRESS+DARKENING OFmmcl+mmFAMILY+OPPOSITION+OBSTRUCTION+DELIVERANCE+DECREASE
   +INCREASE+BREAKTHROUGH+COMING TO MEET+GATHERING TOGETHER+PUSHING UPWARD+OPPRESSION+mmWELL
   +REVOLUTION+mmCAULDRON,AROUSING THUNDER,KEEPING STILLrw+DEVELOPMENT+mmMARRYING MAIDEN+ABUNDANCE
   +mmWANDERER,GENTLEzr,JOYOUS LAKE+DISPERSION+LIMITATION+INNER TRUTH+adPREPONDERANCE
   +AFTER COMPLETION+BEFORE COMPLETION@A000&YIjlIT+IX+I+IP+IET+IEX+IE+IEP+AT+AX+A+AP+UOX+UO+UOP+OT
   +OX+O+OP+EX+E+WU+BIT+BIX+BI+BIP+BIET+BIEX+BIE+BIEP+BAT+BAX+BA+BAP+BUOX+BUO+BUOP+BOT+qu+BO+BOP
   +BEX+BE+BEP+BUT+BUX+BU+BUP+BURX+BUR+BYT+BYX+BY+BYP+BYRX+BYR+PIT+PIX+PI+PIP+PIEX+PIE+PIEP+PAT
   +PAX+PA+PAP+PUOX+PUO+PUOP+POT+POX+PO+POP+PUT+PUX+PU+PUP+PURX+PUR+PYT+PYX+PY+PYP+PYRX+PYR+BBIT
   +BBIX+BBI+BBIP+BBIET+BBIEX+BBIE+BBIEP+BBAT+BBAX+BBA+BBAP+BBUOX+BBUO+BBUOP+BBOT+BBOX+BBO+BBOP
   +BBEX+BBE+BBEP+BBUT+BBUX+BBU+BBUP+BBURX+BBUR+BBYT+BBYX+BBY+BBYP+NBIT+NBIX+NBI+NBIP+NBIEX+NBIE
   +NBIEP+NBAT+NBAX+NBA+NBAP+NBOT+NBOX+NBO+NBOP+NBUT+NBUX+NBU+NBUP+NBURX+NBUR+NBYT+NBYX+NBY+NBYP
   +NBYRX+NBYR+HMIT+HMIX+HMI+HMIP+HMIEX+HMIE+HMIEP+HMAT+HMAX+HMA+HMAP+HMUOX+HMUO+HMUOP+HMOT+HMOX
   +HMO+HMOP+HMUT+HMUX+HMU+HMUP+HMURX+HMUR+HMYX+HMY+HMYP+HMYRX+HMYR+MIT+MIX+MI+MIP+MIEX+MIE+MIEP
   +MAT+MAX+MA+MAP+MUOT+MUOX+MUO+MUOP+MOT+MOX+MO+MOP+MEX+ME+MUT+MUX+MU+MUP+MURX+MUR+MYT+MYX+MY+MYP
   +FIT+FIX+FI+FIP+FAT+FAX+FA+FAP+FOX+FO+FOP+FUT+FUX+FU+FUP+FURX+FUR+FYT+FYX+FY+FYP+VIT+VIX+VI+VIP
   +VIET+VIEX+VIE+VIEP+VAT+VAX+VA+VAP+VOT+VOX+VO+VOP+VEX+VEP+VUT+VUX+VU+VUP+VURX+VUR+VYT+VYX+VY
   +VYP+VYRX+VYR+DIT+DIX+DI+DIP+DIEX+DIE+DIEP+DAT+DAX+DA+DAP+DUOX+DUO+bv+DOX+DO+DOP+DEX+DE+DEP+DUT
   +DUX+DU+DUP+DURX+DUR+TIT+TIX+TI+TIP+TIEX+TIE+TIEP+TAT+TAX+TA+TAP+TUOT+TUOX+TUO+TUOP+TOT+TOX+TO
   +lr+TEX+TE+TEP+TUT+TUX+TU+TUP+TURX+TUR+DDIT+DDIX+DDI+DDIP+DDIEX+DDIE+DDIEP+DDAT+DDAX+kc+DDAP
   +DDUOX+DDUO+DDUOP+DDOT+DDOX+DDO+DDOP+DDEX+DDE+DDEP+DDUT+DDUX+DDU+DDUP+DDURX+DDUR+NDIT+NDIX+NDI
   +NDIP+NDIEX+NDIE+NDAT+NDAX+NDA+NDAP+NDOT+NDOX+NDO+NDOP+NDEX+NDE+NDEP+NDUT+NDUX+NDU+NDUP+NDURX
   +NDUR+HNIT+HNIX+HNI+HNIP+HNIET+HNIEX+HNIE+HNIEP+HNAT+HNAX+HNA+HNAP+HNUOX+HNUO+HNOT+HNOX+HNOP
   +HNEX+HNE+HNEP+HNUT+NIT+NIX+NI+NIP+NIEX+NIE+NIEP+NAX+NA+NAP+NUOX+NUO+NUOP+iz+NOX+NO+NOP+NEX+NE
   +NEP+NUT+NUX+NU+NUP+NURX+NUR+HLIT+HLIX+HLI+HLIP+HLIEX+HLIE+HLIEP+HLAT+HLAX+HLA+HLAP+HLUOX+HLUO
   +HLUOP+HLOX+HLO+HLOP+HLEX+HLE+HLEP+HLUT+HLUX+HLU+HLUP+HLURX+HLUR+HLYT+HLYX+HLY+HLYP+HLYRX+HLYR
   +LIT+LIX+LI+LIP+LIET+LIEX+LIE+LIEP+LAT+LAX+LA+LAP+LUOT+LUOX+LUO+LUOP+LOT+LOX+LO+LOP+LEX+LE+LEP
   +LUT+LUX+LU+LUP+LURX+LUR+LYT+LYX+LY+LYP+LYRX+LYR+GIT+GIX+GI+GIP+GIET+GIEX+GIE+GIEP+GAT+GAX+GA
   +GAP+GUOT+GUOX+GUO+GUOP+GOT+GOX+GO+GOP+GET+GEX+GE+GEP+GUT+GUX+GU+GUP+GURX+GUR+KIT+KIX+KI+KIP
   +KIEX+KIE+KIEP+KAT+KAX+KA+KAP+KUOX+KUO+KUOP+KOT+KOX+KO+KOP+KET+KEX+KE+KEP+KUT+KUX+KU+KUP+KURX
   +yj+GGIT+GGIX+GGI+GGIEX+GGIE+GGIEP+GGAT+GGAX+GGA+GGAP+GGUOT+GGUOX+GGUO+GGUOP+GGOT+GGOX+GGO+GGOP
   +GGET+GGEX+GGE+GGEP+GGUT+GGUX+GGU+GGUP+GGURX+GGUR+MGIEX+MGIE+MGAT+MGAX+MGA+MGAP+MGUOX+MGUO
   +MGUOP+MGOT+MGOX+MGO+MGOP+MGEX+MGE+MGEP+MGUT+MGUX+MGU+MGUP+MGURX+MGUR+HXIT+HXIX+HXI+HXIP+HXIET
   +HXIEX+HXIE+HXIEP+HXAT+HXAX+HXA+HXAP+HXUOT+HXUOX+HXUO+HXUOP+HXOT+HXOX+HXO+HXOP+HXEX+HXE+HXEP
   +NGIEX+NGIE+NGIEP+NGAT+NGAX+hl+NGAP+NGUOT+NGUOX+NGUO+NGOT+NGOX+NGO+NGOP+NGEX+NGE+NGEP+HIT+HIEX
   +HIE+HAT+HAX+HA+HAP+HUOT+HUOX+HUO+HUOP+HOT+HOX+HO+HOP+HEX+HE+HEP+WAT+WAX+WA+WAP+WUOX+WUO+WUOP
   +WOX+WO+WOP+WEX+WE+WEP+ZIT+ZIX+ZI+ZIP+ZIEX+ZIE+ZIEP+ZAT+ZAX+ZA+ZAP+ZUOX+ZUO+ZUOP+ZOT+ZOX+ZO+ZOP
   +ZEX+ZE+ZEP+ZUT+ZUX+ZU+ZUP+ZURX+ZUR+ZYT+ZYX+ZY+ZYP+ZYRX+ZYR+CIT+CIX+CI+CIP+CIET+CIEX+CIE+CIEP
   +CAT+CAX+CA+CAP+CUOX+CUO+CUOP+COT+COX+CO+COP+CEX+CE+CEP+CUT+CUX+CU+CUP+CURX+CUR+CYT+CYX+CY+CYP
   +CYRX+CYR+ZZIT+ZZIX+ZZI+ZZIP+ZZIET+ZZIEX+ZZIE+ZZIEP+ZZAT+ZZAX+ZZA+ZZAP+ZZOX+ZZO+ZZOP+ZZEX+ZZE
   +ZZEP+ZZUX+ZZU+ZZUP+ZZURX+ZZUR+ZZYT+ZZYX+ZZY+ZZYP+ZZYRX+ZZYR+NZIT+NZIX+NZI+NZIP+NZIEX+NZIE
   +NZIEP+NZAT+NZAX+NZA+NZAP+NZUOX+NZUO+NZOX+NZOP+NZEX+NZE+NZUX+NZU+NZUP+NZURX+NZUR+NZYT+NZYX+NZY
   +NZYP+NZYRX+NZYR+SIT+du+SI+SIP+SIEX+SIE+SIEP+SAT+SAX+SA+SAP+SUOX+SUO+SUOP+SOT+SOX+SO+SOP+SEX+SE
   +SEP+SUT+SUX+SU+SUP+SURX+SUR+SYT+SYX+SY+SYP+SYRX+SYR+SSIT+SSIX+SSI+SSIP+SSIEX+SSIE+SSIEP+SSAT
   +SSAX+lz+SSAP+SSOT+SSOX+SSO+SSOP+SSEX+SSE+SSEP+SSUT+SSUX+SSU+SSUP+SSYT+SSYX+SSY+SSYP+SSYRX+SSYR
   +ZHAT+ZHAX+ty+ZHAP+ZHUOX+ZHUO+ZHUOP+ZHOT+ZHOX+ZHO+ZHOP+ZHET+ZHEX+yu+ZHEP+ZHUT+ZHUX+ZHU+ZHUP
   +ZHURX+ZHUR+ZHYT+ZHYX+ZHY+ZHYP+ZHYRX+ZHYR+CHAT+CHAX+hw+CHAP+CHUOT+CHUOX+CHUO+CHUOP+CHOT+CHOX
   +CHO+CHOP+CHET+CHEX+st+CHEP+CHUX+CHU+CHUP+CHURX+CHUR+CHYT+CHYX+CHY+CHYP+CHYRX+CHYR+RRAX+vl
   +RRUOX+RRUO+RROT+RROX+RRO+RROP+RRET+RREX+RRE+RREP+RRUT+RRUX+RRU+RRUP+RRURX+RRUR+RRYT+RRYX+RRY
   +RRYP+RRYRX+RRYR+NRAT+NRAX+NRA+NRAP+NROX+NRO+NROP+NRET+NREX+NRE+NREP+NRUT+NRUX+NRU+NRUP+NRURX
   +NRUR+NRYT+NRYX+NRY+NRYP+NRYRX+NRYR+SHAT+SHAX+hm+SHAP+SHUOX+SHUO+SHUOP+SHOT+SHOX+SHO+SHOP+SHET
   +SHEX+nn+SHEP+SHUT+SHUX+SHU+SHUP+SHURX+SHUR+SHYT+SHYX+SHY+SHYP+SHYRX+SHYR+RAT+RAX+RA+RAP+RUOX
   +RUO+RUOP+ROT+ROX+RO+ROP+REX+RE+REP+RUT+RUX+RU+RUP+RURX+RUR+RYT+RYX+RY+RYP+RYRX+RYR+JIT+JIX+JI
   +JIP+JIET+JIEX+JIE+JIEP+JUOT+JUOX+JUO+JUOP+JOT+JOX+JO+JOP+JUT+JUX+JU+JUP+JURX+JUR+JYT+JYX+JY
   +JYP+JYRX+JYR+QIT+QIX+QI+QIP+QIET+QIEX+QIE+QIEP+QUOT+QUOX+QUO+QUOP+QOT+QOX+QO+QOP+QUT+QUX+QU
   +QUP+QURX+QUR+QYT+QYX+QY+QYP+QYRX+QYR+JJIT+JJIX+JJI+JJIP+JJIET+JJIEX+JJIE+JJIEP+JJUOX+JJUO
   +JJUOP+JJOT+JJOX+JJO+JJOP+JJUT+JJUX+JJU+JJUP+JJURX+JJUR+JJYT+JJYX+JJY+JJYP+NJIT+NJIX+NJI+NJIP
   +NJIET+NJIEX+NJIE+NJIEP+NJUOX+NJUO+NJOT+NJOX+NJO+NJOP+NJUX+NJU+NJUP+NJURX+NJUR+NJYT+NJYX+NJY
   +NJYP+NJYRX+NJYR+NYIT+NYIX+NYI+NYIP+NYIET+NYIEX+NYIE+NYIEP+NYUOX+NYUO+NYUOP+NYOT+NYOX+NYO+NYOP
   +NYUT+NYUX+NYU+NYUP+XIT+XIX+XI+XIP+XIET+XIEX+XIE+XIEP+XUOX+XUO+XOT+XOX+XO+XOP+XYT+XYX+XY+XYP
   +XYRX+XYR+YIT+YIX+YI+YIP+YIET+YIEX+YIE+YIEP+YUOT+YUOX+YUO+YUOP+YOT+YOX+YO+YOP+YUT+YUX+YU+YUP
   +YURX+YUR+YYT+YYX+YY+YYP+YYRX+YYR@A490*RADICAL QOT+LI+KIT+NYIP+CYP+SSI+GGOP+GEP+MI+HXIT+LYR
   +BBUT+MOP+YO+PUT+HXUO+TAT+GA+ZUP+CYT+DDUR+BUR+GGUO+NYOP+TU+OP+JJUT+ZOT+PYT+HMO+YIT+VUR+SHY+VEP
   +ZA+JO+NZUP+JJY+GOT+JJIE+WO+DU+SHUR+LIE+CY+CUOP+CIP+HXOP+SHAT+ZUR+SHOP+st+ZZIET+NBIE+KE
   @A4D0&LISUaaBA+PA+jh+DA+TA+iu+GA+KA+id+JA+CA+hw+DZA+oy+tz+MA+NA+LA+SA+ty+ZA+hl+HA+XA+HHA+FA+WA
   +hm+YA+kl+A+AE+E+EU+I+O+U+UE+UH+OE+eoMYA TI,NA PO,MYA CYA.BO.NA.JEU*cnen+hhez&VAIjlEE+EEN+HEE
   +WEE+WEEN+PEE+BHEE+BEE+MBEE+KPEE+MGBEE+GBEE+FEE+VEE+TEE+THEE+DHEE+DHHEE+LEE+REE+DEE+NDEE+SEE
   +SHEE+ZEE+ZHEE+CEE+JEE+NJEE+YEE+KEE+NGGEE+GEE+MEE+NEE+NYEE+I+IN+HI+HIN+WI+WIN+PI+BHI+BI+MBI+KPI
   +MGBI+GBI+FI+VI+TI+THI+DHI+DHHI+LI+RI+DI+NDI+SI+SHI+ZI+ZHI+CI+JI+NJI+YI+KI+NGGI+GI+MI+NI+NYI+A
   +AN+NGAN+HA+HAN+WA+WAN+PA+le+BA+MBA+KPA+KPAN+MGBA+GBA+FA+VA+TA+iu+kj+DHHA+LA+RA+DA+NDA+SA+hm+ZA
   +ty+CA+JA+NJA+YA+KA+KAN+NGGA+GA+MA+NA+hz+OO+OON+HOO+WOO+WOON+POO+BHOO+BOO+MBOO+KPOO+MGBOO+GBOO
   +FOO+VOO+TOO+THOO+DHOO+DHHOO+LOO+ROO+DOO+NDOO+SOO+SHOO+ZOO+ZHOO+COO+JOO+NJOO+YOO+KOO+NGGOO+GOO
   +MOO+NOO+NYOO+U+UN+HU+HUN+WU+WUN+PU+BHU+BU+MBU+KPU+MGBU+GBU+FU+VU+TU+THU+DHU+DHHU+LU+RU+DU+NDU
   +SU+SHU+ZU+ZHU+CU+JU+NJU+YU+KU+NGGU+GU+MU+NU+NYU+O+ON+NGON+HO+HON+WO+WON+PO+BHO+BO+MBO+KPO+MGBO
   +GBO+GBON+FO+VO+TO+zc+DHO+DHHO+LO+RO+DO+NDO+SO+SHO+ZO+ZHO+CO+JO+NJO+YO+KO+NGGO+GO+MO+NO+NYO+E
   +EN+NGEN+HE+HEN+WE+WEN+PE+BHE+BE+MBE+KPE+KPEN+MGBE+GBE+GBEN+FE+VE+TE+mm+DHE+DHHE+LE+RE+DE+NDE
   +SE+nn+ZE+yu+CE+JE+NJE+YE+KE+NGGE+NGGEN+GE+GEN+ME+NE+NYE+NG+LENGTHENER*en*hhez*fpba*jlNDOLE FA
   ,KA,SOO*avFEENG+KEENG+TING+NII+BANG+FAA+TAA+DANG+DOONG+KUNG+TONG+DO-O+JONG*cteh+br+bl+at+bm+bt
   +du+by+bp+cu*jlNDOLE MA,DO@A640&knacaaZEMLYA*adaaZEMLYA*acaaDZELO*adaaDZELO*acaabzDZE*adaabzDZE
   *acaakp*adaakp*acaaDJERV*adaaDJERV*acaaMONOGRAPH UK*adaaMONOGRAPH UK*acaaBROADhk*adaaBROADhk
   *acaaikYER*adaaikYER*acaayvabxuYER*adaayvabxuYER*acaajjYAT*adaajjYAT*acaabzYU*adaabzYU*acaajjA
   *adaajjA*acaagmegpc*adaagmegpc*acaaBLENDEDpc*adaaBLENDEDpc*acaajjgmegpc*adaajjgmegpc*acaaYN
   *adaaYN*acaabzTSE*adaabzTSE*acaaveDE*adaaveDE*acaaveEL*adaaveEL*acaaveEM*adaaveEM
   *acaaMONOCULAR O*adaaMONOCULAR O*acaaBINOCULAR O*adaaBINOCULAR O*acaaalMONOCULAR O
   *adaaalMONOCULAR O*aaMULTIOCULAR O&dvknVZMET+gwtuag+bctuag+betuag&SLAVONICdp&dvknaaUKRAINIAN IE
   ,I,YI,U,HARDag,yv,veag,hk+KAVYKA+PAYEROK&knKAVYKA*PAYEROK*acaaDWE*adaaDWE*acaaDZWE*adaaDZWE
   *acaaZHWE*adaaZHWE*acaaCCHE*adaaCCHE*acaaDZZE*adaaDZZE*acaaTEabbbbo*adaaTEabbbbo*acaaTWE
   *adaaTWE*acaaTSWE*adaaTSWE*acaaTSSE*adaaTSSE*acaaTCHE*adaaTCHE*acaaHWE*adaaHWE*acaaSHWE
   *adaaSHWE*acaaalO*adaaalO*acaamvO*adaamvO&fjaaknHARDag,veag&dvknaaEF,jjE&BAMUMaaA+KA+U+KU+EE
   +REE+TAE+O+NYI+I+LA+PA+RII+RIEE+LEEEE+MEEEE+TAA+NDAA+NJAEM+M+SUU+MU+SHII+SI+SHEUX+SEUX+KYEE+KET
   +NUAE+NU+NJUAE+YOQ+SHU+YUQ+YA+NSHA+KEUX+PEUX+NJEE+NTEE+PUE+WUE+PEE+FEE+RU+LU+MI+NI+REUX+RAE+KEN
   +NGKWAEN+NGGA+hl+SHO+PUAE+FU+FOM+WA+NA+LI+PI+LOQ+KO+MBEN+REN+MEN+MA+TI+KI+MO+MBAA+TET+KPA+gw
   +NTUU+SAMBA+FAAMAE+KOVUU+KOGHOM*dvbaKOQNDON,TUKWENTIS*NJAEMLI*hhez*iq*en*kx*fpba
   @A700&fjaaCHINESEeoYIN PING.xiPING.YIN SHANG.xiSHANG.YIN QU.xiQU.YIN RU.xiRU+EXTRA-HIGHfzeoeb
   +evfzeoeb+MIDfzeoeb+ftfzeoeb+EXTRA-LOWfzeoeb+EXTRA-HIGHfzmweoeb+evfzmweoeb+MIDfzmweoeb
   +ftfzmweoeb+EXTRA-LOWfzmweoeb+EXTRA-HIGHmweoeb+evmweoeb+MIDmweoeb+ftmweoeb+EXTRA-LOWmweoeb
   +bvareb,oo,ayeb+cvahhffd+imUPaf,cpaf,eiba,cceiba+ftcceiba+STRESSapeveo.fteo&feacaawfdk*adaawfdk
   *acaawfnv*adaawfnv*acaaHENG*adaaHENG*acaaTZ*adaaTZ*acaaTRESILLO*adaaTRESILLO*acaaCUATRILLO
   *adaaCUATRILLO*acaaCUATRILLOaben*adaaCUATRILLOaben*aaadacF.S*acaaAA*adaaAA*acaaAO*adaaAO*acaaAU
   *adaaAU*acaaAV*adaaAV*acaaAVabayeb*adaaAVabayeb*acaaAY*adaaAY*acaabzCabbv*adaabzCabbv*acaaKabau
   *adaaKabau*acaaKabdsau*adaaKabdsau*acaaKabauapdsau*adaaKabauapdsau*acaaBROKEN L*adaaBROKEN L
   *acaaLabevau*adaaLabevau*acaaOabemauhv*adaaOabemauhv*acaaOabqz*adaaOabqz*acaaOO*adaaOO
   *acaaPabaumadq*adaaPabaumadq*acaaPabFLOURISH*adaaPabFLOURISH*acaaPabSQUIRRELgt
   *adaaPabSQUIRRELgt*acaaQabaumadq*adaaQabaumadq*acaaQabdsau*adaaQabdsau*acaaR ROTUNDA
   *adaaR ROTUNDA*acaaRUM ROTUNDA*adaaRUM ROTUNDA*acaaVabdsau*adaaVabdsau*acaaVY*adaaVY
   *acaaVISIGOTHIC Z*adaaVISIGOTHIC Z*acaaTHORNabau*adaaTHORNabau*acaaTHORNabaumadq
   *adaaTHORNabaumadq*acaaVEND*adaaVEND*acaaET*adaaET*acaaIS*adaaIS*acaaCON*adaaCON&fjaaUS
   &feadaaDUM,LUM,MUM,NUM,RUM*aaadacRUM*adaaTUM,UM*acaajpD*adaajpD*acaajpF*adaajpF*acaajpG,crjpG
   *adaacrjpG*acaacrL*adaacrL*acaajpR*adaajpR*acaajpS*adaajpS*acaajpT*adaajpT&fjaaftbgfs+iq+ffglag
   &feacaaSALTILLO*adaaSALTILLO*acaacrH*adaaLabdjboapyr*aaSINOLOGICALbv*acaaNabdq*adaaNabdq
   *acaaCabeb*adaaCabeb:gpbo,Habgpbo*acaaBabFLOURISH*adaaBabFLOURISH*acaaFabau*adaaFabau
   *acaaVOLAPUK AE*adaaVOLAPUK AE*acaaVOLAPUK OE*adaaVOLAPUK OE*acaaVOLAPUK UE*adaaVOLAPUK UE
   *acaaGabliau*adaaGabliau*acaaKabliau*adaaKabliau*acaaNabliau*adaaNabliau*acaaRabliau
   *adaaRabliau*acaaSabliau*adaaSabliau*acaaHabbo,bzejE,jcG,Labyr,adacI*aaadacQ*acaacrK.T,Jabky,ss
   ,qe*adaaqe*acaahk*adaahk*acaaUabau*adaaUabau*acaaguA*adaaguA*acaaguI*adaaguI*acaaguU*adaaguU
   *acaajiPOLISH O*adaajiPOLISH O*acaaANGLICANA W*adaaANGLICANA W*acaaCabgpbo,Sabbo,Zabgpbo
   ,Dabffauhv*adaaDabffauhv*acaaSabffauhv*adaaSabffauhv@A7D0*acaagmjpG*adaagmjpG@A7D3,alTHORN
   @A7D5.WYNN*acaabbSCOTS S*adaabbSCOTS S*acaaSIGMOID S*adaaSIGMOID S@A7F2&fjaaacC,F,Q&feacaabzcoH
   *adaabzcoH*EPIGRAPHICaaphI&fjaaacHabau+adexOE&feaaadaccrM*EPIGRAPHICaabzF.P,ccM,I LONGA,jgM
   &SYLOTI NAGRIaaA,I+agDVISVARA+aaU,E,O+agHASANTA+aaKO,KHO,GO,GHO+agdf+aaCO,CHO,JO,JHO,TTO,TTHO
   ,DDO,DDHO,TO,zc,DO,DHO,NO,PO,PHO,BO,BHO,MO,RO,LO,RRO,SO,HO+ckagA.I.U.E.OO+POETRY MARK-1,MARK-2
   ,MARK-3,MARK-4+aggjHASANTA@A830&fvINDICifbrfr.co,atjw,bruq.ia,atSIXTEENTHS+frba+PLACEHOLDERba
   +RUPEEba+QUANTITYba@A840&PHAGS-PAaaKA+id+GA+hl+CA+hw+JA+hz+TA+iu+DA+NA+PA+jh+BA+MA+oy+tz+DZA+WA
   +ty+ZA+adA+YA+RA+LA+hm+SA+HA+A+I+U+E+O+QA+XA+FA+GGA+EE*usaaWA,YA*aajx+ip+kc+la+gjYA+VOICELESShm
   +svHA+ASPIRATED FA*usaaRA*SUPERFIXEDaaRA*aadz*deqhba*alqhba*basz+alsz@A880&SAURASHTRAagdf+fb
   *aaA+AA+I+II+U+UU+ddR,RR,L,LL+E+EE+AI+O+OO+AU+KA+id+GA+kl+hl+CA+hw+JA+nc+hz+jx+ip+kc+ja+la+TA
   +iu+DA+kj+NA+PA+jh+BA+le+MA+YA+RA+LA+VA+hm+lz+SA+HA+qs*ghagHAARU*ckagAA,I,II,U,UU,ddR.RR.L.LL,E
   ,EE,AI,O,OO,AU*agfk+dz@A8CE*jb*aljb*cteh+br+bl+at+bm+bt+du+by+bp+cu@A8E0&dvDEVANAGARIcteh,br,bl
   ,at,bm,bt,du,by,bp,cu+aaA,U,KA,NA,PA,RA,VI+agjk&DEVANAGARIagSPACINGdz+dzfk+aldzfk+dzbl,at,jk
   +PUSHPIKA*GAPuw*vw*HEADSTROKE*agvv*JAIN OM*aaAY*ckagAY&KAYAH LIcteh,br,bl,at,bm,bt,du,by,bp,cu
   +aaKA,id,GA,hl,SA,hm,ZA,hz,TA,HTA,NA,PA,jh,MA,DA,BA,RA,YA,LA,WA,iu,HA,VA,CA,A,OE,I,OO+ckUE,E,U
   ,EE,O+eoPLOPHU,CALYA.PLOPHU+agCWI,SHYA&REJANGaaKA+GA+hl+TA+DA+NA+PA+BA+MA+CA+JA+hz+SA+RA+LA+YA
   +WA+HA+MBA+NGGA+NDA+NYJA+A*ckagI,U,E,AI,O,AU,EU,EA*ghagNG,N,R,H*fk@A95F*hrba
   &uvCHOSEONG TIKEUT-MIEUM+TIKEUT-PIEUP+TIKEUT-SIOS+TIKEUT-CIEUC+xn+RIEUL-SSANGKIYEOK
   +RIEUL-TIKEUT+RIEUL-SSANGTIKEUT+zj+zk+RIEUL-SSANGPIEUP+RIEUL-KAPYEOUNPIEUP+RIEUL-SIOS
   +RIEUL-CIEUC+RIEUL-KHIEUKH+MIEUM-KIYEOK+MIEUM-TIKEUT+MIEUM-SIOS+PIEUP-SIOS-THIEUTH
   +PIEUP-KHIEUKH+PIEUP-HIEUH+SSANGSIOS-PIEUP+IEUNG-RIEUL+IEUNG-HIEUH+SSANGCIEUC-HIEUH
   +SSANGTHIEUTH+PHIEUPH-HIEUH+HIEUH-SIOS+SSANGYEORINHIEUH@A980&JAVANESEagPANYANGGA+CECAK+LAYAR
   +WIGNYAN*aaA+I KAWI,+II+U+PA CEREK+hlLELET.RASWADI+E+AI+O+KA,SASAK,uy+GA,uy+hl+CA,uy+JA+hzuy
   +JApi+hz+jx,pi+kc,pi+NAuy+TA,uy+DA,pi+NA+PA,uy+BA,uy+MA+YA+RA,AGUNG+LA+WA+SAuy,pi,+HA
   *agCECAK TELU*ckagTARUNG,TOLONG,WULU.MELIK,SUKU.MENDUT,TALING,DIRGA MURE,PEPET*ghagKERET
   ,PENGKAL,CAKRA*PANGKON*aoRERENGGAN*ahRERENGGAN*PADA ANDAP+MADYA+LUHUR+WINDU+PANGKAT+LINGSA
   +LUNGSI+ADEG,ADEG+PISELEH*crPADA PISELEH@A9CF*PANGRANGKEP*cteh+br+bl+at+bm+bt+du+by+bp+cu
   @A9DE*PADA TIRTA TUMETES+ISEN-ISEN&MYANMARaayzkl,hw,nc,la,le*agyzSAW*fjaayzREDUPLICATION
   *aaTAI LAINGhz.FA.GA.kl.JA.nc.kc.ja.la*TAI LAINGcteh.br.bl.at.bm.bt.du.by.bp.cu*aaTAI LAINGqs
   .DA.kj.BA.le@AA00&CHAMaaA+I+U+E+AI+O+KA+id+GA+kl+NGUE+hl+hw+CHHA+JA+nc+NHUE+NHA+NHJA+TA+iu+DA
   +kj+NUE+NA+kc+PA+PPA+jh+BA+le+MUE+MA+BBA+YA+RA+LA+VA+lz+SA+HA*ckagAA,I,II,EI,U,OE,O,AI,AU,UE
   *ghagYA,RA,LA,WA@AA40*aaanK,G,NG*ghaganNG*aaanCH,T,N,P,Y,R,L,SS*ghaganM.H@AA50*cteh+br+bl+at+bm
   +bt+du+by+bp+cu@AA5C*cnSPIRAL+jb+aljb+ewjb&MYANMARaaKHAMTI GA,CA,hw,JA,nc,hz,jx,ip,kc,ja,kj,NA
   ,SA,HA,HHA,FA*fjaaKHAMTI REDUPLICATION*aaKHAMTI XA,ZA,RA*LOGOGRAM KHAMTI OAY,QN,HM*avAITONei,br
   ,bl*aaAITON RA*agPAOxzeo+TAI LAINGta.tb*aaSHWE PALAUNGhw.hm&TAI VIETaaftKO,evKO,ftKHO,evKHO
   ,ftKHHO,evKHHO,ftGO,evGO,ftNGO,evNGO,ftCO,evCO,ftCHO,evCHO,ftSO,evSO,ftNYO,evNYO,ftDO,evDO,ftTO
   ,evTO,ftzc,evzc,ftNO,evNO,ftBO,evBO,ftPO,evPO,ftPHO,evPHO,ftFO,evFO,ftMO,evMO,ftYO,evYO,ftRO
   ,evRO,ftLO,evLO,ftVO,evVO,ftHO,evHO,ftO,evO+MAI KANG+ckAA,I,UE,U,E,O+MAI KHIT+ckIA,UEA,UA,AUE
   ,AY,AN,AM+eoMAI EK.NUENG.zc.SONG@AADB+avKON,NUENG,SAM,HO HOI,KOI KOI&MEETEI MAYEKaaE,O,hw,hz,jx
   ,ip,kc,ja,la,hm,lz+ckagII.UU.AAI.AU.AAU+CHEIKHAN+AHANG KHUDAM+ANJI+jlREPETITIONba
   +txREPETITIONba+ckagfb+fk@AB01&ETHIOPICjlTTHU+TTHI+TTHAA+TTHEE+TTHE+TTHO@AB09+DDHU+DDHI+DDHAA
   +DDHEE+DDHE+DDHO@AB11+DZU+DZI+DZAA+DZEE+DZE+DZO@AB20+CCHHA+CCHHU+CCHHI+CCHHAA+CCHHEE+CCHHE
   +CCHHO@AB28+BBA+BBU+BBI+BBAA+BBEE+BBE+BBO@AB30&feadaasuic,A REVERSED-SCHWA,BLACKLETTER E,suE
   ,EabFLOURISH,LENIS F,jcGabky,LabccLAZY S:albbcs:bbdx,Mabky,Nabky,ENGabky,BLACKLETTER O:abau
   ,ejOabau,ccOE,crOEabau;ayau.O OPEN-O;abau,STIRRUP R*aaadacRabahxv*adaaR WITHOUT HANDLE,alR
   ,Rabky,alRabky,jcR:abdx,BASELINExe,Uabffahxv.ebabffahxv,UI,crUI,Uabaobo,ss.abftahdx;aoSERIF
   ,Xabftahdx:emaoxv=apftahdx=abSERIF,Yabffahxv&fjeyabccey*aaadHENG,LabccLAZY S:bbcs,Uabaobo
   &feadaaSAKHA YAT,jjE,ejOE,UO,ccic&kaaaadachk&feadaaDZgvabdjbo,TSgvabdjbo,crRabbbcs&fjaaadcrW
   +aojt+ahjt@AB70&CHEROKEEadaaA,E,I,O,U,V,GA,KA,GE,GI,GO,GU,GV,HA,HE,HI,HO,HU,HV,LA,LE,LI,LO,LU
   ,LV,MA,ME,MI,MO,MU,NA,HNA,NAH,NE,NI,NO,NU,NV,QUA,QUE,QUI,QUO,QUU,QUV,SA,S,SE,SI,SO,SU,SV,DA,TA
   ,DE,TE,DI,TI,DO,DU,DV,DLA,TLA,TLE,TLI,TLO,TLU,TLV,oy,TSE,TSI,TSO,TSU,TSV,WA,WE,WI,WO,WU,WV,YA
   &MEETEI MAYEKaaKOK,SAM,LAI,MIT,PA,NA,CHIL,TIL,KHOU,NGOU,THOU,WAI,xi,HUK,UN,I,PHAM,ATIYA,GOK
   ,JHAM,RAI,BA,JIL,DIL,GHOU,DHOU,BHAM,KOKww,LAIww,MITww,PAww,NAww,TILww,NGOUww,Iww+ckagONAP.INAP
   .ANAP.YENAP.SOUNAP.UNAP.CHEINAP.NUNG+CHEIKHEI+LUM IYEK+APUN IYEK@ABF0+cteh,br,bl,at,bm,bt,du,by
   ,bp,cu@D7B0&uvJUNGSEONG O-YEO+O-O-I+YO-A+YO-AE+YO-EO+U-YEO+U-I-I+YU-AE+YU-O+EU-A+EU-EO+EU-E
   +EU-O+I-YA-O+I-YAE+I-YEO+I-YE+I-O-I+I-YO+I-YU+I-I+ARAEA-A+ARAEA-E@D7CB*JONGSEONG NIEUN-RIEUL
   +NIEUN-CHIEUCH+zf+SSANGTIKEUT-PIEUP+TIKEUT-PIEUP+TIKEUT-SIOS+TIKEUT-SIOS-KIYEOK+TIKEUT-CIEUC
   +TIKEUT-CHIEUCH+TIKEUT-THIEUTH+RIEUL-SSANGKIYEOK+RIEUL-KIYEOK-HIEUH+SSANGRIEUL-KHIEUKH
   +RIEUL-MIEUM-HIEUH+RIEUL-PIEUP-TIKEUT+RIEUL-PIEUP-PHIEUPH+RIEUL-YESIEUNG
   +RIEUL-YEORINHIEUH-HIEUH+KAPYEOUNRIEUL+MIEUM-NIEUN+MIEUM-SSANGNIEUN+SSANGMIEUM+MIEUM-PIEUP-SIOS
   +MIEUM-CIEUC+PIEUP-TIKEUT+PIEUP-RIEUL-PHIEUPH+PIEUP-MIEUM+SSANGPIEUP+yc+PIEUP-CIEUC
   +PIEUP-CHIEUCH+SIOS-MIEUM+SIOS-KAPYEOUNPIEUP+SSANGSIOS-KIYEOK+SSANGSIOS-TIKEUT+SIOS-PANSIOS
   +SIOS-CIEUC+SIOS-CHIEUCH+SIOS-THIEUTH+SIOS-HIEUH+PANSIOS-PIEUP+PANSIOS-KAPYEOUNPIEUP
   +YESIEUNG-MIEUM+YESIEUNG-HIEUH+CIEUC-PIEUP+CIEUC-SSANGPIEUP+SSANGCIEUC+PHIEUPH-SIOS
   +PHIEUPH-THIEUTH@FB00&feadexFF,FI,FL,FFI,FFL,emS T,ST@FB13&ARMENIANadexMEN NOW.ECH.INI,VEW NOW
   ,MEN XEH@FB1D&HEBREWaaYODabHIRIQ*sdJUDEO-SPANISH VARIKA*exYIDDISH YOD YOD PATAH*aaALTERNATIVExk
   +WIDEdk,DALET,HE,ox,LAMED,anvp,vq,TAV+ALTERNATIVEchag+lcablcbv.SINbv.jfaplcbv;SINbv+dkabPATAH
   .QAMATS.MAPIQ+BETabjf+olabjf+DALETabjf+HEabMAPIQ+VAVabjf+qrabjf@FB38+TETabjf+YODabjf+anoxabjf
   +oxabjf+LAMEDabjf@FB3E+vpabjf@FB40+kkabjf+meabjf@FB43+anPEabjf+PEabjf@FB46+TSADIabjf+QOFabjf
   +vqabjf+lcabjf+TAVabjf+VAVabHOLAM+BETabRAFE+oxabRAFE+PEabRAFE*exdkLAMED&kqaadkWASLAajae.anae
   +BEEHajae,anae,asae,ceae+PEHajae,anae,asae,ceae+BEHEHajae,anae,asae,ceae+TTEHEHajae,anae,asae
   ,ceae+TEHEHajae,anae,asae,ceae+TTEHajae,anae,asae,ceae+VEHajae,anae,asae,ceae+PEHEHajae,anae
   ,asae,ceae+DYEHajae,anae,asae,ceae+NYEHajae,anae,asae,ceae+TCHEHajae,anae,asae,ceae+TCHEHEHajae
   ,anae,asae,ceae+DDAHALajae,anae+DAHALajae,anae+DULajae,anae+DDALajae,anae+JEHajae,anae+RREHajae
   ,anae+KEHEHajae,anae,asae,ceae+GAFajae,anae,asae,ceae+GUEHajae,anae,asae,ceae+NGOEHajae,anae
   ,asae,ceae+jdGHUNNAajae.anae+RNOONajae,anae,asae,ceae+pfabepaiajae;anae,GOALajae.anae.asae.ceae
   ,DOACHASHMEEajae.anae.asae.ceae+epBARREEajae.anae.abhnaiajae<anae*avbvai,am+bldbai.am+atdbai.am
   .cdbdai;am+bmdbai.am+alarebam+bldbqiai:am+dx+adqfai.am+WASLAai@FBD3*aaNGajae,anae,asae,ceae
   +Uajae,anae+OEajae,anae+YUajae,anae+Uabhnaiajae+VEajae,anae+KIRGHIZ OEajae.anae,YUajae.anae
   +Eajae,anae,asae,ceae+UIGHUR KAZAKH KIRGHIZdkcwasae<ceae*exepabhnaiabdkajae=anae<AEajae=anae
   <mlajae=anae<Uajae=anae<OEajae=anae<YUajae=anae<Eajae=anae=asae
   +UIGHUR KIRGHIZepabhnaiabdkcwajae_anae_asae*aaFARSIepajae.anae.asae.ceae*exepabhnaiabekajae
   <geajae<cgajae<dkcwajae<epajae+vkabekajae.geajae.hbajae.cgajae.dkcwajae.epajae+vsabekajae
   .geajae.hbajae.cgajae.dkcwajae.epajae+xlabekajae.cgajae.dkcwajae.epajae+ekabgeajae.cgajae
   +geabekajae.cgajae+hbabekajae.geajae.cgajae+lyabekajae.geajae.hbajae.cgajae+tmabgeajae.cgajae
   +vtabekajae.geajae.hbajae.cgajae+qfabgeajae.cgajae+ZAHabcgajae+nvabekajae.cgajae+nwabekajae
   .cgajae+tkabekajae.geajae.hbajae.cgajae.dkcwajae.epajae+rdabgeajae.cgajae.dkcwajae.epajae
   +oxabdkajae.ekajae.geajae.hbajae.mpajae.cgajae.dkcwajae.epajae+mpabekajae.geajae.hbajae.cgajae
   .dkcwajae.epajae+cgabekajae.geajae.hbajae.cgajae.dkcwajae.epajae+jdabekajae.geajae.hbajae
   .cgajae.dkcwajae.epajae+pfabekajae.cgajae.dkcwajae.epajae+epabekajae.geajae.hbajae.cgajae
   .dkcwajae.epajae+THALabisdkajae+okabisdkajae+dkcwabisdkajae+SHADDAabDAMMATANajae.KASRATANajae
   .tlajae.vrajae.seajae.isdkajae+epabhnaiabokanae<tvanae<cganae<jdanae<dkcwanae<epanae+vkabokanae
   .tvanae.cganae.jdanae.dkcwanae.epanae+vsabokanae.tvanae.cganae.jdanae.dkcwanae.epanae
   +xlabokanae.tvanae.cganae.jdanae.dkcwanae.epanae+tkabdkcwanae.epanae+rdabdkcwanae.epanae
   +oxabdkanae.mpanae.cganae.dkcwanae.epanae+mpabcganae.dkcwanae.epanae+cgabdkanae.cganae
   +jdabokanae.tvanae.cganae.jdanae.dkcwanae.epanae+dkcwabisdkanae+epabokanae.tvanae.cganae.jdanae
   .dkcwanae.epanae.hnaiabekasae<geasae<hbasae<cgasae<pfasae+vkabekasae.geasae.hbasae.cgasae
   .pfasae+vsabekasae.geasae.hbasae.cgasae.pfasae+xlabcgasae+ekabgeasae.cgasae+geabekasae.cgasae
   +hbabekasae.cgasae+lyabekasae.geasae.hbasae.cgasae+tmabgeasae.hbasae.cgasae+vtabekasae.geasae
   .hbasae.cgasae+qfabgeasae+ZAHabcgasae+nvabekasae.cgasae+nwabekasae.cgasae+tkabekasae.geasae
   .hbasae.cgasae+rdabgeasae.cgasae+oxabekasae.geasae.hbasae.mpasae.cgasae+mpabekasae.geasae
   .hbasae.cgasae.pfasae+cgabekasae.geasae.hbasae.cgasae+jdabekasae.geasae.hbasae.cgasae.pfasae
   +pfabekasae.cgasae.isdkasae+epabekasae.geasae.hbasae.cgasae.pfasae.hnaiabcgceae<pfceae
   +vkabcgceae.pfceae+vsabcgceae.pfceae+xlabcgceae.pfceae+lyabcgceae.pfceae+mqabcgceae.pfceae
   +oxabmpceae.cgceae+mpabcgceae+jdabcgceae.pfceae+epabcgceae.pfceae+SHADDAabtlceae.vrceae.seceae
   +qfabdkcwajae.epajae+nvabdkcwajae.epajae+nwabdkcwajae.epajae+lyabdkcwajae.epajae+mqabdkcwajae
   .epajae+geabdkcwajae.epajae+ekabdkcwajae.epajae+hbabdkcwajae.epajae+tmabdkcwajae.epajae
   +vtabdkcwajae.epajae+mqabekajae.geajae.hbajae.cgajae.okajae+lyabokajae+tmabokajae+vtabokajae
   +qfabdkcwanae.epanae+nvabdkcwanae.epanae+nwabdkcwanae.epanae+lyabdkcwanae.epanae+mqabdkcwanae
   .epanae+geabdkcwanae.epanae+ekabdkcwanae.epanae+hbabdkcwanae.epanae+tmabdkcwanae.epanae
   +vtabdkcwanae.epanae+mqabekanae.geanae.hbanae.cganae.okanae+lyabokanae+tmabokanae+vtabokanae
   +mqabekasae.geasae.hbasae.cgasae+lyabpfasae+mqabpfasae+qfabcgasae+lyabekceae.geceae.hbceae
   +mqabekceae.geceae.hbceae+qfabcgceae+ZAHabcgceae+dkabwlanae:ajae&ORNATEaocq*ahcq
   &kqexRAHIMAHU ALLAAH+RADI ALLAAHU ANH.ANHAA.ANHUM.ANHUMAA.ANHUNNA+SALLALLAAHU ALAYHI WA-AALIH
   +ALAYHI AS-SALAAM+ALAYHIM AS-SALAAM+ALAYHIMAA AS-SALAAM+ALAYHI AS-SALAATU WAS-SALAAM
   +QUDDISA SIRRAH+SALLALLAHU ALAYHI WAAALIHEE WA-SALLAM+ALAYHAA AS-SALAAM+TABAARAKA WA-TAAALAA
   +RAHIMAHUM ALLAAH+vsabekabcgasae.geabekanae<asae;cgasae.hbabcgasae.cgabekasae;geasae;hbasae
   +ekabcgabgeanae<asae+geabcgabepanae;dkcwanae+lyabgeabekasae.ekabgeasae;dkcwanae.cgabgeanae<asae
   ;ekasae;cganae<asae+tmabgeabgeanae<asae.cgabcganae+mqabgeabcganae<asae.ekabepanae.cgabhbanae
   <asae;cganae<asae+vtabgeabdkcwanae.hbabcganae<asae+qfabcgabgeanae<asae;cgasae;epanae
   +nvabekabcganae.cgabcganae<asae;dkcwanae+nwabcgabcganae;epanae;dkcwanae+tkabhbabcganae<asae
   +rdabcgabgeanae;cganae+mpabgeabcganae;epanae;dkcwanae.ekabekasae<anae.hbabcganae<asae
   .cgabgeanae<asae+cgabgeabekasae;cgasae;epanae.ekabgeasae;cgasae.hbabekasae;cgasae
   @FD92.ekabhbasae+pfabcgabekasae;cgasae+jdabgeabcgasae;dkcwanae.ekabcganae<asae;dkcwanae
   .cgabepanae;dkcwanae+epabcgabcganae<asae+vkabhbabepanae+vsabekabepanae;dkcwanae.hbabepanae
   ;dkcwanae.cgabepanae;dkcwanae+ekabcgabepanae.geabdkcwanae.cgabdkcwanae+lyabhbabdkcwanae
   +tmabgeabepanae+mqabgeabepanae+vtabgeabepanae+mpabekabepanae.cgabepanae+epabgeabepanae
   .ekabepanae.cgabepanae+cgabcgabepanae+rdabcgabepanae+jdabgeabepanae+rdabcgabgeasae
   +mpabgeabcgasae+nvabcgabepanae+oxabcgabepanae+jdabekabgeasae+cgabhbabepanae+mpabekabcgasae
   +oxabcgabcganae+mpabekabcganae+jdabekabgeanae+ekabgeabepanae+geabekabepanae+cgabekabepanae
   +tkabcgabepanae+vkabgeabepanae+oxabcgabcgasae+nvabekabcgasae+tmabcgabcgasae+lyabhbabepanae
   +jdabekabepanae@FDCF+SALAAMUHU ALAYNAA@FDF0+SALLA USED AS KORANICezagajae
   +QALA USED AS KORANICezagajae+ALLAHajae+AKBARajae+MOHAMMADajae+SALAMajae+RASOULajae+ALAYHEajae
   +WASALLAMajae+SALLAajae+SALLALLAHOU ALAYHE WASALLAM+JALLAJALALOUHOU&RIALag
   &kqexBISMILLAH AR-RAHMAN AR-RAHEEM+SUBHAANAHU WA TAAALAA+AZZA WA JALL&ydSELECTOR-1*SELECTOR-2
   *SELECTOR-3*SELECTOR-4*SELECTOR-5*SELECTOR-6*SELECTOR-7*SELECTOR-8*SELECTOR-9*SELECTOR-10
   *SELECTOR-11*SELECTOR-12*SELECTOR-13*SELECTOR-14*SELECTOR-15*SELECTOR-16&PRESENTATIONaemkaren
   .hoen:hhez.iq.kx.eiba.fpba.aoazohbf.ahazohBRAKCET.ayro@FE20&dvexaoco+ahco*alcsaoco,ahco*dlaoco
   +ahco*CONJOININGdl*exaocoam+ahcoam*csaocoam+ahcoam*dlaocoam+ahcoam*CONJOININGdlam*knTITLOaoco
   ,ahco&PRESENTATIONaemkarblbvLEADER.EMiv.ENiv.ftfq.WAVYftfq.aocq.ahcq.aojqbf.ahjqbf.aoiykmbf
   .ahiykmbf.aoaxohbf.ahaxohbf.aoalfdbf.ahalfdbf.aofdbf.ahfdbf.aohfbf.ahhfbf.aoazhfbf.ahazhfbf
   &SESAMEbv&azSESAMEbv&PRESENTATIONaemkaraobnbf.ahbnbf&oprm&CENTRELINErm&WAVYrm&alWAVYrm&opftfq
   &CENTRELINEftfq&WAVYftfq&aden*hoen*hhez@FE54*kx*iq*fpba*eiba*EMiv*aocq*ahcq*aojqbf*ahjqbf
   *aoiykmbf*ahiykmbf*doag*pa*dp*chag*xh*caag*bkag*glag@FE68*irhq*yqag*PERCENTag*vmAT
   @FE70&kqwlajae*TATWEELabwlai*DAMMATANajae*gtFRAGMENT*KASRATANajae@FE76*tlajae+ceae*vrajae+ceae
   *seajae+ceae*SHADDAajae+ceae*SUKUNajae+ceae*aahnajae+dkabxxaiajae;anae.hnaiajae;anae
   +mlabhnaiajae;anae+dkabhnamajae;anae+epabhnaiajae;anae;asae;ceae+dkajae,anae+vkajae,anae,asae
   ,ceae+vsMARBUTAajae.anae,ajae,anae,asae,ceae+xlajae,anae,asae,ceae+ekajae,anae,asae,ceae+geajae
   ,anae,asae,ceae+hbajae,anae,asae,ceae+DALajae,anae+THALajae,anae+okajae,anae+tvajae,anae+lyajae
   ,anae,asae,ceae+mqajae,anae,asae,ceae+tmajae,anae,asae,ceae+vtajae,anae,asae,ceae+qfajae,anae
   ,asae,ceae+ZAHajae,anae,asae,ceae+nvajae,anae,asae,ceae+nwajae,anae,asae,ceae+tkajae,anae,asae
   ,ceae+rdajae,anae,asae,ceae+oxajae,anae,asae,ceae+mpajae,anae,asae,ceae+cgajae,anae,asae,ceae
   +jdajae,anae,asae,ceae+pfajae,anae,asae,ceae+mlajae,anae+dkcwajae.anae+epajae,anae,asae,ceae
   *exmpabdkabxxaiajae=anae;hnaiajae=anae<amajae=anae:ajae:anae@FEFF&ehWIDTH NO-BREAKlg
   @FF01&FULLWIDTHeiba*erba*doag*yqag*PERCENTag*pa*mn*aocq*ahcq*dp*chag*en*xh*hhez*hq*cteh+br+bl
   +at+bm+bt+du+by+bp+cu*iq*kx*caag*glag*bkag*fpba*vmAT*feacaaA.B.C.D.E.F.G.H.I.J.K.L.M.N.O.P.Q.R
   .S.T.U.V.W.X.Y.Z*aobnbf*irhq*ahbnbf*bgfs*ftfq*effs*feadaaA.B.C.D.E.F.G.H.I.J.K.L.M.N.O.P.Q.R.S
   .T.U.V.W.X.Y.Z*aojqbf*arfq*ahjqbf*cs*aoazcq*ahazcq&HALFWIDTHhohhez*aohfbf*ahhfbf*hoen*ngbbbv
   +aaWO,adA.I.U.E.O.YA.YU.YO.TU*ocPROLONGEDnzba*ngaaA,I,U,E,O,KA,KI,KU,KE,KO,SA,SI,SU,SE,SO,TA,TI
   ,TU,TE,TO,NA,NI,NU,NE,NO,HA,HI,HU,HE,HO,MA,MI,MU,ME,MO,YA,YU,YO,RA,RI,RU,RE,RO,WA,N+svnzba
   +SEMI-VOICEDnzba*uvuw+aawn,ze,KIYEOK-SIOS,NIEUN,zh,zi,wo,zf,RIEUL,xn,zj,zk,RIEUL-SIOS
   ,RIEUL-THIEUTH,RIEUL-PHIEUPH,zg,MIEUM,PIEUP,SSANGPIEUP,PIEUP-SIOS,SIOS,SSANGSIOS,ya,yb
   ,SSANGCIEUC,ua,ub,uc,ud,HIEUH@FFC2,A,AE,YA,YAE,EO,E@FFCA,YEO,YE,O,WA,WAE,OE@FFD2,YO,U,WEO,WE,WI
   ,YU@FFDA,EU,YI,I@FFE0&FULLWIDTH CENTag*POUNDag*izag*dl*BROKENeb*YENag*WONag
   @FFE8&HALFWIDTH FORMSclar*aqaf*bxaf*akaf*bdaf*axbn*azbu@FFF9&INTERLINEAR ANNOTATION ANCHOR+gb
   +TERMINATOR&OBJECT REPLACEMENTnx&REPLACEMENTnx"

end Collation.Unicode.Name
