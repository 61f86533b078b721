/-! Names of characters before U+1100: letters of most living scripts. -/

namespace Collation.Unicode.Name

def alphabets : String :=
  "@20&lg&eiba&erba&doag&yqag&PERCENTag&pa&mn&aocq&ahcq&dp&chag&en&xh&hhez&hq&cteh*br*bl*at*bm*bt
   *du*by*bp*cu&iq&kx&caag&glag&bkag&fpba&vmAT&feacaaA,B,C,D,E,F,G,H,I,J,K,L,M,N,O,P,Q,R,S,T,U,V,W
   ,X,Y,Z&aobnbf&irhq&ahbnbf&bgfs&ftfq&effs&feadaaA,B,C,D,E,F,G,H,I,J,K,L,M,N,O,P,Q,R,S,T,U,V,W,X
   ,Y,Z&aojqbf&arfq&ahjqbf&cs@A0&NO-BREAKlg&cceiba&CENTag&POUNDag&CURRENCYag&YENag&BROKENeb&hrag
   &bs&COPYRIGHTag&FEMININE ORDINALpb&eualfderba&izag&vept&REGISTEREDag&dl&DEGREEag&PLUS-MINUSag
   &isbl*at&cyfs&MICROag&PILCROWag&bbbv&go&isbr&MASCULINE ORDINALpb&eaalfderba&VULGARifbrfr,co
   +atjw&ccfpba&feacaaAabef:cy:bg:cs:bs:dxai,AE,Cabgo,Eabef:cy:bg:bs,Iabef:cy:bg:bs,ETH,Nabcs
   ,Oabef:cy:bg:cs:bs&hyag&feacaaOabau,Uabef:cy:bg:bs,Yabcy,THORN*adaaSHARP S,Aabef:cy:bg:cs:bs
   :dxai,AE,Cabgo,Eabef:cy:bg:bs,Iabef:cy:bg:bs,ETH,Nabcs,Oabef:cy:bg:cs:bs&rlag&feadaaOabau,Uabef
   :cy:bg:bs,Yabcy,THORN,Yabbs*acaaAabdl*adaaAabdl*acaaAabey*adaaAabey*acaaAabna*adaaAabna
   *acaaCabcy*adaaCabcy*acaaCabbg*adaaCabbg*acaaCabbvai*adaaCabbvai*acaaCabgg*adaaCabgg*acaaDabgg
   *adaaDabgg*acaaDabau*adaaDabau*acaaEabdl*adaaEabdl*acaaEabey*adaaEabey*acaaEabbvai*adaaEabbvai
   *acaaEabna*adaaEabna*acaaEabgg*adaaEabgg*acaaGabbg*adaaGabbg*acaaGabey*adaaGabey*acaaGabbvai
   *adaaGabbvai*acaaGabgo*adaaGabgo*acaaHabbg*adaaHabbg*acaaHabau*adaaHabau*acaaIabcs*adaaIabcs
   *acaaIabdl*adaaIabdl*acaaIabey*adaaIabey*acaaIabna*adaaIabna*acaaIabbvai*adaalxI*acexIJ*adexIJ
   *acaaJabbg*adaaJabbg*acaaKabgo*adaaKabgo,KRA*acaaLabcy*adaaLabcy*acaaLabgo*adaaLabgo*acaaLabgg
   *adaaLabgg*acaaLabbbbv*adaaLabbbbv*acaaLabau*adaaLabau*acaaNabcy*adaaNabcy*acaaNabgo*adaaNabgo
   *acaaNabgg*adaaNabgg.PRECEDED BYmn*acaaENG*adaaENG*acaaOabdl*adaaOabdl*acaaOabey*adaaOabey
   *acaaOabalcy*adaaOabalcy*acexOE*adexOE*acaaRabcy*adaaRabcy*acaaRabgo*adaaRabgo*acaaRabgg
   *adaaRabgg*acaaSabcy*adaaSabcy*acaaSabbg*adaaSabbg*acaaSabgo*adaaSabgo*acaaSabgg*adaaSabgg
   *acaaTabgo*adaaTabgo*acaaTabgg*adaaTabgg*acaaTabau*adaaTabau*acaaUabcs*adaaUabcs*acaaUabdl
   *adaaUabdl*acaaUabey*adaaUabey*acaaUabdxai*adaaUabdxai*acaaUabalcy*adaaUabalcy*acaaUabna
   *adaaUabna*acaaWabbg*adaaWabbg*acaaYabbg*adaaYabbg*acaaYabbs,Zabcy*adaaZabcy*acaaZabbvai
   *adaaZabbvai*acaaZabgg*adaaZabgg,emS,Babau*acaaBabbo:TOPBAR*adaaBabTOPBAR*acaaeodu*adaaeodu
   *acaaejO,Cabbo*adaaCabbo*acaaAFRICAN D,Dabbo:TOPBAR*adaaDabTOPBAR,crmc*acaabzE,vn,ejE,Fabbo
   *adaaFabbo*acaaGabbo,lh*adaaHV*acaakp,Iabau,Kabbo*adaaKabbo,Labeb,LAMBDAabau*acaacrM,Nabaobo
   *adaaNabemahxv*acaaOabbbcs:js*adaaOabjs*acaaOI*adaaOI*acaaPabbo*adaaPabbo*aaYR*acaaeobl
   *adaaeobl*acaaxe*aabzxeqz*adaaTabgpbo*acaaTabbo*adaaTabbo*acaaTabdjbo,Uabjs*adaaUabjs*acaags
   ,Vabbo,Yabbo*adaaYabbo*acaaZabau*adaaZabau*acaaEZH.bz*adaaEZHbz.abgt*aablabau*acaaeobt*adaaeobt
   *aaccguezabau+WYNN+DENTALuo+LATERALuo+ALVEOLARuo+djuo*acaaDZabgg,DabadaaZabgg*adaaDZabgg*acaaLJ
   ,LabadaaJ*adaaLJ*acaaNJ,NabadaaJ*adaaNJ*acaaAabgg*adaaAabgg*acaaIabgg*adaaIabgg*acaaOabgg
   *adaaOabgg*acaaUabgg*adaaUabgg*acaaUabbsapdl*adaaUabbsapdl*acaaUabbsapcy*adaaUabbsapcy
   *acaaUabbsapgg*adaaUabbsapgg*acaaUabbsapef*adaaUabbsapef,crE*acaaAabbsapdl*adaaAabbsapdl
   *acaaAabbvaiapdl*adaaAabbvaiapdl*acaaAEabdl*adaaAEabdl*acaaGabau*adaaGabau*acaaGabgg*adaaGabgg
   *acaaKabgg*adaaKabgg*acaaOabna*adaaOabna*acaaOabnaapdl*adaaOabnaapdl*acaaEZHabgg*adaaEZHabgg
   ,Jabgg*acaaDZ,DabadaaZ*adaaDZ*acaaGabcy*adaaGabcy*acaaHWAIR,WYNN,Nabef*adaaNabef
   *acaaAabdxaiapcy*adaaAabdxaiapcy*acaaAEabcy*adaaAEabcy*acaaOabauapcy*adaaOabauapcy*acaaAabalef
   *adaaAabalef*acaaAabccey*adaaAabccey*acaaEabalef*adaaEabalef*acaaEabccey*adaaEabccey
   *acaaIabalef*adaaIabalef*acaaIabccey*adaaIabccey*acaaOabalef*adaaOabalef*acaaOabccey
   *adaaOabccey*acaaRabalef*adaaRabalef*acaaRabccey*adaaRabccey*acaaUabalef*adaaUabalef
   *acaaUabccey*adaaUabccey*acaaSabenam*adaaSabenam*acaaTabenam*adaaTabenam*acaaYOGH*adaaYOGH
   *acaaHabgg*adaaHabgg*acaaNabemahxv*adaaDaboe*acaaOU*adaaOU*acaaZabbo*adaaZabbo*acaaAabbvai
   *adaaAabbvai*acaaEabgo*adaaEabgo*acaaOabbsapdl*adaaOabbsapdl*acaaOabcsapdl*adaaOabcsapdl
   *acaaOabbvai*adaaOabbvai*acaaOabbvaiapdl*adaaOabbvaiapdl*acaaYabdl*adaaYabdl,Laboe,Naboe,Taboe
   ,lxJ,DBgv,QPgv*acaaAabau,Cabau*adaaCabau*acaaLabeb,Tabdsau*adaaSabSWASHgt,ZabSWASHgt*acaaguez
   *adaaguez*acaaBabau,Ueb,crV,Eabau*adaaEabau*acaaJabau*adaaJabau*acaaadQabbogt*adaaQabbogt
   *acaaRabau*adaaRabau*acaaYabau*adaaYabau,crA,ic,cric,Babbo,ejO,Caboe,Dabgt:bo,bzE,vn.abbo,ejE
   ,bzejE;abbo,gmbzejE,lxJabau,Gabbo,jcG*aaadacG*adaalh,RAMSjs,crH,Habbo,HENGabbo,Iabau,kp*aaadacI
   *adaaLabbbcs:yr:djbo,LEZH,crM:abemxv,Mabbo,Nabaobo:djbo*aaadacN*adaasuO*aaadacOE*adaagmhk,sc
   ,crR:abemxv;bo,Rabemxv:gt:ts,bzRabts*aaadacR.ccR*adaaSabbo,xe,lxJabauapbo,SQUATbzxe,xeaboe,crT
   ,Tabdjbo,Ueb,gs,Vabbo,crV.W.Y*aaadacY*adaaZabdjbo:oe,EZH.aboe*aaguez+PHARYNGEALsvFRICATIVE
   +ccguez+STRETCHED C+BILABIALuo+adacB*adaagmejE*aaadacGabbo.H*adaaJabky,crK*aaadacL*adaaQabbo
   *aaguezabau+bzguezabau*adaaDZgv,DEZHgv,DZgvaboe,TSgv,TESHgv,TCgvaboe,FENGgv,LSgv,LZgv
   *aaBILABIAL PERCUSSIVE+BIDENTAL PERCUSSIVE*adaacrHabts<apgt&fjaaadH.abbo,J,R,crR:abbo,acccR,W,Y
   +ti+alti+cren+mn+bzen+ahcodx+aocodx+guez+bzguez+aobw+ahbw+UPbw+cpbw+bgfs&gg&fjaaarfq+dl+cyfs
   +effs+ftarfq,dl,effs,cyfs+fuiq+cofuiq+ttahcodx,aocodx+UPjt+cpjt+chag+niag&ey&bvai&dxai&na&adcs
   &alcyfs&fjaaRHOTICbo+gdfs+adlh,L,S,X,bzguez+EXTRA-HIGHeoeb+eveoeb+MIDeoeb+fteoeb+EXTRA-LOWeoeb
   +YIN DEPARTINGeoba+xiDEPARTINGeoba+VOICING+UNASPIRATED+almn+ftcpbw,UPbw,aobw,ahbw,dx+bbeffs
   ,aleffs.cyfs+ftcs+imiq+BEGINeveo+oweveo+BEGINfteo+owfteo+SHELF+ejSHELF+ftaoaf&dveffs*cyfs*bgfs
   *cs*dl*rm*ey*bvai*bs*boai*dxai*alcyfs*gg*arfqai*alarfqai+effs*dz*ccey*crenai*enai*bzenai*enaiah
   *effsam*cyfsam*aojtam*ahjtam*aofdai*js*aocodxam*UPjtam*cpjtam*chagam*niagam*PALATALIZEDboam
   *djboam*bvam*bsam*dxam*enam*go*na*arfqam*BRIDGEam*ccalARCHam*ggam*bgfsam*eyam*cceyam*csam*dlam
   *ftfq*alftfq*cshv*ffauhv*emauhv*ffhqhv*emhqhv*ahcodxam*ccBRIDGEam*bnam*SEAGULLam*Xai*arcs*alrm
   *efeoba*cyeoba*kaci+KORONIS+jnmo+cf*BRIDGEai*glagam*alarfqam*aofdam*izcsai*HOMOTHETICai
   *mdcjTOai*aoahafam*bxafam*GRAPHEMEys*ahbwai*aocodxai*FERMATA*Xam*aobwam*ahbwam,apUPbwam+codxai
   *bvaiah*dpam*aldxam*wjai*aleyam,+dl,am+cs+ccey+akafam*feadaaA.E.I.O.U.C.D.H.M.R.T.V.X
   &kaacaaHETA*adaaHETA*acaajgSAMPI*adaajgSAMPI*qdag*cvqdag*acaaPAMPHYLIANyt*adaaPAMPHYLIANyt
   @37A*cf*adbzswjrav+fzswjrav+bzfzswjrav*fpba*acaaYOT@384*mo*jnmo*acaaicabmo*ANO TELEIA
   *acaahjabmo,upabmo,kpabmo@38C,joabmo@38E,gsabmo,hkabmo*adaakpabjnapmo*acaaic,qe,lh,mc,hj,vo,up
   ,kb,kp,nj,qp,MU,NU,XI,jo,PI,qq@3A3,jr,xf,gs,sc,ss,xw,hk,kpabjn,gsabjn*adaaicabmo,hjabmo,upabmo
   ,kpabmo,gsabjnapmo,ic,qe,lh,mc,hj,vo,up,kb,kp,nj,qp,MU,NU,XI,jo,PI,qq,anjr,jr,xf,gs,sc,ss,xw,hk
   ,kpabjn,gsabjn,joabmo,gsabmo,hkabmo*acKAIav*qeav*kbav*gsabboav,cyapboav,bsapboav*scav*PIav
   *KAIav*aajgKOPPA*adaajgKOPPA*aaSTIGMA*adaaSTIGMA*aayt*adaayt*aaKOPPA*adaaKOPPA*aaSAMPI
   *adaaSAMPI&itacaaSHEI*adaaSHEI*acaaFEI*adaaFEI*acaaKHEI*adaaKHEI*acaaHORI*adaaHORI*acaaGANGIA
   *adaaGANGIA*acaaSHIMA*adaaSHIMA*acaaDEI*adaaDEI&kanjav*qqav*swjrav*aaYOT*ackbav*swhjav*bzswhjav
   *acaaSHO*adaaSHO*acswjrav+aaSAN*adaaSAN*qqabauav*acbzswjrav+fzswjrav+bzfzswjrav&knacaaIEabef,IO
   ,DJE,GJE,UKRAINIAN IE,DZE,BYELORUSSIAN-UKRAINIAN I,YI,JE,LJE,NJE,TSHE,KJE,Iabef,ffU,DZHE,A,BE
   ,VE,xg,DE,IE,yu,ZE,I,ffI,KA,EL,EM,EN,O,PE,ER,ES,TE,U,EF,HA,TSE,st,hm,SHCHA,HARDag,yv,veag,E,YU
   ,YA*adaaA,BE,VE,xg,DE,IE,yu,ZE,I,ffI,KA,EL,EM,EN,O,PE,ER,ES,TE,U,EF,HA,TSE,st,hm,SHCHA,HARDag
   ,yv,veag,E,YU,YA,IEabef,IO,DJE,GJE,UKRAINIAN IE,DZE,BYELORUSSIAN-UKRAINIAN I,YI,JE,LJE,NJE,TSHE
   ,KJE,Iabef,ffU,DZHE*acaahk*adaahk*acaaYAT*adaaYAT*acaajjE*adaajjE*acaaegpc*adaaegpc*acaajjegpc
   *adaajjegpc*acaaBIGpc*adaaBIGpc*acaajjBIGpc*adaajjBIGpc*acaaKSI*adaaKSI*acaaxw*adaaxw*acaaFITA
   *adaaFITA*acaayw*adaayw*acaaywabaleffs*adaaywabaleffs*acaaUK*adaaUK*acaatjhk*adaatjhk
   *acaahkabTITLO*adaahkabTITLO*acaaOT*adaaOT*acaaKOPPA*adaaKOPPA*pdag&dvknTITLO+PALATALIZATION
   +dtPNEUMATA+dwPNEUMATA+POKRYTIE+bcpdag+tuag&knacaaffIabgt*adaaffIabgt*acaaSEMISOFTag
   *adaaSEMISOFTag*acaaERabTICK*adaaERabTICK*acaaxgabUPTURN*adaaxgabUPTURN*acaaxgabau*adaaxgabau
   *acaaxgabbbbo*adaaxgabbbbo*acaayuabdq*adaayuabdq*acaaZEabdq*adaaZEabdq*acaaKAabdq*adaaKAabdq
   *acaaKAabarau*adaaKAabarau*acaaKAabau*adaaKAabau*acaaBASHKIR KA*adaaBASHKIR KA*acaaENabdq
   *adaaENabdq*acexENxg*adexENxg*acaaPEabbbbo*adaaPEabbbbo*acaapeHA*adaapeHA*acaaESabdq*adaaESabdq
   *acaaTEabdq*adaaTEabdq*acaagyU*adaagyU*acaagyUabau*adaagyUabau*acaaHAabdq*adaaHAabdq*acexTE TSE
   *adexTE TSE*acaastabdq*adaastabdq*acaastabarau*adaastabarau*acaaSHHA*adaaSHHA*acaapest*adaapest
   *acaapestabdq*adaapestabdq*aaPALOCHKA*acaayuabey*adaayuabey*acaaKAabbo*adaaKAabbo*acaaELabgt
   *adaaELabgt*acaaENabbo*adaaENabbo*acaaENabgt*adaaENabgt*acaaKHAKASSIANst*adaaKHAKASSIANst
   *acaaEMabgt*adaaEMabgt,PALOCHKA*acaaAabey*adaaAabey*acaaAabbs*adaaAabbs*acexA IE*adexA IE
   *acaaIEabey*adaaIEabey*acaavn*adaavn*acaavnabbs*adaavnabbs*acaayuabbs*adaayuabbs*acaaZEabbs
   *adaaZEabbs*acaapeDZE*adaapeDZE*acaaIabdl*adaaIabdl*acaaIabbs*adaaIabbs*acaaOabbs*adaaOabbs
   *acaasuO*adaasuO*acaasuOabbs*adaasuOabbs*acaaEabbs*adaaEabbs*acaaUabdl*adaaUabdl*acaaUabbs
   *adaaUabbs*acaaUabalcy*adaaUabalcy*acaastabbs*adaastabbs*acaaxgabdq*adaaxgabdq*acaayvabbs
   *adaayvabbs*acaaxgabauapbo*adaaxgabauapbo*acaaHAabbo*adaaHAabbo*acaaHAabau*adaaHAabau*acaasxDE
   *adaasxDE*acaasxDJE*adaasxDJE*acaasxZJE*adaasxZJE*acaasxDZJE*adaasxDZJE*acaasxLJE*adaasxLJE
   *acaasxNJE*adaasxNJE*acaasxSJE*adaasxSJE*acaasxTJE*adaasxTJE*acaabzZE*adaabzZE*acaaELabbo
   *adaaELabbo*acaaLHA*adaaLHA*acaaRHA*adaaRHA*acaaYAE*adaaYAE*acaaQA*adaaQA*acaaWE*adaaWE
   *acaaALEUT KA*adaaALEUT KA*acaaELabbbbo*adaaELabbbbo*acaaENabbbbo*adaaENabbbbo*acaaPEabdq
   *adaaPEabdq*acaaSHHAabdq*adaaSHHAabdq*acaaENabaobo*adaaENabaobo*acaaDZZHE*adaaDZZHE*acaaDCHE
   *adaaDCHE*acaaELabdq*adaaELabdq@531&ARMENIANacaaAYB,BEN,GIM,DA,ECH,ZA,EH,ET,TO,yu,INI,LIWN,XEH
   ,CA,KEN,HO,JA,GHAD,CHEH,MEN,YI,NOW,hm,VO,hw,PEH,JHEH,RA,SEH,VEW,TIWN,ok,CO,YIWN,PIWR,KEH,OH,tk
   @559*fjaaaocodx*mn*EMPHASISba*eiba*en*fpba*fwba*adaacrAYB,AYB,BEN,GIM,DA,ECH,ZA,EH,ET,TO,yu,INI
   ,LIWN,XEH,CA,KEN,HO,JA,GHAD,CHEH,MEN,YI,NOW,hm,VO,hw,PEH,JHEH,RA,SEH,VEW,TIWN,ok,CO,YIWN,PIWR
   ,KEH,OH,tk+exECH YIWN+aaYIabau*hhez*pt@58D&xjARMENIAN ETERNITYag&yxARMENIAN ETERNITYag
   &ARMENIAN DRAMag@591&HEBREWfsETNAHTA+SEGOL+SHALSHELET+ZAQEF QATAN,GADOL+TIPEHA+REVIA+ZARQA
   +PASHTA+YETIV+TEVIR+GERESH,MUQDAM+GERSHAYIM+QARNEY PARA+TELISHA GEDOLA+PAZER+ATNAH HAFUKH+MUNAH
   +MAHAPAKH+MERKHA,KEFULA+DARGA+QADMA+TELISHA QETANA+YERAH BEN YOMO+OLE+ILUY+DEHI+ZINOR
   *baMASORAbu*sdSHEVA+HATAF SEGOL,PATAH,QAMATS+HIRIQ+TSERE+SEGOL+PATAH+QAMATS+HOLAM,HASERmkVAV
   +QUBUTS+jfOR MAPIQ+METEG*cnMAQAF*sdRAFE*cnPASEQ*sdlcbv+SINbv*cnSOF PASUQ*badhbv+cvbv
   *cnkkHAFUKHA*sdQAMATS QATAN@5D0*aadk+BET+ol+DALET+HE+VAV+qr+HET+TET+YOD+anox+ox+LAMED+anvp+vp
   +ankk+kk+me+xk+anPE+PE+anTSADI+TSADI+QOF+vq+lc+TAV@5EF*YODbi*exYIDDISHalVAV,VAV YOD,alYOD
   *cnGERESH+GERSHAYIM@600&kqdoag*agSANAH*FOOTNOTEwk*agSAFHA+SAMVAT*dobaai&juCUBE ROOT*FOURTH ROOT
   &kqRAY&juPER MILLEag+gwbeag&AFGHANIag&kqen*DATEgb*POETIC VERSEag*agMISRA
   +SALLALLAHOU ALAYHE WASSALLAM+ALAYHE ASSALLAM+RAHMATULLAH ALAYHE+RADI ALLAHOU ANHU+TAKHALLUS
   *adevqf,exdkabmpabep,tv+tl+vr+se*kx*aaba*owOF TEXTba*ewbvcnba*fpba*aaKASHMIRIep+hn+dkabxxai
   .hnai+mlabhnai+dkabhnam+epabhnai+dk+vk+vsMARBUTA,+xl+ek+ge+hb+DAL+THAL+ok+tv+ly+mq+tm+vt+qf+ZAH
   +nv+nw+KEHEHabbldbai.atdbam+FARSIepabccV:bldbai:atdbai*TATWEEL*aatk+rd+ox+mp+cg+jd+pf+ml+dkcw
   +ep*wl*DAMMATAN*KASRATAN*tl*vr*se*SHADDA*SUKUN*MADDAHai*hnai+am*sfdk*ccvr*bajdGHUNNA*ZWARAKAY
   *ckagadVai,ccadVai,bvam*bzvr*tlabbldb*WAVYhnam&jucteh+br+bl+at+bm+bt+du+by+bp+cu&kqPERCENTag
   *DECIMALgb*pdgb*btfggk*aalxvk,rd+isdk+dkWASLA,abWAVYhnai;am+evhn.dk.ml+Uabhnai+evhnep+TTEH
   +TTEHEH+BEEH+vsabdx.atdbaibd+PEH+TEHEH+BEHEH+geabhnai.bldbarai+NYEH+DYEH+geabatdbai+TCHEH
   +TCHEHEH+DDAL+DALabdx.bvam;apadqf+DAHAL+DDAHAL+DUL+DALabatdbaibd.bmdbai+RREH+okabadV.dx.bvam
   .adVam.bvamapbvai.bldbai+JEH+okabbmdbai+lyabbvamapbvai.atdbam<apatdbai+tmabbldbam.atdbai
   +qfabatdbai+nvabatdbai+lxtk+tkabbvMOVEDam:am+VEH+tkabatdbam+PEHEH+rdabbvai.atdbai+KEHEH+SWASHox
   +oxabdx.bvai+NG+oxabatdbam+GAF,abdx+NGOEH+GAFabbldbam+GUEH+GAFabatdbai+mpabadV.bvai.atdbai;am
   +jdabbvam,GHUNNA+RNOON+jdabdx.atdbai+pfDOACHASHMEE+TCHEHabbvai+pfabepai,GOAL.abhnai
   +vsMARBUTA GOAL+mlabdx+KIRGHIZ OE+OE+U+YU+KIRGHIZ YU+mlabbldbai+VE+FARSIep+epabgt.adV+mlabbvai
   +E+epabatdbam,BARREE.abhnai*hhez*aaAE*adevextmabmpabdkcw.rdabmpabdkcw,cgasae,mpdk,ek,atdb,ly
   *owOF AYAH*START OF RUB EL HIZB*adevqgeh,UPRIGHT RECTANGULAReh,lxqhOFhb,cgajae+ftly+evxx+ml+ep
   +evep,jd*PLACE OF SAJDAH*EMPTYedftez,evez*qgevezabFILLEDed*adftcg*aaDALabccV+okabccV&rnjucteh
   ,br,bl,at,bm,bt,du,by,bp,cu&kqaamqabbvam+vtabbvam+nwabbvam*agSINDHIpa,POSTPOSITION MEN
   *aapfabccV&SYRIACowOFxy*SUPRALINEARhhez*SUBLINEARhhez*SUPRALINEARiq*SUBLINEARiq*ayiq*iqSKEWEDao
   ,ah*SUPRALINEARiqSKEWEDao*SUBLINEARiqSKEWEDah*CONTRACTION*HARKLEAN OBELUS+METOBELUS+ASTERISCUS
   @70F*fwba*aaALAPH+isALAPH+sg+GAMAL,GARSHUNI+DALATH+lxDALATH RISH+HE+ml+tv+tw+TETH,GARSHUNI+YUDH
   ,HE+sy+LAMADH+MIM+kk+SEMKATH+anSEMKATH+E+PE+bzPE+pg+QAPH+RISH+lc+yy+PERSIAN BHETH,GHAMAL
   ,DHALATH*PTHAHAai+am+fz*ZQAPHAai+am+fz*RBASAai+am*fzZLAMAay,ANGULAR*HBASAai+am*HBASA-ESASAfz
   *ESASAai+am*RWAHA*FEMININEbv*QUSHSHAYA*RUKKAKHA*blardbai.am*atdbai,am*lifqai,am*MUSIC*BARREKH
   @74D*aaSOGDIAN ZHAIN,KHAPH,FE&kqaavkabatdbHORIZONTALLYam.bvamapatdbai.atdbcdbxam>apbldbai
   .bldbamapbvai.ccadVam.adV+geabbldbai.atdbcdbxam+DALabbldbqiamapadqf.ccadVam+okabau+lyabbmdbai
   +nvabbldbai.atdbcdbdai.bldbqiai+tkabbldbam.atdbcdbxam+KEHEHabbvai.atdbai;cdbxam+cgabbvai:am
   +jdabbldbam.adqf:V+mpabeb+okabbldbqiai.hnai+lyabbldbqiai+geabadkqaaqfam=apbldb
   +lyabadkqaaqfapbldb+okabadkqaaqfapbldb+geabadkqaaqfai+dkabrnjuctblai<atai+FARSIepabrnjuctblai
   =atai=bmam+mlabrnjuctblai<atai+epBARREEabrnjuctblai=atai+geabrnjuctbmam+lyabrnjuctbmai.ccV
   +oxabbldbai&THAANAaaHAA+SHAVIYANI+NOONU+RAA+BAA+LHAVIYANI+KAAFU+ALIFU+VAAVU+MEEMU+FAAFU+DHAALU
   +THAA+LAAMU+GAAFU+GNAVIYANI+SEENU+DAVIYANI+ZAVIYANI+TAVIYANI+YAA+PAVIYANI+JAVIYANI+CHAVIYANI
   +TTAA+HHAA+KHAA+THAALU+ZAA+SHEENU+SAADHU+DAADHU+TO+ZO+AINU+GHAINU+QAAFU+WAAVU*ABAFILI*AABAAFILI
   *IBIFILI*EEBEEFILI*UBUFILI*OOBOOFILI*EBEFILI*EYBEYFILI*OBOFILI*OABOAFILI*SUKUN*aaNAA
   @7C0&NKOcteh+br+bl+at+bm+bt+du+by+bp+cu*aaA+EE+I+E+U+OO+O+DAGBASINNA+N+BA+PA+TA+JA+hw+DA+RA+vl
   +SA+GBA+FA+KA+LA+NA WOLOSO+MA+hz+NA+HA+WA+YA+hzWOLOSO+JONA JA,hw,RA*dvffeveo,fteo,omeo
   +emDESCENDINGeo,eveo,fteo,omeo+NASALIZATIONba+albvai*eveomn*fteomn*avOO DENNEN+GBAKURUNEN*en
   *eiba*LAJANYALAN@7FD*DANTAYALAN*DOROMEag*TAMANag&SAMARITANaaALAF+BIT+GAMAN+DALAT+IY+BAA+ZEN+IT
   +TIT+YUT+KAAF+LABAT+MIM+kk+SINGAAT+IN+FI+TSAADIY+QUF+RISH+yz+TAAF*baIN+IN-ALAF+OCCLUSION+jf
   *fjaaEPENTHETIC YUT*baEPENTHETIC YUT*ckagemE,E,OVERLONG AA,emAA,AA,OVERLONG A,emA,A*fjaaffA
   *ckagffA,emU,U*fjaaI*ckagemI,I,O,SUKUN*baNEQUDAA@830*cnNEQUDAA+AFSAAQ+ANGED+BAU+ATMAAU
   +SHIYYAALAA*fwba*cnMELODIC QITSA+ZIQAA+QITSA+ZAEF+TURU+ARKAANU+SOF MASHFAAT+ANNAAU
   @840&MANDAICaaHALQA+AB+AG+AD+AH+USHENNA+AZ+IT+ATT+AKSA+AK+AL+AM+AN+AS+IN+AP+ASZ+AQ+AR+kz+AT
   +DUSHENNA+KAD+nv*AFFRICATIONba*VOCALIZATIONba*vuba@85E*cn@860&SYRIACaaMALAYALAMhl,JA,hz,jx,la
   ,NNNA,le,RA,qs,LLLA,lz@870&kqaadkabwmtl:lrahtl.ahbbau.aobbau.wmse:heahse:tjbvai:ahtjbv:aotjbv
   :tjbvam.bvai.wmlrahtlapbvai.ahbbauapbvai.wmheahseapbvai:lrahtlapaodx.ahbbauapaodx
   .wmheahseapaodx:ahhn:aohn*TATWEELabOVERSTRUCKhn.ml,bldbam*aaTHINep*BASELINEtjbv*imtjbv
   *aajdabccadV+geabccadVam+qfabbvam.atdbam+KEHEHabbldbqiam*argt@890*POUNDbaai*PIASTREbaai
   @898*adevtxAL-JUZ+fttxISHMAAM.IMAALA.TASHEEL*xxWAAJIB*isdkMOKHASSAS*DOUBLEDxx*coxxdgxx
   *aavkabadVam.hnai+ekabbldbai+qfabbldbai+tkabbvamapatdbai+rdabbvam+mpabaleb+cgabatdbai
   +epabbldbamaphnai=bvai+okabqz+mlabbvza+ROHINGYAep+ftdk+DALabatdbam+tmabatdbam+GAFabccau+gyml
   +tvabccVai+nvabatdbam+oxabbvam+rdabbvamapNOdbai+vkabadcgai+PEHabadcgai+vsabadvsai+okabadjdai
   +epabbldbamapadjdai+AFRICANtk,rd,jd+PEHabadV+vsabadV+TTEHabadV+TCHEHabadV+KEHEHabadV+nwabatdbai
   +AFRICANrdabatdbai+ekabatdbai;am+mpabadkqaaqfai+GRAF*adFARSIep+evFARSIep,epBARREEabbldbam,txSAH
   ,ZAH*eetjbvai.am*SUKUNam*eebuam+tjbvkrbuam*adftml+evtxAR-RUB,tm,nv,rd,jdabse+ftjdabse
   +evtxATH-THALATHA.AS-SAJDA.AN-NISF.SAKTA.QIF.WAQFA,FOOTNOTEwk,agSAFHA*DISPUTEDowOF AYAH*crvram
   *jqtl+vr+se+wl+DAMMATAN+KASRATAN*eobrbvai+bldbai+qzai+brbvam+bldbam+qzam*ejwl+DAMMATAN+KASRATAN
   *adevml*tlabdx,bvai*seabbvam*aobwai*ahbwai*aobwam*ahbwam*alahbwai:abbv*ahbwaiabbv*vrabbv
   *baphjdGHUNNA&DEVANAGARIagccdz+dz+df+fb*aaffA+A+AA+I+II+U+UU+ddR,L+nbE+ffE+E+AI+nbO+ffO+O+AU+KA
   +id+GA+kl+hl+CA+hw+JA+nc+hz+jx+ip+kc+ja+la+TA+iu+DA+kj+NA+NNNA+PA+jh+BA+le+MA+YA+RA+vl+LA+qs
   +LLLA+VA+hm+lz+SA+HA*ckagOE,OOE*agkd+jk*ckagAA,I,II,U,UU,ddR.RR,nbE,ffE,E,AI,nbO,ffO,O,AU*agfk
   *ckagPRISHTHAMATRA E,AW*OM*STRESSagUDATTA,ANUDATTA*effs*cyfs*ckagnbemE,UE,UUE*aaQA+KHHA+GHHA+ZA
   +DDDHA+RHA+FA+YYA+ddRR,LL*ckagddL.LL*jb*aljb*cteh+br+bl+at+bm+bt+du+by+bp+cu*fwag*agevSPACINGbv
   *aanbA+OE+OOE+AW+UE+UUE+MARWARIkc+ty+bhYA+GGA+JJA+guez+DDDA+BBA&BENGALI ANJI*agdz+df+fb@985*aaA
   +AA+I+II+U+UU+ddR,L@98F+E+AI@993+O+AU+KA+id+GA+kl+hl+CA+hw+JA+nc+hz+jx+ip+kc+ja+la+TA+iu+DA+kj
   +NA@9AA+PA+jh+BA+le+MA+YA+RA@9B2+LA@9B6+hm+lz+SA+HA@9BC*agkd+jk*ckagAA,I,II,U,UU,ddR.RR@9C7,E
   ,AI@9CB,O,AU*agfk*aaKHANDA TA@9D7*AUndba@9DC*aavl+RHA@9DF+YYA+ddRR,LL*ckagddL.LL@9E6*cteh+br+bl
   +at+bm+bt+du+by+bp+cu*aaRAabbbds.cvds*RUPEEba+ag*CURRENCY NUMERATORbr,bl,at,bm
   ,brLESS THANmmDENOMINATOR+DENOMINATORqj*ISSHAR*GANDAba*aaVEDICdf*fwag*SANDHIba
   @A01&GURMUKHIagADAK BINDI+BINDI+fb@A05*aaA+AA+I+II+U+UU@A0F+EE+AI@A13+OO+AU+KA+id+GA+kl+hl+CA
   +hw+JA+nc+hz+jx+ip+kc+ja+la+TA+iu+DA+kj+NA@A2A+PA+jh+BA+le+MA+YA+RA@A32+LA+qs@A35+VA+hm@A38+SA
   +HA@A3C*agkd@A3E*ckagAA,I,II,U,UU@A47,EE,AI@A4B,OO,AU*agfk@A51+UDAAT@A59*aaKHHA+GHHA+ZA+vl
   @A5E+FA@A66*cteh+br+bl+at+bm+bt+du+by+bp+cu*TIPPI*ADDAK*IRI*URA*EK ONKAR*agYAKASH*fwag
   @A81&GUJARATIagdz+df+fb@A85*aaA+AA+I+II+U+UU+ddR,L*cknbE@A8F*aaE+AI*cknbO@A93*aaO+AU+KA+id+GA
   +kl+hl+CA+hw+JA+nc+hz+jx+ip+kc+ja+la+TA+iu+DA+kj+NA@AAA+PA+jh+BA+le+MA+YA+RA@AB2+LA+qs@AB5+VA
   +hm+lz+SA+HA@ABC*agkd+jk*ckagAA,I,II,U,UU,ddR.RR,nbE@AC7,E,AI,nbO@ACB,O,AU*agfk@AD0*OM
   @AE0*aaddRR,LL*ckagddL.LL@AE6*cteh+br+bl+at+bm+bt+du+by+bp+cu*fwag*RUPEEag@AF9*aaty*agSUKUN
   +SHADDA+MADDAH+THREE-DOTkdai+bukdai+TWO-CIRCLEkdai@B01&ORIYAagdz+df+fb@B05*aaA+AA+I+II+U+UU+ddR
   ,L@B0F+E+AI@B13+O+AU+KA+id+GA+kl+hl+CA+hw+JA+nc+hz+jx+ip+kc+ja+la+TA+iu+DA+kj+NA@B2A+PA+jh+BA
   +le+MA+YA+RA@B32+LA+qs@B35+VA+hm+lz+SA+HA@B3C*agkd+jk*ckagAA,I,II,U,UU,ddR.RR@B47,E,AI@B4B,O,AU
   *agfk@B55+rm*AIndba*AUndba@B5C*aavl+RHA@B5F+YYA+ddRR,LL*ckagddL.LL@B66*cteh+br+bl+at+bm+bt+du
   +by+bp+cu*ISSHAR*aaWA*ifbrfr,co+atjw+bruq,ia+atSIXTEENTHS@B82&TAMILagdf+fb@B85*aaA+AA+I+II+U+UU
   @B8E+E+EE+AI@B92+O+OO+AU+KA@B99+hl+CA@B9C+JA@B9E+hz+jx@BA3+la+TA@BA8+NA+NNNA+PA@BAE+MA+YA+RA+vl
   +LA+qs+LLLA+VA+hm+lz+SA+HA@BBE*ckagAA,I,II,U,UU@BC6,E,EE,AI@BCA,O,OO,AU*agfk@BD0*OM@BD7*AUndba
   @BE6*cteh+br+bl+at+bm+bt+du+by+bp+cu*dogw+brbc,be*DAYag*MONTHag*YEARag*DEBITag*CREDITag*ASaiag
   *RUPEEag*doag@C00&TELUGUagdvdzai+dz+df+fb+dvdfai*aaA+AA+I+II+U+UU+ddR,L@C0E+E+EE+AI@C12+O+OO+AU
   +KA+id+GA+kl+hl+CA+hw+JA+nc+hz+jx+ip+kc+ja+la+TA+iu+DA+kj+NA@C2A+PA+jh+BA+le+MA+YA+RA+vl+LA+qs
   +LLLA+VA+hm+lz+SA+HA@C3C*agkd+jk*ckagAA,I,II,U,UU,ddR.RR@C46,E,EE,AI@C4A,O,OO,AU*agfk@C55*ndba
   *AIndba@C58*aaoy+DZA+RRRA@C5D+NAKAARA POLLU@C60+ddRR,LL*ckagddL.LL@C66*cteh+br+bl+at+bm+bt+du
   +by+bp+cu@C77*agvv*ifctehmkODDzbOFbm,brmkODDzbOFbm,blmkODDzbOFbm,atmkODDzbOFbm,brmkEVENzbOFbm
   ,blmkEVENzbOFbm,atmkEVENzbOFbm*agTUUMU&KANNADAagSPACINGdz+dz+df+fb+vv*aaA+AA+I+II+U+UU+ddR,L
   @C8E+E+EE+AI@C92+O+OO+AU+KA+id+GA+kl+hl+CA+hw+JA+nc+hz+jx+ip+kc+ja+la+TA+iu+DA+kj+NA@CAA+PA+jh
   +BA+le+MA+YA+RA+vl+LA+qs@CB5+VA+hm+lz+SA+HA@CBC*agkd+jk*ckagAA,I,II,U,UU,ddR.RR@CC6,E,EE,AI
   @CCA,O,OO,AU*agfk@CD5*ndba*AIndba@CDD*aaNAKAARA POLLU+FA@CE0+ddRR,LL*ckagddL.LL@CE6*cteh+br+bl
   +at+bm+bt+du+by+bp+cu@CF1*agre+rf@D00&MALAYALAMagdvdfai+dz+df+fb*aaVEDICdf+A+AA+I+II+U+UU+ddR,L
   @D0E+E+EE+AI@D12+O+OO+AU+KA+id+GA+kl+hl+CA+hw+JA+nc+hz+jx+ip+kc+ja+la+TA+iu+DA+kj+NA+NNNA+PA+jh
   +BA+le+MA+YA+RA+vl+LA+qs+LLLA+VA+hm+lz+SA+HA+TTTA*agarebfk+CIRCULARfk+jk*ckagAA,I,II,U,UU,ddR
   .RR@D46,E,EE,AI@D4A,O,OO,AU*agfk*aabvREPH*agPARA@D54*aaCHILLU M,Y,LLL*AUndba
   *ifbrONE-HUNDRED-AND-SIXTIETH,FORTIETH+atEIGHTIETHS+brTWENTIETH,TENTH+atTWENTIETHS+brFIFTH
   *aajgII+ddRR,LL*ckagddL.LL@D66*cteh+br+bl+at+bm+bt+du+by+bp+cu*dogw+brbc,be*ifbrfr,co+atjw+bruq
   ,ia+atSIXTEENTHS*DATEba*aaCHILLU NN,N,RR,L,LL,K@D81&SINHALAagdz+ANUSVARAYA+VISARGAYA
   @D85*aaAYANNA+AAYANNA+AEYANNA+AEEYANNA+IYANNA+IIYANNA+UYANNA+UUYANNA+IRUYANNA+IRUUYANNA
   +ILUYANNA+ILUUYANNA+EYANNA+EEYANNA+AIYANNA+OYANNA+OOYANNA+AUYANNA@D9A+lsKAYANNA+ksKAYANNA
   +lsGAYANNA+ksGAYANNA+KANTAJA NAASIKYAYA+SANYAKA GAYANNA+lsCAYANNA+ksCAYANNA+lsJAYANNA+ksJAYANNA
   +TAALUJA NAASIKYAYA,SANYOOGA NAAKSIKYAYA+SANYAKA JAYANNA+lsTTAYANNA+ksTTAYANNA+lsDDAYANNA
   +ksDDAYANNA+MUURDHAJA NAYANNA+SANYAKA DDAYANNA+lsTAYANNA+ksTAYANNA+lsDAYANNA+ksDAYANNA
   +DANTAJA NAYANNA@DB3+SANYAKA DAYANNA+lsPAYANNA+ksPAYANNA+lsBAYANNA+ksBAYANNA+MAYANNA
   +AMBA BAYANNA+YAYANNA+RAYANNA@DBD+DANTAJA LAYANNA@DC0+VAYANNA+TAALUJA SAYANNA+MUURDHAJA SAYANNA
   +DANTAJA SAYANNA+HAYANNA+MUURDHAJA LAYANNA+FAYANNA@DCA*agAL-LAKUNA@DCF*ckagAELA-PILLA
   ,KETTI AEDA-PILLA,DIGA AEDA-PILLA,KETTI IS-PILLA,DIGA IS-PILLA,KETTI PAA-PILLA
   @DD6,DIGA PAA-PILLA@DD8,GAETTA-PILLA,KOMBUVA,DIGA KOMBUVA,KOMBU DEKA,KOMBUVA HAA AELA-PILLA
   :DIGA AELA-PILLA:GAYANUKITTA,GAYANUKITTA@DE6*LITHcteh,br,bl,at,bm,bt,du,by,bp,cu
   @DF2*ckagDIGA GAETTA-PILLA.GAYANUKITTA*cnKUNDDALIYA@E01&THAInxKO KAI+KHO KHAI,KHUAT,KHWAI,KHON
   ,RAKHANG+NGO NGU+CHO CHAN,CHING,CHANG+SO SO+CHO CHOE+YO YING+DO CHADA+TO PATAK+zcTHAN
   ,NANGMONTHO,PHUTHAO+NO NEN+DO DEK+TO TAO+zcTHUNG,THAHAN,THONG+NO NU+BO BAIMAI+PO PLA+PHO PHUNG
   +FO FA+PHO PHAN+FO FAN+PHO SAMPHAO+MO MA+YO YAK+RO RUA+RU+LO LING+LU+WO WAEN+SO SALA,RUSI,SUA
   +HO HIP+LO CHULA+O ANG+HO NOKHUK+PAIYANNOI+SARA A+MAI HAN-AKAT+SARA AA,AM,I,II,UE,UEE,U,UU
   +PHINTHU@E3F*CURRENCYavBAHT*nxSARA E,AE,O,AI MAIMUAN.MAIMALAI+LAKKHANGYAO+MAIYAMOK+MAITAIKHU
   +MAI EK,zc,TRI,CHATTAWA+THANTHAKHAT+NIKHAHIT+YAMAKKAN+FONGMAN*cteh+br+bl+at+bm+bt+du+by+bp+cu
   *nxANGKHANKHU+KHOMUT@E81&LAOaaKO+KHO SUNG@E84,TAM@E86+PALIkl+NGO+CO+PALIhw+SO TAM@E8C+PALInc
   +NYO+PALIhz,jx,ip,kc,ja,la+DO+TO+zcSUNG,TAM+PALIkj+NO+BO+PO+PHO SUNG+FO TAM+PHO TAM+FO SUNG
   +PALIle+MO+YO+LO LING@EA5,LOOT@EA7+WO+SANSKRIThm,lz+SO SUNG+HO SUNG+PALIqs+O+HO TAM*ro*ckagA
   ,MAI KAN,AA,AM,I,II,Y,YY,U,UU*agPALIfk*ckagMAI KON*SEMIVOWELagLO,NYO@EC0*ckagE,EI,O,AY,AI
   @EC6*KO LA@EC8*eoMAI EK,zc,TI,CATAWA*xmba*NIGGAHITA@ED0*cteh+br+bl+at+bm+bt+du+by+bp+cu
   @EDC*HO NO+MO*aaKHMU GO,NYO@F00&TIBETANjlOM*baGTER YIG MGO TRUNCATED A:-UM RNAM BCAD MA
   ;GTERurMA+asYIG MGO MDUN MA+CLOSING YIG MGO SGAB MA+vwYIG MGO PHURszMA+YIG MGOurszMA+SBRULsz
   +BSKUR YIG MGO+BKA- SHOG YIG MGO+INTERSYLLABICur+DELIMITERurBSTAR+sz+NYISsz+ursz+NYISursz
   +RIN CHEN SPUNGSsz+RGYA GRAMsz+vw-DZUDtnMEemCAN+GTERur*LOGOTYPEagCHADtn,LHAGtn
   *ASTROLOGICALagSGRA GCAN -CHARtn,-KHYUD PA,SDONG TSHUGS*agRDEL DKAR GCIG.GNYIS.GSUM,NAG GCIG
   .GNYIS,DKAR RDEL NAG*cteh+br+bl+at+bm+bt+du+by+bp+cu+cobr,bl,at,bm,bt,du,by,bp,cu,eh*baBSDUStn
   +NGAS BZUNG NYI ZLA+vw-DZUDtnBZHI MIG CAN+NGAS BZUNG SGORtn+stMGO+oy-PHRU+GUGtnGYON.GYAS
   +ANG KHANG GYON.GYAS*agYAR TSHES+MAR TSHES*aaKA+id+GA+kl+hl+CA+hw+JA@F49+hz+jx+ip+kc+ja+la+TA
   +iu+DA+kj+NA+PA+jh+BA+le+MA+oy+tz+DZA+DZHA+WA+ty+ZA+-A+YA+RA+LA+hm+lz+SA+HA+A+KSSA
   +FIXED-FORM RA+KKA+vl@F71*ckagAA,I,II,U,UU,ddR.RR.L.LL,E,EE,O,OO*agRJES SUhlRO+RNAM BCAD
   *ckagbzI.II*agNYI ZLA NAA DA+SNA LDAN*baHALANTA+PALUTA*agLCItn+xitn+LCEoyCAN+MCHU CAN
   +GRU CAN RGYINGS,MED RGYINGS+ccMCHU CAN*usagLCEoyCAN,MCHU CAN,ccMCHU CAN+aaKA,id,GA,kl,hl,CA,hw
   ,JA@F99,hz,jx,ip,kc,ja,la,TA,iu,DA,kj,NA,PA,jh,BA,le,MA,oy,tz,DZA,DZHA,WA,ty,ZA,-A,YA,RA,LA,hm
   ,lz,SA,HA,A,KSSA,FIXED-FORM WA.YA.RA@FBE*KU RUid.BZHI MIG CAN*CANTILLATIONagbhBEAT,clBEAT
   ,CANG TE-U,SBUB -CHAL*avDRIL BU+RDO RJE+PADMA GDAN+RDO RJE RGYA GRAM+PHUR PA+NOR BU.NYIS -KHYIL
   .GSUM -KHYIL.BZHI -KHYIL@FCE*agRDEL NAG RDEL DKAR.GSUM*baBSKA- SHOG GI MGO RGYAN
   +MNYAM YIG GI MGO RGYAN+NYISur+asBRDA RNYING YIG MGO MDUN MA
   +CLOSING BRDA RNYING YIG MGO SGAB MA&xjSVASTIag&yxSVASTIag&xjSVASTIagabdb&yxSVASTIagabdb
   &TIBETANbaLEADING MCHANtn+TRAILING MCHANtn@1000&MYANMARaaKA+id+GA+kl+hl+CA+hw+JA+nc+hz+NNYA+jx
   +ip+kc+ja+la+TA+iu+DA+kj+NA+PA+jh+BA+le+MA+YA+RA+LA+WA+SA+HA+qs+A+yzA+I+II+U+UU+E+MON E+O+AU
   *ckagTALL AA,AA,I,II,U,UU,E,AI,MON II.O,Eai*agdf+bvam+fb+fk+ASAT*ghagceYA.RA.WA.HA*aaGREAT SA
   *cteh+br+bl+at+bm+bt+du+by+bp+cu*ageghr+hr*avLOCATIVE+COMPLETED+AFOREMENTIONED+GENITIVE*aahm+lz
   +ddR,RR,L,LL*ckagddR.RR.L.LL*aaMONhl,nc,BBA,BBE*ghagMONceNA:MA:LA*aaSGAWxzhm*ckagSGAWxzEU
   *eobaSGAWxzHATHI:KE PHO*aaWESTERN PWOxziu:PWA*ckagWESTERN PWOxzEU;UE*agWESTERN PWOxzTONE-1:ta
   :ut:zd:tb*aaEASTERN PWOxzla:YWA:GHWA*ckagGEBAxzI,KAYAH OE.U.EE*aayzKA,id,GA,CA,ZA,hz,DA,NA,jh
   ,FA,BA,iu,HA*ghagyzceWA*ckagyzAA.E:ai.anY*agyzta,ut,tb,TONE-6,COUNCILta.ut.EMPHATICeo
   *aaRUMAI PALAUNG FA*agRUMAI PALAUNGtb*yzcteh,br,bl,at,bm,bt,du,by,bp,cu*agKHAMTI TONE-1,ut
   *ckagAITON A.AI*avyzbr,ei&GEORGIANacaaAN,BAN,GAN,DON,EN,VIN,ZEN,TAN,IN,KAN,LAS,uu,NAR,ON,PAR
   ,ZHAR,RAE,SAN,TAR,UN,PHAR,KHAR,GHAN,QAR,lc,CHIN,CAN,JIL,CIL,CHAR,XAN,JHAN,HAE,HE,HIE,WE,HAR,HOE
   @10C7,YN@10CD,AEN@10D0*aaAN+BAN+GAN+DON+EN+VIN+ZEN+TAN+IN+KAN+LAS+uu+NAR+ON+PAR+ZHAR+RAE+SAN
   +TAR+UN+PHAR+KHAR+GHAN+QAR+lc+CHIN+CAN+JIL+CIL+CHAR+XAN+JHAN+HAE+HE+HIE+WE+HAR+HOE+FI+YN+ELIFI
   +crGAN+nv*xygb&fjaaGEORGIAN NAR&GEORGIANaaAEN+HARDag+LABIALag"

end Collation.Unicode.Name
