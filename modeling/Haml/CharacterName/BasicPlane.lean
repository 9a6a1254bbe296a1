/-!
# Names of the characters of the basic plane

The names of all characters up to `U+FFFF` that have a name of their own, in the notation that
`Haml.CharacterName.Table` reads. Ideographs and syllables with systematic names are left out.
-/

namespace Haml.CharacterName

/-- The names of the characters of the basic plane. -/
def basicPlane : String :=
  "~!!!G0n40Pl]>0!hM0c5m40!Nk0!fB0>G0?F0ZTdx0!jZ0A_0g.m40L30US0R?ns0n%0N>xL1cw1sz1r$1R*1QW1mO1l61Om
  1bI0L10l+0Zhm40!PH0!SU0hH]>0L5Am0ZGJPZk),+>0ZTnDHR0j<n%0jZnDHR0Kn.C0[M[%0SR.C0ZGmlZk),+>0ZTLsHR0
  tw[%0jZLsHR0rA~!!%*0bdn40V=Pl]>0K4m40!gJ0!Lt0!w]0HxEE0ktm40N10LLm40Q=d3V*0ZVNw>]hM]>0bnm40m~UR0z
  _6m40]!0Mnm40!zZd0pFsz1r$0.P.C0zM*m40!fr0^.Nr0K10pFcw0zKKd3V*0j]Nw>]hM]>0v:R0cwhD3T(2r$hE0V=hH]>
  0ZGJPZk),vxSR5.P5Kn5rA5N15jf.=3.g3IqvxK13OKvxSR5.P5Kn5N13UVvxSR5.P5Kn5N13P]3_1vxrA3cSvxSR5.P5Kn5
  rA5N10^sm40ZGJPZkcSvxp%3t%vxSR5.P5Kn5N13wEvx.P3qx1mlZklIk?3),vxSR5.P5Kn5rA5N15jf.=3.g3IqvxK13OKv
  xSR5.P5Kn5N13UVvxSR5.P5Kn5N13P]3_1vxrA3cSvxSR5.P5Kn5rA5N10NVm40ZGmlZkcSvxp%3t%vxSR5.P5Kn5N13wEvx
  .P3qx3wEvxN11JPZk),vx]!1&ml1JPZk),vxHh1&ml1JPZk),vxc^1&ml1JPZkIqvx.P1&ml1JPZkIqvxKn1&ml1JPZkIqvx
  Nr.=1(ml1JPZkIqvxJb1&ml1$JPZkM*1&ml1JPZkM*vxp%1&ml1JPZkOKvx]!1&ml1JPZkOKvxHh1&ml1JPZkOKvxNr.=1(m
  l1JPZkOKvxc^1&ml1JPZkOKvxJb1&ml1JPZkRHvxKn1&ml1JPZkRHvxHh1&ml1JPZkRHvxNr.=1(ml1JPZkRHvxK11&ml1JP
  ZkSxvxKn1&ml1JPZkSxvxp%1&ml1JPZkUVvxrA1&ml1JPZkUVvx]!1&ml1JPZkUVvxHh1&ml1JPZkUVvxc^1&ml1JPZkUVvx
  Nr.=1mlZkNsUV1JPZ|z=p1$ml1JPZkVSvxKn1&ml1JPZkW+vxK11&ml3zCh1JPZkX~vx.P1&ml1JPZkX~vxK11&ml1JPZkX~
  vxJb1&ml1JPZkX~vx^.Nr1(ml1JPZkX~vxp%1&ml1JPZk_1vx.P1&ml1JPZk_1vxK11&ml1JPZk_1vxJb1&ml4z[>Ic?F1JP
  ZkP61$ml1JPZkcSvx]!1&ml1JPZkcSvxHh1&ml1JPZkcSvxNw.P1(ml1JPZ|cX1$ml1JPZkhSvx.P1&ml1JPZkhSvxK11&ml
  1JPZkhSvxJb1&ml1JPZkk?vx.P1&ml1JPZkk?vxKn1&ml1JPZkk?vxK11&ml1JPZkk?vxJb1&ml1JPZkpfvxK11&ml1JPZkp
  fvxJb1&ml1JPZkpfvxp%1&ml1JPZkt%vxrA1&ml1JPZkt%vx]!1&ml1JPZkt%vxHh1&ml1JPZkt%vxjf.=1(ml1JPZkt%vxN
  w.P1(ml1JPZkt%vxc^1&ml1JPZkv>vxKn1&ml1$JPZkwE1&ml1JPZkwEvxN13x;vx.P1&ml1JPZkx;vxNr.=1(ml1JPZkx;v
  xJb1&ml3[Ek?3BVvxp%1JPZkBVvxU35rm1&ml1JPZkr]mO1%ml1JPZkd(cS3IqvxU31&ml1JPZk<+M*3M*vxU35rm1&ml3sd
  Mt1JPZkj=OK3kk3d(OK3Q&vxU31&ml1$JPZkRH3RT1mlZkUK1JPZkV?3UVvxp%3W+vxU31&ml3X~vxEE3zESvxp%1JPZksd[
  g3_1vxZTU31mlZk_1vx[EjZZ[1JPZkcSvx^.rA5U81&ml1JPZkcc1$ml1JPZkdQvxU31&ml1Zkx*1JPZkr]sz1%ml1JPZkPT
  1Zkj=PT[H1mlZkpfvxd^U31!JPZkpfvx1&ml1!JPZkpfvxj93t%vxU81&ml1JPZktM3t_vxU33$wE1&ml1JPZkx;vxp%1&ml
  1JPZkQ$4j=1%ml4vxpt1Zkszvxp%1JPZkr]QW1%ml1ZkV=SDnsvxp%2w82MzKv2!ZF2!>;2!j91JPZkOAvxJb3$M*vxmlZkx
  ;1$mlZkOA1JPZk[63X~vxmlZkVS1mlZk[61JPZkbM3_1vxmlZkVS1mlZkbM1JPZk),vxJb1&ml1$JPZkUV1&ml1$JPZkcS1&
  ml1$JPZkt%1&ml1JPZkt%vxN1>S]!1(mlZk1JPZkt%vxN1>S.P1(mlZk1JPZkt%vxN1>SJb1(mlZk1JPZkt%vxN1>SSR1(ml
  Zk3sdOK1JPZk),vxN1>S]!1(mlZk1$JPZk),vxNr.=1(mlZk),1!JPZk.gvx1&ml1JPZkRHvxp%1&ml1JPZkRHvxJb1&ml1$
  JPZkW+1&ml1JPZkcSvxc^1&ml1JPZkcSvxc^>S]!1(mlZk1JPZkQ$vxJb1&ml3$VS1JPZkOA3M*vxmlZkx;1mlZkOA1JPZkR
  Hvx.P1&ml1JPZkUL3w83_1vxSR1&ml1JPZk),vxjf.=>S.P1(mlZk),1!JPZk.gvx1&ml1!JPZkcSvxp%>S1(mlZk1JPZk),
  vxNwSR1(ml1JPZk),vxV=Hh1(ml1JPZkOKvxNwSR1(ml1JPZkOKvxV=Hh1(ml1JPZkUVvxNwSR1(ml1JPZkUVvxV=Hh1(ml1
  JPZkcSvxNwSR1(ml1JPZkcSvxV=Hh1(ml1JPZkhSvxNwSR1(ml1JPZkhSvxV=Hh1(ml1JPZkt%vxNwSR1(ml1JPZkt%vxV=H
  h1(ml1JPZkk?vxL3F[1(ml1%JPZkpf1(ml1JPZk|!+1$ml1JPZkSxvxJb1&ml1JPZk_1vx[EjZZ[1mlZkM*vxLq1JPZkd<1$
  ml1JPZkx;vxU31&ml1JPZk),vxNr.=1(ml1JPZkOKvxK11&ml1JPZkcSvxN1>S]!1(mlZk1$JPZkcSvxrA1(mlZk1JPZkcSv
  xNr.=1(ml1JPZkcSvxNr.=>S]!1(mlZkcS1!JPZkwEvx1&ml3X~vxLq3$_13$pf3NsVS3MQNB3!z]r1JPZk),vxp%3$Iq1&m
  l1JPZkX~vxEE3pfvxN2p%1mlZkk?vxpUpt3%x;1JPZkSDns1%ml1JPZkBVvxp%3t%EE3sdt_3OKvxp%1&ml1$JPZkVS1&ml1
  JPZkmlh*vxU3pt1&mlZk1JPZkhSvxp%1&ml1$JPZkwE1&ml3sd),3>33!sd3BVvxU33d(cS3IqvxLq3M*vxpt5U33j=OK3kk
  4vxU33d(OK3$j=6vxU33L!j=d(OK3NsVSvxp%3RHvxU33knRH1!ZkmlJP1mlZkRT3hkU83sdSx3SxvxU33$TW3UVvxp%3V?1
  ZkmlJPUV1mlZkX~vx^.rA5F]5j9U33Zp3sd[g5vx[EZ[3[gvxU33!_1vxZT5!j91ZkmlJP_11mlZkELcS1ZkmlJPcX1mlZkL
  !cr3fS3sdhS5vx[EZ[6U33hSvx[EZ[5pt5QT3%j=1ZkmlJPhS4!V=1mlZkk?vxU33PT3NsVSvxp%>SU33nGj=PT3PTvxLq3s
  dpf3pfvxj9U33t%EE3tM3t_vxU33sdt_+!4wE1!ZkmlJP1mlZkx;vxj9U35Lq3Q$4vxLq1ZkSDns2fQv1z542V=SDns2p!Iq
  2G<Kv2mlJPBV1mlZkL!d(OK1ZkmlJPRHvxU34Sx1mlZkVSvxL]3sdW+1ZkmlJPX~1mlZkh*vxU31ZkSDnsvxp%2&j=1mlZkO
  ANB3!N*3OANBvxLq3s;NB3!qK3q4NBvxLq3Q?NB3![S3![f1ZkG<zX=2!G51mlZksdSxvxQT7>Spt0^IZkmlSx4vxU33VS3h
  S3!sd5vxU33JPV=hS3v>3wE2g]2!Nw2sdL32?F2j=L32jZT(jf2$ZT2SDns2$j=2ZTA92!jZ2!tI2!O!2Kn.C0Jb0^IZktw[
  %2]!2.P.C2!SR2[Mtw[%3]!3SR.C3!.P2s+L12$T(2K7jZT(jf3$ZT2tIpn2!O!2g.m42!^A0Hh0Nr.=0!jf0c^0mlrA0Nw.
  P.C0^IZkz_dU32LX.C2mlRT3X~3k?3w93j=SDns2Pqr]EE2$Tl2$^+2$[M2$Pr2wsM|r]]>2%wO2v22zv.2Nw?F2[MO!A93!
  tI3!ZT3!jZ3jf2^.SR.C3$Nw4!.P2[MrA2hgL12FNTlr]2$P52!FN[M2$P52zgS2!d(2[MZTA70L2SR.C1!.P1!Kn1rA1]!1
  dI1Hh1Nr.=1N11U3.=1!jf1Nw.P.C1Jb1tw[%.=1%Nw2SR.C1JG1V=Hh1sdL3.=1$1$j=1L3.=jZ1SR.CF[1$.P1!ZTpn1$j
  Z1ZT>].=1U81ZTT(jfF[1!tIpn1$O!1!g.m41$^A1!zVvU31$j91!Nr1!N11!jf1!L31K11c^1tw[%F[1!Hp1!V=Nw?l1!Jb
  1!Kn.C1!Hh1$V=1!rA1!]!1[M[%1$Nw1rAdH1!lsp%1$[E1!lsn%1$[E1jZT(jfF[1!V=Hp1!nD1!zdh1w9.=1twrA1NwdI1
  SRr]]>1$.P1SVfD2XR2N4rg2x)1Hp.=1PHm4F[1!Nwtw[%1!ZT>]1bnrA.=1!U01!>.PGrW1ZTjZA7F[1$tP1z7xV|1jZA9.
  =1!ZTT(jf1QA1w9F[1!ZTA91$jZ3!>StIA92T(jf.=1Nr.=jZ1A_F[1!Nwjf1xX.=1NwHhF[32]!3F[2rA2V=Hh2jcA7F[1Z
  GmlZk),4OK4UV4cS4t%4Iq+!4Sx4[g4hS4pf4t_4w90SVJPZkz9c1$ml1JPZk?mkS1%ml1c6m41$[P1JPZkzW*N=1%ml~!!1
  R1x)1mlj=[_m3p]2%Nv2&j=1hH]>1JPZkx(~!!1^1rg1!N41!JPZk>3vx1>wq?1JPZkPFvxrg3$PX3$V?~!!1j3$cs~!!1l3
  $tM3$cr1!mlZkV?vxN4>S1JPZk>33Fp3RT3Mt3PF3xM3PX3qh3V?3WC3Z73^k3c,3w>3cs3fZ3jC~!!2+3m33q13tM3fS3KO
  3gn3cr3V?vxN43$tM1mlZk>3vxrg3$PF3$PX3$V?3!tMvxN4>S3>33Fp3RT3Mt3PF3xM3PX3qh3V?3WC3Z73^k3c,3w>3cs3
  fZ3jC3QMm33!3q13tM3fS3KO3gn3cr3V?vxN43$tM3csvxrg3$tM3$cr1JPW8p]1!Fp1!qh1!tMvxU33$.P>S3%N11!fS1!f
  Z1!W81Zk?mXP1%ml1Zknn1$ml1ZkN=1$ml1ZkXP1$ml1ZkkS1$ml0LKJPZklQ1$ml1JPZkz4$1$ml1JPZkWz1$ml1JPZkU61
  $ml1JPZkRW1$ml1JPZklb1$ml1JPZkz)R1$ml0SVWCp]1!jC1![_m31Zkx(1JPqhp]1![_PF1%j=1JPZklj1$ml1JP[_m3p]
  2ZkkT1$ml1jCvxp%p]1!JPj=[_m32%Nv2&j=0M(JPZkUnvxSR3V>3NX3S>3t7Un3OC3IdUV3wn3V^3[73bR3sC3X83UVvxSR
  3lst%3OG3),3F83tn3S13Mf3Un3xP3xH3UV3!ls3W,3Oz+$3cS3f.3PL+!3q73t%3O]3Sz3s?3KE3l<3lL3TAm43wf3m~m43
  OK3x+3wG1mlZk),3F83tn3S13Mf3Un3xP3xH3UV3!ls3W,3Oz+$3cS3f.3PL+!3q73t%3O]3Sz3s?3KE3l<3lL3TAm43wf3m
  ~m43OK3x+3wG3UnvxSR3V>3NX3S>3t7Un3OC3IdUV3wn3V^3[73bR3sC3X83UVvxSR3lst%3OG1JPZkcr1$ml1JPZkwR1$ml
  1JPZkVBOK1%ml1JPZk[4x51%ml1$JPZkVB1&ml1!JPZkG:1%ml1$JPZkVB1&ml1JPZkXc1$ml1JPZkgn1$ml1JPZkQV1$ml1
  JPZkVR1$ml1JPZkVRvxNwSR.C1(mlZk1JPZkt61$ml1JPZkk,cr1%ml1JPZkcrvxrL1&ml1JPZkd91$ml1JPZkXP1$ml1q~m
  40L2M(rL2zVt2MKzZf2!gq2zZr2UIq~m42!^<0M(JPZklsUVvxpt1(ml1JPZkzf%m41%ml1JPZkPLvxr21&ml1JPZkS1vxtN
  1&ml1JPZkS1vxp%1&ml1JPZkS1vx^.U31(ml1JPZkxPvxN!1&ml1$JPZkxH1&ml1$JPZkW,1&ml1JPZkW,vxtwp%1(ml1!JP
  ZkW,vx1&ml1JPZkEUW,1%ml1JPZkP1vxN!1&ml1JPZ|P1S11%ml1JPZkf.vx^.U31(ml1JPZk.<Sz1%ml1JPZkPRvxN!1&ml
  1$JPZkq71&ml1JPZknwt%1%ml1JPZknwt%vxp%1(ml1JPZkSzvxN!1&ml1JPZ|q7s?1%ml1JPZkKEvxN!1&ml1JPZkKEvxtw
  p%1(ml1JPZklW1$ml1JPZk.<KE1%ml1JPZk.<KEvxN!1(ml1Zkdd1JPZkxPvxHh1&ml1JPZkW,vxU31&ml1JPZkOzvxpt1&m
  l1JPZkP1vxU31&ml1JPZkP1vxpt1&ml1JPZkzB?KE1%ml1JPZkP*vxpt1&ml3dd1JPZk),vxHh1&ml1JPZk),vxN11&ml1JP
  Z|),Un1%ml1JPZkUnvxHh1&ml1JPZkkk1$ml1JPZkkkvxN11&ml1$JPZkxP1&ml1$JPZkxH1&ml1JPZk.<OC1%ml1JPZkUVv
  x]!1&ml1JPZkUVvxN11&ml1$JPZkcS1&ml1JPZkELcS1%ml1JPZkELcSvxN11(ml1$JPZkOK1&ml1JPZkt%vx]!1&ml1JPZk
  t%vxN11&ml1JPZkt%vxNw.P1(ml1JPZkKEvxN11&ml1JPZkS1vxN!1&ml1JPZkwfvxN11&ml1JPZkS1vxp%>SU31(mlZk1!J
  PZkSzvx1&ml1JPZkSzvxp%1&ml1JPZkXLMf1%ml1JPZkXLNX1%ml1JPZkXL|$l1%ml1JPZkXLz1;1%ml1JPZkXL[71%ml1JP
  ZkXLbR1%ml1JPZkXLzj41%ml1JPZkXLzqg1%ml1JPZkj=xH1%ml1JPZkOzvxU31&ml1JPZkZr1$ml1JPZkjB1$ml1JPZkwJ1
  $ml1JPZkh+1$ml1JPZkvW1$ml1JPZk<pW,1%ml1JPZkOzvx^.U31(ml1%JPZkP11(ml1JPZkf.vxN!1&ml1$JPZklW1&ml1J
  PZkP1vxZTU31(ml1JPZkz1B1$ml1JPZkz(|1$ml1JPZkOzvxN!1&ml~!!7:0A)JPZkBN3F^3S:3M+3OW3x<3Oc3PW3rW3xP3
  V13[53w=3I~3W_3U&3VU3S,3KJ3]t3wn3bw3l<3v.3K:3f63Vg3hU3k~3t|3rM3j+3L,3wv3g$3WZ3c_3Q;~!!7h1^IZkZTT
  (jf1?F1P.]>1!Pl1L31hH]>1!.;1mlZksdBN3!3F^3S:3M+3OW3x<3Oc3PW3rW3xP3V13[53w=3I~3W_3U&3VU3S,3KJ3]t3
  wn3bw3l<3v.3K:3f63Vg3hU3k~3t|3rM3j+3L,3wv3g$3WZ3c_3Q;2Z|OWwv2Zkwnvxp%1R?ns1UR~!!8J0j[A)PZm40%ZU0
  !A)O)~!!8N0TQ.Cz2q2k|2zg?2|$&h43z5l2zqX2z_Z2|$)2zW[2z~^2zpV2Rx3zNZ2Rz2z]Jdq2qBz6;2zWw2Axz8j2zNQ2
  zJn2zL93zB!2z(l2z]E2qBz]N2z~VF^|!,2zUg2z=x2z)Q2|$d1]>zKMKh1g5zg_2z96k|3f&3h22Tv2zs02k|2f&2h22U*3
  z95Q~tm2z]w2M2d1]:2zLA1gwzK:1g5hc1gwzWX1g5lcNr2!m>1gwm|zWg1]>tLNr2![P1gwc9z8k1g5h2h4~!!9?1Zk<k2F
  n2S;2M72TG2tm2xF2T^2qM2x!2QMW62!2Z92QM]q2!2QMc92!2kR2BP2QMf.2!2QMs=2!2h:2j52lc2q2~!!9c1x!s)1Z|wp
  Nwtm3tmx!3!Nw1gwRx2Rz~!!9x0?[c5m41m4zd11Q|]A1m4kG2zd.1c5]>.=0?]Lhk$1!R,0?[hr0?]fA^;m42!qCq|0!<)0
  ?[L31MNl01zZmtvm41m4zMR2kL<bzz52<bAZ2z^^<b2h]>(>j2zn]1mlTlpr3Z|<kvxZ6vxwZ3xA2Q32M92WM1l+1Zk]>1!P
  5c[qU1!s1Nrgw1!hH1ZkWKwZ2T,2<kvx]$.=4!T,2%vQ2<kvxT,F[2wZvxT,.=2<k2FQ2q<]=32qb2Vb2T!2Wr2M52qZ2j+2
  xA2kw2lO2kC2M02pr2x?2<F2S.2W[vxszNt.=4r$NtF[2Q2wZvxV=t_5szNt.=5$r$1q01ZkQ;2h02W62Z62]k2bg2TT2vQ2
  <k]12wZ1Q41M:1WN1Q31M91WM1lB1p>1]%.=1!T,2F[1p3<k1V=M91]>bgS61|%+1v7m4mlt_.=3%V=3NrF[1j=M91Q3vxsz
  Nt1vPT,F[0?]N>xL2cw2sz2r$2R*2QW2mO2l62Om2bI0?[fBm41Mhl01!q~1QWg6nc1ZkNsFQ3h02pF<k2<kvI3vxvPT,.=6
  F[2TlT,4<k4vQ2t%vxT,.=2TlT,wZ2sL2sM2FH2q<vxjf4r$Nt.=O%2f62q=2FR2T!vxT,.=4!szNttw2cG2O>2T!vxr$Nt.
  =2q52q62MU2M5vxjf4NrF[6>Smlpr2M42MT2O72M5vxr$Nt.=O%4R*Nt.=2k32j+vxmlt_4jf4NrF[4!mlt_4NrF[>SNr.=4
  !szNt2Vc2j+vxR*Nt.=2!kwvxNrF[>SNr4r$NtF[7>Sr$Nt.=2kCvxszNtF[4r$Nt.=2&pr2&<F2NsQ;2Q;vxNrzN0F[5!2t
  s2Q;vxr$NtF[2f72h0vxNr.=4!r$Nt2W[2pUW62W6vxjf4Nr.=2_t2W6vxr$NtF[2RO3vxjf2b52ROvxszNtF[2Sj2ROvxr$
  Nt.=2Z6vxmlt_4Nr.=4!r$Nt6F[2!bgvxNr3S62jn2bgvxjf4r$Nt.=2TTNc2q5vxNr.=2!TTvxwZ3SG4vxT,.=2q<]=SG2v
  Qvxjf2X1cX2!2t%2x+2!X12vQvxszNt.=2tn2Q2wZ2wZvxpt4mlt_2vQvxNr.=2OK2wZvxr$NtF[3EM4vxT,.=1R?ns1Zk.g
  1mlTlZ|kCvxZ6vx<k]14(h03]kV2R$3Z6<k3Vb3r$Nt3kw1P5c[BL1ndc[k7Ozz::1mlTlk.xL3!zvCj!3NsTHc[Wr3]kVHR
  $2[Mkw2Tl]$2vQ2wZ2!Tl3bg1g&c[zcq1P0K6[Mns3!Tl1k.Tlnsvxz48K61ml[M]k1ZkM5vxV=t_2%j+0Pn?]N>xL3cw3sz
  3r$3R*3QW3mO3l63Om3bI0?[ZklOvxNrF[2%M02%S.1m4zhl>G3z[+]t1ZkTTvxV=t_0pdP5c[dr1pIR?ns1$p21pIL11!p2
  1!U71L1m[ZT3jZ1pIL1m[ZT1p2L1m[jZ1z&31z93zUD2zLC2A^~!!=K1.;]>1Zk<]2!pF2Fq2z5r3R[2M62NsM6jh2TG2vQ2
  xA2T_2qP3R[2|!E3TG2WB2zER2^=2c92zf)2!QM2OK2f.2!j=2kE2z]H2jh2lc2q32fGG&3z6x3z*%1z[k.=2F[2Nv1|$v.=
  2F[2Nv1z^|.=2F[1Nv|$mU73>f1z9A.=2F[1z9BNv1z2b.=2F[1zcB1Q=Nr1z^21zc(1sztwNt.=4F[1r$Nt.=3F[1cV[%.=
  3F[1^z1EN~!!>;1Zkn!|$:3Wv3Q70?[ZkFQvxr$Ntz;ZF[4NrF[>Sr$Nt.=4r$Ntg8tPF[9>SszNt.=4!szNtF[>SNr4V=ml
  t_F[4mlt_2T!vxszNt.=4r$Ntg8tPF[2M5vxszNttxF[>Smlpr4V=mlt_F[2j+vxp%2kwvxR*Nt.=2$<Fvxsz4!r$Ntg8O%4
  !szNttx2Q;vxszNtF[4!r$Ntg8tP2W[vxNr.=4!r$Nt6g8tPF[2]kvxNr.=5F[2!bgvxszNt4mlpr5t_2Z6vxEE2j+vxszNt
  tx.=4!T,2!kwvxszNttx2T!vxml?[ZkprF[8>SszNt2(kwvxml?[2(j+vxml?[2T!vxml?[Zkpr.=2!<kvxPn?]N>sz7!r$2
  !Q2wZvxPn?]N>sz8!r$8R*F[2vQvxPn?]N>sz.=7!r$2!wZEMvxPn?]N>sz8!r$2T!vxPn?]N>R*F[2kwvxPn?]N>R*.=4V=
  t_2W6vxszNt.=0zp[ZkS|2zgL2zRf2hV2D^2zFA2zA<2<x2zw22zL!2z3T2z)~2qX2zDk2z5j2z7T2zdr2z(q2|$+2zn~2wI
  2zWr2z?02z!g2sJ2Td2Wq2zpZ2x>2zgQ2zcg2z(M2rW2x]2<H2z6w2z]C2zx~1.91,U1z<t1z1c1ztg1zUx1z1]1z391zUH1
  zU?1p>1Zk_6~!!?g0zR>N>xL2cw2sz2r$2R*2QW2mO2l62Om2bI1Zk),2O[2UV2OK2t%2d!2cS2z(T2_12D[2dR2pg2VU2K:
  2M+2hU2k12kA2Rd2Q(2W,2Z!2_4w!2[z2cB2_42Sz2v?2wG2cBw!2z?fVU3K:3hU1L2lsTlr]3![M3!jj2![EN$3!Tl3![M3
  !jj2_F]>2NwNr.=1Tlr]?F1$[M1p]d!z)_2z6,1L31Pl]>1zE&~!!AR1z(k1z+7m41!znd0kPZk<Z2GS2z5s2z(^2VP2D^2x
  K2VK2rJ2x62W12zDp2^=2c92zhn2V$2QC2zs+2z]|2jh2lG2znJ1]>V$2z>.2zUN2M21^IZkz2Px61$]>1v7m4[EOK3!3dJ,
  Q3![E3!3dJ),3![E3!1!^IZkls1$v7m43[Et%3!1^IZkUV1!v7m4[E3!3cS3p>1]>zPH~!!B71!gw2<,2>V2Ec2Aw2zgk1.;
  ]>1gwzL+h82|$h2h82|!t2zsl2A!2m|zKL2>s~!!BH0zK+Zkz8w2,j2<02.S2<82zvQ2BS2VK2A|2<S2<O+%2AF2V$2?72Al
  2?Q+!2AO2Am2z1%2zAC2<F1<(]>1!zx21!Rr~!!Bl1gw~!!Bn0pdZk]2_v3VU3cB3sI3b_3bb3Fx3hU3[:3[;3nL~!!C(0?[
  Zk<kvxA~Q35!rkjZ4jZ^.p%4$ZT4A~WM5!H?jZ5k,Nr.=5jZk,Nr5$ZT5k,NrF[4Nr.=4$A~rkjZQ3>S4%jZ^.p%4%A~H?jZ
  WM5rkjZQ3>SZTjf4%jZ^.p%4%A~H?jZWM5jZT,5!ZT1!q0vxzVO4vQ3szNtF[1ZkqmwZ1ESk,Nr1$hg1ZkbgvxV=mlt_2T!v
  xV=mlt_F[2!prvxNr4!r$Nt2!W[vxszNttx1twpt~!!CK1gJ]>.=1$zX|~!!CS1mlTlw,<W2[Mw,z>m4z=|4znv1]$zx|1pF
  <kzMj1N|]$1!T(]$dC1ZkFQvxmlt_F[4T,.=2!VbvxszNt2&pr2$Q;vxNrF[>Sr$2h0vxNrF[2Z6vxNwEE2]kvxr$Nt.=2!w
  ZvxszNtF[>ST,8!Nr2j+vx[H2vQvxNrvz2jvwZ2[M<k2M5vxr$NtF[2&kC2ROvxV=p%2nwvQ2xAvxV=t_.=2<Fvxr$NtF[2!
  W6vxNr2h0vxNrF[>SbcNt.=2!FQvxml]k2&f62!q<vxmlq<2!j+vxmlbg2%wZvxszNtF[>S2<+Q;3h03bg2f6vxmlt_2%q<2
  %sL2%q52%W[2S.vxr$Nt.=2&<+h02&Vb6F[2Z6vxml?[Zkpr.=2z7s1mlQ2wZ2$Tl3wZEMvxszNtF[3w,kI3x?1ZAk,Nr.=4
  F[1!p>1!ZAKh2$k,NrV51ml[MvQ2Tlw,?X3kC3<F3h03bgvxWM2%[M2Tlw,An4AG4>L4zcx4z]g4zz13Q|]A3m4kG1z*^P5c
  [BL1sdM9F[1LsQ32M92WM2Q42M:2WN1r]cwNr.=2!szNt2![H2cwNrF[2!szNt2![H1d(Q42M:2WN1mlTlvQ1Q3vxjf3Nr.=
  1WMvxNrF[1ZTA9.=1$jZ1ZTA9F[1$jZ1NwjZA9.=5vxNr1(1$M91]>m0bgS60N&m4V=JG2!2?22v+1Zkls),2!2,Q2UV2Uv2
  t%2t[2v0hS3X~2JFOK2!ls2!2<A2JFcS2!ls2!2B)2W,2Wp2RI2S*2_v2I~2K:2VU2Vd2cB2sI2sN2MR2M[2b_2pg2qW2M+2
  N+2_42bb2dR2fN2D[2Fx2[z2wG2hU2k12Z!2[:2[;2tb2l<2nL2kA2Sz1v7m4cX3d$1m4c32B<1v7m4,Q3UV3Uv3t%3t[3v0
  hS4k03JFOK3!ls3!3<A3JFcS3!ls3!3B)1m4v*1v7m4gbOK3BB1cq1n~m4t.3?11SR.C1!.P1v7m4JF[EOK3t03t]1Zkh+2W
  |2S32x<2MX2jB2Q(2x:2v0k03[91v7m4v0X~4[91M;1!Nw1N>xL2cw2sz2r$2R*2QW2mO2l62Om2bI1.;m41m4Tln5Nr1ZkJ
  F),2cX2d$2BB2t02t]2zKHMR2xN2TPwG2R~2Vm2SDns2MW2Eh0Fc>p1m4JG2?22v+~!!FZ1Zk),2,Q2UV2Uv2t%2t[2v0hS3
  X~~!!Fh2OK2<A~!!Fm2cS2B)2W,2Wp2RI2S*2_v2I~2K:2VU2Vd2cB2sI2sN2MR2M[2b_2pg2qW2M+2N+2_4~!!G02dR2fN2
  D[2Fx2[z2wG2hU~!!G82Z!~!!G<2l<2nL2kA2Sz~!!GC1m4c32B<1v7m4,Q3UV3Uv3t%3t[3v0hS4k0~!!GN3OK3<A~!!GR3
  cS3B)1m4v*1ZkzBCpg~!!Gb1B)Zb]>~!!Gh1Zkk12jB~!!Gl2x:2v0k03[91v7m4v0X~4[9~!!Gt1N>xL2cw2sz2r$2R*2QW
  2mO2l62Om2bI1ZkhUvx^.N24![P1k<]>2m41Ltc7cw3sz3r$3R*3cwzF6q]q^Mx2MxmP1VJ1z5w]>1Zktq?21.;m41kV]>~!
  !H:0z8Em4.TGB2!2v+~!!H>1Zk),2,Q2UV2Uv2t%2t[~!!HI2O[2<A~!!HM2d!2B)2W,2Wp2RI2S*2_v2I~2K:2VU2Vd2cB2
  sI2sN2MR2M[2b_2pg2qW2M+2N+2_4~!!Hj2dR2fN2D[2Fx2[z2wG2hU~!!Hs2Z!2[:~!!Hw2tb2l<~!!H|2kA2Sz~!!I%1m4
  c3~!!I(1v7m4,Q3UV3Uv3t%3t[~!!I33O[3<A~!!I73d!3B)1m4v*~!!I=2zth~!!IF1ZkW|2S32x<2k1~!!IK2Q(~!!IS1N
  >xL2cw2sz2r$2R*2QW2mO2l62Om2bI1zqZ1.U1z>c1zvG1OwzUv1m4z~71.;m4~!!Iv0z8:m4JG2?22v+~!!I|1Zk),2,Q2U
  V2Uv2t%2t[2v0hS3X~1v7JFOK~!!J,1!Zk2<A1v7JFcS~!!J21!Zk2B)2W,2Wp2RI2S*2_v2I~2K:2VU2Vd2cB2sI2sN2MR2
  M[2b_2pg2qW2M+2N+2_4~!!JJ2dR2fN2D[2Fx2[z2wG2hU~!!JR2Z!2[:~!!JU2tb2l<2nL2kA2Sz~!!J^1m4c32B<1v7m4,
  Q3UV3Uv3t%3t[3v0hS4k03JFOK~!!Jm3!3<A3JFcS~!!Jr3!3B)1m4v*~!!Jx1cq~!!K21Zkv0k03[91v7m4v0X~4[9~!!K8
  1N>xL2cw2sz2r$2R*2QW2mO2l62Om2bI1.;m41!k<~!!KL1ZkxN1m4p>2lB2]%2zq+c3.=2$Kh2$s|~!!KT0zV7m4JG2?22v
  +~!!KX1Zk),2,Q2UV2Uv2t%2t[2v0hS3X~~!!Kg2OK2<A~!!Kl2cS2B)2W,2Wp2RI2S*2_v2I~2K:2VU2Vd2cB2sI2sN2MR2
  M[2b_2pg2qW2M+2N+2_4~!!L.2dR2fN2D[2Fx2[z2wG2hU~!!L72Z!2[:~!!L:2tb2l<2nL2kA2Sz~!!LB1m4c32B<1v7m4,
  Q3UV3Uv3t%3t[3v0hS4k0~!!LM3OK3<A~!!LQ3cS3B)1m4v*~!!L]2dI1<AZb]>1$B)~!!Lg1Zkk12jB~!!Lk2x:2v0k03[9
  1v7m4v0X~4[9~!!Ls1N>xL2cw2sz2r$2R*2QW2mO2l62Om2bI1VJ1Zkv?1R0cwhD3T(2r$hE2cwmQ3Op2r$mR~!!M:0q!m4?
  22v+~!!M=1Zk),2,Q2UV2Uv2t%2t[~!!MG2OK2O[2<A~!!MK2cS2d!2B)2W,~!!MR2_v2I~~!!MU2VU~!!MW2cB2sI~!!M^2
  b_2pg~!!Mf2_42bb2dR~!!Mm2[z2wG2hU2k12Z!2[:2[;2tb2l<2nL2kA2Sz~!!N&1v7m4,Q3UV3Uv3t%3t[~!!N13OK3O[3
  <A~!!N53cS3d!3B)1m4v*~!!N;1cq~!!NC1B)Zb]>~!!NR1N>xL2cw2sz2r$2R*2QW2mO2l62Om2bI1c5qC2cwUI3q|1MOm4
  1!^U1!wW1!z)F1!LS1!AF.=1!k<1!c5~!!Ns0zpDm4L2JG.=2JG2?22v+2L2?2.=1Zk),2,Q2UV2Uv2t%2t[2v0hS3X~~!!O
  *2OK2O[2<A~!!O02cS2d!2B)2W,2Wp2RI2S*2_v2I~2K:2VU2Vd2cB2sI2sN2MR2M[2b_2pg2qW2M+2N+2_4~!!OI2dR2fN2
  D[2Fx2[z2wG2hU2k12Z!2[:2[;2tb2l<2nL2kA2Sz~!!O]1m4c32B<1v7m4,Q3UV3Uv3t%3t[3v0hS4k0~!!Ok3OK3O[3<A~
  !!Op3cS3d!3B)1m4v*~!!P!1Zb]>1$<A~!!P&1Zks<2OB2zbd~!!P,2_=g>~!!P12v0k03[91v7m4v0X~4[9~!!P71N>xL2c
  w2sz2r$2R*2QW2mO2l62Om2bI~!!PI1m4m,1R0N>xLQ~cWz[6c[R*3(cw3(sz3(r$3%cwQ~Pg3(sz3(r$1m4zsr0W>m4n5JG
  2!2?22v+2m,1Zk),2,Q2UV2Uv2t%2t[2v0hS3X~~!!Pd2OK2O[2<A~!!Pj2cS2d!2B)2W,2Wp2RI2S*2_v2I~2K:2VU2Vd2c
  B2sI2sN2MR2M[2b_2pg2qW2M+2N+2_4~!!Q,2dR2fN2D[2Fx2[z2wG2hU2k12Z!2[:~!!Q92tb2l<2nL2kA2Sz~!!QA1m4c3
  2B<1v7m4,Q3UV3Uv3t%3t[3v0hS4k0~!!QK3OK3O[3<A~!!QO3cS3d!3B)1m4v*~!!Q[1Zb]>1$<A~!!Qg1Zk_=g>2Q(~!!Q
  k2v0k03[91v7m4v0X~4[9~!!Qr1N>xL2cw2sz2r$2R*2QW2mO2l62Om2bI~!!R%1m4Vj2tK~!!R70]2m4L2?2.=2JG2?22v+
  1Zktq?22),2,Q2UV2Uv2t%2t[2v0hS3X~~!!RF2OK2O[2<A~!!RJ2cS2d!2B)2W,2Wp2RI2S*2_v2I~2K:2VU2Vd2cB2sI2s
  N2MR2M[2b_2pg2qW2M+2N+2_42bb2dR2fN2D[2Fx2[z2wG2hU2k12Z!2[:2[;2tb2l<2nL2kA2Sz2sU1m4twEEv*2!Km2B<1
  v7m4,Q3UV3Uv3t%3t[3v0hS4k0~!!S03OK3O[3<A~!!S43cS3d!3B)1m4v*1ZkNrz_G1m4dq~!!S>1ZkKR[g3wE3zG$1B)Zb
  ]>1R0cwcx3R%2r$Or2cwsn3qH2r$sp2cwQF1Zk?mUv2v0k03[91v7m4v0X~4[9~!!SQ1N>xL2cw2sz2r$2R*2QW2mO2l62Om
  2bI1c5qC2cwUI3q|1R0cwhD3T(2r$hE2cwmQ3Op2r$mR1MN]>1ZkKRb^3_13k03X~3[93W+~!!Ss0mBm4JG2?32zx%~!!Sx1
  ZkBM2,f2<%2.m2z>z2z=n2zvb2zv]2z>g2z>f2z=z2z=w2z382z1h2<N2zVR2zV!2B:~!!T72>1zAq2!],2>1Rb2!],2zAR_
  72kXRb2>1K%2!],2>1V]2!],2pj_73zd8zO52kXV]2>1zs?2!],2>1MV2!],2^~_K2kXMV2>1zp)2!],2>1MP2!],2M=_K~!
  !TQ2kXMP2>1zWv2!],2>1Ef2!],2zK]2>BEf2z~K2z^w~!!T]2M=ZJ~!!Tb2zwE2pjzdK2!^~2!M=2z9?2^~ZJ2z3t~!!Tn1
  m4<X~!!Tt1v7m4.s3Wg.k3!N<3Wgz>h3!N<3WgzV]~!!U!3!N<~!!U%3RN3XK3!N<3zCNz)T3XKS|.s5!N<5Rc3!~!!U61zF
  tN>xL3cw3sz3r$3R*3QW3mO3l63Om3bI~!!UC1v7m4N<RN4Rc1gwzD%~!!UR0zp^K>XHW82X&Ws3zBS3zBX3zBN3z^g2b4zQ
  ;2KUz![3z$33z!]2mwmw2KUz$?2wxz~w2Nbz!S2rWzWj2qtq]3zOA3zXw2bc_d2Nbz)S2rWznl2qtzq73zp]3qv2bcc,2GxE
  &2g3g%2fVzXv2QqQ(2fVzXZ2QqQ12fVzd,2^G[z2wxwN2jqzb~2k62[<[)2[T2v~zz$2mwzc|3zc;3p+2U&Ts2[<z$K2cS>U
  2U&zRZ2zVs2k]),2]0z9!2k],Q3><3UV3Uv3t03ztn3t%3t[2zXl~!!VC1Ltp]E%1K>k]OK3.g3cS3<AzJw4zJv2zEQ2zJ|2
  zJz2]0Ow3qt3zrX3z!d2zpd2zQ_2z~<2z4h1N>xL2cw2sz2r$2R*2QW2mO2l62Om2bI1K>>[2zBM~!!W70Z>ZkXH2X&pD~!!
  W:3p~~!!W<2dbS*2b42L,2dbK:2mwp~~!!WC2dbVd2cN2dbcB3sI3sN3MR3M[3b_2Nb2rW2qtpD3p~2dbN+2bc2Gx2g32fVp
  D2Qqp~2!fV2QqpD2dbFx2^G2wx2[<[)~!!W^3[I~!!Wb2v~2zd6l<3nL2mwpD2!U&2db[:2cS2U&p~1P(1v7m4),3]0W<3,Q
  3><3UV3Uv3wE3x93t%3t[1m4dbv*1v7m4]0XM1zf&m4[<3cN~!!X&1v7m4OK3Ok3cS3BK3<A~!!X.1XHZ!~!!X11r]]0Ow3q
  t3r03Jt1JC]>1zQW~!!X91N>xL2cw2sz2r$2R*2QW2mO2l62Om2bI~!!XF1U&bc2^G1ZkzBKSF3cN~!!Xq0r1p[cq1]>Scwr
  ^&zr~),5)+jmF7[z6!ScsD2!V2wr^&]X2!L$wr^&l92!J]wr^&fXlA2$wr^&sD2zdLlA2I(wr^&2$G[ll2z>TsD2MssDI)2l
  A2!cL2!sD2$cL2!zb0z!szkE2!j?SO2J])&k5]Z[EJ?2ScsD1zG0m4z!Rk53!zF?1!Agm4zg7z65)%3))dR3zdfzs61m4htN
  ]Rm4SE4Sb3_:Rm4SE3N]ht_:1N>xL2cw2sz2r$2R*2QW2mO2l62Om2bI2T(cw3sz3r$3R*3QW3mO3l63Om3bI3xL1]>I%k52
  _xIpcJx[2J])&k5In^8J?2_xIpzg6k52KE^&2s<)*2z87k5Sw4Sv2>UzBDSw4Sv1m4wQzs32!]<1ZkW,2Wp2RI2S*2_v2I~2
  K:2VU~!!Zl2cB2sI2sN2MR2M[2b_2pg2qW2M+2N+2_42dR2fN2D[2Fx2[z2s<2sB2OB2OF2v?2xN2x<2)!2wG2hU2Z!2l<2n
  L2kA2Sz2),2Xd2QXhU2X:2k1~!![A1v7m4,Q3UV3Uv3t%3t[3v0hS4k04X~4[93OK3O[3cS3d!1m4zb:p*_vjq2jmF71v7m4
  j=UV4Uv1m4cJx[_6M+2zjRzEs1]>T&2zW$1m4zEpk52!wO2ZLs<J?2!]W2z8,J?z__3!zKz2V=]WJ?1!p.m4ZLs<3!]W3$V=
  2ZkW,3Wp3RI3S*3_v3I~3K:3VU~!![p3cB3sI3sN3MR3M[3b_3pg3qW3M+3N+3_43dR3fN3D[3Fx3[z3s<3sB3OB3OF3v?3x
  N3x<3)!3wG3hU3Z!3l<3nL3kA3Sz3),3Xd3QXv?4wG4hU~!!]A1Xfk6Wp4In^8J?1JNm4TPFB3!Z~3JJzp.3zdM)$1p]z0bI
  *2hvjl2zVkz662hvjlj?SO2fXdR2bhI*4cL)(4!Sb4!In~!!]Q1m4ht_:htN]4Sb1]>I&llS7^&jA2%zMWwr2cLsD2V2H^jp
  wr^&]X[z2!L$H^jpwr^&l90j[pQm40$ZU0j[pQm4vxNt0&ZU0r1]>zEvzKrk52$zrH~!!^50_.ZkW,2Wp2RI2S*2_v2I~2K:
  2VU2Vd2cB2zRU2sI2sN2MR2M[2b_2pg2qW2M+2N+2_42dR2fN2D[2Fx2[z2wG2hU2Z!2v?2kA2Sz2[:2),2!lG2UV2Uv2t%2
  t[2OK2!^K2cS2B)1v7m4pz,Q3!3UV3Uv3t%3t[3OK3<A3^KUv4cS3OK.=1m4?22NrF[2v+2v*2AK1L=m4]cwG4hU4v?4Sz1Z
  kSSkA1N>xL2cw2sz2r$2R*2QW2mO2l62Om2bI1m4[4kt2!1p]zG+2z%l2<*2z6E1Zkl<2nL2v0hS3k03X~3[91v7m4v0hS4k
  04X~4[91Zk^K_v3Vd3Eh3En1L=m4^K]c_45[z5Z!1Zkl:WIl<1v7m4l:WIPb1r]]>l:WIz995WVfV1Zkvch(WIqW5h!1v7m4
  vch(WIPb6t01m4vch(WIr^+&1ZkOSh(WIb_5x85z751v7m4z68WIUV3WUcX4t%4O[1ZklGW,3Wp3RI3I~3x<3cB3M+3_43fN
  3Q(3D[3qW3Sz1L=m4lG]cv?1v7m4lG,Q4OK5.=4QMwE1m4lGr_+!3rc+!3z&Ir_+!4z23r]1Zkk:d_Q(1m4k:d_rc1lGN>xL
  3cw3sz3r$3R*3QW3mO3l63Om3bI1m4Wtr^3rb1v7m4<K),4<A1p]lGcw3Pl0RvJPZk>K3E93RU3Nm3P13v&3xK3q%3V$3W<3
  ZD3]53_C3ct3dp3xO3hb3kT3q+3t=3fP3Ww3S03h33lc3KS3J?3Vl3Kd3K=3w;3Vf3S~3TG3Th3vW3T?3U)~!!bh3ww~!!bp
  3.t~!!bs1Zk>K2E92RU2Nm2P12v&2xK2q%2V$2W<2ZD2]52_C2ct2dp2xO2hb2kT2q+2t=2fP2Ww2S02h32lc2KS2J?2Vl2K
  d2K=2w;2Vf2S~2TG2Th2vW2T?2U)2QC2ww2P&2sdRU2<F1drl00^IZkRv_C0RvZk.t2TAm42!Z&0T=KWX62nP2b<2r72nU2j
  H2^32fb2nR2mD2nT2Up2Kc2nM2KP2X!2qk2fT2Tk2b?2nQ2bC2zQS2r92jO2nS2jI2WG2^62WD2fg2zZ.2fn2fj2fk2fl2zZ
  32zZ52zZ22fd2fc2fm2fh2WF2WH2mH2mJ2mN2mL2mI2mK2zh~2zj!2zhv2mF2mE2zhx2mM2zh|2mG2z$:2z$<2z!G2z!I2dk
  2Uq2z=h2z=]2z=b2z=d2z=^2nO2z=X2z=W2z=g2z=_2wg2z$c2z$92z$;2z!F2z!H2z$+2z$*2z$82z!E2fU2WE2nN2wb2zC
  12bB2b=2b>2r;2QK1!W)2),2.g2wG2wJ2PB2OK2w_2wV2cS2v?2vB2cX2wx2t%2v^2vW2vl2x+2Pb2wn2UV2)12)22z|z2wH
  2z2F2z2G2z2E2z~S2z~T2zTq2zTp2zTx2zTr2zTt2w|2w~2|!(2|!&2wz2ztM2ztN2ztO2ztR2ztQ2|!<2|!?2|!>2x02x.2
  |!B2x,2z2z2z2w2z~n2z<S2z<]2z<X2z<[2z<V2z<T2?_2?d2?g2?f2zkP2)02z||2z~U2zTv2zTw1W!X62nP2X72b<2b=2b
  >2r72jH2jL2jN2jR2jT2jV2jQ2jI2^32fb2fj2mD2nT2Up2Kc2KP2X!2qk2fT2Tk2zC.2zC02b?2bC2bB2bA2zQU2r92r;2j
  M2jO2jW2z_z2nS2z_p2z_q2jS2z_r2jJ2z_w2jP2jK2jX2^42zM62^62^72zM82^52zM12zM32WD2zZ02fh2ff2WF2mH2mN2
  mL2mK2dk2Uq2z=f2nO2z=[2wg2wj2wh2fU2WE2z:,2z:02z:+2z:.2wb2zC+2zC,2zC(2zC*2zC)2nQ0P^p[Sz2UC2Tg2S|2
  TR2TG2U&2z;E2Z!2[T2Zw2Z$2ZQ2ZM2[<2[b2Tc2z9p2z9m2Td2z9l2z9k2z9n2Tf2[z2^k2^)2[|2]g2]Z2^G2_&2zn$2zn
  +2zn)2zn%2zn(2zn&2zn*2zn,2hU2k62jD2hV2j(2hw2jq2k=2kA2p*2m*2kB2kv2kp2mw2pT2l<2m!2lX2l?2lN2lM2lj2m
  &2h+2h>2h62h,2z]M2h52h92z]m2z^6~!!hk2hR2z^72hQ2hP~!!hr2z]P2z]X2z]U2z]Q2z]T2z]S2z]V~!!h~2z]Z~!!j$
  2z]_2z][2z]^2z]]~!!j+2D[2I*2G,2D^2FG2F82Gx2I[2tb2v92t~2tc2tr2tn2v.2zxT2pg2sV2r02ph2q;2q72rW2sj2I
  ~2Lf2Kb2J!2K22K.2L,2L~2w:2z|V2w>2z|;2z|?2w<2w?2z|O2z|[~!!jX2z|b2z|]2z|_2z|^~!!jb2_42c,2b;2_62_[2
  _X2bc2c?2cB2cP2cJ2cC2cF2cE2cN2zTI2SD),3t%3UV3,Q3O[3OK3cS3v?2W,2Xf2X)2W02WW2WV2XH2zCD2Xr~!!k22Xw2
  Xs2Xv2Xt~!!k82Xx2zDK2zDI2zDF2zDH2zDG2zDJ~!!kA2zDL~!!kC2zDP2zDM2zDO2zDN~!!kI2v?2w52vl2vA2vZ2vW2v~
  2zzc2fQ),3t%3UV3,Q3O[3OK3cS~!!kZ2x<2xb2xV2x>2xI2xH2x]2|%*2xN2xU2xR2|$92xQ2xP2xT2|$Q2wG2x+2wn2wI2
  wX2wV2wx2|!*2M+2O42N02M,2Ml2Mf2Nb2z132MR2Mc2M_2MS2z)(2MZ2Mb2z)C2VU2W(2Vh2VV2V_2V^2Vw2W*2RI2Sd2S7
  2RK2Rq2Rn2SF2z7U2Sq~!!lF2St2z8M2Ss2Sr~!!lL2R~2S(2S$2z6Q2z6U2S!2S%2z6p2qW2r(2qj2qX2q_2q^2qt2r,2K:
  2K^2KO2K;2KH2KE2KU2z$T2fN2zXt2fS2fO2zXd2fR2fV2zXx2s<2sG2sE2zs*2sA2s?2sF2zs;2ztC2ztK2ztG2ztD2ztF2
  ztE2ztI2ztJ2Q(2R=2QC2Q)2Q92Q72Qq2RE2dR2gr2fZ2dS2f52f.2g32h!2zcI2_,2z5L~!!mD1L2Rr>Sv7Zb]>2%2!Rr1!
  kt1zzl1R?ns1L31l+1L11!z[A1hH]>1drl01N>cw2sz2r$2R*2QW2mO2l62Om2bI1c5qC2sq2qr2R&2QG2mU2l82Os2bK2UI
  2qCq|~!!mm1p[kr_&2_*2_)2_(2krI[2I_2I^2I]2krRE2RG2RF2z5J2krh!2h&2h%2h$1r[]>z~|3z)j3zb+3!ls3z*D3zB
  (3z$63z:(3z)k3zD2~!!n90KLZk),2OK2UV2cS2t%+!2RI2W,2Rn2S72SF2Sd+!2Sz2TG2Tg2U&2UC+!2Z!2ZM2Zw2[<2[T+
  !2[z2]Z2^)2^G2^k2_42U%2_<2_X2b;2bc2c,+!2h?2hF2hI2hL2hO+!2kA2k?2kp2m*2mw2p*+!2M+2pg2Mf2q72N02r02N
  b2O4+!2N^2rN2rO2rT2rU2rV+!2s<2s?2sE2sF2sG+!2v?2vW2vl2v~2w5+!2wG2wV2wn2wx2x++!2_!~!!pE1mlZkwV3wn3
  wx3x++!3_!~!!pM0JApZUR2OK2,V2UV2Uv2cS2d!2!wF2JhO[3UV2),2,Q2vW2!vb2vl2!vb2zzU2!vb2v~2!vb2w(2!vb2!
  _H2v?2!vb2vA2!vb2!_H2<A2wFv>2SDns2QM.P3SR3H?T(jf3$rk3$jZ3!3Nw.P4lstwp&3^.Nr3lsU7p%3g.3O!pn2P12V$
  2ct2>K2f.2zV^2fZ2fq2g32gB2!wF2JhTR3Tg2dR2dS2h$2!vb2h&2!vb2z]82!vb2h(2!vb2z]92!vb2h!2!vb2z]72!vb2
  !wF2dQ2!vb2JhSx2q72znK2r02zqK2rW2rh2!wF2JhMl3N02pg2ph2sk2!vb2zt%2!vb2zt&2!vb2sz2!vb2zt02!vb2sj2!
  vb2zsw2!vb2!_H2pf2sK2sS2sT2sI2WV2zA=2X)2zBk2XH2XO2!wF2W,2W02Xt2!vb2Xw2!vb2zD?2!vb2zDB2!vb2zDC2!v
  b2Xr2!vb2Xs2!vb2!_H2W+2Xq2zjsWZ3zBj3zCJ3W72K.2J$2Kb2z$h2L,2LG2!wF2I~2J!2z($2!vb2M!2!vb2z(&2!vb2z
  ((2!vb2z()2!vb2L~2!vb2z(!2!vb2!_H2Iq2kgqV2]Z2zJT2^)2zM;2^G2^V2!wF2[z2[|2_(2!vb2_*2!vb2zNp2!vb2zN
  q2!vb2zNr2!vb2_&2!vb2zNn2!vb2!_H2[g2!vb2zM$2Ap[g2!kg2_X2zO42b;2bE2bc2bf2!wF2_42_62zS~2!vb2c?2!vb
  2zS|2!vb2!_H2_12Jh_t2zQG2ZM2zDj2Zw2zFT2[<2[G2!wF2Z!2Z$2zGj2!vb2zGk2!vb2zGl2!vb2zGm2!vb2zGn2!vb2[
  b2!vb2zGh2!vb2X~2!vb2!]c2kp2zch2m*2m52mw2n(2!wF2kA2kB2zmE2!vb2zmG2!vb2zmH2!vb2zmL2!vb2zmM2!vb2pT
  2!vb2zmB2!vb2!_H2k?2!Ap2pS2Gck?2zMzzj52_Hzj;3zcQ3zkF3zlc3zj<3zdc2lM2lX2l^2lj2ln2l<2l?2m(2!vb2zhH
  2!vb2zhI2!vb2zhJ2!vb2zhK2!vb2m&2!vb2zhG2!vb2l;2wV2z~!2wn2z~v2wx2x%2!wF2wG2wI2|!T2!vb2|!U2!vb2|!V
  2!vb2|!W2!vb2|!X2!vb2x82!vb2|!S2!vb2!_H2wE2!G02!vb2kgwn2hw2!hT2vbZM2z^T2jD2jd2jq2j~2vb[<2hU2hV2v
  bZ!2zcA2!vb2hS2!vb2!]c2Q72z3U2QC2z472Qq2Qw2Q(2Q)2z5I2!vb2Q&2q^2!_32qj2!_32ql2!_32qt2qw2qW2qX2r.2
  !vb2qV2sP2sQ2sR2sN2zsB2zt62zt72zt82zt42zSlTG3Tg3Tn3U&3U23Sz3S|3Sx2!zSm2z:;2z]D2h62h72h92h;2h+2h,
  2h*2rQ2rR2rS2rP2vbhw3jD3jq3hU2zPR2b02zQ%2b42zQ72_v2_w2_t2zRL2kglM3lX3lj3l<2w*q^3qj3qt3qW3qV2Zt2z
  FD2Zv2zFE2Zr2Zs2Zq2zpXq^3qj3ql3qt3qw3qW3qX3qV2<MBV2GcOK3UV3cS3),3vW3vl3v~3v?3_X3b;3bc3_43WV3X)3X
  H3W,2kgTG3Tg3U&3Sz2Jhz743S43S13z7$3z703S*3k63jq3hw3j(3jD3hU3w53v~3vW3vZ3vl3v?3z<.3z<,3UM3z<*3z<+
  3z<(3r(3qt3q^3q_3qj3qW3zsN3sT3sK3zsA3sS3sI3gr3g33f.3f53fZ3dR3dQ3Sd3SF3Rn3Rq3S73RI3zBR3X&3Wx3zBG3
  W~3Wp3zC63zC53zC23zC33zC43X:3X93c,3bc3_X3_[3b;3_43^k3^G3]Z3]g3^)3[z3x+3wx3wV3wX3wn3wG3W(2!kg2JhV
  w3V^3V_3Vh2!kg2JhVU3Vr3Vq3z?J3z?K3Vn3Vm3[T3[<3ZM3ZQ3Zw3Z!3z+!3z*~3N_3z*w3z*|3N^3zFF3Zv3zFB3zFC3Z
  t3Zr3zql3rS3rQ3zqj3rR3rP3rV3rU3rO3zqh3rT3rN3xb3x]3xH3xI3xV3x<3x;3!V23OJ3OI3OC3OD3OH3OB3p*3mw3kp3
  kv3m*3kA3m!3lj3lM3lN3lX3l<3l;3sG3sF3s?3sA3sE3s<3K^3KU3KE3KH3KO3K:3zsL3zsK3zsH3zsI3zsJ3zsG2KOm42R
  ?ns2h12zPT2zRO2zRP2zRQ2zRR2zRM2zRN2w*zq;3zq<3zq=3zq>3zq?3r,3r.3QMqV2Gcv>0zUbn4]>1ZkFU2zGV2z3x2zc
  n2zQh2ztc2z(]2zqW2z%Z2z!>2zNG2z7k2zP]2zlI2zc&2<E2c|2tQ2z1V2z>[2z1U2d12ztx2z=l2z1W2zX11Q8]>1$j=~!
  !|70zc1Zkz4!z4(Q7Q&2t_2zvMtQt%2x*2wE2v>2zq8zq9qx2P]2>|),2d8cS2.A),2.|2zG9cS2!zgz2!2cX2ct2z^ch[z_
  9hS2zAh2z!C2zAgW+2RH2P62z69z8URH2RZ2z|)w8v>2z8mSx2!z8h2!zG72!zgv2zOJzT.zOI_12!zgx2z0R2z>kVFz>rUV
  2OK2z?8VS2z6H2zG6.g2zgs),2z>wz2H2zXGzX<dQ2<sz2J2zjvk?2!zh_zG:2!zg|2Iq2x;2zqcrHztApf2!zg~2M*2FlFh
  GZBV2!zgt2z0S2zV*2z1mOcOK2zK2]5[g2!zG82!zgw2zEjzD~zG1X~2z0Q2z>>2V.2z(Sz(OM*2zVBz2pcS2OO2z>^2z(%2
  J52z!92zl+2zG;2zh!2z<v2h*2w91m?gw1!^r1!LX1A&p]1!zsv1!FW1ZkW+2l;2d!2z51Jqd84VF4Oc4.A4.|~!!~K0znSZ
  k),2UV2t%2W,2RI2_v2pg2M+2_42dR2D[2[z2wG2hU2Z!2v?2kA2Sz1v7m4UV3t%1m4v*2dg~!!~q1Zk?mhU0z9+Zk),2UV2
  t%2W,2RI2_v2pg2M+2_42dR2D[2[z2wG2hU2Z!2v?2kA2Sz1v7m4UV3t%1m4dg0zXjm?gw1!Nw~!$!=0I5Zk),2UV2t%2W,2
  RI2_v2pg2M+2_42dR2D[2[z2wG2hU2Z!2v?2kA2Sz1v7m4UV3t%~!$!b0znTZk),2UV2t%2W,2RI2_v2pg2M+2_42dR2D[2[
  z2wG~!$!s2Z!2v?2kA~!$!x1v7m4UV3t%~!$$00X%ZkW,2Wp2XH2X&2b42I~2K:2L,2KU2cN2M+2sN2Nb2sR2zRT2pg2qW2r
  W2qt2bc2D[2fN2g32fV2^G2wx2jq2[<2v.2l<2nX2kA2Sz2Z!2h+1V&v7z]I3h,3h63h73h>3z^)3hO3z^43k>3zcO3[c3zH
  !3h53h13h;t!cw5sz3z]K1v7z>A?Q3,Q2!m43UV3Uv3wE3x93t%3t[3t)3cX3wG3Un3OK3.g3<A3d!3B)1m4zQ^2z_$2|!Q2
  zNg2zrc2EC2zbF2zqt2zAJ2<?2zd0zd52zx$2z%V2E^2zBB2EI2J=fqzD72Z^rh2Fv2zXm^m2zCP1Ltp]z_k1m4B=2B&~!$%
  D1N>xL2cw2sz2r$2R*2QW2mO2l62Om2bI~!$%T1p]Z^B$zjg4^t4fq4FT4IE4gO4gR4gS4gP4gQ~!$%j0^MGJ1P(1L31R?ns
  1L11R*Nt1rXm~UR1m+p[HC]A1]6L32R?ns1zQk1R3tkl$cw4sz4r$1v7l01R3tkl$R*1N>xL2cw2sz2r$2R*2QW2mO2l62Om
  2bI~!$&61Zk),2OK2UV2cS2t%2cX2t02O[2_42>U2D[2dR2h+2RI2[z2Z!2kA2l<2pg2M+2K:2VU2wG2hU2v?2Q(2W,2Wp2s
  <2x<2S|2|$w2Zr2xR2KO2rX[Ev7m43OK3UV3cS3t%3cX3t03>U3D[3dR3h+3RI3[z3pg3M+3K:3VU3s<3wG3v?3W,3RK3S|3
  z?A3zQN3OB2m+OK3UV3VP3t03t%3>U3W,3RI3Sz3dR3l<3pg3M+3VU3Q(3RK3S|3s<3x<3hV3K:3xN2]6UV3W,3hU3Q(3xN2
  K:vxszNt~!$(J2<tRR?2cw4!v+4z(d4ztd4!V=4E54!r$4),4UV4W,4_v4I~4sI4sN4MR4b_4pg4M+4dR4fN4nL4xN4x<4<8
  2rX<tRRpg5xN2]6<tRRS*5_v5I~5Vd5sI5M[5pg5N+5nL5M%5xN5x<2<tRRT(t%5wG2]6<tRRFx2<tRRz(R2]6<tRRZr~!$)
  *0JApZdO2BK2,d2vU2z[82zWt2z]:2zp(2WT2zD=2]G2zRs2zOO2zEm2zjx2kf2lw2zgN2zhL2|!62wU2hr2zT!2!cg2zT$2
  !cg2zT%2!cg2zT&2!cg2zcD2zcE2zcF2zcG2zcH2k=2cgdQ3pf3W+3Iq3[g+!3k?3l;2OSv>2!vc2QMmljf3hgNr2hTzcC2v
  b[G3Z$2zq:2r,2zsF2zsD2sO2zqm2zqk2kgm(3ln3U22Jhz8N3MwRq3RK3Sq2kgzA*2JhW*2FDMwX~4hS2JhMzk?~!$*.0zF
  [zxBZk1ZkW,2Wp2RI2S*2_v2I~2K:2VU2Vd2z~>2pg2qW2M+2N+2_42dR2fN2D[2Fx2[z2wG2hU2Z!2v?2l<2nL2kA2Sz2z8
  R2rw~!$*P1v7m4),3UV3t%3O[3<A3d!3B)3OK3cS1p.ZkwG3hU3v?~!$*d1mlZkW,3_v3?23pg3_43dR3[z3hU3Z!1m4zNJ2
  zB&2zcf~!$*x2[G~!$+!1Pl]>1!hH1N>xL2cw2sz2r$2R*2QW2mO2l62Om2bI0psZMZkW,3w:3_v3s<3kA3wG3pg3qW3Z!3d
  R3fN3[z3Q(3tb3Sz3h+3Wp3sB3_43),3UV3O[3Oc3t%3d!3cS3t03OK3B+3<A~!$+S3r_+&~!$+h0_pps[WZkTlh+4![M4Tl
  W,5w:5_v4[MW,5w:5_v4Tls<5kA5wG4[Ms<5kA5wG4Tlpg5qW5_44[Mpg5qW5_44TldR5fN5[z4[MdR5fN5[z4TlQ(5tb5Z!
  4[MQ(5tb5Z!4TlSz5M+5D[4[MSz5M+5D[4TlXp5wA4[MXp5wA4Tlp+4![M~!$,F3v7m4v7zh%5,Q5Uv5t%5t[5OK5.g5cS5c
  T5t05BK5,d5t^5dO5cU5zts5VP3ZkQMt_5_t5_15[g5W+5M*5BV3r]]?+!~!$,l3N>xL4cw4sz4r$4R*4QW4mO4l64Om4bI3
  q[N>cw~!$.!3m4Z)4zD|0X%p]zWl2^tzCH2!fq2!FT2!IE2!gO2!gR2!gS2!gP2!gQ2!M>2!MB2!MC2!M?2!MA2!MD2zsp2^
  tzbH2!fq2!FT2!IE2!gO2!gR2!gS2!gP2!gQ2!M>2!MB2!MC2!M?2!MA2!MD0I4ZkW,2RI2_v2b12dR2D[2[z2^h2pg2M+2_
  42bz2I~2VU2cB2zT,2wG2hU2Z!2tb2kA2),2Sz1v7m4UV3t%3OK3cS3.g~!$.m1zV|1P5c[kt0psq[ZkTlW,4Wp4Xx3[MW,4
  Xx4Wp3_v3TlI~4K:3[MI~4kA4K:3cB3z^q3Tlhq3M+3[Mhq3hl3Tlpg4qW3[Mpg4qW3_43D[3TldR4fN4Q(3[MdR4Q(4fN3[
  z3[MwG3!Tl3hU3zc$3Z!3[W3v?3Tll<4nL4kA4Sz3[:3),3[MSz3UV3Uv3t%3t[3O[3d!3Z)3SSkA2L=m4]chU5Z!4Z!znhZ
  ,2!m4]0W=2L=m4QM_v4[MdR4$Tlhqd14[z4D[4kA~!$0^2m4zcw2v7m4),4]0kb4,Q4!pz4UV4Uv4t04t]4t%4t[4cS4cTF[
  4dO4OK4.g4d!4<A4!q[4cT.=2m4]0W=3r^+!3zBVrb+$3hUz8d3]0kO3zBWzAW~!$1+2L2LdNr2z;QN>xL4cw4sz4r$4R*4Q
  W4mO4l64Om4bI~!$1>2q[N>xL4cw4sz4r$4R*4QW4mO4l64Om4bI~!$1O2m4zzP3zzQ3zdG3zB)3z;b3z+03j=k&hl3]0z~=
  3zA>3zA?3zd>3zd?3z9)3J%~!$1c0L2N|Kn.C1z*91V+1O%A71s1Nr1z|4F[1!vq[%1!d(]>1%Nw1!Z~K5p%1%p(1dw.=1$N
  w1dwF[2dH1ZGmlZkv>F[4$sd1ZTdx.=ZT1jZdx.=jZ1ZTdxF[ZT1jZdxF[jZ1nDHT.=1!c5m41!V=Nw?l1!g.m41%Nw4F[1s
  1.P.C1ZGmlZkV6RH5hS5pf~!$2g0E,m4t9z_h3JF2z!:2pK2GM1Zk<P3q:2z=q3q:2zv(3q:2hUj24q:2Z!Z_4q:2z1t2<D2
  zUf3q:2W,3].2RI3z7f2_v2I~3zDt2VU3z?72cB2pgzEd3^v].2M+^v>24].2_4z^h2pg3zp!2M+3zJZ2_42dR3zAS2D[3zB
  %2[z2wG2hU2Z!2v?2kAzck3zd932Sz1m4z_K1v7m4q:3t94k^3p=4z=v3hUj25q:3Z!Z_5q:3px4j24q:4!j23f>4q:1.X.X
  1ZkW6k_2!zBP2!ztH2!O]2!tn2!xB2!Ak2?mVv~!$3k1N>xL2cw2sz2r$2R*2QW2mO2l62Om2bI1dl1df1vt1J_zW,2zhf2z
  WP1zW&1^|p]Nn3z)^3O:3M<4pK3z*R3z(P3z)s3z([3M<z6:3L2zp;4z294W^4W]4z?54!W^vx4$W]4Fb4z7_3zb$d(O65M1
  4L!sZ5znX3zE~d(zW45z[x4L!zZM5zZ]4d(ft1dlzEX1!df~!$4H0pCm4zWC2zW82zW;1Zk),2UV2t%2.g2cS2OK2Pb2W,2h
  +2RI2_v2I~2VU2x<2cB2pg2M+2_42dR2Q(2tb2D[2[z2wG2hU2Z!2v?2kA2w:2Sz1L=m4zW)3zWA3zWD1v7m4zW53zWE3zW.
  3zW<3zW(3zW31m4zW%2v*1L=m4zWW[z4v?1ZkWp2zmS1N>xL2cw2sz2r$2R*2QW2mO2l62Om2bI1B<1Zkz_W2Zm2Fx2QMW+3
  [g0E[Zk),2!m;2Sz2!m;2!]72D[2!WJ2dR2!m;2_42!]72v?2!m;2!d]2RI2!m;2VU2M+2hU2!m;2[z2!m;2n1pg2!bl2kA2
  !m;2!]72wG2!m;2_v2Z!2!m;2cB2I~2_M2]J2UV2t%1m4zq~1v7m4OK3!d]3O[3UV3!WJ3cS3!WJ3t%4Q~m;kA1L=m4_t3Sx
  1dj1zW=~!$6&1p]GD_4zLB3zZ;3z?q3dj0zF5ZkW,2zC82Wp2RI2z7L2_v2I~2K:2VU2cB2pg2qW2M+2_42dR2g%2fN2Q(2z
  4M2D[2G]2[z2^D2s<2sB2OB2wG2hU2Z!2Sz2T|2tb2kA2l<2v?2),1p.ZkwG3hU1v7m4,Q3UV3cS3d!3t%3t[3OK1L=m4W+3
  [g3X~3_13dQ3hS3pf3zT73W=1m4z^j2c3~!$6p1gwznG2!cHzqA2z!K2!zs531N>xL2cw2sz2r$2R*2QW2mO2l62Om2bI~!$
  7+1ZksI2sN2MR0ckz$,N>xL3cw3sz3r$3R*3QW3mO3l63Om3bI2ZkZ!3Am3<03>U3<V3Z$3,X3,W3,Z3,c3Zw3VF3Ut3z>X3
  VD3[T3t++!3tG3t^3ZM3PC3z1^3P13PQ3[<3zVF3zUB3dA3c_2^kzsP2z5kzsO2!zNA2z_<2zXT2<92gwzNC3!Nw0M(mlZkk
  .tn3zG<Mf3_DcS3vmPR3pzq73!zq03pzTAm44wR3zv0t6~!$7z0RvzN>JPZk>K4E94RU4Nm4P14v&4xK4q%4V$4W<4ZD4]54
  _C4ct4dp4xO4hb4kT4q+4t=4fP4Ww4S04h34lc4KS4J?4Vl4Kd4K=4w;4Vf4S~4TG4Th4vW4T?4U)4QC4ww4P&4sdRU4<F~!
  $8Q4.t4TAm44!Z&0pCgwGDzm93zW93z])3J33Zmzd<3!W,3!M+3!D[~!$8j0tqr]zA^2zgG2z[B1m4zQ[2wM^1pP1!r]wM<4
  V&3$3$WQ2JFF[2wMWQV&pPzdT2NwpP2!s12WQ?12NrF[2!szNt2$r$2zb*WKV&pP2$Aq1!m4v+3t.2$j=2v+?12$j=2v+t.v
  xpt3$?12?2?!3E$3zw74vxpt2zq_2z9h[E?22$2$zbz2?2ztfzNH2?q2!k&1r]JF.=1m4Vj2tK2As1r]jf.=2$Nw1m4Nw?2?
  !~!$9G0ZGZkmlJP),4.g1!mlZksd1ZkmlJPELBV4Iq+!4P]4OK1!mlZksdd(4UV1ZkmlJPVS+!4X~vxp%4[g4j=_14cS4!d(
  1!mlZkm04!d(4cSvxp%3sdcX1ZkmlJPd<1mlZkrkT(cS3$H?1ZkmlJPdQ4j=hS4!sd4pf+!1!mlZkm04!z*:4sd[g1ZkmlJP
  t_+!4x;4Q$2v1zE_zk52<F0SVZkmlJPRT4Z74fZ4jC4gn0M(ZkmlJPOz0^IZkJP),3.g3BV3!EL3M*+!3!j=3RH+*3!j=3cS
  3d<3dQ3hS3pf+!3v>2ml),3!sd3>33sd.g3BV3M*+!3kk3d(OK3$sd3RH3sdUV3W+3[g3P63cS3!d(3!rkT(3$H?3dQ3pf+!
  3!m03sd[g3t_3<F3Fp3SVRT3Mt3SVfS3KO0ZGp3mlZkUV4hS4t%+!0SVp3mlZkFp4RT4jC4fS4KO0ZGmlZkt03BVvx^.rA3%
  M*3%Q&3%[g3%_13%dQ3%hS5$QT>S3$k?vx3%pf3%x;3sdRH0^IZkM(P10ZGmlZkV6RH3qVvxzlV2JPZkUVvxp%2$ZkV?3$dQ
  2$JPZkt%2$ZktM3BVvxd^U33%M*3%Q&3%RH3%W+3%X~3%[g3%_13%dQ3%hS3%k?3%PT3%t_3%w93%x;3!),vxj93%>33M*vx
  U3>Spt3OKvxj9U33&d(3(j=3%kk3%UV3%d(cS3%PT3%t%3%Q$0^IZkmlsd>33Iq4vxLq3P]3j=d(OK3Q&3NsVSvxp%3knRH3
  sdSx3UVvxp%3V?3JPUV5vxp%3VSvxL]3X~vxj9U35!d^3JPX~3[gvxU33sd[gvx[EZ[3_1vxZTU35!j93JP_13ELcS3fS3k?
  vxU33PT3pfvxd^U33t%EE3tM3JPt%3t_vxU33sdt_3x;4vxj9U35Lq3Q$3qh0L2NvSR.C2!.P1mrF[1pN]>1zJV1z8$1zJX1
  .R1z8!1.Q1ZGmlZkhSF[1Hj1zJW1NwKn.=1!c^1xXF[1!VF1tQ.=1!tV1!ZGmlZkQ^d(),4.g4?44B;4IqK14V6M*4P]4RH2
  !ZkmlJP2mlZkW++!2!ZkmlJP+!2mlZk_12!ZkmlJP5hS2mlZkhSk+4k?4![E4x;4>34BV4Fp4kk4Q&4X~vxNw^.rA4cSvxZ~
  K5p%4dQ4PT4t%vxZ~K5p%4v>4),vxN14$cS4$t%1tIpn.=1WS.=jZ3ZT1$Nr1vmV=HpF[1NrF[ZT1z)U]>1NwV=HhF[1!>.P
  GrW1ZTA9.=1jZA9>SO!A9F[0!ZGJPZk),vxjf1(ml1JPZkBVvxNr.=1(ml1JPZkBVvxNrF[1(ml1!JPZkBVvx[%1(ml1JPZk
  IqvxK1>S.P1(mlZk1JPZkM*vxNr.=1(ml1JPZkM*vxNrF[1(ml1!JPZkM*vx[%1(ml1JPZkM*vxK11&ml1JPZkM*vxKnF[1(
  ml1JPZkOKvx]!>SSR1(mlZk1JPZkOKvx]!>S.P1(mlZk1JPZkOKvxKnF[1(ml1!JPZkOKvxrA1(ml1JPZkOKvxK1>SHh1(ml
  Zk1JPZkQ&vxNr.=1(ml1JPZkRHvx]!1&ml1JPZkSxvxNr.=1(ml1JPZkSxvxNrF[1(ml1JPZkSxvxN11&ml1JPZkSxvxK11&
  ml1JPZkSxvxHhF[1(ml1!JPZkUVvxrA1(ml1JPZkUVvxN1>S.P1(mlZk1!JPZkW+vx1&ml1JPZkW+vxNrF[1(ml1!JPZkW+v
  x[%1(ml1!JPZkX~vxNr1(ml1JPZkX~vxNrF[>S]!1(mlZkX~1JPZkX~vx[%F[1(ml1!JPZkX~vxKn1(ml1JPZk[gvx.P1&ml
  1JPZk[gvxNr.=1(ml1JPZk[gvxNrF[1(ml1JPZk_1vxNr.=1(ml1JPZk_1vxNrF[1(ml1!JPZk_1vx[%1(ml1!JPZk_1vxKn
  1(ml1JPZkcSvxrA>S.P1(mlZk1JPZkcSvxrA>SN11(mlZk1JPZkcSvx]!>SSR1(mlZk1JPZkcSvx]!>S.P1(mlZk1!JPZkdQ
  vx1&ml1JPZkdQvxNr.=1(ml1%JPZkhS1(ml1JPZkhSvxNrF[1(ml1JPZkhSvxNrF[>S]!1(mlZkhS1JPZkhSvx[%F[1(ml1J
  PZkk?vxNr.=1(ml1JPZkk?vxNrF[1(ml1JPZkk?vx.P>SNr.=1(mlZkk?1%JPZkk?vxJb1(mlZkk?1%JPZkk?vxNrF[1(mlZ
  kk?vx1$JPZkpfvx1(ml1JPZkpfvxNrF[1(ml1!JPZkpfvx[%1(ml1!JPZkpfvxKn1(ml1!JPZkt%vxN11(ml1!JPZkt%vxrA
  1(ml1!JPZkt%vxKn1(ml1JPZkt%vxrA>S.P1(mlZk1JPZkt%vx]!>SN11(mlZk1JPZkt_vxrA1&ml1JPZkt_vxNrF[1(ml1J
  PZkv>vxSR1&ml1JPZkv>vx.P1&ml1JPZkv>vxN11&ml1JPZkv>vxNr.=1(ml1JPZkv>vxNrF[1(ml1JPZkw9vxNr.=1(ml1J
  PZkw9vxN11&ml1JPZkwEvxNr.=1(ml1JPZkx;vxKn1&ml1JPZkx;vxNrF[1(ml1!JPZkx;vx[%1(ml3%Sx3pfvxN13v>vxjf
  .=3%wE3),vxjZT(jf3[Ek?vxNr.=6N2p%6!Tl1JPZklIk?1mlZkMt1JPZk),vxNrF[1(ml1JPZk),vxU3.=1(ml1JPZk),vx
  Kn>S.P1(mlZk1JPZk),vxKn>SSR1(mlZk1JPZk),vxKn>SU3.=1(mlZk),1JPZk),vxKn>SrA1(mlZk1JPZk),vxKn>SNrF[
  1(mlZk),1JPZk),vxHh>S.P1(mlZk1JPZk),vxHh>SSR1(mlZk1JPZk),vxHh>SU3.=1(mlZk),1JPZk),vxHh>SrA1(mlZk
  1JPZk),vxHh>SNrF[1(mlZk),1$JPZkOKvx1(ml1JPZkOKvxU3.=1(ml1JPZkOKvxrA1&ml1JPZkOKvxKn>S.P1(mlZk1JPZ
  kOKvxKn>SSR1(mlZk1JPZkOKvxKn>SU3.=1(mlZkOK1JPZkOKvxKn>SrA1(mlZk1JPZkOKvxKn>SNrF[1(mlZkOK1JPZkUVv
  xU3.=1(ml1JPZkUVvxNrF[1(ml1%JPZkcS1(ml1JPZkcSvxU3.=1(ml1JPZkcSvxKn>S.P1(mlZk1JPZkcSvxKn>SSR1(mlZ
  k1JPZkcSvxKn>SU3.=1(mlZkcS1JPZkcSvxKn>SrA1(mlZk1JPZkcSvxKn>SNrF[1(mlZkcS1JPZkcSvxU8>S.P1(mlZk1JP
  ZkcSvxU8>SSR1(mlZk1JPZkcSvxU8>SU3.=1(mlZkcS1JPZkcSvxU8>SrA1(mlZk1JPZkcSvxU8>SNrF[1(mlZkcS1$JPZkt
  %vx1(ml1JPZkt%vxU3.=1(ml1JPZkt%vxU8>S.P1(mlZk1JPZkt%vxU8>SSR1(mlZk1JPZkt%vxU8>SU3.=1(mlZkt%1JPZk
  t%vxU8>SrA1(mlZk1JPZkt%vxU8>SNrF[1(mlZkt%1JPZkwEvxSR1&ml1JPZkwEvxNrF[1(ml1JPZkwEvxU3.=1(ml1JPZkw
  EvxrA1&ml1JPZk^0[91%ml1JPZk^0t_1%ml1JPZkwEvx[H1&ml0SVmlZk>3vxgq5MK5gq>Sth5$MK5gq>SdN5$MK5gq>SfD5
  $MK1JPZk>3vxgq5MK5gq>Sth5$MK5gq>SdN5$MK5gq>SfD5$MK1mlZkPFvxgq5MK5gq>Sth5$MK5gq>SdN5$MK~!$AD1JPZk
  PFvxgq5MK5gq>Sth5$MK5gq>SdN5$MK~!$AL1mlZkPXvxgq5MK5gq>Sth5$MK5gq>SdN5$MK5gq>SfD5$MK1JPZkPXvxgq5M
  K5gq>Sth5$MK5gq>SdN5$MK5gq>SfD5$MK1mlZkV?vxgq5MK5gq>Sth5$MK5gq>SdN5$MK5gq>SfD5$MK1JPZkV?vxgq5MK5
  gq>Sth5$MK5gq>SdN5$MK5gq>SfD5$MK1mlZkcsvxgq5MK5gq>Sth5$MK5gq>SdN5$MK~!$B!1JPZkcsvxgq5MK5gq>Sth5$
  MK5gq>SdN5$MK~!$B,1mlZktMvxgq5MK5gq>Sth5$MK5gq>SdN5$MK5gq>SfD5$MK~!$B71JPZktMvxMK~!$B96>Sth~!$B;
  7dN~!$B=7fD1mlZkcrvxgq5MK5gq>Sth5$MK5gq>SdN5$MK5gq>SfD5$MK1JPZkcrvxgq5MK5gq>Sth5$MK5gq>SdN5$MK5g
  q>SfD5$MK1mlZk>3vxth5dN3PFvxth5dN3PXvxth5dN3V?vxth5dN3csvxth5dN3tMvxth5dN3crvxth5dN~!$Bc3>3vxgq>
  Sx)5$MK5$gq>Sth5&MK5$gq>SdN5&MK5$gq>SfD5&MK1JPZk>3vxgq>Sgk5$MK5$gq>Sth5&MK5$gq>SdN5&MK5$gq>SfD5&
  MK1mlZkPXvxgq>Sx)5$MK5$gq>Sth5&MK5$gq>SdN5&MK5$gq>SfD5&MK1JPZkPXvxgq>Sgk5$MK5$gq>Sth5&MK5$gq>SdN
  5&MK5$gq>SfD5&MK1mlZkcrvxgq>Sx)5$MK5$gq>Sth5&MK5$gq>SdN5&MK5$gq>SfD5&MK1JPZkcrvxgq>Sgk5$MK5$gq>S
  th5&MK5$gq>SdN5&MK5$gq>SfD5&MK1mlZk>3vxv85]!5th>Sx)5!5!dN>S~!$CH5fD6>Sx)1JPZk>3vxv85]!5th5dN5gk1
  XR1gk1gq1fD1!N4>S1mlZkPXvxth>Sx)5!5!dN>S~!$CX5fD6>Sx)1JPZkPFvxth5dN3PXvxth5dN5gk1gq>Sth3dN3fD1ml
  ZkV?vxv85]!5N4>Sth7dN~!$Cn5fD5!N4>S1JPZkV?vxv85]!5th5dN~!$Cw1MK>Sth3dN3fD1mlZktMvxv85]!5N4>Sth7d
  N3jCvxgq5MK3tMvxfD5!N4>S1JPZktMvxv85]!5th5dN3jCvxMK1N4>Sth3dN1th~!$D61mlZkcrvxth>Sx)5!5!dN>S~!$D
  :5fD6>Sx)1JPZkcsvxth5dN3crvxth5dN5gk1dN1MK~!$DE0P1hA0!P*0P1n40!P*0!zq20!z5(0!zj,0!QH0!gw0!qm0!T$
  0!xLvp2zRb2V|0ZX]>0!jb0UR0!zR_0QHMI0!P10!P*0U7EE0Nwtw[%1![M0ZTm?hM]>0%jZ0$m?[N1$Tm0$ZTNw0%jZ0$Nw
  [N1$Tm0M30!Nw0I;0!s+0cwNrZN0$sz0U7P(0UTg50[%l00!dr0ZXz2.0!jb0gCNKz4x0ZXzVN0!jb0_Dbdn40fA^;m41!qC
  q|0g]0!Nw0!s10!j=1!Nw1!s10J]0m?ZV>]hM]>1%j]0!z_20!NwPl0V90dI0tA0K>r30J]V4g50Ac0URI;0R0mc0ZTnDHRv
  xhJ0&jZ0NwhH]>0!hHPl0!PlhH0rIm4PW0j=frm40G^ZZI;1!jc0[MA_0j=l+0K~tI0szAb<ztx0L5^Am40zmPMI0V=tA0Qk
  gw]>0r$Nrgw0hCg]0R*Nrgw0$QW0$sz0R*Nr]>0NvLX0s,0twR*Nt0]f]Fn40w,V|0RB?J0z>WrE1l01g.~!$Eb0ZXz>p0!j
  b0!QRp(0!gCNK0V0zmhzmD0$.N0V0?[R$zgF0%.N0_IN>zgE0$zR[0pFxL1ZGmlZkUV~!$Es1R*1QW1mO1l61Om1bI1g.m41
  ^A1PHm41ZTdx1!jZ1ZGmlZk_10p3xL1cw1sz1r$1R*1QW1mO1l61Om1bI1g.m41^A1PHm41ZTdx1!jZ~!$F:0ZGp3mlZk),4
  OK4cS4w94kk4Sx4W++%4dQ4k?+!~!$FK0z2~m40!L10!z&c0!R4z500![00!zMD0!zO:0!zXI0!k<0!w&0!_pzgV0!Nn0!Pc
  0!X00!zsW0!O&0!z6IzX70!fK0!z820!B50!z;f0!z!;0!zFwzr>0!zk00!zpH0!z>9k<0!zsj[00!zRh]>0!zK*0!zc!0!z
  E^0!GT0!n&~!$G+0L2ZTTB.=1$jZ1[Etw[%dH1%ls1?%A7.=1$K|1$ZT1$jZ1jfdH1$K|1$?%1r$Nt.=1$R*1P3Kh2nD2N52
  KhDh1ZTjZA7.=1P3km2Wm2tOg8s)1j<n%dH1!Nwtwp%1>vp]1s1zv31vmHp.=1ZZA7dH1![ENwn%1jcTBvxEGO%1&ZZ1ZTA7
  F[1$jZ1A_.=~!$Gb0.Hc[0.WrWq^zlq0NzJPIq0Mnz!A0K6[%p]0J[c[0J+zv*0z2|L>0zdb0Mnz3]0knmlRH1JPSx0$Gb0$
  Nz0zZNL>2dCszfZ0knJPUV0$Gb0knJPX~1!ml0X~BVEEp]0NzJP_10zSkm40n,z_,LL0knJPdQ0$Nz+!0knJPhS0$Gb0$Nz0
  z[CznZ0j70zf6]>0qAm40!zrF]>0zwO0NzJPx;0d=m40!cb0$V=0GbJPx;0sdSVmlZkV?0zB$m40!>c0knJPBV0GbJPIq0z2
  kp]0knmlOK1!JP+!0$sd0knJP[g1mlcS0<kp]0!Fn0!S;0!M70V,n.0k&JPh*0z3Zm40NzmlfZ2RT1!JP2fZ1_2pA0sdkWJP
  RH3X~0%j=0sdkWJPwE0NzVLJPM*2!ml+!3UV+!0z[X[%0sd>G0fAm40<T0sdmlQ&0p]Q~kPn.0v:R0cwzf>3zQg3qH3qn2sz
  qp2cwQF2szz442!r$2!R*2cwmS2QWmT2cwOp2r$Oq2!QW2!l60R0c7cw0!jzc62sz2r$2R*2QW2mO2l62Om2bI2qC2P%2sm2
  QG2cwUI2!QW2cwq|0mljzc6cw3sz3r$3R*3QW3mO3l63Om3bI3qC3P%3sm3QG3cwUI3!QW3cwq|0jzc6cwq|IqM*2QWq|2!q
  C2j=cwUI0ZGmlZkj=Iq0jzc6mOzEcR$2!QGz1X3q|2!cwUI0v:R0xLqp0sdN>sz2r$~!$IT0ZZA70!tP0!jc0!O%0!ZTjZ0!
  tIO!0!bkv_1!OR0$n01!v_0ZZA7vxp%0%jc0ZZvMA70$jc0!ZZszz9H0%tP0%jc0%O%0ZZA7vxpt0%jc0ZZA7R7EE0%tP0%j
  c0%O%0tIO!A7vxEQ0ZZA7vxU30%jc0ZZA7vx[H0%jc0ZTjZvMA72A7vxp%0O%xXA70tPA7vxrGZZ4jc0O%A7vxrGZZ4jc0jc
  A7vxLMO%0O%A7vxLMZZ0?%rkl)A70%K|0bkv_A7rW[EEE0!ZZA7rWEEdCjcA7rW0?%d(KhA70%K|0ZZTBvxEGtP4O%0tPTBv
  xEGjc4ZZ0jcTBvxEGtP4O%0O%TBvxEGjc4ZZ0jcA7dCZZA70!tPA7ZZc[O%0!ZZA7dCjc1d[A<0$tP0$jc0$O%0ZZTBdCjcT
  B0!jcTBdCZZ0ZZNwA7vxp%0&ZTjZ0&jc0ZZNwA70$tP0$jc0$O%0$ZTjZ0$tIO!0$bkv_1$OR0%n01$v_0!ZZs10$jc0!ZZn
  I0$jc0tPA7vxNwp%0&O%0ZZMJA70$tP0$jc0$O%0ZZA7rWEE0%jc0ZZvjA70$tP0$jc0$O%0tPvjA7R7EE3ctf35vxU7EE6!
  tw2NwA74ctf30jcvjA7R7vE0bkv_A7rWLM0%n0OR0tIO!vjA70jZA7vxmlKh0O%A7ZZc[tPA70r$jcA<0ZZA7vxtwp%0&jc0
  &ZTjZ0$ZZA7vxNw0(jc0(ZTjZ0ZZzV&A70$jc0$ZTjZ0Q~>!0z%k0f!N:0zpjz311Ngbnz300P0l40z>70_80P!c[0$bn>K0
  $ml0LDAF]s0$NgbnLB0$mlLD0P5c[z[V0_2gd1LJ1pA0^Am40!zML0Nrg.0NVmc0l4^A0A_d*0!jf0!I;0nDk$0!Lh0!R,0z
  [ZrW0V+0jZ>]0!0!]]0!n;0z*m0NgbnNR0dvrW0$bn0[B>S1d10V:0tC0V70!Nw0!s10!LE0!pL0!zx:0!K|1!LE0$?%0zpk
  0FE0z^r0gj0Nr^A0z3)0z6Ggj0U00rAd*0j=rA0V=ZKk?0zhmvM0zzxgd0bnrA0!^A0AjPGrW0%bn0$?N1$ITbn.O0%_b?Nb
  h0$>.0%bn0$>.PGd10s1rA0>!PGrW0!PK0$Rt0z*EFr0?Lq^zF^0RtPGrW0?NPGrWd1q^U|c[0U|c[d1?NPGrW0L1PH0PHL1
  0jfV$PGrW1$0!z&F0z2l0z2SrW0ncPH0MtPGrW0PGrWIcz)P0]]Ic0z]zPGrW0$bn0!U_0$bn0!zlSPK0!Zhd1PG0%SU0$Zh
  dC0%SU0$ZhITbn0&SU0^nZh1SU0Fr0bnPKrW1Zh1SU0_bZhbhPGrW1%SU0!Zhd1PK0%SU0$_bZhbh1%SU0Zhd1SU0SUd1Zh0
  _bZhbhSU1SUbhZh0gU0p80gUd1PGrW0%p80!gUd1PK0%p80NgbngT2p70p4c[0!pG0!bn),p42!pG0p4c[d1PGrW0&pG0$_b
  ),p4c[bh2&pG0$p4c[vxbn0(pG0zNN1^s1tC0nDU|c[1!d51U|c[d1PGrW1&d51JO1Ln0Kjg.1^A1rE1NVmc1Nrd*1!jf1!A
  _1PH1MI0nEg.1^A1rE1Nrd*0jZpn0!ZT0!O!0!tI0A[0zM^0s90z4r0s1twEEjZsf0$NwtwEENw0Ngbnz[_0bns90Ngbnz4q
  0_^NwtwEENwjZsf0gUt>j,0$p80bjp,c[0LDAFbjp,0bjp,c[d1PGrW0%LDAFbjp,0d5c[0!U|0^q0z9_z&&zKT0z>L0z|R0
  zO>0bh0jZ>]vx?k1s)0_2[B>S2d11V:1tC0N5d*0!Nr0!nc0NVrE0HI0ZTbjQ,l,gd0&jZ0$ZT0$jZ0j=rAPH0Ls[Bd12>S0
  Nwp41pG1V:1tC0g!0PG>SdvrW0ZhvxNr0$SU0tz^nZh2SU0!ZhPGrWd10SUPGrWd1Zh0&3SU3gU3p80NgbngTd1PG2$p70bn
  nDU|c[d1PGrW2&d50$nDU|c[d1bn1(d50!ZhITbnPK0&SU0&gU0&p80bnbjp,c[0NgbnLBAFbjp,0bnbjp,c[d1PGrW0Ngbn
  LBAFbjp,d1PG0twP(0!^1U70!tIjZN20%O!0P!c[vx[EU7p%3$twEEAmP5c[0(mlP!c[vxtwEE0P!c[vxNr.=3dD0&ml0P!c
  [vxt?3szU7p&0LDvx[EU7p%2$twEEAmP5c[0(mlLDvxtwEE0LDvxdD0%ml0x;bpDszL.0z*;m40O~A70U?0tIA90!O!0z[T0
  zXF0vP[%0ZTK30!jZ0ZTQf0!jZ0H?jZz&Z1!ZT0!rkjZ1!ZT0j=bnm40nD[R0?k0kx0zdm0qAz_+0gDV*0zwqnD0g&c[z>Mm
  40!sdbn0vJ0U>0rkZTLM1!jZ0!H?ZT1!jZ0rkT(V70$H?0R:0mp0tIA9FrszU7EP0zV1Wk0PNrWq^jZ0w9V$),h~HJ0Wl0ZV
  >]HR0$j]0PNrWq^ZT0Fgjf0z(.0>!A00zmj0rszc30z*MzV60z&$znn0zjH0z&J0z&K0?=RCp]z<U3zkKhA3hAPG4NR4N54W
  %4Kh3Khnp4W%3mcEE3!Dh3hAmc4Dh4Zh4SU3ZZtf3!jc3hAZZA74!jc3KhDh3O!pnt?3Mtnp3hAO!J]4Mt3O!pnW%3tPtf3h
  AtPA73tIpndD3Mqnp3hAtIJ]4Mq3tIpnW%3O%tf3hAO%A73hNt?3!Mt3!N53!W%3!Kh3tIlkW%3hNhA3Khnc3hAL13tIpnN1
  3!Mq3!nc3!W%3!Kh3O!lknp3$ZT3rAN13!SU3L3EE3MqrA3|$c3nprA3l+t?3hAbnPG4hH3O!J]rA3$tI3V?3jC3cr3>3t?3
  !PF3!V?3!cr3>30bnKF]>0jZ>]vxO%xXA70zh*d(HJ0FXp]0tw[%vx^.Nr0V4p]0!z&1zv40$z*Z0!P.0!L80vjnDvxK6tw[
  %0P<p]0!>9Wk0!z9W0KjU7EEvxbq1s)O!0HxKhvxzRkA70zv5p]0!zMr0!z<I0!zV%z8Z1!zD[0!zWb0!zWc0NILvp]R$sz0
  zjbp]0?=RCp]hA0Mhl0Wkp]0z[HdW0!_s0g^kmp]0$z%$0ZTdxtLU32Pp2[PU30!jZdxtL2Pp2[PU30ZTnDHRtLLM3Pp3[PL
  M0!jZnDHRtL3Pp3[PLM0ZTLsHRtLU33^.f_3[PU30LsHRPp0jZLsHRtLU33^.f_3[PU30V7Pp0!U7[%0tLZTd1[PjZLsHRkt
  1%jZd1[PZT0pArk1H?0rknDHR0$H?3dCrknDHR0h^p]H?0ZTtwHJ[%0%jZ0U7zdOzFf2zFg2zFh2zFj0z)bp]Z~tw>SrkjZ5
  !H?4vxKh3$O!>SU73&tI3twvxs)3$O!>SU73&tI3tw>SvM3!O!>SU7vx3&tI3O!>SU73$tI3tw>SrkZT5!H?0nDQz0j:p]0!
  z1r0tw[%Pp0zLFHh1[EdCls1lsdC[E1[EdCszlt1szltdC[E3Vz1s21qQ1f<0OQS^0z5D0rkdx0!H?0rkLsHR0$H?0!rkrql
  R0%H?0vjzrO0FgjfvxKh0zlJ0z4S0.ALv0z1|V:0Mhz33p]0G^j]Nws)1$ZV1$tJ1$O$1j]Nws)vxtwEE1(ZV1$j]s)vxNw0
  <^Kz0zlF0zqRKz0U>vxz4]zd20G^]fZVs)2!j]2!tJ2!O$0NwtwEE0G^nDQ~ns1KhQ~h|0gNp]1!zUl1!ct1!zjA0!zUKPt0
  p]Q~c42ndc[TI4qU2$P54r~2P92.L2FX2Dj2U7pm2[%Q:2twpm2R$Q:2Jgj:2l]d>3V$2MM[*PS2N(LFcw4sz4r$4R*2__.L
  2pcUm2P5c[r~Gk2JB2P5c[]f2p52PS2QIl02!S_2!h|2!tD2n42Mr0Ggp]0d(HJ0p]Q~_q2MrR$sz2$p5~!$RO0zUQU31K<1
  R!1!V=1F]I01HEr31HZEAUb1>Fc[KF1MI1z&z.Hc51NwDh~!$Rw0KjN>cw2sz2r$2R*2QW2mO2l62Om2bI1c5qC2P%2sm2qq
  2R+2QE2mP2l72On2bJ2sq0dzN>cw2sz2r$2R*2QW2mO2l62Om2bI1c5qC2P%2sm2qq2R+2QE2mP2l72On2bJ2sq0N>cwR?ns
  1$sz1$r$1$R*1$QW1$mO1$l61$Om1$bI0$c5qC1$P%1$sm1$qq1$R+1$QE1$mP1$l71$On1$bJ1$sq0dzZGmlZk),+>0KjZG
  JPZk),+>2mlZk),+>1N>xL0__Kjc5P%3sm3qq3R+3QE3mP3l73On3bJ3sq0NwKjN>cw3sz3r$3R*3QW3mO3l63Om3bI2c5qC
  0__KjN>xL0HJO+Z~U72!TP2Z~tw2!TP2Z~s1MIU72%TP2Z~s1MItw2%TP2Z~hCMIU72%TP2Z~hCMItw2%TP2Z~O!>SjZ2O!Z
  ~>SjZTP3TP>SjZZ~2TPO!>SjZ2Z~O!>SZT2O!Z~>SZTTP3TP>SZTZ~2TPO!>SZT2Z~tI>SjZ2tIZ~>SjZTP3TP>SjZZ~2TPt
  I>SjZ2Z~tI>SZT2tIZ~>SZTTP3TP>SZTZ~2TPtI>SZT2Z~tw>SjZ2twZ~>SjZTP2tITP>SjZO!Z~2!O!TP>SjZtI2!twTP>S
  jZ2O!Z~>SjZtITP2!tIZ~>SjZO!2TPtw>SjZ2Z~tw>SZT2twZ~>SZTTP2tITP>SZTO!Z~2!O!TP>SZTtI2!twTP>SZT2O!Z~
  >SZTtITP2!tIZ~>SZTO!2TPtw>SZT2Z~O!>SU72ZTTP>SjZO!Z~2$jZTP>SZT2O!Z~>SU7TP3TP>SU7Z~2jZZ~>SZTO!TP2$
  ZTZ~>SjZ2TPO!>SU72$Z~tI2ZTTP>SjZtIZ~2$jZTP>SZT2tIZ~>SU7TP3TP>SU7Z~2jZZ~>SZTtITP2$ZTZ~>SjZ2TPtI>S
  U72$Z~tw2ZTTP>SjZtwZ~2$jZTP>SZT2twZ~>SU7TP2tITP>SO!U7Z~2$O!TP>StI2$twTP>S2!ZTtITP>SjZO!2$jZtITP>
  SZT2!ZTO!TP>SjZtI2$jZO!TP>SZT2O!Z~>StIU7TP2$tIZ~>SO!2!jZZ~>SZTtw2$ZTZ~>SjZ2TPtw>SU72!Z~NwMI2%TP2
  Z~NwMItw2%TP2NwU73tw2O!m?>SjZNw3Nw>SjZm?2NwO!>SjZ2O!m?>SZTNw3Nw>SZTm?2NwO!>SZT2tIm?>SjZNw3Nw>SjZ
  m?2NwtI>SjZ2tIm?>SZTNw3Nw>SZTm?2NwtI>SZT2twm?>SjZNw3Nw>SjZm?2Nwtw>SjZ2twm?>SZTNw3Nw>SZTm?2Nwtw>S
  ZT2O!m?>SU7Nw3Nw>SU7m?2NwO!>SU72tIm?>SU7Nw3Nw>SU7m?2NwtI>SU72twm?>SU7Nw3Nw>SU7m?2Nwtw>SU72Z~?kO!
  >SjZ6ZT4$tI6jZ3N2tLjZrW[PZT5ZTrW[PjZ4LX3ZT3tI3jZ3O!2TPZT3tI3jZ3O!2Z~ZT>STPjZ3tI>STPO!2TPZT>SZ~jZ
  3tI>SZ~O!0tLT(Gk0![PcwOp2!hD1!r$Oq1!T(1!QWOq1!r$hE1!l6Oq0!R?0!ZTl6Oq1!r$hE1!QWOq1!T(1!r$Oq1!cwhD
  2!Op0!jZT(0Z~lC0!]f0!MG0tLcwOpGk0%jZ0hB[PZT2jZ1tLZT3>S[PZT>S[PjZ5!4tLjZ>S[PZT8jZ2!3>S[PZT6>S[PjZ
  0G^nD0!vj2vxk.LN2LCG^mlnD0nDvxU7QJ2!tw2!zV;L^2!tLZTrW[PjZ3!jZrW[PZT2!N2L^0G^mlnD0$vj0G^h~0!vj0!G
  ^tw0$vj0G^zWN0!vj0G^tJs)0$vj0!G^tJml0%vj0!G^j]0$vj0!G^j]ml0%vj0G^j]g70$vj0G^O$s)0$vj0!G^O$ml0%vj
  0!G^ZV0$vj0!G^ZVml0%vj0G^ZVg70$vj0G^N50!vj2LCG^mlN50z4D0[R0vjKh0!Nv0KhvxtwQJ0I>0G^Kh0KhvxZTT(G^2
  $jZ2$[P2$tL3!jZhB2$>!ITtLZT0ZTT(G^Kh0%jZ0V<I;1vjKh0%tLT(0&[P0tLZThBKm?k1%jZ0&[P1%ZT0tLT(Kh0$[P0G
  ^[PjZs)2!ZT1$tL2!jZ0vjI;0nDvxZTT(G^2$jZ2$tLZTN22%[PjZ0vjnDvxtwGN[%1tJs)vxNr0tJs)vxZTT(G^3$jZ0ZAK
  h0vjnDvxtLZThB3$[P4!jZ3$tL1!KhvxtLZT3$[P4!jZ3$tL0tLZTs)1!jZ0![PZT0vj]fnD0$G^0!vj]fml0%G^0[PjZs)0
  G^pBvxhs0L(0t;0mv0z%d0G^nc0!vj0[!0zq60pB0ALzRX0!N$0z&(0d,0G^qA0!vj0E3HJ2vxKF3w90kN0t;vxhfz0h0U<F
  s0vjlmf_0$G^0zgA0j=k&QhTLI;0G^ZTg8V(1$jZ0$vjZT1$tI1$jZ1$O!0m_>SLZ0J~m40!z^W0!GG0J,0>q0zV:LX0KOjC
  0LXc[zGC2z?90nc>SLT0Q2p]0.[zg=0T+>SzhV0f0p]0wswO0zrbQ~TO2Z32QQ2r+2vr2vK2^_2OQ0vgc[z*)0vjR;Q*1!mq
  0$G^0vjpBvxhs0QRhD^W0$ZE0]v0Q<m40OQ0]3m40zA$0zdA0tS0_j0g10?|0zn|0z6?0JD0zF20zx!0zFJ0zdZ0zcl0JT0?
  T0zZF0vjKMX,2hG2k!2GO2XB2f+0G^KMX,2hG2k!2GO2XB2f+1n6p<0!vjTL1!N50!G^L)0!vjn60!G^TL1!N50!vjL)0U<z
  kC0hDbs0!Op0F<Opbv1!mQ0^zQ[m41!_J1!lI0v_pdLX0$OR0tEj$p]0j$p]Q~zt9zZQ3!zt;3!t$3!zt<3!zt=3!zt>3!zt
  ?3z6BzKS0G^tEj$p]0!z_1dn0$zWU0zXBdnm40vhp]0N8z3W+(0vjKhvxNrjZ3szNt0G^KhvxvjNrjZ3szvjNt0^QQ~wO2ws
  0N?Q~STwO2zF7ws3wO2STws0vjQZ0!G^0T+>Sf]0>Q0L[zmO0n^c[.~0zdN0<l0Qk0Rp0n^c[z9^0Azp]0z4T0d?vjnc0r$[
  (z&6jZ3ZT0zz3m40!Tlzx90!N|Q<1!]30$z>QQ<>S0!]3>SQ<1!vxp%3!>S]3>SQ<0!tw]3vxp%0&U70]fvjKh1!G^1!mlvj
  0zKDp]0!z*p0!zv=f$0z%W0z5?zvK0zPN0z!N0zVz0z?w0zwZ0z$70G^^WzFV0zg10zf$0z^$0zf80zj[E.0ER0nEWk0vjO*
  ]52X,0G^O*]52X,0mvv|mt0pBFSL(0hf0G^mv0r+L(>Shf0sdvjlmf_1$G^0vjN5V$nD0L_Z=0z*XJW0zV,0f]0JWzjF0TUv
  xvjLX0KjL_Z=0z!T0bcP>0>6zUrZTvUrz0%G^zt.0&vj0G^ZTzEVzL60%vj0O0mkm40TPvjO$s)0ZTL!P>0nEkN0Q.N2V$vj
  KhV$G^nD0G^s80z_RZTz2C+!0Ahp]Q~tS0TPKhvxp%>SszNt.=0zX:0!zb%z>O0$zF!0!V=0G^LXctl[0zggzh20K_0Jr0z:
  9zj*0Rpv|z;p1vxz9&0]9p]Q~zFS0^_0t;ctS^0R)0QZV$U,0z4*0zcp0nDR*LN0zj70U]mZ0fHvxE.0qG0VZEAp]0!TJz8%
  0z5;z[v0LnctG^nD0vjQZvxU7^.G^zlW0G^kFkl0!tLGf0!G^0![PGf0!vj1TPKF]>0qA[=m40q*O00<J0P?0hgQU1T00!v!
  0!w40[PjZf:0!0!tLjZ0vjzQO0!G^0KF]>0$TP0^sw90$TP0!E30$TP0d?SVLX0$TP0!d(K60%TP0!ZG0$lDvj0$d?0!zK&0
  ncc[z(p0R*q8A_1!E20%TP0!R*z%40G^R*g6nc0%vj0zk%0n~d?vjnc0$Kj0!d(K6G^0!G^K6vj0!d?G^0%TP0!fv0!lDvj0
  TPA_0!d(K60!OmnA1g6G^nc2!fv0!mOg6G^0$Omg6z_00(TP0$smg60mPg6A_0!q80$d(K60$TP0mOfLG^>Svjz4Z0!G^0!v
  j0!OmfLd?G^0Kjd(K6Omg6nc0TPq8fvA_0zjW0!r5zr]0!TPKN0zk!0!TP0E2A_0!Omq8z[W0&TP0LX]>0lDvjKh0__nELX]
  >0[PjZz0gvjnD0&tL0$[PjZlD0&tL0G^hH]>d70%vj1$Pl0G^N5^Avjw90TPPl]>p]0Z~twEE0$]f0$TP1m?sdL3hM]>d72&
  1&Nwsd2&1&[Mm?2&Nw0!Lxnjdrm40!TPPl]>1%TL1G^TL0k&TPG^TLI;0QhTL0k&QhTLI;0]fZTdxd71$jZ1$Q^ZT2$jZ1!Z
  V>]HR1%j]0!TPZV>]hM]>1&j]1!ZV>]HR1%j]0$Z~ZTrqlR1&jZ0$]fZTLs1%jZ0NG__KjN>cw4sz4r$4R*4QW4mO4l64Om4
  bI3c5qC1KjkWN>cw4sz4r$4R*4QW4mO4l64Om4bI3c5qC1__KjkWN>cw5sz5r$5R*5QW5mO5l65Om5bI4c5qC0TPvnjcA71g
  .m41!^A1!NV1n0ORA71!jc1!bkOR0!z0^g5jc0$TPzbV0$s*0%TP0%MJ0&TP0$G^0r%rljcA91$HA0$G^0TPG^LxO%>SjcA7
  3%tP0$nGG^0%TPz%v0$j^vj0%ZW0%DdlD0&R90%TP[Pj_1&tL0&br[P0Ls[H0brtLj_vjjcA70%KjTP0$zzN0!G_n0OR1!jc
  1!bkOR0$TPG_n02!jc2!bkOR0!zp5jc0$TPzp60$zzB0%TP0$zV)0NwLs[H0r$z*N>]0vjs)LCmlvjs)0fF0d(p41pG0ZTzc
  PDsMs0%jZ0d1vxNrV50j<n%gVp40pGgVn%0twEEvxU7p%0]FjjN20[ENV0]FQ.N20nE[B>S2d10vjN5vxK7Nr0!>Svx0P!c[
  d)tP0[PjZLMvxNr0%tLZT0ZTzVKVx0$jZ0$R?0ZAtIpn1!O!0ZT>SjZNwsf3pn1^q0[EjZpn1!ZT0tIpnvxKh.=0[RNSIcU7
  zc*0vjz%wN53vxZZr24!jc1!nDvxZZ3!jc0]FZTvjnDHR1%jZ1!ZT>]1$jZ1$ZTNw1%jZ1!ZTvjrqlR1&jZ1ZTQ^dx1$jZ0t
  PhCA70$O%0!?%z5zKh0%K|0jZA7vxKjg.0[EZZA71!jc1!ZTjZ1!ZZNw1$jc1$ZTjZ1ZZA7R7EE1%jc1%ZZNw1&jc2nIA70H
  Vf)Gg2z+9+!2z+:2z.c2z,+2z,t2z+;2z012z,N2z.?2z+^2z.d2z,,2z,v2z+<2z0B2z,b2z.P2z+s2z.x2z,>2z.02z+M2
  z022z,O2z.A2z+_2z.f2z,.2z,w2z+=2z0J2z,l2z.X2z,!2z0(2z,G2z.82z+U2z0:2z,W2z.I2z+k2z.p2z,72z.&2z+F2
  z0C2z,c2z.Q2z+t2z.z2z,?2z.12z+N2z032z,P2z.B2z+b2z.g2z,02z,x2z+>2z0N2z,q2z.^2z,(2z0,2z,K2z.<2z+Z2
  z0>2z,]2z.M2z+p2z.t2z,;2z.+2z+J2z0G2z,h2z.U2z+z2z0$2z,D2z.52z+R2z072z,T2z.F2z+g2z.l2z,42z.!2z+C2
  z0K2z,m2z.Z2z,$2z0)2z,H2z.92z+V2z0;2z,X2z.J2z+l2z.q2z,82z.(2z+G2z0D2z,d2z.R2z+v2z.|2z,A2z.22z+O2
  z042z,Q2z.C2z+c2z.h2z,12z,z2z+?2z0P2z,s2z.b2z,*2z002z,M2z.>2z+]2z0A2z,_2z.O2z+r2z.w2z,=2z..2z+L2
  z0I2z,k2z.W2z+~2z0&2z,F2z.72z+T2z092z,V2z.H2z+j2z.n2z,62z.%2z+E2z0M2z,p2z.]2z,&2z0+2z,J2z.;2z+X2
  z0=2z,[2z.L2z+n2z.s2z,:2z.*2z+I2z0F2z,g2z.T2z+x2z0!2z,C2z.42z+Q2z062z,S2z.E2z+f2z.k2z,32z,~2z+B2
  z0O2z,r2z._2z,)2z0.2z,L2z.=2z+[2z0?2z,^2z.N2z+q2z.v2z,<2z.,2z+K2z0H2z,j2z.V2z+|2z0%2z,E2z.62z+S2
  z082z,U2z.G2z+h2z.m2z,52z.$2z+D2z0L2z,n2z.[2z,%2z0*2z,I2z.:2z+W2z0<2z,Z2z.K2z+m2z.r2z,92z.)2z+H2
  z0E2z,f2z.S2z+w2z.~2z,B2z.32z+P2z052z,R2z.D2z+d2z.j2z,22z,|2z+A0jcs~A7vxtwp%4$Nw0$ZZNwA7vx0(jc0(
  ZTjZ0jcs~A7R7EE0%ZZNw0&jc0O%A7vxU7p%0&tP1s1A70$O%0!ZZNwMI0%jc0$ZZs10%jc1%s~1A7vxNvnj0tPA7rWEE0%O
  %0jcA7vxptvxtwp%5$Nw1s~A7vxpt5vxtwp%6$Nw0ZZA80!jc0!ZZNw0$jc0ZZA7rWG^N50&jc0%ZZA7R7EE0(jcA70bkv_>
  Sn0ORA71!OR>Sn0v_1v_A7vxU31%OR0&n01%v_0bkv_A7>SbkORA71$ORA7>Sn00!n0ORA7>Sn0v_1$v_A7>Sbk0jjN2L_Q.
  N20!Q.N2L_jj0n0ORA7L_bkORA70$bkORA7L_n00$Q.N2L_bk0$jjN2L_n00!bkORA7L_bkv_1!v_A7L_bkOR0vMA7g8NLjZ
  0A7g8jcqdLztP5O%2O%qdLzZZ5jc0zb(?kK|A70!zF%?k?%0%rk0%H?0rk?kK|A7vx^A2?%A7vxg.0[PjZl*K|A71!ZTl*?%
  0!?%L!Kh0%K|0!jcA7.=lsZZ0!ZZA7.=lsjc0!lsjcA7.=ZZ0jcA7vxg.F[0&ZZ0jcA7r&w90ZTjZA7r&mlKh0$tPs~A7R70
  ZTEGtIjZEGO!TB2!O!jZEGtI0!tIEGjZO!EGZT2!ZTO!EGjZ0!ZTEGtIjZEGtI0!tIEGjZO!EGjZ0!ZTEGO!jZEGO!0!tIEG
  ZTO!EGZT0ZZTBvxEGtIrWEE0(jcTB0$tPTBvxEGjZ0(O%TB0$ZZTBvxEGO!0(jcTB0$tPTBvxEGZT0(O%TB0!ZZTBvxEGtIR
  70(jcTB0$tPTBvxEGjZ0(O%TB0$ZZTBvxEGO!0(jcTB0$tPTBvxEGZT0(O%TB0ZZTBvxEGtI.=ZZTBvxEGO!0tPTBvxEGZTF
  mtPTBvxEGjZ0jcTBvxEGtI.=jcTBvxEGO!0O%TBvxEGZTFmO%TBvxEGjZ0ZZTBvxEGtI.=jcTBvxEGtI4O!.=jcTBvxEGO!0
  jcTBvxEGtI.=ZZTBvxEGtI4O!.=ZZTBvxEGO!0ZZTBvxEGtI.=[EMI4$O!F[0$jcTBvxEGtI.=4$O!F[0tPTBvxEGZTFmO%T
  BvxEGjZ0&O%TBvxEGZTFmtP0jZNwA7vxk.TH0PHm4.=jcA70%rAd*0ZZA7.=rAd*0&jc3>.PGrW0Zh.=ZZA70ZZA7r&Zh0SU
  .=jcA70%p40ZZA7r&p40pG.=ZZA70ZTQSpt0$jZ0$tI0$O!0s1twEEMs0x;bpzk>2t!L10ZTvjLsHR0%jZ0ZTvjdx0$jZ0x;
  bpZTU|HR2$jZ2!ZTGC2$jZ0ZTnDHRvxt?0&jZ0ZTnDHRvxr2V$rkLM0!jZnDHRvxr2V$H?0(ZTnDHR0!jZnDHRvxr2V$rk0Z
  T>]HRvxNr0&jZ0ZT?kZhHR0!jZ?kSU0%NwZT1!jZ?kZh0!ZTG^rqlR0&jZ0NvQ>0twxX[%0]]>]d)ZT0jZ>]tjvxnD0]]jZ>
  ]vxNr0>]vxk?V50.P>]0n;>]d)ZT3tI0sd>]0!j=0>]vxt?0%j=0cV>]d)tI3O!0]]>]vxd(A(z2:V$A7g8tI>SjZ;ZT9O!>
  SjZ;ZT9jZ>StI9$ZT9jZ>SO!9$ZT0j=P0l40P0l4vxdD3mlKh.=3!jZA73$ZT0KhvxU7EE0!Kjtw1dv1j<n%1fF0KhNSIcU7
  EE>SrkT(NSIctwEE1vxzm3w90Kj?&NVm40tIA7r&Kh0KjvjI;1!1Zh1SU0KhvxmlKhrWq^jZ2%szU7p&0nEjjN2mc1$Q.1A_
  1mlKh1nD0szVznF0s)vxNr.=2t?0k?V$s)0s)vxl3AmH?0jZs).=ZTs)0ZTs)FmtwEE0twEEFmjZs)0HIvxZTT(G^2$jZ0G^
  HI0rEvxZTT(G^2$jZ0vjU>0!G^0ZTvqQ>0$jZ0$ZTNw0%jZ0z>5V+0!r3dC0V+_^vxtwEE0z0T^q0nDvxz&2zVL0z>6AF0zh
  :gd0PHm4>Smbdv5vxrA.=0U_rW>Smbdv0z7Nzl10zpl0O$s)vxZTT(G^3$jZ0G^N5vxO!A71[R0vjKhvxO!A70&G^0z2Wvjn
  D1!G^1vjN51!G^1vjKh1!G^0zc+0j<n%d*0n%vxdD0j<n%vxU7p%0G:n%1!j<0Nwg.0!s10ZVLx>]HR0%j]0rF0zMM0_2KjN
  rd*2!g.2!rE1tCd*vxNr4g.1nDV:d*2!tC0!sz[B>S2!d10!_2rE0zMgszp?0pAvxV70hCV7d*0z4=d~V70V7vxNwp%1B>vx
  mc0z$mRB0?%V80[%V8vxj!f(A.g:3%l*2!bnz>3q^0V7A.),g5d*0!z]vV70V7vxZZA7vxU32rEm42V:2tC2dD2t?0Vx0ZAZ
  Ts)d*0x;bpzdRL83zZB3z[S0g.m4vxmlKh.=3!Kn.C3!rA3NrF[3!rA3p3sz3G^s)0^Am4vxL3.=3NrF[3Q.Nt3!jj0g.m4V
  $ZTT(Kh3$jZ0zwGd1LXgd0^sm4vxNr.=3t?0l,gdvxH?L!0mngd0^sm4V$ZTT(Kh3$jZ0Kj^sm4vxKn.C0^sm4V$NwKh0KjN
  Vm40g.m4V$s)0%^A0%^s0z>Ngd0$zb)0x;bpz_=L80>>d1LJ0V:vxNr0tCvx^Am42dD0$V:2[B>S0tCvx[Bd11.=V:0V:.=t
  C0tC.=EE.=V:0V:.=EE.=tC0!tCFm>SVzvx0V:Fm>SVzvxV:0L!tCvxl31$V:0NwnDV:2tC0L!tCvxl3>Smngd0[B>SvxNr.
  =1%d10Nw[B>S2d10szz>S[B>S3d10!zjIZA2>S0![Bd1dG[B1>Svx^.nj1%d11>SvxU7MI1%d11>SvxNwdD3t?3!Nw0!mltr
  vx0[Bd1vxNwdD4t?0x;bpz+3?02!hm0PHm4vxNrF[0U_vxNr.=0s1U7EEvxNwtwp%4$s10rAd*vxNr.=3jjNt0m<^Am<0z&!
  vxNr.=0PHvxA_0>.PGrWvxKn.C0?NPGd1PGrW0PHm4.=g.m40!g.m4.=PH0PHm4.=rAd*0NwL1PG0szz&)PHzhc0%r$0PHm4
  vxszNt.=>SszNtF[0PKvxR*Nt.=0ZhvxKhV50%SU0ZhvxhH]>.=0&SU0Zhd1mbPGrW0&SU0Zhd1mbPGrWvxNrV50(SUd1mb0
  Zhd1mbPGrWvxNr.=0(SUd1mb0Zhd1mbPGrWvxNr.=jZ0SUd1mbPGrWvxNr.=ZT0Zhd1?M0$SU0Zh>SmAbnPGrW0(SU0Zh>Sb
  n?M0%SU0Zh.=NxPG.=SU0SU.=NxPG.=Zh0Zh.=m<d1PG0&SU0Zh.=m<.=SU0SU.=m<.=Zh0Zh.=SU.=NxPG0%SU.=Zh0!Zh.
  =mbPG.=SU.=mb0%SU.=mbPG.=Zh0mbPGrWd1Zh4SU4ZhvxNrV54%SU0NxPGrWd1Zh4SU1mbPGrWd1Zh5SU0m<d1Zh2SU1.=Z
  h.=PHm42%SU0Nw_lZh2SU2Zhvxt?0SUdGZh1!Fm0ZhL!IcLw0%SU0ZhL!IcLw.=mbPG0(SUL!0mmq]0!ZB0mmq]d1PGrW0&Z
  B0PHm4vxIA.=0gU.=mAPHm40&p80gU.=mAbnPGrW0(p80gU.=PHm40%p80gU.=bnPGrW0&p80$gU.=>.0&p80%gU.=bn0(p8
  0NwgU1p80p4vxNr0$pG0p4vxg.m4F[0&pG0$p4vx^s0&pG0p4c[d1PGrWvxNr.=0(pGc[d10p4c[.=PHm40&pG0p4c[.=rAd
  *0&pG0p4c[.=>.PGrW0(pG0$p4c[.=bn0(pG0nDZTd(HJd*1%jZ0L!p41pG1p4d1PGrW1%pG0p4.=pG0pG.=p40$p40pG.=p
  G1Fmp42!>SVzIcMIvx0P!c[d)O%0g!vxq;rk0zrMV:0z4v0zRd0lsZTpn1!O!1!tI0fFvxk?0twEEs1jZsf0!NwtwEEZT0$t
  wEENw0(Nw0[EMIR7ZT]sc[Nwtw0lsO!pnvxdD1tIpnvxt?3.=lsO!pn0$Nw1!tI1p%bnm40&j=0NgbnNRvxj=zPDmc0tw[%v
  xKh.=4F[0%O!pn0dvvxU7p%2rAd*0s1twEEGAj,3vxU7p%1L1d*1_lZh2SU0NxmbZhd1PGrW2%SU0s1n%GAj,0ZAs1twEEd*
  0!Nwn%0vjtwEE0%_20bkORvjA71$v_0$n0OR1$v_0$ZTjZ0!ZZG^0$tP0$O%0$bkOR1$v_0$n0OR1$v_0$ZTjZ0$tIO!0jcA
  7vxrGO%4tP0ZZA7vxrGO%4tP0nDvxrkT(G^2$H?2$tLjZN22%[PZT0$N5vxZT2$jZ2$rk2$H?0NvnD0!G^ZA0$vj0!G^tzml
  0%vj0G^f;0!vj1z9f0!G^0$U70G^ZAKh1]fN50$vj0G^]f[R0$vj0G^mlN52[R0$vj0G^U7z2)0$vj0!G^tw0$vj0ZTA7vxm
  lKh0r$ZZA<0ZTA7vxKjg.0[EZZnIA70ZZs~A7vxtwp%4$Nw3R7EE2s1MIA71A7vxNvnj3ptvxtwp%5$Nw1s~A7vxpt5vxtwp
  %6$Nw1A7r&w90vMA7g8NLZT0PHm4.=ZZA70%j<rAd*0ZZA7.=j<>.PGrW0jcA7r&SU3pG0ZZhCA70$jc0!j<rAd*.=jc0jcA
  7.=j<>.PGrW0rAd*.=ZZA70ZZA7.=>.PGrW3j<rAd*0(jc0O%s*xXA70!lsmbbk1!Dgn00vj]fnc0!G^ml0$vj0G^j]f;0$v
  j0TPZAKh1dBvxdBV51!KhvxKh21KjkN0mbbkA7vxU4TH0Dgn0A7vxU4pt0!mbbkA7vxU70&Dgn00FdA7g8O%qdbkOR0(lsFd
  A70ZZs*A70$tP0$jc0$O%0$ZTjZ0$tIO!0$bkv_1$OR0%n01$v_0!ZZs*MJ0%tP0%jc0%O%0!K|s*d(Kh0&?%0ZZs*A7rWEE
  0&tP0&jc0&O%~!$qM0&bkv_1&OR0(n01&v_0ZZs*A7vxNwU7p%0(tPs*0(jcs*0(O%s*0U7pkWk0$tw0ZZs*A7dCjcs*A70$
  tPs*A7ZZc[O%0$jcs*A7dCZZ0$O%s*A7ZZc[tP0ZZs*d[A<0%tP0%jc0%O%0ZZG^KjvjA70&tP0&jc0&O%0!?%s*jZt&2$H?
  2$ZT2$rk0j:ZT1jZ0_qZT1jZ0R*LMA<Kl?%0jcG^A7~!$qv0p]Q~t!),z1~0r%rlZZPJA91$zb&tP1$rljc1$zF$O%0$G^ZZ
  1$tP1$jc1$O%0O%s*A7vx[ErGZZ6jc0tPs*A7vx[ErGZZ6jc0ZZs*A7vx[ErGtP0(jcs*0ZZs*A7vx[ErGO%0(jcs*0G^LxO
  %>SZZA74!jc2!tP>SZZ4!jc2!ZZ>StP2%jc2!ZZ>SO%2%jc0jEA7O!ZT3jZ2tIZT3jZ2ZTtI2!jZ2ZTO!2!jZ0tPvjA7R7EE
  vxU7EE0tIA9V$),h~HJ0dGvjnF2!>SG^1$0E3HJvxZ~w90!Kj1!H&0G^nDK71!N50sdG^f;0U7G^zUR0$1]ftJs)K72$O$2$
  ZV2$j]0_jR$sz0rkT(G^Kh0%H?0Z~R*g6G^z&w0(k&0!vjR*g60&k&0nDgDV*0zv1m40S_]>0g1R$sz2r$2R*2QW0zrL0z[[
  0Af0z<F0zXq0zPJ0vj^Wzd~0G^N5ctLX0s9Z~^WA?0z&n0z8g0|$50zCp0?C0.^0zxN0z[(0ZTT(G^nc0%jZ0ncvxZTT(G^2
  $jZ0ZZs~A7vxs)A;0(tP0(jc0(O%0z2VR$cw2sz0zdn0zc<Agp]zwv3zRp3z^(3GF3zf+3zrT0PHm4vxV+F[0zv:p]0!zf10
  !N|0!zW]0j=jZ>]0z9VzWqp]0SAJPZkBT3I83tp3S?3Nd3wk3xS3OE3xJ3VQ3!V23UV3N[3W:3[83_03_G3c~3g93jk3mj3s
  h3t83R53T]3d;3f.3l|3sE3KZ3l<3wf3wd3wS3n<Sz3x+3mlx55vxpt3wx3VAmlx53!G:3$VA3QV3VR3l~3s5),3ZH_03JzK
  Z1mlZkBT3I83tp3S?3Nd3wk3xS3OE3xJ3VQ3!V23UV3N[3W:3[83_03_G3c~3g93jk3mj3sh3t83R53T]3d;3f.3l|3sE3KZ
  3l<3wf3wd3wS3n<Sz3x+3mlx55vxpt3wx3VAmlx53!G:3$VA3QV3VR3l~3s5),3ZH_03JzKZ0ZGJPZkX~vxNwEE1(ml1JPZk
  X~vx^.rA3dQvxp%3hSvxpt1mlZk),vxp%3!pfvxN21JPZkSxvxN!1&ml1$JPZkW+1&ml1$JPZkx;1&ml1JPZk>33[gvxU33s
  d),4>31mlZkt_vxjZU31!JPZkv>vx1&ml3t_vxLq1JPZkT(Sx1%ml3znVfS3OKvxbq3sdhSvxpt3cSvx[MjfV51ZkmlJPsdO
  K1p3mlZkVS0^IZkJPt_0ZGJPZkk?vxpUpt3%x;0LKJPZk<r1$ml1JPZkzwh1$ml1JPZkRT1$ml1JPZkz(_1$ml1JPZkOl1$m
  l1JPZkzjq1$ml1JPZkxE1$ml1JPZkz981$ml1JPZkzpq1$ml1JPZkz<s1$ml1JPZkWA1$ml1JPZkzEk1$ml1JPZk^)1$ml1J
  PZkb;1$ml1JPZkXc1$ml1JPZkcS1$ml1JPZkfZ1$ml1JPZkjq1$ml1JPZkm:1$ml1JPZkq11$ml1JPZkt)1$ml1JPZkQC1$m
  l1JPZkW~1$ml1JPZkgn1$ml1JPZkd%1$ml1JPZkN3<k1%ml1JPZkclLK<F1&ml1JPZkLdOl1%ml1JPZkN3WA1%ml1JPZkN3b
  ;1%ml1!JPZkLd1%ml1JPZkclLKd%1&ml1JPZkkS1$ml1JPZkL[lQ1%ml1!JPZkclLK1&ml1JPZkclLKPT1&ml1JPZk<RWz1%
  ml1JPZkN3U61%ml1!JPZkclLK1&ml1JPZkclLKSz1&ml1!JPZkzDZ1%ml1JPZkclLKz9P1&ml1JPZkclLKTD1&ml1JPZkclL
  KRW1&ml1JPZkclLKz*t1&ml1JPZkclLKlb1&ml1!JPZkclc11&ml1JPZkclc1b01&ml1JPZkclc1cJ1&ml1JPZkclc1vL1&m
  l1p]W82^)jq2!fZ2zl92q1jq2!W~2lbm:1JPZkLdlQ1%ml1JPZkLdRW1%ml1L2b;.=2zk6AV3Zd1JPZkH%Wz1%ml~!$wO1cl
  c1R?ns3NIhH]>3$z>;3tvNT1R0cwT(1R?ns1zM~NT0RvmlZk>K3E93RU3Nm3P13v&3xK3q%3V$3W<3ZD3]53_C3ct3dp3xO3
  hb3kT3q+3t=3fP3Ww3S03h33lc3KS3J?3Vl3Kd3K=3w;3Vf3S~3TG3Th3vW3T?3U)~!$x.3ww~!$x53.t~!$x80zqJZkwG2z
  ~%2z~&2z~22z~42Fk.BwL2!2z~)2z~,2z~*2z~+2z~j2z~02wN2!sW2z~92wK2!Fk.B2!sW2z~62wI2z~82!sW2z~?2!sW2w
  n2z~M2!<:2!sW2z~:+$2sWz~53wO2wP2x+2wQ2z~B2z~32!sW2!BO2z~C2z~E2z~D2wR2z~F2z~(2z~G2z~I+!2wU+!2!zp$
  2z~N2wV2wx~!$z(1^IZkzDr]>1!l0~!$z:1L=V|0P^p[zG&2zMZ2zbC2zjZ2zgl2Gz2zqs2z%P2zRW2zT;2SDcT2|$q2z+(2
  z)72z?c2zq%2z$=2zXn2zZg2z6n2z6s2z6r2z6q~!$z^2nL2nZ2nW2zkO2zkb2nV2nX~!$zj2K)2z!72z!52K*2z!!2K+2z!
  6~!$zs2xj2xp2xl2|%72|%;2xk2xn~!$|!2z!%2z!42z!22z!&2z!(2K,2z!3~!$|,2z^92z^D2z^=2z^:2z^<2z^;2z^>~!
  $|62Xz2zDW2zDT2zDQ2X|2zDS2zDV~!$|>2wC2z|r2z|h2z|d2z|f2wD2z|j~!$|G2z8P2z8X2z8V2z8Q2z8T2z8S2z8W~!$
  |O0L2M(ZkF83tn3S13Mf3xP3xH3W,3Oz+$3cS3f.3PL+!3q73Sz3s?3KE3l<3lL3QV3z2^3),3Un3NZ3^St63wR3x+3VB),3
  [4x53!G:3$VB0jZ>]p6]A2$Nv0ZTp6HR0$jZ0$ZTNv0%jZ0hgz>R]A1$Nv0!Nvs!0ZTs!HR0$jZ0hgnD0ZThgzUkHR0%jZ0z
  1bz&B0zWK0!z4t0$j=0z<H0NvzUC0O%>R0!tP0Nvj]>]0NwcVUR0V=V90dcHZ0URvxN10rAvxjf.=0ZT[MzWOHR0%jZ0rAvx
  Nr.=3F[0ZTtwEEvxhJ0&jZ0rkZTT(HR1$jZ0$H?ZT1$jZ0!ZTm0t%0%jZ0ZTNwdx0$jZ0szNtdCcwNrgw0!cwNrdCszNt0!n
  ER*Nr0QWNr]>0!j=hH0twrA0jfg50w,l0^.Nr0sdL30hgNr1L30sdl+0M3vxZTz832!jZ0sdM30rkT(ktm40zt*MI0!zq,0z
  l=R?ns0twmONt0vqtw[%0JQ0NwUR0j=L30NwzGMhM]>0MIvxZTtN0NwpN]>0V=[MWS3vxWS.=0[MWS2vxNr0Nwzl(L30Nvn%
  0s1M30]dL30zWL]>0!z[wz2$0z&AtvNT0LXzWmvxjZz&[3!ZT0rIm4JPPW0]dPl]>1!hH0ZTnDHRvxp%0&jZ0!ZTnDHRvxNw
  0(jZ0rkT(ZTdx2!jZ0!H?T(ZT2!jZ0cVUR~!%!U0Krh^j32Kw2kscw3sz3r$2fH2HJ2pl2XAcw3sz2NU2kq2mlcw3sz2Z8cw
  3sz3r$3R*2mr2r!2mscw3sz2TLcw3sz2T02hn~!%!x2z$A2pB2^W2Mg2^[2z$s2vKcw3sz2QQ2f*cw3sz2m=T(s$s:2LQ2Nh
  2VX2H(c[L%2Pt2n>cw3sz2E62m92!It2_mcw3sz3r$3R*2]x2lP2hj2Pj2cl2I!cw3sz2]^2^Z2SQcw3sz3r$2r42L&2v_cw
  3sz2Itkv2m=U82!2Itn:3lR2Qz2ItJl2m=vD2vDcw3sz2Kp2ItSH2[Ecw3sz2It[E3R]2^^cw3sz2hf2Gv2Itq)ZP3ZO3vr3
  Qn2OTcw3sz3r$2ItOT2TH2ItU;2H+2S52ItQS3GI3kM2m=vf3w[2ItR62VTPg2!It2VTrj2!It2VTO(2!It2sg2!VT2!It~!
  %%:0zAQh^cw2[%2Nr2mc2ks2U32sz2Zx2]52zF*2P<2Om2O!HJ2LO2U]2pl2d(HJ2XA2gN2zzv2nB2jZd(HJ2z:)P42qC2NU
  2kq2Kw2gc2<12^c2P42OQ2zdS2SF3zjL2z3$2G:2w$2KQ2zbN2z>22ml2Z82z&D2zkD2^_2zb92w.2zUs2sb2O32lsr!2NvK
  w2[EzlT2szT<2zgq2HE2ms2Ht2nk2TL2z8s2Nq2T02HZ2hn2kn2z*U2BJ2nD2bn2pB2kf2^W2s$2zDv2ns2Mg2zz=2Nbbn2z
  %h2RD2Ks2nh2vK2QQ2z%!2Q52Nww92T(s$s:2mf2z3k2LQ2Nh2z[O2VX2]p2rB2pW2zFP2tW2QD2H(c[L%2zhW2NvqG2vj2z
  j82NO2Pt2n82A72nr2n>2rx2z7t2K!2zl,2E62jF2m92V[2_m2lP2Q82cl2>S2zZX2OO2I!2]^2zMJ2l%2A52^Z2rf2zV.2H
  !2zlE2z%]2SQ2r42z>I2Gp2vDP42L&2v_2kv2U82n:2zw62F=2fp2Dq2lR2j%2zc02Qz2H$2Jl2GW2zM|2vD2Kp2vv2z*d2z
  ww2SH2[E2R]2^^2zj=2lspvGI2hf2Gv2zz|2Q*2ZP2!q)2zE|2n,2ZO2vr2Qn2OT2TH2z5,2U;2H+2pz2T$2z452zcjvv2J|
  2S52QS2GI2kM2Mm2vf2z9X2w[2zME2G^2z222R62zrj2O22hp2bm2Pg2rj2O(2sg2Ql~!%)D0Ukz)lK>ZTrWjZ3.=rWF[3ZT
  rW^.>SjZ3.=rW^.>SF[3R?pM3pMR7.=5F[5ZT5!tL6jZ5[PZT3dE~!%)T1n41L31R?ns0z*h]>0VZz><nbp]0UkVM]>1!L$1
  c5xL0ZT>]HR0$jZ0$ZTNw0%jZ0!ZTLM0$jZ0$ZTvj0%jZ0!ZTG^Zf0%jZ0gG]>0!z6N0ZTrqlRHR0%jZ0!ZTvjZf0%jZ0!ZT
  vjrqlR0&jZ0!ZTvjnD0%jZ0vMMI0j=Nwg]hM]>0&0&[M0gG]>Q*0T>c6cw2sz2r$2R*2QW2mO2l62Om2bI0UkZnr]]>1$jj1
  $M|1$z2A0$T=m?Nr1%Nw0vPMI0twzANj3]>3!vxv1n,3]>tLT(3%vxv1n,3!]>[P0KjgG]>0Ukq>[%Q:l0p]0T>c6qC2sq2q
  r0twUkVM]>0!zKP0!d~>80UktkV*1T(QJn4~!%*H0TtZkml),2!2mlUV2!2mlt%2!2mlOK2!2mlcS2!2W,2RI2X)2S72Xf2S
  d2WV2Rn2XH2SF2kA2x<2m*2xV2p*2xb2kp2xH2mw2x]2pg2M+2r02N02mlsV2!2O42q72Mf2rW2Nb2_42b;2c,2_X2bc2Sz2
  D[2dR2Tg2G,2fZ2UC2I*2gr2TG2F82f.2U&2Gx2g32[z2^)2^k2]Z2^G2mlwG2!2mlx+2!2mlwx2!2hU2jD2k62hw2jq2mlv
  ?2!2vl2vW2v~2_12v92mlW,3WV~!%+S0L2WPv1n,]>2$l&0$WPv11$l&0!TtVM1$v11NB|!00WPNwUR0WOZkml),2!2mlUV2
  !2mlt%2!2mlOK2!2mlcS2!2W,2RI2X)2S72Xf2Sd2WV2Rn2XH2SF2kA2x<2m*2xV2p*2xb2kp2xH2mw2x]2pg2M+2r02N02m
  lsV2!2O42q72Mf2rW2Nb2_42b;2c,2_X2bc2Sz2D[2dR2Tg2G,2fZ2UC2I*2gr2TG2F82f.2U&2Gx2g32[z2^)2^k2]Z2^G2
  mlwG2!2mlx+2!2mlwx2!2hU2jD2k62hw2jq2mlv?2!2vl2vW2v~2_12v92mlW,3WV2tb2t~2tn2v.1^.Nr0WPggn,]>0!WOV
  M1$v11NBXS~!%,|0H6ZkBV2dQ2[g2Q&2M*2pf2_12X~2RH2W+2Sx2VS2h*2w92|$82K92l;2hS2x;2Iq2k?2),2cS2OK2Oc2
  <A2Ok2B)2d<2>K2P12>U2P62PL2UV2t%2VN2t_2_t2z7S2Ut2cSvxNr.=2b^~!%.Q0T=ZkX62nP2X72b<2b=2b>2r72nU2jH
  2jL2jN2jR2jT2jV2jQ2jI2^32fb2nR2fj2mD2nT2Up2Kc2nM2KP2X!2qk2fT2Tk2),2.g2wG2wJ2PB2OK2w_2wV2cS2v?2vB
  2cX2wx2t%2v^2vW2vl2x+2Pb2wn2UV1QK1ZknQ2bC2bB2bA2jM2jW2jS2jP2jX2^62^72^52WD2fg2fn2fk2fl2fd2fm2WF2
  WH2mH2mJ2mN2mK2mF2dk2nO2wg2wj2wh2WE2nN2wb2w|2w~2wz2x02x.2x,2?_2?h~!%0h0Uk>tzFm]>2!j<2!cw2!sz2!r$
  2!R*2!rk2!^.2!H?2!QR2!ks2!qn2!R,2!TO2!OQ2!]50H6ZkI*2xV2Vh2Sd2O[2P82d!2c|2VD2>r2z>D2tG2Uz2zPc2<G2
  B02><2cq2cz2z>E1QMZkdQ3pf3W+3Sx1Zkz6t2Zq2xh1QMZkRH1Zkz8L2Xq2cX2<80Krp%pf2zzK2z|C2Ib2pS2z<N2z<J2U
  A2z<M2zn.2z<K2z<O2z;d2z<L2z<P2_12Sx2k?2dQ2n22M*2UU2Tb2zn!2zmQ2n]2zg42zWz2z]A2zqp2zn02zmF2z<E2z<Q
  2zXR2h*~!%2%0WOZkmlXf3m*3p*3rW3c,3Sz3Tg3UC3TG3U&3^k3hU3jD3k63hw3jq0dzT=X62b<2r72jH2^32fb2mD2Up2K
  c2KP2X!2qk2fT2Tk2X6),2!b<2!r72!jH2!^32!fb2!mD2!Up2!Kc2!KP2!X!2!qk2!fT2!Tk2Kct%1XQK>zUd3cSUC~!%2Z
  1Udcw2sz2r$2R*2QW2mO2l62Om2bI2qC2^W2QQ2vK2w)2]|2OQ2pB2nq2TF2mz2_?2n92QN2L:2Z(2z_J2J82p)2pH2P=2j6
  2>*2z4+2j82l%2hx0KjUdhH2zBq2kj2XS1c5qCctG^nD2%sq2%qr2%R&2%QG2%mU2%l82%Os0f$m40Kjc5sqcw3sz3r$3R*3
  QW3mO3l63Om3bI2qr3cw3sz3r$3R*3QW1T=X62b<2r72jH2^32fb2mD2Up2Kc2KP2X!2qk2fT2Tk2X6),2!b<2!r72!jH2!^
  32!fb2!mD2!Up2!Kc2!KP2!X!2!qk2!fT2!Tk1XQK>z!Z3z?r1T=Upt%0XQnbp]0KjUdcw2sz2r$2R*2QW2mO2l62Om2bI2q
  C2^W2QQ2vK2w)2]|2OQ2pB2nq2TF2mz2_?2n92QN2L:2Z(2zdl2]32Q<2zl~2z3(2g^2B%2z>s2j82z&<2z&E2Tl2K62[M2Z
  T2jZ2zK~2z_?2p)2pH2P=2j62>*2bD1c5qrmO3l63Om3bI2R&3cw3sz3r$3R*3QW3mO3l63Om3bI2QG0Ukq>p]Q~z?+4z3z4
  zK>4?O4]G4z?v4z?t4B.4zf24zUU4zRn4z)H0nDTb1z2U1Pf0zFbzFHm40KjWO),2UV2t%2OK2cS2W,2X)2Xf2WV2XH2kA2m
  *2p*2kp2mw2pg2r02sV2q72rW2_42b;2c,2_X2bc2Sz2Tg2UC2TG2U&2[z2^)2^k2]Z2^G2wG2x+2wx2hU2jD2k62hw2jq2v
  ?2vl2vW2v~0nDPM_?z_:1?81AE1>x1,_1z>B1z>U1zv?1z2m1z1f1zUw1zU|1zAG1zAX1zA]1z6%1z5x1z7?1z7B1zDX1z7H
  1zBt1zBv1zBw1zBx1z8C1z8D1zD41zD11zA|1zCW1zCQ1zcm1zd71zj%1zf,1zf.1z(N1z)p1z+81zr!1zOB1zRm1z8r1zVc
  1zVd1D_1zX~1zZ81zZ71GL1z;n1z;q1IQ1z;~1z9S1fK1zX51z9b1zX91zX01FK1zZp1H91U11zZx1z;O1z;M1zJs1zJx1zJ
  p1zKG1zK51zM?1zMP1zMQ1]n1zL(1zL$1z|~1z~$1|!D1zb71zb61zc81zc>1z_C1z_D1zz:0Ukq>p]Q~U=xL5cw5sz5r$5R
  *5QW5mO5l65Om5bI5qC5P%5sm5qq5R+5QE5mP5l75On5bJ5sq5sv5sx5sw5st0nDz;c1M+1B)1EE1dA1zWx1z+$2nE2Lj1VN
  1PM_?z9R3zmq3znW3zL)1z&C1dR>I1_41^k),1[z1W,+!1]I1z6+1J41zAs1zXQ1zPQ1^kQ&+!1zLS1Wn1UU1zBZ1zM%1z76
  1zqB1^kX~1zMU1z*v1zC71z4_1zRH1^k[g1^E1L+1X?1^EnE1!L+1![g1!X?1^ELj1!L+1![g1!X?1[gdCk?4nE1dR1XU1^h
  1z7p1h[2dCk?4nE1z[b1zS;1^kk?1zN=1z]51zSx1^kt_1_!1zD;1_!]n1z]61zSz1^kv>1_%1Xq1_%]n1W+cb1![g1><1HO
  1K(+!1IqdCWn1L,1MQ1z8O1Sz1UA1V$1X91X?JP1zCs1zG%+!1zG.1zGp1]Iml1zMA1zMk1zXS1g21z[:1z[<1zkL1zm>1zz
  ;1t_dC[g1$),0Ukq>p]Q~MOcw5sz5r$5R*5QW5mO5l65Om5bI5qC5P%5sm5qq5R+5QE5mP5l75On5bJ5sq5sv5sx5sw5st5s
  s5zt$5zt!5zs|5zs~5qr5zp~0nDRQ~!&BM0z9gQ~q^z&TTO3z_)OQ2z*GAmq^FP2|!2z4f2vC2z%z2q^A,2U+rZ2mlq$2zrS
  2f02zl02z4%2SSgE2zMc2z2B2Qs2w.ctq^z)G2?K2z&+2GVr&2SN2zk9?92j:2z>F2SSq$2^cLN2SSgZ2q^.?vK3z%*QQ2z>
  =2z1!2z_V2SSgN2z[Q2MHc[q^Z~2q^Q02d,2zUL2z)W2Mk2V%2Hc2z%frW]l2R^rZ2z],tO2zV02q^zzE2z_]2q^J|3A2r+3
  WXzlA^_2z)t2q^zKEzJr2.>2q^zz.3z6Fvr3z?lZ32z*]2zF_2V3zs!2mlgZ2<.L72!FM~!*sx0wnp[VK2VO2UV2z>_2z=V2
  z=j2Un2z=U2Am2BI2),2?72zvB2tH2zvA2d92dL2cS2d&2Pk2OK2w52GS2GX2G,2GH2G82G92G62G72EZ2Ed2D[2ED2IG2ID
  2IF2H<2HJ2Gx2H52Ft2F82Fj2IT2IZ2I*2II2IN2IJ2Ij2Il2Ic2If2Ih2Ig2f~2zZI2fZ2fw2zZ62f^2zZ)2zWh2zWs2dR2
  dm2z]!2z[|2z[~2gH2z[72g32gC2g~2z]32gr2gx2z]+2z]%2h)2z]?2z];2z]<2z]>2z]=2E|2E~2Es2Ez2Ew2Ex2Et2Ev2
  El2Em2Eh2Ek2F+2F)2F*2F%2F&2F!2F$2Er2En2Eq2F12F22F(2F,2F02F.2F52F62F32F42zO[2zO]2zOV2zOZ2zOX2_L2z
  OW2zOS2zOT2zOQ2zOR2zOb2zOc2zO^2zO_2zOk2zOl2zOf2zOg2zOj2zOh2zOr2zOs2zOm2zOn2zOq2zOp2z:n2z:p2z:h2z
  :m2z:l2z:j2z:k2z:d2z:f2z:b2z:c2z:x2z:v2z:w2z:r2z:s2U!2z:q2z;!2z;$2z:t2z:z2z:~2z:|2z;*2z;%2z;&2z;
  )2z;(2^C2zMS2^)2zMN2zM:2zM.2zM02zKQ2zKW2[z2]92zNV2zNW2zNS2zNU2zN&2zN52^G2^X2zLJ2]Z2zNd2zNj2^k2zN
  X2zN_2zN[2zNv2zNw2_+2zNt2z4G2z4K2QC2z4>2z3q2Q62Q(2z3l2R.2Qq2z4p2z5E2z5F2R=2z5A2z5B2RD2z5N2z5O2z5
  K2z5M2zx(2zx02t~2zw|2v%2zwt2zwm2zwn2zwA2zwD2tb2zw92zx?2zxC2v.2zx>2zwb2tt2zxQ2zxR2v92zxO2zxP2v;2z
  x[2zx]2v<2zxW2zxZ2zxX2z*g2z*q2N02z*S2z*C2N82z*A2ML2z(s2M+2M>2z0v2z0t2Nr2z0[2Nb2z+62z)v2Mf2z)c2z1
  (2z1*2O42z0w2z1$2z0|2rJ2zqf2r02rG2zqI2r32zqH2q.2zp%2pg2znm2s]2zsd2zsb2zsc2rr2zrB2rW2rk2zpW2q72zp
  J2zsn2zss2sV2s^2zsm2s_2z)52z)62M_2z)42z)32z)12z)22z)%2z)&2MR2z)$2z)=2z);2z)<2z)92z):2Mb2z)82z)*2
  MZ2z))2z)A2z)B2Mc2z)>2z)?2Md2zP02zP12_S2zP,2zP+2zP*2zOz2zO|2_M2_P2zP52zP62_T2zP42zP&2_Q2zO~2zP;2
  zP<2_W2zP82zP:2zP92z;:2z;;2z;42z;92z;72z;82z;52z;62z;,2z;02U%2z;+2z;B2z;A2z;=2z;>2z;<2z;32z;12z;
  22z;C2zQm2zQp2b;2zQj2zQV2zQP2zQQ2zOM2_42zOE2zSq2zSn2zSp2bn2zRr2bc2zRg2zPP2_X2zPG2c=2zSw2c,2zSr2z
  St2zSs2z:I2z:J2T~2z:H2z:G2z:E2z:F2z:>2z:A2T|2z:=2z:Q2z:O2z:P2z:M2z:K2z:L2z:D2z:B2z:C2z:U2z:V2z:N
  2z:R2z:T2z:S2z:]2z:^2z:W2z:X2z:[2z:Z2zFs2zFx2Zw2[+2zFN2zFO2Zz2zFM2zEb2zEl2Z!2Z?2zG]2zG^2zGZ2zG[2
  zGG2zGN2[<2zGB2zF=2ZM2zF42zGf2zGg2[T2zG_2zGc2zGb2zG|2zG~2[c2zGx2zGz2[d2z7J2z7K2S72z7C2z7;2z7<2z7
  92z7:2z6(2z6*2RI2RX2z8?2z8A2z8=2z8>2SM2z7n2SF2z7d2z6M2z6O2Rn2Rw2z8I2z8J2Sd2z8B2z8H2Sm2X52zC&2X)2
  X02zBh2zBc2zBf2zA_2zAp2W,2W?2zD+2zD(2Xk2zCX2zC^2XH2zCS2Wf2zB<2WV2zB*2Xn2zD92Xf2zD,2zD52Xl2z6^2z6
  _2S$2z6]2z6Z2z6[2z6S2z6T2R~2z6R2z6f2z6g2S)2z6d2z6b2z6c2S%2S&2z6W2z6X2S!2z6V2z6l2z6m2S(2z6h2z6k2z
  6j2zLn2zLm2zLV2zLW2zLT2zLU2zLw2zLt2zLv2zLq2zLr2^&2zLp2zLl2zLj2zLk2zL~2zM!2zLs2zLx2zL|2zLz2UN2z<=
  2z<72z<<2z<:2z<;2z<82z<92z<22z<32z<02z<12z<C2z<D2UP2z<B2z<?2z<A2z<>2UO2z<62z<42z<52zQ$2zP~2zQ!2z
  PZ2zP[2_v2zPW2zQC2zQD2zQB2zQ92zQ:2b42b82zPb2_z2zP^2Tw2z:22Th2TD2z9=2Sz2z9.2z;z2z;|2z;w2z;x2U<2z;
  _2U&2U52z9d2TG2z9Z2zz82vS2v?2vG2z|+2w72z|*2zzt2v~2zzk2zzJ2vW2zzG2|$j2|$k2xV2|$f2|$_2|$]2|$^2|$*2
  |$,2x<2|$$2|%%2|%!2|%$2x_2|$t2x]2|$s2|$72xH2|$42|%(2|%)2xb2xd2|%&2xf2|%52|%62xh2|%22|%42|%32z$p2
  z$t2Kb2Kg2z$b2z$g2z$^2z$_2Js2K$2I~2JO2z&l2z&k2Lm2z&G2z&O2L,2z&:2z!P2K.2z!J2L|2z&~2Lf2Ln2z&v2z&p2
  M)2z(62M$2M&2z(52z(32|%C2|%D2xl2|%B2xm2|%A2|%>2|%?2|%92|%:2xj2|%82|%F2xn2|%E2|%=2xk2|%<2|%L2xp2|
  %I2|%K2|%J2|%R2|%S2|%M2|%O2|%Q2|%P2zTV2zTW2zTQ2zTU2zTT2zTR2zTS2zTL2zTM2cQ2zTJ2zT_2zT^2zTZ2zTX2zT
  P2zTN2zTf2zT[2cR2zTd2zTc2zTl2zTm2zTg2zTh2zTk2zTj2zj)2mO2m*2zj$2zh^2zhZ2zh]2kb2zdH2kA2kZ2zm,2zm*2
  zm+2n+2zjw2mw2zjl2zfB2kp2zf02zm;2zm=2p*2zm.2zm82pJ2zm|2zm~2zmR2zmr2zmx2zms2zkm2zkn2nW2zkl2zkk2zk
  h2zkj2zk^2zk_2nL2zk]2zkq2zkr2nX2zkp2zkd2nV2zkc2zkt2zkv2nZ2zks2zk~2zl!2zkw2zkx2zk|2zkz2|$<2|$=2xN
  2|$;2|$K2|$I2|$J2|$G2|$H2xT2|$F2|$A2|$B2xP2|$?2|$O2|$P2xU2|$L2|$N2|$M2|$W2|$X2|$S2|$T2|$V2|$U2KD
  2z!h2K:2z!_2z$N2z$O2z$L2z$M2z$E2z$F2KU2z$B2z$!2z$$2KE2z!t2z$S2K^2z$P2z$R2z$Q2z$[2z$]2z$V2z$W2z$Z
  2z$X2zbZ2k12zbh2zbg2zbb2zbc2k42zb_2zb]2zb^2k22zb[2zbm2zbn2zbf2zbj2zbl2zbk2zbt2zbv2zbp2zbq2zbs2zb
  r2zR|2zR~2bz2zRz2zS+2zS)2zS*2zS&2zS(2zS!2zS$2zS32zS42zS,2zS02zS22zS12zS92zS:2zS52zS62zS82zS72lK2
  zgM2l<2zgC2zh?2zh=2zh>2zh(2zh,2lj2lp2lU2zgb2lM2zgU2zhC2zhE2m!2zhA2zhB2m%2zhR2zhS2m)2zhO2zhQ2zhP2
  hp2z^v2hU2hn2zc62zc42zc52zbT2zbX2jq2zbQ2z_^2hw2z_E2zc=2zc?2k62zc72zc:2zc92zcM2zcN2k>2zcJ2zcL2zcK
  2z?H2z?I2Vh2z?G2z?D2z?E2z?B2z?C2z?|2z?~2z?x2z?z2W%2z?k2Vw2z?h2zA)2zA+2W(2zA!2zA&2zA%2zA22zA32zA,
  2zA.2zA12zA02z]j2z]k2h62z]h2z]d2z]f2z]b2z]c2z^+2z^,2hL2z^*2h=2z]q2h92z]n2z^32z^52h>2z^.2z^12z^02
  z^C2z^E2z^82z^?2z^B2z^A2z?P2z?Q2Vn2z?O2z?M2z?N2Vp2z?L2z?W2z?U2z?V2z?S2z?T2Vq2z?R2Vs2z?]2Vr2z?X2z
  ?[2z?Z2z?_2z?b2Vt2z?^2zR&2zR(2bU2zR%2zR!2zR$2zQz2zQ~2zR.2zR,2zR*2zR+2bV2zR)2zR42bX2zR02zR32zR22z
  R92zR:2zR52zR62zR82zR72cM2zT92cJ2cK2zT42zT52zT22zT32zTE2zTC2zTD2zT>2zT?2cN2cO2zTG2zTH2cP2zTF2z|M
  2z|N2w>2z|K2z|I2z|J2z|G2z|H2z|X2z|W2z|S2z|T2w?2z|P2z|q2z|s2z|c2z|m2z|p2z|n2wt2z~z2wn2z~x2z~r2z~s
  2wq2z~q2|!L2|!M2|!J2x32x(2|!52wx2|!.2x62|!R2x+2|!N2|!P2|!O2|!b2|!c2x92|!]2|!_2|!^~!+,.1h^h=2Zw2X
  52cK2M&2nW2S&2Rw2^)2UN2[d2F12^X2wx2g~2UP2q.2RI2xd2M)2Md2IJ2S)2cO2sV2d&2Vs2x_2h)2U!2wt2v;2m)2tt2x
  <2Vw2cR2Vt2SM2Vp2v~2O42m%2Zz2M$2Lm2Kg2UO2lK2xf2lp2KE2xm2_L2WV~!+,x0[2ZkD[2dR2fN2M+2pg2qW2RI2W,2W
  p2VU2I~2K:2OB2s<2sB2[z2_42Z!2kA2xN2x<2_v2Sz2w:2Tc2Q(2v?2l<2wG2S*2),2.g2OK2Pb2UV2cS2t%2t02t32cX2r
  ]_,r03_4g33_,M%4Gx4_44z?:1gwL32R?ns0zw3p[O[2z1g2TR2vZ2zzC2f52G%2FG2]N2XW2zL]2Rg2Q92tr2q;2q_2z**2
  z*.2ZQ2j(2Ml2_R2kv2lN2xI2xQ2K22V_2bS2wX2WW2b%2Rq2]g2_[2cF2UV2V$2Tg2Tp2vl2zzW2fZ2G(2G,2]Q2XX2zLb2
  Rh2QC2t~2r02qj2z*42z*02Zw2jD2N02_S2m*2lX2xV2xR2Kb2Vh2bU2wn2X)2b)2S72^)2b;2cJ2),2>K2zPU2Sz2T.2v?2
  zz*2dR2Fx2D[2]J2XU2zCb2^%2Rd2Q(2tb2pg2qW2N+2z*+2Z!2hU2M+2_M2kA2l<2x<2xN2I~2VU2bN2wG2W,2W<2_~2RI2
  [z2_42cB2d!2zU~2U22w(2zzj2gB2G*2H,2]T2X[2zLg2Rk2Qw2v42rh2qw2z*62z*22[G2j~2Np2_V2n(2ln2x^2|$E2LG2
  W$2bW2x%2XO2b+2z7b2^V2bf2zT=2t%2t=2UC2UH2w52z|(2gr2G+2I*2]U2X]2zLh2Rl2R=2v92sV2r(2z*82z*32[T2k62
  O42_W2p*2m!2xb2xU2Lf2W(2bX2x+2Xf2b,2Sd2^k2c,2cP2cS2ct2b72U&2U12v~2w&2g32G)2Gx2]S2XZ2zLd2Rj2z642Q
  q2v.2rW2qt2N.2z*12[<2jq2Nb2_T2mw2lj2x]2xT2L,2Vw2bV2wx2XH2b*2SF2^G2bc2cN2OK2P12_|2TG2TV2vW2zzF2f.
  2G$2F82]M2XV2zCd2zL[2Rf2z602Q72tn2q72q^2N,2z*,2ZM2hw2Mf2_Q2kp2lM2xH2xP2K.2V^2bR2wV2WV2b$2b&2Rn2z
  6A2]Z2_X2cE2_t2Zc1L31R?ns1hH]>1p[_UQ(3W,3n(1p]z3~2zAz2zqV2bE2E>2Q)2ph2M<2z+52zD&2zr02z+&2z?g1N>x
  L2cw2sz2r$2R*2QW2mO2l62Om2bI1p[_U[z3Nb~!+3c0M(JPZk|$31$ml1JPZkOE1$ml1JPZkj=OC1%ml1JPZkV?1$ml1JPZ
  kNZ1$ml1JPZk^St61%ml1JPZkHvcr1%ml1JPZk_nwc1%ml1!JPZkwfvxDc1(ml1JPZkVBwR1%ml1JPZkj=x+1%ml1JPZkVB)
  ,1%ml1JPZkL![4x51&ml1!JPZkGh1%ml1!JPZkVBL![41(ml1JPZkww1$ml1JPZkj=s?1%ml1JPZkm~Mf1%ml1JPZkm~Oz1%
  ml1JPZkm~P*1%ml1JPZk^OcS1%ml1!JPZkGE1%ml1!JPZkNw^O1&ml1!ZkzNM0L2M(zx_2qC^<m42$UI2$q|0zj>A_0L2M(Z
  kt7Un3UV3wn3t%3TAm43wf3m~m43cr2WS2f,0M(WS1f,1JPZkO=1$ml1JPZkz1<1$ml1JPZk|$R1$ml1JPZkK,1$ml1JPZkz
  1A1$ml1JPZkq7vx^.U31(ml1JPZksk1$ml1JPZkzs=1$ml1JPZkzs:1$ml1JPZkzp*1$ml1JPZkUM1$ml1JPZkm(1$ml1JPZ
  kNwcS1%ml1!JPZkL[1%ml0^IZkM(TAm43!m~0L2M(ZkO]3VBOK0E8Zk),2W,2t%2Xf2O[2j(2pp2cS2cJ2UV2Z!2dR2jd2jG
  2ZR2]h2ph2_N2bO2[g2pO2^k2l^2m*2lV2l52X|2Wf2c02c,2bZ2x&2m!2x42wG2b|2Wj2fM2bS2c(2gv2w62f52Q92k62[T
  2^)2b;2j;2hb2W_2b32_~2_v2lj2gt2R=2Qt2v?2_42Zw2fZ2[J2XH2]O2j12]t2[z2r02X)2^G2]K2qM2XU2qC2c+2kQ2z3
  V2zC]2zCI1L2]>zCT3zsX1bP1R?ns1L11L31l+1hH]>~!+670^IZkKTr]wsft4!wO4wszgB4!wO4wsh>4!wO4wsk64!wO2Pq
  Nvr]EE2%Tl2%^+2%[M2%Pr2$PqNvzF&2&Tl2&^+2&[M2&Pr2%Pq2%Tl2%^+2%[M2%Pr2!Nrtw3mc3U7EE2[PjZLM>]2hgtIA
  73!O!3Pl]>3$V=2%[M2n~>STlr]4![M0ZGJPZkOb<k1%ml1JPZkOb<F1%ml1JPZkTW1$ml1JPZkztB1$ml1JPZkzrU1$ml1J
  PZkLg1$ml1JPZkLgvxL31&ml1ZkmlJPQ&4k?1JPZk,Q1$ml1JPZk?41$ml1JPZkB)1$ml1JPZkB;1$ml1JPZkB;vxU7EE1(m
  l1JPZkBK1$ml1JPZkj=IqvxNr1(ml1JPZkW+vxp%1&ml1!JPZkW+vxN21(ml1$JPZkW+vxp%>S1(mlZkW+1JPZkHxX~1%ml1
  JPZkX~vxTlp%1(ml1JPZkcSvx[Ep%dH1(mlZk1JPZkcSvx[H1&ml1JPZkd!1$ml1JPZkdQvxp%r&N!1(mlZk1JPZkdQvxQj1
  &ml1JPZkdQvxzkJpt1(ml1JPZkh*vxp%r&N!1(mlZk1JPZkh*vxN2p%1(ml1JPZkhSk+1%ml1!JPZkk91%ml1JPZkt_vxN2p
  %1(ml1JPZkv<1$ml1JPZkzx&x;1%ml1JPZkqxvxp%1&ml1JPZkqxvxp%r&N!1(mlZk1JPZkzwK1$ml1JPZkPW1$ml1JPZkVF
  1$ml1JPZkz%t1$ml0^IZktV0ZGmlZkz0q3[^3zNO3zSh3k91!ZkmlJP1mlZks[3t:1JPZkV6M*1%ml1JPZkV6Q&1%ml1JPZk
  V6RH3$sd1&ml1JPZksdX~1%ml1JPZkV6hS1%ml1JPZkV6k?1%ml1JPZkV6pf1%ml0^IZk[MKn.C2L12lsPHm40ZGJPZkzd)1
  $ml1JPZksdSx1mlZkX~vxj9U3>SF]1ZkzhsNr1JPZk_1vxN!1&ml1JPZkIqvxEE1&ml5d^U33%Sx1JPZkBVvxQj1&ml1JPZk
  Q&vxp%1&ml1JPZkv3.g1%ml1JPZkv3cX1%ml1JPZkv3t01%ml1JPZkRHvxcVp%1(ml1%JPZkW+1(ml1%JPZk_11(ml1%JPZk
  hS1(ml1%JPZkk?1(ml1JPZkSxvxU33j=d(OK3knRH3X~vxF]3mlJPUV1ZkmlJPh*1JPZksdW+4pf3VSvxL]3KO3Fp1$ml1JP
  Zkcr1$ml1JPZkt%vxp%1&ml1JPZkSD),1%ml1JPZkSDUV1%ml1JPZkSDt%1%ml1JPZkclg=cS1&ml1JPZk>_v>1%ml1JPZkI
  qvxd^U33!k?vx3!x;vxd^3M*vxlsp%dH1(mlZk1&JPZkk?1(mlZk~!+8v1JPZkL!V6RH1&ml~!+8z3Nwqx~!+8~4w81JPZk^
  .zd[k?1&ml1!JPZkzhb1%ml~!+9C0^IZkJPIq3Q&3h*0ZGJPZkj=T(Sx1&ml1PEZkm0UV0^IZkJPSxvxp%2mlZ|cX0ZGZkml
  JPsd[g1PEZkj=Q&4dQ3V=[g3UV[F3?m[g0zmUzO8Zk),3UV2m4z1.2Zkt%3OK3cS2m4TC2ZkXH3X&3SF3S42m4?22ZkL,3KU
  3Vw3z?>3sT3sR3Mb3M^3rW3qt3Nb3N.3bc3g33fV3Gx3G)3^G3jq3[<3k43mw3U&2v7m4),4UV4t%4OK4d!2zZn]?+%2m4>6
  TC~!+:30bkV)R0cwhD4T(3r$hE3cwmQ4Op3r$mR2hD]>2!g(2!k<2!z]t~!+:D0zXVZkW,2Wp2RI2_v2I~2K:2VU2cB2pg2q
  W2M+2_42dR2fN2D[2[z2s<2sB2OB2v?2xN2x<2ml),2wG2hU2Z!2l<2kA2Sz2),2UV2t%2OK2cS2h+2w:2Q(2R~2O[1p.Zkv
  ?3wG1ZksI2sN2MR2b_2>6wG2zx4l<2v1Sz2AWQ(1p.ZkhU1$zm11ZkJG1m?TH]>1$Nw1]>lA2!Nw~!+;60zdDm4?22v+1Zk)
  ,2,Q2UV2Uv2t%2t[2v0hS3k03X~3[92OK2O[2<A2cS2d!2B)2W,2Wp2RI2S*2_v2I~2K:2VU2Vd2cB2sI2sN2MR2M[2b_2pg
  2qW2M+2N+2_42dR2fN2D[2Fx2[z2wG2hU2Z!2tb2l<2nL2kA2Sz2[:1L=m4z8f1v7m4,Q3UV3Uv3t%3t[3v0hS4k04X~4[93
  OK3O[3<A3cS3d!3B)1m4v*2JG~!+<71M;1!Nw1N>xL2cw2sz2r$2R*2QW2mO2l62Om2bI~!+<J0L2N&N>xL3cw3sz3r$3R*3
  QW3mO3l63Om3bI2Zk),3t%3W,3_43dR3hU3t~2m4B<0N&m4n5JG2JGv*2$Nw2JGsz3r$3B<2z].1RXQK1J]1TK1m4m,1z?(c
  q1ZkBK1!v7m40WUZwN>xL3cw3sz3r$3R*3QW3mO3l63Om3bI2ZkW,3Wp3RI3_v3kA3l<3x<3cB3pg3UB3_43dR3fN3[z3M+3
  D[3hU3wG3Z!3v?3qW3Sz3tb3I~3),3cX3UV3d!2v7t03OK3t%3O[3cS2r]g,3J:4g,2m4M!3zhM0z_;ZkW,2RI2_v2pg2M+2
  _42dR2D[2[z2I~2VU2cB2kA2hU2Z!2wG2v?2Sz2]J2_~2_M2zT:2),1v7m4UV3t%3OK3<A3cS3B)3Pb3OM1L=m4_t3_13hS3
  Sx1v*~!+>,1kt]>0T=KWzqM2r:2r<2r82jL2jU2jW2z_x2jN2jR2z_v2jJ2jT2z_l2jK2^42zM92^72zZ42zZ+2ff2zkU2z=
  c2z=Z2zkQ2zkW2zXf2z:12zkZ~!+>P0z?.m4zWB2K02zEn2zzT1Zk),2UVzAm32Uv2t%2dRz!L2_vzF,4z^p2OK2<A2cS2W,
  3k_3^v2RI3^v2_v2I~3^v2VU2cB^v2VU].2cB2sI3].2MR3].2_4^v2pg3^v2M+3].2_42dR3^v2D[3^v2[z2wG2hU3<72Z!
  2v?2kA^v3].32Sz1m4K0zpC1v7m4zns3zqz3z|&4zL*3p=4zL23px3z*WzN]3f>1L=m4zB+3zX33J31zW71ZTz_L1!jZ1dV>
  T2zJ[2zGU2vt2zW62zFk2zGX2.X3.X2zZG1$sd~!+?R1zW:1N>xL2cw2sz2r$2R*2QW2mO2l62Om2bI~!+?f1dVzq^zs^2z>
  l0_.ZklGS*3K:3Vd3b_3Fx1m4lGkd1^IZklGj&1ZkpsZ.cB4Q(4RI4S*4VU4Vd4MR4M[4b_1psZ.N>xL4cw4sz4r$4R*4QW4
  mO4l64Om4bI1ZkpsZ.[:4M+4N+4D[4Fx~!+A50z!VZk),2UV2t%2OK2<A2cS2W,2Wp2RI2S*2zQ?2_v2K:2z$%2VU2Vd2zQJ
  2b:2zQI2pg2qW2M+2N+2zSf2_42MR2dR2z[92fN2D[2Fx2zND2[z2Eh2wG2hU2Z!2tb2nL2kA2Sz1v7m4,Q3UV3Uv3Ok3t%3
  cX3cS3<A3B)3t01L=m4wG3hU3Z!3v?~!+B%1ZkQMW+3RH3_t1$L=m41ZkQMK93pf3_13dQ3wE3hS3X~3nK1L=m4QM[g4Sx~!
  +B81N>xL2cw2sz2r$2R*2QW2mO2l62Om2bI~!+BE1gwn=2M;2!Nw2!s10_.ZkWtRI3I~3K:3VU3Vd3cB3sI3sN3MR3M[3N+3
  _43kA3Sz3Tc3Q(1^IZkWtj&1ZkWtw:3x<3hU1[CWtcU3z]l3z:_1p]<KPl3cw3sz1Zk<KhU1m4zWFWIr]2psZ.r_4rc1Zkm(
  d_K:4l<0psv%Zk[MXH3!Tl3[MX&3!Tl3[MzBI3!Tl3[MSF3!Tl3[Mb43!Tl3[ML,3!Tl3[MKU3!Tl3[Mmw3!Tl3[McN3!Tl3
  [MNb3!Tl3[MrW3!Tl3[Mqt3!Tl3[Mbc3!Tl3[MGx3!Tl3[Mg33!Tl3[MfV3!Tl3[MQq3!Tl3[M^G3!Tl3[Mwx3!Tl3[Mjq3!
  Tl3[M[<3!Tl3[Mv.3!Tl3[MU&3!Tl3[McS3!Tl2]0W=2v7,Q3UV3t03t%3OK3cS2]0zBJ2v7UW3ztl3t)3B+3BK3>K3><2r]
  ]0Ow4c24qt4zjh~!+D&2p]XM3c23kO3U&z;G3XIXI0]m]HZkOK3cS3K:3cB3sI3sN3MR3M[3b_3l<3nL2v7m4Uv4t[4,V4B)
  4,b2z!n2<;zBT2>p2p[j4]>2$w,2v7m4v+2v*~!+DP0P^p[zsE2sQ2sO2zsC2sP2sR~!+DX2z)02z).2M]2z),2z)+2M^~!+
  Dd2OJ2OH2z172OD2OC2OI~!+Dw2z!)2z!12z!.2z!*2z!,2z!+2z!0~!+E&2Eh2F(2Es2Ej2Ep2En2F!~!+E10ZGmlZkEL>3
  3),z_X3GdOK3!EL3OKvxQj3ZdQ&3knRHvxL]3X~vxV=ZKk?5Nw^.rA5^.jf3[gvxL]3$_13$P63GdcS5vxp%3%d(3V=cX3sd
  cXvxp%6!U74cSzV(6vxp%3zlChS1ZkmlJPhSvxjZZ[1mlZkhSv|T;3NwhS3hSvxL]3%Nw3knhS5vxjf3ESPT3t%vxlsjZZ[4
  &EE3t43!sd3t%vxZTU33KO4vx[MjZjf6ZTl23w9vx[MjZjf5[EZTZ[8>S[MjZjf8vxl23wEvxlsjZZ[0^IHhvxV=Hh1ZkmlT
  W3X~vxV=ZKk?5^.rA3t%vxZTU30ZGmlZkzctwR3VBOK3d(cX3tH3V=>30SVZkmlJPcr0ZGmlZkOANBvxj9U33&s;3sdhSvx^
  .rA0^IZkmlsdv>2ZTpn2!jZ~!+E|0KLmlZk),3OK3UV3cS3t%+!3RI3W,3Rn3S73SF3Sd+!3Sz3TG3Tg3U&3UC+!3Z!3ZM3Z
  w3[<3[T+!3[z3]Z3^)3^G3^k3_43U%3_<3_X3b;3bc3c,+!3h?3hF3hI3hL3hO+!3kA3k?3kp3m*3mw3p*+!3M+3pg3Mf3q7
  3N03r03Nb3O4+!3N^3rN3rO3rT3rU3rV+!3s<3s?3sE3sF3sG+!3v?3vW3vl3v~3w5+!3wG0]m]HZkXJ3kO3Z,3^C3dR3_43
  z$.3r?3zBQ3b93zq)3zz&3wO3z;r3t=3UV3zXX3Av3z7[3z?<3z^_3D[3Vl3z*L3z733z*73F~3XJzG=3!Z,3!^C3!dR3!_4
  3!r?3!b93!UV2v7m4zUm4z>04>M4z~R4zjr4zv,4z!q4c:2z!p2[^z>|2!?P~!+GX2N>xL3cw3sz3r$3R*3QW3mO3l63Om3b
  I~!.>+0T=W)zTz2zTs2|!!2|!$2|!%2ztS2ztP2|!=2|!A2z2s2z2v2z2t2z2x2z<^2z<_2z<c2z<b2z<Z2z<d2z<f2z<W2?
  b2?c~!.>I1W!zQT2zQR2nU2zkX2r:2r<2zqN2r82zqL2zqO2jU2z_m2zkS2z_n2z_t2z_s2z_~2z_|2WG2zM42zM72zkR2zM
  52zM22fn2zZ12zZ,2nR2fl2fd2fc2mI2zhw2zkT2zkV2zhz2mF2mE2mM2mG2zW?2zW>2z~[2z~W2z$d2z$f2nM2zXg2zXh~!
  0dn0KrL6Uf=~=~=~=~=c~!0kW3=~=B~!0mM0ZGmlZ|QB3QC3z4L3z413z423[Ek?pf3n]~!0md0A)mlZ|]tbw4OW4V13t|bw
  3]tw=~!0mq0TQZkx!vxTv1g5z?nzw=1Z|wpx!x!f&1Zk>9BP2vm<k3M73TG3W63Z93QM]q3j53q22>9g.m42lcvxlcNr4!m>
  4!M2>Slc6!m>2<kvxf&4h24]:2FnvxM22$S;2$M72TGvx]:2tmvxM22$xF~!0n72$qM2$x!2$QMW62%2$Z9~!0n=2$]q~!0n
  ?2$c92$kR~!0nC2$QMf.2%~!0nF2$s=2$h:2$j52$lc2$q22tmvxU*2Fnvxhc2$W62$f.1Z|<kZ90?[Zk<kvIVHR$4!QM2!F
  HVH3!QM3!V23!]c2!f6VH3!QM3!V23!]c2!FRVH3!QM3!V23!]c2!sMVH3!QM3!V23!]c2!q=VH3!QM3!V23!]c2!sLVH3!Q
  M3!V23!]c2!tsVH3!QM3!V23!]c2!f7VH3!QM3!V23!]c2!O>VH3!QM3!V23!]c2!cGVH3!QM3!V23!]c2!q5VH3!QM3!V23
  !]c2!q6VH3!QM3!V23!]c2!MTVH3!QM2!M4VH3!QM2!O7VH3!QM2!MUVH3!QM2!VcVH3!QM2!k3VH3!QM2!W[VH3!QM3!V23
  !]c2!ROVH3!QM3!V23!]c2!SjVH3!QM3!V23!]c2!b5VH3!QM3!V23!]c2!bgS6VH4!QM2!jnVH3!QM3!V23!]c2!TTvxwZ.
  =VH6!QM3!SGVH4!QM4!V24!]c3!NcVH4!QM4!V24!]c2!wZEMVH4!QM4!vxT,.=VH7!QM1p]Nr.=3F[2szNt.=4F[2r$Nt.=
  4F[4g8O%.=6F[2R*Nt.=4F[2!NwtwEE2szNttx.=5F[2jf2mlpr.=4F[2vI.=~!0q81Zk_tVHR$3!QM3!V23!]c2!t%VH3!Q
  M2!cXVH3!QM2!x+VH3!QM2!t%vxT,.=VH2$tn3!QM2!X1cXVH4!QM3!x+VH4!QM2!OKVH3!QM3!V23!]c2!t5zArX1<k]1V2
  7!]c1!Z|wZvxT,.=vx<kVH8!QM7!.gVH8!QM7!vQVH8!QM7!t%VH8!QM7!cXVH8!QM7!x+VH8!QM7!OKVH8!QM8!V22!t5X1
  wZvxT,.=vx<k]1VH;!QM;!V21!ZkQ2wZVH4!QM4!V24!]c1!Z|wZvxT,.=vxVbVH7$T!7$]k7$<k]17$wZ2$FQvxVb4$T!4$
  Wr4$]k4$<k]14$wZ2$q<vxVb4$T!4$Wr4$]k4$<k]14$wZ2$qbvxVb4$]k4$<k]14$wZ2$VbvxT!4$]k2$T!vxVb4$]k2$Wr
  vxVb4$T!4$]k2$kwvxVb4$T!4$Wr4$]k2$kCvxT!4$]k2$M0vxVb4$T!4$Wr4$]k2$prvxT!4$]k2&x?2$<FvxVb4$]k2$S.
  vxVb4$]k2$Q;vxVb4$T!4$Wr4$]k4$<k]14$wZ2$h0vxT!4$]k4$<k]14$wZ2$W6vx<k4$Vb4$T!4$Wr4$Z64$]k4$<k]14$
  wZ2$Z6vxVb4$T!4$Wr4$]k4$<k]14$wZ2$]kvxVb4$T!4$Wr4$]k4$<k]14$wZ2$bgvxVb4$T!4$Wr4$]k4$<k]14$wZ2$TT
  vxVb4$]k4$<k]14$wZ2$wZvxVb4$T!4$Wr4$]k4$<k]14$wZ2$qZvxpF<k2(j+2(<k]12$lBvxM:4$WN4$Q34$M94$WM4$pF
  <k2!wZvxT,.=vxj+QM7$xA7$]k7$bg7$<k]17$wZ2$FQvxj+4$xA4$]k4$bg4$<k]14$wZ2$q<vxj+4$xA4$]k4$bg4$<k]1
  4$wZ2$qbvxj+4$xA4$]k4$bg4$<k]14$wZ2$Q;vx<k]14$wZ2$h0vx<k]14$wZ2$W6vx<k4$Z64$]k4$<k]14$wZ2$Z6vx]k
  4$<k]14$wZ2$]kvx<k4$]k2$bgvxj+4$xA4$]k4$bg4$<k]14$wZ2$<k]1vxpF<k2$wZvxj+4$xA4$]k4$bg4$<k]14$wZ4!
  T,.=vxVbV27$T!7$Wr7$]k7$TT2$FQvxVb4$T!4$Wr4$]k4$TT2$q<vxVb4$T!4$Wr4$]k4$TT2$qbvx]k2$VbvxT!4$]k2$
  T!vxVb4$]k2$WrvxVb4$]k2$kwvxVb4$T!4$Wr4$]k2$kCvxT!4$Wr4$]k2$M0vxVb4$T!4$Wr4$]k2$prvxT!2$x?vx]k2$
  <FvxVb4$]k2$S.vxVb4$]k2$Q;vxVb4$T!4$Wr4$]k2$h0vxT!4$]k2$W6vxVb4$T!4$Wr4$Z64$]k2$Z6vxVb4$T!4$Wr4$
  ]k4$TT2$]kvxVb4$T!4$Wr4$]k2$bgvxVb4$T!4$Wr4$]k4$TT2$TTvxVb4$]k4$pF<k2$wZvxVb4$T!4$Wr4$]k4$TT4!T,
  .=vx]k]c7$TT2$FQvx]k4$TT2$q<vx]k4$TT2$qbvx]k4$TT2$kwvx]k4$TT2$lOvx]k4$TT2$W6vxZ64$]k2&Z62&bg4$TT
  2$wZvx]k4$TT2$lBvxQ34$M94$WM2!prvx<k]1VH4$wZ2$<Fvx<k]14$wZ2$S.vx<k]14$wZ2$kwvx<k]14$wZ2$lOvx<k]1
  4$wZ2$T!vx<k]14$wZ2$Vbvx<k]14$wZ2$Wrvx<k]14$wZ2$kCvx<k]14$wZ2$M0vx<k]14$wZ2$lOvxVb4$T!4$Wr4$]k4$
  j+2&kw2&kC2&M02!prvx<k]1QM4$wZ2$<Fvx<k]14$wZ2$S.vx<k]14$wZ2$kwvx<k]14$wZ2$lOvx<k]14$wZ2$T!vx<k]1
  4$wZ2$Vbvx<k]14$wZ2$Wrvx<k]14$wZ2$kCvx<k]14$wZ2$M0vx<k]14$wZ2$lOvxVb4$T!4$Wr4$]k4$j+2&kw2&kC2&M0
  2!lOvxVbV24$T!4$Wr4$]k2$kwvxTT2&lO2$prvx]k2!kwvxVb]c4$T!4$Wr2$lOvxVb4$T!4$Wr2$prvx]k2&x?2!<kvxQ4
  QM5!VH0zV9ZTdx1!jZ0?[Z|z^[>$2h]>%>g4>h4>k4>l4>m2zd%<czxv2<cAH2!<d2!<f2<cAIzz42z]xzj&2zd&<czxzzxw
  2<_AH2znOzxx2z^]>$2q<vxVbvx]kV2R$4!T!vxVbQM7!V26$]k4&Wr4$]kvxVb6$T!6$Wr2!Vbvx]kvxT!QM7!V22!T!vx]
  kvxwZQM6$<k]12!kwvxT!vxVbV24$VbvxT!6!<k]1QM4$]kvxT!7!V26$Vb6!]kQM7!V22!kCvxT!vxT!QM7!V24!]kvx]kQ
  M2&lOvxT!7!V24!VbvxwZQM4$]kvxWr7!V26!]kQM7!V22!M0vxT!vx<k]1QM4$Wrvx]k7!V22!prvx]kvxT!QM7!V26$]k6
  !wZQM2$<FvxVbvx]k4&]k7!V26!<k]1QM2$S.vx]kvx]k6$wZ6$<k]12$Q;vxWrvx]k7!V22!h0vx]kvxT!QM6$]k2&Z6vxT
  !6$wZ6$<k]14!VbvxVbV27!QM4$Wrvx]k7!V24!]kvxT!QM7!V22$]kvxT!vxVb6$]k6!wZQM4!VbvxT!V26$]k4$WrvxVb6
  $]k~!0x&4$VbvxWr2$TTvx]kvxVb6$]k2&bgvxT!6!<k]1QM4$Vbvx]k7!V26!<k]1QM4$]kvxwZ6$<k]12$wZvx]kvx]k7!
  V22!FQvxWrvxwZQM2&q<vxVb6$<k]14$WrvxwZ6$<k]14$]kvxwZ6$<k]12$Vbvx]kvxwZ4$T!vx<k]14(]k2(kwvxWr2$kC
  vxT!vxwZ2(lOvx2(M0vx2&Z6vxVb4&]k2&wZvxT!4&Vb4&]k2(]kvx2(h0vx2&bgvxT!2!h0vx]kvxT!V22$Z6vxT!vx]k2!
  <Fvx]kvxwZQM2(W6vx2!bgvxVbvxT!V22!]kvxWrvxwZQM2!Z6vxVbvx]kV22!W6vx]kvx]kQM2&Z6vxVb2$bgvxVbvxT!2$
  VbvxT!vxwZ2&T!vxVb2(]kvx2&Q;vx]k2&FQvxT!2!W6vx]kvx]kV22&<FvxVb2&kCvx]k2!kwvxWrvxwZQM2&bgvxVb~!0x
  m2zc~<g~!0z:2kKtXAFzCUnsm4VHR$2(z]GtXAF2$>&2$<Q2$zMh2$zd$2$z^n2$<b2$vH2$kK2kL<bvH2z?*0z_gm40?[Z|
  GP?W?V2zlnv?znI2BUv?z?)0tkzdw++1zdx+)0g[R$Q~twL34!Uk5R?ns4L14l+4Pl]>4!hH4ZTvjZfHR4jZvjZfHX4U7P(~
  !0zr0L2Z|ZTT(2!jZ1!NwrAZT3!jZ1!]!ZT2!jZ1L<]!1Z|ZTT(F[2$jZ1$rAZT2$jZ1$]!ZT2$jZ1!L<]!1M(rLZTT(3!jZ
  0g[R$Q~twszNrZN4P*MI4!P14[M[%4$vP4ZTdx4!jZ4ZTLsHR4$jZ4!ZTrqlR4%jZ4!ZTG^Zf4%jZ4!ZTNw>]4%jZ4$ZT4$j
  Z4!ZTLM4$jZ4$ZTvj4%jZ0zf7Nr0$vj0g[R$Q~twZTnDHR4$jZ0MJdI0!K80!vP0$Nw0MJ[M[%0$K80$vP0mlL31!Uk1R?ns
  ~!0|R1l+1L11hH]>1!Pl1P*MI1ZTdx1!jZ1ZTLsHR1$jZ1!ZTrqlR1%jZ1c5m41>G1A_1g.m41US1Zhm41!SU1!PH~!0|l1j
  <n%1Nkm41!fB1L5Am~!0|v0?[Q4VHR$1q0vxQ4.=1M:VHR$1ptz5+1WNVHR$~!0~!1$Q32!]c1!M9VH2!]c1!WMVH2!]c1!l
  BVH2!]c1!p>VH2!]c1!ZkT,VH2$<kvx]$.=6!QM4!T,.=VH6!QM2!vQvxT,.=VH6!QM2!<kvxT,F[VH6!QM2!wZvxT,.=VH6
  !QM6!V26!]c2!<kVH3!QM2!FQVH3!QM3!V23!]c2!q<]=VH4!QM3!VH3!QM3!V23!]c2!qbVH3!QM3!V23!]c2!VbVH3!QM3
  !V23!]c2!T!VH3!QM3!V23!]c2!WrVH3!QM3!V23!]c2!M5VH3!QM2!qZVH3!QM2!j+VH3!QM2!xAVH3!QM2!kwVH3!QM3!V
  23!]c2!lOVH3!QM3!V23!]c2!kCVH3!QM3!V23!]c2!M0VH3!QM3!V23!]c2!prVH3!QM3!V23!]c2!x?VH3!QM3!V23!]c2
  !<FVH3!QM3!V23!]c2!S.VH3!QM3!V23!]c2!Q;VH3!QM3!V23!]c2!h0VH3!QM3!V23!]c2!W6VH3!QM3!V23!]c2!Z6VH3
  !QM3!V23!]c2!]kVH3!QM3!V23!]c2!bgVH3!QM3!V23!]c2!TTVH3!QM3!V23!]c2!vQVH3!QM2!<k]1VH4!QM2!wZVH3!Q
  M3!V23!]c1!Z|Z6vx<kvx]$.=VH8!QM6!T,.=VH8!QM7!F[VH8!QM5!VH5!QM~!1!h0xLvpbdn4~!1!k0RAPl]>1!hM1c5m4
  1!Nk1!fB1>G1?F1ZTdx1!jZ1A_1g.m41L31US1R?ns1n%1N>xL2cw2sz2r$2R*2QW2mO2l62Om2bI1L11l+1Zhm41!PH1!SU
  1hH]>1L5Am1ZGJPZk),+>1ZTnDHR1j<n%1jZnDHR1Kn.C1[M[%1SR.C1ZGmlZk),+>1ZTLsHR1tw[%1jZLsHR1rA1ZTvjdx1
  $jZ0T*UkR?ns1ZTLMHR1$jZ1UkL31WO^.Nr2Zkv~3ml),4UV4t%4OK4cS4wG4x+4wx4sV1WPggn,]>1WOZk),3UV3t%3OK3c
  S3W,3X)3Xf3WV3XH3kA3m*3p*3kp3mw3pg3r03sV3q73rW3_43b;3c,3_X3bc3Sz3Tg3UC3TG3U&3[z3^)3^k3]Z3^G3wG3x
  +3wx3hU3jD3k63hw3jq3v?3_12v1n,]>2$l&1T=QK2ZkX63nP3X73b<3b=3b>3r73nU3jH3jL3jN3jR3jT3jV3jQ3jI3^33f
  b3nR3fj3mD3nT3Up3Kc3nM3KP3X!3qk3fT3Tk~!1&>3),3.g3wG3wJ3PB3OK~!1&G3w_3wV3cS3v?3vB3cX~!1&O3wx3t%3v
  ^3vW3vl3x+~!1&W3Pb3wn3UV~!1&_0RAK4m41!gJ1!bn1]!1HxEE1w]m41!w&~!1&k0T*z4|Z~tw1ZZA71!tP1!jc1!O%1G^
  nD1vjKh~!1(%0z>P>t>Q2l02qJ0zUEz_IK>0$"

end Haml.CharacterName
