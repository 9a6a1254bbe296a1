/-!
# Names of the characters of the other planes

The names of all characters above `U+FFFF` that have a name of their own, and the further names that
characters of any plane have, in the notation that `Haml.CharacterName.Table` reads.
-/

namespace Haml.CharacterName

/-- The names of the characters above the basic plane. -/
def otherPlanes : String :=
  "~!1(.0[&BVp[Bc),3C+OK3B|UV3CEcS3Bft%3BWM+3C4Mf3BbN03BkNb3C:O43CAVU3C5V^~!1(<3C)Vw3CHW(3CTW,3C3WV
  3CJX)3CMXH3CXXf3CW[z3Bj]Z3CP^)3Bl^G3Bt^k3B__43Bv_X3C!b;3C;bc3C>c,3BZdR3COf.3C,fZ3Bgg33C9gr3Bmh+3
  CUh53Brh63C%h9~!1(X3CDhU3Bzhw3C<jD3BXjq3Bxk63C$kA3Bdkp3C0m*3Bhmw3CBp*3CCpg3B[q73C*r03B]rW3CLsV3C
  =v?3CRvW3C.vl3C1v~~!1(s3Bnx<3CQxH~!1(w3Bqx]3Bw)x3C2*63C[B)3CNO=3Cbz143C7c?3B~gs3CFz[j3CSz^R3C&z^
  S3CKzbB3CIznH3C^sk3Ccsz~!1)22p]Bp+!3Bs3C(3C63C83C?3CG+!3CV3CZ+!3C]3C_~!1)h2UcCd]53Cfw$3CgMm3Chz2
  T3CjzKA3Ckzl*3ClPj3Cmhj3CnzgP3Cpz9F3Cqzjt3CrG|3CsLQ3CtI:3Cvvf3CwEJ3Cxcp3Czzk23C|z(02^QC~zAT3D!zA
  O2UcD$cd3D%vv3D&2^QD(?t3D)zL72UcD*Hz3D+SH3D,3D.w+3D03D13D2U83D3+$2^QD5zsk2UcD6+!3D7L%3D8+!3D9z6$
  3D:A*3D;++3D<^U3D=3D>s$3D?++3DA+!3DBTU3DDz4n3DFE_3DHn83DIA73DJ3DKzmN3DL3DM3DNzzMKA3!DO3DPKAR23DQ
  vg3DR+!2^QDSz*V2UcDT+!3DV+$3DWz(m3DX+&3zwWD44DC+84DE+!4DG+%4DU4DZ~!1+I0.pw,l0[%3Nr1KF]>~!1+P1c5c
  w2sz2r$2R*2QW2mO2l62Om2bI2qC2sq2qr2R&2QG2mU2l82Os2bK2cwUI2!sz2!r$2!R*2!QW2!mO2!l62!Om2!bI2cwq|2!
  sz2!r$2!R*2!QW2!mO2!l62!Om2!bI2!qC2!sq2!qr2!R&2!QG2!mU2!l82!Os2!bK~!1,21v]EQtD2QRzlv2!ks2!qn2!R,
  1!O3][QR1%[.1!][ks2!qn0SV.MB(cwhD4T(4O&3QW3QG3QWUI4q|3!QG3QWznb3!qC3!QG3!cwUI3$QW3!cwq|3$QW4zl63
  !qC3!QG3!cwUI3$QW3!cwq|3$qC3$QG3qC^F2z9[cwzZV2qgcw2!T[2PDsz2!qg2z(4szz0]2$PD2s4QW3qC4>6R$2T[qC2!
  zL>2!qg3qr2s4QG4>6R$2T[QG2!qg3cwUI3!r$2!PDQW2$s42$qg2$Jp2$zON2qgcwq|3!QW2z)ZQW^F2!zlLQG1cwT(m44>
  6R$1szqpm41!r$hE1!wW1!zn_1!O&1!zUI1!szzUJ1$r$1$R*1$QW1!zLD1!zDREQ1!zFv1!zVI1!z|A1!AA1!A11!z7v1!z
  s)EQ1!xL1!cwhD1!zht1!z>:0!zR]~!1.>0!jzzfC1!zv21!zf*1!zg21$z*O1!zhg1!z)]1!z^!1!zf91!z0z1!AF1!z!D0
  ANp]~!1.O0SVp]q1jC~!1010zXWNNm4f43zZ_TH3!znx3JU3KQ3w$3TU3z6)3zqE3A73HE3l[3L)3zK)3zKU3kd3Zx3H23Jf
  g*3z+13z%_3zjG3z%^3FI3ld3U83z:&3I=Z[3Js3hj3ON3N~3zs_3FG3g*s$3v(3zWI3k%3zFW3dLDc3Ql3z7~3zlK3mlBJ3
  vPE<3L2cVp%~!12H0zGrZk),2OK2BV2Fw2RH2M*2UV2v>2x;2qV2VS+!2h*2X~+$2^E2b^2t%2dQ2X92hS+$2sH2>K2P12Sx
  2w9~!12n0J^Zk),2zV[2M*2X~2zvW2hS2zEq2)x2h*2BV2[g2cS2z(L2pf2l;2zg82k?2Ir2t%2b^2w92_12zs>2dQ2nK2UV
  2OK2zv[2W+2zA52zOw2t[2RH2z5h2n]2zl$2_t2Uv2Is2sH2zvX2k02]I2zK^+$2zEr2OL2zvZ~!13]0LKz2Nq~]>2N>cw3s
  z3r$3R*3QW3mO3l63Om3bI2c5qC3sq3qr3R&3QG3mU3l83Os3bK3cwUI3!sz3!r$3!R*3!QW3!mO3!l63!Om3!bI~!14+0cl
  VLZk),3F83WV3Mf3OK3tn3xH3TG3q^3UV3W,3Oz+$3PT3cS3f.3lM3Xf3PL+!3q73t%3z1v3fR3Wx3O]3z2X3KE3Uv3t[3z2
  j2c6cw3QW3qC3QG~!14]2ZkwV3bls?3!n10z7mZk<>2E(2z772z(U2<C2z]F2z>v2z8l2zq$2z1q2zD62zE!2zK12zOL2z?6
  2zvL2zVr2bK2z^b2zdC2zp<2zzZ2z3_2z=m2UL2zVA2bIUI~!1500clfEZk>K3IJ3z5n3Nj3OK3|$D3z193xE3z1:3UV3zCL
  3zF+3zL33_f3zx=3zX)3z_83m53ps3t%3z!z3zgp3zgO3|!:3wf3cS3d!3O]3Sz3zs73zwL3wc3wd3wR3Un3x+3wG3UW0L2c
  lfEZk>K4Nj4xE4_f4m5~!15f0zttZk>02Fp2z5v2Wp2Mt2U&2v~2xM2z;]2qM2x!2W62lc2Z72]q2z*$2c92xb2zd+2<F2gr
  2kD2z]p2z^m2zpc2S.2rW2UV2t%2nZ~!1621w,NT0clfGm4),3UV3t%3W,3Xf3RI3Sd3w:3I~3VU3Vh3pg3sV3M+3N03O43q
  W3dR3D[3Q(3_43c,3[z3^)3^k3wG3tb3t~3hU3k63Z!3kA3x<3l<3nL3Sz~!16^3B13B23B33z|U3z(W3z(X3Dv3IX2w,NT2
  c5cw3sz3qC3sq3UI~!17G0z)mJPZk[EUV4OK4),4<84cS4d!3lsUV4OK4),4<84cS4d!3BK3dK3w53wX3Sx3f53FG3q;3Ml3
  KH3V_3WT3R_3O]3tr3P]3q_3PR3xI3PT3xQ3PL3Oz+$3P63cc3Ph1mlZk[EUV4OK4),4<84cS4d!3lsUV4OK4),4<84cS4d!
  3BK3dK3w53wX3Sx3f53FG3q;3Ml3KH3V_3WT3R_3O]3tr3P]3q_3PR3xI3PT3xQ3PL3Oz+$3P63cc3Ph0zgKZkzX,2rr2zBb
  2Q92zpv2mw2zm62K_2z~O2z;t2G.2z)D2z5m2zxA2zpr2x^2][2z?p2zzd2z8c2zG22zMF2z=k2O^2AO2.b2ct2w+2d>2<82
  zbD2c92OT2<32U]2tI2zUA2zV$2cd2BE2?r2d12<I2PQ2A42OO2UX2z~h0zV>Zk<k2D[2pg2VU2w:2Wp2z)M2hU2kA2zgc2N
  +2K&2RI2Q(2h.2W12zDl2zM<2zSv2vQ2Sz2wG2),2OK2UV2cS2t%2,Q2O[2d!~!19M1N>xL2cw2sz2r$2R*2QW2mO2l62Om2
  bI~!19_0zV<JPZk),3<A3<F3<83HP3K:3Od3OK3Ot3Sz3UQ3UV3W,3Of3Xz3Z!3[z3_43cS3cf3dR3Og3kA3l<3pg3Oh3s<3
  Oj3sB3N+3t%3v?3Wp3S*3x<3xN~!1:71mlZk),3<A3<F3<83HP3K:3Od3OK3Ot3Sz3UQ3UV3W,3Of3Xz3Z!3[z3_43cS3cf3
  dR3Og3kA3l<3pg3Oh3s<3Oj3sB3N+3t%3v?3Wp3S*3x<3xN~!1:d0z1zZk),2F82K.2KE2Mf2_Q2N,2Ok2OK2Q72Rn2S>2TG
  2UV2V^2WV2ZM2zF~2]Z2_X2_42bR2cS2f.2h52hw2k22kp2lM2q72q^2t%2tn2w<2wE2xH2xP2S12z6z2Wx~!1;C0Jw<hZk>
  43Fn3S:3ML3OU3|$(3P|3|$C3znt3K:3|!43xN3z>b3l<3Z<3z>Z3z|B3z153JW3z??3zAV3zGw3z9j3z]L3?53z$G3KO3z(
  +3];3h33zRq3z1=3zg;3z?33ct3zt53z3h3z183KD3f93z7.3hp3zg33zwc3zqd3lw3z>x3z(*3K&3z~L3g$3zC$~!1<42z$
  q]>0zx+JPZk),3En3F83K.3KE3Mf3N,3Ok3OK3Q73RI~!1<B3Sz3Tc3UV3Uw3V^3W,3Z!3[:3]Z3_X3bR3cS3f.3h+3hw~!1
  <R3kp3lM3q73q^3t%3tn3w<~!1<[3wE3xH~!1<_1mlZk),3En3F83K.3KE3Mf3N,3Ok3OK3Q73RI~!1<p3Sz3Tc3UV3Uw3V^
  3W,3Z!3[:3]Z3_X3bR3cS3f.3h+3hw~!1=)3kp3lM3q73q^3t%3tn3w<~!1=33wE3xH~!1>)0[&),m4,k+.3,l3,m+!3,n+!
  3,p3,q3,r3,s3,t3,v3,w3,x3,z+$3)B3,|+$3,~3.!+&3.$+*3.%++3.&+$3.(+!3.)+!3.*+)3.++$3)Z3.,3..3)q3.0+
  !3.1+!3)t3.23.33.43.53.63*8+*3*9+$3*:+$3*;+$3*<+c3*U3*V3*W3*X3*Z3*[3*]3*^3*_3*b3*d3*h3*j3*k3*l3*
  m3*n3*p3*q3*w+(3*x+(3*z+!3*|+!3*~+,3,!++3,$3,%+.3,&3,(+%3,)+:3,*+!3,++$3,,3,.+&3,03,1+53,2+%3,33
  ,4+!3,53,6+&3,7+!3,8+2~!1C73,9),3,:BV3,;M*3,<OK3,=Q&3,>Sx3,?VS3,AW+3,BX~3,CzDd3,DzDf3,EzDg3,FzDh
  3,Gv>3,Hw93,IwE3,Jcr3,K.:3,LEg3,Mz)!3,Nz3=3,OV^~!1CX3,P+*~!1D(0^IZkmlJP,Q2pFs+L13$T(2ml.g3JPBV3B
  VvxU3~!1D13OANB5vxj9U36Lq3N*NB3M*vxpt5U36>Spt3j=OK3!L!j=d(3Q?NB3hkU83JPRH3RHvxU33%JP3Sxvxp%3JPSx
  3TWvxU33!NsVSvxp%>S3[SNB3![f3X~vxF]3%JP3!X~vxj9U3>S3Zp4vxj9U33sdwE5vxF]3cSvxp%3JPcX3L!cr3h*3sdhS
  vx[EZ[8>Sj9U33hSvxpt5QT3JPhS3q4NBvxLq3s;NB5vxj9U33qKNB3pfvxj9U33!t_vxjZ~!1D_3JPwE2SDnsvxp%2&j=2G
  <Kv2!Mz2!ZF2!>;2j9Kvvxj9U32mlk?vxLq~!1Eb0z(1p[),2OK2UV2cS2t%2VU~!1El2Vw~!1En2W,2WV2X)2XH2Xf2Z!2Z
  M2Zw2[<2[T2[z2]Z2^)2^G2^k2_42_X2b;2bc2c,2dR2f.2fZ2g32gr2hU2hw2jD2jq2k62kA2kp2m*2mw2p*2pg2q72r02r
  W2sV2v?2vW2vl2v~~!1FH2w:2w<~!1FM2x<~!1FP2x]0z>,?jZk<m3Fq3S;3M83TG3vQ3xF3T_3qP3x$3WB3Z:3]q3c93kR3
  BP3f.3kE3h<3j53lc3q3~!1Fn2ktm42c5cw3sz3r$3qC3sq3cwUI4q|3!qC0zW!Zk<m2Fq2S;2M82TG2vQ2xF2T_2qP2x$2W
  B2Z:2]q2QMc92!2kR2BP2f.2kE2h<2j52lc2q31ZVQ_1!j]1c5cw2sz2r$2R*2QW2qC2sq0zO6ZkQM<m2!2QMFq2!2S;2M82
  QMTG2!2vQ2xF2T_2qP2QMx$2!2QMWB2!2QMZ:2!2QM]q2!2QMc92!2kR2BP2f.2kE2h<2j52QMlc2!2q3~!1Gr1c5cw2sz2r
  $2R*1$z&_1c5QW2qC2sq2cwUI~!1HW0z9:Zk<m2Fq2S;2z(b2TG2vQ2xG2T_2qP2x$2WB2Z:2]q2c92kR2BR2f.2kE2h<~!1
  Hr2lc2q3~!1H|1c5cw2QW2qC2sq2cwUI0zXpZk<q2Fn2z5t2z)[2TG2vL2|!w2T^2qM2x!2W62zET2]q2c92zf(2<F2f.2kD
  2h:2zbS2lc2q11c5cw2qC2sq2cwUI2sz2r$~!1II1w,l00zGsZk),+!2RH2M*+!2t_2UV2wE2W++&2hS2nK2pf+!2Q&2h*2k
  ?2sH2>K2P12[c2b^2Iq~!1Ip1s+]>~!1J_0zL:z:*Zk),3OK3UV3cS3wG3v?3D[3D]3dR3[z3_43zO23_X3zP>3hU3z^P3Z!
  3Wp3Tc3kA3zcd3kp3W,3h+3pg3znF3q73zp,3rW3M+2p]zwk3zwl1z&tZk),3OK3UV3cS3wG3v?3D[3dR3[z3_43_X3hU3Z!
  3Wp3Tc3kA3!?m3kp3W,3h+3pg3q73rW3M+~!1KL2R0P%sl3cwT(2[Czb?3z>)2c5cw3sz3r$3R*3QW3mO3l63Om3bI3qC3sq
  3qr3R&3QG3mU3l8~!1Kg3cwUI3!sz3!r$3!R*3!QW3!mO3!l63!Om3!bI3cwq|3!sz3!r$3!R*3!QW3!mO3!l63!Om3!bI3!
  qC3!sq3!qr3!R&3!QG3!mU3!l83!Os3!bK3!cwUI3$sz3$r$3$R*3$QW3$mO3$l63$Om3$bI2R0cwzsx3szsl3!r$3!R*3!Q
  W3!mO3!l63!Om3!bI3!qC0zBEZk),1v7m4UV3t%3v0hS~!1LH3OK3cS~!1LO2Zb]>1m4NwjfF[2?22v+1ZkW,2Wp2RI2S*~!
  1LX2I~2K:2VU~!1L^2cB2sI2sN2MR2M[2b_2pg2qW2M+2N+2_42dR2fN2D[2Fx2[z2wG2hU2Z!2tb2l<2nL2kA2x<2Sz2X:2
  zsM2sU2zwf~!1M+1m4EE.=2Jx2NrF[~!1M41v*1N>cw2sz2r$2R*1c5qC2sq2cwUI3q|1R0cwT(~!1MF1gwNr2mlKh2!2LTE
  E2zK,2[K2M;2!Nw2[(~!1MV0cln0?ZZkTG4Z:4T_4]q4h<4vQ4lc4j54Fq4q34kb4WB4c94zBH4kE4kR4Q74<k4BR4z*!4S;
  4M84z7!4qP4xG4z*&4x$4zpf4zpp3c5cw4QG3c8V*1bk?ZZkTT4Z64T!4]k4h04vQ4z2[4j+4FQ4q<4z2Z4W64bg4Wr4kC4z
  2]4Q;4<k4<F4M04z6<4M54S.4pr4xA4qZ4wZ4qb4x?3c5cw4qC4sq~!1Np0zK0Zk<m2Fq2G&2S;2z712M82TG2vQ1m4t,1Zk
  xF2|$>2z?22z?=2T_2qP2x$2WB2z|<2Wv2Z:2z*(2zpb2]q2c92kR2BP2,g2f.2Q72kE2h<2z|Q2z]W2j52lc2zkg2q31.;]
  >.=3F[~!1OG1c5cw2QW2qC2sq2cwUI1gwnc2Q_2NwNrvzNr2%32szNt2[%QK~!1O^0B?Zk),2,Q2?42,^2>K2,[2.g2.l2OK
  2O[2cS2d!2UV2Uv2t%2t[2WV2w<2wD2z|Z2Rn2S!2S12K.2V^2q72q^2Mf2N,2sK2f.2Q72F82G$2_z2zQF2zQE2_X2cE2zR
  K2]Z2z:g2|![2wV2tn2hw2ZM2kp2xH2lM2xP2zhN2zkf2TG~!1PH1.;]>0rFszNtdCcwNrgw0(mlsz0(ZAsz1!cwNrdCszNt
  1!szjgdCcwjf1!cwjfdCszjg0z>HzWTZk<m3Fq3S;3M83TG3vQ3xF3T_3qP3x$3WB3Z:3]q3c93kR3BP3f.3kE3h<3j53lc3
  q3~!1Pm2c5cw3sz3r$3R*3qC3sq3cwUI4q|1dZZk<m3Fq3S;3M83TG3vR3xF3T_3qP3x$3WB3Z:3]r3c93kR3f.3kE3lc3q3
  ~!1Q92c5cw3sz3r$3R*3qC3sq3cwUI4q|0z[cdZZk<m3Fq3S;3M83TG3vR3xF3T_3x$3WB3Z:3]r3c93kR3f.3kE3lc3q3~!
  1Q]2kt]>2$sd2R*NtvxLX5Nr~!1Qr2c5cw3sz3r$3R*3qC3sq3cwUI~!1S$0clzshZkd6),3!w^4.g3d6UV3!w^4OK3d6cS4
  cX3!w^3d6,j3!w^3d6.h3!w^3d6<03!w^3d6.n3!w^3d6.S3!w^3d6.j4P~3!w^3d6BK3!w^3d6<$3!w^3d6.q3!w^3d6zUX
  3!w^3d6<V3!w^3d6.r4z2+4P*4>K4.t3!w^3d6P:3!w^3d6P23!w^3d6PA3!w^4>U3d6P63w^.v3d6PC4d&4U[4OV3!w^3d6
  ?Q3!w^3d6VC3!w^3d6d03!w^3d6?U3!w^3d6.w4AF4.z4AO3!w^3d6PT3!w^3d6Am3!w^3d6<!3!w^3d6d94ET~!1T]1z;vJ
  PZk),4,Q4OU4>A4OV4P24OX4OZ4>S4OK4!K~4O[+$4O_4Oc4UV4Uv4Ov+!4<O4tF4Oz4P)4P*+!4PA4cS4d!4bFcX4!k84cZ
  4PC4P,4PL4!ls4PR4PV4PW4P:4P_4OW4t%4t[4bFt04!k84Pf4P~4Q%4P;m44tV~!1UN2mlZk),4,Q4OU4>A4OV4P24OX4OZ
  4>S4OK4!K~4O[+$4O_4Oc4UV4Uv4Ov+!4<O4tF4Oz4P)4P*+!4PA4cS4d!4bFcX4!k84cZ4PC4P,4PL4!ls4PR4PV4PW4P:4
  P_4OW4t%4t[4bFt04!k84Pf4P~4Q%4P;m44tV~!1V:2c5cw3QW3qC3QG3cwUI4q|0z9*jvZk),3D[3dR3pg3sI3VU3I~3Sz3
  Wp3Q(3M+3MR3hU3k13x<3kA3l<3W,3RI3Z!3[z3_43v?3!X.3wG3!X.3_v3cB3tb2v7),3UV3t%3OK3cS2]>zcv3_4zBO2m4
  z913znU3znf3znw~!1Vz2N>xL3cw3sz3r$3R*3QW3mO3l63Om3bI~!1[t0zc.N>cw2sz2r$2R*2QW2mO2l62Om2bI1c5qC2s
  q2qr2R&2QG2mU2l82Os2bK2cwUI2!sz2!r$2!R*2!QW2!mO2!l62!Om2!bI1R0cwT(3hD3qn2szqp~!1]?0z~kZkz2(2F82f
  .2fR2q^2kp2Kf2z$12z$&2Tc2w:2M52xB2hU2jB2x<2VU2m>2lc2kC2M02pg2xH2P|2z|D2Q(2tb3>6R$2h02W62zB>2RO2Z
  62^=2c92t:2vQ2dK2Ph2z9>2x(2PW~!1]r1L2T,]>2!]$1!UT~!1]x1ZkZ6vxNr.=2!x(vxKn~!1^~0cln!Zk<m3!QM3Fq3!
  QM3S;3TG3!QM3vQ3xF3T_3x$3WB3Z:3]q3c93!QM5vxtwpt3kR3BP3!>63f.3kE3!QM5vxtwpt3z_N3lc3q33!QM5vxtwpt2
  c5cw3sz3r$3R*3QW3qC3sq3qr3cwUI2R0cwT(2Z|BQ~!1_V0n!Zk<m2Fq2S;2TG2vQ2xF2T_2x$2WB2Z:2]q2c92kR2BP2f.
  2kE2z_M2lc2q32z4,2Zg1V&lc1L2NrF[2!szNt2Nr.=2!szNt2!Lw3F[2U3.=3F[2$[E2!j52!p%1c5cw2qC2sq2cwUI1gws
  ztwEP5vxNt2KhvxNr2szKkvxNt2T(KhvxNr~!1bI0clzvcZk<m3Fq3z7A3vQ3xF3QMT_3x$3WB3Z:3]q3c93kR3f.3kE3j53
  lc3q33Zg2L2Nr.=4F[3szNt.=5F[2gwEE3szEP4Nt3!R*~!1c;0z$DZk<m2!ml2Fq2S;2M82TG2vQ2!z&q2xF2T_2x$2WB2Z
  :2]q2c92kR2BP2f.2j52lc2q31c5cw2sz2r$2R*2qC2sq2cwUI~!1cs0z2,Zk<m2Fq2S;2M82TG2vQ2xF2T_2qP2x$2WB2Z:
  2]q2c92kR2BP2f.2kE2h<2j52lc2q31Z||$.~!1d>0HUm4JG2?22v+2Vj2tK1Zk),2,Q2UV2Uv2t%2t[2v0hS3k03X~3[92O
  K2<A2cS2B)2W,2Wp2RI2S*2_v2I~2K:2VU2Vd2cB2sI2sN2MR2M[2b_2pg2qW2M+2N+2_42dR2fN2D[2Fx2[z2wG2hU2Z!2t
  b2l<2nL2kA2Sz2[:2clq![;4k14bb1v7m4,Q3!G!3UV3Uv3t%3t[3v0hS4k04X~4[93OK3<A3cS3B)1v*1M;1!Nw1gwNr2!N
  w2[%2LTEE2[K~!1fD1c5cw2sz2r$2R*2QW2mO2l62Om2bI2qC2sq2qr2R&2QG2mU2l82Os2bK2cwUI3q|1N>xL2cw2sz2r$2
  R*2QW2mO2l62Om2bI1m4clq!v*1Zkclq!lsOK5cS1v7m4clq!lsOK6cS1Zkclq![:~!1fz1c5V|0zAHm4JG2?22v+1Zk),2,
  Q2UV2Uv2t%2t[2OK2<A2cS2B)2W,2Wp2RI2S*2_v2I~2K:2VU2Vd2cB2sI2sN2MR2MX2M[2jB2b_2pg2qW2M+2N+2_42dR2f
  N2D[2Fx2[z2wG2hU2Z!2tb2l<2nL2kA2Sz1v7m4,Q3UV3Uv3t%3t[3OK3<A3cS3B)1m4v*2c31.;m41!z2D1!c51kt]>1$Nw
  1M;1!Nw1v7m4v0hS~!1g|1c5m4.=~!1h$0zjnzjfZkkI3pr3D~3J03z(V3RP3]+3zPS3zE$3_<3td3zVn3wK3z^Z3T!3W73z
  ?&3zT)3<83z1d3Ut3t33c_3Oc3]&~!1hH2N>xL3cw3sz3r$3R*3QW3mO3l63Om3bI~!1hX0z!Um4JG2?22v+1Zk,Q2UV2t%2
  OK2W02Wq2RK2S+2_w2J!2K;2VV2z?;2cC2sJ2sO2MS2M]2zRI2ph2qX2M,2z)|2_62dS2fO2D^2Fz2[|2|!Z2wI2hV2Z$2vA
  2kB2S|1v7m4),3UV3Uv3t%3t[3OK3<A3cS3B)3cc1cS]>1!B)1v*1zJU~!1jA1N>xL2cw2sz2r$2R*2QW2mO2l62Om2bI1kt
  ]>1M;1!Nw1hH]>1ZkZs1v7m4,Q3Ok1Zktc~!1j]0zJmZk),2UV2t%2OK2cS2W,2Wp2RI2S*2I~2K:2VU2Vd2cB2sI2sN2MR2
  M[2b_2pg2qW2M+2N+2_42dR2fN2D[2Fx2[z2hU2Z!2tb2kA2Sz2k11m4c31.;m41kt]>1Z|lx~!1k=0zgHm4JG2?22v+1Zk)
  ,2,Q2UV2Uv2t%2t[2v0hS3k03X~3[92OK2<A2cS2B)2W,2Wp2RI2S*2_v2I~2K:2VU2Vd2cB2sI2sN2MR2M[2b_2pg2qW2M+
  2N+2_42dR2fN2D[2Fx2[z2wG2hU2Z!2[:2tb2l<2nL2kA2Sz1v7m4,Q3UV3Uv3t%3t[3v0hS4k04X~4[93OK3<A3cS3B)1m4
  v*2B<2Vj2tK1cq1M;1!Nw1.;m41l01kV]>1m4c31v7^I]>1!z36lsv71!zm<1v7m4gbOK1m4V=JG1N>xL2cw2sz2r$2R*2QW
  2mO2l62Om2bI1z1s1m4m,1TK1z&.m41kt]?+!~!1lR0mB?mN>cw3sz3r$3R*3QW3mO3l63Om3bI2c5qC3sq3qr3R&3QG3mU3
  l83Os3bK3cwUI4q|~!1lz0zBLZk),2,Q2UV2t%2OK2<A2cS2B)2W,2Wp2RI2R~2S*2_v2I~2K:2VU2Vm~!1m62cB2sI2sN2M
  R2M[2b_2pg2qW2M+2MW2N+2_42dR2fN2D[2Eh2Fx2[z2wG2hU2Z!2tb2kA2Sz2[:1v7m4,Q3UV3Uv3t%3OK3<A3cS3B)1m4?
  22v*2c32lB1M;1!Nw1w,l01kt]>1$Nw1.;m41m4p>~!1nW0zNKZk),2UV2t%2OK2W,2Wp2RI~!1nc2S*~!1nf2I~2K:2VU2V
  m~!1nl2cB2sI2sN2MR2MW2M[2b_2pg2qW2M+2N+2_42dR2fN2D[~!1p%2Fx2[z2wG2hU2Z!2tb2kA2Sz2k12jB1kt]>~!1p9
  0zBUZk),2,Q2UV2Uv2t%2t[2OK2<A2cS2B)2W,2Wp2RI2R~2S*2_v2I~2K:2VU2Vm2Vd2cB2sI2sN2MR2MW2k12M[2b_2pg2
  qW2M+2N+2_42dR2fN2D[2Eh2Fx2[z2wG2hU2Z!2tb2l<2kA2Sz1m4?21v7m4,Q3UV3Uv3t%3t[3OK3<A3cS3B)1m4c32v*~!
  1q*1N>xL2cw2sz2r$2R*2QW2mO2l62Om2bI~!1q<0SPm4L2?2.=2JG2?22v+~!1qB1Zk),2,Q2UV2Uv2t%2t[2v0hS3X~~!1
  qL2O[2<A~!1qP2d!2B)2W,2Wp2RI2S*2_v2I~2K:2VU2Vd2cB2sI2sN2MR2M[2b_2pg2qW2M+2N+2_4~!1qm2dR2fN2D[2Fx
  2[z2wG2hU~!1qw2Z!2[:~!1q|2tb2l<2nL2kA2Sz~!1r(0L2GDF[0SPm4c32B<1v7m4,Q3UV3Uv3t%3t[3v0hS4k0~!1r63O
  [3<A~!1r:3d!3B)1m4v*~!1r?1cq~!1rG1B)Zb]>~!1rM1m4g01Zktq?23!Nw2v0k03[91v7m4v0X~4[9~!1rV0L2SPN>xL3
  cw3sz3r$3R*3QW3mO~!1rd2Zk),3W,3_43t~3dR~!1tV0zPOZk),2,Q2UV2Uv2t%2t[2v0hS3k03X~3[92OK2<A2cS2B)2W,
  2Wp2RI2S*2_v2b.2I~2K:2VU2Vd2cB2cI2sI2sN2MR2M[2b_2pg2qW2M+2N+2_42b:2dR2fN2D[2Fx2[z2^(2wG2hU2jB2Z!
  2Zr2v?2l<2nL2kA2Sz1v7m4,Q3UV3Uv3t%3t[3v0hS4k04X~4[93OK3<A3cS3B)1m4v*2JG2?22v+2c32B<2QM?21cq1zhX1
  M;1!Nw1L31RXQK1.;m41N>xL2cw2sz2r$2R*2QW2mO2l62Om2bI1NwL31g(]>~!1vl1V4m41kV]>1Zktq?21m4Vj2tK~!1w;
  0zq]>p1Zk),2,Q2UV2Uv2t%2t[2v0hS3k03X~3[92OK2<A2cS2B)2W,2Wp2RI2S*2_v2I~2K:2VU2Vd2cB2sI2sN2MR2M[2b
  _2pg2qW2M+2N+2_42dR2fN2D[2Fx2[z2wG2hU2Z!2tb2l<2nL2kA2Sz1v7m4,Q3UV3Uv3t%3t[3v0hS4k04X~4[93OK3!ls3
  <A3cS3!ls3B)1m4JG2?22v+2v*2c32B<1z8K1.;m41cq~!1x>1N>xL2cw2sz2r$2R*2QW2mO2l62Om2bI~!1|U0m,Zk),2,Q
  2UV2Uv2t%2t[2v0hS3k03X~3[92OK2<A2cS2B)2W,2Wp2RI2S*2_v2I~2K:2VU2Vd2cB2sI2sN2MR2M[2b_2pg2qW2M+2N+2
  _42dR2fN2D[2Fx2[z2wG2hU2Z!2tb2l<2nL2kA2Sz1v7m4,Q3UV3Uv3t%3t[3v0hS4k0~!1~?3OK3<A3cS3B)1m4JG2?22v+
  2v*2c32m,1M;1!Nw1l0Nr2EE1j4]?+$1P5c[qU]>1kt]>vxs.>St&zV86NvLU4%hs7!Nw7!s13Nwjf5vxhs3vxNwLU4!s14!
  hC4!zf34Kk>Shs6szz266!R*1Zkzq*>6UV2$s|4Uv2>6t%1$v7m44t[~!2!:0zMdZk),2,Q2UV2Uv2t%2t[2v0hS3k03X~3[
  92OK2<A2cS2B)2W,2Wp2RI2S*2_v2I~2K:2VU2Vd2cB2sI2sN2MR2M[2b_2pg2qW2M+2N+2_42dR2fN2D[2Fx2[z2wG2hU2Z
  !2tb2l<2nL2kA2Sz2[:1v7m4,Q3UV3Uv3t%3t[3v0hS4k04X~4[93OK3<A3cS3B)1m4?22v+2v*2?p1M;1!Nw1.;m41m4z<&
  ~!2$=1N>xL2cw2sz2r$2R*2QW2mO2l62Om2bI~!2$N0^MGJvxd71k&GJ1NwGJvxd71%s11!GJvxNw1!k&GJvx4!Nw1V=GJ3v
  xNwd71pXGJ3vxd74!Nw1(sd~!2$v0zn^Zk),2,Q2UV2Uv2t%2t[2OK2<A2cS2B)2W,2Wp2RI2S*2_v2I~2K:2VU2Vd2cB2sI
  2sN2MR2M[2b_2pg2qW2M+2N+2_42dR2fN2D[2Fx2[z2wG2hU2Z!2tb2l<2kA2Sz2k11m4?22v+1v7m4,Q3UV3Uv3t%3t[3OK
  3<A3cS3B)1m4v*2c31Zk?mWp1.;m4~!2%f1N>xL2cw2sz2r$2R*2QW2mO2l62Om2bI~!2&T0<=ZkW,2Wp2_v2_42pg2!>62d
  R2fN2D[2[z2VU2K:2qW2hU2Z!2kA2cB2Sz2),2M+2N+2RI2!>62S*2Fx2Vd2>6D[~!2&z1L=m4]cZ!4hU4!zFR1v7m4),3,Q
  3UV3Uv3t%3t[3OK3BB3cS3<A3><1m4zBn~!2(61N>xL2cw2sz2r$2R*2QW2mO2l62Om2bI1c5qC2sq1m4mlkt2!2zc)1p]t~
  1ZkI~2sI2sN2MR2M[2b_2[:~!2*t0z++Zk),2,Q2UV2Uv2t%2t[2OK2<A2cS2B)2W,2Wp2RI2S*2_v2I~2K:2VU2Vd2cB2sI
  2sN2MR2M[2b_2pg2qW2M+2N+2_42dR2fN2D[2Fx2[z2wG2hU2Z!2tb2l<2nL2kA2Sz2k11v7m4,Q3UV3Uv3t%3t[3v0hS4k0
  3OK3<A3cS3B)1m4?22v+2v*2c31.;m4~!2,~0zz2z$rJPZk_w4),4vl4x+4wG4wx4Uv4t[4OK4cS4>U4RI4XH4PA4x14t+4P
  84cW4sK4c:4M+4Am4><4I*4gr4Tz4U.4U:4T?4n[4m54v,2mlZk_w4),4vl4x+4wG4wx4Uv4t[4OK4cS4>U4RI4XH4PA4x14
  t+4P84cW4sK4c:4M+4Am4><4I*4gr4Tz4U.4U:4T?4n[4m54v,2N>xL3cw3sz3r$3R*3QW3mO3l63Om3bI2c5qC3sq3qr3R&
  3QG3mU3l83Os3bK~!2072cq0z*k<UZk),3,Q3UV3Uv3t%3t[3OK~!20B3cS~!20E3W,3Wp3RI3S*3_v3I~3K:3VU~!20N3cB
  3sI~!20Q3MR3M[3b_3pg3qW3M+3N+3_43dR3fN3D[3Fx3[z3wG3x:3hU3Z!3tb3l<3nL3kA3Sz3[:3x<2v7m4,Q4UV4Uv4t%
  4t[4OK~!20x4<A4cS~!21!2m4?23JG3T&2v*2gW_Em42]cwG2V2hU2!]c2m4c32NwM;2RXQK2P5c[qU]>~!21;2N>xL3cw3s
  z3r$3R*3QW3mO3l63Om3bI~!22>0zO?Zk),2,Q2UV2Uv2t%2t[2v0hS3k0~!22I2OK2<A2cS2B)2W,2Wp2RI2S*2_v2I~2K:
  2VU2Vd2cB2sI2sN2MR2M[2b_2pg2qW2M+2N+2_42dR2fN2D[2Fx2[z2wG2hU2Z!2tb2l<2nL2kA2Sz2[:2k11v7m4,Q3UV3U
  v3t%3t[3v0hS4k0~!23)3OK3<A3cS3B)1m4?22v+2v*2B<2m,1TK1v7m4gbOK~!23R0|!~nDZk),2v7m4UV4t04t%4OK4cX4
  cS4<A4B)4j=UV3Zb]>2ZkW,3Wp3RI3S*3_v3I~3K:3VU3cB3sI3sN3MR3M[3b_3pg3qW3M+3N+3_43dR3fN3D[3Fx3[z3s<3
  sB3OB3OF3xN3x<3)!3wG3hU3Z!3tb3l<3nL3kA3Sz3Xd2QML=]>2m4v*3JG4vxd73$JF3?23v+2L*ZkhU2z%7ZkwG4hU4Z!4
  tb2V2TH]>2$L$2]>sD3lA3!Nw3[EsD2V2z0UTH]>2%L$2p0~!24U0zjzZk),1v7m4UV3t03t%3OK3cS3cX3<A3B)3v0hS4X~
  2Zb]>1ZkW,2Wp2RI2S*2_v2I~2K:2VU2Vd2cB2sI2sN2MR2M[2b_2pg2qW2M+2N+2_42dR2fN2D[2Fx2[z2s<2sB2OB2xN2x
  <2)!2wG2hU2Z!2tb2l<2nL2kA2Sz2Xd1m4Vj2tK1L*ZkhU3Z!3l<3kA1QML=m4RH4W+4_t4M*4_14BV4[g4hS4X~4l;4k?4)
  !1m4?22v+1Rr]>1p01]>sD2lA2!Nw2g01TH]>vx^W>SpB>Ss1z4P8!71zpK]?+!~!25n0JApZzOGTg3Tn3U&3U23Sz3S|3lx
  3zh13zh33zh43zh.3zh02zk)2zk12zk:2n30zWnz$jTEZkdR4W,4Z!4[z4M+4x<4tb4_v4Sz4RI4Wp4kA4D[4I~4pg4qW4_4
  4fN4hU4Q(4K:4),4OK4UV4cS4t%4t)4UW4QMdQ5W+5pf5[g+!5X~5v>5_t5wE3jjr][E53kVSDns3jjr][EQM5!3!kVSDns4
  r][E55[EQM5!3^,r]3SDnstj3^,r][EQM5!3[Or][E53SDns3[Or][EQM5!3!SDns~!2:60F|Zk),2,Q2UV2Uv2t%2t[2v0h
  S3k03X~~!2:A2OK2<A2cS2B)2W,2Wp2RI2S*2_v2I~2K:2VU2Vd2cB2sI2sN2MR2M[2b_2pg2qW2M+2N+2_42dR2fN2D[2Fx
  2[z2wG2hU2Z!2tb2l<2nL2kA2Sz1v7m4,Q3UV3Uv3t%3t[3v0hS4k04X~~!2:w3OK3<A3cS3B)1m4JG2?22v+2v*2B<1M;1!
  Nw1w,l01RXz49+!~!2;91N>xL2cw2sz2r$2R*2QW2mO2l62Om2bI1c5cw2sz2r$2R*2QW2mO2l62Om2bI2qC2sq2qr2R&2QG
  2mU2l82Os2bK1UJtD]>~!2;[0!zK?TH1]>lA1ZkW,2Wp2RI2_v2I~2K:2VU2cB2pg2qW2M+2_42dR2fN2D[2[z2s<2sB2OB2
  v?2xN2x<2)!2wG2hU2Z!2l<2kA2Sz2),~!2<,1p.ZkW,3Wp3RI3_v3I~3K:3VU3cB3pg3qW3M+3_43dR3fN3D[3[z3s<3sB3
  OB3v?3xN3x<~!2<F3wG3hU3Z!3l<3kA3Sz3),1v7m4,Q3UV3t%3OK3cS1m4?22JG~!2=P0zKJSIZk),3,Q3UV3Uv3t%3t[3O
  K~!2=X3<A3cS~!2=]3B)3W,3Wp3RI3S*3_v3I~3K:3VU3Vd3cB3sI3sN3MR3M[3b_3pg3qW3M+3N+3_43dR3fN3D[3Fx3[z3
  wG3hU3Z!3tb3l<3nL3kA3Sz3[:3Xd3Vv3rw2v7m4,Q4UV4Uv4t%4t[4v0hS~!2><4OK~!2>>4<A4cS~!2>B4B)2m4?23v+3c
  33JF3T&2v*2z_H2z^Q~!2>S2N>xL3cw3sz3r$3R*3QW3mO3l63Om3bI~!2>h0z8<SIZk),3,Q3UV3Uv3t%3t[~!2>q3O[3<A
  ~!2>t3d!3B)3wG3tb3D[3Fx3[z3W,3Wp3pg3qW3Z!3RI3S*3M+3N+3_43I~3K:3sI3sN3[:3VU3Vd3MR3M[3_v3dR3fN3Sz3
  hU3kA2v7m4,Q4UV4Uv4t%4t[~!2?F4O[4<A~!2?I4d!4B)2m4?23v+2v*2cq~!2?V2N>xL3cw3sz3r$3R*3QW3mO3l63Om3b
  I~!2Dg0zK!ZkW,2RI2_v2dR2D[2[z2pg2M+2_42I~2VU2cB2wG2hU2Z!2tb2kA2),1>Z1v7m4UV3t%3OK3cS1zW_1P5c[kt~
  !2GK0[2Zkz~m~!2G]0q!R0cwzq.3cx3z1p3mV3R%3qs2r$Or3zj22cwsn3zj1+!3qH3Op2r$sp3mR2cwQF3hD3z8t+!2r$hE
  2z0XQ,zBl1m4_c2z!O2,h2zvg2zNh2zD32zWk2zNI2zA;2zW02gA2zw;2zVb2zD:2zwJ1zzHz&jm41$O31!zEU1!kMdh1!zr
  GLS2!c51!Lv1!>ScW1!zk.1!rs1!V$gE1!zl4R71m4zNf2zw5~!2HM1gwP5c[qU0Llm4),3rE),4Dn4RVqI4Sz4Us4Z+Sl4^
  w4kH2)x2,j3rEAP4O9Sl4RQ4RVqI4Sz4UsSl4U~4Z*4lS4t%g.t%g.t%3Sl2.73rEE*4RVqI4]Zg.P14l=4pw2.S2<O3rEPP
  4lhg.S=2<V3rE<V4ND4S=4Sz4W54X)4lM4tZ2<[2<m2>?3rElM2>K3dC>K3r$rE3g._;d+>Kg._;5nE2>z2?<2?^3rEXl2A$
  2AJ2AO3xWqI3!W33dCAOsXdCsXsXdCsXdm5dCAO7L_AOdCAOdCAO2AP2AT2D[2Dn2Dt2E!2E)3dCE)2E*2EE2EF2G,3rE),4
  RZ4UsSl2I*3dCI*,j5t=3L_I*2I?3dCI?2IJ2IK2M+2M13X2rE),g.]C5>?5E*5G,5RI6g.]C5S75S<5Sh5Sz5VD6g.[T5W9
  5Z!5[T6g.]D5[^5_X5dmg.dm5m*5pw5t(g.S<5tZ2z(c2ME2MF+!2N02N72NC3rElM2ND2NF3WLt%SlNO2!2O43dCO43Sl3l
  T2O53rEPU2z0k2O62z0n2z0p2O82O93Sl4Sl2z0s2z0~2OK3rEdm3dCOKc9dCc92OL3rE),g.Szg.M+4RZ4^)4kJ4lM4t%2z
  1_2z1k2Oz2P13rERV5qI4]Z3L_P13!d+3nE2PO2PP2PU2Q!3rE),5g.Z57rEZ54>K4Dn4O9Sl6Sl4Sz5Sl4!Us4WL5nE4Xg4
  Z!4Z5rEZ54Zw4[T4t(4t,2RI3Sl2RJ3rE),g.M+g.Sz6!6Us4.7qIg.pk4>K4AO4APg.RQ4Dn4EEg.hU4IJ5g.hU4M+4N04N
  CrElM4O54Oz5g.Z!4P15rERVqI4$4RZ4S74S85g.),4S<g.p*4Szg.[Tg.PU4T%5g.Z!4Tgg.Zw4UD4UsSl4VGg.UCg.AO4W
  94WL4X*5g.Z54Xgg.>K4Z!4]Zg.P14^)4c95dCc94dR4kJ4k[4lM5g.s_4lZ4p?4pw4t%4t,5g.O43dCRJ2RL3L_RL2RM3dC
  RMRZdCRZ2RQ3RMdCRMRZdCRZ2z5p2z5q+!2RV3qI3dCRV3!L_2RZ2z5|2z6&2R|3rEXl2S73rEOK4t%3L_S72S83dCS83!L_
  2z782S<3Sl2z7D3rE),g.Us4RVqI4Us4![Tg.4dR2z7I2S=3L_S=3rEDn4pw3qI2Sd3L_Sd2Sf3rEW95rEUsSl4c94kJg.sX
  3Sl2Sh3rE),g.Xl4!3dCSh[X2Sk+!3rElM2Sm2Sn2z8F2z8G2Sz3qI3Sl2T%2Tg3rEAO4AP4Dn4NO4RM4X+4c94lM4t%2UC2
  UD3rE>K4T%4WL4[14t,2z;s2UV3),2UZ2Ul3dCUlIJ5nE2Ur2Us3N73jD3dCUslgdClgt,dCt,3Sl2z=r3rERVqI2z=s2Uz3
  rEpw3L_Uz3!d+3nE2U~2V$2VD2VG2W,3rE),4.S5g.Xg4AP4Dn4E*4EE4G,4PP4PU4RI4RQ4RVqI4RZ5g.l=g.),4S74S<4S
  =g.k[5L_S=4Sd4Sn4Us4Uz4W94X)4X*4Zw4[T4]Z5g.O46S76q74^)5g.c;4_X4c94fZ4k64kA4k[4l<4lM4lZ4m!4m14p;4
  q+4t%4t(4t,4t<rEdR4tZ4xV2W.3L_W.2W22W4+%3dCzAD2W93rEUsSl2W;3rEDn3L_W;2zAL2zAM2WL3Z*rEt%dCZ*rEt%3
  (dCWLZ*rE2Wd2X)3rEDn4t%4t,2X*2X+2zBz2zB|2X23dCX22Xf3dCTgrEAPXfdCTgrEAP2Xg+!3tjR$2zCv2Xh3Sl2Xj2Xl
  3d+Xl2Xm2zDD2Z!2Z*3rE),5g.M+g.Sz6RZ6Z54<V4>K4AOxWqI4Dn4G,4ME4P14RI4RZ4Sh5g.Sh4Sz4T%4TgrEc94UsSl4
  Uz5g.Sz6[T4X)4X+4Xg4Xh5g.Tgg.),4Z*4[14[T4[]4]Z5g.P14^w4_X4lMg.p?4lhg.S=g.PP7qI4m$5g.m$4p?4pq4pw4
  q7g.),g.p*g._44t%5g.),6t%g.t%4t(g.AO4t,4tZ3nE2Z+3rElM5g.p?3Sl4dCZ+SllM2zE%2Z53rEZ52Z63rEXl5g.k62
  Zw2zFU2zFc2[12[T3rEDn2[U3rE<V4Dn4PU5qI4!RV4TgrEDn4Uz4W4+!5g.AO4X)4Z!g.AO4Z*4]Zg.P14_X4c,4m*g.AO4
  m6g.I*4sX3qI3L_[U3!d+3nE3lT2[V2[X3dC[X3!d+3lT2[[2[]+!3dC[^5RZdCRZ2[z3rEpw3Sl2zJS2]+2]<2]C2]D2]Z2
  ]w2^)2^>2^k3dC^k2^p3Sl2zNR2zN^2^w3rE),4Xl4x<3dC^w5rE),g._43L_^w2^x3rE),5g.N04!3Sl2_42_52_;3V=3rE
  m!qI3d+_;2zO72zO<c>32_>2_X3rE),4t,3lT2b;3rEOK2zQM2zQb3rERVqI4$RZg.2bH3rE>K4AO5g.AO4Sh4]Zg.RVqI4_
  X4c94lM5g.),>K6AO7g.AO4$t(4tZ2zQl2c,2c.2c93Z+rERZ5]C5kJ6dCc9Z+rEkJ5tZ3qI3dCc93!L_5Z+dCZ+2c;3.7rE
  AT5G,5O65Sh5UsSl5W55Z!5_X5m75t(3X2rEG,6t%2dR2dU2dh2dm2fJ2fZ3rE),4,j4G,4I*4OK4UV4UZ4t%4t(3L_fZ2f|
  3rEW;4t,4x<3d+f|2hU2z^U2jD2k62kA2kHc>33rE),4O44O54Sz4W94Xl4[^4^)4c94kJ4lZ4pk4t(4t*4t:4tQ4tZ3dCkH
  3Sl2kJ3Z*rEAP2zd42k[2l<2l=3rE),4Dn4S=4_X4m$4s_4t%5g.),2l>2zg92lH2lM3UC3dClMRMdCRMRZdCRZ5%pkdCpk2
  zgR2zgT2lS2zgW2zgX2lZ3rE),4Uz2l_3rE),4E)4I?4NF4RZ4Us5Sl4Xm4[]4^p4kJ2zgf2lg3qI3dClgIJdCIJ2lh2m!3d
  CV=m!2m$2zh72m*3Sl2m12m23dCm2m$2m62m72p*3dCp*2zlz2zl|2p;2p?2zm$2pJ2zm52pg3A_3rETg4^)3Sl2pk3dCpkb
  ;dCb;NOdCNO3nE2pq3rEG,4Sh4lM4m!4sX4t,2pw2q+2q73Sl2r03qI2r?2rH3rEpw3dCrH5RMdCRMRZdCRZ2sV2sX2sZ2s[
  2s_3dCs_x<dCx<2t%3Sh3t%t%3dCt%dRdCdRRZdCRZ5pJdCpJ5t%j=dCt%j=2t(2t*2t,3Xm3rEDn4^)4t%g.t%g.t%9Sl3!
  3lT4rEDn2ztk2t:3rEZ*4]Zg.M+4l=4t%2zv)2t<3rEWL4dR2t=3Sl2tQ3L_tQ3lT2tR3rE),g.Sz6_44<V4Sz4c94t(5g.A
  O6G,2zvF2zvH2zvI2tT3rE),4AT4EE4O84RI4RQ4RVqI4RZ4Sd4Sz4Us4Uz4VG4X)4[^4^>4dR4lM4m24sV4t%g.Sh4t,4tU
  2!3rEt%2tZ3rE),4Xf4Xl4pw2zvS2zvP2zvR2zvV2zvf3rEWL2zvh2x<3qI3nErEXl2|!v2|!|2|$02xV3dCxV2|$Z2|$[3W
  3qI2|$b2xZ2xb2xc3rE),2|$|2|$~2W?O|2,jrEc92.7rE),2>?rEzD$2M1X2rEt(g.]C2z(Q2NOg.m!2O5rElM2Q!rESh4l
  M2RJrE>Kg.W9g.),4AP2z672z7>2z<!2W,rE>z4AQ4S=4Sh4TgrEAP4[^4dR4zh;4sV4tR2Z*rES72[UlTrEDn3rEPUg.Z54
  m!2]x2^xrEx<2zO32bG2zQc2bHrEE)4S72c.k&bKMp2fJA_2zZC2kHrEUsSl2zqD2t:rE]Z2t%t%~!2Uk1c8m4szAO3!r$3!
  R*3!QW3!mO3!l63!Om3!bI3r$NO3!R*3!QW3!mO3!l63!Om3!bI3R*t%3!QW3!mO3!l63!Om3!bI3cwz6J3!sz3!r$3!R*3!
  QW3!mO3!l63!Om3!bI3cwz6K3!sz3!r$3!R*3!QW3szlH3!r$5tjR$3R*lH3!QW3!mO3!l63!Om3!bI3cwlJ3!sz3!r$5tjR
  $3R*lJ3!QW3lHrERQg.NO7^>3cwIM3!sz3!r$5tjR$3R*IM3!QW3r$tjR$z2d6z2f3R*tjR$[$6zFd6[$),+!3mOtjR$AR3l
  6tjR$z>&6U~),+!3OmtjR$zvT6zvU3bItjR$Ux6z=t+!6Ux),3szAOqI3$r$3$R*3$QW3$mO3cwE:3!sz3!r$3!R*5tjR$3Q
  WE:5tjR$3zQZ3zQX3cwz2g3!sz3cwqnNO3!szqp3!QWmT3cwqntjR$),3%szqp3cwOpAO4!hD3clA]cwmS6hD3cwhDSm4!T(
  3O|cwqn4szqp4R&4QG3R*t%tjR$3%QW3%mO3%l63%Om3%bI~!2W:1gwm4clA]w,NT3twL13!N24s,4z]s~!2WK1m4,jrEc9q
  I4m$2.SrEPU2DnrENOqI2E!rE.74b;4x<2I*dCI*rE_52M+rEpw2M1rEXl2NCrEUs4t%t%t%2NDrEt,2O6rE>z4AO5AmZT4N
  F4O84PP4RI4S74S<Sl4S=4Sz4Tg4UsSl4WL4Xl4Xm5g.WL4zE)4Z65rEXl4[[g.S=4]C4]w4^)4b;4fZ4lM4m*Sl2OLrEXl4
  dm2PPw92PUL_PU2Q!lTrEAO5Tg5UsSl5Z!5Z55]Z5]w5p*3$2RJrEE!4NCSl4!O6rEUs6WL4PO4RI4RZg.N06_X4Szg.),4X
  mg.WL4Z65rEXl4[[4^w4_X5g.OL6S74l_4xZ2RLk&bKMp2R|rEt%2S=rES=L_S=2SfrEUsSl2Shg.S=rEpw2SzqISl2TgrEA
  OdCTgrEAO2W,rEI*4W,4t%t%t%4tQ2Z*rExbdCxb2zE(2zE*2zE+2zE,2Z0+!2zE.2Z1dCZ1Sl2zE02Z2dCZ22zE12zE22zE
  32zE42zE5+!2zE62zE72zE82zE9+!2zE:2zE;+!2zE<+!2zE=2zE>2zE?3rESd4Us4dmg.[V6!dmg.4t(g.D[2zEA2zEB2zE
  C2zED2zEE2zEF+!2zEG2zEH2zEI2zEJ3rEAO4Dn4O9SlSl4Xg4Z!4q+4q74t(4t,4tU2zEK2zEL3rEO54RI4Us5Sl4b;4dmg
  .dmg.[V4lSg.X)4t,4tU2zEN2zEO2[USlrEAO3rENO4T%4dm5g.dmg.[V4pw2^)g.x=2^wdC^wrERI6W92bHrENCSl4S=4Sk
  4Tg4Wd4Z04]C4dmg.dm4t%5g.t%4tU2kHSlrESz3rEP14lMAmZT4pw2l>qI2lMdClM3g.UD4_>4k[2m$g.O6rEb;4OLrE>K2
  m*rEpw2pwg.kH2s[rERVqI4r$NO2tRV=3rEt,2tTrEMF4zEM4[V2x=2xbdCxbg.k[2xcrEr$NOqI~!3,90z(2m4z%8+!2z%9
  ++2z%:2z%;2z%<2z%=2z%>2z%?2z%A+*2z%B++2z%C2z%D+!2z%E+*2z%F+)2z%G+,2z%H2z%I2z%J+32z%K+02z%L+%2z%M
  2z%N2z%O+!~!3._0z1lTj)4+&2)52)62)7+!2)8+*2);2)<+$2)=2)>+32)C2)D+*2)G2)H+!2)K2)L2)M2)N+!2)O2)P+=2
  BW+&2B^2B_+%2Iv+!2Iw+$2Ix+*2Iz2I|+22z(7+*2z(82z(9+72z(:2z(;+%2z(<2z(=+$2z(>2z(?+02z(A2z(B+!2z(C2
  z(D+!2z(E++2z(F+!2z(G2z(H+!2z(I2z(J+12z(K+*2z1F+*2z1G2z1H2z1I2z1J+)2z1K2z1L2z1M2z1N+$2z1O2z1P+*2
  z1Q2z1R+(2z1S2z1T+$2z3>2z3?2z3A+02z3B2z3C+*2z3D2z3E+,2z3F2z3G+(2z3H2z3I2z3J2z3K+)2z3L2z3M2z3N2z3
  O2z3P2z3Q+%2z3R+$2z3S+!2z5P+(2z5Q2z5R2z5S+!2z5T+%2z5U2z5V++2z5W2z5X+(2z5Z2z5[+,2z5]2z5^2z5_2z5b+
  (2z5c2z5d+!2z5f2z5g++2z8[+(2z8]2z8^+!2z<g+&2z<h2z<j+%2z<k2z<l2z<m2z<n2z<p2z<q+%2zA4+*2zD]+!2zD^2
  zD_+%2zDb2zDc+!2[h2zH$+!2[j+!2zH&2[k+)2zH02[l+!2zH2+*2[m+$2zH52[n2zH62[p2zH72[q+&2zH<2[r+!2zH>2[
  s+%2zHC2[t+$2zHF2[v+!2zHH+!2[w+)2zHO2[x+%2zN|+62zN~+!2zO!+)2zO$2zO%+*2zO&2zO(2zO)2zO*2zO+2zO,+!2
  zO.2zO0+&2zRB+&2zRC2zRD+02zRE2zRF+$2zSZ+,2zS[2zS]2zS^2zS_+)2zSb2zSc+%2zSd2zT|2zT~2zU!+%2zU$2zU%2
  zU&+(2zU(+%2zU)+$2zU*++2zU+2zU,2zU.2zU0+%2zU12zU22zU32zU4+%2zU52zU62zU72zU8+$2zU92zU:+$2zU;+%2zU
  <+22zU=+!2zU>2zVU2zVV2zVW+!2zVX2zVZ+*2z]B+)2z^F+!2z^G2z^H2z^I+!2z^J+)2z^K2z^L+(2z^M2z^N+12zcR+!2
  zcS2zcT+%2zcU2zcV+*2zcW+!2zcX+$2zcZ2zc[++2zc]+!2zc^++2zc_2zcb+.2zn3+$2zn42zn5+%2zn62zn72zn82zn92
  zn:2zn;+!2zn<2zn=+&2zn>2zn?+42znA2znB2znC2znD+$2ztT+(2ztU+!2ztV+52ztW2ztX+(2ztZ2zt[+$2zt]2zt^+,2
  zvj2zvk++2zvl2zvm2zvn+&2zvp+!2zvq+%2zvr+$2zvs2zvt+!2zvv+*2zvw+02zvx+$2zvz2zv|+&2zv~2zw!2zw$2zw%2
  zw&2zw(2zw)2zw*+!2zw+2zw,+%2zw.2zw0+$2zw12zxb+$2zxc2zxd+(2zxf2zxg2zxh2zxj+%2zxk2zxl+$2zxm2zxn2zx
  p2zxq+(2zxr2zxs2z|5+%2z|6+!2z|7+!2z|82z|9+!2z|:2z|t2z|v2z|w+)2|!d+!2|!f+%2|!g2|!h+!2|!j2|!k2|!l2
  |!m2|!n+,2|!p++2|!q2|!r+*2,R+)2,S+!2,T+=~!3=W2twV|2!U72z>JAmrknd4!H?4rkP54!H?2dH^.2FNkx2!P5~!3~5
  0>NTj)4+,2)92):+42)?2)A+12)E2)F+!2)I2)J+%2)O2)P2)Q+!2)R+82)S+$2)T+D2)U2)V2)W2)X+!2)[2)]2)^2)_2)b
  2)c+!2)d+$2)f2)g+!2)h+!2)j+$2)k+$2)l+!2)m+&2)n2)p+,2)r2)s+,2)v2)w+n2)z+!2)|+&2)~2*!+!2*$2*%+(2*&
  2*(2*)2**+.2*+2*,+M2*.2*0+:2*12*2+&2*32*4+&2*52*7+,2*92*:+82*=2*>+!2*?+$2*A+%2*B+$2*C+;2*D2*E+&2
  *F2*G+%2*H2*I+$2*J2*K+,2*L2*M2*NhUd1jD2*O2*P+$2*Q2*R+(2*SOm2*T+42*cFN[C]>2$*fP52*g+M2*r2*s+)2*t2
  *v+M2*w+C~!5Pr0E8ZkzX[b2^$3z63Qv3gA^$fz5fx3_6^$3zh83rK^$3!cQ3zgddRbU3gAdRbUfz6fx3zJ_3sV])3zPV3zJ
  d3zK43zNk3zf<3zSP3zB43zR=3pO3zQ23zE[3ZjXn3c&zLL3zJ]3zWZ3z7(3zW+3^Kb(3zT]^!3t%x4_93z7&3c&c%3zj(3z
  LX3zLH3zMx3zAE3dRZS3!_M3zXJ3zJc3zQ]3gx3zsT3zGS3zjj3zpT3zJg3Wf3zOx3zD*3zMw3zh<3zG53z4C3zbM3zCg3zj
  m3]9zZ(3zgh3c&3lrc!x23cMzMm3zV_3b]3zv<3b&3]*3bQ3]L3cH3qS3n+3dT3b~3](3cJ3zAU3b|3tr3[T3_d3_B3zKc2z
  X]zSC3sVzJb3zh[3l4sV3[Dc)3]JzJ^3zBd3z~f3zKb3zAK3zX.3z~1ZS3Z6c!cD3zSOzg^3_WzQq3z7*3f~3sVc$3lUzQs3
  zg]3^$qT3]RzK_3cJc)3zB73z7)3zB:3zDm3zWV3zw^3zQ1_$3zPk]U3z|$3zcs3znL3zLI3zPw4ZA3zLQ3p:3zKg3zMt3zT
  (3z[z3^!zPj3z403zKp3Q93zB03[zzQw4zR13Zj3b!3zS=3[z3zBs3b62zX^b2])3cQ3x23zz03b&3zP!3zQ)3z6~3zKd3z6
  .3zT8zMT]~3zSS]R3]P3zZE3zP23]KJ&3zB93z6|3zB33x+zNT3zTO3zKm3zS>3]R3z~d3zCc3W03l53zP)3znN3b[3rK|!F
  3zlk3zPpcD3zw_3zOC3[zzB13c%3zPv3Z?3zKj3zLZ3zSM3zpU3zPs3R>3zP$3zS<3zS?3IB3zw]3zKf3k63bO3Z63zqb3zS
  Jb63zQt3Wf3b,3]*3zKl3[T3Xn3bQ3b63z|,3zPr3zSG3zSL3Xkb]3zSI3_O3[zc$3wI3_P3zh93zf:3]Q3])3]L3zB83zKh
  3Wh3]KzZ!3x73bT3^23^l3lf3W_ZI4z3r3zPX3_B3zFq3fs3f93qM2zX_zKn3vG3bU3^$3zQ|3zFL3zQx3zSA3zPf3cD3z|!
  3zQ43lN3zQ(3zB23zpS3zgZ3zQr3p:3Wf3z~.3zD)3kZ3zLO3zP%3zK%3^!3zf;3w]3zQv3zB5zKk3zQ,3sV3S+3zQ63z4.3
  _R3zLf3zF93zP33zMn3zL_3z]23zLc3zLR3[^3zSE3]K3zD<3cH3qS3n+3x73Wh3z^X3zp83zQ+3zLM3zSF3zB63fw3zXP3z
  TA3Zj3b!3zLP3zP|3|!K3dm3x33_O3c)3zlh3Xj3zPm3zQ03s]3]~3zD03zSH3zpR3zJf3zPg3zF:3zPt3c!3b[3S23Xf3j1
  cl3pp3rn3cJ3jd3ZR3]h3[g3pO3^k3l^3lV3X|3c,3m!3c(3f53b;3lr3z]$3_$3[J3j1^n3r03c+3]Kl63zd:3Q)2zXb_P3
  zr23]P3Z?3zx;3zG?3dS3n&3z^l3zSD3zP73gt3p~3b13zCf3w73kv3b(3dT3rh3Xk3[D3b~3b83](3zQ.3zQ83zSB3zb.3b
  T3zX+3kB3zPz3^%3z7,3zQ*3bP3]93[I3zPh3zP.3znRc)3l43z[t3_Nzj_3zPqcD3z~p3z7+3zsS3z~_3g33zs[3zB.3zlj
  3qT3zw[3zzI3Z%3gr3znM3z6v3zP_3zg[3zL^3]N3zTK3zR?3z613s[3zC~3wP3cJz%%3wt3zLN3zP(3zZ&3|!G3zF83R>3z
  623zQ53Wf3]&3zQ&3z7%3Q(3zSU3zXO3z~c3zPl3cJFr3zTb3zZ|3^23z5<3_93^l3S23R=UV3zNl3z[n3zQ33Xn3zZ*3c&3
  z~b3zPx3dRf=3R=J83Qt3bS3),3rn3cS3UV3zE]3dRzZc3ph3znp3_N_+U?3lf3z~g3zQ<3|!C3x&zmJ4LO3x43|!I3Wj3fM
  3bSz2Q3gv3w63Q93tr3[T3^)3j;3hb3zQ=3_v3lj3lr3R=z_A3_43fZ3[J3XH3]t3[z3];3zpQ3X)3^K3qC3z3m3z722zXcW
  ,3t%3Xf3O[3j(3pp3cJ3Z!3jd3jG3]h3ph3_N3bO3[g3pO3l^3m*3l53X|3Wf3c03c,3bZ3x&3m!3wG3b|3fM3c(3w63f53k
  63b;3j;3W_3b33_~3lj3gt3Qt3v?3Zw3[J3XH3]O3j13[z3^G3]K3qM3XU3kQ3zxM~!5XC0zN<Zkpg2b02wx2^=2D[2M+2),
  2fS2Ws2z9,2z(Z2K^2zAv2ck2](2bG2dR2d!2cS2jq2lX2zpg2OM2v?2OK2XH2Z<2Z!2z8n2jD2zp=~!5Xh1N>xL2cw2sz2r
  $2R*2QW2mO2l62Om2bI~!5Xz1M;1!Nw0znkZkzVT2zUM2d02dL2BS2.A2?Q2BI2zx^2zwF2zxD2zxV2P~2OV2z2R2Pk2z>~2
  U[2VC2VO2zvd2t+2zvE2zv_2BH2BD2BF2BG2zv&2ztw2ztz2zv%2QM_t2[Et12lst23BG2ztm2t22ztr2t12zv$2zt|2zt~2
  zv!2zNx2]V2zN72zNs2W,2Wp2RI2_v2kA2wG2v?2dR2cB2fN2D[2[z2_42Sz2Z!2UB2pg2M+2hU2b:2l<2I~2s<2S*2z;k2q
  W2w:2Q(2N+2K:2x<~!5[%1N>xL2cw2sz2r$2R*2QW2mO2l62Om2bI~!5[80EXtdZkz2=3W,3kp3Q(3]M3wq3RP3z*53zC_3V
  w3z<)3v?3x]3Rl3Nb3K.3zv^3rW3D[3v93z~Q3dR3zz!3),3cS3d!3t%3O[3OK3UV~!5[Z2L2Tlr]3![M3!^+3!zGL3!z:42
  R?ns~!5[p0zVpU$v7zAx3zA~3zB_3zC!3zAf3zAj3zC|3zD83zAw3zB;3zAF3zAI3zCO3zCR3zAl3zAn3zCx3zCz3zCF3zC[
  3zB]3zB^3W23zAk3zD>3zDE3zA93zAA2L=zwC3zSR3zEf3TE3zRG3z^s3zR<3z]R3z~H3z:?3zKV3z!f3zOv3z;.3zZW3zSN
  3zOH3B)3z|=3Jv2]>KfzsU4mw4zB,4zBF4zll4z;J4znz2m4v5zq(4zs1z!<3Kfz!k3v5zps4z3|3z|gzSW4jC4zr?4z3^3v
  5zds3]jzlg3v5zS.3UZz~;3z|>3Kfzs8jt~!5]s2N>xL3cw3sz3r$3R*3QW3mO3l63Om3bI~!5^&2c5qE3UJ3qCq~3^<3!UI
  3qCG?3zrf~!5^12m4v5zGT3z|k3T~3!zpz3xgzp_3z;?3zRx3z|E3zST3B;3zt2z!=3]jzs.3q13zGE3zNb3Kfz8qzGdc*c*
  4z&gzs44zt35z$U4z[pz(r4zS%zr9~!5^L2Ksm4zs24z~P4zFr4zEh4z|l4XO4z9<4zNB4zq&4zs,4zXU4zB=4z8x4zw44z3
  d4wL4zs<4zDA4zxU~!5k[0]bJPZk[g3k?3t_+!3At3x;3XT3dQ3pf3RH3Q&3UV3W+3),3VS3OK3BV+!3t%3x+3X~3h*3UA3c
  A3w93M*3cX3_13hS3cS3<A3wE1mlZk[g3k?3t_+!3At3x;3XT3dQ3pf3RH3Q&3UV3W+3),3VS3OK3BV+!3t%3x+3X~3h*3UA
  3cA3w93M*3cX3_13hS3cS3<A3wE1N>xL2cw2sz2r$2R*2QW2mO2l62Om2bI1c5qC2P%2sm2qq2R+2QE2mP2l72On2bJ1N>cw
  >6R$2$sz2$r$1L31R?ns1p]<L1Plc_~!5n20zM(ZkdR2D[2wndR2g%2[z2^(2?m[z2Q(2tb2zwd2pg2M+2wnsI3pg2sI2MR2
  _42b:2wnb_2?m_42b_2zRS2Z!2zGq2Zr2zFG2rP2z*x2zqn2z*z2W,2RI2wnW,2h+2z]O2_v2b.2?m_v2Sz2w:2S*2S32zs9
  2z1?2cB2cI2sB2OF2wnsB3OF2j)sB2l<2nL2xN2|$z2s<2OB2wns<2kA2x<2|$x2xj2|%G2?mxj2|%N2|%H2v?2<82Tc2Hl2
  zmT2z1>2q72s?2zbx~!5p41m4L=^IEE1Zk_F1m4AX2j)v23AX1v7m4),3,Q3<<3>K3>U3cS3d!3v~3v>3OK3P13P63zU[3UV
  3UW3UX3z<r3V>3Un3Uv3VN3V.3t%3t)3zt_3ztb3t[3ztp3zv73wE3wn3.g3.l3PQ3!k.3PL3!k.3<A3Ok3B)3d<3_13_t3z
  v>3|!H3zU_3zUZ3zxS3Ur3OM3z>]3t4~!5q$1r]jZ2!rk2.=2F[1Zkr_+)2j)r^+!3zr$+$3zr%~!5r)0q(VM]>0$c<0!clK
  TU32!VM0X$mlknQK~!5r;0zwp>6z_!]>I~4zQH~!6v;0q(z%p+~+~+~+~+~+~+~+~+~+x0X$mlknK?=~=~=~=~=~=~=*~!8Z
  (0WOZkzMKr_+%~!8Z.3rd+!3zOFr^+&~!8Z74rd+!~!8Z:2?mOK0TtZk?mwV0TXZk).+$2)32z<R+%2ztL+&2z1D+&2zTn+$
  2zA6++2zA7+!2zA82zB[+*2zCt+)2zAt+(2zCB+$2zCC2zcc+*2zhT+(2zlf+*2zdg+&2zjX+)2znE+%2zqC+)2zsQ+%2zsR
  2zp+++2zqq+(2zqr2zO1++2zQK+)2zQL2zSX+$2zP=+(2zP?2zRV+&2z8_++2z8b+!2z:!+)2z;l+$2z9E+)2z;D+*2zJR+)
  2zM&+)2zN?+%2zKt+!2zKv2zMX+(2z|x+&2wH2|!;+%2z~~+(2z^O+%2z_f+)2zb|+(2z^~+%2zbA+(2zxt+&2zzO+&2zz<+
  %2zzb+)2zNz+!0TtZk?mw50WOZk?mwn3wV3w5~!8_W0TtZkmlvl3vW3v~~!8_r0WOZkmlvl3vW3v~3_1~!8b&0c<K?=~=~=~
  =~=~=.~!9320z0xZkSx2w92dQ2pf2Q&2W++!2BV2M*2t_2RH2hS2dQ_12M*k?2Q&_12W+[g2hSk?2qV2mhz)z2!2X92mhVS2
  z:<2Zq2z_b2[g+!2VS2k?2[g_12_1[g2!VS2k?VS2[gvxNr2$_12$VS4NtV5>S.=2k?vxNr5F[2[gk?2!_12!VS2!k?2![g_
  12!_1[g2$VS2!k?VS2VSk?vxNr3_14k?2k?pf4hS3dQ4hS2pfk?3!hS2v>2zzL2v>hS2k?_13[g2W+hSk?2$RH2k?W+4hS2)
  ,2mhdK2cT2cS2?62UV2OK2Un2lsUV2t42O[2mhOc2j|UV2mhO[2[EUV2wV2t%2Pb2wB2t%_12[Et%2!j|2t32mht%2zUz2dK
  2d<2v?2v~2vl2v[2zzs2_Et%3cS3UV3),2zXD>K3><2mhP13>K3ct2v0[g~!94V1<&ZTU7zdk2$^+2$jZ2![Mtw2$^+2$Tl2
  !A~3!ZX3q&3pt3OKU33!UV3!q&~!94l2Tl.P3!r53SR3![E3Nr3Kh3[%3vM3tw~!95%2[M.P3!r53SR3![E3Nr3Kh3[%3vM3
  tw3A7~!9541m4cSvxLX1zptZkl$1Nw]>1gwz$4R?ns0zh&z4wZkdF2!z&02O!nk2!tI~!9~?0|$pL2]>SJbLk?XbctZT3(3$
  s>3$SJbL3%3$nJ3$]4gM3%3$v=3$]4gMk?X(3(3&v=3SJbLk?XbctjZ3(3$s>3$SJbL3%3$nJ3$]4gM3%3$v=3$]4gMk?X(3
  (3&v=3s>k?Xb3$]4gM3nx]4gM3gMk?Xb4nx3v=k?Xb3]4gMnx3SJv=3|$23ct3z^t3r=3H:3ztj3zZl3zG43zD.3zAB3|$63
  zj93z^z3X_ctZT~!9~x2r[hm]>zN95zm?5zrV2]>|!s3!Mv3zVE3g44vxtwp%3KC4zZt3zUF3n)bx3zqv3z112B!twzUj2!]
  >Lx3X_2[Pr[hmV*1z[M^IzF;+!3NJQd3X_3jt~!:!C1zPMzCq3r>2zWM2z1+t_z!r2X<2|$!2nt3k?zUO2zX>3_h2ntvxn)b
  x2KK2zVx2xC2z7^H;3r>3zN;3zmA3zrW2zxEgl3^j3pR3s(3X>gl4^j4pR4s(2NwxC2j=KK2z)g2zBA2KC2g42mX^j3pR3s(
  3r=2MvX<2mXX>pR3X=3X>r=3O;gl4pR4_h4X>2zjM3k?xD3|!z3k?Xb2X_2jt2QV2zCG2|$n2nf3k?xD4Xb4!xDUV4XbUVxD
  3|!x4k?xD3k?zbJ4z12|$%4xDUVzZk2zZs2nf_h2n|gl3zN:3zCr3zZw3gL3_h3zC;3X=3r=z]03O;3z103O<3O;X>3!O<3S
  Zvxm?xC3%S]3SZ3S]4vxNwxC3S[4gL2zKx3z[33zC=3zC<3zC:2n|zs%3zs&3zs(2zV?3pR3s(3X^pR3!X>4_h2n|X^4gL4S
  Zvxm?xC4%S]4SZ4S]5vxNwxC4S[5gL4zs$2zD!2zUG2z0m2zPE2zWp~!:%Z0Im^|p]gq3z(n3fD3dMOx4NH3tgOx4NH3zAd3
  zmw3dt3|!74NH3zCn3?;Ox3!Pm3q?3Wc3?E4NH3zmp3zq!3cn?n3!SL3z[h3z!X3zwB3VI?n3!Wb3!Wc3zdI3zWQ3ng?B3zV
  Q?n3!zw<3!?A3?G3X;3z_[3f[?n3zqT3>P3l!3pb?n4zL?zl:3dP?n3qc3zF.3O?3zrZ3qL3zCk3?;Pm_g3R<?n3z>$3s6?n
  3zAbs63f83gp3XN3KV?n3z^k3ds?n3!dt3z<w3_A3zXK3XN>+3!s63zlH3z8*3VI_g3!cn3!dM3zXL3zCZ3zXM3zCl3f8_g3
  Wc_g>w3$Wb3|!93?E_g3!?Dzmn3|!83zCm3z1x3z!W3zM>VI3tg_g3!f[3!gp3zUh3?*3zGt3dt_g3!ds3P[ds3zDU3?)3s6
  _g3z1w3pb_g3zmv3KV_g3z2O3l!_g3z|LX;3zrt3z[d3zrr3zrs3z[f3zrv3z[g3z7g3?x3!P[3dP_g3zphz2h4Pm3qc??3z
  pmW8?H3zAc3z2;3z~lWR4>w3ng3X;>w3NH?n3!zCj4>+4_g3!?A3?>3NH3zrh3zpP3XR3Z]z2>K]4O?z$I4!zrg4!zpL4z>(
  K]3SL_g>w4d|?~5N)3z*J4d|?~WR6>w5N)3zr_3?w3z=~3z*=3<6g;?v4?z4?v4zLE4zL<4SK4z7h4g;SK3]Bz[]U^4$>)4!
  z)w4$>)4!zrl4zr^4qOU^5!zF(4$4!g)3z>jzpBz<x3$?D3z3jzpN4^P4N;3]Bzw>U^4!z[^4!g)qO3z7l_1??5z*T3z25W8
  R<v63z>!3z>%3R<?nz)xz<z4N6dR5_A4zODU^4N6N04!m^z*?4N6WV5x]5b;WR6>w4zK$K[N;6^P3z43m^K[tl3R<m^K[zml
  4zPF3z$H|%14zC94zk(3R<UVwlqN4z24?(3wlzrk3!N94qN4?>O?z+)4!^RqL4!NAPk4!s0cj3!wl?>O?4!^RqL4!NAPk4!s
  0cj3z6DN94wl3z*>?>zM=5zL%4NH4zpn3!zhj5NP5s35qR4A>5NP5s35qR3z*Kz6P3z*Hd<3nn3A%dR4v64RI4N04WV4x]4b
  ;3Wc_gzL=3$Wb3Wc_gWR3$Wb3!X;3!SL_g~!:)|0^|p]m?EK2!Nw2!QM2$j<2!MJ2!ls2ZTj3m42$jZ2j3Nt2M5kz2M+JR2k
  z2z%U2z_Fz46+$2QA3F[2Hf]>2J.2HQ2HR2zUnn^2!zt+2!zq12!z5&2!z4I2!zj+2zj.z532!z5)2RHKt4d:>55EX2IqKt2
  !Q&4d:>55EX2O2z%&+!~!:*N2^r][j82NwlI3Q[2Q[tI3O!2_JtI3O!2lItI3O!2hDr]lI4Q[2z%grD2!L|2d:>53EX2z^%>
  53EX2zNLj82!vk2!T(2!hD2!Op2!mQ2!qs2!mV2!cwUIsr2w9bt2!g.2!Khw92nDbtvj4G^2s)bttIvj5G^4ZTvj5G^4jZvj
  5G^4O!vj5G^4tIjZvj6G^2^Wbtvj4G^2zr[btO!vj5G^2dxbt2!zx52btG^2c4bt2z%6btvj4G^2Hh2vkbs2!T(2!hD2!Op2
  !mQ2!qs2!mV2!cwUIsr2L2nj3!zkA3s%+$2z4;s%+$2L2B,Nr3z4N+&2FNF;2!P52FNr32!P52FNzjN2!P52FNzXs2!P52L2
  .C3zl&3zpI3zl%3zK<3zK=3.D3zGK2A3tI3O!2L2z+.3zb43Qd3zjO3F_3Nwrf3!s12zb12zlp2x;2zXz2zLK2z4~2z&U2z)
  L2SNbsmc4!bc2zrC2sc2!V=2scmc3tI2d7zlX++3zlZ+!2z9;2zPA2P5c[zlB2Mnmc2L2O!HE3!tI3z943zjTzZK2f2]>3!t
  I2!T(f22z7OtI3O!2vxz4<2z(f3>!2zKX2[F2Hk2l(vj3G^2^?3G^2l.vj3G^2z5Cvj3G^2[FfCj83!V!2!Hk2!l(2!^?2!l
  .2zpFzX?LkgffC6V!6fCNE3z>+LkgffC6V!7NE+$2z&X2z8(IqKt3!Q&2nDBV2zw~2zZj2z%,2kh2z%(2rp2z[%3z4V2!kh2
  rpz_T2zXHzlt2zBgIqKt3P5c[f_3QMbs3z_*]>3vkbs3!T(3hDbsnjO!6tI3OpbsnjO!6tI3Q[m42zjp2zCV~!:.=0SVzx1b
  pp^++3zmV+33zmf+&1z>Kbpp^+!3zm_+!3zmg+!3zmW+%3zmX+$3zmZ+&3zm[+!3zm]3zm^+&3zmb+!3zmc3zmd+*0L2SV^|
  s23qQ3f<0SV^|Z]~!:260zK[c6xL2cw2sz2r$2R*2QW2mO2l62Om2bI2qC2P%2sm2qq2R+2QE2mP2l72On2bJ~!:2W0^QQ~O
  Q0!N?Q~z9M2!UF2z1ZTO3UF2OQ0zpOQ~K62R?Kh2zMO2EO2WXml2z&42AM2d,2H]d>2z)Od1z*f2z*j2|!32V%2zX22hx2LA
  2U+Dc2vC2Qs2.d2z_>2z_P2z1[2W&2z&,2z282z1)2z!^2z)J2H&z_Q2zVg2zF)2z%.2zBr2R^2zlQ2z](2z5>2z_O2ZId1z
  M]2j72z7ZrW]l2z272zlG2z8&2z2<2f)2zb82z4W2zw?d1zz72z&*2][2PZ2zv;2z*P2L!^c2z842R^V$2zKO2.I2z202z0V
  2vJ2zhr2V32M~2MH2z*Q2z3.2zf?2zlD2z922L72z%12z3b2<52z%m2ctq^zwN2z*F2zDs2z5%~!:3q0z&LzbItDN>cw4sz4
  r$4R*4QW4mO4l64Om4bI2qEN>cw4sz4r$4R*4QW4mO4l64Om4bI0Ukp|]>cw3sz3r$3R*3QW0p|]>cw2QW~!:5x0]FH&JP),
  +>2ml),+>1VLJP),+>2ml),+)~!:7)3UV+61H&VLJP),+>3ml),+>1knJP),~!:8!3Iq+!~!:8(3RH~!:8+3VS+!~!:813_1
  +%~!:863k?+*2ml),+%~!:8D3Q&~!:8F3Sx+)~!:8N3dQ+.1H&knJP),+>3ml),+>1R1JP),+!~!:9C3M*+%~!:9I3VS+*~!
  :9R3k?+)~!:9[2ml),+>1NzJP),+!~!::&3M*+%~!::,3UV+&~!::43cS~!::83k?+)~!::A2ml),+>1H&R1JP),+>3ml),+
  >1kWJP),+>2ml),+>2H&JP),+>3ml),+>2VLJP),+>3ml),+>2H&VLJP),+>4ml),+>1^TJP),+>2ml),+>1VLmlNsUV+!~!
  :>h1H&JP>33Fp3RT3Mt3PF3xM3PX3qh3V?3WC3Z73^k3c,3w>3cs3fZ3jC3qhp]3m33q13tM3fS3KO3gn3cr2_82ml>33Fp3
  RT3Mt3PF3xM3PX3qh3V?3WC3Z73^k3c,3w>3cs3fZ3jC3QMm33!3q13tM3fS3KO3gn3cr2f!N:2PFp]2!qh2!WC2!fS2!jC2
  !fZ1VLJP>33Fp3RT3Mt3PF3xM3PX3qh3V?3WC3Z73^k3c,3w>3cs3fZ3jC3qhp]3m33q13tM3fS3KO3gn3cr2_82ml>33Fp3
  RT3Mt3PF3xM3PX3qh3V?3WC3Z73^k3c,3w>3cs3fZ3jC3QMm33!3q13tM3fS3KO3gn3cr2f!N:2PFp]2!qh2!WC2!fS2!jC2
  !fZ1H&VLJP>34Fp4RT4Mt4PF4xM4PX4qh4V?4WC4Z74^k4c,4w>4cs4fZ4jC4qhp]4m34q14tM4fS4KO4gn4cr3_83ml>34F
  p4RT4Mt4PF4xM4PX4qh4V?4WC4Z74^k4c,4w>4cs4fZ4jC4QMm34!4q14tM4fS4KO4gn4cr3f!N:3PFp]3!qh3!WC3!fS3!j
  C3!fZ1kWH&JP>34Fp4RT4Mt4PF4xM4PX4qh4V?4WC4Z74^k4c,4w>4cs4fZ4jC4qhp]4m34q14tM4fS4KO4gn4cr3_83ml>3
  4Fp4RT4Mt4PF4xM4PX4qh4V?4WC4Z74^k4c,4w>4cs4fZ4jC4QMm34!4q14tM4fS4KO4gn4cr3f!N:3PFp]3!qh3!WC3!fS3
  !jC3!fZ3VLJP>35Fp5RT5Mt5PF5xM5PX5qh5V?5WC5Z75^k5c,5w>5cs5fZ5jC5qhp]5m35q15tM5fS5KO5gn5cr4_84ml>3
  5Fp5RT5Mt5PF5xM5PX5qh5V?5WC5Z75^k5c,5w>5cs5fZ5jC5QMm35!5q15tM5fS5KO5gn5cr4f!N:4PFp]4!qh4!WC4!fS4
  !jC4!fZ1H&JPN=2!ml~!:CU2N>xL3cw3sz3r$3R*3QW3mO3l63Om3bI1NzN>xL3cw3sz3r$3R*3QW3mO3l63Om3bI1kWN>xL
  3cw3sz3r$3R*3QW3mO3l63Om3bI2H&N>xL4cw4sz4r$4R*4QW4mO4l64Om4bI1^TN>xL3cw3sz3r$3R*3QW3mO3l63Om3bI0
  zhdT6V(1!T21!T41!T:1!T81!T11T6V(Fd1$T21$T6r)t>2V(hgXF3Lp3Tr4[M1T2V(Tq1T6V(^.1$T21T6V(^.Fd4hgXG4T
  r3$tI3Tr^.tI3^.L;5V(Fd5!^.5Lp5Tr4L[1%T21T6^.FddCV(2V(FddC^.3^.r)1%T21T6V(^.nwr)Fd4Fdr)nw4r)Fd4Tr
  nCr)m.3$tI^.Tr7L;3Tr^.tIr)m.3^.tInCr)R(4r)Lp5Kj5U45Tr2r)FrV(^.nw2V(^.L;r)m.7L;7Fd2^.r)U4V(tI2!V(
  r)U4^.3^.L;Trr)m.4$L[4L;r)R(5$Lp2^.r)LpV(tI2!V(r)Lp^.2!^.r)KjV(6Tr2V(r)>^d>^.tI5$V$4$Kj3^.r)L;Tr
  5>^d>62^.r)>^d>V(tI7L[5V(tI2V(r)U4^.Tr1T7R*QP4Fd4Tr4L;5n?1T3R*QPL;1T6R*QPL;Fd1T8R*QPL;1T7QWQPnC2
  %TS2QWQPnCR*Fd2(TS2!QWQPnC2&TS2QWQPnCr)R(1T4QWQPnC5d(1&T81T:QWQPnC1T7QWQPnCTr6r)m.6bcr)22Frdcz3X
  2TS2r)m.2$TS2r)Fd3R(2n?V(r)m.3K64r)m.6Fd3[41T32r)m.2bcr)2r)R(1T9Lr21T4d(22d(r)m.2$2d(bcr)2$2d(r)
  R(2$1T5d(21T21T:2r)m.2bcr)2r)R(1T8d(3r)R(22ml2d(r)m.2$2d(bcr)2$2r)m.rtV(3Fr^.jf1T11T6V(^.jf1%T21
  %T81%T11T8[41T6V(^.jfFd5L;1&T81T6[4O!4zb5nw5Lx4zVDKj3tI2$r)t>1$T21$T:1$T11T6[4hgXF3Fd3zr<r)3!1$T
  81!T6[4V(1%T81T1[4V(r)V(r)d>71T6[4V(1$T21$T81$T11T6V(^.[41%T21%T82jf1T1V(^.[41!T6V(^.LX1&T21T6jf
  O!1T8jfO!V(r)U3^.1T1jfO!^.r)V(LX1T6jftI3hgXF3[41$T21$T:1$T11T6jf^.4L;4hgXG3V(3r)1$T91T6V(jf[41%T
  21T5V(jf[4ct1T9V(jf[4d>5V$5t>1T4V(jf[41%T81T1V(jf[4d>51T6^.O!1T8^.1T6^.tI1$T21T6^.hgXF3tIr)m.1T9
  ^.r)1T6^.r)[43!3!jf1%T21T5^.jf[4ct1T4^.jf[41%T81T1^.jf[4d>5V$51T2^.jf[4Fd1T3^.jf[4L;6m.1T9^.jf[4
  L;d>6V$61T8V(Tr1T6V(r)m.1%T81T6V(r)m.r)N26L;6Fd5!V(5!H=5V(Tq4R(V(nw6Fd4U34Lr4Lwr)V51(T31T6V(r)Lw
  r)t>4Kh1T4V(r)4d(1%T84ZA44ml1T1V(r)d>4V$41!T63TS3m.N24L;4Fd3R(3FrV(^.4^.jf4jf[43t>szQP3$dC3!t>r$
  4!R*3dCR*hgXG22TS1zr;m?2^r2Fr1z7|m?2^r2Fr1zlUm?2^r2Fr1I!m?2^r2Fr1k7m?2^r2Fr1pLp_2Fr1nHZAm?2!ml2Z
  A^r2!ml2l11QcZAm?2!ml2ZA^r2!ml2l11nHQc>71zN2tIO!ZA4ml3l12!O!2tIO!>7ZA5ml2m.rWm.kl1^gQOLA1$^f1^gm
  ?nwml4]f4ZA4ZC3w3Qb2Nwnw3w3Qb3>74w3Qb2LX2s1nw^d3w3Qb3>74w3Qb2F_ml3]f3ZA2LMml3]f3ZA3k(2KFml3]f3ZA
  2HJml3]f3ZA2xXml3]f3ZA2f1ml3]f3ZA1zrQk*m?3Nw3>72k)m?3Nw3>72lF2A(n=m?4Nw4s11zN1BCml3]f3ZA3ZC2rvml
  3]f3ZA3ZC2FrBCml4]f4ZA4ZC3rvml4]f4ZA4ZC1^fm?nwml4]f4ZA4ZC3w3Qb2Nwnw3w3Qb3>74w3Qb2LX2s1nw^d3w3Qb3
  >7^d4w3Qb2F_2LMml3]f3ZA2KF2HJml3]f3ZA2xXml3]f3ZA2f1ml3]f3ZA1zrPk)m?3Nw3>72k*m?3Nw3>72lF1^gLwhDml
  4]f4ZA4ZC3T)ml4]f4ZA4ZC3zq3Khml5]f2UGml3]f3ZA2[Hml3]f3ZA3mlNw2vMLwNwml5]f5ZA4s1ml5]f5ZA2Lwqdnw2L
  xLXml4]f1k*m?2Nw2>61^glF2LwTxR8vE2%UG2%[H2%vM1%k*m?2%Nw2%>71^gLwTxz!|2$UG2$[H2$vM1$k*m?2$Nw2$>71
  ^gvMN2f(ml5]f5ZA1^fLwTxK3ml5ZA2UGTxK3mlNw5!ZA5mls15!ZA2[HTxK3mlm?5!ZA5mlNw5!ZA2vMTxK3ml5ZA1k)m?T
  xK32$Nw2$>71^fLwTxQfml5ZA2UGTxQfmlNw5!ZA5s1mls16!ZA2[HTxQfmlm?5!ZA5mlNw5!ZA2vMTxQfml5ZA1k)m?TxQf
  2$Nw2$>71^fLwml3]f3ZA3ZC3z%c2UGml2![H2vMmr3ml3ZA1k)m?2Nw2>71^flFdv1^gA(Khmlm?4!]f4mlNw4!]f1^fA(K
  hTxvEmlm?6!]f6!ZA6mlNw6!]f6!ZA1^gw3KhR8m?5Nw1^fw3KhTxvEm?6Nw1^gQOKkm?4Nw1^fQOKkTxvEm?6Nw1z16A9ml
  3ZA2z3p2mk2qF2j.2zhk3>72z3&zVCrD2z7q1TH2zb,2^gnw3zqQ2^fnw2^gLw2!^f2^dKh1Q*NJgDbmR(rC5tId1O!8rC1P
  vnwtI3_n3O!1!z0_Pv_n3O!_n3!tI3_ntI1z4s_n2LA2w11Pzd(2zkH2L!1PtGjm?3^r1PzT(d(2!vm2T(L!2zzR^d1Ptzz[
  1z3<tI2O!2Qm1Pxnw3Nw3>71Pwnw3Nw3>71PxLx1!Pw1PxKl1KIz[s2_n2p91qFKITl3^.3[M1OP1bm_n2LA2w22zzS1<IGt
  d>2zlxV$2GrmlzbU2$zlw1Hfz>?2z3,1^cL!_n3R(3LA2mp3w13d(2R:3w13d(2d(Kh3R(3w13dB4w14wT3h~4w14wT2X33R
  (3w12qF3R(3p91[,z[FrZ1[+[PdCtL2tLdC[P1^cLN2w2m?3Nw1rfnmd>z3n2zFK[,2!rGFr3rtV5^c2V5^cj.2zN3<2z!j2
  K6nmd>3V5^c1zp:2^d2ctrf4^d3[,4^d2GU[,1^gz?11!^f1_Z1T$1z3+1lvTszk43z[)1zz)lvTszN.1%z4X1lvrCR7zz(1
  zr8nwzlR2LxF_1zr7zt)1tLH$rCR7Tsz?d1zFXz%b2zF1+)1QO1zG*n41!zG)1[=z9Q2vp2z)f2TH_Z2zr62zFZz*I1L31R?
  ns1l+1L11dx~!:Lt1QJ^J+&~!:L~1k(^J+*2zMf+)~!:]O0ZGmlZkQ?NBvxzrd3j=knRH1!ZkmlJPsd1mlZkj=W+1ZkmlJPX
  ~vxF]1mlZkZpvxj9U33sdwEvxF]3j=P63sdhSvx[EZ[>Sj9U33%pfvxU31$Zkj9Kvvx1mlZkPTvxNwEE7>SLq3!sdpfvx1$Z
  kV=SDns2$p!Iq2mlJPsdW+1mlZkX~vxQT3N*NBvxd^U33$X~vxF]>S3$P6vx3%sdhS3$hSvxQT>S3$qKNBvx3%Q$3!N*NBvx
  j93$UVvxp%>S3$cSvx3%qKNB3%Iq3k?vxLq~!:bn0L2SAZkBT3I83tp3S?3Nd3wk3xS~!:bx3xJ3VQ3!V23UV3N[3W:3[83_
  03_G3c~3g93jk3mj3sh3t83R53T]~!:c53l|3sE3KZ3l<3wf3wd3wS~!:c=3x+3mlx5~!:cA3wx3VAmlx53!G:3$VA3QV~!:
  g30zT1z[mU$Zk[z4s<4zSK4pg4Sz4_44w:4zR;4I~4Z!4kA4x<4zOt4zSQ4W,4M+4cB4bz4tb4zSV4zt14Q(4hU4h+4wG4zR
  w4dR4wC4zRt4N^4zRv4T!4^D4g%4RI4k14),4,Q4UV4t%4cS4d!4OK4O[4v>~!:gj3zr&3zr+3zr*3zr.3zr,3zr)3zr(3m4
  Q~fH5zpw5[=5>n5z>V4wBwB3p[Zc~!:h!3N>xL4cw4sz4r$4R*4QW4mO4l64Om4bI~!:h43[CzT*3KjI~~!:mC0zr:ZkdR2D
  [2pg2M+2W,2RI2[z2_42_v2kA2K:2wG2v?2VU2Sz2hU2Z!2UV2!Hg2VN2!Hg2t%2OK2!Hg2PB2!Hg2cS2.g2!Hg2),1m4jjr
  ]~!:m~0zz+Zk,Q2),2D[2I~2M+2RI2wG2fN2Z!2_42dR2pg2qW2Q(2kA2l<2VU2x<2v?2tb2W,2cS2B)2hU2[z2Wp2Sz2OK2
  UV2_v2t%2zG!2s<2rw2cz2,]2>U2V.2ct2P12,[2cB2ztq2z~t1r]s^2zsf2XI2zCK1N>xL2cw2sz2r$2R*2QW2mO2l62Om2
  bI~!:nk1zQAm4~!;)%0P^p[z9t2z9~2z9z2z9v2z9x2z9w2z9|~!;)02SpTf2z9s2z9r2z9q~!;)52Sp_*3_)~!;)83hR3hQ
  3hP3I_3I^3Xw3Xv3Xt3St3Ss3Sr3RG3RF3h&3h%~!;)I0zL1zBmp[[hX)3[jW,3zH%Xf3zHmWW3zI7WV3zH|XO3zHVXH3zJ>
  zCw3[kvl3zH(v?3zH)w53zIWvZ3zIOvW3zIKw(3zHSv~3zJNz|%3zInv[3zHhz|13zHWz|.3zIjz|03zH*^>3zH+]53zH,zN
  P3zHf]t3zI6^K3zI~^m3zJIzNE3zH.G,3[lD[3zH1I*3zIwFG3zI9F83zI?H,3zIhGx3[mUV3zH3),3zH4t%3zJ,O[3zI<OK
  3zJ0d!3zIscS3zIgOk3zI^V$3!zId3zJO>K3zJ=P13zH8m*3zH9kA3zH:p*3zJ+kv3zIMkp3zIfn(3zI$mw3zJPzhU3[sZw3
  zH?Z!3zHA[T3zI*ZQ3zHwZM3zH^[G3zI|[<3zIG[EZM3[nN03[pM+3[qO43zI1Ml3zJ?Np3zJANb3zH;r03[rpg3zH=sV3zI
  3q;3zH_q73zIArh3zHrrW3zHBVh3[tVU3zHDW(3zJ%V_3zIJV^3zJ)W$3zHkVw3!zJ:[E3zHEwn3[vwG3zHGx+3zIFwX3zI%
  wV3zIlx%3zIRwx3[wQC3zHIQ(3zHJR=3zI!Q93zHzQ73zIbQw3zI0Qq3zJQz5:3zI=Q13zHKbG3zHLzO=3zHMc93zIN_d3zJ
  4zR^3zJ;Tg3[xSz3zJFUC3zHNTR3zI8TG3zHPU23zIkU&3zI)z9O3zIZz;P3zH]Tp3zI]T.3zI.UH3zH[TV3zJMU13zHTz;m
  3zI2b)3zHQ_~3zI(b,3zILb%3zIrb$3zJ$b+3zIQb*3zJ(zPd3zIXzPn3zI,[Eb$3zIC[Eb+3zJC[Eb*3zJ!S73zIHRI3zJ3
  Sd3zJJRq3zJ1z863zJ2z813zJD_|3zHcb73zJ<zQ>3zHqfZ3zI;dR3zHXgr3zI&f53zHZf.3zI>gB3zHng33zIq]Q3zHj]J3
  zIS]U3zHU]N3!zJH3zHv]M3zJ7]T3zJ9]S3zJGzKq3zJ*[E]M3zIB[E]T3zIm[E]S3zI_XX3zI4XU3zHxX]3zHRXW3zIEXV3
  zIIX[3zJ&XZ3zIURh3zHbRd3zItRl3zI5Rg3zIDRf3zHtRk3zHsRj3zJ6hU3zIT_S3zI[_M3zIV_W3zJK_R3zIP_Q3zHp_V3
  zHl_T3zIzbN3zJLbX3zIvbS3zIcbW3zJBt~3zJEtb3zIxv93zJ8tr3zI+tn3zIpv43zH~v.3zJ.zT63zHdzT+3zJ5zTB3zI:
  zT03zHgzT<~!;,%2N>cw3sz3r$3R*3QW3mO3l63Om3bI2L2c5zp94qE4UJ4q~4!qC4!UI4^<~!;,g0.]JPZk<w3M.3Z%3^93
  D[3mC3f.3G$3hU3OK3Q(3UV3cS3N+3wm3vQ3c93W63wG3t%3Vk3KO3Sz3h.3RI3cB3sV3b:3tb3Wp3Rf3xB3XZ3l<1mlZk<w
  3M.3Z%3^93D[3mC3f.3G$3hU3OK3Q(3UV3cS3N+3wm3vQ3c93W63wG3t%3Vk3KO3Sz3h.3RI3cB3sV3b:3tb3Wp3Rf3xB3XZ
  3l<1<wZc1!v71Rr]>1T,1L=^I1$z6>1c31_F]>~!;.k1N>xL2cw2sz2r$2R*2QW2mO2l62Om2bI~!;.~1V2Pl]>2!hH~!;:6
  0V)mWc5cw3sz3r$3R*3QW3mO3l63Om3bI3qC3sq3qr3R&3QG3mU3l83Os3bK3cwUI3!sz3!r$3!R*3!QW3!mO3!l63!Om3!b
  I3cwq|3!sz3!r$3!R*3!QW3!mO3!l63!Om3!bI3!qC3!sq3!qr3!R&3!QG3!mU3!l83!Os3!bK3Z43zEP2Z4]>2c5zAZ3zA[
  3gWcw4sz4r$4R*4QW4mO4l64Om4bI2g(2R0cwhD4T(3r$hE2k<]>2c5>6cw4sz4qCq|2>6Z4]>~!;<*0zVHmWc5cw3sz3r$3
  R*3QW3mO3l63Om3bI3qC3sq3qr3R&3QG3mU3l83Os3bK3cwUI3!sz3!r$3!R*3!QW3!mO3!l63!Om3!bI3cwq|3!sz3!r$3!
  R*3!QW3!mO3!l63!Om3!bI3!qC3!sq3!qr3!R&3!QG3!mU3!l83!Os3!bK2zKC2>6c5sz4r$4R*4QW4mO4l64Om4bI4qC4R*
  UI4!mO4szq|4!qC2R0cwT(4mS~!;?E0?[]F<k2FQ2Vb2M5~!;?J2vQ2xA2T!2pr2wZ2W62Z62]k2bg2kw2<F2Q;2kC2h02j+
  2lO2q<2qb2Wr2qZ2M02x?2S.2NsFQ3bg3Q;3h0~!;?l2V2FQ3Vb~!;?p3TT~!;?s3T!~!;?v3wZ3W63Z63]k3bg3kw3<F3Q;
  3kC3h0~!;A)3lO3q<3qb3Wr~!;A03M0~!;A23S.~!;A92pvVb~!;A>3T!~!;AA3wZ~!;AC3Z6~!;AE3bg3kw3<F~!;AI3kC3
  h0~!;AL3lO~!;AO3Wr~!;AQ3M0~!;AS3S.~!;AU3Nsbg~!;AW4h0~!;AZ2p!FQ3Vb~!;A^3TT~!;Ac3T!3pr3wZ3W6~!;Aj3
  ]k3bg3kw3<F3Q;3kC3h0~!;As3lO3q<3qb3Wr~!;Az3M03x?3S.3NsFQ~!;B%4Q;~!;B(2zGA<k3FQ3Vb3M53TT3vQ3xA3T!
  3pr3wZ~!;B53Z63]k3bg3kw3<F3Q;3kC3h03j+3lO3q<3qb3Wr3qZ3M03x?3S.~!;BL2NzFQ3Vb3M5~!;BP3vQ3xA3T!3pr3
  wZ~!;BV3Z63]k3bg3kw3<F3Q;3kC3h03j+3lO3q<3qb3Wr3qZ3M03x?3S.~!;CN2d*]kvxT!vxq03T!vxM5~!;G&0zJqrBOR
  vr2!n02!v_2!bk2j%O(2!SW2!vj2cwc[z!c2$sz2$r$2$R*2$QW2$mO2$l62$Om2$bI2cwc[E72$sz2$r$2$R*2$QW2$mO2$
  l62$Om2$bI2cwc[Kk2$sz2$r$2$R*2$QW2$mO2$l62$Om2$bI2zZ^2zV32E62z$J2zkB2zm%2B92zz]2V~2Dc~!;G[0!z+4r
  BU72z;R+)2z;S+)2z;T+)2z;U+)2z;V+)2z;W+)2z;X+)2twDc2zwP+)2zwQ+)2zwR+)2zwS+)2zwT+)2zwU+)2zwV+)~!;I
  .0g+JXDc2.Jc[zj|2$sz2$r$2$R*2$QW2$mO2$l62$Om2$bI2$qC2$VW2$XB2$hG2$X,~!;IA2.Jc[TN2$sz2$r$2$R*2$QW
  2$mO2$l62$Om2$bI2$qC2$VW2$XB2$hG2$X,2j%V~~!;IQ2.Jc[z*<2$sz2$r$2$R*2$QW2$mO2$l62$Om2$bI2$qC2$VW2$
  XB2$hG2$X,2G^V~~!;If2.Jc[z%52$sz2$r$2$R*2$QW2$mO2$l62$Om2$bI2$qC2$VW2$XB2$hG2$X,2vjV~2z4k2zrx++2
  zrz+0~!;JC0N>xLR?ns2L31!cw1!sz1!r$1!R*1!QW1!mO1!l61!Om1!bI0NGKjkWN>xL1&__0KjxLvxmc1?%A71Nkm4vxdE
  Dh0dzZGJPZk),+>0rqlRHSZGJPZkk?0KjVLZGJPZkIq5hS1z!81z|20z&=p]0nEZGJPZk),+>1UK1_!1zdd1nK1z[;1vV0__
  KjZGJPZk),+>0hg]Vm41!zKs1!zN80KjK(1IqvxdEDh1UFQH0__nEZGJPZk),+>0L[__nEZGJPZkdQ0__nEU[2dR2kA2,j2v
  V0nDz*s0nEz$v1z&91R31z<~1_p1_t1ch1n*1tIvxPl]>1zxF1r$M*1kskm1szW+1!R*1!Om1QWg5cw1$l61sxg5sz1mUdQ1
  !cwUIsq1ZGmlZkM*1z9C1z9D1z:$1zGF1zhF1ztv1zx30]Ew.p]~!;MB0z_5V*p]Zk),+>0nDTtz;H0nEWOzCM2kA~!;Ms1K
  rtBz=:3z=63z=,1WOMf1KrtBUh3z=43z=P3z=53z=%3z=B3z=I3z=?3z=)3z=93z=&3z=A3z=(3z=O3z=J3z=Q3z=33z=13z
  =G3z=;3z==3z=!3Ug3z=S3z=83z=$3z=.3z=<3z=R3Uj3z=M3z=N3z=03z=F3z=D3z=C3z=K3z=*3z=23z=T~!;NO0rqlRHS
  KrtBz=E5Ug5Uh5z=75z=H5Uj5z=L5z=+5z=>~!;Nc0KjUd.f2.E~!;Nw0k.p]Q~R=3[T3zh)3w>3zh63J1~!;Q$0z(,0z4c0
  L!t;0bDvxzl30zm(dCzN,10KqAmz1&0zm)dCI70z^f0HpAmbD0vKvM0zx70zMCvU0OQSCz3!2>E2AU0SCvxzL80_p^Wp]0$v
  TLT0$QRhD0$vTS90$R?0$vFS90$ZEhD0$vFLT0LT^W0_p^WvxQ*0%QRhD0&ZE0%R?0$pB0z7Rnc0!zgr0qf0G^O10vjpB2vx
  mlL(2!FS4vxhf0%2mt2[!2zr50z4b0vrGtQ*0U<Nh0znQ0IL0z!~0zdq0z3%s$0!z)I0!dc0J*0U<f?0zsZ0z!xGq0zbR0z:
  %0zm&0Gq0OOc[zJ~2jF0z9]0R*ZOz%20zK9ZO0!z3g0ZOQmV$vr0zNc0zq|0B*0z7w0]p0zz90znj0zF00E;0zZA0j%?I0!S
  W0zX&0zX!0z!w0zlO0z8z0mfc[zZJ0]^ctH+0z[1Z[0jFz&R1E.0z&7jF0!z&s>S0zl;HG0zj~0H_0R4z560zbEpWgI0z(j0
  zUW0zm:0z55lz0QSJ2vxpXz)q0m~U]LR0zgJU]0U]LR0z0W0LH0z$>EE0JH0zG30z&x0z;KgH0zh$0FfHJ0gHc[Qx0z&80R!
  >SXA0zp1v|T;0zcrH>>SLn0vvSB0!z%S0s7O.0FJ^p0KxFJzNF0DbH>0R!>SXAvxzZR0H>vxz[$z&?0zZ~0jE0zzwz[D0GKJ
  20z?$0KXs$0Q5KX0z4B0z4Azk$0E10f%z[!0z%xE.0zngs$0L[z4O0zZ?Mj0VZNl0JdzlP0vrz$20^Wzwsz!M0kjzd=0z7rJ
  O0TLvxrGctq^ZT0HDc[z4[0^:]_0z_BjE0^|Wlvxz?%0zl^^*0ZnzjE0LFzC?0F<AL^|bv1$N$0QLz5.0._zqG0JcU;0z4)v
  g0jwz%Q0z4Eg:>SQS0^*0zN4J<0z$k0z9I0ACzVw0rkTD0z$nqG0zqF0z$zG~0zXAAD0v$RS0NITw0zjJ[~0G>0RSN80HH0Q
  kg+JZ0^|bs0^r^|bv0zdJ0z890^|Wl0zr|0zwz0^|zdW0k;zgjvxzd;0qDhZ>SE.0m]>Sm]H30EW>Sz;N0z!vQZ0zjV0zc20
  zm70zk=]_0zrw0U;hX0>Dz4l0!zc%0zmI0v]zFQ0z7]0hXzN(1JW0LVEZ>SE.0zx80QDU(nl>SE.0U]U(nl>Sz[r0plqDzVj
  >SE.0mtJS^_0J>0F9vxt;0I6L?0U?I70Kq0z)hU?I60!z$~0z)n1z>n0_IzWR0zl)0U?I61vxz5~0c]I60VZgFc]0$Pd0z;[
  0EA0B7zpA[~0z;^0![L0z&5nv0kj0z)dnv0z3[0z?!zEZ0VZJr0!Pd0vjzX60!G^0vOvjQZ1!G^0k%0!G^0zDq0DrhZ>SzhD
  0HE>SA70>H0P+^Iz4Hzt:3t$+%0hp0^b0dL0vKI20LQ0r40zF30hW0Js0O(0z&V0vd0zjS0mr0U;0hj0z7V0lP0^N0zbP0z$
  )0Nh0fp0G|0P$0zUV0n=lR0I30>~0z;L0zDzFL0QS0!s70Gs0sg0z97z$(0!Db0$z570GI0zX40zCE0zZz0z0cJ;0!Dm0z+2
  0^bQ*0!LQ0!r40!hW0!Js0!O(0zk?vd0U;Q*0!^N0!Nh0!fp0!R60!z8~0!zzf0!F?0!zW20fpbm0f*z[K0z$50Pz0Pt0OO0
  bm0^c0rf0vjtIg8DfV(1%O!1%ZT1%jZ0z4FT0m40$vO0$ch0!r*tI1!O!0!z$|T<0$d(0Lb0w%TD0z3;0zPB0zn20z?40O,0
  zBp0G;0w%L&0z]*0z9$0z[00zK3lk0!Ar0!z:30w%kU1H40z4m0IRV$m80$IS0HL0z7F0]50w$0Q00]5>Sw$U+T<0$sz]t1$
  zzg0g<zU^0w$vxICOP0HnvxzwI0fHvxGnT$0]5vxz80fZzK82sb0cm]51w$0Db0L?zzm0z[J0VZzUc1z7W0S50Db>W0z37<v
  0<vzMs0z>*0m_0V,z)rfH0z850z(g0zFp0zO9g=0Q*zKN0z8p0EHg:0zmt0zZ:0X3]>0[LZk0jf0z6=nr0X30HD0z&MvxTL0
  zz?0FCTL0!Hx0szTN0zk&TL0!z8+0TLvxA70GvTL0!SW0!w[0!gz0TLvxjE0j>TN0TLMj0N5zgDvx),NrV50O~Z~I90>Xp]0
  H*0mdp]0!z%[0!zk7pV0O10MIp]0zZ9c[gB0z4UG10NWp]0n:E10!qz0vjQk0UIzZqp]0^LDs0Ltz3*0TPNkm40LSJX0EBvx
  w]m42!Nk2!Pc2!gJ0^LvxzzX0KBvxtPs&>Sw]m40zdj0fIL90Hq0zMH0QgNQ0d.NN0z1,0QIQr0$d(0dWvxLq1Q+tI0J70!z
  p40JXV(0KBvxtPs&2!O%0EEKB0z%+0g|0!k,0zWG0nwzc,0!s+0H0znP0zEz0zRl1vxz)KLO0L!H.0!d(0!SW0!Gv0!d20H1
  0_?Dp0zd_0zL00qAhz0zVl0Q6[~0kc?$0z[q.VzGJ0z!lzL&0zVJzrR0!z>10zVf0z1Ep]0z>4P?0P?vxO%A7.=0L!zJtvx[
  QQZ3!hg0&d(3![Q0z[*0gGU80_r0^HfW2vxjcA7AmZT0zwgzM[0^HfWzU]0bc^HzXr0?$vxEP0J<1vxz4R0v$J<0zp?0h_0z
  wj0QLz[U0z[&zl>0z[=F:0zt(jcA<0!K|jc>SZZd(Kh7vxKjcwdH1O%>StPd(KhA<0(?%O%0[MHsp]0$Tl0n7vxJCp%11vxc
  wn,vM2r$n,vN0Eb0O~zZ[0ZVzJlSB0$j]0[>vxz>Cf90L![>vxWk0!0[>0!d(0FX1vxJCp%0H00[*p]0h_IW0DcvxZZA7.=0
  &P50$ctvxPl]>vxZTjZ0$zjkvxjc0$rkvxtP0bccwt>Onp]0WmqC0z>Gp]Q~ZGJPZl4!ml3zSj3p_3ZGZl0QQ0O~zr40w00T
  +0c=>SH(0z;F0zZH0zM,0zp>0z&dE.0mOg6ncvx^.Nr0VZp]Q~FO0s.z210G^nDIW0$vj0ZAj%Kh1!Gv1d2N51!Gv0!mld21
  !Gv0tJj%s)0$O$0$tJml0%O$0[PjZlDvjKh0&tL0KjLXg?0LXg?vxT)F[20brZTl)vxr$Nt1&jZ0p]Q~zKBz!b0vjZGLX0$T
  P0!z!B0cqp]0N~c[f00zA:0zN$0zmm0zL4vxbIH[0HGc[z<G0KzQ*cwzUP2!sz2!r$2!R*2!QW2!mO2!l62!Om2!bI2!qC2!
  P%2!sm2zUq2zt,2zq42z5*2z4J2zj02zf=2z1n2zQd2zpG2z2%2zsz0jZn72vxcwn,vM3r$n,vN0I<1vxn,vN0zb3FX0H.0J
  E0zK6Kz0G^m_>SLZ0bczZD0U,0]5V$IPp<zF<0zjCd1zkG0MGpE0zk31zz>0z?m0]5z(h0ZTT0qAhz0qAhzvxdW0jZT0qAhz
  0vjzr=qA0$G^0qActrkc[zM_0z$x^HfW0Dcc[P?0!n_0P?vx[!0QpP?0!f9dCn_0zFlzWH0G^g|0[PZTf:2E4f92!R)2zVq2
  z&S0ZTw4T00sdchT0m40hgT0vxQPzk80(j=1r*tIm42!O!1v!T01T0vx^.QOPn0hgT0vxd~Fr^.>SjfQP0vjO!g8ZTT0V(0!
  m0vjZTg82$jZ1$G^ZT2$jZ0!G^ZTg8Df1%jZ0!m0vjtIg82$O!1$G^tI2$O!0!G^tIg8Df1%O!1TL0N%L90Wl>S^b0r$zPLz
  %s0g_0zZhJ60G^TAlRQgNQ0&vj0%m~0q*Jm0zz^Wl0cwIW^b0$sz0$r$0zrD0clfIL90TANQ0km0g_z<|0!Q60!d.NN0Nfvx
  qU3>SzZ%2!0$R22zqP2>Kw90G^Qr0!0!d(0JXV(z*l1QIHJ0QIJ(0P0bs2dW2dU0bs1dW1dU0P0Nf1dW1dX0Nf0dW0dX0zz6
  0n=bsdU1!J70N%vs0zMI0zKZ0dF0K|jZ>SZTl)A<0JCw90V%z4jzj3p]0%Mk0z%r0clWk0zbL_r0dWvxKjqU0nqKB0M3XA0[
  ,0zk+THV$m80r$hs.=2F[2ZT2jZ0ZTn:I+0$jZ0szn:I,0$r$0ZTqzI+0$jZ0!ZT>X0$jZ0!zMv0$[!20E3HJvxE31knw91$
  HJvx1$H&1%HJvx0Z~KF]>0E3HJvxH&KF0zzn]90zN+z5=0zqxzrA0zl8c[zFI0m8c[z?,0zN60SXQ*2vxmqPz0Q*vxq9c[W&
  0mqQ*vxd(^c5>SmqPz6L0pV6r6Pz3z8v3U90vwQ*0mqQ*vxmqPz0Q*zdFz)VQx0j0Q*0mqQ*vxTMPz3pE0zjPQ*0!_n0!z34
  0!zv+0Q*vxL0pV0zX8Q*0!z%~0!z%|0!X40Q*zq5),X30X4Q*vxmqPz3!L!0Q*vxzl]rf4>SvwPt5r6Pz0NMQ*0!zzq0!>b0
  !gK0!Lc0!zXE0Q*vxzG>c[zrm0NMITj0Q*0R;Q*vxd(^c0>dQ*0!z3w0!vX0!zjB0!zq[0!z8)0!zGILc0Q*vxd(^c0z<$Q*
  0Q*vxd(^c>SL0pV1zd]V$z3v0AdQ*0!z4^0!md0!NW0Q*v|^c1vxzK|]E0SXJsQ*vxmqPz0JsQ*vxq9c[W&0mqJsQ*vxd(^c
  4TMPz0JsQ*vxzz~mp0X4JsQ*vxL!Pz0gKJsQ*0$Lc0$vX0!mgR;1!mq0!zvD0Q*vxjxPz2bcz7cz6L2!ch0fHHFz)N0zdp^N
  0!z9K0!zk*0z90fHhhcwT00fHhhH=T<V$z!?1R;1vxgKQ*2z4dT<0bkv_g8ZO0%n00$bkOR0%n00$sdbkv_1%n01$bkOR1%n
  00!bkv_g8v(0&n00%bkOR0&n00%TPbkv_1&n01%bkOR1&n00bkv_g8I10%n00$bkOR0%n00$TPbkv_1%n01$bkOR1%n00z;I
  hKnDd74V$G^nD0zjdhKnDd74V$G^nD0ZZjs0!tP0!jc0!O%0knZ|PWd70&TP0$Z|d(0&TP1!>G0$pU0!kWTPNwsdL3hM]>3&
  2([M0!TPV90$kW0%TP0tzTPn%2!j<0KGG~0$j<0js0z9T0nh[A0hdJW0z:5r|2vxI;bm0r|0zLG0Z~z^d0zl70zrI1JW0IO0
  !cv0zrq0IOns0zMG0>C0QQP70g<JW0$cv0zp&0!cv0B80!cv0z_.zwH0z)Xs80ABzGD0zrE0zMq0^_hd0!pN0^_J)0.xzrJ0
  ld0zbW0zk,0U7rzZ~0$tw0L?m40g<Jkj>Z~0s+QZctgF0Nq0bcP>m40zjQp]0$bc0!g~[3V$z>tg&0!Nbbn[30!z[,vK0$zR
  c0G20bcG30G40!^_0f40bczX(0z$0L_0zL5p]0!zzh0z_S0Dbp]0zqw0vKz%00zh+0E]0E_0zWfLF0z&|0Dxz$w0ZT[Z0s)v
  xk.LN0z[Rm40KjV,n.0HMp]0!z7G0z&H>SZ;0md.F0lqDz0FZFX0FF0g&c[zzr0zUSm40lqzrp0zlb0zVm0z:7zpE0z<%0z2
  !~!;_p0zZSzjD0vg0jfIH0T+>Sw00l[0cdO20zN*0hdrx0^]H!0tJ^:<J1!1!ml0$0!zRj0<JM~1A6~!;b,0kc0cvQQP70z*
  B[A0zW^ld0zdV0!^]0JM0zj?0QpzdB0zj60B6z_j0zZ$s80jwmZ~!;b>0<jp]Q~z^&3<I3QQ3OQ3vK3?S3?Rz_34z_44zx)4
  zx*3v)3zwx+!3zm!3!zXk3!G^3]vp14zlr+!3z$l3kM3zQn3zx,3zx.3jrkM4zd(3SH3zhh3VEd44zV53LWc[VE3$j*3LId4
  3!z>d3p1c[LI3$LW5z&;3LI?+3$kMc[3p1c[kMc[LI3zwM3zqSd43!zEt3!?,3p1c[?,3$kM3%p1c[3$v)3$j*5?.43z_7+$
  3<|3<~3zK;3zcz3A=3z_%3z_&3B43GQd43znq3znr3z]~zF]3H73H8+!3>:3cd3n>3zqU3z8;3vS3z[43J93zsq3JVzN!3zd
  Qc[z?j3J,3s.3!zl23zG,3mx3zvJ3U;O:3AS3!gH3Hm3!z[53>=3nzzm0nz5zlM3zls3z[?3z*c3z*_3z*b3z]&3z]13z&]3
  z&^+%3<l3E]c[zKI5zw:3z_U3U=3bD3z(t3^U3T(O)4d=~!;c|0G^ZVz>qjZs)1%tJ1%j]1%O$1mgmlKh0!]fH&vj0%0$TP0
  %tz0%Ps0!vjKhLCG^ml0k,q,0G^rFnD1!mgml0!Z~vj0$]f0$H&0$TP0%tz0%Ps0!vjnDLCG^tzml4!]f0nDq,0G^rFN51!t
  zml1$]f0$vjN5LCG^tz4!]f0N5q,0G^rF[R1!tzml1$]f0$vj[RLCG^0qmSVLX0$Z~0$]f0$H&0%tz1$TP0%Ps0qmkN0!Z~0
  !]f0!H&0!TP0$tz0$Ps0Z~QWnAA_0%]f0%H&0%TP0&tz0&Ps0$Z~mO0%]f0%H&0%TP0&tz0&Ps0$Z~Om0%]f0%H&0%TP0&tz
  0Z~r$g6G^nc0&]f0&0!]fr$g6fv0!Z~R*g6G^0&]f0&0!]fR*g6fv0&j<Z~0!Z~QWg6G^0&TP0%]fmO0&TP0!mOg6fv0!]fO
  mg6G^0&TP0(tz0!TPOmg6fv0!Z~smg6G^0&TP3!fv0Kjs)0$__0KjnD0$__~!;f70ZAd2Kh1!w[1!SW1!gz1!H~1j%nD1!Gv
  1!d21!w[1!SW1!gz1!H~~!;fH0TPPHm4~!;fX0ZZA7vxmls)A90(tP0(jc0(O%0$ZZA7vx]f0(tP0(jc0(O%0$ZZA7vxZA0(
  tP0(jc0(O%~!;fn0!ZZA7vxmlPJ0(tP0(jc0(O%0$ZZA7vx0&tP0&jc0&O%0&TPZZ1&tP1&jc1&O%1$ZZA7vxZA1(tP1(jc1
  (O%0ZZs*A7vx_DlE0(tP0(jc0(O%0!ZZs*A7vx]f0(tP0(jc0(O%0!ZZs*A7vxH&0(tP0(jc0(O%0!ZZs*A7vxTP0(tP0(jc
  0(O%0$ZZs*A7vxtz0(tPs*0(jcs*0(O%s*0ZZz4:A70$tP0$jc0$O%0!ZZnE0$tP0$jc0$O%0!ZZz%q0$tP0$jc0$O%0$ZZT
  P0%tP0%jc0%O%0!ZZTP0$tP0$jc0$O%~!;g]0!ZZkW0$tP0$jc0$O%0$bkv_1$OR0%n01$v_0$ZTjZ0$tIO!~!;gr0!vnZZZ
  ~EG1%tP1%jc1%O%1%bkv_2%OR1&n02%v_1$ZZ1$tP1$jc1$O%1$bkv_2$OR1%n02$v_1$ZZ]f1%tP1%jc1%O%1%bkv_2%OR1
  &n02%v_1$ZZTP1%tP1%jc1%O%1%bkv_2%OR1&n02%v_1%ZZtz1&tP1&jc1&O%1&bkv_2&OR1(n02&v_~!;hN0ZZs)A90$tP0
  $jc0$O%0$ZZvjA7vz0(tP0(jc0(O%0ZZA7vxbrpt0&tP0&jc0&O%0TPA7lEvpcw4szqp4cwT(5qn0ZZHBvjA70$jcH?zg:0%
  ZZrk0&jc0$ZZZW0$jcj^0%ZZ0$jcZW0$ZZDdlD0&jc0%ZZR90&jc0vjA7lEvpcw4szqp~!;hv0A7g8tPqdbkv_2!jcqdLzn0
  ~!;jz0KjLXz4zvxR*Nt4!sz30ZTT(KhvxR*Nt4!r$4!sz4Nr30z0ZQ+U32!br2U3vxNr2%br0zZ=QP0vjTL0!H~0zZ>T00|$
  gQ*0!zMl0Q*vxqf0zPIQ*0!zpx0Q*vxz9G0zbGQ*0!UE0m4c[q^U90J8]ZT00!hgDcc[0ZUQU0!j[0z9(0T0vxV(>S^.QPL[
  0UV[L|!1T0m40Q*vxz&NTD0z%3Q*0!zOK0jxctq^QfzEg0z0dQ*0!zGv0Q*dc0zjUQ*0Q*vxcwz3:hg0SXQ*vxncPz3cwZA>
  ScwmlPt0Q*vxQOLPL![,0zf5Q*vxp_LP^c0$mqQ*vxmqPz>ST00Q*vxd(^czx<0zgmQ*vxz32TH0gXw$0Hd0zV~tIrZ0zf!0
  z[I0]5V$zst0^[KX0zh50fHz+,Jn0z?s0z4&0zMbzX;0zzz0vKzZv0z9%0z*n]E0zzVQk0O2vxz0j0Kxz7M0zs]SB0nB0SG_
  m0zb!0QRg&]_0$ks0$qn0HKz7P0zKFADzv90z&rnr0zDwnl>SE.0zj^0QpNN0z&W0BA0z&h0Dl0gI0Jj0D|H_0SWzd!0zg>d
  hc[Qx0zl_Q]0O^0SBc[zMB0zX%0zC%0zW10z0r0z5!LH0zn[HJ0z$C0HGvxnB0LnvxzlN0z%T0Hw0f^0z[G0L|c[]^0zd30J
  KQx0zEwSW0zK.0^WJ20Dw0mqQ*vxmqPz>Sr$TN0z~JQ*0mqQ*vxzp30Q*vxf%U8>Sf%TD2zv6Pz>SvP^c0zVMQ*0!z520zQf
  0z*[Q*0Q*U+Dcq91vxzZUPz0k^0zDnL.0z7X0z:6H30Q[lk0z&Q0zFnQ*0zdX0zsg0zv8Q*0ON0z0l0EZ0zgI0zVP0R.Q*0I
  V0Mm0z7j0zFz0z_c0lz0zkI0z7EQ*0!|$10z9N0zdE0zn10LV0zAP0zF|0zX$0z:80zWS0z^V0zG(0zN%0zM+0Dq0zmC0zK(
  0z+*0zjK0zVG0zV20zj:0z4Q0zVS0FD0GR0kq0z88Nh0z[NJI0P+z%nj%T$2!Ls2E+2vjT$0H+0Z[0Qz0rj0zm20zm40kFzw
  X0OOvxz9L<B0zN)vh0!zK70zKwA(1Z[0z!mzzA0z&m0kMzg<0FsHJ0z6!0zUt0z3f0zz%0IU0zKRO.0U]Lh0I+zp00zrn0zl
  .fH0!zC>0!z)E0Q*vxzMp0.c0KQ0cm.c0FAfH0fHvxz9J1V$zl<zbO1z%)1V$[KgD0zJh0z3c0zw80zL;0z2&0z6C0|$r0HW
  0d2TL0G=JO0zdP0z7Q0L.0zj]0j%z7=P?0z4?0z?Fz]4f_0zpMzsV0zXNNO0z+%Nwz9U0z%j0.80QQz350zr10Hm0zJk0[Z0
  zGHH>0zk<c[r!0E.c[z~A0kFfs0zp7F?0H|0EV0zbKc[dn0EEc[mx0zk;0z_(0zOP>J0_nKMX,2hG2k!2GO2XB2f+0vjKMXB
  k&z5$Mp0(G^0(_n0!vjKMX,k&bK2%hG2%k!2%GO2%XB2%f+0%G^KMX,2%hG2%k!2%GO2%XB2%f+0%_nKMX,2%hG2%k!2%GO2
  %XB2%f+0!vjKMXBk&cwUIzp|0(G^KMXB0(_nKMXB0vjKMsdX,3hG3k!3GO3XB3f+0G^KMsdX,3hG3k!3GO3XB3f+0_nKMsdX
  ,3hG3k!3GO3XB3f+0vjKMXBk&szUIssMp0(G^KMXB0(_nKMXB0!vjKMX,k&szUIl82(hG2(k!2(GO2(XB2(f+0(G^KMX,2(h
  G2(k!2(GO2(XB2(f+0(_nKMX,2(hG2(k!2(GO2(XB2(f+0!vjKMXBk&r$UIQE0(G^KMXB0(_nKMXB0vjKMPI0$G^0$_n0vjK
  MPIk&bKMp0(G^0(_n0vjKMXD2XE2XC0G^KMXD2XE2XC~!;pP0z|Fj%Rs2]82P$2U;2KA2JL2n$1G^Rs2]82P$2U;2KA2JL2n
  $~!;pd0E0zgn0zUpzmK0Hr0lt0qvkU~!;pn0z0fc[Gp0.ZE=0zl?0z|30z&b~!;px0|!)0zB~0zWJ0H20zJjzz,0zZ<0zPKN
  l~!;q20zb2zZO0K<0z^x0BJ0z*rZ;0E?0^:TU0.G0[EO20z%X0Jfkd0zd^0zDx0U30^B0vs0zZb0zfAzPC0zCA0I.0^bzrN0
  zr30TJ0zZL0jr0^BE.0UbJX0[MEb0z8|~!;qS0Qn0zzp0FL0z%R0z[.zZP0w)0Q80[K0z&>0P0_k0_kvxz1j~!;qh0>OTL0z
  GW0f=UE0gX]51fH0fHvxLb~!;q~0Gw0FXf?0cp0Q]0znc0z4g0zp20z[2[.0F>0V[~!;r50zL,Q*0!zd*0Q*vxd(Pz>ST0dC
  ^c2zX*Pt2N2^c0Nv[%Q*0GV[+0I,~!;rF0T0vxV(QO>Sr)L[0jcT00!ZZ0!dcO!1!tI0V(g8Amq^zwr0TLT<~!;rV0GkzfD+
  !1zfE1zfx1zfT1zfg1zfF1zg(1zf]1zfq1zfM1zfz1zfU1zfh1zfG1zg,1zfc1zft1zfQ1zg$1zfm1zfJ1zg)1zf^1zfr1zf
  N1zf|1zfV1zfj1zfH1zg01zff1zfw1zfS1zg&1zf[1zfp1zfL1zg+1zfb1zfP1zg!1zfX1zfl1zfI1zg.1zfd1zfv1zfR1zg
  %1zfZ1zfn1zfK1zg*1zf_1zfs1zfO1zf~1zfW1zfk0[PZTGkN2[P^.ZTrW[PK69jZ4tL^.ZTrW[PK69jZ5ZTrW[PK61!jZGk
  N2tL^.ZTrWtL9jZ4[P^.ZTrWtLK69jZ5ZTrWtLK65^.ZTrWtL^.jZ5$K6rW[P5&ZT5$K6rWtL5&ZT5!K6rWtL1!ZTGkN2tLK
  6rWtL^.5&ZT5$K6rW[P5&ZT5!K6rW[P5!^.ZTrW[P^.0tLjZGkN2[P^.ZTrW[PK69jZ4tL^.ZTrW[PK69jZ5ZTrW[PK61!ZT
  GkN2tL^.ZTrWtL9jZ4[P^.ZTrWtLK69jZ5ZTrWtLK65^.ZTrWtL^.jZ5$K6rW[P5&ZT5$K6rWtL5&ZT5!K6rWtL1!jZGkN2t
  LK6rWtL^.5&ZT5$K6rW[P5&ZT5!K6rW[P5!^.ZTrW[P^.1>SjZ>S[Ps+r$hEGk0&ZT>S[P>SjZ0&tL>SZT>S[P0&ZT>StL>S
  jZ1!s+cwhD0&tL0&jZ0&[P0twcwOpGm+(0U7cwOpGm+(0ZT>S[PcwOpGk2%tL0(jZ2%[P0(tL0U7cwOpGl0tLcwhDGk1!r$O
  q1$QW1!r$hE1!l6Oq0!jZcwhD1!r$Oq1$QW1!r$hE1!l6Oq0ZTT(]flC0%jZ0%tL0%[P0$V<0%tLT(Gk>S[PT(2V<]flC>S[
  PT(Gk~!;tP0$ZTT(V<]flC>SjZ0KGG~QJ0%V<0!TPU70!tLZTrW[PjZ1!jZrW[PZT1>S[Ps+T(Gk0%ZT>SjZ0tLZTs+]flC1
  %jZ0&[P1%ZT0HJO+Z~N2tLK6rW^.ZT8jZ4^.ZTrW[PK65%jZ4%tLK6rW^.ZT8%jZ4^.ZTrW[PK6rW^.jZ7&tL4tLK6rW^.ZT
  >S^.jZrW[PK68%jZ>S^.ZT9rW[PK6rW^.ZT8ZTrW[PK6rW^.jZ4^.ZTrWtLK6rW^.jZrW[PK65%jZrWtLK6rW^.ZT4N53U7v
  xtwp%0A:g70V<KF]>0ZTT(k;]50%jZ0V<O%A7vxrGZZ0ZZA7>StL>S[PcwOpGk0(jcA7>StL0%O%A7>SjZ0(tPA70ZTT(Qr0
  $jZ0zx6SVLX0jZd(nENr0__N2LX2^.jZrW[PK62N50vjTPkNvxk.LN0ZTqnvjjZg8V(0(^.0(jZ0__nEhH]>0nlQH2vxA+hg
  2zExZT3jZ2vxO,0vjtJKN~!;vc0zdtN>xL2cw2sz2r$2R*2QW2mO2l62Om2bI~!Gkf0KrL6Uf=~=~=~=~=~=~=~=$~%!dZ0z
  EWpq~%!f(0pqn41Pl]>1!hM1c5m41!Nk1!fB1>G1?F1ZTdx1!jZ1A_1g.m41L31US1R?ns1n%1N>xL2cw2sz2r$2R*2QW2mO
  2l62Om2bI1L11l+1Zhm41!PH1!SU1hH]>1L5Am1ZGJPZk),+>1ZTnDHR1j<n%1jZnDHR1Kn.C1[M[%1SR.C1ZGmlZk),+>1Z
  TLsHR1tw[%1jZLsHR1rA0JBpq~%!hz0tkzd|+~+(1zdz+~+~+$"

/-- Further names of characters, among them those of the control characters. -/
def furtherNames : String :=
  "~!!!!0zSg~!!!!0c40zjc~!!!$0ndc[TI2qU~!!!%0zld0P5c[qU~!!!&0z2r0P5c[r~~!!!(0z2L0z2?~!!!)0P90.K~!!!
  *0.L0<n~!!!+0FV0Dj~!!!,0I$0K>pm~!!!.0!U7~!!!.0z;g~!!!.0pk0P5c[[%~!!!00z2I~!!!00zF>~!!!00[%Q:~!!!
  00_p[%~!!!00zRA0[%pm~!!!10!tw~!!!10zxK0QB~!!!20R$Q:0Jgj:~!!!30z&P0[?cw~!!!40l]d>~!!!40mw0[?xL~!!
  !50l]V$~!!!50m*0MM[*PS~!!!60N_0z(v~!!!70N(LFcw0z(w~!!!80N(LFsz0z(x~!!!90N(LFr$0z(z~!!!:0N(LFR*0z
  O;~!!!;0__.L0zmk~!!!<0pcUm0P5c[r~Gk~!!!=0z2n0J?~!!!>0JB0P5c[]f~!!!?0z2K0zlm~!!!A0p50z2c~!!!B0PS0
  QIl0~!!!C0z58~!!!C0V,l0R*0S_l0~!!!D0z8.~!!!D0V,l0r$2sz~!!!E0h|l0~!!!E0zbw0V,l0cw~!!!F0tDl0~!!!F0
  tV0n2~!!$Z0Mq~!!$Z0Mr0dU~!!$[0zVhK>0TlzUTz[E~!!$]0U50HN~!!$^0HbzXCTZ0zOU~!!$_0bcHbTZ0z>8~!!$b0V(
  0_c~!!$c0_s[%0nL~!!$d0ndc[zdv?s0%P5~!!$f0z2_0K>pml4~!!$g0$U7~!!$g0z;j0K>pmvxzA(~!!$h0%U7~!!$h0z;
  h0[%pml4~!!$j0$tw~!!$j0zxL0f![%O!~!!$k2R(~!!$k0zZT0f![%Dk~!!$l2tI~!!$l0zZZ0j<V(~!!$m1[%Q:~!!$m0j
  D0m?l]sz~!!$n0zhp~!!$n0zkM0m?l]r$~!!$p0zhq~!!$p0zkN0z(~~!!$q0N(LFp$0gctWcw~!!$r1zvN~!!$r0z[l0gct
  Wsz~!!$s1zvO~!!$s0gs0l4zrKzl5~!!$t0zl[0JBK>~!!$v0z!$0]zvC~!!$w0_%0n3~!!$x0ndc[Sg?s~!!$x2!gm0!P5c
  [Sg~!!$z2!gm~!!$z0z2M0n*~!!$|0ndc[p$0zg5~!!$~0m?z7zK>V;0zdU~!!%!0m?K>V;0!LFzf4~!!%$0z&f0n]~!!%%0
  p$qJ0zV+zmzL4~!!%&0zV=0g2~!!%(0z[L]z0?:~!!%)0?Jz[PL40zOd~!!%90m)~!!)H0ZGJPZkS*1$ml~!!1!0z!Q~!!:>
  0>,~!!=E0pdp2L1m[ZT~!!Qh0W>Zk[;~!!WT0Z>ZkQqQv~!!WV3z3s~!!W[2jq~!!W^2[<~!!]S0r1]>G[llS7^&jA~!!gT0
  T=W!z~Z2z~]2zk[2z~X~!$%w0z5G+$0zNm0z5H~!$DP0|%00|%.0xg0zGQ0zb=~!$Dw0zGO0zb;0zW|0zGR0zb>0zRJ~!$EW
  0zMV0zz_~!$Eb0zGP0zb<0z590zW~~!$H%0zzDz2*RB~!$RW0zM)cttVp]1!MI~!$qQ0ZZs*A7vxNwtwp%~!$qS0(jcs*~!*
  t70wnp[VM]>~!+BW0_.ZkWt[:~!0zK0zxG++0zxH+)~!0zh0g[R$Q~twjZvjZfHR~!1!h0H)~!1!h0IkzV4]>~!1!h0|%,~!
  2Qt0Llm4c.qI3dCc.IJdCIJ~!5kx0]bJPZkSx3_t~!5lC1mlZkSx3_t~!8Z;0TXZkz1C~!:)60Im^|p]R<m^K[tl~%!hz0zx
  J+~+(0zxI+~+~+$"

end Haml.CharacterName
