/-!
The character data the charset detector consults, packed: twenty properties of every code
point by Unicode 14, the Unicode blocks the detector names, and the letter under each accented
one.
-/
namespace Bookmarks.Charset

/-- Runs of code points with equal properties, two six-digit numbers each: the run's first
code point and the property bits of its code points. The bits, from the lowest: printable,
space, alphabetic, digit, uppercase, lowercase, punctuation, symbol, emoticon, separator,
Latin, CJK, Hiragana, Katakana, Hangul, Thai, Arabic, Arabic isolated form, accented, and
unprintable. -/
def propertyData : String :=
  String.join [
    "0000200000090082000E2000000Q0000000R2000000S0082000W0083000X0091000a0021000b0091000e0011000g0091000h00A1000i0091000m0029000w0091000y00A1000z0021000+00A1000*0091001100GL001R0011001S0091001T0011001U0021001V0091001W0021001X00Gb001x0011001y0021001z0011001+0021001*20000025008200262000002W0082002X0091002Y0021002d0091002e0021002g000b00",
    "2h0011002i0021002j2000002k0021002o0029002q0021002r000b002s0091002u0021002v0029002w000b002x0011002y0021002*0091003010GL003600GL003710GL003G00GL003H10GL003N0021003O00GL003P10GL003U00GL003V00Gb003W10Gb003c00Gb003d10Gb003m00Gb003n10Gb003t0021003u00Gb003v10Gb003+00Gb003*10Gb004010GL004110Gb004200GL004300Gb004400GL004500Gb004610GL0047",
    "10Gb004810GL004910Gb004A00GL004B00Gb004C00GL004D00Gb004E00GL004F00Gb004G00GL004H00Gb004I10GL004J10Gb004K00GL004L00Gb004M00GL004N00Gb004O00GL004P00Gb004Q00GL004R00Gb004S10GL004T10Gb004U00GL004V00Gb004W00GL004X00Gb004Y10GL004Z10Gb004a10GL004b10Gb004c00GL004d00Gb004e10GL004f10Gb004g10GL004h10Gb004i00GL004j00Gb004k00GL004l00Gb004m00",
    "GL004n00Gb004o00GL004p00Gb004q10GL004r10Gb004s10GL004t10Gb004u00Gb004v10GL004w10Gb004x10GL004y10Gb004z00GL004+00Gb004*00GL005000Gb005100GL005200Gb005310GL005410Gb005510GL005610Gb005700GL005800Gb005A00GL005B00Gb005C10GL005D10Gb005E00GL005F00Gb005G00GL005H00Gb005I00GL005J00Gb005K10GL005L10Gb005M10GL005N10Gb005O00GL005P00Gb005Q10GL",
    "005R10Gb005S10GL005T10Gb005U10GL005V10Gb005W00GL005X00Gb005Y10GL005Z10Gb005a00GL005b00Gb005c00GL005d00Gb005e10GL005f10Gb005g10GL005h10Gb005i00GL005j00Gb005k10GL005l10Gb005m00GL005n00Gb005o00GL005p00Gb005q10GL005r10Gb005s10GL005t10Gb005u10GL005w10Gb005x00GL005y00Gb005z00GL005+00Gb006100GL006300Gb006400GL006500Gb006600GL006800Gb00",
    "6900GL006C00Gb006E00GL006I00Gb006J00GL006L00Gb006M00GL006P00Gb006S00GL006U00Gb006V00GL006X00Gb006Y00GL006Z00Gb006a00GL006b00Gb006c00GL006e00Gb006f00GL006g00Gb006i00GL006j00Gb006k00GL006m00Gb006n00GL006q00Gb006r00GL006s00Gb006t00GL006v00Gb006x00G5006y00GL006z00Gb007000G5007400GL007500G5007600Gb007700GL007800G5007900Gb007A00GL007B",
    "00G5007C00Gb007D00GL007E00Gb007F00GL007G00Gb007H00GL007I00Gb007J00GL007K00Gb007L10GL007M10Gb007N10GL007O10Gb007P10GL007Q10Gb007R10GL007S10Gb007T00Gb007U10GL007V10Gb007W00GL007X00Gb007Y10GL007Z10Gb007a00GL007b00Gb007c00GL007d00Gb007e00GL007f00Gb007g00GL007h00Gb007i00GL007j00Gb007k00GL007l00Gb007n00GL007o00G5007p00Gb007q10GL007r10",
    "Gb007s00GL007u10GL007v10Gb007w10GL007x10Gb007y10GL007z10Gb007+00GL007*00Gb008000GL008100Gb008200GL008300Gb008400GL008500Gb008600GL008700Gb008800GL008900Gb008A00GL008B00Gb008C00GL008D00Gb008E00GL008F00Gb008G00GL008H00Gb008I00GL008J00Gb008K00GL008L00Gb008M00GL008N00Gb008O00GL008P00Gb008Q00GL008R00Gb008S00GL008T00Gb008U00GL008V00Gb",
    "008W00GL008X00Gb008Y00GL008Z00Gb008a00GL008b00Gb008c00GL008d00Gb008e10GL008f10Gb008g10GL008h10Gb008i10GL008j10Gb008k00GL008l00Gb008m00GL008n00Gb008o10GL008p10Gb008q00Gb008w00GL008y00Gb008z00GL008*00Gb009100GL009200Gb009300GL009700Gb009800GL009900Gb009A00GL009B00Gb009C00GL009D00Gb009E00GL009F00Gb00AK00G500AL00Gb00Am000b00Av000500",
    "B0000b00B2002100B6000500BI002100BW000b00Bb002100Bi000500Bj002100Bk000500Bl002100C0000100D5000X00D6000100DZ00G100Dm000L00Dn000b00Do000L00Dp000b00Dq000500Dr002100Ds000L00Dt000b00Du200000Dw000b00D+009100D*000L00E0200000E4002100E6000L00E7009100E8000L00EB200000EC000L00ED200000EE000L00EG000b00EH000L00EY200000EZ000L00Ei000b00FF000L00FG",
    "000b00FI000L00FJ100L00FL000b00FO000L00FP000b00FQ000L00FR000b00FS000L00FT000b00FU000L00FV000b00FW000L00FX000b00FY000L00FZ000b00Fa000L00Fb000b00Fc000L00Fd000b00Fe000L00Ff000b00Fg000L00Fh000b00Fi000L00Fj000b00Fk000L00Fl000b00Fq000L00Fr000b00Fs002100Ft000L00Fu000b00Fv000L00Fx000b00Fz000L00G0100L00G1000L00GD100L00GE000L00Gm000b00HG10",
    "0b00HH000b00HT100b00HU000b00HW000L00HX000b00HY000L00HZ000b00Ha000L00Hb000b00Hc000L00Hd000b00He000L00Hf000b00Hg000L00Hh000b00Hi000L00Hj000b00Hk000L00Hl000b00Hm000L00Hn000b00Ho000L00Hp000b00Hq000L00Hr000b00Hs000L00Ht000b00Hu000L00Hv000b00Hw000L00Hx000b00Hy000L00Hz000b00H+000L00H*000b00I0000L00I1000b00I2002100I3000100IA000L00IB000b",
    "00IC000L00ID000b00IE000L00IF000b00IG000L00IH000b00II000L00IJ000b00IK000L00IL000b00IM000L00IN000b00IO000L00IP000b00IQ000L00IR000b00IS000L00IT000b00IU000L00IV000b00IW000L00IX000b00IY000L00IZ000b00Ia000L00Ib000b00Ic000L00Id000b00Ie000L00If000b00Ig000L00Ih000b00Ii000L00Ij000b00Ik000L00Il000b00Im000L00In000b00Io000L00Ip000b00Iq000L00",
    "Ir000b00Is000L00It000b00Iu000L00Iv000b00Iw000L00Ix000b00Iy000L00Iz000b00I+000L00I*000b00J0000L00J2000b00J3000L00J4000b00J5000L00J6000b00J7000L00J8000b00J9000L00JA000b00JB000L00JC000b00JD000L00JE000b00JG000L00JH000b00JI100L00JJ100b00JK000L00JL000b00JM000L00JN000b00JO000L00JP000b00JQ100L00JR100b00JS100L00JT100b00JU100L00JV100b00JW",
    "000L00JX000b00JY100L00JZ100b00Ja100L00Jb100b00Jc100L00Jd100b00Je000L00Jf000b00Jg100L00Jh100b00Ji100L00Jj100b00Jk100L00Jl100b00Jm100L00Jn100b00Jo000L00Jp000b00Jq100L00Jr100b00Js000L00Jt000b00Ju100L00Jv100b00Jw000L00Jx000b00Jy000L00Jz000b00J+000L00J*000b00K0000L00K1000b00K2000L00K3000b00K4000L00K5000b00K6000L00K7000b00K8000L00K900",
    "0b00KA000L00KB000b00KC000L00KD000b00KE000L00KF000b00KG000L00KH000b00KI000L00KJ000b00KK000L00KL000b00KM000L00KN000b00KO000L00KP000b00KQ000L00KR000b00KS000L00KT000b00KU000L00KV000b00KW000L00KX000b00KY000L00KZ000b00Ka000L00Kb000b00Kc000L00Kd000b00Ke000L00Kf000b00Kg000L00Kh000b00Ki000L00Kj000b00Kk000L00Kl000b00Km200000Kn000L00LN2000",
    "00LP000500LQ009100LW000b00M9009100MB200000MD002100MG200000MH000100M+009100M*000100N0009100N1000100N3009100N4000100N6009100N7000100N8200000NG000500Nh200000Nl000500Np009100Nr200000O02G0000O60G2100O90G9100OB002100OC0G9100OE0G2100OG0G0100OR0G9100OS2G0000OT0G9100OW0G0500PB0G0100PW0G2900Pg0G9100Pk0G0500Pm0G0100Pn0G0500RK0G9100RL0G0500",
    "RM0G0100RT2G0000RU0G2100RV0G0100RY0m0100RZ0G0100Rb0G0500Rd0G0100Rf0G2100Rg0G0100Rk0G0500Rm0G2900Rw0G0500Rz0G2100R*0G0500S0009100SE200000SG000500SH000100SI000500Sm000100TB200000TD000500TG0G0500U0000500Uc000100Un000500Uo200000V0002900VA000500Vh000100Vq000500Vs002100Vt009100Vw000500Vx200000Vz000100V+002100W0000500WM000100WQ000500WR",
    "000100Wa000500Wb000100We000500Wf000100Wk200000Wm009100W*200000X0000500XP000100XS200000XU009100XV200000XW000500Xh200000Xm0G0500Y80G2100Y90G0500YF200000YG2G0000YI200000YO0G0100YW0G0500ZA0G0100ZY2G0000ZZ0G0100a0000100a4000500aw000100az000500a+000100bG000500bH000100bO000500bY000100ba009100bc002900bm009100bn000500c1000100c4200000c500",
    "0500cD200000cF000500cH200000cJ000500cf200000cg000500cn200000co000500cp200000cs000500cw200000cy000100cz000500c+000100d5200000d7000100d9200000dB000100dE000500dF200000dN000100dO200000dS000500dU200000dV000500dY000100da200000dc002900dm000500do002100dy000500dz009100d+000100d*200000e1000100e4200000e5000500eB200000eF000500eH200000eJ0005",
    "00ef200000eg000500en200000eo000500eq200000er000500et200000eu000500ew200000ey000100ez200000e+000100f3200000f7000100f9200000fB000100fE200000fH000100fI200000fP000500fT200000fU000500fV200000fc002900fm000100fo000500fr000100fs009100ft200000g1000100g4200000g5000500gE200000gF000500gI200000gJ000500gf200000gg000500gn200000go000500gq200000",
    "gr000500gw200000gy000100gz000500g+000100h6200000h7000100hA200000hB000100hE200000hG000500hH200000hW000500hY000100ha200000hc002900hm009100hn002100ho200000hv000500hw000100i0200000i1000100i4200000i5000500iD200000iF000500iH200000iJ000500if200000ig000500in200000io000500iq200000ir000500iw200000iy000100iz000500i+000100j5200000j7000100j9",
    "200000jB000100jE200000jL000100jO200000jS000500jU200000jV000500jY000100ja200000jc002900jm002100jn000500jo002100ju200000k2000100k3000500k4200000k5000500kB200000kE000500kH200000kI000500kM200000kP000500kR200000kS000500kT200000kU000500kW200000kZ000500kb200000ke000500kh200000kk000500kw200000k+000100l3200000l6000100l9200000lA000100lE20",
    "0000lG000500lH200000lN000100lO200000lc002900lm002100lx200000m0000100m5000500mD200000mE000500mH200000mI000500mf200000mg000500mw200000my000100mz000500m+000100n5200000n6000100n9200000nA000100nE200000nL000100nN200000nO000500nR200000nT000500nU200000nW000500nY000100na200000nc002900nm200000nt009100nu002100o0000500o1000100o4009100o50005",
    "00oD200000oE000500oH200000oI000500of200000og000500oq200000or000500ow200000oy000100oz000500o+000100p5200000p6000100p9200000pA000100pE200000pL000100pN200000pT000500pV200000pW000500pY000100pa200000pc002900pm200000pn000500pp200000q0000100q4000500qD200000qE000500qH200000qI000500qx000100qz000500q+000100r5200000r6000100r9200000rA000100",
    "rE000500rF002100rG200000rK000500rN000100rO002100rV000500rY000100ra200000rc002900rm002100rw000500s0200000s1000100s4200000s5000500sN200000sQ000500so200000sp000500sy200000sz000500s+200000t0000500t7200000tA000100tB200000tF000100tL200000tM000100tN200000tO000100tW200000tc002900tm200000to000100tq009100tr200000u1080500un080100uo080500uq",
    "080100ux200000u*082100v0080500v7080100vF089100vG082900vQ089100vS200000w1000500w3200000w4000500w5200000w6000500wB200000wC000500wa200000wb000500wc200000wd000500wn000100wo000500wq000100wz000500w+200000x0000500x5200000x6000500x7200000x8000100xE200000xG002900xQ200000xS000500xW200000y0000500y1002100y4009100yJ002100yK009100yL002100yO00",
    "0100yQ002100yW002900yg002100yr000100ys002100yt000100yu002100yv000100yw001100y+000100z0000500z8200000z9000500zj200000zn000100+5009100+6000100+8000500+D000100+O200000+P000100+z200000++002100*6000100*7002100*D200000*E002100*G009100*L002100*P009100*R200001000005010h0001010*000501100029011A0091011G0005011M0001011Q0005011U0001011X0005",
    "011Y0001011b0005011d0001011k0005011n0001011r000501220001012E0005012F0001012G0029012Q0001012U0021012W000L013620000137000L01382000013D000L013E2000013G000b013x0091013y0005013z000b014004050180000501992000019A0005019E2000019G0005019N2000019O0005019P2000019Q0005019U2000019W000501A9200001AA000501AE200001AG000501An200001Ao000501As200001",
    "Au000501A*200001B0000501B1200001B2000501B6200001B8000501BN200001BO000501CH200001CI000501CM200001CO000501DR200001DT000101DW009101Df002901Do002101Dz200001E0000501EG002101EQ200001EW000L01Fs200001Fu000b01F+200001G0009101G1000501Pj002101Pk009101Pl000501Q0008201Q1000501QR001101QT200001QW000501Rh009101Rk002101Rn000501Rv200001S0000501SI",
    "000101SM200001SV000501So000101Sr009101St200001T0000501TI000101TK200001TW000501Tj200001Tk000501Tn200001To000101Tq200001U0000501Uq000101VK009101VN000501VO009101VR002101VS000501VT000101VU200001VW002901Vg200001Vm002101Vw200001W0009101WB000101WE200001WF000101WG002901WQ200001WW000501Xv200001Y0000501Y5000101Y7000501Yf000101Yg000501Yh20",
    "0001Ym000501Zs200001a0000501aV200001aW000101ai200001am000101ay200001b0002101b1200001b4009101b6002901bG000501bk200001bm000501br200001c0000501ci200001cm000501dA200001dG002901dR200001dU002101e0000501eN000101eS200001eU009101eW000501fL000101fV200001fW000101fz200001f*000101g0002901gA200001gG002901gQ200001gW009101gd000501ge009101gk2000",
    "01gm000101g*00G101h1000101hC00G101hF200001i0000101i5000501iq000101j5000501jD200001jG002901jQ009101jX002101jh000101jq002101jz009101j*200001k0000101k3000501kX000101kk000501km002901kw000501lc000101lq200001ly009101m0000501ma000101mu200001mx009101n0002901nA200001nD000501nG002901nQ000501n+009101o0000b01o9200001oG000L01ox200001oz000L01",
    "p0009101p8200001pG000101pJ009101pK000101pf000501pj000101pk000501pq000101pr000501pt000101pw000501px200001q000Gb01qc000b01rY00Gb01rc000b01rh00Gb01ru000b01rv00Gb01sR000b01t0000101tA00G101tB000101tJ00G101to10G101tr000101u000GL01u100Gb01u200GL01u300Gb01u400GL01u500Gb01u600GL01u700Gb01u810GL01u910Gb01uA00GL01uB00Gb01uC00GL01uD00Gb01uE",
    "00GL01uF00Gb01uG10GL01uH10Gb01uI10GL01uJ10Gb01uK10GL01uL10Gb01uM10GL01uN10Gb01uO10GL01uP10Gb01uQ10GL01uR10Gb01uS10GL01uT10Gb01uU00GL01uV00Gb01uW10GL01uX10Gb01uY00GL01uZ00Gb01ua00GL01ub00Gb01uc10GL01ud10Gb01ue10GL01uf10Gb01ug00GL01uh00Gb01ui10GL01uj10Gb01uk10GL01ul10Gb01um10GL01un10Gb01uo00GL01up00Gb01uq00GL01ur00Gb01us00GL01ut00",
    "Gb01uu00GL01uv00Gb01uw00GL01ux00Gb01uy10GL01uz10Gb01u+10GL01u*10Gb01v000GL01v100Gb01v200GL01v300Gb01v400GL01v500Gb01v600GL01v700Gb01v800GL01v900Gb01vA10GL01vB10Gb01vC10GL01vD10Gb01vE10GL01vF10Gb01vG10GL01vH10Gb01vI10GL01vJ10Gb01vK10GL01vL10Gb01vM00GL01vN00Gb01vO00GL01vP00Gb01vQ00GL01vR00Gb01vS00GL01vT00Gb01vU00GL01vV00Gb01vW00GL",
    "01vX00Gb01vY00GL01vZ00Gb01va10GL01vb10Gb01vc00GL01vd00Gb01ve00GL01vf00Gb01vg00GL01vh00Gb01vi00GL01vj00Gb01vk00GL01vl00Gb01vm10GL01vn10Gb01vo10GL01vp10Gb01vq10GL01vr10Gb01vs10GL01vt10Gb01vu10GL01vv10Gb01vw10GL01vx10Gb01vy10GL01vz10Gb01v+00GL01v*00Gb01w010GL01w110Gb01w210GL01w310Gb01w410GL01w510Gb01w600GL01w700Gb01w800GL01w900Gb01",
    "wA00GL01wB00Gb01wC10GL01wD10Gb01wE00GL01wF00Gb01wG10GL01wH10Gb01wI00GL01wJ00Gb01wK00GL01wL00Gb01wN10Gb01wQ00Gb01wU00GL01wV00Gb01wW00GL01wX00Gb01wY00GL01wZ00Gb01wa10GL01wb10Gb01wc10GL01wd10Gb01we10GL01wf10Gb01wg10GL01wh10Gb01wi10GL01wj10Gb01wk00GL01wl00Gb01wm00GL01wn00Gb01wo00GL01wp00Gb01wq00GL01wr00Gb01ws00GL01wt00Gb01wu00GL01wv",
    "00Gb01ww00GL01wx00Gb01wy10GL01wz10Gb01w+10GL01w*10Gb01x010GL01x110Gb01x210GL01x310Gb01x410GL01x510Gb01x610GL01x710Gb01x800GL01x900Gb01xA00GL01xB00Gb01xC00GL01xD00Gb01xE00GL01xF00Gb01xG10GL01xH10Gb01xI10GL01xJ10Gb01xK10GL01xL10Gb01xM10GL01xN10Gb01xO10GL01xP10Gb01xQ00GL01xR00Gb01xS00GL01xT00Gb01xU00GL01xV00Gb01xW00GL01xX00Gb01xY00",
    "GL01xZ00Gb01xa00GL01xb00Gb01xc00GL01xd00Gb01xe00GL01xf00Gb01xg00GL01xh00Gb01xi00GL01xj00Gb01xk00GL01xl00Gb01xm00GL01xn00Gb01xo10GL01xp10Gb01xq00GL01xr00Gb01xs00GL01xt00Gb01xu10GL01xv10Gb01xw00GL01xx00Gb01xy00GL01xz00Gb01x+00GL01x*00Gb01y0000b01y8000L01yG000b01yM200001yO000L01yU200001yW000b01ye000L01ym000b01yu000L01z0000b01z62000",
    "01z8000L01zE200001zG000b01zO200001zP000L01zQ200001zR000L01zS200001zT000L01zU200001zV000L01zW000b01ze000L01zm000b01z+200001+0000b01+8000501+G000b01+O000501+W000b01+e000501+m000b01+n100b01+o000b01+r200001+s000b01+u000L01+v100L01+w000L01+y000501+z002101++000b01+*002101*2000b01*5200001*6000b01*8000L01*C000501*D002101*G000b01*H100b01",
    "*I000b01*K200001*M000b01*O000L01*P100L01*Q000L01*S200001*T002101*W000b01*X100b01*Y000b01*e000L01*f100L01*g000L01*j002101*m200001*o000b01*r200001*s000b01*u000L01*y000501*z002101**200002000092020B2010020G0091020O0011020W0091020e0092020g2010020l0092020m0091020v0011020x0091021400310215001102170091021I0031021J0091021V0092021W2010021i",
    "2G10021k2010021m0029021n00Gb021o2000021q0029021w0021021z0011021*00Gb02200029022A0021022D0011022F2000022G00Gb022T2000022W002102312000023G0001023n2000024000210242000L024300210247000L02480021024A000b024B000L024E000b024G000L024J000b024K0021024L000L024M0021024P000L024U0021024a000L024b0021024c000L024d0021024e000L024f0021024g000L024k00",
    "21024l000b024m000L024q000b024r0005024v000b024w0021024y000b024+000L025000210255000L0256000b025A0021025E000b025F0021025W002H025m002X026000210263002L026400Ib02650021026C2020026G002102C8001102CC002102Cf001102Ch002102Gd200002H0002102HB200002HW002902Hf002102Hq002902Hz002102I8002902IH002102IS00I102Is00IH02JG00IX02Jg002902Jh002102Jr0029",
    "02J+002102J*002902K0002102ST00I102SW002102Te001102Ts002902T*002102U0002902U9002102UA002902UJ002102V5001102V7002102Vc001102Vm002102c3001102cP002102dO001102dS002102da102102db002102dy001102d+002102eZ102102eb002102ec102102ed002102es102102et002102fl102102fm002102hp102102hq002102jq200002js002102kM200002kN002102m0000L02mk00GL02ml000L02",
    "mm000b02nU00Gb02nV000b02nW00GL02nX00Gb02nY00GL02nb00Gb02nd00GL02ne00Gb02nf00GL02ng00Gb02nh00GL02ni00Gb02nj00GL02nn00Gb02no00GL02np00Gb02nr00GL02ns00Gb02nz000b02n+00GL02o0000L02o1000b02o2000L02o3000b02o4000L02o5000b02o6000L02o7000b02o8000L02o9000b02oA000L02oB000b02oC000L02oD000b02oE000L02oF000b02oG000L02oH000b02oI000L02oJ000b02oK",
    "000L02oL000b02oM000L02oN000b02oO000L02oP000b02oQ000L02oR000b02oS000L02oT000b02oU000L02oV000b02oW000L02oX000b02oY000L02oZ000b02oa000L02ob000b02oc000L02od000b02oe000L02of000b02og000L02oh000b02oi000L02oj000b02ok000L02ol000b02om000L02on000b02oo000L02op000b02oq000L02or000b02os000L02ot000b02ou000L02ov000b02ow000L02ox000b02oy000L02oz00",
    "0b02o+000L02o*000b02p0000L02p1000b02p2000L02p3000b02p4000L02p5000b02p6000L02p7000b02p8000L02p9000b02pA000L02pB000b02pC000L02pD000b02pE000L02pF000b02pG000L02pH000b02pI000L02pJ000b02pK000L02pL000b02pM000L02pN000b02pO000L02pP000b02pQ000L02pR000b02pS000L02pT000b02pU000L02pV000b02pW000L02pX000b02pY000L02pZ000b02pb002102ph000L02pi000b",
    "02pj000L02pk000b02pl000102po000L02pp000b02pq200002pv009102pz002102p+009102q0000b02qc200002qd000b02qe200002qj000b02qk200002qm000502re200002rl000502rm009102rn200002r*000102s0000502sN200002sW000502sd200002se000502sl200002sm000502st200002su000502s*200002t0000502t7200002t8000502tF200002tG000502tN200002tO000502tV200002tW000102u0009102",
    "u2001102u6009102u9001102uB009102uC001102uE009102uQ109102uS001102uU009102uW001102ug009102ul001502um009102v2001102v3009102vG003102vI009102vL001102vT009102vU201002w000Y102wQ200002wR00Y102xq200002y0002102*M200002*m002102*y2000030000920301009103040031030500150307003103080011030I0031030K0011030S0091030T0011030W0031030g0011030k0411030m",
    "0091030n0015030s0031030x0015030z0091030+00310310200003110105032N2000032P0301032R0321032T0105032W0391032X0205033x0291033y0305033z02050340200003450005034m2000034n0405036F2000036G0021036W0005037000Y1037a2000037m020503800421038T0021038V2000038W0021039W0421039y0021039+0421039*002103BG022103B*002103G000W504t0002104u000W50A0000050AID20",
    "000AIG00210AJ720000AJG00050AJ+00910AK000050AOD00910AOG00050AOW00290AOg00050AOi20000AP0000L0AP1000b0AP2000L0AP3000b0AP4000L0AP5000b0AP6000L0AP7000b0AP8000L0AP9000b0APA000L0APB000b0APC000L0APD000b0APE000L0APF000b0APG000L0APH000b0API000L0APJ000b0APK000L0APL000b0APM000L0APN000b0APO000L0APP000b0APQ000L0APR000b0APS000L0APT000b0APU000L",
    "0APV000b0APW000L0APX000b0APY000L0APZ000b0APa000L0APb000b0APc000L0APd000b0APe000L0APf000b0APg000L0APh000b0APi000L0APj000b0APk00050APl00010APp00910APq00010AP+00910AP*00050AQ0000L0AQ1000b0AQ2000L0AQ3000b0AQ4000L0AQ5000b0AQ6000L0AQ7000b0AQ8000L0AQ9000b0AQA000L0AQB000b0AQC000L0AQD000b0AQE000L0AQF000b0AQG000L0AQH000b0AQI000L0AQJ000b0A",
    "QK000L0AQL000b0AQM000L0AQN000b0AQO000L0AQP000b0AQQ000L0AQR000b0AQU00010AQW00050ARc00210ARm00010ARo00910ARu20000AS000210ASN00050ASW00210ASY00GL0ASZ00Gb0ASa00GL0ASb00Gb0ASc00GL0ASd00Gb0ASe00GL0ASf00Gb0ASg00GL0ASh00Gb0ASi00GL0ASj00Gb0ASk00GL0ASl00Gb0ASo00GL0ASp00Gb0ASq00GL0ASr00Gb0ASs00GL0ASt00Gb0ASu00GL0ASv00Gb0ASw00GL0ASx00Gb0ASy",
    "00GL0ASz00Gb0AS+00GL0AS*00Gb0AT000GL0AT100Gb0AT200GL0AT300Gb0AT400GL0AT500Gb0AT600GL0AT700Gb0AT800GL0AT900Gb0ATA00GL0ATB00Gb0ATC00GL0ATD00Gb0ATE00GL0ATF00Gb0ATG00GL0ATH00Gb0ATI00GL0ATJ00Gb0ATK00GL0ATL00Gb0ATM00GL0ATN00Gb0ATO00GL0ATP00Gb0ATQ00GL0ATR00Gb0ATS00GL0ATT00Gb0ATU00GL0ATV00Gb0ATW00GL0ATX00Gb0ATY00GL0ATZ00Gb0ATa00GL0ATb00",
    "Gb0ATc00GL0ATd00Gb0ATe00GL0ATf00Gb0ATg00GL0ATh00Gb0ATi00GL0ATj00Gb0ATk00GL0ATl00Gb0ATm000b0ATn00Gb0ATv00GL0ATw00Gb0ATx00GL0ATy00Gb0ATz00GL0AT*00Gb0AU000GL0AU100Gb0AU200GL0AU300Gb0AU400GL0AU500Gb0AU600GL0AU700Gb0AU800050AU900210AUB00GL0AUC00Gb0AUD00GL0AUE00Gb0AUF00G50AUG00GL0AUH00Gb0AUI00GL0AUJ00Gb0AUM00GL0AUN00Gb0AUO00GL0AUP00Gb",
    "0AUQ00GL0AUR00Gb0AUS00GL0AUT00Gb0AUU00GL0AUV00Gb0AUW00GL0AUX00Gb0AUY00GL0AUZ00Gb0AUa00GL0AUb00Gb0AUc00GL0AUd00Gb0AUe00GL0AUf00Gb0AUg00GL0AUl00Gb0AUm00GL0AUr00Gb0AUs00GL0AUt00Gb0AUu00GL0AUv00Gb0AUw00GL0AUx00Gb0AUy00GL0AUz00Gb0AU+00GL0AU*00Gb0AV000GL0AV100Gb0AV200GL0AV300Gb0AV400GL0AV800Gb0AV900GL0AVA00Gb0AVB20000AVG00GL0AVH00Gb0A",
    "VI20000AVJ00Gb0AVK20000AVL00Gb0AVM00GL0AVN00Gb0AVO00GL0AVP00Gb0AVQ20000AVo00050AVr00GL0AVs00Gb0AVt00G50AVu000b0AVw00Gb0AVx00G50AW000050AW200010AW300050AW600010AW700050AWB00010AWC00050AWZ00010AWe00210AWi00010AWj20000AWm00210AWw20200AX000050AXq00910AXu20000AY000010AY200050AYq00010AZ620000AZE00910AZG00290AZQ20000AZW00010AZo00050AZu",
    "00910AZx00050AZy00910AZz00050AZ*00010Aa000290AaA00050Aac00010Aak00910Aam00050Ab700010AbK20000AbV00910AbW04050Abz20000Ac000010Ac400050Acp00010Ad100910AdE20000AdF00050AdG00290AdQ20000AdU00910AdW00050Adb00010Adc00050Adm00290Adw00050Ad*20000Ae000050Aef00010Aet20000Af000050Af300010Af400050AfC00010AfE20000AfG00290AfQ20000AfS00910AfW00",
    "050Aft00210Afw00050Afx00010Af+00050Agm00010Agn00050Ago00010Agr00050Agt00010Agv00050Ag+00010Ah000050Ah100010Ah200050Ah320000AhR00050AhU00910AhW00050Ahh00010Ahm00910Aho00050Ahr00010Aht20000Ai100050Ai720000Ai900050AiF20000AiH00050AiN20000AiW00050Aid20000Aie00050Ail20000Aim00Gb0AjR00210AjS000b0AjW00Gb0Ajb000b0Ajc00Gb0Ajf00050Ajg0021",
    "0Aji20000Ajm000b0Al000050AlZ00010Alh00910Ali00010Alk20000Alm00290Alw20000Am004050DUa20000DUm04050DV720000DVB04050DVy20000Fa000W50Ffk20000Ffm00W50FhQ20000Fi000Ib0Fi720200FiJ002b0FiO20200FiT00050FiU00210FiV00050Fif00210Fig00050Fit20200Fiu00050Fiz20200Fi+00050Fi*20200Fj000050Fj220200Fj300050Fj520200Fj600050FjG0m050FjH0G050FjI0m050F",
    "jJ0G050FjM0m050FjN0G050FjQ0m050FjR0G050FjU0m050FjV0G050FjY0m050FjZ0G050Fjc0m050Fjd0G050Fjg0m050Fjh0G050Fjk0m050Fjl0G050Fjo0m050Fjp0G050Fjs0m050Fjt0G050Fjw0m050Fjx0G050Fj+0m050Fj*0G050Fk20m050Fk30G050Fk40m050Fk50G050Fk60m050Fk70G050Fk80m050Fk90G050FkA0m050FkB0G050FkC0m050FkD0G050FkE0m050FkF0G050FkI0m050FkJ0G050FkM0m050FkN0G050FkQ",
    "0m050FkR0G050FkU0m050FkV0G050FkW0m050FkX0G050Fka0m050Fkb0G050Fkc0m050Fkd0G050Fkg0m050Fkh0G050Fkk0m050Fkl0G050Fkm0m050Fkn0G050Fko0G210Fl320200FlJ0m050FlK0G050FlN0m050FlO0G050FlP0m050FlQ0G050FlR0m050FlS0G050FlT0m050FlV0G050FlW0m050FlX0G050FlY0m050FlZ0G050Fla0m050Flb0G050Flg0m050Flh0G050Fli0m050Flj0G050Flk0m050Fll0G050Flm0m050Fln0G",
    "050Flo0m050Flp0G050Flq0m050Flr0G050Fls0m050Flt0G050Flv0m050Flw0G050Fly0m050Flz0G050Fm00m050Fna0G050Fpr0m050FqH0G050Fqz0m050Fq+00310Fr00G210FrG0G050FsG20200FsI0G050Ft820200FtF0G210FtG20200Ftm0m050Ftw0G050Fty00210Ftz0G210Fu000010FuG00B10FuN00310FuP00B10FuQ20200FuW00010Fum00B10Fur00310Fv500B10Fv700310Fv900B10FvG00910FvJ20000FvK0091",
    "0FvP00110FvV00910FvY00210FvZ00910Fva00210Fvd20000Fve00910Fvf00210Fvg00910Fvi20000Fvm0m050Fvn0G050Fvo0m050Fvp0G050Fvq0m050Fvr20200Fvs0m050Fvt0G050Fvu0m050Fvv0G050Fvw0m050Fvx0G050Fvy0m050Fvz0G050Fv+0m050Fv*0G050Fw00m050Fw20G050Fw30m050Fw40G050Fw50m050Fw60G050Fw70m050Fw80G050Fw90m050FwA0G050FwD0m050FwE0G050FwF0m050FwG0G050FwJ0m050F",
    "wK0G050FwL0m050FwM0G050FwP0m050FwQ0G050FwT0m050FwU0G050FwX0m050FwY0G050Fwb0m050Fwc0G050Fwf0m050Fwg0G050Fwh0m050Fwi0G050Fwj0m050Fwk0G050Fwl0m050Fwm0G050Fwn0m050Fwo0G050Fwr0m050Fws0G050Fwv0m050Fww0G050Fwz0m050Fw+0G050Fx10m050Fx20G050Fx50m050Fx60G050Fx90m050FxA0G050FxD0m050FxE0G050FxH0m050FxI0G050FxL0m050FxM0G050FxP0m050FxQ0G050FxT",
    "0m050FxU0G050FxX0m050FxY0G050Fxb0m050Fxc0G050Fxf0m050Fxg0G050Fxj0m050Fxk0G050Fxl0m050Fxm0G050Fxn0m050Fxo0G050Fxr0m050Fxs0G050Fxt0m050Fxu0G050Fxv0m050Fxw0G050Fxx0m050Fxy0G050Fxz20200Fx*00200Fy020200Fy100B10Fy400210Fy500B10Fy800310FyA00B10FyB00210FyC00B10FyG00290FyQ00B10FyS00210FyV00B10FyX00IL0Fyx00310Fyy00B10Fyz00310Fy+00210Fy*00",
    "B10Fz000210Fz100Ib0FzR00310FzS00A10FzT00310FzU00210FzV00310FzX00B10FzY00310Fza00B10Fzb02B10Fzc02050Fzm03250Fzn02050F+U02250F+W04050F+*20200F*204050F*820200F*A04050F*G20200F*I04050F*O20200F*Q04050F*T20200F*W00210F*d20200F*e00210F*l20200F*m20000F*y00210F*+20000G0000050G0C20000G0D00050G0d20000G0e00050G0x20000G0y00050G0+20000G0*0005",
    "0G1E20000G1G00050G1U20000G2000050G3x20000G4000910G4320000G4700210G4q20000G4t00210G6F20000G6G00210G6T20000G6W00210G6X20000G7G00210G7z00010G7+20000GA000050GAT20000GAW00050GBH20000GBW00010GBX00210GBy20000GC000050GCW00210GCa20000GCj00050GD100210GD200050GDA00210GDB20000GDG00050GDs00010GDx20000GE000050GEU20000GEV00910GEW00050GF420000G",
    "F800050GFG00910GFH00210GFM20000GG0000L0GGe000b0GHG00050GIU20000GIW00290GIg20000GIm000L0GJK20000GJO000b0GJy20000GK000050GKe20000GKm00050GLa20000GLl00910GLm000L0GLx20000GLy000L0GMB20000GMC000L0GMJ20000GMK000L0GMM20000GMN000b0GMY20000GMZ000b0GMo20000GMp000b0GMw20000GMx000b0GMz20000GO000050GSt20000GT000050GTM20000GTW00050GTe20000GU0",
    "000b0GU100050GU3000b0GU620000GU7000b0GUn20000GUo000b0GUx20000GW000050GW620000GW800050GW920000GWA00050GWs20000GWt00050GWv20000GWy00050GWz20000GW*00050GXM20000GXN00910GXO00210GXW00050GXt00210GY000050GYV20000GYd00210GYm20000GZW00050GZp20000GZq00050GZs20000GZx00210Ga000050GaM00210GaS20000GaV00910GaW00050Gaw20000Ga*00910Gb020000Gc000",
    "050Gcu20000Gcy00210Gc+00050Gd000210GdG20000GdI00210Ge000050Ge100010Ge420000Ge500010Ge720000GeC00010GeG00050GeK20000GeL00050GeO20000GeP00050Ges20000Geu00010Gex20000Ge*00010Gf000290Gf400210Gf920000GfG00910GfP20000GfW00050Gfz00210Gf*00910Gg000050GgT00210GgW20000Gh000050Gh800210Gh900050Ghb00010Ghd20000Ghh00210Ghm00910Ght20000Gi00005",
    "0Gis20000Giv00910Gj000050GjM20000GjO00210GjW00050Gjp20000Gju00210Gk000050GkI20000GkP00910GkT20000Gkf00210Gkm20000Gm000050Gn920000Go0000L0Gop20000Gp0000b0Gpp20000Gpw00210Gq000050Gqa00010Gqe20000Gqm00290Gqw20000GvW00290Gvf00210Gv*20000Gw000050Gwg20000Gwh00010Gwj00910Gwk20000Gwm00050Gwn10050Gwo20000Gy000050GyT00210Gyd00050Gye20000G",
    "ym00050Gz600010GzH00210GzL00910GzQ20000Gzm00050G+200010G+600910G+A20000G+m00050G*500210G*C20000G*W00050G*t20000H0000010H0300050H0u00010H1700910H1E20000H1I00290H1R00210H1c00290H1m00010H1n00050H1p00010H1r00050H1s20000H1*00010H2300050H2m00010H2x00910H2z20000H2+00910H3200010H3320000H3G00050H3f20000H3m00290H3w20000H4000010H4300050H4d",
    "00010H4r20000H4s00290H5000910H5400050H5500010H5700050H5820000H5G00050H5p00010H5q00910H5s00050H5t20000H6000010H6300050H6p00010H7100050H7500910H7900010H7D00910H7E00010H7G00290H7Q00050H7R00910H7S00050H7T00910H7W20000H7X00210H7r20000H8000050H8I20000H8J00050H8i00010H8u00910H8+00010H8*20000HA000050HA720000HA800050HA920000HAA00050HAE20",
    "000HAF00050HAU20000HAV00050HAf00910HAg20000HAm00050HBV00010HBh20000HBm00290HBw20000HC000010HC420000HC500050HCD20000HCF00050HCH20000HCJ00050HCf20000HCg00050HCn20000HCo00050HCq20000HCr00050HCw20000HCx00010HCz00050HC+00010HD520000HD700010HD920000HDB00010HDE20000HDG00050HDH20000HDN00010HDO20000HDT00050HDY00010HDa20000HDc00010HDj2000",
    "0HDm00010HDr20000HG000050HGr00010HH700050HHB00910HHG00290HHQ00910HHS20000HHT00910HHU00010HHV00050HHY20000HI000050HIm00010HJ400050HJ600910HJ700050HJ820000HJG00290HJQ20000HM000050HMl00010HMs20000HMu00010HN100910HNO00050HNS00010HNU20000HO000050HOm00010HP100910HP400050HP520000HPG00290HPQ20000HPW00910HPj20000HQ000050HQh00010HQu00050H",
    "Qv00910HQw20000HR000290HRA20000HS000050HSR20000HST00010HSi20000HSm00290HSw00210HSy00910HS*00210HT000050HT720000HW000050HWi00010HWx00910HWy20000HYW000L0HZ0000b0HZW00290HZg00210HZp20000HZ*00050Ha720000Ha900050HaA20000HaC00050HaK20000HaL00050HaN20000HaO00050Ham00010Has20000Hat00010Hav20000Hax00010Ha*00050Hb000010Hb100050Hb200010Hb4",
    "00910Hb720000HbG00290HbQ20000HcW00050Hce20000Hcg00050HdH00010HdO20000HdQ00010HdX00050HdY00910HdZ00050Hda00010Hdb20000He000050He100010HeB00050Hep00010Hew00050Hex00010He*00910Hf700010Hf820000HfG00050HfH00010HfS00050HgA00010HgQ00910HgT00050HgU00910HgZ20000Hgm00050Hhv20000Hm000050Hm920000HmA00050Hml00010Hmt20000Hmu00010Hn000050Hn100",
    "910Hn620000HnG00290HnQ00210Hnj20000Hnm00910Hno00050HoG20000HoI00010Hoe20000Hof00010Hot20000Hq000050Hq720000Hq800050HqA20000HqB00050Hqn00010Hqt20000Hqw00010Hqx20000Hqy00010Hq+20000Hq*00010Hr600050Hr700010Hr820000HrG00290HrQ20000HrW00050Hrc20000Hrd00050Hrf20000Hrg00050HsA00010HsF20000HsG00010HsI20000HsJ00010HsO00050HsP20000HsW0029",
    "0Hsg20000HxW00050Hxp00010Hxt00910Hxv20000H+m00050H+n20000H*000210H*o20000H**00910I0000050IEQ20000IG000310IHl20100IHm00910IHr20100II000050IL420000I+G00050I*n00910I*p20000J0000050JGl20000KG000050KP720000MW000050Mev20000Mf000050MfV20000MfW00290Mfg20000Mfk00910Mfm00050Mg*20000Mh000290MhA20000MhG00050Mhk20000Mhm00010Mhr00910Mhs20000M",
    "i000050Mim00010Mit00910Miy00210Mj000050Mj400910Mj500210Mj620000MjG00290MjQ20000MjR00210MjY20000MjZ00050Mju20000Mjz00050MkG20000Mv0000L0MvW000b0Mw000210MwN00910MwR20000My000050MzB20000MzF00010MzG00050MzH00010M+820000M+F00010M+J00050M+W20000M*W00150M*Y00910M*Z00150M*a00110M*b20100M*m00110M*o20100N0000050OVu20000OW000050OpM20000Oq0",
    "00050Oq920000Q*m02050Q*q20000Q*r02050Q*y20000Q*z02050Q**20000R0002050R0101050R0200050R4V01050R4W02050R4Z20000R5G01050R5J20000R5a02050R5e20000R5m00050RBy20000Rm000050Rnh20000Rnm00050Rnz20000Ro000050Ro920000RoG00050RoQ20000RoS00210RoT00010RoV00910RoW20000Sy000010Syk20000Sym00010Sz720000SzG00210S*420000T0000210T3s20000T4000210T4d20",
    "000T4f00210T5b00010T5g00210T5j00010T5p20000T5x00010T6300210T6500010T6C00210T6g00010T6k00210T7h20000T8000210T9200010T9500210T9620000TBW00210TBq20000TC000210TDN20000TDW00210TDv20000TG0000L0TGQ000b0TGq000L0THE000b0THL20000THM000b0THe000L0TI2000b0TIS000L0TIT20000TIU000L0TIW20000TIY000L0TIZ20000TIb000L0TId20000TIf000L0TIj20000TIk000L",
    "0TIs000b0TIw20000TIx000b0TIy20000TIz000b0TJ420000TJ5000b0TJG000L0TJg000b0TK4000L0TK620000TK7000L0TKB20000TKD000L0TKL20000TKM000L0TKT20000TKU000b0TKu000L0TKw20000TKx000L0TK*20000TL0000L0TL520000TL6000L0TL720000TLA000L0TLH20000TLI000b0TLi000L0TM6000b0TMW000L0TMw000b0TNK000L0TNk000b0TO8000L0TOY000b0TOy000L0TPM000b0TPm000L0TQA000b0T",
    "Qc20000TQe000L0TR100210TR2000b0TRR00210TRS000b0TRY000L0TRx00210TRy000b0TSL00210TSM000b0TSS000L0TSr00210TSs000b0TTF00210TTG000b0TTM000L0TTl00210TTm000b0TU900210TUA000b0TUG000L0TUf00210TUg000b0TV300210TV4000b0TVA000L0TVB000b0TVC20000TVE00290TW000210Te000010Tet00210Tex00010Tfj00210Tfr00010Tfs00210Tg400010Tg500210Tg700910TgC20000TgR",
    "00010TgW20000TgX00010Tgm20000Ty000Gb0TyA00G50TyB00Gb0TyV20000U0000010U0720000U0800010U0P20000U0R00010U0Y20000U0Z00010U0b20000U0c00010U0h20000U4000050U4j20000U4m00010U4t00050U4+20000U5000290U5A20000U5E00050U5F00210U5G20000UAG00050UAk00010UAl20000UB000050UBi00010UBm00290UBw20000UB*00210UC020000UVW00050UVd20000UVe00050UVi20000UVj00",
    "050UVl20000UVm00050UV*20000UW000050UZ520000UZ700210UZG00010UZN20000Ua0000L0UaY000b0Ub400010UbB00050UbC20000UbG00290UbQ20000UbU00910UbW20000Unn00210Uor20000Uq100210Uq+20000Uu00G050Uu420000Uu50G050UuW20000UuX0G050UuZ20000Uua0G050Uub20000Uud0G050Uue20000Uuf0G050Uup20000Uuq0G050Uuu20000Uuv0G050Uuw20000Uux0G050Uuy20000Uv20G050Uv32000",
    "0Uv70G050Uv820000Uv90G050UvA20000UvB0G050UvC20000UvD0G050UvG20000UvH0G050UvJ20000UvK0G050UvL20000UvN0G050UvO20000UvP0G050UvQ20000UvR0G050UvS20000UvT0G050UvU20000UvV0G050UvW20000UvX0G050UvZ20000Uva0G050Uvb20000Uvd0G050Uvh20000Uvi0G050Uvp20000Uvq0G050Uvu20000Uvv0G050Uvz20000Uv+0G050Uv*20000Uw00G050UwA20000UwB0G050UwS20000UwX0G050U",
    "wa20000Uwb0G050Uwg20000Uwh0G050Uwy20000Uxm0G210Uxo20000V0000210V0i20000V0m00210V2K20000V2W00210V2l20000V2n00210V3020000V3100210V3G20000V3H00210V3s20000V4000290V4B00210V4G00I10V4j00210V4m00IH0V5A00210V5G00IH0V5g00210V5m00IH0V6A00I10V6B00210V6b00I10V6c00210V6k20000V7c00210V8001210V8102210V8320000V8G00Y10V8J02210V8K00Y10V8y20000V90",
    "00Y10V9920000V9G00210V9I20000V9W00210V9c20000VC000610VKW00M10VKY00610VKa00M10VKb00610VL600M10VL800610VPG00210VRO20000VRT00210VRj20000VRm00210VRz20000VS000210VTq20000VU000210VVP20000VVW00210VVi20000VVm00210VVn20000VW000210VWC20000VWG00210VX820000VXG00210VXQ20000VXW00210VY820000VYG00210VYk20000VYm00210VYo20000Va000610Ve000210VfK20",
    "000VfW00210Vfk20000Vfm00610Vfr20400Vfu00610Vfz20400Vg000610Vg720400VgG00610Vgj20400Vgm00610Vgx20400Vh000610Vh620400VhG00610VhQ20400VhW00610Vhe20400Vhm00610Vht20400Vi000210VkJ20000VkK00210VlB20000Vlm00290Vlw20000W0000W50gRW20000gS000W50hSv20000hT000W50hWU20000hWW00W50iwY20000iwm00W50klX20000lW000W50leU20000m0000W50nDB20003W1120G0",
    "3W1R20003W1X20G03W1x20003W4000013W7m2000"]

/-- The blocks, two six-digit numbers each: the first and the last code point; the names of
the blocks in `blockNames` stand in the same order. -/
def blockData : String :=
  String.join [
    "0000000V000W001*0020003*0040005*0060009F009G00Al00Am00B*00C000Dl00Dm00F*00G000J*00K000Kl00Km00MF00MG00N*00O000R*00S000TF00TG00T*00U000U*00V000V*00W000W*00X000XV00XW00Xl00Xm00YV00YW00Z*00a000b*00c000d*00e000f*00g000h*00i000j*00k000l*00m000n*00o000p*00q000r*00s000t*00u000v*00w000x*00y000**0100012V012W013*0140017*018001D*01E001EV01",
    "EW01F*01G001P*01Q001QV01QW01R*01S001SV01SW01S*01T001TV01TW01T*01U001V*01W001Yl01Ym01Z*01a001bF01bG01b*01c001dV01dW01d*01e001eV01eW01gl01gm01h*01i001j*01k001k*01l001l*01m001nF01nG01n*01o001oF01oG01o*01p001pF01pG01p*01q001r*01s001s*01t001t*01u001x*01y001**0200021l021m022V022W023F023G023*0240025F025G026F026G027*028002B*02C002F*02G0",
    "02G*02H002HV02HW02J*02K002L*02M002MV02MW02N*02O002R*02S002U*02V002Vl02Vm02V*02W002Z*02a002b*02c002d*02e002h*02i002l*02m002nV02nW02n*02o002p*02q002ql02qm02r*02s002tV02tW02t*02u002v*02w002x*02y002*V02*m02**0300030*0310032V032W033*0340034l034m036F036G036V036W036*0370037l037m037*038003B*03C003F*03G004s*04t004t*04u009**0A000AIF0AIG0A",
    "JF0AJG0AJ*0AK00AO*0AP00AQV0AQW0AR*0AS00ASV0ASW0AV*0AW00AWl0AWm0AW*0AX00AX*0AY00AZV0AZW0AZ*0Aa00Aal0Aam0AbV0AbW0Ab*0Ac00AdV0AdW0Ad*0Ae00AfV0AfW0Af*0Ag00AhV0AhW0Ah*0Ai00Ail0Aim0Ajl0Ajm0Ak*0Al00Al*0Am00DUl0DUm0DV*0DW00Dj*0Dk00Dl*0Dm00D**0E000FZ*0Fa00Fh*0Fi00FjF0FjG0Ft*0Fu00FuF0FuG0FuV0FuW0Ful0Fum0FvF0FvG0Fvl0Fvm0Fx*0Fy00F*l0F*m0F**",
    "0G000G1*0G200G3*0G400G4*0G500G6F0G6G0G7F0G7G0G7*0GA00GAV0GAW0GBV0GBW0GB*0GC00GCl0GCm0GDF0GDG0GD*0GE00GEV0GEW0GFV0GG00GHF0GHG0GH*0GI00GIl0GIm0GJ*0GK00GKl0GKm0GLl0GLm0GM*0GO00GT*0GU00GU*0GW00GW*0GX00GXV0GXW0GX*0GY00GYl0GZW0GZ*0Ga00GaV0GaW0Ga*0Gc00GcV0GcW0Gd*0Ge00GfV0GfW0Gf*0Gg00GgV0Gh00Gh*0Gi00Gi*0Gj00GjV0GjW0Gj*0Gk00Gkl0Gm00GnF0G",
    "o00Gp*0Gq00Gq*0GvW0Gv*0Gw00Gw*0Gx00Gx*0Gy00Gyl0Gym0Gzl0Gzm0G+l0G+m0G*V0G*W0G**0H000H1*0H200H3F0H3G0H3*0H400H5F0H5G0H5*0H600H7V0H7W0H7*0H800H9F0HA00HAl0HAm0HB*0HC00HD*0HG00HH*0HI00HJV0HM00HN*0HO00HPV0HPW0HP*0HQ00HRF0HS00HTF0HW00HXF0HYW0HZ*0Ha00HbV0HcW0Hd*0He00HfF0HfG0Hgl0Hgm0Hg*0Hh00Hh*0Hi00HjV0Hm00Hnl0Hnm0Ho*0Hq00HrV0HrW0Hsl0HxW",
    "0Hx*0Hy00HzV0H+m0H+*0H*00H**0I000IF*0IG00IH*0II00ILF0I+G0I**0J000JGl0JGm0JHV0KG00KP*0MW00Me*0Mf00Mfl0Mfm0MhF0MhG0Mh*0Mi00MkF0Mv00MwV0My00M+V0M*W0M**0N000OV*0OW00Oh*0Oi00Op*0Oq00Or*0Q*m0Q**0R000R3*0R400R4l0R4m0R5l0R5m0RB*0Rm00RoV0RoW0Rol0Sy00S*F0T000T3*0T400T7*0T800T9F0TB00TBV0TBW0TB*0TC00TDV0TDW0TD*0TG00TV*0TW00Tgl0Ty00T**0U000U",
    "0l0U0m0U2F0U400U5F0UAG0UA*0UB00UB*0UJG0UJ*0UVW0UV*0UW00UZV0Ua00UbV0Unm0Uo*0Uq00UrF0Uu00Ux*0V000V0l0V0m0V2V0V2W0V3*0V400V7*0V800VB*0VC00VN*0VO00VPF0VPG0VP*0VQ00VR*0VS00VT*0VU00VV*0VW00VZ*0Va00Vd*0Ve00Vfl0Vfm0Vh*0Vi00Vl*0W000gRV0gS00hS*0hT00hWV0hWW0iwl0iwm0kll0lW00leV0m000nDF0nDG0oEl3W003W1*3W403W7l3m003***40004F**"]

set_option maxRecDepth 2000 in
/-- The names of the blocks, in the order of `blockData`. -/
def blockNames : Array String := #[
  "Control character",
  "Basic Latin",
  "Latin-1 Supplement",
  "Latin Extended-A",
  "Latin Extended-B",
  "IPA Extensions",
  "Spacing Modifier Letters",
  "Combining Diacritical Marks",
  "Greek and Coptic",
  "Cyrillic",
  "Cyrillic Supplement",
  "Armenian",
  "Hebrew",
  "Arabic",
  "Syriac",
  "Arabic Supplement",
  "Thaana",
  "NKo",
  "Samaritan",
  "Mandaic",
  "Syriac Supplement",
  "Arabic Extended-B",
  "Arabic Extended-A",
  "Devanagari",
  "Bengali",
  "Gurmukhi",
  "Gujarati",
  "Oriya",
  "Tamil",
  "Telugu",
  "Kannada",
  "Malayalam",
  "Sinhala",
  "Thai",
  "Lao",
  "Tibetan",
  "Myanmar",
  "Georgian",
  "Hangul Jamo",
  "Ethiopic",
  "Ethiopic Supplement",
  "Cherokee",
  "Unified Canadian Aboriginal Syllabics",
  "Ogham",
  "Runic",
  "Tagalog",
  "Hanunoo",
  "Buhid",
  "Tagbanwa",
  "Khmer",
  "Mongolian",
  "Unified Canadian Aboriginal Syllabics Extended",
  "Limbu",
  "Tai Le",
  "New Tai Lue",
  "Khmer Symbols",
  "Buginese",
  "Tai Tham",
  "Combining Diacritical Marks Extended",
  "Balinese",
  "Sundanese",
  "Batak",
  "Lepcha",
  "Ol Chiki",
  "Cyrillic Extended-C",
  "Georgian Extended",
  "Sundanese Supplement",
  "Vedic Extensions",
  "Phonetic Extensions",
  "Phonetic Extensions Supplement",
  "Combining Diacritical Marks Supplement",
  "Latin Extended Additional",
  "Greek Extended",
  "General Punctuation",
  "Superscripts and Subscripts",
  "Currency Symbols",
  "Combining Diacritical Marks for Symbols",
  "Letterlike Symbols",
  "Number Forms",
  "Arrows",
  "Mathematical Operators",
  "Miscellaneous Technical",
  "Control Pictures",
  "Optical Character Recognition",
  "Enclosed Alphanumerics",
  "Box Drawing",
  "Block Elements",
  "Geometric Shapes",
  "Miscellaneous Symbols",
  "Dingbats",
  "Miscellaneous Mathematical Symbols-A",
  "Supplemental Arrows-A",
  "Braille Patterns",
  "Supplemental Arrows-B",
  "Miscellaneous Mathematical Symbols-B",
  "Supplemental Mathematical Operators",
  "Miscellaneous Symbols and Arrows",
  "Glagolitic",
  "Latin Extended-C",
  "Coptic",
  "Georgian Supplement",
  "Tifinagh",
  "Ethiopic Extended",
  "Cyrillic Extended-A",
  "Supplemental Punctuation",
  "CJK Radicals Supplement",
  "Kangxi Radicals",
  "Ideographic Description Characters",
  "CJK Symbols and Punctuation",
  "Hiragana",
  "Katakana",
  "Bopomofo",
  "Hangul Compatibility Jamo",
  "Kanbun",
  "Bopomofo Extended",
  "CJK Strokes",
  "Katakana Phonetic Extensions",
  "Enclosed CJK Letters and Months",
  "CJK Compatibility",
  "CJK Unified Ideographs Extension A",
  "Yijing Hexagram Symbols",
  "CJK Unified Ideographs",
  "Yi Syllables",
  "Yi Radicals",
  "Lisu",
  "Vai",
  "Cyrillic Extended-B",
  "Bamum",
  "Modifier Tone Letters",
  "Latin Extended-D",
  "Syloti Nagri",
  "Common Indic Number Forms",
  "Phags-pa",
  "Saurashtra",
  "Devanagari Extended",
  "Kayah Li",
  "Rejang",
  "Hangul Jamo Extended-A",
  "Javanese",
  "Myanmar Extended-B",
  "Cham",
  "Myanmar Extended-A",
  "Tai Viet",
  "Meetei Mayek Extensions",
  "Ethiopic Extended-A",
  "Latin Extended-E",
  "Cherokee Supplement",
  "Meetei Mayek",
  "Hangul Syllables",
  "Hangul Jamo Extended-B",
  "High Surrogates",
  "High Private Use Surrogates",
  "Low Surrogates",
  "Private Use Area",
  "CJK Compatibility Ideographs",
  "Alphabetic Presentation Forms",
  "Arabic Presentation Forms-A",
  "Variation Selectors",
  "Vertical Forms",
  "Combining Half Marks",
  "CJK Compatibility Forms",
  "Small Form Variants",
  "Arabic Presentation Forms-B",
  "Halfwidth and Fullwidth Forms",
  "Specials",
  "Linear B Syllabary",
  "Linear B Ideograms",
  "Aegean Numbers",
  "Ancient Greek Numbers",
  "Ancient Symbols",
  "Phaistos Disc",
  "Lycian",
  "Carian",
  "Coptic Epact Numbers",
  "Old Italic",
  "Gothic",
  "Old Permic",
  "Ugaritic",
  "Old Persian",
  "Deseret",
  "Shavian",
  "Osmanya",
  "Osage",
  "Elbasan",
  "Caucasian Albanian",
  "Vithkuqi",
  "Linear A",
  "Latin Extended-F",
  "Cypriot Syllabary",
  "Imperial Aramaic",
  "Palmyrene",
  "Nabataean",
  "Hatran",
  "Phoenician",
  "Lydian",
  "Meroitic Hieroglyphs",
  "Meroitic Cursive",
  "Kharoshthi",
  "Old South Arabian",
  "Old North Arabian",
  "Manichaean",
  "Avestan",
  "Inscriptional Parthian",
  "Inscriptional Pahlavi",
  "Psalter Pahlavi",
  "Old Turkic",
  "Old Hungarian",
  "Hanifi Rohingya",
  "Rumi Numeral Symbols",
  "Yezidi",
  "Arabic Extended-C",
  "Old Sogdian",
  "Sogdian",
  "Old Uyghur",
  "Chorasmian",
  "Elymaic",
  "Brahmi",
  "Kaithi",
  "Sora Sompeng",
  "Chakma",
  "Mahajani",
  "Sharada",
  "Sinhala Archaic Numbers",
  "Khojki",
  "Multani",
  "Khudawadi",
  "Grantha",
  "Newa",
  "Tirhuta",
  "Siddham",
  "Modi",
  "Mongolian Supplement",
  "Takri",
  "Ahom",
  "Dogra",
  "Warang Citi",
  "Dives Akuru",
  "Nandinagari",
  "Zanabazar Square",
  "Soyombo",
  "Unified Canadian Aboriginal Syllabics Extended-A",
  "Pau Cin Hau",
  "Devanagari Extended-A",
  "Bhaiksuki",
  "Marchen",
  "Masaram Gondi",
  "Gunjala Gondi",
  "Makasar",
  "Kawi",
  "Lisu Supplement",
  "Tamil Supplement",
  "Cuneiform",
  "Cuneiform Numbers and Punctuation",
  "Early Dynastic Cuneiform",
  "Cypro-Minoan",
  "Egyptian Hieroglyphs",
  "Egyptian Hieroglyph Format Controls",
  "Anatolian Hieroglyphs",
  "Bamum Supplement",
  "Mro",
  "Tangsa",
  "Bassa Vah",
  "Pahawh Hmong",
  "Medefaidrin",
  "Miao",
  "Ideographic Symbols and Punctuation",
  "Tangut",
  "Tangut Components",
  "Khitan Small Script",
  "Tangut Supplement",
  "Kana Extended-B",
  "Kana Supplement",
  "Kana Extended-A",
  "Small Kana Extension",
  "Nushu",
  "Duployan",
  "Shorthand Format Controls",
  "Znamenny Musical Notation",
  "Byzantine Musical Symbols",
  "Musical Symbols",
  "Ancient Greek Musical Notation",
  "Kaktovik Numerals",
  "Mayan Numerals",
  "Tai Xuan Jing Symbols",
  "Counting Rod Numerals",
  "Mathematical Alphanumeric Symbols",
  "Sutton SignWriting",
  "Latin Extended-G",
  "Glagolitic Supplement",
  "Cyrillic Extended-D",
  "Nyiakeng Puachue Hmong",
  "Toto",
  "Wancho",
  "Nag Mundari",
  "Ethiopic Extended-B",
  "Mende Kikakui",
  "Adlam",
  "Indic Siyaq Numbers",
  "Ottoman Siyaq Numbers",
  "Arabic Mathematical Alphabetic Symbols",
  "Mahjong Tiles",
  "Domino Tiles",
  "Playing Cards",
  "Enclosed Alphanumeric Supplement",
  "Enclosed Ideographic Supplement",
  "Miscellaneous Symbols and Pictographs",
  "Emoticons range(Emoji)",
  "Ornamental Dingbats",
  "Transport and Map Symbols",
  "Alchemical Symbols",
  "Geometric Shapes Extended",
  "Supplemental Arrows-C",
  "Supplemental Symbols and Pictographs",
  "Chess Symbols",
  "Symbols and Pictographs Extended-A",
  "Symbols for Legacy Computing",
  "CJK Unified Ideographs Extension B",
  "CJK Unified Ideographs Extension C",
  "CJK Unified Ideographs Extension D",
  "CJK Unified Ideographs Extension E",
  "CJK Unified Ideographs Extension F",
  "CJK Compatibility Ideographs Supplement",
  "CJK Unified Ideographs Extension G",
  "CJK Unified Ideographs Extension H",
  "Tags",
  "Variation Selectors Supplement",
  "Supplementary Private Use Area-A",
  "Supplementary Private Use Area-B"]

/-- The accented letters, two six-digit numbers each: the letter and the first code point of
its canonical decomposition. -/
def accentData : String :=
  String.join [
    "003000110031001100320011003300110034001100350011003700130038001500390015003A0015003B0015003C0019003D0019003E0019003F0019003H001E003I001F003J001F003K001F003L001F003M001F003P001L003Q001L003R001L003S001L003T001P003W001X003X001X003Y001X003Z001X003a001X003b001X003d001Z003e001b003f001b003g001b003h001b003i001f003j001f003k001f003l001f00",
    "3n001k003o001l003p001l003q001l003r001l003s001l003v001r003w001r003x001r003y001r003z001v003*001v004000110041001X004600130047001Z004800130049001Z004I0015004J001b004S0017004T001d004Y0017004Z001d004a0018004b001e004e0019004f001f004g0019004h001f004q001A004r001g004s001B004t001h004v001C004w001i004x001C004y001i0053001E0054001k0055001E0056",
    "001k005C001F005D001l005K001I005L001o005M001I005N001o005Q001J005R001p005S001J005T001p005U001J005V001p005Y001K005Z001q005e001L005f001r005g001L005h001r005k001L005l001r005q001N005r001t005s001P005t001v005u001P005v001Q005w001w007L003S007M003y007N003S007O003y007P003S007Q003y007R003S007S003y007U0034007V003a007Y0036007Z003c007q0017007r00",
    "1d007u001E007v001k007w0035007x003b007y0036007z003c008e0015008f001b008g003M008h003s008i003L008j003r008o001P008p001v00FJ00FI00FK00FI00G000GL00GD00GO00HG00Gr00HT00Gu00JI00GG00JJ00Gm00JQ00JO00JR00JP00JS00GM00JT00Gs00JU00GN00JV00Gt00JY00GO00JZ00Gu00Ja00GO00Jb00Gu00Jc00GU00Jd00G+00Jg00Je00Jh00Jf00Ji00Gj00Jj00HD00Jk00GZ00Jl00H300Jm00GZ",
    "00Jn00H300Jq00Gd00Jr00H700Ju00Gh00Jv00HB01to01to01tp01tp01tq01tq01u8003701u9003d01uG001401uH001a01uI001401uJ001a01uK004I01uL004J01uM004I01uN004J01uO001501uP001b01uQ001501uR001b01uS008e01uT008f01uW001701uX001d01uc001801ud001e01ue001801uf001e01ui001901uj001f01uk003F01ul003l01um001B01un001h01uy001C01uz001i01u+001D01u*001j01vA001E01",
    "vB001k01vC003L01vD003r01vE003L01vF003r01vG005C01vH005D01vI005C01vJ005D01vK001G01vL001m01va005Q01vb005R01vm001K01vn001q01vo001L01vp001r01vq001L01vr001r01vs001L01vt001r01vu005e01vv005f01vw005g01vx005h01vy001M01vz001s01w0001N01w1001t01w2001N01w3001t01w4001N01w5001t01wC001O01wD001u01wG001Q01wH001w01wN001q01wO001t01wP001v01wa003201wb",
    "003Y01wc003201wd003Y01we003201wf003Y01wg003201wh003Y01wi01wW01wj01wX01wy001501wz001b01w+003A01w*003g01x0003A01x1003g01x2003A01x3003g01x4003A01x5003g01x601wu01x701wv01xG003K01xH003q01xI003K01xJ003q01xK003K01xL003q01xM003K01xN003q01xO01xC01xP01xD01xo001P01xp001v01xu001P01xv001v01+n00En01+v00EH01*H00Ev01*P00EP01*X00F501*f00Eb02da02",
    "da02eZ02eZ02ea02ea02ec02ec02es02es02fl02fl02hp02hp02uQ02uQ02uR02uR0Gwn0Gwn"]

end Bookmarks.Charset
