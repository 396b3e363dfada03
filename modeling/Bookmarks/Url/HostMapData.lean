/-!
The UTS #46 mapping of host names, packed: how each code point is treated when a host is
mapped before its labels are checked. The standard rules are off, so a code point they alone
refuse is kept, or replaced when a replacement is given; deviations are kept.
-/
namespace Bookmarks.Url.HostMap

/-- Runs of code points and their treatment, two six-digit numbers each: eight times the first
code point plus the kind (0 kept, 1 dropped, 2 refused, 3 shifted, 4 replaced), then for a
shifted run the code point its first maps to, and for a replaced run thirty-two times the
offset of its replacement in `replacementData` plus the replacement's length. -/
def runData : String :=
  String.join [
    "00000000008B001X00BO000000G2000000K3000W00K8000000L4000200L8000000LJ001X00LO000000Lf000000Lm000000Ly001200M0000000MJ000o00Ma002200Mh00Ey00Mm000000N4003200NB000n00NJ001l00NO000000Na004300Ni005Z00Nq007300Nu000000O3003W00Qu000000R3003u00Ru000000W3004100W8000000WJ004300WO000000WZ004500We000000Wp004700Wu000000X3004900X8000000XJ004B00",
    "XO000000XZ004D00Xe000000Xp004F00Xu000000Y3004H00Y8000000YJ004J00YO000000YZ004L00Ye000000Yp004N00Yu000000Z3004P00Z8000000ZJ004R00ZO000000ZZ004T00Ze000000Zp004V00Zu000000a3004X00a8000000aJ004Z00aO000000aZ004b00ae000000ap004d00au000000b3004f00b8000000bJ004h00bO000000bZ004j00be000000bp004l00bu000000c4008Y00c8000000cK009Y00cZ004r00ce",
    "000000cp004t00cu000000dB004w00dG000000dR004y00dW000000dh004+00dm000000dy00AY00eB005200eG000000eR005400eW000000eh005600em000000ex005800f0000000fC00BY00fJ005B00fO000000fZ005D00fe000000fp005F00fu000000g3005H00g8000000gJ005J00gO000000gZ005L00ge000000gp005N00gu000000h3005P00h8000000hJ005R00hO000000hZ005T00he000000hp005V00hu000000i300",
    "5X00i8000000iJ005Z00iO000000iZ005b00ie000000ip005d00iu000000j3005f00j8000000jJ005h00jO000000jZ005j00je000000jp005l00ju000000k3005n00k8000000kJ005p00kO000000kZ005r00ke000000kp005t00ku000000l3003*00lB005w00lG000000lR005y00lW000000lh005+00lm000000lx001p00m0000000mB009J00mJ006300mO000000mZ006500me000000mp009K00mx006800n0000000nB009M",
    "00nR006C00nW000000np007T00nx009P00o3009R00oB006I00oG000000oR009W00oZ009Z00oe000000op009f00ox009e00p3006P00p8000000pZ009l00ph009o00pm000000px009r00q3006X00q8000000qJ006Z00qO000000qZ006b00qe000000qp00A000qx006e00r0000000rB00A300rG000000rZ006j00re000000rp00A800rx006m00s0000000sB00AA00sR006q00sW000000sh006s00sm000000sx00AI00t3006v00",
    "t8000000tZ006z00te000000ua00CY00uy00DY00vK00EY00vh007E00vm000000vx007G00w0000000wB007I00wG000000wR007K00wW000000wh007M00wm000000wx007O00x0000000xB007Q00xG000000xR007S00xW000000xp007V00xu000000y3007X00y8000000yJ007Z00yO000000yZ007b00ye000000yp007d00yu000000z3007f00z8000000zJ007h00zO000000zZ007j00ze000000zp007l00zu000000+C00FY00+Z",
    "007r00+e000000+p006L00+x006*00*3007v00*8000000*J007x00*O000000*Z007z00*e000000*p007*00*u00000103008101080000010J0083010O0000010Z0085010e0000010p0087010u00000113008901180000011J008B011O0000011Z008D011e0000011p008F011u00000123008H01280000012J008J012O0000012Z008L012e0000012p008N012u00000133008P01380000013J008R013O0000013Z008T013e00",
    "00013p008V013u00000143006U01480000014J008Z014O0000014Z008b014e0000014p008d014u00000153008f01580000015J008h015O0000015Z008j015e0000015p008l015u00000163008n01680000016J008p016O0000017J02nb017R008y017W0000017h006Q017p02nc017u0000018B0092018G0000018R0060018Z00A9018h00AC018p0097018u00000193009901980000019J009B019O0000019Z009D019e0000",
    "019p009F019u000001M3001e01MB009c01MJ001g01MR001o01MZ009v01Mh009x01Mp00A101Mx001t01N3001v01N8000001R400GY01RC00HY01RK00IY01RS00JY01Ra00KY01Ri00LY01Rm000001S3009Z01SB001i01SJ001p01SR001u01SZ00AL01Se000001e300C001eG000001eR00CJ01ea00MY01eh00Ev01em000001fv000001g0000001k300Dn01k8000001kJ00Dp01kO000001kZ00Av01ke000001kp00Dt01ku000001",
    "l2000001lK00NY01lO000001lp000x01lx00Fp01m2000001ma00OY01mi00PZ01mp00Ei01mx002t01n300Ej01nQ000001nZ00FC01ng000001np00FD01o0000001oB00En01qI000001qR00F301rW000001vx00FN01w300Eo01wB00Eu01wJ00F501wR00FD01wZ00FB01wh00F601wp00F001wu000001x300FP01x8000001xJ00FR01xO000001xZ00FT01xe000001xp00FV01xu000001y300FX01y8000001yJ00FZ01yO000001yZ",
    "00Fb01ye000001yp00Fd01yu000001z300Ff01z8000001zJ00Fh01zO000001zZ00Fj01ze000001zp00Fl01zu000001+300Ew01+B00F101+J00F301+O000001+Z00Eu01+h00Er01+m000001+x00Fu01*0000001*B00F301*J00Fx01*O000001*h00Dx020300HG022300Gm0260000002C300HX02C8000002CJ00HZ02CO000002CZ00Hb02Ce000002Cp00Hd02Cu000002D300Hf02D8000002DJ00Hh02DO000002DZ00Hj02De00",
    "0002Dp00Hl02Du000002E300Hn02E8000002EJ00Hp02EO000002EZ00Hr02Ee000002Ep00Ht02Eu000002F300Hv02F8000002FJ00Hx02FO000002FZ00Hz02Fe000002Fp00H*02Fu000002G300I102G8000002HJ00IB02HO000002HZ00ID02He000002Hp00IF02Hu000002I300IH02I8000002IJ00IJ02IO000002IZ00IL02Ie000002Ip00IN02Iu000002J300IP02J8000002JJ00IR02JO000002JZ00IT02Je000002Jp00IV",
    "02Ju000002K300IX02K8000002KJ00IZ02KO000002KZ00Ib02Ke000002Kp00Id02Ku000002L300If02L8000002LJ00Ih02LO000002LZ00Ij02Le000002Lp00Il02Lu000002M300In02M8000002MJ00Ip02MO000002MZ00Ir02Me000002Mp00It02Mu000002N300Iv02N8000002NJ00Ix02NO000002NZ00Iz02Ne000002Np00I*02Nu000002O2000002OB00J202OG000002OR00J402OW000002Oh00J602Om000002Ox00J802",
    "P0000002PB00JA02PG000002PR00JC02PW000002Ph00JE02Pm000002Q300JH02Q8000002QJ00JJ02QO000002QZ00JL02Qe000002Qp00JN02Qu000002R300JP02R8000002RJ00JR02RO000002RZ00JT02Re000002Rp00JV02Ru000002S300JX02S8000002SJ00JZ02SO000002SZ00Jb02Se000002Sp00Jd02Su000002T300Jf02T8000002TJ00Jh02TO000002TZ00Jj02Te000002Tp00Jl02Tu000002U300Jn02U8000002UJ",
    "00Jp02UO000002UZ00Jr02Ue000002Up00Jt02Uu000002V300Jv02V8000002VJ00Jx02VO000002VZ00Jz02Ve000002Vp00J*02Vu000002W300K102W8000002WJ00K302WO000002WZ00K502We000002Wp00K702Wu000002X300K902X8000002XJ00KB02XO000002XZ00KD02Xe000002Xp00KF02Xu000002Y300KH02Y8000002YJ00KJ02YO000002YZ00KL02Ye000002Yp00KN02Yu000002Z300KP02Z8000002ZJ00KR02ZO00",
    "0002ZZ00KT02Ze000002Zp00KV02Zu000002a300KX02a8000002aJ00KZ02aO000002aZ00Kb02ae000002ap00Kd02au000002b300Kf02b8000002bJ00Kh02bO000002bZ00Kj02be000002bp00Kl02bu000002c2000002cB00LX02gw000002h8000002my00R202n0000002nQ000002ne000002o2000002o8000002v2000002w0000002zQ000002zu000002+g0000030m0000033Y0000033e000003Ei00S203Eq00T203Ey00U2",
    "03F400V203F8000003Rg000003Rm000003Xo000003Y0000003fQ000003fe000003sI000003u0000003*Q000003*e0000045o000004600000047w00000480000004BY000004Bm000004Bw000004C0000004DQ000004E0000004Hw000004J0000004SI000004SO000004h400W204hC00X204hK00Y204hS00Z204ha00a204hi00b204hq00c204hy00d204i0000004mY000004me000004ng000004nu000004oA000004oO000004",
    "rA000004rG000004sA000004sG000004sQ000004sm000004tI000004tW000004ug000004uu000004vA000004vO000004vw000004wu000004x2000004xa00e204xi00f204xo000004xy00g204y0000004yY000004ym000004*w000005080000050Y0000050e0000051Q0000051u0000052A0000052O0000055A0000055G0000056A0000056G0000056S00h2056Y0000056e0000056q00i2056w000005700000057I0000057W",
    "0000057g0000057m0000058Q0000058u0000059A0000059O0000059o000005A8000005AI000005BC00j205BK00k205BS00l205BW000005Bg000005Bq00m205Bw000005Cm000005Ew000005G8000005GY000005Ge000005Ho000005Hu000005II000005IO000005LA000005LG000005MA000005MG000005MY000005Me000005NI000005NW000005Oo000005Ou000005PI000005PO000005Po000005Q0000005QA000005S000",
    "0005SY000005Sm000005UI000005V8000005W2000005W8000005WY000005We000005Xg000005Xu000005YA000005YO000005bA000005bG000005cA000005cG000005cY000005ce000005dI000005dW000005eg000005eu000005fA000005fO000005fo000005ge000005h2000005ha00n205hi00o205ho000005hu000005iY000005im000005l2000005mG000005mY000005me000005nQ000005nm000005oA000005oG0000",
    "05oo000005p8000005pQ000005pW000005pg000005pm000005q2000005qO000005qg000005r0000005rQ000005rm000005tI000005tm000005uQ000005um000005vA000005vG000005vo000005w0000005wA000005wu000005x2000005ym000005*Q000006000000061g0000061m0000062A0000062G0000065A0000065G0000067I0000067W0000068g0000068m0000069A0000069G0000069o000006Ae000006Aw000006",
    "B0000006BQ000006Be000006Bo000006C0000006CY000006Cm000006E2000006Eu000006Hg000006Hm000006IA000006IG000006LA000006LG000006MY000006Me000006NI000006NW000006Og000006Om000006PA000006PG000006Po000006Qe000006Qw000006Re000006Rw000006S0000006SY000006Sm000006U2000006U8000006UY000006W0000006Xg000006Xm000006YA000006YG000006eg000006em000006fA",
    "000006fG000006g2000006gW000006iY000006im000006m2000006m8000006mY000006me000006ow000006pG000006sI000006sO000006tY000006te000006to000006u0000006uw000006vG000006vQ000006vu000006wg000006wm000006ww000006x0000006y2000006ym000006+2000006+G000006+g000007080000076S00p2076W0000077Q0000077u000007BY000007G8000007GQ000007GW000007Gg000007Gm00",
    "0007HQ000007HW000007KY000007Ke000007Ko000007Ku000007MS00q207MW000007No000007O0000007Og000007Om000007Ow000007P0000007Pw000007Q0000007RI000007Ra00r207Ri00s207Rm000007S2000007W0000007XZ00yB07Xe000007eS00t207eW000007f2000007f8000007fi00u207fm000007gK00v207gO000007gy00w207h0000007ha00x207he000007jC00y207jG000007jg000007k8000007kS00z2",
    "07kW000007ki00+207kq00*207ky010307l4011Y07lC012Z07lG000007mC014207mG000007oS015207oW000007p2000007p8000007pi016207pm000007qK017207qO000007qy018207r0000007ra019207re000007tC01A207tG000007tg000007tm000007vg000007vm000007xQ00000800000008K2000008Ox02qd08P2000008Ph02qj08Po000008Q0000008VZ013S08Ve000008hw000008i80000099A0000099G000009",
    "9o000009A0000009Aw000009B0000009BA000009BG000009Bo000009C0000009HA000009HG000009Ho000009I0000009MA000009MG000009Mo000009N0000009Nw000009O0000009OA000009OG000009Oo000009P0000009Qw000009R0000009YA000009YG000009Yo000009Z0000009hQ000009he000009lg000009m0000009pI000009q0000009+o000009*301Fm09*o00000A0000000BG200000BG800000BJg00000BK0",
    "00000BVA00000BW000000BYo00000BZu00000Bcw00000Be000000BgY00000Bi000000Bjg00000Bjm00000BkA00000BkG00000BkY00000Bm000000BsY00000Bsm00000Bxo00000By000000BzI00000B+000000B*I00000C0000000C0o00000C0u00000C1P00000C1o00000C1v00000C2000000C3I00000C4000000CFA00000CG000000CLQ00000CM000000CUo00000CW000000CZw00000Ca000000CbY00000Cc000000CdY00",
    "000Ce000000CeA00000CeW00000Cjo00000Ck000000Ckg00000Cm000000CrY00000Cs000000CvI00000Cw000000CxQ00000Cxm00000D3Y00000D3m00000DBw00000DC000000DFg00000DFu00000DHI00000DI000000DJI00000DK000000DLo00000DM000000DPw00000DW000000Dfg00000Dg000000Dlw00000Dm000000D+Y00000D*W00000E7200000E7O00000E9I00000E9e00000EG300Go0EGB00Gq0EGJ00G+0EGR00H1",
    "0EGa01B10EGp00HA0EGx00HZ0EH30APB0EHA00000EI3013G0ENQ00000ENh013z0EO000000EP200000EQ000000EVQ00000EW000000EbZ001X0Ebh003c0Ebp001Y0Ebu00000Ec3001a0EcJ007T0EcR001d0EdO00000EdZ001l0Edh008Z0Edp001m0Edx001o0Ee3001q0EeJ001t0EeR001X0EeZ009G0Eep01q20Eex001Y0Ef3001a0EfJ009P0EfR009R0Efh001d0Efm00000Efx001h0Eg3001j0EgB005B0EgJ001l0EgR009K0E",
    "gZ01qM0Egp001m0Egx001q0EhB01qT0EhJ009l0EhR001s0EhZ01qb0Ehh00Eo0Ei300F60EiJ001f0EiR001o0EiZ001r0Eip00Eo0Ej300F10EjB00F60EjO00000El300Gz0El800000EpR009I0EpZ001Z0Eph009L0Epp003m0Epx009S0Eq3001c0EqB009V0EqJ009X0EqR009b0EqZ009e0Eqx01rx0Er300AT0ErB009j0ErJ01s50ErR00AV0ErZ009n0Erh009m0Erp009o0EsJ009u0EsR00A20Esh006h0Esp00A90Et301qS0EtB",
    "00AB0EtR001w0EtZ00AG0Etx00Eu0Eu000000F0301u10F0800000F0J01u30F0O00000F0Z01u50F0e00000F0p01u70F0u00000F1301u90F1800000F1J01uB0F1O00000F1Z01uD0F1e00000F1p01uF0F1u00000F2301uH0F2800000F2J01uJ0F2O00000F2Z01uL0F2e00000F2p01uN0F2u00000F3301uP0F3800000F3J01uR0F3O00000F3Z01uT0F3e00000F3p01uV0F3u00000F4301uX0F4800000F4J01uZ0F4O00000F4Z01",
    "ub0F4e00000F4p01ud0F4u00000F5301uf0F5800000F5J01uh0F5O00000F5Z01uj0F5e00000F5p01ul0F5u00000F6301un0F6800000F6J01up0F6O00000F6Z01ur0F6e00000F6p01ut0F6u00000F7301uv0F7800000F7J01ux0F7O00000F7Z01uz0F7e00000F7p01u*0F7u00000F8301v10F8800000F8J01v30F8O00000F8Z01v50F8e00000F8p01v70F8u00000F9301v90F9800000F9J01vB0F9O00000F9Z01vD0F9e0000",
    "0F9p01vF0F9u00000FA301vH0FA800000FAJ01vJ0FAO00000FAZ01vL0FAe00000FAp01vN0FAu00000FB301vP0FB800000FBJ01vR0FBO00000FBZ01vT0FBe00000FBp01vV0FBu00000FC301vX0FC800000FCJ01vZ0FCO00000FCZ01vb0FCe00000FCp01vd0FCu00000FD301vf0FD800000FDJ01vh0FDO00000FDZ01vj0FDe00000FDp01vl0FDu00000FE301vn0FE800000FEJ01vp0FEO00000FEZ01vr0FEe00000FEp01vt0F",
    "Eu00000FF301vv0FF800000FFJ01vx0FFO00000FFZ01vz0FFe00000FFp01v*0FFu00000FG301w10FG800000FGJ01w30FGO00000FGZ01w50FGe00000FGp01w70FGu00000FH301w90FH800000FHJ01wB0FHO00000FHZ01wD0FHe00000FHp01wF0FHu00000FI301wH0FI800000FIJ01wJ0FIO00000FIZ01wL0FIe00000FJK01BY0FJR01vX0FJW00000FJp003V0FJu00000FK301wX0FK800000FKJ01wZ0FKO00000FKZ01wb0FKe",
    "00000FKp01wd0FKu00000FL301wf0FL800000FLJ01wh0FLO00000FLZ01wj0FLe00000FLp01wl0FLu00000FM301wn0FM800000FMJ01wp0FMO00000FMZ01wr0FMe00000FMp01wt0FMu00000FN301wv0FN800000FNJ01wx0FNO00000FNZ01wz0FNe00000FNp01w*0FNu00000FO301x10FO800000FOJ01x30FOO00000FOZ01x50FOe00000FOp01x70FOu00000FP301x90FP800000FPJ01xB0FPO00000FPZ01xD0FPe00000FPp01",
    "xF0FPu00000FQ301xH0FQ800000FQJ01xJ0FQO00000FQZ01xL0FQe00000FQp01xN0FQu00000FR301xP0FR800000FRJ01xR0FRO00000FRZ01xT0FRe00000FRp01xV0FRu00000FS301xX0FS800000FSJ01xZ0FSO00000FSZ01xb0FSe00000FSp01xd0FSu00000FT301xf0FT800000FTJ01xh0FTO00000FTZ01xj0FTe00000FTp01xl0FTu00000FU301xn0FU800000FUJ01xp0FUO00000FUZ01xr0FUe00000FUp01xt0FUu0000",
    "0FV301xv0FV800000FVJ01xx0FVO00000FVZ01xz0FVe00000FVp01x*0FVu00000FX301y00FY000000FYo00000FZ301yG0FZo00000Fa000000Fb301yW0Fc000000Fd301ym0Fe000000Feo00000Ff301z00Ffo00000Fg000000Fh200000FhB01zH0FhI00000FhR01zJ0FhY00000Fhh01zL0Fho00000Fhx01zN0Fi000000Fj301zW0Fk000000FkB00Ei0FkG00000FkR00Ej0FkW00000Fkh00Ek0Fkm00000Fkx00El0Fl000000F",
    "lB00FC0FlG00000FlR00FD0FlW00000Flh00FE0Flo00000Fm401CY0FmC01DY0FmK01EY0FmS01FY0Fma01GY0Fmi01HY0Fmq01IY0Fmy01JY0Fn401KY0FnC01LY0FnK01MY0FnS01NY0Fna01OY0Fni01PY0Fnq01QY0Fny01RY0Fo401SY0FoC01TY0FoK01UY0FoS01VY0Foa01WY0Foi01XY0Foq01YY0Foy01ZY0Fp401aY0FpC01bY0FpK01cY0FpS01dY0Fpa01eY0Fpi01fY0Fpq01gY0Fpy01hY0Fq401iY0FqC01jY0FqK01kY0FqS",
    "01lY0Fqa01mY0Fqi01nY0Fqq01oY0Fqy01pY0Fr401qY0FrC01rY0FrK01sY0FrS01tY0Fra01uY0Fri01vY0Frq01wY0Fry01xY0Fs000000FsK01yY0FsS01zY0Fsa01+Y0Fsg00000Fsm00000Fsy01*Y0Ft301+m0FtJ01zm0FtR00Ei0Fta020Y0Fti021Y0Ftp00Ev0Fty022Y0Fu4023Y0FuC024Z0FuK02620FuS02720Fua02820Fug00000Fum00000Fuy02920Fv301zo0FvB00Ej0FvJ01zq0FvR00Ek0Fva02A20Fvi02B30Fvq02",
    "CZ0Fvy02E30Fw000000FwR00EG0FwY00000Fwm00000Fx301*G0FxJ01zs0FxR00El0FxY00000Fxi02FZ0Fxq02H30Fxy02IZ0Fy000000FyR00Em0FyW00000Fz301*W0FzJ01zw0FzR00FD0FzZ01*b0Fzi02K30Fzq02LZ0Fzx001W0F+200000F+K02N20F+S02O20F+a02P20F+g00000F+m00000F+y02Q20F*301zu0F*B00FC0F*J01zy0F*R00FE0F*a02R20F*i02S20F*q02T20F*w00000G0402U10G1P00000G1W00000G1o0000",
    "0G2000000G2B020G0G2G00000G2y02UY0G3000000G4Y00000G4u00000G5200000G5x000W0G6000000G6S02VY0G6a02WZ0G6e00000G6q02Y20G6y02Z30G7000000G7a02aY0G7e00000G7q02bY0G7u00000G8y02cY0G9402dY0G9C02eY0G9G00000GAy02fa0GB000000GBx000W0GC100000GCA00000GCX00000GCg00000GE3000m0GEB001f0GEI00000GEZ000q0GFJ000h0GFR028I0GFZ000z0GFh000e0GFx001k0GG3000m0G",
    "HJ000h0GHR028I0GHZ000z0GHh000e0GHw00000GI3001X0GIB001b0GIJ001l0GIR001u0GIZ009P0GIh001e0GIp001h0GJJ001m0GJR001p0GJg00000GK000000GL402hY0GL800000GOA00000GQ000000GUA00000GW402iZ0GWC02k30GWJ001Z0GWS02lY0GWW00000GWi02mZ0GWq02o30GWx009R0GX000000GXC02pY0GXJ001d0GXS02qX0GXx004d0GY402r10GYK02rX0GYW00000GYh001k0GYq02s20GYu00000GZB001m0GZS",
    "02t10GZm00000Ga402tY0GaC02uZ0GaK02w20GaO00000GaZ001w0Gae00000Gap00F90Gau00000Gb3001w0Gb800000GbJ001h0GbR003b0GbZ001Y0Gbm00000Gby02x10GcB001c0GcI00000GcR001j0GcZ001l0Gch00NG0GdB001f0GdG00000GdS02xZ0GdZ00F00Gdi02z10Gdx00F00Ge3028H0Ge800000Gei02zX0Gex001b0Gf3001f0GfG00000Gg402+30GgC02*Z0GgK03140GgS03330Gga034Z0Ggi03630Ggq037Z0Ggy03",
    "930Gh403AZ0GhC03C30GhK03DZ0GhS03F30Gha03GZ0Ghi03I30Ghq03JZ0Ghy03L20Gi3001f0GiC03M20GiK03N30GiS03OY0GiZ001s0Gii03PY0Giq03QZ0Giy03S40Gj403U20GjB001u0GjK03V20GjS03W30GjZ001i0Gjh001Z0Gjx001j0Gk3001f0GkC03XY0GkK03YZ0GkS03a20GkZ001s0Gki03b20Gkq03c30Gky03da0Gl403fY0GlB001u0GlK03gY0GlS03hZ0GlZ001i0Glh001Z0Glx001j0Gm000000GmQ00000GmW0000",
    "0GnC03j30GnG00000GnY00000Go000000H5a03kY0H5i03lZ0H5m00000H5y03n20H6403o30H6800000HbB03080HbO00000I4w00000I8000000I9Q00000IC3000n0IDC03pY0IDK03qY0IDS03rY0IDa03sY0IDi03tY0IDq03uY0IDy03vY0IE403wY0IEC03xY0IEK03yY0IES03zY0IEa03+Z0IEi04030IEq041Z0IEy04330IF4044Z0IFC04630IFK047Z0IFS04930IFa04AZ0IFi04C40IFq04E40IFy04G40IG404I40IGC04K40I",
    "GK04M40IGS04O40IGa04Q40IGi04S40IGq04U40IGy04W40IH200000IJa04Y30IJi04ZZ0IJq04b30IJy04cZ0IK404e30IKC04fZ0IKK04h30IKS04iZ0IKa04k30IKi04lZ0IKq04n30IKy04oZ0IL404q30ILC04rZ0ILK04t30ILS04uZ0ILa04w30ILi04xZ0ILq04z30ILy04+Z0IM405030IMC051Z0IMK05330IMS054Z0IMa05630IMi057Z0IMp001X0IQ3001X0ITJ000m0ITO00000L1a05940L1e00000LEa05B30LEi05CY0LEq",
    "05DZ0LEu00000LRa05F20LRe00000LkY00000Lkm00000Loo00000Lou00000M0302mm0M6000000MC302nX0MC800000MCJ009h0MCR01rz0MCZ009z0MCe00000MCx02ne0MD000000MDB02ng0MDG00000MDR02ni0MDW00000MDh009H0MDp009n0MDx009G0ME3009I0ME800000MEJ02np0MEO00000MEh02ns0MEm00000MFZ001g0MFh001s0MFp008*0MG302o10MG800000MGJ02o30MGO00000MGZ02o50MGe00000MGp02o70MGu00",
    "000MH302o90MH800000MHJ02oB0MHO00000MHZ02oD0MHe00000MHp02oF0MHu00000MI302oH0MI800000MIJ02oJ0MIO00000MIZ02oL0MIe00000MIp02oN0MIu00000MJ302oP0MJ800000MJJ02oR0MJO00000MJZ02oT0MJe00000MJp02oV0MJu00000MK302oX0MK800000MKJ02oZ0MKO00000MKZ02ob0MKe00000MKp02od0MKu00000ML302of0ML800000MLJ02oh0MLO00000MLZ02oj0MLe00000MLp02ol0MLu00000MM302on",
    "0MM800000MMJ02op0MMO00000MMZ02or0MMe00000MMp02ot0MMu00000MN302ov0MN800000MNJ02ox0MNO00000MNZ02oz0MNe00000MNp02o*0MNu00000MO302p10MO800000MOJ02p30MOO00000MOZ02p50MOe00000MOp02p70MOu00000MP302p90MP800000MPJ02pB0MPO00000MPZ02pD0MPe00000MPp02pF0MPu00000MQ302pH0MQ800000MQJ02pJ0MQO00000MQZ02pL0MQe00000MQp02pN0MQu00000MR302pP0MR800000M",
    "RJ02pR0MRO00000MRZ02pT0MRe00000MRp02pV0MRu00000MS302pX0MS800000MSJ02pZ0MSO00000MTR02pi0MTW00000MTh02pk0MTm00000MUJ02pp0MUO00000MUY00000MV800000Mao00000Mau00000Mb200000Mbe00000Mbo00000Mc000000Mj200000Mjx02rX0Mk000000MkA00000Mlu00000Mow00000Mq000000Mqw00000Mr000000Mrw00000Ms000000Msw00000Mt000000Mtw00000Mu000000Muw00000Mv000000Mvw",
    "00000Mw000000Mww00000Mx000000Mxw00000My000000NBo00000NG000000NJI00000NJO00000NJx06lD0NK000000NUR09+V0NUY00000NW304u00NWB04ue0NWJ04us0NWR04u*0NWZ04vP0NWh04w50NWp04wC0NWx04wW0NX304ww0NXB054*0NXJ055b0NXR055h0NXZ05620NXh056M0NXp056h0NXx057W0NY3057r0NYB05800NYJ05AR0NYR05Bv0NYZ05CL0NYh05CQ0NYp05Cu0NYx05D10NZ305DS0NZB05Df0NZJ05E20NZR05",
    "Es0NZZ05F80NZh05FZ0NZp05RN0NZx05SV0Na305Zh0NaB05a20NaJ05aA0NaR05aL0NaZ05ad0Nah05bp0Nap05jG0Nax05k00Nb305lu0NbB05mF0NbJ05mY0NbR05mu0NbZ05nk0Nbh05nn0Nbp05tR0Nbx05tb0Nc305tn0NcB05t+0NcJ05vo0NcR05vw0NcZ05v*0Nch05xq0Ncp05x+0Ncx05yB0Nd305yJ0NdB05zG0NdJ05zX0NdR05zp0NdZ05*30Ndh06880Ndp068s0Ndx069B0Ne306Kl0NeB06Kq0NeJ06M70NeR06MN0NeZ06Ma",
    "0Neh06Mv0Nep06NW0Nex06Nb0Nf306Rm0NfB06S80NfJ06Se0NfR06iW0NfZ06jY0Nfh06jv0Nfp06kp0Nfx06lB0Ng306lK0NgB06lR0NgJ06mF0NgR06mK0NgZ06mq0Ngh071h0Ngp078g0Ngx078s0Nh3078x0NhB078*0NhJ07970NhR079P0NhZ079R0Nhh07Ai0Nhp07E40Nhx07E90Ni307JS0NiB07Jc0NiJ07KO0NiR07KV0NiZ07Ke0Nih07Km0Nip07MB0Nix07MI0Nj307Ps0NjB07Pz0NjJ07Qk0NjR07Q*0NjZ07Rk0Njh07VR0N",
    "jp07VY0Njx07Vp0Nk307aw0NkB07cu0NkJ07c+0NkR07fq0NkZ07hB0Nkh07hv0Nkp07np0Nkx07pu0Nl307ys0NlB07zH0NlJ07+A0NlR07+z0NlZ08010Nlh080C0Nlp080I0Nlx080p0Nm3081*0NmB08290NmJ087Z0NmR087g0NmZ087p0Nmh087y0Nmp088C0Nmx088R0Nn3088V0NnB089k0NnJ089o0NnR089u0NnZ08PD0Nnh08Ph0Nnp08X00Nnx08XC0No308XZ0NoB08b+0NoJ08cB0NoR08dI0NoZ08e00Noh08mt0Nop08n60Nox",
    "08nL0Np308nu0NpB08oT0NpJ08ra0NpR08rm0NpZ08sp0Nph08wh0Npp08xA0Npx08+R0Nq308+m0NqB08+r0NqJ092H0NqR09590NqZ09760Nqh097C0Nqp097H0Nqx09Lt0Nr309M00NrB09OS0NrJ09Qs0NrR09Qv0NrZ09Re0Nrh09TH0Nrp09TU0Nrx09TY0Ns309Tf0NsB09VB0NsJ09Vj0NsR09Vp0NsZ09W10Nsh09Ye0Nsp09ZR0Nsx09ZV0Nt309cM0NtB09cP0NtJ09ci0NtR09ge0NtZ09hO0Nth09hV0Ntp09ib0Ntx09il0Nu309",
    "io0NuB09iy0NuJ09jQ0NuR09pb0NuZ09vr0Nuh09v*0Nup09wb0Nux09wx0Nv309x30NvB09xD0NvJ09xH0NvR09xv0NvZ09xz0Nvh09yE0Nvp09yJ0Nvx09yW0Nw309yx0NwB09zA0NwJ09zI0NwR09+D0NwZ09+S0Nwh09+W0Nwo00000O03000W0O0800000O0J000k0O0O00000O6p030I0O6u00000O7305D10O7B05D40O7O00000O8200000O8800000OIw00000OJ800000OJS05G20OJa05H20OJe00000OJy05I20OK000000OVy05J2",
    "0OW200000OWe00000Oc200000OcB01400OcR016g0OcZ01420Och016i0Ocx01430OdJ016m0Oe3014Q0OeB01460OeZ014X0Oeh01490Ofx015X0OiY00000Oih014K0Oix01770OjB017C0OjJ017E0OjR017J0OjZ017N0Ojh017P0Ojp014S0Ojx017T0Ok3017V0OkB014T0OkR014W0OkZ014Y0Okp014d0Okx014f0Ol3014h0Olh014o0Olp014s0Olx01500Om301570OmB015C0OmJ017n0OmZ015N0Omx01640OnB01680OnJ016H0O",
    "nZ016K0Onh016U0Onp016X0Onw00000Oo000000OoJ04u00OoR04wC0OoZ04u90Ooh05RR0Oop04uA0Oox04uj0Op304uB0OpB07Ko0OpJ04vP0OpR04uP0OpZ04u10Oph05af0Opp05Sm0Opx04ww0Oq000000OyY00000O+000000P0405K30P0C05LZ0P0K05N30P0S05OZ0P0a05Q30P0i05RZ0P0q05T30P0y05UZ0P1405W30P1C05XZ0P1K05Z30P1S05aZ0P1a05c30P1i05dZ0P1q05f30P1y05gZ0P2405i30P2C05jZ0P2K05l30P2S",
    "05mZ0P2a05o30P2i05pZ0P2q05r30P2y05sZ0P3405u30P3C05vZ0P3K05x30P3S05yZ0P3a05+30P3i05*a0P3q061a0P3w00000P44063Z0P4C06530P4K066Z0P4S06830P4a069Z0P4i06B30P4q06CZ0P4y06E30P5406FZ0P5C06H30P5K06IZ0P5S06K30P5a06LZ0P5i06N30P5q06OZ0P5y06Q30P6406RZ0P6C06T30P6K06UZ0P6S06W30P6a06XZ0P6i06Z30P6q06aZ0P6y06c30P7406dZ0P7C06f30P7K06gZ0P7S06i30P7a06",
    "jZ0P7i06l30P7q06mZ0P7y06o30P8406pZ0P8C06r30P8K06sZ0P8S06u30P8Z05LF0P8h05vy0P8p06M70P8x07kF0P9000000PA406vZ0PAC06x20PAK06y20PAS06z20PAa06+20PAi06*20PAq07020PAy07120PB407220PBC07320PBK07420PBS07520PBa07620PBi07720PBq07820PBy07920PC301400PCB01420PCR01450PCp01490PCx014B0PDB014E0PDp0Am00PDx0B2O0PE30BBa0PEB0BTy0PEJ0Bd80PER0BmK0PEZ0C2i",
    "0PEh0CL40PEp0CUG0PEx0Cme0PF30Cvq0PFB0D300PFJ0DCC0PFR0DLO0PFa07A20PFi07B20PFp0CQm0PFu00000PG304u00PGB04wC0PGJ04u90PGR05RR0PGZ04wK0PGh055j0PGp04u30PGx055h0PH304vT0PHB05D10PHJ06S80PHR071h0PHZ06mq0PHh06Se0PHp097H0PHx05SV0PI306Nb0PIB06Wg0PIJ06S90PIR07a+0PIZ05GD0PIh079v0PIp08oX0PIx07bT0PJ305Aq0PJB07dO0PJJ07Kt0PJR05bp0PJZ091f0PJh054g0P",
    "Jp05Dm0PJx06pe0PK309W50PKB04yH0PKJ056P0PKR06jZ0PKZ04uA0PKh04uj0PKp04uB0PKx05tc0PL305Fp0PLB05Cx0PLJ05kN0PLR05jc0PLZ07RZ0PLh04y10PLp08p70PLx05DK0PM305aS0PMC07C20PMK07D20PMS07E20PMa07F20PMi07G20PMq07H20PMy07I20PN407J20PNC07K20PNK07L20PNS07M20PNa07N20PNi07O20PNq07P20PNy07Q20PO407R20POC07S20POK07T20POS07U20POa07V20POi07W20POq07X20POy",
    "07Y20PP407Z20PPC07a30PPK07bZ0PPS07d30PPa07eY0PPi07fZ0PPq07h20PPy07i30PQ3032Y0PQB032a0PQJ032c0PQR032e0PQZ032g0PQp032j0PQx032l0PR3032n0PRB032p0PRJ032r0PRR032t0PRZ032v0PRh032x0PRp032z0PRx032*0PS303310PSB03340PSJ03360PSR03380PSZ033A0PTJ033I0PTR033L0PTZ033O0PTh033R0PTp033U0PUR033a0PUZ033c0PUh033e0PVR033l0PVy07jY0PW407ka0PWC07ma0PWK07",
    "oa0PWS07qZ0PWa07s40PWi07u30PWq07vZ0PWy07x50PX407za0PXC07*Z0PXK08130PXS082Z0PXa08440PXi08640PXq08830PXy089Z0PY408B20PYC08C30PYK08Da0PYS08Fa0PYa08HY0PYi08Ib0PYq08L60PYy08O50PZ408QZ0PZC08S50PZK08Ub0PZS08X40PZa08Z30PZi08aZ0PZq08c30PZy08da0Pa408fb0PaC08i40PaK08k30PaS08lZ0Paa08n30Pai08oY0Paq08pY0Pay08qY0Pb408rY0PbC08sZ0PbK08u30PbS08vb",
    "0Pba08y30Pbi08za0Pbq08*b0Pby09230Pc4093Y0PcC094Y0PcK095b0PcS09840Pca09A50Pci09CZ0Pcq09E50Pcy09GY0Pd409HZ0PdC09J30PdK09KZ0PdS09M30Pda09NZ0Pdi09P40Pdq09R30Pdy09SY0Pe409TZ0PeC09V30PeK09WZ0PeS09Y40Pea09a30Pei09bZ0Peq09d30Pey09eb0Pf409h40PfC09j20PfK09k50PfS09mY0Pfa09na0Pfi09pa0Pfq09rZ0Pfy09t30Pg409uZ0PgC09w40PgK09y20PgS09z30Pga09+a0P",
    "gi0A0Y0Pgq0A1b0Pgy0A430Ph40A5Y0PhC0A6Y0PhK0A7Y0PhS0A8Y0Pha0A9Y0Phi0AAY0Phq0ABY0Phy0ACY0Pi40ADY0PiC0AEY0PiK0AFZ0PiS0AH30Pia0AIZ0Pii0AK30Piq0ALZ0Piy0AN30Pj40AOZ0PjC0AQ30PjK0ARZ0PjS0AT30Pja0AUZ0Pji0AW30Pjq0AXZ0Pjy0AZ30Pk40AaZ0PkC0Ac30PkK0AdY0PkS0AeY0Pka0AfZ0Pki0Ah20Pkq0Ai20Pky0Aj20Pl40Ak30PlC0AlZ0PlK0An20PlS0Ao20Pla0Ap20Pli0Aq20Plq",
    "0Ar20Ply0As40Pm40Au20PmC0Av20PmK0Aw20PmS0Ax20Pma0Ay20Pmi0Az20Pmq0A+20Pmy0A*20Pn40B030PnC0B1a0PnK0B3Y0PnS0B4Y0Pna0B5Y0Pni0B6Y0Pnq0B7Y0Pny0B8Y0Po40B9Y0PoC0BAZ0PoK0BC30PoS0BDZ0Poa0BF30Poi0BGY0Poq0BHY0Poy0BIY0Pp40BJY0PpC0BKY0PpK0BLY0PpS0BMY0Ppa0BNY0Ppi0BOY0Ppq0BPY0Ppy0BQZ0Pq40BS30PqC0BTY0PqK0BUZ0PqS0BW30Pqa0BXZ0Pqi0BZ20Pqq0Ba30Pqy0B",
    "bZ0Pr40Bd40PrC0Bf20PrK0Bg30PrS0BhZ0Pra0Bj30Pri0BkZ0Prq0Bm50Pry0Boc0Ps40BrY0PsC0BsY0PsK0BtY0PsS0BuY0Psa0BvY0Psi0BwY0Psq0BxY0Psy0ByY0Pt40BzY0PtC0B+Y0PtK0B*Y0PtS0C0Y0Pta0C1Y0Pti0C2Y0Ptq0C3Y0Pty0C4Y0Pu40C5Y0PuC0C6Y0PuI00000PuS0C7Y0Pua0C8Y0Pui0C9Y0Puq0CAa0Puw00000Pv40CCY0PvC0CDY0PvK0CEY0PvS0CFY0Pva0CGY0Pvi0CHY0Pvq0CIY0Pvy0CJY0Pw40CKY",
    "0PwC0CLY0PwK0CMZ0PwS0CO20Pwa0CP20Pwi0CQ30Pwq0CRZ0Pwy0CT20Px200000PxC0CU30PxK0CVY0PxS0CWY0Pxa0CXY0Pxi0CYY0Pxq0CZZ0Pxy0Cb30Py40CcY0PyC0CdY0PyK0CeY0PyS0CfY0Pya0CgY0Pyi0ChY0Pyq0CiY0Pyy0CjY0Pz40CkY0PzC0ClZ0PzK0Cn30PzS0CoZ0Pza0Cq30Pzi0CrZ0Pzq0Ct30Pzy0CuZ0P+40Cw30P+C0CxZ0P+K0Cz30P+S0C+Z0P+a0D030P+i0D1Z0P+q0D330P+y0D4Z0P*40D630P*C0D7Z0P",
    "*K0D930P*S0DAZ0P*a0DC30P*i0DDZ0P*q0DF30P*y0DGZ0Q0000001IHg00001II000001IOw00001IQ000001J5Y00001J830AP11J8800001J8J0AP31J8O00001J8Z0AP51J8e00001J8p0AP71J8u00001J930AP91J9800001J9J0APB1J9O00001J9Z0APD1J9e00001J9p0APF1J9u00001JA30APH1JA800001JAJ0APJ1JAO00001JAZ0APL1JAe00001JAp0APN1JAu00001JB30APP1JB800001JBJ0APR1JBO00001JBZ0APT1JBe",
    "00001JBp0APV1JBu00001JC30APX1JC800001JCJ0APZ1JCO00001JCZ0APb1JCe00001JCp0APd1JCu00001JD30APf1JD800001JDJ0APh1JDO00001JDZ0APj1JDe00001JG30AQ11JG800001JGJ0AQ31JGO00001JGZ0AQ51JGe00001JGp0AQ71JGu00001JH30AQ91JH800001JHJ0AQB1JHO00001JHZ0AQD1JHe00001JHp0AQF1JHu00001JI30AQH1JI800001JIJ0AQJ1JIO00001JIZ0AQL1JIe00001JIp0AQN1JIu00001JJ30A",
    "QP1JJ800001JJJ0AQR1JJO00001JJZ00HA1JJh00HC1JJm00001JV200001JW000001JaJ0ASZ1JaO00001JaZ0ASb1Jae00001Jap0ASd1Jau00001Jb30ASf1Jb800001JbJ0ASh1JbO00001JbZ0ASj1Jbe00001Jbp0ASl1Jbu00001JcJ0ASp1JcO00001JcZ0ASr1Jce00001Jcp0ASt1Jcu00001Jd30ASv1Jd800001JdJ0ASx1JdO00001JdZ0ASz1Jde00001Jdp0AS*1Jdu00001Je30AT11Je800001JeJ0AT31JeO00001JeZ0AT5",
    "1Jee00001Jep0AT71Jeu00001Jf30AT91Jf800001JfJ0ATB1JfO00001JfZ0ATD1Jfe00001Jfp0ATF1Jfu00001Jg30ATH1Jg800001JgJ0ATJ1JgO00001JgZ0ATL1Jge00001Jgp0ATN1Jgu00001Jh30ATP1Jh800001JhJ0ATR1JhO00001JhZ0ATT1Jhe00001Jhp0ATV1Jhu00001Ji30ATX1Ji800001JiJ0ATZ1JiO00001JiZ0ATb1Jie00001Jip0ATd1Jiu00001Jj30ATf1Jj800001JjJ0ATh1JjO00001JjZ0ATj1Jje00001J",
    "jp0ATl1Jju00001Jk30ATl1Jk800001JlB0ATw1JlG00001JlR0ATy1JlW00001Jlh01rv1Jlp0AT*1Jlu00001Jm30AU11Jm800001JmJ0AU31JmO00001JmZ0AU51Jme00001Jmp0AU71Jmu00001JnR0AUC1JnW00001Jnh009b1Jnm00001Jo30AUH1Jo800001JoJ0AUJ1JoO00001Jop0AUN1Jou00001Jp30AUP1Jp800001JpJ0AUR1JpO00001JpZ0AUT1Jpe00001Jpp0AUV1Jpu00001Jq30AUX1Jq800001JqJ0AUZ1JqO00001JqZ",
    "0AUb1Jqe00001Jqp0AUd1Jqu00001Jr30AUf1Jr800001JrJ009c1JrR009S1JrZ009X1Jrh009i1Jrp009g1Jru00001Js300AU1JsB00A71JsJ00AT1JsR0AjJ1JsZ0AUr1Jse00001Jsp0AUt1Jsu00001Jt30AUv1Jt800001JtJ0AUx1JtO00001JtZ0AUz1Jte00001Jtp0AU*1Jtu00001Ju30AV11Ju800001JuJ0AV31JuO00001JuZ0AUK1Juh00A21Jup01sE1Jux0AV81Jv000001JvB0AVA1JvG00001JvQ00001Jw30AVH1Jw800",
    "001JwI00001JwO00001JwY00001Jwe00001Jwp0AVN1Jwu00001Jx30AVP1Jx800001JxI00001J+J001Z1J+R001c1J+Z001n1J+h0AVs1J+m00001J*3004d1J*B005J1J*G00001K5g00001K6000001K7I00001K8000001KF200001KG000001KOo00001KPm00001KRI00001KS000001KgY00001Khu00001Klg00001Km000001Kvo00001Kvu00001KxI00001Kxm00001K*w00001L0000001L6w00001L8000001L9o00001LA00000",
    "1LBI00001LBW00001LOQ00001LRO00001LUw00001LW800001LWw00001LX800001LXw00001LY800001LYw00001La000001Law00001Lb000001Lbw00001Lc000001LhZ0ASd1Lhh0Ait1Lhp009h1Lhx0AjI1Li000001LjB00AD1LjG00001LjY00001Lk301EW1Lu000001Lzo00001L+000001L*I00001M0000001hqY00001hs000001huw00001hvO00001h*Y00001yW308n81yWB06Rq1yWJ08xA1yWR08p81yWZ06xH1yWh04uo1y",
    "Wp05Fb1yWy0DI11yXB05bH1yXJ097H1yXR05M71yXZ05b81yXh067s1yXp07Pf1yXx07+51yY308O*1yYB08Uw1yYJ08Zu1yYR092F1yYZ06e21yYh06qR1yYp073P1yYx07FU1yZ308Gz1yZB095g1yZJ09dn1yZR04w21yZZ05Dr1yZh06i41yZp078R1yZx08Oj1ya309uU1yaB05rG1yaJ06*h1yaR08ND1yaZ08ba1yah06B91yap087O1yax08WV1yb305xA1ybB06SN1ybJ06rg1ybR07By1ybZ093E1ybh04+61ybp056t1ybx05BU1yc3",
    "06J41ycB06hJ1ycJ078G1ycR07Rd1ycZ08011ych08O61ycp08PS1ycx08tl1yd309So1ydB09jl1ydJ09tw1ydR07YC1ydZ07b*1ydh07sW1ydp08F91ydx09C41ye309v*1yeB08hM1yeJ05ZV1yeR05y41yeZ07nW1yeh081+1yep079Y1yex07ZA1yf308p21yfB09Rt1yfJ05ZO1yfR05nY1yfZ06eJ1yfh06tQ1yfp06yF1yfx07ql1yg307ut1ygB09PB1ygJ05BI1ygR082B1ygZ057S1ygh057C1ygp07eS1ygx07s+1yh308Fn1yhB09",
    "Pr1yhJ08k01yhR06BF1yhZ06e21yhh08h+1yhp04uv1yhx05ld1yi3060I1yiB07E71yiJ07Lm1yiR05CN1yiZ07Zx1yih04+*1yip05+f1yix04uD1yj306pC1yjB06Lu1yjJ07qY1yjR05F31yjZ05XU1yjh07S11yjp08H91yjx08gg1yk306kw1ykB08+m1ykJ06o81ykR06B+1ykZ08Bb1ykh06EW1ykp07Lb1ykx04wk1yl3055f1ylB05791ylJ06Y11ylR07pd1ylZ089l1ylh08hI1ylp097F1ylx05Br1ym305H21ymB05bp1ymJ05xi",
    "1ymR06N51ymZ06*+1ymh07ag1ymp09Mj1ymx09fg1yn309wN1ynB09xE1ynJ05AR1ynR06R61ynZ06jt1ynh08zY1ynp05vq1ynx066G1yo306801yoB06IQ1yoJ06yZ1yoR07591yoZ07I91yoh07dA1yop07tq1yox081l1yp308yc1ypB08Jk1ypJ090Z1ypR09DA1ypZ058N1yph05AZ1ypp05Iz1ypx07381yq308Z21yqB08gg1yqJ05x91yqR05*r1yqZ06Dx1yqh06kk1yqp07m+1yqx07Dr1yr304xa1yrB05Rv1yrJ05ld1yrR05sw1y",
    "rZ060S1yrh07Eo1yrp07Hf1yrx07+Q1ys308161ysB098q1ysJ09Rs1ysR09T81ysZ09WO1ysh04+B1ysp07ck1ysx096q1yt309Qu1ytB063X1ytJ04w61ytR053Q1ytZ05lk1yth05m*1ytp06MP1ytx06e21yu3077E1yuB07P21yuJ08Jy1yuR091y1yuZ09+D1yuh06Q81yup09Ok1yux05A91yv306Tx1yvB06Vp1yvJ06r11yvR06wS1yvZ07G91yvh07LP1yvp07Xh1yvx07qG1yw309XU1ywB055j1ywJ068k1ywR09Pu1ywZ050h1ywh",
    "05qP1ywp06tg1ywx08yg1yx305+B1yxB06541yxJ06WN1yxR07E71yxZ09Q61yxh058f1yxp05GF1yxx05nb1yy306OJ1yyB06TE1yyJ06Ye1yyR06pb1yyZ07G61yyh07NY1yyp07zv1yyx08ZF1yz308ZX1yzB097C1yzJ09RY1yzR05C*1yzZ06ww1yzh05GT1yzp077G1yzx07IO1y+308Nw1y+B09QZ1y+J09nN1y+R09wV1y+Z06UN1y+h06tB1y+p087e1y+x07hB1y*307iW1y*B07oI1y*J07B01y*R072P1y*Z08jO1y*h04x01y*p08",
    "Cs1y*x058w1z0305871z0B05wc1z0J06BJ1z0R07pM1z0Z05k51z0h06qU1z0p06Qq1z0x08yx1z1308XC1z1B09PD1z1J08cB1z1R05xJ1z1Z05501z1h05N01z1m00001z2305XQ1z2800001z2J06Pq1z2O00001z2h057U1z2p07Cg1z2x07RA1z3307ay1z3B07bU1z3J07bb1z3R07cF1z3Z09TM1z3h07o+1z3p07+z1z3u00001z4308OI1z4800001z4J08hu1z4O00001z4h090u1z4p093z1z4u00001z5J09Zl1z5R09Zy1z5Z09ae",
    "1z5h09sq1z5p093U1z5x09Qt1z6304+k1z6B053d1z6J055D1z6R05B91z6Z05Ba1z6h05DH1z6p05MT1z6x05O61z7305Pe1z7B05X01z7J05Ye1z7R05na1z7Z05nk1z7h062K1z7p065e1z7x066E1z83067o1z8B06LF1z8J06NY1z8R06QH1z8Z06Y51z8h06rt1z8p06uQ1z8x06yY1z93075k1z9B078h1z9J07GY1z9R07YH1z9Z07a+1z9h07b91z9p07b81z9x07bG1zA307bM1zAB07bT1zAJ07cD1zAZ07f01zAh07g11zAp07l01z",
    "Ax07tq1zB307u91zBB07v11zBJ07zo1zBR08051zBZ087j1zBi0DIX1zBx08HN1zC308aG1zCB08cM1zCJ08i11zCR08iv1zCZ08pJ1zCh08q81zCp08+s1zCx090u1zD309RZ1zDB09V*1zDJ09Wx1zDR061r1zDZ0aBk1zDh088O1zDo00001zE304uc1zEB056r1zEJ055e1zER04+01zEZ05551zEh05601zEp05B71zEx05Bw1zF305MT1zFB05LL1zFJ05MP1zFR05NY1zFZ05XQ1zFh05Yp1zFp05b41zFx05bK1zG305fY1zGB05ie1zGJ",
    "05xI1zGR05xP1zGZ05zf1zGh05+j1zGp063O1zGx065E1zH306481zHB066E1zHJ065W1zHR067o1zHZ068q1zHh06F41zHp06GS1zHx06HI1zI306LM1zIB06Pq1zIJ06SN1zIR06SR1zIZ06TM1zIh06jv1zIp06kw1zIx06r11zJ306xR1zJB06xB1zJJ06yY1zJR070U1zJZ075k1zJh07Ud1zJp078r1zJx07Al1zK307Cg1zKB07Hn1zKJ07K61zKR07Kx1zKZ07OT1zKh07OV1zKp07RA1zKx07RR1zL307Rq1zLB07TA1zLJ07T01zLR07",
    "ZC1zLZ07gn1zLh07l01zLp07nx1zLx07rR1zM307tq1zMB07y+1zMJ08051zMR08DI1zMZ08Fl1zMh08Tv1zMp08b11zMx08c61zN308cM1zNB08g*1zNJ08hu1zNR08hB1zNZ08i11zNh08h+1zNp08hj1zNx08iv1zO308kA1zOB08q81zOJ08yu1zOR091o1zOZ096P1zOh099s1zOp09Py1zOx09RZ1zP309TM1zPB09VR1zPJ09V*1zPR09WB1zPZ09Wx1zPh09iI1zPp09+S1zPx0YXA1zQ30YX41zQB0ZFL1zQJ03kT1zQR040O1zQZ040v",
    "1zQh0b991zQp0bpG1zQx0dxJ1zR309z31zRB09+E1zRI00001zW40DJ21zWC0DK21zWK0DL21zWS0DM31zWa0DNZ1zWi0DP21zWw00001zYS0DQ21zYa0DR21zYi0DS21zYq0DT21zYy0DU21zZ200001zZi0DV21zZm00001zZy0DW21za300NY1zaB00NG1zaJ00NJ1zaZ00NR1zax00Ne1zb300Ng1zbB000h1zbK0DX21zbS0DY21zba0DZ31zbi0DaZ1zbq0Dc21zby0Dd21zc40De21zcC0Df21zcK0Dg21zcS0Dh21zca0Di21zci0Dj21z",
    "cq0Dk21zcw00001zd40Dl21zdC0Dm21zdK0Dn21zdS0Do21zda0Dp21zdg00001zdq0Dq21zdw00001ze40Dr21zeC0Ds21zeI00001zeS0Dt21zea0Du21zeg00001zeq0Dv21zey0Dw21zf40Dx21zfC0Dy21zfK0Dz21zfS0D+21zfa0D*21zfi0E021zfq0E121zfy0E221zg40E311zgK0E3X1zgq0E411zhK0E4X1zhq0E511ziK0E5X1ziq0E611zjK0E6X1zjq0E711zkK0E7X1zkq0E811zlK0E8X1zlq0E911zmK0E9X1zma0EA11zmq",
    "0EAX1zn40EB11znK0EBX1zna0EC11znq0ECX1zoK0ED11zoq0EDX1zpK0EE11zpq0EEX1zq40EF11zqa0EFX1zqq0EG11zrK0EGX1zrq0EH11zs40EHX1zsG00001zuQ00001zwS0EI11zwy0EIX1zxC0EJ11zxS0EJX1zxi0EK21zxq0EL11zy40ELX1zyK0EM11zya0EMX1zz40EN11zzK0ENY1zza0EOY1zzq0EPY1z+40EQY1z+K0ERY1z+a0ESY1z+q0ETY1z*C0EUY1z*a0EVX1+040EW21+0C0EX21+0K0EY21+0S0EZ21+0a0Ea21+0i0E",
    "b21+0q0Ec21+0y0Ed21+140Ee21+1C0Ef21+1K0Eg21+1S0Eh21+1a0Ei21+1i0Ej21+1q0Ek21+1y0El21+240Em21+2C0En21+2K0Eo21+2S0Ep21+2a0Eq21+2i0Er21+2q0Es21+2y0Et21+340Eu21+3C0Ev21+3K0Ew21+3S0Ex21+3a0Ey21+3i0Ez21+3q0E+21+3y0E*21+440F021+4C0F121+4K0F221+4S0F321+4a0F421+4i0F521+4q0F621+4y0F721+540F821+5C0F921+5K0FA21+5S0FB21+5a0FC21+5i0FD21+5q0FE2",
    "1+5y0FF21+640FG21+6C0FH21+6K0FI21+6S0FJ21+6a0FK21+6i0FL21+6q0FM21+6y0FN21+740FO21+7C0FP21+7K0FQ21+7S0FR21+7a0FS21+7i0FT21+7q0FU21+7y0FV21+840FW21+8C0FX21+8K0FY21+8S0FZ21+8a0Fa21+8i0Fb21+8q0Fc21+8y0Fd21+940Fe21+9C0Ff21+9K0Fg21+9S0Fh21+9a0Fi21+9i0Fj21+9q0Fk21+9y0Fl21+A40Fm21+AC0Fn21+AK0Fo21+AS0Fp21+Aa0Fq21+Ai0Fr21+Aq0Fs21+Ay0Ft21+",
    "B40Fu21+BC0Fv21+BK0Fw21+BS0Fx21+Ba0Fy21+Bi0Fz21+Bq0F+31+By0F*Z1+C40G131+CC0G2Z1+CK0G431+CS0G5Z1+Ca0G721+Ci0G821+Cq0G921+Cy0GA21+D40GB21+DC0GC21+DK0GD21+DS0GE21+Da0GF21+Di0GG21+Dq0GH21+Dy0GI21+E40GJ21+EC0GK21+EK0GL21+ES0GM21+Ea0GN21+Ei0GO21+Eq0GP21+Ey0GQ21+F40GR21+FC0GS21+FK0GT21+FS0GU21+Fa0GV21+Fi0GW21+Fq0GX21+Fy0GY21+G40GZ21+GC",
    "0Ga21+GK0Gb21+GS0Gc21+Ga0Gd21+Gi0Ge21+Gq0Gf21+Gy0Gg21+H40Gh21+HC0Gi21+HK0Gj21+HS0Gk21+Ha0Gl21+Hi0Gm21+Hq0Gn21+Hy0Go21+I40Gp21+IC0Gq21+IK0Gr21+IS0Gs21+Ia0Gt21+Ii0Gu21+Iq0Gv21+Iy0Gw21+J40Gx21+JC0Gy21+JK0Gz21+JS0G+21+Ja0G*21+Ji0H021+Jq0H121+Jy0H221+K40H321+KC0H421+KK0H521+KS0H621+Ka0H721+Ki0H821+Kq0H921+Ky0HA21+L40HB21+LC0HC21+LK0H",
    "D21+LS0HE21+La0HF21+Li0HG21+Lq0HH21+Ly0HI21+M40HJ21+MC0HK21+MK0HL21+MS0HM21+Ma0HN21+Mi0HO21+Mq0HP21+My0HQ21+N40HR21+NC0HS21+NK0HT21+NS0HU21+Na0HV21+Ni0HW21+Nq0HX21+Ny0HY21+O40HZ21+OC0Ha21+OK0Hb21+OS0Hc21+Oa0Hd21+Oi0He21+Oq0Hf21+Oy0Hg21+P40Hh21+PC0Hi21+PK0Hj21+PS0Hk21+Pa0Hl21+Pi0Hm21+Pq0Hn21+Py0Ho21+Q40Hp21+QC0Hq21+QK0Hr21+QS0Hs2",
    "1+Qa0Ht21+Qi0Hu21+Qq0Hv21+Qy0Hw21+R40Hx21+RC0Hy21+RK0Hz21+RS0H+21+Ra0H*21+Ri0I021+Rq0I121+Ry0I221+S40I321+SC0I421+SK0I521+SS0I621+Sa0I721+Si0I821+Sq0I921+Sy0IA21+T40IB21+TC0IC21+TK0ID21+TS0IE21+Ta0IF21+Ti0IG21+Tq0IH21+Ty0II21+U40IJ21+UC0IK21+UK0IL31+US0IMZ1+Ua0IO31+Ui0IPY1+Uq0IQY1+Uy0IRY1+V40ISY1+VC0ITY1+VK0IUY1+VS0IVY1+Va0IWY1+",
    "Vi0IXY1+Vq0IYY1+Vy0IZY1+W40IaY1+WC0IbY1+WK0IcY1+WS0IdY1+Wa0IeY1+Wi0IfY1+Wq0IgY1+Wy0IhY1+X40IiY1+XC0IjY1+XK0IkY1+XS0IlY1+Xa0ImY1+Xi0InY1+Xq0IoY1+Xy0IpY1+Y40IqY1+YC0IrY1+YK0IsY1+YS0ItY1+Ya0IuY1+Yi0IvY1+Yq0IwY1+Yy0IxY1+Z40IyY1+ZC0IzY1+ZK0I+Y1+ZS0I*Y1+Za0J0Y1+Zi0J1Y1+Zq0J2Y1+Zy0J3Y1+a40J4Y1+aC0J5Y1+aK0J6Y1+aS0J7Y1+aa0J8Y1+ai0J9Y1+aq",
    "0JAY1+ay0JBY1+b40JCY1+bC0JDY1+bK0JEY1+bS0JFY1+ba0JGY1+bi0JHY1+bq0JIY1+by0JJY1+c40JKY1+cC0JLY1+cK0JMY1+cS0JNY1+ca0JOY1+ci0JPY1+cq0JQY1+cy0JRY1+d40JSY1+dC0JTY1+dK0JUY1+dS0JVY1+da0JWY1+dm00001+g40JXZ1+gC0JZ31+gS0JaZ1+ga0Jc31+gi0JdZ1+gq0Jf31+gy0JgZ1+h40Ji31+hK0JjZ1+hS0Jl31+ha0JmZ1+hi0Jo31+hq0JpZ1+hy0Jr31+iC0JsZ1+iK0Ju31+ia0JvZ1+iq0J",
    "x31+iy0JyZ1+jC0J+31+jK0J*Z1+ja0K131+jq0K2Z1+jy0K431+kC0K5Z1+kS0K731+ka0K8Z1+ki0KA31+kq0KBZ1+l40KD31+lC0KEZ1+lK0KG31+lS0KHZ1+la0KJ31+lq0KKZ1+ly0KM31+m40KNZ1+mC0KP31+mK0KQZ1+mS0KS31+mi0KTZ1+my0KV31+nC0KWZ1+nK0KY31+nS0KZZ1+na0Kb31+ni0KcZ1+nq0Ke31+ny0KfZ1+o200001+oK0Kh31+oS0KiZ1+oa0Kk31+oi0KlZ1+oq0Kn31+oy0KoZ1+pC0Kq31+pK0KrZ1+pS0Kt3",
    "1+pa0KuZ1+pq0Kw31+py0KxZ1+q40Kz31+qC0K+Z1+qK0L031+qS0L1Z1+qa0L331+qi0L4Z1+qq0L631+qy0L7Z1+r40L931+rC0LAZ1+rK0LC31+rS0LDZ1+ra0LF31+ri0LGZ1+rq0LI31+ry0LJZ1+s40LL31+sC0LMZ1+sK0LO31+sS0LPZ1+sa0LR31+si0LSZ1+sq0LU31+sy0LVZ1+t40LX31+tC0LYZ1+tK0La31+tS0LbZ1+ta0Ld31+ti0LeZ1+tq0Lg31+ty0LhZ1+u40Lj31+uC0LkZ1+uK0Lm31+uS0LnZ1+ua0Lp31+ui0LqZ1+",
    "uq0Ls31+uy0LtZ1+v200001+vu00001+w200001++40Lv31++C0LwZ1++K0Ly41++S0L+41++a0M041++i0M241++q0M441++y0M641+*40M841+*C0MA31+*K0MBo1+*S0MKe1+*a0MOa1+*e00001*0100001*23000i1*2B03011*2I00001*2R000w1*2h000X1*2p000*1*2x030M1*3A00001*4000001*6200001*6B020K1*6J020J1*6S0MQX1*6h000e1*6x001x1*73001z1*7B030K1*7R030G1*7h030A1*7x03081*8B030C1*8e",
    "00001*8x001R1*93001T1*9C0MR21*9i0MS11*A3000i1*AB03011*AI00001*AZ000x1*Ah000w1*Ap000*1*Ax000X1*B3020K1*BB000e1*BR001x1*BZ001z1*Bh030K1*Bx000Z1*C3000c1*CB000g1*CR000j1*CZ000y1*Ch000+1*Cp000z1*Cw00001*D3001S1*DB000a1*DR00101*DY00001*E40MSY1*EC0MTY1*EK0MUY1*EO00001*Ea0MVY1*Eg00001*Eq0MWY1*Ey0MXY1*F40MYY1*FC0MZY1*FK0MaY1*FS0MbY1*Fa0M",
    "cY1*Fi0MdY1*Fq0MeY1*Fy0MfY1*G300OX1*GC0MgX1*GS0Mh11*Gi0MhX1*Gy0Mi11*HC0MiX1*Hi0Mj11*Hy0MjX1*IS0Mk11*Ii0MkX1*JC0Ml11*Ji0MlX1*KC0Mm11*Ki0MmX1*LC0Mn11*LS0MnX1*Li0Mo11*Ly0MoX1*MC0Mp11*Mi0MpX1*NC0Mq11*Ni0MqX1*OC0Mr11*Oi0MrX1*PC0Ms11*Pi0MsX1*QC0Mt11*Qi0MtX1*RC0Mu11*Ri0MuX1*SC0Mv11*Si0MvX1*TC0Mw11*Ti0MwX1*Ty0Mx11*UC0MxX1*Ui0My21*Uy0Mz2",
    "1*VC0M+21*VS0M*21*Vg00001*Vv00001*W200001*WB000X1*aB001X1*dR001R1*hx02c51*iB000k1*iJ030C1*iZ03011*ih033x1*ip033o1*ix032X1*j3032Z1*jB032b1*jJ032d1*jR032f1*jZ033Z1*jh033b1*jp033d1*jx03331*k3033y1*kB032Y1*kJ032a1*kR032c1*kZ032e1*kh032g1*kx032j1*l3032l1*lB032n1*lJ032p1*lR032r1*lZ032t1*lh032v1*lp032x1*lx032z1*m3032*1*mB03311*mJ03341*",
    "mR03361*mZ03381*mh033A1*nR033I1*nZ033L1*nh033O1*np033R1*nx033U1*oZ033a1*oh033c1*op033e1*pZ033l1*ph033p1*pp032P1*q200001*qB01401*qR016g1*qZ01421*qh016i1*qx01431*rJ016m1*s3014Q1*sB01461*sZ014X1*sh01491*tw00001*uJ015X1*v200001*vJ015d1*w200001*wJ015j1*x200001*xJ015p1*xg00001*y3002Y1*yJ002i1*yS0N021*yZ002c1*yh002b1*yp022f1*yw00001*z3",
    "02K21*zB026G1*zh02MW1*zp02NB1*zw000020000000201Y0000201e0000204w000020500000207Q0000207W0000207o0000207u0000209o000020A0000020Bo000020G0000020VQ000020W0000020WQ000020Wu000020cY000020cu000020nw000020o0000020pg000020q0000020qA000020w0000020*o000021G0000021Jg000021K0000021QA000021S0000021VY000021W0000021aY000021be000021fQ000021g000",
    "0021lQ000021m0000021po000021pu000021uY000021v0000021wo000022030GGe2250000022Jo000022K0000022LI000022M30GJO22QY000022R0000022VY000022W0000022b2000022c0000022iY000022ju000022k30GMN22lQ000022lZ0GMZ22nQ000022nZ0GMp22oQ000022oZ0GMx22oo000022ou000022qI000022qO000022sI000022sO000022tI000022tO000022tg00002300000023cw000023e0000023go0000",
    "23i0000023j2000023m0000023mB00BG23mR003c23mZ00AP23mh009J23mo000023mx00AZ23n30Ajc23nB00Ab23nJ00Aa23nR009M23nh01sH23np009O23nx009U23o300Af23oB009a23oJ009Y23oR009W23oZ00AR23oh004d23op00AS23ox009d23p300A423pB00Ag23pR009i23pZ0Ty423ph0AUE23pp009k23px0Ty523q300AE23qB0Ty623qJ003u23qR009s23qh001n23qp009w23qx0Ty823r3009z23rJ00A023rR00Ae23",
    "rZ00Ac23rh0Ajd23rp00Ad23rx00A823s302nn23sA000023sJ00AF23sR00AX23sh00AO23sp007023tB0TyA23tJ0TyU23tQ000024000000240o000024100000241A0000241G0000246o0000246u0000247A0000247W0000247g0000247u000024Ao000024Au000024Jw000024Ku000024M2000024S0000024UQ000024UW000024Uo000024VO000024ZY000024Zu000024dI000024du000024e2000024m0000024t2000024tW",
    "000024w2000024wG0000250Y0000250e0000250w0000251W0000252Y0000252e00002532000025380000256o000025700000257Q0000257u0000259A000025A0000025BA000025C0000025K2000025O0000025Sw000025TO000025Uw000025W0000025co000025d8000025go000025h0000025kQ000025l0000025oI000025p8000025pg000025r8000025s2000026000000269A000026G30Gp026MQ000026O0000026UQ00",
    "0026VG000026b2000026c0000026dI000027C0000027Fw000027G0000027LI000027LO000027Lo000027M0000027MI000027Ve000027b2000027c0000027hI000027k0000027nI000027s0000027vY000027y0000027+w000028000000289o000028AG000028Eo000028Fu000028Ng000028Nm000028OQ000028Q0000028TA000028U0000028VI000028W0000028cg000028cm000028f2000028g0000028kw000028m00000",
    "28y2000028y8000028+g000029000000292I0000292O0000298I000029G0000029Gw000029H0000029HA000029HG000029Ho000029Hu000029Jo000029Ju000029LI000029M0000029TQ000029U0000029VI000029W0000029WY000029We000029Xg000029Xu000029YA000029YO000029bA000029bG000029cA000029cG000029cY000029ce000029dI000029dO000029eg000029eu000029fA000029fO000029fo000029",
    "g0000029gA000029gu000029h2000029he000029iY000029im000029jg000029k0000029kg00002A0000002ABY00002ABe00002ACI00002AG000002AP200002AQ000002ARI00002Am000002Aso00002At000002Axo00002B0000002B8g00002BA000002BBI00002BC000002BDg00002BG000002BNI00002BO000002BPI00002BW000002BZQ00002BZe00002BbY00002Bc000002Bew00002C0000002C7Y00002CK30HZ02CO0",
    "00002CUQ00002CVu00002CWw00002CX800002CXI00002CXW00002CYY00002CYe00002CYw00002CZ000002Cco00002Ccu00002CdA00002CdO00002Cew00002Cg000002ChI00002Cq000002Cr200002CrG00002Cx200002CxG00002Cyg00002D0000002D9200002DA000002DKQ00002DM000002DVA00002DW000002DXI00002E0000002E1A00002E1G00002E6w00002E7000002E8o00002EA000002EDg00002EE000002EI200",
    "002EIG00002EL200002EL800002EMw00002EW000002EWw00002EX000002EXI00002EXO00002Ecw00002EdG00002EdQ00002EdW00002Edo00002Edu00002Ef200002Eg000002EhI00002Ei000002Eio00002Eiu00002EjA00002EjG00002Enw00002Eo000002EoI00002EoO00002EpA00002Eq000002ErI00002FS000002FVA00002FW000002FYA00002FYG00002FdQ00002Fdm00002FhI00002Fs000002FsA00002Fu00000",
    "2F+I00002F*u00002HpI00002I0000002IDw00002IE000002IEg00002IG000002IeY00002No000002N+Q00002O0000002Q6200002Q8000002QAo00002Y0000002Z8w00002q0000002r7A00002r8000002rBw00002rC000002rDI00002rDm00002rNw00002rO000002rPI00002rQ000002rTo00002rU000002rUo00002rW000002reo00002rg000002rhI00002rhO00002riI00002riO00002rl200002rle00002ro200002t",
    "830MvW2tC000002tJQ00002tW000002tfQ00002tfu00002tn200002tnu00002tq200002ty000002tyg00002t+000002t+I00002u00000033*200003400000036Qo000036W0000036XA00003N+000003N+Y00003N+e00003N*Y00003N*e00003N*w00003O0000003OaQ00003OcG00003OcQ00003Og000003OgQ00003Oge00003Ogo00003OiW00003Oj200003Ok000003PVY00003U0000003UDQ00003UE000003UFg00003UG0",
    "00003UHA00003UI000003UJI00003UJW00003UK100003UKY00003dW000003dbo00003dc000003dew00003dg000003duY00003e0000003eUo00003eW000003eaw00003eb800003ehq0N123ehy0N223ei40N333eiC0N4Z3eiK0N633eiS0N7Z3eia0N933eie00003ekQ00003elO00003etS0NAY3eta0NBY3eti0NCZ3etq0NE33ety0NFZ3eu40NH33eu800003ezQ00003f0000003f8o00003fO000003fQY00003fS000003fUY00",
    "003fW000003fgw00003fi000003flA00003g03001X3g3J001X3g6Z001X3g9p001X3gAg00003gAp001f3gD3001X3gGJ001X3gJZ001X3gJg00003gJp001Z3gK200003gKJ001d3gKQ00003gKh001g3gKw00003gLB001k3gLg00003gLp001p3gMp001X3gNI00003gNR001c3gNY00003gNh001e3gOY00003gOh001m3gQ3001X3gTJ001X3gWZ001X3gWo00003gWx001a3gXQ00003gXh001g3gYg00003gYp001p3gZg00003gZp001X",
    "3gd3001X3gdI00003gdR001a3gdw00003ge3001f3geg00003gep001l3gew00003gfJ001p3ggA00003ggJ001X3gjZ001X3gmp001X3gq3001X3gtJ001X3gwZ001X3gzp001X3h13001X3h4J001X3h7Z001X3hAp001X3hE3001X3hHJ001X3hKZ004n3hKh008t3hKo00003hL300En3hNB00Eu3hNJ00F33hOB02873hOJ00En3hQS0NIX3hQh00F43hRR02823hRZ00Er3hRh00Eu3hRp00Ew3hRx00F63hS300F13hSB00F03hSJ00En3h",
    "UR00Eu3hUZ00F33hVR02873hVZ00En3hXi0NJ13hXx00F43hYh02823hYp00Er3hYx00Eu3hZ300Ew3hZB00F63hZJ00F13hZR00F03hZZ00En3hbh00Eu3hbp00F33hch02873hcp00En3hey0NJX3hfB00F43hfx02823hg300Er3hgB00Eu3hgJ00Ew3hgR00F63hgZ00F13hgh00F03hgp00En3hix00Eu3hj300F33hjx02873hk300En3hmC0NK13hmR00F43hnB02823hnJ00Er3hnR00Eu3hnZ00Ew3hnh00F63hnp00F13hnx00F03ho3",
    "00En3hqB00Eu3hqJ00F33hrB02873hrJ00En3htS0NKX3hth00F43huR02823huZ00Er3huh00Eu3hup00Ew3hux00F63hv300F13hvB00F03hvK0NL13hvY00003hvp000m3hx3000m3hyJ000m3hzZ000m3h+p000m3i0000003jHY00003jJO00003jK200003jK800003jM200003lW000003lZw00003lae00003lbQ00003m0000003m0w00003m1000003m3A00003m3O00003m4I00003m4O00003m4g00003m4m00003m5Q00003m6300",
    "Gm3m7B00Gw3m7Z00G+3m8x00HB3m9300HD3m9J0AQ93m9R00JP3m9Z00HM3m9h00HO3m9p00Jf3m9x00Il3mA300JF3mAB00Gm3mBJ00Gw3mBZ00G+3mBp00H13mBx00H33mCh00HA3mCx00IH3mD300HM3mDB00HL3mDJ00HV3mDR00Ih3mDZ0APH3mDh00In3mDo00003mHu00003mI200003mW000003mbg00003mc000003mdo00003me000003mfI00003mfm00003mg200003nI000003nLw00003nO000003nVI00003nVu00003nW20000",
    "3oQ000003oVI00003py000003pyw00003pz000003pzY00003pze00003pzw00003p+000003p*w00003q0000003qOg00003qOu00003qQw00003qW30UaY3qaG00003qfY00003qg000003qhI00003qhm00003qi200003sE800003sMg00003sW800003sdo00003t0300Od3t0J00Oi3t0R00Ol3t0Y00003t0h00P83t0p00Oo3t0x00Oj3t1300Ot3t1B00PA3t1J00P33t1p00Op3t1x00Ov3t2300P13t2B00Or3t2J00P23t2R00On3t",
    "2Z00Oq3t2h00Og3t2x00Ok3t3300Om3t3B00Os3t3J00Ou3t3R00Ow3t3Z00Pk3t3h00Qw3t3p00QX3t3x00Pl3t4200003t4B00Oe3t4J00Oi3t4Q00003t4Z00P73t4g00003t4x00Oj3t5200003t5B00PA3t5J00P33t5p00Op3t5x00Ov3t6300P13t6B00Or3t6J00P23t6Q00003t6Z00Oq3t6h00Og3t6x00Ok3t7200003t7B00Os3t7I00003t7R00Ow3t7Y00003t8J00Oi3t8Q00003t8x00Oj3t9200003t9B00PA3t9I00003t9R",
    "00P43t9Y00003t9h00P63t9p00Op3t9x00Ov3tA200003tAB00Or3tAJ00P23tAQ00003tAZ00Oq3tAg00003tAx00Ok3tB200003tBB00Os3tBI00003tBR00Ow3tBY00003tBh00Qw3tBo00003tBx00Pl3tC200003tCB00Oe3tCJ00Oi3tCQ00003tCZ00P73tCg00003tCx00Oj3tD300Ot3tDB00PA3tDJ00P33tDQ00003tDZ00P53tDp00Op3tDx00Ov3tE300P13tEB00Or3tEJ00P23tEQ00003tEZ00Oq3tEh00Og3tEx00Ok3tF200",
    "003tFB00Os3tFJ00Ou3tFR00Ow3tFZ00Pk3tFg00003tFp00QX3tFw00003tG300Od3tGJ00Oi3tGR00Ol3tGZ00P73tGp00Oo3tGx00Oj3tH300Ot3tHB00PA3tHI00003tHR00P43tHp00Op3tHx00Ov3tI300P13tIB00Or3tIJ00P23tIR00On3tIZ00Oq3tIh00Og3tIx00Ok3tJ300Om3tJB00Os3tJJ00Ou3tJR00Ow3tJY00003tKB00Oe3tKJ00Oi3tKR00Ol3tKY00003tKh00P83tKp00Oo3tKx00Oj3tL300Ot3tLB00PA3tLI0000",
    "3tLR00P43tLp00Op3tLx00Ov3tM300P13tMB00Or3tMJ00P23tMR00On3tMZ00Oq3tMh00Og3tMx00Ok3tN300Om3tNB00Os3tNJ00Ou3tNR00Ow3tNY00003tU000003tUI00003u0000003u5Y00003u6000003uIY00003uK000003uLw00003uM800003uO200003uO800003uQ200003uQ800003uUo00003uWC0NLY3uWK0NMY3uWS0NNY3uWa0NOY3uWi0NPY3uWq0NQY3uWy0NRY3uX40NSY3uXC0NTY3uXK0NUY3uXO00003uY40NVZ3u",
    "YC0NX33uYK0NYZ3uYS0Na33uYa0NbZ3uYi0Nd33uYq0NeZ3uYy0Ng33uZ40NhZ3uZC0Nj33uZK0NkZ3uZS0Nm33uZa0NnZ3uZi0Np33uZq0NqZ3uZy0Ns33ua40NtZ3uaC0Nv33uaK0NwZ3uaS0Ny33uaa0NzZ3uai0N*33uaq0O0Z3uay0O233ub40O3Z3ubC0O533ubK0O6Z3ubR001Z3ubZ001o3ubi0O823ubq0O923ubu00003uc3001X3ufK0OA23ufS0OB23ufa0OC23ufi0OD23ufq0OE33ufy0OFY3ug000003ujK0OGY3ujS0OHY3uja",
    "0OIY3uje00003uo40OJY3uo800003uro00003uym00003v040OKY3v0C0OLY3v0J032r3v0Q00003v23069B3v2B05jN3v2J05FC3v2R03373v2Z04wC3v2h05aQ3v2p08dZ3v2x05af3v3304wa3v3B06OW3v3J074X3v3R06MP3v3Z059D3v3h05+C3v3p056D3v3x06Mm3v43058T3v4B07r23v4J07KV3v4R08of3v4Z05Zm3v4h05Gv3v4p06yK3v4x06AL3v5306DL3v5B04u03v5J04u93v5R091A3v5Z05tc3v5h04uj3v5p05Fp3v5x06",
    "C73v6308rm3v6B069J3v6J07c13v6R07fw3v6Z05G83v6h06w03v6p06S93v6x06S83v7307Kp3v7B059o3v7J05Ms3v7R095D3v7Y00003v840OMZ3v8C0OO33v8K0OPZ3v8S0OR33v8a0OSZ3v8i0OU33v8q0OVZ3v8y0OX33v940OYZ3v9A00003vA305+N3vAB05Fl3vAI00003vC000003vCo00003vW000003xR200003xRW00003xTg00003xU000003xVg00003xW000003xkw00003xlO00003xxI00003xy000003xzY00003x+00000",
    "3x+A00003y0000003y1Y00003y2000003y9200003yA000003yBI00003yC000003yH200003yI000003yLo00003yM000003yMI00003yW000003zAY00003zC000003zDo00003zE000003zFg00003zG000003zHA00003zI000003zNo00003zNu00003zOo00003zPm00003zRY00003zS000003zTA00003zU000003zVA00003zW000003zoQ00003zoW00003zvQ00003z+3000m3z*I0000400000005JS200005JW000005RdI00005R",
    "e000005S3o00005S4000005dKI00005dM000005ryA00005r+000005tBo00005y0304uz5y0B04uu5y0J04v15y0R0W4Y5y0Z04zW5y0h04+k5y0p04+x5y0x05025y13051w5y1B052P5y1J053d5y1R053F5y1Z03IU5y1h0WOw5y1p055D5y1x055K5y23055a5y2B055t5y2J0WKS5y2R03Iv5y2Z055d5y2h056D5y2p0WLB5y2x056N5y33056a5y3B04xC5y3J056i5y3R056r5y3Z0f7V5y3h057r5y3p05835y3x03JV5y43058x5y4B",
    "05965y4J059o5y4R059t5y4Z03KL5y4h05B75y4p05B95y4x05Ba5y5305Bw5y5B05C55y5R05CN5y5Z05D95y5h05DH5y5p05DQ5y5x05Dp5y6305Dz5y6C0Oa15y6Z0Wei5y6h071m5y6p05FA5y6x05FV5y730WjZ5y7B05Fh5y7J05Fn5y7R05G65y7Z05IU5y7h05Gu5y7p05H85y7x05He5y8305IY5y8B05Js5y8J05KG5y8R05LJ5y8Z05LZ5y8i0OaX5y8x05MP5y9305Mh5y9B05Mp5y9J05N25y9R05SM5y9Z05O65y9h05SN5y9p05",
    "PH5y9x05Pq5yA305875yAB05Zk5yAJ05VE5yAR05Vq5yAZ05WD5yAh05UB5yAp05Wo5yAx05Wn5yB305Yi5yBB0XJa5yBJ05Zo5yBR05Zt5yBZ05a65yBh05aQ5yBp05aY5yBx05bY5yC30XQe5yCB0XRg5yCJ05di5yCR05eR5yCZ05ed5yCh05dO5yCp05fc5yCx03Rk5yD200005yDB05i85yDK0Ob15yDZ0Xd85yDh05l35yDp05lO5yDx05ld5yE305lp5yEB0XiO5yEJ05l*5yER05m65yEY00005yEh05mY5yEp03U15yEx05nW5yF305nk",
    "5yFB05p05yFJ05oD5yFR0Xta5yFZ05r35yFh0Xtc5yFp05rk5yFx05rh5yG305ry5yGB05tX5yGR03Wl5yGZ05tz5yGh05ue5yGp05uz5yGx05vf5yH303XY5yHB0Y635yHJ03Xy5yHR05wm5yHZ05wp5yHh05ws5yHp05xA5yHx0gEI5yI305x+5yIC0ObX5yIR08815yIa0Oc15yIp03Z75yIx0ZAu5yJ30c7Q5yJB05zY5yJJ05zh5yJR03ZZ5yJZ05+Q5yJh05*D5yJp05*N5yJx05*v5yK306215yKB03aw5yKJ03aS5yKR062K5yKZ0YRK5y",
    "Kh06375yKp06585yKx065C5yL3065E5yLB065C5yLJ065w5yLR066E5yLZ066o5yLh066a5yLp066l5yLx067U5yM3067o5yMB067s5yMJ068G5yMR068R5yMZ069T5yMh06An5yMp06BK5yMx06DG5yN30YiC5yNB06Cz5yNJ06By5yNR06De5yNZ06E35yNh06Fa5yNp0Yln5yNx06GY5yO306F55yOB06Ef5yOJ03ek5yOR06Hf5yOZ06H+5yOh06IT5yOp06Ht5yOx03fi5yP306LF5yPB06Li5yPJ0Z0A5yPR06NZ5yPZ06Ru5yPh06P95yPp",
    "03iP5yPx06QH5yQ303i85yQB03ha5yQJ056I5yQR056L5yQZ06S05yQh06QS5yQp082j5yQx04FP5yR306SN5yRB06SR5yRJ06SX5yRR06TU5yRZ06TJ5yRh0ZF35yRp03j95yRx06Vw5yS306U55ySB06XI5ySJ06Y55ySR0ZHj5ySZ06YE5ySh06WV5ySp06aK5ySx03kT5yT306b25yTB06cZ5yTJ06dg5yTR06ge5yTZ0ZQZ5yTh06hR5yTp03mO5yTx06iX5yU30ZYd5yUB06jK5yUJ03nE5yUR06jo5yUZ06kV5yUh06kw5yUx0ZgD5yV30X",
    "qB5yVB0Zhw5yVJ06nE5yVR0Zoy5yVZ06o*5yVh06pD5yVp06nd5yVx06qM5yW306q+5yWB06rt5yWJ06r15yWR06rf5yWZ06ru5yWh06s55yWp0ZqU5yWx06qq5yX306ul5yXB06vk5yXJ03qp5yXR06xB5yXZ06x75yXh0ZxH5yXp06tv5yXx06zk5yY30ZzU5yYB0Z+E5yYJ06*65yYR070v5yYZ070U5yYh070R5yYp03sM5yYx071A5yZ3071z5yZB071t5yZJ072j5yZR0WKb5yZZ07555yZh0a9Z5yZp076S5yZw00005ya3078e5yaB078r",
    "5yaJ079G5yaR0aO85yaZ07A05yah07AL5yap0aSr5yax0aWK5yb307Dw5ybB07EB5ybJ03wi5ybR07Eb5yba0OcX5ybp07H75ybx07HS5yc307Hn5ycB07I55ycJ07JA5ycR03yR5ycZ07Ka5ych0ams5ycp07K+5ycx0aoI5yd307Lm5ydB0Y6V5ydJ07OG5ydR0a+X5ydZ0a+u5ydh0b145ydp03*y5ydx04085ye307Rq5yeB0b3p5yeJ0b3o5yeR0b4P5yeZ0b4p5yeh07SU5yeq0Od15yf307TA5yfB040v5yfJ07UB5yfR04165yfZ042M5y",
    "fh0bGT5yfp07XE5yfx07YC5yg307ZC5ygB043Z5ygJ0bOc5ygR07bM5ygZ0bQQ5ygh0bR55ygp07cF5ygx07dh5yh3044l5yhB07f05yhJ07fA5yhR07fF5yhZ0bby5yhi0OdX5yhw00005yi304825yiB0bkh5yiJ07l65yiR07l95yiZ048d5yih0bo05yip07pI5yix04AW5yj307pe5yjB07pZ5yjJ07q05yjR0b+65yjZ07rZ5yjh04C15yjp07t75yjx07u25yk307v55ykB04Cq5ykJ0c8e5ykR0c975ykZ04DP5ykh0cBP5ykp07zw5ykx",
    "0cC+5yl307+L5ylB07*w5ylJ08055ylR0cJQ5ylZ0cKZ5ylh081W5ylp0cMe5ylx081m5ym30ZDV5ymB04FL5ymJ082o5ymR08435ymZ04GB5ymh084+5ymp05gr5ymx0cUd5yn30cUr5ynB0ZEJ5ynJ0ZES5ynR08815ynZ08845ynh08+U5ynp04Hh5ynx08AH5yo308AB5yoB08AT5yoJ05Ap5yoR08An5yoZ08Ap5yoh08Az5yop08Bc5yox0ciy5yp308Bb5ypB08CT5ypJ08DZ5ypR08Ej5ypZ08CZ5yph08Ez5ypp08Fd5ypx08HN5yq308",
    "DJ5yqB08FA5yqJ08FC5yqR08FS5yqZ0cms5yqh0crh5yqp0cpL5yqx04Kh5yr308Jn5yrB08Jp5yrJ08KM5yrR0dFA5yrZ08La5yrh0cyi5yrp04LT5yrx04LX5ys30c+n5ysB0d3I5ysJ04Lh5ysR08PG5ysZ08PS5ysh08Pd5ysp08Pf5ysx08Qf5yt308Q85ytB08SE5ytJ08RY5ytR08Tv5ytZ08Se5yth08Th5ytp08U65ytw00005yu308VX5yuB08W15yuJ04Nv5yuR08XW5yuZ08XZ5yuh0dPd5yup08ZN5yux08ZU5yv304Or5yvB08Zw",
    "5yvJ03Ix5yvR0dYk5yvZ0dbc5yvh04Q+5yvp04R75yvx08gW5yw308hj5ywB08kA5ywJ08nL5ywR0doe5ywZ08oh5ywh08p15ywp08qR5ywx08rt5yx30dyl5yxB0WW45yxJ08tB5yxR08sy5yxZ08tm5yxh0WZU5yxp08xK5yxx08yu5yy30eNI5yyB0eNj5yyJ092K5yyR093n5yyZ094H5yyh0eSk5yyp094R5yyx098u5yz309BN5yzJ099y5yzR09Fv5yzZ09GL5yzh0elw5yzp09MB5yzx04cL5y+309Mt5y+B0ert5y+J04dc5y+R09R35y",
    "+Z05so5y+h09SZ5y+p0f555y+x0f8Q5y*304fk5y*B04fs5y*J09VW5y*R0fGA5y*Z04go5y*h0fIM5y*q0Oe15z0309Wf5z0B0fMs5z0J09ZY5z0R04ip5z0Z09af5z0h09cd5z0p09d25z0x09d+5z1304lE5z1B0fim5z1J09iI5z1R09n05z1Z09pz5z1h04pE5z1p04pj5z1x09rd5z230g3E5z2B04pu5z2J0g455z2R0g8E5z2Z0gAH5z2h09wx5z2p04rM5z2x09xv5z3309x+5z3B09y55z3J09yF5z3R09yM5z3Z09yx5z3h0gO05z3o",
    "00006000000069fQ000069g000006Hs20000S0W10000S0+20000"]

/-- The code points of the replacements, six digits each. -/
def replacementData : String :=
  String.join [
    "000W00C8000W00C4000W00C1000W00Cd000n0214000q000n0214000o000p0214000q001f00C7001f001g001i002t00Ay001k001a005+001i001g001k001g001a001w000W00C6000W00C7000W00CA000W00Ce000W00C3000W00CB00C800C1000W00Ev000W00C1000W00C800C100Lb00M200Od00Pq00P800Pq00R700Pq00PA00Pq00aL00ay00aM00ay00aN00ay00aS00ay00aX00ay00aY00ay00ah00ay00al00ay00cX00cy00",
    "cY00cy00cl00cy00eo00ey00eu00ey00eM00ey00eN00ey00eS00ey00eh00ey00iX00iy00iY00iy00vD00uo00xD00wo00wh00wP00wh00wX00z200+t00zC00+t00zH00+t00zM00+t00zR00+t00z000+r00zn00zo00zn00zq00+o00+000+o00zn00+000+p00+000+p00zn00+000zn00+000+I00+t00+S00+t00+X00+t00+c00+t00+h00+t00+G00+r00H2001X00A+01y000Ev01y100Ev01y200Ev01y300Ev01y400Ev01y500Ev",
    "01y600Ev01y700Ev01y000Ev01y100Ev01y200Ev01y300Ev01y400Ev01y500Ev01y600Ev01y700Ev01yW00Ev01yX00Ev01yY00Ev01yZ00Ev01ya00Ev01yb00Ev01yc00Ev01yd00Ev01yW00Ev01yX00Ev01yY00Ev01yZ00Ev01ya00Ev01yb00Ev01yc00Ev01yd00Ev01zW00Ev01zX00Ev01zY00Ev01zZ00Ev01za00Ev01zb00Ev01zc00Ev01zd00Ev01zW00Ev01zX00Ev01zY00Ev01zZ00Ev01za00Ev01zb00Ev01zc00Ev01",
    "zd00Ev01zm00Ev00En00Ev00Ei00Ev01+s00Ev00En00Ev000W00CJ000W00CJ000W00D2000W00C800D201zq00Ev00Et00Ev00Ek00Ev01*600Ev00Et00Ev000W00CJ00C0000W00CJ00C1000W00CJ00D2000W00CK00C0000W00CK00C1000W00CK00D2000W00C800C0000W00C800C101zy00Ev00F900Ev00FE00Ev01*s00Ev00F900Ev000W00C1000W00CK000W000W00Cp020o020o020o020o020o020r020r020r020r020r000X",
    "000X000W00C5000*000*000*000X000X000*020o020o020o020o001o001p001X000l001Z001X000l001p002m001Z001Z000l001l001Z000l001r002m001c001e001f001i001k001l001o001p001j001q001b001i001q001j001b001c001X001u00Ep001a000n0214000t000n0214000v000n0214000n000m000n0214000p000o0214000p000n0214000r000o0214000r000p0214000r000q0214000r000n0214000s000r02",
    "14000s000n0214000u000p0214000u000r0214000u000t0214000u000n0214001f001f001f001f001f001f001s001s001f001s001f001f001s001f001f001f001f001u001u001f001u001f001f001f001f001f001f001f001f001s001s001f001s001f001f001s001f001f001f001f001u001u001f001u001f001f000m0214000p028h028h028h028h028h028k028k028k028k028k000n000m000n000n000n000o000n000p",
    "000n000q000n000r000n000s000n000t000n000u000n000v000o000m000e000n000f000e000o000f000e000p000f000e000q000f000e000r000f000e000s000f000e000t000f000e000u000f000e000v000f000e000n000m000f000e000n000n000f000e000n000o000f000e000n000p000f000e000n000q000f000e000n000r000f000e000n000s000f000e000n000t000f000e000n000u000f000e000n000v000f000e00",
    "0o000m000f000e001X000f000e001Y000f000e001Z000f000e001a000f000e001b000f000e001c000f000e001d000f000e001e000f000e001f000f000e001g000f000e001h000f000e001i000f000e001j000f000e001k000f000e001l000f000e001m000f000e001n000f000e001o000f000e001p000f000e001q000f000e001r000f000e001s000f000e001t000f000e001u000f000e001v000f000e001w000f028h028h",
    "028h028h000w000w000z000z000z000z000z000z02hT00Cu000W032P000W032Q0328032A032p0338000e0140000f000e0142000f000e0143000f000e0145000f000e0146000f000e0147000f000e0149000f000e014B000f000e014C000f000e014E000f000e014F000f000e014G000f000e014H000f000e014I000f000e0Am0000f000e0B2O000f000e0BBa000f000e0BTy000f000e0Bd8000f000e0BmK000f000e0C2i00",
    "0f000e0CL4000f000e0CUG000f000e0Cme000f000e0Cvq000f000e0D30000f000e0DCC000f000e0DLO000f000e0CZy000f000e0COa0CW4000f000e0COa0DR4000f000e04u0000f000e04wC000f000e04u9000f000e05RR000f000e04wK000f000e055j000f000e04u3000f000e055h000f000e04vT000f000e05D1000f000e06S8000f000e071h000f000e06mq000f000e06Se000f000e097H000f000e05SV000f000e06Nb",
    "000f000e06Wg000f000e06S9000f000e07a+000f000e05GD000f000e079v000f000e08oX000f000e07bT000f000e05Aq000f000e04xZ000f000e05Hy000f000e05jc000f000e07RZ000f000e04y1000f000e08p7000f000e05DK000f000e07bj000f000e04yH000f000e087g000f000e087p000f001m001q001b000o000n000o000o000o000p000o000q000o000r000o000s000o000t000o000u000o000v000p000m000p00",
    "0n000p000o000p000p000p000q000p000r0Cmu0ApW0CZy0CTO000p000s000p000t000p000u000p000v000q000m000q000n000q000o000q000p000q000q000q000r000q000s000q000t000q000u000q000v000r000m000n06S8000o06S8000p06S8000q06S8000r06S8000s06S8000t06S8000u06S8000v06S8000n000m06S8000n000n06S8000n000o06S8001e001d001b001o001d001b001s001i001q001a04xa05IC032Y",
    "033H033y0338032Y033h033L032X032Y033p033Q032Y032Y033y033h032a033B033p032m032a033p0331032c032f033p032e032v032l033y0339032e033y032h033y032g033p032v032g033y033W032h032a033g032h033f03330338032h033j033g033y032i033j033p032i033p033U032k032i032k033B033y032j033b033g033y032k033h0330033y032j033j032j033j032m033f033W032j033j033X033y0338033h03",
    "2j033j033l03330338032m033f033W032m033f033W0338033p032l033h032y032a033j032l033j033y033D032n033y032v032p033h033A032p033y033T032r032a032l033h032r033p0331033y033W032t033g033p032m032x033p0331032x033p03380330033y032v0337032t0339033h0338033p033A033E033E03330338033F032a0334033H033y032x033p0338033H033y0334033G033y033i033h033K032Y032v0338",
    "033h033K032l033h033K032p033J033h033L032X033f03330339033L032Z033y0338033M0333032t032d033h033L033f033p033O032l032*033y033h033Q032z033Q033B033I033O033h0334033Q033p032v033Q033y032u033P033y032*033T032a033p0338033S033h0338033R033p033T033p0339033R033y033h033R033y033p033U032a032l033j033U032a033h033U0333033F033U033h032l033U033p032t033d03",
    "3p033V032l033j033p033V033g033V033g033G033y033h033X032i033X032i0338033p033X033y0338033h033a033y0339033a033y033h033c032Y033p033g03330338033h033g033f033h033K033y033h033y033M033h033i033W033i033p0338032o033p033l03330338000m072v000n072v000o072v000p072v000q072v000r072v000s072v000t072v000u072v000v072v000n000m072v000n000n072v000n000o072v",
    "000n000p072v000n000q072v000n000r072v000n000s072v000n000t072v000n000u072v000n000v072v000o000m072v000o000n072v000o000o072v000o000p072v000o000q072v001e001m001X001a001X001X001r001Y001X001o001l001s001m001Z001a001j001a001j000o001a001j000p001f001r05vp068G06Oj05IC05ad06jZ06OE06ox06Wg05yF04yQ07a+001m001X001k001X00Ey001X001j001X001h001X00",
    "1h001Y001j001Y001d001Y001Z001X001i001h001Z001X001i001m001c001k001c00Ey001c00Ey001d001j001d001h001d001e001w001h001e001w001j001e001w001d001e001w001q001e001w00Ey001i001j001i001a001i001h001i001c001j001k001j00Ey001j001j001j001Z001j001h001j001j001j000o001Z001j000o001j000o001h001j000o001j001j000p001Z001j000p001j000p001h001j000p001j028L",
    "001p001j028L001p000o001m001X001h001m001X001j001m001X001d001m001X001o001X001a001o001X001a028L001p001o001X001a028L001p000o001m001p001k001p00Ey001p001j001p001m001s001k001s00Ey001s001j001s001h001s001j001s001m001t001k001t00Ey001t001j001t001h001t001j001t001h00F9001j00F9001Y001n001Z001Z001Z001a001Z028L001h001d001a001Y001d001v001e001X00",
    "1e001m001f001k001h001h001h001j001h001q001i001j001i001k001i001l001d001i001u001j001Y001j001f001i001j001l001i001m001e001m001m001j001m001o001p001o001p001s001t001Y001s028L001j001X028L001j000n06Nb000o06Nb000p06Nb000q06Nb000r06Nb000s06Nb000t06Nb000u06Nb000v06Nb000n000m06Nb000n000n06Nb000n000o06Nb000n000p06Nb000n000q06Nb000n000r06Nb000n",
    "000s06Nb000n000t06Nb000n000u06Nb000n000v06Nb000o000m06Nb000o000n06Nb000o000o06Nb000o000p06Nb000o000q06Nb000o000r06Nb000o000s06Nb000o000t06Nb000o000u06Nb000o000v06Nb000p000m06Nb000p000n06Nb001d001X001i09+S089v001c001c001c001f001c001i001c001c001f001c001c001i001p001q00Lq00Ls00Lq00Lb00Lq00Lh00L+00Ls00Lq00Lj00NP00Mq00No00Mt00Nf00N100",
    "Nf00N200Nf00My00N100Nf00My00N200NG00Mt00NG00Mu00NG00My00NH00My00NI00My00NJ00My00NK00My00NL00My00NM00My00NO00My00NP00My00NQ00My00NR00My00NS00My00NU00My00NW00My00NX00My00NZ00My00Na00My00Nc00My00Nd00My00Ne00My00Nf00My00Ng00My00NL00Mv00NH00M*00NR00M*00Na00M*00NG00NS00Pn00Px00P+00Q000Pw00P*00Pv00Qa00Qc00Q400Q300Q600Q700QD00QC00QE00Q8",
    "00QO00QH00Qf00Ql00Qp00Qn00Qw00Qx00R000R100Q+00RI00RJ00Qj00R700R600R800R700Pq00RB00R500R900RG00P900Oc00Od00Oc00RL00Oc00P800Oc00R700Oc00R600Oc00R800Oc00RG00Oc00P900RC00Oc00Oi00Oc00Oj00Oc00P500Oc00P900Oc00PA00Oe00Oi00Oe00Oj00Oe00Ok00Oe00P500Oe00P900Oe00PA00Og00Oi00Og00Oj00Og00Ok00Og00P500Og00P900Og00PA00Oh00Oi00Oh00P500Oh00P900Oh00",
    "PA00Oi00Oj00Oi00P500Oj00Oi00Oj00P500Ok00Oi00Ok00Oj00Ok00P500Op00Oi00Op00Oj00Op00Ok00Op00P500Or00Oj00Or00P500Os00Oi00Os00Oj00Os00Ok00Os00P500Ot00Oj00Ot00P500Ou00P500Ov00Oi00Ov00P500Ow00Oi00Ow00P500P100Oi00P100Oj00P100Ok00P100P500P100P900P100PA00P200Oj00P200P500P200P900P200PA00P300Od00P300Oi00P300Oj00P300Ok00P300P400P300P500P300P9",
    "00P300PA00P400Oi00P400Oj00P400Ok00P400P500P400P900P400PA00P500Oi00P500Oj00P500Ok00P500P500P500P900P500PA00P600Oi00P600Oj00P600Ok00P600P500P600P900P600PA00P700Oi00P700P500P700P900P700PA00PA00Oi00PA00Oj00PA00Ok00PA00P500PA00P900PA00PA00Om00Pm00On00Pm00P900Pm000W00PC00PH000W00PD00PH000W00PE00PH000W00PF00PH000W00PG00PH000W00PH00Pm00",
    "Oc00On00Oc00Oo00Oc00P500Oc00P600Oc00P900Oc00PA00Oe00On00Oe00Oo00Oe00P500Oe00P600Oe00P900Oe00PA00Og00On00Og00Oo00Og00P500Og00P600Og00P900Og00PA00Oh00On00Oh00Oo00Oh00P500Oh00P600Oh00P900Oh00PA00P100P900P100PA00P200P900P200PA00P300Od00P300P400P300P500P300P900P300PA00P400P500P400P900P400PA00P500Od00P500P500P600On00P600Oo00P600P500P6",
    "00P600P600P900P600PA00P900Pm00PA00On00PA00Oo00PA00P500PA00P600PA00P900PA00PA00Oc00Oi00Oc00Oj00Oc00Ok00Oc00P500Oc00P700Oe00Oi00Oe00Oj00Oe00Ok00Oe00P500Oe00P700Og00Oi00Og00Oj00Og00Ok00Og00P500Og00P700Oh00P500Oi00Oj00Oi00P500Oj00Oi00Oj00P500Ok00Oi00Ok00P500Op00Oi00Op00Oj00Op00Ok00Op00P500Or00Oj00Or00Ok00Or00P500Os00Oi00Os00Oj00Os00",
    "Ok00Os00P500Ot00Oj00Ou00P500Ov00Oi00Ov00P500Ow00Oi00Ow00P500P100Oi00P100Oj00P100Ok00P100P500P200Oj00P200P500P300Oi00P300Oj00P300Ok00P300P400P300P500P400Oi00P400Oj00P400Ok00P400P500P400P700P500Oi00P500Oj00P500Ok00P500P500P600Oi00P600Oj00P600Ok00P600P500P600P700P700Oi00P700P500P700Pm00PA00Oi00PA00Oj00PA00Ok00PA00P500PA00P700Oc00P5",
    "00Oc00P700Oe00P500Oe00P700Og00P500Og00P700Oh00P500Oh00P700Op00P500Op00P700Oq00P500Oq00P700P300P400P300P500P400P500P600P500P600P700PA00P500PA00P700P000PE00PH00P000PF00PH00P000PG00PH00Ot00P900Ot00PA00Ov00P900Ov00PA00Ow00P900Ow00PA00Op00P900Op00PA00Oq00P900Oq00PA00Oj00P900Oj00PA00Oi00P900Oi00PA00Ok00P900Ok00PA00Or00P900Or00PA00Os00",
    "P900Os00PA00Oq00Oi00Oq00Oj00Oq00Ok00Oq00P500Oq00On00Op00On00Or00On00Os00On00Ot00P900Ot00PA00Ov00P900Ov00PA00Ow00P900Ow00PA00Op00P900Op00PA00Oq00P900Oq00PA00Oj00P900Oj00PA00Oi00P900Oi00PA00Ok00P900Ok00PA00Or00P900Or00PA00Os00P900Os00PA00Oq00Oi00Oq00Oj00Oq00Ok00Oq00P500Oq00On00Op00On00Or00On00Os00On00Oq00Oi00Oq00Oj00Oq00Ok00Oq00P5",
    "00Op00P700Oq00P700Ot00P500Op00Oi00Op00Oj00Op00Ok00Oq00Oi00Oq00Oj00Oq00Ok00Ot00P500Ou00P500Od00PB00Og00Oi00P500Og00Oj00Oi00Og00Oj00P500Og00Ok00P500Og00P500Oi00Og00P500Oj00Og00P500Ok00Oi00P500Oj00Oj00P500PA00Oj00P500P900Op00Oj00Oi00Op00Oi00Oj00Op00Oi00P900Op00P500Oj00Op00P500Oi00Op00P500P500Or00Oj00Oj00Or00P500P500Oq00Oj00P500Oq00",
    "Oi00PA00Oq00P500Ok00Oq00P500P500Os00Oj00P900Os00Ok00P500Ot00P500Oj00Ot00P500P500Ot00P500PA00Ov00Oi00P500Ov00P500P500Ov00P500P900Ow00P500P500Ow00P500PA00Ow00P500P900P100Ok00P500P200P500Oj00P200P500P500P400Oj00P500P400Oj00PA00P400Oj00P900P400Oi00Oi00P400Ok00P500P400P500Oj00P500Oj00Oi00P500Oj00P500P500Oj00PA00P500Oi00Oj00P500Oi00P5",
    "00P500Ok00Oi00P500Ok00P500P500Oi00Ok00P700P500Oi00P700P500P500P600Oj00P500P600Oj00P900P600Oi00P500P600Oi00P900P600P500PA00P600P500P900PA00P500P500Oe00Ok00PA00Og00Oi00PA00Og00Oi00P900Og00Ok00PA00Og00Ok00P900Og00P500PA00Og00P500P900Oi00P500PA00Oi00Oj00P900Oi00P500P900Op00Ok00P900Or00Oj00PA00Oq00Oj00PA00Os00Oj00PA00P400Oi00PA00P400",
    "P500PA00PA00Oj00PA00PA00Oi00PA00PA00P500PA00P500P500PA00P200P500PA00P600Oj00PA00P200P500Oj00P400Oj00P500Ov00P500PA00P300P500PA00P600Oi00Oj00P500Ok00PA00P400Oi00P500P300P500P500P400Oi00P500P600Oi00Oj00Oi00Oj00PA00Oj00Oi00PA00P500Oi00PA00P100P500PA00Oe00Oj00PA00P300P500P500Ov00Oi00P500Or00P500P500Op00Ok00PA00P600Oi00PA00Or00P400RI",
    "00P200P400RI00Od00P400P400P700Od00P300Oe00On00P500Oj00P500Ol00Or00P400Ov00P500On00Op00P800P400Ov00P400PA00P700P800Op00P400P500Or00P400P900Or00P400P9000W00Od00P400P400P7000W00Ov00P400PA00P7000W00P800Op00P400P500Oi00P4000W00Oi00P400Od00P400P700On00RC00Od00P4001V000W00C5001V000W00PB00P000PB000W00PC000W00PD000W00PE00P000PE000W00PF00",
    "P000PF000W00PG00P000PG000W00PH00P000PH000W00PI00P000PI00OY00OZ00Oa00Ob00Oc00Od00Oe00Of00Og00Oh00Oi00Oj00Ok00Ol00Om00On00Oo00Op00Oq00Or00Os00Ot00Ou00Ov00Ow00P100P200P300P400P500P600P700P800P900PA00P400OY00P400OZ00P400Ob00P400Od000W00C40T5N0T5b0T5O0T5b0T5O0T5b0T5k0T5O0T5b0T5l0T5O0T5b0T5m0T5O0T5b0T5n0T5O0T5b0T5o0T6v0T5b0T6w0T5b0T6v",
    "0T5b0T5k0T6w0T5b0T5k0T6v0T5b0T5l0T6w0T5b0T5l00F300F300F300F300F300FT000m000i000n000i000o000i000p000i000q000i000r000i000s000i000t000i000u000i000v000i000e001X000f000e001Y000f000e001Z000f000e001a000f000e001b000f000e001c000f000e001d000f000e001e000f000e001f000f000e001g000f000e001h000f000e001i000f000e001j000f000e001k000f000e001l000f00",
    "0e001m000f000e001n000f000e001o000f000e001p000f000e001q000f000e001r000f000e001s000f000e001t000f000e001u000f000e001v000f000e001w000f030K001p030L001Z001a001t001w001e001s001j001s001p001a001p001p001m001m001s001t001Z001j001Z001j001a001j001o001a001g031x031B032p032p030K06Si030L030K04u9030L030K04wC030L030K05k9030L030K072v030L030K069J030L",
    "030K07RN030L030K05BT030L030K06LN030L05D*05M405i+0YCn05yY03wu07SV0bgd09WB"]

end Bookmarks.Url.HostMap
