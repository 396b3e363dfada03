/-!
The character data of nameprep, packed as hexadecimal digits: the mapping of code points
before normalisation, the compatibility decompositions of Unicode 3.2, the combining classes
and canonical compositions the normaliser orders and composes by, and the classes of code
points a prepared label may not hold or that decide its direction.
-/
namespace Bookmarks.Url.Nameprep

/-- The code points that the mapping changes, each as six digits, then one digit for the
length of what it maps to, then that many code points of six digits; a length of zero drops
the code point. -/
def mappingData : String :=
  String.join [
    "0011400640048G00OW00Gn001Z00144006G004KG00PG00HX001c00174006S004WG00Q000IH001f001A4006e004iG00Qm00J1001i001D4006q004uG00RW00Jn001l001G400700054G00SG00KX001o001J4007C005GG00T000LH001r001M4007O005SG00Tm00M1001u001P4007a005eG00UW00hG002r400xm00C0G00u000mH003X0032400E800CCG00um00n1003a0035400EK00COG00vW00nn003d0038400EW00CaG00wG00oX",
    "003g003B400Ei00CmG00x000pH003j003E400Eu00CyG00xm00q1003m003H400F400D8G00yW00qn003p003K400FG00DKG00zG00rX003s003O400FW00DaG00+G00sX003w003R400Fi00DmG00*000tH003z003U400Fu00DyW00Sm00Sm010100410042400GC00GGG011G011X00470048400Ga00GeG012m0131004D004E400Gy00H0G014G014X004J004K400HK00HOG015m0161004P004Q400Hi00HmG017G017X004V004W400I40",
    "0I8G018m0191004b004c400IS00IWG01AG01AX004h004i400Iq00IuG01Bm01C2001f00C7004o400JC00JGG01DG01DX004t004v400Je00JiG01F001FH004+004*400K000K4G01GW01Gn00540055400KO00KSG01I001II00Ay001k005A400Ki00KmG01JG01JX005F005G400L400L8G01Km01L1005L005M400LS00LWG01MG01MX005R005S400Lq00LuG01Nm01O1005X005Y400MC00MGG01PG01PX005d005e400Ma00MeG01Qm01",
    "R1005j005k400My00N0G01SG01SX005p005q400NK00NOG01Tm01U1003*005v400Ne00NiG01V001VH005+005*4007C00O4G02Km01WX00630064400OK00OOG02L001Xn00680069400bO00OeG02Lm01Yn006C006E400Tq00OyG02MG01a1009R006H400P800PCG02O001b1009Z006M400ca00PSG02Q001c1006P006S400cy00PqG02SW01dn009r006W400Q400Q8G01em01f1006b006c400e000QSG01g001gH00A3006i400Qq00Q",
    "uG02Y001hn006m006n400ee00R8G02Ym01in006q006r400RO00RSG02aW01k1006v006y400Rq00SGG01nW01nH00760077400Sa00SWG01oG01oX007C007B400Sm00SqG01pW01pn007G007H400T800TCG01r001rH007M007N400TW00TaG01sW01sn007S007U400Ty00U0G01uG01uX007Z007a400UK00UOG01vm01w1007f007g400Ui00UmG01xG01xX007l007m8006e00mm00V4G01ym01yX007p007q400VK00VOG01bG01zn006*",
    "007u400Va00VeG01+m01*1007z007+400Vy00W0G020G020X00830084400WK00WOG021m02210089008A400Wi00WmG023G023X008F008G400X400X8G024m0251008L008M400XS00XWG026G026X008R008S400Xq00XuG027m0281006U008Y400YC00YGG029G029X008d008e400Ya00YeG02Am02B1008j008k400Yy00Z0G02CG02CX008p008w40B6K00ZiG02F002FH006Q008+40B6O00a4G02GW02Gn00600094400ea00aKG02Z0",
    "02HX00970098400aa00aeG02Im02J1009D009E400ay00qKG03kG03Jm00Dm400t400t8G03Sm03TX00Dt00Dw8002000xa00tyG03ym03XX00Ei00E8400wq00uaG03hW03YX00El00EC400ym00uuG03pG03Zn00FE00EGC00xa00mW00m400v4G03iG03aX00Eo00EJ400xC00vGG03j003bH00Er00EM400xO00vSG03jm03c100Eu00EP400xa00veG03kW03cn00Ex00ES400xm00vqG03lG03dX00E+00EV400xy00w0G03m003eH00F100",
    "EZ400yC00wGG03n003fH00F500Ec400yO00wSG03nm03g100F800Ef400ya00weG03oW03gn00FB00EmC00yK00mW00m400y8G03mm03pn00FN00FG400x800z4G03k003qX00F500FJ400yq00zGG03om03rH00F600FM400y000zWG03sG03sX00FR00FS400zq00zuG03tm03u100FX00FY400+C00+GG03vG03vX00Fd00Fe400+a00+eG03wm03x100Fj00Fk400+y00*0G03kW03yH00F100Fo400yC00*GG03k003zH00Er00Ft400*W00*",
    "aG03mm03+X00Fx00Fz400ti00*uG03V003*n00Dz00G0401500104G04KG040X00HI00G34015C010GG04L0041H00HL00G64015O010SG04Lm042100HO00G94015a010eG04MW042n00HR00GC4015m010qG04NG043X00HU00GF4015y0110G04C0044H00Gn00GI40138011CG04Cm045100Gq00GL4013K011OG04DW045n00Gt00GO4013W011aG04EG046X00Gw00GR4013i011mG04F0047H00Gz00GU4013u011yG04Fm048100H000GX",
    "401440128G04GW048n00H300Ga4014G012KG04HG049X00H600Gd4014S012WG04I004AH00H900Gg4014e012iG04Im04B100HC00Gj4014q012uG04JW04Bn00HF00HW401640168G04Om04P100Hb00Hc4016S016WG04QG04QX00Hh00Hi4016q016uG04Rm04S100Hn00Ho4017C017GG04TG04TX00Ht00Hu4017a017eG04Um04V100Hz00H+4017y0180G04WG04YX00IB00IC4018q018uG04Zm04a100IH00II4019C019GG04bG04bX",
    "00IN00IO4019a019eG04cm04d100IT00IU4019y01A0G04eG04eX00IZ00Ia401AK01AOG04fm04g100If00Ig401Ai01AmG04hG04hX00Il00Im401B401B8G04im04j100Ir00Is401BS01BWG04kG04kX00Ix00Iy401Bq01BuG04lm04m100JF00J1401C801CCG04n004nH00J600J7401CW01CaG04oW04on00JC00JD401Cu01D0G04qG04qX00JJ00JK401DK01DOG04rm04s100JP00JQ401Di01DmG04tG04tX00JV00JW401E401E8G",
    "04um04v100Jb00Jc401ES01EWG04wG04wX00Jh00Ji401Eq01EuG04xm04y100Jn00Jo401FC01FGG04zG04zX00Jt00Ju401Fa01FeG04+m04*100Jz00J+401Fy01G0G050G050X00K300K4401GK01GOG051m052100K900KA401Gi01GmG053G053X00KF00KG401H401H8G054m055100KL00KM401HS01HWG056G056X00KR00KS401Hq01HuG057m058100KX00KY401IC01IGG059G059X00Kd00Ke401Ia01IeG05Am05B100Kj00Kk40",
    "1Iy01J4G05OG05CX00LY00Kp401MC01JGG05P005DH00Lb00Ks401MO01JSG05Pm05E100Le00Kv401Ma01JeG05QW05En00Lh00Ky401Mm01JqG05RG05FX00Lk00K*401My01K0G05S005GH00Ln00L2401N801KCG05Sm05H100Lq00L5401NK01KOG05TW05Hn00Lt00L8401NW01KaG05UG05IX00Lw00LB401Ni01KmG05V005JH00Lz00LE401Nu01KyG05Vm05K100M000LH401O401L8G05WW05Kn00M300LK401OG01LKG05XG05LX00",
    "M600M7801MK01O804A0G0j000GeH02q1012Y40BG804ACG0j0m0Gf102q4012b40BGK04AOG0j1W0Gfn02q7012e40BGW04AaG0j2G0GgX02qA012h40BGi04AmG0j300GhH02qD012k40BGu04AyG0j3m0Gi102qG012n40BH404B8G0j4W0Gin02qJ012q40BHG04BKG0j5G0GjX02qM012t40BHS04BWG0j600GkH02qP012w40BHe04BiG0j6m0Gl102qS012z40BHq04BuG0j7W0Gln02qV013040BI004C4G0j8G0GmX02qY013340BIC04C",
    "GG0j900GnH02qb013740BIS04CqG0jBG0Je10Ajm01EX40gt404w8G2hSW0Jen0Ajp01Ea40gtG04wKG2hTG0JfX0Ajs01Ed40gtS04wWG2hU00JgH0Ajv01Eg40gte04wiG2hUm0Jh10Ajy01Ej40gtq04wuG2hVW0Jhn0Aj*01Em40gu004x4G2hWG0JiX0Ak201Ep40guC04xGG2hX00JjH0Ak501Es40guO04xSG2hXm0Jk10Ak801Ev40gua04xeG2hYW0Jkn0AkB01Ey40gum04xqG2hZG0JlX0AkE01E*40guy04y0G2ha00JmH0AkH01F2",
    "40gv804yCG2ham0Jn10AkK01F540gvK04yOG2hbW0Jnn0AkN01F840gvW04yaG2hcG0JoX0AkQ01FB40gvi04ymG2hd00JpH0AkT01FE40gvu04yyG2hdm0Jq10AkW01FH40gw404z8G2heW0Jqn0AkZ01FK40gwG04zKG2hfG0JrX0Akc01FN40gwS04zWG2hg00JsH0Akf01FQ40gwe04ziG2hgm0Jt10Aki01FT40gwq04zuG2hhW0Jtn0Akl01FW40gx004+4G2hiG0JuX0Ako01FZ40gxC04+GG2hj00JvH0Akr01Fc40gxO04+SG2hjm0Jw1",
    "0Aku01Ff40gxa04+eG2hkW0Jwn0Akx01Fi40gxm04+qG2hlG0JxX0Ak+01Fl40gxy04*0G0J+00JyH01Fv01Fo404*e04*CG0J+m0Jz101Fy01Fr404*q060O00O2m01WC0060q00Sa1013G01oH404D40798G0GqW0San013J01oK404DG079KG0GrG0SbX013M01oN404DS079WG0Gs00ScH013P01oQ404De079iG0Gsm0Sd1013S01oT404Dq079uG0GtW0Sdn013V01oW404E007A4G0GuG0SeX013Y01oZ404EC07AGG0Gv00SfH013b01oc",
    "404EO07ASG0Gvm0Sg1013e01of404Ea07AeG0GwW0Sgn013h01oi404Em07AqG0GxG0ShX013k01ol404Ey07B0G0Gy00SiH013n01oo404F807BCG0Gym0Sj1013q01or404FK07BOG0GzW0Sjn013t01ou404FW07BaG0G+G0SkX013w01oz404Fq07BuG0G*W0Sln013*01u0407W407W8G0U0m0U1101u501u6407WS07WWG0U2G0U2X01uB01uC407Wq07WuG0U3m0U4101uH01uI407XC07XGG0U5G0U5X01uN01uO407Xa07XeG0U6m0U71",
    "01uT01uU407Xy07Y0G0U8G0U8X01uZ01ua407YK07YOG0U9m0UA101uf01ug407Yi07YmG0UBG0UBX01ul01um407Z407Z8G0UCm0UD101ur01us407ZS07ZWG0UEG0UEX01ux01uy407Zq07ZuG0UFm0UG101v101v2407aC07aGG0UHG0UHX01v701v8407aa07aeG0UIm0UJ101vD01vE407ay07b0G0UKG0UKX01vJ01vK407bK07bOG0ULm0UM101vP01vQ407bi07bmG0UNG0UNX01vV01vW407c407c8G0UOm0UP101vb01vc407cS07cWG",
    "0UQG0UQX01vh01vi407cq07cuG0URm0US101vn01vo407dC07dGG0UTG0UTX01vt01vu407da07deG0UUm0UV101vz01v+407dy07e0G0UWG0UWX01w301w4407eK07eOG0UXm0UY101w901wA407ei07emG0UZG0UZX01wF01wG407f407f8G0Uam0Ub101wL01wM8006W00p407fSW00T003200Uc2001t00CA01wP8007a00me07feW00OG02lW0Ucn01vX01wU8007C007C07g0G0UeG0UeX01wZ01wa407gK07gOG0Ufm0Ug101wf01wg407g",
    "i07gmG0UhG0UhX01wl01wm407h407h8G0Uim0Uj101wr01ws407hS07hWG0UkG0UkX01wx01wy407hq07huG0Ulm0Um101x101x2407iC07iGG0UnG0UnX01x701x8407ia07ieG0Uom0Up101xD01xE407iy07j0G0UqG0UqX01xJ01xK407jK07jOG0Urm0Us101xP01xQ407ji07jmG0UtG0UtX01xV01xW407k407k8G0Uum0Uv101xb01xc407kS07kWG0UwG0UwX01xh01xi407kq07kuG0Uxm0Uy101xn01xo407lC07lGG0UzG0UzX01xt",
    "01xu407la07leG0U+m0U*101xz01x+407ly07mWG0V000V2H01y101yA407m807miG0V0m0V3101y401yD407mK07muG0V1W0V3n01y701yO407n007naG0V4G0V6X01yI01yR407nC07nmG0V500V7H01yL01ye407o007oaG0V8G0VAX01yY01yh407oC07omG0V900VBH01yb01yk407oO07oyG0V9m0VE101ym01yv407p407peG0VCW0VEn01yp01yy407pG07pqG0VDG0VFX01ys01y*407pS07qWG0VG00VIH01z101zA407q807qiG0VGm",
    "0VJ101z401zD407qK07r0W03nG034m0VKZ00F500CJ00C001zKC00yK00nC00m407rOm03nG034m03GW0VMH01zH01zR407rC07rqG0VLG0VNn01zN01ze407s007saG0VOG0VQX01zY01zh407sC07smG0VP00VRH01zb01zk407sO07syG0VPm0VW201y000Ev01+1807m400xa07u8W0V0W03kG0VWo01y300Ev01+4807mG00xa07uKW0V1G03kG0VXY01y600Ev01+7807mS00xa07uWW0V0003kG0VYI01y100Ev01+A807m800xa07uiW0V",
    "0m03kG0VZ201y400Ev01+D807mK00xa07uuW0V1W03kG0VZo01y700Ev01+G807o000xa07v4W0V8G03kG0VaY01yY00Ev01+J807oC00xa07vGW0V9003kG0VbI01yb00Ev01+M807oO00xa07vSW0V9m03kG0Vc201yW00Ev01+P807o400xa07veW0V8W03kG0Vco01yZ00Ev01+S807oG00xa07vqW0V9G03kG0VdY01yc00Ev01+V807oS00xa07w0W0VO003kG0VeI01zX00Ev01+Y807s800xa07wCW0VOm03kG0Vf201za00Ev01+b807s",
    "K00xa07wOW0VPW03kG0Vfo01zd00Ev01+e807s000xa07waW0VOG03kG0VgY01zY00Ev01+h807sC00xa07wmW0VP003kG0VhI01zb00Ev01+k807sO00xa07wyW0VPm03kG0ViY01zm00Ev01+p800x400xa07xGW03h003kG0VjY00En00D201+tC00x400q800xa07xWG0Vi00VkH01+n01+w407t007xiG0VSG0Vl200En00Ev01++400xa07y8W0VT003kG0Vmo00Et00Ev01*4800wu00xa07yOW03jm03GW0Vnp00Et00D200Ev01*8407t",
    "807yaG0VSm0VoX01zq01*B407tK07ymW03jm03kG0VqZ00Ev00C800C001*JC00xa00mW00m407zOW03kG03GW0Vrp00Ev00C800D201*O407z007zaG0VqG0VsX01zs01*R407tS07+8m03nG032003000Vup00F500C800C101*a800y400nC07+OW03nG03GW0Vvp00F500C800D201*e407+007+aG0VuG0VwX01zw01*h407ti07+mG0VvG0VyY01zy00Ev01*p800ya00xa07*GW03pW03kG0VzY00F900D201*tC00ya00q800xa07*WG0V",
    "U00V+H01zv01*w407tm07*iG0VVG0V*200F900Ev020B0080m00W3G021W008AWW00SW00Sm0X0X001Z0243800B0006C08GSG02Mm0X2I002m001c024B4006W08GmG00Q00X3H001e024G4006a08H4G00QG0X4X001i024L4006u08HOW00RW00Rm0X6H001m024Q4007408HiG00SW0X71001o024T4007808I0W00Sm00RG0X8J001q001b001i024Y8007G006q08IGG00UW0X9X00F9024e4007e08IeG00Qm0XAn003b024i4006808IqG",
    "00Om0XC1001b024n4006O08J8G0XJW0XCn001j024+400xC08JyG03m00XHH001a025W408N008M4G0XSG0XOX025o025Z408NC08MGG0XT00XPH025r025c408NO08MSG0XTm0XQ1025u025f408Na08MeG0XUW0XQn025x025i408Nm08MqG0XVG0XRX025+025l408Ny08OCG0XX00ajX02JG02It409D409BWG0aqW0akH02JJ02Iw409DG09BiG0arG0al102JM02Iz409DS09BuG0as00aln02JP02J0409De09C4G0asm0amX02JS02J340",
    "9Dq09CGG0atW0anH02JV02J6409E009CSG0auG0ao102JY02J9409EC09CeG0av00aon02Jb02JC409EO09CqG0avm0apX02Je02JF409Ea0B00G0iC00i0H02mn02m240B380B0CG0iCm0i1102mq02m540B3K0B0OG0iDW0i1n02mt02m840B3W0B0aG0iEG0i2X02mw02mB40B3i0B0mG0iF00i3H02mz02mE40B3u0B0yG0iFm0i4102n002mH40B440B18G0iGW0i4n02n302mK40B4G0B1KG0iHG0i5X02n602mN40B4S0B1WG0iI00i6H02",
    "n902mQ40B4e0B1iG0iIm0i7102nC02mT40B4q0B1uG0iJW0i7n02nF02mW40B500B24G0iKG0i8X02nI02mZ40B5C0B2GG0iL00i9H02nL02mc40B5O0B2SG0iLm0iA102nO02mf40B5a0B2eG0iMW0iAn02nR02mi40B5m0B2qG0iNG0iBX02nU02ml40B5y0B60G0iOG0iOX009h02nZ407Nq0B6GG02VG0iPn02ne02nf40B6e0B6iG0iR00iRH009H02nk400d40B6yG02K00iS1009I02no40B7C0B7KG0iTW0iVX008*02n*400a00B80G0i",
    "WG0iWX02o302o440B8K0B8OG0iXm0iY102o902oA40B8i0B8mG0iZG0iZX02oF02oG40B940B98G0iam0ib102oL02oM40B9S0B9WG0icG0icX02oR02oS40B9q0B9uG0idm0ie102oX02oY40BAC0BAGG0ifG0ifX02od02oe40BAa0BAeG0igm0ih102oj02ok40BAy0BB0G0iiG0iiX02op02oq40BBK0BBOG0ijm0ik102ov02ow40BBi0BBmG0ilG0ilX02o*02p040BC40BC8G0imm0in102p502p640BCS0BCWG0ioG0ioX02pB02pC40BC",
    "q0BCuG0ipm0iq102pH02pI40BDC0BDGG0irG0irX02pN02pO40BDa0BDeG0ism0it102pT02pU40BDy0BE0G0iuG0iuX02pZ02ph40BEm0BEqG0ixW0iyX02pp03DnC006W007000640CtCW00OG00TG0pTI001l001s03E08007000640Cu4W00RW00OG0pWY00Ey001X03E38006q00640CuGW00Qm00OG0pXI001h001Y03E68006q00680CuSW00Pm00OW0pYY001m001c03EB8006u006O0CumW03l000PW0pa2001e001w03EHC006i006W0",
    "07e0Cv8m00RG00Q000UW0pap001d001e001w03EKC007G006W007e0CwaW00S000OG0pgZ001h001m001X03EhC006q007000640Cwmm00Pm00S000OG0pj2001m001s03Er8006u007O0CxOW03l000TW0pjo001j001s03Eu8006i007O0CxaW00RG00TW0pkY001m001t03Ex8006u007S0CxmW03l000Tm0plI001j001t03E+8006i007S0CxyW00RG00Tm0pm2001h00F903F18006q00ya0CyCW00OW00SG0pna001Z028L001h001d03F7",
    "C006C006y002u0CyWW00P000OW0poI001d001v03FB8006W00700CyqW00Qm00Qm0ppY001h001j03FN80070006W0Czam00S000S000RG0psY001m001o03FS8007C007O0CzqW00Tm00OW2cG10AP10AP240faC0faGG2cHG2cHX0AP70AP840faa0faeG2cIm2cJ10APD0APE40fay0fb0G2cKG2cKX0APJ0APK40fbK0fbOG2cLm2cM10APP0APQ40fbi0fbmG2cNG2cNX0APV0APW40fc40fc8G2cOm2cP10APb0APc40fcS0fcWG2cQG2cQX",
    "0APh0APi40fcq0fe0G2cWG2cWX0AQ30AQ440feK0feOG2cXm2cY10AQ90AQA40fei0femG2cZG2cZX0AQF0AQG40ff40ff8G2cam2cb10AQL0AQM40ffS0ffWG2ccG2ccX0AQR0ASY40foC0foGG2d9G2d9X0ASd0ASe40foa0foeG2dAm2dB10ASj0ASk40foy0fp8G2dCm2dD10ASr0ASs40fpS0fpWG2dEG2dEX0ASx0ASy40fpq0fpuG2dFm2dG10AT10AT240fqC0fqGG2dHG2dHX0AT70AT840fqa0fqeG2dIm2dJ10ATD0ATE40fqy0fr0G",
    "2dKG2dKX0ATJ0ATK40frK0frOG2dLm2dM10ATP0ATQ40fri0frmG2dNG2dNX0ATV0ATW40fs40fs8G2dOm2dP10ATb0ATc40fsS0fsWG2dQG2dQX0ATh0ATi40fsq0fsuG2dRm2dUH0ATw0ATx40ftm0ftqG0TUG2dVX0AT*0AU040fu40fu8G2dWm2dX10AU50AU640fuS0fuiG2dZ02dZH009b0AUG40fv40fv8G2dam2dbX0AUN0AUO40fva0fveG2dcm2dd10AUT0AUU40fvy0fw0G2deG2deX0AUZ0AUa40fwK0fwOG2dfm2dg10AUf0AUg40",
    "0cO0fwiG02N02dh1009X0AUj400cm0fwuG02QW2di100AU0AUn400eS0fx8G02dG2din0AjJ0AUq40fxK0fxOG2djm2dk10AUv0AUw40fxi0fxmG2dlG2dlX0AU*0AV040fy40fy8G2dmm2dn10AUK0AV5400e80fyOG0TZW2dnn0AV80AV940fye0fz0G2dqG2drX0AVN0AVO40fza0f*KG2dzW3x02001c001c0Fi18006O006a0+m8W00PW00R03x0p001c001c001f0Fi4C006O006O006m0+mKW00Sm00T03x1Y001p001q0FiJ801NG01NO0",
    "+nGW05T005PG3x5I00Lq00Lh0FiM801Nu01NO0+nSW05T005RG3+000Fu100*W803+0m0Fu400*WK03+1W0Fu700*WW03+2G0FuA00*Wi03+300FuD00*Wu03+3m0Fx*00*o4G3*GG3*8X0Fz20FyZ40*qC0*oGG3*H03*9H0Fz50Fyc40*qO0*oSG3*Hm3*A10Fz80Fyf40*qa0*oeG3*IW3*An0FzB0Fyi40*qm0*oqG3*JG3*BX0FzE0Fyl40*qy0*p0G3*K03*CH0FzH0Fyo40*r80*pCG3*Km3*D10FzK0Fyr40*rK0*pOG3*LW3*Dn0FzN0F",
    "yu40*rW0*paG3*MG3*EX0FzQ0GG04112W1104G44AG440X0GGg0GG34112i110GG44B0441H0GGj0GG64112u110SG44Bm44210GGm0GG941134110eG44CW442n0GGp0GGC4113G110qG44DG443X0GGs0GGF4113S1110G44E0444H0GGv0GGI4113e111CG44Em44510GGy0GGL4113q111OG44FW445n0GG*0GGO41140111aG44GG446X0GH20GGR4114C111mG44H0447H0GH50GGU4114O111yG44Hm44810GH80GGX4114a1128G44IW44",
    "8n0GHB0GGa4114m112KG44JG449X0GHE0GGd4114y11B0G44s044iH0GJP0GIo411De11BCG44sm44j10GJS0GIr411Dq11BOG44tW44jn0GJV0GIu411E011BaG44uG44kX0GJY0GIx411EC11BmG44v044lH0GJb0GI+411EO11ByG44vm44m10GJe0GJ1411Ea11C8G44wW44mn0GJh0GJ4411Em11CKG44xG44nX0GJk0GJ7411Ey11CWG44y044oH0GJn0GJA411F811CiG44ym44p10GJq0GJD411FK11CuG44zW44pn0GJt0GJG411FW11D",
    "4G44+G44qX0GJw0GJJ411Fi11N0G45bm45SH0GMO0GLo411Pa11NCG45cW45T10GMR0GLr411Pm11NOG45dG45Tn0GMU0GLu411Py11NaG45e045UX0GMX0GLy411QC11NqG45f045VX0GMb0GL*411QO11O0G45fm45WH0GMe0GM2411Qa11OCG45gW45X10GMh0GM5411Qm11OOG45hG45Xn0GMk0GM8411Qy11OaG45i045YX0GMn0GMC411RC11OqG45j045ZX0GMr0GMF411RO11P0G45jm45aH0GMu0GMI411Ra11PGG45km45bH0GMy0Go0",
    "413C01384G4CmG4CWX0Gp20Go3413CC138GG4Cn04CXH0Gp50Go6413CO138SG4Cnm4CY10Gp80Go9413Ca138eG4CoW4CYn0GpB0GoC413Cm138qG4CpG4CZX0GpE0GoF413Cy1390G4Cq04CaH0GpH0GoI413D8139CG4Cqm4Cb10GpK0GoL413DK139OG4CrW4Cbn0GpN0GoO413DW139aG4CsG4CcX0GpQ0GoR413Di139mG4Ct04CdH0GpT0GoU413Du139yG4Ctm4Ce10GpW0GoX413E413A8G4CuW4Cen0GpZ0Goa413EG13AKG4CvG4CfX",
    "0Gpc0God413ES13AWG4Cw04CgH0Gpf0Gog413Ee13AiG4Cwm4Ch10Gpi0Goj413Eq13AuG4CxW4Chn0Gpl0Gom413F013B4G4CyG4CiX0Gpo0HYW416C016A4G4OmG4OeX0HZ20HYZ416CC16AGG4On04OfH0HZ50HYc416CO16ASG4Onm4Og10HZ80HYf416Ca16AeG4OoW4Ogn0HZB0HYi416Cm16AqG4OpG4OhX0HZE0HYl416Cy16B0G4Oq04OiH0HZH0HYo416D816BCG4Oqm4Oj10HZK0HYr416DK16BOG4OrW4Ojn0HZN0HYu416DW16BaG",
    "4OsG4OkX0HZQ0HYx416Di16BmG4Ot04OlH0HZT0HY+416Du16ByG4Otm5kG10MvW0Mv141Rc41Ra8G5kOW5kGn0MvZ0Mv441RcG1RaKG5kPG5kHX0Mvc0Mv741RcS1RaWG5kQ05kIH0Mvf0MvA41Rce1RaiG5kQm5kJ10Mvi0MvD41Rcq1RauG5kRW5kJn0Mvl0MvG41Rd01Rb4G5kSG5kKX0Mvo0MvJ41RdC1RbGG5kT05kLH0Mvr0MvM41RdO1RbSG5kTm5kM10Mvu0MvP41Rda1RbeG5kUW5kMn0Mvx0MvS41Rdm1RbqG5kVG5kNX0Mv+0MvV41",
    "Rdy1r00G00OG7K0H001Y0TG24006C1r0CG00P07K11001b0TG54006O1r0OG00Pm7K1n001e0TG84006a1r0aG00QW7K2X001h0TGB4006m1r0mG00RG7K3H001k0TGE4006y1r0yG00S07K41001n0TGH400781r18G00Sm7K4n001q0TGK4007K1r1KG00TW7K5X001t0TGN4007W1r1WG00UG7K6H001w0TGq400641r3KG00OW7KDX001Z0TGt4006G1r3WG00PG7KEH001c0TGw4006S1r3iG00Q07KF1001f0TGz4006e1r3uG00Qm7KFn00",
    "1i0TH04006q1r44G00RW7KGX001l0TH3400701r4GG00SG7KHH001o0TH64007C1r4SG00T07KI1001r0TH94007O1r4eG00Tm7KIn001u0THC4007a1r4qG00UW7KQ1001X0THf400681r6eG00Om7KQn001a0THi4006K1r6qG00PW7KRX001d0THl4006W1r70G00QG7KSH001g0THo4006i1r7CG00R07KT1001j0THr4006u1r7OG00Rm7KTn001m0THu400741r7aG00SW7KUX001p0THx4007G1r7mG00TG7KVH001s0TH+4007S1r7yG00",
    "U07KW1001v0TI14007e1r9mG00OG7KdX001Z0TIV4006G1rA8G00Pm7KfH001g0TIc4006i1rAaG00RW7KgX001l0TIh400701rAmG00SG7KhX001p0TIl4007G1rB0G00TG7KiH001s0TIo4007S1rBCG00U07Kj1001v0TIr4007e1rD0G00OG7KqH001Y0TJI4006C1rDCG00P07Kr1001b0TJL4006O1rDOG00Pm7Krn001e0TJO4006a1rDaG00QW7KsX001h0TJR4006m1rDmG00RG7KtH001k0TJU4006y1rDyG00S07Ku1001n0TJX4007",
    "81rE8G00Sm7Kun001q0TJa4007K1rEKG00TW7KvX001t0TJd4007W1rEWG00UG7KwH001w0TK4400641rGKG00OW7L1n001a0TK84006K1rGaG00PW7L2X001d0TKD4006e1rGuG00Qm7L3n001i0TKG4006q1rH4G00RW7L4X001l0TKJ400701rHGG00SG7L5X001p0TKN4007G1rHWG00TG7L6H001s0TKQ4007S1rHiG00U07L71001v0TKu400641rJaG00OW7LEn001a0TKy4006K1rJqG00PW7LFX001d0TL04006a1rK4G00QW7LGX001h",
    "0TL34006m1rKGG00RG7LHX001l0TLA4007C1rKiG00T07LJ1001r0TLD4007O1rKuG00Tm7LJn001u0TLG4007a1rMmG00OG7LRH001Y0TLk4006C1rMyG00P07LS1001b0TLn4006O1rN8G00Pm7LSn001e0TLq4006a1rNKG00QW7LTX001h0TLt4006m1rNWG00RG7LUH001k0TLw4006y1rNiG00S07LV1001n0TLz400781rNuG00Sm7LVn001q0TM04007K1rO4G00TW7LWX001t0TM34007W1rOGG00UG7LXH001w0TMW400641rQ4G00OW",
    "7LeX001Z0TMZ4006G1rQGG00PG7LfH001c0TMc4006S1rQSG00Q07Lg1001f0TMf4006e1rQeG00Qm7Lgn001i0TMi4006q1rQqG00RW7LhX001l0TMl400701rR0G00SG7LiH001o0TMo4007C1rRCG00T07Lj1001r0TMr4007O1rROG00Tm7Ljn001u0TMu4007a1rRaG00UW7Lr1001X0TNL400681rTOG00Om7Lrn001a0TNO4006K1rTaG00PW7LsX001d0TNR4006W1rTmG00QG7LtH001g0TNU4006i1rTyG00R07Lu1001j0TNX4006u1",
    "rU8G00Rm7Lun001m0TNa400741rUKG00SW7LvX001p0TNd4007G1rUWG00TG7LwH001s0TNg4007S1rUiG00U07Lx1001v0TNj4007e1rWWG00OG7M2H001Y0TOA4006C1rWiG00P07M31001b0TOD4006O1rWuG00Pm7M3n001e0TOG4006a1rX4G00QW7M4X001h0TOJ4006m1rXGG00RG7M5H001k0TOM4006y1rXSG00S07M61001n0TOP400781rXeG00Sm7M6n001q0TOS4007K1rXqG00TW7M7X001t0TOV4007W1rY0G00UG7M8H001w0T",
    "Oy400641rZqG00OW7MFX001Z0TO*4006G1ra0G00PG7MGH001c0TP24006S1raCG00Q07MH1001f0TP54006e1raOG00Qm7MHn001i0TP84006q1raaG00RW7MIX001l0TPB400701ramG00SG7MJH001o0TPE4007C1rayG00T07MK1001r0TPH4007O1rb8G00Tm7MKn001u0TPK4007a1rbKG00UW7MS1001X0TPn400681rd8G00Om7MSn001a0TPq4006K1rdKG00PW7MTX001d0TPt4006W1rdWG00QG7MUH001g0TPw4006i1rdiG00R07M",
    "V1001j0TPz4006u1rduG00Rm7MVn001m0TQ0400741re4G00SW7MWX001p0TQ34007G1reGG00TG7MXH001s0TQ64007S1reSG00U07MY1001v0TQ94007e1rgWG03iG7MgH00Eo0TQg400xC1rgiG03j07Mh100Er0TQj400xO1rguG03jm7Mhn00Eu0TQm400xa1rh4G03kW7MiX00Ex0TQp400xm1rhGG03lG7MjH00E+0TQs400xy1rhSG03m07Mk100F10TQv400xW1rheG03mm7Mkn00F40TQy400yK1rhqG03nW7MlX00F70TQ*400yW1ri",
    "0G03oG7Mqn00F30TRY400x41rkCG03iW7Mv100Ep0TRb400xG1rkOG03jG7Mvn00Es0TRe400xS1rkaG03k07MwX00Ev0TRh400xe1rkmG03km7MxH00Ey0TRk400xq1rkyG03lW7My100E*0TRn400y01rl8G03mG7Myn00Eu0TRq400yC1rlKG03n07MzX00F50TRt400yO1rlWG03nm7M+H00F80TRw400ya1rmqG03mm7N7100En0TST400x81rnuG03im7N7n00Eq0TSW400xK1ro4G03jW7N8X00Et0TSZ400xW1roGG03kG7N9H00Ew0TSc",
    "400xi1roSG03l07NA100Ez0TSf400xu1roeG03lm7NAn00F00TSi400y41roqG03k07NBX00F30TSl400yG1rp0G03nG7NCH00F60TSo400yS1rpCG03o07ND100F90TT7400yC1rrOG03iG7NLn00Eo0TTO400xC1rraG03j07NMX00Er0TTR400xO1rrmG03jm7NNH00Eu0TTU400xa1rryG03kW7NO100Ex0TTX400xm1rs8G03lG7NOn00E+0TTa400xy1rsKG03m07NPX00F10TTd400xW1rsWG03mm7NQH00F40TTg400yK1rsiG03nW7NR1",
    "00F70TTj400yW1rsuG03oG7NWH00F30TUG400x41rv4G03iW7NaX00Ep0TUJ400xG1rvGG03jG7NbH00Es0TUM400xS1rvSG03k07Nc100Ev0TUP400xe1rveG03km7Ncn00Ey0TUS400xq1rvqG03lW7NdX00E*0TUV400y01rw0G03mG7NeH00Eu0TUY400yC1rwCG03n07Nf100F50TUb400yO1rwOG03nm7Nfn00F80TUe400ya1rxiG03mm7f010UaY0Ua141wIC1wG8G7f907f0n0Uab0Ua441wIO1wGKG7f9m7f1X0Uae0Ua741wIa1wGWG",
    "7fAW7f2H0Uah0UaA41wIm1wGiG7fBG7f310Uak0UaD41wIy1wGuG7fC07f3n0Uan0UaG41wJ81wH4G7fCm7f4X0Uaq0UaJ41wJK1wHGG7fDW7f5H0Uat0UaM41wJW1wHSG7fEG7f610Uaw0UaP41wJi1wHeG7fF07f6n0Uaz0UaS41wJu1wHqG7fFm7f7X0Ub00UaV41wK41wI0G7fGW7f8H0Ub3"]

/-- The full compatibility decompositions of Unicode 3.2 of the code points that have one,
other than Hangul syllables: each code point as six digits, then two digits for the length of
its decomposition, then that many code points of six digits. -/
def decompositionData : String :=
  String.join [
    "002W0G008000g08002000mW00Ae1001X002l0W0080031000iW4003800BC1000p002q0W0080030G00jG400xm00BW2000W00Cd002v0G00CG00kW4006y00Bm3000n0214000q002z0m00CG0WH000CW00lWC003C084G003G00C02001100C000310W00GG030G00mW8004400m800CC2001100C300340W00GG032000nG8004400me00CS2001300Cd00380W00HG030000oG8004K00m400Ce2001500C2003B0W00HG032000p08004a00m",
    "000Cq2001900C1003E0W00IG030W00pm8004a00mW00D42001E00C3003I0W00Jm030000qm8004y00m400DG2001F00C2003L0W00Jm030m00rW8004y00mW00Da2001L00C0003Q0W00LG030G00sm8005K00m800Dm2001L00C8003T0W00MG030G00u08006400m000E42001X00C1003Y0W00OG030W00um8006400mC00EG2001X00C8003b0W00OG032W00vm8006C00oS00EW2001b00C0003f0W00PG030G00wW8006K00m800Ei2001b",
    "00C8003i0W00QG030000xG8006a00m400Eu2001f00C2003l0W00QG032000yG8006u00mC00F82001l00C0003p0W00Rm030G00z08006y00m800FK2001l00C3003s0W00Rm032000+G8007K00m000Fe2001r00C1003x0W00TG030W00*08007K00mW00Fq2001v00C1003*0W00UG032001008004400mG00G42001X00C400420W00GG031W010m8006400mO00GG2001100Ce00450W00OG03A0011W8004C00m400GS2001Z00C100480W",
    "00Gm030W012G8006C00m800Ge2001300C7004B0W00Om031m01308004C00mm00Gq2001Z00CC004E0W00H00330013m8006G00mm00H82001500C4004J0W00PG031001508004K00mO00HK2001b00C6004M0W00HG031m015m8006K00mS00HW2001500Ce004P0W00PG03A0016W8004K00mm00Hi2001b00CC004S0W00Hm030W017G8006S00m800Hu2001700C6004V0W00Pm031W01808004S00mS00I42001d00C7004Y0W00Hm039m01",
    "8m8006S00oS00IG2001800C2004b0W00Q0030W01A08004a00mC00Ia2001f00C3004g0W00IG031001Am8006a00mG00Im2001900C6004j0W00QG031W01BW8004a00oW00Iy2001f00Ce004m0W00IG031m01CW8004a004e00JC2001f001g004q0W00IW030W01DG8006e00m800JO2001B00Cd004t0W00Qm039m01EG8004m00m400Je2001i00C1004x0W00J0039m01F08006m00oS00Jq2001C00CC004+0W00R0033001Fm8004m00B",
    "S00K02001i002t00530W00JW030G01H08006u00m400KK2001E00Cd00560W00RW039m01Hm8004u00mm00KW2001k00CC00590W02l000RW01J08004y00mG00Kq2001l00C4005E0W00Jm031W01Jm8006y00mO00L02001F00CB005H0W00Rm032m01L08005800m400LK2001o00C1005M0W00KW039m01Lm8007800oS00LW2001I00CC005P0W00SW033001MW8005C00m400Li2001p00C1005S0W00Km030W01NG8007C00m800Lu2001J",
    "00Cd005V0W00Sm039m01O08005C00mm00M42001p00CC005Y0W00L0039m01Om8007G00oS00MG2001K00CC005b0W00T0033001Q08005K00mC00Ma2001r00C3005g0W00LG031001Qm8007K00mG00Mm2001L00C6005j0W00TG031W01RW8005K00me00My2001r00CA005m0W00LG032m01SG8007K00mi00N82001L00Ce005p0W00TG03A001T08005S00m800NK2001t00C2005s0W00MG030W01Tm8007a00m800NW2001P00C8005v0W",
    "00MW030G01UW8007e00m400Ni2001Q00C7005y0W00UW031m01VG8005e00mm00Nu2001w00CC005*0G00Sm01e08004y00ni00Q42001l00CR006l0W00LG036m01i08007K00ni00SG30014001Q00CC00750m00H000UW033001nWC006G007e00mm00SS2001C001A00780W00J000QW01oG8006m006e00Se2001E001A007B0W00JW00QW01p08006u006e00Sq2001100CC007E0W00OG033001pm8004a00mm00T02001f00CC007H0W00",
    "Jm033001qW8006y00mm00TC2001L00CC007K0W00TG033001rGC005K00mW00mG00TO3001r00C800C4007N0m00LG0320030G01s0C007K00mW00m400Ta3001L00C800CC007Q0m00TG0320033001smC005K00mW00m000Tm3001r00C800C0007U0m00GG0320031001tmC006400mW00mG00U03001100C700C4007X0m00OG031m031001uW800CO00mG00UC2003c00C4007c0W00Hm033001vm8006S00mm00UW2001B00CC007f0W00Qm",
    "033001wW8004y00oW00Ui2001l00Ce007i0m00Jm03A0031001xGC006y00oW00mG00Uu2006t00CC007l0W02aW033001y08006e00mm00V420014001Q007o0W00H000UW01ym8006G007e00VG2001700C1007r0W00Pm030G01+08004u00m000Va2001k00C0007w0m00GG032W030G01+mC006400me00m400Vm2003600C1007z0W00vW030G01*W800DW00m400Vy2003u00C100800W00GG033m020G8006400my00W82001100CH0083",
    "0W00OG034G02108004K00my00WK2001b00CF00860W00HG034G021m8006K00n400WW2001900CF00890W00QG033m022W8004a00n400Wi2001f00CH008C0W00Jm033m023G8006y00my00Wu2001F00CH008F0W00Rm034G02408005800my00X42001o00CF008I0W00KW034G024m8007800n400XG2001L00CF008L0W00TG033m025W8005K00n400XS2001r00CH008O0W00Km039W026G8007C00oO00Xe2001K00Cc008R0W00T0039W",
    "027W8004W00mm00Xy2001e00CC008c0W00GG031m029m8006400mS00YW2001500Cd008f0W00PG039m02AWC004y00mW00mG00Yi3001l00C800C4008i0m00Jm030m031002BGC006y00mC00mG00Yu2001F00C7008l0W00Rm031m02C0C004y00mS00mG00Z43001l00C700C4008o0W00MG031002Cm8007a00mG00h01001e00An0G02PW02iW4006e00hC1001o00Aq0G02UG02jG400di00hO100A100At0G00Tm02k04007a00jW2000W",
    "00C600BP0W0080031m02sW8002000me00ji2000W00Ce00BS0W0080030m02tG8002000mi00k01009Z00BX0G00R002uW4007C00kC1001u00Ba0G02bG03G0400m000q4100C100D30G034m03H0800mW00m400tG100Av00Dw0W008003HG03VW4003i00uG2000W00C100E50m00800320030G03XW800v400m400uS1002t00E80W03bG030G03YG800vS00m400ue200EP00C100EC0W03dm030G03ZW800wK00m400uy200Ef00C100EG0m",
    "03kG0320030G03gW800va00mW00wi200Eb00C800Ei0W03iG030G03hG800xK00m400wu200Et00C100El0W03kG030G03i0C00yK00mW00m400ye200Ev00C800FB0W03nG032003p0800xy00m400yq200F500C100FE0W03oG030G03q0400x800z4100Eu00FI0G03fG03qm800wK00m400zG200Eb00C800FL0G03nW03rW400y000*0100Ew00Fn0G03mG03yW400y800*G100EO00Fr0G03jG04008011K00m00104200GL00C800G30W04",
    "4m030G041m8010O00mW010m200GQ00C100GD0W04600300043W8012C00mO011a200GO00C600Gv0W04E0031W04K08013K00m00154200Gr00C800HJ0W04Cm030G04Lm8015O00mW015m200Gw00C100HT0W04E0030004NW8014C00mO017O200Hq00CF00Ht0W04TG033m04mG8011O00mO01C8200Gs00C600JG0W0440031W04qG8013000mO01D8200GG00C800JJ0W04C0032004rW8011K00mO01DS200Gr00C600JQ0W04s0032004sm",
    "801Da00mW01Dm200GM00C800JT0W04DW032004tW8011S00mW01Dy200Gt00C800JY0W0460031004um8013W00mG01EG200GO00C800Jb0W04E0032004vW8011u00mW01ES200G+00C800Jg0W04w0032004wm801Ea00mW01Em200Gj00C800Jj0W04JG032004xW8012C00mG01Ey200H300C400Jm0W048m032004yG8014C00mW01F8200GZ00CB00Jp0W04Gm032m04z08012S00mW01FK200H700C800Ju0W04Am032004+G8014i00mW0",
    "1OS200Lb00M200OY0W069m06Km068m801YS01bG01YG200P800PK00Ob0W069m06LG069W801ae01bG01dK200Od00Pq00Ps0W06I006T006Tm801iS01dG01dW200PA00Pq00R00W06rG06L006mW801i401bG01jC200RI00PK00af0W09A009F009CG802J002Jm02JG200ap00ay00bO0W095G09F009MG802HO02Jm02Le200aN00ay00bR0W097009F009N0802I402Jm02Lq200aY00ay00bU0W09Am09F009Nm802Iy02Jm02Si200d700",
    "c+00dC0W09nm09rm09t0802Q402Rm02Tq200cY00cy00dV0W09hm09l00ACm802Z802Zm02ZO200eu00ey00fP0W0A5W0AF00AMW802XS02Zm02bi200eS00ey00fU0W0AAm0AF00BI0802qS02rO02qi200j700i+00jC0W0BHm0BLm0BN0802o402pm02rq200iY00iy00kK0W0BaW0Brm0BoW802yO02xu02yi200l700k+00lC0W0BnW0Brm0CI08034O035O03C0200o*00pL00p70W0CnW0CrG0Co0803CO03DO03Ce200p600p200pB0m0C",
    "nW0CmW0CrG0DIW803KO03Ju03Ki200r700q+00rC0W0DHW0DLm0DsW803Ta03Se03Tm200tP00tF00tT0m0DsG0Dpm0DoW0DtW803Ta03Ty03ZC200vD00uo00wp0W0EpG0EiW0Et0803gi03fa03jq200wh00wX00yC0G0F2m0FGm803q803xS03qq200zC00+t00zI0W0FKG0Fjm0FLm803rO03xS03rm200zR00+t00zf0W0FG00FjG0FSm803t403t803tK200zn00zq00zs0W0FiW0FW00FTmC03x803t403u003tW200+p00+000zv0m0Fim",
    "0FSG0FW00FWG803t403u003vC200+I00+t00+T0W0Fd00Fjm0FeW803w403xS03wS200+c00+t00+i0W0Fgm0Fjm0FkG803v003xK042O2010b010k01u00W00GG039G0U0G8006400oK07W82001200C701u30W00OW031m0U108004800oC07WK2001Y00CZ01u60W00GW03CG0U1m8006800p407WW3001300Cd00C101u90m00Om039m030G0U2W8004G00mS07Wi2001a00C701uC0W00H0038m0U3G8006G00oC07Wu2001400Cn01uF0W00",
    "P003CG0U408004G00oS07X42001a00Cd01uI0W00H003BG0U4m8006G00oq07XG3001500C400C001uL0m00PG031003000U5WC004K00mG00m407XS3001b00C400C101uO0W00HG03BG0U6G8006K00oq07Xe2001500Cm01uR0W00PG03C00U70C004K00oS00mO07Xq3001b00Cd00C601uU0W00HW031m0U7m8006O00mS07Y02001700C401uX0W00Pm03100U8W8004W00mS07YC2001e00C701ua0W00I0038m0U9G8006W00oC07YO200",
    "1800C801ud0W00Q003200UA08004W00oS07Ya2001e00Cd01ug0W00I003BW0UAm8006W00ou07Ym2001900Cm01uj0W00QG03C00UBWC004a00mW00m407Yy3001f00C800C101um0W00Im030G0UCG8006i00m407Z82001B00CZ01up0W00Qm038m0UD08004i00p407ZK2001h00Cn01us0W00J0038m0UDm8006m00oC07ZW3001C00CZ00C401uv0m00R0038m03100UEW8004m00p407Zi2001i00Cn01uy0W00J003BG0UFG8006m00oq0",
    "7Zu2001D00C101u*0W00RG030G0UG08004q00mS07a42001j00C701v20W00JG038m0UGm8006q00oC07aG2001E00C701v50W00RW031m0UHW8004u00oC07aS2001k00CZ01v80W00JW03CG0UIG8006u00p407ae2001E00Cj01vB0W00RW03BG0UJ0C004y00mC00m407aq3001l00C300C101vE0m00Jm030m03200UJmC006y00mC00mW07b03001F00C400C001vH0m00Rm031003000UKWC004y00mG00m407bC3001l00C400C101vK0W",
    "00K0030G0ULG8007000m407bO2001G00C701vN0W00S0031m0UM08005800mS07ba2001o00C701vQ0W00KW038m0UMm8007800oC07bm3001I00CZ00C401vT0m00SW038m03100UNW8005800p407by2001o00Cn01vW0W00Km031m0UOG8007C00mS07c82001J00CZ01vZ0W00Sm038m0UP0C005C00m400mS07cK3001p00C100C701vc0m00Km0330031m0UPmC007C00mm00mS07cW3001J00CZ00C701vf0m00Sm038m031m0UQW8005G0",
    "0mS07ci2001q00C701vi0W00L0038m0URG8007G00oC07cu2001K00Cn01vl0W00T003CG0US08005G00oq07d42001q00Cj01vo0W00LG03900USm8007K00oG07dG2001L00Cm01vr0W00TG03C00UTW8005K00oq07dS2001r00Cj01vu0m00LG030m030G0UUGC007K00mC00m407de3001L00C400C801vx0m00TG031003200UV08005O00mC07dq2001s00C301v+0W00LW038m0UVm8007O00oC07e02001N00C001w10W00Tm03000UWW",
    "8005S00m407eC2001t00C101w40W00Lm03200UXG8007S00mW07eO2001N00C701w70W00Tm031m0UY08005S00oC07ea2001t00CZ01wA0W00M0031m0UYm8007W00mS07em2001O00C801wD0W00U003200UZW8005a00mS07ey2001v00C701wG0W00MW030W0UaG8007e00m807f82001Q00CZ01wJ0W00UW038m0Ub08005e00p407fK2001w00Cn01wM0W00Q003CG0Ubm8007G00mW07fW2001t00CA01wP0W00UG032W0UcW8006400hu0",
    "7fi2001p00C701wW0W00GG038m0UeG8006400oC07g82001100C901wZ0W00OG032G0Uf0C004400m800m407gK3001X00C200C101wc0m00GG030W03000UfmC006400m800m007gW3001100C200C901wf0m00OG030W032G0UgWC004400m800mC07gi3001X00C200C301wi0m00GG038m030W0UhGC006400oC00m807gu3001100C600C101wl0m00OG031W030G0Ui0C004400mO00m007h43001X00C600C001wo0m00GG031W032G0Uim",
    "C006400mO00ma07hG3001100C600C301wr0m00OG031W030m0UjWC004400oC00mO07hS3001X00CZ00C601wu0W00HG038m0UkG8006K00oC07he2001500C901wx0W00PG032G0Ul08004K00mC07hq2001b00C301w+0m00HG030W030G0UlmC006K00m800m407i03001500C200C001x10m00PG030W03000UmWC004K00m800ma07iC3001b00C200C901x40m00HG030W030m0UnGC006K00m800mC07iO3001500CZ00C201x70m00PG03",
    "8m030W0Uo08004a00ma07ia2001f00C901xA0W00IG038m0Uom8006a00oC07im2001F00CZ01xD0W00Rm038m0UpW8004y00ma07iy2001l00C901xG0m00Jm030W030G0UqGC006y00m800m407j83001F00C200C001xJ0m00Rm030W03000Ur0C004y00m800ma07jK3001l00C200C901xM0m00Jm030W030m0UrmC006y00m800mC07jW3001F00CZ00C201xP0m00Rm038m030W0UsWC004y00ni00m407ji3001l00CR00C101xS0m00Jm",
    "036m03000UtGC006y00ni00m007ju3001F00CR00C901xV0m00Rm036m032G0Uu0C004y00ni00mC07k43001l00CR00C301xY0m00Jm036m038m0UumC006y00ni00oC07kG2001L00CZ01xb0W00TG038m0UvW8005K00ma07kS2001r00C901xe0m00LG036m030G0UwGC007K00ni00m407ke3001L00CR00C001xh0m00TG036m03000Ux0C005K00ni00ma07kq3001r00CR00C901xk0m00LG036m030m0UxmC007K00ni00mC07l03001L",
    "00CR00CZ01xn0m00TG036m038m0UyW8005a00m007lC2001v00C001xq0W00MG038m0UzG8007a00oC07lO2001P00C901xt0W00UG032G0U+08005a00mC07la2001v00C301y00W03iG034m0V0G800x400nG07m8300En00CJ00C001y30m03iG035003000V10C00x400nC00m407mK300En00CK00C101y60m03iG034m03GW0V1mC00x400nG00q807mW200EH00CJ01y90W03aG03500V2WC00v400nC00m007mi300EH00CK00C001yC0m",
    "03aG034m030G0V3GC00v400nG00m407mu300EH00CJ00D201yF0m03aG035003GW0V40800xK00nC07n4200Er00CK01yI0m03jG034m03000V4mC00xK00nG00m007nG300Er00CJ00C101yL0m03jG0350030G0V60800vK00nC07na200EL00CK01yQ0m03bG034m03000V6mC00vK00nG00m007nm300EL00CJ00C101yT0m03bG0350030G0V80800xS00nC07o4200Et00CK01yY0m03jm034m03000V8mC00xS00nG00m007oG300Et00CJ",
    "00C101yb0m03jm0350030G0V9WC00xS00nC00q807oS300Et00CK00D201ye0W03bm034m0VAG800vS00nG07oe300EN00CJ00C001yh0m03bm035003000VB0C00vS00nC00m407oq300EN00CK00C101yk0m03bm034m03GW0VBmC00vS00nG00q807p0200Ev00CJ01yn0W03kG03500VCWC00xa00nC00m007pC300Ev00CK00C001yq0m03kG034m030G0VDGC00xa00nG00m407pO300Ev00CJ00D201yt0m03kG035003GW0VE0800va00n",
    "C07pa200EP00CK01yw0m03cG034m03000VEmC00va00nG00m007pm300EP00CJ00C101yz0m03cG0350030G0VFWC00va00nC00q807py300EP00CK00D201z00W03lm034m0VGG800xy00nG07q8300E*00CJ00C001z30m03lm035003000VH0C00xy00nC00m407qK300E*00CK00C101z80W03dm034m0VIG800vy00nG07qe300EV00CJ00C001zB0m03dm035003000VJ0C00vy00nC00m407qq300EV00CK00C101zG0W03nG034m0VKG80",
    "0yK00nG07r8300F500CJ00C001zJ0m03nG035003000VL0C00yK00nC00m407rK300F500CK00C101zM0m03nG034m03GW0VLmC00yK00nG00q807ra200Eb00CK01zR0m03fG035003000VNGC00wK00nG00m407ry300Eb00CK00D201zW0W03oG034m0VOG800ya00nG07s8300F900CJ00C001zZ0m03oG035003000VP0C00ya00nC00m407sK300F900CK00C101zc0m03oG034m03GW0VPmC00ya00nG00q807sW200Ef00CJ01zf0W03gG",
    "03500VQWC00wa00nC00m007si300Ef00CK00C001zi0m03gG034m030G0VRGC00wa00nG00m407su300Ef00CJ00D201zl0m03gG035003GW0VS0800x400m007t4200En00C101zo0W03jG03000VSm800xK00m407tG200Et00C001zr0W03jm030G0VTW800xa00m007tS200Ev00C101zu0W03lm03000VUG800xy00m407te200F500C001zx0W03nG030G0VV0800ya00m007tq200F900C101+00m03iG034m03HG0VWGC00x400nG00qK0",
    "7u8400En00CJ00C000D501+31003iG0350030003HG0VX0G00x400nC00m400qK07uK400En00CK00C100D501+61003iG034m03GW03HG0VXmG00x400nG00q800qK07uW300EH00CJ00D501+90m03aG035003HG0VYWG00v400nC00m000qK07ui400EH00CK00C000D501+C1003aG034m030G03HG0VZGG00v400nG00m400qK07uu400EH00CJ00D200D501+F1003aG035003GW03HG0Va0C00xS00nC00qK07v4300Et00CK00D501+I10",
    "03jm034m030003HG0VamG00xS00nG00m000qK07vG400Et00CJ00C100D501+L1003jm0350030G03HG0VbWG00xS00nC00q800qK07vS400Et00CK00D200D501+O0m03bm034m03HG0VcGC00vS00nG00qK07ve400EN00CJ00C000D501+R1003bm0350030003HG0Vd0G00vS00nC00m400qK07vq400EN00CK00C100D501+U1003bm034m03GW03HG0VdmG00vS00nG00q800qK07w0300F900CJ00D501+X0m03oG035003HG0VeWG00ya0",
    "0nC00m000qK07wC400F900CK00C000D501+a1003oG034m030G03HG0VfGG00ya00nG00m400qK07wO400F900CJ00D200D501+d1003oG035003GW03HG0Vg0C00wa00nC00qK07wa300Ef00CK00D501+g1003gG034m030003HG0VgmG00wa00nG00m000qK07wm400Ef00CJ00C100D501+j1003gG0350030G03HG0VhWG00wa00nC00q800qK07wy400Ef00CK00D200D501+m0W03iG031W0ViG800x400mG07x8300En00C000D501+p0W",
    "03iG03HG0Vj0C00x400m400qK07xO200En00D201+t0m03iG03GW03HG0Vk0800v400mO07xa200EH00C401+w0W03aG03000Vkm800v400m407xm200EH00D501+z0W0080034m0VlW400xa07xy2000W00CJ01*00W008003GW0VmGC002000mW00q807y8300Et00C000D501*30W03jm03HG0Vn0C00xS00m400qK07yO200Et00D201*70m03jm03GW03HG0Vo0800vK00m007ya200EL00C101*A0W03bm03000Vom800vS00m407ym200EN",
    "00D501*D0m0080034m03000VpWC002000nC00m407yy3000W00CJ00D201*G0W03kG031W0VqG800xa00mG07z8300Ev00C800C001*J0m03kG0320030G0VrW800xa00q807zS300Ev00C800D201*O0W03cG031W0VsG800va00mG07ze200EP00C001*R0W03cG030G0VtGC002000nG00m007zu3000W00CK00C101*V0m0080035003GW0Vu0800yK00mO07+4200F500C401*Y0m03nG032003000VumC00yK00mW00m407+G200F100CJ01",
    "*b0W03mG03500VvW800yK00q807+S300F500C800D201*e0W03fG031W0VwG800wK00mG07+e200Eb00C001*h0W03fG030G0Vx0800w400nG07+q3000W00C800C001*k0m00800320030G0Vxm4006007*8300F900C000D501*p0W03oG03HG0Vz0C00ya00m400qK07*O200F900D201*t0m03oG03GW03HG0V+0800vy00m007*a200EV00C101*w0W03gG03000V+m800wa00m407*m200Ef00D501*z0W0080030G0V*W8002000nG08001",
    "000W02010G00800W0W40020080C1000W02040G00800W1G40020080O1000W02070G00800W2040020080a1000W020A0G00800W4G40810081S2000W00Cp020a0G00BW0W9G8002u002u082O3000k000k000k020l0G00800WCm808380838083G3020o020o020o020s0W0WDG0WDG0WDmC083K083K083K083m2000X000X020+0W0080031G0WHm8003y003y084W2000*000X02190W008G00Fm0WLmG0838083808380838085y1000W02",
    "1m0G00C00WSG4006a087G1000q021r0G00DG0WTW4003O087S1000t021u0G00E00WUG4003a087e1000h021x0G0Y4W0WV04003q087q1000e021+0G00AG0WVm4006u08801000m02210G00CG0WWW40038088C1000p02240G00D00WXG4003K088O1000s02270G00Dm0WY04003W088a1000v022A0G00Am0WYm408X8088m1000z022D0G00A00WZW4002a08AW2001I001p02400m00OG00Bm00Om0X0GC0064002y007C08G8100130243",
    "0W00i000Gm0X1GC006C002y006y08GO3001Z000l001r02470G01a00X2G800B0004O08Ge1001d024B0G00I00X304004W08Gq10018024E0G00Q00X3m400IS08H010019024H0G00IG0X4W4004m08HC1001i024L0G00JW0X5W8004u006y08Ha1001G024Q0G00KG0X6m4005808Hm1001I024T0G00KW0X808005C004q08I43001K0015001C024Y0W00L000JG0X904005e08IO100Ef024e0G00MW0XAW4004i08Ii2001100CA024i0G",
    "00GW0XBG4004C08Iy1001b024m0G00HG0XCG4004O08JC1001D024q0G00Rm0XDG401T008JO100NH024t0G05qW0XE0401TC08Ja1001f024z0G03im0XFW400vC08Jy100EW02500G0Y4G0XHG4004G08KO1001a02570G00PG0XI04006a08Ka1001g025J0m00CG0WH000Cm0XL0C0038084G003C08LK3000n0214000r025M0m00CW0WH000DG0XLmC003C084G003K08LW3000q0214000r025P0m00CG0WH000DW0XMWC003K084G003O0",
    "8Li3000n0214000u025S0m00Cm0WH000E00XNGC003K084G003W08Lu3000t0214000u025V0W00CG0WH00XO04004a08M4200190019025Y0m00IG00IG00IG0XOm8004a005O08MG1001M025b0W00LW00IG0XPWC005O004a004a08MS4001M001900190019025e0W00IG00M00XQG4005W08Me2001O0019025h0m00M000IG00IG0XR04004m08Mq10013025k0G00H00XRm4004q08N01001f025n0W00QG00QG0XSWC006a006a006a08N",
    "C2001f001s025q0G00TW0XTG8007O006a08NO3001s001f001f025t1000TW00QG00QG00QG0XU08006a007W08Na1001u025w0W00U000QG0XUmC007W006a006a08Nm1001i025z0G00Om0XVW4006G08Ny1001j026Q0W0Xa003E00Xcm808P800pW08Qu2026K00Cu027D0W0Xq003E00XpW808TG00pW08Sy2027I00Cu02840W0Y0m03E00Y2G808WW00pW08Wm2028B00Cu028a0W0Y8m03E00Y9W808YK00pW08Ym2028h028h028j0m0Y",
    "Am0YAm0YAm0YBm808Yu08Yu08Z03028k028k028k02910W0YF003E00YH0808aC00pW08aS2029500Cu02990W0YI003E00YO08003q00pW08c82029X00Cu029j0W0YJG03E00YRW8003m00pW08cy2000+00Cu029m0W0YP003E00YSG808cK00pW08dG2029o00Cu029r0W0YSm03E00YU0808dO00pW08da2029t00Cu02A00W0YUW03E00YWG808di00pW08eG202A200Cu02A50W0YWm03E00YY0808eO00pW08ea202A700Cu02Ai0W0YeW",
    "03E00YhG808gW00pW08gu202Af00Cu02Al0W0Ygm03E00Yu0808dm00pW08k42029z00Cu02BY0W0YaG03E00Yum808f800pW08ke202Ao00Cu02Bh0W0Yim03E00Yx0808hG00pW08kq202Ar00Cu02Cf0G0m200ZAW40C0a09601000n02HX0G00CW0aOW4003C096C1000q02Ha0G00DG0aPG4003O096O1000t02Hd0G00E00aQ04003a096a2000n000m02Hg0W00CG00CG0aQm800340038096m2000n000p02Hj0W00CG00D00aRW800340",
    "03K096y2000n000s02Hm0W00CG00Dm0aSG80034003W09782000n000v02Hp0W00CW00C00aT0C002W0034002a097K3000e000o000f02Hs0m00A000Cm00AG0aTmC002W003G002a097W3000e000r000f02Hv0m00A000DW00AG0aUWC002W003S002a097i3000e000u000f02Hy0m00A000EG00AG0aVGG002W00340030002a097u4000e000n000n000f02H*1000A000CG00CW00AG0aW0G002W0034003C002a09844000e000n000q00",
    "0f02I21000A000CG00DG00AG0aWmG002W0034003O002a098G4000e000n000t000f02I51000A000CG00E000AG0aXWG002W0034003a002a098S4000e000o000m000f02I80W00CG00BW0aYG80038002u098e2000p000k02IB0W00D000BW0aZ08003K002u098q2000s000k02IE0W00Dm00BW0aZm8003W002u09902000v000k02IH0m00CG00C000BW0aaWC00340034002u099C3000n000o000k02IK0m00CG00Cm00BW0abGC00340",
    "03G002u099O3000n000r000k02IN0m00CG00DW00BW0ac0C0034003S002u099a3000n000u000k02IQ0m00CG00EG00BW0acmC00380030002u099m3000e001X000f02IT0m00A000OW00AG0adWC002W006C002a099y3000e001a000f02IW0m00A000PG00AG0aeGC002W006O002a09A83000e001d000f02IZ0m00A000Q000AG0af0C002W006a002a09AK3000e001g000f02Ic0m00A000Qm00AG0afmC002W006m002a09AW3000e00",
    "1j000f02If0m00A000RW00AG0agWC002W006y002a09Ai3000e001m000f02Ii0m00A000SG00AG0ahGC002W0078002a09Au3000e001p000f02Il0m00A000T000AG0ai0C002W007K002a09B43000e001s000f02Io0m00A000Tm00AG0aimC002W007W002a09BG3000e001v000f02Ir0m00A000UW00AG0ajW4004409BS1001202Iu0G00Gm0akG4004G09Be1001502Ix0G00HW0al04004S09Bq1001802I+0G00IG0alm4004e09C01",
    "001B02J10G00J00amW4004q09CC1001E02J40G00Jm0anG4005009CO1001H02J70G00KW0ao04005C09Ca1001K02JA0G00LG0aom4005O09Cm1001N02JD0G00M00apW4005a09Cy1001Q02JG0G00OG0aqG4006809D81001Z02JJ0G00P00ar04006K09DK1001c02JM0G00Pm0arm4006W09DW1001f02JP0G00QW0asW4006i09Di1001i02JS0G00RG0atG4006u09Du1001l02JV0G00S00au04007409E41001o02JY0G00Sm0aum4007",
    "G09EG1001r02Jb0G00TW0avW4007S09ES1001u02Je0G00UG0awG4007e09Ee1000m02eC100YAm0YAm0YAm0YAm0gT0C003e003e003q0AdK2000z000z02fs0m00FG00FG00FG0gt080Ajq00pW0Bfy106lD02xp0G2Vdm0l0040JW00Bm4104ue02y20G1EDW0l0m40JZy0BmG104vP02y50G1EXG0l1W40Jem0BmS104wW02y80G1EkW0l2G40KJy0Bme1055b02yB0G1HQm0l3040KO80Bmq1056M02yE0G1Hgm0l3m40KU00Bn01057r02yH",
    "0G1I000l4W40Kfi0BnC105Bv02yK0G1J5G0l5G40Kne0BnO105Cu02yN0G1JGG0l6040Krm0Bna105Df02yQ0G1JWW0l6m40KxO0Bnm105F802yT0G1Jum0l7W40LjS0Bny105SV02yW0G1Owm0l8G40MG80Bo8105aA02yZ0G1P5G0l9040MIS0BoK105bp02yc0G1RK00l9m40Mu00BoW105lu02yf0G1S3m0lAW40N280Boi105mu02yi0G1SRW0lBG40N740Bou105tR02yl0G1TvG0lC040NV40Bp4105t+02yo0G1USW0lCm40Nde0BpG105",
    "v*02yr0G1Uz00lDW40Nlu0BpS105yB02yu0G1V4m0lEG40Nr00Bpe105zX02yx0G1VSm0lF040NyC0Bpq1068802y+0G1YDW0lFm40Oai0Bq0106Kl02z10G1bD00lGW40POS0BqC106MN02z40G1bf00lHG40PRa0BqO106NW02z70G1bvG0lI040Pl00Bqa106S802zA0G1dA00lIm40Qo00Bqm106jY02zD0G1hUG0lJW40QxC0Bqy106lB02zG0G1hr00lKG40Qzi0Br8106mF02zJ0G1i500lL040R3G0BrK1071h02zM0G1oAW0lLm40SZO0",
    "BrW1078x02zP0G1oFm0lMW40SaS0Bri1079P02zS0G1oMm0lNG40Sgm0Bru107E402zV0G1pYG0lO040TDm0Bs4107Jc02zY0G1r600lOm40THy0BsG107Ke02zb0G1rC00lPW40TOi0BsS107MI02ze0G1sTW0lQG40Tdq0Bse107Qk02zh0G1slm0lR040Tku0Bsq107VR02zk0G1tuW0lRm40T*C0Bt0107aw02zn0G1vk00lSW40URu0BtC107fq02zq0G1wom0lTG40Ula0BtO107np02zt0G1y+00lU040VpO0Bta107zH02zw0G1*YW0lUm",
    "40Vxq0Btm1080102zz0G20300lVW40W180Bty1080p02+00G20Vm0lWG40W8a0Bu81087Z02+30G21wW0lX040WVC0BuK1087y02+60G22300lXm40WXi0BuW1088V02+90G22RW0lYW40Wd80Bui1089u02+C0G26JG0lZG40Xci0Buu108X002+F0G28J00la040Y6C0Bv4108b+02+I0G29Ym0lam40YT80BvG108e002+L0G2CDm0lbW40Z4O0BvS108nL02+O0G2CU00lcG40Z9q0Bve108ra02+R0G2DS00ld040ZRC0Bvq108wh02+U0G2E",
    "oW0ldm40Zvi0Bw0108+m02+X0G2FjG0leW40a940BwC1095902+a0G2HnW0lfG40aSm0BwO1097H02+d0G2LTm0lg040bO00Bwa109OS02+g0G2MjW0lgm40bha0Bwm109Re02+j0G2NKG0lhW40bru0Bwy109TY02+m0G2NQG0liG40byi0Bx8109Vj02+p0G2Nym0lj040c040BxK109Ye02+s0G2Osm0ljm40cDy0BxW109cM02+v0G2PcG0lkW40cQm0Bxi109ge02+y0G2Qs00llG40cjy0Bxu109ib02+*0G2RBm0lm040cp80By4109iy02",
    "*20G2RMW0lmm40dEK0ByG109vr02*50G2UVm0lnW40dgK0ByS109wx02*80G2Umm0loG40diq0Bye109xH02*B0G2U+G0lp040dlq0Byq109yE02*E0G2V4m0lpm40do00Bz0109yx02*H0G2VIW0lqW40dr80BzC109+D02*K0G2Vd00lrG40dw00C001000W030s0G0m4W0mE040Kq40C3a105D4030w0G1JHG0mJ080C4i0C9a0C4u2031D032P031G0W0mJm0mcG0mKW80C540C9a0C5G2031J032P031M0W0mLG0mcG0mM080C5S0C9a0C5e2",
    "031P032P031S0W0mMm0mcG0mNW80C5q0C9a0C602031V032P031Y0W0mOG0mcG0mPG80C6G0C9a0C6S2031c032P031f0W0mQ00mcG0mS080C6y0C9a0C742031l032Q031p0W0mSW0mcG0mT080C780C9e0C7O2031r032P031t0W0mTG0mcW0mUG80C7W0C9a0C7e2031u032Q031y0W0mUm0mcG0mVG80C7i0C9e0C9G20316032P032R0W00800mcG0md0800200C9e0C9u2032T032P032V0W0mY00mYW0mh080CAi0C9a0CAu2032j032P03",
    "2m0W0mhm0mcG0miW80CB40C9a0CBG2032p032P032s0W0mjG0mcG0mk080CBS0C9a0CBe2032v032P032y0W0mkm0mcG0mlW80CBq0C9a0CC02032*032P03320W0mmG0mcG0mnG80CCG0C9a0CCS20336032P03390W0mo00mcG0mq080CCy0C9a0CD42033F032Q033J0W0mqW0mcG0mr080CD80C9e0CDO2033L032P033N0W0mrG0mcW0msG80CDW0C9a0CDe2033O032Q033S0W0msm0mcG0mtG80CDi0C9e0CFG2032c032P033t0W0mxm0m",
    "cG0m+080CF00C9a0CFa2033n032P033w0W0myW0mcG0m*W80CFq0C9a0CFy2032p0338034n0G0H000nCW404G40CJC1016g034q0G0H0W0nDG404Qm0CJO1016j034t0G0H0m0nE0404GG0CJa10145034w0G0Hi00nEm404R40CJm1016o034z0G0Him0nFW404RG0CJy1016r03500G0H6W0nGG404GO0CK81014703530G0H200nH0404I40CKK1014903560G0H2W0nHm404Gi0CKW1014C03590G0H3G0nIW404Gu0CKi1014F035C0G0H40",
    "0nJG404H40CKu1014I035F0G0HOG0nK0404M80CL41015Z035I0G0HP00nKm404MK0CLG1015c035L0G0HPm0nLW404MW0CLS1015f035O0G0HQW0nMG404Mi0CLe1015i035R0G0HRG0nN0404Mu0CLq1015l035U0G0HS00nNm404N40CM01015o035X0G0HSm0nOW404NG0CMC1015r035a0G0HO00nPG404HG0CMO1014L035d0G0Hnm0nQ0404SW0CMa1017C035g0G0HpW0nQm404TC0CMm1017N035j0G0HsG0nRW404Hm0CMy1017T035m",
    "0G0Htm0nSG404Hq0CN81014U035p0G0H800nT0404I80CNK1014Z035s0G0H9m0nTm404Ia0CNW1014h035v0G0HB00nUW404Iq0CNi1014k035y0G0HBm0nVG404J80CNu1014s035*0G0HG00nW0404KS0CO41015C03620G0HyG0nWm404V80COG1015N03650G0HM00nXW404La0COS1016403680G0HXG0nYG404OW0COe1016H036B0G0HaW0nZ0404PG0COq1016U036E0G0HeG0naW40JW00CPC104wC036K0G1E2G0nbG40Lji0CPO104",
    "uA036N0G1EBG0nc040JWi0CPa107Ko036Q0G1EMG0ncm40JXa0CPm104u1036T0G1PAG0ndW40Lp00CPy104ww03800m00A00H0000AG0o0GC002W04G8002a0CW83000e0143000f03830m00A00H1G00AG0o10C002W04GO002a0CWK3000e0147000f03860m00A00H2G00AG0o1mC002W04Gi002a0CWW3000e014C000f03890m00A00H3W00AG0o2WC002W04Gy002a0CWi3000e014G000f038C0m00A00H4G00AG0o3GC002W04H8002a0",
    "CWu4000e0140015X000f038F1000A00H0W0HOG00AG0o40G002W04GC04M4002a0CX44000e0145015X000f038I1000A00H1W0HOG00AG0o4mG002W04GS04M4002a0CXG4000e0149015X000f038L1000A00H2m0HOG00AG0o5WG002W04Gm04M4002a0CXS4000e014E015X000f038O1000A00H3m0HOG00AG0o6GG002W04H004M4002a0CXe4000e014H015X000f038R1000A00H4W0HOG00AG0o70G002W04Gm04Mu002a0CY03000e04",
    "u0000f038X0m00A01EZ000AG0o8WC002W0JWa002a0CYC3000e05RR000f038a0m00A01Eb000AG0o9GC002W0KMq002a0CYO3000e04u3000f038d0m00A01HQm00AG0oA0C002W0Jbq002a0CYa3000e05D1000f038g0m00A01d2000AG0oAmC002W0S6i002a0CYm3000e06mq000f038j0m00A01dA000AG0oBWC002W0aT4002a0CYy3000e05SV000f038m0m00A01bvG00AG0oCGC002W0Q2e002a0CZ83000e06S9000f038p0m00A01v",
    "FW00AG0oD0C002W0L0q002a0CZK3000e079v000f038s0m00A02CeG00AG0oDmC002W0ULq002a0CZW3000e05Aq000f038v0m00A01Eum00AG0oEWC002W0L7m002a0CZi3000e05jc000f038y0m00A01sum00AG0oFGC002W0Jm4002a0CZu3000e08p7000f038*0m00A01JL000AG0oG0C002W0UMq002a0Ca43000e04yH000f03920m00A021wW00AG0oGmC002W0WVC002a0Cb42000o000n039I0W00CW00CW0oKm80038003C0CbG200",
    "0o000q039L0W00CW00DG0oLW80038003O0CbS2000o000t039O0W00CW00E00oMG80038003a0Cbe2000p000m039R0W00Cm00CG0oN08003C00380Cbq2000p000p039U0W00Cm00D00oNm8003C003K0Cc010140039X0G0H0W0oOW404GC0CcC10145039a0G0H1W0oPG404GS0CcO10149039d0G0H2m0oQ0404Gm0Cca1014E039g0G0H3m0oQm404H00Ccm1014H039j0G0H4W0oRW804G004M40Ccy20142015X039m0W0H0m0HOG0oSG80",
    "4GK04M40Cd820146015X039p0W0H1m0HOG0oT0804Ga04M40CdK2014B015X039s0W0H300HOG0oTm804Gu04M40CdW2014F015X039v0W0H400HOG0oUW804H404M40Cdi2014I015X03A00G1E000oWG40Jem0Ce8104u903A30G1Msm0oX040JfG0CeK1055j03A60G1E0m0oXm40KMi0CeW104vT03A90G1JGG0oYW40PmW0Cei1071h03AC0G1iD00oZG40PoW0Ceu1097H03AF0G1N7m0oa040PUK0Cf4106Wg03AI0G1d2G0oam40UJu0Cf",
    "G105GD03AL0G1oUG0obW40ZA40CfS107bT03AO0G1Ij00ocG40UTW0Cfe107Kt03AR0G1PSm0od040a6a0Cfq1054g03AU0G1JS00odm40REW0Cg0109W503AX0G1F4G0oeW40KPa0CgC106jZ03Aa0G1E2W0ofG40JYq0CgO104uB03Ad0G1TvW0og040K*C0Cga105Cx03Ag0G1Rbm0ogm40MsO0Cgm107RZ03Aj0G1F0G0ohW40ZCS0Cgy105DK03Am0G1P700oiG8003C003O0Ch82000p000t03Ap0W00Cm00E00oj08003C003a0ChK2000q",
    "000m03As0W00D000CG0ojm8003G00380ChW2000q000p03Av0W00D000D00okW8003G003K0Chi2000q000s03Ay0W00D000Dm0olG8003G003W0Chu2000q000v03A*0W00DG00C00om0800340PmW0Ci42000o06S803B20W00Cm1d200omm8003G0PmW0CiG2000r06S803B50W00DW1d200onW8003S0PmW0CiS2000u06S803B80W00EG1d200ooGC003400300PmW0Cie3000n000n06S803BB0m00CG00CW1d200oq040CA80Cj41032a03",
    "BI0G0mfW0oqm40CAW0CjG1032g03BL0G0mgm0orW40CAq0CjS1032l03BO0G0miG0osG40CBC0Cje1032r03BR0G0mjm0ot040CBa0Cjq1032x03BU0G0mlG0otm40CBy0Ck01033103BX0G0mn00ouW40CCO0CkC1033803Ba0G0moW0ovG40CCi0CkO1033C03Bd0G0mpG0ow040CCu0Cka1033F03Bg0G0mqW0owm40CDK0Ckm1033O03Bj0G0msm0oxW40CDu0Cky1033V03Bm0G0mu00oyG40CE40Cl81033Y03Bp0G0mv00oz040CEO0ClK1",
    "033e03Bs0G0mwG0ozm40CEe0ClW1033h03Bv0G0mx00o+W40CEq0Cli1033l03By0G0my00o*G40CF40Clu1033o03C01G0meW0mpm0mcW0m*00mo00p0GG0CA80CEi0CDK0CA40Cm85032Y033p033O032Q032Y03C30m0meW0m*00mwm0p10K0CAG0CCi0CFC0CAy0C9a0CmK3032a033p033103C60m0mfW0mgG0mym0p1mO0CAW0CBa0CAy0CFm0CCW0C9a0CmW4032e033y032h033y03C90m0mgW0mym0mkG0p2WC0CAe0CFm0CE00Cmi303",
    "2h032a033g03CC100mgm0mwG0mmm0mo00p3GG0CAi0CEq0CEe0CFm0Cmu4032h032P033j033p03CF100mgm0mcG0mym0mtW0p40G0CAq0C9a0CAi0C9a0Cn44032j032P033B033y03CI100mhG0mvG0mwW0m*00p4mO0CAq0C9a0CEi0CBy0C9a0CFm0CnG2032j033j03CL1W0mhG0mxG0mhm0mcG0mwG0mu00p5WO0CAq0CEq0CE40CFm0CCW0CEi0CnS5032j033j033l0333033803CO100mhm0mcG0mwG0mu00p6GO0CAy0C9a0CEa0CE00",
    "CCW0CFC0Cne6032l033h032x032P032a033j03CR100mhm0mxG0m*00mpG0p70C0CB40CFm0CBa0Cnq3032p033h033A03CU100mim0m*00msm0mcW0p7mG0CBK0CAG0CAy0CEi0Co05032r033p0331033y033W03CX1G0mjm0mwW0mym0mhm0mcG0p8WC0CBi0CFC0CC40CoC3032x033p033803Ca100mlm0mcG0m*00mkG0p9GC0CCO0C9a0CBS0CoO30338032P033h03Cd0W0mo00mym0pA080CCe0CCu0Coa3033E0333033803Cg0m0mpm",
    "0mf00mn00pAmO0CCy0C9e0CFm0CBi0CFC0CCW0Com4033F032Q033y033403Cj1G0mpm0mcG0m*00mx00mwm0pBWO0CD80C9e0CA80CBa0CCW0CEi0Coy4033I032Q032l033h03Cm0m0mqW0mcW0mim0pCGC0CD80C9a0CEi0Cp86033L032X033f03330338032P03Cp100mrG0mem0m*00mo00pD0O0CDK0C9a0CCC0CBS0CAS0CEi0CpK3033L033f033p03Cs1G0ms00mhm0mlm0m*00mwm0pDmC0CDW0C9e0CBq0CpW4033O032Q033B033I",
    "03Cv0m0ms00mwm0mn00pEWG0CDW0C9e0CFC0CBa0Cpi5033O032Q033y032t032P03Cy100ms00mcG0m*00mlm0pFGK0CDi0C9e0CAG0CFC0CCW0Cpu4033R032P033h033803C*0W0msm0mym0pG0K0CDi0C9e0CFC0CCW0C9a0Cq43033R033y033h03D20m0msm0m*00mym0pGmG0CDu0CAG0CAy0CEq0CqG3033U032a033h03D50m0mtW0mmm0mpm0pHWC0CDu0CEi0CAy0CqS5033U033p032t033d033p03D8100mtm0mhm0mxG0mym0pIG",
    "80CDy0CEe0Cqe6033V033g033F032P033y033h03DB0m0muG0mgm0mcG0pJ0K0CE40CAi0C9a0CCW0CFC0Cqq4033X033y0338033h03DE100mv00m*00mo00mcG0pJmC0CEG0CFm0CEi0Cr03033c032Y033p03DH100mwW0mmm0mo00mwm0pKW80CEe0CEa0CrC4033h033I032Q033y03DK1G0mwm0m*00mrG0mcG0mwm0pLG80CEm0CE00CrO6033i033p0338032n032P033p03DN0m0mxm0mmm0mo00pM0800300SBa0Cra2000n072v03DQ",
    "0W00CW1mkG0pMm8003C0SBa0Crm2000q072v03DT0W00DG1mkG0pNW8003O0SBa0Cry2000t072v03DW0W00E01mkG0pOG8003a0SBa0Cs83000n000m072v03DZ0m00CG00CG1mkG0pP0C003400380SBa0CsK3000n000p072v03Dc0m00CG00D01mkG0pPmC0034003K0SBa0CsW3000n000s072v03Df0m00CG00Dm1mkG0pQWC0034003W0SBa0Csi3000n000v072v03Di0m00CW00C01mkG0pRGC003800340SBa0Csu3000o000o072v03",
    "Dl0m00CW00Cm1mkG0pS0C0038003G0SBa0Ct43001e001G001X03Do0W00P000OG0pSm80044005K0CtG3001Y001X001o03Dr0W00Rm00LW0pTW80070006C0Cti205vp068G03Dy0W1cBG1KZ00pVG80MIS0QsC0Ctu206OE06ox03D*101eAW1V3m1F6W1vFW0pW08007000440Cu42001k001103E20W03l000GG0pWm8006q00440CuG2001h001103E50W00Im00GW0pXW8004q00480CuS20017001203E80m00Om00OG00R00pYGG006i0",
    "06C0064006m0Cue2001m001603EB0W00RW00HW0pZ0800xm004O0Cuq200Ey001d03EE0W00RG00Pm0pZm8006i006S0Cv020018001w03EH0m00Qm00I000UW0paWC004q004W007e0CvC300170018001w03EK0m00L000I000UW0pbG800xm006m0CvO2001j001i03EN0W00P000R00pc08006i006m0Cva2001c001j03EQ0W00RW00RG0pcm800xm006q0Cvm2001j001j03ET0W00Om00RG0pdW8006i006q0Cvy3001j001j000o03EW0m",
    "00Om00RG00CW0peG8006q00380Cw83001h001j000o03EZ0m00RG00RG00Cm0pf0C006C006q003C0CwK2001j000p03Ec0m00Qm00RG00Cm0pfmC006q08XK007C0CwW4001j028L001p000o03Ef0W00K000OG0pgWC006i005000640Cwi3001D001G001X03Ei0m00Hm00K000OG0phGC00780064006G0Cwu5001o001X001a028L001p03El1W00SW00OG00P00Y5G00Sm00CW0pi080070007C0Cx42001k001p03Eo0W03l000Sm0pim80",
    "06q007C0CxG2001m001M03Er0W00RW00LW0pjW800xm005O0CxS2001j001M03Eu0W00Qm00LW0pkG8004q005O0Cxe2001m001N03Ex0W00RW00Lm0pl0800xm005S0Cxq2001j001N03E+0W00Qm00Lm0plm8004q005S0Cy02001h00Ef03F10W00JG03gG0pmWG0064002u006q002u0CyC20012001n03F40W00Om00Om0pnG8006C006G0CyO40013028L001h001d03F70m00Gm00Rm00BW0po08006G00480Cya20017001v03FA0W00Q0",
    "00OG0pom8004W00500Cym2001f001k03FD0W00Im00Im0ppW8004i004q0Cyy2001h001q03FG0W00R000RG0pqG8006m006u0Cz83001i001l001d03FJ0W00R000U00pr08006q00680CzK3001j001f001i03FM0m00RG00Rm00R00prm80050004W0CzW4001m000k001j000k03FP0m00K000K000JG0psW8005000580Czi2001p001o03FS0W00Km00TW0ptG8005S00680C+02000n06Nb03FX0W00CW1bvG0puW8003C0PUK0C+C2000q",
    "06Nb03Fa0W00DG1bvG0pvG8003O0PUK0C+O2000t06Nb03Fd0W00E01bvG0pw08003a0PUK0C+a3000n000m06Nb03Fg0m00CG00CG1bvG0pwmC003400380PUK0C+m3000n000p06Nb03Fj0m00CG00D01bvG0pxWC0034003K0PUK0C+y3000n000s06Nb03Fm0m00CG00Dm1bvG0pyGC0034003W0PUK0C*83000n000v06Nb03Fp0m00CW00C01bvG0pz0C003800340PUK0C*K3000o000o06Nb03Fs0m00CW00Cm1bvG0pzmC0038003G0PU",
    "K0C*W3000o000r06Nb03Fv0m00CW00DW1bvG0p+WC0038003S0PUK0C*i3000o000u06Nb03Fy0m00CW00EG1bvG0p*GC003C00300PUK0C*u3000p000n06Nb0Fa00G2CI03v0G40PlG0+G8108xA0Fa30G2Co03v1040Rj40+GK104uo0Fa60G1JvG3v1m40dvm0+GW109+S0Fa90G1PKG3v2W40aT40+Gi105M70FaC0G1PI03v3G40OVO0+Gu107Pf0FaF0G1*XG3v4040XZy0+H4108Uw0FaI0G28+03v4m40a8y0+HG106e20FaL0G1j6m3v",
    "5W40SDa0+HS107FU0FaO0G24FG3v6G40aMe0+He109dn0FaR0G1EWW3v7040KtK0+Hq106i40FaU0G1o6m3v7m40XYq0+I0109uU0FaX0G1TK03v8W40R+i0+IC108ND0Faa0G29P03v9G40Oia0+IO1087O0Fad0G287m3vA040Nie0+Ia106SN0Fag0G1jQW3vAm40Slm0+Im1093E0Faj0G1FXW3vBW40KRS0+Iy105BU0Fam0G1an03vCG40QjC0+J81078G0Fap0G1svm3vD040W040+JK108O60Fas0G26N03vDm40ZUy0+JW109So0Fav0G",
    "2RRm3vEW40dVe0+Ji107YC0Fay0G1vVm3vFG40VQ00+Ju108F90Fa*0G2J103vG040ddy0+K4108hM0Fb20G1Otm3vGm40NmG0+KG107nW0Fb50G20VW3vHW40Sc80+KS107ZA0Fb80G2CmW3vIG40blS0+Ke105ZO0FbB0G1SOW3vJ040QXC0+Kq106tQ0FbE0G1l3m3vJm40VIy0+L0107ut0FbH0G2MIm3vKW40Kj80+LC1082B0FbK0G1Ht03vLG40KSm0+LO107eS0FbN0G1zlW3vM040W*40+La109Pr0FbQ0G2BW03vMm40Oiy0+Lm106e2",
    "0FbT0G2A*W3vNW40JZa0+Ly105ld0FbW0G1W4W3vOG40SuS0+M8107Lm0FbZ0G1J5m3vP040UFi0+MK104+*0Fbc0G1VgG3vPm40JWq0+MW106pC0Fbf0G1bU03vQW40VI80+Mi105F30Fbi0G1ONW3vRG40Tm40+Mu108H90Fbl0G2AgW3vS040Qxe0+N4108+m0Fbo0G1iY03vSm40Olu0+NG108Bb0Fbr0G1Ze03vTW40TMK0+NS104wk0Fbu0G1HQG3vUG40KSa0+Ne106Y10Fbx0G1yvm3vV040Wcy0+Nq108hI0Fb+0G2Hpm3vVm40KlK0+O",
    "0105H20Fc10G1PSm3vWW40Nkm0+OC106N50Fc40G1l*W3vXG40UIe0+OO109Mj0Fc70G2QQW3vY040dfS0+Oa109xE0FcA0G1Icm3vYm40PiO0+Om106jt0FcD0G2FOW3vZW40NdG0+Oy1066G0FcG0G1Y003vaG40P9e0+P8106yZ0FcJ0G1nIG3vb040T8a0+PK107dA0FcM0G1zz03vbm40W6y0+PW108yc0FcP0G24xW3vcW40a2C0+Pi109DA0FcS0G1I5m3vdG40KgC0+Pu105Iz0FcV0G1mo03ve040YC80+Q4108gg0FcY0G1UoG3vem40",
    "N*K0+QG106Dx0Fcb0G1hhW3vfW40V3u0+QS107Dr0Fce0G1Ev03vgG40Lla0+Qe105ld0Fch0G1TkW3vh040O1m0+Qq107Eo0Fck0G1qQG3vhm40Vve0+R0108160Fcn0G2ID03viW40blO0+RC109T80Fcq0G2O603vjG40Jui0+RO107ck0Fct0G2Hj03vk040bhW0+Ra1063X0Fcw0G1EXW3vkm40KDe0+Rm105lk0Fcz0G1SFm3vlW40PPa0+Ry106e20Fd00G1npW3vmG40Ta80+S8108Jy0Fd30G2GV03vn040duq0+SK106Q80Fd60G2MBW",
    "3vnm40Kea0+SW106Tx0Fd90G1dym3voW40RK40+Si106wS0FdC0G1q2G3vpG40TLa0+Su107Xh0FdF0G1z403vq040c5u0+T41055j0FdI0G1YBW3vqm40bdW0+TG1050h0FdL0G1T6G3vrW40RUe0+TS108yg0FdO0G1VYm3vsG40OKG0+Te106WN0FdR0G1pXm3vt040beO0+Tq1058f0FdU0G1K3m3vtm40N6K0+U0106OJ0FdX0G1dJW3vuW40QAW0+UC106pb0Fda0G1q1W3vvG40TU80+UO107zv0Fdd0G28pm3vw040YE40+Ua1097C0Fdg",
    "0G2MuW3vwm40Kpy0+Um106ww0Fdj0G1K7G3vxW40ST00+Uy107IO0Fdm0G25+W3vyG40bgC0+V8109nN0Fdp0G2Udm3vz040PvS0+VK106tB0Fds0G21w03vzm40Uii0+VW107iW0Fdv0G1yaW3v+W40Si00+Vi1072P0Fdy0G2BM03v*G40Ji00+Vu108Cs0Fd*0G1IEW3w0040KWS0+W4105wc0Fe20G1Yqm3w0m40VDO0+WG105k50Fe50G1j7W3w1W40PhG0+WS108yx0Fe80G28J03w2G40baq0+We108cB0FeB0G1Uqm3w3040KK00+Wq105",
    "N00FeG0G1OMW3w4W40PdG0+XK1057U0FeM0G1pAW3w5m40Tie0+XW107ay0FeP0G1vNW3w6W40UMK0+Xi107cF0FeS0G2NLW3w7G40VBu0+Xu107+z0FeW0G264W3w8W40YlW0+YK1090u0Fec0G2G*G3wAW40cEy0+Yi109Zy0Fei0G2PA03wBG40dRG0+Z0104+k0Fen0G1Gvm3wCW40KKq0+ZC105B90Feq0G1Iv03wDG40Kr40+ZO105MT0Fet0G1M1W3wE040LcW0+Za105X00Few0G1Og03wEm40N6G0+Zm105nk0Fez0G1Wb03wFW40OMW0",
    "+Zy1066E0Ff00G1XyW3wGG40PKy0+a8106NY0Ff30G1caG3wH040Q8K0+aK106rt0Ff60G1k6W3wHm40Ro80+aW1075k0Ff90G1oAm3wIW40T280+ai107YH0FfC0G1vFW3wJG40UKa0+au107b80FfF0G1vK03wK040ULO0+b4107bT0FfI0G1vZG3wKm40UOu0+bG107f00FfL0G1wWG3wLW40Uy00+bS107tq0FfO0G1+2G3wMG40Va40+be107zo0FfR0G201G3wN040WUq0+bq1089v0FfU0G22UG3wNm40X5S0+c0108aG0FfX0G29bW3wOW",
    "40Ym40+cC108iv0Ffa0G2Cqm3wPG40ZGW0+cO108+s0Ffd0G2GE03wQ040bkC0+ca109V*0Ffg0G2OEm3x008006O006O0+m42001c001f0Fi20W00PW00R03x0mC006O006O006a0+mG3001c001c001i0Fi50W00Sm00T03x1W8007C007G0+nC200Lq00Ls0FiK0W05T005PG3x5G801NG01Mi0+nO200L+00Ls0FiN0W05T005RG3x7G801Ta01RG0+ny200No00Mt0FiW0G05uW3x8G401T00+o8100NJ0FiZ0G05r03x90401Ti0+oK100NS",
    "0Fic0G05tG3x9m401UW0+oW100Ng0Fif0G00Am3xAW801Ua01S40+oi200Nf00N20Fii0m05wG05l005mG3xBGC01Ua01Rm01S80+ou200NG00Mt0Fil0W05q005k03xC0801T001Rm0+p4200NH00My0Fio0W05qW05l03xCm801TC01Rm0+pG200NK00My0Fir0W05rG05l03xDW801TO01Rm0+pW200NO00My0Fiv0W05sG05l03xEW801Te01Rm0+pi200NR00My0Fiy0W05t005l03xFW801Tu01Rm0+q0200NW00My0Fj10W05uG05l03xGm",
    "801UC01Rm0+qG200Na00My0Fj60W05vW05l03xHm801US01Rm0+qW200Ne00My0Fj90W05wG05l03xIW801Ue01Rm0+qi200NL00Mv0FjC0W05qG05lm3xJG801Ti01Ry0+qu200Na00M*0FjF0W05q005t03xK0401d40+r4100Pn0FjI0G06Um3xKm401di0+rG100Px0FjL0G06Um3xLW401du0+rS100P+0FjO0G06VW3xMG401du0+re100Q00FjR0G06W03xN0401e00+rq100Q00FjU0G06UW3xNm401de0+s0100Pw0FjX0G06UW3xOW40",
    "1dy0+sC100P*0Fja0G06Vm3xPG401dy0+sO100Pv0Fjd0G06UG3xQ0401da0+sa100Pv0Fjg0G06f03xQm401gG0+sm100Qa0Fjj0G06f03xRW401gO0+sy100Qc0Fjm0G06fW3xSG401gO0+t8100Q40Fjp0G06X03xT0401eG0+tK100Q40Fjs0G06Wm3xTm401eC0+tW100Q30Fjv0G06Wm3xUW401eO0+ti100Q60Fjy0G06XW3xVG401eO0+tu100Q70Fj*0G06Xm3xW0401eS0+u4100Q70Fk20G06ZG3xWm401eq0+uG100QC0Fk50G06Z0",
    "3xXW401eu0+uS100QE0Fk80G06Y03xYG401eW0+ue100QO0FkB0G06c03xZ0401f40+uq100QH0FkE0G06gG3xZm401ga0+v0100Qf0FkH0G06gG3xaW401gy0+vC100Ql0FkK0G06hm3xbG401gy0+vO100Qp0FkN0G06im3xc0401hC0+va100Qp0FkQ0G06iG3xcm401h40+vm100Qn0FkT0G06iG3xdW401he0+vy100Qw0FkW0G06km3xeG401hi0+w8100Qx0FkZ0G06km3xf0801jK01bG0+wK200RL00PK0Fkc0G06mG3xfm401i40+wW1",
    "00R10Fkf0G06mG3xgW401hu0+wi100Q+0Fki0G06lW3xhG401hu0+wu100RI0Fkl0G06qW3xi0801j801bG0+x4200RI00PK0FlJ0G06hG3xr0401gq0+zK100Qj0FlM0G06hG3xrm401iS0+zW100R70FlP0G06nW3xsW401iO0+zi100R80FlS0G06o03xtG801iS01dG0+zu100RB0FlV0G06om3xu0401iK0++4100R50FlY0G06oG3xum401ia0++G100RG0Flb0G06q03xvW401j00++S100RG0Fle0G06IG3xwG401aa0++e300PA00PK00",
    "Od0Flh0m06IW06L0069m3xx0C01ae01bG01jK0++q300PA00PK00RL0Flk0m06IW06L006I03xxmC01ae01bG01aW0+*0300PA00PK00R70Fln0m06IW06L006nm3xyWC01ae01bG01iO0+*C300PA00PK00R60Flq0m06IW06L006o03xzGC01ae01bG01iW0+*O300PA00PK00RG0Flt0m06IW06L006q03x+0C01ae01bG01j00+*a300PA00PK00P90Flw0m06IW06L006IG3x+mC01ae01bG01aa0+*m100RC0Flz0G06p03x*W401im0+*y1",
    "00RC0Fm00m06IW06L006B03y0GC01ae01bG01Yq0*08300PA00PK00P50Fm30m06IW06L006IG3y10C01ae01bG01ae0*0K200Oe00Oi0Fm60W06A006BG3y1m801YW01Yu0*0W200Oe00P50Fm90W06A006IG3y2W801YW01ae0*0i200Og00Oi0FmC0W06AW06BG3y3G801Ye01Yu0*0u200Og00P50FmF0W06AW06IG3y40801Ye01ae0*14200Oh00Oi0FmI0W06Am06HG3y4m801Yi01aa0*1G200Oh00PA0FmL0W06B006BG3y5W801Ym01a",
    "K0*1S200Oj00Oi0FmO0W06BG06HG3y6G801Yu01Ym0*1e200Ok00Oj0FmR0W06BW06HG3y70801ZC01Ym0*1q200Op00Oj0FmU0W06Cm06BW3y7m801ZC01aK0*20200Or00Oj0FmX0W06DG06HG3y8W801ZO01Ym0*2C200Os00Oj0Fma0W06DW06BW3y9G801ZO01aK0*2O200Ot00Oj0Fmd0W06Dm06HG3yA0801ZW01aK0*2a200Ov00Oi0Fmg0W06EG06HG3yAm801Ze01Ym0*2m200Ow00P50Fmj0W06GG06B03yBW801a401Yq0*2y200P1",
    "00Ok0Fmm0W06GG06HG3yCG801a401aa0*38200P100PA0Fmp0W06GW06BG3yD0801a801aK0*3K200P200P90Fms0W06GW06IW3yDm801aC01YS0*3W200P300Oi0Fmv0W06Gm06BG3yEW801aC01Yu0*3i200P300P40Fmy0W06Gm06HG3yFG801aC01aa0*3u200P300PA0Fm*0W06H006B03yG0801aG01Yq0*44200P400Ok0Fn20W06H006HG3yGm801aG01aa0*4G200P400PA0Fn50W06HG06B03yHW801aK01Yq0*4S200P500Ok0Fn80W",
    "06HG06HG3yIG801aK01aa0*4e200P500PA0FnB0W06HW06B03yJ0801aO01Yq0*4q200P600Ok0FnE0W06HW06HG3yJm801aO01aa0*50200P600PA0FnH0W06Hm06B03yKW801aS01aK0*5C200P700P90FnK0W06Hm06IW3yLG801ae01Ym0*5O200PA00Oj0FnN0W06IW06BW3yM0801ae01aK0*5a200PA00P90FnQ0W06IW06IW3yMm801Z001d00*5m200On00Pm0FnT0W06IG06S03yNWC002001am01b40*5y3000W00PD00PH0FnW0m00",
    "8006JW06KG3yOGC002001ay01b40*683000W00PG00PH0FnZ0m008006KG06S03yP0C01ae01bG01Z40*6K300PA00PK00Oo0Fnc0m06IW06L006HG3yPmC01ae01bG01aO0*6W300PA00PK00P90Fnf0m06IW06L006IW3yQW801YW01Z40*6i200Oe00Oo0Fni0W06A006HG3yRG801YW01aO0*6u200Oe00P90Fnl0W06A006IW3yS0801Ye01Z40*74200Og00Oo0Fno0W06AW06HG3ySm801Ye01aO0*7G200Og00P90Fnr0W06AW06IW3yTW",
    "801Yi01Z40*7S200Oh00Oo0Fnu0W06Am06HG3yUG801Yi01aO0*7e200Oh00P90Fnx0W06Am06IW3yV0801a401aa0*7q200P100PA0Fn+0W06GW06IG3yVm801a801ae0*80200P300Od0Fo10W06Gm06H03yWW801aC01aK0*8C200P300P90Fo40W06Gm06IW3yXG801aG01aK0*8O200P400P90Fo70W06H006IW3yY0801aK01YS0*8a200P500P50FoA0W06HW06CG3yYm801aO01Z80*8m200P600P50FoD0W06HW06HW3yZW801aO01aa0",
    "*8y200P600PA0FoG0W06IG06S03yaG801ae01Z40*98200PA00Oo0FoJ0W06IW06HG3yb0801ae01aO0*9K200PA00P90FoM0W06IW06IW3ybmC01ae01bG01Ym0*9W300PA00PK00Oj0FoP0m06IW06L006BW3ycWC01ae01bG01aK0*9i300PA00PK00P70FoS0W06A006B03ydG801YW01Yq0*9u200Oe00Ok0FoV0W06A006HG3ye0801YW01aS0*A4200Og00Oi0FoY0W06AW06BG3yem801Ye01Yu0*AG200Og00P50Fob0W06AW06Hm3yfW",
    "801Yi01aK0*AS200Oi00Oj0Foe0W06B006HG3ygG801Yq01Ym0*Ae200Oj00P50Foh0W06BW06B03yh0801Yu01aK0*Aq200Op00Oi0Fok0W06Cm06BG3yhm801ZC01Yu0*B0200Op00P50Fon0W06DG06BG3yiW801ZK01Yu0*BC200Or00P50Foq0W06DW06B03yjG801ZO01Yq0*BO200Os00Ok0Fot0W06DW06HG3yk0801ZS01Yq0*Ba200Ou00P50Fow0W06EG06B03ykm801Za01aK0*Bm200Ow00Oi0Foz0W06EW06HG3ylW801a401Ym0",
    "*By200P100Oj0Fp00W06GG06BW3ymG801a401aK0*C8200P200Oj0Fp30W06GW06HG3yn0801aC01Ym0*CK200P300Oj0Fp60W06Gm06BW3ynm801aC01aG0*CW200P300P50Fp90W06H006B03yoW801aG01Yq0*Ci200P400Ok0FpC0W06H006HG3ypG801aG01aS0*Cu200P500Oi0FpF0W06HG06BG3yq0801aK01Yu0*D4200P500P50FpI0W06HW06B03yqm801aO01Yq0*DG200P600Ok0FpL0W06HW06HG3yrW801aO01aS0*DS200P700",
    "Oi0FpO0W06Hm06HG3ysG801aS01d00*De200PA00Oi0FpR0W06IW06BG3yt0801ae01Yu0*Dq200PA00P50FpU0W06IW06Hm3ytmC01ae01bG01aK0*E0300PA00PK00P70FpX0W06A006HG3yuW801YW01aS0*EC200Og00P50Fpa0W06AW06Hm3yvG801Yi01aK0*EO200Oh00P70Fpd0W06Cm06HG3yw0801ZC01aS0*Ea200Oq00P50Fpg0W06D006Hm3ywm801aC01aG0*Em200P300P50Fpj0W06H006HG3yxW801aO01aK0*Ey200P600P7",
    "0Fpm0W06IW06HG3yyG801ae01aS0*F8300P000PE00PH0Fpp0m06G006Jm06KG3yz0C01a001b001b40*FK200Ot00P90Fps0W06Dm06IW3yzm801Za01aa0*FW200Ov00PA0Fpv0W06EW06IG3y+W801Ze01ae0*Fi200Op00P90Fpy0W06Cm06IW3y*G801ZG01aa0*Fu200Oq00PA0Fp*0W06BG06IG3z00801Yq01ae0*G4200Oi00P90Fq20W06B006IW3z0m801Yu01aa0*GG200Ok00PA0Fq50W06DG06IG3z1W801ZK01ae0*GS200Os00",
    "P90Fq80W06DW06IW3z2G801ZG01Ym0*Ge200Oq00Oj0FqB0W06D006BW3z30801ZG01aK0*Gq200Oq00On0FqE0W06Cm06CG3z3m801ZK01Z40*H0200Os00On0FqH0W06Dm06IG3z4W801ZS01ae0*HC200Ov00P90FqK0W06EG06IW3z5G801Ze01aa0*HO200Ow00PA0FqN0W06Cm06IG3z60801ZC01ae0*Ha200Oq00P90FqQ0W06D006IW3z6m801Yq01aa0*Hm200Oj00PA0FqT0W06B006IG3z7W801Ym01ae0*Hy200Ok00P90FqW0W06",
    "BW06IW3z8G801ZK01aa0*I8200Or00PA0FqZ0W06DW06IG3z90801ZO01ae0*IK200Oq00Oi0Fqc0W06D006BG3z9m801ZG01Yu0*IW200Oq00P50Fqf0W06D006CG3zAW801ZC01Z40*Ii200Or00On0Fqi0W06DW06CG3zBG801ZG01Ym0*Iu200Oq00Oj0Fql0W06D006BW3zC0801ZG01aK0*J4200Op00P70Fqo0W06D006Hm3zCm801ZS01aK0*JG200Op00Oi0Fqr0W06Cm06BG3zDW801ZC01Yu0*JS200Oq00Oi0Fqu0W06D006BG3zEG",
    "801ZG01Yu0*Je200Ot00P50Fqx0W06E006HG3zF0801YS01ai0*Jq200Od00PB0FrG0m06AW06B006HG3zKGC01Ye01Yq01Ym0*L8300Og00Oj00Oi0FrJ0m06AW06BG06HG3zL0C01Ye01Yu01aK0*LK300Og00P500Oi0FrM0m06AW06HG06BG3zLmC01Ye01aK01Yu0*LW300Oi00P500Oj0FrP0m06B006HG06BG3zMWC01Yq01aK01ae0*Li300Oj00P500P90FrS0m06Cm06BG06B03zNGC01ZC01Ym01Yq0*Lu300Op00Oi00P90FrV0m06",
    "Cm06HG06BG3zO0C01ZC01aK01Yq0*M4300Op00P500Oi0FrY0m06Cm06HG06HG3zOmC01ZC01aK01aK0*MG300Or00Oj00Oj0Frb0m06DG06BG06BG3zPWC01ZK01aK01aK0*MS300Oq00Oj00P50Fre0m06D006BG06HG3zQGC01ZG01Ym01ae0*Me300Oq00P500Ok0Frh0m06D006HG06BW3zR0C01ZG01aK01aK0*Mq300Oq00P500P50Frk0m06DW06BG06IG3zRmC01ZO01Yu01aK0*N0300Os00Ok00P50Frn0m06Dm06HG06BG3zSWC01Z",
    "S01aK01Yq0*NC300Ot00P500P50Frq0m06Dm06HG06IW3zTGC01Za01Ym01aK0*NO300Ov00P500P50Frt0m06EG06HG06HG3zU0C01Za01aK01aa0*Na300Ow00P500P50Frw0m06EW06HG06IW3zUmC01Ze01aK01aa0*Nm300P100Ok00P50Frz0m06GG06BW06HG3zVWC01a801aK01Yq0*Ny300P200P500P50Fs00m06H006BG06HG3zWGC01aG01Yq01ae0*O8300P400Oj00P90Fs30m06H006B006B03zX0C01aG01Ym01Ym0*OK300P4",
    "00Ok00P50Fs60m06H006BW06HG3zXmC01aG01aK01Yq0*OW300P400P500Oj0Fs90m06HG06BG06B03zYWC01aK01Yq01aK0*Oi300P500Oj00PA0FsC0m06HG06B006BG3zZGC01aK01Ym01aK0*Ou300P500Ok00Oi0FsF0m06HG06BW06HG3zaWC01aK01Ym01Yu0*PC300P700P500Oi0FsK0m06Hm06HG06HG3zbGC01aO01Yq01aK0*PO300P600Oj00P90FsN0m06HW06B006HG3zc0C01aO01Ym01aK0*Pa300P600Oi00P90FsQ0m06HW",
    "06HG06IW3zcmC01aO01aK01aa0*Pm300PA00P500P50FsT0m06IW06HG06HG3zdWC01YW01Yu01ae0*Py300Og00Oi00PA0FsW0m06AW06B006IG3zeGC01Ye01Yu01ae0*Q8300Og00Ok00P90FsZ0m06AW06HG06IW3zf0C01Ye01aK01aa0*QK300Oi00P500PA0Fsc0m06B006BG06IG3zfmC01Ym01aK01aa0*QW300Op00Ok00P90Fsf0m06DG06BG06IW3zgWC01ZG01Yq01ae0*Qi300Os00Oj00PA0Fsi0m06H006B006IW3zhGC01aG0",
    "1aK01ae0*Qu300PA00Oj00PA0Fsl0m06IW06B006IW3zi0C01ae01aK01ae0*R4300P500P500PA0Fso0m06GW06HG06IW3zimC01aO01Yq01ae0*RG300P200P500Oj0Fsr0m06H006BG06HG3zjWC01Za01aK01ae0*RS300P300P500PA0Fsu0m06HW06B006BG3zkGC01aK01Yu01ae0*Re300P400Oi00P50Fsx0m06Gm06HG06HG3zl0C01aG01Ym01aK0*Rq300P600Oi00Oj0Fs+0m06B006BG06IW3zlmC01Yq01Ym01ae0*S0300P500",
    "Oi00PA0Ft10m06GG06HG06IW3zmWC01YW01Yq01ae0*SC300P300P500P50Ft40m06EG06B006HG3znGC01ZK01aK01aK0*SO300Op00Ok00PA0Ft70m06HW06B006IW3zy0C01ZK01aG01j80*V4300P200P400RI0Fto10069m06H006H006Hm3zymG01YS01aC01YW01Z40*VG400P500Oj00P500Ol0Ftr1006DG06H006EG06HG3zzWG01Z401ZC01aW01aG0*VS400Ov00P400PA00P70Ftu1006I006Cm06H006HG3z+GC01ZK01aG01aa0",
    "*VeI00Or00P400P9000W00Od00P400P400P7000W00Ov00P400PA00P7000W00P800Op00P400P50Ftx2006B006H0008006B006H0069m06H006Hm3z*0G01Z401im01YS01aG0*Z02000k000k0Fun0G0W503+CW4081C0*ZC1001V0Fuq0G00Nm3+DG4002W0*ZO1000f0Fut0G00Um3+E04007q0*Za1030K0Fuw0G0m5G3+Em40C100*Zm1030H0Fuz0G0m2W3+FW40C0i0*Zy103080Fv00G0m2G3+GG40C0m0*a81030D0Fv30G0m3W3+H0",
    "40C0y0*aa2000W00C50FvA0W0080031G3+Im8002000mK0*am2000W00C50FvD0G00Nm3+JW4005y0*ay1001V0FvG0G00B03+KG40C040*b81000k0FvK0G00Em3+LG4003e0*bO1000*0FvN0G008G3+M04081G0*ba1000e0FvQ0G00AG3+Mm4007i0*bm1001z0FvT0G0m503+NW40C1K0*by1000Z0FvW0G009W3+OG4002e0*c81000h0FvZ0G00BG3+P04003m0*cK1000+0Fvc0G00FG3+Q04005m0*ca1000a0Fvg0G009G3+Qm400400",
    "*d02000W00PB0Fvn0W06G006Im3+SW8002001am0*dG2000W00PD0Fvs0W008006JW3+Tm801a001au0*dW2000W00PF0Fvv0W06G006Jm3+UW8002001b00*di200P000PG0Fvy0W008006KG3+VG801a001b40*du2000W00PI0Fv*0W06G006KW3+W0401Y40*e4200Od00PJ0Fw20W069m06Km3+Wm801YS01bG0*eG200Od00PK0Fw50W06I006L03+XW801aW01bG0*eS200Od00PL0Fw80W069m06LG3+YG801ae01bG0*ee200PA00PK0F",
    "wB0W06IW06L03+Z0801ae01bG0*eq100Od0FwE0G069m3+Zm401YW0*f0100Oe0FwH0G06A03+aW401YW0*fC100Of0FwK0G06AG3+bG401Ye0*fO100Og0FwN0G06AW3+c0401Ye0*fa100Oh0FwQ0G06Am3+cm401Yi0*fm100Oh0FwT0G06B03+dW401Ym0*fy100Oi0FwW0G06B03+eG401Yq0*g8100Oj0FwZ0G06BG3+f0401Yq0*gK100Ok0Fwc0G06BW3+fm401Yu0*gW100Ok0Fwf0G06Bm3+gW401Yy0*gi100Om0Fwi0G06C03+hG40",
    "1Z40*gu100On0Fwl0G06CW3+i0401Z80*h4100Op0Fwo0G06Cm3+im401ZC0*hG100Op0Fwr0G06D03+jW401ZG0*hS100Oq0Fwu0G06D03+kG401ZK0*he100Or0Fwx0G06DG3+l0401ZK0*hq100Os0Fw+0G06DW3+lm401ZO0*i0100Os0Fx10G06Dm3+mW401ZS0*iC100Ot0Fx40G06Dm3+nG401ZW0*iO100Ou0Fx70G06E03+o0401ZW0*ia100Ov0FxA0G06EG3+om401Za0*im100Ov0FxD0G06EW3+pW401Ze0*iy100Ow0FxG0G06EW",
    "3+qG401a40*j8100P10FxJ0G06GG3+r0401a40*jK100P20FxM0G06GW3+rm401a80*jW100P20FxP0G06Gm3+sW401aC0*ji100P30FxS0G06Gm3+tG401aG0*ju100P40FxV0G06H03+u0401aG0*k4100P50FxY0G06HG3+um401aK0*kG100P50Fxb0G06HW3+vW401aO0*kS100P60Fxe0G06HW3+wG401aS0*ke100P70Fxh0G06Hm3+x0401aS0*kq100P80Fxk0G06I03+xm401aa0*l0100P90Fxn0G06IW3+yW401ae0*lC100PA0Fxq",
    "0G06IW3+zGC01aG01YS01bC0*lO300P400Od00PJ0Fxt0m06H0069m06L03++0C01aG01YS01bG0*la300P400Od00PL0Fxw0m06H0069m06LG3++m801aG01YS0*lm200P400Od0Fy10G008G3*0W400280*mC1000Z0Fy40G00903*1G4002K0*mO1000c0Fy70G009m3*204002W0*ma1000f0FyA0G00AW3*2m4002i0*mm1000i0FyD0G00BG3*3W4002u0*my1000l0FyG0G00C03*4G400340*n81000o0FyJ0G00Cm3*504003G0*nK100",
    "0r0FyM0G00DW3*5m4003S0*nW1000u0FyP0G00EG3*6W4003e0*ni1000x0FyS0G00F03*7G4003q0*nu1000+0FyV0G00Fm3*80400400*o4100110FyY0G00GW3*8m4004C0*oG100140Fyb0G00HG3*9W4004O0*oS100170Fye0G00I03*AG4004a0*oe1001A0Fyh0G00Im3*B04004m0*oq1001D0Fyk0G00JW3*Bm4004y0*p01001G0Fyn0G00KG3*CW400580*pC1001J0Fyq0G00L03*DG4005K0*pO1001M0Fyt0G00Lm3*E04005W0",
    "*pa1001P0Fyw0G00MW3*Em4005i0*pm1001S0Fyz0G00NG3*FW4005u0*py1001V0Fz00G00O03*GG400640*q81001Y0Fz30G00Om3*H04006G0*qK1001b0Fz60G00PW3*Hm4006S0*qW1001e0Fz90G00QG3*IW4006e0*qi1001h0FzC0G00R03*JG4006q0*qu1001k0FzF0G00Rm3*K0400700*r41001n0FzI0G00SW3*Km4007C0*rG1001q0FzL0G00TG3*LW4007O0*rS1001t0FzO0G00U03*MG4007a0*re1001w0FzR0G00Um3*N0",
    "4007m0*rq1001z0FzU0G00VW3*Nm40AOK0*s0102c60FzX0G0m0W3*OW40C0m0*sC1030D0Fza0G0m0G3*PG40CFi0*sO1033o0Fzd0G0meG3*Q040CAC0*sa1032b0Fzg0G0mfm3*Qm40CAa0*sm1033Z0Fzj0G0mvG3*RW40CES0*sy103330Fzm0G0m*03*SG40CA80*t81032a0Fzp0G0mfW3*T040CAW0*tK1032g0Fzs0G0mgm3*Tm40CAq0*tW1032l0Fzv0G0miG3*UW40CBC0*ti1032r0Fzy0G0mjm3*VG40CBa0*tu1032x0Fz*0G0m",
    "lG3*W040CBy0*u4103310F+20G0mn03*Wm40CCO0*uG103380F+50G0moW3*XW40CCi0*uS1033C0F+80G0mpG3*YG40CCu0*ue1033F0F+B0G0mqW3*Z040CDK0*uq1033O0F+E0G0msm3*Zm40CDu0*v01033V0F+H0G0mu03*aW40CE40*vC1033Y0F+K0G0mv03*bG40CEO0*vO1033e0F+N0G0mwG3*c040CEe0*va1033h0F+Q0G0mx03*cm40CEq0*vm1033l0F+T0G0mym3*dW40C9a0*vy1032Q0F+W0G0HO03*eG404G00*w8101410F",
    "+Z0G0HgW3*f0404G80*wK1016i0F+c0G0HhG3*fm404GC0*wW101440F+f0G0H1G3*gW404R00*wi1016n0F+i0G0HiW3*hG404RC0*wu1016q0F+l0G0HjG3*i0404He0*x4101460F+o0G0H1m3*im404GW0*xG1014X0F+r0G0H2G3*jW404Ge0*xS1014B0F+u0G0H303*kG404Gq0*xe1014E0F+x0G0H3m3*l0404H00*xq1014H0F++0G0H4W3*mW404M40*yC1015Y0F*40G0HOm3*nG404MG0*yO1015b0F*70G0HPW3*oW404MS0*yi1",
    "015e0F*C0G0HQG3*pG404Me0*yu1015h0F*F0G0HR03*qW404Mq0*zC1015k0F*K0G0HRm3*rG404N00*zO1015n0F*N0G0HSW3*sW404NC0*zi1015q0F*S0G0HTG3*u0400A80*+41002Z0F*Y0G00h03*um8002000mG0*+G1002c0F*b0G00fG3*vW408Aa0*+W102K20F*f0G0Xa03*wW408P40*+i1026I0F*i0G0Xam3*xG409Q00*+u102NB0T5U0W7HLm7HPG7HNm81qLW1qMK1qM030T5O0T5b0T5k0T5X0m7HM07HPG7HRm7HOWC1qL",
    "W1qMK1qN01qMC30T5O0T5b0T5n0T5a0m7HM07HPG7HSW7Hkm81qRa1qMK1qRm20T6w0T5b0T6z0m7HkG7HPG7HRW7HlWC1qRe1qMK1qMu1qRy30T6v0T5b0T5l0T700m7HkW7HPG7HRm7K00400441r04100120TG20G00Gm7K0m4004G1r0G100150TG50G00HW7K1W4004S1r0S100180TG80G00IG7K2G4004e1r0e1001B0TGB0G00J07K304004q1r0q1001E0TGE0G00Jm7K3m400501r101001H0TGH0G00KW7K4W4005C1r1C1001K0TGK",
    "0G00LG7K5G4005O1r1O1001N0TGN0G00M07K604005a1r1a1001Q0TGQ0G00OG7K6m400681r1m1001Z0TGT0G00P07K7W4006K1r1y1001c0TGW0G00Pm7K8G4006W1r281001f0TGZ0G00QW7K904006i1r2K1001i0TGc0G00RG7K9m4006u1r2W1001l0TGf0G00S07KAW400741r2i1001o0TGi0G00Sm7KBG4007G1r2u1001r0TGl0G00TW7KC04007S1r341001u0TGo0G00UG7KCm4007e1r3G100110TGr0G00GW7KDW4004C1r3S100",
    "140TGu0G00HG7KEG4004O1r3e100170TGx0G00I07KF04004a1r3q1001A0TG+0G00Im7KFm4004m1r401001D0TH10G00JW7KGW4004y1r4C1001G0TH40G00KG7KHG400581r4O1001J0TH70G00L07KI04005K1r4a1001M0THA0G00Lm7KIm4005W1r4m1001P0THD0G00MW7KJW400641r4y1001Y0THG0G00Om7KKG4006G1r581001b0THJ0G00PW7KL04006S1r5O1001f0THN0G00QW7KM04006i1r5a1001i0THQ0G00RG7KMm4006u1",
    "r5m1001l0THT0G00S07KNW400741r5y1001o0THW0G00Sm7KOG4007G1r681001r0THZ0G00TW7KP04007S1r6K1001u0THc0G00UG7KPm4007e1r6W100110THf0G00GW7KQW4004C1r6i100140THi0G00HG7KRG4004O1r6u100170THl0G00I07KS04004a1r741001A0THo0G00Im7KSm4004m1r7G1001D0THr0G00JW7KTW4004y1r7S1001G0THu0G00KG7KUG400581r7e1001J0THx0G00L07KV04005K1r7q1001M0TH+0G00Lm7KVm",
    "4005W1r801001P0TI10G00MW7KWW400641r8C1001Y0TI40G00Om7KXG4006G1r8O1001b0TI70G00PW7KY04006S1r8a1001e0TIA0G00QG7KYm4006e1r8m1001h0TID0G00R07KZW4006q1r8y1001k0TIG0G00Rm7KaG400701r981001n0TIJ0G00SW7Kb04007C1r9K1001q0TIM0G00TG7Kbm4007O1r9W1001t0TIP0G00U07KcW4007a1r9i1001w0TIS0G00GG7KdW4004C1r9y100140TIY0G00Hm7KfG4004e1rAO1001B0TIf0G00",
    "JW7KgW4004y1rAi1001G0TIi0G00KG7KhW4005C1rAy1001K0TIm0G00LG7KiG4005O1rB81001N0TIp0G00M07Kj04005a1rBK1001Q0TIs0G00OG7Kjm400681rBW1001Z0TIv0G00P07Kkm4006O1rBq1001e0TI+0G00QG7Klm4006e1rC01001h0TJ20G00RG7Kmm4006u1rCK1001m0TJ60G00SG7Knm400781rCW1001p0TJ90G00T07KoW4007K1rCi1001s0TJC0G00Tm7KpG4007W1rCu1001v0TJF0G00UW7Kq0400441rD4100120T",
    "JI0G00Gm7Kqm4004G1rDG100150TJL0G00HW7KrW4004S1rDS100180TJO0G00IG7KsG4004e1rDe1001B0TJR0G00J07Kt04004q1rDq1001E0TJU0G00Jm7Ktm400501rE01001H0TJX0G00KW7KuW4005C1rEC1001K0TJa0G00LG7KvG4005O1rEO1001N0TJd0G00M07Kw04005a1rEa1001Q0TJg0G00OG7Kwm400681rEm1001Z0TJj0G00P07KxW4006K1rEy1001c0TJm0G00Pm7KyG4006W1rF81001f0TJp0G00QW7Kz04006i1rFK1",
    "001i0TJs0G00RG7Kzm4006u1rFW1001l0TJv0G00S07K+W400741rFi1001o0TJy0G00Sm7K*G4007G1rFu1001r0TJ*0G00TW7L004007S1rG41001u0TK20G00UG7L0m4007e1rGG100110TK50G00GW7L1m4004G1rGW100150TK90G00HW7L2W4004S1rGq1001A0TKE0G00Im7L3m4004m1rH01001D0TKH0G00JW7L4W4004y1rHC1001G0TKK0G00KG7L5W4005C1rHS1001K0TKO0G00LG7L6G4005O1rHe1001N0TKR0G00M07L704005",
    "a1rHu1001X0TKV0G00OW7L804006C1rI41001a0TKY0G00PG7L8m4006O1rIG1001d0TKb0G00Q07L9W4006a1rIS1001g0TKe0G00Qm7LAG4006m1rIe1001j0TKh0G00RW7LB04006y1rIq1001m0TKk0G00SG7LBm400781rJ01001p0TKn0G00T07LCW4007K1rJC1001s0TKq0G00Tm7LDG4007W1rJO1001v0TKt0G00UW7LE0400441rJa100120TKx0G00H07LF04004K1rJq100160TK+0G00Hm7LG04004a1rK41001A0TL20G00Im7L",
    "Gm4004m1rKG1001D0TL60G00Jm7LIW4005C1rKi1001K0TLC0G00LG7LJG4005O1rKu1001N0TLF0G00M07LK04005a1rL81001X0TLJ0G00OW7LL04006C1rLK1001a0TLM0G00PG7LLm4006O1rLW1001d0TLP0G00Q07LMW4006a1rLi1001g0TLS0G00Qm7LNG4006m1rLu1001j0TLV0G00RW7LO04006y1rM41001m0TLY0G00SG7LOm400781rMG1001p0TLb0G00T07LPW4007K1rMS1001s0TLe0G00Tm7LQG4007W1rMe1001v0TLh0G",
    "00UW7LR0400441rMq100120TLk0G00Gm7LRm4004G1rN0100150TLn0G00HW7LSW4004S1rNC100180TLq0G00IG7LTG4004e1rNO1001B0TLt0G00J07LU04004q1rNa1001E0TLw0G00Jm7LUm400501rNm1001H0TLz0G00KW7LVW4005C1rNy1001K0TM00G00LG7LWG4005O1rO81001N0TM30G00M07LX04005a1rOK1001Q0TM60G00OG7LXm400681rOW1001Z0TM90G00P07LYW4006K1rOi1001c0TMC0G00Pm7LZG4006W1rOu1001f",
    "0TMF0G00QW7La04006i1rP41001i0TMI0G00RG7Lam4006u1rPG1001l0TML0G00S07LbW400741rPS1001o0TMO0G00Sm7LcG4007G1rPe1001r0TMR0G00TW7Ld04007S1rPq1001u0TMU0G00UG7Ldm4007e1rQ0100110TMX0G00GW7LeW4004C1rQC100140TMa0G00HG7LfG4004O1rQO100170TMd0G00I07Lg04004a1rQa1001A0TMg0G00Im7Lgm4004m1rQm1001D0TMj0G00JW7LhW4004y1rQy1001G0TMm0G00KG7LiG400581rR",
    "81001J0TMp0G00L07Lj04005K1rRK1001M0TMs0G00Lm7Ljm4005W1rRW1001P0TMv0G00MW7LkW400641rRi1001Y0TMy0G00Om7LlG4006G1rRu1001b0TM*0G00PW7Lm04006S1rS41001e0TN20G00QG7Lmm4006e1rSG1001h0TN50G00R07LnW4006q1rSS1001k0TN80G00Rm7LoG400701rSe1001n0TNB0G00SW7Lp04007C1rSq1001q0TNE0G00TG7Lpm4007O1rT01001t0TNH0G00U07LqW4007a1rTC1001w0TNK0G00GG7LrG40",
    "0481rTO100130TNN0G00H07Ls04004K1rTa100160TNQ0G00Hm7Lsm4004W1rTm100190TNT0G00IW7LtW4004i1rTy1001C0TNW0G00JG7LuG4004u1rU81001F0TNZ0G00K07Lv0400541rUK1001I0TNc0G00Km7Lvm4005G1rUW1001L0TNf0G00LW7LwW4005S1rUi1001O0TNi0G00MG7LxG4005e1rUu1001X0TNl0G00OW7Ly04006C1rV41001a0TNo0G00PG7Lym4006O1rVG1001d0TNr0G00Q07LzW4006a1rVS1001g0TNu0G00Qm",
    "7L+G4006m1rVe1001j0TNx0G00RW7L*04006y1rVq1001m0TN+0G00SG7L*m400781rW01001p0TO10G00T07M0W4007K1rWC1001s0TO40G00Tm7M1G4007W1rWO1001v0TO70G00UW7M20400441rWa100120TOA0G00Gm7M2m4004G1rWm100150TOD0G00HW7M3W4004S1rWy100180TOG0G00IG7M4G4004e1rX81001B0TOJ0G00J07M504004q1rXK1001E0TOM0G00Jm7M5m400501rXW1001H0TOP0G00KW7M6W4005C1rXi1001K0TOS",
    "0G00LG7M7G4005O1rXu1001N0TOV0G00M07M804005a1rY41001Q0TOY0G00OG7M8m400681rYG1001Z0TOb0G00P07M9W4006K1rYS1001c0TOe0G00Pm7MAG4006W1rYe1001f0TOh0G00QW7MB04006i1rYq1001i0TOk0G00RG7MBm4006u1rZ01001l0TOn0G00S07MCW400741rZC1001o0TOq0G00Sm7MDG4007G1rZO1001r0TOt0G00TW7ME04007S1rZa1001u0TOw0G00UG7MEm4007e1rZm100110TOz0G00GW7MFW4004C1rZy100",
    "140TP00G00HG7MGG4004O1ra8100170TP30G00I07MH04004a1raK1001A0TP60G00Im7MHm4004m1raW1001D0TP90G00JW7MIW4004y1rai1001G0TPC0G00KG7MJG400581rau1001J0TPF0G00L07MK04005K1rb41001M0TPI0G00Lm7MKm4005W1rbG1001P0TPL0G00MW7MLW400641rbS1001Y0TPO0G00Om7MMG4006G1rbe1001b0TPR0G00PW7MN04006S1rbq1001e0TPU0G00QG7MNm4006e1rc01001h0TPX0G00R07MOW4006q1",
    "rcC1001k0TPa0G00Rm7MPG400701rcO1001n0TPd0G00SW7MQ04007C1rca1001q0TPg0G00TG7MQm4007O1rcm1001t0TPj0G00U07MRW4007a1rcy1001w0TPm0G00GG7MSG400481rd8100130TPp0G00H07MT04004K1rdK100160TPs0G00Hm7MTm4004W1rdW100190TPv0G00IW7MUW4004i1rdi1001C0TPy0G00JG7MVG4004u1rdu1001F0TP*0G00K07MW0400541re41001I0TQ20G00Km7MWm4005G1reG1001L0TQ50G00LW7MXW",
    "4005S1reS1001O0TQ80G00MG7MYG4005e1ree1001X0TQB0G00OW7MZ04006C1req1001a0TQE0G00PG7MZm4006O1rf01001d0TQH0G00Q07MaW4006a1rfC1001g0TQK0G00Qm7MbG4006m1rfO1001j0TQN0G00RW7Mc04006y1rfa1001m0TQQ0G00SG7Mcm400781rfm1001p0TQT0G00T07MdW4007K1rfy1001s0TQW0G00Tm7MeG4007W1rg81001v0TQZ0G00UW7Mg0400v41rga100EI0TQg0G03am7Mgm400vG1rgm100EL0TQj0G03",
    "bW7MhW400vS1rgy100EO0TQm0G03cG7MiG400ve1rh8100ER0TQp0G03d07Mj0400vq1rhK100EU0TQs0G03dm7Mjm400w01rhW100EX0TQv0G03c07MkW400wC1rhi100Ea0TQy0G03fG7MlG400wO1rhu100Ed0TQ*0G03g07Mm0400wa1ri4102870TR20G03iG7Mmm400x81riG100Ep0TR50G03j07MnW400xK1riS100Es0TR80G03jm7MoG400xW1rie100Ev0TRB0G03kW7Mp0400xi1riq100Ey0TRE0G03lG7Mpm400xu1rj0100E*0T",
    "RH0G03m07MqW400y41rjC100F20TRK0G03mm7MrG400yG1rjO100F50TRN0G03nW7Ms0400yS1rja100F80TRQ0G03oG7Msm408W81rjm100Er0TRT0G03k07MtW400xe1rjy100F60TRW0G03mG7MuG400y01rk8100EH0TRZ0G03aW7Mv0400vC1rkK100EK0TRc0G03bG7Mvm400vO1rkW100EN0TRf0G03c07MwW400va1rki100EQ0TRi0G03cm7MxG400vm1rku100ET0TRl0G03dW7My0400vy1rl4100EW0TRo0G03eG7Mym400vW1rlG1",
    "00EZ0TRr0G03f07MzW400wK1rlS100Ec0TRu0G03fm7M+G400wW1rle100Ef0TRx0G0Y1m7M*0400x41rlq100Eo0TR+0G03im7M*m400xG1rm0100Er0TS10G03jW7N0W400xS1rmC100Eu0TS40G03kG7N1G400xe1rmO100Ex0TS70G03l07N20400xq1rma100E+0TSA0G03lm7N2m400y01rmm100F10TSD0G03mW7N3W400yC1rmy100F40TSG0G03nG7N4G400yO1rn8100F70TSJ0G03o07N50400ya1rnK102820TSM0G03jG7N5m400x",
    "W1rnW100Ew0TSP0G03nW7N6W400y41rni100F00TSS0G03aG7N7G400v81rnu100EJ0TSV0G03b07N80400vK1ro4100EM0TSY0G03bm7N8m400vW1roG100EP0TSb0G03cW7N9W400vi1roS100ES0TSe0G03dG7NAG400vu1roe100EV0TSh0G03e07NB0400w41roq100EO0TSk0G03em7NBm400wG1rp0100Eb0TSn0G03fW7NCW400wS1rpC100Ee0TSq0G03gG7NDG408WS1rpO100En0TSt0G03iW7NE0400xC1rpa100Eq0TSw0G03jG7N",
    "Em400xO1rpm100Et0TSz0G03k07NFW400xa1rpy100Ew0TT00G03km7NGG400xm1rq8100Ez0TT30G03lW7NH0400xy1rqK100F00TT60G03mG7NHm400y81rqW100F30TT90G03n07NIW400yK1rqi100F60TTC0G03nm7NJG400yW1rqu100F90TTF0G0Y0W7NK0400xK1rr4100Eu0TTI0G03kW7NKm400yO1rrG100F10TTL0G03m07NLW400v41rrS100EI0TTO0G03am7NMG400vG1rre100EL0TTR0G03bW7NN0400vS1rrq100EO0TTU0G",
    "03cG7NNm400ve1rs0100ER0TTX0G03d07NOW400vq1rsC100EU0TTa0G03dm7NPG400w01rsO100EX0TTd0G03c07NQ0400wC1rsa100Ea0TTg0G03fG7NQm400wO1rsm100Ed0TTj0G03g07NRW400wa1rsy102870TTm0G03iG7NSG400x81rt8100Ep0TTp0G03j07NT0400xK1rtK100Es0TTs0G03jm7NTm400xW1rtW100Ev0TTv0G03kW7NUW400xi1rti100Ey0TTy0G03lG7NVG400xu1rtu100E*0TT*0G03m07NW0400y41ru4100F2",
    "0TU20G03mm7NWm400yG1ruG100F50TU50G03nW7NXW400yS1ruS100F80TU80G03oG7NYG408W81rue100Er0TUB0G03k07NZ0400xe1ruq100F60TUE0G03mG7NZm400y01rv0100EH0TUH0G03aW7NaW400vC1rvC100EK0TUK0G03bG7NbG400vO1rvO100EN0TUN0G03c07Nc0400va1rva100EQ0TUQ0G03cm7Ncm400vm1rvm100ET0TUT0G03dW7NdW400vy1rvy100EW0TUW0G03eG7NeG400vW1rw8100EZ0TUZ0G03f07Nf0400wK1rw",
    "K100Ec0TUc0G03fm7Nfm400wW1rwW100Ef0TUf0G0Y1m7NgW400x41rwi100Eo0TUi0G03im7NhG400xG1rwu100Er0TUl0G03jW7Ni0400xS1rx4100Eu0TUo0G03kG7Nim400xe1rxG100Ex0TUr0G03l07NjW400xq1rxS100E+0TUu0G03lm7NkG400y01rxe100F10TUx0G03mW7Nl0400yC1rxq100F40TU+0G03nG7Nlm400yO1ry0100F70TV10G03o07NmW400ya1ryC102820TV40G03jG7NnG400xW1ryO100Ew0TV70G03nW7No040",
    "0y41rya100F00TVE0G00C07Npm400341rz01000o0TVH0G00Cm7NqW4003G1rzC1000r0TVK0G00DW7NrG4003S1rzO1000u0TVN0G00EG7Ns0400301rza1000n0TVQ0G00CW7Nsm4003C1rzm1000q0TVT0G00DG7NtW4003O1rzy1000t0TVW0G00E07NuG4003a1r+81000m0TVZ0G00CG7Nv0400381r+K1000p0TVc0G00D07Nvm4003K1r+W1000s0TVf0G00Dm7NwW4003W1r+i1000v0TVi0G00C07NxG400341r+u1000o0TVl0G00Cm",
    "7Ny04003G1r*41000r0TVo0G00DW7Nym4003S1r*G1000u0TVr0G00EG7NzW400301r*S1000n0TVu0G00CW7N+G4003C1r*e1000q0TVx0G00DG7N*04003O1r*q1000t0TV+0G00E07N*m4003a2+00104uz0lW10G1EE0Bu0W40Ja42+0C10W4Y0lW40G1FO0Bu1G40Jwu2+0O104+x0lW70G1G0WBu2040K7e2+0a1052P0lWA0G1GvmBu2m40KCy2+0m103IU0lWD0G86EWBu3W40KKq2+0y1055K0lWG0G1HP0Bu4G40KNS2+1810WKS0lWJ",
    "0G0qkGBu5040KMS2+1K1056D0lWM0G85ImBu5m40KPS2+1W1056a0lWP0G1Ep0Bu6W40KQm2+1i1056r0lWS0GAHtmBu7G40KVK2+1u105830lWV0G0qtmBu8040KZi2+24105960lWY0G1ISWBu8m40KdS2+2G103KL0lWb0G1InmBu9W40Kia2+2S105Ba0lWe0G1I+WBuAG40KmK2+2e105C60lWh0G1J5mBuB040Kqa2+2q105DH0lWk0G1JMWBuBm40KtC2+30105Dz0lWn0G1JVmBuCW40Kty2+3C105D*0lWq0G8AB0BuDG40S702+3O105",
    "FA0lWt0G1JtmBuE0422sC2+3a105Fh0lWw0G1JyGBuEm40L0O2+3m105IU0lWz0G1KE0BuFW40L4W2+3y105He0lX00G1KeWBuGG40LFO2+48105KG0lX30G1LKmBuH040LMC2+4K105M40lX60G1LX0BuHm40LPa2+4W105Mh0lX90G1LimBuIW40LS82+4i105SM0lXC0G1M1WBuJG40LnS2+4u105PH0lXF0G1MT0BuK040KWS2+54105Zk0lXI0G1NpWBuKm40L*G2+5G105WD0lXL0G1NYmBuLW40M382+5S105Wn0lXO0G1Oh0BuMG425EG2",
    "+5e105Zo0lXR0G1OzmBuN040MGO2+5q105aQ0lXU0G1P8WBuNm40MM82+6010XQe0lXX0G8MwWBuOW40MUm2+6C105eR0lXa0G1Q9mBuPG40MTW2+6O105fc0lXd0G0sxWBuQ0424se2+6a105i80lXg0G1RFWBuQm40Mpu2+6m10Xd80lXj0G1RmmBuRW40MzW2+6y105ld0lXm0G1RymBuSG426nW2+78105l*0lXp0G1S1WBuT040NpC2+7K105mY0lXs0G0tWGBuTm40N602+7W105nk0lXv0G1Sm0BuUW40N8q2+7i10Xta0lXy0G1TGmBuVG",
    "427UO2+7u105rk0lX*0G1TQmBuW040NNm2+84105tX0lY20G1TuWBuWm40E2y2+8G105tz0lY50G1UA0BuXW40NZq2+8S105vf0lY80G0uOWBuYG428OC2+8e103Xy0lYB0G1Ui0BuZ040NhC2+8q105ws0lYE0G1UoWBuZm42ev82+90105x+0lYH0G8ZCGBuaW428p42+9C108810lYK0G1V8WBubG40No82+9O103Z70lYN0G8ok0Buc042OTe2+9a105zY0lYQ0G1VQmBucm40EEC2+9m105+Q0lYT0G1VpGBudW40NzS2+9y105*v0lYW0G1W",
    "WGBueG40EJe2+A8103aS0lYZ0G1Wb0Buf0429jG2+AK106370lYc0G1XI0Bufm40OKm2+AW1065E0lYf0G1XJ0BugW40ONe2+Ai1066E0lYi0G1XiWBuhG40OQG2+Au1066l0lYl0G1XtWBui040OV82+B41067s0lYo0G1Y40Buim40OXi2+BG1069T0lYr0G1YiGBujW40OjG2+BS106DG0lYu0G8h30BukG40Opq2+Be106By0lYx0G1ZQ0Bul040OuC2+Bq106Fa0lY+0G8hyGBulm40P282+C0106F50lZ10G1ZgGBumW40EYu2+CC106Hf0l",
    "Z40G1aVWBunG40P9q2+CO106Ht0lZ70G0wR0Buo040PKy2+Ca106Li0lZA0G8m2WBuom40PUC2+Cm106Ru0lZD0G1cIGBupW40Ena2+Cy106QH0lZG0G0x20BuqG40EkG2+D81056I0lZJ0G1HbGBur040Pm02+DK106QS0lZM0G20hGBurm40Gza2+DW106SN0lZP0G1d6mBusW40Po42+Di106TU0lZS0G1dKmButG42CyC2+Du103j90lZV0G1d+WBuu040PuK2+E4106XI0lZY0G1eXGBuum42D6q2+EG106YE0lZb0G1e7mBuvW40QHG2+ES1",
    "03kT0lZe0G1fGWBuwG40QQC2+Ee106dg0lZh0G1gg0Bux042DgC2+Eq106hR0lZk0G0y60Buxm40Qo42+F010ZYd0lZn0G1hL0BuyW40F4u2+FC106jo0lZq0G1hdmBuzG40Qxe2+FO106kx0lZt0G8wZGBu+0427Gi2+Fa10Zhw0lZw0G1iJWBu+m42FBm2+Fm106o*0lZz0G1ipGBu*W40R6S2+Fy106qM0la00G1jFWBv0G40RNS2+G8106r10la30G1jQGBv1040RNW2+GK106s50la60G8z7WBv1m40RJG2+GW106ul0la90G1kRWBv2W40FJ",
    "C2+Gi106xB0laC0G1knmBv3G42Fj42+Gu106tv0laF0G1lRWBv4042Fru2+H410Z+E0laI0G1lnWBv4m40S3a2+HG1070U0laL0G1m6mBv5W40FPO2+HS1071A0laO0G1mVGBv6G40S7S2+He1072j0laR0G859GBv7040SKK2+Hq10a9Z0laU0G1nd0Bv7m40Gwi2+I01078e0laX0G1oDGBv8W40Sb02+IC10aO80laa0G1oW0Bv9G40SfK2+IO10aSr0lad0G9850BvA040Ste2+Ia107EB0lag0G0+h0BvAm40SwK2+Im103wu0laj0G0+k0Bv",
    "BW40T4S2+Iy107HS0lam0G1qSGBvCG40T8K2+J8107JA0lap0G0*6mBvD040TIG2+JK10ams0las0G1rFWBvDm42J982+JW107Lm0lav0G8XdmBvEW40TX02+Ji10a+X0lay0G9Fk0BvFG42K4G2+Ju103*y0la*0G1020BvG040TlG2+K410b3p0lb20G9GyWBvGm42KHa2+KG10b4p0lb50G1t7WBvHW40Tny2+KS107SV0lb80G1tIWBvIG40G3a2+Ke107UB0lbB0G10HWBvJ040G9O2+Kq10bGT0lbE0G1uJWBvJm40U8m2+L0107ZC0lbH0G",
    "10umBvKW42LYO2+LC107bM0lbK0G9McWBvLG42LiK2+LO107cF0lbN0G1vwmBvM040GIy2+La107f00lbQ0G1wIWBvMm40Uay2+Lm10bby0lbT0G9QfmBvNW42MgS2+Ly107gk0lbW0G120WBvOG42Mwi2+M8107l60lbZ0G1xoGBvP040GYS2+MK10bo00lbc0G1yqWBvPm40Gg02+MW107pe0lbf0G1yumBvQW40VG02+Mi10b+60lbi0G1zOmBvRG40Gm42+Mu107t70lbl0G1+0WBvS040VaK2+N4104Cq0lbo0G9YA0BvSm42OaS2+NG104DP",
    "0lbr0G9YsGBvTW40Vte2+NS10cC+0lbu0G1*bGBvUG40V*e2+Ne108050lbx0G9asWBvV042PIC2+Nq1081W0lb+0G9bg0BvVm40W702+O010ZDV0lc10G13rGBvWW40WB82+OC108430lc40G142mBvXG40WJu2+OO105gr0lc70G9dfmBvY042PxK2+Oa10ZEJ0lcA0G8pd0BvYm40WW42+Om108840lcD0G2FdWBvZW40H6i2+Oy108AH0lcG0G22YmBvaG40Wfq2+P8105Ap0lcJ0G22iGBvb040WhC2+PK108Az0lcM0G22vWBvbm42Qpm2+P",
    "W108Bb0lcP0G237GBvcW40WsC2+Pi108Ej0lcS0G238mBvdG40Wxq2+Pu108Fd0lcV0G24LmBve040WrC2+Q4108FA0lcY0G23p0Bvem40Wzm2+QG10cms0lcb0G9jQmBvfW42RDK2+QS104Kh0lce0G24yGBvgG40XFC2+Qe108KM0lch0G9poWBvh040XMG2+Qq10cyi0lck0G15NGBvhm40HM42+R010c+n0lcn0G9mqWBviW40HMi2+RC108PG0lcq0G26N0BvjG40XcS2+RO108Pf0lct0G26gGBvk040XeW2+Ra108SE0lcw0G26uWBvkm40",
    "Xta2+Rm108Se0lcz0G27QmBvlW40XuO2+Ry104rN0ld00G27uGBvmG40Y042+S8104Nv0ld30G28O0Bvn040Y6C2+SK10dPd0ld60G28rmBvnm40YDu2+SW104Or0ld90G28+WBvoW40DBi2+Si10dYk0ldC0G9vPWBvpG40Hhu2+Su104R70ldF0G2Ae0Bvq040Ykq2+T4108kA0ldI0G2CLGBvqm42VAW2+TG108oh0ldL0G2CmGBvrW40ZHi2+TS108rt0ldO0G9*BmBvsG4220G2+Te108tB0ldR0G2Dl0Bvt040ZV02+Tq10WZU0ldU0G2Er0",
    "Bvtm40ZpW2+U010eNI0ldX0GA5xGBvuW40a9G2+UC1093n0lda0G2H4GBvvG42Xou2+UO1094R0ldd0G2IE0Bvw040ajS2+Ua109BO0ldg0G2IV0Bvwm40a*a2+Um109GL0ldj0GAB+WBvxW40bOi2+Uy104cL0ldm0G2LjmBvyG42ZNS2+V8104dc0ldp0G2MmmBvz040NR82+VK109SZ0lds0GAHHGBvzm42aXe2+VW104fk0ldv0G1ATWBv+W40b+02+Vi10fGA0ldy0G1AiWBv*G42b9O2+Vu109WB0ld*0G2O2mBw0040c2a2+W410fMs0le2",
    "0G2OuWBw0m40IpC2+WG109af0le50G2PfmBw1W40cS82+WS109d+0le80G1BpWBw2G42cp02+We109iI0leB0G2SG0Bw3040dFq2+Wq104pE0leE0G1CxGBw3m40dMS2+X010g3E0leH0G1C+0Bw4W42eGK2+XC10g8E0leK0GAYaGBw5G40dhi2+XO104rM0leN0G2U+GBw6040dlu2+Xa109y50leQ0G2V3mBw6m40dnO2+Xm109yx0leT0GAc00"]

/-- Runs of code points of one combining class other than zero: first and last code point
and the class, six digits each. -/
def combiningClassData : String :=
  String.join [
    "00C000CK003c00CL00CL003e00CM00CP003S00CQ00CQ003e00CR00CR003O00CS00CW003S00CX00CY003A00CZ00Cc003S00Cd00Ce003A00Cf00Cp003S00Cq00Cu000100Cv00Cy003S00Cz00D4003c00D500D5003m00D600D6003c00D700D9003S00DA00DC003c00DD00DE003S00DG00DI003c00DJ00DM003S00DN00DN003c00DO00DO003e00DP00DQ003S00DR00DR003c00DS00DS003f00DT00DU003g00DV00DV003f00DW00",
    "DX003g00DY00DY003f00DZ00Dl003c00I300I7003c00MH00MH003S00MI00ML003c00MM00MM003S00MN00MP003c00MQ00MQ003U00MR00MR003S00MS00MX003c00MY00Md003S00Me00Mf003c00Mg00Mg003S00Mh00Mi003c00Mj00Mj003U00Mk00Mk003a00Ml00Ml003c00Mm00Mm000A00Mn00Mn000B00Mo00Mo000C00Mp00Mp000D00Mq00Mq000E00Mr00Mr000F00Ms00Ms000G00Mt00Mt000H00Mu00Mu000I00Mv00Mw000J",
    "00Mx00Mx000K00My00My000L00Mz00Mz000M00M*00M*000N00N100N1000O00N200N2000P00N400N4003c00N500N5003S00N700N7000I00OG00ON003c00OO00OO000U00OP00OP000V00OQ00OQ000W00PB00PB000R00PC00PC000S00PD00PD000T00PE00PE000U00PF00PF000V00PG00PG000W00PH00PH000X00PI00PI000Y00PJ00PK003c00PL00PM003S00PN00PR003c00PS00PS003S00PT00PU003c00PV00PV003S00Pm00",
    "Pm000Z00RM00RS003c00RV00RY003c00RZ00RZ003S00Ra00Ra003c00Rd00Re003c00Rg00Rg003S00Rh00Ri003c00Rj00Rj003S00SH00SH000a00Sm00Sm003c00Sn00Sn003S00So00Sp003c00Sq00Sq003S00Sr00Ss003c00St00Sv003S00Sw00Sw003c00Sx00Sy003S00Sz00Sz003c00S+00S+003S00S*00T1003c00T200T2003S00T300T3003c00T400T4003S00T500T5003c00T600T6003S00T700T7003c00T800T8003S",
    "00T900TA003c00Vh00Vn003c00Vo00Vo003S00Vp00Vp003c00Vz00Vz003S00WM00WP003c00WR00WZ003c00Wb00Wd003c00Wf00Wj003c00XP00XR003S00YO00YO003c00YP00YR003S00YS00YV003c00ZA00ZE003c00ZF00ZJ003S00ZK00ZX003c00ZZ00ZZ003S00Za00Zb003c00Zc00Zc003S00Zd00Ze003c00Zf00Zf003S00Zg00Zi003c00Zj00Zl003S00Zm00Zm000R00Zn00Zn000S00Zo00Zo000T00Zp00Zr003c00Zs00",
    "Zs003S00Zt00Zu003c00Zv00Zw003S00Zx00Z*003c00ay00ay000700bD00bD000900bH00bH003c00bI00bI003S00bJ00bK003c00cy00cy000700dD00dD000900d+00d+003c00ey00ey000700fD00fD000900gy00gy000700hD00hD000900iy00iy000700jD00jD000900lD00lD000900my00my000700nD00nD000900nL00nL001K00nM00nM001R00oy00oy000700pD00pD000900qx00qy000900rD00rD000900tA00tA0009",
    "00uu00uv001d00uw00uw000900v800vB001h00wu00wv001s00ww00ww000900x800xB001w00yO00yP003S00yr00yr003S00yt00yt003S00yv00yv003O00zn00zn002100zo00zo002200zq00zq002400zw00zz002200+000+0002200+200+3003c00+400+4000900+600+7003c00*600*6003S010t010t0007010v010w0009012D012D003S01DT01DV003c01SK01SL000901Sq01Sq000901VI01VI000901VT01VT003c01Yf01",
    "Yf003a01av01av003U01aw01aw003c01ax01ax003S01eN01eN003c01eO01eO003S01fW01fW000901fr01fy003c01f*01f*003S01gm01gq003c01gr01gw003S01gx01gy003c01gz01gz003S01g*01h0003S01h101h2003c01h301h4003S01h501h9003c01hA01hA003S01hB01hE003c01iq01iq000701j401j4000901jh01jh003c01ji01ji003S01jj01jp003c01kg01kh000901lc01lc000701lo01lp000901mt01mt0007",
    "01pG01pI003c01pK01pK000101pL01pP003S01pQ01pR003c01pS01pV003S01pW01pW003c01pY01pe000101pj01pj003S01pq01pq003c01pu01pv003c01t001t1003c01t201t2003S01t301t9003c01tA01tA003S01tB01tC003c01tD01tD003g01tE01tE003M01tF01tF003S01tG01tG003A01tH01tr003c01ts01ts003e01tt01tu003a01tv01tv003S01tw01tw003Q01tx01tx003c01ty01ty003f01tz01tz003S01t+01",
    "t+003c01t*01t*003S023G023H003c023I023J0001023K023N003c023O023Q0001023R023S003c023X023X003c023b023c0001023d023d003c023e023e003S023f023f003c023g023h0001023i023l003S023m023m003c02pl02pn003c02r*02r*000902tW02t*003c030g030g003Q030h030h003a030i030i003e030j030j003U030k030l003W032P032Q00080APl0APl003c0APq0APz003c0AQU0AQV003c0ARm0ARn003c",
    "0AW60AW600090AWi0AWi00090AZ40AZ400090AZW0AZn003c0Aah0Aaj003S0AbJ0AbJ00090Acp0Acp00070Ad00Ad000090Agm0Agm003c0Ago0Agp003c0Agq0Agq003S0Agt0Agu003c0Ag+0Ag*003c0Ah10Ah1003c0Ahs0Ahs00090Alj0Alj00090FiU0FiU000Q0FuW0Fuc003c0Fud0Fuj003S0Fuk0Ful003c0G7z0G7z003S0GBW0GBW003S0GDs0GDw003c0GeD0GeD003S0GeF0GeF003c0Geu0Geu003c0Gev0Gev00010Gew0G",
    "ew003S0Ge*0Ge*00090Ghb0Ghb003c0Ghc0Ghc003S0Gqa0Gqd003c0Gwh0Gwi003c0Gz60Gz7003S0Gz80GzA003c0GzB0GzB003S0GzC0GzC003c0GzD0GzG003S0G+20G+2003c0G+30G+3003S0G+40G+4003c0G+50G+5003S0H160H1600090H1m0H1m00090H1*0H1*00090H2v0H2v00090H2w0H2w00070H400H42003c0H4p0H4q00090H5p0H5p00070H700H7000090H7A0H7A00070H8r0H8r00090H8s0H8s00070HBf0HBf0007",
    "0HBg0HBg00090HCx0HCy00070HDD0HDD00090HDc0HDi003c0HDm0HDq003c0HH20HH200090HH60HH600070HHU0HHU003c0HJ20HJ200090HJ30HJ300070HM*0HM*00090HN00HN000070HO*0HO*00090HQs0HQs00090HQt0HQt00070HSh0HSh00090HWv0HWv00090HWw0HWw00070Haz0Ha+00090Hb30Hb300070HdW0HdW00090Heq0Heq00090Hf70Hf700090HgP0HgP00090Hm*0Hm*00090Hr20Hr200070Hr40Hr500090HsN0H",
    "sN00090Mhm0Mhq00010Mim0Mis003c0M*m0M*n00060RoU0RoU00010T5b0T5c003O0T5d0T5f00010T5j0T5j003Y0T5k0T5o003O0T5x0T62003S0T650T69003c0T6A0T6B003S0T6g0T6j003c0T920T94003c0U000U06003c0U080U0O003c0U0R0U0X003c0U0Z0U0a003c0U0c0U0g003c0U4m0U4s003c0UAk0UAk003c0UBi0UBl003c0UZG0UZM003S0Ub40Ub9003c0UbA0UbA0007"]

/-- Canonical compositions, sorted by their two parts: the first and second code point and the
code point they compose into, six digits each. -/
def compositionData : String :=
  String.join [
    "000y00Cu029k000z00Cu029W000+00Cu029l001100C00030001100C10031001100C20032001100C30033001100C40040001100C60042001100C7008c001100C80034001100C901wY001100CA0035001100CC007D001100CF0080001100CH0082001100CZ01wW001100Cb01u0001100Ce0044001200C701u2001200CZ01u4001200Cn01u6001300C10046001300C20048001300C7004A001300CC004C001300Cd0037001400",
    "C701uA001400CC004E001400CZ01uC001400Cd01uG001400Cj01uI001400Cn01uE001500C00038001500C10039001500C2003A001500C301wy001500C4004I001500C6004K001500C7004M001500C8003B001500C901ww001500CC004Q001500CF0084001500CH0086001500CZ01wu001500Cd008e001500Ce004O001500Cj01uO001500Cm01uQ001600C701uU001700C1007q001700C2004S001700C401uW001700C6004U",
    "001700C7004W001700CC007c001700Cd004Y001800C2004a001800C701uY001800C801uc001800CC008U001800CZ01ua001800Cd01ue001800Ck01ug001900C0003C001900C1003D001900C2003E001900C3004e001900C4004g001900C6004i001900C7004m001900C8003F001900C901x8001900CC007F001900CF0088001900CH008A001900CZ01xA001900Ce004k001900Cm01ui001A00C2004q001B00C101um001B00",
    "CC007e001B00CZ01uo001B00Cd004s001B00Cn01uq001C00C1004v001C00CC004z001C00CZ01us001C00Cd004x001C00Cj01uy001C00Cn01uw001D00C101u+001D00C701v0001D00CZ01v2001E00C0007u001E00C10053001E00C3003H001E00C701v4001E00CC0057001E00CZ01v6001E00Cd0055001E00Cj01vA001E00Cn01v8001F00C0003I001F00C1003J001F00C2003K001F00C3003L001F00C4005C001F00C6005E",
    "001F00C7008k001F00C8003M001F00C901xE001F00CB005G001F00CC007H001F00CF008C001F00CH008E001F00CR006W001F00CZ01xC001F00Ce007g001G00C101vK001G00C701vM001I00C1005K001I00C701vO001I00CC005O001I00CF008G001I00CH008I001I00CZ01vQ001I00Cd005M001I00Cn01vU001J00C1005Q001J00C2005S001J00C701vW001J00CC005W001J00CZ01vY001J00Cc008O001J00Cd005U001K00",
    "C701vg001K00CC005a001K00CZ01vi001K00Cc008Q001K00Cd005Y001K00Cj01vm001K00Cn01vk001L00C0003P001L00C1003Q001L00C2003R001L00C3005e001L00C4005g001L00C6005i001L00C8003S001L00C901xc001L00CA005k001L00CB005m001L00CC007J001L00CF008K001L00CH008M001L00CR006l001L00CZ01xa001L00Ca01vo001L00Ce005o001L00Cj01vs001L00Cm01vq001M00C301vy001M00CZ01v+",
    "001N00C001w0001N00C101w2001N00C2005q001N00C701w6001N00C801w4001N00CZ01w8001O00C701wA001O00C801wC001P00C001xo001P00C1003T001P00C2005s001P00C301xu001P00C4008o001P00C701wE001P00C8005u001P00C901xs001P00CZ01xq001Q00C1005v001Q00C201wG001Q00C7005x001Q00CC005z001Q00CZ01wI001Q00Cn01wK001X00C0003W001X00C1003X001X00C2003Y001X00C3003Z001X00",
    "C40041001X00C60043001X00C7008d001X00C8003a001X00C901wZ001X00CA003b001X00CC007E001X00CF0081001X00CH0083001X00CZ01wX001X00Cb01u1001X00Ce0045001Y00C701u3001Y00CZ01u5001Y00Cn01u7001Z00C10047001Z00C20049001Z00C7004B001Z00CC004D001Z00Cd003d001a00C701uB001a00CC004F001a00CZ01uD001a00Cd01uH001a00Cj01uJ001a00Cn01uF001b00C0003e001b00C1003f",
    "001b00C2003g001b00C301wz001b00C4004J001b00C6004L001b00C7004N001b00C8003h001b00C901wx001b00CC004R001b00CF0085001b00CH0087001b00CZ01wv001b00Cd008f001b00Ce004P001b00Cj01uP001b00Cm01uR001c00C701uV001d00C1007r001d00C2004T001d00C401uX001d00C6004V001d00C7004X001d00CC007d001d00Cd004Z001e00C2004b001e00C701uZ001e00C801ud001e00CC008V001e00",
    "CZ01ub001e00Cd01uf001e00Ck01uh001e00Cn01wM001f00C0003i001f00C1003j001f00C2003k001f00C3004f001f00C4004h001f00C6004j001f00C8003l001f00C901x9001f00CC007G001f00CF0089001f00CH008B001f00CZ01xB001f00Ce004l001f00Cm01uj001g00C2004r001g00CC007m001h00C101un001h00CC007f001h00CZ01up001h00Cd004t001h00Cn01ur001i00C1004w001i00CC004+001i00CZ01ut",
    "001i00Cd004y001i00Cj01uz001i00Cn01ux001j00C101u*001j00C701v1001j00CZ01v3001k00C0007v001k00C10054001k00C3003n001k00C701v5001k00CC0058001k00CZ01v7001k00Cd0056001k00Cj01vB001k00Cn01v9001l00C0003o001l00C1003p001l00C2003q001l00C3003r001l00C4005D001l00C6005F001l00C7008l001l00C8003s001l00C901xF001l00CB005H001l00CC007I001l00CF008D001l00",
    "CH008F001l00CR006X001l00CZ01xD001l00Ce007h001m00C101vL001m00C701vN001o00C1005L001o00C701vP001o00CC005P001o00CF008H001o00CH008J001o00CZ01vR001o00Cd005N001o00Cn01vV001p00C1005R001p00C2005T001p00C701vX001p00CC005X001p00CZ01vZ001p00Cc008P001p00Cd005V001q00C701vh001q00C801wN001q00CC005b001q00CZ01vj001q00Cc008R001q00Cd005Z001q00Cj01vn",
    "001q00Cn01vl001r00C0003v001r00C1003w001r00C2003x001r00C3005f001r00C4005h001r00C6005j001r00C8003y001r00C901xd001r00CA005l001r00CB005n001r00CC007K001r00CF008L001r00CH008N001r00CR006m001r00CZ01xb001r00Ca01vp001r00Ce005p001r00Cj01vt001r00Cm01vr001s00C301vz001s00CZ01v*001t00C001w1001t00C101w3001t00C2005r001t00C701w7001t00C801w5001t00",
    "CA01wO001t00CZ01w9001u00C701wB001u00C801wD001v00C001xp001v00C1003z001v00C2005t001v00C301xv001v00C4008p001v00C701wF001v00C8003*001v00C901xt001v00CA01wP001v00CZ01xr001w00C1005w001w00C201wH001w00C7005y001w00CC005+001w00CZ01wJ001w00Cn01wL002e00C001*j002e00C100E5002e00D201*1003200C001wc003200C101wa003200C301wg003200C901we003400C4007U",
    "003500C1007w003600C1007y003600C4007Y003700C101u8003A00C001x0003A00C101w+003A00C301x4003A00C901x2003F00C101uk003K00C001xI003K00C101xG003K00C301xM003K00C901xK003L00C101vC003L00C4008i003L00C801vE003M00C4008g003O00C1007+003S00C0007R003S00C1007N003S00C4007L003S00CC007P003Y00C001wd003Y00C101wb003Y00C301wh003Y00C901wf003a00C4007V003b00",
    "C1007x003c00C1007z003c00C4007Z003d00C101u9003g00C001x1003g00C101w*003g00C301x5003g00C901x3003l00C101ul003q00C001xJ003q00C101xH003q00C301xN003q00C901xL003r00C101vD003r00C4008j003r00C801vF003s00C4008h003u00C1007*003y00C0007S003y00C1007O003y00C4007M003y00CC007Q004200C001wm004200C101wk004200C301wq004200C901wo004300C001wn004300C101wl",
    "004300C301wr004300C901wp004I00C001uK004I00C101uM004J00C001uL004J00C101uN005C00C001vG005C00C101vI005D00C001vH005D00C101vJ005Q00C701va005R00C701vb005W00C701vc005X00C701vd005e00C101vu005f00C101vv005g00C801vw005h00C801vx005*00C701wR006W00C001xS006W00C101xQ006W00C301xW006W00C901xU006W00CZ01xY006X00C001xT006X00C101xR006X00C301xX006X00",
    "C901xV006X00CZ01xZ006l00C001xg006l00C101xe006l00C301xk006l00C901xi006l00CZ01xm006m00C001xh006m00C101xf006m00C301xl006m00C901xj006m00CZ01xn006t00CC007k007g00C4007i007h00C4007j008c00C4007W008d00C4007X008e00C601uS008f00C601uT008k00C4008m008l00C4008n00AI00CC007l00EH00C001+w00EH00C100E600EH00C401+v00EH00C601+u00EH00CJ01y800EH00CK01y9",
    "00EH00D501+y00EL00C001*800EL00C100E800EL00CJ01yO00EL00CK01yP00EN00C001*A00EN00C100E900EN00CJ01ye00EN00CK01yf00EN00D501*C00EP00C001*Q00EP00C100EA00EP00C401*P00EP00C601*O00EP00C800Eg00EP00CJ01yu00EP00CK01yv00EV00C001*u00EV00C100EC00EV00CJ01z800EV00CK01z900EX00CK01*i00Eb00C001*g00Eb00C100EE00Eb00C401*f00Eb00C601*e00Eb00C800Eh00Eb00",
    "CK01zP00Ef00C001*w00Ef00C100EF00Ef00CJ01ze00Ef00CK01zf00Ef00D501*y00Ei00D501+q00Ek00D501*400En00C001zm00En00C100Ei00En00C401+n00En00C601+m00En00CJ01y000En00CK01y100En00D201+s00En00D501+p00Er00C001zo00Er00C100Ej00Er00CJ01yG00Er00CK01yH00Et00C001zq00Et00C100Ek00Et00CJ01yW00Et00CK01yX00Et00D201*600Et00D501*300Ev00C001zs00Ev00C100El",
    "00Ev00C401*H00Ev00C601*G00Ev00C800FA00Ev00CJ01ym00Ev00CK01yn00Ev00D201*M00E*00C001zu00E*00C100FC00E*00CJ01z000E*00CK01z100F100CJ01*a00F100CK01*b00F500C001zw00F500C100FD00F500C401*X00F500C601*W00F500C800FB00F500CJ01zG00F500CK01zH00F500D201*c00F900C001zy00F900C100FE00F900CJ01zW00F900CK01zX00F900D201*s00F900D501*p00FA00C001*I00FA00",
    "C100EG00FA00D201*N00FB00C001*Y00FB00C100Em00FB00D201*d00FE00D501*q00FI00C100FJ00FI00C800FK00G600C800G700GG00C600JG00GG00C800JI00GJ00C100G300GL00C000G000GL00C600JM00GL00C800G100GM00C600J100GM00C800JS00GN00C800JU00GO00C000GD00GO00C400JY00GO00C600GP00GO00C800Ja00GQ00C100GC00GU00C800Jc00GZ00C400Jk00GZ00C600GE00GZ00C800Jm00GZ00CB00Jo",
    "00Gd00C800Jq00Gh00C800Ju00Gj00C800Ji00Gm00C600JH00Gm00C800JJ00Gp00C100HJ00Gr00C000HG00Gr00C600JN00Gr00C800HH00Gs00C600J200Gs00C800JT00Gt00C800JV00Gu00C000HT00Gu00C400JZ00Gu00C600Gv00Gu00C800Jb00Gw00C100HS00G+00C800Jd00H300C400Jl00H300C600HU00H300C800Jn00H300CB00Jp00H700C800Jr00HB00C800Jv00HD00C800Jj00HM00C800HN00Hq00CF00Hs00Hr00",
    "CF00Ht00JO00C800JQ00JP00C800JR00Je00C800Jg00Jf00C800Jh00Od00PJ00OY00Od00PK00OZ00Od00PL00Ob00P800PK00Oa00PA00PK00Oc00R100PK00R200RI00PK00RJ00RL00PK00R000ae00ay00af00am00ay00an00ap00ay00aq00d700c+00dB00d700dN00dC00j700i+00jB00j700jM00j800j700jN00jC00kI00lN00kK00l600k+00lA00l600lN00lC00l700k+00lB00n600nM00n800o*00pL00p000p600p200pA",
    "00p600pL00p700p600pM00p800pA00pL00pB00r600q+00rA00r600rN00rC00r700q+00rB00tP00tA00tQ00tP00tF00tS00tP00tV00tU00tS00tA00tT010b010k010c01i501ir01i601i701ir01i801i901ir01iA01iB01ir01iC01iD01ir01iE01iH01ir01iI01iw01ir01ix01iy01ir01iz01i+01ir01j001i*01ir01j101j201ir01j301us00C401uu01ut00C401uv01vQ00C401vS01vR00C401vT01vY00C701ve01vZ00",
    "C701vf01wW00C201wi01wW00C601ws01wX00C201wj01wX00C601wt01wu00C201x601wv00C201x701xC00C201xO01xD00C201xP01y000C001y201y000C101y401y000D201y601y000D501+001y100C001y301y100C101y501y100D201y701y100D501+101y200D501+201y300D501+301y400D501+401y500D501+501y600D501+601y700D501+701y800C001yA01y800C101yC01y800D201yE01y800D501+801y900C001yB",
    "01y900C101yD01y900D201yF01y900D501+901yA00D501+A01yB00D501+B01yC00D501+C01yD00D501+D01yE00D501+E01yF00D501+F01yG00C001yI01yG00C101yK01yH00C001yJ01yH00C101yL01yO00C001yQ01yO00C101yS01yP00C001yR01yP00C101yT01yW00C001yY01yW00C101ya01yW00D201yc01yW00D501+G01yX00C001yZ01yX00C101yb01yX00D201yd01yX00D501+H01yY00D501+I01yZ00D501+J01ya00",
    "D501+K01yb00D501+L01yc00D501+M01yd00D501+N01ye00C001yg01ye00C101yi01ye00D201yk01ye00D501+O01yf00C001yh01yf00C101yj01yf00D201yl01yf00D501+P01yg00D501+Q01yh00D501+R01yi00D501+S01yj00D501+T01yk00D501+U01yl00D501+V01ym00C001yo01ym00C101yq01ym00D201ys01yn00C001yp01yn00C101yr01yn00D201yt01yu00C001yw01yu00C101yy01yu00D201y+01yv00C001yx",
    "01yv00C101yz01yv00D201y*01z000C001z201z000C101z401z100C001z301z100C101z501z800C001zA01z800C101zC01z900C001zB01z900C101zD01zG00C001zI01zG00C101zK01zG00D201zM01zH00C001zJ01zH00C101zL01zH00D201zN01zP00C001zR01zP00C101zT01zP00D201zV01zW00C001zY01zW00C101za01zW00D201zc01zW00D501+W01zX00C001zZ01zX00C101zb01zX00D201zd01zX00D501+X01zY00",
    "D501+Y01zZ00D501+Z01za00D501+a01zb00D501+b01zc00D501+c01zd00D501+d01ze00C001zg01ze00C101zi01ze00D201zk01ze00D501+e01zf00C001zh01zf00C101zj01zf00D201zl01zf00D501+f01zg00D501+g01zh00D501+h01zi00D501+i01zj00D501+j01zk00D501+k01zl00D501+l01zm00D501+o01zq00D501*201zy00D501*o01+s00D501+t01+*00C001*D01+*00C101*E01+*00D201*F01*600D501*7",
    "01*s00D501*t01*+00C001*T01*+00C101*U01*+00D201*V026G00Cu026Q026I00Cu026R026K00Cu026k027G00Cu027D027I00Cu027F027K00Cu027E028300Cu0284028800Cu0289028B00Cu028C028Z00Cu028a028b00Cu028c028y00Cu0291029300Cu0294029500Cu0297029800Cu0299029D00Cu029j029X00Cu029Y029a00Cu029m029b00Cu029n029o00Cu029q029p00Cu029r029s00Cu029u029t00Cu029v029w00",
    "Cu02A0029x00Cu02A1029y00Cu02BW029z00Cu02BX02A200Cu02A402A300Cu02A502A600Cu02A802A700Cu02A902AH00Cu02BY02AI00Cu02BZ02AY00Cu02Ai02Ae00Cu02Aj02Af00Cu02Ak02Ah00Cu02Al02Ao00Cu02Bg02Ap00Cu02Bh02Aq00Cu02Bi02Ar00Cu02Bj0316032P032K031B032P031C031D032P031E031F032P031G031H032P031I031J032P031K031L032P031M031N032P031O031P032P031Q031R032P031S",
    "031T032P031U031V032P031W031X032P031Y031a032P031b031c032P031d031e032P031f031l032P031m031l032Q031n031o032P031p031o032Q031q031r032P031s031r032Q031t031u032P031v031u032Q031w031x032P031y031x032Q031z032T032P032U032c032P033q032h032P032i032j032P032k032l032P032m032n032P032o032p032P032q032r032P032s032t032P032u032v032P032w032x032P032y032z03",
    "2P032+032*032P03300331032P03320334032P03350336032P03370338032P0339033F032P033G033F032Q033H033I032P033J033I032Q033K033L032P033M033L032Q033N033O032P033P033O032Q033Q033R032P033S033R032Q033T033l032P033t033m032P033u033n032P033v033o032P033w033z032P033+0H2P0H2w0H2Q0H2R0H2w0H2S0H2b0H2w0H2h0H4n0H4d0H4k0H4o0H4d0H4l0HD70HC+0HDB0HD70HDN0HDC",
    "0HIv0HIm0HIy0HIv0HIw0HIx0HIv0HIz0HI+0HMu0HMl0HMw0HMv0HMl0HMx0Har0Ham0Hau"]

/-- The ranges of code points a prepared label may not hold: spaces beyond ASCII, control
characters, private use, non-characters, surrogates, and the code points that are no text or
change the display, six digits for each end. -/
def prohibitedData : String :=
  "0020002W00D000D100RT00RT00SF00SF01Q001Q001WE01WE0200020F020e020l021V021Z021g021l02*m02*x030003000DW00FZ*0FtG0Ftl0Fx*0Fx*0F*v0F**0T5p0T5w0V*+0V**0l*+0l**0**+0***1F*+1F**1V*+1V**1l*+1l**1**+1***2F*+2F**2V*+2V**2l*+2l**2**+2***3F*+3F**3V*+3V**3W013W013W0W3W1*3l*+4F**"

/-- The ranges of code points written right to left in Unicode 3.2, six digits for each
end. -/
def rightToLeftData : String :=
  "00M+00M+00N000N000N300N300NG00Ng00Nm00Nq00OR00OR00OV00OV00OX00Ow00P000PA00Pj00Pl00Pn00RL00RT00RT00Rb00Rc00Rw00R+00S000SD00SG00SG00SI00Si00U000Ub00Un00Un020F020F0FiT0FiT0FiV0Fie0Fig0Fis0Fiu0Fiy0Fi+0Fi+0Fj00Fj10Fj30Fj40Fj60Fkn0FlJ0Fqz0FrG0FsF0FsI0Ft70Ftm0Fty0Fvm0Fvq0Fvs0Fxy"

/-- The ranges of code points written left to right in Unicode 3.2, six digits for each
end. -/
def leftToRightData : String :=
  String.join [
    "0011001Q001X001w002g002g002r002r002w002w0030003M003O003s003u008W008Y008p009G00Aj00Am00Au00Ax00B100BG00BH00BW00Ba00Bk00Bk00Dw00Dw00E600E600E800EA00EC00EC00EE00EX00EZ00FE00FG00Fr00G000I200IA00JE00JG00Jr00Ju00Jv00K000KF00Kn00LM00LP00LV00LX00M700M900M900a300a300a500av00az00b000b900bC00bG00bG00bO00bX00ba00bm00c200c300c500cC00cF00cG00",
    "cJ00ce00cg00cm00co00co00cs00cv00c+00d000d700d800dB00dC00dN00dN00dS00dT00dV00dX00dc00dn00dq00dw00e500eA00eF00eG00eJ00ee00eg00em00eo00ep00er00es00eu00ev00e+00f000fP00fS00fU00fU00fc00fl00fo00fq00g300g300g500gB00gD00gD00gF00gH00gJ00ge00gg00gm00go00gp00gr00gv00gz00h000h900h900hB00hC00hG00hG00hW00hW00hc00hl00i200i300i500iC00iF00iG00iJ",
    "00ie00ig00im00io00ip00is00iv00iz00i+00j000j000j700j800jB00jC00jN00jN00jS00jT00jV00jX00jc00jm00k300k300k500kA00kE00kG00kI00kL00kP00kQ00kS00kS00kU00kV00kZ00ka00ke00kg00kk00kr00kt00kv00k+00k*00l100l200l600l800lA00lC00lN00lN00ld00lo00m100m300m500mC00mE00mG00mI00me00mg00mp00mr00mv00n100n400nW00nX00nc00nl00o200o300o500oC00oE00oG00oI00",
    "oe00og00op00or00ov00o+00o+00p000p400p700p800pA00pB00pL00pM00pU00pU00pW00pX00pc00pl00q200q300q500qC00qE00qG00qI00qe00qg00qv00q+00r000r600r800rA00rC00rN00rN00rW00rX00rc00rl00s200s300s500sM00sQ00sn00sp00sx00sz00sz00t000t600tF00tH00tO00tV00to00tq00u100um00uo00up00v000v600vF00vR00w100w200w400w400w700w800wA00wA00wD00wD00wK00wN00wP00wV",
    "00wX00wZ00wb00wb00wd00wd00wg00wh00wj00wm00wo00wp00wz00wz00x000x400x600x600xG00xP00xS00xT00y000yN00yQ00yq00ys00ys00yu00yu00y+00z700z900zg00z*00z*00+500+500+800+B00++00*500*700*C00*F00*F0100010X010Z010d010f010g010i010i010n010n010u010u0110011N012W0135013G013u013x013x0140015P015V016Y016e017v018001860188019601980198019A019D019G019M01",
    "9O019O019Q019T019W01A601A801A801AA01AD01AG01Ak01Am01Am01Ao01Ar01Au01A+01B001B001B201B501B801BE01BG01BM01BO01Bk01Bm01CE01CG01CG01CI01CL01CO01CU01CW01D601D801DQ01DX01Dy01EW01Fq01G101Ps01Q101QQ01QW01Rm01S001SC01SE01SH01SW01Sn01Sr01Ss01T001TH01TW01Ti01Tk01Tm01U001Us01U+01V501V701V801VK01VQ01VS01VS01VW01Vf01WG01WP01WW01Xt01Y001Ye01u0",
    "01wR01wW01xv01y001yL01yO01yT01yW01z501z801zD01zG01zN01zP01zP01zR01zR01zT01zT01zV01zz01+001+q01+s01+y01++01++01*201*401*601*C01*G01*J01*M01*R01*W01*i01*o01*q01*s01*y020E020E021n021n021*021*0242024202470247024A024J024L024L024P024T024a024a024c024c024e024e024g024j024l024n024p024v024z024*02550259025W026302Cs02Dw02EL02EL02IS02Jf030503",
    "07030X030f030n030r030u030y0311032M032T032V032X033w033y033*0345034i034n036E036G036t037m038S038W0393039W039x039*03Am03B003BB03BG03B+03C003Ds03Dx03FT03FW03F+03G004sr04u009+b0A000AIC0Am00DUZ0DW00Fej0Fem0Ffg0Fi00Fi60FiJ0FiN0FyX0Fyw0Fz10FzQ0Fzc0F++0F*20F*70F*A0F*F0F*I0F*N0F*Q0F*S0GC00GCU0GCW0GCZ0GCm0GDA0GG00GGb0GGe0GHD0T000T3r0T400T4c",
    "0T4g0T5c0T5g0T5o0T630T640T6C0T6f0T6k0T7T0TG00THK0THM0TIS0TIU0TIV0TIY0TIY0TIb0TIc0TIf0TIi0TIk0TIv0TIx0TIx0TIz0TJ00TJ20TJ30TJ50TK50TK70TKA0TKD0TKK0TKM0TKS0TKU0TKv0TKx0TK+0TL00TL40TL60TL60TLA0TLG0TLI0TQZ0TQe0TV90W000gRM0lW00leT3m003**z40004F*z"]

end Bookmarks.Url.Nameprep
