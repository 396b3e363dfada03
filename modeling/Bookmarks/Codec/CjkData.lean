/-!
The double-byte character sets of China, Japan, Korea and Taiwan, packed. Each table maps a
two-byte key (first byte times 256 plus second byte) to a code point, 0 for none. A table is a
run of segments: the first key in four hexadecimal digits, the number of keys in two, then a
value for each key in four or five. Characters that stand for two code points are listed apart
as triples of six digits: key, first and second code point.
-/
namespace Bookmarks.Codec

/-- GB 2312, by row and column. -/
def gb2312Data : String :=
  String.join [
    "8I5UC00m0J02CFi2oGB70AWm0p0581N*NY0M82OW620P81mW7J0KC1Km2309C0em2p0CC0qm3Z0FC1Om5p0GC140iG3N0FSYDY8d8YWY4I8F8YeYAI888ZSY6YAb8YKY82CI8faYAo8k8c4YJ2988ZqY7I9W8cuYRo9a8cKY7Y8r8ZGcGYP00B0WCY0p8GF*102a*+3*uI0m0ASX5YO69WKbooNF9SubnoN69Q4be2Mp9R8WEo6I8P0XaI6JC1CYCKmaY2I998eaYoIC98qaZYIF990aaIII99Cab2IL99OaboIO99aacYIR97GaTIHs97SaU2Hv97",
    "eaUoHy97qaVYH*980aWII298CaX2I598OaXoHW964aOYHZ96GaPIHc96SaQ2Hf0000038WCY4o8Z8ZCYGo9J8cCYSoA38f0000025W8M4XOY5Z8MGXPI5c8MSXQ25f8MeXQoCXNly1*mB*0**b*mN*1ly7*mZ*2VyA*ml*3FyD*mx*3*yG*n7*4lyJ*nJ*5VyM*nV*6FyP*nh*6*yS*nt*7lyV*o3*8VyY*oF*9Fyb*oR*9*ye*od*Alyh*op*BVyk*o**CFyn*pB*C*yq*pN*Dlyt*pZ*EVyw*pl*FFyz*px*F*z0*q7*Glz3*qJ*HVz6*qV*IFz9",
    "*qh*I*zC*qt*JlzF*r3*KVzI*rF*LFzL*rR*L*zO*rd*MlzR*rp*NV*Z925JC44mGZ13C4GmHJ16C4SmI319C4emIp1CC4qmJZ1FC50mKJ1IC5CmL31LC5OmLp1OC5amMZ1RC5mmNJ1UC5ymO31XC68mOp1aC6KmPZ1dC6WmQJ1gC6imR31jC6umRp1mC74mSZ1pC7GmTJ1sC7SmU31vC7emUp1yC7qmVZ1*C80mWJ22C8CmX325C8OmXp28C8amYZ2BC8mmZJ2EC8yma32HC98maoKXLZ2XCA8mep2aCAKmfZ2dCAWmgJ2gCAimh32jCAumhp2mCB",
    "4miZ2pCBGmjJ2sCBSmk32vCBemkp2yCBqmlZ2*CC0mmJ32CCCmn335CCOmnp38CCamoZ3BCCmmpJ3ECCymq33HCD8mqp3KCDKmrZ3NCDWmsJ3QCDimt33TCDumtp3WCE4muZ3ZCEGmvJ3cCESmw33fCEemwp3iCEqmxZ3lCF0myJ3oCFCmz33rCFOc8HW3aGEI0vC3b0EL0vO3bmEO0va3cWER0vm3dGEU0vy3e0EX0wC3f0Eb0wO3fmEe0wacGHW3iGEo0xC3j0Er0xO3jmEu0xa3kWEx0xm3lGE+0xy3m0F10yC3n0F50yO3nmF80yad8I4440GH",
    "11844mGK11K40GGM11S460GP11e46mGS11q47WGV12048GGY12C490Gb12O49mGe12a4AWGh12m4BGGk12ydKI44C0Gn1384CmGq13K4KGGs13S4E0Gv13e4EmGy13q4FWG*1404GGH214C4H0H514O4HmH814a4IWHB14m4JGHE14ye8He10G3X0Su0u04J0Ea16m3e0Ii0xG7G0Em1JG3p0T80yW5h0Fe1r03v0TO1s07Q0Tm0*03gA4KbCGKn1Z47CGWn2J4ACGin334DCGun3p4GCH4n4Z4JCHGn5J4MCHSn634PCHen6p4SCHqn7Z4VCI0n8J",
    "4YCICn934bCIOn9p4eCIaf94mb02K19G8b0oK49GKb1YK79GWb2IKA9Gib32KD9Gub3oKG9H4b4YKJ9HGb5IKM9HSb62KP9Heb6oKS9Hqb7YKV9I0b8IKY9ICb92Kb9IOb9oKe9IabAYKh9ImbBIKk9IybC2Kn9J8bCoKq9JKbDYKt9JWbEIKw9JibF2Kz9JubFoL09K4bGYL39KGbHIL69KSbI2L99KebIp0XNbLAbZzNmsCeLCvL2LJ0Tf5sJ8KyT+w2VdYDSZ6Mc9UDR2XRYK*wOmbcbrouWFfeI82kPW9spb7vPLPnh7*nY8HGibbbOSfliuAj",
    "OqnYKbFjL2Tx1b5hTQHTz6BKZSkNTcAAW1bNNPSuVs9oE7PzPyzsVcH6Jt2D9MBSUXTbaNFjP2nYSu8ic85dVt98OcvYp4yqTEDJIbAUVigGfbukQ8Pfd860Vj5eqdZ5XeoLKL2DZ2I2te3UKmM94b9bCI5UXOIM+K*TM26PSLkTOh5YfMQqZ7cSZN86PszuaM2oKr5J5u+8WCoD7PIXK0roo5a7OEjn6OYhMLI2xsSiUoXTANxtTIrizOvcZ*YGF9yxQzIH6NiKNtnufuJMXJrhrMlPQzPU0Lw7TVcLxMLTNmfVnO+VMC61mf1*bbkNhO+vVnQDB6",
    "91JxzJs5DUZwYFgO+ha4re1rzgWPY8Q9pMOOjIAtOgNsnbZ6*IRkXRlcH8KNLHi6V4JXbvoPbySBCo8LvrnLvsSxk3u6IjOkYKjMpYKrfImsGFbC9xb4ylNXk2De4MWOfk96pAcdDZLLDSLFg8PLVWJWrU0sjbV3+Gw60MPEPp78Z1Pr1YJOqYTsoEAP77Nsc3t8KXcH1JmeQLQujWxM3eS7+2pO8nJjDifuNFPCrysMdzPlc3ILELUrPFfr6CRKjSGevjOz9JoOCiWpPdvNYqP3rRtroKNUwBvsB6P*ICUcG0Oxg7IPcBZ1T*89JoJgUM49YaPWnp",
    "5ZCXNbSwN1rUE9L*K7+0e5E2PLvrHLKnK26DXMA4b9vd7LOoRsvTubGrS9AFPc9lPAHZerzxRuYGz87ZZx1S66PeN*5iYPP8ZO68R6IHUV1NpcfPOX1KI4vOUWjWwM+4YzfYVv0Ucejvv5G3TVHZ0LCPR62FtryRcd20Evz*JuXSEeraVyLbfN2zKKLHiePhNGTRe6AzaMnrT8uCUY1X0NjvJiT++7U5JX61xL8TKVfgSLEeZeUL19RFRi6MP6bQD25UU41Gg7VNP129vba4O+DTtNf*QJrF888vLPXECdMkUfTUObwAbUzI6rGvS8fZTfKaLu9c9M",
    "a*aOTL1stpVg+88c8pVl1rjOCeUC6Mp8+UOKXqzulDQsHIEerGQo60QeHnLl5J1axEJXjHqNoNaOjy1q*3ZdzxuNgSP6TT552iWGPs0NovRUn*u6THMrXR+7ZBPAva4sEgOokL6MGjZxvxL7OfObDP9rH6QtbGes8qNYPhXaxZZJU8Yr+5a2ur8LvW880zOiLEELDLaFXZk836PUPiBaz6OEvjuOlUNpc6orzJOo5HMeDXQ6DI06DZZaXG4boRUNTR*58mUZjWl91JTjTVjr+NTeIER71lTdjxINUgKVEGarWaJqvkz8*gPKnx6tB4RQH*trhXOhLU",
    "bLSmX89xB5uTNn+G4dyKcA1ZWcx7U9XmkL5ubrjNgtKrJqDrE5wNOEPPO6t0QxzuYLFybjLHor81OubK2fIJZ0EDp78vU9+7Te*jZ0rJu3OXNau1TkzJxfI9c7QV3fKjMvgBeauYJXnHh8HZOS9Ig6WBJvTWQr6xRHvHN6AMPPUMOOn6a1Trs93zTsDhqdAASkoB+rWrTtcDJ6TSbK20cbwcRY5PadhlT+sLEskrPQr*3bW6KL6M7rlvMAbKA8voPMQOVrRab9rs*f11OuTKnbaQMJfNcuwoPpMD+e8rKa5Wy5WLXlvSw9v5JyIOdOkvMYLWTbE4Od",
    "oGJv42cNzWQO0CKJ+0CrmKcNLjCKwCDo5UZJ1JqNzQUqzF44vFbW1irNFGXUbU1dLgV*jg2dV+b99+GL7XSEPJpO*KWmEDANAlcMrisrTAWhDbkO2gOZ+MCbceJl+BltwwPJw3yfTULM6Ote2bKogB*LGWWBfUdsouZJc2h95QL2bi6r86VhTNNt4QR7vyYLbBJlrV*s4aVAfEC5m1Pwk70bpmbGkOpdMlSFsG8b6lVnsBlLb9KUHFMrGcMIjbTu2aMtLYTcB2Zv1UHMmVUoPF3q*OPmqu8LvjRcsgUO+8iLyNTIjYce+5J++Ht6MdWI+1KLwSWL2D",
    "T59lYOQDIraDK8LEs9OSSZQ1UOqVMyoBevP4MOT*6bIGLdPM3elbPJbfWfIPTjPkYLvoTHXdHcVHUl+0dOrsOHzvncLYZMDHY58QbA9*E82RVh9SbsulPs1xsNQBcjY1Zt+KVDLa7fLGUZzKIbJbQqna0M88dZs0ytMPKdANQOHRQ3o6v9O1bfIKx4ugL0H+sMWvZT+05MRqNff*kJaXNbV2W3zebrtbPJjIds1jdvfFcuwiKMnRgryJNUbiNcBnZI5HSPIfKlviduBVSjTNecU4ZIrP7u+SWyTKbNkDJp1ilLjaMT6V4rFaXigQg8mtWA5bHPX+Ll",
    "gMnr8kTDnIK5lXOmA90avMOj1WAcZwKNDRc56WYS9xePc6Vr1Wxt1CZIzHILv*a1jqS8d4LoruHLzIdv+L+ezecpoBuNPuQ49dt8tgZJLIFO+ARjfepPK5aErM*MUSYFcFnrJ8EY5UchXRQMrtR2PEfLkpceUHOs6eaA+NwLGhRRLRqb7zLOf*LN*mPBnZJMNnORvWZN4AR5TiILalPss2AbZLLewCQclhaDrPVO0NK*TjQLHrLPs3TuFFQ3XvlbICJrLK27RIZ8cM0copRRYDQuaGdcIDEbO*dj5rrL+8Sk1WQ5JyJgXgAeXXO5AFS5J4SDY6UPu*",
    "RIfRZryOVg9LYK+lSpHKF5EQK1bK3bHyJavV*NHQMFQ4Qu3XXtHoq7pARbOx8LvV9uPELInYf4wIRAfYDuAnLDTJJdC+Rj5rEr8IKnQBtMdGNufW06tkLqzh8dElQ5EFs7yJOs9WerKaTUgCOd4LRQDRfbvxWr9XJ9x4UFg7LtmdTeTHy63sSKncGrvCO4sC3d1mOoMFYL+zO6A6r5RUQy5Wb65dKqbWu6PcZJzv*KyQSEbiHukpY*9+s8DaPWzQMfj2RL5jzun1RJjF6N1hWxTY5c3HbmsD9tbuKVjNFbVwPpfrU7ezUUzxbJmXNe2CcMMF+M*0Yw",
    "MU8LdiVkb*2LG9Pu5es8+HV4sMnbFAO2LrlcnoKtDQoNwdOoHHu84ANV64tsA0KO1ROqyEUMrIGc2uRKvRn5l2Yw6Bi6NYNyoMHLcJVkT+gbO9PxTPEKzpMxPIe8DQc8gDFdKobBvGHteyJlTdjff+Mi5hV7RHLrfS5diwbVHnJb5yWAc2S5buVmI39sZ0P+nuiNXtOkDZONk0J+rIQb7FWr1fsv9qZVMDCOd1bIvxhKxsFI5UK6M2C59HcMzk46w5RQTU+b3rMTnS1cr6R5zrXeIBQ6XPLekoKo2HSPPDXKbf4da1SIQ0zawaaCfjHvg4MWTMl6G5",
    "bF1twq+bWHfouOdIcNf*D7xUKdzbMP5rZt+FWrFhUfPZxMEbTePv+8XNbZPYAbAhWe9eL6TmOtTtQthjRG5+qudZMT1Y4eN9WgLrJ50VJijrfOlhN4fT*djBPQIHqKxARIM9NtqdbIPEnOmeZzkNSsPBUO6FqN3iRNW+8LvSFLAoWqPHOeCETrjcTfouJgnWodo+VBD+pqwLYsPcRvY8brbOWsLibLnVX7N9brPwtthUKS1mhtgOO+fwTdwWSvQNxKv5S7XENP5IKwbbKMNdWVo21LIEN35rcfUWOjXosNMzN4MQUOFAN41KW7VfJZvihe1QOj9ZRb",
    "teKNUDtOuUbIzFyLFbOETmh59dOr2UGreVK2PtDrDtVk9aXMKhOebZc50KSZM9oL6pYy1+tLT7WyoKfr6RL1jS+pyXNa*AUkDjMf3XcezLW5IMKs5Khry0O+bfTr7lOMXI2bWgKjXNJdWDTmjUjs5tVE1YMsANJg9mbO03OlTmv9TWLtU2ssVlQFLurPYNUT5OyrIpK+zkD55BKZjReel+WAzLGrUcO7DNKLGjUdfWK5jKOwTYe5FZOcDRnsUlLErwduBcaNTUauZaMJXNhcCEZUY0xrTNUtTFgL*hMxrhFbCXUr1omcX6T*ztDcNtKRLEZtRKNBzw",
    "fOHrMKwRGL20G25UcOXX9sw3LsHc1cD6Ll1Yx69fNjEM55U3OibLXuSXWKgFerLcWx5dPOrMXDrQQcWFOkPxxfOHKN1ld8mmO*s9o67IVmPmmcxbT0Lfb7ByNigGpcSNRMfZNbApScA00KziMUMHQd3PRPrIqavGblULROL+UCfzBr4XLv9ame2BV7jiwcZnQLvHjrEOQAXoWPxEU*5o+7cxRnDq1cTEaSoSf7ayWuc3L5GFQ1TEFLE9Kh5uFbE6KYbGY4+BJz118LvrudhBV99ifPQsKfjqWrJfJ+c0L8EoZzwLS5x9O1njdruOPLk1E9J+O4jml7",
    "x3VAvHoMY1VB62RquaZuQHpsP+JgwC1MIfW4fGsdMNSSvRvO+zRsPEXcI2bMDUrcMPKXU8md38KgDp3dGpPvTuzvSMJZIGkvpURSjHsur1L1rYpdEoW*6Mzf+4bCDFDd+QKSnmTPPrNAsOXbFcJkHkd7G9QRHuQvcFTLbI67OaRK5dyr5jdvc0IrIPUpnwlq8XNfQ6LuHYufP7QNnQ16G2UzDl3vPBWgPJOfY5Nf1mYMEpKsI6Jvo1dfDuZ9SoZU+DGfv*RrvvX5zLbaPYBffqL1MKtK+ZPSLSPLnXVnM6KMmlNujpXsxaVlzSvcCRMsfkvbDrJd5Z",
    "e7LbOg6FRaycJj5ifdwsYxg47OUwVrUGEvKZUwcQeOZuX3rj6vg6VjnPY9wxSvju0OQ2ccoQWbORL1TNoqvmdgPJLe*8WGbtafcIXkvkuOKJPlnXOcyhGo5UZ2c2aeChTl9i4r*PWxrpAuC5bHfhstVRbCPJRuC2KP9UFOoCZJXEI7EhPvfeXP5sbmbnP6oXTmbQafL1Qyz*ZcOdMz1PkLgQbUYLzqxiX0o4cMgiTj+LC7CRQAPRNtSlaPgNONpSZ*UC75ybV7Dvs8d5RCo775l6Na9eoNSWVlLHbL5DKibQANy5bsA2rsFFTuI5q7dIRZfUcLcPXH",
    "5mRMmHOhzslsLFOA+L*MOEXv+U8vJjL0rKVOmiP7X48LvaUOOHQY61d7ZeP6cRL6AvPok3grYedjXigsyWMzwMJ8mBSbzdq6B7Sc5EgLd6QyrOasQkNbLIts5LPoXsxdTcScTwHcB*LEfKK9IWaADQ77wpR1PEGrbsW11PI5DNTJUMlbRAOo214M1ybVbjrbHYcO5HXLhfWFrPhfSJK2fivLmyOjzFO5C*WNkG1cwwXIjYo5vqUBvajMDxN*LQ695*dXzSFsDFW49RVLLkbKgLJMs5OAXdu7BUKTrRWKKXNcBdRDvoMs9jbAv+lO4JRLDHd5y4MNHI",
    "gc0IMNDcbePGTPzZAc7cVE+B+bJcQoUU9MkqXTLKLL1sRAHLQesqSYnU5M0LT3PYpMEISanVc6v3RJvb06zOTjXuq7RyTLHI95FRJbDUdcN1W2g0rcARL8PIA72kY8sDqMpXL7Y0sbVvYFIDL9PgaKrFQMoRLRTsndWmOgXm+M+ENss4x6ZQU7nxzu6ePmkUJsDdUB1NRtWIbpbYUMAhKeXqDMlNHY5ULMI1FdMoTgvJENNUKFjSGOjiUyTGJt97cfUOs6y2TE9vQ6I7TwLY*9YHZIjKmO1OJb9NQeBvX0rUSr7jTFQBn5nFLs5i*9Y7MaPuD9j4Z+",
    "jybL9MOb6K+ax6WuQ4OOFfXB9Nr6SqLmDcRcrcZ35ctN0HPnzhEcWMOXfPkqu3KSHl1cVIR8zHTcZBMKThPtLcNGw149zGPTTvI7b1cf6DTro2JbvF0LGlML5u35PeR1IFn5y3R7riuukhOv178LvWS6qzSdLYPfIEbCLJGu*1UtvEtumcJdwUr9InbBDIJMzSa6DjHOmqM15TJ6iWQqbdgbHRWLH*Z5YPXJTVEcAYQaULEMLoO8HePNUdJbHFg5tdbvXah7*ONErFptgDKWU314uKO2zwWvIcJxLEiddcT3HIv8AvPD9vlLlTR86NKezxR29GFbD*",
    "RWLapcPqR31WnPXtY*TUXdGyUdTvoquOaB5q0sn2LjgHIsp5ZOjJEeR6PlAEhrn8cd5k84WXNbFMMZQVYusZKxjN29YdPqEHcsp9KMXrocBpSgnIE5ATVpfmb7OuKtIUIcctU6wMm8ZPVwHnDd73KObdqtJaMEHb65QtYwcPTc9mVjLW+N3jMEnEmKwwNysNvqxxYwHI0rcAVgjYL4xDPULY3eCuXCc3OuUDSPHkjbkvVj9HbsF9PzI0YOCvY1LH4bjwMOAFiKvpR5rHPOabZs+MBeLAT5wL49NmRQQ2vLynP99j4eGeWMwSmrXUZLjE2LF1II5UJn",
    "vbOsXHLTDE9sGKcffYQrh2T5+2ScsfQEvGvuEEU09dG58vR9b+iL2xLMLnNdjRPb9poeBhPqbSSL8WSNs8QvNgbbLanOrXWRDLX6nLOaT*BbYIJoHLHerFPanE2bmQYFDeecDEUWrmvuADKlgNzbmHLEYGjNxDMMADIeR7WWo23OrcP4HS165HRObvFek+U3TrCrHxJpYEgstnMY1+nNbUR8XReLfsTHg0lc5ERXTOy7KVTILoSbD7VlDA8Lvt0NRRKcc0t5SZNWXPCNBkPRrkVulNN3Y6SLD1T*DY*cNsJi2OtuQ0MvwBnbFoT+9FVrnEcdPPoryF",
    "UJfOwquMP*zEYsBjYfEG7LA*PYzLt5Pia09ErK+DaSgPS6mFNW9WGrkaYSQBrMKsOakPbbk8M*zZY5KkKzTs9b5zXIndecYpQufYae+JKzI24ctHTOzEPerEMt1nduMlPf5csNzoXm2UpPyWN5vdBu*mQ15dNs8DUjPOXLwsPN1lCKiXNc1LKZU03MHKY71rALu5Q1DYz9SSKynoFOm1R3HtONeEL2vth9XwWXoBz7XLPnHmmMMlP9LMDc0TUS5J+4uTQtk0XblwLUDMsqywJpoPSbtpPtw0E602c8AG0LkBYxoBzMGSWbXatbNzWi+HPK*NVI2G7t",
    "oVKFDOKMwlMx+BoO23aNY4d7kNXdsMYvQFVkMQqtYEN85wLv12bgTvNrjPOrzx2uJHQArL1dyfT11z8fK1Oa1OJ4xMMuDPULXKJ25USsrZ7evBZW+0peBKOgnJy6pmaLvPAc01R71NJMHAZIfsAsxfLrjgW7NmRssCBOm8LsPhxuYIUBDZebFvSAriP5XOP2fO0cZWWPjL47pMK1YEkctCZPzmwsEFRPjkr7xcX0HeGv03RTYMTekeMLToUONaWNvrl8gAQAzIL8uYbH5Zq9YOZaHLV4zJPlzMZs3LRPLIGrn9MIbj+rXhTJ1r761iWXI1HcCHPs6F",
    "udSwZVEDD9J1NXPJXLGiSCDD8LviG5xtK5nEhLwjOpg2Hv0QQ52HRdUpL0oKt5zaUkLeTcD5Ur9+ttNRK7TYbLaqa0zH+7d3Ue5M*b+Ia1HjWbnWLnzK455KRarMucEec9E1VuSLYIgG05GUN6+1m6BMObY1CPurba2QRffyQIrPfMBJLJvZ5bJ7XjbjF5e3TEQ8d6jgMHQCJ5ylRdvpgPXzJZXmzrkCU9TZFMPQTfPWorkRMabE1u5LR6fpYqwXPub*KL+0PVfd6r*OMOHQ0KuXNbtDNwvJSPVcZzreHLRqLIzWtquwRqr+z8B7X0vPr4yVJofSFd",
    "wiPog56bHpTK+0mrM2cqzFJMujZ1DS2M5mKsjs7sufXefbXvNxVhbKEtepVGgLxbNXVy5qxcCTXnTjeNgTOX5beLDdO+5iWrthL5oKg4vCR66Bx5nBPU22d6YdL3vKD6lBQsPEb6D2KqY27ayDJwvNNc8AblvcP79fKlzIeM2VY+zc576PPv29VtXIT*rcS5OxL3YL8N9wJo5UUW1WRruCO8c1dLaLODnnX73lRgfiK7A0QeI8hLujJc1QirMSbEDj5tpxbfbY3tx6Tuw6VbCZbnwFbcQ7NE5Fe7BjJWjJfbaFL1DZW9KeKKXEsPoSVgHKk8qaY5I2",
    "DvNoROvV9bhCPZwMQNEmSovJlu5wcOL*eLkgbdUMK7w*TlXJefLscPbxiOb4RbXEON*KUMMBvc3pLCrEgvXvNVTgOL3FL16COOGdU5sN159ALEvMevK0ROXRjMt6PbDG8LvS3rjTQ260bbLuUn5bI6bKJfjhHuTEbujJJsCVP3gGgcMSWC6C456PQB1JU8VvOSXin6pxZ29SKOMgWg+L36iZZvjbi5*xNyDFuOX5PX+1PNCfOFfHT58HLujVOf2YY4oHabvuPqzW9rdJKKHHze3uKmXiUPR4SOfF4K*kVvvdFLN5bGXvm8YMVkDOds8Cbm26MbOOc7",
    "jVa8kuXCIHLrFPPUrUZtLSO6HzRbf*Vkf+xOzfLQTRes2iPSjpX54XNf09TcDtANxQbtI5crjcUdIMweX0KijnZr+gPUoBublxcczTuMk9R5kBhOkla0gFnLEBOhoU9fujL41EAuAzSbc6d5qMY5bjhvR5LD5EceksSGbKlPO9SDzj+NRGJYLu58SINAbUzee0c9oM3d2ERBzPH6EfTpo8JMyKWdDOC77LKunu6fR1LG5VPd4mMxIC6fgCQuDPBfulUUTdQ69iJszreN+ARGkMCsmdJl1rqb5xQ3TlFf20WN1PbdHsKY5UP4TS9v1bUf6C8rdQLAo2",
    "08DlYO6006amLaw0Dd8taSvHjavVc7LZbauQK*Pcyu5BMHnjiau0MFbJEsFMbF5FdKyAY6EOa5ata5Tv+qxgWF1raMo2MvnPw5zTQGM6WL0QNV9EMNVZJkM2UcAHPXEGaLnvJhzVUO76a3Y0X7MhJgQ8r64FQyLVnav9TifkeelZYwwC2elHNm9**7*CViw3DODhLk1hjvVpbZHP+rGVbFPjwrl5cMvSELyLbf1J8LvJS8BnQZ5QT9vmNfH*A8EvX2I49ODdXqUFperYTiXVSPYMU6nc85JVOkLFOu73TSXUk9RDZWg6+LIFRFDjZ6muO7zIntKeNd",
    "rF662WN+TS97KnaAwKm7AvRBbkE959PmbJorFpJr6HoOlnKyXUV8*2RUHEZdR2QOQ6Nc4QWWPFMK*Ua3wSV649RXrk59Q5JeXQCPReJWvSVtcvMuUBxN+zSubNtuABaC5K0P17LRjSwb+XOGXhCdBnWBAAYLGXNcrqMzE8rPY4Z6kQRPupRWfHf553LwE8WLEVO*IFbLRjL5XN1dC*Rf1*68*SWj5XFs0ebc9cy7wcZOgDmvIbNBDyf6S8OAQM1O0OJf6GvrC0bcXHGO*GXNIHNMPLb*LRLLCTU3XdGcWzLCbmVbkmZtrHZLSeLB5b4cQ2ZLwDGu4F",
    "X6oGRNpVKV+5+sUZPUbleOQaZe5MQf0WTe9mTd7bZIDYwL8PRFsDF60EM9vXZcR+ZM1YJbMpRYDdBOzdLI5UbE6L+7SeQ0Lfg5IBJarmk8l8P5XbYrk5UeHGEbleTxjhuOfvV9XildRFPQcFbrqjN5M6E6W8Ks1Y67hPRbj+*MeVUk1VS6ypNo1ZZ6sePrPE25uGZIPEru30TZIMd6BRPYrYVcoyZNLnPtzfKKQ0XrFia6vYc5JoXl2FcO05bHU55u*PRLbppMMVTnzr17WdWVkD7fI8JwPdbNMvYygN1sClbKUMDOIuOoDtGL+1Sl1EYM0KPNHYxs",
    "jZPJzM8LvU9tN7aD6BmOATPvrbBrGnXnXtvO2YWG9iGKvBViU0J7RqQGrhbc9dK3nFX5T0OmThOes+K+fbw7wuNzTZ6cEtWVE1z7zkNXnSsL8sPdfvwNeQZIXmcNNKRjviktgIJYrsnL*Wb9+8Ttx8USs0lv7DJl9F5u8VL6XTtcqoYynyfOzqW9XU6bIITh5RcMOycgHpu6WgXjjdCNCgY*YBsv0GUlbmst5kOiHtgLOnJZk4LsVnKgc6m8qkbFXxKLSXMKzFREXvNPfxOfDoAcBzJXDu5eziPB2DMdl6Q6bUX8Z5MOPadbZkShPf3fKbZ*sDM5TW",
    "Vm2C1b76OqbYsLDJQ4nq8eC1aKnLH7T0S7njIb5vLAYDH5d*Rijjn5jSVIjEr7nzRjDRK87gRWrRLvi3QDMEAbkNVlnWEtwraBcDS5bFOyrvtuspKr9bptbMYyMMEtx4bBj+WbOqaObd07zgN0gGTMOeNUPFK6VUK5fFN5TGNgTO8LvEZKuCKK1E45x*KqLE5KwOJXwRCbjiLcbEA7cwJZzJ5Kv7MIroErDkR11Mtu3acPThqtT+dnTEDawVdn1EN4vfJfE2Y5jRLMnM3qx4KurJdLEZKwLJhfTbZLrJ6bFrKoPJBbC+ZLnJPbDZKW9I258EKYrICr",
    "8*Ka1IJ59UKc5IN8IlKdrIWbA1Kf1Iar62VrHEkqx3JibEmaxeJk5EwqxUJnjEyqyYJsHEzKybJoTF2KyhJrvFPsKuJrfFNLaXNazVJrTFCayzJtPFT4+HJubFWq+FJtvFUq+gJtnFh4+KJ+PFw4*gJyLFsa*ZJznFqK*VJ*XGAL1CJ*DGB50FK2vGBK*+K1nG350bK2XGVb13K5LGI51EK6nGUr2bKATGgL2wKDPH1b3jKEnGvb3kKGTH2qxTR3rFM4zbJywVe6n6V7HHRbtzdicPc561MHHI+LCDYWTJ457hMHbHLKwWKLPEiuXkYAHEjO4KYD9v",
    "W5iqY0D*k56hKR5HlL6yMY5UKSTHbb6YKQMBe8kcYwUBgekqYxMBjul2YyEBoulFYywBqelJYzIBrelOYzcBt8lVY+2Bv8leY+cBxelmY*EBzelvY*oB*um0Z0AC18m7Z0oC3umHZ1AC58mLZ1QC6OmRZ1YC7OmVZ22C8OmbZ2UCAemhZ2wCBumoZ3ECDOmsKsbJUfOTbYAM8POnbYgMFPOybaAMIPPKbb+MPvPibdAMT9Q8besMbvQma9UGcv2Ta9cGh92XaBIGiv2saBfR8LwGk92maC+GnP2+aD2Gn937aDEGvf3YaDoGrv3RaEkGxv3+aGIH8f",
    "4UaIEHCP4laJcHGv56KWrPGbAYKgnIhLA+LFzIq5BMKl1Jtt7kTyrUz57rKVoRBrEsNm5rMbtlLqnNgLUXM7vOl5Z5MD5NALSiLofNCrSvLovNBrTSLpjNGbTfLuLNQrU6LtnNUrTeLsrNTbTpLwrNf5UCLx9NprUdLxHNarUWLzLNs5VQLzbNqbUuL*HNxrVuL+HNtLmXNbWBM0rN*LVjM01O7bWPM4HO85XbM6nOWLY9M9fOW9cednbX*u9vWds2VuAFWeg2g8A4Wew2aOANWfc2guAuWhw2i8B8Wig2uuAOWhU2heBBWio2mOAfWhI2eOAgWf+2",
    "n8BEWgI2uOC9WlU2v8CFWmU2t8BqWjA2s8CCWlk2quCHWng31eCKWnM2u8BLWno3KODRWro328EIWpo3D8CnWvk3NeClWq+3HuD3Wr+3G8CNWs23BOCwWpE3PeDbNI5UWsY36uDfWso3QeDjWsw3i8DuWxE3j8EWWwg3auESWuM3V8EsWwc3VOEuWtk3c8EUWwY3keEyWy640OFbWzXO1uGOX0k3tOFzWzQ478GuX1641eFKWz+43uG3W*Y3+OFgWyM3m8GcW*23uOHSX564MeHPX7E4XuI8X7g4YOHuX3o4HeHfX7Q4Z8IEX364ROJ1XCs4q8JcXB",
    "s4quJAXB+4keJWXA64kOIqX9U4vOJZXGnr3OKuXF25EOKVXJfU8Lw5LeKxXF+4*8LPXKY5Q8LaXLw5UdUYXKE5SeLxXQI5g8M7XO+5UOMkXPo5XOMvXRU5i8NJXS65t8N*XYU61OOfXXQ6F5x+NmXPF5b1W3TPLLbQMLXJ3rmYN2LSB5mqOanYQcAVOhjYocBQOjTYxcCYOlPZEMDBOqDZhMFsOt5ZUcEEOxHZRMEiOufZQMEkOxnZycFuO+1Z*sF4OzvZpcHIOyPZlcH5P45a2sGRP21a36GcP25aNcI4P6rabbyXNcHwPBTak6IPPBfam6JGPDTa",
    "v6JYPGbb9MKkNmjVqdKPNn5JNrFnK*rJwLFeK*jK4bGML0PKIrHIL5DKL5HML4DK8LHNL5bK8rGoL89Kb5HtL75KP5IQL9jKX5HsL6PKdLJGLArKmbIqLD9KfrIcLDDKr5HoLADKrLIxLBzKp5JPLDfKt5IfLAfKf5JTLCzKtbKRLETL85JzLHHKyrKYLIDL3rKHLITLAbLdLOzLjLL9LMrLGLLLLJzLK5KyO25ULJTLLbLrLNPLTrKpLJ1LN5MBLT9LWrMnLRbLY5M1LPzLVbNMLP5LUrNVLRrLlbMKLPbLwbNtLSbM7rNHLUjLx5NKLUPLtLN4LU",
    "zLvLNoLVDLp5NDLUXLzLNaZvHM7bO8LWnM0LOaLYDL*bO0LYTMBLPOLZbMLrOiLarMObPPLbnMJ5PKLePMP5PnLcjMUrPyLeLMarQlLjHMrrRTLk5MzLRhLlbM*rS4LmfN2LSSNWzU6LuKNX5UCLuxNZnX8LvUDrv4NbHUMrvUNc5SZ5nwN8rSa5oMN8XSc5oPN95ScboSNBLSebozNAnSgronNADSmLotNCHSqbpaNCjSvLq2NGDT9rqcNIvT95qUNGPT6rrONJvTD5qzNMnTMrrlNLrTQrrBNKfTQLrqNO9TcLsTZ7DTjrt5NtDVTr+2NuTVYL+C",
    "NvLVcL+SNwXVhL+rNxo8ObzXSgroi7AqShTok7B3Si5opdBDSj9ow7BlSkboydBqSlTp0NBpSmDo+c8XNdBxSnTp4tCXSmfp7dCTSnLp8dCvSoLpB7CuSp5pK7DDSrTpO7DiSszpVe8RMIMOvraaMGAPOvbdcMYPQPbgcMkPR9bqcNUPVPc0cOIPXvcAcOsPa9cHcPEPb9cLNe1UaLwBNfPUfLwWNhbUjLw+NhEDKrxINj5UsrxeNkg1kb*4NybVrb*FO0DVxc04N+5Vv5*+O0LW1b*gN+rV+60PO3LW9c0RO0zW3M0fO2jW2c0*O25WU61vO7jWUc",
    "12Oo5UO6fWVM2MO9fWhM2TO8DWac2CO9jWx62xOB5WtM3OOCPWsc2qOI1X9c4LOIDWz640OGvXAs5AONLXh66KOQTXjs7KOVLVtPQpbUcLwvNnbVELzPNsbVoL*fO3bWIM1fO8bWgM2vOCbWsM3vOIbXMM5fONbXcM6auiSZzY5MmrR5HiN6nARADiXMoGR9HiZ6neR6biT6nsR8PigMpGRDHihMptRFXiyMpNRB9iu6pMRFfiwspkRB5iqsplRFva8LvjEMqdRGnjGsr8RGTj16qPRGvjAsrDRIvjDMqQRKzjKcrKRJDjaMrlRPvje6rURPDjb6rS",
    "RM1jV6rZRXfjnst5RTvk3cs*RU1k4MtcRTrjsMuMRQjk36skRYjkRcvERcjkicvVRePkKsvKRZ9k9Mv4RjzkiMwORk1lBMxYRgLkfswzRhjkjsxNRhHkpswFRi9kdszYRqPlHsyaRnLk+MylRpPlIszqRofl2MyfRublZM+CRtXlSczyRtflqMKXNc*9RwTlkM+sRy9luM*kRzvlu6*lS1fm8t0RS3bmDN1FS5vRW5k4MvLRarkbMxXrBvgUP3HRv5lkYJ1Ry8v7YmUFje*JZzMFvO*kZ+IFwO*cZ*EFw905a0IG2v0ca16G3P0Ma26GDP0sa2sGBv",
    "14a56GKf1Ga6YGM91Ya5jckP1qa7sGWf28a8EGYrzGNrTVLbzON3jKgrnGN5bRSLnZN6P*l5ygNobVBO9qNpoRErnkMO5PWrcDMQbPgbcZPY5UMPTPobchMPvPf5dIMR9PhrdNMRvQ1Le6MTrQ25dZMTXP+LeCMWbQCbeqMX5Q8reJMa1QPrfAMbLQF5fYMdM0x5ggMfjQTrfwMhvQwrgoMj9Qr5guMk1QurhnMjPQvbhOMjnR2LiNMnPRCbitMq1S5LmSMrfRPLjpMr5RKrjYcdMQTvfucdgQVvfzce2QWPg5ceYQYfgGcfAQavgMcfYQcvgScfsQ",
    "dvgWcgAQevgbcgT+dtwXVgD+fNweVgbd8Lv+hNwmVhv+m7x1Vi9+oNxBVin+q7xKVjT+stxWVk5+w7xhVkv+xtxnVl9*3NxsVlf++tx+Vm5*0dy3VmT*27yBVmn*3tyHVn9*5tyPVnn*6tyVVo5*8dyZVoH*9NycVoT*AdyhVon*BNylVp1*CNyoVpD*DLvwTNzTstK+a9LpZdEHSwvpedEVSyzpmdFHSxTpitF0Sybpo7FbSzcOV7GAS+bpvtFUSxfpydGFT2fqMtGcT2LqA7GmT2vqB6WXNdGRT1fqGNHST5TqLNHPT7TqRNH+T9nqZdI0T85qXt",
    "IBT9vqg7IfT91qftJITBgNwfVhb+ndJ6TJPrvdI6TfPwLdXsTgPtDdc6UdPtLdg6UUPwrdYsTtPtndy6W9PzXe2cVfPx1e36VPPxLdscUpPzre06V3PxXducWEPy5d*MWoQ3DeO6XXQ4veOcX4Q6HeWsWTQ5LePcX1Q6TeG6W+Q4feIMWfQBLeZsXqQ7TeasXhQC9fRcZyQHzf86ZvQI5UQIHey6aBQG5fLsZZQH1fSMavQM1fGcbTQOHfQsc0QPXfU6aqQSnfXsc8QSvfYMbcQMDfUMcRQQTfkschQQrfr6cnQS5focdVQPLfu6cDQVzgBsdjQXTg",
    "66fbQV9gH6e+Qg1gK6fRQZLgZcfvQZrgA6fOQdngaMgGQgbgbsghSpTpKck1Qu9hXsk4Qv9haskDQvfhcskXQwgFQuzjZt6FSezpZtMFTezuZtUFUOzwZtoFVe+1ZuAFX8+7Zujg8LwFZO+EZu+Fc8+QZivY2s8NOXjY7s8YOY5Y9M8aOYo1vtJlTFHq*tKFTH5r4sKqPUvbxsNmPWfc6MToPWDc5MO0S8LczsOTPZHcCMOsPZM01cPVPbHcGMPFPbPcOMPNPdTcX6QCPgTcdMQ+Pjjct6RcPkcDCeqpZJQDEuqzZK2DHOr6ZKYDIOr7ZKsDLOrPYS",
    "U9oedBYSo9pedFYT29qN9kSfzoNN9cSczoVd9*SeHoYtADSezoacC8Op9Zi6iXNcG*PDY016lgQ*Dh*MlrQ*bi1Mm7R0Pi3MmLR1Xi6MmQR25iAMmaR2fiCcKrPLLbQt9DSb9oLd8mXc9I5e2VW9o0au2yPmg0lO2nWAk0hO2qWBU0vu3eWEc0we3RWCA0n83PWCs0rsSGWDs0wu3nWFI0xO4DWGw0ye3yPnM14enQWJQ17e4iWHY1Ce58WKo1Ku5qWLc1Me5nWM21QO5yWNs1RO5dM4rQjO68WOA1aMxLWQE1ge7CPoQ1oe6xR25UWS61fciaQpTh",
    "EMj3QqPhMPZHcDAOqvZLcDcOsckpNq1hmedpPP2VKMMJPRnbncN4PSDbp6NEPT9brd20S9nmbd2TSBjmm72tSAjmiN3eSCfn474JSHPnBt4nSNDnN75eSKLnSd5ASNXnUd6OSRDnjN6eSQ1nu77KSUTn+N8TSYXmR74OSMPnkM8+OZrYGs98OabvEtb0UKPvINbRULnvKtbQUM9vLtbWUMzvPtbwUOLvYdcQUQTvir*HNz1j8LvWF61TO5fWPs11O5bWOs2hOGPX3M5TOQbXdM7BOT5Y1e20W7ziaspsRVntzdVuU01u2NWNU1Xu4MMhU2ru77WTU3",
    "buEdWxU1zuF7WbU2nu8tWfU4vuRNXMU5Tu9dXGU4TuJ7XgU9juatYQU8Tud7YXUADuidYvUALur7ZPUCbux7ZoUGLuz7aJUIHv7daqdvkU+PxxdlnsyNS4Tmrs+NS7TmXt6dSYTnbtBNScTpLtE7TGTr5tHtT3TrftQ6uXNdTYTsLtVtUDTtrtW7UCTv5tdtUWTx1tjNUzTJfrG7LETKjrI7LRTN9rUNM3VrX*ONzVYaX*Q7zqVt5*UN+1VtvspNRbY3AKXPI6b8UKYvIAb8oKZPIFb92Kb9INb9MKcfIRb9oKevIabAkKgfIjbAoKhvImbBAKj9Is",
    "bBUKk9IvbBgKl9IzbB+Kn9J8bCcKofJBbCoKpPJEbD2KqPJIbDMKrfJNbDcKs9JRbDwKtvJWbEAKv9JbbEUKw9JgRo5UbEcKwvJkbE+KyvJqbFMKzvJvbFoK*PJ*bGEL0fK6bGUL2PKAbGsL3fKFbHAL4vKKbHML5fKObHkL7PKUbH+L8fKgbIkLAPKibJ6LCfKqbJQLDvKubJoLFfK*bKALDPL4bKMLHfL9bKoLJfLFbLALKvLKbLQLLvLObLcLMvLUbL+LNPLXbMALP9LbbMQLPvLebMcLQfLhbMoLRvLnbNALSvKwT+Ttx9R9UTLvxNdZUUjw1b",
    "r7UWDw0deUUXHm8LvwENetUb6UpvcbUd1sY7QETfDscNQaTDvqu7KidY2U8fuedYcUAfuhdYoUCfundZQUE9utdZcUEfu+da6UGfv4daQUHvv8dacUIvvCdawUKPvLdbUUMfvRdboUNfvZdcQUPvvedccUQfvhdcoUSPvjddDradMKTPPre7MTTQnretMpTRHrk7N4TR5ri7N3TS9rrdNDTUDrw7NcTUHrwtNdTWDryNNyTVzs47O0TWLs37ONTWfs9NOOTXLs6N4XNdORTZns8dOWTa1sBNOmTZzsDNP3TZvsCtPDTbvsL7PSTbPsQtPlVyfwvdfu",
    "UdbwW7g6UeXwbNgcUg1wh7geUgrwiuXaY6c8SeXzY7+8WeYYYCQ8juYyYCc8ueZEYEE8vOZnYHg8*8ZeYFw8y8aXYHc94uaRYGg9D8ahYJQ9GObcYNjrYu3bTh9sj7VSW1A0580MW1o0880YW2M09e0dW2c0A80nW0k0DO13W4Q0JO1IW6c0SOc3c7YOW9Y3SY5Uc8cOZ9YDc8+Ob9YQc9kOdfYVcA6OefYbcAQ6JOPKXco6ReP*Xdg6V8PxXgY6ZOQBXgo6dOQdXgE6geQJXgc6jeR4XhM6peQmXhg6iOQlXic6puQqXkc6yORoXks6yuRGXnE6te",
    "RqXj+6s8RHXmE71uRuXmY72eSDXmc78uSxXnw79OSkXng7FeT8XpI7COSfXpU7FuU2XoA7VOT+Xtk7O8TmXqo7ReUBXrE7OuTyXsI7MOTbXvE7huUeXz9p8Lw7neU8XuM7hOUNXuE7guVbXwo7jOUpXyk7quUzXz67m8VAXzk7weVWX+w85eWJX*w82eWRY268EOWyVpP*Gdz4VqM247hwUlrx27i3UmHx5NiAUojx3tj7UpXxAdiPUovxCNiWUoLx97ipUpvx7djOUrfxHNjrUqnxNNjWUsvxUtjYUt9xSNkGUwPxftkuUwnxdNkeUuLxgdkSUw9x",
    "gtkqUz5xmNlCUzrxsdlbU+PxwdmCU*vx*7mFV1Py2tGXNdmVV2fy9dmuV45yG87+WW620e84WUo8H88XWYA28u8jWY+2A88hWZY2Eu8pWZI2Fe94Wac2Iu9FWbg2Nu9eY7w8XOY8YDY8tubUVvr*dt+dVwz*i7+oV7nbINoHV9ryd7oUVA9yidoyVBrymNp7VCnypNp8VCLyrtpeWcvcg7+*Vyv*rN*bV+5*vd*fV+v*ytpuVNTzfdskVaT+cvwudhIDSus4ZPIDaOsnZMUDROn7Z4cHIf5GaKwHJv5aTI5UaMAHOP5maMcHRv5zaNwHSf5qaNcHZ9",
    "65aP2HZP6HaQAHev6gaQsHhf6laRMHj96wZ5MUVesuZUkE1OvPZccDjOs*ZRoDket4ZTQDrutQZTwDpetFZTkDnetiZVUD+8tZZVcD+utaZWcD*OuKZXsE7uuiZYwE8uulZZgEG8uvZZMEFOunZacEGOv2Zb6EKevAZd2ETevyZc+ET8w5Ze+Eb8wGZfoEdenuZ8ACYeo5Z9YCb6MRYTQ9tedQYTns8Lw9vOdhYU+AFeicbrEMwPRpbk+N1fS1bmYN3vSEbogNBPSmbpwVW9+3duMVXf+7duYVYP+AduoU*fyBdmsMkPQybhsMpfRITx+Mu9AEagwI",
    "o9C+asgJofEFb3wKQvn*d8ASXPo6d8USY7eZd8kSZfoGd96SafoKd9MScfoRd9wSdvoWdA6SefoZdAMSffoddAYSgPohdAsShfomdB6SifopdBISjPosdBUSkfoxdBoSlPp4dCMSnfp7dCgSotSXNfpCdCsSpfpFdD2SqvpKdDMSrvpOdDcSt9pTdD+SufTybuMNaPUIbvINhvUhbwENifUqch6Qi9gtdbYQjfgwchoQmPh0ciMQmfhBcioQqPj5cqERHvj9cqYRJPjHcEYP3PakcLMPL9hVck6QvfhlckkQ+vhjclcR29iFcnER7viZdhsUlduxde",
    "AUXvw8dekUafFMdfsUdvxRdjoUtPxWdj+UufxfdkUUvPxgdk+V8fyido+VEPytdpsVFfz4"]

/-- KS X 1001, by row and column. -/
def ksx1001Data : String :=
  String.join [
    "8I5UC00m0J020BSW9I0c0AWm0m2j81KY9Vyy8ZmW620P81mW7J0KC1Km2309C0em2p0CC0qm3Z0FC10m4G2n0DS0zo9W8cGYPI8U8ZG0i20o83CX0o4h*+3*uV*b9a8cG28W8gKZ4Y828WSYOI9I0ASWEoO69WKbooNF9SubnoN69Q4be2Mp9R8blIMy8P8Xa26H8PCXb30J8ceYQo8Q8ZqY7I8r8YiYB2888WiYXYA78e8YWo8g8YaY9o8e*+8Y8KSXqY7K8W0Y0m2q*ru2nmBO0jq2sWBP0BW2sm2X0By2q28k8X4Y3m2a8GaWC2N19S0bjoMs9c",
    "GcO2PX9cKcPoPZ8fabo2MZ9T0bqIMI9QGbfIMe9QSbfYMf9cWc3oOE9Xmc7W2s820W8I6L8PSXcI6M8PWcRIPf9cecR39*CXmX5ZF78I8pmZFO8I4Wh02k8o5U*m7*0ly3*mJ*1Vy6*mV*2Fy9*mh*2*yC*mt*3lyF*n3*4VyI*nF*5FyL*nR*5*yO*nd*6lyR*np*7VyU*n**8FyX*oB*8*ya*oN*9lyd*oZ*AVyg*ol*BFyj*ox*B*ym*p7*Clyp*pJ*DVys*pV*EFyv*ph*E**c*pt*Fly**q3*GVz2*qF*HFz5*qR*H*z8*qd*IlzB*qp*JVzE",
    "*q**KFzH*rB*K*zK*rN*LlzN*rZ*MVzQ*rl*NFzT*+Ca8LunCJ4oCJCnD34rCJOnDp4uCJanEZ4xCJmnFJ4+CJynG351CK8nGp54CKKnHZ57CKWnIJ5ACKinJ35DCKunJp5GCL4nKZ5JCLGnLJ5MCLSnM35PCLenMp5SCLqnNZ5VCM0nOJ5YCMCnP35bCMOnPp5eCManQZ5hCMmnRJ5kCMynS35nCN8nSp5qCNKnTZ5tCNWnUJ5wCNinV35zCNunVp60CO4nWZ63COGnXJ66COSnY369COenYp6CCOqnZYKX2Y5m8N4XSY5p8NGXTI5s8NSXU25v9J",
    "0A8M0XOI5Y8MCXP25b8MOXPo5e8MabGHW3aGEI0vC3b0EL0vO3bmEO0va3cWER0vm3dGEU0vy3e0EX0wC3f0Eb0wO3fmEe0wabOHW3iGEo0xC3j0Er0xO3jmEu0xa3kWEx0xm3lGE+0xy3m0F10yC3n0F50yO3nmF80yac8KGb02K29Gmb42KO9HGb72Ki9IGbD2Ky9G4b0oKF9HCb6oKN9ICbCoKh9JibIoKW9IybA2Kt9Jyb7IKm9IKbE2L29H8b4IKQ9Hab5YKL9Gub3IKU9Hyb8IKY9IOb9oKf9IebBIKk9J4bCYKr9JObEIKw9JqbFYL09K4b",
    "GoL49KKbHYL79KWbIILA9o5FCvKpbZEN8HCpc3F4CwCpf3EbCwOpcJEQCvipd3ETCvupdpEWCw4peZFACuqpZZEFCyypY3E9CyWpfpEeCx0piJEoCxCpj3ErCxOpjpEuCxapW3E1Cu8pWpE4CxepkpEyCxqplZE*Cv0paJEICvCpb24cCy0pmJEACuipZ3FMCyKphJEkCwypspEfCwepgpEiCzqpq3FJCyCpoJFSCyOe8Lu0nW3G0Ae19W000J80004*0K40s05I0Be0tW5c0Ke0039WCc4oOZ9ZCcGoPJ9cCcSoQ39fCceoQp9iCcqoRZ9lCd0oSJ",
    "9oCdCoT39rCdOoTp9uCdaoUZ9x9D0aqIJI9DCar2JL9DOaroJO9DaasYJR9DmatIJU9Dyau2JX9E8auoJa9EKavYJd9EWawIHW964aOYHZ96GaPIHc96SaQ2Hf96eaQoHi96qaRW2z8LCXL02y0BuXMo5S8LqXNYaXNW3c0H40y04d0J41Cm4u0K01GW3u0LC0tm3+0MS1Im59CW0o0J82CWCo1385CWOo1p88CWao2Z8BCWmo3J8ECWyo438HCX8o4p8KCXKo5Z8NCXWo6J8QCXiad2IT99uadoIW9A4aeYIZ9AGafIIc9ASag2If9AeagoIi9Aqa",
    "hYIl9B0aiIIo9BCaj2Ir97GaTIHs97SaU2Hv97eaUoHy97qaVYH*980aWII20Ba0iW2p87GWVo21888WWo24AY5JC44mGZ13C4GmHJ16C4SmI319C4emIp1CC4qmJZ1FC50mKJ1IC5CmL31LC5OmLp1OC5amMZ1RC5mmNJ1UC5ymO31XC68mOp1aC6KmPZ1dC6WmQJ1gC6imR31jC6umRp1mC74mSZ1pC7GmTJ1sC7SmU31vC7emUp1yC7qmVZ1*C80mWJ22C8CmX325C8OmXp28C8amYZ2BC8mmZJ2EC8yma32HC98maoiXLZ2XCA8mep2aCAKmfZ",
    "2dCAWmgJ2gCAimh32jCAumhp2mCB4miZ2pCBGmjJ2sCBSmk32vCBemkp2yCBqmlZ2*CC0mmJ32CCCmn335CCOmnp38CCamoZ3BCCmmpJ3ECCymq33HCD8mqp3KCDKmrZ3NCDWmsJ3QCDimt33TCDumtp3WCE4muZ3ZCEGmvJ3cCESmw33fCEemwp3iCEqmxZ3lCF0myJ3oCFCmz33rCFOi8I4440GH11844mGK11K40GGM11S460GP11e46mGS11q47WGV12048GGY12C490Gb12O49mGe12a4AWGh12m4BGGk12yiKI44C0Gn1384CmGq13K4KGGs",
    "13S4E0Gv13e4EmGy13q4FWG*1404GGH214C4H0H514O4HmH814a4IWHB14m4JGHE14ym8Lwi0Am1h0Ii1wm8h0ci2gmGh16i4gmJh1Ii5QmMh1Ui6QmQh1ki7AmTh22i9Amih2siBwmmh36iEAmvh3oiGAnBh4siLAnOh5oiSAnnh7IiTwnuh7giWAo1h8EiXAo5h8QiYQoAh8kiZAoGh9IidAoTh9+ieAoXhAYigQoghAoihwomhBYikQoxhBoilQp1hCIioApChDMirwpWhE6ivApdhEYiwgpihE+iyApnhFEizQpshFoi*Qq0hGIj1Z4XNgqChG",
    "sj3wqHhHYj7AqWhIcjBAqjhJIjDQquhJojHAr5hKUjIQrGhLIjMArXhMEjRArjhN2jSwrqhNMjTgrxhNojVQr*hO6jWgs8hOcjZAsGhPojdQsahRUjmAt1hSIjoAtGhT6jqwtShU2jvAtuhVcj*At*hW2k0Qu8hWck2wuDhXIkCAunhZIkDwuuhZgkGAv1haEkHQv6hagkJAvDhawkKAvKhbQkNAvThb+kOAvXhcMkQAvfhcokSAvuCY5UhdckUwvyhdskXAw5heoklAwzhhwkmAx4hiokpQxFhj2kqQxOhjcktAxehkkkxQxqhlYk*Ay7hmYl3QyG",
    "hoolBQymhpAlDAyyhpslFwz1hqAlGwz8hqclKAzShrslPAzbhtclWA+4huYlaA+HhvMldA+uhxcllA*0hyUloA*9hyklpQ*EhzIltA*eh+clyA*nh*Il+B00i06m1B0Ci12m5B0Si1smAB14i4MmIB1Ai4omJh1Ji5ImLR1Ni5ap8LwmNR1yi7smWB24i8omZR2Fi96mcB2Pi9gmdB2ViA2meR2YiAYmgR2hiAomhR2kiA+miR2piBImjR2uiBomnB35iCUmoB39iD2mqR3KiDYmuB3biGYn2R4BiGon4B4IiHEn6B4PiHkn7B4TiIEn9B4biIYnBB",
    "4qiJMnDx4uiJcnGB51iKInIB5GiL6nLB5LiLYnNB5WiNYnUR5yiO2nWh68iOcnYx6DiPAnax6KiPYndB6eiSonqB7KiTontJGXNh7ViUYnwR7iiV2n+R7xiVso1B85iWYo2x8CiXIo5R8NiXco8B8qiZooMB9Sic2oQB9fidIoTR9yieIoXRA9if2oaRAKifYocRAQig2oeRAZigMofhAgigooiBAqiiYooRBCij2oqhBOijcosxBTikAovBBbikQowBBhikooxRBkik+oyxBqilMozxBuilco+hBxil+p0BC1imIp2BCGin6p4xCKinMp7BDKirMp",
    "LhDOirkpNBDUir+pPBDbDI5UisUpQRDhiswpSBDnitIpUBE0iu6pWxE4iuMpZBEGivIpeBEXiwYphBF4iyMpoBFBiyopphFGizIprRFNizcpsxFTi+2pvBFei*oq4BGOj1oq8BGej2cqAxGqj52qKRHKj5YqOBHXj6EqPRHij82qYBITjAIqgBIijBMqjxIvjC2qnBJ8jD2qrRJSjDsquBJZjEIqvhJijEsqxxJnjFYr5BKLjHYr6xKSjIIr9RKdjIYrARKgjJ2rCRKqjJWs8LwrGBL1jKErHBL5jKkrJBLDjL2rLBLSjLsrNxLWjM6reBMXjQIrgB",
    "MgjQkriBMnjRErjBMrjRkrlBMzjS2rnBNCjSsrpxNGjT6rsBNijX2s4ROKjXYs9ROijZIsIBPajcYsdBQTjg2sfBQhjgosiRRKjl2szBRujm2t0RS5joYtARSijo+tCBSujpctExT4jqYtJBTKjrMtOBTajsYtSBTnjtEtTRTyjtstWBU4juotZRUFjv2taRUIjvQtbpSXNhUOjvctdBUWjwYtgRUhjwothRUqjxMtkBV7jyctxBVjj*2tzBVyj*st*xW0k06u1xW8k0cu3BWGk1Yu6RWRk1su9BWbk2YuBBWqk3MuDxWuk3cuGBX4k56uKxXSk5su",
    "OBXak6ouRRXlk76uUBXyk8sugBYmkBIukBZ0kC6umxZ5kCouqBZKkDsutxZXkEYuwRZikF2u+BZvkFku*Ra4kHYv8BaykJsvGBb4kKovJxbHkLYvMRbSkM2vQBbfE25UkMkvRRbqkNMvUBbykOIvXRc7kOcvYhcDkOwvhBcjkR2vjBcykRsvlxd1kSYvoRdCkSwvpxdGkT6vqhdOkTcvsxdTkTwvuRdZkUIvvRdekUovzBdrkVUv+BdvkVgw0Be1kWYw5ReukZcwFBf0kaAwIBf9kakwJRfEkbEwLBfLkbYwNBfakcMwPxfekccwSBfnkdIwUBg3ke",
    "IwXRg7keowgBgfkgkwhBgmkhAwkBgvkhkwlRh4kiYwsBhPklmv8Lwx0Bi4kmsx3xiHknYx7BiWkocxAxiqkpMxDhiukpkxFBizkpwxHBj5kqUxIRjDkq+xKBjKkrYxORjZksoxYBkCkv2xfBkekwoxjBktky2xnBl8kz2xqxluk*cx*Bl*l02y0hm8l0cy2xmCl0sy3xmHl1Iy5RmMl1Uy6BmRl1oy7RmUl1+y9Bmbl2UyARmjl32yCRmql3YyGBn1l4EyHBn5l4cyJBnDl52yNRo4l8MyYBoBl8oyZhoKl9MybpeXNhoPl9gyeBoXlAIyfxoelB2y",
    "iRoplBIyjRoylBsymBp4lCsypxpGlD6yrRpOlDoyzBprlFQy+BpylGIz1Rq7lGcz4BqKlIIzBBr0lKYzIRrClL2zMBrPlMIzQBs0lO6zXBs7lOYzYRsAlP2zaRsJlPMzcRsQlPozfBsmlRYzrBtLlTYztBtflV2zzBtulW2+0xu5lWo+3RuGlXI+7BuTlX++HBv5laY+JBvElbI+LRvNlbc+MhvRlc2+ORvaEo5UlcY+Qhvmld6+SxvqldM+Uxvylds+WBw4leo+ZRwFlf2+aRwOlfc+gBxGlj6+rBxNljY+uBxZlkI+vRxilm6*2By9lnY*6RyRln",
    "o*7Rz0lq6*HBz8lr2*KRzLlvI*iB*5lyo*pR*GlzI*tB*Vl+70FC1Hm5Z0NC1Wm6Z0QS2Gm970bC2OmA30eS2ZmAN0hC2jmA*0iC2pmBJ0jS2smBp0lS2*mC30mS35mCZ0oS3CmD30sC3PmDl0tC3TmEGy8Lx0vS3emEp0zC3rmFV0+S40mGJ12C4GmHN17C4TmHx17y4WmIF19C4cmIV1BC4jmI*1CC4nmJR1EC4vmJp1GC58mKd1Iy5CmKt1LC5LmLZ1NC5amMN1Py5emMd1SC5qmNZ1XS6CmOt1Zi6GmPJ1bi6SmPt1dy6XmQN1gC6fmQp1iC6z",
    "mSJ1oC7CmTJ1ry7OmU31vC7emV31yS7pmVp1*S80mWJ23C8DmW*24S8OmXd27C8VmY32AC8fmYl2BJqXNi8lmZ72Ci8qmaZ2KC9HmbJ2MC9WmcN2RC9jmd32TC9ymdt2VyA1meZ2YSAGmfZ2cyATmgJ2fSAemgp2hSAqmhN2jyAvmjp2tSBWmkF2vCBhmkp2xSBlml72ziBumld2+yBymm332CC9mmp33SCJmnJ35SCOmnp39CCbmoZ3ASD5msZ3QSDimt33SiDumtd3VCDzmuJ3YCECmy33sCFPmzp3tyFWm+B3wCFfm+t3zCFrm*Z42CGGn2J4BC",
    "GmFY5Un3J4FCGzn4Z4PCHbn6Z4RCHqn7N4USI0n9J4dCIunBp4wSJmnF74zCJunFh4*yK0nG753CKGnHJ57CKenId5BCKmnJZ5ESKxnJt5HCL5nKZ5ISLAnKp5JSLEnLF5LCLLnLV5MCLPnLt5NiLWnM75PCLenN35SSLpnNJ5TSLynNt5WCM4nOV5ZCMDnO*5aSMLnPV5cCMSnQ35gSMqnRN5kCMvnRl5lCMznRx5nCN5nSR5nyN8nSd5oiNCnSu*8Lx5qCNHnTJ5sCNWnU75uyNbnUp5xSNknV35zCNsnVV5*CNznVx5*yO0nW761SO6nWV62COC",
    "nX366COPnXl67COanYN6ACOinYt6BiOmnZF6DCOrnZV6ESOxna36GSP4naZ6KCPHnbF6LCPLnbp6NSPWncp6RyPnndZ6USPyne36YCQ9nel6ZSQKnfN6cCQSngJ6fSQdngd6iCQnnhJ6kCQvnhh6mCR1niF6nSRCnit6qCRKnjp6tSRWnk76w40XNiRfnkp6yCRunld6*SS4nmN72CSCnnJ75SSNnnd78CSXnoJ7ACSmnp77CySrnpV7FCSznq37HCTAnqp7JSTFnr77KiTJnrJ7LSTMnrV7MCTSns37QCThntJ7TSTuntp7VST+nuF7XCU5nuV7YC",
    "U9nuh7ZiUGnv77bCUMnvV7cCUQnw37eSUZnwJ7fSUcnwp7hSUmnxJ7lCUznx*7mCV1nyZ7oSVCnyx7qCVOnzt7vCVen+p80CW1o0J82CWAGI5Uo1384SWJo1N85iWSo1t88CWao2p8BSWlo378ECWyo438ICX9o4p8JSXKo738SSXqo7Z8UiY0o878WyY5o8R8XyYBo8p8ZSYKo9t8dyYXoAZ8lCYzoCJ8oCZCoDJ8rSZNoDd8uCZXoEJ8zSZyoFt90Ca4oGN91iaCoGt93yaHoHZ9BCaqoL39KSbKoLZ9OCbXoMF9RCbmoNJ9VCc8oOd9ZCcGoPZ9",
    "cScRoPt9mCd1oSJ9nyd8oSh9qCdHoTD28Lx9rSdMoTd9sidSoTt9uCdYoUJ9vydioUt9xydmoV79+CdvoVpA0Ce8oWdA2yeCoWtA5CeOoYdAJCfDob3ALCfSobtANyfWoc7AQCfzoeJAcCgyohtAmCh4oipApShFoj7AqyhOojdAuChiolJB2CiGonJB6CiWoo7BGSj8oqdBJCjGorZBMSjTosJBUCjvovpBkClKo+JBvylfp0pC3SmGp1JC7CmTp27C8imdp2ZCASmip2xCCCmup3dCEqCXNimyp3tCFin4p4NCICnCp5JCLSnNp5ZCMSnWp6JCPi",
    "nep73CTSoOp9dCdCoWpAZCgSohpApChSoqpBNCkCoypCJCnSp7pCdCqCpKpEJCxCpmpG7D2Cq9pGpD4CqOpHdD6yqTpIJDACqipJdDNCrWpMJDRCrjpM*DSSrupOZDbCsLpPZDdCsapQNDfysfpR3DnCtCpT3DwCtipV3D+CtvpVlD*Su4pWZE3CuKpXdE8CuXpYJEACumpZ7ECyurH25UpbZEMSvSpb*EOCvXpcZEQSvhpctETCvrpdZEVCw4peNEXyw9pf3EaSwKpfZEeCwXpgFEfCwbpgpEhSx1pkJEvSxepklExCxqplNEzyxupldF0Cy1pmJF",
    "2CyGpn7F4yyLpnpF8CyapopFBSylpp3FCSyuprJFLSzOprpFPCzbpsVFQSzmpt7FTCzupu3FXS+Cpw7FgC+mpyJFuC*Xp+JFwC*mp*7Fyy*rp*pG0D04q17G6D0jq3JGDT0uq3n58LxGHD15q4VGIT1Gq5JGMD1Wq6pGRT1mq7JGVD1zq87GfD2bqAZGhD2qqBNGjz2vqC3GmT34qCZGoT3GqD7Gqz3KqDNGtD3TqE3GvD3iqEtGxz3mqF7G+D4DqJ3HCT4qqJZHEj50qK7HGz54qKNHJD5DqL3HLD5SqLtHNz5XqMZHRD5yqOJHYD6WqQ7HfD6eqR",
    "3HiT6pqRNHkj6yqS3HsD7qqVZI1z89qX3IBD8jqZ3IDD8yqZtIFz91qaZIN4OXNj9aqe3IWTA4qeZIaDAHqfNIdDAWqgJIhDAnqhZIkTAyqh*ImDB2qiZIoTBBqjJIsDBSqkJIvTBmql7IzDBuqm3J0TC3qmNJ3DCDqmxJ4DCKqnRJ7DCTqn*J8DCXqoNJADCfqopJCDCuqpdJEzCyqptJHDD5qtpJVTE0quJJZDEDqu*JaDEHqvZJcTESqw3JgDEfqwlJhTEqqxZJlDF4qyNJoDF9qz3JsDFXq+FJxDFjq*3JzDFyq*tJ*zG1Ho5Ur0ZK7TH0r4JK",
    "NDHWr6JKRTHlr7ZKUTHyr7*KWDI2r8ZKYTIBr8tKbDIfrCpKqDJKrDpKtzJerEpKyDJurFlK*TK4rGZL3DKKrHNL5zKyrJtLGDL4rKpLJTLFrL7LMDLPrLpLODLbrMZLQTLhrMtLTDLrrNZLVDM4rONLXzM8rOdLaDMbrSZLoTNCrT3LqjNOrTdLszNTrUJLvTNerUpLzDNrrVVL+TO0rW7M1DO8rX3M4TOJrXJM5TOSrY188LxM9DOjrZZMETOyra3MHTP8radMIzPDrb7MLDPLrbZMNDPdrcdMSDPnrdJMWzQ5repMZTQGrfJMdTQVrg7MgDQirh",
    "3MkTQxriJMnTR8ripMqTRKrjVMsTRWrkJMwDRmrlNM*DRzrm3N1DSHrnZN6TSSro3NADSfrolNBTSqrpNNEDSyrqJNHzT9rr3NKTTKrrRNLzTOrrdNODTXrsFNPTTfrspNSDTqrtpNVTU1ruZNYTUCrv3NcDUPrvlNdKeXNayzJtDGHr3vKg1JxrHrLELM2Lh1MxPcXsUsPxTdxsjCSy9rmdeyWjk318XNY8YADep8ZS+E+u*ccTLIErDqL0HWQc5aQxnppu4QYRg9qfMZJuDI2bY+MNXPvbvoNdbXnsF0PqPdx6X*RvTsJdSBUFLw27h*V260dO9k",
    "Wd6AwvMJJcjLdMRtRZHuethjX5k948TEbwXIs5TEM2fTJ64VORvY8MLYPz5gH6uRTHXritRZTx1zEf2lb56KKf+LIo5UKoDSh7KoWDkIG9MOKbjO25dSNA5T5rwtNpfVIc5tR5zrUdM6VE1zStsnVuo1L88XXP69GOiRaloMJPn7JijEzr0BKV5OJs4tOJvXQ6KvQUfl4NMbTePsrdk7WgM4o*a0awULYrM0Mw9NKVa1VBD*kP6rK2XJkrn5NUXYqcDkPDfavsuWSAnvMutTZXxv0f1zaaMI+4v+JlPGPLt+NlfX1cbNWN66L8v7atMQAqvUK95dS6",
    "X0KGbIZLAIQg9C8Lvtl98GdjHIgs0lZ*9GI66fO+raocWyQeHlm868YQ6Mb5W5Sdroh7K4VNb+RO2fYOkBT91ZdL5YYMnwRrHzK7ywYYDHV65AUvsB6P9NaunEh4*JK1vGlb46Ki5IpLD*Lt1OWrwQNv5XTc6iPCvbR6PlPhjcz6YNROTmXN3nT9zqfNJATTbuR7ZiUjzwzdr5VPE05O0*WHk3bejcZnMG5PFXc0EOE9fQc+XFmbLJM3fPKLjZN4PWk68IQ49ei4qXNcZeRgfrJ7PuUCvwFNpxVcj+V8e8Yg6CFvQEdSHJv5FfL4fKSLRwMT5RP5mx",
    "NgjYzsKtPKLbScQWPwzfmMozTVnsa7T+UZz*b803WA61ZuBcWls3y8N1Y368j8gb+GEFd9CkbiUOPvhOdnDKxMMRPl9eZtf0Z3UTO5RmLsHT4MO6QB5epMx+T2Y8dflaR6Zv19geJvjHR55nKfzRL5tbO51WRMBnOwTbEtFPUdg6euoYbuzECblXOWXdd7JSJY5UUT63qug7YhADw91EaqkOHbxJQUY5*v3j+GLHe5kOM+nXOsZwQpvmJ7GlTDXxeNzGWyM9m8ohbToPA58kO5rYx902JufHILCXMDbUusRWRJXmcdB2SzPxK83nb5jJPcERVsjELb",
    "20M4fOtc0gOITYq6dGcq5RZtqOWB6FNqwaKD5Kh5MiMmnTe5tdPIfbJcWXQajouNQET+zzNd*vWQ25JeRVZmEFJf3AcGEQLPkhJXXEHKvTJiTFyL5tKlvF8LvJG5FZK+LKZbOKLtLNebl7NOTUq67yOjXbKMUuP+bfosjGQyPhx6n2RfrmU7BNSvPq0tU*T+bwTdr*W0c1*885WWg2tuXYYpEC*8x0a16GiP9aahQPqff5dEcTrv+SLmjSG8FAbw2NgvwqL1jwc7+aYDcEpP3XM01SI6EOUfzRhbyJUdbwheAEZgnG9b8uKlXJTrS8OlDZSciARSDt",
    "DrEbSrU5Q8vsbTLdEch3Rt2AROxCcKlv1cPtQtYCj50XNfiy+GTJwrSjMKvZncdxS+fuHNgwUiLy*eHrYO+DSv0rbQXI+rT7TKTxO8FCaXxv26fOKKjIIrA7OXzes6brbfbGnLAaKkHXmsMaQ3bf*tH+Uqk2kOFhYRABEO*HcKdv2KxAMPTaqcOHQevqD7c1URs2gOX+Y7+9N*aAaoPF2rFAO2LYSMnoVHfzPawOKM9tt82lJm5F3b5sKO1Lt5PeLpjN+bVyMHHPHrcJMyHSa5qENV5UVb*COe1brsNZKI5UPnvd7sTUQCjen6fVQpfi8snzR89jnt",
    "EOT2PqAdI2TADrU7L*U85uxtb1UKTvI7bwUvLz07swVuY01e0jW8oA68jFZ4YDTvCXaoIOufbHcWwQ3vfbdf9zoazsL0bYxcXKaT5Lgr4w+Glv35eSOURv3MBFOl*v3laF+H3v4VaI+HEGe*aK+HNv5laN+HYA*laP+Hhv6*aSPfRv7N5M+Hxv7vRZ+I1ZJsDwKrVv8MUFQM1kS*aYTJVv8*aa+ILI8Lvz3Vac+IU8SbRAMXZvAFaf+IhvA*aiJaFvBL5dMKXdy80G+IvPSrvqP9fvob*rO6nYo6DxM+TRrrAg+IzPT5yfO1BvCFan+J9qMVap+JJv",
    "DVas+JVvE9dH+JdvElax+JpvFVa++J*vGFb1+KBvGs*3+KJvHO6*Zx9WyVb6+KU1Plb8+KbSF*bA+KlvJFbD+KxvJ*bG+L5QwOebPtjz4FbI+LFvLFbL+LRvLu3z+LZvMLmyRELJFswwMHg3DbCXNauvJhPFHbMkLnXOnrzMPRTbvcg0QxLkJNVjUkzy7dtUXik8af4oarjaks++Stfrk91KLLPNJM6wPDHcnstXRbjlRM+vTV20Gu6zXK69Wuh7YrgJ7soJTLDxL8uFa5rL45W2M5XUOc87P9veu7LsVDQ7ivxeJkDNY5TkMITS3LonNZPVXM8qPE",
    "5piu7wY8kCk9QAdjjRXL+tOBDG4b80KZ1N5bWrM5TS3bnWNFPTYrwcNv9Wl6CHOuba5sX3L25UQFbgmctORY5kr6*aSVvst7TvUR5wEuG4YQcCxOtpZaYG0v0Ka5EG*PDDbdQNt6lIS0PoM7AYSsXtOtc*U+H+cuk0MAbWnsLcPVrclcoCSHvnoOnQc1DERNg1JjrHh57DKjLK366dPt5eK6ZVRHvlV7MyTxDwvO3qX6EIXL5SPPTdN6UJTTXwnuDp+LgCHf0Nc2rSRu70WfgGGP1laWrVbrsTQbbno7PxUqc5v8i4aIUQC5M7OVRvMtPfVuLL8Lw6",
    "FuUwYFYGZ*bSRHjmsNFUVM64FVbTaMgPyVbUJe9JTMi4Qn9mFd8RXYsU7b9CZwDTK6JbPInh5c*hV4D+d8NDYMI9lMB9WTY87rxAPnTjQdByT0LqRuU2aDvFXbqDNw242b6tOw1rPKwkK0PHQL79Q85g4NokVB5yvu9lYjAF6v7FJxPHDrBrL49Ux65kOZvbnMhQR*vvAeNSY2ELhPfYccgUbvxEKfjcncjtS1rvAuzYbq9Xa680PIDl8rOXNd59T8bzz81lXEwF9f0ZaqfHlL8NKgDj3738YC9UoMM2Qwvlmdm+StLEv4ysLldvNrowNRfW77EoUo",
    "r*cd*EW4QG7f8qblQNI9WOds5FYs+dUQwHj9QtKjxvO6I8PCHgqszUS1Xo47RdW0661ePSZU+F1PSocs+T+fvrU8nvVtsWWycJ19v*dfEArbZVNmHd9t0dTCzyO81+KI5mA79YUCgCmepQZFIMzqw6KDfRxbxMPPbnpdP2Tws0IeJyLo5Ua7oR9v+DMDXQGLnYQXDjscyFTZjzBtutXHw9E9FabajIYMNIP*Dfj6r1Rfnm3tG9T61rMNOaU6kBB9XUKMrYBfPuJvPGArqPRUfzk8ygNujXH6WN+M6MXbBIW8jHt57CQLvw77s+W*6MTK*QKYbJc5GF",
    "LGvSPM2dPqveg6riSe5o+7G6T8FvOdNYV6n*UN+uWuc8puZXaSoHq9RYcybK7Mz+ST1qc8NwZggMevnNdfzdbstBT3E1w9SMU2nO8LvwotiWV99aQNHgTV9ul7ZecQoRL9wxMzvULMyWWPo3gv28JWTJJLefNT9VJc5YOprcQMRyRlzlAt1ZTvw4B8KJY3kF4vb5d3jL76AvPojiguC9YMgNUawXMOHVs5*PPnjzidzKWfA3AuEzZnwGcLVBMRbQablGPYTdccY5QyznP7zrZBUCuv21cqM128oAbaoQG9wbMrzi4tCRTl9stuGCKQg9ar5DKPLIoM",
    "Z9R9Ht17SWVRzzx9TYdhLknLaXNeKHKQLK3LHzPWvcdMadRfzsltUHWnU4meUVaMcIc9pqY89Fhb6IKjzPnbuzOLLaU6HvPgvdq6eXQyrhst9VSc5qGNSuTzk05uAyWmMB08ieZ8ndA6oGScTsxdTcUaQTgMj*R99P8cScX9bJRrYJMPbUtsFFPZHdSsuwSojwruBNaoXIsLthOQvXos8AOiTagsNWQLbhPclBSI5pztLTVaQ27eC2XMgAeuo*boUTOLYedjXG4L8EL3jLJsM7MY5UR7Pz2dqBW5w6YfM0bkzI*soLScbKSrgQN3vTIrzCNwvdAcYs",
    "QMDkF6v4TmbySt+EXOUB3e*tbs6Uz5otOBPX3M6hPKzb+sNyR15ixtEVSybzuPMKMyQ778iGKbrJMcBDP0zaicSqQZXiodF0T9vxb7oLVXk1Ye8sXOIFwvRvcS5FD5DAKyrJssBCP2nb06MHQSDixczOS+rrL7OYTkHs*7ZGUFjvB7r6WYo7u8*Kc1AOxrB3OjHafMuaRr5R8LvsV8tBaR6IOfhkcqDG8r2DLqfPg5meNaTVTs8*PJvbkMN1PWbdYscSRi9unNqXWAg1W88hWhE4eOQCYYgB5v2cbZAVa50DJ*FvOrVvNvXYt6EIPszkGt4PTiE0p8",
    "3QYFI8zOaPZE2FAP5DbcfFBqzmNXjdpsWYTdrsVfj4Nc5g2d5fSTHrQlbaVa65GuNfcDnF47jFVt2LfL7XNWPejMm+R4vistAlUyI30spLT3fG+rA8MC5as6gNTATsLbmXNdYdXXULufSv+MLJNby1YugFg8+la8fI9NUbd4cV24uPK09HTLnRNdTc7cOwPyHenN2pTG5rnNd9UjsF9vaWcWXFtLWXM35RzcPkQsLj4MvwRtrpv7KhW+c8t8aJYroF54yFKDLJ45DSMvDVgMSDUO+1UOClXHI91uc6ZpcFEvcbd19dB4vsJ*XPILm1NEzSy6DdQD9m",
    "*N6YT2j+AuJiXmAG8fBIdFDE3KxOJ+zGXL9MKczK9bIGL+1PArfcNI5UMrfRTLlCNfpvPc9sPNTbfsrkRgLoDdicV3z*De5GWL61ce90Wfc3gOe3ZA2CvepxZNIDkf3eaToM79P4cTcSvrCNKWPKALPqMBDPL5bkN*zXf69kPX1iVd4QTiPyYNpUVHk2h8p1bl3vPqzRNnTVVsB2NIbd2sZQU7n+GvriJXLGcLCLKofJKLc3Mc9UXs2oOOfYIM9vPP1dXscdQzHhrclNQzXikFbeT3Lr+dWIU95vrNdOV8Dzot*XWALU8Lw1Fe72W*A76eZeYhcBR8",
    "oxaHcNNfZRdpjMh5igNsnbZ6gpQwzjN6*nS1LoNNEjZAUCqvWxOP5iDu1OcW5EJKwBJfjErKywJpnFVq*VKFzJybFuLGPLurRRMEjPObeHM+jR+bm4NVDUAr+PO1rZQ6MSPQzdzcVxQArhUsoPRDTk8t09SqLu0da+UK1vO7d1U+bz5troW8Q23OEEXD66nuZVYb2ANeiTZDoDPe+jaAgO*9dVdfrIIlbfPnJvQbyXNb2OKYfSSMLZR5LpodKZTPrxbuISaNYNC4vtP99hkd5UXQbE2VbhPqbexcuNWf+568XhO*TlWP8IcAzE2b2tKCzH7rL6LQfM",
    "5rj0N1bSu5uuNefUe5x2OFDeKMfXRbXoFN90Si1s+7bbUx5*r8ZpYVIASunXZDwN75XUTBsC*LN7+MnwONqYWd9oSdKVTINvRNiPM8LO+rsyNezUjb+GO5LYacD*PKrcaMRPPlXe5cZoSe1qNdjkVMvzrdzoO25UWEM24eMlYN+Aav0TakIUpPyWMHLPRLujODnc56PpPv1iK6t5RrztytYfXCQHovChJjbGob58LOHR2rkZOaTbVcNBRZ9nVNG1T4HqXtI*TcnvgdtQVbL*g85wWRE2EOOQX+oATOtZa7YIaPGbcKsRhbDeN55fL6p4RIbkAu8CXP",
    "k9EuejYggMwfzdKc5ckMkoVfQ7*eqDbOEMNMKTRObnxlbkLyvPqrkiO2TW+c8GPXzcNtCfS*bsstS1UsnX8Lw0Le1oWMMAe96IJXPIucjoRHTw1NivVJ3vRuomK+nMBrXHMxLS3rmHNU9YG6E3P1HcBMYpRBnjY6wlS1zmf77ITIPrZtMETXbx4NlWV2jz87qvXIo5ROO7YZIG3P1XaBMIjvVscZTFrrniPrzjaNoVVeoB5eqMa1zRQrtzP0s4m91ScE5pXrkBO9fdVctUYX+Aff01c0nID*bmS55uZfEMY72Hrq*kKzTL*LRQLu9O*Lh2MuXSgrp0",
    "NYLX0M8XNc8DOajZY6GSPJPbU6evQufiD6qPRp5nvtBfStXq1tIoTYPtONd0UbTwwdovVOzzh7vXVvw1AOCnX924seNgY9QAi8kGZpYGGf23aMoIbfAvbekMfvQebjQN09W8cPQQqviQKzHOVbaPMt1RlstHRrfndtGXTBc0XOFzNU5VXr+gO49bx6WIQMzgKsk9RJLjytFZTlvth7jDVHI18u8SWq24z8LZYcAAn967anwO1fcqOWo8Ku*macLT1rqdOo5UNMbqNu6TXsXlrMB+VzA9DeboJXvEM53dKjrJHs9*PWT+QOW5bbvFZLCPLZPPorgaN3",
    "XSJbnDNW9V4M13PRrcBsP2Pxvdz7CST+9vEd*5X9I4pOcMYcQAQOhXZ5MCUbVqMzHV3s1lOkrf3MkMRbnnX7lIXrMBM8x+cD+O*ayuJu5FuLHxMY1Rk64yPR1cQ77yTJDvNdqpWKw1uuEOXQg5peS3YWgEgu+R+N6FnLanMwHRvc29M+bS2r*3R85a8LxvSctnS0jr6eAlYlPEm5D1+NEMsMmFJfvFn55ILLvQ9LpeOX5oMOAzWwg6*eXPYXsMFvR5cHET2PrTM0fSirszNaHWuM4LO+5g0cubaGAJL9XEd12VTrk9NBXZ2MPFQ4XtF9R1busOL9kV",
    "PQ6B0OxBbRnLDLofNTPUjMQNTao3z9N7MDDYl7BEdIXEy5akO0zcEsk3UUUT9bEJLC1NmrqMOHjcrcslU8s2VfQObqHJX69yOvPjiduAWKkOJMKXNchxVqoThvuQJbzGEr6sMHnW+MFsQJ1oEe0s+NIHpbyn+NNvTdq4WkM4RuIxXUMEZVbtJs*vUFbvMEHRGs1POzfb66LjPfZvUcbAQYDj2t01SMnrqdODURDwSFbxVuhvV8b4+NsBav70bdtvVfaALmHVeMMyRm5s07ccYfwPhPjQdsnH166sOf5gZO76K4DOC5zcSGcA08hwMto65a*wKJnMj5",
    "b4Owbj+LsgQMrHXaw8JrdvV*c0+O5PWlc2PY5U+ODhNsnT+OHqjNaM+OM21u95WpcFFuzT+OQP6Fc7+OZvYKwc+OfNtrzvPXFvY*cCTQj+UOjl+OsG1ffRLgLO9rduMXzRjFcENlRvZ*cGOr1ZE*cHQJriXso*ROvjastrRnJvad3VSJPnMVcJSSDnrVcKU4zuR*cLUtLzu*cMVY*vbuXDZj*vcFcP+PgIM*cRdFRvdFcT+PvWXMs5+PzniVcW+Q6LiLEj+QBve*caPzFvfN2ESJ1qC89sWj9d8LxvffMxckMUVMR4+QTnmOH9+QZvgLXB+Qhvgrsu",
    "Nt7vh6OWPevfUMckR3XiysusRq5lsd0RS2znK77VSt3vhNHR+Qvqr7R8Uav+a*cl+R22yOfWZyxviPD8+RAN6Vcp+RHEGb0g+RLI25FXPlDiRM*ASmftVtfYWgw5tOO2+RQ8r8fZYtsCQ*ctahFvk9SJc11Eb4yDJybGibD8L3vKCrNQM69OkbbdMXjRv62V+RbXocLMPVzcP6YdR5flisWXNd3FSQnpKdjzXmYAf9modmTSIso3SqHpYP8wRgjqPNOVUcb+5OOAKK1OnMJ1TEvr5NPmVy6GbPRDcLHk9dJcUgbwge7bXjc7U8eRMabRZ5kRQA5f06",
    "rZSwbq4tGiU9TzwN*hWHY1LOEUZ4oMBfWHPl1VW6NwPubiQdEBK2rQ0sjgT+vP5briNSrp9NLF+Rhvkr3bKVbOBrajMPPPsblb+RpvlLsYOjTa5cIJPFxvlcRS+RzgIFd0SVzqPFd1QI5UUeXwhtv7Vbw0085m+SA7xuc1Yo2GMVd3a82PKc5+Qp9jT7uVYIMFiK*HKArHbrB7LyTOYLkvNhXXGccLROnkPswsSPHqOdKeTIo0SuCuXCcE2fEKazxvn4wEJr5GTb4gKyXJorFpMuTRqrmaOHfXWcNqSbjpbtH0Ti9vK7cHURbz1d+zWek5rOPUZyAG",
    "Hv3raUgMXPRebkbIrbzdPUrcCMWlSLnwDf31c0fEaVd5Qb9hdc+GSOc068AuXLDg8LwGIvQLblAN+uKQcp5Ea76AbiHHGrEVLE5N4rSILwDQcrh4MyDWA64*O*HiXMqvRd9ka78mSpzqLuBHY86FHP1W+SQMOfXOdHjd28sAabvFJL19KDvJSLSDMTHQ0Lm9ON1ca6ujSZ9qIttlWCE43eHcXJ+7NuXRYHYB0f1LbykRJqvpJv5H4b5g+STLBrMfMtfRfLvyNdrUlc2WODzX2649OyHbE6S9+SXdr6VQ+SbfOMbYRBbj9*dARZZvosiXNc*XSpPpD*",
    "dCT5nrCVdDTbBvpldFVQs1*eGuYDMAc8hRYksEC8v2a4gGFf1waKcHoPDk+T3vqLW9+T9hqu29WBBvq*dKKK5PQrmv+TNvrczaSwU0v8q7+TUI5vMF+TZvsVdQ+Tk0Vs8ES1nzQ8UD+TnNe61fOKThjug+ae2MiKvPL1zjwuKjbd2NyvZkOzPiuv2HKTrXoO6wdVbFdL0QKG1Rd64FOVzax6a5QyLraNVZVwc2P8MFX*k8OugyR25UYt2HgqwCJkLF2ldT+TvPDrde+TzTybyRNrjW8VdW+U7vuldZSZvpvVdaTN1rpVdbUVlvve0CW3E0X8BXWr7v",
    "v*deZBsCiv27+UdvwfZqcGpvw*diS3Tsod*AVyn**8iQJhfEmL83Kt3vxLIzLk1P+rl5NnLVpMvk+UxvxtrgWpNvy8QJYetvyPTjbtVvyldpJW1FMaz+MFbbvMwYa3YJi9cvJljOx5cAMTbWGVdq+VLw5FdsWq+Cmr5bKqHj8Lxvz*du+VbEpL9fMrM2lqxKKZfKg5d9MVzRK5jNMrnWOs58RijmcN5kSuPqztMrUC5zAu05WUg3A8KNXScAxep7binFN5BwLhnbgsOeS7nmk78rVRs2ZP5Cbi2TSbjnQEThc6zwTjvSaMQhRrjxj7mgY3QMt4u8Jj",
    "TJ85WqMBjOxrbiN0TUCrw4NpLZZ6QoPrPg7sgZQmnlFt96+VfpK7IBUk1yfu5uWT+1vuEAX6o58uMKXS+8tOqJaQoLTsuXNfQSKOrKoLSeMx1YJMTGQ3reasuzRjDmVNuXYC6CeOy9dqkVJd8jUu+ApPCQJqTFJb4oL81Pq5wLOhLdTMbkQXTihcuQSjbpAdMzUxXzDOBdW*c4LuNtYbkChuw7a1cGk9REdrzIurGAMk5RmcHOPNLkz7B4+VjsX7fDUnjyJNu+Vz+3UuihZCgDP8tXZb+Fwe*va6cJqKz3JtfGir5eKNXIJL9gM65OV5bWN0XSLLxR",
    "O9jYC6WJQxzi26+nRo5USKvq87KmTJXrKNPoUqnxYtkjUyP+ZufkZpwFIP8*afEJ8fGhblkOMfXhcHvI1s8gOfXjMNPaUifxm7rsKs1SlbwNRpXmkNoObn6RZfxUOwLaUeTsJW5EbKwjK5nGTLH8MSDRcbv0NgrUzr+1OCLZEcK*PNHbp6PsPdXd*cbeQebhOsn0RS1jw6uVRbvm7d2XSuvp*NKwTrjuXtcEUWjwVNo+VOw2Hue2YkgCdf4jaKgHs99caioJ89S6brPm8LwNN9W2dmvIDbAHLNnO95uTNnzWZ6FGQAzlttbjUoo1pOMwYFsA+8v4aO",
    "sMP9QRbpsOJ9zAJyvHHb7BKgbMCbyKNsjZgcJDPUbcGMRwPlbd7MYTQDTf*MyLRsvnPt7bSYfqgdSwULPvMddVUY1wbNoNVDzzH7vmW8U5+uQaYbIAlusPZe6G891jaUEMEvRLdELbptm7ZREJmrjON0fJKcBPSnrG9rkNNvvWi65hQDLjsNGkUYvzGdsSVZ61Qt4XNeugZZMJVfGOJr1NK5tcNgTZAtzgJZjFJq+FK5fPtO34L6fKQ5N+MKzRcLtUNjfcNMSnP*5eAcpeRJ9kIc+DSBTpu7M7V4nz0dqiVQA27uRRYZkAXOrmZegFCv0naKwHKfH4",
    "cT1w+NobJyfH0L76LyXRxrpxPbbgFMrQRfPlx74CTMzwuuWYa26GTPRBcV+30KujJlA8Hf7DKtrgssbhR464UbYUOOvc*cBlSDrr4NN7VbA4k8j9ZGXEIrFgSY5ULAjNC5T0NzTZ0MC7P6zbBsNePdfddMUpQs9iO6oQRontvNWbUKbvLtqPWAA10e7pWfs2juSOYepv*8q4ZRwGSdRqUXbwDtvKW7TL1rNKM7LZBsGYPabcIsXjQPjhX6qbRh5ppNHeTA5rMtMvTk5t7dUBUUP+2NuTWVk5BuYNYZgCqOxhZx2GCfEjbcEMSvS7JuHJyLdgMibU6M",
    "XETCPrlddfUfA1euRjZEgDp8*jPPzd5VdzL*TlLttTZozp8LwJzfR6NxLXyc+4JXHFc50VKybLtrrlNUvh8MjaUCjxcld+ZacEof1kOqbaFdT0UeIJBvH*dsfai6+lSUPqg7JQUiHy4dw2VB9+c8kQZGgKVPaGcKnIELlVPEPdBNqkKErJmrXvOLXXMM7wPQnwsOkIYvPG2L0XKdLLCLeyNk1VS64qPLvc36OsPg9fpMx4Rp9p5dOXUfE1EO9PWzQ4l52rL*1Rm5leNsbZeNWcVRM3t8KXaSUHzL6AP*LxLdGXNeoiKSHPks2zXbLG7Fd*KbHSEc5z",
    "OXfYqsJoPQLkp7OWWGgEO9PVbhjEtrD3LPXPALtTPCLioMtwSvHwVu8RXQQCv8uGa7UHvvNXbY6Nnb7uLF9LXb+vPAHlY7sqZn+FJPGrKCbS5co+RVjr6tUxV3ryP8fvYi9O7bc+NXPZTt9ITOftQuhSZBoF4bxpPdHj+81zWy6AovTHczRw0593PlzjbMxlVU2Avf0ka5wQr58TKdzKw66KOeHYssYYTI5UQH9fMcerS99n9dXTUG5v3ddIUWs0be9uWjM3IOL9Z8ADXP5YaOkHha*3Lj5nxNVNXm29+5luNzPdKP2eK+9OMblrOAHXWMHWVZs0S8",
    "KbaeDahb2iNHHd05YSOhrZg6aEQNXg7cvhThfvouAxX2cApuseZ*sH4f5BaPoJ49COavgMsvesd0rE4NLSULrw+djHUyb+BeJ4ZbcET8xua11c9Ma*T4DH+cSkdjnHHL*WR9Q7yeXTY7TWj86rX0Ds8LwD1LFML3bMD5esN35mYd*WW5g11e7jZQEHYPfVdV9GT4x4Kw1W+suiN6HFY50aLUHSsLvVO6Leb6oxRSHnldNKTVHsONeQUabznttxVsw1z8QfZnoMoPcpdr9IHrB5cEs9gau3Pz9l1a+rM+9dbMo8RNXq6tWdaTsJV8V4UUHwCL*hJjPK",
    "f5K+MAvPfM3mObDYrcSsQLM2DPP0cR6PtL0iKrDLH5Ty+W5YMFe2PE9cQsVTRy5lxtGYT3YA5tSXNfGuL55M1bTcNqXXccjES5XmhNsxYfLPQe4hOw9t280zZAfOL6GjQRjRbLuHRc*w0uLfKKnJy5agO21XIsk6R71iy7iUWCw2r8t6aB2OiVe4PCTlf6IHPGHHJbGGLn+A3c5VQ7Rw1NNRUr9zSP0QM0Pfp85*YIgG09WvK7XPLrciOfMG3vigOLroUPNMLs5QHbtqOefahMJwPtTiucq+SYnqDdWqVtU2hOtRc1TI95T2PtzoI7JZZAcFff8HU2",
    "5UbYfHQrFjOqnFQLK4O9PbLsoRRNzoJ7BzUXU9XuoTNsrlZd3vWQXX3a+*K4zYGN97UyTzw7*fa4sNhPePZBPNQbvpPx243OfLL21R5bvZNk9V2cM3WBg5FPM9bbjFI5C5KmrJ3rI6LFfN0ru3O1PYcsAnOrNw1cpXRMPriNWoWDw1BuBUX664ieYDYHAG2vBgcFsRaLv5PhHctN0HSWRw1q*rKdrVQc5JPrDg6My2TE9vQ8XeZ7cOnvZ4caDv8LvKmNeVQLEAzunAcAYPhbzyOgjridQkYAkGVvP2KpbVF5*5RCnpp7LYTOjxHeB+cPrEJv0yJWjF",
    "LLEcMGzUo6OmRBDqLODtXsQCm91GbnwS5LZHMtY6K8iKdRHRqc1eO8rbyMnNRo9let0QVrL*y9MHbPAMK9VJKdAFH57zL2jKk5LZLOfgkssrVTY2PfASbdUUULG8LCXsqeRabQILr9PSJg9F2LdkMkPTzs1IOfTdRMX1R8PkBtyuW9k2AdeXNle8+WcO1KwbK5LKirUJMLfRQLkpOSXfTsrtS2E7+OdZYdAAvv22cUsQk5A+Q3XG5bvuPq+3HuXCJgjK4LQkS+QH5PV*cGcPLvcPLbDOduPRYZ5XichsStkEqcj7bggQLrbLSW2DQvTfJzHSz5ycOV",
    "XcMsphSAjpX7EvS*vtANTDVKDzOduZWZU8KleAZEAIIPXlMr5wT8X0c05Qp4*WKrHPFbpzOpvjUNBvWGM11uEYai+OC4weKKHI4LUBUo5UNs9imcxES0LmK72lSP9pwNHfWqg7eeXXa0YGefEZcQXHRbzNOE1XPsQpXLcEIf6lbujEJawIL7nOrLZwMNrSjLydOZPYI6OAPcThwsrfRSzkLcxuRvHlu6*fS5roq7GbT5fqu7QJULnyoduUWE62feHhXB+6JePVXtIBTungawoO09XbOD5Y5f5tMbfc3sttRZvqFvj2N*rWsdiFLCHV66nURDDjAd3O",
    "VGM6UOeCdJjJ5bICMmLgEd1hTNLy8LvvZNc+Wh63xufnYq6Cg9Tq+Wjaz6KhUBfuktfhJZXLcbbGMwPUUs2ZOzjhOMPbQ5Dk6N5bTB1z2924cccS9MqxRj5pFen1bSfHy5vCNwXWJM3sOJ1XJ6P3PaHffMp1RbzkoMzYSKnqd7Q7Uy5y9uDIXrUGKPQDdiDJBrRUNljVYc1YO9HXzsPcPmDgd6tkRwvmS7DgVcg1leCqXjIAg8p4KeDpSbkMQckK15JkLePRNML8POLcoMYVROrjndqXNd8xWBIHTPfDJwzG6LEQL0vKF5M9LSLUFr+CPprnPdFTa0",
    "LIsrBpM6HOpd44SOzn+uMmYXDcY8MeLQTcX75AX35JILMPQy5VML+zO+vcYN57Yl6F7Pw+Jn5aEd3BTMQ6Ps1aYqwT+557KVPJ26qsWFYUqMOLQoDmc7NLL0DSUNq7YXPh86izQqPKE61mRJr*rO88KDPHtbMSLcjMpLdiMmbU366POPXYCMPUPkPncN6vSRfoftcdUW1*iefm"]

/-- JIS X 0208, by row and column. -/
def jisx0208Data : String :=
  String.join [
    "8I5UC00m0J02*mp*3Z3x*nh*6*yV*m4mcp2S0BJ*G02e*px*u*y*CFqm*Z2TC9um0qxTC0Km1Z07CFmW5I0G*m**F30S81R*N20c82KW620P81mW7Vy8*mam530L*pl*FVzR*rqm2309C0em2p0CC0qm3Z0FC10m4VyB8X80iG3N0FV*7I9W*np*7Y9c8cSY7Y8q9a8cG02m838WCo43*+N*102Y0AF*1Vy3*mR*2lyW0ASc1YO59SibpoNE9SSY8GubnYMX9Q0bioMo9Rqbl20xC18XaY6G8P4Xap0J8Ze88WWY2oA68eSYWYA38YeYAI9A1o8d8Y",
    "W0h27I8TGY02838bmF8Y0YfICI8W8Y1o9X8b8YQY9h8XeYFI8T8ZKYAo8i8d888IiWC2Pl9cqcQY0W8240jY9+0INl8p0A*n3*4VyI*nF*5FyL*nR*5*yO*naZGHh*8VyY*oF*9Fyb*oR*9*ye*od*Alyh*op*BVyk*o**CFyn*pB*C*yq*pN*Dlyt*pZ*EVyw8s4Q*q7*Glz3*qJ*HVz6*qV*IFz9*qh*I*zC*qt*JlzF*r3*KVzI*rF*LFzL*rR*L*zO*rd*MYGXKp11C48mGp14C4KmHZ17C4WmIJ1AC4imJ31DC4umJp1GC54mKZ1JC5GmLJ1M",
    "C5SmM31PC5emMp1SC5qmNZ1VC60mOJ1YC6CmP31bC6OmPp1eC6amQZ1hC6mmRJ1kC6ymS31nC78mSp1qC7KmTZ1tC7WmUJ1wC7imV31zC7umVp20C84mWZ23C8GmXJ26C8SmY329C8emYp2CC8qmZZ2FC90maJ2IC9Cb8LOmeJ2YCACmf32bCAOmfp2eCAamgZ2hCAmmhJ2kCAymi32nCB8mip2qCBKmjZ2tCBWmkJ2wCBiml32zCBumlp30CC4mmZ33CCGmnJ36CCSmo339CCemop3CCCqmpZ3FCD0mqJ3ICDCmr33LCDOmrp3OCDamsZ3RCDmmtJ",
    "3UCDymu33XCE8mup3aCEKmvZ3dCEWmwJ3gCEimx33jCEumxp3mCF4myZ3pCFGmzJ3s9Y4O0v43aWEJ0vG3bGEM0vS3c0EP0ve3cmES0vq3dWEV0w03eGEZ0wG3fGEc0wS3g0Ef9a4O0x43iWEp0xG3jGEs0xS3k0Ev0xe3kmEy0xq3lWE*0y03mGF30yG3nGF60yS3o0F99o4X11044GGI11C450GL10445WGN11W46GGQ11i470GT11u47mGW12448WGZ12G49GGc12S4A0Gf12e4AmGi12q4BWGl9r4X1304CGGo13C4D0Gr1544DWGt13W4EGGw",
    "13i4F0Gz13u4FmH01444GWH314G4HGH614S4I0H914e4ImHC14q4JWHFA24W9G0b0YKC9H0b62KK9HmbB2Ka9JGbF2K19GCb3oKJ9Hib5oKZ9JCbAoKx9Kib82Kl9IWbDoK*9HqbC2Kb9JWbGZ0XNawSLHPQ0vO*LC1X6sCeMVQG8eHrWnnwK62gO+5k9MNjX6Q2fflrQ9DN9sMXOd5RcrdGXdkOz7rYVRwRZc8MV9+8jrk9NhLZ2MQNQ4YLnvUDPqzEvKyAJqrFdL19Ll9PDrdKMW5S2M3VOGzXS6OJQGLmkdLFTN1v+tsjVU+0muGEY6EB0f1La7",
    "fJEqwLJgLNtu2oaC5uxqu0MF5kef0uUZA3A8ABd2zHGLDmLBrKuLRWMVjV5PZoRUk0v8KjCI5UbcAMS9QWb*jK2rFpMuTmpt+zZyAMw5DldLnwkauHU9E1*6ucLXXL16iTXHgSErdbKwbjPdJSbOzMGawHa4kMyeDFcGnJuLMsMp1VSMOWPlDe16muRFDjANHRTiXwJfWqWl68MufWakrjidMhTigPnM2cYm6DYfMoQOvJhL66Ln9OC5b4MxHUzc0eOwbZz6o*RnHmZd4KSLbnrNC*VW62TeBHXPUGO99RdHjOQMMyR5fr9L7vMIvPPL+0Nzmo8LvY",
    "l6NwQYfh9skqSuj*mObMdIoT3fx4NA5ibeDxKGHSIs6sWSPeTd9XJbbF+bDuO6bkANfFb*DE2rCMJkvFLKyzJw5FSrAWK+zM2LaFMi5RjblXUT5cXsUSPxPhJ6opS6jpmdcDURvwF7k7Wh62suC4WtU3xuFJXsQAibOfZAYFvf1Ebnw6Ya*4NEXY4N9PTJk1vOAzXlwCm9R5cHEPrKxBJng9urRUM4fOobxxN+jWAc2KO69Xq68IOj1bEJCXNfj1PcPei6rtS71rJ7Q6VNM2fOVvbOkMZeoTKV5IlbaMLBDRirqMOMXfWcslU8s4ouXNYdAJfvguRM",
    "oPg8RPLwDd*uREaWvIWrQ7L0HUqsBXPBbeF6WuQxjpSdYwUck9cedIZMkF0v3jbQEMb9TfMsPSisbzc4sOJcERUo1gAsf*QBQS3MzVKd9LdM1mOknjEsu7Rj64MuaGZqHE59mvK*Pf6sewbuHeAb5SUiE4if7SaunMMvqeQ2A31OGnD25UVALI28B5TEPEVa+3KQ1Rqb8AKjXIvrtxLPfOAbdcMunRc5lRNd9UUM2ZOHzXOs6+OzjbOcVHQ5De+ci+QrDiLsyYRvTlHNImTHXsutSBUlzxeNmXVUb*Dd*mW9s2PeEUYREAp8oha8IKKPMJbP6LefPb",
    "bzEPA88OJZXKArouNSnpgNPCTpnSgN*hZGkMmPWHc5IOM4y1JmvJSLMSLcXN+bb7MmbRn5oGNWnUVb*CO+vdEcNNPU9d7sZBQCGr8LvgNrumQyLi5snzTNzvI5jZUW1z05+zYO+A68oqZNUEp8yTcEAQ3fiyJe1GVL40MPDRd68lOe1ax6iwSg1raNb7Vwc7+ugyYt1Zh8FAbw1K2LG3LQjeL6fOYd1u9sTrdirJT5kYWHg6K906JXXEHKx7Jn5JobGuMwvV4s0bPL5dFMn2R79iut1uT0DwTdgkUmXz6dp+VMPbvt9RKxjSHLteOj9Yu6CPRY26Me",
    "enZTsI+6y1UQQRMaweJgjEh3OXNa+RJw1GqL57UlPHSL7sKrHJ8LD*K+jLh5Y3NE5VDrzAO2zWK61jOnzbMMfBRC5omdBjT++0+845WWY5Jf3ta+6N*vbNcbfEy57TN2rcWMbjN41cycbrSubeK7o1KCLIv5T7NVwJ9cMaQoDhFNGqUO5vlNjBVSg2kOFCY7+9NuivZz6HqLGVae1ENL0sK+LJEdBNSvPtwOBcZg+Pnfd8cT9HTs4QXbvLi7fwK7PRqv17beLECchRaUTSKLn8Do5UOvXwdsoJbtIFONggSOgMY7o2Q1T+S6XHasnIybGRXQkA4t+a",
    "ZisGuLDcY8XvGK*2KBvI4L54LLDNBNFgLujPKLzYNuHWTM5sOMTXgMEoP3fbR6PlQ49k4tLcUZry+trCVPb+ItzhWmw3IeRDYWYAOujcZlsO6fsFWhYFpfleKeTY7sI3Ry2McMX1K95h86nwRrHwT7rGY42A8sS8JlPGEL0cK6LHV58uKcDLfrSFM0LQp5xwOR9X+6BpOt8u8Lvf76efSdroh7CkU1HuRtrvTmo0gOcBYncCuexIa6EJTPPwc5MQ4vvuKKDJdrEpNdjV9cuRRf1pX7F+VKE2Due0YlgMK4vEK0jJv5HyLlfPqLjaNV5UgrydOZXbHM",
    "UlRbPoq7pAYBI0eO3XW*26Jeg7ZUYIDvR7c6UV4qwKJf9F3LD8L4bKFbelNunVeM2VQATgZdHQU86AdegaYtUHa4vUcybEf4zyJwzG6L0MKKbHR5AVKhbI*bEQK+DK4JaXNbGELObNKLUYMNrRL5jTMuzTvLtdNVTUU5w3NffUjryOO59XJ6ANOjXZfsKxPW9cGsRqPsre8MYNQSjiNsqgRMbkBswTTJ9sXtXiUZzyu7q5VHXzNdsnW1M00u2lWB61L86FWYg3KeXCY66B6uoYZFoGof5rad5uFvBybQIMJPW5cPcQs9qxKbjIgrFtL0XOrMBtR+2C",
    "QezVdhbHIr8xL4fM*Nf0aNUTO9xISqHl2O5mTH5V*M3QcgXosu+yEY5UQsIO0qxALl1NP5Y+MbfWQ677PWzc1cWvQB5jztNLVJg2Rfj2JfjFK5F9LGPTRrtcNUvd+soPT7Du0efGavQ8trTGNgTZAr2rKAnHZMS0LCbONbcxMx1VQM9DOw5eFMjpRWXmVP77Se1u5NWcUMrbZdqmWzo8mOy9bfjIP5SePr1*QeoXKRHNGfOgM3ffYe2qLB9T3bVyU9MT+azSKafKYsG+PYXd56VrUeHxLdqYaozeN9kjUpbJ6L6AKZSx8LvRtsBsPAvavcSjQxg5gP",
    "RHTf2RrcDCamQRgtQ*Pb9E2L2OKy9SSM3eP99bOsXVSUPpodKZUvT+WeQLYuECsv5ucH1bh6QhQujErKxKJpfFVr8wK*XJybNZLjjOwrdBMSbP*rjGN4rU0buhNzTW7MC7PIzRN6MlPRrbw6UTQs9hUsmFSqLvINd1VFXz6NqhWAA10e7pYPQANeffYcQAZ8hkZCUCt9RCcFnhRqwBJpnFZL5GMrTR+c58Om5cGZmXNciXRijikt8+TBrrr7Z1UJg0380pWUg4b8+UR52UVryFYrYTAthwZlXRZPRhJWDJyLVtMJ5QoLkaO8bkVsy6TRwCwbkVXG1x",
    "u51oP*I2dLnXXKf+7e8EKPbS16DeZMPbd75kUJvz5u05YnsEof1kXiUGgb0VKlfSEcTJS7noDP5CaSYJAuBbMy9VCM3vJZjJrbk8OajdCMkASkbpu7ekWMkDev5IcPPH4bFNL6fR*sE8QZbzh9S0LjfJpbHeFI5UMvTSCLtUJ+vX0MB+RJ9vm7dBVK9+JN*IWUs27uIGY4Q9SekGZdIFBv0naKkHR9R6aPnEm4zFKKLJGL+JOWvdr6n1RWjpOtucaSsIWrFKMHbRlstHULr+BdoRM7vndr7wY5EFy4*ANFjc9NUiUkE279d*KSPVgcNiQMzhYMtpRf",
    "PlP7R+VHHTuP1raOUO1b7cKXrYG6QHPjbk6bwsVT9*ScRuXQ+5zuhuKgbJsLbpNezVa61LakIMP52tKHy+8LvItLCWKqTJx5JeLKPLCLONMMXPlbeyMxLS1bmFN15S6bw4NefUu5zmOdzYX6BROunZTsO7PWncBMPsPtveeceVQZLil6s8RWbkM74ySIPnPtN7Tm5uNNa1UMLvy7hWUn5yftqvW9Q3reIBXKc8NOZpYX+AF8fKYdECOOpUaQIIPfD+b1YMd9UOJWfE24uUJbTHbr9mLyvOD5ZCMo9UE635PFvdOMTMRKHojdLpUcE4k8joaRYJ85On",
    "L*IO*ZyXNcBjQGrhbd7jVbI0Tu9oYUQOtuTLZx5SEqyuJ+5FjLK7MY1RtLlfNyDXJcClPR1cIsZkQPjjU6tnTJDrkNSVULvvvdqpWUE2huMgYQgAEewhZvkGCf7TbmTEkax1KWDOTLZiN0jr6bmzWKwA2e*5bcENRNibYi+O295YLlDJg90NL3bNWbubOwXiD72ATs5yYt*WY72GGf5Kan2J69QFT5wQn5q7NMbbS6UYZQYMssDkPqbf6OF5c1UMm8Z+G25URuHaUbluJXPmB7LTPYzHn58sKk9Pqr+1O2TY46K*PNHc7sPqQF9e5cjZRWLoSdKVTj",
    "jyle1MMF28*Ob*Yg2AauhBa1sHafTIbrbbYNeEWGQMkrujODnY6cMbPXHda7VpUaryJNu+WGgCh8raZU6ENtYfKWTYsMEbP49Yc8ejUeDxm8gibkfzTe8CXqbEsL58KqDJO5kZN09S5btTOYPYHsImQ1DeD6p9RKLj5sVJRrnnJd5zPSjwVtkjVTf18Lv+Id+eWNg26u8vXQQARepEZVMGU91tagsIaPM3cwvIJLM4RpXnDb5eUOL+LO6pVCvMJ5XHNAXZgcR+PlrfMdBPTOzrZdaEULPvttoNVI1zH8O7YZIMEv1Xdo1Gvr9rKynJub09LQfOxbbF",
    "SZrRYrnaKnrWus3pOrnZWsC*OxjapMNfPlbTusdDQVrl5N7bJebrwNRuUfDytttFVPo0OOD9WrY4R8IyXVk8nOrma06GRPENbnoQ4b3FM9TXZa8XNe7JXJMD290WJyDGT597KtDWRsD9PrzkB8spa1zFrrnUZCfbptsQKrA8bb5sOyDRM5jhN0fa3MTHa5nErbaQMIfiS8fHLJvO5LcbOF1YKsV1WZLfLPP0cSIQA4zJM0PR*e0GNB5UBr+5O21XIs8qPlziy6xUWCw1VuBKY8kCk900a2wMYfxRczjEurFmMITxB96Dc4oT+MxTS2TJKrL4MuLYM6",
    "AUOjDiec*lT2AA5vGuRy6A*eCuKUU6+5FgGo5UK+bFHf1KZx1PQe4nNVrwwe+*QDgCDtBud4XgFOgmJZbJM5O6LsPYnMEYPUPhJctXRbjmhNVjUkzxgdsxW3s0neRBYfMJMrRZMCTVFcMjPfPgW6krTJUAnr0aT+LNC5yRO6LcUcnWTVHw6dzkWVI76915cRDxoNLSUlbxKOJ4a11vwNgIWpPQuNT0JYrEybkPN+1YlMOyP*5iw8PhY7UAEv5EalEPq6eNS2PpAeBdX5UChqu1KKPHorMBM*L48LvU5bupNe5V55yrNsjVj67oOn5cecSTRsvoKdKw",
    "Tpg0T84vWNY7Teg*YjoDXOtpafgLTvW2dELInMDNTlHd5Mo8SysCmvEkbdDj9LYSQGvfp8*zavfrsv0QM5fe0cEqQVjFGsyiPzYFkuKcVRIJL6a*Rt1NQbZtMonzB78gL0gHuvsqJgrFJb1SK7LIGuoUL4XO95kQNXrUbLwjNlTV7s2COhLZEcFGQAziG7Y7UOvw2ttWWaUA0ehcZaIG4qKXNf2uaIsHs9yERELaM6JYPNLkz7Q4UnkGQPFHRhfKyb+vPAIFJO*jaaHHU5XhMIbSLLwNRVj+ZtKSZBoEufXRSBbF7Mk*Rx5rC9RxKKvK45WrM5TPh5",
    "nWNv9bbsTSRY5sUuFVZEsG593zaqru9NWwKgfUfbSVMNHW4b0IKLfHh57DKW1L45XKM5XPLrkLNFPTYs2yOfLaBMTnQ4Del6ZVTjTjs6vlRPjmRt78NrDrs7btUqbxL7jIVDPzSL8mHY5UX6E5QONaYWwB18n6ZW+G0v0Fb1cMTfWjcZ2Ls53DKjLK35W2N0vXfsIURHvtithbWFI4191JaeLSu9q7KpzVbr+pRPnoUNTZURzxv6lISkoAhMW3Qc5H+7g1QJHSIfpsWkjRnP59S1vMU5nlOCTbPcoCZ5gGGPWJL55cnv8DMKYGer65JarHweMPYmvm",
    "M6DwaqjfOfcqVWHrTrDNQM2EtvRZR5rEZ5myNn2FwLC2ZD60YOPvNlzbvKvpKML78LvPWbm*b+vE+rcANysAZM*XUR1vObldX75pAt6nNdHVzMDxP9fnmtoOJaDU*4vBLznMec2fRyDz3O3zWJE1lu+oYPU6f5tqOefahOc7PtTiucq+T3PuD5f6VtM2hPciJ*DUmsBTOv9bLsTlTiDoJ83CWBgFAP5DK0rN+LgIQ8LfSt5aSlsCjrZoZE2MQf0PXtzvv7VdX2bFBr9bKrfYpMVFRCfsVNkKV9M2DeM4Z+jctMyWSWP+6uEhcS6UfaWXNb7zUx5uSd",
    "kuW8TxI6heNc60Z7LHTM1HQv9YRensUf6NckfF47zmOfnxJvMbdEbMUbXPXkIMl4yqKYHJIbFDKzjU1cGiPP5dVsm+R4voI7AlS+rrL7v1WYo5wOofUyIHnd5fc1AOxsCzPcbrQdRaUD25GuRkKofJKLGcMODUXrzyOB9YIM9vOgjba6lKRCnridQkU95vs7tBVtU0fOYhYhcCkv1*brwOsseBV3XGcLm+NwvdXslOT3Lt2N+EII5UdpjdodeNKpbrYvhjNsQ1dOFnW9XVF5*5TM9xHf0yQ6TPwrgRVH1sVeiiJ*LVQcePR3Tl0dJYUMY8Q8fLZ7bU",
    "tsFFTSLvqeBNaoYIyeISXksSBLJ1NsnbZ6rSS1MCfupJc3jbJtJsJWrEs5VWMIjQPblCKQXU0rwSO1PYTcLtPQTcRcrkSZPx9e5GWPg2cOjSZA2CverqbXoMH4+kPAjhPe8UX665Qf3eN05fKvYeX7g5LqyFKczVgLv5PmrA8LvvZu5vYGU9XctrNnTYLMouJizoQPkIKWPKErPqMBDXf69kSHfPRdo9VDvz6vRmPOU0NauPJtLHTLX0NcDUSryAPyHE9eKzbOcMMtnpc05G+rZ1TbPufr8bTwM54Nk6K4zP2N97UyTzw8+wZzIGJK+*KibQALy1bw",
    "rFtO8NakfN0sDLQsbrAuZSZnHwGbBVM9DXLM8APgvhpNm*W+bG8q*uKmLKHbWnMKbRdLpmNEzTALwMOh5ZPsK+PRbd2qiXNcpLRE5m+NWoVYk0teApX0o4x8S2YHAAAenAaAQIqfZzdFETR4vFJg5GZL9MLqfPg5uzNzXVsM8*PhHd6sVGQD9HadqXWAg1g8i0Z8oClv9+bZ9K89WiKnTGrLDSMAXaicSqScTtPdf6aUPImsoXQuPO05vCMLHdB7*xKU5sncHfUEYRL9wxLyjPkMOdPvfhpbJfQTbULO6SPvMRgcV+d59eNKwcJ+DJo6AvPojigu*4",
    "Jwr+RPw*JWTXOcw0J25URok54rHpPogRHLtpUvLSh5l6XnnkIeJHUXI125cPV8ri4NSWKjbP8d4XSbztsvSddM5f2rf*MXXHfLGDL7rc3dRVZ*UIc9pqMUfoNMx5KKreoNs*VUoNOfwwP7Xg8OC2MOHRNslRSnjsydsoW1U4cL4oPoYUsNRkPs9I*va5N2HYEtn+ZB1LJs2sVGkLW5C1JbzHjbaSSZg0Df7ENoLtubE4Ntbz18MiYZEEZPTMP*E5hfHJOGbX26ovTb9D8LwAxOyuLIzFKL4gKiTJorkbNdrWe662OzPd2MVQRcTjZ7CsSpTrCNbGYD",
    "MAc91Aa96GzPR4XurP5Kw8JrbE3eg9Zp+O452jNdnPbbkvNhXZscFwPC5ct6bAQTXj2swsSPHrA7glVug008H9XCc9WOiXZWgGPPPzcGfXVcAHQp9iWsrqVyn**6t0VuM7keZuPsM3iPWyblTj6trXX3sHQavnKtLTK6i4R+k5pOOjYQTIALGFN6LdJcYeT0PqWquXNdNYYC+8uP7CbkAMU5+BSuTwouHEOw1rPLA9RK5kd7G9TLbuQtoIbePwt9+DJxPXRcN5XbnEXawkKDfE8L7CM+vbcMY1RRnp7tP2Twrw77pdWc+Aqf1yaS+MTPWOKfjzqL0h",
    "KvXdbstBST1qCu7eZogMevnNdfzqO5X1RPbzBvXUJkHFDa+BKRTIiLswO1npidayWjEID9QtblQN2fwNds9cfcjqKXTIet38YC9UoM1BOP1l8t59V3vzz81lJo4pXEwG8vCiL4ARRshJS8cCmetlbp9Ij5f1NifV16SNQNnfb6rgRmzoOdByU+s00O1+XqkGpb5jdfDvX82BapAArb0jL8oASMjgZCI11s3HPw2TyawPJfYS48fhXS65Q6a0Rdvubu5LK25UNmnE44uLJYfECKusJZnEFqv2JbPEM4w2JeMCQqwAWX9V3KwEJfvEdqwWJg9Ei4wpJh",
    "PEpaxDJiHEnax2JjTEtaxjJjzEzqy9JrfFC4zRJrrFLqz7JtPFY4+FJvXFUqzfJt1FaKzlJuPFbb4OJzHFtq*EJzXFsq*HJzfFq4*aJ+LG6b0eK1HGAb0bK0LF74*sK25GAL0iJ*vFxr0HK0PGGr17PmDGLL1GK4XGMb1MK6nGU520K9fGXL2qKB9H8LvGoL3AKBDGmb3MKDvGvL3jKEDGxb3vKFLH2L41KG9H5b4LKHHH6b4XKJfHDr4yKJjHFr50KL9HJ55KKM9w+55fKMfHRb60KO9Ms56CKObHZr6HKPDHbL6MKQHHfb6YKQbHgb6hKRDHiL6o",
    "KR1HjL6zKSLHoL7RKU26LL7fKUrHy57rKVvI158BKXHI3b8dKYfIBb8pKZbIJr94KajIJ59UKbHIQb9qKcbISr9*KdrIZLAKKf9ISLA8Kf6Fg58XNe+dKgnIhLAyKhLImLBDKjTItbBZKkQOxLBWKlDIzLBuKlbJ1bC8TJXJ3LCGKmzJ5LCQKoDJBrCnKpDJE5D0KqPJHKuNKqbJJL7MKrvJQLDkMHXJUrDtKu9JbbEWKwPJfLEkKx1JjbF3V1AMsLFVPlnnxbFkK+XJxLFwL05KFLH0L2nKBLGyL2vKDbGfL1rKJbIFL7LKZbHVL75KTrHmL99KUr",
    "I0L7PKX5IGL8PKnrIYLBXKfLIiLCHKo5IeKo5ULAjKmbIaLBvKl5JOLELKvbKFLHHK*LJkLErK+bJYLJbLG5LZLKnLBbLSLKLLLbLNLJXLCrLTLPbLW5IlLOfLdrLxLNvLc5MULQvLV5M3LQbLXrMeLTfLnLNVLSHLt5NaLTHM55NtLXPL*bNzLXjL+LPELb1ntrOqLZPMCbOuLcjMP5OlLcnMQbQ6Le1MYbQWLfHMZrQbLgvMjbQqLi9Ml5R1LiDMm5R8LivMqLRJLjTMxbRvLm1M*rS4LmbK8LvN25SBLmrN4rSOLnPLnrSSLoPNDrSuLqvNErT0",
    "LqzNQLV0LuXNOLT*LubNarUWLxDNf5UgLx1NmrV6LzHNqbVJM0fNrbVZM0jO6LWTM79O8LXYM4jOS6l0M59OFLXvM8LOkLYVMAjOkbZUMBjOk5YkMCLOqrZHMDTOsLZOMELOt5ZaMDzOxrZwMFbO+rZyMFrP0baAMH1P6sYcMILPB5ajMJ9PE5a+Uj9PLLbGMKvPMbbOMM9PO5bdMMnPQLKXNbbuMO5PdKzUJwjPercoMSPPw5dSMOrPsLdQMYLQ7reHMXnQ2LeQMa1QR5f9MZLQDbfYMcfQcbgyMhvQorh2MhrQurhNMkPQwLhMMlfQ+riCMmjR5b",
    "ioMj1RAbisMpvRGrj5Mq1RKLjLMrfRMrjbMsbRS5jpMtLRU6M8MtfRW5k3MwPRk5l3MyTRoLlKMz1Rv5lcM+9RtblbM+jRy5lsM*DS1Lm7N0XS3LmJN21S8bmeN3XSELn1N4PSJbnJLY5UN51SJrjnN6nSRavYN7PSULoCN95Sb5cRNAjSkrosNBnSjrp5NBvSnrpPNEbS*LpwNErTZ5pgNGjT5LqNNLnT7rqRNH5T55qYNHfT6LqONKnTKbrENKjTR5rpNNPTXrs4NO9TebsTNQnThbszNP1TjrsyNSbTpLtJNT9TrbtRNUjTybtrNWjU6buPNX5U",
    "6rusNZTUH5v3Na1UJbvNNbHUNrvYNcHUHrvrNdPUUfwyNdzUe5x1Ni9Uo5xGNizN8LvUrbxZNjrUsbxRNk9UuLxeNkbUx5xnNlDUy5xqNlXU*by3NmbVNLzSNmjV4LyMNobVBLyuNq5VI5zCNqvVBrzHNrPVLrzPNs5VRLzpNtTVWr+2NtzVYb+8Nv5VXr+UNvbVc5+WNwXVhL+yNzPV+r*aN*XVyL*TOBDV*s0XO61W6M0GO2bW3c0nO1jW5M0hO2PW3s0wO5fWGM1gO7TWNs1AO4PWJM1ZO4DWP612O6nWQs1PO85WZM3dO8DWcbWXNc24O9jWbc",
    "2NO99Wfs2BOE5Wk63WODDWj5*mOBrWnc2rODXXJM4LOGPWzc3tOG1Wz63wOGDX8M3xOF5X3M4EOKTXFc4eOITXIc4*OJnXB64qOJrXGc54ONDXTs5OOLbXMc5hONHXRs5bON5XNs5TOLDXTM6POPPXXs6iOPHXcc6AOP5Xgs6kOSnXoc79OVTXo673OSPXkc7BVtbXpM7cOUDXzc7wOVHX*s7zOVnX*c80OWXY2M8DOWnY568RMI5UOXvY8M8gOYvYC68oOZDYGM9EObvYOs9ROc1YQ69yOe9YYM9+Of9YasAMOjHYWsAKOjTYqMAxOizY*sB6PDHY",
    "o6BSOinYocB2OiTYcsB9OmnYxcBnOoTZ0cC8OkzYzMDGOpvZJMGSOqzZbcEEOu1ZgsDsOwDZZsE9OvzZjMDhOsbZlcFfOy1ZncFZOybZqcFsOyHa5cGqP0Pa4sGcP3Pb7MGNP2Xa3sHdP6zaTcHEPIfabMIJPALagMI8PBnQ8LvascJIPCLansIxPDXamcJnPEU22MJWPE5Yh6JZPEzbB6JsPFHaycJwPG1a*MKOPHnb1MKaPIDbAsKqPJLbDsKsPJXrIsL8PLPbLMLDPLXbNcLTPN9bU6M2POEBYcMRPPzbgsMtPSDbncN1PSHbp6NIPTjbsMNWPU",
    "5byMToPWfc0sNxPtDcDMOsPZHc76PFPaHcIMP1PbvcNMPaPcTcQ6PVPc9cS6Q3PeXcZcQ9PeHcc6QTPi5ckMR9Phvcl5iXNcR4PhXcrcRQPk1cFsRcPkbcy6RrPlTd3sSMPnvd9cSdbpXdBcS*PpPdGMSuPpTdHcTUPs1dMMTZPsHdYMTmPwbdV6TgPundYsUcPw5dXMUtP+zdj6ViPxDdwMUuP+HdtcVTP+9dxcUvPyvdncVdQfne7cX6Q2beG6XDQ39eJcYpQ2jeMMXZQ7TeVsYVQ8zehMYKQ9recsY3QgvekMXqQBLee6YwQGzeZMX+QG5eoca8",
    "QDXf8cacQE5f36ZDN25UQDHevsZLQJPf4ca4QDTeusabQFbeu6ZlQIXfAcaQQIDf8MZ6QNbfTsbSQNXfQsbKQNvfRcavQNHfFMbPQJ1fOMbUQLrfWMbgQR9fhcdGQRzfmMdJQRvfpbleQSfftMcxQSDffsekQP5fe6cSQPLfj6dUQUXg0ceRQVzh2cdvQV9fvse5QR5g7cdjQXHfwseAQX9gmMeZQXDgH6eCQd9gDcfuQaTgOcfPQcPgI6euQY9ga6gDQg1gX6gYQgDT8LvgbuONQhjgmsh2QhXgisgiQjvgqMhVQgfgschgQljh1OOMQlfh4ciMcp",
    "5h7siuQpTst6ivcEvhHsj3QqbhK6jPQrHhMsjVQs5hU6jvQtzhW6k4QuDhZMkOQvLhdckaQwfhgsklQx9hiMkpQxThl6l6QyjhqslVQ+nhwslpQ++Ulcm8R1Di56mRR2Hi8snUR5LiOcngR89iZMoQR85icsn+R6XiSsoIR91in6pnRDDilMpNRCLitMokRB5ilbuXNcowRDjixspPREfj7uXDRJPjAsqzRJXj6MqrRJDj4cqCRMDjasraRLfjUMrPROvjbM*aROLj+MuLRWfjjMt7RUPjk6t6RUnjtctCRUXjqct5RVfjsMtaRTLjwctkRYrkRcuk",
    "RXbkScvVRZvk8svhRYjkTcvDRXzkGsuwRavk96x*RXrkE6w2Rgfkc6x9RhTkqswzRgzkn6woRjHkrMwFRgLkmcwVRq5l4N1CRknk+6x+RpzkycynRkzlCcxCNo5URpvl4sxtRuPlUczuRu5lW6zlRrjlyszjRu9lV6zORuvlaM*2RsPlis+ZRw5lf6+vRyPlgc*VRzLlx6*KRzXlyM*kRzjm2N0BR*fm4N01S0zl*d0RS1flT70TS1Xm7t0mS3vmCd1HS6DmcN2ISAzmyN2iSBXmit2kSDzmot3TSDbn2N3zSHnn6N5bSLLnY75cSM9nJ75MSMnnZt",
    "7xSOHnbN6eSQnnrt6vSRvnqd79STHnpd7WSUnnvt7rSVnW8Lvn+N7*SWro478RSYXoBN8iSZ1oCd8xSZnoFt90SaPoIt9OSdHoVdA2Se5oXtAISfPoedAdShboidB3SiPon7BESj9oudBWSk5o+NBtK0zp5tCASnnp5dCTSpHpBtCfSoLpFdDESq+Us7DNSsfpQ7DmStXpTNDxStfpo7EpSyvpktF0S+LpxdFUTA9q1NHlT2Lp+7GoT3fqLNG*T5zqMNH1T5nqQNHmT6DqQdHsT7vqYtIUTATqodJFTDHpyM4XNdJWTEDqvtJfTEvqydJmTF5q+7Jt",
    "TGHr0tK5TGnr3dKDTHLr4tKUTIPrB7KyTKHrJNLATKbrMtL6TLfrQNLaTMTrQtLjTNXrTdM6TOTrT7MATObrWdMKTPfrdNMbTQDrmdMpTSDrjNMzTRXrl7MnTSrrodNITTbrutNUTVvr*tNyTW5ry7NwTV9rytOBTWrs2NOVTYTs87OXTY9s97OqTZ1sEtP7TaXsHdPSTbXsONPYTcXsQNPgTcTsR7PmOY5UTd9sTdPuTdnsW7Q3TeXsYtQETfPsatQPTffsi7QqThXskNQwTi9spNRMTj9stdRXTkLsvtRgXYzs+tS8TmTt17SfToHt7dSbToPt6t",
    "StTpXtHtTQTsXtQtTRTsLtVtT+TtbtZdUBTv5te7UUTx1tjdUvTxztl7UzTxjtntVDTzTtsdVST+DtxdVyU0nu4dacU21vAdX5U8vuT7Y6U7nucdYCUADujNYgUAzuqNZ6UCjur7Y+UBnunNZAUEnZ8LvuvtZQUFruz7a7UH9v4NaPUInvAtb0UM1vLtbVULfvLNbJUNfvVtcAUPrvfvzBUQfvhdcpURbvkdd9UTLvvtdiUU5vute8UWrw67ePUY1w7tc0UZ5wEte+UZTwGtfNUabwONfYUccVdNfmUdbwVNg8UfTwbNgOUfPwgNh8Uh1wjdh5UiHw",
    "lv23UiTwodhDUizwrNhJUjbwsdhTUk5wudhcUkrwy7i2Umzx2di6UpDx67iPUnvxDNieUpPxK6GXNdjwUmHxJNiBUqnxHNjrUsLxT7jdUt1xSNjiUsvxdNkOUvzxZNkSUvfxYtkIUuzxNNkPUyjxmNlCUyzxj7l6UzrxwNmHV1HxvdlbV61y07m7V1DxytltV1Ty3NlsV2Dy9tmgV1zyDtmhV3ryJ7n3V5HyJtn0V51yM7nVV6HyLdnbV6nyTNo3V91yf7ojVA9ygtoXVAXyitooVB5yhdovVBrym7p5VC9ys7pIVDnyufixVEzyydpqVFPy+dq6PI",
    "5UVG9z77qLVGfzHNrBVIvzCdq*VJLzHdrpVLPzJdroVMXzRdrFVMDzats9VLjzZtrzVPjzkdskVQDzjNt7VRrzgtuzVQ9zhttSVRXzdtsmVTXztNtaVTvz+ttoVU5+1NuAVYD+8NuIVZ5+7tu9VWj+8dv6VcP+EturVZb+GtutVZ9+EdvdVbr+LdvUVbb+MdvvVcf+QNvyVdj+WttLVdsFhdv*VeX+YNwCVf9+a7wJVfH+bdwEVfj+d7yuVpfc8Lv*HNzCVqr*JdzGVr5*LNzKVrX*NtzWVsX*QNzdVtX*Wd+6VuD*Y7+7Vun*b7+UVvr*cd+ZVwz*",
    "id+vVwv*jd+uYt5*nN*6Vyf*rN*KV+5*vd*fV*D*+PZSW0Q0180BW1A0680PW1o08O0eW3+0Eu1AW4Q0Ke1OW5g0Nu1YW6Y0Su1oW720Te1vW7s0Vu24W8Q0XO2RW9E0ce2jKP20h83RWEM0sO3TWCI0se3MWGc0xu3nWHk1AO4ZWI+1IsSXNfQBWKQ1Fe5JWL60*85nWMw1PO5cWNI1Wu68WOg1W862WQ21bO6aWQE1Nu6JWQc1i86rWRw1k86zWS21me6wWSc1pO7HWTc1s878WTg1tu7WWUU1+e7xWVw20O82WWM21u8AWWs2488MWYc2Au8uWZ",
    "E2G89PWbY2NO9QWb+2P89YWcY2Qe9hWYw2SO9tWdY2VeADWfA2guAVWhk2h8BXWkE2tuBIWlI2yuBwWvE30uBxWlc2teC6Wjo32OBPQ25UWpM3D8CMWpA3COD0Wpc3K8D5Wo+3AuCNWnY3XOEQWwg3duEYWvQ38uEEWuU3YeDyWxM3SuDrWw23YOEeW*I44uFhWyw3*OG3WzY42uF1W*U41uFWW*A43OGYX223lOGuXGQ3+uHjX2g4F8LQX8I4TuHhXAs4ReI2X6c4HeGiX6+4UOGrXCg4OeIvXB+4duJPXCs4kuJQXD24mOJ6XDQ4eOKXXF+4z8KN",
    "XHY5B8KVXHM558JyXK25OuLOXKXf8Lw5GOO2XKk5LOM0XQI5Y8MHXOg5g8LjXPI5cuNgXOU5d8LtXNw5a8N9XRg5puMvXT25rONTXUM5t8NvXWg64uOBXVw5+eO6XYA66eOmXZ+6JKvLXbI6NuPdXd66auQZXgc6geQBXeo6jeQlXiI6neQmXic88uQhXjI6teRfXko6tuRRXk+74eS6XmY708S3Xlk74OS9Xms6+OSAXpI7FuStXpk79OSfXng7O8TVXtY7J8TEXtI7LuTeXsw7MMeXNeTJXsE7QeW5XwA7duU2Xw+7ouUzXy27q9RMXwk7n8UpXy",
    "U7neUxX++7yeVWY0+83OV+X*Q7zuWEXzA84OWMY1M88eWXY368DeWvY2U8EuX4Y4A8KeXPY5w8OeXhY868VeYUY7M8VOYrY7A8WeYNY9A8heYPYAA8ZOYaYB28luYnYCE8n8ZKYDY8sOZTYFc90eZyYFI8w8ZoYGI938aAYHE9GuaUYIM9AeahYK69H8axYJQ9E8bCYHs9O8bUQo5UYMQ9P8bjYMg9RubqYNU9Vec3YOY9YecJYPY9eOcfYQQ9h8clYRA9keczYR+9m8dQYTo9tOddYVI9+8e3YXQA48eCYXkA7OebYZQAGOfRYbAAHef8YdoAROfi",
    "YcAAXOg2YeIAg8gXYf6AfOgcYfgAeuh4YisAmehQYkkAyuhdYkIAyOiKYk2AuehtYjwAsuiCYmUB6ehXYnQB48iNYo2BCvUhYoQBAui+YoYBGOjCYq+BJej9YrQBMujQYsji8LwBNujiYs+BT8jzYu2BZ8kEYvABaukMYvcBcemwZ46CFun8Z4oCJenGZ5MCOeniZ7YCUeo2Z8cCXOoAZ8sCZeoKZ7oCc68TZAsCgeozZBACiuokZBQCo8p1ZEICuupQZFsC+epxZGID1OqAZGUD3uqDZH2VJeqJZCsD58qMZMUDROrnZNEDWOsPZSADleswZS+Dse",
    "tMZSoDsutBZUgDwutVZUED*8u8ZWcD*uuTZXwE48uVZaAEDOumZZIEIcqXNev7ZacEJ8vGZaYEMOvaZc2EAevZZbMETevoZdoEWOw7ZeMEX8wBZegEauwHZfIEcOwgZg6Eh8wmZiQEiOw+ZiMEo8xBZjkEuuxyZlkEwux+ZmgF1OyLZnAF6OyJZnoF7uyRZmoF9eypZpkFEOz5ZqAFFezCZqcFHezEZrUFN8zYZsEFP8+SZv+Feu+jZw+Fju*QZ+MFue*gZ++GXu*qa0MF+O*wa16G5P0Xa0sG7f0Ma0kG9v0sa3MGEO*uRY5Ua4+GK91Ha5AG3f19",
    "a3wGLf1Oa5wGQ91la7QMg91oa8AGVP21a82GYf29a8+Gg92laB6GjP3YaEHYI93RaGAH4f4PaJAHC95AaLQHM95ZaMMHQP5paNAHYv69aOAHef6haQ+Hgf6raRIHkf70aS6HoP7BaT2Hrf7VaU6Hsv7yaVMHzf8UaV+I598iaXMI4P9UabUIHP99acIII9ALaZ+IIv9GafoIbfAJafkIMfBFahcIjvBfam+I+fD4aovl8LwJ6PCYangJ8vCwapMJEvDSas2JV9DkarQJi9EiawsJb9EvazQJrvFea+MJs9F3azsJq9F8a+IK6fGKb1EK0vG7b12KDf",
    "Ghb3MK8PGwb46KKfH4b5kKO9HYb5wKQf8fb72KTPHtb7sKMfHyb7wKWPH*bOALXvMAbPILbfMObPcLe9MebQULhPMybRkLkPM+bSflzfN3bSsLp9NLbTILrfNSbU6LvPNYbY6MA9OkbY+MGfPCba+MIvPtbboMNd0XNfPTbb+MPfPobcoMZPQObfMMbvQgbgUMiPQobh2Mj9QsbhYMkPREbikMoPRDYKsMt9SDbjMM+PS4bmQN29SJbmwN4PSFbnQN6PSabogNC9SvbpsNFfT4bqQNI9T2bqcNN9TWbsINPfTeKjANQvTnbtcNXPTybu6NUfU6bukN",
    "ZvUGbvoNg9UcbwENivUqbyENnfV8bykNt9Vjdq+NydhVb*QNzPWFc0oOE9Wac26ODvWzc4QOJvXBc6kORvXmSI5Uc76OT9XpcAgOhvYncBQOn9Z3cCQOwPZhcGEP2PaIcHIP69aXcHsP7faacI2PB9akcJsPFfb2cKcPHPbGcKkPKPbIcKoPLPcNcPYPfPcjcQwPl9dVcTkPtPdOcT6PxPdkcV6PyfdxcVYQ0PeFcWMPufePcYkQDvf5caAQG9f3cZwQLPfDcbkQLvfVccAQPPfacccQQvfgcgsQi9gyci2QpvhHcjEQr9hUcj+QufhZckQQxvhhck",
    "wQz9hnclTo8LwQ+vi6cnYR6fiVcoAR8vibcoURA9ifcogRBfilcpARH9j3cq+RJPjEcr6RM9jqcvERWvkHcvQRbvkVcw2Rg9kqcy2RofkvcyQRpvlHczARuvlYc+IRr9lXd3gRyflnc*2S5PmKd0cS4vmCd0QS29mId0gS19mkd1kS9Pmad26SC9n7d3ASHfm+d5gSO9ndd7QSU9pddEoSy9q9dGYSwvq3dGQTAfqcdQ+T8vqVdKIT5PqIdK6TFvq+dKQTI7CXNfrTdLwTP9rHdL2TMProdOcTXvshdM+TUfsQdQITgPsodSITmPsxdRYTkft6dS+T",
    "mftPdTET+9tcdUsTxvtzdXgU6vuUddMUUPvzde6UY9wBdeoUafwLdf6UdPwbdgcUk9wgdgsNOPxCdiwUpvxGdjIUt9xUdjsUu9xbdkYUxvxqdlQUzvxvdlkU*9xzdmUV27QtdnMV8PyidpwVIfzIdrIVOvzVds2VOPzcdsUVR9zgdtUVSfzsdvMVd9+WT246M2zfnv1PT6HHt76P"]

/-- JIS X 0212, by row and column. -/
def jisx0212Data : String :=
  String.join [
    "8YyB0jW2nm2u0ja2tG2l0ji2sW1+0uG3XI920m2X0AO0lo9h1m2w0Ae0gG2k8I80f24M9c4C0uO3Y0E90ue3gW000um000EE0wi000EF9d4C0wm3hGEk0wy3oWEG0ym3mWFD0yi3i0FE9q8D10840mG410K41WG710W42GGA10i430GE10ydSWq4KWHJ15G4LGHM15S4M0HP15e4MmHS15u4NoaX40360H00004c0001CW000K41Fm000Ke0s05I0001PW3UAK4G0EO14G3m0IS1CG4p0JW1GW500Ka1Im3u0LC0tm5d0Fug8LS0mG300CG0mW420S",
    "q100440CK0mm460GW130370Ge13W390CW0om3A0He15W4I0HW0004S0Hu18W4W0IG0pG3C0Cy0pW7F0J01AW4k0IW1D04s0Ja1FG4x0KC1Hm550D40qm3I0DO0r07H0L01J03L0LG1M05M0Le1N05W0Lu1P05Y0De0sG3S0Di1R07J0N01QW5o0Mu1Q07N0Ti1sG7L0NG0tG5u0NO1UG5z0Nih8LS0uG3W0EG0uW430Su10G450EK0um470Ga13G3d0Gi13m3f0EW0wm3g0Hi15m4J0Ha1zG4T0Hy0004X0IK0xG3i0Ey0xW7G0001Am4l0Ia1DG4t",
    "0Je1FW4y0KG1I0560F40ym3o0FO0z07I0L41JG3r0LK1MG5N0Li1NG5X0Ly1PG5Z0Fe0+G3y0Fi1RG7K0N41Qm5p0My1QG7O0Tm1sW7M0NK0*G3*0NS1UW5+0Nmm8LvE0au4JWLE34uIJXzE8quaJYXEAqukJYzEC4urJa1EGKv4JaTEKKvQJbnEOqveJcbET4vrJdbEVqwDJfPEbqwTJgzEkKx3Jj1EsaxRJk1EuKxYJkXExqxnJlDEzKxzJlvE*qy0Jm9F0qy8JmjF34yIJnLF5ayNJnbFBaynJs1FCqyrJpTFEKyxJpvFG4z2JqXFIKzBJqnFKa",
    "zKJrPFM4zVJsDFQaziJsvFSKztJtXFUKzwJtrFVa+1Ju9FX34XNa+5JubFYa+CJuvFa4+IJvDFb4+NJvbFca+UJvzFia+tJxbFkq+yJxrFla*0Jy5FnK*6JyXFoK*BJynFpK*FJz9Ft4*WJ+9Fy4*oJ*nF*K**K01G0L04K0TG2b0CK0vG450JK1TG650RK1nG7L0UK29G9r0kK31GCb0pK3LGG511K49GHL16K4fGJ51EK55GKb1JK5TGML1VK61GOb1ZK6PGPr1gK6rGS51nK3jGWL23K8HGXb2AK8vGZr2GCY5UK99Gar2KK9PGcr2SK9vGdr2W",
    "KA5Geb2gKAzGi52vKBfGlL30KCDGn537KCnGpb3GKDDGr53OKDnGtL3VKE9Gv53cKEXGwL3lKF5Gzb3wKFvH0r46KGTH254BKGnH3L4EKF9H454NKHbH6r4SKHrH7b4ZKITHA54iKIrHBr4nKJDHD54rKJXHEL52KKfHJr5JKLLHLr5OKLzHP55cKNvHWr64KOjHZb6OKPrHeL6ZKQrHk56wKRnHlb6*KS8p8LvHo57FKT5Hqb7JKTLHs57UKU9HvL7kKV9Hyr7qKVTI0L82KWLI4b8JKXLI5b8OKY9IA58nKZ9IDL8yKaLIIL9LKbTIM59QKbnINr",
    "9WKc5IPb9kKdTIU59vKe1IWbA5KefIZ5AJKfLIbbANKfXIcbASKgHIfLAcKgTIhrAmKhPIjrAuKhfIkrAzKi1In5B6KiXIp5BFKj5Ir5BMKjjIt5BXKkLIw5BfKkfIx5BmKl5Iz5BsKlTJ05C3KmfJ2pGXNbCCKn5J4rCOKnjJ75CUKnzJ9LCdKoXJALChKonJBLCmKp9JDLCyKprJFbD2KqnJIrDPKrjJOLDZKsLJR5DjKt9JULD+KuDJXrE8KuvJarEKKvbJdLEXKwHJgbEhKwzJibEqKxLJjrEuKxfJlLF0KyLJprFIKzDJrLFQKzrJtbFWK+PJ",
    "vrFrL09K4rGQL25K9rGeL2fKBrGnL3HKDLH3L4HKHrHDL4zKNbHYL6HKPbHdL6bKQrHjL6vKT5H*DI5UL85KWrI5L8XKYLIDL95KbLIML9nKdrIXLAPKfrIfLAfKhLIkLB5KjrIvLBfKkrI*LCPKobJDLCvKu5JgLEnKxrJsLFnK*bJ*LG1L0LK5LGXL2LKCLGrL3bKLLIfLArKoLJLLDbKxLJnLFLL1LKTLILLALKrLK5LHLLXLMbLRLLvLO5LXLMHLPbL*LO5LWbM6LOXLZbMFLP5LabMJLPHLbrMZLQHLhLMoLRzLmLN3LSPLoLNBLSnLpbNHLT",
    "8s8LvLqrNNLTXLsrNULU9LwLNsLVzM1LO8LWfM3LOELWzM45OHLX9M6LOiLZ1MCrOrLZTMELOxLZnMFLO*La1MGLP3LaHMHbP9LajMJLPFLbHMNbPWLc5MObPZLcPMQLPjLczMSLPoLdLMX5Q5LeXMYrQCLfLMcLQQLfrMdbQVLgPMfrQeLgbMgrQiLgrMiLQpLhTMlbR5LibMobRBLizMq5RCLirMsLRSLjrMtrRXLkHMvLRcLkTMw5RnLkjMxJSXNbRsLlTN0LS2LmTN2bSCLn5N5LSQLnjN7LSWLo9N8rSaLoLNALSgLonNBbSlLpDND5SzLpvN",
    "FrT5LqPNJ5TDLr9NObTbLsTNQ5ThLsrNRbTlLt1NSLTpLtHNTLTtLtbNUbTxLtnNVbU1LuDNZ5UKLvTNcLUQLvnNdLUULvzNeLULLwTNg5UfLwnNk5UzLyTNo5VCLyzNrLVTLzvNv5VcL+TNwLVjL*1NzLVsL*XN*LV+L*zO0rW4M0XO2LVXE25UM0nO3LWRM1vO7rWWM2PO9rWjM39OELW*M4bOJ5XDM4zOK5XLM5zOOLXaM6TOQ5XuM7nOVrY0M85OXrY8M8bOYbYCM8rOZrYGM9HObbYTMA1OeLYYMAPOgLYnMB9On5YyMC9Oo5ZDMCvOq5ZIMD",
    "HOrbZQMDrOuLZYMEbOyra5MGPP2raCMH9P4raKXa5P7LaXMIDP95aeMIzPC5apMJLPDba*MKDPHbbIMLDPMLbRMLrPNbbVMM5POrbhMMqv8LvPRrboMNLPTbbvMNjPV5cBMOnPZbcIMPLPbrcVMQHPfrcjMQvPhrcmMRDPjrcwMRnPmLd3MSHPo5dAMSrPqbdTMTvPtrdZMUHPvrdkMUzPyLdoMVHPzre0MWHQ35eDMWvQ4beJMXvQ8reaMYTQA5egMYrQC5f4MaLQHrf8ManQK5fLMbvQOrfbMcTQRLftMdfQUrf+MejQa5gJMfPQcLgSMfvQdrgW",
    "Mg9QfrgiMh5QibgpMhLQk5gwMhjQlpeXNbh4MiPQo5hFMjfQt5hWMkLQwbhkMlLQzbhzMm1R0Li8MnTRD5iPMnjR7LiXMoLRBLiuMq5RIrjCMr9RLbjUMsXRRbjlMtnRVLj+MtzRWLk4MuPRYbkEMv1RaLkJMvHRbbkeMwbRh5kjMwzRiLkoMxTRkbkyMy1RmLlDMyzRrblNMzXRsLlQM+1RxrlnM*HR*LmCN1TS7bmVN2DS9bmfN2jSB5mkN31SCbmrN3PSMLnQN5nSObnZN6TSQ5nfEo5UN6rSS5nqN7LSUbnxN7nSVLo7N8XSYboFN99SdLoVNA",
    "1SeboZNAPSgbooNBHSjLowNCbSorpINDrSrrpkNF5SybpqNG5T1bqDNH9TArqZNIHT9bqdNJ5TD5qvNJrTFrr2NKDTHbr8NLLTKLrPNKfTNrrWNM5TObraNMfTRLrmNNbTUbr+NNzTWLs3NOXTYbsINPDTb5sLNPbTcrsVNQ1TfrshNR1Tj5suNRbTmrt7NSjTq5tENTXTsLtWNUGy8LvTwLtuNVbU05u7NWrU4buKNXLU65uVNY1UBbueNZ9UDLu+NajUK5v9Nb5ULbvONbjUN5vUNcXUQbvhNcnURLvkNd1UW5wBNevUebwaNgLUg5wgNgnUiLwp",
    "NhrUlbw*NiPUp5xBNivUqLxINjHUrLxSNjvUvLxhNm9V1by7NmXV3byPNnnV7LyXNo9V8ryaNoXVAryiNovVC5yqNpPVEryzNpzVG5z4NqLVHrzDNr1VL5zONrjVO5zZNsHVPpqXNbzlNt9VT5zrNtXVUbzzNtvVYL+DNuzVbb+SNvrVeb+dNwjVf5+iNwzVi5+nNxXVn5*7NyXVoL*BNz1VqL*INzDVr5*UN+5Vub*eN+bVwb*iN+rVxb*lN*9Vyr*sN*fV*607O0fW3M0JO1HW5s0OO1fW7s0aO2rWCs0rO41WHs18O4bWJ61HO5HWLc1NO5rWOM",
    "1dO75WVc1*O89WXc28O8fWZc2HO9DWbM2OO9rWdc2YOAHWfM2eOB1WiM2tFY5UOBjWlc32OCHWo639OCfWos3EOCzWr63LODbWss3TODvWuc3bOF9WzM3uOFnW*M42OGTX2c4COH1X4M4IOHDX564MOHTX6M4SOHvX8c4gOIjXC64nOJLXDc4tOJbXGM55OKPXIM5UOM1XR65oONXXUs5yONzXW661OODXX66BOOrXac6JOPTXc66SOPrXds6WOQLXg66gOQrXk66vORnXm671OS9Xpc7FOTLXt67TOTvXts7XOU9Xvs7fOUK*8LvXx67jOUzY0M83",
    "OWHY1s8JOXLY768WOY9Y8s8dOYbYAs8vOZrYGc93OaHYHc9COb1YKM9IObHYLc9QObnYP69jOczYSs9wOdrYZMAEOezYa6AcOgXYisAsOhTYkcA+OhzYn6BEOjLYrcBQOkfYycBqOlnY*MC3OmHZ2cCBOmrZ46CJOnPZ66CfOofZBMCrOpPZEMCyOq5ZGcD3OqHZHcDAOqjZJcDIOrDZL6DOOrjZPMDcOsnZRMDnOtHZTK0XNcDuOtnZVMD*Ou9ZX6E7OufZa6EKOvLZcMEQOvvZf6EcOwrZhcElOxrZmMF5OyXZpcFHOzDZr6FLOznZu6FbO+fZx6",
    "FoO*DZzMFuO*ba2MGAP11a4cGKP1Xa7cGWP29a96GbP2baAcGlP31aDMGzP3zaIsHFP55aKcHJP5HaMcHRP5naNMHVP61aOMHZP6raSsHqP7jaVMI5P8TaZsIGP95ac6IPP9jadMIVPA5aesIcPAXah6IpPBralcI*GI5UPCHaoMJAPCjap6JEPD1aqMJLPDTav6JbPEbawcJjPF1azMJtPFja*sK1PGHb26K9PGfb3sKJPHHb5cKPPHjb7cKVPI9b9cKfPIvbCMKwPJnbFML3PKTbIMLGPL9bL6LVPM1bPsLhPNfbVMM1POLbYcMIPPLbc6MTPQ1b",
    "esMcPQvbicMpPRHblsN2PSXboMNEPT1br6NMPTXbtsNmPV9bz6NrPVbb*cN*PW1c16O8PWbc3MOHPX9c5MOMPXr28Lvc7cOXPY9c8sOaPYPcAMOgPYjcB6OkPZ1cCMOpPZbcDsP0PaLcHcPAPancKMPEPbTcM6PPPbjcN6PWPc5c+sPgPcjcR6P+PdDcTMP*PdTcU6PvPdjcW6PyPejcZ6QDPf1cacQPPffccsQSPfzce6QaPgrciMQoPhLcksQ*Pi1cmcR3PiXcp6REPizcr6RRPjzcw6RhPkncxcRwPmLd1sSEPnDd6MSSPo1d8cSpPpvdHMT7Pq",
    "XdJ6TKPrLdNKCXNcTcPsndRcTqPtPdUsU1PuHdZcUFPv5dasUMPvXdcMURPx1diMUoPxLdksUyPxrd+MV0Py9dmsV5PyXdoMVIPzTdsMVSP+5dvcVmP*9dzcVtQ59e56WPQ1re7sWeQ2TeB6WjQ2zeC6WnQ3DeEsW*Q4HeHMXAQ4neLMXNQ5XeMsXhQ6veRsXmQ75eScXrQ7beUcXxQ7neWcY4Q8PeY6YMQ9XeccYSQA5eesYbQAbegcYkQB9eksZ5QCXep6ZFH25UQD1eqMZJQDPesMZSQDrevMZeQEfewsZiQErey6ZnQFLezcZxQFne*Ma6QGbf",
    "2caGQH5f4saMQHTfCMapQJLfE6axQK9fHMb9QKvfLsbRQMDfP6bbQMPfQ6bfQMnfS6bnQN9fUcbxQNzfW6cDQP9fbccOQQ5ffMccQQXfgscjQQzfjscuQRffl6d5QSXfqMdMQTTfucdbQUvfxsdnQVDfzMd+QW1g0Me3QWzg4MeLQXfg7MeWQYHgA6emQZ958LvgD6etQZjgFce*QaLgHcf9QafgJcfGQb5gKcfLQbPgMsfaQcTgQcfnQdDgVcg1QeDgXcg7QebgYsgHQfjgdMgUQfzgfMghQgzgi6gnQhHglMg+Qhzgnch9QiXgp6hGQjHgrMhMQj",
    "ngtMhaQkTgx6hmQl5gychyQlrh0ci3QmPh1si9Qmzh46iHQnTh6siUQoHhA6ihQonhBsirQpPhEsi*QqPhIcjDQr9hLcjOQrrhO6jdQsjhRcjmQtLhVKOXNcj+Qu9hXMkNQvjhdskWQw9heskeQwbhh6kjQwvhi6kuQxbhlMk+QyDhn6l9QynhrclQQ+5huslcQ+ThxclnQ*Th+Ml*R09i16m5R0bi3MmER11i4cmPR1zi9cmdR2XiB6mkR3DiDMmsR3fiEsm*R4fiIsnDR4ziKcnKR5biMsnSR6jiRMnlR7HiTcnuR7biUso5R8PiXso9R9HibMoN",
    "R9Xid6oVRB1iicoqRC9incpDRCziq6pHRD9ir6pMHo5URDfit6pWRETiwMphREnixcpoRFHj16q7RGfj3cqFRH5j4sqQRIPj9sqeR6TjBcqlRJ5jEMqyRJzjLsrURLzjOMrbRMTjRsrmRNnjWcs7RP5jacsKRPPjbssORQfjh6sqRRTjkMszRRzjn6t8RSfjpctFRTPjsstTRTzju6tYRULjwMtlRV1jz6tsRVnk06u4RXvk8cudRZ9kDcuvRZjkF6v4RaLkI6v9RajkJsvHRb9kKsvKRbTkN6vTRbv88LvkOcvZRcXkSsvxRdrkZMwJRfbke6wdRg",
    "rkhcwnRhDkksw*Ri1kmMx3RiTko6xARirkpcxFRkjkxMxkRlbk+sxzRmHl26yARmnl3MyMRnXl6cyRRoPlAMygRozlC6ypRpPlEsyyRorlJszHRr9lKszNRrblMczTRrvlOMzYRsXlR6zzRtvlWs+7RuXlYs+CRurla6+IRvDlb6+MRvflds+WRwLlfc+dRwXlhc+lRx1ljM+sRxnlnM*7RyXloaaXNc*QRzvlw6*fR*1lzM*vR*nl*N00S0Lm1d07S0rm5t0WS2DmBt0qS3TmEN0yS4DmH718S4bmId1BS5HmLN1TS5vmJd1aS6LmR71kS7LmTd1+",
    "S85mXN26S9HmbN2MS9Tmc72RSAHmgt2mSB5mj72tSCfmqN3JSDHmrN3MSDXmt73aSFfn0t44SGLn1d47SGjn374FSHvn874hSIrnBt4mSJ5nE751SKLnHd57SKfnIt5GSL9nLt5QSLnnNd5WIY5USMXnUN60SOLnXt6CSP9ncd6RSQ1ned6lSR1nid6pSRfnlt70SS5nn77BSSnnqt7MSTbnsd7SSVXn*d80SWTo2789SXDo5t8QSXro7t8aSYjoBt8qSZXoEN91Sa9oGt95SavoJt9GSbDoLN9MSbfoN79USc1oOt9eScjoRd9lSd5oTt9uSdjoV7",
    "9*SeHoYNADSevoatARSgXohNAkSh5oj7A+Si5ontB9SinorNBMSjXottBbSlDoz7BwSljB8Lvo*dC2SmHp1NC7Smjp3NCISnDp67CPSnvp8dCaSoTpA7CiSp5pCdCrSpfpEtCzSqDpJNDGSr9pLdDOSrrpNdDVSs1pPdDdSsbpQtDiSsvpRtDnStTpUNDySu1pWNE3SuLpXdEESv1patELSvTpc7ESSvvpdtEWSw9pfNEcSwfpgtEjSxLpjtEvSxnplNE*SyLpndF9Syjpp7FFSz9pqtFMSzbptNFXS+DpvdFdS+bpz7FrS*Tp+NFwS*jp*KmXNdF*",
    "T01q0NG4T0Tq2dGHT1fq6tGaT2PqA7GfT2fqAtGiT2rqBdGlT31qCNGvT41qGtH4T4PqHtHBT4rqKNHIT5TqNNHYT6PqPtHeT6jqRNHkT75qSdI0T85qXNI6T8TqYNIFT91qaNIIT9XqcNIQT9nqdtIWTA5qetIcTAXqgNIgTAjqhdIlTB5qidIrTBbqktI*TCXqoNJCTD1qqtJOTDfqstJUTDzqv7JeTEfqwtJlTFHq+dJxTFnq*tK6JI5UTH9r5dKNTI1r8NKaTITrANKgTIzrDdKvTJrrFdK*TK1rGtL7TKXrJdLGTL9rLtLUTLzrONLlTN5rUN",
    "LwTNjrV7LzTNvrWNM5TP1radMJTPLrcNMSTQ9rf7MqTRfrltN0TS5rn7N6TSnrpdNFTTTrt7NVTU1ruNNaTUTrx7NkTUzryNNvTW1s0dO3TWHs1tO8TWfs37OFTX9s4tOLTXPs6NORTXns7NOUTYDs9NOcTYbsBNOoTZDsDNOuTZbE8LvsEdOyTafsG7P1TaDsH7P5TabsItPLTbbsNtPaTcLsRNPkTczsSNPqTe5sXNQCTersbNQRTfnsdNQVTg1sedQZTgHsfNQcTgTsg7QgTgrslNR1TiLsoNRBTinspdRKTjbsu7RcTkXsx7RmTl5szdRvTlnt",
    "07S6Tmft3dSITnHt5NSNTnbt6dSSTo9tA7SjTovtBtSqTpLtDdSvTprtFdT2TqLtHdTATqrtJdTFTr9tLdTNTrntNdTVTs1tOayXNdTaTsTtQdTiTt1tSdTpTtHtUdTzTu1tX7UCTurtb7ULTvPtcdUVTw9tftUgTwvthtUnTxLtldV3TybtqNVITzLtsNVUTzztu7VaT+PtwdViT*1tyNVqT*Xt+tW5U0Pu2NWDU0vu4NWTU25u8dWZU2ruBdWmU3LuDtX3U4HuHtX8U4nuJdXIU5nuNdXWU65uOtXaU6XuQdXkU7fuVdYAU8zub7YOUA5udNYUU9",
    "zuf7YeUAnuhNYmUB5uidYpK25UUBjulNY*UCTuo7Z9UCnupdZIUDDurNZMUEHustZVUE1uuNZcUEfuydZpUG1uzdZtUFfu+tZ*UGPv37aGUHfv77aUUHzv87abUITvANajUJ5vD7arUJjvFNa*UKHvHNb6UKfvItbFUL5vL7bOULjvN7bdUMbvQtboUNbvUtbyUNvvYtcCUP5vatcKUPLvbdcOUPjvd7cXUQXvgNchUQzviNcqURXvktd2USHvntd8USfvptdKUTPvsddTUTvH8Lvvu7dYUULvwddhUUrvyNduUVnw0de3UWTw2NeAUWnw4NeLUXjw",
    "7deXUYTwAtejUYzwC7eqUZLwE7evUZfwH7f5UaTwI7fCUbLwLdfPUbnwNNfVUc1wPNfdUcfwRNfrUdXwVdg0Ue9wXNg6UefwYtgGUf5wb7gUUg1wetgiUhDwjNgvUhjwl7h6Uibwp7hEUj5wstheUkbwwthiUl5wz7hxUlrw*di7UnHx7tiZUoTxANigUojxBNikUozxC58XNdinUpHxFNi*Uq1xGNj7UqvxLNjWUsHxPdjfUsfxRNjlUt9xStjtUuHxYNkEUv1xaNkMUvjxddkWUwLxh7klUx1xidkrUxPxkdkxUxnxlNl2UyLxo7lAUzHxrdlNUz",
    "bxsdlRU+XxwdloU*HxzNluU*bx+dlyU*vy0Nm2V0Dy17m6V0by2tmCV0vy3tmPV1jy87mbV2PyA7miV35yCtmqV3PyENmwV4PyIdnLV55yKdnJV5byMdnRV5nyNNnUKo5UV65yOtndV6byRNnkV71ySdnvV7nyVNo6V8TyZtoKV9vye7ocVB1yjdotVBfyktoyVBzyn7p7VCXyoNpDVCzyqtpKVDLyrtpPVDfytNpcVEbywtprVGDz1tq8VGbz3tqHVH9z4tqMVHrz7dqZVIPzAdqjVJ5zF7qzVJvzG7r1VKTzI7rDVL5zKtrNVLbzMdrSVLrzPNrd",
    "VMfzS7ruVNfzUtr*VO5zWds3VOLzXds8VOjzZ7sDVP5zbdsNVPrK8LvzddscVQTzgdspVRPzjtsvVS9zmtt4VSLzndtCVSrzpdtNVTb+07tYVULzvdtgVUjzxNtnVVLzzdtvVVf+27uGVX5+5NuNVXn+7NuWVYT+A7uiVYr+BtupVZP+Ftv4VaL+HtvEVb1+KdvOVbz+ONvYVcL+QtvkVcz+StvuVdv+WNw6VeT+YdwDVf5+bNwOVff+dNwUVpn*EtyzVpv*Ftz3VqH*HtzFVr9*KtzRVrn*NNzXVsD*P7zbVsP*RLKXNdznVtr*Vdz*Vu1*Yt+DVu",
    "z*a7+HVvP*bt+SVw5*ed+cVwf*hN+qVxn*lt*0VyD*o7*EVyz*st*VV+D*vN*eV+n*xd*lV*9*+d*zV*v**u07W0Y02e0DW0w03u0HW1E0580MW1s07e0VW220980cW2o0Be0mW3I0DO0tW3c0Ee0yW3w0G814W620P81cW6s0SO1rW860Y82EW9o0de2cWAU0gu2uWBc0o83DWC+0qe3KWDM0ru3OWE20xO3kLY5UWF20ye3pWFQ0+O3wWFw10u4BWHQ15u4OWHo17e4WWII19u4iWJ21DO4wWJo1HO57WKg1J85IWLU1O85XWMU1Q85fWMs1Ru5t",
    "WO61a864WOM1Xe6BWOw1be6OWPk1de6YWQw1ie6qWRk1ou73WSM1oe7EWS+1rO7NWTk1tO7UWU61v87hWUo1y87nWVA1zO7sWVY1+O7zWV+20883WW+24u8KWXc26e8TWY628e8eWZA2D88wWaE2H895WaPN8Lw2Iu9EWa+2KO9MWbo2O89ZWcU2RO9qWdk2VO9*We22WOA3WeI2XuA9Weg2ZeAHWfI2beAOWfg2cuAWWg62euAaWgU2g8AfWgg2heAmWhA2j8AtWhg2l8A+Wh+2neBGWjM2seBWWkA2v8BeWkg2xOBlWlQ2zuBzWlw308C1WmU328",
    "CAWmk3L8CRWns37eCVWo638eCiWos3BeCmWpE3DuCwWpo3FOD2WqE3H8D7Wqs3JeDHWrM3LeDNWt23U5WXNeDzWt+3W8E2WuI3XeEDWvA3b8ELWvY3cOERWvo3dOEcWwU3gOEiWxw3luF0WyU3oOFFWz23qOFKWzs3KuFeW+g3zeFuW*c3*8G1X0Q42eGFX1645OGPWws4BuGvX4M4HuH8X4g4JOHFX564KeHMX5Y4MOHQX5o4O8HaX6M4PuHgX724SuHqX7Q4U8HyX7s4WOI5X9A4auILX9w4feIeXAc4geIlXB64j8IwXBs4leJ0XCA4nuJ8XCo4",
    "puJJMI5UXDo4vuJgXE+4y8JnXFA4zuKoXFg4+uJzXGA50uK7XGo53eKGXHo57eKYXIE598KbXIU5AeKhXI+5CuKqXJQ5FuL6XK+5K8LHXLA5KuLMXLc5N8LTXLw5NuLWXM65OeLaXMk5RuLvXNg5UuLzXN+5WOM5XOQ5YOMBXOo5ZuMJXPY5dOMVXQ25eeMbXQU5j8MsXRU5k8MyXRs5leM*XSA5nuNAXSk5peMjXTY5seNVXU25veNeXUs5yuNsXVnQ8Lw5*uO0XWI61OODXWw648OHXXA668OPXXk67eOXXYU6AOOsXZY6EeOyXZs6G8P2XaQ6Ke",
    "PJXbQ6LuPOXbc6NOPWXc66OePZXcI6QOPiXc+6TOPsXdU6UeQDXf66beQOXfg6d8QXXgQ6fuQeXgs6iOQpXhI6jOQtXhY6kOQ*Xi26mOR3XiM6qORIXjM6ruRQXjo6u8RZXkM6vuQ8Xlg6*8RzXmI71OS7Xmk73eSFXn274uSKXnc77eSVXo678riXNeSeXow7BuSnXpA7EOSwXpo7FOS+Xq27GuT5Xqs7M8TTXs67P8TbXs+7SOToXtk7WuU4XuM7XeU7XuY7YOUBXuo7a8UJXvM7buUOXvc7deUWXwE7fuUiXws7heUnXxM7leU*Xy67o8V9Xyg7",
    "peVLXzQ7sOVQXzo7tuVYX+E7v8VgX+k7xOVnX*E7+8VwX*+80OW3Y0Q82OWAY0k848WPY1A84uWKY1Y86eWRY1o87eWVY2Y8BOWkY328CeWrN25UY3g8F8X1Y4E8HOX8Y4c8IeXBY4w8KOXLY5Q8M8XQY5o8NuXWY6I8QOXnY7c8UuY0Y9Y8ceYRY9o8duYWYAY8geYwYBs8leZ0YCg8ouZCYCs8peZHYDA8quZRYDw8vuZlYF28yOZrYFU90Oa6YGs93eaFYHM95eaOYHc96eaSYI299eadYIY9C8anYJA9DOavYJg9Feb0YKA9HOb6YKc9JubIYL",
    "U9MebRYLo9OObYYME9QubkYN29SubrYNfT8Lw9UubyYNs9YOcDYP29b8cLYPk9d8cVYQ29fOcmYRI9jOcsYRU9l8dKYTM9redNYTY9vOdfYUk9xOdnYVE9zedvYVs9*ue4YWMA1ueFYX6A4eeKYXMA7eeWYYAA98ecYYkAB8elYZMADuezYZwAG8f3YaMAHuf9YasAJefJYbQALufOYboANOfXYcMAPufrYdQATufvYdgAUuf+Yd+AW8g3YeQAYugFYf2AaegMYfUAcOgVYgUAgOgkYg+AiruXNegsYhUAkug+YiEAneh8YicAoehHYjEAr8hLYjUA",
    "tOhVYkoAy8hqYlMAzehyYl+B1Oi6YmkB4OiSYnwB7uiAYosBC8itYpoBGej3YqIBHOj6YqYBKejJYrIBMOjDYrwBOujjYtQBU8jvYtoBVek1YuIBXOkBYusBZukKYvMBd8kUYv+CE8mvZ3sCFen5Z4UCIOnBZ4+CKOnJZ5ICLunOZ5kCNOnPZ6ECP8ncZ6YCQOnjZ7ECTOnsZ7kCVeo6No5UZ8UCYuoGZ9ACauoPZ9kCd8oaZBcCkep5ZCQCoOpBZC+CrepLZDcCtOpXZEYCx8plZF2CyeprZFUC+8p+ZF+D0Oq3ZGcD4eqNZHkDPOrfZMoDRer*ZO",
    "ADX8s8ZOsDa8sHZPMDdesVZQ2DfeshZQoDhusoZRMDjusvZRkDm8t5ZSQDnut8ZSgDpetHZTIDrOtNZTcDv8tbZUUDx8tmZRoDyOtoZVID*Ou1ZWIE1Ou6ZWkE4OuKZXQE88uXZY9W8LwE8uucZYUECOupZZQEDuuuZZcEFOv0Za6EIuvDZawEJuvKZbkEN8vTZbwEOOvYZccER8vjZc+ES8vnZdcEUevxZeAEWuw9Zf2EaewLZfgEcuwTZfwEeewdZgcEhOwkZhEEjOwwZhkEm8x1ZiEEn8x7Zi+EqOxKZjoEw8xkZl2EyOxtZlcE+exjZm2F0ey7",
    "ZmYF3uyGZnQF5uyOZnwF88yXZoEF9OydZoYFB8yjZowFD8yrZpQFDuywZq2FGM4XNez3ZqUFJuzHZrAFKuzKZrMFM8zTZrwFPO+TZw2FeO+aZwMFfe+rZxQFk8++Zy2FmO*6ZygFou*DZz2Fqe*JZzMFu8*ZZ+IFw8*kZ*6FzO*sZ*kF*f02a0IG290Ca1YG6v0ea2cGBv0ga2oGBP0pa3IGDv0*a4EGH91Ca5kGNP1Ya6QGPv1ia72GT91va8MGY92Ba8oGZf2Ga9MGbv2Oa9cGcv2WaA6Gef2baB2Gif2paBIGjf2zaCoGlf33OY5UaCIGnP37aC",
    "YGrP3NaDYGsP3SaDsGtv3baDAGzf3haE+Gy93qaFwG*v40aGIH1P46aGYH3P4GaHIH5f4NaHYH6f4SaHwH894baIAH8v4daIcHBf4laJ6HD94saJUHEP4waJoHFP53aKUHI95FaLEHLv5PaLgHMv5XaMIHPv5jaNIHUP5waNkHWP63aOMHXf6AaOwHaP6JaPIHbP6OaPwHeP6caQYHh96jaQwHi96naRAHiv6saRkHl96zaRzZ8LwHmf73aSMHqv7KaTUHsP7QaTwHv97baUcHwf7iaUsHxf7laV2HyP7taVcH+v7zaW2I0P84aWMI1f87aWcI2f8C",
    "aX2I4f8JaXQI698SaXsI8v8aaYMI9f8eaYwIBv8maZEIDP8saZYIEP8waZoIFf90aaAIGv96aaUIIf9DaawIJv9HabYIMP9SabsIO99XacMIPv9eaccIRf9lad2ITP9sadUIU99vadkIV99zad+IY9A9aegIZPAEafAIbsGXNfAPaf+Ie9AaagMIfvAeagkIhvAoahQIk9AwahkIl9Azah+Im9B1aiAImvB5aiQInvB8aikIp9BDaiwIq9BJajMIrvBOajcIt9BTaj+Iu9BXakEIvPBdakYIx9Bkal2I+PBxal+J09C2amYJ3PCHanIJ5PCSansJ7f",
    "CVao6J99CbaoUJAPCgapEJD9CsapUJHvD8aqcJK9DHarAJLPDNarYJMfDUasIJPPDdascJQfDjas+JS9DnatEJT9DsPI5UatgJVPD*au2JWPE2auYJYfEBausJZvEIavMJc9ERavwJePEZawIJffEeawkJj9EraxQJkfEfay6Jn9F5ayQJnvF9aygJovFCaysJqvFPazoJtfFVa+AJvfFda*cJzvFua*gJ+vFzb06K0fG4b0YK2PGDb0wK3vGLb1QK5vGVb2wKBvGnb3AKCvGqb3kKFvGzb4EKHPH8b4gKJ9HLb5cKN9HVb66KOvHeb6kKRPHkb6+K",
    "SPHob8IKWvLubNbc8LwLVfM4bOYLZ9MDbOwLdPMUbP+LePMcbQcLgvMibRILjfMwbRsLlvN6bSYLoPNBbT2LqPNIbTELsPNQbTsLtfNVbU2Lv9NcbXsM7fOYbYIM9POcbYoMCPOpbZUME9OvbZgMF9Ozba6MKfPKbbQMLvPObc6MRfPqbdkMV9P+bd+MWPQ2beEMX9Q9bf6MbfQQbfsMdvQabgMMffQfbgwMhvQpbhgMofRINRAMs9RQbjsMtfRVbkcMxvRnblgN0cSXNfS3bmMN2PSQbnkN7PSXboAN8vSebp6NCvT1bqENIfTEbq+NLPTNbrYNMf",
    "TRbsENPvTgbswNSvTsbtUNU9TxbtsNVvU0bucNbPUMbvUNcPUQbvwNdvUYbwoNhfUnbxANjPUsbxYNkPUwbxoNlfU*by6Nn9V5byUNoPVAbyoNpPVEbz2NqPVKbzUNs9VPbzsNtfVWbzkNuPVab++NyPVqb*UN+9Vwc0UO2fWPc0sO3fWKc1QO79WUc22O8vWcQ25Uc2kOBfWlc32OCfWpc3MO9PW+c4IOHvXAc56OKfXJc5QOLvXPc5gOOfXZc6MOPfXgc6oOgvYjcAwOi9YqcBUOk9YwcBkOlvZ2cCMOo9ZCcE6OuvZbcEQOvvZgcFEOzfa2cGUP",
    "29aHcHMP5faNcHgP6vaScH+P8faccIUPAvancJAPCvaqcJMPEPawcJkPF9b0cK6PHfb7cKYPJPbEcLIPM9bPcLkPN9bUcL+PO9cRcPsPdvcccR2PiPcocRLf8LwPkPcwcRsPlvd3cScPqvdKcTcPsfdScTwPvvdgcUkPx9dmcVIPzPdvcVsP*fe2cWEQ19eBcWoQ49eHcXQQ7feWcYAQ8veacYUQBPekcZEQDPescZYQHvf1caIQIffBcaoQJffHcbIQLffTcggQh9gkcg+QifgqchMQjfgvchkQlfg*ci6Qmvh6ciYQpfhGcjAQrPhMcjUQsvhSck",
    "2Qv9hbckUQwPhiclAQyvhrclcQ+fhzcl+R09i1cmAR0seXNfi4cmMR29i9cmkR39iDcmwR49iIcnQR6PiRcnoR89iccokRBPipcpIRDPitcpcREfizcqYRIvjCcrMRLfjNcrkRNfjXcsERPPjccsYRQfjhcsoRRPjkctERTPjtctYRUPj*cu2RX9k5cuQRXvk9cugRYvkDcu+Ra9kKcvgRdPkUcwQRfvkfcwoRi9kncxARjvkucxkRl9k+cx+RmPl7cyYRpflGczURs9lTcz+RvPldc+gRwvllc*ERzvluQo5Uc*cR+flzc*+S09m2d0kS3vmHd1QS",
    "69mPd1gS79mUd2AS8vmcd2USA9mfd2gSCPmrd3QSDvmzd46SGvn4d4MSIPnAd4wSJvnGd5ESL9nMd5YSMvnTd5wSNvnZd6cSQfnSd6kSQ9nkd72SSfnrd7USUvpcdFASzvpvdGkT0fqHdHUT69qSdHsT7fqldJ2TCfqpdJITEfqydKMTFPr2dKETHvrAdLETL9rVdMETOfrbdMcTQfrhdN2TTfrtdNji8LwTV9r+dOETX9s6dOgTZPsEdPATavsLdPQTbvsOdQ6TgfsidQwTiPsrdRcTl9s*dSETnvt9dSgTr9tLdTQTrvtQdTwTtvtWdUMTvvtfdU",
    "kTxftmdVETz9t+dWgU0fu7dWwU49uHdXAU5PuMdXcU79uTddgUUvvyde2UWfw3deIUXPw7dewUZvwMdfYUcvwUdgIUg9widgwUhvwmdhEUj9wrdiQUo9xBdjMUtvxadkUUx9xjdkwUy9xndlAUzMqXGvxudl+V0fy3dmcV3vyGdn6V4fyKdnQV5vyPdngV6vyVdoAV9fygdokVBvyndpAVD9ytdpcVEfyydpsVFvz1dqEVH9z5dqQVHvzJdrMVLfzNdrYVMfzTdrwVQ9zfdssVRfzldt2VSPzpdtMVUfzzdu+Va9+HdvAVb9+MdvUVdf+XdwAVev+b"]

/-- The GBK additions to GB 2312, by lead and trail byte. -/
def gbkData : String :=
  String.join [
    "WK2*JW9E14u5JWPE3quIJXTE7quWJY5E8qucJYbEBaulJZ5ECqurJZTEF4v0Ja5EGav4JaPEIavHJbLELqvQJbjEOavZJcHEPKvdJcXEQavhJcnERKvkJczESavqJdLETavtJdXEUKvwJdjEV4vzJdzEW4w1Je9EWqw4JeLEXqwA001Ea4wMJfTEcKwSJfrEdawZJgfEhqwmJh5Ej4wsJhTEk4wvJhnElKw+JiXEp4xFJj1EqaxQJjjEt4xWJk9EvaxdJkbExKxkJkzEyKxqJlXE+KxwJlnE*ay0Jm9F0qy4JmLF1ay7JmXF2qyCJn9F4qyKJnLF5a",
    "ySJnrF8KyZJoXFAKyiJorFBaynJpDFDKytJpbFEqy+JpzFG4z1Jq9FH4z5JqTFI4z9JqfFIqzCJr9FL4zMJs5FOazcJsXFQazhJsrFRaznJt9FTKztJtXFUKzwJtrFW4+1Ju9FXK+6JuTFYa+CJuvFa4+IJvDFbK+MJvXFcK+QJvnFda+VJw5Fee90lq+aJwjFhK+mJx5Fia+pJxHFja+tJxXFkK+wJxjFl4+zJxvFm4*1Jy9Fna*7JyXFoK*BJynFpK*IJzDFr4*LJzPFsK*RJ+1Fua*aJ+LFvq*hJ+nFy4*oJ*HFzK*sJ*TF+K*xJ*nF*K**K01G",
    "0L02K0DG1505K0PG1r08K0bG2W00K0jG3b0GK15G4r0LK1PG5r0RK1rG7b0WK29G8r0aK2TGAr0lK31GCL0oK3DGD50rK3PGDr0uK3bGEr0zK3zGG511K49GH515K4PGIL1AK4jGJL1GK55GKb1JK5HGLb1NK5XGML1RK5rGNb1VK61GOL1YK6DGP51cK6TGQ51fK6fGQr1jK6vGRr1mK75GSb1pK7HGTL1uK7bGUb1yK7rGWL22K8DGX526K8TGYL2AK8jGZ52EK8zGa52HK99Gar2KK9LGbb2NK9XGcL2QK9jGd52TK9vGdr2WKA5Geb2aKAPGgb",
    "2hKArGhb2lKB1GiL2pKBHGjL2sKBTGk52vKBo3GBzGlL2+KBzGm531KC9Gmr34KCLGnb37KCXGoL3AKCjGp53DKCvGq53HKD9Gqr3KKDLGrr3OKDbGsr3SKDrGtb3VKE1GuL3YKEDGv53bKEXGwL3gKEjGxr3mKF5Gyb3qKFPGzr3uKFbG+b3yKFrG*b3*KG1H0L42KGDH1545KGW00549KGfH354DKGvH3r4GKH5H4r4KKHLH5b4NKHXH6L4QKHjH754TKHvH7r4WKI9H8r4aKILH9b4dKIXHAL4gKIjHB54jKIvHBr4mKJ5HCb4pKJHHDL4sKJTH",
    "E54vKJfHEr4yKJrHFb52KKTHIb5CKKvHJr5GKL9HKr5NKLXHML5RKLrHNb5VKM1HOL5ZKMHHPb5dKMbHQb5lKN9HUb5+KNzHWr64KOPHXr6AKOjHZb6FKP1HaL6JKPHHc56QKPrHdb6VKQ5Her6cKQTHg56fKQfHhL6kKRHHk56vKRfHlb6*KS5Hmb73KSLHo57AKSrHpb7GKT9Hqr7KKTLHrb7NX42*KTXHsL7QKTnHtb7VKU9Hur7bKUPHvr7eKUbHwb7iKUvHyL7oKVHHzr7+KWHI1L89KWjI358FKX1I4r8KKXLI758UKXzI8L8YKYDI9L8cKY",
    "TIAb8iKYzICL8oKZHIDL8yKZvIH595KaPIHr98KabIIr9EKazIKb9JKbLILr9O001IML9QKbjINL9VKc1IOb9ZKcHIPb9eKcjIR59jKcvIS59nKdDIT59rKdPITr9uKdbIUb9xKdnIVbA0KeDIX5A5KePIXrA9KefIYrACKerIZbAFKf5IabAKKfLIbbANKfXIcLAQKfnIf5AbKgPIfrAkKgzIi5AqKhLIjbAtKhXIkLAwKhjIl5AzKi1ImLB2KiHInLB6KiXIobBCKirIpbBFKj5IqrBKKjLIrrBPKjfIsrBSKjrItbBWKk5IubBZKkLIvbBdKkXI",
    "wLBgKkjIx5BjKkvIxrBnKl9IyrBqKlLIzbBtKlXI+rByKlrJ0LC2KmDJ15C7KmbJ2bCBKmnJ3eL0lrCHKn9J4rCKKnXJ6rCSKnvJ7rCYKoHJ9LCdKoXJALChKonJBLClKp1JCLCoKpDJD5CrKpPJDrCuKpnJFLD0Kq9JH5D6KqjJJ5DDKr1JL5DOKrbJMrDTKsLJQ5DgKsnJRLDoKtPJULDxKtnJVLD+Ku1JWLE3KuTJY5EAKuvJZm00Kv1JaLEIKvDJb5EMKvTJcLERKvnJdbEWKw5Jf5EdKwfJgrEiKwrJhrEmKx5JibEpKxHJjLEtKxXJkLEwKx",
    "nJlLE+Ky1JmrF4KyLJnbF7KyvJprFGKz9JqrFLKzfJt5FTKzvJuLFYK+TJz5FwK*vJ*rG0L09K1LG7L0jK55GOL1bK6bGSL29K95GbL2fKC5GpL3PKDrGwL3rKFrH1L49KH5H5L4TKILHCL4rKJbHFL55KMbHTL5vKNrHWL65KOrHbL6TKQLHgL6jKR5HjL6vKRrHmL7HKULHwL7vKVrI1L8DKXLI7L8XKYLIAL8rKaLIJL9TKc5ISL9vKdrIWLA66GBzKebIbLAvKi5IoLBLKjbItLBbKkbIyLBvKmrJ5LCfKorJMLDXKsrJWLE5KubJZLEHKwrJi",
    "LEzKy5JnLFHKzLJsLFTK+5JvLFjK*bK0LG9L0rK4LGLL25KALGjL35KDLGvL4bKJLHLL5bKNLHXL6LKQLHnL7LKULHzL8LKbLIO005KeLIbLArKjLJ9LD5KrLJPLE5KvLJfLErKzLK1LGbL5LKTLI5LBLKnLJLLELKzLKLLILLDLL5LNLLXLMLLQLLjLNLLULLzLO5LYLMDLQ5LfLMjLRrLmLN5LSbLpLNHLULLwLNrLVrM5LOPLZ5MDLOvLa5MILPDLbLMMLPTLcbMRLPvLe5MXLQ9LerMaLQLLfbMeLQbLgbMhLQnLhLMkLQzLi5MoLRHLjbMuLR",
    "fLl5M*LS1LmLN2LSDLnbN7LSXLobNBLSvLprNGLTLLrrNOLTbLsbNRLTvLu5NYLUTLwLNjLUvLy5NnLVHLzbNuLVbL+bNxLVnL*rO2LWDM15O5Xq2*LWPM1rOALWjM3LOGLX5M4bOJLXHM5LOMLXTM6LOQLXnM7LOWLY5M8bObLYPMA5OfLYfMArOkLYzMC5OpLZLMDrOuLZfMF5OzLZvMG5P1La9MGrP4LaLMHbP7LaXMILPALajMJrPGLb5MKbPJLbLMLbPQLbjMNLPULbzMO5PX001MOrPbLcPMPrPjLcvMRrPmLd9MSrPqLdLMTrPuLdbMUbPz",
    "LdvMVrQ0Le5MWbQ3LeHMXrQ8LebMYbQBLenMZLQGLf5MabQKLfLMbbQNLfXMcLQQLfjMd5QTLfvMdrQWLg5MebQaLgLMfbQdLgXMgLQgLgjMh5QjLgvMi5QnLh9MirQqLhLMjbQuLhbMkbQxLhrMlbQ*Li1MmLR2LiDMn5R5LiPMnrR8LibMorRCLirMpbRFLj1MqLRILjDMrLRMLjXMsLRSLkDMvLRcLkTMw5RfLkfMx5RkLkzMybRpLlPMzrRuLljM*5S0Lm5N0bS5LmTN2rSCLmrN3bSFLn1N4OX0lrSILnDN55SLLnPN5rSOLnbN6bSRLnrN7b",
    "SWLo5N8bSaLoLN9bSdLojNCLSoLpHNDLSsLpTNE5SyLprNFrT1LqDNH5T5LqPNI5T9LqjNKbTJLrHNLLTMLrXNMLTYLsDNPLTdLsnNRbTmLt5NSbTqLtLNU5TvLtfNVLT+LtzNW000Lu5NXrU8LubNYbUDLuvNZrUGLv5Nb5ULLvPNbrUOLvbNcbUSLvrNdbUVLwLNg5UgLwnNhrUmLx5NirUrLxPNjrUvLxfNkrUyLxrNlbU*Ly1NmLV4LyLNnbV7LyXNoLVALynNpLVGLz5NqrVMLzTNsrVSLzvNuLVYL+DNvLVcL+TNw5VfL+fNwrViL+vNy5Vn",
    "L*9NyrVrL*PNzrVxL*nN*bV*M05O0rW4M0LO25W9M0fO35WEM0zO45WIM1DO55WMM1TO65WQM1jO75WTM1zO8bWZM2LO9bWdM2XOALWhM2nOBLWkM2zOCLWoM3DOD5WsM3TOE5WvM3fOErWyM3s9GBzOFbW*M41OGLX2M4DOHLX6M4TOI5X9M4fOIrXEM4zOK5XIM5DOLLXMM5TOMLXQM5jON5XTM5zOO5XXM69OOrXaM6POPrXeM6bOQbXjM6vORrXmM75OSbXpM7HOTLXsM7TOU5XvM7fOUrXyM7rOVrY2M8HOXbY7M8XOYbYBM8m005YDM8vOZr",
    "YGM95Ob5YLM9PObrYOM9jOd5YTMA1OeLYYMADOf5YbMAPOfrYgMAjOh5YjMAvOhrYmMB5OibYpMBHOjLYsMBTOk5YvMBfOkrYzMBvOlrZ0MC9OmrZ4MCPOnrZ8MCbOobZBMCnOpLZEMCzOq5ZIMDDOr5ZMMDTOs5ZPMDfOsrZSMDrOtbZVME1OuLZYMEDOvLZcMETOw5ZfMEfOxLZlMF5OybZqMFLOzrZuMFfO+rZyMFrO*bZ*MG1P0La3MGLP1ba8MGbP2baBMGnP3baGMH5P4baJMHTP65aRMHrP7baWMI5P8baZMIPPA5aiMJ1PCbapMJLPDbax",
    "Ya2*MJrPFba*MK1PGrb5MKPPIbbCMKrPK5bIMLDPMLbRMLnPNLbUMLzPOLbZMMHPPbbdMMXPQLbgMMjPR5bjMMvPRrbmMN5PSbbrMNTPUbbxMNnPVbb*MO1PXLc9MOjPZ5cEMOzPa5cHMPHPbLcOMPfPcrcSMPrPdrcWMQ5Pebcc001PfrciMQrPi5cnMRDPj5crMRPPjrcuMRfPl5czMRzPm5d1MS9Pmrd4MSLPnrd8MSbPp5dDMSvPprdLMTPPsLdRMTvPtrdWMU5PubdaMUPPvrdfMUfPwrdjMUvPxrdmMV5PybdpMVHPzLdsMVTP+5dwMVnP*L",
    "d+MW1Q0beAMWjQ3LeEMWzQ45eIMXHQ5LeMMXTQ6LeQMXjQ7LeUMY5Q8beaMYPQ9reeMYfQAreiMYrQBbelMZ1QCrerMZTQE5evMZfQErezMZvQFrf1Ma9QGrf4MaLQHrf8MajQJ5fDMavQJrfGMb5QKbfJMbHQLbfNMbXQMLfRMbnQNLfUMbzQO8j0lrfXMcDQP5fbMcPQQ5ffMcjQR5fjMcvQRrfmMd5QSbfpMdXQULfxMdnQVLf+Me1QWLg2MeDQX5g5MePQXrg8MebQYbgBMenQZLgEMezQa5gHMfDQb5gLMfPQbrgOMfbQd5gTMfvQdrgWMg5Q",
    "ebgZMgHQfLgcMgTQg5gfMgjQh000MgrQhbglMh1QiLgqMhPQjrgvMhfQkrgyMhrQlrh0MiDQn5h5MiPQnrh8MifQorhDMivQprhGMj5QqrhLMjTQsLhQMjjQtLhUMjzQubhaMkLQvrheMkfQx5hjMkvQxrhmMl9QyrhqMlLQzbhtMlXQ+LhwMljQ*5hzMlvQ*ri0Mm5R0bi3MmHR1Li6MmTR25iAMmjR35iDMmvR3riGMn5R4biJMnHR5LiOMnbR6biRMnnR7LiUMnzR85iXMo9R8riaMoLR9bidMoXRALigMojRB5ijMovRBrimMp5RCrirMpPRE5",
    "ivMpfREriyMprRFbi*Mq5RGbj3MqHRHLj6MqUCGBzRI5j9MqfRIrjCMqrRJbjFMr9RLbjUMs1ROLjdMsXRQrjjMsvRRrjoMtHRTbjtMtXRULjxMtnRVbj*Mu9RXbkAMurRZbkGMv5RabkKMvPRdrkdMwXRgLkiMwrRhbklMx5RibktMxfRkrkyMy1RmLl3MyXRoLlAMyjRpLlEMyy005lHMzHRrLlMMzTRs5lPMzfRsrlSM+1RublZM+PRvrlfM+fRwrliM+rRxrlnM*9RyrlqM*LRzbltM*rR*bm0N09S0rm5N0TS25mBN0nS3LmEN11S4bmJN1TS",
    "6LmRN1vS7rmWN25S8rmcN2XSALmgN2jSBLmkN2zSC5moN3DSDLmsN3TSGrn4N4PSHrnCN4rSKbnJN5HSLbnNN5XSMbnRN5nSNLnVN69SP5ndN6XSQLngN6jSR5njN71SSbnpN7HSTLnsN7TSU5nxN7nSVLn+N81SWro4N8LSXbo7N8bSYboBN8vSZroIN9DSbLoTN9vSdroWNA5Sf5obNAPSfroeZK2*NAfShbolNB1SiboqNBPSkLowNBjSl5o+NC1Smbp3NCLSnbp7NCXSoLpANCnSpLpENCzSq5pHNDDSr5pLNDPSrrpONDfSsrpSNDrStbpVNE",
    "1SubpZNETSwLphNEnSxbplNF5SybppNFHSzLpsNFTS+5pvNFfS*5pzNFvS*rq0001T0Lq4NGLT25q9NGfT2rqCNGrT3rqGNH5T4bqJNHLT5rqONHbT6bqSNHrT7rqWNI5T8bqZNILTA5qgNIjTB5qlNJ1TCLqoNJDTDLqsNJTTE5qvNJfTErqyNJzTG5r1NK9TGrr4NKLTHbr8NKbTJLrENKzTK5rHNL9TKrrKNLLTLbrNNLbTMbrSNLvTNrrWNM5TObrZNMHTPLrcNMTTQ5rgNMrTRbrmNN5TSbrpNNLTTbrtNNXTULrwNNjTV5rzNNvTVrs0NO5T",
    "Wrs4NOLTXbs7NOXTYLsANOjTZ5sDNOvTZrsGNP5TabsJNPHTbLsMNPTTc5sQNPjTd5sUNPzTe8v0lrsXNQ9TersaNQLTfbsdNQXTgLsgNQjTh5sjNQvThrsmNR5TibspNRHTjLssNRXTkLswNRjTl5szNRvTlrt0NS5Tmbt3NSHTnbt7NSXToLtANSjTp5tENSzTq5tHNT9TqrtKNTLTrbtNNTXTsLtQNTnTtrtWNUDTv5tgNUnTxG00NV1TzLtsNVXT+LtwNVjT*5t*NW1U15u7NWbU2buBNWrU3buINXDU5ruUNXzU85uXNY9U8ruaNYLUA5ufNY",
    "fUAruiNYzUC5uoNZDUD5urNZPUELuwNZvUFrv0Na5UGrv6NaTUI5v9NafUIrvDNavUJrvGNb5UKbvJNbPULrvONbbUMbvSNbrUNrvWNcDUP5vbNcPUPrveNcbUQbvhNcnURLvkNczUS5vnNdLUTrvvNdvUWLw2NeDUXLw8NebUZ5wDNevUabwONfjUdLwXNg9UerwaNgXUgLwgNgjUh5wkNgzUi5wnNh9Uj5wwNhjUl5wzNhzUm5x1Ni9Umrx4NiMFGBzUnbx7NiXUorxCNirUpbxFNj1Ur5xLNjTUs5xPNjfUt5xTNjvUtrxWNk5UubxZNkHUvLxc",
    "NkTUwLxhNknUxLxkNkzUy5xnNl9UyrxrNlXU+LxxNlnU*Ly5NmPV1ry9NmnV3LyENn1V4byKNnPV6LyQNnnV7LyUNo5V8byZNoG005yeNojVB5ykNp1VCbypNpHVDLysNpTVE5yxNprVFby*Nq5VGbz3NqHVHLz6NqTVI5z9NqfVIrzCNqrVJbzFNr5VL5zPNrfVMrzSNrvVNrzWNsDVPLzdNsXVQrzkNszVSbzqNtLVTbzuNtfVVLz+NtzVWr+6NurVZb+FNv5Var+KNvPVcb+RNvrVdb+VNw1Veb+ZNwHVfL+cNwTVgL+hNwnVhr+mNx5Vib+pNx",
    "HVjb+uNxbVkb+xNxvVlr*0Ny5Vmb*7NyXVob*BNyvVqr*KNzLVsb*RNznVtb*VN+9Vur*bN+PVw5*fN+nVxr*mN*9Vyr*qN*PVzr*vN*fV*607a42*O0XW2M0BO0nW460HO1DW5s0OO1fW7c0VO29W8s0aO2nWBM0kO31WCM0oO3DWD60sO3TWE60vO3fWFM0+O41WH615O4PWHs18O4bWIc1CO4vWJs1HO5DWL61MO5TWM61RO5nWNc1VO61WOM1bO6PWRc1nO79WT61rO7TWVc20001WWM22O8LWXc27O8XWYc2BO8vWZs2GO95Was2LO9TWc62P",
    "O9nWdc2XOA9Wf62bOATWgM2gOAvWi62pOBLWjc2tOBbWkc2zOBvWls30OC5Wmc33OCHWns38OCbWp63DOCvWps3GOD9Wqs3KODPWrs3PODjWtc3XOE9Wus3aOELWwc3nOF9WzM3tOFXW+s3yOFrW*c3*OG9X0s44OGLX1s4AOGjX364GOH5X4c4JOHHX5c4NOHXX6M4ROHnX7M4UOI5X8c4bOIXXAM4gOInXBM4kOIzXC64nOJ9XCs4qOJLXDc4tOJXXEM4wOJjXF64zOJvXG651OK9XGs54OKLXHf50ls57OKbXIs5DOKzXK65IOLDXL65MOLTXM6",
    "5POLfXMs5SOLvXNs5WOM5XOs5aOMLXPc5fOMfXQs5iOMrXRc5lON5XSc5pONHXTc5uONbXUc5xONnXVM5+ONzXW661OO9XWs64OOLXXc67OOXXYM6AOOnXZM6FOP1XaM6IOPDXbG00OPPXbs6OOPbXcc6ROPnXdc6VOQ1XeM6YOQDXf66bOQPXgc6hOQrXhc6lOR1XiM6oORDXj66rORPXk66vORfXks6yORrXls70OS5Xms74OSLXnc77OSbXp67DOSvXps7GOTDXrM7MOTTXs67POTfXss7SOTrXtc7VOU1XuM7YOUDXv67bOUTXw67fOUfXws7i",
    "OUrXxc7lOV1XyM7oOVDXz67sOVTX+67vOVfX+s7yOVrX*c80OW5Y0c83OWHY1M87OWbY4s8KOXbY768TOXvY868ZOYPY9s8eOYbYAs8jOYzYC68nOZ9YDM8sOZXYEM8wOZjYF692OaHYHM96OagIGBzYJs9GObLYLc9NObbYMc9SObrYNc9VOc1YOM9YOcHYPM9eOd5YSc9qOdLYTs9uOdfYUs9zOe5YWcA3OeLYXcA7OeXYYsACOerYZcAFOf1Yb6APOfnYdMAUOgDYfcAdOgbYgcAjOgvYhsAmOh9YisAqOhPYjsAuOhfYlcB0Oi4006B3OijYps",
    "BHOjLYtMBUOk1YuMBaOkfYwsBmOl9YzMBuOlbY+cBxOm1Z0sC4OmLZ1cCAOmjZ36CDOmzZ46CIOnDZ56CLOnTZ66CPOnnZ9cCdOobZB6CjOovZC6CnOpDZD6CrOpPZDsCuOpjZF6C+OpzZG6D1OqHZHsD8OqfZKMDIOrDZL6DMOrTZM6DPOrfZMsDSOrrZO6DaOsLZPcDeOsfZQsDiOszZS6DoOtDZT6DrOtXZUMDyOtrZVcD*Ou5ZWsE4OuLZXcEBOurZaMEJOvHZbMENOvbZccEROvnZdMEUOvzZeMEaOwPZgsElOx5ZicErOxPZkMExOxrZlsF0",
    "aq2*Oy5ZmcF3OyLZnsF8OyfZosFCOz5ZqsFKOzLZrsFOOzbZscFROznZtMFVO+9Zv6FbO+PZvsFeO+jZx6FkO+zZy6FnO*DZzMFtO*bZ+cFxO*nZ*cG3P0Ha1cG7P0Xa2MGAP0ra3cGHP19a5MGMP1Ta66GPP1fa7MGVP29a8sGa001a9MGdP2XaAMGhP2vaBsGmP35aCcGpP3LaDcGtP3XaEMGxP3naFcH0P49aGsH9P4jaJ6HDP4vaJsHGP55aKsHLP5PaLsHPP5faMsHSP5raNsHWP65aOcHZP6HaPMHcP6XaQcHhP6naRcHlP71aSMHoP7DaT6",
    "HrP7PaTsHxP7naVMH+P7zaW6I1P8DaXcI8P8baYcIBP8naZMIEP8zaa6IJP9HabsIOP9facsISP9radsIWPA5aecIZPALafcIdPAXagcIhPAzaiMIoPBDaj6IsPBbaksIzPBvalsJ1PCDan6J6PCTao6J9PCfaosJCPCzaqMJJPDHarMJMPDbasfH0lsJRPDnatMJVPE1auMJZPELavsJePEbawcJhPEnaxMJkPEzay6JnPF9aysJqPFLazcJtPFXa+MJwPFja*6JzPFva*sK1PG9b0sK4PGLb1cK7PGXb2cKBPGnb3MKEPGzb46KHPHDb56KLPHPb",
    "5sKPPHfb6sKSPHrb7cKVPI1b8G00PI9b8sKaPIPb9sKePIbbAcKiPIrbC6KnPJ9bCsKtPJfbF6KzPK1bGML2PKDbH6L6PKTbIcLBPKrbJcLGPL9bKsLKPLTbM6LQPLnbNsLWPM5bP6LbPMTbQ6LfPMfbRMLkPMzbSMLpPNLbTcLuPNbbUcLxPNnbVML+PNzbW6M1PO9bWsM4POLbXcM8PObbYcMDPOvbZsMIPPHbbMMMPPXbccMTPPvbe6MYPQDbfcMePQfbh6MkPR5bicMpPRHbjMMsPRTbk6MwPRjblcM*PS1bmcN7PSXboMNAPSrbq6NHPTDbr6",
    "NLPTXbsMNQPTjbt6NTPTvbtsNXPUDbv6NgPUkLGBzbycNpPVHbzMNuPVbb+sNyPVrb*cN*PW5c16O5PWTc26O9PWjc3MOGPX5c4cOMPXTc66OQPXjc76OUPY5c8cOZPYHc9cOfPYfcAsOiPYvcC6OoPZDcDsOuPZbcEcOxPZrcFsP0Pa9cH6P5PaPcHsP8PabcIcPDPavcK6PHPbW006PPPbjcN6PTPbvcO6PYPcDcPMPdPcbcQcPhPcncRMPnPd9cSsPrPdXcUMPxPdncVMP*Pe1cWMQ3PeLcXcQ8PebcYcQBPercZcQFPf1cacQJPfHcbMQOPfbc",
    "ccQRPfncdcQVPg1ceMQYPgDcf6QbPgPcgMQgPgjch6QjPgzci6QnPh9cisQrPhPcjsQuPhfcksQyPhrclsR0Pi5cmcR3PiHcnMR6PiTco6R9PifcosRCPircpcRFPj1cqMRIPjDcr6RLPjPcrsROPjfctcRVPk1cuMRYPkDcv6RbPkTcw6RgPkjcx6RjPkvcxsRnPlLczcRuPlfc+sRzPm5d0cS3ba2*PmHd1MS6PmTd36SEPmzd4MSIPnDd5cSOPnbd6cSSPnvd86SXPo9d8sSaPoLd9sSfPovdC6SoPpDdDcStPpXdEMSxPpndFcS*Pq5dH6T5Pq",
    "TdIcTBPqrdKcTKPrLdLsTOPrbdMcTRPrrdOcTZPsHdPcTdPsjdR6TkPt5dT6Ts001dU6TvPtfdUsTzPu1dWcU3PuLdXcU8PufdZ6UDPuvdZsUHPv9dasUKPvPdcMURPvzde6UXPwHdfcUfPwndhcUnPx9dj6UvPxfdksUyPxrdlcU*Py1dmcV5PyPdnsV8PybdocVBPyndpMVEPzLdrcVNPzjdtsVXP+Ddv6VcP+Tdw6VgP+jdxMVkP*9dzMVsP*Td+6VvP*fd+sVyP*ve0MW2Q0De16W6Q0re46WIQ1He5MWOQ1be6cWRQ1ne7cWVQ21e8cWZQ2He",
    "9MWcQ2TeA6WhQ2neBMWkQ2zeC6WnQ3HeDMWsQ3feEsW*Q4TeIsXDQ4zeKcXMQ5TeM6XPQ5feMvT0lsXSQ5reNcXVQ6feR6XjQ6veRsXmQ75eScXpQ7LeU6XvQ7feUsXyQ7reVcX*Q81eWcY4Q8TeY6Y9Q8feYsYCQ8reZcYGQ95eacYKQ9LebcYOQ9beccYRQ9nedMYUQ9zee6YXQADef6YbQAbegcYhQAnehcYnQB9ej6YsQBTek000QBbekcYxQBnelMY+QBzemMZ3QCHenMZ6QCTeo6ZAQCnepcZFQD1eqMZJQDHercZNQDbessZSQDretcZVQE",
    "5eucZaQELevcZdQEXewMZgQEjex6ZjQEzeycZpQFHezcZtQFXe+sZzQFve*sa0QG9f0sa4QGPf1sa8QGbf2caCQGzf4MaJQHHf5MaMQHTf66aPQHff6saSQHrf7caXQI9f8sabQIPf9saeQIbfAcahQInfBcalQJ5fCcapQJLfDcatQJXfEcaxQJnfFcb0QK5fGsb4QKLfHcb7QKXfIMbAQKjfJ6bDQKvfJsbGQL5fKcbJQLLfLcbOQLbfMsbSQL+OGBzfOMbYQMHfPMbdQMXfQMbgQMnfRMblQN1fScbpQNHfTMbsQNffUsbzQNvfVsc1QODfXMcA",
    "QOjfZ6cEQOzfa6cHQP9fascMQPTfcMcQQPrfdccVQQ1feMcYQQDff6cbQQPfgMcgQQnfhcclQR1ficcpQRLfjccuQRbfkccyQRq006c+QRzfm6d2QSDfn6d5QSPfnsd8QSbfosdDQSzfqMdIQTDfrMdMQTTfs6dPQTfft6dTQTvfuMdYQUDfv6dbQUPfvsdeQUbfwcdhQUnfxcdlQV1fyMdpQVHfzMdsQVTf+6dvQVff+sdyQVvg06e1QW9g0se4QWLg1ce7QWXg2MeBQWng3MeEQWzg46eHQX9g4seKQXLg5cePQXfg6seSQXrg7ceWQY9g8seaQY",
    "Lg9cedQYbgAseiQYrgBcemQZ9gCseqQZPgDseuQZbgEcexQZngFsf0Qa5gGcf3QaLgHcf8QabgIcfBQangJMfEQazgKMfIQbDgL6fLQbPgLsfQcK2*QbngNMfUQbzgO6fYQcDgP6fcQcTgQ6ffQcfgQsfiQcrgRcflQd1gScfpQdHgTMfsQdTgU6fwQdjgVMf+QdzgWMg2QeDgXMg6QeTgY6g9QefgYsgCQergZsgIQfDgb6gLQfPgc6gPQffgcsgSQfrgdcgVQg5gecgZQgHgfMgc001gfsgeQgfghMgkQgzgi6gnQh9gisgqQhLgjcgtQhXgkMgw",
    "Qhjgl6gzQhvglsh0Qi5gmch3QiHgnMh6QiTgo6h9QifgoshCQirgpchFQj1gqMhIQjDgr6hLQjPgrshOQjbgschRQjngtMhUQjzgu6hXQk9gushaQkLgvchdQkXgwMhgQkjgx6hjQkvgxshmQl5gychpQlHgzMhsQlTg+6hvQlfg+shyQlrg*ch*Qm1h0Mi2QmDh16i5QmPh1si8Qmbh2ciBQmnh3MiEQmzh46iHQn9h4siKQnLh5ciNQnXh6MiQQnjh76iTQnvh7sibQoPhA6ifQofhAsiiQorhBff0lsilQp1hCMipQpHhDMisQpXhEsiyQprhFs",
    "j0Qq5hGcj4QqLhI6jAQqjhJMjEQqzhK6jHQr9hKsjKQrLhLcjNQrXhMcjRQrnhNMjUQrzhO6jXQsXhQMjhQsnhRMjkQszhS6jnQt9hSsjqQtLhTcjtQtXhUcjzQtvhVsk0QuLhY000QunhZckFQv1haMkKQvLhbskOQvbhd6kTQvvhdskWQw9heskaQwLhfckdQwXhgMkhQwnhhMkkQwzhi6knQx9hjckuQxbhkckxQxnhlMk+Qy1hmsl4QyPhnsl8QybhoclCQyvhq6lHQzXhsclSQzrhtclVQ+1huclZQ+HhvMlcQ+Thw6lfQ+nhxMlkQ*1hyMlo",
    "Q*HhzcltQ*Xh+clxQ*nh*cl*R01i0Mm2R0Di16m8R0bi2cmBR0ni3cmIR1Ti76mTR1vi86mZR2LiAsmiR2riCMmpR3PiDsmvR3fiEsmyR3viFsn3R4HiHMn8R4jiJ6nDR4viJsnHR59iKsnMR5YRGBziMMnQR69iOsnbR6PiPsnhR6niRMnkR6ziSMnpR7LiTsnuR7fiUsnyR7ziW6o4R8TiYcoBR8riZcoHR99ibMoMR9Tic6oQR9nidMoURA1iecoeRAnihsomRBHijMosRBTikcp0RC5imcp3RCPinsp8RCjipMpERCziqMpIRDW006pPRDfit6",
    "pTRDziv6pcRETiwMpiREriycpqRFbi*sq0RG9j0sq5RGPj26q9RGfj3MqFRH1j4MqJRHHj5MqMRHXj76qTRHzj86qXRI9j8sqaRIPjA6qfRInjBMqlRJ1jD6qsRJTjE6qwRJzjG6r2RKHjIMrCRL1jLMrMRLTjM6rRRLrjNsrXRM9jP6rbRMTjQ6rhRMnjRMrmRN5jScrpRNLjTcrvRNfjUsrzRNvjVss0RO5jWss4ROPjXssAROjjZMsFRP1jacsMRPTjc6sPRPfjd6sYRQLjh6sjRR1jiMspRRHjjcstRRbjkcsxRRnjlMs+RS5jmct3RSXjoMtA",
    "d42*RSrjpctFRT1jqctJRTHjrMtNRTfjsstSRTzjuctZRULjvsteRUbjwctjRUzjy6toRVHjzMtsRVXj+ctzRVvj*su0RW5k0cu3RWHk1cu7RWXk2MuBRWzk4cuJRXLk66uPRXjk76uURXzk8cucRYTkA6ugRYnkBcumRZ5kCsur001kDcutRZbkEsuyRZrkFcu*Ra1kGMv2RaLkHcv7RaXkIMvARajkJ6vFRb1kKMvIRbLkLsvPRbfkN6vTRbvkO6vXRc9kOsvaRcLkPcvdRcXkQMvgRcnkRMvlRd1kSMvoRdDkT6vrRdPkTsvuRdbkUcvxRdnkVM",
    "w0Re5kWcw4ReTkY6wARejkZ6wDRevkaMwIRfDkb6wLRfPkbswPRffkcswTRfvke6wXRgDkf6wcRgXkgMwhRgnkhMwkRh1kiswrRhXkkMwyRhvklsx0RiDkn6x5RiPko6x9Rifkp6xDRivkq6xIRjPks6xPRjjkt6xTRkDkvsxgRkjkx6xjRkvkxvr0lsxmRl5kycxpRlLkzcxtRlXk+cxxRlnk*Mx+Rlzl06y1RmDl16y5RmTl26yARmjl36yDRmvl46yHRn9l5cyNRnXl6MyQRnjl76yTRnvl7syXRo9l8sybRoPl9syeRonlBcymRp9lD6yrRpTl",
    "E6yvRpflEsyyRprlFsz0Rq5lGW00RqDlH6z5RqXlIMzARqnlJczFRr1lKMzIRrDlL6zLRrPlLszPRrflMszTRrzlO6zXRsDlP6zbRsTlQ6zfRsflQsziRszlS6znRtDlTMzsRtTlUMzxRtrlVcz*Ru1lWM+2RuDlXM+6RuTlYc+BRuzla6+HRv9las+KRvLlbc+NRvXlcM+QRvjldM+URvzle6+YRwDlf6+bRwPlg6+fRwflgs+iRwrlhc+lRx1liM+oRxHljM+tRxXlkc+xRxnllM++RxzlmM*3RyHlnM*6RyTlo6*ARyjlp6*DRyvlps*GRzDlr6",
    "*LRzPlrs*ORzblsc*RRznltM*VR+9lus*aR+MUGBzlvc*dR+XlwM*gR+jlx6*jR*1lyM*oR*Dlz6*rR*Plzs*uR*bl+c*xR*nl*M*+R*zm0701S09m0t04S0Lm1d07S0Xm2N0AS0jm370DS0vm3t0GS19m4t0KS1Lm5d0NS1Xm6N0SS1rm7d0VS21m8N0YS2Hm9N0cS2TmA70fS2e0070hS2nmBN0kS2zmC70nS39mCt0qS3PmDt0uS3fmEt0yS3rmFd0*S41mGN12S4DmH715S4PmHt18S4bmId1BS4rmJd1GS55mKd1JS5HmLN1MS5TmM71PS5fm",
    "Mt1SS5rmNt1WS65mOd1ZS6HmPN1cS6TmQ71fS6fmRd1nS79mSt1qS7TmUN1wS7jmVN21S89mWt24S8PmXt28S8jmZ72DS8zma72HS9Dmbt2OS9fmct2US9zme72XSA9met2aSALmfd2dSAXmgN2gSB1mid2qSBLmjd2wSBvmlt34SCLmnd37SCbmot3CSCrmpd3FSD1mqN3ISDDmr73LSDPmrt3Qdq2*SDnmtN3USE1muN3YSEDmvN3gSEvmy73nSF9myt3qSFLmzd3uSFfm+t3ySFvm*t40SG5n0d43SGHn1N46SGTn274BSGnn3N4ESGzn4N4ISH",
    "Hn5t4RSHnn7N4USHzn874XSI9n8t4aSILn9t4eSIbnAd4hSInnBN4kSJ9nCt4q001nDN4tSJXnEN4wSJjnF74zSJvnFt50SK5nGd53SKHnHd57SKXnIN5BSKrnJt5GSL5nKd5JSLHnLN5MSLTnM75PSLfnMt5TSLznO75XSM9nOt5bSMbnQd5hSMnnRN5lSN1nSN5qSNLnTd5tSNbnUt5ySNvnVt60SO5nWd63SOLnXd67SOXnYN6BSOnnZN6ESP1naN6ISPDnbN6MSPTncd6RSPnndN6USQ5ned6ZSQHnfN6cSQTngN6gSQjnhN6kSQzni76nSR9n",
    "j76sSRTnk76wSRjnl76zSRvnlt70SS5nmd74SSLnnd77SSXnoN7ASSjnp77DSSznq77HST9nqw10lt7MSTTns77PSTfnst7SSTrntd7VSU5nud7ZSUHnvd7eSUbnwd7hSUnnxN7lSV1nyN7oSVDnz77rSVPnzt7uSVfn+t7ySVrn*d7*SW1o0N82SWDo1785SWTo2789SWfo2t8CSWro3d8FSX1o4N8ISXDo578LSXPo5t8OSXbo6W00SXjo778USXzo878XSY9o8t8aSYLo9d8dSYboAt8jSYvoBt8oSZDoD78wSZnoFd90Sa5oGd93SaHoHN96Sa",
    "boId9BSavoJt9GSb5oKt9KSbLoLt9OSbfoN79USc1oOt9aScLoQ79gScjoR79jSd1oSN9pSdHoTd9tSdXoUt9ySdroWdA3SeLoXdA7SeXoYNACSevoa7AHSfDob7ALSfPobtAOSfbocdARSfnodNAUSg1oeNAYSgDof7AbSgPoftAeSgbogdAhSgvoiNAoShDojNAwShjol7AzShvoltB0SiLondB7SiboodBBSinoptBHSjDor7BLSjPos7BQSjkYeGeXS25n8N8XSo5q8NKXTY5t8NWXUQRW5lur*ZR+EVuw*Z*+GFuz*Zx+GVv2*aF+H000003+",
    "E*uy*ZV+EFun003+C*uqg41M0ie2omBP81C0020b83KX1I498POXbo6O8PaY5I8V8YCYKY9c8cSYloLG9L4bKYLJ9LGbLILM9LSbM2LP9LebMoLS9LqbNYLV9M0bOILY9MCbP2Lb9MObPoLe9MabQYLh9MmbRILk9MybS2Ln9N8bSoM19O8bWoM49OKbXYM7000bY2M99OebYoMC9OqbZYMF9PCbb2ML9RmblINY9UCbv2Nb9WaYbJ0IC1qm7gYx1W9H0001H0580002OQb0IJ0XC28m8p0aC2Km9Z0dC2WmAJAZCuupZpESCvqpdZEXCyGppZFHCz",
    "8prVum*+B*v0008I4oCG0081000000000m*32RC9mm*J3+C0OmdJ2U*ad+IlvB*ap+JVvE*a*+KFvH*bB+LFvL*bR+L*vP*bh+M*vS*bt+NlvV*c3+OG00*cB+O*va*cN+Plve*cd+QlvhgPO1C0UgG65ot7BTSjzoudBZSkHovNBcSkTowdBhSlLozdBvSlro*dB*Sm1p0dC4SmLp1dC7SmXp2NCBSmnp3NCFSn1p4NCISnHp67CPSnfp7tCWSoDp97CcSoTpA7CjSozpC7CoSpDpDNCsSpfpEtCySprpG7D1Sq9pGtD4SqLpHdD7SqW007D9Sqfp",
    "ItDCSqvpJtDHSrDpL7DLSrPpM7DPSrfpMtDSSrrpNdDVSs5pOdDZSsHpPNDcSsTpQ7DfSsfpQtDkSt1pSQj0ONDoStDpT7DrStPpTtDuStbpUdDxStnpVND*Su1pWNE2SuDpXNE6SuXpYdECSurpZtEGSv9patEKSvLpbtEOSvbpcdESSvrpddEWSw5petEaSwLpfdEdSwXpgdEiSwrpiNEqSxLpjdEuSxbpl7EzSxvpltF1SyDpn7F5SyPpnm00Syjpp7FESz9pqtFKSzLprdFNSzXpsdFRSznptNFVS+5pudFZS+HpvdFeS+fpwtFiS+vpxtFmS*",
    "5pytFqS*LpzdFth41XS*Xp+NFwS*jp*7FzS*vp*tG0T05q0dG4T0Tq27GBT0nq3NGET15q4dGJT1Hq5NGMT1Tq67GPT1nq7NGUT1zq87GXT2Dq97GdT2bqAtGjT2zqCNGoT3TqE7GvT3fqEtGzT3vqFtH0T49qGtH4T4LqHdH7T4XqINHAT4jqJ7HD001qJdHFT51qKNHIT5DqL7HMT5XqNNHWT65qOdHZT6HqPNHcT6TqQ7HfT6fqQtHiT6vqRtHnT79qStHqT7LqU7HvT7gjG65qUtHyT7rqVtI2T8HqXNI6T8XqYNIAT8nqZNIFT95qadIJT9Hq",
    "bNIMT9Tqc7IPT9fqctITT9zqe7IXTA9qetIaTALqfdIgTAjqh7IjTAvqhtImTB5qidIpTBHqjNIsTBTqk7IvTBjql7IzTBvqltJ0TC5qmdJ3TCHqnNJ6TCS007J8TCbqodJBTCnqpNJETCzqq7JHTDDqr7JLTDPqrtJOTDbqsdJRTDrqttJXTELqvtJeTEbqwdJhTEnqxNJmTF5qygv0ONJpTFLq+7JvTFfq+tJyTFrq*dK0TG5r0dK3TGLr1dK7TGXr2NKATGjr37KETH1r4dKKTHLr5dKNTHjr7NKUTI1r8NKYTIDr97KcTITrAdKkTJHrDdKvTJ",
    "nrFNK*TK5rGdL3TKHrHdL7TKbrIdLDTL1rKNLITLDrLNLMTLTrM000TLrrNdLVTM1rONLYTMDrP7LdTMXrQNLhTMnrRNLkTMzrS7LnTNDrTNLsTNTrUdLxTNnrVNL+TO1rWNM2TOHrXNM7hq1XTOXrYNMATOnrZNMETP1ratMLTPXrctMSTPvredMcTQTrg7MfTQfrhNMsTRTrkdMxTRzrm7N1TSProtNCTSvrptNGTT5rqtNNTTbrsdNSTTrrttNWTU5rvNNfTUnrxNNkTUzrydNpTVLrzdNtTVXr+dNxTVrr*dO2TWHs1dO7001s27O9TWjs3NOE",
    "TWzs4NOITXDs57OMTXfs77OTTXvs8NOZTYTsA7OiTYvsBtOnTZ9sDdOtTZbsEdOxTZrsGNP2TaImG65sHNP6TaTsI7P9TafsItPETazsK7PHTb9sKtPLTbTsM7PPTbfsMtPTTbzsO7PXTc9sP7PbTcPsPtPeTcbsQdPiTcrsRdPmTd5sSdPpTdHsTNPsTdTsUNPwTdnsVtQ0Te5sWtQ5TebsYdQCTersZtQGTf9sb7QLTfTsc7QQTfi007QSTfrsddQVTg1seNQYTgDsfNQcTgTsg7QfTgfsgtQiTgrshtQmThDsjNQsThTsk7QvThfsktQyThrsld",
    "R0Ti5smx50ONR4TiTsoNRBTinsqtRLTjbssdRSTjrstdRWTk5sudRZTkHsvdRdTkXswNRgTkjsx7RjTl1sytRrTlPsztRwTljs*NR*Tm1t0dS3TmLt1dSATmnt3dSFTn1t4NSITnDt57SLTnPt5tSOTnjt77STTnvt8NSZToHt9NSdToftAm00TontBdSmTp5tCdSpTpHtENSxTprtFdS*Tq9tH7T5TqPtI7T9TqftItTCTqrtJdTFTr9tKtTKTrLtLdTNTrXtMNTSia1XTrrtNdTVTs1tP7TdTsbtQdTjTsvtRtTmTt5tSdTpTtHtTNTsTtTtU7Tw",
    "TtjtV7U1Tu9tWtU6TuTtY7U9TuftYtUFTv1tatUKTvLtbdUNTvXtcNUQTvjtd7UTTvvteNUZTwHtfdUeTwjthNUkTwztiNUoTxHtjdUtTxXtkNUw001tl7U+Ty1tmNV2TyDtn7V5TyPtntV8TybtodVBTyntpdVFTz1tqNVITzDtr7VLTzPts7VPTzfttNVUTzztu7VXT+IpG65tvdVeT+ftxtVmT*5tydVqT*LtztVvT*ft+tVyU0Du17W5U0Pu1tW8U0fu2tWEU0zu47WJU1Lu6NWRU1vu87WXU29u97WeU2fuAtWkU2zuCNWoU3DuDNWsU3ruFt",
    "X1U49uGtX4U4PuI7X9U4fuItXDU4zuKNXJU5HuM7XPU5e007XRU5nuNdXVU61uONXYU6DuP7XbU6PuPtXeU6buRtXmU75uSdXpU7HuTNXsU7XuUNXwU7juVNX+U7zuW7Y1U89uWxH0ONY4U8LuXdY8U8fuYtYFU91uadYKU9LubdYPU9ruddYWUA9uf7YcUAXugNYgUAjuh7YjUAvuhtYrUBPujtYuUBfuktYyUBrultZ0UC9umtZ4UCPuntZ8UCnupNZEUCzuqNZIUDDurdZNUDXusdZRUDnutNZUUDzuu7ZXUE9uum00UEHuvNZcUETuwNZgUEju",
    "xNZkUEzuy7ZnUFDuzNZsUFXu+NZxUFnu*NZ+UFzv07a2UGDv17a6UGTv27a9UGfv2taCjK1XUGrv3daFUH1v4NaIUHHv5NaMUHTv67aPUHfv6taSUHrv7taWUI5v8daZUILv9dadUIXvANagUIjvB7ajUIvvBtamUJ5vCdapUJLvDdatUJXvENazUJzvGdb3UKHvHNb7UKfvItbCUKrvJdbFUL1vKNbIULHvLNbOULbvONbZ001vP7bcUMbvQdbhUMnvRdbmUN5vSdbpUNHvTNbsUNbvUtbyUNrvVdb*UO9vWtc6UOTvY7c9UOjvZ7cDUOvva7cHUP",
    "AsG65vatcKUPLvbdcNUPXvcNcRUPnvdNcUUPzve7cXUQ9vetcaUQLvfdceUQbvgdchUQnvhNckUQzvi7cnUR9vj7crURPvjtcuURnvltd2USHvnNd7USXvoddCUSvvptdGUTDvr7dMUTTvsNdQUTjvt7dTUTvvu7dXUU9vvNdeUUe007diUUvvyNdoUVDvz7drUVPvztdvUVfv*7d+UVzw0Ne4UWLw1te8UWbw2deCUWzw47eHUX9w4teLUXPw67ePUXjw7BT0ONeTUXzw8NeYUYHw9NecUYTwA7efUYfwAteiUYrwBdelUZ1wCNeoUZHwDNesUZXw",
    "Ede+Ua1wGNf2UaDwH7f5UaTwI7f9UafwItfCUarwJdfFUb1wKdfJUbHwLNfMUbXwMNfQUbjwN7fTUbvwNtfWUc5wOdfZUcHwPNfcUcTwQ000UcbwQdfhUcnwRNfkUczwSNfoUdDwTNfxUdnwVNf+Ue9wXNg7UebwYdgBUenwZdgFUf1watgKUfbwcdgRUfvweNgYk41XUgDwf7gdUgbwgdghUgvwhtgmUh5widgqUhLwjdgtUhXwkNgwUhjwl7gzUhvwm7h1Ui9wmth4UiLwndh7UiXwoNhAUinwpNhEUizwq7hHUj9wqthKUjLwrthOUjfwsthSUj",
    "rwuNhYUkHwvtheUkbwwdhhUknwxdhmUl5wydhp001wz7hrUlPwzthuUljw*7h+Um1x0Ni2UmLx1ti9Umnx3NiEUn1x4diJUnPx5tiOUnfx77iTUnzx8NiYUoDx9tifUosvG65xBtimUp9xD7irUpPxDtivUpjxFNi*Uq1xGNj2UqDxH7j6UqXxIdjDUqvxKtjLUrTxMNjSUrvxNtjXUsDxP7jbUsPxPtjeUsbxQdjhUsnxRNjlUt1xStjqUtPxU7jwUtnxVNj*Uu5xWdk3UuHxXdk7UuXxYNkAUujxZ7kEUuy007kHUv9xatkMUvXxcNkQUvjxddkV",
    "Uw1xetkaUwLxhdklUx1xidkpUxLxjdktUxbxkdkxUxnxlNk+Uxzxm7l2UyDxnBf0ONl5UyXxoNlAUyjxpNlEUyzxq7lIUzHxrNlMUzTxs7lRUznxtdlVU+1xudlZU+HxvtleU+bxwtliU+rxxtlmU*9xytlqU*LxzdluU*bx+dlxU*rx*tm0V05y0dm3V0Hy1Nm6V0Xy2NmAV0ry3dmGV15y4dmJV1Hy5NmNV1Xy6G00V1fy6tmSV1ry7dmWV25y8dmZV2Hy9NmeV2byAtmiV2ryBdmlV31yCNmoV3DyD7mrV3PyDtmvV3fyEtmyV3ryFdn2kq1XV4",
    "DyH7n5V4PyHtn8V4byIdnBV4nyJdnFV51yKNnIV5DyL7nLV5PyLtnOV5byMdnRV5nyNNnUV5zyO7nXV69yOtnaV6LyPdndV6XyQNngV6jyR7njV6vyRtnmV75ySdnrV7PyTtnuV7byUdn+V7zyW7o1V89yWto4V8LyXdo7001yY7oAV8jyZ7oDV8vyZtoGV9Dyb7oMV9bycdoRVA1yeNoZVAPyftoeVAbygtoiVAryhtomVBHyjNosVBTyk7owVBkyG65yltp0VC9ymtp4VCPyoNpBVCvyptpGVD5yqdpJVDHys7pQVDjytNpUVE5yudpZVEHyvNpc",
    "VETywNpgVEjyx7pjVEvyy7pnVF9yytpqVFLyzdptVFby+dpyVFry*dp*VG1z0Nq2VGDz17q5VGPz1tq8VGbz2tqCVGrz3dqFVH0007qHVH9z4tqKVHLz5dqNVHXz6NqQVHjz77qTVHvz7tqXVIDz97qbVIPzA7qfVIfzB7qjVIvzC7qnVJ9zCtqqVJLzDhr0ONqtVJXzENqwVJjzF7qzVJvzFtr0VK5zGdr3VKHzHNr6VKTzI7r9VKfzItrCVKrzJdrFVL1zKNrIVLDzL7rLVLPzLtrOVLbzMdrRVLnzNNrUVLzzO7rXVM9zOtraVMLzPdrdVMXzQN",
    "rgVMjzR7rjVMzzS7rnVN9zStrqVNLzTW00VNXzUNrwVNjzV7rzVNvzVts0VO5zWds3VOHzXNs6VOTzY7s9VOfzYtsCVOrzZdsFVP1zaNsIVPDzb7sLVPPzbtsOla1XVPbzcdsRVPnzdNsUVPzze7sXVQ9zetsaVQLzftseVQbzgdshVQnzhNslVR1ziNsoVRDzj7srVRPzjtsuVRbzkdsxVRnzlNs+VRzzm7t1VS9zmtt4VSLzndt7VSXzoNtAVSjzp7tDVSvzpttGVT5zqdtJVTHzrNtMVTTzs7tP001zsdtRVTnztNtUVTzzu7tXVU9zuttaVULz",
    "vdtdVUXzwNtgVUjzx7tjVUvzxttmVV5zydtpVVHzzNtsVVTz+7tvVVg*G65z+ttyVVrz*dt*VW1+0Nu2VWD+17u5VWP+1tu8VWb+2duBVWn+3NuEVWz+47uHVX9+4tuKVXL+5duNVXX+6NuQVXj+77uTVXv+7tuWVY5+8duZVYH+9NucVYT+A7ufVYf+AtuiVYr+BdulVZ1+CNuoVZD+D7urVZP+DtuuVZa007uwVZn+FNu+VZz+G7v2VaD+H7v5VaP+I7v9Vaf+ItvCVar+JdvFVb1+KNvIVbD+L7vLVbP+LtvOVbb+MdvRVbn+NS10ONvUVbz+O7",
    "vXVc9+OtvaVcL+PdvdVcX+QNvgVcj+R7vjVcv+RtvmVd5+SdvpVdH+TNvsVdT+U7vvVdf+UtvyVdr+Vdv*Ve1+WNw3VeH+XNw6VeT+Y7w9Vef+YtwCVer+ZdwFVf1+aNwIVfD+b7wLVfP+btwOVfb+cdwSVfr+dW00Vgv+j7wxVhn+rdxaVkn++NyAVn1*7dytVpb*EtyyVpr*Fdy*Vq1*GNz3VqP*Htz8Vqb*IdzBVqn*JNzEVqz*KdzJmK1XVrP*MNzRVrn*NNzUVs1*OtzaVsL*PdzdVsj*R7zjVsz*S7zpVtL*TdztVtX*UdzxVtn*VNz*Vu1*",
    "Wd+3VuH*XN+6VuT*Y7+9Vuj*ZN+FVv1*aN+IVvD*bN+MVvT*c7+PVvj*d7+WVw9*et+bVwP*g7+fVwf*gt+iVwr*hd+n001*it+qVxL*jd+tVxf*kt++Vy1*md*3VyH*nd*7VyX*oN*BVyr*pt*GVz5*qd*JVzP*rt*PVzf*st*SVzr*td*YV+F2G65*v7*dV+X*wd*hV+n*xN*lV*9*z7*rV*P*zt*uV*b*+d*zV*v**u02W0U02809W0g03e0FW1604u0QW1k07O0UW1+08O0ZW2I0Au0iW2s0Be0lW320Ce0qW3c0Ee0yW3w0G811W4I0HO17W4",
    "Y0IO1EW4+0K81HW5E0LO1MW5S0081PW5k0N81TW5w0Nu1WW660Oe1ZW6I0PO1cW6U0Q81hW6o0RO1kW6+0S81oW7E0T81rW7Q0Tu1uW7c0Ue1xW7o0VSD0OO1+W860We25W8Y0Ye2DW8w0Zu2GW960ae2KW9M0bu2PW9w0eu2cWAU0g82iWB20iu2rWBQ0k82vWBk0nO37WCY0oO3AWCk0pu3GWD60qe3JWDI0rO3OWD+0u83YWEE0ve3kWFM0zu3vWFk0*e3*WG210O43WGI11O47WGY12m00WGo15O4NWHc16u4SWHs17u4WWI618e4ZWII19O4c",
    "WIU1A84fWIg1Au4jWIw1C84pWJI1DO4tWJc1Ee4xWJo1FO4*n41XWK21GO52WKE1H855WKU1IO5DWKw1Ju5IWLQ1Lu5OWLk1N85TWLw1Nu5XWMA1Ou5aWMQ1Q85gWMk1R85lWNA1Su5rWNQ1Tu5uWO61Wu64WOM1Xe67WOc1Yu6CWOs1Ze6GWPA1au6KWPM1be6NWPc1ce6UWP+1e86XWQA1f86b0021fu6fWQk1h86jWQw1hu6mWR61ie6qWRM1je6tWRY1kO6yWRs1le6*WSI1nO77WSY1oO7BWSs1pe7FWT21qO7IWTF5G661r87LWTQ1ru7OWT",
    "c1se7RWTo1tO7UWT+1u87XWUA1v87bWUQ1w87fWUk1xe7lWV21yO7oWVM1ze7tWVY1+O7wWVs1*u83WWU22889WWg22u8EWW+24O8JWXM25e8NWXY26O8QWXs2888aWYM29e8dWYc2Be8oWZg2F88zWZy00890Wa62Ge93WaM2He98Wag2J89DWaw2K89HWbA2Ku9KWbM2Le9NWbc2Mu9SWbs2Ne9WWc62Oe9ZWcI2PO9cWcU2QSP0OO9gWck2R89jWd62TO9sWdU2U89xWdo2W8A1WeE2XOA6WeU2YOACWf22auAKWfM2beAQWfk2deAWWgA2euAd",
    "WhA2jOAsWhg2kuAyWh+2m8B2WiE2nOB6Wic2q8BMWjc2seBTWkA2vuBeWkc2weBiWks2xeBmWlA2yuBrWlQ2+000Wlg2*8BzWlw2*uC0Wmg32uCDWn234eCJWnQ368CPWns37eCVWo238OCYWoE398CbWoQ3AOCgWow3C8CoWpU3EuCznq1XWpw3FuD1WqA3H8D5WqY3IeDBWqo3JODEWrE3LODMWrU3M8DPWrs3OeDmWt63SeDpWtI3TODsWtc3UeD+Wt+3W8E1WuA3WuE4WuU3Y8EAWuk3Z8EDWu+3a8EHWvI3bOEMWvU3cOEQWvs3duEXWwA3eu",
    "EaWwM3feEdWwo3hOEk0023huErWxk3leE*WyA3muF4WyQ3o8F9Wyk3pOFEWz23qOFIWzE3rOFNWzc3seFRWzw3ueFZW+I3veFdW+Y3wuFiW+t8G663xeFlW*E3z8FrW*Q3zuFwW*k3*8F+W*+408G2X0M41uG8X0c42eGGX1A44uGKX1M45eGNX1c46eGRX1w47uGWX2648eGZX2c4AeGhX2o4BOGkX2+4C8GoX3E4D8GrX3Q4DuGvX3g4EuG+X3+4G8H1X4A4GuH4X4M4HuH8X4a008HAX4k4J8HDX4w4JuHGX5A4KuHKX5M4LeHOX5s4NeHVX624",
    "OeHaX6M4PeHdX6Y4QeHkX6+4S8HoX7I4TuHvX7k4VCb0OOHzX7w4VuI0X864WuI4X8M4XeIAX8s4ZuIGX964aeIJX9I4bOIMX9Y4ceIRX9s4deIVXA24eeIZXAI4fOIcXAU4g8IfXAg4guIiXAs4heImXB64iuIrXBQ4juIxXBo4leJ0XCA4muJ5XCQ4nuJ8XCk4p8JEXC+4qeJKXDM4rm00XDY4sOJQXDk4t8JUXE64ueJaXEU4w8JfXEg4wuJjXEw4xuJnXFA4yuJqXFM4zeJtXFY4+OJwXFk4*OJ+XG250OK2oa1XXGE518K5XGQ51uK8XGc52e",
    "KBXGs53eKFXH254eKKXHM55eKOXHc56uKSXHs57eKWXIA58uKaXIM59eKdXIY5AOKgXIs5BeKlXJ25COKoXJE5D8KrXJQ5FeK*XK25GOL2XKI5HOL6XKU5IuLCXKs5JeLFXL25KOLIXLE5L8LL0025LuLOXLg5MuLSXLs5NuLWXM65OeLZXMM5PeLdXMc5QeLhXMo5ROLkXM+5S8LnXNE5TOLsXNU5U8LyXNs5VuM0XO7BG665WeM3XOQ5Y8M9XOg5YuMCXOs5ZeMGXP65aeMJXPI5bOMMXPU5c8MPXPg5dOMUXP+5e8MXXQA5euMbXQQ5fuMfXQk5",
    "h8MjXR65ieMpXRI5jOMsXRY5keMxXRo5lOM+XR+5m8N2XSE5n8N5XSQ5nuN8XSg5ouNCXSs5peNHXT8008NKXTQ5ruNOXTc5seNRXTs5teNVXU25uONYXUE5vONcXUU5w8NgXUk5x8NjXUw5xuNmXV65yeNpXVI5zONsXVU5+Cn0OONvXVg5*8NzXVw608O1XWA60uO4XWQ61uO8XWc62eOBXWo63OOEXW+648OIXXE658OLXXU668OPXXg66uOSXXs67eOVXY268OOYXYE698ObXYQ6A8OgXYk6B8OjXYw6BuOmXZ66CeOpXZI6DOOsXZU6EOOwXZ",
    "k6FOO+XZ+6G000Xa66GeP3XaI6HOP6XaU6I8P9Xag6IuPCXbA6KuPLXbQ6LuPOXbc6MuPSXbs6NuPWXc66OuPaXcM6PePdXcY6QOPgpK1XXcs6RuPmXdA6SuPqXdM6TePtXdY6WuQ4XeM6XeQ7XeY6YOQEXe+6a8QHXfA6b8QMXfU6c8QPXfg6cuQUXf+6e8QXXgA6fOQcXgk6hOQkXhA6iuQtXhY6kOQxXho6lOQ+Xh+6mOR2XiE6nOR8Xio6pORIXjE6rORMXjU6seRS0026tORWXk66ueRZXkM6veRdXkY6weRhXko6xuRrXlQ6zuRwXlk6*8Rz",
    "Xl+70OS4XmM71eSBXmo73eSFXn274OSKXnREG6676OSRXns77uSWXoI79eSdXoY7AeShXoo7BOSlXp27CeSpXpM7DeSuXpc7EeSyXps7G8T1XqA7GuT4XqM7HeTAXqk7JOTFXr27KOTIXrI7LOTMXrY7MeTRXro7NOTUXr+7OOTYXsQ7PuTeXsc7QeThXso7ROTlXt67SeTpXtK008TtXtY7UOTwXt+7W8U1XuI7XeU7Xuc7YeUCXuw7ZuUGXv67aeUKXvM7beUOXvc7ceURXvo7dOUUXw27eOUYXwE7fCz0OOUbXwQ7fuUfXwg7heUmXx67ieUqXx",
    "Q7juUuXxc7kuUyXxw7luV1XyA7muV4XyM7nuV8Xyc7p8VDXyw7puVGXzI7rOVMXzU7s8VPXzg7t8VTXzw7tuVXX+A7uuVaX+Q7vuVeX+c7wuViX+s7xuVmX*67yeVpX*I7zOVsX*U7+000X*g7+uVyX*s7*uW0Y0680eW4Y0M81eW7Y0Y82OWBY0o83OWEY0+848WHY1A858WNY1Y86OWQY1o87OWUY1+888WZq41XY2I89OWcY2U8A8WfY2g8AuWiY2s8BeWlY328COWpY3I8DOWsY3U8E8WwY3k8FOW+Y3+8GOX2Y4E8HeX7Y4Y8IOXAY4k8JeXF",
    "Y528KOXIY5E8LOXMY5Y8MeXRY5o8NOXUY5+8O8XcY6U8QeXjY6+8SOXpY7I8TOXsY7Y8UOXw0028UuXyY828WuY6Y8U8YOYAY8o8ZeYFY928aOYJY9I8bOYNY9Y8cOYQY9k8dOYUY9+8e8YXYAE8fOYcYAU8g8YfYAhHG668h8YkYA+8i8YoYBE8j8YrYBQ8k8YvYBg8kuYzYBw8luZ0YCE8n8Z7YCY8oeZBYCo8pOZFYD28qOZJYDQ8ruZQYDk8t8ZTYDw8u8ZXYEQ8vuZfYEg8wuZiYEs8xeZlYFA8zOZsYFU8+eZxYFs8*ua0YG690ua4YGM91e",
    "a7YGW008a9YGk938aDYGw93uaHYHI95OaMYHU968aSYHs97eaVYI298eaZYII99eadYIY9AOaiYIs9BealYJ69CeapYJM9Dz90OOauYJc9EeaxYJo9FOa+YJ+9G8b2YKE9HOb6YKU9I8b9YKg9IubCYKs9JebFYL29KObIYLE9L8bLYLQ9LubOYLc9MebRYLo9NObWYM69OebZYMI9PObdYMY9QObgYMk9R8bjYMw9RubmYN69SebpYNI9TObsYNU9U8bvYNg9V000YNs9Vec0YOA9X8c5YOU9Y8c9YOg9YucCYOs9ZecFYP29aOcIYPE9b8cLYPQ9",
    "bucOYPc9cecRYPo9dOcUYP+9e8cXqq1XYQA9eucaYQM9fecdYQY9gOcgYQk9h8cjYQw9hucmYR69iecpYRI9jOcsYRU9k8cvYRg9kucyYRs9lec*YS29mudDYTE9r8dLYTU9s8dPYTk9tOdVYU29uOdYYUI9vudeYUc9wediYUs9xedmYV69yedqYVM9zedtYVY9+Odw0029+udyYVs9*ed*YW6A0ee3YWIA1Oe6YWYA2OeAYWkA38eDYWwA3ueGYX6A4eeJYXIA5OeMYXUA68ePYXgA6ueSYXtKG66A7eeVYY2A8OeYYYEA98ebYYQA9ueeYYcAAe",
    "ehYYoABOekYY+AC8enYZAACueqYZMADeetYZYAEOewYZkAF8ezYZ+AG8f1YaAAGuf4YaMAHef7YacAIefBYaoAJOfEYa+AK8fHYbAAKufKYbMALefNYbYAMOfQYbkAN8fTYbu008fVYc2AOOfYYcEAP8fbYcQAPufeYccAQefhYcoAROfkYc+AS8fnYdAASufqYdMATeftYdYAUefxYdoAVOf+Yd+AWDL0OOg1YeAAWug4YeMAXeg7YeYAYugCYesAZegFYf2AaOgIYfIAbOgMYfUAc8gPYfgAcugSYfsAdegVYg2AeOgYYgEAf8gbYgQAfugeYgcA",
    "geghYgoAhOgkYg+Ai8gnYhAAiugqYhMAjegtYhYAkOgwYhkAl8gzYhwAluh0Yi6AmW00YiEAn8h5YiQAnuh8YicAoehBYioApOhEYi+Aq8hHYjAAquhKYjMArehNYjYAsOhQYjkAt8hTYjwAtuhWYk6AuehZra1XYkIAvOhcYkUAw8hfYkgAwuhiYksAxehlYl2AyOhoYlEAz8hrYlQAzuhuYlcA+ehxYloA*Oh+Yl+B08i1YmAB0ui4YmMB1ei8YmcB2eiBYmoB3OiEYm+B48iHYnAB4uiKYnMB5eiNYnYB6OiQYnkB78iTYnwB7uiWYo6B8eiZ00",
    "2B98ibYoUBA8ifYogBAuiiYosBBeilYp2BCOioYpEBD8irYpQBDuiuYpcBEeixYpoBFOi+Yp+BG8j1YqABGuj4YqNNG66BHej7YqYBIOjAYqkBJ8jDYqwBJujGYr6BKejJYrIBLOjMYrUBM8jPYrgBMujSYrsBNejVYs2BOOjYYsEBP8jbYsUBQ8jfYsgBQujjYswBRujmYt6BSejpYtIBTOjsYtUBU8jvYtgBUujyYtsBVej*Yu2BWOk2YuEBX8k5YuO008k7YuYBYOkAYukBZ8kDYuwBZukGYv6BaekJYvIBbOkMYvUBc8kPYvgBcukSYvsBdekV",
    "YwoBiOkxYyUBq8lgZ0cC7jX0OOmuZ3cCEemxZ3oCFOm+Z3+CG8n2Z4ECH8n5Z4YCIenBZ4sCJenFZ52CKOnIZ5ECL8nMZ5UCM8nPZ5kCN8nTZ5wCNunWZ6ECP8nbZ6QCPuneZ6cCR8njZ6wCRunmZ76CSenqZ7MCTentZ7kCV8nzZ7wCVuo0Z86CWuo4Z8QCXm00Z8YCYuoDZ8wCZuoGZ96CaeoJZ9MCbeoNZ9cCceoRZ9oCdOoUZ9+Ce8oXZAACeuoaZAMCfeodZAYCgOogZAkCh8ojsK1XZAwChuomZB6CieopZBICjOosZBUCk8ovZBgCkuoyZB",
    "sCleo*ZC2CmOp2ZCECn8p5ZCQCnup8ZCcCoepBZCoCpOpEZC+Cq8pHZDACqupKZDMCrepNZDYCsOpQZDkCt8pTZDwCtupWZE6CuepZZEICvOpcZEUCw8pfZEgCwupi002CxOpkZE+Cy8pnZFACyupqZFMCzeptZFYC+OpwZFkC*8pzZFwC*uq0ZG6D0eq3ZGID1Oq6ZGUD28q9ZGgD2uqCZGtQG66D3eqFZH2D4OqIZHED58qLZHQD5uqOZHcD6eqRZHoD88rHZLADLurVZMMDQ8rfZMgDR8rkZM+DSOroZNYDUOrwZNkDV8rzZNwDVus0ZOADWus6",
    "ZOUDY8s9ZOoDZOsEZO+Da8sIZPEDbOsMZPUDc8sPZPgDcusSZPsDdesWZQ4008sYZQIDfOscZQUDg8sfZQgDgusiZQsDheslZR2DiessZRUDkOsxZRsDm8t1ZSADnOt7ZSYDoOtAZSsDq8tIZTEDrDj0OOtLZTYDsOtSZU2DuOtYZUMDvetdZUcDxOtkZV2DyOtoZVIDzetyZVwD*uu0ZW6E0eu3ZWIE1eu7ZWYE2uuDZWwE48uHZXAE4uuLZXQE5uuOZXcE6euRZXoE88uXZYIE9OucZYUEA8uhZYsEC8uoZZEED8usZZUEE8uxZZoEFW00ZZ+EGu",
    "v5ZaQEJ8vDZawEJuvGZbEEL8vLZbQELuvOZbgEMuvSZbsENevVZc2EOOvYZcEEP8vbZcUEQ8vgZckERevnt41XZdEETOvtZdYEUOvwZdkEVOv+Ze2EWew3ZeIEXew8ZecEYewBZeoEZOwEZf6EaewJZfMEbewNZfYEcOwQZfkEdOwVZg2EeOwYZgEEf8wbZgQEfuweZgcEgewjZgwEi8wnZhEEj8wrZhQEjuwuZhcEkuwyZhsElew*Zi2EmOx2002Emux4ZiMEnex7ZiYEoOxAZikEp8xDZi+Eq8xHZjAEquxKZjMErexNZjYEsOxQZjkEt8xTZjwE",
    "tuxWZk6EuexZZkJTG66EvOxcZkUEw8xfZkgEwuxiZksExexlZl2EyOxoZlEEz8xrZlQEzuxuZlcE+exxZloE*Ox+Zl+F08y1ZmAF0uy4ZmMF1ey7ZmYF2OyAZmkF38yDZmwF3uyGZn6F4eyJZnIF5OyMZnUF68yPZngF6uySZnsF7eyVZo2F8OyYZoC008yaZoMF9eydZoYFAOygZokFB8yjZowFBuymZp6FCeypZpIFDOysZpUFE8yvZpgFEuyyZpsFFey*Zq2FGOz2ZqEFHDv0OOz5ZqQFHuz8ZqcFIezBZqoFJOzEZq+FK8zHZrAFKuzKZrMFLe",
    "zNZrYFMOzQZrkFN8zTZrwFNuzWZs6FOezZZsIFPOzgZu2FZ8+IZvsFe8+XZwAFf8+bZwQFfu+gZwoFhO+kZw+Fie+pZxIFjO+tZxYFke+xZxoFlu*0ZyEFnW00ZycFoe*BZyoFpO*FZzAFre*NZzgFu8*XZ+EFvu*iZ++FyO*oZ*IFzO*sZ*gF+u*yZ*wF*v07a0YG390Ea1EG5P0Otq1Xa1cG790Za2IG9P0da2YGAP0ga2kGB90ma36GCf0pa3IGDv0va3gGFP0*a42GGv15a4QGI919a4gGIv1Ca4wGL91La5QGMP1Qa5oGNP1Ua5+GO91Xa6IG",
    "Pf1da6cGQf1ha6oGRv1ma76GSf1pa7QGTv1ua7cGUf1xa7oGVf21002GX925a8QGXv29a8gGZ92Da8wGZv2Ga9AGb92Ma9YGcf2Sa9wGdv2WaAIGfP2daAYGgP2haAsGif2taBoGlP2*aC3WG66Gmf33aCQGo939aCkGp93DaDAGr93LaDQGs93PaDgGtf3VaE2Guv3aaEMGwP3gaEoGxf3maF6Gyf3paFMGzf3taFcG+f3xaFoG*v40aG6H0v45aGQH1v48aGcH2f4BaGoH3P4EaG+H494HaHAH4v4KaHMH5f4NaHYH6f4RaHm0094TaH+H894XaI",
    "IH9P4caIUHA94faIgHAv4iaIsHBf4maJAHCv4qaJMHDf4taJYHEf4xaJoHFP4+aJ+HG951aKAHHE50OP55aKUHI95HaLEHL95LaLQHM95PaLkHN95VaM2HPf5daMYHQv5jaNEHUf5xaNoHW961aOAHWv64aOQHY96AaOwHZv6JaPIHbP6MaPUHc96PaPoHdP6UaP+He96XaQIHfP6caQUHg96faQkHh96maR6Hif6paRQHjv6uaRcHkm00aRoHlP6+aR+Hm971aSAHmv74aSMHnf78aSkHq97IaTEHr97LaTQHrv7OaTcHsf7RaTsHtf7VaU2HuP7Y",
    "aUEHv97bua1XaUQHvv7eaUcHwf7haUoHxP7kaU+Hy97naVAHyv7qaVMHzf7taVYH+P7waVkH*97zaVwH*v80aW6I0f83aWII1P86aWUI2989aWgI2v8CaWsI3f8FaX2I4P8IaXEI598LaXQI5v8OaXcI6f8RaXoI7P8UaX+I898XaYAI8v8a002I9P8caYUIA98faYgIAv8iaYsIBf8laZ2ICP8oaZEID98raZQIDv8uaZcIEf8xaZoIFP8+aZ+IG991aaAIGv94aaNZG66IHf97aaYIIP9AaakIJ99DaawIJv9Gab6IKf9JabIILP9MabUIM99Pab",
    "gIMv9SabsINf9Vac2IOP9YacEIP99bacQIPv9eaccIQf9hacoIRP9kac+IS99nadAISv9radQITv9uadcIUf9xadoIVP9+ad+IW9A1aeAIWvA4aeK009A6aeUIY9A9aegIYvACaesIZvAGaf6IafAJafIIbPAMafUIc9APafgIcvASafsIdfAVag2IePAYagEIf9AbagQIf+H0OPAeagcIgfAhagoIhPAlah2IiPAoahEIj9ArahQIjvAuahcIkfAxahoIlPA+ah+Im9B1aiAImvB4aiMInfB7aicIofBBaioIpPBEai+Iq9BHajAIqvBKajMIrfBN",
    "ajYIsPBQajkIt9BTajwItvBWak6IufBZakIIvPBcakUIw000akcIwfBhakoIxPBkak+Iy9BnalAIyvBqalMIzfBtalYI+PBwalkI*9BzalwI*vC0am6J0fC3amIJ1PC6amUJ29C9vK1XamgJ2vCCamsJ3fCFan2J4PCIanEJ59CLanQJ5vCOancJ6fCRanoJ7PCUan+J89CXaoAJ8vCaaoMJ9fCdaoYJAPCgaokJB9CjaowJBvCmap6JCfCpapIJDPCsapUJE9CvapgJEvCyapsJFvD0aq6JGfD3aqIJHPD6aqUJI9D9002JIfDBaqoJJPDEaq+JK9",
    "DHarAJKvDKarMJLfDNarYJMPDQarkJN9DTarwJNvDWas6JOfDZasIJPPDcasUJQ9DfaslcG66JR9DjaswJRvDmat6JSfDpatIJTPDsatUJU9DvatgJUvDyatsJVfD*au2JWPE2auEJX9E5auQJXvE8aucJYfEBauoJZPEEav2JaPEIavEJb9ELavQJbvEOavcJcfERavoJdPEUav+Je9EXawAJevEaawMJffEdawYJgPEgawi009EiawsJhfElax2JiPEoaxEJj9EraxQJjvEuaxcJkfExaxoJlPE+ax+Jm9F1ayAJmvF4ayMJnfF7ayYJoPFBayoJ",
    "pUT0OPFEay+Jq9FHazAJqvFKazMJrvFOazcJsfFRazoJtPFUaz+Ju9FXa+AJuvFaa+MJvfFda+YJwPFga+kJx9Fja+wJxvFma*6JyfFpa*IJzPFsa*UJ+9Fva*gJ+vFya*sJ*fF*b02K0PG2b0EK19G5b0QK1vG8b0cK2fGBb0oK3G00b0wK3vGGb16K4fGJb1IK5PGMb1UK69GPb1gK6vGSb1sK7fGVb22K8PGYb2EK99Gbb2QK9vGeb2cKAfGhb2oKBPGkw41Xb2+KC9Gnb3AKCvGqb3MKDfGtb3YKEPGwb3kKF9Gzb3+KG9H1b4AKGvH4b4MKHf",
    "H7b4YKIPHAb4kKJ9HDb4wKJvHGb56KKfHJb5IKLPHMb5UKM9HPb5gKMvHSb5sKNfHVb62KOPHYb6EKP9Hbb6QKPvHeb6cKQfHib6sKRfHl002KS9Hnb7AKSvHqb7MKTfHtb7YKUPHwb7kKV9Hzb7wKVvI0b86KWfI3b8IKaPIMb9YKnvJFbDEKr9JQbEQK+vKSbI3fG66L9vKpbJsLGvL8bKkLLPLQbM2LRfLqbNMLTvLubNcLUfLxbNoLVPL+bO2LWPM2bOELX9M5bOQLXvM8bOcLYfMBbOoLZPMEbO+La9MHbPALavMKbPMLbfMNbPYLcPMQbPkL",
    "d9MTbPwLdvMWbQ6LefMZbQILfPMcbQULg9MfbQe009MhbQoLhPMkbQ+Li9MnbRALivMqbRMLjfMtbRYLkPMwbRkLl9MzbRwLlvN0bS6LmfN3bSILnPN6bSULo9N9bSgLo+f0OPNCbSsLpfNFbT2LqPNIbTELr9NLbTQLrvNObTcLsfNRbToLtPNUbT+Lu9NXbUALuvNabUMLvfNdbUoL*vO7bXEM69ORbXwM89OZbYIM9POcbYUMA9OfbYkMB9OjbY+MC9OtbZYMEPOwbZwMGPP3bagMJfPFbb6MKfPJbbQMLm00bbYMMPPQbboMNPPUbc2MOvPbbc",
    "QMQvPjbcwMRvPmbd6MSvPubdcMUfPxbdoMVPP+bd+MW9Q1beAMWvQ4beUMYPQAwq1XbeoMZfQHbfAMavQLbfQMcfQRbfsMdfQVbg2MePQYbgEMf9QbbgQMg9QfbggMgvQibgsMhfQlbh6MifQqbhMMjvQubhgMkvQ*biAMmvR8bigMovRGbj6MqvRKbjQMrvRObjcMsfRRbjoMtPRUbj+MuPRYbkEMv9RbbkQMvvRh002Mx9RjbkwMy9RnblAMz9RrblYM+fRxbloM*PR*bmAN0vS5bmgN2vSCbn2N4PSIbnIN5PSNbnYN6PSQbnkN7PSVbo3iG66N",
    "8PSYboEN99SbboQN9vSebocNAvSibowNBvSnbpEND9SrbpQNDvSwbpkNF9Szbp+NG9T1bqANGvT4bqMNHfT7bqYNIPTAbqkNJ9TDbqwNJvTGbr6NL9TLbrUNM9TQbroNNPTVbsENP9TcbsUNQ9TgbskNR9TjbswNRvTmbt4009TobtMNTvTubtcNUfTxbtsNVfT*bu2NWPU2buENX9U6buUNY9U9bugNZ9UEbu+Na9UJbvMNbfUNbvcNcfURbvoNdUr0OPUUbv+NePUYbwINfPUcbwUNg9UfbwgNh9Ukbx2NiPUpbxMNjfUtbxYNkPUwbxkNl9Uzbx",
    "wNlvV0by6NmfV3byINnPV6byUNo9V9bygNovVCbysNpfVFbz2NqPVIbzENr9VLbzQNrvVObzcNsfVRbzoNtPVUbz+Nu9VXb+ANum00b+INvPVeb+wNxvVmb*6NyfVqb*UN+9Vvb*gN+vVyb*sN*fV*c02O0PW2c0EO19W5c0QO1vW8c0cO2fWBc0oO3PWExa1Xc0+O49WHc1AO4vWKc1MO5fWNc1YO6PWQc1kO79WTc1wO7vWWc26O8fWZc2IO9PWcc2UOA9Wfc2gOAvWic2sOBfWlc32OCPWoc3EOD9Wrc3QODvWuc3cOEfWxc3oOFPW+c3+OG9X1",
    "c4AOGvX4c4MOHfX7c4YOIPXAc4kOJ9XD002OJfXFc52OKPXIc5EOL9XLc5QOLvXOc5cOMfXRc5oONPXUc5+OO9XXc6AOOvXac6MOPfXdc6YOQPXgc6kOR9Xjc6xlG66ORvXmc76OSfXpc7IOYvYEc9AObPYPcAEOg9YfcAgOgvYicAsOhfYlcB2OiPYocBEOj9YrcBQOjvYucBcOkfYxcBoOlPY+cB+Om9Z1cCAOmvZ4cCMOnfZ7cCYOoPZAcCkOp9ZDcC+Oq9ZKcDQOrvZRcDoOtPZWcE6OufZZcEG009ZbcEQOwPZgcEkOx9ZjcEwOxvZmcF6Oyf",
    "ZpcFIOzPZscFUO+9ZvcFgO+vZycFsO*fZ*cG2P0Pa2cGEP19a5cGQP1*10OPa8cGcP2faBcGoP3faFcH6P4faJcHIP5PaMcHUP69aPcHgP6vaScHsP7faVcI2P8PaYcIEP99abcIQP9vaecIcPAfahcIoPBPalcJ2PCPaocJEPD9arcJQPDvaucJcPEfaxcJoPFPa+cJ+PG9b1cKAPGvb4cKMPHfb7cKYPIG00cKgPIvbCcKsPJfbFcL2PKPbIcLEPLfbNcLYPMPbQcLkPN9bTcLwPNvbWcM6POfbacMQPSvbucNcPUvb+cOAPWvc9yK1XcOoPZfcQ",
    "cPkPd9cTcPwPdvcWcQ6PefcZcQIPffcdcQcPgfchcQoPhPckcQ+Pi9cncRAPivcqcRMPjfctcRYPkPcwcRkPl9czcRwPlvd0cS6Pmfd3cSIPnPd6cSUPo9d9cSgPovdCcSsPpfdFcT2PqPdIcTEPr9dLcTQPrvdO002PsPdQcTkPt9dTcTwPtvdWcU6PufdZcUIPvPdccUUPw9dfcUgPwvdicUsPxfdlcV2PyPdocVEPz9drcVQPzvducVdoG66P+fdxcVoP*Pd+cV+Q09e1cWAQ0ve4cWMQ1fe7cWYQ2PeAcWkQ39eDcWwQ3veGcX6Q4feJcXIQ5P",
    "eMcXUQ69ePcXgQ6veScXsQ7feVcY2Q8PeYcYEQ99ebcYQQ9veecYcQAfehcYoQBPekcY+QC9encZAQCveqcZMQDfetcZW009evcZgQEveycZsQFfe*ca2QGPf2caEQH9f5caQQHvf8cacQIffBcaoQJPfEca+QK9fHcbAQKvfKcbMQLffNcbYQMVD0OPfQcbkQN9fTcbwQNvfWcc6QOffZccIQPPfcccUQQ9ffccgQQvfoceEQYPgDcewQb9gLcfcQffgfcggQgvgicgsQhfglchAQivgqchMQkPgxchsQlfg*ciEQn9h6ciUQo9h9cigQpPhEci+Q",
    "q9hIcjIQrPhMcjUQsPhQcjkQt000cjsQtfhWckAQuvhackMQvvheckcQwfhickwQy9hnclAQyvhqclMQzfhtclYQ+fhyclsQ*fh*cm2R0Pi2cmIR1Pi6z41XcmUR2PiAcmkR39iDcmwR49iHcnAR59iLcnQR5viOcncR6fiRcnoR7PiUco2R8PiYcoIR9PiccoURA9ifcogRAviicosRBfimcp6RCviqcpMRDfitcpYREPiwcpsRFfi*cq2RHfjAcqkRJ9jEcr2RKfjJcrMRLfjNcrYRMPjQ002RMvjScrsRNfjVcs2ROPjYcsERP9jbcsQRPvjecs",
    "cRQfjhcsoRRPjkcs+RS9jnctARSvjqctMRTfjtctYRUPjwctlrG66RV9jzctwRVvk0cu6RWfk3cuIRXPk6cuURY9k9cugRYvkCcusRZfkFcv2RaPkIcvERb9kLcvQRbvkOcvcRcfkRcvoRdPkUcv+Re9kXcwARevkacwMRffkdcwYRgPkgcwkRh9kjcwwRhvkmcx6RifkpcxIRjPkscxURk9kvcxe009kxcxoRlPk+cx+Rm9l1cyARmvl4cyMRnfl7cyYRoPlAcykRp9lDcywRpvlGcz6RqflJczIRrPlMczURs9lPczgRs*P0OPlSczsRtflVc+2R",
    "uPlYc+ERv9lbc+QRvvlec+cRwflhc+oRxPlkc++Ry9lnc*ARyvlqc*MRzfltc*YR+Plwc*kR*9lzc*wR*vm0d06S0fm3d0IS1Pm6d0US29m9d0gS2vmCd0sS3fmFd12S4PmId1ES59mLd1QS5vmOd1cS6W00d1kS79mTd1wS7vmWd26S8fmZd2IS9Pmcd2USA9mfd2gSAvmid2sSBfmld32SCPmod3ESD9mrd3QSDvmud3cSEfmxzq1Xd3oSFPm+d3+SG9n1d4ASGvn4d4MSHfn7d4YSIPnAd4kSJ9nDd4wSJvnGd56SKfnJd5ISLPnMd5USM9nPd5",
    "gSMvnSd5sSNfnVd62SOPnYd6ESP9nbd6QSPvned6cSQfnhd6oSRPnkd6+SS9nnd7ASSvnqd7MSTfntd7YSUPnw002SUvnzd7wSW9o3d8ISYPoAd8oSZvoJd9QSbvoOd9cSdPogdAoShvovdBwSlvp0dC6Smfp8dCcSqPpIdDgSsvpWdE7uG66SuvpadEMSvfpddEYSwPpgdEkSx9pjdEwSxvpmdF6SyfppdFISzPpsdFUS+9pvdFgS+vpydFsS*fp*dG2T0Pq2dGET19q5dGQT1vq8dGcT2fqBdGoT3PqEdG+T49qHdHAT4vqKdHMT5fqNdHYT6PqQ",
    "dHkT79qTdHwT7vqWdI4009qYdIET99qbdIQT9vqedIcTAfqhdIoTBPqkdI+TC9qndJATCvqqdJMTDfqtdJYTEPqwdJkTF9qzdJwTFvr0dK6TGlb0OPr3dKITHPr6dKUTI9r9dKgTIvrCdKsTJfrFdL2TKPrIdLETL9rLdLQTLvrOdLcTMfrRdLoTNPrUdL+TO9rXdMATOvradMMTPfrddMYTQPrgdMkTR9rjdMwTRvrmdN6TSfrpdNITTPrsdNUTU9rvdNgTUvrydNsTVfr*dO2TWG00dOATWvs4dOMTXfs7dOYTYPsAdOkTZ9sDdOwTZvsGdP6Taf",
    "sJdPITbPsMdPUTc9sPdPgTcvsSdPsTdfsVdQ2TePsY+a1XdQETf9sbdQQTfvsedQcTgfshdQoThPskdQ+Ti9sndRATivsqdRMTjfstdRYTkPswdRkTl9szdRwTlvt0dS6Tmft3dSITnPt6dSUTo9t9dSgTovtCdSsTpftFdT2TqPtIdTETr9tLdTQTrvtOdTcTsftRdToTtPtUdT+Tu9tX002TuftZdUITvPtcdUUTw9tfdUgTwvtidUsTxftldV2TyPtodVETz9trdVQTzvtudVcT+ftxdVoT*Pt+dV+U09u1dWBxG66U0vu4dWMU1fu7dWYU2PuA",
    "dWkU39uDdWwU3vuGdX6U4fuJdXIU5PuMdXUU69uPdXgU6vuSdXsU7fuadYUUBfumdZIUEvuyda2UJPvGdbAUKvvKdbQUMPvTdb+UO9vXdcAUPPvkdc+USfvqddMUTfvtddYUUPvwddkUV9vzde0009w1deEUX9w5deQUYPwAdeoUZPwEde+Ua9wHdfIUbPwMdfUUc9wPdfgUcvwSdfwUe9wXdgAUevwadgMUfvwedgcUgln0OPwhdgoUhPwkdg+Ui9wndhAUivwrdhQUjvwvdhgUl9w*di2UmPx2diEUnPx6diUUo9xAdikUp9xGdjAUqvxLdjQUrv",
    "xPdjgUtfxXdkEUv9xcdkYUwvxidksUxfxmdl6UyfxpdlIUzPxsdlUU+9xwdlsU*vy0dm6V0fy3dmIV1G00dmQV1vy8dmcV2fyCdm+V4PyIdnIV5PyMdnYV6fyRdnoV7PyUdn+V8PyZdoIV9PycdoUVA9yfdogVAvyjdowVC9yn*K1XdpAVCvyqdpMVDfyudpgVF9y*dq2VGPz2dqEVHPz6dqUVI9z9dqgVIvzCdqsVJfzFdrAVKvzKdrMVLfzNdrYVMPzQdrkVN9zTdrwVNvzWds6VOfzZdsIVPPzcdsUVQ9zfdsgVQvzidssVRfzldt2VSPzodtEV",
    "T9zrdtQVTvzu002VUPzwdtkVV9zzdtwVWP+2dusVZf+Fdv2VaP+IdvEVb9+LdvQVbv+OdvoVdP+Udw6Vef+ZdwIVfVai+NdvbVdd+V7+G13w3FeD+Wxw3*eH+XFw5FeO+X*w8FeX+YFw9Fed+YZwAG"]

/-- The GB 18030 additions to GBK, by lead and trail byte. -/
def gb18030Data : String :=
  String.join [
    "eK1XvCRan+J8vCdaokJBvCpapUJEvC*aqEJHvDBaq+JKvDNarkJNvDZasUJQvDlatEJTvDxat+JWvE7aukJZvEJavUJcvEVawEJfvEhaw+JivEtaxkJlvF3ayUJovFFazEJrvFRaz+JuvFda+kJxvFpa*UJ+vF*b0EK1vGBb0+K4003b1UK6vGVb2EK9vGhb2+KCvGtb3kKFvH3b4UKIvHFb5EKLvHRb5+KOvHdb6kKRvHpb7UKUvH*b8EKXvIBb8+KavIMYG67b9kKdvIZbAUKgvIlbBEKjvIxbB+KmvJ7bCkKpvJJbDUKsvJVbEEKvvJhbE+KyvJ",
    "tbFkK*vK3bGUL2vKFbHEL5vKRbH+L8vKdbIkLBvKpbJULEvK*bKELHvLBbK+LKvLNbLkLNvLZbMULQvLlbNELTvLxbN+LWvM7bOkLZvMG00ELbvMRbP+LevMdbQkLhvMpbRULkvM*bSELnvNBbS+LqvNNbTkLtvNZbUULwvNlbVELzvNxbV+M0vO7bWkM3vOJbXQAh1kTcvsVdQETfvshdQwBZ0Y2ivssYxmBdRkTlelq2vt3dSQD0OUM6vOVbYEM9vOhbY+MCvOtbZkMFvP3baUMIvPFbbEMLvPRbb+MOvPdbckMRvPpbdUMUvP*beEMXvQBbe+Ma",
    "vQNbfkMdvQZbgUMgvQlbhEMjvQxbh+MmvR7bikMpvRJbjUMsvRVbkEMvvRhbk+MyvRtblkM*vS3bmUN2vSFbn000vSNbnkN7vSZboUNAvSlbpENDvSxbp+NGvT7bqkNJvTJbrUNMvTVbsENPvThbs+NSvTtbtkNVvU3buUNYvUFbvENbf41XvURbv+NevUdbwkNhvUpbxUNkvU*byENnvVBby+NqvVNbzkNtvVZb+UNwvVlb*ENzvVxb*+O0vW7c0kO3vWJc1UO6vWVc2EO9vWhc2+OCvWtc3kOFvX3c4UOIvXFc5EOLvXRc5+OOvXdc6kORvXpc7U",
    "OUvX*c8EOXvYBc8+Oa003c9UOcvYVcAEOfvYhcA+OivYtcBkOlvZ3cCUOovZFcDEOrvZRcD+OuvZdcEkOxvZpcFUO+vZ*cGEP1vaBcG+P4vaMaz0ldSkTpvtJdTUTsvtVdUETvvthdU+TyfK1XvaRcH+P8vadcIkPBvapcJUPEva*cKEPHvbBcK+PKvbNcLkPNvbZcMUPQvblcNEPTvbxcN+PWvc7cOkPZvcJcPUPcvcVcQEPfvchcQ+PivctcRkPlvd3cSUPovdFcTEPrvdRcT+PuvddcUkPxvdpcVUP+vd*cWEQ1veBcW+Q4003cXUQ6veVcYEQ9",
    "vehcY+QCvetcZkQFvf3caUQIvfFcbEQLvfRcb+QOvfdcckQRvfpcdUQUvf*ceEQXvgBce+QavgMbzmZdVUT+vt*dWEU1vuBdW+U4fa1XvgRcf+QevgdcgkQhvgpchUQkvg*ciEQnvhBci+QqvhNcjkQtvhZckUQwvhlclEQzvhxcl+R0vi7cmkR3viJcnUR6viVcoER9vihco+RCvitcpkRFvj3cqURIvjFcrERLvjRcr+ROvjdcskRRvjpctURUvj*cuERXvkBcu+Ra003cvURcvkVcwERfvkhcw+RivktcxkRlvl3cyURovlFczERrvlRcz+Ruvl",
    "dc+kRxvlpc*UR+vl*d0ES1vmBd0+S4vmMckGZdXUU6vuVdYEU9vuhdY+UCfja7vutdZkUFvv3daUUIvvEcx0BdbEULflCCvvO00000vvVdcEUPvvhdc+USvvtddkUVfq1XvmRd1+S8vmdd2kSBvmpd3USEvm*d4ESHvnBd4+SKvnNd5kSNvnZd6USQvnld7ESTvnxd7+SWvo7d8kSZvoJd9UScvoVdAESfvohdA+SivotdBkSlvp3dCUSovpFdDESrvpRdD+SuvpddEkSxvppdFUS+vp*dGET1vqBdG+T4003dHUT6vqVdIET9vqhdI+TCvqtdJkTF",
    "vr3dKUTIvrFdLETLvrRdL+TOvrddMkTRvrpdNUTUvr*dOETXvsBdO+TavsMdmW*deEUXvwBde+UavwNdfkUdvwZdgUUgvwldhEUjvwwdyWtdh+Umvx7dikUpvxJdjUUsvxVdkEUvvxhdkwYM2+UyvxtdlkU*vy3dmUV2vyFdnEV5vyQel0ddnm000001+G00vyddokVBvyoewXNdpUVEvy*dqEVHvzBdq+VKvzNdrkVNvzZdsUVQvzldtEVTvzxdt+VWv+6fM0ZduW00003dum00v+JdvUVcgOaRC3uly2*nB*8lyo*qB*KlzY*tB*Wl+I*wB*i00E",
    "Vqv*NdzkVtv*Zd+UVwv*ld*EVzv*xd*+W0gV0Fw07e0kW3w0Je1UW6w0Ve2EW9w0he2+WCw0te3kWFgg5Uu03W0U02u0FW1E05u0RW1+08u0dW2k0Bu0pW3U0Eu0*W4E0Hu1BW4+0Ku1NW5k0Nu1ZW6U0Qu1lW7E0Tu1xW7+0Wu27W8k0Zu2JW9U0cu2VWAE0fu2hWA+0iu2tWBk0lu33WCU0ou3FWDE0ru3RWD+0uu3dWEk0xu3pWFU0+u3*WGE11u4BWG+14u4NWHk17u4ZWIU1Au4lWJE1Du4xWJ+1Gu57WKk1Ju5JWLU1Mu5VWME1Pu5hWM+1S",
    "u5sheLxWNk1Vu63WOU1Yu6FWPE1bu6RWP+1eu6dWQk1hu6pWRU1ku6*WSE1nu7BWS+1qu7NWTk1tu7ZWUU1wu7lWVE1zu7xWV+20u87WWk23u8JWXU26u8VWYE29u8hWY+2Cu8tWZk2Fu93WaU2Iu9FWbE2Lu9RWb+2Ou9dWck2Ru9pWdU2Uu9*WeE2XuABWe+2auANWfk2duAZWgU2guAlWhE2juAxWh+2muB7Wik2puBJWjU2suBVWkE2vuBhWkwoXNk2yuBtWlk2*uC3WmU32uCFWnE35uCRWn+38uCdWok3BuCpWpU3EuC*WqE3HuDBWq+3KuD",
    "NWrk3NuDZWsU3QuDlWtE3TuDxWt+3WuE7Wuk3ZuEJWvU3cuEVWwE3fuEhWw+3iuEtWxk3luF3WyU3ouFFWzE3ruFRWz+3uuFdW+k3xuFpW*U3+uF*X0E41uGBX0+44uGNX1k47uGZX2U4AuGlX3E4DuGxX3+4GuH7X4k4JuHJX5U4MuHVX6E4PhQ5UuHhX6+4SuHtX7k4VuI3X8U4YuIFX9E4buIRX9+4euIdXAk4huIpXBU4kuI*XCE4nuJBXC+4quJNXDk4tuJZXEU4wuJlXFE4zuJxXF+50uK7XGk53uKJXHU56uKVXIE59uKhXI+5CuKtXJk5F",
    "uL3XKU5IuLFXLE5LuLRXL+5OuLdXMk5RuLpXNU5UuL*XOE5XuMBXO+5auMNXPk5duMZXQU5guMlXRE5juMxXR+5muN7XSk5puNJXTU5suNUkeLxXUE5vuNhXU+5yuNtXVk5*uO3XWU62uOFXXE65uORXX+68uOdXYk6BuOpXZU6EuO*XaE6HuPBXa+6KuPNXbk6NuPZXcU6QuPlXdE6TuPxXd+6WuQ7Xek6ZuQJXfU6cuQVXgE6fuQhXg+6iuQtXhk6luR3XiU6ouRFXjE6ruRRXj+6uuRdXkk6xuRpXlU6+uR*XmE71uSBXm+74uSNXnk77uSZXoU",
    "7AuSlXpE7DuSxXp+7GuT7Xqk7JuTJXrQ+XNk7MuTVXsE7PuThXs+7SuTtXtk7VuU3XuU7YuUFXvE7buURXv+7euUdXwk7huUpXxU7kuU*XyE7nuVBXy+7quVNXzk7tuVZX+U7wuVlX*E7zuVxX*+80uW7Y0k83uWJY1U86uWVY2E89uWhY2+8CuWtY3k8FuX3Y4U8IuXFY5E8LuXRY5+8OuXdY6k8RuXpY7U8UuX*Y8E8XuYBY8+8auYNY9k8duYZYAU8guYlYBE8juYxYB+8muZ7YCk8pr*e5w13e4UWIw1Fe5FYXNk8quZNYDk8tuZZYEU8wuZlY",
    "FE8zuZxYF+90ua7YGk93uaJYHU96uaVYIE99uahYI+9CuatYJk9Fub3YKU9IubFYLE9LubRYL+9OubdYMk9RubpYNU9Uub*YOE9XucBYO+9aucNYPk9ducZYQU9guclYRE9jucxYR+9mud7YSk9pudJYTU9sudVYUE9vudhYU+9yudtYVk9*ue3YWUA2ueFYXEA5ueRYX+A8uedYYkABuepYZUAEue*YaEAH+Q5UufBYa+AKufNYbkANufZYcUAQuflYdEATufxYd+AWug7YekAZugJYfUAcugVYgEAfughYg+AiugtYhkAluh3YiUAouhFYjEAruh",
    "RYj+AuuhdYkkAxuhpYlUA+uh*YmEB1uiBYm+B4uiNYnkB7uiZYoUBAuilYpEBDuixYp+BGuj7YqkBJujJYrUBMujVYsEBPujhYs+BSujtYtkBVuk3YuUBYukFYvEBbukRYv+BeukdYwkBhukpYxUBkuk*weLxYyEBnulBYy+BqulNYzkBtulZY+UBwullY*EBzulxY*+C0um7Z0kC3umJZ1UC6umVZ2EC9umhZ2+CCumtZ3kCFun3Z4UCIunFZ5ECLunRZ5+COundZ6kCRunpZ7UCUun*Z8ECXuoBZ8+CauoNZ9kCduoZZAUCguolZBECjuoxZB+Cm",
    "up7ZCkCpupJZDUCsupVZEECvuphZE+CyuptZFkC*uq3ZGUD2uqFZHED5uqRZH+D8uqdZIkDBuqpZJVkXNkDEuq*ZKEDHurBZK+DKurNZLkDNurZZMUDQurlZNEDTurxZN+DWus7ZOkDZusJZPUDcusVZQEDfushZQ+DiustZRkDlut3ZSUDoutFZTEDrutRZT+DuutdZUkDxutpZVUD+ut*ZWEE1uuBZW+E4uuNZXkE7uuZZYUEAuulZZEEDuuxZZ+EGuv7ZakEJuvJZbUEMuvVZcEEPuvhZc+ESuvtZdkEVuw3ZeUEYuwFZfEEbuwRZf+EeuwdZgk",
    "Eh*A5UuwpZhUEkuw*ZiEEnuxBZi+EquxNZjkEtuxZZkUEwuxlZlEEzuxxZl+F0uy7ZmkF3uyJZnUF6uyVZoEF9uyhZo+FCuytZpkFFuz3ZqUFIuzFZrEFLuzRZr+FOuzdZskFRuzpZtUFUuz*ZuEFXu+BZu+Fau+NZvkFdu+ZZwUFgu+lZxEFju+xZx+Fmu*7ZykFpu*JZzUFsu*VZ+EFvu*hZ++Fyu*tZ*kF*v03a0UG2v0Fa1EG5v0Ra1+G8v0dzeLxa2kGBv0pa3UGEv0*a4EGHv1Ba4+GKv1Na5kGNv1Za6UGQv1la7EGTv1xa7+GWv27a8kGZ",
    "v2Ja9UGcv2VaAEGfv2haA+Giv2taBkGlv33aCUGov3FaDEGrv3RaD+Guv3daEkGxv3paFUG+v3*aGEH1v4BaG+H4v4NaHkH7v4ZaIUHAv4laJEHDv4xaJ+HGv57aKkHJv5JaLUHMv5VaMEHPv5haM+HSv5taNkHVv63aOUHYv6FaPEHbv6RaP*vGhow1w1Re5+WOBeGqSpH7BeWkY+WUDPus6ZOEBemkbpbkEHZe9ZdFETywSpdGw2leB3jEF6uyu2wdw37eCYwgG5P1NowkGpSkiowsBhVeEqEnGwmkkqFTHDP6OKPCw4C004SZHob7V4UDBif9Hq",
    "bwINr9Wac3IOL9XacVIPj9jqcsw5JeLKoZJ9zCe4oXJ7TCeaqJJHHD5KqMJHTD64qPJQxePEHev6daQkHhv6paRUHkv6*aSEHnv7BaS+Hqv7NaTkHtv7ZaUUHwv7laVEHzv7xaV+I0v87aWkI3v8JaXUI6v8VaYEI9v8haY+ICv8taZkIFv93aaUIIv9FabEILv9Rab+IOv9dackIRv9padUIUv9*aeEIXvABae+IavANafkIdvAZagUIgvAlahEIjvAxah+ImvB7aikIpvBJajUIsvBVakEIvvBhak+IyvBtalkI*vC3amUJ2vCFanEJ5"]

/-- Big5, by lead and trail byte. -/
def big5Data : String :=
  String.join [
    "eK0*C03*3301C0B*3Y0Y*nl*6lyV*m7+C20c82N+KFza*b80j*vK*bN+LlvN*rmW4*un81J+CoLq*ZJ+J*y8*md+DVus*rl*NVut*ZWm530L*Zd+EZ0GC17+E*uyC0em2*uz*Zum2309*Z*+G30CC0t+GVv2C0um3*v3*aJ+MVvQeQ5U*bl+NFvT*buW620P81mW7J0TC1uWDI0o*mF*1lyA83i0fp039SibpoMp9R8bpYO69WKbnoN69Q4be2Mz9Rmoeo4583x*u*y*0it+IVvA*at+JlvB*ap+N*vW*c7*2*yD0DS0zm2n8Xh*7FyU*nqYPY9d8c",
    "0Y7Y9I8c7+OlvZ*cJ+PVvc8ZmYAI8g8gKY828V8hypqZFH8YiYBY8r8ZGcG2P29a4c2I6H8PCXa26I8POXbo6P8PWY9I8Z*m+YG3**FFyF*pp*102bC180eW2Z*mN*82438Gd+QVvg*ciprJESCvqpdZFECw4pZZEFCyG0i55PKLjHNb5TKM5HOrNdTEbypYM19O8bWoM49OKbXYM79OWbZoME9OqbZ2MB9OebYIKy9JGbB2Ka9Hmbb2K09G8bbIKC9H0b52KO9MsYeLubRYLm9MybK2LU9MebOINY9UCbvINa9N4bSYLp*n3*4VyI*nF*5FyL*nR*",
    "5*yO*naXO25X8M8XOo5a8MKXPY5d8MWXQJ0XC28m8p0aC2Km9Z0dC2WmALD1KqHJHVyX*oB*8*ya*oN*9lyd*oZ*AVyg*ol*BFyj*ox*B*ym*p7*Clyp*pJ*DVys*pV*EFyv*ph*GVz2*qF*HFz5*qR*H*z8*qd*IlzB*qp*JVzE*q**KFzH*rB*K*zK*rN*LgD0F*zN*rZ*MVzQ0v43aWEJ0vG3bGEM0vS3c0EP0ve3cmES0vq3dWEV0w03eGEZ0wG3fGEc0wS3g0Ef0x43iWEp0xG3jGEs0xS3k0Ev0xe3kmEy0xq3lWE*0y03mGF30yG3nGF60y",
    "S3o0F9CGKn1Z47CGWn2J4ACGin334DCGun3wEX7p4GCH4n4Z4JCHGn5J4MCHSn634PCHen6p4SCHqn7Z4VCI0n8J4YCICn934bCIOn9p4eCIa2sGB90ie2nmBBf40*JW1EMKu1JWDEGqvTJePEZ4wwKJzHPL5hKU1I0581KfjJ5LD1KrnJo4u9JWjE24uAJYjEE57XJaLEI4vVJbvEZawXKK1I0rBwKqDJoLFZLnzOwraLMITPSrjGMr5RKrluN0zS8bmuN75TtLtbNV5TybtpNVvUSbx+NmjV4s9DfA5UJX5E44uDJYrEC4uvJajSEKw8Jf5EbKwI",
    "JfHEeax1Ji1Emqx6JiTEpKxAJijEn553KK5HPr5jKMvHR56NKVPI1b87KWXI+rB+KlzJ5bCvKqXJHrD5KrvJX5FBKyfJpLZiMIbPAragMIrRL5mHN2HSEbnlNVHUUrx*NnHV5L*3OWXYDc9BOavbBsM7PPTbf6MvPULcy6S8PoXh86jYQtbhoslKQzji3smqS6joAd8sSZjoHt9PSbjoh7EBJXcbG3zE5auLJXHE64uxJarEJqvEJkLEs4xKJjLEraxNJkDEv4xPJjvHHL54KObHYb6iKVbH+b7uKWfIe5AVKmLJ1bCNKnrEtrDAKqbJOLDWKszJRb",
    "ExK+zJv5FpK+nJxbFfK+XJ*5FuK*LJwrFcK+fJybFnK*1JvLFjK*jMsrRQMHQbeLvPBbanMNHPTbjLMuDSF5teNUTTvbu2NWDUSrvyNm5V65yNNyLY2c9JObHYKc9HPQLbvcSkPondAcShPorhOslDR15i46muR45iG6m+SgzpX7E9TDnqvdKOTHzrA7KfTJ1rCNKoTJDrYtPzTgvsltRkTzjtudVpUJfvldfqUijE7auVJb9EKqvfJfbEf4wcJgLE*qy9JnbF2ayLJmrF44yHJmzEyaxsJljEy4xpJlrF0KyBKKbHHr56KKXHQAP0Fr5nKOrHi58N",
    "KX5I4b8EKXPIerC8Ko5J85DmKt5K2LGFL0nK2bGGL05K2rG4L15K3LG8L0DK3bG6L19Mu5RULjrNCrSmLoXNBLSiLozNALaPMHfPDrauMOHPU5c3MNrPULc2MO5RLrjOMuTRY5k5MubR+bmMN7bTtbu6NdPUTAQXNbyFNnjVsL*MOWvY368DOX1YOs9RObXbDcNfPUXbx6NjPl9cysS9PprdD6SnPpLh8MjaQtji5cnTR5TiMMnVR61iK6nLR65iMsnDR4vmS79VSbrsVdhvV7Dy+7ysVuf*lO01W0E0380IW3E0Vu29W8k0Z87ZWUg1yu7yWWo26u",
    "8VWcw2Se9+Xck8G8XCY6E9VvOXJZ9Eg4zDJqzFHqzNJrvFD4zRJrLFC4zGJr5FFKywJpXFGqzKJpnFHazZfq0*JrnFO4ylJqvFDazPJrrFI4zQKKnHIr5DKNLHjb6tKYLI958fKYfIA5AhKgbIgbAiKoDJSrDrL1rKBLGUL3vK9bHEL2TKHbH3L3DKI5H2L1jKALHAL3bKErGuL2vKDLGsL21KF5H0L35KArGVL2nMwbRmLkHMwrTALr5NG5TDfw5ULqTNJbS+Lr1NJrSxMEzPFbcTMP9Pg5cUMQDPcLcMMOrPf5cJMOfPfLjTMrnRMbjRMunRYrkF",
    "N2nSG5n1N3zSFboGN95Sb5oCNUjU35wFNeTUYbxtNmHV7rzaNs9VTrzvNzXVp5*NNyrVyL*hN*XVwc8IOX5YX6ANOfPYW69sOebYRMAAOdnYVc9vOdDYac9lOfXYRcALOfDYaMA6PJbbEsKuPV5cz6TVPqvdJsTGPr5dN6TMPrvdIMT6Ps2eG3zdKsTNQsLhpsn2R5vicMo1R8XiYMo5R9jiQcnwR91iS6oCR6XibcoIR7riWsnoR7viT6o6R7PiZMoKR9XiWd1sS7nmVN1uSc9oON9WSiHomdEMTInrAtKtTJXsWdRlT+DvmNd0URzwTdpxVrM0be",
    "2JW9s0c82RW9g0ie9lWfAeeLw2YuADYOk9qee0Z3UCHenLZ9sDP8rmZREEguxAZvkFi8*2ZyQFnO*4NU6GaP2YaAgGff2ZaKcHnf7CbZAMBfOnbYgMB4ucJbPESqwBJfjEdawhJgnFRq+TJurFSqz*JsnFcq+BJuPFWqzmJtLFY4zfJtjFbaz+JuzFaKzwKLHHKb5LKMbHTr5sKNXHlL7zKZjIE58tKZfIC58kKZPIGLA+KhjJKbDKKrDJKLDcKtTJU5DvKzPJr5FNL7DKTQb0FrIML7XKbLI0L7jKTrI4L99KXbHyL91KSLHsL8nKcbHYL6XKYrHz",
    "L8vM+bU3LtTNQbTfLs5NPbTaLtnP75b9MKTPI5b4MLHPlbcxMTHPkLckMT5PnbdGMSrPordJMSfPhrcpMT9PnLjVMsHROrkNMvfRc5kSMvbRcrmQN4XSHQcXNbn6NBTSeLouNAbSgronNBDU65uQNXPU5LuRNX5UU5wQNfTUd5wLNfPUzbycNoTVAL+0Nu5VVrzyNzrVu5*zN*LV*s0FO1HWBs0rO1PWAc0LO25W9s0fO2jW6s8MOXLYFs8+Oa1YVsB9OinYn6A*Oi9YkMBIOjjYgsBJOjHYosB8OgXYlMAyOj1YsMB7OirYjMBQOh5Ys6BMOjTYnc",
    "AiOivbFcMdPRnb+cOKPXDc36O6PW9c3cO0PWzc5MOAga0*PWTd3MSBPsrdYsULPt5dd6TpPtTdXsUTPvTdRsTmPtzdYMT+Pv1dTMUQPvDdV6TgPt9h8sjcQsThVsmJR1jiuspeRFDiiMpCRELiisozRBvil6pYRAjirMpJRBXin6ovRC5ihcpNRCLiyMo*RBjiuMpRRCfih6plRDnircpWgg5US9LmZd2IS8fmcN8iSYroE798ScToQNB0SivosNBNSj1pgNEeSvzpgtEbTJrrdNMPTPfsX7R2Tl9sz7VbT*rvFdb0UK5voNd8UdfwUNhwVFv*L7+C",
    "Vuk01O2wWAM0ee2nWA60gu2fWBI0ge2lWUM1*e8DWhE2dOAPWgs2lOAVWhc2iOAiWgM2huAuWgE2i8A+WhU6JePnKXs8Q8xBZywFr8*HaBMGk92naBQHnv7HbNULW9OSba2MFvOxbaIhG3+MGfQvbkYNKfTUJfzEhKwkJ+5FjK+lJxzFu4*HJyzFtK*3JxPFs4*VJyfFrq+kJz1Fn4*2JzfFpa*UJxTHLr6IKP5He59EKaDIIb9DKanIIr97KiTIoLB3Ki5J3LDNKtjJcbFRLAnKm5IeLCvKoLIuLAPKirJ7LC9KlLIgLC6heLvKn5J8LAzKgrInLB",
    "jKgLIdLBzM*rU2LujNe5UZLw9NpbUkLvDPLLbHMKzPJbbGMTnPs5d*MUDPw5e3MULPwbdQMUPQ0LdxMsbRerkcMwHRebkbN05SJbnFN4rSIrpPND9TzruTNYLU7rvzNg1UfbxwNmXVBLzbNuXVXL+ANujVXr+CNubW4c0TO21W9M0EO2XWJM1mO6XWOc16O4DWR61hO6fWP691OjnZ5cC9OlnYxMC1OkvY*MC7Ol5Yzwn0FsBlOknY*cBqOn5Z0cK*PKLbgsMzPU9c9MOjPY1c9sOlPXzcA6OnPYHczsV*PzDdyMVKPz1dx6UsPwzdzMVfP+zdn6VH",
    "PxHdscVbPxXdpsVUP*Ddi6VPP+9dtMVIQsfhWsk6QxLhqclNR1zioMqBRJ9jAcr1RILj36qnRHvj5woXNcqxRJrjFcqsRHjizMqvRITjE6qfRIvjDMqERIjmgt2wSBDmh72lSArmk72kSAHoC79oSczoT7BfSk1ouNEtSyfpktEoSyrpm7EpTHfrBNLFTKnrJdLBTQjrf7MbTQ9retPuTePsXtQ8TiXsndR3TiLt0NRvTlXt2NSBTlvs*7S7Tznu0dWKU0nu3Nb6UKbvI7b7URbvkddHUT9votf*Ue5w*thzV7rz0dq5VG1z2Nq7VGHz1dyuVuv*lu",
    "04hK0*W1203O0HW3Q0re3bWDg0mu34WCo0uO3RWCw0te3aWDs1z88YWkU30uC5WkE2suBcWmI2vOC2Wmc2qeBNWl630OBSWjI2qOBUWjE2tuBlWmQ6K8PvXdk6UeXDY6k9WOdKYWYA0ee3Z9wCe8rqZNEDj8xDZioFy8*cZ+AFwe*bhQ5UZ+sFwu*aZ+YGof3EaC6Gmv5BaKgHpPM2bb2MIvPCbasNOfTfbykNxPVpc06Og9ZRcD+PbfcPJbXEir0CK0rG8q*lK2PG9K*uK2bG5b06K3nG7r0QK19G4K*wK01G550eJ*5G8L0BK1bG64*pJ+vGBL0g",
    "J*vGAr09KNnHf56bKQ9HpL7CKSPHor9MKbnIL59RKbrJAbD*KvzJdLFVLEXL45K1LJTK*5JbLF9L1bJwLHHKwLJjLE5L2LJkLEgkG3zKvbKdLGTK*LKFLmDN15V2LzHNorV3M0bP3rbNMLXPMbeHMXXQ75eVMXjQ4rdiMY1Q8refMYLQ35e9MsjSM5kmMxDRjbkqMwvRjLkvMxXS15nHN5LSK5pjNFrS+rpgNEXSy5psNG5Sz5tkNYrUArwhNgrUfrynNv9VaL+GO5ckeLvWOs1bO51WLM1jO6bWRs24O9zWcc2DO9HWZ625O9PYHsBpOmXY*sDEOp",
    "vZBsDLOq9ZHcDFOqbZEcDGOprZAcChOoXZJMDCPKXbIMMPPS5bnMP2PabcJsP3Pb9cJ6P5Pa5c+6SKPnLd5sWXQ3XeI6X6Q5DeEMX2Q5HeAMYpQ1TeJ6XHQ3rdz6XGQ41eF6X3Q2feHMWJQ1XeGMkAQubhjsmZR2TiA6mcR2Hiy6rgRPLjY6s7RMPjU6rtRLbjawz0FsriRObjRcrQRNHjQMsCROfjUMs5RMLjb73ASDXmv73PSCXmpt8vSdbo*7BvSlro+7BtSuPpxNG9S+vpu7FgSzvrL7LTTLnrMdLPTRvrnNN7TR9ritMzTRnrkNN2TRXsYtQm",
    "TifspNRETobt7tSWToXtwNWmU2TuE7WTU3HuDw+XNdWbU2ru87WVU39vLNbGUM1vNtbMULvvNNbNULfvv7dZUUTvttdcUUbvs7g4UeXwsNi6Un5yYNqXVHTz2tqAVI1z8dqKVH1z5NqQVHnz3NqPVHj*EdzVVvH*nN*1W0Q0680LW1c05u0zW3+0yO42WF211O3jWFI11e3uWFE1283zWGg0*83lWUs1x880WX22Ae8hWYY2B8AxWok3KeDKWqg3E8DGWqc3DOCqWq+3CeCvWpQ35uD0Wp63A8D3i40*XbI6YeQgXfE6f8QfXeo6euQSY728TuY1Y8",
    "A8VOXvYXYA48eEYWoA5OeAYXUA4ueMYW+A4On8Z7gCUOoXZAADTuwiZjAEr8xFZx6G0P06Z*UG08*wZ*IG0u*za0MF+92LaE6GtP3YaLAHJP5CaTYHtP7NaToHsPM3bcAMOvPXiA5UbbkMNPPabbYMNfQxcEAPh9gecjYR9PiocpnEVb1wK7rGN517K4DGJ51QK4bGPL1sK4vGLL1rK7HGTr1FK0zGRr1jKLnHbL7mKcfIRrBIKjbIs5BLKn1J3rCPKpzJG5C+KyDc*5L6LMfLPbL4LLvLOLL3LKfLCLLMLKzLLLKlLMHLE5KkLLnLB5LZLJDLGLLN",
    "LmXN2rS9LzzO1LWAM0PNu5VaL*fO0bWrL*TN+LaWMM9QDbf1MabQPbfgMa2nG3zQF5fYMbfQHbfAMt1Rnrl5MyHRmbk*MyPS2Lm8N0TSO5nSN5rT1rq6NGvT6rqMNI9T4LqfNHHT6LqaNITT5rtYNZXUDbupNZTUjrwuNhPUjLw+NpLVDrzNNsnVQLzhNvTVcL+UNvXVeL+WNvnWVs2ZO8bWe62eOCjWj63cOBsneLvWnM2xOBLWt62yODXWrM36ODzWk63QOCTY6c8ROaXZe6EdOt9ZbcEYOwLZTsDdOvXZgcDnOwbZYME3OvjZQsEeOuHZY6EPOw",
    "5Zh6EIOuzZW6DxOsbZQ6DwPLrbLcLHPLbbLrLVPKzbM6LLPLHbd6MRPQnbpsNBPSnbpcPTPbfcP6PePcPcNcRvKjTd6sY1QAzeecYJQBLeVsXsQB5efsYNQB1eWsZ4QAreXcY5Q9HedMYeQ9zeeMY2Qp9hkh90FslhQ+niAssERRnjystPRR9juMtCRUHj+stwRWLjnstBRQzjqMskRTvj+MsuRVTjzMt5RT9k6csrRTfjwstORUfjyMtkRUXjnct4RQfjx6s*RUPm+N49SGfm*N3lSZroVNA1Snnp6tCMSnDp6NE7T0Lq2dG3T0Pp*dGDTE1qzhAX",
    "NdJtTHnr8dLbTMPrOdLmTOzrr7NLTRLrodNDTevsr7RITjjtDtS+TpntDdSuTpfuQtX3U4vvPNbeUMrv+tgIUfLx87ieUnjxB7icUnbx7dikV99ybtoLVKPzGtrnVIvzENqyVK1zC7qpVKHzBtr2VJ9zCNyzVvv*cd*CVyv*qe0SW4g0He4lWHQ18u4hWIc1C84aWWA2DO8tWZQ2EOEEWvw3c8DuWwA3beEzWwk3aeEAWvE3YOEWWtU3UuDyiq0*WuQ3fuPLNsg6nuR0XhQ6n8QrXiQ6ouQnXg+6oOXJY9w8Y8YhY9A8beYDY8k9aucFYYgA7OeZYY",
    "MACOejYX+A6ueYZ4cCMeofZAoCguoeZAgCfurdZMQDleswZjkEtv0Pa0sG6f0Na2EG7v0Ta12G5P0Ua22G3v0Ya1QG6v0Kiw5UaEYGxP3zaLUHpf7raUQHuv7daUsHwPM9bcgMTPPpbdYMS9PqbdQMTvPibi2MwfRfUk1wtvW2c0ERMfpbddMUVvwbdhjGeb2DK8LGcL2HK81Gbb2OK9fd057nKd9IT59rKcbItbBTKjjJMbEbLNjLW5MdLNnLYbMTLPXLWbMSLQfLb5M7LOjLWrMpLQvLdrK+LR9LcbMxLQnLiLL+LObLgrMPLmrOBrWgM3HO95Wm",
    "M35O8LWTM21O+LZwMM2qG3zQTrgQMdzQabgRMgTRSrjnMz9Rp5lJMz1S2bmBN35TJ5rGNJHTHrtzNaLUFLv0NaDUVbxANi5Umbx4NpnVRL+fNwfVg63HOE5Wic2sOE1X764ZOFfX5M3mOFjWz65eOF5X3c3sOGbX064IOXzYIMEZOunZpsF0O+bZoMF6OysqeLvZqcFZOz1ZuMFMO+rZxcDsO*HZwcFRP59ZscFvPLvbPcLYPMDbaMMGPQzcRcPmPdHcTcPlPf5cUcP+PdTc*cR*Pnzd7MZwQDLeu6ZOQDTf1MZVQFLexcZdQFbeqcZoQEDeosZDQG",
    "rf4caEQCbescbkQFjhFciwQprhc6kMQxnhxsmkR2ziB6ulRZXkL6uXRZ9kPsvARY1k9MuZRXjkMsvORYHkLcvkRYrk9cvlRZHkJMuwRYnkGsuTRZvkoxL0Fsw9RXbkJcvZRaHkScvfRbzn6N4QSIPnC74XSJPnRd4SSanoX7A0SpPp9NCqSobqEdGgT3Dq8dGbT3LqDdGqT2zq6tGcT2Xr9NKcTMjrQdNYTTjrutNPTTXrtdNWTdjsV7QMTfDsj7RSTqztxNXTU6nuRteDUWXw2te5UW1wcBMXNdgNUfPwvNhZUqbxLdj6Ur1xKdjKUqrxItjFUr5y",
    "dtobVLvzK7reVLLzAtrkVN9zONrcVM9zS7rpLOH*r7*LW0k0Ke25WLM1L85BWL61Je4vWKQ1Fe5CWLE1T88IWXo3wOG3W*Y43OFWWyM42uF1W++3yOFqX5U42eFmX0o3p8FzW*A3oeGuX0w418FSX0U3r8FVXbk6tuRPXks6r8RRXkI6q8RUY5U8mOZ2YB69WucMYZkAO8fLYbwAF8f1ja0*YbIAMufGYaQAD8ewYZQALenXZ8AChuoyZBEClOp1ZBkCm8oqZBUCjeo*ZBYDYes5ZO6DpetTZSkDsetHZSoDsut6ZlkE+8xyZvoGBf0ra36GE90oa3",
    "QH0f3raGcG*f5ZaMMHpv8KaXMI8v89aXwI3P8GaWUI4PMKbO+LYvMHjg5UbPELafMEbegMZfQBbdsMXPQ6besMSfQ4bi6MnPR4biQMnvRlblANp9W5c0QO29ZdcEgOxvZfcFAOxPckcQsUmvxDdj5EWb2jKBLGib2pKCLGlb2iKBTGkr2lKCTIVr9tKdrItrBcKkHIubBZKozLtrNeLTDLvbNELTnLnrNHLUDLv5NlLTfLuLN5LSPLvLN9Ln9N4rXUM55OM5XNM5fOL5XhM4nORLXAM69OKbXBMMTQmLh9MinQlbgzMhotG3zQirh2Mh9TQLrlNanU",
    "ULx9NiXV4bzPNwnVhc4QOGzXI64VOFDX6s3vOG5X265EOKnXH65DOJvXD64dOGrX1c4tOY5Y8cGJP3va7cGgP2raFMGiP0za76GKP0raDcGMP1Ta1cLiPPzbi6QNPebcXsQ8PfPcX6QOPerd0scKQMsteLvfMcbtQM1fL6brQJ1fWcbAQMXfQsbUQLDfUMc6QLrfOsbRQqThScl0QxzhqslzRg9khsxJRhPkmcwGRfrknsx5RgLkc6wyRhfkgsxHRfPkd6x4RjHkgcwdRhHnJd5PSMbnP759SMTnN75iSMPnJ75bSLvnHd5eSLPoEd9ISpTpHNC*Sp",
    "vqRtHQT5LqNtHUT45qFtHPT5jqN7LsTNXs07NmTW5rydNnTVfr*tNqTVDstdRVTrjtQtTcTrvtOxX0FtTvTsftR7TSTsLtQ7TYT+vuZdYmU9Tuc7YCU8buV7YHU9DuVtbwUNzvWOGiURrw77eQUY1w57eVUXvwdtgWUtTxm7jWUsvxPtonVBDyjNsJVNbzaNs1VOzzMtzkVsb*QdzoVwb*g7+aW5Q0M826W8I1SO5mWNY1PO5kWNE1QxYXNe5vWNg1Pe85WaU4WeHtX3s4COHrX6Q4QuH9X6o4MuGyX3M4OOHZX6c4ROH6Xbw6N8PVXlc74uS8XmU7",
    "08R+Xlk70eS3XmQ72eXPYD+8r8ZPYDo8s8ZTYE68oeZLYDA9d8dZYckASefpYcQAQOfmYeUAV8fZYg2ASOg5YcsAOefkYcoAUOfxYZwAQ8nYZ8gCYOpAZCUCo8p4ZBACmup2ZCMDuOtVZUYDxutpZVgDwetaZUQEiey3ZmcE*eyAkK0*Zv+Fif1Ba4gGKv12a5IGF91La52GHv1Fa4wGJP1Ha3wGGP4IaHUHR95gaMcHoP8tabUIE98zaa2IFf9RaakIP99HaZIIIP9DaaMIEP8*abgLc9QObfIMbPRDbikMoPRAblUM+vRvblQNLfTqbtQO49WHc1",
    "EO2fWIc0oO*9ZqkQ5UcFsO*fcpcR6Pj9hXdEcUWfyEdnEV853dKEvGvL3MKErGsb3LKCzGqL3nKCvGwL5YKVDIWrA2Kp5JhLN+LW1M6rONLVrM55O6LWbM3LOELVTM5bOVLWXM45NsLnXN5bXrM7vOWrYJM8fOULY5M7rO*LabMI9P95bgMMbQuLhcMkbQrrhMMjXQurjrMzvRvrlXM+LRvbleM+9Rv5lVN0rSObs4NOTUMrvZNbLULrvKNjDUrbyANqPVS5+vOKUwG3zXFs5BONTXOc5ZOLzXMc5OONLYAcI7P5XaL6IaP7XaNsHwP55aPsGqP6ra",
    "UsLoPQ5brsNMPg9cg6QTQPnfg6cLQS5fhcdJQSjfcsctQRjfgscqQT1fpMcjQSnffcd3QQDhIMjCR3DlCsyKRlvl4sxqRoblFcyWRonl3sy2RoAweLvk*sxlRmPlCMyuRp9l8syLRojlBs+8Rofkx6y1Rl9kp6xtSPHncN5zSOfnX76ISZvoadAMSqHpK7HaT6DqQdHmT6rr17MHTYTs3NOBTWbs4tRXTkDtX7TzTtztONZ1U9zuftYpUAbuetcEUOzvZNekUZ5wgdgfUkrwxtkXUvLxYtjrUvTxdNkKUuzxk7k7UuHykNozVBvzktsmVPnzlNs+VQ",
    "1zodsqVR9ziNswVQ9zltsrVRXzhNtIVSTzhBj0FtzmV+1*uN*VW5w0Me27WL21W86FWOY1Ye5*WOA1vu7wWWU2588UWak4oOI*XCQ4n8IPX9w4ieISXCk4k8J0XDE4a8IyXD64oeS*Xno7EuSYXoM7D8SOXrM7DuSfYFE90eZqYFc8+8ZzYEY96eZlYgQAZ8gUYgEAZOgXYfEAfBkXNeggYgMAg8gOYf6AcegdZ6gCZOoCZDECqOpIZMkDcOsLZVoF58yIZnMF4u+Za62GM91Sa6EGMP1Ua6AGNP1RaHcH694UaNMHU95taNIIU9A0aeMIc9AMadkI",
    "avASagYIV9AHbQ6Lg9MfbQELfPMabfcMd9QRbioMqfS0btoNXPVsc1UO69YlcB6P0va5cGoP2Pd1cg+Qi9hccq6RGfpqdFQSyvwydpkVIb44KG1G+r3rKFbH0b48KGbH1L7Sl40*KeTIY5A9KerIYbBmKx9MBbOxLZbMCbO*LZHMALPJLavMLrPqLZPMBrOmM81OdrYUMBDOd5YkMAbOfbbjMmbQ+riBMlLR35i8M+vRx5lfM+jSP5nbNPrTb5vYNbzUOLxYNjfUtrxTNkDUu5z8Nt5Vjr+rONPXPs5kOLrXLM62lA5UONnXS65hONvXfs6GOQjXZc",
    "6iOPfXf66KOQvYBcHfP6zaUMIUPB9aY6IGPB1afMIJP9LagMIIPAvahMIhP9fah6IPPA9aisLrPNTbU6QkPgjcj6QnQYDg7sdeQW5g7cePQVrg8MeJQWffyse2QWLfxMeHQr1hJckaQyLhncy*RtnlX6zHRsPlL6+6RsrlMszuRsvlZczwRt1lP6+NRrXkrMzlRs1lNt6VSQnniN6eSbPoctDESrTqQNIBT8EzG3zqVdI0TNzs87OfTXzs97OcTY5s8dQQThfsv7UETuTtZ7UHTujuotZ5UBfuodY+UDLul7ZGUZzwF7f0UZrwDtexUgzwhdkjUx5x",
    "n7kqUyPxntl1Uw1xp7pAVU1zz7tlVVjzs7tiVTrzw7tZVTfztdtfVPvzsNtoVVb*TNztVw+zeLv*wO0cWPk1d86TWQ21ce6OXHU5FOKQXEw5B8KjXHE54OKZXI6558JiXIM4*uK6XuA7T8TsXs27PeTuXsY7MOTNXqo7KuXRY5s948a7YHA94uaLYGgAl8hIYiUAn8gLYikA+8goYicAmeg*Yh2ArehDYhQAkOhRZ4oCJeniZE2CtepcZEICx8pjZEACuupSZEgCuOrjZP+DeuuhZX2E7OuYZW+EAOuVZY6E7ewwZnsF6uyVZocF9eygZnoF7hv0Fu",
    "yba6cGRf1ea6sGTv4maIsH9v4naOUHYP6BaOEInPAxahUIwfAiakIImPApahoIqfB7al2IifMjbR6N19S6bmUN2PTWbusNYvUFc26OAvWScBEP2faJcHAP69dTcT2PtvdRcT6PrPdIcTcQjvhkck+R9vj5cqIRTvjldGQT2RwXNfq3dgcUlfxEMAYVKb4IKHXH554GKHLHW56gKTrIaLAJKlDMMLPhLdbMQLPaLdXMQbPeLcLMSLPlLcnMObPsMC5OlbZ7MCLPRbiTMpHRU5lmN0vVIc6oOP5XgM6AOSrXjc6+OSfXo68mPCLamMJBPBjal6JQPCHa",
    "nsJ2PCralsJIPDHalcLqPiPcoMQvPiHcnsQuQZrgE6ewQbbgQsfOQZbgH6fYQc5gIsf7QZLgNsf8QrbhTsm5Ry9liM+Xlq0*RyDlf6*1RwTlis*0Rxbljc+cRw1lj76+SSbnq77ISSXnrN6vSSvnsN7SSSDnn7DeT9nqetIOT9zqddJYTGnr3NOqTZXsEdRdTkLte7UUTvztfNZeUDfux7ZdUQPwJNfEUaPwJ7fBUhfxsNmHUybxv7lRU+5xwNlcVDLyrduAlw5UVX5+27uRVYD+7duTVWb+47zvVx9*y7*nV+w0A86pWQc1g87xWWY2M89PXKg5MO",
    "L8XMY5QOL3XKc5ROLgXLw7WuUVXvw7eeUDY669AeaoYIM9AuaXYQg9fehcYlgAwuhnYm2At8hdYkwA*ei1YmAAzuhjYlEAzehyZ6kCROoJZFIEH8unZZIEGeuvZZMFEuylZpYFCu+eZwQGTP1qa7YGSf1ya7gHD96Iao2JDfBuapEJBvCYaloJAvC4anh0G3+J49Ccao6J5PCkancLkvQdbgYMgfRLbmwN4PSMbmsN4vSFbrkNN9TcbvYOC9Wuc3kODvWjc3cO99aGcIYP7faRcI6P6fdjcUAPyPguchoQ+vhjcoYRaPqLdIET9fqedHAT6vxOdjIV",
    "ZP+SKIfH7r4XKJ9IzLQELe1Ma5Q5LeV0eLvMZrZLMDDOqLZEMp1RAbiaMtfSDrneNRnTkbszNRXUQrzCNxrXoM72OSTXvc7BOZ9YD6JEPCfas6JWPF1avcJiPF5aucJjPO9bWsRPPjPgW6gKQeHgecgSQjjgesf+QfTga6gWQrnhhclQR0Xls6*nRzzlu6*RR+Hlws*lRu1lx6*XR+blrM*kR*1nvt7VSUvnvd7bSUrnx77qSU1oDN96St1pSdIfTB1qfdIeTaPsGdPCTkftitUgTx1thC50FtUdTwrtxtZtUFfuz7ZlUG5vftcgUbTwltm7V0rx*d",
    "ltV0nxu7pWVDnytdpYVDzysNpTVYv+Fdv6VZT+Cdv3VYj+FNunVaL+GNuqVZb+I7urVZz+Btz4V*D**81nW7A0S81lW7E1ne73WRg1me70WR+1lO79WRw1w889Wd65gi6XNeM4XNw5d8MHXPI5huMRXOU5g8MAXcU7m8VHXxE7qeV6Xwk7kuUwXyY7ouaxYJQ9H8auYJs9h8iEYnUB6OiRYmgB88iTYmIB48n1Z3+CSupwZFsC*8puZFkDg8v9ZakEI8vAZqIFFez2ZqMFFv1*a7sGX921a8AGW94vaQEHdf6SaqsJWfCeatMJIfDbaqkJ69D+asoJ",
    "MvDmargJL9NAbSkLp9N8bSQMiPQubjQN79SUbw2NqvX6cBQPDPe1ma0*cV+RhfkhcwgRhPqxdJ+UYvxFdjwUt9xTdjkVFfzBK+9MbLQkMDbOs5iuNrrXus8pPFHaycJ+PGPa+cJxPFTbjsRSPoPgisgiQiDgksguQi9ghcglQrzhU6klS0bm2s*+S0Pl+d0HS0zn+t7ySVvn+7DtStLqftI*THLsLdPOmg5UTb9tlNU*Txjtl7aEUQvwONfYUc1wn7h5V2jy9tmgV1vy8tmXVET+L7vLVbv+MdvXVb9+MNz8V*b*+u1tW7Q1pO7FWWg5puMfXSs5q8",
    "N9XR25keMvXQQ7xuViX*A7u8c6YRA9z8ieYpcBB8ihZ52D1OvPZcEEPevaZb+ELOx0ZqcFJP27a8EGY96haQoHq9EKaugJbfEYaxEJhfEiax2Jc9EQavULr9NMbT2LrPRYbjoMsPRRbjwN99UZbwR3G3+NhPVvc4sOJvXCc4wOKvYwcJwPFvazcIwPfPeEci6R0vi6cq+RJfjDcygRoPlzcyYRm9rHdLsTO9xWdnMVB54pLgLOtbZVME9RzP+GNknXyc7tOVPXzMK0PGzcu6RTQkLgtMhQQjDm6t0VS2Xm6d0TS1Lm6786SWroM7AYStZ3eLvpUdIz",
    "TCfqutM7TOPsNtPXTyTv6NcnUcjwQNm+V3zyE7mzV3TyG7vhVcr+UNvfVcf*XNvpVxP*kN+uWTY5wONTXUg5rONaXUM5zuVxY0M83OVvX*w9O8bVYLQ9Nej1YroBM8j9YrgBJejFYqQBMOq8ZGgEV8voZeUETeviZdgET8zKZqwFhP2Aa8kHiP6ka+6JqPFVayEJo9FSazsJrfFYaysJs9FaazUJw9NSbhIMuvSgboUNOPVSb*kONiH0FvXOc5kOl9b5cKcQ5fePcmsRw9ldczQRsvs9dM6TSfrgdMoUafwNdfEUj5BuLgXMjrQsLhHMl5ZaMq1RGr",
    "jzM*PToM7uOVfb66KKPHbcvcSdQknmFd0mS39o47DxTCzsOdPbUIPvAdaiUIjwnthsV4nyGtnDVEzyy8+kVdr+VCIXNdw2Vqo0087QWcQ5+uNvXX65+eO6XWk61uOAY1I85ObaYRg9+8jmYsoBPejlYr+BQuqFZGsEYOw1ZeMEWf6qaSkK69G3a*sLuPSmcCIPKfbHcQYQAvemcZUQDPmJd0sUUPwrdkYVBvzVdsEVOL4tKJXMmLR0Li9P55niNSrX*67+PHrb76MLPkbg+si4Qlfhid1CSXjoftJMTDHsQNVJV51+ZtwCVxo65uOjXXg88uWYY268",
    "7ubgYMo9lOjqnK0*YtUBVOqJZegEZOwBZr+Fhv6wb2wKCvGrb3gKE9Gob2kLufSubpcNCfV*c6UOPPbNcaMQGvf0cZwQpvjKcr6SBPmbdQ+Tj9t2dRYUdPxldncVN9zcdsTHF54xLiXMobR9MtzTr5tINqvX*sKaQmfhON1HS5XpW7JaTOfsRdPinQ5UURDyO7nVW7w0VO7VYNA9RudyYu2D5eqNZf6EauzXaKYKH9HHb5ANFPS+byENmPXhcLMQLPfDcjAR6fn9d36SFfmxdTETrvyqdsoVQf+KLinTrc80PIDbAsKgPknh47JQUifyP7nZV6L+at",
    "wMVfI1ueOuXZ+8COkAa92GZvHZb62KP9Tec6+PN9fQcbkQLvhJcjIQqPnKd5USLftbdf+Uz5RHMEbbB71UTd5sSdVNVr1*Y8WsY3c8OekJYvB6G3+Bbe9tZHkHm9HgbqANI9T4byQOS9fVcoARM9nVdVcT+fvyddsV1vztdt9UysiMS6DyR7nkY3k9m8wXaS6KSfHmc76PNfhMcoEUp71aTzgBcfHtbycQOffbVfoBd8wgaSMKVPH+b7oSTvnudlUCL9H*dXfoA9fgcp6U6vuUV7B6eLum*Z2TC9um1J11C48mGp14C4KmHZ17C4WmIJ1AC4imJ31D",
    "C4umJp1GC54mKZ1JC5GmLJ1MC5SmM31PC5emMp1SC5qmNZ1VC60mOJ1YC6CmP31bC6OmPp1eC6amQZ1hC6mmRJ1kC6ymS31nC78mSp1qC7KmTZ1tC7WmUJ1wC7imV31zC7umVp20C84mWZ23C8GmXJ26C8SmY329C8emYp2CC8qmZZ2FC90maJ2IC9CmeJ2YCACmf32bCAOmfyT0Fp2eCAamgZ2hCAmmhJ2kCAymi32nCB8mip2qCBKmjZ2tCBWmkJ2wCBiml32zCBumlp30CC4mmZ33CCGmnJ36CCSmo339CCemop3CCCqmpZ3FCD0mqJ3ICDCmr3",
    "3LCDOmrp3OCDamsZ3RCDmmtJ3UCDymu33XCE8mup3aCEKmviUXN33dCEWmwJ3gCEimx33jCEumxp3mCF4myZ3pCFGmzJ3s11G45GG111O45mGO11a46WGR11m48mGa12K49WGd12W4AGGg12i4B0Gj12u4BmGm1344CWGp13G4DGHH13O4DmGu13a4EWGx13m4FGG+13y4G0H11484GmH414K4HWH714W4IGHA14i4J0HD14u4JoHW964aOYHZ96GaPIHc96SaQ2Hf97GaTIHs97SaU2Hv97eaUoHy97t9G3zEGavSKVLJ6bE2JWTE34v7JerMr*eC",
    "N6vVSquFKOTE3aukJfDEmax9JiXHc5ByKsnJkLSWMGDPB5mGNVzbuMkpQyni578*JZ5EF4xeJjnEwKxXJjrEsb8CKnnJJ5SYLoDP5ralMu5RX5mIN3jST5npNWHUW5w2NybY2M9GR1N9eLviDcn3R3ziEtAkSh1pYdcuW8gM7ayEJnXFB4xrJnHEyKy0JlTF24yTJm9F1KyYJnDF14xqJn9HiL8JKWbI45AcKo9J7rDDKufK1rRXLjzNBbSgLpHPF5c0MNnPXLbxMNvPTrb*MrPS5LmbN7nSUbnxN7vTtrvrNeHV0byQNtHVrL*KNyzYN69UOcHYOM",
    "9cOc9YMM9WObfYPMNlPUvdFcSvPpXdEsSwPpzdF6SpR1XiHcnIR5niJsnAR5HiIyf0FsnCS75oNdAqShLpZdKgTdzwTNzHWdY2V8A0Wds2VuPDYNwGcP2Na9YGcv2KbYAM99OWbYDFLayxJs9FIKzJJsHFFazdJr9FNqz1JrXFBKypJpzFOL6FKRbI758UKY5IhLAkKmbJOrDoKuvJZrGmL3TKAbHKL4LK6LGSL2LK6CgXNbGzL4zKGLGeL2HKHrRkLkTMvLT1LqLNJ5T9LqjNKba6MK1PfbcOMQ1PbrcEMQ9Pa5cFMQTPeLkEMv9SA5mgN8rSZro8",
    "N8jSYLoIN8fSXboJN9LTu5uANWvUYrw9NenUY5wDNmLV7LzuNtPVqb*HNz1VxL*eN+vVyr*XN+HVur*wN+zVzr*xO01Vz68wOeDYZ6AEOezYb6A7Od5YUs9wOd1YWMA8OdTYVM9oOdHbDsNmPVHbysNoPVLdHMT7oq0*PrbdLMTCPqXdNMTDPrfdIslGR1bi6cnuR6TiQso4R8jiZsnnR6ziQMoQR6riXsoLR9niPcnpR6LiUsoES7HmUd9ZShzolNB3SiPomNAwSiLpbNENSvDpb7EITJfrENMKTPLsWNazW3I0bO2PW920ae2SWf22ZuA5Wew2aO",
    "AJow5UWeg2WuA4Z7YFoO+*a9+GeP2ba9wGfv2WbZ2MA9OlbYrECq+OJtnFXKzzJu1FXqzsJtHFYK+4JtTFJ4+NJsfFcazvJu5FU4+GJvnFb4+UJv9FWa+LJsjFRb6UKRnHlb8rKZ9ICr96KZ5Il5CAKmjJF5EIKvHKXrH*L85KaLI2L8XKQrHwL7vKPLHiL7HKPbIDL6zKOLHWL9XKOrHdL6HMzrRvLszNSbTjLsjNSLTmLtPNW5TrLtjNSrTqLsBCG3zNQ5TzMGnPHLcrMRfPprdEMR9Pp5d1MRPPl5d3MTPPiLczMS1Po5cqMSTRObjbMvDRbLn4",
    "N4TShboaNA1SjLolNAXSh5oVNADShLoYNAfSfroTNALSjbomNAPU5ruKNXbVA5yYNoDV95zKNu9VVbzzNzvVvM0jO2PW6M0oO0lCeLvWD60AO1TWCs0QO1vWB60YO0rW460kO1DW4M0CO0bW768KOZrYhMAqOj5YlcAgOhPYocAkOhDYhsAxOgbYi6AuPJrbg6MxPWbb*6O4PX9c26NxPWDc2sODPWLb*MOHPX1czcSAPuLdR6UEPv9dTcTxPvXdXcU4PtHdZMUCPtfddsUHPvbdWsTzPu5dU6TvPvHh9Mk0QtvhtcmTR9Dix6phREvisMosRDHihM",
    "pdRBTiq6p2RBfimsp6REriyir0FspIRDrij6oAR9riW6pURC1jC6pDRCTii6pvRCziwMpHS9Hmc725S9DmXd24S95mbd22S9fmWt9gSjPootBOSibot7BISjHosdBCSj5pf7EXSwrpfdEYSw1ph7ETTDrqw7K*TK1rFdMCTPXshtRpTl5sy7RrT*Xt*7VvT*jt+isXNdVtUK9vFtd5UdXwUthxV7Ly*O0rW8+0he2ZWBY0jO2jWY22e8B0Wgk2ceAOWfk2jOAdWgw2l8AUWhg2j8AeWg62gOB2WgI2muAsWgA6S8PlXcs6RenMZzAFou*JZysFre*L",
    "ZzUGif2qaA+Giv2mbZcMFPOybZgMGq*DJyLFqq+oJybFoq*1JzHFt4*PJxjFiq*RJyTFra+wJy1FkK*iKaHIILB0Ki9JFLDyKvTJbbEPKvXKkbIXLArKfLJFpa0*LCE33LItLAvKrbIsLCLKnbIWL71Kl5IYLBvKSbJULB1NjLUULvzNf5UCLvTNdLURLvHNc5UFLvbNfLUQLvLOz5aDMLDPuLdUMUvQ05dnMTrP+bdzMVnPzbdaMV9PzrdRMUbPyrdrMU1P*bdqMUrRg5nCND1Ss5pCNDTSorpRpg5UNDvSsbp9NCTSobpMNDDSr5pFNCXSnbpEND",
    "zS+5tvNY5U8buZNY1U95wmNgHUebwRNgDUfLy7NovVLb+6O3TWEM1KO79WNc15O5DWHs19O5jWJ610O49WNs0aO4HWM61cO6vYGc93OizZ3MCBOlLZ3cC3OkjY+MCFOmnY+6BsOm1Z4sCKOlfZ5MBxOl1bGML3PQfblsOsPY5cCcOrPXnc9cOYPZDcAsOwPXrcD6OvPYvd3sSGPy5dycV8PxhFG3zdt6UxP*Xds6V0PxTdnMVhP+HdtsUrPyrdisVtP*PdxcVZPy9dkMVEP+Tdy6UoP*ndncVjPyndhcVcPzjd+cV9PyfdmsVgPyjhA6k2QuHhjclM",
    "QzXhu6mWR25jA6qqRIrj7sqyRJzj4cqARDfjCsq4RHbjEcqQRH5j06qTRKBFeLvj0MqORJTj0sqFRK1j1sqWRInj26qYRGbj472tS9zmld2nSB1meN2qSBLmgN91SaboId9iSd1oSt9kSifov7BeSkjottBgSkPoutE5SynpmdF8SyLpkNEsSxLpj7FhSxzpntE+SyDpndEuSyjqx7JkTIvrHtL8TQTrgdPvTiHt27S3TmHt1NSATlTs+tRwT+Ttw7W6U15u4dW5U11u3tWEU0bu0tWJUKfvJ7bBUKLvH7dLUSrvptdMUSvwWD10Ftf+Uj5x07i1V7",
    "fyU7nvV7zyW7o1VGDz27q1VrX*aN+DVxw01u0EW0+0580tWDY0nu3WWD60o832WD20nO3ZWDc0t83AWDM0oO3FWDU0ve3DWV+28OAKWjc2*eBvWmU2w8C0WjM3EeBhWjQ2z8BiWk62yeBrWmo2+uBsWl22wj2XNeBaWk22+eBpWks6TuPqXdo6SuX1Y4w8PuXgY6c9que4YWUDSe*ZZ+6Fxe*WaF6GlP2*aDMGnP2+aCUGov38aTIHqvPKba+MKPPJbagMJb0UK0LG1r0JK29GC50RJ*LFz50pK3TGB4*sJ*TG5r0SK21G9r0rK2zGCL0EKLfHb56J",
    "KSfHn575KSXHpb9XKbfIKb9UKbzILL9YKirJ3bEULIPKubKNLH9KvrJpLEHL6bJ*LGHL25JhLH5L1LJnqK0*LGfK+rJtLFXKu5KELGDL2rS1Lm9Np5WoLzLNqbUwLyPNlLUyLxXNjbU*LyTNq5UvLy5P3bbAMXbQ5bejMYvQ5LeFMXTQ2beUMZDRR5kdMwrRh5m3N5PSL5piNFzSxbpnNFTT05pvNYbUA5weNgvUgbwiNpDVC5zdO5rWMc1dqQ5UO45Wec28O81Wac21O9rWWs2LO9jWbs27O9nWZc8POaPYycCGOrPZB6D4OqLZDcD3O+HZEMDBOq",
    "fZF6CfOq5ZD6DOOrHZMMCjOqTZCsDQOr5ZE6DNOq1ZI6LAPKPbncN3PSHbmcPAPbzcHsPHPn9d4sWVQ1feIMWoQ3DeEsXBQ4ze5cWnQ1neDMWhQ2reBsXEQ4HeD6WTQ19e56WcQ2XeBcXDQ3fe9MWWQonhBsijQp5hD6jjW89hY6lcQ+JIG3zhw6lZQ+9hvsmbRNfjOsraRNPj3MrXRP9jM6rYRMrjRssHROrjxsr*ROPjNcrdRM1jbsrmRNnjNss2RPXjBsreROjjVcs0ROHj5cs3RNjjVMrrRP1mt73JSD5mtN3BVpbmud3NSD9mtd3WSDHmpN35",
    "SCPmnt3QSCvmuN92SdZIeLvoTt9sSm1o+dBqSlvozdBpSljp0NFJSzbpvNFMSxnpvtFZS+bpt7FISzjpr7FTSzfprtFOS+XqtdJVTFHqzNKXTLjrNtMmTS5rktN4TS1rltMsTRfsYdR9Tnrt6tSGTnDt4dSZTn5t5NSPTnft8dSdU2DuB7WYU3LuBtWeU2vuAtWXU2buCtWgU35vL7bRUKzvN7bJUL9vKNdhUUnvu7dkUUrvwddSUTvvtNg6UebwXNgBUenwYdg7UjXx4DD0Fti4UnDx1NiFUmXx2diEUmbx4do4V95yYdoCV8XyZNo5VHvz7NqHVG",
    "vz67qMVHDz7tqIVGzz37zSVs5*NdzWVrr*Mt+MVv9*mt*2Vy205e0+W3c0+e3oWFc0zO41WFk10881WY+29OCpWos3H8CPWr639ODMWp+3GOCcWno38jEXNeD2Wqw36uCgWmY3F8DDWnQ398CWWpU3BuCfWqU3HODCWrE37eCiWqk39uD8XbE6KeQYXgY6beQDXf66deQ7XfU6XeQBXfg6XOQbXfc6eOQdXfM6c8QEXfs6a8QKY4E8H8XjY7M8TeXoY828SOX*Y6+8WuX+Y7I8V8eIZ4UCLunxZAICeursZNYDjOstZRQEqOxJZ*wFzP02Z*+F+v04",
    "Z*oFzf3MaE2GsP3QaEEGtv3baDYGsv3NaDoGv95Gr40*aKwHJv7LaUAHsfPSbb+Ml9ZZcj+RBqv*K71GQb1XK5vGO51JK4jGNL1oK4XGJL11K5jGIb1YK1LGHL1VK6bGQr1ZK6HGHb10K6vGSr1NK55Hq59hKcrIR59kKjPIqrCjKvnLTLLsLJnLJLLGLJHLAbLHLM9LDbKrLJ1LKbL5rA5ULGnLCbLbLKvLELL8LIrLErL0LKjN2bS7L*jO55VYL*PNt5VqM01NxLVzM0XN+5WBL*DNprW7L+vNurVoL+LNx5VXM0vN*5WGL+TO0LWCL*5NwLVmM0",
    "rO15bSMc1QM5fLMcTQNbeuMZLQRLfGMbzQPLfiMbDQP5fNMaDQNLfIMaHQMrf8MevQFbfDMZbQJ5fmMcbQHrfHMbPQGbfSMt9RRbl1My1SMLqUNGjT7LqQNI1T35qeNGrT9bqbNG*LG3zTC5qINIDT7rqkNZvUD5wnNhHUkLwoNhDVDbyuNvjVbb+VO8fWa626OBvWi62wODDWr63FOEHWsM3TOCXWiM3ROBTWoc2*OCDWpM30Op9ZPMEAOu9ZVMEzOvvZhMETOvTZgsEEOszZXsEGOsvZhsDrOvnZRMEkOtnZf6CxOv*LeLvZU6E5Ou5ZaMEDOt1b",
    "KsNDPcLcOMPRPbbcN6PYPnXeUMY7Q91ed6XjQ6vehcYhQLPeRsYZQAnegMXrQ7HeicYFQ7TeacXyQ6jeScYgQ81eSMX+Q9jebcYBQA1eYMYaQ7XeUsYHQ8neYcXzQpPhCsitQpXhaMkFQurhZckCR2fjm6shRRHjisvqRQnjwMtYRRTjzctKRW1jo6tWRTzjrcs+RULjt6tTRTjjz6tARRrjxMtmRRfjrMt2RSzjoTP0FstGRV9jqstzRTTjpMtZRRjm+d4DSFTn5t3qSGnmy744SFDn473ySFzn1d4JSG1m+73sSGjn0d4ESdvoUt9ySdzp7NCNSm",
    "Tp4NCOSmfp27B*Smzp7dE8S*Pp+7FrT0Hq0NFzT0Tq07FwS*np*tGCT0jpz7G8TMHrOtNETT9rpzQXNdNBTSnrqNNGTezsYNRJTpbtBtSjTp5tCdSqTpDtFNSbTpjtDNX8U59uINXDU4fuJ7WcU4LuK7baUMTvQNbgUMDvQtbXURjv+dduUVPvztgFUfHwa7irUqTxD7ibUp1x8diaUpDx67igUnrxCNihUorxBtioUpXx6diZV9Hyc7oMVADzDNqzVJXzDdqwVKLzB7qfVK5zHtq+VJzzIdqxVIX*Ot+LVvn*dN+RVyf*ot*DVz1*qN*7Vyz*oO0V",
    "rq0*W1w06u17W4E0I84OWIM16O4RWIs17u4iWHw18O4LWIU17O4YWX62E88pWZg2D88oWdI3a8EZWwY3ZODwWtE3f8DqWu+3WOELWvc3TOEKWwc3VOE3Wuo3dOERWwg3YuD+WwM3huE8WvU3i8D*WwQ3XuEkWtQ3cePPXbQ6luQtrw5UXiA6mOR5Xhg6i8R8Xhc6iuQuXio6j8QxXho6muQzXhw8KeY9Y9M8g8YYYAg8ceYHYA68duYOYAU8cOYRY9U8f8YiY8o8auYEYOA9redPYTMAC8edYYoA7emvZ3kCN8nTZ7sCfOrzZNkDUOsyZSADkOs*ZS",
    "6Es8xUZjsEt8xNZk2EuP0aa0kG4P0Sa0oG8P3laEgGy93qaFAGyv3KaEkGx93faLQHM95QaLEHLP7iaVIHyP7paVYHv97vaUhOG3+Hwv7taUYHxfLwbOQLY9PybcsMQvPnbc+MlvTgc0IOvPcNK9jGbL2KK9vGYr2ZK8DGZ52EK9rGQ52SK99GWb27KLzHr5CIKn5Jf5EdLP5Lg5MbLQrLTrP5LQ9LarM8LOzLjLM1LQDLabMaLNrLZ5McLNzLbLMXLOvN35WfM3VOeLvO6LWUM2TO8rWeL*LOI5WbM1nO6rWpM3zODbWkM3bOE5WjM2nOErbXMgzQ",
    "b5gVMdfQebgUMdXQfbfyMgLQh5gLMgvQDrg4MefQbrg3MejQgLfxMdrQZ5gSMezQargTM+fRpLlBMzHRqLlAMyvS35mmNJTTGrrhNK5TIrq*NJLTKLrENLLTCrqwNL9TFLqnNLbTGbqvNKbTE5qyNJ9TDbr0NKLUH5v1NrXVfb+bNwjWoM2vOCnWuc3EOCHX5Db0Fs3oOGfX5c45OFLX4s3uOFnW*c31OGDX664TOH1W*s44OGjYIcEKOx5Zi6FEO+LZw6FlOyDadMFpOyfZu6FsOzLZycFrP65ZtsE+OzrZt6F4OzXZqsF2OyTZp6FBOyXZy6FNOz",
    "bbCcLdPMfbP6LSPMXbPMMCPPrbdcMkPT1bqjcXNcPyPcncUsQ0Pd5cUMPgPd9d0MaCQDDf16ZSQIfex6ZgQF5f3sZMQFTewsZaQFPf4saGQFDeuMa7QCnf26bmQBHf4MZlQCPf56ZuQD1e*MZyQEXf2saAQHTepcZ8QDretcZcQFHeqMa6QDHewMaLQILensivQpjhFsiyQvHhbskPQvLhlMlmQ*9hysmmRVnkHcv7RXzkIMw8RZnkFMv5Rc9kAsu*Ra5kNMvpRXnkCsvBRa1kKMuxRWDkBcvUsa0*RcXkN6vXRZ5kA6vWRd5kQsuvRY9kC6vJRcLk",
    "9svuRcHkTsvLRdbkKcvcRZLkDcvQSI1n7d4lSFjnBd4nSIDn9N4YSJ9n7t4eSJfn6t9BSbfoY7A9SePoXNABSn9p2tCmSo9pCNCpSoTpCdCjSoPp8tCrSmnqBdGiT31qAtGMsg5UT1fq8NGjT35q97GZT1rqANGWT39q+tKlTMzrR7NdTTfruNNcTTrrttNaTTTsbNQITjftHdT7TqHtJNT5TqftJdTBTqnttdViU61uP7XbU5nuRNXnU6fuRdXmU6buQ7XUU69vT7bpUN9vS7e2UWfw0teCUWHwcNhcUkHxIdixUqHxI7jCUqvxG7jOUqLyedoUVA",
    "XyeNrOVMzzOtrJVLPzPtrgVKzzRNrSVMjzKdrKVMbzKNrVVKv*Fdy*VsNRG3z*Pd+YVw1*eN*NW560Ju1GWFw0r853WKg1Ke5FWKU1FO5DWJg1ve7kWVU1+87vWWI2F88zWZ+2TOCxWy+3+OGZWy23w8GIW+U3v8FyW*Q448F6WyY3wuFZWx+40OFTW+M3s8F*W+63ouFEWzQ3zOF9X0c43uFUX1641eF2W*FReLw3rOFwWyU3qOFgX1E3muFiW+w3n8FxWzU3ueGRWzk3*eROXkA6veRJXkE6seRgXjs6wuRSXko6wORNXkY6qOX8Y5Q8LOYwYDU8",
    "kOYuYC28leYsYBo8juYzYBA90OZ9YPM9c8cNYTs9sedRYawAJOevYbcAG8fNYbYAH8f5YbAAI8fHYagAJ8fFZ5+CWOo0ZBgCleomZBcCjOs4ZO2DYOtOZTEDpOt7ZTQDt8tFZTMDsOt8ZTUDnOxlZlUE+jn0FuxvZkQExexbZlMEvuxeZlQEwuxnZkoEz8xfa2sGD90laGQHB944aF+G*948aFcG+v41aG2H1v45aGEHOP5aaL+HOf5WaW6I2f8baWEI6f8caW+I3980aXAH*v7zaWQI198daWAI798aaXcI5v85aXQLUvMDbOoLa9Q7bdwMYDoXNf",
    "Q9beEMW9R2biYMmvRnbl2NR9TmbswO1vYfcEkSvfxvJeDEX4wsKBrGlr36KAvGn53AKBHGo532KB1GmL2wKB5Gor39KBPGk57NKdfIU59xKdnLmrNRLSnLq5NBLSfLtLN0LTHLn5NfLRzLqbMDLSzLrLNYLTPLo5NoLSrLsLN2LnHOKrXeM6HOJrXDM4bORrXLM4vONLXPM6LOMrWzM6DOSLZyMiTQn5hBMhfQk5gnMhLQi5g*MiXQkrh6tK0*MhTQm5hAMhHQjbhDMhbQa5lMMzXRsLmVN3DTSLrZNKfTPLroNMnTNbreNMTTObtmNazUJbvANarU",
    "Irx5NinUnbxBNiTVG5+lNwrWzs59OKfXAs55OJPXCc4kOKPXBs5FOIbXG68WaMXY8s8bOYHZnMFnO+ja46GIP0ba86GatQ5UP3DaGsGVP1La66GvP3Ta8cGZP0na9cGmP2XaGMGrP2za2cGQP41a9MGdP0jZvsGRP2va8MGEPMzbacNJPePcZ6QLPf1cYsQAPfbcb6PuPo1fPcbVQJXfJcbYQN5fFsb5QMffEMb2QLTfMMbwQKXfIMarQMnfCsazQMLey6buQJHfQMb0QMzfH6bsQLXfGMbqQKnfEsbBQJTfN6bFQL5fCcbIQIzfUsayQqPhHMj3Qq",
    "9hI6j1Qvlw3MlxQ*pUG3zh+MltQ*XkcsxMRiXkZsx0RfzkaswKRg1kiMwvRiPkqcwzRi5kdcx9RhTki6xDRgPkpswoRhvkmsxSRjXkcMwIRevkZMwaRg5klswpRj1kocwNRgvket57SLHnKd5ZSM1nGN5TSM9nSd5uSMfnON52SLXnGt5BSN1nNt5GSLFUeLvnH75DSLfoJtADSenoaNAGSevpF7D2SpjpEdD0SqfpINH4T4fqItHIT55qLtH0T4zqK7HET49qHdHDT5HquNJ*TFvq*NKTTNbrTsc3TUzs3tO3TVTr*dNyTVbr+7OGTVjrzdNjTVLr",
    "*NQPThLstNTLTrztO7TITrPtMdTfTsTtL7TPTsrtu7Y7U9fub7YFU8HubNY5U8PueNY3U7bucNY0U9PuUtbyUO9vVNbvUX5w67ePUX9w5teLUY9w4zz0FteRUX1wetgYUfvwwtjcUsHxRNjqUsbxSdjbUtDxSNjmUs5xU7jsUsDyidoqVAzzY7s6VO1zZNr*VOLzUdsEVNjzWtryVOnzb7s4VNrzadzjVsj*PtzeVsn*fd+bVwT*st*SW261P85WWNU1N85fWLk1Oe5oPo61Ne5sWMU1Rz+XNe54WM627O99WaI2G892WaM4yOG*X5Q4TeHvX8+4ZO",
    "HbX564G8I6X6U4C8HDX7s4MeHPX7I4SuHTXGU4NeGtX3g4D8HwX4E4U8GoX4M4AOFPX4k4BuH2X2s4NuHmX3c4JeHCX5A4RuJ5X8w4EuH7X3Q4CuHeX7w4H8GhX624L8HkX5272uS4XlU738RwXjQ6zOTDXlY73eS9Xm66zeSDXmM8reZBYCs8peZUYDk8seZCYD29XOcRYT+9vOdau40*YU69u8dYYTo9vefsYeQAVufXYZ+ATug2YeIATOg3Ye6AT8fwZ3oCIunAZ6MCP8ncZ8QCX8o5ZCoDQ8rfZP6DZ8sEZO+DZOsJZPIDa8sIZV2Du8tiZV6D",
    "xetGZUcDuutYZUUDyethZVIF1ex*Zm6F08y5ZmUF28y2ZmkGKf0*uA5Ua4IGIP0zaH2H3P4FaH6H5f4KaGkH3f5kaM+II99IaZ2IEf9caZEIPP9UaeEIBf9AaaQIRP9iaa+IO99dac+IDf9Xad2ICP9KacEIK99oaawIKv9CabQICfMVbPoLdfMRbfAMavQHbfUMpfRwblsM+9RrbtENTvTubtAO3vWDc0wOh9ZscFcPhvcocR2PjPgjcgkRMvpgdEsSvvw0dlrGvb3KKDTGw53pKDjGwb3TKEHGqr3iKF1Gxr3ZKE3XG3zHs5A0Ke5IwLBhKp1Jh5",
    "OdLXLM35OILVnM3rOSLW5M4rO2LVfM7LO4LVzL+LY9M7nOa5YOM8POWLX*M7HOYrXwM8TOaLYEM7POWbY8M7jOb5YFMFvPQrhSMkvQvLhLMkfQsbhjMkjQyrhYMk1QsrhiMjvQtLhPMkXQtrjtM+3XeLvRurnZNO9TW5rzNOPTUbs1NNTTYbs9NOXTVbryNOrTULr*NbXUMLvJNjXUqLxNNivUt5xLNjbUqbxKNqHVGrzlNxPXB64eOK5XNc5nONDXKc5JON9XR660ONHXL65wOLjXPM4xOMfXOM5MOYbY9s8hP2jaJMHRP5raT6HsP79aSsHzP7La",
    "PcIcP4vaWcHUP5naIsHJP61aK6H*P3zaR6HhP5baPMHtPNDbe6QXPg1cdsS5PmHd8ccnQRPfoU90FscWQSvfbccmQQnfl6cHQPbfZccdQOrfgMc+QQzflsd4QRrff6dKQRbfoccQQSzfiscJQQffeMcUQTbfbscGQS9fjMcbQSPhIcjDQqjhdckVQw1hmsl4Q*vkpcxrRl5l0sybRlXlDsxxRovl2MzERnbl6cydRnXlEsyIRkrl2kAXNcysRtDk+MxkRorlG6ymRpnlDMxhRmTl3cz3RmLk*MxsRpbl76xyRpfl7syDRnvl26yXSOTna769SO1nXN",
    "62SOznUt66SO5nbt94SbDobtALSfDpGtDDSr5pJ7HYT7DqSNHrT79qPtHkTG1r0dK3TNrra7OMTWXs37OLTX5s2dOKThXtWNTyTuLtWdTkTu1tRtT+TuDuidYgUBHuhNYeU7vugtYUUALue7YiUA9uf7cOUOfvYtcMUPLvb7cJuq0*UPTvY7cIUP1wAtfAUZ1wBteeUYPwg7ghUgnwxdk8UvnxYdkHUv1xbdkDUunxctkEUuLxc5A4Uvbxf7k2VBjyltoyVBfzftstVS9zetsgVS5zm7t5VPrzpdt4VSPzottCVQzzkNsMVRnzdtscVQvzgNsXVSb*",
    "St*YV+D*vN*Uuw5UW2I0NO1SWOc1Xe63WOU1ZO6CWOk25OINXAI4eOIVXBg4peJ2XAo4heIhXBc4j8J1XCs4geIQXB64q8ITXAU4kuIYX9I4nuJCX9k4gOIlXAY4reIOXBQ4puIWXDU4r8JIXDk4i8IHXc67CuSZXoY7QuT0Xow77eSXXnc76uT3Xoo7GOS+XqQ788SoXog7BOSyXnA7EeSnXpM7GeScXoU7E8SaXng7C8SHYFU8vuZnYFA8+eZ+YEw8*8ZsYFlaG3+8y8ZiYEk9dOcXYP+9dedfYUk9w8ghYfcAYugIYe+AbemzZ6YCQOpLZC+Cru",
    "sMZWcE0et*ZWsD*OuAZWEE1uu6ZWMD*eu0ZWIF48yHZmwF3P4ZaHoH894YaH+H7P4QaIIH8P4RaNgHSf5vaNEIfPAaadQIcv9wag2Ib9AgaetaeLwIffAQagkIUPANad+IevBkaewIWfALagAIVPA8ag6IYfA6aeoIcPAdadwIXvAfafsIYv8jbfwMePR*brYNVPTwbtwNWvU0buANUvU4bu6NVvVEbysO5fYjcAwP0fa0cGUPdPcScSEPkPcxcRgPmfczcSUQiPhZckURFfi*cs2ROPjVdF6SyfprdgTG*r43KJ1G+546KGTGzb3+KGjH353zKGfI",
    "YrACKl5IxrP8La9MJ5OrLa5MIbP9LaPMMEL0FrPQLa1MCrOzLYnMFbOuLYfMEbSQMAjOdLYnMA1OerYlMAnOfLYXMFzQ*rhqMlrQzrhsMmDQ+5i2MlbR0Li7MmLR3rndNPbTbrsVNP9TebsJNPLTe5sSNQ5TcbsUNcbUNLvWNbnzyrxRNjvUuLz9Nx9XYs63ONbXiM6mOQ9XYUMXNc6ROPDXhs6jOPzXac6gOQ5XZM5cORDYBMHkP71abcIWP8LabsISP8zaYsIAP8naesIVP6XaiMIOPNPbUcLvPNjbicMpPhLci6QfPh9cjsQgPgzg06e6QXTfvM",
    "duQXLfyMdaQY1f*sdiQU9g6seTQVvg9sdoQUvg56dtQUTgG6e8QUPf+seDQVnfwse9QWHg66ebQWzfzcecQWTfz6eMQr5hfMkZQw9hfcm1R01h*sm2Rq5l9cz+RuTlnc+Iva0*RurlYM+CRs9lJs+5RrflbczsRsnlWczLRt9lKczGRrTlb6+JRrrl06zXRsjlVMzdRv1lKs+BRsblVs+LRsDlTszgRtjnid6lSPjni76WSPfngN6rSPrnfN6USQHneN6gSPnnft6pSfXocdDOSr9pNdDVSs1pNNDRSs5pMdDPvg5USs9qXtI9T8fqXdI1T7rqXNI8",
    "T7nqUNK8TGTrVdObTXvs6NOTTXns8tOQTYXs6tQSTfrsddQRTurtZtU9TuXupNYxUCzup7ZHUCvur7Z8UCDun7Z9UPfveNcWUPnvedcRQtPwENgoUhHwitktUyjxldkiUyvxhtkvUyfxjNp5VCXyp7pBVVTzsttgVUTzrttXVWDz+dtcVVPzyNtmVUvzttzsVwn*i7+jV+r*wt*gV+n*vd*eW6I0Pu6ZWP*dG3+1de6LWQA1cO6NWXQ2Ju9JWbA2K89EWb6598KxXG+508KfXGw52OKDXH+52eKdXHo4+uKhXFg528KCXFI5AeJoXHM4zuJhXFE4*8",
    "KIXEg4wOKMXFw5A8KTXIw50eJzXHw4zeKnXIQ4vuJeXF24xuJvXHY588KmXGk56OKlXcBdeLw7LeTZXsI7TuVXXtE7M8TKXrk7KeTXXrg7KOTUXss7QeTGXqw7NuTTXs+7R8TwXsw7N8TbXq+7UuTrXsA7PuTfY5g91OaCYHI92uaNYHY96Oa6YHQ94OaEYGc9eecaYQE9xOdmYUoApuh6YhYAquhHYjIArOgxYjUAleh0YiMAs8h3YhgAlOhPZ3wCJOoFZEMCtupPZEYCsepTZEUDe8sSZQ6DcuuWZYEE9OuaZYwE5OuRZXQE4OuPZYQE9+X0FuuK",
    "ZXAE68uJZXoE5uuQZooF98yOZngF88yZZnQF5v1pa72GRv1da6kHBv4haIcHAf4oaIQHBf65aOQHYf61aOAHX960aj2ImvB4ai2IsPAsai+IyPBVajYIwPBNajsIp9BlaiAIw9BAaiYIpfBcaisIrPB9ak2ItfBdaj6Iq+YXNfArak6InfAqbNoLh9MhbQwLi9QabgAMqvS5bmYN0fTQbugNZfU8bz2NpvWUc1sO9fWfc2YO89WRc2UOifa8cFgP4PaKcHQP5vaLcToPpPdFcTEPr9dEcScPrfdOcSkPrvdCchEQx9hhclEQyfhncqQRGvjdctIRSP",
    "jcctQRTPjmcsYRP9jidFoS+fpzdF+Szvq7dG2S+PpxdGYT1Pq4deEUqvyFdn1H754JKHTH6b4HKTvJD5FXLd1MO5PkwK0*LdDMPbPZLcrMSbPULdTN75SRMCXOlLZ9MBzOkbZ2MBnOnbiNMnbR6riXMnHR4riGMnPRA5iQMo1R7bllNQnTiLsfNQTTjLsmNQvTgbseNR9ThLslNRHUPrveNcPURrxfNkTUvbxeNkLVIr+yOPrXg66MOSLXj676OS5Xp66wwQ5UORzXk66CPDTarcJGPCzaoMIzP8bamsJRPFDasMKpPNzbV6MYPiXclcR0PifcosRF",
    "PhrcksQwPind8seqQcPgIMfdQZ9gQ6e+QbrgRMfsQbjgKMeeQbfgEse*Qa5gQcfaQb1gJsfKQczgQMfWQZngNcfMQbLgJMfEQaPhLMjKQrPhfskgQwjho6l7R0Hi0sm6Rwrlos+ZRyTll6*ERyXlNc*4Rxrldc*ARwXm16+bRwvlkc+iRwflps+*RxZgG3zlec*9RwjlpM+lRx9li775SS9nlt6uSTPnm771SSjnr77ASSTnpt6zSTXnl776STfnstATSfvpQNDcSsTpR7DbSsjpQdH*T9fqe7IKT99qbNIXTGjrW7OlTYrsCNOzTZDsF7OrTZ9sC7",
    "QxTkPtcdUTTw5td7URTw9tetULTvdgeLvtbtZTUEbuvNZgUDvuutZRUE5uudZjUDzuu7caUaHwI7f7UhPwk7grUh5wjtlUU+DxvtlTUzLxvNlQU+Xx+NlKU+fxudlSU+jxs7lVVD9yr7pNVD1yqNuIVY5+5tuCVXz+87uJVWv+77uLVXf+8duBVWz+5duDVXH+9NuaVqD*UtzyVtf*iN*lW2g0AO1iWR61fe6kWRc1jO6hWR21h86qWRA1ju6dWVA2LO9MWbU5LeL5XMk5JOLJXM65MEj0FuL0XKQ5P8L1XMA5H8LHXKU5OuK+XLk5SOLEXMw5TOLL",
    "XMU5O8MCXMQ5NOLKXMM5R8PZXcM6P8URXu+7buUJXvA7Y8U1XvQ7c8TvXuU7euU5Xv27aOUTXuI7b8USXvg7YOaUYIQ9C8ajYIw99uanYIA9AOaZYI+9B8aVYV6AuEkXNehYYlAAz8hrYjsB58haYj+Ay8h8YjwAuOheYl+AxuhxZ96CaeoGZFMCxepnZF2CyuriZMwDfOsdZZEEFeuuZa2EHOusZZoEFOv1ZZ2EFuwzZpQFBeyrZpAFEOytZpIGTf1va7kGXf3waJEHDP4saPEHa96HaOsHZvCdanwJ29CVamQJ3vDwapYJF9CRaoEJ4fC1aqQJBP",
    "CEamsIovCTalgJ9PCJalcIzvCqamAJ99B*aocJEPCraogJ59CCx40*amkI*fC9am2I+vCMbRoLpPM+bRcLkfMsbR+LjPMzbgcMr9SBbnAN49UPbvUNb9Vmb*YODPWlc3AP99aVcIUPAPcUcUwPx9dbcUIPy9dZcUgPwPddchcQlvgqchkQzfhwclcQzvipcu2RXPk7ctoRVfjxcuARavkIcv2RUfkLxA5UctsRY9qbdHUT89qUdHITAPqTdHYT8fqGdHcT7vw8deQUXvwkdgsUrPxMdlgV4fyzKIPH9L4YKIHH854fKlHMarQCLerMXbQ4LeDMVbQ2",
    "LdzMWLZMMDHOprZIMorR9LioMoDRB5idMoPRBrikMtjRyLloNRTUR5vgNxvVks73ORLXl67dOU1XvM7aOUXXtcJlPEbausJhPEHaw6M1PO1bjcNQPj9gZMgMQe5gfMg9QfzgcsgXQfvgXsgJQexjG3zgbMg3QgXgf6gHQdzgfcgQQeLgZ6gIQrjhhMm9RynlgM*qRzHlus*SR+rlvs*cRzvlyc*TR+9lw77XSV5nw77oSUHny77YStDpRdDlT9TqidIhT91qgdIjTB5qfNIlTH1r4NKITGzrX7P3TaXsINP7TgHswNUrTwjtidUtTxRjeLvtj7UnTw",
    "Xty7ZpUFrv0dZxUFnuyda5UFbu*da4UQjvg7fSUbjwLdfOUbHwMdg+Ui1wmNm5V0zxydm0U*zx+tmEU*Hy2tlpV09y2Nm3V05x+7lzV0Pxy7lnV11y2dpeVYr+F7v2VZEOI7uuVYf+INv0VaT+ANvCVZ1+EtusVaH+Edz5Vtz*VdzzV*H*ye0iWRk1n87CWSg1nO77WRo1wO9RWbg2N8M3XO25ZuMdXPM5e8MBXQE5UuMaXPg5dkv0FuLtXNo5YOMXXNg5U8LNXOw5beM6XOs5cOMTXO65eeM2XOY5XOLvXNQ5c8MGXP+6Q8U+Xwg7hOV5Xx27h8Uv",
    "XxM7l8UkXyc7muV2Xyo7juUlXyI7oeUqXxQ7luUuXxs7teUoYJM9CuayYJw9GObIYJU9GecjYQ+9hedoYVEB7kwXNeiOYnQB4Oi5YmkB8eiFYnAB5Oi7YmsB28i6YnoB4uiQZ4+CS8noZ76CRuoLZ9IC+OrlZawEJOvJZb2EJ8v7ZqEFG925a7wHE96QaQAHcv6PaP+HeP6TaQ2JePE3aw+JP9DMaqUJV9DOaroJTfD9ar2JKPDWassJZvDCasgJUPDNarMJKfDFat6JTvDxas6JNfDZasUJW9DEarcLnvN0bScLmvN5bRUMhfQmbgoN89SVbnYN7P",
    "SPbvgNePUSxq0*bvwNdPVLbzINyPX1c4IOIfX9c4MOGvabcIkPB9agcJEPCfalcIsPCPamcPYPevcXcWAP+fdqcVUP+PducVQP+vdzcVwP*9e3chwQ*fhzcm6Q*9j8cvgRg9kUcvkRffkXcwMRf9k6cwARe9kldJETGPrddJQTBfqldJ6TE9qmxw5UdKMTGfr3dJwTDvr0dJr*zPqjdegUYPwDdh2Uo9xQdlkU*vyadoEV8fzKdw1HCL4jKIvMc5QSLfTMcbQTLfbPS5iyN6bSQbt0NcrURc7OOTzXxM7kOV5Xwc7mOUjXrc7fPFzb16JzPFXb0MK3",
    "PFnbb6NRPjfcssROQiLgkMgzQk5gncgwQhPgjsh7QhHghMjUQybi2t07S0nm3N01S0Lm570ER*zm06*xS2Pl*6*tS0fo0N7*SVbo0t7zStRmG3zqk7J0TBLqmNI+TBPqktJ2THHr4tPSTcHsMNPGTbDsLtPQTgPslNRiTy9tkdZ*UGnv4taKUGbv47aIUH5vhNciUbzy77mfV1by87mVV2ry7NmcV2Xy8dmbV31+N7vGVbP+OtvOVc9+NtvHVc1+LtvJVxL*it*tV*Y0TO7HWTBmeLw1q89VWbw5j8N6XS25muN2XRE5jOMzXSU5n8M*XSk5peN8XS",
    "M5iOMsXTA698MuXRU5lePfX+U7veVYXzk7wuVgX+M7tuVpX+I7r8VSXzE7xOVOX+E7f8VNXzc80OVqX+Y7tObJYKk9JubCYKQ9K8bHYKcBAeidYoEBCuimYpMBHuilYpoBFeinYoMBDuicYpQBBeiaYpkBFOiwZ4ACTOoPZ9YCbup+ZGID0eq0ZboEOevWZbUELevUZcMEP*50FuvRZbgEOOvTZccEL8z6ZqUFI8zBaIYHEf4xaJwHg96baQUHhv6gaxMJZ9EIaxUJcvETaucJfvEEawgJdfEcavMJY9EPav+JZPEnav6JifEaawYJj9EZawMLqfNJ",
    "bT6MivRNbjfTmfRVbjYMtPSZboAN9PUibwwNg9UhbwINgl6XNfUYbwMNrvVPbzQNs9Vwc52OKPXIcBYPGPaycJgQ3veBcWcQ3Pe4cX6Q2fe5cWUQ1fh0cjoR29i4cmMRAPircqgRJ9jBcyURnfl3cx+RmPkrcxYRqvkscyIRkPkzdLoTKvrFdKgTMvrBdLcTLfrCdLUTKfrKdL+TM9rQdewUZ9xVdm6V09yMdoMVAvygdocVA9zCdrLHD54rKfPIzrEqLgjMhLQcLgTMgbQiMDfOtLZRMH9RFLi+MpzTmrvmya0*NxzX+sK7PH1b3MK9PGnb3cM4PT",
    "vbtMRUQkTgu6hCQj5gsMhBQjzgt6hGQkjgpshDQjvhO6kmR0nm6N0dS21m5d0hS25m8d0ZS2bm5t0aS1nmAd8CSWfo1t82SWLofNAcSgHoetAXTCjqnNItTCDr5dPWTybtodV4T*5v7NaRyg5UUI5v77aNUHvvi7fdUcXyCtmyV3byB7mxVEnywdvsVdL+U7vmVdT+RtvwVd9+T7veVqj*Id+3VuP*jt*zV*w0U87NWTM2P89XWcE5wuNnXUs5sONXXUY5seNNXUo5yeNuXTY5tuNZXTo5qONmXUQ5xuNUXUA808VwY0E7zeVtY0c838WBY0Q7*8W8",
    "X*+82eW2YMA9MebRYLU9OObSYLY9NObPYOY9jucsYVQBK8j8YqgBG8jJYrQBL8jBYrNpG3+BKOj2YrABLun3Z7UCTeoQZGQD1uq9ZQoDgesjZQkEROvuZdEEQevlZdkEmezIZr6FJuzGZrEFj950aJ+Hi96jazwJnvFFayAJsfFGa*cJx9FCazcJgPFcaygJr9Fka+EJrPF4aywJm9FIa+ULVPNQbTkMuPSfbokNB9SeboRpeLwNivUtbxQNtPVUbz+ON9XPc5sOLvY*cBsOkvY+cKYPHvb3cQQPfveQcXMQ9PeTcYIQ6veYcY2Q9veZcXwQ79eKci",
    "AR2viAcmwR39itc+gRwvlWczwRv9lcc+ARy9lKczURx9lSczcRvPlLc+6RsfrtdO6TYfs4dOYTSPs0dNYTXfsBdOoTVPrhdNITTPrmdMcTXPrpdNkTWfrldNcTVvs7dMYUb9wHdi2U*9yjdq2VGPzDdrQVLvzOKpTMilH0FrQrLhDOurj5NSPTnrxkNkzVm5*1OVbb5sKMPHLb4sNVPkXcusRaQlDgy6hgQkXg+MhnQkvgxt0yS3LmBt0tS3HmCN12S3XmFt0wS3bmG70xS3DmGN8JSXHog7DzStnqkdQhTgfsldRjTyntpdVFTyrtydabUIDv9tae",
    "UIHvAVIXNdcoUcvwR7fjUlTyINn8V4fyHtn5VEv+Utv+Ve5+W7+wV*+0UO7RWTc22u9eWcc68eN*XW65*eORXW25zeO4XWc61OOCXVs86OWGY1685uWJY1Q9OubcYRc9zujWYsgBNOjeYsEBPOjdYssDhew6ZeYEX8zPZrQFLuzLZrYFMf2DaKEHGP6taRMHif6pb0kK4vFxb22K3vGKa*wK5PGGb2YK6PGDa*MK09Ftb0UK3fGMb1AJ+fG9a*YK2fF*zK0*a*oK39Fsb16K1fNUbU2LtvSkbo+NkPUxb*sN*fXWc6AOOvXVcC6OmfbGcKwPMPbCcK",
    "kPKveocZIQCPeicYgQDfefcYwQE9ejciUQofh6cn2R4fiHd0kS29ltd0MS4flud42S1vmEd0QS5vmKd0cTdvsPdQITdPsIdPYTa9sRzQ5UdQ2Tb9sSdQgTbvsXdPgTefsedPwTevs*dQcTbfscdQUUcPwRdfgUvPxadkUUvfymdowVMvzWdrwVNPzPdv5HEb4vKfXIbrR3LhrMlbj8MqTTortFNl5X*MKRQm9g*6i3QlXh0713S4HmId18S4bmHN16SXro6d8PStvr5tPgTz1vBNanUIzyL7nJVF9+Ydw7VeX+Ytw6Ver*JN+xW321tOOOXYg69eOV",
    "XYE678OPXYU6BeOXXY26AOOUXYNsG3+8AOWTY1k888WaY1o8AuXAYMs9QObkYMk9+ejvYtYBHOjwYtkD48qKZQ+EZewCZrwFMuzTaKQHH955aRcKFvGxb3QKAPGzb3oKC9Gvb2gKDvGib42KCPNbbUILuvSrbpgNlvVXc6IOoPZ6cC2PM9bMcZcQFPf6caIQGff1cZhseLwQFvhDcnMR5viOcnQREfjId2kS7PmSd2oS8vmed2cS99mXdRUTjfsydS6TnvtAdS+Tlft5dSETkvsrdSwTkPswdQoTo9sndQsTp9spdSsTifvwdfoUwvxkdksV6vyOdn",
    "gVCPzEdsMVP9+IJhbMnbR5LijPSLjBMqnTrLtHNl9b8MKWPIPb8ciBQmXh2MmDS5LmLd1NS59o7d8VSgbpVtJOTDLqsNJNTcrshNarURHwS7fnV5TyN7nPV5jyMlT0FtpqVF5+aNzFVuU1te9hXZI6DOOpXYo6CeOsY2o8A8WcY2g89ObnYR+9ledxYtwBX8k2YuQBXOj*ZHMEbOwKZfgEaewGZfQEbuzWZsAHHvHCb52KIfHBb4+KHvH5b4YKIPH6bp+NuvXgc6cOovbKcLkQJffJcbIQJ9fFcaYQIlUXNff9cbAQK9hGcncRAvixcrQRLPn6d4YS",
    "Fvn4d3cSCvn1d3oSDvmqd3ASFPmsdTkTqftUdTgTovtGdToTqPtVdUcTsPtOdTQTzPtLdTsUjfxmdpMVCvyodqAVQv+Ldw9HFLAPMEXOvrboMqrTs8WlNqzY0M83OWHbAMKbPPPcwsiHQn9h3slAS5jmMd8YSu9pWNE3Td1tr7ndV6P+bO9iXZg6G8OvXZo6COOxXZw8C8WoY2w8CubsYNI9Sud++40*YuoBZekBYuYCHOqPZfYFP8zZaRoKOfHLb5sKLvHUbyINnPW0cbQQMPiUcn+R89nId5YSK9nAd4sSIvnLd5cSJ9nEdVkTzvtldUETwvtudU",
    "ITzftXdUwTvftodV2TuftidVITyvtedUsUmfxGdlAUyvy6dnoVE9ytdpQVGvzF+A5Udt6VS9zkdszMqrRDMqvSRMKjPkrcxciJS5zmON1TS61o8tJRTELtrNauURTvjdngVfT*YO9jXaE8E8WtY3M8IukKYvMEdewVZg2EdP6+aRsHmfHhb6YKQPRbbqQNGvT7byUNvPfUcjMRMPnZd6USPfnYd5wSO9u2dVwU1vu3dWQU1Pu0dW6U2Pt*dVsU19wWdnwVHfzqdtMVTbRKPIvbk6iOQnbh5siQS69o9dAgTzXtsNavV6byQtpsVfhvG3z+c7wRVfc1",
    "u87XXaQ6HuP8YNc9UebyYNk9*ukOYvcEfOwaZgEKRfHjb6+KSPHpbqcOSfbVd6YSRfnjdWkU3PuGdW+U4fuHdg6UzPy9dqUVU9zxdtgVULSUS6PyRuWyZRAEff73b7IKU9Hsb7MQO9nqd7ESSPnrdXIU4vxsdmhveJMVf71eS6LyzuPgY3w8FOW*YvwCd8wfZicNIvXpc7IOp9bXcQkQP9fcccUR99uLdXUVI687Qnvo9uPCZgYKWfI0b86QQPfecowU6N8fXakBdvI3d7cUjtPrcckSUfuTS6bmQfwadtwVIP+O"]

/-- The code page 950 changes to Big5, by lead and trail byte. -/
def cp950Data : String :=
  "eKK182UXJW7+KQ720G2leUC1*rwXyW8YbIAPea478XN+Q000*+K00F*W*+6ZuG4WhFdMANY1ahc8prYxO59yfrhw9LGbPYLN9M0bR2LZ9LebQILT9L8bP2LL9LubQYLX9LWbPoLR9LCbPILM9LybQoLY9LabQ2LS9L4bK2Lj9MubS2Ll9PC0"

/-- The code page 949 additions to KS X 1001, by lead and trail byte. -/
def cp949Data : String :=
  String.join [
    "WK4Qh0Ai0wm5h0Qi2wmCh0si3gmFh1Yi7gmVh26i8gmZh2Mi9gmdh2YiAQmgh2kiBgmoh3EiD85X6gmrh3QiDwmwh3kiFQm+h3+iGQn2h4EiHAn5h4QiHwn8h4ciIgnCh4wiJwnGh56iKgnJh5M1WNwiLgnNh5ciMgnRh5siNgnVh62iOQnYh6EiPAnbh6QiPwneh6ciQgnhh6oiRQnkh6+iSgnph7MiTgnvh7kiVAnzh7wiVwo2h8UiYAoDh8wiZwoHh9AiawoLh9QibwoOh9cicgoRh9wiegoZhAIifQochAUigwojhAwiiQoohBEijAorhBQijw",
    "owhBwilwp0hCAimwp5hCQinwp9hCgiowpDhCwipwpGhD6iqgpJhDIirgpOhDcisgpRhDoitQpUhD+iugpZhEMivgpfhEkixQpkhFAizApthFYi+QpwhFki*gp*hG6j0gq3hGMj1wq8hGcj2gqBhGwj4AqIhHE2GHgj5AqLhHQj5wqPhHgj6wqThHwj7wqXhIAj8wqahIMj9gqdhIYjAgqhhIwjBwqmhJ6jCgqpWc4QhJQjDwqvhJgjEwqzhJwjFwr0hK6jGgr3hKQjIArAhKkjJArDhKwjJwrHhLAjKwrLhLQjLuA1VgrPhLgjMwrShLsjNgrVhM2j",
    "OgrahMMjPgrdhMYjQQrghMkjRgrlhN6jSgrthNYjUQrwhNwjWAs3hOIjXQs6hOUjYgsBhOsjZgsFhP6jagsJhPIjbQsMhPUjcAsPhPgjcwsUhP+jeAsXhQAjewsbhQQjfwsehQcjggshhQojhQskhQ+jiAsnhRAjiwsqhRMjjgsuhRcjkgsxhRojlQs+hR+jmgt3hSMjngt7hScjogtBhSojpQtEhS+jqgtKhTMjrgtNhTYjsQtQhTkjtQtUhT+juQtYhUEjvQtchUUjwAtfhUgjwwtihUsjxgtlhV2jyQtohVEjzAtrhVQjzuD16gtwhVkj*Qt+hW",
    "Ak0wu4hWMk1gu7hWgk3AuEhW+k4AuHhXAk4wuLhXQk5wuOhXck6guRhXo3OHgk7QuUhX+k8AuXhYAk8wuahYMk9gudhYYkAQughYkkBAujhYwkBwuohZEkDQushZckEwuyWu5+hZskFgu*haAkHAv7haYkIQvBha+kKQvIhbEkLQvNhbYkMQvQhbkkNgvYhcEkPAvchcUkQgvhhcskRgvlhd6kSgvphdIkTQvshdUkUgv+hd+kWAw1heAkWww6heUkYAw9hegkYwwDhewkZwwGhf6kagwJhfIkbQwMhfUkcAwPhfgkcwwShfskdgwVhg2keQwYhgEk",
    "fAwbhgQkfwwehgckggwhhgokhQwkhg+kiAwnhhAkiwwqhhMkjgwthhYkkQwwhhkklwx1hiAkmwx5hiQknwx8hickogxBhiwkqgxJhjIkrQxMhjUksgxRhjsktgxVhk2kuQxYhkEkvAxbX44QhkQkvwxfhkgkxAxkhk+kyAxnhlAkywxrhlQkzwxvhlgk+wxzhlwk*wy0hm6l0gy3hmIl1OHX6gy6hmcl2gyBhmol3gyFhn6l4gyJhnIl5QyMhnUl6AyPhngl6wyShnsl7gyVho2l8QyYhoE4WNwl9AybhoQl9wyehoclAgyhhowlBwynhpElDQyshp",
    "UlEAyvhpglEwy+hq2lHAz5hqQlHwzAhqklJAzDhqwlJwzHhrAlKwzKhrMlLgzNhrYlMQzQhrklNgzVhs2lOQzYhsElPgzdhsYlQQzghsklRAzjhswlRwzmht6lSgzphtIlTQzshtUlUAzwhtklVAzzhtwlVw+1huAlWw+5huQlXw+9huglYw+ChuslZg+FhvAlaw+KhvQlbw+Ohvclcg+Rhvsldg+Vhw2leQ+YhwElfA+bhwQlfw+ehwclgg+hhwolhQ+khw+liA+nhxAliw+qhxMljg+thxglkw+zhxw5GHgllw*1hyAlmw*4hyMlng*Ahyolpw*G",
    "hz6lqg*JhzMlrg*NhzYlsQ*QhzkltQ*Uhz+luA*XXM4Qh+Aluw*ah+Mlvg*dh+glww*ih+slxg*lh*Alyw*rh*Qlzw*vh*gl+w*yh*sl*g**i0Am0uM1Vh05i0Qm1x08i0cm2h0Bi0sm3h0Fi16m4h0Ji1Mm5h0Ni1Ym6R0Qi1km7h0Vi22m8R0Yi2Em9B0bi2Qm9x0fi2gmAx0ii2smBh0li32mCR0oi3EmDB0ri3QmDx0ui3cmEh0xi3omFR0+i3+mGB11i4AmGx16i4UmIR1Bi4smJx1Gi56mKh1Mi5YmMh1Ri5omNh1Vi62mOR1Yi6EmPB1bi6",
    "QmPx1ei6cmQh1hi6omRR1ki6+mSB1ni7AmSx1qi7MmTh1ti7YmUR1wi7kmVh1*i86mWh23i8MmXh27i8YmYR2Ai8kmZh2Gi9Amax2Ki9Mmbh2Ni9kmdR2UiAEmf8P16h2biAQmfx2giB2mih2siBUmkR2wiBkmlR2+iB+mmB31iCAmmx36iCgmox3CiCsmph3FiDA6OHgmqx3LiDQmrx3PiDgmsx3SiDsmth3ViE6muh3ZiEImvh3diEYmwR3giEkmxB3jiEwmxx3mXe5+iF6myh3piFImzR3siFUm+B3viFgm+x3yiFsm*h3*iG2n0R42iGEn1B45",
    "iGQn1x4AiGsn3h4FiH6n5B4LiHQn5x4QiHwn7x4WiI6n8h4ciIUnAR4giIknBR4kiI+nCB4niJAnCx4siJgnEx4yiJsnFh4*iKAnGx55iKQnHx59iKgnIx5CiKsnJh5FiLAnKx5MiLUnMR5QiLknNR5UiL+nOR5YiMEnPB5biMQnPx5eiMcnQh5hiMonRR5kiM+nSB5niNAnSx5qiNMnTh5tiNgnUx5ziNwnVx61iOEnXB65iOQnXx6AiOonZh6FiP2naR6LiPQnbx6PiPgncx6TXq4QiPwndx6WiQ6neh6ZiQInfR6ciQUngR6giQknhB6jiQwnhx",
    "6miR6nih6piRInjR6siRUnk8TX6h6viRgnkx6yiRsnlh6*iS2nmR72iSEnnB75iSQnnx78iScnoh7BiSsnph7FiT6nqh7JiTM7WNwnrh7NiTYnsR7QiTknth7WiU6nuh7ZiUInvR7ciUUnwh7hiUsnxh7liV6nyh7piVInzR7siVUn+B7wiVon*h7*iW2o0R82iWEo1h87iWco2h8DiWwo3x8GiX6o4h8JiXQo6B8QiXko7B8TiXwo7x8XiYAo8x8aiYMo9h8diYYoAR8giYkoBB8jiYwoBx8miZ6oCh8piZMoDh8tiZYoER8wiZkoFR8+iZ+oGB91",
    "iaAoGx94iaMoHh97iaYoIR9AiakoJB9DiawoJx9Gib6oKh9JibIoLR9MibUoMR9QibkoNR9Uib+oOR9YicEoPB9bicQoPx9gickoRB9jicw8GHgoRx9mid6oSh9pidQoTx9uidcoUh9xidsoVh9*ie2oWRA2ieEoXhA7ieYoYhABieooZRAEY64Qie+oahAJifMobhANifkodBATifwodxAYigIofxAeigcogxAjigwohxAnihAoixArihQojuY1VhAuihcokhAxihoolRA+ih+omBB1iiAomxB4iiMonhB7iigooxBDiiwopxBHijEorBBLijQorx",
    "BQijoothBVik2ouRBZikUowRBgil2oyRBoilQo*BBzilwp0hC3imMp1hC7imcp2hCBimop3RCEim+p4hCMinUp6BCPingp6xCTinwp7xCWio6p8hCZioIp9RCcioUpABCfiogpAxCiiospBhClip2pCRCoipEpDBCripQpDxCuipcpEhCxipopFRC+ip+pGBD1iqApGxD4iqMpHhD7iqYpIRDAiqkpJBDDiqwpJxDGir6pKhDJirUpMRDQirspOBDXisApOub16hDcisYpQhDiisspRxDoitEpTRDsitUpURDwitkpVBDzitwpVxE2iuQpXxE8iucp",
    "YhEBius9OHgpZhEFiv6pahEJivMpbhENivYpcREQivkpdBETivwpdxEYiwEpfBEbiwQpfxEfiwgpgxEjYO5+iwwphxEmix6pihEpixIpjREsixUpkBEvixgpkxEyixsplhE*iy2pmRF2iyEpnhF7iycpohFDiy+pqRFIizEprhFOizgptBFUiz+puRFYi+EpvRFci+UpwRFgi+kpxBFji+wpxxFmi*6pyhFpi*IpzRFsi*Up+BFvi*gp+xFzi*wp*xG0j06q0hG3j0Iq1RG6j0Uq2BG9j0gq2xGCj0sq3hGFj16q4hGJj1Iq5RGMj1Uq6RGQj1kq7R",
    "GUj1+q8RGYj2Eq9BGbj2Qq9xGgj2oqBRGkj2+qCBGnj3AqCxGrj3QqDxGuj3cqEhGxj3oqFRG+j3+qGBH1j4AqGxH4Ya4Qj4MqHhH7j4YqIRHAj4kqJBHDj4wqJxHIj5EqLRHMj5UqMRHQj5kqNBHTj5wqNxHYj6IqPefX6hHdj6YqQRHgj6kqRRHkj6+qSBHnj7AqSxHqj7MqThHtj7YqURHwj7kqVBHzj7wqVxI1j8AAWNwqWxI4j8MqXhI7j8cqYhIBj8oqZRIEj8+qaBIHj9AqaxIKj9MqbhINj9YqcRIQj9kqdBIUj9+qeBIXjAAqexIbjAQq",
    "fxIfjAgqgxIjjAwqhxImjB6qihIpjBIqjhIujBgqkxIyjBsqlhI*jC6qmhJ3jCMqnhJ7jCcqohJBjCoqpRJEjC+qqRJIjDEqrBJMjDUqsBJPjDgqsxJUjD+quRJYjEMqvxJejEcqwhJhjEwqyBJojFEqzBJrjFQqzxJvjFgq+xJyjFsq*hJ*jG2r0RK2jGEr1BK5jGQr1xK8jGcr2hKBjGor3RKEjG+r4BKHjHAr4xKMjHUr6RKQjHsBGHgr7hKVjI2r8RKYjIEr9hKhjIorBRKkjI+rChKpjJMrDhKtjJcrEhKxjJorFRK+jJ+rGhL6Ys4QjKUrIB",
    "L9jKgrJhLFjL6rKhLJjLMrLhLNjLYrMRLQjLkrNhLYjMErPBLbjMQrPxLejMcrQek1VhLhjMorRRLkjM+rSBLnjNArSxLqjNMrThLtjNYrURLwjNkrVBLzjNwrVxM0jO6rWhM3jOIrXRM6jOUrYBM9jOgrYxMCjOsrZhMFjP2raRMIjPErbBMLjPQrbxMOjPcrchMRjPordRMUjP+rehMZjQMrfhMdjQcrhBMjjQwrhxMojRQrjxMujRcrkhM+jR+rmRN2jSErnRN6jSUroBN9jSgroxNEjTArqxNKjTMrrhNNjTcrshNRjTortRNUjT+ruBNXjUAr",
    "uxNajUMrvhNdjUYrwRNgjUkrxRNkjU+ryBNnjVAryxNqjVMrzhNtjVYr+RNwjVkr*BNzjVwr*un16hO0jW6s0hO3jWIs1RO6jWUs2BO9jWgs2xOCjWss3hOFjXAs4xOLjXQs5xOPjXgs6xOSjXsCOHgs7hOVjY2s8ROYjYEs9BOcjYUsABOfjYgsAxOjjYwsBxOmjZ6sChOpjZMsDhOtjZYsEROwZ85+jZksFBOzjZwsFxP0ja6sGhP3jaIsHRP6jaUsIRPAjaksJBPDjawsJxPGjb6sKhPJjbIsLRPMjbUsMBPPjbgsMxPSjbssNhPVjc2sORPYjc",
    "EsPRPcjcUsQRPgjcksRBPjjcwsRxPmjd6sShPpjdIsTRPsjdUsUBPvjdgsUxPyjdssVhP*je2sWRQ2jeEsXBQ5jeQsXxQ8jecsYhQBjeosZRQEje+saBQHjfAsaxQKjfMsbhQNjfYscRQQjfksdhQVjg6sehQZjgMsfhQdjgYsgRQgjgsshhQljh2sihQpjhIsjRQsjhUskBQvjhgskxQyjhsslhQ*ji2smRR2ZK4QjiEsnBR5jiQsnxR8jicsohRBjiospRREji+sqBRHjjAsqxRLjjQsrxROjjcsshRRjjostOrX6hRUjj+suBRXjkAsuxRajkMs",
    "vhRdjkYswRRgjkksxBRjjkwsxxRnjlAsyxRrjlQszxRvjlgDWNws+xRyjlss*hR*jmAt0xS4jmQt1xS8jmct2hSBjmot3RSEjm+t4BSHjnAt4xSKjnMt5hSNjnYt6RSQjnkt7BSTjnwt7xSWjo6t8hSZjoIt9RScjoUtAhShjostBhSnjpAtCxSqjpMtDhStjpgtFBSzjpwtFxT0jq6tGhT3jqMtHhT7jqctIhTBjqstJhTFjr2tKRTIjrEtLhTNjrYtMRTQjrktNBTTjrwtNxTXjsAtOxTbjsQtPxTfjsgtQxTijsstRhTljtAtTBTsjtUtUBTvjt",
    "gtUxT+jt+tWRU2juEtXRU6juUtYBU9jugtYxUEjvEtbBULjvgtcxUTjvwEGHgtdxUXjwAtexUajwMtfhUdjwgthhUljx2tiRUojxEtjhUtjxctkhUxjxotlRU+jx+tmBV1Zc4QjyAtmxV4jyMtnhV8jygtoxVCjystphVFjz2tqRVIjzEtrBVLjzQtrxVOjzctshVRjzottOw1VhVUjz+tuBVXj+AtuxVaj+MtvhVdj+YtwRVgj+ktxhVlj*6tyhVpj*MtzhVtj*Yt+RVwj*kt*hW2k0Eu1BW5k0Qu2hWBk0su3hWFk16u4hWJk1Iu5RWMk1Uu6hWS",
    "k1wu7xWWk26u8hWZk2Qu9xWfk2guAxWjk2wuBxWmk36uChWpk3QuEhWxk3ouFRW+k3+uGRX2k4EuHRX6k4UuIBX9k4guIxXCk4suJhXFk52uKhXKk5MuLhXNk5YuMRXQk5kuNhXVk66uOhXZk6MuPhXdk6YuQRXgk6kuRhXmk7AuSxXqk7MuThXtk7cuUhXxk7suVhX*k82uWRY2k8EuX8z16hY5k8QuXxY8k8cuYhYBk8ouZhYFk92uaRYIk9EubBYLk9QubxYOk9cuchYRk9oudRYUk9+FOHgueBYXkAAuexYakAMufhYdkAcughYhkAouhRYkkA",
    "+uiRYokBEujRYskBUukRYwkBkulBYzZu5+kBwulxZ2kCIunhZ7kCYuoRZAkCkupRZEkC+uqRZIkDEurRZMkDUusBZPkDgusxZSkDwuuBZYkEEuvBZbkEQuvxZgkEkuxRZkkE+uyRZokFEuzBZrkFQuzxZwkFou*hZ*kG2v0Ra2kGEv1Ra6kGUv2Ba9kGgv2xaCkGsv3haFkH2v4RaIkHEv5BaLkHQv5xaPkHgv6xaSkHsv7haVkI6v8haZkIIv9RackIUvABafkIgvAxaikIsvBhalkJ2vCRaokJEvDBarkJQvDxaukJcvEhaxkJwvFxb1kKAvGxb5",
    "kKQvHxb8kKcvIhbBkKsvJhbGkLAvKxbKkLMvLhbNa44QkLgvMxbTkLwvNxbXkMAvOxbakMMvPhbdkMgvRBbkkM+vSBbnkNAvSxbskNUvURbwkNkvVP1X6hb+kN+vWBc1kOAvWxc6kOYvYxcCkO+vaBcHkPAvaxcKkPMvbhcNkPYvcRcQkPkvdBcTkPwGWNwvdxcWkQ6vehcZkQIvfRcckQUvgBcfkQgvgxckkQ+viRcokREvjRcskRUvkBcvkRgvkxc+kS2vmhd3kSIvnRd6kSUvohdBkSsvqxdKkTMvrhdNkTgvtBdVkU2vuhdckUUvwRdgkUkvxR",
    "dkkU+vyBdnkVAvyxdskVkv*BdzkVwv*xe2kWEw1Be5kWQw1xe9kWgw2xeCkWsw3heFkX2w4ReIkXEw5BeMkXUw6BePkXgw6xeSkXsw7heVkY2w8ReYkYEw9BebkYQw9xeekYcwAhehkYowBRekkY+wCBenkZAwCxeqkZMwDhetkZgwExezkZwwFxf1kaEwHBf5kaQHGHgwHxfAkaowJxfGkb6wKhfMkbUwMRfQkbkwNRfUkb+wOBfXkcAwOxfckcgwQxfikcswRhflaM4QkdAwSxfrkdQwTxfvkdgwUxfykdswVhf*ke2wWRg2keQwYBg9kegwYxgD",
    "kewwZxgGkf6waf61VhgJkfIwbRgMkfUwcBgPkfgwcxgSkfswdhgVkg2weRgYkgEwfBgbkgQwfxggkgswhhglkh6wixgqkhMwjhgtkhgwlBg+kh+wmBh1kiAwmxh5kiQwnxh9kigwoxhCkiswphhFkj2wqRhIkjEwrBhLkjQwrxhQkjkwtBhTkjwwtxhWkk6wuhhZkkIwvRhckkUwwBhfkkgwwxhikkswxhhlkl2wyRhoklEwzBhrklQwzxhuklcw+hhxklsw*hh*km6x0hi3kmMx1hi7kmYx2RiAkmkx3BiEkn2x4hiJknIx5RiMknUx6RiQknkx7R",
    "iUkn+x8RiYkoEx9BibkoQx9v916hiekogxBBijkowxBximkp6xChipkpUxERiwkp+xGBj1kqAxGxj6kqYxIhjBkqoxJhjHkrAIOHgxKxjLkrQxLxjPkrgxMxjSkrsxNhjVks2xOhjaksMxPhjdksYxQRjgkskxRRjkks+xSBjnae5+ktAxSxjqktMxThjtktYxURjwktkxVBjzktwxVxk0ku6xWhk3kuIxXRk6kuUxYRkAkukxZRkEku+xaRkIkvExbBkLkvQxbxkOkvcxchkRkvoxdRkUkv+xeBkXkwAxexkbkwQxfxkfkwgxgxkjkwwxhxkmkx6x",
    "ihkpkxMxjhkukxcxkhkxkxoxlRk+kx+xmRl2kyExnRl6kyUxoRlAkykxpBlDkywxpxlHkzAxrBlLkzQxrxlOkzcxshlRkzoxtRlUkz+xuBlXk+Axuxlak+Mxvhldk+YxwRlgk+kxxBljk+wxxxlmk*6xyhlpk*IxzRlsk*Ux+hlxk*sx*hm1aq4Ql0Ey1Bm5l0Qy1xmAl0wy4BmIl1Ey6RmQl22y8RmYl2Ey9hmel2gyAxmil2wyBxmol3EyDPDX6hmsl3UyERmwl3kyFBmzl3wyFxn2l4QyHxn8l4gyIxnEl4+yKRnIl5EyLBnLl5QyLxnOl5cJWN",
    "wyMhnRl5oyNhnVl62yORnYl6EyPBnbl6QyPxnel6cyQhnhl6oyRRnkl6+ySBnnl7AySxnql7MyThntl7YyURnwl7kyVBnzl7wyVxo0l86yWho3l8QyXxo9l8gyZRoFl92yaRoIl9EybhoOl9kydBoTl9wydxoYlAEyfRoclAcyghohlAoyhRoklA+yihoslBUykBovlBgykxo+lB+ymRp2lCEynRp6lCUyoBp9lCgyoxpClCwyqhpJlDIyrhpNlDcyshpRlDsythpVlE2yuRpYlEEyvBpblEQyvxpelEcywhphlEoyxRpklE+yyBpnlFAyyxptlFcy",
    "+hpxlFsKGHgy*hp*lG2z0Rq2lGEz1hq8lGgz2xqClGsz3hqFlH6z4hqJlHMz5hqNlHYz6RqQlHkz7BqTb64QlHwz7xqWlI6z8hqZlIMz9hqdlIYzARqglIkzBRqklI+zCBqnlJAzCxqqlJMzDhqtlJYzEPI1VhqwlJkzFBqzlJwzFxr1lKAzGxr4lKMzHhr7lKgzIxrDlKwzJxrHlLAzKxrKlLMzLhrNlLgzMxrSlLszNhrVlM2zORrYlMEzPRrclMUzQRrglMkzRBrjlMwzRxrmlN6zShrplNIzTRrslNUzUBrvlNgzUxrylNszVhr*lOAzWxs5lO",
    "QzYxsClOszZhsFlPAzbBsMlPUzcBsRlPszdhsVlQ2zeRsYlQEzfRsclQUzgBsflQgzgxsilQszhhsllR6zihsplRIzjRsslRUzkRswlRkzlBszlRwzlxt0lS6zmht3lSIznRt6lSUzoBt9lSgzoxtClSszphtFlT2zqPL16htIlTEzrhtNlTczshtRlTszthtVlU2zuRtYlUEzvBtblUQzvxtelUgzwxtilUszxhtllV6LOHgzyhtplVMzzhttlVcz+htxlVoz*Rt+lV++0Ru2lWI+1hu7lWY+2RuAlWk+3huFlX6+4huJbO5+lXM+5huNlXY+6RuQ",
    "lXk+7huWlY6+8huZlYI+9RuclYU+ABuflYg+AxuilYs+BhullZ2+CRuolZE+DBurlZQ+DxuulZc+EhuxlZo+FRu+lZ++GBv1laA+Gxv6laU+IRvAlak+JRvFlb2+KRvIlbE+LhvOlbo+NRvUlb++OhvZlcM+Phvdlcc+Qxvilcs+RhvlldA+ThvtldY+URvwldw+Vxw1leA+Wxw5leQ+Xxw8lec+YhwBlew+ahwJlfI+bRwMlfU+chwRlfo+dRwUlf++eBwXlgA+exwalgM+fhwdlgc+ghwhlgo+hRwklg++iBwnlhA+ixwqlhM+jhwtba4QlhY+kR",
    "wwlhk+lBwzlhw+lxx0li6+mhx3liI+nRx6liU+oBx9lig+oxxClis+phxFljA+qvPX6hxLljQ+sRxQljk+tBxTljw+txxXlkA+vhxdlkY+wRxglkk+xRxklk++yBxnllA+yxxqllMMWNw+zhxtllY++Rxwllk+*Bxzllw+*xy0lmA*0xy4lmM*1hy7lmg*2xyClms*3hyFln2*4RyIlnE*5ByLlnQ*5xyQlnw*7xyWlo6*8hyZloI*9RycloU*AByflog*Axyilos*Bhyllp2*CRyolpE*DByrlpQ*Dxyulpc*Ehyxlpo*FRy+lp+*Ghz3lqM*Hhz7",
    "lqc*IhzBlqo*JRzElq+*KhzJlrI*LhzNlrY*MRzQlrk*NBzTlrw*NxzWls6*OhzZlsI*PRzclsU*QBzflsg*Qxzilss*Rhzllt2*SRzoltE*TBzrltQ*Txzultc*Uhzxlto*VRz+lt+*WB+1luANGHg*Wx+4luM*Xh+7luY*YR+Aluk*ZB+Dluw*Zx+Glv6*ah+JlvM*bh+NlvY*cR+Qlvk*dB+Tbs4Qlvw*dx+Wlw6*eh+ZlwI*fR+clwU*gB+flwg*gx+ilws*hh+llx6*ih+plxI*jR+slxU*k9U1Vh+vlxg*kx+ylxs*lh+*ly2*mR*2lyE*nB",
    "*6lyU*oB*9lyg*ox*Ely+*qR*IlzE*rR*MlzU*sB*Plzg*sx*Tlzw*uB*Yl+E*vB*bl+Q*vx*el+c*wh*hl+o*xR*kl++*yB*nl*A*yx*ql*M*zh*tl*Y*+R*wl*k**B*zl*w**y00m0700i03m0J01S06m0V02C09m0h02y0Cm0t03i0Fm1304S0Im1F05C0Lm1R05y0Om1d06i0Rm1p07S0Um1*08C0Xm2B08y0am2N09i0dm2Z0AS0gm2l0BC0jm2x0By0mm370Ci0pm3J0DS0sm3V0EC0vm3h0Ey0zm3x0FvX16i10m470Gi13m4J0HS16m4V0",
    "IC19m4h0Iy1Cm4t0Ji1Fm530Ki1Jm5J0LS1Mm5V0MS1Qm5kOOHh0NS1Um5*0OS1Ym6F0PC1bm6R0Py1gm6l0RC1jm6x0Ry1mm770Si1pm7J0TS1sm7V0UC1vc85+m7h0Uy1ym7t0Vi1*m830WS22m8F0XC25m8R0Xy28m8d0Yi2Bm8p0ZS2Em8*0ai2Jm9N0bi2Nm9d0ci2Rm9p0dS2Um9*0ei2amAR0fy2emAd0gi2hmAx0iS2omBV0kC2vmBh0ky2+mCB0my34mCR0ny3AmCl0pS3EmC*0qS3ImDF0rC3LmDR0ry3QmDx0ty3WmE70ui3ZmER0vy",
    "3fmEh0wy3jmEx0xy3mmF70yi3pmFR0+C3wmFl0*C3zmFx0*y41mGB10y45mGR11y49mGh12y4CmGt13i4FmH714i4JmHJ15i4NmHZ16S4QmHl18S4YmIN1AC4fmIh1Ay4kcK4QmJB1Cy4qmJN1Dy4wmJl1FS4+mJ*1GS52mKF1HC55mKR1Hy5AmKx1Jy5GmL71Ki5JmLR1LvbX6i5PmLh1My5TmLx1Ny5WmM71Oi5ZmMR1Qi5hmMp1RS5kmM*1SS5omNF1TS5smNV1US5wmNkPWNx1VC5zmNx1Vy60mO71Wi63mOJ1Xi67mOZ1YS6AmOl1Zy6HmPB1",
    "ay6LmPV1cC6PmPh1cy6UmQ31ei6ZmQJ1fi6dmQh1gy6jmQx1hy6nmRB1iy6qmRN1ji6tmRZ1kS6wmRl1lC6+mR*1mC71mSB1my75mSR1ny79mSh1oy7DmSx1py7GmT71qi7JmTN1ri7PmTh1sy7SmTt1ti7VmU71ui7ZmUN1vi7dmUd1wi7hmUp1xS7kmU*1yi7qmVN1zi7tmVZ1+S7wmVl1*i7*mW720i83mWN21i87mWZ22S8AmWl23i8GmXB24y8KmXN25i8NmXh26y8TmXx28S8YmYEQGHh29C8bmYR29y8gmYp2Bi8mmZF2DS8smZV2EC8vmZ",
    "h2Ey8ymZt2Fi8*ma32GS92maF2HC95cc4QmaR2Hy99mah2Iy9Cmat2Ji9FmbB2Ky9LmbR2Ly9Pmbh2My9Smbt2Ni9Vmc72Oi9ZmcJ2Pfg1Vi9dmcZ2QS9gmcl2Ri9lmd72Si9pmdN2Ti9tmdZ2US9wmdl2ViA0meB2WyA4meN2XiA7meh2YyACmet2ZiAFmf72aiAJmfJ2bSAMmfV2cSAQmfp2diAVmg32eSAYmgF2fiAdmgd2giAhmgx2hyAmmh72iiApmhR2kCAwmhl2lCAzmhx2lyB0mi72miB3miJ2nSB6miV2oCB9mih2oyBCmit2piBFmj32",
    "qSBImjF2rCBLmjR2ryBOmjd2siBRmjx2tyBXmkB2vSBcmkV2wCBfmkh2xiBmmlB2yyBqmlN2zyBwmlt2*iB*mm730iC3mmJ31SC6mmV32iCBmmx33vj16iCGmn734iCMmnV36SCQmnl37SCUmn*38CCXmoB38yCcmoV3AiChmop3BSCkmo*3CCCnmpAROHh3CyCqmpN3DiCtmpZ3ESCwmpl3FCCzmpx3FyD0mq73GiD3mqJ3HiD7mqZ3ISDAmql3JCDDcu5+mqx3JyDGmr73KiDJmrJ3LSDMmrV3MCDPmrh3MyDSmrt3NiDVms33OSDYmsF3PCDbms",
    "R3PyDgmsl3RSDkms*3SSDpmtJ3TSDsmtV3UiDxmtx3VyE0mu73WiE3muN3XiE7mud3YiEBmut3ZiEFmv33aSEImvF3bCELmvR3byEOmvd3ciERmvp3dSEUmv*3eCEXmwB3eyEamwN3fiEdmwZ3gSEgmwl3hCEjmwx3hyEmmx73iiEpmxJ3jSEsmxV3kCEvmxh3kyEymxt3liE*my73miF3myJ3nSF6myV3oCF9myh3oyFCmyt3piFFmz33qSFImzF3rCFLmzR3ryFQd44Qmzl3tSFUm+73uyFam+N3viFdm+h3wyFim+x3xyFmm*73yiFpm*R3zyFv",
    "m*h3+yFym*t3*fnX6iF*n0340SG2n0F41CG5n0R41yG9n0h42yGCn0t43iGFn1744iGJn1J45SGMn1V46CGPn1gSWNx46yGSn1t47iGVn2348SGYn2F49SGcn2V4ACGfn2h4AyGjn2x4ByGnn3B4CyGrn3R4DyGun3d4EiGxn3x4FyH0n474GiH3n4J4HSH6n4V4ISHAn4l4JCHDn4x4JyHGn574KiHJn5J4LSHMn5V4MCHPn5h4MyHSn5t4NiHVn634OSHYn6F4PiHdn6d4QiHhn6t4RiHln734SSHon7F4TiHtn7Z4UiHxn7p4VSH+n7*4WSI2n8",
    "F4XCI5n8R4XyI8n8d4YiIBn8p4ZSIEn8*4aCIHn9B4ayILn9R4byIOn9d4ciIRn9t4diIVnA34eSIYnAF4fCIbnAR4fyIenAcTGHh4giIhnAp4hSIknA*4iCInnBB4iyIqnBN4jiItnBd4kiIxnBt4liI*nC34mSJ2nCF4nCJ5dM4QnCR4nyJ8nCd4oiJBnCp4pSJEnC*4qCJHnDB4qyJKnDN4riJNnDZ4sSJQnDl4tCJTnDx4tvs1ViJWnE74uiJZnEJ4vSJcnEV4wCJgnEl4xCJjnEx4xyJonFF4zSJsnFV4+SJxnFp4*SJ+nGB50yK4nGN51iK7",
    "nGZ52SKAnGl53SKEnG*54SKInHF55SKMnHV56CKPnHh56yKTnHx57yKWnI758iKZnIJ59SKcnIV5AiKhnIt5BiKlnJ75CiKpnJJ5DSKsnJV5EiKynJx5FyL0nK75GiL3nKR5HyLBnK*5KCLHnLB5LiLQnLl5NCLVnMB5OyLbnMR5PyLfnMh5QyLinMt5RiLlnNB5TiLtnNZ5USLwnNl5ViL*nO75WiM3nON5XiM8nOd5YiMBnOx5aCMInPF5b9v16iMMnPd5ciMRnPt5diMVnQ75eiMZnQJ5fSMcnQV5gCMgnQl5hCMjnQx5hyMmnR75iiMpnRQUOH",
    "h5jyMwnR*5mCN1nSB5myNBnSt5pyNInTF5rSNMnTV5sSNQnTl5tCNTnTx5tyNYnUJ5viNdde5+nUZ5wSNgnUl5xyNnnVB5yyNrnVZ5+SNwnVl60iO3nWJ62SOAnWl63SOEnW*64SOInXF65COLnXR65yOQnXt67iOVnY368SOYnYF69iOdnYd6AiOhnY*6CSOonZR6ECOwnZp6FSO+nZ*6GiP3naN6HiP7nad6IiPBnap6JSPEna*6KiPMnbV6MCPPnbh6MyPUnb*6OSPYncF6PCPbncR6PyPencd6QiPhnct6RiPmndB6SyPqndN6TiPtndh6UyPz",
    "ndx6VyQ1neB6WyQ4neN6XiQ7neh6ZCQEne*6aCQHnfB6ayQMnfV6cSQQnfl6dSQUnf*6eCQXngB6eyQcdq4QngZ6giQhngp6hSQkng*6iiQpnhN6jiQtnhl6lCQznhx6lyR2niJ6niR7niZ6oSRAnil6pfzX6iRFnj76qiRJnjN6riRNnjZ6sSRQnjl6tiRVnkB6uyRankN6viRdnkh6wyRjnkx6xyRnnlAVWNx6yyRqnlN6ziRtnlh6+yRynlx6*yS0nm770iS3nmR71yS9nmh72ySDnmx73ySGnn774iSJnnR76CSQnnl77CSTnnx77ySYnoF79S",
    "ScnoV7ASSgnol7BCSjnox7BySonpJ7DiSunpd7EiSxnpx7FyT1nqB7GyT5nqR7HyT8nqd7IyTEnr37MSTQnrl7NSTUnr*7OSTYnsF7PCTbnsR7PyTfnsh7RCTjnsx7RyTmnt77SiTpntR7TyTvnth7UyT*nu37WSU2nuR7YyUCnut7ZyUInvF7bSUPnvl7dCUTnvx7dyUYnwV7gCUfnwh7gyUknw*7iSUonxF7jSUsnxUWGHh7kCUvnxh7kyU+nyB7myV4nyN7niV7nyh7oyVDny*7qSVInzF7rCVLnzR7ryVPnzh7syVSe64Qnzx7tyVWn+77uiVZ",
    "n+N7viVdn+d7wiVhn+t7xiVln*37ySVon*F7zCVrn*R7zyVun*d7+g21ViVxn*p7*SV+n**80iW3o0N81iW7o0d82yWCo0t83iWFo1B85CWNo1Z86SWQo1l87iWVo2788iWZo2N89iWdo2Z8ASWgo2l8BiWmo3B8CyWqo3N8DiWto3d8EiWxo3t8FiW*o478GiX3o4J8HSX6o4V8IiXBo4x8JyXGo578KiXJo5N8LiXNo5Z8MSXQo5l8NCXTo5x8NyXWo678OiXZo6J8PSXco6V8QCXfo6h8QyXio6t8RiXlo7B8SyXro7R8TyXvo7l8VCXzo7x8Vy",
    "Y2o8J8YCY9o8h8ZiYFo938aSYIo9F8bSYMo9V8cCYPo9h8cyYSo9x8eCYYoAF8fA516iYboAR8fyYfoAh8gyYioAt8hiYloB38iSYooBF8jCYroBR8jyYuoBd8kiYxoBx8lyZ0oC6XOHh8miZ3oCN8niZ7oCd8oiZBoCt8piZFoD38qSZIoDF8riZOoDh8syZSoDt8tiZVoEB8uyZbeO4WoER8vyZeoEd8wiZhoEp8xSZkoE*8yCZnoFB8yyZqoFR8zyZuoFd8+iZxoFx8*ya1oGB90ya7oGZ92SaAoGl93g916iaGoHB94yaKoHN95iaNoHd96iaR",
    "oHp97SaUoH*98CaXoIB98yaaoIN99iadoIZ9ASagoIkYOHh9BSakoI*9CCanoJB9CyaroJR9DyauoJd9EiaxoJp9FSa+oJ*9GCb1oKB9Gyb4oKN9Hib7ee4WoKZ9ISbAoKl9JCbDoKx9JybIoLF9LSbMoLV9MSbQoLl9NCbToLx9NybYoMJ9PSbcoMV9QCbfoMh9QybjoMx9RwD16ibnoNB9SybroNR9TybuoNd9UibxoNt9Vib*oO39WSc2oOF9XCc5oOR9XycAoOl9ZScEoO+ZOHh9aScIoPF9bCcLoPR9bycQoPp9dicVoQ39eScYoQF9fCcboQ",
    "R9fyceoQd9gichoQp9hSckeu4WoQ*9iCcnoRB9iycqoRN9jictoRZ9kScwoRl9lCczoRx9lyd2oSF9nSd6oSd9oydCoSt9pidFoTB9rCdNoTZ9swH16idUoT*9uSdZoUN9videoUd9widhoUx9yidpoVJ9zSdsoVV9+idxoVt9*id*oW7A0ie3oWIaOHhA1Se6oWVA2ieEoW*A4CeHoXBA4yeLoXRA5yePoXhA6yeSoXtA7ieVoY3A8SeYoYFA9Cebf84WoYRA9yeeoYhAAyeioYtABieloZ3ACSeooZFADCeroZRADyeuoZdAEiexoZpAFSe+oZ*A",
    "GCf1oaBAGyf4oaNAHgL16if7oaZAISfAoalAJifFob7AKifJobNALifNobZAMSfQoblANifYocFAPCfbocRAPyffocgbOHhAQyfioctARiflod3ASSfoodFATCfrodRATyfuoddAUifxodpAVif*oe3AWSg2oeFAXSg6fO4WoeVAYCg9oehAYygCoetAZigFof3AaSgIofFAbCgLofRAbygPofhAcygSoftAdigVog3AeSgYogFAfCgbogRAfwP16igeogdAgighogpAhSgkog*AiCgnohBAiygqohNAjigtohZAkSgwohlAlig*oi7Amih3oiMcOH",
    "hAnih7oiZAoShAoilApihGojBArChLojRAryhQojlAtChTojxAtyhXokBAuyhaokNAvihdfe4WokZAwShgoklAxShkok*AyChnolBAyyhrolRAzyhuoldA+ihxolpA*Sh+ol*B0Ci1omBB0yi4omNB1ii7omdB2gT16iiBompB3SiEom*B4SiIonFB5SiMonVB6SiQonlB7CiTonxB7yiYooFB9CibooRB9yieoocdOHhBAiihoopBBSikoo*BCCinopBBCyiqopNBDiitopZBESiwoplBFCizopxBFyj0oqBBGyj4fu4WoqNBHij7oqhBIyjDoqxB",
    "JyjHorBBKyjKorNBLijNorhBMyjSorxBNyjWos7BOijZosNBPijdosZBQSjgoslBRAX16ijjosxBRyjmot7BSijpotJBTSjsotVBUijxotpBVSj+ot*BWCk1ouBBWyk4ouNBXik7ouYeOHhBYSkAoulBZCkDouxBZykGov7BaikJovJBbSkMovVBcCkPovhBcykTovxBdykWow7BeikZg84WowJBfSkcowVBgCkfowhBgykiowtBhiklox3BiSkooxFBjCkroxRBjykvoxhBkykyoxtBlik*oy3BmSl2oyFBnAb16il5oyRBnyl8oydBoilBoypBpS",
    "lEoy*BqClHozBBqylLozRBrylOozdBsilRozpBtSlUoz+fOHhBuClXo+BBuylbo+RBwClgo+lBxCljo+xBxylmo*7Byilpo*JBzSlso*VB+Clvo*hB+ylygO4Wo*tB*il*p03C0Sm2p0FC1Cm5p0RC1ym8p0dC2imBp0xC3ymHp1BC4ymLp1RC5ymOp1dC6imRp1xC7ymWp2FC9Af16imbp2RCAimhp2tCBymnp3BCCymqp3NCDimtp3hCFyn0p47CGin3p4RCHyn9p4hCIynDp4wgOHhCJynGp57CKinJp5RCMinRp5pCNSnUp5*COSnYp6FCPSnd",
    "p6dCQinhp6pCRSnkp6*CSSnoge4Wp7FCTCnsp7VCUCnvp7hCUynyp7tCVin*p83CWSo2p8FCXCo5p8RCXyo8p8dCYioBp8pCZSoEp8*CaCoHp9BCawj16ioKp9NCbioNp9hCcyoTp9xCdyoXpABCeyoapANCfiodpAhChiolpB3CiSoopBFCjiotpBchOHhCkioxpBtClio*pC3CmSp2pCFCnip8pChCoypCpCtCpipFpD7CqipJpDNCripNpDZCsSpQgu4WpDlCtCpTpDxCtypWpE7CuipZpENCvipdpEZCwSpgpElCxSpkpE*CySpopFFCzCprpF",
    "RCzypupFdC+ipxpFpC*Qn16ip+pF*D0Cq2pGFD1Cq5pGRD1yqApGlD3SqEpG*D4SqIpHFD5CqLpHRD5yqQpHpD7iqVpI2iOHhD8SqYpIFD9SqcpIVDASqgpIlDBSqkpI*DCCqnpJBDCyqqpJNDDiqtpJZDEiqxpJpDFSq+h84WpJ*DGCr1pKBDGyr4pKNDHir7pKZDISrApKlDJCrDpKxDJyrGpL7DKirJpLJDLSrMpLVDMCrPpLhDMyrTpLxDNwr16irXpMBDOyrbpMRDPyrepMdDQirhpMxDSCropNFDTCrrpNRDTyrvpNhDUyrypNtDVir*pO2j",
    "OHhDWSs2pOFDXCs5pORDXys9pOhDYysCpOtDZisFpP3DaSsIpPFDbisNpPdDcisRpPtDdisVhO4WpQ3DeSsYpQFDfisepQhDgysipQtDhislpR7DiisppRJDjSsspRVDkCsvpRhDkysypRtDlis*pS3DmSt2pSFDnQv16it6pSVDoCt9pShDoytDpSxDpytHpTBDqytKpTNDritNpTZDsStQpTlDtCtTpTxDtytWpU6kOHhDuitZpUJDvStcpUVDwStgpUlDxStkpU*DyStopVFDzCtrpVRDzytwpVpD*it*pW3E0Su2he4WpWFE1Su6pWVE2SuApW",
    "lE3SuEpW*E4CuHpXBE4yuLpXRE5yuOpXhE6yuSpXtE7iuVpYBE8yubpYRE9yufpYhEAwz16iuipYtEBiulpZBEDCuspZVEECuvpZhEEyuypZtEFiu*pa3EGSv2paFEHCv5paREHyv8paclOHhEIivBpapEJSvEpa*EKCvHpbBEKyvKpbNELivNpbhEMyvTpbxEOivZpcJEPSvcpcVEQivihu4WpcxERyvmpd7ESivppdRETyvvpdhEUyvzpdxEVyw0pe7EWiw3peREYCwApelEZCwDpexEZywIpfFEbSwMpfVEcR116iwQpflEdCwTpfxEdywYpgRE",
    "fywepgdEgiwhpgxEhywmph7EiiwpphJEjSwsphVEkCwvphgmOHhEkywyphtEliw*pi3Emix3piJEnSx6piVEoCx9pihEoyxCpitEpixFpj3EqSxIpjFErCxLi84WpjREryxOpjdEsixRpjpEtSxUpj*EuCxXpkBEuyxcpkVEwSxgpktExixlpl3EySxoplFEzixwpllE*CxzplxE*x516iy2pmFF1Sy6pmVF2SyApmlF3CyDpmxF3yyIpnJF5iyNpnZF6SyQpnlF7SyUpn*F8SyYpoEnOHhF9SycpoVFACyfpohFAyykppBFCyyqppNFDiytppdFEi",
    "yxpppFFSy+pp*FGCz1pqBFGyz4iO4WpqNFHiz7pqZFISzApqlFJCzDpqxFJyzGpr7FKizJprRFLyzPprhFMyzTprxFNyzWps7FOizZpsRFQCzgpslFRB916izjpsxFRyzoptFFTSzsptVFUSzwptlFVCzzptxFVy+1puBFWy+4puRFXy+8pudFYi+BpusoOHhFZi+Fpv3FaS+IpvFFbC+LpvRFby+OpvdFci+RpvpFdS+Upv*FeC+YpwFFfC+bpwRFfy+fie4WpwhFgy+ipwtFhi+lpx7Fii+ppxJFjS+spxVFkC+vpxhFky+ypxtFli+*py3FmS*2",
    "pyFFnS*6pyVFoC*9pyhFoxD16i*CpytFpi*Fpz3FqS*IpzFFrC*LpzRFry*OpzdFsi*RpzpFtS*Upz*Fui*Zp+NFvi*dp+cpOHhFwi*hp+pFxS*kp+*Fyi*qp*RFzy*up*dF+i*xp*tF*i**q07G0j03q0NG1j07q0ZG2T0Aiu4Wq0lG3D0Dq0xG3z0Gq1BG4z0Kq1NG5j0Nq1dG6j0Rq1pG7T0Uq1*G8D0Xq2BG8z0aq2NG9j0dq2ZGAT0gq2lGBBH16j0kq2*GCD0nq3BGCz0sq3VGET0wq3lGFT0+q3*GGD11q4BGGz16q4ZGIj1Bq4pGJT1Eq4",
    "+qOHhGKT1Iq5FGLT1Mq5VGMT1Qq5lGND1Tq5xGNz1Xq6BGOz1aq6NGPj1dq6ZGQT1gq6lGRj1lj84Wq77GSj1pq7NGTj1tq7ZGUT1wq7lGVj1*q83GWj23q8JGXT26q8VGYD29q8hGYz2Cq8tGZj2Fq93GaT2Iq9FGbBL16j2Lq9RGbz2Oq9dGcj2Rq9pGdT2Uq9*GeD2XqABGez2cqAVGgT2gqAlGhT2kqA*GiD2nqBArOHhGiz2sqBZGkj2xqBpGlT2+qB*Gmj33qCNGnj37qChGoz3CqCtGpj3FqDBGrj3NqDZGsT3QjO4WqDlGtj3VqE7Guj3Z",
    "qENGvj3dqEZGwT3gqElGxj3oqFFGzD3rqFRGzz3vqFhG+z3yqFtG*j3*qG3H0T42qGFH1BP16j45qGRH1z48qGdH2j4BqGpH3j4FqH3H4T4IqHFH5D4LqHRH5z4OqHdH6j4RqHpH7T4UqH+sOHhH8D4XqIBH8z4aqINH9j4dqIZHAT4gqIlHBD4jqIxHBz4oqJFHDT4sqJVHET4xqJpHFT4+je4WqJ*HGj56qKVHID59qKhHIz5EqK*HKT5IqLFHLT5MqLVHMD5PqLhHMz5UqM3HOj5ZqMJHPT5cqMVHQT5gqMlHRRT16j5kqM*HSD5nqNBHSz5qqN",
    "NHTj5tqNZHUT5wqNlHVT5+qN*HWD61qOBHWz65qORHXz69qOgtOHhHYz6CqOtHZj6FqP3HaT6IqPFHbD6LqPRHbz6OqPdHcj6RqPpHdT6UqP*Hej6ZqQNHfj6dju4WqQdHgj6hqQpHhT6kqQ*Hij6qqRRHjz6uqRdHkz6zqRxHlz71qSBHmz74qSNHnj77qSZHoT7AqSlHpD7DqSxHpxX16j7GqT7Hqj7JqTJHrT7MqTVHsT7QqTlHtD7TqTxHtz7WqU7Huj7ZqUJHvT7cqUVHwD7fqUguOHhHwz7iqUtHxj7lqV3HyT7oqVFHzT7sqVVH+T7wqVlH",
    "*D7zqVxH*z80qW7I0j83qWJI1T86k84WqWZI2j8BqWpI3T8EqW*I4T8IqXFI5D8LqXRI5z8OqXdI6j8RqXpI7T8UqX*I8D8XqYBI8z8aqYNI9j8dqYZIARb16j8gqYlIBj8lqZ7ICj8pqZNIDj8tqZZIET8wqZlIFj90qaBIGz94qaNIHj97qadIIj9BqaovOHhIJT9Eqa*IKD9HqbBIKz9KqbNILj9NqbZIMT9QqblINT9Uqb*IOD9XqcBIOz9bqcRIPz9ekO4WqcdIQj9hqcpIRT9kqc*ISD9nqdBISz9qqdNITj9tqdZIUT9wqdlIVD9zqdxIVz",
    "A2qeFIXTA6qeVIYTAAqelIZBf16jADqexIZzAIqfFIbDAMqfVIcDAPqfhIczATqfxIdzAXqgBIezAbqgRIfzAeqgdIgjAhqgswOHhIhjAlqh3IijApqhJIjTAsqhVIkjAxqhtIljB1qiFInDB5qiRInzBAqipIpTBEqi*IqDBHke4WqjBIqzBLqjRIrzBPqjhIszBTqjxItzBWqk7IujBZqkRIvzBeqkdIwjBhqkpIxTBkqk*IyjBpqlNIzjBtqldI+hj16jBxqlpI*TB+ql*J0jC4qmRJ1zC8qmdJ2jCBqm*J4TCIqnFJ5TCNqnZJ6TCQqnlJ7jCY",
    "qoExOHhJ9DCcqoVJAjChqotJBjClqp7JCjCpqpJJDTCsqpVJEjC+qp*JGDD1qqBJGzD6qqVJIDD9ku4WqqhJIzDCqqtJJjDFqr3JKTDIqrFJLDDLqrRJLzDOqrdJMjDRqrpJNTDUqr*JODDXqsBJOzDaqsNJPjDdqsZJQRn16jDgqslJRDDjqsxJRzDmqt7JSjDpqtJJTTDsqtVJUDDvqthJUzD+qt*JWTE2quFJXTE6quUyOHhJYDE9quhJYzEEqvBJazEKqvNJbjENqvhJczETqvxJdzEXqwBJezEaqwNJfjEdqwhJhDEkl84Wqw*JiDEnqxBJiz",
    "ErqxRJjzEvqxhJkzEzqxxJlzF0qy7JmjF3qyRJnzFAqylJpDFDqyxJpzFHqzBJqzFKqzNJrhr16jFNqzdJsjFRqzpJtTFUqz*JuDFYq+JJvTFcq+VJwDFfq+hJwzFkq+*JyTFoq*FJzTFsq*UzOHhJ+DFvq*hJ+zF+r03K0jG3r0JK1TG6r0VK2TGAr0lK3DGDr0xK3zGGr17K4jGJr1JK5TGMlO4Wr1VK6DGPr1hK6zGSr1xK7zGWr27K8jGZr2JK9TGcr2VKADGfr2hKAzGir2tKBjGlr33KCTGor3FKDDGrr3RKDxv16jGur3dKEjGxr3pKFTG+",
    "r3*KGTH2r4FKHTH6r4VKIDH9r4hKIzHCr4tKJjHFr53KKTHIr5E+OHhKLDHLr5RKLzHOr5dKMjHRr5tKNjHVr67KOjHZr6NKPjHdr6ZKQTHgr6lKRDHkr73KSTHole4Wr7FKTDHrr7RKTzHwr7lKVTH+r87KWzI4r8NKXjI7r8hKZDIEr8*KaDIHr9BKazILr9RKbzIOr9dKcjIRr9pKdRz16jIUr9*KeDIXrABKezIarANKfjIdrAZKgjIhrApKhTIkrA*KiDInrBBKizIqrBNKjjItrBY*OHhKkTIwrBlKlDIzrBxKlzJ0rC7KmjJ3rCJKnTJ6rC",
    "VKoDJ9rChKozJDrCxKpzJHrDBKqzJLlu4WrDRKrzJOrDdKsjJRrDtKtjJWrE7KujJZrEJKvTJcrEVKwTJgrElKxTJkrE*KyTJorFFKzDJrrFRKzzJvrFhK*C116jJ+rF*L0DK1rGBL0zK5rGRL1zK9rGhL2zKDrGxL3zKGrH7L4jKJrHRL6DKPrHhL6zKSrHt0OHhL7jKVrI3L8TKYrIFL9DKbrIRL9zKerIdLAjKhrIpLBTKkrI*LCDKnrJBLCzKqrJNLDjKtm84WrJZLETKwrJlLFjK*rK7LGjL3rKNLHjL7rKZLITLArKlLJjLGrLBLKzLKrLNL",
    "LjLNrLhLMzLTrLxLNzLXrMBLOy516jLarMRLPzLgrMpLRjLlrN3LSTLorNFLTjLtrNdLUjLxrNtLVjL*rO3LWTM2rOFLXjMArOl1OHhLZDMDrOxLZzMHrPBLazMKrPNLbjMNrPZLcTMQrPlLdDMTrPxLdzMWrQ7LejMZrQJLfjMdmO4WrQZLgTMgrQlLhDMjrQxLhzMmrR7LijMprRJLjTMsrRVLkDMvrRhLkzMyrRtLljM*rS3LmTN2rSFLnDN5rSRLny916jNArSlLpTNErS*LqTNJrTJLrTNMrTVLsjNSrTxLtzNWrU7LujNZrURLvzNfrUhLwz",
    "NjrUx2OHhLxzNmrV7LyjNprVRL+DNwrVlL*DNzrVxL*zO2rWFM1TO6rWVM2TOArWlM3DODrWxM3zOIme4WrXRM5zOOrXdM6jORrXtM7jOVrY7M8jOZrYNM9jOdrYZMATOgrYlMBDOkrY*MCDOnrZBMCzOqrZNMDjOtrZhMEyD16jOzrZxMFzP1raBMGzP4raRMHzPArapMJjPFrb3MKjPJrbRMLzPPrbhMMzPTrbxMNzPWrc73OHhMOjPZrcJMPTPcrcZMQjPhrcpMRTPkrc*MSjPprdNMTjPtrdZMUTPwrdlMVDPzrdxMVzQ0mu4Wre7MWjQ4reRM",
    "XzQ8redMYjQBrexMZzQHrfBMazQLrfRMbzQOrfdMcjQRrfpMdjQWrgBMezQargNMfjQdrgdMgiH16jQhrgtMhjQlrh7MijQprhJMjTQsrhVMkDQwrhpMlTQ+rh*MmDR1riBMmzR6riVMoTRAril4OHhMpTREri*MqDRIrjFMrTRMrjZMsjRRrjpMtTRUrj*MuTRYrkFMvTRcrkVMwTRgrklMxDRjn84WrkxMxzRnrlBMyzRqrlRMzzRurldM+jRxrlxM*zS1rmBN0zS5rmRN1zS8rmdN2jSBrmpN3TSErm*N4DSIrnFN5CL16jSLrnRN5zSQrnlN7T",
    "SUrn*N8TSYroFN9DSbroRN9zSgropNBjSlrp3NCTSorpFNDjStrpd5OHhNEjSxrptNFjS*rq3NGTT2rqFNHTT6rqZNIjTBrqpNJTTErq*NKjTJrrNNMjTRrrpNNTTUnO4Wrr*NOjTarsRNPzTershNQzTjrsxNRzTnrtBNSzTrrtRNTzTurtdNUjTxrtxNVzU0ruBNWzU4ruNNXjU7ruhNYyP14jUDruxNZzUHrvBNazUKrvNNbjUNrvhNdDUUrv*NeDUXrwBNem"]

/-- The code page 932 changes to Shift JIS, by lead and trail byte. -/
def cp932Data : String :=
  String.join [
    "WM02*ruY9O5y0VyDWP42*+3*uO7A0V*YXq0s960aOIHY96CaP2Hb96OaPoHe96aaQYHh96maRIHk96yaS2Hn978aSo5W8M4XOY5Z8MGXPI5c8MSXQ25f000pIJCKCo8pJJCOCoSp0pCsCr4pLpCDCoOp8pChCqepEpESCvqpdZEECuypn3EXXtuVCti0030TC1yX5ZFD8I4of3AbCgOofpAeCZ4oCZ8vCtupVJDy8b8YOI8h8YuY4I8Q8gKY828V8hyYDI8f8YhjGBr+YeaSaqYIY8JSJybmksOnQCYI+MRxNqLEA4xXJlnF04y3JpbFLa+IJufFca",
    "+KJyrGG50YJ*zG7b16K71GGb2KKFHGs55AKMHHdL6+KUnI5LASKgPIm5BRKm1J1rCaKt9JarEoKztw3bISL8fKgLJ*LOPNMLTbLwnNo5V7+Wy00FeGM9vOibaBMLDPMrbTMMDPf5cwMrPRm7KlMzXRx5mUNAPSkbprNITTK*eHNK9TRLsuNRbTq5yXNpHVPr+tNzvWNM25O8fWtc3LOI1Wyc4HOJTXC66OOXDYfcFrP61adMJEPKvc06OLPZjc2MOkPXvc96PbPbTcMVeIPdDccMQWPh9clsRwPmxvAMTcPxjeKcV0Q05eH6ZF+XDfQFeKQPXfucem",
    "QcjgHcfpQdvguchaQzPiFsnSR8PiRspQRGHjXsrlRPPjh6tFRVXjyctyRZbkN6udRZnkls+8RxLlzN05S0TmA725SAjn3t44SLnnHd57+XLnmN7+Sh7kGBroldCa+XPpTtEzSybprdFZSz9q1tFrT2PqAdGfT2vqOdI9T9zr0NLlTe9sd7QUTfjsfleNTqPIhtWXU4vuP7XwUJ3w6FeP+XfvbFeRUPjwqNhd+XnwwtkU+XrzI7rSVRTze7tMVb9*Ht+X+Xw30ODYWt+3nuFsX4Y4j8LJXLa008Lh+X+5iFeW+Y681uZrYXAADufvYgUAlehV+YAAze",
    "jJYt+Cy8pqZHADTleZZi*w9Feba6UGtlecaHMH9v7QaTUHtf7jaUwHv97baWQI498AaZgIG98yaawIMP9HaZcIPvAdadUIU9BdajUIsPBG+YUIrPBWajEJ9PCXallwA9CUal+J7PC2at2JLvEaayQJtfFub36KHPH8bPBvtFefbfsMhvSpbpkNGvTDbq+NKPTLc5UOPVeg+YkP9*eicPwQJfhPcjoRTPjocu+RiPkxd02TS9rh+YsU6PxH0000025m8N4XSY5p8NGXTI5s8NSXU25v*+B*vFy7*mBwGBqXS25n8N8XSo5q8NKXTY5t8NWXUI5W8M4X",
    "OY5Z8MGXPI5c8MSXQ25f*+B*vFy7*m8oCI4M8I4YDNwAYHoJI9A8XDnFoN2xPZ5eo9BvPljVHKueJk5E*4y0JmDFEKzMJv9FYa+QJvHFpL10K29F*r0UK4PGS512K9HGz53OKKe0055aKPrHlb7iKXLId5AcKi1IsrC0KmTJ95DoKvDJibFT+WvKd5IALAbK*rM6LrbNPLUiLyXNn*eF+X1OdbYoMGjPKrbRMLrPOrcaMRfRLbl0TIzRs5liN1vSfbowNFLT9rrJ+X5TGbrjNRXTkLtGNo5VD5zdNxTVtc1TO8LWYc3UODLX863oOH5XDs4mOPXY4s",
    "AcO*LaO6ITPCvbJcO0PXLcEsO9PYvc7cOaPcLcLsPP+X9cSsQPPg1cicQ*Plfd3lafPsPdksXIPy1e0MX4QC*w4sbe+XHfc6dYQZ1gQsf6QdDgVchYQkHhrcm*R5niXcnlRDfj16s7RM*xGBrjbcsiRSzj+6toRVnkEMvSRYTkF6w*RuXljM*rS0Lm1t0eS8Lmgt4FSGHnN756SKVw5N71SVvoiNA+SoJw5dDtSxrpoNFMS+DpqdG7S*Lq9dGgT2bqBdHYT8bqdtK1TMzsWdQSTfvsctQc+XTtHbAlU25uJdXaU7fvCFeO+Xa00FeQUPJw6tcRUj5w",
    "v*eSUkjxdleTVKXzN7stVQ1zrdvIVqT*eVeUWm63OeD*WyU3zeH8XBI5KuLPXMlw7uMm+Y3w8OW7YFMA4eetYdcAfug+Yj*w8ehsYrEBVupmZFID4ers+YEEp*ea+YMGPv3U+YQH5P4daTgHrv7UaUsHxf7aaUMI1f8GaWgIEf90aZoIJf9Pab6IEP9dagUITv9uakUIrvBPaj3w9vBLak2IqvCbao6I+*eeanwI*vCTamAJS9DNawIJnfFUa*YKCPH5b4YLaldS+YcMdPQlbpENEvT3bqsNJvTHbrMOLvXb+YhwAvad+YoPdffEcjdyG0oQt9jrct",
    "ARZvkncxkS09rmdMlwBPuPdj40"]

/-- The HKSCS additions to Big5, by lead and trail byte. -/
def hkscsData : String :=
  String.join [
    "Xq0w13y0J384O315fWHNWd9d1DTmHRCdon1CuYVCK3kL17DWHqG4n71CG2GhyZON9pKYReid3I1CLoer44TF15sWJ8Kdni1D1mIgG4QX9h8mSYKbfK8QOoFWOZzX1cJGLli0001zbGMHqekv0zz0bpGdll1Rso7Lu5ga0s9Idh05hH1RjmNFm6Tk25aocKK7HX1qdOX0FmCS03710nmWCSC3748130CSKW3H80pGCSO37780oo7+W37880oWCSa37A0nomCSmW4E0npGCSu04000mG0Sq030014W0Ca04Q00o00Km03J01qG0D80000UlW0001x000",
    "oW0G403X01pW0E009H014m0Ea04R00w00Ii03j01q00Em05D00ym0T803o01Qm0Fe07K00+G0TO07O01seYX2W0Tm03y00007hy0000UmG0Ee09X0ZsW8zk9G3ygEf8HHG0006KA00000004uz1ktGdKu97V0000000dSr1aaGJne4ye1Fg0KLO55q1Hd0KUG5AX1Ig0Kpi5DE1JqGKzW5RY1Oy0MGG5a71PCWMJG5jc1RdWMvy5oQ1UXWO3i6M91d*WQ0G6Xb1jJWSBm7Kr1+f0Vgm7ww1+nmViy7xV1*1WVpS89w22pmWsy8d62BlWY+88zc2FPm",
    "Zsw9eGO7GH1y*0VSq6b61woGKYU9grG96C1uk0aLu82y0000ZGi83s89vm00000020dmdiS4pD2ToGdWm4m+ATzYS0u9uAAXCmDS40001kcWWZu7KP0000IH49fi2QZmdva7c7A4R27SeWNG8gvWJYG4w11EW0JeS4w*1EwmJpS3HC1FlGFaW5031GY0D7q3IJ0qfGKOO5a51HsmKVm5851EYGKda5AG1J9mDSS5Ef0rKGKx03LJ1JmWL2C3Lj0rSWDe45IJ1KemLBG5Iv1Kq0LEy5KO1L8mLIW3MO1LFmDQK3M*1LrmDSMAG3yds41L9G000Wn28D",
    "5IKIi5MG8inWEUmWD12EHYJRWfJb10KoWBu7Tw8iE0EZG4VLA1NIQV8atg1atI3NmW+q8CrI4FG6ID2EVY3fOWmB8FP2BAae9M94qm000Wr6AQJIWEa4Vq9EfoBC89go0wPobVG3*j0r1YKiSfVK9uo2BKG9rk2O5G0004FP9WfGPBG5JZ8jJ2AyeX1t0v+o46+AeLucRQ9d5YUQ06Jg9GKY34C8ve8XeIYqmWSn0000I0iW6f0*+WM7CYsD0002HSWWJy9Wbo3qmWsM1LUGGBi4Ew0000IhGYfc8GdGWQe9Zr8Dd0Ota3d+8dTGZS05QX1aV0FaC0",
    "00Ac0I3WaYhF8ioG000X388vmWEP83e6A2cmDNWbv98WnmLb8Wyn8iiYbo03Iy1iFIJZi0000002TNGYwB8Y22fbiepD8EUY33GcWS1*ao4CyYW38fEGDVib7Z8EZ23uqWwg0*ao3p0Wr78HJo3am0008Ego2waWr88Gm24Jq3*v8cbWP38W+jYq0*8pz2TZaYlE8DVY3NyYnH8iLGEXWWwO8Gno3ougOo9hK2ZD8esPACoWbQe5JC22n0LRa000AUmmd2O9gs9tNYBUu75021RGWEm5mS9bSWWJG3UN1JNoWBq96s8E+Y3WyWvt8E+mDTqath0s2I",
    "3DO5Ql8djI4CaWuG8EU247WX58A21o55KWvv9EK2BQG5fK8G7I41uX3r8GzWLvmWuHYw5T9sb2WiqW+r8EUoKNu3S38FjY4O0bBOAYlIITeXWw91ToWdm5YP1IQ0DXebSz1xiWMsW4W01BB0doS4dd2S7mcuqbjq8nFGLVi3No1MYGJYW5a28RmI+7W9TH80XWJbi4wx0rFWN2C5zH1Vn0EFe69C1bDGQte6mr1iEWS6m78h1EB0SgqaZf1*KWUJi7pv1*KoOce3J10002Oqi80220W2PX8cbH1JNGY6G8d19uiWYw08qT2KXGbNW9L*2Lw2ZWy9Vc",
    "2OTGcCu9ZU2POoc109ny2U7mdiG6jl3v1mJZSW272M7GOZS9IYZ40*1GEmRVufnp2VfWFSa8YF91JWS7S5pr1B82KSq3LP9TC0OI8eeo2FfmaVO76H1d6GSxeZA1AX1mF8iXc01B40UEG7G21HhYXmy4091gOoehe48Z263o2cy7egAPHoYke9TL1mJGKoGY1+2Jz0TjaedZ2VfmTzq4wZ1Fy0KBm4ul1F5mdwW5Gq1zYmM985ZG8TjWNf85wP1VmY9n86MBZA5U8p+GQHa6f38yOmRFy0001o02HGK7EC0+soIXC5iL1qkGYuCboa9MbGUfC7li1y",
    "mmVcm8Bu25bmdwa8YG2VgWZha9+h2FpmXLy9dW2I8Gdwmesv8KFmG744AY1Q6W0000000000c6W6Th12TWLpq00025rYINi8A*9n3GJ84crq1TUoQnKc++2VhGdwu5kM2VhmPkS7vR1kLmUSe3s814moCbOYUM13cWHJO0001SrIEne8hv1SU0FH8ZLH1TU0dx875N15M2GEmXuZ1CTmENW3HA81f2R448hC1Fj20Za5c*21R0c5OfZw1VEur0Fo2vy0008XmIYMq44216koa7a3y72VioeRK43u0trWHlScn611V2Xh8dF*15RGEDGbIQ15OGHHi4",
    "s91CUmJNO4Ng0*o2Imy3PX14tWHBq47j1TFWNKW5rM0z*0E0y5sa1TkGE203Wu1UGWNhq5yb1VWmEGW3aK0vFmEKq63N1XFGNEK3c91XjmORa67F0vk0OYm6AG1YvGOnW3du1MiOsXNWEWC6FY1Z+mP0S6HQ0wImPC05qL1M8Gdvy3gN1bXWEhq6N*1cKmEl86QI0x8WPnO3j21df0Q003jO1eIWQ8G3jo0xSGEti6a91fGmSbm6ba1fdmQOK3ky1frWEzq6fb1gT0Qd46g20xx0Qfa3lo1ggmQhK6hK1gzWQu46l11hwWR7K6og0yomRG86q61j9W",
    "RO43pl1jf0RR46uL1k60RYa6w6A9m0Rhi6xY1ksWdty6xe1kwGRoG6yq0zHYFq46+11llWFMe3rr1njmN9a3sA1mB0FP471G1mL0S6y71*1mYI0oK4F10ryI3jYEG3uZxN1NlYRjC74+9Nu0Dau6cYABwGMtG7f99OuIbDa7fb1wVIMQm7gx1wi0Ui87h31nqIP8q47A1wsWUjq7hg11xmLB8bm11x2mUrK7if9J3YNFu7kY1xRmWvmbkq9iVmUz08GX1xaW000bqW0zhIN6K8II1x+W0007mr9SmGV4G7o398WWVAO6Pz95U0VCa7p71yvWV7G7pp",
    "1yzOwXNWVcS4KT9kH0VLqcxM1qZGVOa7sh1nDGVRC00090LoO2a7ta0z4mVVKXVv1zvIWsq0009X8IOLe7vk1+aWGoi9Hi1+9mVq07z11*HmUJOcBG2PuGVvScDH1*eo5c4W1e15N2DsO4K3A3EWV*ecI90000W0W80T0000W2yg279immW3i80y20OI9nG4c99c9YFUCcRe1d9GWASef8211mWHe5Ym8czWR7ycIO9Fk0PESXIA226265u6fJ9APIIfK4Hw22AI2mqcfI8zVWJ*aXJz24uWWs8ciA99foDJ0XTp8z+0Wge6aRBvb0GTkFG3y8LB22",
    "q0WneWuM8Nj0Di4Z5z8rMWWdi8BY2362FeicsZ9h1IQvSZNE0zlmWnq5Ni23XGHGicsb23h00008FJ0qVYRjG6fN25MWD9Ocv28kxmX5Wbla24SGFTC4Ja1gfmX4eZor1vM0000ckM9kToRaC8JU0000Wv44IW24amXEGboH12G2NC04L325D0Ml8cwP159mXNC4KM1dlmXXQFeLqeObA6EmXS4d28260Y5O8d3DBviWHMe8Oe0sI26A85Ft9pcWXdu8TnAW+0X+uYmd27iGXze8WF1MOGXcm6XM163mY4K8X69ru2FRadNa28NWY9m4PR28j0YBK6",
    "F128nGTtSdSF29XmYOe0000000YQS8cyAA9GYUSdaa9wlGYfm7UJ2H*WYf0dfP1wwIUpeZ+F174oUpW75y2B30YnybGm9LPGYpy8jC2BJGYgaafw2Ba0Yvi8gl8MtmHXK8XF2CcoVLGdsFBvr0DoKdrJ2CrYVPWdsz2D4WZGCXaG2CsmS5m8qH9CoGFj2GG3y8sfA00Y41GacA0xV2WRmd4C1wvmZgq8ws2EmmajG8yP2FBIWsKeGI2FfGamCgAV8AK0ZxC4agA9tYXJqZsx1U+2Cc88*vAW52XhmeK18Z9GEO0cxN2GDoXJmdg+2GOIXMmeOB2Gg2",
    "XnC934A6vWaAu0002HPmEl096f2Hn0VAmeap8UYGaWu6oV2IGGac8bMv0002YiOZoRAB32LTkGeLuWqn2JB0asiehXABwmS8y5h3AAuYYkK4bb2IH2Y+memvAB*matC9HR2El0bOK9Mc2K9WbQ06*s12kI9deeRO8IV2FYu4dV1i70bdi9QM11R0bgCcxL1XsWbhO7ZrAAu0bhq5FC19eIRBWW9q9a42aAyf3b9AqI6HKZCA2NCGXa89Ss1A3mHJq4M59AwGS7K5j12N6m000f7L2NLmMqef7h2NNmb2K53G8mjoCBm9U92Ndmbx49U+2Nm0bz89VW",
    "9KR0b+u7GSAKCm0009VrAK7IUNe4hH2OD0c3C9XB2OPWEmud5r0zKI1Z0a5SaK0*9N1WcCe9Yt2Oo0cCS4h*9j9o5jC5Mm2OuGcEO9Zi2JU0cJaaef1BSYc5Sfa52PzGcWm9ex2Q40cbWbSb0sn2aB4flL2Qu0ck8fi52Qz0J0u9iK2RBIXW050q2RD2QQW3Z38mVGcr09j0ATFWMaKXXZ2RZYGai9m22R*md0mfve2Tr2dxSg6IAXgoeE4g4ZAXtmdNu9s3AXD0dWu6Y8aQ5U2Tn28Lig6JAY826Jig8p2TEIeBagAq2Ua0dfK9wU2UeWJJG9wg2U",
    "hoGsG9x10xO0EUK3qT1FCWDxuemh2V0WdmW4kM2K92RQ89yN0000dpa5QV1MYWdqK9cuAGYmb*88H*2VOWdsa7hS2VZWSXO4k+99TIIRi75t99+2GqWafH1pdYYzeXZw1vdoYNueus2JQGa*Cef42Ix0au49FBA9R2HBa78N0+wmTt87f31mq2H7CaFu1nVY5+y72Z8OlYDPa3x78OXIL2yXVu0t8Y5liXWv0suI5tGXZH9VImDoCXR01NMoIYKXF+8Ig990Fo4yOXIs250oDgO00024LIIPGd5b8+CILLmZxx9mKWHFGZRkAPdIRoO6Vv0tCmF1K3",
    "td1OR26I86WG10LoDpya3X90YoGGycmX1KomLfucQn1MaY3zyWke8E3GayOeiJ2Jd0JlW54h0u6IH3O4wy84PI0ty4zB1FYYLb45fe81go0yi3cP832Y11G3Gr1FAI0i0ewp82TGYjeW8C1Ec9AX3WKCq54D1FeWJmCaeE8+YWJq850k1GR0K844*C1FvGK5W53yahDC1kTYDPKZuv8+lmRN8XY48+YGKQW57385u0HDqWIZ84aY1948rwAAd21mu59P1If227C5BX0000Hde76C93Z2320aci8Gv0QT4WuT0000Fju7IP1q50T5O7EO1BZYIhma2D",
    "1Jq0DOG78F90oGLRGWD51KpI2yO5ST2INGblG9Dc1NtGLuq5T*0sFWMCi5gPAAHY5leXTl8N40MYm5cu2IZmMdu5hF1Q4YMKOXdp8OOIGfK3Rr1j1GT4C5eX9UWvD0FmMe4elN844ma+07IC8J0mSGK4bo2K22YVi9Ez0te0N1u5oU1UNWNaWXcM8PV2Eku5xD1RJo6GCXa40t0I6A03RT8M*WDjC84gAAHo7ReZHoA9g0Nmm5yE8P9o5wi5fh8NEmMqG8OK9r*GY6061+8eO29Yi5*R0+k29QyYM+AGY2RtC67080FY04OYOR1XcGOPW61r8icoBG",
    "SaRKAHJPEXNWP74aPb8hQWEYaYiY8qK2cEeYvu1ZDof5i6Is1ZCGOz4adZ8jPmOgGYoX1aEmPMi6bo0xz2C8uZAj99YICgi5KD8ou26DafG*1cpYCeaZ6p0wu0GP0bM4AB8YLOyXRy9LMoL2K7Zk8n0o62eZ8q0qP2CWyZ6292oGPeucqa1cQmIvC6Om9uS27Ui6PZ8oqYCk46OU9OSWED4ZWw8tl0EvaZUY8p*WTD03kM1dZoHYe6Ys1e7WEyG6g+0uOoDzKaI71gCmQb86h91h1I6H86KH1ec0Qam3lN1gUWQrSZ*08ycWaw09BoABwYYikKG3y9",
    "A9A07YYTm9Hd1jfGRmiadi0002Fty3sF1k12G3m5ez1k2WM4S6qa1uGWSJiaCQ92TWSF479G1oXmSfGaUF979GKNaaga85wmT7eZxu8sNoIaeaaN9VuGFmO3wn9AtoZ2CZyr1WfmFlC7JC1qF0auS7Gt14doRUe4LH1rWmFsCapP9D1WFrW7LL1sSofSO3iP1qQ2Yimach99ZWElkKeLu3tD9AJWFlyad598ymaVe5So2JGYYkCXXa1GtoKY4b7d1tU2CZ87SE1t3mTtiaQN8tWGEbuaZm1qE0T9i3w*9AkYIiS4389AbYOQu9C79LWGU1u7YD1uY0",
    "UD87FG1vMITq4bRZ113W0008IM1vfGQYqZxw1wEWUVG45k8MvWGJ898r1vyI3KmacC82cIFReXTk0rbmLMi3Lm0sgY0TGWmD1wuWMbaYRr9QhoMfm5eD82MmUF05eg9RnWUlu47v1yNGV6q48H9RioNhmbwc1ypIIVaXUm1yZWV7m7ok1giWVTm7u71zqmVquc9XbK0*9XN2UqW7sN9UWWGcecjr895WPzOW1E8rpmLyGcGI9Z+2IM87*T1x9o22mbhf9TGmUmmbuE2PvWXaK9fZ1g72D3y3dY99zoPQq9eV9be0X80d4d9iqGHEe84t140WWCO849",
    "21GYPxG9Z39gGWWc889b9gKGX5Ccsd2642SXi5g611Vo6405ih8OeGMkGXZO26e2+RmZsF28BIT285e2bQ5U28RWJqK8Y728lmYEO8bb29JILeC8bK9tXITuGelrABsIYvmedv0+hGXAC4Rr16pmD*88ez2A72b4W5zD2IAoGeG6NK1nAGSCGXX52TRGZ9y8pf9zt0MPe7V31Py0Gsu3RK2EAWZgSam92FC0Zqe4Bq1iM0RxiYCX18cmRta6wB8NsWc+a3Qr99BmaBi0001LSGIGO96x2K12Yai41YAA*0b2SemTACEmXEK8eh2LcGbQS9MN2LbYZJ",
    "G7H50+mYIFyaf293wWFkSZ8b2MZoZkSevcAEPGFimadj9AU2F+u7GI1qQmFlm9T1AGi9P0FmQ4S4eTAGaoLzy0002JQ2YOaemcABBoOxu9Aw1R4GYsa4ay1p+IGXi9UR2NSGcJWWyc1TmIYyKago2O7obDe9BsALrmaUK4J0ABK2IcSeja2Ot2YaK3y02IAWIIK8GK2PEmcKqdi60z*GcPi4jl2PgWcbmejb9Oo0Qey9eX1Q*WcYyfZn1Ba2cKW9cy1BlGIvS9Dz1OSY4m85WY99k9QXNY5EW7X48d7oFRW6Z50zVGb5W3ad1XK29u4Ybh1X1md4y9",
    "nJ2SUmd3K9mG2RVmcyyfuj2RdoeVKg3+2T8GJAua442U60JB09qCAXj2eEqg3pAPBmdQK8Iz9k4YRzyck225*0HJCcsa9kX2RV08GW25xYRW0ZVN9WP0UU8ZMS8sG0IIqadU0zOWazi9A+2JI20hy7Yv2ITmb4q4*a0qG0a6GbLT1uFGU5G7Ys1uIo5rSZ7999GGDfe4zo1lsWRza0001m7WL1Ga6r1NkmMFC5UA2T5WLzS74q0qhoGQm77h9iG2JvS0008NjIYacNG3y64C1QpWMWi4Ay94Y0Dom4jxA9*0axi9Eu8OrY3nq8Ho9im251CaBw8i9Y",
    "Gy45cK8zjoPq47se9XMoOAGacv99YoYVe9Bb1puWFka7IqABOo69y3xX9AimQjW7Fp1p+mFjOae+9Ab25zaafc83fo52Gadb1qI2IHO72b99TWaeG7Fc2JNo1Fu9CnAApYYXO9E6ABvoLTK4arAAWWSMkNeLuab38C*mLgGWOQ8Bwo3BW5K21vn25*e7t+8MmYIb0XXI15BWb043SAAAm2IQq5cm8Olo68CdI41QeGDk8ZrR0si0aby5fvAAWI6689Dq0ypI2hG4gM0vYWKFG3rf0zJ24vm75r12+oWXW6uFAGv0HEi6rN9+JmS6S6ol0yrYF+qZuj",
    "1k0WRmm3rl83zGTL43Qy0qo0He03xQ18SGMSG99k19FWZq4emS9hm0M185V80srY55873+93OYId4Y*Z8Ii28xq6Yv1fPo4vWZJb9xz2Djyeg38trYC*eaoV1g6YDgqcot24FWHDy4JEc40*9j9YRL4co29ltWRnSd4923FI5pe8Fj9iW2S5CXVR1PYGMe8XUp1QOGMd4Xa591*0Doq5dl8NF0DiS76E2Ja0PfeaAb1QRWMYiaAJ1gAoFladSs94MoGie74T92MIYU44+m9jA0NC8aJE9+JIGxq6eC92LY4mG72c1nCoG+a3sb1ito+2KafF1+PGMU",
    "i5ql0zymNrmafT8NtmVQG8GccA5U1KXIEleZC08250LtuWZL866GF+KX+UAYjWS0Cf5R1TS0Suy7pJAAMIb204*81*vmSiq7CG9wz0SpW7Cv9MzWSq47D80+gIUnW91i1nzIIF87FX21zWFie7SC0+qGRA85Rz1q6GT1u7GV0+uWFl03xq0++WTDC3yE0*KmTK87Lj1rSWTOq3zy1ro0TTm3*01sJGFzS7Pq0*t0TdeazS1nY0LYC8c01OQGG1q7T310EGPs44150rsmTvW41g10RmN5u7U+1tomMF87WO1mkGU1m42e1uEGU4S7XH1uPWX4WbKr1v",
    "CmQ0C7ao110vb0FmGGa7cH1vcGZxi7e62Fl0GMS7gH11iWUhm89v11n0Uiy7hR11pmJY47jY1xR0Uti7mI1y6mGc049w1yUmV9m4AC1yk0GfG7pj2FamSC0WpF1zpmVTG7tG1z*GVwu7+q1odmGvS80W209GUpa80k20CGW5G3tC1Nj0SA082t20wGG+q84C1pAWWGu84I1rO0WHG4G10xEGWLO85P21MfcXNWH1C5Ww21V0WOG4Gb21amH2q86b1NxmWS487a22L0H8y8Ac22TWWie8BO22*mHB08DN2MQGQOe8G51mzGX6G63Z24Y0HGG8I+24uG",
    "XFW8KG25E0XL84Kx25RmXN08NW15TmXd88QI26iWXky9P527YmHWO4ON28hWYFy8aa29HmYP4dbd2AAGYZW8gK2Aj0Z548pK2CyWZHm4UO1ONmZSC4Vj1ExWZZe5NO1NL0Zd45Nr2Ei0I3S8xE2EuWZkG8xj2EyWZxS8*12FoWZym90p2Pn0IAq9ZW2I4mIHu98e2IM0aci9An2IhWah+QG3y9BZ2IwmalC9Bq2I*GaqC9E42JhGIKK4bH2Ulmb1S5C12K7Gb2q9G+19QWb5G9Hv2LBGbQ84cd2Lz0bZC4db1de0IYG9T01ADGbx89V21ML0IkG63e",
    "2OkGIna9Zn1OH0cGu9aP1Hj0cHm9at2PGWcLq9bY1BS0cSK4kT2QF0cmy7g32RQGcu49lT2RyGc*G4nj2S80DsyXl22TIGd3gQeLu9x+1MK0dPC9sz2Tm0dVm9Js2FjWddi9wi2UiGdhq9x62Kt0dk89xn2U+0UiW9z480b20hSWEW1f6WbCC5ci84rmM409J10tkI1TKWOL86TY5he5TN1nSo2i8WhD8BlmL6elWx8BomL9uWlx8CEo35CWnb8CV0OESWoD1MUY3BKWpT8CxI3MyWso8Do0QLK9ml27fI3WGWuE8Ero3v0Wyj8ESmN20W+y1U2o45",
    "mX1F8GTWPnuX1x8GY249O3P78Glo4DCX4l8HEmKsG8Ij8Iuo4tKXCs2BWI5NSXOP8Nmo5yS4vu1mko62qXbgcq0*8QBI6aKXmg8SS27AmXx81Ymo7jKXyL1nc0Q5KY151fwGDiWY9y8Zro8*eYSg8eSIAKy8Bz8fPoAPCYhL29fIAkW8+W8h3WbxWYi*2OHmchqYnC0002B8WYot9Rw2BGWYqI8jjoBPKYv28lT2BymZ0p8mPYCnyZFU1ViGPaW6Q*9wUIDMSZNp0002IRe0008s6YDnO00083HWMBK6SEcw5U1f62EgSdPN9VuYFX4Zwv9r*Y89e4",
    "ZG1Ak2GHaegQ92xYGmqa0x93D2GvOaf585oWKT8WOH1Pdo7gW3k+8y*oH0GaJM1NY2HdG3cR97BoXUWfd90tOY8SC8jUABJW000aWI98+oIXK7899Am237W5bb9EfIJuOWTv2EsYK2m5AF1NFmSN4bAP9K6IFqeagd1Ll2L4ObHk9hKW0003Hp9LFoTZ8bLU1762LM8bLc9NnoIJybXT1GPWDFiZFC0002MGC4TyA9I2Mgubk99S1Y7P05UX1nKG000c429y4Wa5Oc6o9FcWYs8cG29aIfn0FmNLiclt0002P8GXaS2AwYIVOcI88*xoPH84l09blo",
    "PhKYSR2KPIL+466L1Q9o+Cq0001MkIHI4cRy1EQYIJG9PM1jZoRBq3OO29ToPvacXk9a4IQ5u0009enmUq8f308A4IQIO0009fEGUaK0009f+WcYOcej0sNoP6aW0X1vWoQZGcjR1TB2DHa0009hdGHj0coa1rEmY6Kcsk1OjfoXNWDnmYMD9mIoSSq3nK9oW2SeK9A18XUYSei9Cm9ovYIT06mv2KdoT50Wxu289mYFKYacA4So5x46wu9AAY6203ca0skG00000015FmPhOfojAOf0YKCdVC9uM0LjO43V8M2WEQ4ZSlA0w24yK76j23PYUTqf6e",
    "0000JBSd2lA9goUVqdeA9x2oVMOa5w1xGmUNue091ljIejy6e3A360Kw8cu72JlmQ3O9TTA1RoW2Cccr8JxICYye181TXIZ30e231N5Gc2Ceb91TgoIOW6M+1frGKz8agb8*WGF146SsA0a2WFGe4k8VeIWK+TG3ye69A1hoWXeeC6A3BoWue3NAA4Q2Xge4Zw1ZvYYLO7W82ILIYRW4FoA9vmGzyedeABHYYzG5duAC2G000e*5AGx0000f4GAHF0FVSf5U9AoWZz07AF1MYobESfNfALi2bRWfSoAOqIcKafbgAPmocYWfiEATMYdPi7wVAU+2do",
    "C4oa2LHoefC76YAY*mJP490IAbomJPmWoS2FlWLS6TeLu8+w8ai0ZxaagJ152GVdy6zM1giGJke3JaABB2U9q3Sw2EW25*Ke0aABR2Yvade+9chmFUidPL8yjoLZKbbM1EcYNe4c9O1Mlo3cq8uE1RRIFeWaoU1ZtW000XVs8OUmPJ05Oj9SIWL1ebCH0znYdPW4nz1M8WLXu7z99Us0MNKZr027S0JXmW*g8DIIDhe84N2TNWZHW7Ox2SHGTau7Uv2JHGL3885822zmLYK84o2460WBq5Ng1vOWLaC5GM8EdGDSu5O51LyGPl4eBY0sBGTJG5Nm1L",
    "kWL9S5Lo8CGI39O5xG9HI23dOYnYda0*8EeWdgi7rQ1LtY47K6AT2NRGL9G8pD1nzWaNO6Fy1ZkGO*u5Lf8hGmd78Ywp1HcWDDyWsd1HfmL4q5KU1L4mTcO8uj9eYWTR482s2810XuO8Z721jWX1mX3114x0SmGaS61Ra0WmicYJ1MUo9lGdql91eoVNCcxG9ojWaN0X7P2I22FFmgQf8Eh23la79c8SeWHqua*29*+I3+i43wdg5U2SNGPHyYsW18yoH+0fry8Fx23We0009reo3+q0009WI24OS76Z1+ZWdL04uQ1E10DNS5iD1iiWKsS3Qi0vt0",
    "Ktq3Qb9660M9eajk22BGL4i5Ug9QbI2Na0000wKY96K7DqAUh0JGa9lj8y*Ydp04nR9FgIbPuf*U24N2FROdAo9dioDo06Ck1z9IFlSZui0wAWa0W5BC0+T0Dde4Nf84ZWTa05hm8EjWU7edyk1OfmGBy5Py2RYmNNG7PKAaD0deK4pX0000D*i64P8msYG*80001MNI4ga5Ud99OodWO58q9mhWDQq0002TV9z0FmV5O9iv1NtY5sm5nJ1aqobD0cCr9nP0XgqWqe9j8YIk8Wrn0000KVuXyF1TZWbmCXtH2UWGa4m7iV2R0WND47kZ1YQ0OpK9h*",
    "1xpmcoe7n+0000V487o62S5GU*m9i90000d1iaa+2VMWLNC5l31F*GdfW4*o1IO0FWO5BH1NPmK5O5ct1U4WbyW9sh2FN0L6a9Uq2PG0bxe5Ci1XC9+XNWQIm5FQ2S2WdG84mx2MGGQO052c1rHY5sq9dQ1ISm00095P2MWGaLm0002HKIZfS6D*9j8mQie5OH2HZWTNe6A583*0Sqy7nm9S8IFFq000996GTjO9kT1EAY3DG8E+28GW0005nA1fm00005Tw1I7mNVK4xE1iCI0V84yv1Kd0LDe5AQ2DWWDVu0000rym0006jI2HV0dwK9kN2OBWcB",
    "G9gw2Ug0deG75w1x500006lw2860VtW0001M82fae8vt2VKm0008tK2EJmdXm8u11YWYWtq8ue2ETGUjCaft1wFWUDW6pg2APmTWUWG3yefQ2V9WRCu8VM1rmoeh87XJBuG0ZGm7BY1pSGYoq7C21qyGZEiagx26BmNxe8YW14jm000XWx9k1G0008f+8b6m00063z1sPmcjS9r42JRWcuy8Vr00000008pt1pB0bo49km0rrWSh84m71yKGcKec5P1XMGJ0G9wM1XVG0005TV1XRmOgO68v0000Ebm67Y1JgYC*K6Da1e0WDTAWeLu5rNABmWZzee",
    "uv0000KDaXr61v1WKp89Ou8FEmG6K0001t*W0007p29V6WVDe7ej20PWW6C7rD1r1GTF88cK226WPmm81Y9qXWW5i7Jm210mToG8c99dp0TLCcxH27gGXyu87827Z0Yaa8oj2BGmToi7Ju24sWDZK6co2DfW0008cf0000RRa8V1904GTES3tR1nTWOAG66S0yqG00061t0000Vt4eij0000OEa4j+1I80F1WZp79UroTbObKn8PH24lufa39jt2SAq5p19XhIYWyZPt80xYQ4OayE15OWMnycDC2VK0dgOc9hng5U0aO09642HY0aOm96G2Hb0aPW",
    "96S2He0aQG97G2Hr0aTW97S2Hu0aUG97e2Hx0aV097q25m0XSG8N825p0XT08NK25s0XTm8NW25v1EDWJZy4w51Ee0KO856M1HgmKla5Cu1JQGKxO5aA1RW0NTi2yp1UVm0005zG1VOGPJG0001raW0008+r00000AW0B60m*GCFu32T0mdW0000000m1GC0O3070m*0*piFyz0dFGC443120mGmC4G3150mHWC4S3180mIGC4e31B0mJ0C4q31E0mJmC5031H0mKWC5C31K0mLGC5O31N0mMCT0FmC5a31Q0mMmC5m31T0mNWC5y31W0mOGC6831Z",
    "0mP0C6K31c0mPmC6W31f0mQWC6i31i0mRGC6u31l0mS0C7431o0mSmC7G31r0mTWC7S31u0mUGC7e31x0mV0C7q31+0mVmC803210mWWC8C3240mXGC8O3270mY0C8a32A0mYmC8m32D0mZWC8y32G0maGC9832J0meGCA832Z0mfCUXNWCAK32c0mfmCAW32f0mgWCAi32i0mhGCAu32l0mi0CB432o0mimCBG32r0mjWCBS32u0mkGCBe32x0ml0CBq32+0mlmCC03310mmWCCC3340mnGCCO3370mo0CCa33A0momCCm33D0mpWCCy33G0mqGCD",
    "833J0mr0CDK33M0mrmCDW33P0msWCDi33S0mtGCDu33V0mu0CE433Y0mumCEG33b0mvWCES33e0mwGCEe33h0mx0CEq33k0mxmCF033n0myWCFC33q0mzGCFO0GG044G1180GJ045011K0G1045W11S0GO046G11h8G3y0GR047011q0GU047m1200GX048W12C0Ga049G12O0Gd04A012a0Gg04Am12m0Gj04BW12y0Gm04CG1380Gp04D013K0HH04DW13S0Gu04EG13e0Gx04F013q0G+04Fm1400H104GW14C0H404HG14O0H704I014a0HA04",
    "Im14m0HD04JW14y27d0Xk08Ra37F80p0JbeW2A1I0WH978eGG9+m1HY0dx4dO7oCqo3*uW*+GFy73*0WCZ424M0X8GC9i32S0kW0BeG2w60kXmBeW2wA0kZ0Beq2wL0kd0Bfq2wb0kfmBge2wi0khWBhO2wy0klWBiO2xA0kp0Biq2xF0krWBjS2xU0kum00000000000eC09G02Mm0bG09r01Km0FW05B02YW0chvrYa7Y12IkGYCy5Yx1WKWVAS5hw0bL09MO2LN0bO09Mm2LZ0bMW9Ma2LT0bKW9MG2LL0bNW9Me2LX0bM09MS2LR0bKm9MK2LM",
    "0bNm9Mi2LY0bMG9MW2LS0bKG9L02Lj0bRW9N02Ll3*xVf0Fo1KS9BR85toFyK8LC12jGS+y56r0sIIIK8eda2JH26Ti8Bk8yo0U3m6T41YtoIJCecg82e2QxCXC51Fgo9Eq5089jAIUeGZO09AiI9HC00083VWNwGWE083HmRjiWGV0000KG43Hw1H3Wc6m3T3245YIQGWI71HO2CxG55g8B*o8FmWBb8bC21OuZ8p8PWmMu88Tz85ioF9a56o1HkFgXNWdJG5791HpmKT43pS1HqoIgO56p1HuWKq857j23pGQJuZSj1VUmKWi58c1IF0KhK59N1I",
    "b0Kha5B51y5GXK85BW263IQnC000AAtWLKa6xP8*W22LGZ*i1JCm000WlY1ioo5oO6WR1prGO4e3wg0up25kW77T14eWKsq5DqA6gmKtu0008LbY5XC7Vc1JaoYfi5EW1JgmKwu7Ed9NSWFra7ES1JmGKyK6n91EIGL*u5FP0wgo2uy5FW8*woBQC5Fs8CTmL1C71v1LAmPbS6rR1KRIQrCWrq1LNGL8y5Ia17fY5mqWxT0zj23KtxG3yecy8cc0LKS4pj1KBmT1S5M61LgG000XZN90EWHL8aGr1cio4BG5Ot1cpICee6Qa1chGLaq5PF1uyGLl49",
    "U71J*WLm05Rl1MxIYsO3OZ8IJmLqOa6b1iRWS8i5T20siIR7u5Vc8K5WM0CXHK93OmM2Oalr1ON0MAe3LX1Ou0MDmX8y1O+mM*y5T3AXK2GdW9FJ0reGMHy6Yc0smmRbdxeLuXO+1Q90LLCXQI251GMSaWrE9iWIRIeXVS1PsI5*iXUo9jfWRN4XWe8MrGMVacv51QgmMcC3Rc99gG0003S81QbWT6K5hJ9leI9LG3s58P4GDp8XQu1UWmKj05js1bY0MtmdeE1010I5qW841RrGOM0Xeq9Pp21QK5lp1RdGJH05m58RH0N1C7FE1S527AKcie1SIG",
    "IDq5o51SwGNEy5sB8T+I7ZS5qG1T60NKOXwa1SkWNTS8By0uBIIG4Y198XSmWeS3Ws0xmWNYu6gA0000NdeaIy8CqmKwO4wt0000KwWXTn1U2GNlGeI2*40*1U+GNli3YW1U*0Q3u9GR1V3I0S4lYK0wtWIAuXCw1VEYQ8WYFG00029745zZ2NlIRcu5zo2JG2YZO5+d1TjWFLyb9G8VQYSFWYPe2HrY0fueef1WCGPeKXXt0vOmFSS3Ov1Na29xG7bn0+G0O9u0001WioIO8acF9wKmTAG53X1Qe0OMG8Ga1XGY+AOcxI1XWGKVGWPM1XXmMweZ+t",
    "*A5U8eNmOTCekTAPNGOT03ao8fW2AC460Z1XN0PHu6EB8160OiKXTm1YrIBWq6Di99tmEXS6Gu1Z+24uuXVy0000RueYus2O52G8mbST1auGPEK9Hx0wPWP3e3fN1bJGRnOaee9A8mPOK6Lj1bNoC7u6Mr99G0IpS6NH10s262a6NW1bumNzyZG01c62CVSZ7u1cH2CQGZ6b1cIo3dK6Pd9HvWPdC0008UFICZ4eNq8no2KnC7V58ezmcQG6S293d2IY43ih1f+YDy80001dPmPs8a7DAGxGPzS4Jf1e8WRb098y1e0IC+OcsW1eNVr0FoD6y6dX1g",
    "2oYjy6bp1emoDSq6a11f00FJ83e18sF0Eu06Ui1fOIYae4By1fDWQPW3kX83oGWsC52G1f+IDbaY4g1gHIDmC6gT0xymPx46h8AHd0F0q6iT898mODu6ir1hT29yq6wr8wso0xKXbO0tG0L24ZjQ1huIFlm6lS1iDo98iaZn9hKGR5e88c1iUIFRm4J58zlIGQGaaC990FsXNYFCa3Rb0ywo3J89k38n+I9947+F1eDoRIKcsX9jwmRPO6rS1kV0RmGab*90XIRd88Kp9lT0KSS0000000X2ueiX0002FYy7HJ8*WWUSm6vF1QaIC4i6*u0t3GRvqZ",
    "um1k+Y59Sa0z15LGa*06z41lN0FKu6zqAHS0FJi6+V91H0RzCa2H91LIG3aZ*m8*j2GJy57V91LYGLSa509XtGS4i71+1mfmS8473C1mrGSDO73V1110FUW76q1nbYGdS74h1nHGMeW75A0000N9maDb1nJmas8aB11nB2H5eaed9A8WSReele1mlGSWx+G3y9H21o5GMH49H31o90aq4bO51oBWSa0abq1elGSbK79N0+LIC4G6WD1lFGSe80001pAoI2CeWh18xIY0G7Ce1pBWSyy7Eg8CEYQYu7F91qIIGU8XRd9A90PYC3R599joIOqadx1pzm",
    "T1K6a39A9WT3aWN30+rm000YYj1qO2Zh87H71pv0T7O8Ev1qR0Dp07Hq2JyGQYm7I219KoIep+eLua5V9AUIYuy5j6AC0o69u7J88PY0TGu0001r7YZjaXfB1RroZgm9E51rJGTKe7Ld1rRYJu83y49D4mTOu7HT1rdWTRG7O21sB0Tb47PF1sRmTdOcFr1sa0WUy3Vu9f4IQGu7QX1sfGThS7RC9ldmX68b2T9HVI7Xm7SU1t9WTq06Il9I80TrWZAi1thoYMGebe8MmGT*G0008JTYIX86ZA1uhmUCS7ZJ2MfGUIubNW1urmUJG7Yn9s30ZxW8Y4",
    "ABAoO8CYOS1vXWYG06a21vW2M5S7cT9xEGUJm7cf1kAYSIO3we1vnYaGq7dK"]

/-- The JIS X 0213 plane 1 changes to JIS X 0208, by row and column. -/
def jisx0213OneData : String :=
  String.join [
    "8K0100N28l2m*mSFy23*3G07u30p0mD0C3K30x0mF0CFy32V8a880YX08eK2AA0YYm8Wa2850Z1G8mOYKGi2AL0YbW8fS28b0Y9WAOK2c60m60C1a30M0m5o9h1m8c82930YHG8aW29s0YTm8PGYUWG2Pk0cQm9cm2Pf8o4F0bjm9RO2N10bm08PS26O0XbW8Pa2740Xw08UO27d0XwGAJG2ar8pe70flm9Sa30z3+HW*aK2Nc0W8YDR1W8XC24r0X3mCyi24J0X9oDx10CA020J0f+WAViaT0C32K0mbGC9OcEGW2Pa0cO09c82Pc0cOG9cK2Pd0c",
    "OoPP9W0y82Jr0azW9FS2Ju0a+G9Fe2Jx0a*09Fq2J+0c5W9XS30W0c3W9W02O10c0W9WC2Pe0biGCV037n0nyWCVC37q0nzGCVO37t0n+0CVa0000n+WCVi37y0n*GCVu37*9q8F0ZlW8xy2F00ZmG8y82F30Zn08yK2F60Znm8yW2F90ZoW8yi2FC9t8D0mzmCFW33v0m+W8je2BR0XKm8LG25L0d4m8nW2GZ0ZpYX17WCb439I0oKmCbG39L0oLWCbS39O0oMGCbe39R0oN0Cbq39U0oNmCh43Ao0oimChG3Ar0ojWChS3Au0okGChe3Ax0ol0Ch",
    "q3A+0oloXd5W9T02NH0bqW9TC20y0WHm84W21901pG0Su07G0UFW7Zy07u01+G0T407I01r00TO07O01sW0Tmf8Lu22i00e00A402a00fW0Aa02g00gm0Aq02k00hm0B802p00jm0BW02v00kW0Bi02y00lG0Bu02*00m00C403200mm0CG03500nW0CS03800oG0Ce03B00p00Cq03E00pm0D003H00qW0DC03K00rG0DO03O00sG0De03R00t00Dq03U00tm0E003X00uW0EC03a00vG0EO03d00w00Ea03g00wm0Em03j00xW0Ey03m00yG0F80",
    "3p00z00FK03s00+00Fa03w00+m0Fm03z00*W0Fy04001AW0Me04I01J00G404h01Qm0HC05DAY5U01100jW05101FG0Le05W01NW0MG05v01VG0Ni04502sm0K804+01Mm0iS05X01Nm0MK05w02tG0Nu05y01L00G804v011W0Gm04O016W0Gu05301Hm0L005O01RW0N005Y01LG0GC04w011m0Gq04P016m0Gy04H01H00KW05H01MG0My05n01Om0ja04801700IG04q01N00Mm049017G0IK04r01NG0Mq09n02Ym0du0A302aW0cm09k02UG",
    "0eW09M02Sm0dq0A202a00di09j02Nm0d80AT02ZW0c405B02S00e404d02bIiX9m0fG09c02c00S809J02Lm0eG09W01am0LC05I02Q00ea09O02TG0ba09S02NW0b009l02YW0cG0AC02L00b409I02ZG0cK0AY02eG0bK0AH02UW0cS09Q00000Vq1zm0VSIjGBm7t81zp03OG0iW0BC02q00j40C60WFm0mi0C103100m00CF03300m80Bb02vW0kS0Be02wG000000039G0om0Cv03700ny0CW03200pq0Cf03Bm0ju0Ca03C00pm0Cq037G0n",
    "u0CO036G0oe0Cw03Em0mC0CQB25J0dTW9tS2Tu0dUG9te2Tx0dV09tq2T+0dVm9Ei2Ji0axG9Eu2Jl0ay09F42Jo0aym9FG25m0XSG8N825p0XT08NK25s0XTm8NW25v0XUW8Ni2JG0aqG9D82JJ0ar09DK2JM0arm9DW2JP0asW9Di2JS0atG9Du2JV0au09E42JY0aum9EG2Jb0avW9ES2Je0awGCj03BH0oqWCjC3BK0orGCjO3BN0os0Cja3BQ0osmCjm3BT0otWCjy3BW0ouGCk83BZ0o+WCka3Bb0oxGCkmiVG821H0WGYqXDm9602HX0aOW",
    "96C2Ha0aPG96O2Hd0aQ096a2Hg0aQm96m2Hj0aRW96y2Hm0aSG9782Hp0XO08M425Y0XOm8MG25b0XPW8MS25e0XQG8Me3D90p50Co83DD0p60CoS3C30pDWCr43DN0p3GCoO3CZ0pAmCqe3Cx0pd0Cvq3EU0pZWCuy3F40peG8MijNnK3Dx0m7GC1y24M0ppG8I43Aa0ofGCgO3Ad0og0CZ438o0oEGCtu3Dz0pV000000000008YujU0S28V0Ylm00000000009rO2OUBY5U1FyI00i3G21EA0JYy4um1EZGJk44xz1E*mJmC4yB1FO0JqW4z91F",
    "LWJry4zg1FR0Jtu4+A1Fb0JvSFem1FoGJ+05011G0WK0u50O1G9mK2u5101GEmK4452K1Gp0KF853G1GvW+Z45461H0mKGi54U1HDGKKeFeo1HLGKLS3Ir1HdGKSC57A1HtWKU857k1I0GDDi58J1I5GKaa59N1IOGKfC5B83wCmKim5BG1IrWKjiFeq1Iy0Kli5C01J1mKnmFer1JOGKsC5Dz1JamKvq5Eo1K4WL2S5HD1Kd0L6i5Hq1KVmL8W5IM1KeIyXNWLAa5J61K*mLGu5Kh1LDGLL05LU1LWGLOO5ME3wDWLQq5NE3wDmLWW5OE1MEmLaa5",
    "Ps1MPW+ZW5Pl1MSGLd85QP1MdWLga5Qi1MimLia5RA1N2Y4Zq5SX1NBmLpC5Sq1NS0LtS5Ty1Nd0+WyXCR1Nk0LyS5V81NpmL+G5Vj1NzGL*O5V*1O2G+X05XX1OP0+Za5Xy1OYGM9uFew1OgI56u5ZI1OpWMDG5ZQ1Ou0MEa5aC26GGMLq5bj1PYmMP85ca1PmmMT85dT1Q4mMYC5fd1QRGMdS5f+1QX0Mfu5gd1Qn26Bq5iP1R9GKbrFL2iWkV1RGGMrO5jz1RamMzW5li1S4WN1u5mZ1SAmDuq5nY3wEm+ZmXQq1SUWN8y5oV1SemNAe5ow1Som",
    "ND05pI1Sz27ZG3VY1T3GNISFeH1THWNKS5rJ1TIWNMq5s11Te0NQG5sd1Tk0NSi5GUT2TO1MKmNU85uK1U60NbW5vU1UlW+IW5xB1U+GNm05y21V1mNnq5yZ1VD0NpO5yz1VG0NqK5zK1VM0NsG5zd1VVGNua5+S1VfmNwy5+r1VjmNya5*U1VuGN+a60D1W50O1W60p1WDGO4SFez1WdGO9u63B1Wr0ODK63T1W+0OHm64h1XC0OJSFe+1XZG+Zy66y1XkG+a068Y1YFWOaC69M1YMWOcy6A51Yn0OjO6By1Z2WOnW6Cv1ZGmOsK6Dy1ZvGO+q6Fr",
    "1a40P1G6GY1aUGP546HW1aRGPCu6I+1altKXNWPCG6JA1aq0PFS6Jx1b8WPIaFf11bPmPPqFf21c00PWa6OL1c7WPZe6OY1c90PYi6Om1cCGPZC6Rx1cI0PamZ741cMGPbe6PX1cPGPdC6Pt1cU0PeqFf31ce0Ph86Qx1cnWPiW3iY1csmPkW6Rw1d4m+Ia6Sp1dPWPqS6T81dUmPu46UJ1dc0Pvi6Ux1d+GPy06VN1d*0Q046XI1e7GQ2m6Wn1eMmQ786Xr3wH0QAC6Yb1eiWQCW6ZG1ew0QEq6Zm1eyGQFm6aA1fIIDSG6ar1fGWQLS6bZ1fP0QM",
    "W6c03w50QQK6cj1fpmExPs8Lu3l31fuWQUa6dg1fzGQVO6eF1g5IDpy6ex1gFWQaK6fG1gLWQbi6fh1gSoDsC6g91gb0Qfq6gU1gfGQkG6hd0y3m+Hq6iR1h7WQom6ir1hHWQrO6jW1hPGQsS6jt1hWWQwa6kj3vS0Qyy6lM1hrmQ*y6m51i40R3C6nP1iN0RAe6nq1iTWR8K6o61ic0R9m6px1inWRDG6pW1iwmREuZp+1j10RGu6qk1jCGRJa6q*1jM0RMKFf51jWWROS6s91jb0RQe6si1jlmRSG6tM1jsWRTi6tT1j*0+aO6uq1kH0Rbm6vU1k",
    "gmRh46x1To5U1knmRiu6yG1l6W+aS6yg1lBmRpC6zH1lMGRru6zX1lOWRtu6+81lZ0Ruq6+K1le0RwS6+s1ll0RyS6*A1l+GR*06*r1m1GS0O70e1mIWS5q71U1mJWS6G71r1mXGSAG72h1mjmSDG73O1mv0SGy74h1n7WSI074k1nC0SKO7571nKG+aW75I1nN0SM075e3w5GSOK7671naWSS476w1nn0SVu7801o5GSbK79M0+FmSeq7AR1olWSi07Bx97yGSoS7Ce3w5WSr07Dc1pV0SvK7EV1pe0Sw87Ec1pgmSya7FF1prWSza7FZ1pwNWXNW",
    "T0S7GA1q6WT1iFfA1q9WT2W7Gg1qAmT2m7Gk1qBmT307H41qHWT4S7HB1qLmT687Hh1qRGT8O7I71qYGT9W7IS1qdmTAC7IG1qfWTAW7If1qjGTBy7J81qoGTDe7J*1r0GTHS7Kl1rRmTNa7MI0*SWTSu7Na1s00TW87O81s5GTXO7OP1s7WTYq7Or1sGmTai7Pa1sPGTcq7Pl1sSGTe47QR1sdGTfu7Qc1sgWThO7R51sp0Tiu7RK1svWTl47Ry1t2WTna7Sq1tDWTqO7TD1tJWTrm7TV1tOWTte7U01tb0Twe7VW1uBIL8vv8Lu7X31uJWU4y7XH",
    "1uQ0U6uFfB1ui2LGu7Yj1uv0UF87a01uzmUHm7ak1vCGUJGFfC3wJGUKK7b63wJW+ayFfG1vN0+b4FeP3w6WUNaFfI3wKm+Xi7cO1viGURW7d81voYLt47dK1vtWUUi7dj1w0m+bG7ev1wNGUcqFfL1wXGUg0bd41wimUhi7hE1wwmUlq7iI1xBGUpi7j71xJWUs07jj1xRmUt87kU3wLWUzS7lP1y0GV347mU1y80V3C7ms12P2NQ47nP1yRGV7a7oF1yb0VA07oy1yrGVDa7pT1z1mVGW7qJ1z7GVIC7qnUY5U1zGGVKW7rJ1zN0VNe7s31zYmVQ",
    "07sc1zmWVSm7tM1zum+bS7ue1+20VX47uL3wMGVaS7vI1+OGVee7wD1*Hm+be7+H1*bmVxy7*E1*smVzy7*i1*xWV*eFfR2050W2O80r20DmW3m83A20rmWE083p2160WKe85W21PmWMW85j21kmWSe87F21rm+bm4HJ14MmWc089q9g*mWeu8AX22emWgG8Af22hWWhS8A+22lmWiO8BL22*GWlu8C0230GWs88CY23BGWpe8D323HmWr48DL23VGWuO8EI23c0WwS8Ef23lmWy08F723ptiXNWWz48FX23wWX048G6242W+by8H824NmX708Hp24",
    "XGX9u8Il24j0XBe8J024mYRa08Ko257WXIC8Kl25MGXMGFeV25hGXNe8MC25ZmXQ88Mm25omXSu8Nj264WXVy8O4261GXX0d3q2660XYa8Ou26LmXbiFas26OWHPq8Pi26TGXfW8Qu26+WXlm8Rz272mXt48U727Y0Xwm8Uj27jGHUe8VM27x0Y0O8WA2840Y1G8WV28c0YAe8ZA28pYTeG8Zr2970+c08aO296GYHe8ad29C0YJ88av29G0YPGFfX29r0YUK8ds2A4WYXLy8Lu8eY2ADmYaS8fE2ANGYc48fr2AUGYgS8hG2AtmYlG8hs3w8W+c8F",
    "fZ2BHWYrG8jP2BQGYvq8n92CQ0+cG8pX2Cz0ZFW8p+3wPGZH88qR2DhmZSu8tH2DrmZY08uZ2EFGZd08vxA2TmZi04X42E+WZnu8yj2FDWZrGeFD2FfWZxK8*a2Fw0Z+u9082GBG+cS9282GbGa9S92P2GcmaA892p2GlWaCG9352GnmaDS93T2GtWaEy93q3w9WaHG94L2H5WaI894Z2H9maIy94n2HD0aJq9582HMmaOC96U2Hh0aR496y2HrmaVi97aVI5U2HvGaUq97n2I1maX098u2IEGaZe98y2IG0aaC99F2IU0aeW9B22Iomaim9BJ2Iu0",
    "aly9C42J7mao49Cb2JI0aqa9DA2JP0asK9Dg2JS0avi9EZ2JkWayO9FU2Jtmb0G9Fz2KCmb4e9HZ2KQmb749Ho2LZWbPy9Mc2LgGbQm9Ms2LlGbSi9NG2LqmIR09NQ2LtWbbW9Q43vt0bfq9Qa2MfGbj89RU3wQ0bka9Rl2NCmbpi9TD2NJWbqy9TQ2NRWbtC9UL2NhWbxe9V12NoGbzu9VR2Nz0+ca9WA2O7Wc2i9Wm3wQWc589XJ2OLduXNWc5S9XP2OMW+T09Xb2OR0cBe9Z82OvmcLW9cU2Q0WcWC9ea2QBGcYu9eu2QIWcau9fI2QjWci49h3",
    "2QpWcjO9hv2R0WcmW9iW1C5mcoq9jU2RUGcsO9jo2RTGcuG9kA2RZmcvu9kd2RmGcyu9lb2R+0c*q9m02S8md449nF2SK0d5C9nZ2SPGd7S9qT2T7WdKC9r72TKWdMC9rm2TV0dOe9sM2Tm0dQm9sy2TroeP09td2U1mdXK9vy2UdWdgG9wi2UhmdhG9wr2Ummdj49yG2VEGdrS9+G2Vb0dvS9+Y1P+0N5i5vt1s9WVci0"]

/-- JIS X 0213 plane 2, by row and column. -/
def jisx0213TwoData : String :=
  String.join [
    "8I5U80YGJW84uF1E4WJYa4uh1EBWJa04v71EI20A84vH0q1Y0AG4vQ1EQGJfq3Gi0qBWJha4wx81eWJhm4x31Eo0Jj04xh1EsWJl44xr1F00JnO4za1FDmJpu4zK1FM20XC4zt1FU0Jte4zz1FWWJuK4+I1FcWJ+O4+o1FlWJyK4*B1FpmJz83Hg1FyWK0050G1G4mK1m50U1G8WD6W5121GHWK4u51J1GLmK6C51c1GQWK7052Z1GY0K9852J1GbGK9O52S1GgY0oi52n1GkWKBi5341GnmKFCWE11GpY0t453K1GsGKE453f0qaYCXNWKGWWFv1H",
    "5mKHiWHA1HO21Ga55p1HWmKOi3Iy1Hc0KQC56j0qnmKRmWNM86A0KVC57q1I0WKX858M87JmKbK59S1IR0KdS5A41IWY20S5AO88EWKgG5Ac1IhmKhe5Ax1IoWDHy5BH88kGKlS5CA1J2mKoG5Cr1JFWKq8Wby89dGKsS5Di1JUWKwG5Eq8AqmKxS5F08B7GDLq3LU1JrGKze3LZ1Jz0K*K5HL1K90L2W3Lk1KGmL685Hc1KR0L8e5ID1KbGLA05Ic1KhGLAu5It1KkWLBy5J38DHGLEm5Jl1KyGLFC5K01L0GLGaa8Lu5Ky1LGGDQO5L71LIWDQW5",
    "LW1LOGLMGWtX1LVGLO85M81LaGDSK5NI8EbI3cq5M*1LoGLSm5NH1LtGDTe5NY8EP0LUa5Oe8FNmLWS5OG1MC0LZS3Nq1MFGLZy5P01MHmLbu5PW1MRGDWK5Q81MZ0LfK5QQ1MdGLgW5Qj1MiWLiK5RD1MtmLkW5Rs1Mzo4W45SL1N8o4bK5Sf8IUmLqK5T61NJ0LqqX9q1NQ0Lsy5Tp1NT0LtK5Tx8Iv24jS5Ui1NcWLvq5UU1Ng0LzSXBz1Np24pOXD41NtWL+O5Vm0sIWL*W5Vx1N*GM0G5WU9I5U1O80M2S5Wo1OEI4yG5X91OJ0M6S5YA1OYm",
    "M8q5YF1Oa0M9G5YT1OgWMB4XHj1OmmMCq5ZY1OymMFG5a51P1WMGi5aD1P50MIGXNN0saGMJq3QP1PHWDfOcmf1PMmMLyXP71PTGMNO5by1PdmMQu5cy1Po0MSq5dU1PumMUG5dd1PxY5mOXT20spmMWm5eD1Q5mMYS5ej1QLGMcK5fw1QYmMfm5gV1Qe0Mg85gn1QimMhK5gw1QlmMje5hS1Qu0MkK5hm1QxWMlK5i01R20MnS5iq1RBGMqm5jI1RQ0Msy5jy1RVmMu45k48PmoWXNWMvO5ki0tOGMy03TY1RpWMzO3Ti0tQmM*45lz0tTGN0C5mf",
    "1SC275O5nV1SOmN6S5ne1SQGN70Xqj8THGN7mXru8TOWN8W5oA0tmI7Q4XsS1Se0NA85oc1Sfo7P85oj1SjI7RS5p98Tu27ZC5q61T40NIi5qT1T80NIG5qc1TCGNJa5r20tw0NM45rg0tz0NN0XyU0t*GNOW3W01TaWNPG5sN1TcGNR05so1Tj27tO5sv1TqGNTS5tO1Tu27*e5ta1TwGE2y5u00uDWNX85uL0uG0NXy5uk1UFWNaa3XS1ULWE645vh1UR0Ncqi8Lu5vk8XUmNgK5wg1Uh0Nha5w*1UnWNj85xP8Z7WNlq5y81V3WNnmYEj1V7WNq",
    "S5zZ1VSWNtu5+F1VeWNwG5+u1Vn0EFe5*71VomNz85*J1Vr0N+85*k1VxmN*C5*y0v5mO1S60Y1W90EHe61C1WVmO8e62L1Wg29lC62m1WiGOBu6381WsGODi63k1WyWOFK64G1X4WOHC64P1X7WOJe3bl1XGGOKO65W1XV2A5i66I1XamOPS66O1XfGOQW66j8egmOTK67T1XtmOVKYcF1Y5GOYC68f1YHWOam69H1YKWOc469a1YUmOcq69pBI5U1YcGOgO6BL8gk0Olq6C31Z3GOn0YjF8hK0Op86Cr1ZEmOpm6D11ZH0OquYj61ZMIB1qYkc1Z",
    "R0OuG6EP8i90OvG6Ez1ZzmOzG6FL1Zt0O+06Fh1Zx0O*86G91a7WP2K6Gf1aBmP5e6HR1aNGP7C6Hz1aXmP946IT1admPCi6JC1arGPDSYtX1av0PEK6J*1b10Ecu6KF1b50PHO3fp1b7WPJ86L41bL0PMi6Lw1bWGPOG6M51bYWPR86Mr1bk0PRy6N21boGPTG3hM1byWPVa6Ny1c10PWW6OX1cAWPaK6PH1cJWEkeZ731cLouXNWPbi6PZ8nzICRO6Pg1cQmPcm6Pj1cUmPe06QG1caWPfa3iE1chGPh46Qr0x6WPhy3iS1cx0EjS6S11d1GPn8Z",
    "Do1d6ICzCZFI1dJ0Pqq6TK1dNICz0ZFa8prGPtG6Ts8psWPv8ZFV23OmQ106Um1diWPyC6V81dqWPza6VR1dy0P*SZHA8qKID4i6WO1e7mQ2qZHb1eCmQ3i6W+1eH0Q4K6X91eJ0Q5K6XN0xTmQ6i6Xk1eUWQ7m6Y21ea0Q9O3jj1ec0Q9a6YQ1ed0QAe6Yh1ej0QBi6Zx8qv2DLeFeJ1emmQCK6ZC1epmQDOl8Lu6ZP1ev0QEK6Zi1ezmQGC6a70xXmEuWZMK1fEmEuq6b61fQGQMm6bo1fUWQNy6cI0xf0QPO6cO1ffWQR06ct1fkWQRm6d01fqG",
    "QTOZOv8sHmQZ0ZOu8sEWQUC6dk1fxmQVC3lD1fz0QVu6eH1g6WQXqZSS1gCWQZC6eq1gFmQaO6f91gUWQau6fI1gP2Dmm6f+1gWmQei3lm1gaGQfy6gX8tP0Qgi6gz1gnWQjG6hG1gt0QjqZV*8tvmQkm6hn1gyWQlC6hz8u90Qmi6iF1h40Qn4ZWz1h5mF2O6il1hIWQrW6ji1hTGQte6k1RY5U1hcmQwuZgO1hlGQxu6l71ho0Qya6lQ1hvWQ+S6lk1hyGR086mA1i3WR3K6ms1iEYF7y6m*1iJGR5i6nj1iX0R8a3p31ib0R9K6oN1ihGRC86pG",
    "0yqWRDO6pQ1it0REa6pi1ixIFG06q01j2WRIG6qc1j9mR6S6ql1jF0RLi6rU1jO0RN06s01jWGROe6sD1jaGRPWZr01k5oFVeZtv8zqmRQi6sk1jj0RS86qq1jo0RSu6tF1jq0RTy6tf1jzWRZO6uU1k8WRYS3qH1kCWRZm6v81kIGRai6vC1kJmRb46vJ1kL0RbS6vZ0z7cyXNWRfC6wd1kj0Rhy6x31koWRja6yr1kwmRla6xx1l2WRmm6yO1l9GRpO6yy8*VWRr86zN1lMWRs06ze1lc0Rtq6+G1lbWRxu6+V1lfGRwy3ra1ljGRyW6*91lsWRz",
    "u6*f90bWR*m7001m1mS0e70Z910mS3a70w1mF0S4C7171mImFPe71K1mPGS6a71i1mRWS7O71+1mWGS8O72L1mbmSBia761mdmSB4a7+1mx0SCe73H1mqmSDm7431n10SGO7471n20SGm3t01nBmSJ475G1nIWSLC75U0zr0SPO7601ncmSQ076Y1nhWSQzm8Lu76p93l0SSi77J1nsGSTm7870+1G+aa78h1oD0SZW78v1EB0Sa879J1oLmScCaOf1oRWScy79u1oVmSeuaQb1ohGSgu7Am1oiGSi43vW1op0FcO3ve1oymSle7C71p4WSnW7CP0+",
    "WmSpa7Ci1pCGSpC7Cz1pKWFfG7Dh1pR2I9O7Dk1pRmSt47Dt1pWGSuK7EA1pb0SvW7ES1pdWSwK7Ee1pjGSxS7Ev1pl0Sxy7F51pomS+47Fd1p+GT1C7Fw1q0GT2G7Gn1qEGT5C7H01qGmT4q7HI1qNGT747I11qXGT8WafD1qaWT9S7IPSI5U1qe0TA47Ib1qgWTAi7Iv1qkmTBe7JM1qs0TDu7Jl1qwoIrO7Jw9BRmTI07Ka1rAWFrSamM1rFGTJu7L01rI0TKu7LG1rKWTMm7Lo1rSGTNe7Lz1rVWTO4aqK1rZ0FtK7MY0*TmTR07Mt1rlmTS07",
    "N61rpmTTC7NT1rtmTU07Nd1rx0TUu7Nn1r+GTWC7OO1s1mTWy3+k9E3WTXC7OR1s72JZS7Ob1sA0TZm7Op9EQWFya7P19EYmTaa7PL0*rmTcu7QL1sd0Tg47QW1sfmTgW7Ql9GIWTiab1L1sw0Tkmb4Y1t5mTne7Sj1tDN8XNYKQa40v9HvIKSq7TO1tO0Tseb8U1tSWTtm7Tz9IJ0G5W7UQ1tdmTw87Ua1tgGTzu7VV1tv0T+O7Vg1tx0G9C7Vm1tz0T*ibGk1u1GU0O7W91u3GU1a7WX1uB0U4S7Xa1uQYLDa7YA1ub0UAG7YT1udWU9y7Yx1uo0",
    "UCm7ZE1urGUE07ZX1uvWUFa7Zw1u+mUFubMd1v40UHi7am1v9GUJi7bA1vM0ULi4451vPmUN87cK1vbGUPO7cR1veGUQa7cq1vkmUS87d71vp0USq7dM11I2LwabUq11JmUWe7eH1w5GUXi7eU11OmUYrp8Lu7eu1wHmUam7fM1wMGUbm7fV1wO0UcS7fg1wTGUdW7g21wYWUf07gZ1wh2MTG46q1wkGUhm7g+11lmUim7hH1wvmUkW7hq9Qv2MkC7i79QyGUpq7id1xAWUou7il1xCGGUO47p1xVmUq447k1xLGUta7ja1xPWUsa7jp9RiWGWS7kG",
    "1xaGUvi48E1xhmUxK7ky1xnGUyebnB9SP0UzG7lM1xsWU+e7lm1y0mV0i7mE1y3mV2O7n51yIWV547nN1yNWV647nf1yRWV6y7nm9UBYNbObvb1yfYNc87os1yjmVBybxO1yn2Ni87p8T25U1ypINkW7pN9V8mVEO7ph9VN0VFK7q31z2GGiO7qI1z7YN+0b*K1zFGVJu7r01zHoO0mb*x12rWVLa7rQ1zQWVN04BT1zVoO1S7s61zY0VOm7sN9WO0VPq7sd1zgWVRO7st1zm0VTS7tP1zvWVV47tv130YOEqFfO1+40VXS7uT1+80VYS7ui1+HGVd",
    "C7vr1+VWVeO7w713AmVf47wO1+cWGqC7yy1*EmVpu7z31*H0Vqy3J19YS0Vr8cA61*OGVsC7za1*RGVtq7z+9ZJ0Vv055x8z3WVvO7+S1*hIP087*31*pmV+C7*b1*xtKXNWV*8802202WW0W80E204GW1O80a20B0W3081320PWW7481r20UmW9a82S20f0WAS82u9cVWWCK83L20s0WEOcQm213GWFK83x13xWWJK84M217WG*084a219mWImcST21FGH0W85f145mWO44GS21X0WOK4GY21c0WR887121mmWTO87R9etGWUGcZg21x2QL487z21",
    "*oQMy8849ftGWXa88X228YQXu88o22D0WZm89622IGWaKcfO22ImH7O89F14UWWbScgC22N0WcCcgt3wNG+bu89v14aGWdq89*22WmWee8AJ22fmWgXs8Lu8Ao22j0Whe8Ay22uWWkW8Bt231mWmW8CC23L0Wni8CT23C0Wpm8D423LmHBu8D*14r0HBC8ED23b0WvK8ER23dGWya8FG23r0Wzq8Fb23+GX0y8GH245IR7C8GN24EGX4e8HF24KGX588HP24MWX5mcpT24PGX7O8Hu24V0X844KD24t0X9S8Ic24lWHGW8JE24pmXDCcvb24vmXEe8",
    "Jl24y0XF48Jw24*GXGm8KR2590XIK8Kh25D0XKy8Ll159GHKC8K+25KGXLC8LU25OGXM8c+K25UmXNq8L*25WGXOO8MJ25dGXPyc*uTo5U9lzYR*S8Mt25l0XSS8NA25s0XTa8NV25uGXUO8Ns2600XX48OU268GXYG8Od9n3GXZa8Oy9nEGXa0FeW26KmXbO8Pl26TmXde8Q726YGXeq8QH26d0Xfq8Qe3w8GXh48Qp26mGXiC8RH26rGXjS8RZ26vWHRW8S5271mXmu8SG274mXna8SV278GXoC8Sn27EWXpu8T027GmXr48TO27P0XsK8To27V2",
    "SzidFQ27fmXua8UB27amXw0dF+15vGXxudGG27mGXyu8Vr27toT4a8VZ27vGX+O8Vg27wmX+q8W1280mY0i8WJ28A7WXNWY2u8Wo28F0HWy8XA28M0Y5y8Xa9s5ITXG8Xf9sCGY6y8YW28l0YBq8Y+28m0YD8dQJ28qGYDC8ZR28y0YF44P1290ITmu8at9t8mYK88b529IITr84Pb29OWYO08c929a0YPy8cm29jmYTO8dO29wmHg48dn29ymYVq8d*16hmYX48eK9vXGYY48er2AFWYaK8fD2AM0Ygu8gG2AjmYhu8hN2A*2UeG8iA2B1GYmq8iS",
    "2B7mYoq8j31730Yr48jU2BTWYty8k12BYmYvG8kL2Bd0Yvu8mv9ximZ3qdk+9xnmZ4K8n72CJmZ5Hv8Lu8nN2CQGZ6q8np9yk0Z9C8oI2CcGHsG8oR2Cf0ZDO8pL2CsIVQ08pm2CyIVX08q92D3WZMm8s42DbGZQOd+t2DnWZSW8tP2Dx0ZWm4Vz2D*GZWOe2A2E50ZXO8uX2E8WZYSe2x185WZZO8uv2EImZbG8vY2ER0Zcq8vl2Ec0Zfu8wk2EimZhK8ws2EkoWe88xH2Er0I4u8xvA2ymZm08y82F5mZoi8z02FIWZrWeGC2Ff0ZxGFfc2FjYX5",
    "K8*12FnW+YG8*A2FpGZzC8*L2Fu0Z*48*r2F+ma0890C2GDoXMi9132GH0a5qeN8UY5UA5oGa8K92C2Ga0bXq92X18jGaB092s2GmmaCWeRN2Gt0aDyeRw2GzWaF89402GwmaFu93*2H10aGO94O2H70aHu94t2HEGaJe9562HHmaLS95P2HOGaMG95q2HUGaOK96E2Hg0aQu96p2HjWaSC9742HsYYKaeb62Hx0aUu9812I2WaXO98NA9QmaZC9922IHmaae99E2IKGabO99P2IO0ac499b2IPmacWec7A9Y0adm99z2IVmaea9AD2Ibmafa9AV2I",
    "fmagiecwA9kmah89A*2Im0aiO9BE2Iq0ajS9BP2IvGakS9CHAA7diXNYYYa9Bt2I+Gali9C22J3GanK9CT2J7WaoS9CfAASIYaC9D72JKGarS9DQ2JQmat49Dp2JeIYfaehD2JY0aui9EF2JdWa*KehaAAtGa*49F12Jnmazm9FY2Jvmb0a9GF2K5Wb1S9Fx2KCWb3G9Gx2KHIYy4ell2KRGb6y9Lu2LUGbOO9MC2LZIZH09Mh2Lj2ZN49N8AD+oZXy9Oi2MCmbZGeus2MF0ba49PXAEYGbe8exh2McYZp84dd2MgGbgy9Qp2MkWbhq4dwAF+0bjW9",
    "RQ2MtGIWG9SK2N8mIYa9Ss2NGGbqS9TL2NLmbrjy8Lu9TgAIe2ah49UM2NcWbvu9UY2NiGbx89U+2Np0bz49VK2Ns0bza9VX2NyGc0G9WD2O3Wc1G9WM1Al2b909WZ2OCWc3C9Wb2OHmc6O9Yh2OhGcB0fNF2OjmcBW9Yx2Ol0cBy9Z22OnmcCi9ZWAMVmcE49ZZ2OvGcEe9Zm2OyGcFC9a81BEobl09aM2P5obna9aQ2P6mcHmfTG2PCGcJ89ap2PEWcJi9ay2PG0cK49b62PJGcKu9bS2PNmcM09cZ2PfWcRa9cz2PlmcSC9d92Pr0cTa9dUAOnW",
    "cV09dv2P*0cWe9eH2Q5WcXe9eWVI5U2QCGcZO9f42QJ0cbW4l22QhmIye9gt1BqWchaffo2QnWcj09hI2QrGI+W9hS2Qu0ckK9hf2R0mcmm9iG2R4WcnO9iS2RAmcpC9iz1C80cqi9jZ2RPGcsi9ji2RSmctO9jt2RfWcwm9knATsodZq9ko2Rk0cxu9l72RymczW9lT2Rvmc+e9lh2Rxmc+ufuL2R+Ydee9ltAUIGd1O9mO2S6Gd1e9mT2S8Wd2S9mf2SAYdiG9mn2SDWd3S9n52SN2dka9n92SIYdji9nK2SM0d5i9nT2SNmd6a9ng2SQmd6q9nk",
    "2SS0d789nr2SUduXLWdEO9po2T2mdG8f*E2T4GdHS9qOAWBmJCGg0Q2TCWJD49r22TIWdLy9rYAW+GdMa9rhAWWWdNC9rs2TTmdNu9s42TZGdPa9sX2TlmdRK9sv2TlGdSC9t72ToGdTO9tQ2TtmdU09tZ2Tz0JGS9uA2U0WdWq9uP2U70dXq9vx8Y60de09w52UcmdgWgEC2UlIf3S9xV2Uvmdku9x*2V0WJNS9y32V5mdna9yl2VDmdpe9yz2VGGdqK9z62VKmdrK9zOAbyGdrqgO22VQIfXe9zj2VS0dtKgQo"]

/-- The HKSCS characters that stand for two code points. -/
def hkscsPairData : String :=
  "08XY003A00C408Xa003A00CC08YZ003g00C408Yb003g00CC"

/-- The JIS X 0213 plane 1 characters that stand for two code points. -/
def jisx0213PairData : String :=
  "02Ht031B032Q02Hu031D032Q02Hv031F032Q02Hw031H032Q02Hx031J032Q02Lt032h032Q02Lu032j032Q02Lv032l032Q02Lw032n032Q02Lx032p032Q02Ly032x032Q02Lz0334032Q02L+0338032Q02Pu037t032Q02j4003c00C002j8009K00C002j9009K00C102jA00AC00C002jB00AC00C102jC009P00C002jD009P00C102jE009Q00C002jF009Q00C102jb00Bf00Bb02jc00Bb00Bf"

/-- The four-byte GB 18030 sequences below U+10000, as runs: the index of a run's first
sequence and its first code point, six digits each. -/
def gb18030RunData : String :=
  String.join [
    "00000020000a002b000c002f000j002o000o002u001H003O001P003Y001V003h001W003k001a003q001d003u001e003x001f003z001j0042001+004K0025004S002K004i002i0055002l0059002p005E003G005i004o007F004p007H004q007J004r007L004s007N004t007P004u007R004v007T005L007w006i009I006x009Y008W00B8008X00BC008k00BQ00Bb00EY00Bc00Eg00Bj00F200Bk00FA00Cb00G200Cp00HG00",
    "Cq00HI01xo020H01xq020N01xr020Q01xt020U01x+020d01y7020n01y8020q01y9020s01yE020y01z+022j01*K024401*L024601*O024A01*a024N01*k024Y020i025i020m025w0216026K0218026Q022s0289022y028G022z028I0230028M0234028R0236028X0238028a0239028c023A028i023C028l023H028u023M028+023W0299023Z029D023e029J023r029Y023t029e023z029m024Y02AM024b02AQ024m02Ac0259",
    "02B0026R02CJ02Be02Hg02Bo02IS02DM02LC02DQ02Lq02Dd02MG02Dg02MM02Dq02MY02E402Mq02EC02M+02EK02N802EN02NC02EP02NG02Eh02Nc02FA02O702FC02OA02G202P102G302P302n102w202n302w502n602w902n802wD02nI02wO02nX02we02nZ02wh02nc02wl02ng02wq02ni02wu02nl02wy02nz02xB02sY02*y02sc030402sd030O02si030V02sk030g02t2030*02t4032K02tB032V02tD033t02tI033*02tO03",
    "4g02xE038g02xL038o02z603Aa030m03EG030y03EV030+03EY031W03F5031f03FF031h03FJ031j03FM033U03H8034903Hq038p03MV03AY03OF03Aj03OR03Mg03aP03N*03bl03PV03dH03Pj03dW03S003fq03VQ03jF03Zv03nl03bg03pX03pV041N03td045W03++04Cu040o04Ej040s04Eo041X04FU045P04JN04BE04PD04BY04PY04EZ04Sa04Ee04Sg04Fw04Tz04GA04UE04N304b804Nr04bx04Nt04b+04Nx04c404Ny04c7",
    "04OG04cS04OJ04cW04Of04cu04Ze04nu04aF04oa04b+04qQ04eI04sl04fZ09+c08Az0ETi08A+0EV808A*0EVd08BC0EWL08BD0EWP08BI0EWV08BP0EWd08BT0EWj08BX0EWp08Bf0EWy08Bm0EX408C00EXM08CE0EXb09FL0Faj09GX0Fbw09Gy0FcM09ID0Fde09IM0Fdo09Im0FeG09In0FeI09Io0FeL09Ir0FeP09Ix0FeY09Iy0Feb09I+0Feg09Z40Fuo09Z50Fv509Z90FvJ09ZA0FvO09ZB0Fvd09ZC0Fvi09bX0FzV09dY0F*c"]

end Bookmarks.Codec
