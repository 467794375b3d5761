set_option autoImplicit false

/-! # Character names from U+A000 up to U+11FFF

The names of Unicode 14 without those that follow a rule, in the form that
`Text/CharacterName.lean` reads: a line with a code point starts a run of consecutive
characters, and every other line is a name, with its number of leading words that it shares
with the name before it in their place.
-/

namespace ClassLift

/-- The names of the characters from U+A000 up to U+11FFF. -/
def namesFromA000 : String := "U+A000
0YI SYLLABLE IT
2IX
2I
2IP
2IET
2IEX
2IE
2IEP
2AT
2AX
2A
2AP
2UOX
2UO
2UOP
2OT
2OX
2O
2OP
2EX
2E
2WU
2BIT
2BIX
2BI
2BIP
2BIET
2BIEX
2BIE
2BIEP
2BAT
2BAX
2BA
2BAP
2BUOX
2BUO
2BUOP
2BOT
2BOX
2BO
2BOP
2BEX
2BE
2BEP
2BUT
2BUX
2BU
2BUP
2BURX
2BUR
2BYT
2BYX
2BY
2BYP
2BYRX
2BYR
2PIT
2PIX
2PI
2PIP
2PIEX
2PIE
2PIEP
2PAT
2PAX
2PA
2PAP
2PUOX
2PUO
2PUOP
2POT
2POX
2PO
2POP
2PUT
2PUX
2PU
2PUP
2PURX
2PUR
2PYT
2PYX
2PY
2PYP
2PYRX
2PYR
2BBIT
2BBIX
2BBI
2BBIP
2BBIET
2BBIEX
2BBIE
2BBIEP
2BBAT
2BBAX
2BBA
2BBAP
2BBUOX
2BBUO
2BBUOP
2BBOT
2BBOX
2BBO
2BBOP
2BBEX
2BBE
2BBEP
2BBUT
2BBUX
2BBU
2BBUP
2BBURX
2BBUR
2BBYT
2BBYX
2BBY
2BBYP
2NBIT
2NBIX
2NBI
2NBIP
2NBIEX
2NBIE
2NBIEP
2NBAT
2NBAX
2NBA
2NBAP
2NBOT
2NBOX
2NBO
2NBOP
2NBUT
2NBUX
2NBU
2NBUP
2NBURX
2NBUR
2NBYT
2NBYX
2NBY
2NBYP
2NBYRX
2NBYR
2HMIT
2HMIX
2HMI
2HMIP
2HMIEX
2HMIE
2HMIEP
2HMAT
2HMAX
2HMA
2HMAP
2HMUOX
2HMUO
2HMUOP
2HMOT
2HMOX
2HMO
2HMOP
2HMUT
2HMUX
2HMU
2HMUP
2HMURX
2HMUR
2HMYX
2HMY
2HMYP
2HMYRX
2HMYR
2MIT
2MIX
2MI
2MIP
2MIEX
2MIE
2MIEP
2MAT
2MAX
2MA
2MAP
2MUOT
2MUOX
2MUO
2MUOP
2MOT
2MOX
2MO
2MOP
2MEX
2ME
2MUT
2MUX
2MU
2MUP
2MURX
2MUR
2MYT
2MYX
2MY
2MYP
2FIT
2FIX
2FI
2FIP
2FAT
2FAX
2FA
2FAP
2FOX
2FO
2FOP
2FUT
2FUX
2FU
2FUP
2FURX
2FUR
2FYT
2FYX
2FY
2FYP
2VIT
2VIX
2VI
2VIP
2VIET
2VIEX
2VIE
2VIEP
2VAT
2VAX
2VA
2VAP
2VOT
2VOX
2VO
2VOP
2VEX
2VEP
2VUT
2VUX
2VU
2VUP
2VURX
2VUR
2VYT
2VYX
2VY
2VYP
2VYRX
2VYR
2DIT
2DIX
2DI
2DIP
2DIEX
2DIE
2DIEP
2DAT
2DAX
2DA
2DAP
2DUOX
2DUO
2DOT
2DOX
2DO
2DOP
2DEX
2DE
2DEP
2DUT
2DUX
2DU
2DUP
2DURX
2DUR
2TIT
2TIX
2TI
2TIP
2TIEX
2TIE
2TIEP
2TAT
2TAX
2TA
2TAP
2TUOT
2TUOX
2TUO
2TUOP
2TOT
2TOX
2TO
2TOP
2TEX
2TE
2TEP
2TUT
2TUX
2TU
2TUP
2TURX
2TUR
2DDIT
2DDIX
2DDI
2DDIP
2DDIEX
2DDIE
2DDIEP
2DDAT
2DDAX
2DDA
2DDAP
2DDUOX
2DDUO
2DDUOP
2DDOT
2DDOX
2DDO
2DDOP
2DDEX
2DDE
2DDEP
2DDUT
2DDUX
2DDU
2DDUP
2DDURX
2DDUR
2NDIT
2NDIX
2NDI
2NDIP
2NDIEX
2NDIE
2NDAT
2NDAX
2NDA
2NDAP
2NDOT
2NDOX
2NDO
2NDOP
2NDEX
2NDE
2NDEP
2NDUT
2NDUX
2NDU
2NDUP
2NDURX
2NDUR
2HNIT
2HNIX
2HNI
2HNIP
2HNIET
2HNIEX
2HNIE
2HNIEP
2HNAT
2HNAX
2HNA
2HNAP
2HNUOX
2HNUO
2HNOT
2HNOX
2HNOP
2HNEX
2HNE
2HNEP
2HNUT
2NIT
2NIX
2NI
2NIP
2NIEX
2NIE
2NIEP
2NAX
2NA
2NAP
2NUOX
2NUO
2NUOP
2NOT
2NOX
2NO
2NOP
2NEX
2NE
2NEP
2NUT
2NUX
2NU
2NUP
2NURX
2NUR
2HLIT
2HLIX
2HLI
2HLIP
2HLIEX
2HLIE
2HLIEP
2HLAT
2HLAX
2HLA
2HLAP
2HLUOX
2HLUO
2HLUOP
2HLOX
2HLO
2HLOP
2HLEX
2HLE
2HLEP
2HLUT
2HLUX
2HLU
2HLUP
2HLURX
2HLUR
2HLYT
2HLYX
2HLY
2HLYP
2HLYRX
2HLYR
2LIT
2LIX
2LI
2LIP
2LIET
2LIEX
2LIE
2LIEP
2LAT
2LAX
2LA
2LAP
2LUOT
2LUOX
2LUO
2LUOP
2LOT
2LOX
2LO
2LOP
2LEX
2LE
2LEP
2LUT
2LUX
2LU
2LUP
2LURX
2LUR
2LYT
2LYX
2LY
2LYP
2LYRX
2LYR
2GIT
2GIX
2GI
2GIP
2GIET
2GIEX
2GIE
2GIEP
2GAT
2GAX
2GA
2GAP
2GUOT
2GUOX
2GUO
2GUOP
2GOT
2GOX
2GO
2GOP
2GET
2GEX
2GE
2GEP
2GUT
2GUX
2GU
2GUP
2GURX
2GUR
2KIT
2KIX
2KI
2KIP
2KIEX
2KIE
2KIEP
2KAT
2KAX
2KA
2KAP
2KUOX
2KUO
2KUOP
2KOT
2KOX
2KO
2KOP
2KET
2KEX
2KE
2KEP
2KUT
2KUX
2KU
2KUP
2KURX
2KUR
2GGIT
2GGIX
2GGI
2GGIEX
2GGIE
2GGIEP
2GGAT
2GGAX
2GGA
2GGAP
2GGUOT
2GGUOX
2GGUO
2GGUOP
2GGOT
2GGOX
2GGO
2GGOP
2GGET
2GGEX
2GGE
2GGEP
2GGUT
2GGUX
2GGU
2GGUP
2GGURX
2GGUR
2MGIEX
2MGIE
2MGAT
2MGAX
2MGA
2MGAP
2MGUOX
2MGUO
2MGUOP
2MGOT
2MGOX
2MGO
2MGOP
2MGEX
2MGE
2MGEP
2MGUT
2MGUX
2MGU
2MGUP
2MGURX
2MGUR
2HXIT
2HXIX
2HXI
2HXIP
2HXIET
2HXIEX
2HXIE
2HXIEP
2HXAT
2HXAX
2HXA
2HXAP
2HXUOT
2HXUOX
2HXUO
2HXUOP
2HXOT
2HXOX
2HXO
2HXOP
2HXEX
2HXE
2HXEP
2NGIEX
2NGIE
2NGIEP
2NGAT
2NGAX
2NGA
2NGAP
2NGUOT
2NGUOX
2NGUO
2NGOT
2NGOX
2NGO
2NGOP
2NGEX
2NGE
2NGEP
2HIT
2HIEX
2HIE
2HAT
2HAX
2HA
2HAP
2HUOT
2HUOX
2HUO
2HUOP
2HOT
2HOX
2HO
2HOP
2HEX
2HE
2HEP
2WAT
2WAX
2WA
2WAP
2WUOX
2WUO
2WUOP
2WOX
2WO
2WOP
2WEX
2WE
2WEP
2ZIT
2ZIX
2ZI
2ZIP
2ZIEX
2ZIE
2ZIEP
2ZAT
2ZAX
2ZA
2ZAP
2ZUOX
2ZUO
2ZUOP
2ZOT
2ZOX
2ZO
2ZOP
2ZEX
2ZE
2ZEP
2ZUT
2ZUX
2ZU
2ZUP
2ZURX
2ZUR
2ZYT
2ZYX
2ZY
2ZYP
2ZYRX
2ZYR
2CIT
2CIX
2CI
2CIP
2CIET
2CIEX
2CIE
2CIEP
2CAT
2CAX
2CA
2CAP
2CUOX
2CUO
2CUOP
2COT
2COX
2CO
2COP
2CEX
2CE
2CEP
2CUT
2CUX
2CU
2CUP
2CURX
2CUR
2CYT
2CYX
2CY
2CYP
2CYRX
2CYR
2ZZIT
2ZZIX
2ZZI
2ZZIP
2ZZIET
2ZZIEX
2ZZIE
2ZZIEP
2ZZAT
2ZZAX
2ZZA
2ZZAP
2ZZOX
2ZZO
2ZZOP
2ZZEX
2ZZE
2ZZEP
2ZZUX
2ZZU
2ZZUP
2ZZURX
2ZZUR
2ZZYT
2ZZYX
2ZZY
2ZZYP
2ZZYRX
2ZZYR
2NZIT
2NZIX
2NZI
2NZIP
2NZIEX
2NZIE
2NZIEP
2NZAT
2NZAX
2NZA
2NZAP
2NZUOX
2NZUO
2NZOX
2NZOP
2NZEX
2NZE
2NZUX
2NZU
2NZUP
2NZURX
2NZUR
2NZYT
2NZYX
2NZY
2NZYP
2NZYRX
2NZYR
2SIT
2SIX
2SI
2SIP
2SIEX
2SIE
2SIEP
2SAT
2SAX
2SA
2SAP
2SUOX
2SUO
2SUOP
2SOT
2SOX
2SO
2SOP
2SEX
2SE
2SEP
2SUT
2SUX
2SU
2SUP
2SURX
2SUR
2SYT
2SYX
2SY
2SYP
2SYRX
2SYR
2SSIT
2SSIX
2SSI
2SSIP
2SSIEX
2SSIE
2SSIEP
2SSAT
2SSAX
2SSA
2SSAP
2SSOT
2SSOX
2SSO
2SSOP
2SSEX
2SSE
2SSEP
2SSUT
2SSUX
2SSU
2SSUP
2SSYT
2SSYX
2SSY
2SSYP
2SSYRX
2SSYR
2ZHAT
2ZHAX
2ZHA
2ZHAP
2ZHUOX
2ZHUO
2ZHUOP
2ZHOT
2ZHOX
2ZHO
2ZHOP
2ZHET
2ZHEX
2ZHE
2ZHEP
2ZHUT
2ZHUX
2ZHU
2ZHUP
2ZHURX
2ZHUR
2ZHYT
2ZHYX
2ZHY
2ZHYP
2ZHYRX
2ZHYR
2CHAT
2CHAX
2CHA
2CHAP
2CHUOT
2CHUOX
2CHUO
2CHUOP
2CHOT
2CHOX
2CHO
2CHOP
2CHET
2CHEX
2CHE
2CHEP
2CHUX
2CHU
2CHUP
2CHURX
2CHUR
2CHYT
2CHYX
2CHY
2CHYP
2CHYRX
2CHYR
2RRAX
2RRA
2RRUOX
2RRUO
2RROT
2RROX
2RRO
2RROP
2RRET
2RREX
2RRE
2RREP
2RRUT
2RRUX
2RRU
2RRUP
2RRURX
2RRUR
2RRYT
2RRYX
2RRY
2RRYP
2RRYRX
2RRYR
2NRAT
2NRAX
2NRA
2NRAP
2NROX
2NRO
2NROP
2NRET
2NREX
2NRE
2NREP
2NRUT
2NRUX
2NRU
2NRUP
2NRURX
2NRUR
2NRYT
2NRYX
2NRY
2NRYP
2NRYRX
2NRYR
2SHAT
2SHAX
2SHA
2SHAP
2SHUOX
2SHUO
2SHUOP
2SHOT
2SHOX
2SHO
2SHOP
2SHET
2SHEX
2SHE
2SHEP
2SHUT
2SHUX
2SHU
2SHUP
2SHURX
2SHUR
2SHYT
2SHYX
2SHY
2SHYP
2SHYRX
2SHYR
2RAT
2RAX
2RA
2RAP
2RUOX
2RUO
2RUOP
2ROT
2ROX
2RO
2ROP
2REX
2RE
2REP
2RUT
2RUX
2RU
2RUP
2RURX
2RUR
2RYT
2RYX
2RY
2RYP
2RYRX
2RYR
2JIT
2JIX
2JI
2JIP
2JIET
2JIEX
2JIE
2JIEP
2JUOT
2JUOX
2JUO
2JUOP
2JOT
2JOX
2JO
2JOP
2JUT
2JUX
2JU
2JUP
2JURX
2JUR
2JYT
2JYX
2JY
2JYP
2JYRX
2JYR
2QIT
2QIX
2QI
2QIP
2QIET
2QIEX
2QIE
2QIEP
2QUOT
2QUOX
2QUO
2QUOP
2QOT
2QOX
2QO
2QOP
2QUT
2QUX
2QU
2QUP
2QURX
2QUR
2QYT
2QYX
2QY
2QYP
2QYRX
2QYR
2JJIT
2JJIX
2JJI
2JJIP
2JJIET
2JJIEX
2JJIE
2JJIEP
2JJUOX
2JJUO
2JJUOP
2JJOT
2JJOX
2JJO
2JJOP
2JJUT
2JJUX
2JJU
2JJUP
2JJURX
2JJUR
2JJYT
2JJYX
2JJY
2JJYP
2NJIT
2NJIX
2NJI
2NJIP
2NJIET
2NJIEX
2NJIE
2NJIEP
2NJUOX
2NJUO
2NJOT
2NJOX
2NJO
2NJOP
2NJUX
2NJU
2NJUP
2NJURX
2NJUR
2NJYT
2NJYX
2NJY
2NJYP
2NJYRX
2NJYR
2NYIT
2NYIX
2NYI
2NYIP
2NYIET
2NYIEX
2NYIE
2NYIEP
2NYUOX
2NYUO
2NYUOP
2NYOT
2NYOX
2NYO
2NYOP
2NYUT
2NYUX
2NYU
2NYUP
2XIT
2XIX
2XI
2XIP
2XIET
2XIEX
2XIE
2XIEP
2XUOX
2XUO
2XOT
2XOX
2XO
2XOP
2XYT
2XYX
2XY
2XYP
2XYRX
2XYR
2YIT
2YIX
2YI
2YIP
2YIET
2YIEX
2YIE
2YIEP
2YUOT
2YUOX
2YUO
2YUOP
2YOT
2YOX
2YO
2YOP
2YUT
2YUX
2YU
2YUP
2YURX
2YUR
2YYT
2YYX
2YY
2YYP
2YYRX
2YYR
U+A490
1RADICAL QOT
2LI
2KIT
2NYIP
2CYP
2SSI
2GGOP
2GEP
2MI
2HXIT
2LYR
2BBUT
2MOP
2YO
2PUT
2HXUO
2TAT
2GA
2ZUP
2CYT
2DDUR
2BUR
2GGUO
2NYOP
2TU
2OP
2JJUT
2ZOT
2PYT
2HMO
2YIT
2VUR
2SHY
2VEP
2ZA
2JO
2NZUP
2JJY
2GOT
2JJIE
2WO
2DU
2SHUR
2LIE
2CY
2CUOP
2CIP
2HXOP
2SHAT
2ZUR
2SHOP
2CHE
2ZZIET
2NBIE
2KE
U+A4D0
0LISU LETTER BA
2PA
2PHA
2DA
2TA
2THA
2GA
2KA
2KHA
2JA
2CA
2CHA
2DZA
2TSA
2TSHA
2MA
2NA
2LA
2SA
2ZHA
2ZA
2NGA
2HA
2XA
2HHA
2FA
2WA
2SHA
2YA
2GHA
2A
2AE
2E
2EU
2I
2O
2U
2UE
2UH
2OE
2TONE MYA TI
3NA PO
3MYA CYA
4BO
4NA
4JEU
1PUNCTUATION COMMA
2FULL STOP
0VAI SYLLABLE EE
2EEN
2HEE
2WEE
2WEEN
2PEE
2BHEE
2BEE
2MBEE
2KPEE
2MGBEE
2GBEE
2FEE
2VEE
2TEE
2THEE
2DHEE
2DHHEE
2LEE
2REE
2DEE
2NDEE
2SEE
2SHEE
2ZEE
2ZHEE
2CEE
2JEE
2NJEE
2YEE
2KEE
2NGGEE
2GEE
2MEE
2NEE
2NYEE
2I
2IN
2HI
2HIN
2WI
2WIN
2PI
2BHI
2BI
2MBI
2KPI
2MGBI
2GBI
2FI
2VI
2TI
2THI
2DHI
2DHHI
2LI
2RI
2DI
2NDI
2SI
2SHI
2ZI
2ZHI
2CI
2JI
2NJI
2YI
2KI
2NGGI
2GI
2MI
2NI
2NYI
2A
2AN
2NGAN
2HA
2HAN
2WA
2WAN
2PA
2BHA
2BA
2MBA
2KPA
2KPAN
2MGBA
2GBA
2FA
2VA
2TA
2THA
2DHA
2DHHA
2LA
2RA
2DA
2NDA
2SA
2SHA
2ZA
2ZHA
2CA
2JA
2NJA
2YA
2KA
2KAN
2NGGA
2GA
2MA
2NA
2NYA
2OO
2OON
2HOO
2WOO
2WOON
2POO
2BHOO
2BOO
2MBOO
2KPOO
2MGBOO
2GBOO
2FOO
2VOO
2TOO
2THOO
2DHOO
2DHHOO
2LOO
2ROO
2DOO
2NDOO
2SOO
2SHOO
2ZOO
2ZHOO
2COO
2JOO
2NJOO
2YOO
2KOO
2NGGOO
2GOO
2MOO
2NOO
2NYOO
2U
2UN
2HU
2HUN
2WU
2WUN
2PU
2BHU
2BU
2MBU
2KPU
2MGBU
2GBU
2FU
2VU
2TU
2THU
2DHU
2DHHU
2LU
2RU
2DU
2NDU
2SU
2SHU
2ZU
2ZHU
2CU
2JU
2NJU
2YU
2KU
2NGGU
2GU
2MU
2NU
2NYU
2O
2ON
2NGON
2HO
2HON
2WO
2WON
2PO
2BHO
2BO
2MBO
2KPO
2MGBO
2GBO
2GBON
2FO
2VO
2TO
2THO
2DHO
2DHHO
2LO
2RO
2DO
2NDO
2SO
2SHO
2ZO
2ZHO
2CO
2JO
2NJO
2YO
2KO
2NGGO
2GO
2MO
2NO
2NYO
2E
2EN
2NGEN
2HE
2HEN
2WE
2WEN
2PE
2BHE
2BE
2MBE
2KPE
2KPEN
2MGBE
2GBE
2GBEN
2FE
2VE
2TE
2THE
2DHE
2DHHE
2LE
2RE
2DE
2NDE
2SE
2SHE
2ZE
2ZHE
2CE
2JE
2NJE
2YE
2KE
2NGGE
2NGGEN
2GE
2GEN
2ME
2NE
2NYE
2NG
2LENGTHENER
1COMMA
1FULL STOP
1QUESTION MARK
1SYLLABLE NDOLE FA
3KA
3SOO
1SYMBOL FEENG
2KEENG
2TING
2NII
2BANG
2FAA
2TAA
2DANG
2DOONG
2KUNG
2TONG
2DO-O
2JONG
1DIGIT ZERO
2ONE
2TWO
2THREE
2FOUR
2FIVE
2SIX
2SEVEN
2EIGHT
2NINE
1SYLLABLE NDOLE MA
3DO
U+A640
0CYRILLIC CAPITAL LETTER ZEMLYA
1SMALL LETTER ZEMLYA
1CAPITAL LETTER DZELO
1SMALL LETTER DZELO
1CAPITAL LETTER REVERSED DZE
1SMALL LETTER REVERSED DZE
1CAPITAL LETTER IOTA
1SMALL LETTER IOTA
1CAPITAL LETTER DJERV
1SMALL LETTER DJERV
1CAPITAL LETTER MONOGRAPH UK
1SMALL LETTER MONOGRAPH UK
1CAPITAL LETTER BROAD OMEGA
1SMALL LETTER BROAD OMEGA
1CAPITAL LETTER NEUTRAL YER
1SMALL LETTER NEUTRAL YER
1CAPITAL LETTER YERU WITH BACK YER
1SMALL LETTER YERU WITH BACK YER
1CAPITAL LETTER IOTIFIED YAT
1SMALL LETTER IOTIFIED YAT
1CAPITAL LETTER REVERSED YU
1SMALL LETTER REVERSED YU
1CAPITAL LETTER IOTIFIED A
1SMALL LETTER IOTIFIED A
1CAPITAL LETTER CLOSED LITTLE YUS
1SMALL LETTER CLOSED LITTLE YUS
1CAPITAL LETTER BLENDED YUS
1SMALL LETTER BLENDED YUS
1CAPITAL LETTER IOTIFIED CLOSED LITTLE YUS
1SMALL LETTER IOTIFIED CLOSED LITTLE YUS
1CAPITAL LETTER YN
1SMALL LETTER YN
1CAPITAL LETTER REVERSED TSE
1SMALL LETTER REVERSED TSE
1CAPITAL LETTER SOFT DE
1SMALL LETTER SOFT DE
1CAPITAL LETTER SOFT EL
1SMALL LETTER SOFT EL
1CAPITAL LETTER SOFT EM
1SMALL LETTER SOFT EM
1CAPITAL LETTER MONOCULAR O
1SMALL LETTER MONOCULAR O
1CAPITAL LETTER BINOCULAR O
1SMALL LETTER BINOCULAR O
1CAPITAL LETTER DOUBLE MONOCULAR O
1SMALL LETTER DOUBLE MONOCULAR O
1LETTER MULTIOCULAR O
0COMBINING CYRILLIC VZMET
2TEN MILLIONS SIGN
2HUNDRED MILLIONS SIGN
2THOUSAND MILLIONS SIGN
0SLAVONIC ASTERISK
0COMBINING CYRILLIC LETTER UKRAINIAN IE
3I
3YI
3U
3HARD SIGN
3YERU
3SOFT SIGN
3OMEGA
2KAVYKA
2PAYEROK
0CYRILLIC KAVYKA
1PAYEROK
1CAPITAL LETTER DWE
1SMALL LETTER DWE
1CAPITAL LETTER DZWE
1SMALL LETTER DZWE
1CAPITAL LETTER ZHWE
1SMALL LETTER ZHWE
1CAPITAL LETTER CCHE
1SMALL LETTER CCHE
1CAPITAL LETTER DZZE
1SMALL LETTER DZZE
1CAPITAL LETTER TE WITH MIDDLE HOOK
1SMALL LETTER TE WITH MIDDLE HOOK
1CAPITAL LETTER TWE
1SMALL LETTER TWE
1CAPITAL LETTER TSWE
1SMALL LETTER TSWE
1CAPITAL LETTER TSSE
1SMALL LETTER TSSE
1CAPITAL LETTER TCHE
1SMALL LETTER TCHE
1CAPITAL LETTER HWE
1SMALL LETTER HWE
1CAPITAL LETTER SHWE
1SMALL LETTER SHWE
1CAPITAL LETTER DOUBLE O
1SMALL LETTER DOUBLE O
1CAPITAL LETTER CROSSED O
1SMALL LETTER CROSSED O
0MODIFIER LETTER CYRILLIC HARD SIGN
3SOFT SIGN
0COMBINING CYRILLIC LETTER EF
3IOTIFIED E
0BAMUM LETTER A
2KA
2U
2KU
2EE
2REE
2TAE
2O
2NYI
2I
2LA
2PA
2RII
2RIEE
2LEEEE
2MEEEE
2TAA
2NDAA
2NJAEM
2M
2SUU
2MU
2SHII
2SI
2SHEUX
2SEUX
2KYEE
2KET
2NUAE
2NU
2NJUAE
2YOQ
2SHU
2YUQ
2YA
2NSHA
2KEUX
2PEUX
2NJEE
2NTEE
2PUE
2WUE
2PEE
2FEE
2RU
2LU
2MI
2NI
2REUX
2RAE
2KEN
2NGKWAEN
2NGGA
2NGA
2SHO
2PUAE
2FU
2FOM
2WA
2NA
2LI
2PI
2LOQ
2KO
2MBEN
2REN
2MEN
2MA
2TI
2KI
2MO
2MBAA
2TET
2KPA
2TEN
2NTUU
2SAMBA
2FAAMAE
2KOVUU
2KOGHOM
1COMBINING MARK KOQNDON
3TUKWENTIS
1NJAEMLI
1FULL STOP
1COLON
1COMMA
1SEMICOLON
1QUESTION MARK
U+A700
0MODIFIER LETTER CHINESE TONE YIN PING
4YANG PING
4YIN SHANG
4YANG SHANG
4YIN QU
4YANG QU
4YIN RU
4YANG RU
2EXTRA-HIGH DOTTED TONE BAR
2HIGH DOTTED TONE BAR
2MID DOTTED TONE BAR
2LOW DOTTED TONE BAR
2EXTRA-LOW DOTTED TONE BAR
2EXTRA-HIGH DOTTED LEFT-STEM TONE BAR
2HIGH DOTTED LEFT-STEM TONE BAR
2MID DOTTED LEFT-STEM TONE BAR
2LOW DOTTED LEFT-STEM TONE BAR
2EXTRA-LOW DOTTED LEFT-STEM TONE BAR
2EXTRA-HIGH LEFT-STEM TONE BAR
2HIGH LEFT-STEM TONE BAR
2MID LEFT-STEM TONE BAR
2LOW LEFT-STEM TONE BAR
2EXTRA-LOW LEFT-STEM TONE BAR
2DOT VERTICAL BAR
3SLASH
3HORIZONTAL BAR
2LOWER RIGHT CORNER ANGLE
2RAISED UP ARROW
3DOWN ARROW
3EXCLAMATION MARK
3INVERTED EXCLAMATION MARK
2LOW INVERTED EXCLAMATION MARK
2STRESS AND HIGH TONE
4LOW TONE
0LATIN CAPITAL LETTER EGYPTOLOGICAL ALEF
1SMALL LETTER EGYPTOLOGICAL ALEF
1CAPITAL LETTER EGYPTOLOGICAL AIN
1SMALL LETTER EGYPTOLOGICAL AIN
1CAPITAL LETTER HENG
1SMALL LETTER HENG
1CAPITAL LETTER TZ
1SMALL LETTER TZ
1CAPITAL LETTER TRESILLO
1SMALL LETTER TRESILLO
1CAPITAL LETTER CUATRILLO
1SMALL LETTER CUATRILLO
1CAPITAL LETTER CUATRILLO WITH COMMA
1SMALL LETTER CUATRILLO WITH COMMA
1LETTER SMALL CAPITAL F
4S
1CAPITAL LETTER AA
1SMALL LETTER AA
1CAPITAL LETTER AO
1SMALL LETTER AO
1CAPITAL LETTER AU
1SMALL LETTER AU
1CAPITAL LETTER AV
1SMALL LETTER AV
1CAPITAL LETTER AV WITH HORIZONTAL BAR
1SMALL LETTER AV WITH HORIZONTAL BAR
1CAPITAL LETTER AY
1SMALL LETTER AY
1CAPITAL LETTER REVERSED C WITH DOT
1SMALL LETTER REVERSED C WITH DOT
1CAPITAL LETTER K WITH STROKE
1SMALL LETTER K WITH STROKE
1CAPITAL LETTER K WITH DIAGONAL STROKE
1SMALL LETTER K WITH DIAGONAL STROKE
1CAPITAL LETTER K WITH STROKE AND DIAGONAL STROKE
1SMALL LETTER K WITH STROKE AND DIAGONAL STROKE
1CAPITAL LETTER BROKEN L
1SMALL LETTER BROKEN L
1CAPITAL LETTER L WITH HIGH STROKE
1SMALL LETTER L WITH HIGH STROKE
1CAPITAL LETTER O WITH LONG STROKE OVERLAY
1SMALL LETTER O WITH LONG STROKE OVERLAY
1CAPITAL LETTER O WITH LOOP
1SMALL LETTER O WITH LOOP
1CAPITAL LETTER OO
1SMALL LETTER OO
1CAPITAL LETTER P WITH STROKE THROUGH DESCENDER
1SMALL LETTER P WITH STROKE THROUGH DESCENDER
1CAPITAL LETTER P WITH FLOURISH
1SMALL LETTER P WITH FLOURISH
1CAPITAL LETTER P WITH SQUIRREL TAIL
1SMALL LETTER P WITH SQUIRREL TAIL
1CAPITAL LETTER Q WITH STROKE THROUGH DESCENDER
1SMALL LETTER Q WITH STROKE THROUGH DESCENDER
1CAPITAL LETTER Q WITH DIAGONAL STROKE
1SMALL LETTER Q WITH DIAGONAL STROKE
1CAPITAL LETTER R ROTUNDA
1SMALL LETTER R ROTUNDA
1CAPITAL LETTER RUM ROTUNDA
1SMALL LETTER RUM ROTUNDA
1CAPITAL LETTER V WITH DIAGONAL STROKE
1SMALL LETTER V WITH DIAGONAL STROKE
1CAPITAL LETTER VY
1SMALL LETTER VY
1CAPITAL LETTER VISIGOTHIC Z
1SMALL LETTER VISIGOTHIC Z
1CAPITAL LETTER THORN WITH STROKE
1SMALL LETTER THORN WITH STROKE
1CAPITAL LETTER THORN WITH STROKE THROUGH DESCENDER
1SMALL LETTER THORN WITH STROKE THROUGH DESCENDER
1CAPITAL LETTER VEND
1SMALL LETTER VEND
1CAPITAL LETTER ET
1SMALL LETTER ET
1CAPITAL LETTER IS
1SMALL LETTER IS
1CAPITAL LETTER CON
1SMALL LETTER CON
0MODIFIER LETTER US
0LATIN SMALL LETTER DUM
3LUM
3MUM
3NUM
3RUM
1LETTER SMALL CAPITAL RUM
1SMALL LETTER TUM
3UM
1CAPITAL LETTER INSULAR D
1SMALL LETTER INSULAR D
1CAPITAL LETTER INSULAR F
1SMALL LETTER INSULAR F
1CAPITAL LETTER INSULAR G
3TURNED INSULAR G
1SMALL LETTER TURNED INSULAR G
1CAPITAL LETTER TURNED L
1SMALL LETTER TURNED L
1CAPITAL LETTER INSULAR R
1SMALL LETTER INSULAR R
1CAPITAL LETTER INSULAR S
1SMALL LETTER INSULAR S
1CAPITAL LETTER INSULAR T
1SMALL LETTER INSULAR T
0MODIFIER LETTER LOW CIRCUMFLEX ACCENT
2COLON
2SHORT EQUALS SIGN
0LATIN CAPITAL LETTER SALTILLO
1SMALL LETTER SALTILLO
1CAPITAL LETTER TURNED H
1SMALL LETTER L WITH RETROFLEX HOOK AND BELT
1LETTER SINOLOGICAL DOT
1CAPITAL LETTER N WITH DESCENDER
1SMALL LETTER N WITH DESCENDER
1CAPITAL LETTER C WITH BAR
1SMALL LETTER C WITH BAR
5PALATAL HOOK
3H WITH PALATAL HOOK
1CAPITAL LETTER B WITH FLOURISH
1SMALL LETTER B WITH FLOURISH
1CAPITAL LETTER F WITH STROKE
1SMALL LETTER F WITH STROKE
1CAPITAL LETTER VOLAPUK AE
1SMALL LETTER VOLAPUK AE
1CAPITAL LETTER VOLAPUK OE
1SMALL LETTER VOLAPUK OE
1CAPITAL LETTER VOLAPUK UE
1SMALL LETTER VOLAPUK UE
1CAPITAL LETTER G WITH OBLIQUE STROKE
1SMALL LETTER G WITH OBLIQUE STROKE
1CAPITAL LETTER K WITH OBLIQUE STROKE
1SMALL LETTER K WITH OBLIQUE STROKE
1CAPITAL LETTER N WITH OBLIQUE STROKE
1SMALL LETTER N WITH OBLIQUE STROKE
1CAPITAL LETTER R WITH OBLIQUE STROKE
1SMALL LETTER R WITH OBLIQUE STROKE
1CAPITAL LETTER S WITH OBLIQUE STROKE
1SMALL LETTER S WITH OBLIQUE STROKE
1CAPITAL LETTER H WITH HOOK
3REVERSED OPEN E
3SCRIPT G
3L WITH BELT
3SMALL CAPITAL I
1LETTER SMALL CAPITAL Q
1CAPITAL LETTER TURNED K
4T
3J WITH CROSSED-TAIL
3CHI
3BETA
1SMALL LETTER BETA
1CAPITAL LETTER OMEGA
1SMALL LETTER OMEGA
1CAPITAL LETTER U WITH STROKE
1SMALL LETTER U WITH STROKE
1CAPITAL LETTER GLOTTAL A
1SMALL LETTER GLOTTAL A
1CAPITAL LETTER GLOTTAL I
1SMALL LETTER GLOTTAL I
1CAPITAL LETTER GLOTTAL U
1SMALL LETTER GLOTTAL U
1CAPITAL LETTER OLD POLISH O
1SMALL LETTER OLD POLISH O
1CAPITAL LETTER ANGLICANA W
1SMALL LETTER ANGLICANA W
1CAPITAL LETTER C WITH PALATAL HOOK
3S WITH HOOK
3Z WITH PALATAL HOOK
3D WITH SHORT STROKE OVERLAY
1SMALL LETTER D WITH SHORT STROKE OVERLAY
1CAPITAL LETTER S WITH SHORT STROKE OVERLAY
1SMALL LETTER S WITH SHORT STROKE OVERLAY
U+A7D0
1CAPITAL LETTER CLOSED INSULAR G
1SMALL LETTER CLOSED INSULAR G
U+A7D3
3DOUBLE THORN
U+A7D5
4WYNN
1CAPITAL LETTER MIDDLE SCOTS S
1SMALL LETTER MIDDLE SCOTS S
1CAPITAL LETTER SIGMOID S
1SMALL LETTER SIGMOID S
U+A7F2
0MODIFIER LETTER CAPITAL C
3F
3Q
0LATIN CAPITAL LETTER REVERSED HALF H
1SMALL LETTER REVERSED HALF H
1EPIGRAPHIC LETTER SIDEWAYS I
0MODIFIER LETTER CAPITAL H WITH STROKE
2SMALL LIGATURE OE
0LATIN LETTER SMALL CAPITAL TURNED M
1EPIGRAPHIC LETTER REVERSED F
4P
3INVERTED M
3I LONGA
3ARCHAIC M
0SYLOTI NAGRI LETTER A
3I
2SIGN DVISVARA
2LETTER U
3E
3O
2SIGN HASANTA
2LETTER KO
3KHO
3GO
3GHO
2SIGN ANUSVARA
2LETTER CO
3CHO
3JO
3JHO
3TTO
3TTHO
3DDO
3DDHO
3TO
3THO
3DO
3DHO
3NO
3PO
3PHO
3BO
3BHO
3MO
3RO
3LO
3RRO
3SO
3HO
2VOWEL SIGN A
4I
4U
4E
4OO
2POETRY MARK-1
3MARK-2
3MARK-3
3MARK-4
2SIGN ALTERNATE HASANTA
U+A830
0NORTH INDIC FRACTION ONE QUARTER
4HALF
3THREE QUARTERS
3ONE SIXTEENTH
4EIGHTH
3THREE SIXTEENTHS
2QUARTER MARK
2PLACEHOLDER MARK
2RUPEE MARK
2QUANTITY MARK
U+A840
0PHAGS-PA LETTER KA
2KHA
2GA
2NGA
2CA
2CHA
2JA
2NYA
2TA
2THA
2DA
2NA
2PA
2PHA
2BA
2MA
2TSA
2TSHA
2DZA
2WA
2ZHA
2ZA
2SMALL A
2YA
2RA
2LA
2SHA
2SA
2HA
2A
2I
2U
2E
2O
2QA
2XA
2FA
2GGA
2EE
1SUBJOINED LETTER WA
3YA
1LETTER TTA
2TTHA
2DDA
2NNA
2ALTERNATE YA
2VOICELESS SHA
2VOICED HA
2ASPIRATED FA
1SUBJOINED LETTER RA
1SUPERFIXED LETTER RA
1LETTER CANDRABINDU
1SINGLE HEAD MARK
1DOUBLE HEAD MARK
1MARK SHAD
2DOUBLE SHAD
U+A880
0SAURASHTRA SIGN ANUSVARA
2VISARGA
1LETTER A
2AA
2I
2II
2U
2UU
2VOCALIC R
3RR
3L
3LL
2E
2EE
2AI
2O
2OO
2AU
2KA
2KHA
2GA
2GHA
2NGA
2CA
2CHA
2JA
2JHA
2NYA
2TTA
2TTHA
2DDA
2DDHA
2NNA
2TA
2THA
2DA
2DHA
2NA
2PA
2PHA
2BA
2BHA
2MA
2YA
2RA
2LA
2VA
2SHA
2SSA
2SA
2HA
2LLA
1CONSONANT SIGN HAARU
1VOWEL SIGN AA
3I
3II
3U
3UU
3VOCALIC R
4RR
4L
4LL
3E
3EE
3AI
3O
3OO
3AU
1SIGN VIRAMA
2CANDRABINDU
U+A8CE
1DANDA
1DOUBLE DANDA
1DIGIT ZERO
2ONE
2TWO
2THREE
2FOUR
2FIVE
2SIX
2SEVEN
2EIGHT
2NINE
U+A8E0
0COMBINING DEVANAGARI DIGIT ZERO
3ONE
3TWO
3THREE
3FOUR
3FIVE
3SIX
3SEVEN
3EIGHT
3NINE
2LETTER A
3U
3KA
3NA
3PA
3RA
3VI
2SIGN AVAGRAHA
0DEVANAGARI SIGN SPACING CANDRABINDU
2CANDRABINDU VIRAMA
2DOUBLE CANDRABINDU VIRAMA
2CANDRABINDU TWO
3THREE
3AVAGRAHA
2PUSHPIKA
1GAP FILLER
1CARET
1HEADSTROKE
1SIGN SIDDHAM
1JAIN OM
1LETTER AY
1VOWEL SIGN AY
0KAYAH LI DIGIT ZERO
3ONE
3TWO
3THREE
3FOUR
3FIVE
3SIX
3SEVEN
3EIGHT
3NINE
2LETTER KA
3KHA
3GA
3NGA
3SA
3SHA
3ZA
3NYA
3TA
3HTA
3NA
3PA
3PHA
3MA
3DA
3BA
3RA
3YA
3LA
3WA
3THA
3HA
3VA
3CA
3A
3OE
3I
3OO
2VOWEL UE
3E
3U
3EE
3O
2TONE PLOPHU
3CALYA
4PLOPHU
2SIGN CWI
3SHYA
0REJANG LETTER KA
2GA
2NGA
2TA
2DA
2NA
2PA
2BA
2MA
2CA
2JA
2NYA
2SA
2RA
2LA
2YA
2WA
2HA
2MBA
2NGGA
2NDA
2NYJA
2A
1VOWEL SIGN I
3U
3E
3AI
3O
3AU
3EU
3EA
1CONSONANT SIGN NG
3N
3R
3H
1VIRAMA
U+A95F
1SECTION MARK
0HANGUL CHOSEONG TIKEUT-MIEUM
2TIKEUT-PIEUP
2TIKEUT-SIOS
2TIKEUT-CIEUC
2RIEUL-KIYEOK
2RIEUL-SSANGKIYEOK
2RIEUL-TIKEUT
2RIEUL-SSANGTIKEUT
2RIEUL-MIEUM
2RIEUL-PIEUP
2RIEUL-SSANGPIEUP
2RIEUL-KAPYEOUNPIEUP
2RIEUL-SIOS
2RIEUL-CIEUC
2RIEUL-KHIEUKH
2MIEUM-KIYEOK
2MIEUM-TIKEUT
2MIEUM-SIOS
2PIEUP-SIOS-THIEUTH
2PIEUP-KHIEUKH
2PIEUP-HIEUH
2SSANGSIOS-PIEUP
2IEUNG-RIEUL
2IEUNG-HIEUH
2SSANGCIEUC-HIEUH
2SSANGTHIEUTH
2PHIEUPH-HIEUH
2HIEUH-SIOS
2SSANGYEORINHIEUH
U+A980
0JAVANESE SIGN PANYANGGA
2CECAK
2LAYAR
2WIGNYAN
1LETTER A
2I KAWI
2I
2II
2U
2PA CEREK
2NGA LELET
4RASWADI
2E
2AI
2O
2KA
3SASAK
3MURDA
2GA
3MURDA
2NGA
2CA
3MURDA
2JA
2NYA MURDA
2JA MAHAPRANA
2NYA
2TTA
3MAHAPRANA
2DDA
3MAHAPRANA
2NA MURDA
2TA
3MURDA
2DA
3MAHAPRANA
2NA
2PA
3MURDA
2BA
3MURDA
2MA
2YA
2RA
3AGUNG
2LA
2WA
2SA MURDA
3MAHAPRANA
2SA
2HA
1SIGN CECAK TELU
1VOWEL SIGN TARUNG
3TOLONG
3WULU
4MELIK
3SUKU
4MENDUT
3TALING
3DIRGA MURE
3PEPET
1CONSONANT SIGN KERET
3PENGKAL
3CAKRA
1PANGKON
1LEFT RERENGGAN
1RIGHT RERENGGAN
1PADA ANDAP
2MADYA
2LUHUR
2WINDU
2PANGKAT
2LINGSA
2LUNGSI
2ADEG
3ADEG
2PISELEH
1TURNED PADA PISELEH
U+A9CF
1PANGRANGKEP
1DIGIT ZERO
2ONE
2TWO
2THREE
2FOUR
2FIVE
2SIX
2SEVEN
2EIGHT
2NINE
U+A9DE
1PADA TIRTA TUMETES
2ISEN-ISEN
0MYANMAR LETTER SHAN GHA
3CHA
3JHA
3NNA
3BHA
1SIGN SHAN SAW
1MODIFIER LETTER SHAN REDUPLICATION
1LETTER TAI LAING NYA
4FA
4GA
4GHA
4JA
4JHA
4DDA
4DDHA
4NNA
1TAI LAING DIGIT ZERO
4ONE
4TWO
4THREE
4FOUR
4FIVE
4SIX
4SEVEN
4EIGHT
4NINE
1LETTER TAI LAING LLA
4DA
4DHA
4BA
4BHA
U+AA00
0CHAM LETTER A
2I
2U
2E
2AI
2O
2KA
2KHA
2GA
2GHA
2NGUE
2NGA
2CHA
2CHHA
2JA
2JHA
2NHUE
2NHA
2NHJA
2TA
2THA
2DA
2DHA
2NUE
2NA
2DDA
2PA
2PPA
2PHA
2BA
2BHA
2MUE
2MA
2BBA
2YA
2RA
2LA
2VA
2SSA
2SA
2HA
1VOWEL SIGN AA
3I
3II
3EI
3U
3OE
3O
3AI
3AU
3UE
1CONSONANT SIGN YA
3RA
3LA
3WA
U+AA40
1LETTER FINAL K
3G
3NG
1CONSONANT SIGN FINAL NG
1LETTER FINAL CH
3T
3N
3P
3Y
3R
3L
3SS
1CONSONANT SIGN FINAL M
4H
U+AA50
1DIGIT ZERO
2ONE
2TWO
2THREE
2FOUR
2FIVE
2SIX
2SEVEN
2EIGHT
2NINE
U+AA5C
1PUNCTUATION SPIRAL
2DANDA
2DOUBLE DANDA
2TRIPLE DANDA
0MYANMAR LETTER KHAMTI GA
3CA
3CHA
3JA
3JHA
3NYA
3TTA
3TTHA
3DDA
3DDHA
3DHA
3NA
3SA
3HA
3HHA
3FA
1MODIFIER LETTER KHAMTI REDUPLICATION
1LETTER KHAMTI XA
3ZA
3RA
1LOGOGRAM KHAMTI OAY
3QN
3HM
1SYMBOL AITON EXCLAMATION
3ONE
3TWO
1LETTER AITON RA
1SIGN PAO KAREN TONE
2TAI LAING TONE-2
4TONE-5
1LETTER SHWE PALAUNG CHA
4SHA
0TAI VIET LETTER LOW KO
3HIGH KO
3LOW KHO
3HIGH KHO
3LOW KHHO
3HIGH KHHO
3LOW GO
3HIGH GO
3LOW NGO
3HIGH NGO
3LOW CO
3HIGH CO
3LOW CHO
3HIGH CHO
3LOW SO
3HIGH SO
3LOW NYO
3HIGH NYO
3LOW DO
3HIGH DO
3LOW TO
3HIGH TO
3LOW THO
3HIGH THO
3LOW NO
3HIGH NO
3LOW BO
3HIGH BO
3LOW PO
3HIGH PO
3LOW PHO
3HIGH PHO
3LOW FO
3HIGH FO
3LOW MO
3HIGH MO
3LOW YO
3HIGH YO
3LOW RO
3HIGH RO
3LOW LO
3HIGH LO
3LOW VO
3HIGH VO
3LOW HO
3HIGH HO
3LOW O
3HIGH O
2MAI KANG
2VOWEL AA
3I
3UE
3U
3E
3O
2MAI KHIT
2VOWEL IA
3UEA
3UA
3AUE
3AY
3AN
3AM
2TONE MAI EK
4NUENG
4THO
4SONG
U+AADB
2SYMBOL KON
3NUENG
3SAM
3HO HOI
3KOI KOI
0MEETEI MAYEK LETTER E
3O
3CHA
3NYA
3TTA
3TTHA
3DDA
3DDHA
3NNA
3SHA
3SSA
2VOWEL SIGN II
4UU
4AAI
4AU
4AAU
2CHEIKHAN
2AHANG KHUDAM
2ANJI
2SYLLABLE REPETITION MARK
2WORD REPETITION MARK
2VOWEL SIGN VISARGA
2VIRAMA
U+AB01
0ETHIOPIC SYLLABLE TTHU
2TTHI
2TTHAA
2TTHEE
2TTHE
2TTHO
U+AB09
2DDHU
2DDHI
2DDHAA
2DDHEE
2DDHE
2DDHO
U+AB11
2DZU
2DZI
2DZAA
2DZEE
2DZE
2DZO
U+AB20
2CCHHA
2CCHHU
2CCHHI
2CCHHAA
2CCHHEE
2CCHHE
2CCHHO
U+AB28
2BBA
2BBU
2BBI
2BBAA
2BBEE
2BBE
2BBO
U+AB30
0LATIN SMALL LETTER BARRED ALPHA
3A REVERSED-SCHWA
3BLACKLETTER E
3BARRED E
3E WITH FLOURISH
3LENIS F
3SCRIPT G WITH CROSSED-TAIL
3L WITH INVERTED LAZY S
5DOUBLE MIDDLE TILDE
5MIDDLE RING
3M WITH CROSSED-TAIL
3N WITH CROSSED-TAIL
3ENG WITH CROSSED-TAIL
3BLACKLETTER O
5WITH STROKE
3OPEN O WITH STROKE
3INVERTED OE
3TURNED OE WITH STROKE
6HORIZONTAL STROKE
4O OPEN-O
6WITH STROKE
3STIRRUP R
1LETTER SMALL CAPITAL R WITH RIGHT LEG
1SMALL LETTER R WITHOUT HANDLE
3DOUBLE R
3R WITH CROSSED-TAIL
3DOUBLE R WITH CROSSED-TAIL
3SCRIPT R
5WITH RING
3BASELINE ESH
3U WITH SHORT RIGHT LEG
4BAR WITH SHORT RIGHT LEG
3UI
3TURNED UI
3U WITH LEFT HOOK
3CHI
4WITH LOW RIGHT RING
6LEFT SERIF
3X WITH LOW RIGHT RING
5LONG LEFT LEG
8AND LOW RIGHT RING
8WITH SERIF
3Y WITH SHORT RIGHT LEG
0MODIFIER BREVE WITH INVERTED BREVE
1LETTER SMALL HENG
3L WITH INVERTED LAZY S
5MIDDLE TILDE
3U WITH LEFT HOOK
0LATIN SMALL LETTER SAKHA YAT
3IOTIFIED E
3OPEN OE
3UO
3INVERTED ALPHA
0GREEK LETTER SMALL CAPITAL OMEGA
0LATIN SMALL LETTER DZ DIGRAPH WITH RETROFLEX HOOK
3TS DIGRAPH WITH RETROFLEX HOOK
3TURNED R WITH MIDDLE TILDE
0MODIFIER LETTER SMALL TURNED W
2LEFT TACK
2RIGHT TACK
U+AB70
0CHEROKEE SMALL LETTER A
3E
3I
3O
3U
3V
3GA
3KA
3GE
3GI
3GO
3GU
3GV
3HA
3HE
3HI
3HO
3HU
3HV
3LA
3LE
3LI
3LO
3LU
3LV
3MA
3ME
3MI
3MO
3MU
3NA
3HNA
3NAH
3NE
3NI
3NO
3NU
3NV
3QUA
3QUE
3QUI
3QUO
3QUU
3QUV
3SA
3S
3SE
3SI
3SO
3SU
3SV
3DA
3TA
3DE
3TE
3DI
3TI
3DO
3DU
3DV
3DLA
3TLA
3TLE
3TLI
3TLO
3TLU
3TLV
3TSA
3TSE
3TSI
3TSO
3TSU
3TSV
3WA
3WE
3WI
3WO
3WU
3WV
3YA
0MEETEI MAYEK LETTER KOK
3SAM
3LAI
3MIT
3PA
3NA
3CHIL
3TIL
3KHOU
3NGOU
3THOU
3WAI
3YANG
3HUK
3UN
3I
3PHAM
3ATIYA
3GOK
3JHAM
3RAI
3BA
3JIL
3DIL
3GHOU
3DHOU
3BHAM
3KOK LONSUM
3LAI LONSUM
3MIT LONSUM
3PA LONSUM
3NA LONSUM
3TIL LONSUM
3NGOU LONSUM
3I LONSUM
2VOWEL SIGN ONAP
4INAP
4ANAP
4YENAP
4SOUNAP
4UNAP
4CHEINAP
4NUNG
2CHEIKHEI
2LUM IYEK
2APUN IYEK
U+ABF0
2DIGIT ZERO
3ONE
3TWO
3THREE
3FOUR
3FIVE
3SIX
3SEVEN
3EIGHT
3NINE
U+D7B0
0HANGUL JUNGSEONG O-YEO
2O-O-I
2YO-A
2YO-AE
2YO-EO
2U-YEO
2U-I-I
2YU-AE
2YU-O
2EU-A
2EU-EO
2EU-E
2EU-O
2I-YA-O
2I-YAE
2I-YEO
2I-YE
2I-O-I
2I-YO
2I-YU
2I-I
2ARAEA-A
2ARAEA-E
U+D7CB
1JONGSEONG NIEUN-RIEUL
2NIEUN-CHIEUCH
2SSANGTIKEUT
2SSANGTIKEUT-PIEUP
2TIKEUT-PIEUP
2TIKEUT-SIOS
2TIKEUT-SIOS-KIYEOK
2TIKEUT-CIEUC
2TIKEUT-CHIEUCH
2TIKEUT-THIEUTH
2RIEUL-SSANGKIYEOK
2RIEUL-KIYEOK-HIEUH
2SSANGRIEUL-KHIEUKH
2RIEUL-MIEUM-HIEUH
2RIEUL-PIEUP-TIKEUT
2RIEUL-PIEUP-PHIEUPH
2RIEUL-YESIEUNG
2RIEUL-YEORINHIEUH-HIEUH
2KAPYEOUNRIEUL
2MIEUM-NIEUN
2MIEUM-SSANGNIEUN
2SSANGMIEUM
2MIEUM-PIEUP-SIOS
2MIEUM-CIEUC
2PIEUP-TIKEUT
2PIEUP-RIEUL-PHIEUPH
2PIEUP-MIEUM
2SSANGPIEUP
2PIEUP-SIOS-TIKEUT
2PIEUP-CIEUC
2PIEUP-CHIEUCH
2SIOS-MIEUM
2SIOS-KAPYEOUNPIEUP
2SSANGSIOS-KIYEOK
2SSANGSIOS-TIKEUT
2SIOS-PANSIOS
2SIOS-CIEUC
2SIOS-CHIEUCH
2SIOS-THIEUTH
2SIOS-HIEUH
2PANSIOS-PIEUP
2PANSIOS-KAPYEOUNPIEUP
2YESIEUNG-MIEUM
2YESIEUNG-HIEUH
2CIEUC-PIEUP
2CIEUC-SSANGPIEUP
2SSANGCIEUC
2PHIEUPH-SIOS
2PHIEUPH-THIEUTH
U+FB00
0LATIN SMALL LIGATURE FF
3FI
3FL
3FFI
3FFL
3LONG S T
3ST
U+FB13
0ARMENIAN SMALL LIGATURE MEN NOW
4ECH
4INI
3VEW NOW
3MEN XEH
U+FB1D
0HEBREW LETTER YOD WITH HIRIQ
1POINT JUDEO-SPANISH VARIKA
1LIGATURE YIDDISH YOD YOD PATAH
1LETTER ALTERNATIVE AYIN
2WIDE ALEF
3DALET
3HE
3KAF
3LAMED
3FINAL MEM
3RESH
3TAV
2ALTERNATIVE PLUS SIGN
2SHIN WITH SHIN DOT
4SIN DOT
4DAGESH AND SHIN DOT
6SIN DOT
2ALEF WITH PATAH
4QAMATS
4MAPIQ
2BET WITH DAGESH
2GIMEL WITH DAGESH
2DALET WITH DAGESH
2HE WITH MAPIQ
2VAV WITH DAGESH
2ZAYIN WITH DAGESH
U+FB38
2TET WITH DAGESH
2YOD WITH DAGESH
2FINAL KAF WITH DAGESH
2KAF WITH DAGESH
2LAMED WITH DAGESH
U+FB3E
2MEM WITH DAGESH
U+FB40
2NUN WITH DAGESH
2SAMEKH WITH DAGESH
U+FB43
2FINAL PE WITH DAGESH
2PE WITH DAGESH
U+FB46
2TSADI WITH DAGESH
2QOF WITH DAGESH
2RESH WITH DAGESH
2SHIN WITH DAGESH
2TAV WITH DAGESH
2VAV WITH HOLAM
2BET WITH RAFE
2KAF WITH RAFE
2PE WITH RAFE
1LIGATURE ALEF LAMED
0ARABIC LETTER ALEF WASLA ISOLATED FORM
4FINAL FORM
2BEEH ISOLATED FORM
3FINAL FORM
3INITIAL FORM
3MEDIAL FORM
2PEH ISOLATED FORM
3FINAL FORM
3INITIAL FORM
3MEDIAL FORM
2BEHEH ISOLATED FORM
3FINAL FORM
3INITIAL FORM
3MEDIAL FORM
2TTEHEH ISOLATED FORM
3FINAL FORM
3INITIAL FORM
3MEDIAL FORM
2TEHEH ISOLATED FORM
3FINAL FORM
3INITIAL FORM
3MEDIAL FORM
2TTEH ISOLATED FORM
3FINAL FORM
3INITIAL FORM
3MEDIAL FORM
2VEH ISOLATED FORM
3FINAL FORM
3INITIAL FORM
3MEDIAL FORM
2PEHEH ISOLATED FORM
3FINAL FORM
3INITIAL FORM
3MEDIAL FORM
2DYEH ISOLATED FORM
3FINAL FORM
3INITIAL FORM
3MEDIAL FORM
2NYEH ISOLATED FORM
3FINAL FORM
3INITIAL FORM
3MEDIAL FORM
2TCHEH ISOLATED FORM
3FINAL FORM
3INITIAL FORM
3MEDIAL FORM
2TCHEHEH ISOLATED FORM
3FINAL FORM
3INITIAL FORM
3MEDIAL FORM
2DDAHAL ISOLATED FORM
3FINAL FORM
2DAHAL ISOLATED FORM
3FINAL FORM
2DUL ISOLATED FORM
3FINAL FORM
2DDAL ISOLATED FORM
3FINAL FORM
2JEH ISOLATED FORM
3FINAL FORM
2RREH ISOLATED FORM
3FINAL FORM
2KEHEH ISOLATED FORM
3FINAL FORM
3INITIAL FORM
3MEDIAL FORM
2GAF ISOLATED FORM
3FINAL FORM
3INITIAL FORM
3MEDIAL FORM
2GUEH ISOLATED FORM
3FINAL FORM
3INITIAL FORM
3MEDIAL FORM
2NGOEH ISOLATED FORM
3FINAL FORM
3INITIAL FORM
3MEDIAL FORM
2NOON GHUNNA ISOLATED FORM
4FINAL FORM
2RNOON ISOLATED FORM
3FINAL FORM
3INITIAL FORM
3MEDIAL FORM
2HEH WITH YEH ABOVE ISOLATED FORM
6FINAL FORM
3GOAL ISOLATED FORM
4FINAL FORM
4INITIAL FORM
4MEDIAL FORM
3DOACHASHMEE ISOLATED FORM
4FINAL FORM
4INITIAL FORM
4MEDIAL FORM
2YEH BARREE ISOLATED FORM
4FINAL FORM
4WITH HAMZA ABOVE ISOLATED FORM
7FINAL FORM
1SYMBOL DOT ABOVE
3BELOW
2TWO DOTS ABOVE
4BELOW
2THREE DOTS ABOVE
4BELOW
4POINTING DOWNWARDS ABOVE
6BELOW
2FOUR DOTS ABOVE
4BELOW
2DOUBLE VERTICAL BAR BELOW
2TWO DOTS VERTICALLY ABOVE
5BELOW
2RING
2SMALL TAH ABOVE
4BELOW
2WASLA ABOVE
U+FBD3
1LETTER NG ISOLATED FORM
3FINAL FORM
3INITIAL FORM
3MEDIAL FORM
2U ISOLATED FORM
3FINAL FORM
2OE ISOLATED FORM
3FINAL FORM
2YU ISOLATED FORM
3FINAL FORM
2U WITH HAMZA ABOVE ISOLATED FORM
2VE ISOLATED FORM
3FINAL FORM
2KIRGHIZ OE ISOLATED FORM
4FINAL FORM
3YU ISOLATED FORM
4FINAL FORM
2E ISOLATED FORM
3FINAL FORM
3INITIAL FORM
3MEDIAL FORM
2UIGHUR KAZAKH KIRGHIZ ALEF MAKSURA INITIAL FORM
7MEDIAL FORM
1LIGATURE YEH WITH HAMZA ABOVE WITH ALEF ISOLATED FORM
8FINAL FORM
7AE ISOLATED FORM
8FINAL FORM
7WAW ISOLATED FORM
8FINAL FORM
7U ISOLATED FORM
8FINAL FORM
7OE ISOLATED FORM
8FINAL FORM
7YU ISOLATED FORM
8FINAL FORM
7E ISOLATED FORM
8FINAL FORM
8INITIAL FORM
2UIGHUR KIRGHIZ YEH WITH HAMZA ABOVE WITH ALEF MAKSURA ISOLATED FORM
9ALEF MAKSURA FINAL FORM
9ALEF MAKSURA INITIAL FORM
1LETTER FARSI YEH ISOLATED FORM
4FINAL FORM
4INITIAL FORM
4MEDIAL FORM
1LIGATURE YEH WITH HAMZA ABOVE WITH JEEM ISOLATED FORM
7HAH ISOLATED FORM
7MEEM ISOLATED FORM
7ALEF MAKSURA ISOLATED FORM
7YEH ISOLATED FORM
2BEH WITH JEEM ISOLATED FORM
4HAH ISOLATED FORM
4KHAH ISOLATED FORM
4MEEM ISOLATED FORM
4ALEF MAKSURA ISOLATED FORM
4YEH ISOLATED FORM
2TEH WITH JEEM ISOLATED FORM
4HAH ISOLATED FORM
4KHAH ISOLATED FORM
4MEEM ISOLATED FORM
4ALEF MAKSURA ISOLATED FORM
4YEH ISOLATED FORM
2THEH WITH JEEM ISOLATED FORM
4MEEM ISOLATED FORM
4ALEF MAKSURA ISOLATED FORM
4YEH ISOLATED FORM
2JEEM WITH HAH ISOLATED FORM
4MEEM ISOLATED FORM
2HAH WITH JEEM ISOLATED FORM
4MEEM ISOLATED FORM
2KHAH WITH JEEM ISOLATED FORM
4HAH ISOLATED FORM
4MEEM ISOLATED FORM
2SEEN WITH JEEM ISOLATED FORM
4HAH ISOLATED FORM
4KHAH ISOLATED FORM
4MEEM ISOLATED FORM
2SAD WITH HAH ISOLATED FORM
4MEEM ISOLATED FORM
2DAD WITH JEEM ISOLATED FORM
4HAH ISOLATED FORM
4KHAH ISOLATED FORM
4MEEM ISOLATED FORM
2TAH WITH HAH ISOLATED FORM
4MEEM ISOLATED FORM
2ZAH WITH MEEM ISOLATED FORM
2AIN WITH JEEM ISOLATED FORM
4MEEM ISOLATED FORM
2GHAIN WITH JEEM ISOLATED FORM
4MEEM ISOLATED FORM
2FEH WITH JEEM ISOLATED FORM
4HAH ISOLATED FORM
4KHAH ISOLATED FORM
4MEEM ISOLATED FORM
4ALEF MAKSURA ISOLATED FORM
4YEH ISOLATED FORM
2QAF WITH HAH ISOLATED FORM
4MEEM ISOLATED FORM
4ALEF MAKSURA ISOLATED FORM
4YEH ISOLATED FORM
2KAF WITH ALEF ISOLATED FORM
4JEEM ISOLATED FORM
4HAH ISOLATED FORM
4KHAH ISOLATED FORM
4LAM ISOLATED FORM
4MEEM ISOLATED FORM
4ALEF MAKSURA ISOLATED FORM
4YEH ISOLATED FORM
2LAM WITH JEEM ISOLATED FORM
4HAH ISOLATED FORM
4KHAH ISOLATED FORM
4MEEM ISOLATED FORM
4ALEF MAKSURA ISOLATED FORM
4YEH ISOLATED FORM
2MEEM WITH JEEM ISOLATED FORM
4HAH ISOLATED FORM
4KHAH ISOLATED FORM
4MEEM ISOLATED FORM
4ALEF MAKSURA ISOLATED FORM
4YEH ISOLATED FORM
2NOON WITH JEEM ISOLATED FORM
4HAH ISOLATED FORM
4KHAH ISOLATED FORM
4MEEM ISOLATED FORM
4ALEF MAKSURA ISOLATED FORM
4YEH ISOLATED FORM
2HEH WITH JEEM ISOLATED FORM
4MEEM ISOLATED FORM
4ALEF MAKSURA ISOLATED FORM
4YEH ISOLATED FORM
2YEH WITH JEEM ISOLATED FORM
4HAH ISOLATED FORM
4KHAH ISOLATED FORM
4MEEM ISOLATED FORM
4ALEF MAKSURA ISOLATED FORM
4YEH ISOLATED FORM
2THAL WITH SUPERSCRIPT ALEF ISOLATED FORM
2REH WITH SUPERSCRIPT ALEF ISOLATED FORM
2ALEF MAKSURA WITH SUPERSCRIPT ALEF ISOLATED FORM
2SHADDA WITH DAMMATAN ISOLATED FORM
4KASRATAN ISOLATED FORM
4FATHA ISOLATED FORM
4DAMMA ISOLATED FORM
4KASRA ISOLATED FORM
4SUPERSCRIPT ALEF ISOLATED FORM
2YEH WITH HAMZA ABOVE WITH REH FINAL FORM
7ZAIN FINAL FORM
7MEEM FINAL FORM
7NOON FINAL FORM
7ALEF MAKSURA FINAL FORM
7YEH FINAL FORM
2BEH WITH REH FINAL FORM
4ZAIN FINAL FORM
4MEEM FINAL FORM
4NOON FINAL FORM
4ALEF MAKSURA FINAL FORM
4YEH FINAL FORM
2TEH WITH REH FINAL FORM
4ZAIN FINAL FORM
4MEEM FINAL FORM
4NOON FINAL FORM
4ALEF MAKSURA FINAL FORM
4YEH FINAL FORM
2THEH WITH REH FINAL FORM
4ZAIN FINAL FORM
4MEEM FINAL FORM
4NOON FINAL FORM
4ALEF MAKSURA FINAL FORM
4YEH FINAL FORM
2FEH WITH ALEF MAKSURA FINAL FORM
4YEH FINAL FORM
2QAF WITH ALEF MAKSURA FINAL FORM
4YEH FINAL FORM
2KAF WITH ALEF FINAL FORM
4LAM FINAL FORM
4MEEM FINAL FORM
4ALEF MAKSURA FINAL FORM
4YEH FINAL FORM
2LAM WITH MEEM FINAL FORM
4ALEF MAKSURA FINAL FORM
4YEH FINAL FORM
2MEEM WITH ALEF FINAL FORM
4MEEM FINAL FORM
2NOON WITH REH FINAL FORM
4ZAIN FINAL FORM
4MEEM FINAL FORM
4NOON FINAL FORM
4ALEF MAKSURA FINAL FORM
4YEH FINAL FORM
2ALEF MAKSURA WITH SUPERSCRIPT ALEF FINAL FORM
2YEH WITH REH FINAL FORM
4ZAIN FINAL FORM
4MEEM FINAL FORM
4NOON FINAL FORM
4ALEF MAKSURA FINAL FORM
4YEH FINAL FORM
4HAMZA ABOVE WITH JEEM INITIAL FORM
7HAH INITIAL FORM
7KHAH INITIAL FORM
7MEEM INITIAL FORM
7HEH INITIAL FORM
2BEH WITH JEEM INITIAL FORM
4HAH INITIAL FORM
4KHAH INITIAL FORM
4MEEM INITIAL FORM
4HEH INITIAL FORM
2TEH WITH JEEM INITIAL FORM
4HAH INITIAL FORM
4KHAH INITIAL FORM
4MEEM INITIAL FORM
4HEH INITIAL FORM
2THEH WITH MEEM INITIAL FORM
2JEEM WITH HAH INITIAL FORM
4MEEM INITIAL FORM
2HAH WITH JEEM INITIAL FORM
4MEEM INITIAL FORM
2KHAH WITH JEEM INITIAL FORM
4MEEM INITIAL FORM
2SEEN WITH JEEM INITIAL FORM
4HAH INITIAL FORM
4KHAH INITIAL FORM
4MEEM INITIAL FORM
2SAD WITH HAH INITIAL FORM
4KHAH INITIAL FORM
4MEEM INITIAL FORM
2DAD WITH JEEM INITIAL FORM
4HAH INITIAL FORM
4KHAH INITIAL FORM
4MEEM INITIAL FORM
2TAH WITH HAH INITIAL FORM
2ZAH WITH MEEM INITIAL FORM
2AIN WITH JEEM INITIAL FORM
4MEEM INITIAL FORM
2GHAIN WITH JEEM INITIAL FORM
4MEEM INITIAL FORM
2FEH WITH JEEM INITIAL FORM
4HAH INITIAL FORM
4KHAH INITIAL FORM
4MEEM INITIAL FORM
2QAF WITH HAH INITIAL FORM
4MEEM INITIAL FORM
2KAF WITH JEEM INITIAL FORM
4HAH INITIAL FORM
4KHAH INITIAL FORM
4LAM INITIAL FORM
4MEEM INITIAL FORM
2LAM WITH JEEM INITIAL FORM
4HAH INITIAL FORM
4KHAH INITIAL FORM
4MEEM INITIAL FORM
4HEH INITIAL FORM
2MEEM WITH JEEM INITIAL FORM
4HAH INITIAL FORM
4KHAH INITIAL FORM
4MEEM INITIAL FORM
2NOON WITH JEEM INITIAL FORM
4HAH INITIAL FORM
4KHAH INITIAL FORM
4MEEM INITIAL FORM
4HEH INITIAL FORM
2HEH WITH JEEM INITIAL FORM
4MEEM INITIAL FORM
4SUPERSCRIPT ALEF INITIAL FORM
2YEH WITH JEEM INITIAL FORM
4HAH INITIAL FORM
4KHAH INITIAL FORM
4MEEM INITIAL FORM
4HEH INITIAL FORM
4HAMZA ABOVE WITH MEEM MEDIAL FORM
7HEH MEDIAL FORM
2BEH WITH MEEM MEDIAL FORM
4HEH MEDIAL FORM
2TEH WITH MEEM MEDIAL FORM
4HEH MEDIAL FORM
2THEH WITH MEEM MEDIAL FORM
4HEH MEDIAL FORM
2SEEN WITH MEEM MEDIAL FORM
4HEH MEDIAL FORM
2SHEEN WITH MEEM MEDIAL FORM
4HEH MEDIAL FORM
2KAF WITH LAM MEDIAL FORM
4MEEM MEDIAL FORM
2LAM WITH MEEM MEDIAL FORM
2NOON WITH MEEM MEDIAL FORM
4HEH MEDIAL FORM
2YEH WITH MEEM MEDIAL FORM
4HEH MEDIAL FORM
2SHADDA WITH FATHA MEDIAL FORM
4DAMMA MEDIAL FORM
4KASRA MEDIAL FORM
2TAH WITH ALEF MAKSURA ISOLATED FORM
4YEH ISOLATED FORM
2AIN WITH ALEF MAKSURA ISOLATED FORM
4YEH ISOLATED FORM
2GHAIN WITH ALEF MAKSURA ISOLATED FORM
4YEH ISOLATED FORM
2SEEN WITH ALEF MAKSURA ISOLATED FORM
4YEH ISOLATED FORM
2SHEEN WITH ALEF MAKSURA ISOLATED FORM
4YEH ISOLATED FORM
2HAH WITH ALEF MAKSURA ISOLATED FORM
4YEH ISOLATED FORM
2JEEM WITH ALEF MAKSURA ISOLATED FORM
4YEH ISOLATED FORM
2KHAH WITH ALEF MAKSURA ISOLATED FORM
4YEH ISOLATED FORM
2SAD WITH ALEF MAKSURA ISOLATED FORM
4YEH ISOLATED FORM
2DAD WITH ALEF MAKSURA ISOLATED FORM
4YEH ISOLATED FORM
2SHEEN WITH JEEM ISOLATED FORM
4HAH ISOLATED FORM
4KHAH ISOLATED FORM
4MEEM ISOLATED FORM
4REH ISOLATED FORM
2SEEN WITH REH ISOLATED FORM
2SAD WITH REH ISOLATED FORM
2DAD WITH REH ISOLATED FORM
2TAH WITH ALEF MAKSURA FINAL FORM
4YEH FINAL FORM
2AIN WITH ALEF MAKSURA FINAL FORM
4YEH FINAL FORM
2GHAIN WITH ALEF MAKSURA FINAL FORM
4YEH FINAL FORM
2SEEN WITH ALEF MAKSURA FINAL FORM
4YEH FINAL FORM
2SHEEN WITH ALEF MAKSURA FINAL FORM
4YEH FINAL FORM
2HAH WITH ALEF MAKSURA FINAL FORM
4YEH FINAL FORM
2JEEM WITH ALEF MAKSURA FINAL FORM
4YEH FINAL FORM
2KHAH WITH ALEF MAKSURA FINAL FORM
4YEH FINAL FORM
2SAD WITH ALEF MAKSURA FINAL FORM
4YEH FINAL FORM
2DAD WITH ALEF MAKSURA FINAL FORM
4YEH FINAL FORM
2SHEEN WITH JEEM FINAL FORM
4HAH FINAL FORM
4KHAH FINAL FORM
4MEEM FINAL FORM
4REH FINAL FORM
2SEEN WITH REH FINAL FORM
2SAD WITH REH FINAL FORM
2DAD WITH REH FINAL FORM
2SHEEN WITH JEEM INITIAL FORM
4HAH INITIAL FORM
4KHAH INITIAL FORM
4MEEM INITIAL FORM
2SEEN WITH HEH INITIAL FORM
2SHEEN WITH HEH INITIAL FORM
2TAH WITH MEEM INITIAL FORM
2SEEN WITH JEEM MEDIAL FORM
4HAH MEDIAL FORM
4KHAH MEDIAL FORM
2SHEEN WITH JEEM MEDIAL FORM
4HAH MEDIAL FORM
4KHAH MEDIAL FORM
2TAH WITH MEEM MEDIAL FORM
2ZAH WITH MEEM MEDIAL FORM
2ALEF WITH FATHATAN FINAL FORM
5ISOLATED FORM
0ORNATE LEFT PARENTHESIS
1RIGHT PARENTHESIS
0ARABIC LIGATURE RAHIMAHU ALLAAH
2RADI ALLAAHU ANH
4ANHAA
4ANHUM
4ANHUMAA
4ANHUNNA
2SALLALLAAHU ALAYHI WA-AALIH
2ALAYHI AS-SALAAM
2ALAYHIM AS-SALAAM
2ALAYHIMAA AS-SALAAM
2ALAYHI AS-SALAATU WAS-SALAAM
2QUDDISA SIRRAH
2SALLALLAHU ALAYHI WAAALIHEE WA-SALLAM
2ALAYHAA AS-SALAAM
2TABAARAKA WA-TAAALAA
2RAHIMAHUM ALLAAH
2TEH WITH JEEM WITH MEEM INITIAL FORM
4HAH WITH JEEM FINAL FORM
7INITIAL FORM
6MEEM INITIAL FORM
4KHAH WITH MEEM INITIAL FORM
4MEEM WITH JEEM INITIAL FORM
6HAH INITIAL FORM
6KHAH INITIAL FORM
2JEEM WITH MEEM WITH HAH FINAL FORM
7INITIAL FORM
2HAH WITH MEEM WITH YEH FINAL FORM
6ALEF MAKSURA FINAL FORM
2SEEN WITH HAH WITH JEEM INITIAL FORM
4JEEM WITH HAH INITIAL FORM
6ALEF MAKSURA FINAL FORM
4MEEM WITH HAH FINAL FORM
7INITIAL FORM
6JEEM INITIAL FORM
6MEEM FINAL FORM
7INITIAL FORM
2SAD WITH HAH WITH HAH FINAL FORM
7INITIAL FORM
4MEEM WITH MEEM FINAL FORM
2SHEEN WITH HAH WITH MEEM FINAL FORM
7INITIAL FORM
4JEEM WITH YEH FINAL FORM
4MEEM WITH KHAH FINAL FORM
7INITIAL FORM
6MEEM FINAL FORM
7INITIAL FORM
2DAD WITH HAH WITH ALEF MAKSURA FINAL FORM
4KHAH WITH MEEM FINAL FORM
7INITIAL FORM
2TAH WITH MEEM WITH HAH FINAL FORM
7INITIAL FORM
6MEEM INITIAL FORM
6YEH FINAL FORM
2AIN WITH JEEM WITH MEEM FINAL FORM
4MEEM WITH MEEM FINAL FORM
7INITIAL FORM
6ALEF MAKSURA FINAL FORM
2GHAIN WITH MEEM WITH MEEM FINAL FORM
6YEH FINAL FORM
6ALEF MAKSURA FINAL FORM
2FEH WITH KHAH WITH MEEM FINAL FORM
7INITIAL FORM
2QAF WITH MEEM WITH HAH FINAL FORM
6MEEM FINAL FORM
2LAM WITH HAH WITH MEEM FINAL FORM
6YEH FINAL FORM
6ALEF MAKSURA FINAL FORM
4JEEM WITH JEEM INITIAL FORM
7FINAL FORM
4KHAH WITH MEEM FINAL FORM
7INITIAL FORM
4MEEM WITH HAH FINAL FORM
7INITIAL FORM
2MEEM WITH HAH WITH JEEM INITIAL FORM
6MEEM INITIAL FORM
6YEH FINAL FORM
4JEEM WITH HAH INITIAL FORM
6MEEM INITIAL FORM
4KHAH WITH JEEM INITIAL FORM
6MEEM INITIAL FORM
U+FD92
4JEEM WITH KHAH INITIAL FORM
2HEH WITH MEEM WITH JEEM INITIAL FORM
6MEEM INITIAL FORM
2NOON WITH HAH WITH MEEM INITIAL FORM
6ALEF MAKSURA FINAL FORM
4JEEM WITH MEEM FINAL FORM
7INITIAL FORM
6ALEF MAKSURA FINAL FORM
4MEEM WITH YEH FINAL FORM
6ALEF MAKSURA FINAL FORM
2YEH WITH MEEM WITH MEEM FINAL FORM
7INITIAL FORM
2BEH WITH KHAH WITH YEH FINAL FORM
2TEH WITH JEEM WITH YEH FINAL FORM
6ALEF MAKSURA FINAL FORM
4KHAH WITH YEH FINAL FORM
6ALEF MAKSURA FINAL FORM
4MEEM WITH YEH FINAL FORM
6ALEF MAKSURA FINAL FORM
2JEEM WITH MEEM WITH YEH FINAL FORM
4HAH WITH ALEF MAKSURA FINAL FORM
4MEEM WITH ALEF MAKSURA FINAL FORM
2SEEN WITH KHAH WITH ALEF MAKSURA FINAL FORM
2SAD WITH HAH WITH YEH FINAL FORM
2SHEEN WITH HAH WITH YEH FINAL FORM
2DAD WITH HAH WITH YEH FINAL FORM
2LAM WITH JEEM WITH YEH FINAL FORM
4MEEM WITH YEH FINAL FORM
2YEH WITH HAH WITH YEH FINAL FORM
4JEEM WITH YEH FINAL FORM
4MEEM WITH YEH FINAL FORM
2MEEM WITH MEEM WITH YEH FINAL FORM
2QAF WITH MEEM WITH YEH FINAL FORM
2NOON WITH HAH WITH YEH FINAL FORM
2QAF WITH MEEM WITH HAH INITIAL FORM
2LAM WITH HAH WITH MEEM INITIAL FORM
2AIN WITH MEEM WITH YEH FINAL FORM
2KAF WITH MEEM WITH YEH FINAL FORM
2NOON WITH JEEM WITH HAH INITIAL FORM
2MEEM WITH KHAH WITH YEH FINAL FORM
2LAM WITH JEEM WITH MEEM INITIAL FORM
2KAF WITH MEEM WITH MEEM FINAL FORM
2LAM WITH JEEM WITH MEEM FINAL FORM
2NOON WITH JEEM WITH HAH FINAL FORM
2JEEM WITH HAH WITH YEH FINAL FORM
2HAH WITH JEEM WITH YEH FINAL FORM
2MEEM WITH JEEM WITH YEH FINAL FORM
2FEH WITH MEEM WITH YEH FINAL FORM
2BEH WITH HAH WITH YEH FINAL FORM
2KAF WITH MEEM WITH MEEM INITIAL FORM
2AIN WITH JEEM WITH MEEM INITIAL FORM
2SAD WITH MEEM WITH MEEM INITIAL FORM
2SEEN WITH KHAH WITH YEH FINAL FORM
2NOON WITH JEEM WITH YEH FINAL FORM
U+FDCF
2SALAAMUHU ALAYNAA
U+FDF0
2SALLA USED AS KORANIC STOP SIGN ISOLATED FORM
2QALA USED AS KORANIC STOP SIGN ISOLATED FORM
2ALLAH ISOLATED FORM
2AKBAR ISOLATED FORM
2MOHAMMAD ISOLATED FORM
2SALAM ISOLATED FORM
2RASOUL ISOLATED FORM
2ALAYHE ISOLATED FORM
2WASALLAM ISOLATED FORM
2SALLA ISOLATED FORM
2SALLALLAHOU ALAYHE WASALLAM
2JALLAJALALOUHOU
0RIAL SIGN
0ARABIC LIGATURE BISMILLAH AR-RAHMAN AR-RAHEEM
2SUBHAANAHU WA TAAALAA
2AZZA WA JALL
0VARIATION SELECTOR-1
1SELECTOR-2
1SELECTOR-3
1SELECTOR-4
1SELECTOR-5
1SELECTOR-6
1SELECTOR-7
1SELECTOR-8
1SELECTOR-9
1SELECTOR-10
1SELECTOR-11
1SELECTOR-12
1SELECTOR-13
1SELECTOR-14
1SELECTOR-15
1SELECTOR-16
0PRESENTATION FORM FOR VERTICAL COMMA
4IDEOGRAPHIC COMMA
5FULL STOP
4COLON
4SEMICOLON
4EXCLAMATION MARK
4QUESTION MARK
4LEFT WHITE LENTICULAR BRACKET
4RIGHT WHITE LENTICULAR BRAKCET
4HORIZONTAL ELLIPSIS
U+FE20
0COMBINING LIGATURE LEFT HALF
2RIGHT HALF
1DOUBLE TILDE LEFT HALF
3RIGHT HALF
1MACRON LEFT HALF
2RIGHT HALF
1CONJOINING MACRON
1LIGATURE LEFT HALF BELOW
2RIGHT HALF BELOW
1TILDE LEFT HALF BELOW
2RIGHT HALF BELOW
1MACRON LEFT HALF BELOW
2RIGHT HALF BELOW
1CONJOINING MACRON BELOW
1CYRILLIC TITLO LEFT HALF
3RIGHT HALF
0PRESENTATION FORM FOR VERTICAL TWO DOT LEADER
4EM DASH
4EN DASH
4LOW LINE
4WAVY LOW LINE
4LEFT PARENTHESIS
4RIGHT PARENTHESIS
4LEFT CURLY BRACKET
4RIGHT CURLY BRACKET
4LEFT TORTOISE SHELL BRACKET
4RIGHT TORTOISE SHELL BRACKET
4LEFT BLACK LENTICULAR BRACKET
4RIGHT BLACK LENTICULAR BRACKET
4LEFT DOUBLE ANGLE BRACKET
4RIGHT DOUBLE ANGLE BRACKET
4LEFT ANGLE BRACKET
4RIGHT ANGLE BRACKET
4LEFT CORNER BRACKET
4RIGHT CORNER BRACKET
4LEFT WHITE CORNER BRACKET
4RIGHT WHITE CORNER BRACKET
0SESAME DOT
0WHITE SESAME DOT
0PRESENTATION FORM FOR VERTICAL LEFT SQUARE BRACKET
4RIGHT SQUARE BRACKET
0DASHED OVERLINE
0CENTRELINE OVERLINE
0WAVY OVERLINE
0DOUBLE WAVY OVERLINE
0DASHED LOW LINE
0CENTRELINE LOW LINE
0WAVY LOW LINE
0SMALL COMMA
1IDEOGRAPHIC COMMA
1FULL STOP
U+FE54
1SEMICOLON
1COLON
1QUESTION MARK
1EXCLAMATION MARK
1EM DASH
1LEFT PARENTHESIS
1RIGHT PARENTHESIS
1LEFT CURLY BRACKET
1RIGHT CURLY BRACKET
1LEFT TORTOISE SHELL BRACKET
1RIGHT TORTOISE SHELL BRACKET
1NUMBER SIGN
1AMPERSAND
1ASTERISK
1PLUS SIGN
1HYPHEN-MINUS
1LESS-THAN SIGN
1GREATER-THAN SIGN
1EQUALS SIGN
U+FE68
1REVERSE SOLIDUS
1DOLLAR SIGN
1PERCENT SIGN
1COMMERCIAL AT
U+FE70
0ARABIC FATHATAN ISOLATED FORM
1TATWEEL WITH FATHATAN ABOVE
1DAMMATAN ISOLATED FORM
1TAIL FRAGMENT
1KASRATAN ISOLATED FORM
U+FE76
1FATHA ISOLATED FORM
2MEDIAL FORM
1DAMMA ISOLATED FORM
2MEDIAL FORM
1KASRA ISOLATED FORM
2MEDIAL FORM
1SHADDA ISOLATED FORM
2MEDIAL FORM
1SUKUN ISOLATED FORM
2MEDIAL FORM
1LETTER HAMZA ISOLATED FORM
2ALEF WITH MADDA ABOVE ISOLATED FORM
6FINAL FORM
4HAMZA ABOVE ISOLATED FORM
6FINAL FORM
2WAW WITH HAMZA ABOVE ISOLATED FORM
6FINAL FORM
2ALEF WITH HAMZA BELOW ISOLATED FORM
6FINAL FORM
2YEH WITH HAMZA ABOVE ISOLATED FORM
6FINAL FORM
6INITIAL FORM
6MEDIAL FORM
2ALEF ISOLATED FORM
3FINAL FORM
2BEH ISOLATED FORM
3FINAL FORM
3INITIAL FORM
3MEDIAL FORM
2TEH MARBUTA ISOLATED FORM
4FINAL FORM
3ISOLATED FORM
3FINAL FORM
3INITIAL FORM
3MEDIAL FORM
2THEH ISOLATED FORM
3FINAL FORM
3INITIAL FORM
3MEDIAL FORM
2JEEM ISOLATED FORM
3FINAL FORM
3INITIAL FORM
3MEDIAL FORM
2HAH ISOLATED FORM
3FINAL FORM
3INITIAL FORM
3MEDIAL FORM
2KHAH ISOLATED FORM
3FINAL FORM
3INITIAL FORM
3MEDIAL FORM
2DAL ISOLATED FORM
3FINAL FORM
2THAL ISOLATED FORM
3FINAL FORM
2REH ISOLATED FORM
3FINAL FORM
2ZAIN ISOLATED FORM
3FINAL FORM
2SEEN ISOLATED FORM
3FINAL FORM
3INITIAL FORM
3MEDIAL FORM
2SHEEN ISOLATED FORM
3FINAL FORM
3INITIAL FORM
3MEDIAL FORM
2SAD ISOLATED FORM
3FINAL FORM
3INITIAL FORM
3MEDIAL FORM
2DAD ISOLATED FORM
3FINAL FORM
3INITIAL FORM
3MEDIAL FORM
2TAH ISOLATED FORM
3FINAL FORM
3INITIAL FORM
3MEDIAL FORM
2ZAH ISOLATED FORM
3FINAL FORM
3INITIAL FORM
3MEDIAL FORM
2AIN ISOLATED FORM
3FINAL FORM
3INITIAL FORM
3MEDIAL FORM
2GHAIN ISOLATED FORM
3FINAL FORM
3INITIAL FORM
3MEDIAL FORM
2FEH ISOLATED FORM
3FINAL FORM
3INITIAL FORM
3MEDIAL FORM
2QAF ISOLATED FORM
3FINAL FORM
3INITIAL FORM
3MEDIAL FORM
2KAF ISOLATED FORM
3FINAL FORM
3INITIAL FORM
3MEDIAL FORM
2LAM ISOLATED FORM
3FINAL FORM
3INITIAL FORM
3MEDIAL FORM
2MEEM ISOLATED FORM
3FINAL FORM
3INITIAL FORM
3MEDIAL FORM
2NOON ISOLATED FORM
3FINAL FORM
3INITIAL FORM
3MEDIAL FORM
2HEH ISOLATED FORM
3FINAL FORM
3INITIAL FORM
3MEDIAL FORM
2WAW ISOLATED FORM
3FINAL FORM
2ALEF MAKSURA ISOLATED FORM
4FINAL FORM
2YEH ISOLATED FORM
3FINAL FORM
3INITIAL FORM
3MEDIAL FORM
1LIGATURE LAM WITH ALEF WITH MADDA ABOVE ISOLATED FORM
8FINAL FORM
6HAMZA ABOVE ISOLATED FORM
8FINAL FORM
7BELOW ISOLATED FORM
8FINAL FORM
5ISOLATED FORM
5FINAL FORM
U+FEFF
0ZERO WIDTH NO-BREAK SPACE
U+FF01
0FULLWIDTH EXCLAMATION MARK
1QUOTATION MARK
1NUMBER SIGN
1DOLLAR SIGN
1PERCENT SIGN
1AMPERSAND
1APOSTROPHE
1LEFT PARENTHESIS
1RIGHT PARENTHESIS
1ASTERISK
1PLUS SIGN
1COMMA
1HYPHEN-MINUS
1FULL STOP
1SOLIDUS
1DIGIT ZERO
2ONE
2TWO
2THREE
2FOUR
2FIVE
2SIX
2SEVEN
2EIGHT
2NINE
1COLON
1SEMICOLON
1LESS-THAN SIGN
1EQUALS SIGN
1GREATER-THAN SIGN
1QUESTION MARK
1COMMERCIAL AT
1LATIN CAPITAL LETTER A
4B
4C
4D
4E
4F
4G
4H
4I
4J
4K
4L
4M
4N
4O
4P
4Q
4R
4S
4T
4U
4V
4W
4X
4Y
4Z
1LEFT SQUARE BRACKET
1REVERSE SOLIDUS
1RIGHT SQUARE BRACKET
1CIRCUMFLEX ACCENT
1LOW LINE
1GRAVE ACCENT
1LATIN SMALL LETTER A
4B
4C
4D
4E
4F
4G
4H
4I
4J
4K
4L
4M
4N
4O
4P
4Q
4R
4S
4T
4U
4V
4W
4X
4Y
4Z
1LEFT CURLY BRACKET
1VERTICAL LINE
1RIGHT CURLY BRACKET
1TILDE
1LEFT WHITE PARENTHESIS
1RIGHT WHITE PARENTHESIS
0HALFWIDTH IDEOGRAPHIC FULL STOP
1LEFT CORNER BRACKET
1RIGHT CORNER BRACKET
1IDEOGRAPHIC COMMA
1KATAKANA MIDDLE DOT
2LETTER WO
3SMALL A
4I
4U
4E
4O
4YA
4YU
4YO
4TU
1KATAKANA-HIRAGANA PROLONGED SOUND MARK
1KATAKANA LETTER A
3I
3U
3E
3O
3KA
3KI
3KU
3KE
3KO
3SA
3SI
3SU
3SE
3SO
3TA
3TI
3TU
3TE
3TO
3NA
3NI
3NU
3NE
3NO
3HA
3HI
3HU
3HE
3HO
3MA
3MI
3MU
3ME
3MO
3YA
3YU
3YO
3RA
3RI
3RU
3RE
3RO
3WA
3N
2VOICED SOUND MARK
2SEMI-VOICED SOUND MARK
1HANGUL FILLER
2LETTER KIYEOK
3SSANGKIYEOK
3KIYEOK-SIOS
3NIEUN
3NIEUN-CIEUC
3NIEUN-HIEUH
3TIKEUT
3SSANGTIKEUT
3RIEUL
3RIEUL-KIYEOK
3RIEUL-MIEUM
3RIEUL-PIEUP
3RIEUL-SIOS
3RIEUL-THIEUTH
3RIEUL-PHIEUPH
3RIEUL-HIEUH
3MIEUM
3PIEUP
3SSANGPIEUP
3PIEUP-SIOS
3SIOS
3SSANGSIOS
3IEUNG
3CIEUC
3SSANGCIEUC
3CHIEUCH
3KHIEUKH
3THIEUTH
3PHIEUPH
3HIEUH
U+FFC2
3A
3AE
3YA
3YAE
3EO
3E
U+FFCA
3YEO
3YE
3O
3WA
3WAE
3OE
U+FFD2
3YO
3U
3WEO
3WE
3WI
3YU
U+FFDA
3EU
3YI
3I
U+FFE0
0FULLWIDTH CENT SIGN
1POUND SIGN
1NOT SIGN
1MACRON
1BROKEN BAR
1YEN SIGN
1WON SIGN
U+FFE8
0HALFWIDTH FORMS LIGHT VERTICAL
1LEFTWARDS ARROW
1UPWARDS ARROW
1RIGHTWARDS ARROW
1DOWNWARDS ARROW
1BLACK SQUARE
1WHITE CIRCLE
U+FFF9
0INTERLINEAR ANNOTATION ANCHOR
2SEPARATOR
2TERMINATOR
0OBJECT REPLACEMENT CHARACTER
0REPLACEMENT CHARACTER
U+10000
0LINEAR B SYLLABLE B008 A
3B038 E
3B028 I
3B061 O
3B010 U
3B001 DA
3B045 DE
3B007 DI
3B014 DO
3B051 DU
3B057 JA
3B046 JE
U+1000D
3B036 JO
3B065 JU
3B077 KA
3B044 KE
3B067 KI
3B070 KO
3B081 KU
3B080 MA
3B013 ME
3B073 MI
3B015 MO
3B023 MU
3B006 NA
3B024 NE
3B030 NI
3B052 NO
3B055 NU
3B003 PA
3B072 PE
3B039 PI
3B011 PO
3B050 PU
3B016 QA
3B078 QE
3B021 QI
3B032 QO
U+10028
3B060 RA
3B027 RE
3B053 RI
3B002 RO
3B026 RU
3B031 SA
3B009 SE
3B041 SI
3B012 SO
3B058 SU
3B059 TA
3B004 TE
3B037 TI
3B005 TO
3B069 TU
3B054 WA
3B075 WE
3B040 WI
3B042 WO
U+1003C
3B017 ZA
3B074 ZE
U+1003F
3B020 ZO
3B025 A2
3B043 A3
3B085 AU
3B071 DWE
3B090 DWO
3B048 NWA
3B029 PU2
3B062 PTE
3B076 RA2
3B033 RA3
3B068 RO2
3B066 TA2
3B087 TWE
3B091 TWO
U+10050
2SYMBOL B018
3B019
3B022
3B034
3B047
3B049
3B056
3B063
3B064
3B079
3B082
3B083
3B086
3B089
U+10080
2IDEOGRAM B100 MAN
3B102 WOMAN
3B104 DEER
3B105 EQUID
3B105F MARE
3B105M STALLION
3B106F EWE
3B106M RAM
3B107F SHE-GOAT
3B107M HE-GOAT
3B108F SOW
3B108M BOAR
3B109F COW
3B109M BULL
3B120 WHEAT
3B121 BARLEY
3B122 OLIVE
3B123 SPICE
3B125 CYPERUS
2MONOGRAM B127 KAPO
3B128 KANAKO
2IDEOGRAM B130 OIL
3B131 WINE
3B132
2MONOGRAM B133 AREPA
3B135 MERI
2IDEOGRAM B140 BRONZE
3B141 GOLD
3B142
3B145 WOOL
3B146
3B150
3B151 HORN
3B152
3B153
3B154
2MONOGRAM B156 TURO2
2IDEOGRAM B157
3B158
3B159 CLOTH
3B160
3B161
3B162 GARMENT
3B163 ARMOUR
3B164
3B165
3B166
3B167
3B168
3B169
3B170
3B171
3B172
3B173 MONTH
3B174
3B176 TREE
3B177
3B178
3B179
3B180
3B181
3B182
3B183
3B184
3B185
3B189
3B190
3B191 HELMET
3B220 FOOTSTOOL
3B225 BATHTUB
3B230 SPEAR
3B231 ARROW
3B232
3B233 SWORD
3B234
3B236
3B240 WHEELED CHARIOT
3B241 CHARIOT
3B242 CHARIOT FRAME
3B243 WHEEL
3B245
3B246
2MONOGRAM B247 DIPTE
2IDEOGRAM B248
3B249
3B251
3B252
3B253
3B254 DART
3B255
3B256
3B257
3B258
3B259
3VESSEL B155
4B200
4B201
4B202
4B203
4B204
4B205
4B206
4B207
4B208
4B209
4B210
4B211
4B212
4B213
4B214
4B215
4B216
4B217
4B218
4B219
4B221
4B222
4B226
4B227
4B228
4B229
4B250
4B305
U+10100
0AEGEAN WORD SEPARATOR LINE
3DOT
1CHECK MARK
U+10107
1NUMBER ONE
2TWO
2THREE
2FOUR
2FIVE
2SIX
2SEVEN
2EIGHT
2NINE
2TEN
2TWENTY
2THIRTY
2FORTY
2FIFTY
2SIXTY
2SEVENTY
2EIGHTY
2NINETY
2ONE HUNDRED
2TWO HUNDRED
2THREE HUNDRED
2FOUR HUNDRED
2FIVE HUNDRED
2SIX HUNDRED
2SEVEN HUNDRED
2EIGHT HUNDRED
2NINE HUNDRED
2ONE THOUSAND
2TWO THOUSAND
2THREE THOUSAND
2FOUR THOUSAND
2FIVE THOUSAND
2SIX THOUSAND
2SEVEN THOUSAND
2EIGHT THOUSAND
2NINE THOUSAND
2TEN THOUSAND
2TWENTY THOUSAND
2THIRTY THOUSAND
2FORTY THOUSAND
2FIFTY THOUSAND
2SIXTY THOUSAND
2SEVENTY THOUSAND
2EIGHTY THOUSAND
2NINETY THOUSAND
U+10137
1WEIGHT BASE UNIT
2FIRST SUBUNIT
2SECOND SUBUNIT
2THIRD SUBUNIT
2FOURTH SUBUNIT
1DRY MEASURE FIRST SUBUNIT
1LIQUID MEASURE FIRST SUBUNIT
1MEASURE SECOND SUBUNIT
2THIRD SUBUNIT
0GREEK ACROPHONIC ATTIC ONE QUARTER
4HALF
4DRACHMA
3FIVE
3FIFTY
3FIVE HUNDRED
4THOUSAND
3FIFTY THOUSAND
3FIVE TALENTS
3TEN TALENTS
3FIFTY TALENTS
3ONE HUNDRED TALENTS
3FIVE HUNDRED TALENTS
3ONE THOUSAND TALENTS
3FIVE THOUSAND TALENTS
4STATERS
3TEN STATERS
3FIFTY STATERS
3ONE HUNDRED STATERS
3FIVE HUNDRED STATERS
3ONE THOUSAND STATERS
3TEN THOUSAND STATERS
3FIFTY THOUSAND STATERS
3TEN MNAS
2HERAEUM ONE PLETHRON
2THESPIAN ONE
2HERMIONIAN ONE
2EPIDAUREAN TWO
2THESPIAN TWO
2CYRENAIC TWO DRACHMAS
2EPIDAUREAN TWO DRACHMAS
2TROEZENIAN FIVE
3TEN
4ALTERNATE FORM
2HERMIONIAN TEN
2MESSENIAN TEN
2THESPIAN TEN
3THIRTY
2TROEZENIAN FIFTY
4ALTERNATE FORM
2HERMIONIAN FIFTY
2THESPIAN FIFTY
3ONE HUNDRED
3THREE HUNDRED
2EPIDAUREAN FIVE HUNDRED
2TROEZENIAN FIVE HUNDRED
2THESPIAN FIVE HUNDRED
2CARYSTIAN FIVE HUNDRED
2NAXIAN FIVE HUNDRED
2THESPIAN ONE THOUSAND
3FIVE THOUSAND
2DELPHIC FIVE MNAS
2STRATIAN FIFTY MNAS
1ONE HALF SIGN
4ALTERNATE FORM
1TWO THIRDS SIGN
1THREE QUARTERS SIGN
1YEAR SIGN
1TALENT SIGN
1DRACHMA SIGN
1OBOL SIGN
1TWO OBOLS SIGN
1THREE OBOLS SIGN
1FOUR OBOLS SIGN
1FIVE OBOLS SIGN
1METRETES SIGN
1KYATHOS BASE SIGN
1LITRA SIGN
1OUNKIA SIGN
1XESTES SIGN
1ARTABE SIGN
1AROURA SIGN
1GRAMMA SIGN
1TRYBLION BASE SIGN
1ZERO SIGN
1ONE QUARTER SIGN
1SINUSOID SIGN
1INDICTION SIGN
0NOMISMA SIGN
U+10190
0ROMAN SEXTANS SIGN
1UNCIA SIGN
1SEMUNCIA SIGN
1SEXTULA SIGN
1DIMIDIA SEXTULA SIGN
1SILIQUA SIGN
1DENARIUS SIGN
1QUINARIUS SIGN
1SESTERTIUS SIGN
1DUPONDIUS SIGN
1AS SIGN
1CENTURIAL SIGN
0ASCIA SYMBOL
U+101A0
0GREEK SYMBOL TAU RHO
U+101D0
0PHAISTOS DISC SIGN PEDESTRIAN
3PLUMED HEAD
3TATTOOED HEAD
3CAPTIVE
3CHILD
3WOMAN
3HELMET
3GAUNTLET
3TIARA
3ARROW
3BOW
3SHIELD
3CLUB
3MANACLES
3MATTOCK
3SAW
3LID
3BOOMERANG
3CARPENTRY PLANE
3DOLIUM
3COMB
3SLING
3COLUMN
3BEEHIVE
3SHIP
3HORN
3HIDE
3BULLS LEG
3CAT
3RAM
3EAGLE
3DOVE
3TUNNY
3BEE
3PLANE TREE
3VINE
3PAPYRUS
3ROSETTE
3LILY
3OX BACK
3FLUTE
3GRATER
3STRAINER
3SMALL AXE
3WAVY BAND
3COMBINING OBLIQUE STROKE
U+10280
0LYCIAN LETTER A
2E
2B
2BH
2G
2D
2I
2W
2Z
2TH
2J
2K
2Q
2L
2M
2N
2MM
2NN
2U
2P
2KK
2R
2S
2T
2TT
2AN
2EN
2H
2X
U+102A0
0CARIAN LETTER A
2P2
2D
2L
2UUU
2R
2LD
2A2
2Q
2B
2M
2O
2D2
2T
2SH
2SH2
2S
2C-18
2U
2NN
2X
2N
2TT2
2P
2SS
2I
2E
2UUUU
2K
2K2
2ND
2UU
2G
2G2
2ST
2ST2
2NG
2II
2C-39
2TT
2UUU2
2RR
2MB
2MB2
2MB3
2MB4
2LD2
2E2
2UUU3
U+102E0
0COPTIC EPACT THOUSANDS MARK
2DIGIT ONE
3TWO
3THREE
3FOUR
3FIVE
3SIX
3SEVEN
3EIGHT
3NINE
2NUMBER TEN
3TWENTY
3THIRTY
3FORTY
3FIFTY
3SIXTY
3SEVENTY
3EIGHTY
3NINETY
3ONE HUNDRED
3TWO HUNDRED
3THREE HUNDRED
3FOUR HUNDRED
3FIVE HUNDRED
3SIX HUNDRED
3SEVEN HUNDRED
3EIGHT HUNDRED
3NINE HUNDRED
U+10300
0OLD ITALIC LETTER A
3BE
3KE
3DE
3E
3VE
3ZE
3HE
3THE
3I
3KA
3EL
3EM
3EN
3ESH
3O
3PE
3SHE
3KU
3ER
3ES
3TE
3U
3EKS
3PHE
3KHE
3EF
3ERS
3CHE
3II
3UU
3ESS
2NUMERAL ONE
3FIVE
3TEN
3FIFTY
U+1032D
2LETTER YE
3NORTHERN TSE
3SOUTHERN TSE
0GOTHIC LETTER AHSA
2BAIRKAN
2GIBA
2DAGS
2AIHVUS
2QAIRTHRA
2IUJA
2HAGL
2THIUTH
2EIS
2KUSMA
2LAGUS
2MANNA
2NAUTHS
2JER
2URUS
2PAIRTHRA
2NINETY
2RAIDA
2SAUIL
2TEIWS
2WINJA
2FAIHU
2IGGWS
2HWAIR
2OTHAL
2NINE HUNDRED
U+10350
0OLD PERMIC LETTER AN
3BUR
3GAI
3DOI
3E
3ZHOI
3DZHOI
3ZATA
3DZITA
3I
3KOKE
3LEI
3MENOE
3NENOE
3VOOI
3PEEI
3REI
3SII
3TAI
3U
3CHERY
3SHOOI
3SHCHOOI
3YRY
3YERU
3O
3OO
3EF
3HA
3TSIU
3VER
3YER
3YERI
3YAT
3IE
3YU
3YA
3IA
0COMBINING OLD PERMIC LETTER AN
4DOI
4ZATA
4NENOE
4SII
U+10380
0UGARITIC LETTER ALPA
2BETA
2GAMLA
2KHA
2DELTA
2HO
2WO
2ZETA
2HOTA
2TET
2YOD
2KAF
2SHIN
2LAMDA
2MEM
2DHAL
2NUN
2ZU
2SAMKA
2AIN
2PU
2SADE
2QOPA
2RASHA
2THANNA
2GHAIN
2TO
2I
2U
2SSU
U+1039F
1WORD DIVIDER
0OLD PERSIAN SIGN A
3I
3U
3KA
3KU
3GA
3GU
3XA
3CA
3JA
3JI
3TA
3TU
3DA
3DI
3DU
3THA
3PA
3BA
3FA
3NA
3NU
3MA
3MI
3MU
3YA
3VA
3VI
3RA
3RU
3LA
3SA
3ZA
3SHA
3SSA
3HA
U+103C8
3AURAMAZDAA
3AURAMAZDAA-2
3AURAMAZDAAHA
3XSHAAYATHIYA
3DAHYAAUSH
3DAHYAAUSH-2
3BAGA
3BUUMISH
2WORD DIVIDER
2NUMBER ONE
3TWO
3TEN
3TWENTY
3HUNDRED
U+10400
0DESERET CAPITAL LETTER LONG I
4E
4A
4AH
4O
4OO
3SHORT I
4E
4A
4AH
4O
4OO
3AY
3OW
3WU
3YEE
3H
3PEE
3BEE
3TEE
3DEE
3CHEE
3JEE
3KAY
3GAY
3EF
3VEE
3ETH
3THEE
3ES
3ZEE
3ESH
3ZHEE
3ER
3EL
3EM
3EN
3ENG
3OI
3EW
1SMALL LETTER LONG I
4E
4A
4AH
4O
4OO
3SHORT I
4E
4A
4AH
4O
4OO
3AY
3OW
3WU
3YEE
3H
3PEE
3BEE
3TEE
3DEE
3CHEE
3JEE
3KAY
3GAY
3EF
3VEE
3ETH
3THEE
3ES
3ZEE
3ESH
3ZHEE
3ER
3EL
3EM
3EN
3ENG
3OI
3EW
0SHAVIAN LETTER PEEP
2TOT
2KICK
2FEE
2THIGH
2SO
2SURE
2CHURCH
2YEA
2HUNG
2BIB
2DEAD
2GAG
2VOW
2THEY
2ZOO
2MEASURE
2JUDGE
2WOE
2HA-HA
2LOLL
2MIME
2IF
2EGG
2ASH
2ADO
2ON
2WOOL
2OUT
2AH
2ROAR
2NUN
2EAT
2AGE
2ICE
2UP
2OAK
2OOZE
2OIL
2AWE
2ARE
2OR
2AIR
2ERR
2ARRAY
2EAR
2IAN
2YEW
0OSMANYA LETTER ALEF
2BA
2TA
2JA
2XA
2KHA
2DEEL
2RA
2SA
2SHIIN
2DHA
2CAYN
2GA
2FA
2QAAF
2KAAF
2LAAN
2MIIN
2NUUN
2WAW
2HA
2YA
2A
2E
2I
2O
2U
2AA
2EE
2OO
U+104A0
1DIGIT ZERO
2ONE
2TWO
2THREE
2FOUR
2FIVE
2SIX
2SEVEN
2EIGHT
2NINE
U+104B0
0OSAGE CAPITAL LETTER A
3AI
3AIN
3AH
3BRA
3CHA
3EHCHA
3E
3EIN
3HA
3HYA
3I
3KA
3EHKA
3KYA
3LA
3MA
3NA
3O
3OIN
3PA
3EHPA
3SA
3SHA
3TA
3EHTA
3TSA
3EHTSA
3TSHA
3DHA
3U
3WA
3KHA
3GHA
3ZA
3ZHA
U+104D8
1SMALL LETTER A
3AI
3AIN
3AH
3BRA
3CHA
3EHCHA
3E
3EIN
3HA
3HYA
3I
3KA
3EHKA
3KYA
3LA
3MA
3NA
3O
3OIN
3PA
3EHPA
3SA
3SHA
3TA
3EHTA
3TSA
3EHTSA
3TSHA
3DHA
3U
3WA
3KHA
3GHA
3ZA
3ZHA
U+10500
0ELBASAN LETTER A
2BE
2CE
2CHE
2DE
2NDE
2DHE
2EI
2E
2FE
2GE
2GJE
2HE
2I
2JE
2KE
2LE
2LLE
2ME
2NE
2NA
2NJE
2O
2PE
2QE
2RE
2RRE
2SE
2SHE
2TE
2THE
2U
2VE
2XE
2Y
2ZE
2ZHE
2GHE
2GHAMMA
2KHE
U+10530
0CAUCASIAN ALBANIAN LETTER ALT
3BET
3GIM
3DAT
3EB
3ZARL
3EYN
3ZHIL
3TAS
3CHA
3YOWD
3ZHA
3IRB
3SHA
3LAN
3INYA
3XEYN
3DYAN
3CAR
3JHOX
3KAR
3LYIT
3HEYT
3QAY
3AOR
3CHOY
3CHI
3CYAY
3MAQ
3QAR
3NOWC
3DZYAY
3SHAK
3JAYN
3ON
3TYAY
3FAM
3DZAY
3CHAT
3PEN
3GHEYS
3RAT
3SEYK
3VEYZ
3TIWR
3SHOY
3IWN
3CYAW
3CAYN
3YAYD
3PIWR
3KIW
U+1056F
2CITATION MARK
0VITHKUQI CAPITAL LETTER A
3BBE
3BE
3CE
3CHE
3DE
3DHE
3EI
3E
3FE
3GA
U+1057C
3HA
3HHA
3I
3IJE
3JE
3KA
3LA
3LLA
3ME
3NE
3NJE
3O
3PE
3QA
3RE
U+1058C
3SE
3SHE
3TE
3THE
3U
3VE
3XE
U+10594
3Y
3ZE
U+10597
1SMALL LETTER A
3BBE
3BE
3CE
3CHE
3DE
3DHE
3EI
3E
3FE
3GA
U+105A3
3HA
3HHA
3I
3IJE
3JE
3KA
3LA
3LLA
3ME
3NE
3NJE
3O
3PE
3QA
3RE
U+105B3
3SE
3SHE
3TE
3THE
3U
3VE
3XE
U+105BB
3Y
3ZE
U+10600
0LINEAR A SIGN AB001
3AB002
3AB003
3AB004
3AB005
3AB006
3AB007
3AB008
3AB009
3AB010
3AB011
3AB013
3AB016
3AB017
3AB020
3AB021
3AB021F
3AB021M
3AB022
3AB022F
3AB022M
3AB023
3AB023M
3AB024
3AB026
3AB027
3AB028
3A028B
3AB029
3AB030
3AB031
3AB034
3AB037
3AB038
3AB039
3AB040
3AB041
3AB044
3AB045
3AB046
3AB047
3AB048
3AB049
3AB050
3AB051
3AB053
3AB054
3AB055
3AB056
3AB057
3AB058
3AB059
3AB060
3AB061
3AB065
3AB066
3AB067
3AB069
3AB070
3AB073
3AB074
3AB076
3AB077
3AB078
3AB079
3AB080
3AB081
3AB082
3AB085
3AB086
3AB087
3A100-102
3AB118
3AB120
3A120B
3AB122
3AB123
3AB131A
3AB131B
3A131C
3AB164
3AB171
3AB180
3AB188
3AB191
3A301
3A302
3A303
3A304
3A305
3A306
3A307
3A308
3A309A
3A309B
3A309C
3A310
3A311
3A312
3A313A
3A313B
3A313C
3A314
3A315
3A316
3A317
3A318
3A319
3A320
3A321
3A322
3A323
3A324
3A325
3A326
3A327
3A328
3A329
3A330
3A331
3A332
3A333
3A334
3A335
3A336
3A337
3A338
3A339
3A340
3A341
3A342
3A343
3A344
3A345
3A346
3A347
3A348
3A349
3A350
3A351
3A352
3A353
3A354
3A355
3A356
3A357
3A358
3A359
3A360
3A361
3A362
3A363
3A364
3A365
3A366
3A367
3A368
3A369
3A370
3A371
3A400-VAS
3A401-VAS
3A402-VAS
3A403-VAS
3A404-VAS
3A405-VAS
3A406-VAS
3A407-VAS
3A408-VAS
3A409-VAS
3A410-VAS
3A411-VAS
3A412-VAS
3A413-VAS
3A414-VAS
3A415-VAS
3A416-VAS
3A417-VAS
3A418-VAS
3A501
3A502
3A503
3A504
3A505
3A506
3A508
3A509
3A510
3A511
3A512
3A513
3A515
3A516
3A520
3A521
3A523
3A524
3A525
3A526
3A527
3A528
3A529
3A530
3A531
3A532
3A534
3A535
3A536
3A537
3A538
3A539
3A540
3A541
3A542
3A545
3A547
3A548
3A549
3A550
3A551
3A552
3A553
3A554
3A555
3A556
3A557
3A559
3A563
3A564
3A565
3A566
3A568
3A569
3A570
3A571
3A572
3A573
3A574
3A575
3A576
3A577
3A578
3A579
3A580
3A581
3A582
3A583
3A584
3A585
3A586
3A587
3A588
3A589
3A591
3A592
3A594
3A595
3A596
3A598
3A600
3A601
3A602
3A603
3A604
3A606
3A608
3A609
3A610
3A611
3A612
3A613
3A614
3A615
3A616
3A617
3A618
3A619
3A620
3A621
3A622
3A623
3A624
3A626
3A627
3A628
3A629
3A634
3A637
3A638
3A640
3A642
3A643
3A644
3A645
3A646
3A648
3A649
3A651
3A652
3A653
3A654
3A655
3A656
3A657
3A658
3A659
3A660
3A661
3A662
3A663
3A664
U+10740
3A701 A
3A702 B
3A703 D
3A704 E
3A705 F
3A706 H
3A707 J
3A708 K
3A709 L
3A709-2 L2
3A709-3 L3
3A709-4 L4
3A709-6 L6
3A710 W
3A711 X
3A712 Y
3A713 OMEGA
3A714 ABB
3A715 BB
3A717 DD
3A726 EYYY
3A732 JE
U+10760
3A800
3A801
3A802
3A803
3A804
3A805
3A806
3A807
U+10780
0MODIFIER LETTER SMALL CAPITAL AA
2SUPERSCRIPT TRIANGULAR COLON
3HALF TRIANGULAR COLON
2SMALL AE
3CAPITAL B
3B WITH HOOK
U+10787
3DZ DIGRAPH
5WITH RETROFLEX HOOK
6CURL
3DEZH DIGRAPH
3D WITH TAIL
5HOOK
6AND TAIL
3REVERSED E
3CLOSED REVERSED OPEN E
3FENG DIGRAPH
3RAMS HORN
3CAPITAL G
3G WITH HOOK
3CAPITAL G WITH HOOK
3H WITH STROKE
3CAPITAL H
3HENG WITH HOOK
3DOTLESS J WITH STROKE AND HOOK
3LS DIGRAPH
3LZ DIGRAPH
3L WITH BELT
3CAPITAL L WITH BELT
3L WITH RETROFLEX HOOK AND BELT
3LEZH
4WITH RETROFLEX HOOK
3TURNED Y
5WITH BELT
3O WITH STROKE
3CAPITAL OE
3CLOSED OMEGA
3Q
3TURNED R WITH LONG LEG
8AND RETROFLEX HOOK
3R WITH TAIL
5FISHHOOK
3CAPITAL R
3TC DIGRAPH WITH CURL
3TS DIGRAPH
5WITH RETROFLEX HOOK
3TESH DIGRAPH
3T WITH RETROFLEX HOOK
3V WITH RIGHT HOOK
U+107B2
3CAPITAL Y
2GLOTTAL STOP WITH STROKE
2REVERSED GLOTTAL STOP WITH STROKE
2BILABIAL CLICK
2DENTAL CLICK
2LATERAL CLICK
2ALVEOLAR CLICK
2RETROFLEX CLICK WITH RETROFLEX HOOK
2SMALL S WITH CURL
U+10800
0CYPRIOT SYLLABLE A
2E
2I
2O
2U
2JA
U+10808
2JO
U+1080A
2KA
2KE
2KI
2KO
2KU
2LA
2LE
2LI
2LO
2LU
2MA
2ME
2MI
2MO
2MU
2NA
2NE
2NI
2NO
2NU
2PA
2PE
2PI
2PO
2PU
2RA
2RE
2RI
2RO
2RU
2SA
2SE
2SI
2SO
2SU
2TA
2TE
2TI
2TO
2TU
2WA
2WE
2WI
2WO
U+10837
2XA
2XE
U+1083C
2ZA
U+1083F
2ZO
0IMPERIAL ARAMAIC LETTER ALEPH
3BETH
3GIMEL
3DALETH
3HE
3WAW
3ZAYIN
3HETH
3TETH
3YODH
3KAPH
3LAMEDH
3MEM
3NUN
3SAMEKH
3AYIN
3PE
3SADHE
3QOPH
3RESH
3SHIN
3TAW
U+10857
2SECTION SIGN
2NUMBER ONE
3TWO
3THREE
3TEN
3TWENTY
3ONE HUNDRED
4THOUSAND
3TEN THOUSAND
0PALMYRENE LETTER ALEPH
2BETH
2GIMEL
2DALETH
2HE
2WAW
2ZAYIN
2HETH
2TETH
2YODH
2KAPH
2LAMEDH
2MEM
2FINAL NUN
2NUN
2SAMEKH
2AYIN
2PE
2SADHE
2QOPH
2RESH
2SHIN
2TAW
1LEFT-POINTING FLEURON
1RIGHT-POINTING FLEURON
1NUMBER ONE
2TWO
2THREE
2FOUR
2FIVE
2TEN
2TWENTY
0NABATAEAN LETTER FINAL ALEPH
2ALEPH
2FINAL BETH
2BETH
2GIMEL
2DALETH
2FINAL HE
2HE
2WAW
2ZAYIN
2HETH
2TETH
2FINAL YODH
2YODH
2FINAL KAPH
2KAPH
2FINAL LAMEDH
2LAMEDH
2FINAL MEM
2MEM
2FINAL NUN
2NUN
2SAMEKH
2AYIN
2PE
2SADHE
2QOPH
2RESH
2FINAL SHIN
2SHIN
2TAW
U+108A7
1NUMBER ONE
2TWO
2THREE
2FOUR
1CRUCIFORM NUMBER FOUR
1NUMBER FIVE
2TEN
2TWENTY
2ONE HUNDRED
U+108E0
0HATRAN LETTER ALEPH
2BETH
2GIMEL
2DALETH-RESH
2HE
2WAW
2ZAYN
2HETH
2TETH
2YODH
2KAPH
2LAMEDH
2MEM
2NUN
2SAMEKH
2AYN
2PE
2SADHE
2QOPH
U+108F4
2SHIN
2TAW
U+108FB
1NUMBER ONE
2FIVE
2TEN
2TWENTY
2ONE HUNDRED
0PHOENICIAN LETTER ALF
2BET
2GAML
2DELT
2HE
2WAU
2ZAI
2HET
2TET
2YOD
2KAF
2LAMD
2MEM
2NUN
2SEMK
2AIN
2PE
2SADE
2QOF
2ROSH
2SHIN
2TAU
1NUMBER ONE
2TEN
2TWENTY
2ONE HUNDRED
2TWO
2THREE
U+1091F
1WORD SEPARATOR
0LYDIAN LETTER A
2B
2G
2D
2E
2V
2I
2Y
2K
2L
2M
2N
2O
2R
2SS
2T
2U
2F
2Q
2S
2TT
2AN
2EN
2LY
2NN
2C
U+1093F
1TRIANGULAR MARK
U+10980
0MEROITIC HIEROGLYPHIC LETTER A
3E
3I
3O
3YA
3WA
3BA
3BA-2
3PA
3MA
3NA
3NA-2
3NE
3NE-2
3RA
3RA-2
3LA
3KHA
3HHA
3SA
3SA-2
3SE
3KA
3QA
3TA
3TA-2
3TE
3TE-2
3TO
3DA
2SYMBOL VIDJ
3VIDJ-2
1CURSIVE LETTER A
3E
3I
3O
3YA
3WA
3BA
3PA
3MA
3NA
3NE
3RA
3LA
3KHA
3HHA
3SA
3ARCHAIC SA
3SE
3KA
3QA
3TA
3TE
3TO
3DA
U+109BC
2FRACTION ELEVEN TWELFTHS
3ONE HALF
2LOGOGRAM RMT
3IMN
2NUMBER ONE
3TWO
3THREE
3FOUR
3FIVE
3SIX
3SEVEN
3EIGHT
3NINE
3TEN
3TWENTY
3THIRTY
3FORTY
3FIFTY
3SIXTY
3SEVENTY
U+109D2
3ONE HUNDRED
3TWO HUNDRED
3THREE HUNDRED
3FOUR HUNDRED
3FIVE HUNDRED
3SIX HUNDRED
3SEVEN HUNDRED
3EIGHT HUNDRED
3NINE HUNDRED
3ONE THOUSAND
3TWO THOUSAND
3THREE THOUSAND
3FOUR THOUSAND
3FIVE THOUSAND
3SIX THOUSAND
3SEVEN THOUSAND
3EIGHT THOUSAND
3NINE THOUSAND
3TEN THOUSAND
3TWENTY THOUSAND
3THIRTY THOUSAND
3FORTY THOUSAND
3FIFTY THOUSAND
3SIXTY THOUSAND
3SEVENTY THOUSAND
3EIGHTY THOUSAND
3NINETY THOUSAND
3ONE HUNDRED THOUSAND
3TWO HUNDRED THOUSAND
3THREE HUNDRED THOUSAND
3FOUR HUNDRED THOUSAND
3FIVE HUNDRED THOUSAND
3SIX HUNDRED THOUSAND
3SEVEN HUNDRED THOUSAND
3EIGHT HUNDRED THOUSAND
3NINE HUNDRED THOUSAND
2FRACTION ONE TWELFTH
3TWO TWELFTHS
3THREE TWELFTHS
3FOUR TWELFTHS
3FIVE TWELFTHS
3SIX TWELFTHS
3SEVEN TWELFTHS
3EIGHT TWELFTHS
3NINE TWELFTHS
3TEN TWELFTHS
0KHAROSHTHI LETTER A
1VOWEL SIGN I
3U
3VOCALIC R
U+10A05
3E
3O
U+10A0C
2LENGTH MARK
1SIGN DOUBLE RING BELOW
2ANUSVARA
2VISARGA
1LETTER KA
2KHA
2GA
2GHA
U+10A15
2CA
2CHA
2JA
U+10A19
2NYA
2TTA
2TTHA
2DDA
2DDHA
2NNA
2TA
2THA
2DA
2DHA
2NA
2PA
2PHA
2BA
2BHA
2MA
2YA
2RA
2LA
2VA
2SHA
2SSA
2SA
2ZA
2HA
2KKA
2TTTHA
2TTTA
2VHA
U+10A38
1SIGN BAR ABOVE
2CAUDA
2DOT BELOW
U+10A3F
1VIRAMA
1DIGIT ONE
2TWO
2THREE
2FOUR
1NUMBER TEN
2TWENTY
2ONE HUNDRED
3THOUSAND
1FRACTION ONE HALF
U+10A50
1PUNCTUATION DOT
2SMALL CIRCLE
2CIRCLE
2CRESCENT BAR
2MANGALAM
2LOTUS
2DANDA
2DOUBLE DANDA
2LINES
U+10A60
0OLD SOUTH ARABIAN LETTER HE
4LAMEDH
4HETH
4MEM
4QOPH
4WAW
4SHIN
4RESH
4BETH
4TAW
4SAT
4KAPH
4NUN
4KHETH
4SADHE
4SAMEKH
4FE
4ALEF
4AYN
4DHADHE
4GIMEL
4DALETH
4GHAYN
4TETH
4ZAYN
4DHALETH
4YODH
4THAW
4THETH
3NUMBER ONE
4FIFTY
3NUMERIC INDICATOR
1NORTH ARABIAN LETTER HEH
4LAM
4HAH
4MEEM
4QAF
4WAW
4ES-2
4REH
4BEH
4TEH
4ES-1
4KAF
4NOON
4KHAH
4SAD
4ES-3
4FEH
4ALEF
4AIN
4DAD
4GEEM
4DAL
4GHAIN
4TAH
4ZAIN
4THAL
4YEH
4THEH
4ZAH
3NUMBER ONE
4TEN
4TWENTY
U+10AC0
0MANICHAEAN LETTER ALEPH
2BETH
2BHETH
2GIMEL
2GHIMEL
2DALETH
2HE
2WAW
1SIGN UD
1LETTER ZAYIN
2ZHAYIN
2JAYIN
2JHAYIN
2HETH
2TETH
2YODH
2KAPH
2XAPH
2KHAPH
2LAMEDH
2DHAMEDH
2THAMEDH
2MEM
2NUN
2SAMEKH
2AYIN
2AAYIN
2PE
2FE
2SADHE
2QOPH
2XOPH
2QHOPH
2RESH
2SHIN
2SSHIN
2TAW
1ABBREVIATION MARK ABOVE
3BELOW
U+10AEB
1NUMBER ONE
2FIVE
2TEN
2TWENTY
2ONE HUNDRED
1PUNCTUATION STAR
2FLEURON
2DOUBLE DOT WITHIN DOT
2DOT WITHIN DOT
2DOT
2TWO DOTS
2LINE FILLER
U+10B00
0AVESTAN LETTER A
2AA
2AO
2AAO
2AN
2AAN
2AE
2AEE
2E
2EE
2O
2OO
2I
2II
2U
2UU
2KE
2XE
2XYE
2XVE
2GE
2GGE
2GHE
2CE
2JE
2TE
2THE
2DE
2DHE
2TTE
2PE
2FE
2BE
2BHE
2NGE
2NGYE
2NGVE
2NE
2NYE
2NNE
2ME
2HME
2YYE
2YE
2VE
2RE
2LE
2SE
2ZE
2SHE
2ZHE
2SHYE
2SSHE
2HE
U+10B39
1ABBREVIATION MARK
0TINY TWO DOTS OVER ONE DOT PUNCTUATION
0SMALL TWO DOTS OVER ONE DOT PUNCTUATION
0LARGE TWO DOTS OVER ONE DOT PUNCTUATION
1ONE DOT OVER TWO DOTS PUNCTUATION
1TWO RINGS OVER ONE RING PUNCTUATION
1ONE RING OVER TWO RINGS PUNCTUATION
0INSCRIPTIONAL PARTHIAN LETTER ALEPH
3BETH
3GIMEL
3DALETH
3HE
3WAW
3ZAYIN
3HETH
3TETH
3YODH
3KAPH
3LAMEDH
3MEM
3NUN
3SAMEKH
3AYIN
3PE
3SADHE
3QOPH
3RESH
3SHIN
3TAW
U+10B58
2NUMBER ONE
3TWO
3THREE
3FOUR
3TEN
3TWENTY
3ONE HUNDRED
4THOUSAND
1PAHLAVI LETTER ALEPH
3BETH
3GIMEL
3DALETH
3HE
3WAW-AYIN-RESH
3ZAYIN
3HETH
3TETH
3YODH
3KAPH
3LAMEDH
3MEM-QOPH
3NUN
3SAMEKH
3PE
3SADHE
3SHIN
3TAW
U+10B78
2NUMBER ONE
3TWO
3THREE
3FOUR
3TEN
3TWENTY
3ONE HUNDRED
4THOUSAND
0PSALTER PAHLAVI LETTER ALEPH
3BETH
3GIMEL
3DALETH
3HE
3WAW-AYIN-RESH
3ZAYIN
3HETH
3YODH
3KAPH
3LAMEDH
3MEM-QOPH
3NUN
3SAMEKH
3PE
3SADHE
3SHIN
3TAW
U+10B99
2SECTION MARK
2TURNED SECTION MARK
2FOUR DOTS WITH CROSS
5DOT
U+10BA9
2NUMBER ONE
3TWO
3THREE
3FOUR
3TEN
3TWENTY
3ONE HUNDRED
U+10C00
0OLD TURKIC LETTER ORKHON A
3YENISEI A
4AE
3ORKHON I
3YENISEI I
4E
3ORKHON O
4OE
3YENISEI OE
3ORKHON AB
3YENISEI AB
3ORKHON AEB
3YENISEI AEB
3ORKHON AG
3YENISEI AG
3ORKHON AEG
3YENISEI AEG
3ORKHON AD
3YENISEI AD
3ORKHON AED
4EZ
3YENISEI EZ
3ORKHON AY
3YENISEI AY
3ORKHON AEY
3YENISEI AEY
3ORKHON AEK
3YENISEI AEK
3ORKHON OEK
3YENISEI OEK
3ORKHON AL
3YENISEI AL
3ORKHON AEL
4ELT
4EM
4AN
4AEN
3YENISEI AEN
3ORKHON ENT
3YENISEI ENT
3ORKHON ENC
3YENISEI ENC
3ORKHON ENY
3YENISEI ENY
4ANG
3ORKHON ENG
3YENISEI AENG
3ORKHON EP
4OP
4IC
4EC
3YENISEI EC
3ORKHON AQ
3YENISEI AQ
3ORKHON IQ
3YENISEI IQ
3ORKHON OQ
3YENISEI OQ
3ORKHON AR
3YENISEI AR
3ORKHON AER
4AS
4AES
4ASH
3YENISEI ASH
3ORKHON ESH
3YENISEI ESH
3ORKHON AT
3YENISEI AT
3ORKHON AET
3YENISEI AET
3ORKHON OT
4BASH
U+10C80
1HUNGARIAN CAPITAL LETTER A
4AA
4EB
4AMB
4EC
4ENC
4ECS
4ED
4AND
4E
4CLOSE E
4EE
4EF
4EG
4EGY
4EH
4I
4II
4EJ
4EK
4AK
4UNK
4EL
4ELY
4EM
4EN
4ENY
4O
4OO
4NIKOLSBURG OE
4RUDIMENTA OE
4OEE
4EP
4EMP
4ER
4SHORT ER
4ES
4ESZ
4ET
4ENT
4ETY
4ECH
4U
4UU
4NIKOLSBURG UE
4RUDIMENTA UE
4EV
4EZ
4EZS
4ENT-SHAPED SIGN
4US
U+10CC0
2SMALL LETTER A
4AA
4EB
4AMB
4EC
4ENC
4ECS
4ED
4AND
4E
4CLOSE E
4EE
4EF
4EG
4EGY
4EH
4I
4II
4EJ
4EK
4AK
4UNK
4EL
4ELY
4EM
4EN
4ENY
4O
4OO
4NIKOLSBURG OE
4RUDIMENTA OE
4OEE
4EP
4EMP
4ER
4SHORT ER
4ES
4ESZ
4ET
4ENT
4ETY
4ECH
4U
4UU
4NIKOLSBURG UE
4RUDIMENTA UE
4EV
4EZ
4EZS
4ENT-SHAPED SIGN
4US
U+10CFA
2NUMBER ONE
3FIVE
3TEN
3FIFTY
3ONE HUNDRED
4THOUSAND
0HANIFI ROHINGYA LETTER A
3BA
3PA
3TA
3TTA
3JA
3CA
3HA
3KHA
3FA
3DA
3DDA
3RA
3RRA
3ZA
3SA
3SHA
3KA
3GA
3LA
3MA
3NA
3WA
3KINNA WA
3YA
3KINNA YA
3NGA
3NYA
3VA
2VOWEL A
3I
3U
3E
3O
2MARK SAKIN
3NA KHONNA
2SIGN HARBAHAY
3TAHALA
3TANA
3TASSI
U+10D30
2DIGIT ZERO
3ONE
3TWO
3THREE
3FOUR
3FIVE
3SIX
3SEVEN
3EIGHT
3NINE
U+10E60
0RUMI DIGIT ONE
2TWO
2THREE
2FOUR
2FIVE
2SIX
2SEVEN
2EIGHT
2NINE
1NUMBER TEN
2TWENTY
2THIRTY
2FORTY
2FIFTY
2SIXTY
2SEVENTY
2EIGHTY
2NINETY
2ONE HUNDRED
2TWO HUNDRED
2THREE HUNDRED
2FOUR HUNDRED
2FIVE HUNDRED
2SIX HUNDRED
2SEVEN HUNDRED
2EIGHT HUNDRED
2NINE HUNDRED
1FRACTION ONE HALF
3QUARTER
3THIRD
2TWO THIRDS
U+10E80
0YEZIDI LETTER ELIF
2BE
2PE
2PHE
2THE
2SE
2CIM
2CHIM
2CHHIM
2HHA
2XA
2DAL
2ZAL
2RA
2RHA
2ZA
2JA
2SIN
2SHIN
2SAD
2DAD
2TA
2ZE
2EYN
2XHEYN
2FA
2VA
3ALTERNATE FORM
2QAF
2KAF
2KHAF
2GAF
2LAM
2MIM
2NUN
2UM
2WAW
2OW
2EW
2HAY
2YOT
2ET
U+10EAB
1COMBINING HAMZA MARK
2MADDA MARK
1HYPHENATION MARK
U+10EB0
1LETTER LAM WITH DOT ABOVE
2YOT WITH CIRCUMFLEX ABOVE
U+10F00
0OLD SOGDIAN LETTER ALEPH
3FINAL ALEPH
3BETH
3FINAL BETH
3GIMEL
3HE
3FINAL HE
3WAW
3ZAYIN
3HETH
3YODH
3KAPH
3LAMEDH
3MEM
3NUN
3FINAL NUN
5WITH VERTICAL TAIL
3SAMEKH
3AYIN
3ALTERNATE AYIN
3PE
3SADHE
3FINAL SADHE
5WITH VERTICAL TAIL
3RESH-AYIN-DALETH
3SHIN
3TAW
3FINAL TAW
5WITH VERTICAL TAIL
2NUMBER ONE
3TWO
3THREE
3FOUR
3FIVE
3TEN
3TWENTY
3THIRTY
3ONE HUNDRED
2FRACTION ONE HALF
2LIGATURE AYIN-DALETH
U+10F30
0SOGDIAN LETTER ALEPH
2BETH
2GIMEL
2HE
2WAW
2ZAYIN
2HETH
2YODH
2KAPH
2LAMEDH
2MEM
2NUN
2SAMEKH
2AYIN
2PE
2SADHE
2RESH-AYIN
2SHIN
2TAW
2FETH
2LESH
1INDEPENDENT SHIN
1COMBINING DOT BELOW
2TWO DOTS BELOW
2DOT ABOVE
2TWO DOTS ABOVE
2CURVE ABOVE
3BELOW
2HOOK ABOVE
3BELOW
2LONG HOOK BELOW
2RESH BELOW
2STROKE BELOW
1NUMBER ONE
2TEN
2TWENTY
2ONE HUNDRED
1PUNCTUATION TWO VERTICAL BARS
5WITH DOTS
2CIRCLE WITH DOT
2TWO CIRCLES WITH DOTS
2HALF CIRCLE WITH DOT
U+10F70
0OLD UYGHUR LETTER ALEPH
3BETH
3GIMEL-HETH
3WAW
3ZAYIN
3FINAL HETH
3YODH
3KAPH
3LAMEDH
3MEM
3NUN
3SAMEKH
3PE
3SADHE
3RESH
3SHIN
3TAW
3LESH
2COMBINING DOT ABOVE
4BELOW
3TWO DOTS ABOVE
5BELOW
2PUNCTUATION BAR
3TWO BARS
4DOTS
3FOUR DOTS
U+10FB0
0CHORASMIAN LETTER ALEPH
2SMALL ALEPH
2BETH
2GIMEL
2DALETH
2HE
2WAW
2CURLED WAW
2ZAYIN
2HETH
2YODH
2KAPH
2LAMEDH
2MEM
2NUN
2SAMEKH
2AYIN
2PE
2RESH
2SHIN
2TAW
1NUMBER ONE
2TWO
2THREE
2FOUR
2TEN
2TWENTY
2ONE HUNDRED
U+10FE0
0ELYMAIC LETTER ALEPH
2BETH
2GIMEL
2DALETH
2HE
2WAW
2ZAYIN
2HETH
2TETH
2YODH
2KAPH
2LAMEDH
2MEM
2NUN
2SAMEKH
2AYIN
2PE
2SADHE
2QOPH
2RESH
2SHIN
2TAW
1LIGATURE ZAYIN-YODH
U+11000
0BRAHMI SIGN CANDRABINDU
2ANUSVARA
2VISARGA
2JIHVAMULIYA
2UPADHMANIYA
1LETTER A
2AA
2I
2II
2U
2UU
2VOCALIC R
3RR
3L
3LL
2E
2AI
2O
2AU
2KA
2KHA
2GA
2GHA
2NGA
2CA
2CHA
2JA
2JHA
2NYA
2TTA
2TTHA
2DDA
2DDHA
2NNA
2TA
2THA
2DA
2DHA
2NA
2PA
2PHA
2BA
2BHA
2MA
2YA
2RA
2LA
2VA
2SHA
2SSA
2SA
2HA
2LLA
2OLD TAMIL LLLA
4RRA
4NNNA
1VOWEL SIGN AA
3BHATTIPROLU AA
3I
3II
3U
3UU
3VOCALIC R
4RR
4L
4LL
3E
3AI
3O
3AU
1VIRAMA
1DANDA
1DOUBLE DANDA
1PUNCTUATION DOT
2DOUBLE DOT
2LINE
2CRESCENT BAR
2LOTUS
U+11052
1NUMBER ONE
2TWO
2THREE
2FOUR
2FIVE
2SIX
2SEVEN
2EIGHT
2NINE
2TEN
2TWENTY
2THIRTY
2FORTY
2FIFTY
2SIXTY
2SEVENTY
2EIGHTY
2NINETY
2ONE HUNDRED
3THOUSAND
1DIGIT ZERO
2ONE
2TWO
2THREE
2FOUR
2FIVE
2SIX
2SEVEN
2EIGHT
2NINE
1SIGN OLD TAMIL VIRAMA
1LETTER OLD TAMIL SHORT E
5O
1VOWEL SIGN OLD TAMIL SHORT E
6O
1LETTER OLD TAMIL LLA
U+1107F
1NUMBER JOINER
0KAITHI SIGN CANDRABINDU
2ANUSVARA
2VISARGA
1LETTER A
2AA
2I
2II
2U
2UU
2E
2AI
2O
2AU
2KA
2KHA
2GA
2GHA
2NGA
2CA
2CHA
2JA
2JHA
2NYA
2TTA
2TTHA
2DDA
2DDDHA
2DDHA
2RHA
2NNA
2TA
2THA
2DA
2DHA
2NA
2PA
2PHA
2BA
2BHA
2MA
2YA
2RA
2LA
2VA
2SHA
2SSA
2SA
2HA
1VOWEL SIGN AA
3I
3II
3U
3UU
3E
3AI
3O
3AU
1SIGN VIRAMA
2NUKTA
1ABBREVIATION SIGN
1ENUMERATION SIGN
1NUMBER SIGN
1SECTION MARK
1DOUBLE SECTION MARK
1DANDA
1DOUBLE DANDA
1VOWEL SIGN VOCALIC R
U+110CD
1NUMBER SIGN ABOVE
U+110D0
0SORA SOMPENG LETTER SAH
3TAH
3BAH
3CAH
3DAH
3GAH
3MAH
3NGAH
3LAH
3NAH
3VAH
3PAH
3YAH
3RAH
3HAH
3KAH
3JAH
3NYAH
3AH
3EEH
3IH
3UH
3OH
3EH
3MAE
U+110F0
2DIGIT ZERO
3ONE
3TWO
3THREE
3FOUR
3FIVE
3SIX
3SEVEN
3EIGHT
3NINE
U+11100
0CHAKMA SIGN CANDRABINDU
2ANUSVARA
2VISARGA
1LETTER AA
2I
2U
2E
2KAA
2KHAA
2GAA
2GHAA
2NGAA
2CAA
2CHAA
2JAA
2JHAA
2NYAA
2TTAA
2TTHAA
2DDAA
2DDHAA
2NNAA
2TAA
2THAA
2DAA
2DHAA
2NAA
2PAA
2PHAA
2BAA
2BHAA
2MAA
2YYAA
2YAA
2RAA
2LAA
2WAA
2SAA
2HAA
1VOWEL SIGN A
3I
3II
3U
3UU
3E
3AI
3O
3AU
3OI
1O MARK
1AU MARK
1VIRAMA
1MAAYYAA
U+11136
1DIGIT ZERO
2ONE
2TWO
2THREE
2FOUR
2FIVE
2SIX
2SEVEN
2EIGHT
2NINE
1SECTION MARK
1DANDA
1DOUBLE DANDA
1QUESTION MARK
1LETTER LHAA
1VOWEL SIGN AA
3EI
1LETTER VAA
U+11150
0MAHAJANI LETTER A
2I
2U
2E
2O
2KA
2KHA
2GA
2GHA
2CA
2CHA
2JA
2JHA
2NYA
2TTA
2TTHA
2DDA
2DDHA
2NNA
2TA
2THA
2DA
2DHA
2NA
2PA
2PHA
2BA
2BHA
2MA
2RA
2LA
2VA
2SA
2HA
2RRA
1SIGN NUKTA
1ABBREVIATION SIGN
1SECTION MARK
1LIGATURE SHRI
U+11180
0SHARADA SIGN CANDRABINDU
2ANUSVARA
2VISARGA
1LETTER A
2AA
2I
2II
2U
2UU
2VOCALIC R
3RR
3L
3LL
2E
2AI
2O
2AU
2KA
2KHA
2GA
2GHA
2NGA
2CA
2CHA
2JA
2JHA
2NYA
2TTA
2TTHA
2DDA
2DDHA
2NNA
2TA
2THA
2DA
2DHA
2NA
2PA
2PHA
2BA
2BHA
2MA
2YA
2RA
2LA
2LLA
2VA
2SHA
2SSA
2SA
2HA
1VOWEL SIGN AA
3I
3II
3U
3UU
3VOCALIC R
4RR
4L
4LL
3E
3AI
3O
3AU
1SIGN VIRAMA
2AVAGRAHA
2JIHVAMULIYA
2UPADHMANIYA
1OM
1DANDA
1DOUBLE DANDA
1ABBREVIATION SIGN
1SEPARATOR
1SANDHI MARK
1SIGN NUKTA
1VOWEL MODIFIER MARK
1EXTRA SHORT VOWEL MARK
1SUTRA MARK
1VOWEL SIGN PRISHTHAMATRA E
1SIGN INVERTED CANDRABINDU
1DIGIT ZERO
2ONE
2TWO
2THREE
2FOUR
2FIVE
2SIX
2SEVEN
2EIGHT
2NINE
1EKAM
1SIGN SIDDHAM
1HEADSTROKE
1CONTINUATION SIGN
1SECTION MARK-1
2MARK-2
U+111E1
0SINHALA ARCHAIC DIGIT ONE
3TWO
3THREE
3FOUR
3FIVE
3SIX
3SEVEN
3EIGHT
3NINE
2NUMBER TEN
3TWENTY
3THIRTY
3FORTY
3FIFTY
3SIXTY
3SEVENTY
3EIGHTY
3NINETY
3ONE HUNDRED
4THOUSAND
U+11200
0KHOJKI LETTER A
2AA
2I
2U
2E
2AI
2O
2AU
2KA
2KHA
2GA
2GGA
2GHA
2NGA
2CA
2CHA
2JA
2JJA
U+11213
2NYA
2TTA
2TTHA
2DDA
2DDHA
2NNA
2TA
2THA
2DA
2DDDA
2DHA
2NA
2PA
2PHA
2BA
2BBA
2BHA
2MA
2YA
2RA
2LA
2VA
2SA
2HA
2LLA
1VOWEL SIGN AA
3I
3II
3U
3E
3AI
3O
3AU
1SIGN ANUSVARA
2VIRAMA
2NUKTA
2SHADDA
1DANDA
1DOUBLE DANDA
1WORD SEPARATOR
1SECTION MARK
1DOUBLE SECTION MARK
1ABBREVIATION SIGN
1SIGN SUKUN
U+11280
0MULTANI LETTER A
2I
2U
2E
2KA
2KHA
2GA
U+11288
2GHA
U+1128A
2CA
2CHA
2JA
2JJA
U+1128F
2NYA
2TTA
2TTHA
2DDA
2DDDA
2DDHA
2NNA
2TA
2THA
2DA
2DHA
2NA
2PA
2PHA
2BA
U+1129F
2BHA
2MA
2YA
2RA
2LA
2VA
2SA
2HA
2RRA
2RHA
1SECTION MARK
U+112B0
0KHUDAWADI LETTER A
2AA
2I
2II
2U
2UU
2E
2AI
2O
2AU
2KA
2KHA
2GA
2GGA
2GHA
2NGA
2CA
2CHA
2JA
2JJA
2JHA
2NYA
2TTA
2TTHA
2DDA
2DDDA
2RRA
2DDHA
2NNA
2TA
2THA
2DA
2DHA
2NA
2PA
2PHA
2BA
2BBA
2BHA
2MA
2YA
2RA
2LA
2VA
2SHA
2SA
2HA
1SIGN ANUSVARA
1VOWEL SIGN AA
3I
3II
3U
3UU
3E
3AI
3O
3AU
1SIGN NUKTA
2VIRAMA
U+112F0
1DIGIT ZERO
2ONE
2TWO
2THREE
2FOUR
2FIVE
2SIX
2SEVEN
2EIGHT
2NINE
U+11300
0GRANTHA SIGN COMBINING ANUSVARA ABOVE
2CANDRABINDU
2ANUSVARA
2VISARGA
U+11305
1LETTER A
2AA
2I
2II
2U
2UU
2VOCALIC R
3L
U+1130F
2EE
2AI
U+11313
2OO
2AU
2KA
2KHA
2GA
2GHA
2NGA
2CA
2CHA
2JA
2JHA
2NYA
2TTA
2TTHA
2DDA
2DDHA
2NNA
2TA
2THA
2DA
2DHA
2NA
U+1132A
2PA
2PHA
2BA
2BHA
2MA
2YA
2RA
U+11332
2LA
2LLA
U+11335
2VA
2SHA
2SSA
2SA
2HA
U+1133B
0COMBINING BINDU BELOW
0GRANTHA SIGN NUKTA
2AVAGRAHA
1VOWEL SIGN AA
3I
3II
3U
3UU
3VOCALIC R
4RR
U+11347
3EE
3AI
U+1134B
3OO
3AU
1SIGN VIRAMA
U+11350
1OM
U+11357
1AU LENGTH MARK
U+1135D
1SIGN PLUTA
1LETTER VEDIC ANUSVARA
3DOUBLE ANUSVARA
2VOCALIC RR
3LL
1VOWEL SIGN VOCALIC L
4LL
U+11366
0COMBINING GRANTHA DIGIT ZERO
3ONE
3TWO
3THREE
3FOUR
3FIVE
3SIX
U+11370
2LETTER A
3KA
3NA
3VI
3PA
U+11400
0NEWA LETTER A
2AA
2I
2II
2U
2UU
2VOCALIC R
3RR
3L
3LL
2E
2AI
2O
2AU
2KA
2KHA
2GA
2GHA
2NGA
2NGHA
2CA
2CHA
2JA
2JHA
2NYA
2NYHA
2TTA
2TTHA
2DDA
2DDHA
2NNA
2TA
2THA
2DA
2DHA
2NA
2NHA
2PA
2PHA
2BA
2BHA
2MA
2MHA
2YA
2RA
2RHA
2LA
2LHA
2WA
2SHA
2SSA
2SA
2HA
1VOWEL SIGN AA
3I
3II
3U
3UU
3VOCALIC R
4RR
4L
4LL
3E
3AI
3O
3AU
1SIGN VIRAMA
2CANDRABINDU
2ANUSVARA
2VISARGA
2NUKTA
2AVAGRAHA
2FINAL ANUSVARA
1OM
1SIDDHI
1DANDA
1DOUBLE DANDA
1COMMA
1GAP FILLER
1ABBREVIATION SIGN
1DIGIT ZERO
2ONE
2TWO
2THREE
2FOUR
2FIVE
2SIX
2SEVEN
2EIGHT
2NINE
1DOUBLE COMMA
1PLACEHOLDER MARK
U+1145D
1INSERTION SIGN
1SANDHI MARK
1LETTER VEDIC ANUSVARA
1SIGN JIHVAMULIYA
2UPADHMANIYA
U+11480
0TIRHUTA ANJI
1LETTER A
2AA
2I
2II
2U
2UU
2VOCALIC R
3RR
3L
3LL
2E
2AI
2O
2AU
2KA
2KHA
2GA
2GHA
2NGA
2CA
2CHA
2JA
2JHA
2NYA
2TTA
2TTHA
2DDA
2DDHA
2NNA
2TA
2THA
2DA
2DHA
2NA
2PA
2PHA
2BA
2BHA
2MA
2YA
2RA
2LA
2VA
2SHA
2SSA
2SA
2HA
1VOWEL SIGN AA
3I
3II
3U
3UU
3VOCALIC R
4RR
4L
4LL
3E
3SHORT E
3AI
3O
3SHORT O
3AU
1SIGN CANDRABINDU
2ANUSVARA
2VISARGA
2VIRAMA
2NUKTA
2AVAGRAHA
1GVANG
1ABBREVIATION SIGN
1OM
U+114D0
1DIGIT ZERO
2ONE
2TWO
2THREE
2FOUR
2FIVE
2SIX
2SEVEN
2EIGHT
2NINE
U+11580
0SIDDHAM LETTER A
2AA
2I
2II
2U
2UU
2VOCALIC R
3RR
3L
3LL
2E
2AI
2O
2AU
2KA
2KHA
2GA
2GHA
2NGA
2CA
2CHA
2JA
2JHA
2NYA
2TTA
2TTHA
2DDA
2DDHA
2NNA
2TA
2THA
2DA
2DHA
2NA
2PA
2PHA
2BA
2BHA
2MA
2YA
2RA
2LA
2VA
2SHA
2SSA
2SA
2HA
1VOWEL SIGN AA
3I
3II
3U
3UU
3VOCALIC R
4RR
U+115B8
3E
3AI
3O
3AU
1SIGN CANDRABINDU
2ANUSVARA
2VISARGA
2VIRAMA
2NUKTA
2SIDDHAM
1DANDA
1DOUBLE DANDA
1SEPARATOR DOT
2BAR
1REPETITION MARK-1
2MARK-2
2MARK-3
1END OF TEXT MARK
1SECTION MARK WITH TRIDENT AND U-SHAPED ORNAMENTS
6DOTTED CRESCENTS
4RAYS AND DOTTED CRESCENTS
7DOUBLE CRESCENTS
7TRIPLE CRESCENTS
3DOUBLE RING
5WITH RAYS
3WITH DOUBLE CRESCENTS
4TRIPLE CRESCENTS
4QUADRUPLE CRESCENTS
4SEPTUPLE CRESCENTS
4CIRCLES AND RAYS
6TWO ENCLOSURES
6FOUR ENCLOSURES
1LETTER THREE-CIRCLE ALTERNATE I
2TWO-CIRCLE ALTERNATE I
4II
2ALTERNATE U
1VOWEL SIGN ALTERNATE U
4UU
U+11600
0MODI LETTER A
2AA
2I
2II
2U
2UU
2VOCALIC R
3RR
3L
3LL
2E
2AI
2O
2AU
2KA
2KHA
2GA
2GHA
2NGA
2CA
2CHA
2JA
2JHA
2NYA
2TTA
2TTHA
2DDA
2DDHA
2NNA
2TA
2THA
2DA
2DHA
2NA
2PA
2PHA
2BA
2BHA
2MA
2YA
2RA
2LA
2VA
2SHA
2SSA
2SA
2HA
2LLA
1VOWEL SIGN AA
3I
3II
3U
3UU
3VOCALIC R
4RR
4L
4LL
3E
3AI
3O
3AU
1SIGN ANUSVARA
2VISARGA
2VIRAMA
2ARDHACANDRA
1DANDA
1DOUBLE DANDA
1ABBREVIATION SIGN
1SIGN HUVA
U+11650
1DIGIT ZERO
2ONE
2TWO
2THREE
2FOUR
2FIVE
2SIX
2SEVEN
2EIGHT
2NINE
U+11660
0MONGOLIAN BIRGA WITH ORNAMENT
1ROTATED BIRGA
1DOUBLE BIRGA WITH ORNAMENT
1TRIPLE BIRGA WITH ORNAMENT
1BIRGA WITH DOUBLE ORNAMENT
1ROTATED BIRGA WITH ORNAMENT
4DOUBLE ORNAMENT
1INVERTED BIRGA
3WITH DOUBLE ORNAMENT
1SWIRL BIRGA
3WITH ORNAMENT
4DOUBLE ORNAMENT
1TURNED SWIRL BIRGA WITH DOUBLE ORNAMENT
U+11680
0TAKRI LETTER A
2AA
2I
2II
2U
2UU
2E
2AI
2O
2AU
2KA
2KHA
2GA
2GHA
2NGA
2CA
2CHA
2JA
2JHA
2NYA
2TTA
2TTHA
2DDA
2DDHA
2NNA
2TA
2THA
2DA
2DHA
2NA
2PA
2PHA
2BA
2BHA
2MA
2YA
2RA
2LA
2VA
2SHA
2SA
2HA
2RRA
1SIGN ANUSVARA
2VISARGA
1VOWEL SIGN AA
3I
3II
3U
3UU
3E
3AI
3O
3AU
1SIGN VIRAMA
2NUKTA
1LETTER ARCHAIC KHA
1ABBREVIATION SIGN
U+116C0
1DIGIT ZERO
2ONE
2TWO
2THREE
2FOUR
2FIVE
2SIX
2SEVEN
2EIGHT
2NINE
U+11700
0AHOM LETTER KA
2KHA
2NGA
2NA
2TA
2ALTERNATE TA
2PA
2PHA
2BA
2MA
2JA
2CHA
2THA
2RA
2LA
2SA
2NYA
2HA
2A
2DA
2DHA
2GA
2ALTERNATE GA
2GHA
2BHA
2JHA
2ALTERNATE BA
U+1171D
1CONSONANT SIGN MEDIAL LA
4RA
4LIGATING RA
1VOWEL SIGN A
3AA
3I
3II
3U
3UU
3E
3AW
3O
3AI
3AM
1SIGN KILLER
U+11730
1DIGIT ZERO
2ONE
2TWO
2THREE
2FOUR
2FIVE
2SIX
2SEVEN
2EIGHT
2NINE
1NUMBER TEN
2TWENTY
1SIGN SMALL SECTION
2SECTION
2RULAI
1SYMBOL VI
1LETTER CA
2TTA
2TTHA
2DDA
2DDHA
2NNA
2LLA
U+11800
0DOGRA LETTER A
2AA
2I
2II
2U
2UU
2E
2AI
2O
2AU
2KA
2KHA
2GA
2GHA
2NGA
2CA
2CHA
2JA
2JHA
2NYA
2TTA
2TTHA
2DDA
2DDHA
2NNA
2TA
2THA
2DA
2DHA
2NA
2PA
2PHA
2BA
2BHA
2MA
2YA
2RA
2LA
2VA
2SHA
2SSA
2SA
2HA
2RRA
1VOWEL SIGN AA
3I
3II
3U
3UU
3VOCALIC R
4RR
3E
3AI
3O
3AU
1SIGN ANUSVARA
2VISARGA
2VIRAMA
2NUKTA
1ABBREVIATION SIGN
U+118A0
0WARANG CITI CAPITAL LETTER NGAA
4A
4WI
4YU
4YA
4YO
4II
4UU
4E
4O
4ANG
4GA
4KO
4ENY
4YUJ
4UC
4ENN
4ODD
4TTE
4NUNG
4DA
4AT
4AM
4BU
4PU
4HIYO
4HOLO
4HORR
4HAR
4SSUU
4SII
4VIYO
2SMALL LETTER NGAA
4A
4WI
4YU
4YA
4YO
4II
4UU
4E
4O
4ANG
4GA
4KO
4ENY
4YUJ
4UC
4ENN
4ODD
4TTE
4NUNG
4DA
4AT
4AM
4BU
4PU
4HIYO
4HOLO
4HORR
4HAR
4SSUU
4SII
4VIYO
2DIGIT ZERO
3ONE
3TWO
3THREE
3FOUR
3FIVE
3SIX
3SEVEN
3EIGHT
3NINE
2NUMBER TEN
3TWENTY
3THIRTY
3FORTY
3FIFTY
3SIXTY
3SEVENTY
3EIGHTY
3NINETY
U+118FF
2OM
0DIVES AKURU LETTER A
3AA
3I
3II
3U
3UU
3E
U+11909
3O
U+1190C
3KA
3KHA
3GA
3GHA
3NGA
3CA
3CHA
3JA
U+11915
3NYA
3TTA
U+11918
3DDA
3DDHA
3NNA
3TA
3THA
3DA
3DHA
3NA
3PA
3PHA
3BA
3BHA
3MA
3YA
3YYA
3RA
3LA
3VA
3SHA
3SSA
3SA
3HA
3LLA
3ZA
2VOWEL SIGN AA
4I
4II
4U
4UU
4E
U+11937
4AI
4O
U+1193B
2SIGN ANUSVARA
3CANDRABINDU
3HALANTA
2VIRAMA
2PREFIXED NASAL SIGN
2MEDIAL YA
2INITIAL RA
2MEDIAL RA
2SIGN NUKTA
2DOUBLE DANDA
2GAP FILLER
2END OF TEXT MARK
U+11950
2DIGIT ZERO
3ONE
3TWO
3THREE
3FOUR
3FIVE
3SIX
3SEVEN
3EIGHT
3NINE
U+119A0
0NANDINAGARI LETTER A
2AA
2I
2II
2U
2UU
2VOCALIC R
3RR
U+119AA
2E
2AI
2O
2AU
2KA
2KHA
2GA
2GHA
2NGA
2CA
2CHA
2JA
2JHA
2NYA
2TTA
2TTHA
2DDA
2DDHA
2NNA
2TA
2THA
2DA
2DHA
2NA
2PA
2PHA
2BA
2BHA
2MA
2YA
2RA
2LA
2VA
2SHA
2SSA
2SA
2HA
2LLA
2RRA
1VOWEL SIGN AA
3I
3II
3U
3UU
3VOCALIC R
4RR
U+119DA
3E
3AI
3O
3AU
1SIGN ANUSVARA
2VISARGA
2VIRAMA
2AVAGRAHA
2SIDDHAM
1HEADSTROKE
1VOWEL SIGN PRISHTHAMATRA E
U+11A00
0ZANABAZAR SQUARE LETTER A
2VOWEL SIGN I
4UE
4U
4E
4OE
4O
4AI
4AU
4REVERSED I
3LENGTH MARK
2LETTER KA
3KHA
3GA
3GHA
3NGA
3CA
3CHA
3JA
3NYA
3TTA
3TTHA
3DDA
3DDHA
3NNA
3TA
3THA
3DA
3DHA
3NA
3PA
3PHA
3BA
3BHA
3MA
3TSA
3TSHA
3DZA
3DZHA
3ZHA
3ZA
3-A
3YA
3RA
3LA
3VA
3SHA
3SSA
3SA
3HA
3KSSA
2FINAL CONSONANT MARK
2SIGN VIRAMA
3CANDRABINDU
4WITH ORNAMENT
3CANDRA WITH ORNAMENT
3ANUSVARA
3VISARGA
2CLUSTER-INITIAL LETTER RA
2CLUSTER-FINAL LETTER YA
4RA
4LA
4VA
2INITIAL HEAD MARK
2CLOSING HEAD MARK
2MARK TSHEG
3SHAD
3DOUBLE SHAD
3LONG TSHEG
2INITIAL DOUBLE-LINED HEAD MARK
2CLOSING DOUBLE-LINED HEAD MARK
2SUBJOINER
U+11A50
0SOYOMBO LETTER A
1VOWEL SIGN I
3UE
3U
3E
3O
3OE
3AI
3AU
3VOCALIC R
4L
2LENGTH MARK
1LETTER KA
2KHA
2GA
2GHA
2NGA
2CA
2CHA
2JA
2JHA
2NYA
2TTA
2TTHA
2DDA
2DDHA
2NNA
2TA
2THA
2DA
2DHA
2NA
2PA
2PHA
2BA
2BHA
2MA
2TSA
2TSHA
2DZA
2ZHA
2ZA
2-A
2YA
2RA
2LA
2VA
2SHA
2SSA
2SA
2HA
2KSSA
1SIGN JIHVAMULIYA
2UPADHMANIYA
1CLUSTER-INITIAL LETTER RA
3LA
3SHA
3SA
1FINAL CONSONANT SIGN G
4K
4NG
4D
4N
4B
4M
4R
4L
4SH
4S
4-A
1SIGN ANUSVARA
2VISARGA
1GEMINATION MARK
1SUBJOINER
1MARK TSHEG
2SHAD
2DOUBLE SHAD
2PLUTA
1HEAD MARK WITH MOON AND SUN AND TRIPLE FLAME
8FLAME
6SUN
1TERMINAL MARK-1
2MARK-2
U+11AB0
0CANADIAN SYLLABICS NATTILIK HI
3HII
3HO
3HOO
3HA
3HAA
3SHRI
3SHRII
3SHRO
3SHROO
3SHRA
3SHRAA
2SPE
2SPI
2SPO
2SPA
0PAU CIN HAU LETTER PA
4KA
4LA
4MA
4DA
4ZA
4VA
4NGA
4HA
4GA
4KHA
4SA
4BA
4CA
4TA
4THA
4NA
4PHA
4RA
4FA
4CHA
4A
4E
4I
4O
4U
4UA
4IA
4FINAL P
5K
5T
5M
5N
5L
5W
5NG
5Y
3RISING TONE LONG
4TONE
3SANDHI GLOTTAL STOP
3RISING TONE LONG FINAL
5FINAL
3SANDHI GLOTTAL STOP FINAL
4TONE LONG
4TONE
5LONG FINAL
5FINAL
3MID-LEVEL TONE
3GLOTTAL STOP VARIANT
3MID-LEVEL TONE LONG FINAL
5FINAL
3LOW-FALLING TONE LONG
4TONE
3GLOTTAL STOP
3LOW-FALLING TONE LONG FINAL
5FINAL
3GLOTTAL STOP FINAL
U+11C00
0BHAIKSUKI LETTER A
2AA
2I
2II
2U
2UU
2VOCALIC R
3RR
3L
U+11C0A
2E
2AI
2O
2AU
2KA
2KHA
2GA
2GHA
2NGA
2CA
2CHA
2JA
2JHA
2NYA
2TTA
2TTHA
2DDA
2DDHA
2NNA
2TA
2THA
2DA
2DHA
2NA
2PA
2PHA
2BA
2BHA
2MA
2YA
2RA
2LA
2VA
2SHA
2SSA
2SA
2HA
1VOWEL SIGN AA
3I
3II
3U
3UU
3VOCALIC R
4RR
4L
U+11C38
3E
3AI
3O
3AU
1SIGN CANDRABINDU
2ANUSVARA
2VISARGA
2VIRAMA
2AVAGRAHA
1DANDA
1DOUBLE DANDA
1WORD SEPARATOR
1GAP FILLER-1
2FILLER-2
U+11C50
1DIGIT ZERO
2ONE
2TWO
2THREE
2FOUR
2FIVE
2SIX
2SEVEN
2EIGHT
2NINE
1NUMBER ONE
2TWO
2THREE
2FOUR
2FIVE
2SIX
2SEVEN
2EIGHT
2NINE
2TEN
2TWENTY
2THIRTY
2FORTY
2FIFTY
2SIXTY
2SEVENTY
2EIGHTY
2NINETY
1HUNDREDS UNIT MARK
U+11C70
0MARCHEN HEAD MARK
1MARK SHAD
1LETTER KA
2KHA
2GA
2NGA
2CA
2CHA
2JA
2NYA
2TA
2THA
2DA
2NA
2PA
2PHA
2BA
2MA
2TSA
2TSHA
2DZA
2WA
2ZHA
2ZA
2-A
2YA
2RA
2LA
2SHA
2SA
2HA
2A
U+11C92
1SUBJOINED LETTER KA
3KHA
3GA
3NGA
3CA
3CHA
3JA
3NYA
3TA
3THA
3DA
3NA
3PA
3PHA
3BA
3MA
3TSA
3TSHA
3DZA
3WA
3ZHA
3ZA
U+11CA9
3YA
3RA
3LA
3SHA
3SA
3HA
3A
1VOWEL SIGN AA
3I
3U
3E
3O
1SIGN ANUSVARA
2CANDRABINDU
U+11D00
0MASARAM GONDI LETTER A
3AA
3I
3II
3U
3UU
3E
U+11D08
3AI
3O
U+11D0B
3AU
3KA
3KHA
3GA
3GHA
3NGA
3CA
3CHA
3JA
3JHA
3NYA
3TTA
3TTHA
3DDA
3DDHA
3NNA
3TA
3THA
3DA
3DHA
3NA
3PA
3PHA
3BA
3BHA
3MA
3YA
3RA
3LA
3VA
3SHA
3SSA
3SA
3HA
3LLA
3KSSA
3JNYA
3TRA
2VOWEL SIGN AA
4I
4II
4U
4UU
4VOCALIC R
U+11D3A
4E
U+11D3C
4AI
4O
U+11D3F
4AU
2SIGN ANUSVARA
3VISARGA
3NUKTA
3CANDRA
3HALANTA
2VIRAMA
2REPHA
2RA-KARA
U+11D50
2DIGIT ZERO
3ONE
3TWO
3THREE
3FOUR
3FIVE
3SIX
3SEVEN
3EIGHT
3NINE
U+11D60
0GUNJALA GONDI LETTER A
3AA
3I
3II
3U
3UU
U+11D67
3EE
3AI
U+11D6A
3OO
3AU
3YA
3VA
3BA
3BHA
3MA
3KA
3KHA
3TA
3THA
3LA
3GA
3GHA
3DA
3DHA
3NA
3CA
3CHA
3TTA
3TTHA
3LLA
3JA
3JHA
3DDA
3DDHA
3NGA
3PA
3PHA
3HA
3RA
3SA
2VOWEL SIGN AA
4I
4II
4U
4UU
U+11D90
4EE
4AI
U+11D93
4OO
4AU
2SIGN ANUSVARA
3VISARGA
2VIRAMA
2OM
U+11DA0
2DIGIT ZERO
3ONE
3TWO
3THREE
3FOUR
3FIVE
3SIX
3SEVEN
3EIGHT
3NINE
U+11EE0
0MAKASAR LETTER KA
2GA
2NGA
2PA
2BA
2MA
2TA
2DA
2NA
2CA
2JA
2NYA
2YA
2RA
2LA
2VA
2SA
2A
1ANGKA
1VOWEL SIGN I
3U
3E
3O
1PASSIMBANG
1END OF SECTION
U+11FB0
0LISU LETTER YHA
U+11FC0
0TAMIL FRACTION ONE THREE-HUNDRED-AND-TWENTIETH
3ONE-HUNDRED-AND-SIXTIETH
3EIGHTIETH
3SIXTY-FOURTH
3FORTIETH
3THIRTY-SECOND
2THREE EIGHTIETHS
3SIXTY-FOURTHS
2ONE TWENTIETH
3SIXTEENTH-1
3SIXTEENTH-2
3TENTH
3EIGHTH
2THREE TWENTIETHS
3SIXTEENTHS
2ONE FIFTH
3QUARTER
3HALF-1
3HALF-2
2THREE QUARTERS
2DOWNSCALING FACTOR KIIZH
1SIGN NEL
2CEVITU
2AAZHAAKKU
2UZHAKKU
2MUUVUZHAKKU
2KURUNI
2PATHAKKU
2MUKKURUNI
2KAACU
2PANAM
2PON
2VARAAKAN
2PAARAM
2KUZHI
2VELI
1WET CULTIVATION SIGN
1DRY CULTIVATION SIGN
1LAND SIGN
1SALT PAN SIGN
1TRADITIONAL CREDIT SIGN
2NUMBER SIGN
1CURRENT SIGN
1AND ODD SIGN
1SPENT SIGN
1TOTAL SIGN
1IN POSSESSION SIGN
1STARTING FROM SIGN
1SIGN MUTHALIYA
2VAKAIYARAA
U+11FFF
1PUNCTUATION END OF TEXT"

end ClassLift
