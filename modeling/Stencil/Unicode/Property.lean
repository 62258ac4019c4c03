/-
This file holds the properties that a code point has or lacks.
-/
import Stencil.Unicode.Category

namespace Stencil.Unicode.Property

/-- The property `ASCII_Hex_Digit`. -/
def asciiHexDigit : Charset :=
  Packed.set
    ["1qjhfWf"]

/-- The property `Bidi_Control`. -/
def bidiControl : Charset :=
  Packed.set
    ["1GYa6FrbWe1xd"]

/-- The property `Changes_When_Casefolded`. -/
def changesWhenCasefolded : Charset :=
  Packed.set
    ["2bz2Wakwbh1aabababababababababababababababababababababababababababacababababababababbbabab",
     "ababababababababababababababababababababbbabababbbabbbccdbbbcdbbbbababbbacabbbcbabbdahbbbb",
     "bbabababababababacababababababababacbbabcbabababababababababababababababababababababababab",
     "ababababahbbbcabdbabababa7wa1kabadaiagabcbabbbqbiwamcdbbababababababababababababbcbbabbc1s",
     "1qababababababababababababababababajababababababababababababababababababababababababababab",
     "bbabababababacabababababababababababababababababababababababababababababababababababababab",
     "abababababababababac1f1qa2Oy1fbafaPkf24cjg1kccAaababababababababababababababababababababab",
     "ababababababababababababababababababababababababababababababababababababababababababababab",
     "ababababababababafbcababababababababababababababababababababababababababababababababababab",
     "abababababababababababababajhifkhihiflabababaihq1pcccffccfldmefccf9jadbga1nptaPsz1Pq1p1qab",
     "ccabababdbacaicbababababababababababababababababababababababababababababababababababababab",
     "abababababababababababaiabaeaUAnababababababababababababababababababababababatabababababab",
     "abababababababa4hababababababadabababababababababababababababababababababababababababababa",
     "bakababbbabababaeabacabadababababababababababebebabababababababdbabbdafabababayaRW2pJQagme",
     "10jz16f1h4i1d4Ykbobgbb1Nk1s4Zv2PW.LCa.ULa1b"]

/-- The property `Changes_When_Casemapped`. -/
def changesWhenCasemapped : Charset :=
  Packed.set
    ["2bzgz1Wakwb_b1.b2tbXcncbbae2YbrgWbbbabbdbbdbecabbcahacabbdffakb5ga1kdcbdcbagabcbabtb1od1ab",
     "eb4ei5fb1fk1g2Oy1fbafac1kccLa2vcf24ckf1kcc5zadaqa3r4Xcab3vcfc1fcfchbababab_c1ubgbadcbgddcf",
     "emfcbg9jadbgaXar.dbPr1t1Ow3qbbbbh3fhddbm1fbafaU8s1nsX4gnc1ZjodccebybZcbegybQYaY2pJQagme10j",
     "zgz15f2p3a1de1d3ukbobgbbbkbobgbb1Md1sn1s2Zvkv2OW1.LBa1.UKa2d"]

/-- The property `Changes_When_Lowercased`. -/
def changesWhenLowercased : Charset :=
  Packed.set
    ["2bz3fwbg1babababababababababababababababababababababababababababacabababababababacabababab",
     "abababababababababababababababababababbbabadbbabbbccdbbbcdbbbbababbbacabbbcbabbdahbbbbbbab",
     "ababababababacababababababababacbbabcbabababababababababababababababababababababababababab",
     "ababahbbbcabdbabababa9babadaiagabcbabbbqbi1daiabababababababababababafacabbc1s1qababababab",
     "abababababababababababajabababababababababababababababababababababababababababbbababababab",
     "acabababababababababababababababababababababababababababababababababababababababababababab",
     "abababac1f2Qj1fbafaMs2v24tag1kccAaabababababababababababababababababababababababababababab",
     "ababababababababababababababababababababababababababababababababababababababababababababab",
     "abajababababababababababababababababababababababababababababababababababababababababababab",
     "abababababajhifkhihiflabababaihyhihihieleldmele9jadbga1nptaPsz1Pq1p1qabccabababdbacaicbaba",
     "bababababababababababababababababababababababababababababababababababababababababababababa",
     "babaiabaeaUAnababababababababababababababababababababababatabababababababababababababa4hab",
     "abababababadababababababababababababababababababababababababababababababakababbbabababaeab",
     "acabadababababababababababebebabababababababdbabbdafabababayaLPlz16f1h4i1d4Ykbobgbb1Nk1s4Z",
     "v2PW.LCa.ULa1b"]

/-- The property `Changes_When_Titlecased`. -/
def changesWhenTitlecased : Charset :=
  Packed.set
    ["3bz1Wa1jxbhbabababababababababababababababababababababababababababacabababababababbbababab",
     "abababababababababababababababababababacababccabacadafacadccacababacaeacadabacadabaeabbbbb",
     "ababababababababbbababababababababcbabadabababababababababababababababababababadababababab",
     "abababaiacbbaeababababfbbbabbdbbdbecabbcahacabbdffakb5ga1labadadcsaX1cbbdcbabababababababa",
     "babababebacaca1u1pbababababababababababababababababajababababababababababababababababababa",
     "babababababababacababababababbbabababababababababababababababababababababababababababababa",
     "babababababababababababababababababa1r1g3Jqf24ciba7oadaqa3sabababababababababababababababa",
     "bababababababababababababababababababababababababababababababababababababababababababababa",
     "babababababababababababababgfababababababababababababababababababababababababababababababa",
     "bababababababababababababababababiifkhihifkhihinchihihiebbgadcbbidcbihkcbbAwa1bpeaQlz1Qg1p",
     "badbbababagacakabababababababababababababababababababababababababababababababababababababa",
     "babababababababababababaiabaeam1fbafaU8tababababababababababababababababababababababatabab",
     "abababababababababababa4hababababababadabababababababababababababababababababababababababa",
     "bababababakabacababababaeaeabbcabababababababababalabababababababaeabacadafababaWaQYaY2pJQ",
     "agme11jz16n1h4i1d4Xkbobgbb1Od1s3Zv2PW.LCa.ULc1b"]

/-- The property `Changes_When_Uppercased`. -/
def changesWhenUppercased : Charset :=
  Packed.set
    ["3bz1Wa1jxbhbabababababababababababababababababababababababababababacabababababababbbababab",
     "abababababababababababababababababababacababccabacadafacadccacababacaeacadabacadabafbbbbbb",
     "abababababababbbababababababababbbbbadabababababababababababababababababababadabababababab",
     "ababaiacbbaeababababfbbbabbdbbdbecabbcahacabbdffakb5ga1labadadcsaX1cbbdcbababababababababa",
     "bababebacaca1u1pbababababababababababababababababajabababababababababababababababababababa",
     "bababababababacababababababbbababababababababababababababababababababababababababababababa",
     "bababababababababababababababababa1r1g2Qi1kccNyf24ciba7oadaqa3sabababababababababababababa",
     "bababababababababababababababababababababababababababababababababababababababababababababa",
     "babababababababababababababababgfababababababababababababababababababababababababababababa",
     "bababababababababababababababababababiifkhihifkhihinc1ubbeabadcbbeaddcbihkcbbeaAra1bpeaQlz",
     "1Qg1pbadbbababagacakababababababababababababababababababababababababababababababababababab",
     "ababababababababababababababaiabaeam1fbafaU8tababababababababababababababababababababababa",
     "tabababababababababababababa4hababababababadababababababababababababababababababababababab",
     "abababababababakabacababababaeaeabbcabababababababababalabababababababaeabacadafababaWaQYa",
     "Y2pJQagme11jz16n1h4i1d4Xkbobgbb1Od1s3Zv2PW.LCa.ULc1b"]

/-- The property `Dash`. -/
def dash : Charset :=
  Packed.set
    ["1na1AYa1ta3Iba10fa20jf1Za1hapaCga30eaca.beaYaD_ata3pa1JCqb1faka5ja3Jaa9_a"]

/-- The property `Deprecated`. -/
def deprecated : Charset :=
  Packed.set
    ["Aja19ja28daba21jb26ffLzbRN6wa"]

/-- The property `Diacritic`. -/
def diacritic : Charset :=
  Packed.set
    ["2_aba2hagaeacbFx4_bhffrbeajb7Ze6ra1x1mbabbbbba4dheb4gbebdc2dW2Xk1Wk1cb3_h1jjqX1ZaqaddYa2ka",
     "qa3oaqa3oaqa1pc1Yaqaha3xa3oaqa3oaqa3nbqa3Ya3pamfba3lane2lbXababaeb2ccbb1_a3qabb1ibeezgbakb",
     "MbcTub_a4ukjaAXc9eauhca1qock3iapa1gi1wb1Walb2cb2af2syeagacc1s1_2zl1fkDZabclcncncnb37qc9ZaF",
     "Wf3jd2.aTBsambbaYb2sbo1b3gc3nbma1fa4xaXr1zd1ea2.ama1ea4vc2bd1ta3eejc4abJPqaObp8oaba1pa1nb2",
     "daNYa14.fb1jbiJZcea5fbHXf1gaWeCpc2gk1rd6aa1ja2ib3yb1_a2majc3ib5sb2qbqaygde2zcbbnb2.ada3Xb7",
     "Xb3_a3wb3ta8nb8cbea4Ya2tasa2raDfa8cabb2raDjbxa57moB6za2Eae1XgHubHcq2qbFV_dbgbb7Ob1ncwHacdf",
     "ihcg_d3Kc1Z6cgBxa1ZdN_bNag3ncbc"]

/-- The property `Emoji`. -/
def emoji : Charset :=
  Packed.set
    ["1dagafj3paea7Snama6yawa2WfpbBpbma5gazkec6ha7hbkaja1Wdbejacacbcaeacabbcadadbicfabafllbcabbb",
     "asacbsfbabbdbfacbeblbfbcafbbabbubffbdcaeacacfbacababagadagakbpacaeabaecbalb1qcjaoaoaBubEpc",
     "tb1taea16WamaIzaba3FBka6ka5abmboacj2lzbbxauacivb5o1bc3pcbbcc2sccb8gb1_lfbxhbchmacdcaebnbca",
     "ibjafcmciccabaeagadag2v1q2ffhccejdabbdacj7dlea8X1objb5y3qmdjf1xhockgi"]

/-- The property `Emoji_Component`. -/
def emojiComponent : Charset :=
  Packed.set
    ["1dagafj7Uta6va1N9la1SUwzFXe1DqdO1Jm2."]

/-- The property `Emoji_Modifier`. -/
def emojiModifier : Charset :=
  Packed.set
    ["3SVXe"]

/-- The property `Emoji_Modifier_Base`. -/
def emojiModifierBase : Charset :=
  Packed.set
    ["9GZa6Xaqd3J3xa1Yccacc3vbckvsdaecbchabaya6jbeavaeb5ocde2taqcjalaH.acaihgajjcc1ya1Zbbbbarcbm",
     "7fc1ki"]

/-- The property `Emoji_Presentation`. -/
def emojiPresentation : Charset :=
  Packed.set
    ["8OWb6nddacaGjbvb1sl1latanaibrbfbiafavahbbaeacahaebYa1dabaecba1ZcyaoaQXb1taea3H5oa6ka5_acj2",
     "lzbayauacebcvb5o1amib2fbvm1keemqdad2gbab5Wc1_ndbxsaWbna2w2u1q2fgadcccedlbhi7dlea8X1objb5y3",
     "qmdjf1xhockgi"]

/-- The property `Extended_Pictographic`. -/
def extendedPictographic : Charset :=
  Packed.set
    ["5jaea7Snama6yawa2WfpbBpbma2.a2gazkec6ha7hbkaja1Wdbfblb3rk3vckbabagadagakbpacaeabaecbale1nc",
     "jaoaoaBubEpctb1taea16WamaIzaba3FBg7.nc.a1Yfmboacjs1yXokauacibdjDrf9Zi8j1q3.3ul2v1kmd1yhkf1",
     "ih_2rm1objbDy8aVZ"]

/-- The property `Extender`. -/
def extender : Charset :=
  Packed.set
    ["5xaGybRoaDzaJwa4ja2zaNqa3.a2Ada1yaJdaCoa2ea4Sja1le3hb2ZcROwa1FwaUcawa4ja3mavbL3Xa20qb1ElaX",
     "aea16ha9fa3ubFsc16paK5jb14YbbaSAyb15raQuc"]

/-- The property `Grapheme_Link`. -/
def graphemeLink : Charset :=
  Packed.set
    ["2Ana3.a3.a3.a3.a3.a3.a3.a3nbqa3Ya3pa3.a6ja5ub1Mzb_a4ZaKna7da3fb2gb4ClaUKga1fa4xa4oa3ma9va7",
     "waNIra1Gga1jaoa1za3zb4la3ua5ua3ca4ac3ra3.a7Ya3.a3wa3ua8na8db5ba2tasa2raDfa8eb2raDjbGFma"]

/-- The property `Hex_Digit`. -/
def hexDigit : Charset :=
  Packed.set
    ["1qjhfWf1VLjjhfWf"]

/-- The property `Hyphen`. -/
def hyphen : Charset :=
  Packed.set
    ["1na3.a16Ya4JXa20jb3GfaNda1JBha5ja2xa"]

/-- The property `IDS_Binary_Operator`. -/
def idsBinaryOperator : Charset :=
  Packed.set
    ["BVqbcjFra"]

/-- The property `IDS_Trinary_Operator`. -/
def idsTrinaryOperator : Charset :=
  Packed.set
    ["BVsb"]

/-- The property `IDS_Unary_Operator`. -/
def idsUnaryOperator : Charset :=
  Packed.set
    ["BV_b"]

/-- The property `ID_Compat_Math_Continue`. -/
def idCompatMathContinue : Charset :=
  Packed.set
    ["5sbfa7TwadkboBtaeawa3D5caza.aza.aza.aza.aza"]

/-- The property `ID_Compat_Math_Start`. -/
def idCompatMathStart : Charset :=
  Packed.set
    ["8Gcaeawa3D5caza.aza.aza.aza.aza"]

/-- The property `Ideographic`. -/
def ideographic : Charset :=
  Packed.set
    ["C0gbziocUf6D.2aKF.M8aBnc3jT8kaX5Vxi16v1jj93hClJ8e19M.1a41zg6Zc5Kbo79qpJn2DcGZ1Fc4Qkf42."]

/-- The property `Join_Control`. -/
def joinControl : Charset :=
  Packed.set
    ["80mb"]

/-- The property `Logical_Order_Exception`. -/
def logicalOrderException : Charset :=
  Packed.set
    ["3Iae3Xe2Nqcca147Wbcabb"]

/-- The property `Modifier_Combining_Mark`. -/
def modifierCombiningMark : Charset :=
  Packed.set
    ["1Iubca4dagadbFbbbcda.a"]

/-- The property `Noncharacter_Code_Point`. -/
def noncharacterCodePoint : Charset :=
  Packed.set
    ["1VEq.Gob1VV_b1VV_b1VV_b1VV_b1VV_b1VV_b1VV_b1VV_b1VV_b1VV_b1VV_b1VV_b1VV_b1VV_b1VV_b1VV_b"]

/-- The property `Other_Alphabetic`. -/
def otherAlphabetic : Charset :=
  Packed.set
    ["QfaZmIanbabbbbba2ik1qmbgqa3fgedcbea1da_p3gk3fbdibcbd3ka1Yldggt1wbcobbfckbZc1WgcbcbkakbZc1W",
     "eebcbea_bdalc1Whbcbbvbwcec1Wgcbcbjbkb_a1Xedcbcka1ie1zgbcbciblbZc1Wgbcbciblbpamd1Wgbcbckakb",
     "Zc2lfbabhsb1Zacgsa3dacfbbqa5dsjkb1d3olbacdxdecbccgddnlbakd1Jub_b_b_b2cs5Yb1ca3wlei6_e1zjct",
     "2kblc1re1qo1Yc_icb1zk1ssCY1b1Mb1t27w.U3uh1cbBcaiaxe2yb1spba1za1geYl1nd1ql1fa2dnmaib1nc1sab",
     "ccbfa1mefa7nhJPta22xe1KgcbbfdOud2baAbb2pa8dc1vn1nblc1nija1Zc1elsb1zc1qmob2Yicagaca4Zjxd1Wg",
     "cbcbkakb2uibacabdbb3hmbc3kr7ngcgZb2soba3kk3hn8bm7xfbbcbdaba4ogcfeaYj1kebdsk1onCxhbg2tvbn3W",
     "fdabbbcbada2cebbbdAYdjbba1qgdcGEZq3Haab1whd2ZbJ5ma8Rbgbqcgbbbe3ea25xa1Vizgzgz"]

/-- The property `Other_Default_Ignorable_Code_Point`. -/
def otherDefaultIgnorableCodePoint : Charset :=
  Packed.set
    ["Qpa3Gpb1Itb25pa47_a1JHXa2piQ00habZ3a3.7q3Gp"]

/-- The property `Other_Grapheme_Extend`. -/
def otherGraphemeExtend : Charset :=
  Packed.set
    ["2D_ayaBgaya3gaya7iabaebbbjb3haya3xapa29va_a10aafabafb3fa2hb10ya41bbU9da3maLEZb4Haa3ua8iaoa",
     "ja3aajacabcfa7aama7ra8gaJzama1GdaK5obOBtbgfOBLn2."]

/-- The property `Other_ID_Continue`. -/
def otherIdContinue : Charset :=
  Packed.set
    ["5xaMpa3Vbi1Jia1Hrb47na1JJja"]

/-- The property `Other_ID_Start`. -/
def otherIdStart : Charset :=
  Packed.set
    ["64fb24rava3Rmb"]

/-- The property `Other_Lowercase`. -/
def otherLowercase : Charset :=
  Packed.set
    ["5kapaFvihb_e3aa1ua3Cba31p1_na1c1eLranaqm6tpQqz1SsbUG_b6sa4bcdbRcdjaN0waccb1jbi1M3v1Z"]

/-- The property `Other_Math`. -/
def otherMath : Charset :=
  Packed.set
    ["2_aRrccaWbcb71aaXcla1adybob2bmeadbeesaeacjbadegadbcbbcbfddfe2lecdbbbbbabecbebercbbabgbagb9",
     "cd5ibbayaraDZbmifefbcbdeoabacfyb1zabaZdjbAwb.jCtv1.d1ab1L3dabaea6taba1L6b2ub2gbbcacbcdblba",
     "bgb2abdchbgbXbdbebadgbAtcybyb_byb_byb_byb_bybhc1r5GadbWbbbacabjbdbabagaeabababcbbbacababab",
     "ababbbacdbgbdbdbabjbqfcbebq"]

/-- The property `Other_Uppercase`. -/
def otherUppercase : Charset :=
  Packed.set
    ["8BapQgz3J3azgzgz"]

/-- The property `Pattern_Syntax`. -/
def patternSyntax : Charset :=
  Packed.set
    ["1bokgWdbaWd1cgbabbbabbeaeadaxa.a7Oyxiocsbj9rMp5aJv_13lGa3.Cbceypa1J8nb8fb"]

/-- The property `Pattern_White_Space`. -/
def patternWhiteSpace : Charset :=
  Packed.set
    ["jesa3ea7Sibyb"]

/-- The property `Prepended_Concatenation_Mark`. -/
def prependedConcatenationMark : Charset :=
  Packed.set
    ["1Gaf6xa1raCab2qa21UWapa"]

/-- The property `Quotation_Mark`. -/
def quotationMark : Charset :=
  Packed.set
    ["1caea4dapa7QYhzb3GhaEjdnc1JHbd5Zaea2Wb"]

/-- The property `Radical`. -/
def radical : Charset :=
  Packed.set
    ["BKazb2ym6v"]

/-- The property `Regional_Indicator`. -/
def regionalIndicator : Charset :=
  Packed.set
    ["3SFgz"]

/-- The property `Sentence_Terminal`. -/
def sentenceTerminal : Charset :=
  Packed.set
    ["1bamaqa1Aja4tc5ua1lc7wa1Zabadb9fb1NebOwaebOfa6gb4Zb1nafa9WbBcd5cbkbcbZc5Xb2bbTeaxbjc35pc9s",
     "anawbDnaT7Ya8ob7dadaB_b2wb2.a4yb4tc4qb7zaKHgacb1Xadb5jamaqa2ba2Nub17Ze1md5Zb3vd3.c4bbgaqb2",
     "ybbb3ma9kb3vbBvbfo3jb7zcGfaba7Xb2xbDebLub2kbIPjb4fa2bblaHjb9iaJGga7Fia"]

/-- The property `Soft_Dotted`. -/
def softDotted : Charset :=
  Packed.set
    ["3jb6ea8za_a1uauaAaa3caba68ja1tanada4ea4ZaDfa6wb2Psa39Tfb1sb1sb1sb1sb1sb1sb1sb1sb1sb1sb1sb1",
     "sb24ga9rbWa"]

/-- The property `Terminal_Punctuation`. -/
def terminalPunctuation : Charset :=
  Packed.set
    ["1bakabalbdaP_aiaGba1za2iaoabc5ua1lkba7lb1wfbh.a8fb17ub5maef9xbOvhOfa3Yc2hb4Zcda1hdcb9WbBcd",
     "5cbkbbcZc5Xe1_bTeaxbjc35pc9sanaeakabbdbDmbT7Xb8nc7deB_b2wb2.a4xc4tc3.aqb7zaKHgacb1zcbd5jak",
     "abalbda2baca11Wa1qa14ga6ha9wb4yf2ef2zdTye1md5Zg3qd3.c4bbgaqb2ye3ma9kb3vcmbBgddo3jb7zcGfaba",
     "7Xb2xbebC_c1naKfb2kb19leHFzb4fa2bckaHjb9hbJGga7Fhd"]

/-- The property `Unified_Ideograph`. -/
def unifiedIdeograph : Charset :=
  Packed.set
    ["D0a6D.2aKF.MGobbabbkababbcc21Ew19M.1a41zg6Zc5Kbo79qpJn4Dc4Qkf42."]

/-- The property `Variation_Selector`. -/
def variationSelector : Charset :=
  Packed.set
    ["60lcba1PFqpQ0Nq7p"]

/-- The characters inside words that are no marks. -/
def midWord : Charset :=
  Packed.set
    ["1hagala3YaMpaExa4ua6Hdbkaca1NFla1_aca5ragala"]

/-- The identifier starts that normalization does not keep. -/
def notClosedStart : Charset :=
  Packed.set
    ["RWa2Lya3.a8Fhb1IUbfCwb3uabababababababa8.b"]

/-- The identifier characters that normalization does not keep. -/
def notClosedContinue : Charset :=
  Packed.set
    ["RWaB9ab1IUbfCwb3uabababababababa"]

/-- The property `White_Space`. -/
def whiteSpace : Charset :=
  Packed.set
    ["jesa3eaWa5E.a2B.kZbfa1pa3Taa"]

/-- The property `Lowercase`. -/
def lowercase : Charset :=
  Category.setOf [.lowercaseLetter] ∪ otherLowercase

/-- The property `Uppercase`. -/
def uppercase : Charset :=
  Category.setOf [.uppercaseLetter] ∪ otherUppercase

/-- The property `Alphabetic`. -/
def alphabetic : Charset :=
  Category.setOf [.uppercaseLetter, .lowercaseLetter, .titlecaseLetter, .modifierLetter,
    .otherLetter, .letterNumber] ∪ otherAlphabetic

/-- The property `Math`. -/
def math : Charset :=
  Category.setOf [.mathSymbol] ∪ otherMath

/-- The property `Grapheme_Extend`. -/
def graphemeExtend : Charset :=
  Category.setOf [.enclosingMark, .nonspacingMark] ∪ otherGraphemeExtend

/-- The property `Grapheme_Base`. -/
def graphemeBase : Charset :=
  (Category.setOf [.control, .format, .surrogate, .privateUse, .unassigned, .lineSeparator,
    .paragraphSeparator] ∪ graphemeExtend).complement

/-- The property `Cased`. -/
def cased : Charset :=
  lowercase ∪ uppercase ∪ Category.setOf [.titlecaseLetter]

/-- The property `Case_Ignorable`. -/
def caseIgnorable : Charset :=
  Category.setOf [.nonspacingMark, .enclosingMark, .format, .modifierLetter, .modifierSymbol] ∪
    midWord

/-- The property `Default_Ignorable_Code_Point`. -/
def defaultIgnorableCodePoint : Charset :=
  ((Category.setOf [.format] ∪ variationSelector) \ (prependedConcatenationMark ∪
    .range 0xFFF9 0xFFFB ∪ .range 0x13430 0x1343F)) ∪ otherDefaultIgnorableCodePoint

/-- The property `ID_Start`. -/
def idStart : Charset :=
  ((Category.setOf [.uppercaseLetter, .lowercaseLetter, .titlecaseLetter, .modifierLetter,
    .otherLetter, .letterNumber]) \ (patternSyntax ∪ patternWhiteSpace)) ∪ otherIdStart

/-- The property `ID_Continue`. -/
def idContinue : Charset :=
  ((idStart ∪ Category.setOf [.nonspacingMark, .spacingMark, .decimalNumber,
    .connectorPunctuation]) \ (patternSyntax ∪ patternWhiteSpace)) ∪ otherIdContinue ∪ otherIdStart

/-- The property `XID_Start`. -/
def xidStart : Charset :=
  idStart \ notClosedStart

/-- The property `XID_Continue`. -/
def xidContinue : Charset :=
  idContinue \ notClosedContinue

/-- The names of the properties, without case and separators. -/
def names : List (List String × Charset) :=
  [(["asciihexdigit", "ahex"], asciiHexDigit),
    (["alphabetic", "alpha"], alphabetic),
    (["bidicontrol", "bidic"], bidiControl),
    (["caseignorable", "ci"], caseIgnorable),
    (["cased"], cased),
    (["changeswhencasefolded", "cwcf"], changesWhenCasefolded),
    (["changeswhencasemapped", "cwcm"], changesWhenCasemapped),
    (["changeswhenlowercased", "cwl"], changesWhenLowercased),
    (["changeswhentitlecased", "cwt"], changesWhenTitlecased),
    (["changeswhenuppercased", "cwu"], changesWhenUppercased),
    (["dash"], dash),
    (["defaultignorablecodepoint", "di"], defaultIgnorableCodePoint),
    (["deprecated", "dep"], deprecated),
    (["diacritic", "dia"], diacritic),
    (["emoji"], emoji),
    (["emojicomponent", "ecomp"], emojiComponent),
    (["emojimodifier", "emod"], emojiModifier),
    (["emojimodifierbase", "ebase"], emojiModifierBase),
    (["emojipresentation", "epres"], emojiPresentation),
    (["extendedpictographic", "extpict"], extendedPictographic),
    (["extender", "ext"], extender),
    (["graphemebase", "grbase"], graphemeBase),
    (["graphemeextend", "grext"], graphemeExtend),
    (["graphemelink", "grlink"], graphemeLink),
    (["hexdigit", "hex"], hexDigit),
    (["hyphen"], hyphen),
    (["idsbinaryoperator", "idsb"], idsBinaryOperator),
    (["idstrinaryoperator", "idst"], idsTrinaryOperator),
    (["idsunaryoperator", "idsu"], idsUnaryOperator),
    (["idcompatmathcontinue"], idCompatMathContinue),
    (["idcompatmathstart"], idCompatMathStart),
    (["idcontinue", "idc"], idContinue),
    (["idstart", "ids"], idStart),
    (["ideographic", "ideo"], ideographic),
    (["joincontrol", "joinc"], joinControl),
    (["logicalorderexception", "loe"], logicalOrderException),
    (["lowercase", "lower"], lowercase),
    (["math"], math),
    (["modifiercombiningmark", "mcm"], modifierCombiningMark),
    (["noncharactercodepoint", "nchar"], noncharacterCodePoint),
    (["otheralphabetic", "oalpha"], otherAlphabetic),
    (["otherdefaultignorablecodepoint", "odi"], otherDefaultIgnorableCodePoint),
    (["othergraphemeextend", "ogrext"], otherGraphemeExtend),
    (["otheridcontinue", "oidc"], otherIdContinue),
    (["otheridstart", "oids"], otherIdStart),
    (["otherlowercase", "olower"], otherLowercase),
    (["othermath", "omath"], otherMath),
    (["otheruppercase", "oupper"], otherUppercase),
    (["patternsyntax", "patsyn"], patternSyntax),
    (["patternwhitespace", "patws"], patternWhiteSpace),
    (["prependedconcatenationmark", "pcm"], prependedConcatenationMark),
    (["quotationmark", "qmark"], quotationMark),
    (["radical"], radical),
    (["regionalindicator", "ri"], regionalIndicator),
    (["sentenceterminal", "sterm"], sentenceTerminal),
    (["softdotted", "sd"], softDotted),
    (["terminalpunctuation", "term"], terminalPunctuation),
    (["unifiedideograph", "uideo"], unifiedIdeograph),
    (["uppercase", "upper"], uppercase),
    (["variationselector", "vs"], variationSelector),
    (["whitespace", "wspace", "space"], whiteSpace),
    (["xidcontinue", "xidc"], xidContinue),
    (["xidstart", "xids"], xidStart)]

/-- The characters that have the property with a name. -/
def named? (name : String) : Option Charset :=
  (names.find? fun entry => entry.1.contains name).map Prod.snd

end Stencil.Unicode.Property
