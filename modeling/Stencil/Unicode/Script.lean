/-
This file holds the script of each code point and the scripts that share code points.
-/
import Stencil.Unicode.Packed

namespace Stencil.Unicode.Script

/-- The names of the scripts, without case and separators. Number zero is no script. -/
def names : List (List String) :=
  [["adlam", "adlm"], ["ahom"], ["anatolianhieroglyphs", "hluw"], ["arabic", "arab"],
    ["armenian", "armn"], ["avestan", "avst"], ["balinese", "bali"], ["bamum", "bamu"],
    ["bassavah", "bass"], ["batak", "batk"], ["bengali", "beng"], ["bhaiksuki", "bhks"],
    ["bopomofo", "bopo"], ["brahmi", "brah"], ["braille", "brai"], ["buginese", "bugi"],
    ["buhid", "buhd"], ["canadianaboriginal", "cans"], ["carian", "cari"],
    ["caucasianalbanian", "aghb"], ["chakma", "cakm"], ["cham"], ["cherokee", "cher"],
    ["chorasmian", "chrs"], ["common", "zyyy"], ["coptic", "qaac", "copt"], ["cuneiform", "xsux"],
    ["cypriot", "cprt"], ["cyprominoan", "cpmn"], ["cyrillic", "cyrl"], ["deseret", "dsrt"],
    ["devanagari", "deva"], ["divesakuru", "diak"], ["dogra", "dogr"], ["duployan", "dupl"],
    ["egyptianhieroglyphs", "egyp"], ["elbasan", "elba"], ["elymaic", "elym"],
    ["ethiopic", "ethi"], ["garay", "gara"], ["georgian", "geor"], ["glagolitic", "glag"],
    ["gothic", "goth"], ["grantha", "gran"], ["greek", "grek"], ["gujarati", "gujr"],
    ["gunjalagondi", "gong"], ["gurmukhi", "guru"], ["gurungkhema", "gukh"], ["han", "hani"],
    ["hangul", "hang"], ["hanifirohingya", "rohg"], ["hanunoo", "hano"], ["hatran", "hatr"],
    ["hebrew", "hebr"], ["hiragana", "hira"], ["imperialaramaic", "armi"],
    ["inherited", "qaai", "zinh"], ["inscriptionalpahlavi", "phli"],
    ["inscriptionalparthian", "prti"], ["javanese", "java"], ["kaithi", "kthi"],
    ["kannada", "knda"], ["katakana", "kana"], ["kawi"], ["kayahli", "kali"],
    ["kharoshthi", "khar"], ["khitansmallscript", "kits"], ["khmer", "khmr"], ["khojki", "khoj"],
    ["khudawadi", "sind"], ["kiratrai", "krai"], ["lao", "laoo"], ["latin", "latn"],
    ["lepcha", "lepc"], ["limbu", "limb"], ["lineara", "lina"], ["linearb", "linb"], ["lisu"],
    ["lycian", "lyci"], ["lydian", "lydi"], ["mahajani", "mahj"], ["makasar", "maka"],
    ["malayalam", "mlym"], ["mandaic", "mand"], ["manichaean", "mani"], ["marchen", "marc"],
    ["masaramgondi", "gonm"], ["medefaidrin", "medf"], ["meeteimayek", "mtei"],
    ["mendekikakui", "mend"], ["meroiticcursive", "merc"], ["meroitichieroglyphs", "mero"],
    ["miao", "plrd"], ["modi"], ["mongolian", "mong"], ["mro", "mroo"], ["multani", "mult"],
    ["myanmar", "mymr"], ["nabataean", "nbat"], ["nagmundari", "nagm"], ["nandinagari", "nand"],
    ["newtailue", "talu"], ["newa"], ["nko", "nkoo"], ["nushu", "nshu"],
    ["nyiakengpuachuehmong", "hmnp"], ["ogham", "ogam"], ["olchiki", "olck"], ["olonal", "onao"],
    ["oldhungarian", "hung"], ["olditalic", "ital"], ["oldnortharabian", "narb"],
    ["oldpermic", "perm"], ["oldpersian", "xpeo"], ["oldsogdian", "sogo"],
    ["oldsoutharabian", "sarb"], ["oldturkic", "orkh"], ["olduyghur", "ougr"], ["oriya", "orya"],
    ["osage", "osge"], ["osmanya", "osma"], ["pahawhhmong", "hmng"], ["palmyrene", "palm"],
    ["paucinhau", "pauc"], ["phagspa", "phag"], ["phoenician", "phnx"],
    ["psalterpahlavi", "phlp"], ["rejang", "rjng"], ["runic", "runr"], ["samaritan", "samr"],
    ["saurashtra", "saur"], ["sharada", "shrd"], ["shavian", "shaw"], ["siddham", "sidd"],
    ["signwriting", "sgnw"], ["sinhala", "sinh"], ["sogdian", "sogd"], ["sorasompeng", "sora"],
    ["soyombo", "soyo"], ["sundanese", "sund"], ["sunuwar", "sunu"], ["sylotinagri", "sylo"],
    ["syriac", "syrc"], ["tagalog", "tglg"], ["tagbanwa", "tagb"], ["taile", "tale"],
    ["taitham", "lana"], ["taiviet", "tavt"], ["takri", "takr"], ["tamil", "taml"],
    ["tangsa", "tnsa"], ["tangut", "tang"], ["telugu", "telu"], ["thaana", "thaa"], ["thai"],
    ["tibetan", "tibt"], ["tifinagh", "tfng"], ["tirhuta", "tirh"], ["todhri", "todr"], ["toto"],
    ["tulutigalari", "tutg"], ["ugaritic", "ugar"], ["vai", "vaii"], ["vithkuqi", "vith"],
    ["wancho", "wcho"], ["warangciti", "wara"], ["yezidi", "yezi"], ["yi", "yiii"],
    ["zanabazarsquare", "zanb"]]

/-- The scripts of all code points. -/
def table : List String :=
  ["2azz2kfzz2k1oza2koza2kezw2kaz_2kazEa2k1gze2kezbntz3p1Wd1nazc1nbad1naza1ndaa1naza1nazc1naaa1n",
   "aat1naa1_1nnWp1n4e_b1W5i_aa1ffba1rfbacfaa1w1xhaW1xdaf1xkaeeazfeazneazceaz.eazjek1Wzea1W3leaz",
   "1ben4qaa1X4qbac4q1pe1r4Xna1W3jbac3j1n4dbao4daaX2vbaa2vaak4qea_eaabeea2keazYe2q1ad1Wo1abzz1ad",
   "laahlbablbavlaaglaaalcadlbailbablbadlhaaldablaaelbaylbac1qaaf1qdab1qbav1qaag1qaab1qaab1qaab1",
   "qbaa1qaae1qdab1qbac1qcaa1qgad1qaaa1qgaq1qjac1oaai1oaac1oaav1oaag1oaab1oaae1obaj1oaac1oaac1ob",
   "aa1ooad1obal1ogag1oaac3yaah3ybab3ybav3yaag3yaab3yaae3ybai3ybab3ybac3ygac3ydab3yaae3ybar3yjab",
   "4xaaf4xcac4xaad4xcab4xaaa4xaab4xcab4xcac4xcal4xdae4xcac4xaad4xbaa4xfaa4xnau4xeam4Waac4Waaw4W",
   "aap4Wbai4Waac4Waad4Wgab4Waac4Wbaa4Wbad4Wbaj4Wgai4Wm1.aac1.aaw1.aaj1.aae1.bai1.aac1.aad1.gab1",
   ".fab1.aad1.baj1.aac1.lam2uaac2uaa1s2uaac2uaaf2udap2ubaz2uaac4jaar4jcax4jaai4jaaa4jbag4jcaa4j",
   "daf4jaaa4jaah4jfaj4jbac4jla1z4YdaazX4Y1eab2jaaa2jaae2jaax2jaaa2jaaw2jbae2jaaa2jaag2jaaj2jbad",
   "2j.a2h4Zaa1d4Zda1g4Zaa1d4Zaao4Zaag4Zdzb4Z1ea4.3d1f1jaaa1jeaa1jba1k1jazd1j7.1t2i1haad1hbag1ha",
   "aa1haad1hba1i1haad1hba1a1haad1hbag1haaa1haad1hbao1haa1y1haad1hba2c1hba.1hcaz1hfa2vxbafxbaJ.s",
   "Y3mca2k4cczk4cgav4riaa4ru1vbziatrlam4saac4saab4sla2Z2fbaj2ffaj2ffab3abza3aazt3afa2y3aga1k3ae",
   "a2fsja_2maal2mdal2mdaa2mcal2mZ4tbae4tka1l3hdaz3hfak3hcab3h.2fXqbabq1_4uaaY4ubak4ufaj4ufan4ub",
   "a_1W1qa2mhaa1rh1.4n1tkhadk1x2lcao2lcac2l1p3nk_ea1k1jbac1jh4nhac1Wazm1Wazg1Wdza1Wfza1Wczb1Waz",
   "ea1f2ke1na_1q2ke1nd2ke1nm2ka_2f2ka1n1.1W7.2kv1nbaf1nba1f1nbaf1nbah1naaa1naaa1naaa1naa_1nba1u",
   "1naao1naan1nbaf1naas1nbac1naai1naalzb1W2wzaakza2kbakza2kozaam2kca1azoa1a1Woa1fza1nczb2kfza2k",
   "Wza2kqz1i2kczdaKzzvakzuaS.z7.pJtzba.zaa3iz2.1k.2k3tWeagW1f1jaaa1jeaa1jba1x4_gab4_naa4_w1hiag",
   "1haag1haag1haag1haag1haag1haag1haag1haa._2Zz1baz1saa2y1sla6v1szauza1saza1syzi1sd1Wb1thzd1sdz",
   "aa2v1ybab1Wbzc1yaz2z2abzc2aea1knaa2Z1taapz.n1fziaazp2a_1taa1.z_1t2qz1o2aaz2x2a5hz6D.1s1.zKF.",
   "1s14m5jca1w5jia1p2p9l5eta2._2xiha1bz3f2kcz2c2kbab2kaaa2kaah2kuan2k1m4pcajzfa1x3_ha2f4ehal4ef",
   "a.1a1n2caza2c1d4bkaa4bY1tca2n1Zaaazj1Zdab1Z_3daa1wwianwbajwbadw.3d2c4vxae4vw2Wjaf1hbaf1hbaf1",
   "hiag1haag1haa1k2kazi2ka1nd2kbzda2px1n2Wbaj2WfaATd1tlaw1tda1q1t88daBn1sba3j1s1fag2klaefeaz1xa",
   "ae1xaaa1xaab1xaab1xaaj1x3sepaBkebz2peba1vegaae.apep1Wjzfan1Wb_1czaaszaadzdaeeaa4gebaazaa.zz2",
   "kfzz2kkzj2aaz1m2abz_1tcaf1tbaf1tbaf1tbac1tcagzaagzjaezbal2oaaz2oaas2oaab2oaao2oban2o1ba3W2oe",
   "aczda1mzcaiz2o1naamzcaa1n1oa1mza1W4baY2qca1qtoaa1WWzda1d3qiac3qW1lea1k3seaZ5daaa5d1d3tdan3t1",
   "ja2p.1p4gZ3Wbaj3Wfa1d3zda1d3zda1h1fha1tukaauk5faao5faag5faab5faak5faao5faag5faab5fca1t5ala9w",
   "2niav2njah2nxaf2kaa1j2kaai2k2eafYbaaYaa1lYaabYcaaYbaaYv1zaai1z.3Y_3ehai3e1pas1waab1weae1wX3.",
   "caa3.z2reaa2r1.a.2Zx2Ydat2Yba1n2Yd2daab2deah2daac2daaY2dbac2ddaj2dgai2dga.3v.3r.a1g2wdal2wia",
   "1vgcaggv1Ybah1Ys1Xeah1Xr4agad4alag4a2pa2i3w1wa1s3pma1s3pgaf3p1h1uhaj1ufa1f1icaY1ihab1i6pa_ea",
   "a1j5iaac5ibab5ipace1wade1h3uha1j4kvaz3x1faXytaw1gia2noda1doiaao2c1_jaa1_bay4lgaj4lfa1uvaarvh",
   "a1g2sia2.4faat4jkar2gaa1o2g1Zag3caaa3caad3caao3caak3cfa1W2heaj2hfad1maah1mbab1mbav1maag1maab",
   "1maae1maaa1Wi1mbab1mbac1mbaa1mfaa1meag1mbag1mcae1mkaj5caaa5cbaa5caa1f5caaj5caaa5cbaa5caad5ca",
   "aj5caab5chab5cYa2X3iaae3iZa2h4.haj4.5fa1v4hba1f4h1ba2e2.kaj2.fam3asa1z4wfaj4wfat3dXaWcbaocda",
   "wc5ya1X1c3da2s5hlaa5hg1bbaa1bbah1baab1baaZ1baab1bbal1biaj1b2fah3gba1n3gbak3gWa2h5kha2s4mmaps",
   "1y3Zgaj1a5va1b4onaj4ofaimaa1mmaanmjaYmca.2xbav2xaan2x2iag2yaab2yaa1l2ycaa2yaab2yaai2yhaj2yfa",
   "f1paab1paa1e1paab1paaf1pgaj1p9vay2tgaq2baa1i2bcaY2b2uaa2poa1r4xmaa4xSzX3fa3oXaaeXka6dX2Ila3c",
   "Zma12v1eja3SW1eeaIgd6Lya1z1r1MfaHyiga_3baaj3bdab3b2o4yaaj4yfaZjbafjja2f3Xjaj3Xaag3Xaau3Xeas3",
   "XDpa1z2i6fa2W2z3ea2k2_da1y2_gaq2_1.aa4za3kb1sa2ekab1sna5Vx4zhaN.4zEv2e1iaa2ei4z8Ngad2aaag2aa",
   "ab2aaaa2a8_1yc2aoaa1yYac1ybaa2anad2ahaCl3k28da3k1deam1dcai1dgaj1dbad1ddz3QXa7zzfaDtz2la1n1Wb",
   "aw1Wia3tz1Xa7vzja1gzba1Zzc1Wqzh1Wbzg1WZzd1W1Yzua2f1n3zatzlatzla2wziayz4ga2uzaa2gzaabzbaazbab",
   "zbadzaalzaaazaagzaa2azaadzbahzaagzaaXzaadzaaezaaazcagzaaAtzba9dzba1rzKl4ioae4iaao4i12pa_2kfa",
   "f2k6uag1kaaq1kbag1kaab1kaae1kea1Z_1aaa_3pa1m3lcan3lbaj3ldab3l9.a_5bqa1z5geaa5gEpa1j3f6va1k3o",
   "daa3oE.ag1haad1haab1haao1haa6e2Xbap2X1ia2lbdajbdabbOqa2dz2la1Yz6badeaaWeaabeaaaebaaeaajeaade",
   "aaaeaaaefaaedaaeaaaeaaaeaaceaabeaaaebaaeaaaeaaaeaaaeaaaeaabeaaaebadeaageaadeaadeaaaeaajeaaqe",
   "eaceaaeeaaqe1tabe8na1lzda3dzlaozbaozaaozaa1ezja5nz1xazza1ybzma1lzdaizgabznafz4zaUxzdaqzcamzc",
   "a3wzda2_zfalzdaazoalzda1xzhajzfa1hzhaZzbalzdabz1ZaAtzlanzbamzcajzea1xzgaozbakzfaizga4szaa3fz",
   "10fa19M.1s.a41z1sfa6Z1sba5Kb1sna79q1soaJn1s2DbaGZ1s1Fba4Qk1sea42.1sLN2qaazZa2.z3.a7p1W5VGpa"]

/-- The scripts of the code points that are not used in their own script alone. -/
def sharedTable : List String :=
  ["5xaqgtW1d1f1j1k1l1n1p1s2k2r2s3s4gGeahl_1a2k2p4Y5bkacn2kbccn2kbac2k2pjac2k4Ybacn2k1gaixW_1n2k",
   "3s4o4taaix_1n2k3z4o4t5aaaex_2k4_aaf1k2k4o4q4YaaluxW_1l1n2k3z4q4_5aaagW1f1k1l2a2kaae_1n2k3saa",
   "jW1d1x2k3s4q4t4_5aaakf_1d1l1n1x2k3s4q4taac2k4_aad1d2k4qaaex_2k3zaadx2k4taac2k4oaac1h2kbac2k4",
   "oaad_2k5abae1n2k3s5amac2k4qcafx1d2a2k4qaaex1d2k4qaac2k4qhad2k4o4qaac2k4qbadx2k4qaagux1l2k4o4",
   "Yqab1ncab1nsac2k3zfadu2k5aemb2kebcW1n8nac_3saac_1kabc_2kaac_1k8badf1j1k4cahe1i1u3j4q4X5ioahe",
   "1i1u3j4q4X5iaade4q4Xcaibe1i1u3j4q4X5i1aajbe1u2v2w3x4a4k4qkkce4qkjde4X5igace4q3dace1uJYaol1a1",
   "m1o1q1.2k2u3g3y4f4x4W4.aaml1a1m1o1q1.2k2u3y4x4W4.ravl1a1c1m1o1p1q1.2h2s2u2y3g3o3y4j4p4w4x4W4",
   ".aaxl1a1c1m1o1p1q1r1.2h2m2s2u2y3g3o3y4j4p4w4x4W4.aje1a1c1_2s3wjdlv4p3wjc1q3c3wjc1o2g7wnc1m4x",
   "7sjd1.3g5cQqjdv3d4t5rad1j1k2k1Fpcb4c2hber1v4r4s6lbc3a3_bac3a3_16kael1a1m1.aab1aaael1a1m1.aad",
   "1a1m1.aab1aabcl1aaac1a4faacl1aaac1a4faag1a1.2u3y4x4Waab1aabc1a4fabb1aaac1a4faacl1aagb1aaac1a",
   "3gaacl1aabb1aaacl1aadb1aaall1a1m1.2u3g3y4j4W4.5caac1a1maae1a1m1.5cabcl1aaablabc1a1maab3g6fbb",
   "1n1wad_2k4qbab4qHuad2k3a3_.acbekagt1j1k2q3p3wcaet1n2Z3p4sad1a1m2k39gacW2kyacg3waahgt1j1_2r3p",
   "4dkab1deadbe3pbac_1kDmpc1s4zbahn1s1t1y2a3a5jaain1s1t1y2a3a3_5jaafn1s1t1y2acab1sbbin1s1t1y2a3",
   "a4Z5jabjn1s1t1y2a2p3a4Z5jafgn1s1t1y2a5jbafn1s1t1y2aahgn1s1t1y2a5jadfn1s1t1y2akdcn1scafn1s1t1",
   "y2aaec1y2abafn1s1t1y2aebd1s1y2aabb1s2zdc1y2adac1y2a2Wagn1s1t1y2a5jaac1y2a4tpb1s1a1fb1sjac1s4",
   "z1q1hb1s1y1qb1splb1s1tab1s2yyb1skeb1s3a_b1sSJqac_1k4qhc1s2k9icq1a1c1o1q1_1.2g2h2s2u2.3g4f4w4",
   ".5cacp1a1c1o1q1_1.2g2h2s2.3g4f4w4.5cabl1a1c1o1q1_2g2h2s2.4w4.aam1a1c1o1q1_2g2h2s2.4f4w4.aal1",
   "a1c1o1q1_2g2h2s2.4w4.5xadl1a5cbac1a4x1Wad2c2k3d5aacq1ZKRobce3j5sace4Xkace4X2hbfn1s1t1y2a8Weg",
   "n1s1t1y2a5jkac1y2a1nbc1y2aBabdYZ2oaacY2oe1mdY2n2odicY2oDaXceW1Vwac2w3x20oac1m4xbac1m4x1xbc1m",
   "4x34tbc1m4xbac1m4x176mdb1d5LYrb1s7M_bb1s"]

/-- The code points with the numbers of their scripts. -/
def classes : List (CodeRange × Nat) := Packed.partition table

/-- Each range is a distance from the range before, a length less one, a count, and as many
script numbers. -/
def sharesFrom : (fuel start : Nat) → List Nat → List (CodeRange × List Nat)
  | fuel + 1, start, gap :: length :: count :: rest =>
      (⟨start + gap, start + gap + length⟩, rest.take count) ::
        sharesFrom fuel (start + gap + length + 1) (rest.drop count)
  | _, _, _ => []

/-- The code points that are used in other scripts than their own alone. -/
def shares : List (CodeRange × List Nat) :=
  let numbers := Packed.numbers sharedTable
  sharesFrom numbers.length 0 numbers

/-- The number of a script. -/
def number? (name : String) : Option Nat :=
  (names.findIdx? fun entry => entry.contains name).map (· + 1)

/-- The characters whose script has a name. -/
def named? (name : String) : Option Charset :=
  (number? name).map fun number => Packed.pick classes (· == number)

/-- The characters that are used in the script with a name. -/
def extended? (name : String) : Option Charset :=
  (number? name).map fun number =>
    let own := Packed.pick classes (· == number)
    let shared := Charset.ofRanges (shares.map Prod.fst)
    let used := Charset.ofRanges ((shares.filter fun entry => entry.2.contains number).map Prod.fst)
    (own \ shared) ∪ used

end Stencil.Unicode.Script
