/-
This file holds the general category of each code point. The tables of this folder are those of
Unicode 16.0.
-/
import Stencil.Unicode.Packed

namespace Stencil.Unicode

/-- The general categories. -/
inductive Category where
  | uppercaseLetter
  | lowercaseLetter
  | titlecaseLetter
  | modifierLetter
  | otherLetter
  | nonspacingMark
  | spacingMark
  | enclosingMark
  | decimalNumber
  | letterNumber
  | otherNumber
  | connectorPunctuation
  | dashPunctuation
  | openPunctuation
  | closePunctuation
  | initialPunctuation
  | finalPunctuation
  | otherPunctuation
  | mathSymbol
  | currencySymbol
  | modifierSymbol
  | otherSymbol
  | spaceSeparator
  | lineSeparator
  | paragraphSeparator
  | control
  | format
  | surrogate
  | privateUse
  | unassigned
  deriving Repr, DecidableEq

namespace Category

/-- The categories in the order of their numbers in the table. -/
def all : List Category :=
  [.uppercaseLetter, .lowercaseLetter, .titlecaseLetter, .modifierLetter,
    .otherLetter, .nonspacingMark, .spacingMark, .enclosingMark,
    .decimalNumber, .letterNumber, .otherNumber, .connectorPunctuation,
    .dashPunctuation, .openPunctuation, .closePunctuation, .initialPunctuation,
    .finalPunctuation, .otherPunctuation, .mathSymbol, .currencySymbol,
    .modifierSymbol, .otherSymbol, .spaceSeparator, .lineSeparator,
    .paragraphSeparator, .control, .format, .surrogate,
    .privateUse, .unassigned]

/-- The general categories of all code points. -/
def table : List String :=
  [".zawcratcranaoarasarambrjibrcsbrzaanaraoaualauzbanasaoas1azawardtavarauavaeapasaWavauavasbka",
   "uabbrauakaeaqckarwaasgaxbashbaaabaaabaaabaaabaaabaaabaaabaaabaaabaaabaaabaaabaaabaaabaaabaaa",
   "baaabaaabaaabaaabaaabaaabaaabaaabaaabaaabaaabaabbaaabaaabaaabaaabaaabaaabaaabaabbaaabaaabaaa",
   "baaabaaabaaabaaabaaabaaabaaabaaabaaabaaabaaabaaabaaabaaabaaabaaabaaabaaabaaabaaabbaabaaabaac",
   "bbaabaaabbaabcabbdaabbaabcacbbaabbaabaaabaaabbaabaabbaaabbaabcaabaaabbabbaeaacbdeaaacabaaaca",
   "baaacabaaabaaabaaabaaabaaabaaabaaabaabbaaabaaabaaabaaabaaabaaabaaabaaabaabbaaacabaaabcaabaaa",
   "baaabaaabaaabaaabaaabaaabaaabaaabaaabaaabaaabaaabaaabaaabaaabaaabaaabaaabaaabaaabaaabaaabaaa",
   "baaabaaabaaabaaabaagbbaabbabbaaabdaabaaabaaabaaabaa2ebaeWbrdduldnuedguadauadqu3pfaaabaaabada",
   "uaaabbZadcbaraadZbuaaarcaaZaaaZbaabqaaZia1cbaabbcacbaaabaaabaaabaaabaaabaaabaaabaaabaaabaaab",
   "aaabaaebaaabasaaabbabb1sa1pbaaabaaabaaabaaabaaabaaabaaabaaabaaabaaabaaabaaabaaabaaabaaabaaab",
   "aaabavefbhaaabaaabaaabaaabaaabaaabaaabaaabaaabaaabaaabaaabaaabaaabaaabaaabaaabaaabaaabaaabaa",
   "abaaabaaabaaabaaabaaabaaabbaabaaabaaabaaabaaabaaabaabbaaabaaabaaabaaabaaabaaabaaabaaabaaabaa",
   "abaaabaaabaaabaaabaaabaaabaaabaaabaaabaaabaaabaaabaaabaaabaaabaaabaaabaaabaaabaaabaaabaaabaa",
   "abaaabaaabaaabaaabaaabaaabaaabaaabaaabaaabaaabaaabaaabaaabaaabaZ1fabZadfr1ibarambZbvataZ1mfa",
   "mafarbfarbfarafhZWedZdebrkZfWcsbratbrbvkfaraWcr.eadjeufjidrbeaf3cearaegfaWavffbdbfavdfbejice",
   "bvaenraZaWaeafZeWfbZ2yekfaenZji1aeifbdavcradbZafbtvedfadifadcfadefbZoraZyecfbZaraZkeeZxeaufe",
   "aZbWeZif1ieadxfaW.fag1veafagafaecghfdgafbgaegfjebfbrjiaradoeafbgaZhebZbebZveaZgeaZaecZdebZaf",
   "aecgdfbZbgbZbgafaehZagdZbeaZcebfbZjibebtfkavataearafbZbfagaZfedZbebZveaZgeaZbeaZbeaZbebZafaZ",
   "cgbfdZbfbZcfcZafgZdeaZaegZjibfceafarjZbfagaZieaZceaZveaZgeaZbeaZeebZafaecgefaZbfagaZbgafbZae",
   "oZbebfbZjiaratgZaeffaZafbgaZhebZbebZveaZgeaZbeaZeebZafaeagafagdfbZbgbZbgafgZbfagdZbeaZcebfbZ",
   "jiavaefkjZafaeaZfecZceaZdecZbeaZaeaZbecZbecZcecZledZbgafbgcZcgaZcgafbZaefZagnZjickfvataveZaf",
   "cgafheaZceaZweaZpebZafaecfdgaZcfaZdfgZbfaZcebZaebZbebfbZjigZargkavaeafbgarheaZceaZweaZjeaZee",
   "bZafaeagafegaZafbgaZbgbfgZbgfZbeaZbebfbZjiaZbeaglZbfbgieaZceaZ1iebfaecgdfaZcgaZcgafaeavdZcea",
   "ggkcebfbZjiikavfeaZafbgaZrecZxeaZieaZaebZgecZafdZcgcfaZafaZhgfZjibZbgarlZ1peafbegfdZatfeadhf",
   "arjibr1eZbeaZaeaZeeaZxeaZaeaZjeafbeifaebZeeaZadaZgfaZjibZde.Zaecvoravarcvbffvjijkavafavafava",
   "fanaoanaobgheaZ1dedZnfagefarbfeekfaZ1dfaZhvaffvaZbverdvbr1eZ1kebgdfagffagbfbgbfaejifrfebgbfd",
   "ecfaecgbeggcedfmeafbgbffgafaeagjicgafbv1faaZaaeZaabZ1kbaradcbAieaZdebZgeaZaeaZdebZ1ieaZdebZ1",
   "aeaZdebZgeaZaeaZdebZoeaZ1yeaZdebZ2cebZcfirtkcZpejvfZ2vabZfbbZamJleavarqeawzeanaocZ2kecrcjheg",
   "ZrecfagiZsebfagbriZrebflZmeaZceaZbflZ1tebfaggfhgafbgkfcradcrataeafbZjifZjkfZframdrcfaWafjifZ",
   "1cead1uegZeebf1beafaeeZ2fejZ_eaZcfdgbfcgdZbgaffgcfdZavcZbrjiZebZeekZ1ledZzefZjiakcZ1bvwebfbg",
   "afbZbr1ueagafaggfaZafagafbghffgjfbZafjifZjifZgradfrbZnfahpf1qZdfag1oeafagefagafegafbgheaZbrj",
   "igrjvifivcrbfagZeagdfbgbfagcfbeji1leafagbfcgafagcfbghZdr1dehghfbgbfcZerjicZcejiZefdbribaaabe",
   "Z1kabZcahrhZcfarmfaggfdeaffeafbeagbfaeeZ1lb1_dmbad1bb1ed1.faaabaaabaaabaaabaaabaaabaaabaaaba",
   "aabaaabaaabaaabaaabaaabaaabaaabaaabaaabaaabaaabaaabaaabaaabaaabaaabaaabaaabaaabaaabaaabaaaba",
   "aabaaabaaabaaabaaabaaabaaabaaabaaabaaabaaabaaabaaabaaabaaabaaabaaabaaabaaabaaabaaabaaabaaaba",
   "aabaaabaaabaaabaaabaaabaaabaaabaaabaaabaaabaaabaaabaaabaaabaaabaaabaaabaaabaaabaaibaaabaaaba",
   "aabaaabaaabaaabaaabaaabaaabaaabaaabaaabaaabaaabaaabaaabaaabaaabaaabaaabaaabaaabaaabaaabaaaba",
   "aabaaabaaabaaabaaabaaabaaabaaabaaabaaabaaabaaabaaabaaabaaabaaabaaabaaabaaabaaabaaabaaabaaaba",
   "aibhafbbZfabZhbhahbhafbbZfabZhbaZaaaZaaaZaaaZaahbhanbbZhbhchbhchbhcebaZbbdaacauabcucbaZbbdaa",
   "ccudbbZbbdaaZcuhbeacubZcbaZbbdaacbuaZkweWfmbrapaqanbpaqanaphraxayeWawirapaqdrblcrasanaokrasa",
   "raljraweWaZjWakadbZfkcsanaoadjkcsanaoaZmdcZ1atoZmfdhafchlfoZbvaadvaabvabcabbcaabavaabvaseafv",
   "aaavaaavaaavdaavabdaabdeabbvbbbaesaadbavasbvabavpk1cjaaabdjakbvdZesevbsdvasbvasbvasgvas_vbsb",
   "vasavas_v8lshvanaoanaotvbsgvanao2qvasZvys1hvfs2hvvZkvuZ1Xk2nvvk5wvasivas1vvhs3ovas7xvanaoana",
   "oanaoanaoanaoanaoanaoZk1lvesanao_sanaoanaoanaoanaoanaops7.v4csanaoanaoanaoanaoanaoanaoanaoan",
   "aoanaoanaoanao1_sanaoanao.sanao8bs1pvusbvfs1gvbZ.vaZ3iv1pa1pbaaabcabbaaabaaabaaabdaabaabbaaf",
   "bbdcaabaaabaaabaaabaaabaaabaaabaaabaaabaaabaaabaaabaaabaaabaaabaaabaaabaaabaaabaaabaaabaaaba",
   "aabaaabaaabaaabaaabaaabaaabaaabaaabaaabaaabaaabaaabaaabaaabaaabaaabaaabaaabaaabaaabaaabaaaba",
   "aabaaabaaabaaabaabbfvaaabaaabcfaaabeZdrakbr1fbaZabeZabbZ1xegZadarnZafweiZgeaZgeaZgeaZgeaZgea",
   "ZgeaZgeaZgeaZ.fbrapaqapaqcrapaqarapaqirambramarapaqbrapaqanaoanaoanaoanaoeradjrbmdramaranmrb",
   "vcranaoanaoanaoanaoam1bZzvaZ2yvlZ6vvzZpvawcravadaeajanaoanaoanaoanaoanaobvanaoanaoanaoanaoam",
   "anboavijdfbgamedbvcjadaearbvaZ2vebZbfbubdaeam2zearcdaeeZ1keaZ2ZeaZbvdkjv.e1fviZavpe_vaZjkZvh",
   "kavok.vjk1gvok9.v6D.e1.vKGuead13wecZ1wviZ1hefdbr8leadcrpejibetZaaabaaabaaabaaabaaabaaabaaaba",
   "aabaaabaaabaaabaaabaaabaaabaaabaaabaaabaaabaaabaaabaaabaaabaaabaeafcharjfaradaaabaaabaaabaaa",
   "baaabaaabaaabaaabaaabaaabaaabaaabaaabaaabbdbf2fejjbffrhZwuidbuaaabaaabaaabaaabaaabaaabaacbaa",
   "abaaabaaabaaabaaabaaabaaabaaabaaabaaabaaabaaabaaabaaabaaabaaabaaabaaabaaabaaabaaabaaabaaabaa",
   "abaaabaaabaaabaaabaaabaaabaaabadhbaaabaaabbaabaaabaaabaaabaaabadbuaaabaaabaeaaabaacbaaabaaab",
   "aaabaaabaaabaaabaaabaaabaaabaaabeaabeaabaaabaaabaaabaaabaaabaaabaaabdaabaaabbaabbZaaabaZabaZ",
   "abaaabaaabaaabaauZcdaaabaebdabgeafceafdeafwebgbfagdvafcZfkbvatavfZ1tedrhZbg1repgbfhZbrjifZrf",
   "fecraearbeafjiXehfbrwekfbgkZarYecZcfag1oeafbgdfbgbfcgmraZadjidZbreeafadiejieeaZ1ieffbgbfbgbf",
   "iZceafheafagbZjibZdrpeadfecvaeagafag1reafaecfbebfeebfaeafaexZbeadbrkeagbfbgbraebdagafjZfebZf",
   "ebZfeiZgeaZgeaZ1kbauddibadbudZ2pb1cebgafbgafbgaragafbZjifZATdelZwedZ1qedZ1V.X67.YBnebZ3je1fZ",
   "gblZebeZaeafjeasmeaZeeaZaeaZbeaZbeaZ3lequpZBkeaoanpv1.ebZ1vegZav.ZleatcvpfgranaoarfZpfarbmbl",
   "anaoanaoanaoanaoanaoanaoanaoanaobranaodrclcraZdramanaoanaoanaocrasamcsaZaratbrdZeeaZ4gebZaWa",
   "Zcratcranaoarasarambrjibrcsbrzaanaraoaualauzbanasaoasanaoaranaobrjead1mebd_ecZfebZfebZfebZce",
   "cZbtasauavbtaZavdsbvjZcWbvbZleaZzeaZseaZbeaZoebZne1bZ3WeeZcrdZ1mkcZiv1ujdkqvbkcvaZmvcZav1oZ1",
   "mvaf4bZYecZ1qeoZafWkdZ.edkiZteajheajeZ1feefeZZeaZar1dedZhearej1jZ1ha1hb2nebZjifZ1dadZ1dbdZ1h",
   "ehZ1tekZarkaaZoaaZgaaZbaaZkbaZobaZgbaZbbcZ1telZ9weiZvejZhexZfdaZ1jdaZid2eZfebZaeaZ1leaZbecZa",
   "ebZweaZarhkwebvgk_ehZik1pZseaZbeeZekvefkcZarzeeZar1.Z1xedZbkbepkbZ1nkaecfaZbfeZdfdeaZceaZYeb",
   "ZcfdZafikgZirgZYebkarYeck.ZheavXebfdZekgriZ1vecZgrvebZhkseeZhkregZdrlZgk2pZ2ie1wZ1samZ1sbgZf",
   "k1dedfhZjifZjideadaevacZefamadvbhZbs6pZ_kaZ1jeaZbfambZbepZce1wZdfYejkaehZvekfdkervZredfdr1fZ",
   "uegktZweiZagafag1ueofgrdZtkjiafbebfaeiZcfag1mecgdfbgbfbraWdrafjZaWbZyegZjifZcf1deefaghfaZjid",
   "raebgaehZ1ceafbraeiZbfag1pecgifbgdedrdfaragafjiaearaecraZtkkZreaZyecgcfbgafagbffrafbeaf1ZZge",
   "aZaeaZdeaZoeaZjearfZ1oeafcghfeZjifZbfbgaZhebZbebZveaZgeaZbeaZeeaZbfaebgafdgbZbgbZcgbZaefZage",
   "ZeebgbZgfcZefkZjeaZaebZaeaZ1feaZaecgffaZagbZagaZdgaZbgafagafaeafaebraZbrhZbfYZ1uecghfbgcfaga",
   "fdeerjibraZarafceZZ1pecgffagafdgbfagbfbearaehZji5fZ1oecgdfbZdgbfagbfwrdebf1bZ1pecghfbgafagbf",
   "craekZjifZmrsZ1keafagafbgffagafaearfZjifZtiXZWebZafagafbgdfagefdZjibkcravge5yZ1lecgifagbfar3",
   "dZ.a.bjiiklZhebZaebZheaZbeaZxefgaZbgbZbfagafaeagaeagafcriZji2fZhebZ1gecgdfbZbfdgafaearaeagWZ",
   "aejf1heffagaedfhrafhZaeffbgcf1nemfagbfcraeermZ2iegZjr5vZ1aearnZjifZieaZ1eeaggfaZffagafaeerjZ",
   "jiskcZbrZebZvfaZaggfagbfagbf2iZgeaZbeaZ1feffcZafaZbfaZgfaeafhZjifZfeaZbeaZ.eegaZbfaZbgafagaf",
   "aegZji9vZsebfbgbrgZbfaeagmeaZ1bebgefcZbgafagafmrjiaf2uZaeoZukhvdtqvmZarSze3fZ3ojaZerkZ6de2Il",
   "Z3aebrmZ11pepWaffeofjZ3SWeeZIge6LyZZelfcgcfji1MfZHyegZ_eaZjidZbr2oeaZjifZZebZefarjZ1pegferdv",
   "ddaravjZjiaZgkaZueeZseDpZcd1hebdcrji6fZ.a.bwkdr3eZ2kedZafae1wggZdfmd1.ZbdaradafkZbgnZ5VxehZ1",
   "6ve1iZje8NgZddaZgdaZbdaZ9ceoZaeYZcebZaenZdehZCle28dZ3keeZmecZiegZjebZavbfardW3QXZ7pvjifZDtv2",
   "lZ1nfbZwfiZ3tv1XZ7vvjZ1gvbZ1XvbgcfcvfghWhfbvgfZvdf1YvuZ2bvcfav3zZtklZtklZ2wviZyk4gZzazbzagba",
   "ZrbzazbaaaZbabZaabZbabZdaaZhadbaZabaZgbaZkbzazbbaaZdabZhaaZgaaZzbbaaZdaaZeaaZaacZgaaZzbzazbz",
   "azbzazbzazbzazbzaXbbZyaasybasfbyaasybasfbyaasybasfbyaasybasfbyaasybasfbaaabbZ1riF.v1wfdv1rfh",
   "vafnvafbveroZefaZof12pZjbaetbfZfb6uZgfaZqfbZgfaZbfaZefeZ1Zd1aZaf3pZ1mecZgfgdbZjidZaeav9.ZZea",
   "fqZ1ledfjieZatEpZWeaddfji6vZZebfaejidZarE.ZgeaZdeaZbeaZoeaZ6eebZikgf1iZ1ba1bbgfaddZjidZbrOqZ",
   "1Wkavckatdk2lZ1mkavok6bZdeaZWeaZbeaZaebZaeaZjeaZdeaZaeaZaefZaedZaeaZaeaZaeaZceaZbeaZaebZaeaZ",
   "aeaZaeaZaeaZaeaZbeaZaebZdeaZgeaZdeaZdeaZaeaZjeaZqeeZceaZeeaZqe1tZbs8nZ1lvdZ3dvlZovbZovaZovaZ",
   "1evjZmk5av1xZYvmZ1lvdZivgZbvnZfv4zZ7WveuMxvdZqvcZmvcZ3wvdZ2_vfZlvdZavoZlvdZ1xvhZjvfZ1hvhZZvb",
   "ZlvdZbv1ZZAtvlZnvbZmvcZjveZ1xvgZovbZkvfZivgZ4svaZ2Xvji10fZ19M.e.Z41zefZ6ZebZ5KbenZ79qeoZJne2",
   "DbZGZe1FbZ4QkeeZ42.eLN2qZaWZZ2.W3.Z7pf1VGpZ1VVZYbZ1VVZYbZ"]

/-- The code points with the numbers of their categories. -/
def classes : List (CodeRange × Nat) := Packed.partition table

/-- The characters of some categories. -/
def setOf (categories : List Category) : Charset :=
  Packed.pick classes fun label => (all[label]?).any categories.contains

/-- The names of the categories and of their groups, without case and separators. -/
def names : List (List String × List Category) :=
  [(["lu", "uppercaseletter"], [.uppercaseLetter]),
    (["ll", "lowercaseletter"], [.lowercaseLetter]),
    (["lt", "titlecaseletter"], [.titlecaseLetter]),
    (["lm", "modifierletter"], [.modifierLetter]),
    (["lo", "otherletter"], [.otherLetter]),
    (["mn", "nonspacingmark"], [.nonspacingMark]),
    (["mc", "spacingmark"], [.spacingMark]),
    (["me", "enclosingmark"], [.enclosingMark]),
    (["nd", "decimalnumber", "digit"], [.decimalNumber]),
    (["nl", "letternumber"], [.letterNumber]),
    (["no", "othernumber"], [.otherNumber]),
    (["pc", "connectorpunctuation"], [.connectorPunctuation]),
    (["pd", "dashpunctuation"], [.dashPunctuation]),
    (["ps", "openpunctuation"], [.openPunctuation]),
    (["pe", "closepunctuation"], [.closePunctuation]),
    (["pi", "initialpunctuation"], [.initialPunctuation]),
    (["pf", "finalpunctuation"], [.finalPunctuation]),
    (["po", "otherpunctuation"], [.otherPunctuation]),
    (["sm", "mathsymbol"], [.mathSymbol]),
    (["sc", "currencysymbol"], [.currencySymbol]),
    (["sk", "modifiersymbol"], [.modifierSymbol]),
    (["so", "othersymbol"], [.otherSymbol]),
    (["zs", "spaceseparator"], [.spaceSeparator]),
    (["zl", "lineseparator"], [.lineSeparator]),
    (["zp", "paragraphseparator"], [.paragraphSeparator]),
    (["cc", "control", "cntrl"], [.control]),
    (["cf", "format"], [.format]),
    (["co", "privateuse"], [.privateUse]),
    (["cn", "unassigned"], [.unassigned]),
    (["l", "letter"],
      [.uppercaseLetter, .lowercaseLetter, .titlecaseLetter, .modifierLetter, .otherLetter]),
    (["lc", "casedletter"],
      [.uppercaseLetter, .lowercaseLetter, .titlecaseLetter]),
    (["m", "mark", "combiningmark"],
      [.nonspacingMark, .spacingMark, .enclosingMark]),
    (["n", "number"],
      [.decimalNumber, .letterNumber, .otherNumber]),
    (["p", "punctuation", "punct"],
      [.connectorPunctuation, .dashPunctuation, .openPunctuation, .closePunctuation, .initialPunctuation, .finalPunctuation, .otherPunctuation]),
    (["s", "symbol"],
      [.mathSymbol, .currencySymbol, .modifierSymbol, .otherSymbol]),
    (["z", "separator"],
      [.spaceSeparator, .lineSeparator, .paragraphSeparator]),
    (["c", "other"],
      [.control, .format, .surrogate, .privateUse, .unassigned])]

/-- The characters of a category or of a group of categories. The last three names are no
categories and are accepted with them. -/
def named? (name : String) : Option Charset :=
  match name with
  | "any" => some .all
  | "ascii" => some (.range 0 0x7F)
  | "assigned" => some (setOf [.unassigned]).complement
  | _ => (names.find? fun entry => entry.1.contains name).map fun entry => setOf entry.2

end Category

end Stencil.Unicode
