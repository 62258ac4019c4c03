/-
This file holds the characters that differ in case only.
-/
import Stencil.Unicode.Packed

namespace Stencil

namespace Unicode.Folding

/-- The orbits of simple case folding. -/
def table : List String :=
  ["a2b1aab1aab1aab1aab1aab1aab1aab1aab1aab1abb1a85.ab1aab1aab1aab1aab1aab1aab1abb1a8mab1aab1aab",
   "1aab1aab1aab1aab1ab2XNh1aal1aab1aab1aab1aab1abb1a82gab1aab1aab1aab1aab1aab1aab1aab1aab1aab1a",
   "ab1aab1aab1aab1aab1aab1aab1aac1aab1aab1aab1aab1aab1aab1aab7D.a1a3zabbacbacbacbacbacbacbacbac",
   "bacbacbacbacbacbacbacbacbacbacbacbacbacbacbacbaebacbacbadbacbacbacbacbacbacbacbadbacbacbacba",
   "cbacbacbacbacbacbacbacbacbacbacbacbacbacbacbacbacbacbacbadbacbacbad6dab6sabbacbac6oabbac6nab",
   "6nabbad2pab6kab6labbac6nab6pab3bab6tab6rabbac5dab19Ibab6tab6vab4cab6wabbacbacbac6Wabbac6Wadb",
   "ac6Wabbac6zab6zabbacbac6Xabbaebad1ybfbbbdbbbdbbadbacbacbacbacbacbacbacbadbacbacbacbacbacbacb",
   "acbacbbdbbadbaebacbacbacbacbacbacbacbacbacbacbacbacbacbacbacbacbacbacbacbaebacbacbacbacbacba",
   "cbacbacbaiAHlabbadAHiabAH.abAH.abbad2fab2habbacbacbacbacbacAG.abAGYabAG_ak19Apaf19Alad19Bhab",
   "199iab19Aeae19AeabAFxab19AbafAFZamAFhaf19Adaf199kaw198vab198sc5h2u1a70fa1lbacbaebaf4cab4cab4",
   "cac3uah1gac1fab1fab1fac2aac1.ab1.ab72dab1abb1a_ab1aab1abb1a2aab1aab1acb1az1dbc1a1wab1aac1aab",
   "1aab1abb1awbb1a1qbc.bab1aab1abb1apab1aab1abb1a7AZab1aab1aaf71ta.iajbacbacbacbacbacbacbacbacb",
   "acbacbacbaehafbadbag2qab2qab2qab2qab2qab2qab2qab2qab2qab2qab2qab2qab2qab2qab2qab2qab1aab1abb",
   "1a62oab1abb1a62nab1aab1aab1aab1aab1aab1aab1aab1aab1abb1a62eab1aab1abb1a62ccb1a62cbab1aab1aab",
   "1aab1aab1aab1aab1abb1a61Yab1aab1aab1aab1aab1aa1rbbcb61eacbacbacbacbacbacbacbacbacbacbacbacba",
   "cbacbacbakbacbacbacbacbacbacbacbacbacbacbacbacbacbacbacbacbacbacbacbacbacbacbacbacbacbacbacp",
   "abbacbacbacbacbacbacbadbacbacbacbacbacbacbacbacbacbacbacbacbacbacbacbacbacbacbacbacbacbacbac",
   "bacbacbacbacbacbacbacbacbacbacbacbacbacbacbacbacbacbacbacbacbacbacbacbacbad1qab1qab1qab1qab1",
   "qab1qab1qab1qab1qab1qab1qab1qab1qab1qab1qab1qab1qab1qab1qab1qab1qab1qab1qab1qab1qab1qab1qab1",
   "qab1qab1qab1qab1qab1qab1qab1qab1qab1qab1qa2Qk73aab73aab73aab73aab73aab73aab73aab73aab73aab73",
   "aab73aab73aab73aab73aab73aab73aab73aab73aab73aab73aab73aab73aab73aab73aab73aab73aab73aab73aa",
   "b73aab73aab73aab73aab73aab73aab73aab73aab73aab73aac73aag73aad2Uaab2Uaab2Uaab2Uaab2Uaab2Uaab2",
   "Uaab2Uaab2Uaab2Uaab2Uaab2Uaab2Uaab2Uaab2Uaab2Uaab2Uaab2Uaab2Uaab2Uaab2Uaab2Uaab2Uaab2Uaab2Ua",
   "ab2Uaab2Uaab2Uaab2Uaab2Uaab2Uaab2Uaab2Uaab2Uaab2Uaab2Uaab2Uaab2Uaab2Uaab2Uaab2Uaab2Uaab2Uaad",
   "2Uaab2Uaab2UaaLb15Uqab15Uqab15Uqab15Uqab15Uqab15Uqab15Uqab15Uqab15Uqab15Uqab15Uqab15Uqab15Uq",
   "ab15Uqab15Uqab15Uqab15Uqab15Uqab15Uqab15Uqab15Uqab15Uqab15Uqab15Uqab15Uqab15Uqab15Uqab15Uqab",
   "15Uqab15Uqab15Uqab15Uqab15Uqab15Uqab15Uqab15Uqab15Uqab15Uqab15Uqab15Uqab15Uqab15Uqab15Uqab15",
   "Uqab15Uqab15Uqab15Uqab15Uqab15Uqab15Uqab15Uqab15Uqab15Uqab15Uqab15Uqab15Uqab15Uqab15Uqab15Uq",
   "ab15Uqab15Uqab15Uqab15Uqab15Uqab15Uqab15Uqab15Uqab15Uqab15Uqab15Uqab15Uqab15Uqab15Uqab15Uqab",
   "15Uqab15Uqab15Uqab15Uqab15Uqab15Uqabiabiabiabiabiabib24t12Ecbabba7q12Geae3Ngar12Hya3sbacbacb",
   "acbacbacbacbacbacbacbacbacbacbacbacbacbacbacbacbacbacbacbacbacbacbacbacbacbacbacbacbacbacbac",
   "bacbacbacbacbacbacbacbacbacbacbacbacbacbacbbcb1Wacbacbacbacbacbacbacbacbacbacbacbacbacbacbac",
   "bacbacbacbacbacbacbacbacbacbacbacbambacbacbacbacbacbacbacbacbacbacbacbacbacbacbacbacbacbacba",
   "cbacbacbacbacbacbacbacbacbacbacbacbacbacbacbacbacbacbacbacbacbacbacbacbacbacbacbacbacbaciabi",
   "abiabiabiabiabiabiajiabiabiabiabiabialiabiabiabiabiabiabiabiajiabiabiabiabiabiabiabiajiabiab",
   "iabiabiabiamiaciaciaciajiabiabiabiabiabiabiabiaj2kab2kab2wab2wab2wab2wab3eab3eab4aab4aab3qab",
   "3qab3_ab3_adiabiabiabiabiabiabiabiajiabiabiabiabiabiabiabiajiabiabiabiabiabiabiabiajiabiacja",
   "qjaniabiapiabiaehaoja9.Ya1oqabqabqabqabqabqabqabqabqabqabqabqabqabqabqabqaubaPtWabWabWabWabW",
   "abWabWabWabWabWabWabWabWabWabWabWabWabWabWabWabWabWabWabWabWabWa1Pr1qab1qab1qab1qab1qab1qab1",
   "qab1qab1qab1qab1qab1qab1qab1qab1qab1qab1qab1qab1qab1qab1qab1qab1qab1qab1qab1qab1qab1qab1qab1",
   "qab1qab1qab1qab1qab1qab1qab1qab1qab1qab1qab1qab1qab1qab1qab1qab1qab1qab1qa1rbahbacbacbahbadb",
   "albacbacbacbacbacbacbacbacbacbacbacbacbacbacbacbacbacbacbacbacbacbacbacbacbacbacbacbacbacbac",
   "bacbacbacbacbacbacbacbacbacbacbacbacbacbacbacbacbacbacbacbajbacbafbaUAobacbacbacbacbaebacbac",
   "bacbacbacbacbacbacbacbacbacbacbacbacbacbacbaubacbacbacbacbacbacbacbacbacbacbacbacbacba4ibacb",
   "acbacbacbacbacbaebacbacbacbacbacbacbacbacbacbacbacbacbacbacbacbacbacbacbacbacbacbacbacbacbac",
   "bacbacbacbacbacbalbacbadbacbacbacbacbafbafbacbac1qacbacbacbacbacbacbacbacbacbacbalTaabbacbac",
   "bacbacbacbacbacbafbacbadbaebagbacbacbaXbaKOqba10Y1aab1aab1aab1aab1aab1aab1aab1aab1aab1aab1aa",
   "b1aab1aab1aab1aab1aab1aab1aab1aab1aab1aab1aab1aab1aab1aab1aa16g1iab1iab1iab1iab1iab1iab1iab1",
   "iab1iab1iab1iab1iab1iab1iab1iab1iab1iab1iab1iab1iab1iab1iab1iab1iab1iab1iab1iab1iab1iab1iab1",
   "iab1iab1iab1iab1iab1iab1iab1iab1iab1ia4j1iab1iab1iab1iab1iab1iab1iab1iab1iab1iab1iab1iab1iab",
   "1iab1iab1iab1iab1iab1iab1iab1iab1iab1iab1iab1iab1iab1iab1iab1iab1iab1iab1iab1iab1iab1iab1ia4",
   "Z1hab1hab1hab1hab1hab1hab1hab1hab1hab1hab1hac1hab1hab1hab1hab1hab1hab1hab1hab1hab1hab1hab1ha",
   "b1hab1hab1hac1hab1hab1hab1hab1hab1hab1hac1hab1ha1Nl2aab2aab2aab2aab2aab2aab2aab2aab2aab2aab2",
   "aab2aab2aab2aab2aab2aab2aab2aab2aab2aab2aab2aab2aab2aab2aab2aab2aab2aab2aab2aab2aab2aab2aab2",
   "aab2aab2aab2aab2aab2aab2aab2aab2aab2aab2aab2aab2aab2aab2aab2aab2aab2aa4_1aab1aab1aab1aab1aab",
   "1aab1aab1aab1aab1aab1aab1aab1aab1aab1aab1aab1aab1aab1aab1aab1aab1aa2PX1aab1aab1aab1aab1aab1a",
   "ab1aab1aab1aab1aab1aab1aab1aab1aab1aab1aab1aab1aab1aab1aab1aab1aab1aab1aab1aab1aab1aab1aab1a",
   "ab1aab1aab1aaLCb1aab1aab1aab1aab1aab1aab1aab1aab1aab1aab1aab1aab1aab1aab1aab1aab1aab1aab1aab",
   "1aab1aab1aab1aab1aab1aab1aab1aab1aab1aab1aab1aab1aaULb1cab1cab1cab1cab1cab1cab1cab1cab1cab1c",
   "ab1cab1cab1cab1cab1cab1cab1cab1cab1cab1cab1cab1cab1cab1cab1cab1cab1cab1cab1cab1cab1cab1cab1c",
   "ab1c"]

/-- Code points follow one another at packed distances. -/
def steps (start : Nat) : List Nat → List Nat
  | [] => []
  | distance :: rest => (start + distance) :: steps (start + distance) rest

/-- Each orbit is its size less two, the distance of its first code point from that of the orbit
before, and the distances between its code points. -/
def orbitsFrom : (fuel start : Nat) → List Nat → List (List Nat)
  | fuel + 1, start, size :: rest =>
      let orbit := steps start (rest.take (size + 2))
      orbit :: orbitsFrom fuel (orbit.headD 0) (rest.drop (size + 2))
  | _, _, _ => []

/-- The sets of code points that simple case folding identifies. -/
def orbits : List (List Nat) :=
  let numbers := Packed.numbers table
  orbitsFrom numbers.length 0 numbers

end Unicode.Folding

namespace Charset

/-- The set with all characters that differ from one of its own in case only. -/
def fold (set : Charset) : Charset :=
  let touched := Unicode.Folding.orbits.filter fun orbit =>
    orbit.any fun code => set.containsWithin code 0 set.ranges.size
  .ofRanges (set.ranges.toList ++ (touched.flatMap fun orbit => orbit.map fun code => ⟨code, code⟩))

/-- The set with both cases of each of its ASCII letters. -/
def foldAscii (set : Charset) : Charset :=
  let toLower := (set ∩ range 0x41 0x5A).ranges.toList.map fun part =>
    (⟨part.first + 32, part.last + 32⟩ : CodeRange)
  let toUpper := (set ∩ range 0x61 0x7A).ranges.toList.map fun part =>
    (⟨part.first - 32, part.last - 32⟩ : CodeRange)
  .ofRanges (set.ranges.toList ++ toLower ++ toUpper)

end Charset

end Stencil
