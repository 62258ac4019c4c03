/-
This file holds the text type, its measure in bytes, the blank characters, and cuts at byte offsets.
-/

namespace Stencil

/-- A text is the list of its characters. -/
abbrev Text := List Char

/-- A span is a half open interval of byte offsets. -/
structure Span where
  start : Nat
  stop : Nat
  deriving Repr, DecidableEq

/-- The span moves right by a number of bytes. -/
def Span.shift (span : Span) (distance : Nat) : Span :=
  ⟨span.start + distance, span.stop + distance⟩

namespace Text

/-- The byte size of a text is the length of its UTF-8 form. -/
def byteSize : Text → Nat
  | [] => 0
  | character :: rest => character.utf8Size + byteSize rest

@[simp] theorem byteSize_nil : byteSize [] = 0 := rfl

@[simp] theorem byteSize_cons (character : Char) (rest : Text) :
    byteSize (character :: rest) = character.utf8Size + byteSize rest := rfl

@[simp] theorem byteSize_append (first second : Text) :
    byteSize (first ++ second) = byteSize first + byteSize second := by
  induction first with
  | nil => rw [byteSize_nil, Nat.zero_add, List.nil_append]
  | cons character rest ih => rw [List.cons_append, byteSize_cons, byteSize_cons, ih, Nat.add_assoc]

/-- The blank characters are those with the property `White_Space`. -/
def isBlank (character : Char) : Bool :=
  let code := character.toNat
  (9 ≤ code && code ≤ 13) || code == 0x20 || code == 0x85 || code == 0xA0 || code == 0x1680 ||
    (0x2000 ≤ code && code ≤ 0x200A) || code == 0x2028 || code == 0x2029 || code == 0x202F ||
    code == 0x205F || code == 0x3000

/-- A blank text has blank characters only. -/
def allBlank (text : Text) : Bool := text.all isBlank

/-- A word has at least one character and no blanks. -/
def isWord (text : Text) : Bool := !text.isEmpty && !text.any isBlank

/-- The text without the blanks before it. -/
def trimStart (text : Text) : Text := text.dropWhile isBlank

/-- The text without the blanks after it. -/
def trimEnd (text : Text) : Text := (text.reverse.dropWhile isBlank).reverse

/-- The text is empty or goes on with a blank. -/
def atWordEnd : Text → Bool
  | [] => true
  | character :: _ => isBlank character

/-- The cut at a byte offset gives both sides. It fails inside a character and past the end. -/
def splitAt? : Text → Nat → Option (Text × Text)
  | text, 0 => some ([], text)
  | [], _ + 1 => none
  | character :: rest, offset + 1 =>
      if character.utf8Size ≤ offset + 1 then
        (splitAt? rest (offset + 1 - character.utf8Size)).map fun sides =>
          (character :: sides.1, sides.2)
      else none

/-- The slice between two byte offsets exists when they are in order, in bounds and on boundaries. -/
def slice? (text : Text) (start stop : Nat) : Option Text :=
  if start ≤ stop then
    (splitAt? text start).bind fun sides =>
      (splitAt? sides.2 (stop - start)).map Prod.fst
  else none

/-- The text after a leading word, if the text begins with it. -/
def dropWord? : (word text : Text) → Option Text
  | [], text => some text
  | _ :: _, [] => none
  | expected :: word, character :: text =>
      if expected = character then dropWord? word text else none

theorem splitAt?_append {text before after : Text} {offset : Nat}
    (cut : splitAt? text offset = some (before, after)) : before ++ after = text := by
  fun_induction splitAt? text offset generalizing before after with
  | case1 text => simp_all
  | case2 => simp at cut
  | case3 character rest offset inside ih =>
      obtain ⟨sides, found, same⟩ := Option.map_eq_some_iff.1 cut
      obtain ⟨rfl, rfl⟩ := Prod.mk.inj same
      simp [ih found]
  | case4 => simp at cut

theorem splitAt?_byteSize {text before after : Text} {offset : Nat}
    (cut : splitAt? text offset = some (before, after)) : byteSize before = offset := by
  fun_induction splitAt? text offset generalizing before after with
  | case1 text => simp_all
  | case2 => simp at cut
  | case3 character rest offset inside ih =>
      obtain ⟨sides, found, same⟩ := Option.map_eq_some_iff.1 cut
      obtain ⟨rfl, rfl⟩ := Prod.mk.inj same
      simp only [byteSize_cons, ih found]
      omega
  | case4 => simp at cut

theorem splitAt?_byteSize_append (before after : Text) :
    splitAt? (before ++ after) (byteSize before) = some (before, after) := by
  induction before with
  | nil => cases after <;> rfl
  | cons character before ih =>
      have positive : 0 < character.utf8Size := Char.utf8Size_pos character
      obtain ⟨offset, total⟩ : ∃ offset, byteSize (character :: before) = offset + 1 :=
        ⟨byteSize (character :: before) - 1, by simp only [byteSize_cons]; omega⟩
      have size : offset + 1 - character.utf8Size = byteSize before := by
        rw [← total, byteSize_cons]
        omega
      have fits : character.utf8Size ≤ offset + 1 := by
        rw [← total, byteSize_cons]
        omega
      rw [total, List.cons_append, splitAt?, if_pos fits, size, ih]
      rfl

end Text

end Stencil
