/-
This file says what tokens a directive text is cut into: each is a part of the text, the strings among them
stand between their delimiters, and an end of line comes last and nowhere else.
-/
import Stencil.Proofs.Outcome
import Stencil.Proofs.Text.Slice
import Stencil.Token.Scan

namespace Stencil

namespace Lexeme

section

variable (rest : Text)

theorem read?_openParen : read? ('(' :: rest) = some (⟨some .openParen, ['(']⟩, rest) := rfl

theorem read?_closeParen : read? (')' :: rest) = some (⟨some .closeParen, [')']⟩, rest) := rfl

theorem read?_dollar : read? ('$' :: rest) = some (⟨some .accessor, '$' :: (path rest).1⟩, (path rest).2) := rfl

theorem read?_quote : read? ('"' :: rest) =
    (quotedTail? rest).map fun found => (⟨some .quoted, '"' :: found.1⟩, found.2) := rfl

theorem read?_backtick : read? ('\x60' :: rest) =
    (backtickedTail? rest).map fun found => (⟨some .backticked, '\x60' :: found.1⟩, found.2) := rfl

end

/-- A quoted string ends with its closing quote. -/
theorem quotedTail?_closed {text more after : Text} (found : quotedTail? text = some (more, after)) :
    ∃ inside, more = inside ++ ['"'] := by
  fun_induction quotedTail? text generalizing more after with
  | case1 => cases found
  | case2 rest =>
      cases found
      exact ⟨[], rfl⟩
  | case3 => cases found
  | case4 => cases found
  | case5 character rest _ ih =>
      obtain ⟨⟨tail, left⟩, closed, same⟩ := Option.map_eq_some_iff.1 found
      cases same
      obtain ⟨inside, rfl⟩ := ih closed
      exact ⟨'\\' :: character :: inside, rfl⟩
  | case6 character rest _ _ _ ih =>
      obtain ⟨⟨tail, left⟩, closed, same⟩ := Option.map_eq_some_iff.1 found
      cases same
      obtain ⟨inside, rfl⟩ := ih closed
      exact ⟨character :: inside, rfl⟩

/-- A backtick string ends with its closing backtick. -/
theorem backtickedTail?_closed {text more after : Text}
    (found : backtickedTail? text = some (more, after)) : ∃ inside, more = inside ++ ['\x60'] := by
  fun_induction backtickedTail? text generalizing more after with
  | case1 => cases found
  | case2 rest =>
      cases found
      exact ⟨[], rfl⟩
  | case3 character rest _ ih =>
      obtain ⟨⟨tail, left⟩, closed, same⟩ := Option.map_eq_some_iff.1 found
      cases same
      obtain ⟨inside, rfl⟩ := ih closed
      exact ⟨character :: inside, rfl⟩

/-- A scan has read some part of a text and comes to the rest. -/
inductive Reads (text : Text) : (part rest : Text) → Prop where
  | start : Reads text [] text
  | next {part rest after : Text} {lexeme : Lexeme} (earlier : Reads text part rest)
      (found : read? rest = some (lexeme, after)) : Reads text (part ++ lexeme.text) after

/-- What is read and what is left make up the text. -/
theorem Reads.append {text part rest : Text} (reads : Reads text part rest) : part ++ rest = text := by
  induction reads with
  | start => rfl
  | next earlier found ih => rw [List.append_assoc, read?_append found, ih]

/-- A lexeme with a class becomes a token before those that follow. -/
def emit (lexeme : Lexeme) (line column start : Nat) (tokens : List Token) : List Token :=
  match lexeme.kind? with
  | none => tokens
  | some kind => ⟨kind, start, lexeme.text, line, column⟩ :: tokens

end Lexeme

namespace Token

section

variable {line column start : Nat} {text after : Text} {lexeme : Lexeme}

/-- A scan reads the lexeme at the head of its text and goes on behind it. -/
theorem scan_read (found : Lexeme.read? text = some (lexeme, after)) :
    scan line column start text =
      (scan line (column + Text.byteSize lexeme.text) (start + Text.byteSize lexeme.text) after).map
        (lexeme.emit line column start) := by
  rw [scan]
  split
  · next none =>
      rw [found] at none
      cases none
  · next other left same =>
      rw [found] at same
      cases same
      rfl

/-- A scan is refused at a character where nothing is read. -/
theorem scan_absent {character : Char} {rest : Text} (absent : Lexeme.read? (character :: rest) = none) :
    scan line column start (character :: rest) = .error (.lexical ⟨line, column⟩ (.unexpected character)) := by
  rw [scan]
  split
  · rfl
  · next found =>
      rw [absent] at found
      cases found

@[simp] theorem scan_nil : scan line column start [] = .ok [⟨.endOfLine, start, [], line, column⟩] := by
  rw [scan]
  rfl

/-- A token is scanned if its lexeme is read. -/
theorem scan_token {kind : Kind} {part : Text} (found : Lexeme.read? text = some (⟨some kind, part⟩, after))
    {tokens : List Token}
    (later : scan line (column + Text.byteSize part) (start + Text.byteSize part) after = .ok tokens) :
    scan line column start text = .ok (⟨kind, start, part, line, column⟩ :: tokens) := by
  rw [scan_read found, later]
  rfl

end

/-- A string stands between two delimiters of one byte, and an accessor has a dollar sign before its
path. -/
structure Shaped (kind : Kind) (text : Text) : Prop where
  delimited : kind = .quoted ∨ kind = .backticked → ∃ delimiter inside,
    delimiter.utf8Size = 1 ∧ text = delimiter :: (inside ++ [delimiter])
  signed : kind = .accessor → ∃ path, text = '$' :: path

/-- A class that has no shape of its own fits every text. -/
theorem shaped_plain {kind : Kind} (text : Text)
    (plain : kind ≠ .quoted ∧ kind ≠ .backticked ∧ kind ≠ .accessor) : Shaped kind text where
  delimited strings := by
    rcases strings with quoted | backticked
    · exact absurd quoted plain.1
    · exact absurd backticked plain.2.1
  signed accessor := absurd accessor plain.2.2

theorem shaped_delimited {kind : Kind} (notAccessor : kind ≠ .accessor) {delimiter : Char}
    (narrow : delimiter.utf8Size = 1) (inside : Text) :
    Shaped kind (delimiter :: (inside ++ [delimiter])) where
  delimited _ := ⟨delimiter, inside, narrow, rfl⟩
  signed accessor := absurd accessor notAccessor

/-- The class of a punctuation character has no shape of its own and is no end of line. -/
theorem punctuation?_plain {character : Char} {kind : Kind}
    (found : Lexeme.punctuation? character = some kind) :
    (kind ≠ .quoted ∧ kind ≠ .backticked ∧ kind ≠ .accessor) ∧ kind ≠ .endOfLine := by
  unfold Lexeme.punctuation? at found
  split at found <;> cases found <;> decide

/-- A lexeme has the shape of its class, and it is no end of line. -/
theorem read?_shaped {text after : Text} {lexeme : Lexeme} {kind : Kind}
    (found : Lexeme.read? text = some (lexeme, after)) (classed : lexeme.kind? = some kind) :
    Shaped kind lexeme.text ∧ kind ≠ .endOfLine := by
  unfold Lexeme.read? at found
  split at found
  · cases found
  · next character rest =>
      split at found
      · cases found
        cases classed
      · split at found
        · cases found
          cases classed
          exact ⟨shaped_plain _ (by decide), by decide⟩
        · split at found
          · cases found
            cases classed
            exact ⟨⟨fun strings => by simp at strings, fun _ => ⟨_, rfl⟩⟩, by decide⟩
          · obtain ⟨⟨more, left⟩, closed, same⟩ := Option.map_eq_some_iff.1 found
            cases same
            cases classed
            obtain ⟨inside, rfl⟩ := Lexeme.quotedTail?_closed closed
            exact ⟨shaped_delimited (by decide) (by decide) inside, by decide⟩
          · obtain ⟨⟨more, left⟩, closed, same⟩ := Option.map_eq_some_iff.1 found
            cases same
            cases classed
            obtain ⟨inside, rfl⟩ := Lexeme.backtickedTail?_closed closed
            exact ⟨shaped_delimited (by decide) (by decide) inside, by decide⟩
          · obtain ⟨other, mark, same⟩ := Option.map_eq_some_iff.1 found
            cases same
            cases classed
            obtain ⟨plain, notEnd⟩ := punctuation?_plain mark
            exact ⟨shaped_plain _ plain, notEnd⟩

/-- An end of line comes last and nowhere else. -/
def Terminated (tokens : List Token) : Prop :=
  ∃ before last, tokens = before ++ [last] ∧ last.kind = .endOfLine ∧
    ∀ token ∈ before, token.kind ≠ .endOfLine

theorem terminated_singleton {token : Token} (ends : token.kind = .endOfLine) : Terminated [token] :=
  ⟨[], token, rfl, ends, fun other member => by cases member⟩

/-- Behind a token that is no end of line an end of line still comes last. -/
theorem terminated_cons {token : Token} (goesOn : token.kind ≠ .endOfLine) {rest : List Token} :
    Terminated (token :: rest) ↔ Terminated rest := by
  constructor
  · rintro ⟨before, last, same, ends, others⟩
    cases before with
    | nil =>
        cases same
        exact absurd ends goesOn
    | cons first before =>
        obtain ⟨rfl, rfl⟩ := List.cons.inj same
        exact ⟨before, last, rfl, ends, fun other member => others other (.tail _ member)⟩
  · rintro ⟨before, last, rfl, ends, others⟩
    exact ⟨token :: before, last, rfl, ends, List.forall_mem_cons.2 ⟨goesOn, others⟩⟩

/-- A token lies in a source behind an offset and has the shape of its class. -/
structure LiesBehind (source : Text) (offset : Nat) (token : Token) : Prop where
  behind : offset ≤ token.start
  lies : Text.LiesAt source token.start token.text
  shaped : Shaped token.kind token.text

/-- The tokens of a directive text lie where it does, and an end of line comes last. -/
theorem scan_tokens {line column start : Nat} {text : Text} {tokens : List Token}
    (success : scan line column start text = .ok tokens) {source : Text}
    (lies : Text.LiesAt source start text) :
    Terminated tokens ∧ ∀ token ∈ tokens, token.LiesBehind source start := by
  fun_induction scan line column start text generalizing tokens with
  | case1 column start _ =>
      cases success
      refine ⟨terminated_singleton rfl, List.forall_mem_singleton.2 ⟨Nat.le_refl _, lies, ?_⟩⟩
      exact shaped_plain [] ⟨nofun, nofun, nofun⟩
  | case2 => cases success
  | case3 column start text lexeme after found width =>
      rename_i ih
      obtain ⟨others, scanned, same⟩ := map_ok success
      rw [← Lexeme.read?_append found] at lies
      have rest : Text.LiesAt source (start + width) after :=
        Text.LiesAt.part lexeme.text [] (by simpa using lies)
      obtain ⟨terminated, behind⟩ := ih scanned rest
      have later : ∀ token ∈ others, token.LiesBehind source start := fun token member =>
        { behind token member with
          behind := Nat.le_trans (Nat.le_add_right _ _) (behind token member).behind }
      subst same
      cases classed : lexeme.kind? with
      | none => exact ⟨terminated, later⟩
      | some kind =>
          obtain ⟨shaped, goesOn⟩ := read?_shaped found classed
          refine ⟨(terminated_cons goesOn).2 terminated, List.forall_mem_cons.2 ⟨?_, later⟩⟩
          exact ⟨Nat.le_refl _, Text.LiesAt.part [] after (by simpa using lies), shaped⟩

/-- The tokens of a text that stands elsewhere are the tokens, displaced as the text is. -/
theorem scan_displaced {line down across right : Nat} {fault : Error → Error} {change : Token → Token}
    (refused : ∀ column character, fault (.lexical ⟨line, column⟩ (.unexpected character)) =
      .lexical ⟨line + down, column + across⟩ (.unexpected character))
    (placed : ∀ kind start text column, change ⟨kind, start, text, line, column⟩ =
      ⟨kind, start + right, text, line + down, column + across⟩) (column start : Nat) (text : Text) :
    scan (line + down) (column + across) (start + right) text =
      bimap fault (List.map change) (scan line column start text) := by
  fun_induction scan line column start text with
  | case1 column start absent =>
      rw [scan_nil]
      exact congrArg (fun token => Except.ok [token]) (placed _ _ _ _).symm
  | case2 column start character rest absent =>
      rw [scan_absent absent]
      exact congrArg Except.error (refused column character).symm
  | case3 column start text lexeme after found width =>
      rename_i ih
      rw [scan_read found, Nat.add_right_comm start, Nat.add_right_comm column, ih, bimap_map, map_bimap]
      congr 1
      funext tokens
      rw [Function.comp_apply, Lexeme.emit]
      cases lexeme.kind? with
      | none => rfl
      | some kind =>
          exact congrArg (· :: tokens.map change) (placed kind start lexeme.text column).symm

end Token

end Stencil
