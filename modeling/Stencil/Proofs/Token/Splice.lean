/-
This file shows that a scan may be split at any blanks: the tokens of two texts with blanks between them are those of
the first and, displaced, those of the second.
-/
import Stencil.Proofs.Token.Language
import Stencil.Proofs.Token.Spaced

namespace Stencil

open Text

namespace Lexeme

variable {kind : Token.Kind} {word : Text}

/-- The characters of a path are not blank. -/
theorem solid_of_isPath {path : Text} (isPath : IsPath path) :
    ∀ character ∈ path, isBlank character = false := by
  have identifier : ∀ {name : Text}, IsIdentifier name → ∀ character ∈ name, isBlank character = false := by
    rintro _ ⟨first, rest, rfl, starts, parts⟩
    exact List.forall_mem_cons.2 ⟨isBlank_of_isWordPart (isWordPart_of_isWordStart starts),
      fun character member => isBlank_of_isWordPart (parts character member)⟩
  rcases isPath with rfl | ⟨first, others, isIdentifier, identifiers, rfl⟩
  · exact nofun
  · refine List.forall_mem_append.2 ⟨identifier isIdentifier, fun character member => ?_⟩
    obtain ⟨name, among, inside⟩ := List.mem_flatMap.1 member
    rcases List.mem_cons.1 inside with rfl | inside
    · rfl
    · exact identifier (identifiers name among) character inside

/-- A word is read whatever follows it, or no word of its class has a blank. -/
theorem Spelled.closed_or_solid (spelled : Spelled ⟨some kind, word⟩) :
    Word.Closed ⟨kind, word⟩ ∨ ∀ other : Lexeme, other.Spelled → other.kind? = some kind →
      ∀ character ∈ other.text, isBlank character = false := by
  cases spelled with
  | identifier =>
      refine .inr fun other spelled same => ?_
      cases spelled <;> cases same
      next isIdentifier =>
      exact solid_of_isPath (.inr ⟨_, [], isIdentifier, nofun, by simp⟩)
  | accessor =>
      refine .inr fun other spelled same => ?_
      cases spelled <;> cases same
      next isPath =>
      exact List.forall_mem_cons.2 ⟨rfl, solid_of_isPath isPath⟩
  | quoted body =>
      refine .inl fun rest => ?_
      rw [Word.Leads, List.cons_append, List.append_assoc]
      exact read?_quoted body rest
  | backticked bare => exact .inl (Word.backticked_closed bare)
  | openParen => exact .inl Word.openParen_closed
  | closeParen => exact .inl Word.closeParen_closed
  | comma => exact .inl Word.comma_closed
  | colon => exact .inl Word.colon_closed

/-- A text without blanks that begins a text reaches no blank in it. -/
theorem prefix_of_solid {part before after : Text} {blank : Char} (isBlank : Text.isBlank blank = true)
    (solid : ∀ character ∈ part, Text.isBlank character = false)
    (leads : part <+: before ++ blank :: after) : part <+: before := by
  have reaches : before ++ [blank] <+: before ++ blank :: after := ⟨after, by simp⟩
  have absurdly {text : Text} (within : before ++ [blank] <+: text) (same : text = part) : False := by
    have inside : blank ∈ part := same ▸ within.subset (List.mem_append_right _ (List.mem_singleton_self _))
    rw [solid blank inside] at isBlank
    cases isBlank
  rcases List.prefix_or_prefix_of_prefix leads reaches with within | beyond
  · rcases List.prefix_concat_iff.1 within with same | within
    · exact (absurdly (List.prefix_refl _) same.symm).elim
    · exact within
  · exact (absurdly beyond rfl).elim

/-- A word that is read is read too if a blank and any text follow. -/
theorem read?_before_blank {text after : Text} (found : read? text = some (⟨some kind, word⟩, after))
    {blank : Char} (isBlank : Text.isBlank blank = true) (rest : Text) :
    read? (text ++ blank :: rest) = some (⟨some kind, word⟩, after ++ blank :: rest) := by
  obtain ⟨rfl, longest⟩ := read?_eq_some_iff.1 found
  rw [List.append_assoc]
  rcases longest.spelled.closed_or_solid with closed | solid
  · exact closed _
  · refine read?_eq_some_iff.2 ⟨rfl, longest.spelled, fun other spelled same leads => ?_⟩
    rw [← List.append_assoc] at leads
    exact longest.longest other spelled same (prefix_of_solid isBlank (solid other spelled same) leads)

end Lexeme

/-- A lexical error stands some bytes to the right in its line. -/
def Error.displace (distance : Nat) : Error → Error
  | .lexical place fault => .lexical ⟨place.line, place.column + distance⟩ fault
  | error => error

namespace Token

/-- The token stands some bytes to the right in its line. -/
def displace (distance : Nat) (token : Token) : Token :=
  { token with start := token.start + distance, column := token.column + distance }

variable {line column start : Nat}

/-- Blanks before a text leave no token. -/
theorem scan_skip {blanks : Text} (blank : allBlank blanks = true) (rest : Text) :
    scan line column start (blanks ++ rest) =
      scan line (column + byteSize blanks) (start + byteSize blanks) rest := by
  have inner : allBlank (rest.takeWhile isBlank) = true :=
    List.all_eq_true.2 fun _ => List.mem_takeWhile_imp
  have solid : ∀ first ∈ (rest.dropWhile isBlank).head?, isBlank first = false :=
    fun first head => Bool.eq_false_iff.2 fun blank => by
      have := List.head?_dropWhile_not isBlank rest
      rw [Option.mem_def.1 head] at this
      simp [blank] at this
  have outer : allBlank (blanks ++ rest.takeWhile isBlank) = true := by
    rw [allBlank, List.all_append, ← allBlank, ← allBlank, blank, inner]
    rfl
  have whole : rest.takeWhile isBlank ++ rest.dropWhile isBlank = rest := List.takeWhile_append_dropWhile
  calc scan line column start (blanks ++ rest)
      = scan line column start ((blanks ++ rest.takeWhile isBlank) ++ rest.dropWhile isBlank) := by
        rw [List.append_assoc, whole]
    _ = scan line (column + byteSize blanks) (start + byteSize blanks)
          (rest.takeWhile isBlank ++ rest.dropWhile isBlank) := by
        rw [scan_blanks outer solid, scan_blanks inner solid, byteSize_append, ← Nat.add_assoc, ← Nat.add_assoc]
    _ = scan line (column + byteSize blanks) (start + byteSize blanks) rest := by rw [whole]

/-- A lexeme before some tokens is before all of them but the last. -/
theorem emit_dropLast (lexeme : Lexeme) (words : List Token) (ending : Token) :
    (lexeme.emit line column start (words ++ [ending])).dropLast = lexeme.emit line column start words := by
  unfold Lexeme.emit
  cases lexeme.kind? with
  | none => exact List.dropLast_concat
  | some kind =>
      change ((_ :: words) ++ [ending]).dropLast = _
      exact List.dropLast_concat

/-- Before a blank a text is cut as it is alone, and the scan goes on at the blank. -/
theorem scan_before_blank {first : Text} {tokens : List Token}
    (success : scan line column start first = .ok tokens) {blank : Char} (isBlank : Text.isBlank blank = true)
    (rest : Text) :
    scan line column start (first ++ blank :: rest) =
      (scan line (column + byteSize first) (start + byteSize first) (blank :: rest)).map (tokens.dropLast ++ ·) := by
  fun_induction scan line column start first generalizing tokens with
  | case1 column start =>
      cases success
      rw [List.nil_append, byteSize_nil, Nat.add_zero, Nat.add_zero]
      cases scan line column start (blank :: rest) <;> rfl
  | case2 => cases success
  | case3 column start text lexeme after found width =>
      rename_i ih
      obtain ⟨others, scanned, rfl⟩ := map_ok success
      obtain ⟨words, rfl, _⟩ := scan_covers scanned
      have later : scan line (column + byteSize lexeme.text) (start + byteSize lexeme.text) (after ++ blank :: rest) =
          (scan line (column + byteSize text) (start + byteSize text) (blank :: rest)).map (words ++ ·) := by
        have behind := ih scanned
        rw [List.dropLast_concat, Nat.add_assoc, Nat.add_assoc, ← byteSize_append, Lexeme.read?_append found] at behind
        exact behind
      obtain ⟨same, longest⟩ := Lexeme.read?_eq_some_iff.1 found
      change _ = Except.map ((lexeme.emit line column start _).dropLast ++ ·) _
      rw [emit_dropLast]
      obtain ⟨kind?, word⟩ := lexeme
      cases kind? with
      | none =>
          cases longest.spelled with
          | blanks _ blank =>
              change _ = Except.map (words ++ ·) _
              rw [← later, same, List.append_assoc, scan_skip blank]
      | some kind =>
          rw [scan_read (Lexeme.read?_before_blank found isBlank rest), later]
          cases scan line (column + byteSize text) (start + byteSize text) (_ :: rest) <;> rfl

/-- Some bytes to the right in its line a text is cut or refused as it is, displaced by these bytes. -/
theorem scan_right (distance : Nat) (text : Text) :
    scan line (column + distance) (start + distance) text =
      bimap (Error.displace distance) (List.map (displace distance)) (scan line column start text) :=
  @scan_displaced line 0 distance distance (Error.displace distance) (displace distance) (fun _ _ => rfl)
    (fun _ _ _ _ => rfl) column start text

/-- With blanks between them, a text that is cut is followed by the displaced outcome of the other text. -/
theorem scan_splice {first blanks : Text} {words : List Token} {ending : Token}
    (success : scan line column start first = .ok (words ++ [ending])) (nonempty : blanks ≠ [])
    (blank : allBlank blanks = true) (second : Text) :
    scan line column start (first ++ (blanks ++ second)) =
      (bimap (Error.displace (byteSize first + byteSize blanks))
        (List.map (displace (byteSize first + byteSize blanks))) (scan line column start second)).map
          (words ++ ·) := by
  obtain ⟨head, others, rfl⟩ := List.exists_cons_of_ne_nil nonempty
  have isBlank : Text.isBlank head = true := List.all_eq_true.1 blank head List.mem_cons_self
  rw [List.cons_append, scan_before_blank success isBlank, ← List.cons_append, scan_skip blank, Nat.add_assoc,
    Nat.add_assoc, scan_right, List.dropLast_concat]

/-- A word alone is cut into itself. -/
theorem scan_alone {kind : Kind} {word : Text} (spelled : Lexeme.Spelled ⟨some kind, word⟩) :
    scan line column start word = .ok [⟨kind, start, word, line, column⟩,
      ⟨.endOfLine, start + byteSize word, [], line, column + byteSize word⟩] := by
  obtain ⟨more, after, read, _⟩ := spelled.read? []
  have whole := Lexeme.read?_append read
  rw [List.append_assoc, List.append_cancel_left_eq, List.append_eq_nil_iff] at whole
  obtain ⟨rfl, rfl⟩ := whole
  rw [List.append_nil] at read
  exact scan_token read scan_nil

/-- Words with a space between each two of them, and behind them a space at most, are cut into the words. -/
theorem scan_intercalate {words : List Token} (spelled : ∀ token ∈ words, Lexeme.Spelled ⟨some token.kind, token.text⟩)
    {last : List Text} (ends : last = [] ∨ last = [[]]) (line column start : Nat) :
    ∃ again, scan line column start ([' '].intercalate (words.map text ++ last)) = .ok again ∧
      again.map word = words.map word ++ [⟨.endOfLine, []⟩] := by
  induction words generalizing column start with
  | nil =>
      have none : [' '].intercalate last = [] := by rcases ends with rfl | rfl <;> rfl
      refine ⟨[⟨.endOfLine, start, [], line, column⟩], ?_, rfl⟩
      rw [List.map_nil, List.nil_append, none]
      exact scan_nil
  | cons token others ih =>
      obtain ⟨here, later⟩ := List.forall_mem_cons.1 spelled
      obtain ⟨again, scanned, worded⟩ := ih later column start
      rw [List.map_cons, List.cons_append]
      cases same : others.map text ++ last with
      | nil =>
          obtain ⟨none, rfl⟩ := List.append_eq_nil_iff.1 same
          obtain rfl : others = [] := List.map_eq_nil_iff.1 none
          exact ⟨_, by rw [List.intercalate_singleton]; exact scan_alone here, rfl⟩
      | cons next rest =>
          have alone : scan line column start token.text = .ok ([⟨token.kind, start, token.text, line, column⟩] ++
              [⟨.endOfLine, start + byteSize token.text, [], line, column + byteSize token.text⟩]) :=
            scan_alone here
          have spliced := scan_splice alone (List.cons_ne_nil ' ' []) rfl
            ([' '].intercalate (others.map text ++ last))
          rw [scanned] at spliced
          refine ⟨_, by rw [List.intercalate_cons_cons, ← same, List.append_assoc]; exact spliced, ?_⟩
          rw [List.map_cons, List.cons_append, ← worded]
          simp [displace, word, Function.comp_def]

end Token

/-- A text that is cut into tokens may be followed by blanks and any text: its tokens but the end of line come
first, and then those of the other text, displaced, or its displaced error. So the texts of the tokens, joined with
spaces, are cut into the same words. -/
theorem tokens_splice_at_blanks {line column start : Nat} {first blanks : Text} {tokens : List Token}
    (success : Token.scan line column start first = .ok tokens) (nonempty : blanks ≠ [])
    (blank : Text.allBlank blanks = true) : ∃ words,
    tokens = words ++ [⟨.endOfLine, start + byteSize first, [], line, column + byteSize first⟩] ∧
    (∀ second others, Token.scan line column start second = .ok others →
      Token.scan line column start (first ++ (blanks ++ second)) =
        .ok (words ++ others.map (Token.displace (byteSize first + byteSize blanks)))) ∧
    (∀ second error, Token.scan line column start second = .error error → ∃ place fault,
      error = .lexical place fault ∧ Token.scan line column start (first ++ (blanks ++ second)) =
        .error (.lexical ⟨place.line, place.column + (byteSize first + byteSize blanks)⟩ fault)) ∧
    ∀ row across begin : Nat, ∀ joined,
      joined = [' '].intercalate (tokens.map Token.text) ∨ joined = [' '].intercalate (words.map Token.text) →
      ∃ again, Token.scan row across begin joined = .ok again ∧ again.map Token.word = tokens.map Token.word := by
  obtain ⟨words, rfl, covers⟩ := Token.scan_covers success
  have splice := Token.scan_splice success nonempty blank
  have spelled : ∀ token ∈ words, Lexeme.Spelled ⟨some token.kind, token.text⟩ := fun token member => by
    obtain ⟨_, _, _, _, _, longest⟩ := (covers.longest token member).split
    exact longest.spelled
  refine ⟨words, rfl, fun second others scanned => ?_, fun second error failure => ?_,
    fun row across begin joined same => ?_⟩
  · rw [splice, scanned]
    rfl
  · obtain ⟨_, _, _, _, _, rfl⟩ := Token.scan_refused failure
    refine ⟨_, _, rfl, ?_⟩
    rw [splice, failure]
    rfl
  · rw [List.map_append] at same
    rcases same with rfl | rfl
    · rw [List.map_append]
      exact Token.scan_intercalate spelled (.inr rfl) row across begin
    · rw [← List.append_nil (words.map Token.text), List.map_append]
      exact Token.scan_intercalate spelled (.inl rfl) row across begin

/-- The text ends with an accessor, which a dot behind it would continue, and has blanks in a string. -/
def openAccessor : Text := "f(\"a \\\" b\",$x.y".toList

theorem tokens_splice_at_blanks_accessor : ∃ words,
    (Token.scan 5 9 3 openAccessor).toOption = some (words ++ [⟨.endOfLine, 18, [], 5, 24⟩]) ∧
    Token.scan 5 9 3 (openAccessor ++ (['\u3000', ' '] ++ ['z'])) =
      .ok (words ++ [⟨.identifier, 22, ['z'], 5, 28⟩, ⟨.endOfLine, 23, [], 5, 29⟩]) ∧
    Token.scan 5 9 3 (openAccessor ++ (['\u3000', ' '] ++ ['.', 'z'])) =
      .error (.lexical ⟨5, 28⟩ (.unexpected '.')) ∧
    ∃ again, Token.scan 0 0 0 ([' '].intercalate (words.map Token.text)) = .ok again ∧
      again.map Token.kind = words.map Token.kind ++ [.endOfLine] := by
  have size : Text.byteSize openAccessor = 15 ∧ Text.byteSize ['\u3000', ' '] = 4 := by decide +kernel
  have success : (Token.scan 5 9 3 openAccessor).toOption.map List.length = some 6 := by decide +kernel
  have word : Token.scan 5 9 3 ['z'] = .ok [⟨.identifier, 3, ['z'], 5, 9⟩, ⟨.endOfLine, 4, [], 5, 10⟩] := by
    decide +kernel
  have dot : Token.scan 5 9 3 ['.', 'z'] = .error (.lexical ⟨5, 9⟩ (.unexpected '.')) := by decide +kernel
  obtain ⟨tokens, scanned, _⟩ := exists_ok success
  obtain ⟨words, rfl, splices, refuses, rejoins⟩ :=
    tokens_splice_at_blanks scanned (List.cons_ne_nil '\u3000' [' ']) (by decide)
  rw [size.1, size.2] at splices refuses
  rw [size.1] at scanned rejoins
  obtain ⟨place, fault, same, refused⟩ := refuses _ _ dot
  cases same
  obtain ⟨again, rescanned, worded⟩ := rejoins 0 0 0 _ (.inr rfl)
  refine ⟨words, by rw [scanned]; rfl, splices _ _ word, refused, again, rescanned, ?_⟩
  have kinds := congrArg (List.map Word.kind) worded
  rw [List.map_map, List.map_map, List.map_append] at kinds
  exact kinds

end Stencil
