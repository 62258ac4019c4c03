/-
This file shows which directive texts are cut into tokens: exactly those that are made of words. The tokens are the
longest words, and the order in which the classes are tried does not matter.
-/
import Stencil.Proofs.Token.Column
import Stencil.Proofs.Token.Grammar

namespace Stencil

/-- A character of two joined texts is behind the first or inside it. -/
theorem Text.behind_or_inside {part text before after : Text} {character : Char}
    (split : part ++ text = before ++ character :: after) :
    (∃ others, before = part ++ others ∧ text = others ++ character :: after) ∨
      ∃ others, part = before ++ character :: others := by
  rcases List.append_eq_append_iff.1 split with ⟨others, same, rest⟩ | ⟨others, same, rest⟩
  · exact .inl ⟨others, same, rest⟩
  · cases others with
    | nil =>
        rw [List.append_nil] at same
        exact .inl ⟨[], by rw [List.append_nil, same], rest.symm⟩
    | cons first others =>
        obtain ⟨rfl, _⟩ := List.cons.inj rest
        exact .inr ⟨others, same⟩

namespace Lexeme

/-- A text begins with lexemes, each the longest word of its class where it stands, and a rest follows. -/
inductive Munched : (text : Text) → (lexemes : List Lexeme) → (rest : Text) → Prop where
  | none (text : Text) : Munched text [] text
  | next {lexeme : Lexeme} {lexemes : List Lexeme} {after rest : Text} (longest : lexeme.Longest after)
      (others : Munched after lexemes rest) : Munched (lexeme.text ++ after) (lexeme :: lexemes) rest

/-- No word of a class stands at the head of the text. -/
def Absent (kind? : Option Token.Kind) (text : Text) : Prop :=
  ∀ word : Lexeme, word.Spelled → word.kind? = kind? → ¬word.text <+: text

/-- When classes are tried in an order, the first of them that has a word at the head of the text reads the longest
one. -/
structure FirstOf (order : List (Option Token.Kind)) (text : Text) (lexeme : Lexeme) (after : Text) : Prop where
  split : text = lexeme.text ++ after
  longest : lexeme.Longest after
  first : ∃ earlier later, order = earlier ++ lexeme.kind? :: later ∧ ∀ kind? ∈ earlier, Absent kind? text

/-- An order has every class that has words. -/
def Complete (order : List (Option Token.Kind)) : Prop := ∀ kind?, kind? ≠ some .endOfLine → kind? ∈ order

variable {order : List (Option Token.Kind)} {text after : Text} {lexeme : Lexeme}

/-- In each order that has every class the same lexeme is read. -/
theorem Complete.firstOf_iff (complete : Complete order) :
    FirstOf order text lexeme after ↔ read? text = some (lexeme, after) := by
  rw [read?_eq_some_iff]
  constructor
  · intro read
    exact ⟨read.split, read.longest⟩
  · rintro ⟨rfl, longest⟩
    refine ⟨rfl, longest, ?_⟩
    obtain ⟨earlier, later, same, fresh⟩ :=
      List.eq_append_cons_of_mem (complete _ longest.spelled.kind_ne_endOfLine)
    refine ⟨earlier, later, same, fun kind? among word spelled classed leads => fresh ?_⟩
    rw [longest.spelled.kind_unique spelled (List.prefix_append _ _) leads, classed]
    exact among

/-- In each order that has every class nothing is read at the same texts. -/
theorem Complete.absent_iff (complete : Complete order) :
    (∀ kind? ∈ order, Absent kind? text) ↔ read? text = none := by
  rw [read?_eq_none_iff]
  constructor
  · intro absent word spelled
    exact absent word.kind? (complete _ spelled.kind_ne_endOfLine) word spelled rfl
  · intro absent kind? _ word spelled _
    exact absent word spelled

/-- What is read at the head of words has words behind it. -/
theorem read?_lexical (lexical : text.Lexical) (nonempty : text ≠ []) :
    ∃ lexeme after, read? text = some (lexeme, after) ∧ after.Lexical := by
  obtain ⟨words, spelled, rfl⟩ := lexical
  cases words with
  | nil => exact absurd rfl nonempty
  | cons word others =>
      obtain ⟨here, later⟩ := List.forall_mem_cons.1 spelled
      obtain ⟨more, after, read, behind⟩ := here.read? (others.flatMap text)
      exact ⟨_, after, read, behind ⟨others, later, rfl⟩⟩

end Lexeme

namespace Token

/-- A directive text is scanned when classes are tried in an order at each place: a word of the first one that has
any is read, and where no class has a word the text is refused. -/
inductive ScansBy (order : List (Option Kind)) (line : Nat) :
    (column start : Nat) → Text → Except Error (List Token) → Prop where
  | ending (column start : Nat) :
      ScansBy order line column start [] (.ok [⟨.endOfLine, start, [], line, column⟩])
  | refused {column start : Nat} {character : Char} {rest : Text}
      (absent : ∀ kind? ∈ order, Lexeme.Absent kind? (character :: rest)) :
      ScansBy order line column start (character :: rest)
        (.error (.lexical ⟨line, column⟩ (.unexpected character)))
  | read {column start : Nat} {text after : Text} {lexeme : Lexeme} {outcome : Except Error (List Token)}
      (first : Lexeme.FirstOf order text lexeme after)
      (others : ScansBy order line (column + Text.byteSize lexeme.text) (start + Text.byteSize lexeme.text) after
        outcome) :
      ScansBy order line column start text (outcome.map (lexeme.emit line column start))

/-- A token is the longest word of its class at its place in a directive text, which starts at a column of a line
and at a byte offset. -/
structure LongestIn (line column start : Nat) (text : Text) (token : Token) : Prop where
  line : token.line = line
  goesOn : token.kind ≠ .endOfLine
  nonempty : token.text ≠ []
  split : ∃ before after, text = before ++ (token.text ++ after) ∧
    token.start = start + Text.byteSize before ∧ token.column = column + Text.byteSize before ∧
      Lexeme.Longest ⟨some token.kind, token.text⟩ after

/-- Tokens stand one behind the other in a directive text. Each is a longest word, and what is outside of them is
blank. -/
structure Covers (line column start : Nat) (text : Text) (tokens : List Token) : Prop where
  ordered : tokens.Pairwise fun first second => first.stop ≤ second.start
  longest : ∀ token ∈ tokens, token.LongestIn line column start text
  blank : ∀ before character after, text = before ++ character :: after → Text.isBlank character = false →
    ∃ token ∈ tokens, token.start ≤ start + Text.byteSize before ∧ start + Text.byteSize before < token.stop

section

variable {line column start : Nat} {text after : Text} {lexeme : Lexeme} {tokens : List Token}

/-- In each order that has every class the outcome of a scan is the same. -/
theorem scansBy_iff {order : List (Option Kind)} (complete : Lexeme.Complete order)
    {outcome : Except Error (List Token)} :
    ScansBy order line column start text outcome ↔ outcome = scan line column start text := by
  constructor
  · intro scans
    induction scans with
    | ending => exact scan_nil.symm
    | refused absent => exact (scan_absent (complete.absent_iff.1 absent)).symm
    | read first _ ih => rw [scan_read (complete.firstOf_iff.1 first), ih]
  · rintro rfl
    fun_induction scan line column start text with
    | case1 => exact .ending _ _
    | case2 column start character rest absent => exact .refused (complete.absent_iff.2 absent)
    | case3 column start text lexeme after found width ih =>
        exact .read (complete.firstOf_iff.2 found) ih

/-- Exactly the texts that are made of words are cut into tokens. -/
theorem exists_scan_iff : (∃ tokens, scan line column start text = .ok tokens) ↔ text.Lexical := by
  constructor
  · rintro ⟨tokens, success⟩
    fun_induction scan line column start text generalizing tokens with
    | case1 => exact ⟨[], List.forall_mem_nil _, rfl⟩
    | case2 => cases success
    | case3 column start text lexeme after found width ih =>
        obtain ⟨others, scanned, _⟩ := map_ok success
        obtain ⟨words, spelled, rfl⟩ := ih others scanned
        refine ⟨lexeme :: words, List.forall_mem_cons.2 ⟨Lexeme.read?_spelled found, spelled⟩, ?_⟩
        exact (Lexeme.read?_append found).symm
  · intro lexical
    fun_induction scan line column start text with
    | case1 => exact ⟨_, rfl⟩
    | case2 column start character rest absent =>
        obtain ⟨_, _, found, _⟩ := Lexeme.read?_lexical lexical (List.cons_ne_nil _ _)
        rw [absent] at found
        cases found
    | case3 column start text lexeme after found width ih =>
        have nonempty : text ≠ [] := by
          rintro rfl
          cases found
        obtain ⟨_, _, same, behind⟩ := Lexeme.read?_lexical lexical nonempty
        rw [found] at same
        cases same
        obtain ⟨tokens, scanned⟩ := ih behind
        exact ⟨_, congrArg (Except.map _) scanned⟩

theorem LongestIn.behind {token : Token} {part : Text}
    (longest : token.LongestIn line (column + Text.byteSize part) (start + Text.byteSize part) text) :
    token.LongestIn line column start (part ++ text) where
  line := longest.line
  goesOn := longest.goesOn
  nonempty := longest.nonempty
  split := by
    obtain ⟨before, after, rfl, offset, columns, word⟩ := longest.split
    refine ⟨part ++ before, after, (List.append_assoc _ _ _).symm, ?_, ?_, word⟩
    · rw [offset, Text.byteSize_append, Nat.add_assoc]
    · rw [columns, Text.byteSize_append, Nat.add_assoc]

/-- Tokens cover the blanks before the text that they cover. -/
theorem Covers.blanks {blanks : Text} (blank : Text.allBlank blanks = true)
    (covers : Covers line (column + Text.byteSize blanks) (start + Text.byteSize blanks) text tokens) :
    Covers line column start (blanks ++ text) tokens where
  ordered := covers.ordered
  longest token member := (covers.longest token member).behind
  blank before character after split solid := by
    rcases Text.behind_or_inside split with ⟨others, rfl, same⟩ | ⟨others, same⟩
    · obtain ⟨token, member, starts, stops⟩ := covers.blank others character after same solid
      rw [Text.byteSize_append, ← Nat.add_assoc]
      exact ⟨token, member, starts, stops⟩
    · have inside : character ∈ blanks := same ▸ List.mem_append_right _ List.mem_cons_self
      rw [List.all_eq_true.1 blank character inside] at solid
      cases solid

/-- With a longest word before them, tokens cover the word and the text that they cover. -/
theorem Covers.word {kind : Kind} {word : Text} (longest : Lexeme.Longest ⟨some kind, word⟩ text)
    (covers : Covers line (column + Text.byteSize word) (start + Text.byteSize word) text tokens) :
    Covers line column start (word ++ text) (⟨kind, start, word, line, column⟩ :: tokens) where
  ordered := by
    refine List.pairwise_cons.2 ⟨fun token member => ?_, covers.ordered⟩
    obtain ⟨before, _, _, offset, _⟩ := (covers.longest token member).split
    rw [offset]
    exact Nat.le_add_right _ _
  longest := by
    refine List.forall_mem_cons.2 ⟨?_, fun token member => (covers.longest token member).behind⟩
    refine ⟨rfl, fun ends => ?_, longest.spelled.text_ne_nil, [], text, rfl, rfl, rfl, longest⟩
    exact longest.spelled.kind_ne_endOfLine (congrArg some ends)
  blank before character after split solid := by
    rcases Text.behind_or_inside split with ⟨others, rfl, same⟩ | ⟨others, same⟩
    · obtain ⟨token, member, starts, stops⟩ := covers.blank others character after same solid
      rw [Text.byteSize_append, ← Nat.add_assoc]
      exact ⟨token, .tail _ member, starts, stops⟩
    · refine ⟨_, List.mem_cons_self, Nat.le_add_right _ _, ?_⟩
      have positive := Text.byteSize_pos (List.cons_ne_nil character others)
      change start + Text.byteSize before < start + Text.byteSize word
      rw [same, Text.byteSize_append]
      omega

/-- The tokens of a text cover it, and an end of line comes behind them. -/
theorem scan_covers (success : scan line column start text = .ok tokens) : ∃ words,
    tokens = words ++ [⟨.endOfLine, start + Text.byteSize text, [], line, column + Text.byteSize text⟩] ∧
      Covers line column start text words := by
  fun_induction scan line column start text generalizing tokens with
  | case1 =>
      cases success
      exact ⟨[], rfl, .nil, List.forall_mem_nil _, fun before character after split => by simp at split⟩
  | case2 => cases success
  | case3 column start text lexeme after found width =>
      rename_i ih
      obtain ⟨others, scanned, rfl⟩ := map_ok success
      obtain ⟨words, rfl, covers⟩ := ih scanned
      obtain ⟨rfl, longest⟩ := Lexeme.read?_eq_some_iff.1 found
      rw [Text.byteSize_append, ← Nat.add_assoc, ← Nat.add_assoc]
      obtain ⟨kind?, word⟩ := lexeme
      cases kind? with
      | none =>
          cases longest.spelled with
          | blanks _ blank => exact ⟨words, rfl, covers.blanks blank⟩
      | some kind => exact ⟨_, rfl, covers.word longest⟩

/-- A scan is refused behind the longest words that can be read, at a character where no word stands. -/
theorem scan_refused_munched {error : Error} (failure : scan line column start text = .error error) :
    ∃ lexemes character left, Lexeme.Munched text lexemes (character :: left) ∧
      (∀ word : Lexeme, word.Spelled → ¬word.text <+: character :: left) ∧
      error = .lexical ⟨line, column + Text.byteSize (lexemes.flatMap Lexeme.text)⟩ (.unexpected character) := by
  fun_induction scan line column start text with
  | case1 => cases failure
  | case2 column start character rest absent =>
      cases failure
      exact ⟨[], character, rest, .none _, Lexeme.read?_eq_none_iff.1 absent, rfl⟩
  | case3 column start text lexeme after found width =>
      rename_i ih
      obtain ⟨lexemes, character, left, munched, absent, rfl⟩ := ih (map_error failure)
      obtain ⟨rfl, longest⟩ := Lexeme.read?_eq_some_iff.1 found
      refine ⟨lexeme :: lexemes, character, left, .next longest munched, absent, ?_⟩
      rw [List.flatMap_cons, Text.byteSize_append, ← Nat.add_assoc]

end

end Token

/-- A slice of a source is cut into tokens exactly if it is made of words. The tokens are the longest words, only
blanks are outside of them, and one end of line stands at the stop. Otherwise the first character behind them at
which no word stands is refused. No two classes have words at one place, so in each order in which the classes may
be tried the outcome is the same. -/
theorem tokens_are_longest_words {source text : Text} {start stop : Nat}
    (cut : Text.slice? source start stop = some text) (line column : Nat) :
    ((∃ tokens, Token.scan line column start text = .ok tokens) ↔ text.Lexical) ∧
    (∀ tokens, Token.scan line column start text = .ok tokens → ∃ words,
      tokens = words ++ [⟨.endOfLine, stop, [], line, column + (stop - start)⟩] ∧
      Token.Covers line column start text words ∧
      ∀ token ∈ tokens, Text.slice? source token.start token.stop = some token.text ∧
        token.column = column + (token.start - start)) ∧
    (∀ error, Token.scan line column start text = .error error → ∃ lexemes character left,
      Lexeme.Munched text lexemes (character :: left) ∧
      (∀ word : Lexeme, word.Spelled → ¬word.text <+: character :: left) ∧
      error = .lexical ⟨line, column + Text.byteSize (lexemes.flatMap Lexeme.text)⟩ (.unexpected character)) ∧
    (∀ (first second : Lexeme) (here : Text), first.Spelled → second.Spelled → first.text <+: here →
      second.text <+: here → first.kind? = second.kind?) ∧
    ∀ order, Lexeme.Complete order → ∀ outcome,
      Token.ScansBy order line column start text outcome ↔ outcome = Token.scan line column start text := by
  obtain ⟨lies, rfl⟩ := Text.slice?_eq_some_iff.1 cut
  refine ⟨Token.exists_scan_iff, fun tokens success => ?_, fun error => Token.scan_refused_munched,
    fun _ _ _ spelled other => spelled.kind_unique other, fun order complete outcome => Token.scansBy_iff complete⟩
  obtain ⟨words, same, covers⟩ := Token.scan_covers success
  refine ⟨words, by rw [same, Nat.add_sub_cancel_left], covers, fun token member => ?_⟩
  obtain ⟨before, after, split, columns, offset, _⟩ := (Token.scan_standsIn success token member).split
  rw [split] at lies
  refine ⟨Text.slice?_eq_some_iff.2 ⟨?_, rfl⟩, by rw [columns, offset, Nat.add_sub_cancel_left]⟩
  rw [offset]
  exact Text.LiesAt.part before after (by rwa [List.append_assoc])

/-- Strings with quotes of the other kind, words without blanks between them, and a dot that no path goes on with. -/
def crowdedWords : Text := "é$a.b$\"x\\\"`\"`\"`,:(_1)　$c.".toList

theorem tokens_are_longest_words_crowded :
    (∃ text words, Text.slice? crowdedWords 2 27 = some text ∧ text.Lexical ∧
      (Token.scan 3 7 2 text).toOption = some (words ++ [⟨.endOfLine, 27, [], 3, 32⟩]) ∧
      words.map Token.start = [2, 6, 7, 13, 16, 17, 18, 19, 21, 25] ∧ Token.Covers 3 7 2 text words) ∧
    ∃ text lexemes left, Text.slice? crowdedWords 2 28 = some text ∧ ¬text.Lexical ∧
      Token.scan 3 7 2 text = .error (.lexical ⟨3, 32⟩ (.unexpected '.')) ∧
      Lexeme.Munched text lexemes ('.' :: left) := by
  obtain ⟨text, cut⟩ : ∃ text, Text.slice? crowdedWords 2 27 = some text :=
    Option.isSome_iff_exists.1 (by decide +kernel)
  obtain ⟨longer, cutLonger⟩ : ∃ text, Text.slice? crowdedWords 2 28 = some text :=
    Option.isSome_iff_exists.1 (by decide +kernel)
  have starts : (Text.slice? crowdedWords 2 27).map (fun text =>
      (Token.scan 3 7 2 text).toOption.map fun tokens => tokens.map Token.start) =
        some (some [2, 6, 7, 13, 16, 17, 18, 19, 21, 25, 27]) := by
    decide +kernel
  have refused : (Text.slice? crowdedWords 2 28).map (Token.scan 3 7 2) =
      some (.error (.lexical ⟨3, 32⟩ (.unexpected '.'))) := by
    decide +kernel
  rw [cut] at starts
  rw [cutLonger] at refused
  obtain ⟨tokens, scanned, starts⟩ := exists_ok (Option.some.inj starts)
  have refused := Option.some.inj refused
  obtain ⟨accepted, found, _⟩ := tokens_are_longest_words cut 3 7
  obtain ⟨acceptedLonger, _, munched, _⟩ := tokens_are_longest_words cutLonger 3 7
  obtain ⟨words, rfl, covers, _⟩ := found tokens scanned
  obtain ⟨lexemes, character, left, reads, _, same⟩ := munched _ refused
  injection same with _ fault
  cases fault
  refine ⟨⟨text, words, cut, accepted.1 ⟨_, scanned⟩, by rw [scanned]; rfl, ?_, covers⟩,
    longer, lexemes, left, cutLonger, fun lexical => ?_, refused, reads⟩
  · rw [List.map_append] at starts
    exact List.append_cancel_right starts
  · obtain ⟨_, success⟩ := acceptedLonger.2 lexical
    rw [refused] at success
    cases success

end Stencil
