/-
This file shows that the slices exist that are taken while a range is read: those of the line in progress, of
directive text and its tokens, and of the segments of a line.
-/
import Stencil.Proofs.Line.Pieces
import Stencil.Proofs.Line.Rows
import Stencil.Proofs.Token.Scan

namespace Stencil

/-- The slices of a token exist: its text, what a string has between its delimiters, and the path of an
accessor behind its dollar sign. -/
structure Token.Sliced (source : Text) (token : Token) : Prop where
  whole : Text.slice? source token.start token.stop = some token.text
  inner : token.kind = .quoted ∨ token.kind = .backticked →
    Text.slice? source (token.start + 1) (token.stop - 1) = some token.inner
  path : token.kind = .accessor → Text.slice? source (token.start + 1) token.stop = some token.path

theorem Token.LiesBehind.sliced {source : Text} {offset : Nat} {token : Token}
    (lies : token.LiesBehind source offset) : token.Sliced source where
  whole := lies.lies.slice?
  inner strings := by
    obtain ⟨delimiter, inside, narrow, same⟩ := lies.shaped.delimited strings
    have inner : token.inner = inside := by
      rw [Token.inner, same, List.drop_one, List.tail_cons, List.dropLast_concat]
    have part := lies.lies
    rw [same] at part
    have slice := (Text.LiesAt.part [delimiter] [delimiter] part).slice?
    have size : token.stop - 1 = token.start + 1 + Text.byteSize inside := by
      rw [Token.stop, same]
      simp only [Text.byteSize_cons, Text.byteSize_append, Text.byteSize_nil, narrow]
      omega
    rw [Text.byteSize_cons, Text.byteSize_nil, narrow] at slice
    rw [inner, size]
    exact slice
  path accessor := by
    obtain ⟨path, same⟩ := lies.shaped.signed accessor
    have part := lies.lies
    rw [same] at part
    have slice := (Text.LiesAt.part ['$'] [] (by simpa using part)).slice?
    have size : token.stop = token.start + 1 + Text.byteSize path := by
      have signSize : '$'.utf8Size = 1 := rfl
      rw [Token.stop, same, Text.byteSize_cons, signSize, Nat.add_assoc]
    rw [Token.path, same, List.drop_one, List.tail_cons, size]
    exact slice

namespace Line

/-- The slices of a line in progress exist whose characters are read up to an offset: these characters, its
text without the carriage return, and what is left of directive text between two lexemes. -/
structure Draft.Sliced (recogniser : Recogniser) (source : Text) (offset : Nat) (draft : Draft) :
    Prop where
  pending : Text.slice? source draft.start offset = some draft.reversed.reverse
  text : Text.slice? source draft.start (draft.start + Text.byteSize draft.text) = some draft.text
  directives : ∀ directives, recogniser.mark? draft.text = some (.opening (some directives)) →
    ∀ part rest, Lexeme.Reads directives.text part rest →
      Text.slice? source (draft.start + directives.column + Text.byteSize part)
        (draft.start + directives.column + Text.byteSize directives.text) = some rest

/-- Directive text lies where its column says. -/
theorem directives_lie {recogniser : Recogniser} {source text : Text} {start : Nat}
    (lies : Text.LiesAt source start text) {directives : DirectiveText}
    (found : recogniser.mark? text = some (.opening (some directives))) :
    Text.LiesAt source (start + directives.column) directives.text := by
  obtain ⟨before, after, rfl, column⟩ := recogniser.within _ directives found
  rw [← column]
  exact lies.part before after

/-- At each place of a range the slices of the line in progress exist. -/
theorem Draft.read_sliced (recogniser : Recogniser) {source before after : Text} {start stop : Nat}
    (cut : Text.slice? source start stop = some (before ++ after)) :
    ((Draft.fresh 0 start).read before).Sliced recogniser source (start + Text.byteSize before) := by
  obtain ⟨_, lies⟩ := Draft.read_lies cut
  obtain ⟨earlier, same, offset⟩ := (Draft.formed_fresh 0 start).read_split before
  generalize (Draft.fresh 0 start).read before = draft at lies same offset ⊢
  have whole : Text.LiesAt source draft.start draft.reversed.reverse := lies.part [] after
  have text : Text.LiesAt source draft.start draft.text := by
    obtain ⟨tail, joined, _⟩ := draft.text_append
    rw [← joined] at whole
    exact whole.part [] tail
  refine ⟨?_, text.slice?, fun directives found part rest reads => ?_⟩
  · have sizes := congrArg Text.byteSize same
    rw [Text.byteSize_append, Text.byteSize_append] at sizes
    have size : start + Text.byteSize before =
        draft.start + Text.byteSize draft.reversed.reverse := by
      rw [offset, Nat.add_assoc, ← sizes]
      exact (congrArg (start + ·) (Nat.zero_add _)).symm
    rw [size]
    exact whole.slice?
  · have lies := directives_lie text found
    rw [← reads.append] at lies ⊢
    have slice := (Text.LiesAt.part part [] (by simpa using lies)).slice?
    rw [Text.byteSize_append, ← Nat.add_assoc]
    exact slice

/-- The slices of a classified line exist: its text, its content behind the indentation, the segments at
which any replacements cut it, and those of its tokens, which stand in the line and end with an end of
line. -/
structure Sliced (source : Text) (line : Line) : Prop where
  text : Text.slice? source line.start line.stop = some line.text
  content : line.kind ≠ .empty → Text.slice? source
    (line.start + line.indentation) line.stop = some (line.text.drop line.indentation)
  segments : line.kind ≠ .empty → ∀ replacements,
    ∀ segment ∈ Segment.ofLine replacements line.text.toArray line.indentation,
      Text.slice? source (segment.piece line).start (segment.piece line).stop =
        some (segment.piece line).text
  tokens : ∀ start tokens, line.kind = .directives start tokens →
    Token.Terminated tokens ∧ ∀ token ∈ tokens, line.start ≤ token.start ∧ token.Sliced source

/-- A finished line has the tokens of its directive text. -/
theorem finish_tokens {recogniser : Recogniser} {draft : Draft} {line : Line}
    (success : draft.finish recogniser = .ok line) {source : Text}
    (lies : Text.LiesAt source line.start line.text) {start : Nat} {tokens : List Token}
    (kind : line.kind = .directives start tokens) :
    Token.Terminated tokens ∧ ∀ token ∈ tokens, token.LiesBehind source line.start := by
  obtain ⟨_, rfl⟩ | ⟨_, found, classed, rfl⟩ := Draft.finish_ok success
  · cases kind
  · dsimp only at lies kind ⊢
    subst kind
    cases Draft.kind_told classed with
    | directives mark scanned =>
        obtain ⟨terminated, behind⟩ := Token.scan_tokens scanned (directives_lie lies mark)
        refine ⟨terminated, fun token member => ?_⟩
        exact { behind token member with
          behind := Nat.le_trans (Nat.le_add_right _ _) (behind token member).behind }

/-- The slices of the lines of a range exist. -/
theorem sliced_of_lines {recogniser : Recogniser} {source : Text} {start stop : Nat}
    {lines : List Line} (success : recogniser.lines source start stop = .ok lines) :
    ∀ line ∈ lines, line.Sliced source := by
  intro line member
  obtain ⟨formed, lies⟩ := Recogniser.lines_formed success line member
  obtain ⟨before, after, _, _, finished⟩ := Recogniser.lines_read success line member
  refine
    { text := lies.slice?
      content := fun notEmpty => ?content
      segments := fun notEmpty replacements segment among => ?segments
      tokens := fun first tokens kind => ?tokens }
  case content =>
    obtain ⟨content, _, _, same⟩ := formed.indented notEmpty
    have dropped : line.text.drop line.indentation = content := by
      rw [same, List.drop_left' List.length_replicate]
    rw [same] at lies
    have slice := (Text.LiesAt.part _ [] (by simpa using lies)).slice?
    rw [Line.stop, dropped, same, Text.byteSize_append, ← Nat.add_assoc, Text.byteSize_spaces]
    rwa [Text.byteSize_spaces] at slice
  case segments =>
    have tile := Segment.ofLine_tile replacements line.text.toArray line.indentation
      (by simpa using Nat.le_of_lt (formed.indentation_lt notEmpty))
    exact (lies.take_drop segment.start segment.stop
      (Nat.le_of_lt (tile.nonempty among))).slice?
  case tokens =>
    obtain ⟨terminated, behind⟩ := finish_tokens finished lies kind
    exact ⟨terminated, fun token inside =>
      ⟨(behind token inside).behind, (behind token inside).sliced⟩⟩

end Line

end Stencil
