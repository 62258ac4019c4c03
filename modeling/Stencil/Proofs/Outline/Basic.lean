/-
This file holds outlines, which are the regions of a text as a tree, and shows that the balanced lines
have exactly one.
-/
import Stencil.Directive.Parse
import Stencil.Line.Basic

namespace Stencil

namespace Line

/-- The line opens a region. -/
def opens (line : Line) : Bool :=
  match line.kind with
  | .opening | .directives _ _ => true
  | .empty | .closing | .regular => false

/-- The line closes a region. -/
def closes (line : Line) : Bool := line.kind = .closing

/-- The line opens a region with some directives, none if it has no directive text. -/
inductive Opens (line : Line) : List Directive → Prop where
  | plain (kind : line.kind = .opening) : Opens line []
  | directed {start : Nat} {tokens : List Token} {directives : List Directive}
      (kind : line.kind = .directives start tokens)
      (parsed : Directive.parse line.number line.start tokens = .ok directives) :
      Opens line directives

theorem Opens.opens {line : Line} {directives : List Directive} (opening : line.Opens directives) :
    line.opens = true := by
  cases opening with
  | plain kind => rw [Line.opens, kind]
  | directed kind _ => rw [Line.opens, kind]

/-- A line opens one list of directives. -/
theorem Opens.unique {line : Line} {first second : List Directive} (opening : line.Opens first)
    (other : line.Opens second) : first = second := by
  cases opening with
  | plain kind =>
      cases other with
      | plain => rfl
      | directed same => simp [kind] at same
  | directed kind parsed =>
      cases other with
      | plain same => simp [kind] at same
      | directed same also =>
          rw [kind] at same
          cases same
          exact Except.ok.inj (parsed.symm.trans also)

/-- A line that opens directives has directive text. -/
theorem Opens.directed_of_ne_nil {line : Line} {directives : List Directive}
    (opening : line.Opens directives) (nonempty : directives ≠ []) :
    ∃ start tokens, line.kind = .directives start tokens := by
  cases opening with
  | plain kind => exact absurd rfl nonempty
  | directed kind _ => exact ⟨_, _, kind⟩

theorem closes_iff {line : Line} : line.closes = true ↔ line.kind = .closing := decide_eq_true_iff

theorem not_closes_of_opens {line : Line} (opening : line.opens = true) : line.closes = false := by
  cases kind : line.kind <;> simp_all [opens, closes]

theorem not_opens_of_closes {line : Line} (closing : line.closes = true) : line.opens = false := by
  rw [opens, closes_iff.1 closing]

/-- No line before the end closes more regions than are open, and at the end all are closed. Some
regions are open from the start. -/
structure Balanced (depth : Nat) (lines : List Line) : Prop where
  enough : ∀ first rest, lines = first ++ rest → first.countP closes ≤ depth + first.countP opens
  settled : lines.countP closes = depth + lines.countP opens

theorem balanced_nil {depth : Nat} : Balanced depth [] ↔ depth = 0 := by
  constructor
  · intro balanced
    simpa using balanced.settled.symm
  · rintro rfl
    exact ⟨fun first rest same => by simp [(List.append_eq_nil_iff.1 same.symm).1], rfl⟩

/-- Balance passes over a line that moves the depth up or leaves it. -/
theorem balanced_cons {depth : Nat} {line : Line} {rest : List Line} (notClosing : line.closes = false) :
    Balanced depth (line :: rest) ↔ Balanced (depth + [line].countP opens) rest := by
  have front (first : List Line) : (line :: first).countP closes = first.countP closes := by
    simp [notClosing]
  have back (first : List Line) : depth + (line :: first).countP opens =
      depth + [line].countP opens + first.countP opens := by
    rw [← List.singleton_append, List.countP_append, Nat.add_assoc]
  constructor
  · intro balanced
    refine ⟨fun first others same => ?_, ?_⟩
    · rw [← front, ← back]
      exact balanced.enough (line :: first) others (by rw [same, List.cons_append])
    · rw [← front, ← back]
      exact balanced.settled
  · intro balanced
    refine ⟨fun first others same => ?_, ?_⟩
    · cases first with
      | nil => simp
      | cons head tail =>
          obtain ⟨rfl, tails⟩ := List.cons.inj same
          rw [front, back]
          exact balanced.enough tail others tails
    · rw [front, back]
      exact balanced.settled

theorem balanced_cons_plain {depth : Nat} {line : Line} {rest : List Line}
    (between : line.opens = false ∧ line.closes = false) :
    Balanced depth (line :: rest) ↔ Balanced depth rest := by
  rw [balanced_cons between.2, List.countP_singleton, between.1, if_neg Bool.false_ne_true,
    Nat.add_zero]

theorem balanced_cons_opening {depth : Nat} {line : Line} {rest : List Line}
    (opening : line.opens = true) :
    Balanced depth (line :: rest) ↔ Balanced (depth + 1) rest := by
  rw [balanced_cons (not_closes_of_opens opening), List.countP_singleton, if_pos opening]

/-- A closing line closes one of the open regions. -/
theorem balanced_cons_closing {depth : Nat} {line : Line} {rest : List Line}
    (closing : line.closes = true) :
    Balanced depth (line :: rest) ↔ ∃ outer, depth = outer + 1 ∧ Balanced outer rest := by
  have notOpening := not_opens_of_closes closing
  have front (first : List Line) : (line :: first).countP closes = first.countP closes + 1 := by
    simp [closing]
  have back (first : List Line) : (line :: first).countP opens = first.countP opens := by
    simp [notOpening]
  constructor
  · intro balanced
    have positive := balanced.enough [line] rest rfl
    rw [front, back] at positive
    obtain ⟨outer, rfl⟩ : ∃ outer, depth = outer + 1 := ⟨depth - 1, by simp at positive; omega⟩
    refine ⟨outer, rfl, fun first others same => ?_, ?_⟩
    · have := balanced.enough (line :: first) others (by rw [same, List.cons_append])
      rw [front, back] at this
      omega
    · have := balanced.settled
      rw [front, back] at this
      omega
  · rintro ⟨outer, rfl, balanced⟩
    refine ⟨fun first others same => ?_, ?_⟩
    · cases first with
      | nil => simp
      | cons head tail =>
          obtain ⟨rfl, tails⟩ := List.cons.inj same
          have := balanced.enough tail others tails
          rw [front, back]
          omega
    · have := balanced.settled
      rw [front, back]
      omega

end Line

/-- An outline is the regions of a text and the lines between them. A region has its opening line, the
directives that the line opens, the outline inside it and its closing line. -/
inductive Outline where
  | done
  | plain (line : Line) (between : line.opens = false ∧ line.closes = false) (rest : Outline)
  | region (opening : Line) (directives : List Directive) (opens : opening.Opens directives)
      (inside : Outline) (closing : Line) (closes : closing.closes = true) (rest : Outline)

namespace Outline

/-- The lines of an outline, from first to last. -/
def lines : Outline → List Line
  | .done => []
  | .plain line _ rest => line :: rest.lines
  | .region opening _ _ inside closing _ rest =>
      opening :: (inside.lines ++ closing :: rest.lines)

@[simp] theorem lines_done : lines .done = [] := rfl

@[simp] theorem lines_plain (line : Line) (between : line.opens = false ∧ line.closes = false)
    (rest : Outline) : (plain line between rest).lines = line :: rest.lines := rfl

@[simp] theorem lines_region (opening : Line) (directives : List Directive)
    (opens : opening.Opens directives) (inside : Outline) (closing : Line)
    (closes : closing.closes = true) (rest : Outline) :
    (region opening directives opens inside closing closes rest).lines =
      opening :: (inside.lines ++ closing :: rest.lines) := rfl

/-- What holds for all lines of a region and behind it. -/
theorem forall_mem_lines_region {holds : Line → Prop} {opening closing : Line}
    {directives : List Directive} {opens : opening.Opens directives} {closes : closing.closes = true}
    {inside rest : Outline} :
    (∀ line ∈ (region opening directives opens inside closing closes rest).lines, holds line) ↔
      holds opening ∧ (∀ line ∈ inside.lines, holds line) ∧ holds closing ∧
        ∀ line ∈ rest.lines, holds line := by
  rw [lines_region, List.forall_mem_cons, List.forall_mem_append, List.forall_mem_cons]

/-- The lines after an outline do not continue it. -/
def Ends : List Line → Prop
  | [] => True
  | line :: _ => line.closes = true

theorem Ends.not_plain {line : Line} {rest : List Line} (ends : Ends (line :: rest)) :
    ¬(line.opens = false ∧ line.closes = false) := by
  rintro ⟨_, notClosing⟩
  rw [Ends, notClosing] at ends
  cases ends

theorem Ends.not_opens {line : Line} {rest : List Line} (ends : Ends (line :: rest)) :
    ¬line.opens = true :=
  Bool.eq_false_iff.1 (Line.not_opens_of_closes ends)

/-- An outline is found in one way at the front of some lines. -/
theorem lines_append_injective {first second : Outline} {rest other : List Line}
    (same : first.lines ++ rest = second.lines ++ other) (ends : Ends rest) (otherEnds : Ends other) :
    first = second ∧ rest = other := by
  induction first generalizing second rest other with
  | done =>
      cases second with
      | done => exact ⟨rfl, same⟩
      | plain line between after =>
          rw [lines_done, List.nil_append, lines_plain, List.cons_append] at same
          exact absurd between (same ▸ ends).not_plain
      | region opening directives opens inside closing closes after =>
          rw [lines_done, List.nil_append, lines_region, List.cons_append] at same
          exact absurd opens.opens (same ▸ ends).not_opens
  | plain line between after ih =>
      cases second with
      | done =>
          rw [lines_done, List.nil_append, lines_plain, List.cons_append] at same
          exact absurd between (same ▸ otherEnds).not_plain
      | plain line' between' after' =>
          simp only [lines_plain, List.cons_append, List.cons.injEq] at same
          obtain ⟨rfl, rfl⟩ := ih same.2 ends otherEnds
          obtain rfl := same.1
          exact ⟨rfl, rfl⟩
      | region opening directives opens inside closing closes after' =>
          simp only [lines_plain, lines_region, List.cons_append, List.cons.injEq] at same
          rw [same.1, opens.opens] at between
          cases between.1
  | region opening directives opens inside closing closes after insideIh afterIh =>
      cases second with
      | done =>
          rw [lines_done, List.nil_append, lines_region, List.cons_append] at same
          exact absurd opens.opens (same ▸ otherEnds).not_opens
      | plain line between after' =>
          simp only [lines_plain, lines_region, List.cons_append, List.cons.injEq] at same
          rw [← same.1, opens.opens] at between
          cases between.1
      | region opening' directives' opens' inside' closing' closes' after' =>
          simp only [lines_region, List.cons_append, List.append_assoc, List.cons.injEq] at same
          obtain ⟨rfl, tails⟩ := same
          obtain rfl := opens.unique opens'
          obtain ⟨rfl, closings⟩ := insideIh tails closes closes'
          obtain ⟨rfl, others⟩ := List.cons.inj closings
          obtain ⟨rfl, rfl⟩ := afterIh others ends otherEnds
          exact ⟨rfl, rfl⟩

/-- Lines have at most one outline. -/
theorem lines_injective {first second : Outline} (same : first.lines = second.lines) :
    first = second := by
  have whole : first.lines ++ [] = second.lines ++ [] := by rw [same]
  exact (lines_append_injective whole trivial trivial).1

end Outline

/-- The directives of every line with directive text are well formed. -/
def Line.Parsed (lines : List Line) : Prop :=
  ∀ line ∈ lines, ∀ start tokens, line.kind = .directives start tokens →
    ∃ directives, Directive.parse line.number line.start tokens = .ok directives

theorem Line.parsed_nil : Line.Parsed [] := fun _ member => (nomatch member)

/-- Lines are well formed if the first of them opens a region or none, and the others are well formed. -/
theorem Line.parsed_cons {line : Line} {rest : List Line} :
    Line.Parsed (line :: rest) ↔
      (line.opens = true → ∃ directives, line.Opens directives) ∧ Line.Parsed rest := by
  rw [Line.Parsed, List.forall_mem_cons]
  refine and_congr ⟨fun parsed opening => ?_, fun opens start tokens kind => ?_⟩ .rfl
  · cases kind : line.kind with
    | opening => exact ⟨[], .plain kind⟩
    | directives start tokens =>
        obtain ⟨directives, success⟩ := parsed start tokens kind
        exact ⟨directives, .directed kind success⟩
    | empty | closing | regular => simp [Line.opens, kind] at opening
  · obtain ⟨directives, opening⟩ := opens (by rw [Line.opens, kind])
    cases opening with
    | plain same => simp [kind] at same
    | directed same success =>
        rw [kind] at same
        cases same
        exact ⟨directives, success⟩

theorem Line.parsed_cons_of_not_opens {line : Line} {rest : List Line} (notOpening : line.opens = false) :
    Line.Parsed (line :: rest) ↔ Line.Parsed rest := by
  rw [Line.parsed_cons, notOpening]
  exact and_iff_right fun absurdly => (nomatch absurdly)

theorem Line.parsed_append {first second : List Line} :
    Line.Parsed (first ++ second) ↔ Line.Parsed first ∧ Line.Parsed second :=
  List.forall_mem_append

namespace Outline

/-- Balanced lines begin with an outline. It takes all of them, or the line that closes the innermost
of the open regions comes next. -/
theorem exists_front {depth : Nat} {lines : List Line} (balanced : Line.Balanced depth lines)
    (parsed : Line.Parsed lines) :
    (depth = 0 ∧ ∃ outline : Outline, outline.lines = lines) ∨
      ∃ (outer : Nat) (outline : Outline) (closing : Line) (rest : List Line), depth = outer + 1 ∧
        closing.closes = true ∧ lines = outline.lines ++ closing :: rest ∧ Line.Balanced outer rest := by
  induction size : lines.length using Nat.strongRecOn generalizing depth lines with
  | ind bound ih =>
      subst size
      cases lines with
      | nil => exact .inl ⟨Line.balanced_nil.1 balanced, .done, rfl⟩
      | cons line rest =>
          obtain ⟨opensOne, parsedRest⟩ := Line.parsed_cons.1 parsed
          cases closing : line.closes with
          | true =>
              obtain ⟨outer, same, settled⟩ := (Line.balanced_cons_closing closing).1 balanced
              exact .inr ⟨outer, .done, line, rest, same, closing, rfl, settled⟩
          | false =>
              cases opening : line.opens with
              | false =>
                  have between := And.intro opening closing
                  rw [Line.balanced_cons_plain between] at balanced
                  rcases ih rest.length (by simp) balanced parsedRest rfl with
                    ⟨zero, outline, rfl⟩ | ⟨outer, outline, last, others, same, closes, rfl, settled⟩
                  · exact .inl ⟨zero, .plain line between outline, rfl⟩
                  · exact .inr ⟨outer, .plain line between outline, last, others, same, closes, rfl,
                      settled⟩
              | true =>
                  obtain ⟨directives, opens⟩ := opensOne opening
                  rw [Line.balanced_cons_opening opening] at balanced
                  -- The region ends at the line that closes the depth it opened.
                  rcases ih rest.length (by simp) balanced parsedRest rfl with
                    ⟨zero, _⟩ | ⟨outer, inside, last, others, same, closes, rfl, settled⟩
                  · cases zero
                  · obtain rfl := Nat.succ.inj same
                    have parsedOthers := (Line.parsed_cons.1 (Line.parsed_append.1 parsedRest).2).2
                    have shorter : others.length < (line :: (inside.lines ++ last :: others)).length := by
                      simp only [List.length_cons, List.length_append]
                      omega
                    rcases ih others.length shorter settled parsedOthers rfl with
                      ⟨zero, after, rfl⟩ | ⟨outer, after, final, beyond, same, closes', rfl, beneath⟩
                    · exact .inl ⟨zero, .region line directives opens inside last closes after, rfl⟩
                    · exact .inr ⟨outer, .region line directives opens inside last closes after, final,
                        beyond, same, closes', by simp, beneath⟩

/-- An outline closes all that it opens. -/
theorem balanced_lines_append (outline : Outline) (depth : Nat) (rest : List Line) :
    Line.Balanced depth (outline.lines ++ rest) ↔ Line.Balanced depth rest := by
  induction outline generalizing depth rest with
  | done => rfl
  | plain line between after ih =>
      rw [lines_plain, List.cons_append, Line.balanced_cons_plain between, ih]
  | region opening directives opens inside closing closes after insideIh afterIh =>
      rw [lines_region, List.cons_append, List.append_assoc, Line.balanced_cons_opening opens.opens,
        insideIh, List.cons_append, Line.balanced_cons_closing closes]
      constructor
      · rintro ⟨outer, same, balanced⟩
        rw [Nat.succ.inj same]
        exact (afterIh outer rest).1 balanced
      · intro balanced
        exact ⟨depth, rfl, (afterIh depth rest).2 balanced⟩

/-- The directives of an outline are well formed. -/
theorem parsed_lines (outline : Outline) : Line.Parsed outline.lines := by
  induction outline with
  | done => exact Line.parsed_nil
  | plain line between rest ih => exact (Line.parsed_cons_of_not_opens between.1).2 ih
  | region opening directives opens inside closing closes rest insideIh restIh =>
      have after := (Line.parsed_cons_of_not_opens (Line.not_opens_of_closes closes)).2 restIh
      exact Line.parsed_cons.2 ⟨fun _ => ⟨directives, opens⟩, Line.parsed_append.2 ⟨insideIh, after⟩⟩

/-- Lines have an outline if and only if they are balanced and their directives are well formed. -/
theorem exists_iff {lines : List Line} :
    (∃ outline : Outline, outline.lines = lines) ↔ Line.Balanced 0 lines ∧ Line.Parsed lines := by
  constructor
  · rintro ⟨outline, rfl⟩
    refine ⟨?_, outline.parsed_lines⟩
    rw [← List.append_nil outline.lines, balanced_lines_append, Line.balanced_nil]
  · rintro ⟨balanced, parsed⟩
    rcases exists_front balanced parsed with ⟨_, found⟩ | ⟨outer, _, _, _, same, _⟩
    · exact found
    · cases same

end Outline

end Stencil
