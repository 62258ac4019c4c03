/-
This file places the lines of an outline: which directives are open at a line, what the line gives to a
template, and which rules its directives must keep.
-/
import Stencil.Assembly.Step
import Stencil.Proofs.Outline.Basic
import Stencil.Proofs.Template.Mark

namespace Stencil

namespace Directive

/-- The directive names a template. -/
def isDefine (directive : Directive) : Bool := directive.instruction.keyword = .define

/-- The directive replaces its region by a value. -/
def isInsert (directive : Directive) : Bool := directive.instruction.keyword = .insert

/-- The name that a definition gives. -/
def name? (directive : Directive) : Option Text :=
  match directive.instruction with
  | .define name => some name
  | .replace .. | .foreach .. | .insert _ => none

/-- The compiled pattern of a replacement. -/
def pattern? (directive : Directive) : Option Pattern :=
  match directive.instruction with
  | .replace text _ _ => Pattern.compile? text
  | .define _ | .foreach .. | .insert _ => none

/-- The pattern compiles, if the directive has one. -/
def compiles (directive : Directive) : Bool :=
  match directive.instruction with
  | .replace text _ _ => (Pattern.compile? text).isSome
  | .define _ | .foreach .. | .insert _ => true

/-- The region that a directive opens at an indentation. A definition opens a template instead. -/
def region? (indentation : Nat) (directive : Directive) : Option Region :=
  match directive.instruction with
  | .define _ => none
  | .replace _ field flags => some (.replace field flags #[])
  | .foreach item collection => some (.foreach item collection)
  | .insert field => some (.insert indentation field)

theorem region?_isSome (indentation : Nat) (directive : Directive) :
    (directive.region? indentation).isSome = !directive.isDefine := by
  cases same : directive.instruction <;> simp [region?, isDefine, same, Instruction.keyword]

/-- The marks that directives open at an indentation. -/
def openings (indentation : Nat) (directives : List Directive) : List Mark :=
  (directives.filterMap (Directive.region? indentation)).map .opening

/-- The marks that the same directives close. -/
def closings (directives : List Directive) : List Mark :=
  (directives.reverse.filter fun directive => !directive.isDefine).map fun _ => .closing

theorem openings_cons {indentation : Nat} {directive : Directive} {region : Region}
    (opens : directive.region? indentation = some region) (rest : List Directive) :
    openings indentation (directive :: rest) = [.opening region] ++ openings indentation rest := by
  rw [openings, List.filterMap_cons_some opens, List.map_cons, openings, List.singleton_append]

theorem closings_cons {indentation : Nat} {directive : Directive} {region : Region}
    (opens : directive.region? indentation = some region) (rest : List Directive) :
    closings (directive :: rest) = closings rest ++ [.closing] := by
  have notDefine : directive.isDefine = false := by
    have := directive.region?_isSome indentation
    rw [opens] at this
    simpa using this.symm
  simp [closings, notDefine]

/-- A definition has no marks. -/
theorem openings_define {directive : Directive} {name : Text}
    (instruction : directive.instruction = .define name) (indentation : Nat) (rest : List Directive) :
    openings indentation (directive :: rest) = openings indentation rest := by
  have none : directive.region? indentation = .none := by rw [region?, instruction]
  rw [openings, List.filterMap_cons_none none, openings]

theorem closings_define {directive : Directive} {name : Text}
    (instruction : directive.instruction = .define name) (rest : List Directive) :
    closings (directive :: rest) = closings rest := by
  have defines : directive.isDefine = true := by simp [isDefine, instruction, Instruction.keyword]
  simp [closings, defines]

/-- A directive may open while others are open. A text that defines templates needs a definition at its
top level and nowhere else, nothing opens inside an insertion, and a pattern must compile. -/
structure Admitted (mode : Assembly.Mode) (opened : List Directive) (directive : Directive) : Prop where
  defines : directive.isDefine = true ↔ mode = .multiple ∧ opened = []
  outside : ∀ other ∈ opened, other.isInsert = false
  compiles : directive.compiles = true

/-- The directives of a line may open one after another. -/
def AllAdmitted (mode : Assembly.Mode) (opened directives : List Directive) : Prop :=
  ∀ before directive after, directives = before ++ directive :: after →
    directive.Admitted mode (opened ++ before)

theorem allAdmitted_nil (mode : Assembly.Mode) (opened : List Directive) :
    AllAdmitted mode opened [] := by
  intro before directive after same
  cases before <;> cases same

theorem allAdmitted_cons {mode : Assembly.Mode} {opened rest : List Directive} {directive : Directive} :
    AllAdmitted mode opened (directive :: rest) ↔
      directive.Admitted mode opened ∧ AllAdmitted mode (opened ++ [directive]) rest := by
  constructor
  · intro admitted
    refine ⟨by simpa using admitted [] directive rest rfl, fun before other after same => ?_⟩
    rw [List.append_assoc]
    exact admitted (directive :: before) other after (by rw [same, List.cons_append])
  · rintro ⟨first, others⟩ before other after same
    cases before with
    | nil =>
        obtain ⟨rfl, _⟩ := List.cons.inj same
        simpa using first
    | cons head tail =>
        obtain ⟨rfl, tails⟩ := List.cons.inj same
        have := others tail other after tails
        rwa [List.append_assoc] at this

/-- The last directive may open if the others may and it may behind them. -/
theorem allAdmitted_concat {mode : Assembly.Mode} {opened directives : List Directive}
    {directive : Directive} :
    AllAdmitted mode opened (directives ++ [directive]) ↔
      AllAdmitted mode opened directives ∧ directive.Admitted mode (opened ++ directives) := by
  induction directives generalizing opened with
  | nil =>
      rw [List.nil_append, allAdmitted_cons, List.append_nil, and_comm,
        and_congr_right fun _ => Iff.rfl]
      exact and_congr_left fun _ => iff_of_true (allAdmitted_nil _ _) (allAdmitted_nil _ _)
  | cons first rest ih =>
      rw [List.cons_append, allAdmitted_cons, allAdmitted_cons, ih, List.append_assoc,
        List.singleton_append, and_assoc]

end Directive

/-- The segments of a line under some patterns. -/
def Line.segments (line : Line) (patterns : List Pattern) : List Segment :=
  Segment.ofLine (patterns.map fun pattern => ⟨pattern, 0⟩) line.text.toArray line.indentation

/-- The pieces of a line under some patterns, in a template with a base. -/
def Line.pieces (line : Line) (patterns : List Pattern) (base : Nat) (isLast : Bool) : List Piece :=
  let pieces := Assembly.startLine (line.indentation - base)
    ((line.segments patterns).map (Segment.piece line))
  if isLast then pieces else Assembly.endLine pieces

/-- The line stands as text if it has no directives: it is not blank and has no directive text. -/
def Line.isText (line : Line) : Bool :=
  match line.kind with
  | .regular | .opening | .closing => true
  | .empty | .directives _ _ => false

theorem Line.isText_of_closes {line : Line} (closes : line.closes = true) : line.isText = true := by
  rw [isText, closes_iff.1 closes]

theorem Line.ne_empty_of_isText {line : Line} (isText : line.isText = true) : line.kind ≠ .empty := by
  intro empty
  rw [Line.isText, empty] at isText
  cases isText

/-- A placed line has the directives that are open around it, outermost first, those of the region that
it opens or closes, and whether it is the last line of the text. -/
structure Placed where
  line : Line
  around : List Directive
  own : List Directive
  isLast : Bool

namespace Placed

/-- An insertion is open at the line. -/
def inserting (placed : Placed) : Bool := placed.around.any Directive.isInsert

/-- The patterns that are active at the line. -/
def patterns (placed : Placed) : List Pattern := placed.around.filterMap Directive.pattern?

/-- The line is kept as text: it has no directive text and closes no region with directives, and no
insertion is open. -/
def isKept (placed : Placed) : Bool :=
  match placed.line.kind with
  | .regular | .opening => !placed.inserting
  | .closing => placed.own.isEmpty && !placed.inserting
  | .empty | .directives _ _ => false

/-- The line must not stand left of the base: it is kept, or it opens or closes directives. -/
def isChecked (placed : Placed) : Bool :=
  match placed.line.kind with
  | .regular | .opening => !placed.inserting
  | .directives _ _ => true
  | .closing => !placed.own.isEmpty || !placed.inserting
  | .empty => false

/-- The line feed after a line, which the last line of the text lacks. -/
def feed (placed : Placed) : Text := if placed.isLast then [] else ['\n']

/-- What the line adds to the text of a template with a base. -/
def text (base : Nat) (placed : Placed) : Text :=
  if placed.line.kind = .empty then placed.feed
  else if placed.isKept then placed.line.text.drop base ++ placed.feed
  else []

/-- What the line adds to the pieces of a template with a base. -/
def pieces (base : Nat) (placed : Placed) : List Piece :=
  if placed.line.kind = .empty then
    if placed.isLast then [] else [⟨placed.line.start, [], none, true, none⟩]
  else if placed.isKept then placed.line.pieces placed.patterns base placed.isLast
  else []

/-- What the line adds to the marks of a template with a base. -/
def marks (base : Nat) (placed : Placed) : List Mark :=
  if placed.line.opens then Directive.openings (placed.line.indentation - base) placed.own
  else if placed.line.closes then Directive.closings placed.own
  else []

/-- The line keeps the rules of a template with a base. -/
structure Admitted (mode : Assembly.Mode) (base : Nat) (placed : Placed) : Prop where
  indented : placed.isChecked = true → base ≤ placed.line.indentation
  directives : placed.line.opens = true → Directive.AllAdmitted mode placed.around placed.own

section

variable {line : Line} {around own : List Directive}

/-- A line of text without directives is kept if no insertion is open. -/
theorem isKept_nil (isText : line.isText = true) (isLast : Bool) :
    isKept ⟨line, around, [], isLast⟩ = !around.any Directive.isInsert := by
  cases kind : line.kind <;> simp_all [Line.isText, isKept, inserting]

theorem isChecked_nil (isText : line.isText = true) (isLast : Bool) :
    isChecked ⟨line, around, [], isLast⟩ = !around.any Directive.isInsert := by
  cases kind : line.kind <;> simp_all [Line.isText, isChecked, inserting]

theorem isKept_directives {start : Nat} {tokens : List Token} (kind : line.kind = .directives start tokens)
    (isLast : Bool) : isKept ⟨line, around, own, isLast⟩ = false := by
  rw [isKept, kind]

/-- A line that closes directives is not kept, but it must not stand left of the base. -/
theorem isKept_closing (closes : line.closes = true) (nonempty : own ≠ []) (isLast : Bool) :
    isKept ⟨line, around, own, isLast⟩ = false := by
  simp [isKept, Line.closes_iff.1 closes, nonempty]

theorem isChecked_closing (closes : line.closes = true) (nonempty : own ≠ []) (isLast : Bool) :
    isChecked ⟨line, around, own, isLast⟩ = true := by
  simp [isChecked, Line.closes_iff.1 closes, nonempty]

/-- A line that closes directives is admitted if it does not stand left of the base. -/
theorem admitted_closing_iff {mode : Assembly.Mode} {base : Nat} (closes : line.closes = true)
    (nonempty : own ≠ []) (isLast : Bool) :
    Admitted mode base ⟨line, around, own, isLast⟩ ↔ base ≤ line.indentation := by
  constructor
  · intro admitted
    exact admitted.indented (isChecked_closing closes nonempty isLast)
  · intro fits
    refine ⟨fun _ => fits, fun opening => ?_⟩
    rw [Line.not_opens_of_closes closes] at opening
    cases opening

/-- A line that is neither blank nor kept adds no text and no pieces. -/
theorem text_dropped {placed : Placed} (notEmpty : placed.line.kind ≠ .empty)
    (dropped : placed.isKept = false) (base : Nat) : placed.text base = [] := by
  rw [text, if_neg notEmpty, dropped, if_neg Bool.false_ne_true]

theorem pieces_dropped {placed : Placed} (notEmpty : placed.line.kind ≠ .empty)
    (dropped : placed.isKept = false) (base : Nat) : placed.pieces base = [] := by
  rw [pieces, if_neg notEmpty, dropped, if_neg Bool.false_ne_true]

theorem marks_opening (opens : line.opens = true) (base : Nat) (isLast : Bool) :
    marks base ⟨line, around, own, isLast⟩ = Directive.openings (line.indentation - base) own := by
  rw [marks, if_pos opens]

theorem marks_closing (closes : line.closes = true) (base : Nat) (isLast : Bool) :
    marks base ⟨line, around, own, isLast⟩ = Directive.closings own := by
  rw [marks, if_neg (Bool.eq_false_iff.1 (Line.not_opens_of_closes closes)), if_pos closes]

/-- A line without directives adds no marks. -/
theorem marks_nil (base : Nat) (isLast : Bool) : marks base ⟨line, around, [], isLast⟩ = [] := by
  unfold marks
  split
  · rfl
  · split <;> rfl

end

end Placed

namespace Outline

/-- The outline has no lines. -/
def isDone : Outline → Bool
  | .done => true
  | .plain .. | .region .. => false

/-- The lines of an outline in their places. Some directives are open around the outline, and it may
stand at the end of the text. -/
def placed (around : List Directive) (atEnd : Bool) : Outline → List Placed
  | .done => []
  | .plain line _ rest => ⟨line, around, [], atEnd && rest.isDone⟩ :: rest.placed around atEnd
  | .region opening directives _ inside closing _ rest =>
      ⟨opening, around, directives, false⟩ ::
        (inside.placed (around ++ directives) false ++
          ⟨closing, around, directives, atEnd && rest.isDone⟩ :: rest.placed around atEnd)

theorem isDone_iff (outline : Outline) : outline.isDone = outline.lines.isEmpty := by
  cases outline <;> rfl

/-- The places of an outline hold its lines. -/
theorem placed_map_line (outline : Outline) (around : List Directive) (atEnd : Bool) :
    (outline.placed around atEnd).map Placed.line = outline.lines := by
  induction outline generalizing around atEnd with
  | done => rfl
  | plain line between rest ih => simp [placed, ih]
  | region opening directives opens inside closing closes rest insideIh restIh =>
      simp [placed, insideIh, restIh]

/-- A block is one region of an outline. -/
structure Block where
  opening : Line
  directives : List Directive
  inside : Outline
  closing : Line

/-- The lines of a block in their places, from its opening to its closing line. No directive is open
around it. -/
def Block.placed (block : Block) : List Placed :=
  ⟨block.opening, [], block.directives, false⟩ ::
    (block.inside.placed block.directives false ++ [⟨block.closing, [], block.directives, false⟩])

/-- The blocks of an outline at all depths, in the order in which they open. -/
def blocks : Outline → List Block
  | .done => []
  | .plain _ _ rest => rest.blocks
  | .region opening directives _ inside closing _ rest =>
      ⟨opening, directives, inside, closing⟩ :: (inside.blocks ++ rest.blocks)

/-- The blocks with directives around which no directive is open. In a text that defines templates they
are the definitions. -/
def definitions : Outline → List Block
  | .done => []
  | .plain _ _ rest => rest.definitions
  | .region opening directives _ inside closing _ rest =>
      (if directives.isEmpty then inside.definitions else [⟨opening, directives, inside, closing⟩]) ++
        rest.definitions

/-- The name that the first directive of a block gives. -/
def Block.name? (block : Block) : Option Text := block.directives.head?.bind Directive.name?

/-- The lines of a definition keep the rules of a template whose base is the indentation of the
definition. -/
def Block.Admitted (block : Block) : Prop :=
  ∀ placed ∈ block.placed, placed.Admitted .multiple block.opening.indentation

/-- All names that the directives of an outline give, in order. -/
def names (outline : Outline) : List Text :=
  outline.blocks.flatMap fun block => block.directives.filterMap Directive.name?

end Outline

end Stencil
