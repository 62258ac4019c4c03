/-
This file shows that the insertions of a loaded template are leaves: the two boundaries of one stand together, and
only the blank lines inside it have pieces.
-/
import Stencil.Proofs.Load.Laid
import Stencil.Proofs.Load.Pieces
import Stencil.Proofs.Load.Regions
import Stencil.Proofs.Outline.Insertion

namespace Stencil

/-- An insertion among placed lines has its opening line, the lines inside it and its closing line. -/
structure Insertion where
  before : List Placed
  opening : Placed
  inside : List Placed
  closing : Placed
  after : List Placed

namespace Insertion

/-- The insertion stands among some lines: the last directive of its opening line inserts a field, and its closing
line is the one that closes the region of the opening line. -/
structure Among (insertion : Insertion) (lines : List Placed) (field : Text) : Prop where
  split : lines = insertion.before ++ insertion.opening :: (insertion.inside ++ insertion.closing :: insertion.after)
  opens : insertion.opening.line.opens = true
  inserts : ∃ others directive, insertion.opening.own = others ++ [directive] ∧ directive.instruction = .insert field
  closes : insertion.closing.line.closes = true
  matched : Line.Balanced 0 (insertion.inside.map Placed.line)

/-- The line breaks of the blank lines between the opening and the closing line. -/
def lineBreaks (insertion : Insertion) : List Piece := Line.lineBreaks (insertion.inside.map Placed.line)

/-- The last boundary of the opening line opens the insertion in a template over a base, the first one of the closing
line closes it, and the lines give line breaks only, and no boundaries between these. -/
structure Bare (insertion : Insertion) (base : Nat) (field : Text) : Prop where
  last : (insertion.opening.marks base).getLast? =
    some (.opening (.insert (insertion.opening.line.indentation - base) field))
  first : (insertion.closing.marks base).head? = some .closing
  opening : insertion.opening.pieces base = []
  marks : insertion.inside.flatMap (Placed.marks base) = []
  pieces : insertion.inside.flatMap (Placed.pieces base) = insertion.lineBreaks

end Insertion

/-- An insertion with its opening line is a leaf of a template over a base. Its opening boundary is the last one of
the opening line, its closing boundary comes next, and only line breaks stand between them. -/
structure Template.Leaf (template : Template) (base : Nat) (insertion : Insertion) (field : Text) (index : Nat) :
    Prop where
  numbered : index + 1 = ((insertion.before ++ [insertion.opening]).flatMap (Placed.marks base)).length
  bounded : ∃ first last site,
    template.boundaries[index]? =
      some (.opening first site (.insert (insertion.opening.line.indentation - base) field)) ∧
    template.boundaries[index + 1]? = some (.closing last site) ∧ last = first + insertion.lineBreaks.length ∧
      (template.pieces.extract first last).toList = insertion.lineBreaks
  paired : ∃ spans depth, template.regions? = some spans ∧ ⟨index, index + 1, depth⟩ ∈ spans

/-- What the insertions of a template over a base leave, and what the other lines give. -/
structure Template.Leafy (template : Template) (range : List Line) (lines : List Placed) (base : Nat) : Prop where
  /-- Each insertion is a leaf. -/
  leaves : ∀ index first site indentation field,
    template.boundaries[index]? = some (.opening first site (.insert indentation field)) →
      ∃ insertion : Insertion, insertion.Among lines field ∧ template.Leaf base insertion field index
  /-- Each regular line that stands in no insertion has a piece with text. -/
  regular : ∀ placed ∈ lines, placed.line.kind = .regular → placed.inserting = false →
    ∃ piece ∈ template.pieces, piece.text ≠ [] ∧ piece.ComesFrom range placed.line

theorem Boundary.eq_closing {boundary : Boundary} (mark : boundary.mark = .closing) :
    boundary = .closing boundary.piece boundary.site := by
  cases boundary with
  | opening => cases mark
  | closing => rfl

theorem Boundary.eq_insertion {boundary : Boundary} {indentation : Nat} {field : Text}
    (mark : boundary.mark = .opening (.insert indentation field)) :
    boundary = .opening boundary.piece boundary.site (.insert indentation field) := by
  cases boundary with
  | closing => cases mark
  | opening piece site region =>
      cases region with
      | insert =>
          cases mark
          rfl
      | foreach | replace => cases mark

/-- A boundary that closes next behind one that opens closes its region. -/
theorem Template.Follows.span_of_next {template : Template} {forest : Forest} (follows : template.Follows forest)
    {index : Nat} {region : Region}
    (opening : (template.boundaries[index]?).map Boundary.mark = some (.opening region))
    (closing : (template.boundaries[index + 1]?).map Boundary.mark = some .closing) :
    ∃ depth, ⟨index, index + 1, depth⟩ ∈ forest.spans 0 0 := by
  obtain ⟨span, member, opened⟩ := (follows.openings index).1 ⟨region, opening⟩
  obtain ⟨other, memberToo, closed⟩ := (follows.closings (index + 1)).1 closing
  have bounds := Forest.spans_bounds member
  have boundsToo := Forest.spans_bounds memberToo
  have nested : ∀ first ∈ forest.spans 0 0, ∀ second ∈ forest.spans 0 0, first = second ∨
      (Forest.Encloses first second ∨ first.closing < second.opening) ∨
        Forest.Encloses second first ∨ second.closing < first.opening := by
    intro first inFirst second inSecond
    refine List.Pairwise.forall_of_forall_of_flip (R := fun first second => first = second ∨
      (Forest.Encloses first second ∨ first.closing < second.opening) ∨
        Forest.Encloses second first ∨ second.closing < first.opening)
      (fun _ _ => .inl rfl) (follows.nested.imp ?_) (follows.nested.imp ?_) inFirst inSecond
    · exact fun related => .inr (.inl related)
    · exact fun related => .inr (.inr related)
  obtain rfl : span = other := by
    rcases nested span member other memberToo with same | (⟨_, _⟩ | _) | ⟨_, _⟩ | _
    · exact same
    all_goals omega
  obtain ⟨first, last, depth⟩ := span
  obtain rfl : first = index := opened
  obtain rfl : last = first + 1 := closed
  exact ⟨depth, member⟩

/-- A directive whose region is an insertion asks for it. -/
theorem Directive.insertion_of_region? {directive : Directive} {indentation column : Nat} {field : Text}
    (opened : directive.region? column = some (.insert indentation field)) :
    directive.instruction = .insert field ∧ indentation = column := by
  unfold Directive.region? at opened
  split at opened
  · cases opened
  · cases opened
  · cases opened
  · next instruction =>
      cases opened
      exact ⟨instruction, rfl⟩

/-- A mark of a line that opens an insertion is the last one of the line, and the insertion is its last directive. -/
theorem Placed.marks_insertion {mode : Assembly.Mode} {base offset indentation : Nat} {field : Text} {placed : Placed}
    (admitted : placed.line.opens = true → Directive.AllAdmitted mode placed.around placed.own)
    (found : (placed.marks base)[offset]? = some (.opening (.insert indentation field))) :
    placed.line.opens = true ∧ offset + 1 = (placed.marks base).length ∧
      indentation = placed.line.indentation - base ∧
        ∃ others directive, placed.own = others ++ [directive] ∧ directive.instruction = .insert field := by
  unfold marks at found ⊢
  split at found
  · next opens =>
      rw [Directive.openings, List.getElem?_map, Option.map_eq_some_iff] at found
      obtain ⟨_, found, same⟩ := found
      cases same
      rw [List.filterMap_eq_flatMap_toList] at found
      obtain ⟨others, directive, after, rest, own, rfl, located⟩ := exists_of_getElem?_flatMap found
      obtain ⟨opened, rfl⟩ : directive.region? (placed.line.indentation - base) = some (.insert indentation field) ∧
          rest = 0 := by
        cases region : directive.region? (placed.line.indentation - base) with
        | none =>
            rw [region] at located
            cases located
        | some other =>
            rw [region, Option.toList_some, List.getElem?_singleton] at located
            split at located
            · next zero => exact ⟨located, zero⟩
            · cases located
      obtain ⟨instruction, rfl⟩ := Directive.insertion_of_region? opened
      have admitted := admitted opens
      rw [own] at admitted
      obtain rfl := admitted.insertion_last (by simp [Directive.isInsert, instruction, Instruction.keyword])
      refine ⟨opens, ?_, rfl, others, directive, own, instruction⟩
      rw [if_pos opens, own, Directive.openings, List.length_map, List.filterMap_append, List.length_append,
        List.filterMap_cons_some opened, List.filterMap_eq_flatMap_toList]
      rfl
  · split at found
    · rw [Directive.closings, List.getElem?_map, Option.map_eq_some_iff] at found
      obtain ⟨_, _, same⟩ := found
      cases same
    · cases found

/-- Each mark of an insertion comes from an insertion among the lines, which is bare. -/
theorem Outline.exists_insertion {mode : Assembly.Mode} {base : Nat} {outline : Outline} {atEnd : Bool}
    (admitted : Outline.AllAdmitted mode (outline.placed [] atEnd)) {index indentation : Nat} {field : Text}
    (marked : ((outline.placed [] atEnd).flatMap (Placed.marks base))[index]? =
      some (.opening (.insert indentation field))) :
    ∃ insertion : Insertion, insertion.Among (outline.placed [] atEnd) field ∧ insertion.Bare base field ∧
      index + 1 = ((insertion.before ++ [insertion.opening]).flatMap (Placed.marks base)).length := by
  obtain ⟨before, opening, after, offset, split, position, own⟩ := exists_of_getElem?_flatMap marked
  have amongOpening : opening ∈ outline.placed [] atEnd := by simp [split]
  obtain ⟨opens, last, rfl, others, directive, ends, inserts⟩ :=
    Placed.marks_insertion (admitted opening amongOpening) own
  obtain ⟨inside, closing, rest, rfl, opened, closes, sameOwn⟩ := Outline.placed_opening split opens
  have isInsert : directive.isInsert = true := by simp [Directive.isInsert, inserts, Instruction.keyword]
  have inserting : (opening.around ++ opening.own).any Directive.isInsert = true := by simp [ends, isInsert]
  have admittedInside : Outline.AllAdmitted mode (inside.placed (opening.around ++ opening.own) false) :=
    fun placed member => admitted placed (by simp [split, member])
  refine ⟨⟨before, opening, inside.placed (opening.around ++ opening.own) false, closing, rest⟩,
    ⟨split, opens, ⟨others, directive, ends, inserts⟩, closes, ?_⟩,
    ⟨?_, ?_, ?_, Outline.marks_inserting inserting admittedInside base, ?_⟩, ?_⟩
  · rw [Outline.placed_map_line]
    exact (Outline.exists_iff.1 ⟨inside, rfl⟩).1
  · rw [List.getLast?_eq_getElem?, ← last, Nat.add_sub_cancel]
    exact own
  · have closings : closing.marks base = Directive.closings closing.own := Placed.marks_closing closes base _
    rw [closings, sameOwn, ends, Directive.closings_insertion isInsert]
    rfl
  · obtain ⟨start, tokens, kind⟩ := opened.directed_of_ne_nil (by simp [ends])
    exact Placed.pieces_dropped (by simp [kind]) (Placed.isKept_directives kind _) base
  · rw [Outline.pieces_inserting inserting base, Insertion.lineBreaks, Outline.placed_map_line]
  · rw [List.flatMap_append, List.length_append, List.flatMap_singleton, ← last, position]
    rfl

section

variable {source : Text} {template : Template} {base : Nat} {lines : List Placed}

/-- Each mark of a line is a boundary of the template behind the pieces and the sites of the lines before it. -/
theorem Template.Laid.boundary (laid : template.Laid source lines base) {before after : List Placed} {placed : Placed}
    (split : lines = before ++ placed :: after) {offset : Nat} {mark : Mark}
    (own : (placed.marks base)[offset]? = some mark) :
    ∃ boundary, template.boundaries[(before.flatMap (Placed.marks base)).length + offset]? = some boundary ∧
      boundary.mark = mark ∧ boundary.piece = (before.flatMap (Placed.pieces base)).length ∧
        boundary.site = (before.flatMap (Placed.pieces base)).countP Piece.isSite := by
  obtain ⟨inside, _⟩ := List.getElem?_eq_some_iff.1 own
  have stop := Placed.stops_getElem? base before after inside
  rw [← split, ← laid.stops, List.getElem?_map, Option.map_eq_some_iff] at stop
  obtain ⟨boundary, held, stop⟩ := stop
  have marks := congrArg (·[(before.flatMap (Placed.marks base)).length + offset]?) laid.marks
  have number : boundary.site = Piece.sitesBefore template.pieces.toList boundary.piece := by
    obtain ⟨_, ledger⟩ := laid.sound.ledger
    exact (ledger.placed boundary (List.mem_of_getElem? held)).2
  refine ⟨boundary, (Array.getElem?_toList ..).symm.trans held, ?_, stop, ?_⟩
  · rw [List.getElem?_map, held, split, List.flatMap_append, List.flatMap_cons,
      List.getElem?_append_right (Nat.le_add_right _ _), Nat.add_sub_cancel_left, List.getElem?_append_left inside,
      own] at marks
    exact Option.some.inj marks
  · rw [number, stop, Piece.sitesBefore, laid.pieces, split, List.flatMap_append, List.take_left]

/-- A bare insertion is a leaf. -/
theorem Template.Laid.leaf (laid : template.Laid source lines base) {forest : Forest}
    (follows : template.Follows forest) {insertion : Insertion} {field : Text}
    (among : insertion.Among lines field) (bare : insertion.Bare base field) {index : Nat}
    (numbered : index + 1 = ((insertion.before ++ [insertion.opening]).flatMap (Placed.marks base)).length) :
    template.Leaf base insertion field index := by
  obtain ⟨before, opening, inside, closing, after⟩ := insertion
  obtain ⟨last, first, noPieces, noMarks, breaks⟩ := bare
  have split := among.split
  dsimp only at split last first noPieces noMarks breaks numbered
  rw [List.getLast?_eq_getElem?] at last
  rw [List.head?_eq_getElem?] at first
  -- The closing line comes behind lines with no more boundaries than the opening line has.
  have splitToo : lines = (before ++ opening :: inside) ++ closing :: after := by
    rw [split, List.append_assoc, List.cons_append]
  have marksBefore : (before ++ opening :: inside).flatMap (Placed.marks base) =
      (before ++ [opening]).flatMap (Placed.marks base) := by
    rw [List.flatMap_append, List.flatMap_append, List.flatMap_cons, noMarks, List.append_nil, List.flatMap_singleton]
  have piecesBefore : (before ++ opening :: inside).flatMap (Placed.pieces base) =
      before.flatMap (Placed.pieces base) ++ inside.flatMap (Placed.pieces base) := by
    rw [List.flatMap_append, List.flatMap_cons, noPieces, List.nil_append]
  obtain ⟨opened, foundOpened, markOpened, stopOpened, siteOpened⟩ := laid.boundary split last
  obtain ⟨closed, foundClosed, markClosed, stopClosed, siteClosed⟩ := laid.boundary splitToo first
  rw [marksBefore, ← numbered, Nat.add_zero] at foundClosed
  have here : (before.flatMap (Placed.marks base)).length + ((opening.marks base).length - 1) = index := by
    have positive := (List.getElem?_eq_some_iff.1 last).1
    rw [List.flatMap_append, List.length_append, List.flatMap_singleton] at numbered
    omega
  rw [here] at foundOpened
  rw [piecesBefore, breaks] at stopClosed siteClosed
  refine ⟨numbered, ⟨opened.piece, closed.piece, opened.site, ?_, ?_, ?_, ?_⟩, ?_⟩
  · rw [foundOpened, ← Boundary.eq_insertion markOpened]
  · have noSites : closed.site = opened.site := by
      rw [siteClosed, siteOpened, List.countP_append, Insertion.lineBreaks, Line.countP_lineBreaks, Nat.add_zero]
    rw [foundClosed, ← noSites, ← Boundary.eq_closing markClosed]
  · rw [stopClosed, stopOpened, List.length_append]
  · rw [Array.toList_extract, laid.pieces, splitToo, List.flatMap_append, piecesBefore, breaks, stopClosed, stopOpened,
      List.append_assoc, List.length_append, List.extract_eq_take_drop, Nat.add_sub_cancel_left, List.drop_left,
      List.take_left]
  · obtain ⟨depth, member⟩ := follows.span_of_next (by rw [foundOpened, Option.map_some, markOpened])
      (by rw [foundClosed, Option.map_some, markClosed])
    exact ⟨_, depth, follows.paired, member⟩

/-- A regular line outside of insertions has a piece with text. -/
theorem Template.Laid.regular (laid : template.Laid source lines base) {range : List Line}
    (ordered : range.Pairwise (Line.Precedes source)) {placed : Placed} (member : placed ∈ lines)
    (formed : placed.line.Formed) (among : placed.line ∈ range) (regular : placed.line.kind = .regular)
    (outside : placed.inserting = false) :
    ∃ piece ∈ template.pieces, piece.text ≠ [] ∧ piece.ComesFrom range placed.line := by
  have notEmpty : placed.line.kind ≠ .empty := by simp [regular]
  have kept : placed.isKept = true := by simp [Placed.isKept, regular, outside]
  have pieces : placed.pieces base = placed.line.pieces placed.patterns base placed.isLast := by
    rw [Placed.pieces, if_neg notEmpty, if_pos kept]
  obtain ⟨piece, held⟩ : ∃ piece, piece ∈ placed.pieces base := by
    have segments := (placed.line.segments_tile formed notEmpty placed.patterns).ne_nil (formed.indentation_lt notEmpty)
    rw [pieces]
    refine List.exists_mem_of_ne_nil _ fun none => segments ?_
    have texts := placed.line.pieces_map Piece.text (fun _ _ _ => rfl) placed.patterns base placed.isLast
    rw [none] at texts
    exact List.map_eq_nil_iff.1 texts.symm
  have given : piece ∈ template.pieces := by
    rw [← Array.mem_toList_iff, laid.pieces]
    exact List.mem_flatMap.2 ⟨placed, member, held⟩
  rw [pieces] at held
  obtain ⟨holds, nonempty⟩ := Line.pieces_held formed notEmpty held
  exact ⟨piece, given, nonempty, holds.comesFrom ordered among⟩

/-- A template that is laid out as the lines of an outline with admitted directives has leaves for its insertions. -/
theorem Template.Laid.leafy {outline : Outline} {atEnd : Bool} {mode : Assembly.Mode}
    (laid : template.Laid source (outline.placed [] atEnd) base)
    (admitted : Outline.AllAdmitted mode (outline.placed [] atEnd)) {range : List Line}
    (ordered : range.Pairwise (Line.Precedes source)) (among : ∀ line ∈ outline.lines, line ∈ range ∧ line.Formed) :
    template.Leafy range (outline.placed [] atEnd) base where
  leaves index first site indentation field found := by
    have marked : ((outline.placed [] atEnd).flatMap (Placed.marks base))[index]? =
        some (.opening (.insert indentation field)) := by
      rw [← laid.marks, List.getElem?_map, Array.getElem?_toList, found]
      rfl
    have follows : template.Follows (outline.forest base) :=
      laid.sound.follows (by rw [laid.marks, outline.placed_marks])
    obtain ⟨insertion, among, bare, numbered⟩ := Outline.exists_insertion admitted marked
    exact ⟨insertion, among, laid.leaf follows among bare numbered⟩
  regular placed member regular outside := by
    have line := among placed.line (outline.placed_map_line [] atEnd ▸ List.mem_map_of_mem member)
    exact laid.regular ordered member line.2 line.1 regular outside

end

/-- An insertion of a loaded template is a leaf: its two boundaries stand together, and between them only the blank
lines between its opening and its closing line have pieces, which are line breaks. Each regular line that stands in no
insertion has a piece with text. The same holds for each template of a set and the lines of its definition. -/
theorem insertions_are_leaves (markers : Markers) (source : Text) (start stop : Nat) :
    (∀ template, Template.load markers source start stop = .ok template →
      ∃ outline : Outline, Line.ofRange markers source start stop = .ok outline.lines ∧
        template.Leafy outline.lines (outline.placed [] true) 0) ∧
    ∀ set, TemplateSet.load markers source start stop = .ok set →
      ∃ outline : Outline, Line.ofRange markers source start stop = .ok outline.lines ∧
        ∀ entry ∈ set.entries, ∃ block ∈ outline.definitions, block.name? = some entry.1 ∧
          entry.2.Leafy outline.lines block.placed block.opening.indentation := by
  refine ⟨fun template success => ?_, fun set success => ?_⟩
  · obtain ⟨outline, classified, admitted, laid⟩ := Template.exists_laid success
    refine ⟨outline, classified, laid.leafy (fun placed member => (admitted placed member).directives)
      (Recogniser.lines_precedes classified) fun line member => ⟨member, ?_⟩⟩
    exact (Recogniser.lines_formed classified line member).1
  · obtain ⟨outline, classified, found⟩ := TemplateSet.exists_laid success
    refine ⟨outline, classified, fun entry member => ?_⟩
    obtain ⟨block, among, named, admitted, laid⟩ := found entry member
    obtain ⟨opens, closes, inside⟩ := Outline.mem_blocks (Outline.mem_definitions among).1
    -- The lines of a definition are an outline of their own.
    have single : block.placed =
        (Outline.region block.opening block.directives opens block.inside block.closing closes .done).placed [] false :=
      rfl
    rw [single] at laid
    refine ⟨block, among, named, laid.leafy (fun placed member => (admitted placed member).directives)
      (Recogniser.lines_precedes classified) fun line member => ⟨inside line member, ?_⟩⟩
    exact (Recogniser.lines_formed classified line (inside line member)).1

/-- A text with an insertion inside a replacement. Blank lines, lines with matches and a plain region stand in it. -/
def stackedInsertion : Text :=
  ("#region TEMPLATE REPLACE(`a`, $x) INSERT($y)\n  a\n\n#region plain\n  a\n#endregion\n\n#endregion\n" ++
    "ca\n").toList

/-- A text that defines a template with an insertion, behind which text stands. -/
def definedInsertion : Text :=
  ("  #region TEMPLATE DEFINE(\"t\")\n    #region TEMPLATE INSERT($y)\n  a\n\n    #endregion\n  b\n" ++
    "  #endregion\n").toList

theorem insertions_are_leaves_stacked :
    (∃ template, Template.load .standard stackedInsertion 0 94 = .ok template ∧
      template.boundaries.toList.map (fun boundary => (boundary.piece, boundary.site)) =
        [(0, 0), (0, 0), (2, 0), (2, 0)] ∧
      (∃ insertion, template.Leaf 0 insertion ['y'] 1 ∧ insertion.lineBreaks.length = 2) ∧
      ∃ outline : Outline, Line.ofRange .standard stackedInsertion 0 94 = .ok outline.lines ∧
        template.Leafy outline.lines (outline.placed [] true) 0) ∧
    ∃ set, TemplateSet.load .standard definedInsertion 0 100 = .ok set ∧
      (set.entries.map fun entry => entry.2.pieces.toList.map Piece.text) = [[[], ['b']]] ∧
      ∃ outline : Outline, Line.ofRange .standard definedInsertion 0 100 = .ok outline.lines ∧
        ∀ entry ∈ set.entries, ∃ block ∈ outline.definitions,
          entry.2.Leafy outline.lines block.placed block.opening.indentation := by
  have single : (Template.load .standard stackedInsertion 0 94).toOption.map
      (fun template => template.boundaries.toList) = some [.opening 0 0 (.replace ['x'] .empty #[]),
        .opening 0 0 (.insert 0 ['y']), .closing 2 0, .closing 2 0] := by
    decide +kernel
  have multiple : (TemplateSet.load .standard definedInsertion 0 100).toOption.map
      (fun set => set.entries.map fun entry => entry.2.pieces.toList.map Piece.text) = some [[[], ['b']]] := by
    decide +kernel
  obtain ⟨template, loaded, boundaries⟩ := exists_ok single
  obtain ⟨set, loadedSet, texts⟩ := exists_ok multiple
  obtain ⟨outline, classified, leafy⟩ := (insertions_are_leaves _ _ _ _).1 template loaded
  obtain ⟨outlineSet, classifiedSet, found⟩ := (insertions_are_leaves _ _ _ _).2 set loadedSet
  refine ⟨⟨template, loaded, by rw [boundaries]; rfl, ?_, outline, classified, leafy⟩,
    set, loadedSet, texts, outlineSet, classifiedSet, fun entry member => ?_⟩
  · have held (index : Nat) : template.boundaries[index]? = template.boundaries.toList[index]? :=
      (Array.getElem?_toList ..).symm
    obtain ⟨insertion, _, leaf⟩ := leafy.leaves 1 0 0 0 ['y'] (by rw [held, boundaries]; rfl)
    refine ⟨insertion, leaf, ?_⟩
    obtain ⟨first, last, site, opening, closing, count, _⟩ := leaf.bounded
    rw [held, boundaries] at opening closing
    obtain ⟨rfl, _⟩ := Boundary.opening.inj (Option.some.inj opening)
    obtain ⟨rfl, _⟩ := Boundary.closing.inj (Option.some.inj closing)
    omega
  · obtain ⟨block, among, _, leafyBlock⟩ := found entry member
    exact ⟨block, among, leafyBlock⟩

end Stencil
