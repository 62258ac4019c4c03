/-
This file classifies each line of a text on its own, and joins the lines.
-/
import Mathlib.Data.List.Forall2
import Stencil.Proofs.Line.Joined
import Stencil.Proofs.Matches
import Stencil.Proofs.Move.Line

namespace Stencil

namespace Line

namespace Draft

/-- The draft of a line has the characters of the line. -/
theorem read_noFeed {draft : Draft} {text : Text} (noFeed : '\n' ∉ text) :
    (draft.read text).number = draft.number ∧ (draft.read text).start = draft.start ∧
      (draft.read text).reversed = text.reverse ++ draft.reversed ∧
      (draft.read text).size = draft.size + Text.byteSize text := by
  induction text generalizing draft with
  | nil => exact ⟨rfl, rfl, rfl, rfl⟩
  | cons character rest ih =>
      rw [List.mem_cons, not_or] at noFeed
      obtain ⟨number, start, reversed, size⟩ := @ih (draft.push character) noFeed.2
      rw [read, if_neg (Ne.symm noFeed.1)]
      refine ⟨number, start, ?_, ?_⟩
      · rw [reversed, List.reverse_cons, List.append_assoc]
        rfl
      · rw [size, Text.byteSize_cons, ← Nat.add_assoc]
        rfl

end Draft

/-- The line of a text without line feeds, with the number and the start of the line. -/
def ofText (recogniser : Recogniser) (number start : Nat) (text : Text) : Except Error Line :=
  if '\t' ∈ text then .error (.lexical ⟨number, Text.byteSize (text.takeWhile (· ≠ '\t'))⟩ .tab)
  else ((Draft.fresh number start).read text).finish recogniser

section

variable {recogniser : Recogniser} {number start : Nat}

theorem ofText_tab {before : Text} (noTab : '\t' ∉ before) (after : Text) :
    ofText recogniser number start (before ++ '\t' :: after) =
      .error (.lexical ⟨number, Text.byteSize before⟩ .tab) := by
  have kept : ∀ character ∈ before, decide (character ≠ '\t') = true := fun character member =>
    decide_eq_true fun same => noTab (same ▸ member)
  rw [ofText, if_pos (List.mem_append_right _ List.mem_cons_self), List.takeWhile_append_of_pos kept,
    List.takeWhile_cons_of_neg (by decide), List.append_nil]

theorem ofText_noTab {text : Text} (noTab : '\t' ∉ text) :
    ofText recogniser number start text = ((Draft.fresh number start).read text).finish recogniser :=
  if_neg noTab

/-- A line that starts later is the moved line. -/
theorem ofText_right (line : Text) (number start right : Nat) :
    ofText recogniser number (start + right) line =
      (ofText recogniser number start line).map (Move.line ⟨0, right⟩) := by
  have read (draft : Draft) (text : Text) :
      (Move.draft ⟨0, right⟩ draft).read text = Move.draft ⟨0, right⟩ (draft.read text) := by
    induction text generalizing draft with
    | nil => rfl
    | cons character rest ih =>
        rw [Draft.read, Draft.read]
        split
        · rw [Move.next_moved, ih]
        · exact ih (draft.push character)
  have error (error : Error) : Move.error ⟨0, right⟩ error = error :=
    Stop.refused.inj (Move.stop_right right (.refused error))
  rw [ofText, ofText]
  split
  · rfl
  · have moved := Move.finish_moved ⟨0, right⟩ recogniser ((Draft.fresh number start).read line)
    rw [← read, bimap_eq_map error] at moved
    exact moved

/-- Within a line the characters before a place are read. -/
theorem classifyFrom_within {draft : Draft} {before : Text} (noFeed : '\n' ∉ before)
    (noTab : '\t' ∉ before) (after : Text) :
    classifyFrom recogniser draft (before ++ after) = classifyFrom recogniser (draft.read before) after := by
  induction before generalizing draft with
  | nil => rfl
  | cons character rest ih =>
      rw [List.mem_cons, not_or] at noFeed noTab
      rw [List.cons_append, classifyFrom, if_neg (Ne.symm noFeed.1), if_neg (Ne.symm noTab.1),
        ih noFeed.2 noTab.2, Draft.read, if_neg (Ne.symm noFeed.1)]

/-- A tab is refused where it stands in its line. -/
theorem classifyFrom_tab {before : Text} (noFeed : '\n' ∉ before) (noTab : '\t' ∉ before) (after : Text) :
    classifyFrom recogniser (Draft.fresh number start) (before ++ '\t' :: after) =
      .error (.lexical ⟨number, Text.byteSize before⟩ .tab) := by
  obtain ⟨count, _, _, size⟩ := @Draft.read_noFeed (Draft.fresh number start) before noFeed
  rw [classifyFrom_within noFeed noTab, classifyFrom, if_neg (by decide), if_pos rfl, count, size]
  simp only [Draft.fresh, Nat.zero_add]

/-- The first line of a text is followed by the lines of the rest. -/
theorem classifyFrom_ofText {text : Text} (noFeed : '\n' ∉ text) (rest : Text) :
    classifyFrom recogniser (Draft.fresh number start) (text ++ '\n' :: rest) =
      ofText recogniser number start text >>= fun line =>
        (classifyFrom recogniser (Draft.fresh (number + 1) (start + Text.byteSize text + 1)) rest).map
          (line :: ·) := by
  by_cases tab : '\t' ∈ text
  · obtain ⟨before, after, rfl, noTab⟩ := List.eq_append_cons_of_mem tab
    rw [List.mem_append, not_or] at noFeed
    rw [List.append_assoc, List.cons_append, classifyFrom_tab noFeed.1 noTab, ofText_tab noTab]
    rfl
  · obtain ⟨count, begin, _, size⟩ := @Draft.read_noFeed (Draft.fresh number start) text noFeed
    rw [classifyFrom_line noFeed tab, ofText_noTab tab, Draft.next_eq, count, begin, size]
    simp only [Draft.fresh, Nat.zero_add]

/-- A last line of fewer than two characters is dropped, unless it has a tab. -/
theorem classifyFrom_last {text : Text} (noFeed : '\n' ∉ text) :
    classifyFrom recogniser (Draft.fresh number start) text =
      if '\t' ∉ text ∧ text.length < 2 then .ok []
      else (ofText recogniser number start text).map fun line => [line] := by
  by_cases tab : '\t' ∈ text
  · obtain ⟨before, after, rfl, noTab⟩ := List.eq_append_cons_of_mem tab
    rw [List.mem_append, not_or] at noFeed
    rw [if_neg (fun short => short.1 tab), classifyFrom_tab noFeed.1 noTab, ofText_tab noTab]
    rfl
  · obtain ⟨_, _, reversed, _⟩ := @Draft.read_noFeed (Draft.fresh number start) text noFeed
    have within := @classifyFrom_within recogniser (Draft.fresh number start) text noFeed tab []
    rw [List.append_nil] at within
    rw [within, classifyFrom, reversed, ofText_noTab tab]
    simp [tab, Draft.fresh]

end

/-- The text of some lines, each with a line feed behind it, and of a last one without. -/
def joined (lines : List Text) (last : Text) : Text := lines.flatMap (· ++ ['\n']) ++ last

theorem joined_cons (line : Text) (lines : List Text) (last : Text) :
    joined (line :: lines) last = line ++ '\n' :: joined lines last := by
  simp [joined]

/-- A text is some lines, each with a line feed behind it, and a last one. -/
theorem exists_joined (text : Text) :
    ∃ lines last, text = joined lines last ∧ (∀ line ∈ lines, '\n' ∉ line) ∧ '\n' ∉ last := by
  induction text with
  | nil => exact ⟨[], [], rfl, nofun, List.not_mem_nil⟩
  | cons character rest ih =>
      obtain ⟨lines, last, rfl, noFeed, noFeedLast⟩ := ih
      by_cases feed : character = '\n'
      · subst feed
        exact ⟨[] :: lines, last, rfl, List.forall_mem_cons.2 ⟨List.not_mem_nil, noFeed⟩, noFeedLast⟩
      · have apart {line : Text} (free : '\n' ∉ line) : '\n' ∉ character :: line :=
          List.not_mem_cons_of_ne_of_not_mem (Ne.symm feed) free
        cases lines with
        | nil => exact ⟨[], character :: last, rfl, nofun, apart noFeedLast⟩
        | cons line lines =>
            obtain ⟨here, later⟩ := List.forall_mem_cons.1 noFeed
            exact ⟨(character :: line) :: lines, last, rfl, List.forall_mem_cons.2 ⟨apart here, later⟩,
              noFeedLast⟩

/-- Two texts have lines that match if each line of the first matches its change, which is no shorter. -/
theorem classifyFrom_matches {recogniser : Recogniser} {change : Text → Text} {related : Line → Line → Prop}
    {faults : Nat → Text → Error → Error → Prop} {lines : List Text} {last : Text}
    (noFeed : ∀ line ∈ lines, '\n' ∉ line ∧ '\n' ∉ change line) (noFeedLast : '\n' ∉ last)
    (grows : ∀ line ∈ lines, Text.byteSize line ≤ Text.byteSize (change line))
    (each : ∀ line ∈ lines, ∀ number start right, Matches (faults number line) related
      (ofText recogniser number start line) (ofText recogniser number (start + right) (change line)))
    (eachLast : 2 ≤ last.length ∨ '\t' ∈ last → ∀ number start right,
      Matches (faults number last) related (ofText recogniser number start last)
        (ofText recogniser number (start + right) last))
    (number start right : Nat) :
    Matches (fun error other => ∃ index line, (lines ++ [last])[index]? = some line ∧
        faults (number + index) line error other) (List.Forall₂ related)
      (classifyFrom recogniser (Draft.fresh number start) (joined lines last))
      (classifyFrom recogniser (Draft.fresh number (start + right)) (joined (lines.map change) last)) := by
  -- What a change adds to a line moves the lines behind it, so the induction is for any distance.
  induction lines generalizing number start right with
  | nil =>
      change Matches _ _ (classifyFrom recogniser _ last) (classifyFrom recogniser _ last)
      rw [classifyFrom_last noFeedLast, classifyFrom_last noFeedLast]
      by_cases dropped : '\t' ∉ last ∧ last.length < 2
      · rw [if_pos dropped, if_pos dropped]
        exact .ok .nil
      · rw [if_neg dropped, if_neg dropped]
        have kept : 2 ≤ last.length ∨ '\t' ∈ last := by
          rw [not_and_or, not_not, Nat.not_lt] at dropped
          exact dropped.symm
        refine ((eachLast kept number start right).map fun _ _ related =>
          List.Forall₂.cons related .nil).imp (fun error other fails => ?_) fun _ _ related => related
        exact ⟨0, last, rfl, fails⟩
  | cons line rest ih =>
      obtain ⟨noFeedHere, noFeedRest⟩ := List.forall_mem_cons.1 noFeed
      obtain ⟨growsHere, growsRest⟩ := List.forall_mem_cons.1 grows
      obtain ⟨here, later⟩ := List.forall_mem_cons.1 each
      rw [List.map_cons, joined_cons, joined_cons, classifyFrom_ofText noFeedHere.1,
        classifyFrom_ofText noFeedHere.2]
      refine Matches.bind ((here number start right).imp
        (fun error other fails => ⟨0, line, rfl, fails⟩) fun _ _ related => related)
        fun value result related => ?_
      have place : start + right + Text.byteSize (change line) + 1 =
          start + Text.byteSize line + 1 + (right + (Text.byteSize (change line) - Text.byteSize line)) := by
        omega
      rw [place]
      have following := ih noFeedRest growsRest later (number + 1) (start + Text.byteSize line + 1)
        (right + (Text.byteSize (change line) - Text.byteSize line))
      refine (following.map fun _ _ others => List.Forall₂.cons related others).imp ?_
        fun _ _ others => others
      rintro error other ⟨index, found, held, fails⟩
      exact ⟨index + 1, found, held, by rwa [Nat.add_right_comm] at fails⟩

end Line

end Stencil
