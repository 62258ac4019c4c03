/-
This file says what a classified line looks like: one part of the source without a line feed, with
its leading spaces counted.
-/
import Stencil.Proofs.Text.Slice
import Stencil.Template.Load

namespace Stencil

/-- A formed line has no line feed. If it is not blank, its indentation counts the spaces before its
first other character. -/
structure Line.Formed (line : Line) : Prop where
  noFeed : '\n' ∉ line.text
  indented : line.kind ≠ .empty → ∃ content, content ≠ [] ∧ content.head? ≠ some ' ' ∧
    line.text = List.replicate line.indentation ' ' ++ content

namespace Line.Draft

/-- A formed draft has no line feed, knows its size, and has counted the spaces before its content. -/
structure Formed (draft : Draft) : Prop where
  noFeed : '\n' ∉ draft.reversed
  measured : draft.size = Text.byteSize draft.reversed.reverse
  indented : ∃ content, draft.reversed.reverse = List.replicate draft.indentation ' ' ++ content ∧
    (draft.inContent = false ↔ content = []) ∧ content.head? ≠ some ' '

/-- The draft of a line of which nothing is read. -/
def fresh (number start : Nat) : Draft := ⟨number, start, [], 0, 0, false⟩

theorem formed_fresh (number start : Nat) : (fresh number start).Formed where
  noFeed := List.not_mem_nil
  measured := rfl
  indented := ⟨[], rfl, by simp [fresh], by simp⟩

/-- Every character but a line feed keeps a draft formed. -/
theorem Formed.push {draft : Draft} (formed : draft.Formed) {character : Char}
    (notFeed : character ≠ '\n') : (draft.push character).Formed where
  noFeed := by
    simp only [Draft.push, List.mem_cons, not_or]
    exact ⟨notFeed.symm, formed.noFeed⟩
  measured := by
    simp [Draft.push, formed.measured]
  indented := by
    obtain ⟨content, shape, outside, head⟩ := formed.indented
    by_cases space : character = ' ' ∧ draft.inContent = false
    · obtain ⟨rfl, before⟩ := space
      obtain rfl := outside.1 before
      refine ⟨[], ?_, by simp [Draft.push, before], by simp⟩
      simp only [Draft.push, before, and_self, if_true, List.reverse_cons, shape, List.append_nil]
      rw [← List.replicate_succ']
    · refine ⟨content ++ [character], ?_, ?_, ?_⟩
      · simp only [Draft.push, if_neg space, List.reverse_cons, shape, List.append_assoc]
      · simp only [Draft.push, Bool.or_eq_false_iff, bne_eq_false_iff_eq, List.append_eq_nil_iff,
          List.cons_ne_nil, and_false, iff_false]
        exact fun still => space still.symm
      · cases content with
        | nil =>
            intro same
            exact space ⟨by simpa using same, outside.2 rfl⟩
        | cons first rest => simpa using head

/-- The text of a line is its draft without one carriage return at the end. -/
theorem text_append (draft : Draft) :
    ∃ tail, draft.text ++ tail = draft.reversed.reverse ∧ (tail = [] ∨ tail = ['\r']) := by
  unfold text
  split
  · next earlier same => exact ⟨['\r'], by rw [same, List.reverse_cons], .inr rfl⟩
  · exact ⟨[], List.append_nil _, .inl rfl⟩

theorem next_eq (draft : Draft) :
    draft.next = fresh (draft.number + 1) (draft.start + draft.size + 1) := rfl

/-- The draft of the line in progress after some more characters. A line feed starts the next line. -/
def read (draft : Draft) : Text → Draft
  | [] => draft
  | character :: rest => (if character = '\n' then draft.next else draft.push character).read rest

theorem read_append (draft : Draft) (first second : Text) :
    draft.read (first ++ second) = (draft.read first).read second := by
  induction first generalizing draft with
  | nil => rfl
  | cons character rest ih => exact ih _

theorem Formed.read {draft : Draft} (formed : draft.Formed) (text : Text) :
    (draft.read text).Formed := by
  induction text generalizing draft with
  | nil => exact formed
  | cons character rest ih =>
      rw [Draft.read]
      split
      · exact ih (formed_fresh _ _)
      · next notFeed => exact ih (formed.push notFeed)

/-- The line in progress has the last of the characters that were read, and starts behind the others. -/
theorem Formed.read_split {draft : Draft} (formed : draft.Formed) (text : Text) :
    ∃ earlier, draft.reversed.reverse ++ text = earlier ++ (draft.read text).reversed.reverse ∧
      (draft.read text).start = draft.start + Text.byteSize earlier := by
  induction text generalizing draft with
  | nil => exact ⟨[], List.append_nil _, rfl⟩
  | cons character rest ih =>
      rw [Draft.read]
      split
      · next feed =>
          obtain ⟨earlier, same, start⟩ := ih (draft.next_eq ▸ formed_fresh _ _)
          refine ⟨draft.reversed.reverse ++ character :: earlier, ?_, ?_⟩
          · rw [List.append_assoc, List.cons_append, ← same]
            rfl
          · have feedSize : character.utf8Size = 1 := by rw [feed]; rfl
            rw [start, Text.byteSize_append, Text.byteSize_cons, feedSize, ← formed.measured]
            simp only [Draft.next, Nat.add_assoc]
      · next notFeed =>
          obtain ⟨earlier, same, start⟩ := ih (formed.push notFeed)
          refine ⟨earlier, ?_, start⟩
          rw [← same, Draft.push, List.reverse_cons, List.append_assoc, List.singleton_append]

/-- A text that is not blank begins with the counted spaces and then has content. -/
theorem Formed.text_indented {draft : Draft} (formed : draft.Formed)
    (content : Text.allBlank draft.text = false) :
    ∃ content, content ≠ [] ∧ content.head? ≠ some ' ' ∧
      draft.text = List.replicate draft.indentation ' ' ++ content := by
  obtain ⟨inside, shape, _, head⟩ := formed.indented
  obtain ⟨tail, whole, ending⟩ := draft.text_append
  obtain ⟨kept, rfl, same⟩ : ∃ kept, inside = kept ++ tail ∧
      draft.text = List.replicate draft.indentation ' ' ++ kept := by
    rcases ending with rfl | rfl
    · exact ⟨inside, by simp, by rw [← shape, ← whole, List.append_nil]⟩
    · rw [shape] at whole
      rcases List.eq_nil_or_concat inside with rfl | ⟨kept, last, rfl⟩
      · have member : '\r' ∈ List.replicate draft.indentation ' ' := by
          rw [← List.append_nil (List.replicate _ _), ← whole]
          simp
        exact absurd (List.eq_of_mem_replicate member) (by decide)
      · rw [List.concat_eq_append, ← List.append_assoc] at whole
        obtain ⟨front, back⟩ := List.append_inj' whole rfl
        exact ⟨kept, by rw [List.concat_eq_append, back], front⟩
  have nonempty : kept ≠ [] := by
    rintro rfl
    rw [same, List.append_nil] at content
    simp [Text.allBlank, Text.isBlank] at content
  refine ⟨kept, nonempty, ?_, same⟩
  cases kept with
  | nil => exact absurd rfl nonempty
  | cons first rest => simpa using head

/-- A draft becomes a blank line, or a line with its indentation and the kind that the recogniser tells. -/
theorem finish_ok {recogniser : Recogniser} {draft : Draft} {line : Line}
    (success : draft.finish recogniser = .ok line) :
    Text.allBlank draft.text = true ∧ line = ⟨draft.number, draft.start, draft.text, none, .empty⟩ ∨
      Text.allBlank draft.text = false ∧ ∃ kind, draft.kind recogniser = .ok kind ∧
        line = ⟨draft.number, draft.start, draft.text, some draft.indentation, kind⟩ := by
  unfold finish at success
  split at success
  · next blank =>
      cases success
      exact .inl ⟨blank, rfl⟩
  · next content =>
      obtain ⟨kind, told, rfl⟩ := map_ok success
      exact .inr ⟨Bool.eq_false_iff.2 content, kind, told, rfl⟩

/-- A line keeps the start and the text of its draft. -/
theorem finish_text {recogniser : Recogniser} {draft : Draft} {line : Line}
    (success : draft.finish recogniser = .ok line) :
    line.start = draft.start ∧ line.text = draft.text := by
  obtain ⟨_, rfl⟩ | ⟨_, _, _, rfl⟩ := finish_ok success
  · exact ⟨rfl, rfl⟩
  · exact ⟨rfl, rfl⟩

/-- A formed draft becomes a formed line. -/
theorem Formed.finish {recogniser : Recogniser} {draft : Draft} (formed : draft.Formed) {line : Line}
    (success : draft.finish recogniser = .ok line) : line.Formed where
  noFeed := by
    obtain ⟨tail, whole, _⟩ := draft.text_append
    rw [(finish_text success).2]
    intro member
    refine formed.noFeed (List.mem_reverse.1 ?_)
    rw [← whole]
    exact List.mem_append_left _ member
  indented := by
    intro notEmpty
    obtain ⟨_, rfl⟩ | ⟨content, _, _, rfl⟩ := finish_ok success
    · exact absurd rfl notEmpty
    · exact formed.text_indented content

/-- A finished line lies in the source where its draft does. -/
theorem finish_lies {recogniser : Recogniser} {draft : Draft} {line : Line}
    (success : draft.finish recogniser = .ok line) {source after : Text}
    (lies : Text.LiesAt source draft.start (draft.reversed.reverse ++ after)) :
    Text.LiesAt source line.start line.text := by
  obtain ⟨start, text⟩ := finish_text success
  obtain ⟨tail, whole, _⟩ := draft.text_append
  rw [← whole, List.append_assoc] at lies
  rw [start, text]
  exact lies.part [] _

end Line.Draft

/-- Each line of a text was a draft, and no tab was read before its end. -/
theorem Line.classifyFrom_read {recogniser : Recogniser} {draft : Line.Draft} {text : Text}
    {lines : List Line} (success : Line.classifyFrom recogniser draft text = .ok lines) :
    ∀ line ∈ lines, ∃ before after, text = before ++ after ∧ '\t' ∉ before ∧
      (draft.read before).finish recogniser = .ok line := by
  induction text generalizing draft lines with
  | nil =>
      rw [Line.classifyFrom] at success
      split at success
      · cases success
        exact fun line member => by cases member
      · obtain ⟨line, finished, rfl⟩ := map_ok success
        exact List.forall_mem_singleton.2 ⟨[], [], rfl, List.not_mem_nil, finished⟩
  | cons character rest ih =>
      rw [Line.classifyFrom] at success
      split at success
      · next feed =>
          subst feed
          cases finished : draft.finish recogniser with
          | error fault => simp [finished] at success
          | ok line =>
              rw [finished] at success
              obtain ⟨others, classified, rfl⟩ := map_ok success
              refine List.forall_mem_cons.2
                ⟨⟨[], '\n' :: rest, rfl, List.not_mem_nil, finished⟩, fun other member => ?_⟩
              obtain ⟨before, after, same, noTab, later⟩ := ih classified other member
              exact ⟨'\n' :: before, after, by rw [same, List.cons_append],
                List.not_mem_cons_of_ne_of_not_mem (by decide) noTab, later⟩
      · next notFeed =>
          split at success
          · cases success
          · next notTab =>
              intro line member
              obtain ⟨before, after, same, noTab, finished⟩ := ih success line member
              refine ⟨character :: before, after, by rw [same, List.cons_append],
                List.not_mem_cons_of_ne_of_not_mem (Ne.symm notTab) noTab, ?_⟩
              rw [Line.Draft.read, if_neg notFeed]
              exact finished

/-- Each line of a range of a source was a draft, and no tab was read before its end. -/
theorem Recogniser.lines_read {recogniser : Recogniser} {source : Text} {start stop : Nat}
    {lines : List Line} (success : recogniser.lines source start stop = .ok lines) :
    ∀ line ∈ lines, ∃ before after, Text.slice? source start stop = some (before ++ after) ∧
      '\t' ∉ before ∧ ((Line.Draft.fresh 0 start).read before).finish recogniser =
        .ok line := by
  unfold Recogniser.lines at success
  split at success
  · cases success
  · next text cut =>
      intro line member
      obtain ⟨before, after, rfl, facts⟩ := Line.classifyFrom_read success line member
      exact ⟨before, after, cut, facts⟩

/-- The draft at a place of a range is formed, and its line in progress lies in the source. -/
theorem Line.Draft.read_lies {source before after : Text} {start stop : Nat}
    (cut : Text.slice? source start stop = some (before ++ after)) :
    ((Line.Draft.fresh 0 start).read before).Formed ∧
      Text.LiesAt source ((Line.Draft.fresh 0 start).read before).start
        (((Line.Draft.fresh 0 start).read before).reversed.reverse ++ after) := by
  have first := Line.Draft.formed_fresh 0 start
  obtain ⟨earlier, same, start⟩ := first.read_split before
  refine ⟨first.read before, ?_⟩
  rw [start]
  refine Text.LiesAt.part earlier [] ?_
  rw [List.append_nil, ← List.append_assoc, ← same]
  exact (Text.slice?_eq_some_iff.1 cut).1

/-- The lines of a range of a source are formed and lie in the source. -/
theorem Recogniser.lines_formed {recogniser : Recogniser} {source : Text} {start stop : Nat}
    {lines : List Line} (success : recogniser.lines source start stop = .ok lines) :
    ∀ line ∈ lines, line.Formed ∧ Text.LiesAt source line.start line.text := by
  intro line member
  obtain ⟨before, after, cut, _, finished⟩ := Recogniser.lines_read success line member
  obtain ⟨formed, lies⟩ := Line.Draft.read_lies cut
  exact ⟨formed.finish finished, Line.Draft.finish_lies finished lies⟩

theorem Line.ofRange_formed {markers : Markers} {source : Text} {start stop : Nat} {lines : List Line}
    (success : Line.ofRange markers source start stop = .ok lines) :
    ∀ line ∈ lines, line.Formed ∧ Text.LiesAt source line.start line.text :=
  Recogniser.lines_formed success

end Stencil
