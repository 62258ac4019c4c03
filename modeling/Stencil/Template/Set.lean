/-
This file holds named templates in the order of their names.
-/
import Stencil.Template.Basic
import Stencil.Text.Order

namespace Stencil

/-- A template set lists each name once, in the order of code points. -/
structure TemplateSet where
  entries : List (Text × Template)
  sorted : (entries.map Prod.fst).Pairwise fun first second => Text.precedes first second

namespace TemplateSet

/-- The set without templates. -/
def empty : TemplateSet := ⟨[], .nil⟩

/-- The entries with one more, or with another template for a name. -/
def insertEntry (name : Text) (template : Template) :
    List (Text × Template) → List (Text × Template)
  | [] => [(name, template)]
  | entry :: rest =>
      if Text.precedes name entry.1 then (name, template) :: entry :: rest
      else if name = entry.1 then (name, template) :: rest
      else entry :: insertEntry name template rest

theorem mem_insertEntry {name other : Text} {template : Template} {entries : List (Text × Template)}
    (member : other ∈ (insertEntry name template entries).map Prod.fst) :
    other = name ∨ other ∈ entries.map Prod.fst := by
  fun_induction insertEntry name template entries with
  | case1 => simp_all
  | case2 => simp_all
  | case3 =>
      simp only [List.map_cons, List.mem_cons] at member ⊢
      exact member.imp_right .inr
  | case4 entry rest _ _ ih =>
      simp only [List.map_cons, List.mem_cons] at member ⊢
      rcases member with same | inside
      · exact .inr (.inl same)
      · exact (ih inside).imp_right .inr

theorem insertEntry_sorted {name : Text} {template : Template} {entries : List (Text × Template)}
    (sorted : (entries.map Prod.fst).Pairwise fun first second => Text.precedes first second) :
    ((insertEntry name template entries).map Prod.fst).Pairwise
      fun first second => Text.precedes first second := by
  fun_induction insertEntry name template entries with
  | case1 => simp
  | case2 entry rest before =>
      simp only [List.map_cons, List.pairwise_cons, List.mem_cons] at sorted ⊢
      refine ⟨fun other member => ?_, sorted⟩
      rcases member with rfl | inside
      · exact before
      · exact Text.precedes_trans before (sorted.1 other inside)
  | case3 entry rest _ same =>
      subst same
      simpa using sorted
  | case4 entry rest notBefore different ih =>
      simp only [List.map_cons, List.pairwise_cons] at sorted ⊢
      refine ⟨fun other member => ?_, ih sorted.2⟩
      rcases mem_insertEntry member with rfl | inside
      · exact Text.precedes_of_ne different (Bool.eq_false_iff.2 notBefore)
      · exact sorted.1 other inside

/-- The set with a template under a name. -/
def insert (set : TemplateSet) (name : Text) (template : Template) : TemplateSet :=
  ⟨insertEntry name template set.entries, insertEntry_sorted set.sorted⟩

/-- The names in order. -/
def names (set : TemplateSet) : List Text := set.entries.map Prod.fst

/-- The template with a name. -/
def find? (set : TemplateSet) (name : Text) : Option Template :=
  (set.entries.find? fun entry => entry.1 = name).map Prod.snd

/-- The set has a template with the name. -/
def contains (set : TemplateSet) (name : Text) : Bool := (set.find? name).isSome

end TemplateSet

end Stencil
