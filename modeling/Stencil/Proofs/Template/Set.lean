/-
This file says what a template set holds after an insertion.
-/
import Stencil.Template.Set

namespace Stencil.TemplateSet

theorem find?_insertEntry (name other : Text) (template : Template) (entries : List (Text × Template)) :
    ((insertEntry name template entries).find? fun entry => entry.1 = other).map Prod.snd =
      if name = other then some template
      else (entries.find? fun entry => entry.1 = other).map Prod.snd := by
  fun_induction insertEntry name template entries with
  | case1 => by_cases same : name = other <;> simp [same]
  | case2 entry rest before => by_cases same : name = other <;> simp [same]
  | case3 entry rest _ held =>
      rw [List.find?_cons, List.find?_cons, held]
      by_cases same : entry.1 = other <;> simp [same]
  | case4 entry rest _ apart ih =>
      rw [List.find?_cons, List.find?_cons]
      by_cases same : entry.1 = other
      · rw [← same] at ih ⊢
        simp [apart]
      · simp only [same, decide_false]
        exact ih

/-- A set finds the inserted template under its name, and what it had under the others. -/
theorem find?_insert (set : TemplateSet) (name other : Text) (template : Template) :
    (set.insert name template).find? other =
      if name = other then some template else set.find? other :=
  find?_insertEntry name other template set.entries

/-- A set finds each of its entries. -/
theorem find?_of_mem {set : TemplateSet} {entry : Text × Template} (member : entry ∈ set.entries) :
    set.find? entry.1 = some entry.2 := by
  obtain ⟨before, after, same⟩ := List.append_of_mem member
  have sorted := set.sorted
  rw [same, List.map_append, List.map_cons, List.pairwise_append] at sorted
  have skipped : (before.find? fun other => other.1 = entry.1) = none := by
    rw [List.find?_eq_none]
    intro other inside
    have precedes := sorted.2.2 other.1 (List.mem_map_of_mem inside) entry.1 List.mem_cons_self
    rw [decide_eq_true_eq]
    intro equal
    rw [equal, Text.precedes_irrefl] at precedes
    cases precedes
  rw [find?, same, List.find?_append, skipped, Option.none_or, List.find?_cons, decide_eq_true rfl]
  rfl

theorem contains_iff {set : TemplateSet} {name : Text} : set.contains name = true ↔ name ∈ set.names := by
  rw [contains, find?, Option.isSome_map, List.find?_isSome, names, List.mem_map]
  simp only [decide_eq_true_eq]

/-- The set with each template changed. -/
def map (change : Template → Template) (set : TemplateSet) : TemplateSet where
  entries := set.entries.map (Prod.map id change)
  sorted := by
    rw [List.map_map]
    exact set.sorted

theorem eq_of_entries {first second : TemplateSet} (same : first.entries = second.entries) :
    first = second := by
  cases first
  cases second
  cases same
  rfl

theorem names_map (change : Template → Template) (set : TemplateSet) :
    (set.map change).names = set.names := by
  rw [names, map, List.map_map]
  rfl

theorem contains_map (change : Template → Template) (set : TemplateSet) (name : Text) :
    (set.map change).contains name = set.contains name := by
  rw [Bool.eq_iff_iff, contains_iff, contains_iff, names_map]

theorem insertEntry_map (change : Template → Template) (name : Text) (template : Template)
    (entries : List (Text × Template)) :
    insertEntry name (change template) (entries.map (Prod.map id change)) =
      (insertEntry name template entries).map (Prod.map id change) := by
  fun_induction insertEntry name template entries with
  | case1 => rfl
  | case2 entry rest before => exact if_pos before
  | case3 entry rest later held => exact (if_neg later).trans (if_pos held)
  | case4 entry rest later apart ih =>
      refine (if_neg later).trans ((if_neg apart).trans ?_)
      rw [ih]
      rfl

/-- A changed template is inserted into a changed set. -/
theorem insert_map (change : Template → Template) (set : TemplateSet) (name : Text)
    (template : Template) :
    (set.map change).insert name (change template) = (set.insert name template).map change :=
  eq_of_entries (insertEntry_map change name template set.entries)

theorem insertEntry_perm {name : Text} (template : Template) {entries : List (Text × Template)}
    (absent : name ∉ entries.map Prod.fst) :
    ((insertEntry name template entries).map Prod.fst).Perm (name :: entries.map Prod.fst) := by
  fun_induction insertEntry name template entries with
  | case1 => exact .refl _
  | case2 entry rest before => exact .refl _
  | case3 entry rest _ held =>
      rw [List.map_cons, held] at absent
      exact absurd List.mem_cons_self absent
  | case4 entry rest _ apart ih =>
      rw [List.map_cons, List.map_cons]
      exact (List.Perm.cons _ (ih fun member => absent (.tail _ member))).trans (.swap _ _ _)

/-- A set with a new template has its name and those that it had. -/
theorem names_insert {set : TemplateSet} {name : Text} (absent : name ∉ set.names)
    (template : Template) : (set.insert name template).names.Perm (name :: set.names) :=
  insertEntry_perm template absent

/-- Some names are free for a set: none is empty or in the set, and no two are equal. -/
structure Free (set : TemplateSet) (names : List Text) : Prop where
  distinct : names.Nodup
  unused : ∀ name ∈ names, name ≠ [] ∧ name ∉ set.names

theorem free_nil (set : TemplateSet) : set.Free [] :=
  ⟨.nil, fun name member => by cases member⟩

theorem Free.left {set : TemplateSet} {first second : List Text} (free : set.Free (first ++ second)) :
    set.Free first :=
  ⟨(List.nodup_append.1 free.distinct).1, fun name member =>
    free.unused name (List.mem_append_left _ member)⟩

/-- Names are free if the first of them are, and the others are when the set has the first. -/
theorem free_append {set next : TemplateSet} {first second : List Text}
    (names : next.names.Perm (first ++ set.names)) :
    set.Free (first ++ second) ↔ set.Free first ∧ next.Free second := by
  have taken (name : Text) : name ∈ next.names ↔ name ∈ first ∨ name ∈ set.names := by
    rw [names.mem_iff, List.mem_append]
  constructor
  · intro free
    obtain ⟨_, distinctSecond, apart⟩ := List.nodup_append.1 free.distinct
    refine ⟨free.left, distinctSecond, fun name member => ?_⟩
    obtain ⟨nonempty, absent⟩ := free.unused name (List.mem_append_right _ member)
    rw [taken, not_or]
    exact ⟨nonempty, fun early => apart name early name member rfl, absent⟩
  · rintro ⟨freeFirst, freeSecond⟩
    refine ⟨List.nodup_append.2 ⟨freeFirst.distinct, freeSecond.distinct, ?_⟩, fun name member => ?_⟩
    · rintro name early other late rfl
      exact (freeSecond.unused name late).2 ((taken name).2 (.inl early))
    · rcases List.mem_append.1 member with early | late
      · exact freeFirst.unused name early
      · obtain ⟨nonempty, absent⟩ := freeSecond.unused name late
        exact ⟨nonempty, fun old => absent ((taken name).2 (.inr old))⟩

end Stencil.TemplateSet
