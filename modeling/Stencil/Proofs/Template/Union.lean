/-
This file joins two template sets, and shows that a set is known by what it finds under each name.
-/
import Stencil.Proofs.Template.Set

namespace Stencil.TemplateSet

/-- The templates of both sets. Of two with one name the second stays. -/
def union (first second : TemplateSet) : TemplateSet :=
  second.entries.foldr (fun entry set => set.insert entry.1 entry.2) first

/-- A set has the entries that it finds. -/
theorem mem_entries_iff {set : TemplateSet} {entry : Text × Template} :
    entry ∈ set.entries ↔ set.find? entry.1 = some entry.2 := by
  refine ⟨find?_of_mem, fun found => ?_⟩
  obtain ⟨other, held, same⟩ := Option.map_eq_some_iff.1 found
  have name : other.1 = entry.1 := by simpa using List.find?_some held
  have equal : other = entry := Prod.ext name same
  exact equal ▸ List.mem_of_find?_eq_some held

/-- No entry stands twice in a set. -/
theorem entries_nodup (set : TemplateSet) : set.entries.Nodup := by
  refine (List.pairwise_map.1 set.sorted).imp ?_
  rintro first _ before rfl
  rw [Text.precedes_irrefl] at before
  cases before

/-- Two sets that find the same are equal. -/
theorem ext_find? {first second : TemplateSet} (same : ∀ name, first.find? name = second.find? name) :
    first = second := by
  have perm : first.entries.Perm second.entries := by
    rw [List.perm_ext_iff_of_nodup first.entries_nodup second.entries_nodup]
    intro entry
    rw [mem_entries_iff, mem_entries_iff, same]
  refine eq_of_entries (perm.eq_of_pairwise ?_ (List.pairwise_map.1 first.sorted)
    (List.pairwise_map.1 second.sorted))
  intro entry other _ _ before after
  have cycle := Text.precedes_trans before after
  rw [Text.precedes_irrefl] at cycle
  cases cycle

/-- The union finds what the second set finds, and else what the first does. -/
theorem find?_union (first second : TemplateSet) (name : Text) :
    (first.union second).find? name = (second.find? name).or (first.find? name) := by
  have folded (entries : List (Text × Template)) :
      (entries.foldr (fun entry set => set.insert entry.1 entry.2) first).find? name =
        ((entries.find? fun entry => entry.1 = name).map Prod.snd).or (first.find? name) := by
    induction entries with
    | nil => rfl
    | cons entry rest ih =>
        rw [List.foldr_cons, find?_insert, ih, List.find?_cons]
        by_cases same : entry.1 = name <;> simp [same]
  exact folded second.entries

theorem find?_map (change : Template → Template) (set : TemplateSet) (name : Text) :
    (set.map change).find? name = (set.find? name).map change := by
  rw [find?, find?, map, List.find?_map, Option.map_map, Option.map_map]
  rfl

theorem contains_union (first second : TemplateSet) (name : Text) :
    (first.union second).contains name = (first.contains name || second.contains name) := by
  rw [contains, find?_union, Option.isSome_or, Bool.or_comm]
  rfl

/-- An insertion into the second set is one into the union. -/
theorem insert_union (first second : TemplateSet) (name : Text) (template : Template) :
    (first.union second).insert name template = first.union (second.insert name template) := by
  apply ext_find?
  intro other
  rw [find?_insert, find?_union, find?_union, find?_insert]
  split <;> rfl

/-- Sets without a common name have a union that does not depend on their order. -/
theorem union_comm {first second : TemplateSet} (apart : ∀ name ∈ first.names, name ∉ second.names) :
    first.union second = second.union first := by
  apply ext_find?
  intro name
  rw [find?_union, find?_union]
  cases inFirst : first.find? name with
  | none => exact (Option.or_none).trans (Option.none_or).symm
  | some template =>
      have absent : second.find? name = none := by
        rw [← Option.not_isSome_iff_eq_none]
        intro inSecond
        refine apart name (contains_iff.1 ?_) (contains_iff.1 inSecond)
        rw [contains, inFirst]
        rfl
      rw [absent]
      rfl

end Stencil.TemplateSet
