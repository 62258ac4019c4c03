/-
This file shows that the sites of every loaded template are recorded.
-/
import Stencil.Proofs.Load.Basic

namespace Stencil

theorem Template.load_sound {markers : Markers} {source : Text} {start stop : Nat} {template : Template}
    (success : Template.load markers source start stop = .ok template) : template.Sound := by
  obtain ⟨outline, _, _, made⟩ := Template.exists_made success
  exact made.sound

theorem TemplateSet.load_sound {markers : Markers} {source : Text} {start stop : Nat} {set : TemplateSet}
    (success : TemplateSet.load markers source start stop = .ok set) {entry : Text × Template}
    (member : entry ∈ set.entries) : entry.2.Sound := by
  obtain ⟨outline, _, made⟩ := TemplateSet.exists_made success
  obtain ⟨block, _, _, _, made⟩ := made entry member
  exact made.sound

/-- Whatever range loads, as one template or as a set, the sites of its templates are recorded. -/
theorem sites_recorded (markers : Markers) (source : Text) (start stop : Nat) :
    (∀ template, Template.load markers source start stop = .ok template → template.Recorded) ∧
      ∀ set, TemplateSet.load markers source start stop = .ok set →
        ∀ entry ∈ set.entries, entry.2.Recorded := by
  constructor
  · intro template success
    exact (Template.load_sound success).recorded
  · intro set success entry member
    exact (TemplateSet.load_sound success member).recorded

/-- A text with two replacements on one line and a third one inside them. -/
def nestedReplacements : Text :=
  ("#region TEMPLATE REPLACE(`a+`, $x) REPLACE(`b`, $y)\n  ab aa\n" ++
    "  #region TEMPLATE REPLACE(`c`, $z)\n  abc\n  #endregion\n#endregion\nc\n").toList

/-- A text that defines a template with a replacement. -/
def definedReplacement : Text :=
  "#region TEMPLATE DEFINE(\"t\") REPLACE(`a`, $x)\n  bab\n#endregion\n".toList

theorem sites_recorded_nested :
    (∃ template, Template.load .standard nestedReplacements 0 128 = .ok template ∧
      template.siteCount = 6 ∧ template.Recorded) ∧
    ∃ set, TemplateSet.load .standard definedReplacement 0 63 = .ok set ∧
      set.names = [['t']] ∧ ∀ entry ∈ set.entries, entry.2.Recorded := by
  have single : (Template.load .standard nestedReplacements 0 128).toOption.map Template.siteCount =
      some 6 := by decide +kernel
  have multiple : (TemplateSet.load .standard definedReplacement 0 63).toOption.map TemplateSet.names =
      some [['t']] := by decide +kernel
  obtain ⟨template, loaded, count⟩ := exists_ok single
  obtain ⟨set, loadedSet, names⟩ := exists_ok multiple
  exact ⟨⟨template, loaded, count, (sites_recorded _ _ _ _).1 template loaded⟩,
    set, loadedSet, names, (sites_recorded _ _ _ _).2 set loadedSet⟩

end Stencil
