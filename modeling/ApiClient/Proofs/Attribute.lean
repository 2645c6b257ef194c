import ApiClient.Attribute
import ApiClient.Proofs.Text.Cut

/-!
Which names of attributes are those of a tag.
-/

set_option autoImplicit false

namespace ApiClient

/-- A name is that of a tag, in a namespace or not, with the ending `Attribute` or without it. -/
def NamesTag (tag name : String) : Prop :=
  ∃ last, (last = tag ∨ last = tag ++ "Attribute")
    ∧ (name = last ∨ ∃ scope, name = scope ++ "." ++ last)

/-- A tag is among attributes. -/
def IsTagged (tag : String) (attributes : List Attribute) : Prop :=
  ∃ a ∈ attributes, NamesTag tag a.name

section Tags

variable {tag : String} (free : '.' ∉ tag.toList) (whole : ¬ "Attribute".toList <:+ tag.toList)
include free whole

theorem tagKey_eq_iff {name : String} : tagKey name = tag ↔ NamesTag tag name := by
  have ending : '.' ∉ "Attribute".toList := by decide +kernel
  have cut : ∀ last : String, '.' ∉ last.toList →
      (Text.afterLast '.' name.toList = last.toList
        ↔ name = last ∨ ∃ scope, name = scope ++ "." ++ last) := by
    intro last free
    rw [Text.afterLast_eq_iff free, String.toList_inj]
    refine or_congr_right ⟨?_, ?_⟩
    · rintro ⟨front, split⟩
      exact ⟨String.ofList front, String.toList_inj.mp (by simp [split])⟩
    · rintro ⟨scope, rfl⟩
      exact ⟨scope.toList, by simp⟩
  have free' : '.' ∉ (tag ++ "Attribute").toList := by
    rw [String.toList_append, List.mem_append]
    exact not_or.mpr ⟨free, ending⟩
  have key : tagKey name = tag
      ↔ Text.afterLast '.' name.toList = tag.toList
        ∨ Text.afterLast '.' name.toList = (tag ++ "Attribute").toList := by
    rw [String.toList_append, ← Text.dropEnding_eq_iff whole, ← String.toList_inj, tagKey,
      String.toList_ofList]
  rw [key, cut tag free, cut _ free', NamesTag]
  simp only [or_and_right, exists_or, exists_eq_left]

theorem hasTag_iff {attributes : List Attribute} {full : String} (key : tagKey full = tag) :
    hasTag attributes full = true ↔ IsTagged tag attributes := by
  unfold hasTag findTag? IsTagged
  simp [key, tagKey_eq_iff free whole]

end Tags

theorem hasTag_fromUriTag_iff {attributes : List Attribute} :
    hasTag attributes fromUriTag = true ↔ IsTagged "FromUri" attributes :=
  hasTag_iff (by decide +kernel) (by decide +kernel) (by decide +kernel)

theorem hasTag_fromBodyTag_iff {attributes : List Attribute} :
    hasTag attributes fromBodyTag = true ↔ IsTagged "FromBody" attributes :=
  hasTag_iff (by decide +kernel) (by decide +kernel) (by decide +kernel)

end ApiClient
