import ApiClient.Proofs.Binding.Refusals
import Mathlib.Data.List.Nodup
import Mathlib.Data.List.Perm.Subperm

/-!
The names of the entries of a controller.

A name that is taken gets a number, and among one number more than there are names in use one is
free. So the entries of all actions of a controller have different names.
-/

set_option autoImplicit false

namespace ApiClient

private theorem toString_inj {i j : Nat} (same : toString i = toString j) : i = j := by
  have digits : Nat.toDigits 10 i = Nat.toDigits 10 j := by
    simpa [Nat.toString_eq_ofList_toDigits] using congrArg String.toList same
  rw [← Nat.ofDigitChars_ten_toDigits (n := i), digits, Nat.ofDigitChars_ten_toDigits]

theorem numbered_inj {name : String} {i j : Nat}
    (same : name ++ toString i = name ++ toString j) : i = j := by
  have lists := congrArg String.toList same
  simp only [String.toList_append] at lists
  exact toString_inj (String.toList_inj.mp (List.append_cancel_left lists))

/-- The names in use cannot take up one candidate more than they are. -/
theorem freeNumber?_isSome (used : List String) (name : String) :
    (freeNumber? used name).isSome = true := by
  by_contra missing
  have failed : freeNumber? used name = none := by simpa using missing
  let candidates := (List.range (used.length + 1)).map fun k => name ++ toString (k + 2)
  have distinct : candidates.Nodup := by
    refine List.Nodup.map (fun i j same => ?_) List.nodup_range
    have numbers := numbered_inj same
    omega
  have taken : candidates ⊆ used := by
    intro candidate member
    obtain ⟨k, below, rfl⟩ := List.mem_map.mp member
    have listed : k + 2 ∈ (List.range (used.length + 1)).map (· + 2) :=
      List.mem_map_of_mem below
    simpa using List.find?_eq_none.mp failed (k + 2) listed
  have counted := (distinct.subperm taken).length_le
  rw [List.length_map, List.length_range] at counted
  omega

theorem freshName_notMem (used : List String) (name : String) : freshName used name ∉ used := by
  unfold freshName
  split
  · obtain ⟨k, found⟩ := Option.isSome_iff_exists.mp (freeNumber?_isSome used name)
    rw [found]
    simpa using List.find?_some found
  · next free => simpa using free

/-- Names not in use are different from those in use and from each other. -/
theorem freshNames_spec (used names : List String) :
    (freshNames used names).Nodup ∧ ∀ name ∈ freshNames used names, name ∉ used := by
  induction names generalizing used with
  | nil => exact ⟨List.nodup_nil, by simp [freshNames]⟩
  | cons name rest ih =>
    obtain ⟨distinct, apart⟩ := ih (freshName used name :: used)
    constructor
    · exact List.nodup_cons.mpr ⟨fun again => apart _ again List.mem_cons_self, distinct⟩
    · intro other member
      rcases List.mem_cons.mp member with rfl | later
      · exact freshName_notMem used name
      · exact fun held => apart other later (List.mem_cons_of_mem _ held)

namespace Scope

variable {s : Scope} {c : Controller}

theorem map_name_bindAction {used : List String} {m : Method} {a : Action}
    (ok : (s.bindAction c used m).result = .ok a) :
    a.entries.map Entry.name = freshNames used (wantedNames m m.verbs) := by
  obtain ⟨-, -, -, -, entries, -⟩ := bindAction_ok ok
  have named := map_eq_of_forall₂ (f := Prod.snd) (g := Entry.name) entries (by
    rintro ⟨verb, name⟩ e bound
    obtain ⟨parts, -, rfl, -⟩ := bindEntry_ok bound
    rfl)
  rw [named]
  exact List.map_snd_zip (by simp [length_freshNames, length_wantedNames])

/-- Each action finds the names of the actions before it in use. -/
theorem bindActions_names {used : List String} {methods : List Method} {actions : List Action}
    (ok : (s.bindActions c used methods).result = .ok actions) :
    ((actions.flatMap Action.entries).map Entry.name).Nodup
      ∧ ∀ name ∈ (actions.flatMap Action.entries).map Entry.name, name ∉ used := by
  induction methods generalizing used actions with
  | nil =>
    obtain rfl : [] = actions := by simpa [bindActions, Traced.done] using ok
    exact ⟨List.nodup_nil, by simp⟩
  | cons m rest ih =>
    obtain ⟨a, first, after, -⟩ := Traced.andThen_ok ok
    obtain ⟨others, tail, last, -⟩ := Traced.andThen_ok after
    obtain rfl : a :: others = actions := by simpa [Traced.done] using last
    obtain ⟨distinct, apart⟩ := freshNames_spec used (wantedNames m m.verbs)
    rw [← map_name_bindAction first] at distinct apart
    obtain ⟨laterDistinct, laterApart⟩ := ih tail
    rw [List.flatMap_cons, List.map_append]
    constructor
    · refine List.nodup_append'.mpr ⟨distinct, laterDistinct, ?_⟩
      intro name own later
      exact laterApart name later (List.mem_append_left used own)
    · intro name member
      rcases List.mem_append.mp member with own | later
      · exact apart name own
      · exact fun held => laterApart name later (List.mem_append_right _ held)

theorem nodup_names_entries {d : TypeDescriptor} {c : Controller}
    (ok : (s.bindController d).result = .ok c) : (c.entries.map Entry.name).Nodup := by
  obtain ⟨actions, rfl, bound, -⟩ := bindController_ok ok
  exact (bindActions_names bound).1

end Scope

end ApiClient
