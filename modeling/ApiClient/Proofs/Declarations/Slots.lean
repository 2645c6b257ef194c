import ApiClient.Proofs.Declarations.Following
import Mathlib.Data.List.Forall2

/-!
Registering classes in slots that are reserved first.

A class gets an empty slot before its base and the types of its fields are registered, so that
classes that refer to each other come to an end, and its entry once they are. `Returns` says how
the calls on the registries go; a call returns when it has a result there, and then in one way.
-/

set_option autoImplicit false

namespace ApiClient

/-- A type to be registered. -/
inductive Registration
  | enum (d : TypeDescriptor)
  | interface (d : TypeDescriptor)

def Registration.descriptor : Registration → TypeDescriptor
  | enum d => d
  | interface d => d

def Request.registration : Request → TypeDescriptor → Registration
  | enum _ => .enum
  | interface _ => .interface

namespace Scope

def registration? (s : Scope) (q : Request) : Option Registration :=
  (s.store.find? q.fullName).map q.registration

/-- The types that a resolution requests. -/
def registrations (s : Scope) (resolution : Resolution) : List Registration :=
  resolution.requests.filterMap s.registration?

/-- What a class registers on the way: its base class, then the types of its fields. -/
def registrationsOf (s : Scope) (d : TypeDescriptor) : List Registration :=
  ((s.baseClass? d).map Registration.interface).toList
    ++ d.fields.flatMap fun f => s.registrations (s.fieldResolution f)

/-- A field of an entry is written as the field of its class resolves, `any` without a rule. -/
def Renders (s : Scope) (f : Field) (g : InterfaceField) : Prop :=
  g.name = f.name ∧ ∃ resolution, s.resolve f.type none [] (some "any") = .ok resolution
    ∧ g.typeName = resolution.resolved.rendered

theorem renders_interfaceOf (s : Scope) (d : TypeDescriptor) :
    List.Forall₂ s.Renders d.fields (s.interfaceOf d).fields := by
  refine List.forall₂_map_right_iff.mpr (List.forall₂_same.mpr fun f _ => ?_)
  exact ⟨rfl, _, s.resolve_field f, rfl⟩

end Scope

/-- The place of a class among the interfaces, empty until its entry is made. -/
structure Slot where
  fullName : String
  entry : Option InterfaceEntry

/-- The slot of a class that is registered. -/
def Scope.slotOf (s : Scope) (d : TypeDescriptor) : Slot := ⟨d.fullName, some (s.interfaceOf d)⟩

structure Registries where
  enums : List TypeDescriptor
  slots : List Slot

namespace Registries

def empty : Registries := ⟨[], []⟩

def enumNames (t : Registries) : List String := t.enums.map TypeDescriptor.fullName

def slotNames (t : Registries) : List String := t.slots.map Slot.fullName

/-- The entries that have been made, in the order of their slots. -/
def entries (t : Registries) : List InterfaceEntry := t.slots.filterMap Slot.entry

/-- Set what the slot of a name holds; a name without a slot gets one at the end. -/
def put (name : String) (entry : Option InterfaceEntry) (t : Registries) : Registries :=
  if name ∈ t.slotNames then
    { t with slots := t.slots.map fun slot => if slot.fullName = name then ⟨name, entry⟩ else slot }
  else { t with slots := t.slots ++ [⟨name, entry⟩] }

/-- No name is held twice, and every slot holds an entry, whose fields are written as they
resolve. -/
structure Settled (s : Scope) (t : Registries) : Prop where
  enumNames : t.enumNames.Nodup
  slotNames : t.slotNames.Nodup
  filled : t.entries.length = t.slots.length
  entry : ∀ slot ∈ t.slots, ∃ e, slot.entry = some e ∧ e.descriptor.fullName = slot.fullName
    ∧ List.Forall₂ s.Renders e.descriptor.fields e.fields

end Registries

/-- A call on the registries. -/
inductive Call
  | addEnum (d : TypeDescriptor)
  | addInterface (d : TypeDescriptor)
  | apply (registrations : List Registration)

def Registration.call : Registration → Call
  | enum d => .addEnum d
  | interface d => .addInterface d

/--
How calls go: what a call makes of the registries, and whether it has added its type. Adding a
class reserves its slot, registers all that the class needs, and then fills the slot.
-/
inductive Returns (s : Scope) : Call → Registries → Option Bool → Registries → Prop
  | enumKnown {d : TypeDescriptor} {t : Registries} (known : d.fullName ∈ t.enumNames) :
      Returns s (.addEnum d) t (some false) t
  | enumFresh {d : TypeDescriptor} {t : Registries} (fresh : d.fullName ∉ t.enumNames) :
      Returns s (.addEnum d) t (some true) { t with enums := t.enums ++ [d] }
  | known {d : TypeDescriptor} {t : Registries} (known : d.fullName ∈ t.slotNames) :
      Returns s (.addInterface d) t (some false) t
  | fresh {d : TypeDescriptor} {t u : Registries} (fresh : d.fullName ∉ t.slotNames)
      (inner : Returns s (.apply (s.registrationsOf d)) (t.put d.fullName none) none u) :
      Returns s (.addInterface d) t (some true) (u.put d.fullName (some (s.interfaceOf d)))
  | nil {t : Registries} : Returns s (.apply []) t none t
  | cons {r : Registration} {rest : List Registration} {result : Option Bool}
      {t u v : Registries} (first : Returns s r.call t result u)
      (others : Returns s (.apply rest) u none v) : Returns s (.apply (r :: rest)) t none v

/-- What calls can lead to, from empty registries on. -/
inductive Reaches (s : Scope) : List Call → Registries → Prop
  | start : Reaches s [] .empty
  | step {calls : List Call} {c : Call} {result : Option Bool} {t u : Registries}
      (before : Reaches s calls t) (returns : Returns s c t result u) : Reaches s (calls ++ [c]) u

namespace Registries

theorem put_of_notMem {t : Registries} {name : String} (fresh : name ∉ t.slotNames)
    (entry : Option InterfaceEntry) :
    t.put name entry = { t with slots := t.slots ++ [⟨name, entry⟩] } := if_neg fresh

theorem map_slots_of_notMem {name : String} {slots : List Slot}
    (absent : name ∉ slots.map Slot.fullName) (entry : Option InterfaceEntry) :
    (slots.map fun slot => if slot.fullName = name then ⟨name, entry⟩ else slot) = slots := by
  have kept : ∀ slot ∈ slots,
      (if slot.fullName = name then ⟨name, entry⟩ else slot) = id slot := by
    intro slot member
    refine if_neg fun same => absent ?_
    rw [← same]
    exact List.mem_map_of_mem member
  rw [List.map_congr_left kept, List.map_id]

/-- Only the slot of the name changes, in its place. -/
theorem put_reserved {enums : List TypeDescriptor} {front back : List Slot} {name : String}
    (before : name ∉ front.map Slot.fullName) (behind : name ∉ back.map Slot.fullName)
    (entry entry' : Option InterfaceEntry) :
    (⟨enums, front ++ ⟨name, entry⟩ :: back⟩ : Registries).put name entry'
      = ⟨enums, front ++ ⟨name, entry'⟩ :: back⟩ := by
  have held : name ∈ (⟨enums, front ++ ⟨name, entry⟩ :: back⟩ : Registries).slotNames := by
    simp [slotNames]
  rw [put, if_pos held]
  simp only [List.map_append, List.map_cons, if_true, map_slots_of_notMem before,
    map_slots_of_notMem behind]

theorem slot_mem_put (t : Registries) (name : String) (entry : Option InterfaceEntry) :
    ⟨name, entry⟩ ∈ (t.put name entry).slots := by
  unfold put
  split
  · next held =>
    obtain ⟨slot, member, same⟩ := List.mem_map.mp held
    exact List.mem_map.mpr ⟨slot, member, if_pos same⟩
  · exact List.mem_append_right _ (List.mem_singleton_self _)

theorem put_enums (t : Registries) (name : String) (entry : Option InterfaceEntry) :
    (t.put name entry).enums = t.enums := by
  unfold put
  split <;> rfl

end Registries

namespace Returns

variable {s : Scope} {d : TypeDescriptor} {t u : Registries} {result : Option Bool}

theorem unique {c : Call} {u' : Registries} {result' : Option Bool}
    (returns : Returns s c t result u) (again : Returns s c t result' u') :
    result = result' ∧ u = u' := by
  induction returns generalizing result' u' with
  | enumKnown known =>
    cases again with
    | enumKnown _ => exact ⟨rfl, rfl⟩
    | enumFresh fresh => exact absurd known fresh
  | enumFresh fresh =>
    cases again with
    | enumKnown known => exact absurd known fresh
    | enumFresh _ => exact ⟨rfl, rfl⟩
  | known known =>
    cases again with
    | known _ => exact ⟨rfl, rfl⟩
    | fresh fresh _ => exact absurd known fresh
  | fresh fresh _ ih =>
    cases again with
    | known known => exact absurd known fresh
    | fresh _ inner =>
      obtain ⟨-, rfl⟩ := ih inner
      exact ⟨rfl, rfl⟩
  | nil =>
    cases again
    exact ⟨rfl, rfl⟩
  | cons _ _ firstIh othersIh =>
    cases again with
    | cons first others =>
      obtain ⟨-, rfl⟩ := firstIh first
      exact othersIh others

theorem enums_isPrefix {c : Call} (returns : Returns s c t result u) : t.enums <+: u.enums := by
  induction returns with
  | enumKnown _ => exact List.prefix_rfl
  | enumFresh _ => exact List.prefix_append _ _
  | known _ => exact List.prefix_rfl
  | fresh _ _ ih =>
    rw [Registries.put_enums] at ih ⊢
    exact ih
  | nil => exact List.prefix_rfl
  | cons _ _ firstIh othersIh => exact firstIh.trans othersIh

theorem result_addEnum (returns : Returns s (.addEnum d) t result u) :
    ∃ added, result = some added ∧ (added = true ↔ d.fullName ∉ t.enumNames)
      ∧ (added = true → d ∈ u.enums) := by
  cases returns with
  | enumKnown known => exact ⟨false, rfl, by simpa using known, by simp⟩
  | enumFresh fresh => exact ⟨true, rfl, by simpa using fresh, by simp⟩

theorem result_addInterface (returns : Returns s (.addInterface d) t result u) :
    ∃ added, result = some added ∧ (added = true ↔ d.fullName ∉ t.slotNames)
      ∧ (added = true → s.slotOf d ∈ u.slots) := by
  cases returns with
  | known known => exact ⟨false, rfl, by simpa using known, by simp⟩
  | fresh fresh _ =>
    exact ⟨true, rfl, by simpa using fresh, fun _ => Registries.slot_mem_put _ _ _⟩

end Returns

end ApiClient
