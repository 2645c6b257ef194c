import ApiClient.Proofs.Declarations.Names
import ApiClient.Proofs.Declarations.Slots
import Mathlib.Data.List.Induction

/-!
Calls on the registries, and the same calls on declarations, where the entry of a class is made at
once.

A call goes on both in the same way, whichever slots are still empty (`Performs`), and it ends
since every class that is registered on the way is a type of the store that had no slot. Main
statement: after any calls the next one returns, in one way; it only adds, and leaves no slot
empty.
-/

set_option autoImplicit false

namespace ApiClient

namespace Declarations

variable {s : Scope}

def interfaceNames (t : Declarations) : List String :=
  t.interfaces.map fun e => e.descriptor.fullName

theorem hasInterface_iff {t : Declarations} {name : String} :
    t.hasInterface name = true ↔ name ∈ t.interfaceNames := by
  simp [hasInterface, interfaceNames]

theorem hasEnum_iff {t : Declarations} {name : String} :
    t.hasEnum name = true ↔ name ∈ t.enums.map TypeDescriptor.fullName := by
  simp [hasEnum]

def register (s : Scope) (t : Declarations) : Registration → Declarations
  | .enum d => t.addEnum d
  | .interface d => t.addInterface s d

def call (s : Scope) (t : Declarations) : Call → Declarations
  | .addEnum d => t.addEnum d
  | .addInterface d => t.addInterface s d
  | .apply registrations => registrations.foldl (register s) t

/-- Whether a call adds its type. -/
def adds (t : Declarations) : Call → Option Bool
  | .addEnum d => some !t.hasEnum d.fullName
  | .addInterface d => some !t.hasInterface d.fullName
  | .apply _ => none

theorem follow_singleton {q : Request} {r : Registration} (found : s.registration? q = some r)
    (t : Declarations) : follow s [q] t = register s t r := by
  obtain ⟨d, visible, rfl⟩ := Option.map_eq_some_iff.mp found
  cases q with
  | enum name =>
    have step := @FollowStep.enum s name [] t d visible
    exact step.follow_eq.trans (follow_nil _)
  | interface name =>
    have single := @follow_interface s name d visible [] t
    rw [List.append_nil, follow_nil] at single
    exact single

/-- Following requests is registering the types they are for. -/
theorem follow_eq (requests : List Request) (t : Declarations) :
    follow s requests t = (requests.filterMap s.registration?).foldl (register s) t := by
  induction requests generalizing t with
  | nil => rw [follow_nil]; rfl
  | cons q rest ih =>
    cases found : s.registration? q with
    | none =>
      have absent : s.store.find? q.fullName = none := Option.map_eq_none_iff.mp found
      rw [follow_absent absent, List.filterMap_cons_none found, ih]
    | some r =>
      rw [← List.singleton_append, follow_append, follow_singleton found, List.singleton_append,
        List.filterMap_cons_some found, List.foldl_cons, ih]

theorem registrationsOf_eq (d : TypeDescriptor) :
    s.registrationsOf d = (s.requestsOf d).filterMap s.registration? := by
  unfold Scope.registrationsOf Scope.requestsOf
  rw [List.filterMap_append, List.filterMap_flatMap]
  congr 1
  cases base : s.baseClass? d with
  | none => rfl
  | some b =>
    obtain ⟨r, -, found, -⟩ := Scope.baseClass?_eq_some_iff.mp base
    have visible : s.registration? (.interface b.fullName) = some (.interface b) :=
      Option.map_eq_some_iff.mpr ⟨b, TypeStore.find?_fullName found, rfl⟩
    simp [visible]

theorem find?_of_mem_registrationsOf {d : TypeDescriptor} {r : Registration}
    (member : r ∈ s.registrationsOf d) :
    s.store.find? r.descriptor.fullName = some r.descriptor := by
  rw [registrationsOf_eq] at member
  obtain ⟨q, -, found⟩ := List.mem_filterMap.mp member
  obtain ⟨d', visible, rfl⟩ := Option.map_eq_some_iff.mp found
  have same : (q.registration d').descriptor = d' := by cases q <;> rfl
  rw [same]
  exact TypeStore.find?_fullName visible

theorem addInterface_of_fresh {t : Declarations} {d : TypeDescriptor}
    (fresh : t.hasInterface d.fullName = false) :
    t.addInterface s d = (s.registrationsOf d).foldl (register s) (t.push (s.interfaceOf d)) := by
  rw [addInterface, if_neg (by simp [fresh]), follow_eq, registrationsOf_eq]

theorem Keyed.register {t : Declarations} (keyed : Keyed t) (r : Registration) :
    Keyed (register s t r) := by
  cases r with
  | enum d => exact keyed.addEnum d
  | interface d => exact keyed.addInterface d

theorem Keyed.call {t : Declarations} (keyed : Keyed t) (c : Call) : Keyed (call s t c) := by
  cases c with
  | addEnum d => exact keyed.addEnum d
  | addInterface d => exact keyed.addInterface d
  | apply registrations =>
    unfold Declarations.call
    induction registrations generalizing t with
    | nil => exact keyed
    | cons r rest ih => exact ih (keyed.register r)

/--
A call goes on the registries as it goes on declarations, whichever slots are still empty: those
stay as they are, and the slots that are new are filled.
-/
def Performs (s : Scope) (c : Call) (t : Declarations) (result : Option Bool)
    (u : Declarations) : Prop :=
  ∀ slots : List Slot, slots.map Slot.fullName = t.interfaceNames →
    ∃ classes : List TypeDescriptor, u.interfaces = t.interfaces ++ classes.map s.interfaceOf
      ∧ Returns s c ⟨t.enums, slots⟩ result ⟨u.enums, slots ++ classes.map s.slotOf⟩

variable {t u v : Declarations} {c : Call} {result : Option Bool}

theorem map_fullName_interfaceOf (classes : List TypeDescriptor) :
    (classes.map s.interfaceOf).map (fun e => e.descriptor.fullName)
      = classes.map TypeDescriptor.fullName := by
  rw [List.map_map]
  rfl

theorem map_fullName_slotOf (classes : List TypeDescriptor) :
    (classes.map s.slotOf).map Slot.fullName = classes.map TypeDescriptor.fullName := by
  rw [List.map_map]
  rfl

/-- A call that leaves the interfaces alone. -/
theorem performs_of_interfaces_eq (kept : u.interfaces = t.interfaces)
    (returns : ∀ slots : List Slot, slots.map Slot.fullName = t.interfaceNames →
      Returns s c ⟨t.enums, slots⟩ result ⟨u.enums, slots⟩) : Performs s c t result u := by
  intro slots named
  have returned := returns slots named
  refine ⟨[], by rw [kept, List.map_nil, List.append_nil], ?_⟩
  rw [List.map_nil, List.append_nil]
  exact returned

theorem performs_addEnum (t : Declarations) (d : TypeDescriptor) :
    Performs s (.addEnum d) t (some !t.hasEnum d.fullName) (t.addEnum d) := by
  unfold addEnum
  cases held : t.hasEnum d.fullName with
  | true =>
    refine performs_of_interfaces_eq rfl fun slots _ => ?_
    exact .enumKnown (hasEnum_iff.mp held)
  | false =>
    refine performs_of_interfaces_eq rfl fun slots _ => .enumFresh fun member => ?_
    have known : t.hasEnum d.fullName = true := hasEnum_iff.mpr member
    simp [held] at known

theorem performs_known {d : TypeDescriptor} (known : t.hasInterface d.fullName = true) :
    Performs s (.addInterface d) t (some false) t := by
  refine performs_of_interfaces_eq rfl fun slots named => .known ?_
  rw [hasInterface_iff, ← named] at known
  exact known

/-- The call that fills a slot finds it where it was reserved. -/
theorem performs_fresh {d : TypeDescriptor} (fresh : t.hasInterface d.fullName = false)
    (keyed : Keyed u)
    (inner : Performs s (.apply (s.registrationsOf d)) (t.push (s.interfaceOf d)) none u) :
    Performs s (.addInterface d) t (some true) u := by
  intro slots named
  have absent : d.fullName ∉ slots.map Slot.fullName := by
    rw [named, ← hasInterface_iff, fresh]
    simp
  have reserved : (slots ++ [Slot.mk d.fullName none]).map Slot.fullName
      = (t.push (s.interfaceOf d)).interfaceNames := by
    simp [named, interfaceNames, push, Scope.interfaceOf]
  obtain ⟨classes, made, returns⟩ := inner _ reserved
  have all : u.interfaces = t.interfaces ++ (d :: classes).map s.interfaceOf := by
    simpa [push] using made
  have behind : d.fullName ∉ (classes.map s.slotOf).map Slot.fullName := by
    have distinct := keyed.interfaces
    rw [all, List.map_append, map_fullName_interfaceOf] at distinct
    rw [map_fullName_slotOf]
    exact (List.nodup_cons.mp (List.nodup_append.mp distinct).2.1).1
  have filled := @Registries.put_reserved u.enums slots (classes.map s.slotOf) d.fullName absent
    behind none (some (s.interfaceOf d))
  have target : Registries.mk u.enums (slots ++ (d :: classes).map s.slotOf)
      = (Registries.mk u.enums (slots ++ ⟨d.fullName, none⟩ :: classes.map s.slotOf)).put
        d.fullName (some (s.interfaceOf d)) := filled.symm
  refine ⟨d :: classes, all, ?_⟩
  rw [target]
  refine .fresh absent ?_
  rw [Registries.put_of_notMem absent]
  rw [List.append_assoc, List.singleton_append] at returns
  exact returns

theorem performs_nil (t : Declarations) : Performs s (.apply []) t none t :=
  performs_of_interfaces_eq rfl fun _ _ => .nil

theorem performs_cons {r : Registration} {rest : List Registration}
    (first : Performs s r.call t result u) (others : Performs s (.apply rest) u none v) :
    Performs s (.apply (r :: rest)) t none v := by
  intro slots named
  obtain ⟨classes, made, returns⟩ := first slots named
  have grown : (slots ++ classes.map s.slotOf).map Slot.fullName = u.interfaceNames := by
    unfold interfaceNames at named ⊢
    rw [made, List.map_append, List.map_append, named, map_fullName_slotOf,
      map_fullName_interfaceOf]
  obtain ⟨later, made', returns'⟩ := others _ grown
  refine ⟨classes ++ later, ?_, ?_⟩
  · rw [made', made, List.map_append, List.append_assoc]
  · rw [List.append_assoc, ← List.map_append] at returns'
    exact .cons returns returns'

theorem Performs.length_undeclared_le (performs : Performs s c t result u) :
    (undeclared s u).length ≤ (undeclared s t).length := by
  obtain ⟨classes, made, -⟩ :=
    performs (t.interfaceNames.map fun name => ⟨name, none⟩) (by simp [Function.comp_def])
  refine (List.monotone_filter_right _ fun d fresh => ?_).length_le
  simp only [hasInterface, made, List.any_append, Bool.not_or, Bool.and_eq_true] at fresh
  exact fresh.1

/-- Registering one type after the other, as long as each of them returns. -/
theorem performs_apply {n : Nat} {registrations : List Registration}
    (each : ∀ r ∈ registrations, ∀ t, Keyed t → (undeclared s t).length ≤ n →
      Performs s r.call t (t.adds r.call) (register s t r))
    {t : Declarations} (keyed : Keyed t) (bound : (undeclared s t).length ≤ n) :
    Performs s (.apply registrations) t none (registrations.foldl (register s) t) := by
  induction registrations generalizing t with
  | nil => exact performs_nil t
  | cons r rest ih =>
    have first := each r List.mem_cons_self t keyed bound
    refine performs_cons first (ih (fun q later => each q (List.mem_cons_of_mem r later)) ?_ ?_)
    · exact keyed.register r
    · exact first.length_undeclared_le.trans bound

/-- Registering a type returns when all that it needs does. -/
theorem performs_register {r : Registration} (keyed : Keyed t)
    (inner : ∀ d, r = .interface d → t.hasInterface d.fullName = false →
      Performs s (.apply (s.registrationsOf d)) (t.push (s.interfaceOf d)) none
        ((s.registrationsOf d).foldl (register s) (t.push (s.interfaceOf d)))) :
    Performs s r.call t (t.adds r.call) (register s t r) := by
  cases r with
  | enum d => exact performs_addEnum t d
  | interface d =>
    have kept := @Keyed.addInterface s t keyed d
    change Performs s (.addInterface d) t (some !t.hasInterface d.fullName) (t.addInterface s d)
    cases held : t.hasInterface d.fullName with
    | true =>
      rw [addInterface, if_pos held]
      exact performs_known held
    | false =>
      rw [addInterface_of_fresh held] at kept ⊢
      exact performs_fresh held kept (inner d rfl held)

/-- A class of the store leaves fewer types of the store undeclared, so its registration ends. -/
theorem performs_of_find? {r : Registration}
    (visible : s.store.find? r.descriptor.fullName = some r.descriptor) (keyed : Keyed t) :
    Performs s r.call t (t.adds r.call) (register s t r) := by
  induction size : (undeclared s t).length using Nat.strong_induction_on generalizing r t with
  | _ n ih =>
    refine performs_register keyed fun d same fresh => ?_
    subst same
    have smaller := length_undeclared_push_lt visible (ne_true_of_eq_false fresh)
    refine performs_apply (fun q member u keyed bound => ?_) (keyed.push fresh) le_rfl
    have less : (undeclared s u).length < n := size ▸ bound.trans_lt smaller
    exact ih _ less (find?_of_mem_registrationsOf member) keyed rfl

theorem performs_registration (keyed : Keyed t) (r : Registration) :
    Performs s r.call t (t.adds r.call) (register s t r) := by
  refine performs_register keyed fun d _ fresh => ?_
  refine performs_apply (fun q member u keyed _ => ?_) (keyed.push fresh) le_rfl
  exact performs_of_find? (find?_of_mem_registrationsOf member) keyed

theorem performs_call (keyed : Keyed t) (c : Call) :
    Performs s c t (t.adds c) (call s t c) := by
  cases c with
  | addEnum d => exact performs_addEnum t d
  | addInterface d => exact performs_registration keyed (.interface d)
  | apply registrations =>
    exact performs_apply (fun r _ u keyed _ => performs_registration keyed r) keyed le_rfl

/-- Declarations as registries: each interface is the entry of its slot. -/
def registries (t : Declarations) : Registries :=
  ⟨t.enums, t.interfaces.map fun e => ⟨e.descriptor.fullName, some e⟩⟩

theorem slotNames_registries (t : Declarations) : t.registries.slotNames = t.interfaceNames := by
  simp [registries, Registries.slotNames, interfaceNames]

theorem entries_registries (t : Declarations) : t.registries.entries = t.interfaces := by
  simp [registries, Registries.entries, List.filterMap_map]

theorem returns_registries (keyed : Keyed t) (c : Call) :
    ∃ classes : List TypeDescriptor,
      (call s t c).interfaces = t.interfaces ++ classes.map s.interfaceOf
      ∧ (call s t c).registries.slots = t.registries.slots ++ classes.map s.slotOf
      ∧ Returns s c t.registries (t.adds c) (call s t c).registries := by
  obtain ⟨classes, made, returns⟩ :=
    performs_call (s := s) keyed c t.registries.slots (slotNames_registries t)
  have grown : (call s t c).registries.slots = t.registries.slots ++ classes.map s.slotOf := by
    simp only [registries, made, List.map_append, List.map_map]
    rfl
  rw [← grown] at returns
  exact ⟨classes, made, grown, returns⟩

/-- Make calls in order, from nothing declared on. -/
def after (s : Scope) (calls : List Call) : Declarations := calls.foldl (call s) empty

theorem after_append_singleton (s : Scope) (calls : List Call) (c : Call) :
    after s (calls ++ [c]) = call s (after s calls) c := List.foldl_concat _ _ _ _

theorem keyed_after (s : Scope) (calls : List Call) : Keyed (after s calls) := by
  induction calls using List.reverseRecOn with
  | nil => exact keyed_empty
  | append_singleton calls c ih =>
    rw [after_append_singleton]
    exact ih.call c

theorem exists_interfaces_after (s : Scope) (calls : List Call) :
    ∃ classes : List TypeDescriptor, (after s calls).interfaces = classes.map s.interfaceOf := by
  induction calls using List.reverseRecOn with
  | nil => exact ⟨[], rfl⟩
  | append_singleton calls c ih =>
    obtain ⟨before, held⟩ := ih
    obtain ⟨classes, made, -⟩ := returns_registries (keyed_after s calls) c
    rw [after_append_singleton, made, held]
    exact ⟨before ++ classes, (List.map_append).symm⟩

theorem reaches_iff {calls : List Call} {t : Registries} :
    Reaches s calls t ↔ t = (after s calls).registries := by
  constructor
  · intro reaches
    induction reaches with
    | start => rfl
    | @step calls c result t u _ returns ih =>
      obtain ⟨-, -, -, again⟩ := returns_registries (s := s) (keyed_after s calls) c
      rw [after_append_singleton]
      exact (returns.unique (ih ▸ again)).2
  · rintro rfl
    induction calls using List.reverseRecOn with
    | nil => exact .start
    | append_singleton calls c ih =>
      obtain ⟨-, -, -, returns⟩ := returns_registries (s := s) (keyed_after s calls) c
      rw [after_append_singleton]
      exact .step ih returns

end Declarations

namespace Registries

theorem settled_after (s : Scope) (calls : List Call) :
    (Declarations.after s calls).registries.Settled s := by
  have keyed := Declarations.keyed_after s calls
  obtain ⟨classes, made⟩ := Declarations.exists_interfaces_after s calls
  constructor
  case enumNames => exact keyed.enums
  case slotNames => exact (Declarations.slotNames_registries _).symm ▸ keyed.interfaces
  case filled =>
    rw [Declarations.entries_registries]
    exact (List.length_map _).symm
  case entry =>
    intro slot member
    obtain ⟨e, held, rfl⟩ := List.mem_map.mp member
    rw [made] at held
    obtain ⟨d, -, rfl⟩ := List.mem_map.mp held
    exact ⟨_, rfl, rfl, s.renders_interfaceOf d⟩

end Registries

/--
After any calls the next one returns, in one way. Nothing that was registered changes or moves, no
name is held twice, no slot is left empty, and a type is added just when its name is new. The
registries are those that the declarations stand for, where no slot is ever empty.
-/
theorem Registries.exists_returns (s : Scope) (calls : List Call) (c : Call) :
    ∃ t result u, (∀ t', Reaches s calls t' ↔ t' = t)
      ∧ (∀ result' u', Returns s c t result' u' ↔ result' = result ∧ u' = u)
      ∧ u.Settled s ∧ t.enums <+: u.enums ∧ t.slots <+: u.slots
      ∧ (∀ d, c = .addEnum d → ∃ added, result = some added
        ∧ (added = true ↔ d.fullName ∉ t.enumNames) ∧ (added = true → d ∈ u.enums))
      ∧ (∀ d, c = .addInterface d → ∃ added, result = some added
        ∧ (added = true ↔ d.fullName ∉ t.slotNames) ∧ (added = true → s.slotOf d ∈ u.slots))
      ∧ t = (Declarations.after s calls).registries
      ∧ u = (Declarations.after s (calls ++ [c])).registries := by
  obtain ⟨classes, -, grown, returns⟩ :=
    Declarations.returns_registries (s := s) (Declarations.keyed_after s calls) c
  rw [← Declarations.after_append_singleton] at grown returns
  refine ⟨_, (Declarations.after s calls).adds c, _, fun _ => Declarations.reaches_iff,
    fun result' u' => ?_,
    settled_after s (calls ++ [c]), returns.enums_isPrefix, ?_, ?_, ?_, rfl, rfl⟩
  · constructor
    · exact fun again => again.unique returns
    · rintro ⟨rfl, rfl⟩
      exact returns
  · exact grown ▸ List.prefix_append _ _
  · rintro d rfl
    exact returns.result_addEnum
  · rintro d rfl
    exact returns.result_addInterface

end ApiClient
