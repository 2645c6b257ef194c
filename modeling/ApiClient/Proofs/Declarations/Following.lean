import ApiClient.Declarations
import ApiClient.Proofs.Resolution
import Mathlib.Order.Bounds.Basic

/-!
Following requests, one at a time.

`FollowStep` says once what meeting the first request can do; every fact about `follow` is an
invariant of such steps. Main statement: what is declared in the end is the least set that holds
the requests and, with an interface, all that its class requests.
-/

set_option autoImplicit false

namespace ApiClient

namespace Scope

variable {s : Scope}

theorem baseClass?_eq_some_iff {d b : TypeDescriptor} :
    s.baseClass? d = some b
      ↔ ∃ r, d.baseType = some r ∧ s.store.find? r.name = some b ∧ b.kind = .classType := by
  unfold baseClass?
  cases d.baseType <;> simp [Option.filter_eq_some_iff]

theorem resolve_field (s : Scope) (f : Field) :
    s.resolve f.type none [] (some "any") = .ok (s.fieldResolution f) := by
  unfold resolve fieldResolution
  cases s.resolve? f.type none [] <;> rfl

theorem fieldResolution_writing (s : Scope) (f : Field) : s.Writing (s.fieldResolution f) := by
  unfold fieldResolution
  cases resolved : s.resolve? f.type none [] with
  | some resolution => exact (rule_of_resolve? resolved).writing
  | none => exact writing_ofFallback (by decide)

theorem mem_requestsOf {d : TypeDescriptor} {q : Request} :
    q ∈ s.requestsOf d ↔ (∃ b, s.baseClass? d = some b ∧ q = .interface b.fullName)
      ∨ ∃ f ∈ d.fields, q ∈ (s.fieldResolution f).requests := by
  unfold requestsOf
  cases s.baseClass? d <;> simp

theorem requestsOf_visible {d : TypeDescriptor} {q : Request} (asked : q ∈ s.requestsOf d) :
    ∃ d', s.store.find? q.fullName = some d' := by
  rcases mem_requestsOf.mp asked with ⟨b, base, rfl⟩ | ⟨f, -, asked⟩
  · obtain ⟨r, -, found, -⟩ := baseClass?_eq_some_iff.mp base
    exact ⟨b, TypeStore.find?_fullName found⟩
  · obtain ⟨d', found, -⟩ := (s.fieldResolution_writing f).visible asked
    exact ⟨d', found⟩

end Scope

namespace Declarations

variable {s : Scope}

def meets (t : Declarations) : Request → Prop
  | .enum name => t.hasEnum name = true
  | .interface name => t.hasInterface name = true

@[simp] theorem not_meets_empty (q : Request) : ¬ empty.meets q := by
  cases q <;> simp [meets, empty, hasEnum, hasInterface]

theorem meets_addEnum {d : TypeDescriptor} {t : Declarations} {q : Request} :
    (t.addEnum d).meets q ↔ t.meets q ∨ q = .enum d.fullName := by
  cases q with
  | enum name =>
    unfold addEnum
    split
    · next known =>
      simp only [meets, Request.enum.injEq]
      exact ⟨.inl, fun either => either.elim id fun same => same ▸ known⟩
    · simp [meets, hasEnum, eq_comm (a := d.fullName)]
  | interface name => simp [meets]

theorem meets_push {e : InterfaceEntry} {t : Declarations} {q : Request} :
    (t.push e).meets q ↔ t.meets q ∨ q = .interface e.descriptor.fullName := by
  cases q with
  | enum name => simp [meets, push, hasEnum]
  | interface name => simp [meets, eq_comm (a := e.descriptor.fullName)]

/-- What meeting the first request does. -/
inductive FollowStep (s : Scope) : List Request → Declarations → List Request → Declarations → Prop
  | absent {q : Request} {rest : List Request} {t : Declarations}
      (found : s.store.find? q.fullName = none) : FollowStep s (q :: rest) t rest t
  | enum {name : String} {rest : List Request} {t : Declarations} {d : TypeDescriptor}
      (found : s.store.find? name = some d) :
      FollowStep s (.enum name :: rest) t rest (t.addEnum d)
  | known {name : String} {rest : List Request} {t : Declarations} {d : TypeDescriptor}
      (found : s.store.find? name = some d) (known : t.hasInterface d.fullName = true) :
      FollowStep s (.interface name :: rest) t rest t
  | fresh {name : String} {rest : List Request} {t : Declarations} {d : TypeDescriptor}
      (found : s.store.find? name = some d) (fresh : t.hasInterface d.fullName = false) :
      FollowStep s (.interface name :: rest) t (s.requestsOf d ++ rest) (t.push (s.interfaceOf d))

/-- What every step keeps holds when all requests are followed. -/
theorem follow_invariant {I : List Request → Declarations → Prop}
    (step : ∀ requests t requests' t', FollowStep s requests t requests' t' →
      I requests t → I requests' t')
    {requests : List Request} {t : Declarations} (start : I requests t) :
    I [] (follow s requests t) := by
  fun_induction follow s requests t with
  | case1 t => exact start
  | case2 name rest t d found ih => exact ih (step _ _ _ _ (.enum found) start)
  | case3 name rest t found ih => exact ih (step _ _ _ _ (.absent (q := .enum name) found) start)
  | case4 name rest t d found known ih => exact ih (step _ _ _ _ (.known found known) start)
  | case5 name rest t d found fresh ih =>
    exact ih (step _ _ _ _ (.fresh found (by simpa using fresh)) start)
  | case6 name rest t found ih =>
    exact ih (step _ _ _ _ (.absent (q := .interface name) found) start)

theorem follow_nil (t : Declarations) : follow s [] t = t := by rw [follow]

theorem follow_absent {q : Request} (found : s.store.find? q.fullName = none)
    (rest : List Request) (t : Declarations) : follow s (q :: rest) t = follow s rest t := by
  cases q with
  | enum name =>
    have absent : s.store.find? name = none := found
    rw [follow, absent]
  | interface name =>
    have absent : s.store.find? name = none := found
    rw [follow]
    split
    · next d found => rw [absent] at found; cases found
    · rfl

theorem follow_interface {name : String} {d : TypeDescriptor}
    (found : s.store.find? name = some d) (rest : List Request) (t : Declarations) :
    follow s (.interface name :: rest) t
      = if t.hasInterface d.fullName = true then follow s rest t
        else follow s (s.requestsOf d ++ rest) (t.push (s.interfaceOf d)) := by
  rw [follow]
  split
  · next d' found' =>
    obtain rfl : d = d' := Option.some.inj (found.symm.trans found')
    rfl
  · next absent => rw [found] at absent; cases absent

/-- A step does not change what following leads to. -/
theorem FollowStep.follow_eq {requests requests' : List Request} {t t' : Declarations}
    (step : FollowStep s requests t requests' t') :
    follow s requests t = follow s requests' t' := by
  cases step with
  | absent found => exact follow_absent found _ _
  | enum found => rw [follow, found]
  | known found known => rw [follow_interface found, if_pos known]
  | fresh found fresh => rw [follow_interface found, if_neg (by simp [fresh])]

theorem FollowStep.append {requests requests' : List Request} {t t' : Declarations}
    (step : FollowStep s requests t requests' t') (later : List Request) :
    FollowStep s (requests ++ later) t (requests' ++ later) t' := by
  cases step with
  | absent found => exact .absent found
  | enum found => exact .enum found
  | known found known => exact .known found known
  | fresh found fresh =>
    rw [List.append_assoc]
    exact .fresh found fresh

theorem follow_append (requests later : List Request) (t : Declarations) :
    follow s (requests ++ later) t = follow s later (follow s requests t) := by
  have kept : follow s ([] ++ later) (follow s requests t) = follow s (requests ++ later) t :=
    follow_invariant
      (I := fun requests' t' => follow s (requests' ++ later) t' = follow s (requests ++ later) t)
      (fun _ _ _ _ step same => (step.append later).follow_eq.symm.trans same) rfl
  exact kept.symm

/-- A request for a type of the store stays met or due until it is met. -/
theorem FollowStep.meets_or_mem {requests requests' : List Request} {t t' : Declarations}
    (step : FollowStep s requests t requests' t') {q : Request}
    (visible : ∃ d, s.store.find? q.fullName = some d) (due : t.meets q ∨ q ∈ requests) :
    t'.meets q ∨ q ∈ requests' := by
  cases step with
  | absent found =>
    rcases due with met | member
    · exact .inl met
    · rcases List.mem_cons.mp member with rfl | later
      · obtain ⟨d, found'⟩ := visible
        simp [found] at found'
      · exact .inr later
  | enum found =>
    rw [meets_addEnum]
    rcases due with met | member
    · exact .inl (.inl met)
    · rcases List.mem_cons.mp member with rfl | later
      · exact .inl (.inr (by rw [TypeStore.fullName_of_find? found]))
      · exact .inr later
  | known found known =>
    rcases due with met | member
    · exact .inl met
    · rcases List.mem_cons.mp member with rfl | later
      · exact .inl (TypeStore.fullName_of_find? found ▸ known)
      · exact .inr later
  | fresh found fresh =>
    rw [meets_push]
    rcases due with met | member
    · exact .inl (.inl met)
    · rcases List.mem_cons.mp member with rfl | later
      · exact .inl (.inr (by simp [Scope.interfaceOf, TypeStore.fullName_of_find? found]))
      · exact .inr (List.mem_append_right _ later)

theorem meets_follow {requests : List Request} {t : Declarations} {q : Request}
    (visible : ∃ d, s.store.find? q.fullName = some d) (due : t.meets q ∨ q ∈ requests) :
    (follow s requests t).meets q := by
  have kept : (follow s requests t).meets q ∨ q ∈ [] :=
    follow_invariant (I := fun requests t => t.meets q ∨ q ∈ requests)
      (fun _ _ _ _ step => step.meets_or_mem visible) due
  exact kept.resolve_right (by simp)

/-- All that the declared classes request is met or due. -/
def Settled (s : Scope) (requests : List Request) (t : Declarations) : Prop :=
  ∀ d, s.store.find? d.fullName = some d → t.meets (.interface d.fullName) →
    ∀ q ∈ s.requestsOf d, t.meets q ∨ q ∈ requests

theorem FollowStep.settled {requests requests' : List Request} {t t' : Declarations}
    (step : FollowStep s requests t requests' t') (settled : Settled s requests t) :
    Settled s requests' t' := by
  intro d found declared q asked
  have visible := Scope.requestsOf_visible asked
  have before : t.meets (.interface d.fullName) → t'.meets q ∨ q ∈ requests' :=
    fun met => step.meets_or_mem visible (settled d found met q asked)
  cases step with
  | absent _ => exact before declared
  | enum _ => exact before ((meets_addEnum.mp declared).resolve_right (by simp))
  | known _ _ => exact before declared
  | fresh found' _ =>
    rcases meets_push.mp declared with met | same
    · exact before met
    · -- the class that the step declares: its requests have just become due
      simp only [Request.interface.injEq, Scope.interfaceOf] at same
      rw [same, TypeStore.find?_fullName found'] at found
      obtain rfl := Option.some.inj found
      exact .inr (List.mem_append_left _ asked)

/-- A set of requests that holds all that the classes of its interfaces request. -/
def IsClosed (s : Scope) (T : Set Request) : Prop :=
  ∀ d, s.store.find? d.fullName = some d → .interface d.fullName ∈ T →
    ∀ q ∈ s.requestsOf d, q ∈ T

/-- What is due and what is met lie in a set. -/
def Within (T : Set Request) (requests : List Request) (t : Declarations) : Prop :=
  (∀ q ∈ requests, q ∈ T) ∧ ∀ q, t.meets q → q ∈ T

theorem FollowStep.within {T : Set Request} (closed : IsClosed s T)
    {requests requests' : List Request} {t t' : Declarations}
    (step : FollowStep s requests t requests' t') (within : Within T requests t) :
    Within T requests' t' := by
  obtain ⟨due, met⟩ := within
  cases step with
  | absent _ => exact ⟨fun q member => due q (List.mem_cons_of_mem _ member), met⟩
  | enum found =>
    refine ⟨fun q member => due q (List.mem_cons_of_mem _ member), fun q met' => ?_⟩
    rcases meets_addEnum.mp met' with old | rfl
    · exact met q old
    · rw [TypeStore.fullName_of_find? found]
      exact due _ List.mem_cons_self
  | known _ _ => exact ⟨fun q member => due q (List.mem_cons_of_mem _ member), met⟩
  | fresh found _ =>
    have head := due _ List.mem_cons_self
    rw [← TypeStore.fullName_of_find? found] at head
    constructor
    · intro q member
      rcases List.mem_append.mp member with asked | later
      · exact closed _ (TypeStore.find?_fullName found) head q asked
      · exact due q (List.mem_cons_of_mem _ later)
    · intro q met'
      rcases meets_push.mp met' with old | rfl
      · exact met q old
      · exact head

/-- Following requests declares the least closed set that holds them. -/
theorem follow_isLeast {requests : List Request}
    (visible : ∀ q ∈ requests, ∃ d, s.store.find? q.fullName = some d) :
    IsLeast {T : Set Request | (∀ q ∈ requests, q ∈ T) ∧ IsClosed s T}
      {q | (follow s requests .empty).meets q} := by
  constructor
  · constructor
    · intro q member
      exact meets_follow (visible q member) (.inr member)
    · intro d found declared q asked
      have settled : Settled s [] (follow s requests .empty) :=
        follow_invariant (fun _ _ _ _ step => step.settled)
          fun _ _ declared => absurd declared (not_meets_empty _)
      exact (settled d found declared q asked).resolve_right (by simp)
  · rintro T ⟨holds, closed⟩ q met
    have within : Within T [] (follow s requests .empty) :=
      follow_invariant (fun _ _ _ _ step => step.within closed)
        ⟨holds, fun q met => absurd met (not_meets_empty q)⟩
    exact within.2 q met

/-- Declared enumerations are types of the store; declared interfaces stand for classes of it. -/
structure IsDrawn (s : Scope) (t : Declarations) : Prop where
  enums : ∀ d ∈ t.enums, s.store.find? d.fullName = some d
  interfaces : ∀ e ∈ t.interfaces,
    s.store.find? e.descriptor.fullName = some e.descriptor ∧ e = s.interfaceOf e.descriptor

theorem FollowStep.isDrawn {requests requests' : List Request} {t t' : Declarations}
    (step : FollowStep s requests t requests' t') (drawn : IsDrawn s t) : IsDrawn s t' := by
  cases step with
  | absent _ => exact drawn
  | @enum _ _ _ d found =>
    unfold addEnum
    split
    · exact drawn
    · refine ⟨fun d' member => ?_, drawn.interfaces⟩
      rcases List.mem_append.mp member with old | new
      · exact drawn.enums d' old
      · obtain rfl := List.mem_singleton.mp new
        exact TypeStore.find?_fullName found
  | known _ _ => exact drawn
  | fresh found _ =>
    refine ⟨drawn.enums, fun e member => ?_⟩
    rcases List.mem_append.mp member with old | new
    · exact drawn.interfaces e old
    · obtain rfl := List.mem_singleton.mp new
      exact ⟨TypeStore.find?_fullName found, rfl⟩

theorem isDrawn_follow (s : Scope) (requests : List Request) :
    IsDrawn s (follow s requests .empty) :=
  follow_invariant (I := fun _ t => IsDrawn s t) (fun _ _ _ _ step => step.isDrawn)
    ⟨fun _ member => (by cases member), fun _ member => (by cases member)⟩

end Declarations

end ApiClient
