import ApiClient.Proofs.Binding.Alike
import ApiClient.Proofs.Generation.Refusals

/-!
What the switches for declared enumerations and interfaces can change.

They decide whether a type is declared and how it is then named, and nothing else about the
controllers. Main statement: the controllers that two settings of the switches bind are alike, and
so are the generations, unless just one of them has to write a constant that is too long.
-/

set_option autoImplicit false

namespace ApiClient

/-- A scope with other switches. -/
def Scope.switched (s : Scope) (enums interfaces : Bool) : Scope :=
  { s with
    settings := { s.settings with generateEnums := enums, generateInterfaces := interfaces } }

/--
Types that are alike but for the names of enumerations and objects, where no forced type gives
them, and for whether such an enumeration is a number.
-/
structure ResolvedType.AlikeSwitched (r r' : ResolvedType) : Prop where
  isEnum : r'.isEnum = r.isEnum
  isCollection : r'.isCollection = r.isCollection
  mapping : r'.mapping = r.mapping
  isPrimitive : ¬ (r.mapping = none ∧ r.isEnum = true) → r'.isPrimitive = r.isPrimitive
  typeName : ¬ (r.mapping = none ∧ (r.isEnum = true ∨ r.isPrimitive = false)) →
    r'.typeName = r.typeName

/-- Parts with types that are alike, and the same in all else. -/
structure Part.AlikeSwitched (p p' : Part) : Prop where
  parameter : p'.parameter = p.parameter
  location : p'.location = p.location
  resolved : p.resolved.AlikeSwitched p'.resolved
  optional : p'.optional = p.optional
  constraints : p'.constraints = p.constraints

theorem ResolvedType.AlikeSwitched.rfl {r : ResolvedType} : r.AlikeSwitched r :=
  ⟨Eq.refl _, Eq.refl _, Eq.refl _, fun _ => Eq.refl _, fun _ => Eq.refl _⟩

theorem ResolvedType.AlikeSwitched.isScalar {r r' : ResolvedType} (alike : r.AlikeSwitched r') :
    r'.isScalar = r.isScalar := by
  unfold ResolvedType.isScalar
  rw [alike.isEnum]
  cases isEnum : r.isEnum with
  | true => rw [Bool.or_true, Bool.or_true]
  | false => rw [alike.isPrimitive (by simp [isEnum])]

namespace Scope

variable (s : Scope) (enums interfaces : Bool)

theorem alike_ofEnum (isCollection : Bool) (d : TypeDescriptor) :
    (s.ofEnum isCollection d).resolved.AlikeSwitched
      ((s.switched enums interfaces).ofEnum isCollection d).resolved := by
  unfold ofEnum
  split <;> split <;> exact ⟨rfl, rfl, rfl, by simp, by simp⟩

theorem alike_ofObject (isCollection : Bool) (d : TypeDescriptor) :
    (s.ofObject isCollection d).resolved.AlikeSwitched
      ((s.switched enums interfaces).ofObject isCollection d).resolved := by
  unfold ofObject
  split <;> split <;> exact ⟨rfl, rfl, rfl, by simp, by simp⟩

/-- The same rule decides on a reference under all switches. -/
theorem alike_resolve? (r : TypeRef) (parameter : Option Parameter) (constraints : List String) :
    Option.Rel (fun x y => x.resolved.AlikeSwitched y.resolved)
      (s.resolve? r parameter constraints)
      ((s.switched enums interfaces).resolve? r parameter constraints) := by
  have mapping : (s.switched enums interfaces).findMapping? r parameter constraints
      = s.findMapping? r parameter constraints := rfl
  have store : (s.switched enums interfaces).store = s.store := rfl
  unfold resolve? ofCore?
  rw [mapping, store]
  cases s.findMapping? r parameter constraints with
  | some m => exact .some .rfl
  | none =>
    dsimp only
    cases (s.store.find? r.core.name).filter TypeDescriptor.isEnum with
    | some d => exact .some (alike_ofEnum s enums interfaces _ d)
    | none =>
      cases primitiveTypes.lookup r.core.fullName with
      | some name => exact .some .rfl
      | none =>
        dsimp only
        split
        · exact .some (alike_ofObject s enums interfaces _ _)
        · exact .none

theorem collects_any : Collects fun _ _ => True := ⟨trivial, fun _ _ => trivial⟩

theorem bindsAlike_switched (p : Parameter) :
    BindsAlike (fun _ _ => True) Part.AlikeSwitched s (s.switched enums interfaces) p := by
  intro prefixSegments routeSegments verb
  unfold bindParameter resolve
  cases placeOf prefixSegments routeSegments verb p with
  | mk location constraints =>
    dsimp only
    have resolved := alike_resolve? s enums interfaces p.type (some p) constraints
    generalize s.resolve? p.type (some p) constraints = x at resolved ⊢
    generalize (s.switched enums interfaces).resolve? p.type (some p) constraints = y
      at resolved ⊢
    cases resolved with
    | none => exact .refuse collects_any _
    | @some x y alike =>
      have misplaced : isMisplaced location y.resolved = isMisplaced location x.resolved := by
        unfold isMisplaced
        rw [alike.isCollection, alike.isScalar]
      dsimp only
      rw [misplaced]
      split
      · exact .refuse collects_any _
      · exact ⟨trivial, .ok ⟨rfl, rfl, alike, rfl, rfl⟩⟩

end Scope

theorem firstUnbound?_congr {P : Part → Part → Prop} {controllers controllers' : List Controller}
    (alike : List.Forall₂ (Controller.Alike P) controllers controllers') :
    Document.firstUnbound? controllers' = Document.firstUnbound? controllers := by
  have same : ∀ c c', Controller.Alike P c c' →
      c'.entries.flatMap Entry.unboundRefusals = c.entries.flatMap Entry.unboundRefusals :=
    fun c c' alike => flatMap_eq_of_forall₂ alike.entries fun e e' alike => by
      rw [alike.others]
      rfl
  rw [Document.firstUnbound?_eq, Document.firstUnbound?_eq, flatMap_eq_of_forall₂ alike same]

namespace Scope

variable {s t : Scope} {P : Part → Part → Prop}

/-- A constant that is too long has to be written. -/
def DeclaresLong (s : Scope) : Prop :=
  s.settings.generateEnums = true ∧ ∃ d ∈ s.declared.enums, ∃ m ∈ d.members, IsLong m.value

/-- Generations of controllers that differ in the parts of their entries only. -/
def AlikeGenerations (P : Part → Part → Prop) :
    Except Refusal Generation → Except Refusal Generation → Prop :=
  AlikeResults fun g g' => List.Forall₂ (Controller.Alike P) g.controllers g'.controllers

/-- Only constants can make a difference between scopes that bind alike. -/
theorem alikeGenerations_iff
    (alike : AlikeResults (List.Forall₂ (Controller.Alike P)) s.bindControllers.result
      t.bindControllers.result) :
    AlikeGenerations P s.generate t.generate
      ↔ ∀ controllers, s.bindControllers.result = .ok controllers →
        Document.firstUnbound? controllers = none → (s.DeclaresLong ↔ t.DeclaresLong) := by
  have long : ∀ s : Scope, s.DeclaresLong ↔ s.areEnumsWritable s.declared = false :=
    fun s => areEnumsWritable_eq_false_iff.symm
  rw [generate_eq, generate_eq, long s, long t]
  generalize s.bindControllers.result = x at alike ⊢
  generalize t.bindControllers.result = y at alike ⊢
  cases alike with
  | refused r =>
    refine iff_of_true (.refused r) ?_
    rintro controllers ⟨⟩
  | @ok controllers controllers' related =>
    simp only [Except.bind, firstUnbound?_congr related, Except.ok.injEq, forall_eq']
    cases Document.firstUnbound? controllers with
    | some r => exact iff_of_true (.refused r) (by simp)
    | none =>
      cases s.areEnumsWritable s.declared with
      | false =>
        cases t.areEnumsWritable t.declared with
        | false => exact iff_of_true (.refused _) (by simp)
        | true => exact iff_of_false (by rintro ⟨⟩) (by simp)
      | true =>
        cases t.areEnumsWritable t.declared with
        | false => exact iff_of_false (by rintro ⟨⟩) (by simp)
        | true => exact iff_of_true (.ok related) (by simp)

theorem alike_bindControllers_switched (s : Scope) (enums interfaces : Bool) :
    AlikeResults (List.Forall₂ (Controller.Alike Part.AlikeSwitched)) s.bindControllers.result
      (s.switched enums interfaces).bindControllers.result := by
  have names : ∀ p p', Part.AlikeSwitched p p' → p'.name = p.name :=
    fun p p' alike => congrArg Parameter.name alike.parameter
  exact (alike_bindControllers (s := s) (t := s.switched enums interfaces)
    collects_any names rfl fun _ _ _ _ p _ =>
      bindsAlike_switched s enums interfaces p).result

/--
Under all switches the controllers are bound alike. So are the generations, but for a constant that
is too long and has to be written under one setting of the switches alone, when nothing else is in
the way.
-/
theorem generate_switched (s : Scope) (enums interfaces : Bool) :
    AlikeResults (List.Forall₂ (Controller.Alike Part.AlikeSwitched)) s.bindControllers.result
        (s.switched enums interfaces).bindControllers.result
      ∧ (AlikeGenerations Part.AlikeSwitched s.generate (s.switched enums interfaces).generate
        ↔ ∀ controllers, s.bindControllers.result = .ok controllers →
          Document.firstUnbound? controllers = none →
            (s.DeclaresLong ↔ (s.switched enums interfaces).DeclaresLong)) := by
  have alike := alike_bindControllers_switched s enums interfaces
  exact ⟨alike, alikeGenerations_iff alike⟩

/-- A constant of too many digits is in the way only where enumerations are declared. -/
theorem generate_switched_long_constant :
    ¬ AlikeGenerations Part.AlikeSwitched (Sample.painted leastLong).generate
      ((Sample.painted leastLong).switched false true).generate := by
  intro alike
  obtain ⟨c, bound, -⟩ := Sample.exists_bindControllers_painted leastLong
  have complete : Document.firstUnbound? [c] = none := by
    rw [firstUnbound?_bindControllers bound, Sample.refusals_painted.2]
    rfl
  have same := (alikeGenerations_iff (alike_bindControllers_switched _ false true)).mp alike [c]
    bound complete
  have long : (Sample.painted leastLong).DeclaresLong := by
    refine ⟨rfl, Sample.colorOf leastLong, ?_, ⟨"Red", leastLong⟩, List.mem_singleton_self _, ?_⟩
    · rw [Sample.declared_painted]
      exact List.mem_singleton_self _
    · exact Nat.le_of_eq (Int.natAbs_natCast leastLong).symm
  have off := (same.mp long).1
  cases off

end Scope

end ApiClient
