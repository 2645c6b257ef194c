import ApiClient.Proofs.Binding.Alike
import ApiClient.Proofs.Generation
import ApiClient.Proofs.TypeStore
import Mathlib.Data.List.Nodup

/-!
Which types a generation looks up.

Only names that stand in references of visible types are looked up: those of base types on the way
to a controller, and of parameters and fields inside their wrappers. Main statement: stores of the
same module that find the same for these names give the same generation, so that the order of
referenced types does not matter, nor do types that are hidden or that nothing mentions.
-/

set_option autoImplicit false

namespace ApiClient

/-- A name stands in a reference: as its own, or in an argument or the element of it. -/
inductive TypeRef.Mentions : TypeRef → String → Prop
  | own (r : TypeRef) : Mentions r r.name
  | argument {r q : TypeRef} {name : String} (member : q ∈ r.arguments)
      (inner : Mentions q name) : Mentions r name
  | element {r q : TypeRef} {name : String} (item : r.element = some q)
      (inner : Mentions q name) : Mentions r name

namespace TypeRef

variable {r q : TypeRef} {name : String}

theorem Mentions.of_withoutNullable (inner : r.withoutNullable.Mentions name) :
    r.Mentions name := by
  unfold withoutNullable at inner
  split at inner
  · next q only =>
    split at inner
    · exact .argument (only ▸ List.mem_singleton_self q) inner
    · exact inner
  · exact inner

theorem Mentions.of_item? (item : r.item? = some q) (inner : q.Mentions name) :
    r.Mentions name := by
  unfold item? at item
  split at item
  · next q' single =>
    obtain rfl := Option.some.inj item
    exact .element single inner
  · next q' _ only =>
    split at item
    · obtain rfl := Option.some.inj item
      exact .argument (only ▸ List.mem_singleton_self _) inner
    · cases item
  · cases item

theorem mentions_core (r : TypeRef) : r.Mentions r.core.name := by
  refine .of_withoutNullable ?_
  unfold core
  split
  · next item found => exact .of_item? found (.of_withoutNullable (.own _))
  · exact .own _

end TypeRef

namespace TypeDescriptor

/-- The references of a type: its base, and the types of its fields and of its parameters. -/
def references (d : TypeDescriptor) : List TypeRef :=
  d.baseType.toList ++ d.fields.map Field.type
    ++ d.methods.flatMap fun m => m.parameters.map Parameter.type

def Mentions (d : TypeDescriptor) (name : String) : Prop := ∃ r ∈ d.references, r.Mentions name

variable {d : TypeDescriptor} {name : String}

theorem mentions_base {r : TypeRef} (base : d.baseType = some r) (inner : r.Mentions name) :
    d.Mentions name := ⟨r, by simp [references, base], inner⟩

theorem mentions_field {f : Field} (member : f ∈ d.fields) (inner : f.type.Mentions name) :
    d.Mentions name := by
  refine ⟨f.type, ?_, inner⟩
  exact List.mem_append_left _ (List.mem_append_right _ (List.mem_map_of_mem member))

theorem mentions_parameter {m : Method} {p : Parameter} (method : m ∈ d.methods)
    (member : p ∈ m.parameters) (inner : p.type.Mentions name) : d.Mentions name := by
  refine ⟨p.type, ?_, inner⟩
  exact List.mem_append_right _
    (List.mem_flatMap.mpr ⟨m, method, List.mem_map_of_mem member⟩)

end TypeDescriptor

namespace TypeStore

/-- A name is mentioned by a type of the store. -/
def Mentions (a : TypeStore) (name : String) : Prop := ∃ d ∈ a.all, d.Mentions name

/-- Stores of the same module that find the same for all names that the first one mentions. -/
structure SeesAlike (a b : TypeStore) : Prop where
  primary : b.primary = a.primary
  find : ∀ name, a.Mentions name → b.find? name = a.find? name

variable {a b : TypeStore}

/-- Base types are followed alike while the types not visited yet are found alike. -/
theorem inheritsFrom_congr {baseName : String} {xs ys : List TypeDescriptor}
    {base : Option TypeRef} (visible : ∀ d ∈ xs, d ∈ a.all)
    (same : ∀ name, a.Mentions name →
      (ys.find? fun d => d.fullName = name) = xs.find? fun d => d.fullName = name)
    (mentioned : ∀ r, base = some r → a.Mentions r.name) :
    inheritsFrom baseName ys base = inheritsFrom baseName xs base := by
  fun_induction inheritsFrom baseName xs base generalizing ys with
  | case1 xs => rw [inheritsFrom]
  | case2 xs base found => rw [inheritsFrom, if_pos found]
  | case3 xs base differs absent =>
    have absent' := (same base.name (mentioned base rfl)).trans absent
    rw [inheritsFrom, if_neg differs]
    split
    · rfl
    · next found => rw [absent'] at found; cases found
  | case4 xs base differs d found ih =>
    have found' := (same base.name (mentioned base rfl)).trans found
    have member : d ∈ a.all := visible d (List.mem_of_find?_eq_some found)
    rw [inheritsFrom, if_neg differs]
    split
    · next absent => rw [found'] at absent; cases absent
    · next d' again =>
      obtain rfl : d = d' := Option.some.inj (found'.symm.trans again)
      refine ih (fun e left => visible e (List.mem_of_mem_filter left)) ?_ ?_
      · intro name known
        rw [find?_without, find?_without, same name known]
      · intro r base
        exact ⟨d, member, TypeDescriptor.mentions_base base (.own r)⟩

namespace SeesAlike

variable (alike : a.SeesAlike b)
include alike

theorem derivesFrom {d : TypeDescriptor} (member : d ∈ a.all) (baseName : String) :
    b.derivesFrom d baseName = a.derivesFrom d baseName := by
  refine inheritsFrom_congr (fun e left => List.mem_of_mem_filter left) ?_ ?_
  · intro name known
    have found : (b.all.find? fun d => d.fullName = name)
        = a.all.find? fun d => d.fullName = name := alike.find name known
    rw [find?_without, find?_without, found]
  · intro r base
    exact ⟨d, member, TypeDescriptor.mentions_base base (.own r)⟩

theorem controllers (base : String) : b.controllers base = a.controllers base := by
  unfold TypeStore.controllers
  rw [alike.primary]
  refine List.filter_congr fun d member => ?_
  rw [alike.derivesFrom (List.mem_append_left _ member)]

end SeesAlike

end TypeStore

namespace Scope

variable {a b : TypeStore} {settings : Settings}

theorem resolve?_congr {r : TypeRef} (found : b.find? r.core.name = a.find? r.core.name)
    (parameter : Option Parameter) (constraints : List String) :
    (Scope.mk b settings).resolve? r parameter constraints
      = (Scope.mk a settings).resolve? r parameter constraints := by
  have mapping : (Scope.mk b settings).findMapping? r parameter constraints
      = (Scope.mk a settings).findMapping? r parameter constraints := rfl
  unfold resolve? ofCore?
  dsimp only
  rw [mapping, found]
  rfl

/-- What a reference requests is the type that its core names. -/
theorem fullName_of_asked {s : Scope} {r : TypeRef} {parameter : Option Parameter}
    {constraints : List String} {resolution : Resolution} {q : Request}
    (resolved : s.resolve? r parameter constraints = some resolution)
    (asked : q ∈ resolution.requests) : q.fullName = r.core.name := by
  cases rule_of_resolve? resolved with
  | forced m matched => cases asked
  | enum d unforced found isEnum =>
    unfold ofEnum at asked
    split at asked
    · obtain rfl := List.mem_singleton.mp asked
      exact TypeStore.fullName_of_find? found
    · cases asked
  | primitive name unforced noEnum known => cases asked
  | object d unforced unknown found object notGeneric notArray =>
    unfold ofObject at asked
    split at asked
    · obtain rfl := List.mem_singleton.mp asked
      exact TypeStore.fullName_of_find? found
    · cases asked

/-- Requests for mentioned types, and the same in both scopes. -/
def SameMentioned (a : TypeStore) (qs rs : List Request) : Prop :=
  qs = rs ∧ ∀ q ∈ qs, a.Mentions q.fullName

theorem collects_sameMentioned (a : TypeStore) : Collects (SameMentioned a) where
  nil := ⟨rfl, fun _ member => nomatch member⟩
  append := by
    rintro qs _ qs' _ ⟨rfl, first⟩ ⟨rfl, second⟩
    exact ⟨rfl, fun q member => (List.mem_append.mp member).elim (first q) (second q)⟩

theorem isOptional_congr {p : Parameter} (found : b.find? p.type.name = a.find? p.type.name) :
    (Scope.mk b settings).isOptional p = (Scope.mk a settings).isOptional p := by
  unfold isOptional TypeStore.isValueType
  dsimp only
  rw [found]

theorem bindParameter_congr {p : Parameter}
    (core : b.find? p.type.core.name = a.find? p.type.core.name)
    (own : b.find? p.type.name = a.find? p.type.name)
    (prefixSegments routeSegments : List Route.Segment) (verb : Verb) :
    (Scope.mk b settings).bindParameter prefixSegments routeSegments verb p
      = (Scope.mk a settings).bindParameter prefixSegments routeSegments verb p := by
  unfold bindParameter resolve
  simp only [resolve?_congr core, isOptional_congr own]

theorem fullName_of_bindParameter {s : Scope} {p : Parameter}
    {prefixSegments routeSegments : List Route.Segment} {verb : Verb} {q : Request}
    (asked : q ∈ (s.bindParameter prefixSegments routeSegments verb p).requests) :
    q.fullName = p.type.core.name := by
  unfold bindParameter resolve at asked
  dsimp only at asked
  generalize placeOf prefixSegments routeSegments verb p = place at asked
  cases resolved : s.resolve? p.type (some p) place.2 with
  | none =>
    rw [resolved] at asked
    cases asked
  | some resolution =>
    simp only [resolved] at asked
    split at asked
    · cases asked
    · exact fullName_of_asked resolved asked

theorem bindsAlike_of_seesAlike (alike : a.SeesAlike b) {p : Parameter}
    (mentioned : ∀ name, p.type.Mentions name → a.Mentions name) :
    BindsAlike (SameMentioned a) Eq (Scope.mk a settings) (Scope.mk b settings) p := by
  intro prefixSegments routeSegments verb
  have core := mentioned _ p.type.mentions_core
  have own := mentioned _ (.own p.type)
  rw [bindParameter_congr (alike.find _ core) (alike.find _ own)]
  refine ⟨⟨rfl, fun q asked => ?_⟩, .refl⟩
  rw [fullName_of_bindParameter asked]
  exact core

/-- Binding is the same, and what it requests is mentioned. -/
theorem bindControllers_congr (alike : a.SeesAlike b) (settings : Settings) :
    SameMentioned a (Scope.mk a settings).bindControllers.requests
        (Scope.mk b settings).bindControllers.requests
      ∧ (Scope.mk a settings).bindControllers.result
        = (Scope.mk b settings).bindControllers.result := by
  have bound : Traced.Alike (SameMentioned a) (List.Forall₂ (Controller.Alike Eq))
      (Scope.mk a settings).bindControllers (Scope.mk b settings).bindControllers := by
    refine alike_bindControllers (collects_sameMentioned a) ?_
      (alike.controllers TypeStore.apiController).symm ?_
    · rintro p _ rfl
      rfl
    · intro d controller m method p member
      have visible : d ∈ a.all := List.mem_append_left _ (List.mem_of_mem_filter controller)
      exact bindsAlike_of_seesAlike alike fun name inner =>
        ⟨d, visible, TypeDescriptor.mentions_parameter method member inner⟩
  exact ⟨bound.requests, bound.result.eq fun _ _ => eq_of_forall₂ fun _ _ => Controller.Alike.eq⟩

section Declared

variable (alike : a.SeesAlike b) {d : TypeDescriptor} (visible : d ∈ a.all)
include alike visible

theorem baseClass?_congr :
    (Scope.mk b settings).baseClass? d = (Scope.mk a settings).baseClass? d := by
  unfold baseClass?
  cases base : d.baseType with
  | none => rfl
  | some r =>
    have found := alike.find r.name ⟨d, visible, TypeDescriptor.mentions_base base (.own r)⟩
    simp only [Option.bind_some, found]

theorem fieldResolution_congr {f : Field} (member : f ∈ d.fields) :
    (Scope.mk b settings).fieldResolution f = (Scope.mk a settings).fieldResolution f := by
  have found := alike.find f.type.core.name
    ⟨d, visible, TypeDescriptor.mentions_field member f.type.mentions_core⟩
  unfold fieldResolution
  rw [resolve?_congr found]

theorem interfaceOf_congr :
    (Scope.mk b settings).interfaceOf d = (Scope.mk a settings).interfaceOf d := by
  unfold interfaceOf
  rw [baseClass?_congr alike visible]
  have fields : d.fields.map (fun f =>
        InterfaceField.mk f.name ((Scope.mk b settings).fieldResolution f).resolved.rendered)
      = d.fields.map fun f =>
        InterfaceField.mk f.name ((Scope.mk a settings).fieldResolution f).resolved.rendered := by
    refine List.map_congr_left fun f member => ?_
    rw [fieldResolution_congr alike visible member]
  rw [fields]

theorem requestsOf_congr :
    (Scope.mk b settings).requestsOf d = (Scope.mk a settings).requestsOf d := by
  have fields : d.fields.flatMap (fun f => ((Scope.mk b settings).fieldResolution f).requests)
      = d.fields.flatMap fun f => ((Scope.mk a settings).fieldResolution f).requests := by
    refine List.flatMap_congr fun f member => ?_
    rw [fieldResolution_congr alike visible member]
  unfold requestsOf
  rw [baseClass?_congr alike visible, fields]

end Declared

/-- A visible class requests what it mentions. -/
theorem mentions_of_mem_requestsOf {d : TypeDescriptor} (visible : d ∈ a.all) {q : Request}
    (asked : q ∈ (Scope.mk a settings).requestsOf d) : a.Mentions q.fullName := by
  rcases mem_requestsOf.mp asked with ⟨c, base, rfl⟩ | ⟨f, member, asked⟩
  · obtain ⟨r, extends_, found, -⟩ := baseClass?_eq_some_iff.mp base
    have named : c.fullName = r.name := TypeStore.fullName_of_find? found
    exact ⟨d, visible, TypeDescriptor.mentions_base extends_ (named ▸ .own r)⟩
  · unfold fieldResolution at asked
    cases resolved : (Scope.mk a settings).resolve? f.type none [] with
    | none => simp [resolved, ofFallback] at asked
    | some resolution =>
      rw [resolved] at asked
      have named : q.fullName = f.type.core.name := fullName_of_asked resolved asked
      exact ⟨d, visible, TypeDescriptor.mentions_field member (named ▸ f.type.mentions_core)⟩

end Scope

namespace Declarations

variable {a b : TypeStore} {settings : Settings}

/-- A step that meets a mentioned request is one in both scopes, and leaves mentioned requests. -/
theorem FollowStep.congr (alike : a.SeesAlike b) {requests requests' : List Request}
    {t t' : Declarations} (step : FollowStep ⟨a, settings⟩ requests t requests' t')
    (mentioned : ∀ q ∈ requests, a.Mentions q.fullName) :
    FollowStep ⟨b, settings⟩ requests t requests' t' ∧ ∀ q ∈ requests', a.Mentions q.fullName := by
  have same : ∀ q ∈ requests, b.find? q.fullName = a.find? q.fullName :=
    fun q due => alike.find _ (mentioned q due)
  cases step with
  | absent found =>
    refine ⟨.absent ((same _ List.mem_cons_self).trans found), ?_⟩
    exact fun q later => mentioned q (List.mem_cons_of_mem _ later)
  | enum found =>
    refine ⟨.enum ((same _ List.mem_cons_self).trans found), ?_⟩
    exact fun q later => mentioned q (List.mem_cons_of_mem _ later)
  | known found known =>
    refine ⟨.known ((same _ List.mem_cons_self).trans found) known, ?_⟩
    exact fun q later => mentioned q (List.mem_cons_of_mem _ later)
  | @fresh name rest t d found fresh =>
    have visible : d ∈ a.all := List.mem_of_find?_eq_some found
    have found' : b.find? name = some d := (same _ List.mem_cons_self).trans found
    have step := @FollowStep.fresh ⟨b, settings⟩ name rest t d found' fresh
    rw [Scope.requestsOf_congr alike visible, Scope.interfaceOf_congr alike visible] at step
    refine ⟨step, fun q due => ?_⟩
    rcases List.mem_append.mp due with asked | later
    · exact Scope.mentions_of_mem_requestsOf visible asked
    · exact mentioned q (List.mem_cons_of_mem _ later)

theorem follow_congr (alike : a.SeesAlike b) {requests : List Request}
    (mentioned : ∀ q ∈ requests, a.Mentions q.fullName) (t : Declarations) :
    follow ⟨b, settings⟩ requests t = follow ⟨a, settings⟩ requests t := by
  have kept := follow_invariant (s := ⟨a, settings⟩)
    (I := fun requests' t' => (∀ q ∈ requests', a.Mentions q.fullName)
      ∧ follow ⟨b, settings⟩ requests' t' = follow ⟨b, settings⟩ requests t)
    (fun _ _ _ _ step ⟨due, same⟩ =>
      have both := step.congr alike due
      ⟨both.2, both.1.follow_eq.symm.trans same⟩) ⟨mentioned, rfl⟩
  rw [follow_nil] at kept
  exact kept.2.symm

end Declarations

theorem Scope.generate_congr {a b : TypeStore} (alike : a.SeesAlike b) (settings : Settings) :
    (Scope.mk b settings).generate = (Scope.mk a settings).generate := by
  obtain ⟨⟨requests, mentioned⟩, result⟩ := Scope.bindControllers_congr alike settings
  have declared : (Scope.mk b settings).declared = (Scope.mk a settings).declared := by
    unfold Scope.declared
    rw [← requests, Declarations.follow_congr alike mentioned]
  rw [Scope.generate_eq, Scope.generate_eq, declared, ← result]
  rfl

namespace TypeStore

variable {primary referenced : List TypeDescriptor}

theorem find?_perm {xs ys : List TypeDescriptor} (perm : xs.Perm ys)
    (distinct : (xs.map TypeDescriptor.fullName).Nodup) (name : String) :
    (ys.find? fun d => d.fullName = name) = xs.find? fun d => d.fullName = name := by
  cases found : xs.find? fun d => d.fullName = name with
  | none =>
    rw [List.find?_eq_none] at found ⊢
    exact fun d member => found d (perm.mem_iff.mpr member)
  | some d =>
    have member := List.mem_of_find?_eq_some found
    have named : d.fullName = name := by simpa using List.find?_some found
    obtain ⟨e, found'⟩ : ∃ e, (ys.find? fun d => d.fullName = name) = some e :=
      Option.isSome_iff_exists.mp
        (List.find?_isSome.mpr ⟨d, perm.mem_iff.mp member, by simpa using named⟩)
    have member' := perm.mem_iff.mpr (List.mem_of_find?_eq_some found')
    have named' : e.fullName = name := by simpa using List.find?_some found'
    rw [found', List.inj_on_of_nodup_map distinct member' member (named'.trans named.symm)]

theorem seesAlike_of_perm {others : List TypeDescriptor} (perm : referenced.Perm others)
    (distinct : (referenced.map TypeDescriptor.fullName).Nodup) :
    SeesAlike ⟨primary, referenced⟩ ⟨primary, others⟩ := by
  refine ⟨rfl, fun name _ => ?_⟩
  unfold find? all
  rw [List.find?_append, List.find?_append, find?_perm perm distinct]

/-- What is appended is not seen where it does not give a name that is looked up a first type. -/
theorem seesAlike_append {more : List TypeDescriptor}
    (unseen : ∀ d ∈ more, Mentions ⟨primary, referenced⟩ d.fullName →
      d.fullName ∈ (primary ++ referenced).map TypeDescriptor.fullName) :
    SeesAlike ⟨primary, referenced⟩ ⟨primary, referenced ++ more⟩ := by
  refine ⟨rfl, fun name mentioned => ?_⟩
  unfold find? all
  dsimp only
  rw [← List.append_assoc, List.find?_append]
  cases found : (primary ++ referenced).find? fun d => d.fullName = name with
  | some d => rfl
  | none =>
    rw [Option.none_or, List.find?_eq_none]
    intro d member named
    obtain rfl : d.fullName = name := by simpa using named
    obtain ⟨e, visible, same⟩ := List.mem_map.mp (unseen d member mentioned)
    exact List.find?_eq_none.mp found e visible (by simpa using same)

end TypeStore

/--
Stores of one module that find the same for all mentioned names give the same generation. So the
order of referenced types of different names does not matter, nor do further types that are hidden
behind a type of their name, or whose name is not mentioned.
-/
theorem Scope.generate_eq_of_seesAlike (primary referenced : List TypeDescriptor)
    (settings : Settings) :
    (∀ b, TypeStore.SeesAlike ⟨primary, referenced⟩ b →
        (Scope.mk b settings).generate = (Scope.mk ⟨primary, referenced⟩ settings).generate)
      ∧ (∀ others, referenced.Perm others → (referenced.map TypeDescriptor.fullName).Nodup →
        (Scope.mk ⟨primary, others⟩ settings).generate
          = (Scope.mk ⟨primary, referenced⟩ settings).generate)
      ∧ (∀ more, (∀ d ∈ more, d.fullName ∈ (primary ++ referenced).map TypeDescriptor.fullName) →
        (Scope.mk ⟨primary, referenced ++ more⟩ settings).generate
          = (Scope.mk ⟨primary, referenced⟩ settings).generate)
      ∧ ∀ more, (∀ d ∈ more, ¬ TypeStore.Mentions ⟨primary, referenced⟩ d.fullName) →
        (Scope.mk ⟨primary, referenced ++ more⟩ settings).generate
          = (Scope.mk ⟨primary, referenced⟩ settings).generate := by
  refine ⟨fun b alike => Scope.generate_congr alike settings, ?_, ?_, ?_⟩
  · intro others perm distinct
    exact Scope.generate_congr (TypeStore.seesAlike_of_perm perm distinct) settings
  · intro more hidden
    have alike := TypeStore.seesAlike_append fun d member _ => hidden d member
    exact Scope.generate_congr alike settings
  · intro more unmentioned
    have alike := TypeStore.seesAlike_append fun d member mentioned =>
      absurd mentioned (unmentioned d member)
    exact Scope.generate_congr alike settings

/-! A module of a controller and a class that refers to two types of another module. -/

namespace Sample

def other : TypeDescriptor := classOf "Acme.Other" none []

def sharing (referenced : List TypeDescriptor) : TypeStore := ⟨[controller, node], referenced⟩

def sharingScope (referenced : List TypeDescriptor) : Scope :=
  ⟨sharing referenced, settings true "Endpoints"⟩

theorem eq_of_mentions_plain {own name : String} (mentions : (TypeRef.plain own).Mentions name) :
    name = own := by
  cases mentions with
  | own => rfl
  | argument member _ => cases member
  | element item _ => cases item

def sharedNames : List String := [TypeStore.apiController, "Acme.Node", "Acme.Base", "Acme.Color"]

theorem mentions_sharing {name : String} (mentioned : (sharing [base, color]).Mentions name) :
    name ∈ sharedNames := by
  obtain ⟨d, visible, r, member, inner⟩ := mentioned
  have plain : r ∈ sharedNames.map .plain := by
    change d ∈ [controller, node, base, color] at visible
    simp only [List.mem_cons, List.not_mem_nil, or_false] at visible
    rcases visible with rfl | rfl | rfl | rfl
    · have references : controller.references
          = [.plain TypeStore.apiController, .plain "Acme.Node"] := rfl
      rw [references] at member
      exact List.mem_of_mem_take (i := 2) member
    · have references : node.references
          = [.plain "Acme.Base", .plain "Acme.Node", .plain "Acme.Color"] := rfl
      rw [references] at member
      simp only [sharedNames, List.map_cons, List.map_nil]
      simp only [List.mem_cons, List.not_mem_nil, or_false] at member ⊢
      tauto
    · cases member
    · cases member
  obtain ⟨own, listed, rfl⟩ := List.mem_map.mp plain
  exact eq_of_mentions_plain inner ▸ listed

theorem other_unmentioned : ¬ (sharing [base, color]).Mentions other.fullName := by
  intro mentioned
  have listed : other.fullName ∈ sharedNames := mentions_sharing mentioned
  revert listed
  decide

theorem seesAlike_sharing : (sharing [base, color]).SeesAlike (sharing [other, color, base]) := by
  refine ⟨rfl, fun name mentioned => ?_⟩
  have listed := mentions_sharing mentioned
  simp only [sharedNames, List.mem_cons, List.not_mem_nil, or_false] at listed
  rcases listed with rfl | rfl | rfl | rfl <;> rfl

end Sample

theorem Scope.generate_eq_of_seesAlike_sharing :
    (Sample.sharingScope [Sample.other, Sample.color, Sample.base]).generate
        = (Sample.sharingScope [Sample.base, Sample.color]).generate
      ∧ (Sample.sharingScope [Sample.color, Sample.base]).generate
        = (Sample.sharingScope [Sample.base, Sample.color]).generate
      ∧ (Sample.sharingScope [Sample.base, Sample.color, Sample.base]).generate
        = (Sample.sharingScope [Sample.base, Sample.color]).generate
      ∧ (Sample.sharingScope [Sample.base, Sample.color, Sample.other]).generate
        = (Sample.sharingScope [Sample.base, Sample.color]).generate := by
  obtain ⟨agreeing, permuted, hidden, unmentioned⟩ :=
    Scope.generate_eq_of_seesAlike [Sample.controller, Sample.node] [Sample.base, Sample.color]
      (Sample.settings true "Endpoints")
  refine ⟨agreeing _ Sample.seesAlike_sharing, ?_, ?_, ?_⟩
  · exact permuted [Sample.color, Sample.base] (List.Perm.swap _ _ _) (by decide)
  · refine hidden [Sample.base] fun d member => ?_
    obtain rfl := List.mem_singleton.mp member
    decide
  · refine unmentioned [Sample.other] fun d member => ?_
    obtain rfl := List.mem_singleton.mp member
    exact Sample.other_unmentioned

end ApiClient
