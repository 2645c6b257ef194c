import ApiClient.Proofs.Code
import ApiClient.Proofs.Declarations.Following
import ApiClient.Proofs.Generation

/-!
Which types a generation declares beside its endpoints.

Main statement: the declared types are the least set that holds what the parts of the entries
request and, with a class, what its fields and its base class request. So a type name written
behind the namespace of a document is that of a declaration in it, and nothing is declared that
nothing reaches.
-/

set_option autoImplicit false

namespace ApiClient

namespace Scope

/--
A set of requests that holds what resolving the parameter of each part requests, what resolving
each field of a class in it requests, and the base class of each class in it.
-/
structure HoldsRequested (s : Scope) (controllers : List Controller) (T : Set Request) : Prop where
  part : ∀ c ∈ controllers, ∀ e ∈ c.entries, ∀ p ∈ e.parts, ∀ resolution,
    s.resolve p.parameter.type (some p.parameter) p.constraints none = .ok resolution →
      ∀ q ∈ resolution.requests, q ∈ T
  field : ∀ d, s.store.find? d.fullName = some d → .interface d.fullName ∈ T →
    ∀ f ∈ d.fields, ∀ resolution,
      s.resolve f.type none [] (some "any") = .ok resolution → ∀ q ∈ resolution.requests, q ∈ T
  base : ∀ d, s.store.find? d.fullName = some d → .interface d.fullName ∈ T →
    ∀ r, d.baseType = some r → ∀ b, s.store.find? r.name = some b → b.kind = .classType →
      .interface b.fullName ∈ T

variable {s : Scope} {controllers : List Controller}

theorem mem_bindControllers_requests (bound : s.bindControllers.result = .ok controllers)
    {q : Request} :
    q ∈ s.bindControllers.requests
      ↔ ∃ c ∈ controllers, ∃ e ∈ c.entries, ∃ p ∈ e.parts, q ∈ s.partRequests p := by
  simp [bindControllers_requests bound, entryRequests]

theorem mem_partRequests {p : Part} {q : Request} :
    q ∈ s.partRequests p ↔ ∃ resolution,
      s.resolve p.parameter.type (some p.parameter) p.constraints none = .ok resolution
        ∧ q ∈ resolution.requests := by
  unfold partRequests resolve
  cases s.resolve? p.parameter.type (some p.parameter) p.constraints <;> simp

theorem bindControllers_requests_visible {q : Request}
    (bound : s.bindControllers.result = .ok controllers)
    (asked : q ∈ s.bindControllers.requests) : ∃ d, s.store.find? q.fullName = some d := by
  obtain ⟨c, -, e, -, p, -, asked⟩ := (mem_bindControllers_requests bound).mp asked
  obtain ⟨resolution, resolved, asked⟩ := mem_partRequests.mp asked
  have rule : s.resolve? p.parameter.type (some p.parameter) p.constraints = some resolution := by
    simpa using resolve_eq_ok_iff.mp resolved
  obtain ⟨d, found, -⟩ := (rule_of_resolve? rule).writing.visible asked
  exact ⟨d, found⟩

/-- Holding what is requested is holding the requests of the bound parts and being closed. -/
theorem holdsRequested_iff (bound : s.bindControllers.result = .ok controllers)
    {T : Set Request} :
    s.HoldsRequested controllers T
      ↔ (∀ q ∈ s.bindControllers.requests, q ∈ T) ∧ Declarations.IsClosed s T := by
  constructor
  · intro holds
    constructor
    · intro q asked
      obtain ⟨c, controller, e, entry, p, part, asked⟩ :=
        (mem_bindControllers_requests bound).mp asked
      obtain ⟨resolution, resolved, asked⟩ := mem_partRequests.mp asked
      exact holds.part c controller e entry p part resolution resolved q asked
    · intro d found declared q asked
      rcases mem_requestsOf.mp asked with ⟨b, base, rfl⟩ | ⟨f, field, asked⟩
      · obtain ⟨r, named, found', kind⟩ := baseClass?_eq_some_iff.mp base
        exact holds.base d found declared r named b found' kind
      · exact holds.field d found declared f field _ (s.resolve_field f) q asked
  · rintro ⟨requested, closed⟩
    refine ⟨?_, ?_, ?_⟩
    · intro c controller e entry p part resolution resolved q asked
      refine requested q ((mem_bindControllers_requests bound).mpr ?_)
      exact ⟨c, controller, e, entry, p, part, mem_partRequests.mpr ⟨resolution, resolved, asked⟩⟩
    · intro d found declared f field resolution resolved q asked
      rw [resolve_field, Except.ok.injEq] at resolved
      subst resolved
      exact closed d found declared q (mem_requestsOf.mpr (.inr ⟨f, field, asked⟩))
    · intro d found declared r named b found' kind
      have base := baseClass?_eq_some_iff.mpr ⟨r, named, found', kind⟩
      exact closed d found declared _ (mem_requestsOf.mpr (.inl ⟨b, base, rfl⟩))

/-- What a scope declares is the least set that holds what is requested. -/
theorem declared_least (bound : s.bindControllers.result = .ok controllers) :
    IsLeast {T | s.HoldsRequested controllers T} {q | s.declared.meets q} := by
  have least := Declarations.follow_isLeast (s := s)
    fun q asked => bindControllers_requests_visible bound asked
  simp only [holdsRequested_iff bound]
  exact least

/-- Interfaces are declared only where the settings ask for them. -/
theorem generateInterfaces_of_meets (bound : s.bindControllers.result = .ok controllers)
    {name : String} (declared : s.declared.meets (.interface name)) :
    s.settings.generateInterfaces = true := by
  let T : Set Request := {q | ∀ name, q = .interface name → s.settings.generateInterfaces = true}
  have asked : ∀ resolution, s.Writing resolution → ∀ q ∈ resolution.requests, q ∈ T := by
    rintro resolution writing q member name rfl
    cases writing with
    | interface d mapping on visible object written requested => exact on
    | forced m listed mapping written silent => simp [silent] at member
    | primitive mapping written silent => simp [silent] at member
    | queryParams mapping off written silent => simp [silent] at member
    | enum d mapping on visible isEnum written requested => simp [requested] at member
  have holds : s.HoldsRequested controllers T := by
    refine ⟨?_, ?_, ?_⟩
    · intro c _ e _ p _ resolution resolved
      have rule : s.resolve? p.parameter.type (some p.parameter) p.constraints
          = some resolution := by simpa using resolve_eq_ok_iff.mp resolved
      exact asked resolution (rule_of_resolve? rule).writing
    · intro d _ _ f _ resolution resolved
      rw [resolve_field, Except.ok.injEq] at resolved
      exact resolved ▸ asked _ (s.fieldResolution_writing f)
    · intro d _ declared r _ b _ _ name _
      exact declared _ rfl
  exact (declared_least bound).2 holds declared name rfl

end Scope

namespace Generation

/-- The document of the enumerations is made and declares a name. -/
def DeclaresEnum (s : Scope) (g : Generation) (name : String) : Prop :=
  ⟨s.settings.enums.path, (Document.enums s.settings g.declarations).render⟩ ∈ g.documents
    ∧ ∃ body, Code.plain ("export enum " ++ name) body
      ∈ (Document.enums s.settings g.declarations).children

/-- The document of the interfaces is made and declares a name, with or without a base. -/
def DeclaresInterface (s : Scope) (g : Generation) (name : String) : Prop :=
  ⟨s.settings.interfaces.path, (Document.interfaces s.settings g.declarations).render⟩
      ∈ g.documents
    ∧ ∃ extension body, (extension = "" ∨ ∃ base, extension = " extends " ++ base)
      ∧ Code.plain ("export interface " ++ name ++ extension) body
        ∈ (Document.interfaces s.settings g.declarations).children

/-- A name is declared in a document that has a namespace. -/
def DeclaresIn (s : Scope) (g : Generation) (ns name : String) : Prop :=
  (ns = s.settings.enums.namespaceName ∧ g.DeclaresEnum s name)
    ∨ (ns = s.settings.interfaces.namespaceName ∧ g.DeclaresInterface s name)

/--
A type name that is written behind a namespace is that of a declaration there. A name without
further dots is cut in one way; with them one namespace may extend the other.
-/
def IsAnchored (s : Scope) (g : Generation) (typeName : String) : Prop :=
  ∀ ns name, typeName = ns ++ "." ++ name →
    ∃ ns' name', typeName = ns' ++ "." ++ name' ∧ g.DeclaresIn s ns' name'
      ∧ ('.' ∉ name.toList → ns' = ns ∧ name' = name)

variable {s : Scope} {g : Generation}

theorem declaresEnum (made : s.generate = .ok g) (on : s.settings.generateEnums = true)
    {d : TypeDescriptor} (declared : g.declarations.meets (.enum d.fullName)) :
    g.DeclaresEnum s d.name := by
  obtain ⟨controllers, -, -, -, rfl⟩ := Scope.generate_eq_ok_iff.mp made
  refine ⟨by simp [Scope.documents, on], ?_⟩
  simp only [Declarations.meets, Declarations.hasEnum, List.any_eq_true,
    decide_eq_true_eq] at declared
  obtain ⟨d', member, same⟩ := declared
  rw [← TypeDescriptor.name_congr same]
  exact ⟨_, List.mem_map.mpr ⟨d', member, rfl⟩⟩

theorem declaresInterface (made : s.generate = .ok g) {d : TypeDescriptor}
    (declared : g.declarations.meets (.interface d.fullName)) :
    g.DeclaresInterface s d.name := by
  obtain ⟨controllers, bound, -, -, rfl⟩ := Scope.generate_eq_ok_iff.mp made
  have on := Scope.generateInterfaces_of_meets bound declared
  refine ⟨by simp [Scope.documents, on], ?_⟩
  simp only [Declarations.meets, Declarations.hasInterface, List.any_eq_true,
    decide_eq_true_eq] at declared
  obtain ⟨e, member, same⟩ := declared
  rw [← TypeDescriptor.name_congr same]
  have block : Document.interfaceBlock e ∈ (Document.interfaces s.settings s.declared).children :=
    List.mem_map_of_mem member
  cases base : e.base with
  | none =>
    rw [Document.interfaceBlock, base] at block
    exact ⟨"", _, .inl rfl, block⟩
  | some name =>
    rw [Document.interfaceBlock, base] at block
    exact ⟨" extends " ++ name, _, .inr ⟨name, rfl⟩, block⟩

theorem dot_notMem_of_mem_targetPrimitives {name : String} (primitive : name ∈ targetPrimitives) :
    '.' ∉ name.toList := by
  have all : ∀ name ∈ targetPrimitives, '.' ∉ name.toList := by decide
  exact all name primitive

/-- A type name of a resolution whose requests are met is anchored, unless it is forced. -/
theorem isAnchored_of_writing (made : s.generate = .ok g) {resolution : Resolution}
    (writing : s.Writing resolution) (unforced : resolution.resolved.mapping = none)
    (met : ∀ q ∈ resolution.requests, g.declarations.meets q) :
    g.IsAnchored s resolution.resolved.typeName := by
  intro ns name written
  have dot : '.' ∈ resolution.resolved.typeName.toList := by simp [written]
  cases writing with
  | forced m listed mapping => simp [mapping] at unforced
  | primitive mapping name => exact absurd dot (dot_notMem_of_mem_targetPrimitives name)
  | queryParams mapping off name =>
    rw [name] at dot
    exact absurd dot (by decide)
  | enum d mapping on visible isEnum written' asked =>
    have declared := declaresEnum (d := d) made on (met _ (by simp [asked]))
    refine ⟨_, d.name, written', .inl ⟨rfl, declared⟩, fun free => ?_⟩
    exact Text.qualified_inj d.dot_notMem_name free (written'.symm.trans written)
  | interface d mapping on visible object written' asked =>
    have declared := declaresInterface (d := d) made (met _ (by simp [asked]))
    refine ⟨_, d.name, written', .inr ⟨rfl, declared⟩, fun free => ?_⟩
    exact Text.qualified_inj d.dot_notMem_name free (written'.symm.trans written)

/--
The declared types are the least set that holds what is requested. So the type of a part or a
field that no mapping forces is anchored, and the base of an interface is declared beside it.
-/
theorem declarations_isLeast (made : s.generate = .ok g) :
    IsLeast {T | s.HoldsRequested g.controllers T} {q | g.declarations.meets q}
      ∧ (∀ c ∈ g.controllers, ∀ e ∈ c.entries, ∀ p ∈ e.parts, p.resolved.mapping = none →
        g.IsAnchored s p.resolved.typeName)
      ∧ ∀ i ∈ g.declarations.interfaces,
        i.fields = i.descriptor.fields.map
            (fun f => ⟨f.name, (s.fieldResolution f).resolved.rendered⟩)
          ∧ (∀ f ∈ i.descriptor.fields, (s.fieldResolution f).resolved.mapping = none →
            g.IsAnchored s (s.fieldResolution f).resolved.typeName)
          ∧ ∀ base, i.base = some base → g.DeclaresInterface s base := by
  have generation := made
  obtain ⟨controllers, bound, -, -, rfl⟩ := Scope.generate_eq_ok_iff.mp generation
  have least := Scope.declared_least bound
  have drawn := Declarations.isDrawn_follow s s.bindControllers.requests
  refine ⟨least, ?_, ?_⟩
  · intro c controller e entry p part unforced
    obtain ⟨resolution, resolved, same⟩ := Scope.exists_resolution bound controller entry part
    rw [← same] at unforced ⊢
    refine isAnchored_of_writing made (Scope.rule_of_resolve? resolved).writing unforced ?_
    refine least.1.part c controller e entry p part resolution ?_
    exact Scope.resolve_eq_ok_iff.mpr (.inl resolved)
  · intro i declared
    obtain ⟨found, stands⟩ := drawn.interfaces i declared
    have met : s.declared.meets (.interface i.descriptor.fullName) := by
      simp only [Declarations.meets, Declarations.hasInterface, List.any_eq_true]
      exact ⟨i, declared, by simp⟩
    refine ⟨congrArg InterfaceEntry.fields stands, ?_, ?_⟩
    · intro f field unforced
      refine isAnchored_of_writing made (s.fieldResolution_writing f) unforced ?_
      exact least.1.field _ found met f field _ (s.resolve_field f)
    · intro base named
      rw [stands] at named
      obtain ⟨b, extended, rfl⟩ := Option.map_eq_some_iff.mp named
      obtain ⟨r, baseType, visible, kind⟩ := Scope.baseClass?_eq_some_iff.mp extended
      exact declaresInterface made (least.1.base _ found met r baseType b visible kind)

theorem sample_declarations_isLeast :
    ∃ g, Sample.mirrored.generate = .ok g
      ∧ IsLeast {T | Sample.mirrored.HoldsRequested g.controllers T}
        {q | g.declarations.meets q}
      ∧ g.declarations.meets (.interface "Acme.Node")
      ∧ g.declarations.meets (.interface "Acme.Base")
      ∧ g.declarations.meets (.enum "Acme.Color") := by
  obtain ⟨g, c, e, made, controllers, entries, -, parts⟩ :=
    Sample.exists_generate_scope (Sample.settings true "Endpoints") rfl
  have least := (declarations_isLeast made).1
  have found : Sample.mirrored.store.find? "Acme.Node" = some Sample.node := by cbv
  have node : g.declarations.meets (.interface "Acme.Node") := by
    have part : Sample.part _ ∈ e.parts := parts ▸ List.mem_singleton_self _
    exact least.1.part c (by simp [controllers]) e (by simp [entries]) _ part _
      (Sample.resolve_scope rfl) _ (List.mem_singleton_self _)
  have base : g.declarations.meets (.interface "Acme.Base") :=
    least.1.base Sample.node found node _ rfl Sample.base (by cbv) rfl
  have asked : (Sample.mirrored.fieldResolution ⟨"color", .plain "Acme.Color"⟩).requests
      = [.enum "Acme.Color"] := by cbv
  have color : g.declarations.meets (.enum "Acme.Color") := by
    have field : ⟨"color", .plain "Acme.Color"⟩ ∈ Sample.node.fields :=
      List.mem_cons_of_mem _ (List.mem_singleton_self _)
    have requested := asked.symm ▸ List.mem_singleton_self (Request.enum "Acme.Color")
    exact least.1.field Sample.node found node _ field _ (Scope.resolve_field _ _) _ requested
  exact ⟨g, made, least, node, base, color⟩

end Generation

end ApiClient
