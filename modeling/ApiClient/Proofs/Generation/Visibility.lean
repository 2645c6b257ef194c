import ApiClient.Proofs.Document.Signatures
import ApiClient.Proofs.Generation.Mirrored

/-!
Which type names of the service stand for something where they are used.

The service and the endpoints each have a namespace of their own. Main statement: all type names in
the signatures of the service are visible there just when both namespaces are the same or no
signature uses the interface of query parameters, the one name that is written without its
namespace, unless a mapping gives that name.
-/

set_option autoImplicit false

namespace ApiClient

namespace Document

/-- The names that the document of endpoints declares, as they are seen inside its namespace. -/
inductive EndpointName (s : Settings) (controllers : List Controller) (name : String) : Prop
  | shared (body : List Code)
      (declared : Code.plain ("export interface " ++ name) body
        ∈ (endpointsCode s controllers).children)
  | entry (c : Controller) (e : Entry) (inner body : List Code)
      (opened : Code.plain ("export " ++ s.namespaceKeyword ++ " " ++ c.name) inner
        ∈ (endpointsCode s controllers).children)
      (declared : Code.plain ("export interface I" ++ e.name ++ " extends " ++ endpointInterface)
        body ∈ inner)
      (written : name = c.name ++ ".I" ++ e.name)

variable {s : Settings} {controllers : List Controller}

theorem endpointName_of_mem {name : String} (shared : name ∈ [endpointInterface, haveQueryParams]) :
    EndpointName s controllers name := by
  simp only [List.mem_cons, List.not_mem_nil, or_false] at shared
  rcases shared with rfl | rfl
  · exact .shared _ (List.mem_append_left _ List.mem_cons_self)
  · exact .shared _ (List.mem_append_left _ (List.mem_cons_of_mem _ List.mem_cons_self))

theorem endpointName_entry {c : Controller} (controller : c ∈ controllers) {e : Entry}
    (entry : e ∈ c.entries) : EndpointName s controllers (c.name ++ ".I" ++ e.name) := by
  have opened := List.mem_append_right sharedInterfaces
    (List.mem_map_of_mem (f := controllerNamespace s) controller)
  have declared : entryInterface e
      ∈ c.entries.flatMap fun e => [entryInterface e, entryClass s e] :=
    List.mem_flatMap.mpr ⟨e, entry, List.mem_cons_self⟩
  exact .entry c e _ _ opened declared rfl

end Document

namespace Generation

open Document

/-- A type name that stands for something in the document of the service. -/
inductive Sees (s : Scope) (g : Generation) (name : String) : Prop
  | primitive (known : name ∈ targetPrimitives)
  | forced (m : TypeMapping) (listed : m ∈ s.settings.typeMappings)
      (written : name = m.targetName)
  | enum (short : String) (declared : g.DeclaresEnum s short)
      (written : name = s.settings.enums.namespaceName ++ "." ++ short)
  | interface (short : String) (declared : g.DeclaresInterface s short)
      (written : name = s.settings.interfaces.namespaceName ++ "." ++ short)
  | qualified (short : String) (declared : EndpointName s.settings g.controllers short)
      (written : name = s.settings.endpoints.namespaceName ++ "." ++ short)
  | beside (same : s.settings.service.namespaceName = s.settings.endpoints.namespaceName)
      (declared : EndpointName s.settings g.controllers name)

variable {s : Scope} {g : Generation}

/-- The interface of query parameters, without its namespace, is seen beside it or if forced. -/
theorem sees_haveQueryParams_iff :
    g.Sees s haveQueryParams
      ↔ s.settings.service.namespaceName = s.settings.endpoints.namespaceName
        ∨ ∃ m ∈ s.settings.typeMappings, m.targetName = haveQueryParams := by
  constructor
  · intro sees
    -- the name has no dot, so it stands behind no namespace
    have dotless : ∀ ns short, haveQueryParams ≠ ns ++ "." ++ short := by
      intro ns short written
      have dot : '.' ∈ haveQueryParams.toList := by simp [written]
      exact absurd dot (by decide)
    cases sees with
    | primitive known => exact absurd known (by decide)
    | forced m listed written => exact .inr ⟨m, listed, written.symm⟩
    | enum short declared written => exact absurd written (dotless _ _)
    | interface short declared written => exact absurd written (dotless _ _)
    | qualified short declared written => exact absurd written (dotless _ _)
    | beside same declared => exact .inl same
  · rintro (same | ⟨m, listed, written⟩)
    · exact .beside same (endpointName_of_mem (by simp))
    · exact .forced m listed written.symm

/-- A type name whose requests are met is seen, unless it is that of query parameters. -/
theorem sees_or_of_writing (made : s.generate = .ok g) {resolution : Resolution}
    (writing : s.Writing resolution) (met : ∀ q ∈ resolution.requests, g.declarations.meets q) :
    g.Sees s resolution.resolved.typeName
      ∨ (s.settings.generateInterfaces = false
        ∧ resolution.resolved.typeName = haveQueryParams) := by
  cases writing with
  | forced m listed mapping written => exact .inl (.forced m listed written)
  | primitive mapping known => exact .inl (.primitive known)
  | queryParams mapping off written => exact .inr ⟨off, written⟩
  | enum d mapping on visible isEnum written asked =>
    exact .inl (.enum d.name (declaresEnum made on (met _ (by simp [asked]))) written)
  | interface d mapping on visible object written asked =>
    exact .inl (.interface d.name (declaresInterface made (met _ (by simp [asked]))) written)

/-- The type of a part is seen, unless it is written as that of query parameters. -/
theorem sees_or_of_part (made : s.generate = .ok g) {c : Controller}
    (controller : c ∈ g.controllers) {e : Entry} (entry : e ∈ c.entries) {p : Part}
    (part : p ∈ e.parts) :
    g.Sees s p.resolved.typeName
      ∨ (s.settings.generateInterfaces = false ∧ p.resolved.typeName = haveQueryParams) := by
  have generation := made
  obtain ⟨controllers, bound, -, -, rfl⟩ := Scope.generate_eq_ok_iff.mp generation
  obtain ⟨resolution, resolved, same⟩ := Scope.exists_resolution bound controller entry part
  have met : ∀ q ∈ resolution.requests, s.declared.meets q :=
    (Scope.declared_least bound).1.part c controller e entry p part resolution
      (Scope.resolve_eq_ok_iff.mpr (.inl resolved))
  rw [← same]
  exact sees_or_of_writing made (Scope.rule_of_resolve? resolved).writing met

/-- All type names in the signatures of the service are seen there. -/
def SeesSignatures (s : Scope) (g : Generation) : Prop :=
  ∀ signature ∈ signatures s.settings g.controllers, ∀ name ∈ signature.typeNames, g.Sees s name

theorem seesSignatures_iff (made : s.generate = .ok g) :
    g.SeesSignatures s
      ↔ g.Sees s haveQueryParams
        ∨ ∀ c ∈ g.controllers, ∀ e ∈ c.entries, ∀ p ∈ signatureParts e,
          p.resolved.typeName ≠ haveQueryParams := by
  unfold SeesSignatures
  rw [forall_typeNames_iff]
  constructor
  · rintro ⟨-, own⟩
    by_cases seen : g.Sees s haveQueryParams
    · exact .inl seen
    · refine .inr fun c controller e entry p part written => seen ?_
      exact written ▸ (own c controller e entry).2 p part
  · intro condition
    have shared : EndpointName s.settings g.controllers endpointInterface :=
      endpointName_of_mem (by simp)
    refine ⟨.qualified _ shared rfl, ?_⟩
    intro c controller e entry
    refine ⟨.qualified _ (endpointName_entry controller entry) ?_, ?_⟩
    · simp only [qualifiedName, String.append_assoc]
    · intro p part
      have member := mem_parts_of_mem_signatureParts part
      rcases sees_or_of_part made controller entry member with seen | ⟨-, written⟩
      · exact seen
      · rcases condition with seen | unused
        · exact written ▸ seen
        · exact absurd written (unused c controller e entry p part)

/-- The documents of the endpoints and of the service are always made. -/
theorem documents_made (made : s.generate = .ok g) :
    ⟨s.settings.endpoints.path, (endpointsCode s.settings g.controllers).render⟩ ∈ g.documents
      ∧ ⟨s.settings.service.path, (service s.settings g.controllers).render⟩ ∈ g.documents := by
  obtain ⟨controllers, -, -, -, rfl⟩ := Scope.generate_eq_ok_iff.mp made
  exact ⟨by simp [Scope.documents], by simp [Scope.documents]⟩

/--
The signatures of the service use visible type names just when the service lies in the namespace of
the endpoints, a mapping gives the name of the interface of query parameters, or none of them uses
that name. With interfaces declared they always do.
-/
theorem signatures_visible_iff (made : s.generate = .ok g) :
    ⟨s.settings.endpoints.path, (endpointsCode s.settings g.controllers).render⟩ ∈ g.documents
      ∧ ⟨s.settings.service.path, (service s.settings g.controllers).render⟩ ∈ g.documents
      ∧ (service s.settings g.controllers).headers = serviceHeaders s.settings g.controllers
      ∧ (g.SeesSignatures s
        ↔ s.settings.service.namespaceName = s.settings.endpoints.namespaceName
          ∨ (∃ m ∈ s.settings.typeMappings, m.targetName = haveQueryParams)
          ∨ ∀ c ∈ g.controllers, ∀ e ∈ c.entries, ∀ p ∈ signatureParts e,
            p.resolved.typeName ≠ haveQueryParams)
      ∧ (s.settings.generateInterfaces = true → g.SeesSignatures s) := by
  obtain ⟨endpoints, service⟩ := documents_made made
  have condition := seesSignatures_iff made
  refine ⟨endpoints, service, headers_service _ _, ?_, ?_⟩
  · rw [condition, sees_haveQueryParams_iff, or_assoc]
  · intro on
    rw [condition]
    by_cases seen : g.Sees s haveQueryParams
    · exact .inl seen
    · refine .inr fun c controller e entry p part written => seen ?_
      have member := mem_parts_of_mem_signatureParts part
      rcases sees_or_of_part made controller entry member with visible | ⟨off, -⟩
      · exact written ▸ visible
      · simp [on] at off

/-- With interfaces the service can lie in a namespace of its own. -/
theorem signatures_visible_mirrored :
    ∃ g, (Sample.scope (Sample.settings true "Services")).generate = .ok g
      ∧ g.SeesSignatures (Sample.scope (Sample.settings true "Services")) := by
  obtain ⟨g, c, e, made, -⟩ := Sample.exists_generate_scope (Sample.settings true "Services") rfl
  obtain ⟨-, -, -, -, always⟩ := signatures_visible_iff made
  exact ⟨g, made, always rfl⟩

/-- Without interfaces a class in a body is written as a name that is declared elsewhere. -/
theorem exists_not_seesSignatures :
    ∃ (s : Scope) (g : Generation), s.generate = .ok g ∧ ¬ g.SeesSignatures s := by
  let settings := Sample.settings false "Services"
  obtain ⟨g, c, e, made, controllers, entries, verb, parts⟩ :=
    Sample.exists_generate_scope settings rfl
  refine ⟨_, g, made, fun sees => ?_⟩
  have sent : Sample.part settings ∈ signatureParts e := by
    refine List.mem_append_right _ ?_
    simp [Entry.callParts, verb, Verb.carriesBody, Entry.bodyParts, Entry.partsAt, parts,
      Sample.part]
  rcases (seesSignatures_iff made).mp sees with seen | unused
  · rcases sees_haveQueryParams_iff.mp seen with same | ⟨m, listed, -⟩
    · exact absurd same (by decide)
    · cases listed
  · exact unused c (by simp [controllers]) e (by simp [entries]) _ sent rfl

end Generation

end ApiClient
