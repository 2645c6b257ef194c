import ApiClient.Proofs.Code
import ApiClient.Proofs.Declarations.Following
import ApiClient.Proofs.Generation
import Mathlib.Data.List.Nodup

/-!
Full names and short names of the declared types.

Additions are told apart by full names, so none is held twice (`keyed_run`), while declarations and
references carry short names. Main statement: the names in a document are distinct just when the
held types have distinct short names, and two references read the same just when their namespaces
and the short names of their types do.
-/

set_option autoImplicit false

namespace ApiClient

open TypeDescriptor (IsShortName)

/-- With distinct keys, names are distinct when they tell different keys apart. -/
theorem nodup_map_iff_of_nodup_keys {α β γ : Type} {key : α → β} {as : List α}
    (keyed : (as.map key).Nodup) (name : α → γ) :
    (as.map name).Nodup ↔ ∀ a ∈ as, ∀ b ∈ as, key a ≠ key b → name a ≠ name b := by
  constructor
  · intro distinct a first b second differs same
    obtain rfl := List.inj_on_of_nodup_map distinct first second same
    exact differs rfl
  · intro apart
    refine List.Nodup.map_on ?_ (List.Nodup.of_map key keyed)
    intro a first b second same
    have sameKey : key a = key b := by
      by_contra differs
      exact apart a first b second differs same
    exact List.inj_on_of_nodup_map keyed first second sameKey

namespace Declarations

/-- Each full name is held once by each of the registries. -/
structure Keyed (t : Declarations) : Prop where
  enums : (t.enums.map TypeDescriptor.fullName).Nodup
  interfaces : (t.interfaces.map fun e => e.descriptor.fullName).Nodup

variable {s : Scope}

theorem keyed_empty : Keyed empty := ⟨List.nodup_nil, List.nodup_nil⟩

theorem Keyed.addEnum {t : Declarations} (keyed : Keyed t) (d : TypeDescriptor) :
    Keyed (t.addEnum d) := by
  unfold Declarations.addEnum
  split
  · exact keyed
  · next fresh =>
    refine ⟨?_, keyed.interfaces⟩
    rw [List.map_append, List.map_singleton, ← List.concat_eq_append]
    refine List.Nodup.concat (fun held => fresh ?_) keyed.enums
    obtain ⟨d', member, same⟩ := List.mem_map.mp held
    exact List.any_eq_true.mpr ⟨d', member, by simpa using same⟩

theorem Keyed.push {t : Declarations} (keyed : Keyed t) {e : InterfaceEntry}
    (fresh : t.hasInterface e.descriptor.fullName = false) : Keyed (t.push e) := by
  refine ⟨keyed.enums, ?_⟩
  unfold Declarations.push
  rw [List.map_append, List.map_singleton, ← List.concat_eq_append]
  refine List.Nodup.concat (fun held => ?_) keyed.interfaces
  obtain ⟨e', member, same⟩ := List.mem_map.mp held
  have known : t.hasInterface e.descriptor.fullName = true :=
    List.any_eq_true.mpr ⟨e', member, by simpa using same⟩
  simp [fresh] at known

theorem FollowStep.keyed {requests requests' : List Request} {t t' : Declarations}
    (step : FollowStep s requests t requests' t') (keyed : Keyed t) : Keyed t' := by
  cases step with
  | absent found => exact keyed
  | enum found => exact keyed.addEnum _
  | known found known => exact keyed
  | fresh found fresh => exact keyed.push fresh

theorem Keyed.follow {t : Declarations} (keyed : Keyed t) (requests : List Request) :
    Keyed (follow s requests t) :=
  follow_invariant (I := fun _ t => Keyed t) (fun _ _ _ _ step => step.keyed) keyed

theorem Keyed.addInterface {t : Declarations} (keyed : Keyed t) (d : TypeDescriptor) :
    Keyed (t.addInterface s d) := by
  unfold Declarations.addInterface
  split
  · exact keyed
  · next fresh =>
    have absent : t.hasInterface (s.interfaceOf d).descriptor.fullName = false := by
      simpa [Scope.interfaceOf] using fresh
    exact (keyed.push absent).follow _

/-- An addition: an enumeration, a class, or what a resolution requests. -/
inductive Addition
  | enum (d : TypeDescriptor)
  | interface (d : TypeDescriptor)
  | requests (requests : List Request)

def add (s : Scope) (t : Declarations) : Addition → Declarations
  | .enum d => t.addEnum d
  | .interface d => t.addInterface s d
  | .requests requests => follow s requests t

/-- Make additions in order, from nothing declared on. -/
def run (s : Scope) (additions : List Addition) : Declarations := additions.foldl (add s) empty

theorem Keyed.add {t : Declarations} (keyed : Keyed t) (addition : Addition) :
    Keyed (add s t addition) := by
  cases addition with
  | enum d => exact keyed.addEnum d
  | interface d => exact keyed.addInterface d
  | requests requests => exact keyed.follow requests

theorem keyed_run (s : Scope) (additions : List Addition) : Keyed (run s additions) := by
  have kept : ∀ (additions : List Addition) (t : Declarations), Keyed t →
      Keyed (additions.foldl (Declarations.add s) t) := by
    intro additions
    induction additions with
    | nil => exact fun _ keyed => keyed
    | cons addition rest ih => exact fun t keyed => ih _ (keyed.add addition)
  exact kept additions empty keyed_empty

end Declarations

namespace Document

open Code

def interfaceHeader (e : InterfaceEntry) : String :=
  "export interface " ++ e.descriptor.name
    ++ match e.base with
      | some name => " extends " ++ name
      | none => ""

theorem bodyHeaders_statements {α : Type} (line : α → String) (items : List α) :
    bodyHeaders (items.map fun a => .statement (line a)) = [] := by
  rw [bodyHeaders_map]
  simp

theorem headers_enumBlock (d : TypeDescriptor) :
    headers (enumBlock d) = ["export enum " ++ d.name] := by
  rw [enumBlock, headers_plain, bodyHeaders_statements]

theorem headers_interfaceBlock (e : InterfaceEntry) :
    headers (interfaceBlock e) = [interfaceHeader e] := by
  rw [interfaceBlock, headers_plain, bodyHeaders_statements]
  rfl

theorem headers_enums (s : Settings) (t : Declarations) :
    (enums s t).headers
      = (s.namespaceKeyword ++ " " ++ s.enums.namespaceName)
        :: t.enums.map fun d => "export enum " ++ d.name := by
  rw [enums, headers_plain, bodyHeaders_map]
  simp [headers_enumBlock, List.map_eq_flatMap]

theorem headers_interfaces (s : Settings) (t : Declarations) :
    (interfaces s t).headers
      = (s.namespaceKeyword ++ " " ++ s.interfaces.namespaceName)
        :: t.interfaces.map interfaceHeader := by
  rw [interfaces, headers_plain, bodyHeaders_map]
  simp [headers_interfaceBlock, List.map_eq_flatMap]

end Document

namespace Request

/-- The namespace of the document that declares what is requested. -/
def namespaceName (s : Settings) : Request → String
  | enum _ => s.enums.namespaceName
  | interface _ => s.interfaces.namespaceName

end Request

namespace Scope

variable {s : Scope} {res res' : Resolution} {q q' : Request}

/-- A resolution of some reference requests a type. -/
structure Refers (s : Scope) (res : Resolution) (q : Request) : Prop where
  resolved : ∃ r parameter constraints fallback,
    s.resolve r parameter constraints fallback = .ok res
  asked : q ∈ res.requests

theorem Refers.writing (refers : s.Refers res q) : s.Writing res := by
  obtain ⟨r, parameter, constraints, fallback, resolved⟩ := refers.resolved
  rcases resolve_eq_ok_iff.mp resolved with ruled | ⟨-, name, -, rfl⟩
  · exact (rule_of_resolve? ruled).writing
  · cases refers.asked

/-- What is requested is written as its short name behind its namespace. -/
theorem Refers.exists_typeName (refers : s.Refers res q) :
    ∃ d : TypeDescriptor, d.fullName = q.fullName
      ∧ res.resolved.typeName = q.namespaceName s.settings ++ "." ++ d.name := by
  have asked := refers.asked
  cases refers.writing with
  | forced m listed mapping written silent => simp [silent] at asked
  | primitive mapping known silent => simp [silent] at asked
  | queryParams mapping off written silent => simp [silent] at asked
  | enum d mapping on visible isEnum written requested =>
    obtain rfl : q = .enum d.fullName := by simpa [requested] using asked
    exact ⟨d, rfl, written⟩
  | interface d mapping on visible object written requested =>
    obtain rfl : q = .interface d.fullName := by simpa [requested] using asked
    exact ⟨d, rfl, written⟩

theorem Refers.typeName_eq_iff (refers : s.Refers res q) (refers' : s.Refers res' q') :
    res.resolved.typeName = res'.resolved.typeName
      ↔ q.namespaceName s.settings = q'.namespaceName s.settings
        ∧ ∃ name, IsShortName q.fullName name ∧ IsShortName q'.fullName name := by
  obtain ⟨d, named, written⟩ := refers.exists_typeName
  obtain ⟨d', named', written'⟩ := refers'.exists_typeName
  rw [← named, ← named', ← TypeDescriptor.name_eq_name_iff, written, written']
  constructor
  · exact Text.qualified_inj d.dot_notMem_name d'.dot_notMem_name
  · rintro ⟨sameSpace, sameName⟩
    rw [sameSpace, sameName]

end Scope

/-! Two enumerations of one short name. -/

namespace Sample

def otherColor : TypeDescriptor :=
  ⟨"Other.Color", .enumType, false, none, [], [], [], [⟨"Blue", 0⟩]⟩

def colors : Scope := ⟨⟨[color, otherColor], []⟩, settings true "Endpoints"⟩

theorem run_colors :
    (Declarations.run colors [.enum color, .enum otherColor]).enums = [color, otherColor] := by
  have apart : color.fullName ≠ otherColor.fullName := by decide
  simp [Declarations.run, Declarations.add, Declarations.addEnum, Declarations.hasEnum,
    Declarations.empty, apart]

theorem refers_colors {d : TypeDescriptor} (found : colors.store.find? d.fullName = some d)
    (isEnum : d.isEnum = true) (plain : (TypeRef.plain d.fullName).core = .plain d.fullName)
    (single : (TypeRef.plain d.fullName).wrapsItems = false) :
    colors.Refers (colors.ofEnum false d) (.enum d.fullName) := by
  have named : (TypeRef.plain d.fullName).core.name = d.fullName := by rw [plain]; rfl
  have rule : colors.Rule (.plain d.fullName) none [] (colors.ofEnum false d) :=
    single ▸ .enum d rfl (named ▸ found) isEnum
  refine ⟨⟨_, none, [], none, Scope.resolve_eq_ok_iff.mpr (.inl rule.resolve?)⟩, ?_⟩
  exact List.mem_singleton_self _

end Sample

namespace Declarations

/--
Whatever is added, each registry holds a full name once and declares its types under their short
names, which are distinct just when no two of the types share one. References to types read the
same just when the namespaces and the short names do.
-/
theorem run_names_nodup_iff (s : Scope) (additions : List Addition) :
    Keyed (run s additions)
      ∧ (Document.enums s.settings (run s additions)).headers
        = (s.settings.namespaceKeyword ++ " " ++ s.settings.enums.namespaceName)
          :: (run s additions).enums.map (fun d => "export enum " ++ d.name)
      ∧ (Document.interfaces s.settings (run s additions)).headers
        = (s.settings.namespaceKeyword ++ " " ++ s.settings.interfaces.namespaceName)
          :: (run s additions).interfaces.map Document.interfaceHeader
      ∧ (((run s additions).enums.map TypeDescriptor.name).Nodup
        ↔ ∀ d ∈ (run s additions).enums, ∀ d' ∈ (run s additions).enums,
          d.fullName ≠ d'.fullName →
            ¬ ∃ name, IsShortName d.fullName name ∧ IsShortName d'.fullName name)
      ∧ (((run s additions).interfaces.map fun e => e.descriptor.name).Nodup
        ↔ ∀ e ∈ (run s additions).interfaces, ∀ e' ∈ (run s additions).interfaces,
          e.descriptor.fullName ≠ e'.descriptor.fullName → ¬ ∃ name,
            IsShortName e.descriptor.fullName name ∧ IsShortName e'.descriptor.fullName name)
      ∧ ∀ res res' q q', s.Refers res q → s.Refers res' q' →
        (res.resolved.typeName = res'.resolved.typeName
          ↔ q.namespaceName s.settings = q'.namespaceName s.settings
            ∧ ∃ name, IsShortName q.fullName name ∧ IsShortName q'.fullName name) := by
  have keyed := keyed_run s additions
  have enums := nodup_map_iff_of_nodup_keys keyed.enums TypeDescriptor.name
  have interfaces :=
    nodup_map_iff_of_nodup_keys keyed.interfaces fun e => e.descriptor.name
  simp only [ne_eq, TypeDescriptor.name_eq_name_iff] at enums interfaces
  exact ⟨keyed, Document.headers_enums _ _, Document.headers_interfaces _ _, enums, interfaces,
    fun _ _ _ _ refers refers' => refers.typeName_eq_iff refers'⟩

theorem exists_names_eq :
    ∃ (s : Scope) (additions : List Addition), ∃ d ∈ (run s additions).enums,
      ∃ d' ∈ (run s additions).enums, d.fullName ≠ d'.fullName
        ∧ ¬ (Document.enums s.settings (run s additions)).headers.Nodup
        ∧ ∃ res res', s.Refers res (.enum d.fullName) ∧ s.Refers res' (.enum d'.fullName)
          ∧ res.resolved.rendered = res'.resolved.rendered := by
  refine ⟨Sample.colors, [.enum Sample.color, .enum Sample.otherColor], Sample.color, ?_,
    Sample.otherColor, ?_, by decide, ?_, _, _,
    Sample.refers_colors (by cbv) rfl (by cbv) (by cbv),
    Sample.refers_colors (by cbv) rfl (by cbv) (by cbv), by decide +kernel⟩
  · simp [Sample.run_colors]
  · simp [Sample.run_colors]
  · have same : Sample.color.name = Sample.otherColor.name := by decide +kernel
    simp [Document.headers_enums, Sample.run_colors, same]

end Declarations

end ApiClient
