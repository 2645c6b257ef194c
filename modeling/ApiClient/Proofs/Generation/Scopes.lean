import ApiClient.Proofs.Binding.Names
import ApiClient.Proofs.Document.Pairing
import ApiClient.Proofs.Generation.Visibility

/-!
The names that the document of endpoints declares in one scope.

The outer namespace holds the shared interfaces and a namespace for each controller, and this one
an interface and a class for each entry. Main statement: which names there are in a scope, and just
when no two of them are the same.
-/

set_option autoImplicit false

namespace ApiClient

open TypeDescriptor (IsShortName)

theorem nodup_flatMap_pair_iff {α β : Type} (first second : α → β) (as : List α) :
    (as.flatMap fun a => [first a, second a]).Nodup
      ↔ (as.map first).Nodup ∧ (as.map second).Nodup
        ∧ ∀ a ∈ as, ∀ b ∈ as, first a ≠ second b := by
  have parted : (as.flatMap fun a => [first a, second a]).Perm (as.map first ++ as.map second) := by
    rw [List.map_eq_flatMap, List.map_eq_flatMap]
    exact (List.flatMap_append_perm as (fun a => [first a]) fun a => [second a]).symm
  rw [parted.nodup_iff, List.nodup_append]
  simp

namespace Document

open Code

/-- A declaration: its keyword, its name, and what stands behind the name. -/
structure Declaration where
  keyword : String
  name : String
  heritage : String
deriving DecidableEq, Repr

def Declaration.header (d : Declaration) : String :=
  "export " ++ d.keyword ++ " " ++ d.name ++ d.heritage

/-- The declarations of a scope open the blocks that stand directly in a block, in order. -/
def Declares (code : Code) (declarations : List Declaration) : Prop :=
  code.children.map frame? = declarations.map fun d => some ⟨d.header, false, ""⟩

/-- What stands beside each other in the outer namespace. -/
def outerDeclarations (s : Settings) (controllers : List Controller) : List Declaration :=
  [⟨"interface", endpointInterface, ""⟩, ⟨"interface", haveQueryParams, ""⟩]
    ++ controllers.map fun c => ⟨s.namespaceKeyword, c.name, ""⟩

/-- What stands beside each other in the namespace of a controller. -/
def innerDeclarations (c : Controller) : List Declaration :=
  c.entries.flatMap fun e =>
    [⟨"interface", "I" ++ e.name, " extends " ++ endpointInterface⟩,
      ⟨"class", e.name, " implements " ++ endpointInterface⟩]

variable {s : Settings} {c : Controller} {controllers : List Controller}

theorem declares_endpointsCode :
    Declares (endpointsCode s controllers) (outerDeclarations s controllers) := by
  unfold Declares outerDeclarations
  rw [endpointsCode, children_plain, sharedInterfaces]
  simp only [List.map_append, List.map_cons, List.map_nil, List.map_map, Function.comp_def,
    controllerNamespace, frame?_plain, Declaration.header, String.append_empty]
  rfl

theorem declares_controllerNamespace :
    Declares (controllerNamespace s c) (innerDeclarations c) := by
  have interface : "export interface I" = "export " ++ "interface" ++ " " ++ "I" := by decide
  have class_ : "export class " = "export " ++ "class" ++ " " := by decide
  unfold Declares innerDeclarations
  simp only [controllerNamespace, children_plain, List.map_flatMap, List.map_cons, List.map_nil,
    entryInterface, entryClass, frame?_plain, Declaration.header, interface, class_,
    String.append_assoc]

theorem names_outerDeclarations :
    (outerDeclarations s controllers).map Declaration.name
      = endpointInterface :: haveQueryParams :: controllers.map Controller.name := by
  simp [outerDeclarations, Function.comp_def]

theorem nodup_outerDeclarations_iff :
    ((outerDeclarations s controllers).map Declaration.name).Nodup
      ↔ (controllers.map Controller.name).Nodup
        ∧ ∀ c ∈ controllers, c.name ≠ endpointInterface ∧ c.name ≠ haveQueryParams := by
  have apart : endpointInterface ≠ haveQueryParams := by decide
  rw [names_outerDeclarations, List.nodup_cons, List.nodup_cons]
  simp only [List.mem_cons, List.mem_map, apart, false_or, not_exists, not_and]
  constructor
  · rintro ⟨first, second, distinct⟩
    exact ⟨distinct, fun c member => ⟨first c member, second c member⟩⟩
  · rintro ⟨distinct, free⟩
    exact ⟨fun c member => (free c member).1, fun c member => (free c member).2, distinct⟩

theorem names_innerDeclarations :
    (innerDeclarations c).map Declaration.name
      = (c.entries.map Entry.name).flatMap fun name => ["I" ++ name, name] := by
  simp [innerDeclarations, List.map_flatMap, List.flatMap_map]

theorem nodup_interfaceNames {names : List String} (distinct : names.Nodup) :
    (names.map ("I" ++ ·)).Nodup :=
  distinct.map fun _ _ same => (String.append_right_inj _).mp same

theorem nodup_innerDeclarations_iff (distinct : (c.entries.map Entry.name).Nodup) :
    ((innerDeclarations c).map Declaration.name).Nodup
      ↔ ∀ e ∈ c.entries, ∀ e' ∈ c.entries, e'.name ≠ "I" ++ e.name := by
  have marked := nodup_interfaceNames distinct
  rw [names_innerDeclarations, nodup_flatMap_pair_iff, List.map_id']
  simp only [List.forall_mem_map]
  constructor
  · rintro ⟨-, -, apart⟩ e entry e' entry' same
    exact apart e entry e' entry' same.symm
  · exact fun apart => ⟨marked, distinct, fun e entry e' entry' same =>
      apart e entry e' entry' same.symm⟩

end Document

namespace Scope

variable {s : Scope}

/-- Controllers are named as their types, without the ending that all of these have. -/
theorem map_name_controllers {controllers : List Controller}
    (bound : s.bindControllers.result = .ok controllers) :
    controllers.map (fun c => c.name ++ TypeStore.controllerEnding)
      = (s.store.controllers TypeStore.apiController).map TypeDescriptor.name := by
  have named : ∀ d ∈ s.store.controllers TypeStore.apiController,
      Text.withoutEnding TypeStore.controllerEnding d.name ++ TypeStore.controllerEnding
        = d.name := by
    intro d member
    have conditions := (List.mem_filter.mp member).2
    simp only [Bool.and_eq_true] at conditions
    exact Text.withoutEnding_append conditions.1.2
  rw [← List.map_congr_left named]
  refine map_eq_of_forall₂ (Traced.each_forall₂ bound) fun d c given => ?_
  obtain ⟨actions, rfl, -, -⟩ := bindController_ok given
  rfl

theorem nodup_names_controllers_iff {controllers : List Controller}
    (bound : s.bindControllers.result = .ok controllers) :
    (controllers.map Controller.name).Nodup
      ↔ (s.store.controllers TypeStore.apiController).Pairwise fun d d' =>
        ¬ ∃ name, IsShortName d.fullName name ∧ IsShortName d'.fullName name := by
  have ended : (controllers.map Controller.name).Nodup
      ↔ (controllers.map fun c => c.name ++ TypeStore.controllerEnding).Nodup := by
    have injective : Function.Injective (· ++ TypeStore.controllerEnding) :=
      fun _ _ same => String.append_left_inj _ |>.mp same
    rw [← List.nodup_map_iff injective, List.map_map]
    rfl
  rw [ended, map_name_controllers bound, List.Nodup, List.pairwise_map]
  simp only [← TypeDescriptor.name_eq_name_iff, ne_eq]

end Scope

/-! Two controllers of one short name, and a method that is named as another one's interface. -/

namespace Sample

def getter (name : String) (attributes : List Attribute) : Method :=
  ⟨name, true, false, false, false, [], attributes⟩

def twin (fullName : String) (methods : List Method) : TypeDescriptor :=
  { controller with fullName := fullName, methods := methods }

def twins : Scope :=
  ⟨⟨[twin "Acme.NodeController" [getter "GetNode" [], getter "IGetNode" [⟨"HttpGet", []⟩]],
    twin "Other.NodeController" []], []⟩, settings false "Endpoints"⟩

theorem exists_generate_twins :
    ∃ g, twins.generate = .ok g ∧ g.controllers.map Controller.name = ["Node", "Node"]
      ∧ g.controllers.map (fun c => c.entries.map Entry.name) = [["GetNode", "IGetNode"], []] := by
  have evaluated : twins.bindControllers.result.toOption.map (fun controllers =>
      ((Document.firstUnbound? controllers).isNone, controllers.map Controller.name,
        controllers.map fun c => c.entries.map Entry.name))
      = some (true, ["Node", "Node"], [["GetNode", "IGetNode"], []]) := by decide +kernel
  have writable : twins.areEnumsWritable twins.declared = true := by
    apply Scope.areEnumsWritable_of_store
    intro d member m constant
    have silent : d.members = [] := by
      rcases List.mem_cons.mp member with rfl | member
      · rfl
      · obtain rfl := List.mem_singleton.mp member
        rfl
    rw [silent] at constant
    cases constant
  cases bound : twins.bindControllers.result with
  | error r => simp [bound, Except.toOption] at evaluated
  | ok controllers =>
    simp only [bound, Except.toOption, Option.map_some, Option.some.injEq, Prod.mk.injEq,
      Option.isNone_iff_eq_none] at evaluated
    obtain ⟨complete, names, entries⟩ := evaluated
    exact ⟨_, Scope.generate_eq_ok_iff.mpr ⟨controllers, bound, complete, writable, rfl⟩, names,
      entries⟩

end Sample

namespace Generation

open Document

/--
The document of endpoints declares the shared interfaces and a namespace for each controller, and in
there an interface and a class for each entry. The namespaces of controllers have different names
just when no two of their types share a short name. In the namespace of a controller the classes
have different names, and so have the interfaces; all names are different just when no entry is
named as the interface of another one.
-/
theorem declared_names_nodup_iff {s : Scope} {g : Generation} (made : s.generate = .ok g) :
    ⟨s.settings.endpoints.path, (endpointsCode s.settings g.controllers).render⟩ ∈ g.documents
      ∧ Declares (endpointsCode s.settings g.controllers)
        (outerDeclarations s.settings g.controllers)
      ∧ ((g.controllers.map Controller.name).Nodup
        ↔ (s.store.controllers TypeStore.apiController).Pairwise fun d d' =>
          ¬ ∃ name, IsShortName d.fullName name ∧ IsShortName d'.fullName name)
      ∧ (((outerDeclarations s.settings g.controllers).map Declaration.name).Nodup
        ↔ (g.controllers.map Controller.name).Nodup
          ∧ ∀ c ∈ g.controllers, c.name ≠ endpointInterface ∧ c.name ≠ haveQueryParams)
      ∧ ∀ c ∈ g.controllers,
        controllerNamespace s.settings c ∈ (endpointsCode s.settings g.controllers).children
          ∧ Declares (controllerNamespace s.settings c) (innerDeclarations c)
          ∧ (c.entries.map Entry.name).Nodup
          ∧ ((c.entries.map Entry.name).map ("I" ++ ·)).Nodup
          ∧ (((innerDeclarations c).map Declaration.name).Nodup
            ↔ ∀ e ∈ c.entries, ∀ e' ∈ c.entries, e'.name ≠ "I" ++ e.name) := by
  obtain ⟨controllers, bound, -, -, rfl⟩ := Scope.generate_eq_ok_iff.mp made
  refine ⟨(documents_made made).1, declares_endpointsCode,
    Scope.nodup_names_controllers_iff bound, nodup_outerDeclarations_iff, ?_⟩
  intro c member
  obtain ⟨d, -, given⟩ := exists_related_of_mem (Traced.each_forall₂ bound) member
  have distinct := Scope.nodup_names_entries given
  refine ⟨?_, declares_controllerNamespace, distinct, nodup_interfaceNames distinct,
    nodup_innerDeclarations_iff distinct⟩
  exact List.mem_append_right _ (List.mem_map_of_mem member)

theorem declared_names_nodup_iff_twins :
    ∃ g, Sample.twins.generate = .ok g
      ∧ ⟨Sample.twins.settings.endpoints.path,
        (endpointsCode Sample.twins.settings g.controllers).render⟩ ∈ g.documents
      ∧ ∀ c ∈ g.controllers, (c.entries.map Entry.name).Nodup := by
  obtain ⟨g, made, -⟩ := Sample.exists_generate_twins
  obtain ⟨written, -, -, -, inner⟩ := declared_names_nodup_iff made
  exact ⟨g, made, written, fun c member => (inner c member).2.2.1⟩

/-- Neither the namespaces of controllers nor the declarations in one have different names. -/
theorem exists_declared_names_eq :
    ∃ g, Sample.twins.generate = .ok g
      ∧ ¬ (g.controllers.map Controller.name).Nodup
      ∧ ∃ c ∈ g.controllers, ¬ ((innerDeclarations c).map Declaration.name).Nodup := by
  obtain ⟨g, made, names, entries⟩ := Sample.exists_generate_twins
  refine ⟨g, made, ?_, ?_⟩
  · rw [names]
    decide
  · have first : ["GetNode", "IGetNode"] ∈ g.controllers.map fun c => c.entries.map Entry.name := by
      rw [entries]
      exact List.mem_cons_self
    obtain ⟨c, member, listed⟩ := List.mem_map.mp first
    refine ⟨c, member, fun distinct => ?_⟩
    have declared : (innerDeclarations c).map Declaration.name
        = ["IGetNode", "GetNode", "IIGetNode", "IGetNode"] := by
      rw [names_innerDeclarations, listed]
      decide
    rw [declared] at distinct
    revert distinct
    decide

end Generation

end ApiClient
