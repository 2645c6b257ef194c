import ApiClient.Generation
import ApiClient.Proofs.Binding
import ApiClient.Proofs.Declarations.Following

/-!
When a generation succeeds, and what its parts and declarations then come from.
-/

set_option autoImplicit false

namespace ApiClient

namespace Scope

variable {s : Scope}

/-- What a scope declares when its controllers are bound. -/
def declared (s : Scope) : Declarations := Declarations.follow s s.bindControllers.requests .empty

theorem generate_eq (s : Scope) :
    s.generate = s.bindControllers.result.bind fun controllers =>
      match Document.firstUnbound? controllers with
      | some r => .error r
      | none =>
        if s.areEnumsWritable s.declared = true then
          .ok ⟨s.documents controllers (Document.endpointsCode s.settings controllers) s.declared,
            controllers, s.declared⟩
        else .error .unwritable := by
  simp only [generate, declared, Document.endpoints, bind, Except.bind]
  cases s.bindControllers.result with
  | error r => rfl
  | ok controllers =>
    cases unbound : Document.firstUnbound? controllers with
    | some r => simp only [unbound]
    | none =>
      simp only [unbound]
      rfl

theorem generate_eq_ok_iff {g : Generation} :
    s.generate = .ok g ↔ ∃ controllers, s.bindControllers.result = .ok controllers
      ∧ Document.firstUnbound? controllers = none ∧ s.areEnumsWritable s.declared = true
      ∧ g = ⟨s.documents controllers (Document.endpointsCode s.settings controllers) s.declared,
          controllers, s.declared⟩ := by
  rw [generate_eq]
  cases s.bindControllers.result with
  | error r => simp [Except.bind]
  | ok controllers =>
    cases unbound : Document.firstUnbound? controllers with
    | some r => simp [Except.bind, unbound]
    | none =>
      by_cases writable : s.areEnumsWritable s.declared = true
      · simp [Except.bind, unbound, writable, eq_comm (a := g)]
      · simp [Except.bind, unbound, writable]

theorem bindControllers_requests {controllers : List Controller}
    (bound : s.bindControllers.result = .ok controllers) :
    s.bindControllers.requests
      = controllers.flatMap fun c => c.entries.flatMap s.entryRequests :=
  Traced.each_requests bound fun _ _ given => by
    obtain ⟨-, -, -, requests⟩ := bindController_ok given
    exact requests

/-- The type of a bound part is what its parameter resolves to under its constraints. -/
theorem exists_resolution {controllers : List Controller}
    (bound : s.bindControllers.result = .ok controllers) {c : Controller}
    (controller : c ∈ controllers) {e : Entry} (entry : e ∈ c.entries) {p : Part}
    (part : p ∈ e.parts) :
    ∃ resolution, s.resolve? p.parameter.type (some p.parameter) p.constraints = some resolution
      ∧ resolution.resolved = p.resolved := by
  obtain ⟨d, -, given⟩ := exists_related_of_mem (Traced.each_forall₂ bound) controller
  obtain ⟨a, action, entry⟩ := List.mem_flatMap.mp entry
  obtain ⟨m, verb, name, -, -, made⟩ := exists_bindEntry given action entry
  obtain ⟨parts, related, rfl, -⟩ := bindEntry_ok made
  obtain ⟨parameter, -, binds⟩ := exists_related_of_mem related part
  rw [binds.parameter]
  exact binds.resolved

/-- Enumerations whose constants can be written, in a store, are so where they are declared. -/
theorem areEnumsWritable_of_store (s : Scope)
    (writable : ∀ d ∈ s.store.all, ∀ m ∈ d.members, (Scalar.int m.value).isWritable = true) :
    s.areEnumsWritable s.declared = true := by
  unfold areEnumsWritable
  simp only [Bool.or_eq_true, List.all_eq_true]
  right
  intro d declared m member
  have found := (Declarations.isDrawn_follow s s.bindControllers.requests).enums d declared
  exact writable d (List.mem_of_find?_eq_some found) m member

end Scope

/-! A module of one controller, with a class that refers to itself, its base and an enumeration. -/

namespace Sample

def classOf (fullName : String) (base : Option TypeRef) (fields : List Field) : TypeDescriptor :=
  ⟨fullName, .classType, false, base, [], fields, [], []⟩

def color : TypeDescriptor :=
  ⟨"Acme.Color", .enumType, false, none, [], [], [], [⟨"Red", 0⟩]⟩

def base : TypeDescriptor := classOf "Acme.Base" none []

def node : TypeDescriptor :=
  classOf "Acme.Node" (some (.plain "Acme.Base"))
    [⟨"next", .plain "Acme.Node"⟩, ⟨"color", .plain "Acme.Color"⟩]

def parameter : Parameter := ⟨"node", .plain "Acme.Node", false, []⟩

def method : Method := ⟨"PostNode", true, false, false, false, [parameter], []⟩

def controller : TypeDescriptor :=
  { classOf "Acme.NodeController" (some (.plain TypeStore.apiController)) [] with
    attributes := [⟨"RoutePrefix", [.text "nodes"]⟩]
    methods := [method] }

def scope (settings : Settings) : Scope := ⟨⟨[controller, node, base, color], []⟩, settings⟩

/-- Default settings, but for the interfaces and the namespace of the service. -/
def settings (generateInterfaces : Bool) (service : String) : Settings :=
  { moduleFileName := "Acme.module.json"
    endpoints := ⟨none, "Endpoints.ts", "Endpoints"⟩
    service := ⟨none, "Service.ts", service⟩
    generateEnums := true
    enums := ⟨none, "Enums.ts", "Enums"⟩
    generateInterfaces := generateInterfaces
    interfaces := ⟨none, "Interfaces.ts", "Interfaces"⟩
    scanOtherModules := true
    writeNamespaceAsModule := false
    typeMappings := [] }

/-- The module with its classes declared as interfaces. -/
def mirrored : Scope := scope (settings true "Endpoints")

/-- The part of the parameter, which travels in the body. -/
def part (settings : Settings) : Part :=
  ⟨parameter, .body, ((scope settings).ofObject false node).resolved, true, []⟩

variable {settings : Settings}

theorem controllers_scope :
    (scope settings).store.controllers TypeStore.apiController = [controller] := by
  have derives : (scope settings).store.derivesFrom controller TypeStore.apiController = true := by
    simp [TypeStore.derivesFrom, TypeStore.inheritsFrom, controller, classOf, TypeRef.plain]
  have named : Text.endsWith TypeStore.controllerEnding controller.name = true := by cbv
  have node_unnamed : Text.endsWith TypeStore.controllerEnding node.name = false := by cbv
  have base_unnamed : Text.endsWith TypeStore.controllerEnding base.name = false := by cbv
  change List.filter _ [controller, node, base, color] = _
  simp only [List.filter, named, node_unnamed, base_unnamed, derives]
  rfl

theorem resolve_scope (unforced : settings.typeMappings = []) :
    (scope settings).resolve parameter.type (some parameter) [] none
      = .ok ((scope settings).ofObject false node) := by
  have wraps : parameter.type.wrapsItems = false := by cbv
  have unknown : primitiveTypes.lookup parameter.type.core.fullName = none := by decide +kernel
  have found : (scope settings).store.find? parameter.type.core.name = some node := by cbv
  have unmapped : (scope settings).findMapping? parameter.type (some parameter) [] = none := by
    simp [Scope.findMapping?, scope, unforced]
  have rule := Scope.Rule.object node unmapped unknown found rfl rfl rfl
  rw [wraps] at rule
  exact Scope.resolve_eq_ok_iff.mpr (.inl rule.resolve?)

theorem bindParameter_scope (unforced : settings.typeMappings = []) :
    (scope settings).bindParameter [] [] .post parameter
      = ⟨((scope settings).ofObject false node).requests, .ok (part settings)⟩ := by
  have place : placeOf [] [] .post parameter = (.body, []) := by cbv
  have resolved := resolve_scope unforced
  have optional : (scope settings).isOptional parameter = true := by cbv
  simp [Scope.bindParameter, place, resolved, Scope.isMisplaced, optional, part]

theorem exists_bindEntry_scope (unforced : settings.typeMappings = []) (name : String) :
    ∃ e, ((scope settings).bindEntry (Scope.controllerOf controller) method .post name).result
        = .ok e ∧ e.verb = .post ∧ e.parts = [part settings] ∧ e.unbound = [] := by
  have tagged : tagText? controller.attributes routePrefixTag = some "nodes" := by cbv
  have segments : (Scope.controllerOf controller).segments = [] := by
    simp only [Scope.controllerOf, tagged]
    cbv
  have route : Scope.routeOf method = "" := by cbv
  have routeSegments : Route.segments "" = [] := by cbv
  have counted : Scope.prefixSegmentsFor (Scope.controllerOf controller) "" = [] := by
    simp [Scope.prefixSegmentsFor, segments]
  have parameters : method.parameters = [parameter] := rfl
  unfold Scope.bindEntry
  simp only [route, routeSegments, counted, parameters, Traced.each, bindParameter_scope unforced,
    Traced.andThen, Traced.done]
  exact ⟨_, rfl, rfl, rfl, rfl⟩

theorem exists_bindControllers_scope (unforced : settings.typeMappings = []) :
    ∃ c e, (scope settings).bindControllers.result = .ok [c] ∧ c.entries = [e]
      ∧ e.verb = .post ∧ e.parts = [part settings] ∧ e.unbound = [] := by
  have written : isTagWritable controller.attributes routePrefixTag = true := by cbv
  have actions : controller.methods.filter Method.isAction = [method] := by cbv
  have verbs : method.verbs = [.post] := by cbv
  have verbsWritten : method.areVerbsWritable = true := by cbv
  have routeWritten : isTagWritable method.attributes routeTag = true := by cbv
  obtain ⟨e, bound, verb, parts, unbound⟩ := exists_bindEntry_scope unforced "PostNode"
  obtain ⟨c, made, action⟩ := Scope.exists_bindController_of_single written actions verbs
    verbsWritten routeWritten bound
  refine ⟨c, e, ?_, by simp [Controller.entries, action], verb, parts, unbound⟩
  simp [Scope.bindControllers, controllers_scope, Traced.each, made, Traced.done, Except.bind]

theorem exists_generate_scope (settings : Settings) (unforced : settings.typeMappings = []) :
    ∃ g c e, (scope settings).generate = .ok g ∧ g.controllers = [c] ∧ c.entries = [e]
      ∧ e.verb = .post ∧ e.parts = [part settings] := by
  obtain ⟨c, e, bound, entries, verb, parts, unbound⟩ := exists_bindControllers_scope unforced
  have complete : Document.firstUnbound? [c] = none := by
    simp [Document.firstUnbound?, entries, Entry.unboundRefusal?, unbound]
  have writable : (scope settings).areEnumsWritable (scope settings).declared = true := by
    apply Scope.areEnumsWritable_of_store
    intro d member m constant
    change d ∈ [controller, node, base, color] at member
    simp only [List.mem_cons, List.not_mem_nil, or_false] at member
    rcases member with rfl | rfl | rfl | rfl
    · cases constant
    · cases constant
    · cases constant
    · obtain rfl := List.mem_singleton.mp constant
      rw [Scalar.isWritable, decide_eq_true_eq, Nat.pow_eq, Int.natAbs_zero]
      exact Nat.pow_pos (by decide)
  have made := Scope.generate_eq_ok_iff.mpr ⟨[c], bound, complete, writable, rfl⟩
  exact ⟨_, c, e, made, rfl, entries, verb, parts⟩

end Sample

end ApiClient
