import ApiClient.Proofs.Binding.Refusals
import ApiClient.Proofs.Generation

/-!
With which refusal a generation ends, if it ends with one.

Main statement: a generation ends with the first of its obstacles, and it makes all documents where
there is none. Apart from integers with too many digits the obstacles are what is wrong with the
methods of the controllers, and behind all that the placeholders without a parameter.
-/

set_option autoImplicit false

namespace ApiClient

/-- What is wrong with the placeholders of a method: those whose name no parameter has. -/
def placeholderRefusals (c : Controller) (m : Method) : List Refusal :=
  ((Scope.prefixSegmentsFor c (Scope.routeOf m) ++ Route.segments (Scope.routeOf m)).filter
      fun segment => segment.name ∉ m.parameters.map Parameter.name).map
    fun segment => .unboundPlaceholder c.name m.name segment.name

namespace Scope

/-- What the eligible methods of all controllers give, in order. -/
def overMethods (s : Scope) (f : Controller → Method → List Refusal) : List Refusal :=
  (s.store.controllers TypeStore.apiController).flatMap fun d =>
    (d.methods.filter Method.isAction).flatMap (f (controllerOf d))

/-- What is wrong with the methods: no verb, or the type of a parameter. -/
def bindingRefusals (s : Scope) : List Refusal :=
  s.overMethods fun c m => verbRefusals c m ++ s.signatureRefusals c m

/-- What is wrong with the entries: their unbound placeholders. -/
def unboundRefusals (s : Scope) : List Refusal :=
  s.overMethods fun c m => m.verbs.flatMap fun _ => placeholderRefusals c m

/-- All that keeps a client from being made, in the order in which it is met. -/
def obstacles (s : Scope) : List Refusal :=
  (s.store.controllers TypeStore.apiController).flatMap s.controllerObstacles
    ++ s.unboundRefusals ++ lengthRefusals (s.areEnumsWritable s.declared)

variable {s : Scope}

theorem refusalOf?_bindControllers (s : Scope) :
    refusalOf? s.bindControllers.result
      = ((s.store.controllers TypeStore.apiController).flatMap s.controllerObstacles).head? :=
  Traced.refusalOf?_each fun d _ => refusalOf?_bindController d

end Scope

/-- What an entry says to be wrong with it: its unbound placeholders. -/
def Entry.unboundRefusals (e : Entry) : List Refusal :=
  e.unbound.map (.unboundPlaceholder e.controllerName e.actionName)

theorem Document.firstUnbound?_eq (controllers : List Controller) :
    firstUnbound? controllers
      = (controllers.flatMap fun c => c.entries.flatMap Entry.unboundRefusals).head? := by
  unfold firstUnbound?
  rw [← List.flatMap_assoc, List.head?_flatMap]
  simp only [Entry.unboundRefusals, List.head?_map]
  rfl

namespace Scope

variable {s : Scope}

theorem unboundRefusals_bindEntry {c : Controller} {m : Method} {verb : Verb} {name : String}
    {e : Entry} (bound : (s.bindEntry c m verb name).result = .ok e) :
    e.unboundRefusals = placeholderRefusals c m := by
  obtain ⟨parts, related, rfl, -⟩ := bindEntry_ok bound
  have names : parts.map Part.name = m.parameters.map Parameter.name :=
    map_eq_of_forall₂ related fun p part binds => congrArg Parameter.name binds.parameter
  simp only [Entry.unboundRefusals, placeholderRefusals, unboundNames, names, List.filter_map,
    List.map_map]
  refine congrArg (List.map _) (List.filter_congr fun segment _ => ?_)
  rw [Function.comp_apply, List.contains_eq_mem, decide_not]

theorem unboundRefusals_bindAction {c : Controller} {used : List String} {m : Method} {a : Action}
    (bound : (s.bindAction c used m).result = .ok a) :
    a.entries.flatMap Entry.unboundRefusals
      = m.verbs.flatMap fun _ => placeholderRefusals c m := by
  obtain ⟨-, -, -, -, related, -⟩ := bindAction_ok bound
  -- the entries say the same under every verb, so only their number counts
  rw [flatMap_eq_of_forall₂ related fun verbName e given => unboundRefusals_bindEntry given]
  conv_rhs => rw [← map_fst_zip_freshNames used m m.verbs, List.flatMap_map]

theorem unboundRefusals_bindActions {c : Controller} {used : List String} {methods : List Method}
    {actions : List Action} (bound : (s.bindActions c used methods).result = .ok actions) :
    (actions.flatMap Action.entries).flatMap Entry.unboundRefusals
      = methods.flatMap fun m => m.verbs.flatMap fun _ => placeholderRefusals c m := by
  induction methods generalizing used actions with
  | nil =>
    obtain rfl : [] = actions := by simpa [bindActions, Traced.done] using bound
    rfl
  | cons m rest ih =>
    obtain ⟨a, first, after, -⟩ := Traced.andThen_ok bound
    obtain ⟨others, tail, last, -⟩ := Traced.andThen_ok after
    obtain rfl : a :: others = actions := by simpa [Traced.done] using last
    rw [List.flatMap_cons, List.flatMap_append, List.flatMap_cons, ih tail,
      unboundRefusals_bindAction first]

theorem unboundRefusals_bindController {d : TypeDescriptor} {c : Controller}
    (bound : (s.bindController d).result = .ok c) :
    c.entries.flatMap Entry.unboundRefusals
      = (d.methods.filter Method.isAction).flatMap fun m =>
        m.verbs.flatMap fun _ => placeholderRefusals (controllerOf d) m := by
  obtain ⟨actions, rfl, given, -⟩ := bindController_ok bound
  exact unboundRefusals_bindActions given

/-- Once everything is bound, the first entry that says so has the first unbound placeholder. -/
theorem firstUnbound?_bindControllers {controllers : List Controller}
    (bound : s.bindControllers.result = .ok controllers) :
    Document.firstUnbound? controllers = s.unboundRefusals.head? := by
  have related := Traced.each_forall₂ bound
  rw [Document.firstUnbound?_eq,
    flatMap_eq_of_forall₂ related fun d c given => unboundRefusals_bindController given]
  rfl

/-- A generation ends with the first obstacle. -/
theorem refusalOf?_generate (s : Scope) : refusalOf? s.generate = s.obstacles.head? := by
  rw [generate_eq, obstacles, List.append_assoc, List.head?_append,
    ← refusalOf?_bindControllers]
  refine refusalOf?_bind fun controllers bound => ?_
  -- placeholders are looked at only now that everything is bound
  rw [List.head?_append, ← firstUnbound?_bindControllers bound]
  cases Document.firstUnbound? controllers with
  | some r => rfl
  | none =>
    unfold lengthRefusals
    cases s.areEnumsWritable s.declared <;> rfl

end Scope

section Digits

/-- The least number with more digits than can be written. -/
def leastLong : Nat := Nat.pow 10 maxDigits

def IsLong (i : Int) : Prop := leastLong ≤ i.natAbs

/-- The first argument of a tag is an integer with too many digits. -/
def StartsLong (attributes : List Attribute) (tag : String) : Prop :=
  ∃ a i, findTag? attributes tag = some a ∧ a.arguments.head? = some (.int i) ∧ IsLong i

theorem isWritable_int_eq_false_iff {i : Int} : (Scalar.int i).isWritable = false ↔ IsLong i := by
  unfold IsLong leastLong
  rw [Scalar.isWritable, decide_eq_false_iff_not, Nat.not_lt]

theorem isWritable_eq_false_iff {v : Scalar} :
    v.isWritable = false ↔ ∃ i, v = .int i ∧ IsLong i := by
  cases v with
  | int i => simp [isWritable_int_eq_false_iff]
  | _ => simp [Scalar.isWritable]

theorem isTagWritable_eq_false_iff {attributes : List Attribute} {tag : String} :
    isTagWritable attributes tag = false ↔ StartsLong attributes tag := by
  unfold isTagWritable StartsLong
  cases findTag? attributes tag with
  | none => simp
  | some a => cases first : a.arguments.head? <;> simp [first, isWritable_eq_false_iff]

theorem areVerbsWritable_eq_false_iff {m : Method} :
    m.areVerbsWritable = false ↔ ∃ a ∈ m.attributes, tagKey a.name = tagKey acceptVerbsTag
      ∧ ∃ i, .int i ∈ a.arguments ∧ IsLong i := by
  simp only [Method.areVerbsWritable, List.all_eq_false, Bool.not_eq_true, Bool.or_eq_false_iff,
    bne_eq_false_iff_eq, isWritable_eq_false_iff]
  refine exists_congr fun a => and_congr_right fun _ => and_congr_right fun _ => ?_
  constructor
  · rintro ⟨v, argument, i, rfl, long⟩
    exact ⟨i, argument, long⟩
  · rintro ⟨i, argument, long⟩
    exact ⟨.int i, argument, i, rfl, long⟩

theorem areEnumsWritable_eq_false_iff {s : Scope} {t : Declarations} :
    s.areEnumsWritable t = false ↔ s.settings.generateEnums = true
      ∧ ∃ d ∈ t.enums, ∃ m ∈ d.members, IsLong m.value := by
  simp only [Scope.areEnumsWritable, Bool.or_eq_false_iff, Bool.not_eq_false', List.all_eq_false,
    Bool.not_eq_true, isWritable_int_eq_false_iff]

@[simp] theorem unwritable_mem_lengthRefusals {written : Bool} :
    .unwritable ∈ lengthRefusals written ↔ written = false := by
  cases written <;> simp [lengthRefusals]

end Digits

namespace Scope

/-- A text has to be made of an integer that has too many digits for it. -/
inductive WritesLong (s : Scope) : Prop
  | address (d : TypeDescriptor)
      (controller : d ∈ s.store.controllers TypeStore.apiController)
      (long : StartsLong d.attributes routePrefixTag)
  | route (d : TypeDescriptor) (m : Method)
      (controller : d ∈ s.store.controllers TypeStore.apiController)
      (action : m ∈ d.methods.filter Method.isAction) (long : StartsLong m.attributes routeTag)
  | verb (d : TypeDescriptor) (m : Method) (a : Attribute) (i : Int)
      (controller : d ∈ s.store.controllers TypeStore.apiController)
      (action : m ∈ d.methods.filter Method.isAction) (tag : a ∈ m.attributes)
      (accepts : tagKey a.name = tagKey acceptVerbsTag) (argument : .int i ∈ a.arguments)
      (long : IsLong i)
  | constant (d : TypeDescriptor) (m : EnumMember) (on : s.settings.generateEnums = true)
      (declared : d ∈ s.declared.enums) (member : m ∈ d.members) (long : IsLong m.value)

variable {s : Scope}

@[simp] theorem unwritable_notMem_signatureRefusals (c : Controller) (m : Method) :
    .unwritable ∉ s.signatureRefusals c m := by
  intro refused
  obtain ⟨verb, -, refused⟩ := List.mem_flatMap.mp refused
  obtain ⟨p, -, refused⟩ := List.mem_flatMap.mp refused
  unfold parameterRefusals at refused
  dsimp only at refused
  split at refused
  · simp at refused
  · split at refused <;> simp at refused

@[simp] theorem unwritable_notMem_verbRefusals (c : Controller) (m : Method) :
    .unwritable ∉ verbRefusals c m := by
  unfold verbRefusals
  split <;> simp

@[simp] theorem unwritable_notMem_placeholderRefusals (c : Controller) (m : Method) :
    .unwritable ∉ placeholderRefusals c m := by
  simp [placeholderRefusals]

theorem unwritable_notMem_unboundRefusals : .unwritable ∉ s.unboundRefusals := by
  simp [unboundRefusals, overMethods]

/-- Too long an integer is in the way just where a text has to be made of one. -/
theorem unwritable_mem_obstacles_iff : .unwritable ∈ s.obstacles ↔ s.WritesLong := by
  simp only [obstacles, controllerObstacles, methodObstacles, List.mem_append, List.mem_flatMap,
    unwritable_mem_lengthRefusals, unwritable_notMem_verbRefusals,
    unwritable_notMem_signatureRefusals, unwritable_notMem_unboundRefusals, or_false,
    isTagWritable_eq_false_iff, areVerbsWritable_eq_false_iff, areEnumsWritable_eq_false_iff]
  constructor
  · rintro (⟨d, controller, address | ⟨m, action, ⟨a, tag, accepts, i, argument, long⟩ | route⟩⟩
      | ⟨on, d, declared, m, member, long⟩)
    · exact .address d controller address
    · exact .verb d m a i controller action tag accepts argument long
    · exact .route d m controller action route
    · exact .constant d m on declared member long
  · rintro (⟨d, controller, address⟩ | ⟨d, m, controller, action, route⟩
      | ⟨d, m, a, i, controller, action, tag, accepts, argument, long⟩
      | ⟨d, m, on, declared, member, long⟩)
    · exact .inl ⟨d, controller, .inl address⟩
    · exact .inl ⟨d, controller, .inr ⟨m, action, .inr route⟩⟩
    · exact .inl ⟨d, controller, .inr ⟨m, action, .inl ⟨a, tag, accepts, i, argument, long⟩⟩⟩
    · exact .inr ⟨on, d, declared, m, member, long⟩

/-- The refusals that are not for the length of an integer. -/
def withoutLong (refusals : List Refusal) : List Refusal :=
  refusals.filter fun r => r ≠ .unwritable

theorem withoutLong_append (rs ts : List Refusal) :
    withoutLong (rs ++ ts) = withoutLong rs ++ withoutLong ts := List.filter_append ..

theorem withoutLong_flatMap {α : Type} (as : List α) (f : α → List Refusal) :
    withoutLong (as.flatMap f) = as.flatMap fun a => withoutLong (f a) := List.filter_flatMap

theorem withoutLong_eq_self_iff {refusals : List Refusal} :
    withoutLong refusals = refusals ↔ .unwritable ∉ refusals := by
  simp only [withoutLong, List.filter_eq_self, decide_eq_true_eq]
  exact ⟨fun others refused => others _ refused rfl,
    fun clean r refused same => clean (same ▸ refused)⟩

theorem withoutLong_lengthRefusals (written : Bool) :
    withoutLong (lengthRefusals written) = [] := by
  cases written <;> rfl

theorem withoutLong_methodObstacles (c : Controller) (m : Method) :
    withoutLong (s.methodObstacles c m) = verbRefusals c m ++ s.signatureRefusals c m := by
  have verbs := withoutLong_eq_self_iff.mpr (unwritable_notMem_verbRefusals c m)
  have signature := withoutLong_eq_self_iff.mpr
    (unwritable_notMem_signatureRefusals (s := s) c m)
  simp only [methodObstacles, withoutLong_append, withoutLong_lengthRefusals, verbs, signature,
    List.nil_append, List.append_nil]

theorem withoutLong_controllerObstacles (d : TypeDescriptor) :
    withoutLong (s.controllerObstacles d) = (d.methods.filter Method.isAction).flatMap fun m =>
      verbRefusals (controllerOf d) m ++ s.signatureRefusals (controllerOf d) m := by
  simp only [controllerObstacles, withoutLong_append, withoutLong_lengthRefusals, List.nil_append,
    withoutLong_flatMap, withoutLong_methodObstacles]

/-- But for long integers, binding comes first and unbound placeholders come last. -/
theorem withoutLong_obstacles (s : Scope) :
    withoutLong s.obstacles = s.bindingRefusals ++ s.unboundRefusals := by
  have unbound := withoutLong_eq_self_iff.mpr (unwritable_notMem_unboundRefusals (s := s))
  have binding : withoutLong ((s.store.controllers TypeStore.apiController).flatMap
      s.controllerObstacles) = s.bindingRefusals := by
    simp only [withoutLong_flatMap, withoutLong_controllerObstacles]
    rfl
  rw [obstacles, withoutLong_append, withoutLong_append, withoutLong_lengthRefusals, binding,
    unbound, List.append_nil]

theorem generate_eq_unwritable (binding : s.bindingRefusals = []) (unbound : s.unboundRefusals = [])
    (long : s.WritesLong) : s.generate = .error .unwritable := by
  have others := withoutLong_obstacles s
  have refused := unwritable_mem_obstacles_iff.mpr long
  rw [binding, unbound, List.append_nil, withoutLong, List.filter_eq_nil_iff] at others
  rw [← refusalOf?_eq_some_iff, refusalOf?_generate]
  cases obstacles : s.obstacles with
  | nil => simp [obstacles] at refused
  | cons r rest =>
    have first := others r (obstacles ▸ List.mem_cons_self)
    simpa using first

/-- The places of the documents that settings ask for. -/
def documentPaths (settings : Settings) : List Path :=
  [settings.endpoints.path, settings.service.path]
    ++ (if settings.generateEnums then [settings.enums.path] else [])
    ++ if settings.generateInterfaces then [settings.interfaces.path] else []

theorem map_path_documents (controllers : List Controller) (endpoints : Code) (t : Declarations) :
    (s.documents controllers endpoints t).map Document.path = documentPaths s.settings := by
  unfold documents documentPaths
  dsimp only
  cases s.settings.generateEnums <;> cases s.settings.generateInterfaces <;> rfl

theorem exists_generate_iff :
    (∃ g, s.generate = .ok g ∧ g.documents.map Document.path = documentPaths s.settings)
      ↔ s.obstacles = [] := by
  rw [← List.head?_eq_none_iff, ← refusalOf?_generate, refusalOf?_eq_none_iff]
  constructor
  · rintro ⟨g, made, -⟩
    exact ⟨g, made⟩
  · rintro ⟨g, made⟩
    obtain ⟨controllers, -, -, -, rfl⟩ := generate_eq_ok_iff.mp made
    exact ⟨_, made, map_path_documents _ _ _⟩

/--
A generation ends with the first obstacle and makes all documents where there is none. Obstacles
are, in order, methods without a verb and types of parameters, then unbound placeholders; and
between them integers that are too long for a text, just where a text has to be made of one.
Resolving the fields of declared interfaces is no obstacle.
-/
theorem generate_eq_error_iff_obstacles (s : Scope) :
    (∀ r, s.generate = .error r ↔ s.obstacles.head? = some r)
      ∧ ((∃ g, s.generate = .ok g ∧ g.documents.map Document.path = documentPaths s.settings)
        ↔ s.obstacles = [])
      ∧ (s.obstacles.filter fun r => r ≠ .unwritable) = s.bindingRefusals ++ s.unboundRefusals
      ∧ (.unwritable ∈ s.obstacles ↔ s.WritesLong)
      ∧ (s.obstacles = s.bindingRefusals ++ s.unboundRefusals ↔ ¬ s.WritesLong)
      ∧ ∀ f, s.resolve f.type none [] (some "any") = .ok (s.fieldResolution f) := by
  have others := withoutLong_obstacles s
  refine ⟨fun r => ?_, exists_generate_iff, others, unwritable_mem_obstacles_iff, ?_,
    s.resolve_field⟩
  · rw [← refusalOf?_generate, refusalOf?_eq_some_iff]
  · rw [← unwritable_mem_obstacles_iff, ← withoutLong_eq_self_iff, others, eq_comm]

end Scope

/-! A module of one controller, with an enumeration of one constant. -/

namespace Sample

def colorOf (value : Int) : TypeDescriptor :=
  ⟨"Acme.Color", .enumType, false, none, [], [], [], [⟨"Red", value⟩]⟩

def colorParameter : Parameter := ⟨"color", .plain "Acme.Color", false, []⟩

def colorMethod : Method := ⟨"PostColor", true, false, false, false, [colorParameter], []⟩

def colorController : TypeDescriptor := { controller with methods := [colorMethod] }

def painted (value : Int) : Scope :=
  ⟨⟨[colorController, colorOf value], []⟩, settings true "Endpoints"⟩

variable {value : Int}

theorem controllers_painted :
    (painted value).store.controllers TypeStore.apiController = [colorController] := by
  have derives : (painted value).store.derivesFrom colorController TypeStore.apiController
      = true := by
    simp [TypeStore.derivesFrom, TypeStore.inheritsFrom, colorController, controller, classOf,
      TypeRef.plain]
  have named : Text.endsWith TypeStore.controllerEnding colorController.name = true := by cbv
  have isClass : colorController.kind = .classType := rfl
  have concrete : colorController.isAbstract = false := rfl
  have isEnum : (colorOf value).kind = .enumType := rfl
  have primary : (painted value).store.primary = [colorController, colorOf value] := rfl
  simp [TypeStore.controllers, primary, isClass, concrete, named, derives, isEnum]

theorem actions_painted : colorController.methods.filter Method.isAction = [colorMethod] := by cbv

theorem verbs_painted : colorMethod.verbs = [.post] := by cbv

theorem resolve_painted :
    (painted value).resolve? colorParameter.type (some colorParameter) []
      = some ((painted value).ofEnum false (colorOf value)) := by
  have wraps : colorParameter.type.wrapsItems = false := by cbv
  have core : colorParameter.type.core = colorParameter.type := by cbv
  have found : (painted value).store.find? colorParameter.type.core.name
      = some (colorOf value) := by
    rw [core]
    rfl
  have rule : (painted value).Rule colorParameter.type (some colorParameter) [] _ :=
    .enum (colorOf value) rfl found rfl
  rw [wraps] at rule
  exact rule.resolve?

theorem place_painted : placeOf [] [] .post colorParameter = (.body, []) := by cbv

theorem segments_painted :
    Scope.prefixSegmentsFor (Scope.controllerOf colorController) (Scope.routeOf colorMethod) = []
      ∧ Route.segments (Scope.routeOf colorMethod) = [] := by
  have route : Scope.routeOf colorMethod = "" := by cbv
  have tagged : tagText? colorController.attributes routePrefixTag = some "nodes" := by cbv
  rw [route]
  constructor
  · simp only [Scope.prefixSegmentsFor, Scope.controllerOf, tagged]
    cbv
  · cbv

/-- Nothing is wrong with the module but, maybe, its constant. -/
theorem refusals_painted :
    (painted value).bindingRefusals = [] ∧ (painted value).unboundRefusals = [] := by
  obtain ⟨addressed, routed⟩ := segments_painted
  have parameters : colorMethod.parameters = [colorParameter] := rfl
  simp [Scope.bindingRefusals, Scope.unboundRefusals, Scope.overMethods, controllers_painted,
    actions_painted, verbs_painted, verbRefusals, placeholderRefusals, Scope.signatureRefusals,
    parameters, Scope.parameterRefusals, addressed, routed, place_painted, resolve_painted]

theorem exists_bindEntry_painted (value : Int) (name : String) :
    ∃ e, ((painted value).bindEntry (Scope.controllerOf colorController) colorMethod .post
        name).result = .ok e
      ∧ (painted value).entryRequests e = [.enum "Acme.Color"] := by
  obtain ⟨addressed, routed⟩ := segments_painted
  have parameters : colorMethod.parameters = [colorParameter] := rfl
  have requests : ((painted value).ofEnum false (colorOf value)).requests
      = [.enum "Acme.Color"] := rfl
  have resolved : (painted value).resolve colorParameter.type (some colorParameter) [] none
      = .ok ((painted value).ofEnum false (colorOf value)) :=
    Scope.resolve_eq_ok_iff.mpr (.inl resolve_painted)
  unfold Scope.bindEntry
  simp only [addressed, routed, parameters, Traced.each, Scope.bindParameter, place_painted,
    resolved, Scope.isMisplaced, Traced.andThen, Traced.done]
  refine ⟨_, rfl, ?_⟩
  simp [Scope.entryRequests, Scope.partRequests, resolve_painted, requests]

theorem exists_bindControllers_painted (value : Int) :
    ∃ c, (painted value).bindControllers.result = .ok [c]
      ∧ c.entries.flatMap (painted value).entryRequests = [.enum "Acme.Color"] := by
  have written : isTagWritable colorController.attributes routePrefixTag = true := by cbv
  have verbsWritten : colorMethod.areVerbsWritable = true := by cbv
  have routeWritten : isTagWritable colorMethod.attributes routeTag = true := by cbv
  obtain ⟨e, entry, requests⟩ := exists_bindEntry_painted value "PostColor"
  obtain ⟨c, made, action⟩ := Scope.exists_bindController_of_single written actions_painted
    verbs_painted verbsWritten routeWritten entry
  refine ⟨c, ?_, by simp [Controller.entries, action, requests]⟩
  simp [Scope.bindControllers, controllers_painted, Traced.each, made, Traced.done, Except.bind]

theorem requests_painted : (painted value).bindControllers.requests = [.enum "Acme.Color"] := by
  obtain ⟨c, bound, requests⟩ := exists_bindControllers_painted value
  simp [Scope.bindControllers_requests bound, requests]

theorem declared_painted : (painted value).declared.enums = [colorOf value] := by
  have found : (painted value).store.find? "Acme.Color" = some (colorOf value) := rfl
  simp [Scope.declared, requests_painted, Declarations.follow, found, Declarations.addEnum,
    Declarations.hasEnum, Declarations.empty]

end Sample

/-- A constant of too many digits ends a generation that nothing else keeps from succeeding. -/
theorem Scope.generate_long_constant :
    (Sample.painted leastLong).bindingRefusals = []
      ∧ (Sample.painted leastLong).unboundRefusals = []
      ∧ (Sample.painted leastLong).generate = .error .unwritable := by
  obtain ⟨binding, unbound⟩ := @Sample.refusals_painted leastLong
  refine ⟨binding, unbound, Scope.generate_eq_unwritable binding unbound ?_⟩
  have long : IsLong leastLong := Nat.le_of_eq (Int.natAbs_natCast leastLong).symm
  refine .constant (Sample.colorOf leastLong) ⟨"Red", leastLong⟩ rfl ?_ ?_ long
  · rw [Sample.declared_painted]
    exact List.mem_singleton_self _
  · exact List.mem_singleton_self _

end ApiClient
