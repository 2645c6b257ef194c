import ApiClient.Proofs.Binding

/-!
With which refusal the binding of a controller ends, if it ends with one.

What is wrong with the methods of a controller is listed in the order in which they are bound:
methods, their verbs, their parameters. Binding is refused for the first item of the list, and it
succeeds where the list is empty.
-/

set_option autoImplicit false

namespace ApiClient

/-- The refusal that a result stands for. -/
def refusalOf? {α : Type} : Except Refusal α → Option Refusal
  | .ok _ => none
  | .error r => some r

section Results

variable {α β : Type}

theorem refusalOf?_eq_some_iff {x : Except Refusal α} {r : Refusal} :
    refusalOf? x = some r ↔ x = .error r := by
  cases x <;> simp [refusalOf?]

theorem refusalOf?_eq_none_iff {x : Except Refusal α} :
    refusalOf? x = none ↔ ∃ a, x = .ok a := by
  cases x <;> simp [refusalOf?]

/-- What is computed from a result shows that the result is given. -/
theorem exists_ok_of_map_toOption {x : Except Refusal α} {f : α → β} {b : β}
    (computed : x.toOption.map f = some b) : ∃ a, x = .ok a ∧ f a = b := by
  cases x with
  | error r => simp [Except.toOption] at computed
  | ok a => exact ⟨a, rfl, by simpa [Except.toOption] using computed⟩

theorem refusalOf?_bind {x : Except Refusal α} {f : α → Except Refusal β}
    {after : Option Refusal} (given : ∀ a, x = .ok a → refusalOf? (f a) = after) :
    refusalOf? (x.bind f) = (refusalOf? x).or after := by
  cases x with
  | error r => rfl
  | ok a => exact given a rfl

theorem Traced.refusalOf?_andThen {x : Traced α} {f : α → Traced β} {after : Option Refusal}
    (given : ∀ a, x.result = .ok a → refusalOf? (f a).result = after) :
    refusalOf? (x.andThen f).result = (refusalOf? x.result).or after := by
  rw [Traced.result_andThen]
  exact refusalOf?_bind given

theorem Traced.refusalOf?_andThen_done (x : Traced α) (f : α → β) :
    refusalOf? (x.andThen fun a => done (f a)).result = refusalOf? x.result := by
  have silent : ∀ a, x.result = .ok a → refusalOf? (done (f a)).result = none := fun _ _ => rfl
  rw [Traced.refusalOf?_andThen silent, Option.or_none]

/-- Work on a list is refused for the first reason that one of its items gives. -/
theorem Traced.refusalOf?_each {f : α → Traced β} {reasons : α → List Refusal} {as : List α}
    (given : ∀ a ∈ as, refusalOf? (f a).result = (reasons a).head?) :
    refusalOf? (Traced.each f as).result = (as.flatMap reasons).head? := by
  induction as with
  | nil => rfl
  | cons a rest ih =>
    have first := given a List.mem_cons_self
    have others := ih fun b later => given b (List.mem_cons_of_mem a later)
    rw [Traced.each, List.flatMap_cons, List.head?_append, ← first, ← others]
    exact Traced.refusalOf?_andThen fun b _ => Traced.refusalOf?_andThen_done _ _

theorem map_eq_of_forall₂ {γ : Type} {R : α → β → Prop} {f : α → γ} {g : β → γ} {as : List α}
    {bs : List β} (related : List.Forall₂ R as bs) (same : ∀ a b, R a b → g b = f a) :
    bs.map g = as.map f := by
  induction related with
  | nil => rfl
  | cons first rest ih => rw [List.map_cons, List.map_cons, same _ _ first, ih]

theorem flatMap_eq_of_forall₂ {γ : Type} {R : α → β → Prop} {f : α → List γ} {g : β → List γ}
    {as : List α} {bs : List β} (related : List.Forall₂ R as bs)
    (same : ∀ a b, R a b → g b = f a) : bs.flatMap g = as.flatMap f := by
  rw [List.flatMap_def, List.flatMap_def, map_eq_of_forall₂ related same]

end Results

/-- What is wrong with integers of which it is known whether they can be written. -/
def lengthRefusals (written : Bool) : List Refusal := if written then [] else [.unwritable]

/-- What is wrong with the verbs of a method: that there are none. -/
def verbRefusals (c : Controller) (m : Method) : List Refusal :=
  if m.verbs = [] then [.missingVerb c.name m.name] else []

namespace Scope

/--
What is wrong with a parameter under a verb: that its type does not resolve under the constraints
of its placeholder, or that it is a list of objects in the query.
-/
def parameterRefusals (s : Scope) (c : Controller) (m : Method) (verb : Verb) (p : Parameter) :
    List Refusal :=
  let (location, constraints) :=
    placeOf (prefixSegmentsFor c (routeOf m)) (Route.segments (routeOf m)) verb p
  match s.resolve? p.type (some p) constraints with
  | none => [.unsupportedType p.type.fullName (some p.name) .unresolved]
  | some ⟨t, _⟩ =>
    if location = .query ∧ t.isCollection = true ∧ t.isPrimitive = false ∧ t.isEnum = false then
      [.unsupportedType p.type.fullName (some p.name) .collectionInQuery]
    else []

/-- What is wrong with the parameters of a method, under one verb after the other. -/
def signatureRefusals (s : Scope) (c : Controller) (m : Method) : List Refusal :=
  m.verbs.flatMap fun verb => m.parameters.flatMap (s.parameterRefusals c m verb)

/-- What keeps a method from being bound. -/
def methodObstacles (s : Scope) (c : Controller) (m : Method) : List Refusal :=
  lengthRefusals m.areVerbsWritable ++ verbRefusals c m
    ++ lengthRefusals (isTagWritable m.attributes routeTag) ++ s.signatureRefusals c m

/-- What keeps a controller from being bound. -/
def controllerObstacles (s : Scope) (d : TypeDescriptor) : List Refusal :=
  lengthRefusals (isTagWritable d.attributes routePrefixTag)
    ++ (d.methods.filter Method.isAction).flatMap (s.methodObstacles (controllerOf d))

variable {s : Scope}

theorem refusalOf?_bindParameter (c : Controller) (m : Method) (verb : Verb) (p : Parameter) :
    refusalOf? (s.bindParameter (prefixSegmentsFor c (routeOf m)) (Route.segments (routeOf m))
      verb p).result = (s.parameterRefusals c m verb p).head? := by
  unfold bindParameter parameterRefusals resolve
  cases placeOf (prefixSegmentsFor c (routeOf m)) (Route.segments (routeOf m)) verb p with
  | mk location constraints =>
    dsimp only
    cases s.resolve? p.type (some p) constraints with
    | none => rfl
    | some resolution =>
      dsimp only
      have misplaced : isMisplaced location resolution.resolved = true
          ↔ location = .query ∧ resolution.resolved.isCollection = true
            ∧ resolution.resolved.isPrimitive = false ∧ resolution.resolved.isEnum = false := by
        simp [isMisplaced, ResolvedType.isScalar, and_assoc]
      by_cases wrong : isMisplaced location resolution.resolved = true
      · rw [if_pos wrong, if_pos (misplaced.mp wrong)]
        rfl
      · rw [if_neg wrong, if_neg (mt misplaced.mpr wrong)]
        rfl

theorem refusalOf?_bindEntry (c : Controller) (m : Method) (verb : Verb) (name : String) :
    refusalOf? (s.bindEntry c m verb name).result
      = (m.parameters.flatMap (s.parameterRefusals c m verb)).head? := by
  rw [← Traced.refusalOf?_each fun p _ => refusalOf?_bindParameter (s := s) c m verb p,
    bindEntry]
  exact Traced.refusalOf?_andThen_done _ _

end Scope

theorem length_freshNames (used wanted : List String) :
    (freshNames used wanted).length = wanted.length := by
  induction wanted generalizing used with
  | nil => rfl
  | cons name rest ih => simp [freshNames, ih]

theorem length_wantedNames (m : Method) (verbs : List Verb) :
    (wantedNames m verbs).length = verbs.length := by
  unfold wantedNames
  split <;> simp

/-- Each verb of a method gets a name, and none is left over. -/
theorem map_fst_zip_freshNames (used : List String) (m : Method) (verbs : List Verb) :
    (verbs.zip (freshNames used (wantedNames m verbs))).map Prod.fst = verbs :=
  List.map_fst_zip (by simp [length_freshNames, length_wantedNames])

namespace Scope

variable {s : Scope}

/-- The names of the entries of a method do not matter for what is wrong with it. -/
theorem refusalOf?_bindEntries (c : Controller) (used : List String) (m : Method) :
    refusalOf? (Traced.each (fun (verb, name) => s.bindEntry c m verb name)
        (m.verbs.zip (freshNames used (wantedNames m m.verbs)))).result
      = (s.signatureRefusals c m).head? := by
  have named := map_fst_zip_freshNames used m m.verbs
  have split : s.signatureRefusals c m
      = (m.verbs.zip (freshNames used (wantedNames m m.verbs))).flatMap fun verbName =>
        m.parameters.flatMap (s.parameterRefusals c m verbName.1) := by
    conv_lhs => rw [signatureRefusals, ← named, List.flatMap_map]
  rw [split]
  exact Traced.refusalOf?_each fun verbName _ => refusalOf?_bindEntry c m verbName.1 verbName.2

theorem refusalOf?_bindAction (c : Controller) (used : List String) (m : Method) :
    refusalOf? (s.bindAction c used m).result = (s.methodObstacles c m).head? := by
  unfold bindAction methodObstacles verbRefusals
  cases m.areVerbsWritable with
  | false => rfl
  | true =>
    have bound := refusalOf?_bindEntries (s := s) c used m
    cases verbs : m.verbs with
    | nil => rfl
    | cons verb rest =>
      cases isTagWritable m.attributes routeTag with
      | false => rfl
      | true =>
        rw [verbs] at bound
        exact (Traced.refusalOf?_andThen_done _ _).trans bound

theorem refusalOf?_bindActions (c : Controller) (used : List String) (methods : List Method) :
    refusalOf? (s.bindActions c used methods).result
      = (methods.flatMap (s.methodObstacles c)).head? := by
  induction methods generalizing used with
  | nil => rfl
  | cons m rest ih =>
    -- the names in use grow from method to method, and no refusal depends on them
    rw [bindActions, List.flatMap_cons, List.head?_append, ← refusalOf?_bindAction c used m]
    refine Traced.refusalOf?_andThen fun action _ => ?_
    exact (Traced.refusalOf?_andThen_done _ _).trans (ih _)

theorem refusalOf?_bindController (d : TypeDescriptor) :
    refusalOf? (s.bindController d).result = (s.controllerObstacles d).head? := by
  unfold bindController controllerObstacles
  cases isTagWritable d.attributes routePrefixTag with
  | false => rfl
  | true =>
    have bound := refusalOf?_bindActions (s := s) (controllerOf d) []
      (d.methods.filter Method.isAction)
    exact (Traced.refusalOf?_andThen_done _ _).trans bound

end Scope

end ApiClient
