import ApiClient.Generation
import ApiClient.Proofs.Binding.Refusals

/-!
Binding in two scopes at once.

Binding looks at a scope only where it binds a parameter. Where two scopes bind the parameters of
methods alike, they bind entries, actions and controllers alike: each to the same name, verb and
address, with parts that are related one by one, or with the same refusal.
-/

set_option autoImplicit false

namespace ApiClient

section Results

variable {α β γ δ : Type}

/-- Two results that are both given and related, or refused for one reason. -/
inductive AlikeResults (R : α → β → Prop) : Except Refusal α → Except Refusal β → Prop
  | ok {a : α} {b : β} (related : R a b) : AlikeResults R (.ok a) (.ok b)
  | refused (r : Refusal) : AlikeResults R (.error r) (.error r)

theorem AlikeResults.refl {x : Except Refusal α} : AlikeResults Eq x x := by
  cases x with
  | ok a => exact .ok rfl
  | error r => exact .refused r

theorem AlikeResults.eq {R : α → α → Prop} {x y : Except Refusal α} (alike : AlikeResults R x y)
    (same : ∀ a b, R a b → a = b) : x = y := by
  cases alike with
  | ok related => rw [same _ _ related]
  | refused r => rfl

/-- A relation of requests that goes on while they are collected. -/
structure Collects (Q : List Request → List Request → Prop) : Prop where
  nil : Q [] []
  append : ∀ {qs rs qs' rs' : List Request}, Q qs rs → Q qs' rs' → Q (qs ++ qs') (rs ++ rs')

namespace Traced

variable {Q : List Request → List Request → Prop} {R : α → β → Prop} {S : γ → δ → Prop}

structure Alike (Q : List Request → List Request → Prop) (R : α → β → Prop) (x : Traced α)
    (y : Traced β) : Prop where
  requests : Q x.requests y.requests
  result : AlikeResults R x.result y.result

theorem Alike.done (collects : Collects Q) {a : α} {b : β} (related : R a b) :
    Alike Q R (.done a) (.done b) := ⟨collects.nil, .ok related⟩

theorem Alike.refuse (collects : Collects Q) (r : Refusal) :
    Alike Q R (.refuse r) (.refuse r) := ⟨collects.nil, .refused r⟩

theorem Alike.andThen (collects : Collects Q) {x : Traced α} {y : Traced β} {f : α → Traced γ}
    {g : β → Traced δ} (first : Alike Q R x y) (next : ∀ a b, R a b → Alike Q S (f a) (g b)) :
    Alike Q S (x.andThen f) (y.andThen g) := by
  obtain ⟨qs, given⟩ := x
  obtain ⟨rs, given'⟩ := y
  obtain ⟨requests, result⟩ := first
  cases result with
  | ok related =>
    obtain ⟨later, result'⟩ := next _ _ related
    exact ⟨collects.append requests later, result'⟩
  | refused r => exact ⟨requests, .refused r⟩

theorem Alike.each (collects : Collects Q) {f g : γ → Traced α} {R : α → α → Prop} {as : List γ}
    (given : ∀ a ∈ as, Alike Q R (f a) (g a)) :
    Alike Q (List.Forall₂ R) (Traced.each f as) (Traced.each g as) := by
  induction as with
  | nil => exact .done collects .nil
  | cons a rest ih =>
    have others := ih fun b later => given b (List.mem_cons_of_mem a later)
    refine .andThen collects (given a List.mem_cons_self) fun b b' first => ?_
    refine .andThen collects others fun bs bs' later => ?_
    exact .done collects (.cons first later)

end Traced

end Results

section Models

variable (P : Part → Part → Prop)

/-- Entries that differ in their parts only, and there as a relation allows. -/
structure Entry.Alike (e e' : Entry) : Prop where
  parts : List.Forall₂ P e.parts e'.parts
  others : e' = { e with parts := e'.parts }

/-- Actions that differ in the parts of their entries only. -/
structure Action.Alike (a a' : Action) : Prop where
  entries : List.Forall₂ (Entry.Alike P) a.entries a'.entries
  others : a' = { a with entries := a'.entries }

/-- Controllers that differ in the parts of their entries only. -/
structure Controller.Alike (c c' : Controller) : Prop where
  actions : List.Forall₂ (Action.Alike P) c.actions c'.actions
  others : c' = { c with actions := c'.actions }

end Models

namespace Scope

variable {s t : Scope} {Q : List Request → List Request → Prop} {P : Part → Part → Prop}

/-- A parameter is bound alike in two scopes, wherever it is bound. -/
def BindsAlike (Q : List Request → List Request → Prop) (P : Part → Part → Prop) (s t : Scope)
    (p : Parameter) : Prop :=
  ∀ prefixSegments routeSegments verb,
    Traced.Alike Q P (s.bindParameter prefixSegments routeSegments verb p)
      (t.bindParameter prefixSegments routeSegments verb p)

section Methods

variable (collects : Collects Q) (names : ∀ p p', P p p' → p'.name = p.name)
include collects names

theorem alike_bindEntry {m : Method} (given : ∀ p ∈ m.parameters, BindsAlike Q P s t p)
    (c : Controller) (verb : Verb) (name : String) :
    Traced.Alike Q (Entry.Alike P) (s.bindEntry c m verb name) (t.bindEntry c m verb name) := by
  unfold bindEntry
  refine .andThen collects (.each collects fun p member => given p member _ _ _) ?_
  intro parts parts' related
  have sameNames : parts'.map Part.name = parts.map Part.name := map_eq_of_forall₂ related names
  refine .done collects ⟨related, ?_⟩
  simp only [unboundNames, sameNames]

theorem alike_bindEntries {m : Method} (given : ∀ p ∈ m.parameters, BindsAlike Q P s t p)
    (c : Controller) (named : List (Verb × String)) :
    Traced.Alike Q (List.Forall₂ (Entry.Alike P))
      (Traced.each (fun (verb, name) => s.bindEntry c m verb name) named)
      (Traced.each (fun (verb, name) => t.bindEntry c m verb name) named) :=
  .each collects fun verbName _ => alike_bindEntry collects names given c verbName.1 verbName.2

theorem alike_bindAction {m : Method} (given : ∀ p ∈ m.parameters, BindsAlike Q P s t p)
    (c : Controller) (used : List String) :
    Traced.Alike Q (Action.Alike P) (s.bindAction c used m) (t.bindAction c used m) := by
  unfold bindAction
  split
  · exact .refuse collects _
  · exact .refuse collects _
  · exact .refuse collects _
  · have entries := alike_bindEntries collects names given c
      (m.verbs.zip (freshNames used (wantedNames m m.verbs)))
    exact .andThen collects entries fun _ _ related => .done collects ⟨related, rfl⟩

theorem alike_bindActions {methods : List Method}
    (given : ∀ m ∈ methods, ∀ p ∈ m.parameters, BindsAlike Q P s t p) (c : Controller)
    (used : List String) :
    Traced.Alike Q (List.Forall₂ (Action.Alike P)) (s.bindActions c used methods)
      (t.bindActions c used methods) := by
  induction methods generalizing used with
  | nil => exact .done collects .nil
  | cons m rest ih =>
    have first := alike_bindAction collects names (given m List.mem_cons_self) c used
    refine .andThen collects first fun action action' same => ?_
    -- the names in use are the same, so the rest starts alike
    have sameNames : action'.entries.map Entry.name = action.entries.map Entry.name :=
      map_eq_of_forall₂ same.entries fun e e' alike => by rw [alike.others]
    rw [sameNames]
    have others := ih (fun m' later => given m' (List.mem_cons_of_mem m later))
      (action.entries.map Entry.name ++ used)
    exact .andThen collects others fun _ _ later => .done collects (.cons same later)

theorem alike_bindController {d : TypeDescriptor}
    (given : ∀ m ∈ d.methods, ∀ p ∈ m.parameters, BindsAlike Q P s t p) :
    Traced.Alike Q (Controller.Alike P) (s.bindController d) (t.bindController d) := by
  unfold bindController
  split
  · have eligible : ∀ m ∈ d.methods.filter Method.isAction, ∀ p ∈ m.parameters,
        BindsAlike Q P s t p := fun m member => given m (List.mem_of_mem_filter member)
    have actions := alike_bindActions collects names eligible (controllerOf d) []
    exact .andThen collects actions fun _ _ related => .done collects ⟨related, rfl⟩
  · exact .refuse collects _

/-- Scopes that find the same controllers bind them alike when they bind their parameters alike. -/
theorem alike_bindControllers
    (controllers : s.store.controllers TypeStore.apiController
      = t.store.controllers TypeStore.apiController)
    (given : ∀ d ∈ s.store.controllers TypeStore.apiController, ∀ m ∈ d.methods,
      ∀ p ∈ m.parameters, BindsAlike Q P s t p) :
    Traced.Alike Q (List.Forall₂ (Controller.Alike P)) s.bindControllers t.bindControllers := by
  unfold bindControllers
  rw [← controllers]
  exact .each collects fun d member => alike_bindController collects names (given d member)

end Methods

end Scope

theorem Controller.Alike.entries {P : Part → Part → Prop} {c c' : Controller}
    (alike : c.Alike P c') : List.Forall₂ (Entry.Alike P) c.entries c'.entries :=
  List.rel_flatMap alike.actions fun _ _ actions => actions.entries

theorem eq_of_forall₂ {α : Type} {R : α → α → Prop} (same : ∀ a b, R a b → a = b) {as bs : List α}
    (related : List.Forall₂ R as bs) : as = bs := by
  rw [← List.forall₂_eq_eq_eq]
  exact related.imp same

theorem Entry.Alike.eq {e e' : Entry} (alike : e.Alike Eq e') : e = e' := by
  rw [alike.others, ← eq_of_forall₂ (fun _ _ => id) alike.parts]

theorem Action.Alike.eq {a a' : Action} (alike : a.Alike Eq a') : a = a' := by
  rw [alike.others, ← eq_of_forall₂ (fun _ _ => Entry.Alike.eq) alike.entries]

theorem Controller.Alike.eq {c c' : Controller} (alike : c.Alike Eq c') : c = c' := by
  rw [alike.others, ← eq_of_forall₂ (fun _ _ => Action.Alike.eq) alike.actions]

end ApiClient
