import ApiClient.Proofs.Binding.Names
import ApiClient.Proofs.Generation

/-!
How the names of entries are chosen, and that later methods do not change them.

An entry is named as its method, with the verb where there are several, unless an earlier entry of
the controller has that name. Then it gets a number, the least one from two on that makes a free
name; looking for it number by number comes to an end.
-/

set_option autoImplicit false

namespace ApiClient

/-- Trying candidates: one that is taken is followed by the wanted name with the next number. -/
inductive Searches (taken : String → Prop) (wanted : String) : String → Nat → String → Prop
  | found {candidate : String} {number : Nat} (free : ¬ taken candidate) :
      Searches taken wanted candidate number candidate
  | next {candidate name : String} {number : Nat} (held : taken candidate)
      (later : Searches taken wanted (wanted ++ toString number) (number + 1) name) :
      Searches taken wanted candidate number name

/-- The wanted name where it is free, else the one with the least number from two on. -/
inductive IsFresh (taken : String → Prop) (wanted : String) : String → Prop
  | alone (free : ¬ taken wanted) : IsFresh taken wanted wanted
  | numbered (k : Nat) (held : taken wanted) (counted : 2 ≤ k)
      (free : ¬ taken (wanted ++ toString k))
      (least : ∀ j, 2 ≤ j → j < k → taken (wanted ++ toString j)) :
      IsFresh taken wanted (wanted ++ toString k)

section Search

variable {taken taken' : String → Prop} {wanted name : String}

theorem IsFresh.congr (fresh : IsFresh taken wanted name)
    (same : ∀ other, taken other ↔ taken' other) : IsFresh taken' wanted name := by
  have equal : taken = taken' := funext fun other => propext (same other)
  rwa [← equal]

/-- There is one fresh name: a number below the least free one is taken. -/
theorem IsFresh.unique {name' : String} (fresh : IsFresh taken wanted name)
    (fresh' : IsFresh taken wanted name') : name = name' := by
  cases fresh with
  | alone free =>
    cases fresh' with
    | alone _ => rfl
    | numbered _ held _ _ _ => exact absurd held free
  | numbered k held counted free least =>
    cases fresh' with
    | alone free' => exact absurd held free'
    | numbered k' _ counted' free' least' =>
      rcases lt_trichotomy k k' with less | rfl | more
      · exact absurd (least' k counted less) free
      · rfl
      · exact absurd (least k' counted' more) free'

/-- A search that has come to a number goes on to the least one that makes a free name. -/
theorem searches_of_least {n k : Nat} (reached : n ≤ k) (free : ¬ taken (wanted ++ toString k))
    (least : ∀ j, n ≤ j → j < k → taken (wanted ++ toString j)) :
    Searches taken wanted (wanted ++ toString n) (n + 1) (wanted ++ toString k) := by
  -- downwards from the least number: a search that starts later is the rest of this one
  induction reached using Nat.decreasingInduction with
  | self => exact .found free
  | of_succ n below ih =>
    have held : taken (wanted ++ toString n) := least n le_rfl below
    exact .next held (ih fun j atLeast less => least j (by omega) less)

theorem exists_least_of_searches {candidate : String} {n : Nat}
    (searches : Searches taken wanted candidate n name) (held : taken candidate) :
    ∃ k, n ≤ k ∧ name = wanted ++ toString k ∧ ¬ taken name
      ∧ ∀ j, n ≤ j → j < k → taken (wanted ++ toString j) := by
  induction searches with
  | found free => exact absurd held free
  | @next candidate name n _ later ih =>
    by_cases again : taken (wanted ++ toString n)
    · obtain ⟨k, above, named, free, least⟩ := ih again
      refine ⟨k, by omega, named, free, fun j atLeast less => ?_⟩
      by_cases first : j = n
      · rwa [first]
      · exact least j (by omega) less
    · cases later with
      | found free => exact ⟨n, le_rfl, rfl, free, fun j atLeast less => by omega⟩
      | next held' => exact absurd held' again

/-- A search from the wanted name and the number two finds the fresh name and no other one. -/
theorem searches_iff_isFresh : Searches taken wanted wanted 2 name ↔ IsFresh taken wanted name := by
  constructor
  · intro searches
    by_cases held : taken wanted
    · obtain ⟨k, counted, rfl, free, least⟩ := exists_least_of_searches searches held
      exact .numbered k held counted free least
    · cases searches with
      | found free => exact .alone free
      | next held' => exact absurd held' held
  · intro fresh
    cases fresh with
    | alone free => exact .found free
    | numbered k held counted free least =>
      exact .next held (searches_of_least counted free least)

theorem isFresh_freshName (used : List String) (wanted : String) :
    IsFresh (· ∈ used) wanted (freshName used wanted) := by
  unfold freshName
  split
  · next held =>
    obtain ⟨k, found⟩ := Option.isSome_iff_exists.mp (freeNumber?_isSome used wanted)
    rw [found]
    unfold freeNumber? at found
    rw [List.find?_map, Option.map_eq_some_iff] at found
    obtain ⟨n, first, rfl⟩ := found
    obtain ⟨free, -, taken⟩ := List.find?_range_eq_some.mp first
    refine .numbered (n + 2) (by simpa using held) (by omega) (by simpa using free) ?_
    intro j counted less
    have earlier := taken (j - 2) (by omega)
    rw [Function.comp_apply, Nat.sub_add_cancel counted] at earlier
    simpa using earlier
  · next free => exact .alone (by simpa using free)

/-- The search for a name ends, whatever names are in use, with the name that is chosen. -/
theorem searches_iff_eq_freshName {used : List String} {wanted name : String} :
    Searches (· ∈ used) wanted wanted 2 name ↔ name = freshName used wanted := by
  rw [searches_iff_isFresh]
  constructor
  · intro fresh
    exact fresh.unique (isFresh_freshName used wanted)
  · rintro rfl
    exact isFresh_freshName used wanted

end Search

/-- Of names chosen one after the other, each is fresh among those in use and those before it. -/
theorem isFresh_of_freshNames {α : Type} {wanted name : α → String} {used : List String}
    {before after : List α} {a : α}
    (named : freshNames used ((before ++ a :: after).map wanted)
      = (before ++ a :: after).map name) :
    IsFresh (fun other => other ∈ used ∨ other ∈ before.map name) (wanted a) (name a) := by
  induction before generalizing used with
  | nil =>
    simp only [List.nil_append, List.map_cons, freshNames, List.cons.injEq] at named
    rw [← named.1]
    exact (isFresh_freshName used (wanted a)).congr fun other => by simp
  | cons b rest ih =>
    simp only [List.cons_append, List.map_cons, freshNames, List.cons.injEq] at named
    obtain ⟨own, others⟩ := named
    refine (ih others).congr fun other => ?_
    rw [own, List.mem_cons, List.map_cons, List.mem_cons]
    tauto

/-- The name wanted for an entry of an action: that of its method, with the verb if not alone. -/
def Action.wantedName (a : Action) (e : Entry) : String :=
  if a.verbs.length = 1 then a.method.name else a.method.name ++ e.verb.display

theorem wantedNames_eq_map {a : Action} (verbs : a.entries.map Entry.verb = a.verbs) :
    wantedNames a.method a.verbs = a.entries.map a.wantedName := by
  unfold wantedNames Action.wantedName
  rw [← verbs]
  cases entries : a.entries with
  | nil => rfl
  | cons e rest =>
    cases rest with
    | nil => simp
    | cons e' rest => simp

namespace Scope

variable {s : Scope} {c : Controller}

theorem map_verb_bindAction {used : List String} {m : Method} {a : Action}
    (ok : (s.bindAction c used m).result = .ok a) : a.entries.map Entry.verb = m.verbs := by
  obtain ⟨-, -, -, -, entries, -⟩ := bindAction_ok ok
  have sent := map_eq_of_forall₂ (f := Prod.fst) (g := Entry.verb) entries (by
    rintro ⟨verb, name⟩ e bound
    obtain ⟨parts, -, rfl, -⟩ := bindEntry_ok bound
    rfl)
  rw [sent, map_fst_zip_freshNames]

theorem isFresh_of_bindAction {used : List String} {m : Method} {a : Action}
    (ok : (s.bindAction c used m).result = .ok a) {before after : List Entry} {e : Entry}
    (split : a.entries = before ++ e :: after) :
    IsFresh (fun other => other ∈ used ∨ other ∈ before.map Entry.name) (a.wantedName e)
      e.name := by
  obtain ⟨-, method, verbs, -⟩ := bindAction_ok ok
  have named := map_name_bindAction ok
  have sent := map_verb_bindAction ok
  rw [← verbs] at named sent
  rw [← method, wantedNames_eq_map sent, split] at named
  exact isFresh_of_freshNames named.symm

/-- Actions are bound one for each method, each with the names of those before it in use. -/
theorem bindActions_ok_cons {used : List String} {m : Method} {rest : List Method}
    {actions : List Action} (ok : (s.bindActions c used (m :: rest)).result = .ok actions) :
    ∃ a others, actions = a :: others ∧ (s.bindAction c used m).result = .ok a
      ∧ (s.bindActions c (a.entries.map Entry.name ++ used) rest).result = .ok others := by
  obtain ⟨a, first, after, -⟩ := Traced.andThen_ok ok
  obtain ⟨others, tail, last, -⟩ := Traced.andThen_ok after
  exact ⟨a, others, by simpa [Traced.done] using last.symm, first, tail⟩

theorem map_method_bindActions {used : List String} {methods : List Method}
    {actions : List Action} (ok : (s.bindActions c used methods).result = .ok actions) :
    actions.map Action.method = methods := by
  induction methods generalizing used actions with
  | nil =>
    obtain rfl : [] = actions := by simpa [bindActions, Traced.done] using ok
    rfl
  | cons m rest ih =>
    obtain ⟨a, others, rfl, first, tail⟩ := bindActions_ok_cons ok
    obtain ⟨-, method, -⟩ := bindAction_ok first
    rw [List.map_cons, method, ih tail]

theorem isFresh_of_bindActions {used : List String} {methods : List Method}
    {earlier later : List Action} {a : Action}
    (ok : (s.bindActions c used methods).result = .ok (earlier ++ a :: later))
    {before after : List Entry} {e : Entry} (split : a.entries = before ++ e :: after) :
    IsFresh
      (fun other => other ∈ used
        ∨ other ∈ (earlier.flatMap Action.entries ++ before).map Entry.name)
      (a.wantedName e) e.name := by
  induction methods generalizing used earlier with
  | nil => simp [bindActions, Traced.done] at ok
  | cons m rest ih =>
    obtain ⟨first, others, shape, bound, tail⟩ := bindActions_ok_cons ok
    cases earlier with
    | nil =>
      obtain ⟨rfl, rfl⟩ := List.cons.inj shape
      simpa using isFresh_of_bindAction bound split
    | cons b earlier =>
      obtain ⟨rfl, rfl⟩ := List.cons.inj shape
      refine (ih tail).congr fun other => ?_
      simp only [List.flatMap_cons, List.append_assoc, List.map_append, List.mem_append]
      tauto

/-- Methods that follow do not change the actions of those before them. -/
theorem bindActions_append {used : List String} {methods extra : List Method}
    {actions all : List Action} (ok : (s.bindActions c used methods).result = .ok actions)
    (more : (s.bindActions c used (methods ++ extra)).result = .ok all) :
    ∃ later, all = actions ++ later := by
  induction methods generalizing used actions all with
  | nil =>
    obtain rfl : [] = actions := by simpa [bindActions, Traced.done] using ok
    exact ⟨all, rfl⟩
  | cons m rest ih =>
    obtain ⟨a, others, rfl, bound, tail⟩ := bindActions_ok_cons ok
    obtain ⟨a', others', rfl, bound', tail'⟩ := bindActions_ok_cons more
    obtain rfl : a = a' := Except.ok.inj (bound.symm.trans bound')
    obtain ⟨later, rfl⟩ := ih tail tail'
    exact ⟨later, rfl⟩

end Scope

/-- How the entries of a controller are named, each among those before it. -/
structure Controller.NamesEntries (c : Controller) : Prop where
  verbs : ∀ a ∈ c.actions, a.verbs = a.method.verbs ∧ a.entries.map Entry.verb = a.verbs
  distinct : (c.entries.map Entry.name).Nodup
  fresh : ∀ earlier a later before e after, c.actions = earlier ++ a :: later →
    a.entries = before ++ e :: after →
    IsFresh (· ∈ (earlier.flatMap Action.entries ++ before).map Entry.name) (a.wantedName e) e.name

namespace Scope

variable {s : Scope}

theorem namesEntries_bindController {d : TypeDescriptor} {c : Controller}
    (ok : (s.bindController d).result = .ok c) : c.NamesEntries := by
  have distinct := nodup_names_entries ok
  obtain ⟨actions, rfl, bound, -⟩ := bindController_ok ok
  constructor
  case verbs =>
    intro a action
    obtain ⟨m, -, used, own⟩ := (bindActions_ok bound).1 a action
    obtain ⟨-, rfl, verbs, -⟩ := bindAction_ok own
    exact ⟨verbs, by rw [map_verb_bindAction own, verbs]⟩
  case distinct => exact distinct
  case fresh =>
    rintro earlier a later before e after rfl split
    exact (isFresh_of_bindActions bound split).congr fun other => by simp

/--
The entries of a bound controller: one for each verb of each action, with different names, each
the wanted one or numbered. A search for a name ends, and methods that follow change no name.
-/
theorem bindController_entries {d : TypeDescriptor} {c : Controller}
    (ok : (s.bindController d).result = .ok c) :
    c.actions.map Action.method = d.methods.filter Method.isAction
      ∧ c.NamesEntries
      ∧ (∀ (used : List String) wanted name,
        Searches (· ∈ used) wanted wanted 2 name ↔ name = freshName used wanted)
      ∧ ∀ extra c',
        (s.bindController { d with methods := d.methods ++ extra }).result = .ok c' →
        c.actions <+: c'.actions ∧ c.entries <+: c'.entries := by
  have named := namesEntries_bindController ok
  obtain ⟨actions, rfl, bound, -⟩ := bindController_ok ok
  refine ⟨map_method_bindActions bound, named, fun _ _ _ => searches_iff_eq_freshName, ?_⟩
  intro extra c' more
  obtain ⟨all, rfl, boundAll, -⟩ := bindController_ok more
  rw [List.filter_append] at boundAll
  obtain ⟨later, rfl⟩ := bindActions_append bound boundAll
  exact ⟨⟨later, rfl⟩, ⟨later.flatMap Action.entries, List.flatMap_append.symm⟩⟩

end Scope

/-! A controller with names that meet names with a verb and with a number. -/

namespace Sample

def sent (name : String) (tags : List String) : Method :=
  ⟨name, true, false, false, false, [], tags.map fun tag => ⟨tag, []⟩⟩

def finder : TypeDescriptor :=
  { classOf "Acme.FindController" (some (.plain TypeStore.apiController)) [] with
    methods := [sent "Find2" ["HttpGet"], sent "Find" ["HttpGet"], sent "Find" ["HttpPost"],
      sent "Find" ["HttpGet", "HttpPost"], sent "FindGet" ["HttpGet"]] }

theorem bindController_entries_finder :
    ∃ c, (mirrored.bindController finder).result = .ok c
      ∧ c.entries.map Entry.name = ["Find2", "Find", "Find3", "FindGet", "FindPost", "FindGet2"]
      ∧ c.actions.map Action.method = finder.methods ∧ c.NamesEntries := by
  have computed : (mirrored.bindController finder).result.toOption.map
      (fun c => c.entries.map Entry.name)
      = some ["Find2", "Find", "Find3", "FindGet", "FindPost", "FindGet2"] := by decide +kernel
  obtain ⟨c, ok, names⟩ := exists_ok_of_map_toOption computed
  obtain ⟨methods, named, -⟩ := Scope.bindController_entries ok
  have all : finder.methods.filter Method.isAction = finder.methods := by cbv
  exact ⟨c, ok, names, methods.trans all, named⟩

end Sample

end ApiClient
