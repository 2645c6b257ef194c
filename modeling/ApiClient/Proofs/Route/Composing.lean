import ApiClient.Proofs.Binding.Address
import ApiClient.Proofs.Text.Trim

/-!
Addresses joined step by step.

An address is its parts behind one slash each, so an address among other texts counts for the
parts that it was joined of (`addressOf_nested`). Main statement: joining a base, a prefix and a
route in either order is joining all three at once, and so the address of each entry is that of
its prefix and its route.
-/

set_option autoImplicit false

namespace ApiClient.Route

open Text

/-- The texts without the slashes at their ends, those left out of which nothing remains. -/
def partsOf (texts : List String) : List (List Char) :=
  (texts.map fun text => dropSlashes text.toList).filter (!·.isEmpty)

/-- The address of texts that are joined at once. -/
def addressOf (texts : List String) : String := String.ofList ('/' :: joinParts (partsOf texts))

/-- A part of an address: some text, with no slash at either end. -/
structure IsSolid (part : List Char) : Prop where
  some : part ≠ []
  trimmed : IsTrimmed (· == '/') part

theorem isSolid_of_mem_partsOf {texts : List String} {part : List Char}
    (member : part ∈ partsOf texts) : IsSolid part := by
  obtain ⟨among, kept⟩ := List.mem_filter.mp member
  obtain ⟨text, -, rfl⟩ := List.mem_map.mp among
  exact ⟨by simpa using kept, isTrimmed_trimWhile _ _⟩

theorem partsOf_append (texts texts' : List String) :
    partsOf (texts ++ texts') = partsOf texts ++ partsOf texts' := by
  rw [partsOf, List.map_append, List.filter_append]
  rfl

/-- Parts joined behind a slash are the parts behind a slash each. -/
theorem slash_joinParts {parts : List (List Char)} (some : parts ≠ []) :
    '/' :: joinParts parts = parts.flatMap ('/' :: ·) := by
  induction parts with
  | nil => exact absurd rfl some
  | cons part rest ih =>
    cases rest with
    | nil => simp [joinParts]
    | cons next rest =>
      have joined := ih (List.cons_ne_nil next rest)
      rw [List.flatMap_cons, ← joined]
      rfl

/-- Parts that are joined first are parts of the whole like the others. -/
theorem joinParts_nested (front : List (List Char)) {inner : List (List Char)}
    (some : inner ≠ []) (back : List (List Char)) :
    joinParts (front ++ joinParts inner :: back) = joinParts (front ++ inner ++ back) := by
  have behindSlash : '/' :: joinParts (front ++ joinParts inner :: back)
      = '/' :: joinParts (front ++ inner ++ back) :=
    calc '/' :: joinParts (front ++ joinParts inner :: back)
      _ = front.flatMap ('/' :: ·) ++ '/' :: joinParts inner ++ back.flatMap ('/' :: ·) := by
        rw [slash_joinParts (by simp), List.flatMap_append, List.flatMap_cons]
        simp
      _ = (front ++ inner ++ back).flatMap ('/' :: ·) := by
        rw [slash_joinParts some, List.flatMap_append, List.flatMap_append]
      _ = '/' :: joinParts (front ++ inner ++ back) := (slash_joinParts (by simp [some])).symm
  exact (List.cons.inj behindSlash).2

theorem isSolid_joinParts {parts : List (List Char)} (solid : ∀ part ∈ parts, IsSolid part)
    (some : parts ≠ []) : IsSolid (joinParts parts) := by
  induction parts with
  | nil => exact absurd rfl some
  | cons part rest ih =>
    have first := solid part List.mem_cons_self
    cases rest with
    | nil => exact first
    | cons next rest =>
      have others := ih (fun p member => solid p (List.mem_cons_of_mem part member))
        (List.cons_ne_nil next rest)
      have joined : joinParts (part :: next :: rest) = part ++ '/' :: joinParts (next :: rest) :=
        rfl
      rw [joined]
      refine ⟨by simp, ?_, ?_⟩
      · intro c start
        rw [Option.mem_def, List.head?_append_of_ne_nil _ first.some] at start
        exact first.trimmed.start c start
      · intro c finish
        rw [Option.mem_def, List.getLast?_append_of_ne_nil _ (List.cons_ne_nil _ _),
          List.getLast?_cons_of_ne_nil others.some] at finish
        exact others.trimmed.finish c finish

theorem toList_addressOf (texts : List String) :
    (addressOf texts).toList = '/' :: joinParts (partsOf texts) := String.toList_ofList

/-- As a text among others an address counts for its parts joined, if it has any. -/
theorem partsOf_addressOf (texts : List String) :
    partsOf [addressOf texts]
      = if partsOf texts = [] then [] else [joinParts (partsOf texts)] := by
  have dropped : dropSlashes ('/' :: joinParts (partsOf texts))
      = dropSlashes (joinParts (partsOf texts)) := by
    simp [dropSlashes, trimWhile]
  rw [partsOf, List.map_singleton, toList_addressOf, dropped]
  split
  · next none => simp [none, joinParts]
  · next some =>
    have solid := isSolid_joinParts (fun _ => isSolid_of_mem_partsOf) some
    have kept : dropSlashes (joinParts (partsOf texts)) = joinParts (partsOf texts) :=
      solid.trimmed.trimWhile_eq
    simp [kept, solid.some]

/-- An address among other texts counts for the texts that it was joined of. -/
theorem addressOf_nested (front inner back : List String) :
    addressOf (front ++ addressOf inner :: back) = addressOf (front ++ inner ++ back) := by
  have outer : partsOf (front ++ addressOf inner :: back)
      = partsOf front ++ (partsOf [addressOf inner] ++ partsOf back) := by
    rw [partsOf_append, ← List.singleton_append, partsOf_append]
  have whole : partsOf (front ++ inner ++ back)
      = partsOf front ++ partsOf inner ++ partsOf back := by
    rw [partsOf_append, partsOf_append]
  have same : joinParts (partsOf (front ++ addressOf inner :: back))
      = joinParts (partsOf (front ++ inner ++ back)) := by
    rw [outer, whole, partsOf_addressOf]
    by_cases none : partsOf inner = []
    · simp [none]
    · rw [if_neg none, List.singleton_append, joinParts_nested (partsOf front) none]
  exact congrArg (fun cs => String.ofList ('/' :: cs)) same

theorem startsWith_addressOf (texts : List String) : startsWith "/" (addressOf texts) = true := by
  simp [startsWith, toList_addressOf]

theorem isRooted_addressOf (texts : List String) : isRooted (addressOf texts) = false := by
  rw [isRooted, startsWith, toList_addressOf]
  rfl

theorem eq_slash_of_endsWith {texts : List String} (ends : endsWith "/" (addressOf texts) = true) :
    addressOf texts = "/" := by
  have last : (addressOf texts).toList.getLast? = some '/' := by
    obtain ⟨front, whole⟩ := List.isSuffixOf_iff_suffix.mp ends
    rw [← whole]
    simp
  by_cases none : partsOf texts = []
  · rw [addressOf, none]
    rfl
  · have solid := isSolid_joinParts (fun _ => isSolid_of_mem_partsOf) none
    rw [toList_addressOf, List.getLast?_cons_of_ne_nil solid.some] at last
    have noSlash := solid.trimmed.finish '/' last
    exact absurd noSlash (by decide)

/-! ## Joining two texts -/

theorem join_of_relative {base route : String} (relative : isRooted route = false) :
    join base route = addressOf [base, route] := by
  simp [join, relative, addressOf, partsOf]

theorem join_of_isRooted {base route : String} (rooted : isRooted route = true) :
    join base route = addressOf [String.ofList (route.toList.drop 2)] := by
  rw [join, if_pos rooted, addressOf, partsOf, List.map_singleton, String.toList_ofList]
  by_cases none : dropSlashes (route.toList.drop 2) = []
  · simp [none, joinParts]
  · simp [none]

theorem exists_join_eq (base route : String) : ∃ texts, join base route = addressOf texts := by
  by_cases rooted : isRooted route = true
  · exact ⟨_, join_of_isRooted rooted⟩
  · exact ⟨_, join_of_relative (by simpa using rooted)⟩

theorem join_empty_join (base route : String) : join "" (join base route) = join base route := by
  obtain ⟨texts, joined⟩ := exists_join_eq base route
  have blank : partsOf [""] = [] := by decide
  rw [joined, join_of_relative (isRooted_addressOf texts)]
  calc addressOf ["", addressOf texts]
    _ = addressOf ([""] ++ texts ++ []) := addressOf_nested [""] texts []
    _ = addressOf texts := by
      rw [List.append_nil, addressOf, partsOf_append, blank, List.nil_append]
      rfl

theorem join_join_left {b c : String} (a : String) (relative : isRooted b = false)
    (relative' : isRooted c = false) : join (join a b) c = addressOf [a, b, c] := by
  rw [join_of_relative relative', join_of_relative relative]
  exact addressOf_nested [] [a, b] [c]

theorem join_join_right {b c : String} (a : String) (relative : isRooted c = false) :
    join a (join b c) = addressOf [a, b, c] := by
  rw [join_of_relative relative, join_of_relative (isRooted_addressOf [b, c])]
  exact addressOf_nested [a] [b, c] []

/-- An address with a route is the prefix with it, when the prefix does not stand alone. -/
theorem join_join_empty {address : String} (relative : isRooted address = false)
    (route : String) : join (join "" address) route = join address route := by
  by_cases rooted : isRooted route = true
  · rw [join_of_isRooted rooted, join_of_isRooted rooted]
  · have relative' : isRooted route = false := by simpa using rooted
    rw [join_join_left "" relative relative', ← join_join_right "" relative', join_empty_join]

end ApiClient.Route

namespace ApiClient.Controller

open Route Scope
open Text (startsWith endsWith)

/--
Every address starts with a slash and ends with none but its own, is an address already, and does
not depend on the order in which a base, a prefix and a route are joined; the address of an entry
is that of its prefix and its route.
-/
theorem addresses_compose :
    (∀ base route, startsWith "/" (join base route) = true
        ∧ (endsWith "/" (join base route) = true → join base route = "/"))
      ∧ (∀ base route, join "" (join base route) = join base route)
      ∧ (∀ a b c, isRooted b = false → isRooted c = false →
        join (join a b) c = join a (join b c) ∧ join (join a b) c = addressOf [a, b, c])
      ∧ ∀ s d c, (Scope.bindController s d).result = .ok c → isRooted (prefixOf d) = false →
        ∀ a ∈ c.actions, ∀ e ∈ a.entries,
          e.address = render (join (prefixOf d) a.routeTemplate)
            ∧ (isRooted a.routeTemplate = false →
              e.address = render (addressOf [prefixOf d, a.routeTemplate])) := by
  refine ⟨?_, join_empty_join, ?_, ?_⟩
  · intro base route
    obtain ⟨texts, joined⟩ := exists_join_eq base route
    rw [joined]
    exact ⟨startsWith_addressOf texts, eq_slash_of_endsWith⟩
  · intro a b c relative relative'
    have left := join_join_left a relative relative'
    have right := @join_join_right b c a relative'
    exact ⟨left.trans right.symm, left⟩
  · intro s d c ok relative a action e entry
    obtain ⟨m, verb, name, -, route, bound⟩ := exists_bindEntry ok action entry
    have base := baseEndpoint_of_bindController ok
    have address : e.address = render (join (prefixOf d) a.routeTemplate) := by
      obtain ⟨parts, -, rfl, -⟩ := bindEntry_ok bound
      rw [← join_join_empty relative, route]
      rfl
    refine ⟨address, ?_⟩
    intro relative'
    rw [address, join_of_relative relative']

theorem addresses_compose_nodes :
    endsWith "/" (join "/" "//") = true ∧ join "/" "//" = "/"
      ∧ isRooted "//rooms/" = false ∧ isRooted "beds//all/" = false
      ∧ join (join "api/" "//rooms/") "beds//all/" = join "api/" (join "//rooms/" "beds//all/")
      ∧ join (join "api/" "//rooms/") "beds//all/" = "/api/rooms/beds//all"
      ∧ isRooted (prefixOf (Sample.nodes "nodes")) = false
      ∧ ∃ c a e, ((Sample.nodesScope "nodes").bindController (Sample.nodes "nodes")).result = .ok c
        ∧ a ∈ c.actions ∧ e ∈ a.entries ∧ isRooted a.routeTemplate = false
        ∧ e.address = render (addressOf ["nodes", a.routeTemplate])
        ∧ e.address = "/nodes/$\x7bthis.id\x7d" := by
  obtain ⟨slashes, -, order, entries⟩ := addresses_compose
  have ends : endsWith "/" (join "/" "//") = true := by decide +kernel
  have rooms : isRooted "//rooms/" = false := by decide +kernel
  have beds : isRooted "beds//all/" = false := by decide +kernel
  obtain ⟨either, once⟩ := order "api/" "//rooms/" "beds//all/" rooms beds
  have whole : addressOf ["api/", "//rooms/", "beds//all/"] = "/api/rooms/beds//all" := by
    decide +kernel
  have nodes : prefixOf (Sample.nodes "nodes") = "nodes" := Sample.prefixOf_nodes
  have relative : isRooted (prefixOf (Sample.nodes "nodes")) = false := by
    rw [nodes]
    decide +kernel
  have plain : Route.segments "nodes" = [] := by cbv
  obtain ⟨c, a, e, bound, action, route, entry, -, -⟩ := Sample.exists_bindController_nodes plain
  have relative' : isRooted a.routeTemplate = false := by
    rw [route]
    decide +kernel
  obtain ⟨-, address⟩ := entries _ _ c bound relative a action e entry
  have joined := address relative'
  rw [nodes] at joined
  have text : render (addressOf ["nodes", "\x7bid\x7d"]) = "/nodes/$\x7bthis.id\x7d" := by
    decide +kernel
  refine ⟨ends, (slashes "/" "//").2 ends, rooms, beds, either, once.trans whole, relative,
    c, a, e, bound, action, entry, relative', joined, ?_⟩
  rw [joined, route, text]

end ApiClient.Controller
