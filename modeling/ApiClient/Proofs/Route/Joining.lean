import ApiClient.Proofs.Route.Scan
import ApiClient.Route.Address
import Mathlib.Data.List.TakeWhile

/-!
Placeholders of joined addresses.

Joining a base and a route drops slashes and puts one between them, which touches no placeholder
that is closed. Main statement: the placeholders of the address are those of the base followed by
those of the route exactly when the route is `Sealed` off from the base, and every route is so
exactly when the base leaves no brace open.
-/

set_option autoImplicit false

namespace ApiClient.Route

open Text

@[simp] theorem dropSlashes_nil : dropSlashes [] = [] := rfl

theorem exists_slashes (cs : List Char) :
    ∃ front back, cs = front ++ dropSlashes cs ++ back
      ∧ (∀ c ∈ front, c = '/') ∧ ∀ c ∈ back, c = '/' := by
  let inner := cs.dropWhile (· == '/')
  refine ⟨cs.takeWhile (· == '/'), (inner.reverse.takeWhile (· == '/')).reverse, ?_, ?_, ?_⟩
  · have ends : dropSlashes cs ++ (inner.reverse.takeWhile (· == '/')).reverse = inner := by
      change (inner.reverse.dropWhile (· == '/')).reverse ++ _ = _
      rw [← List.reverse_append, List.takeWhile_append_dropWhile, List.reverse_reverse]
    rw [List.append_assoc, ends, List.takeWhile_append_dropWhile]
  · intro c member
    simpa using List.mem_takeWhile_imp member
  · intro c member
    simpa using List.mem_takeWhile_imp (List.mem_reverse.mp member)

theorem braces_notMem_of_slashes {cs : List Char} (slashes : ∀ c ∈ cs, c = '/') :
    '{' ∉ cs ∧ '}' ∉ cs :=
  ⟨fun member => absurd (slashes _ member) (by decide),
    fun member => absurd (slashes _ member) (by decide)⟩

theorem after_of_notMem {cs : List Char} (free : '{' ∉ cs) (free' : '}' ∉ cs) :
    after (0, []) cs = (0, []) := by
  have depth := after_fst_of_notMem free free' (0, [])
  have resumes := resumes_after cs
  cases reached : after (0, []) cs with
  | mk depth' body =>
    rw [reached] at depth resumes
    obtain rfl : depth' = 0 := depth
    rw [show body = [] from resumes]

theorem found_dropSlashes (cs : List Char) : found (0, []) (dropSlashes cs) = found (0, []) cs := by
  obtain ⟨front, back, cut, frontSlashes, backSlashes⟩ := exists_slashes cs
  obtain ⟨frontFree, frontFree'⟩ := braces_notMem_of_slashes frontSlashes
  obtain ⟨-, backFree⟩ := braces_notMem_of_slashes backSlashes
  have whole : found (0, []) (front ++ dropSlashes cs ++ back)
      = found (0, []) (dropSlashes cs) := by
    rw [found_append, found_append, found_eq_nil_of_notMem frontFree',
      after_of_notMem frontFree frontFree', found_eq_nil_of_notMem backFree, List.append_nil,
      List.nil_append]
  rw [← whole, ← cut]

theorem names_dropSlashes (cs : List Char) : names (dropSlashes cs) = names cs := by
  unfold names
  rw [found_dropSlashes]

theorem isClosed_dropSlashes {cs : List Char} : IsClosed (dropSlashes cs) ↔ IsClosed cs := by
  obtain ⟨front, back, cut, frontSlashes, backSlashes⟩ := exists_slashes cs
  obtain ⟨frontFree, frontFree'⟩ := braces_notMem_of_slashes frontSlashes
  obtain ⟨backFree, backFree'⟩ := braces_notMem_of_slashes backSlashes
  have whole : (after (0, []) (front ++ dropSlashes cs ++ back)).1
      = (after (0, []) (dropSlashes cs)).1 := by
    rw [after_append, after_append, after_of_notMem frontFree frontFree',
      after_fst_of_notMem backFree backFree']
  unfold IsClosed
  rw [← whole, ← cut]

@[simp] theorem names_cons_slash (cs : List Char) : names ('/' :: cs) = names cs := by
  simp [names, found, closes, next]

theorem isClosed_cons_slash {cs : List Char} : IsClosed ('/' :: cs) ↔ IsClosed cs := by
  simp [IsClosed, next]

theorem exists_toList_of_isRooted {route : String} (rooted : isRooted route = true) :
    ∃ cs, route.toList = '~' :: '/' :: cs := by
  obtain ⟨cs, whole⟩ := List.isPrefixOf_iff_prefix.mp rooted
  exact ⟨cs, whole.symm⟩

theorem toList_join_of_isRooted {base route : String} (rooted : isRooted route = true) :
    (join base route).toList = '/' :: dropSlashes (route.toList.drop 2) := by
  simp [join, rooted, joinParts]

theorem toList_join {base route : String} (relative : isRooted route = false) :
    (join base route).toList = '/' :: joinParts
      ([dropSlashes base.toList, dropSlashes route.toList].filter (!·.isEmpty)) := by
  simp [join, relative]

theorem names_of_isRooted {base route : String} (rooted : isRooted route = true) :
    names (join base route).toList = names route.toList := by
  obtain ⟨cs, whole⟩ := exists_toList_of_isRooted rooted
  rw [toList_join_of_isRooted rooted, names_cons_slash, names_dropSlashes, whole]
  simp [names, found, closes, next]

/-- A base loses nothing but slashes, and the sign that it stands alone. -/
theorem exists_toList_join_empty (address : String) :
    ∃ cs, (join "" address).toList = '/' :: dropSlashes cs ∧ names cs = names address.toList
      ∧ (IsClosed cs ↔ IsClosed address.toList) := by
  by_cases rooted : isRooted address = true
  · obtain ⟨cs, whole⟩ := exists_toList_of_isRooted rooted
    refine ⟨cs, ?_, ?_, ?_⟩
    · rw [toList_join_of_isRooted rooted, whole]
      rfl
    · rw [whole]
      simp [names, found, closes, next]
    · rw [whole]
      simp [IsClosed, next]
  · refine ⟨address.toList, ?_, rfl, Iff.rfl⟩
    rw [toList_join (by simpa using rooted)]
    by_cases empty : dropSlashes address.toList = []
    · simp [empty, joinParts]
    · simp [empty, joinParts]

theorem names_join_empty (address : String) :
    names (join "" address).toList = names address.toList := by
  obtain ⟨cs, joined, same, -⟩ := exists_toList_join_empty address
  rw [joined, names_cons_slash, names_dropSlashes, same]

theorem isClosed_join_empty {address : String} :
    IsClosed (join "" address).toList ↔ IsClosed address.toList := by
  obtain ⟨cs, joined, -, same⟩ := exists_toList_join_empty address
  rw [joined, isClosed_cons_slash, isClosed_dropSlashes, same]

/--
A route whose placeholders are the same behind what its base leaves open. One that stands alone,
or has nothing but slashes, is so under every base.
-/
def Sealed (base route : String) : Prop :=
  isRooted route = true ∨ dropSlashes route.toList = []
    ∨ names (openTail (dropSlashes base.toList) ++ '/' :: dropSlashes route.toList)
      = names route.toList

/-- The placeholders of an address are those of its parts just under the seal. -/
theorem names_join_iff (base route : String) :
    names (join base route).toList
        = (if isRooted route then [] else names base.toList) ++ names route.toList
      ↔ Sealed base route := by
  unfold Sealed
  by_cases rooted : isRooted route = true
  · simp [rooted, names_of_isRooted]
  · have relative : isRooted route = false := by simpa using rooted
    rw [toList_join relative, names_cons_slash, ← names_dropSlashes base.toList]
    simp only [relative, Bool.false_eq_true, if_false, false_or]
    by_cases noRoute : dropSlashes route.toList = []
    · have silent : names route.toList = [] := by
        rw [← names_dropSlashes, noRoute]
        rfl
      by_cases noBase : dropSlashes base.toList = []
      · simp [noRoute, noBase, joinParts, silent]
      · simp [noRoute, noBase, joinParts, silent]
    · by_cases noBase : dropSlashes base.toList = []
      · have nothing : openTail [] = [] := rfl
        have silence : names [] = [] := rfl
        simp [noRoute, noBase, joinParts, nothing, silence, names_dropSlashes]
      · have joined : joinParts
            ([dropSlashes base.toList, dropSlashes route.toList].filter (!·.isEmpty))
            = dropSlashes base.toList ++ '/' :: dropSlashes route.toList := by
          simp [noRoute, noBase, joinParts]
        rw [joined, names_append_open, List.append_cancel_left_eq]
        simp [noRoute]

/-- Behind an open brace a placeholder is but text. -/
theorem names_open_single {cs : List Char} (opened : ¬ IsClosed cs) :
    names (openTail cs ++ ['/', '{', 'x', '}']) = [] := by
  have resumes := resumes_after cs
  unfold openTail
  cases reached : after (0, []) cs with
  | mk depth body =>
    cases depth with
    | zero => exact absurd (congrArg Prod.fst reached) opened
    | succ depth =>
      rw [reached] at resumes
      obtain ⟨again, silent⟩ := resumes
      have quiet : found (depth + 1, body) ['/', '{', 'x', '}'] = [] := by
        cases depth <;> rfl
      simp only [names, List.cons_append, found, closes, next, if_true, List.nil_append]
      rw [found_append, silent, again, quiet]
      rfl

/-- Every route is sealed off from a base just when the base leaves no brace open. -/
theorem forall_sealed_iff {base : String} :
    (∀ route, Sealed base route) ↔ IsClosed base.toList := by
  rw [← isClosed_dropSlashes]
  constructor
  · intro sealed
    by_contra opened
    -- the route with a single placeholder loses it behind an open brace
    have whole : (String.ofList ['{', 'x', '}']).toList = ['{', 'x', '}'] := String.toList_ofList
    have kept : dropSlashes ['{', 'x', '}'] = ['{', 'x', '}'] := by cbv
    have one : names ['{', 'x', '}'] = ["x"] := by cbv
    rcases sealed (String.ofList ['{', 'x', '}']) with rooted | empty | same
    · exact absurd rooted (by simp [isRooted, startsWith])
    · rw [whole, kept] at empty
      cases empty
    · rw [whole, kept, names_open_single opened, one] at same
      cases same
  · intro closed route
    refine .inr (.inr ?_)
    rw [openTail_eq_nil_iff.mpr closed, List.nil_append, names_cons_slash, names_dropSlashes]

end ApiClient.Route
