import ApiClient.Proofs.Resolution
import Mathlib.Data.Nat.Find

/-!
Inheritance in a store.

The base types of a type make a chain, which goes on as long as the store has the type that a
reference names and that type has a base. It may run in a circle. Main statement: following bases
through each type at most once finds exactly the names that stand on the chain, however long it is.
-/

set_option autoImplicit false

namespace ApiClient.TypeStore

variable {s : TypeStore} {d e : TypeDescriptor} {r : TypeRef} {baseName : String}

/-- The base of the type that a reference names. -/
def baseOf? (s : TypeStore) (r : TypeRef) : Option TypeRef :=
  (s.find? r.name).bind TypeDescriptor.baseType

/--
The chain of bases of a type: its own base, and then each time the base of the type that the
reference before names. It ends at a type without a base, or at one that the store does not have.
-/
def chain (s : TypeStore) (d : TypeDescriptor) : Nat → Option TypeRef
  | 0 => d.baseType
  | n + 1 => (s.chain d n).bind s.baseOf?

/-- The first type with a full name, by its place among all types. -/
theorem find?_eq_some_iff {fullName : String} :
    s.find? fullName = some e ↔ ∃ before after, s.all = before ++ e :: after
      ∧ e.fullName = fullName ∧ ∀ other ∈ before, other.fullName ≠ fullName := by
  simp only [find?, List.find?_eq_some_iff_append, decide_eq_true_eq, Bool.not_eq_true',
    decide_eq_false_iff_not]
  constructor
  · rintro ⟨named, before, after, split, others⟩
    exact ⟨before, after, split, named, others⟩
  · rintro ⟨before, after, split, named, others⟩
    exact ⟨named, before, after, split, others⟩

theorem find?_without (fullName name : String) (types : List TypeDescriptor) :
    ((without fullName types).find? fun d => d.fullName = name)
      = if name = fullName then none else types.find? fun d => d.fullName = name := by
  induction types with
  | nil => simp [without]
  | cons d rest ih =>
    unfold without at ih ⊢
    by_cases visited : d.fullName = fullName <;> by_cases named : d.fullName = name
    · simp_all
    · simp_all
    · simp_all
    · simp_all

/-- Behind its first reference a chain is that of the type which the reference names. -/
theorem chain_succ (base : d.baseType = some r) (found : s.find? r.name = some e) (n : Nat) :
    s.chain d (n + 1) = s.chain e n := by
  induction n with
  | zero =>
    have first : s.chain d 0 = some r := base
    have next : s.baseOf? r = e.baseType := by rw [baseOf?, found, Option.bind_some]
    change (s.chain d 0).bind s.baseOf? = e.baseType
    rw [first, Option.bind_some, next]
  | succ n ih => rw [chain, ih, chain]

/-- A chain that goes on has a first reference, to a type of the store. -/
theorem exists_of_chain_succ {n : Nat} (reached : s.chain d (n + 1) = some r) :
    ∃ base e, d.baseType = some base ∧ s.find? base.name = some e ∧ s.chain e n = some r := by
  have step : ∃ base e, d.baseType = some base ∧ s.find? base.name = some e := by
    induction n generalizing r with
    | zero =>
      obtain ⟨base, first, next⟩ := Option.bind_eq_some_iff.mp reached
      obtain ⟨e, found, -⟩ := Option.bind_eq_some_iff.mp next
      exact ⟨base, e, first, found⟩
    | succ n ih =>
      obtain ⟨q, before, -⟩ := Option.bind_eq_some_iff.mp reached
      exact ih before
  obtain ⟨base, e, first, found⟩ := step
  refine ⟨base, e, first, found, ?_⟩
  rw [← chain_succ first found, reached]

/-- What is found stands on the chain, at a place below the number of types that can be visited. -/
theorem exists_chain_of_inheritsFrom {types : List TypeDescriptor}
    (visible : ∀ name e, (types.find? fun e => e.fullName = name) = some e → s.find? name = some e)
    (inherits : inheritsFrom baseName types d.baseType = true) :
    ∃ n ≤ types.length, ∃ r, s.chain d n = some r ∧ r.name = baseName := by
  generalize start : d.baseType = base at inherits
  fun_induction inheritsFrom baseName types base generalizing d with
  | case1 types => cases inherits
  | case2 types base named => exact ⟨0, Nat.zero_le _, base, start, named⟩
  | case3 types base differs absent => cases inherits
  | case4 types base differs e found ih =>
    have visible' : ∀ name e',
        ((without base.name types).find? fun e => e.fullName = name) = some e'
          → s.find? name = some e' := by
      intro name e' left
      rw [find?_without] at left
      split at left
      · cases left
      · exact visible name e' left
    obtain ⟨n, bound, r, reached, named⟩ := ih visible' rfl inherits
    have shorter : (without base.name types).length < types.length := length_without_lt found
    refine ⟨n + 1, by omega, r, ?_, named⟩
    rw [chain_succ start (visible _ _ found), reached]

/--
A name on the chain is found, if no type that was visited has it nearer than the type the search
stands at: then no reference on the way leads back to a visited type.
-/
theorem inheritsFrom_of_chain {visited : List String} {types : List TypeDescriptor} {n : Nat}
    (own : s.find? d.fullName = some d) (member : d.fullName ∈ visited)
    (unvisited : ∀ name, (types.find? fun e => e.fullName = name)
      = if name ∈ visited then none else s.find? name)
    (reached : s.chain d n = some r)
    (nearest : ∀ e, s.find? e.fullName = some e → e.fullName ∈ visited →
      ∀ m < n, ∀ q, s.chain e m = some q → q.name ≠ r.name) :
    inheritsFrom r.name types d.baseType = true := by
  induction n generalizing d visited types with
  | zero =>
    have first : d.baseType = some r := reached
    rw [first, inheritsFrom, if_pos rfl]
  | succ n ih =>
    obtain ⟨base, e, first, found, rest⟩ := exists_of_chain_succ reached
    have named : e.fullName = base.name := fullName_of_find? found
    have own' : s.find? e.fullName = some e := find?_fullName found
    have differs : base.name ≠ r.name := nearest d own member 0 (Nat.succ_pos n) base first
    have fresh : base.name ∉ visited := by
      intro back
      exact nearest e own' (named ▸ back) n (Nat.lt_succ_self n) r rest rfl
    have unseen : (types.find? fun e => e.fullName = base.name) = some e := by
      rw [unvisited, if_neg fresh, found]
    rw [first, inheritsFrom, if_neg differs]
    split
    · next absent =>
      rw [unseen] at absent
      cases absent
    · next e' again =>
      obtain rfl : e = e' := Option.some.inj (unseen.symm.trans again)
      have entered : e.fullName ∈ base.name :: visited := by simp [named]
      refine ih own' entered ?_ rest ?_
      · intro name
        rw [find?_without, unvisited]
        by_cases here : name = base.name
        · simp [here]
        · simp [here]
      · intro f ownF memberF m less q reachedQ
        rcases List.mem_cons.mp memberF with same | before
        · -- the type that was just entered is one step nearer than the one before it
          have foundF : s.find? base.name = some f := by rw [← same, ownF]
          refine nearest d own member (m + 1) (by omega) q ?_
          rw [chain_succ first foundF, reachedQ]
        · exact nearest f ownF before m (by omega) q reachedQ

/-- The references on a chain are found before any of them can repeat. -/
theorem derivesFrom_of_chain {n : Nat} (own : s.find? d.fullName = some d)
    (reached : s.chain d n = some r) : s.derivesFrom d r.name = true := by
  classical
  have somewhere : ∃ n q, s.chain d n = some q ∧ q.name = r.name := ⟨n, r, reached, rfl⟩
  obtain ⟨q, first, named⟩ := Nat.find_spec somewhere
  unfold derivesFrom
  rw [← named]
  refine inheritsFrom_of_chain own (List.mem_singleton_self _) ?_ first ?_
  · intro name
    rw [find?_without]
    simp only [List.mem_singleton]
    rfl
  · intro e ownE memberE m less p reachedP same
    have equal : e.fullName = d.fullName := List.mem_singleton.mp memberE
    obtain rfl : e = d := by
      rw [equal, own] at ownE
      exact (Option.some.inj ownE).symm
    exact Nat.find_min somewhere less ⟨p, reachedP, same.trans named⟩

/--
A type derives from a name exactly when a reference on its chain of bases has that name; and each
name on the chain, which may be endless, stands at one of its first places already, of which there
are no more than types in the store.
-/
theorem derivesFrom_iff_exists_chain (own : s.find? d.fullName = some d) (baseName : String) :
    (s.derivesFrom d baseName = true ↔ ∃ n r, s.chain d n = some r ∧ r.name = baseName)
      ∧ ∀ n r, s.chain d n = some r →
        ∃ m < s.all.length, ∃ q, s.chain d m = some q ∧ q.name = r.name := by
  have early : ∀ name, s.derivesFrom d name = true →
      ∃ m < s.all.length, ∃ q, s.chain d m = some q ∧ q.name = name := by
    intro name derives
    have visible : ∀ name e,
        ((without d.fullName s.all).find? fun e => e.fullName = name) = some e
          → s.find? name = some e := by
      intro name e left
      rw [find?_without] at left
      split at left
      · cases left
      · exact left
    obtain ⟨m, bound, q, reached, named⟩ := exists_chain_of_inheritsFrom visible derives
    have shorter : (without d.fullName s.all).length < s.all.length := length_without_lt own
    exact ⟨m, by omega, q, reached, named⟩
  refine ⟨⟨fun derives => ?_, ?_⟩, ?_⟩
  · obtain ⟨m, -, q, reached, named⟩ := early baseName derives
    exact ⟨m, q, reached, named⟩
  · rintro ⟨n, r, reached, rfl⟩
    exact derivesFrom_of_chain own reached
  · intro n r reached
    exact early r.name (derivesFrom_of_chain own reached)

/-- A class of the sample that follows, named in short, with its base. -/
private def classBelow (name : String) (base : String) : TypeDescriptor :=
  ⟨name, .classType, false, some (.plain base), [], [], [], []⟩

def home : TypeDescriptor := classBelow "HomeController" "Left"

/-- Two classes that are each other's base, and a class below them. -/
def ring : TypeStore := ⟨[home, classBelow "Left" "Right"], [classBelow "Right" "Left"]⟩

theorem derivesFrom_iff_exists_chain_ring :
    ring.find? home.fullName = some home
      ∧ (ring.derivesFrom home "Right" = true
        ↔ ∃ n r, ring.chain home n = some r ∧ r.name = "Right")
      ∧ ∀ n r, ring.chain home n = some r →
        ∃ m < ring.all.length, ∃ q, ring.chain home m = some q ∧ q.name = r.name := by
  have own : ring.find? home.fullName = some home := by simp [find?, all, ring]
  exact ⟨own, derivesFrom_iff_exists_chain own "Right"⟩

/-- A base at the other side of the circle is found, and the search for any other one ends. -/
example : ring.derivesFrom home "Right" = true ∧ ring.derivesFrom home apiController = false := by
  decide +kernel

end ApiClient.TypeStore
