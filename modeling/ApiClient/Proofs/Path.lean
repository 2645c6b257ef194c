import ApiClient.Path
import Mathlib.Data.List.Basic

/-!
Paths as texts, and paths that are resolved.

A path is read back from its text when its parts are parts of texts, as those of every path are that
was read from one. A resolved path starts at the root and never goes back, and resolving it again
leaves it as it is.
-/

set_option autoImplicit false

namespace ApiClient.Path

/-- A part as texts have them: not empty, no point, and without slashes. -/
def IsPartName (part : String) : Prop := isPart part.toList = true ∧ '/' ∉ part.toList

/-- All parts of a path are parts of texts. -/
def IsNormal (p : Path) : Prop := ∀ part ∈ p.parts, IsPartName part

section Texts

/-- All stretches between slashes. -/
def stretches (cs : List Char) : List (List Char) := (splitSlashes cs).1 :: (splitSlashes cs).2

theorem stretches_slash (cs : List Char) : stretches ('/' :: cs) = [] :: stretches cs := rfl

theorem splitSlashes_cons_of_ne {c : Char} (plain : c ≠ '/') (cs : List Char) :
    splitSlashes (c :: cs) = (c :: (splitSlashes cs).1, (splitSlashes cs).2) := by
  simp only [splitSlashes, if_neg plain]

theorem stretches_of_notMem {cs : List Char} (free : '/' ∉ cs) : stretches cs = [cs] := by
  induction cs with
  | nil => rfl
  | cons c rest ih =>
    rw [List.mem_cons, not_or] at free
    have others : (splitSlashes rest).1 = rest ∧ (splitSlashes rest).2 = [] := by
      simpa [stretches] using ih free.2
    rw [stretches, splitSlashes_cons_of_ne (Ne.symm free.1), others.1, others.2]

theorem stretches_append_slash {part : List Char} (free : '/' ∉ part) (cs : List Char) :
    stretches (part ++ '/' :: cs) = part :: stretches cs := by
  induction part with
  | nil => rfl
  | cons c rest ih =>
    rw [List.mem_cons, not_or] at free
    have later : (splitSlashes (rest ++ '/' :: cs)).1 = rest
        ∧ (splitSlashes (rest ++ '/' :: cs)).2 = stretches cs := by
      simpa [stretches] using ih free.2
    rw [List.cons_append, stretches, splitSlashes_cons_of_ne (Ne.symm free.1), later.1, later.2]

theorem notMem_of_mem_stretches {cs part : List Char} (member : part ∈ stretches cs) :
    '/' ∉ part := by
  induction cs generalizing part with
  | nil =>
    obtain rfl := List.mem_singleton.mp member
    exact List.not_mem_nil
  | cons c rest ih =>
    by_cases slash : c = '/'
    · subst slash
      rw [stretches_slash, List.mem_cons] at member
      rcases member with rfl | later
      · simp
      · exact ih later
    · rw [stretches, splitSlashes_cons_of_ne slash, List.mem_cons] at member
      rcases member with rfl | later
      · rw [List.mem_cons, not_or]
        exact ⟨Ne.symm slash, ih List.mem_cons_self⟩
      · exact ih (List.mem_cons_of_mem _ later)

/-- The parts of a text. -/
def partsOf (cs : List Char) : List String := ((stretches cs).filter isPart).map String.ofList

theorem ofText_eq (text : String) : ofText text = ⟨anchorOf text.toList, partsOf text.toList⟩ := rfl

theorem isNormal_ofText (text : String) : (ofText text).IsNormal := by
  intro part member
  obtain ⟨stretch, kept, rfl⟩ := List.mem_map.mp member
  obtain ⟨among, own⟩ := List.mem_filter.mp kept
  rw [IsPartName, String.toList_ofList]
  exact ⟨own, notMem_of_mem_stretches among⟩

theorem partsOf_intercalate {parts : List String} (normal : ∀ part ∈ parts, IsPartName part) :
    partsOf (['/'].intercalate (parts.map String.toList)) = parts := by
  induction parts with
  | nil => rfl
  | cons part rest ih =>
    obtain ⟨⟨own, free⟩, others⟩ := List.forall_mem_cons.mp normal
    cases rest with
    | nil => simp [partsOf, stretches_of_notMem free, own]
    | cons next rest =>
      have later := ih others
      rw [List.map_cons, List.map_cons, List.intercalate_cons_cons, ← List.map_cons,
        List.append_assoc, List.singleton_append, partsOf, stretches_append_slash free,
        List.filter_cons_of_pos own, List.map_cons, ← partsOf, later, String.ofList_toList]

theorem anchorOf_append {cs : List Char} (plain : cs.head? ≠ some '/') (anchor : Anchor) :
    anchorOf (anchor.text.toList ++ cs) = anchor := by
  cases cs with
  | nil => cases anchor <;> rfl
  | cons c rest =>
    have other : c ≠ '/' := by simpa using plain
    cases anchor with
    | relative =>
      change anchorOf (c :: rest) = _
      simp [anchorOf, other]
    | root =>
      change anchorOf ('/' :: c :: rest) = _
      simp [anchorOf, other]
    | doubleRoot =>
      change anchorOf ('/' :: '/' :: c :: rest) = _
      simp [anchorOf, other]

theorem partsOf_append (anchor : Anchor) (cs : List Char) :
    partsOf (anchor.text.toList ++ cs) = partsOf cs := by
  cases anchor <;> rfl

theorem head?_intercalate {parts : List String} (normal : ∀ part ∈ parts, IsPartName part) :
    (['/'].intercalate (parts.map String.toList)).head? ≠ some '/' := by
  cases parts with
  | nil => simp
  | cons part rest =>
    obtain ⟨own, free⟩ := normal part List.mem_cons_self
    cases written : part.toList with
    | nil => simp [isPart, written] at own
    | cons c cs =>
      rw [written, List.mem_cons, not_or] at free
      cases rest with
      | nil => simpa [written] using Ne.symm free.1
      | cons next rest =>
        rw [List.map_cons, List.map_cons, List.intercalate_cons_cons, written]
        simpa using Ne.symm free.1

/-- A path is read back from its text. -/
theorem ofText_toText {p : Path} (normal : p.IsNormal) : ofText p.toText = p := by
  obtain ⟨anchor, parts⟩ := p
  -- the empty path is written as a point, which is no part
  by_cases empty : anchor = .relative ∧ parts = []
  · obtain ⟨rfl, rfl⟩ := empty
    rfl
  · have written : toText ⟨anchor, parts⟩ = anchor.text ++ String.intercalate "/" parts := by
      unfold toText
      split
      · next relative none => exact absurd ⟨relative, none⟩ empty
      · rfl
    have text : (toText ⟨anchor, parts⟩).toList
        = anchor.text.toList ++ ['/'].intercalate (parts.map String.toList) := by
      rw [written, String.toList_append, String.toList_intercalate]
      rfl
    rw [ofText_eq, text, anchorOf_append (head?_intercalate normal), partsOf_append,
      partsOf_intercalate normal]

end Texts

section Resolved

variable {p q : Path}

theorem IsNormal.append (normal : p.IsNormal) (normal' : q.IsNormal) : (p.append q).IsNormal := by
  unfold Path.append
  split
  · exact List.forall_mem_append.mpr ⟨normal, normal'⟩
  · exact normal'

theorem IsNormal.child (normal : p.IsNormal) (text : String) : (p.child text).IsNormal :=
  normal.append (isNormal_ofText text)

/-- A path that starts at the root and never goes back. -/
structure IsResolved (p : Path) : Prop where
  anchor : p.anchor = .root
  climbs : ".." ∉ p.parts

theorem mem_collapse {parts : List String} {part : String} (member : part ∈ collapse parts) :
    part ∈ parts ∧ part ≠ ".." := by
  -- going back takes parts away and puts none in
  have kept : ∀ before after : List String, part ∈ after.foldl
      (fun kept part => if part = ".." then kept.dropLast else kept ++ [part]) before →
      part ∈ before ∨ part ∈ after ∧ part ≠ ".." := by
    intro before after member
    induction after generalizing before with
    | nil => exact .inl member
    | cons next rest ih =>
      rw [List.foldl_cons] at member
      rcases ih _ member with early | ⟨late, name⟩
      · by_cases up : next = ".."
        · rw [if_pos up] at early
          exact .inl (List.dropLast_subset _ early)
        · rw [if_neg up, List.mem_append, List.mem_singleton] at early
          rcases early with earlier | rfl
          · exact .inl earlier
          · exact .inr ⟨List.mem_cons_self, up⟩
      · exact .inr ⟨List.mem_cons_of_mem _ late, name⟩
  exact (kept [] parts member).resolve_left List.not_mem_nil

/-- Parts that do not go back are all kept. -/
theorem foldl_of_notMem (before : List String) {after : List String} (climbs : ".." ∉ after) :
    after.foldl (fun kept part => if part = ".." then kept.dropLast else kept ++ [part]) before
      = before ++ after := by
  induction after generalizing before with
  | nil => simp
  | cons next rest ih =>
    rw [List.mem_cons, not_or] at climbs
    rw [List.foldl_cons, if_neg (Ne.symm climbs.1), ih _ climbs.2, List.append_assoc,
      List.singleton_append]

theorem collapse_of_notMem {parts : List String} (climbs : ".." ∉ parts) :
    collapse parts = parts :=
  foldl_of_notMem [] climbs

theorem isResolved_resolve (directory p : Path) : (resolve directory p).IsResolved :=
  ⟨rfl, fun member => (mem_collapse member).2 rfl⟩

theorem IsResolved.parent (resolved : p.IsResolved) : p.parent.IsResolved :=
  ⟨resolved.anchor, fun member => resolved.climbs (List.dropLast_subset _ member)⟩

theorem IsResolved.resolve_eq (resolved : p.IsResolved) (directory : Path) :
    resolve directory p = p := by
  obtain ⟨anchor, parts⟩ := p
  obtain ⟨rfl, climbs⟩ := resolved
  exact congrArg (Path.mk .root) (collapse_of_notMem climbs)

theorem isNormal_resolve {directory : Path} (normal : directory.IsNormal) (normal' : p.IsNormal) :
    (resolve directory p).IsNormal :=
  fun part member => normal.append normal' part (mem_collapse member).1

end Resolved

end ApiClient.Path
