import ApiClient.Text.Cut
import Mathlib.Data.List.TakeWhile

/-!
What cutting at the last separator leaves, and that a text cut there has one reading.
-/

set_option autoImplicit false

namespace ApiClient.Text

theorem afterLast_suffix (separator : Char) (cs : List Char) : afterLast separator cs <:+ cs := by
  have front := List.takeWhile_prefix (· != separator) (l := cs.reverse)
  rw [← List.reverse_suffix, List.reverse_reverse] at front
  exact front

theorem notMem_afterLast (separator : Char) (cs : List Char) :
    separator ∉ afterLast separator cs := by
  intro member
  have kept := List.mem_takeWhile_imp (List.mem_reverse.mp member)
  simp at kept

private theorem bne_of_notMem {separator : Char} {cs : List Char} (free : separator ∉ cs) :
    ∀ c ∈ cs, (c != separator) = true := by
  intro c member
  have differs : c ≠ separator := fun same => free (same ▸ member)
  simpa using differs

theorem takeWhile_append_cons {separator : Char} {xs : List Char} (free : separator ∉ xs)
    (ys : List Char) : (xs ++ separator :: ys).takeWhile (· != separator) = xs := by
  rw [List.takeWhile_append_of_pos (bne_of_notMem free)]
  simp

theorem dropWhile_append_cons {separator : Char} {xs : List Char} (free : separator ∉ xs)
    (ys : List Char) :
    (xs ++ separator :: ys).dropWhile (· != separator) = separator :: ys := by
  rw [List.dropWhile_append_of_pos (bne_of_notMem free)]
  simp

theorem afterLast_append_cons {separator : Char} {cs : List Char} (free : separator ∉ cs)
    (front : List Char) : afterLast separator (front ++ separator :: cs) = cs := by
  have free' : separator ∉ cs.reverse := by simpa using free
  have taken := takeWhile_append_cons free' front.reverse
  unfold afterLast
  simp only [List.reverse_append, List.reverse_cons, List.append_assoc, List.singleton_append]
  rw [taken, List.reverse_reverse]

theorem beforeLast_append_cons {separator : Char} {cs : List Char} (free : separator ∉ cs)
    (front : List Char) : beforeLast separator (front ++ separator :: cs) = front := by
  have free' : separator ∉ cs.reverse := by simpa using free
  have dropped := dropWhile_append_cons free' front.reverse
  unfold beforeLast
  simp only [List.reverse_append, List.reverse_cons, List.append_assoc, List.singleton_append]
  rw [dropped]
  simp

theorem afterLast_of_notMem {separator : Char} {cs : List Char} (free : separator ∉ cs) :
    afterLast separator cs = cs := by
  have free' : separator ∉ cs.reverse := by simpa using free
  have taken : cs.reverse.takeWhile (· != separator) = cs.reverse :=
    List.takeWhile_eq_self_iff.mpr (bne_of_notMem free')
  rw [afterLast, taken, List.reverse_reverse]

theorem afterLast_append_of_notMem {separator : Char} {cs : List Char} (free : separator ∉ cs)
    (front : List Char) : afterLast separator (front ++ cs) = afterLast separator front ++ cs := by
  have free' : separator ∉ cs.reverse := by simpa using free
  unfold afterLast
  rw [List.reverse_append, List.takeWhile_append_of_pos (bne_of_notMem free'),
    List.reverse_append, List.reverse_reverse]

/-- What stands before the part after the last separator is nothing or ends with it. -/
theorem exists_append_afterLast (separator : Char) (cs : List Char) :
    ∃ front, cs = front ++ afterLast separator cs
      ∧ ∀ c, front.getLast? = some c → c = separator := by
  refine ⟨(cs.reverse.dropWhile (· != separator)).reverse, ?_, ?_⟩
  · rw [afterLast, ← List.reverse_append, List.takeWhile_append_dropWhile, List.reverse_reverse]
  · intro c last
    rw [List.getLast?_reverse] at last
    have stopped := List.head?_dropWhile_not (· != separator) cs.reverse
    rw [last] at stopped
    simpa using stopped

/-- A text is cut at its last separator in one way. -/
theorem append_cons_inj {separator : Char} {front front' cs cs' : List Char}
    (free : separator ∉ cs) (free' : separator ∉ cs')
    (same : front ++ separator :: cs = front' ++ separator :: cs') : front = front' ∧ cs = cs' := by
  have before := congrArg (beforeLast separator) same
  have after := congrArg (afterLast separator) same
  rw [beforeLast_append_cons free, beforeLast_append_cons free'] at before
  rw [afterLast_append_cons free, afterLast_append_cons free'] at after
  exact ⟨before, after⟩

/-- What stands after the last separator is known from what stands before it. -/
theorem afterLast_eq_iff {separator : Char} {cs last : List Char} (free : separator ∉ last) :
    afterLast separator cs = last ↔ cs = last ∨ ∃ front, cs = front ++ separator :: last := by
  constructor
  · rintro rfl
    obtain ⟨front, whole, closed⟩ := exists_append_afterLast separator cs
    rcases List.eq_nil_or_concat front with rfl | ⟨front, c, rfl⟩
    · exact .inl whole
    · obtain rfl := closed c (by simp)
      exact .inr ⟨front, by simpa using whole⟩
  · rintro (rfl | ⟨front, rfl⟩)
    · exact afterLast_of_notMem free
    · exact afterLast_append_cons free front

theorem dropEnding_append (ending cs : List Char) : dropEnding ending (cs ++ ending) = cs := by
  have ends : ending.isSuffixOf (cs ++ ending) = true :=
    List.isSuffixOf_iff_suffix.mpr (List.suffix_append cs ending)
  rw [dropEnding, if_pos ends, List.length_append, Nat.add_sub_cancel, List.take_left' rfl]

/-- An ending is dropped once. -/
theorem dropEnding_eq_iff {ending cs kept : List Char} (whole : ¬ ending <:+ kept) :
    dropEnding ending cs = kept ↔ cs = kept ∨ cs = kept ++ ending := by
  constructor
  · rintro rfl
    by_cases ends : ending <:+ cs
    · obtain ⟨front, rfl⟩ := ends
      exact .inr (by rw [dropEnding_append])
    · exact .inl (by rw [dropEnding, if_neg (mt List.isSuffixOf_iff_suffix.mp ends)])
  · rintro (rfl | rfl)
    · rw [dropEnding, if_neg (mt List.isSuffixOf_iff_suffix.mp whole)]
    · exact dropEnding_append ending kept

theorem withoutEnding_append {ending text : String} (ends : endsWith ending text = true) :
    withoutEnding ending text ++ ending = text := by
  obtain ⟨front, whole⟩ := List.isSuffixOf_iff_suffix.mp ends
  apply String.toList_inj.mp
  rw [String.toList_append, withoutEnding, String.toList_ofList, ← whole, dropEnding_append]

/-- Names without dots stand behind one namespace only. -/
theorem qualified_inj {ns ns' name name' : String} (free : '.' ∉ name.toList)
    (free' : '.' ∉ name'.toList) (same : ns ++ "." ++ name = ns' ++ "." ++ name') :
    ns = ns' ∧ name = name' := by
  have lists := congrArg String.toList same
  simp only [String.toList_append, List.append_assoc] at lists
  obtain ⟨front, rest⟩ := append_cons_inj free free' lists
  exact ⟨String.toList_inj.mp front, String.toList_inj.mp rest⟩

end ApiClient.Text
