import ApiClient.Text.Blank
import Mathlib.Data.List.TakeWhile

/-!
Dropping a class of characters from the ends of a text.

A text loses nothing when no character of the class stands at either end; put before another text
it keeps all of its own characters.
-/

set_option autoImplicit false

namespace ApiClient.Text

variable {p : Char → Bool} {cs : List Char}

theorem forall_head?_cons {q : Char → Prop} {c : Char} (holds : q c) (rest : List Char) :
    ∀ d, (c :: rest).head? = some d → q d := by
  intro d first
  obtain rfl := Option.some.inj first
  exact holds

theorem dropWhile_append_of_stops {run rest : List Char} (inside : ∀ c ∈ run, p c = true)
    (stops : ∀ c, rest.head? = some c → p c = false) : (run ++ rest).dropWhile p = rest := by
  rw [List.dropWhile_append_of_pos inside]
  cases rest with
  | nil => rfl
  | cons c rest => exact List.dropWhile_cons_of_neg (by simp [stops c rfl])

/-- A text with no character of a class at either end. -/
structure IsTrimmed (p : Char → Bool) (cs : List Char) : Prop where
  start : ∀ c ∈ cs.head?, p c = false
  finish : ∀ c ∈ cs.getLast?, p c = false

theorem isTrimmed_iff_all : IsTrimmed p cs
    ↔ cs.head?.all (fun c => !p c) = true ∧ cs.getLast?.all (fun c => !p c) = true := by
  simp only [Option.all_eq_true, Bool.not_eq_true']
  exact ⟨fun trimmed => ⟨trimmed.start, trimmed.finish⟩, fun ⟨start, finish⟩ => ⟨start, finish⟩⟩

instance : Decidable (IsTrimmed p cs) := decidable_of_iff _ isTrimmed_iff_all.symm

theorem IsTrimmed.append {cs' : List Char} (left : IsTrimmed p cs) (right : IsTrimmed p cs') :
    IsTrimmed p (cs ++ cs') := by
  constructor
  · intro c start
    rw [Option.mem_def, List.head?_append, Option.or_eq_some_iff] at start
    rcases start with start | ⟨-, start⟩
    · exact left.start c start
    · exact right.start c start
  · intro c finish
    rw [Option.mem_def, List.getLast?_append, Option.or_eq_some_iff] at finish
    rcases finish with finish | ⟨-, finish⟩
    · exact right.finish c finish
    · exact left.finish c finish

theorem IsTrimmed.dropEndWhile_append (trimmed : IsTrimmed p cs) (cs' : List Char) :
    dropEndWhile p (cs ++ cs') = cs ++ dropEndWhile p cs' := by
  have kept : cs.reverse.dropWhile p = cs.reverse := by
    apply @dropWhile_append_of_stops p [] _ nofun
    intro c finish
    exact trimmed.finish c (by simpa using finish)
  unfold dropEndWhile
  rw [List.reverse_append, List.dropWhile_append, kept]
  split
  · next none => simp [List.isEmpty_iff.mp none]
  · simp

/-- Trimming a text behind a trimmed one only touches its end. -/
theorem IsTrimmed.trimWhile_append (trimmed : IsTrimmed p cs) (some : cs ≠ [])
    (cs' : List Char) : trimWhile p (cs ++ cs') = cs ++ dropEndWhile p cs' := by
  have kept : (cs ++ cs').dropWhile p = cs ++ cs' := by
    apply @dropWhile_append_of_stops p [] _ nofun
    intro c start
    cases cs with
    | nil => exact absurd rfl some
    | cons d cs => exact trimmed.start c start
  rw [trimWhile, kept, trimmed.dropEndWhile_append]

theorem IsTrimmed.trimWhile_eq (trimmed : IsTrimmed p cs) : trimWhile p cs = cs := by
  cases cs with
  | nil => rfl
  | cons c cs => simpa using trimmed.trimWhile_append nofun []

theorem dropEndWhile_prefix (p : Char → Bool) (cs : List Char) : dropEndWhile p cs <+: cs := by
  have behind := List.dropWhile_suffix p (l := cs.reverse)
  rw [← List.reverse_prefix, List.reverse_reverse] at behind
  exact behind

/-- Trimming leaves nothing to trim. -/
theorem isTrimmed_trimWhile (p : Char → Bool) (cs : List Char) : IsTrimmed p (trimWhile p cs) := by
  constructor
  · intro c start
    obtain ⟨rest, whole⟩ := dropEndWhile_prefix p (cs.dropWhile p)
    have stopped := List.head?_dropWhile_not p cs
    have same : (cs.dropWhile p).head? = some c := by
      rw [← whole, List.head?_append, ← trimWhile, Option.mem_def.mp start, Option.some_or]
    rw [same] at stopped
    simpa using stopped
  · intro c finish
    have stopped := List.head?_dropWhile_not p (cs.dropWhile p).reverse
    rw [trimWhile, dropEndWhile, Option.mem_def, List.getLast?_reverse] at finish
    rw [finish] at stopped
    simpa using stopped

end ApiClient.Text
