/-!
Line breaks of text files.

A file may end its lines with a line feed, a carriage return, or one after the other; as text all
three are a line feed.
-/

set_option autoImplicit false

namespace ApiClient.Text

/-- Every kind of line break as a line feed. -/
def unifyBreaks : List Char → List Char
  | '\r' :: '\n' :: cs => '\n' :: unifyBreaks cs
  | '\r' :: cs => '\n' :: unifyBreaks cs
  | c :: cs => c :: unifyBreaks cs
  | [] => []

/-- The text that bytes in UTF-8 stand for. -/
def decode? (bytes : ByteArray) : Option String :=
  (String.fromUTF8? bytes).map fun s => String.ofList (unifyBreaks s.toList)

theorem return_notMem_unifyBreaks (cs : List Char) : '\r' ∉ unifyBreaks cs := by
  induction cs using unifyBreaks.induct with
  | case1 cs ih => simpa [unifyBreaks] using ih
  | case2 cs _ ih => simpa [unifyBreaks] using ih
  | case3 c cs _ notReturn ih =>
    simp only [unifyBreaks, List.mem_cons, not_or]
    exact ⟨fun h => notReturn h.symm, ih⟩
  | case4 => simp [unifyBreaks]

theorem unifyBreaks_of_notMem {cs : List Char} (h : '\r' ∉ cs) : unifyBreaks cs = cs := by
  induction cs with
  | nil => rfl
  | cons c cs ih =>
    have first : c ≠ '\r' := fun same => h (same ▸ List.mem_cons_self)
    have others : '\r' ∉ cs := fun found => h (List.mem_cons_of_mem _ found)
    unfold unifyBreaks
    split
    · next same => exact absurd (List.cons.inj same).1 first
    · next same => exact absurd (List.cons.inj same).1 first
    · next same => cases same; rw [ih others]
    · contradiction

/-- Bytes of a text without carriage returns are read as the text. -/
theorem decode?_toUTF8 {s : String} (free : '\r' ∉ s.toList) :
    decode? s.toUTF8 = some s := by
  have decoded : String.fromUTF8? s.toUTF8 = some s := dif_pos s.isValidUTF8
  rw [decode?, decoded, Option.map_some, unifyBreaks_of_notMem free, String.ofList_toList]

end ApiClient.Text
