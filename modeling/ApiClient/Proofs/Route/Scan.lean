import ApiClient.Route.Template

/-!
Placeholders of a template, found one character at a time.

`next` is the state of a scan after one more character, `found` what the scan finds from a state
on. A text is scanned like what it leaves open followed by the rest (`found_append_open`), so two
texts can be scanned apart exactly when the first one leaves nothing open.
-/

set_option autoImplicit false

namespace ApiClient.Route

def Piece.body? : Piece → Option (List Char)
  | literal _ => none
  | placeholder body => some body

/-- A brace depth, with the text since the outermost open brace. -/
abbrev ScanState := Nat × List Char

/-- The state after one more character. -/
def next : ScanState → Char → ScanState
  | (0, _), c => if c = '{' then (1, []) else (0, [])
  | (depth + 1, body), c =>
    if c = '{' then (depth + 2, body ++ [c])
    else if c = '}' then if depth = 0 then (0, []) else (depth, body ++ [c])
    else (depth + 1, body ++ [c])

def after (state : ScanState) (cs : List Char) : ScanState := cs.foldl next state

/-- The placeholder that a character closes. -/
def closes : ScanState → Char → List (List Char)
  | (1, body), c => if c = '}' then [body] else []
  | _, _ => []

/-- The placeholders that a text closes from a state on. -/
def found : ScanState → List Char → List (List Char)
  | _, [] => []
  | state, c :: cs => closes state c ++ found (next state c) cs

@[simp] theorem after_nil (state : ScanState) : after state [] = state := rfl

@[simp] theorem after_cons (state : ScanState) (c : Char) (cs : List Char) :
    after state (c :: cs) = after (next state c) cs := rfl

theorem after_append (state : ScanState) (cs cs' : List Char) :
    after state (cs ++ cs') = after (after state cs) cs' := List.foldl_append

theorem found_append (state : ScanState) (cs cs' : List Char) :
    found state (cs ++ cs') = found state cs ++ found (after state cs) cs' := by
  induction cs generalizing state with
  | nil => rfl
  | cons c cs ih => simp [found, ih]

theorem filterMap_body?_scan (depth : Nat) (text body cs : List Char)
    (outside : depth = 0 → body = []) :
    (scan depth text body cs).filterMap Piece.body? = found (depth, body) cs := by
  induction cs generalizing depth text body with
  | nil => cases depth <;> simp [scan, found, Piece.body?]
  | cons c cs ih =>
    cases depth with
    | zero =>
      obtain rfl := outside rfl
      by_cases opens : c = '{'
      · simp [scan, found, closes, next, opens, ih]
      · simp [scan, found, closes, next, opens, ih]
    | succ depth =>
      by_cases opens : c = '{'
      · cases depth <;> simp [scan, found, closes, next, opens, ih]
      · by_cases shuts : c = '}'
        · cases depth with
          | zero =>
            have rest := ih 0 [] [] fun _ => rfl
            simp [scan, found, closes, next, shuts, rest, List.filterMap_cons, Piece.body?]
          | succ depth => simp [scan, found, closes, next, shuts, ih]
        · cases depth <;> simp [scan, found, closes, next, opens, shuts, ih]

/-- The names of the placeholders of a template. -/
def names (cs : List Char) : List String := (found (0, []) cs).map fun body => (segmentOf body).name

theorem map_name_segments (template : String) :
    (segments template).map Segment.name = names template.toList := by
  have bodies := filterMap_body?_scan 0 [] [] template.toList fun _ => rfl
  unfold names
  rw [← bodies, segments, pieces, List.map_filterMap, List.map_filterMap]
  congr 1
  funext piece
  cases piece <;> rfl

/-- What a text leaves open: all from the outermost brace on that is never closed. -/
def openTail (cs : List Char) : List Char :=
  match after (0, []) cs with
  | (0, _) => []
  | (_ + 1, body) => '{' :: body

/-- A state that its own text leads to, with no placeholder on the way. -/
def Resumes : ScanState → Prop
  | (0, body) => body = []
  | (depth + 1, body) => after (1, []) body = (depth + 1, body) ∧ found (1, []) body = []

theorem resumes_next {state : ScanState} (resumes : Resumes state) (c : Char) :
    Resumes (next state c) := by
  obtain ⟨depth, body⟩ := state
  cases depth with
  | zero =>
    by_cases opens : c = '{'
    · simp [next, opens, Resumes, found]
    · simp [next, opens, Resumes]
  | succ depth =>
    obtain ⟨reached, silent⟩ := resumes
    -- only the brace that ends the placeholder leaves the body; any other character extends it
    by_cases closed : depth = 0 ∧ c = '}'
    · simp [next, closed.1, closed.2, Resumes]
    · have state : ∃ depth', next (depth + 1, body) c = (depth' + 1, body ++ [c]) := by
        by_cases opens : c = '{'
        · exact ⟨depth + 1, by simp [next, opens]⟩
        · by_cases shuts : c = '}'
          · obtain ⟨depth', rfl⟩ := Nat.exists_eq_succ_of_ne_zero fun h => closed ⟨h, shuts⟩
            exact ⟨depth', by simp [next, shuts]⟩
          · exact ⟨depth, by simp [next, opens, shuts]⟩
      have quiet : closes (depth + 1, body) c = [] := by
        cases depth with
        | zero => simpa [closes] using closed
        | succ depth => rfl
      obtain ⟨depth', state⟩ := state
      rw [state]
      constructor
      · rw [after_append, reached, after_cons, after_nil, state]
      · rw [found_append, silent, reached]
        simp [found, quiet]

theorem resumes_after (cs : List Char) : Resumes (after (0, []) cs) := by
  have kept : ∀ (cs : List Char) (state : ScanState), Resumes state → Resumes (after state cs) := by
    intro cs
    induction cs with
    | nil => exact fun _ resumes => resumes
    | cons c cs ih => exact fun state resumes => ih _ (resumes_next resumes c)
  exact kept cs (0, []) rfl

/-- A text is scanned like its placeholders, then what it leaves open with the rest behind it. -/
theorem found_append_open (cs cs' : List Char) :
    found (0, []) (cs ++ cs') = found (0, []) cs ++ found (0, []) (openTail cs ++ cs') := by
  rw [found_append]
  congr 1
  have resumes := resumes_after cs
  unfold openTail
  cases reached : after (0, []) cs with
  | mk depth body =>
    rw [reached] at resumes
    cases depth with
    | zero => rw [show body = [] from resumes, List.nil_append]
    | succ depth =>
      obtain ⟨again, silent⟩ := resumes
      simp only [List.cons_append, found, closes, next, if_true, List.nil_append]
      rw [found_append, silent, again, List.nil_append]

theorem names_append_open (cs cs' : List Char) :
    names (cs ++ cs') = names cs ++ names (openTail cs ++ cs') := by
  unfold names
  rw [found_append_open, List.map_append]

/-- Whether every placeholder that a text opens is closed. -/
def IsClosed (cs : List Char) : Prop := (after (0, []) cs).1 = 0

theorem openTail_eq_nil_iff {cs : List Char} : openTail cs = [] ↔ IsClosed cs := by
  unfold openTail IsClosed
  split
  · next body reached => simp [reached]
  · next depth body reached => simp [reached]

/-- Characters that are no braces change no depth and close nothing. -/
theorem found_eq_nil_of_notMem {cs : List Char} (free : '}' ∉ cs) (state : ScanState) :
    found state cs = [] := by
  induction cs generalizing state with
  | nil => rfl
  | cons c cs ih =>
    simp only [List.mem_cons, not_or] at free
    obtain ⟨differs, free⟩ := free
    have quiet : closes state c = [] := by
      unfold closes
      split
      · exact if_neg (Ne.symm differs)
      · rfl
    simp [found, quiet, ih free]

theorem after_fst_of_notMem {cs : List Char} (free : '{' ∉ cs) (free' : '}' ∉ cs)
    (state : ScanState) : (after state cs).1 = state.1 := by
  induction cs generalizing state with
  | nil => rfl
  | cons c cs ih =>
    simp only [List.mem_cons, not_or] at free free'
    obtain ⟨differs, free⟩ := free
    obtain ⟨differs', free'⟩ := free'
    rw [after_cons, ih free free']
    obtain ⟨depth, body⟩ := state
    cases depth <;> simp [next, Ne.symm differs, Ne.symm differs']

end ApiClient.Route
