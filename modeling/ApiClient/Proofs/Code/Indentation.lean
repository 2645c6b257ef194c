import ApiClient.Code
import ApiClient.Proofs.Text.Trim

/-!
Reading code back from the indentation of its text.

A line of a text is a statement unless it is blank, opens a block or closes one, and its leading
spaces tell how deep it stands. Main statement: from the text of a block without a header all
statements are read back in order, each with its depth, whatever blocks stand around them.
-/

set_option autoImplicit false

namespace ApiClient.Code

open Text

/-- A class of line breaks: with the line feed, and without what is written around statements. -/
structure IsBreakClass (isBreak : Char → Bool) : Prop where
  lineFeed : isBreak '\n' = true
  space : isBreak ' ' = false
  opening : isBreak '{' = false
  closing : isBreak '}' = false
  parenthesis : isBreak ')' = false

/-- A text without line breaks. -/
def IsUnbroken (isBreak : Char → Bool) (text : String) : Prop :=
  ∀ c ∈ text.toList, isBreak c = false

/-- A statement that looks neither indented nor like a brace of a block. -/
structure IsPlainLine (line : String) : Prop where
  indented : line.toList.head? ≠ some ' '
  closing : line.toList.head? ≠ some '}'
  opening : line.toList.getLast? ≠ some '{'

instance (isBreak : Char → Bool) (text : String) : Decidable (IsUnbroken isBreak text) :=
  List.decidableBAll (fun c => isBreak c = false) text.toList

instance (line : String) : Decidable (IsPlainLine line) :=
  decidable_of_iff
    (line.toList.head? ≠ some ' ' ∧ line.toList.head? ≠ some '}' ∧ line.toList.getLast? ≠ some '{')
    ⟨fun ⟨indented, closing, opening⟩ => ⟨indented, closing, opening⟩,
      fun ⟨indented, closing, opening⟩ => ⟨indented, closing, opening⟩⟩

/-- Code on lines of its own: nothing in it breaks a line, and its statements look like such. -/
inductive IsReadable (isBreak : Char → Bool) : Code → Prop
  | statement {line : String} (unbroken : IsUnbroken isBreak line)
      (plain : line ≠ "" → IsPlainLine line) : IsReadable isBreak (.statement line)
  | block {frame : Frame} {body : List Code} (header : IsUnbroken isBreak frame.header)
      (termination : IsUnbroken isBreak frame.termination)
      (inner : ∀ c ∈ body, IsReadable isBreak c) : IsReadable isBreak (.block frame body)

mutual

/-- The statements in a piece of code, in order, each with the number of blocks around it. -/
def statements (depth : Nat) : Code → List (Nat × String)
  | .statement line => if line = "" then [] else [(depth, line)]
  | .block _ body => bodyStatements (depth + 1) body

def bodyStatements (depth : Nat) : List Code → List (Nat × String)
  | [] => []
  | c :: rest => statements depth c ++ bodyStatements depth rest

end

/-- An indent of spaces. -/
def spaces (n : Nat) : String := String.ofList (List.replicate n ' ')

/-- The depth and the statement on a line that is not blank and neither opens nor closes a block. -/
def readLine (n : Nat) (line : List Char) : Option (Nat × String) :=
  let text := line.dropWhile (· == ' ')
  if text = [] ∨ line.getLast? = some '{' ∨ text.head? = some '}' then none
  else some ((line.takeWhile (· == ' ')).length / n, String.ofList text)

/-- The statements of a text that is indented by a number of spaces for each block. -/
def readBack (isBreak : Char → Bool) (n : Nat) (text : String) : List (Nat × String) :=
  (text.toList.splitOnP isBreak).filterMap (readLine n)

/-! Single lines. -/

theorem toList_indentation (n depth : Nat) :
    (indentation (spaces n) depth).toList = List.replicate (n * depth) ' ' := by
  induction depth with
  | zero => rfl
  | succ depth ih =>
    have once : (spaces n).toList = List.replicate n ' ' := String.toList_ofList
    rw [indentation, String.toList_append, ih, once, List.replicate_append_replicate]
    congr 1
    rw [Nat.mul_succ, Nat.add_comm]

theorem dropWhile_replicate_append (k : Nat) {text : List Char} (start : text.head? ≠ some ' ') :
    (List.replicate k ' ' ++ text).dropWhile (· == ' ') = text := by
  apply dropWhile_append_of_stops
  · intro c member
    have same : c = ' ' := List.eq_of_mem_replicate member
    simp [same]
  · intro c first
    have differs : c ≠ ' ' := fun same => start (same ▸ first)
    simpa using differs

theorem readLine_nil (n : Nat) : readLine n [] = none := rfl

theorem readLine_of_opening {line : List Char} (n : Nat) (opens : line.getLast? = some '{') :
    readLine n line = none := by
  unfold readLine
  exact if_pos (.inr (.inl opens))

theorem readLine_of_closing (n k : Nat) (text : List Char) :
    readLine n (List.replicate k ' ' ++ '}' :: text) = none := by
  have left : (List.replicate k ' ' ++ '}' :: text).dropWhile (· == ' ') = '}' :: text :=
    dropWhile_replicate_append k (by simp)
  unfold readLine
  rw [left]
  exact if_pos (.inr (.inr rfl))

theorem readLine_of_plain {n : Nat} (positive : 0 < n) (depth : Nat) {line : String}
    (nonblank : line ≠ "") (plain : IsPlainLine line) :
    readLine n (List.replicate (n * depth) ' ' ++ line.toList) = some (depth, line) := by
  have nonempty : line.toList ≠ [] := by simpa using nonblank
  have left := dropWhile_replicate_append (n * depth) plain.indented
  have front : (List.replicate (n * depth) ' ' ++ line.toList).takeWhile (· == ' ')
      = List.replicate (n * depth) ' ' := by
    have both := List.takeWhile_append_dropWhile (p := (· == ' '))
      (l := List.replicate (n * depth) ' ' ++ line.toList)
    rw [left] at both
    exact List.append_cancel_right both
  have last : (List.replicate (n * depth) ' ' ++ line.toList).getLast? = line.toList.getLast? := by
    obtain ⟨c, final⟩ : ∃ c, line.toList.getLast? = some c :=
      Option.isSome_iff_exists.mp (by simpa using nonempty)
    rw [List.getLast?_append, final, Option.some_or]
  have kept : ¬ (line.toList = [] ∨ line.toList.getLast? = some '{'
      ∨ line.toList.head? = some '}') := by
    rintro (empty | opens | closes)
    · exact nonempty empty
    · exact plain.opening opens
    · exact plain.closing closes
  unfold readLine
  simp only [left, front, last, if_neg kept, List.length_replicate, String.ofList_toList,
    Nat.mul_div_cancel_left depth positive]

section Unbroken

variable {isBreak : Char → Bool}

theorem IsUnbroken.append {a b : String} (left : IsUnbroken isBreak a)
    (right : IsUnbroken isBreak b) : IsUnbroken isBreak (a ++ b) := by
  intro c member
  rw [String.toList_append, List.mem_append] at member
  exact member.elim (left c) (right c)

theorem isUnbroken_empty : IsUnbroken isBreak "" := nofun

variable (breaks : IsBreakClass isBreak)
include breaks

theorem isUnbroken_indentation (n depth : Nat) :
    IsUnbroken isBreak (indentation (spaces n) depth) := by
  intro c member
  rw [toList_indentation] at member
  rw [List.eq_of_mem_replicate member, breaks.space]

theorem isUnbroken_opening {frame : Frame} (header : IsUnbroken isBreak frame.header) :
    IsUnbroken isBreak frame.opening := by
  unfold Frame.opening
  split
  · refine header.append fun c member => ?_
    obtain rfl : c = '{' := by simpa using member
    exact breaks.opening
  · refine header.append fun c member => ?_
    have either : c = ' ' ∨ c = '{' := by simpa using member
    rcases either with rfl | rfl
    · exact breaks.space
    · exact breaks.opening

theorem isUnbroken_closing {frame : Frame} (termination : IsUnbroken isBreak frame.termination) :
    IsUnbroken isBreak frame.closing := by
  unfold Frame.closing
  refine IsUnbroken.append ?_ termination
  split
  · intro c member
    have either : c = '}' ∨ c = ')' := by simpa using member
    rcases either with rfl | rfl
    · exact breaks.closing
    · exact breaks.parenthesis
  · intro c member
    obtain rfl : c = '}' := by simpa using member
    exact breaks.closing

end Unbroken

theorem getLast?_opening (frame : Frame) : frame.opening.toList.getLast? = some '{' := by
  unfold Frame.opening
  split <;> simp

theorem exists_closing (frame : Frame) : ∃ rest, frame.closing.toList = '}' :: rest := by
  unfold Frame.closing
  split
  · exact ⟨')' :: frame.termination.toList, by simp⟩
  · exact ⟨frame.termination.toList, by simp⟩

/-! All lines of a tree. -/

/-- Lines without breaks in them from which the given statements are read. -/
structure ReadsAs (isBreak : Char → Bool) (n : Nat) (ls : List String)
    (items : List (Nat × String)) : Prop where
  unbroken : ∀ line ∈ ls, IsUnbroken isBreak line
  read : ls.filterMap (fun line => readLine n line.toList) = items

variable {isBreak : Char → Bool} {n : Nat} {ls ls' : List String}
  {items items' : List (Nat × String)}

theorem ReadsAs.nil : ReadsAs isBreak n [] [] := ⟨nofun, rfl⟩

theorem ReadsAs.append (first : ReadsAs isBreak n ls items)
    (second : ReadsAs isBreak n ls' items') : ReadsAs isBreak n (ls ++ ls') (items ++ items') := by
  constructor
  · intro line member
    exact (List.mem_append.mp member).elim (first.unbroken line) (second.unbroken line)
  · rw [List.filterMap_append, first.read, second.read]

theorem ReadsAs.skip {line : String} (unbroken : IsUnbroken isBreak line)
    (skipped : readLine n line.toList = none) : ReadsAs isBreak n [line] [] := by
  constructor
  · intro other member
    rwa [List.mem_singleton.mp member]
  · rw [List.filterMap_cons, skipped, List.filterMap_nil]

theorem readsAs_gap (previous : Option Code) : ReadsAs isBreak n (gap previous) [] := by
  unfold gap
  split
  · exact .skip isUnbroken_empty (readLine_nil n)
  · exact .nil

section Tree

variable (breaks : IsBreakClass isBreak)
include breaks

theorem readsAs_opening {frame : Frame} (header : IsUnbroken isBreak frame.header) (depth : Nat) :
    ReadsAs isBreak n [indentation (spaces n) depth ++ frame.opening] [] := by
  refine .skip ((isUnbroken_indentation breaks n depth).append
    (isUnbroken_opening breaks header)) ?_
  apply readLine_of_opening
  rw [String.toList_append, List.getLast?_append, getLast?_opening]
  rfl

theorem readsAs_closing {frame : Frame} (termination : IsUnbroken isBreak frame.termination)
    (depth : Nat) : ReadsAs isBreak n [indentation (spaces n) depth ++ frame.closing] [] := by
  refine .skip ((isUnbroken_indentation breaks n depth).append
    (isUnbroken_closing breaks termination)) ?_
  obtain ⟨rest, closes⟩ := exists_closing frame
  rw [String.toList_append, toList_indentation, closes]
  exact readLine_of_closing n (n * depth) rest

variable (positive : 0 < n)
include positive

theorem readsAs_statement {line : String} (unbroken : IsUnbroken isBreak line)
    (plain : line ≠ "" → IsPlainLine line) (depth : Nat) (previous : Option Code) :
    ReadsAs isBreak n (lines (spaces n) depth previous (.statement line))
      (statements depth (.statement line)) := by
  rw [lines, statements]
  by_cases empty : line = ""
  · rw [if_pos empty, if_pos empty]
    exact .skip isUnbroken_empty (readLine_nil n)
  · rw [if_neg empty, if_neg empty]
    constructor
    · intro other member
      rw [List.mem_singleton.mp member]
      exact (isUnbroken_indentation breaks n depth).append unbroken
    · rw [List.filterMap_cons, String.toList_append, toList_indentation,
        readLine_of_plain positive depth empty (plain empty), List.filterMap_nil]

omit breaks positive in
/-- The lines of a body are read as its statements if those of its parts are. -/
theorem readsAs_body {body : List Code} (depth : Nat)
    (parts : ∀ c ∈ body, ∀ previous,
      ReadsAs isBreak n (lines (spaces n) depth previous c) (statements depth c))
    (previous : Option Code) :
    ReadsAs isBreak n (bodyLines (spaces n) depth previous body) (bodyStatements depth body) := by
  induction body generalizing previous with
  | nil =>
    rw [bodyLines, bodyStatements]
    exact .nil
  | cons c rest ih =>
    obtain ⟨first, others⟩ := List.forall_mem_cons.mp parts
    rw [bodyLines, bodyStatements]
    exact (first previous).append (ih others (some c))

/-- The lines of code are read as its statements: by induction on the tree, at every depth. -/
theorem readsAs_lines {c : Code} (readable : IsReadable isBreak c) (depth : Nat)
    (previous : Option Code) :
    ReadsAs isBreak n (lines (spaces n) depth previous c) (statements depth c) := by
  induction readable generalizing depth previous with
  | statement unbroken plain =>
    exact readsAs_statement breaks positive unbroken plain depth previous
  | @block frame body header termination inner ih =>
    have parts := readsAs_body (depth + 1) (fun c member => ih c member (depth + 1)) none
    rw [lines, statements]
    have front := (readsAs_gap previous).append (readsAs_opening (n := n) breaks header depth)
    have whole := (front.append parts).append (readsAs_closing (n := n) breaks termination depth)
    simpa using whole

omit positive in
/-- The breaks between lines part them again; only the end of the text adds an empty line. -/
theorem splitOnP_intercalate {ls : List (List Char)}
    (unbroken : ∀ line ∈ ls, ∀ c ∈ line, isBreak c = false) :
    (['\n'].intercalate ls ++ ['\n']).splitOnP isBreak
      = (if ls = [] then [[]] else ls) ++ [[]] := by
  have ends : ∀ line : List Char, (∀ c ∈ line, isBreak c = false) → ∀ rest,
      (line ++ '\n' :: rest).splitOnP isBreak = line :: rest.splitOnP isBreak :=
    fun line inside rest =>
      List.splitOnP_append_cons_of_forall_mem inside '\n' breaks.lineFeed rest
  induction ls with
  | nil => exact ends [] nofun []
  | cons line rest ih =>
    obtain ⟨inside, others⟩ := List.forall_mem_cons.mp unbroken
    cases rest with
    | nil => exact (by simpa using ends line inside [])
    | cons next rest =>
      rw [List.intercalate_cons_cons, List.append_assoc, List.append_assoc,
        List.singleton_append, ends line inside, ih others]
      simp

omit positive in
theorem readBack_textOfLines (reads : ReadsAs isBreak n ls items) :
    readBack isBreak n (textOfLines ls) = items := by
  have feed : ("\n" : String).toList = ['\n'] := rfl
  have unbroken : ∀ line ∈ ls.map String.toList, ∀ c ∈ line, isBreak c = false := by
    intro line member
    obtain ⟨text, among, rfl⟩ := List.mem_map.mp member
    exact reads.unbroken text among
  have parted := splitOnP_intercalate breaks unbroken
  have read := reads.read
  rw [readBack, textOfLines, String.toList_append, String.toList_intercalate, feed, parted,
    List.filterMap_append]
  have last : [[]].filterMap (readLine n) = [] := rfl
  by_cases empty : ls = []
  · subst empty
    simpa [last] using read
  · rw [if_neg (by simpa using empty), last, List.append_nil, List.filterMap_map]
    exact read

end Tree

/--
From the text of a block without a header, indented by any positive number of spaces, its statements
are read back in order, each with the number of blocks around it.
-/
theorem readBack_renderBlock (breaks : IsBreakClass isBreak) {frame : Frame}
    (headless : frame.header = "") {body : List Code}
    (readable : ∀ c ∈ body, IsReadable isBreak c) (positive : 0 < n) :
    readBack isBreak n (renderBlock (spaces n) frame body) = bodyStatements 0 body := by
  have reads := readsAs_body 0
    (fun c member => readsAs_lines breaks positive (readable c member) 0) none
  rw [renderBlock, if_pos headless]
  exact readBack_textOfLines breaks reads

/-- A call inside a namespace, with statements before, in and behind it. -/
def nestedCode : List Code := [
  .statement "var x;",
  plain "namespace N" [.statement "", .statement "a = 1;", call "f(" ";" [.statement "b"]],
  .statement "done();"]

theorem readBack_renderBlock_nestedCode :
    IsBreakClass (· == '\n') ∧ (⟨"", false, ""⟩ : Frame).header = ""
      ∧ (∀ c ∈ nestedCode, IsReadable (· == '\n') c) ∧ 0 < 4
      ∧ readBack (· == '\n') 4 (renderBlock (spaces 4) ⟨"", false, ""⟩ nestedCode)
        = bodyStatements 0 nestedCode := by
  have breaks : IsBreakClass (· == '\n') := ⟨rfl, rfl, rfl, rfl, rfl⟩
  have line : ∀ text : String, IsUnbroken (· == '\n') text → IsPlainLine text →
      IsReadable (· == '\n') (.statement text) :=
    fun text unbroken looks => .statement unbroken fun _ => looks
  have inner : IsReadable (· == '\n') (call "f(" ";" [.statement "b"]) := by
    refine .block (by decide +kernel) (by decide +kernel) (List.forall_mem_singleton.mpr ?_)
    exact line "b" (by decide +kernel) (by decide +kernel)
  have around : IsReadable (· == '\n') (plain "namespace N"
      [.statement "", .statement "a = 1;", call "f(" ";" [.statement "b"]]) := by
    refine .block (by decide +kernel) (by decide +kernel) ?_
    simp only [List.forall_mem_cons, List.not_mem_nil, false_implies, implies_true, and_true]
    exact ⟨.statement isUnbroken_empty (absurd rfl), line "a = 1;" (by decide +kernel)
      (by decide +kernel), inner⟩
  have readable : ∀ c ∈ nestedCode, IsReadable (· == '\n') c := by
    simp only [nestedCode, List.forall_mem_cons, List.not_mem_nil, false_implies, implies_true,
      and_true]
    exact ⟨line "var x;" (by decide +kernel) (by decide +kernel), around,
      line "done();" (by decide +kernel) (by decide +kernel)⟩
  exact ⟨breaks, rfl, readable, by decide, readBack_renderBlock breaks rfl readable (by decide)⟩

/-- The depths are those of the tree. -/
example : bodyStatements 0 nestedCode
    = [(0, "var x;"), (1, "a = 1;"), (2, "b"), (0, "done();")] := by decide +kernel

end ApiClient.Code
