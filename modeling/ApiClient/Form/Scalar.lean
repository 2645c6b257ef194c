import ApiClient.Form
import ApiClient.Json.Reader
import ApiClient.Text.Blank
import ApiClient.Text.Case

/-!
Reading single values out of a tree.

Texts are taken as they are; bytes are taken as the text that they encode. Truth values and integers
are also read from numbers and texts that plainly stand for one.
-/

set_option autoImplicit false

namespace ApiClient.Form

/-- The text that bytes encode. -/
def decoded? (bytes : List UInt8) : Option String := String.fromUTF8? ⟨bytes.toArray⟩

/-- A text. -/
def text : Data → Verdict String
  | .scalar (.text s) => .valid s
  | .scalar (.binary bytes) => (decoded? bytes).elim (.fault .textNotUnicode) .valid
  | _ => .fault .notText

/-- A value that may be null. -/
def nullable {α : Type} (read : Data → Verdict α) : Data → Verdict (Option α)
  | .scalar .null => .valid none
  | d => (read d).map some

/-- A list with any number of values. -/
def tuple {α : Type} (read : Data → Verdict α) : Data → Verdict (List α)
  | .list items => Verdict.each read 0 items
  | _ => .fault .notTuple

/-- A list that may grow. -/
def list {α : Type} (read : Data → Verdict α) : Data → Verdict (List α)
  | .list items => Verdict.each read 0 items
  | _ => .fault .notList

/-- The words for a truth value, in any case. -/
def boolWords : List (String × Bool) :=
  [("0", false), ("off", false), ("f", false), ("false", false), ("n", false), ("no", false),
    ("1", true), ("on", true), ("t", true), ("true", true), ("y", true), ("yes", true)]

/-- The truth value of an integer; one beyond the range of integers is not looked at. -/
def boolOfInt (inRange : Bool) (i : Int) : Verdict Bool :=
  if i = 0 then .valid false
  else if i = 1 then .valid true
  else .fault (if inRange then .boolUnreadable else .notBool)

/-- The truth value of a word. -/
def boolOfText (s : String) : Verdict Bool :=
  let word := String.ofList (s.toList.map Char.toLower)
  (boolWords.lookup word).elim (.fault .boolUnreadable) .valid

/-- A truth value. -/
def bool : Data → Verdict Bool
  | .scalar (.bool b) => .valid b
  | .scalar (.int i) => boolOfInt (isInt64 i) i
  | .scalar (.float x) =>
    match x.toInt? with
    | some i => boolOfInt (decide (i.natAbs < Nat.pow 2 63)) i
    | none => .fault .notBool
  | .scalar (.text s) => boolOfText s
  | .scalar (.binary bytes) => (decoded? bytes).elim (.fault .boolUnreadable) boolOfText
  | _ => .fault .notBool

/--
What a number becomes without its leading zeros, of which `last` is the last one read. Underscores
count as zeros, a single zero before a point or at the end is kept, and a sign may follow zeros.
-/
def afterZeros? (last : Char) : List Char → Option (List Char)
  | [] => some [last]
  | c :: cs =>
    if c == '0' || c == '_' then afterZeros? c cs
    else if c.isDigit || c == '-' then some (c :: cs)
    else if c == '.' then some (last :: c :: cs)
    else none

/-- A number without a sign and its leading zeros; it has to start with a digit, or, where the
zeros were, with a minus sign. -/
def withoutZeros? : List Char → Option (List Char)
  | [] => none
  | c :: cs =>
    if c == '0' then afterZeros? c cs
    else if c.isDigit || c == '-' then some (c :: cs)
    else none

/-- A number without its leading zeros, also after a minus sign. -/
def withoutLeadingZeros? : List Char → Option (List Char)
  | '-' :: cs => (withoutZeros? cs).map ('-' :: ·)
  | cs => withoutZeros? cs

/-- A number without its plus sign, which no minus sign may follow. -/
def withoutPlus? : List Char → Option (List Char)
  | '+' :: '-' :: _ => none
  | '+' :: cs => some cs
  | cs => some cs

/-- A number without a point and zeros at its end. -/
def withoutZeroFraction (cs : List Char) : List Char :=
  match cs.dropWhile (· != '.') with
  | _ :: zeros =>
    if !zeros.isEmpty && zeros.all (· == '0') then cs.takeWhile (· != '.') else cs
  | [] => cs

/-- Whether two underscores stand side by side. -/
def hasDoubleUnderscore : List Char → Bool
  | '_' :: '_' :: _ => true
  | _ :: cs => hasDoubleUnderscore cs
  | [] => false

/-- A number without underscores, if each stands alone and inside. -/
def withoutUnderscores (cs : List Char) : List Char :=
  if cs.head? == some '_' || cs.getLast? == some '_' || hasDoubleUnderscore cs then cs
  else cs.filter (· != '_')

/-- A minus sign, if there is one, and what follows it. -/
def splitMinus : List Char → Bool × List Char
  | '-' :: cs => (true, cs)
  | cs => (false, cs)

/-- Whether a text starts with too many digits for an integer. -/
def startsTooLong (cs : List Char) : Bool :=
  let (digits, _) := Json.digits (splitMinus cs).2
  digits.head? != some '0' && decide (maxDigits < digits.length)

/-- An integer in plain digits after a minus sign or none; no zero leads it. -/
def intOfDigits? (cs : List Char) : Option Int :=
  let (negative, size) := splitMinus cs
  let (digits, rest) := Json.digits size
  if digits.isEmpty || !rest.isEmpty || maxDigits < digits.length then none
  else if digits.head? == some '0' && digits != ['0'] then none
  else
    let n : Int := Json.digitsValue digits
    some (if negative then -n else n)

/-- The integer that a text stands for, whose white space and decorations do not count. -/
def intOfText? (s : String) : Option Int := do
  let cs ← withoutPlus? (Text.trimWhile Text.isSpace s.toList)
  let cs ← withoutLeadingZeros? cs
  intOfDigits? (withoutUnderscores (withoutZeroFraction cs))

/-- An integer out of a text; too many digits count only where no decoration stands before them. -/
def intOfText (s : String) : Verdict Int :=
  if startsTooLong s.toList then .fault .intTooLarge
  else
    match intOfText? s with
    | some i => .valid i
    | none => .fault .intUnreadable

/-- An integer. -/
def int : Data → Verdict Int
  | .scalar (.int i) => .valid i
  | .scalar (.bool b) => .valid (if b then 1 else 0)
  | .scalar (.float x) =>
    match x.value with
    | .undefined | .infinite _ => .fault .intNotFinite
    | .finite _ _ _ =>
      match x.toInt? with
      | some i => if i.natAbs < Nat.pow 2 63 then .valid i else .fault .intTooLarge
      | none => .fault .intHasFraction
  | .scalar (.text s) => intOfText s
  | .scalar (.binary bytes) => (decoded? bytes).elim (.fault .intUnreadable) intOfText
  | _ => .fault .notInt

/-- The issues with a value that is none of null, text, integer, number and truth value. -/
def choiceIssues (text int float bool : Fault) : List Issue :=
  [⟨[.member "str"], text⟩, ⟨[.member "int"], int⟩, ⟨[.member "float"], float⟩,
    ⟨[.member "bool"], bool⟩]

/-- Any single value but a moment; bytes are taken as the text that they encode. -/
def scalar : Data → Verdict Scalar
  | .scalar (.moment _) => .invalid (choiceIssues .notText .notInt .notFloat .notBool)
  | .scalar (.binary bytes) =>
    match decoded? bytes with
    | some s => .valid (.text s)
    | none =>
      .invalid (choiceIssues .textNotUnicode .intUnreadable .floatUnreadable .boolUnreadable)
  | .scalar s => .valid s
  | _ => .invalid (choiceIssues .notText .notInt .notFloat .notBool)

end ApiClient.Form
