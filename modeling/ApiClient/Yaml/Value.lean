import ApiClient.Text.Base64
import ApiClient.Text.Blank
import ApiClient.Text.Digit
import ApiClient.Yaml.Tag

/-!
The values of YAML scalars.

A scalar has a value by its kind and its text, which need not be a spelling of that kind: then it
may have none. Underscores in numbers do not count. The digits of a number may be those of any
script, spaces around it do not count, and after its sign a second one may stand.
-/

set_option autoImplicit false

namespace ApiClient.Yaml

open Text (decimalValue? isSpace trimWhile)

/-- Digits without the underscores between them. -/
def withoutUnderscores (cs : List Char) : List Char := cs.filter (· != '_')

/-- A text in lower case, as far as its letters are those of the words for numbers and truth. -/
def lowered (cs : List Char) : List Char := cs.map Char.toLower

/-- The values of the digits of a number in a base, if there are any and all are below it. -/
def digitValues? (base : Nat) (cs : List Char) : Option (List Nat) := do
  let values ← cs.mapM fun c => (decimalValue? c).or (Json.hexValue? c)
  if !values.isEmpty && values.all (· < base) then return values else none

/-- The number with these digits in a base. -/
def numberOf (base : Nat) (values : List Nat) : Nat := values.foldl (fun n v => n * base + v) 0

/-- A number with a sign. -/
def withSign (negative : Bool) (n : Nat) : Int := if negative then -(n : Int) else n

/-- The letter that announces a base. -/
def baseLetter? (base : Nat) : Option Char :=
  if base = 2 then some 'b' else if base = 8 then some 'o' else if base = 16 then some 'x' else none

/-- A number without the sign of its base. -/
def withoutBase (base : Nat) (cs : List Char) : List Char :=
  match cs with
  | '0' :: letter :: digits => if baseLetter? base = some letter.toLower then digits else cs
  | _ => cs

/-- An integer in a base; a decimal one may have only so many digits. -/
def integer (base : Nat) (cs : List Char) : Except Unfit Int :=
  let (negative, size) := signed (trimWhile isSpace cs)
  match digitValues? base (withoutBase base size) with
  | none => .error .noDigits
  | some values =>
    if base = 10 ∧ maxDigits < values.length then .error .longInteger
    else .ok (withSign negative (numberOf base values))

/-- An integer after its first sign: binary, octal, hexadecimal, sexagesimal or decimal. -/
def magnitude (cs : List Char) : Except Unfit Int :=
  match cs with
  | [] => .error .emptyNumber
  | '0' :: 'b' :: digits => integer 2 digits
  | '0' :: 'x' :: digits => integer 16 digits
  | '0' :: _ => integer 8 cs
  | _ => do
    let (first, others) := splitColons cs
    let parts ← (first :: others).mapM (integer 10)
    return parts.foldl (fun n part => n * 60 + part) 0

/-- The integer that a text stands for. -/
def intOf (cs : List Char) : Except Unfit Int :=
  match withoutUnderscores cs with
  | [] => .error .emptyNumber
  | cs =>
    let (negative, size) := signed cs
    (magnitude size).map fun n => if negative then -n else n

/-- The exponent of a number after its places. -/
def exponent? : List Char → Option Int
  | [] => some 0
  | e :: cs =>
    let (negative, digits) := signed cs
    if e = 'e' then
      (digitValues? 10 digits).map fun values => withSign negative (numberOf 10 values)
    else none

/-- Digits, which there may be none of. -/
def digitsOrNone? (cs : List Char) : Option (List Nat) :=
  if cs.isEmpty then some [] else digitValues? 10 cs

/-- A decimal number in lower case after its sign. -/
def decimal? (negative : Bool) (cs : List Char) : Option Double := do
  let mantissa := cs.takeWhile (· != 'e')
  let whole := mantissa.takeWhile (· != '.')
  let places := mantissa.drop (whole.length + 1)
  let wholeValues ← digitsOrNone? whole
  let placeValues ← digitsOrNone? places
  let power ← exponent? (cs.drop mantissa.length)
  let values := wholeValues ++ placeValues
  if values.isEmpty then none
  else
    return Double.ofDecimal negative (numberOf 10 values) (power - placeValues.length)

/-- A number in lower case. -/
def real (cs : List Char) : Except Unfit Double :=
  let (negative, size) := signed (trimWhile isSpace cs)
  let word := String.ofList size
  if word == "inf" || word == "infinity" then .ok (Double.infinity negative)
  else if word == "nan" then .ok Double.undefined
  else
    match decimal? negative size with
    | some x => .ok x
    | none => .error .noDigits

/-- Add numbers to a total, each in units of sixty times those of the one before. -/
def addSixtieths (total : Double) (unit : Nat) : List Double → Except Unfit Double
  | [] => .ok total
  | x :: rest =>
    match Double.ofNat? unit with
    | some u => addSixtieths (total.sum (x.product u)) (unit * 60) rest
    | none => .error .hugeNumber

/-- A number in lower case after its first sign; sixtieths are added from the last one on. -/
def realOrSixtieths (cs : List Char) : Except Unfit Double :=
  match splitColons cs with
  | (first, []) =>
    if first == ".inf".toList then .ok (Double.infinity false)
    else if first == ".nan".toList then .ok Double.undefined
    else real first
  | (first, others) => do
    let parts ← (first :: others).mapM real
    addSixtieths (Double.ofDecimal false 0 0) 1 parts.reverse

/-- The floating-point number that a text stands for. -/
def floatOf (cs : List Char) : Except Unfit Double :=
  match lowered (withoutUnderscores cs) with
  | [] => .error .emptyNumber
  | cs =>
    let (negative, size) := signed cs
    (realOrSixtieths size).map fun x => if negative then x.negate else x

/-- The words for truth values. -/
def truths : List (String × Bool) :=
  [("yes", true), ("no", false), ("true", true), ("false", false), ("on", true), ("off", false)]

/-- The truth value that a text stands for. -/
def boolOf (cs : List Char) : Except Unfit Bool :=
  match truths.lookup (String.ofList (lowered cs)) with
  | some b => .ok b
  | none => .error .noTruth

/-- The moment that a text stands for; a line break at its end does not count. -/
def momentOf (cs : List Char) : Except Unfit Moment :=
  match stamp? (if cs.getLast? = some '\n' then cs.dropLast else cs) with
  | some m => if m.isValid then .ok m else .error .noMoment
  | none => .error .noStamp

/-- A value that may be unfit. -/
def fit {α : Type} (make : α → Scalar) : Except Unfit α → Except ReadFault Scalar
  | .ok a => .ok (make a)
  | .error reason => .error (.unfit reason)

/-- The value of a scalar of a kind. The signs of merges and of defaults have none. -/
def Tag.value (cs : List Char) : Tag → Except ReadFault Scalar
  | null => .ok .null
  | bool => fit .bool (boolOf cs)
  | int => fit .int (intOf cs)
  | float => fit .float (floatOf cs)
  | binary =>
    if cs.all (·.toNat < 0x80) then
      (Text.ofBase64? cs).elim (.error .malformed) fun bytes => .ok (.binary bytes)
    else .error .malformed
  | moment => fit .moment (momentOf cs)
  | text => .ok (.text (String.ofList cs))
  | list | mapping | set | pairs | merge | default | unknown => .error .malformed

end ApiClient.Yaml
