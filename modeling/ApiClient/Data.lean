import ApiClient.Moment
import ApiClient.Number.Shortest
import ApiClient.Text.Quoted

/-!
The tree that a JSON or YAML file stands for.

Members of an object keep their order; a key that is written twice keeps its first place and its
last value. Keys may be any scalar, and two of them are the same key when they are equal as
numbers, as moments or as values. A text may fail to stand for a tree in two ways: it breaks the
rules of its format, or it keeps them and writes a value that there is not.
-/

set_option autoImplicit false

namespace ApiClient

/-- A value without parts. Integers and floating-point numbers stay apart. -/
inductive Scalar
  | null
  | bool (value : Bool)
  | int (value : Int)
  | float (value : Double)
  | text (value : String)
  | moment (value : Moment)
  | binary (value : List UInt8)
deriving DecidableEq, Repr, Inhabited

/-- The number of decimal digits that an integer may be read from or written with. -/
def maxDigits : Nat := 4300

/-- Why a value has no place in a tree, though it is written by the rules. -/
inductive Unfit
  | longInteger
  | hugeNumber
  | noDigits
  | emptyNumber
  | noTruth
  | noStamp
  | noMoment
  | noCharacter
  | hugeCharacter
deriving DecidableEq, Repr

/-- Why a text stands for no tree. -/
inductive ReadFault
  | malformed
  | unfit (reason : Unfit)
deriving DecidableEq, Repr

/-- A decoded file. -/
inductive Data
  | scalar (value : Scalar)
  | list (items : List Data)
  | object (members : List (Scalar × Data))
deriving Repr, Inhabited

namespace Double

/-- Digits with a point, after which at least one digit stands. -/
private def positional (digits : List Char) (point : Int) : String :=
  if point ≤ 0 then
    String.ofList ('0' :: '.' :: (List.replicate (-point).toNat '0' ++ digits))
  else
    let n := point.toNat
    let whole := digits.take n ++ List.replicate (n - digits.length) '0'
    let rest := digits.drop n
    String.ofList (whole ++ '.' :: (if rest.isEmpty then ['0'] else rest))

/-- One digit before the point, and an exponent with a sign and at least two digits. -/
private def scientific (digits : List Char) (exponent : Int) : String :=
  let fraction := match digits.drop 1 with
    | [] => []
    | rest => '.' :: rest
  let size := Nat.toDigits 10 exponent.natAbs
  let sign := if exponent < 0 then '-' else '+'
  let padded := if size.length < 2 then '0' :: size else size
  String.ofList (digits.take 1 ++ fraction ++ 'e' :: sign :: padded)

/-- The shortest text that reads back: positional from `10 ^ -4` up to below `10 ^ 16`. -/
def display (x : Double) : String :=
  match x.value with
  | .undefined => "nan"
  | .infinite negative => if negative then "-inf" else "inf"
  | .finite negative m e =>
    let sign := if negative then "-" else ""
    if m == 0 then sign ++ "0.0"
    else
      let d := shortest m e
      let digits := Nat.toDigits 10 d.digits
      let leading : Int := d.exponent + digits.length - 1
      if -4 ≤ leading && leading < 16 then sign ++ positional digits (leading + 1)
      else sign ++ scientific digits leading

end Double

/-- Bytes between quotes, each as a printable character or an escape. -/
def bytesText (bytes : List UInt8) : String :=
  let codes := bytes.map UInt8.toNat
  let quote := if codes.contains 0x27 && !codes.contains 0x22 then '\x22' else '\x27'
  let shown (code : Nat) : List Char :=
    if code < 0x80 then Text.quotedChar quote (Char.ofNat code) else Text.codeEscape code
  String.ofList ('b' :: quote :: (codes.flatMap shown ++ [quote]))

namespace Scalar

/-- The text of a value inside another text. -/
def display : Scalar → String
  | null => "None"
  | bool b => if b then "True" else "False"
  | int i => toString i
  | float x => x.display
  | text s => s
  | moment m => m.display
  | binary bytes => bytesText bytes

/-- Whether a value has a text: an integer with too many digits has none. -/
def isWritable : Scalar → Bool
  | int i => decide (i.natAbs < Nat.pow 10 maxDigits)
  | _ => true

/-- Truth values and whole numbers as integers, so that equal numbers are equal keys. -/
def asKey : Scalar → Scalar
  | bool b => int (if b then 1 else 0)
  | float x => match x.toInt? with
    | some i => int i
    | none => float x
  | s => s

/-- Whether two values are the same key. -/
def isSameKey : Scalar → Scalar → Bool
  | moment m, moment n => m.isSame n
  | s, t => s.asKey == t.asKey

end Scalar

namespace Data

/-- Set a member: in its first place when the key is there, else at the end. -/
def put (key : Scalar) (value : Data) : List (Scalar × Data) → List (Scalar × Data)
  | [] => [(key, value)]
  | (k, v) :: rest =>
    if k.isSameKey key then (k, value) :: rest else (k, v) :: put key value rest

/-- The members in the order written, each key once. -/
def ofPairs (pairs : List (Scalar × Data)) : Data :=
  .object (pairs.foldl (fun members (key, value) => put key value members) [])

/-- A text as a tree. -/
def ofText (s : String) : Data := .scalar (.text s)

/-- An object whose keys are texts, all different. -/
def ofFields (fields : List (String × Data)) : Data :=
  .object (fields.map fun (name, value) => (.text name, value))

end Data

end ApiClient
