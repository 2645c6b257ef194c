/-!
Floating-point numbers of 64 bits, held as their bits.

A finite number is `± m · 2 ^ e` with `m < 2 ^ 53` and `e ≥ -1074`; a decimal is read as the
number nearest to it, a tie going to the even neighbour. All arithmetic is exact, on integers.
-/

set_option autoImplicit false

namespace ApiClient

/-- A floating-point number, by its bits: sign, eleven of exponent, fifty-two of fraction. -/
structure Double where
  bits : UInt64
deriving DecidableEq, Repr, Inhabited

namespace Double

/-- What a number stands for. -/
inductive Value
  | undefined
  | infinite (negative : Bool)
  | finite (negative : Bool) (significand : Nat) (exponent : Int)
deriving DecidableEq, Repr

/-- The value that the bits encode. -/
def value (x : Double) : Value :=
  let n : Nat := x.bits.toNat
  let negative := n / Nat.pow 2 63 == 1
  let biased : Nat := n / Nat.pow 2 52 % Nat.pow 2 11
  let fraction : Nat := n % Nat.pow 2 52
  if biased == 2047 then
    if fraction == 0 then .infinite negative else .undefined
  else if biased == 0 then .finite negative fraction (-1074)
  else .finite negative (fraction + Nat.pow 2 52) ((biased : Int) - 1075)

private def ofMagnitude (negative : Bool) (magnitude : Nat) : Double :=
  ⟨UInt64.ofNat (magnitude + if negative then Nat.pow 2 63 else 0)⟩

/-- The result of an undefined operation. -/
def undefined : Double := ofMagnitude false (2047 * Nat.pow 2 52 + Nat.pow 2 51)

/-- Infinity with a sign. -/
def infinity (negative : Bool) : Double := ofMagnitude negative (2047 * Nat.pow 2 52)

/-- A quotient rounded to the nearest integer, a tie to the even one. -/
def roundQuotient (num den : Nat) : Nat :=
  let q := num / den
  let r := num % den
  if 2 * r < den then q
  else if den < 2 * r then q + 1
  else q + q % 2

/-- The fraction `num / (den * 2 ^ e)` as a numerator and a denominator. -/
private def scaled (num den : Nat) (e : Int) : Nat × Nat :=
  if 0 ≤ e then (num, den * Nat.pow 2 e.toNat) else (num * Nat.pow 2 (-e).toNat, den)

/-- The number nearest to `± num / den`, for a positive quotient. -/
def ofFraction (negative : Bool) (num den : Nat) : Double :=
  let high : Int := (num.log2 : Int) - den.log2 - 52
  let (n, d) := scaled num den high
  let normal := if n < d * Nat.pow 2 52 then high - 1 else high
  let e := max normal (-1074)
  let (n, d) := scaled num den e
  let magnitude := (e + 1074).toNat * Nat.pow 2 52 + roundQuotient n d
  if 2047 * Nat.pow 2 52 ≤ magnitude then infinity negative else ofMagnitude negative magnitude

/-- The number nearest to `± digits * 10 ^ exponent`. -/
def ofDecimal (negative : Bool) (digits : Nat) (exponent : Int) : Double :=
  if digits == 0 then ofMagnitude negative 0
  else if 400 < exponent then infinity negative
  else if exponent < -(400 + (digits.log2 : Int)) then ofMagnitude negative 0
  else if 0 ≤ exponent then ofFraction negative (digits * Nat.pow 10 exponent.toNat) 1
  else ofFraction negative digits (Nat.pow 10 (-exponent).toNat)

/-- The number nearest to `± significand * 2 ^ exponent`. -/
def ofBinary (negative : Bool) (significand : Nat) (exponent : Int) : Double :=
  if significand == 0 then ofMagnitude negative 0
  else if 0 ≤ exponent then ofFraction negative (significand * Nat.pow 2 exponent.toNat) 1
  else ofFraction negative significand (Nat.pow 2 (-exponent).toNat)

/-- The number nearest to a natural number, unless that is beyond all numbers. -/
def ofNat? (n : Nat) : Option Double :=
  let x := ofBinary false n 0
  if x = infinity false then none else some x

/-- The number with the other sign. -/
def negate (x : Double) : Double :=
  match x.value with
  | .undefined => x
  | .infinite negative => infinity !negative
  | .finite negative m e => ofBinary (!negative) m e

/-- The product of two numbers. -/
def product (x y : Double) : Double :=
  match x.value, y.value with
  | .finite s m e, .finite t n f => ofBinary (s != t) (m * n) (e + f)
  | .infinite s, .infinite t => infinity (s != t)
  | .infinite s, .finite t n _ | .finite t n _, .infinite s =>
    if n = 0 then undefined else infinity (s != t)
  | _, _ => undefined

/-- A significand in units of a smaller exponent, with its sign. -/
private def inUnits (negative : Bool) (m : Nat) (e least : Int) : Int :=
  let size : Int := (m * Nat.pow 2 (e - least).toNat : Nat)
  if negative then -size else size

/-- The sum of two numbers; that of opposite ones is positive. -/
def sum (x y : Double) : Double :=
  match x.value, y.value with
  | .finite s m e, .finite t n f =>
    let least := min e f
    let total := inUnits s m e least + inUnits t n f least
    ofBinary (if total = 0 then s && t else decide (total < 0)) total.natAbs least
  | .infinite s, .infinite t => if s = t then x else undefined
  | .infinite _, .finite _ _ _ => x
  | .finite _ _ _, .infinite _ => y
  | _, _ => undefined

/-- The integer that a number with no fractional part stands for. -/
def toInt? (x : Double) : Option Int :=
  match x.value with
  | .finite negative m e =>
    let magnitude : Option Nat :=
      if 0 ≤ e then some (m * Nat.pow 2 e.toNat)
      else if m % Nat.pow 2 (-e).toNat == 0 then some (m / Nat.pow 2 (-e).toNat)
      else none
    magnitude.map fun n => if negative then -(n : Int) else n
  | _ => none

end Double

end ApiClient
