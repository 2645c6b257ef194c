/-!
Characters as code units of 16 bits.

A character above U+FFFF is a pair of units, a high and a low surrogate. Reading units back joins
such pairs; a surrogate without its partner stands for no character and becomes U+FFFD.
-/

set_option autoImplicit false

namespace ApiClient.Text

/-- The code units of a character. -/
def units (c : Char) : List Nat :=
  let n := c.toNat
  if n < 0x10000 then [n]
  else [0xD800 + (n - 0x10000) / 0x400, 0xDC00 + (n - 0x10000) % 0x400]

/-- Whether a unit is the first of a pair. -/
def isHighSurrogate (n : Nat) : Bool := decide (0xD800 ≤ n) && decide (n < 0xDC00)

/-- Whether a unit is the second of a pair. -/
def isLowSurrogate (n : Nat) : Bool := decide (0xDC00 ≤ n) && decide (n < 0xE000)

/-- A unit that stands alone. -/
def unitChar (n : Nat) : Char :=
  if isHighSurrogate n || isLowSurrogate n then Char.ofNat 0xFFFD else Char.ofNat n

/-- The characters that units stand for. -/
def ofUnits : List Nat → List Char
  | [] => []
  | [n] => [unitChar n]
  | high :: low :: rest =>
    if isHighSurrogate high && isLowSurrogate low then
      Char.ofNat (0x10000 + (high - 0xD800) * 0x400 + (low - 0xDC00)) :: ofUnits rest
    else unitChar high :: ofUnits (low :: rest)

end ApiClient.Text
