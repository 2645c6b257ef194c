/-!
Bytes written in base 64.

Four digits stand for three bytes. Characters that are no digits do not count; equals signs end the
text where they fill up a group of four.
-/

set_option autoImplicit false

namespace ApiClient.Text

/-- The digits of base 64. -/
def base64Digits : List Char :=
  "ABCDEFGHIJKLMNOPQRSTUVWXYZabcdefghijklmnopqrstuvwxyz0123456789+/".toList

/-- The value of a digit. -/
def base64Value? (c : Char) : Option Nat := base64Digits.idxOf? c

/--
Read on in a group of four, of which `count` digits are read; `left` holds what the last of them
leaves for the next byte. `pads` counts the equals signs since the last digit.
-/
def base64From (count left pads : Nat) : List Char → Option (List UInt8)
  | [] => if count = 0 then some [] else none
  | c :: cs =>
    if c = '=' then
      if 2 ≤ count ∧ 4 ≤ count + (pads + 1) then some []
      else base64From count left (if 2 ≤ count then pads + 1 else pads) cs
    else
      match base64Value? c with
      | none => base64From count left pads cs
      | some v =>
        match count with
        | 0 => base64From 1 v 0 cs
        | 1 => (base64From 2 (v % 16) 0 cs).map (UInt8.ofNat (left * 4 + v / 16) :: ·)
        | 2 => (base64From 3 (v % 4) 0 cs).map (UInt8.ofNat (left * 16 + v / 4) :: ·)
        | _ => (base64From 0 0 0 cs).map (UInt8.ofNat (left * 64 + v) :: ·)

/-- The bytes that a text in base 64 stands for, if its last group is complete. -/
def ofBase64? (cs : List Char) : Option (List UInt8) := base64From 0 0 0 cs

end ApiClient.Text
