import Fieldbus.Json.Cursor

/-!
# Reading JSON numbers

A number without point and exponent is an integer if it fits 64 bits. Any other is the product, or
the quotient, of its digits and a power of ten, both taken as floating point numbers. Digits that
would carry the significand past 64 bits are dropped.
-/
namespace Fieldbus.Json

open Decimal (Binary64)

/-! ## Parts of a numeral -/

/-- The digits of the whole part: a single zero, or digits without a leading zero. -/
def wholeDigits (c : Cursor) : Reading (List Char × Cursor) :=
  match c.ahead with
  | [] => c.fail .endInValue
  | x :: rest =>
    if x = '0' then
      match rest with
      | y :: _ => if y.isDigit then (c.skip 1).failAhead .invalidNumber else .ok (['0'], c.skip 1)
      | [] => .ok (['0'], c.skip 1)
    else if x.isDigit then
      let digits := c.ahead.takeWhile Char.isDigit
      .ok (digits, c.skip digits.length)
    else
      (c.skip 1).fail .invalidNumber

/-- The digits behind the point, if there is a point. -/
def fractionDigits (c : Cursor) : Reading (Option (List Char) × Cursor) :=
  match c.ahead with
  | '.' :: rest =>
    let digits := rest.takeWhile Char.isDigit
    if digits.isEmpty then
      (c.skip 1).failAhead (if rest.isEmpty then .endInValue else .invalidNumber)
    else
      .ok (some digits, c.skip (1 + digits.length))
  | _ => .ok (none, c)

/-- The greatest exponent that is still worked out. -/
def greatestExponent : Nat := 2147483647

/-- How many digits it takes to pass the greatest exponent, if they do. -/
def exponentOverflow? (value taken : Nat) : List Char → Option Nat
  | [] => none
  | d :: rest =>
    let value := value * 10 + (d.toNat - '0'.toNat)
    if greatestExponent < value then some (taken + 1) else exponentOverflow? value (taken + 1) rest

/-- Whether an exponent goes down, and how many characters its sign takes. -/
def exponentSign : List Char → Bool × Nat
  | '+' :: _ => (false, 1)
  | '-' :: _ => (true, 1)
  | _ => (false, 0)

/-- The power of ten behind the digits, if there is one. With a significand other than zero, an
exponent that passes the greatest one is out of range as soon as it does. -/
def exponentPart (isZero : Bool) (c : Cursor) : Reading (Option Int × Cursor) :=
  match c.ahead with
  | x :: rest =>
    if x = 'e' ∨ x = 'E' then
      let (down, signLength) := exponentSign rest
      let c := c.skip (1 + signLength)
      match c.ahead with
      | [] => c.fail .endInValue
      | y :: _ =>
        if y.isDigit then
          let digits := c.ahead.takeWhile Char.isDigit
          let size := Nat.ofDigitChars 10 digits 0
          match exponentOverflow? 0 0 digits with
          | some taken =>
            if !isZero && !down then (c.skip taken).fail .numberOutOfRange
            else .ok (some (if down then -size else size), c.skip digits.length)
          | none => .ok (some (if down then -size else size), c.skip digits.length)
        else
          (c.skip 1).fail .invalidNumber
    else
      .ok (none, c)
  | [] => .ok (none, c)

/-! ## Values -/

/-- Takes digits into a significand as long as it stays below `2 ^ 64`, and returns those left. -/
def absorb (significand : Nat) : List Char → Nat × List Char
  | [] => (significand, [])
  | d :: rest =>
    let next := significand * 10 + (d.toNat - '0'.toNat)
    if next < 0x10000000000000000 then absorb next rest else (significand, d :: rest)

/-- A power of ten up to `10 ^ 308`, the greatest that a floating point number reaches. -/
def powerOfTen (n : Nat) : Float :=
  Float.ofScientific 1 false n

/-- Divides by a power of ten, `10 ^ 308` at a time while the power is greater than that. -/
def scaleDown (x : Float) (n : Nat) : Float :=
  if n ≤ 308 then x / powerOfTen n
  else if x == 0 then x
  else scaleDown (x / powerOfTen 308) (n - 308)
termination_by n

/-- Multiplies by a power of ten, unless the product is too great. -/
def scale (x : Float) (exponent : Int) : Option Float :=
  if exponent < 0 then some (scaleDown x exponent.natAbs)
  else if exponent ≤ 308 then
    let y := x * powerOfTen exponent.natAbs
    if y.isInf then none else some y
  else if x == 0 then some x
  else none

/-- The integer that a sign and a significand stand for, if it fits 64 bits and is not a negative
zero. -/
def integer? (negative : Bool) (significand : Nat) : Option Number :=
  if negative then
    if h : 0 < significand ∧ significand ≤ 0x8000000000000000 then
      some (.integer (-significand) (by omega))
    else none
  else if h : significand < 0x10000000000000000 then some (.integer significand (by omega))
  else none

/-- A number, from its sign or first digit on. -/
def numeralReader (c : Cursor) : Reading (Number × Cursor) := do
  let negative := c.ahead.head? = some '-'
  let (whole, c) ← wholeDigits (if negative then c.skip 1 else c)
  let (significand, dropped) := absorb 0 whole
  let (fraction, c) ← fractionDigits c
  let (significand, left) := absorb significand (fraction.getD [])
  let (exponent, c) ← exponentPart (significand = 0) c
  let signed (x : Float) : Number := .float (.ofFloat (if negative then -x else x))
  let approximate := (UInt64.ofNat significand).toFloat
  if fraction.isNone && exponent.isNone && dropped.isEmpty then
    return ((integer? negative significand).getD (signed approximate), c)
  else
    let shift := (dropped.length : Int) - ((fraction.getD []).length - left.length : Nat)
    match scale approximate (shift + exponent.getD 0) with
    | some x => return (signed x, c)
    | none => c.fail .numberOutOfRange

end Fieldbus.Json
