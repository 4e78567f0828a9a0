import Fieldbus.Json.Reader

/-!
# Passing over values

A value that nobody asks for is checked for its form only: its numbers have no range, its escapes
need no partner, and it may be nested to any depth.
-/
namespace Fieldbus.Json

/-! ## Scalars -/

/-- Any digits. -/
def skipDigits (c : Cursor) : Cursor :=
  c.skip (c.ahead.takeWhile Char.isDigit).length

/-- One digit, then any further ones. -/
def skipSomeDigits (c : Cursor) : Reading Cursor :=
  match c.ahead with
  | [] => c.fail .invalidNumber
  | x :: _ => if x.isDigit then .ok (skipDigits c) else (c.skip 1).fail .invalidNumber

/-- The whole part of a number: a single zero, or digits without a leading zero. -/
def skipWhole (c : Cursor) : Reading Cursor :=
  match c.ahead with
  | '0' :: y :: _ =>
    if y.isDigit then (c.skip 1).failAhead .invalidNumber else .ok (c.skip 1)
  | _ => skipSomeDigits c

/-- The point and the digits behind it, if there is a point. -/
def skipFraction (c : Cursor) : Reading Cursor :=
  match c.ahead with
  | '.' :: rest =>
    match rest with
    | y :: _ =>
      if y.isDigit then .ok (skipDigits (c.skip 1)) else (c.skip 1).failAhead .invalidNumber
    | [] => (c.skip 1).failAhead .invalidNumber
  | _ => .ok c

/-- The power of ten, if there is one. -/
def skipExponent (c : Cursor) : Reading Cursor :=
  match c.ahead with
  | x :: rest =>
    if x = 'e' ∨ x = 'E' then skipSomeDigits (c.skip (1 + (exponentSign rest).2)) else .ok c
  | [] => .ok c

/-- A number, from its sign or first digit on. -/
def skipNumber (c : Cursor) : Reading Cursor := do
  let c ← skipWhole (if c.ahead.head? = some '-' then c.skip 1 else c)
  skipExponent (← skipFraction c)

/-- An escape, from behind its backslash. -/
def skipEscape (c : Cursor) : Reading Cursor :=
  match c.ahead with
  | [] => c.fail .endInString
  | x :: _ =>
    if x = 'u' then do
      let (_, c) ← unit16 (c.skip 1)
      return c
    else if (shortEscape? x).isSome then .ok (c.skip 1)
    else (c.skip 1).fail .invalidEscape

/-- The characters up to and with the closing quote. -/
def skipText : Nat → Cursor → Reading Cursor
  | 0, c => c.fail .endInString
  | steps + 1, c =>
    match c.ahead with
    | [] => c.fail .endInString
    | x :: rest =>
      if x = '"' then .ok (c.skip 1)
      else if x = '\\' then do skipText steps (← skipEscape (c.skip 1))
      else if x.toNat < 0x20 then c.fail .controlCharacter
      else skipText steps ⟨c.offset + x.utf8Size, rest⟩

/-- The name of a member and its colon. -/
def skipName (c : Cursor) : Reading Cursor := do
  let c := c.skipLayout
  match c.ahead with
  | [] => c.failAhead .endInObject
  | '"' :: _ => colon (← skipText c.ahead.length (c.skip 1))
  | _ => c.failAhead .keyNotString

/-! ## Values -/

mutual

/-- A value. Every second step at the least takes a character. -/
def skipSteps : Nat → Cursor → Reading Cursor
  | 0, c => c.failAhead .endInValue
  | steps + 1, c => do
    let c := c.skipLayout
    match c.ahead with
    | [] => c.failAhead .endInValue
    | x :: _ =>
      if x = 'n' then (c.skip 1).word "ull".toList
      else if x = 't' then (c.skip 1).word "rue".toList
      else if x = 'f' then (c.skip 1).word "alse".toList
      else if x = '"' then skipText c.ahead.length (c.skip 1)
      else if x = '-' || x.isDigit then skipNumber c
      else if x = '[' then
        let c := (c.skip 1).skipLayout
        match c.ahead with
        | [] => c.failAhead .endInList
        | ']' :: _ => return c.skip 1
        | _ => skipItems steps c
      else if x = '\x7b' then
        let c := (c.skip 1).skipLayout
        match c.ahead with
        | [] => c.failAhead .endInObject
        | '\x7d' :: _ => return c.skip 1
        | _ => skipMembers steps c
      else c.failAhead .expectedValue

/-- The items of an array from the next one on, and its closing bracket. -/
def skipItems : Nat → Cursor → Reading Cursor
  | 0, c => c.failAhead .endInList
  | steps + 1, c => do
    let c := (← skipSteps steps c).skipLayout
    match c.ahead with
    | [] => c.failAhead .endInList
    | ',' :: _ => skipItems steps (c.skip 1)
    | ']' :: _ => return c.skip 1
    | _ => c.failAhead .expectedCommaOrBracket

/-- The members of an object from the next one on, and its closing brace. -/
def skipMembers : Nat → Cursor → Reading Cursor
  | 0, c => c.failAhead .endInObject
  | steps + 1, c => do
    let c := (← skipSteps steps (← skipName c)).skipLayout
    match c.ahead with
    | [] => c.failAhead .endInObject
    | ',' :: _ => skipMembers steps (c.skip 1)
    | '\x7d' :: _ => return c.skip 1
    | _ => c.failAhead .expectedCommaOrBrace

end

/-- Passes over a value. -/
def skipValue (c : Cursor) : Reading Cursor :=
  skipSteps (2 * c.ahead.length + 2) c

end Fieldbus.Json
