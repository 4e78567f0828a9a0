import Fieldbus.Dictionary
import Fieldbus.Json.Head

/-!
# Readers of typed values

A reader is given how many arrays and objects may still be entered. It checks types as it goes: the
first thing that is wrong ends the reading, be it the form of the text or the type of a value.
-/
namespace Fieldbus.Json

/-- Reads a value at a place, entering at most so many arrays and objects. -/
abbrev Reader (α : Type) := Nat → Cursor → Reading (α × Cursor)

variable {α : Type}

/-! ## Scalars -/

/-- Reads an unsigned integer below a bound. -/
def unsignedReader (expected : String) (bound : Nat) : Reader Nat := fun _ c => do
  let (head, c) ← headReader c
  match head with
  | .number (.integer value _) =>
    if 0 ≤ value ∧ value < bound then return (value.toNat, c)
    else c.fail (.wrongInteger value expected)
  | other => other.mismatch expected c

/-- Reads a byte. -/
def byteReader : Reader UInt8 := fun depth c => do
  let (n, c) ← unsignedReader "u8" 256 depth c
  return (UInt8.ofNat n, c)

/-- Reads a number of 16 bits. -/
def codeReader : Reader UInt16 := fun depth c => do
  let (n, c) ← unsignedReader "u16" 65536 depth c
  return (UInt16.ofNat n, c)

/-- Reads a text. -/
def stringReader : Reader String := fun _ c => do
  let (head, c) ← headReader c
  match head with
  | .text s => return (s, c)
  | other => other.mismatch "a string" c

/-- Reads a text, or `null` for none. -/
def optionalStringReader : Reader (Option String) := fun _ c => do
  let (head, c) ← headReader c
  match head with
  | .null => return (none, c)
  | .text s => return (some s, c)
  | other => other.mismatch "a string" c

/-- Reads `null`. -/
def nullReader : Reader Unit := fun _ c => do
  let (head, c) ← headReader c
  match head with
  | .null => return ((), c)
  | other => other.mismatch "unit" c

/-! ## Entering and leaving -/

/-- Reads what lies behind an opening bracket, unless no further one may be entered. -/
def entered (depth : Nat) (body : Reader α) (c : Cursor) : Reading (α × Cursor) :=
  match depth with
  | 0 => c.failAhead .nestedTooDeep
  | depth + 1 => body depth (c.skip 1)

/-- Where the reader of an array stands once it gives up: behind its closing bracket if that comes
next, else behind a comma. -/
def settleInList (c : Cursor) : Cursor :=
  let c := c.skipLayout
  match c.ahead with
  | ']' :: _ => c.skip 1
  | ',' :: _ => (c.skip 1).skipLayout
  | _ => c

/-- Where the reader of an object stands once it gives up: behind its closing brace if that comes
next. -/
def settleInObject (c : Cursor) : Cursor :=
  let c := c.skipLayout
  match c.ahead with
  | '\x7d' :: _ => c.skip 1
  | _ => c

/-- Passes over the closing bracket of an array all of whose items have been read. -/
def closeList (c : Cursor) : Reading Cursor :=
  let c := c.skipLayout
  match c.ahead with
  | [] => c.failAhead .endInList
  | ']' :: _ => .ok (c.skip 1)
  | ',' :: _ =>
    let c := (c.skip 1).skipLayout
    match c.ahead with
    | ']' :: _ => c.failAhead .trailingComma
    | _ => c.failAhead .trailingCharacters
  | _ => c.failAhead .trailingCharacters

/-- Passes over the closing brace of an object all of whose members have been read. -/
def closeObject (c : Cursor) : Reading Cursor :=
  let c := c.skipLayout
  match c.ahead with
  | [] => c.failAhead .endInObject
  | '\x7d' :: _ => .ok (c.skip 1)
  | ',' :: _ => c.failAhead .trailingComma
  | _ => c.failAhead .trailingCharacters

/-- An array from its opening to its closing bracket. A fault in it that still waits for its place
gets it here. -/
def inList (depth : Nat) (body : Reader α) (c : Cursor) : Reading (α × Cursor) := do
  let (a, c) ← (entered depth body c).mapError (·.placed settleInList)
  return (a, ← closeList c)

/-- An object from its opening to its closing brace. A fault in it that still waits for its place
gets it here. -/
def inObject (depth : Nat) (body : Reader α) (c : Cursor) : Reading (α × Cursor) := do
  let (a, c) ← (entered depth body c).mapError (·.placed settleInObject)
  return (a, ← closeObject c)

/-! ## Arrays -/

/-- Goes to the next item of an array: `none` in front of the closing bracket. -/
def nextItem (first : Bool) (c : Cursor) : Reading (Option Cursor) :=
  let c := c.skipLayout
  match c.ahead with
  | [] => c.failAhead .endInList
  | x :: _ =>
    if x = ']' then .ok none
    else if first then .ok (some c)
    else if x = ',' then
      let c := (c.skip 1).skipLayout
      match c.ahead with
      | [] => c.failAhead .endInValue
      | ']' :: _ => c.failAhead .trailingComma
      | _ => .ok (some c)
    else c.failAhead .expectedCommaOrBracket

/-- The items of an array up to its closing bracket. Each takes at least one character. -/
def items (read : Cursor → Reading (α × Cursor)) :
    Nat → Bool → Cursor → Reading (List α × Cursor)
  | 0, _, c => c.failAhead .endInList
  | steps + 1, first, c => do
    match ← nextItem first c with
    | none => return ([], c)
    | some c =>
      let (a, c) ← read c
      let (rest, c) ← items read steps false c
      return (a :: rest, c)

/-- Reads an array of values of one type. -/
def listReader (item : Reader α) : Reader (List α) := fun depth c => do
  let (head, c) ← headReader c
  match head with
  | .sequence =>
    inList depth (fun depth c => items (item depth) (c.ahead.length + 1) true c) c
  | other => other.mismatch "a sequence" c

/-! ## Objects -/

/-- Goes to the name of the next member of an object and reads it: `none` in front of the closing
brace. -/
def nextName (first : Bool) (c : Cursor) : Reading (Option (String × Cursor)) := do
  let c := c.skipLayout
  match c.ahead with
  | [] => c.failAhead .endInObject
  | x :: _ =>
    if x = '\x7d' then return none
    else if first then
      if x = '"' then some <$> textReader (c.skip 1) else c.failAhead .keyNotString
    else if x = ',' then
      let c := (c.skip 1).skipLayout
      match c.ahead with
      | [] => c.failAhead .endInValue
      | y :: _ =>
        if y = '"' then some <$> textReader (c.skip 1)
        else if y = '\x7d' then c.failAhead .trailingComma
        else c.failAhead .keyNotString
    else c.failAhead .expectedCommaOrBrace

/-- Passes over the colon between a name and its value. -/
def colon (c : Cursor) : Reading Cursor :=
  let c := c.skipLayout
  match c.ahead with
  | [] => c.failAhead .endInObject
  | ':' :: _ => .ok (c.skip 1)
  | _ => c.failAhead .expectedColon

/-- The members of an object up to its closing brace. Of two members with one name the later
stays. Each takes at least one character. -/
def members (read : Cursor → Reading (α × Cursor)) :
    Nat → Bool → Dictionary α → Cursor → Reading (Dictionary α × Cursor)
  | 0, _, _, c => c.failAhead .endInObject
  | steps + 1, first, known, c => do
    match ← nextName first c with
    | none => return (known, c)
    | some (name, c) =>
      let (a, c) ← read (← colon c)
      members read steps false (known.insert name a) c

/-! ## Values of any kind -/

/-- Reads a value of any kind, given a reader for what lies in it. -/
def valueWith (inner : Cursor → Reading (Value × Cursor)) : Reader Value := fun depth c => do
  let (head, c) ← headReader c
  match head with
  | .null => return (.null, c)
  | .boolean b => return (.boolean b, c)
  | .number n => return (.number n, c)
  | .text s => return (.text s, c)
  | .sequence =>
    let (list, c) ←
      inList depth (fun _ c => items inner (c.ahead.length + 1) true c) c
    return (.array list, c)
  | .map =>
    let (dictionary, c) ←
      inObject depth (fun _ c => members inner (c.ahead.length + 1) true .empty c) c
    return (.object dictionary.toList, c)

/-- Reads a value of any kind. -/
def valueReader : Reader Value
  | 0, c => valueWith (·.failAhead .nestedTooDeep) 0 c
  | depth + 1, c => valueWith (valueReader depth) (depth + 1) c

/-- Reads an object of values of any kind. -/
def dictionaryReader : Reader (Dictionary Value) := fun depth c => do
  let (head, c) ← headReader c
  match head with
  | .map =>
    inObject depth (fun depth c => members (valueReader depth) (c.ahead.length + 1) true .empty c) c
  | other => other.mismatch "a map" c

end Fieldbus.Json
