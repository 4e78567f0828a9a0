import Fieldbus.Json.Cursor

/-! # Reading JSON texts, from behind their first quote -/
namespace Fieldbus.Json

/-! ## Escapes -/

/-- The value of a hexadecimal digit, in capitals or not. -/
def hexDigit? (x : Char) : Option Nat :=
  if '0' ≤ x ∧ x ≤ '9' then some (x.toNat - '0'.toNat)
  else if 'a' ≤ x ∧ x ≤ 'f' then some (x.toNat - 'a'.toNat + 10)
  else if 'A' ≤ x ∧ x ≤ 'F' then some (x.toNat - 'A'.toNat + 10)
  else none

/-- The number written by four hexadecimal digits. -/
def hex4? (a b c d : Char) : Option Nat := do
  return (← hexDigit? a) * 4096 + (← hexDigit? b) * 256 + (← hexDigit? c) * 16 + (← hexDigit? d)

/-- A unit of 16 bits. Four bytes are taken before they are looked at. -/
def unit16 (c : Cursor) : Reading (Nat × Cursor) :=
  match c.ahead with
  | d₁ :: d₂ :: d₃ :: d₄ :: _ =>
    match hex4? d₁ d₂ d₃ d₄ with
    | some unit => .ok (unit, c.skip 4)
    | none => (c.skip 4).fail .invalidEscape
  | short =>
    let bytes := short.foldl (fun bytes x => bytes + x.utf8Size) 0
    if bytes < 4 then (c.skip bytes).fail .endInString else (c.skip 4).fail .invalidEscape

/-- The first unit of a pair. -/
def isHighSurrogate (unit : Nat) : Bool :=
  0xD800 ≤ unit && unit ≤ 0xDBFF

/-- The second unit of a pair. -/
def isLowSurrogate (unit : Nat) : Bool :=
  0xDC00 ≤ unit && unit ≤ 0xDFFF

/-- Passes over a character that has to follow inside a pair of surrogates. -/
def pairMark (mark : Char) (c : Cursor) : Reading Cursor :=
  match c.ahead with
  | [] => c.fail .endInString
  | x :: _ => if x = mark then .ok (c.skip 1) else (c.skip 1).fail .endOfHexEscape

/-- The character written by one unit or by a pair of surrogates. -/
def unicodeEscape (c : Cursor) : Reading (Char × Cursor) := do
  let (unit, c) ← unit16 c
  if isLowSurrogate unit then
    c.fail .loneSurrogate
  else if isHighSurrogate unit then
    let c ← pairMark '\\' c
    let c ← pairMark 'u' c
    let (low, c) ← unit16 c
    if isLowSurrogate low then
      return (Char.ofNat (0x10000 + (unit - 0xD800) * 0x400 + (low - 0xDC00)), c)
    else
      c.fail .loneSurrogate
  else
    return (Char.ofNat unit, c)

/-- The character that a letter stands for behind a backslash. -/
def shortEscape? : Char → Option Char
  | '"' => some '"'
  | '\\' => some '\\'
  | '/' => some '/'
  | 'b' => some '\x08'
  | 'f' => some '\x0c'
  | 'n' => some '\n'
  | 'r' => some '\r'
  | 't' => some '\t'
  | _ => none

/-- An escape, from behind its backslash. -/
def escapeReader (c : Cursor) : Reading (Char × Cursor) :=
  match c.ahead with
  | [] => c.fail .endInString
  | x :: _ =>
    if x = 'u' then unicodeEscape (c.skip 1)
    else
      match shortEscape? x with
      | some y => .ok (y, c.skip 1)
      | none => (c.skip 1).fail .invalidEscape

/-! ## Texts -/

/-- The characters up to the closing quote. Each step takes at least one character. -/
def textBody : Nat → Cursor → Reading (List Char × Cursor)
  | 0, c => c.fail .endInString
  | steps + 1, c =>
    match c.ahead with
    | [] => c.fail .endInString
    | x :: rest =>
      if x = '"' then .ok ([], c.skip 1)
      else if x = '\\' then do
        let (y, c) ← escapeReader (c.skip 1)
        let (s, c) ← textBody steps c
        return (y :: s, c)
      else if x.toNat < 0x20 then (c.skip 1).fail .controlCharacter
      else do
        let (s, c) ← textBody steps ⟨c.offset + x.utf8Size, rest⟩
        return (x :: s, c)

/-- A text, from behind its first quote. -/
def textReader (c : Cursor) : Reading (String × Cursor) := do
  let (s, c) ← textBody (c.ahead.length + 1) c
  return (String.ofList s, c)

end Fieldbus.Json
