import Fieldbus.Json.Fault

/-!
# Standing in a text

A reader is given the place where it stands and returns its value with the place where it ends.
Places are counted in bytes. Every fault inside a character ends the reading, so the text ahead
can be kept as characters.
-/
namespace Fieldbus.Json

/-- The bytes already behind, and the characters still ahead. -/
structure Cursor where
  offset : Nat
  ahead : List Char

/-- Where a fault is reported. One that lies in a value rather than in the form of the text waits
for the innermost reader around it, which says where it stands once it is done. -/
inductive Place where
  | at (offset : Nat)
  | pending (here : Cursor)

/-- What is wrong, and where. -/
structure Fault where
  cause : Cause
  place : Place

/-- What a reader returns, together with the place where it ends. -/
abbrev Reading := Except Fault

namespace Cursor

variable {α : Type}

/-- In front of a text. -/
def ofText (text : List Char) : Cursor :=
  ⟨0, text⟩

/-- After the next characters, all of them of one byte. -/
def skip (c : Cursor) (count : Nat) : Cursor :=
  ⟨c.offset + count, c.ahead.drop count⟩

/-- A fault at the place itself: the last byte before it is at fault. -/
def fail (c : Cursor) (cause : Cause) : Reading α :=
  .error ⟨cause, .at c.offset⟩

/-- A fault of the byte ahead, or of the end of the text. -/
def failAhead (c : Cursor) (cause : Cause) : Reading α :=
  .error ⟨cause, .at (if c.ahead.isEmpty then c.offset else c.offset + 1)⟩

/-- A fault whose place the surrounding reader tells. -/
def failPending (c : Cursor) (cause : Cause) : Reading α :=
  .error ⟨cause, .pending c⟩

/-- The four characters that may stand between any two tokens. -/
def isLayout (x : Char) : Bool :=
  x = ' ' || x = '\n' || x = '\t' || x = '\r'

/-- After the white space ahead. -/
def skipLayout (c : Cursor) : Cursor :=
  ⟨c.offset + (c.ahead.takeWhile isLayout).length, c.ahead.dropWhile isLayout⟩

/-- Passes over a fixed word. -/
def word : List Char → Cursor → Reading Cursor
  | [], c => .ok c
  | w :: rest, c =>
    match c.ahead with
    | [] => c.fail .endInValue
    | x :: _ => if x = w then word rest (c.skip 1) else (c.skip 1).fail .expectedIdent

end Cursor

/-- Gives a fault that still waits for its place the one where `settle` ends. -/
def Fault.placed (settle : Cursor → Cursor) (fault : Fault) : Fault :=
  match fault.place with
  | .at _ => fault
  | .pending here => { fault with place := .at (settle here).offset }

end Fieldbus.Json
