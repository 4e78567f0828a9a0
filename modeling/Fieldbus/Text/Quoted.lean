import Fieldbus.Text.PrintTable

/-!
# A text quoted for a message

Between double quotes, so that every character can be told apart on a terminal: what cannot be
shown on its own is written by its code point.
-/
namespace Fieldbus.Text

/-- A character that can be shown, leaves a trace, and does not join the one before it. -/
def isPlain (c : Char) : Bool :=
  printableRanges.covers c && !extendingMarkRanges.covers c && !defaultIgnorableRanges.covers c

/-- One character inside the quotes. -/
def quoteChar (c : Char) : List Char :=
  match c with
  | '"' => ['\\', '"']
  | '\\' => ['\\', '\\']
  | '\n' => ['\\', 'n']
  | '\r' => ['\\', 'r']
  | '\t' => ['\\', 't']
  | '\x00' => ['\\', '0']
  | c => if isPlain c then [c] else ['\\', 'u', '\x7b'] ++ Nat.toDigits 16 c.toNat ++ ['\x7d']

/-- The text between double quotes. -/
def quoted (s : List Char) : List Char :=
  '"' :: s.flatMap quoteChar ++ ['"']

end Fieldbus.Text
