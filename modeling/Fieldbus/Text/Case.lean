import Fieldbus.Text.CaseTable

/-!
# Lower and upper case of whole texts

Both mappings are the full ones: a character may become several. The lower case of a capital sigma
depends on its surroundings: at the end of a word it is the final form.
-/
namespace Fieldbus.Text

/-- Looks a code point up in the one-to-one runs first, then among the expansions; a character in
neither stays as it is. -/
def mapCase (runs : List CaseRun) (expansions : List (Nat × List Nat)) (c : Char) : List Char :=
  match runs.findSome? (·.imageOf? c.toNat) with
  | some n => [Char.ofNat n]
  | none =>
    match expansions.lookup c.toNat with
    | some ns => ns.map Char.ofNat
    | none => [c]

/-- The lower case of one character, whatever stands around it. -/
def lowerChar (c : Char) : List Char :=
  mapCase lowerRuns lowerExpansions c

/-- The upper case of one character. -/
def upperChar (c : Char) : List Char :=
  mapCase upperRuns upperExpansions c

/-- A letter that is upper, lower or title case. -/
def isCased (c : Char) : Bool :=
  casedRanges.covers c

/-- A character that is passed over when the neighbours of a letter are looked at. -/
def isCaseIgnorable (c : Char) : Bool :=
  caseIgnorableRanges.covers c

/-- Whether the first character that is not passed over as case-ignorable is a cased letter. -/
def startsCased (s : List Char) : Bool :=
  match s.dropWhile isCaseIgnorable with
  | [] => false
  | c :: _ => isCased c

/-- The lower case of a sigma after `before` (nearest character first) and ahead of `after`: the
final form exactly when a cased letter stands before it and none after it. -/
def lowerSigma (before after : List Char) : Char :=
  if startsCased before && !startsCased after then 'ς' else 'σ'

/-- The lower case of a text that continues `before` (nearest character first). -/
def lowerAfter (before : List Char) : List Char → List Char
  | [] => []
  | c :: rest =>
    (if c = 'Σ' then [lowerSigma before rest] else lowerChar c) ++ lowerAfter (c :: before) rest

/-- The lower case of a text. -/
def lower (s : List Char) : List Char :=
  lowerAfter [] s

/-- The upper case of a text. -/
def upper (s : List Char) : List Char :=
  s.flatMap upperChar

end Fieldbus.Text
