/-! # Comparing texts up to the case of the letters A to Z -/
namespace Fieldbus.Text

/-- Equal length and, place by place, equal up to the case of the letters A to Z. Letters of other
scripts have to agree exactly. -/
def sameUpToCase (s t : List Char) : Bool :=
  s.map Char.toLower == t.map Char.toLower

end Fieldbus.Text
