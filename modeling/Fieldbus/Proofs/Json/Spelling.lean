import Fieldbus.Json.Printer
import Fieldbus.Json.TextReader
import Fieldbus.Proofs.Dictionary

/-!
# How values are written

A value may be written in many ways: with white space between its tokens, with its characters
escaped or not, and with the members of an object in any order. The relations here say which texts
are written forms of a value. They know no places, no limits on steps, and no order of reading.
-/
namespace Fieldbus.Json

/-! ## Texts -/

/-- The ways to write a character between quotes. -/
inductive SpellsChar : Char → List Char → Prop
  | plain {x} : 0x20 ≤ x.toNat → x ≠ '"' → x ≠ '\\' → SpellsChar x [x]
  | short {x y} : shortEscape? x = some y → SpellsChar y ['\\', x]
  | unit {a b c d n} : hex4? a b c d = some n → isLowSurrogate n = false →
      isHighSurrogate n = false → SpellsChar (Char.ofNat n) ['\\', 'u', a, b, c, d]
  | pair {a b c d high e f g h low} : hex4? a b c d = some high → isHighSurrogate high = true →
      hex4? e f g h = some low → isLowSurrogate low = true →
      SpellsChar (Char.ofNat (0x10000 + (high - 0xD800) * 0x400 + (low - 0xDC00)))
        ['\\', 'u', a, b, c, d, '\\', 'u', e, f, g, h]

inductive SpellsChars : List Char → List Char → Prop
  | nil : SpellsChars [] []
  | cons {x t s ts} : SpellsChar x t → SpellsChars s ts → SpellsChars (x :: s) (t ++ ts)

inductive SpellsText : String → List Char → Prop
  | quoted {s t} : SpellsChars s.toList t → SpellsText s ('"' :: (t ++ ['"']))

theorem SpellsText.quote {s : String} {t : List Char} (h : SpellsText s t) :
    ∃ t', t = '"' :: t' := by
  cases h with
  | @quoted body _ => exact ⟨body ++ ['"'], rfl⟩

/-! ## Lists of items -/

/-- White space between two tokens. -/
def Gap (w : List Char) : Prop :=
  ∀ x ∈ w, Cursor.isLayout x = true

theorem gap_nil : Gap [] := nofun

/-- What stands in front of an item: a comma, unless it is the first one. -/
inductive Lead : Bool → List Char → Prop
  | first {w} : Gap w → Lead true w
  | next {w w'} : Gap w → Gap w' → Lead false (w ++ ',' :: w')

/-- Items from the first one on, or from a later one, up to the closing bracket. -/
inductive SpellsItems {α : Type} (P : α → List Char → Prop) : Bool → List α → List Char → Prop
  | nil {first w} : Gap w → SpellsItems P first [] w
  | cons {first lead a t as ts} : Lead first lead → P a t → SpellsItems P false as ts →
      SpellsItems P first (a :: as) (lead ++ (t ++ ts))

/-- A name, a colon and a value. -/
inductive SpellsMember {α : Type} (P : α → List Char → Prop) : String × α → List Char → Prop
  | named {name a n w w' t} : SpellsText name n → Gap w → Gap w' → P a t →
      SpellsMember P (name, a) (n ++ (w ++ ':' :: (w' ++ t)))

section Mono

variable {P Q : α → List Char → Prop}

theorem SpellsItems.map {β : Type} {Q : β → List Char → Prop} {f : α → β}
    (hPQ : ∀ a t, P a t → Q (f a) t) {first : Bool} {as : List α} (h : SpellsItems P first as t) :
    SpellsItems Q first (as.map f) t := by
  induction h with
  | nil hw => exact .nil hw
  | cons hlead ha _ ih => exact .cons hlead (hPQ _ _ ha) ih

theorem SpellsItems.mono (hPQ : ∀ a t, P a t → Q a t) {first : Bool} {as : List α}
    (h : SpellsItems P first as t) : SpellsItems Q first as t := by
  have hmap := h.map (f := id) hPQ
  rwa [List.map_id] at hmap

theorem SpellsItems.exists_of_mem {first : Bool} {a : α} {as : List α}
    (h : SpellsItems P first as t) (ha : a ∈ as) : ∃ t, P a t := by
  induction h with
  | nil => cases ha
  | cons _ ht _ ih =>
      rcases List.mem_cons.mp ha with rfl | ha
      · exact ⟨_, ht⟩
      · exact ih ha

theorem SpellsMember.mono (hPQ : ∀ a t, P a t → Q a t) {m : String × α}
    (h : SpellsMember P m t) : SpellsMember Q m t := by
  cases h with
  | named hname hw hw' ha => exact .named hname hw hw' (hPQ _ _ ha)

end Mono

/-! ## Values -/

/-- Values that hold no others. Integers are written in one way only. -/
inductive SpellsScalar : Value → List Char → Prop
  | null : SpellsScalar .null "null".toList
  | true : SpellsScalar (.boolean true) "true".toList
  | false : SpellsScalar (.boolean false) "false".toList
  | integer {i h} : SpellsScalar (.number (.integer i h)) (renderInteger i)
  | text {s t} : SpellsText s t → SpellsScalar (.text s) t

/-- Values that hold others. The order of the members is lost, and of two members with one name the
later stays. -/
inductive SpellsNested (inner : Value → List Char → Prop) : Value → List Char → Prop
  | array {items t} : SpellsItems inner true items t →
      SpellsNested inner (.array items) ('[' :: (t ++ [']']))
  | object {members t} : SpellsItems (SpellsMember inner) true members t →
      SpellsNested inner (.object (Dictionary.ofList members).toList) ('\x7b' :: (t ++ ['\x7d']))

/-- Values without floating point numbers, nested at most so deep. -/
def Spells : Nat → Value → List Char → Prop
  | 0, value, t => SpellsScalar value t
  | depth + 1, value, t => SpellsScalar value t ∨ SpellsNested (Spells depth) value t

theorem SpellsNested.mono {P Q : Value → List Char → Prop} (hPQ : ∀ a t, P a t → Q a t)
    {value : Value} (h : SpellsNested P value t) : SpellsNested Q value t := by
  cases h with
  | array h => exact .array (h.mono hPQ)
  | object h => exact .object (h.mono fun _ _ => SpellsMember.mono hPQ)

variable {depth : Nat} {value : Value} {t : List Char}

theorem Spells.scalar (h : SpellsScalar value t) : ∀ depth, Spells depth value t
  | 0 => h
  | _ + 1 => .inl h

theorem Spells.succ (h : Spells depth value t) : Spells (depth + 1) value t := by
  induction depth generalizing value t with
  | zero => exact .inl h
  | succ depth ih => exact h.imp_right (SpellsNested.mono fun _ _ => ih)

theorem Spells.of_le {depth' : Nat} (hle : depth ≤ depth') (h : Spells depth value t) :
    Spells depth' value t := by
  induction hle with
  | refl => exact h
  | step _ ih => exact ih.succ

theorem Spells.object_inv {entries : List (String × Value)}
    (h : Spells depth (.object entries) t) :
    ∃ inner ms t', depth = inner + 1 ∧ t = '\x7b' :: (t' ++ ['\x7d'])
      ∧ entries = (Dictionary.ofList ms).toList
      ∧ SpellsItems (SpellsMember (Spells inner)) true ms t' := by
  cases depth with
  | zero => cases h
  | succ inner =>
      rcases h with h | h
      · cases h
      · cases h with
        | @object ms t' h => exact ⟨inner, ms, t', rfl, rfl, rfl, h⟩

end Fieldbus.Json
