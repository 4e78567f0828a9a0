import Fieldbus.Text.Ascii
import Mathlib.Data.List.Forall2

/-!
# Words up to the case of their letters

Of all characters only the letters from A to Z have two forms here. Whether two words are the same
up to these forms is told place by place, and is what comparing them in small letters finds out.
-/
namespace Fieldbus.Text

/-- The two forms of a letter from A to Z. -/
def IsCapitalOf (capital small : Char) : Prop :=
  'A'.toNat ≤ capital.toNat ∧ capital.toNat ≤ 'Z'.toNat ∧ small.toNat = capital.toNat + 32

/-- The same character, or two forms of one letter. -/
def SameLetter (a b : Char) : Prop :=
  a = b ∨ IsCapitalOf a b ∨ IsCapitalOf b a

instance : DecidableRel SameLetter := fun a b =>
  inferInstanceAs (Decidable (a = b ∨ (_ ∧ _ ∧ _) ∨ (_ ∧ _ ∧ _)))

/-- Words of one length that have the same letter at each place. -/
abbrev SameWord (s t : List Char) : Prop :=
  List.Forall₂ SameLetter s t

theorem toNat_toLower (c : Char) :
    c.toLower.toNat = if 65 ≤ c.toNat ∧ c.toNat ≤ 90 then c.toNat + 32 else c.toNat := by
  have hval : (c.val ≥ 'A'.val ∧ c.val ≤ 'Z'.val) ↔ 65 ≤ c.toNat ∧ c.toNat ≤ 90 := by
    simp only [ge_iff_le, UInt32.le_iff_toNat_le]
    rfl
  unfold Char.toLower
  split
  · rename_i h
    have hcapital := hval.mp h
    rw [if_pos hcapital]
    show (c.val + ('a'.val - 'A'.val)).toNat = c.toNat + 32
    rw [UInt32.toNat_add, show ('a'.val - 'A'.val).toNat = 32 from rfl,
      show c.val.toNat = c.toNat from rfl]
    omega
  · rename_i h
    rw [if_neg (mt hval.mpr h)]

theorem toLower_eq_iff {a b : Char} : a.toLower = b.toLower ↔ SameLetter a b := by
  rw [← Char.toNat_inj, toNat_toLower, toNat_toLower, SameLetter, IsCapitalOf, IsCapitalOf,
    ← Char.toNat_inj]
  simp only [show 'A'.toNat = 65 from rfl, show 'Z'.toNat = 90 from rfl]
  split <;> split <;> omega

theorem toNat_toUpper (c : Char) :
    c.toUpper.toNat = if 97 ≤ c.toNat ∧ c.toNat ≤ 122 then c.toNat - 32 else c.toNat := by
  have hval : ('a'.val ≤ c.val ∧ c.val ≤ 'z'.val) ↔ 97 ≤ c.toNat ∧ c.toNat ≤ 122 := by
    simp only [UInt32.le_iff_toNat_le]
    rfl
  unfold Char.toUpper
  split
  · rename_i h
    have hsmall := hval.mp h
    rw [if_pos hsmall]
    show (c.val + ('A'.val - 'a'.val)).toNat = c.toNat - 32
    rw [UInt32.toNat_add, show ('A'.val - 'a'.val).toNat = 2 ^ 32 - 32 from rfl,
      show c.val.toNat = c.toNat from rfl]
    omega
  · rename_i h
    rw [if_neg (mt hval.mpr h)]

/-- What stands in front of the small letters in ASCII is the capital form of its letter. -/
theorem toUpper_eq_iff {c x : Char} (hx : x.toNat < 'a'.toNat) :
    c.toUpper = x ↔ SameLetter c x := by
  rw [← Char.toNat_inj, toNat_toUpper, SameLetter, IsCapitalOf, IsCapitalOf, ← Char.toNat_inj]
  simp only [show 'A'.toNat = 65 from rfl, show 'Z'.toNat = 90 from rfl,
    show 'a'.toNat = 97 from rfl] at hx ⊢
  split <;> omega

theorem SameLetter.symm {a b : Char} (h : SameLetter a b) : SameLetter b a :=
  toLower_eq_iff.mp (toLower_eq_iff.mpr h).symm

/-- Comparing in small letters tells whether two words are the same. -/
theorem sameUpToCase_iff {s t : List Char} : sameUpToCase s t = true ↔ SameWord s t := by
  rw [sameUpToCase, beq_iff_eq, ← List.forall₂_eq_eq_eq, List.forall₂_map_left_iff,
    List.forall₂_map_right_iff]
  simp only [toLower_eq_iff, SameWord]

theorem SameWord.refl (s : List Char) : SameWord s s :=
  sameUpToCase_iff.mp (beq_self_eq_true _)

theorem sameWord_cons_iff {s w : List Char} {x : Char} :
    SameWord s (x :: w) ↔ ∃ c rest, s = c :: rest ∧ SameLetter c x ∧ SameWord rest w := by
  rw [SameWord, List.forall₂_cons_right_iff]
  constructor
  · rintro ⟨c, rest, hc, hrest, rfl⟩
    exact ⟨c, rest, rfl, hc, hrest⟩
  · rintro ⟨c, rest, rfl, hc, hrest⟩
    exact ⟨c, rest, hc, hrest, rfl⟩

theorem SameWord.symm {s t : List Char} (h : SameWord s t) : SameWord t s :=
  h.flip.imp fun _ _ => SameLetter.symm

end Fieldbus.Text
