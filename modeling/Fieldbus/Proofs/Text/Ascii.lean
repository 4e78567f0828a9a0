import Fieldbus.Proofs.Text.LowerCase

/-!
# The lower case of texts in ASCII

Below code point 128 the full mapping is the one on the letters A to Z: a character for a
character, wherever it stands. Digits stay as they are.
-/
namespace Fieldbus.Text

set_option maxRecDepth 4000 in
theorem lowerRuns_tail_bound : ∀ run ∈ lowerRuns.tail, 128 ≤ run.first := by
  decide

theorem lowerChar_of_ascii {c : Char} (h : c.toNat < 128) : lowerChar c = [c.toLower] := by
  have htable : ∀ n < 128,
      mapCase (lowerRuns.take 1) [] (Char.ofNat n) = [(Char.ofNat n).toLower] := by
    decide
  refine (mapCase_of_lt lowerRuns_tail_bound (by decide) h).trans ?_
  simpa only [Char.ofNat_toNat] using htable c.toNat h

theorem lowerAt_of_ascii {c : Char} (h : c.toNat < 128) (before after : List Char) :
    lowerAt before c after = [c.toLower] := by
  have hne : c ≠ 'Σ' := by
    rintro rfl
    exact absurd h (by decide)
  rw [lowerAt, if_neg hne, lowerChar_of_ascii h]

theorem lowerAfter_of_ascii {s : List Char} (h : ∀ c ∈ s, c.toNat < 128) (before : List Char) :
    lowerAfter before s = s.map Char.toLower := by
  induction s generalizing before with
  | nil => rfl
  | cons c rest ih =>
      rw [lowerAfter_cons, lowerAt_of_ascii (h c List.mem_cons_self),
        ih fun d hd => h d (List.mem_cons_of_mem c hd)]
      rfl

theorem lower_of_ascii {s : List Char} (h : ∀ c ∈ s, c.toNat < 128) :
    lower s = s.map Char.toLower :=
  lowerAfter_of_ascii h []

/-! ## Digits -/

theorem settled_of_isDigit {c : Char} (h : c.isDigit = true) :
    lowerChar c = [c] ∧ isBlank c = false := by
  obtain ⟨hzero, hnine⟩ : 48 ≤ c.toNat ∧ c.toNat ≤ 57 := Char.isDigit_iff_toNat.mp h
  constructor
  · have htable : ∀ n < 58, 48 ≤ n → (Char.ofNat n).toLower = Char.ofNat n := by decide
    have hlower := htable c.toNat (by omega) hzero
    rw [Char.ofNat_toNat] at hlower
    rw [lowerChar_of_ascii (by omega), hlower]
  · have hoff : ∀ range ∈ blankRanges, range.2 < 48 ∨ 57 < range.1 := by decide
    rw [isBlank, CodePoints.covers, List.any_eq_false]
    intro range hrange
    have hrange := hoff range hrange
    simp only [Bool.and_eq_true, decide_eq_true_eq]
    omega

end Fieldbus.Text
