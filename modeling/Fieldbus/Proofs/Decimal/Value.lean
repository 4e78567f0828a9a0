import Fieldbus.Decimal.Binary64
import Mathlib.Algebra.Order.Field.Rat
import Mathlib.Tactic.FieldSimp

/-!
# The number that a pattern stands for

Two patterns that are the same number have one value, and the pattern made of a byte has the value
of the byte. So patterns made of bytes are the same number only if the bytes are equal.
-/
namespace Fieldbus.Decimal

/-- What holds of all numbers below 256 holds of all bytes. -/
theorem forall_byte {P : UInt8 → Prop} (h : ∀ n < 256, P (.ofNat n)) : ∀ byte, P byte := by
  intro byte
  have hbyte := h byte.toNat byte.toNat_lt
  rwa [UInt8.ofNat_toNat] at hbyte

namespace Binary64

/-- The value of a finite number. -/
def value (x : Binary64) : ℚ :=
  (if x.isNegative then -1 else 1) * (x.significand * 2 ^ x.exponent)

theorem value_of_isZero {x : Binary64} (h : x.isZero = true) : x.value = 0 := by
  have hfields : x.exponentField = 0 ∧ x.fraction = 0 := by simpa [isZero] using h
  simp [value, significand, hfields]

theorem value_eq_of_same {x y : Binary64} (h : (x == y) = true) : x.value = y.value := by
  have hsame : x.same y = true := h
  simp only [same, Bool.and_eq_true, Bool.or_eq_true, beq_iff_eq] at hsame
  rcases hsame.2 with hbits | ⟨hx, hy⟩
  · cases x
    cases y
    simp_all
  · rw [value_of_isZero hx, value_of_isZero hy]

theorem fields_ofByte (byte : UInt8) :
    (ofByte byte).isFinite = true ∧ (ofByte byte).isNegative = false ∧
      (ofByte byte).exponent ≤ 0 ∧
      (ofByte byte).significand = byte.toNat * 2 ^ (ofByte byte).exponent.natAbs := by
  revert byte
  apply forall_byte
  decide +kernel

theorem value_ofByte (byte : UInt8) : (ofByte byte).value = byte.toNat := by
  obtain ⟨-, hsign, hexponent, hsignificand⟩ := fields_ofByte byte
  obtain ⟨shift, hshift⟩ := Int.eq_ofNat_of_zero_le (Int.neg_nonneg.mpr hexponent)
  have hexponent : (ofByte byte).exponent = -shift := by omega
  rw [value, hsign, hsignificand, hexponent, Int.natAbs_neg, Int.natAbs_natCast, zpow_neg, zpow_natCast]
  push_cast
  field_simp

/-- The number of a byte is a number. -/
theorem ofByte_beq_self (byte : UInt8) : (ofByte byte == ofByte byte) = true := by
  revert byte
  apply forall_byte
  decide +kernel

/-- Equal as numbers, or no numbers both of them. -/
def Agrees (x y : Binary64) : Prop :=
  (x == y) = true ∨ (x.isNaN = true ∧ y.isNaN = true)

theorem agrees_self (x : Binary64) : x.Agrees x := by
  cases h : x.isNaN with
  | true => exact .inr ⟨h, h⟩
  | false =>
      have hsame : x.same x = true := by simp [same, h]
      exact .inl hsame

theorem eq_of_ofByte_beq {a b : UInt8} (h : (ofByte a == ofByte b) = true) : a = b := by
  have hvalue := value_eq_of_same h
  rw [value_ofByte, value_ofByte] at hvalue
  exact UInt8.toNat_inj.mp (Nat.cast_injective hvalue)

end Binary64
end Fieldbus.Decimal
