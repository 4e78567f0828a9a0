import Fieldbus.Decimal.Byte
import Mathlib.Data.List.Induction

/-!
# The numerals of a byte

A byte is read from its own digits, with any number of zeros and at most one plus sign in front of
them, and from nothing else. How long the numeral is does not matter.
-/
namespace Fieldbus.Decimal

variable {s digits : List Char} {n : Nat} {byte : UInt8}

/-- The ways to write a number: its digits, behind any number of zeros and at most one plus sign. -/
inductive Numeral (n : Nat) : List Char → Prop
  | plain (zeros : Nat) : Numeral n (List.replicate zeros '0' ++ Nat.toDigits 10 n)
  | signed (zeros : Nat) : Numeral n ('+' :: (List.replicate zeros '0' ++ Nat.toDigits 10 n))

/-! ## Digits -/

theorem toDigits_of_isDigit {d : Char} (h : d.isDigit = true) :
    d.toNat - '0'.toNat < 10 ∧ Nat.toDigits 10 (d.toNat - '0'.toNat) = [d] := by
  obtain ⟨hzero, hnine⟩ : 48 ≤ d.toNat ∧ d.toNat ≤ 57 := Char.isDigit_iff_toNat.mp h
  have htable : ∀ k < 10, Nat.toDigits 10 k = [Char.ofNat (48 + k)] := by decide
  have hk : d.toNat - '0'.toNat < 10 :=
    Nat.lt_of_le_of_lt (Nat.sub_le_sub_right hnine 48) (by decide)
  refine ⟨hk, ?_⟩
  rw [htable _ hk, show 48 + (d.toNat - '0'.toNat) = d.toNat from Nat.add_sub_cancel' hzero,
    Char.ofNat_toNat]

/-- Digits are those of their value behind some zeros. -/
theorem exists_eq_replicate_append (h : ∀ d ∈ digits, d.isDigit = true) (hne : digits ≠ []) :
    ∃ zeros, digits
      = List.replicate zeros '0' ++ Nat.toDigits 10 (Nat.ofDigitChars 10 digits 0) := by
  induction digits using List.reverseRecOn with
  | nil => exact absurd rfl hne
  | append_singleton digits d ih =>
      obtain ⟨hlt, hd⟩ :=
        toDigits_of_isDigit (h d (List.mem_append_right digits List.mem_cons_self))
      rw [Nat.ofDigitChars_append, Nat.ofDigitChars_cons, Nat.ofDigitChars_nil]
      rcases List.eq_nil_or_concat digits with rfl | ⟨front, last, hconcat⟩
      · refine ⟨0, ?_⟩
        rw [Nat.ofDigitChars_nil, Nat.mul_zero, Nat.zero_add, hd]
        rfl
      · obtain ⟨zeros, hdigits⟩ := ih (fun e he => h e (List.mem_append_left [d] he))
          (by simp [hconcat])
        rcases Nat.eq_zero_or_pos (Nat.ofDigitChars 10 digits 0) with hzero | hpos
        · -- what stands in front of the last digit is all zeros
          rw [hzero] at hdigits ⊢
          refine ⟨zeros + 1, ?_⟩
          rw [hdigits, Nat.mul_zero, Nat.zero_add, hd, List.replicate_succ']
          rfl
        · refine ⟨zeros, ?_⟩
          rw [← Nat.toDigits_append_toDigits (by decide) hpos hlt, hd, ← List.append_assoc,
            ← hdigits]

theorem ofDigitChars_replicate_zero (zeros : Nat) :
    Nat.ofDigitChars 10 (List.replicate zeros '0') 0 = 0 := by
  induction zeros with
  | zero => rfl
  | succ zeros ih => rw [List.replicate_succ, Nat.ofDigitChars_cons]; exact ih

/-- Digits that denote a number, told by their value. -/
theorem digits_iff :
    (digits ≠ [] ∧ (∀ d ∈ digits, d.isDigit = true) ∧ Nat.ofDigitChars 10 digits 0 = n) ↔
      ∃ zeros, digits = List.replicate zeros '0' ++ Nat.toDigits 10 n := by
  constructor
  · rintro ⟨hne, hdigits, rfl⟩
    exact exists_eq_replicate_append hdigits hne
  · rintro ⟨zeros, rfl⟩
    refine ⟨by simp [Nat.toDigits_ne_nil], fun d hd => ?_, ?_⟩
    · rcases List.mem_append.mp hd with hd | hd
      · rw [List.eq_of_mem_replicate hd]
        rfl
      · exact Nat.isDigit_of_mem_toDigits (by decide) (by decide) hd
    · rw [Nat.ofDigitChars_append, ofDigitChars_replicate_zero,
        Nat.ofDigitChars_toDigits (by decide) (by decide)]

/-! ## Reading -/

/-- What is read behind a sign. -/
def readDigits? (digits : List Char) : Option UInt8 :=
  if digits.isEmpty || !digits.all Char.isDigit then none
  else if Nat.ofDigitChars 10 digits 0 < 256 then
    some (UInt8.ofNat (Nat.ofDigitChars 10 digits 0))
  else none

theorem readDigits?_eq_some_iff :
    readDigits? digits = some byte ↔
      ∃ zeros, digits = List.replicate zeros '0' ++ Nat.toDigits 10 byte.toNat := by
  have hguard : (digits.isEmpty || !digits.all Char.isDigit) = true ↔
      ¬ (digits ≠ [] ∧ ∀ d ∈ digits, d.isDigit = true) := by
    simp only [Bool.or_eq_true, List.isEmpty_iff, Bool.not_eq_true', List.all_eq_false]
    grind
  rw [← digits_iff, readDigits?]
  split
  · rename_i h
    exact iff_of_false nofun fun ⟨hne, hdigits, _⟩ => hguard.mp h ⟨hne, hdigits⟩
  · rename_i h
    obtain ⟨hne, hdigits⟩ := Classical.not_not.mp (mt hguard.mpr h)
    split
    · rename_i hlt
      rw [Option.some.injEq, ← UInt8.toNat_inj, UInt8.toNat_ofNat_of_lt' hlt]
      exact ⟨fun hvalue => ⟨hne, hdigits, hvalue⟩, fun ⟨_, _, hvalue⟩ => hvalue⟩
    · rename_i hge
      refine iff_of_false nofun fun ⟨_, _, hvalue⟩ => hge ?_
      rw [hvalue]
      exact byte.toNat_lt

theorem readByte?_plain (h : s.head? ≠ some '+') : readByte? s = readDigits? s := by
  unfold readByte?
  split
  · exact absurd rfl h
  · rfl

/-- Digits do not begin with a sign. -/
theorem head?_numeral_ne (zeros n : Nat) :
    (List.replicate zeros '0' ++ Nat.toDigits 10 n).head? ≠ some '+' := by
  intro h
  have hdigits := (digits_iff.mpr ⟨zeros, rfl⟩).2.1 '+' (List.mem_of_mem_head? h)
  exact absurd hdigits (by decide)

/-- A byte is read from its numerals, however long they are, and from nothing else. -/
theorem readByte?_eq_some_iff : readByte? s = some byte ↔ Numeral byte.toNat s := by
  constructor
  · intro h
    by_cases hsign : s.head? = some '+'
    · obtain ⟨rest, rfl⟩ := List.head?_eq_some_iff.mp hsign
      obtain ⟨zeros, rfl⟩ := readDigits?_eq_some_iff.mp h
      exact .signed zeros
    · rw [readByte?_plain hsign] at h
      obtain ⟨zeros, rfl⟩ := readDigits?_eq_some_iff.mp h
      exact .plain zeros
  · rintro (zeros | zeros)
    · rw [readByte?_plain (head?_numeral_ne zeros _)]
      exact readDigits?_eq_some_iff.mpr ⟨zeros, rfl⟩
    · exact readDigits?_eq_some_iff.mpr ⟨zeros, rfl⟩

end Fieldbus.Decimal
