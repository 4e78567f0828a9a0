import Fieldbus.Power
import Fieldbus.Proofs.Text.UpperCase

/-!
# The texts that name a state of a relay

A text names a state if its upper case is one of six words. For most of them that means the letters
of the word in any case. Two characters outside ASCII have a part in the others: the ligature of two
f's, and the long s.
-/
namespace Fieldbus.Power

open Text (SameLetter SameWord)

variable {s : List Char}

/-- The texts for off: the digit, and both words in any case. The two f's of the one may be a single
ligature, and the s of the other may be a long s. -/
inductive NamesOff : List Char → Prop
  | digit : NamesOff ['0']
  | word {t} : SameWord t ['O', 'F', 'F'] → NamesOff t
  | ligature {o} : SameLetter o 'O' → NamesOff [o, 'ﬀ']
  | truth {t} : SameWord t ['F', 'A', 'L', 'S', 'E'] → NamesOff t
  | longS {f a l e} : SameLetter f 'F' → SameLetter a 'A' → SameLetter l 'L' → SameLetter e 'E' →
      NamesOff [f, a, l, 'ſ', e]

/-- The texts for on: the digit, and both words in any case. -/
inductive NamesOn : List Char → Prop
  | digit : NamesOn ['1']
  | word {t} : SameWord t ['O', 'N'] → NamesOn t
  | truth {t} : SameWord t ['T', 'R', 'U', 'E'] → NamesOn t

/-! ## Upper case -/

theorem sameWord_digit_iff {d : Char} (hd : d.isDigit = true) : SameWord s [d] ↔ s = [d] := by
  obtain ⟨hzero, hnine⟩ : 48 ≤ d.toNat ∧ d.toNat ≤ 57 := Char.isDigit_iff_toNat.mp hd
  have hletter : ∀ c, SameLetter c d ↔ c = d := by
    intro c
    have hA : 'A'.toNat = 65 := rfl
    rw [SameLetter, Text.IsCapitalOf, Text.IsCapitalOf]
    exact or_iff_left (by omega)
  simp [Text.sameWord_cons_iff, hletter]

/-- A letter at a time: of the strangers that begin with an f, only the ligature goes on with f and
ends there. -/
theorem upper_eq_off_iff :
    Text.upper s = ['O', 'F', 'F'] ↔
      SameWord s ['O', 'F', 'F'] ∨ ∃ o, s = [o, 'ﬀ'] ∧ SameLetter o 'O' := by
  simp (disch := decide) [Text.upper_eq_cons_iff, Text.upper_eq_nil_iff, Text.strangers,
    Text.sameWord_cons_iff, or_and_right, and_or_left, exists_or, and_assoc]

/-- Here only the long s fits, because the other strangers that begin with an s go on with s or
t. -/
theorem upper_eq_false_iff :
    Text.upper s = ['F', 'A', 'L', 'S', 'E'] ↔
      SameWord s ['F', 'A', 'L', 'S', 'E'] ∨
      ∃ f a l e, s = [f, a, l, 'ſ', e] ∧
        SameLetter f 'F' ∧ SameLetter a 'A' ∧ SameLetter l 'L' ∧ SameLetter e 'E' := by
  simp (disch := decide) [Text.upper_eq_cons_iff, Text.upper_eq_nil_iff, Text.strangers,
    Text.sameWord_cons_iff, or_and_right, and_or_left, exists_or, and_assoc]

theorem namesOff_iff :
    NamesOff s ↔ Text.upper s = ['O', 'F', 'F'] ∨ Text.upper s = ['0'] ∨
      Text.upper s = ['F', 'A', 'L', 'S', 'E'] := by
  rw [upper_eq_off_iff, upper_eq_false_iff,
    Text.upper_eq_iff_sameWord (w := ['0']) rfl (by decide), sameWord_digit_iff rfl]
  constructor
  · rintro (_ | h | ho | h | ⟨hf, ha, hl, he⟩)
    · exact .inr (.inl rfl)
    · exact .inl (.inl h)
    · exact .inl (.inr ⟨_, rfl, ho⟩)
    · exact .inr (.inr (.inl h))
    · exact .inr (.inr (.inr ⟨_, _, _, _, rfl, hf, ha, hl, he⟩))
  · rintro ((h | ⟨o, rfl, ho⟩) | rfl | h | ⟨f, a, l, e, rfl, hf, ha, hl, he⟩)
    · exact .word h
    · exact .ligature ho
    · exact .digit
    · exact .truth h
    · exact .longS hf ha hl he

theorem namesOn_iff :
    NamesOn s ↔ Text.upper s = ['O', 'N'] ∨ Text.upper s = ['1'] ∨
      Text.upper s = ['T', 'R', 'U', 'E'] := by
  rw [Text.upper_eq_iff_sameWord (w := ['O', 'N']) rfl (by decide),
    Text.upper_eq_iff_sameWord (w := ['1']) rfl (by decide), sameWord_digit_iff rfl,
    Text.upper_eq_iff_sameWord (w := ['T', 'R', 'U', 'E']) rfl (by decide)]
  constructor
  · rintro (_ | h | h)
    · exact .inr (.inl rfl)
    · exact .inl h
    · exact .inr (.inr h)
  · rintro (h | rfl | h)
    · exact .word h
    · exact .digit
    · exact .truth h

instance (s : List Char) : Decidable (NamesOff s) :=
  decidable_of_iff _ namesOff_iff.symm

instance (s : List Char) : Decidable (NamesOn s) :=
  decidable_of_iff _ namesOn_iff.symm

/-! ## Reading -/

theorem not_namesOn (h : NamesOff s) : ¬ NamesOn s := by
  intro h'
  rcases namesOff_iff.mp h with hs | hs | hs <;> rcases namesOn_iff.mp h' with hs' | hs' | hs' <;>
    exact absurd (hs.symm.trans hs') (by decide)

theorem parse_eq (text : String) :
    parse text = if NamesOff text.toList then .ok off
      else if NamesOn text.toList then .ok on else .error (.powerText text) := by
  have hword : ∀ word : String,
      String.ofList (Text.upper text.toList) = word ↔ Text.upper text.toList = word.toList := by
    intro word
    rw [← String.toList_inj, String.toList_ofList]
  simp only [parse, hword]
  exact ite_congr (propext namesOff_iff.symm) (fun _ => rfl) fun _ =>
    ite_congr (propext namesOn_iff.symm) (fun _ => rfl) fun _ => rfl

/-- White space has no part in any of the words. -/
theorem not_names_of_isBlank {c : Char} (h : Text.isBlank c = true) (hc : c ∈ s) :
    ¬ NamesOff s ∧ ¬ NamesOn s := by
  have hmem := Text.mem_upper_of_isBlank h hc
  have hword : ∀ w : List Char, w.any Text.isBlank = false → Text.upper s ≠ w := by
    rintro w hw rfl
    exact List.any_eq_false.mp hw c hmem h
  constructor
  · rw [namesOff_iff]
    rintro (hs | hs | hs) <;> exact hword _ (by decide) hs
  · rw [namesOn_iff]
    rintro (hs | hs | hs) <;> exact hword _ (by decide) hs

/-! ## The main statement -/

/-- A text is read as off or on exactly if it is one of the texts for it, and any other is refused
with the text as it stands. White space is in none of them, so a text with any is refused. -/
theorem parse_exact (text : String) :
    (parse text = .ok off ↔ NamesOff text.toList) ∧
    (parse text = .ok on ↔ NamesOn text.toList) ∧
    (parse text = .error (.powerText text) ↔ ¬ NamesOff text.toList ∧ ¬ NamesOn text.toList) ∧
    ((∃ c ∈ text.toList, Text.isBlank c = true) → parse text = .error (.powerText text)) := by
  have hblank : (∃ c ∈ text.toList, Text.isBlank c = true) →
      ¬ NamesOff text.toList ∧ ¬ NamesOn text.toList :=
    fun ⟨_, hc, h⟩ => not_names_of_isBlank h hc
  rw [parse_eq]
  by_cases hoff : NamesOff text.toList
  · have hon := not_namesOn hoff
    simpa [hoff, hon] using hblank
  · by_cases hon : NamesOn text.toList
    · simpa [hoff, hon] using hblank
    · simp [hoff, hon]

set_option maxRecDepth 4000 in
/-- A ligature counts as the two letters in it. -/
example : parse "oﬀ" = .ok off := by decide

end Fieldbus.Power
