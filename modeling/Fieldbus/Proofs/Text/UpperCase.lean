import Fieldbus.Proofs.Text.Letters
import Fieldbus.Proofs.Text.Padding

/-!
# Texts whose upper case is in ASCII

Hardly any character outside ASCII has an upper case in it. Those that do are few enough to be
listed. So whatever a text is made of, a word in ASCII can be read off it letter by letter when it
is the upper case of the text.
-/
namespace Fieldbus.Text

variable {c x : Char} {s w : List Char}

/-- The characters outside ASCII whose upper case lies in ASCII, with it: single letters that share
their capital with another, and ligatures. -/
def strangers : List (Char × List Char) :=
  [('ß', ['S', 'S']), ('ı', ['I']), ('ſ', ['S']), ('ﬀ', ['F', 'F']), ('ﬁ', ['F', 'I']),
    ('ﬂ', ['F', 'L']), ('ﬃ', ['F', 'F', 'I']), ('ﬄ', ['F', 'F', 'L']), ('ﬅ', ['S', 'T']),
    ('ﬆ', ['S', 'T'])]

/-! ## What the tables say -/

section Tables

set_option maxRecDepth 8000

theorem upperChar_strangers : ∀ e ∈ strangers, upperChar e.1 = e.2 := by
  decide

/-- A run leads to characters outside ASCII, starts inside it, or is a single stranger. -/
theorem upperRuns_images : ∀ run ∈ upperRuns,
    (128 ≤ run.image ∧ (run.lastImage < 0xD800 ∨ (0xDFFF < run.image ∧ run.lastImage < 0x110000))) ∨
    run.last < 128 ∨
    (run.first = run.last ∧ (Char.ofNat run.first, [Char.ofNat run.image]) ∈ strangers) := by
  decide

theorem upperRuns_tail_bound : ∀ run ∈ upperRuns.tail, 128 ≤ run.first := by
  decide

theorem upperExpansions_images : ∀ e ∈ upperExpansions,
    (∃ n ∈ e.2, 128 ≤ (Char.ofNat n).toNat) ∨
    (Char.ofNat e.1, e.2.map Char.ofNat) ∈ strangers := by
  decide

theorem upperExpansions_bound : ∀ e ∈ upperExpansions, 128 ≤ e.1 := by
  decide

theorem blankRanges_upper : ∀ range ∈ blankRanges, ∀ k ≤ range.2 - range.1,
    upperChar (Char.ofNat (range.1 + k)) = [Char.ofNat (range.1 + k)] := by
  decide

end Tables

theorem upperChar_of_ascii (h : c.toNat < 128) : upperChar c = [c.toUpper] := by
  have htable : ∀ n < 128,
      mapCase (upperRuns.take 1) [] (Char.ofNat n) = [(Char.ofNat n).toUpper] := by
    decide
  refine (mapCase_of_lt upperRuns_tail_bound upperExpansions_bound h).trans ?_
  simpa only [Char.ofNat_toNat] using htable c.toNat h

theorem upperChar_ne_nil (c : Char) : upperChar c ≠ [] :=
  mapCase_ne_nil (by decide) c

/-! ## Characters -/

theorem mem_strangers (hc : 128 ≤ c.toNat) (h : ∀ d ∈ upperChar c, d.toNat < 128) :
    (c, upperChar c) ∈ strangers := by
  unfold upperChar mapCase at h ⊢
  split at h
  · -- a run that starts outside ASCII and leads into it is a stranger's
    rename_i n hn
    obtain ⟨run, hrun, himage⟩ := List.exists_of_findSome?_eq_some hn
    obtain ⟨hlow, hhigh, -⟩ := CaseRun.imageOf?_bounds himage
    have hin : run.first ≤ c.toNat ∧ c.toNat ≤ run.last := by
      unfold CaseRun.imageOf? at himage
      split at himage
      · rename_i hbounds
        exact ⟨hbounds.1, hbounds.2.1⟩
      · cases himage
    have hn := h _ List.mem_cons_self
    rcases upperRuns_images run hrun with ⟨hout, hscalar⟩ | hascii | ⟨hsingle, hstranger⟩
    · rw [toNat_ofNat_of_scalar (by omega)] at hn
      omega
    · omega
    · have hfirst : run.first = c.toNat := by omega
      have hn : run.image = n := by
        unfold CaseRun.lastImage at hhigh
        omega
      rwa [hfirst, hn, Char.ofNat_toNat] at hstranger
  · split at h
    · rename_i ns hns
      obtain ⟨before, after, he, -⟩ := List.lookup_eq_some_iff.mp hns
      rcases upperExpansions_images (c.toNat, ns) (by simp [he]) with ⟨n, hn, hout⟩ | hstranger
      · exact absurd (h _ (List.mem_map_of_mem hn)) (by omega)
      · rwa [Char.ofNat_toNat] at hstranger
    · exact absurd (h c List.mem_cons_self) (by omega)

/-- A character has one capital or digit for its upper case if it is the same letter, or a stranger
that stands for it. -/
theorem upperChar_of_sameLetter (hx : x.toNat < 'a'.toNat) (h : SameLetter c x) :
    upperChar c = [x] := by
  have hc : c.toNat < 128 := by
    rcases h with rfl | ⟨-, hle, -⟩ | ⟨-, hle, hsmall⟩
    · exact Nat.lt_trans hx (by decide)
    · exact Nat.lt_of_le_of_lt hle (by decide)
    · rw [hsmall]
      exact Nat.lt_of_le_of_lt (Nat.add_le_add_right hle 32) (by decide)
  rw [upperChar_of_ascii hc, (toUpper_eq_iff hx).mpr h]

/-! ## Words -/

/-- Whether all characters stand in front of the small letters in ASCII. -/
def isCapital (w : List Char) : Bool :=
  w.all fun y => y.toNat < 'a'.toNat

theorem isCapital_iff : isCapital w = true ↔ ∀ y ∈ w, y.toNat < 'a'.toNat := by
  simp [isCapital]

theorem upper_eq_nil_iff : upper s = [] ↔ s = [] := by
  cases s with
  | nil => simp [upper]
  | cons c rest => simp [upper, upperChar_ne_nil]

/-- The first letter of a word comes from a form of it, or from a stranger that brings further
letters with it. -/
theorem upper_eq_cons_iff (hcapital : isCapital (x :: w) = true) :
    upper s = x :: w ↔ ∃ c rest, s = c :: rest ∧
      ((SameLetter c x ∧ upper rest = w) ∨
        ∃ tail, (c, x :: tail) ∈ strangers ∧ tail ++ upper rest = w) := by
  have h := isCapital_iff.mp hcapital
  have hupper : ∀ c rest, upper (c :: rest) = upperChar c ++ upper rest := fun _ _ =>
    List.flatMap_cons
  constructor
  · intro hs
    cases s with
    | nil => cases hs
    | cons c rest =>
        refine ⟨c, rest, rfl, ?_⟩
        rw [hupper] at hs
        have hascii : ∀ d ∈ upperChar c, d.toNat < 128 := by
          intro d hd
          have hsmall := h d (hs ▸ List.mem_append_left _ hd)
          exact Nat.lt_trans hsmall (by decide)
        rcases Nat.lt_or_ge c.toNat 128 with hc | hc
        · rw [upperChar_of_ascii hc] at hs
          obtain ⟨hx, hw⟩ := List.cons.inj hs
          exact .inl ⟨(toUpper_eq_iff (h x List.mem_cons_self)).mp hx, hw⟩
        · have hstranger := mem_strangers hc hascii
          cases hblock : upperChar c with
          | nil => exact absurd hblock (upperChar_ne_nil c)
          | cons y tail =>
              rw [hblock] at hs hstranger
              obtain ⟨rfl, hw⟩ := List.cons.inj hs
              exact .inr ⟨tail, hstranger, hw⟩
  · rintro ⟨c, rest, rfl, ⟨hletter, rfl⟩ | ⟨tail, hstranger, rfl⟩⟩
    · rw [hupper, upperChar_of_sameLetter (h x List.mem_cons_self) hletter]
      rfl
    · rw [hupper, upperChar_strangers _ hstranger]
      rfl

/-- No stranger can have a part in a word that its letters do not stand in. -/
theorem upper_eq_iff_sameWord (h : isCapital w = true)
    (hfree : ∀ e ∈ strangers, ¬ e.2 <:+: w) : upper s = w ↔ SameWord s w := by
  induction w generalizing s with
  | nil => rw [upper_eq_nil_iff, SameWord, List.forall₂_nil_right_iff]
  | cons x w ih =>
      have hw : isCapital w = true := isCapital_iff.mpr fun y hy =>
        isCapital_iff.mp h y (List.mem_cons_of_mem x hy)
      have ih := fun rest => ih (s := rest) hw
        fun e he hpart => hfree e he (hpart.trans (List.suffix_cons x w).isInfix)
      rw [upper_eq_cons_iff h, sameWord_cons_iff]
      constructor
      · rintro ⟨c, rest, rfl, ⟨hletter, hrest⟩ | ⟨tail, hstranger, rfl⟩⟩
        · exact ⟨c, rest, rfl, hletter, (ih rest).mp hrest⟩
        · exact absurd (List.prefix_append (x :: tail) _).isInfix (hfree _ hstranger)
      · rintro ⟨c, rest, rfl, hletter, hrest⟩
        exact ⟨c, rest, rfl, .inl ⟨hletter, (ih rest).mpr hrest⟩⟩

/-! ## White space -/

theorem upperChar_of_isBlank (h : isBlank c = true) : upperChar c = [c] := by
  obtain ⟨range, hrange, k, hk, rfl⟩ := exists_of_isBlank h
  exact blankRanges_upper range hrange k hk

/-- White space in a text stands in its upper case as well. -/
theorem mem_upper_of_isBlank (h : isBlank c = true) (hc : c ∈ s) : c ∈ upper s :=
  List.mem_flatMap.mpr ⟨c, hc, by rw [upperChar_of_isBlank h]; exact List.mem_cons_self⟩

end Fieldbus.Text
