import Fieldbus.Proofs.Text.Trim
import Fieldbus.Text.Case

/-!
# The lower case of a text is its own lower case

A character is settled when it is its own lower case. The case tables send every character to
settled ones, and a text of settled characters is left alone. So mapping twice is mapping once,
whatever becomes of a sigma. No white space comes from a character that is none, so a trimmed text
stays trimmed.
-/
namespace Fieldbus.Text

/-! ## Where a case mapping sends a character -/

/-- The last code point that the run maps to. -/
def CaseRun.lastImage (run : CaseRun) : Nat :=
  run.image + (run.last - run.first)

theorem CaseRun.imageOf?_bounds {run : CaseRun} {m n : Nat} (h : run.imageOf? m = some n) :
    run.image ≤ n ∧ n ≤ run.lastImage ∧ (n - run.image) % run.stride = 0 := by
  unfold imageOf? at h
  split at h
  · rename_i hm
    obtain rfl := Option.some.inj h
    refine ⟨by omega, by unfold lastImage; omega, ?_⟩
    rw [Nat.add_sub_cancel_left]
    exact hm.2.2
  · cases h

/-- A character comes from a run, from an expansion, or is left alone. -/
theorem mem_mapCase {runs : List CaseRun} {expansions : List (Nat × List Nat)} {c d : Char}
    (h : d ∈ mapCase runs expansions c) :
    (∃ run ∈ runs, ∃ n, run.imageOf? c.toNat = some n ∧ d = Char.ofNat n) ∨
    (∃ e ∈ expansions, ∃ n ∈ e.2, d = Char.ofNat n) ∨
    (d = c ∧ mapCase runs expansions c = [c]) := by
  unfold mapCase at h ⊢
  split at h
  · rename_i n hn
    obtain ⟨run, hrun, hi⟩ := List.exists_of_findSome?_eq_some hn
    exact .inl ⟨run, hrun, n, hi, List.mem_singleton.mp h⟩
  · split at h
    · rename_i ns hns
      obtain ⟨before, after, he, _⟩ := List.lookup_eq_some_iff.mp hns
      obtain ⟨n, hn, rfl⟩ := List.mem_map.mp h
      exact .inr (.inl ⟨(c.toNat, ns), by simp [he], n, hn, rfl⟩)
    · exact .inr (.inr ⟨List.mem_singleton.mp h, rfl⟩)

/-- Below all runs but the first, only that one matters. -/
theorem mapCase_of_lt {runs : List CaseRun} {expansions : List (Nat × List Nat)} {bound : Nat}
    (hruns : ∀ run ∈ runs.tail, bound ≤ run.first) (hexpansions : ∀ e ∈ expansions, bound ≤ e.1)
    {c : Char} (hc : c.toNat < bound) :
    mapCase runs expansions c = mapCase (runs.take 1) [] c := by
  have hlookup : expansions.lookup c.toNat = none := by
    refine List.lookup_eq_none_iff.mpr fun e he => bne_iff_ne.mpr ?_
    exact Nat.ne_of_lt (Nat.lt_of_lt_of_le hc (hexpansions e he))
  cases runs with
  | nil =>
      simp only [mapCase, List.take_nil, List.findSome?_nil, hlookup]
      rfl
  | cons run runs =>
      have hnone : runs.findSome? (·.imageOf? c.toNat) = none := by
        refine List.findSome?_eq_none_iff.mpr fun later hlater => if_neg fun hin => ?_
        exact absurd (Nat.lt_of_le_of_lt hin.1 hc) (Nat.not_lt.mpr (hruns later hlater))
      simp only [mapCase, List.take_succ_cons, List.take_zero, List.findSome?_cons,
        List.findSome?_nil, hnone, hlookup]
      cases run.imageOf? c.toNat <;> rfl

theorem mapCase_ne_nil {runs : List CaseRun} {expansions : List (Nat × List Nat)}
    (h : ∀ e ∈ expansions, e.2 ≠ []) (c : Char) : mapCase runs expansions c ≠ [] := by
  unfold mapCase
  split
  · simp
  · split
    · rename_i ns hns
      obtain ⟨before, after, he, _⟩ := List.lookup_eq_some_iff.mp hns
      simpa using h (c.toNat, ns) (by simp [he])
    · simp

/-- Between and around the surrogates every number is the code point of a character. -/
theorem toNat_ofNat_of_scalar {n : Nat} (h : n < 0xD800 ∨ (0xDFFF < n ∧ n < 0x110000)) :
    (Char.ofNat n).toNat = n := by
  have hvalid : n.isValidChar := by
    unfold Nat.isValidChar
    omega
  rw [Char.ofNat, dif_pos hvalid]
  rfl

/-! ## What the tables say -/

/-- No image of the first run lies in the second. -/
def CaseRun.avoids (a b : CaseRun) : Bool :=
  a.lastImage.blt b.first || b.last.blt a.image ||
    ((a.stride == 2 || a.first == a.last) && b.stride == 2 && a.image % 2 != b.first % 2)

theorem CaseRun.imageOf?_eq_none_of_avoids {a b : CaseRun} {m n : Nat} (h : a.avoids b)
    (hn : a.imageOf? m = some n) : b.imageOf? n = none := by
  obtain ⟨hlow, hhigh, hstride⟩ := imageOf?_bounds hn
  simp only [avoids, lastImage, Bool.or_eq_true, Bool.and_eq_true, Nat.blt_eq, beq_iff_eq,
    bne_iff_ne] at h
  unfold lastImage at hhigh
  unfold imageOf?
  rw [if_neg]
  rintro ⟨hfirst, hlast, hmod⟩
  rcases h with (h | h) | ⟨⟨h | h, hb⟩, hparity⟩
  · omega
  · omega
  · rw [h] at hstride
    rw [hb] at hmod
    omega
  · rw [hb] at hmod
    omega

theorem lowerRuns_avoid : lowerRuns.all fun a => lowerRuns.all a.avoids := by
  decide +kernel

/-- All that the runs map to are characters, none of them white space or with a mapping to several
code points. -/
theorem lowerRuns_images : ∀ run ∈ lowerRuns,
    (run.lastImage < 0xD800 ∨ (0xDFFF < run.image ∧ run.lastImage < 0x110000)) ∧
    (∀ e ∈ lowerExpansions, run.lastImage < e.1 ∨ e.1 < run.image) ∧
    ∀ range ∈ blankRanges, run.lastImage < range.1 ∨ range.2 < run.image := by
  decide +kernel

set_option maxRecDepth 4000 in
theorem lowerExpansions_settled : ∀ e ∈ lowerExpansions, ∀ n ∈ e.2,
    lowerChar (Char.ofNat n) = [Char.ofNat n] ∧ isBlank (Char.ofNat n) = false := by
  decide

set_option maxRecDepth 4000 in
theorem lowerChar_sigma :
    lowerChar 'ς' = ['ς'] ∧ lowerChar 'σ' = ['σ'] ∧ lowerChar 'Σ' ≠ ['Σ'] := by
  decide

/-- What a run maps to is a character of that very code point. -/
theorem toNat_ofNat_of_lowerRun {run : CaseRun} {m n : Nat} (hrun : run ∈ lowerRuns)
    (hn : run.imageOf? m = some n) : (Char.ofNat n).toNat = n := by
  obtain ⟨hlow, hhigh, _⟩ := CaseRun.imageOf?_bounds hn
  have hscalar := (lowerRuns_images run hrun).1
  exact toNat_ofNat_of_scalar (by omega)

/-! ## Settled characters -/

theorem lowerChar_of_mem_lowerChar {c d : Char} (h : d ∈ lowerChar c) : lowerChar d = [d] := by
  rcases mem_mapCase h with ⟨run, hrun, n, hn, rfl⟩ | ⟨e, he, n, hn, rfl⟩ | ⟨rfl, hc⟩
  · have hnat := toNat_ofNat_of_lowerRun hrun hn
    have hruns : lowerRuns.findSome? (·.imageOf? n) = none := by
      rw [List.findSome?_eq_none_iff]
      intro other hother
      have havoid := List.all_eq_true.mp (List.all_eq_true.mp lowerRuns_avoid run hrun) other hother
      exact CaseRun.imageOf?_eq_none_of_avoids havoid hn
    have hlookup : lowerExpansions.lookup n = none := by
      rw [List.lookup_eq_none_iff]
      intro e he
      obtain ⟨hlow, hhigh, _⟩ := CaseRun.imageOf?_bounds hn
      have hoff := (lowerRuns_images run hrun).2.1 e he
      simp only [bne_iff_ne, ne_eq]
      omega
    simp only [lowerChar, mapCase, hnat, hruns, hlookup]
  · exact (lowerExpansions_settled e he n hn).1
  · exact hc

theorem lowerChar_lowerSigma (before after : List Char) :
    lowerChar (lowerSigma before after) = [lowerSigma before after] := by
  unfold lowerSigma
  split
  · exact lowerChar_sigma.1
  · exact lowerChar_sigma.2.1

/-- The lower case of a character between others. -/
def lowerAt (before : List Char) (c : Char) (after : List Char) : List Char :=
  if c = 'Σ' then [lowerSigma before after] else lowerChar c

theorem lowerAfter_cons (before : List Char) (c : Char) (rest : List Char) :
    lowerAfter before (c :: rest) = lowerAt before c rest ++ lowerAfter (c :: before) rest := rfl

theorem lowerChar_of_mem_lowerAt {before after : List Char} {c d : Char}
    (h : d ∈ lowerAt before c after) : lowerChar d = [d] := by
  unfold lowerAt at h
  split at h
  · rw [List.mem_singleton.mp h]
    exact lowerChar_lowerSigma before after
  · exact lowerChar_of_mem_lowerChar h

theorem lowerAt_of_settled {c : Char} (h : lowerChar c = [c]) (before after : List Char) :
    lowerAt before c after = [c] := by
  have hne : c ≠ 'Σ' := by
    rintro rfl
    exact lowerChar_sigma.2.2 h
  rw [lowerAt, if_neg hne, h]

/-! ## Settled texts -/

theorem lowerChar_of_mem_lowerAfter {s before : List Char} {d : Char}
    (h : d ∈ lowerAfter before s) : lowerChar d = [d] := by
  induction s generalizing before with
  | nil => simp [lowerAfter] at h
  | cons c rest ih =>
      rw [lowerAfter_cons, List.mem_append] at h
      rcases h with h | h
      · exact lowerChar_of_mem_lowerAt h
      · exact ih h

theorem lowerAfter_of_settled {s : List Char} (h : ∀ c ∈ s, lowerChar c = [c])
    (before : List Char) : lowerAfter before s = s := by
  induction s generalizing before with
  | nil => rfl
  | cons c rest ih =>
      rw [lowerAfter_cons, lowerAt_of_settled (h c (by simp)), ih fun d hd => h d (by simp [hd])]
      rfl

/-- Lower case is final: mapping it again changes nothing. -/
theorem lower_lower (s : List Char) : lower (lower s) = lower s :=
  lowerAfter_of_settled (fun _ h => lowerChar_of_mem_lowerAfter h) []

/-! ## White space -/

theorem not_blank_of_mem_lowerChar {c d : Char} (hc : isBlank c = false) (h : d ∈ lowerChar c) :
    isBlank d = false := by
  rcases mem_mapCase h with ⟨run, hrun, n, hn, rfl⟩ | ⟨e, he, n, hn, rfl⟩ | ⟨rfl, _⟩
  · obtain ⟨hlow, hhigh, _⟩ := CaseRun.imageOf?_bounds hn
    rw [isBlank, CodePoints.covers, toNat_ofNat_of_lowerRun hrun hn, List.any_eq_false]
    intro range hrange
    have hoff := (lowerRuns_images run hrun).2.2 range hrange
    simp only [Bool.and_eq_true, decide_eq_true_eq]
    omega
  · exact (lowerExpansions_settled e he n hn).2
  · exact hc

theorem not_blank_of_mem_lowerAt {before after : List Char} {c d : Char}
    (hc : isBlank c = false) (h : d ∈ lowerAt before c after) : isBlank d = false := by
  unfold lowerAt at h
  split at h
  · rw [List.mem_singleton.mp h, lowerSigma]
    split <;> decide
  · exact not_blank_of_mem_lowerChar hc h

theorem lowerChar_ne_nil (c : Char) : lowerChar c ≠ [] :=
  mapCase_ne_nil (by decide) c

theorem lowerAt_ne_nil (before : List Char) (c : Char) (after : List Char) :
    lowerAt before c after ≠ [] := by
  unfold lowerAt
  split
  · simp
  · exact lowerChar_ne_nil c

theorem lowerAfter_eq_nil {before s : List Char} (h : lowerAfter before s = []) : s = [] := by
  cases s with
  | nil => rfl
  | cons c rest =>
      rw [lowerAfter_cons, List.append_eq_nil_iff] at h
      exact absurd h.1 (lowerAt_ne_nil before c rest)

theorem not_blank_of_getLast?_lowerAfter {s before : List Char}
    (h : ∀ c ∈ s.getLast?, isBlank c = false) :
    ∀ d ∈ (lowerAfter before s).getLast?, isBlank d = false := by
  induction s generalizing before with
  | nil => simp [lowerAfter]
  | cons c rest ih =>
      intro d hd
      rw [lowerAfter_cons, List.getLast?_append, Option.mem_def, Option.or_eq_some_iff] at hd
      rcases hd with hd | ⟨hrest, hd⟩
      · refine ih (fun e he => h e ?_) d hd
        rw [List.getLast?_cons, he]
        rfl
      · obtain rfl := lowerAfter_eq_nil (List.getLast?_eq_none_iff.mp hrest)
        exact not_blank_of_mem_lowerAt (h c rfl) (List.mem_of_getLast? hd)

/-- Lower case brings no white space to the ends of a text. -/
theorem Trimmed.lower {s : List Char} (h : Trimmed s) : Trimmed (lower s) := by
  refine ⟨?_, not_blank_of_getLast?_lowerAfter h.2⟩
  cases s with
  | nil => simp [Text.lower, lowerAfter]
  | cons c rest =>
      intro d hd
      rw [Text.lower, lowerAfter_cons, List.head?_append_of_ne_nil _ (lowerAt_ne_nil [] c rest)] at hd
      exact not_blank_of_mem_lowerAt (h.1 c rfl) (List.mem_of_mem_head? hd)

end Fieldbus.Text
