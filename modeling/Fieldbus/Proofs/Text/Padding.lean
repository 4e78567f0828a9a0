import Fieldbus.Proofs.Text.LowerCase

/-!
# White space around a text, and its lower case

White space is neither a letter nor passed over in front of one, so it ends the neighbourhood of a
sigma as the end of the text does. Padding a text therefore changes nothing about the lower case of
what it surrounds, and trimming and lower case may change places.
-/
namespace Fieldbus.Text

/-! ## White space under the case mappings -/

theorem exists_of_isBlank {c : Char} (h : isBlank c = true) :
    ∃ range ∈ blankRanges, ∃ k ≤ range.2 - range.1, c = Char.ofNat (range.1 + k) := by
  obtain ⟨range, hrange, hc⟩ := List.any_eq_true.mp h
  simp only [Bool.and_eq_true, decide_eq_true_eq] at hc
  refine ⟨range, hrange, c.toNat - range.1, by omega, ?_⟩
  rw [Nat.add_sub_cancel' hc.1, Char.ofNat_toNat]

theorem blankRanges_caseless : ∀ range ∈ blankRanges, ∀ k ≤ range.2 - range.1,
    lowerChar (Char.ofNat (range.1 + k)) = [Char.ofNat (range.1 + k)] ∧
    isCased (Char.ofNat (range.1 + k)) = false ∧
    isCaseIgnorable (Char.ofNat (range.1 + k)) = false := by
  decide +kernel

theorem caseless_of_isBlank {c : Char} (h : isBlank c = true) :
    lowerChar c = [c] ∧ isCased c = false ∧ isCaseIgnorable c = false := by
  obtain ⟨range, hrange, k, hk, rfl⟩ := exists_of_isBlank h
  exact blankRanges_caseless range hrange k hk

theorem startsCased_cons (c : Char) (s : List Char) :
    startsCased (c :: s) = if isCaseIgnorable c then startsCased s else isCased c := by
  unfold startsCased
  cases hc : isCaseIgnorable c with
  | true => rw [List.dropWhile_cons_of_pos hc, if_pos rfl]
  | false => rw [List.dropWhile_cons_of_neg (ne_true_of_eq_false hc), if_neg Bool.false_ne_true]

variable {before after : List Char}

/-- Far white space is as good as the end of the text. -/
theorem startsCased_append_blank (hafter : ∀ c ∈ after, isBlank c = true) (s : List Char) :
    startsCased (s ++ after) = startsCased s := by
  induction s with
  | nil =>
      cases after with
      | nil => rfl
      | cons c rest =>
          obtain ⟨_, hcased, hignorable⟩ := caseless_of_isBlank (hafter c List.mem_cons_self)
          rw [List.nil_append, startsCased_cons, hignorable, hcased]
          rfl
  | cons c rest ih => rw [List.cons_append, startsCased_cons, startsCased_cons, ih]

theorem lowerAt_append_blank (hbefore : ∀ c ∈ before, isBlank c = true)
    (hafter : ∀ c ∈ after, isBlank c = true) (s : List Char) (c : Char) (t : List Char) :
    lowerAt (s ++ before) c (t ++ after) = lowerAt s c t := by
  simp only [lowerAt, lowerSigma, startsCased_append_blank hbefore, startsCased_append_blank hafter]

theorem lowerAfter_append_blank (hbefore : ∀ c ∈ before, isBlank c = true)
    (hafter : ∀ c ∈ after, isBlank c = true) (s t : List Char) :
    lowerAfter (s ++ before) (t ++ after) = lowerAfter s t ++ after := by
  induction t generalizing s with
  | nil => exact lowerAfter_of_settled (fun c hc => (caseless_of_isBlank (hafter c hc)).1) _
  | cons c rest ih =>
      rw [List.cons_append, lowerAfter_cons, lowerAt_append_blank hbefore hafter,
        ← List.cons_append, ih, lowerAfter_cons, List.append_assoc]

theorem lowerAfter_settled_append {s : List Char} (h : ∀ c ∈ s, lowerChar c = [c])
    (nearer t : List Char) :
    lowerAfter nearer (s ++ t) = s ++ lowerAfter (s.reverse ++ nearer) t := by
  induction s generalizing nearer with
  | nil => rfl
  | cons c rest ih =>
      rw [List.cons_append, lowerAfter_cons, lowerAt_of_settled (h c List.mem_cons_self),
        ih fun d hd => h d (List.mem_cons_of_mem c hd), List.reverse_cons, List.append_assoc]
      rfl

/-- The lower case of a text does not depend on the white space around it. -/
theorem lower_pad (hbefore : ∀ c ∈ before, isBlank c = true)
    (hafter : ∀ c ∈ after, isBlank c = true) (s : List Char) :
    lower (before ++ s ++ after) = before ++ lower s ++ after := by
  have hsettled : ∀ c ∈ before, lowerChar c = [c] :=
    fun c hc => (caseless_of_isBlank (hbefore c hc)).1
  have hreverse : ∀ c ∈ before.reverse, isBlank c = true :=
    fun c hc => hbefore c (List.mem_reverse.mp hc)
  calc
    lower (before ++ s ++ after)
        = before ++ lowerAfter ([] ++ before.reverse) (s ++ after) := by
          rw [lower, List.append_assoc, lowerAfter_settled_append hsettled, List.append_nil,
            List.nil_append]
    _ = before ++ lower s ++ after := by
          rw [lowerAfter_append_blank hreverse hafter, List.append_assoc, lower]

/-! ## Trimming -/

theorem trimStart_append_of_blank (hbefore : ∀ c ∈ before, isBlank c = true) (s : List Char) :
    trimStart (before ++ s) = trimStart s :=
  List.dropWhile_append_of_pos hbefore

theorem trimEnd_append_of_blank (hafter : ∀ c ∈ after, isBlank c = true) (s : List Char) :
    trimEnd (s ++ after) = trimEnd s := by
  rw [trimEnd, List.reverse_append,
    List.dropWhile_append_of_pos fun c hc => hafter c (List.mem_reverse.mp hc), trimEnd]

/-- Adding white space on either side is undone by trimming. -/
theorem trim_pad (hbefore : ∀ c ∈ before, isBlank c = true)
    (hafter : ∀ c ∈ after, isBlank c = true) (s : List Char) :
    trim (before ++ s ++ after) = trim s := by
  rw [trim, List.append_assoc, trimStart_append_of_blank hbefore, trimStart, List.dropWhile_append]
  split
  · -- the text is white space as well, and nothing is left of the whole
    rename_i hs
    have hstart : s.dropWhile isBlank = [] := List.isEmpty_iff.mp hs
    rw [List.dropWhile_eq_nil_iff.mpr hafter, trim, trimStart, hstart]
  · exact trimEnd_append_of_blank hafter _

/-- A text is its trimmed form with white space around it. -/
theorem exists_eq_pad_trim (s : List Char) :
    ∃ before after, (∀ c ∈ before, isBlank c = true) ∧ (∀ c ∈ after, isBlank c = true) ∧
      s = before ++ trim s ++ after := by
  refine ⟨s.takeWhile isBlank, (trimStart s).rtakeWhile isBlank,
    fun c hc => List.mem_takeWhile_imp hc, fun c hc => List.mem_rtakeWhile_imp hc, ?_⟩
  rw [trim, trimEnd_eq_rdropWhile, List.append_assoc, List.rdropWhile_append_rtakeWhile, trimStart,
    List.takeWhile_append_dropWhile]

theorem mem_of_mem_trim {s : List Char} {c : Char} (h : c ∈ trim s) : c ∈ s := by
  obtain ⟨before, after, _, _, hs⟩ := exists_eq_pad_trim s
  rw [hs]
  exact List.mem_append_left after (List.mem_append_right before h)

/-- Trimming and lower case may change places. -/
theorem trim_lower (s : List Char) : trim (lower s) = lower (trim s) := by
  obtain ⟨before, after, hbefore, hafter, hs⟩ := exists_eq_pad_trim s
  calc
    trim (lower s) = trim (before ++ lower (trim s) ++ after) := by
      rw [← lower_pad hbefore hafter, ← hs]
    _ = trim (lower (trim s)) := trim_pad hbefore hafter _
    _ = lower (trim s) := (trimmed_trim s).lower.trim_eq

end Fieldbus.Text
