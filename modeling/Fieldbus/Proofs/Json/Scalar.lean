import Fieldbus.Json.Head
import Fieldbus.Proofs.Json.Spelling

/-!
# Reading values that hold no others

Each reader is shown to take what is written for a value and to leave what stands behind it, white
space included. For a number it matters what that is, because more digits would belong to it.
-/
namespace Fieldbus.Json

variable {offset : Nat} {rest : List Char}

/-! ## Runs of characters -/

section Run

variable {p : Char → Bool} {run : List Char}

theorem takeWhile_run (hrun : ∀ x ∈ run, p x = true) (hrest : ∀ x ∈ rest.head?, p x = false) :
    (run ++ rest).takeWhile p = run := by
  rw [List.takeWhile_append_of_pos hrun]
  cases rest with
  | nil => exact List.append_nil run
  | cons x rest => simp [hrest x rfl]

theorem dropWhile_run (hrun : ∀ x ∈ run, p x = true) (hrest : ∀ x ∈ rest.head?, p x = false) :
    (run ++ rest).dropWhile p = rest := by
  rw [List.dropWhile_append_of_pos hrun]
  cases rest with
  | nil => rfl
  | cons x rest => simp [hrest x rfl]

end Run

theorem skipLayout_append {w : List Char} (hw : Gap w)
    (hrest : ∀ x ∈ rest.head?, Cursor.isLayout x = false) (offset : Nat) :
    Cursor.skipLayout ⟨offset, w ++ rest⟩ = ⟨offset + w.length, rest⟩ := by
  rw [Cursor.skipLayout, takeWhile_run hw hrest, dropWhile_run hw hrest]

/-- White space ends where a token begins. -/
theorem skipLayout_token {w : List Char} {x : Char} (hw : Gap w) (hx : Cursor.isLayout x = false)
    (rest : List Char) (offset : Nat) :
    Cursor.skipLayout ⟨offset, w ++ x :: rest⟩ = ⟨offset + w.length, x :: rest⟩ := by
  refine skipLayout_append hw (fun y hy => ?_) offset
  cases hy
  exact hx

/-! ## Texts -/

theorem escapeReader_append {x : Char} {t : List Char} (h : SpellsChar x ('\\' :: t))
    (rest : List Char) (offset : Nat) :
    ∃ offset', escapeReader ⟨offset, t ++ rest⟩ = .ok (x, ⟨offset', rest⟩) := by
  cases h with
  | plain _ _ hne => exact absurd rfl hne
  | @short y _ hy =>
      have hne : y ≠ 'u' := by
        rintro rfl
        cases hy
      exact ⟨offset + 1, by simp [escapeReader, hne, hy, Cursor.skip]⟩
  | unit hn hlow hhigh =>
      exact ⟨offset + 1 + 4, by
        simp [escapeReader, unicodeEscape, unit16, hn, hlow, hhigh, Cursor.skip, bind, Except.bind,
          pure, Except.pure]⟩
  | @pair _ _ _ _ high _ _ _ _ low hfirst hhigh hsecond hlow =>
      have hnot : isLowSurrogate high = false := by
        simp only [isHighSurrogate, isLowSurrogate, Bool.and_eq_true, Bool.and_eq_false_iff,
          decide_eq_true_eq, decide_eq_false_iff_not] at hhigh ⊢
        omega
      exact ⟨offset + 1 + 4 + 1 + 1 + 4, by
        simp [escapeReader, unicodeEscape, unit16, pairMark, hfirst, hnot, hhigh, hsecond, hlow,
          Cursor.skip, bind, Except.bind, pure, Except.pure]⟩

theorem textBody_char {x : Char} {t : List Char} (h : SpellsChar x t) (rest : List Char)
    (steps offset : Nat) :
    ∃ offset', textBody (steps + 1) ⟨offset, t ++ rest⟩
      = (textBody steps ⟨offset', rest⟩).map fun (s, c) => (x :: s, c) := by
  have hescape : ∀ t', t = '\\' :: t' → ∃ offset', textBody (steps + 1) ⟨offset, t ++ rest⟩
      = (textBody steps ⟨offset', rest⟩).map fun (s, c) => (x :: s, c) := by
    rintro t' rfl
    obtain ⟨offset', hreader⟩ := escapeReader_append h rest (offset + 1)
    have hskip : Cursor.skip ⟨offset, '\\' :: (t' ++ rest)⟩ 1 = ⟨offset + 1, t' ++ rest⟩ := rfl
    refine ⟨offset', ?_⟩
    simp only [List.cons_append, textBody, hskip, hreader]
    rfl
  cases h with
  | plain hcontrol hquote hslash =>
      refine ⟨offset + x.utf8Size, ?_⟩
      simp only [List.cons_append, List.nil_append, textBody, hquote, hslash, Nat.not_lt.mpr hcontrol,
        if_false]
      rfl
  | short => exact hescape _ rfl
  | unit => exact hescape _ rfl
  | pair => exact hescape _ rfl

theorem textBody_append {s t : List Char} (h : SpellsChars s t) (rest : List Char) :
    ∀ steps offset, s.length < steps →
      ∃ offset', textBody steps ⟨offset, t ++ '"' :: rest⟩ = .ok (s, ⟨offset', rest⟩) := by
  induction h with
  | nil =>
      intro steps offset hsteps
      obtain ⟨steps, rfl⟩ := Nat.exists_eq_add_one_of_ne_zero (Nat.ne_of_gt hsteps)
      exact ⟨offset + 1, rfl⟩
  | @cons x t s ts hx _ ih =>
      intro steps offset hsteps
      obtain ⟨steps, rfl⟩ := Nat.exists_eq_add_one_of_ne_zero (Nat.ne_zero_of_lt hsteps)
      rw [List.append_assoc]
      obtain ⟨behind, hchar⟩ := textBody_char hx (ts ++ '"' :: rest) steps offset
      obtain ⟨offset', htail⟩ := ih steps behind (Nat.lt_of_succ_lt_succ hsteps)
      refine ⟨offset', ?_⟩
      rw [hchar, htail]
      rfl

theorem SpellsChars.length_le {s t : List Char} (h : SpellsChars s t) : s.length ≤ t.length := by
  induction h with
  | nil => exact Nat.le_refl 0
  | cons hx _ ih =>
      rw [List.length_cons, List.length_append]
      cases hx <;> simp only [List.length_cons, List.length_nil] <;> omega

theorem textReader_append {s : String} {t : List Char} (h : SpellsText s ('"' :: t))
    (rest : List Char) (offset : Nat) :
    ∃ offset', textReader ⟨offset, t ++ rest⟩ = .ok (s, ⟨offset', rest⟩) := by
  cases h with
  | @quoted body hbody =>
      rw [List.append_assoc]
      have hsteps : s.toList.length < (body ++ ('"' :: rest)).length + 1 := by
        have hle := hbody.length_le
        rw [List.length_append]
        omega
      obtain ⟨offset', hreader⟩ := textBody_append hbody rest _ offset hsteps
      refine ⟨offset', ?_⟩
      simp only [textReader, List.singleton_append, hreader, bind, Except.bind, pure, Except.pure,
        String.ofList_toList]

/-! ## Integers -/

/-- What may stand behind a value. -/
def Ends (rest : List Char) : Prop :=
  ∀ x ∈ rest.head?, Cursor.isLayout x = true ∨ x = ',' ∨ x = ']' ∨ x = '\x7d'

theorem Ends.head? (h : Ends rest) : ∀ x ∈ rest.head?,
    x.isDigit = false ∧ x ≠ '.' ∧ x ≠ 'e' ∧ x ≠ 'E' := by
  intro x hx
  have hcases : x = ' ' ∨ x = '\n' ∨ x = '\t' ∨ x = '\r' ∨ x = ',' ∨ x = ']' ∨ x = '\x7d' := by
    rcases h x hx with hlayout | hmark
    · simp only [Cursor.isLayout, Bool.or_eq_true, decide_eq_true_eq] at hlayout
      tauto
    · tauto
  rcases hcases with rfl | rfl | rfl | rfl | rfl | rfl | rfl <;> decide

theorem fractionDigits_of_ends (hrest : Ends rest) (offset : Nat) :
    fractionDigits ⟨offset, rest⟩ = .ok (none, ⟨offset, rest⟩) := by
  cases rest with
  | nil => rfl
  | cons x rest =>
      obtain ⟨-, hpoint, -⟩ := hrest.head? x rfl
      simp [fractionDigits, hpoint]

theorem exponentPart_of_ends (hrest : Ends rest) (isZero : Bool) (offset : Nat) :
    exponentPart isZero ⟨offset, rest⟩ = .ok (none, ⟨offset, rest⟩) := by
  cases rest with
  | nil => rfl
  | cons x rest =>
      obtain ⟨-, -, hsmall, hlarge⟩ := hrest.head? x rfl
      simp [exponentPart, hsmall, hlarge]

theorem eq_nil_of_toDigits_zero {n : Nat} {ds : List Char} (h : Nat.toDigits 10 n = '0' :: ds) :
    ds = [] := by
  induction n using Nat.strongRecOn generalizing ds with
  | ind n ih =>
      rw [Nat.toDigits_eq_if (by decide)] at h
      split at h
      · exact (List.cons.inj h).2.symm
      · rename_i hge
        have hval := Nat.ofDigitChars_toDigits (b := 10) (n := n / 10) (by decide) (by decide)
        cases hds : Nat.toDigits 10 (n / 10) with
        | nil => exact absurd hds Nat.toDigits_ne_nil
        | cons d ds' =>
            -- the digits in front would be a lone zero, and then there are none in front
            rw [hds] at h hval
            obtain ⟨rfl, -⟩ := List.cons.inj h
            rw [ih (n / 10) (by omega) hds] at hval
            have hzero : n / 10 = 0 := hval.symm
            omega

theorem wholeDigits_append (n : Nat) (hrest : ∀ x ∈ rest.head?, x.isDigit = false) (offset : Nat) :
    wholeDigits ⟨offset, Nat.toDigits 10 n ++ rest⟩
      = .ok (Nat.toDigits 10 n, ⟨offset + (Nat.toDigits 10 n).length, rest⟩) := by
  have hdigits : ∀ x ∈ Nat.toDigits 10 n, x.isDigit = true :=
    fun x hx => Nat.isDigit_of_mem_toDigits (by decide) (by decide) hx
  cases hds : Nat.toDigits 10 n with
  | nil => exact absurd hds Nat.toDigits_ne_nil
  | cons d ds =>
      rw [hds] at hdigits
      have hrun := takeWhile_run hdigits hrest
      by_cases hzero : d = '0'
      · subst hzero
        obtain rfl := eq_nil_of_toDigits_zero hds
        cases rest with
        | nil => rfl
        | cons x rest => simp [wholeDigits, hrest x rfl, Cursor.skip]
      · simp only [wholeDigits, List.cons_append, hzero, if_false, hdigits d List.mem_cons_self,
          if_true]
        rw [← List.cons_append, hrun]
        simp [Cursor.skip]

theorem le_ofDigitChars (ds : List Char) (m : Nat) : m ≤ Nat.ofDigitChars 10 ds m := by
  induction ds generalizing m with
  | nil => exact Nat.le_refl m
  | cons d ds ih => exact Nat.le_trans (by omega) (ih (10 * m + (d.toNat - '0'.toNat)))

theorem absorb_of_lt {ds : List Char} {m : Nat}
    (h : Nat.ofDigitChars 10 ds m < 0x10000000000000000) :
    absorb m ds = (Nat.ofDigitChars 10 ds m, []) := by
  induction ds generalizing m with
  | nil => rfl
  | cons d ds ih =>
      have hnext : Nat.ofDigitChars 10 (d :: ds) m
          = Nat.ofDigitChars 10 ds (m * 10 + (d.toNat - '0'.toNat)) := by
        rw [Nat.mul_comm]
        rfl
      rw [hnext] at h ⊢
      rw [absorb, if_pos (Nat.lt_of_le_of_lt (le_ofDigitChars ds _) h), ih h]

theorem integer?_natAbs (i : Int) (h : -0x8000000000000000 ≤ i ∧ i < 0x10000000000000000) :
    integer? (decide (i < 0)) i.natAbs = some (.integer i h) := by
  by_cases hneg : i < 0
  · have hrange : 0 < i.natAbs ∧ i.natAbs ≤ 0x8000000000000000 := by omega
    have hval : -(i.natAbs : Int) = i := by omega
    simp only [integer?, hneg, decide_true, if_true, hrange, and_self, dif_pos, hval]
  · have hrange : i.natAbs < 0x10000000000000000 := by omega
    have hval : (i.natAbs : Int) = i := by omega
    simp only [integer?, hneg, decide_false, Bool.false_eq_true, if_false, hrange, dif_pos, hval]

/-- The sign tells a negative number, and behind it stand the digits alone. -/
theorem renderInteger_sign (i : Int) (rest : List Char) (offset : Nat) :
    ((renderInteger i ++ rest).head? = some '-' ↔ i < 0) ∧
      ∃ offset', (if (renderInteger i ++ rest).head? = some '-'
        then Cursor.skip ⟨offset, renderInteger i ++ rest⟩ 1
        else ⟨offset, renderInteger i ++ rest⟩) = ⟨offset', Nat.toDigits 10 i.natAbs ++ rest⟩ := by
  by_cases hneg : i < 0
  · refine ⟨by simp [renderInteger, hneg], offset + 1, ?_⟩
    simp [renderInteger, hneg, Cursor.skip]
  · have hhead : (Nat.toDigits 10 i.natAbs ++ rest).head? ≠ some '-' := by
      cases hds : Nat.toDigits 10 i.natAbs with
      | nil => exact absurd hds Nat.toDigits_ne_nil
      | cons d ds =>
          intro hd
          obtain rfl : d = '-' := Option.some.inj hd
          exact absurd (Nat.isDigit_of_mem_toDigits (b := 10) (n := i.natAbs) (by decide)
            (by decide) (hds ▸ List.mem_cons_self)) (by decide)
    rw [renderInteger, if_neg hneg]
    exact ⟨iff_of_false hhead hneg, offset, if_neg hhead⟩

theorem numeralReader_append (i : Int) (h : -0x8000000000000000 ≤ i ∧ i < 0x10000000000000000)
    (hrest : Ends rest) (offset : Nat) :
    ∃ offset', numeralReader ⟨offset, renderInteger i ++ rest⟩
      = .ok (.integer i h, ⟨offset', rest⟩) := by
  have hdigit : ∀ x ∈ rest.head?, x.isDigit = false := fun x hx => (hrest.head? x hx).1
  have hvalue := Nat.ofDigitChars_toDigits (b := 10) (n := i.natAbs) (by decide) (by decide)
  have habsorb : absorb 0 (Nat.toDigits 10 i.natAbs) = (i.natAbs, []) := by
    rw [absorb_of_lt (by rw [hvalue]; omega), hvalue]
  -- what may stand behind a value is neither a point nor an exponent, so an integer is made
  obtain ⟨hsign, behind, hskip⟩ := renderInteger_sign i rest offset
  refine ⟨behind + (Nat.toDigits 10 i.natAbs).length, ?_⟩
  have hinteger := integer?_natAbs i h
  simp only [← hsign] at hinteger
  simp only [numeralReader, hskip, wholeDigits_append _ hdigit, habsorb, fractionDigits_of_ends hrest,
    exponentPart_of_ends hrest, bind, Except.bind,
    pure, Except.pure, Option.getD_none, absorb, Option.isNone_none, List.isEmpty_nil, Bool.and_self,
    if_true, hinteger, Option.getD_some]

/-! ## Heads -/

/-- How a value begins: neither with white space, which readers pass over, nor with the bracket
that would end an array. -/
def Opens (t : List Char) : Prop :=
  ∃ x t', t = x :: t' ∧ Cursor.isLayout x = false ∧ x ≠ ']'

theorem Opens.head? {t : List Char} (h : Opens t) (rest : List Char) :
    ∀ x ∈ (t ++ rest).head?, Cursor.isLayout x = false := by
  obtain ⟨x, t', rfl, hx, -⟩ := h
  intro y hy
  cases hy
  exact hx

theorem opens_renderInteger (i : Int) :
    ∃ x t', renderInteger i = x :: t' ∧ (x = '-' ∨ x.isDigit = true) := by
  rw [renderInteger]
  split
  · exact ⟨'-', _, rfl, .inl rfl⟩
  · cases hds : Nat.toDigits 10 i.natAbs with
    | nil => exact absurd hds Nat.toDigits_ne_nil
    | cons d ds =>
        refine ⟨d, ds, rfl, .inr ?_⟩
        exact Nat.isDigit_of_mem_toDigits (b := 10) (n := i.natAbs) (by decide) (by decide)
          (hds ▸ List.mem_cons_self)

/-- Nothing that begins another value is a sign or a digit. -/
theorem ne_of_sign_or_digit {x : Char} (hx : x = '-' ∨ x.isDigit = true) :
    Cursor.isLayout x = false ∧ x ≠ ']' ∧ x ≠ 'n' ∧ x ≠ 't' ∧ x ≠ 'f' ∧ x ≠ '"' := by
  have hne : ∀ y : Char, (y = '-' ∨ y.isDigit = true → False) → x ≠ y := by
    rintro y hy rfl
    exact hy hx
  have hlayout : x ≠ ' ' ∧ x ≠ '\n' ∧ x ≠ '\t' ∧ x ≠ '\r' :=
    ⟨hne _ (by decide), hne _ (by decide), hne _ (by decide), hne _ (by decide)⟩
  exact ⟨by simp [Cursor.isLayout, hlayout], hne _ (by decide), hne _ (by decide),
    hne _ (by decide), hne _ (by decide), hne _ (by decide)⟩

theorem SpellsScalar.opens {value : Value} {t : List Char} (h : SpellsScalar value t) :
    Opens t := by
  cases h with
  | null => exact ⟨'n', _, rfl, by decide, by decide⟩
  | true => exact ⟨'t', _, rfl, by decide, by decide⟩
  | false => exact ⟨'f', _, rfl, by decide, by decide⟩
  | @integer i =>
      obtain ⟨x, t', hi, hx⟩ := opens_renderInteger i
      obtain ⟨hlayout, hbracket, -⟩ := ne_of_sign_or_digit hx
      exact ⟨x, t', hi, hlayout, hbracket⟩
  | text hs =>
      cases hs
      exact ⟨'"', _, rfl, by decide, by decide⟩

/-- What the reader of heads tells of a value. -/
def Value.head : Value → Head
  | null => .null
  | boolean value => .boolean value
  | number value => .number value
  | text value => .text value
  | array _ => .sequence
  | object _ => .map

theorem headReader_scalar {value : Value} {w t : List Char} (h : SpellsScalar value t)
    (hw : Gap w) (hrest : Ends rest) (offset : Nat) :
    ∃ offset', headReader ⟨offset, w ++ (t ++ rest)⟩ = .ok (value.head, ⟨offset', rest⟩) := by
  rw [headReader, skipLayout_append hw (h.opens.head? rest)]
  generalize offset + w.length = offset
  cases h with
  | null => exact ⟨offset + 1 + 1 + 1 + 1, rfl⟩
  | true => exact ⟨offset + 1 + 1 + 1 + 1, rfl⟩
  | false => exact ⟨offset + 1 + 1 + 1 + 1 + 1, rfl⟩
  | @integer i hi =>
      obtain ⟨offset', hreader⟩ := numeralReader_append i hi hrest offset
      obtain ⟨x, t', ht, hx⟩ := opens_renderInteger i
      obtain ⟨-, -, hn, ht', hf, hq⟩ := ne_of_sign_or_digit hx
      refine ⟨offset', ?_⟩
      rw [ht] at hreader ⊢
      simp only [List.cons_append, hn, ht', hf, hq, if_false, Bool.or_eq_true, decide_eq_true_eq, hx,
        if_true]
      rw [← List.cons_append, hreader]
      rfl
  | text hs =>
      obtain ⟨t', rfl⟩ := hs.quote
      obtain ⟨offset', hreader⟩ := textReader_append hs rest (offset + 1)
      have hskip : Cursor.skip ⟨offset, '"' :: (t' ++ rest)⟩ 1 = ⟨offset + 1, t' ++ rest⟩ := rfl
      refine ⟨offset', ?_⟩
      simp only [List.cons_append, hskip, hreader]
      rfl

theorem headReader_bracket {w : List Char} (hw : Gap w) (offset : Nat) :
    headReader ⟨offset, w ++ '[' :: rest⟩ = .ok (.sequence, ⟨offset + w.length, '[' :: rest⟩) := by
  rw [headReader, skipLayout_token hw rfl]
  rfl

theorem headReader_brace {w : List Char} (hw : Gap w) (offset : Nat) :
    headReader ⟨offset, w ++ '\x7b' :: rest⟩ = .ok (.map, ⟨offset + w.length, '\x7b' :: rest⟩) := by
  rw [headReader, skipLayout_token hw rfl]
  rfl

end Fieldbus.Json
