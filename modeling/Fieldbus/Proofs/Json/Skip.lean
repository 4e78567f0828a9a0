import Fieldbus.Json.Skip
import Fieldbus.Proofs.Json.Reader

/-!
# Passing over what is written

Every written form of a value is passed over to its end, whatever stands behind it. A step for each
of its characters is enough.
-/
namespace Fieldbus.Json

variable {offset : Nat} {w t rest : List Char}

/-! ## Texts -/

theorem skipEscape_short {x y : Char} (h : shortEscape? x = some y) (rest : List Char)
    (offset : Nat) : skipEscape ⟨offset, x :: rest⟩ = .ok ⟨offset + 1, rest⟩ := by
  have hne : x ≠ 'u' := by
    rintro rfl
    cases h
  simp [skipEscape, hne, h, Cursor.skip]

theorem skipEscape_unit {a b c d : Char} {n : Nat} (h : hex4? a b c d = some n) (rest : List Char)
    (offset : Nat) :
    skipEscape ⟨offset, 'u' :: a :: b :: c :: d :: rest⟩ = .ok ⟨offset + 1 + 4, rest⟩ := by
  simp [skipEscape, unit16, h, Cursor.skip, bind, Except.bind, pure, Except.pure]

theorem skipText_escape (steps : Nat) {offset' : Nat} {t rest : List Char}
    (h : skipEscape ⟨offset + 1, t⟩ = .ok ⟨offset', rest⟩) :
    skipText (steps + 1) ⟨offset, '\\' :: t⟩ = skipText steps ⟨offset', rest⟩ := by
  have hskip : Cursor.skip ⟨offset, '\\' :: t⟩ 1 = ⟨offset + 1, t⟩ := rfl
  rw [skipText]
  simp only [hskip, h]
  rfl

/-- A character takes no more steps than it is long. -/
theorem skipText_char {x : Char} (h : SpellsChar x t) (rest : List Char) (steps offset : Nat) :
    ∃ steps' offset', steps ≤ steps' ∧
      skipText (steps + t.length) ⟨offset, t ++ rest⟩ = skipText steps' ⟨offset', rest⟩ := by
  cases h with
  | plain hcontrol hquote hslash =>
      refine ⟨steps, offset + x.utf8Size, Nat.le_refl steps, ?_⟩
      simp only [List.length_singleton, List.singleton_append, skipText, hquote, hslash,
        Nat.not_lt.mpr hcontrol, if_false]
  | short hy =>
      exact ⟨steps + 1, _, Nat.le_succ steps,
        skipText_escape (steps + 1) (skipEscape_short hy rest (offset + 1))⟩
  | unit hn =>
      exact ⟨steps + 5, _, Nat.le_add_right steps 5,
        skipText_escape (steps + 5) (skipEscape_unit hn rest (offset + 1))⟩
  | @pair _ _ _ _ _ e f g h' _ hhigh _ hlow =>
      refine ⟨steps + 10, offset + 1 + 1 + 4 + 1 + 1 + 4, Nat.le_add_right steps 10, ?_⟩
      refine (skipText_escape (steps + 11)
        (skipEscape_unit hhigh ('\\' :: 'u' :: e :: f :: g :: h' :: rest) (offset + 1))).trans ?_
      exact skipText_escape (steps + 10) (skipEscape_unit hlow rest (offset + 1 + 1 + 4 + 1))

theorem skipText_chars {s : List Char} (h : SpellsChars s t) (rest : List Char) :
    ∀ steps offset, t.length < steps →
      ∃ offset', skipText steps ⟨offset, t ++ '"' :: rest⟩ = .ok ⟨offset', rest⟩ := by
  induction h with
  | nil =>
      intro steps offset hsteps
      obtain ⟨steps, rfl⟩ := Nat.exists_eq_add_one_of_ne_zero (Nat.ne_zero_of_lt hsteps)
      exact ⟨offset + 1, rfl⟩
  | @cons x t s ts hx _ ih =>
      intro steps offset hsteps
      rw [List.length_append] at hsteps
      obtain ⟨left, rfl⟩ := Nat.exists_eq_add_of_le' (Nat.le_of_lt (Nat.lt_of_add_right_lt hsteps))
      obtain ⟨steps', behind, hle, hchar⟩ := skipText_char hx (ts ++ '"' :: rest) left offset
      obtain ⟨offset', htail⟩ := ih steps' behind (by omega)
      exact ⟨offset', by rw [List.append_assoc, hchar, htail]⟩

theorem skipText_text {s : String} (h : SpellsText s ('"' :: t)) (rest : List Char)
    (steps offset : Nat) (hsteps : t.length ≤ steps) :
    ∃ offset', skipText steps ⟨offset, t ++ rest⟩ = .ok ⟨offset', rest⟩ := by
  cases h with
  | @quoted body hbody =>
      rw [List.append_assoc]
      rw [List.length_append] at hsteps
      exact skipText_chars hbody rest steps offset hsteps

/-! ## Integers -/

theorem skipDigits_append {digits : List Char} (h : ∀ x ∈ digits, x.isDigit = true)
    (hrest : ∀ x ∈ rest.head?, x.isDigit = false) (offset : Nat) :
    skipDigits ⟨offset, digits ++ rest⟩ = ⟨offset + digits.length, rest⟩ := by
  simp [skipDigits, takeWhile_run h hrest, Cursor.skip]

theorem skipWhole_append (n : Nat) (hrest : ∀ x ∈ rest.head?, x.isDigit = false) (offset : Nat) :
    ∃ offset', skipWhole ⟨offset, Nat.toDigits 10 n ++ rest⟩ = .ok ⟨offset', rest⟩ := by
  have hdigits : ∀ x ∈ Nat.toDigits 10 n, x.isDigit = true :=
    fun x hx => Nat.isDigit_of_mem_toDigits (by decide) (by decide) hx
  cases hds : Nat.toDigits 10 n with
  | nil => exact absurd hds Nat.toDigits_ne_nil
  | cons d ds =>
      rw [hds] at hdigits
      have hsome : skipSomeDigits ⟨offset, d :: ds ++ rest⟩
          = .ok ⟨offset + (d :: ds).length, rest⟩ := by
        rw [← skipDigits_append hdigits hrest]
        simp [skipSomeDigits, hdigits d List.mem_cons_self]
      by_cases hzero : d = '0'
      · subst hzero
        obtain rfl := eq_nil_of_toDigits_zero hds
        cases rest with
        | nil => exact ⟨_, hsome⟩
        | cons y rest => exact ⟨offset + 1, by simp [skipWhole, hrest y rfl, Cursor.skip]⟩
      · exact ⟨_, by simpa [skipWhole, hzero] using hsome⟩

theorem skipFraction_of_ends (hrest : Ends rest) (offset : Nat) :
    skipFraction ⟨offset, rest⟩ = .ok ⟨offset, rest⟩ := by
  cases rest with
  | nil => rfl
  | cons x rest =>
      obtain ⟨-, hpoint, -⟩ := hrest.head? x rfl
      simp [skipFraction, hpoint]

theorem skipExponent_of_ends (hrest : Ends rest) (offset : Nat) :
    skipExponent ⟨offset, rest⟩ = .ok ⟨offset, rest⟩ := by
  cases rest with
  | nil => rfl
  | cons x rest =>
      obtain ⟨-, -, hsmall, hlarge⟩ := hrest.head? x rfl
      simp [skipExponent, hsmall, hlarge]

theorem skipNumber_append (i : Int) (hrest : Ends rest) (offset : Nat) :
    ∃ offset', skipNumber ⟨offset, renderInteger i ++ rest⟩ = .ok ⟨offset', rest⟩ := by
  obtain ⟨-, behind, hskip⟩ := renderInteger_sign i rest offset
  obtain ⟨offset', hwhole⟩ :=
    skipWhole_append i.natAbs (fun x hx => (hrest.head? x hx).1) behind
  refine ⟨offset', ?_⟩
  simp only [skipNumber, hskip, hwhole, skipFraction_of_ends hrest, skipExponent_of_ends hrest,
    bind, Except.bind]

/-! ## Values -/

/-- A text that is passed over, with any white space in front. -/
structure Passes (t : List Char) : Prop where
  opens : Opens t
  passes {w rest : List Char} : Gap w → Ends rest → ∀ steps offset, t.length ≤ steps →
    ∃ offset', skipSteps steps ⟨offset, w ++ (t ++ rest)⟩ = .ok ⟨offset', rest⟩

theorem Opens.length_pos (h : Opens t) : 0 < t.length := by
  obtain ⟨x, t', rfl, -⟩ := h
  exact Nat.succ_pos _

theorem passes_scalar {value : Value} (h : SpellsScalar value t) : Passes t where
  opens := h.opens
  passes {w rest} hw hrest steps offset hsteps := by
    obtain ⟨steps, rfl⟩ := Nat.exists_eq_add_one_of_ne_zero
      (Nat.ne_zero_of_lt (Nat.lt_of_lt_of_le h.opens.length_pos hsteps))
    rw [skipSteps, skipLayout_append hw (h.opens.head? rest)]
    generalize offset + w.length = offset
    cases h with
    | null => exact ⟨offset + 1 + 1 + 1 + 1, rfl⟩
    | true => exact ⟨offset + 1 + 1 + 1 + 1, rfl⟩
    | false => exact ⟨offset + 1 + 1 + 1 + 1 + 1, rfl⟩
    | @integer i =>
        obtain ⟨offset', hnumber⟩ := skipNumber_append i hrest offset
        obtain ⟨x, t', ht, hx⟩ := opens_renderInteger i
        obtain ⟨-, -, hn, ht', hf, hq⟩ := ne_of_sign_or_digit hx
        refine ⟨offset', ?_⟩
        rw [ht] at hnumber ⊢
        simpa only [List.cons_append, hn, ht', hf, hq, if_false, Bool.or_eq_true, decide_eq_true_eq,
          hx, if_true] using hnumber
    | text hs =>
        obtain ⟨t', rfl⟩ := hs.quote
        obtain ⟨offset', htext⟩ := skipText_text hs rest ('"' :: t' ++ rest).length (offset + 1)
          (by simp only [List.length_append, List.length_cons]; omega)
        exact ⟨offset', htext⟩

section Lists

variable {α : Type} {P : α → List Char → Prop}

/-- An item and those behind it, up to their closing bracket. -/
theorem skipItems_append (hP : ∀ a t, P a t → Passes t)
    {as : List α} {ts : List Char} (h : SpellsItems P false as ts) (ht : Passes t)
    (rest : List Char) (hw : Gap w) (steps offset : Nat) (hsteps : t.length + ts.length < steps) :
    ∃ offset', skipItems steps ⟨offset, w ++ (t ++ (ts ++ ']' :: rest))⟩
      = .ok ⟨offset', rest⟩ := by
  induction as generalizing t ts w steps offset with
  | nil =>
      obtain ⟨steps, rfl⟩ := Nat.exists_eq_add_one_of_ne_zero (Nat.ne_zero_of_lt hsteps)
      have hends : Ends (ts ++ ']' :: rest) := h.ends (by simp [Ends])
      obtain ⟨behind, hitem⟩ := ht.passes hw hends steps offset (by omega)
      cases h with
      | nil hts =>
          refine ⟨behind + ts.length + 1, ?_⟩
          simp only [skipItems, hitem, bind, Except.bind, skipLayout_token hts (x := ']') rfl]
          rfl
  | cons a as ih =>
      obtain ⟨steps, rfl⟩ := Nat.exists_eq_add_one_of_ne_zero (Nat.ne_zero_of_lt hsteps)
      have hends : Ends (ts ++ ']' :: rest) := h.ends (by simp [Ends])
      obtain ⟨behind, hitem⟩ := ht.passes hw hends steps offset (by omega)
      cases h with
      | @cons _ lead _ t' _ ts' hlead ha has =>
          cases hlead with
          | @next v v' hv hv' =>
              have hpos := ht.opens.length_pos
              simp only [List.length_append, List.length_cons] at hsteps
              obtain ⟨offset', hitems⟩ := ih has (hP _ _ ha) hv' steps (behind + v.length + 1)
                (by omega)
              refine ⟨offset', ?_⟩
              simp only [List.append_assoc, List.cons_append] at hitem ⊢
              simp only [skipItems, hitem, bind, Except.bind, skipLayout_token hv (x := ',') rfl]
              exact hitems

theorem skipName_append {name : String} {n w' : List Char} (hw : Gap w) (hname : SpellsText name n)
    (hw' : Gap w') (rest : List Char) (offset : Nat) :
    ∃ offset', skipName ⟨offset, w ++ (n ++ (w' ++ ':' :: rest))⟩ = .ok ⟨offset', rest⟩ := by
  obtain ⟨n', rfl⟩ := hname.quote
  obtain ⟨behind, htext⟩ := skipText_text hname (w' ++ ':' :: rest)
    ('"' :: n' ++ (w' ++ ':' :: rest)).length (offset + w.length + 1)
    (by simp only [List.length_append, List.length_cons]; omega)
  refine ⟨behind + w'.length + 1, ?_⟩
  rw [List.cons_append] at htext ⊢
  simp only [skipName, skipLayout_token hw (x := '"') rfl]
  simp only [Cursor.skip, List.drop_succ_cons, List.drop_zero, htext, colon_append hw', bind,
    Except.bind]

/-- A member is passed over in two goes: up to its value, and that value. -/
theorem skipMember_append (hP : ∀ a t, P a t → Passes t)
    {m : String × α} (h : SpellsMember P m t) (hw : Gap w) (hrest : Ends rest) (steps offset : Nat)
    (hsteps : t.length ≤ steps) :
    ∃ c offset', skipName ⟨offset, w ++ (t ++ rest)⟩ = .ok c ∧
      skipSteps steps c = .ok ⟨offset', rest⟩ := by
  cases h with
  | @named _ a n v v' t hname hv hv' ha =>
      simp only [List.length_append, List.length_cons] at hsteps
      obtain ⟨behind, hbehind⟩ := skipName_append hw hname hv (v' ++ (t ++ rest)) offset
      obtain ⟨offset', hvalue⟩ := (hP a t ha).passes hv' hrest steps behind (by omega)
      refine ⟨_, offset', ?_, hvalue⟩
      simpa only [List.append_assoc, List.cons_append] using hbehind

/-- A member and those behind it, up to their closing brace. -/
theorem skipMembers_append (hP : ∀ a t, P a t → Passes t)
    {m : String × α} {ms : List (String × α)} {ts : List Char}
    (h : SpellsItems (SpellsMember P) false ms ts) (ht : SpellsMember P m t)
    (rest : List Char) (hw : Gap w) (steps offset : Nat) (hsteps : t.length + ts.length < steps) :
    ∃ offset', skipMembers steps ⟨offset, w ++ (t ++ (ts ++ '\x7d' :: rest))⟩
      = .ok ⟨offset', rest⟩ := by
  induction ms generalizing m t ts w steps offset with
  | nil =>
      obtain ⟨steps, rfl⟩ := Nat.exists_eq_add_one_of_ne_zero (Nat.ne_zero_of_lt hsteps)
      have hends : Ends (ts ++ '\x7d' :: rest) := h.ends (by simp [Ends])
      obtain ⟨c, behind, hname, hvalue⟩ := skipMember_append hP ht hw hends steps offset (by omega)
      cases h with
      | nil hts =>
          refine ⟨behind + ts.length + 1, ?_⟩
          simp only [skipMembers, hname, hvalue, bind, Except.bind,
            skipLayout_token hts (x := '\x7d') rfl]
          rfl
  | cons m' ms ih =>
      obtain ⟨steps, rfl⟩ := Nat.exists_eq_add_one_of_ne_zero (Nat.ne_zero_of_lt hsteps)
      have hends : Ends (ts ++ '\x7d' :: rest) := h.ends (by simp [Ends])
      obtain ⟨c, behind, hname, hvalue⟩ := skipMember_append hP ht hw hends steps offset (by omega)
      cases h with
      | @cons _ lead _ t' _ ts' hlead hm hms =>
          cases hlead with
          | @next v v' hv hv' =>
              simp only [List.length_append, List.length_cons] at hsteps
              obtain ⟨offset', hmembers⟩ := ih hms hm hv' steps (behind + v.length + 1) (by omega)
              refine ⟨offset', ?_⟩
              simp only [List.append_assoc, List.cons_append] at hname hvalue ⊢
              simp only [skipMembers, hname, hvalue, bind, Except.bind,
                skipLayout_token hv (x := ',') rfl]
              exact hmembers

theorem skipSteps_array (hP : ∀ a t, P a t → Passes t)
    {as : List α} (h : SpellsItems P true as t) (hw : Gap w) (rest : List Char) (steps offset : Nat)
    (hsteps : t.length < steps) :
    ∃ offset', skipSteps (steps + 1) ⟨offset, w ++ '[' :: (t ++ ']' :: rest)⟩
      = .ok ⟨offset', rest⟩ := by
  rw [skipSteps, skipLayout_token hw rfl]
  generalize offset + w.length = offset
  cases h with
  | nil ht =>
      refine ⟨offset + 1 + t.length + 1, ?_⟩
      simp only [Cursor.skip, List.drop_succ_cons, List.drop_zero,
        skipLayout_token ht (x := ']') rfl]
      rfl
  | @cons _ lead a t _ ts hlead ha has =>
      cases hlead with
      | first hlead =>
          rw [List.length_append, List.length_append] at hsteps
          obtain ⟨offset', hitems⟩ := skipItems_append hP has (hP a t ha) rest gap_nil steps
            (offset + 1 + lead.length) (by omega)
          obtain ⟨x, t', rfl, hx, hbracket⟩ := (hP a t ha).opens
          refine ⟨offset', ?_⟩
          simp only [List.append_assoc, List.cons_append, List.nil_append] at hitems ⊢
          simp only [Cursor.skip, List.drop_succ_cons, List.drop_zero, skipLayout_token hlead hx]
          simpa [hbracket] using hitems

theorem SpellsMember.quote {m : String × α} (h : SpellsMember P m t) : ∃ t', t = '"' :: t' := by
  cases h with
  | named hname =>
      obtain ⟨n', rfl⟩ := hname.quote
      exact ⟨_, rfl⟩

theorem skipSteps_object (hP : ∀ a t, P a t → Passes t)
    {ms : List (String × α)} (h : SpellsItems (SpellsMember P) true ms t) (hw : Gap w)
    (rest : List Char) (steps offset : Nat) (hsteps : t.length < steps) :
    ∃ offset', skipSteps (steps + 1) ⟨offset, w ++ '\x7b' :: (t ++ '\x7d' :: rest)⟩
      = .ok ⟨offset', rest⟩ := by
  rw [skipSteps, skipLayout_token hw rfl]
  generalize offset + w.length = offset
  cases h with
  | nil ht =>
      refine ⟨offset + 1 + t.length + 1, ?_⟩
      simp only [Cursor.skip, List.drop_succ_cons, List.drop_zero,
        skipLayout_token ht (x := '\x7d') rfl]
      rfl
  | @cons _ lead m t _ ts hlead hm hms =>
      cases hlead with
      | first hlead =>
          rw [List.length_append, List.length_append] at hsteps
          obtain ⟨offset', hmembers⟩ := skipMembers_append hP hms hm rest gap_nil steps
            (offset + 1 + lead.length) (by omega)
          obtain ⟨t', rfl⟩ := hm.quote
          refine ⟨offset', ?_⟩
          simp only [List.append_assoc, List.cons_append, List.nil_append] at hmembers ⊢
          simp only [Cursor.skip, List.drop_succ_cons, List.drop_zero,
            skipLayout_token hlead (x := '"') rfl]
          exact hmembers

end Lists

theorem passes_nested {inner : Value → List Char → Prop} (h : ∀ v t, inner v t → Passes t)
    {value : Value} (ht : SpellsNested inner value t) : Passes t := by
  cases ht with
  | array ht =>
      refine ⟨opens_bracket _, fun {w rest} hw _ steps offset hsteps => ?_⟩
      obtain ⟨steps, rfl⟩ := Nat.exists_eq_add_one_of_ne_zero (Nat.ne_zero_of_lt hsteps)
      rw [List.length_cons, List.length_append] at hsteps
      rw [List.cons_append, List.append_assoc]
      exact skipSteps_array h ht hw rest steps offset (Nat.le_of_succ_le_succ hsteps)
  | object ht =>
      refine ⟨opens_brace _, fun {w rest} hw _ steps offset hsteps => ?_⟩
      obtain ⟨steps, rfl⟩ := Nat.exists_eq_add_one_of_ne_zero (Nat.ne_zero_of_lt hsteps)
      rw [List.length_cons, List.length_append] at hsteps
      rw [List.cons_append, List.append_assoc]
      exact skipSteps_object h ht hw rest steps offset (Nat.le_of_succ_le_succ hsteps)

theorem passes_value {depth : Nat} {value : Value} (h : Spells depth value t) : Passes t := by
  induction depth generalizing value t with
  | zero => exact passes_scalar h
  | succ depth ih => exact h.elim passes_scalar (passes_nested fun _ _ => ih)

theorem skipValue_append (h : Passes t) (hw : Gap w) (hrest : Ends rest) (offset : Nat) :
    ∃ offset', skipValue ⟨offset, w ++ (t ++ rest)⟩ = .ok ⟨offset', rest⟩ :=
  h.passes hw hrest _ offset (by simp only [List.length_append]; omega)

end Fieldbus.Json
