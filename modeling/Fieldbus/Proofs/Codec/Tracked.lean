import Fieldbus.Packet
import Fieldbus.Tracked

/-!
# What the codecs are built from

A codec checks the length of the payload, may fail on the way, and stores values in slots while it
notices changes. The mark that a store leaves is exact: it is set when, and only when, the state is
another one than before.
-/
namespace Fieldbus

/-! ## Failing on the way -/

section Failure

variable {ε ε' α β : Type} {x : Except ε α} {f : ε → ε'} {g : α → β}

theorem mapError_ok (f : ε → ε') (a : α) : (Except.ok a : Except ε α).mapError f = .ok a := rfl

theorem mapError_error (f : ε → ε') (e : ε) :
    (Except.error e : Except ε α).mapError f = .error (f e) := rfl

theorem map_mapError_eq_ok {b : β} :
    (x.mapError f).map g = .ok b ↔ ∃ a, x = .ok a ∧ g a = b := by
  cases x <;> simp [mapError_ok, mapError_error, Except.map]

theorem map_mapError_eq_error {e : ε'} :
    (x.mapError f).map g = .error e ↔ ∃ e₀, x = .error e₀ ∧ f e₀ = e := by
  cases x <;> simp [mapError_ok, mapError_error, Except.map]

theorem mapError_eq_ok {a : α} : x.mapError f = .ok a ↔ x = .ok a := by
  cases x <;> simp [mapError_ok, mapError_error]

theorem mapError_eq_error {e : ε'} : x.mapError f = .error e ↔ ∃ e₀, x = .error e₀ ∧ f e₀ = e := by
  cases x <;> simp [mapError_ok, mapError_error]

theorem bind_eq_ok {b : β} {k : α → Except ε β} :
    (x >>= k) = .ok b ↔ ∃ a, x = .ok a ∧ k a = .ok b := by
  cases x <;> simp [bind, Except.bind]

theorem bind_eq_error {e : ε} {k : α → Except ε β} :
    (x >>= k) = .error e ↔ x = .error e ∨ ∃ a, x = .ok a ∧ k a = .error e := by
  cases x <;> simp [bind, Except.bind]

theorem mapError_bind (x : Except ε α) (k : α → Except ε β) (f : ε → ε') :
    (x >>= k).mapError f = x.mapError f >>= fun a => (k a).mapError f := by
  cases x <;> rfl

theorem map_eq_bind (x : Except ε α) (g : α → β) : x.map g = x >>= fun a => .ok (g a) := by
  cases x <;> rfl

end Failure

namespace Packet

variable {p : Packet} {n : Nat}

theorem payload_of_le (h : n ≤ p.data.length) : p.payload n = .ok ⟨p.data, h⟩ :=
  dif_pos h

theorem payload_of_lt (h : p.data.length < n) :
    p.payload n = .error (.shortPayload p.command n p.data.length) :=
  dif_neg (by omega)

theorem not_isLevelReport (hc : p.command = .singleChannelControl) :
    ¬ p.command.isLevelReport = true := by
  rw [hc]
  exact Bool.false_ne_true

end Packet

namespace Tracked

variable {σ τ α : Type}

/-! ## One slot -/

section Slot

variable [BEq α] {slot : Option α} {value : α}

theorem changed_put (hv : (value == value) = true) :
    (put slot value).changed = true ↔ (put slot value).state ≠ slot := by
  unfold put
  split
  · simp
  · rename_i hne
    simp only [true_iff, ne_eq]
    rintro rfl
    exact hne hv

theorem put_of_lawful [LawfulBEq α] (slot : Option α) (value : α) :
    put slot value = ⟨some value, slot != some value⟩ := by
  unfold put
  split
  · rename_i h
    obtain rfl := eq_of_beq h
    simp
  · rename_i h
    simp [bne, eq_false_of_ne_true h]

end Slot

/-- A value that is stored again finds itself, or what it was equal to. -/
theorem put_put [BEq α] {value : α} (hv : (value == value) = true) (slot : Option α) :
    put (put slot value).state value = start (put slot value).state := by
  by_cases h : (slot == some value) = true
  · have hput : put slot value = start slot := if_pos h
    rw [hput]
    exact hput
  · have hput : put slot value = ⟨some value, true⟩ := if_neg h
    rw [hput]
    exact if_pos hv

/-! ## Slots in a row -/

theorem putAll_nil [BEq α] (slots : List (Option α)) : putAll slots [] = start slots := by
  cases slots <;> rfl

theorem state_putAll [BEq α] [LawfulBEq α] {slots : List (Option α)} {values : List α}
    (h : slots.length = values.length) : (putAll slots values).state = values.map some := by
  induction slots generalizing values with
  | nil => cases values with
    | nil => rfl
    | cons value values => simp at h
  | cons slot slots ih =>
      cases values with
      | nil => simp at h
      | cons value values =>
          simp only [List.length_cons, Nat.add_right_cancel_iff] at h
          simp only [putAll, put_of_lawful, ih h, List.map_cons]

theorem changed_putAll [BEq α] [LawfulBEq α] (slots : List (Option α)) (values : List α) :
    (putAll slots values).changed = true ↔ (putAll slots values).state ≠ slots := by
  induction slots generalizing values with
  | nil => cases values <;> simp [putAll, start]
  | cons slot slots ih =>
      cases values with
      | nil => simp [putAll, start]
      | cons value values =>
          simp only [putAll, Bool.or_eq_true, changed_put BEq.rfl, ih, ne_eq, List.cons.injEq]
          exact Classical.not_and_iff_not_or_not.symm

/-! ## Exact marks -/

theorem eq_of_parts {t u : Tracked σ} (hstate : t.state = u.state)
    (hchanged : t.changed = u.changed) : t = u := by
  cases t
  cases u
  cases hstate
  cases hchanged
  rfl

/-- The mark tells whether the state is another one than `s`. -/
def Exact (s : σ) (t : Tracked σ) : Prop :=
  t.changed = true ↔ t.state ≠ s

theorem Exact.map {s : σ} {t : Tracked σ} {f : σ → τ} (hf : ∀ a b, f a = f b → a = b)
    (h : t.Exact s) : (t.map f).Exact (f s) :=
  Iff.trans h (not_congr ⟨congrArg f, hf t.state s⟩)

theorem Exact.eq_start {s : σ} {t : Tracked σ} (h : t.Exact s) (hs : t.state = s) :
    t = start s :=
  eq_of_parts hs (Bool.eq_false_iff.mpr fun hc => h.mp hc hs)

@[simp] theorem start_andThen (s : σ) (f : σ → Tracked σ) : (start s).andThen f = f s :=
  eq_of_parts rfl (Bool.false_or _)

@[simp] theorem andThen_start (t : Tracked σ) : t.andThen start = t :=
  eq_of_parts rfl (Bool.or_false _)

theorem andThen_assoc (t : Tracked σ) (f g : σ → Tracked σ) :
    (t.andThen f).andThen g = t.andThen fun s => (f s).andThen g := by
  simp [andThen, Bool.or_assoc]

/-- Two exact stores make an exact one when the second cannot undo what the first has changed. -/
theorem Exact.andThen {s : σ} {t : Tracked σ} {f : σ → Tracked σ} (ht : t.Exact s)
    (hf : (f t.state).Exact t.state) (hkeep : (f t.state).state = s → t.state = s) :
    (t.andThen f).Exact s := by
  simp only [Exact, Tracked.andThen, Bool.or_eq_true, ne_eq] at ht hf ⊢
  rw [ht, hf]
  constructor
  · rintro (h | h) he
    · exact h (hkeep he)
    · exact h (he.trans (hkeep he).symm)
  · intro h
    by_cases hs : t.state = s
    · exact .inr fun he => h (he.trans hs)
    · exact .inl hs

end Tracked
end Fieldbus
