import Fieldbus.Text.Blank
import Mathlib.Data.List.DropRight

/-!
# Texts without white space around them
-/
namespace Fieldbus.Text

/-- No white space stands at either end. -/
def Trimmed (s : List Char) : Prop :=
  (∀ c ∈ s.head?, isBlank c = false) ∧ ∀ c ∈ s.getLast?, isBlank c = false

theorem trimEnd_eq_rdropWhile (s : List Char) : trimEnd s = s.rdropWhile isBlank := rfl

theorem not_blank_of_head?_trimStart {s : List Char} {c : Char}
    (h : (trimStart s).head? = some c) : isBlank c = false := by
  have hd := List.head?_dropWhile_not isBlank s
  rw [show s.dropWhile isBlank = trimStart s from rfl, h] at hd
  exact hd

theorem trimmed_trim (s : List Char) : Trimmed (trim s) := by
  constructor
  · intro c hc
    -- what is dropped behind leaves the first character in its place
    obtain ⟨rest, hrest⟩ := List.rdropWhile_prefix isBlank (trimStart s)
    cases ht : trim s with
    | nil => simp [ht] at hc
    | cons d t =>
        have hd : (trimStart s).head? = some d := by
          rw [← hrest, ← trimEnd_eq_rdropWhile, show trimEnd (trimStart s) = d :: t from ht]
          rfl
        rw [ht] at hc
        obtain rfl : d = c := by simpa using hc
        exact not_blank_of_head?_trimStart hd
  · intro c hc
    have hne : trim s ≠ [] := by
      intro he
      simp [he] at hc
    have hlast := List.rdropWhile_last_not isBlank (trimStart s) hne
    rw [List.getLast?_eq_some_getLast hne] at hc
    obtain rfl := Option.some.inj hc
    exact eq_false_of_ne_true hlast

theorem Trimmed.of_forall {s : List Char} (h : ∀ c ∈ s, isBlank c = false) : Trimmed s :=
  ⟨fun c hc => h c (List.mem_of_mem_head? hc), fun c hc => h c (List.mem_of_getLast? hc)⟩

theorem Trimmed.trim_eq {s : List Char} (h : Trimmed s) : trim s = s := by
  have hstart : trimStart s = s := by
    cases s with
    | nil => rfl
    | cons c t => exact List.dropWhile_cons_of_neg (by simp [h.1 c rfl])
  rw [trim, hstart, trimEnd_eq_rdropWhile, List.rdropWhile_eq_self_iff]
  intro hne hc
  rw [h.2 _ (List.getLast?_eq_some_getLast hne)] at hc
  cases hc

theorem trim_eq_nil_iff {s : List Char} : trim s = [] ↔ ∀ c ∈ s, isBlank c = true := by
  rw [trim, trimEnd_eq_rdropWhile, List.rdropWhile_eq_nil_iff]
  constructor
  · intro h
    -- the first character that is kept in front would be white space
    have hstart : trimStart s = [] := by
      cases ht : trimStart s with
      | nil => rfl
      | cons c t =>
          have hc := not_blank_of_head?_trimStart (congrArg List.head? ht)
          rw [h c (ht ▸ List.mem_cons_self)] at hc
          cases hc
    exact List.dropWhile_eq_nil_iff.mp hstart
  · intro h c hc
    exact h c ((List.dropWhile_suffix isBlank).subset hc)

end Fieldbus.Text
