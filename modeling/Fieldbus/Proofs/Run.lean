import Mathlib.Data.List.Basic

/-!
# Runs of systems that answer

A system takes steps, each of which leaves a state and tells what happened. If two systems are so
related that each step of the one tells what the same step of the other does, and that they stay
related, then whole runs of them tell the same.
-/
namespace Fieldbus.Run

variable {σ τ ω η : Type}

/-- The state after a run. -/
def after (step : σ → ω → σ × η) (s : σ) (ops : List ω) : σ :=
  ops.foldl (fun s op => (step s op).1) s

/-- All that happens in a run, in order. -/
def happenings (step : σ → ω → σ × η) (s : σ) : List ω → List η
  | [] => []
  | op :: ops => (step s op).2 :: happenings step (step s op).1 ops

variable (step : σ → ω → σ × η) (s : σ)

@[simp] theorem after_nil : after step s [] = s := rfl

@[simp] theorem after_cons (op : ω) (ops : List ω) :
    after step s (op :: ops) = after step (step s op).1 ops := rfl

theorem after_append (ops later : List ω) :
    after step s (ops ++ later) = after step (after step s ops) later :=
  List.foldl_append

theorem happenings_append (ops later : List ω) :
    happenings step s (ops ++ later)
      = happenings step s ops ++ happenings step (after step s ops) later := by
  induction ops generalizing s with
  | nil => rfl
  | cons op ops ih => rw [List.cons_append, happenings, happenings, ih, after_cons, List.cons_append]

theorem after_concat (ops : List ω) (op : ω) :
    after step s (ops ++ [op]) = (step (after step s ops) op).1 :=
  after_append step s ops [op]

variable {step s}

/-- What is kept by each step is kept by a run, and the two runs tell the same. -/
theorem simulates {other : τ → ω → τ × η} {t : τ} (Related : σ → τ → Prop)
    (hstep : ∀ s t op, Related s t →
      Related (step s op).1 (other t op).1 ∧ (step s op).2 = (other t op).2)
    (h : Related s t) (ops : List ω) :
    Related (after step s ops) (after other t ops) ∧
      happenings step s ops = happenings other t ops := by
  induction ops generalizing s t with
  | nil => exact ⟨h, rfl⟩
  | cons op ops ih =>
      obtain ⟨hrelated, hsame⟩ := hstep s t op h
      obtain ⟨hafter, hhappenings⟩ := ih hrelated
      exact ⟨hafter, by rw [happenings, happenings, hsame, hhappenings]⟩

end Fieldbus.Run
