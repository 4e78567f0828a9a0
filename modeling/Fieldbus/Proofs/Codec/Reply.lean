import Fieldbus.Proofs.Codec.Tracked
import Fieldbus.Reply
import Mathlib.Data.List.Induction

/-!
# Runs of a codec

What a codec shows after a run of packets depends on the last one that it took. So it is enough to
know what one packet that is taken leaves behind, and that any other packet leaves it so.
-/
namespace Fieldbus.Reply

variable {σ : Type} {model : Model} {before : σ} {outcome : Except Refusal (Tracked σ)}

/-- Where the marks of stores are exact, a call tells of a change if it leaves another state. -/
theorem result_of_iff (hexact : ∀ after, outcome = .ok after → after.Exact before) :
    (of model before outcome).result = .ok true ↔ (of model before outcome).state ≠ before := by
  cases outcome with
  | ok after =>
      simp only [of, Except.ok.injEq]
      exact hexact after rfl
  | error reason => cases reason <;> simp [of]

/-- Where states are equal if all their channels are, that is a change of a channel. -/
theorem result_of_iff_exists {ι β : Type} {channel : σ → ι → β} {counts : ι → Prop}
    (hexact : ∀ after, outcome = .ok after → after.Exact before)
    (hext : (∀ i, counts i → channel (of model before outcome).state i = channel before i) →
      (of model before outcome).state = before) :
    (of model before outcome).result = .ok true ↔
      ∃ i, counts i ∧ channel (of model before outcome).state i ≠ channel before i := by
  rw [result_of_iff hexact]
  constructor
  · intro hne
    by_contra hsame
    refine hne (hext fun i hi => ?_)
    by_contra hchannel
    exact hsame ⟨i, hi, hchannel⟩
  · rintro ⟨i, _, hne⟩ hsame
    exact hne (by rw [hsame])

/-- Two packets that are taken and lead to the same state are answered alike. -/
theorem of_eq_of_state {other : Except Refusal (Tracked σ)}
    (hexact : ∀ after, outcome = .ok after → after.Exact before)
    (hexact' : ∀ after, other = .ok after → after.Exact before)
    (hstate : (of model before outcome).state = (of model before other).state)
    (h : (of model before outcome).Accepted) (h' : (of model before other).Accepted) :
    of model before outcome = of model before other := by
  obtain ⟨t, rfl⟩ := accepted_of_iff.mp h
  obtain ⟨u, rfl⟩ := accepted_of_iff.mp h'
  have hsame : t.state = u.state := hstate
  have hchanged : t.changed = u.changed := by
    have ht : t.changed = true ↔ t.state ≠ before := hexact t rfl
    have hu : u.changed = true ↔ u.state ≠ before := hexact' u rfl
    rw [Bool.eq_iff_iff, ht, hu, hsame]
  simp only [of, hsame, hchanged]

/-- The state after some packets. -/
def run (answer : σ → Packet → Reply σ) (s : σ) (packets : List Packet) : σ :=
  packets.foldl (fun s p => (answer s p).state) s

theorem run_append (answer : σ → Packet → Reply σ) (s : σ) (packets later : List Packet) :
    run answer s (packets ++ later) = run answer (run answer s packets) later :=
  List.foldl_append

theorem run_concat (answer : σ → Packet → Reply σ) (s : σ) (packets : List Packet) (p : Packet) :
    run answer s (packets ++ [p]) = (answer (run answer s packets) p).state := by
  rw [run, List.foldl_append]
  rfl

/-- The replies to some packets, one after the other. -/
def answers (answer : σ → Packet → Reply σ) (s : σ) : List Packet → List (Reply σ)
  | [] => []
  | p :: packets => answer s p :: answers answer (answer s p).state packets

/-- Two packets that lead to the same state in either order can change places in a run. -/
theorem run_swap {answer : σ → Packet → Reply σ} {s : σ} {earlier : List Packet} {p q : Packet}
    (h : (answer (answer (run answer s earlier) p).state q).state
      = (answer (answer (run answer s earlier) q).state p).state) (later : List Packet) :
    run answer s (earlier ++ p :: q :: later) = run answer s (earlier ++ q :: p :: later) := by
  rw [run_append, run_append]
  exact congrArg (run answer · later) h

/-- A relation between the last packet that counts and the state, which each packet keeps, holds
after every run. -/
theorem run_last {answer : σ → Packet → Reply σ} {counts : Packet → Prop} [DecidablePred counts]
    {Shows : Option Packet → σ → Prop} {s : σ}
    (hcounts : ∀ last s p, Shows last s → counts p → Shows (some p) (answer s p).state)
    (hother : ∀ last s p, Shows last s → ¬ counts p → Shows last (answer s p).state)
    (hstart : Shows none s) (packets : List Packet) :
    Shows (packets.filter fun p => counts p).getLast? (run answer s packets) := by
  induction packets using List.reverseRecOn with
  | nil => exact hstart
  | append_singleton packets p ih =>
      rw [run_concat, List.filter_append]
      by_cases hp : counts p
      · rw [List.filter_cons_of_pos (by simpa using hp), List.filter_nil, List.getLast?_concat]
        exact hcounts _ _ p ih hp
      · rw [List.filter_cons_of_neg (by simpa using hp), List.filter_nil, List.append_nil]
        exact hother _ _ p ih hp

end Fieldbus.Reply
