import Fieldbus.Broadcast
import Fieldbus.Proofs.Broadcast.Numbered

/-!
# What a channel keeps of all that was sent

Beside a channel stands the log of all items that were sent to somebody. The channel keeps the end
of the log, as much of it as its capacity allows, and the position of a receiver is a place in it.
-/
namespace Fieldbus.Broadcast

/-! ## Capacity -/

theorem isPowerOfTwo_roundUp (n : Nat) : (roundUp n).isPowerOfTwo := by
  unfold roundUp
  split
  · exact Nat.isPowerOfTwo_one
  · exact ⟨(n - 1).log2 + 1, rfl⟩

theorem le_roundUp (n : Nat) : n ≤ roundUp n := by
  unfold roundUp
  split
  · assumption
  · have hlt : n - 1 < Nat.pow 2 ((n - 1).log2 + 1) := Nat.lt_log2_self
    omega

theorem roundUp_le {n power : Nat} (hpower : power.isPowerOfTwo) (hle : n ≤ power) :
    roundUp n ≤ power := by
  unfold roundUp
  split
  · exact Nat.pos_of_isPowerOfTwo hpower
  · obtain ⟨k, rfl⟩ := hpower
    have hlog : (n - 1).log2 < k := (Nat.log2_lt (by omega)).mpr (by omega)
    exact Nat.pow_le_pow_right Nat.two_pos hlog

variable {α : Type} {b channel : Broadcast α} {capacity : Nat}

theorem create_eq_ok_iff :
    create capacity = .ok channel ↔ 0 < capacity ∧ capacity ≤ greatestCapacity ∧
      channel = { capacity := roundUp capacity, senders := 1, sent := 0, kept := [],
                  positions := [] } := by
  unfold create
  split
  next hzero => exact iff_of_false nofun fun ⟨hpos, _, _⟩ => by omega
  next hpos =>
    split
    next hlarge => exact iff_of_false nofun fun ⟨_, hle, _⟩ => by omega
    next hle =>
      rw [Except.ok.injEq]
      constructor
      · rintro rfl
        exact ⟨by omega, by omega, rfl⟩
      · rintro ⟨-, -, rfl⟩
        rfl

/-- The channel that is made where no capacity is asked for is one of those that can be. -/
theorem create_defaultCapacity : (create defaultCapacity : Except _ (Broadcast α)) = .ok standard :=
  create_eq_ok_iff.mpr ⟨by decide, by decide, rfl⟩

/-! ## Positions -/

variable {receiver position : Nat}

theorem position?_send (b : Broadcast α) (a : α) (receiver : Nat) :
    (b.send a).position? receiver = b.position? receiver := by
  unfold send
  split <;> rfl

theorem length_positions_send (b : Broadcast α) (a : α) :
    (b.send a).positions.length = b.positions.length := by
  unfold send
  split <;> rfl

theorem senders_send (b : Broadcast α) (a : α) : (b.send a).senders = b.senders := by
  unfold send
  split <;> rfl

theorem position?_subscribe (b : Broadcast α) (receiver : Nat) :
    b.subscribe.position? receiver
      = if receiver = b.positions.length then some b.sent else b.position? receiver :=
  place_concat b.positions (some b.sent) receiver

theorem position?_moveTo (h : b.position? receiver = some position) (place other : Nat) :
    (b.moveTo receiver place).position? other
      = if other = receiver then some place else b.position? other :=
  place_set h (some place) other

theorem position?_dropReceiver (h : b.position? receiver = some position) (other : Nat) :
    (b.dropReceiver receiver).position? other
      = if other = receiver then none else b.position? other :=
  place_set h none other

theorem moveTo_position (h : b.position? receiver = some position) :
    b.moveTo receiver position = b := by
  obtain ⟨hlt, heq⟩ := List.getElem?_eq_some_iff.mp (Option.join_eq_some_iff.mp h)
  rw [moveTo, ← heq, List.set_getElem_self]

theorem position?_of_receiverCount (h : b.receiverCount = 0) (receiver : Nat) :
    b.position? receiver = none :=
  place_eq_none_of_countP h receiver

/-! ## The log -/

/-- The channel keeps the end of the log, at most `bound` items of it. -/
structure Carries (bound : Nat) (log : List α) (b : Broadcast α) : Prop where
  capacity : b.capacity = bound
  sent : b.sent = log.length
  kept : b.kept = log.drop (log.length - bound)

namespace Carries

variable {bound : Nat} {log : List α}

theorem of_create (h : create capacity = .ok channel) : channel.Carries (roundUp capacity) [] := by
  obtain ⟨-, -, rfl⟩ := create_eq_ok_iff.mp h
  exact ⟨rfl, rfl, List.drop_nil.symm⟩

theorem send (h : b.Carries bound log) (hlisten : b.receiverCount ≠ 0) (a : α) :
    (b.send a).Carries bound (log ++ [a]) := by
  rw [Broadcast.send, if_neg hlisten]
  refine ⟨h.capacity, ?_, ?_⟩
  · simp [h.sent]
  -- What is dropped now comes right after what was dropped before.
  · have hcut : log.length - bound ≤ log.length := Nat.sub_le _ _
    simp only [h.kept, h.capacity]
    rw [← List.drop_append_of_le_length hcut, List.drop_drop]
    congr 1
    simp only [List.length_drop, List.length_append, List.length_singleton]
    omega

/-- What a receiver gets: what it has lost, the next item of the log, or nothing. -/
theorem receive?_cases (h : b.Carries bound log) (hposition : b.position? receiver = some position) :
    (position < log.length - bound ∧ b.receive? receiver
      = some (.lagged (log.length - bound - position), b.moveTo receiver (log.length - bound))) ∨
    (∃ a, log.length - bound ≤ position ∧ log[position]? = some a ∧
      b.receive? receiver = some (.item a, b.moveTo receiver (position + 1))) ∨
    (log.length ≤ position ∧
      b.receive? receiver = some (if b.senders = 0 then .closed else .empty, b)) := by
  have holdest : b.sent - b.kept.length = log.length - bound := by
    rw [h.sent, h.kept, List.length_drop]
    omega
  rw [receive?, hposition, Option.map_some]
  simp only [holdest]
  rcases Nat.lt_or_ge position (log.length - bound) with hlost | hkept
  · exact .inl ⟨hlost, by rw [if_pos hlost]⟩
  · have hnext : b.kept[position - (log.length - bound)]? = log[position]? := by
      rw [h.kept, List.getElem?_drop, Nat.add_sub_cancel' hkept]
    rw [if_neg (by omega), hnext]
    cases hentry : log[position]? with
    | some a => exact .inr (.inl ⟨a, hkept, rfl, rfl⟩)
    | none => exact .inr (.inr ⟨List.getElem?_eq_none_iff.mp hentry, rfl⟩)

end Carries

end Fieldbus.Broadcast
