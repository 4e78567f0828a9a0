import Fieldbus.Broadcast
import Mathlib.Algebra.Ring.Nat

/-!
# The account of a receiver

All that was published since a receiver came, and how much of it the receiver has passed. What the
receiver is given next follows from these two, and so does what it has been told of so far: the items
it has passed, in their order, each of them once, as got or as lost.
-/
namespace Fieldbus

variable {α : Type}

/-! ## Answers in order -/

namespace Received

@[simp] def item? : Received α → Option α
  | item a => some a
  | lagged _ | empty | closed => none

@[simp] def missed : Received α → Nat
  | lagged n => n
  | item _ | empty | closed => 0

end Received

/-- The answers tell of the items one after the other, each of them once. -/
inductive Recounts : List (Received α) → List α → Prop where
  | nil : Recounts [] []
  | item {answers items} (a : α) :
      Recounts answers items → Recounts (.item a :: answers) (a :: items)
  | lagged {answers items} (lost : List α) :
      Recounts answers items → Recounts (.lagged lost.length :: answers) (lost ++ items)
  | last {answers items got} :
      got.isLast = true → Recounts answers items → Recounts (got :: answers) items

namespace Recounts

variable {answers more : List (Received α)} {items later : List α} {got : Received α}

theorem append (h : Recounts answers items) (hmore : Recounts more later) :
    Recounts (answers ++ more) (items ++ later) := by
  induction h with
  | nil => exact hmore
  | item a _ ih => exact .item a ih
  | lagged lost _ ih =>
      rw [List.append_assoc]
      exact .lagged lost ih
  | last hlast _ ih => exact .last hlast ih

theorem concat_last (h : Recounts answers items) (hlast : got.isLast = true) :
    Recounts (answers ++ [got]) items := by
  rw [← List.append_nil items]
  exact h.append (.last hlast .nil)

theorem length_eq (h : Recounts answers items) :
    (answers.filterMap Received.item?).length + (answers.map Received.missed).sum
      = items.length := by
  induction h with
  | nil => rfl
  | item a _ ih =>
      simp
      omega
  | lagged lost _ ih =>
      simp [List.filterMap_cons]
      omega
  | @last answers items got hlast _ ih =>
      cases got with
      | item a => cases hlast
      | lagged n => cases hlast
      | empty => simpa [List.filterMap_cons] using ih
      | closed => simpa [List.filterMap_cons] using ih

theorem sublist (h : Recounts answers items) :
    (answers.filterMap Received.item?).Sublist items := by
  induction h with
  | nil => exact .slnil
  | item a _ ih => exact ih.cons_cons a
  | lagged lost _ ih => exact ih.trans (List.sublist_append_right _ _)
  | @last answers items got hlast _ ih =>
      cases got with
      | item a => cases hlast
      | lagged n => cases hlast
      | empty => exact ih
      | closed => exact ih

end Recounts

/-! ## Accounts -/

/-- What is noted of a receiver: the items published since it came, and how many of them it has got
or lost. -/
structure Account (α : Type) where
  published : List α
  passed : Nat

namespace Account

def opened : Account α :=
  ⟨[], 0⟩

def withItem (k : Account α) (a : α) : Account α :=
  { k with published := k.published ++ [a] }

def pending (k : Account α) : Nat :=
  k.published.length - k.passed

/-- What the receiver is given next, and its account after that. Items are lost that lie further back
than the bound. -/
def next (bound : Nat) (isOpen : Bool) (k : Account α) : Received α × Account α :=
  if bound < k.pending then
    (.lagged (k.pending - bound), { k with passed := k.published.length - bound })
  else
    match k.published[k.passed]? with
    | some a => (.item a, { k with passed := k.passed + 1 })
    | none => (if isOpen then .empty else .closed, k)

variable {bound : Nat} {isOpen : Bool} {k : Account α} {a : α}

theorem next_of_lost (hlost : bound < k.pending) :
    k.next bound isOpen
      = (.lagged (k.pending - bound), { k with passed := k.published.length - bound }) :=
  if_pos hlost

theorem next_of_kept (hkept : k.pending ≤ bound) (hnext : k.published[k.passed]? = some a) :
    k.next bound isOpen = (.item a, { k with passed := k.passed + 1 }) := by
  rw [next, if_neg (Nat.not_lt.mpr hkept), hnext]

theorem next_of_level (hlevel : k.published.length ≤ k.passed) :
    k.next bound isOpen = (if isOpen then .empty else .closed, k) := by
  have hpending : k.pending = 0 := Nat.sub_eq_zero_of_le hlevel
  rw [next, if_neg (by omega), List.getElem?_eq_none hlevel]

theorem published_next : (k.next bound isOpen).2.published = k.published := by
  unfold next
  split
  · rfl
  · split <;> rfl

theorem passed_next_le (hpassed : k.passed ≤ k.published.length) :
    (k.next bound isOpen).2.passed ≤ (k.next bound isOpen).2.published.length := by
  rw [published_next]
  rcases Nat.lt_or_ge bound k.pending with hlost | hkept
  · rw [next_of_lost hlost]
    exact Nat.sub_le _ _
  · rcases Nat.lt_or_ge k.passed k.published.length with hnext | hlevel
    · rw [next_of_kept hkept (List.getElem?_eq_getElem hnext)]
      exact hnext
    · rw [next_of_level hlevel]
      exact hpassed

/-- The answers given so far tell of what has been passed, and of nothing else. -/
structure Balanced (k : Account α) (answers : List (Received α)) : Prop where
  passed_le : k.passed ≤ k.published.length
  recounts : Recounts answers (k.published.take k.passed)

namespace Balanced

variable {answers : List (Received α)}

theorem opened : Balanced (opened : Account α) [] :=
  ⟨Nat.le_refl _, .nil⟩

theorem withItem (h : k.Balanced answers) (a : α) : (k.withItem a).Balanced answers where
  passed_le := by
    rw [Account.withItem, List.length_append]
    exact Nat.le_trans h.passed_le (Nat.le_add_right _ _)
  recounts := by
    have htake : (k.published ++ [a]).take k.passed = k.published.take k.passed :=
      List.take_append_of_le_length h.passed_le
    exact htake ▸ h.recounts

theorem next (h : k.Balanced answers) (bound : Nat) (isOpen : Bool) :
    (k.next bound isOpen).2.Balanced (answers ++ [(k.next bound isOpen).1]) := by
  have hpassed := h.passed_le
  refine ⟨passed_next_le hpassed, ?_⟩
  rcases Nat.lt_or_ge bound k.pending with hlost | hkept
  · -- The lost items follow what has been passed, up to the oldest item still kept.
    have hsplit : k.published.length - bound = k.passed + (k.pending - bound) := by
      simp only [pending] at hlost ⊢
      omega
    have hlength : ((k.published.drop k.passed).take (k.pending - bound)).length
        = k.pending - bound := by
      rw [List.length_take_of_le]
      simp only [List.length_drop, pending]
      omega
    have hlagged := Recounts.nil.lagged ((k.published.drop k.passed).take (k.pending - bound))
    rw [hlength, List.append_nil] at hlagged
    rw [next_of_lost hlost]
    simp only [hsplit, List.take_add]
    exact h.recounts.append hlagged
  · rcases Nat.lt_or_ge k.passed k.published.length with hnext | hlevel
    · rw [next_of_kept hkept (List.getElem?_eq_getElem hnext)]
      simp only [← List.take_append_getElem hnext]
      exact h.recounts.append (.item _ .nil)
    · rw [next_of_level hlevel]
      refine h.recounts.concat_last ?_
      cases isOpen <;> rfl

theorem passed_eq (h : k.Balanced answers) :
    k.passed = (answers.filterMap Received.item?).length + (answers.map Received.missed).sum := by
  rw [h.recounts.length_eq, List.length_take_of_le h.passed_le]

theorem sublist (h : k.Balanced answers) :
    (answers.filterMap Received.item?).Sublist k.published :=
  h.recounts.sublist.trans (List.take_sublist _ _)

/-- A receiver that has lost nothing and has nothing left to get has got all items. -/
theorem delivered_eq (h : k.Balanced answers) (hlost : (answers.map Received.missed).sum = 0)
    (hpending : k.pending = 0) : answers.filterMap Received.item? = k.published := by
  refine h.sublist.eq_of_length ?_
  have hpassed := h.passed_eq
  have hle := h.passed_le
  rw [pending] at hpending
  omega

end Balanced

end Account
end Fieldbus
