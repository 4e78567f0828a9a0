import Fieldbus.Proofs.Broadcast.Ledger
import Fieldbus.Proofs.Broadcast.Log
import Mathlib.Order.Bounds.Defs

/-!
# Delivery

A bus answers every operation as its ledger does, although it keeps no more items than its bound
allows. What the other receivers do does not matter to a receiver, nor through which sender an item
was sent.
-/
namespace Fieldbus

variable {α : Type} {bound capacity receiver sender : Nat} {log : List α} {s : Bus α}
  {l : Ledger α} {channel : Broadcast α}

/-! ## Where a receiver stands -/

/-- The account of a receiver that came when the log had so many items. -/
structure Account.Since (log : List α) (start : Nat) (k : Account α) : Prop where
  start_le : start ≤ log.length
  published : k.published = log.drop start
  passed_le : k.passed ≤ k.published.length

/-- A receiver stands in the log where its account leads, and nowhere if it has none. -/
inductive Account.Stands (log : List α) : Option Nat → Option (Account α) → Prop where
  | gone : Stands log none none
  | since {start : Nat} {k : Account α} (h : k.Since log start) :
      Stands log (some (start + k.passed)) (some k)

namespace Account

variable {start : Nat} {k : Account α} {position : Option Nat} {known : Option (Account α)}

theorem Since.opened (log : List α) : (opened : Account α).Since log log.length :=
  ⟨Nat.le_refl _, List.drop_length.symm, Nat.le_refl _⟩

theorem Since.withItem (h : k.Since log start) (a : α) :
    (k.withItem a).Since (log ++ [a]) start where
  start_le := by
    rw [List.length_append]
    exact Nat.le_trans h.start_le (Nat.le_add_right _ _)
  published := by
    rw [List.drop_append_of_le_length h.start_le, ← h.published]
    rfl
  passed_le := by
    rw [Account.withItem, List.length_append]
    exact Nat.le_trans h.passed_le (Nat.le_add_right _ _)

theorem Since.next (h : k.Since log start) (bound : Nat) (isOpen : Bool) :
    (k.next bound isOpen).2.Since log start where
  start_le := h.start_le
  published := published_next.trans h.published
  passed_le := passed_next_le h.passed_le

/-- A channel that keeps the end of the log answers a receiver by its account. -/
theorem Since.receive? {b : Broadcast α} (h : k.Since log start) (hlog : b.Carries bound log)
    (hposition : b.position? receiver = some (start + k.passed)) :
    b.receive? receiver = some ((k.next bound (b.senders ≠ 0)).1,
      b.moveTo receiver (start + (k.next bound (b.senders ≠ 0)).2.passed)) := by
  have hlength : k.published.length = log.length - start := by
    rw [h.published, List.length_drop]
  have hpassed := h.passed_le
  have hstart := h.start_le
  rcases hlog.receive?_cases hposition with ⟨hlost, hreceive⟩ | ⟨a, hkept, hentry, hreceive⟩ |
    ⟨hlevel, hreceive⟩
  · have hpending : bound < k.pending := by
      rw [pending]
      omega
    have hmissed : log.length - bound - (start + k.passed) = k.pending - bound := by
      rw [pending]
      omega
    have hplace : log.length - bound = start + (k.published.length - bound) := by omega
    rw [hreceive, next_of_lost hpending, hmissed, hplace]
  · have hpending : k.pending ≤ bound := by
      rw [pending]
      omega
    have hnext : k.published[k.passed]? = some a := by
      rw [h.published, List.getElem?_drop]
      exact hentry
    rw [hreceive, next_of_kept hpending hnext]
    rfl
  · have hall : k.published.length ≤ k.passed := by omega
    rw [hreceive, next_of_level hall, Broadcast.moveTo_position hposition]
    by_cases hsenders : b.senders = 0
    · rw [if_pos hsenders]
      simp [hsenders]
    · rw [if_neg hsenders]
      simp [hsenders]

namespace Stands

theorem isSome_eq (h : Stands log position known) : position.isSome = known.isSome := by
  cases h <;> rfl

theorem withItem (h : Stands log position known) (a : α) :
    Stands (log ++ [a]) position (known.map (·.withItem a)) := by
  cases h with
  | gone => exact .gone
  | since h => exact .since (h.withItem a)

theorem eq_none_iff (h : Stands log position known) : position = none ↔ known = none := by
  cases h with
  | gone => exact iff_of_true rfl rfl
  | since => exact iff_of_false nofun nofun

theorem eq_some (h : Stands log position (some k)) :
    ∃ start, k.Since log start ∧ position = some (start + k.passed) := by
  cases h with
  | since h => exact ⟨_, h, rfl⟩

end Stands

end Account

/-! ## A bus and its ledger -/

/-- The channel keeps the end of the log of all that was sent to somebody, and the receivers stand in it
where their accounts lead. -/
structure Bus.Follows (bound : Nat) (log : List α) (s : Bus α) (l : Ledger α) : Prop where
  channel : s.channel.Carries bound log
  senders : s.senders = l.senders
  count : s.channel.senders = l.senders.count true
  length : s.channel.positions.length = l.accounts.length
  stands : ∀ receiver, Account.Stands log (s.channel.position? receiver) (l.account? receiver)

namespace Bus.Follows

theorem initial (h : Broadcast.create capacity = .ok channel) :
    Follows (Broadcast.roundUp capacity) [] (ofChannel channel) .initial where
  channel := .of_create h
  senders := rfl
  count := by
    obtain ⟨-, -, rfl⟩ := Broadcast.create_eq_ok_iff.mp h
    rfl
  length := by
    obtain ⟨-, -, rfl⟩ := Broadcast.create_eq_ok_iff.mp h
    rfl
  stands := by
    obtain ⟨-, -, rfl⟩ := Broadcast.create_eq_ok_iff.mp h
    intro receiver
    exact .gone

theorem receiverCount (h : Follows bound log s l) : s.channel.receiverCount = l.listening :=
  countP_isSome_congr h.length fun receiver => (h.stands receiver).isSome_eq

theorem isOpen (h : Follows bound log s l) : decide (s.channel.senders ≠ 0) = l.isOpen := by
  rw [h.count, Ledger.isOpen, Bool.eq_iff_iff, decide_eq_true_eq, List.contains_iff_mem,
    ← Nat.pos_iff_ne_zero, List.count_pos_iff]

/-- How many items a receiver has yet to get is known from its account. -/
theorem pending? (h : Follows bound log s l) (receiver : Nat) :
    s.channel.pending? receiver = (l.account? receiver).map Account.pending := by
  have hstands := h.stands receiver
  cases hknown : l.account? receiver with
  | none =>
      rw [hknown] at hstands
      rw [Broadcast.pending?, hstands.eq_none_iff.mpr rfl, Option.map_none, Option.map_none]
  | some k =>
      rw [hknown] at hstands
      obtain ⟨start, hsince, hposition⟩ := hstands.eq_some
      rw [Broadcast.pending?, hposition, Option.map_some, Option.map_some, h.channel.sent,
        Account.pending, hsince.published, List.length_drop, Nat.sub_sub]

/-! ### Using a sender -/

theorem answer_use (h : Follows bound log s l) (sender : Nat) (use : Use α) :
    (s.use sender use).2 = (l.use sender use).2 := by
  cases use with
  | subscribe => exact congrArg Happening.subscribed h.length
  | clone => exact congrArg (Happening.cloned ·.length) h.senders
  | send a => rfl
  | sendCounted a => exact congrArg (Happening.sent a <| some ·) h.receiverCount
  | drop => rfl

theorem subscribe (h : Follows bound log s l) :
    Follows bound log { s with channel := s.channel.subscribe }
      { l with accounts := l.accounts ++ [some .opened] } where
  channel := ⟨h.channel.capacity, h.channel.sent, h.channel.kept⟩
  senders := h.senders
  count := h.count
  length := by
    simp only [Broadcast.subscribe, List.length_append, h.length]
    rfl
  stands := by
    intro receiver
    have haccount := place_concat l.accounts (some .opened) receiver
    rw [Ledger.account?, haccount, Broadcast.position?_subscribe, h.length]
    split
    · rw [h.channel.sent]
      exact .since (.opened log)
    · exact h.stands receiver

theorem clone (h : Follows bound log s l) :
    Follows bound log ⟨s.channel.addSender, s.senders ++ [true]⟩
      { l with senders := l.senders ++ [true] } where
  channel := ⟨h.channel.capacity, h.channel.sent, h.channel.kept⟩
  senders := congrArg (· ++ [true]) h.senders
  count := by
    rw [List.count_append, ← h.count]
    rfl
  length := h.length
  stands := h.stands

theorem drop (h : Follows bound log s l) (hlive : l.IsLive sender) :
    Follows bound log ⟨s.channel.dropSender, s.senders.set sender false⟩
      { l with senders := l.senders.set sender false } where
  channel := ⟨h.channel.capacity, h.channel.sent, h.channel.kept⟩
  senders := congrArg (·.set sender false) h.senders
  count := by
    obtain ⟨hlt, hentry⟩ := List.getElem?_eq_some_iff.mp hlive
    rw [List.count_set hlt, hentry, ← h.count]
    rfl
  length := h.length
  stands := h.stands

/-- What is sent while nobody listens is in no account and not in the log. -/
theorem publish (h : Follows bound log s l) (a : α) :
    ∃ log, Follows bound log { s with channel := s.channel.send a } (l.publish a) := by
  have hlength : (s.channel.send a).positions.length = (l.publish a).accounts.length := by
    rw [Broadcast.length_positions_send, h.length, Ledger.publish, List.length_map]
  have hcount : (s.channel.send a).senders = (l.publish a).senders.count true := by
    rw [Broadcast.senders_send]
    exact h.count
  by_cases hlisten : s.channel.receiverCount = 0
  -- No receiver has a position, so none has an account that would have to grow.
  · have hsend : s.channel.send a = s.channel := if_pos hlisten
    refine ⟨log, hsend.symm ▸ h.channel, h.senders, hcount, hlength, fun receiver => ?_⟩
    have hgone := Broadcast.position?_of_receiverCount hlisten receiver
    have hunknown := (h.stands receiver).eq_none_iff.mp hgone
    rw [Broadcast.position?_send, Ledger.account?_publish, hgone, hunknown]
    exact .gone
  · refine ⟨log ++ [a], h.channel.send hlisten a, h.senders, hcount, hlength, fun receiver => ?_⟩
    rw [Broadcast.position?_send, Ledger.account?_publish]
    exact (h.stands receiver).withItem a

theorem use (h : Follows bound log s l) (hlive : l.IsLive sender) (use : Use α) :
    ∃ log, Follows bound log (s.use sender use).1 (l.use sender use).1 := by
  cases use with
  | subscribe => exact ⟨log, h.subscribe⟩
  | clone => exact ⟨log, h.clone⟩
  | send a => exact h.publish a
  | sendCounted a => exact h.publish a
  | drop => exact ⟨log, h.drop hlive⟩

/-! ### Using a receiver -/

/-- What concerns one receiver leaves the others where they stand. -/
theorem touched {after : Ledger α} {place : Option Nat} {known : Option (Account α)}
    (h : Follows bound log s l)
    (hposition : ∀ other, channel.position? other
      = if other = receiver then place else s.channel.position? other)
    (haccount : ∀ other, after.account? other
      = if other = receiver then known else l.account? other)
    (hself : Account.Stands log place known) (other : Nat) :
    Account.Stands log (channel.position? other) (after.account? other) := by
  rw [hposition, haccount]
  split
  · exact hself
  · exact h.stands other

theorem receive (h : Follows bound log s l) (receiver : Nat) :
    Follows bound log (s.step (.receive receiver)).1 (l.step bound (.receive receiver)).1 ∧
      (s.step (.receive receiver)).2 = (l.step bound (.receive receiver)).2 := by
  have hstands := h.stands receiver
  rw [Bus.step, Ledger.step]
  cases hknown : l.account? receiver with
  | none =>
      have hgone := hstands.eq_none_iff.mpr hknown
      rw [Broadcast.receive?, hgone]
      exact ⟨h, rfl⟩
  | some k =>
      rw [hknown] at hstands
      obtain ⟨start, hsince, hposition⟩ := hstands.eq_some
      have hreceive := hsince.receive? h.channel hposition
      rw [h.isOpen] at hreceive
      rw [hreceive]
      refine ⟨⟨⟨h.channel.capacity, h.channel.sent, h.channel.kept⟩, h.senders, h.count, ?_, ?_⟩, rfl⟩
      · simp only [Broadcast.moveTo, List.length_set, h.length]
      · exact h.touched (Broadcast.position?_moveTo hposition _) (Ledger.account?_set hknown _)
          (.since (hsince.next bound l.isOpen))

theorem dropReceiver (h : Follows bound log s l) (receiver : Nat) :
    Follows bound log (s.step (.dropReceiver receiver)).1
        (l.step bound (.dropReceiver receiver)).1 ∧
      (s.step (.dropReceiver receiver)).2 = (l.step bound (.dropReceiver receiver)).2 := by
  have hstands := h.stands receiver
  rw [Bus.step, Ledger.step]
  cases hknown : l.account? receiver with
  | none =>
      have hgone := hstands.eq_none_iff.mpr hknown
      rw [hgone]
      exact ⟨h, rfl⟩
  | some k =>
      rw [hknown] at hstands
      obtain ⟨start, hsince, hposition⟩ := hstands.eq_some
      rw [hposition]
      refine ⟨⟨⟨h.channel.capacity, h.channel.sent, h.channel.kept⟩, h.senders, h.count, ?_, ?_⟩, rfl⟩
      · simp only [Broadcast.dropReceiver, List.length_set, h.length]
      · exact h.touched (Broadcast.position?_dropReceiver hposition) (Ledger.account?_set hknown _)
          .gone

/-! ### Runs -/

theorem step (op : Operation α) (h : ∃ log, Follows bound log s l) :
    (∃ log, Follows bound log (s.step op).1 (l.step bound op).1) ∧
      (s.step op).2 = (l.step bound op).2 := by
  obtain ⟨log, h⟩ := h
  cases op with
  | use sender use =>
      have hlive : s.IsLive sender ↔ l.IsLive sender := by rw [IsLive, Ledger.IsLive, h.senders]
      rw [Bus.step, Ledger.step]
      by_cases hsender : l.IsLive sender
      · rw [if_pos (hlive.mpr hsender), if_pos hsender]
        exact ⟨h.use hsender use, h.answer_use sender use⟩
      · rw [if_neg (hlive.not.mpr hsender), if_neg hsender]
        exact ⟨⟨log, h⟩, rfl⟩
  | receive receiver => exact ⟨⟨log, (h.receive receiver).1⟩, (h.receive receiver).2⟩
  | dropReceiver receiver =>
      exact ⟨⟨log, (h.dropReceiver receiver).1⟩, (h.dropReceiver receiver).2⟩

theorem run (h : Follows bound log s l) (ops : List (Operation α)) :
    (∃ log, Follows bound log (Run.after Bus.step s ops) (Run.after (Ledger.step bound) l ops)) ∧
      Run.happenings Bus.step s ops = Run.happenings (Ledger.step bound) l ops :=
  Run.simulates (fun s l => ∃ log, Follows bound log s l) (fun _ _ => step) ⟨log, h⟩ ops

end Bus.Follows

/-! ## What receivers and senders can rely on -/

namespace Bus

/-- How a bus serves a receiver of this account, given the answers so far. -/
structure Delivers (bound : Nat) (isOpen : Bool) (s : Bus α) (receiver : Nat) (k : Account α)
    (answers : List (Received α)) : Prop where
  passed : k.passed = (answers.filterMap Received.item?).length + (answers.map Received.missed).sum
  recounts : Recounts answers (k.published.take k.passed)
  ordered : (answers.filterMap Received.item?).Sublist k.published
  balanced : ∃ pending, s.channel.pending? receiver = some pending ∧
    (answers.filterMap Received.item?).length + (answers.map Received.missed).sum + pending
      = k.published.length
  next : (s.step (.receive receiver)).2 = .received receiver (k.next bound isOpen).1

theorem Follows.delivers {k : Account α} {answers : List (Received α)} (h : Follows bound log s l)
    (hknown : l.account? receiver = some k) (hbalanced : k.Balanced answers) :
    s.Delivers bound l.isOpen receiver k answers := by
  refine ⟨hbalanced.passed_eq, hbalanced.recounts, hbalanced.sublist, ⟨k.pending, ?_, ?_⟩, ?_⟩
  · rw [h.pending?, hknown, Option.map_some]
  · rw [← hbalanced.passed_eq]
    exact Nat.add_sub_cancel' hbalanced.passed_le
  · rw [(h.receive receiver).2, Ledger.step, hknown]

/-- How a channel serves all that hold one of its senders or receivers, in a run from its start.
Everything is answered as in the ledger. An account there has what was published through any sender
since its receiver subscribed. -/
structure Serves (bound : Nat) (channel : Broadcast α) (ops : List (Operation α)) : Prop where
  answered : Run.happenings step (ofChannel channel) ops
    = Run.happenings (Ledger.step bound) .initial ops
  delivers : ∀ receiver k, (Ledger.ofRun bound ops).account? receiver = some k →
    (Run.after step (ofChannel channel) ops).Delivers bound (Ledger.ofRun bound ops).isOpen receiver
      k (answersTo receiver (Run.happenings step (ofChannel channel) ops))
  published : ∀ before later sender k, ops = before ++ .use sender .subscribe :: later →
    (Ledger.ofRun bound before).IsLive sender →
    (Ledger.ofRun bound ops).account? (Ledger.ofRun bound before).accounts.length = some k →
    k.published = (Ledger.ofRun bound (before ++ [.use sender .subscribe])).published bound later

/-- A new channel serves by the ledger in every run. It keeps as many items as the least power of two
that is not below the capacity asked for. -/
theorem serves_of_create (h : Broadcast.create capacity = .ok channel) :
    ∃ bound, IsLeast {power : Nat | power.isPowerOfTwo ∧ capacity ≤ power} bound ∧
      ∀ ops : List (Operation α), Serves bound channel ops := by
  refine ⟨Broadcast.roundUp capacity, ⟨⟨?_, ?_⟩, ?_⟩, fun ops => ?_⟩
  · exact Broadcast.isPowerOfTwo_roundUp capacity
  · exact Broadcast.le_roundUp capacity
  · rintro power ⟨hpower, hle⟩
    exact Broadcast.roundUp_le hpower hle
  obtain ⟨⟨log, hfollows⟩, hanswered⟩ := (Follows.initial h).run ops
  refine ⟨hanswered, fun receiver k hk => ?_, fun before later sender k hops hlive hk => ?_⟩
  · rw [hanswered]
    exact hfollows.delivers hk ((Ledger.tells_ofRun _ ops receiver).balanced k hk)
  · subst hops
    exact Ledger.published_ofRun hlive hk

/-- A receiver loses two of six items, and finds the bus closed once it has got the others and the
last sender is gone. -/
theorem serves_of_create_three :
    let channel : Broadcast Nat := ⟨4, 1, 0, [], []⟩
    let ops : List (Operation Nat) :=
      [.use 0 .subscribe, .use 0 .clone, .use 0 (.send 10), .use 1 (.send 20), .use 0 .drop,
        .use 1 (.send 30), .use 1 .subscribe, .use 1 (.send 40), .use 1 (.send 50),
        .use 1 (.sendCounted 60), .receive 0, .receive 0, .dropReceiver 1, .use 1 .drop,
        .receive 0, .receive 0, .receive 0, .receive 0]
    Broadcast.create 3 = .ok channel ∧
    Run.happenings step (ofChannel channel) ops =
      [.subscribed 0, .cloned 1, .sent 10 none, .sent 20 none, .senderDropped 0, .sent 30 none,
        .subscribed 1, .sent 40 none, .sent 50 none, .sent 60 (some 2), .received 0 (.lagged 2),
        .received 0 (.item 30), .receiverDropped 1, .senderDropped 1, .received 0 (.item 40),
        .received 0 (.item 50), .received 0 (.item 60), .received 0 .closed] ∧
    ∃ bound, IsLeast {power : Nat | power.isPowerOfTwo ∧ 3 ≤ power} bound ∧
      Serves bound channel ops := by
  intro channel ops
  have hcreate : Broadcast.create 3 = .ok channel := rfl
  obtain ⟨bound, hbound, hserves⟩ := serves_of_create hcreate
  exact ⟨hcreate, by decide +kernel, bound, hbound, hserves ops⟩

end Bus
end Fieldbus
