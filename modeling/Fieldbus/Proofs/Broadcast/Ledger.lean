import Fieldbus.Bus
import Fieldbus.Proofs.Broadcast.Account
import Fieldbus.Proofs.Broadcast.Numbered
import Fieldbus.Proofs.Run

/-!
# The ledger of a bus

What a bus owes to those who use it follows from the operations alone. The ledger has no channel. It
notes which senders are in use, and keeps the account of each receiver, with all that was published
since the receiver came. From these notes it answers every operation.
-/
namespace Fieldbus

variable {α : Type}

/-- The senders and receivers of a bus by their numbers. A sender that has been dropped is `false`,
a receiver that has been dropped has no account. -/
structure Ledger (α : Type) where
  senders : List Bool
  accounts : List (Option (Account α))

namespace Ledger

/-- One sender, and no receiver yet. -/
def initial : Ledger α :=
  ⟨[true], []⟩

def IsLive (l : Ledger α) (sender : Nat) : Prop :=
  l.senders[sender]? = some true

instance (l : Ledger α) (sender : Nat) : Decidable (l.IsLive sender) :=
  inferInstanceAs (Decidable (_ = _))

/-- Whether some sender is in use. -/
def isOpen (l : Ledger α) : Bool :=
  l.senders.contains true

/-- How many receivers there are. -/
def listening (l : Ledger α) : Nat :=
  l.accounts.countP (·.isSome)

def account? (l : Ledger α) (receiver : Nat) : Option (Account α) :=
  l.accounts[receiver]?.join

/-- An item is published to every receiver there is. -/
def publish (l : Ledger α) (a : α) : Ledger α :=
  { l with accounts := l.accounts.map (Option.map (·.withItem a)) }

def use (l : Ledger α) (sender : Nat) : Bus.Use α → Ledger α × Bus.Happening α
  | .subscribe =>
    ({ l with accounts := l.accounts ++ [some .opened] }, .subscribed l.accounts.length)
  | .clone => ({ l with senders := l.senders ++ [true] }, .cloned l.senders.length)
  | .send a => (l.publish a, .sent a none)
  | .sendCounted a => (l.publish a, .sent a (some l.listening))
  | .drop => ({ l with senders := l.senders.set sender false }, .senderDropped sender)

/-- The ledger after an operation, and what has to come of the operation. -/
def step (bound : Nat) (l : Ledger α) : Bus.Operation α → Ledger α × Bus.Happening α
  | .use sender use => if l.IsLive sender then l.use sender use else (l, .refused)
  | .receive receiver =>
    match l.account? receiver with
    | some k =>
      let (got, after) := k.next bound l.isOpen
      ({ l with accounts := l.accounts.set receiver (some after) }, .received receiver got)
    | none => (l, .refused)
  | .dropReceiver receiver =>
    match l.account? receiver with
    | some _ =>
      ({ l with accounts := l.accounts.set receiver none }, .receiverDropped receiver)
    | none => (l, .refused)

/-- The ledger after a run of a new bus. -/
def ofRun (bound : Nat) (ops : List (Bus.Operation α)) : Ledger α :=
  Run.after (step bound) initial ops

/-- What an operation publishes. -/
def item? (l : Ledger α) : Bus.Operation α → Option α
  | .use sender (.send a) | .use sender (.sendCounted a) => if l.IsLive sender then some a else none
  | _ => none

/-- All that a run publishes, through whichever sender. -/
def published (bound : Nat) (l : Ledger α) : List (Bus.Operation α) → List α
  | [] => []
  | op :: ops => (l.item? op).toList ++ (l.step bound op).1.published bound ops

end Ledger

/-- What a receiver is given in an operation, if it is given anything. -/
def Bus.Happening.answerTo? (receiver : Nat) : Bus.Happening α → Option (Received α)
  | .received other got => if other = receiver then some got else none
  | _ => none

/-- All that a receiver is given. -/
def Bus.answersTo (receiver : Nat) (happenings : List (Bus.Happening α)) : List (Received α) :=
  happenings.filterMap (·.answerTo? receiver)

theorem Bus.answersTo_append (receiver : Nat) (happenings later : List (Bus.Happening α)) :
    answersTo receiver (happenings ++ later)
      = answersTo receiver happenings ++ answersTo receiver later :=
  List.filterMap_append

theorem Bus.answersTo_cons (receiver : Nat) (happening : Bus.Happening α)
    (happenings : List (Bus.Happening α)) :
    answersTo receiver (happening :: happenings)
      = (happening.answerTo? receiver).toList ++ answersTo receiver happenings := by
  rw [answersTo, List.filterMap_cons]
  cases happening.answerTo? receiver <;> rfl

/-! ## One step -/

namespace Ledger

variable {bound receiver sender : Nat} {l : Ledger α} {k : Account α}

/-- What a step can be to a receiver: its account after the step, what was published, and what the
receiver was given. -/
inductive Turn (bound : Nat) (l : Ledger α) (receiver : Nat) :
    Option (Account α) → Option α → Option (Received α) → Prop where
  | quiet : Turn bound l receiver (l.account? receiver) none none
  | published (a : α) :
      Turn bound l receiver ((l.account? receiver).map (·.withItem a)) (some a) none
  | came (hnew : l.accounts.length = receiver) : Turn bound l receiver (some .opened) none none
  | received {known : Account α} (hknown : l.account? receiver = some known) :
      Turn bound l receiver (some (known.next bound l.isOpen).2) none
        (some (known.next bound l.isOpen).1)
  | left : Turn bound l receiver none none none

theorem IsLive.of_senders_eq {after : Ledger α} (h : l.IsLive sender)
    (hsenders : after.senders = l.senders) : after.IsLive sender := by
  rwa [IsLive, hsenders]

theorem lt_length (h : l.account? receiver = some k) : receiver < l.accounts.length :=
  lt_length_of_place h

theorem account?_publish (l : Ledger α) (a : α) (receiver : Nat) :
    (l.publish a).account? receiver = (l.account? receiver).map (·.withItem a) :=
  place_map l.accounts _ receiver

theorem account?_set (h : l.account? receiver = some k) (known : Option (Account α)) (other : Nat) :
    ({ l with accounts := l.accounts.set receiver known } : Ledger α).account? other
      = if other = receiver then known else l.account? other :=
  place_set h known other

theorem turn_use (bound : Nat) (hlive : l.IsLive sender) (use : Bus.Use α) (receiver : Nat) :
    Turn bound l receiver ((l.use sender use).1.account? receiver) (l.item? (.use sender use))
      ((l.use sender use).2.answerTo? receiver) := by
  cases use with
  | subscribe =>
      have hplace : (l.use sender .subscribe).1.account? receiver
          = if receiver = l.accounts.length then some .opened else l.account? receiver :=
        place_concat l.accounts _ receiver
      rw [hplace]
      split
      next heq => exact .came heq.symm
      next => exact .quiet
  | clone => exact .quiet
  | send a =>
      rw [Ledger.use, account?_publish, item?, if_pos hlive]
      exact .published a
  | sendCounted a =>
      rw [Ledger.use, account?_publish, item?, if_pos hlive]
      exact .published a
  | drop => exact .quiet

theorem turn_step (bound : Nat) (l : Ledger α) (op : Bus.Operation α) (receiver : Nat) :
    Turn bound l receiver ((l.step bound op).1.account? receiver) (l.item? op)
      ((l.step bound op).2.answerTo? receiver) := by
  cases op with
  | use sender use =>
      by_cases hlive : l.IsLive sender
      · rw [step, if_pos hlive]
        exact turn_use bound hlive use receiver
      · have hsilent : l.item? (.use sender use) = none := by
          cases use <;> first | rfl | exact if_neg hlive
        rw [step, if_neg hlive, hsilent]
        exact .quiet
  | receive other =>
      rw [step]
      cases hother : l.account? other with
      | none => exact .quiet
      | some known =>
          simp only [account?_set hother, Bus.Happening.answerTo?]
          by_cases heq : receiver = other
          · subst heq
            rw [if_pos rfl, if_pos rfl]
            exact .received hother
          · rw [if_neg heq, if_neg (Ne.symm heq)]
            exact .quiet
  | dropReceiver other =>
      rw [step]
      cases hother : l.account? other with
      | none => exact .quiet
      | some known =>
          simp only [account?_set hother]
          by_cases heq : receiver = other
          · rw [if_pos heq]
            exact .left
          · rw [if_neg heq]
            exact .quiet

theorem length_le_step (bound : Nat) (l : Ledger α) (op : Bus.Operation α) :
    l.accounts.length ≤ (l.step bound op).1.accounts.length := by
  cases op with
  | use sender use =>
      rw [step]
      split
      · cases use <;> simp [Ledger.use, publish]
      · exact Nat.le_refl _
  | receive receiver =>
      rw [step]
      split
      · exact Nat.le_of_eq List.length_set.symm
      · exact Nat.le_refl _
  | dropReceiver receiver =>
      rw [step]
      split
      · exact Nat.le_of_eq List.length_set.symm
      · exact Nat.le_refl _

/-- Only a sender that is cloned or dropped changes what senders there are. -/
theorem senders_step (bound : Nat) (l : Ledger α) {op : Bus.Operation α}
    (hclone : ∀ sender, op ≠ .use sender .clone) (hdrop : ∀ sender, op ≠ .use sender .drop) :
    (l.step bound op).1.senders = l.senders := by
  cases op with
  | use sender use =>
      rw [step]
      split
      · cases use with
        | clone => exact absurd rfl (hclone sender)
        | drop => exact absurd rfl (hdrop sender)
        | _ => rfl
      · rfl
  | receive receiver =>
      rw [step]
      split <;> rfl
  | dropReceiver receiver =>
      rw [step]
      split <;> rfl

/-! ## Runs -/

/-- A receiver that has not come has been told nothing, and the others of what they have passed. -/
structure Tells (l : Ledger α) (receiver : Nat) (answers : List (Received α)) : Prop where
  unknown : l.accounts.length ≤ receiver → answers = []
  balanced : ∀ k, l.account? receiver = some k → k.Balanced answers

theorem Tells.step {answers : List (Received α)} (h : l.Tells receiver answers) (bound : Nat)
    (op : Bus.Operation α) :
    (l.step bound op).1.Tells receiver
      (answers ++ ((l.step bound op).2.answerTo? receiver).toList) := by
  have hturn := l.turn_step bound op receiver
  have hlength := l.length_le_step bound op
  generalize hknown : (l.step bound op).1.account? receiver = known at hturn
  generalize l.item? op = item at hturn
  generalize (l.step bound op).2.answerTo? receiver = answer at hturn
  have hunknown : (l.step bound op).1.accounts.length ≤ receiver → answers = [] := fun hle =>
    h.unknown (Nat.le_trans hlength hle)
  cases hturn with
  | quiet =>
      rw [Option.toList_none, List.append_nil]
      exact ⟨hunknown, fun k hk => h.balanced k (hknown ▸ hk)⟩
  | published a =>
      rw [Option.toList_none, List.append_nil]
      refine ⟨hunknown, fun k hk => ?_⟩
      obtain ⟨before, hbefore, rfl⟩ := Option.map_eq_some_iff.mp (hknown ▸ hk)
      exact (h.balanced before hbefore).withItem a
  | came hnew =>
      rw [Option.toList_none, List.append_nil, h.unknown (Nat.le_of_eq hnew)]
      refine ⟨fun _ => rfl, fun k hk => ?_⟩
      obtain rfl := Option.some.inj (hknown.symm.trans hk)
      exact .opened
  | received hbefore =>
      refine ⟨fun hle => ?_, fun k hk => ?_⟩
      · exact absurd (lt_length hknown) (Nat.not_lt.mpr hle)
      · obtain rfl := Option.some.inj (hknown.symm.trans hk)
        exact (h.balanced _ hbefore).next bound l.isOpen
  | left =>
      rw [Option.toList_none, List.append_nil]
      refine ⟨hunknown, fun k hk => ?_⟩
      rw [hknown] at hk
      cases hk

theorem Tells.run {answers : List (Received α)} (h : l.Tells receiver answers) (bound : Nat)
    (ops : List (Bus.Operation α)) :
    (Run.after (Ledger.step bound) l ops).Tells receiver
      (answers ++ Bus.answersTo receiver (Run.happenings (Ledger.step bound) l ops)) := by
  induction ops generalizing l answers with
  | nil =>
      rw [Run.happenings, Bus.answersTo, List.filterMap_nil, List.append_nil]
      exact h
  | cons op ops ih =>
      have hrest := ih (h.step bound op)
      rwa [List.append_assoc, ← Bus.answersTo_cons] at hrest

/-- After every run the answers to a receiver tell of what it has passed. -/
theorem tells_ofRun (bound : Nat) (ops : List (Bus.Operation α)) (receiver : Nat) :
    (ofRun bound ops).Tells receiver
      (Bus.answersTo receiver (Run.happenings (step bound) initial ops)) :=
  Tells.run ⟨fun _ => rfl, fun _ hk => absurd (lt_length hk) (Nat.not_lt_zero _)⟩
    bound ops

theorem published_append (bound : Nat) (l : Ledger α) (ops later : List (Bus.Operation α)) :
    l.published bound (ops ++ later)
      = l.published bound ops ++ (Run.after (step bound) l ops).published bound later := by
  induction ops generalizing l with
  | nil => rfl
  | cons op ops ih => rw [List.cons_append, published, published, ih, List.append_assoc, Run.after_cons]

/-- What has been published since a receiver came is what a run of the operations since then
publishes. -/
theorem published_after (ops : List (Bus.Operation α)) {after : Account α}
    (hreceiver : receiver < l.accounts.length)
    (hafter : (Run.after (step bound) l ops).account? receiver = some after) :
    ∃ before, l.account? receiver = some before ∧
      after.published = before.published ++ l.published bound ops := by
  induction ops generalizing l with
  | nil => exact ⟨after, hafter, (List.append_nil _).symm⟩
  | cons op ops ih =>
      have hlength := l.length_le_step bound op
      have hturn := l.turn_step bound op receiver
      obtain ⟨known, hknown, hpublished⟩ := ih (Nat.lt_of_lt_of_le hreceiver hlength) hafter
      rw [hpublished, published]
      rw [hknown] at hturn
      generalize l.item? op = item at hturn ⊢
      generalize (l.step bound op).2.answerTo? receiver = answer at hturn
      generalize haccount : some known = account at hturn
      cases hturn with
      | quiet => exact ⟨known, haccount.symm, rfl⟩
      | published a =>
          obtain ⟨before, hbefore, rfl⟩ := Option.map_eq_some_iff.mp haccount.symm
          refine ⟨before, hbefore, ?_⟩
          rw [Account.withItem, List.append_assoc, Option.toList_some]
      | came hnew => exact absurd hreceiver (Nat.not_lt.mpr (Nat.le_of_eq hnew))
      | received hbefore =>
          obtain rfl := Option.some.inj haccount
          refine ⟨_, hbefore, ?_⟩
          rw [Account.published_next, Option.toList_none, List.nil_append]
      | left => cases haccount

/-- The account of a receiver has what was published through any sender since it subscribed. -/
theorem published_ofRun {before later : List (Bus.Operation α)}
    (hlive : (ofRun bound before).IsLive sender)
    (hk : (ofRun bound (before ++ .use sender .subscribe :: later)).account?
      (ofRun bound before).accounts.length = some k) :
    k.published
      = (ofRun bound (before ++ [.use sender .subscribe])).published bound later := by
  have hcame : ofRun bound (before ++ [.use sender .subscribe])
      = { ofRun bound before with accounts := (ofRun bound before).accounts ++ [some .opened] } := by
    rw [ofRun, Run.after_concat, step]
    exact congrArg Prod.fst (if_pos hlive)
  have hopened : ({ ofRun bound before with
        accounts := (ofRun bound before).accounts ++ [some .opened] } : Ledger α).account?
      (ofRun bound before).accounts.length = some .opened :=
    (place_concat _ _ _).trans (if_pos rfl)
  rw [List.append_cons, ofRun, Run.after_append, ← ofRun, hcame] at hk
  rw [hcame]
  obtain ⟨opened, hknown, hpublished⟩ := published_after later (lt_length hopened) hk
  obtain rfl := Option.some.inj (hopened.symm.trans hknown)
  exact hpublished

end Ledger
end Fieldbus
