import Fieldbus.Gateway
import Fieldbus.Proofs.Broadcast.Delivery
import Fieldbus.Proofs.Device.Frames
import Fieldbus.Proofs.Registry.Mirror
import Fieldbus.Proofs.Registry.Outcome

/-!
# A gateway and its subscribers

Whatever is done to a gateway is done to its registry, and what the registry tells goes out on the
channel, in order and with nothing in between. So a run of a gateway is at once a run of its registry
and a run of a bus, and what is shown of the two holds here: a packet does to a gateway what it does
to a registry, and a subscriber is given what the registry tells.
-/
namespace Fieldbus

theorem Sink.record_none (sink : Sink) : sink.record none = sink := by
  cases sink with
  | logging => rfl
  | collecting entries => exact congrArg collecting (List.append_nil entries)

namespace Gateway

/-! ## New gateways -/

/-- A gateway as it is made: it has heard no device yet, and nothing has been sent on its channel. -/
structure IsNew (g : Gateway) (configurations : List Configuration) : Prop where
  registry : g.registry = .ofConfigurations configurations
  channel : ∃ capacity, Broadcast.create capacity = .ok g.channel

section

variable {g made : Gateway} {configurations : List Configuration} {old : Broadcast Event}

theorem isNew_ofConfigurations (configurations : List Configuration) :
    (ofConfigurations configurations).IsNew configurations :=
  ⟨rfl, _, Broadcast.create_defaultCapacity⟩

theorem IsNew.withSink (h : g.IsNew configurations) (sink : Sink) :
    (g.withSink sink).IsNew configurations :=
  ⟨h.registry, h.channel⟩

theorem IsNew.withCapacity {capacity : Nat} (h : g.IsNew configurations)
    (hmade : g.withCapacity capacity = .ok (made, old)) : made.IsNew configurations := by
  rw [Gateway.withCapacity] at hmade
  cases hcreate : Broadcast.create (α := Event) capacity with
  | error e =>
      rw [hcreate] at hmade
      cases hmade
  | ok channel =>
      rw [hcreate] at hmade
      cases hmade
      exact ⟨h.registry, capacity, hcreate⟩

end

/-! ## Runs -/

/-- What can be done to a gateway, and to the receivers of its channel. -/
inductive Action where
  | operate (op : Operation)
  | subscribe
  | receive (receiver : Nat)
  | dropReceiver (receiver : Nat)

/-- The operation on the registry, if an action is one. -/
def Action.operation? : Action → Option Operation
  | operate op => some op
  | _ => none

def operations (acts : List Action) : List Operation :=
  acts.filterMap Action.operation?

theorem operations_cons (a : Action) (acts : List Action) :
    operations (a :: acts) = a.operation?.toList ++ operations acts := by
  rw [operations, List.filterMap_cons]
  cases a <;> rfl

/-- The bus of the channel. The gateway has its only sender. -/
def bus (g : Gateway) : Bus Event :=
  .ofChannel g.channel

/-- The gateway after an operation. -/
def operate (g : Gateway) : Operation → Gateway
  | .packet p => (g.handle p).1
  | .remove serial => (g.remove serial).1
  | .configure configurations => g.withConfigurations configurations

/-- The gateway after something is done to its bus, and what came of that. -/
def onBus (g : Gateway) (op : Bus.Operation Event) : Gateway × List (Bus.Happening Event) :=
  let (bus, happening) := g.bus.step op
  ({ g with channel := bus.channel }, [happening])

/-- The gateway after an action, and what it comes to for the receivers. -/
def act (g : Gateway) : Action → Gateway × List (Bus.Happening Event)
  | .operate op => (g.operate op, [])
  | .subscribe => g.onBus (.use 0 .subscribe)
  | .receive receiver => g.onBus (.receive receiver)
  | .dropReceiver receiver => g.onBus (.dropReceiver receiver)

/-- What an action is to the bus. -/
def uses (g : Gateway) : Action → List (Bus.Operation Event)
  | .operate op => (g.registry.step op).2.map fun e => .use 0 (.send e)
  | .subscribe => [.use 0 .subscribe]
  | .receive receiver => [.receive receiver]
  | .dropReceiver receiver => [.dropReceiver receiver]

/-- What a run is to the bus. -/
def busRun (g : Gateway) : List Action → List (Bus.Operation Event)
  | [] => []
  | a :: acts => g.uses a ++ (g.act a).1.busRun acts

/-! ### The registry -/

theorem registry_operate (g : Gateway) (op : Operation) :
    (g.operate op).registry = (g.registry.step op).1 := by
  cases op with
  | packet p => simp only [operate, handle, publish, Registry.step]
  | remove serial => simp only [operate, remove, publish, Registry.step]
  | configure configurations => rfl

theorem registry_act (g : Gateway) (a : Action) :
    (g.act a).1.registry = g.registry.after a.operation?.toList := by
  cases a with
  | operate op => exact g.registry_operate op
  | _ => rfl

/-- A run of a gateway is a run of its registry. -/
theorem registry_after (g : Gateway) (acts : List Action) :
    (Run.after act g acts).registry = g.registry.after (operations acts) := by
  induction acts generalizing g with
  | nil => rfl
  | cons a acts ih =>
      rw [Run.after_cons, ih, registry_act, operations_cons, Registry.after, Registry.after,
        Registry.after, List.foldl_append]

/-! ### The bus -/

theorem channel_operate (g : Gateway) (op : Operation) :
    (g.operate op).channel = (g.registry.step op).2.foldl Broadcast.send g.channel := by
  cases op with
  | packet p => simp only [operate, handle, publish, Registry.step]
  | remove serial => simp only [operate, remove, publish, Registry.step]
  | configure configurations => rfl

/-- Events that are sent one after the other are told to no receiver yet. -/
theorem run_sends (channel : Broadcast Event) (events : List Event) (receiver : Nat) :
    Run.after Bus.step (.ofChannel channel) (events.map fun e => .use 0 (.send e))
        = .ofChannel (events.foldl Broadcast.send channel) ∧
      Bus.answersTo receiver (Run.happenings Bus.step (.ofChannel channel)
        (events.map fun e => .use 0 (.send e))) = [] := by
  induction events generalizing channel with
  | nil => exact ⟨rfl, rfl⟩
  | cons e events ih => exact ih (channel.send e)

theorem bus_onBus (g : Gateway) {op : Bus.Operation Event}
    (hsenders : (g.bus.step op).1.senders = [true]) : (g.onBus op).1.bus = (g.bus.step op).1 := by
  rw [onBus, bus, Bus.ofChannel, ← hsenders]

theorem run_uses (g : Gateway) (a : Action) (receiver : Nat) :
    Run.after Bus.step g.bus (g.uses a) = (g.act a).1.bus ∧
      Bus.answersTo receiver (Run.happenings Bus.step g.bus (g.uses a))
        = Bus.answersTo receiver (g.act a).2 := by
  cases a with
  | operate op =>
      obtain ⟨hafter, hsilent⟩ := run_sends g.channel (g.registry.step op).2 receiver
      refine ⟨?_, hsilent⟩
      rw [act, bus, bus, channel_operate]
      exact hafter
  | subscribe => exact ⟨(g.bus_onBus rfl).symm, rfl⟩
  | receive other =>
      refine ⟨(g.bus_onBus ?_).symm, rfl⟩
      rw [Bus.step]
      split <;> rfl
  | dropReceiver other =>
      refine ⟨(g.bus_onBus ?_).symm, rfl⟩
      rw [Bus.step]
      split <;> rfl

theorem run_bus (g : Gateway) (acts : List Action) (receiver : Nat) :
    Run.after Bus.step g.bus (g.busRun acts) = (Run.after act g acts).bus ∧
      Bus.answersTo receiver (Run.happenings Bus.step g.bus (g.busRun acts))
        = Bus.answersTo receiver (Run.happenings act g acts).flatten := by
  induction acts generalizing g with
  | nil => exact ⟨rfl, rfl⟩
  | cons a acts ih =>
      obtain ⟨hafter, hanswers⟩ := g.run_uses a receiver
      obtain ⟨hafter', hanswers'⟩ := ih (g.act a).1
      rw [busRun, Run.after_append, Run.happenings_append, hafter]
      refine ⟨hafter', ?_⟩
      rw [Bus.answersTo_append, hanswers, hanswers', ← Bus.answersTo_append]
      rfl

theorem busRun_append (g : Gateway) (acts later : List Action) :
    g.busRun (acts ++ later) = g.busRun acts ++ (Run.after act g acts).busRun later := by
  induction acts generalizing g with
  | nil => rfl
  | cons a acts ih => rw [List.cons_append, busRun, busRun, ih, List.append_assoc, Run.after_cons]

/-! ### What is published -/

variable {bound capacity : Nat} {l : Ledger Event} {channel : Broadcast Event}

theorem published_sends (hlive : l.IsLive 0) (events : List Event) :
    l.published bound (events.map fun e => .use 0 (.send e)) = events ∧
      (Run.after (Ledger.step bound) l (events.map fun e => .use 0 (.send e))).IsLive 0 := by
  induction events generalizing l with
  | nil => exact ⟨rfl, hlive⟩
  | cons e events ih =>
      have hstep : l.step bound (.use 0 (.send e)) = (l.publish e, .sent e none) := if_pos hlive
      have hitem : l.item? (.use 0 (.send e)) = some e := if_pos hlive
      obtain ⟨hpublished, hafter⟩ := ih (l := l.publish e) hlive
      rw [List.map_cons, Ledger.published, Run.after_cons, hstep, hitem, hpublished]
      exact ⟨rfl, hafter⟩

theorem published_uses (hlive : l.IsLive 0) (g : Gateway) (a : Action) :
    l.published bound (g.uses a) = g.registry.published a.operation?.toList ∧
      (Run.after (Ledger.step bound) l (g.uses a)).IsLive 0 := by
  cases a with
  | operate op =>
      obtain ⟨hpublished, hafter⟩ := published_sends hlive (g.registry.step op).2
      exact ⟨hpublished.trans (List.append_nil _).symm, hafter⟩
  | subscribe => exact ⟨rfl, hlive.of_senders_eq (l.senders_step bound nofun nofun)⟩
  | receive other => exact ⟨rfl, hlive.of_senders_eq (l.senders_step bound nofun nofun)⟩
  | dropReceiver other => exact ⟨rfl, hlive.of_senders_eq (l.senders_step bound nofun nofun)⟩

/-- What a run of a gateway publishes is what its registry tells. -/
theorem published_busRun (hlive : l.IsLive 0) (g : Gateway) (acts : List Action) :
    l.published bound (g.busRun acts) = g.registry.published (operations acts) ∧
      (Run.after (Ledger.step bound) l (g.busRun acts)).IsLive 0 := by
  induction acts generalizing g l with
  | nil => exact ⟨rfl, hlive⟩
  | cons a acts ih =>
      obtain ⟨hfirst, hafter⟩ := published_uses hlive g a
      obtain ⟨hrest, hlast⟩ := ih hafter (g.act a).1
      rw [busRun, Ledger.published_append, hfirst, hrest, operations_cons,
        Registry.published_append, registry_act, Run.after_append]
      exact ⟨rfl, hlast⟩

/-! ## Subscribers -/

section

variable {g : Gateway} {receiver pending : Nat} {before later : List Action}

/-- The bus of a gateway with a new channel follows its ledger. -/
theorem follows_run (hcreate : Broadcast.create capacity = .ok g.channel) (acts : List Action) :
    ∃ log, Bus.Follows (Broadcast.roundUp capacity) log (Run.after act g acts).bus
      (Ledger.ofRun (Broadcast.roundUp capacity) (g.busRun acts)) := by
  obtain ⟨hfollows, -⟩ := (Bus.Follows.initial hcreate).run (g.busRun acts)
  rwa [← bus, (g.run_bus acts 0).1] at hfollows

/-- What a receiver of a gateway with a new channel has been given is balanced in its account. -/
theorem balanced_run (hcreate : Broadcast.create capacity = .ok g.channel) (acts : List Action)
    {k : Account Event}
    (hk : (Ledger.ofRun (Broadcast.roundUp capacity) (g.busRun acts)).account? receiver = some k) :
    k.Balanced (Bus.answersTo receiver (Run.happenings act g acts).flatten) := by
  obtain ⟨-, htold⟩ := (Bus.Follows.initial hcreate).run (g.busRun acts)
  rw [← (g.run_bus acts receiver).2, bus, htold]
  exact (Ledger.tells_ofRun _ _ receiver).balanced k hk

/-- A subscriber who has not left has an account of what the registry has told since the subscriber
came, and what the subscriber has been given is balanced there. -/
theorem account_of_subscriber (hcreate : Broadcast.create capacity = .ok g.channel)
    (hreceiver : receiver = (Run.after act g before).channel.positions.length)
    (hpending : (Run.after act g (before ++ .subscribe :: later)).channel.pending? receiver
      = some pending) :
    ∃ k : Account Event, k.pending = pending ∧
      k.published = (g.registry.after (operations before)).published (operations later) ∧
      k.Balanced (Bus.answersTo receiver
        (Run.happenings act g (before ++ .subscribe :: later)).flatten) := by
  obtain ⟨_, hmet⟩ := follows_run hcreate before
  obtain ⟨_, hend⟩ := follows_run hcreate (before ++ .subscribe :: later)
  have hnumber := hreceiver.trans hmet.length
  obtain ⟨k, hk, rfl⟩ := Option.map_eq_some_iff.mp ((hend.pending? receiver).symm.trans hpending)
  refine ⟨k, rfl, ?_, balanced_run hcreate _ hk⟩
  have hsplit : g.busRun (before ++ .subscribe :: later) = g.busRun before ++
      .use 0 .subscribe :: ((Run.after act g before).act .subscribe).1.busRun later :=
    g.busRun_append before _
  rw [hsplit, hnumber] at hk
  have hlive : (Ledger.ofRun (Broadcast.roundUp capacity) (g.busRun before)).IsLive 0 :=
    (published_busRun (l := .initial) rfl g before).2
  have hcame : (Ledger.ofRun (Broadcast.roundUp capacity)
      (g.busRun before ++ [.use 0 .subscribe])).IsLive 0 := by
    rw [Ledger.ofRun, Run.after_append]
    exact (published_uses hlive g .subscribe).2
  refine (Ledger.published_ofRun hlive hk).trans ?_
  rw [(published_busRun hcame _ later).1, registry_act, registry_after]
  rfl

/-- A subscriber who was there from the start, has lost nothing and has nothing left to get has been
given all that the registry has told. So the devices it has seen are the discoverable ones that the
gateway holds. -/
theorem sightings_of_subscriber {configurations : List Configuration} {acts : List Action}
    (hnew : g.IsNew configurations) {answers : List (Received Event)}
    (hanswers : answers = Bus.answersTo 0 (Run.happenings act g (.subscribe :: acts)).flatten)
    (hpending : (Run.after act g (.subscribe :: acts)).channel.pending? 0 = some 0)
    (hlost : (answers.map Received.missed).sum = 0) :
    answers.filterMap Received.item? = Registry.told configurations (operations acts) ∧
      ∀ key, (Sightings.ofEvents (answers.filterMap Received.item?)).find? key ≠ none ↔
        ∃ d, (Run.after act g (.subscribe :: acts)).registry.devices.find? key = some d ∧
          d.isDiscoverable = true := by
  obtain ⟨hregistry, capacity, hcreate⟩ := hnew
  have hfirst : 0 = (Run.after act g []).channel.positions.length := by
    obtain ⟨-, -, hchannel⟩ := Broadcast.create_eq_ok_iff.mp hcreate
    rw [Run.after_nil, hchannel]
    rfl
  obtain ⟨k, hlevel, hpublished, hbalanced⟩ :=
    account_of_subscriber hcreate hfirst hpending
  rw [List.nil_append, ← hanswers] at hbalanced
  have htold : answers.filterMap Received.item? = Registry.told configurations (operations acts) := by
    rw [hbalanced.delivered_eq hlost hlevel, hpublished, hregistry]
    rfl
  refine ⟨htold, fun key => ?_⟩
  rw [htold, Sightings.seen_iff, registry_after, hregistry]
  rfl

end

/-! ## Packets -/

theorem handle_eq (g : Gateway) (p : Packet) :
    g.handle p = (⟨(g.registry.dispatch p).registry,
      (g.registry.dispatch p).events.foldl Broadcast.send g.channel,
      g.sink.record (g.registry.dispatch p).diagnostic⟩,
      (g.registry.dispatch p).outcome, g.registry.dispatchLog p g.sink.isLogging) := by
  simp only [handle, publish]

/-- A packet does to a gateway what it does to a registry. Of a packet that nobody is known for, only
the event is sent. Any other packet is written to its device in place, and what is recorded on the
way comes behind what the sink has collected. -/
theorem handle_after {g : Gateway} {configurations : List Configuration}
    (hnew : g.IsNew configurations) (acts : List Action) (p : Packet)
    {reached : Gateway} (hreached : reached = Run.after act g acts) :
    (reached.handle p).1.registry = (reached.registry.dispatch p).registry ∧
    (reached.handle p).2.1 = (reached.registry.dispatch p).outcome ∧
    (reached.handle p).1.channel
      = (reached.registry.dispatch p).events.foldl Broadcast.send reached.channel ∧
    (reached.registry.Unclaimed (Serial.normalize p.serial) →
      (reached.handle p).1 = { reached with
        channel := reached.channel.send (.unknown (Serial.normalize p.serial) p.address) } ∧
      (reached.handle p).2.1 = .unknownDevice) ∧
    (¬ reached.registry.Unclaimed (Serial.normalize p.serial) → ∃ before isNew after,
      reached.registry.Found (Serial.normalize p.serial) before isNew ∧
      Registry.Handled reached.registry p before isNew after (reached.registry.dispatch p) ∧
      ∀ kept, after = (Device.decodeInPlace p ⟨before, kept⟩).state.setUpdated false ∧
        (reached.sink = .collecting kept →
          (reached.handle p).1.sink
            = .collecting (Device.decodeInPlace p ⟨before, kept⟩).records)) := by
  have hnorm := Serial.normalize_normalize p.serial
  have hrun : reached.registry = Registry.ofRun configurations (operations acts) := by
    rw [hreached, registry_after, hnew.registry]
    rfl
  simp only [handle_eq, true_and]
  cases hresolve : reached.registry.resolve? (Serial.normalize p.serial) with
  | none =>
      have hunclaimed := Registry.unclaimed_of_resolve?_none hnorm hresolve
      refine ⟨fun _ => ?_, fun h => absurd hunclaimed h⟩
      simp only [Registry.dispatch_of_unknown hresolve, Sink.record_none, and_true]
      rfl
  | some found =>
      obtain ⟨before, isNew⟩ := found
      obtain ⟨hfound, hclaimed⟩ := Registry.found_of_resolve?_some hnorm hresolve
      have hclean : before.updated = false := by
        rw [hrun] at hfound
        exact hfound.settled.1
      have hhandled := Registry.handled_dispatch hfound hresolve hclean
      refine ⟨fun h => absurd h hclaimed, fun _ => ⟨before, isNew, _, hfound, hhandled, ?_⟩⟩
      intro kept
      rw [Device.decodeInPlace_eq]
      refine ⟨rfl, fun hsink => ?_⟩
      simp only [hhandled.diagnostic, hsink]
      rfl

end Gateway
end Fieldbus
