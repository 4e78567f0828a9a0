import Fieldbus.InPlace
import Fieldbus.Proofs.Codec.Tracked
import Fieldbus.Reply

/-!
# Codecs that write in place do what is told of them

What a codec leaves in its hands when it ends is what its reply says: the state that the reply has,
the records of before with the reported ones behind them, and the same result. A refusal that comes
after something has been written, or that is recorded twice, would not be.
-/
namespace Fieldbus

/-! ## Computations and their replies -/

namespace InPlace

variable {σ τ β : Type} {model : Model} {before : σ} {reply : Reply σ}

/-- From a state the computation comes to the end that the reply tells of, whatever has been recorded
before. -/
def Leaves (x : InPlace σ Bool) (before : σ) (reply : Reply σ) : Prop :=
  ∀ kept, x.on ⟨before, kept⟩ = (reply.result, ⟨reply.state, kept ++ reply.reported⟩)

theorem leaves_write (f : σ → Tracked σ) (model : Model) (before : σ) :
    Leaves (write f) before (.of model before (.ok (f before))) := by
  intro kept
  rw [Reply.of, List.append_nil]
  rfl

/-- A packet that is refused as such, its payload not being at fault. -/
theorem leaves_refuse {reason : Refusal} (h : (Diagnostic.refused model reason).isMalformed = false)
    (before : σ) : Leaves (refuse model reason) before (.of model before (.error reason)) := by
  intro kept
  cases reason with
  | malformed e => cases h
  | _ => rfl

/-- What is looked at is the state from which the computation starts. -/
theorem leaves_read_bind {k : σ → InPlace σ Bool} (h : Leaves (k before) before reply) :
    Leaves (read >>= k) before reply := h

/-- What may fail comes first: the computation ends with its error, or goes on. -/
theorem leaves_bind {x : Except FrameError β} {k : β → InPlace σ Bool}
    {outcome : β → Except Refusal (Tracked σ)}
    (h : ∀ b, x = .ok b → Leaves (k b) before (.of model before (outcome b))) :
    Leaves (liftM x >>= k) before (.of model before (x.mapError .malformed >>= outcome)) := by
  intro kept
  cases hx : x with
  | error e =>
      simp only [mapError_error, bind, Except.bind, Reply.of, List.append_nil]
      rfl
  | ok b => exact h b hx kept

/-! ### Steps that write -/

theorem on_write (f : σ → Tracked σ) (target : Target σ) :
    (write f).on target
      = (.ok (f target.state).changed, ⟨(f target.state).state, target.records⟩) := rfl

theorem both_write (f g : σ → Tracked σ) :
    both (write f) (write g) = write fun s => (f s).andThen g := rfl

theorem write_start : write Tracked.start = (pure false : InPlace σ Bool) := rfl

theorem write_if {c : σ → Prop} [DecidablePred c] (f : σ → Tracked σ) :
    (read >>= fun s => if c s then write f else pure false)
      = write fun s => if c s then f s else .start s := by
  funext target
  change (if c target.state then write f else pure false : InPlace σ Bool).on target
    = (write fun s => if c s then f s else .start s).on target
  by_cases h : c target.state
  · simp only [on_write, if_pos h]
  · simp only [on_write, if_neg h]
    rfl

theorem on_bind {x : InPlace σ β} {k : β → InPlace σ Bool} {target left : Target σ} {b : β}
    (h : x.on target = (.ok b, left)) : (x >>= k).on target = (k b).on left := by
  have hbind : (x >>= k).on target = ExceptT.bindCont k (x.on target).1 (x.on target).2 := rfl
  rw [hbind, h]
  rfl

/-- The step that writes first never ends with an error, so the other one is always taken. -/
theorem on_both_write {f : σ → Tracked σ} {x : InPlace σ Bool} {target left : Target σ}
    {changed : Bool}
    (h : x.on ⟨(f target.state).state, target.records⟩ = (.ok changed, left)) :
    (both (write f) x).on target = (.ok ((f target.state).changed || changed), left) := by
  change (x >>= fun after => pure ((f target.state).changed || after)).on
    ⟨(f target.state).state, target.records⟩ = _
  rw [on_bind h]
  rfl

theorem leaves_within {part : τ} {x : InPlace τ Bool} {reply : Reply τ} (h : Leaves x part reply)
    (put : τ → σ → σ) (before : σ) :
    Leaves (within part put x) before (reply.map fun part => put part before) := by
  intro kept
  have hon : (within part put x).on ⟨before, kept⟩ = ((x.on ⟨part, kept⟩).1,
      ⟨put (x.on ⟨part, kept⟩).2.state before, (x.on ⟨part, kept⟩).2.records⟩) := rfl
  rw [hon, h kept]
  rfl

end InPlace

open InPlace

/-! ## Relay banks -/

namespace RelayBank

theorem storeAt_of_channels {bank : RelayBank} {done slots : List (Option Power)}
    {slot : Option Power} (h : bank.channels = done ++ slot :: slots) (state : Power) :
    (storeAt done.length state bank).changed = (Tracked.put slot state).changed ∧
      (storeAt done.length state bank).state.channels
        = (done ++ [(Tracked.put slot state).state]) ++ slots := by
  have hslot : bank.channels[done.length]?.join = slot := by
    rw [h, List.getElem?_append_right (Nat.le_refl _), Nat.sub_self]
    rfl
  constructor
  · rw [storeAt, hslot]
    rfl
  · rw [storeAt, hslot]
    simp only [Tracked.map, h, List.set_append_right _ _ (Nat.le_refl _), Nat.sub_self,
      List.set_cons_zero, List.append_assoc, List.singleton_append]

/-- States that are written one after the other are those that are stored at once. -/
theorem on_writeFrom (states : List Power) (kept : List Diagnostic) {bank : RelayBank}
    {done slots : List (Option Power)} (h : bank.channels = done ++ slots) :
    ∃ after : RelayBank, after.size = bank.size ∧
      after.channels = done ++ (Tracked.putAll slots states).state ∧
      (writeFrom done.length states).on ⟨bank, kept⟩
        = (.ok (Tracked.putAll slots states).changed, ⟨after, kept⟩) := by
  induction states generalizing bank done slots with
  | nil =>
      rw [Tracked.putAll_nil]
      exact ⟨bank, rfl, h, rfl⟩
  | cons state states ih =>
      have hon : (writeFrom done.length (state :: states)).on ⟨bank, kept⟩
          = (if done.length < bank.channels.length then
              both (write (storeAt done.length state)) (writeFrom (done.length + 1) states)
            else pure false : InPlace RelayBank Bool).on ⟨bank, kept⟩ := rfl
      rw [hon, h, List.length_append]
      cases slots with
      | nil =>
          rw [List.length_nil, Nat.add_zero, if_neg (Nat.lt_irrefl _)]
          exact ⟨bank, rfl, h, rfl⟩
      | cons slot slots =>
          obtain ⟨hchanged, hstored⟩ := storeAt_of_channels h state
          obtain ⟨after, hsize, hchannels, hrest⟩ := ih hstored
          rw [List.length_append, List.length_singleton] at hrest
          rw [List.length_cons, if_pos (Nat.lt_add_of_pos_right (Nat.succ_pos _)),
            on_both_write hrest, hchanged]
          refine ⟨after, hsize, ?_, rfl⟩
          rw [hchannels, Tracked.putAll, List.append_assoc, List.singleton_append]

/-- Stored at once or one by one, the bank is the same. -/
theorem leaves_writeFrom (model : Model) (bank : RelayBank) (states : List Power) :
    Leaves (writeFrom 0 states) bank (.of model bank (.ok (bank.store states))) := by
  intro kept
  have hall : bank.channels = [] ++ bank.channels := (List.nil_append _).symm
  obtain ⟨after, hsize, hchannels, hon⟩ := on_writeFrom states kept hall
  have hafter : after = (bank.store states).state := by
    cases after
    simp only [store, RelayBank.mk.injEq]
    exact ⟨hsize, hchannels⟩
  rw [← List.length_nil (α := Option Power), hon, hafter, Reply.of, List.append_nil]
  rfl

theorem leaves_decodeInPlace (model : Model) (bank : RelayBank) (p : Packet) :
    Leaves (decodeInPlace model p) bank (bank.answer model p) := by
  have hlevels := leaves_bind (x := bank.readLevels p) fun states _ => leaves_writeFrom model bank states
  have hmask := leaves_bind (x := bank.readMask p) fun states _ => leaves_writeFrom model bank states
  unfold decodeInPlace answer decode
  rw [map_eq_bind, map_eq_bind]
  cases p.command with
  | statusOfChannels => exact leaves_read_bind hlevels
  | levelOfChannels => exact leaves_read_bind hlevels
  | singleChannelControl => exact leaves_read_bind hmask
  | statusOfScene => exact leaves_refuse rfl bank
  | floorHeatingStatus => exact leaves_refuse rfl bank
  | other code => exact leaves_refuse rfl bank

end RelayBank

/-! ## Dimmer banks -/

namespace DimmerBank

theorem leaves_decodeReportInPlace (model : Model) (bank : DimmerBank) (p : Packet) :
    Leaves (decodeReportInPlace p) bank
      (.of model bank ((bank.decodeReport p).mapError .malformed)) := by
  rw [decodeReportInPlace, decodeReport]
  simp only [mapError_bind, both_write]
  refine leaves_bind fun data _ => ?_
  refine leaves_bind fun first _ => leaves_bind fun second _ => leaves_bind fun third _ =>
    leaves_bind fun fourth _ => ?_
  simp only [Tracked.andThen_assoc]
  exact leaves_write _ model bank

theorem leaves_decodeControlInPlace (model : Model) (bank : DimmerBank) (p : Packet) :
    Leaves (decodeControlInPlace model p) bank (.of model bank (bank.decodeControl p)) := by
  rw [decodeControlInPlace, decodeControl]
  refine leaves_bind fun data _ => ?_
  dsimp only
  cases Channel.ofByte? data.val[0] with
  | none => exact leaves_refuse rfl bank
  | some channel =>
      refine leaves_bind fun level _ => ?_
      exact leaves_write _ model bank

theorem leaves_decodeInPlace (model : Model) (bank : DimmerBank) (p : Packet) :
    Leaves (decodeInPlace model p) bank (bank.answer model p) := by
  have hreport := leaves_decodeReportInPlace model bank p
  unfold decodeInPlace answer decode
  cases p.command with
  | statusOfChannels => exact hreport
  | levelOfChannels => exact hreport
  | singleChannelControl => exact leaves_decodeControlInPlace model bank p
  | statusOfScene => exact leaves_refuse rfl bank
  | floorHeatingStatus => exact leaves_refuse rfl bank
  | other code => exact leaves_refuse rfl bank

end DimmerBank

namespace Thermostat

theorem writeSetpoint_eq (which : Setpoint) (value : Decimal.Binary64) :
    writeSetpoint which value = write (setSetpoint which value) := by
  rw [writeSetpoint, write_if, both_write]
  rfl

theorem leaves_decodeStatusInPlace (model : Model) (t : Thermostat) (p : Packet) :
    Leaves (decodeStatusInPlace p) t
      (.of model t ((t.decodeStatus p).mapError .malformed)) := by
  rw [decodeStatusInPlace, decodeStatus]
  simp only [mapError_bind]
  refine leaves_bind fun data _ => ?_
  simp only [writeSetpoint_eq, ← write_start, both_write, Tracked.andThen_assoc]
  cases Mode.ofByte data.val[3] with
  | ok mode =>
      simp only [both_write]
      exact leaves_write _ model t
  | error e =>
      simp only [both_write]
      exact leaves_write _ model t

theorem leaves_decodeInPlace (model : Model) (t : Thermostat) (p : Packet) :
    Leaves (decodeInPlace model p) t (t.answer model p) := by
  rw [decodeInPlace, answer, decode]
  refine leaves_bind fun data _ => leaves_read_bind ?_
  dsimp only
  by_cases hchannel : data.val[0] = t.channel
  · simp only [hchannel, ne_eq, not_true, if_false]
    cases p.command with
    | floorHeatingStatus => exact leaves_decodeStatusInPlace model t p
    | statusOfChannels => exact leaves_refuse rfl t
    | levelOfChannels => exact leaves_refuse rfl t
    | singleChannelControl => exact leaves_refuse rfl t
    | statusOfScene => exact leaves_refuse rfl t
    | other code => exact leaves_refuse rfl t
  · rw [if_pos hchannel, if_pos hchannel]
    exact leaves_refuse rfl t

end Thermostat

/-! ## Devices -/

theorem Channels.leaves_decodeInPlace (model : Model) (s : Channels) (p : Packet) :
    Leaves (decodeInPlace model p) s (s.answer model p) := by
  refine leaves_read_bind ?_
  cases s with
  | relay bank => exact leaves_within (RelayBank.leaves_decodeInPlace model bank p) _ _
  | dimmer bank => exact leaves_within (DimmerBank.leaves_decodeInPlace model bank p) _ _
  | floorHeating t => exact leaves_within (Thermostat.leaves_decodeInPlace model t p) _ _
  | unsupported => exact fun kept => rfl

end Fieldbus
