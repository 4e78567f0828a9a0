import Fieldbus.Proofs.Codec.Tracked
import Fieldbus.Proofs.Decimal.Value
import Fieldbus.Thermostat.Basic
import Mathlib.Data.List.GetD

/-!
# Frames of thermostats

A status frame stores its settings first and its setpoints after them. Settings and setpoints are
different slots, and of the setpoints only the one that is followed reaches the current temperature.
So no slot is stored twice, and the mark of the whole frame is exact.
-/
namespace Fieldbus

open Decimal (Binary64)

namespace Thermostat

variable {t after : Thermostat} {p : Packet} {u : Tracked Thermostat} {e : FrameError}

theorem eq_of_fields {a b : Thermostat} (hchannel : a.channel = b.channel) (hunit : a.unit = b.unit)
    (hmode : a.mode = b.mode) (htimer : a.timer = b.timer) (hget : ∀ which, a.get which = b.get which)
    (hcurrent : a.current = b.current) : a = b := by
  cases a
  cases b
  have hnormal := hget .normal
  have hday := hget .day
  have hnight := hget .night
  have haway := hget .away
  simp only [get] at *
  subst hchannel hunit hmode htimer hnormal hday hnight haway hcurrent
  rfl

/-! ## One setpoint -/

/-- What decides which setpoint is followed, and what no setpoint touches. -/
structure SameSettings (a b : Thermostat) : Prop where
  channel : a.channel = b.channel
  unit : a.unit = b.unit
  mode : a.mode = b.mode
  timer : a.timer = b.timer

theorem SameSettings.trans {a b c : Thermostat} (h : SameSettings a b) (h' : SameSettings b c) :
    SameSettings a c :=
  ⟨h.channel.trans h'.channel, h.unit.trans h'.unit, h.mode.trans h'.mode, h.timer.trans h'.timer⟩

theorem SameSettings.active? {a b : Thermostat} (h : SameSettings a b) : a.active? = b.active? := by
  rw [Thermostat.active?, Thermostat.active?, h.mode, h.timer]

section Setpoint

variable {which other : Setpoint} {value : Binary64}

theorem sameSettings_putSetpoint (which : Setpoint) (value : Binary64) (t : Thermostat) :
    SameSettings (t.putSetpoint which value).state t := by
  cases which <;> exact ⟨rfl, rfl, rfl, rfl⟩

theorem get_putSetpoint (which : Setpoint) (value : Binary64) (t : Thermostat) (other : Setpoint) :
    (t.putSetpoint which value).state.get other
      = if other = which then (Tracked.put (t.get which) value).state else t.get other := by
  cases which <;> cases other <;> rfl

theorem current_putSetpoint (which : Setpoint) (value : Binary64) (t : Thermostat) :
    (t.putSetpoint which value).state.current = t.current := by
  cases which <;> rfl

theorem setSetpoint_of_active (h : t.active? = some which) :
    t.setSetpoint which value = (t.putSetpoint which value).andThen (putCurrent value) := by
  have hactive : (t.putSetpoint which value).state.active? = some which :=
    (sameSettings_putSetpoint which value t).active?.trans h
  simp only [setSetpoint, Tracked.andThen, hactive, if_true]

theorem setSetpoint_of_inactive (h : t.active? ≠ some which) :
    t.setSetpoint which value = t.putSetpoint which value := by
  have hactive : (t.putSetpoint which value).state.active? ≠ some which :=
    (sameSettings_putSetpoint which value t).active? ▸ h
  simp only [setSetpoint, Tracked.andThen, hactive, if_false, Tracked.start, Bool.or_false]

theorem sameSettings_setSetpoint (which : Setpoint) (value : Binary64) (t : Thermostat) :
    SameSettings (t.setSetpoint which value).state t := by
  by_cases h : t.active? = some which
  · rw [setSetpoint_of_active h]
    have hcurrent : SameSettings ((t.putSetpoint which value).andThen (putCurrent value)).state
        (t.putSetpoint which value).state := ⟨rfl, rfl, rfl, rfl⟩
    exact hcurrent.trans (sameSettings_putSetpoint which value t)
  · rw [setSetpoint_of_inactive h]
    exact sameSettings_putSetpoint which value t

@[simp] theorem active?_setSetpoint (which : Setpoint) (value : Binary64) (t : Thermostat) :
    (t.setSetpoint which value).state.active? = t.active? :=
  (sameSettings_setSetpoint which value t).active?

theorem get_setSetpoint (which : Setpoint) (value : Binary64) (t : Thermostat) (other : Setpoint) :
    (t.setSetpoint which value).state.get other
      = if other = which then (Tracked.put (t.get which) value).state else t.get other := by
  rw [← get_putSetpoint]
  by_cases h : t.active? = some which
  · rw [setSetpoint_of_active h]
    cases other <;> rfl
  · rw [setSetpoint_of_inactive h]

theorem current_setSetpoint (which : Setpoint) (value : Binary64) (t : Thermostat) :
    (t.setSetpoint which value).state.current
      = if t.active? = some which then (Tracked.put t.current value).state else t.current := by
  split
  · rename_i h
    rw [setSetpoint_of_active h, ← current_putSetpoint which value t]
    rfl
  · rename_i h
    rw [setSetpoint_of_inactive h, current_putSetpoint]

theorem changed_setSetpoint (which : Setpoint) (value : Binary64) (t : Thermostat) :
    (t.setSetpoint which value).changed = true ↔
      (Tracked.put (t.get which) value).changed = true ∨
      (t.active? = some which ∧ (Tracked.put t.current value).changed = true) := by
  by_cases h : t.active? = some which
  · rw [setSetpoint_of_active h, ← current_putSetpoint which value t]
    simp only [h, true_and]
    exact Bool.or_eq_true_iff
  · rw [setSetpoint_of_inactive h]
    simp only [h, false_and, or_false]
    rfl

end Setpoint

/-! ## All setpoints -/

/-- Stores the four setpoints one after the other. -/
def storeSetpoints (temperature : Setpoint → Binary64) (t : Thermostat) : Tracked Thermostat :=
  (t.setSetpoint .normal (temperature .normal)).andThen (setSetpoint .day (temperature .day))
    |>.andThen (setSetpoint .night (temperature .night))
    |>.andThen (setSetpoint .away (temperature .away))

section Setpoints

variable (temperature : Setpoint → Binary64) (t : Thermostat)

theorem sameSettings_storeSetpoints : SameSettings (t.storeSetpoints temperature).state t :=
  (sameSettings_setSetpoint ..).trans ((sameSettings_setSetpoint ..).trans
    ((sameSettings_setSetpoint ..).trans (sameSettings_setSetpoint ..)))

theorem get_storeSetpoints (which : Setpoint) :
    (t.storeSetpoints temperature).state.get which
      = (Tracked.put (t.get which) (temperature which)).state := by
  cases which <;> simp [storeSetpoints, Tracked.andThen, get_setSetpoint]

theorem current_storeSetpoints_of_active {which : Setpoint} (h : t.active? = some which) :
    (t.storeSetpoints temperature).state.current
      = (Tracked.put t.current (temperature which)).state := by
  simp only [storeSetpoints, Tracked.andThen, current_setSetpoint, active?_setSetpoint, h]
  cases which <;> simp

theorem current_storeSetpoints_of_none (h : t.active? = none) :
    (t.storeSetpoints temperature).state.current = t.current := by
  simp [storeSetpoints, Tracked.andThen, current_setSetpoint, h]

theorem Setpoint.exists_iff {P : Setpoint → Prop} :
    (∃ which, P which) ↔ P .normal ∨ P .day ∨ P .night ∨ P .away := by
  constructor
  · rintro ⟨which, h⟩
    cases which <;> simp [h]
  · rintro (h | h | h | h)
    · exact ⟨_, h⟩
    · exact ⟨_, h⟩
    · exact ⟨_, h⟩
    · exact ⟨_, h⟩

theorem changed_storeSetpoints :
    (t.storeSetpoints temperature).changed = true ↔
      (∃ which, (Tracked.put (t.get which) (temperature which)).changed = true) ∨
      ∃ which, t.active? = some which ∧
        (Tracked.put t.current (temperature which)).changed = true := by
  simp only [storeSetpoints, Tracked.andThen, Bool.or_eq_true, changed_setSetpoint,
    get_setSetpoint, current_setSetpoint, active?_setSetpoint, Setpoint.exists_iff, reduceCtorEq,
    if_false]
  cases t.active? with
  | none => simp [or_assoc]
  | some followed =>
      cases followed <;> simp [or_assoc, or_comm, or_left_comm]

/-- Storing setpoints is exact, as long as the temperatures are numbers. -/
theorem storeSetpoints_exact
    (hnumber : ∀ which, (temperature which == temperature which) = true) :
    (t.storeSetpoints temperature).Exact t := by
  refine (changed_storeSetpoints temperature t).trans ?_
  constructor
  · rintro (⟨which, h⟩ | ⟨which, hactive, h⟩) he
    · apply (Tracked.changed_put (hnumber which)).mp h
      rw [← get_storeSetpoints, he]
    · apply (Tracked.changed_put (hnumber which)).mp h
      rw [← current_storeSetpoints_of_active temperature t hactive, he]
  · intro h
    refine Classical.byContradiction fun hchanged => ?_
    rw [not_or, not_exists, not_exists] at hchanged
    obtain ⟨hslots, hcurrent⟩ := hchanged
    have hsame := sameSettings_storeSetpoints temperature t
    refine h (eq_of_fields hsame.channel hsame.unit hsame.mode hsame.timer (fun which => ?_) ?_)
    · rw [get_storeSetpoints]
      exact Classical.not_not.mp (mt (Tracked.changed_put (hnumber which)).mpr (hslots which))
    · cases hactive : t.active? with
      | none => exact current_storeSetpoints_of_none temperature t hactive
      | some which =>
          rw [current_storeSetpoints_of_active temperature t hactive]
          have hput := hcurrent which
          rw [not_and] at hput
          exact Classical.not_not.mp (mt (Tracked.changed_put (hnumber which)).mpr (hput hactive))

end Setpoints

/-! ## Settings -/

/-- Stores what a frame tells besides its setpoints. Without a mode the mode is kept. -/
def storeSettings (unit : TemperatureUnit) (mode : Option Mode) (timer : TimerSlot)
    (t : Thermostat) : Tracked Thermostat :=
  (t.setUnit unit).andThen (mode.elim Tracked.start setMode) |>.andThen (setTimer timer)

section Settings

variable (unit : TemperatureUnit) (mode : Option Mode) (timer : TimerSlot) (t : Thermostat)

theorem state_storeSettings :
    (t.storeSettings unit mode timer).state
      = { t with unit := some unit, mode := mode.or t.mode, timer := some timer } := by
  cases mode <;>
    simp [storeSettings, setUnit, setMode, setTimer, Tracked.andThen, Tracked.map,
      Tracked.put_of_lawful, Tracked.start]

theorem get_storeSettings (which : Setpoint) :
    (t.storeSettings unit mode timer).state.get which = t.get which := by
  rw [state_storeSettings]
  cases which <;> rfl

theorem storeSettings_exact : (t.storeSettings unit mode timer).Exact t := by
  have hchanged : (t.storeSettings unit mode timer).changed = true ↔
      t.unit ≠ some unit ∨ t.mode ≠ mode.or t.mode ∨ t.timer ≠ some timer := by
    cases mode <;>
      simp [storeSettings, setUnit, setMode, setTimer, Tracked.andThen, Tracked.map,
        Tracked.put_of_lawful, Tracked.start, or_assoc]
  refine hchanged.trans ?_
  rw [state_storeSettings]
  cases t
  simp only [ne_eq, Thermostat.mk.injEq, true_and, and_true]
  grind

end Settings

/-! ## Whole frames -/

/-- The places of the setpoints in a status frame. -/
def Setpoint.offset : Setpoint → Nat
  | normal => 4
  | day => 5
  | night => 6
  | away => 7

/-- What a status frame tells. -/
structure Report where
  unit : TemperatureUnit
  mode : Option Mode
  timer : TimerSlot
  temperature : Setpoint → UInt8

/-- That a payload tells it. -/
structure Report.In (report : Report) (data : List UInt8) : Prop where
  unit : data[2]?.map TemperatureUnit.ofByte = some report.unit
  mode : data[3]?.map (fun byte => (Mode.ofByte byte).toOption) = some report.mode
  timer : data[8]?.map TimerSlot.ofByte = some report.timer
  temperature : ∀ which, data[which.offset]? = some (report.temperature which)

/-- What a payload that is long enough tells. -/
def Report.ofPayload (data : List UInt8) : Report where
  unit := .ofByte (data.getD 2 0)
  mode := (Mode.ofByte (data.getD 3 0)).toOption
  timer := .ofByte (data.getD 8 0)
  temperature which := data.getD which.offset 0

theorem Report.in_iff {report : Report} {data : List UInt8} (h : 9 ≤ data.length) :
    report.In data ↔ ofPayload data = report := by
  have hget : ∀ i < 9, data[i]? = some (data.getD i 0) := by
    intro i hi
    rw [List.getElem?_eq_getElem (by omega), List.getD_eq_getElem]
  constructor
  · rintro ⟨hunit, hmode, htimer, htemperature⟩
    cases report
    rw [hget _ (by omega), Option.map_some, Option.some.injEq] at hunit hmode htimer
    simp only [ofPayload, Report.mk.injEq]
    refine ⟨hunit, hmode, htimer, funext fun which => ?_⟩
    have hoffset : which.offset < 9 := by cases which <;> decide
    exact Option.some.inj ((hget _ hoffset).symm.trans (htemperature which))
  · rintro rfl
    refine ⟨?_, ?_, ?_, fun which => ?_⟩
    · rw [hget 2 (by omega)]
      rfl
    · rw [hget 3 (by omega)]
      rfl
    · rw [hget 8 (by omega)]
      rfl
    · cases which <;> exact hget _ (by decide)

/-- Takes a report in: the settings, then the setpoints. -/
def take (report : Report) (t : Thermostat) : Tracked Thermostat :=
  (t.storeSettings report.unit report.mode report.timer).andThen
    (storeSetpoints fun which => .ofByte (report.temperature which))

theorem take_exact (report : Report) (t : Thermostat) : (t.take report).Exact t := by
  refine (storeSettings_exact ..).andThen (storeSetpoints_exact _ _ fun _ =>
    Binary64.ofByte_beq_self _) fun h => ?_
  have hsame := sameSettings_storeSetpoints (fun which => .ofByte (report.temperature which))
    (t.storeSettings report.unit report.mode report.timer).state
  rw [h] at hsame
  refine eq_of_fields hsame.channel.symm hsame.unit.symm hsame.mode.symm hsame.timer.symm
    (get_storeSettings _ _ _ t) ?_
  rw [state_storeSettings]

/-- What a report makes of a thermostat. The setpoint that is followed is the one that the new mode
and the new slot select. -/
structure Taken (report : Report) (t after : Thermostat) : Prop where
  channel : after.channel = t.channel
  unit : after.unit = some report.unit
  mode : after.mode = report.mode.or t.mode
  timer : after.timer = some report.timer
  get : ∀ which, after.get which
    = (Tracked.put (t.get which) (.ofByte (report.temperature which))).state
  followed : ∀ which, after.active? = some which →
    after.current = (Tracked.put t.current (.ofByte (report.temperature which))).state
  unfollowed : after.active? = none → after.current = t.current

theorem taken_take (report : Report) (t : Thermostat) : Taken report t (t.take report).state := by
  have htake : (t.take report).state
      = (storeSetpoints (fun which => .ofByte (report.temperature which))
          (t.storeSettings report.unit report.mode report.timer).state).state := rfl
  rw [htake, state_storeSettings]
  have hsame := sameSettings_storeSetpoints (fun which => .ofByte (report.temperature which))
    { t with unit := some report.unit, mode := report.mode.or t.mode, timer := some report.timer }
  refine ⟨hsame.channel, hsame.unit, hsame.mode, hsame.timer, fun which => ?_,
    fun which hactive => ?_, fun hactive => ?_⟩
  · rw [get_storeSetpoints]
    cases which <;> rfl
  · rw [current_storeSetpoints_of_active _ _ (hsame.active?.symm.trans hactive)]
  · rw [current_storeSetpoints_of_none _ _ (hsame.active?.symm.trans hactive)]

theorem taken_iff {report : Report} : Taken report t after ↔ (t.take report).state = after := by
  constructor
  · intro h
    have htake := taken_take report t
    have hactive : (t.take report).state.active? = after.active? := by
      rw [active?, active?, htake.mode, htake.timer, h.mode, h.timer]
    refine eq_of_fields (htake.channel.trans h.channel.symm) (htake.unit.trans h.unit.symm)
      (htake.mode.trans h.mode.symm) (htake.timer.trans h.timer.symm)
      (fun which => (htake.get which).trans (h.get which).symm) ?_
    cases hwhich : after.active? with
    | none =>
        exact (htake.unfollowed (hactive.trans hwhich)).trans (h.unfollowed hwhich).symm
    | some which =>
        exact (htake.followed which (hactive.trans hwhich)).trans (h.followed which hwhich).symm
  · rintro rfl
    exact taken_take report t

/-- A report has nothing more to make of a thermostat that took it in, whatever temperatures it held
before: what is stored of a byte equals the number of the byte. -/
theorem Taken.again {report : Report} (h : Taken report t after) : Taken report after after := by
  have hput : ∀ slot byte, (Tracked.put (Tracked.put slot (.ofByte byte)).state
      (.ofByte byte)).state = (Tracked.put slot (Binary64.ofByte byte)).state := by
    intro slot byte
    rw [Tracked.put_put (Binary64.ofByte_beq_self byte)]
    rfl
  refine ⟨rfl, h.unit, ?_, h.timer, fun which => ?_, fun which hactive => ?_, fun _ => rfl⟩
  · rw [h.mode, ← Option.or_assoc, Option.or_self]
  · rw [h.get, hput]
  · rw [h.followed which hactive, hput]

theorem decodeStatus_of_short (h : p.data.length < 9) :
    t.decodeStatus p = .error (.shortPayload p.command 9 p.data.length) := by
  simp [decodeStatus, Packet.payload_of_lt h, bind, Except.bind]

theorem decodeStatus_of_le (h : 9 ≤ p.data.length) :
    t.decodeStatus p = .ok (t.take (.ofPayload p.data)) := by
  have hget : ∀ i (hi : i < 9), p.data.getD i 0 = p.data[i] :=
    fun i hi => List.getD_eq_getElem p.data 0 (by omega)
  have hstore : ∀ temperature, storeSetpoints temperature = fun s =>
      (s.setSetpoint .normal (temperature .normal)).andThen fun s =>
        (s.setSetpoint .day (temperature .day)).andThen fun s =>
          (s.setSetpoint .night (temperature .night)).andThen
            (setSetpoint .away (temperature .away)) := by
    intro temperature
    funext s
    simp only [storeSetpoints, Tracked.andThen_assoc]
  simp only [decodeStatus, Packet.payload_of_le h, bind, Except.bind, pure, Except.pure,
    Except.ok.injEq, take, storeSettings, hstore, Tracked.andThen_assoc, Report.ofPayload,
    Setpoint.offset, hget, Nat.reduceLT]
  cases Mode.ofByte p.data[3] <;> rfl

theorem decodeStatus_eq_ok_iff :
    t.decodeStatus p = .ok u ↔
      9 ≤ p.data.length ∧ ∃ report : Report, report.In p.data ∧ t.take report = u := by
  by_cases h : 9 ≤ p.data.length
  · rw [decodeStatus_of_le h, Except.ok.injEq, and_iff_right h]
    simp only [Report.in_iff h, exists_eq_left']
  · rw [decodeStatus_of_short (by omega)]
    simp [h]

theorem decode_of_empty (h : p.data = []) :
    t.decode p = .error (.malformed (.shortPayload p.command 1 0)) := by
  have hpayload : p.payload 1 = .error (.shortPayload p.command 1 0) := by
    rw [Packet.payload_of_lt (by simp [h]), h]
    rfl
  simp [decode, hpayload, mapError_error, bind, Except.bind]

/-- The channel is looked at first, and a frame of another one goes no further. -/
theorem decode_of_cons {byte : UInt8} {rest : List UInt8} (h : p.data = byte :: rest) :
    t.decode p =
      if byte = t.channel then
        match p.command with
        | .floorHeatingStatus => (t.decodeStatus p).mapError .malformed
        | command => .error (.unhandledCommand command)
      else .error (.channelMismatch t.channel byte) := by
  have hle : 1 ≤ p.data.length := by simp [h]
  have hzero : p.data[0] = byte := by simp [h]
  have hpayload : (p.payload 1).mapError Refusal.malformed = .ok ⟨p.data, hle⟩ := by
    rw [Packet.payload_of_le hle]
    rfl
  simp only [decode, hpayload, bind, Except.bind, hzero, ne_eq, ite_not]
  split <;> rfl

theorem decode_eq_ok_iff :
    t.decode p = .ok u ↔
      p.data[0]? = some t.channel ∧ p.command = .floorHeatingStatus ∧ t.decodeStatus p = .ok u := by
  cases hdata : p.data with
  | nil =>
      rw [decode_of_empty hdata]
      simp
  | cons byte rest =>
      rw [decode_of_cons hdata, List.getElem?_cons_zero, Option.some.injEq]
      by_cases hbyte : byte = t.channel
      · cases hcommand : p.command <;> simp [hbyte, mapError_eq_ok]
      · simp [hbyte]

theorem decode_malformed_iff :
    t.decode p = .error (.malformed e) ↔
      (p.data = [] ∧ .shortPayload p.command 1 0 = e) ∨
      (p.data[0]? = some t.channel ∧ p.command = .floorHeatingStatus ∧
        t.decodeStatus p = .error e) := by
  cases hdata : p.data with
  | nil =>
      rw [decode_of_empty hdata]
      simp
  | cons byte rest =>
      rw [decode_of_cons hdata, List.getElem?_cons_zero, Option.some.injEq]
      by_cases hbyte : byte = t.channel
      · cases hcommand : p.command <;> simp [hbyte, mapError_eq_error]
      · simp [hbyte]

theorem decode_mismatch_iff {expected actual : UInt8} :
    t.decode p = .error (.channelMismatch expected actual) ↔
      expected = t.channel ∧ p.data[0]? = some actual ∧ actual ≠ t.channel := by
  cases hdata : p.data with
  | nil =>
      rw [decode_of_empty hdata]
      simp
  | cons byte rest =>
      rw [decode_of_cons hdata, List.getElem?_cons_zero, Option.some.injEq]
      by_cases hbyte : byte = t.channel
      · refine iff_of_false ?_ fun ⟨_, hactual, hne⟩ => hne (hactual.symm.trans hbyte)
        cases hcommand : p.command <;> simp [hbyte, mapError_eq_error]
      · rw [if_neg hbyte]
        grind

theorem decode_exact (h : t.decode p = .ok u) : u.Exact t := by
  obtain ⟨_, _, h⟩ := decode_eq_ok_iff.mp h
  obtain ⟨_, report, _, rfl⟩ := decodeStatus_eq_ok_iff.mp h
  exact take_exact report t

/-- What a frame makes of a thermostat. -/
inductive Applies (p : Packet) (t after : Thermostat) : Prop
  | status (report : Report) : p.data[0]? = some t.channel → p.command = .floorHeatingStatus →
      9 ≤ p.data.length → report.In p.data → Taken report t after → Applies p t after

theorem applies_iff : t.Applies p after ↔ ∃ u, t.decode p = .ok u ∧ u.state = after := by
  constructor
  · rintro ⟨report, hzero, hc, hle, hin, htaken⟩
    exact ⟨t.take report,
      decode_eq_ok_iff.mpr ⟨hzero, hc, decodeStatus_eq_ok_iff.mpr ⟨hle, report, hin, rfl⟩⟩,
      taken_iff.mp htaken⟩
  · rintro ⟨u, hu, rfl⟩
    obtain ⟨hzero, hc, h⟩ := decode_eq_ok_iff.mp hu
    obtain ⟨hle, report, hin, rfl⟩ := decodeStatus_eq_ok_iff.mp h
    exact .status report hzero hc hle hin (taken_take report t)

/-- A frame has nothing more to make of a thermostat that it was applied to. -/
theorem Applies.again (h : t.Applies p after) : after.Applies p after := by
  obtain ⟨report, hzero, hc, hle, hin, htaken⟩ := h
  exact .status report (htaken.channel ▸ hzero) hc hle hin htaken.again

theorem Applies.channel_eq (h : t.Applies p after) : after.channel = t.channel := by
  obtain ⟨_, _, _, _, _, htaken⟩ := h
  exact htaken.channel

/-- What is wrong with a frame that a thermostat would take otherwise. Without a first byte the
channel cannot be told, so every empty frame is wrong. -/
inductive Faulty (p : Packet) (t : Thermostat) : FrameError → Prop
  | empty : p.data = [] → Faulty p t (.shortPayload p.command 1 0)
  | status : p.data[0]? = some t.channel → p.command = .floorHeatingStatus → p.data.length < 9 →
      Faulty p t (.shortPayload p.command 9 p.data.length)

theorem faulty_iff : t.Faulty p e ↔ t.decode p = .error (.malformed e) := by
  rw [decode_malformed_iff]
  constructor
  · rintro (hnil | ⟨hzero, hc, hlt⟩)
    · exact .inl ⟨hnil, rfl⟩
    · exact .inr ⟨hzero, hc, decodeStatus_of_short hlt⟩
  · rintro (⟨hnil, rfl⟩ | ⟨hzero, hc, h⟩)
    · exact .empty hnil
    · rcases Nat.lt_or_ge p.data.length 9 with hlt | hle
      · rw [decodeStatus_of_short hlt] at h
        obtain rfl := Except.error.inj h
        exact .status hzero hc hlt
      · rw [decodeStatus_of_le hle] at h
        cases h

end Thermostat
end Fieldbus
