import Fieldbus.Proofs.Thermostat.Run
import Mathlib.Data.List.Pairwise

/-!
# Thermostats that are set by hand

A status frame is a run of setters in two phases: its settings, then its setpoints. Within a phase no
setter meets another, so their order does not matter. Between the phases it does, because the settings
tell which setpoint goes on to the current temperature, and only a setpoint can.
-/
namespace Fieldbus.Thermostat

open Decimal (Binary64)

variable {t : Thermostat} {p : Packet} {which other : Setpoint} {value : Binary64}
  {status : Status}

/-! ## Runs of setters -/

/-- What can be set on a thermostat. -/
inductive Setter where
  | unit (unit : TemperatureUnit)
  | mode (mode : Mode)
  | timer (timer : TimerSlot)
  | setpoint (which : Setpoint) (value : Binary64)
  deriving DecidableEq, Repr

def set (t : Thermostat) : Setter → Tracked Thermostat
  | .unit unit => t.setUnit unit
  | .mode mode => t.setMode mode
  | .timer timer => t.setTimer timer
  | .setpoint which value => t.setSetpoint which value

/-- Sets one after the other, and tells whether one of them changed anything. -/
def setAll (t : Thermostat) (setters : List Setter) : Tracked Thermostat :=
  setters.foldl (fun u setter => u.andThen (·.set setter)) (.start t)

theorem foldl_set (u : Tracked Thermostat) (setters : List Setter) :
    setters.foldl (fun u setter => u.andThen (·.set setter)) u = u.andThen (·.setAll setters) := by
  induction setters generalizing u with
  | nil => exact u.andThen_start.symm
  | cons setter setters ih =>
      have hcons : ∀ s : Thermostat, s.setAll (setter :: setters)
          = (s.set setter).andThen (·.setAll setters) := by
        intro s
        rw [setAll, List.foldl_cons, Tracked.start_andThen, ih]
      simp only [List.foldl_cons, ih, hcons, Tracked.andThen_assoc]

theorem setAll_append (t : Thermostat) (setters later : List Setter) :
    t.setAll (setters ++ later) = (t.setAll setters).andThen (·.setAll later) := by
  rw [setAll, List.foldl_append, foldl_set]
  rfl

theorem state_setAll_append (t : Thermostat) (setters later : List Setter) :
    (t.setAll (setters ++ later)).state = ((t.setAll setters).state.setAll later).state := by
  rw [setAll_append]
  rfl

theorem setAll_cons (t : Thermostat) (setter : Setter) (setters : List Setter) :
    t.setAll (setter :: setters) = (t.set setter).andThen (·.setAll setters) := by
  rw [setAll, List.foldl_cons, Tracked.start_andThen, foldl_set]

/-! ## Setters that do not meet -/

theorem setSetpoint_setSetpoint_comm (hne : which ≠ other) (t : Thermostat)
    (first second : Binary64) :
    ((t.setSetpoint which first).state.setSetpoint other second).state
      = ((t.setSetpoint other second).state.setSetpoint which first).state := by
  have hforth := (sameSettings_setSetpoint other second (t.setSetpoint which first).state).trans
    (sameSettings_setSetpoint which first t)
  have hback := (sameSettings_setSetpoint which first (t.setSetpoint other second).state).trans
    (sameSettings_setSetpoint other second t)
  refine eq_of_fields (hforth.channel.trans hback.channel.symm)
    (hforth.unit.trans hback.unit.symm) (hforth.mode.trans hback.mode.symm)
    (hforth.timer.trans hback.timer.symm) (fun place => ?_) ?_
  · simp only [get_setSetpoint, if_neg hne, if_neg hne.symm]
    by_cases hplace : place = other
    · rw [if_pos hplace, if_neg (hplace ▸ hne.symm), if_pos hplace]
    · rw [if_neg hplace, if_neg hplace]
  · -- at most one of the two is followed, so they do not meet at the current temperature
    simp only [current_setSetpoint, active?_setSetpoint]
    by_cases h : t.active? = some which
    · have hother : t.active? ≠ some other := fun h' => hne (Option.some.inj (h.symm.trans h'))
      rw [if_neg hother, if_neg hother]
    · rw [if_neg h, if_neg h]

theorem changed_setSetpoint_setSetpoint (hne : which ≠ other) (t : Thermostat)
    (first second : Binary64) :
    ((t.setSetpoint which first).state.setSetpoint other second).changed
      = (t.setSetpoint other second).changed := by
  rw [Bool.eq_iff_iff, changed_setSetpoint, changed_setSetpoint, get_setSetpoint,
    if_neg hne.symm, active?_setSetpoint]
  refine or_congr_right (and_congr_right fun h => ?_)
  have hwhich : t.active? ≠ some which := fun h' => hne (Option.some.inj (h'.symm.trans h))
  rw [current_setSetpoint, if_neg hwhich]

/-- Two setters do the same to a thermostat in either order. -/
def Setter.Commutes (a b : Setter) : Prop :=
  ∀ t : Thermostat, (t.set a).andThen (·.set b) = (t.set b).andThen (·.set a)

namespace Setter.Commutes

theorem refl (a : Setter) : a.Commutes a :=
  fun _ => rfl

instance : Std.Symm Setter.Commutes where
  symm _ _ h t := (h t).symm

theorem unit_mode (unit : TemperatureUnit) (mode : Mode) :
    Commutes (.unit unit) (.mode mode) :=
  fun _ => Tracked.eq_of_parts rfl (Bool.or_comm _ _)

theorem unit_timer (unit : TemperatureUnit) (timer : TimerSlot) :
    Commutes (.unit unit) (.timer timer) :=
  fun _ => Tracked.eq_of_parts rfl (Bool.or_comm _ _)

theorem mode_timer (mode : Mode) (timer : TimerSlot) :
    Commutes (.mode mode) (.timer timer) :=
  fun _ => Tracked.eq_of_parts rfl (Bool.or_comm _ _)

theorem setpoints (hne : which ≠ other) (first second : Binary64) :
    Commutes (.setpoint which first) (.setpoint other second) := by
  intro t
  refine Tracked.eq_of_parts (setSetpoint_setSetpoint_comm hne t first second) ?_
  simp only [Tracked.andThen, set, changed_setSetpoint_setSetpoint hne,
    changed_setSetpoint_setSetpoint hne.symm]
  exact Bool.or_comm _ _

end Setter.Commutes

theorem setAll_perm {setters reordered : List Setter}
    (hcommute : setters.Pairwise Setter.Commutes) (h : reordered.Perm setters) (t : Thermostat) :
    t.setAll reordered = t.setAll setters := by
  have hall : ∀ a ∈ setters, ∀ b ∈ setters, a.Commutes b := fun a ha b hb =>
    hcommute.forall_of_forall (fun a _ => Setter.Commutes.refl a) ha hb
  refine (h.symm.foldl_eq' (fun a ha b hb u => ?_) _).symm
  rw [Tracked.andThen_assoc, Tracked.andThen_assoc]
  exact congrArg u.andThen (funext (hall a ha b hb))

/-! ## Status frames as setters -/

/-- The mode is set only if its byte is the number of one. -/
def Status.settings (status : Status) : List Setter :=
  .unit (.ofByte status.unit) :: ((Mode.ofByte status.mode).toOption.map Setter.mode).toList
    ++ [.timer (.ofByte status.slot)]

def Status.setpoints (status : Status) : List Setter :=
  [.setpoint .normal (.ofByte status.normal), .setpoint .day (.ofByte status.day),
    .setpoint .night (.ofByte status.night), .setpoint .away (.ofByte status.away)]

theorem Mode.ofByte_eq_some_iff {byte : UInt8} {mode : Mode} :
    (Mode.ofByte byte).toOption = some mode ↔ mode.toByte = byte := by
  constructor
  · intro h
    have hbyte := toByte_ofByte byte
    rw [h, Option.map_some, eq_comm, Option.filter_eq_some_iff] at hbyte
    exact (Option.some.inj hbyte.1).symm
  · rintro rfl
    cases mode <;> rfl

theorem Status.mode_mem_settings {mode : Mode} :
    .mode mode ∈ status.settings ↔ mode.toByte = status.mode := by
  rw [← Mode.ofByte_eq_some_iff]
  simp [settings]

theorem Status.pairwise_settings (status : Status) :
    status.settings.Pairwise Setter.Commutes := by
  unfold settings
  cases (Mode.ofByte status.mode).toOption with
  | none => simp [Setter.Commutes.unit_timer]
  | some mode =>
      simp [Setter.Commutes.unit_mode, Setter.Commutes.unit_timer, Setter.Commutes.mode_timer]

theorem Status.pairwise_setpoints (status : Status) :
    status.setpoints.Pairwise Setter.Commutes := by
  simp [setpoints, Setter.Commutes.setpoints]

theorem setAll_settings (status : Status) (t : Thermostat) :
    t.setAll status.settings = t.storeSettings (.ofByte status.unit)
      (Mode.ofByte status.mode).toOption (.ofByte status.slot) := by
  unfold Status.settings storeSettings
  cases (Mode.ofByte status.mode).toOption <;> simp [setAll, set]

theorem setAll_setpoints (status : Status) (t : Thermostat) :
    t.setAll status.setpoints
      = t.storeSetpoints fun which => .ofByte (status.temperature which) := by
  simp only [Status.setpoints, setAll, List.foldl_cons, List.foldl_nil, Tracked.start_andThen]
  rfl

theorem take_eq_setAll (h : Status.ofPayload? p.data = some status) (t : Thermostat) :
    t.take (.ofPayload p.data) = t.setAll (status.settings ++ status.setpoints) := by
  rw [report_of_status h, take, setAll_append, setAll_settings]
  exact congrArg _ (funext fun s => (setAll_setpoints status s).symm)

theorem storeSettings_storeSetpoints (unit : TemperatureUnit) (mode : Option Mode)
    (timer : TimerSlot) (temperature : Setpoint → Binary64) (t : Thermostat) :
    ((t.storeSetpoints temperature).state.storeSettings unit mode timer).state
      = { ((t.storeSettings unit mode timer).state.storeSetpoints temperature).state with
          current := (t.storeSetpoints temperature).state.current } := by
  have hbefore := sameSettings_storeSetpoints temperature t
  have hafter := sameSettings_storeSetpoints temperature (t.storeSettings unit mode timer).state
  have hget : ∀ which, (t.storeSetpoints temperature).state.get which
      = ((t.storeSettings unit mode timer).state.storeSetpoints temperature).state.get which := by
    intro which
    rw [get_storeSetpoints, get_storeSetpoints, get_storeSettings]
  simp only [state_storeSettings] at hafter hget ⊢
  refine eq_of_fields (hbefore.channel.trans hafter.channel.symm) hafter.unit.symm
    ((congrArg mode.or hbefore.mode).trans hafter.mode.symm) hafter.timer.symm
    (fun which => ?_) rfl
  have hwhich := hget which
  cases which <;> exact hwhich

/-- With its phases exchanged a frame leaves the current temperature to the settings of before. All
else is the same. -/
theorem state_setAll_exchanged (status : Status) (t : Thermostat) :
    (t.setAll (status.setpoints ++ status.settings)).state
      = { (t.setAll (status.settings ++ status.setpoints)).state with
          current := (t.setAll status.setpoints).state.current } := by
  simp only [state_setAll_append, setAll_settings, setAll_setpoints]
  exact storeSettings_storeSetpoints ..

example :
    ((unknown 1).setAll [.mode .normal, .setpoint .normal (.ofByte 22)]).state.current
      = some (.ofByte 22) ∧
    ((unknown 1).setAll [.setpoint .normal (.ofByte 22), .mode .normal]).state.current = none := by
  decide

/-! ## The current temperature -/

/-- The setpoint that a mode follows. With the clock as the mode, its slot decides. -/
inductive Setpoint.ActiveIn (t : Thermostat) : Setpoint → Prop
  | normal : t.mode = some .normal → ActiveIn t .normal
  | day : t.mode = some .day → ActiveIn t .day
  | dayOfClock : t.mode = some .timer → t.timer = some .day → ActiveIn t .day
  | night : t.mode = some .night → ActiveIn t .night
  | nightOfClock : t.mode = some .timer → t.timer = some .night → ActiveIn t .night
  | away : t.mode = some .away → ActiveIn t .away

theorem Setpoint.activeIn_iff : which.ActiveIn t ↔ t.active? = some which := by
  constructor
  · intro h
    cases h <;> simp [active?, selected?, *]
  · intro h
    unfold active? at h
    cases hmode : t.mode with
    | none =>
        rw [hmode] at h
        cases h
    | some mode =>
        rw [hmode] at h
        cases mode with
        | normal =>
            cases h
            exact .normal hmode
        | day =>
            cases h
            exact .day hmode
        | night =>
            cases h
            exact .night hmode
        | away =>
            cases h
            exact .away hmode
        | timer =>
            cases htimer : t.timer with
            | none =>
                rw [htimer] at h
                cases h
            | some slot =>
                rw [htimer] at h
                cases slot with
                | day =>
                    cases h
                    exact .dayOfClock hmode htimer
                | night =>
                    cases h
                    exact .nightOfClock hmode htimer

/-- A setter goes on to the current temperature. -/
def Setter.Refreshes (setter : Setter) (t : Thermostat) : Prop :=
  ∃ which value, setter = .setpoint which value ∧ which.ActiveIn t

/-- No setter of a run goes on to the current temperature when its turn has come. -/
inductive Quiet : Thermostat → List Setter → Prop
  | nil (t : Thermostat) : Quiet t []
  | cons {t : Thermostat} {setter : Setter} {setters : List Setter} :
      ¬ setter.Refreshes t → Quiet (t.set setter).state setters → Quiet t (setter :: setters)

theorem current_set_of_not_refreshes {setter : Setter} (h : ¬ setter.Refreshes t) :
    (t.set setter).state.current = t.current := by
  cases setter with
  | unit unit => rfl
  | mode mode => rfl
  | timer timer => rfl
  | setpoint which value =>
      have hactive : t.active? ≠ some which :=
        fun hactive => h ⟨which, value, rfl, Setpoint.activeIn_iff.mpr hactive⟩
      exact (current_setSetpoint which value t).trans (if_neg hactive)

theorem Quiet.current_eq {setters : List Setter} (h : Quiet t setters) :
    (t.setAll setters).state.current = t.current := by
  induction h with
  | nil t => rfl
  | cons hsetter _ ih =>
      rw [setAll_cons]
      exact ih.trans (current_set_of_not_refreshes hsetter)

/-- What is in a slot after a store is what was stored, or equal to it as a number. -/
theorem put_agrees (slot : Option Binary64) (value : Binary64) :
    ∃ x, (Tracked.put slot value).state = some x ∧ x.Agrees value := by
  unfold Tracked.put
  split
  · rename_i h
    cases slot with
    | none => cases h
    | some x => exact ⟨x, rfl, .inl h⟩
  · exact ⟨value, rfl, value.agrees_self⟩

theorem current_set_of_active (h : which.ActiveIn t) (value : Binary64) :
    ∃ x, (t.set (.setpoint which value)).state.current = some x ∧ x.Agrees value := by
  have hcurrent : (t.set (.setpoint which value)).state.current
      = (Tracked.put t.current value).state :=
    (current_setSetpoint which value t).trans (if_pos (Setpoint.activeIn_iff.mp h))
  rw [hcurrent]
  exact put_agrees t.current value

/-! ## The main statement -/

/-- A frame that a thermostat takes is its settings in any order and then its setpoints in any order.
Setpoints that come before settings miss no more than the current temperature. In a run of setters
this is changed by a setpoint that is followed at that time only, and is what the last of these
gave. -/
theorem decode_as_setters (t : Thermostat) :
    (∀ p, Accepted t.channel p → ∃ status, Status.ofPayload? p.data = some status ∧
      (∀ mode, .mode mode ∈ status.settings ↔ mode.toByte = status.mode) ∧
      ∀ settings setpoints, settings.Perm status.settings → setpoints.Perm status.setpoints →
        t.decode p = .ok (t.setAll (settings ++ setpoints)) ∧
        (t.setAll (setpoints ++ settings)).state
          = { (t.setAll (settings ++ setpoints)).state with
              current := (t.setAll setpoints).state.current }) ∧
    (∀ earlier setter,
      (t.setAll (earlier ++ [setter])).state.current ≠ (t.setAll earlier).state.current →
        setter.Refreshes (t.setAll earlier).state) ∧
    (∀ setters, Quiet t setters → (t.setAll setters).state.current = t.current) ∧
    (∀ earlier which value later, which.ActiveIn (t.setAll earlier).state →
      Quiet (t.setAll (earlier ++ [.setpoint which value])).state later →
        ∃ x, (t.setAll (earlier ++ .setpoint which value :: later)).state.current = some x ∧
          x.Agrees value) := by
  have hstep : ∀ earlier setter, (t.setAll (earlier ++ [setter])).state
      = ((t.setAll earlier).state.set setter).state := by
    intro earlier setter
    rw [state_setAll_append, setAll_cons]
    rfl
  refine ⟨fun p hp => ?_, fun earlier setter hne => ?_, fun _ => Quiet.current_eq,
    fun earlier which value later hactive hquiet => ?_⟩
  · obtain ⟨status, hstatus⟩ := exists_status hp.length
    refine ⟨status, hstatus, fun _ => Status.mode_mem_settings,
      fun settings setpoints hsettings hsetpoints => ?_⟩
    have hfirst := setAll_perm status.pairwise_settings hsettings
    have hsecond := setAll_perm status.pairwise_setpoints hsetpoints
    have hforth : t.setAll (settings ++ setpoints)
        = t.setAll (status.settings ++ status.setpoints) := by
      rw [setAll_append, setAll_append, hfirst, funext hsecond]
    have hback : t.setAll (setpoints ++ settings)
        = t.setAll (status.setpoints ++ status.settings) := by
      rw [setAll_append, setAll_append, hsecond, funext hfirst]
    rw [hforth, hback, hsecond]
    exact ⟨(decode_of_accepted hp).trans (congrArg _ (take_eq_setAll hstatus t)),
      state_setAll_exchanged status t⟩
  · refine Classical.byContradiction fun hrefreshes => hne ?_
    rw [hstep]
    exact current_set_of_not_refreshes hrefreshes
  · have hcurrent : (t.setAll (earlier ++ .setpoint which value :: later)).state.current
        = ((t.setAll earlier).state.set (.setpoint which value)).state.current := by
      rw [List.append_cons, state_setAll_append, ← hstep]
      exact hquiet.current_eq
    rw [hcurrent]
    exact current_set_of_active hactive value

end Fieldbus.Thermostat
