import Fieldbus.Proofs.DimmerBank.Run

/-!
# Level reports and control replies

A level report stores four levels at once and a control reply one. Stores in different channels do
not meet, so the order of control replies does not matter, and four of them do what one report does.
-/
namespace Fieldbus.DimmerBank

variable {bank : DimmerBank} {p q : Packet} {c other : Channel} {level value : Percent}
  {levels : Channel → Percent}

/-! ## Frames that carry given levels -/

/-- A level report with the given levels. Its first byte and further bytes do not matter. -/
structure ReportOf (levels : Channel → Percent) (p : Packet) : Prop where
  command : p.command.isLevelReport = true
  length : 5 ≤ p.data.length
  level : ∀ c, p.data[c.toByte.toNat]? = some (levels c).value

/-- A control reply for one channel. Its second byte and further bytes do not matter. -/
structure ControlOf (c : Channel) (level : Percent) (p : Packet) : Prop where
  command : p.command = .singleChannelControl
  length : 3 ≤ p.data.length
  channel : p.data[0]? = some c.toByte
  level : p.data[2]? = some level.value

theorem exists_controlOf (hc : p.command = .singleChannelControl) (h : Readable p) :
    ∃ c level, ControlOf c level p := by
  rcases h with ⟨hreport, _⟩ | ⟨_, hle, hchannel, hlevel⟩
  · exact absurd hreport (Packet.not_isLevelReport hc)
  · obtain ⟨c, hzero⟩ := any_channel_iff.mp hchannel
    obtain ⟨level, htwo⟩ := any_level_iff.mp hlevel
    exact ⟨c, level, hc, hle, hzero, htwo⟩

section Answer

variable (model : Model) (bank)

theorem ReportOf.answer (h : ReportOf levels p) :
    bank.answer model p
      = ⟨(bank.storeAll levels).state, .ok (bank.storeAll levels).changed, []⟩ := by
  have hdecode : bank.decode p = .ok (bank.storeAll levels) :=
    decode_eq_ok_iff.mpr (.inl ⟨h.command,
      decodeReport_eq_ok_iff.mpr ⟨h.length, levels, h.level, rfl⟩⟩)
  rw [DimmerBank.answer, hdecode]
  rfl

theorem ControlOf.answer (h : ControlOf c level p) :
    bank.answer model p
      = ⟨(bank.store level c).state, .ok (bank.store level c).changed, []⟩ := by
  have hdecode : bank.decode p = .ok (bank.store level c) :=
    decode_eq_ok_iff.mpr (.inr ⟨h.command,
      decodeControl_eq_ok_iff.mpr ⟨h.length, c, level, h.channel, h.level, rfl⟩⟩)
  rw [DimmerBank.answer, hdecode]
  rfl

end Answer

/-! ## Two control replies -/

theorem store_store_comm (bank : DimmerBank) (level value : Percent) (hne : c ≠ other) :
    ((bank.store level c).state.store value other).state
      = ((bank.store value other).state.store level c).state := by
  refine eq_of_get fun place => ?_
  simp only [get_store]
  by_cases hc : place = c
  · subst hc
    rw [if_neg hne, if_pos rfl, if_pos rfl]
  · rw [if_neg hc, if_neg hc]

/-- A store does not tell whether another channel was written before it. -/
theorem changed_store_store (bank : DimmerBank) (level value : Percent) (hne : c ≠ other) :
    ((bank.store level c).state.store value other).changed = (bank.store value other).changed := by
  rw [Bool.eq_iff_iff, changed_store, changed_store, get_store, if_neg hne.symm]

/-! ## Control replies in a row -/

section Controls

variable (model : Model) {control : Channel → Packet}
  (hcontrol : ∀ c, ControlOf c (levels c) (control c))

include hcontrol

theorem get_run_controls (bank : DimmerBank) (order : List Channel) (c : Channel) :
    (bank.run model (order.map control)).get c
      = if c ∈ order then some (levels c) else bank.get c := by
  induction order generalizing bank with
  | nil => rfl
  | cons named order ih =>
      have hstep : bank.run model ((named :: order).map control)
          = ((bank.store (levels named) named).state).run model (order.map control) := by
        rw [List.map_cons, run, Reply.run, List.foldl_cons, (hcontrol named).answer]
        rfl
      rw [hstep, ih, get_store]
      by_cases hc : c = named
      · subst hc
        simp
      · simp [hc]

theorem exists_changed_controls (bank : DimmerBank) {order : List Channel} (hnodup : order.Nodup) :
    (∃ reply ∈ Reply.answers (answer model) bank (order.map control), reply.result = .ok true) ↔
      ∃ c ∈ order, bank.get c ≠ some (levels c) := by
  induction order generalizing bank with
  | nil => simp [Reply.answers]
  | cons named order ih =>
      obtain ⟨hnamed, horder⟩ := List.nodup_cons.mp hnodup
      -- no channel is named twice, so the later replies meet the bank as it was at first
      have hlater : (∃ c ∈ order,
          (bank.store (levels named) named).state.get c ≠ some (levels c)) ↔
            ∃ c ∈ order, bank.get c ≠ some (levels c) := by
        refine exists_congr fun c => and_congr_right fun hc => ?_
        have hne : c ≠ named := fun heq => hnamed (heq ▸ hc)
        rw [get_store, if_neg hne]
      rw [List.map_cons, Reply.answers, (hcontrol named).answer]
      simp only [List.mem_cons, or_and_right, exists_or, exists_eq_left, Except.ok.injEq,
        changed_store, ih _ horder, hlater]

end Controls

/-! ## The main statement -/

/-- A level report leaves the bank that four control replies with its levels leave, whatever the
order of the four and whatever the bank showed before, and tells of a change exactly if one of them
does. Neighbours in a run that are control replies for different channels can change places: the
bank at the end is the same, and either is answered as before. -/
theorem report_agrees_with_controls (model : Model) (bank : DimmerBank)
    (levels : Channel → Percent) {report : Packet} {control : Channel → Packet}
    {order : List Channel} (hreport : ReportOf levels report)
    (hcontrol : ∀ c, ControlOf c (levels c) (control c))
    (horder : order.Perm [.first, .second, .third, .fourth]) :
    (∃ changed,
      bank.answer model report = ⟨bank.run model (order.map control), .ok changed, []⟩ ∧
      (changed = true ↔
        ∃ reply ∈ Reply.answers (answer model) bank (order.map control), reply.result = .ok true)) ∧
    (∀ earlier p q later, p.command = .singleChannelControl → Readable p →
      q.command = .singleChannelControl → Readable q → p.data[0]? ≠ q.data[0]? →
      bank.run model (earlier ++ p :: q :: later) = bank.run model (earlier ++ q :: p :: later) ∧
      (((bank.run model earlier).answer model q).state.answer model p).result
        = ((bank.run model earlier).answer model p).result ∧
      (((bank.run model earlier).answer model p).state.answer model q).result
        = ((bank.run model earlier).answer model q).result) := by
  have hnodup : order.Nodup := horder.nodup_iff.mpr (by decide)
  have hall : ∀ c, c ∈ order := fun c => horder.mem_iff.mpr (by cases c <;> decide)
  have hstate : (bank.storeAll levels).state = bank.run model (order.map control) := by
    refine eq_of_get fun c => ?_
    rw [get_storeAll, get_run_controls model hcontrol, if_pos (hall c)]
  refine ⟨⟨(bank.storeAll levels).changed, ?_, ?_⟩,
    fun earlier p q later hp hpread hq hqread hchannel => ?_⟩
  · rw [hreport.answer, hstate]
  · rw [exists_changed_controls model hcontrol bank hnodup]
    simp only [hall, true_and]
    exact changed_storeAll bank levels
  · obtain ⟨c, level, hp⟩ := exists_controlOf hp hpread
    obtain ⟨other, value, hq⟩ := exists_controlOf hq hqread
    have hne : c ≠ other := by
      rintro rfl
      exact hchannel (hp.channel.trans hq.channel.symm)
    refine ⟨Reply.run_swap ?_ later, ?_, ?_⟩
    · simp only [hp.answer, hq.answer]
      exact store_store_comm _ level value hne
    · simp only [hp.answer, hq.answer, changed_store_store _ value level hne.symm]
    · simp only [hp.answer, hq.answer, changed_store_store _ level value hne]

/-- The first channel has the level of `evening` already, the third has another one. -/
def halfLit : DimmerBank :=
  ⟨some ⟨20, by decide⟩, none, some .greatest, none⟩

def evening : Channel → Percent
  | .first => ⟨20, by decide⟩
  | .second => .least
  | .third => ⟨55, by decide⟩
  | .fourth => .greatest

def eveningReport : Packet :=
  .fromAddress .mdt04015 .levelOfChannels ⟨1, 30⟩ [9, 20, 0, 55, 100, 255]

def eveningControl (c : Channel) : Packet :=
  .fromAddress .mdt04015 .singleChannelControl ⟨1, 30⟩ [c.toByte, 248, (evening c).value, 7]

/-- The channels in the order 3, 1, 4, 2, and channels 2 and 3 changing places. -/
theorem report_agrees_with_controls_shuffled :
    ReportOf evening eveningReport ∧
    (∀ c, ControlOf c (evening c) (eveningControl c)) ∧
    [Channel.third, .first, .fourth, .second].Perm [.first, .second, .third, .fourth] ∧
    (∃ changed,
      halfLit.answer .mdt04015 eveningReport
        = ⟨halfLit.run .mdt04015 ([.third, .first, .fourth, .second].map eveningControl),
            .ok changed, []⟩ ∧
      (changed = true ↔
        ∃ reply ∈ Reply.answers (answer .mdt04015) halfLit
          ([.third, .first, .fourth, .second].map eveningControl), reply.result = .ok true)) ∧
    Readable (eveningControl .second) ∧ Readable (eveningControl .third) ∧
    halfLit.run .mdt04015 [eveningReport, eveningControl .second, eveningControl .third]
      = halfLit.run .mdt04015 [eveningReport, eveningControl .third, eveningControl .second] := by
  have hreport : ReportOf evening eveningReport := ⟨rfl, by decide, fun c => by cases c <;> rfl⟩
  have hcontrol : ∀ c, ControlOf c (evening c) (eveningControl c) :=
    fun _ => ⟨rfl, Nat.le_succ 3, rfl, rfl⟩
  have horder : [Channel.third, .first, .fourth, .second].Perm [.first, .second, .third, .fourth] := by
    decide
  have hsecond : Readable (eveningControl .second) := by decide
  have hthird : Readable (eveningControl .third) := by decide
  obtain ⟨hsame, hswap⟩ :=
    report_agrees_with_controls .mdt04015 halfLit evening hreport hcontrol horder
  exact ⟨hreport, hcontrol, horder, hsame, hsecond, hthird,
    (hswap [eveningReport] _ _ [] rfl hsecond rfl hthird (by decide)).1⟩

end Fieldbus.DimmerBank
