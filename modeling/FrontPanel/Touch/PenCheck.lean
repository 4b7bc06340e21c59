import FrontPanel.Touch.Fingers

/-!
# The check for missed points

With `AXS_PEN_EVENT_CHECK_EN` a delayed work runs every 500 ms and counts its own runs in `tp_report_interval_500ms`, which the interrupt thread sets back to 0; from a count of two on it releases the points that are still down. `axs_ts_suspend` takes the work off the queue before it looks at `fw_loading`, and only `axs_ts_resume` of a suspended panel puts it there again. A run of the work is two steps here, since `cancel_delayed_work` neither waits for one nor keeps it from queueing the next.
-/

namespace FrontPanel.Touch.PenCheck

/-! ### The code -/

structure PenPanel extends Panel where
  penEventCheckEnable : UInt8
  tpReportInterval500ms : UInt8
  /-- `pen_event_check_work` is queued -/
  pending : Bool
  /-- and it runs -/
  running : Bool

/-- One pass of the loop of the work. -/
def releaseDown (data : AxsTsData) (i : Nat) : AxsTsData :=
  if bit i &&& data.touchs.signExtend 64 ≠ 0 then
    { data with
      inputDev := (data.inputDev.mtSlot i).mtReportSlotState false
      touchs := clearBit data.touchs i }
  else data

/-- `axs_pen_event_check_func`, but for the work it queues at its end. -/
def axsPenEventCheckFunc (config : AxsConfig) (panel : PenPanel) : PenPanel :=
  let panel :=
    if panel.tpReportInterval500ms ≤ 10 then
      { panel with tpReportInterval500ms := panel.tpReportInterval500ms + 1 }
    else panel
  if panel.tpReportInterval500ms ≥ 2 ∧ panel.touchs ≠ 0 then
    let data := (List.range config.maxTouchNumber).foldl releaseDown panel.toAxsTsData
    { panel with
      toAxsTsData := { data with inputDev := (data.inputDev.reportBtnTouch false).sync } }
  else panel

def axsPenEventCheckInit (panel : PenPanel) : PenPanel :=
  { panel with penEventCheckEnable := 1, pending := true }

def axsPenEventCheckSuspend (panel : PenPanel) : PenPanel :=
  if panel.penEventCheckEnable ≠ 0 then { panel with pending := false } else panel

def axsPenEventCheckResume (panel : PenPanel) : PenPanel :=
  if panel.penEventCheckEnable ≠ 0 then { panel with pending := true } else panel

def axsTsInterrupt (config : AxsConfig) (panel : PenPanel) (bus : BusRead) : Option PenPanel :=
  if panel.fwLoading then some panel
  else do
    let panel := { panel with tpReportInterval500ms := 0 }
    let data ← axsTsReportThreadHandler config panel.toAxsTsData bus
    return { panel with toAxsTsData := data }

def axsTsSuspend (config : AxsConfig) (panel : PenPanel) : PenPanel :=
  if panel.suspended then panel
  else
    let panel := axsPenEventCheckSuspend panel
    if panel.fwLoading then panel
    else
      let panel := { panel with toPanel := axsIrqDisable panel.toPanel }
      let panel := { panel with toAxsTsData := axsReleaseAllFinger config panel.toAxsTsData }
      { panel with suspended := true }

def axsTsResume (config : AxsConfig) (panel : PenPanel) : PenPanel :=
  if !panel.suspended then panel
  else
    let panel := { panel with toAxsTsData := axsReleaseAllFinger config panel.toAxsTsData }
    let panel := axsPenEventCheckResume panel
    let panel := { panel with toPanel := axsIrqEnable panel.toPanel }
    { panel with suspended := false }

/-! ### Runs -/

inductive PenEvent
  | interrupt (bus : BusRead)
  | tickBegin
  | tickEnd
  | suspend
  | resume
  /-- a firmware load begins or ends -/
  | fwLoading (loading : Bool)

def penStep (config : AxsConfig) (before : PenPanel) (event : PenEvent) (after : PenPanel) : Prop :=
  match event with
  | .interrupt bus => axsTsInterrupt config before bus = some after
  | .tickBegin => before.pending = true ∧ before.running = false ∧
      after = axsPenEventCheckFunc config { before with pending := false, running := true }
  | .tickEnd => before.running = true ∧ after = { before with running := false, pending := true }
  | .suspend => after = axsTsSuspend config before
  | .resume => after = axsTsResume config before
  | .fwLoading loading => after = { before with fwLoading := loading }

/-- The panel as `axs_ts_probe` leaves it. -/
def PenPanel.initial : PenPanel :=
  axsPenEventCheckInit
    { toPanel := .initial
      penEventCheckEnable := 0
      tpReportInterval500ms := 0
      pending := false
      running := false }

/-- The runs of the work since the last interrupt that was handled. -/
structure Quiet where
  loading : Bool
  ticks : Nat

def Quiet.pass (quiet : Quiet) : PenEvent → Quiet
  | .interrupt _ => if quiet.loading then quiet else { quiet with ticks := 0 }
  | .tickBegin => { quiet with ticks := quiet.ticks + 1 }
  | .fwLoading loading => { quiet with loading }
  | .tickEnd | .suspend | .resume => quiet

def quietTicks (history : List PenEvent) : Nat :=
  (history.foldl Quiet.pass { loading := false, ticks := 0 }).ticks

/-- The ids a report lists are pairwise distinct. -/
def DistinctIds (config : AxsConfig) (event : PenEvent) : Prop :=
  ∀ bus, event = .interrupt bus → ((listedPoints config bus.buf).map TsEvent.id).Nodup

/-! ### The loop of the work -/

theorem releaseDown_iff {data : AxsTsData} (hsmall : Small data.touchs) (i : Nat) :
    bit i &&& data.touchs.signExtend 64 ≠ 0 ↔ data.touchs.getLsbD i = true := by
  have hzero : Small 0#32 := fun j hset => by simp at hset
  have hmissed := missed_iff hsmall hzero i
  rw [BitVec.xor_zero] at hmissed
  rw [hmissed]
  simp

theorem releaseDown_step {data : AxsTsData} (hsmall : Small data.touchs) (i : Nat) :
    (∀ j, (releaseDown data i).touchs.getLsbD j = (data.touchs.getLsbD j && !decide (j = i))) ∧
    (∀ j, (releaseDown data i).inputDev.active j =
      (data.inputDev.active j && !(data.touchs.getLsbD j && decide (j = i)))) ∧
    (releaseDown data i).fwLoading = data.fwLoading := by
  rw [releaseDown]
  by_cases hset : data.touchs.getLsbD i = true
  · rw [if_pos ((releaseDown_iff hsmall i).mpr hset)]
    refine ⟨fun j => getLsbD_clearBit _ _ _, fun j => ?_, rfl⟩
    show (Function.update data.inputDev.active i false : Nat → Bool) j = _
    by_cases hsame : j = i
    · subst hsame
      simp [hset]
    · simp [hsame]
  · rw [if_neg fun hdown => hset ((releaseDown_iff hsmall i).mp hdown)]
    rw [Bool.not_eq_true] at hset
    refine ⟨fun j => ?_, fun j => ?_, rfl⟩
    all_goals
      by_cases hsame : j = i
      · subst hsame
        simp [hset]
      · simp [hsame]

theorem releaseDown_all {data : AxsTsData} (hsmall : Small data.touchs) (count : Nat) :
    let after := (List.range count).foldl releaseDown data
    (∀ j, after.touchs.getLsbD j = (data.touchs.getLsbD j && !decide (j < count))) ∧
    (∀ j, after.inputDev.active j =
      (data.inputDev.active j && !(data.touchs.getLsbD j && decide (j < count)))) ∧
    after.fwLoading = data.fwLoading := by
  induction count with
  | zero => simp
  | succ count ih =>
      obtain ⟨htouchs, hactive, hloading⟩ := ih
      rw [List.range_succ, List.foldl_append]
      generalize (List.range count).foldl releaseDown data = middle at htouchs hactive hloading
      have hmiddle : Small middle.touchs := by
        intro j hset
        rw [htouchs j, Bool.and_eq_true] at hset
        exact hsmall j hset.1
      obtain ⟨hstep, hslot, hkept⟩ := releaseDown_step hmiddle count
      refine ⟨fun j => ?_, fun j => ?_, hkept.trans hloading⟩
      · show (releaseDown middle count).touchs.getLsbD j = _
        rw [hstep j, htouchs j]
        have hlt : j < count + 1 ↔ j < count ∨ j = count := by omega
        simp only [hlt, Bool.decide_or, Bool.not_or, Bool.and_assoc]
      · show (releaseDown middle count).inputDev.active j = _
        rw [hslot j, htouchs j, hactive j]
        have hlt : j < count + 1 ↔ j < count ∨ j = count := by omega
        simp only [hlt, Bool.decide_or]
        cases data.touchs.getLsbD j
        · simp
        · cases data.inputDev.active j
          · simp
          · by_cases hbelow : j < count
            · simp [hbelow]
            · simp [hbelow]

/-! ### One run of the work -/

theorem interval_toNat (count : Nat) :
    (UInt8.ofNat (min (count + 1) 11)).toNat = min (count + 1) 11 := by
  rw [UInt8.toNat_ofNat']
  omega

/-- The count stops at 11. -/
theorem interval_next {panel : PenPanel} {count : Nat}
    (hcount : panel.tpReportInterval500ms.toNat = min count 11) :
    (if panel.tpReportInterval500ms ≤ 10 then
      { panel with tpReportInterval500ms := panel.tpReportInterval500ms + 1 } else panel) =
      { panel with tpReportInterval500ms := UInt8.ofNat (min (count + 1) 11) } := by
  split
  · next hle =>
    have hle : min count 11 ≤ 10 := hcount ▸ UInt8.le_iff_toNat_le.mp hle
    congr 1
    apply UInt8.toNat.inj
    rw [UInt8.toNat_add, hcount, interval_toNat]
    show (min count 11 + 1) % 2 ^ 8 = _
    omega
  · next hgt =>
    have hgt : ¬ min count 11 ≤ 10 := fun hle =>
      hgt (UInt8.le_iff_toNat_le.mpr (hcount.symm ▸ hle))
    have hsame : UInt8.ofNat (min (count + 1) 11) = panel.tpReportInterval500ms := by
      apply UInt8.toNat.inj
      rw [hcount, interval_toNat]
      omega
    rw [hsame]

theorem axsPenEventCheckFunc_spec {config : AxsConfig} {panel : PenPanel} {count : Nat}
    (hmirrors : Mirrors config panel.toAxsTsData)
    (hcount : panel.tpReportInterval500ms.toNat = min count 11) :
    let after := axsPenEventCheckFunc config panel
    after.tpReportInterval500ms.toNat = min (count + 1) 11 ∧
    after.fwLoading = panel.fwLoading ∧
    ((count = 0 ∨ panel.touchs = 0) ∧ after.toAxsTsData = panel.toAxsTsData ∨
      count ≠ 0 ∧ panel.touchs ≠ 0 ∧ after.touchs = 0 ∧ after.inputDev.btnTouch = false ∧
        ∀ i, after.inputDev.active i = false) := by
  have hreached : (UInt8.ofNat (min (count + 1) 11)) ≥ 2 ↔ count ≠ 0 := by
    rw [ge_iff_le, UInt8.le_iff_toNat_le, interval_toNat]
    show 2 ≤ _ ↔ _
    omega
  rw [axsPenEventCheckFunc, interval_next hcount]
  simp only [hreached]
  by_cases hdue : count ≠ 0 ∧ panel.touchs ≠ 0
  · rw [if_pos hdue]
    have hsmall : Small panel.touchs := fun i hset => (hmirrors.bounded i hset).1
    obtain ⟨htouchs, hactive, hloading⟩ := releaseDown_all hsmall config.maxTouchNumber
    refine ⟨interval_toNat count, hloading, .inr ⟨hdue.1, hdue.2, ?_, rfl, fun i => ?_⟩⟩
    · by_contra hsome
      obtain ⟨i, hset⟩ := (ne_zero_iff_getLsbD _).mp hsome
      obtain ⟨hdown, hout⟩ := Bool.and_eq_true_iff.mp ((htouchs i).symm.trans hset)
      simp [(hmirrors.bounded i hdown).2] at hout
    · refine (hactive i).trans ?_
      rw [← Bool.not_eq_true, Bool.and_eq_true]
      intro hset
      have hdown := hmirrors.covers i hset.1
      simpa [hdown, (hmirrors.bounded i hdown).2] using hset.2
  · rw [if_neg hdue]
    refine ⟨interval_toNat count, rfl, .inl ⟨?_, rfl⟩⟩
    rw [not_and_or, not_not, not_not] at hdue
    exact hdue

/-! ### Every run -/

/-- What holds of the panel, `quiet` being what is known of the run. -/
structure Checked (config : AxsConfig) (quiet : Quiet) (panel : PenPanel) : Prop where
  mirrors : Mirrors config panel.toAxsTsData
  interval : panel.tpReportInterval500ms.toNat = min quiet.ticks 11
  loading : panel.fwLoading = quiet.loading
  released : 2 ≤ quiet.ticks → panel.touchs = 0

section Step

variable {config : AxsConfig} {quiet : Quiet} {before after : PenPanel}

theorem Checked.releaseAll (hbefore : Checked config quiet before)
    (hdata : after.toAxsTsData = axsReleaseAllFinger config before.toAxsTsData)
    (hinterval : after.tpReportInterval500ms = before.tpReportInterval500ms) :
    Checked config quiet after := by
  have hreleased : Mirrors config (axsReleaseAllFinger config before.toAxsTsData) :=
    hbefore.mirrors.step (show Touch.DistinctIds config .releaseAll from trivial) rfl
  refine ⟨hdata ▸ hreleased, hinterval ▸ hbefore.interval, ?_, fun _ => ?_⟩
  · rw [← hbefore.loading, hdata]
    rfl
  · rw [hdata]
    rfl

theorem Checked.keep (hbefore : Checked config quiet before)
    (hdata : after.toAxsTsData = before.toAxsTsData)
    (hinterval : after.tpReportInterval500ms = before.tpReportInterval500ms) :
    Checked config quiet after :=
  ⟨hdata ▸ hbefore.mirrors, hinterval ▸ hbefore.interval, hdata ▸ hbefore.loading,
    hdata ▸ hbefore.released⟩

theorem axsTsSuspend_data (config : AxsConfig) (panel : PenPanel) :
    let after := axsTsSuspend config panel
    after.tpReportInterval500ms = panel.tpReportInterval500ms ∧
      (after.toAxsTsData = panel.toAxsTsData ∨
        after.toAxsTsData = axsReleaseAllFinger config panel.toAxsTsData) := by
  have hcheck : (axsPenEventCheckSuspend panel).toPanel = panel.toPanel ∧
      (axsPenEventCheckSuspend panel).tpReportInterval500ms = panel.tpReportInterval500ms := by
    rw [axsPenEventCheckSuspend]
    split
    · exact ⟨rfl, rfl⟩
    · exact ⟨rfl, rfl⟩
  obtain ⟨hpanel, hinterval⟩ := hcheck
  rw [axsTsSuspend]
  split
  · exact ⟨rfl, .inl rfl⟩
  · generalize axsPenEventCheckSuspend panel = checked at hpanel hinterval
    dsimp only
    split
    · exact ⟨hinterval, .inl (congrArg Panel.toAxsTsData hpanel)⟩
    · refine ⟨hinterval, .inr ?_⟩
      rw [axsIrqDisable_eq, hpanel]

theorem axsTsResume_data (config : AxsConfig) (panel : PenPanel) :
    let after := axsTsResume config panel
    after.tpReportInterval500ms = panel.tpReportInterval500ms ∧
      (after.toAxsTsData = panel.toAxsTsData ∨
        after.toAxsTsData = axsReleaseAllFinger config panel.toAxsTsData) := by
  rw [axsTsResume]
  split
  · exact ⟨rfl, .inl rfl⟩
  · simp only [axsPenEventCheckResume, axsIrqEnable_eq]
    split
    · exact ⟨rfl, .inr rfl⟩
    · exact ⟨rfl, .inr rfl⟩

theorem Checked.interrupt (hbefore : Checked config quiet before) {bus : BusRead}
    (hdistinct : DistinctIds config (.interrupt bus))
    (hstep : axsTsInterrupt config before bus = some after) :
    Checked config (quiet.pass (.interrupt bus)) after := by
  rw [axsTsInterrupt] at hstep
  by_cases hloading : before.fwLoading = true
  · rw [if_pos hloading] at hstep
    obtain rfl := Option.some.inj hstep
    rw [Quiet.pass, if_pos (hbefore.loading ▸ hloading)]
    exact hbefore
  · rw [if_neg hloading] at hstep
    obtain ⟨data, hreport, hafter⟩ := Option.bind_eq_some_iff.mp hstep
    obtain rfl := Option.some.inj hafter
    have hhandled : touchStep config before.toAxsTsData (.interrupt bus) data :=
      (if_neg hloading).trans hreport
    have hids : Touch.DistinctIds config (.interrupt bus) := hdistinct bus rfl
    have hkept := axsTsReportThreadHandler_fwLoading hbefore.mirrors.bounded hreport
    rw [Quiet.pass, if_neg (hbefore.loading ▸ hloading)]
    exact ⟨hbefore.mirrors.step hids hhandled, (Nat.zero_min 11).symm,
      hkept.trans hbefore.loading, fun hquiet => absurd hquiet (Nat.not_succ_le_zero 1)⟩

theorem Checked.tick (hbefore : Checked config quiet before)
    (hafter : after = axsPenEventCheckFunc config { before with pending := false, running := true }) :
    Checked config (quiet.pass .tickBegin) after := by
  have htaken : Checked config quiet { before with pending := false, running := true } :=
    hbefore.keep rfl rfl
  obtain ⟨hinterval, hloading, hcases⟩ :=
    axsPenEventCheckFunc_spec htaken.mirrors htaken.interval
  rw [← hafter] at hinterval hloading hcases
  refine ⟨?_, hinterval, hloading.trans hbefore.loading, fun hquiet => ?_⟩
  · rcases hcases with ⟨-, hdata⟩ | ⟨-, -, htouchs, hbtn, hactive⟩
    · exact hdata ▸ hbefore.mirrors
    · refine ⟨consistent_of_released htouchs hactive, fun i => ?_, ?_⟩
      · rw [htouchs, hactive i]
        exact BitVec.getLsbD_zero
      · rw [htouchs, hbtn]
        decide
  · rcases hcases with ⟨hidle, hdata⟩ | ⟨-, -, htouchs, -⟩
    · rw [hdata]
      have hticks : quiet.ticks ≠ 0 := Nat.ne_of_gt (Nat.lt_of_succ_lt_succ hquiet)
      exact hidle.resolve_left hticks
    · exact htouchs

theorem Checked.step (hbefore : Checked config quiet before) {event : PenEvent}
    (hdistinct : DistinctIds config event) (hstep : penStep config before event after) :
    Checked config (quiet.pass event) after := by
  cases event with
  | interrupt bus => exact hbefore.interrupt hdistinct hstep
  | tickBegin => exact hbefore.tick hstep.2.2
  | tickEnd =>
      obtain ⟨-, rfl⟩ : before.running = true ∧
        after = { before with running := false, pending := true } := hstep
      exact hbefore.keep rfl rfl
  | suspend =>
      obtain rfl : after = axsTsSuspend config before := hstep
      obtain ⟨hinterval, hdata | hdata⟩ := axsTsSuspend_data config before
      · exact hbefore.keep hdata hinterval
      · exact hbefore.releaseAll hdata hinterval
  | resume =>
      obtain rfl : after = axsTsResume config before := hstep
      obtain ⟨hinterval, hdata | hdata⟩ := axsTsResume_data config before
      · exact hbefore.keep hdata hinterval
      · exact hbefore.releaseAll hdata hinterval
  | fwLoading loading =>
      obtain rfl : after = { before with fwLoading := loading } := hstep
      have hmirrors := hbefore.mirrors
      exact ⟨⟨⟨hmirrors.bounded, hmirrors.covers⟩, hmirrors.mirrored, hmirrors.btnTouch⟩,
        hbefore.interval, rfl, hbefore.released⟩

end Step

theorem Checked.initial (config : AxsConfig) :
    Checked config { loading := false, ticks := 0 } .initial where
  mirrors := ⟨.initial config, fun i => BitVec.getLsbD_zero, by
    simp [PenPanel.initial, axsPenEventCheckInit, Panel.initial, AxsTsData.initial,
      InputDev.initial]⟩
  interval := rfl
  loading := rfl
  released := fun _ => rfl

theorem checked_run {config : AxsConfig} {history : List PenEvent} {panel : PenPanel}
    (hrun : Run (penStep config) .initial history panel)
    (hdistinct : config.maxTouchNumber ≠ 1 → ∀ event ∈ history, DistinctIds config event) :
    Checked config (history.foldl Quiet.pass { loading := false, ticks := 0 }) panel := by
  have hall : ∀ event ∈ history, DistinctIds config event := by
    intro event hmem
    by_cases hone : config.maxTouchNumber = 1
    · intro bus _
      exact distinctIds_of_one hone (.interrupt bus)
    · exact hdistinct hone event hmem
  refine (hrun.guarded hall).history_invariant
    (fun passed panel =>
      Checked config (passed.foldl Quiet.pass { loading := false, ticks := 0 }) panel)
    (fun passed before event after hbefore hstep => ?_) (.initial config)
  rw [List.foldl_concat]
  exact hbefore.step hstep.2 hstep.1

/-- Two runs of the work after the last interrupt that was handled nothing is down, whatever came in between, and a run of the work tells the input layer something exactly if it is at least the second since that interrupt and a point is still down. -/
theorem missed_points_released {config : AxsConfig} {history : List PenEvent} {panel : PenPanel}
    (hrun : Run (penStep config) .initial history panel)
    (hdistinct : config.maxTouchNumber ≠ 1 → ∀ event ∈ history, DistinctIds config event) :
    (2 ≤ quietTicks history → panel.touchs = 0 ∧ panel.inputDev.btnTouch = false ∧
      ∀ i, panel.inputDev.active i = false) ∧
    ∀ after, penStep config panel .tickBegin after →
      (after.inputDev = panel.inputDev ↔ quietTicks history = 0 ∨ panel.touchs = 0) := by
  have hchecked := checked_run hrun hdistinct
  have hmirrors := hchecked.mirrors
  constructor
  · intro hquiet
    have htouchs := hchecked.released hquiet
    refine ⟨htouchs, ?_, fun i => ?_⟩
    · rw [← Bool.not_eq_true, hmirrors.btnTouch, htouchs]
      exact fun hne => hne rfl
    · rw [← hmirrors.mirrored i, htouchs]
      exact BitVec.getLsbD_zero
  · intro after hstep
    obtain ⟨-, -, rfl⟩ : panel.pending = true ∧ panel.running = false ∧
      after = axsPenEventCheckFunc config { panel with pending := false, running := true } := hstep
    have htaken : Checked config _ { panel with pending := false, running := true } :=
      hchecked.keep rfl rfl
    obtain ⟨-, -, hcases⟩ := axsPenEventCheckFunc_spec htaken.mirrors htaken.interval
    rcases hcases with ⟨hidle, hdata⟩ | ⟨hticks, htouchs, -, hbtn, -⟩
    · exact iff_of_true (congrArg AxsTsData.inputDev hdata) hidle
    · refine iff_of_false (fun hsame => ?_) (not_or.mpr ⟨hticks, htouchs⟩)
      rw [hsame, hmirrors.btnTouch.mpr htouchs] at hbtn
      cases hbtn

/-- A finger that goes down and is not heard of again is up after the second run of the work. -/
def forgottenFinger : List PenEvent :=
  [.interrupt fingerDown, .tickBegin, .tickEnd, .tickBegin]

theorem missed_points_released_finger : ∃ before panel,
    Run (penStep .shipped) .initial [.interrupt fingerDown] before ∧
      before.inputDev.active 0 = true ∧ Run (penStep .shipped) .initial forgottenFinger panel ∧
      panel.inputDev.active 0 = false := by
  obtain ⟨before, hreport, hdown, panel, hrest⟩ : ∃ before,
      penStep .shipped .initial (.interrupt fingerDown) before ∧
      before.inputDev.active 0 = true ∧ ∃ panel,
        Run (penStep .shipped) before [.tickBegin, .tickEnd, .tickBegin] panel :=
    ⟨_, rfl, rfl, _, .cons ⟨rfl, rfl, rfl⟩ (.cons ⟨rfl, rfl⟩ (.single ⟨rfl, rfl, rfl⟩))⟩
  have hrun : Run (penStep .shipped) .initial forgottenFinger panel := .cons hreport hrest
  have hup := (missed_points_released hrun fun hne => absurd rfl hne).1 (by decide)
  exact ⟨before, panel, .single hreport, hdown, hrun, hup.2.2 0⟩

/-! ### The check that is lost -/

/-- What `axs_ts_suspend` and `axs_ts_resume` share with the work. -/
structure Queue where
  suspended : Bool
  pending : Bool
  running : Bool

def PenPanel.queue (panel : PenPanel) : Queue := ⟨panel.suspended, panel.pending, panel.running⟩

/-- The queue after an event, `loading` being whether a firmware load is in progress. -/
def Queue.next (loading : Bool) (queue : Queue) : PenEvent → Queue
  | .interrupt _ | .fwLoading _ => queue
  | .tickBegin => { queue with pending := false, running := true }
  | .tickEnd => { queue with pending := true, running := false }
  | .suspend =>
      if queue.suspended then queue
      else { queue with suspended := !loading, pending := false }
  | .resume => if queue.suspended then { queue with suspended := false, pending := true } else queue

theorem penStep_queue {config : AxsConfig} {before after : PenPanel} {event : PenEvent}
    (henable : before.penEventCheckEnable = 1) (hstep : penStep config before event after) :
    after.penEventCheckEnable = 1 ∧ after.queue = before.queue.next before.fwLoading event := by
  have hon : before.penEventCheckEnable ≠ 0 := by
    rw [henable]
    decide
  cases event with
  | interrupt bus =>
      have hstep : axsTsInterrupt config before bus = some after := hstep
      rw [axsTsInterrupt] at hstep
      split at hstep
      · obtain rfl := Option.some.inj hstep
        exact ⟨henable, rfl⟩
      · obtain ⟨data, -, hafter⟩ := Option.bind_eq_some_iff.mp hstep
        obtain rfl := Option.some.inj hafter
        exact ⟨henable, rfl⟩
  | tickBegin =>
      obtain ⟨-, -, rfl⟩ : before.pending = true ∧ before.running = false ∧
        after = axsPenEventCheckFunc config { before with pending := false, running := true } := hstep
      rw [axsPenEventCheckFunc]
      split
      all_goals
        dsimp only
        split
        all_goals exact ⟨henable, rfl⟩
  | tickEnd =>
      obtain ⟨-, rfl⟩ : before.running = true ∧
        after = { before with running := false, pending := true } := hstep
      exact ⟨henable, rfl⟩
  | suspend =>
      obtain rfl : after = axsTsSuspend config before := hstep
      rw [axsTsSuspend, axsPenEventCheckSuspend, if_pos hon]
      by_cases hasleep : before.suspended = true
      · rw [if_pos hasleep]
        exact ⟨henable, (if_pos hasleep).symm⟩
      · rw [if_neg hasleep]
        refine ⟨?_, ?_⟩
        · dsimp only
          split
          all_goals exact henable
        · refine Eq.trans ?_ (if_neg hasleep).symm
          rw [Bool.not_eq_true] at hasleep
          cases hloading : before.fwLoading with
          | true => simp [hloading, PenPanel.queue, hasleep]
          | false => simp [hloading, PenPanel.queue]
  | resume =>
      obtain rfl : after = axsTsResume config before := hstep
      rw [axsTsResume]
      by_cases hasleep : before.suspended = true
      · have hnot : ¬ (!before.suspended) = true := by simp [hasleep]
        rw [if_neg hnot]
        simp only [axsPenEventCheckResume, axsIrqEnable_eq]
        rw [if_pos hon]
        exact ⟨henable, (if_pos hasleep).symm⟩
      · rw [if_pos (by simpa using hasleep)]
        exact ⟨henable, (if_neg hasleep).symm⟩
  | fwLoading loading =>
      obtain rfl : after = { before with fwLoading := loading } := hstep
      exact ⟨henable, rfl⟩

theorem enable_run {config : AxsConfig} {history : List PenEvent} {panel : PenPanel}
    (hrun : Run (penStep config) .initial history panel) : panel.penEventCheckEnable = 1 := by
  exact hrun.history_invariant (fun _ panel => panel.penEventCheckEnable = 1)
    (fun _ _ _ _ hbefore hstep => (penStep_queue hbefore hstep).1) rfl

/-- The panel is awake and no run of the work will come. -/
def Lost (panel : PenPanel) : Prop := panel.queue = ⟨false, false, false⟩

/-- The suspend of a panel that is awake, in the middle of a firmware load and of no run of the work. -/
structure CutShort (panel : PenPanel) : Prop where
  awake : panel.suspended = false
  loading : panel.fwLoading = true
  done : panel.running = false

section Lost

variable {config : AxsConfig} {before after : PenPanel} {event : PenEvent}

/-- The check is lost where it was lost before, or by a suspend cut short. -/
theorem lost_cases (henable : before.penEventCheckEnable = 1)
    (hstep : penStep config before event after) (hlost : Lost after) :
    Lost before ∨ event = .suspend ∧ CutShort before := by
  obtain ⟨-, hqueue⟩ := penStep_queue henable hstep
  rw [Lost] at hlost
  rw [hlost] at hqueue
  cases event with
  | interrupt bus => exact .inl hqueue.symm
  | fwLoading loading => exact .inl hqueue.symm
  | tickBegin => cases (Queue.mk.inj hqueue).2.2
  | tickEnd => cases (Queue.mk.inj hqueue).2.1
  | suspend =>
      rw [Queue.next] at hqueue
      split at hqueue
      · exact .inl hqueue.symm
      · next hasleep =>
        obtain ⟨hawake, -, hdone⟩ := Queue.mk.inj hqueue
        exact .inr ⟨rfl, Bool.not_eq_true _ |>.mp hasleep, by simpa using hawake, hdone.symm⟩
  | resume =>
      rw [Queue.next] at hqueue
      split at hqueue
      · cases (Queue.mk.inj hqueue).2.1
      · exact .inl hqueue.symm

/-- The work is neither queued nor running. -/
structure Idle (panel : PenPanel) : Prop where
  enable : panel.penEventCheckEnable = 1
  idle : panel.pending = false
  done : panel.running = false

theorem Idle.step (hidle : Idle before)
    (hstep : Guarded (penStep config) (fun before _ => before.suspended = false) before event after) :
    Idle after := by
  obtain ⟨henable, hpending, hdone⟩ := hidle
  obtain ⟨hstep, hawake⟩ := hstep
  obtain ⟨hkept, hqueue⟩ := penStep_queue henable hstep
  have hbefore : before.queue = ⟨false, false, false⟩ := by
    rw [PenPanel.queue, hawake, hpending, hdone]
  rw [hbefore] at hqueue
  suffices hnext : after.pending = false ∧ after.running = false from ⟨hkept, hnext.1, hnext.2⟩
  cases event with
  | interrupt bus => exact (Queue.mk.inj hqueue).2
  | tickBegin =>
      have hqueued : before.pending = true := hstep.1
      rw [hpending] at hqueued
      cases hqueued
  | tickEnd =>
      have hruns : before.running = true := hstep.1
      rw [hdone] at hruns
      cases hruns
  | suspend => exact (Queue.mk.inj hqueue).2
  | resume => exact (Queue.mk.inj hqueue).2
  | fwLoading loading => exact (Queue.mk.inj hqueue).2

end Lost

/-- The check of a panel that is awake is lost exactly if a suspend was cut short by a firmware load and the panel has not been suspended since: no run of the work comes until it has been suspended and resumed. -/
theorem check_lost_iff {config : AxsConfig} {history : List PenEvent} {panel : PenPanel}
    (hrun : Run (penStep config) .initial history panel) :
    Lost panel ↔ panel.suspended = false ∧ ∃ left right middle cut,
      history = left ++ .suspend :: right ∧ Run (penStep config) .initial left middle ∧
      CutShort middle ∧ penStep config middle .suspend cut ∧
      Run (Guarded (penStep config) fun before _ => before.suspended = false) cut right panel := by
  constructor
  · have hinvariant := hrun.history_invariant
      (fun passed state => Run (penStep config) .initial passed state ∧
        (Lost state → ∃ left right middle cut, passed = left ++ .suspend :: right ∧
          Run (penStep config) .initial left middle ∧ CutShort middle ∧
          penStep config middle .suspend cut ∧
          Run (Guarded (penStep config) fun before _ => before.suspended = false) cut right state))
      (fun passed before event after hbefore hstep => ?_)
      ⟨.nil _, fun hlost => by cases hlost⟩
    · intro hlost
      exact ⟨(Queue.mk.inj hlost).1, hinvariant.2 hlost⟩
    · obtain ⟨hpassed, hcut⟩ := hbefore
      refine ⟨Run.snoc_iff.mpr ⟨_, hpassed, hstep⟩, fun hlost => ?_⟩
      rcases lost_cases (enable_run hpassed) hstep hlost with hlost | ⟨rfl, hshort⟩
      · obtain ⟨left, right, middle, cut, rfl, hleft, hshort, hsuspend, hright⟩ := hcut hlost
        refine ⟨left, right ++ [event], middle, cut, by simp, hleft, hshort, hsuspend, ?_⟩
        exact Run.snoc_iff.mpr ⟨_, hright, hstep, (Queue.mk.inj hlost).1⟩
      · exact ⟨passed, [], before, after, rfl, hpassed, hshort, hstep, .nil _⟩
  · intro hgiven
    obtain ⟨hawake, left, right, middle, cut, -, hleft, hshort, hsuspend, hright⟩ := hgiven
    obtain ⟨hkept, hqueue⟩ := penStep_queue (enable_run hleft) hsuspend
    have hmiddle : middle.queue = ⟨false, middle.pending, false⟩ := by
      rw [PenPanel.queue, hshort.awake, hshort.done]
    rw [hmiddle, hshort.loading] at hqueue
    have hcut : Idle cut := ⟨hkept, (Queue.mk.inj hqueue).2.1, (Queue.mk.inj hqueue).2.2⟩
    have hidle : Idle panel := hright.invariant (fun _ _ _ hbefore hstep => hbefore.step hstep) hcut
    rw [Lost, PenPanel.queue, hawake, hidle.idle, hidle.done]

/-- A finger goes down after a suspend that a firmware load cut short, and stays down. -/
theorem check_lost_finger : ∃ panel, Run (penStep .shipped) .initial
    [.fwLoading true, .suspend, .fwLoading false, .resume, .interrupt fingerDown] panel ∧
      panel.inputDev.active 0 = true ∧ Lost panel := by
  obtain ⟨middle, hload, hshort, cut, hsuspend, panel, hrest, hactive, hawake⟩ : ∃ middle,
      penStep .shipped .initial (.fwLoading true) middle ∧ CutShort middle ∧
      ∃ cut, penStep .shipped middle .suspend cut ∧ ∃ panel,
        Run (Guarded (penStep .shipped) fun before _ => before.suspended = false) cut
          [.fwLoading false, .resume, .interrupt fingerDown] panel ∧
        panel.inputDev.active 0 = true ∧ panel.suspended = false :=
    ⟨_, rfl, ⟨rfl, rfl, rfl⟩, _, rfl, _,
      .cons ⟨rfl, rfl⟩ (.cons ⟨rfl, rfl⟩ (.single ⟨rfl, rfl⟩)), rfl, rfl⟩
  have hrun : Run (penStep .shipped) .initial
      [.fwLoading true, .suspend, .fwLoading false, .resume, .interrupt fingerDown] panel :=
    .cons hload (.cons hsuspend hrest.unguarded)
  exact ⟨panel, hrun, hactive, (check_lost_iff hrun).mpr
    ⟨hawake, [.fwLoading true], _, middle, cut, rfl, .single hload, hshort, hsuspend, hrest⟩⟩

end FrontPanel.Touch.PenCheck
