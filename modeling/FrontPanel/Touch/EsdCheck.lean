import FrontPanel.Touch.Bus
import FrontPanel.Touch.Report

/-!
# The ESD check

The driver built with `AXS_ESD_CHECK_EN`: the work `esd_check_func`, which runs twice a second, and the interrupt, which reports an ESD exception of the controller. Both may reset the controller, which turns its own check off, and the work turns it on again. It is meant to wait for two ticks after a reset, and counts them in `esd_firmware_enable_delay`, which goes back to 0 only in a tick that finds the check on.

A run is any mix of ticks and interrupts, each in one piece, with whatever the bus answers. What is counted, called and reset on the way is marked, and the marks say how long each call of `axs_esd_firmware_enable` waited.
-/

namespace FrontPanel.Touch.Esd

/-! ### The code -/

/-- The driver data of such a build, and `g_axs_reset_flag`. -/
structure EsdPanel extends Panel where
  esdHostEnable : UInt8
  esdFirmwareEnable : UInt8
  esdFirmwareEnableDelay : UInt8
  esdFirmwareEnableFailCount : UInt8
  tpNoTouch500msCount : UInt8
  axsResetFlag : UInt8

inductive EsdMark
  /-- `esd_firmware_enable_delay` is counted up. -/
  | counted
  | enableCalled
  /-- `axs_reset_and_lcd_init`, with `esd_firmware_enable_delay` at `delay` -/
  | reset (delay : Nat)
  deriving DecidableEq

def axsResetAndLcdInit (panel : EsdPanel) : EsdPanel :=
  { panel with
    toPanel := Touch.axsResetAndLcdInit panel.toPanel
    esdFirmwareEnable := 0 }

def axsReleaseAllFinger (config : AxsConfig) (panel : EsdPanel) : EsdPanel :=
  { panel with toAxsTsData := Touch.axsReleaseAllFinger config panel.toAxsTsData }

/-- The two calls that always come together. -/
def resetAndRelease (config : AxsConfig) (panel : EsdPanel) : EsdPanel × List EsdMark :=
  (axsReleaseAllFinger config (axsResetAndLcdInit panel),
    [.reset panel.esdFirmwareEnableDelay.toNat])

def axsEsdFirmwareEnable : Prog Bus Bool := do
  let ret ← axsWriteBytes
    [0xb5, 0xab, 0x5a, 0xa5, 0x00, 0x02, 0x00, 0x00, 0x00, 0x00, 0x00, 0x21, 0x00]
  if ret < 0 then return false
  return true

/-- `RAWDATA_EXCEPTION`, `SCAN_EXCEPTION` and `ESD_EXCEPTION` -/
def axsEsdError (exceptionCode : Int) : Bool :=
  exceptionCode = 0xa0 ∨ exceptionCode = 0xb0 ∨ exceptionCode = 0xc0

/-- The work. It queues itself again at the end, whatever it did. -/
def esdCheckFunc (config : AxsConfig) (panel : EsdPanel) : Prog Bus (EsdPanel × List EsdMark) := do
  if panel.fwLoading = true ∨ panel.esdHostEnable = 0 ∨ panel.axsResetFlag ≠ 0 then
    return (panel, [])
  if panel.esdFirmwareEnable = 0 then
    if 2 ≤ panel.esdFirmwareEnableDelay then
      let enabled ← axsEsdFirmwareEnable
      if enabled then
        return ({ panel with
          esdFirmwareEnable := 1
          tpNoTouch500msCount := 0
          esdFirmwareEnableFailCount := 0 }, [.enableCalled])
      let failCount := panel.esdFirmwareEnableFailCount + 1
      if 3 ≤ failCount then
        let (panel, marks) := resetAndRelease config
          { panel with tpNoTouch500msCount := 0, esdFirmwareEnableFailCount := 0 }
        return (panel, .enableCalled :: marks)
      return ({ panel with esdFirmwareEnableFailCount := failCount }, [.enableCalled])
    return ({ panel with esdFirmwareEnableDelay := panel.esdFirmwareEnableDelay + 1 }, [.counted])
  let count := panel.tpNoTouch500msCount + 1
  let panel := { panel with esdFirmwareEnableDelay := 0, esdFirmwareEnableFailCount := 0 }
  if 3 ≤ count then return resetAndRelease config { panel with tpNoTouch500msCount := 0 }
  return ({ panel with tpNoTouch500msCount := count }, [])

/-- The parser of such a build stops at a status in the upper half of the byte of the point number. -/
def axsReadParseTouchdata (config : AxsConfig) (data : AxsTsData) (bus : BusRead) :
    Option (AxsTsData × Int) := do
  let (read, ret) ← axsReadTouchdata config data bus
  if 0 ≤ ret ∧ read.pointBuf axsTouchGesturePos = 0 ∧ read.pointBuf axsTouchPointNum >>> 4 ≠ 0 then
    return ({ read with touchPoint := 0 }, -1)
  Touch.axsReadParseTouchdata config data bus

def axsTsReportThreadHandler (config : AxsConfig) (panel : EsdPanel) (bus : BusRead) :
    Option (EsdPanel × List EsdMark) := do
  let (data, ret) ← axsReadParseTouchdata config panel.toAxsTsData bus
  let panel := { panel with toAxsTsData := data, tpNoTouch500msCount := 0 }
  if 0 < ret then
    if panel.esdHostEnable ≠ 0 ∧ axsEsdError ret = true then return resetAndRelease config panel
    return (panel, [])
  if ret = 0 then return ({ panel with toAxsTsData := axsInputReportB config data }, [])
  return (panel, [])

def axsTsInterrupt (config : AxsConfig) (panel : EsdPanel) (bus : BusRead) :
    Option (EsdPanel × List EsdMark) :=
  if panel.fwLoading then some (panel, []) else axsTsReportThreadHandler config panel bus

/-- The workqueue is there, and the work is queued. -/
def axsEsdCheckInit (panel : EsdPanel) : EsdPanel :=
  { panel with
    esdFirmwareEnable := 0
    esdFirmwareEnableDelay := 0
    esdFirmwareEnableFailCount := 0
    esdHostEnable := 1 }

/-! ### Runs -/

inductive EsdAction
  | tick
  | interrupt (bus : BusRead)

structure EsdStep where
  action : EsdAction
  events : List (Event Bus)
  marks : List EsdMark

def esdStep (config : AxsConfig) (before : EsdPanel) (step : EsdStep) (after : EsdPanel) : Prop :=
  match step.action with
  | .tick => (esdCheckFunc config before).Trace step.events (after, step.marks)
  | .interrupt bus =>
      step.events = [] ∧ axsTsInterrupt config before bus = some (after, step.marks)

def marksOf (steps : List EsdStep) : List EsdMark := steps.flatMap EsdStep.marks

/-- What was counted since the last reset, and the counter at that reset. -/
structure Wait where
  resetDelay : Nat
  counted : Nat
  deriving DecidableEq

def Wait.mark (wait : Wait) : EsdMark → Wait
  | .counted => { wait with counted := wait.counted + 1 }
  | .enableCalled => wait
  | .reset delay => ⟨delay, 0⟩

/-- The wait before each call of `axs_esd_firmware_enable`. -/
def waits : Wait → List EsdMark → List Wait
  | _, [] => []
  | wait, .enableCalled :: marks => wait :: waits wait marks
  | wait, .counted :: marks => waits (wait.mark .counted) marks
  | wait, .reset delay :: marks => waits (wait.mark (.reset delay)) marks

/-- The wait as `axs_esd_check_init` begins it. -/
def Wait.start : Wait where
  resetDelay := 0
  counted := 0

/-! ### The counter -/

/-- Whether the check of the controller is on, and the delay counter. -/
structure Counter where
  on : Bool
  delay : Nat

def EsdPanel.counter (panel : EsdPanel) : Counter where
  on := panel.esdFirmwareEnable ≠ 0
  delay := panel.esdFirmwareEnableDelay.toNat

/-- What a tick or an interrupt does to the counter. -/
inductive Counter.Step : Counter → List EsdMark → Counter → Prop
  | idle (counter : Counter) : Step counter [] counter
  | counts {delay : Nat} (hdelay : delay < 2) :
      Step ⟨false, delay⟩ [.counted] ⟨false, delay + 1⟩
  | enables {delay : Nat} (on : Bool) (hdelay : 2 ≤ delay) :
      Step ⟨false, delay⟩ [.enableCalled] ⟨on, delay⟩
  | givesUp {delay : Nat} (hdelay : 2 ≤ delay) :
      Step ⟨false, delay⟩ [.enableCalled, .reset delay] ⟨false, delay⟩
  | watches (delay : Nat) : Step ⟨true, delay⟩ [] ⟨true, 0⟩
  | silent (delay : Nat) : Step ⟨true, delay⟩ [.reset 0] ⟨false, 0⟩
  | exception (on : Bool) (delay : Nat) : Step ⟨on, delay⟩ [.reset delay] ⟨false, delay⟩

section Refinement

variable {config : AxsConfig} {before after panel : EsdPanel} {step : EsdStep}
  {events : List (Event Bus)} {marks : List EsdMark} {bus : BusRead}

theorem counter_off (hoff : panel.esdFirmwareEnable = 0) :
    panel.counter = ⟨false, panel.esdFirmwareEnableDelay.toNat⟩ := by
  rw [EsdPanel.counter, hoff]
  rfl

theorem counter_on (hon : panel.esdFirmwareEnable ≠ 0) :
    panel.counter = ⟨true, panel.esdFirmwareEnableDelay.toNat⟩ := by
  rw [EsdPanel.counter, decide_eq_true hon]

/-- A reset leaves the delay counter where it is. -/
theorem counter_reset (config : AxsConfig) (panel : EsdPanel) :
    (axsReleaseAllFinger config (axsResetAndLcdInit panel)).counter =
      ⟨false, panel.esdFirmwareEnableDelay.toNat⟩ :=
  counter_off rfl

theorem esdCheckFunc_step (htrace : (esdCheckFunc config before).Trace events (after, marks)) :
    Counter.Step before.counter marks after.counter := by
  rw [esdCheckFunc] at htrace
  split at htrace
  · obtain ⟨-, rfl, rfl⟩ := Prog.trace_pair.mp htrace
    exact .idle _
  · split at htrace
    · rename_i hoff
      rw [counter_off hoff]
      split at htrace
      · rename_i hdelay
        rw [UInt8.le_iff_toNat_le] at hdelay
        obtain ⟨enabled, left, right, -, -, hrest⟩ := Prog.trace_bind.mp htrace
        dsimp only at hrest
        split at hrest
        · obtain ⟨-, rfl, rfl⟩ := Prog.trace_pair.mp hrest
          rw [counter_on (show (1 : UInt8) ≠ 0 by decide)]
          exact .enables true hdelay
        · split at hrest
          · dsimp only [resetAndRelease] at hrest
            obtain ⟨-, rfl, rfl⟩ := Prog.trace_pair.mp hrest
            rw [counter_reset]
            exact .givesUp hdelay
          · obtain ⟨-, hafter, rfl⟩ := Prog.trace_pair.mp hrest
            have hcounter : after.counter = ⟨false, before.esdFirmwareEnableDelay.toNat⟩ := by
              rw [hafter]
              exact counter_off hoff
            rw [hcounter]
            exact .enables false hdelay
      · rename_i hdelay
        rw [UInt8.le_iff_toNat_le] at hdelay
        have hsmall : before.esdFirmwareEnableDelay.toNat < 2 := not_le.mp hdelay
        have hnext : (before.esdFirmwareEnableDelay + 1).toNat =
            before.esdFirmwareEnableDelay.toNat + 1 := by
          rw [UInt8.toNat_add]
          exact Nat.mod_eq_of_lt (Nat.lt_trans (Nat.succ_lt_succ hsmall) (by decide))
        obtain ⟨-, hafter, rfl⟩ := Prog.trace_pair.mp htrace
        have hcounter : after.counter = ⟨false, before.esdFirmwareEnableDelay.toNat + 1⟩ := by
          rw [hafter, ← hnext]
          exact counter_off hoff
        rw [hcounter]
        exact .counts hsmall
    · rename_i hon
      rw [counter_on hon]
      dsimp only at htrace
      split at htrace
      · obtain ⟨-, rfl, rfl⟩ := Prog.trace_pair.mp htrace
        rw [counter_reset]
        exact .silent _
      · obtain ⟨-, hafter, rfl⟩ := Prog.trace_pair.mp htrace
        have hcounter : after.counter = ⟨true, 0⟩ := by
          rw [hafter]
          exact counter_on hon
        rw [hcounter]
        exact .watches _

theorem axsTsInterrupt_step (hinterrupt : axsTsInterrupt config before bus = some (after, marks)) :
    Counter.Step before.counter marks after.counter := by
  rw [axsTsInterrupt] at hinterrupt
  split at hinterrupt
  · obtain ⟨rfl, rfl⟩ := Prod.mk.inj (Option.some.inj hinterrupt)
    exact .idle _
  · obtain ⟨⟨data, ret⟩, -, hreport⟩ := Option.bind_eq_some_iff.mp hinterrupt
    dsimp only at hreport
    split at hreport
    · split at hreport
      · obtain ⟨rfl, rfl⟩ := Prod.mk.inj (Option.some.inj hreport)
        rw [counter_reset]
        exact .exception _ _
      · obtain ⟨rfl, rfl⟩ := Prod.mk.inj (Option.some.inj hreport)
        exact .idle _
    · split at hreport
      · obtain ⟨rfl, rfl⟩ := Prod.mk.inj (Option.some.inj hreport)
        exact .idle _
      · obtain ⟨rfl, rfl⟩ := Prod.mk.inj (Option.some.inj hreport)
        exact .idle _

theorem esdStep_step (hstep : esdStep config before step after) :
    Counter.Step before.counter step.marks after.counter := by
  obtain ⟨action, events, marks⟩ := step
  cases action with
  | tick => exact esdCheckFunc_step hstep
  | interrupt bus => exact axsTsInterrupt_step hstep.2

end Refinement

/-! ### The wait before a call -/

/-- The counter has counted on from where the last reset left it, as long as the check is off. -/
def Counter.Follows (wait : Wait) (counter : Counter) : Prop :=
  counter.delay ≤ 2 ∧ (counter.on = false → counter.delay = wait.resetDelay + wait.counted)

section Waits

variable {config : AxsConfig} {wait : Wait} {counter counter' : Counter} {before after : EsdPanel}
  {marks left right : List EsdMark} {steps : List EsdStep}

theorem waits_append :
    waits wait (left ++ right) = waits wait left ++ waits (left.foldl Wait.mark wait) right := by
  induction left generalizing wait with
  | nil => rfl
  | cons mark left ih =>
      cases mark with
      | counted => exact ih
      | enableCalled => exact congrArg (wait :: ·) ih
      | reset delay => exact ih

/-- The counter goes on following the wait, and each call comes when the two add up to 2. -/
theorem Counter.Step.follows (hstep : Counter.Step counter marks counter')
    (hfollows : counter.Follows wait) :
    counter'.Follows (marks.foldl Wait.mark wait) ∧
      ∀ call ∈ waits wait marks, call.resetDelay + call.counted = 2 := by
  obtain ⟨hle, hcount⟩ := hfollows
  cases hstep with
  | idle => exact ⟨⟨hle, hcount⟩, fun _ hmem => absurd hmem List.not_mem_nil⟩
  | counts hdelay =>
      have hsum := hcount rfl
      dsimp only at hsum
      refine ⟨⟨hdelay, fun _ => ?_⟩, fun _ hmem => absurd hmem List.not_mem_nil⟩
      show _ + 1 = wait.resetDelay + (wait.counted + 1)
      omega
  | enables on hdelay =>
      have hsum := hcount rfl
      dsimp only at hsum hle
      refine ⟨⟨hle, fun _ => hsum⟩, ?_⟩
      intro call hmem
      obtain rfl := List.mem_singleton.mp hmem
      omega
  | givesUp hdelay =>
      have hsum := hcount rfl
      dsimp only at hsum hle
      refine ⟨⟨hle, fun _ => rfl⟩, ?_⟩
      intro call hmem
      obtain rfl := List.mem_singleton.mp hmem
      omega
  | watches delay =>
      exact ⟨⟨Nat.zero_le 2, fun hoff => Bool.noConfusion hoff⟩,
        fun _ hmem => absurd hmem List.not_mem_nil⟩
  | silent delay =>
      exact ⟨⟨Nat.zero_le 2, fun _ => rfl⟩, fun _ hmem => absurd hmem List.not_mem_nil⟩
  | exception on delay =>
      exact ⟨⟨hle, fun _ => rfl⟩, fun _ hmem => absurd hmem List.not_mem_nil⟩

theorem waits_run (hrun : Run (esdStep config) before steps after)
    (hfollows : before.counter.Follows wait) :
    ∀ call ∈ waits wait (marksOf steps), call.resetDelay + call.counted = 2 := by
  induction hrun generalizing wait with
  | nil => exact fun _ hmem => absurd hmem List.not_mem_nil
  | @cons before middle after step steps head tail ih =>
      obtain ⟨hnext, hcalls⟩ := (esdStep_step head).follows hfollows
      intro call hmem
      rw [marksOf, List.flatMap_cons, waits_append] at hmem
      rcases List.mem_append.mp hmem with hfirst | hlater
      · exact hcalls call hfirst
      · exact ih hnext call hlater

theorem follows_start (panel : EsdPanel) : (axsEsdCheckInit panel).counter.Follows .start :=
  ⟨Nat.zero_le 2, fun _ => rfl⟩

/-- In every run, the calls have waited for two ticks exactly where the resets before them found the delay counter at 0. -/
theorem enable_waits_iff (panel : EsdPanel)
    (hrun : Run (esdStep config) (axsEsdCheckInit panel) steps after) :
    (∀ call ∈ waits .start (marksOf steps), 2 ≤ call.counted) ↔
      ∀ call ∈ waits .start (marksOf steps), call.resetDelay = 0 := by
  have hsums := waits_run hrun (follows_start panel)
  constructor
  · intro hwaits call hmem
    have hsum := hsums call hmem
    have hcounted := hwaits call hmem
    omega
  · intro hclear call hmem
    have hsum := hsums call hmem
    have hreset := hclear call hmem
    omega

end Waits

/-! ### Ticks on a bus that answers every send alike -/

def answering (ret : Int) : (op : BusOp) → Bus.Answer op
  | .i2cMasterSend _ => ret
  | .i2cMasterRecv _ => (ret, [])
  | .kzalloc _ => true

def tick (config : AxsConfig) (ret : Int) (panel : EsdPanel) : EsdStep × EsdPanel :=
  let tick := (esdCheckFunc config panel).answered (answering ret)
  (⟨.tick, tick.1, tick.2.2⟩, tick.2.1)

theorem tick_step (config : AxsConfig) (ret : Int) (panel : EsdPanel) :
    esdStep config panel (tick config ret panel).1 (tick config ret panel).2 := by
  have htrace := Prog.trace_answered (answering ret) (esdCheckFunc config panel)
  exact htrace

/-- So many ticks, one after the other. -/
def ticks (config : AxsConfig) (ret : Int) : Nat → EsdPanel → List EsdStep × EsdPanel
  | 0, panel => ([], panel)
  | count + 1, panel =>
      let first := tick config ret panel
      let rest := ticks config ret count first.2
      (first.1 :: rest.1, rest.2)

theorem run_ticks (config : AxsConfig) (ret : Int) (count : Nat) (panel : EsdPanel) :
    Run (esdStep config) panel (ticks config ret count panel).1
      (ticks config ret count panel).2 := by
  induction count generalizing panel with
  | zero => exact .nil _
  | succ count ih => exact .cons (tick_step config ret panel) (ih _)

def EsdPanel.initial : EsdPanel where
  toPanel := .initial
  esdHostEnable := 0
  esdFirmwareEnable := 0
  esdFirmwareEnableDelay := 0
  esdFirmwareEnableFailCount := 0
  tpNoTouch500msCount := 0
  axsResetFlag := 0

/-- The check comes on, the panel stays silent for three ticks, and after the reset the check comes on again. -/
theorem enable_waits_iff_silent :
    let steps := (ticks .shipped 13 9 (axsEsdCheckInit .initial)).1
    waits .start (marksOf steps) = [⟨0, 2⟩, ⟨0, 2⟩] ∧
      ∀ call ∈ waits .start (marksOf steps), 2 ≤ call.counted := by
  intro steps
  have hwaits : waits .start (marksOf steps) = [⟨0, 2⟩, ⟨0, 2⟩] := by decide
  refine ⟨hwaits, (enable_waits_iff .initial (run_ticks .shipped 13 9 _)).mpr ?_⟩
  change ∀ call ∈ waits .start (marksOf steps), call.resetDelay = 0
  rw [hwaits]
  decide

/-- The sends fail three times and the controller is reset, with the delay still counted: the next tick tries again at once. -/
theorem enable_not_waited : ¬ ∀ (config : AxsConfig) (panel : EsdPanel) (steps : List EsdStep)
    (after : EsdPanel), Run (esdStep config) (axsEsdCheckInit panel) steps after →
    ∀ call ∈ waits .start (marksOf steps), 2 ≤ call.counted := by
  intro halways
  have hwaits := halways .shipped .initial _ _ (run_ticks .shipped (-121) 6 _)
  exact absurd (hwaits ⟨2, 0⟩ (by decide)) (by decide)

end FrontPanel.Touch.Esd
