import FrontPanel.Touch.Fingers
import FrontPanel.Touch.FirmwareLoad

/-!
# A suspended panel is quiet

`axs_ts_suspend`, `axs_ts_resume`, the interrupt thread and a firmware load from sysfs share `suspended`, `irq_disabled`, `fw_loading` and the fingers, and the mutex that was to keep reports apart is commented out. Each of them is a counter into its own source, and one step of the system is one step of one of them. There is one interrupt thread, since the line is requested with `IRQF_ONESHOT`, and one load, since both sysfs files hold `s_device_mutex`. Switching the interrupt off keeps the thread from being woken, and leaves one that has been woken alone.
-/

namespace FrontPanel.Touch.Suspend

open FirmwareLoad

/-! ### The activities -/

inductive HandlerPc
  | idle
  | woken
  /-- `fw_loading` was found clear -/
  | checked
  /-- the report was read and parsed -/
  | parsed
deriving DecidableEq

inductive SuspendPc
  | idle
  /-- `suspended` was found clear -/
  | awake
  /-- so was `fw_loading` -/
  | notLoading
  | irqOff
  | released
deriving DecidableEq

inductive ResumePc
  | idle
  /-- `suspended` was found set -/
  | asleep
  | released
  | irqOn
deriving DecidableEq

/-- `axs_debug_fwupg`, with `axs_reset_and_lcd_init` at the end of the upgrade. -/
inductive FwupgPc
  | idle
  | loading
  | irqOff
  | resetting
  | upgraded
  | irqOn
deriving DecidableEq

structure System where
  panel : Panel
  handler : HandlerPc
  suspend : SuspendPc
  resume : ResumePc
  fwupg : FwupgPc

inductive Action
  | interrupt
  | check
  | parse (bus : BusRead)
  | report
  | suspendBegin
  | suspendLoading
  | suspendIrqOff
  | suspendRelease
  | suspendEnd
  | resumeBegin
  | resumeRelease
  | resumeIrqOn
  | resumeEnd
  | fwupgBegin
  | fwupgIrqOff
  | fwupgReturn
  | fwupgSkip
  | resetIrqOff
  | resetIrqOn
  | fwupgIrqOn
  | fwupgEnd

inductive Step (config : AxsConfig) : System → Action → System → Prop
  | interrupt {state : System} (hpc : state.handler = .idle)
      (henabled : state.panel.irqDisabled = false) :
      Step config state .interrupt { state with handler := .woken }
  | check {state : System} (hpc : state.handler = .woken) :
      Step config state .check
        { state with handler := if state.panel.fwLoading then .idle else .checked }
  | parse {state : System} {bus : BusRead} {data : AxsTsData} {ret : Int}
      (hpc : state.handler = .checked)
      (hparse : axsReadParseTouchdata config state.panel.toAxsTsData bus = some (data, ret)) :
      Step config state (.parse bus)
        { state with
          panel := { state.panel with toAxsTsData := data }
          handler := if ret = 0 then .parsed else .idle }
  | report {state : System} (hpc : state.handler = .parsed) :
      Step config state .report
        { state with
          panel := { state.panel with
            toAxsTsData := axsInputReportB config state.panel.toAxsTsData }
          handler := .idle }
  | suspendBegin {state : System} (hpc : state.suspend = .idle) :
      Step config state .suspendBegin
        { state with suspend := if state.panel.suspended then .idle else .awake }
  | suspendLoading {state : System} (hpc : state.suspend = .awake) :
      Step config state .suspendLoading
        { state with suspend := if state.panel.fwLoading then .idle else .notLoading }
  | suspendIrqOff {state : System} (hpc : state.suspend = .notLoading) :
      Step config state .suspendIrqOff
        { state with panel := axsIrqDisable state.panel, suspend := .irqOff }
  | suspendRelease {state : System} (hpc : state.suspend = .irqOff) :
      Step config state .suspendRelease
        { state with
          panel := { state.panel with
            toAxsTsData := axsReleaseAllFinger config state.panel.toAxsTsData }
          suspend := .released }
  | suspendEnd {state : System} (hpc : state.suspend = .released) :
      Step config state .suspendEnd
        { state with panel := { state.panel with suspended := true }, suspend := .idle }
  | resumeBegin {state : System} (hpc : state.resume = .idle) :
      Step config state .resumeBegin
        { state with resume := if !state.panel.suspended then .idle else .asleep }
  | resumeRelease {state : System} (hpc : state.resume = .asleep) :
      Step config state .resumeRelease
        { state with
          panel := { state.panel with
            toAxsTsData := axsReleaseAllFinger config state.panel.toAxsTsData }
          resume := .released }
  | resumeIrqOn {state : System} (hpc : state.resume = .released) :
      Step config state .resumeIrqOn
        { state with panel := axsIrqEnable state.panel, resume := .irqOn }
  | resumeEnd {state : System} (hpc : state.resume = .irqOn) :
      Step config state .resumeEnd
        { state with panel := { state.panel with suspended := false }, resume := .idle }
  | fwupgBegin {state : System} (hpc : state.fwupg = .idle) :
      Step config state .fwupgBegin
        { state with panel := { state.panel with fwLoading := true }, fwupg := .loading }
  | fwupgIrqOff {state : System} (hpc : state.fwupg = .loading) :
      Step config state .fwupgIrqOff
        { state with panel := axsIrqDisable state.panel, fwupg := .irqOff }
  /-- the firmware cannot be read, and `axs_debug_fwupg` returns early -/
  | fwupgReturn {state : System} (hpc : state.fwupg = .irqOff) :
      Step config state .fwupgReturn { state with fwupg := .idle }
  /-- the size is out of bounds, or the flash cannot be selected -/
  | fwupgSkip {state : System} (hpc : state.fwupg = .irqOff) :
      Step config state .fwupgSkip { state with fwupg := .upgraded }
  | resetIrqOff {state : System} (hpc : state.fwupg = .irqOff) :
      Step config state .resetIrqOff
        { state with panel := axsIrqDisable state.panel, fwupg := .resetting }
  | resetIrqOn {state : System} (hpc : state.fwupg = .resetting) :
      Step config state .resetIrqOn
        { state with panel := axsIrqEnable state.panel, fwupg := .upgraded }
  | fwupgIrqOn {state : System} (hpc : state.fwupg = .upgraded) :
      Step config state .fwupgIrqOn
        { state with panel := axsIrqEnable state.panel, fwupg := .irqOn }
  | fwupgEnd {state : System} (hpc : state.fwupg = .irqOn) :
      Step config state .fwupgEnd
        { state with panel := { state.panel with fwLoading := false }, fwupg := .idle }

/-- The panel as `axs_ts_probe` leaves it, and nothing going on. -/
def System.initial : System where
  panel := .initial
  handler := .idle
  suspend := .idle
  resume := .idle
  fwupg := .idle

/-- No activity is part-way through. -/
structure System.Idle (state : System) : Prop where
  handler : state.handler = .idle
  suspend : state.suspend = .idle
  resume : state.resume = .idle
  fwupg : state.fwupg = .idle

/-! ### One activity alone -/

theorem interrupt_alone {config : AxsConfig} {state : System} {bus : BusRead} {data : AxsTsData}
    (hpc : state.handler = .idle) (henabled : state.panel.irqDisabled = false)
    (hinterrupt : axsTsInterrupt config state.panel.toAxsTsData bus = some data) :
    ∃ actions, Run (Step config) state actions
      { state with panel := { state.panel with toAxsTsData := data } } := by
  obtain ⟨panel, handler, suspend, resume, fwupg⟩ := state
  obtain rfl : handler = .idle := hpc
  have hwake := @Step.interrupt config ⟨panel, .idle, suspend, resume, fwupg⟩ rfl henabled
  have hstart := @Step.check config ⟨panel, .woken, suspend, resume, fwupg⟩ rfl
  rw [axsTsInterrupt] at hinterrupt
  cases hloading : panel.fwLoading with
  | true =>
      simp only [hloading, if_true] at hinterrupt hstart
      obtain rfl := Option.some.inj hinterrupt
      exact ⟨_, .cons hwake <| .single hstart⟩
  | false =>
      simp only [hloading, Bool.false_eq_true, if_false] at hinterrupt hstart
      rw [axsTsReportThreadHandler] at hinterrupt
      obtain ⟨⟨parsed, ret⟩, hparse, hreport⟩ := Option.bind_eq_some_iff.mp hinterrupt
      have hread := @Step.parse config ⟨panel, .checked, suspend, resume, fwupg⟩ bus parsed ret rfl
        hparse
      by_cases hret : ret = 0
      · simp only [hret, if_true, Option.pure_def, Option.some.injEq] at hreport hread
        subst hreport
        exact ⟨_, .cons hwake <| .cons hstart <| .cons hread <| .single (.report rfl)⟩
      · simp only [hret, if_false, Option.pure_def, Option.some.injEq] at hreport hread
        subst hreport
        exact ⟨_, .cons hwake <| .cons hstart <| .single hread⟩

/-- A load that is not interrupted does to the panel what `axs_debug_fwupg` does. -/
theorem fwupg_alone {config : AxsConfig} {state : System} {outcome : Outcome}
    {before after : Loader} (hpc : state.fwupg = .idle) (hpanel : before.panel = state.panel)
    (hproceeds : ¬ Refused before outcome) (hload : axsDebugFwupg outcome before = some after) :
    ∃ actions, Run (Step config) state actions { state with panel := after.panel } := by
  obtain ⟨panel, handler, suspend, resume, fwupg⟩ := state
  obtain rfl : fwupg = .idle := hpc
  obtain rfl : before.panel = panel := hpanel
  have hbegin := @Step.fwupgBegin config ⟨before.panel, handler, suspend, resume, .idle⟩ rfl
  have hoff := @Step.fwupgIrqOff config
    ⟨{ before.panel with fwLoading := true }, handler, suspend, resume, .loading⟩ rfl
  rw [axsIrqDisable_eq] at hoff
  obtain ⟨-, hexit⟩ | ⟨-, -, last, hexit, hpanel⟩ | ⟨-, -, last, hexit, hpanel, -⟩ :=
    debugLoad_exits axsFwupgUpgrade_onlyIrq hproceeds
  · rw [axsDebugFwupg, hexit] at hload
    cases hload
  · obtain rfl := Option.some.inj (hexit.symm.trans hload)
    rw [hpanel]
    exact ⟨_, .cons hbegin <| .cons hoff <| .single (.fwupgReturn rfl)⟩
  · obtain rfl := Option.some.inj (hexit.symm.trans hload)
    have hon := @Step.fwupgIrqOn config ⟨{ before.panel with fwLoading := true, irqDisabled := true },
      handler, suspend, resume, .upgraded⟩ rfl
    rw [axsIrqEnable_eq] at hon
    rw [hpanel]
    exact ⟨_, .cons hbegin <| .cons hoff <| .cons (.fwupgSkip rfl) <| .cons hon <|
      .single (.fwupgEnd rfl)⟩

/-! ### Silence -/

/-- Nobody but a suspend or a resume that is under way may switch the interrupt on: the panel is suspended, or is being suspended and past `axs_irq_disable`. -/
def System.Silenced (state : System) : Prop :=
  (state.panel.suspended = true ∧ state.resume = .idle) ∨ state.suspend = .irqOff ∨
    state.suspend = .released

/-- No finger may go down: the panel is suspended, or is being suspended and past `axs_release_all_finger`. -/
def System.Lifted (state : System) : Prop :=
  (state.panel.suspended = true ∧ state.resume = .idle) ∨ state.suspend = .released

/-- A handler that started earlier reports no finger down on a panel that must have none, and a load that was under way does not switch the interrupt on. -/
def System.Allows (state : System) : Action → Prop
  | .report => state.Lifted → ∀ event ∈ state.panel.listed, eventDown event.flag = false
  | .resetIrqOn => ¬ state.Silenced
  | .fwupgIrqOn => ¬ state.Silenced
  | _ => True

/-- Suspend and resume exclude each other by `suspended` alone. -/
structure System.Ordered (state : System) : Prop where
  suspending : state.suspend ≠ .idle → state.panel.suspended = false
  resuming : state.resume ≠ .idle → state.panel.suspended = true

theorem System.Ordered.step {config : AxsConfig} {before after : System} {action : Action}
    (hbefore : before.Ordered) (hstep : Step config before action after) : after.Ordered := by
  obtain ⟨hsuspending, hresuming⟩ := hbefore
  cases hstep with
  | _ => constructor <;> simp_all

/-- The interrupt is off while the panel is silenced. -/
theorem System.silent_step {config : AxsConfig} {before after : System} {action : Action}
    (hordered : before.Ordered) (hsilent : before.Silenced → before.panel.irqDisabled = true)
    (hallows : before.Allows action) (hstep : Step config before action after) :
    after.Silenced → after.panel.irqDisabled = true := by
  obtain ⟨hsuspending, hresuming⟩ := hordered
  cases hstep with
  | suspendBegin hpc =>
      by_cases hasleep : before.panel.suspended = true <;> simp_all [Silenced]
  | suspendLoading hpc =>
      by_cases hloading : before.panel.fwLoading = true <;> simp_all [Silenced]
  | resumeBegin hpc =>
      by_cases hasleep : before.panel.suspended = true <;> simp_all [Silenced]
  | resetIrqOn hpc => simp_all [Silenced, Allows]
  | fwupgIrqOn hpc => simp_all [Silenced, Allows]
  | _ => simp_all [Silenced]

/-- What the interrupt thread and the releases keep: the fingers are the driver's, and so are the points a handler is about to report. -/
structure System.Fingers (config : AxsConfig) (state : System) : Prop where
  consistent : Consistent config state.panel.toAxsTsData
  parsed : state.handler = .parsed →
    ∀ event ∈ state.panel.listed, event.id < axsMaxId ∧ event.id < config.maxTouchNumber
  lifted : state.Lifted → state.panel.touchs = 0 ∧ ∀ i, state.panel.inputDev.active i = false

theorem System.Fingers.frame {config : AxsConfig} {before after : System}
    (hbefore : before.Fingers config)
    (hdata : after.panel.toAxsTsData =
      { before.panel.toAxsTsData with fwLoading := after.panel.fwLoading })
    (hhandler : after.handler = .parsed → before.handler = .parsed)
    (hlifted : after.Lifted → before.Lifted) : after.Fingers config := by
  refine ⟨?_, ?_, ?_⟩
  · rw [hdata]
    exact ⟨hbefore.consistent.bounded, hbefore.consistent.covers⟩
  · rw [hdata]
    exact fun hdone => hbefore.parsed (hhandler hdone)
  · rw [hdata]
    exact fun hlift => hbefore.lifted (hlifted hlift)

theorem System.Fingers.step {config : AxsConfig} {before after : System} {action : Action}
    (hordered : before.Ordered) (hbefore : before.Fingers config) (hallows : before.Allows action)
    (hstep : Step config before action after) : after.Fingers config := by
  obtain ⟨hsuspending, hresuming⟩ := hordered
  have ⟨hconsistent, hparsed, hlifted⟩ := hbefore
  cases hstep with
  | parse hpc hparse =>
      obtain ⟨htouchs, hdev, -, hzero⟩ := axsReadParseTouchdata_spec hparse
      refine ⟨⟨htouchs ▸ hconsistent.bounded, by rw [htouchs, hdev]; exact hconsistent.covers⟩,
        fun hdone => ?_, fun hlift => ?_⟩
      · dsimp only at hdone
        split at hdone
        · next hret => exact (hzero hret).2.2
        · cases hdone
      · dsimp only
        rw [htouchs, hdev]
        exact hlifted hlift
  | report hpc =>
      refine ⟨hconsistent.report (hparsed hpc), fun hdone => (by cases hdone), fun hlift => ?_⟩
      exact hconsistent.report_up (hparsed hpc) (hallows hlift)
  | suspendRelease hpc =>
      refine ⟨consistent_of_released hconsistent.releaseAll.1 hconsistent.releaseAll.2, ?_, ?_⟩
      · intro _ event hmem
        exact absurd hmem List.not_mem_nil
      · exact fun _ => hconsistent.releaseAll
  | resumeRelease hpc =>
      refine ⟨consistent_of_released hconsistent.releaseAll.1 hconsistent.releaseAll.2, ?_, ?_⟩
      · intro _ event hmem
        exact absurd hmem List.not_mem_nil
      · exact fun _ => hconsistent.releaseAll
  | interrupt hpc henabled => exact hbefore.frame rfl (fun hdone => by cases hdone) id
  | check hpc =>
      refine hbefore.frame rfl (fun hdone => ?_) id
      dsimp only at hdone
      split at hdone <;> cases hdone
  | suspendBegin hpc =>
      refine hbefore.frame rfl id ?_
      by_cases hasleep : before.panel.suspended = true <;> simp_all [Lifted]
  | suspendLoading hpc =>
      refine hbefore.frame rfl id ?_
      by_cases hloading : before.panel.fwLoading = true <;> simp_all [Lifted]
  | resumeBegin hpc =>
      refine hbefore.frame rfl id ?_
      by_cases hasleep : before.panel.suspended = true <;> simp_all [Lifted]
  | _ => exact hbefore.frame (by simp) id (by simp_all [Lifted])

/-- The invariant of the runs that keep to `Allows`. -/
structure System.Sound (config : AxsConfig) (state : System) : Prop where
  ordered : state.Ordered
  silent : state.Silenced → state.panel.irqDisabled = true
  fingers : state.Fingers config

theorem System.Sound.step {config : AxsConfig} {before after : System} {action : Action}
    (hbefore : before.Sound config) (hstep : Guarded (Step config) System.Allows before action after) :
    after.Sound config where
  ordered := hbefore.ordered.step hstep.1
  silent := silent_step hbefore.ordered hbefore.silent hstep.2 hstep.1
  fingers := Fingers.step hbefore.ordered hbefore.fingers hstep.2 hstep.1

theorem System.Sound.initial (config : AxsConfig) : System.initial.Sound config where
  ordered := ⟨fun hbusy => absurd rfl hbusy, fun hbusy => absurd rfl hbusy⟩
  silent := by simp [Silenced, System.initial, Panel.initial]
  fingers := ⟨.initial config, fun hdone => (by cases hdone), fun _ => ⟨rfl, fun _ => rfl⟩⟩

/-- In every interleaving in which no late report puts a finger down on a silenced panel and no load switches its interrupt on, a suspended panel is quiet whenever nothing is under way. -/
theorem suspended_panel_quiet {config : AxsConfig} {actions : List Action} {state : System}
    (hrun : Run (Guarded (Step config) System.Allows) .initial actions state)
    (hsuspended : state.panel.suspended = true) (hidle : state.Idle) :
    state.panel.irqDisabled = true ∧ state.panel.touchs = 0 ∧
      ∀ i, state.panel.inputDev.active i = false := by
  have hsound : state.Sound config :=
    hrun.invariant (fun _ _ _ hbefore hstep => hbefore.step hstep) (.initial config)
  exact ⟨hsound.silent (.inl ⟨hsuspended, hidle.resume⟩),
    hsound.fingers.lifted (.inl ⟨hsuspended, hidle.resume⟩)⟩

theorem suspended_panel_quiet_fingerDown : ∃ actions state,
    Run (Guarded (Step .shipped) System.Allows) .initial actions state ∧
      state.panel.suspended = true ∧ state.panel.irqDisabled = true ∧ state.panel.touchs = 0 := by
  obtain ⟨actions, state, hrun, hsuspended, hidle⟩ : ∃ actions state,
      Run (Guarded (Step .shipped) System.Allows) .initial actions state ∧
        state.panel.suspended = true ∧ state.Idle := by
    refine ⟨_, _, .cons ⟨.interrupt rfl rfl, trivial⟩ <| .cons ⟨.check rfl, trivial⟩ <|
      .cons ⟨@Step.parse .shipped _ fingerDown _ _ rfl rfl, trivial⟩ <|
      .cons ⟨.report rfl, ?_⟩ <| .cons ⟨.suspendBegin rfl, trivial⟩ <|
      .cons ⟨.suspendLoading rfl, trivial⟩ <| .cons ⟨.suspendIrqOff rfl, trivial⟩ <|
      .cons ⟨.suspendRelease rfl, trivial⟩ <| .cons ⟨.suspendEnd rfl, trivial⟩ (.nil _),
      rfl, rfl, rfl, rfl, rfl⟩
    intro hcase
    rcases hcase with ⟨hsuspended, -⟩ | hreleased
    · cases hsuspended
    · cases hreleased
  obtain ⟨hirq, htouchs, -⟩ := suspended_panel_quiet hrun hsuspended hidle
  exact ⟨actions, state, hrun, hsuspended, hirq, htouchs⟩

/-- A handler that has passed its check when the panel is suspended reads and reports a finger afterwards. -/
theorem suspended_panel_touched : ¬ ∀ (actions : List Action) (state : System),
    Run (Step .shipped) .initial actions state → state.panel.suspended = true → state.Idle →
      state.panel.irqDisabled = true ∧ state.panel.touchs = 0 ∧
        ∀ i, state.panel.inputDev.active i = false := by
  intro halways
  obtain ⟨actions, state, hrun, hsuspended, hidle, htouchs⟩ : ∃ actions state,
      Run (Step .shipped) .initial actions state ∧ state.panel.suspended = true ∧ state.Idle ∧
        state.panel.touchs = 1 := by
    exact ⟨_, _, .cons (.interrupt rfl rfl) <| .cons (.check rfl) <| .cons (.suspendBegin rfl) <|
      .cons (.suspendLoading rfl) <| .cons (.suspendIrqOff rfl) <| .cons (.suspendRelease rfl) <|
      .cons (.suspendEnd rfl) <| .cons (@Step.parse .shipped _ fingerDown _ _ rfl rfl) <|
      .cons (.report rfl) (.nil _), rfl, ⟨rfl, rfl, rfl, rfl⟩, rfl⟩
  obtain ⟨-, hzero, -⟩ := halways actions state hrun hsuspended hidle
  rw [hzero] at htouchs
  exact absurd htouchs (by decide)

/-! ### A step that is not allowed -/

theorem handler_ends (config : AxsConfig) (state : System) : ∃ actions data,
    Run (Step config) state actions
      { state with panel := { state.panel with toAxsTsData := data }, handler := .idle } ∧
    (state.handler = .idle → data = state.panel.toAxsTsData) := by
  obtain ⟨panel, handler, suspend, resume, fwupg⟩ := state
  have hread := @Step.parse config ⟨panel, .checked, suspend, resume, fwupg⟩
    ⟨-1, panel.pointBuf⟩ panel.toAxsTsData (-1) rfl rfl
  cases handler with
  | idle => exact ⟨[], panel.toAxsTsData, .nil _, fun _ => rfl⟩
  | woken =>
      have hcheck := @Step.check config ⟨panel, .woken, suspend, resume, fwupg⟩ rfl
      cases hloading : panel.fwLoading with
      | true =>
          simp only [hloading, if_true] at hcheck
          exact ⟨_, panel.toAxsTsData, .single hcheck, fun hpc => by cases hpc⟩
      | false =>
          simp only [hloading, Bool.false_eq_true, if_false] at hcheck
          exact ⟨_, _, .cons hcheck <| .single hread, fun hpc => by cases hpc⟩
  | checked => exact ⟨_, _, .single hread, fun hpc => by cases hpc⟩
  | parsed => exact ⟨_, _, .single (.report rfl), fun hpc => by cases hpc⟩

theorem suspend_ends (config : AxsConfig) {state : System}
    (hpc : state.suspend = .irqOff ∨ state.suspend = .released) : ∃ actions data,
    Run (Step config) state actions
      { state with
        panel := { state.panel with toAxsTsData := data, suspended := true }
        suspend := .idle } ∧
    (state.suspend = .released → data = state.panel.toAxsTsData) := by
  obtain ⟨panel, handler, suspend, resume, fwupg⟩ := state
  rcases hpc with hpc | hpc
  · obtain rfl : suspend = .irqOff := hpc
    exact ⟨_, _, .cons (.suspendRelease rfl) <| .single (.suspendEnd rfl), fun hpc => by cases hpc⟩
  · obtain rfl : suspend = .released := hpc
    exact ⟨_, _, .single (.suspendEnd rfl), fun _ => rfl⟩

theorem fwupg_ends (config : AxsConfig) (state : System) : ∃ actions fwLoading irqDisabled,
    Run (Step config) state actions
      { state with panel := { state.panel with fwLoading, irqDisabled }, fwupg := .idle } ∧
    (state.panel.irqDisabled = false → irqDisabled = false) := by
  obtain ⟨panel, handler, suspend, resume, fwupg⟩ := state
  have hupgraded : ∀ panel, Run (Step config) ⟨panel, handler, suspend, resume, .upgraded⟩
      [.fwupgIrqOn, .fwupgEnd]
      ⟨{ panel with fwLoading := false, irqDisabled := false }, handler, suspend, resume, .idle⟩ := by
    intro panel
    have hon := @Step.fwupgIrqOn config ⟨panel, handler, suspend, resume, .upgraded⟩ rfl
    rw [axsIrqEnable_eq] at hon
    exact .cons hon <| .single (.fwupgEnd rfl)
  cases fwupg with
  | idle => exact ⟨[], panel.fwLoading, panel.irqDisabled, .nil _, id⟩
  | loading =>
      have hoff := @Step.fwupgIrqOff config ⟨panel, handler, suspend, resume, .loading⟩ rfl
      rw [axsIrqDisable_eq] at hoff
      exact ⟨_, _, _, .cons hoff <| .cons (.fwupgSkip rfl) (hupgraded _), fun _ => rfl⟩
  | irqOff => exact ⟨_, _, _, .cons (.fwupgSkip rfl) (hupgraded panel), fun _ => rfl⟩
  | resetting =>
      have hon := @Step.resetIrqOn config ⟨panel, handler, suspend, resume, .resetting⟩ rfl
      rw [axsIrqEnable_eq] at hon
      exact ⟨_, _, _, .cons hon (hupgraded _), fun _ => rfl⟩
  | upgraded => exact ⟨_, _, _, hupgraded panel, fun _ => rfl⟩
  | irqOn => exact ⟨_, _, _, .single (.fwupgEnd rfl), id⟩

/-- With no resume under way, a panel that is suspended or being suspended can come to rest suspended, its fingers and its interrupt no better than they are. -/
theorem comes_to_rest (config : AxsConfig) (state : System) (hresume : state.resume = .idle)
    (hsuspend : (state.panel.suspended = true ∧ state.suspend = .idle) ∨ state.suspend = .irqOff ∨
      state.suspend = .released) :
    ∃ actions last, Run (Step config) state actions last ∧ last.panel.suspended = true ∧
      last.Idle ∧ (state.panel.irqDisabled = false → last.panel.irqDisabled = false) ∧
      (state.suspend ≠ .irqOff → state.handler = .idle →
        last.panel.touchs = state.panel.touchs) := by
  obtain ⟨handled, reported, hhandler, hreported⟩ := handler_ends config state
  have hsuspended : ∃ actions data, Run (Step config)
      { state with panel := { state.panel with toAxsTsData := reported }, handler := .idle } actions
      { state with
        panel := { state.panel with toAxsTsData := data, suspended := true }
        handler := .idle
        suspend := .idle } ∧ (state.suspend ≠ .irqOff → data = reported) := by
    rcases hsuspend with ⟨hsuspended, hidle⟩ | hpc
    · obtain ⟨⟨data, suspended, irqDisabled⟩, handler, suspend, resume, fwupg⟩ := state
      obtain rfl : suspended = true := hsuspended
      obtain rfl : suspend = .idle := hidle
      exact ⟨[], reported, .nil _, fun _ => rfl⟩
    · obtain ⟨actions, data, hrun, hdata⟩ := suspend_ends config
        (show System.suspend { state with
          panel := { state.panel with toAxsTsData := reported }, handler := .idle } = .irqOff ∨ _
          from hpc)
      exact ⟨actions, data, hrun, fun hne => hdata (hpc.resolve_left hne)⟩
  obtain ⟨ended, data, hended, hdata⟩ := hsuspended
  obtain ⟨loaded, fwLoading, irqDisabled, hloaded, hirq⟩ := fwupg_ends config
    { state with
      panel := { state.panel with toAxsTsData := data, suspended := true }
      handler := .idle
      suspend := .idle }
  refine ⟨_, _, hhandler.append (hended.append hloaded), rfl, ⟨rfl, rfl, hresume, rfl⟩, hirq, ?_⟩
  intro hne hidle
  rw [hdata hne, hreported hidle]

/-- A panel is silenced by a suspend that is done or by one that is under way, never during a resume. -/
theorem System.Ordered.silenced {state : System} (hordered : state.Ordered)
    (hsilenced : state.Silenced) : state.resume = .idle ∧
      ((state.panel.suspended = true ∧ state.suspend = .idle) ∨ state.suspend = .irqOff ∨
        state.suspend = .released) := by
  rcases hsilenced with ⟨hsuspended, hresume⟩ | hpc
  · refine ⟨hresume, .inl ⟨hsuspended, ?_⟩⟩
    by_contra hbusy
    rw [hordered.suspending hbusy] at hsuspended
    cases hsuspended
  · refine ⟨?_, .inr hpc⟩
    by_contra hbusy
    have hsuspended := hordered.resuming hbusy
    rw [hordered.suspending (by rcases hpc with hpc | hpc <;> simp [hpc])] at hsuspended
    cases hsuspended

/-- The condition is no stronger than it must be: after a step it does not allow, the panel can come to rest suspended with a finger down or its interrupt on. -/
theorem not_allowed_breaks {config : AxsConfig} {before after : System} {action : Action}
    (hbefore : before.Sound config) (hstep : Step config before action after)
    (hnot : ¬ before.Allows action) :
    ∃ actions last, Run (Step config) after actions last ∧ last.panel.suspended = true ∧
      last.Idle ∧ (last.panel.irqDisabled = false ∨ last.panel.touchs ≠ 0) := by
  have hordered := hbefore.ordered.step hstep
  cases hstep with
  | report hpc =>
      obtain ⟨hlifted, hdown⟩ := Classical.not_imp.mp hnot
      obtain ⟨event, hmem, hdown⟩ : ∃ event ∈ before.panel.listed, eventDown event.flag = true := by
        simpa using hdown
      have hids := hbefore.fingers.parsed hpc
      obtain ⟨hfield, -⟩ := axsInputReportB_spec hbefore.fingers.consistent.bounded hids
      have htouched : (axsInputReportB config before.panel.toAxsTsData).touchs ≠ 0 :=
        (ne_zero_iff_getLsbD _).mpr ⟨event.id, (hfield event.id).mpr ⟨event, hmem, rfl, hdown⟩⟩
      obtain ⟨hresume, hsuspend⟩ := hbefore.ordered.silenced (hlifted.imp_right .inr)
      obtain ⟨actions, last, hrun, hsuspended, hidle, -, htouchs⟩ :=
        comes_to_rest config
          { before with
            panel := { before.panel with
              toAxsTsData := axsInputReportB config before.panel.toAxsTsData }
            handler := .idle }
          hresume hsuspend
      refine ⟨actions, last, hrun, hsuspended, hidle, .inr ?_⟩
      rw [htouchs ?_ rfl]
      · exact htouched
      · intro hirqOff
        rcases hlifted with ⟨hasleep, -⟩ | hreleased
        · have hawake := hordered.suspending (by rw [hirqOff]; decide)
          exact absurd (hasleep.symm.trans hawake) (by decide)
        · exact absurd (hirqOff.symm.trans hreleased) (by decide)
  | resetIrqOn hpc =>
      obtain ⟨hresume, hsuspend⟩ := hbefore.ordered.silenced (not_not.mp hnot)
      obtain ⟨actions, last, hrun, hsuspended, hidle, hirq, -⟩ :=
        comes_to_rest config { before with panel := axsIrqEnable before.panel, fwupg := .upgraded }
          hresume (by simpa using hsuspend)
      exact ⟨actions, last, hrun, hsuspended, hidle, .inl (hirq (by simp))⟩
  | fwupgIrqOn hpc =>
      obtain ⟨hresume, hsuspend⟩ := hbefore.ordered.silenced (not_not.mp hnot)
      obtain ⟨actions, last, hrun, hsuspended, hidle, hirq, -⟩ :=
        comes_to_rest config { before with panel := axsIrqEnable before.panel, fwupg := .irqOn }
          hresume (by simpa using hsuspend)
      exact ⟨actions, last, hrun, hsuspended, hidle, .inl (hirq (by simp))⟩
  | _ => exact absurd trivial hnot

end FrontPanel.Touch.Suspend
