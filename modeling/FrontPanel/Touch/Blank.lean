import FrontPanel.Touch.Suspend

/-!
# The last blank event decides

`axs_fb_notifier_callback` and `axs_resume_work` on top of `axs_ts_suspend` and `axs_ts_resume`. Powering down suspends the panel in the callback, after `cancel_work_sync` has taken back a resume that was queued and waited for one that was running; unblanking queues a resume and returns. The two therefore never overlap, and what is left to check is that neither returns early in the belief that there is nothing to do when there is. The interrupt thread goes on beside them; firmware loads are left out.
-/

namespace FrontPanel.Touch.Blank

open Suspend

/-! ### Callback and work -/

inductive FbBlank
  | unblank
  | normal
  | vsyncSuspend
  | hsyncSuspend
  | powerdown
deriving DecidableEq

inductive FbEvent
  | blank (mode : FbBlank)
  /-- an event other than `FB_EVENT_BLANK` -/
  | other
deriving DecidableEq

inductive CallbackPc
  | idle
  /-- in `cancel_work_sync`, with nothing queued any more -/
  | flushing
  /-- about to call `axs_ts_suspend` -/
  | entering
  | suspending
deriving DecidableEq

inductive WorkPc
  | idle
  /-- about to call `axs_ts_resume` -/
  | entering
  | resuming
deriving DecidableEq

structure Display where
  system : System
  callback : CallbackPc
  work : WorkPc
  pending : Bool

inductive BlankAction
  | event (event : FbEvent)
  | flushed
  | suspend
  | suspended
  | start
  | resume
  | resumed
  | inner (action : Action)

/-- The steps inside `axs_ts_suspend` and `axs_ts_resume`, and those of the interrupt thread. -/
def Inner : Action → Prop
  | .interrupt | .check | .parse _ | .report => True
  | .suspendLoading | .suspendIrqOff | .suspendRelease | .suspendEnd => True
  | .resumeRelease | .resumeIrqOn | .resumeEnd => True
  | _ => False

/-- One step of the callback, of the work, or of the interrupt thread. Events are delivered one after another. -/
inductive Display.Step (config : AxsConfig) : Display → BlankAction → Display → Prop
  /-- `queue_work` does nothing if the work is pending already. -/
  | unblank {d : Display} (hidle : d.callback = .idle) :
      Step config d (.event (.blank .unblank)) { d with pending := true }
  /-- `cancel_work_sync` first takes a queued work back. -/
  | powerdown {d : Display} (hidle : d.callback = .idle) :
      Step config d (.event (.blank .powerdown)) { d with pending := false, callback := .flushing }
  | ignored {d : Display} {event : FbEvent} (hidle : d.callback = .idle)
      (hunblank : event ≠ .blank .unblank) (hpowerdown : event ≠ .blank .powerdown) :
      Step config d (.event event) d
  /-- It then waits for one that is running. -/
  | flushed {d : Display} (hpc : d.callback = .flushing) (hidle : d.work = .idle) :
      Step config d .flushed { d with callback := .entering }
  | suspend {d : Display} {system : System} (hpc : d.callback = .entering)
      (hstep : Suspend.Step config d.system .suspendBegin system) :
      Step config d .suspend { d with system, callback := .suspending }
  | suspended {d : Display} (hpc : d.callback = .suspending) (hreturns : d.system.suspend = .idle) :
      Step config d .suspended { d with callback := .idle }
  /-- The mark is cleared before the work function is called. -/
  | start {d : Display} (hidle : d.work = .idle) (hpending : d.pending = true) :
      Step config d .start { d with pending := false, work := .entering }
  | resume {d : Display} {system : System} (hpc : d.work = .entering)
      (hstep : Suspend.Step config d.system .resumeBegin system) :
      Step config d .resume { d with system, work := .resuming }
  | resumed {d : Display} (hpc : d.work = .resuming) (hreturns : d.system.resume = .idle) :
      Step config d .resumed { d with work := .idle }
  | inner {d : Display} {action : Action} {system : System} (hinner : Inner action)
      (hstep : Suspend.Step config d.system action system) :
      Step config d (.inner action) { d with system }

/-- The display is on and nothing is going on. -/
def Display.initial : Display where
  system := .initial
  callback := .idle
  work := .idle
  pending := false

/-- The latest event that was an unblank or a power-down. -/
def latestBlank (actions : List BlankAction) : Option FbBlank :=
  (actions.filterMap fun action =>
    match action with
    | .event (.blank .unblank) => some .unblank
    | .event (.blank .powerdown) => some .powerdown
    | _ => none).getLast?

@[simp] theorem latestBlank_unblank (actions : List BlankAction) :
    latestBlank (actions ++ [.event (.blank .unblank)]) = some .unblank := by
  simp [latestBlank]

@[simp] theorem latestBlank_powerdown (actions : List BlankAction) :
    latestBlank (actions ++ [.event (.blank .powerdown)]) = some .powerdown := by
  simp [latestBlank]

theorem latestBlank_other {actions : List BlankAction} {action : BlankAction}
    (hunblank : action ≠ .event (.blank .unblank))
    (hpowerdown : action ≠ .event (.blank .powerdown)) :
    latestBlank (actions ++ [action]) = latestBlank actions := by
  simp [latestBlank]

/-! ### The invariant -/

/-- The two flags while the callback is in `axs_ts_suspend`; back at `idle`, it is about to return. -/
def SuspendFlags (system : System) : Prop :=
  match system.suspend with
  | .idle => system.panel.suspended = true ∧ system.panel.irqDisabled = true
  | .awake | .notLoading => system.panel.suspended = false ∧ system.panel.irqDisabled = false
  | .irqOff | .released => system.panel.suspended = false ∧ system.panel.irqDisabled = true

/-- The two flags while the work is in `axs_ts_resume`. -/
def ResumeFlags (system : System) : Prop :=
  match system.resume with
  | .idle => system.panel.suspended = false ∧ system.panel.irqDisabled = false
  | .asleep | .released => system.panel.suspended = true ∧ system.panel.irqDisabled = true
  | .irqOn => system.panel.suspended = true ∧ system.panel.irqDisabled = false

structure Coherent (latest : Option FbBlank) (d : Display) : Prop where
  notLoading : d.system.panel.fwLoading = false
  /-- nobody but the callback suspends, and nobody but the work resumes -/
  suspends : d.callback ≠ .suspending → d.system.suspend = .idle
  resumes : d.work ≠ .resuming → d.system.resume = .idle
  /-- the callback has taken the work back, and then waited for it -/
  cancelled : d.callback ≠ .idle → d.pending = false
  waited : d.callback = .entering ∨ d.callback = .suspending → d.work = .idle
  suspending : d.callback = .suspending → SuspendFlags d.system
  resuming : d.work = .resuming → ResumeFlags d.system
  still : d.callback ≠ .suspending → d.work ≠ .resuming →
    d.system.panel.irqDisabled = d.system.panel.suspended
  /-- without a power-down, a panel that is suspended is about to be resumed -/
  on : latest ≠ some .powerdown → d.callback = .idle ∧
    (d.pending = false → d.work = .idle → d.system.panel.suspended = false)
  off : latest = some .powerdown → d.callback = .idle →
    d.pending = false ∧ d.work = .idle ∧ d.system.panel.suspended = true

theorem Coherent.initial : Coherent none .initial := by
  refine ⟨rfl, fun _ => rfl, fun _ => rfl, nofun, fun _ => rfl, nofun, nofun, fun _ _ => rfl, ?_,
    nofun⟩
  exact fun _ => ⟨rfl, fun _ _ => rfl⟩

variable {config : AxsConfig} {before after : Display} {latest : Option FbBlank}

theorem Coherent.frame (hbefore : Coherent latest before) {system : System}
    (hsuspend : system.suspend = before.system.suspend)
    (hresume : system.resume = before.system.resume)
    (hsuspended : system.panel.suspended = before.system.panel.suspended)
    (hirq : system.panel.irqDisabled = before.system.panel.irqDisabled)
    (hloading : system.panel.fwLoading = before.system.panel.fwLoading) :
    Coherent latest { before with system } := by
  refine ⟨?_, ?_, ?_, hbefore.cancelled, hbefore.waited, ?_, ?_, ?_, ?_, ?_⟩
  · exact hloading.trans hbefore.notLoading
  · exact fun hcallback => hsuspend.trans (hbefore.suspends hcallback)
  · exact fun hwork => hresume.trans (hbefore.resumes hwork)
  · intro hcallback
    rw [SuspendFlags, hsuspend, hsuspended, hirq]
    exact hbefore.suspending hcallback
  · intro hwork
    rw [ResumeFlags, hresume, hsuspended, hirq]
    exact hbefore.resuming hwork
  · intro hcallback hwork
    rw [hsuspended, hirq]
    exact hbefore.still hcallback hwork
  · rw [hsuspended]
    exact hbefore.on
  · rw [hsuspended]
    exact hbefore.off

theorem Coherent.inside_suspend (hbefore : Coherent latest before)
    (hpc : before.system.suspend ≠ .idle) :
    before.callback = .suspending ∧ SuspendFlags before.system := by
  have hcallback : before.callback = .suspending := by
    by_contra hne
    exact hpc (hbefore.suspends hne)
  exact ⟨hcallback, hbefore.suspending hcallback⟩

theorem Coherent.suspend_goes_on (hbefore : Coherent latest before)
    (hcallback : before.callback = .suspending) {system : System}
    (hresume : system.resume = before.system.resume)
    (hloading : system.panel.fwLoading = before.system.panel.fwLoading)
    (hflags : SuspendFlags system) : Coherent latest { before with system } := by
  have hwork := hbefore.waited (.inr hcallback)
  refine ⟨?_, ?_, ?_, hbefore.cancelled, hbefore.waited, fun _ => hflags, ?_, ?_, ?_, ?_⟩
  · exact hloading.trans hbefore.notLoading
  · exact fun hne => absurd hcallback hne
  · exact fun hne => hresume.trans (hbefore.resumes hne)
  · intro hresuming
    cases hwork.symm.trans hresuming
  · exact fun hne => absurd hcallback hne
  · intro hlatest
    cases hcallback.symm.trans (hbefore.on hlatest).1
  · intro _ hidle
    cases hcallback.symm.trans hidle

theorem Coherent.resume_goes_on (hbefore : Coherent latest before)
    (hwork : before.work = .resuming) {system : System}
    (hsuspend : system.suspend = before.system.suspend)
    (hloading : system.panel.fwLoading = before.system.panel.fwLoading)
    (hflags : ResumeFlags system) : Coherent latest { before with system } := by
  have hcallback : before.callback ≠ .suspending := by
    intro hsuspending
    cases hwork.symm.trans (hbefore.waited (.inr hsuspending))
  refine ⟨?_, ?_, ?_, hbefore.cancelled, hbefore.waited, ?_, fun _ => hflags, ?_, ?_, ?_⟩
  · exact hloading.trans hbefore.notLoading
  · exact fun hne => hsuspend.trans (hbefore.suspends hne)
  · exact fun hne => absurd hwork hne
  · exact fun hsuspending => absurd hsuspending hcallback
  · exact fun _ hne => absurd hwork hne
  · intro hlatest
    refine ⟨(hbefore.on hlatest).1, fun _ hidle => ?_⟩
    cases hwork.symm.trans hidle
  · intro hlatest hidle
    cases hwork.symm.trans (hbefore.off hlatest hidle).2.1

theorem Coherent.inside_resume (hbefore : Coherent latest before)
    (hpc : before.system.resume ≠ .idle) :
    before.work = .resuming ∧ ResumeFlags before.system := by
  have hwork : before.work = .resuming := by
    by_contra hne
    exact hpc (hbefore.resumes hne)
  exact ⟨hwork, hbefore.resuming hwork⟩

theorem axsInputReportB_fwLoading (config : AxsConfig) (data : AxsTsData) :
    (axsInputReportB config data).fwLoading = data.fwLoading := by
  have hpasses : ∀ pass : ReportLoop → Nat → ReportLoop,
      (∀ loop i, (pass loop i).data.fwLoading = loop.data.fwLoading) →
      ∀ passes loop, (List.foldl pass loop passes).data.fwLoading = loop.data.fwLoading := by
    intro pass hpass passes
    induction passes with
    | nil => exact fun loop => rfl
    | cons i passes ih => exact fun loop => (ih (pass loop i)).trans (hpass loop i)
  have hmissed : ∀ loop i, (releaseMissed loop i).data.fwLoading = loop.data.fwLoading := by
    intro loop i
    rw [releaseMissed]
    split <;> rfl
  have hpoints := hpasses _ reportPoint_fwLoading (List.range data.touchPoint)
    { data, downPoints := 0, upPoints := 0, touchs := 0, vaReported := false }
  rw [axsInputReportB]
  dsimp only
  split_ifs
  · exact (hpasses _ hmissed _ _).trans hpoints
  · exact (hpasses _ hmissed _ _).trans hpoints
  · exact hpoints
  · exact hpoints

theorem Coherent.inner (hbefore : Coherent latest before) {action : Action} {system : System}
    (hinner : Inner action) (hstep : Suspend.Step config before.system action system) :
    Coherent latest { before with system } := by
  cases hstep with
  | interrupt hpc henabled | check hpc => exact hbefore.frame rfl rfl rfl rfl rfl
  | parse hpc hparse =>
      exact hbefore.frame rfl rfl rfl rfl (axsReadParseTouchdata_spec hparse).2.2.1
  | report hpc => exact hbefore.frame rfl rfl rfl rfl (axsInputReportB_fwLoading _ _)
  | suspendLoading hpc =>
      obtain ⟨hcallback, hflags⟩ := hbefore.inside_suspend (by rw [hpc]; exact nofun)
      rw [SuspendFlags, hpc] at hflags
      refine hbefore.suspend_goes_on hcallback rfl rfl ?_
      rw [hbefore.notLoading]
      exact hflags
  | suspendIrqOff hpc =>
      obtain ⟨hcallback, hflags⟩ := hbefore.inside_suspend (by rw [hpc]; exact nofun)
      rw [SuspendFlags, hpc] at hflags
      rw [axsIrqDisable_eq]
      exact hbefore.suspend_goes_on hcallback rfl rfl ⟨hflags.1, rfl⟩
  | suspendRelease hpc =>
      obtain ⟨hcallback, hflags⟩ := hbefore.inside_suspend (by rw [hpc]; exact nofun)
      rw [SuspendFlags, hpc] at hflags
      exact hbefore.suspend_goes_on hcallback rfl rfl hflags
  | suspendEnd hpc =>
      obtain ⟨hcallback, hflags⟩ := hbefore.inside_suspend (by rw [hpc]; exact nofun)
      rw [SuspendFlags, hpc] at hflags
      exact hbefore.suspend_goes_on hcallback rfl rfl ⟨rfl, hflags.2⟩
  | resumeRelease hpc =>
      obtain ⟨hwork, hflags⟩ := hbefore.inside_resume (by rw [hpc]; exact nofun)
      rw [ResumeFlags, hpc] at hflags
      exact hbefore.resume_goes_on hwork rfl rfl hflags
  | resumeIrqOn hpc =>
      obtain ⟨hwork, hflags⟩ := hbefore.inside_resume (by rw [hpc]; exact nofun)
      rw [ResumeFlags, hpc] at hflags
      rw [axsIrqEnable_eq]
      exact hbefore.resume_goes_on hwork rfl rfl ⟨hflags.1, rfl⟩
  | resumeEnd hpc =>
      obtain ⟨hwork, hflags⟩ := hbefore.inside_resume (by rw [hpc]; exact nofun)
      rw [ResumeFlags, hpc] at hflags
      exact hbefore.resume_goes_on hwork rfl rfl ⟨rfl, hflags.2⟩
  | suspendBegin _ | resumeBegin _ | fwupgBegin _ | fwupgIrqOff _ | fwupgReturn _ | fwupgSkip _
  | resetIrqOff _ | resetIrqOn _ | fwupgIrqOn _ | fwupgEnd _ => exact hinner.elim

/-! ### Events and returns -/

theorem Coherent.unblank (hbefore : Coherent latest before) (hidle : before.callback = .idle) :
    Coherent (some .unblank) { before with pending := true } := by
  refine ⟨hbefore.notLoading, hbefore.suspends, hbefore.resumes, ?_, hbefore.waited,
    hbefore.suspending, hbefore.resuming, hbefore.still, fun _ => ⟨hidle, nofun⟩, nofun⟩
  exact fun hne => absurd hidle hne

theorem Coherent.powerdown (hbefore : Coherent latest before) (hidle : before.callback = .idle) :
    Coherent (some .powerdown) { before with pending := false, callback := .flushing } := by
  have hcallback : before.callback ≠ .suspending := by
    rw [hidle]
    exact nofun
  refine ⟨hbefore.notLoading, fun _ => hbefore.suspends hcallback, hbefore.resumes, fun _ => rfl,
    ?_, nofun, hbefore.resuming, fun _ => hbefore.still hcallback, ?_, nofun⟩
  · rintro (hentering | hsuspending)
    · cases hentering
    · cases hsuspending
  · exact fun hnot => absurd rfl hnot

theorem Coherent.flushed (hbefore : Coherent latest before) (hpc : before.callback = .flushing)
    (hidle : before.work = .idle) : Coherent latest { before with callback := .entering } := by
  have hcallback : before.callback ≠ .suspending := by
    rw [hpc]
    exact nofun
  refine ⟨hbefore.notLoading, fun _ => hbefore.suspends hcallback, hbefore.resumes, fun _ => ?_,
    fun _ => hidle, nofun, hbefore.resuming, fun _ => hbefore.still hcallback, ?_, nofun⟩
  · refine hbefore.cancelled ?_
    rw [hpc]
    exact nofun
  · intro hlatest
    cases hpc.symm.trans (hbefore.on hlatest).1

theorem Coherent.suspend (hbefore : Coherent latest before) (hpc : before.callback = .entering)
    {system : System} (hstep : Suspend.Step config before.system .suspendBegin system) :
    Coherent latest { before with system, callback := .suspending } := by
  have hcallback : before.callback ≠ .suspending := by
    rw [hpc]
    exact nofun
  have hwork := hbefore.waited (.inl hpc)
  have hresting : before.work ≠ .resuming := by
    rw [hwork]
    exact nofun
  have hstill := hbefore.still hcallback hresting
  have hpending := hbefore.cancelled (by rw [hpc]; exact nofun)
  cases hstep with
  | suspendBegin _ =>
      refine ⟨hbefore.notLoading, fun hne => absurd rfl hne, hbefore.resumes, fun _ => hpending,
        fun _ => hwork, fun _ => ?_, fun hresuming => absurd hresuming hresting,
        fun hne => absurd rfl hne, ?_, nofun⟩
      · cases hasleep : before.system.panel.suspended with
        | true => exact ⟨hasleep, hstill.trans hasleep⟩
        | false => exact ⟨hasleep, hstill.trans hasleep⟩
      · intro hlatest
        cases hpc.symm.trans (hbefore.on hlatest).1

theorem Coherent.suspended (hbefore : Coherent latest before) (hpc : before.callback = .suspending)
    (hreturns : before.system.suspend = .idle) :
    Coherent latest { before with callback := .idle } := by
  have hflags := hbefore.suspending hpc
  rw [SuspendFlags, hreturns] at hflags
  have hwork := hbefore.waited (.inr hpc)
  have hpending := hbefore.cancelled (by rw [hpc]; exact nofun)
  refine ⟨hbefore.notLoading, fun _ => hreturns, hbefore.resumes, fun _ => hpending,
    fun _ => hwork, nofun, hbefore.resuming, fun _ _ => hflags.2.trans hflags.1.symm, ?_, ?_⟩
  · intro hlatest
    cases hpc.symm.trans (hbefore.on hlatest).1
  · exact fun _ _ => ⟨hpending, hwork, hflags.1⟩

theorem Coherent.start (hbefore : Coherent latest before) (hidle : before.work = .idle)
    (hpending : before.pending = true) :
    Coherent latest { before with pending := false, work := .entering } := by
  have hcallback : before.callback = .idle := by
    by_contra hne
    cases hpending.symm.trans (hbefore.cancelled hne)
  have hresting : before.work ≠ .resuming := by
    rw [hidle]
    exact nofun
  refine ⟨hbefore.notLoading, hbefore.suspends, fun _ => hbefore.resumes hresting, fun _ => rfl, ?_,
    hbefore.suspending, nofun, fun hne _ => hbefore.still hne hresting, ?_, ?_⟩
  · rintro (hentering | hsuspending)
    · cases hcallback.symm.trans hentering
    · cases hcallback.symm.trans hsuspending
  · exact fun _ => ⟨hcallback, fun _ => nofun⟩
  · intro hlatest _
    cases hpending.symm.trans (hbefore.off hlatest hcallback).1

/-- The callback is neither about to suspend nor suspending while the work is under way. -/
theorem Coherent.working (hbefore : Coherent latest before) (hpc : before.work ≠ .idle) :
    ¬ (before.callback = .entering ∨ before.callback = .suspending) :=
  fun hcallback => hpc (hbefore.waited hcallback)

theorem Coherent.resume (hbefore : Coherent latest before) (hpc : before.work = .entering)
    {system : System} (hstep : Suspend.Step config before.system .resumeBegin system) :
    Coherent latest { before with system, work := .resuming } := by
  have hworking := hbefore.working (by rw [hpc]; exact nofun)
  have hcallback : before.callback ≠ .suspending := fun hsuspending => hworking (.inr hsuspending)
  have hstill := hbefore.still hcallback (by rw [hpc]; exact nofun)
  cases hstep with
  | resumeBegin _ =>
      refine ⟨hbefore.notLoading, hbefore.suspends, fun hne => absurd rfl hne, hbefore.cancelled,
        fun hgiven => absurd hgiven hworking, fun hsuspending => absurd hsuspending hcallback,
        fun _ => ?_, fun _ hne => absurd rfl hne, ?_, ?_⟩
      · cases hasleep : before.system.panel.suspended with
        | true => exact ⟨hasleep, hstill.trans hasleep⟩
        | false => exact ⟨hasleep, hstill.trans hasleep⟩
      · exact fun hlatest => ⟨(hbefore.on hlatest).1, fun _ => nofun⟩
      · intro hlatest hidle
        cases hpc.symm.trans (hbefore.off hlatest hidle).2.1

theorem Coherent.resumed (hbefore : Coherent latest before) (hpc : before.work = .resuming)
    (hreturns : before.system.resume = .idle) : Coherent latest { before with work := .idle } := by
  have hflags := hbefore.resuming hpc
  rw [ResumeFlags, hreturns] at hflags
  refine ⟨hbefore.notLoading, hbefore.suspends, fun _ => hreturns, hbefore.cancelled, fun _ => rfl,
    hbefore.suspending, nofun, fun _ _ => hflags.2.trans hflags.1.symm, ?_, ?_⟩
  · exact fun hlatest => ⟨(hbefore.on hlatest).1, fun _ _ => hflags.1⟩
  · intro hlatest hidle
    cases hpc.symm.trans (hbefore.off hlatest hidle).2.1

/-! ### Whole runs -/

theorem Coherent.step {actions : List BlankAction} {action : BlankAction}
    (hbefore : Coherent (latestBlank actions) before)
    (hstep : Display.Step config before action after) :
    Coherent (latestBlank (actions ++ [action])) after := by
  cases hstep with
  | unblank hidle =>
      rw [latestBlank_unblank]
      exact hbefore.unblank hidle
  | powerdown hidle =>
      rw [latestBlank_powerdown]
      exact hbefore.powerdown hidle
  | ignored hidle hunblank hpowerdown =>
      rwa [latestBlank_other]
      · exact fun hsame => hunblank (BlankAction.event.inj hsame)
      · exact fun hsame => hpowerdown (BlankAction.event.inj hsame)
  | flushed hpc hidle =>
      rw [@latestBlank_other actions .flushed nofun nofun]
      exact hbefore.flushed hpc hidle
  | suspend hpc hstep =>
      rw [@latestBlank_other actions .suspend nofun nofun]
      exact hbefore.suspend hpc hstep
  | suspended hpc hreturns =>
      rw [@latestBlank_other actions .suspended nofun nofun]
      exact hbefore.suspended hpc hreturns
  | start hidle hpending =>
      rw [@latestBlank_other actions .start nofun nofun]
      exact hbefore.start hidle hpending
  | resume hpc hstep =>
      rw [@latestBlank_other actions .resume nofun nofun]
      exact hbefore.resume hpc hstep
  | resumed hpc hreturns =>
      rw [@latestBlank_other actions .resumed nofun nofun]
      exact hbefore.resumed hpc hreturns
  | inner hinner hstep =>
      rw [@latestBlank_other actions (.inner _) nofun nofun]
      exact hbefore.inner hinner hstep

/-- Whenever no callback runs and the work is neither pending nor running, the panel is suspended if and only if the latest unblank or power-down was a power-down, and its interrupt is off if and only if it is suspended. -/
theorem last_blank_decides {actions : List BlankAction} {d : Display}
    (hrun : Run (Display.Step config) .initial actions d) (hcallback : d.callback = .idle)
    (hwork : d.work = .idle) (hpending : d.pending = false) :
    (d.system.panel.suspended = true ↔ latestBlank actions = some .powerdown) ∧
      d.system.panel.irqDisabled = d.system.panel.suspended := by
  have hcoherent : Coherent (latestBlank actions) d :=
    hrun.history_invariant (fun actions d => Coherent (latestBlank actions) d)
      (fun _ _ _ _ hbefore hstep => hbefore.step hstep) .initial
  refine ⟨⟨fun hsuspended => ?_, fun hlatest => (hcoherent.off hlatest hcallback).2.2⟩, ?_⟩
  · by_contra hnot
    cases hsuspended.symm.trans ((hcoherent.on hnot).2 hpending hwork)
  · refine hcoherent.still ?_ ?_
    · rw [hcallback]
      exact nofun
    · rw [hwork]
      exact nofun

/-- The display is powered down, and the callback has returned. -/
theorem last_blank_decides_powerdown : ∃ d : Display,
    Run (Display.Step .shipped) .initial
      [.event (.blank .powerdown), .flushed, .suspend, .inner .suspendLoading,
        .inner .suspendIrqOff, .inner .suspendRelease, .inner .suspendEnd, .suspended] d ∧
    d.system.panel.suspended = true ∧ d.system.panel.irqDisabled = true := by
  have hrun : ∃ d : Display, Run (Display.Step .shipped) .initial
      [.event (.blank .powerdown), .flushed, .suspend, .inner .suspendLoading,
        .inner .suspendIrqOff, .inner .suspendRelease, .inner .suspendEnd, .suspended] d ∧
      d.callback = .idle ∧ d.work = .idle ∧ d.pending = false :=
    ⟨_, .cons (.powerdown rfl) <| .cons (.flushed rfl rfl) <|
      .cons (.suspend rfl (.suspendBegin rfl)) <| .cons (.inner trivial (.suspendLoading rfl)) <|
      .cons (.inner trivial (.suspendIrqOff rfl)) <| .cons (.inner trivial (.suspendRelease rfl)) <|
      .cons (.inner trivial (.suspendEnd rfl)) <| .single (.suspended rfl rfl), rfl, rfl, rfl⟩
  obtain ⟨d, hrun, hcallback, hwork, hpending⟩ := hrun
  obtain ⟨hsuspended, hirq⟩ := last_blank_decides hrun hcallback hwork hpending
  have hsuspended := hsuspended.mpr rfl
  exact ⟨d, hrun, hsuspended, hirq.trans hsuspended⟩

end FrontPanel.Touch.Blank
