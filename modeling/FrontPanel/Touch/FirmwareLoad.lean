import FrontPanel.Touch.Report
import Mathlib.Tactic.Common

/-!
# Loading firmware from sysfs

`axs_debug_fwupg` of `axs_upgrade.c` and `axs_debug_download_app` of `axs_download.c`, which are the same function up to the routine they hand the firmware to. Both mark the panel as loading, switch its interrupt off, read the firmware into a buffer of their own, and are to undo all three on their way out. What `request_firmware`, the allocations and the transfers answer is an `Outcome`; the transfers themselves change nothing here, except that `axs_reset_and_lcd_init` switches the interrupt off and on once more.

Each of the two files has its own static `fwupgrade`; a `Loader` holds that of the file it is about. `g_axs_data` is set, since without it there is no panel to speak of, and `fwupgrade->func` is set by the function that allocates `fwupgrade`.
-/

namespace FrontPanel.Touch.FirmwareLoad

/-! ### The load -/

/-- `struct axs_upgrade`; `fw` is `none` for NULL. -/
structure AxsUpgrade where
  fw : Option (List UInt8)
  fwLength : Nat

structure Loader where
  panel : Panel
  /-- `g_axs_data->ts_workqueue` is set -/
  workqueue : Bool
  fwupgrade : Option AxsUpgrade
  /-- the firmware buffers allocated and not freed -/
  buffers : Nat

/-- What the kernel and the controller answer. -/
structure Outcome where
  kzalloc : Bool
  requestFirmware : Int
  /-- the content of `fw`, `none` for NULL -/
  firmware : Option (List UInt8)
  vmalloc : Bool
  /-- `selectFlash` or `selectPram`, at each attempt -/
  select : Nat → Bool
  /-- `upg->func->upgrade`, at each attempt -/
  upgrade : Nat → Bool

def axsMaxFwLen : Int := 128 * 1024

/-- `(int)fw->size` -/
def intSize (data : List UInt8) : Int := (BitVec.ofNat 32 data.length).toInt

/-- The loop runs once. -/
def axsFwupgUpgrade (outcome : Outcome) (panel : Panel) : Panel × Bool :=
  if !outcome.select 0 then (panel, false)
  else (axsResetAndLcdInit panel, outcome.upgrade 0)

/-- The loop runs at most twice. -/
def axsDownloadApp (outcome : Outcome) (panel : Panel) : Panel × Bool :=
  if !outcome.select 0 then (panel, false)
  else if outcome.upgrade 0 then (panel, true)
  else if !outcome.select 1 then (panel, false)
  else (panel, outcome.upgrade 1)

/-- `fwupgrade`, allocated if there is none yet. -/
def getUpgrade (outcome : Outcome) (loader : Loader) : Option AxsUpgrade :=
  match loader.fwupgrade with
  | some upg => some upg
  | none => if outcome.kzalloc then some { fw := none, fwLength := 0 } else none

/-- From `if (fw)` on: the loader and `ret`. Without memory `fw` is set to NULL and then read, and nothing returns: `none`. -/
def readFirmware (outcome : Outcome) (loader : Loader) (upg : AxsUpgrade) :
    Option (Loader × AxsUpgrade × Int) :=
  match outcome.firmware with
  | none => some (loader, upg, 0)
  | some data =>
      if outcome.vmalloc then
        some ({ loader with buffers := loader.buffers + 1 },
          { fw := some data, fwLength := data.length % 2 ^ 32 }, intSize data)
      else none

/-- `err`: the buffer is freed, if there is one. -/
def freeFirmware (loader : Loader) (upg : AxsUpgrade) : Loader :=
  match upg.fw with
  | none => { loader with fwupgrade := some upg }
  | some _ =>
      { loader with
        fwupgrade := some { fw := none, fwLength := 0 }
        buffers := loader.buffers - 1 }

/-- Both functions, with `run` what the firmware is handed to. -/
def debugLoad (run : Outcome → Panel → Panel × Bool) (outcome : Outcome) (loader : Loader) :
    Option Loader :=
  if !loader.workqueue then some loader
  else
    match getUpgrade outcome loader with
    | none => some loader
    | some upg =>
        let loader := { loader with
          panel := axsIrqDisable { loader.panel with fwLoading := true } }
        let upg := { upg with fw := none }
        if outcome.requestFirmware ≠ 0 then some { loader with fwupgrade := some upg }
        else
          match readFirmware outcome loader upg with
          | none => none
          | some (loader, upg, ret) =>
              if ret < 0 then some { loader with fwupgrade := some upg }
              else
                let loader :=
                  if ret < 0 ∨ axsMaxFwLen < ret ∨ upg.fwLength < 1024 then loader
                  else { loader with panel := (run outcome loader.panel).1 }
                let loader := freeFirmware loader upg
                some { loader with
                  panel := { axsIrqEnable loader.panel with fwLoading := false } }

def axsDebugFwupg : Outcome → Loader → Option Loader := debugLoad axsFwupgUpgrade

def axsDebugDownloadApp : Outcome → Loader → Option Loader := debugLoad axsDownloadApp

/-! ### The exits -/

/-- The load is given up before anything is touched. -/
def Refused (before : Loader) (outcome : Outcome) : Prop :=
  before.workqueue = false ∨ (before.fwupgrade = none ∧ outcome.kzalloc = false)

/-- There is firmware and no memory for it. -/
def NoMemory (outcome : Outcome) : Prop :=
  outcome.requestFirmware = 0 ∧ outcome.firmware ≠ none ∧ outcome.vmalloc = false

/-- The firmware is found, and its size is not negative as an `int`. -/
def Readable (outcome : Outcome) : Prop :=
  outcome.requestFirmware = 0 ∧ ∀ data, outcome.firmware = some data → 0 ≤ intSize data

/-- What a load that returns leaves as it found it. -/
structure GivenBack (before after : Loader) : Prop where
  fwLoading : after.panel.fwLoading = false
  irqDisabled : after.panel.irqDisabled = before.panel.irqDisabled
  fw : ∀ upg, after.fwupgrade = some upg → upg.fw = none
  buffers : after.buffers = before.buffers

/-- A routine that does nothing to the panel but switch its interrupt. -/
def OnlyIrq (run : Outcome → Panel → Panel × Bool) : Prop :=
  ∀ outcome panel, ∃ irqDisabled, (run outcome panel).1 = { panel with irqDisabled }

theorem axsFwupgUpgrade_onlyIrq : OnlyIrq axsFwupgUpgrade := by
  intro outcome panel
  rw [axsFwupgUpgrade]
  split
  · exact ⟨panel.irqDisabled, rfl⟩
  · exact ⟨false, by simp [axsResetAndLcdInit]⟩

theorem axsDownloadApp_onlyIrq : OnlyIrq axsDownloadApp := by
  intro outcome panel
  refine ⟨panel.irqDisabled, ?_⟩
  rw [axsDownloadApp]
  split
  · rfl
  · split
    · rfl
    · split <;> rfl

section Exits

variable {run : Outcome → Panel → Panel × Bool} {before after : Loader} {outcome : Outcome}

theorem getUpgrade_eq_none : getUpgrade outcome before = none ↔
    before.fwupgrade = none ∧ outcome.kzalloc = false := by
  rw [getUpgrade]
  cases before.fwupgrade with
  | none => cases outcome.kzalloc <;> simp
  | some upg => simp

theorem debugLoad_refused (hrefused : Refused before outcome) :
    debugLoad run outcome before = some before := by
  rw [debugLoad]
  rcases hrefused with hqueue | hnone
  · rw [hqueue]
    rfl
  · cases hqueue : before.workqueue with
    | false => rfl
    | true =>
        rw [getUpgrade_eq_none.mpr hnone]
        rfl

theorem freeFirmware_fw {upg upg' : AxsUpgrade}
    (hupg : (freeFirmware before upg).fwupgrade = some upg') : upg'.fw = none := by
  rw [freeFirmware] at hupg
  cases hfw : upg.fw with
  | none =>
      rw [hfw] at hupg
      exact Option.some.inj hupg ▸ hfw
  | some data =>
      rw [hfw] at hupg
      exact Option.some.inj hupg ▸ rfl

theorem freeFirmware_buffers (upg : AxsUpgrade) : (freeFirmware before upg).buffers =
    before.buffers - if upg.fw.isSome then 1 else 0 := by
  rw [freeFirmware]
  cases upg.fw <;> rfl

theorem freeFirmware_panel (upg : AxsUpgrade) : (freeFirmware before upg).panel = before.panel := by
  rw [freeFirmware]
  cases upg.fw <;> rfl

theorem buffers_ite {condition : Prop} [Decidable condition] {panel : Panel} :
    (if condition then before else { before with panel }).buffers = before.buffers := by
  split <;> rfl

theorem panel_ite (hrun : OnlyIrq run) {condition : Prop} [Decidable condition] :
    ∃ irqDisabled, (if condition then before
      else { before with panel := (run outcome before.panel).1 }).panel =
        { before.panel with irqDisabled } := by
  split
  · exact ⟨before.panel.irqDisabled, rfl⟩
  · exact hrun outcome before.panel

theorem finish_panel {start : Panel} {upg : AxsUpgrade}
    (hpanel : ∃ irqDisabled, before.panel = { start with fwLoading := true, irqDisabled }) :
    ({ (freeFirmware before upg).panel with irqDisabled := false, fwLoading := false } : Panel) =
      { start with fwLoading := false, irqDisabled := false } := by
  obtain ⟨irqDisabled, hpanel⟩ := hpanel
  rw [freeFirmware_panel, hpanel]

/-- The three ways out of a load that was not refused. -/
theorem debugLoad_exits (hrun : OnlyIrq run) (hproceeds : ¬ Refused before outcome) :
    (NoMemory outcome ∧ debugLoad run outcome before = none) ∨
    (¬ NoMemory outcome ∧ ¬ Readable outcome ∧ ∃ after, debugLoad run outcome before = some after ∧
      after.panel = { before.panel with fwLoading := true, irqDisabled := true }) ∨
    (¬ NoMemory outcome ∧ Readable outcome ∧ ∃ after, debugLoad run outcome before = some after ∧
      after.panel = { before.panel with fwLoading := false, irqDisabled := false } ∧
      (∀ upg, after.fwupgrade = some upg → upg.fw = none) ∧ after.buffers = before.buffers) := by
  obtain ⟨hqueue, hsome⟩ := not_or.mp hproceeds
  rw [Bool.not_eq_false] at hqueue
  obtain ⟨upg, hupg⟩ := Option.ne_none_iff_exists'.mp (mt getUpgrade_eq_none.mp hsome)
  simp only [debugLoad, hqueue, hupg, axsIrqDisable_eq, axsIrqEnable_eq]
  by_cases hrequest : outcome.requestFirmware = 0
  · rw [if_neg (not_not.mpr hrequest)]
    rw [readFirmware]
    cases hfirmware : outcome.firmware with
    | none =>
        refine .inr (.inr ⟨?_, ⟨hrequest, by simp [hfirmware]⟩, _, rfl, ?_, ?_, ?_⟩)
        · exact fun hmemory => hmemory.2.1 hfirmware
        · exact finish_panel (panel_ite hrun)
        · exact fun upg hupg => freeFirmware_fw hupg
        · exact (freeFirmware_buffers _).trans buffers_ite
    | some data =>
        cases hmemory : outcome.vmalloc with
        | false => exact .inl ⟨⟨hrequest, by simp [hfirmware], hmemory⟩, rfl⟩
        | true =>
            have hallocated : ¬ NoMemory outcome := by simp [NoMemory, hmemory]
            by_cases hsize : intSize data < 0
            · refine .inr (.inl ⟨hallocated, fun hreadable => ?_, _, if_pos hsize, rfl⟩)
              have hpositive := hreadable.2 data hfirmware
              omega
            · refine .inr (.inr ⟨hallocated, ⟨hrequest, ?_⟩, _, if_neg hsize, ?_, ?_, ?_⟩)
              · intro data' hdata
                obtain rfl := Option.some.inj (hfirmware.symm.trans hdata)
                omega
              · exact finish_panel (panel_ite hrun)
              · exact fun upg hupg => freeFirmware_fw hupg
              · exact (freeFirmware_buffers _).trans (by rw [buffers_ite]; rfl)
  · refine .inr (.inl ⟨fun hmemory => hrequest hmemory.1, fun hreadable => hrequest hreadable.1, ?_⟩)
    exact ⟨_, if_pos hrequest, rfl⟩

end Exits

/-! ### What is given back -/

/-- A load returns unless there is firmware and no memory for it. One that returns gives the panel back exactly if it was refused with no firmware left over, or found the interrupt on and firmware it could read. -/
theorem firmwareLoad_gives_back {load : Outcome → Loader → Option Loader}
    (hload : load = axsDebugFwupg ∨ load = axsDebugDownloadApp) {before : Loader}
    (hloading : before.panel.fwLoading = false) (outcome : Outcome) :
    (load outcome before = none ↔ ¬ Refused before outcome ∧ NoMemory outcome) ∧
    ∀ after, load outcome before = some after → (GivenBack before after ↔
      (Refused before outcome ∧ ∀ upg, before.fwupgrade = some upg → upg.fw = none) ∨
      (¬ Refused before outcome ∧ before.panel.irqDisabled = false ∧ Readable outcome)) := by
  obtain ⟨run, hrun, rfl⟩ : ∃ run, OnlyIrq run ∧ load = debugLoad run := by
    rcases hload with rfl | rfl
    · exact ⟨_, axsFwupgUpgrade_onlyIrq, rfl⟩
    · exact ⟨_, axsDownloadApp_onlyIrq, rfl⟩
  by_cases hrefused : Refused before outcome
  · rw [debugLoad_refused hrefused]
    refine ⟨by simp [hrefused], fun after hafter => ?_⟩
    obtain rfl := Option.some.inj hafter
    constructor
    · exact fun hback => .inl ⟨hrefused, hback.fw⟩
    · intro hcase
      rcases hcase with ⟨-, hfw⟩ | ⟨hproceeds, -⟩
      · exact ⟨hloading, rfl, hfw, rfl⟩
      · exact absurd hrefused hproceeds
  · obtain ⟨hmemory, hexit⟩ | ⟨hmemory, hreadable, last, hexit, hpanel⟩ |
        ⟨hmemory, hreadable, last, hexit, hpanel, hfw, hbuffers⟩ :=
      debugLoad_exits hrun hrefused
    · rw [hexit]
      exact ⟨iff_of_true rfl ⟨hrefused, hmemory⟩, fun after hafter => by cases hafter⟩
    · -- the two early returns: the panel is left as loading
      rw [hexit]
      refine ⟨by simp [hmemory], fun after hafter => ?_⟩
      obtain rfl := Option.some.inj hafter
      refine iff_of_false (fun hback => ?_) (by simp [hrefused, hreadable])
      have hleft := hback.fwLoading
      rw [hpanel] at hleft
      cases hleft
    · rw [hexit]
      refine ⟨by simp [hmemory], fun after hafter => ?_⟩
      obtain rfl := Option.some.inj hafter
      constructor
      · intro hback
        have hirq := hback.irqDisabled
        rw [hpanel] at hirq
        exact .inr ⟨hrefused, hirq.symm, hreadable⟩
      · intro hcase
        rcases hcase with ⟨hrefused', -⟩ | ⟨-, hbefore, -⟩
        · exact absurd hrefused' hrefused
        · exact ⟨by rw [hpanel], by rw [hpanel, hbefore], hfw, hbuffers⟩

/-- No load yet. -/
def Loader.initial : Loader where
  panel := .initial
  workqueue := true
  fwupgrade := none
  buffers := 0

/-- A file of 1024 bytes, and nothing fails. -/
def Outcome.success : Outcome where
  kzalloc := true
  requestFirmware := 0
  firmware := some (List.replicate 1024 0x00)
  vmalloc := true
  select := fun _ => true
  upgrade := fun _ => true

theorem firmwareLoad_gives_back_success : ∃ after,
    axsDebugFwupg .success .initial = some after ∧ GivenBack .initial after := by
  have hproceeds : ¬ Refused .initial .success := by
    intro hcase
    rcases hcase with hqueue | ⟨-, hnone⟩
    · cases hqueue
    · cases hnone
  have hmemory : ¬ NoMemory .success := by
    intro hgiven
    obtain ⟨-, -, hnone⟩ := hgiven
    cases hnone
  have hreadable : Readable .success := by
    refine ⟨rfl, fun data hdata => ?_⟩
    obtain rfl := Option.some.inj hdata
    rw [intSize, List.length_replicate]
    decide
  obtain ⟨hreturns, hback⟩ := firmwareLoad_gives_back (.inl rfl) (show Loader.initial.panel.fwLoading =
    false from rfl) .success
  obtain ⟨after, hafter⟩ := Option.ne_none_iff_exists'.mp fun hnone => hmemory (hreturns.mp hnone).2
  exact ⟨after, hafter, (hback after hafter).mpr (.inr ⟨hproceeds, rfl, hreadable⟩)⟩

/-- `-ENOENT`: there is no such file. -/
def Outcome.noFile : Outcome := { Outcome.success with requestFirmware := -2, firmware := none }

/-- Without the file the panel stays marked as loading and its interrupt stays off. -/
theorem firmwareLoad_keeps : ¬ ∀ load : Outcome → Loader → Option Loader,
    (load = axsDebugFwupg ∨ load = axsDebugDownloadApp) → ∀ before outcome,
      before.panel.fwLoading = false → ∀ after, load outcome before = some after →
        GivenBack before after := by
  intro halways
  obtain ⟨after, hafter, hloading⟩ : ∃ after, axsDebugFwupg .noFile .initial = some after ∧
      after.panel.fwLoading = true := ⟨_, rfl, rfl⟩
  have hback := halways _ (.inl rfl) .initial .noFile rfl after hafter
  rw [hback.fwLoading] at hloading
  cases hloading

end FrontPanel.Touch.FirmwareLoad
