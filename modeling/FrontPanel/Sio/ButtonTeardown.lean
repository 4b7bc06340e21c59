import FrontPanel.Lib.Run
import FrontPanel.Sio.Button

/-!
# The poll and its device

`ug_gpiokey_probe`, `ug_gpiokey_remove` and `btn_monitor` side by side. The timer of the poll runs the handler on its own, the handler sets the timer again as its last step, and a step of the system is one step of the driver or one of the handler: a test of `base`, a read of the register, a report, `mod_timer`. `del_timer` takes a pending timer away and does not wait for a handler that runs.

The probe sets the timer before there is an input device, and leaves it set when it fails. The remove unmaps the registers first and deletes the timer after that. So the poll stays within the life of its device only where the two do not get in each other's way, and `Allows` says where.

On a DXP2800 GT `hwinit` also reads and writes each register it has mapped, through a null pointer where the mapping has failed. No poll is set by then, and the accesses are left to `ButtonBoards.hwinit`.
-/

namespace FrontPanel.Sio.GpioKey

/-! ### The steps -/

inductive HandlerPc
  | idle
  | testing (i : Fin 2)
  /-- `base` was found set -/
  | reading (i : Fin 2)
  /-- the level asks for these reports -/
  | reporting (i : Fin 2) (reports : List KeyReport)
  | rearming
  deriving DecidableEq

/-- The next button, or the end of the loop. -/
def HandlerPc.after (i : Fin 2) : HandlerPc :=
  if hnext : i.val + 1 < 2 then .testing ⟨i.val + 1, hnext⟩ else .rearming

inductive DriverPc
  | unbound
  | mapped
  | armed
  | allocated
  /-- the probe returned an error -/
  | failed
  | bound
  | unmapping (i : Fin 2)
  /-- after `iounmap`, with `base` still set -/
  | clearing (i : Fin 2)
  | deleting
  | unregistering
  | freeing
  | removed
  deriving DecidableEq

def DriverPc.afterUnmap (i : Fin 2) : DriverPc :=
  if hnext : i.val + 1 < 2 then .unmapping ⟨i.val + 1, hnext⟩ else .deleting

/-- The device `ug_key` points to. -/
inductive UgKey
  | none
  | live
  | freed
  deriving DecidableEq

structure System where
  btnSatate : Fin 2 → BtnInfo
  /-- The mappings there are, whatever `base` is. -/
  ioremapped : Fin 2 → Bool
  pending : Bool
  handler : HandlerPc
  driver : DriverPc
  ugKey : UgKey

/-- What `btn_monitor` does with a register it has read. -/
def btnRead (product : String) (btn : BtnInfo) (reg : BitVec 32) : BtnInfo × List KeyReport :=
  let val := btnLevel btn reg
  let (btn, reports) :=
    if val = btn.active then btnHeld product btn else btnFree btn val
  ({ btn with prestate := val }, reports)

theorem btnPass_eq (product : String) (btn : BtnInfo) (reg : BitVec 32) :
    btnPass product btn reg = if btn.base then btnRead product btn reg else (btn, []) := rfl

inductive Action
  /-- `ioremap` of each button may fail. -/
  | hwinit (ioremapped : Fin 2 → Bool)
  | addTimer
  | allocate (ok : Bool)
  | register (ok : Bool)
  /-- what was allocated for the device goes when its probe has failed -/
  | devresRelease
  | remove
  | unmap (i : Fin 2)
  | clearBase (i : Fin 2)
  | delTimer
  | unregister
  | free
  | fire
  | testBase (i : Fin 2)
  | readReg (i : Fin 2) (reg : BitVec 32)
  | report (i : Fin 2)
  | modTimer

inductive Step (product : String) : System → Action → System → Prop
  | hwinit {state : System} (ioremapped : Fin 2 → Bool) (hpc : state.driver = .unbound) :
      Step product state (.hwinit ioremapped)
        { state with
          btnSatate := fun i => { state.btnSatate i with base := ioremapped i }
          ioremapped
          driver := .mapped }
  | addTimer {state : System} (hpc : state.driver = .mapped) :
      Step product state .addTimer { state with pending := true, driver := .armed }
  | allocate {state : System} (ok : Bool) (hpc : state.driver = .armed) :
      Step product state (.allocate ok)
        { state with
          ugKey := if ok then .live else .none
          driver := if ok then .allocated else .failed }
  | register {state : System} (ok : Bool) (hpc : state.driver = .allocated) :
      Step product state (.register ok)
        { state with driver := if ok then .bound else .failed }
  | devresRelease {state : System} (hpc : state.driver = .failed) (hkey : state.ugKey = .live) :
      Step product state .devresRelease { state with ugKey := .freed }
  | remove {state : System} (hpc : state.driver = .bound) :
      Step product state .remove { state with driver := .unmapping 0 }
  | unmap {state : System} (i : Fin 2) (hpc : state.driver = .unmapping i)
      (hbase : (state.btnSatate i).base = true) :
      Step product state (.unmap i)
        { state with
          ioremapped := Function.update state.ioremapped i false
          driver := .clearing i }
  | unmapNone {state : System} (i : Fin 2) (hpc : state.driver = .unmapping i)
      (hbase : (state.btnSatate i).base = false) :
      Step product state (.unmap i) { state with driver := .afterUnmap i }
  | clearBase {state : System} (i : Fin 2) (hpc : state.driver = .clearing i) :
      Step product state (.clearBase i)
        { state with
          btnSatate := Function.update state.btnSatate i { state.btnSatate i with base := false }
          driver := .afterUnmap i }
  | delTimer {state : System} (hpc : state.driver = .deleting) :
      Step product state .delTimer { state with pending := false, driver := .unregistering }
  | unregister {state : System} (hpc : state.driver = .unregistering) :
      Step product state .unregister { state with driver := .freeing }
  | free {state : System} (hpc : state.driver = .freeing) :
      Step product state .free { state with ugKey := .freed, driver := .removed }
  | fire {state : System} (hpending : state.pending = true) (hpc : state.handler = .idle) :
      Step product state .fire { state with pending := false, handler := .testing 0 }
  | testBase {state : System} (i : Fin 2) (hpc : state.handler = .testing i) :
      Step product state (.testBase i)
        { state with
          handler := if (state.btnSatate i).base then .reading i else .after i }
  | readReg {state : System} (i : Fin 2) (reg : BitVec 32) (hpc : state.handler = .reading i) :
      Step product state (.readReg i reg)
        { state with
          btnSatate := Function.update state.btnSatate i
            (btnRead product (state.btnSatate i) reg).1
          handler :=
            if (btnRead product (state.btnSatate i) reg).2 = [] then .after i
            else .reporting i (btnRead product (state.btnSatate i) reg).2 }
  | report {state : System} (i : Fin 2) (reports : List KeyReport)
      (hpc : state.handler = .reporting i reports) :
      Step product state (.report i) { state with handler := .after i }
  | modTimer {state : System} (hpc : state.handler = .rearming) :
      Step product state .modTimer { state with pending := true, handler := .idle }

/-- The module is loaded, and `my_dmi_callback` has set up the buttons. -/
def System.initial (btnSatate : Fin 2 → BtnInfo) : System where
  btnSatate i := { btnSatate i with base := false }
  ioremapped _ := false
  pending := false
  handler := .idle
  driver := .unbound
  ugKey := .none

/-! ### What the poll may not do -/

/-- A step does not read a register that is not mapped, and does not report on a device that is not there. -/
def System.Safe (state : System) : Action → Prop
  | .readReg i _ => state.ioremapped i = true
  | .report _ => state.ugKey = .live
  | _ => True

/-- After a probe that failed and after a remove the timer is not pending, and no handler runs that would set it again. -/
def System.Stopped (state : System) : Prop :=
  state.driver = .failed ∨ state.driver = .removed →
    state.pending = false ∧ state.handler = .idle

/-- Where the driver and the poll keep out of each other's way. -/
def System.Allows (product : String) (state : System) : Action → Prop
  | .allocate ok => ok = true
  | .register ok => ok = true
  -- there is no device to report on yet
  | .readReg i reg => state.driver = .armed → (btnRead product (state.btnSatate i) reg).2 = []
  | .testBase i => state.driver ≠ .clearing i
  | .unmap i => state.handler ≠ .reading i
  | .delTimer => state.handler = .idle
  | _ => True

/-! ### What the steps keep -/

/-- `add_timer` was called, and `del_timer` was not. -/
def DriverPc.timed : DriverPc → Bool
  | .armed | .allocated | .failed | .bound | .unmapping _ | .clearing _ | .deleting => true
  | .unbound | .mapped | .unregistering | .freeing | .removed => false

def DriverPc.hasDevice : DriverPc → Bool
  | .allocated | .bound | .unmapping _ | .clearing _ | .deleting | .unregistering | .freeing => true
  | .unbound | .mapped | .armed | .failed | .removed => false

theorem DriverPc.hasDevice_of_timed {driver : DriverPc} (htimed : driver.timed = true)
    (harmed : driver ≠ .armed) (halive : driver ≠ .failed) : driver.hasDevice = true := by
  cases driver with
  | armed => exact absurd rfl harmed
  | failed => exact absurd rfl halive
  | unbound | mapped | unregistering | freeing | removed => cases htimed
  | allocated | bound | unmapping | clearing | deleting => rfl

@[simp] theorem DriverPc.afterUnmap_timed (i : Fin 2) : (afterUnmap i).timed = true := by
  rw [afterUnmap]
  split <;> rfl

@[simp] theorem DriverPc.afterUnmap_hasDevice (i : Fin 2) : (afterUnmap i).hasDevice = true := by
  rw [afterUnmap]
  split <;> rfl

theorem DriverPc.afterUnmap_ne_clearing (i j : Fin 2) : afterUnmap i ≠ .clearing j := by
  rw [afterUnmap]
  split <;> exact DriverPc.noConfusion

theorem DriverPc.afterUnmap_ne_failed (i : Fin 2) : afterUnmap i ≠ .failed := by
  rw [afterUnmap]
  split <;> exact DriverPc.noConfusion

theorem HandlerPc.after_ne_idle (i : Fin 2) : after i ≠ .idle := by
  rw [after]
  split <;> exact HandlerPc.noConfusion

theorem HandlerPc.after_ne_reading (i j : Fin 2) : after i ≠ .reading j := by
  rw [after]
  split <;> exact HandlerPc.noConfusion

theorem HandlerPc.after_ne_reporting (i j : Fin 2) (reports : List KeyReport) :
    after i ≠ .reporting j reports := by
  rw [after]
  split <;> exact HandlerPc.noConfusion

theorem btnRead_base (product : String) (btn : BtnInfo) (reg : BitVec 32) :
    (btnRead product btn reg).1.base = btn.base := by
  rw [btnRead]
  dsimp only
  split
  · obtain ⟨seen, prestate, lastReport, hbutton⟩ := (btnHeld_accounts product btn).button
    rw [hbutton]
  · obtain ⟨seen, prestate, lastReport, hbutton⟩ := (btnFree_accounts btn (btnLevel btn reg)).button
    rw [hbutton]

/-- The poll goes on from the moment the timer is set to the moment it is deleted, and no longer. -/
structure System.Timed (state : System) : Prop where
  alive : state.driver ≠ .failed
  timed : state.driver.timed = true ↔ state.pending = true ∨ state.handler ≠ .idle

/-- A `base` that is set is mapped, but for the button that is being unmapped; and the handler that has found one set will find the register there. -/
structure System.Mapped (state : System) : Prop where
  based : ∀ i, (state.btnSatate i).base = true →
    state.ioremapped i = true ∨ state.driver = .clearing i
  clearing : ∀ i, state.driver = .clearing i →
    (state.btnSatate i).base = true ∧ state.ioremapped i = false
  reading : ∀ i, state.handler = .reading i →
    (state.btnSatate i).base = true ∧ state.ioremapped i = true

structure System.HasDevice (state : System) : Prop where
  device : state.driver.hasDevice = true ↔ state.ugKey = .live
  reporting : ∀ i reports, state.handler = .reporting i reports → state.ugKey = .live

structure System.Sound (state : System) : Prop extends state.Timed, state.Mapped, state.HasDevice

section Steps

variable {product : String} {before after : System} {action : Action} {pc : DriverPc}

theorem System.Timed.idle {state : System} (htimed : state.Timed)
    (hoff : state.driver.timed = false) : state.pending = false ∧ state.handler = .idle := by
  have hnone : ¬ (state.pending = true ∨ state.handler ≠ .idle) := by
    intro hrunning
    rw [htimed.timed.mpr hrunning] at hoff
    cases hoff
  obtain ⟨hpending, hhandler⟩ := not_or.mp hnone
  exact ⟨Bool.not_eq_true _ ▸ hpending, not_not.mp hhandler⟩

theorem System.Timed.driver_step (htimed : before.Timed) (hpc : before.driver = pc)
    (hpending : after.pending = before.pending) (hhandler : after.handler = before.handler)
    (hsame : after.driver.timed = pc.timed) (halive : after.driver ≠ .failed) : after.Timed := by
  refine ⟨halive, ?_⟩
  rw [hsame, ← hpc, hpending, hhandler]
  exact htimed.timed

theorem System.Timed.handler_step (htimed : before.Timed)
    (hbefore : before.pending = true ∨ before.handler ≠ .idle)
    (hafter : after.pending = true ∨ after.handler ≠ .idle)
    (hdriver : after.driver = before.driver) : after.Timed := by
  refine ⟨hdriver ▸ htimed.alive, ?_⟩
  rw [hdriver]
  exact ⟨fun _ => hafter, fun _ => htimed.timed.mpr hbefore⟩

theorem System.Timed.step (htimed : before.Timed) (hstep : Step product before action after)
    (hallowed : before.Allows product action) : after.Timed := by
  cases hstep with
  | hwinit ioremapped hpc =>
      exact htimed.driver_step hpc rfl rfl rfl DriverPc.noConfusion
  | addTimer hpc => exact ⟨DriverPc.noConfusion, fun _ => .inl rfl, fun _ => rfl⟩
  | allocate ok hpc =>
      obtain rfl : ok = true := hallowed
      exact htimed.driver_step hpc rfl rfl rfl DriverPc.noConfusion
  | register ok hpc =>
      obtain rfl : ok = true := hallowed
      exact htimed.driver_step hpc rfl rfl rfl DriverPc.noConfusion
  | devresRelease hpc hkey => exact absurd hpc htimed.alive
  | remove hpc => exact htimed.driver_step hpc rfl rfl rfl DriverPc.noConfusion
  | unmap i hpc hbase => exact htimed.driver_step hpc rfl rfl rfl DriverPc.noConfusion
  | unmapNone i hpc hbase =>
      exact htimed.driver_step hpc rfl rfl (DriverPc.afterUnmap_timed i)
        (DriverPc.afterUnmap_ne_failed i)
  | clearBase i hpc =>
      exact htimed.driver_step hpc rfl rfl (DriverPc.afterUnmap_timed i)
        (DriverPc.afterUnmap_ne_failed i)
  | delTimer hpc =>
      refine ⟨DriverPc.noConfusion, fun htrue => Bool.noConfusion htrue, fun hrunning => ?_⟩
      exact absurd hallowed (hrunning.resolve_left Bool.false_ne_true)
  | unregister hpc => exact htimed.driver_step hpc rfl rfl rfl DriverPc.noConfusion
  | free hpc => exact htimed.driver_step hpc rfl rfl rfl DriverPc.noConfusion
  | fire hpending hpc =>
      exact htimed.handler_step (.inl hpending) (.inr HandlerPc.noConfusion) rfl
  | testBase i hpc =>
      refine htimed.handler_step (.inr (by rw [hpc]; exact HandlerPc.noConfusion)) (.inr ?_) rfl
      dsimp only
      split
      · exact HandlerPc.noConfusion
      · exact HandlerPc.after_ne_idle i
  | readReg i reg hpc =>
      refine htimed.handler_step (.inr (by rw [hpc]; exact HandlerPc.noConfusion)) (.inr ?_) rfl
      dsimp only
      split
      · exact HandlerPc.after_ne_idle i
      · exact HandlerPc.noConfusion
  | report i reports hpc =>
      exact htimed.handler_step (.inr (by rw [hpc]; exact HandlerPc.noConfusion))
        (.inr (HandlerPc.after_ne_idle i)) rfl
  | modTimer hpc =>
      exact htimed.handler_step (.inr (by rw [hpc]; exact HandlerPc.noConfusion)) (.inl rfl) rfl

theorem System.Mapped.frame (hmapped : before.Mapped)
    (hbase : ∀ i, (after.btnSatate i).base = (before.btnSatate i).base)
    (hioremapped : after.ioremapped = before.ioremapped)
    (hclearing : ∀ i, after.driver = .clearing i ↔ before.driver = .clearing i)
    (hreading : ∀ i, after.handler = .reading i → before.handler = .reading i) :
    after.Mapped where
  based i := by
    rw [hbase, hioremapped, hclearing]
    exact hmapped.based i
  clearing i := by
    rw [hbase, hioremapped, hclearing]
    exact hmapped.clearing i
  reading i hread := by
    rw [hbase, hioremapped]
    exact hmapped.reading i (hreading i hread)

theorem System.Mapped.driver_step (hmapped : before.Mapped) (hpc : before.driver = pc)
    (hbuttons : after.btnSatate = before.btnSatate)
    (hioremapped : after.ioremapped = before.ioremapped)
    (hhandler : after.handler = before.handler) (hbefore : ∀ i, pc ≠ .clearing i)
    (hafter : ∀ i, after.driver ≠ .clearing i) : after.Mapped := by
  refine hmapped.frame ?_ hioremapped ?_ ?_
  · intro i
    rw [hbuttons]
  · intro i
    rw [hpc]
    exact iff_of_false (hafter i) (hbefore i)
  · intro i hread
    rw [← hhandler]
    exact hread

theorem System.Mapped.unmap {i : Fin 2} (hmapped : before.Mapped)
    (hpc : before.driver = .unmapping i) (hbase : (before.btnSatate i).base = true)
    (hhandler : before.handler ≠ .reading i) :
    System.Mapped { before with
      ioremapped := Function.update before.ioremapped i false
      driver := .clearing i } := by
  constructor
  · intro j hset
    by_cases hbutton : j = i
    · exact .inr (congrArg DriverPc.clearing hbutton.symm)
    · have hkept := (hmapped.based j hset).resolve_right (by rw [hpc]; exact DriverPc.noConfusion)
      exact .inl ((Function.update_of_ne hbutton _ _).trans hkept)
  · intro j hclearing
    obtain rfl := DriverPc.clearing.inj hclearing
    exact ⟨hbase, Function.update_self _ _ _⟩
  · intro j hread
    have hbutton : j ≠ i := fun hsame => hhandler (hsame ▸ hread)
    obtain ⟨hset, hkept⟩ := hmapped.reading j hread
    exact ⟨hset, (Function.update_of_ne hbutton _ _).trans hkept⟩

theorem System.Mapped.clearBase {i : Fin 2} (hmapped : before.Mapped)
    (hpc : before.driver = .clearing i) :
    System.Mapped { before with
      btnSatate := Function.update before.btnSatate i { before.btnSatate i with base := false }
      driver := .afterUnmap i } := by
  have hother : ∀ j ≠ i, Function.update before.btnSatate i
      { before.btnSatate i with base := false } j = before.btnSatate j :=
    fun j hbutton => Function.update_of_ne hbutton _ _
  constructor
  · intro j hset
    dsimp only at hset
    by_cases hbutton : j = i
    · rw [hbutton, Function.update_self] at hset
      cases hset
    · rw [hother j hbutton] at hset
      have hkept := (hmapped.based j hset).resolve_right fun hclearing =>
        hbutton (DriverPc.clearing.inj (hclearing.symm.trans hpc))
      exact .inl hkept
  · intro j hclearing
    exact absurd hclearing (DriverPc.afterUnmap_ne_clearing i j)
  · intro j hread
    obtain ⟨hset, hkept⟩ := hmapped.reading j hread
    have hbutton : j ≠ i := by
      intro hsame
      have hunmapped := (hmapped.clearing i hpc).2
      rw [← hsame, hkept] at hunmapped
      cases hunmapped
    dsimp only
    rw [hother j hbutton]
    exact ⟨hset, hkept⟩

theorem System.Mapped.step (hmapped : before.Mapped) (htimed : before.Timed)
    (hstep : Step product before action after) (hallowed : before.Allows product action) :
    after.Mapped := by
  cases hstep with
  | hwinit ioremapped hpc =>
      have hidle := (htimed.idle (by rw [hpc]; rfl)).2
      refine ⟨fun i hset => .inl hset, fun i hclearing => DriverPc.noConfusion hclearing, ?_⟩
      intro i hread
      rw [hidle] at hread
      cases hread
  | addTimer hpc =>
      exact hmapped.driver_step hpc rfl rfl rfl (fun _ => DriverPc.noConfusion)
        fun _ => DriverPc.noConfusion
  | allocate ok hpc =>
      refine hmapped.driver_step hpc rfl rfl rfl (fun _ => DriverPc.noConfusion) ?_
      intro i
      dsimp only
      split <;> exact DriverPc.noConfusion
  | register ok hpc =>
      refine hmapped.driver_step hpc rfl rfl rfl (fun _ => DriverPc.noConfusion) ?_
      intro i
      dsimp only
      split <;> exact DriverPc.noConfusion
  | devresRelease hpc hkey =>
      exact hmapped.frame (fun _ => rfl) rfl (fun _ => Iff.rfl) fun _ hread => hread
  | remove hpc =>
      exact hmapped.driver_step hpc rfl rfl rfl (fun _ => DriverPc.noConfusion)
        fun _ => DriverPc.noConfusion
  | unmap i hpc hbase => exact hmapped.unmap hpc hbase hallowed
  | unmapNone i hpc hbase =>
      exact hmapped.driver_step hpc rfl rfl rfl (fun _ => DriverPc.noConfusion)
        (DriverPc.afterUnmap_ne_clearing i)
  | clearBase i hpc => exact hmapped.clearBase hpc
  | delTimer hpc =>
      exact hmapped.driver_step hpc rfl rfl rfl (fun _ => DriverPc.noConfusion)
        fun _ => DriverPc.noConfusion
  | unregister hpc =>
      exact hmapped.driver_step hpc rfl rfl rfl (fun _ => DriverPc.noConfusion)
        fun _ => DriverPc.noConfusion
  | free hpc =>
      exact hmapped.driver_step hpc rfl rfl rfl (fun _ => DriverPc.noConfusion)
        fun _ => DriverPc.noConfusion
  | fire hpending hpc =>
      exact hmapped.frame (fun _ => rfl) rfl (fun _ => Iff.rfl) fun _ hread =>
        HandlerPc.noConfusion hread
  | testBase i hpc =>
      refine ⟨hmapped.based, hmapped.clearing, ?_⟩
      intro j hread
      dsimp only at hread
      split at hread
      · rename_i hset
        obtain rfl := HandlerPc.reading.inj hread
        exact ⟨hset, (hmapped.based i hset).resolve_right hallowed⟩
      · exact absurd hread (HandlerPc.after_ne_reading i j)
  | readReg i reg hpc =>
      refine hmapped.frame ?_ rfl (fun _ => Iff.rfl) ?_
      · intro j
        by_cases hbutton : j = i
        · rw [hbutton]
          dsimp only
          rw [Function.update_self, btnRead_base]
        · dsimp only
          rw [Function.update_of_ne hbutton]
      · intro j hread
        dsimp only at hread
        split at hread
        · exact absurd hread (HandlerPc.after_ne_reading i j)
        · cases hread
  | report i reports hpc =>
      exact hmapped.frame (fun _ => rfl) rfl (fun _ => Iff.rfl) fun j hread =>
        absurd hread (HandlerPc.after_ne_reading i j)
  | modTimer hpc =>
      exact hmapped.frame (fun _ => rfl) rfl (fun _ => Iff.rfl) fun _ hread =>
        HandlerPc.noConfusion hread

theorem System.HasDevice.driver_step (hdevice : before.HasDevice) (hpc : before.driver = pc)
    (hkey : after.ugKey = before.ugKey) (hhandler : after.handler = before.handler)
    (hsame : after.driver.hasDevice = pc.hasDevice) : after.HasDevice where
  device := by
    rw [hsame, ← hpc, hkey]
    exact hdevice.device
  reporting i reports hreport :=
    hkey.trans (hdevice.reporting i reports (hhandler.symm.trans hreport))

theorem System.HasDevice.handler_step (hdevice : before.HasDevice)
    (hkey : after.ugKey = before.ugKey) (hdriver : after.driver = before.driver)
    (hhandler : ∀ i reports, after.handler ≠ .reporting i reports) : after.HasDevice where
  device := by
    rw [hdriver, hkey]
    exact hdevice.device
  reporting i reports hreport := absurd hreport (hhandler i reports)

theorem System.HasDevice.step (hdevice : before.HasDevice) (htimed : before.Timed)
    (hstep : Step product before action after) (hallowed : before.Allows product action) :
    after.HasDevice := by
  cases hstep with
  | hwinit ioremapped hpc =>
      exact hdevice.driver_step hpc rfl rfl rfl
  | addTimer hpc => exact hdevice.driver_step hpc rfl rfl rfl
  | allocate ok hpc =>
      obtain rfl : ok = true := hallowed
      exact ⟨⟨fun _ => rfl, fun _ => rfl⟩, fun _ _ _ => rfl⟩
  | register ok hpc =>
      obtain rfl : ok = true := hallowed
      exact hdevice.driver_step hpc rfl rfl rfl
  | devresRelease hpc hkey => exact absurd hpc htimed.alive
  | remove hpc => exact hdevice.driver_step hpc rfl rfl rfl
  | unmap i hpc hbase => exact hdevice.driver_step hpc rfl rfl rfl
  | unmapNone i hpc hbase =>
      exact hdevice.driver_step hpc rfl rfl (DriverPc.afterUnmap_hasDevice i)
  | clearBase i hpc =>
      exact hdevice.driver_step hpc rfl rfl (DriverPc.afterUnmap_hasDevice i)
  | delTimer hpc => exact hdevice.driver_step hpc rfl rfl rfl
  | unregister hpc => exact hdevice.driver_step hpc rfl rfl rfl
  | free hpc =>
      have hidle := (htimed.idle (by rw [hpc]; rfl)).2
      refine ⟨⟨fun hhas => Bool.noConfusion hhas, fun hlive => UgKey.noConfusion hlive⟩, ?_⟩
      intro i reports hreport
      rw [hidle] at hreport
      cases hreport
  | fire hpending hpc => exact hdevice.handler_step rfl rfl fun _ _ => HandlerPc.noConfusion
  | testBase i hpc =>
      refine hdevice.handler_step rfl rfl ?_
      intro j reports
      dsimp only
      split
      · exact HandlerPc.noConfusion
      · exact HandlerPc.after_ne_reporting i j reports
  | readReg i reg hpc =>
      refine ⟨hdevice.device, ?_⟩
      intro j reports hreport
      dsimp only at hreport
      split at hreport
      · exact absurd hreport (HandlerPc.after_ne_reporting i j reports)
      · rename_i hsome
        have hrunning : before.handler ≠ .idle := by
          rw [hpc]
          exact HandlerPc.noConfusion
        refine hdevice.device.mp (DriverPc.hasDevice_of_timed (htimed.timed.mpr (.inr hrunning)) ?_
          htimed.alive)
        exact fun harmed => hsome (hallowed harmed)
  | report i reports hpc =>
      exact hdevice.handler_step rfl rfl (HandlerPc.after_ne_reporting i)
  | modTimer hpc => exact hdevice.handler_step rfl rfl fun _ _ => HandlerPc.noConfusion

theorem System.Sound.step (hsound : before.Sound) (hstep : Step product before action after)
    (hallowed : before.Allows product action) : after.Sound where
  toTimed := hsound.toTimed.step hstep hallowed
  toMapped := hsound.toMapped.step hsound.toTimed hstep hallowed
  toHasDevice := hsound.toHasDevice.step hsound.toTimed hstep hallowed

theorem System.Sound.initial (btnSatate : Fin 2 → BtnInfo) : (System.initial btnSatate).Sound where
  alive := DriverPc.noConfusion
  timed := ⟨fun htrue => Bool.noConfusion htrue, fun hrunning => by
    rcases hrunning with hpending | hhandler
    · cases hpending
    · exact absurd rfl hhandler⟩
  based i hset := Bool.noConfusion hset
  clearing i hclearing := DriverPc.noConfusion hclearing
  reading i hread := HandlerPc.noConfusion hread
  device := ⟨fun hhas => Bool.noConfusion hhas, fun hlive => UgKey.noConfusion hlive⟩
  reporting i reports hreport := HandlerPc.noConfusion hreport

/-- Whatever step comes next, the poll is within its device. -/
theorem System.Sound.safe (hsound : before.Sound) (hstep : Step product before action after) :
    before.Safe action := by
  cases hstep with
  | readReg i reg hpc => exact (hsound.reading i hpc).2
  | report i reports hpc => exact hsound.reporting i reports hpc
  | _ => trivial

theorem System.Sound.stopped {state : System} (hsound : state.Sound) : state.Stopped := by
  intro hended
  rcases hended with hfailed | hremoved
  · exact absurd hfailed hsound.alive
  · exact hsound.toTimed.idle (by rw [hremoved]; rfl)

end Steps

/-! ### Every run -/

section Runs

variable {product : String} {btnSatate : Fin 2 → BtnInfo} {actions : List Action}
  {before after : System} {action : Action}

theorem sound_of_run
    (hrun : Run (Guarded (Step product) (System.Allows product)) (.initial btnSatate) actions
      before) : before.Sound :=
  hrun.invariant (fun _ _ _ hsound hstep => hsound.step hstep.1 hstep.2) (.initial btnSatate)

/-- What can still happen in `state` takes the poll beyond its device. -/
def System.Breaks (product : String) (state : System) : Prop :=
  ∃ actions later, Run (Step product) state actions later ∧
    (¬ later.Stopped ∨ ∃ action after, Step product later action after ∧ ¬ later.Safe action)

theorem breaks_of_failed {state : System} (hfailed : state.driver = .failed)
    (hrunning : state.pending = true ∨ state.handler ≠ .idle) : state.Breaks product := by
  refine ⟨[], state, .nil _, .inl fun hstopped => ?_⟩
  obtain ⟨hpending, hidle⟩ := hstopped (.inl hfailed)
  rcases hrunning with htrue | hhandler
  · rw [hpending] at htrue
    cases htrue
  · exact hhandler hidle

theorem breaks_of_reading {state : System} {i : Fin 2} (hpc : state.handler = .reading i)
    (hunmapped : state.ioremapped i = false) : state.Breaks product := by
  refine ⟨[], state, .nil _, .inr ⟨.readReg i 0, _, .readReg i 0 hpc, fun hmapped => ?_⟩⟩
  rw [System.Safe, hunmapped] at hmapped
  cases hmapped

/-- The conditions leave nothing out: a step taken against them lets the poll outlive its device. -/
theorem not_allowed_breaks (hsound : before.Sound) (hstep : Step product before action after)
    (hrefused : ¬ before.Allows product action) : after.Breaks product := by
  cases hstep with
  | allocate ok hpc =>
      obtain rfl : ok = false := Bool.eq_false_iff.mpr hrefused
      exact breaks_of_failed rfl (hsound.timed.mp (by rw [hpc]; rfl))
  | register ok hpc =>
      obtain rfl : ok = false := Bool.eq_false_iff.mpr hrefused
      exact breaks_of_failed rfl (hsound.timed.mp (by rw [hpc]; rfl))
  | unmap i hpc hbase =>
      exact breaks_of_reading (not_not.mp hrefused) (Function.update_self i false before.ioremapped)
  | unmapNone i hpc hbase =>
      have hset := (hsound.reading i (not_not.mp hrefused)).1
      rw [hbase] at hset
      cases hset
  | delTimer hpc =>
      refine ⟨_, _, .cons (.unregister rfl) (.cons (.free rfl) (.nil _)), .inl fun hstopped => ?_⟩
      exact hrefused (hstopped (.inr rfl)).2
  | testBase i hpc =>
      obtain ⟨hset, hunmapped⟩ := hsound.clearing i (not_not.mp hrefused)
      exact breaks_of_reading (if_pos hset) hunmapped
  | readReg i reg hpc =>
      obtain ⟨harmed, hreports⟩ := Classical.not_imp.mp hrefused
      refine ⟨[], _, .nil _, .inr ⟨.report i, _, .report i _ (if_neg hreports), fun hlive => ?_⟩⟩
      have hhas := hsound.device.mpr hlive
      rw [harmed] at hhas
      cases hhas
  | _ => exact absurd trivial hrefused

/-- Where the driver and the poll keep out of each other's way, the poll never outlives its device; and any step taken against that lets it. -/
theorem poll_within_device
    (hrun : Run (Guarded (Step product) (System.Allows product)) (.initial btnSatate) actions
      before)
    (hstep : Step product before action after) :
    (before.Allows product action → before.Safe action ∧ before.Stopped ∧ after.Stopped) ∧
    (¬ before.Allows product action → after.Breaks product) := by
  have hsound := sound_of_run hrun
  refine ⟨fun hallowed => ?_, not_allowed_breaks hsound hstep⟩
  exact ⟨hsound.safe hstep, hsound.stopped, (hsound.step hstep hallowed).stopped⟩

end Runs

/-! ### A life, and a probe that fails -/

/-- The power button as it is set up for most products. -/
def powerButton : BtnInfo where
  code := keyF20
  shift := 1
  seen := 0
  base := false
  prestate := 0
  active := 1
  lastReport := 0

/-- Probed, polled once with the first key down, and removed, up to the last step. -/
theorem exists_allowed_life : ∃ actions before,
    Run (Guarded (Step "DXP4800") (System.Allows "DXP4800")) (.initial fun _ => powerButton) actions
      before ∧ .report 0 ∈ actions ∧ before.driver = .freeing :=
  ⟨_, _, .cons ⟨.hwinit (fun _ => true) rfl, trivial⟩ <|
    .cons ⟨.addTimer rfl, trivial⟩ <|
    .cons ⟨.allocate true rfl, rfl⟩ <|
    .cons ⟨.register true rfl, rfl⟩ <|
    .cons ⟨.fire rfl rfl, trivial⟩ <|
    .cons ⟨.testBase 0 rfl, DriverPc.noConfusion⟩ <|
    .cons ⟨.readReg 0 2 rfl, DriverPc.noConfusion⟩ <|
    .cons ⟨.report 0 _ rfl, trivial⟩ <|
    .cons ⟨.testBase 1 rfl, DriverPc.noConfusion⟩ <|
    .cons ⟨.readReg 1 0 rfl, DriverPc.noConfusion⟩ <|
    .cons ⟨.modTimer rfl, trivial⟩ <|
    .cons ⟨.remove rfl, trivial⟩ <|
    .cons ⟨.unmap 0 rfl rfl, HandlerPc.noConfusion⟩ <|
    .cons ⟨.clearBase 0 rfl, trivial⟩ <|
    .cons ⟨.unmap 1 rfl rfl, HandlerPc.noConfusion⟩ <|
    .cons ⟨.clearBase 1 rfl, trivial⟩ <|
    .cons ⟨.delTimer rfl, rfl⟩ <|
    .single ⟨.unregister rfl, trivial⟩, by simp, rfl⟩

theorem poll_within_device_removed : ∃ actions before after,
    Run (Guarded (Step "DXP4800") (System.Allows "DXP4800")) (.initial fun _ => powerButton) actions
      before ∧ .report 0 ∈ actions ∧
    Step "DXP4800" before .free after ∧ before.Stopped ∧ after.Stopped ∧
      after.driver = .removed := by
  obtain ⟨actions, before, hrun, hreport, hpc⟩ := exists_allowed_life
  have hstep := @Step.free "DXP4800" before hpc
  obtain ⟨-, hbefore, hafter⟩ := (poll_within_device hrun hstep).1 trivial
  exact ⟨_, _, _, hrun, hreport, hstep, hbefore, hafter, rfl⟩

/-- There is no memory for the input device, and the timer stays set. -/
theorem poll_outlives_failed_probe : ¬ ∀ (product : String) (btnSatate : Fin 2 → BtnInfo)
    (actions : List Action) (before after : System) (action : Action),
    Run (Step product) (.initial btnSatate) actions before → Step product before action after →
    before.Safe action ∧ before.Stopped ∧ after.Stopped := by
  intro halways
  have hrun : Run (Step "DXP4800") (.initial fun _ => powerButton) _ _ :=
    .cons (.hwinit (fun _ => true) rfl) (.single (.addTimer rfl))
  obtain ⟨-, -, hstopped⟩ := halways _ _ _ _ _ _ hrun (.allocate false rfl)
  cases (hstopped (.inl rfl)).1

end FrontPanel.Sio.GpioKey
