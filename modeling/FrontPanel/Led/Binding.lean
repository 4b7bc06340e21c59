import FrontPanel.Lib.Run
import Mathlib.Data.List.Basic
import Mathlib.Logic.Function.Basic

/-!
# Binding the LED driver

`leds_ugreen_probe` and `leds_ugreen_remove`, called as the I2C core calls them: a remove only of a client whose probe returned 0, and no second probe of it. What can fail in a probe is a choice of the step, and so is what the LED core does while a remove unregisters the LEDs: it may set an LED to off through `leds_brightness_set`, which queues the work item that was cancelled just before.

The reboot notifier is registered in the probe and unregistered only as the module is left, the results of `iDX601x_led_init` and `ug_led_cdev_register` are not looked at, and an array that is missing is written to all the same. The controller and the mutex are left out, and the memory of the two arrays is only there or not: it is not cleared, and what becomes of an LED that was never registered when it is unregistered is not said here.
-/

namespace FrontPanel.Led.Binding

/-! ### The code -/

inductive Pointer
  | null
  | allocated
  | freed
  deriving DecidableEq

/-- `ug_led_client`, and what the kernel holds for it. -/
structure UgreenLed where
  cdev : Pointer
  status : Pointer
  ledCount : Nat
  /-- `ug_led_notifier` is registered. -/
  notifier : Bool
  /-- the LED class devices there are -/
  registered : Nat → Bool
  /-- the work items that are queued -/
  queued : Nat → Bool

/-- The board, and which of the calls of a probe find what they need. -/
structure Choice where
  product : String
  notifier : Bool
  cdev : Bool
  status : Bool
  led : Nat → Bool

/-- The products `leds_ugreen_probe` goes on with. -/
def supported (product : String) : Bool :=
  product ∈ ["iDX6011", "DXP2800", "iDX6012", "DXP6800", "DXP6800S", "iDX6011 Pro", "DXP4800 GT"]

/-- A product that is not listed leaves `led_count` as it is. -/
def ledCountOf (product : String) (ledCount : Nat) : Nat :=
  if product = "DXP2800" then 4
  else if product = "DXP6800" ∨ product = "DXP6800S" then 8
  else if product = "iDX6011" ∨ product = "iDX6012" then 8
  else if product = "iDX6011 Pro" then 9
  else if product = "DXP4800 GT" then 6
  else ledCount

/-- `-EEXIST`, `-ENOMEM` -/
def eExist : Int := -17
def eNomem : Int := -12

/-- It fails for want of something, and on a notifier that is registered. -/
def registerRebootNotifier (choice : Choice) (ug : UgreenLed) : UgreenLed × Int :=
  if ug.notifier then (ug, eExist)
  else if choice.notifier then ({ ug with notifier := true }, 0)
  else (ug, eNomem)

def idx601xLedInit (choice : Choice) (ug : UgreenLed) : UgreenLed × Int :=
  let ug := { ug with ledCount := ledCountOf choice.product ug.ledCount }
  if !choice.cdev then ({ ug with cdev := .null }, -1)
  else if !choice.status then ({ ug with cdev := .freed, status := .null }, -1)
  else ({ ug with cdev := .allocated, status := .allocated }, 0)

/-- The loop of `ug_led_cdev_register`, from LED `i` on with `left` to go. -/
def registerLeds (choice : Choice) : Nat → Nat → UgreenLed → UgreenLed × Int
  | 0, _, ug => (ug, 0)
  | left + 1, i, ug =>
      -- `INIT_WORK`
      let ug := { ug with queued := Function.update ug.queued i false }
      if choice.led i then
        registerLeds choice left (i + 1)
          { ug with registered := Function.update ug.registered i true }
      else (ug, eNomem)

/-- `none` is an access of an array that is not there. -/
def ugLedCdevRegister (choice : Choice) (ug : UgreenLed) : Option (UgreenLed × Int) :=
  if 0 < ug.ledCount ∧ (ug.cdev ≠ .allocated ∨ ug.status ≠ .allocated) then none
  else some (registerLeds choice ug.ledCount 0 ug)

inductive Outcome
  | returned (ret : Int)
  /-- the kernel ends the probe where it is -/
  | oops
  deriving DecidableEq

def ledsUgreenProbe (choice : Choice) (ug : UgreenLed) : UgreenLed × Outcome :=
  if !supported choice.product then (ug, .returned (-1))
  else
    let (ug, ret) := registerRebootNotifier choice ug
    if ret < 0 then (ug, .returned (-1))
    else
      let ug := (idx601xLedInit choice ug).1
      match ugLedCdevRegister choice ug with
      | none => (ug, .oops)
      | some (ug, _) => (ug, .returned 0)

/-- `led_classdev_unregister` of each LED, `off` telling which of them the LED core sets to off. -/
def unregisterLeds (off : Nat → Bool) (ug : UgreenLed) : UgreenLed :=
  { ug with
    registered := fun i => if i < ug.ledCount then false else ug.registered i
    queued := fun i =>
      if i < ug.ledCount ∧ off i = true ∧ ug.status ≠ .null then true else ug.queued i }

def cancelWorks (ug : UgreenLed) : UgreenLed :=
  { ug with queued := fun i => if i < ug.ledCount then false else ug.queued i }

def ledsUgreenRemove (off : Nat → Bool) (ug : UgreenLed) : UgreenLed :=
  let ug := if ug.status ≠ .null then cancelWorks ug else ug
  let ug := if ug.cdev ≠ .null then unregisterLeds off ug else ug
  { ug with cdev := .null, status := .null }

/-- `schedule_work` at the end of `leds_brightness_set`. -/
def ledsBrightnessSet (led : Nat) (ug : UgreenLed) : UgreenLed :=
  if ug.status = .null ∨ ug.ledCount ≤ led then ug
  else { ug with queued := Function.update ug.queued led true }

/-! ### Runs -/

inductive Phase
  | unbound
  | bound
  | unloaded
  /-- the probe was ended in an oops, and the client stays locked -/
  | stuck
  deriving DecidableEq

structure System where
  ug : UgreenLed
  phase : Phase

inductive Label
  | probe (choice : Choice) (outcome : Outcome)
  | remove (off : Nat → Bool)
  /-- `ug_led_driver_exit`, which unregisters the notifier and then removes the client -/
  | exit (off : Nat → Bool)
  | brightnessSet (led : Nat)
  | brightnessWork (led : Nat)

def Outcome.phase : Outcome → Phase
  | .returned ret => if ret = 0 then .bound else .unbound
  | .oops => .stuck

inductive Step : System → Label → System → Prop
  | probe {state : System} (choice : Choice) (hphase : state.phase = .unbound) :
      Step state (.probe choice (ledsUgreenProbe choice state.ug).2)
        { ug := (ledsUgreenProbe choice state.ug).1
          phase := (ledsUgreenProbe choice state.ug).2.phase }
  | remove {state : System} (off : Nat → Bool) (hphase : state.phase = .bound) :
      Step state (.remove off) { ug := ledsUgreenRemove off state.ug, phase := .unbound }
  | exit {state : System} (off : Nat → Bool) (hphase : state.phase = .bound) :
      Step state (.exit off)
        { ug := ledsUgreenRemove off { state.ug with notifier := false }, phase := .unloaded }
  | brightnessSet {state : System} (led : Nat) (hled : state.ug.registered led = true) :
      Step state (.brightnessSet led) { state with ug := ledsBrightnessSet led state.ug }
  | brightnessWork {state : System} (led : Nat) (hled : state.ug.queued led = true) :
      Step state (.brightnessWork led)
        { state with ug := { state.ug with queued := Function.update state.ug.queued led false } }

/-- The module is loaded. -/
def System.initial : System where
  ug :=
    { cdev := .null
      status := .null
      ledCount := 0
      notifier := false
      registered := fun _ => false
      queued := fun _ => false }
  phase := .unbound

/-! ### What a bind leaves behind -/

/-- Nothing of the client remains. -/
structure UgreenLed.Clean (ug : UgreenLed) : Prop where
  notifier : ug.notifier = false
  registered : ∀ i, ug.registered i = false
  queued : ∀ i, ug.queued i = false

/-- The arrays were allocated, and every LED was registered. -/
structure UgreenLed.Complete (ug : UgreenLed) : Prop where
  cdev : ug.cdev = .allocated
  status : ug.status = .allocated
  registered : ∀ i < ug.ledCount, ug.registered i = true

/-- No allocation or registration of the probe fails for want of anything. -/
structure Choice.Plenty (choice : Choice) : Prop where
  notifier : choice.notifier = true
  cdev : choice.cdev = true
  status : choice.status = true
  led : ∀ i < ledCountOf choice.product 0, choice.led i = true

/-- The step is as it should be, after the steps `passed`. -/
def Balanced (passed : List Label) : Label → System → Prop
  | .probe choice outcome, after =>
      ((∃ off, Label.remove off ∈ passed) → supported choice.product = true → choice.Plenty →
        outcome = .returned 0) ∧
      (outcome = .returned 0 → after.ug.Complete) ∧
      (outcome ≠ .returned 0 → after.ug.Clean)
  | .remove _, after => after.ug.Clean
  | .exit _, after => after.ug.Clean
  | .brightnessSet _, _ => True
  | .brightnessWork _, _ => True

/-- A probe that has registered its notifier gets both arrays and registers every LED, and the client is only removed with the module, without an LED being set on the way. -/
def System.Allows (state : System) : Label → Prop
  | .probe choice _ => supported choice.product = true → choice.notifier = true → choice.Plenty
  | .remove _ => False
  | .exit off => ∀ i < state.ug.ledCount, off i = false
  | .brightnessSet _ => True
  | .brightnessWork _ => True

/-! ### A probe -/

section Probe

variable {choice : Choice} {ug : UgreenLed} {left i j : Nat}

theorem ledCountOf_supported {product : String} (hsupported : supported product = true)
    (ledCount : Nat) :
    ledCountOf product ledCount = ledCountOf product 0 ∧ 0 < ledCountOf product 0 := by
  rw [supported, decide_eq_true_eq] at hsupported
  simp only [List.mem_cons, List.not_mem_nil, or_false] at hsupported
  rcases hsupported with rfl | rfl | rfl | rfl | rfl | rfl | rfl
  all_goals
    simp [ledCountOf]

theorem registerLeds_registered : (registerLeds choice left i ug).1.registered j = true ↔
    ug.registered j = true ∨
      (i ≤ j ∧ j < i + left ∧ ∀ k, i ≤ k → k ≤ j → choice.led k = true) := by
  induction left generalizing i ug with
  | zero =>
      constructor
      · exact .inl
      · intro hgiven
        rcases hgiven with hbefore | ⟨hle, hlt, -⟩
        · exact hbefore
        · omega
  | succ left ih =>
      rw [registerLeds]
      dsimp only
      split
      · rename_i hled
        rw [ih]
        dsimp only
        by_cases hsame : j = i
        · rw [hsame, Function.update_self]
          refine iff_of_true (.inl rfl) (.inr ⟨Nat.le_refl i, by omega, fun k hle hge => ?_⟩)
          rw [Nat.le_antisymm hge hle]
          exact hled
        · rw [Function.update_of_ne hsame]
          refine or_congr_right ⟨fun hnext => ?_, fun hhere => ?_⟩
          · obtain ⟨hle, hlt, hall⟩ := hnext
            refine ⟨by omega, by omega, fun k hk hkj => ?_⟩
            by_cases hfirst : k = i
            · rw [hfirst]
              exact hled
            · exact hall k (by omega) hkj
          · obtain ⟨hle, hlt, hall⟩ := hhere
            exact ⟨by omega, by omega, fun k hk hkj => hall k (by omega) hkj⟩
      · rename_i hled
        refine (or_iff_left ?_).symm
        intro hhere
        exact hled (hhere.2.2 i (Nat.le_refl i) hhere.1)

theorem registerLeds_queued (hqueued : ug.queued j = false) :
    (registerLeds choice left i ug).1.queued j = false := by
  induction left generalizing i ug with
  | zero => exact hqueued
  | succ left ih =>
      have hnext : Function.update ug.queued i false j = false := by
        by_cases hsame : j = i
        · rw [hsame, Function.update_self]
        · rw [Function.update_of_ne hsame, hqueued]
      rw [registerLeds]
      dsimp only
      split
      · exact ih hnext
      · exact hnext

theorem registerLeds_frame : ∃ registered queued,
    (registerLeds choice left i ug).1 = { ug with registered, queued } := by
  induction left generalizing i ug with
  | zero => exact ⟨_, _, rfl⟩
  | succ left ih =>
      rw [registerLeds]
      dsimp only
      split
      · obtain ⟨registered, queued, hafter⟩ := @ih
          { ug with
            queued := Function.update ug.queued i false
            registered := Function.update ug.registered i true } (i + 1)
        exact ⟨registered, queued, hafter⟩
      · exact ⟨_, _, rfl⟩

theorem ledsUgreenProbe_refused (hnotifier : ug.notifier = false)
    (hrefused : supported choice.product = true → choice.notifier = false) :
    ledsUgreenProbe choice ug = (ug, .returned (-1)) := by
  rw [ledsUgreenProbe]
  by_cases hsupported : supported choice.product = true
  · simp only [hsupported, registerRebootNotifier, hnotifier, hrefused hsupported]
    rfl
  · rw [if_pos (by simpa using hsupported)]

/-- The client with its notifier and both arrays, and no LED yet. -/
def UgreenLed.prepared (choice : Choice) (ug : UgreenLed) : UgreenLed :=
  { ug with
    cdev := .allocated
    status := .allocated
    ledCount := ledCountOf choice.product ug.ledCount
    notifier := true }

theorem ledsUgreenProbe_registered (hnotifier : ug.notifier = false)
    (hsupported : supported choice.product = true) (hchoice : choice.notifier = true) :
    (choice.cdev = true ∧ choice.status = true ∧
      ledsUgreenProbe choice ug =
        ((registerLeds choice (ledCountOf choice.product ug.ledCount) 0 (ug.prepared choice)).1,
          .returned 0)) ∨
    (¬ (choice.cdev = true ∧ choice.status = true) ∧
      (ledsUgreenProbe choice ug).1.notifier = true ∧ (ledsUgreenProbe choice ug).2 = .oops) := by
  have hcount := ledCountOf_supported hsupported ug.ledCount
  have hpos : 0 < ledCountOf choice.product ug.ledCount := by
    rw [hcount.1]
    exact hcount.2
  simp only [ledsUgreenProbe, hsupported, registerRebootNotifier, hnotifier, hchoice]
  cases hcdev : choice.cdev with
  | false =>
      right
      simp [idx601xLedInit, hcdev, ugLedCdevRegister, hpos]
  | true =>
      cases hstatus : choice.status with
      | false =>
          right
          simp [idx601xLedInit, hcdev, hstatus, ugLedCdevRegister, hpos]
      | true =>
          left
          simp [idx601xLedInit, hcdev, hstatus, ugLedCdevRegister, UgreenLed.prepared]

end Probe

/-! ### What a step keeps -/

/-- A client that is not bound has left nothing behind, and one that is bound is complete, with nothing beyond its LEDs. -/
structure System.Sound (state : System) : Prop where
  unbound : state.phase = .unbound → state.ug.Clean
  bound : state.phase = .bound → state.ug.Complete
  beyond : state.phase = .bound → ∀ i ≥ state.ug.ledCount,
    state.ug.registered i = false ∧ state.ug.queued i = false
  notifier : state.phase = .bound → state.ug.notifier = true

section Steps

variable {before after : System} {label : Label} {passed labels : List Label} {choice : Choice}
  {off : Nat → Bool} {ug : UgreenLed}

/-- The LEDs a probe registers are those before the first that fails. -/
theorem registered_probe (hclean : ug.Clean) {count i : Nat} :
    (registerLeds choice count 0 (ug.prepared choice)).1.registered i = true ↔
      i < count ∧ ∀ k ≤ i, choice.led k = true := by
  have hnone : (ug.prepared choice).registered i = false := hclean.registered i
  rw [registerLeds_registered, hnone, Nat.zero_add]
  constructor
  · intro hgiven
    obtain ⟨-, hlt, hall⟩ := hgiven.resolve_left Bool.false_ne_true
    exact ⟨hlt, fun k hk => hall k (Nat.zero_le k) hk⟩
  · intro hgiven
    exact .inr ⟨Nat.zero_le i, hgiven.1, fun k _ hk => hgiven.2 k hk⟩

theorem ledCount_probe {count : Nat} :
    (registerLeds choice count 0 (ug.prepared choice)).1.ledCount =
      ledCountOf choice.product ug.ledCount := by
  obtain ⟨registered, queued, hafter⟩ := @registerLeds_frame choice (ug.prepared choice) count 0
  rw [hafter]
  rfl

theorem probe_complete (hclean : ug.Clean) (hsupported : supported choice.product = true)
    (hplenty : choice.Plenty) :
    (ledsUgreenProbe choice ug).2 = .returned 0 ∧ (ledsUgreenProbe choice ug).1.Complete ∧
      (ledsUgreenProbe choice ug).1.notifier = true ∧ ∀ i ≥ (ledsUgreenProbe choice ug).1.ledCount,
        (ledsUgreenProbe choice ug).1.registered i = false ∧
          (ledsUgreenProbe choice ug).1.queued i = false := by
  rcases ledsUgreenProbe_registered hclean.notifier hsupported hplenty.notifier with
    ⟨-, -, hprobe⟩ | ⟨hmissing, -⟩
  · rw [hprobe]
    have hcount := (ledCountOf_supported hsupported ug.ledCount).1
    obtain ⟨registered, queued, hafter⟩ := @registerLeds_frame choice (ug.prepared choice)
      (ledCountOf choice.product ug.ledCount) 0
    refine ⟨rfl, ⟨?_, ?_, ?_⟩, ?_, ?_⟩
    · rw [hafter]
      rfl
    · rw [hafter]
      rfl
    · intro i hi
      rw [ledCount_probe] at hi
      refine (registered_probe hclean).mpr ⟨hi, fun k hk => hplenty.led k ?_⟩
      omega
    · rw [hafter]
      rfl
    · intro i hi
      rw [ledCount_probe] at hi
      refine ⟨Bool.eq_false_iff.mpr fun hset => ?_, registerLeds_queued (hclean.queued i)⟩
      exact absurd ((registered_probe hclean).mp hset).1 (Nat.not_lt.mpr hi)
  · exact absurd ⟨hplenty.cdev, hplenty.status⟩ hmissing

theorem probe_balanced_iff (hclean : ug.Clean) :
    (((∃ off, Label.remove off ∈ passed) → supported choice.product = true → choice.Plenty →
        (ledsUgreenProbe choice ug).2 = .returned 0) ∧
      ((ledsUgreenProbe choice ug).2 = .returned 0 → (ledsUgreenProbe choice ug).1.Complete) ∧
      ((ledsUgreenProbe choice ug).2 ≠ .returned 0 → (ledsUgreenProbe choice ug).1.Clean)) ↔
    (supported choice.product = true → choice.notifier = true → choice.Plenty) := by
  by_cases hregistered : supported choice.product = true ∧ choice.notifier = true
  · obtain ⟨hsupported, hchoice⟩ := hregistered
    constructor
    · intro hbalanced _ _
      rcases ledsUgreenProbe_registered hclean.notifier hsupported hchoice with
        ⟨hcdev, hstatus, hprobe⟩ | ⟨-, hnotifier, houtcome⟩
      · refine ⟨hchoice, hcdev, hstatus, ?_⟩
        have hcount := (ledCountOf_supported hsupported ug.ledCount).1
        have hcomplete := hbalanced.2.1 (by rw [hprobe])
        rw [hprobe] at hcomplete
        intro i hi
        have hset := hcomplete.registered i (by rw [ledCount_probe, hcount]; exact hi)
        have hall := (registered_probe hclean).mp hset
        exact hall.2 i (Nat.le_refl i)
      · have hleft := hbalanced.2.2 (by rw [houtcome]; exact Outcome.noConfusion)
        rw [hleft.notifier] at hnotifier
        cases hnotifier
    · intro hplenty
      obtain ⟨hreturned, hcomplete, -⟩ :=
        probe_complete hclean hsupported (hplenty hsupported hchoice)
      exact ⟨fun _ _ _ => hreturned, fun _ => hcomplete, fun hother => absurd hreturned hother⟩
  · have hprobe := @ledsUgreenProbe_refused choice ug hclean.notifier fun hsupported =>
      Bool.eq_false_iff.mpr fun hchoice => hregistered ⟨hsupported, hchoice⟩
    rw [hprobe]
    refine iff_of_true ⟨?_, ?_, fun _ => hclean⟩ ?_
    · intro _ hsupported hplenty
      exact absurd ⟨hsupported, hplenty.notifier⟩ hregistered
    · intro hzero
      cases hzero
    · intro hsupported hchoice
      exact absurd ⟨hsupported, hchoice⟩ hregistered

/-- A remove of a bound client leaves the LEDs and their work items behind only where an LED is set on the way. -/
theorem remove_leaves (hcomplete : ug.Complete)
    (hbeyond : ∀ i ≥ ug.ledCount, ug.registered i = false ∧ ug.queued i = false) :
    (∀ i, (ledsUgreenRemove off ug).registered i = false) ∧
    ((∀ i, (ledsUgreenRemove off ug).queued i = false) ↔ ∀ i < ug.ledCount, off i = false) := by
  have hstatus : ug.status ≠ .null := by
    rw [hcomplete.status]
    exact Pointer.noConfusion
  have hcdev : (cancelWorks ug).cdev ≠ .null := by
    show ug.cdev ≠ .null
    rw [hcomplete.cdev]
    exact Pointer.noConfusion
  have hremove : ledsUgreenRemove off ug =
      { unregisterLeds off (cancelWorks ug) with cdev := .null, status := .null } := by
    simp only [ledsUgreenRemove, if_pos hstatus, if_pos hcdev]
  rw [hremove]
  refine ⟨fun i => ?_, fun hqueued i hi => ?_, fun hoff i => ?_⟩
  · show (if i < ug.ledCount then false else ug.registered i) = false
    split
    · rfl
    · rename_i hother
      exact (hbeyond i (Nat.not_lt.mp hother)).1
  · have hqueue := hqueued i
    by_contra hset
    rw [Bool.not_eq_false] at hset
    have htrue : (unregisterLeds off (cancelWorks ug)).queued i = true :=
      if_pos ⟨hi, hset, hstatus⟩
    rw [hqueue] at htrue
    cases htrue
  · show (if i < ug.ledCount ∧ off i = true ∧ (cancelWorks ug).status ≠ .null then true
      else if i < ug.ledCount then false else ug.queued i) = false
    by_cases hi : i < ug.ledCount
    · rw [if_neg (fun hset => Bool.false_ne_true ((hoff i hi).symm.trans hset.2.1)), if_pos hi]
    · rw [if_neg (fun hset => hi hset.1), if_neg hi]
      exact (hbeyond i (Nat.not_lt.mp hi)).2

theorem ledsUgreenRemove_notifier : (ledsUgreenRemove off ug).notifier = ug.notifier := by
  rw [ledsUgreenRemove]
  dsimp only
  split
  · split <;> rfl
  · split <;> rfl

theorem System.Sound.initial : System.initial.Sound where
  unbound _ := ⟨rfl, fun _ => rfl, fun _ => rfl⟩
  bound hbound := Phase.noConfusion hbound
  beyond hbound := Phase.noConfusion hbound
  notifier hbound := Phase.noConfusion hbound

theorem System.Sound.queue (hsound : before.Sound) {queued : Nat → Bool}
    (hbound : before.phase = .bound)
    (hqueued : ∀ i ≥ before.ug.ledCount, queued i = before.ug.queued i) :
    System.Sound { before with ug := { before.ug with queued } } where
  unbound hunbound := Phase.noConfusion (hbound.symm.trans hunbound)
  bound _ := ⟨(hsound.bound hbound).cdev, (hsound.bound hbound).status,
    (hsound.bound hbound).registered⟩
  beyond _ i hi := ⟨(hsound.beyond hbound i hi).1,
    (hqueued i hi).trans (hsound.beyond hbound i hi).2⟩
  notifier := hsound.notifier

theorem System.Sound.of_phase {state : System} (hunbound : state.phase ≠ .unbound)
    (hbound : state.phase ≠ .bound) : state.Sound where
  unbound hphase := absurd hphase hunbound
  bound hphase := absurd hphase hbound
  beyond hphase := absurd hphase hbound
  notifier hphase := absurd hphase hbound

theorem System.Sound.queue_step (hsound : before.Sound) {queued : Nat → Bool} {led : Nat}
    (hled : before.ug.registered led = true ∨ before.ug.queued led = true)
    (hqueued : ∀ i ≠ led, queued i = before.ug.queued i) :
    System.Sound { before with ug := { before.ug with queued } } := by
  by_cases hunbound : before.phase = .unbound
  · have hclean := hsound.unbound hunbound
    rw [hclean.registered, hclean.queued] at hled
    rcases hled with hset | hset
    · cases hset
    · cases hset
  · by_cases hbound : before.phase = .bound
    · refine hsound.queue hbound fun i hi => hqueued i fun hsame => ?_
      obtain ⟨hregistered, hidle⟩ := hsound.beyond hbound i hi
      rw [← hsame, hregistered, hidle] at hled
      rcases hled with hset | hset
      · cases hset
      · cases hset
    · exact .of_phase hunbound hbound

theorem System.Sound.step (hsound : before.Sound) (hstep : Step before label after)
    (hallowed : before.Allows label) : after.Sound := by
  cases hstep with
  | probe choice hphase =>
      have hclean := hsound.unbound hphase
      by_cases hregistered : supported choice.product = true ∧ choice.notifier = true
      · obtain ⟨hreturned, hcomplete, hnotifier, hbeyond⟩ := probe_complete hclean hregistered.1
          (hallowed hregistered.1 hregistered.2)
        rw [hreturned]
        exact ⟨fun hunbound => Phase.noConfusion hunbound, fun _ => hcomplete, fun _ => hbeyond,
          fun _ => hnotifier⟩
      · have hprobe := @ledsUgreenProbe_refused choice before.ug hclean.notifier fun hsupported =>
          Bool.eq_false_iff.mpr fun hchoice => hregistered ⟨hsupported, hchoice⟩
        rw [hprobe]
        exact ⟨fun _ => hclean, fun hbound => Phase.noConfusion hbound,
          fun hbound => Phase.noConfusion hbound, fun hbound => Phase.noConfusion hbound⟩
  | remove off hphase => exact hallowed.elim
  | exit off hphase => exact .of_phase Phase.noConfusion Phase.noConfusion
  | brightnessSet led hled =>
      rw [ledsBrightnessSet]
      split
      · exact hsound
      · exact hsound.queue_step (.inl hled) fun i hother => Function.update_of_ne hother _ _
  | brightnessWork led hled =>
      exact hsound.queue_step (.inr hled) fun i hother => Function.update_of_ne hother _ _

/-- The step is as it should be exactly where the condition on it is met. -/
theorem System.Sound.balanced_iff (hsound : before.Sound) (hstep : Step before label after) :
    Balanced passed label after ↔ before.Allows label := by
  cases hstep with
  | probe choice hphase => exact probe_balanced_iff (hsound.unbound hphase)
  | remove off hphase =>
      refine iff_of_false (fun hclean => ?_) id
      have hnotifier := hclean.notifier
      rw [ledsUgreenRemove_notifier, hsound.notifier hphase] at hnotifier
      cases hnotifier
  | exit off hphase =>
      obtain ⟨hregistered, hqueued⟩ := @remove_leaves off { before.ug with notifier := false }
        ⟨(hsound.bound hphase).cdev, (hsound.bound hphase).status,
          (hsound.bound hphase).registered⟩ (hsound.beyond hphase)
      constructor
      · intro hclean
        exact hqueued.mp hclean.queued
      · intro hoff
        exact ⟨ledsUgreenRemove_notifier, hregistered, hqueued.mpr hoff⟩
  | brightnessSet led hled => exact Iff.rfl
  | brightnessWork led hled => exact Iff.rfl

/-- In every run whose steps have met the condition so far, the next step is as it should be exactly where it meets the condition too. -/
theorem bind_balanced_iff (hrun : Run (Guarded Step System.Allows) .initial labels before)
    (hstep : Step before label after) : Balanced labels label after ↔ before.Allows label :=
  (hrun.invariant (fun _ _ _ hsound hnext => hsound.step hnext.1 hnext.2)
    System.Sound.initial).balanced_iff hstep

end Steps

/-! ### A bind that finds everything -/

def Choice.plenty : Choice where
  product := "DXP2800"
  notifier := true
  cdev := true
  status := true
  led _ := true

theorem plenty_plenty : Choice.plenty.Plenty := ⟨rfl, rfl, rfl, fun _ _ => rfl⟩

theorem exists_bound : ∃ labels before, Run (Guarded Step System.Allows) .initial labels before ∧
    before.phase = .bound := by
  have hsupported : supported Choice.plenty.product = true := by simp [supported, Choice.plenty]
  have hreturned := (probe_complete (System.Sound.initial.unbound rfl) hsupported plenty_plenty).1
  have hallowed : System.initial.Allows
      (.probe .plenty (ledsUgreenProbe .plenty System.initial.ug).2) := fun _ _ => plenty_plenty
  refine ⟨_, _, .single ⟨.probe .plenty rfl, hallowed⟩, ?_⟩
  show (ledsUgreenProbe .plenty System.initial.ug).2.phase = .bound
  rw [hreturned]
  rfl

theorem bind_balanced_iff_exit : ∃ labels before after, Step before (.exit fun _ => false) after ∧
    Balanced labels (.exit fun _ => false) after := by
  obtain ⟨labels, before, hrun, hbound⟩ := exists_bound
  have hstep := @Step.exit before (fun _ => false) hbound
  exact ⟨labels, before, _, hstep, (bind_balanced_iff hrun hstep).mpr fun _ _ => rfl⟩

/-- Bound with everything there and removed again, the notifier is still registered. -/
theorem remove_keeps_notifier : ¬ ∀ (labels : List Label) (before after : System) (label : Label),
    Run Step .initial labels before → Step before label after → Balanced labels label after := by
  intro halways
  obtain ⟨labels, before, hrun, hbound⟩ := exists_bound
  have hsound := hrun.invariant (fun _ _ _ hsound hnext => hsound.step hnext.1 hnext.2)
    System.Sound.initial
  have hstep := @Step.remove before (fun _ => false) hbound
  exact (hsound.balanced_iff hstep).mp (halways labels before _ _ hrun.unguarded hstep)

end FrontPanel.Led.Binding
