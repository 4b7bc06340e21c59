import FrontPanel.Led.BlinkRequest
import FrontPanel.Lib.Ledger
import FrontPanel.Lib.Run

/-!
# The triggers

The triggers normal, breath and timer2, as the LED core calls them: the old one is deactivated before a new one is activated, one that could not be activated is not deactivated, and one whose attributes could not be made is. Two of them allocate a piece of memory that carries their name. The memory is a ledger here, and what else the core does to an LED while it changes its trigger is whatever it may do that leaves alone the mode and the rate which the driver keeps for it. The sleeps are left out, and so are the messages.
-/

namespace FrontPanel.Led.Triggers

open Request (obtaining freeing)

/-! ### The code -/

inductive Trigger
  | normal
  | breath
  | timer2
  deriving DecidableEq

def Trigger.name : Trigger → String
  | .normal => "normal"
  | .breath => "breath"
  | .timer2 => "timer2"

inductive Resource
  | ledData
  | pattern
  deriving DecidableEq

structure LedTrigData where
  name : List UInt8

structure LedClassdev where
  blink : Blink
  /-- `LED_INIT_DEFAULT_TRIGGER` in `flags` -/
  initDefaultTrigger : Bool
  trigger : Option Trigger
  triggerData : Option LedTrigData

/-- What the driver keeps of the last request. -/
def SameRequest (s after : Blink) : Prop :=
  after.status.mode = s.status.mode ∧ after.status.statusData = s.status.statusData

/-- What the LED core does to the settings of an LED, and what becomes of its `led_blink_set`: where the driver's request fails, the LED blinks in software. -/
structure Core (led : Nat) where
  stop : Blink → Blink
  off : Blink → Blink
  software : Blink → Blink
  blinkSet : Trigger → Blink → Blink
  stopKeeps : ∀ s, SameRequest s (stop s)
  offKeeps : ∀ s, SameRequest s (off s)
  softwareKeeps : ∀ s, SameRequest s (software s)
  sends : ∀ trigger s, ∃ events ret after,
    (ledsBlinkSet led (some trigger.name) s).Trace events (ret, after) ∧
      blinkSet trigger s = if ret = 0 then after else software after

/-- `-ENOMEM` -/
def eNomem : Int := -12

abbrev Routine (Value : Type) : Type := Prog (Kernel Resource) Value

section Code

variable {led : Nat} (core : Core led) (pattern : List (BitVec 32)) (cdev : LedClassdev)

/-- A pattern is two delays, or it is not taken. -/
def patternDelays (s : Blink) : Blink :=
  match pattern with
  | [on, off] => { s with delayOn := on.setWidth 64, delayOff := off.setWidth 64 }
  | _ => s

/-- `led_get_default_pattern` allocates what it gives. -/
def patternInit : Routine LedClassdev := do
  let ret ← obtaining .pattern
  if ret ≠ 0 then return cdev
  else
    let cdev := { cdev with blink := patternDelays pattern cdev.blink }
    freeing .pattern
    return cdev

def defaultInit : Routine LedClassdev :=
  if cdev.initDefaultTrigger then do
    let cdev ← patternInit pattern cdev
    return { cdev with initDefaultTrigger := false }
  else return cdev

/-- `led_blink_set` with the delays of the LED. -/
def blinkSet (trigger : Trigger) : LedClassdev :=
  { cdev with blink := core.blinkSet trigger cdev.blink }

def setOff : LedClassdev := { cdev with blink := core.off cdev.blink }

/-- `kzalloc` of ten bytes, and `memcpy` of six into them. -/
def trigData (name : String) : LedTrigData := ⟨CString.ascii name ++ List.replicate 4 0⟩

/-- `breath_trig_activate` and `timer2_trig_activate`, which differ in the name and in what they wait for. -/
def namedActivate (trigger : Trigger) (name : String) : Routine (Int × LedClassdev) := do
  let ret ← obtaining .ledData
  if ret ≠ 0 then return (eNomem, cdev)
  else
    let cdev ← defaultInit pattern { cdev with triggerData := some (trigData name) }
    return (0, blinkSet core cdev trigger)

def normalTrigActivate : Routine (Int × LedClassdev) := do
  let cdev ← defaultInit pattern cdev
  return (0, blinkSet core cdev .normal)

def breathTrigActivate : Routine (Int × LedClassdev) :=
  namedActivate core pattern cdev .breath "breath"

def timer2TrigActivate : Routine (Int × LedClassdev) :=
  namedActivate core pattern cdev .timer2 "timer2"

def normalTrigDeactivate : Routine LedClassdev := return setOff core cdev

def breathTrigDeactivate : Routine LedClassdev := do
  freeing .ledData
  return setOff core cdev

def timer2TrigDeactivate : Routine LedClassdev := do
  freeing .ledData
  return cdev

def activate : Trigger → Routine (Int × LedClassdev)
  | .normal => normalTrigActivate core pattern cdev
  | .breath => breathTrigActivate core pattern cdev
  | .timer2 => timer2TrigActivate core pattern cdev

def deactivate : Trigger → Routine LedClassdev
  | .normal => normalTrigDeactivate core cdev
  | .breath => breathTrigDeactivate core cdev
  | .timer2 => timer2TrigDeactivate cdev

end Code

/-! ### The LED core -/

section LedCore

variable {led : Nat} (core : Core led) (pattern : List (BitVec 32)) (cdev : LedClassdev)

/-- The LED has no trigger, and is off. -/
def cleared : LedClassdev :=
  { setOff core cdev with trigger := none, triggerData := none }

def removeTrigger : Routine LedClassdev :=
  match cdev.trigger with
  | none => return cdev
  | some trigger => do
      let cdev ← deactivate core { cdev with blink := core.stop cdev.blink } trigger
      return { cleared core cdev with initDefaultTrigger := false }

/-- `groups` tells whether the attributes of the new trigger can be made. -/
def addTrigger (groups : Bool) (trigger : Trigger) : Routine LedClassdev := do
  let (ret, cdev) ← activate core pattern { cdev with trigger := some trigger } trigger
  if ret ≠ 0 then return cleared core cdev
  else if groups then return cdev
  else
    let cdev ← deactivate core cdev trigger
    return cleared core cdev

def ledTriggerSet (groups : Bool) (trigger : Option Trigger) : Routine LedClassdev := do
  let cdev ← removeTrigger core cdev
  match trigger with
  | none => return cdev
  | some trigger => addTrigger core pattern cdev groups trigger

end LedCore

/-! ### Memory -/

/-- The data that belongs to a trigger. -/
def Trigger.data : Trigger → Option LedTrigData
  | .normal => none
  | .breath => some (trigData "breath")
  | .timer2 => some (trigData "timer2")

/-- The driver keeps a request of this trigger. -/
def Requested (trigger : Trigger) (s : Blink) : Prop :=
  ∃ asked : Blink, SameRequest (asked.request trigger.name) s

/-- What is held is the data of the LED's trigger, which carries its name, no pattern is left, and what the driver keeps is a request of that trigger. -/
structure Owned (cdev : LedClassdev) (ledger : Ledger Resource) : Prop where
  data : cdev.triggerData = cdev.trigger.bind Trigger.data
  ledData : ledger .ledData = .obtainedIf cdev.triggerData.isSome
  pattern : ledger .pattern = .absent
  requested : ∀ trigger, cdev.trigger = some trigger → Requested trigger cdev.blink

theorem SameRequest.trans {a b c : Blink} (hab : SameRequest a b) (hbc : SameRequest b c) :
    SameRequest a c :=
  ⟨hbc.1.trans hab.1, hbc.2.trans hab.2⟩

theorem Requested.same {trigger : Trigger} {s after : Blink} (hrequested : Requested trigger s)
    (hsame : SameRequest s after) : Requested trigger after := by
  obtain ⟨asked, hasked⟩ := hrequested
  exact ⟨asked, hasked.trans hsame⟩

section Keeps

variable {led : Nat} {core : Core led} {pattern : List (BitVec 32)} {cdev : LedClassdev}
  {choice : Choice Resource} {ledger : Ledger Resource}

theorem requested_blinkSet (core : Core led) (trigger : Trigger) (s : Blink) :
    Requested trigger (core.blinkSet trigger s) := by
  obtain ⟨events, ret, after, htrace, hset⟩ := core.sends trigger s
  obtain rfl := (ledsBlinkSet_after htrace).1
  rw [hset]
  by_cases hret : ret = 0
  · rw [if_pos hret]
    exact ⟨s, rfl, rfl⟩
  · rw [if_neg hret]
    exact ⟨s, core.softwareKeeps _⟩

theorem keeps_patternInit {post : LedClassdev → Ledger Resource → Prop}
    (hpattern : ledger .pattern = .absent)
    (hpost : ∀ blink, post { cdev with blink := blink } ledger) :
    (patternInit pattern cdev).Keeps choice post ledger := by
  rw [patternInit]
  by_cases hret : choice.obtain .pattern = 0
  · rw [Prog.keeps_obtained hret hpattern, Prog.keeps_bind, Prog.keeps_free]
    have hback : Function.update (Function.update ledger .pattern .obtained) .pattern .absent =
        ledger := by
      rw [Function.update_idem, ← hpattern, Function.update_eq_self]
    rw [hback]
    exact ⟨Function.update_self _ _ _, hpost _⟩
  · rw [Prog.keeps_not_obtained hret]
    exact hpost cdev.blink

theorem keeps_defaultInit {post : LedClassdev → Ledger Resource → Prop}
    (hpattern : ledger .pattern = .absent)
    (hpost : ∀ blink, post { cdev with blink := blink, initDefaultTrigger := false } ledger) :
    (defaultInit pattern cdev).Keeps choice post ledger := by
  rw [defaultInit]
  by_cases hdefault : cdev.initDefaultTrigger = true
  · rw [if_pos hdefault, Prog.keeps_bind]
    exact keeps_patternInit hpattern hpost
  · rw [if_neg hdefault]
    have hsame : cdev = { cdev with initDefaultTrigger := false } := by
      rw [← Bool.eq_false_iff.mpr hdefault]
    have hlast := hpost cdev.blink
    rw [← hsame] at hlast
    exact hlast

/-- What an activation leaves: the memory of the trigger if it returns 0, and none if it does not. -/
def Activated (trigger : Trigger) (current : Option Trigger) (result : Int × LedClassdev)
    (left : Ledger Resource) : Prop :=
  left .pattern = .absent ∧ result.2.trigger = current ∧
    if result.1 = 0 then
      result.2.triggerData = trigger.data ∧
        left .ledData = .obtainedIf trigger.data.isSome ∧ Requested trigger result.2.blink
    else left .ledData = .absent

theorem keeps_namedActivate {trigger : Trigger} {name : String}
    (hname : trigger.data = some (trigData name)) (hnone : ledger .ledData = .absent)
    (hpattern : ledger .pattern = .absent) :
    (namedActivate core pattern cdev trigger name).Keeps choice
      (Activated trigger cdev.trigger) ledger := by
  rw [namedActivate]
  by_cases hret : choice.obtain .ledData = 0
  · rw [Prog.keeps_obtained hret hnone, Prog.keeps_bind]
    have hleft : Function.update ledger .ledData Held.obtained .pattern = .absent :=
      (Function.update_of_ne (by decide) _ _).trans hpattern
    refine keeps_defaultInit hleft fun blink => ⟨hleft, rfl, ?_⟩
    rw [if_pos rfl, hname]
    exact ⟨rfl, Function.update_self _ _ _, requested_blinkSet core trigger blink⟩
  · rw [Prog.keeps_not_obtained hret]
    exact ⟨hpattern, rfl, hnone⟩

theorem keeps_activate (trigger : Trigger) (hdata : cdev.triggerData = none)
    (hnone : ledger .ledData = .absent) (hpattern : ledger .pattern = .absent) :
    (activate core pattern cdev trigger).Keeps choice (Activated trigger cdev.trigger) ledger := by
  cases trigger with
  | normal =>
      rw [activate, normalTrigActivate, Prog.keeps_bind]
      refine keeps_defaultInit hpattern fun blink => ⟨hpattern, rfl, ?_⟩
      rw [if_pos rfl]
      exact ⟨hdata, hnone, requested_blinkSet core .normal blink⟩
  | breath => exact keeps_namedActivate rfl hnone hpattern
  | timer2 => exact keeps_namedActivate rfl hnone hpattern

theorem keeps_deactivate {trigger : Trigger} {post : LedClassdev → Ledger Resource → Prop}
    (hheld : ledger .ledData = .obtainedIf trigger.data.isSome)
    (hpost : ∀ blink, post { cdev with blink := blink } (Function.update ledger .ledData .absent)) :
    (deactivate core cdev trigger).Keeps choice post ledger := by
  cases trigger with
  | normal =>
      have hsame : Function.update ledger .ledData .absent = ledger := by
        rw [← show ledger .ledData = .absent from hheld, Function.update_eq_self]
      rw [hsame] at hpost
      exact hpost _
  | breath =>
      rw [deactivate, breathTrigDeactivate, Prog.keeps_bind, Prog.keeps_free]
      exact ⟨hheld, hpost _⟩
  | timer2 =>
      rw [deactivate, timer2TrigDeactivate, Prog.keeps_bind, Prog.keeps_free]
      exact ⟨hheld, hpost _⟩

theorem owned_cleared {left : Ledger Resource} (cdev : LedClassdev)
    (hnone : left .ledData = .absent) (hpattern : left .pattern = .absent) :
    Owned (cleared core cdev) left :=
  ⟨rfl, hnone, hpattern, fun trigger htrigger => by cases htrigger⟩

theorem keeps_removeTrigger (howned : Owned cdev ledger) :
    (removeTrigger core cdev).Keeps choice
      (fun cdev left => Owned cdev left ∧ cdev.trigger = none) ledger := by
  rw [removeTrigger]
  cases htrigger : cdev.trigger with
  | none => exact ⟨howned, htrigger⟩
  | some trigger =>
      have hdata : cdev.triggerData = trigger.data := by
        rw [howned.data, htrigger]
        rfl
      dsimp only
      rw [Prog.keeps_bind]
      refine keeps_deactivate (hdata ▸ howned.ledData) fun blink => ⟨?_, rfl⟩
      have hpattern : Function.update ledger .ledData Held.absent .pattern = .absent :=
        (Function.update_of_ne (by decide) _ _).trans howned.pattern
      exact ⟨rfl, Function.update_self _ _ _, hpattern, fun trigger hsome => by cases hsome⟩

theorem keeps_addTrigger (groups : Bool) (trigger : Trigger) (howned : Owned cdev ledger)
    (hnone : cdev.trigger = none) :
    (addTrigger core pattern cdev groups trigger).Keeps choice Owned ledger := by
  have hdata : cdev.triggerData = none := by
    rw [howned.data, hnone]
    rfl
  have habsent : ledger .ledData = .absent := by
    rw [howned.ledData, hdata]
    rfl
  have hactivate : (activate core pattern { cdev with trigger := some trigger } trigger).Keeps choice
      (Activated trigger (some trigger)) ledger :=
    @keeps_activate led core pattern { cdev with trigger := some trigger } choice ledger trigger
      hdata habsent howned.pattern
  rw [addTrigger, Prog.keeps_bind]
  refine hactivate.weaken fun result left hleft => ?_
  obtain ⟨ret, cdev'⟩ := result
  obtain ⟨hpattern, hcurrent, hleft⟩ := hleft
  by_cases hret : ret = 0
  · rw [if_pos hret] at hleft
    obtain ⟨hdata, hheld, hrequested⟩ := hleft
    dsimp only
    rw [if_neg (not_not.mpr hret)]
    cases groups with
    | true =>
        rw [if_pos rfl]
        refine ⟨?_, ?_, hpattern, fun other hother => ?_⟩
        · rw [hcurrent]
          exact hdata
        · rw [hdata]
          exact hheld
        · rw [hcurrent] at hother
          obtain rfl := Option.some.inj hother
          exact hrequested
    | false =>
        rw [if_neg Bool.false_ne_true, Prog.keeps_bind]
        refine keeps_deactivate hheld fun blink => owned_cleared _ (Function.update_self _ _ _) ?_
        exact (Function.update_of_ne (by decide) _ _).trans hpattern
  · rw [if_neg hret] at hleft
    dsimp only
    rw [if_pos hret]
    exact owned_cleared _ hleft hpattern

theorem keeps_ledTriggerSet (groups : Bool) (trigger : Option Trigger)
    (howned : Owned cdev ledger) :
    (ledTriggerSet core pattern cdev groups trigger).Keeps choice Owned ledger := by
  rw [ledTriggerSet, Prog.keeps_bind]
  refine (keeps_removeTrigger howned).weaken fun cdev' left hleft => ?_
  cases trigger with
  | none => exact hleft.1
  | some trigger => exact keeps_addTrigger groups trigger hleft.1 hleft.2

end Keeps

/-! ### Runs -/

structure TriggerLed where
  cdev : LedClassdev
  calls : List (Event (Kernel Resource))

inductive Action
  | change (trigger : Option Trigger)
  /-- `led_trigger_set_default` -/
  | default (trigger : Trigger)
  | delay (delay : Delay) (buf : List UInt8)
  | brightness (value : UInt32)

/-- The trigger whose attributes the delays are. -/
def Trigger.ofBlink : BlinkTrigger → Trigger
  | .timer2 => .timer2
  | .breath => .breath

/-- A change of the trigger, with everything that others decide. -/
inductive Changes (led : Nat) (trigger : Option Trigger) (cdev : LedClassdev) :
    List (Event (Kernel Resource)) → LedClassdev → Prop
  | change (core : Core led) (pattern : List (BitVec 32)) (groups : Bool)
      (choice : Choice Resource) :
      Changes led trigger cdev
        ((ledTriggerSet core pattern cdev groups trigger).answered choice.respond).1
        ((ledTriggerSet core pattern cdev groups trigger).answered choice.respond).2

inductive Step (led : Nat) : TriggerLed → Action → TriggerLed → Prop
  | change {s : TriggerLed} {calls : List (Event (Kernel Resource))} {after : LedClassdev}
      (trigger : Option Trigger) (hchanges : Changes led trigger s.cdev calls after) :
      Step led s (.change trigger) ⟨after, s.calls ++ calls⟩
  | default {s : TriggerLed} {calls : List (Event (Kernel Resource))} {after : LedClassdev}
      (trigger : Trigger)
      (hchanges : Changes led (some trigger) { s.cdev with initDefaultTrigger := true } calls
        after) :
      Step led s (.default trigger) ⟨after, s.calls ++ calls⟩
  | delay {s : TriggerLed} {trigger : BlinkTrigger} {delay : Delay} {buf : List UInt8}
      {software : Blink → Blink} {size ret : Int} {events : List (Event Smbus)} {after : Blink}
      (hcurrent : s.cdev.trigger = some (.ofBlink trigger))
      (hsoftware : ∀ blink, SameRequest blink (software blink))
      (hstore : (ledDelayStore software led trigger delay buf size s.cdev.blink).Trace events
        (ret, after)) :
      Step led s (.delay delay buf) { s with cdev := { s.cdev with blink := after } }
  | brightness {s : TriggerLed} (value : UInt32) :
      Step led s (.brightness value)
        { s with cdev := { s.cdev with blink := { s.cdev.blink with
          status := { s.cdev.blink.status with light := lightOf value }
          brightness := value } } }

section Runs

variable {led : Nat} {trigger : Option Trigger} {cdev after : LedClassdev}
  {past calls : List (Event (Kernel Resource))}

theorem Owned.setDefault {ledger : Ledger Resource} (howned : Owned cdev ledger) :
    Owned { cdev with initDefaultTrigger := true } ledger :=
  ⟨howned.data, howned.ledData, howned.pattern, howned.requested⟩

theorem Owned.setBlink {ledger : Ledger Resource} {blink : Blink} (howned : Owned cdev ledger)
    (hrequested : ∀ trigger, cdev.trigger = some trigger → Requested trigger blink) :
    Owned { cdev with blink := blink } ledger :=
  ⟨howned.data, howned.ledData, howned.pattern, hrequested⟩

/-- What holds between two calls of the LED core. -/
def Accounted (cdev : LedClassdev) (calls : List (Event (Kernel Resource))) : Prop :=
  Ledger.Accepts (fun _ => .absent) calls ∧ Owned cdev (Ledger.after (fun _ => .absent) calls)

theorem Changes.accounted (hchanges : Changes led trigger cdev calls after)
    (hbefore : Accounted cdev past) : Accounted after (past ++ calls) := by
  cases hchanges with
  | change core pattern groups choice =>
      have hkeeps : (ledTriggerSet core pattern cdev groups trigger).Keeps choice Owned _ :=
        keeps_ledTriggerSet groups trigger hbefore.2
      obtain ⟨hcalls, howned⟩ := Prog.keeps_iff.mp hkeeps
      rw [Accounted, Ledger.accepts_append, Ledger.after_append]
      exact ⟨⟨hbefore.1, hcalls⟩, howned⟩

/-- A store of a delay is a request of the trigger, or changes nothing. -/
theorem requested_ledDelayStore {trigger : BlinkTrigger} {delay : Delay} {buf : List UInt8}
    {software : Blink → Blink} {size ret : Int} {events : List (Event Smbus)} {s after : Blink}
    (hsoftware : ∀ blink, SameRequest blink (software blink))
    (hrequested : Requested (.ofBlink trigger) s)
    (hstore : (ledDelayStore software led trigger delay buf size s).Trace events (ret, after)) :
    Requested (.ofBlink trigger) after := by
  rw [ledDelayStore] at hstore
  cases hstate : CString.kstrtoul buf with
  | error code =>
      rw [hstate] at hstore
      obtain ⟨-, -, rfl⟩ := Prog.trace_pair.mp hstore
      exact hrequested
  | ok state =>
      rw [hstate] at hstore
      obtain ⟨blink, hset, hpair⟩ := Prog.trace_map.mp hstore
      obtain ⟨⟨sent, driven⟩, hsent, hblink⟩ := Prog.trace_map.mp hset
      obtain rfl := (ledsBlinkSet_after hsent).1
      obtain rfl : after = blink := (Prod.mk.inj hpair).2
      have hname : trigger.name = (Trigger.ofBlink trigger).name := by
        cases trigger <;> rfl
      rw [hblink]
      dsimp only
      rw [hname]
      by_cases hsent : sent = 0
      · rw [if_pos hsent]
        exact ⟨_, rfl, rfl⟩
      · rw [if_neg hsent]
        exact ⟨_, hsoftware _⟩

theorem Step.accounted {before after : TriggerLed} {action : Action}
    (hstep : Step led before action after) (hbefore : Accounted before.cdev before.calls) :
    Accounted after.cdev after.calls := by
  cases hstep with
  | change trigger hchanges => exact hchanges.accounted hbefore
  | default trigger hchanges => exact hchanges.accounted ⟨hbefore.1, hbefore.2.setDefault⟩
  | @delay trigger delay buf software size ret events blink hcurrent hsoftware hstore =>
      refine ⟨hbefore.1, hbefore.2.setBlink fun other hother => ?_⟩
      rw [hcurrent] at hother
      obtain rfl := Option.some.inj hother
      exact requested_ledDelayStore hsoftware (hbefore.2.requested _ hcurrent) hstore
  | brightness value =>
      exact ⟨hbefore.1, hbefore.2.setBlink fun other hother =>
        (hbefore.2.requested other hother).same ⟨rfl, rfl⟩⟩

/-- However the triggers of an LED are changed, whatever fails and whatever the controller answers: memory is given back once and only if it is held, what is held is the data of the trigger there is, with its name in it, and the mode and the rate that the driver keeps are of a request of that trigger. -/
theorem triggers_accounted {blink : Blink} {flag : Bool} {actions : List Action} {s : TriggerLed}
    (hrun : Run (Step led) ⟨⟨blink, flag, none, none⟩, []⟩ actions s) :
    Accounted s.cdev s.calls := by
  let Inv (s : TriggerLed) : Prop := Accounted s.cdev s.calls
  have hstep : ∀ before action after, Inv before → Step led before action after → Inv after :=
    fun _ _ _ hbefore hstep => hstep.accounted hbefore
  have hstart : Inv ⟨⟨blink, flag, none, none⟩, []⟩ :=
    ⟨trivial, rfl, rfl, rfl, fun _ hsome => by cases hsome⟩
  have hlast : Inv s := hrun.invariant hstep hstart
  exact hlast

end Runs

/-- A core on a bus that answers every transfer with 1. -/
def answeringCore (led : Nat) : Core led where
  stop := id
  off := fun s => { s with status := { s.status with light := 0 }, brightness := 0 }
  software := id
  blinkSet := fun trigger s =>
    ((ledsBlinkSet led (some trigger.name) s).answered fun _ => (1 : Int)).2.2
  stopKeeps := fun _ => ⟨rfl, rfl⟩
  offKeeps := fun _ => ⟨rfl, rfl⟩
  softwareKeeps := fun _ => ⟨rfl, rfl⟩
  sends := fun _ _ => ⟨_, _, _, Prog.trace_answered _ _, (ite_self _).symm⟩

/-- timer2, and then breath: the data of timer2 is gone. -/
theorem triggers_accounted_breath : ∃ s : TriggerLed,
    Run (Step 0) ⟨⟨⟨⟨0, 0, 0, ⟨0, 0, 0⟩⟩, 0, 0, 0⟩, false, none, none⟩, []⟩
      [.change (some .timer2), .change (some .breath)] s ∧
    s.cdev.trigger = some .breath ∧ s.cdev.triggerData = some (trigData "breath") ∧
    Ledger.after (fun _ => .absent) s.calls .ledData = .obtained ∧
    Ledger.Accepts (fun _ => .absent) s.calls := by
  let start : TriggerLed := ⟨⟨⟨⟨0, 0, 0, ⟨0, 0, 0⟩⟩, 0, 0, 0⟩, false, none, none⟩, []⟩
  let choice : Choice Resource := ⟨fun _ => 0, fun _ => 0⟩
  obtain ⟨s, hrun, htrigger⟩ : ∃ s, Run (Step 0) start
      [.change (some .timer2), .change (some .breath)] s ∧ s.cdev.trigger = some .breath :=
    ⟨_, .cons (.change _ (.change (answeringCore 0) [] true choice))
      (.single (.change _ (.change (answeringCore 0) [] true choice))), rfl⟩
  obtain ⟨haccepts, howned⟩ := triggers_accounted hrun
  have hdata : s.cdev.triggerData = some (trigData "breath") := by
    rw [howned.data, htrigger]
    rfl
  refine ⟨s, hrun, htrigger, hdata, ?_, haccepts⟩
  rw [howned.ledData, hdata]
  rfl

end FrontPanel.Led.Triggers
