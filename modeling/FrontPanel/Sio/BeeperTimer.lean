import FrontPanel.Sio.BeeperCount

/-!
# Cancelling the beeper timer

`del_timer` takes a pending timer off its list and does not wait for a handler that has begun. Here `beeper_write` and `beeperTimerHandle` are taken apart: a command is under way from its first effect to its last, the handler from its expiry to its count check, and the two are interleaved step by step. Commands come one at a time, and so do runs of the handler, which the kernel never runs twice at once. The timer is not pending from its expiry to `mod_timer`.

A command that cancels in that gap finds no pending timer, clears `timerStatus`, and the handler then makes the timer pending again. What the module promises itself, that `timerStatus` tells whether the timer is pending, holds as long as the handler reaches `mod_timer` only on a timer that is not cancelled, and reaches its count only outside the two lines that start the timer.
-/

namespace FrontPanel.Sio

namespace Beeper

open CString

/-! ### What a text asks for -/

/-- What `beeper_write` is asked for by the text it is given. -/
inductive Order
  | boot (opened : Bool)
  | set (dat : Nat)
  /-- `timer`, and `rep` with its count -/
  | start (delayOff delayOn : BitVec 64) (gCount : Option (BitVec 64))
  | refuse (result : Int)

def timerOrder (buf : List UInt8) : Order :=
  match vsscanf (format "timer # #") buf with
  | [a, b] =>
      let a := BitVec.ofInt 64 a
      let b := BitVec.ofInt 64 b
      if delayRange a ∧ delayRange b then .start a b none else .refuse eFault
  | _ => .refuse eFault

def repOrder (buf : List UInt8) : Order :=
  match vsscanf (format "rep # # #") buf with
  | [count, c, d] =>
      let c := BitVec.ofInt 64 c
      let d := BitVec.ofInt 64 d
      if delayRange c ∧ delayRange d then .start c d (some (BitVec.ofInt 64 count))
      else .refuse eFault
  | _ => .refuse eFault

def order (buf : List UInt8) : Order :=
  if strncmp buf (ascii "booton") 6 = 0 ∨ strncmp buf (ascii "BOOTON") 6 = 0 then .boot true
  else if strncmp buf (ascii "bootoff") 7 = 0 ∨ strncmp buf (ascii "BOOTOFF") 7 = 0 then .boot false
  else if strncmp buf (ascii "on") 3 = 0 ∨ strncmp buf (ascii "ON") 3 = 0 then .set 1
  else if strncmp buf (ascii "off") 4 = 0 ∨ strncmp buf (ascii "OFF") 4 = 0 then .set 0
  else if strncmp buf (ascii "one") 4 = 0 ∨ strncmp buf (ascii "ONE") 4 = 0 then .set 2
  else if strncmp buf (ascii "timer ") 6 = 0 then timerOrder buf
  else if strncmp buf (ascii "rep ") 3 = 0 then repOrder buf
  else .refuse eInval

def setBootByte (s : Beeper) (opened : Bool) : Beeper :=
  { s with bootByte := if opened then s.bootByte &&& ~~~0x01 else s.bootByte ||| 0x01 }

def setDelays (s : Beeper) (delayOff delayOn : BitVec 64) (gCount : Option (BitVec 64)) : Beeper :=
  { s with delayOff, delayOn, gCount := gCount.getD s.gCount }

/-- An order carried out with nothing in between. -/
def obey (s : Beeper) : Order → Beeper × Int
  | .boot opened => (s.setBootByte opened, 0)
  | .set dat => ({ s.delTimer with timerStatus := 0 }.setBeeper dat, 0)
  | .start delayOff delayOn gCount => ((s.setDelays delayOff delayOn gCount).startTimer, 0)
  | .refuse result => (s, result)

theorem timerCommand_order (s : Beeper) (buf : List UInt8) :
    s.timerCommand buf = s.obey (timerOrder buf) := by
  rw [timerCommand, timerOrder]
  obtain _ | ⟨a, _ | ⟨b, _ | ⟨c, numbers⟩⟩⟩ := vsscanf (format "timer # #") buf
  · rfl
  · rfl
  · dsimp only
    split <;> rfl
  · rfl

theorem repCommand_order (s : Beeper) (buf : List UInt8) :
    s.repCommand buf = s.obey (repOrder buf) := by
  rw [repCommand, repOrder]
  obtain _ | ⟨count, _ | ⟨c, _ | ⟨d, _ | ⟨e, numbers⟩⟩⟩⟩ := vsscanf (format "rep # # #") buf
  · rfl
  · rfl
  · rfl
  · dsimp only
    split <;> rfl
  · rfl

theorem beeperCommand_order (s : Beeper) (buf : List UInt8) :
    s.beeperCommand buf = s.obey (order buf) := by
  rw [beeperCommand, order, timerCommand_order, repCommand_order]
  simp only [apply_ite s.obey]
  rfl

/-! ### The handler in three parts -/

/-- `beeperTimerHandle` up to `set_beeper`. -/
def handleBeep (s : Beeper) : Beeper :=
  (if s.delayOn < 1 ∨ s.delayOff < 1 then { s with delayOn := 500, delayOff := 2000 }
    else s).setBeeper 2

/-- `beeperTimerHandle` after `mod_timer`. -/
def handleCount (s : Beeper) : Beeper :=
  if s.gCount ≠ 0 then
    let s := { s with count := s.count + 1 }
    if s.gCount = s.count.signExtend 64 then { s.delTimer with timerStatus := 0, count := 0 }
    else s
  else s

theorem beeperTimerHandle_parts (s : Beeper) :
    s.beeperTimerHandle = s.handleBeep.modTimer.handleCount := rfl

def sataioBeepExit (s : Beeper) : Beeper :=
  let s := { s with workPending := false }
  if s.timerStatus = 1 then s.delTimer else s

end Beeper

open Beeper CString

/-! ### The interleaving -/

/-- Where the command under way is: what it does next. -/
inductive WriterPc
  | idle
  /-- `del_timer` is done, `timerStatus = 0` is next -/
  | clear (dat : Nat)
  | beep (dat : Nat)
  /-- `if(0 == timerStatus)` is next -/
  | test
  | add
  /-- `add_timer` is done, `timerStatus = 1` is next -/
  | flag

/-- Where the run of `beeperTimerHandle` is: what it does next. -/
inductive HandlerPc
  | idle
  | beep
  /-- `mod_timer` is next -/
  | arm
  | count

structure Beeping where
  dev : Beeper
  handler : HandlerPc
  writer : WriterPc

inductive BeeperAction
  | write (buffer : List UInt8) (copied : Bool)
  | clear
  | beep
  | test
  | add
  | flag
  | expire
  | handleBeep
  | arm
  | count
  | work

namespace Beeping

/-- A call of `beeper_write` up to its first effect, which is all of it unless it touches the timer. -/
def begin (s : Beeping) (buffer : List UInt8) (copied : Bool) : Beeping :=
  if buffer.length > 31 then s
  else if ¬ copied then s
  else
    match order (beeperText buffer) with
    | .boot opened => { s with dev := s.dev.setBootByte opened }
    | .set dat => { s with dev := s.dev.delTimer, writer := .clear dat }
    | .start delayOff delayOn gCount =>
        { s with dev := s.dev.setDelays delayOff delayOn gCount, writer := .test }
    | .refuse _ => s

inductive Step : Beeping → BeeperAction → Beeping → Prop
  | write {s : Beeping} (buffer : List UInt8) (copied : Bool) (hat : s.writer = .idle) :
      Step s (.write buffer copied) (s.begin buffer copied)
  | clear {s : Beeping} {dat : Nat} (hat : s.writer = .clear dat) :
      Step s .clear { s with dev := { s.dev with timerStatus := 0 }, writer := .beep dat }
  | beep {s : Beeping} {dat : Nat} (hat : s.writer = .beep dat) :
      Step s .beep { s with dev := s.dev.setBeeper dat, writer := .idle }
  | test {s : Beeping} (hat : s.writer = .test) :
      Step s .test { s with writer := if s.dev.timerStatus = 0 then .add else .idle }
  | add {s : Beeping} (hat : s.writer = .add) :
      Step s .add { s with dev := s.dev.addTimer, writer := .flag }
  | flag {s : Beeping} (hat : s.writer = .flag) :
      Step s .flag { s with dev := { s.dev with timerStatus := 1 }, writer := .idle }
  | expire {s : Beeping} (hpending : s.dev.timerPending = true) (hat : s.handler = .idle) :
      Step s .expire { s with dev := { s.dev with timerPending := false }, handler := .beep }
  | handleBeep {s : Beeping} (hat : s.handler = .beep) :
      Step s .handleBeep { s with dev := s.dev.handleBeep, handler := .arm }
  | arm {s : Beeping} (hat : s.handler = .arm) :
      Step s .arm { s with dev := s.dev.modTimer, handler := .count }
  | count {s : Beeping} (hat : s.handler = .count) :
      Step s .count { s with dev := s.dev.handleCount, handler := .idle }
  | work {s : Beeping} (hpending : s.dev.workPending = true) :
      Step s .work { s with dev := { s.dev with workPending := false }.beeperDelayWorkFunc }

def initial (bootByte : UInt8) (on : Bool) : Beeping where
  dev := .initial bootByte on
  handler := .idle
  writer := .idle

/-- No handler and no command is part-way through. -/
structure AtRest (s : Beeping) : Prop where
  handler : s.handler = .idle
  writer : s.writer = .idle

theorem Step.test_clear {s : Beeping} (hat : s.writer = .test) (hzero : s.dev.timerStatus = 0) :
    Step s .test { s with writer := .add } := by
  have hstep := Step.test hat
  rwa [if_pos hzero] at hstep

theorem Step.test_set {s : Beeping} (hat : s.writer = .test) (hone : s.dev.timerStatus ≠ 0) :
    Step s .test { s with writer := .idle } := by
  have hstep := Step.test hat
  rwa [if_neg hone] at hstep

/-! ### A command or an expiry with nothing in between -/

theorem run_of_step {before after : Beeper} {event : BeeperEvent}
    (hstep : Beeper.step before event after) :
    ∃ actions, Run Step ⟨before, .idle, .idle⟩ actions ⟨after, .idle, .idle⟩ := by
  cases event with
  | write buffer copied ret =>
      have hafter : (before.beeperWrite buffer copied).1 = after := congrArg Prod.fst hstep
      have hwrite : Step ⟨before, .idle, .idle⟩ (.write buffer copied)
          (begin ⟨before, .idle, .idle⟩ buffer copied) := .write buffer copied rfl
      rw [beeperWrite] at hafter
      rw [begin] at hwrite
      split at hafter
      · next hlong =>
        obtain rfl := hafter
        rw [if_pos hlong] at hwrite
        exact ⟨_, .single hwrite⟩
      next hfits =>
      rw [if_neg hfits] at hwrite
      split at hafter
      · next hfault =>
        obtain rfl := hafter
        rw [if_pos hfault] at hwrite
        exact ⟨_, .single hwrite⟩
      next hcopied =>
      rw [if_neg hcopied] at hwrite
      dsimp only at hafter
      rw [beeperCommand_order] at hafter
      cases horder : order (beeperText buffer) with
      | boot opened =>
          rw [horder] at hafter hwrite
          obtain rfl := hafter
          exact ⟨_, .single hwrite⟩
      | set dat =>
          rw [horder] at hafter hwrite
          obtain rfl := hafter
          exact ⟨_, .cons hwrite <| .cons (.clear rfl) <| .single (.beep rfl)⟩
      | start delayOff delayOn gCount =>
          rw [horder] at hafter hwrite
          obtain rfl := hafter
          dsimp only [obey, startTimer]
          split
          · next hclear =>
            exact ⟨_, .cons hwrite <| .cons (.test_clear rfl hclear) <| .cons (.add rfl) <|
              .single (.flag rfl)⟩
          · next hset => exact ⟨_, .cons hwrite <| .single (.test_set rfl hset)⟩
      | refuse result =>
          rw [horder] at hafter hwrite
          obtain rfl := hafter
          exact ⟨_, .single hwrite⟩
  | expire =>
      obtain ⟨hpending, rfl⟩ := hstep
      rw [beeperTimerHandle_parts]
      exact ⟨_, .cons (.expire hpending rfl) <| .cons (.handleBeep rfl) <| .cons (.arm rfl) <|
        .single (.count rfl)⟩
  | work =>
      obtain ⟨hpending, rfl⟩ := hstep
      exact ⟨_, .single (.work hpending)⟩

/-- A history of the atomic beeper is a run of this one. -/
theorem run_of_run {before after : Beeper} {events : List BeeperEvent}
    (hrun : Run Beeper.step before events after) :
    ∃ actions, Run Step ⟨before, .idle, .idle⟩ actions ⟨after, .idle, .idle⟩ := by
  induction hrun with
  | nil s => exact ⟨[], .nil _⟩
  | cons head _ ih =>
      obtain ⟨first, hfirst⟩ := run_of_step head
      obtain ⟨rest, hrest⟩ := ih
      exact ⟨first ++ rest, hfirst.append hrest⟩

/-! ### What a step does to the timer -/

theorem setBeeper_timer (s : Beeper) (dat : Nat) :
    (s.setBeeper dat).timerPending = s.timerPending ∧
      (s.setBeeper dat).timerStatus = s.timerStatus := by
  rw [setBeeper]
  split
  · exact ⟨rfl, rfl⟩
  split
  · exact ⟨rfl, rfl⟩
  split
  · exact ⟨rfl, rfl⟩
  · exact ⟨rfl, rfl⟩

theorem handleBeep_timer (s : Beeper) :
    s.handleBeep.timerPending = s.timerPending ∧ s.handleBeep.timerStatus = s.timerStatus := by
  rw [handleBeep]
  split
  · exact setBeeper_timer _ 2
  · exact setBeeper_timer _ 2

theorem handleCount_timer (s : Beeper) :
    (Hits s.gCount (s.count + 1) ∧ s.handleCount.timerPending = false ∧
      s.handleCount.timerStatus = 0) ∨
    (¬ Hits s.gCount (s.count + 1) ∧ s.handleCount.timerPending = s.timerPending ∧
      s.handleCount.timerStatus = s.timerStatus) := by
  rw [handleCount]
  split
  · next hset =>
    dsimp only
    split
    · next hhit => exact .inl ⟨⟨hset, hhit⟩, rfl, rfl⟩
    · next hmiss => exact .inr ⟨fun hhits => hmiss hhits.2, rfl, rfl⟩
  · next hnone => exact .inr ⟨fun hhits => hnone hhits.1, rfl, rfl⟩

/-- The write cancels the timer: it is `on`, `off` or `one`. -/
def Cancels (action : BeeperAction) : Prop :=
  ∃ buffer dat, action = .write buffer true ∧ buffer.length ≤ 31 ∧
    order (beeperText buffer) = .set dat

/-- The write starts the timer: it is an accepted `timer` or `rep`. -/
def Starts (action : BeeperAction) : Prop :=
  ∃ buffer delayOff delayOn gCount, action = .write buffer true ∧ buffer.length ≤ 31 ∧
    order (beeperText buffer) = .start delayOff delayOn gCount

theorem Cancels.order {buffer : List UInt8} {copied : Bool}
    (hcancels : Cancels (.write buffer copied)) :
    copied = true ∧ buffer.length ≤ 31 ∧ ∃ dat, order (beeperText buffer) = .set dat := by
  obtain ⟨_, dat, heq, hfits, horder⟩ := hcancels
  obtain ⟨rfl, rfl⟩ := BeeperAction.write.inj heq
  exact ⟨rfl, hfits, dat, horder⟩

theorem Starts.order {buffer : List UInt8} {copied : Bool}
    (hstarts : Starts (.write buffer copied)) :
    copied = true ∧ buffer.length ≤ 31 ∧ ∃ delayOff delayOn gCount,
      order (beeperText buffer) = .start delayOff delayOn gCount := by
  obtain ⟨_, delayOff, delayOn, gCount, heq, hfits, horder⟩ := hstarts
  obtain ⟨rfl, rfl⟩ := BeeperAction.write.inj heq
  exact ⟨rfl, hfits, delayOff, delayOn, gCount, horder⟩

/-- The first effect of a command: nothing to do with the timer, the timer deleted, or the delays set. -/
theorem begin_cases (s : Beeping) (buffer : List UInt8) (copied : Bool) :
    ((s.begin buffer copied).dev.timerPending = s.dev.timerPending ∧
      (s.begin buffer copied).dev.timerStatus = s.dev.timerStatus ∧
      (s.begin buffer copied).handler = s.handler ∧
      (s.begin buffer copied).writer = s.writer ∧ ¬ Cancels (.write buffer copied) ∧
      ¬ Starts (.write buffer copied)) ∨
    (∃ dat, s.begin buffer copied = { s with dev := s.dev.delTimer, writer := .clear dat }) ∨
    (∃ delayOff delayOn gCount, Starts (.write buffer copied) ∧ s.begin buffer copied =
      { s with dev := s.dev.setDelays delayOff delayOn gCount, writer := .test }) := by
  rw [begin]
  split
  · next hlong =>
    refine .inl ⟨rfl, rfl, rfl, rfl, fun hcancels => ?_, fun hstarts => ?_⟩
    · exact absurd hcancels.order.2.1 (Nat.not_le_of_gt hlong)
    · exact absurd hstarts.order.2.1 (Nat.not_le_of_gt hlong)
  next hfits =>
  split
  · next hfault =>
    exact .inl ⟨rfl, rfl, rfl, rfl, fun hcancels => hfault hcancels.order.1,
      fun hstarts => hfault hstarts.order.1⟩
  next hcopied =>
  have hcopied : copied = true := not_not.mp hcopied
  have hfits : buffer.length ≤ 31 := Nat.le_of_not_gt hfits
  -- an order that neither cancels nor starts the timer
  have hneither : (∀ dat, order (beeperText buffer) ≠ .set dat) →
      (∀ delayOff delayOn gCount,
        order (beeperText buffer) ≠ .start delayOff delayOn gCount) →
      ¬ Cancels (.write buffer copied) ∧ ¬ Starts (.write buffer copied) := by
    intro hset hstart
    refine ⟨fun hcancels => ?_, fun hstarts => ?_⟩
    · obtain ⟨-, -, dat, horder⟩ := hcancels.order
      exact hset dat horder
    · obtain ⟨-, -, delayOff, delayOn, gCount, horder⟩ := hstarts.order
      exact hstart delayOff delayOn gCount horder
  cases horder : order (beeperText buffer) with
  | boot opened =>
      rw [horder] at hneither
      exact .inl ⟨rfl, rfl, rfl, rfl, hneither nofun nofun⟩
  | set dat => exact .inr (.inl ⟨dat, rfl⟩)
  | start delayOff delayOn gCount =>
      refine .inr (.inr ⟨delayOff, delayOn, gCount, ?_, rfl⟩)
      exact ⟨buffer, delayOff, delayOn, gCount, by rw [hcopied], hfits, horder⟩
  | refuse result =>
      rw [horder] at hneither
      exact .inl ⟨rfl, rfl, rfl, rfl, hneither nofun nofun⟩

/-! ### The invariant -/

/-- The timer is pending, or expired and yet to be made pending by its handler. -/
def Going (s : Beeping) : Prop :=
  s.dev.timerPending = true ∨ s.handler = .beep ∨ s.handler = .arm

/-- The timer is cancelled: its flag is cleared, or is about to be. -/
def Cancelled (s : Beeping) : Prop :=
  (∃ dat, s.writer = .clear dat) ∨ (s.dev.timerStatus = 0 ∧ s.writer ≠ .flag)

/-- The handler makes only a timer pending that is not cancelled, and stops only one whose start is complete. -/
def Allows (s : Beeping) (action : BeeperAction) : Prop :=
  match action with
  | .arm => ¬ Cancelled s
  | .count => s.writer = .flag → ¬ Hits s.dev.gCount (s.dev.count + 1)
  | _ => True

/-- What the flag says of the timer, wherever the command and the handler are. -/
structure Told (s : Beeping) : Prop where
  flag : s.dev.timerStatus = 0 ∨ s.dev.timerStatus = 1
  pending : s.dev.timerPending = true → ¬ Cancelled s
  started : s.dev.timerStatus = 1 → (∃ dat, s.writer = .clear dat) ∨ Going s
  starting : s.writer = .flag → Going s
  adding : s.writer = .add → s.dev.timerStatus = 0

theorem told_initial (bootByte : UInt8) (on : Bool) : Told (initial bootByte on) where
  flag := .inl rfl
  pending := nofun
  started := nofun
  starting := nofun
  adding := nofun

theorem Told.congr {s s' : Beeping} (htold : Told s)
    (hpending : s'.dev.timerPending = s.dev.timerPending)
    (hstatus : s'.dev.timerStatus = s.dev.timerStatus) (hhandler : s'.handler = s.handler)
    (hwriter : s'.writer = s.writer) : Told s' := by
  obtain ⟨hflag, hpend, hstarted, hstarting, hadding⟩ := htold
  rw [Going] at hstarted hstarting
  rw [Cancelled] at hpend
  constructor
  · rw [hstatus]
    exact hflag
  · rw [hpending, Cancelled, hstatus, hwriter]
    exact hpend
  · rw [hstatus, hwriter, Going, hpending, hhandler]
    exact hstarted
  · rw [hwriter, Going, hpending, hhandler]
    exact hstarting
  · rw [hwriter, hstatus]
    exact hadding

theorem not_pending {s : Beeping} (hcancelled : Cancelled s) (htold : Told s) :
    s.dev.timerPending = false := by
  rw [← Bool.not_eq_true]
  intro hpending
  exact htold.pending hpending hcancelled

/-- The command is not between a call on the timer and the line that sets the flag after it. -/
def Steady (writer : WriterPc) : Prop := writer ≠ .flag ∧ ∀ dat, writer ≠ .clear dat

theorem Told.moved {s s' : Beeping} (htold : Told s) (hat : Steady s.writer)
    (hpending : s'.dev.timerPending = s.dev.timerPending)
    (hstatus : s'.dev.timerStatus = s.dev.timerStatus) (hhandler : s'.handler = s.handler)
    (hwriter : Steady s'.writer) (hadding : s'.writer = .add → s.dev.timerStatus = 0) :
    Told s' := by
  constructor
  · rw [hstatus]
    exact htold.flag
  · rw [hpending]
    intro hset hcancelled
    obtain ⟨dat, hclear⟩ | ⟨hzero, -⟩ := hcancelled
    · exact hwriter.2 dat hclear
    · rw [hstatus] at hzero
      exact htold.pending hset (.inr ⟨hzero, hat.1⟩)
  · rw [hstatus, Going, hpending, hhandler]
    intro hone
    obtain ⟨dat, hclear⟩ | hgoing := htold.started hone
    · exact absurd hclear (hat.2 dat)
    · exact .inr hgoing
  · intro hflag
    exact absurd hflag hwriter.1
  · rw [hstatus]
    exact hadding

theorem told_begin {s : Beeping} (htold : Told s) (hat : s.writer = .idle) (buffer : List UInt8)
    (copied : Bool) : Told (s.begin buffer copied) := by
  obtain ⟨hpending, hstatus, hhandler, hwriter, _, _⟩ | ⟨dat, hset⟩ |
    ⟨delayOff, delayOn, gCount, _, hstart⟩ := begin_cases s buffer copied
  · exact htold.congr hpending hstatus hhandler hwriter
  · rw [hset]
    exact ⟨htold.flag, nofun, fun _ => .inl ⟨dat, rfl⟩, nofun, nofun⟩
  · have hsteady : Steady s.writer := by
      rw [hat]
      exact ⟨nofun, nofun⟩
    rw [hstart]
    exact htold.moved hsteady rfl rfl rfl ⟨nofun, nofun⟩ nofun

theorem told_count {s : Beeping} (htold : Told s) (hat : s.handler = .count)
    (hallowed : Allows s .count) : Told { s with dev := s.dev.handleCount, handler := .idle } := by
  obtain ⟨hflag, hpend, hstarted, hstarting, hadding⟩ := htold
  obtain ⟨hhits, hpending, hstatus⟩ | ⟨_, hpending, hstatus⟩ := handleCount_timer s.dev
  · have hwriter : s.writer ≠ .flag := fun hflag => hallowed hflag hhits
    refine ⟨.inl hstatus, fun hset => ?_, fun hone => ?_, fun hflag => absurd hflag hwriter,
      fun _ => hstatus⟩
    · rw [hpending] at hset
      cases hset
    · rw [hstatus] at hone
      cases hone
  · -- a handler that has made the timer pending leaves it so
    have hgoing : Going s → Going { s with dev := s.dev.handleCount, handler := .idle } := by
      intro hgoing
      obtain hset | hbeep | harm := hgoing
      · exact .inl (hpending.trans hset)
      · rw [hat] at hbeep
        cases hbeep
      · rw [hat] at harm
        cases harm
    constructor
    · dsimp only
      rw [hstatus]
      exact hflag
    · dsimp only [Cancelled]
      rw [hpending, hstatus]
      exact hpend
    · dsimp only
      rw [hstatus]
      exact fun hone => (hstarted hone).imp_right hgoing
    · exact fun hflag => hgoing (hstarting hflag)
    · dsimp only
      rw [hstatus]
      exact hadding

/-- Every allowed step keeps what the flag says. -/
theorem told_step {s after : Beeping} {action : BeeperAction} (htold : Told s)
    (hstep : Step s action after) (hallowed : Allows s action) : Told after := by
  obtain ⟨hflag, hpend, hstarted, hstarting, hadding⟩ := id htold
  cases hstep with
  | write buffer copied hat => exact told_begin htold hat buffer copied
  | clear hat =>
      have hnone := not_pending (.inl ⟨_, hat⟩) htold
      refine ⟨.inl rfl, fun hpending => ?_, nofun, nofun, nofun⟩
      rw [hnone] at hpending
      cases hpending
  | beep hat =>
      have hsteady : Steady s.writer := by
        rw [hat]
        exact ⟨nofun, nofun⟩
      obtain ⟨hpending, hstatus⟩ := setBeeper_timer s.dev _
      exact htold.moved hsteady hpending hstatus rfl ⟨nofun, nofun⟩ nofun
  | test hat =>
      have hsteady : Steady s.writer := by
        rw [hat]
        exact ⟨nofun, nofun⟩
      split
      · next hzero => exact htold.moved hsteady rfl rfl rfl ⟨nofun, nofun⟩ fun _ => hzero
      · exact htold.moved hsteady rfl rfl rfl ⟨nofun, nofun⟩ nofun
  | add hat =>
      refine ⟨hflag, fun _ hcancelled => ?_, fun _ => .inr (.inl rfl), fun _ => .inl rfl, nofun⟩
      obtain ⟨_, hclear⟩ | ⟨_, hnot⟩ := hcancelled
      · cases hclear
      · exact hnot rfl
  | flag hat =>
      refine ⟨.inr rfl, fun _ hcancelled => ?_, fun _ => .inr (hstarting hat), nofun, nofun⟩
      obtain ⟨_, hclear⟩ | ⟨hzero, _⟩ := hcancelled
      · cases hclear
      · cases hzero
  | expire hpending hat =>
      exact ⟨hflag, nofun, fun hone => (hstarted hone).imp_right fun _ => .inr (.inl rfl),
        fun _ => .inr (.inl rfl), hadding⟩
  | handleBeep hat =>
      obtain ⟨hpending, hstatus⟩ := handleBeep_timer s.dev
      constructor
      · dsimp only
        rw [hstatus]
        exact hflag
      · dsimp only [Cancelled]
        rw [hpending, hstatus]
        exact hpend
      · dsimp only
        rw [hstatus]
        exact fun hone => (hstarted hone).imp_right fun _ => .inr (.inr rfl)
      · exact fun _ => .inr (.inr rfl)
      · dsimp only
        rw [hstatus]
        exact hadding
  | arm hat =>
      exact ⟨hflag, fun _ => hallowed, fun _ => .inr (.inl rfl), fun _ => .inl rfl, hadding⟩
  | count hat => exact told_count htold hat hallowed
  | work hpending => exact htold.congr rfl rfl rfl rfl

theorem told_of_run {s after : Beeping} {actions : List BeeperAction} (htold : Told s)
    (hrun : Run (Guarded Step Allows) s actions after) : Told after :=
  hrun.invariant (fun _ _ _ htold hstep => told_step htold hstep.1 hstep.2) htold

/-! ### Cancelling -/

/-- A command has deleted the timer and none has begun to start it. -/
def Halted (s : Beeping) : Prop :=
  (∃ dat, s.writer = .clear dat) ∨
    (s.dev.timerStatus = 0 ∧ (s.writer = .idle ∨ ∃ dat, s.writer = .beep dat))

theorem Halted.cancelled {s : Beeping} (hhalted : Halted s) : Cancelled s := by
  obtain hclear | ⟨hzero, hidle | ⟨_, hbeep⟩⟩ := hhalted
  · exact .inl hclear
  · exact .inr ⟨hzero, by rw [hidle]; nofun⟩
  · exact .inr ⟨hzero, by rw [hbeep]; nofun⟩

theorem Halted.not_starting {s : Beeping} (hhalted : Halted s) :
    s.writer ≠ .test ∧ s.writer ≠ .add ∧ s.writer ≠ .flag := by
  obtain ⟨_, hclear⟩ | ⟨_, hidle | ⟨_, hbeep⟩⟩ := hhalted
  · simp [hclear]
  · simp [hidle]
  · simp [hbeep]

theorem halted_of_cancels {s after : Beeping} {action : BeeperAction} (hcancels : Cancels action)
    (hstep : Step s action after) : Halted after := by
  obtain ⟨buffer, dat, rfl, hfits, horder⟩ := hcancels
  cases hstep with
  | write _ _ hat =>
      refine .inl ⟨dat, ?_⟩
      rw [begin, if_neg (Nat.not_lt_of_le hfits), if_neg (by simp), horder]

theorem halted_step {s after : Beeping} {action : BeeperAction} (hhalted : Halted s)
    (hstep : Step s action after) (hnot : ¬ Starts action) : Halted after := by
  -- where the writer does not move, it is enough that a cleared flag stays cleared
  have hkept : ∀ (dev : Beeper) (handler : HandlerPc),
      (s.dev.timerStatus = 0 → dev.timerStatus = 0) → Halted { s with dev, handler } := by
    intro dev handler hzero
    obtain hclear | ⟨hcleared, hwriter⟩ := hhalted
    · exact .inl hclear
    · exact .inr ⟨hzero hcleared, hwriter⟩
  cases hstep with
  | write buffer copied hat =>
      obtain ⟨_, hstatus, _, hwriter, _, _⟩ | ⟨dat, hset⟩ | ⟨_, _, _, hstarts, _⟩ :=
        begin_cases s buffer copied
      · obtain ⟨_, hclear⟩ | ⟨hzero, _⟩ := hhalted
        · rw [hat] at hclear
          cases hclear
        · exact .inr ⟨hstatus.trans hzero, .inl (hwriter.trans hat)⟩
      · exact .inl ⟨dat, by rw [hset]⟩
      · exact absurd hstarts hnot
  | clear hat => exact .inr ⟨rfl, .inr ⟨_, rfl⟩⟩
  | beep hat =>
      obtain ⟨_, hclear⟩ | ⟨hzero, _⟩ := hhalted
      · rw [hat] at hclear
        cases hclear
      · exact .inr ⟨(setBeeper_timer s.dev _).2.trans hzero, .inl rfl⟩
  | test hat => exact absurd hat hhalted.not_starting.1
  | add hat => exact absurd hat hhalted.not_starting.2.1
  | flag hat => exact absurd hat hhalted.not_starting.2.2
  | expire hpending hat => exact hkept _ _ id
  | handleBeep hat =>
      exact hkept _ _ fun hzero => (handleBeep_timer s.dev).2.trans hzero
  | arm hat => exact hkept _ _ id
  | count hat =>
      apply hkept
      intro hzero
      obtain ⟨_, _, hstatus⟩ | ⟨_, _, hstatus⟩ := handleCount_timer s.dev
      · exact hstatus
      · exact hstatus.trans hzero
  | work hpending => exact hkept _ _ id

/-- At rest the flag tells whether the timer is pending, `add_timer` never meets a pending timer, and no expiry follows a command that cancels the timer before one that starts it. -/
structure Kept (actions : List BeeperAction) (s : Beeping) : Prop where
  flag : AtRest s → (s.dev.timerStatus = 1 ↔ s.dev.timerPending = true)
  add : s.writer = .add → s.dev.timerPending = false
  silent : ∀ past cancel between later,
    actions = past ++ cancel :: (between ++ .expire :: later) → Cancels cancel →
      ∃ start ∈ between, Starts start

theorem Told.flag_iff {s : Beeping} (htold : Told s) (hrest : AtRest s) :
    s.dev.timerStatus = 1 ↔ s.dev.timerPending = true := by
  obtain ⟨hhandler, hwriter⟩ := hrest
  constructor
  · intro hone
    obtain ⟨_, hclear⟩ | hpending | hbeep | harm := htold.started hone
    · rw [hwriter] at hclear
      cases hclear
    · exact hpending
    · rw [hhandler] at hbeep
      cases hbeep
    · rw [hhandler] at harm
      cases harm
  · intro hpending
    obtain hzero | hone := htold.flag
    · exact absurd (.inr ⟨hzero, by rw [hwriter]; nofun⟩) (htold.pending hpending)
    · exact hone

/-- With the flag telling the truth, `sataio_beep_exit` leaves nothing pending. -/
theorem exit_nothing_pending {s : Beeping} (htold : Told s) (hrest : AtRest s) :
    s.dev.sataioBeepExit.timerPending = false ∧ s.dev.sataioBeepExit.workPending = false := by
  rw [sataioBeepExit]
  dsimp only
  split
  · exact ⟨rfl, rfl⟩
  · next hclear =>
    have hnot : s.dev.timerPending ≠ true := fun hpending =>
      hclear ((htold.flag_iff hrest).mpr hpending)
    exact ⟨Bool.not_eq_true _ ▸ hnot, rfl⟩

/-- In every interleaving whose steps are all allowed, a cancelled timer stays cancelled. -/
theorem beeper_timer_cancelled {bootByte : UInt8} {on : Bool} {actions : List BeeperAction}
    {s : Beeping} (hrun : Run (Guarded Step Allows) (initial bootByte on) actions s) :
    Kept actions s := by
  have htold := told_of_run (told_initial bootByte on) hrun
  refine ⟨htold.flag_iff, fun hat => ?_, fun past cancel between later hsplit hcancels => ?_⟩
  · exact not_pending (.inr ⟨htold.adding hat, by rw [hat]; nofun⟩) htold
  · by_contra hnone
    rw [hsplit] at hrun
    obtain ⟨before, hpast, hrest⟩ := Run.append_iff.mp hrun
    obtain ⟨first, hcancel, hrest⟩ := Run.cons_iff.mp hrest
    obtain ⟨last, hbetween, hexpire⟩ := Run.append_iff.mp hrest
    obtain ⟨_, hexpire, _⟩ := Run.cons_iff.mp hexpire
    have hnot : ∀ action ∈ between, ¬ Starts action := by
      intro action hmem hstarts
      exact hnone ⟨action, hmem, hstarts⟩
    have hhalted : Halted last := by
      refine (hbetween.guarded hnot).invariant ?_ (halted_of_cancels hcancels hcancel.1)
      intro _ _ _ hhalted hstep
      exact halted_step hhalted hstep.1.1 hstep.2
    have htold : Told last := by
      apply told_of_run (told_of_run (told_initial bootByte on) hpast)
      exact .cons hcancel hbetween
    cases hexpire.1 with
    | expire hpending _ =>
        rw [not_pending hhalted.cancelled htold] at hpending
        cases hpending

/-! ### Where it is not kept -/

/-- The flag says otherwise than the timer at rest, or `add_timer` is next on a pending timer. -/
def Broken (s : Beeping) : Prop :=
  (s.writer = .add ∧ s.dev.timerPending = true) ∨
    (AtRest s ∧ ¬ (s.dev.timerStatus = 1 ↔ s.dev.timerPending = true))

theorem order_timer : order (beeperText (ascii "timer 20 20")) = .start 20 20 none := rfl

/-- A pending timer whose flag is cleared is added once more by the next `timer`. -/
theorem broken_of_idle {s : Beeping} (hat : s.writer = .idle) (hzero : s.dev.timerStatus = 0)
    (hpending : s.dev.timerPending = true) :
    ∃ actions last, Run Step s actions last ∧ Broken last := by
  have hbegin : s.begin (ascii "timer 20 20") true =
      { s with dev := s.dev.setDelays 20 20 none, writer := .test } := by
    rw [begin, if_neg (by decide), if_neg (by simp), order_timer]
  have hwrite := Step.write (ascii "timer 20 20") true hat
  rw [hbegin] at hwrite
  exact ⟨_, _, .cons hwrite <| .single (.test_clear rfl hzero), .inl ⟨rfl, hpending⟩⟩

/-- From a timer that is pending although it is cancelled, the command under way and the next one lead there. -/
theorem broken_of_cancelled {s : Beeping} (hcancelled : Cancelled s)
    (hpending : s.dev.timerPending = true) :
    ∃ actions last, Run Step s actions last ∧ Broken last := by
  have hbeep : ∀ (s : Beeping) (dat : Nat), s.writer = .beep dat → s.dev.timerStatus = 0 →
      s.dev.timerPending = true → ∃ actions last, Run Step s actions last ∧ Broken last := by
    intro s dat hat hzero hpending
    obtain ⟨hsame, hstatus⟩ := setBeeper_timer s.dev dat
    have hidle : ({ s with dev := s.dev.setBeeper dat, writer := .idle } : Beeping).writer = .idle :=
      rfl
    obtain ⟨actions, last, hrun, hbroken⟩ :=
      broken_of_idle hidle (hstatus.trans hzero) (hsame.trans hpending)
    exact ⟨_, last, .cons (.beep hat) hrun, hbroken⟩
  obtain ⟨dat, hclear⟩ | ⟨hzero, hwriter⟩ := hcancelled
  · obtain ⟨actions, last, hrun, hbroken⟩ :=
      hbeep { s with dev := { s.dev with timerStatus := 0 }, writer := .beep dat } dat rfl rfl hpending
    exact ⟨_, last, .cons (.clear hclear) hrun, hbroken⟩
  · cases hat : s.writer with
    | idle => exact broken_of_idle hat hzero hpending
    | clear dat =>
        obtain ⟨actions, last, hrun, hbroken⟩ :=
          hbeep { s with dev := { s.dev with timerStatus := 0 }, writer := .beep dat } dat rfl rfl
            hpending
        exact ⟨_, last, .cons (.clear hat) hrun, hbroken⟩
    | beep dat => exact hbeep s dat hat hzero hpending
    | test => exact ⟨_, _, .single (.test_clear hat hzero), .inl ⟨rfl, hpending⟩⟩
    | add => exact ⟨[], s, .nil s, .inl ⟨hat, hpending⟩⟩
    | flag => exact absurd hat hwriter

/-- After a step that is not allowed, what is under way can go on to a state in which the flag is wrong. -/
theorem not_allowed_breaks {s after : Beeping} {action : BeeperAction}
    (hstep : Step s action after) (hnot : ¬ Allows s action) :
    ∃ actions last, Run Step after actions last ∧ Broken last := by
  cases hstep with
  | arm hat =>
      have hcancelled : Cancelled s := not_not.mp hnot
      exact broken_of_cancelled hcancelled rfl
  | count hat =>
      obtain ⟨hwriter, hhits⟩ := Classical.not_imp.mp hnot
      obtain ⟨_, hpending, _⟩ | ⟨hmisses, _⟩ := handleCount_timer s.dev
      · -- the command then marks as started a timer that has just been deleted
        refine ⟨_, _, .single (.flag hwriter), .inr ⟨⟨rfl, rfl⟩, ?_⟩⟩
        dsimp only
        rw [hpending]
        simp
      · exact absurd hmisses hhits
  | _ => exact absurd trivial hnot

/-- A repetition is cancelled after its first beep has ended. -/
theorem beeper_timer_cancelled_off : ∃ actions s, Run Step (initial 0 false) actions s ∧
    BeeperAction.write (ascii "off") true ∈ actions ∧ BeeperAction.expire ∈ actions ∧
      Kept actions s := by
  obtain ⟨s, hrun⟩ : ∃ s, Run (Guarded Step Allows) (initial 0 false)
      [.write (ascii "timer 20 20") true, .test, .add, .flag, .expire, .handleBeep, .arm, .count,
        .write (ascii "off") true, .clear, .beep] s := by
    refine ⟨_, .cons ⟨.write _ _ rfl, trivial⟩ <| .cons ⟨.test rfl, trivial⟩ <|
      .cons ⟨.add rfl, trivial⟩ <| .cons ⟨.flag rfl, trivial⟩ <|
      .cons ⟨.expire rfl rfl, trivial⟩ <| .cons ⟨.handleBeep rfl, trivial⟩ <|
      .cons ⟨.arm rfl, ?_⟩ <| .cons ⟨.count rfl, nofun⟩ <|
      .cons ⟨.write _ _ rfl, trivial⟩ <| .cons ⟨.clear rfl, trivial⟩ <|
      .single ⟨.beep rfl, trivial⟩⟩
    intro hcancelled
    obtain ⟨_, hclear⟩ | ⟨hzero, _⟩ := hcancelled
    · cases hclear
    · cases hzero
  exact ⟨_, s, hrun.unguarded, by simp, by simp, beeper_timer_cancelled hrun⟩

/-- An `off` between the expiry and `mod_timer` leaves the timer pending with its flag cleared. -/
theorem beeper_timer_not_cancelled : ¬ ∀ (actions : List BeeperAction) (s : Beeping),
    Run Step (initial 0 false) actions s → Kept actions s := by
  intro halways
  obtain ⟨s, hrun, hrest, hzero, hpending⟩ : ∃ s, Run Step (initial 0 false)
      [.write (ascii "timer 20 20") true, .test, .add, .flag, .expire,
        .write (ascii "off") true, .clear, .beep, .handleBeep, .arm, .count] s ∧
      AtRest s ∧ s.dev.timerStatus = 0 ∧ s.dev.timerPending = true :=
    ⟨_, .cons (.write _ _ rfl) <| .cons (.test rfl) <| .cons (.add rfl) <| .cons (.flag rfl) <|
      .cons (.expire rfl rfl) <| .cons (.write _ _ rfl) <| .cons (.clear rfl) <|
      .cons (.beep rfl) <| .cons (.handleBeep rfl) <| .cons (.arm rfl) <| .single (.count rfl),
      ⟨rfl, rfl⟩, rfl, rfl⟩
  have hone := ((halways _ s hrun).flag hrest).mpr hpending
  rw [hzero] at hone
  cases hone

end Beeping

end FrontPanel.Sio
