import FrontPanel.Lib.CString
import FrontPanel.Lib.Run
import Mathlib.Data.BitVec

/-!
# The beeper

`beeper_write`, `beeperTimerHandle` and `beeper_delay_work_func` of `ug_sataio_beeper.c`, each run to completion. A repetition is counted by `count`, a static variable of the timer handler, against `g_count`; an `unsigned long` is compared with an `int`, which is sign-extended for it. Time is left out: the timer and the delayed work are pending or not, and a pending one may run at any moment. What the product's hardware is told is `on`.
-/

namespace FrontPanel.Sio

open CString

structure Beeper where
  timerStatus : BitVec 32
  delayOff : BitVec 64
  delayOn : BitVec 64
  gCount : BitVec 64
  /-- `static int count` of `beeperTimerHandle` -/
  count : BitVec 32
  /-- `beeper_timer` is pending -/
  timerPending : Bool
  /-- `beeper_delay_work` is pending -/
  workPending : Bool
  on : Bool
  /-- byte 0x66 of the CMOS, behind ports 0x70 and 0x71 -/
  bootByte : UInt8

namespace Beeper

def delTimer (s : Beeper) : Beeper := { s with timerPending := false }

def addTimer (s : Beeper) : Beeper := { s with timerPending := true }

def modTimer (s : Beeper) : Beeper := { s with timerPending := true }

def setBeeper (s : Beeper) (dat : Nat) : Beeper :=
  if dat = 0 then { s with on := false }
  else if dat = 1 then { s with on := true }
  else if dat = 2 then { s with on := true, workPending := true }
  else s

def beeperDelayWorkFunc (s : Beeper) : Beeper := { s with on := false }

def beeperTimerHandle (s : Beeper) : Beeper :=
  let s := if s.delayOn < 1 ∨ s.delayOff < 1 then { s with delayOn := 500, delayOff := 2000 } else s
  let s := (s.setBeeper 2).modTimer
  if s.gCount ≠ 0 then
    let s := { s with count := s.count + 1 }
    if s.gCount = s.count.signExtend 64 then { s.delTimer with timerStatus := 0, count := 0 }
    else s
  else s

def eInval : Int := -22
def eFault : Int := -14

/-- The range check of a delay, made as `unsigned long`. -/
def delayRange (delay : BitVec 64) : Bool := ¬ (delay < 20 ∨ delay > 99999)

/-- `if(0 == timerStatus)` of the two commands that start the timer. -/
def startTimer (s : Beeper) : Beeper :=
  if s.timerStatus = 0 then { s.addTimer with timerStatus := 1 } else s

/-- The branch `"timer "` of `beeper_write`: the new state and `result`. -/
def timerCommand (s : Beeper) (buf : List UInt8) : Beeper × Int :=
  match vsscanf (format "timer # #") buf with
  | [a, b] =>
      let a := BitVec.ofInt 64 a
      let b := BitVec.ofInt 64 b
      if delayRange a ∧ delayRange b then
        ({ s with delayOff := a, delayOn := b }.startTimer, 0)
      else (s, eFault)
  | _ => (s, eFault)

/-- The branch `"rep "` of `beeper_write`: the new state and `result`. -/
def repCommand (s : Beeper) (buf : List UInt8) : Beeper × Int :=
  match vsscanf (format "rep # # #") buf with
  | [count, c, d] =>
      let c := BitVec.ofInt 64 c
      let d := BitVec.ofInt 64 d
      if delayRange c ∧ delayRange d then
        ({ s with delayOff := c, delayOn := d, gCount := BitVec.ofInt 64 count }.startTimer, 0)
      else (s, eFault)
  | _ => (s, eFault)

/-- What `beeper_write` does with the text in `buf`: the new state and `result`. -/
def beeperCommand (s : Beeper) (buf : List UInt8) : Beeper × Int :=
  if strncmp buf (ascii "booton") 6 = 0 ∨ strncmp buf (ascii "BOOTON") 6 = 0 then
    ({ s with bootByte := s.bootByte &&& ~~~0x01 }, 0)
  else if strncmp buf (ascii "bootoff") 7 = 0 ∨ strncmp buf (ascii "BOOTOFF") 7 = 0 then
    ({ s with bootByte := s.bootByte ||| 0x01 }, 0)
  else if strncmp buf (ascii "on") 3 = 0 ∨ strncmp buf (ascii "ON") 3 = 0 then
    ({ s.delTimer with timerStatus := 0 }.setBeeper 1, 0)
  else if strncmp buf (ascii "off") 4 = 0 ∨ strncmp buf (ascii "OFF") 4 = 0 then
    ({ s.delTimer with timerStatus := 0 }.setBeeper 0, 0)
  else if strncmp buf (ascii "one") 4 = 0 ∨ strncmp buf (ascii "ONE") 4 = 0 then
    ({ s.delTimer with timerStatus := 0 }.setBeeper 2, 0)
  else if strncmp buf (ascii "timer ") 6 = 0 then s.timerCommand buf
  else if strncmp buf (ascii "rep ") 3 = 0 then s.repCommand buf
  else (s, eInval)

/-- The text in `buf` once the bytes are copied and a final newline is cut. -/
def beeperText (buffer : List UInt8) : List UInt8 :=
  ofBuffer (if buffer.getLast? = some 0x0a then buffer.dropLast else buffer)

/-- The new state and what the write returns; `copied` is whether `copy_from_user` succeeds. -/
def beeperWrite (s : Beeper) (buffer : List UInt8) (copied : Bool) : Beeper × Int :=
  if buffer.length > 31 then (s, eInval)
  else if ¬ copied then (s, eFault)
  else
    let (s, result) := s.beeperCommand (beeperText buffer)
    (s, if result ≠ 0 then result else buffer.length)

end Beeper

inductive BeeperEvent
  | write (buffer : List UInt8) (copied : Bool) (ret : Int)
  | expire
  | work

namespace Beeper

/-- A command, an expiry of the pending timer, or a run of the pending work. -/
def step (before : Beeper) (event : BeeperEvent) (after : Beeper) : Prop :=
  match event with
  | .write buffer copied ret => before.beeperWrite buffer copied = (after, ret)
  | .expire =>
      before.timerPending = true ∧
        after = { before with timerPending := false }.beeperTimerHandle
  | .work =>
      before.workPending = true ∧
        after = { before with workPending := false }.beeperDelayWorkFunc

/-- The module as `sataio_beep_init` leaves it. -/
def initial (bootByte : UInt8) (on : Bool) : Beeper where
  timerStatus := 0
  delayOff := 0
  delayOn := 0
  gCount := 0
  count := 0
  timerPending := false
  workPending := false
  on := on
  bootByte := bootByte

end Beeper

end FrontPanel.Sio
