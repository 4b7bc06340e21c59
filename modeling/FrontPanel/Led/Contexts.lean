import FrontPanel.Led.Driver
import Mathlib.Logic.Function.Basic

/-!
# The contexts that reach the controller

Any number of callers of `leds_blink_set` and `color_set` run at once, and beside them every LED has its `brightness_work`, which `leds_brightness_set` schedules. The callers hold the mutex of the driver from before they look at the record of the LED until their last frame is through; `brightness_work` and `leds_brightness_set` take no lock. A context runs a routine that returns what the context does next, a `Task`: the routine is `ret` outside `i2c_iDX601x_write_led` and `call` inside it, from just after its first transfer to just after its last. The log tells each transfer from the call it belongs to.
-/

namespace FrontPanel.Led

/-- The contexts: the LED core calls `brightness_set` for one LED from one context at a time, and a work item never runs beside itself. -/
inductive Context
  | caller (n : Nat)
  | setter (led : Nat)
  | work (led : Nat)
deriving DecidableEq

/-- The calls that take the mutex. A `leds_blink_set` without a trigger returns before it does. -/
inductive LedCall
  | blinkSet (led : Nat) (name : String) (delayOn delayOff : BitVec 64)
  | colorSet (led : Nat) (buf : List UInt8)

/-- What a context does next when it is in no call of `i2c_iDX601x_write_led`. -/
inductive Task
  | idle
  /-- about to call `mutex_lock` -/
  | lock (call : LedCall)
  /-- holding the mutex, with `frames` still to send -/
  | sending (frames : List LedFrame)
  /-- in `leds_brightness_set`, about to call `schedule_work` -/
  | schedule
  /-- in `brightness_work`, about to compare `light` with 1, to set it to 255, to compare it with 0, and to read it for the frame -/
  | testOne
  | full
  | testZero
  | fetch
  | transmit (frame : LedFrame)

/-- The call of `i2c_iDX601x_write_led` a task begins with, if it is to begin one. -/
def Task.exchange : Task → Option (Prog Smbus Task)
  | .sending (frame :: frames) => some do
      let ret ← i2cIdx601xWriteLed frame
      return if ret < 0 then .sending [] else .sending frames
  | .transmit frame => some do
      let _ ← i2cIdx601xWriteLed frame
      return .idle
  | _ => none

/-- The n-th call a context makes of `i2c_iDX601x_write_led`. -/
abbrev Exchange := Context × Nat

structure Entry where
  op : SmbusOp
  answer : Int
  exchange : Exchange

structure LedDevice where
  running : Context → Prog Smbus Task
  mutex : Option Context
  status : Nat → LedStatus
  /-- `cdev->brightness` -/
  brightness : Nat → UInt32
  /-- whether the work item of the LED is pending -/
  pending : Nat → Bool
  begun : Context → Nat
  log : List Entry

inductive Action
  | call (call : LedCall)
  | acquire
  | release
  | set (brightness : UInt32)
  | schedule
  | start
  | testOne
  | full
  | testZero
  | fetch
  | first
  | next

namespace LedDevice

def goto (d : LedDevice) (t : Context) (program : Prog Smbus Task) : LedDevice :=
  { d with running := Function.update d.running t program }

@[simp] theorem goto_self (d : LedDevice) (t : Context) (program : Prog Smbus Task) :
    (d.goto t program).running t = program :=
  Function.update_self _ _ _

def record (d : LedDevice) (op : SmbusOp) (answer : Int) (exchange : Exchange) : LedDevice :=
  { d with log := d.log ++ [⟨op, answer, exchange⟩] }

def setStatus (d : LedDevice) (led : Nat) (status : LedStatus) : LedDevice :=
  { d with status := Function.update d.status led status }

def setLight (d : LedDevice) (led : Nat) (light : UInt16) : LedDevice :=
  d.setStatus led { d.status led with light }

def setPending (d : LedDevice) (led : Nat) (pending : Bool) : LedDevice :=
  { d with pending := Function.update d.pending led pending }

/-- What a call does to the records before its first frame. -/
def prepare (d : LedDevice) : LedCall → LedDevice
  | .blinkSet led name delayOn delayOff =>
      let s := Blink.request ⟨d.status led, d.brightness led, delayOn, delayOff⟩ name
      { d.setStatus led s.status with
        brightness := Function.update d.brightness led s.brightness }
  | .colorSet led buf =>
      match colorOf buf with
      | none => d
      | some color => d.setStatus led { d.status led with rgb := ledColorTable color }

/-- The frames it then sends. -/
def frames (d : LedDevice) : LedCall → List LedFrame
  | .blinkSet led name delayOn delayOff =>
      blinkFrames led name
        (Blink.request ⟨d.status led, d.brightness led, delayOn, delayOff⟩ name)
  | .colorSet led buf =>
      match colorOf buf with
      | none => []
      | some color => [colorFrame led (ledColorTable color)]

/-- One step of one context. -/
inductive Step : LedDevice → Context × Action → LedDevice → Prop
  | call {d : LedDevice} {n : Nat} (call : LedCall)
      (hat : d.running (.caller n) = .ret .idle) :
      Step d (.caller n, .call call) (d.goto (.caller n) (.ret (.lock call)))
  /-- `mutex_lock` waits for the mutex to be free. What follows up to the first frame only touches what the mutex protects, a read of `light` apart. -/
  | acquire {d : LedDevice} {n : Nat} {call : LedCall}
      (hat : d.running (.caller n) = .ret (.lock call)) (hfree : d.mutex = none) :
      Step d (.caller n, .acquire)
        { (d.prepare call).goto (.caller n) (.ret (.sending (d.frames call))) with
          mutex := some (.caller n) }
  | release {d : LedDevice} {n : Nat} (hat : d.running (.caller n) = .ret (.sending [])) :
      Step d (.caller n, .release) { d.goto (.caller n) (.ret .idle) with mutex := none }
  /-- The LED core cuts the brightness at `max_brightness`. -/
  | set {d : LedDevice} {led : Nat} (brightness : UInt32)
      (hmax : brightness ≤ ledBrightnessMax) (hat : d.running (.setter led) = .ret .idle) :
      Step d (.setter led, .set brightness)
        ((d.setLight led (lightOf brightness)).goto (.setter led) (.ret .schedule))
  | schedule {d : LedDevice} {led : Nat} (hat : d.running (.setter led) = .ret .schedule) :
      Step d (.setter led, .schedule)
        ((d.setPending led true).goto (.setter led) (.ret .idle))
  | start {d : LedDevice} {led : Nat} (hpending : d.pending led = true)
      (hat : d.running (.work led) = .ret .idle) :
      Step d (.work led, .start)
        ((d.setPending led false).goto (.work led) (.ret .testOne))
  | testOne {d : LedDevice} {led : Nat} (hat : d.running (.work led) = .ret .testOne) :
      Step d (.work led, .testOne)
        (d.goto (.work led) (.ret (if (d.status led).light = 1 then .full else .testZero)))
  | full {d : LedDevice} {led : Nat} (hat : d.running (.work led) = .ret .full) :
      Step d (.work led, .full) ((d.setLight led 255).goto (.work led) (.ret .testZero))
  | testZero {d : LedDevice} {led : Nat} (hat : d.running (.work led) = .ret .testZero) :
      Step d (.work led, .testZero) (d.goto (.work led) (.ret .fetch))
  | fetch {d : LedDevice} {led : Nat} (hat : d.running (.work led) = .ret .fetch) :
      Step d (.work led, .fetch)
        (d.goto (.work led) (.ret (.transmit (lightFrame led (d.status led).light))))
  | first {d : LedDevice} {t : Context} {task : Task} {op : SmbusOp}
      {next : Int → Prog Smbus Task} (answer : Int) (hat : d.running t = .ret task)
      (hbegins : task.exchange = some (.call op next)) :
      Step d (t, .first)
        (({ d with begun := Function.update d.begun t (d.begun t + 1) }.goto t
          (next answer)).record op answer (t, d.begun t + 1))
  | next {d : LedDevice} {t : Context} {op : SmbusOp} {next : Int → Prog Smbus Task}
      (answer : Int) (hat : d.running t = .call op next) :
      Step d (t, .next) ((d.goto t (next answer)).record op answer (t, d.begun t))

/-- The records come from `devm_kmalloc`, so nothing is known of them. -/
def initial (status : Nat → LedStatus) (brightness : Nat → UInt32) : LedDevice where
  running := fun _ => .ret .idle
  mutex := none
  status := status
  brightness := brightness
  pending := fun _ => false
  begun := fun _ => 0
  log := []

/-- The records happen to be zero. -/
def zeroed : LedDevice := initial (fun _ => ⟨0, 0, 0, ⟨0, 0, 0⟩⟩) fun _ => 0

/-- A call of `i2c_iDX601x_write_led` has made its first transfer and not its last. -/
def Inside (d : LedDevice) (t : Context) : Prop := ∃ op next, d.running t = .call op next

end LedDevice

end FrontPanel.Led
