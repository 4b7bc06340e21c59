import FrontPanel.Sio.EcMemory

/-!
# The contexts that share the ports

`ug_it55pro_functions.c` and `ug_sataio_beeper.c` both talk to the controller through ports 0x62 and 0x66. The handlers of the first bracket their calls with `ec_request_ports` and `ec_release_ports`; `superio_write_byte` of the second takes no lock and reads the cell back instead, until it holds what was written. Any number of contexts of either kind run at once, interleaved access by access, and an access may be answered anything.

A context runs a routine that returns what the context does next, a `Task`. The routine is `ret` outside a transaction and `call` inside one, from just after its first access to just after its last. The log tells each access from the transaction it belongs to; the single status read of `superio_write_byte` belongs to none.
-/

namespace FrontPanel.Sio

/-! ### The handlers of ug_it55pro_functions.c -/

def deviceFan1Mode : UInt8 := 0xb0
def deviceFan1Pwm : UInt8 := 0xb1
def deviceFan2Mode : UInt8 := 0xb2
def deviceFan2Pwm : UInt8 := 0xb3
def deviceFan3Mode : UInt8 := 0xb4
def deviceFan3Pwm : UInt8 := 0xb5
def deviceFan4Mode : UInt8 := 0xb6
def deviceFan4Pwm : UInt8 := 0xb7

def deviceFan1SpeedMbs : UInt8 := 0x34
def deviceFan1SpeedLsb : UInt8 := 0x35
def deviceFan2SpeedMbs : UInt8 := 0x36
def deviceFan2SpeedLsb : UInt8 := 0x37
def deviceFan3SpeedMbs : UInt8 := 0x38
def deviceFan3SpeedLsb : UInt8 := 0x39
def deviceFan4SpeedMbs : UInt8 := 0x3a
def deviceFan4SpeedLsb : UInt8 := 0x3b

def ecPwrEnable : UInt8 := 0xA0
def ecPwrValue : UInt8 := 0xA1

def g3WakeupAdr : UInt8 := 0x9A
def lanWakeupAdr : UInt8 := 0x99

def ecIt55WdtSwitch : UInt8 := 0x98
def ecIt55WdtTimeMsb : UInt8 := 0xA2
def ecIt55WdtTimeLsb : UInt8 := 0xA3

def bkltPwmValue : UInt8 := 0xa5

/-- A handler that brackets calls with `ec_request_ports` and `ec_release_ports`. -/
inductive SioHandler
  | setSysFan (pwm : UInt8)
  | setCpuFan (pwm : UInt8)
  | fanRead
  | pwrWrite (inData : UInt8)
  | pwrRead
  | g3wakeupWrite (on : Bool)
  | g3wakeupRead
  | lanwakeupWrite (on : Bool)
  | lanwakeupRead
  | wdtStart (timeout : BitVec 32)
  | wdtStop
  | mipiBacklightUpdateStatus (brightness : UInt8)

def limitPwm (pwm : UInt8) : UInt8 := if pwm ≥ 0xc6 then 0xc6 else pwm

/-- The calls a handler makes between the two. -/
def SioHandler.calls : SioHandler → List EcCall
  | .setSysFan pwm =>
      [.write deviceFan3Mode 1, .write deviceFan3Pwm (limitPwm pwm),
        .write deviceFan4Mode 1, .write deviceFan4Pwm (limitPwm pwm)]
  | .setCpuFan pwm =>
      [.write deviceFan1Mode 1, .write deviceFan1Pwm (limitPwm pwm),
        .write deviceFan2Mode 1, .write deviceFan2Pwm (limitPwm pwm)]
  | .fanRead =>
      [.read deviceFan1SpeedMbs, .read deviceFan1SpeedLsb,
        .read deviceFan2SpeedMbs, .read deviceFan2SpeedLsb,
        .read deviceFan3SpeedMbs, .read deviceFan3SpeedLsb,
        .read deviceFan4SpeedMbs, .read deviceFan4SpeedLsb]
  | .pwrWrite inData => [.write ecPwrEnable 0x1, .write ecPwrValue inData]
  | .pwrRead => [.read ecPwrValue]
  | .g3wakeupWrite on => [.write g3WakeupAdr (if on then 1 else 0)]
  | .g3wakeupRead => [.read g3WakeupAdr]
  -- the `strncmp` of this handler are not negated: a text other than "on" takes the first branch
  | .lanwakeupWrite on => [.write lanWakeupAdr (if on then 0 else 1)]
  -- the source reads `G3_WAKEUP_ADR` here too
  | .lanwakeupRead => [.read g3WakeupAdr]
  | .wdtStart timeout =>
      [.write ecIt55WdtTimeMsb (.ofBitVec ((timeout &&& 0xff00#32) >>> 8 |>.setWidth 8)),
        .write ecIt55WdtTimeLsb (.ofBitVec ((timeout &&& 0xff#32).setWidth 8)),
        .write ecIt55WdtSwitch 1]
  | .wdtStop => [.write ecIt55WdtSwitch 0]
  | .mipiBacklightUpdateStatus brightness => [.write bkltPwmValue brightness]

/-! ### superio_write_byte -/

def beeperAdr6011Pro : UInt8 := 0x9e
def beeperAdr6011 : UInt8 := 0xa5

/-- The loop `while(i <= 3)` on the status read at entry, with `left` passes to go: `some` is a return of the function. -/
def superioStatusLoop (ecStatus : UInt8) : Nat → Option Int
  | 0 => none
  | left + 1 =>
      let i := 3 - left
      if ecStatus &&& 0x01 ≠ 0 then none
      else if i > 3 then some (-1)
      else superioStatusLoop ecStatus left

/-- The entry check never makes the function give up. -/
theorem superioStatusLoop_none (ecStatus : UInt8) (left : Nat) :
    superioStatusLoop ecStatus left = none := by
  induction left with
  | zero => rfl
  | succ left ih =>
      have hle : ¬ 3 - left > 3 := by omega
      simp only [superioStatusLoop, if_neg hle, ih, ite_self]

/-- The write half of the loop body. -/
def superioWrite (value addr : UInt8) : Prog Ports Unit := do
  outb ecCWriteMem ecCPort
  outb addr ecDPort
  outb value ecDPort

/-- The read-back half of the loop body. -/
def superioReadBack (addr : UInt8) : Prog Ports UInt8 := do
  outb ecCReadMem ecCPort
  outb addr ecDPort
  inb ecDPort

/-- The loop condition, negated. Since the kernel is built with `-funsigned-char`, `tmp` and `value` are both bytes from 0 to 255. -/
def superioWritten (value addr tmp : UInt8) : Bool :=
  let tmp :=
    if (addr = beeperAdr6011 ∨ addr = beeperAdr6011Pro) ∧ tmp = 2 ∧ value = 1 then 1 else tmp
  tmp = value

/-! ### Contexts -/

/-- The contexts that reach the ports: callers of the sio handlers, and the proc write, the delayed work and the timer of the beeper. -/
inductive Context
  | sio (n : Nat)
  | beeper (n : Nat)
deriving DecidableEq

/-- What a context does next when it is in no transaction. -/
inductive Task
  | idle
  /-- about to call `ec_request_ports` -/
  | request (calls : List EcCall)
  /-- holding the ports, with `calls` still to make -/
  | handler (calls : List EcCall)
  /-- in `superio_write_byte`, about to read the status, to write, or to read back -/
  | polling (value addr : UInt8)
  | writing (value addr : UInt8)
  | readingBack (value addr : UInt8)

/-- The transaction a task begins with, if it is to begin one. -/
def Task.transaction : Task → Option (Prog Ports Task)
  | .handler (call :: calls) => some do
      let _ ← call.program
      return .handler calls
  | .writing value addr => some do
      superioWrite value addr
      return .readingBack value addr
  | .readingBack value addr => some do
      let tmp ← superioReadBack addr
      return if superioWritten value addr tmp then .idle else .writing value addr
  | _ => none

/-- The n-th transaction of a context. -/
abbrev Transaction := Context × Nat

structure Entry where
  op : PortOp
  transaction : Option Transaction

structure Sharing where
  running : Context → Prog Ports Task
  /-- who holds the muxed region of port 0x66 -/
  owner : Option Context
  begun : Context → Nat
  log : List Entry

inductive Action
  | call (handler : SioHandler)
  | beep (value addr : UInt8)
  | request
  | release
  | status
  | first
  | next

namespace Sharing

def goto (s : Sharing) (t : Context) (program : Prog Ports Task) : Sharing :=
  { s with running := Function.update s.running t program }

def record (s : Sharing) (op : PortOp) (transaction : Option Transaction) : Sharing :=
  { s with log := s.log ++ [⟨op, transaction⟩] }

/-- One step of one context. -/
inductive Step : Sharing → Context × Action → Sharing → Prop
  | call {s : Sharing} {n : Nat} (handler : SioHandler)
      (hat : s.running (.sio n) = .ret .idle) :
      Step s (.sio n, .call handler) (s.goto (.sio n) (.ret (.request handler.calls)))
  | beep {s : Sharing} {n : Nat} (value addr : UInt8)
      (hat : s.running (.beeper n) = .ret .idle) :
      Step s (.beeper n, .beep value addr) (s.goto (.beeper n) (.ret (.polling value addr)))
  /-- `request_muxed_region` waits for the region to be free. -/
  | request {s : Sharing} {t : Context} {calls : List EcCall}
      (hat : s.running t = .ret (.request calls)) (hfree : s.owner = none) :
      Step s (t, .request) { s.goto t (.ret (.handler calls)) with owner := some t }
  | release {s : Sharing} {t : Context} (hat : s.running t = .ret (.handler [])) :
      Step s (t, .release) { s.goto t (.ret .idle) with owner := none }
  | status {s : Sharing} {t : Context} {value addr : UInt8} (ecStatus : UInt8)
      (hat : s.running t = .ret (.polling value addr)) :
      Step s (t, .status)
        ((s.goto t (.ret (if superioStatusLoop ecStatus 4 = none then .writing value addr
          else .idle))).record (.inb ecCPort) none)
  | first {s : Sharing} {t : Context} {task : Task} {op : PortOp}
      {next : Ports.Answer op → Prog Ports Task} (answer : Ports.Answer op)
      (hat : s.running t = .ret task) (hbegins : task.transaction = some (.call op next)) :
      Step s (t, .first)
        (({ s with begun := Function.update s.begun t (s.begun t + 1) }.goto t
          (next answer)).record op (some (t, s.begun t + 1)))
  | next {s : Sharing} {t : Context} {op : PortOp} {next : Ports.Answer op → Prog Ports Task}
      (answer : Ports.Answer op) (hat : s.running t = .call op next) :
      Step s (t, .next) ((s.goto t (next answer)).record op (some (t, s.begun t)))

def initial : Sharing where
  running := fun _ => .ret .idle
  owner := none
  begun := fun _ => 0
  log := []

/-- A transaction of the context has made its first access and not its last. -/
def Inside (s : Sharing) (t : Context) : Prop := ∃ op next, s.running t = .call op next

end Sharing

end FrontPanel.Sio
