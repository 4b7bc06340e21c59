import FrontPanel.Lib.Prog

/-!
# The embedded controller port helpers

`it55_helper.c` and the constants of `it55_helper.h`: every access to the memory of the embedded controller is two or three bytes through the command port and the data port, with a bounded poll of the status byte before each. A routine here is a program over single port accesses; `msleep` and `pr_err` change nothing the model sees and are left out. Return codes are the C ones.
-/

namespace FrontPanel.Sio

inductive PortOp
  | inb (port : UInt16)
  | outb (value : UInt8) (port : UInt16)

/-- The I/O ports: reading answers a byte, writing answers nothing. -/
abbrev Ports : Interface where
  Op := PortOp
  Answer := fun op =>
    match op with
    | .inb _ => UInt8
    | .outb _ _ => Unit

def inb (port : UInt16) : Prog Ports UInt8 := .access Ports (.inb port)

def outb (value : UInt8) (port : UInt16) : Prog Ports Unit := .access Ports (.outb value port)

@[simp] theorem inb_bind {Result : Type} (port : UInt16) (rest : UInt8 → Prog Ports Result) :
    inb port >>= rest = .call (.inb port) rest := rfl

@[simp] theorem outb_bind {Result : Type} (value : UInt8) (port : UInt16)
    (rest : Unit → Prog Ports Result) :
    outb value port >>= rest = .call (.outb value port) rest := rfl

def ecDPort : UInt16 := 0x62
def ecCPort : UInt16 := 0x66

def ecSIbf : UInt8 := 0x02
def ecSObf : UInt8 := 0x01

def ecCReadMem : UInt8 := 0x80
def ecCWriteMem : UInt8 := 0x81

def ecTimeoutUs : Nat := 5

/-- `-ETIMEDOUT` -/
def eTimedOut : Int := -110

def ecReadStatus : Prog Ports UInt8 := inb ecCPort

/-- The loop `while (timeout > 0)` of the two waits, which differ in the status they stop at. -/
def ecWait (ready : UInt8 → Bool) : Nat → Prog Ports Int
  | 0 => pure eTimedOut
  | timeout + 1 => do
      let status ← ecReadStatus
      if ready status then return 0
      else ecWait ready timeout

def ecWaitCommandReady : Prog Ports Int :=
  ecWait (fun status => status &&& ecSIbf == 0) ecTimeoutUs

def ecWaitDataReady : Prog Ports Int :=
  ecWait (fun status => status &&& ecSObf != 0) ecTimeoutUs

def ecSendCommand (command : UInt8) : Prog Ports Int := do
  let ret ← ecWaitCommandReady
  if ret ≠ 0 then return ret
  outb command ecCPort
  return 0

def ecSendData (data : UInt8) : Prog Ports Int := do
  let ret ← ecWaitCommandReady
  if ret ≠ 0 then return ret
  outb data ecDPort
  return 0

/-- The return code and, when it is 0, the byte stored through `data`. -/
def ecReceiveData : Prog Ports (Int × Option UInt8) := do
  let ret ← ecWaitDataReady
  if ret ≠ 0 then return (ret, none)
  let data ← inb ecDPort
  return (0, some data)

/-- The return code and the byte stored through `value`, if one was. -/
def ecReadMemory (address : UInt8) : Prog Ports (Int × Option UInt8) := do
  let ret ← ecSendCommand ecCReadMem
  if ret ≠ 0 then return (ret, none)
  let ret ← ecSendData address
  if ret ≠ 0 then return (ret, none)
  ecReceiveData

def ecWriteMemory (address value : UInt8) : Prog Ports Int := do
  let ret ← ecSendCommand ecCWriteMem
  if ret ≠ 0 then return ret
  let ret ← ecSendData address
  if ret ≠ 0 then return ret
  ecSendData value

end FrontPanel.Sio
