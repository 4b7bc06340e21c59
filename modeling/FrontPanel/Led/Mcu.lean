import FrontPanel.Lib.Prog

/-!
# Frames to the LED controller

`i2c_iDX601x_write_led` of `leds-mcu.c`. A frame is one SMBus block write: the command byte selects the LED, and behind it come a fixed header, the request with its four data bytes, and their sum. The controller says in a flag register whether it took the frame. Both halves of the exchange are tried up to three times, and the only answers looked at are whether the block was written and whether the flag reads 1.

The sleeps between the tries are not modelled: what matters about them is that the bus is free meanwhile, and it is free between any two transfers of a program.
-/

namespace FrontPanel.Led

def ledModeLight : UInt8 := 0x01
def ledModeColor : UInt8 := 0x02
def ledModeSwtich : UInt8 := 0x03
def ledModeBlink : UInt8 := 0x04
def ledModeBreath : UInt8 := 0x05

def mcuReceiveFlags : UInt8 := 0x80

def eBusy : Int := -16

inductive SmbusOp
  | writeBlockData (command : UInt8) (values : List UInt8)
  | readByteData (command : UInt8)

/-- The bus: what the kernel's SMBus functions return. -/
abbrev Smbus : Interface where
  Op := SmbusOp
  Answer := fun _ => Int

structure LedFrame where
  select : UInt8
  status : UInt8
  data1 : UInt8
  data2 : UInt8
  data3 : UInt8
  data4 : UInt8

namespace LedFrame

/-- `data[1]` to `data[9]` -/
def body (frame : LedFrame) : List UInt8 :=
  [0xa0, 0x01, 0x00, 0x00, frame.status, frame.data1, frame.data2, frame.data3, frame.data4]

def crcCnt (frame : LedFrame) : Nat := frame.body.foldl (fun crcCnt data => crcCnt + data.toNat) 0

/-- `data[1]` to `data[11]` -/
def block (frame : LedFrame) : List UInt8 :=
  frame.body ++ [((frame.crcCnt &&& 0xff00) >>> 8).toUInt8, (frame.crcCnt &&& 0xff).toUInt8]

def write (frame : LedFrame) : SmbusOp := .writeBlockData frame.select frame.block

end LedFrame

/-- The first loop, with `left` tries to go. -/
def sendFrame (frame : LedFrame) : Nat → Prog Smbus Bool
  | 0 => return false
  | left + 1 => do
      let ret ← Prog.access Smbus frame.write
      if ret < 0 then sendFrame frame left else return true

/-- The second loop, with `left` tries to go. -/
def readFlags : Nat → Prog Smbus (Option Int)
  | 0 => return none
  | left + 1 => do
      let ret ← Prog.access Smbus (.readByteData mcuReceiveFlags)
      if ret ≠ 1 then readFlags left else return some ret

def i2cIdx601xWriteLed (frame : LedFrame) : Prog Smbus Int := do
  let sent ← sendFrame frame 3
  if !sent then return eBusy
  match ← readFlags 3 with
  | none => return eBusy
  | some ret => return ret

end FrontPanel.Led
