import FrontPanel.Led.Mcu
import FrontPanel.Lib.Bytes
import FrontPanel.Lib.CString

/-!
# The handlers of the LED driver

`leds_blink_set`, `color_set`, `leds_brightness_set` and `brightness_work` of `leds-mcu.c`. An LED is its index in `ug_dev->cdev`, where the searches of the source find it, and `led_addr` is that index. What a handler computes is given apart from what it sends, since other contexts come in between the frames: `leds_blink_set` changes the record of the LED, the brightness in its class device and the two delays of its caller, and then sends one or two frames; `color_set` changes the record and sends one.
-/

namespace FrontPanel.Led

def ledFull : UInt32 := 255
def ledBrightnessMax : UInt32 := 255

structure Rgb where
  red : UInt8
  green : UInt8
  blue : UInt8

structure LedStatus where
  mode : UInt8
  statusData : BitVec 32
  light : UInt16
  rgb : Rgb

def ledAddr (led : Nat) : UInt8 := led.toUInt8

/-! ### leds_blink_set -/

/-- What `leds_blink_set` changes. -/
structure Blink where
  status : LedStatus
  /-- `cdev->brightness` -/
  brightness : UInt32
  delayOn : BitVec 64
  delayOff : BitVec 64

/-- The branches on the name of the trigger. -/
def Blink.request (s : Blink) (name : String) : Blink :=
  if name = "normal" then
    { s with
      status := { s.status with mode := ledModeLight, statusData := 0 }
      delayOff := 0
      delayOn := 0 }
  else if name = "breath" then
    let delayOff := if s.delayOff < 500 then 500 else s.delayOff
    let delayOn := if s.delayOn < 1000 then 1000 else s.delayOn
    let statusData := ((delayOn + delayOff) <<< 16).setWidth 32 ||| delayOn.setWidth 32
    { status := { s.status with mode := ledModeBreath, statusData }
      brightness := s.status.light.toUInt32
      delayOn, delayOff }
  else if name = "timer2" then
    let statusData : BitVec 32 :=
      if s.delayOn = 0 ∨ s.delayOff = 0 then 0
      else ((s.delayOn + s.delayOff) <<< 16).setWidth 32 ||| s.delayOff.setWidth 32
    { s with status := { s.status with mode := ledModeBlink, statusData } }
  -- every other trigger finds `mode` and `status_data` as they are
  else s

@[simp] theorem Blink.request_light (s : Blink) (name : String) :
    (s.request name).status.light = s.status.light := by
  rw [Blink.request]
  split_ifs <;> rfl

def switchFrame (led : Nat) : LedFrame := ⟨ledAddr led, ledModeSwtich, 0xff, 0, 0, 0⟩

def statusFrame (led : Nat) (status : LedStatus) : LedFrame where
  select := ledAddr led
  status := status.mode
  data1 := byteAt status.statusData 3
  data2 := byteAt status.statusData 2
  data3 := byteAt status.statusData 1
  data4 := byteAt status.statusData 0

/-- The frames of `leds_blink_set`, the second of two only sent if the first one is. -/
def blinkFrames (led : Nat) (name : String) (s : Blink) : List LedFrame :=
  if name = "normal" then [switchFrame led, statusFrame led s.status]
  else [statusFrame led s.status]

/-- Frames sent one after another until one fails. -/
def sendFrames : List LedFrame → Prog Smbus Int
  | [] => return 0
  | frame :: frames => do
      let ret ← i2cIdx601xWriteLed frame
      if ret < 0 then return eBusy else sendFrames frames

/-- No trigger, or one without a name, is refused. -/
def ledsBlinkSet (led : Nat) (trigger : Option String) (s : Blink) : Prog Smbus (Int × Blink) :=
  match trigger with
  | none => return (CString.eInval, s)
  | some name => do
      let s := s.request name
      let ret ← sendFrames (blinkFrames led name s)
      return (ret, s)

/-! ### color_set -/

def ledColorTable (color : Fin 5) : Rgb :=
  #[⟨255, 255, 255⟩, ⟨220, 40, 0⟩, ⟨255, 0, 0⟩, ⟨0, 255, 0⟩, ⟨0, 0, 255⟩][color]

/-- The colour `color_set` makes of the text. The number is an `unsigned long`, from which 1 is taken before it is checked. -/
def colorOf (buf : List UInt8) : Option (Fin 5) :=
  match CString.kstrtoul buf with
  | .error _ => none
  | .ok value =>
      let ret := (BitVec.ofNat 64 value - 1).toNat
      if hret : ret < 5 then some ⟨ret, hret⟩ else none

def colorFrame (led : Nat) (rgb : Rgb) : LedFrame :=
  ⟨ledAddr led, ledModeColor, rgb.red, rgb.green, rgb.blue, 0⟩

/-- The write to the attribute returns its size, whatever becomes of the frame. -/
def colorSet (led : Nat) (buf : List UInt8) (size : Int) (status : LedStatus) :
    Prog Smbus (Int × LedStatus) :=
  match colorOf buf with
  | none => return (size, status)
  | some color => do
      let rgb := ledColorTable color
      let _ ← i2cIdx601xWriteLed (colorFrame led rgb)
      return (size, { status with rgb })

/-! ### leds_brightness_set and brightness_work -/

/-- What `leds_brightness_set` puts into `status->light`. -/
def lightOf (brightness : UInt32) : UInt16 :=
  if brightness = 1 then ledFull.toUInt16 else brightness.toUInt16

/-- The frame of `brightness_work`, the same in both of its branches. -/
def lightFrame (led : Nat) (light : UInt16) : LedFrame :=
  ⟨ledAddr led, ledModeLight, light.toUInt8, 0, 0, 0⟩

end FrontPanel.Led
