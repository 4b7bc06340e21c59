import Mathlib.Data.BitVec
import Mathlib.Logic.Function.Basic

/-!
# Touch reports

From an interrupt to the input layer: `axs_read_touchdata`, `axs_read_parse_touchdata`, `axs_input_report_b`, `axs_release_all_finger` and the handlers above them in `axs_core.c`, as `axs_config.h` configures them (protocol B, pressure, no gesture, no ESD check, no touch keys). `AXS_MAX_TOUCH_NUMBER` and the size of the report buffer are parameters. A bus transfer gives a return code and the content of the buffer after it, which may be anything.

The input layer keeps, besides every event it was given, the slot that is selected, the last state reported for each slot and the last value of `BTN_TOUCH`.
-/

namespace FrontPanel.Touch

/-! ### The input device -/

inductive InputEvent
  | mtSlot (slot : Nat)
  | slotState (active : Bool)
  | abs (code : Nat) (value : Nat)
  | btnTouch (value : Bool)
  | sync
deriving DecidableEq

structure InputDev where
  slot : Nat
  /-- the last state reported for each slot -/
  active : Nat → Bool
  /-- the last value reported for `BTN_TOUCH` -/
  btnTouch : Bool
  events : List InputEvent

namespace InputDev

def mtSlot (dev : InputDev) (slot : Nat) : InputDev :=
  { dev with slot, events := dev.events ++ [.mtSlot slot] }

def mtReportSlotState (dev : InputDev) (active : Bool) : InputDev :=
  { dev with
    active := Function.update dev.active dev.slot active
    events := dev.events ++ [.slotState active] }

def reportAbs (dev : InputDev) (code value : Nat) : InputDev :=
  { dev with events := dev.events ++ [.abs code value] }

def reportBtnTouch (dev : InputDev) (value : Bool) : InputDev :=
  { dev with btnTouch := value, events := dev.events ++ [.btnTouch value] }

def sync (dev : InputDev) : InputDev := { dev with events := dev.events ++ [.sync] }

end InputDev

def absMtTouchMajor : Nat := 0x30
def absMtPositionX : Nat := 0x35
def absMtPositionY : Nat := 0x36
def absMtPressure : Nat := 0x3a

/-! ### Driver data -/

/-- The build constants of `axs_core.h`, with room in the report for every point. -/
structure AxsConfig where
  maxTouchNumber : Nat
  pntBufSize : Nat
  hasPoint : 1 ≤ maxTouchNumber
  hasRoom : 6 * maxTouchNumber + 3 ≤ pntBufSize

/-- As shipped. -/
def AxsConfig.shipped : AxsConfig where
  maxTouchNumber := 1
  pntBufSize := 15
  hasPoint := by decide
  hasRoom := by decide

def axsOneTchLen : Nat := 6
def axsMaxId : Nat := 0x05
def axsTouchGesturePos : Nat := 0
def axsTouchPointNum : Nat := 1
def axsTouchEventPos : Nat := 2
def axsTouchXHPos : Nat := 2
def axsTouchXLPos : Nat := 3
def axsTouchIdPos : Nat := 4
def axsTouchYHPos : Nat := 4
def axsTouchYLPos : Nat := 5
def axsTouchWeightPos : Nat := 6
def axsTouchAreaPos : Nat := 7

def axsTouchDown : Nat := 0
def axsTouchContact : Nat := 2

/-- `EVENT_DOWN` -/
def eventDown (flag : Nat) : Bool := axsTouchDown == flag || axsTouchContact == flag

structure TsEvent where
  x : Nat
  y : Nat
  weight : Nat
  flag : Nat
  id : Nat
  area : Nat

/-- A report buffer, byte by byte. -/
abbrev Report := Nat → UInt8

structure AxsTsData where
  pointBuf : Report
  events : Nat → TsEvent
  touchs : BitVec 32
  touchPoint : Nat
  keyState : Nat
  fwLoading : Bool
  inputDev : InputDev

/-- What `axs_read_buf` gives: its return code and the buffer. -/
structure BusRead where
  ret : Int
  buf : Report

/-! ### Reading and parsing -/

/-- The sum of all bytes but the last. The index is a `u8`, so with more than 255 bytes to sum the loop never ends. -/
def crcSum (config : AxsConfig) (buf : Report) : Option UInt8 :=
  if config.pntBufSize - 1 ≤ 255 then
    some ((List.range (config.pntBufSize - 1)).foldl (fun sum i => sum + buf i) 0)
  else none

/-- `none` is a call that never returns. -/
def axsReadTouchdata (config : AxsConfig) (data : AxsTsData) (bus : BusRead) :
    Option (AxsTsData × Int) :=
  let data := { data with pointBuf := bus.buf }
  if bus.ret < 0 then some (data, bus.ret)
  else do
    let sum ← crcSum config data.pointBuf
    if sum ≠ data.pointBuf (config.pntBufSize - 1) then some (data, -1)
    else some (data, 0)

/-- The fields read for point `i`. -/
def readEvent (buf : Report) (i : Nat) : TsEvent :=
  let base := axsOneTchLen * i
  { x := ((buf (axsTouchXHPos + base) &&& 0x0F).toNat <<< 8) + (buf (axsTouchXLPos + base)).toNat
    y := ((buf (axsTouchYHPos + base) &&& 0x0F).toNat <<< 8) + (buf (axsTouchYLPos + base)).toNat
    flag := (buf (axsTouchEventPos + base) >>> 6).toNat
    id := (buf (axsTouchIdPos + base) >>> 4).toNat
    area := (buf (axsTouchAreaPos + base) >>> 4).toNat
    weight := (buf (axsTouchWeightPos + base)).toNat }

/-- The loop over the points, from `i` on with `left` to go: `some` is a return of the parser. -/
def parsePoints (config : AxsConfig) (pointNum : Nat) :
    Nat → Nat → AxsTsData → AxsTsData × Option Int
  | 0, _, data => (data, none)
  | left + 1, i, data =>
      let event := readEvent data.pointBuf i
      if event.id ≥ axsMaxId then (data, none)
      else if event.id ≥ config.maxTouchNumber then (data, some (-1))
      else
        let data := { data with
          touchPoint := data.touchPoint + 1
          events := Function.update data.events i event }
        if eventDown event.flag ∧ pointNum = 0 then (data, some (-1))
        else parsePoints config pointNum left (i + 1) data

def pointNum (buf : Report) : Nat := (buf axsTouchPointNum &&& 0x0F).toNat

def axsReadParseTouchdata (config : AxsConfig) (data : AxsTsData) (bus : BusRead) :
    Option (AxsTsData × Int) := do
  let (data, ret) ← axsReadTouchdata config data bus
  if ret < 0 then return (data, ret)
  if 0 ≠ data.pointBuf axsTouchGesturePos then
    return (data, (data.pointBuf axsTouchGesturePos).toNat)
  let data := { data with touchPoint := 0 }
  let pointNum :=
    if pointNum data.pointBuf > config.maxTouchNumber then config.maxTouchNumber
    else pointNum data.pointBuf
  match parsePoints config pointNum pointNum 0 data with
  | (data, some ret) => return (data, ret)
  | (data, none) =>
      if data.touchPoint = 0 then return (data, -1)
      else return (data, 0)

/-! ### Reporting -/

/-- `BIT(i)`, an `unsigned long`. -/
def bit (i : Nat) : BitVec 64 := 1#64 <<< i

/-- `touchs |= BIT(i)` -/
def setBit (touchs : BitVec 32) (i : Nat) : BitVec 32 :=
  (touchs.signExtend 64 ||| bit i).setWidth 32

/-- `touchs &= ~BIT(i)` -/
def clearBit (touchs : BitVec 32) (i : Nat) : BitVec 32 :=
  (touchs.signExtend 64 &&& ~~~bit i).setWidth 32

/-- The locals of `axs_input_report_b` with the driver data. -/
structure ReportLoop where
  data : AxsTsData
  downPoints : Nat
  upPoints : Nat
  touchs : BitVec 32
  vaReported : Bool

/-- A point that is down: `weight` and `area` are corrected in the event itself. -/
def reportDown (data : AxsTsData) (i : Nat) : AxsTsData :=
  let dev := data.inputDev.mtReportSlotState true
  let event := data.events i
  let event := if event.weight ≤ 0 then { event with weight := 0x3f } else event
  let dev := dev.reportAbs absMtPressure event.weight
  let event := if event.area ≤ 0 then { event with area := 0x09 } else event
  let dev := dev.reportAbs absMtTouchMajor event.area
  let dev := dev.reportAbs absMtPositionX event.x
  let dev := dev.reportAbs absMtPositionY event.y
  { data with
    events := Function.update data.events i event
    inputDev := dev
    touchs := setBit data.touchs event.id }

def reportUp (data : AxsTsData) (i : Nat) : AxsTsData :=
  { data with
    inputDev := data.inputDev.mtReportSlotState false
    touchs := clearBit data.touchs (data.events i).id }

/-- One pass of the loop over the points. -/
def reportPoint (loop : ReportLoop) (i : Nat) : ReportLoop :=
  let data := loop.data
  let event := data.events i
  let data := { data with inputDev := data.inputDev.mtSlot event.id }
  if eventDown event.flag then
    { loop with
      vaReported := true
      data := reportDown data i
      touchs := setBit loop.touchs event.id
      downPoints := loop.downPoints + 1 }
  else
    { loop with
      vaReported := true
      data := reportUp data i
      upPoints := loop.upPoints + 1 }

/-- One pass of the loop over the slots that were missed. -/
def releaseMissed (loop : ReportLoop) (i : Nat) : ReportLoop :=
  if bit i &&& (loop.data.touchs ^^^ loop.touchs).signExtend 64 ≠ 0 then
    { loop with
      vaReported := true
      data := { loop.data with
        inputDev := (loop.data.inputDev.mtSlot i).mtReportSlotState false } }
  else loop

def axsInputReportB (config : AxsConfig) (data : AxsTsData) : AxsTsData :=
  let loop : ReportLoop :=
    { data, downPoints := 0, upPoints := 0, touchs := 0, vaReported := false }
  let loop := (List.range data.touchPoint).foldl reportPoint loop
  let loop :=
    if loop.data.touchs ^^^ loop.touchs ≠ 0 then
      (List.range config.maxTouchNumber).foldl releaseMissed loop
    else loop
  let data := { loop.data with touchs := loop.touchs }
  let data :=
    if loop.vaReported then
      { data with inputDev := data.inputDev.reportBtnTouch (0 ≠ loop.downPoints) }
    else data
  { data with inputDev := data.inputDev.sync }

def axsReleaseAllFinger (config : AxsConfig) (data : AxsTsData) : AxsTsData :=
  let dev := (List.range config.maxTouchNumber).foldl
    (fun dev finger => (dev.mtSlot finger).mtReportSlotState false) data.inputDev
  { data with
    inputDev := (dev.reportBtnTouch false).sync
    touchs := 0
    touchPoint := 0
    keyState := 0 }

/-! ### The interrupt -/

def axsTsReportThreadHandler (config : AxsConfig) (data : AxsTsData) (bus : BusRead) :
    Option AxsTsData := do
  let (data, ret) ← axsReadParseTouchdata config data bus
  if ret = 0 then return axsInputReportB config data
  else return data

def axsTsInterrupt (config : AxsConfig) (data : AxsTsData) (bus : BusRead) : Option AxsTsData :=
  if data.fwLoading then some data
  else axsTsReportThreadHandler config data bus

/-! ### The interrupt line -/

/-- The rest of `struct axs_ts_data` that the interrupt depends on. -/
structure Panel extends AxsTsData where
  suspended : Bool
  irqDisabled : Bool

def axsIrqDisable (panel : Panel) : Panel :=
  if !panel.irqDisabled then { panel with irqDisabled := true } else panel

def axsIrqEnable (panel : Panel) : Panel :=
  if panel.irqDisabled then { panel with irqDisabled := false } else panel

@[simp] theorem axsIrqDisable_eq (panel : Panel) :
    axsIrqDisable panel = { panel with irqDisabled := true } := by
  cases panel with
  | mk data suspended irqDisabled => cases irqDisabled <;> rfl

@[simp] theorem axsIrqEnable_eq (panel : Panel) :
    axsIrqEnable panel = { panel with irqDisabled := false } := by
  cases panel with
  | mk data suspended irqDisabled => cases irqDisabled <;> rfl

def axsResetAndLcdInit (panel : Panel) : Panel := axsIrqEnable (axsIrqDisable panel)

/-! ### Runs -/

inductive TouchEvent
  | interrupt (bus : BusRead)
  | releaseAll
  /-- a firmware load begins or ends -/
  | fwLoading (loading : Bool)

def touchStep (config : AxsConfig) (before : AxsTsData) (event : TouchEvent) (after : AxsTsData) :
    Prop :=
  match event with
  | .interrupt bus => axsTsInterrupt config before bus = some after
  | .releaseAll => after = axsReleaseAllFinger config before
  | .fwLoading loading => after = { before with fwLoading := loading }

def InputDev.initial : InputDev where
  slot := 0
  active := fun _ => false
  btnTouch := false
  events := []

/-- The driver data as `axs_ts_probe` leaves it. -/
def AxsTsData.initial : AxsTsData where
  pointBuf := fun _ => 0
  events := fun _ => ⟨0, 0, 0, 0, 0, 0⟩
  touchs := 0
  touchPoint := 0
  keyState := 0
  fwLoading := false
  inputDev := .initial

/-- The panel as `axs_ts_probe` leaves it. -/
def Panel.initial : Panel where
  toAxsTsData := .initial
  suspended := false
  irqDisabled := false

end FrontPanel.Touch
