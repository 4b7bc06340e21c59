import FrontPanel.Sio.FanCommands
import FrontPanel.Sio.Watchdog

/-!
# Accesses that fail

The handlers of the fan, power and wake-up files and of the backlight, over a controller each of whose accesses may time out. A handler that writes makes all its calls and drops what they return; one that reads prints what is in its locals, which a read that failed leaves as they were. `fan_read` has two locals for the eight bytes of four fans, so what it prints for a fan whose reads fail is the speed of the one before it, and for the first fan whatever was on the stack.
-/

namespace FrontPanel.Sio.Failing

open CString

/-! ### The writes -/

/-- The calls of a handler, whose return codes it drops. -/
def makeCalls : List EcCall → Prog EcCalls Unit
  | [] => return ()
  | call :: calls => do
      let _ ← Prog.access EcCalls call
      makeCalls calls

/-- What a write comes down to: the code of a text that is refused, or the calls of a handler and the size. -/
def serveOrder (order : Except Int SioHandler) (size : Nat) : Prog EcCalls Int :=
  match order with
  | .error ret => return ret
  | .ok handler => do
      makeCalls handler.calls
      return size

def fanWriteOrder (buffer : List UInt8) (copied : Bool) : Except Int SioHandler :=
  if buffer.length > 11 then .error eInval
  else if ¬ copied then .error Board.eFault
  else
    match fanOrder (Board.startupText buffer) with
    | some (pair, pwm) => .ok (pair.handler (UInt8.ofNat pwm))
    | none => .error eInval

def pwrWriteOrder (buffer : List UInt8) (copied : Bool) : Except Int SioHandler :=
  if ¬ copied then .error eInval
  else
    match kstrtoint (ofBuffer buffer) with
    | .error _ => .error eInval
    | .ok inData =>
        if inData < 0 ∨ inData ≥ 8 then .error eInval
        else .ok (.pwrWrite (UInt8.ofNat inData.toNat))

def g3wakeupWriteOrder (buffer : List UInt8) (copied : Bool) : Except Int SioHandler :=
  let userBuffer := ofBuffer buffer
  if ¬ copied then .error eInval
  else if strncmp (ascii "on") userBuffer 2 = 0 then .ok (.g3wakeupWrite true)
  else if strncmp (ascii "off") userBuffer 3 = 0 then .ok (.g3wakeupWrite false)
  else .error Board.eBusy

def lanwakeupWriteOrder (buffer : List UInt8) (copied : Bool) : Except Int SioHandler :=
  let userBuffer := ofBuffer buffer
  if ¬ copied then .error eInval
  else if strncmp (ascii "on") userBuffer 2 ≠ 0 then .ok (.lanwakeupWrite false)
  else if strncmp (ascii "off") userBuffer 3 ≠ 0 then .ok (.lanwakeupWrite true)
  else .error Board.eBusy

def fanWrite (buffer : List UInt8) (copied : Bool) : Prog EcCalls Int :=
  serveOrder (fanWriteOrder buffer copied) buffer.length

def pwrWrite (buffer : List UInt8) (copied : Bool) : Prog EcCalls Int :=
  serveOrder (pwrWriteOrder buffer copied) buffer.length

def g3wakeupWrite (buffer : List UInt8) (copied : Bool) : Prog EcCalls Int :=
  serveOrder (g3wakeupWriteOrder buffer copied) buffer.length

def lanwakeupWrite (buffer : List UInt8) (copied : Bool) : Prog EcCalls Int :=
  serveOrder (lanwakeupWriteOrder buffer copied) buffer.length

/-- `props.brightness` is cut to a byte, and the function returns 0 whatever the access did. -/
def mipiBacklightUpdateStatus (brightness : BitVec 32) : Prog EcCalls Int := do
  makeCalls (SioHandler.mipiBacklightUpdateStatus (.ofBitVec (brightness.setWidth 8))).calls
  return 0

inductive EcWriter
  | fanWrite (buffer : List UInt8) (copied : Bool)
  | pwrWrite (buffer : List UInt8) (copied : Bool)
  | g3wakeupWrite (buffer : List UInt8) (copied : Bool)
  | lanwakeupWrite (buffer : List UInt8) (copied : Bool)
  | mipiBacklightUpdateStatus (brightness : BitVec 32)

def EcWriter.program : EcWriter → Prog EcCalls Int
  | .fanWrite buffer copied => Failing.fanWrite buffer copied
  | .pwrWrite buffer copied => Failing.pwrWrite buffer copied
  | .g3wakeupWrite buffer copied => Failing.g3wakeupWrite buffer copied
  | .lanwakeupWrite buffer copied => Failing.lanwakeupWrite buffer copied
  | .mipiBacklightUpdateStatus brightness => Failing.mipiBacklightUpdateStatus brightness

/-! ### The reads -/

/-- A local after `ec_read_memory` was given its address: a read that fails stores nothing. -/
def stored (tmp : UInt8) : EcReturn → UInt8
  | (ret, some byte) => if ret = 0 then byte else tmp
  | (_, none) => tmp

def readInto (address tmp : UInt8) : Prog EcCalls UInt8 := do
  let answer ← Prog.access EcCalls (.read address)
  return stored tmp answer

def speedOf (tmp1 tmp2 : UInt8) : Nat := (tmp1.toNat <<< 8) + tmp2.toNat

def fanText (fan1Val fan2Val fan3Val fan4Val : Nat) : String :=
  "cpufan1 speed:" ++ toString fan1Val ++ "\ncpufan2 speed:" ++ toString fan2Val ++
    "\nsysfan1 speed:" ++ toString fan3Val ++ "\nsysfan2 speed:" ++ toString fan4Val ++ "\n"

/-- `tmp1` and `tmp2` are not initialised. -/
def fanRead (tmp1 tmp2 : UInt8) : Prog EcCalls (Except Int String) := do
  let tmp1 ← readInto deviceFan1SpeedMbs tmp1
  let tmp2 ← readInto deviceFan1SpeedLsb tmp2
  let fan1Val := speedOf tmp1 tmp2
  let tmp1 ← readInto deviceFan2SpeedMbs tmp1
  let tmp2 ← readInto deviceFan2SpeedLsb tmp2
  let fan2Val := speedOf tmp1 tmp2
  let tmp1 ← readInto deviceFan3SpeedMbs tmp1
  let tmp2 ← readInto deviceFan3SpeedLsb tmp2
  let fan3Val := speedOf tmp1 tmp2
  let tmp1 ← readInto deviceFan4SpeedMbs tmp1
  let tmp2 ← readInto deviceFan4SpeedLsb tmp2
  let fan4Val := speedOf tmp1 tmp2
  let fan4Val := if fan4Val = 0 ∧ fan3Val > 0 then fan3Val else fan4Val
  return .ok (fanText fan1Val fan2Val fan3Val fan4Val)

def pwrRead : Prog EcCalls (Except Int String) := do
  let ecPwrVal ← readInto ecPwrValue 0
  return .ok ("Curren PWR  level:" ++ toString ecPwrVal.toNat ++ "\n")

/-- The two wake-up files, which differ in their text only. -/
def wakeupRead (title : String) : Prog EcCalls (Except Int String) := do
  let val ← readInto g3WakeupAdr 0
  return if val = 0 ∨ val = 1 then .ok (title ++ toString val.toNat ++ "\n") else .error eInval

def g3wakeupRead : Prog EcCalls (Except Int String) := wakeupRead "G3-WakeUp Status:"

def lanwakeupRead : Prog EcCalls (Except Int String) := wakeupRead "LAN-WakeUp Status:"

inductive EcReader
  | fanRead (tmp1 tmp2 : UInt8)
  | pwrRead
  | g3wakeupRead
  | lanwakeupRead

def EcReader.program : EcReader → Prog EcCalls (Except Int String)
  | .fanRead tmp1 tmp2 => Failing.fanRead tmp1 tmp2
  | .pwrRead => Failing.pwrRead
  | .g3wakeupRead => Failing.g3wakeupRead
  | .lanwakeupRead => Failing.lanwakeupRead

/-! ### What is reported -/

/-- A call that returned 0, a read with its byte. -/
def Served : Event EcCalls → Prop
  | ⟨.read _, (ret, byte)⟩ => ret = 0 ∧ byte.isSome
  | ⟨.write _ _, ret⟩ => ret = (0 : Int)

def AllServed (events : List (Event EcCalls)) : Prop := ∀ event ∈ events, Served event

section Trace

variable {events : List (Event EcCalls)}

theorem makeCalls_ops {calls : List EcCall} (htrace : (makeCalls calls).Trace events ()) :
    events.map Event.op = calls := by
  induction calls generalizing events with
  | nil =>
      obtain ⟨rfl, -⟩ := htrace
      rfl
  | cons call calls ih =>
      rw [makeCalls, Prog.access_bind, Prog.trace_call] at htrace
      obtain ⟨answer, rest, rfl, hrest⟩ := htrace
      rw [List.map_cons, ih hrest]

theorem serveOrder_trace {order : Except Int SioHandler} {size : Nat} {ret : Int}
    (htrace : (serveOrder order size).Trace events ret) :
    (events = [] ∧ order = .error ret) ∨
    ∃ handler, order = .ok handler ∧ events.map Event.op = handler.calls ∧ ret = size := by
  cases order with
  | error code =>
      obtain ⟨rfl, rfl⟩ := htrace
      exact .inl ⟨rfl, rfl⟩
  | ok handler =>
      obtain ⟨_, hcalls, rfl⟩ := Prog.trace_map.mp htrace
      exact .inr ⟨handler, rfl, makeCalls_ops hcalls, rfl⟩

theorem EcWriter.silent {writer : EcWriter} {ret : Int}
    (htrace : writer.program.Trace events ret) : events = [] ∨ 0 ≤ ret := by
  have horder : ∀ {order : Except Int SioHandler} {size : Nat},
      (serveOrder order size).Trace events ret → events = [] ∨ 0 ≤ ret := by
    intro order size hserve
    obtain ⟨hnone, -⟩ | ⟨_, -, -, rfl⟩ := serveOrder_trace hserve
    · exact .inl hnone
    · exact .inr (Int.natCast_nonneg size)
  cases writer with
  | fanWrite buffer copied => exact horder htrace
  | pwrWrite buffer copied => exact horder htrace
  | g3wakeupWrite buffer copied => exact horder htrace
  | lanwakeupWrite buffer copied => exact horder htrace
  | mipiBacklightUpdateStatus brightness =>
      obtain ⟨_, -, rfl⟩ := Prog.trace_map.mp htrace
      exact .inr (Int.le_refl 0)

/-- What a text is to show: of the fans, the speeds in their own registers, the fourth one's that of the third if it has none. -/
def EcReader.Faithful (events : List (Event EcCalls)) (text : String) : EcReader → Prop
  | .fanRead _ _ =>
      ∃ register : UInt8 → UInt8,
        (∀ event ∈ events, ∃ address, event = ⟨.read address, ((0 : Int), some (register address))⟩) ∧
        let speed := fun msb lsb => (register msb).toNat * 256 + (register lsb).toNat
        let fan3 := speed deviceFan3SpeedMbs deviceFan3SpeedLsb
        let fan4 := speed deviceFan4SpeedMbs deviceFan4SpeedLsb
        text = fanText (speed deviceFan1SpeedMbs deviceFan1SpeedLsb)
          (speed deviceFan2SpeedMbs deviceFan2SpeedLsb) fan3 (if fan4 = 0 then fan3 else fan4)
  | _ => True

theorem readInto_trace {address tmp byte : UInt8} (htrace : (readInto address tmp).Trace events byte) :
    ∃ answer, events = [⟨.read address, answer⟩] ∧ byte = stored tmp answer := by
  obtain ⟨answer, _, rfl, rfl, rfl⟩ := htrace
  exact ⟨answer, rfl, rfl⟩

theorem stored_unserved {address tmp : UInt8} {answer : EcReturn}
    (hfailed : ¬ Served ⟨.read address, answer⟩) : stored tmp answer = tmp := by
  obtain ⟨ret, byte⟩ := answer
  cases byte with
  | none => rfl
  | some byte =>
      have hret : ret ≠ 0 := fun hret => hfailed ⟨hret, rfl⟩
      rw [stored, if_neg hret]

theorem served_read {address : UInt8} {answer : EcReturn}
    (hserved : Served ⟨.read address, answer⟩) :
    ∃ byte, answer = (0, some byte) ∧ ∀ tmp, stored tmp answer = byte := by
  obtain ⟨ret, byte⟩ := answer
  obtain ⟨rfl, hbyte⟩ := hserved
  cases byte with
  | none => cases hbyte
  | some byte => exact ⟨byte, rfl, fun _ => rfl⟩

theorem speedOf_eq (tmp1 tmp2 : UInt8) : speedOf tmp1 tmp2 = tmp1.toNat * 256 + tmp2.toNat := by
  rw [speedOf, Nat.shiftLeft_eq]

theorem readOne_trace {address : UInt8} {shown : UInt8 → Except Int String}
    {result : Except Int String}
    (htrace : (do
      let byte ← readInto address 0
      return shown byte : Prog EcCalls (Except Int String)).Trace events result) :
    ∃ answer, events = [⟨.read address, answer⟩] ∧ result = shown (stored 0 answer) := by
  obtain ⟨byte, hread, rfl⟩ := Prog.trace_map.mp htrace
  obtain ⟨answer, rfl, rfl⟩ := readInto_trace hread
  exact ⟨answer, rfl, rfl⟩

/-- The locals keep what they have from one fan to the next. -/
theorem fanRead_trace {tmp1 tmp2 : UInt8} {result : Except Int String}
    (htrace : (fanRead tmp1 tmp2).Trace events result) :
    ∃ m1 l1 m2 l2 m3 l3 m4 l4 : EcReturn,
      events = [⟨.read deviceFan1SpeedMbs, m1⟩, ⟨.read deviceFan1SpeedLsb, l1⟩,
        ⟨.read deviceFan2SpeedMbs, m2⟩, ⟨.read deviceFan2SpeedLsb, l2⟩,
        ⟨.read deviceFan3SpeedMbs, m3⟩, ⟨.read deviceFan3SpeedLsb, l3⟩,
        ⟨.read deviceFan4SpeedMbs, m4⟩, ⟨.read deviceFan4SpeedLsb, l4⟩] ∧
      let msb1 := stored tmp1 m1
      let lsb1 := stored tmp2 l1
      let msb2 := stored msb1 m2
      let lsb2 := stored lsb1 l2
      let msb3 := stored msb2 m3
      let lsb3 := stored lsb2 l3
      let fan3 := speedOf msb3 lsb3
      let fan4 := speedOf (stored msb3 m4) (stored lsb3 l4)
      result = .ok (fanText (speedOf msb1 lsb1) (speedOf msb2 lsb2) fan3
        (if fan4 = 0 ∧ fan3 > 0 then fan3 else fan4)) := by
  obtain ⟨m1, _, rfl, l1, _, rfl, m2, _, rfl, l2, _, rfl, m3, _, rfl, l3, _, rfl, m4, _, rfl, l4, _,
    rfl, rfl, rfl⟩ := htrace
  exact ⟨m1, l1, m2, l2, m3, l3, m4, l4, rfl, rfl⟩

theorem fan4_eq (fan3 fan4 : Nat) :
    (if fan4 = 0 ∧ fan3 > 0 then fan3 else fan4) = if fan4 = 0 then fan3 else fan4 := by
  split_ifs <;> omega

theorem fanRead_faithful {tmp1 tmp2 : UInt8} {text : String}
    (htrace : (fanRead tmp1 tmp2).Trace events (.ok text)) (hserved : AllServed events) :
    (EcReader.fanRead tmp1 tmp2).Faithful events text := by
  obtain ⟨m1, l1, m2, l2, m3, l3, m4, l4, rfl, htext⟩ := fanRead_trace htrace
  simp only [AllServed, List.forall_mem_cons] at hserved
  obtain ⟨hm1, hl1, hm2, hl2, hm3, hl3, hm4, hl4, -⟩ := hserved
  obtain ⟨m1, rfl, hm1⟩ := served_read hm1
  obtain ⟨l1, rfl, hl1⟩ := served_read hl1
  obtain ⟨m2, rfl, hm2⟩ := served_read hm2
  obtain ⟨l2, rfl, hl2⟩ := served_read hl2
  obtain ⟨m3, rfl, hm3⟩ := served_read hm3
  obtain ⟨l3, rfl, hl3⟩ := served_read hl3
  obtain ⟨m4, rfl, hm4⟩ := served_read hm4
  obtain ⟨l4, rfl, hl4⟩ := served_read hl4
  simp only [hm1, hl1, hm2, hl2, hm3, hl3, hm4, hl4, speedOf_eq, fan4_eq] at htext
  let register : UInt8 → UInt8 := fun address =>
    if address = deviceFan1SpeedMbs then m1 else if address = deviceFan1SpeedLsb then l1
    else if address = deviceFan2SpeedMbs then m2 else if address = deviceFan2SpeedLsb then l2
    else if address = deviceFan3SpeedMbs then m3 else if address = deviceFan3SpeedLsb then l3
    else if address = deviceFan4SpeedMbs then m4 else l4
  refine ⟨register, ?_, Except.ok.inj htext⟩
  simp only [List.forall_mem_cons]
  exact ⟨⟨deviceFan1SpeedMbs, rfl⟩, ⟨deviceFan1SpeedLsb, rfl⟩, ⟨deviceFan2SpeedMbs, rfl⟩,
    ⟨deviceFan2SpeedLsb, rfl⟩, ⟨deviceFan3SpeedMbs, rfl⟩, ⟨deviceFan3SpeedLsb, rfl⟩,
    ⟨deviceFan4SpeedMbs, rfl⟩, ⟨deviceFan4SpeedLsb, rfl⟩, fun _ hmem => absurd hmem List.not_mem_nil⟩

/-- A read that has failed still gives a text. -/
theorem EcReader.silent {reader : EcReader} {result : Except Int String}
    (htrace : reader.program.Trace events result) (hfailed : ¬ AllServed events) :
    ∃ text, result = .ok text := by
  have hone : ∀ {address : UInt8} {answer : EcReturn}, ¬ AllServed [⟨.read address, answer⟩] →
      stored 0 answer = 0 := by
    intro address answer hfailed
    have hread : ¬ Served ⟨.read address, answer⟩ := fun hserved =>
      hfailed (List.forall_mem_singleton.mpr hserved)
    exact stored_unserved hread
  have hwakeup : ∀ {title : String}, (wakeupRead title).Trace events result →
      ∃ text, result = .ok text := by
    intro title hread
    obtain ⟨answer, rfl, rfl⟩ := readOne_trace hread
    rw [hone hfailed]
    exact ⟨_, rfl⟩
  cases reader with
  | fanRead tmp1 tmp2 =>
      obtain ⟨m1, l1, m2, l2, m3, l3, m4, l4, -, htext⟩ := fanRead_trace htrace
      exact ⟨_, htext⟩
  | pwrRead =>
      obtain ⟨answer, -, rfl⟩ := readOne_trace htrace
      exact ⟨_, rfl⟩
  | g3wakeupRead => exact hwakeup htrace
  | lanwakeupRead => exact hwakeup htrace

theorem EcReader.faithful {reader : EcReader} {text : String}
    (htrace : reader.program.Trace events (.ok text)) (hserved : AllServed events) :
    reader.Faithful events text := by
  cases reader with
  | fanRead tmp1 tmp2 => exact fanRead_faithful htrace hserved
  | pwrRead => trivial
  | g3wakeupRead => trivial
  | lanwakeupRead => trivial

end Trace

/-! ### A board that serves every call -/

/-- On a board whose calls all return 0 a handler does what its order says. -/
def serveOn (s : Board) (order : Except Int SioHandler) (size : Nat) : Board × Int :=
  match order with
  | .error ret => (s, ret)
  | .ok handler => (s.serve handler, size)

theorem fanWrite_serveOn (s : Board) (buffer : List UInt8) (copied : Bool) :
    s.fanWrite buffer copied = serveOn s (fanWriteOrder buffer copied) buffer.length := by
  rw [Board.fanWrite, fanWriteOrder]
  split
  · rfl
  split
  · rfl
  rw [fanCommand_eq]
  cases fanOrder (Board.startupText buffer) with
  | none => rfl
  | some order => rfl

theorem pwrWrite_serveOn (s : Board) (buffer : List UInt8) (copied : Bool) :
    s.pwrWrite buffer copied = serveOn s (pwrWriteOrder buffer copied) buffer.length := by
  rw [Board.pwrWrite, pwrWriteOrder]
  split
  · rfl
  cases kstrtoint (ofBuffer buffer) with
  | error ret => rfl
  | ok inData =>
      dsimp only
      split
      · rfl
      · rfl

theorem g3wakeupWrite_serveOn (s : Board) (buffer : List UInt8) (copied : Bool) :
    s.g3wakeupWrite buffer copied = serveOn s (g3wakeupWriteOrder buffer copied) buffer.length := by
  rw [Board.g3wakeupWrite, g3wakeupWriteOrder]
  split
  · rfl
  split
  · rfl
  split
  · rfl
  · rfl

theorem lanwakeupWrite_serveOn (s : Board) (buffer : List UInt8) (copied : Bool) :
    s.lanwakeupWrite buffer copied =
      serveOn s (lanwakeupWriteOrder buffer copied) buffer.length := by
  rw [Board.lanwakeupWrite, lanwakeupWriteOrder]
  split
  · rfl
  split
  · rfl
  split
  · rfl
  · rfl

theorem makeCalls_mem {calls : List EcCall} {events : List (Event EcCalls)}
    {mem after : AtomicMemory} (htrace : (makeCalls calls).Trace events ())
    (hserved : AllServed events) (hrun : Run AtomicMemory.served mem events after) :
    after = mem.applyAll (calls.map fun call => (call, (0, none))) := by
  induction calls generalizing events mem with
  | nil =>
      obtain ⟨rfl, -⟩ := htrace
      exact Run.nil_iff.mp hrun
  | cons call calls ih =>
      rw [makeCalls, Prog.access_bind, Prog.trace_call] at htrace
      obtain ⟨answer, rest, rfl, hrest⟩ := htrace
      obtain ⟨hfirst, hserved⟩ := List.forall_mem_cons.mp hserved
      obtain ⟨middle, hstep, hrun⟩ := Run.cons_iff.mp hrun
      rw [ih hrest hserved hrun]
      cases call with
      | read address =>
          obtain ⟨rfl, -⟩ := hstep
          rfl
      | write address value =>
          obtain rfl : answer = (0 : Int) := hfirst
          obtain ⟨rfl, -⟩ := hstep
          rfl

theorem serveOrder_on_board {order : Except Int SioHandler} {size : Nat} {ret : Int}
    {events : List (Event EcCalls)} {s : Board} {mem : AtomicMemory}
    (htrace : (serveOrder order size).Trace events ret) (hserved : AllServed events)
    (hrun : Run AtomicMemory.served s.mem events mem) :
    ({ s with mem }, ret) = serveOn s order size := by
  cases order with
  | error code =>
      obtain ⟨rfl, rfl⟩ := htrace
      obtain rfl := Run.nil_iff.mp hrun
      rfl
  | ok handler =>
      obtain ⟨_, hcalls, rfl⟩ := Prog.trace_map.mp htrace
      obtain rfl := makeCalls_mem hcalls hserved hrun
      rfl

/-- The writes as they are on a board whose accesses succeed. -/
def EcWriter.onBoard (s : Board) : EcWriter → Board × Int
  | .fanWrite buffer copied => s.fanWrite buffer copied
  | .pwrWrite buffer copied => s.pwrWrite buffer copied
  | .g3wakeupWrite buffer copied => s.g3wakeupWrite buffer copied
  | .lanwakeupWrite buffer copied => s.lanwakeupWrite buffer copied
  | .mipiBacklightUpdateStatus brightness =>
      (s.serve (.mipiBacklightUpdateStatus (.ofBitVec (brightness.setWidth 8))), 0)

/-- Where no access fails a write leaves the cells and returns the code that it does on the board. -/
theorem EcWriter.served_on_board {writer : EcWriter} {events : List (Event EcCalls)} {ret : Int}
    {s : Board} {mem : AtomicMemory} (htrace : writer.program.Trace events ret)
    (hserved : AllServed events) (hrun : Run AtomicMemory.served s.mem events mem) :
    ({ s with mem }, ret) = writer.onBoard s := by
  cases writer with
  | fanWrite buffer copied =>
      rw [onBoard, fanWrite_serveOn]
      exact serveOrder_on_board htrace hserved hrun
  | pwrWrite buffer copied =>
      rw [onBoard, pwrWrite_serveOn]
      exact serveOrder_on_board htrace hserved hrun
  | g3wakeupWrite buffer copied =>
      rw [onBoard, g3wakeupWrite_serveOn]
      exact serveOrder_on_board htrace hserved hrun
  | lanwakeupWrite buffer copied =>
      rw [onBoard, lanwakeupWrite_serveOn]
      exact serveOrder_on_board htrace hserved hrun
  | mipiBacklightUpdateStatus brightness =>
      obtain ⟨_, hcalls, rfl⟩ := Prog.trace_map.mp htrace
      obtain rfl := makeCalls_mem hcalls hserved hrun
      rfl

/-! ### The entry points -/

inductive EcEntry
  | write (writer : EcWriter)
  | read (reader : EcReader)

/-- What an entry point returns: a code, or a text or a code. -/
abbrev EcEntry.Outcome : EcEntry → Type
  | .write _ => Int
  | .read _ => Except Int String

def EcEntry.program : (entry : EcEntry) → Prog EcCalls entry.Outcome
  | .write writer => writer.program
  | .read reader => reader.program

/-- Success is reported, and a text given, only where every access was served; and the text shows what was read. -/
def EcEntry.Reports (events : List (Event EcCalls)) : (entry : EcEntry) → entry.Outcome → Prop
  | .write _, ret => 0 ≤ ret → AllServed events
  | .read reader, result =>
      ∀ text, result = .ok text → AllServed events ∧ reader.Faithful events text

theorem ecFailures_reported_iff {entry : EcEntry} {events : List (Event EcCalls)}
    {outcome : entry.Outcome} (htrace : entry.program.Trace events outcome) :
    entry.Reports events outcome ↔ AllServed events := by
  cases entry with
  | write writer =>
      constructor
      · intro hreported
        rcases EcWriter.silent htrace with rfl | hret
        · exact fun _ hmem => absurd hmem List.not_mem_nil
        · exact hreported hret
      · exact fun hserved _ => hserved
  | read reader =>
      constructor
      · intro hreported
        by_contra hfailed
        obtain ⟨text, htext⟩ := EcReader.silent htrace hfailed
        exact hfailed (hreported text htext).1
      · intro hserved text htext
        subst htext
        exact ⟨hserved, EcReader.faithful htrace hserved⟩

/-- All reads of the second fan time out, and every other register holds 3 or 232. -/
def deadFanEvents : List (Event EcCalls) :=
  [⟨.read deviceFan1SpeedMbs, ((0 : Int), some (3 : UInt8))⟩,
    ⟨.read deviceFan1SpeedLsb, ((0 : Int), some (232 : UInt8))⟩,
    ⟨.read deviceFan2SpeedMbs, (eTimedOut, none)⟩, ⟨.read deviceFan2SpeedLsb, (eTimedOut, none)⟩,
    ⟨.read deviceFan3SpeedMbs, ((0 : Int), some (3 : UInt8))⟩,
    ⟨.read deviceFan3SpeedLsb, ((0 : Int), some (232 : UInt8))⟩,
    ⟨.read deviceFan4SpeedMbs, ((0 : Int), some (3 : UInt8))⟩,
    ⟨.read deviceFan4SpeedLsb, ((0 : Int), some (232 : UInt8))⟩]

theorem fanRead_deadFan : (fanRead 0 0).Trace deadFanEvents (.ok (fanText 1000 1000 1000 1000)) :=
  ⟨_, _, rfl, _, _, rfl, _, _, rfl, _, _, rfl, _, _, rfl, _, _, rfl, _, _, rfl, _, _, rfl, rfl, rfl⟩

theorem not_allServed_deadFan : ¬ AllServed deadFanEvents := by
  intro hserved
  have hfailed : Served ⟨.read deviceFan2SpeedMbs, (eTimedOut, none)⟩ :=
    hserved _ (by simp [deadFanEvents])
  exact absurd hfailed.1 (by decide)

theorem ecFailures_reported_deadFan :
    ¬ EcEntry.Reports deadFanEvents (.read (.fanRead 0 0)) (.ok (fanText 1000 1000 1000 1000)) := by
  have hiff := @ecFailures_reported_iff (.read (.fanRead 0 0)) deadFanEvents
    (.ok (fanText 1000 1000 1000 1000)) fanRead_deadFan
  exact hiff.not.mpr not_allServed_deadFan

theorem ecFailures_not_reported : ¬ ∀ (entry : EcEntry) (events : List (Event EcCalls))
    (outcome : entry.Outcome), entry.program.Trace events outcome →
      entry.Reports events outcome := by
  intro halways
  have hreported := halways (.read (.fanRead 0 0)) deadFanEvents
    (.ok (fanText 1000 1000 1000 1000)) fanRead_deadFan
  exact not_allServed_deadFan (hreported _ rfl).1

end FrontPanel.Sio.Failing
