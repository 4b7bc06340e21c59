import FrontPanel.Lib.Bytes
import FrontPanel.Lib.LocalArray

/-!
# The touch controller's commands

The four functions of `axs_core.c` that send the controller a command. Each fills in some bytes of a global array, `write_cmd`, `read_cmd` or `read_sfr_cmd`, and hands the array to the bus layer of `axs_i2c.c`. The arrays are never cleared: a command shorter than the one before it leaves the rest of that one behind. Every byte stored and every byte the bus layer takes from an array is an access by index, and so are the calls of the bus layer accesses, answered with whatever they return.

`Command.stated` says what the functions are for: the frames of a command from its own arguments, with no array. The functions refine it from whatever the commands before have left in the arrays.
-/

namespace FrontPanel.Touch.Commands

open LocalArray

/-! ### The functions -/

inductive BusLayerOp
  | axsWriteBytes (writebuf : List UInt8)
  | axsWriteBytesReadBytes (cmd data : List UInt8) (datalen : Nat)

/-- What the bus layer returns, with the buffer `data` as it leaves it. -/
abbrev BusLayer : Interface where
  Op := BusLayerOp
  Answer := fun op =>
    match op with
    | .axsWriteBytes _ => Int
    | .axsWriteBytesReadBytes _ _ _ => Int × List UInt8

inductive GlobalArray
  | writeCmd
  | readCmd
  | readSfrCmd
  deriving DecidableEq

inductive CommandOp
  | array (name : GlobalArray) (op : ArrayOp)
  | bus (op : BusLayerOp)

abbrev CommandIo : Interface where
  Op := CommandOp
  Answer := fun op =>
    match op with
    | .array _ op => LocalArray.Answer op
    | .bus op => BusLayer.Answer op

/-- A routine on one of the arrays. -/
def onArray {Value : Type} (name : GlobalArray) (program : Prog LocalArray Value) :
    Prog CommandIo Value :=
  program.handle fun op => .access CommandIo (.array name op)

def axsWriteBytes (writebuf : List UInt8) : Prog CommandIo Int :=
  .access CommandIo (.bus (.axsWriteBytes writebuf))

def axsWriteBytesReadBytes (cmd data : List UInt8) (datalen : Nat) :
    Prog CommandIo (Int × List UInt8) :=
  .access CommandIo (.bus (.axsWriteBytesReadBytes cmd data datalen))

/-- `if (len>10) len = 10;` -/
def clampLen (len : Nat) : Nat := if 10 < len then 10 else len

/-- What is stored in `write_cmd` for the bytes `buf`, and the `12+len` bytes taken from it. -/
def fillWriteCmd (buf : List UInt8) : Prog LocalArray (List UInt8) := do
  let len := clampLen buf.length
  store 4 (UInt8.ofNat ((len + 1) >>> 8))
  store 5 (UInt8.ofNat ((len + 1) &&& 0xff))
  storeAll 11 (buf.take len)
  store (11 + len : Nat) 0
  loadAll (12 + len) 0

def fillReadCmd (rdLen : Nat) : Prog LocalArray (List UInt8) := do
  store 6 (UInt8.ofNat (rdLen >>> 8))
  store 7 (UInt8.ofNat (rdLen &&& 0xff))
  loadAll 11 0

def fillReadSfrCmd (sfrReg : UInt8) (rdLen : Nat) : Prog LocalArray (List UInt8) := do
  store 6 (UInt8.ofNat (rdLen >>> 8))
  store 7 (UInt8.ofNat (rdLen &&& 0xff))
  store 10 sfrReg
  loadAll 11 0

/-- The functions return `ret` and leave the caller's buffer; `reg` and `wtBuf` are the bytes given, `rdData` the buffer for an answer. -/
def axsReadBuf (rdData : List UInt8) (rdLen : Nat) : Prog CommandIo (Int × List UInt8) :=
  if 0 < rdLen then do
    let cmd ← onArray .readCmd (fillReadCmd rdLen)
    let (ret, rdData) ← axsWriteBytesReadBytes cmd rdData rdLen
    if ret < 0 then return (ret, rdData)
    return (0, rdData)
  else return (0, rdData)

def axsReadRegs (reg rdData : List UInt8) (rdLen : Nat) : Prog CommandIo (Int × List UInt8) := do
  let cmd ← onArray .writeCmd (fillWriteCmd reg)
  let ret ← axsWriteBytes cmd
  if ret < 0 then return (ret, rdData)
  if 0 < rdLen then
    let cmd ← onArray .readCmd (fillReadCmd rdLen)
    let (ret, rdData) ← axsWriteBytesReadBytes cmd rdData rdLen
    if ret < 0 then return (ret, rdData)
    return (0, rdData)
  else return (0, rdData)

def axsWriteBuf (wtBuf : List UInt8) : Prog CommandIo Int := do
  let cmd ← onArray .writeCmd (fillWriteCmd wtBuf)
  let ret ← axsWriteBytes cmd
  if ret < 0 then return ret
  return 0

def axsReadSfrReg (sfrReg : UInt8) (rdData : List UInt8) (rdLen : Nat) :
    Prog CommandIo (Int × List UInt8) :=
  if 0 < rdLen then do
    let cmd ← onArray .readSfrCmd (fillReadSfrCmd sfrReg rdLen)
    let (ret, rdData) ← axsWriteBytesReadBytes cmd rdData rdLen
    if ret < 0 then return (ret, rdData)
    return (0, rdData)
  else return (-1, rdData)

/-! ### The arrays -/

/-- The three arrays, each with the bytes around it. -/
abbrev Globals : Type := GlobalArray → Memory

def initializer : GlobalArray → List UInt8
  | .writeCmd => [0xb5, 0xab, 0x5a, 0xa5, 0x00, 0x01, 0x00, 0x00, 0x00, 0x00, 0x00, 0xff, 0x00,
      0x00, 0x00, 0x00, 0x00, 0x00, 0x00, 0x00, 0x00, 0x00]
  | .readCmd => [0xb5, 0xab, 0xa5, 0x5a, 0x00, 0x00, 0x00, 0x01, 0x00, 0x00, 0x00]
  | .readSfrCmd => [0x5a, 0xa5, 0xab, 0xb5, 0x00, 0x00, 0x00, 0x01, 0x00, 0x80, 0x00]

def Initial (globals : Globals) : Prop := ∀ name, (globals name).array = initializer name

/-- An access to an array is done on it; a call of the bus layer leaves the arrays alone and returns anything. -/
def Step : Globals → Event CommandIo → Globals → Prop
  | globals, ⟨.array name op, answer⟩, globals' =>
      answer = ((globals name).access op).1 ∧
        globals' = Function.update globals name ((globals name).access op).2
  | globals, ⟨.bus _, _⟩, globals' => globals' = globals

/-! ### Sequences of commands -/

inductive Command
  | axsReadRegs (reg rdData : List UInt8) (rdLen : Nat)
  | axsWriteBuf (wtBuf : List UInt8)
  | axsReadBuf (rdData : List UInt8) (rdLen : Nat)
  | axsReadSfrReg (sfrReg : UInt8) (rdData : List UInt8) (rdLen : Nat)

/-- A command as the code carries it out: what it returns, and the buffer for an answer. -/
def Command.run : Command → Prog CommandIo (Int × List UInt8)
  | .axsReadRegs reg rdData rdLen => Commands.axsReadRegs reg rdData rdLen
  | .axsWriteBuf wtBuf => do return (← Commands.axsWriteBuf wtBuf, [])
  | .axsReadBuf rdData rdLen => Commands.axsReadBuf rdData rdLen
  | .axsReadSfrReg sfrReg rdData rdLen => Commands.axsReadSfrReg sfrReg rdData rdLen

/-- A call: the command, the accesses it made with their answers, and what came of it. -/
structure Call where
  command : Command
  events : List (Event CommandIo)
  result : Int × List UInt8

def Made (globals : Globals) (call : Call) (globals' : Globals) : Prop :=
  call.command.run.Trace call.events call.result ∧ Run Step globals call.events globals'

/-! ### What a command says -/

/-- `b5 ab 5a a5`, one more than the number of argument bytes, five zeros, at most ten argument bytes and a zero. -/
def writeFrame (buf : List UInt8) : List UInt8 :=
  [0xb5, 0xab, 0x5a, 0xa5] ++ bigEndian16 (min buf.length 10 + 1) ++ [0, 0, 0, 0, 0] ++
    buf.take (min buf.length 10) ++ [0]

def readFrame (rdLen : Nat) : List UInt8 :=
  [0xb5, 0xab, 0xa5, 0x5a, 0x00, 0x00] ++ bigEndian16 rdLen ++ [0x00, 0x00, 0x00]

def readSfrFrame (sfrReg : UInt8) (rdLen : Nat) : List UInt8 :=
  [0x5a, 0xa5, 0xab, 0xb5, 0x00, 0x00] ++ bigEndian16 rdLen ++ [0x00, 0x80, sfrReg]

/-- The write and the read of a command, with the frame given. -/
def statedWrite (frame : List UInt8) : Prog BusLayer Int := do
  let ret ← .access BusLayer (.axsWriteBytes frame)
  if ret < 0 then return ret
  return 0

def statedRead (frame rdData : List UInt8) (rdLen : Nat) : Prog BusLayer (Int × List UInt8) := do
  let (ret, rdData) ← .access BusLayer (.axsWriteBytesReadBytes frame rdData rdLen)
  if ret < 0 then return (ret, rdData)
  return (0, rdData)

/-- The frames of a command, from its arguments alone. -/
def Command.stated : Command → Prog BusLayer (Int × List UInt8)
  | .axsReadRegs reg rdData rdLen => do
      let ret ← .access BusLayer (.axsWriteBytes (writeFrame reg))
      if ret < 0 then return (ret, rdData)
      if 0 < rdLen then statedRead (readFrame rdLen) rdData rdLen
      else return (0, rdData)
  | .axsWriteBuf wtBuf => do return (← statedWrite (writeFrame wtBuf), [])
  | .axsReadBuf rdData rdLen =>
      if 0 < rdLen then statedRead (readFrame rdLen) rdData rdLen
      else return (0, rdData)
  | .axsReadSfrReg sfrReg rdData rdLen =>
      if 0 < rdLen then statedRead (readSfrFrame sfrReg rdLen) rdData rdLen
      else return (-1, rdData)

/-- The calls of the bus layer among the accesses of a command. -/
def busEvents (events : List (Event CommandIo)) : List (Event BusLayer) :=
  events.filterMap fun event =>
    match event with
    | ⟨.array _ _, _⟩ => none
    | ⟨.bus op, answer⟩ => some ⟨op, answer⟩

/-- An access to an array is within it. -/
def Inside : Event CommandIo → Prop
  | ⟨.array name op, _⟩ => 0 ≤ op.index ∧ op.index < (initializer name).length
  | ⟨.bus _, _⟩ => True

/-! ### What is kept of the arrays -/

/-- What every command leaves: the bytes that no command stores are those of the initializer. -/
def Tidy : GlobalArray → List UInt8 → Prop
  | .writeCmd, array => ∃ byte4 byte5 tail, tail.length = 11 ∧
      array = [0xb5, 0xab, 0x5a, 0xa5, byte4, byte5, 0x00, 0x00, 0x00, 0x00, 0x00] ++ tail
  | .readCmd, array => ∃ byte6 byte7,
      array = [0xb5, 0xab, 0xa5, 0x5a, 0x00, 0x00, byte6, byte7, 0x00, 0x00, 0x00]
  | .readSfrCmd, array => ∃ byte6 byte7 byte10,
      array = [0x5a, 0xa5, 0xab, 0xb5, 0x00, 0x00, byte6, byte7, 0x00, 0x80, byte10]

theorem tidy_initializer (name : GlobalArray) : Tidy name (initializer name) := by
  cases name with
  | writeCmd => exact ⟨0x00, 0x01, _, rfl, rfl⟩
  | readCmd => exact ⟨0x00, 0x01, rfl⟩
  | readSfrCmd => exact ⟨0x00, 0x01, 0x00, rfl⟩

theorem Tidy.length_eq {name : GlobalArray} {array : List UInt8} (htidy : Tidy name array) :
    array.length = (initializer name).length := by
  cases name with
  | writeCmd =>
      obtain ⟨byte4, byte5, tail, htail, rfl⟩ := htidy
      simp [initializer, htail]
  | readCmd =>
      obtain ⟨byte6, byte7, rfl⟩ := htidy
      rfl
  | readSfrCmd =>
      obtain ⟨byte6, byte7, byte10, rfl⟩ := htidy
      rfl

theorem clampLen_eq (len : Nat) : clampLen len = min len 10 := by
  rw [clampLen]
  split <;> omega

section Fill

variable {array : List UInt8}

theorem within_fillReadCmd (rdLen : Nat) (htidy : Tidy .readCmd array) :
    Within (fun frame array => frame = readFrame rdLen ∧ Tidy .readCmd array)
      (fillReadCmd rdLen) array := by
  obtain ⟨byte6, byte7, rfl⟩ := htidy
  rw [fillReadCmd, ofNat_shiftRight, ofNat_and_mask]
  simp [within_bind, within_loadAll, InBounds, readFrame, bigEndian16, Tidy]

theorem within_fillReadSfrCmd (sfrReg : UInt8) (rdLen : Nat) (htidy : Tidy .readSfrCmd array) :
    Within (fun frame array => frame = readSfrFrame sfrReg rdLen ∧ Tidy .readSfrCmd array)
      (fillReadSfrCmd sfrReg rdLen) array := by
  obtain ⟨byte6, byte7, byte10, rfl⟩ := htidy
  rw [fillReadSfrCmd, ofNat_shiftRight, ofNat_and_mask]
  simp [within_bind, within_loadAll, InBounds, readSfrFrame, bigEndian16, Tidy]

/-- Of the eleven bytes after the header the argument takes at most ten, and the zero one more. -/
theorem within_fillWriteCmd (buf : List UInt8) (htidy : Tidy .writeCmd array) :
    Within (fun frame array => frame = writeFrame buf ∧ Tidy .writeCmd array)
      (fillWriteCmd buf) array := by
  obtain ⟨byte4, byte5, tail, htail, rfl⟩ := htidy
  have hlength : (buf.take (min buf.length 10)).length = min buf.length 10 := by
    rw [List.length_take]
    omega
  rw [fillWriteCmd, clampLen_eq, ofNat_shiftRight, ofNat_and_mask]
  have hcount : min buf.length 10 ≤ 10 := Nat.min_le_right _ _
  rw [writeFrame, bigEndian16]
  generalize min buf.length 10 = count at *
  generalize buf.take count = argument at *
  -- the header as the first two stores leave it
  let header : List UInt8 := [0xb5, 0xab, 0x5a, 0xa5, UInt8.ofNat ((count + 1) / 256),
    UInt8.ofNat (count + 1), 0x00, 0x00, 0x00, 0x00, 0x00]
  rw [within_bind, within_store]
  refine ⟨by simp [InBounds, htail], ?_⟩
  rw [within_bind, within_store]
  refine ⟨by simp [InBounds, htail], ?_⟩
  rw [within_bind]
  show Within _ (storeAll header.length argument) (header ++ tail)
  rw [within_storeAll, hlength, htail]
  refine ⟨by omega, ?_⟩
  -- the byte behind the argument becomes the zero
  obtain ⟨old, rest, hdrop⟩ : ∃ old rest, tail.drop count = old :: rest := by
    apply List.exists_cons_of_length_pos
    rw [List.length_drop]
    omega
  have hrest : count + (rest.length + 1) = 11 := by
    have hlengths := congrArg List.length hdrop
    rw [List.length_drop, List.length_cons] at hlengths
    omega
  have hheader : header.length = 11 := rfl
  have hfront : (header ++ argument).length = 11 + count := by
    rw [List.length_append, hlength, hheader]
  rw [hdrop, within_bind, ← hfront, within_store_behind, within_loadAll (Nat.zero_le _)]
  have htake : (header ++ argument ++ 0 :: rest).take (12 + count) = header ++ argument ++ [0] := by
    rw [List.append_cons]
    apply List.take_left'
    rw [List.length_append, hfront, List.length_singleton]
    omega
  rw [List.length_append, List.length_cons, hfront, List.drop_zero]
  refine ⟨by omega, ?_, ?_⟩
  · rw [htake]
    rfl
  · refine ⟨_, _, argument ++ 0 :: rest, ?_, List.append_assoc _ _ _⟩
    rw [List.length_append, List.length_cons, hlength]
    omega

end Fill

/-! ### From one access to a command -/

def Kept (globals : Globals) : Prop := ∀ name, Tidy name (globals name).array

theorem busEvents_append (left right : List (Event CommandIo)) :
    busEvents (left ++ right) = busEvents left ++ busEvents right :=
  List.filterMap_append

section Refines

variable {Value Result : Type} {globals globals' : Globals} {events : List (Event CommandIo)}

/-- A routine that keeps to an array is run on that array, and on nothing else. -/
theorem onArray_run {name : GlobalArray} {program : Prog LocalArray Value} {value : Value}
    {post : Value → List UInt8 → Prop}
    (hlength : (globals name).array.length = (initializer name).length)
    (hwithin : Within post program (globals name).array)
    (htrace : (onArray name program).Trace events value) (hrun : Run Step globals events globals') :
    (∀ event ∈ events, Inside event) ∧ busEvents events = [] ∧
      post value (globals' name).array ∧ ∀ other, other ≠ name → globals' other = globals other := by
  induction program generalizing globals events with
  | ret returned =>
      obtain ⟨rfl, rfl⟩ := htrace
      obtain rfl := Run.nil_iff.mp hrun
      exact ⟨List.forall_mem_nil _, rfl, hwithin, fun _ _ => rfl⟩
  | call op next ih =>
      obtain ⟨answer, rest, rfl, htrace⟩ := htrace
      obtain ⟨middle, ⟨rfl, rfl⟩, hrun⟩ := Run.cons_iff.mp hrun
      obtain ⟨hbounds, hwithin⟩ := hwithin
      rw [Memory.access_of_inBounds hbounds] at htrace hrun
      have hname : (Function.update globals name { globals name with
          array := (LocalArray.access (globals name).array op).2 } name).array =
          (LocalArray.access (globals name).array op).2 := by
        rw [Function.update_self]
      have hlength' := (length_access (globals name).array op).trans hlength
      rw [← hname] at hlength' hwithin
      obtain ⟨hinside, hbus, hpost, hothers⟩ := ih _ hlength' hwithin htrace hrun
      have hop : 0 ≤ ArrayOp.index op ∧ ArrayOp.index op < (initializer name).length := by
        rw [← hlength]
        exact hbounds
      refine ⟨List.forall_mem_cons.mpr ⟨hop, hinside⟩, hbus, hpost, ?_⟩
      intro other hother
      rw [hothers other hother, Function.update_of_ne hother]

/-- From tidy arrays the routine leaves them tidy and keeps inside of them, and its calls of the bus layer and what it returns are those of `stated`. -/
def Refines (stated : Prog BusLayer Value) (program : Prog CommandIo Value) : Prop :=
  ∀ globals events value globals', Kept globals → program.Trace events value →
    Run Step globals events globals' →
      Kept globals' ∧ (∀ event ∈ events, Inside event) ∧ stated.Trace (busEvents events) value

theorem refines_ret (value : Value) : Refines (.ret value) (.ret value) := by
  intro globals events returned globals' hkept htrace hrun
  obtain ⟨rfl, rfl⟩ := htrace
  obtain rfl := Run.nil_iff.mp hrun
  exact ⟨hkept, List.forall_mem_nil _, rfl, rfl⟩

theorem refines_map {stated : Prog BusLayer Value} {program : Prog CommandIo Value}
    (hprogram : Refines stated program) (f : Value → Result) :
    Refines (stated >>= fun value => .ret (f value)) (program >>= fun value => .ret (f value)) := by
  intro globals events result globals' hkept htrace hrun
  obtain ⟨value, hvalue, rfl⟩ := Prog.trace_map.mp htrace
  obtain ⟨hkept', hinside, hstated⟩ := hprogram _ _ _ _ hkept hvalue hrun
  exact ⟨hkept', hinside, Prog.trace_map.mpr ⟨value, hstated, rfl⟩⟩

theorem refines_bus {op : BusLayerOp} {stated : BusLayer.Answer op → Prog BusLayer Value}
    {program : BusLayer.Answer op → Prog CommandIo Value}
    (hrest : ∀ answer, Refines (stated answer) (program answer)) :
    Refines (.call op stated) (.call (.bus op) program) := by
  intro globals events value globals' hkept htrace hrun
  obtain ⟨answer, rest, rfl, htrace⟩ := htrace
  obtain ⟨_, hsame, htail⟩ := Run.cons_iff.mp hrun
  obtain rfl : _ = globals := hsame
  obtain ⟨hkept', hinside, hstated⟩ := hrest answer _ _ _ _ hkept htrace htail
  exact ⟨hkept', List.forall_mem_cons.mpr ⟨trivial, hinside⟩, answer, busEvents rest, rfl, hstated⟩

theorem refines_onArray {name : GlobalArray} {fill : Prog LocalArray Value} {frame : Value}
    {stated : Prog BusLayer Result} {program : Value → Prog CommandIo Result}
    (hfill : ∀ array, Tidy name array →
      Within (fun value array => value = frame ∧ Tidy name array) fill array)
    (hrest : Refines stated (program frame)) :
    Refines stated (onArray name fill >>= program) := by
  intro globals events value globals' hkept htrace hrun
  obtain ⟨filled, left, right, rfl, hleft, hright⟩ := Prog.trace_bind.mp htrace
  obtain ⟨middle, hrunLeft, hrunRight⟩ := Run.append_iff.mp hrun
  obtain ⟨hinsideLeft, hbus, ⟨rfl, htidy⟩, hothers⟩ :=
    onArray_run (hkept name).length_eq (hfill _ (hkept name)) hleft hrunLeft
  have hmiddle : Kept middle := by
    intro other
    by_cases hsame : other = name
    · rw [hsame]
      exact htidy
    · rw [hothers other hsame]
      exact hkept other
  obtain ⟨hkept', hinside, hstated⟩ := hrest _ _ _ _ hmiddle hright hrunRight
  refine ⟨hkept', List.forall_mem_append.mpr ⟨hinsideLeft, hinside⟩, ?_⟩
  rw [busEvents_append, hbus]
  exact hstated

theorem refines_ite {condition : Prop} [Decidable condition] {stated stated' : Prog BusLayer Value}
    {program program' : Prog CommandIo Value} (hprogram : Refines stated program)
    (hother : Refines stated' program') :
    Refines (if condition then stated else stated') (if condition then program else program') := by
  split
  · exact hprogram
  · exact hother

end Refines

theorem refines_statedRead {name : GlobalArray} {fill : Prog LocalArray (List UInt8)}
    {frame rdData : List UInt8} {rdLen : Nat}
    (hfill : ∀ array, Tidy name array →
      Within (fun value array => value = frame ∧ Tidy name array) fill array) :
    Refines (statedRead frame rdData rdLen) (do
      let cmd ← onArray name fill
      let (ret, rdData) ← axsWriteBytesReadBytes cmd rdData rdLen
      if ret < 0 then return (ret, rdData)
      return (0, rdData)) := by
  refine refines_onArray hfill (refines_bus fun answer => ?_)
  exact refines_ite (refines_ret _) (refines_ret _)

theorem refines_run (command : Command) : Refines command.stated command.run := by
  cases command with
  | axsReadRegs reg rdData rdLen =>
      refine refines_onArray (fun _ => within_fillWriteCmd reg) (refines_bus fun ret => ?_)
      refine refines_ite (refines_ret _) ?_
      refine refines_ite ?_ (refines_ret _)
      exact refines_statedRead fun _ => within_fillReadCmd rdLen
  | axsWriteBuf wtBuf =>
      refine refines_map (refines_onArray (fun _ => within_fillWriteCmd wtBuf) ?_) _
      refine refines_bus fun ret => ?_
      exact refines_ite (refines_ret _) (refines_ret _)
  | axsReadBuf rdData rdLen =>
      refine refines_ite ?_ (refines_ret _)
      exact refines_statedRead fun _ => within_fillReadCmd rdLen
  | axsReadSfrReg sfrReg rdData rdLen =>
      refine refines_ite ?_ (refines_ret _)
      exact refines_statedRead fun _ => within_fillReadSfrCmd sfrReg rdLen

/-! ### Sequences of commands -/

theorem made_kept {globals globals' : Globals} {calls : List Call}
    (hrun : Run Made globals calls globals') (hinitial : Initial globals) : Kept globals' := by
  refine Run.invariant ?_ hrun fun name => hinitial name ▸ tidy_initializer name
  intro before call after hkept hmade
  exact (refines_run call.command _ _ _ _ hkept hmade.1 hmade.2).1

/-- Whatever was sent before, a command keeps to its arrays, and the frames it passes on are those of its own arguments and its own results. -/
theorem command_frames_stated {globals globals' globals'' : Globals} {calls : List Call} {call : Call}
    (hinitial : Initial globals) (hrun : Run Made globals calls globals')
    (hcall : Made globals' call globals'') :
    (∀ event ∈ call.events, Inside event) ∧
      call.command.stated.Trace (busEvents call.events) call.result :=
  (refines_run call.command _ _ _ _ (made_kept hrun hinitial) hcall.1 hcall.2).2

theorem exists_run {Value : Type} (respond : ∀ op, BusLayer.Answer op)
    (program : Prog CommandIo Value) (globals : Globals) :
    ∃ events value globals', program.Trace events value ∧ Run Step globals events globals' := by
  induction program generalizing globals with
  | ret value => exact ⟨[], value, globals, ⟨rfl, rfl⟩, .nil _⟩
  | call op next ih =>
      cases op with
      | array name op =>
          obtain ⟨events, value, globals', htrace, hrun⟩ :=
            ih ((globals name).access op).1
              (Function.update globals name ((globals name).access op).2)
          exact ⟨_, value, globals', ⟨_, events, rfl, htrace⟩, .cons ⟨rfl, rfl⟩ hrun⟩
      | bus op =>
          obtain ⟨events, value, globals', htrace, hrun⟩ := ih (respond op) globals
          exact ⟨_, value, globals', ⟨_, events, rfl, htrace⟩, .cons rfl hrun⟩

/-- A bus layer on which every call succeeds. -/
def succeeding : ∀ op, BusLayer.Answer op
  | .axsWriteBytes writebuf => (writebuf.length : Int)
  | .axsWriteBytesReadBytes _ _ datalen => ((datalen : Int), List.replicate datalen 0x5a)

theorem exists_made (command : Command) (globals : Globals) :
    ∃ call globals', call.command = command ∧ Made globals call globals' := by
  obtain ⟨events, value, globals', htrace, hrun⟩ := exists_run succeeding command.run globals
  exact ⟨⟨command, events, value⟩, globals', rfl, htrace, hrun⟩

/-- A register read after a write of twelve bytes. -/
theorem command_frames_stated_after_write : ∃ call : Call,
    call.command = .axsReadRegs [0xab] [0x00] 1 ∧ (∀ event ∈ call.events, Inside event) ∧
      call.command.stated.Trace (busEvents call.events) call.result := by
  obtain ⟨first, middle, -, hfirst⟩ :=
    exists_made (.axsWriteBuf (List.replicate 12 0x11)) fun name => ⟨initializer name, fun _ => 0⟩
  obtain ⟨call, globals', hcommand, hcall⟩ := exists_made (.axsReadRegs [0xab] [0x00] 1) middle
  exact ⟨call, hcommand, command_frames_stated (fun _ => rfl) (Run.single hfirst) hcall⟩

end FrontPanel.Touch.Commands
