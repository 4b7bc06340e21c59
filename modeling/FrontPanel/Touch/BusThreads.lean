import FrontPanel.Lib.Critical
import FrontPanel.Touch.Bus
import FrontPanel.Touch.Commands
import FrontPanel.Touch.Report

/-!
# The touch bus with several callers

The interrupt thread, the files of `axs_debug.c`, the check of the work queue and the upgrade all reach the controller through the three transfers of `axs_i2c.c`, each of which holds `bus_mutex` while it is on the bus. The arrays `read_cmd` and `read_sfr_cmd`, which `axs_read_buf` and `axs_read_sfr_reg` fill in, are global and are filled in before the mutex is taken. Every byte stored in them or taken from them is an access here, and so is every transfer, and between any two of them any of the other threads may go on.

What keeps a command whole is that all who fill in an array put the same bytes at the same places: a report is always `pnt_buf_size` bytes, and the only register read is 0x89, one byte of it. Nothing is said of `write_cmd`, which the driver as compiled does not use, nor of what the files share among themselves in `debug_tx_buf` and `debug_rx_buf`.
-/

namespace FrontPanel.Touch.BusThreads

open Commands (GlobalArray initializer readFrame readSfrFrame)

/-! ### The functions -/

inductive SharedOp
  | store (name : GlobalArray) (index : Nat) (byte : UInt8)
  | load (name : GlobalArray) (index : Nat)
  | bus (op : BusOp)

abbrev Shared : Interface where
  Op := SharedOp
  Answer := fun op =>
    match op with
    | .store _ _ _ => Unit
    | .load _ _ => UInt8
    | .bus op => Bus.Answer op

abbrev Routine (Value : Type) : Type := Prog (Critical Shared) Value

def mutexLock : Routine Unit := .access (Critical Shared) .lock

def mutexUnlock : Routine Unit := .access (Critical Shared) .unlock

def store (name : GlobalArray) (index : Nat) (byte : UInt8) : Routine Unit :=
  .access (Critical Shared) (.op (.store name index byte))

def load (name : GlobalArray) (index : Nat) : Routine UInt8 :=
  .access (Critical Shared) (.op (.load name index))

def send (bytes : List UInt8) : Routine Int :=
  .access (Critical Shared) (.op (.bus (.i2cMasterSend bytes)))

def recv (length : Nat) : Routine (Int × List UInt8) :=
  .access (Critical Shared) (.op (.bus (.i2cMasterRecv length)))

/-- `count` bytes of the array from `index` on. -/
def loadFrom (name : GlobalArray) : Nat → Nat → Routine (List UInt8)
  | _, 0 => return []
  | index, count + 1 => do
      let byte ← load name index
      let bytes ← loadFrom name (index + 1) count
      return byte :: bytes

/-- What a pointer to a command points to: an array, or a buffer that no other thread has. -/
inductive Cmd
  | global (name : GlobalArray)
  | own (bytes : List UInt8)

def Cmd.length : Cmd → Nat
  | .global name => (initializer name).length
  | .own bytes => bytes.length

def Cmd.bytes : Cmd → Routine (List UInt8)
  | .global name => loadFrom name 0 (initializer name).length
  | .own bytes => return bytes

def axsWriteBytes (writebuf : List UInt8) : Routine Int := do
  if writebuf.length = 0 ∨ axsCmdMaxWriteBufLen ≤ writebuf.length then return eInval
  mutexLock
  let ret ← send writebuf
  mutexUnlock
  if ret ≠ writebuf.length then return eInval
  return ret

def axsReadBytes (rdbuf : List UInt8) (rdlen : Nat) : Routine (Int × List UInt8) := do
  if axsCmdMaxReadBufLen ≤ rdlen then return (eInval, rdbuf)
  mutexLock
  let (ret, received) ← recv rdlen
  mutexUnlock
  return (ret, overwrite rdbuf received)

def sendCmd (cmd : Cmd) : Routine Int :=
  if 0 < cmd.length then do
    let bytes ← cmd.bytes
    send bytes
  else return 0

def axsWriteBytesReadBytes (cmd : Cmd) (data : List UInt8) (datalen : Nat) :
    Routine (Int × List UInt8) := do
  if axsCmdMaxWriteBufLen ≤ cmd.length ∨ axsCmdMaxReadBufLen ≤ datalen then
    return (eInval, data)
  mutexLock
  let ret ← sendCmd cmd
  if ret ≠ cmd.length then
    mutexUnlock
    return (ret, data)
  let (ret, received) ← recv datalen
  mutexUnlock
  return (ret, overwrite data received)

/-- `if (ret < 0) return ret; return 0;` -/
def zeroOrLess (result : Int × List UInt8) : Int × List UInt8 :=
  if result.1 < 0 then result else (0, result.2)

def axsReadBuf (rdData : List UInt8) (rdLen : Nat) : Routine (Int × List UInt8) :=
  if 0 < rdLen then do
    store .readCmd 6 (UInt8.ofNat (rdLen >>> 8))
    store .readCmd 7 (UInt8.ofNat (rdLen &&& 0xff))
    let result ← axsWriteBytesReadBytes (.global .readCmd) rdData rdLen
    return zeroOrLess result
  else return (0, rdData)

def axsReadSfrReg (sfrReg : UInt8) (rdData : List UInt8) (rdLen : Nat) :
    Routine (Int × List UInt8) :=
  if 0 < rdLen then do
    store .readSfrCmd 6 (UInt8.ofNat (rdLen >>> 8))
    store .readSfrCmd 7 (UInt8.ofNat (rdLen &&& 0xff))
    store .readSfrCmd 10 sfrReg
    let result ← axsWriteBytesReadBytes (.global .readSfrCmd) rdData rdLen
    return zeroOrLess result
  else return (-1, rdData)

/-- The calls that reach the bus: of `axs_read_touchdata`, of `axs_read_fw_version`, and of those who have a command of their own. -/
inductive BusCall
  | readTouchdata (buf : List UInt8)
  | readVersion (sfrValue : UInt8)
  | writeBytes (writebuf : List UInt8)
  | readBytes (rdbuf : List UInt8) (rdlen : Nat)
  | writeBytesReadBytes (cmd data : List UInt8) (datalen : Nat)

section Calls

variable (config : AxsConfig)

def BusCall.body : BusCall → Routine (Int × List UInt8)
  | .readTouchdata buf => axsReadBuf buf config.pntBufSize
  | .readVersion sfrValue => axsReadSfrReg 0x89 [sfrValue] 1
  | .writeBytes writebuf => do return (← axsWriteBytes writebuf, [])
  | .readBytes rdbuf rdlen => axsReadBytes rdbuf rdlen
  | .writeBytesReadBytes cmd data datalen => axsWriteBytesReadBytes (.own cmd) data datalen

/-- The calls of a thread that has the bus to itself, with their commands spelt out. -/
def BusCall.alone : BusCall → Prog Bus (Int × List UInt8)
  | .readTouchdata buf => do
      let result ← Touch.axsWriteBytesReadBytes (readFrame config.pntBufSize) buf config.pntBufSize
      return zeroOrLess result
  | .readVersion sfrValue => do
      let result ← Touch.axsWriteBytesReadBytes (readSfrFrame 0x89 1) [sfrValue] 1
      return zeroOrLess result
  | .writeBytes writebuf => do return (← Touch.axsWriteBytes writebuf, [])
  | .readBytes rdbuf rdlen => Touch.axsReadBytes rdbuf rdlen
  | .writeBytesReadBytes cmd data datalen => Touch.axsWriteBytesReadBytes cmd data datalen

end Calls

/-! ### The controller and the arrays -/

structure SharedBus (Panel : Type) where
  panel : Panel
  byte : GlobalArray → Nat → UInt8

/-- The arrays as the driver is loaded. -/
def SharedBus.loaded {Panel : Type} (panel : Panel) : SharedBus Panel :=
  ⟨panel, fun name index => (initializer name).getD index 0⟩

section Bus

variable {Panel : Type}

def SharedBus.put (s : SharedBus Panel) (name : GlobalArray) (index : Nat) (byte : UInt8) :
    SharedBus Panel :=
  { s with byte := Function.update s.byte name (Function.update (s.byte name) index byte) }

variable (panel : Panel → Event Bus → Panel → Prop) in
def SharedBus.step : SharedBus Panel → Event Shared → SharedBus Panel → Prop
  | s, ⟨.store name index byte, _⟩, after => after = s.put name index byte
  | s, ⟨.load name index, answer⟩, after => answer = s.byte name index ∧ after = s
  | s, ⟨.bus op, answer⟩, after => panel s.panel ⟨op, answer⟩ after.panel ∧ after.byte = s.byte

end Bus

/-! ### What is kept of the arrays -/

section Arrays

variable (config : AxsConfig)

/-- What the arrays are to hold when they are sent. -/
def intended : GlobalArray → List UInt8
  | .writeCmd => initializer .writeCmd
  | .readCmd => readFrame config.pntBufSize
  | .readSfrCmd => readSfrFrame 0x89 1

def Filled {Panel : Type} (s : SharedBus Panel) (name : GlobalArray) (index : Nat) : Prop :=
  s.byte name index = (intended config name).getD index 0

/-- What is filled in stays so. -/
def Keeps {Panel : Type} (before after : SharedBus Panel) : Prop :=
  ∀ name index, Filled config before name index → Filled config after name index

end Arrays

section Rules

variable {Panel Value : Type} {panel : Panel → Event Bus → Panel → Prop} {config : AxsConfig}
  {before : SharedBus Panel} {name : GlobalArray} {index : Nat} {rest : Prog Bus Value}

theorem Keeps.refl (s : SharedBus Panel) : Keeps config s s := fun _ _ hfilled => hfilled

theorem Keeps.trans (a b c : SharedBus Panel) (hab : Keeps config a b) (hbc : Keeps config b c) :
    Keeps config a c :=
  fun name index hfilled => hbc name index (hab name index hfilled)

variable (panel config) in
abbrev Inside (program : Routine Value) (rest : Prog Bus Value) (s : SharedBus Panel) : Prop :=
  Critical.Within (SharedBus.step panel) SharedBus.panel (Keeps config) panel program rest s

variable (panel config) in
abbrev Outside (program : Routine Value) (rest : Prog Bus Value) (s : SharedBus Panel) : Prop :=
  Critical.Before (SharedBus.step panel) SharedBus.panel (Keeps config) panel program rest s

theorem filled_put {s : SharedBus Panel} {byte : UInt8} {name' : GlobalArray} {index' : Nat}
    (hbyte : byte = (intended config name).getD index 0)
    (hfilled : (name' = name ∧ index' = index) ∨ Filled config s name' index') :
    Filled config (s.put name index byte) name' index' := by
  show Function.update s.byte name (Function.update (s.byte name) index byte) name' index' = _
  by_cases hname : name' = name
  · subst hname
    rw [Function.update_self]
    by_cases hindex : index' = index
    · rw [hindex, Function.update_self, hbyte]
    · rw [Function.update_of_ne hindex]
      exact hfilled.resolve_left fun hsame => hindex hsame.2
  · rw [Function.update_of_ne hname]
    exact hfilled.resolve_left fun hsame => hname hsame.1

theorem keeps_of_byte {s after : SharedBus Panel} (hbyte : after.byte = s.byte) :
    Keeps config s after := by
  intro name index hfilled
  rw [Filled, hbyte]
  exact hfilled

/-- All who store here store this byte. -/
theorem outside_store {byte : UInt8} {next : Routine Value}
    (hbyte : byte = (intended config name).getD index 0)
    (hnext : ∀ s, Keeps config before s → Filled config s name index →
      Outside panel config next rest s) :
    Outside panel config (store name index byte >>= fun _ => next) rest before := by
  intro state hstate answer after hstep
  obtain rfl := hstep
  have hkeeps : Keeps config state (state.put name index byte) :=
    fun _ _ hfilled => filled_put hbyte (.inr hfilled)
  exact ⟨hkeeps, rfl,
    hnext _ (hstate.trans _ _ _ hkeeps) (filled_put hbyte (.inl ⟨rfl, rfl⟩))⟩

theorem outside_lock {next : Routine Value}
    (hnext : ∀ s, Keeps config before s → Inside panel config next rest s) :
    Outside panel config (mutexLock >>= fun _ => next) rest before :=
  hnext

theorem inside_unlock (value : Value) :
    Inside panel config (mutexUnlock >>= fun _ => return value) (.ret value) before :=
  ⟨value, rfl, rfl⟩

theorem inside_load {next : UInt8 → Routine Value} (hfilled : Filled config before name index)
    (hnext : ∀ s, Keeps config before s →
      Inside panel config (next ((intended config name).getD index 0)) rest s) :
    Inside panel config (load name index >>= next) rest before := by
  intro state hstate answer after hstep
  obtain ⟨rfl, rfl⟩ := hstep
  refine ⟨Keeps.refl _, .inl ⟨rfl, ?_⟩⟩
  have hbyte : after.byte name index = _ := hstate name index hfilled
  have hinside := hnext after hstate
  rw [← hbyte] at hinside
  exact hinside

theorem inside_loadFrom {count : Nat} {next : List UInt8 → Routine Value}
    (hfilled : ∀ k, index ≤ k → k < index + count → Filled config before name k)
    (hnext : ∀ s, Keeps config before s → Inside panel config
      (next ((List.range' index count).map fun k => (intended config name).getD k 0)) rest s) :
    Inside panel config (loadFrom name index count >>= next) rest before := by
  induction count generalizing before index next with
  | zero => exact hnext before (Keeps.refl _)
  | succ count ih =>
      have hfirst : Filled config before name index := hfilled index (Nat.le_refl _) (by omega)
      have hshape : (loadFrom name index (count + 1) >>= next) = load name index >>= fun byte =>
          loadFrom name (index + 1) count >>= fun bytes => next (byte :: bytes) := by
        rw [loadFrom, Prog.bind_assoc]
        refine congrArg (load name index >>= ·) (funext fun byte => ?_)
        rw [Prog.bind_assoc]
        rfl
      rw [hshape]
      refine inside_load hfirst fun s hs => ?_
      have hlater : ∀ k, index + 1 ≤ k → k < index + 1 + count → Filled config s name k :=
        fun k hlow hhigh => hs name k (hfilled k (by omega) (by omega))
      refine ih hlater fun s' hs' => ?_
      have hlast := hnext s' (hs.trans _ _ _ hs')
      rw [List.range'_succ, List.map_cons] at hlast
      exact hlast

theorem inside_send {bytes : List UInt8} {next : Int → Routine Value} {rest : Int → Prog Bus Value}
    (hnext : ∀ s ret, Keeps config before s → Inside panel config (next ret) (rest ret) s) :
    Inside panel config (send bytes >>= next) (i2cMasterSend bytes >>= rest) before := by
  intro state hstate ret after hstep
  obtain ⟨hpanel, hbyte⟩ := hstep
  have hkeeps : Keeps config state after := keeps_of_byte hbyte
  exact ⟨hkeeps, .inr ⟨BusOp.i2cMasterSend bytes, rest, ret, rfl, hpanel,
    hnext after ret (hstate.trans _ _ _ hkeeps)⟩⟩

theorem inside_recv {length : Nat} {next : Int × List UInt8 → Routine Value}
    {rest : Int × List UInt8 → Prog Bus Value}
    (hnext : ∀ s answer, Keeps config before s → Inside panel config (next answer) (rest answer) s) :
    Inside panel config (recv length >>= next) (i2cMasterRecv length >>= rest) before := by
  intro state hstate answer after hstep
  obtain ⟨hpanel, hbyte⟩ := hstep
  have hkeeps : Keeps config state after := keeps_of_byte hbyte
  exact ⟨hkeeps, .inr ⟨BusOp.i2cMasterRecv length, rest, answer, rfl, hpanel,
    hnext after answer (hstate.trans _ _ _ hkeeps)⟩⟩

/-! ### The transfers -/

/-- Once the mutex is there, the bytes of the command are these. -/
def Cmd.Holds (panel : Panel → Event Bus → Panel → Prop) (config : AxsConfig) (Value : Type)
    (cmd : Cmd) (bytes : List UInt8) (before : SharedBus Panel) : Prop :=
  cmd.length = bytes.length ∧
    ∀ s (next : List UInt8 → Routine Value) (rest : Prog Bus Value), Keeps config before s →
      (∀ s', Keeps config s s' → Inside panel config (next bytes) rest s') →
      Inside panel config (cmd.bytes >>= next) rest s

theorem outside_axsWriteBytesReadBytes {cmd : Cmd} {bytes data : List UInt8} {datalen : Nat}
    {finish : Int × List UInt8 → Value} (hcmd : cmd.Holds panel config Value bytes before) :
    Outside panel config
      (axsWriteBytesReadBytes cmd data datalen >>= fun result => return finish result)
      (Touch.axsWriteBytesReadBytes bytes data datalen >>= fun result => return finish result)
      before := by
  obtain ⟨hlength, hbytes⟩ := hcmd
  -- what follows the command, whose bytes are gone by then
  let received : Routine (Int × List UInt8) := do
    let (ret, received) ← recv datalen
    mutexUnlock
    return (ret, overwrite data received)
  let receivedAlone : Prog Bus (Int × List UInt8) := do
    let (ret, received) ← i2cMasterRecv datalen
    return (ret, overwrite data received)
  let sent (ret : Int) : Routine (Int × List UInt8) :=
    if ret ≠ bytes.length then do
      mutexUnlock
      return (ret, data)
    else received
  let sentAlone (ret : Int) : Prog Bus (Int × List UInt8) :=
    if ret ≠ bytes.length then return (ret, data) else receivedAlone
  have hsent : ∀ s ret, Inside panel config (sent ret >>= fun result => return finish result)
      (sentAlone ret >>= fun result => return finish result) s := by
    intro s ret
    by_cases hshort : ret ≠ bytes.length
    · rw [show sent ret = _ from if_pos hshort, show sentAlone ret = _ from if_pos hshort]
      exact inside_unlock _
    · rw [show sent ret = received from if_neg hshort,
        show sentAlone ret = receivedAlone from if_neg hshort]
      exact inside_recv fun _ _ _ => inside_unlock _
  rw [axsWriteBytesReadBytes, Touch.axsWriteBytesReadBytes, hlength]
  by_cases hguard : axsCmdMaxWriteBufLen ≤ bytes.length ∨ axsCmdMaxReadBufLen ≤ datalen
  · rw [if_pos hguard, if_pos hguard]
    rfl
  · rw [if_neg hguard, if_neg hguard]
    refine outside_lock fun s hs => ?_
    show Inside panel config ((sendCmd cmd >>= sent) >>= fun result => return finish result)
      ((Touch.sendCmd bytes >>= sentAlone) >>= fun result => return finish result) s
    rw [Prog.bind_assoc, Prog.bind_assoc, sendCmd, Touch.sendCmd, hlength]
    by_cases hsome : 0 < bytes.length
    · rw [if_pos hsome, if_pos hsome, Prog.bind_assoc]
      exact hbytes s _ _ hs fun _ _ => inside_send fun _ ret _ => hsent _ ret
    · rw [if_neg hsome, if_neg hsome]
      exact hsent s 0

theorem holds_own (bytes : List UInt8) (before : SharedBus Panel) :
    (Cmd.own bytes).Holds panel config Value bytes before :=
  ⟨rfl, fun s _ _ _ hnext => hnext s (Keeps.refl s)⟩

theorem holds_global
    (hfilled : ∀ k, k < (initializer name).length → Filled config before name k) :
    (Cmd.global name).Holds panel config Value (intended config name) before := by
  have hbytes : (List.range' 0 (initializer name).length).map
      (fun k => (intended config name).getD k 0) = intended config name := by
    cases name <;> rfl
  refine ⟨by cases name <;> rfl, fun s next rest hs hnext => ?_⟩
  refine inside_loadFrom (fun k _ hk => hs name k (hfilled k (by omega))) fun s' hs' => ?_
  rw [hbytes]
  exact hnext s' hs'

theorem outside_axsWriteBytes {writebuf : List UInt8} {finish : Int → Value} :
    Outside panel config (axsWriteBytes writebuf >>= fun ret => return finish ret)
      (Touch.axsWriteBytes writebuf >>= fun ret => return finish ret) before := by
  rw [axsWriteBytes, Touch.axsWriteBytes]
  by_cases hguard : writebuf.length = 0 ∨ axsCmdMaxWriteBufLen ≤ writebuf.length
  · rw [if_pos hguard, if_pos hguard]
    rfl
  · rw [if_neg hguard, if_neg hguard]
    refine outside_lock fun _ _ => inside_send fun s ret _ => ?_
    obtain ⟨returned, hreturned, halone⟩ : ∃ returned,
        (if ret ≠ writebuf.length then return eInval else return ret : Routine Int) =
          .ret returned ∧
        (if ret ≠ writebuf.length then return eInval else return ret : Prog Bus Int) =
          .ret returned := by
      by_cases hshort : ret ≠ writebuf.length
      · exact ⟨eInval, if_pos hshort, if_pos hshort⟩
      · exact ⟨ret, if_neg hshort, if_neg hshort⟩
    exact ⟨finish returned,
      congrArg (fun program : Routine Int => program.bind fun ret => .ret (finish ret)) hreturned,
      congrArg (fun program : Prog Bus Int => program.bind fun ret => .ret (finish ret)) halone⟩

theorem outside_axsReadBytes {rdbuf : List UInt8} {rdlen : Nat} :
    Outside panel config (axsReadBytes rdbuf rdlen) (Touch.axsReadBytes rdbuf rdlen) before := by
  rw [axsReadBytes, Touch.axsReadBytes]
  by_cases hguard : axsCmdMaxReadBufLen ≤ rdlen
  · rw [if_pos hguard, if_pos hguard]
    rfl
  · rw [if_neg hguard, if_neg hguard]
    exact outside_lock fun _ _ => inside_recv fun _ _ _ => inside_unlock _

/-! ### The calls -/

theorem filled_readCmd {first : Panel} (hlength : index ≠ 6 ∧ index ≠ 7) :
    Filled config (SharedBus.loaded first) .readCmd index := by
  match index, hlength with
  | 0, _ | 1, _ | 2, _ | 3, _ | 4, _ | 5, _ | 8, _ | 9, _ | 10, _ | _ + 11, _ => rfl
  | 6, hlength => exact absurd rfl hlength.1
  | 7, hlength => exact absurd rfl hlength.2

theorem filled_readSfrCmd {first : Panel} (hstored : index ≠ 10) :
    Filled config (SharedBus.loaded first) .readSfrCmd index := by
  match index, hstored with
  | 0, _ | 1, _ | 2, _ | 3, _ | 4, _ | 5, _ | 6, _ | 7, _ | 8, _ | 9, _ | _ + 11, _ => rfl
  | 10, hstored => exact absurd rfl hstored

theorem outside_axsReadBuf {first : Panel} {buf : List UInt8}
    (hbefore : Keeps config (SharedBus.loaded first) before) :
    Outside panel config (axsReadBuf buf config.pntBufSize)
      (BusCall.alone config (.readTouchdata buf)) before := by
  have hsize : 0 < config.pntBufSize := by
    have := config.hasRoom
    omega
  rw [axsReadBuf, if_pos hsize, ofNat_shiftRight, ofNat_and_mask]
  refine outside_store rfl fun s hs hsix => outside_store rfl fun s' hs' hseven => ?_
  refine outside_axsWriteBytesReadBytes (holds_global fun k _ => ?_)
  by_cases hlow : k = 6
  · exact hs' _ _ (hlow ▸ hsix)
  · by_cases hhigh : k = 7
    · exact hhigh ▸ hseven
    · exact hs' _ _ (hs _ _ (hbefore _ _ (filled_readCmd ⟨hlow, hhigh⟩)))

theorem outside_axsReadSfrReg {first : Panel} {sfrValue : UInt8}
    (hbefore : Keeps config (SharedBus.loaded first) before) :
    Outside panel config (axsReadSfrReg 0x89 [sfrValue] 1)
      (BusCall.alone config (.readVersion sfrValue)) before := by
  rw [axsReadSfrReg, if_pos Nat.one_pos]
  refine outside_store rfl fun s hs _ => outside_store rfl fun s' hs' _ => ?_
  refine outside_store rfl fun s'' hs'' hten => ?_
  refine outside_axsWriteBytesReadBytes (holds_global fun k _ => ?_)
  by_cases hlast : k = 10
  · exact hlast ▸ hten
  · exact hs'' _ _ (hs' _ _ (hs _ _ (hbefore _ _ (filled_readSfrCmd hlast))))

theorem outside_body {first : Panel} (call : BusCall) (s : SharedBus Panel)
    (hs : Keeps config (SharedBus.loaded first) s) :
    Outside panel config (call.body config) (call.alone config) s := by
  cases call with
  | readTouchdata buf => exact outside_axsReadBuf hs
  | readVersion sfrValue => exact outside_axsReadSfrReg hs
  | writeBytes writebuf => exact outside_axsWriteBytes
  | readBytes rdbuf rdlen => exact outside_axsReadBytes
  | writeBytesReadBytes cmd data datalen =>
      rw [BusCall.body, BusCall.alone, ← Prog.bind_ret (axsWriteBytesReadBytes _ _ _),
        ← Prog.bind_ret (Touch.axsWriteBytesReadBytes _ _ _)]
      exact outside_axsWriteBytesReadBytes (holds_own cmd s)

end Rules

/-! ### The bus -/

/-- Whatever the threads call at once, and whatever the controller does with what it is sent: it goes through what the calls make of it one at a time, in the order in which they end, each with its own command and its own answer. -/
theorem bus_calls_one_by_one {Panel : Type} {panel : Panel → Event Bus → Panel → Prop}
    {config : AxsConfig} {first : Panel} {labels : List (Threads.Label BusCall)}
    {s : Critical.System Shared (SharedBus Panel) BusCall (Int × List UInt8)}
    (hrun : Run (Critical.Step (SharedBus.step panel) (BusCall.body config))
      (Threads.start ⟨SharedBus.loaded first, none⟩) labels s) :
    ∃ quiet, Run (Locked.Whole panel (BusCall.alone config)) first s.ended quiet ∧
      (s.state.owner = none → s.state.state.panel = quiet) := by
  obtain ⟨quiet, hserial⟩ :=
    Critical.serial_of_run Keeps.refl Keeps.trans outside_body hrun
  exact ⟨quiet, hserial.ended, hserial.free⟩

/-- A controller that takes every command and answers with zeros, and has a list of its transfers. -/
def zeroPanel : (op : BusOp) → Bus.Answer op
  | .i2cMasterSend bytes => (bytes.length : Int)
  | .i2cMasterRecv length => ((length : Int), List.replicate length 0)
  | .kzalloc _ => true

def serveZeros (s : SharedBus (List BusOp)) :
    (op : SharedOp) → Shared.Answer op × SharedBus (List BusOp)
  | .store name index byte => ((), s.put name index byte)
  | .load name index => (s.byte name index, s)
  | .bus op => (zeroPanel op, { s with panel := s.panel ++ [op] })

/-- It keeps the list. -/
def zeroPanelStep (before : List BusOp) (event : Event Bus) (after : List BusOp) : Prop :=
  event.answer = zeroPanel event.op ∧ after = before ++ [event.op]

theorem serveZeros_step (s : SharedBus (List BusOp)) (op : SharedOp) :
    SharedBus.step zeroPanelStep s ⟨op, (serveZeros s op).1⟩ (serveZeros s op).2 := by
  cases op with
  | store name index byte => rfl
  | load name index => exact ⟨rfl, rfl⟩
  | bus op => exact ⟨⟨rfl, rfl⟩, rfl⟩

/-- A report and a version read that fill in their commands at once. -/
theorem bus_calls_one_by_one_report :
    ∃ s : Critical.System Shared (SharedBus (List BusOp)) BusCall (Int × List UInt8),
      s.ended.map (·.1) = [.readVersion 7, .readTouchdata []] ∧
      ∃ quiet, Run (Locked.Whole zeroPanelStep (BusCall.alone .shipped)) [] s.ended quiet ∧
        s.state.state.panel = quiet ∧
        quiet = [.i2cMasterSend (readSfrFrame 0x89 1), .i2cMasterRecv 1,
          .i2cMasterSend (readFrame 15), .i2cMasterRecv 15] := by
  let labels : List (Threads.Label BusCall) :=
    [.enter 0 (.readTouchdata []), .enter 1 (.readVersion 7), .access 1, .access 0, .access 1,
      .access 1, .access 1] ++ List.replicate 11 (.access 1) ++ [.access 1, .access 0] ++
      List.replicate 2 (.access 1) ++ List.replicate 15 (.access 0)
  obtain ⟨s, hadvance, hended, hfree, hpanel⟩ :
      ∃ s : Critical.System Shared (SharedBus (List BusOp)) BusCall (Int × List UInt8),
      labels.foldlM (Critical.advance serveZeros (BusCall.body .shipped))
        (Threads.start ⟨SharedBus.loaded [], none⟩) = some s ∧
      s.ended.map (·.1) = [.readVersion 7, .readTouchdata []] ∧ s.state.owner = none ∧
      s.state.state.panel = [.i2cMasterSend (readSfrFrame 0x89 1), .i2cMasterRecv 1,
        .i2cMasterSend (readFrame 15), .i2cMasterRecv 15] := ⟨_, rfl, rfl, rfl, rfl⟩
  obtain ⟨quiet, hrun, hquiet⟩ :=
    bus_calls_one_by_one (Critical.run_of_advance serveZeros_step hadvance)
  have hlast := hquiet hfree
  exact ⟨s, hended, quiet, hrun, hlast, hlast ▸ hpanel⟩

/-- Were reports of two lengths read, as `axs_read_regs` would read answers of other lengths, a thread could receive 15 bytes having asked for 2. -/
theorem lengths_mixed :
    ∃ s : Critical.System Shared (SharedBus (List BusOp)) Nat (Int × List UInt8),
      Run (Critical.Step (SharedBus.step zeroPanelStep) fun size => axsReadBuf [] size)
        (Threads.start ⟨SharedBus.loaded [], none⟩)
        ([.enter 0 15, .access 0, .access 0, .enter 1 2, .access 1, .access 1] ++
          List.replicate 15 (.access 0)) s ∧
      s.state.state.panel = [.i2cMasterSend (readFrame 2), .i2cMasterRecv 15] :=
  ⟨_, Critical.run_of_advance serveZeros_step rfl, rfl⟩

end FrontPanel.Touch.BusThreads
