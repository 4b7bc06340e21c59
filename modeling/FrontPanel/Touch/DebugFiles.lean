import FrontPanel.Touch.Dump

/-!
# The debug files

All the files of `axs_debug.c` as one component: the sysfs files and the proc file share `debug_tx_buf`, `debug_rx_buf` and `s_rd_len`, and the proc file remembers the first byte it was last given. A read or a write of a file is a step, made against a bus that answers as it likes, except that a receive stores no more than it was asked for. Five of the files receive into `debug_rx_buf`, each with a length of its own: a byte of a command, the product of two counts, 16 bits from the controller, or the count of a read.

`debug_rx_buf` is allocated as 1024 zeros, and `axs_driver_debug_str` prints it up to a NUL. What is shown here is that the last byte is never stored to, so there is one.

As in `RegisterFile`, either buffer may be missing. The files that touch neither buffer are one case: `axs_upgrade_bin`, `axs_dlapp_bin`, `axs_driver_version` and `axs_hw_reset`, whose transfers go to memory of their own, and the stores that only return `-EPERM`.
-/

namespace FrontPanel.Touch

/-! ### The code -/

/-- `-EFAULT` -/
def eFault : Int := -14

def axsFregDebugLenRead : UInt8 := 0x83
def axsFregDebugStrRead : UInt8 := 0x84

/-- What a file returns: its value, the text for the user, and the indices of `debug_rx_buf` read for it. -/
structure Reply where
  ret : Int
  text : List UInt8
  reads : List Nat

/-- A value and no text. -/
def Reply.bare (ret : Int) : Reply where
  ret := ret
  text := []
  reads := []

/-- The loop of `axs_tprwreg_show` and the line end after it. -/
def showEntries (rx : List UInt8) (rdLen : Nat) : Printed pageSize :=
  ((Printed.empty pageSize).printAll ((List.range rdLen).map fun i => entryText (rx.getD i 0))).snprintf
    newline

/-- `s_rd_len` is above 0 only where there is a buffer. -/
def axsTprwregShow (d : DebugBuffers) : DebugBuffers × Reply :=
  let page := showEntries (d.debugRxBuf.getD []) d.sRdLen
  ({ d with sRdLen := 0 }, ⟨page.total, page.text, List.range d.sRdLen⟩)

/-- `snprintf(buf, PAGE_SIZE, "%s\n", debug_rx_buf)`: without a NUL in the buffer the byte behind it is read, and more. -/
def printString (rx : List UInt8) : Reply :=
  let text := CString.ofBuffer rx
  let page := (Printed.empty pageSize).snprintf (text ++ newline)
  ⟨page.total, page.text, List.range (text.length + 1)⟩

/-- `axs_debug_str_show` once it has the length. -/
def debugStrBlock (d : DebugBuffers) (length : Nat) : Prog Bus (DebugBuffers × Reply) :=
  match d.debugRxBuf with
  -- `axs_write_bytes_read_bytes` refuses a buffer that is not there
  | none => pure (d, .bare ePerm)
  | some rx => do
      let (ret, rx) ← axsWriteBytesReadBytes (writeReg axsFregDebugStrRead) rx length
      let d := { d with debugRxBuf := some rx }
      if ret < 0 then return (d, .bare ePerm)
      return (d, printString rx)

def axsDebugStrShow (d : DebugBuffers) : Prog Bus (DebugBuffers × Reply) := do
  let (ret, debugStrLen) ← axsWriteBytesReadBytes (writeReg axsFregDebugLenRead) [0, 0] 2
  if ret < 0 then return (d, .bare ePerm)
  debugStrBlock d (((debugStrLen.getD 0 0).toNat <<< 8) ||| (debugStrLen.getD 1 0).toNat)

/-- The buffers, and `proc_opmode`. -/
structure DebugFiles where
  buffers : DebugBuffers
  procOpmode : UInt8

/-- `copy_from_user` puts zeros where `uncopied` bytes could not be read. -/
def copyFromUser (buff : List UInt8) (uncopied : Nat) : List UInt8 :=
  buff.take (buff.length - uncopied) ++ List.replicate (min uncopied buff.length) 0

/-- The commands that transfer what is behind the first byte. -/
def procTransfer (tx : List UInt8) (count : Nat) (files : DebugFiles) :
    Prog Bus (DebugFiles × Reply) := do
  let writelen := count - 1
  if axsCmdMaxWriteBufLen < writelen ∨ writelen = 0 then return (files, .bare eInval)
  let ret ← axsWriteBytes ((tx.drop 1).take writelen)
  if ret < 0 then return (files, .bare ret)
  return (files, .bare count)

def axsProcWrite (buff : List UInt8) (uncopied : Nat) (files : DebugFiles) :
    Prog Bus (DebugFiles × Reply) :=
  match files.buffers.debugTxBuf with
  | none => pure (files, .bare eInval)
  | some tx =>
      if buff.length = 0 ∨ axsCmdMaxWriteBufLen < buff.length then pure (files, .bare eInval)
      else
        let tx := overwrite tx (copyFromUser buff uncopied)
        let files := { files with buffers := { files.buffers with debugTxBuf := some tx } }
        if uncopied ≠ 0 then pure (files, .bare eFault)
        else
          let files := { files with procOpmode := tx.getD 0 0 }
          -- 'r' and 'w'; 's' resets the controller, and the rest do nothing
          if files.procOpmode = 114 ∨ files.procOpmode = 119 then procTransfer tx buff.length files
          else pure (files, .bare buff.length)

/-- `uncopied` is what `copy_to_user` returns. -/
def axsProcRead (count uncopied : Nat) (files : DebugFiles) : Prog Bus (DebugFiles × Reply) :=
  match files.buffers.debugRxBuf with
  | none => pure (files, .bare eInval)
  | some rx =>
      if count = 0 ∨ axsCmdMaxReadBufLen < count then pure (files, .bare eInval)
      else if files.procOpmode = 114 then do
        let (ret, rx) ← axsReadBytes rx count
        let files := { files with buffers := { files.buffers with debugRxBuf := some rx } }
        if ret < 0 then return (files, .bare ret)
        if uncopied ≠ 0 then return (files, .bare eFault)
        return (files, ⟨count, rx.take count, List.range count⟩)
      else pure (files, .bare eInval)

/-! ### The files -/

/-- A read or a write of a file, with what the user and the memory around give to it. -/
inductive FileCall
  | tprwregShow
  | tprwregStore (written : List UInt8) (around : Nat → UInt8)
  | debugStrShow
  | dumpShow (file : DumpFile) (around : Nat → UInt8)
  | procWrite (buff : List UInt8) (uncopied : Nat)
  | procRead (count uncopied : Nat)
  | other (ret : Int)

def FileCall.run : FileCall → DebugFiles → Prog Bus (DebugFiles × Reply)
  | .tprwregShow, files =>
      pure ({ files with buffers := (axsTprwregShow files.buffers).1 },
        (axsTprwregShow files.buffers).2)
  | .tprwregStore written around, files => do
      let stored ← axsTprwregStore (storeBuf written around) written.length files.buffers
      return ({ files with buffers := stored.1 }, .bare stored.2)
  | .debugStrShow, files => do
      let shown ← axsDebugStrShow files.buffers
      return ({ files with buffers := shown.1 }, shown.2)
  | .dumpShow file around, files => do
      let shown ← file.show around files.buffers
      return ({ files with buffers := shown.1 },
        ⟨shown.2.ret, shown.2.dump.page.text, shown.2.dump.reads⟩)
  | .procWrite buff uncopied, files => axsProcWrite buff uncopied files
  | .procRead count uncopied, files => axsProcRead count uncopied files
  | .other ret, files => pure (files, .bare ret)

/-- A receive stores at most what it was asked for. -/
def StoresAtMost : Event Bus → Prop
  | ⟨.i2cMasterRecv length, (_, received)⟩ => received.length ≤ length
  | ⟨.i2cMasterSend _, _⟩ => True
  | ⟨.kzalloc _, _⟩ => True

/-- A call of a file, its transfers, and what it returned. -/
structure FileStep where
  call : FileCall
  events : List (Event Bus)
  reply : Reply

def Served (before : DebugFiles) (step : FileStep) (after : DebugFiles) : Prop :=
  (step.call.run before).Trace step.events (after, step.reply) ∧
    ∀ event ∈ step.events, StoresAtMost event

/-- The files as the driver makes them: either buffer may be missing, and a buffer is zeros. -/
def Created (files : DebugFiles) : Prop :=
  (files.buffers.debugTxBuf = none ∨ files.buffers.debugTxBuf = some (List.replicate 1024 0)) ∧
  (files.buffers.debugRxBuf = none ∨ files.buffers.debugRxBuf = some (List.replicate 1024 0)) ∧
  files.buffers.sRdLen = 0 ∧ files.procOpmode = 0

/-! ### What is stored in the receive buffer -/

/-- A receive asks for fewer bytes than the buffer has. -/
def LeavesLast : BusOp → Prop
  | .i2cMasterRecv length => length < axsCmdMaxReadBufLen
  | .i2cMasterSend _ => True
  | .kzalloc _ => True

/-- A buffer is as it was, or begins with what one of the receives stored. -/
def Filled (events : List (Event Bus)) (before after : List UInt8) : Prop :=
  after = before ∨ ∃ length ret received, ⟨.i2cMasterRecv length, (ret, received)⟩ ∈ events ∧
    after = overwrite before received

/-- The same of a buffer that may be missing, and stays so. -/
def RxFilled (events : List (Event Bus)) : Option (List UInt8) → Option (List UInt8) → Prop
  | none, after => after = none
  | some before, after => ∃ rx, after = some rx ∧ Filled events before rx

/-- Nothing but the receive buffer changes. -/
def OnlyRx (d d' : DebugBuffers) : Prop := d'.debugTxBuf = d.debugTxBuf ∧ d'.sRdLen = d.sRdLen

theorem OnlyRx.refl (d : DebugBuffers) : OnlyRx d d := ⟨rfl, rfl⟩

section Stored

variable {events more : List (Event Bus)} {before after : List UInt8}
  {rx rx' : Option (List UInt8)} {cmd data data' rdbuf writebuf : List UInt8} {datalen rdlen : Nat}
  {ret : Int}

theorem RxFilled.refl (events : List (Event Bus)) (rx : Option (List UInt8)) :
    RxFilled events rx rx := by
  cases rx with
  | none => rfl
  | some before => exact ⟨before, rfl, .inl rfl⟩

theorem Filled.mono (hfilled : Filled events before after) (hsub : events ⊆ more) :
    Filled more before after := by
  rcases hfilled with hsame | ⟨length, ret, received, hmem, hafter⟩
  · exact .inl hsame
  · exact .inr ⟨length, ret, received, hsub hmem, hafter⟩

theorem RxFilled.mono (hfilled : RxFilled events rx rx') (hsub : events ⊆ more) :
    RxFilled more rx rx' := by
  cases rx with
  | none => exact hfilled
  | some before =>
      obtain ⟨after, hafter, hfilled⟩ := hfilled
      exact ⟨after, hafter, hfilled.mono hsub⟩

/-- The check of the bus layer is strict, so the last byte of a buffer is never asked for. -/
theorem leavesLast_axsWriteBytesReadBytes :
    (axsWriteBytesReadBytes cmd data datalen).Only LeavesLast := by
  rw [axsWriteBytesReadBytes]
  by_cases hlength : axsCmdMaxWriteBufLen ≤ cmd.length ∨ axsCmdMaxReadBufLen ≤ datalen
  · rw [if_pos hlength]
    exact Prog.only_ret _
  · rw [if_neg hlength]
    refine Prog.Only.bind ?_ fun ret => Prog.only_ite (Prog.only_ret _) ?_
    · rw [sendCmd]
      exact Prog.only_ite (Prog.only_call trivial fun _ => Prog.only_ret _) (Prog.only_ret _)
    · have hlast : LeavesLast (.i2cMasterRecv datalen) := by
        rw [LeavesLast]
        omega
      exact Prog.only_call hlast fun _ => Prog.only_ret _

theorem leavesLast_axsReadBytes : (axsReadBytes rdbuf rdlen).Only LeavesLast := by
  rw [axsReadBytes]
  by_cases hlength : axsCmdMaxReadBufLen ≤ rdlen
  · rw [if_pos hlength]
    exact Prog.only_ret _
  · rw [if_neg hlength]
    exact Prog.only_call (not_le.mp hlength) fun _ => Prog.only_ret _

theorem filled_axsWriteBytesReadBytes
    (htrace : (axsWriteBytesReadBytes cmd data datalen).Trace events (ret, data')) :
    Filled events data data' := by
  rw [axsWriteBytesReadBytes] at htrace
  split at htrace
  · obtain ⟨-, -, rfl⟩ := Prog.trace_pair.mp htrace
    exact .inl rfl
  · obtain ⟨sent, left, right, rfl, -, hrest⟩ := Prog.trace_bind.mp htrace
    split at hrest
    · obtain ⟨-, -, rfl⟩ := Prog.trace_pair.mp hrest
      exact .inl rfl
    · obtain ⟨⟨got, received⟩, _, rfl, -, hdata⟩ := hrest
      obtain ⟨-, rfl⟩ := Prod.mk.inj hdata
      exact .inr ⟨datalen, got, received, by simp, rfl⟩

theorem filled_axsReadBytes (htrace : (axsReadBytes rdbuf rdlen).Trace events (ret, data')) :
    Filled events rdbuf data' := by
  rw [axsReadBytes] at htrace
  split at htrace
  · obtain ⟨-, -, rfl⟩ := Prog.trace_pair.mp htrace
    exact .inl rfl
  · obtain ⟨⟨got, received⟩, _, rfl, -, hdata⟩ := htrace
    obtain ⟨-, rfl⟩ := Prod.mk.inj hdata
    exact .inr ⟨rdlen, got, received, by simp, rfl⟩

end Stored

/-! ### File by file -/

section Files

variable {buf around : Nat → UInt8} {d d' : DebugBuffers} {files files' : DebugFiles}
  {events : List (Event Bus)} {tx rx buff : List UInt8} {count uncopied length ret : Nat}
  {reply : Reply} {shown : Shown} {command : UInt8} {file : DumpFile} {call : FileCall}

theorem leavesLast_axsWriteBytes (writebuf : List UInt8) :
    (axsWriteBytes writebuf).Only LeavesLast := only_axsWriteBytes trivial

theorem leavesLast_axsTprwregStore : (axsTprwregStore buf count d).Only LeavesLast := by
  rw [axsTprwregStore]
  refine Prog.only_ite (Prog.only_ret _) ?_
  cases d.debugTxBuf with
  | none => exact Prog.only_ret _
  | some tx =>
      cases d.debugRxBuf with
      | none => exact Prog.only_ret _
      | some rx =>
          refine Prog.Only.bind ?_ fun d => Prog.only_ret _
          refine Prog.only_ite ?_ (Prog.only_ite (Prog.only_ite (Prog.only_ret _) ?_)
            (Prog.only_ret _))
          · refine Prog.only_ite (Prog.only_ret _) ?_
            exact (leavesLast_axsWriteBytes _).bind fun _ => Prog.only_ret _
          · refine Prog.only_ite (Prog.only_ret _) ?_
            exact leavesLast_axsWriteBytesReadBytes.bind fun _ => Prog.only_ret _

theorem rxFilled_tprwregCommand (hrx : d.debugRxBuf = some rx)
    (htrace : (tprwregCommand buf count tx rx d).Trace events d') :
    RxFilled events d.debugRxBuf d'.debugRxBuf := by
  rw [tprwregCommand] at htrace
  split at htrace
  · rw [tprwregWrite] at htrace
    dsimp only at htrace
    split at htrace
    · obtain ⟨-, rfl⟩ := htrace
      exact .refl _ _
    · obtain ⟨_, -, rfl⟩ := Prog.trace_map.mp htrace
      exact .refl _ _
  · split at htrace
    · split at htrace
      · obtain ⟨-, rfl⟩ := htrace
        exact .refl _ _
      · rw [tprwregRead] at htrace
        dsimp only at htrace
        split at htrace
        · obtain ⟨-, rfl⟩ := htrace
          exact .refl _ _
        · obtain ⟨⟨ret, received⟩, hread, rfl⟩ := Prog.trace_map.mp htrace
          rw [hrx]
          exact ⟨_, rfl, filled_axsWriteBytesReadBytes hread⟩
    · obtain ⟨-, rfl⟩ := htrace
      exact .refl _ _

theorem rxFilled_axsTprwregStore (htrace : (axsTprwregStore buf count d).Trace events (d', ret)) :
    RxFilled events d.debugRxBuf d'.debugRxBuf := by
  rw [axsTprwregStore] at htrace
  split at htrace
  · obtain ⟨-, rfl, -⟩ := Prog.trace_pair.mp htrace
    exact .refl _ _
  · split at htrace
    · rename_i hrx
      obtain ⟨_, hcommand, hd⟩ := Prog.trace_map.mp htrace
      obtain ⟨rfl, -⟩ := Prod.mk.inj hd
      exact rxFilled_tprwregCommand hrx hcommand
    · obtain ⟨-, rfl, -⟩ := Prog.trace_pair.mp htrace
      exact .refl _ _

theorem leavesLast_showBlock {tx rx : Nat} : (showBlock command around d tx rx).Only LeavesLast := by
  rw [showBlock]
  cases d.debugRxBuf with
  | none => exact Prog.only_ret _
  | some rxBuf =>
      refine leavesLast_axsWriteBytesReadBytes.bind fun _ => ?_
      exact Prog.only_ite (Prog.only_ret _) (Prog.only_ret _)

theorem showBlock_stored {tx rx : Nat}
    (htrace : (showBlock command around d tx rx).Trace events (d', shown)) :
    RxFilled events d.debugRxBuf d'.debugRxBuf ∧ OnlyRx d d' := by
  rw [showBlock] at htrace
  cases hrx : d.debugRxBuf with
  | none =>
      rw [hrx] at htrace
      obtain ⟨-, rfl, -⟩ := Prog.trace_pair.mp htrace
      exact ⟨hrx, .refl _⟩
  | some rxBuf =>
      rw [hrx] at htrace
      obtain ⟨⟨ret, rxBuf'⟩, left, right, rfl, hdata, hrest⟩ := Prog.trace_bind.mp htrace
      have hfilled := (filled_axsWriteBytesReadBytes hdata).mono (List.subset_append_left _ right)
      dsimp only at hrest
      split at hrest
      · obtain ⟨-, rfl, -⟩ := Prog.trace_pair.mp hrest
        exact ⟨⟨rxBuf', rfl, hfilled⟩, rfl, rfl⟩
      · obtain ⟨-, rfl, -⟩ := Prog.trace_pair.mp hrest
        exact ⟨⟨rxBuf', rfl, hfilled⟩, rfl, rfl⟩

theorem leavesLast_show : (file.show around d).Only LeavesLast := by
  rw [DumpFile.show_eq, axsShow]
  refine leavesLast_axsWriteBytesReadBytes.bind fun _ => ?_
  exact Prog.only_ite (Prog.only_ret _) leavesLast_showBlock

theorem show_stored (htrace : (file.show around d).Trace events (d', shown)) :
    RxFilled events d.debugRxBuf d'.debugRxBuf ∧ OnlyRx d d' := by
  rw [DumpFile.show_eq, axsShow] at htrace
  obtain ⟨⟨ret, counts⟩, left, right, rfl, -, hrest⟩ := Prog.trace_bind.mp htrace
  dsimp only at hrest
  split at hrest
  · obtain ⟨-, rfl, -⟩ := Prog.trace_pair.mp hrest
    exact ⟨.refl _ _, .refl _⟩
  · obtain ⟨hfilled, honly⟩ := showBlock_stored hrest
    exact ⟨hfilled.mono (List.subset_append_right left _), honly⟩

theorem leavesLast_debugStrBlock : (debugStrBlock d length).Only LeavesLast := by
  rw [debugStrBlock]
  cases d.debugRxBuf with
  | none => exact Prog.only_ret _
  | some rx =>
      refine leavesLast_axsWriteBytesReadBytes.bind fun _ => ?_
      exact Prog.only_ite (Prog.only_ret _) (Prog.only_ret _)

theorem debugStrBlock_trace (htrace : (debugStrBlock d length).Trace events (d', reply)) :
    RxFilled events d.debugRxBuf d'.debugRxBuf ∧ OnlyRx d d' ∧
      (reply = .bare ePerm ∨ ∃ rx, d'.debugRxBuf = some rx ∧ reply = printString rx) := by
  rw [debugStrBlock] at htrace
  cases hrx : d.debugRxBuf with
  | none =>
      rw [hrx] at htrace
      obtain ⟨-, rfl, rfl⟩ := Prog.trace_pair.mp htrace
      exact ⟨hrx, .refl _, .inl rfl⟩
  | some rx =>
      rw [hrx] at htrace
      obtain ⟨⟨ret, rx'⟩, left, right, rfl, hdata, hrest⟩ := Prog.trace_bind.mp htrace
      have hfilled := (filled_axsWriteBytesReadBytes hdata).mono (List.subset_append_left _ right)
      dsimp only at hrest
      split at hrest
      · obtain ⟨-, rfl, rfl⟩ := Prog.trace_pair.mp hrest
        exact ⟨⟨rx', rfl, hfilled⟩, ⟨rfl, rfl⟩, .inl rfl⟩
      · obtain ⟨-, rfl, rfl⟩ := Prog.trace_pair.mp hrest
        exact ⟨⟨rx', rfl, hfilled⟩, ⟨rfl, rfl⟩, .inr ⟨rx', rfl, rfl⟩⟩

theorem leavesLast_axsDebugStrShow : (axsDebugStrShow d).Only LeavesLast := by
  rw [axsDebugStrShow]
  refine leavesLast_axsWriteBytesReadBytes.bind fun _ => ?_
  exact Prog.only_ite (Prog.only_ret _) leavesLast_debugStrBlock

theorem axsDebugStrShow_trace (htrace : (axsDebugStrShow d).Trace events (d', reply)) :
    RxFilled events d.debugRxBuf d'.debugRxBuf ∧ OnlyRx d d' ∧
      (reply = .bare ePerm ∨ ∃ rx, d'.debugRxBuf = some rx ∧ reply = printString rx) := by
  rw [axsDebugStrShow] at htrace
  obtain ⟨⟨ret, debugStrLen⟩, left, right, rfl, -, hrest⟩ := Prog.trace_bind.mp htrace
  dsimp only at hrest
  split at hrest
  · obtain ⟨-, rfl, rfl⟩ := Prog.trace_pair.mp hrest
    exact ⟨.refl _ _, .refl _, .inl rfl⟩
  · obtain ⟨hfilled, hrest⟩ := debugStrBlock_trace hrest
    exact ⟨hfilled.mono (List.subset_append_right left _), hrest⟩

theorem leavesLast_axsProcWrite : (axsProcWrite buff uncopied files).Only LeavesLast := by
  rw [axsProcWrite]
  cases files.buffers.debugTxBuf with
  | none => exact Prog.only_ret _
  | some tx =>
      refine Prog.only_ite (Prog.only_ret _) (Prog.only_ite (Prog.only_ret _) ?_)
      refine Prog.only_ite (Prog.only_ite (Prog.only_ret _) ?_) (Prog.only_ret _)
      refine (leavesLast_axsWriteBytes _).bind fun _ => ?_
      exact Prog.only_ite (Prog.only_ret _) (Prog.only_ret _)

theorem procTransfer_files (htrace : (procTransfer tx count files).Trace events (files', reply)) :
    files' = files := by
  rw [procTransfer] at htrace
  split at htrace
  · exact (Prog.trace_pair.mp htrace).2.1
  · obtain ⟨ret, left, right, rfl, -, hrest⟩ := Prog.trace_bind.mp htrace
    split at hrest
    · exact (Prog.trace_pair.mp hrest).2.1
    · exact (Prog.trace_pair.mp hrest).2.1

theorem axsProcWrite_stored
    (htrace : (axsProcWrite buff uncopied files).Trace events (files', reply)) :
    files'.buffers.debugRxBuf = files.buffers.debugRxBuf ∧
      files'.buffers.sRdLen = files.buffers.sRdLen ∧
      (files.buffers.debugTxBuf ≠ none → files'.buffers.debugTxBuf ≠ none) := by
  rw [axsProcWrite] at htrace
  split at htrace
  · obtain ⟨-, rfl, -⟩ := Prog.trace_pair.mp htrace
    exact ⟨rfl, rfl, id⟩
  · split at htrace
    · obtain ⟨-, rfl, -⟩ := Prog.trace_pair.mp htrace
      exact ⟨rfl, rfl, id⟩
    · dsimp only at htrace
      split at htrace
      · obtain ⟨-, rfl, -⟩ := Prog.trace_pair.mp htrace
        exact ⟨rfl, rfl, fun _ => Option.some_ne_none _⟩
      · split at htrace
        · rw [procTransfer_files htrace]
          exact ⟨rfl, rfl, fun _ => Option.some_ne_none _⟩
        · obtain ⟨-, rfl, -⟩ := Prog.trace_pair.mp htrace
          exact ⟨rfl, rfl, fun _ => Option.some_ne_none _⟩

theorem leavesLast_axsProcRead : (axsProcRead count uncopied files).Only LeavesLast := by
  rw [axsProcRead]
  cases files.buffers.debugRxBuf with
  | none => exact Prog.only_ret _
  | some rx =>
      refine Prog.only_ite (Prog.only_ret _) (Prog.only_ite ?_ (Prog.only_ret _))
      refine leavesLast_axsReadBytes.bind fun _ => ?_
      exact Prog.only_ite (Prog.only_ret _) (Prog.only_ite (Prog.only_ret _) (Prog.only_ret _))

theorem axsProcRead_stored
    (htrace : (axsProcRead count uncopied files).Trace events (files', reply)) :
    RxFilled events files.buffers.debugRxBuf files'.buffers.debugRxBuf ∧
      OnlyRx files.buffers files'.buffers := by
  rw [axsProcRead] at htrace
  cases hrx : files.buffers.debugRxBuf with
  | none =>
      rw [hrx] at htrace
      obtain ⟨-, rfl, -⟩ := Prog.trace_pair.mp htrace
      exact ⟨hrx, .refl _⟩
  | some rx =>
      rw [hrx] at htrace
      dsimp only at htrace
      split at htrace
      · obtain ⟨-, rfl, -⟩ := Prog.trace_pair.mp htrace
        exact ⟨⟨rx, hrx, .inl rfl⟩, .refl _⟩
      · split at htrace
        · obtain ⟨⟨ret, rx'⟩, left, right, rfl, hdata, hrest⟩ := Prog.trace_bind.mp htrace
          have hfilled := (filled_axsReadBytes hdata).mono (List.subset_append_left _ right)
          have hafter : files' = { files with
              buffers := { files.buffers with debugRxBuf := some rx' } } := by
            dsimp only at hrest
            split at hrest
            · exact (Prog.trace_pair.mp hrest).2.1
            · split at hrest
              · exact (Prog.trace_pair.mp hrest).2.1
              · exact (Prog.trace_pair.mp hrest).2.1
          rw [hafter]
          exact ⟨⟨rx', rfl, hfilled⟩, rfl, rfl⟩
        · obtain ⟨-, rfl, -⟩ := Prog.trace_pair.mp htrace
          exact ⟨⟨rx, hrx, .inl rfl⟩, .refl _⟩

/-- No call of a file asks for the last byte of the receive buffer. -/
theorem leavesLast_run (call : FileCall) (files : DebugFiles) :
    (call.run files).Only LeavesLast := by
  cases call with
  | tprwregShow => exact Prog.only_ret _
  | tprwregStore written around => exact leavesLast_axsTprwregStore.bind fun _ => Prog.only_ret _
  | debugStrShow => exact leavesLast_axsDebugStrShow.bind fun _ => Prog.only_ret _
  | dumpShow file around => exact leavesLast_show.bind fun _ => Prog.only_ret _
  | procWrite buff uncopied => exact leavesLast_axsProcWrite
  | procRead count uncopied => exact leavesLast_axsProcRead
  | other ret => exact Prog.only_ret _

theorem rxFilled_run (htrace : (call.run files).Trace events (files', reply)) :
    RxFilled events files.buffers.debugRxBuf files'.buffers.debugRxBuf := by
  cases call with
  | tprwregShow =>
      obtain ⟨-, rfl, -⟩ := Prog.trace_pair.mp htrace
      exact .refl _ _
  | tprwregStore written around =>
      obtain ⟨stored, hstore, hfiles⟩ := Prog.trace_map.mp htrace
      obtain ⟨rfl, -⟩ := Prod.mk.inj hfiles
      exact rxFilled_axsTprwregStore hstore
  | debugStrShow =>
      obtain ⟨shown, hshow, hfiles⟩ := Prog.trace_map.mp htrace
      obtain ⟨rfl, -⟩ := Prod.mk.inj hfiles
      exact (axsDebugStrShow_trace hshow).1
  | dumpShow file around =>
      obtain ⟨shown, hshow, hfiles⟩ := Prog.trace_map.mp htrace
      obtain ⟨rfl, -⟩ := Prod.mk.inj hfiles
      exact (show_stored hshow).1
  | procWrite buff uncopied =>
      rw [(axsProcWrite_stored htrace).1]
      exact .refl _ _
  | procRead count uncopied => exact (axsProcRead_stored htrace).1
  | other ret =>
      obtain ⟨-, rfl, -⟩ := Prog.trace_pair.mp htrace
      exact .refl _ _

end Files

/-! ### Every run -/

/-- A receive of the step stores a byte at `index` of its buffer. -/
def StoredAt (events : List (Event Bus)) (index : Nat) : Prop :=
  ∃ length ret received, ⟨.i2cMasterRecv length, (ret, received)⟩ ∈ events ∧ index < received.length

/-- A receive buffer is as long as it was allocated, and its last byte is 0. -/
def Terminated (files : DebugFiles) : Prop :=
  ∀ rx, files.buffers.debugRxBuf = some rx → rx.length = 1024 ∧ rx.getD 1023 0 = 0

section Runs

variable {files before after : DebugFiles} {steps : List FileStep} {step : FileStep} {rx rx' : List UInt8}

theorem storedAt_lt (hserved : Served before step after) {index : Nat}
    (hstored : StoredAt step.events index) : index < 1023 := by
  obtain ⟨length, ret, received, hmem, hindex⟩ := hstored
  have hlast : length < axsCmdMaxReadBufLen :=
    leavesLast_run step.call before _ _ hserved.1 _ hmem
  have hstores : received.length ≤ length := hserved.2 _ hmem
  rw [axsCmdMaxReadBufLen] at hlast
  omega

theorem getElem_of_not_storedAt {events : List (Event Bus)} (hfilled : Filled events rx rx')
    {index : Nat} (hindex : ¬ StoredAt events index) : rx'[index]? = rx[index]? := by
  rcases hfilled with rfl | ⟨length, ret, received, hmem, rfl⟩
  · rfl
  · have hbehind : received.length ≤ index := by
      by_contra hinside
      exact hindex ⟨length, ret, received, hmem, not_le.mp hinside⟩
    rw [overwrite, List.getElem?_append_right hbehind, List.getElem?_drop]
    congr 1
    omega

theorem length_of_filled {events : List (Event Bus)} (hfilled : Filled events rx rx')
    (hstored : ∀ index, StoredAt events index → index < rx.length) : rx'.length = rx.length := by
  rcases hfilled with rfl | ⟨length, ret, received, hmem, rfl⟩
  · rfl
  · rw [overwrite, List.length_append, List.length_drop]
    by_contra hlong
    have hindex := hstored (received.length - 1) ⟨length, ret, received, hmem, by omega⟩
    omega

theorem Created.terminated (hcreated : Created files) : Terminated files := by
  intro rx hrx
  rcases hcreated.2.1 with hnone | hzeros
  · rw [hnone] at hrx
    cases hrx
  · rw [hzeros] at hrx
    obtain rfl := Option.some.inj hrx
    refine ⟨List.length_replicate, ?_⟩
    rw [List.getD_eq_getElem?_getD, List.getElem?_replicate]
    rfl

theorem Served.rxFilled (hserved : Served before step after) :
    RxFilled step.events before.buffers.debugRxBuf after.buffers.debugRxBuf :=
  rxFilled_run hserved.1

theorem Served.terminated (hserved : Served before step after) (hbefore : Terminated before) :
    Terminated after := by
  intro rx' hrx'
  have hfilled := hserved.rxFilled
  cases hrx : before.buffers.debugRxBuf with
  | none =>
      rw [hrx] at hfilled
      rw [show after.buffers.debugRxBuf = none from hfilled] at hrx'
      cases hrx'
  | some rx =>
      rw [hrx] at hfilled
      obtain ⟨_, hafter, hfilled⟩ := hfilled
      obtain rfl := Option.some.inj (hrx'.symm.trans hafter)
      obtain ⟨hlength, hlast⟩ := hbefore rx hrx
      have hlength' := length_of_filled hfilled fun index hstored => by
        have hindex := storedAt_lt hserved hstored
        omega
      have hsame : rx'[1023]? = rx[1023]? := getElem_of_not_storedAt hfilled fun hstored =>
        absurd (storedAt_lt hserved hstored) (lt_irrefl _)
      refine ⟨hlength'.trans hlength, ?_⟩
      rw [List.getD_eq_getElem?_getD, hsame, ← List.getD_eq_getElem?_getD, hlast]

theorem terminated_of_run (hrun : Run Served files steps before) (hcreated : Created files) :
    Terminated before :=
  hrun.invariant (fun _ _ _ hbefore hserved => hserved.terminated hbefore) hcreated.terminated

/-- A buffer whose last byte is 0 is printed up to a NUL inside of it. -/
theorem printString_reads {index : Nat} (hlength : rx.length = 1024) (hlast : rx.getD 1023 0 = 0)
    (hindex : index ∈ (printString rx).reads) : index < 1024 := by
  have hzero : (0 : UInt8) ∈ rx := by
    rw [List.getD_eq_getElem _ _ (by omega)] at hlast
    exact hlast ▸ List.getElem_mem _
  have htext : (CString.ofBuffer rx).length ≠ rx.length := by
    intro hwhole
    have hall : CString.ofBuffer rx = rx := (List.takeWhile_sublist _).eq_of_length hwhole
    rw [← hall] at hzero
    exact CString.zero_not_mem_ofBuffer rx hzero
  have hle : (CString.ofBuffer rx).length ≤ rx.length :=
    (List.takeWhile_sublist _).length_le
  have hread : index < (CString.ofBuffer rx).length + 1 := List.mem_range.mp hindex
  omega

/-- Whatever is read from and written to the debug files, no byte is stored at or behind the last one of the receive buffer, which stays 0, and the printing of the buffer stops inside of it. -/
theorem debug_rx_buf_terminated (hcreated : Created files) (hrun : Run Served files steps before)
    (hserved : Served before step after) :
    (∀ index, StoredAt step.events index → index < axsCmdMaxReadBufLen - 1) ∧
    (∀ rx rx', before.buffers.debugRxBuf = some rx → after.buffers.debugRxBuf = some rx' →
      ∀ index, ¬ StoredAt step.events index → rx'[index]? = rx[index]?) ∧
    Terminated before ∧ Terminated after ∧
    (step.call = .debugStrShow → ∀ index ∈ step.reply.reads, index < axsCmdMaxReadBufLen) := by
  have hbefore := terminated_of_run hrun hcreated
  have hafter := hserved.terminated hbefore
  refine ⟨fun index hstored => storedAt_lt hserved hstored, ?_, hbefore, hafter, ?_⟩
  · intro rx rx' hrx hrx' index hindex
    have hfilled := hserved.rxFilled
    rw [hrx] at hfilled
    obtain ⟨_, hsome, hfilled⟩ := hfilled
    obtain rfl := Option.some.inj (hrx'.symm.trans hsome)
    exact getElem_of_not_storedAt hfilled hindex
  · intro hcall index hindex
    obtain ⟨call, events, reply⟩ := step
    obtain rfl : call = .debugStrShow := hcall
    obtain ⟨shown, hshow, hfiles⟩ := Prog.trace_map.mp hserved.1
    obtain ⟨rfl, rfl⟩ := Prod.mk.inj hfiles
    rcases (axsDebugStrShow_trace hshow).2.2 with hfailed | ⟨rx, hrx, hprinted⟩
    · rw [hfailed] at hindex
      exact absurd hindex List.not_mem_nil
    · rw [hprinted] at hindex
      obtain ⟨hlength, hlast⟩ := hafter rx hrx
      exact printString_reads hlength hlast hindex

end Runs

def DebugFiles.fresh : DebugFiles where
  buffers := .fresh
  procOpmode := 0

theorem DebugFiles.created_fresh : Created fresh := ⟨.inr rfl, .inr rfl, rfl, rfl⟩

theorem exists_served (call : FileCall) (files : DebugFiles) :
    ∃ step after, step.call = call ∧ Served files step after := by
  have hbus : ∀ op, StoresAtMost ⟨op, quietBus op⟩ := by
    intro op
    cases op with
    | i2cMasterSend bytes => trivial
    | i2cMasterRecv length => exact List.length_replicate.le
    | kzalloc size => trivial
  exact ⟨⟨call, _, _⟩, _, rfl, Prog.trace_answered quietBus (call.run files),
    Prog.answered_events hbus _⟩

/-- The text of the controller, read after a read of the proc file. -/
theorem debug_rx_buf_terminated_debugStr : ∃ (step : FileStep) (before after : DebugFiles),
    step.call = .debugStrShow ∧
    (∀ index, StoredAt step.events index → index < axsCmdMaxReadBufLen - 1) ∧
    (∀ rx rx', before.buffers.debugRxBuf = some rx → after.buffers.debugRxBuf = some rx' →
      ∀ index, ¬ StoredAt step.events index → rx'[index]? = rx[index]?) ∧
    Terminated before ∧ Terminated after ∧
    (step.call = .debugStrShow → ∀ index ∈ step.reply.reads, index < axsCmdMaxReadBufLen) := by
  obtain ⟨_, before, -, hfirst⟩ := exists_served (.procRead 1024 0) .fresh
  obtain ⟨step, after, hcall, hserved⟩ := exists_served .debugStrShow before
  exact ⟨step, before, after, hcall,
    debug_rx_buf_terminated DebugFiles.created_fresh (Run.single hfirst) hserved⟩

end FrontPanel.Touch
