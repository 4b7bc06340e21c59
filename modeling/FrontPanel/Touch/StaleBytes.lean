import FrontPanel.Touch.DebugFiles
import FrontPanel.Touch.ShortCounts

/-!
# Stale bytes in the debug files

What two reads show of what was in `debug_rx_buf` before: that of `axs_driver_debug_str`, and that of `axs_rw_reg` after an `r` command. Two histories are compared. They bring the files to two states, and then the same read is made in both, with the same results and the same bytes received. Where the text is the same whatever the histories were, it shows the controller's answer and nothing else.

The two reads print more than was received: one prints up to a NUL, the other as many bytes as were asked for. So the text depends on the history where the answer does not cover what is printed, and there the zeros of a new buffer and a buffer full of letters tell two histories apart.
-/

namespace FrontPanel.Touch

open FrontPanel.CString (ofBuffer)

/-! ### The reads -/

def Reachable (files : DebugFiles) : Prop :=
  ∃ created steps, Created created ∧ Run Served created steps files

inductive DebugRead
  | debugStr
  /-- An `r` command, of `r` and `rest`, and a read of the file. -/
  | rwReg (rest : List UInt8)

/-- What the user gets. -/
structure Answer where
  ret : Int
  text : List UInt8

def Reply.answer (reply : Reply) : Answer where
  ret := reply.ret
  text := reply.text

/-- The read, and what it returns; `around` is the memory a command is given in. -/
def DebugRead.run (around : Nat → UInt8) : DebugRead → DebugFiles → Prog Bus Answer
  | .debugStr, files => do
      let shown ← axsDebugStrShow files.buffers
      return shown.2.answer
  | .rwReg rest, files => do
      let stored ← axsTprwregStore (storeBuf (114 :: rest) around) (114 :: rest).length files.buffers
      return (axsTprwregShow stored.1).2.answer

/-- The bytes received in a transfer. -/
def bytesReceived : Event Bus → List UInt8
  | ⟨.i2cMasterRecv _, (_, received)⟩ => received
  | ⟨.i2cMasterSend _, _⟩ => []
  | ⟨.kzalloc _, _⟩ => []

def receivedOf (events : List (Event Bus)) : List UInt8 := events.flatMap bytesReceived

/-- The transfers from the command for the text on. -/
def strEvents (events : List (Event Bus)) : List (Event Bus) :=
  events.dropWhile fun event => event.op ≠ .i2cMasterSend (writeReg axsFregDebugStrRead)

/-- The number of bytes an `r` command asks for. -/
def askedFor (rest : List UInt8) : Nat :=
  (hexToU8 (fun i => (114 :: rest).getD (3 + i) 0) 2).toNat

/-- The answer covers what is printed. For the text it does where the transfer failed, where a NUL was received, and where all of the buffer but its last byte was; for a register where the command is long enough to be taken, and was not, for want of the buffers, or as many bytes were received as it asks for. -/
def DebugRead.Covered : DebugRead → List (Event Bus) → Prop
  | .debugStr, events => ∀ last, (strEvents events).getLast? = some last →
      (resultOf last).1 < 0 ∨ 0 ∈ receivedOf (strEvents events) ∨
        (receivedOf (strEvents events)).length = 1023
  | .rwReg rest, events => 5 ≤ (114 :: rest).length ∧
      (events = [] ∨ askedFor rest ≤ (receivedOf events).length)

/-! ### What is received -/

section Received

variable {events left right : List (Event Bus)} {cmd data data' other : List UInt8} {datalen : Nat}
  {ret : Int}

theorem receivedOf_append : receivedOf (left ++ right) = receivedOf left ++ receivedOf right :=
  List.flatMap_append

/-- The transfers do not depend on what is in the buffer, and what they bring is put over its start. -/
theorem axsWriteBytesReadBytes_other (other : List UInt8)
    (htrace : (axsWriteBytesReadBytes cmd data datalen).Trace events (ret, data')) :
    data' = overwrite data (receivedOf events) ∧
      (axsWriteBytesReadBytes cmd other datalen).Trace events
        (ret, overwrite other (receivedOf events)) := by
  rw [axsWriteBytesReadBytes] at htrace ⊢
  split at htrace
  · rename_i hrefused
    obtain ⟨rfl, rfl, rfl⟩ := Prog.trace_pair.mp htrace
    rw [if_pos hrefused]
    exact ⟨rfl, rfl, rfl⟩
  · rename_i hgiven
    rw [if_neg hgiven]
    obtain ⟨sent, before, after, rfl, hsend, hrest⟩ := Prog.trace_bind.mp htrace
    have hnone : receivedOf before = [] := by
      rw [sendCmd] at hsend
      split at hsend
      · obtain ⟨_, _, rfl, rfl, -⟩ := hsend
        rfl
      · rw [hsend.1]
        rfl
    rw [receivedOf_append, hnone, List.nil_append]
    split at hrest
    · rename_i hpartial
      obtain ⟨rfl, rfl, rfl⟩ := Prog.trace_pair.mp hrest
      refine ⟨rfl, Prog.trace_bind.mpr ⟨_, before, [], rfl, hsend, ?_⟩⟩
      rw [if_pos hpartial]
      exact ⟨rfl, rfl⟩
    · rename_i hfull
      obtain ⟨⟨got, received⟩, _, rfl, rfl, hdata⟩ := hrest
      obtain ⟨rfl, rfl⟩ := Prod.mk.inj hdata
      have hreceived : receivedOf [⟨.i2cMasterRecv datalen, (ret, received)⟩] = received :=
        List.append_nil _
      rw [hreceived]
      refine ⟨rfl, Prog.trace_bind.mpr ⟨_, before, _, rfl, hsend, ?_⟩⟩
      rw [if_neg hfull]
      exact ⟨(ret, received), [], rfl, rfl, rfl⟩

theorem axsWriteBytesReadBytes_ends (hcmd : 0 < cmd.length)
    (hcmdSize : cmd.length < axsCmdMaxWriteBufLen) (hdatalen : datalen < axsCmdMaxReadBufLen)
    (htrace : (axsWriteBytesReadBytes cmd data datalen).Trace events (ret, data')) :
    (∃ sent rest, events = ⟨.i2cMasterSend cmd, sent⟩ :: rest) ∧
      ∃ last, events.getLast? = some last ∧ ret = (resultOf last).1 := by
  constructor
  · rw [axsWriteBytesReadBytes, if_neg (by omega), sendCmd, if_pos hcmd] at htrace
    obtain ⟨sent, rest, rfl, -⟩ := htrace
    exact ⟨sent, rest, rfl⟩
  · have hcall : (Primitive.axsWriteBytesReadBytes cmd data datalen).call.Trace events ret :=
      Prog.trace_map.mpr ⟨(ret, data'), htrace, rfl⟩
    obtain ⟨before, last, rfl, hret, -, -⟩ :=
      axsWriteBytesReadBytes_returnsLast ⟨hcmdSize, hdatalen⟩ hcall
    exact ⟨last, List.getLast?_concat, hret⟩

theorem length_receivedOf_lt (hbus : ∀ event ∈ events, StoresAtMost event)
    (htrace : (axsWriteBytesReadBytes cmd data datalen).Trace events (ret, data')) :
    (receivedOf events).length < axsCmdMaxReadBufLen := by
  obtain ⟨-, hempty⟩ := axsWriteBytesReadBytes_other [] htrace
  have hall : overwrite [] (receivedOf events) = receivedOf events := by
    rw [overwrite, List.drop_nil, List.append_nil]
  rw [hall] at hempty
  rcases filled_axsWriteBytesReadBytes hempty with hnone | ⟨length, got, received, hmem, hsome⟩
  · rw [hnone, axsCmdMaxReadBufLen]
    exact Nat.succ_pos _
  · have hlast : length < axsCmdMaxReadBufLen := leavesLast_axsWriteBytesReadBytes _ _ htrace _ hmem
    have hstores : received.length ≤ length := hbus _ hmem
    rw [hsome, overwrite, List.drop_nil, List.append_nil]
    exact lt_of_le_of_lt hstores hlast

end Received

/-! ### The text -/

section Text

variable {events : List (Event Bus)} {d d' : DebugBuffers} {reply : Reply} {rx : List UInt8}
  {length : Nat}

/-- What the text read returns on a buffer, given the transfers for the text. -/
def strReply (transfers : List (Event Bus)) (last : Event Bus) (rx : List UInt8) : Reply :=
  if (resultOf last).1 < 0 then .bare ePerm else printString (overwrite rx (receivedOf transfers))

theorem debugStrBlock_answer (htrace : (debugStrBlock d length).Trace events (d', reply)) :
    (events = [] ∧ reply = .bare ePerm) ∨
    (∃ sent rest, events = ⟨.i2cMasterSend (writeReg axsFregDebugStrRead), sent⟩ :: rest) ∧
      ∃ rx last, d.debugRxBuf = some rx ∧ events.getLast? = some last ∧
        reply = strReply events last rx ∧
        ((∀ event ∈ events, StoresAtMost event) → (receivedOf events).length < axsCmdMaxReadBufLen) ∧
        ∀ other rx', other.debugRxBuf = some rx' →
          ∃ other', (debugStrBlock other length).Trace events (other', strReply events last rx') := by
  rw [debugStrBlock] at htrace
  cases hrx : d.debugRxBuf with
  | none =>
      rw [hrx] at htrace
      obtain ⟨rfl, -, rfl⟩ := Prog.trace_pair.mp htrace
      exact .inl ⟨rfl, rfl⟩
  | some rx =>
      rw [hrx] at htrace
      obtain ⟨⟨ret, rx'⟩, left, right, rfl, hdata, hrest⟩ := Prog.trace_bind.mp htrace
      dsimp only at hrest
      by_cases hlength : length < axsCmdMaxReadBufLen
      · obtain ⟨hhead, last, hlast, rfl⟩ := axsWriteBytesReadBytes_ends (length_writeReg_pos _)
          (show 5 < 1024 by decide) hlength hdata
        obtain ⟨rfl, -⟩ := axsWriteBytesReadBytes_other [] hdata
        obtain ⟨rfl, rfl⟩ : right = [] ∧ reply = strReply left last rx := by
          rw [strReply]
          split at hrest
          · rename_i hfailed
            obtain ⟨rfl, -, rfl⟩ := Prog.trace_pair.mp hrest
            exact ⟨rfl, (if_pos hfailed).symm⟩
          · rename_i hread
            obtain ⟨rfl, -, rfl⟩ := Prog.trace_pair.mp hrest
            exact ⟨rfl, (if_neg hread).symm⟩
        rw [List.append_nil]
        refine .inr ⟨hhead, rx, last, rfl, hlast, rfl,
          fun hbus => length_receivedOf_lt hbus hdata, ?_⟩
        intro other rx' hother
        have hsame := (axsWriteBytesReadBytes_other rx' hdata).2
        rw [debugStrBlock, hother, strReply]
        refine ⟨{ other with debugRxBuf := some (overwrite rx' (receivedOf left)) },
          Prog.trace_bind.mpr ⟨_, left, [], (List.append_nil _).symm, hsame, ?_⟩⟩
        dsimp only
        split
        · exact ⟨rfl, rfl⟩
        · exact ⟨rfl, rfl⟩
      · rw [axsWriteBytesReadBytes_refused (not_lt.mp hlength)] at hdata
        obtain ⟨rfl, rfl, rfl⟩ := Prog.trace_pair.mp hdata
        rw [if_pos (show eInval < 0 by decide)] at hrest
        obtain ⟨rfl, -, rfl⟩ := Prog.trace_pair.mp hrest
        exact .inl ⟨rfl, rfl⟩

/-- A text read that gets to the text returns what is in the buffer after it, and is made in the same way on any other buffer; one that does not returns an error. -/
theorem axsDebugStrShow_answer (htrace : (axsDebugStrShow d).Trace events (d', reply)) :
    (strEvents events = [] ∧ reply = .bare ePerm) ∨
    ∃ rx last, d.debugRxBuf = some rx ∧ (strEvents events).getLast? = some last ∧
      reply = strReply (strEvents events) last rx ∧
      ((∀ event ∈ events, StoresAtMost event) →
        (receivedOf (strEvents events)).length < axsCmdMaxReadBufLen) ∧
      ∀ other rx', other.debugRxBuf = some rx' → ∃ other',
        (axsDebugStrShow other).Trace events (other', strReply (strEvents events) last rx') := by
  rw [axsDebugStrShow] at htrace
  obtain ⟨⟨ret, debugStrLen⟩, left, right, rfl, hlen, hrest⟩ := Prog.trace_bind.mp htrace
  have honly : (axsWriteBytesReadBytes (writeReg axsFregDebugLenRead) [0, 0] 2).Only
      fun op : BusOp => op ≠ .i2cMasterSend (writeReg axsFregDebugStrRead) :=
    only_axsWriteBytesReadBytes (by decide) (by decide)
  have hother : ∀ event ∈ left,
      decide (event.op ≠ .i2cMasterSend (writeReg axsFregDebugStrRead)) = true :=
    fun event hmem => decide_eq_true (honly _ _ hlen event hmem)
  have hskip : strEvents (left ++ right) = strEvents right := List.dropWhile_append_of_pos hother
  rw [hskip]
  dsimp only at hrest
  split at hrest
  · obtain ⟨rfl, -, rfl⟩ := Prog.trace_pair.mp hrest
    exact .inl ⟨rfl, rfl⟩
  · rename_i hret
    rcases debugStrBlock_answer hrest with
      ⟨rfl, hreply⟩ | ⟨⟨sent, rest, hhead⟩, rx, last, hrx, hlast, hreply, hlength, hothers⟩
    · exact .inl ⟨rfl, hreply⟩
    · have hall : strEvents right = right := by
        rw [hhead]
        exact List.dropWhile_cons_of_neg (by simp)
      rw [hall]
      refine .inr ⟨rx, last, hrx, hlast, hreply,
        fun hbus => hlength fun event hmem => hbus event (List.mem_append_right _ hmem), ?_⟩
      intro other rx' hrx'
      obtain ⟨other', hblock⟩ := hothers other rx' hrx'
      refine ⟨other', Prog.trace_bind.mpr ⟨_, left, right, rfl, hlen, ?_⟩⟩
      dsimp only
      rw [if_neg hret]
      exact hblock

theorem ofBuffer_append {received : List UInt8} (hzero : 0 ∉ received) (rest : List UInt8) :
    ofBuffer (received ++ rest) = received ++ ofBuffer rest := by
  have hall : received.takeWhile (fun byte => decide (byte ≠ 0)) = received := by
    rw [List.takeWhile_eq_self_iff]
    intro byte hmem
    have hbyte : byte ≠ 0 := fun hsame => hzero (hsame ▸ hmem)
    exact decide_eq_true hbyte
  rw [ofBuffer, List.takeWhile_append, hall, if_pos rfl]
  rfl

theorem ofBuffer_append_of_mem {received : List UInt8} (hzero : 0 ∈ received) (rest : List UInt8) :
    ofBuffer (received ++ rest) = ofBuffer received := by
  have hstop : (received.takeWhile fun byte => decide (byte ≠ 0)).length ≠ received.length := by
    intro hwhole
    have hall : ofBuffer received = received := (List.takeWhile_sublist _).eq_of_length hwhole
    rw [← hall] at hzero
    exact CString.zero_not_mem_ofBuffer received hzero
  rw [ofBuffer, List.takeWhile_append, if_neg hstop]
  rfl

theorem drop_last_zero (hlength : rx.length = 1024) (hlast : rx.getD 1023 0 = 0) :
    rx.drop 1023 = [0] := by
  have hindex : 1023 < rx.length := by omega
  rw [List.getD_eq_getElem _ _ hindex] at hlast
  rw [List.drop_eq_getElem_cons hindex, hlast, List.drop_eq_nil_of_le (by omega)]

/-- An answer that covers the text leaves nothing of the buffer in it. -/
theorem strReply_congr {transfers : List (Event Bus)} {last : Event Bus} {rx' : List UInt8}
    (hcovered : (resultOf last).1 < 0 ∨ 0 ∈ receivedOf transfers ∨
      (receivedOf transfers).length = 1023)
    (hrx : rx.length = 1024 ∧ rx.getD 1023 0 = 0)
    (hrx' : rx'.length = 1024 ∧ rx'.getD 1023 0 = 0) :
    strReply transfers last rx = strReply transfers last rx' := by
  rw [strReply, strReply]
  rcases hcovered with hfailed | hzero | hfull
  · rw [if_pos hfailed, if_pos hfailed]
  · rw [printString, printString, overwrite, overwrite, ofBuffer_append_of_mem hzero,
      ofBuffer_append_of_mem hzero]
  · rw [overwrite, overwrite, hfull, drop_last_zero hrx.1 hrx.2, drop_last_zero hrx'.1 hrx'.2]

theorem printString_text (hlength : (ofBuffer rx).length < 1024) :
    (printString rx).text = ofBuffer rx ++ newline := by
  have hempty : (Printed.empty pageSize).total = 0 := rfl
  have hnewline : newline.length = 1 := rfl
  have hfits : (Printed.empty pageSize).total + (ofBuffer rx ++ newline).length < pageSize := by
    rw [List.length_append, hempty, hnewline, pageSize]
    omega
  exact (Printed.snprintf_of_lt hfits).1

/-- A buffer full of letters. -/
def letters : List UInt8 := List.replicate 1023 0x41 ++ [0]

/-- An answer that does not cover the text is told apart on zeros and on letters. -/
theorem strReply_ne {transfers : List (Event Bus)} {last : Event Bus}
    (hread : ¬ (resultOf last).1 < 0) (hzero : 0 ∉ receivedOf transfers)
    (hshort : (receivedOf transfers).length < 1023) :
    (strReply transfers last (List.replicate 1024 0)).text ≠
      (strReply transfers last letters).text := by
  obtain ⟨left, hleft⟩ : ∃ left, 1023 - (receivedOf transfers).length = left + 1 :=
    ⟨_, (Nat.succ_pred (by omega)).symm⟩
  have hzeros : ofBuffer (overwrite (List.replicate 1024 0) (receivedOf transfers)) =
      receivedOf transfers ++ [] := by
    rw [overwrite, ofBuffer_append hzero, List.drop_replicate,
      show 1024 - (receivedOf transfers).length = left + 1 + 1 by omega]
    rfl
  have hletters : ofBuffer (overwrite letters (receivedOf transfers)) =
      receivedOf transfers ++ List.replicate (left + 1) 0x41 := by
    rw [overwrite, ofBuffer_append hzero, letters,
      List.drop_append_of_le_length (by rw [List.length_replicate]; omega), List.drop_replicate,
      hleft, ofBuffer_append (by simp)]
    simp [ofBuffer]
  rw [strReply, strReply, if_neg hread, if_neg hread, printString_text, printString_text, hzeros,
    hletters]
  · intro hsame
    exact absurd (List.append_cancel_left (List.append_cancel_right hsame)) (by simp)
  · rw [hletters, List.length_append, List.length_replicate]
    omega
  · rw [hzeros, List.append_nil]
    omega

end Text

/-! ### A register -/

section Register

variable {events : List (Event Bus)} {d d' : DebugBuffers} {rest tx rx : List UInt8}
  {around : Nat → UInt8} {ret : Nat}

/-- The store of an `r` command. -/
def storeR (rest : List UInt8) (around : Nat → UInt8) (d : DebugBuffers) :
    Prog Bus (DebugBuffers × Nat) :=
  axsTprwregStore (storeBuf (114 :: rest) around) (114 :: rest).length d

theorem storeR_refused (hrefused : (114 :: rest).length < 5 ∨ ¬ d.Allocated) :
    storeR rest around d = .ret (d, (114 :: rest).length) := by
  have hletter : storeBuf (114 :: rest) around 0 = 114 := rfl
  rw [storeR, axsTprwregStore]
  split
  · rfl
  · split
    · rename_i tx rx htx hrx
      have hallocated : d.Allocated := by
        rw [DebugBuffers.Allocated, htx, hrx]
        exact ⟨Option.some_ne_none tx, Option.some_ne_none rx⟩
      have hcount := hrefused.resolve_right (not_not.mpr hallocated)
      rw [tprwregCommand, hletter, if_neg (by decide), if_pos rfl, if_pos hcount]
      rfl
    · rfl

theorem askedFor_storeBuf (hlength : 5 ≤ (114 :: rest).length) :
    (hexToU8 (addressOf (storeBuf (114 :: rest) around) 3) 2).toNat = askedFor rest := by
  have hbyte : ∀ i < 2, addressOf (storeBuf (114 :: rest) around) 3 i =
      (114 :: rest).getD (3 + i) 0 := by
    intro i hi
    rw [addressOf, storeBuf_written (by omega)]
  have hvalue : hexToInt (addressOf (storeBuf (114 :: rest) around) 3) 2 =
      hexToInt (fun i => (114 :: rest).getD (3 + i) 0) 2 :=
    hexToInt_congr (hbyte 0 (by omega)) (hbyte 1 (by omega))
  rw [askedFor, hexToU8, hexToU8, hvalue]

/-- The bytes an `r` command sends first. -/
def commandBytes (rest : List UInt8) (around : Nat → UInt8) : List UInt8 :=
  hexBytes (addressOf (storeBuf (114 :: rest) around) 5)
    (hexToU8 (addressOf (storeBuf (114 :: rest) around) 1) 2).toNat

theorem length_commandBytes_lt : (commandBytes rest around).length < 256 := by
  rw [commandBytes, length_hexBytes]
  exact UInt8.toNat_lt _

theorem storeR_taken (hlength : 5 ≤ (114 :: rest).length) (htx : d.debugTxBuf = some tx)
    (hrx : d.debugRxBuf = some rx) :
    storeR rest around d =
      (axsWriteBytesReadBytes (commandBytes rest around) rx (askedFor rest) >>= fun read =>
        .ret { debugTxBuf := some (overwrite tx (commandBytes rest around))
               debugRxBuf := some read.2
               sRdLen := askedFor rest }) >>= fun d => .ret (d, (114 :: rest).length) := by
  have hletter : storeBuf (114 :: rest) around 0 = 114 := rfl
  have hwtLen := UInt8.toNat_lt (hexToU8 (addressOf (storeBuf (114 :: rest) around) 1) 2)
  have hrdLen := UInt8.toNat_lt (hexToU8 (addressOf (storeBuf (114 :: rest) around) 3) 2)
  have htake : (overwrite tx (commandBytes rest around)).take
      (hexToU8 (addressOf (storeBuf (114 :: rest) around) 1) 2).toNat = commandBytes rest around := by
    have hcommand := take_overwrite tx (commandBytes rest around)
    rwa [commandBytes, length_hexBytes] at hcommand
  rw [storeR, axsTprwregStore, if_neg (by omega), htx, hrx]
  dsimp only
  rw [tprwregCommand, hletter, if_neg (by decide), if_pos rfl, if_neg (by omega), tprwregRead]
  dsimp only
  rw [if_neg (by rw [axsCmdMaxWriteBufLen, axsCmdMaxReadBufLen]; omega),
    askedFor_storeBuf hlength, ← commandBytes, htake]
  rfl

theorem storeR_of_read {rx' : List UInt8} {sent : Int} (hlength : 5 ≤ (114 :: rest).length)
    (htx : d.debugTxBuf = some tx) (hrx : d.debugRxBuf = some rx)
    (hread : (axsWriteBytesReadBytes (commandBytes rest around) rx (askedFor rest)).Trace events
      (sent, rx')) :
    (storeR rest around d).Trace events
      (⟨some (overwrite tx (commandBytes rest around)), some rx', askedFor rest⟩,
        (114 :: rest).length) := by
  rw [storeR_taken hlength htx hrx, Prog.trace_map]
  exact ⟨_, Prog.trace_map.mpr ⟨_, hread, rfl⟩, rfl⟩

/-- The transfers of a command that is taken, and what it leaves; on other buffers it is the same. -/
theorem storeR_trace (hlength : 5 ≤ (114 :: rest).length) (htx : d.debugTxBuf = some tx)
    (hrx : d.debugRxBuf = some rx) (htrace : (storeR rest around d).Trace events (d', ret)) :
    events ≠ [] ∧ d'.debugRxBuf = some (overwrite rx (receivedOf events)) ∧
      d'.sRdLen = askedFor rest ∧
      ∀ other tx' rx', other.debugTxBuf = some tx' → other.debugRxBuf = some rx' →
        ∃ other', (storeR rest around other).Trace events (other', ret) ∧
          other'.debugRxBuf = some (overwrite rx' (receivedOf events)) ∧
          other'.sRdLen = askedFor rest := by
  rw [storeR_taken hlength htx hrx, Prog.trace_map] at htrace
  obtain ⟨_, hcommand, hd⟩ := htrace
  obtain ⟨rfl, rfl⟩ := Prod.mk.inj hd
  obtain ⟨⟨sent, rx'⟩, hread, rfl⟩ := Prog.trace_map.mp hcommand
  obtain ⟨rfl, -⟩ := axsWriteBytesReadBytes_other [] hread
  have hcommandSize := @length_commandBytes_lt rest around
  refine ⟨?_, rfl, rfl, ?_⟩
  · have hdone := @axsWriteBytesReadBytes_events _ _ _ _ _ _
      (show (commandBytes rest around).length < axsCmdMaxWriteBufLen by
        rw [axsCmdMaxWriteBufLen]
        omega) hread
    exact hdone.ne_nil
  · intro other tx' rx' htx' hrx'
    have hother := (axsWriteBytesReadBytes_other rx' hread).2
    exact ⟨_, storeR_of_read hlength htx' hrx' hother, rfl, rfl⟩

theorem showEntries_congr {rx' : List UInt8} {rdLen : Nat}
    (hsame : ∀ i < rdLen, rx.getD i 0 = rx'.getD i 0) : showEntries rx rdLen = showEntries rx' rdLen := by
  have hentries : (List.range rdLen).map (fun i => entryText (rx.getD i 0)) =
      (List.range rdLen).map fun i => entryText (rx'.getD i 0) := by
    apply List.map_congr_left
    intro i hmem
    rw [hsame i (List.mem_range.mp hmem)]
  rw [showEntries, showEntries, hentries]

theorem showEntries_text {rdLen : Nat} (hrdLen : rdLen < 256) :
    (showEntries rx rdLen).text =
      ((List.range rdLen).map (fun i => entryText (rx.getD i 0)) ++ [newline]).flatten := by
  have hlength : (Printed.empty pageSize).total +
      ((List.range rdLen).map (fun i => entryText (rx.getD i 0)) ++ [newline]).flatten.length <
        pageSize := by
    have hempty : (Printed.empty pageSize).total = 0 := rfl
    rw [hempty, length_row (fun i => rx.getD i 0) (List.range rdLen), List.length_range, pageSize]
    omega
  have hprinted := (Printed.printAll_of_lt hlength).1
  rw [Printed.printAll_append] at hprinted
  exact hprinted

theorem showEntries_ne {rx' : List UInt8} {rdLen i : Nat} (hrdLen : rdLen < 256) (hi : i < rdLen)
    (hentry : entryText (rx.getD i 0) ≠ entryText (rx'.getD i 0)) :
    (showEntries rx rdLen).text ≠ (showEntries rx' rdLen).text := by
  intro hsame
  rw [showEntries_text hrdLen, showEntries_text hrdLen] at hsame
  have hlists := List.eq_iff_flatten_eq.mpr ⟨hsame, by
    rw [List.map_append, List.map_append, List.map_map, List.map_map]
    rfl⟩
  have hentries := List.append_cancel_right hlists
  exact hentry (List.map_inj_left.mp hentries i (List.mem_range.mpr hi))

end Register

/-! ### Two histories -/

theorem reachable_fresh : Reachable .fresh := ⟨.fresh, [], DebugFiles.created_fresh, .nil _⟩

theorem Reachable.terminated {files : DebugFiles} (hreachable : Reachable files) :
    Terminated files := by
  obtain ⟨created, steps, hcreated, hrun⟩ := hreachable
  exact terminated_of_run hrun hcreated

theorem Reachable.step {files files' : DebugFiles} {step : FileStep} (hreachable : Reachable files)
    (hserved : Served files step files') : Reachable files' := by
  obtain ⟨created, steps, hcreated, hrun⟩ := hreachable
  exact ⟨created, steps ++ [step], hcreated, hrun.append (Run.single hserved)⟩

/-- Where a buffer is missing, no length was ever left behind. -/
def Unread (files : DebugFiles) : Prop := files.buffers.Allocated ∨ files.buffers.sRdLen = 0

theorem allocated_of_rxFilled {events : List (Event Bus)} {d d' : DebugBuffers}
    (hfilled : RxFilled events d.debugRxBuf d'.debugRxBuf)
    (htx : d.debugTxBuf ≠ none → d'.debugTxBuf ≠ none) (hallocated : d.Allocated) :
    d'.Allocated := by
  refine ⟨htx hallocated.1, ?_⟩
  obtain ⟨rx, hrx⟩ := Option.ne_none_iff_exists'.mp hallocated.2
  rw [hrx] at hfilled
  obtain ⟨rx', hrx', -⟩ := hfilled
  rw [hrx']
  exact Option.some_ne_none rx'

theorem axsTprwregStore_tx {buf : Nat → UInt8} {count ret : Nat} {events : List (Event Bus)}
    {d d' : DebugBuffers} (htrace : (axsTprwregStore buf count d).Trace events (d', ret))
    (htx : d.debugTxBuf ≠ none) : d'.debugTxBuf ≠ none := by
  rcases axsTprwregStore_trace htrace with
    ⟨-, -, rfl⟩ | ⟨-, -, -, tx, -, hwrite⟩ | ⟨-, -, -, tx, rx, hread⟩
  · exact htx
  · rw [tprwregWrite] at hwrite
    dsimp only at hwrite
    split at hwrite
    · obtain ⟨-, rfl⟩ := hwrite
      exact htx
    · obtain ⟨_, -, rfl⟩ := Prog.trace_map.mp hwrite
      exact Option.some_ne_none _
  · rw [tprwregRead] at hread
    dsimp only at hread
    split at hread
    · obtain ⟨-, rfl⟩ := hread
      exact htx
    · obtain ⟨_, -, rfl⟩ := Prog.trace_map.mp hread
      exact Option.some_ne_none _

theorem run_keeps {events : List (Event Bus)} {files files' : DebugFiles} {reply : Reply}
    {call : FileCall} (htrace : (call.run files).Trace events (files', reply)) :
    (files.buffers.debugTxBuf ≠ none → files'.buffers.debugTxBuf ≠ none) ∧
      (files.buffers.Allocated ∨ files'.buffers.sRdLen = files.buffers.sRdLen ∨
        files'.buffers.sRdLen = 0) := by
  cases call with
  | tprwregShow =>
      obtain ⟨-, rfl, -⟩ := Prog.trace_pair.mp htrace
      exact ⟨id, .inr (.inr rfl)⟩
  | tprwregStore written around =>
      obtain ⟨stored, hstore, hfiles⟩ := Prog.trace_map.mp htrace
      obtain ⟨rfl, -⟩ := Prod.mk.inj hfiles
      obtain ⟨d', ret⟩ := stored
      refine ⟨axsTprwregStore_tx hstore, ?_⟩
      rcases axsTprwregStore_trace hstore with ⟨-, -, hsame⟩ | ⟨hallocated, -⟩ | ⟨hallocated, -⟩
      · exact .inr (.inl (congrArg DebugBuffers.sRdLen hsame))
      · exact .inl hallocated
      · exact .inl hallocated
  | debugStrShow =>
      obtain ⟨shown, hshow, hfiles⟩ := Prog.trace_map.mp htrace
      obtain ⟨rfl, -⟩ := Prod.mk.inj hfiles
      obtain ⟨htx, hrdLen⟩ := (axsDebugStrShow_trace hshow).2.1
      exact ⟨fun hsome => htx.symm ▸ hsome, .inr (.inl hrdLen)⟩
  | dumpShow file around =>
      obtain ⟨shown, hshow, hfiles⟩ := Prog.trace_map.mp htrace
      obtain ⟨rfl, -⟩ := Prod.mk.inj hfiles
      obtain ⟨htx, hrdLen⟩ := (show_stored hshow).2
      exact ⟨fun hsome => htx.symm ▸ hsome, .inr (.inl hrdLen)⟩
  | procWrite buff uncopied =>
      obtain ⟨-, hrdLen, htx⟩ := axsProcWrite_stored htrace
      exact ⟨htx, .inr (.inl hrdLen)⟩
  | procRead count uncopied =>
      obtain ⟨htx, hrdLen⟩ := (axsProcRead_stored htrace).2
      exact ⟨fun hsome => htx.symm ▸ hsome, .inr (.inl hrdLen)⟩
  | other ret =>
      obtain ⟨-, rfl, -⟩ := Prog.trace_pair.mp htrace
      exact ⟨id, .inr (.inl rfl)⟩

theorem Created.unread {files : DebugFiles} (hcreated : Created files) : Unread files :=
  .inr hcreated.2.2.1

theorem Served.unread {before after : DebugFiles} {step : FileStep} (hbefore : Unread before)
    (hserved : Served before step after) : Unread after := by
  obtain ⟨htx, hrdLen⟩ := run_keeps hserved.1
  have hkept := allocated_of_rxFilled hserved.rxFilled htx
  rcases hbefore with hallocated | hzero
  · exact .inl (hkept hallocated)
  · rcases hrdLen with hallocated | hsame | hread
    · exact .inl (hkept hallocated)
    · exact .inr (hsame.trans hzero)
    · exact .inr hread

theorem Reachable.unread {files : DebugFiles} (hreachable : Reachable files) : Unread files := by
  obtain ⟨created, steps, hcreated, hrun⟩ := hreachable
  exact hrun.invariant (fun _ _ _ hbefore hserved => hserved.unread hbefore) hcreated.unread

/-- The proc file in its read mode. -/
def readMode : DebugFiles where
  buffers := { DebugBuffers.fresh with
    debugTxBuf := some (overwrite (List.replicate 1024 0) [114, 9]) }
  procOpmode := 114

/-- 1023 letters were read from the proc file. -/
def lettered : DebugFiles where
  buffers := { readMode.buffers with debugRxBuf := some letters }
  procOpmode := 114

theorem reachable_readMode : Reachable readMode := by
  have htrace : (axsProcWrite [114, 9] 0 .fresh).Trace [Sent [9]] (readMode, .bare 2) :=
    ⟨(1 : Int), [], rfl, rfl, rfl⟩
  have hserved : Served .fresh ⟨.procWrite [114, 9] 0, [Sent [9]], .bare 2⟩ readMode :=
    ⟨htrace, List.forall_mem_singleton.mpr trivial⟩
  exact reachable_fresh.step hserved

theorem reachable_lettered : Reachable lettered := by
  have hletters : overwrite (List.replicate 1024 0) (List.replicate 1023 0x41) = letters := by
    rw [overwrite, List.length_replicate, List.drop_replicate]
    rfl
  have hread : (axsReadBytes (List.replicate 1024 0) 1023).Trace
      [⟨.i2cMasterRecv 1023, ((1023 : Int), List.replicate 1023 0x41)⟩] (1023, letters) := by
    rw [axsReadBytes, if_neg (by decide), ← hletters]
    exact ⟨(1023, List.replicate 1023 0x41), [], rfl, rfl, rfl⟩
  have htrace : (axsProcRead 1023 1 readMode).Trace
      [⟨.i2cMasterRecv 1023, ((1023 : Int), List.replicate 1023 0x41)⟩] (lettered, .bare eFault) :=
    Prog.trace_bind.mpr ⟨(1023, letters), _, [], rfl, hread, rfl, rfl⟩
  have hserved : Served readMode
      ⟨.procRead 1023 1, [⟨.i2cMasterRecv 1023, ((1023 : Int), List.replicate 1023 0x41)⟩],
        .bare eFault⟩ lettered :=
    ⟨htrace, List.forall_mem_singleton.mpr List.length_replicate.le⟩
  exact reachable_readMode.step hserved

/-- A register of one byte was asked for, and is not read yet. -/
def remembered : DebugFiles where
  buffers :=
    { debugTxBuf := some (overwrite (List.replicate 1024 0) [])
      debugRxBuf := some (overwrite (List.replicate 1024 0) [0x41])
      sRdLen := 1 }
  procOpmode := 0

theorem storeR_one {received : List UInt8} {ret : Int} :
    (storeR [48, 48, 48, 49] (fun _ => 0) .fresh).Trace
      [⟨.i2cMasterRecv 1, (ret, received)⟩]
      (⟨some (overwrite (List.replicate 1024 0) []),
        some (overwrite (List.replicate 1024 0) received), 1⟩, 5) := by
  have hcommand : commandBytes [48, 48, 48, 49] (fun _ => 0) = [] := by decide
  have hasked : askedFor [48, 48, 48, 49] = 1 := by decide
  have hread : (axsWriteBytesReadBytes [] (List.replicate 1024 0) 1).Trace
      [⟨.i2cMasterRecv 1, (ret, received)⟩]
      (ret, overwrite (List.replicate 1024 0) received) := by
    rw [axsWriteBytesReadBytes, if_neg (by decide)]
    exact ⟨(ret, received), [], rfl, rfl, rfl⟩
  have hstore := @storeR_of_read [⟨.i2cMasterRecv 1, (ret, received)⟩] .fresh [48, 48, 48, 49]
    (List.replicate 1024 0) (List.replicate 1024 0) (fun _ => 0)
    (overwrite (List.replicate 1024 0) received) ret (by decide) rfl rfl
  rw [hcommand, hasked] at hstore
  exact hstore hread

theorem reachable_remembered : Reachable remembered := by
  have htrace : ((FileCall.tprwregStore [114, 48, 48, 48, 49] fun _ => 0).run .fresh).Trace
      [⟨.i2cMasterRecv 1, ((1 : Int), [0x41])⟩] (remembered, .bare 5) :=
    Prog.trace_map.mpr ⟨_, storeR_one, rfl⟩
  have hserved : Served .fresh ⟨.tprwregStore [114, 48, 48, 48, 49] fun _ => 0,
      [⟨.i2cMasterRecv 1, ((1 : Int), [0x41])⟩], .bare 5⟩ remembered :=
    ⟨htrace, List.forall_mem_singleton.mpr le_rfl⟩
  exact reachable_fresh.step hserved

/-! ### The answer of a register -/

/-- So many bytes of the buffer, printed. -/
def entriesAnswer (rx : List UInt8) (rdLen : Nat) : Answer where
  ret := (showEntries rx rdLen).total
  text := (showEntries rx rdLen).text

theorem entriesAnswer_congr {rx rx' : List UInt8} {rdLen : Nat}
    (hsame : ∀ i < rdLen, rx.getD i 0 = rx'.getD i 0) :
    entriesAnswer rx rdLen = entriesAnswer rx' rdLen := by
  rw [entriesAnswer, entriesAnswer, showEntries_congr hsame]

theorem entriesAnswer_zero (rx rx' : List UInt8) : entriesAnswer rx 0 = entriesAnswer rx' 0 :=
  entriesAnswer_congr fun _ hi => absurd hi (Nat.not_lt_zero _)

theorem length_entriesAnswer {rx : List UInt8} {rdLen : Nat} (hrdLen : rdLen < 256) :
    (entriesAnswer rx rdLen).text.length = 5 * rdLen + 1 := by
  rw [entriesAnswer, showEntries_text hrdLen, length_row (fun i => rx.getD i 0) (List.range rdLen),
    List.length_range]

theorem getD_overwrite_length (data received : List UInt8) :
    (overwrite data received).getD received.length 0 = data.getD received.length 0 := by
  rw [overwrite, List.getD_append_right _ _ _ _ le_rfl, Nat.sub_self, List.getD_eq_getElem?_getD,
    List.getElem?_drop, Nat.add_zero, ← List.getD_eq_getElem?_getD]

theorem getD_letters {i : Nat} (hi : i < 1023) : letters.getD i 0 = 0x41 := by
  rw [letters, List.getD_append _ _ _ _ (by rw [List.length_replicate]; exact hi),
    List.getD_replicate _ hi]

section RwReg

variable {rest : List UInt8} {around : Nat → UInt8} {files : DebugFiles} {events : List (Event Bus)}
  {answer : Answer}

theorem run_rwReg_refused (hrefused : (114 :: rest).length < 5 ∨ ¬ files.buffers.Allocated) :
    ((DebugRead.rwReg rest).run around files).Trace events answer ↔
      events = [] ∧
        answer = entriesAnswer (files.buffers.debugRxBuf.getD []) files.buffers.sRdLen := by
  have hret : (DebugRead.rwReg rest).run around files =
      .ret (axsTprwregShow files.buffers).2.answer := by
    change (storeR rest around files.buffers >>= fun stored =>
      (.ret (axsTprwregShow stored.1).2.answer : Prog Bus Answer)) = _
    rw [storeR_refused hrefused]
    rfl
  rw [hret]
  rfl

theorem run_rwReg_taken (hlength : 5 ≤ (114 :: rest).length) (hallocated : files.buffers.Allocated)
    (htrace : ((DebugRead.rwReg rest).run around files).Trace events answer) :
    events ≠ [] ∧
      (∃ rx, files.buffers.debugRxBuf = some rx ∧
        answer = entriesAnswer (overwrite rx (receivedOf events)) (askedFor rest)) ∧
      ∀ (other : DebugFiles) tx' rx', other.buffers.debugTxBuf = some tx' →
        other.buffers.debugRxBuf = some rx' →
        ((DebugRead.rwReg rest).run around other).Trace events
          (entriesAnswer (overwrite rx' (receivedOf events)) (askedFor rest)) := by
  obtain ⟨tx, htx⟩ := Option.ne_none_iff_exists'.mp hallocated.1
  obtain ⟨rx, hrx⟩ := Option.ne_none_iff_exists'.mp hallocated.2
  obtain ⟨⟨d', ret⟩, hstore, rfl⟩ := Prog.trace_map.mp htrace
  obtain ⟨hne, hrx', hrdLen, hothers⟩ := storeR_trace hlength htx hrx hstore
  refine ⟨hne, ⟨rx, hrx, ?_⟩, ?_⟩
  · change entriesAnswer (d'.debugRxBuf.getD []) d'.sRdLen = _
    rw [hrx', hrdLen]
    rfl
  · intro other tx' rx' htx' hrx'
    obtain ⟨other', hstore', hbuf, hrdLen'⟩ := hothers other.buffers tx' rx' htx' hrx'
    refine Prog.trace_map.mpr ⟨(other', ret), hstore', ?_⟩
    change entriesAnswer _ _ = entriesAnswer (other'.debugRxBuf.getD []) other'.sRdLen
    rw [hbuf, hrdLen']
    rfl

end RwReg

/-! ### When the answer shows nothing else -/

/-- Whatever was done with the files before, a read with these transfers gives one text. -/
def SameText (read : DebugRead) (events : List (Event Bus)) : Prop :=
  ∀ around around' files files' answer answer', Reachable files → Reachable files' →
    (read.run around files).Trace events answer → (read.run around' files').Trace events answer' →
    answer.text = answer'.text

/-- The transfers are those of such a read, at the end of some history. -/
def Made (read : DebugRead) (events : List (Event Bus)) : Prop :=
  (∀ event ∈ events, StoresAtMost event) ∧
    ∃ around files answer, Reachable files ∧ (read.run around files).Trace events answer

section Same

variable {rest : List UInt8} {events : List (Event Bus)} {around : Nat → UInt8}
  {files : DebugFiles} {answer : Answer}

theorem sameText_debugStr (hcovered : DebugRead.Covered .debugStr events) :
    SameText .debugStr events := by
  intro around around' files files' answer answer' hfiles hfiles' htrace htrace'
  obtain ⟨⟨d, reply⟩, hshow, rfl⟩ := Prog.trace_map.mp htrace
  obtain ⟨⟨d', reply'⟩, hshow', rfl⟩ := Prog.trace_map.mp htrace'
  rcases axsDebugStrShow_answer hshow with
    ⟨hnone, hreply⟩ | ⟨rx, last, hrx, hlast, hreply, -⟩
  · rcases axsDebugStrShow_answer hshow' with ⟨-, hreply'⟩ | ⟨rx', last', -, hlast', -⟩
    · rw [hreply, hreply']
    · rw [hnone] at hlast'
      cases hlast'
  · rcases axsDebugStrShow_answer hshow' with
      ⟨hnone, -⟩ | ⟨rx', last', hrx', hlast', hreply', -⟩
    · rw [hnone] at hlast
      cases hlast
    · obtain rfl := Option.some.inj (hlast.symm.trans hlast')
      rw [hreply, hreply', strReply_congr (hcovered last hlast) (hfiles.terminated rx hrx)
        (hfiles'.terminated rx' hrx')]

theorem covered_debugStr (hmade : Made .debugStr events) (hsame : SameText .debugStr events) :
    DebugRead.Covered .debugStr events := by
  intro last hlast
  obtain ⟨hbus, around, files, answer, -, htrace⟩ := hmade
  obtain ⟨⟨d, reply⟩, hshow, rfl⟩ := Prog.trace_map.mp htrace
  rcases axsDebugStrShow_answer hshow with
    ⟨hnone, -⟩ | ⟨rx, last', -, hlast', -, hlength, hothers⟩
  · rw [hnone] at hlast
    cases hlast
  · obtain rfl := Option.some.inj (hlast.symm.trans hlast')
    by_contra huncovered
    obtain ⟨hread, huncovered⟩ := not_or.mp huncovered
    obtain ⟨hzero, hfull⟩ := not_or.mp huncovered
    have hshort : (receivedOf (strEvents events)).length < 1023 := by
      have hlt := hlength hbus
      rw [axsCmdMaxReadBufLen] at hlt
      omega
    obtain ⟨zeros', hzeros⟩ := hothers DebugFiles.fresh.buffers _ rfl
    obtain ⟨letters', hletters⟩ := hothers lettered.buffers _ rfl
    have hanswers := hsame around around .fresh lettered _ _ reachable_fresh reachable_lettered
      (Prog.trace_map.mpr ⟨_, hzeros, rfl⟩) (Prog.trace_map.mpr ⟨_, hletters, rfl⟩)
    exact strReply_ne hread hzero hshort hanswers

theorem sameText_rwReg (hcovered : (DebugRead.rwReg rest).Covered events) :
    SameText (.rwReg rest) events := by
  obtain ⟨hlength, hcovered⟩ := hcovered
  intro around around' files files' answer answer' hfiles hfiles' htrace htrace'
  by_cases hallocated : files.buffers.Allocated
  · obtain ⟨hne, ⟨rx, hrx, rfl⟩, -⟩ := run_rwReg_taken hlength hallocated htrace
    by_cases hallocated' : files'.buffers.Allocated
    · obtain ⟨-, ⟨rx', hrx', rfl⟩, -⟩ := run_rwReg_taken hlength hallocated' htrace'
      have hreceived := hcovered.resolve_left hne
      apply congrArg Answer.text
      apply entriesAnswer_congr
      intro i hi
      rw [overwrite, overwrite, List.getD_append _ _ _ _ (by omega),
        List.getD_append _ _ _ _ (by omega)]
    · exact absurd ((run_rwReg_refused (.inr hallocated')).mp htrace').1 hne
  · obtain ⟨rfl, rfl⟩ := (run_rwReg_refused (.inr hallocated)).mp htrace
    have hrdLen := hfiles.unread.resolve_left hallocated
    have hallocated' : ¬ files'.buffers.Allocated := fun hgiven =>
      (run_rwReg_taken hlength hgiven htrace').1 rfl
    obtain ⟨-, rfl⟩ := (run_rwReg_refused (.inr hallocated')).mp htrace'
    rw [hrdLen, hfiles'.unread.resolve_left hallocated']
    exact congrArg Answer.text (entriesAnswer_zero _ _)

theorem covered_rwReg (hmade : Made (.rwReg rest) events)
    (hsame : SameText (.rwReg rest) events) : (DebugRead.rwReg rest).Covered events := by
  obtain ⟨-, around, files, answer, -, htrace⟩ := hmade
  by_cases hlength : 5 ≤ (114 :: rest).length
  · refine ⟨hlength, ?_⟩
    by_cases hallocated : files.buffers.Allocated
    · obtain ⟨-, -, hothers⟩ := run_rwReg_taken hlength hallocated htrace
      by_contra huncovered
      obtain ⟨-, hshort⟩ := not_or.mp huncovered
      have hshort := not_le.mp hshort
      have hasked : askedFor rest < 256 := UInt8.toNat_lt _
      have hanswers := hsame around around .fresh lettered _ _ reachable_fresh reachable_lettered
        (hothers .fresh _ _ rfl rfl) (hothers lettered _ _ rfl rfl)
      refine showEntries_ne hasked hshort ?_ hanswers
      rw [getD_overwrite_length, getD_overwrite_length, getD_letters (by omega),
        List.getD_replicate _ (by omega)]
      decide
    · exact .inl ((run_rwReg_refused (.inr hallocated)).mp htrace).1
  · have hrefused := not_le.mp hlength
    obtain ⟨rfl, -⟩ : events = [] ∧ _ := by
      by_cases hallocated : files.buffers.Allocated
      · exact (run_rwReg_refused (.inl hrefused)).mp htrace
      · exact (run_rwReg_refused (.inr hallocated)).mp htrace
    have hanswers := hsame around around .fresh remembered _ _ reachable_fresh reachable_remembered
      ((run_rwReg_refused (.inl hrefused)).mpr ⟨rfl, rfl⟩)
      ((run_rwReg_refused (.inl hrefused)).mpr ⟨rfl, rfl⟩)
    have htexts := congrArg List.length hanswers
    rw [length_entriesAnswer (by decide), length_entriesAnswer (by decide)] at htexts
    exact absurd htexts (by decide)

/-- A read gives one text whatever was done before, exactly where what is received covers what is printed. -/
theorem same_text_iff_covered {read : DebugRead} (hmade : Made read events) :
    SameText read events ↔ read.Covered events := by
  cases read with
  | debugStr => exact ⟨covered_debugStr hmade, sameText_debugStr⟩
  | rwReg rest => exact ⟨covered_rwReg hmade, sameText_rwReg⟩

end Same

theorem made_one {received : List UInt8} {ret : Int} (hreceived : received.length ≤ 1) :
    Made (.rwReg [48, 48, 48, 49]) [⟨.i2cMasterRecv 1, (ret, received)⟩] :=
  ⟨List.forall_mem_singleton.mpr hreceived, fun _ => 0, .fresh, _, reachable_fresh,
    Prog.trace_map.mpr ⟨_, storeR_one, rfl⟩⟩

/-- The byte asked for is received. -/
theorem same_text_iff_covered_one :
    SameText (.rwReg [48, 48, 48, 49]) [⟨.i2cMasterRecv 1, ((1 : Int), [0x41])⟩] :=
  (same_text_iff_covered (made_one le_rfl)).mpr ⟨by decide, .inr (by decide)⟩

/-- The transfer fails, and a byte of an earlier one is printed. -/
theorem not_sameText_of_failed :
    Made (.rwReg [48, 48, 48, 49]) [⟨.i2cMasterRecv 1, ((-121 : Int), [])⟩] ∧
      ¬ SameText (.rwReg [48, 48, 48, 49]) [⟨.i2cMasterRecv 1, ((-121 : Int), [])⟩] := by
  have hmade : Made (.rwReg [48, 48, 48, 49]) [⟨.i2cMasterRecv 1, ((-121 : Int), [])⟩] :=
    made_one (Nat.zero_le 1)
  refine ⟨hmade, fun hsame => ?_⟩
  obtain ⟨-, hnone | hreceived⟩ := covered_rwReg hmade hsame
  · cases hnone
  · exact absurd hreceived (by decide)

end FrontPanel.Touch
