import FrontPanel.Lib.CString
import FrontPanel.Lib.Hex
import FrontPanel.Touch.Bus
import Mathlib.Data.List.GetD

/-!
# The register debug file

`axs_tprwreg_store`, which serves a write to `axs_rw_reg`, and the grammar of the comment above it: `w`, a length and so many bytes to send, or `r`, two lengths, and the bytes to send before so many bytes are read back, all in hexadecimal. The writes that follow the grammar are told apart from those that do not, and the code serves more of them than the grammar has: a bad digit decodes to the low byte of `-EINVAL`, letters go on to `z`, and the length in the text is never held against the length of the text.

The kernel puts a NUL behind what was written, and what is in memory behind that is anyone's. The sysfs files are made before the two debug buffers are allocated and stay when that fails, so either buffer may be missing. A length in the text is a byte, so it is inside the buffers.
-/

namespace FrontPanel.Touch

open FrontPanel.CString (ascii)

/-! ### The code -/

/-- `debug_tx_buf`, `debug_rx_buf` and `s_rd_len`. -/
structure DebugBuffers where
  debugTxBuf : Option (List UInt8)
  debugRxBuf : Option (List UInt8)
  sRdLen : Nat

/-- The memory a store is given: what was written, its NUL, and whatever is around. -/
def storeBuf (written : List UInt8) (around : Nat → UInt8) (i : Nat) : UInt8 :=
  (written ++ [0]).getD i (around i)

/-- `&buf[offset]` -/
def addressOf (buf : Nat → UInt8) (offset i : Nat) : UInt8 := buf (offset + i)

def hexDigitValue (single : UInt8) : Option Int :=
  if 48 ≤ single ∧ single ≤ 57 then some (single.toNat - 48)
  else if 97 ≤ single ∧ single ≤ 122 then some (single.toNat - 97 + 10)
  else if 65 ≤ single ∧ single ≤ 90 then some (single.toNat - 65 + 10)
  else none

/-- The loop of `hex_to_int`, from the last of the characters left to the first. -/
def hexToIntLoop (hexBuf : Nat → UInt8) (base value : Int) : Nat → Int
  | 0 => value
  | i + 1 =>
      match hexDigitValue (hexBuf i) with
      | some digit => hexToIntLoop hexBuf (base * 16) (value + digit * base) i
      | none => eInval

def hexToInt (hexBuf : Nat → UInt8) (size : Nat) : Int := hexToIntLoop hexBuf 1 0 size

/-- `(u8)` of an `int` -/
def toU8 (value : Int) : UInt8 := UInt8.ofNat (value % 256).toNat

def hexToU8 (hexBuf : Nat → UInt8) (size : Nat) : UInt8 := toU8 (hexToInt hexBuf size)

/-- What the loop over `wt_len` stores in `debug_tx_buf`. -/
def hexBytes (hexBuf : Nat → UInt8) (wtLen : Nat) : List UInt8 :=
  (List.range wtLen).map fun i => toU8 (hexToInt (addressOf hexBuf (i * 2)) 2)

def tprwregRead (buf : Nat → UInt8) (tx rx : List UInt8) (d : DebugBuffers) :
    Prog Bus DebugBuffers := do
  let wtLen := (hexToU8 (addressOf buf 1) 2).toNat
  let rdLen := (hexToU8 (addressOf buf 3) 2).toNat
  if axsCmdMaxWriteBufLen < wtLen ∨ axsCmdMaxReadBufLen < rdLen then return d
  let tx := overwrite tx (hexBytes (addressOf buf 5) wtLen)
  let (_, rx) ← axsWriteBytesReadBytes (tx.take wtLen) rx rdLen
  return { debugTxBuf := some tx, debugRxBuf := some rx, sRdLen := rdLen }

def tprwregWrite (buf : Nat → UInt8) (tx : List UInt8) (d : DebugBuffers) :
    Prog Bus DebugBuffers := do
  let wtLen := (hexToU8 (addressOf buf 1) 2).toNat
  if axsCmdMaxWriteBufLen < wtLen then return d
  let tx := overwrite tx (hexBytes (addressOf buf 3) wtLen)
  let _ ← axsWriteBytes (tx.take wtLen)
  return { d with debugTxBuf := some tx, sRdLen := 0 }

/-- A store that gets as far as the buffers; it returns `count` whatever happens. -/
def tprwregCommand (buf : Nat → UInt8) (count : Nat) (tx rx : List UInt8) (d : DebugBuffers) :
    Prog Bus DebugBuffers :=
  if buf 0 = 119 then tprwregWrite buf tx d
  else if buf 0 = 114 then
    if count < 5 then pure d else tprwregRead buf tx rx d
  else pure d

def axsTprwregStore (buf : Nat → UInt8) (count : Nat) (d : DebugBuffers) :
    Prog Bus (DebugBuffers × Nat) := do
  if count < 3 then return (d, count)
  match d.debugTxBuf, d.debugRxBuf with
  | some tx, some rx =>
      let d ← tprwregCommand buf count tx rx d
      return (d, count)
  | _, _ => return (d, count)

/-! ### The grammar -/

inductive Request
  | write (bytes : List UInt8)
  | read (bytes : List UInt8) (rdLen : UInt8)
  deriving DecidableEq

/-- Exactly `len` bytes in hexadecimal. -/
def bytesOf (len : UInt8) (text : List UInt8) : Option (List UInt8) :=
  (Hex.pairs text).filter fun bytes => bytes.length = len.toNat

def requestOf : List UInt8 → Option Request
  | 119 :: high :: low :: text => do
      let len ← Hex.pair high low
      let bytes ← bytesOf len text
      if len = 0 then none else some (.write bytes)
  | 114 :: high :: low :: rdHigh :: rdLow :: text => do
      let len ← Hex.pair high low
      let rdLen ← Hex.pair rdHigh rdLow
      let bytes ← bytesOf len text
      some (.read bytes rdLen)
  | _ => none

/-- What was written, without one final newline. -/
def lineOf (written : List UInt8) : List UInt8 :=
  if written.getLast? = some 10 then written.dropLast else written

/-- The transfers of a request: its bytes are sent, and a read asks for its bytes once they are through, or at once when there are none. -/
def Request.Done : Request → List (Event Bus) → Prop
  | .write bytes, events => ∃ ret, events = [⟨.i2cMasterSend bytes, ret⟩]
  | .read bytes rdLen, events =>
      (bytes ≠ [] ∧ ∃ ret : Int, ret ≠ bytes.length ∧ events = [⟨.i2cMasterSend bytes, ret⟩]) ∨
      (bytes ≠ [] ∧ ∃ answer, events = [Sent bytes, ⟨.i2cMasterRecv rdLen.toNat, answer⟩]) ∨
      (bytes = [] ∧ ∃ answer, events = [⟨.i2cMasterRecv rdLen.toNat, answer⟩])

/-- A write that is a request is done; any other makes no transfer and leaves `debug_tx_buf` and `s_rd_len` as they were. -/
def FollowsGrammar (written : List UInt8) (d : DebugBuffers) (events : List (Event Bus))
    (d' : DebugBuffers) : Prop :=
  match requestOf (lineOf written) with
  | some request => request.Done events
  | none => events = [] ∧ d'.debugTxBuf = d.debugTxBuf ∧ d'.sRdLen = d.sRdLen

example : requestOf (ascii "r010209") = some (.read [0x09] 2) := by decide

/-! ### What a store transfers -/

section Transfers

variable {buf : Nat → UInt8} {tx rx : List UInt8} {d d' : DebugBuffers} {events : List (Event Bus)}
  {writebuf cmd data data' : List UInt8} {ret : Int} {rdLen : UInt8}

@[simp] theorem length_hexBytes (hexBuf : Nat → UInt8) (wtLen : Nat) :
    (hexBytes hexBuf wtLen).length = wtLen := by
  rw [hexBytes, List.length_map, List.length_range]

theorem take_overwrite (data received : List UInt8) :
    (overwrite data received).take received.length = received := by
  rw [overwrite, List.take_left]

theorem axsWriteBytes_events (hlength : writebuf.length < axsCmdMaxWriteBufLen)
    (htrace : (axsWriteBytes writebuf).Trace events ret) :
    (writebuf = [] ∧ events = []) ∨
    (writebuf ≠ [] ∧ ∃ ret, events = [⟨.i2cMasterSend writebuf, ret⟩]) := by
  rw [axsWriteBytes] at htrace
  split at htrace
  · rename_i hrefused
    have hempty := hrefused.resolve_right (by omega)
    exact .inl ⟨List.length_eq_zero_iff.mp hempty, htrace.1⟩
  · rename_i hgiven
    simp only [i2cMasterSend_bind, Prog.trace_call] at htrace
    obtain ⟨answer, rest, rfl, htrace⟩ := htrace
    have hrest : rest = [] := by
      split at htrace
      · exact htrace.1
      · exact htrace.1
    refine .inr ⟨?_, answer, by rw [hrest]⟩
    intro hempty
    exact hgiven (.inl (List.length_eq_zero_iff.mpr hempty))

theorem axsWriteBytesReadBytes_events (hcmd : cmd.length < axsCmdMaxWriteBufLen)
    (htrace : (axsWriteBytesReadBytes cmd data rdLen.toNat).Trace events (ret, data')) :
    (Request.read cmd rdLen).Done events := by
  have hrdLen : rdLen.toNat < 256 := rdLen.toNat_lt
  rw [axsWriteBytesReadBytes] at htrace
  split at htrace
  · rename_i hrefused
    rw [axsCmdMaxReadBufLen] at hrefused
    omega
  · by_cases hempty : cmd = []
    · rw [hempty, sendCmd] at htrace
      simp only [List.length_nil, lt_irrefl, if_false, Prog.pure_eq_ret, Prog.ret_bind,
        Nat.cast_zero, ne_eq, not_true_eq_false] at htrace
      obtain ⟨answer, rest, rfl, rfl, -⟩ := htrace
      exact .inr (.inr ⟨hempty, answer, rfl⟩)
    · have hpos : 0 < cmd.length := List.length_pos_of_ne_nil hempty
      rw [sendCmd, if_pos hpos] at htrace
      simp only [i2cMasterSend_bind, Prog.trace_call] at htrace
      obtain ⟨sent, rest, rfl, htrace⟩ := htrace
      split at htrace
      · rename_i hpartial
        obtain ⟨rfl, -⟩ := htrace
        exact .inl ⟨hempty, sent, hpartial, rfl⟩
      · rename_i hfull
        obtain ⟨answer, _, rfl, rfl, -⟩ := htrace
        rw [not_not.mp hfull]
        exact .inr (.inl ⟨hempty, answer, rfl⟩)

theorem tprwregWrite_trace (htrace : (tprwregWrite buf tx d).Trace events d') :
    d'.sRdLen = 0 ∧
    ((hexToU8 (addressOf buf 1) 2 = 0 ∧ events = [] ∧ d'.debugTxBuf = some tx) ∨
     (hexToU8 (addressOf buf 1) 2 ≠ 0 ∧ (Request.write
        (hexBytes (addressOf buf 3) (hexToU8 (addressOf buf 1) 2).toNat)).Done events)) := by
  have hwtLen : (hexToU8 (addressOf buf 1) 2).toNat < 256 := UInt8.toNat_lt _
  rw [tprwregWrite] at htrace
  dsimp only at htrace
  generalize hexToU8 (addressOf buf 1) 2 = wtLen at hwtLen htrace ⊢
  have hbytes : (hexBytes (addressOf buf 3) wtLen.toNat).length = wtLen.toNat := length_hexBytes _ _
  generalize hexBytes (addressOf buf 3) wtLen.toNat = bytes at hbytes htrace ⊢
  rw [if_neg (by rw [axsCmdMaxWriteBufLen]; omega), ← hbytes, take_overwrite] at htrace
  obtain ⟨ret, hwrite, rfl⟩ := Prog.trace_map.mp htrace
  refine ⟨rfl, ?_⟩
  rcases axsWriteBytes_events (by rw [axsCmdMaxWriteBufLen]; omega) hwrite with
    ⟨hempty, hevents⟩ | ⟨hgiven, hevents⟩
  · refine .inl ⟨?_, hevents, ?_⟩
    · rw [hempty] at hbytes
      exact UInt8.toNat_inj.mp hbytes.symm
    · rw [hempty]
      rfl
  · refine .inr ⟨?_, hevents⟩
    intro hzero
    rw [hzero] at hbytes
    exact hgiven (List.length_eq_zero_iff.mp hbytes)

theorem tprwregRead_trace (htrace : (tprwregRead buf tx rx d).Trace events d') :
    (Request.read (hexBytes (addressOf buf 5) (hexToU8 (addressOf buf 1) 2).toNat)
      (hexToU8 (addressOf buf 3) 2)).Done events := by
  have hwtLen : (hexToU8 (addressOf buf 1) 2).toNat < 256 := UInt8.toNat_lt _
  have hrdLen : (hexToU8 (addressOf buf 3) 2).toNat < 256 := UInt8.toNat_lt _
  rw [tprwregRead] at htrace
  dsimp only at htrace
  rw [if_neg (by rw [axsCmdMaxWriteBufLen, axsCmdMaxReadBufLen]; omega)] at htrace
  obtain ⟨⟨ret, received⟩, hread, -⟩ := Prog.trace_map.mp htrace
  generalize hexToU8 (addressOf buf 1) 2 = wtLen at hwtLen hread ⊢
  have hbytes : (hexBytes (addressOf buf 5) wtLen.toNat).length = wtLen.toNat := length_hexBytes _ _
  generalize hexBytes (addressOf buf 5) wtLen.toNat = bytes at hbytes hread ⊢
  rw [← hbytes, take_overwrite] at hread
  exact axsWriteBytesReadBytes_events (by rw [axsCmdMaxWriteBufLen]; omega) hread

end Transfers

/-! ### Reading a request -/

section Reading

variable {written text bytes : List UInt8} {around : Nat → UInt8} {buf hexBuf other : Nat → UInt8}
  {byte : UInt8}

theorem hexToInt_congr (hhigh : hexBuf 0 = other 0) (hlow : hexBuf 1 = other 1) :
    hexToInt hexBuf 2 = hexToInt other 2 := by
  simp only [hexToInt, hexToIntLoop, hhigh, hlow]

theorem hexDigitValue_digit {c : UInt8} {value : Nat} (hdigit : Hex.digit c = some value) :
    hexDigitValue c = some (value : Int) ∧ value < 16 := by
  rw [Hex.digit] at hdigit
  simp only [UInt8.le_iff_toNat_le, UInt8.reduceToNat] at hdigit
  rw [hexDigitValue]
  simp only [UInt8.le_iff_toNat_le, UInt8.reduceToNat]
  split_ifs at hdigit with hnumber hsmall hcapital
  · obtain rfl := Option.some.inj hdigit
    rw [if_pos hnumber]
    exact ⟨by congr 1; omega, by omega⟩
  · obtain rfl := Option.some.inj hdigit
    rw [if_neg hnumber, if_pos (by omega)]
    exact ⟨by congr 1; omega, by omega⟩
  · obtain rfl := Option.some.inj hdigit
    rw [if_neg hnumber, if_neg (by omega), if_pos (by omega)]
    exact ⟨by congr 1; omega, by omega⟩

theorem hexToU8_pair (hpair : Hex.pair (hexBuf 0) (hexBuf 1) = some byte) :
    hexToU8 hexBuf 2 = byte := by
  obtain ⟨high, low, hhigh, hlow, rfl⟩ := Hex.pair_eq_some hpair
  obtain ⟨hhighValue, hhighLt⟩ := hexDigitValue_digit hhigh
  obtain ⟨hlowValue, hlowLt⟩ := hexDigitValue_digit hlow
  have hvalue : hexToInt hexBuf 2 = ((16 * high + low : Nat) : Int) := by
    simp only [hexToInt, hexToIntLoop, hhighValue, hlowValue]
    push_cast
    omega
  rw [hexToU8, toU8, hvalue]
  congr 1
  omega

theorem hexBytes_succ (hexBuf : Nat → UInt8) (wtLen : Nat) : hexBytes hexBuf (wtLen + 1) =
    hexToU8 hexBuf 2 :: hexBytes (addressOf hexBuf 2) wtLen := by
  rw [hexBytes, List.range_succ_eq_map, List.map_cons, List.map_map, hexBytes]
  have hindex : ∀ i k, addressOf hexBuf (Nat.succ i * 2) k =
      addressOf (addressOf hexBuf 2) (i * 2) k := by
    intro i k
    rw [addressOf, addressOf, addressOf]
    congr 1
    omega
  congr 1
  refine List.map_congr_left fun i _ => ?_
  rw [Function.comp_apply, hexToInt_congr (hindex i 0) (hindex i 1)]

/-- Where the text is pairs of digits, the loop stores the bytes they stand for. -/
theorem hexBytes_pairs (hpairs : Hex.pairs text = some bytes)
    (htext : ∀ i < text.length, hexBuf i = text.getD i 0) : hexBytes hexBuf bytes.length = bytes := by
  induction text using Hex.pairs.induct generalizing bytes hexBuf with
  | case1 =>
      obtain rfl := Option.some.inj hpairs
      rfl
  | case2 c => cases hpairs
  | case3 high low rest ih =>
      obtain ⟨byte, tail, hpair, htail, rfl⟩ := Hex.pairs_cons_eq_some hpairs
      have hhigh : hexBuf 0 = high := htext 0 (by simp only [List.length_cons]; omega)
      have hlow : hexBuf 1 = low := htext 1 (by simp only [List.length_cons]; omega)
      rw [List.length_cons, hexBytes_succ, hexToU8_pair (by rw [hhigh, hlow]; exact hpair)]
      congr 1
      refine ih htail fun i hi => ?_
      rw [addressOf, htext (2 + i) (by simp only [List.length_cons]; omega), Nat.add_comm]
      rfl

theorem exists_lineOf (written : List UInt8) : ∃ tail, written = lineOf written ++ tail := by
  rw [lineOf]
  split
  · rename_i hnewline
    obtain ⟨front, rfl⟩ := List.getLast?_eq_some_iff.mp hnewline
    exact ⟨[10], by rw [List.dropLast_concat]⟩
  · exact ⟨[], (List.append_nil _).symm⟩

theorem storeBuf_written {i : Nat} (hi : i < written.length) :
    storeBuf written around i = written.getD i 0 := by
  rw [storeBuf, List.getD_append _ _ _ _ hi, List.getD_eq_getElem _ _ hi,
    List.getD_eq_getElem _ _ hi]

theorem storeBuf_line {line : List UInt8} (around : Nat → UInt8) (hline : lineOf written = line) :
    line.length ≤ written.length ∧ ∀ i < line.length, storeBuf written around i = line.getD i 0 := by
  obtain ⟨tail, hwritten⟩ := exists_lineOf written
  rw [hline] at hwritten
  have hlength : line.length ≤ written.length := by
    rw [hwritten, List.length_append]
    omega
  refine ⟨hlength, fun i hi => ?_⟩
  rw [storeBuf_written (by omega), hwritten, List.getD_append _ _ _ _ hi]

theorem hexToU8_line {line : List UInt8} {offset : Nat}
    (hbuf : ∀ i < line.length, buf i = line.getD i 0) (hoffset : offset + 1 < line.length)
    (hpair : Hex.pair (line.getD offset 0) (line.getD (offset + 1) 0) = some byte) :
    hexToU8 (addressOf buf offset) 2 = byte := by
  apply hexToU8_pair
  rw [addressOf, addressOf, Nat.add_zero, hbuf offset (by omega), hbuf (offset + 1) hoffset]
  exact hpair

theorem hexBytes_line {front : List UInt8}
    (hbuf : ∀ i < (front ++ text).length, buf i = (front ++ text).getD i 0)
    (hpairs : Hex.pairs text = some bytes) :
    hexBytes (addressOf buf front.length) bytes.length = bytes := by
  refine hexBytes_pairs hpairs fun i hi => ?_
  rw [addressOf, hbuf (front.length + i) (by rw [List.length_append]; omega),
    List.getD_append_right _ _ _ _ (by omega), Nat.add_sub_cancel_left]

theorem bytesOf_eq_some {len : UInt8} (hbytes : bytesOf len text = some bytes) :
    Hex.pairs text = some bytes ∧ bytes.length = len.toNat := by
  rw [bytesOf] at hbytes
  obtain ⟨hpairs, hlength⟩ := Option.filter_eq_some_iff.mp hbytes
  exact ⟨hpairs, of_decide_eq_true hlength⟩

end Reading

/-- What the store finds in the memory it is given, where what was written is a request. -/
def Request.Read (buf : Nat → UInt8) (count : Nat) : Request → Prop
  | .write bytes => 3 ≤ count ∧ buf 0 = 119 ∧ hexToU8 (addressOf buf 1) 2 ≠ 0 ∧
      hexBytes (addressOf buf 3) (hexToU8 (addressOf buf 1) 2).toNat = bytes
  | .read bytes rdLen => 5 ≤ count ∧ buf 0 = 114 ∧ hexToU8 (addressOf buf 3) 2 = rdLen ∧
      hexBytes (addressOf buf 5) (hexToU8 (addressOf buf 1) 2).toNat = bytes

theorem read_of_requestOf {written : List UInt8} {request : Request} (around : Nat → UInt8)
    (hrequest : requestOf (lineOf written) = some request) :
    request.Read (storeBuf written around) written.length := by
  generalize hline : lineOf written = line at hrequest
  obtain ⟨hlength, hbuf⟩ := storeBuf_line around hline
  rw [requestOf.eq_def] at hrequest
  split at hrequest
  · rename_i high low text
    obtain ⟨len, hlen, hrequest⟩ := Option.bind_eq_some_iff.mp hrequest
    obtain ⟨bytes, hbytes, hrequest⟩ := Option.bind_eq_some_iff.mp hrequest
    obtain ⟨hpairs, hcount⟩ := bytesOf_eq_some hbytes
    split_ifs at hrequest with hzero
    obtain rfl := Option.some.inj hrequest
    have hlong : 3 ≤ (119 :: high :: low :: text).length := Nat.le_add_left 3 text.length
    have hwtLen : hexToU8 (addressOf (storeBuf written around) 1) 2 = len :=
      hexToU8_line hbuf (by omega) hlen
    refine ⟨by omega, hbuf 0 (by omega), by rw [hwtLen]; exact hzero, ?_⟩
    rw [hwtLen, ← hcount]
    exact @hexBytes_line text bytes _ [119, high, low] hbuf hpairs
  · rename_i high low rdHigh rdLow text
    obtain ⟨len, hlen, hrequest⟩ := Option.bind_eq_some_iff.mp hrequest
    obtain ⟨rdLen, hrdLen, hrequest⟩ := Option.bind_eq_some_iff.mp hrequest
    obtain ⟨bytes, hbytes, hrequest⟩ := Option.bind_eq_some_iff.mp hrequest
    obtain ⟨hpairs, hcount⟩ := bytesOf_eq_some hbytes
    obtain rfl := Option.some.inj hrequest
    have hlong : 5 ≤ (114 :: high :: low :: rdHigh :: rdLow :: text).length :=
      Nat.le_add_left 5 text.length
    have hwtLen : hexToU8 (addressOf (storeBuf written around) 1) 2 = len :=
      hexToU8_line hbuf (by omega) hlen
    have hrdLenRead : hexToU8 (addressOf (storeBuf written around) 3) 2 = rdLen :=
      hexToU8_line hbuf (by omega) hrdLen
    refine ⟨by omega, hbuf 0 (by omega), hrdLenRead, ?_⟩
    rw [hwtLen, ← hcount]
    exact @hexBytes_line text bytes _ [114, high, low, rdHigh, rdLow] hbuf hpairs
  · cases hrequest

/-! ### When the file follows its grammar -/

def DebugBuffers.Allocated (d : DebugBuffers) : Prop := d.debugTxBuf ≠ none ∧ d.debugRxBuf ≠ none

/-- The store gets past its tests, with bytes to transfer or a length to forget. -/
def Taken (written : List UInt8) (d : DebugBuffers) : Prop :=
  d.Allocated ∧
  ((written.getD 0 0 = 119 ∧ 3 ≤ written.length ∧
      (hexToU8 (addressOf (written.getD · 0) 1) 2 ≠ 0 ∨ d.sRdLen ≠ 0)) ∨
   (written.getD 0 0 = 114 ∧ 5 ≤ written.length))

section Store

variable {written : List UInt8} {around buf : Nat → UInt8} {count ret : Nat} {d d' : DebugBuffers}
  {events : List (Event Bus)} {request : Request}

/-- A store is turned away by a test, or is the write or the read of its first character. -/
theorem axsTprwregStore_trace (htrace : (axsTprwregStore buf count d).Trace events (d', ret)) :
    ((¬ d.Allocated ∨ count < 3 ∨ (buf 0 ≠ 119 ∧ (buf 0 = 114 → count < 5))) ∧
      events = [] ∧ d' = d) ∨
    (d.Allocated ∧ 3 ≤ count ∧ buf 0 = 119 ∧ ∃ tx, d.debugTxBuf = some tx ∧
      (tprwregWrite buf tx d).Trace events d') ∨
    (d.Allocated ∧ 5 ≤ count ∧ buf 0 = 114 ∧ ∃ tx rx, (tprwregRead buf tx rx d).Trace events d') := by
  rw [axsTprwregStore] at htrace
  split at htrace
  · rename_i hshort
    obtain ⟨rfl, rfl, -⟩ := Prog.trace_pair.mp htrace
    exact .inl ⟨.inr (.inl hshort), rfl, rfl⟩
  · rename_i hlong
    split at htrace
    · rename_i tx rx htx hrx
      have hallocated : d.Allocated := by
        rw [DebugBuffers.Allocated, htx, hrx]
        exact ⟨Option.some_ne_none tx, Option.some_ne_none rx⟩
      obtain ⟨d'', hcommand, hvalue⟩ := Prog.trace_map.mp htrace
      obtain ⟨rfl, -⟩ := Prod.mk.inj hvalue
      rw [tprwregCommand] at hcommand
      split_ifs at hcommand with hwrite hread hshort
      · exact .inr (.inl ⟨hallocated, by omega, hwrite, tx, htx, hcommand⟩)
      · exact .inl ⟨.inr (.inr ⟨hwrite, fun _ => hshort⟩), hcommand.1, hcommand.2⟩
      · exact .inr (.inr ⟨hallocated, by omega, hread, tx, rx, hcommand⟩)
      · exact .inl ⟨.inr (.inr ⟨hwrite, fun h => absurd h hread⟩), hcommand.1, hcommand.2⟩
    · rename_i hnone
      obtain ⟨rfl, rfl, -⟩ := Prog.trace_pair.mp htrace
      refine .inl ⟨.inl ?_, rfl, rfl⟩
      rintro ⟨htx, hrx⟩
      obtain ⟨tx, htx⟩ := Option.ne_none_iff_exists'.mp htx
      obtain ⟨rx, hrx⟩ := Option.ne_none_iff_exists'.mp hrx
      exact hnone tx rx htx hrx

theorem Request.Done.ne_nil (hdone : request.Done events) : events ≠ [] := by
  cases request with
  | write bytes =>
      obtain ⟨ret, rfl⟩ := hdone
      exact List.cons_ne_nil _ _
  | read bytes rdLen =>
      rcases hdone with ⟨-, ret, -, rfl⟩ | ⟨-, answer, rfl⟩ | ⟨-, answer, rfl⟩
      · exact List.cons_ne_nil _ _
      · exact List.cons_ne_nil _ _
      · exact List.cons_ne_nil _ _

theorem wtLen_storeBuf (hlength : 3 ≤ written.length) :
    hexToU8 (addressOf (storeBuf written around) 1) 2 =
      hexToU8 (addressOf (written.getD · 0) 1) 2 := by
  rw [hexToU8, hexToU8, hexToInt_congr]
  · exact storeBuf_written (i := 1) (by omega)
  · exact storeBuf_written (i := 2) (by omega)

theorem done_of_request (hrequest : requestOf (lineOf written) = some request)
    (hallocated : d.Allocated)
    (htrace : (axsTprwregStore (storeBuf written around) written.length d).Trace events (d', ret)) :
    request.Done events := by
  have hread := read_of_requestOf around hrequest
  cases request with
  | write bytes =>
      obtain ⟨hlength, hletter, hwtLen, rfl⟩ := hread
      rcases axsTprwregStore_trace htrace with
        ⟨hrefused, -⟩ | ⟨-, -, -, tx, -, hwrite⟩ | ⟨-, -, hother, -⟩
      · rcases hrefused with hnot | hshort | ⟨hother, -⟩
        · exact absurd hallocated hnot
        · omega
        · exact absurd hletter hother
      · obtain ⟨-, ⟨hzero, -⟩ | ⟨-, hdone⟩⟩ := tprwregWrite_trace hwrite
        · exact absurd hzero hwtLen
        · exact hdone
      · rw [hletter] at hother
        exact absurd hother (by decide)
  | read bytes rdLen =>
      obtain ⟨hlength, hletter, rfl, rfl⟩ := hread
      rcases axsTprwregStore_trace htrace with
        ⟨hrefused, -⟩ | ⟨-, -, hother, -⟩ | ⟨-, -, -, tx, rx, hread⟩
      · rcases hrefused with hnot | hshort | ⟨-, hshort⟩
        · exact absurd hallocated hnot
        · omega
        · have := hshort hletter
          omega
      · rw [hletter] at hother
        exact absurd hother (by decide)
      · exact tprwregRead_trace hread

/-- A store that is taken changes something, whatever was written. -/
theorem changes_of_taken (htaken : Taken written d)
    (htrace : (axsTprwregStore (storeBuf written around) written.length d).Trace events (d', ret)) :
    events ≠ [] ∨ d'.sRdLen ≠ d.sRdLen := by
  obtain ⟨hallocated, hletter⟩ := htaken
  have hfirst : storeBuf written around 0 = written.getD 0 0 := by
    apply storeBuf_written
    rcases hletter with ⟨-, hlength, -⟩ | ⟨-, hlength⟩
    · omega
    · omega
  rcases axsTprwregStore_trace htrace with
    ⟨hrefused, -⟩ | ⟨-, hlength, hwriteLetter, tx, -, hwrite⟩ | ⟨-, -, -, tx, rx, hread⟩
  · rw [hfirst] at hrefused
    exfalso
    rcases hrefused with hnot | hshort | ⟨hother, hshort⟩
    · exact hnot hallocated
    · rcases hletter with ⟨-, hlength, -⟩ | ⟨-, hlength⟩
      · omega
      · omega
    · rcases hletter with ⟨hwrite, -⟩ | ⟨hread, hlength⟩
      · exact hother hwrite
      · have := hshort hread
        omega
  · obtain ⟨hrdLen, hwrite⟩ := tprwregWrite_trace hwrite
    rcases hwrite with ⟨hzero, -, -⟩ | ⟨-, hdone⟩
    · right
      rw [wtLen_storeBuf hlength] at hzero
      rw [hfirst] at hwriteLetter
      rcases hletter with ⟨-, -, hwtLen | hset⟩ | ⟨hother, -⟩
      · exact absurd hzero hwtLen
      · rw [hrdLen]
        exact Ne.symm hset
      · rw [hwriteLetter] at hother
        exact absurd hother (by decide)
    · exact .inl hdone.ne_nil
  · exact .inl (tprwregRead_trace hread).ne_nil

theorem unchanged_of_not_taken (hnot : ¬ Taken written d)
    (htrace : (axsTprwregStore (storeBuf written around) written.length d).Trace events (d', ret)) :
    events = [] ∧ d'.debugTxBuf = d.debugTxBuf ∧ d'.sRdLen = d.sRdLen := by
  rcases axsTprwregStore_trace htrace with
    ⟨-, hevents, rfl⟩ | ⟨hallocated, hlength, hletter, tx, htx, hwrite⟩ |
    ⟨hallocated, hlength, hletter, -⟩
  · exact ⟨hevents, rfl, rfl⟩
  · rw [storeBuf_written (by omega)] at hletter
    obtain ⟨hrdLen, hwrite⟩ := tprwregWrite_trace hwrite
    rw [wtLen_storeBuf hlength] at hwrite
    rcases hwrite with ⟨-, hevents, htx'⟩ | ⟨hwtLen, -⟩
    · refine ⟨hevents, by rw [htx', htx], ?_⟩
      by_contra hset
      rw [hrdLen] at hset
      exact hnot ⟨hallocated, .inl ⟨hletter, hlength, .inr (Ne.symm hset)⟩⟩
    · exact absurd ⟨hallocated, .inl ⟨hletter, hlength, .inl hwtLen⟩⟩ hnot
  · rw [storeBuf_written (by omega)] at hletter
    exact absurd ⟨hallocated, .inr ⟨hletter, hlength⟩⟩ hnot

theorem not_followsGrammar_of_taken (hrequest : requestOf (lineOf written) = none)
    (htaken : Taken written d)
    (htrace : (axsTprwregStore (storeBuf written around) written.length d).Trace events (d', ret)) :
    ¬ FollowsGrammar written d events d' := by
  intro hfollows
  rw [FollowsGrammar, hrequest] at hfollows
  rcases changes_of_taken htaken htrace with hevents | hrdLen
  · exact hevents hfollows.1
  · exact hrdLen hfollows.2.2

/-- The file follows its grammar exactly where what was written is a request and both buffers are there, or is none and is not taken. -/
theorem axsTprwregStore_followsGrammar_iff
    (htrace : (axsTprwregStore (storeBuf written around) written.length d).Trace events (d', ret)) :
    FollowsGrammar written d events d' ↔
      (requestOf (lineOf written) ≠ none ∧ d.Allocated) ∨
      (requestOf (lineOf written) = none ∧ ¬ Taken written d) := by
  cases hrequest : requestOf (lineOf written) with
  | none =>
      constructor
      · intro hfollows
        refine .inr ⟨rfl, fun htaken => ?_⟩
        exact not_followsGrammar_of_taken hrequest htaken htrace hfollows
      · intro hwhen
        rcases hwhen with ⟨hsome, -⟩ | ⟨-, hnot⟩
        · exact absurd rfl hsome
        · rw [FollowsGrammar, hrequest]
          exact unchanged_of_not_taken hnot htrace
  | some request =>
      rw [FollowsGrammar, hrequest]
      constructor
      · intro hdone
        refine .inl ⟨Option.some_ne_none request, ?_⟩
        by_contra hnot
        rcases axsTprwregStore_trace htrace with ⟨-, hevents, -⟩ | ⟨hallocated, -⟩ | ⟨hallocated, -⟩
        · exact Request.Done.ne_nil hdone hevents
        · exact hnot hallocated
        · exact hnot hallocated
      · intro hwhen
        rcases hwhen with ⟨-, hallocated⟩ | ⟨hnone, -⟩
        · exact done_of_request hrequest hallocated htrace
        · exact absurd hnone (Option.some_ne_none request)

end Store

/-- The buffers as the driver makes them. -/
def DebugBuffers.fresh : DebugBuffers where
  debugTxBuf := some (List.replicate 1024 0)
  debugRxBuf := some (List.replicate 1024 0)
  sRdLen := 0

theorem DebugBuffers.fresh_allocated : fresh.Allocated :=
  ⟨Option.some_ne_none _, Option.some_ne_none _⟩

/-- A bus that takes every byte and gives back zeros. -/
def quietBus : ∀ op, Bus.Answer op
  | .i2cMasterSend bytes => (bytes.length : Int)
  | .i2cMasterRecv length => ((length : Int), List.replicate length 0)
  | .kzalloc _ => true

theorem exists_trace (store : Prog Bus (DebugBuffers × Nat)) :
    ∃ events d' ret, store.Trace events (d', ret) :=
  ⟨_, _, _, Prog.trace_answered quietBus store⟩

theorem axsTprwregStore_followsGrammar_sample : ∃ events d' ret,
    (axsTprwregStore (storeBuf (ascii "w010a\n") fun _ => 0) 6 .fresh).Trace events (d', ret) ∧
    FollowsGrammar (ascii "w010a\n") .fresh events d' := by
  obtain ⟨events, d', ret, htrace⟩ := exists_trace
    (axsTprwregStore (storeBuf (ascii "w010a\n") fun _ => 0) 6 .fresh)
  refine ⟨events, d', ret, htrace, ?_⟩
  exact (axsTprwregStore_followsGrammar_iff htrace).mpr
    (.inl ⟨by decide, DebugBuffers.fresh_allocated⟩)

/-- `w01` has no byte to send, and one is sent. -/
theorem axsTprwregStore_not_followsGrammar : ¬ ∀ (written : List UInt8) (around : Nat → UInt8)
    (d d' : DebugBuffers) (events : List (Event Bus)) (ret : Nat),
    (axsTprwregStore (storeBuf written around) written.length d).Trace events (d', ret) →
    FollowsGrammar written d events d' := by
  intro hfollows
  have hrequest : requestOf (lineOf (ascii "w01")) = none := by decide
  have htaken : Taken (ascii "w01") .fresh :=
    ⟨DebugBuffers.fresh_allocated, .inl ⟨by decide, by decide, .inl (by decide)⟩⟩
  obtain ⟨events, d', ret, htrace⟩ := exists_trace
    (axsTprwregStore (storeBuf (ascii "w01") fun _ => 0) (ascii "w01").length .fresh)
  have hnot := @not_followsGrammar_of_taken (ascii "w01") (fun _ => 0) ret .fresh d' events
  exact hnot hrequest htaken htrace (hfollows (ascii "w01") (fun _ => 0) .fresh d' events ret htrace)

end FrontPanel.Touch
