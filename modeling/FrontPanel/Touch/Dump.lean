import FrontPanel.Lib.CString
import FrontPanel.Lib.Snprintf
import FrontPanel.Touch.RegisterFile

/-!
# The raw-data and diff dumps

`axs_rawdata_show` and `axs_diff_show`: the controller says how many rows and columns it has, sends that many bytes into `debug_rx_buf`, and the bytes are printed a row to a line. The loops step through the buffer with the number of rows where a row has as many bytes as there are columns, and the page holds fewer entries than a transfer may bring, so which dumps are right depends on the two counts.

The transfers do what the kernel's interface says of them: all the bytes are moved, or an error is returned. What is in memory behind `debug_rx_buf` is anyone's. A dump runs alone here: no other file fills the buffer between the transfer and the printing.
-/

namespace FrontPanel.Touch

open FrontPanel.CString (ascii)

/-! ### The code -/

/-- `-EPERM` -/
def ePerm : Int := -1

def pageSize : Nat := 4096

def axsFregRawdataRead : UInt8 := 0x02
def axsFregTxrxNumRead : UInt8 := 0x03
def axsFregDiffRead : UInt8 := 0x82

def writeReg (command : UInt8) : List UInt8 := [0x13, 0x31, 0x41, 0x51, command]

def hexChar (digit : Nat) : UInt8 := UInt8.ofNat (if digit < 10 then 48 + digit else 87 + digit)

/-- The text of `"0x%2x,"`. -/
def entryText (byte : UInt8) : List UInt8 :=
  [48, 120, if byte.toNat < 16 then 32 else hexChar (byte.toNat / 16), hexChar (byte.toNat % 16), 44]

def newline : List UInt8 := [10]

/-- The page, and the indices of `debug_rx_buf` that were read for it. -/
structure Dump where
  page : Printed pageSize
  reads : List Nat

def Dump.empty : Dump where
  page := .empty pageSize
  reads := []

/-- The body of the inner loop, at row `i` and column `j`. -/
def dumpEntry (tx : Nat) (rxBuf : Nat → UInt8) (i : Nat) (dump : Dump) (j : Nat) : Dump where
  page := dump.page.snprintf (entryText (rxBuf (i * tx + j)))
  reads := dump.reads ++ [i * tx + j]

def dumpRow (tx rx : Nat) (rxBuf : Nat → UInt8) (dump : Dump) (i : Nat) : Dump :=
  let row := (List.range rx).foldl (dumpEntry tx rxBuf i) dump
  { row with page := row.page.snprintf newline }

def dumpRows (tx rx : Nat) (rxBuf : Nat → UInt8) : Dump :=
  (List.range tx).foldl (dumpRow tx rx rxBuf) .empty

/-- The memory at and behind `debug_rx_buf`. -/
def bufferBytes (rxBuf : List UInt8) (around : Nat → UInt8) (index : Nat) : UInt8 :=
  rxBuf.getD index (around index)

/-- What a show returns, and the page it fills. -/
structure Shown where
  ret : Int
  dump : Dump

/-- A show once it has the counts. -/
def showBlock (command : UInt8) (around : Nat → UInt8) (d : DebugBuffers) (tx rx : Nat) :
    Prog Bus (DebugBuffers × Shown) :=
  match d.debugRxBuf with
  -- `axs_write_bytes_read_bytes` refuses a buffer that is not there
  | none => pure (d, ⟨ePerm, .empty⟩)
  | some rxBuf => do
      let (ret, rxBuf) ← axsWriteBytesReadBytes (writeReg command) rxBuf (tx * rx)
      let d := { d with debugRxBuf := some rxBuf }
      if ret < 0 then return (d, ⟨ePerm, .empty⟩)
      let dump := dumpRows tx rx (bufferBytes rxBuf around)
      return (d, ⟨dump.page.total, dump⟩)

def axsShow (command : UInt8) (around : Nat → UInt8) (d : DebugBuffers) :
    Prog Bus (DebugBuffers × Shown) := do
  let (ret, txRxLen) ← axsWriteBytesReadBytes (writeReg axsFregTxrxNumRead) [0, 0] 2
  if ret < 0 then return (d, ⟨ePerm, .empty⟩)
  showBlock command around d (txRxLen.getD 0 0).toNat (txRxLen.getD 1 0).toNat

def axsRawdataShow : (Nat → UInt8) → DebugBuffers → Prog Bus (DebugBuffers × Shown) :=
  axsShow axsFregRawdataRead

def axsDiffShow : (Nat → UInt8) → DebugBuffers → Prog Bus (DebugBuffers × Shown) :=
  axsShow axsFregDiffRead

inductive DumpFile
  | rawdata
  | diff

def DumpFile.command : DumpFile → UInt8
  | .rawdata => axsFregRawdataRead
  | .diff => axsFregDiffRead

def DumpFile.show : DumpFile → (Nat → UInt8) → DebugBuffers → Prog Bus (DebugBuffers × Shown)
  | .rawdata => axsRawdataShow
  | .diff => axsDiffShow

theorem DumpFile.show_eq (file : DumpFile) : file.show = axsShow file.command := by
  cases file with
  | rawdata => rfl
  | diff => rfl

/-! ### What a dump is to be -/

/-- `tx` rows of `rx` entries, of the bytes at `index`. -/
def rowsText (tx rx : Nat) (bytes : Nat → UInt8) (index : Nat → Nat → Nat) : List (List UInt8) :=
  (List.range tx).flatMap fun i =>
    (List.range rx).map (fun j => entryText (bytes (index i j))) ++ [newline]

/-- The page shows the block row by row, came of the block alone, and is full of neither its text nor its NUL. -/
structure Faithful (tx rx : Nat) (data : List UInt8) (shown : Shown) : Prop where
  text : shown.dump.page.text = (rowsText tx rx (data.getD · 0) fun i j => i * rx + j).flatten
  reads : ∀ index ∈ shown.dump.reads, index < tx * rx
  ret : shown.ret < pageSize

/-- The controller is asked for its counts and answers `tx` and `rx`. -/
def Reports (tx rx : UInt8) (events : List (Event Bus)) : Prop :=
  ∃ rest, events = Sent (writeReg axsFregTxrxNumRead) :: Received [tx, rx] :: rest

/-- After its counts the controller is asked for the data of `file` and answers `data`. -/
def Brings (file : DumpFile) (tx rx : UInt8) (data : List UInt8) (events : List (Event Bus)) : Prop :=
  events = [Sent (writeReg axsFregTxrxNumRead), Received [tx, rx],
    Sent (writeReg file.command), Received data]

/-- With the counts `tx` and `rx` the dump fails or is faithful, whatever block comes. -/
def DumpsFaithfully (file : DumpFile) (tx rx : UInt8) : Prop :=
  ∀ around d events d' shown, (file.show around d).Trace events (d', shown) →
    (∀ event ∈ events, AllOrNothing event) → Reports tx rx events →
    shown.ret < 0 ∨ ∃ data, data.length = tx.toNat * rx.toNat ∧ Brings file tx rx data events ∧
      Faithful tx.toNat rx.toNat data shown

/-! ### What the loops print -/

section Loops

variable {tx rx : Nat} {rxBuf bytes other : Nat → UInt8} {index otherIndex : Nat → Nat → Nat}

theorem foldl_dumpEntry (i : Nat) (columns : List Nat) (dump : Dump) :
    columns.foldl (dumpEntry tx rxBuf i) dump =
      { page := dump.page.printAll (columns.map fun j => entryText (rxBuf (i * tx + j)))
        reads := dump.reads ++ columns.map (i * tx + ·) } := by
  induction columns generalizing dump with
  | nil => simp only [List.foldl_nil, List.map_nil, List.append_nil, Printed.printAll]
  | cons j columns ih =>
      rw [List.foldl_cons, ih, dumpEntry, List.map_cons, List.map_cons, Printed.printAll_cons,
        List.append_assoc]
      rfl

theorem foldl_dumpRow (rows : List Nat) (dump : Dump) :
    rows.foldl (dumpRow tx rx rxBuf) dump =
      { page := dump.page.printAll (rows.flatMap fun i =>
          (List.range rx).map (fun j => entryText (rxBuf (i * tx + j))) ++ [newline])
        reads := dump.reads ++ rows.flatMap fun i => (List.range rx).map (i * tx + ·) } := by
  induction rows generalizing dump with
  | nil => simp only [List.foldl_nil, List.flatMap_nil, List.append_nil, Printed.printAll]
  | cons i rows ih =>
      rw [List.foldl_cons, ih, dumpRow, foldl_dumpEntry, List.flatMap_cons, List.flatMap_cons,
        Printed.printAll_append, Printed.printAll_append, List.append_assoc]
      rfl

theorem dumpRows_eq (tx rx : Nat) (rxBuf : Nat → UInt8) :
    dumpRows tx rx rxBuf =
      { page := (Printed.empty pageSize).printAll (rowsText tx rx rxBuf fun i j => i * tx + j)
        reads := (List.range tx).flatMap fun i => (List.range rx).map (i * tx + ·) } := by
  rw [dumpRows, foldl_dumpRow, Dump.empty, List.nil_append, rowsText]

theorem length_row (texts : Nat → UInt8) (columns : List Nat) :
    (columns.map (fun j => entryText (texts j)) ++ [newline]).flatten.length =
      5 * columns.length + 1 := by
  induction columns with
  | nil => rfl
  | cons j columns ih =>
      rw [List.map_cons, List.cons_append, List.flatten_cons, List.length_append, ih,
        List.length_cons]
      show 5 + _ = _
      omega

theorem length_rowsText : (rowsText tx rx bytes index).flatten.length = tx * (5 * rx + 1) := by
  have hrows : ∀ rows : List Nat, (rows.flatMap fun i =>
      (List.range rx).map (fun j => entryText (bytes (index i j))) ++ [newline]).flatten.length =
      rows.length * (5 * rx + 1) := by
    intro rows
    induction rows with
    | nil => rw [List.flatMap_nil, List.length_nil, Nat.zero_mul]; rfl
    | cons i rows ih =>
        rw [List.flatMap_cons, List.flatten_append, List.length_append, ih,
          length_row fun j => bytes (index i j), List.length_range, List.length_cons, Nat.add_mul]
        omega
  rw [rowsText, hrows, List.length_range]

theorem total_dumpRows_lt_iff :
    (dumpRows tx rx rxBuf).page.total < pageSize ↔ tx * (5 * rx + 1) < pageSize := by
  rw [dumpRows_eq, Printed.total_printAll_empty_lt_iff, length_rowsText]

theorem text_dumpRows (hfits : tx * (5 * rx + 1) < pageSize) :
    (dumpRows tx rx rxBuf).page.text =
      (rowsText tx rx rxBuf fun i j => i * tx + j).flatten := by
  have hlength : (Printed.empty pageSize).total +
      (rowsText tx rx rxBuf fun i j => i * tx + j).flatten.length < pageSize := by
    rw [length_rowsText, Printed.empty, Nat.zero_add]
    exact hfits
  rw [dumpRows_eq, (Printed.printAll_of_lt hlength).1]
  rfl

theorem mem_reads {k : Nat} :
    k ∈ (dumpRows tx rx rxBuf).reads ↔ ∃ i < tx, ∃ j < rx, i * tx + j = k := by
  rw [dumpRows_eq]
  simp only [List.mem_flatMap, List.mem_map, List.mem_range]

theorem entries_of_rowsText
    (htext : (rowsText tx rx bytes index).flatten = (rowsText tx rx other otherIndex).flatten)
    {i j : Nat} (hi : i < tx) (hj : j < rx) :
    entryText (bytes (index i j)) = entryText (other (otherIndex i j)) := by
  have hlengths : ∀ (bytes : Nat → UInt8) (index : Nat → Nat → Nat) (i : Nat),
      ((List.range rx).map (fun j => entryText (bytes (index i j))) ++ [newline]).map List.length =
        (List.range rx).map (fun _ => 5) ++ [1] := by
    intro bytes index i
    rw [List.map_append, List.map_map]
    rfl
  have htexts : rowsText tx rx bytes index = rowsText tx rx other otherIndex := by
    rw [List.eq_iff_flatten_eq]
    refine ⟨htext, ?_⟩
    rw [rowsText, rowsText, List.map_flatMap, List.map_flatMap]
    simp only [hlengths]
  rw [rowsText, rowsText, List.flatMap_def, List.flatMap_def] at htexts
  have hrows := List.eq_iff_flatten_eq.mpr ⟨htexts, by
    simp only [List.map_map, Function.comp_def, List.length_append, List.length_map]⟩
  have hrow := List.map_inj_left.mp hrows i (List.mem_range.mpr hi)
  have hentries := List.append_cancel_right hrow
  exact List.map_inj_left.mp hentries j (List.mem_range.mpr hj)

end Loops

/-! ### The transfers of a dump -/

section Transfers

variable {file : DumpFile} {command : UInt8} {around : Nat → UInt8} {d d' : DebugBuffers}
  {tx rx : UInt8} {data rxBuf : List UInt8} {events : List (Event Bus)} {shown : Shown}

theorem bufferBytes_overwrite {index : Nat} (hindex : index < data.length) :
    bufferBytes (overwrite rxBuf data) around index = data.getD index 0 := by
  rw [bufferBytes, overwrite, List.getD_append _ _ _ _ hindex, List.getD_eq_getElem _ _ hindex,
    List.getD_eq_getElem _ _ hindex]

theorem length_writeReg_pos (command : UInt8) : 0 < (writeReg command).length := Nat.succ_pos 4

theorem showBlock_trace {tx rx : Nat}
    (htrace : (showBlock command around d tx rx).Trace events (d', shown))
    (hbus : ∀ event ∈ events, AllOrNothing event) :
    shown.ret < 0 ∨
    (tx * rx < axsCmdMaxReadBufLen ∧ ∃ rxBuf data, data.length = tx * rx ∧
      events = [Sent (writeReg command), Received data] ∧
      shown.dump = dumpRows tx rx (bufferBytes (overwrite rxBuf data) around) ∧
      shown.ret = shown.dump.page.total) := by
  have hfailed : ePerm < 0 := by decide
  rw [showBlock] at htrace
  cases hbuffer : d.debugRxBuf with
  | none =>
      rw [hbuffer] at htrace
      obtain ⟨-, -, rfl⟩ := Prog.trace_pair.mp htrace
      exact .inl hfailed
  | some rxBuf =>
      rw [hbuffer] at htrace
      obtain ⟨⟨ret, rxBuf'⟩, left, right, rfl, hdata, htrace⟩ := Prog.trace_bind.mp htrace
      dsimp only at htrace
      split at htrace
      · obtain ⟨-, -, rfl⟩ := Prog.trace_pair.mp htrace
        exact .inl hfailed
      · rename_i hret
        obtain ⟨rfl, -, rfl⟩ := Prog.trace_pair.mp htrace
        rw [List.append_nil] at hbus ⊢
        right
        by_cases hsize : tx * rx < axsCmdMaxReadBufLen
        · rcases axsWriteBytesReadBytes_trace (length_writeReg_pos command) hdata hbus with
            ⟨-, data, hlength, hevents, rfl⟩ | ⟨hret', -⟩
          · exact ⟨hsize, rxBuf, data, hlength, hevents, rfl, rfl⟩
          · exact absurd hret' hret
        · rw [axsWriteBytesReadBytes_refused (not_lt.mp hsize)] at hdata
          obtain ⟨-, rfl, -⟩ := Prog.trace_pair.mp hdata
          exact absurd (show eInval < 0 by decide) hret

/-- A dump of a controller that reports `tx` and `rx` fails, or prints the block it then brought. -/
theorem show_trace (htrace : (file.show around d).Trace events (d', shown))
    (hbus : ∀ event ∈ events, AllOrNothing event) (hreports : Reports tx rx events) :
    shown.ret < 0 ∨
    (tx.toNat * rx.toNat < axsCmdMaxReadBufLen ∧
      ∃ rxBuf data, data.length = tx.toNat * rx.toNat ∧ Brings file tx rx data events ∧
        shown.dump = dumpRows tx.toNat rx.toNat (bufferBytes (overwrite rxBuf data) around) ∧
        shown.ret = shown.dump.page.total) := by
  rw [DumpFile.show_eq, axsShow] at htrace
  obtain ⟨⟨ret, counts⟩, left, right, rfl, hcounts, htrace⟩ := Prog.trace_bind.mp htrace
  dsimp only at htrace
  have hleft := axsWriteBytesReadBytes_trace (length_writeReg_pos _) hcounts
    fun event hmem => hbus event (List.mem_append_left _ hmem)
  rcases hleft with ⟨hret, answer, -, rfl, rfl⟩ | ⟨hret, -⟩
  · obtain ⟨rest, hreports⟩ := hreports
    obtain rfl : answer = [tx, rx] :=
      received_injective (List.cons.inj (List.cons.inj hreports).2).1
    rw [if_neg hret] at htrace
    rcases showBlock_trace htrace fun event hmem => hbus event (List.mem_append_right _ hmem) with
      hfailed | ⟨hsize, rxBuf, data, hlength, hevents, hdump, htotal⟩
    · exact .inl hfailed
    · refine .inr ⟨hsize, rxBuf, data, hlength, ?_, hdump, htotal⟩
      rw [Brings, hevents]
      rfl
  · rw [if_pos hret] at htrace
    obtain ⟨-, -, rfl⟩ := Prog.trace_pair.mp htrace
    exact .inl (by decide)

theorem exists_show (file : DumpFile) (around : Nat → UInt8) (rxBuf : List UInt8)
    (hbuffer : d.debugRxBuf = some rxBuf) (hlength : data.length = tx.toNat * rx.toNat)
    (hsize : data.length < axsCmdMaxReadBufLen) :
    ∃ events d' shown, (file.show around d).Trace events (d', shown) ∧
      (∀ event ∈ events, AllOrNothing event) ∧ Brings file tx rx data events ∧
      shown.dump = dumpRows tx.toNat rx.toNat (bufferBytes (overwrite rxBuf data) around) ∧
      shown.ret = shown.dump.page.total := by
  have hcounts : (axsWriteBytesReadBytes (writeReg axsFregTxrxNumRead) [0, 0] 2).Trace
      [Sent (writeReg axsFregTxrxNumRead), Received [tx, rx]] (2, [tx, rx]) :=
    @trace_axsWriteBytesReadBytes (writeReg axsFregTxrxNumRead) [0, 0] [tx, rx]
      (length_writeReg_pos _) (show 5 < 1024 by decide) (show 2 < 1024 by decide)
  have hdata := @trace_axsWriteBytesReadBytes (writeReg file.command) rxBuf data
    (length_writeReg_pos _) (show 5 < 1024 by decide) hsize
  refine ⟨_, { d with debugRxBuf := some (overwrite rxBuf data) },
    ⟨(dumpRows tx.toNat rx.toNat (bufferBytes (overwrite rxBuf data) around)).page.total,
      dumpRows tx.toNat rx.toNat (bufferBytes (overwrite rxBuf data) around)⟩, ?_, ?_, rfl, rfl, rfl⟩
  · rw [DumpFile.show_eq, axsShow]
    refine Prog.trace_bind.mpr ⟨_, _, [Sent (writeReg file.command), Received data], rfl, hcounts, ?_⟩
    dsimp only
    rw [if_neg (show ¬ (2 : Int) < 0 by decide), showBlock, hbuffer]
    refine Prog.trace_bind.mpr ⟨((data.length : Int), overwrite rxBuf data), _, [],
      (List.append_nil _).symm, ?_, ?_⟩
    · rw [hlength] at hdata ⊢
      exact hdata
    · dsimp only
      rw [if_neg (by omega)]
      exact ⟨rfl, rfl⟩
  · intro event hmem
    simp only [List.mem_cons, List.not_mem_nil, or_false] at hmem
    rcases hmem with rfl | rfl | rfl | rfl
    · exact allOrNothing_sent _
    · exact allOrNothing_received _
    · exact allOrNothing_sent _
    · exact allOrNothing_received _

end Transfers

/-! ### Which counts are dumped right -/

/-- The controller has more than a transfer takes, or the stride does not matter or is the length of a row, and the page is long enough. -/
def CountsFit (tx rx : Nat) : Prop :=
  axsCmdMaxReadBufLen ≤ tx * rx ∨ tx ≤ 1 ∨ rx = 0 ∨ (tx = rx ∧ tx ≤ 28)

section Counts

variable {tx rx : Nat} {data rxBuf : List UInt8} {around : Nat → UInt8} {shown : Shown}

theorem index_lt {i j : Nat} (hi : i < tx) (hj : j < rx) : i * rx + j < tx * rx :=
  calc i * rx + j < i * rx + rx := Nat.add_lt_add_left hj _
    _ = (i + 1) * rx := (Nat.succ_mul i rx).symm
    _ ≤ tx * rx := Nat.mul_le_mul_right rx hi

theorem index_eq (hrows : tx ≤ 1 ∨ rx = 0 ∨ tx = rx) {i j : Nat} (hi : i < tx) (hj : j < rx) :
    i * tx + j = i * rx + j := by
  rcases hrows with hone | hnone | hsquare
  · obtain rfl : i = 0 := by omega
    rw [Nat.zero_mul, Nat.zero_mul]
  · omega
  · rw [hsquare]

theorem rowsText_congr {bytes other : Nat → UInt8} {index otherIndex : Nat → Nat → Nat}
    (hsame : ∀ i < tx, ∀ j < rx, bytes (index i j) = other (otherIndex i j)) :
    rowsText tx rx bytes index = rowsText tx rx other otherIndex := by
  rw [rowsText, rowsText, List.flatMap_def, List.flatMap_def]
  congr 1
  refine List.map_congr_left fun i hi => ?_
  congr 1
  refine List.map_congr_left fun j hj => ?_
  rw [hsame i (List.mem_range.mp hi) j (List.mem_range.mp hj)]

theorem rows_fit {tx rx : UInt8}
    (hcounts : tx.toNat ≤ 1 ∨ rx.toNat = 0 ∨ (tx.toNat = rx.toNat ∧ tx.toNat ≤ 28)) :
    tx.toNat * (5 * rx.toNat + 1) < pageSize := by
  have htx : tx.toNat < 256 := tx.toNat_lt
  have hrx : rx.toNat < 256 := rx.toNat_lt
  rw [pageSize]
  rcases hcounts with hone | hnone | ⟨hsquare, hsmall⟩
  · calc tx.toNat * (5 * rx.toNat + 1) ≤ 1 * (5 * rx.toNat + 1) := Nat.mul_le_mul_right _ hone
      _ < 4096 := by omega
  · rw [hnone]
    omega
  · calc tx.toNat * (5 * rx.toNat + 1) ≤ 28 * (5 * 28 + 1) := Nat.mul_le_mul hsmall (by omega)
      _ < 4096 := by decide

theorem faithful_of_rows (hrows : tx ≤ 1 ∨ rx = 0 ∨ tx = rx) (hfits : tx * (5 * rx + 1) < pageSize)
    (hlength : data.length = tx * rx)
    (hdump : shown.dump = dumpRows tx rx (bufferBytes (overwrite rxBuf data) around))
    (htotal : shown.ret = shown.dump.page.total) : Faithful tx rx data shown where
  text := by
    rw [hdump, text_dumpRows hfits]
    congr 1
    refine rowsText_congr fun i hi j hj => ?_
    rw [index_eq hrows hi hj]
    apply bufferBytes_overwrite
    rw [hlength]
    exact index_lt hi hj
  reads := by
    intro index hindex
    rw [hdump, mem_reads] at hindex
    obtain ⟨i, hi, j, hj, rfl⟩ := hindex
    rw [index_eq hrows hi hj]
    exact index_lt hi hj
  ret := by
    rw [htotal, hdump]
    exact Int.ofNat_lt.mpr (total_dumpRows_lt_iff.mpr hfits)

/-- A block that tells the entry the second row starts with from the entry it should start with. -/
def markedBlock (tx rx : Nat) : List UInt8 := (List.replicate (tx * rx) 0).set rx 1

theorem length_markedBlock : (markedBlock tx rx).length = tx * rx := by
  rw [markedBlock, List.length_set, List.length_replicate]

theorem markedBlock_mark (hrx : rx < tx * rx) : (markedBlock tx rx).getD rx 0 = 1 := by
  rw [List.getD_eq_getElem _ _ (by rw [length_markedBlock]; exact hrx)]
  exact List.getElem_set_self _

theorem markedBlock_of_ne {index : Nat} (hindex : index ≠ rx) :
    (markedBlock tx rx).getD index 0 = 0 := by
  rw [markedBlock, List.getD_eq_getElem?_getD, List.getElem?_set_ne (Ne.symm hindex),
    ← List.getD_eq_getElem?_getD]
  by_cases hlength : index < tx * rx
  · exact List.getD_replicate _ hlength
  · rw [List.getD_eq_default _ _ (by rw [List.length_replicate]; omega)]

theorem not_faithful_marked (hcounts : ¬ CountsFit tx rx)
    (hdump : shown.dump =
      dumpRows tx rx (bufferBytes (overwrite rxBuf (markedBlock tx rx)) around))
    (htotal : shown.ret = shown.dump.page.total) :
    ¬ Faithful tx rx (markedBlock tx rx) shown := by
  intro hfaithful
  rw [CountsFit] at hcounts
  push Not at hcounts
  obtain ⟨-, htx, hrx, hsquare⟩ := hcounts
  have hpage : tx * (5 * rx + 1) < pageSize := by
    have hret := hfaithful.ret
    rw [htotal, hdump] at hret
    exact total_dumpRows_lt_iff.mp (Int.ofNat_lt.mp hret)
  rcases Nat.lt_trichotomy tx rx with hwide | rfl | htall
  · -- the second row starts at `tx` and not at `rx`
    have htxIndex : tx < tx * rx := (Nat.lt_mul_iff_one_lt_right (by omega)).mpr (by omega)
    have hrxIndex : rx < tx * rx := (Nat.lt_mul_iff_one_lt_left (by omega)).mpr htx
    have htext := hfaithful.text
    rw [hdump, text_dumpRows hpage] at htext
    have hentry := entries_of_rowsText htext htx (by omega : 0 < rx)
    rw [Nat.one_mul, Nat.one_mul, Nat.add_zero, Nat.add_zero,
      bufferBytes_overwrite (by rw [length_markedBlock]; exact htxIndex),
      markedBlock_of_ne (by omega), markedBlock_mark hrxIndex] at hentry
    exact absurd hentry (by decide)
  · -- a square that is too large for the page
    have hlarge := hsquare rfl
    have hlength : 29 * (5 * 29 + 1) ≤ tx * (5 * tx + 1) := Nat.mul_le_mul hlarge (by omega)
    rw [pageSize] at hpage
    omega
  · -- the last row is behind the block
    have hlast := hfaithful.reads ((tx - 1) * tx + (rx - 1)) (by
      rw [hdump, mem_reads]
      exact ⟨tx - 1, by omega, rx - 1, by omega, rfl⟩)
    have hrow : rx * tx ≤ (tx - 1) * tx := Nat.mul_le_mul_right tx (by omega)
    rw [Nat.mul_comm tx rx] at hlast
    omega

end Counts

theorem brings_injective {file : DumpFile} {tx rx : UInt8} {data other : List UInt8}
    {events : List (Event Bus)} (hdata : Brings file tx rx data events)
    (hother : Brings file tx rx other events) : data = other := by
  rw [Brings] at hdata hother
  rw [hdata] at hother
  have hlast := (List.cons.inj (List.cons.inj (List.cons.inj (List.cons.inj hother).2).2).2).1
  exact received_injective hlast

theorem not_dumpsFaithfully (file : DumpFile) {tx rx : UInt8}
    (hcounts : ¬ CountsFit tx.toNat rx.toNat) : ¬ DumpsFaithfully file tx rx := by
  intro hdumps
  have hsize : tx.toNat * rx.toNat < axsCmdMaxReadBufLen := by
    by_contra hlarge
    exact hcounts (.inl (not_lt.mp hlarge))
  obtain ⟨events, d', shown, htrace, hbus, hbrings, hdump, htotal⟩ :=
    @exists_show .fresh tx rx (markedBlock tx.toNat rx.toNat) file (fun _ => 0) _ rfl
      length_markedBlock (by rw [length_markedBlock]; exact hsize)
  rcases hdumps _ _ events d' shown htrace hbus ⟨_, hbrings⟩ with
    hfailed | ⟨data, -, hother, hfaithful⟩
  · rw [htotal] at hfailed
    omega
  · rw [← brings_injective hbrings hother] at hfaithful
    exact not_faithful_marked hcounts hdump htotal hfaithful

/-- Every block of a controller with `tx` rows and `rx` columns is dumped right exactly where a transfer does not take it, there is at most one row or no column, or there are as many rows as columns and at most 28. -/
theorem dumpsFaithfully_iff (file : DumpFile) (tx rx : UInt8) :
    DumpsFaithfully file tx rx ↔ CountsFit tx.toNat rx.toNat := by
  constructor
  · intro hdumps
    by_contra hcounts
    exact not_dumpsFaithfully file hcounts hdumps
  · intro hcounts around d events d' shown htrace hbus hreports
    rcases show_trace htrace hbus hreports with
      hfailed | ⟨hsize, rxBuf, data, hlength, hbrings, hdump, htotal⟩
    · exact .inl hfailed
    · refine .inr ⟨data, hlength, hbrings, ?_⟩
      have hrows := hcounts.resolve_left (not_le.mpr hsize)
      refine faithful_of_rows ?_ (rows_fit hrows) hlength hdump htotal
      rcases hrows with hone | hnone | ⟨hsquare, -⟩
      · exact .inl hone
      · exact .inr (.inl hnone)
      · exact .inr (.inr hsquare)

/-- Two rows of three columns are printed with the second row one byte early. -/
theorem not_dumpsFaithfully_two_by_three :
    ¬ ∀ (file : DumpFile) (tx rx : UInt8), DumpsFaithfully file tx rx := by
  intro hdumps
  have hcounts : ¬ CountsFit 2 3 := by
    rw [CountsFit, axsCmdMaxReadBufLen]
    omega
  exact @not_dumpsFaithfully .rawdata 2 3 hcounts (hdumps .rawdata 2 3)

end FrontPanel.Touch
