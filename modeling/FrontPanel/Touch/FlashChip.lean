import FrontPanel.Lib.Machine
import FrontPanel.Lib.NorFlash
import FrontPanel.Touch.FlashImage

/-!
# An upgrade and the flash chip

The chip that the routines of `axs_upgrade.c` talk to, which is not in the repository, as far as they rely on it: a command arrives as one write of the bus, the next read of the bus gets what the command puts out, and an erase, a program or a status write takes the chip a while, during which it heeds nothing but a status read. What an erase and a program do to the cells and how long they take are given from outside, so a chip may be broken in any way that leaves its reads honest.

On every such chip `axs_Y15205_upgrade` returns true exactly if each of its waits is long enough and the image is what the cells were left with, and on a NOR chip the second is always so.
-/

namespace FrontPanel.Touch.Flash

open NorFlash

/-! ### The chip -/

/-- What is given from outside: `delay` is how many status reads find the operation with a number still going on. -/
structure ChipKind where
  erase : Cells → Cells
  program : Cells → Nat → List UInt8 → Cells
  delay : Nat → Nat
  identification : UInt8

structure Chip where
  cells : Cells
  /-- the bits of the status register that a status write sets -/
  bits : UInt8
  writeEnabled : Bool
  /-- how many status reads will still find it busy -/
  busy : Nat
  /-- how many operations it has begun -/
  begun : Nat
  /-- what it puts out, byte by byte -/
  out : Nat → UInt8

namespace Chip

def status (chip : Chip) : UInt8 :=
  chip.bits ||| (if chip.writeEnabled then 0x02 else 0x00) ||| (if chip.busy ≠ 0 then 0x01 else 0x00)

/-- An operation begins, and with it the write enable ends. -/
def begin (kind : ChipKind) (chip : Chip) : Chip :=
  { chip with writeEnabled := false, busy := kind.delay chip.begun, begun := chip.begun + 1 }

def receive (kind : ChipKind) (chip : Chip) : List UInt8 → Chip
  | [] => chip
  | opcode :: operands =>
      if opcode = 0x05 then { chip with out := fun _ => chip.status, busy := chip.busy - 1 }
      else if chip.busy ≠ 0 then chip
      else if opcode = 0x06 then { chip with writeEnabled := true }
      else if opcode = 0x9f then { chip with out := fun _ => kind.identification }
      else if opcode = 0x0b then
        match operands with
        | [high, middle, low] =>
            { chip with
              out := fun i => if i = 0 then 0x00 else chip.cells (address24 high middle low + (i - 1)) }
        | _ => chip
      else if !chip.writeEnabled then chip
      else if opcode = 0x01 then
        match operands with
        | [value] => { chip with bits := value &&& 0xfc }.begin kind
        | _ => chip
      else if opcode = 0xc7 then { chip with cells := kind.erase chip.cells }.begin kind
      else if opcode = 0x02 then
        match operands with
        | high :: middle :: low :: bytes =>
            { chip with cells := kind.program chip.cells (address24 high middle low) bytes }.begin kind
        | _ => chip
      else chip

/-- A write of the bus reaches the chip if it has the form of a command. -/
def sent (kind : ChipKind) (chip : Chip) (bytes : List UInt8) : Chip :=
  match flashBody bytes with
  | some body => chip.receive kind body
  | none => chip

end Chip

def ChipKind.machine (kind : ChipKind) : Machine Bus Chip where
  serve := fun chip op =>
    match op with
    | .i2cMasterSend bytes => ((bytes.length : Int), chip.sent kind bytes)
    | .i2cMasterRecv length => (((length : Int), (List.range length).map chip.out), chip)
    | .kzalloc _ => (true, chip)

/-- A NOR flash of pages of 256 bytes. -/
def ChipKind.nor (delay : Nat → Nat) (identification : UInt8) : ChipKind where
  erase := fun _ => erased
  program := NorFlash.program 256
  delay := delay
  identification := identification

/-! ### The transfers on the chip -/

section Run

variable {kind : ChipKind} {chip : Chip}

theorem run_axsWriteBytes {bytes : List UInt8} (hsome : bytes ≠ [])
    (hlength : bytes.length < axsCmdMaxWriteBufLen) :
    kind.machine.run (axsWriteBytes bytes) chip = ((bytes.length : Int), chip.sent kind bytes) := by
  have hne : ¬ (bytes.length = 0 ∨ axsCmdMaxWriteBufLen ≤ bytes.length) := by
    rw [List.length_eq_zero_iff]
    exact not_or.mpr ⟨hsome, Nat.not_le_of_lt hlength⟩
  rw [axsWriteBytes, if_neg hne, i2cMasterSend_bind, Machine.run_call]
  show kind.machine.run (if ((bytes.length : Int) ≠ bytes.length) then _ else _) _ = _
  rw [if_neg (not_not.mpr rfl)]
  rfl

theorem run_axsWriteBytesReadBytes {cmd data : List UInt8} {datalen : Nat} (hsome : cmd ≠ [])
    (hlength : cmd.length < axsCmdMaxWriteBufLen) (hdatalen : datalen < axsCmdMaxReadBufLen) :
    kind.machine.run (axsWriteBytesReadBytes cmd data datalen) chip =
      (((datalen : Int), overwrite data ((List.range datalen).map (chip.sent kind cmd).out)),
        chip.sent kind cmd) := by
  have hne : ¬ (axsCmdMaxWriteBufLen ≤ cmd.length ∨ axsCmdMaxReadBufLen ≤ datalen) := by omega
  rw [axsWriteBytesReadBytes, if_neg hne, sendCmd, if_pos (List.length_pos_of_ne_nil hsome),
    i2cMasterSend_bind, Machine.run_call]
  show kind.machine.run (if ((cmd.length : Int) ≠ cmd.length) then _ else _) _ = _
  rw [if_neg (not_not.mpr rfl)]
  rfl

/-! ### The commands on the chip -/

theorem sent_writeEnable (hready : chip.busy = 0) :
    chip.sent kind writeEnable = { chip with writeEnabled := true } := by
  show chip.receive kind [0x06] = _
  simp [Chip.receive, hready]

theorem sent_readIdentification (hready : chip.busy = 0) :
    chip.sent kind readIdentification = { chip with out := fun _ => kind.identification } := by
  show chip.receive kind [0x9f] = _
  simp [Chip.receive, hready]

theorem sent_writeStatus (hready : chip.busy = 0) (henabled : chip.writeEnabled = true) :
    chip.sent kind writeStatus = { chip with bits := 0 }.begin kind := by
  show chip.receive kind [0x01, 0x02] = _
  simp only [Chip.receive, hready, henabled]
  rfl

theorem sent_readStatus :
    chip.sent kind readStatus = { chip with out := fun _ => chip.status, busy := chip.busy - 1 } := rfl

theorem sent_chipErase (hready : chip.busy = 0) (henabled : chip.writeEnabled = true) :
    chip.sent kind chipErase = { chip with cells := kind.erase chip.cells }.begin kind := by
  show chip.receive kind [0xc7] = _
  simp [Chip.receive, hready, henabled]

theorem sent_pageProgram {fw : List UInt8} {addr size : Nat} (haddr : addr < 0x1000000)
    (hsize : size ≤ packetLen) (hfits : addr + size ≤ fw.length) (hready : chip.busy = 0)
    (henabled : chip.writeEnabled = true) :
    chip.sent kind (pageProgram fw addr size) =
      { chip with cells := kind.program chip.cells addr ((fw.drop addr).take size) }.begin kind := by
  rw [Chip.sent, flashBody_pageProgram hsize hfits]
  simp [Chip.receive, hready, henabled, addrBytes, address24_addrBytes haddr]

theorem sent_fastRead {addr size : Nat} (haddr : addr < 0x1000000) (hready : chip.busy = 0) :
    chip.sent kind (fastRead addr size) =
      { chip with out := fun i => if i = 0 then 0x00 else chip.cells (addr + (i - 1)) } := by
  rw [Chip.sent, flashBody_fastRead]
  simp [Chip.receive, hready, addrBytes, address24_addrBytes haddr]

/-! ### Waiting -/

/-- The chip after it has been polled until it is ready, at most `times` times. -/
def Chip.polled (chip : Chip) (times : Nat) : Chip :=
  { chip with busy := chip.busy - times, out := fun _ => if chip.busy < times then 0x00 else 0x01 }

theorem status_eq (hbits : chip.bits = 0) (henabled : chip.writeEnabled = false) :
    chip.status = if chip.busy = 0 then 0x00 else 0x01 := by
  rw [Chip.status, hbits, henabled]
  by_cases hbusy : chip.busy = 0
  · simp [hbusy]
  · simp [hbusy]

theorem run_flashIsReadyLoop_succ {times : Nat} (hbits : chip.bits = 0)
    (henabled : chip.writeEnabled = false) (byte : UInt8) :
    kind.machine.run (flashIsReadyLoop (times + 1) [byte]) chip =
      if chip.busy = 0 then ([0x00], chip.polled (times + 1))
      else kind.machine.run (flashIsReadyLoop times [0x01]) (chip.polled 1) := by
  rw [flashIsReadyLoop, Machine.run_bind,
    run_axsWriteBytesReadBytes (by decide) (by decide) (by decide), sent_readStatus, status_eq hbits henabled]
  by_cases hbusy : chip.busy = 0
  · rw [if_pos hbusy, if_pos hbusy]
    simp [Chip.polled, hbusy, overwrite, List.range_one]
  · rw [if_neg hbusy, if_neg hbusy]
    have hpolled : chip.polled 1 = { chip with out := fun _ => 0x01, busy := chip.busy - 1 } := by
      rw [Chip.polled, if_neg (by omega)]
    rw [hpolled]
    rfl

theorem run_flashIsReadyLoop {times : Nat} (hbits : chip.bits = 0)
    (henabled : chip.writeEnabled = false) (byte : UInt8) :
    kind.machine.run (flashIsReadyLoop (times + 1) [byte]) chip =
      ([if chip.busy < times + 1 then 0x00 else 0x01], chip.polled (times + 1)) := by
  induction times generalizing chip byte with
  | zero =>
      rw [run_flashIsReadyLoop_succ hbits henabled]
      by_cases hbusy : chip.busy = 0
      · rw [if_pos hbusy, if_pos (by omega)]
      · rw [if_neg hbusy, if_neg (by omega)]
        rfl
  | succ times ih =>
      rw [run_flashIsReadyLoop_succ hbits henabled]
      by_cases hbusy : chip.busy = 0
      · rw [if_pos hbusy, if_pos (by omega)]
      · have hleft : chip.busy - 1 < times + 1 ↔ chip.busy < times + 1 + 1 := by omega
        have hrest : chip.busy - 1 - (times + 1) = chip.busy - (times + 1 + 1) := by omega
        rw [if_neg hbusy, @ih (chip.polled 1) hbits henabled]
        simp only [Chip.polled, hleft, hrest]

theorem run_flashIsReady {times : Nat} (htimes : times ≠ 0) (hbits : chip.bits = 0)
    (henabled : chip.writeEnabled = false) :
    kind.machine.run (flashIsReady times) chip = (decide (chip.busy < times), chip.polled times) := by
  obtain ⟨times, rfl⟩ := Nat.exists_eq_succ_of_ne_zero htimes
  rw [flashIsReady, Machine.run_bind, run_flashIsReadyLoop hbits henabled]
  show (decide ([_] = [0x00]), _) = _
  split
  · next hready => simp [hready]
  · next hbusy => simp [hbusy]

/-! ### The routines on the chip -/

theorem run_bind_int {program : Prog Bus Int} {rest : Int → Prog Bus Bool} {count : Nat}
    {after : Chip} (hrun : kind.machine.run program chip = ((count : Int), after)) :
    kind.machine.run (program >>= fun ret => if ret < 0 then pure false else rest ret) chip =
      kind.machine.run (rest (count : Int)) after := by
  rw [Machine.run_bind, hrun, if_neg (by omega)]

theorem run_bind_read {cmd data : List UInt8} {rest : Prog Bus Bool} (hsome : cmd ≠ [])
    (hlength : cmd.length < axsCmdMaxWriteBufLen) :
    kind.machine.run (axsWriteBytesReadBytes cmd data 1 >>= fun read =>
      if read.1 < 0 then pure false else rest) chip = kind.machine.run rest (chip.sent kind cmd) := by
  rw [Machine.run_bind, run_axsWriteBytesReadBytes hsome hlength (by decide)]
  rfl

theorem run_bind_bool {program rest : Prog Bus Bool} :
    kind.machine.run (program >>= fun ok => if (!ok) = true then pure false else rest) chip =
      if (kind.machine.run program chip).1 then
        kind.machine.run rest (kind.machine.run program chip).2
      else (false, (kind.machine.run program chip).2) := by
  rw [Machine.run_bind]
  cases (kind.machine.run program chip).1 with
  | true => rfl
  | false => rfl

/-- A chip that does nothing and waits for no write. -/
structure Chip.Idle (chip : Chip) : Prop where
  ready : chip.busy = 0
  bits : chip.bits = 0
  disabled : chip.writeEnabled = false

/-- The operation that begins is over in time. -/
def ChipKind.InTime (kind : ChipKind) (operation : Nat) : Prop := kind.delay operation < 2000

instance (kind : ChipKind) (operation : Nat) : Decidable (kind.InTime operation) :=
  inferInstanceAs (Decidable (_ < _))

/-- An operation of the chip `before` was waited for, and left `cells`. -/
structure Waited (kind : ChipKind) (before : Chip) (cells : Cells) (result : Bool × Chip) : Prop where
  inTime : result.1 = decide (kind.InTime before.begun)
  idle : kind.InTime before.begun → result.2.Idle
  cells : result.2.cells = cells
  begun : result.2.begun = before.begun + 1

theorem run_begin_flashIsReady (kind : ChipKind) (middle : Chip) {cells : Cells}
    (hbits : middle.bits = 0) (hcells : middle.cells = cells) (hbegun : middle.begun = chip.begun) :
    Waited kind chip cells (kind.machine.run (flashIsReady 2000) (middle.begin kind)) := by
  have hbits' : (middle.begin kind).bits = 0 := hbits
  rw [run_flashIsReady (by decide) hbits' rfl]
  subst hcells
  refine ⟨?_, fun hinTime => ⟨Nat.sub_eq_zero_of_le (Nat.le_of_lt ?_), hbits, rfl⟩, rfl, ?_⟩
  · rw [← hbegun]
    rfl
  · rw [← hbegun] at hinTime
    exact hinTime
  · rw [← hbegun]
    rfl

theorem run_axsFwupgFlashInit (kind : ChipKind) (hready : chip.busy = 0) :
    Waited kind chip chip.cells (kind.machine.run axsFwupgFlashInit chip) := by
  rw [axsFwupgFlashInit, run_bind_int (run_axsWriteBytes (by decide) (by decide)), sent_writeEnable,
    run_bind_read (by decide) (by decide), sent_readIdentification,
    run_bind_int (run_axsWriteBytes (by decide) (by decide)), sent_writeEnable,
    run_bind_read (by decide) (by decide), sent_readStatus,
    run_bind_int (run_axsWriteBytes (by decide) (by decide)), sent_writeStatus]
  · refine run_begin_flashIsReady kind _ ?_ ?_ ?_
    all_goals rfl
  · show chip.busy - 1 = 0
    rw [hready]
  · rfl
  all_goals exact hready

theorem run_axsFwupgFlashErase (kind : ChipKind) (hidle : chip.Idle) :
    Waited kind chip (kind.erase chip.cells) (kind.machine.run axsFwupgFlashErase chip) := by
  rw [axsFwupgFlashErase, run_bind_int (run_axsWriteBytes (by decide) (by decide)),
    sent_writeEnable hidle.ready, run_bind_int (run_axsWriteBytes (by decide) (by decide)),
    sent_chipErase]
  · refine run_begin_flashIsReady kind _ ?_ ?_ ?_
    · exact hidle.bits
    · rfl
    · rfl
  · exact hidle.ready
  · rfl

/-! ### The loops on the chip -/

/-- The packet programmed and read with `left` more to go, at its address. -/
def packet (fw : List UInt8) (left : Nat) : Nat × List UInt8 :=
  (packetsFrom fw.length (left + 1), (fw.drop (packetsFrom fw.length (left + 1))).take
    (currentSize fw.length (totalPackets fw.length - left)))

def packets (fw : List UInt8) : Nat → List (Nat × List UInt8)
  | 0 => []
  | left + 1 => packet fw left :: packets fw left

def ChipKind.programAll (kind : ChipKind) (cells : Cells) (pieces : List (Nat × List UInt8)) : Cells :=
  pieces.foldl (fun cells piece => kind.program cells piece.1 piece.2) cells

variable {fw : List UInt8} {left : Nat}

theorem tiles_packets (hleft : left ≤ totalPackets fw.length) :
    Tiles (packetsFrom fw.length left) (packets fw left) (fw.drop (packetsFrom fw.length left)) := by
  induction left with
  | zero =>
      rw [List.drop_eq_nil_of_le (packetsFrom_zero _)]
      rfl
  | succ left ih => exact Tiles.image_packet hleft (ih (Nat.le_of_succ_le hleft))

theorem packet_bounds (hlength : fw.length ≤ 128 * 1024) (hleft : left < totalPackets fw.length) :
    packetsFrom fw.length (left + 1) < 0x1000000 ∧
    currentSize fw.length (totalPackets fw.length - left) ≤ packetLen ∧
    packetsFrom fw.length (left + 1) + currentSize fw.length (totalPackets fw.length - left) ≤
      fw.length := by
  have hbegin := packetsFrom_lt hleft
  have hsize := currentSize_eq hleft
  omega

theorem packet_page (hleft : left < totalPackets fw.length) :
    (packet fw left).1 % 256 + (packet fw left).2.length ≤ 256 := by
  have hsize := currentSize_eq hleft
  have hbegin : packetsFrom fw.length (left + 1) % 256 = 0 := Nat.mul_mod_left _ _
  have hlength : (packet fw left).2.length ≤ currentSize fw.length (totalPackets fw.length - left) :=
    List.length_take_le _ _
  rw [packetLen] at hsize
  show packetsFrom fw.length (left + 1) % 256 + _ ≤ 256
  omega

theorem packets_page (hleft : left ≤ totalPackets fw.length) :
    ∀ piece ∈ packets fw left, piece.1 % 256 + piece.2.length ≤ 256 := by
  induction left with
  | zero =>
      intro piece hmem
      cases hmem
  | succ left ih =>
      rw [packets, List.forall_mem_cons]
      exact ⟨packet_page hleft, ih (Nat.le_of_succ_le hleft)⟩

theorem length_pageProgram {addr size : Nat} (hfits : addr + size ≤ fw.length) :
    (pageProgram fw addr size).length = 15 + size := by
  simp [pageProgram, writeReadBuf, magic, addrBytes]
  omega

theorem flashWriteLoop_succ (fwBuf : List UInt8) (fwLen left : Nat) :
    flashWriteLoop fwBuf fwLen (left + 1) =
      axsWriteBytes writeEnable >>= fun ret => if ret < 0 then pure false else
        axsWriteBytes (pageProgram fwBuf (packetsFrom fwLen (left + 1))
          (currentSize fwLen (totalPackets fwLen - left))) >>= fun ret =>
            if ret < 0 then pure false else
              flashIsReady 2000 >>= fun ready => if (!ready) = true then pure false else
                flashWriteLoop fwBuf fwLen left := rfl

/-- What the loop that writes gives. -/
structure Written (kind : ChipKind) (before : Chip) (fw : List UInt8) (left : Nat)
    (result : Bool × Chip) : Prop where
  inTime : result.1 = true ↔ ∀ i < left, kind.InTime (before.begun + i)
  idle : result.1 = true → result.2.Idle
  cells : result.1 = true → result.2.cells = kind.programAll before.cells (packets fw left)

theorem run_flashWriteLoop_succ (kind : ChipKind) (hlength : fw.length ≤ 128 * 1024)
    (hleft : left < totalPackets fw.length) (hidle : chip.Idle) :
    ∃ waited, Waited kind chip (kind.program chip.cells (packet fw left).1 (packet fw left).2) waited ∧
      kind.machine.run (flashWriteLoop fw fw.length (left + 1)) chip =
        if waited.1 then kind.machine.run (flashWriteLoop fw fw.length left) waited.2
        else (false, waited.2) := by
  obtain ⟨haddr, hsize, hfits⟩ := packet_bounds hlength hleft
  have hpage : (pageProgram fw (packetsFrom fw.length (left + 1))
      (currentSize fw.length (totalPackets fw.length - left))).length < axsCmdMaxWriteBufLen := by
    rw [length_pageProgram hfits, axsCmdMaxWriteBufLen]
    rw [packetLen] at hsize
    omega
  have hsome : pageProgram fw (packetsFrom fw.length (left + 1))
      (currentSize fw.length (totalPackets fw.length - left)) ≠ [] := by
    simp [pageProgram, writeReadBuf]
  have hwaited : Waited kind chip (kind.program chip.cells (packet fw left).1 (packet fw left).2) _ :=
    run_begin_flashIsReady kind { chip with
      writeEnabled := true
      cells := kind.program chip.cells (packet fw left).1 (packet fw left).2 } hidle.bits rfl rfl
  refine ⟨_, hwaited, ?_⟩
  rw [flashWriteLoop_succ, run_bind_int (run_axsWriteBytes (by decide) (by decide)),
    sent_writeEnable hidle.ready, run_bind_int (run_axsWriteBytes hsome hpage),
    sent_pageProgram haddr hsize hfits, run_bind_bool]
  · rfl
  · exact hidle.ready
  · rfl

theorem run_flashWriteLoop (hlength : fw.length ≤ 128 * 1024) (hleft : left ≤ totalPackets fw.length)
    (hidle : chip.Idle) :
    Written kind chip fw left (kind.machine.run (flashWriteLoop fw fw.length left) chip) := by
  induction left generalizing chip with
  | zero => exact ⟨by simp [flashWriteLoop], fun _ => hidle, fun _ => rfl⟩
  | succ left ih =>
      obtain ⟨waited, hwaited, hrun⟩ := run_flashWriteLoop_succ kind hlength hleft hidle
      have hwhole : (∀ i < left + 1, kind.InTime (chip.begun + i)) ↔
          kind.InTime chip.begun ∧ ∀ i < left, kind.InTime (chip.begun + 1 + i) := by
        rw [Nat.forall_lt_succ_left]
        simp only [Nat.add_zero, Nat.add_assoc, Nat.add_comm 1]
      rw [hrun]
      by_cases hinTime : kind.InTime chip.begun
      · obtain ⟨hrest, hidle, hcells⟩ := ih (Nat.le_of_succ_le hleft) (hwaited.idle hinTime)
        rw [hwaited.begun] at hrest
        rw [hwaited.cells] at hcells
        rw [if_pos (hwaited.inTime.trans (decide_eq_true hinTime))]
        refine ⟨?_, hidle, hcells⟩
        rw [hrest, hwhole]
        exact (and_iff_right hinTime).symm
      · have hlate : waited.1 = false := hwaited.inTime.trans (decide_eq_false hinTime)
        rw [if_neg (by rw [hlate]; decide)]
        refine ⟨iff_of_false Bool.false_ne_true fun hall => hinTime (hwhole.mp hall).1, ?_, ?_⟩
        · intro hok
          cases hok
        · intro hok
          cases hok

theorem flashReadCheckLoop_succ (fwLen left : Nat) (tmpbuf : List UInt8) :
    flashReadCheckLoop fw fwLen (left + 1) tmpbuf =
      axsWriteBytesReadBytes (fastRead (packetsFrom fwLen (left + 1))
          (currentSize fwLen (totalPackets fwLen - left))) tmpbuf
          (currentSize fwLen (totalPackets fwLen - left) + 1) >>= fun read =>
        if read.1 < 0 then pure false else
          if (fw.drop (packetsFrom fwLen (left + 1))).take
              (currentSize fwLen (totalPackets fwLen - left)) ≠
                (read.2.drop 1).take (currentSize fwLen (totalPackets fwLen - left)) then pure false
          else flashReadCheckLoop fw fwLen left read.2 := rfl

theorem run_fastRead (kind : ChipKind) (tmpbuf : List UInt8) {addr size : Nat}
    (haddr : addr < 0x1000000) (hsize : size ≤ packetLen) (hready : chip.busy = 0) :
    ∃ (read : List UInt8) (after : Chip),
      kind.machine.run (axsWriteBytesReadBytes (fastRead addr size) tmpbuf (size + 1)) chip =
        ((((size + 1 : Nat) : Int), read), after) ∧
      (read.drop 1).take size = (List.range size).map (fun i => chip.cells (addr + i)) ∧
      after.busy = 0 ∧ after.cells = chip.cells := by
  have hsome : fastRead addr size ≠ [] := List.cons_ne_nil _ _
  have hdatalen : size + 1 < axsCmdMaxReadBufLen := by
    rw [axsCmdMaxReadBufLen]
    rw [packetLen] at hsize
    omega
  rw [run_axsWriteBytesReadBytes hsome (by rw [length_fastRead]; decide) hdatalen,
    sent_fastRead haddr hready]
  refine ⟨_, _, rfl, ?_, hready, rfl⟩
  rw [List.range_succ_eq_map, List.map_cons, overwrite, List.cons_append, List.drop_one,
    List.tail_cons, List.take_left' (by simp), List.map_map]
  apply List.map_congr_left
  intro i _
  simp

theorem run_flashReadCheckLoop_succ (kind : ChipKind) (tmpbuf : List UInt8)
    (hlength : fw.length ≤ 128 * 1024) (hleft : left < totalPackets fw.length)
    (hready : chip.busy = 0) :
    ∃ (read : List UInt8) (after : Chip), after.busy = 0 ∧ after.cells = chip.cells ∧
      kind.machine.run (flashReadCheckLoop fw fw.length (left + 1) tmpbuf) chip =
        if Stores chip.cells (packet fw left).1 (packet fw left).2 then
          kind.machine.run (flashReadCheckLoop fw fw.length left read) after
        else (false, after) := by
  obtain ⟨haddr, hsize, hfits⟩ := packet_bounds hlength hleft
  rw [flashReadCheckLoop_succ, Machine.run_bind, packet]
  dsimp only
  generalize packetsFrom fw.length (left + 1) = addr at *
  generalize currentSize fw.length (totalPackets fw.length - left) = size at *
  obtain ⟨read, after, hrun, hread, hafter, hcells⟩ := run_fastRead kind tmpbuf haddr hsize hready
  have hstores := stores_iff chip.cells addr ((fw.drop addr).take size)
  rw [List.length_take_of_le (by rw [List.length_drop]; omega), ← hread] at hstores
  refine ⟨read, after, hafter, hcells, ?_⟩
  rw [hrun]
  dsimp only
  rw [if_neg (by omega)]
  by_cases hsame : (fw.drop addr).take size = (read.drop 1).take size
  · rw [if_neg (not_not.mpr hsame), if_pos (hstores.mpr hsame)]
  · rw [if_pos hsame, if_neg (hstores.not.mpr hsame)]
    rfl

theorem run_flashReadCheckLoop {tmpbuf : List UInt8} (hlength : fw.length ≤ 128 * 1024)
    (hleft : left ≤ totalPackets fw.length) (hready : chip.busy = 0) :
    let result := kind.machine.run (flashReadCheckLoop fw fw.length left tmpbuf) chip
    (result.1 = true ↔ ∀ piece ∈ packets fw left, Stores chip.cells piece.1 piece.2) ∧
      result.2.cells = chip.cells := by
  induction left generalizing chip tmpbuf with
  | zero => simp [flashReadCheckLoop, packets]
  | succ left ih =>
      obtain ⟨read, after, hafter, hcells, hrun⟩ :=
        run_flashReadCheckLoop_succ kind tmpbuf hlength hleft hready
      rw [hrun, packets, List.forall_mem_cons]
      by_cases hstores : Stores chip.cells (packet fw left).1 (packet fw left).2
      · obtain ⟨hrest, hkept⟩ := @ih after read (Nat.le_of_succ_le hleft) hafter
        rw [if_pos hstores]
        rw [hcells] at hrest hkept
        exact ⟨hrest.trans (and_iff_right hstores).symm, hkept⟩
      · rw [if_neg hstores]
        exact ⟨iff_of_false Bool.false_ne_true fun hall => hstores hall.1, hcells⟩

/-! ### The upgrade on the chip -/

theorem run_axsFwupgFlashReadCheck (kind : ChipKind) (hlength : fw.length ≤ 128 * 1024)
    (hready : chip.busy = 0) :
    let result := kind.machine.run (axsFwupgFlashReadCheck fw fw.length) chip
    (result.1 = true ↔ Stores chip.cells 0 fw) ∧ result.2.cells = chip.cells := by
  have htiles := tiles_packets (Nat.le_refl (totalPackets fw.length))
  rw [packetsFrom, Nat.sub_self, Nat.zero_mul, List.drop_zero] at htiles
  rw [← stores_tiles htiles]
  exact run_flashReadCheckLoop hlength (Nat.le_refl _) hready

theorem run_write_check (kind : ChipKind) (hlength : fw.length ≤ 128 * 1024) (hidle : chip.Idle) :
    let stored := kind.programAll chip.cells (packets fw (totalPackets fw.length))
    let inTime := ∀ i < totalPackets fw.length, kind.InTime (chip.begun + i)
    let result := kind.machine.run (axsFwupgFlashWrite fw fw.length >>= fun ok =>
      if (!ok) = true then pure false else axsFwupgFlashReadCheck fw fw.length >>= fun ok =>
        if (!ok) = true then pure false else pure true) chip
    (result.1 = true ↔ inTime ∧ Stores stored 0 fw) ∧ (inTime → result.2.cells = stored) := by
  intro stored inTime result
  have hresult : result = kind.machine.run (axsFwupgFlashWrite fw fw.length >>= fun ok =>
      if (!ok) = true then pure false else axsFwupgFlashReadCheck fw fw.length >>= fun ok =>
        if (!ok) = true then pure false else pure true) chip := rfl
  have hwrite : Written kind chip fw (totalPackets fw.length)
      (kind.machine.run (axsFwupgFlashWrite fw fw.length) chip) :=
    run_flashWriteLoop hlength (Nat.le_refl _) hidle
  rw [run_bind_bool] at hresult
  generalize kind.machine.run (axsFwupgFlashWrite fw fw.length) chip = written at hwrite hresult
  have hinTime : written.1 = true ↔ inTime := hwrite.inTime
  rw [← hinTime]
  by_cases hwritten : written.1 = true
  · have hstored : written.2.cells = stored := hwrite.cells hwritten
    have hidle := hwrite.idle hwritten
    have hcheck := run_axsFwupgFlashReadCheck kind hlength hidle.ready
    rw [if_pos hwritten, run_bind_bool] at hresult
    generalize kind.machine.run (axsFwupgFlashReadCheck fw fw.length) written.2 = checked
      at hcheck hresult
    rw [hstored] at hcheck
    obtain ⟨hsame, hkept⟩ := hcheck
    rw [and_iff_right hwritten, ← hsame, hresult]
    by_cases hok : checked.1 = true
    · rw [if_pos hok]
      exact ⟨iff_of_true rfl hok, fun _ => hkept⟩
    · rw [if_neg hok]
      exact ⟨iff_of_false Bool.false_ne_true hok, fun _ => hkept⟩
  · rw [if_neg hwritten] at hresult
    rw [hresult]
    exact ⟨iff_of_false Bool.false_ne_true fun hall => hwritten hall.1,
      fun hall => absurd hall hwritten⟩

/-- An upgrade of a chip that is ready: if every wait is long enough the chip is left with its image as it stores one, and if that is the image, with success. -/
theorem run_axsY15205Upgrade (kind : ChipKind) (hlength : fw.length ≤ 128 * 1024)
    (hready : chip.busy = 0) :
    let stored := kind.programAll (kind.erase chip.cells) (packets fw (totalPackets fw.length))
    let inTime := ∀ i < totalPackets fw.length + 2, kind.InTime (chip.begun + i)
    let result := kind.machine.run (axsY15205Upgrade fw (some fw) fw.length) chip
    (result.1 = true ↔ inTime ∧ Stores stored 0 fw) ∧ (inTime → result.2.cells = stored) := by
  intro stored inTime result
  have hresult : result = kind.machine.run (axsY15205Upgrade fw (some fw) fw.length) chip := rfl
  have hsplit : inTime ↔ kind.InTime chip.begun ∧ kind.InTime (chip.begun + 1) ∧
      ∀ i < totalPackets fw.length, kind.InTime (chip.begun + 1 + 1 + i) := by
    show (∀ i < totalPackets fw.length + 1 + 1, kind.InTime (chip.begun + i)) ↔ _
    rw [Nat.forall_lt_succ_left, Nat.forall_lt_succ_left]
    simp only [Nat.add_zero, Nat.zero_add, Nat.add_assoc, Nat.add_comm 1]
  have hfails : ∀ after : Chip, ¬ inTime → (((false, after) : Bool × Chip).1 = true ↔
      inTime ∧ Stores stored 0 fw) ∧ (inTime → after.cells = stored) := fun after hlate =>
    ⟨iff_of_false Bool.false_ne_true fun hall => hlate hall.1, fun hall => absurd hall hlate⟩
  have hinit := run_axsFwupgFlashInit kind hready
  rw [axsY15205Upgrade, run_bind_bool] at hresult
  generalize kind.machine.run axsFwupgFlashInit chip = init at hinit hresult
  by_cases hfirst : kind.InTime chip.begun
  · have herase := run_axsFwupgFlashErase kind (hinit.idle hfirst)
    rw [if_pos (hinit.inTime.trans (decide_eq_true hfirst)), run_bind_bool] at hresult
    rw [hinit.cells] at herase
    generalize kind.machine.run axsFwupgFlashErase init.2 = erased at herase hresult
    have hinTime := herase.inTime
    have hidle := herase.idle
    have hbegun := herase.begun
    rw [hinit.begun] at hinTime hidle hbegun
    by_cases hsecond : kind.InTime (chip.begun + 1)
    · have hrest := run_write_check kind hlength (hidle hsecond)
      rw [if_pos (hinTime.trans (decide_eq_true hsecond))] at hresult
      rw [herase.cells, hbegun] at hrest
      rw [hsplit, and_iff_right hfirst, and_iff_right hsecond, hresult]
      exact hrest
    · have hlate : erased.1 = false := hinTime.trans (decide_eq_false hsecond)
      rw [if_neg (by rw [hlate]; decide)] at hresult
      rw [hresult]
      exact hfails _ fun hall => hsecond (hsplit.mp hall).2.1
  · have hlate : init.1 = false := hinit.inTime.trans (decide_eq_false hfirst)
    rw [if_neg (by rw [hlate]; decide)] at hresult
    rw [hresult]
    exact hfails _ fun hall => hfirst (hsplit.mp hall).1

/-- Whatever an erase and a program do to the cells, an upgrade of a chip that is ready succeeds exactly if every wait is long enough and the cells are left with the image. -/
theorem axsY15205Upgrade_on_chip (kind : ChipKind) (hlength : fw.length ≤ 128 * 1024)
    (hready : chip.busy = 0) :
    let result := kind.machine.run (axsY15205Upgrade fw (some fw) fw.length) chip
    result.1 = true ↔ (∀ i < totalPackets fw.length + 2, kind.InTime (chip.begun + i)) ∧
      Stores result.2.cells 0 fw := by
  intro result
  obtain ⟨hok, hcells⟩ := run_axsY15205Upgrade kind hlength hready
  rw [show result.1 = true ↔ _ from hok]
  refine and_congr_right fun hinTime => ?_
  rw [show result.2.cells = _ from hcells hinTime]

/-- A chip that ignores its programs is found out. -/
theorem deafChip_found_out :
    let kind : ChipKind := ⟨fun _ => erased, fun cells _ _ => cells, fun _ => 3, 0x85⟩
    let chip : Chip := ⟨fun _ => 0x00, 0, false, 0, 0, fun _ => 0xff⟩
    (kind.machine.run (axsY15205Upgrade [0x12, 0x34] (some [0x12, 0x34]) 2) chip).1 ≠ true := by
  intro kind chip hok
  have hstores := ((axsY15205Upgrade_on_chip kind (by decide) rfl).mp hok).2
  revert hstores
  decide

/-- On a NOR chip that is ready an upgrade succeeds exactly if every wait is long enough, and then the chip holds the image and nothing else. -/
theorem axsY15205Upgrade_on_nor (delay : Nat → Nat) (identification : UInt8)
    (hlength : fw.length ≤ 128 * 1024) (hready : chip.busy = 0) :
    let result := (ChipKind.nor delay identification).machine.run
      (axsY15205Upgrade fw (some fw) fw.length) chip
    (result.1 = true ↔ ∀ i < totalPackets fw.length + 2, delay (chip.begun + i) < 2000) ∧
      (result.1 = true → ∀ address, result.2.cells address = fw.getD address 0xff) := by
  intro result
  have htiles := tiles_packets (Nat.le_refl (totalPackets fw.length))
  rw [packetsFrom, Nat.sub_self, Nat.zero_mul, List.drop_zero] at htiles
  have hstored := programAll_erased htiles (packets_page (Nat.le_refl _))
  obtain ⟨hok, hcells⟩ := run_axsY15205Upgrade (.nor delay identification) hlength hready
  have hstores : Stores (programAll 256 erased (packets fw (totalPackets fw.length))) 0 fw := by
    intro i hi
    rw [hstored, Nat.zero_add, List.getD_eq_getElem _ _ hi]
  refine ⟨hok.trans (and_iff_left hstores), fun htrue address => ?_⟩
  rw [show result.2.cells = _ from hcells (hok.mp htrue).1]
  exact hstored address

end Run

end FrontPanel.Touch.Flash
