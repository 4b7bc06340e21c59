import FrontPanel.Lib.Tiles
import FrontPanel.Touch.Flash

/-!
# A successful upgrade wrote the whole image

What the flash is told, read off the bus without looking at the code that says it: a command is decoded from its bytes, the page programs and the read-backs of a trace are the pieces it wrote and read, and the theorem at the end says that in every trace on which `axs_Y15205_upgrade` returns true both tile the image. The write loop and the read loop are followed separately, packet by packet, each over the part of the image it still has to do.
-/

namespace FrontPanel.Touch.Flash

/-! ### Decoding the bus -/

/-- The bytes a command carries for the flash, if it has the form of a command and the number it announces is the number there is. -/
def flashBody (bytes : List UInt8) : Option (List UInt8) :=
  if bytes.take 4 = magic ∧ (bytes.drop 8).take 3 = [0x00, 0x00, 0x00] ∧
      (bytes.drop 11).length = (bytes.getD 4 0).toNat * 256 + (bytes.getD 5 0).toNat then
    some (bytes.drop 11)
  else none

def address24 (high middle low : UInt8) : Nat :=
  high.toNat * 65536 + middle.toNat * 256 + low.toNat

/-- A page program, as address and payload. -/
def programOf : BusOp → Option (Nat × List UInt8)
  | .i2cMasterSend bytes =>
      match flashBody bytes with
      | some (opcode :: high :: middle :: low :: payload) =>
          if opcode = 0x02 then some (address24 high middle low, payload) else none
      | _ => none
  | _ => none

/-- A read command, as address and number of bytes it asks for. -/
def readOf : BusOp → Option (Nat × Nat)
  | .i2cMasterSend bytes =>
      match flashBody bytes with
      | some [opcode, high, middle, low] =>
          if opcode = 0x0b then
            some (address24 high middle low,
              (bytes.getD 6 0).toNat * 256 + (bytes.getD 7 0).toNat)
          else none
      | _ => none
  | _ => none

/-- The page programs on the bus, in order. -/
def programs (events : List (Event Bus)) : List (Nat × List UInt8) :=
  events.filterMap fun event => programOf event.op

/-- What an event reads back, given the events after it: a read command answered by as many bytes as it asks for, the first of which is a dummy. -/
def readBack (event : Event Bus) (after : List (Event Bus)) : Option (Nat × List UInt8) :=
  match readOf event.op, after with
  | some (address, length), ⟨.i2cMasterRecv _, (_, received)⟩ :: _ =>
      if received.length = length then some (address, received.drop 1) else none
  | _, _ => none

/-- The bytes read back on the bus, in order, as pieces at their addresses. -/
def readBacks : List (Event Bus) → List (Nat × List UInt8)
  | [] => []
  | event :: after => (readBack event after).toList ++ readBacks after

/-- A status poll reads 0 before the next write enable. -/
def Polled (events : List (Event Bus)) : Prop :=
  ∃ polls rest, events = polls ++ Sent readStatus :: Received [0x00] :: rest ∧
    ∀ event ∈ polls, event.op ≠ .i2cMasterSend writeEnable

/-- Every page program is sent in full, directly after a write enable, and waited for. -/
def Bracketed (events : List (Event Bus)) : Prop :=
  ∀ before event after, events = before ++ event :: after → programOf event.op ≠ none →
    (∃ bytes, event = Sent bytes) ∧ (∃ earlier, before = earlier ++ [Sent writeEnable]) ∧
      Polled after

section Decoding

variable {left right : List (Event Bus)}

theorem programs_cons (event : Event Bus) :
    programs (event :: left) = (programOf event.op).toList ++ programs left := by
  cases hprogram : programOf event.op with
  | none => simp [programs, hprogram]
  | some piece => simp [programs, hprogram]

theorem programs_append : programs (left ++ right) = programs left ++ programs right :=
  List.filterMap_append

theorem programs_eq_nil (hleft : ∀ event ∈ left, programOf event.op = none) :
    programs left = [] :=
  List.filterMap_eq_nil_iff.mpr hleft

theorem readBacks_append_of_none (hleft : ∀ event ∈ left, readOf event.op = none) :
    readBacks (left ++ right) = readBacks right := by
  induction left with
  | nil => rfl
  | cons event left ih =>
      have hevent : readBack event (left ++ right) = none := by
        simp [readBack, hleft event List.mem_cons_self]
      rw [List.cons_append, readBacks, hevent,
        ih fun event hmem => hleft event (List.mem_cons_of_mem _ hmem)]
      rfl

theorem Polled.prepend (hright : Polled right)
    (hleft : ∀ event ∈ left, event.op ≠ .i2cMasterSend writeEnable) : Polled (left ++ right) := by
  obtain ⟨polls, rest, rfl, hpolls⟩ := hright
  refine ⟨left ++ polls, rest, by simp, fun event hmem => ?_⟩
  rcases List.mem_append.mp hmem with hmem | hmem
  · exact hleft event hmem
  · exact hpolls event hmem

theorem Polled.append (hleft : Polled left) : Polled (left ++ right) := by
  obtain ⟨polls, rest, rfl, hpolls⟩ := hleft
  exact ⟨polls, rest ++ right, by simp, hpolls⟩

theorem bracketed_of_none (hevents : ∀ event ∈ left, programOf event.op = none) :
    Bracketed left := by
  intro before event after hsame hprogram
  obtain rfl := hsame
  exact absurd (hevents event (by simp)) hprogram

theorem Bracketed.append (hleft : Bracketed left) (hright : Bracketed right) :
    Bracketed (left ++ right) := by
  intro before event after hsplit hprogram
  rcases List.append_eq_append_iff.mp hsplit with ⟨between, rfl, hevents⟩ | ⟨between, hevents, htail⟩
  · obtain ⟨hsent, ⟨earlier, rfl⟩, hpolled⟩ := hright between event after hevents hprogram
    exact ⟨hsent, ⟨left ++ earlier, by simp⟩, hpolled⟩
  · cases between with
    | nil =>
        obtain ⟨hsent, ⟨earlier, hearlier⟩, hpolled⟩ := hright [] event after htail.symm hprogram
        simp at hearlier
    | cons first between =>
        obtain ⟨rfl, rfl⟩ := List.cons.inj htail
        obtain ⟨hsent, hbefore, hpolled⟩ := hleft before event between hevents hprogram
        exact ⟨hsent, hbefore, hpolled.append⟩

end Decoding

/-! ### What the commands decode to -/

theorem flashBody_writeReadBuf {byte4 byte5 byte6 byte7 : UInt8} {body : List UInt8}
    (hlength : body.length = byte4.toNat * 256 + byte5.toNat) :
    flashBody (writeReadBuf byte4 byte5 byte6 byte7 body) = some body := by
  simp [flashBody, writeReadBuf, magic, hlength]

theorem lengthField {length : Nat} (hlength : length < 65536) :
    (UInt8.ofNat (length >>> 8)).toNat * 256 + (UInt8.ofNat (length &&& 0xff)).toNat = length := by
  rw [UInt8.toNat_ofNat', UInt8.toNat_ofNat', Nat.shiftRight_eq_div_pow,
    Nat.and_two_pow_sub_one_eq_mod length 8]
  omega

theorem address24_addrBytes {addr : Nat} (haddr : addr < 0x1000000) :
    address24 (UInt8.ofNat (addr >>> 16)) (UInt8.ofNat (addr >>> 8)) (UInt8.ofNat addr) = addr := by
  simp only [address24, UInt8.toNat_ofNat', Nat.shiftRight_eq_div_pow]
  omega

section Packet

variable {fw : List UInt8} {addr size : Nat}

theorem flashBody_pageProgram (hsize : size ≤ packetLen) (hfits : addr + size ≤ fw.length) :
    flashBody (pageProgram fw addr size) =
      some (0x02 :: addrBytes addr ++ (fw.drop addr).take size) := by
  apply flashBody_writeReadBuf
  rw [lengthField (by unfold packetLen at hsize; omega)]
  simp [addrBytes]
  omega

theorem programOf_pageProgram (haddr : addr < 0x1000000) (hsize : size ≤ packetLen)
    (hfits : addr + size ≤ fw.length) :
    programOf (.i2cMasterSend (pageProgram fw addr size)) =
      some (addr, (fw.drop addr).take size) := by
  simp [programOf, flashBody_pageProgram hsize hfits, addrBytes, address24_addrBytes haddr]

theorem readOf_pageProgram (hsize : size ≤ packetLen) (hfits : addr + size ≤ fw.length) :
    readOf (.i2cMasterSend (pageProgram fw addr size)) = none := by
  simp only [readOf, flashBody_pageProgram hsize hfits, addrBytes]
  cases (fw.drop addr).take size with
  | nil => rfl
  | cons byte payload => rfl

theorem flashBody_fastRead : flashBody (fastRead addr size) = some (0x0b :: addrBytes addr) :=
  flashBody_writeReadBuf (by simp [addrBytes])

theorem programOf_fastRead : programOf (.i2cMasterSend (fastRead addr size)) = none := by
  simp [programOf, flashBody_fastRead, addrBytes]

theorem readOf_fastRead (haddr : addr < 0x1000000) (hsize : size ≤ packetLen) :
    readOf (.i2cMasterSend (fastRead addr size)) = some (addr, size + 1) := by
  have hlength := lengthField (show size + 1 < 65536 by unfold packetLen at hsize; omega)
  simp only [readOf, flashBody_fastRead, addrBytes, if_true, address24_addrBytes haddr]
  exact congrArg (fun length => some (addr, length)) hlength

theorem length_fastRead : (fastRead addr size).length = 15 := rfl

end Packet

/-! ### Polling, and the steps that neither program nor read -/

section Trace

variable {events : List (Event Bus)}

theorem only_flashIsReady {allowed : BusOp → Prop} (hsend : allowed (.i2cMasterSend readStatus))
    (hrecv : allowed (.i2cMasterRecv 1)) (maxTimes : Nat) : (flashIsReady maxTimes).Only allowed := by
  have hloop : ∀ times status, (flashIsReadyLoop times status).Only allowed := by
    intro times
    induction times with
    | zero => exact fun status => Prog.only_ret status
    | succ times ih =>
        intro status
        refine (only_axsWriteBytesReadBytes hsend hrecv).bind fun answer => ?_
        exact Prog.only_ite (Prog.only_ret _) (ih _)
  exact (hloop maxTimes _).bind fun status => Prog.only_ret _

theorem flashIsReadyLoop_polled {times : Nat} {status : List UInt8} (hlength : status.length = 1)
    (hbusy : status ≠ [0x00]) (htrace : (flashIsReadyLoop times status).Trace events [0x00])
    (hbus : ∀ event ∈ events, AllOrNothing event) : Polled events := by
  induction times generalizing status events with
  | zero => exact absurd htrace.2.symm hbusy
  | succ times ih =>
      rw [flashIsReadyLoop] at htrace
      obtain ⟨⟨ret, status'⟩, left, right, rfl, hleft, hright⟩ := Prog.trace_bind.mp htrace
      have hpoll : ∀ event ∈ left, event.op ≠ .i2cMasterSend writeEnable :=
        @only_axsWriteBytesReadBytes _ _ _ (· ≠ .i2cMasterSend writeEnable) (by decide) (by decide)
          _ _ hleft
      have hbusLeft : ∀ event ∈ left, AllOrNothing event :=
        fun event hmem => hbus event (List.mem_append_left _ hmem)
      have hbusRight : ∀ event ∈ right, AllOrNothing event :=
        fun event hmem => hbus event (List.mem_append_right _ hmem)
      dsimp only at hright
      rcases axsWriteBytesReadBytes_trace (by decide) hleft hbusLeft with
        ⟨hret, received, hreceived, rfl, rfl⟩ | ⟨hret, rfl⟩
      · have hstatus : overwrite status received = received := by
          rw [overwrite, hreceived, ← hlength, List.drop_length, List.append_nil]
        rw [hstatus] at hright
        by_cases hready : received = [0x00]
        · rw [if_pos ⟨by omega, hready⟩] at hright
          obtain ⟨rfl, -⟩ := hright
          rw [hready]
          exact ⟨[], [], rfl, by simp⟩
        · rw [if_neg fun hboth => hready hboth.2] at hright
          exact (ih hreceived hready hright hbusRight).prepend hpoll
      · rw [if_neg fun hboth => by omega] at hright
        exact (ih hlength hbusy hright hbusRight).prepend hpoll

theorem flashIsReady_polled {maxTimes : Nat} (htrace : (flashIsReady maxTimes).Trace events true)
    (hbus : ∀ event ∈ events, AllOrNothing event) : Polled events := by
  rw [flashIsReady] at htrace
  obtain ⟨status, hleft, hvalue⟩ := Prog.trace_map.mp htrace
  have hready : status = [0x00] := of_decide_eq_true hvalue.symm
  rw [hready] at hleft
  exact flashIsReadyLoop_polled rfl (by decide) hleft hbus

/-! ### Going on after a success -/

theorem trace_bind_int {program : Prog Bus Int} {rest : Int → Prog Bus Bool} :
    (program >>= fun ret => if ret < 0 then pure false else rest ret).Trace events true ↔
      ∃ ret left right, events = left ++ right ∧ ¬ ret < 0 ∧ program.Trace left ret ∧
        (rest ret).Trace right true := by
  rw [Prog.trace_bind]
  constructor
  · intro hgiven
    obtain ⟨ret, left, right, rfl, hleft, hright⟩ := hgiven
    split at hright
    · exact absurd hright.2 (by decide)
    · exact ⟨ret, left, right, rfl, ‹_›, hleft, hright⟩
  · intro hgiven
    obtain ⟨ret, left, right, rfl, hret, hleft, hright⟩ := hgiven
    exact ⟨ret, left, right, rfl, hleft, by rwa [if_neg hret]⟩

theorem trace_bind_bool {program : Prog Bus Bool} {rest : Prog Bus Bool} :
    (program >>= fun ok => if (!ok) = true then pure false else rest).Trace events true ↔
      ∃ left right, events = left ++ right ∧ program.Trace left true ∧ rest.Trace right true := by
  rw [Prog.trace_bind]
  constructor
  · intro hgiven
    obtain ⟨ok, left, right, rfl, hleft, hright⟩ := hgiven
    cases ok with
    | false => exact absurd hright.2 (by decide)
    | true => exact ⟨left, right, rfl, hleft, hright⟩
  · intro hgiven
    obtain ⟨left, right, rfl, hleft, hright⟩ := hgiven
    exact ⟨true, left, right, rfl, hleft, hright⟩

/-- Identification and erase neither program a page nor read the flash. -/
def Quiet (op : BusOp) : Prop := programOf op = none ∧ readOf op = none

instance (op : BusOp) : Decidable (Quiet op) :=
  inferInstanceAs (Decidable (programOf op = none ∧ readOf op = none))

theorem only_axsFwupgFlashInit : axsFwupgFlashInit.Only Quiet := by
  rw [axsFwupgFlashInit]
  refine (only_axsWriteBytes (by decide)).bind fun ret => Prog.only_ite (Prog.only_ret _) ?_
  refine (only_axsWriteBytesReadBytes (by decide) (by decide)).bind fun ret =>
    Prog.only_ite (Prog.only_ret _) ?_
  refine (only_axsWriteBytes (by decide)).bind fun ret => Prog.only_ite (Prog.only_ret _) ?_
  refine (only_axsWriteBytesReadBytes (by decide) (by decide)).bind fun ret =>
    Prog.only_ite (Prog.only_ret _) ?_
  refine (only_axsWriteBytes (by decide)).bind fun ret => Prog.only_ite (Prog.only_ret _) ?_
  exact only_flashIsReady (by decide) (by decide) _

theorem only_axsFwupgFlashErase : axsFwupgFlashErase.Only Quiet := by
  rw [axsFwupgFlashErase]
  refine (only_axsWriteBytes (by decide)).bind fun ret => Prog.only_ite (Prog.only_ret _) ?_
  refine (only_axsWriteBytes (by decide)).bind fun ret => Prog.only_ite (Prog.only_ret _) ?_
  exact only_flashIsReady (by decide) (by decide) _

/-! ### The packets -/

/-- Where the packets still to go begin, when there are `left` of them. -/
def packetsFrom (fwLen left : Nat) : Nat := (totalPackets fwLen - left) * packetLen

/-- The packets reach the end of the image, and the last one begins before it. -/
theorem totalPackets_bounds (fwLen : Nat) :
    fwLen ≤ totalPackets fwLen * 256 ∧ totalPackets fwLen * 256 < fwLen + 256 := by
  rw [totalPackets, packetLen]
  split <;> omega

theorem packetsFrom_zero (fwLen : Nat) : fwLen ≤ packetsFrom fwLen 0 :=
  (totalPackets_bounds fwLen).1

theorem packetsFrom_lt {fwLen left : Nat} (hleft : left < totalPackets fwLen) :
    packetsFrom fwLen (left + 1) < fwLen := by
  have hbounds := totalPackets_bounds fwLen
  rw [packetsFrom, packetLen]
  omega

theorem packetsFrom_succ {fwLen left : Nat} (hleft : left < totalPackets fwLen) :
    packetsFrom fwLen left = packetsFrom fwLen (left + 1) + packetLen := by
  unfold packetsFrom packetLen
  omega

theorem currentSize_eq {fwLen left : Nat} (hleft : left < totalPackets fwLen) :
    currentSize fwLen (totalPackets fwLen - left) =
      min packetLen (fwLen - packetsFrom fwLen (left + 1)) := by
  have hbounds := totalPackets_bounds fwLen
  rw [currentSize, packetsFrom, packetLen]
  by_cases hlast : left = 0
  · rw [hlast, Nat.sub_zero, if_pos rfl]
    omega
  · rw [if_neg (by omega)]
    omega

theorem Tiles.image_packet {fw : List UInt8} {left : Nat} {rest : List (Nat × List UInt8)}
    (hleft : left < totalPackets fw.length)
    (hrest : Tiles (packetsFrom fw.length left) rest (fw.drop (packetsFrom fw.length left))) :
    Tiles (packetsFrom fw.length (left + 1))
      ((packetsFrom fw.length (left + 1), (fw.drop (packetsFrom fw.length (left + 1))).take
        (currentSize fw.length (totalPackets fw.length - left))) :: rest)
      (fw.drop (packetsFrom fw.length (left + 1))) := by
  have hbegin := packetsFrom_lt hleft
  rw [currentSize_eq hleft, ← List.length_drop, ← List.take_eq_take_min]
  refine Tiles.packet (by decide) ?_ ?_
  · intro hempty
    have hlength := congrArg List.length hempty
    rw [List.length_drop, List.length_nil] at hlength
    omega
  · rw [List.drop_drop, ← packetsFrom_succ hleft]
    exact hrest

theorem flashWriteLoop_succ_trace {fwBuf : List UInt8} {fwLen left : Nat}
    (htrace : (flashWriteLoop fwBuf fwLen (left + 1)).Trace events true)
    (hbus : ∀ event ∈ events, AllOrNothing event) :
    ∃ polled rest, events = Sent writeEnable ::
        Sent (pageProgram fwBuf (packetsFrom fwLen (left + 1))
          (currentSize fwLen (totalPackets fwLen - left))) :: (polled ++ rest) ∧
      Polled polled ∧ (∀ event ∈ polled, Quiet event.op) ∧
      (flashWriteLoop fwBuf fwLen left).Trace rest true := by
  simp only [flashWriteLoop, trace_bind_int, trace_bind_bool] at htrace
  obtain ⟨_, _, _, rfl, hret, henable, _, _, _, rfl, hret', hprogram, polled, rest, rfl, hready,
    hrest⟩ := htrace
  rw [axsWriteBytes_trace henable hret, axsWriteBytes_trace hprogram hret'] at *
  refine ⟨polled, rest, rfl, flashIsReady_polled hready fun event hmem => hbus event ?_,
    only_flashIsReady (by decide) (by decide) _ _ _ hready, hrest⟩
  simp [hmem]

theorem programs_packet {bytes : List UInt8} {piece : Nat × List UInt8}
    {polled rest : List (Event Bus)} (hprogram : programOf (.i2cMasterSend bytes) = some piece)
    (hquiet : ∀ event ∈ polled, Quiet event.op) :
    programs (Sent writeEnable :: Sent bytes :: (polled ++ rest)) = piece :: programs rest := by
  have henable : programOf (Sent writeEnable).op = none := by decide
  have hbytes : programOf (Sent bytes).op = some piece := hprogram
  have hpolled : programs polled = [] := programs_eq_nil fun event hmem => (hquiet event hmem).1
  rw [programs_cons, programs_cons, programs_append, henable, hbytes, hpolled]
  rfl

theorem bracketed_packet {bytes : List UInt8} {polled : List (Event Bus)} (hpolled : Polled polled)
    (hquiet : ∀ event ∈ polled, Quiet event.op) :
    Bracketed (Sent writeEnable :: Sent bytes :: polled) := by
  intro before event after hsplit hprogram
  match before with
  | [] =>
      obtain ⟨rfl, -⟩ := List.cons.inj hsplit
      exact absurd (by decide) hprogram
  | [first] =>
      obtain ⟨hfirst, htail⟩ := List.cons.inj hsplit
      obtain ⟨rfl, rfl⟩ := List.cons.inj htail
      exact ⟨⟨bytes, rfl⟩, ⟨[], by rw [← hfirst]; rfl⟩, hpolled⟩
  | first :: second :: before =>
      obtain ⟨-, htail⟩ := List.cons.inj hsplit
      obtain ⟨-, rfl⟩ := List.cons.inj htail
      exact absurd (hquiet event (by simp)).1 hprogram

theorem flashWriteLoop_writes {fw : List UInt8} {left : Nat} (hlength : fw.length ≤ 128 * 1024)
    (hleft : left ≤ totalPackets fw.length)
    (htrace : (flashWriteLoop fw fw.length left).Trace events true)
    (hbus : ∀ event ∈ events, AllOrNothing event) :
    Tiles (packetsFrom fw.length left) (programs events) (fw.drop (packetsFrom fw.length left)) ∧
    (∀ piece ∈ programs events, piece.1 % 256 + piece.2.length ≤ 256) ∧ Bracketed events ∧
    ∀ event ∈ events, readOf event.op = none := by
  induction left generalizing events with
  | zero =>
      obtain ⟨rfl, -⟩ := htrace
      rw [List.drop_eq_nil_of_le (packetsFrom_zero _)]
      exact ⟨rfl, by simp [programs], bracketed_of_none (by simp), by simp⟩
  | succ left ih =>
      have hnext : left < totalPackets fw.length := by omega
      obtain ⟨polled, rest, rfl, hpolled, hquiet, hrest⟩ := flashWriteLoop_succ_trace htrace hbus
      obtain ⟨htiles, hpages, hbracketed, hreads⟩ := ih (by omega) hrest fun event hmem =>
        hbus event (by simp [hmem])
      have hbegin := packetsFrom_lt hnext
      have hsize := currentSize_eq hnext
      have hpage : packetsFrom fw.length (left + 1) % 256 = 0 := Nat.mul_mod_left _ 256
      have hpacket : currentSize fw.length (totalPackets fw.length - left) ≤ packetLen := by omega
      have hfits : packetsFrom fw.length (left + 1) +
          currentSize fw.length (totalPackets fw.length - left) ≤ fw.length := by omega
      have hprogram := programOf_pageProgram (by omega) hpacket hfits
      rw [programs_packet hprogram hquiet]
      refine ⟨Tiles.image_packet hnext htiles, ?_, ?_, ?_⟩
      · intro piece hpiece
        rcases List.mem_cons.mp hpiece with rfl | hpiece
        · have hfits := List.length_take_le (currentSize fw.length (totalPackets fw.length - left))
            (fw.drop (packetsFrom fw.length (left + 1)))
          rw [packetLen] at hsize
          dsimp only
          omega
        · exact hpages piece hpiece
      · exact (bracketed_packet hpolled hquiet).append hbracketed
      · intro event hevent
        rcases List.mem_cons.mp hevent with rfl | hevent
        · decide
        · rcases List.mem_cons.mp hevent with rfl | hevent
          · exact readOf_pageProgram hpacket hfits
          · rcases List.mem_append.mp hevent with hevent | hevent
            · exact (hquiet event hevent).2
            · exact hreads event hevent

/-! ### The read-back -/

theorem flashReadCheckLoop_succ_trace {fw tmpbuf : List UInt8} {fwLen left : Nat}
    (htrace : (flashReadCheckLoop fw fwLen (left + 1) tmpbuf).Trace events true)
    (hbus : ∀ event ∈ events, AllOrNothing event) :
    ∃ dummy rest tmpbuf', events =
        Sent (fastRead (packetsFrom fwLen (left + 1))
          (currentSize fwLen (totalPackets fwLen - left))) ::
        Received (dummy :: (fw.drop (packetsFrom fwLen (left + 1))).take
          (currentSize fwLen (totalPackets fwLen - left))) :: rest ∧
      (flashReadCheckLoop fw fwLen left tmpbuf').Trace rest true := by
  rw [flashReadCheckLoop] at htrace
  obtain ⟨⟨ret, tmpbuf'⟩, first, rest, rfl, hread, hrest⟩ := Prog.trace_bind.mp htrace
  dsimp only at hrest
  split at hrest
  · exact absurd hrest.2 (by decide)
  · rename_i hret
    split at hrest
    · exact absurd hrest.2 (by decide)
    · rename_i hsame
      obtain ⟨-, received, hreceived, rfl, rfl⟩ :=
        (axsWriteBytesReadBytes_trace (by rw [length_fastRead]; decide) hread
          fun event hmem => hbus event (List.mem_append_left _ hmem)).resolve_right
          fun hfailed => hret hfailed.1
      cases received with
      | nil => exact absurd hreceived (by simp)
      | cons dummy payload =>
          have hpayload : payload.length = currentSize fwLen (totalPackets fwLen - left) := by
            simpa using hreceived
          have hcompared : ((overwrite tmpbuf (dummy :: payload)).drop 1).take
              (currentSize fwLen (totalPackets fwLen - left)) = payload := by
            rw [overwrite, List.cons_append, List.drop_one, List.tail_cons, ← hpayload,
              List.take_left]
          rw [hcompared, not_not] at hsame
          rw [show packetsFrom fwLen (left + 1) = (totalPackets fwLen - left - 1) * packetLen from rfl,
            hsame]
          exact ⟨dummy, rest, _, rfl, hrest⟩

theorem readBacks_packet {bytes payload : List UInt8} {address size : Nat} {dummy : UInt8}
    {rest : List (Event Bus)} (hread : readOf (.i2cMasterSend bytes) = some (address, size + 1))
    (hpayload : payload.length = size) :
    readBacks (Sent bytes :: Received (dummy :: payload) :: rest) =
      (address, payload) :: readBacks rest := by
  have hbytes : readBack (Sent bytes) (Received (dummy :: payload) :: rest) =
      some (address, payload) := by
    simp [readBack, Sent, Received, hread, hpayload]
  have hreceived : readBack (Received (dummy :: payload)) rest = none := by
    simp [readBack, Received, readOf]
  rw [readBacks, hbytes, readBacks, hreceived]
  rfl

theorem flashReadCheckLoop_reads {fw tmpbuf : List UInt8} {left : Nat}
    (hlength : fw.length ≤ 128 * 1024) (hleft : left ≤ totalPackets fw.length)
    (htrace : (flashReadCheckLoop fw fw.length left tmpbuf).Trace events true)
    (hbus : ∀ event ∈ events, AllOrNothing event) :
    Tiles (packetsFrom fw.length left) (readBacks events) (fw.drop (packetsFrom fw.length left)) ∧
    ∀ event ∈ events, programOf event.op = none := by
  induction left generalizing events tmpbuf with
  | zero =>
      obtain ⟨rfl, -⟩ := htrace
      rw [List.drop_eq_nil_of_le (packetsFrom_zero _)]
      exact ⟨rfl, by simp⟩
  | succ left ih =>
      have hnext : left < totalPackets fw.length := by omega
      obtain ⟨dummy, rest, tmpbuf', rfl, hrest⟩ := flashReadCheckLoop_succ_trace htrace hbus
      obtain ⟨htiles, hprograms⟩ := ih (by omega) hrest fun event hmem => hbus event (by simp [hmem])
      have hbegin := packetsFrom_lt hnext
      have hsize := currentSize_eq hnext
      have hread := readOf_fastRead (show packetsFrom fw.length (left + 1) < 0x1000000 by omega)
        (show currentSize fw.length (totalPackets fw.length - left) ≤ packetLen by omega)
      constructor
      · rw [readBacks_packet hread (by rw [List.length_take, List.length_drop]; omega)]
        exact Tiles.image_packet hnext htiles
      · intro event hevent
        rcases List.mem_cons.mp hevent with rfl | hevent
        · exact programOf_fastRead
        · rcases List.mem_cons.mp hevent with rfl | hevent
          · rfl
          · exact hprograms event hevent

/-! ### The upgrade -/

theorem axsFwupgFlashReadCheck_reads {fw : List UInt8} (hlength : fw.length ≤ 128 * 1024)
    (htrace : (axsFwupgFlashReadCheck fw fw.length).Trace events true)
    (hbus : ∀ event ∈ events, AllOrNothing event) :
    Tiles 0 (readBacks events) fw ∧ ∀ event ∈ events, programOf event.op = none := by
  rw [axsFwupgFlashReadCheck, kzalloc_bind] at htrace
  obtain ⟨allocated, rest, rfl, hloop⟩ := htrace
  cases allocated with
  | false => exact absurd hloop.2 (by decide)
  | true =>
      have hreads := flashReadCheckLoop_reads hlength (Nat.le_refl _) hloop fun event hmem =>
        hbus event (List.mem_cons_of_mem _ hmem)
      rw [packetsFrom, Nat.sub_self, Nat.zero_mul, List.drop_zero] at hreads
      refine ⟨hreads.1, fun event hmem => ?_⟩
      rcases List.mem_cons.mp hmem with rfl | hmem
      · rfl
      · exact hreads.2 event hmem

/-- An upgrade that succeeds wrote the whole image, a page at a time and each page waited for, and read the same image back. -/
theorem axsY15205Upgrade_writes_image {fw : List UInt8} {events : List (Event Bus)}
    (hlength : fw.length ≤ 128 * 1024) (hbus : ∀ event ∈ events, AllOrNothing event)
    (htrace : (axsY15205Upgrade fw (some fw) fw.length).Trace events true) :
    Tiles 0 (programs events) fw ∧
    (∀ piece ∈ programs events, piece.1 % 256 + piece.2.length ≤ 256) ∧
    Bracketed events ∧
    ∀ address value, Holds (readBacks events) address value ↔ fw[address]? = some value := by
  simp only [axsY15205Upgrade, trace_bind_bool] at htrace
  obtain ⟨init, _, rfl, hinit, erase, _, rfl, herase, write, _, rfl, hwrite, check, _, rfl, hcheck,
    rfl, -⟩ := htrace
  have hquietInit : ∀ event ∈ init, Quiet event.op := only_axsFwupgFlashInit _ _ hinit
  have hquietErase : ∀ event ∈ erase, Quiet event.op := only_axsFwupgFlashErase _ _ herase
  have hwritten := flashWriteLoop_writes hlength (Nat.le_refl _) hwrite fun event hmem =>
    hbus event (by simp [hmem])
  rw [packetsFrom, Nat.sub_self, Nat.zero_mul, List.drop_zero] at hwritten
  obtain ⟨htiles, hpages, hbracketed, hnoReads⟩ := hwritten
  obtain ⟨hreads, hnoPrograms⟩ := axsFwupgFlashReadCheck_reads hlength hcheck fun event hmem =>
    hbus event (by simp [hmem])
  have hprograms : programs (init ++ (erase ++ (write ++ (check ++ [])))) = programs write := by
    rw [List.append_nil, programs_append, programs_append, programs_append,
      programs_eq_nil fun event hmem => (hquietInit event hmem).1,
      programs_eq_nil fun event hmem => (hquietErase event hmem).1, programs_eq_nil hnoPrograms,
      List.nil_append, List.nil_append, List.append_nil]
  have hreadBacks : readBacks (init ++ (erase ++ (write ++ (check ++ [])))) = readBacks check := by
    rw [List.append_nil, readBacks_append_of_none fun event hmem => (hquietInit event hmem).2,
      readBacks_append_of_none fun event hmem => (hquietErase event hmem).2,
      readBacks_append_of_none hnoReads]
  rw [hprograms, hreadBacks]
  refine ⟨htiles, hpages, ?_, fun address value => ?_⟩
  · rw [List.append_nil]
    exact (bracketed_of_none fun event hmem => (hquietInit event hmem).1).append
      ((bracketed_of_none fun event hmem => (hquietErase event hmem).1).append
        (hbracketed.append (bracketed_of_none hnoPrograms)))
  · rw [hreads.holds_iff]
    simp

end Trace

/-- A bus without faults: the flash is never busy and, after a zero, answers sevens. -/
def sevens : (op : BusOp) → Bus.Answer op
  | .i2cMasterSend bytes => (bytes.length : Int)
  | .i2cMasterRecv length => ((length : Int), (List.replicate length 0x07).set 0 0x00)
  | .kzalloc _ => true

theorem allOrNothing_sevens (op : BusOp) : AllOrNothing ⟨op, sevens op⟩ := by
  cases op with
  | i2cMasterSend bytes => exact .inl rfl
  | i2cMasterRecv length => exact .inl ⟨rfl, by simp⟩
  | kzalloc size => trivial

theorem axsY15205Upgrade_writes_image_sevens :
    let fw := List.replicate 1024 0x07
    let events := ((axsY15205Upgrade fw (some fw) fw.length).answered sevens).1
    Tiles 0 (programs events) fw ∧
    (∀ piece ∈ programs events, piece.1 % 256 + piece.2.length ≤ 256) ∧
    Bracketed events ∧
    ∀ address value, Holds (readBacks events) address value ↔ fw[address]? = some value := by
  intro fw events
  have hlength : fw.length = 1024 := List.length_replicate
  have hsuccess : ((axsY15205Upgrade fw (some fw) fw.length).answered sevens).2 = true := by
    decide +kernel
  have htrace := Prog.trace_answered sevens (axsY15205Upgrade fw (some fw) fw.length)
  rw [hsuccess] at htrace
  exact axsY15205Upgrade_writes_image (by rw [hlength]; decide)
    (Prog.answered_events allOrNothing_sevens _) htrace

end FrontPanel.Touch.Flash
