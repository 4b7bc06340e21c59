import FrontPanel.Led.Mcu
import FrontPanel.Lib.Bytes
import FrontPanel.Lib.Checksum
import Mathlib.Data.List.GetD

/-!
# Frames that add up

`i2c_iDX601x_write_led` writes a sum behind its nine bytes, and `i2c_iDX601x_read_led` checks one. The two agree: a written block passes the check, and no longer does with one of its bytes changed. A call succeeds when the controller has acknowledged, that is when one of three tries got the block onto the bus and one of three looks at the flags after it saw a 1.
-/

namespace FrontPanel.Led

/-! ### The check of the reader -/

/-- The check that `i2c_iDX601x_read_led` makes of its eleven bytes. -/
def CrcCheck (data : List UInt8) : Prop :=
  (data.take 9).foldl (fun crcCnt data => crcCnt + data.toNat) 0 =
    (data.getD 9 0).toNat <<< 8 ||| (data.getD 10 0).toNat

instance (data : List UInt8) : Decidable (CrcCheck data) :=
  inferInstanceAs (Decidable (_ = _))

theorem crcCheck_iff {body : List UInt8} (hbody : body.length = 9) (high low : UInt8) :
    CrcCheck (body ++ [high, low]) ↔
      checksum UInt8.toNat body = high.toNat * 256 + low.toNat := by
  have htake : (body ++ [high, low]).take 9 = body := by
    rw [← hbody, List.take_left]
  have hhigh : (body ++ [high, low]).getD 9 0 = high := by
    rw [← hbody, List.getD_append_right _ _ _ _ (Nat.le_refl _), Nat.sub_self]
    rfl
  have hlow : (body ++ [high, low]).getD 10 0 = low := by
    rw [List.getD_append_right _ _ _ _ (by omega), hbody]
    rfl
  rw [CrcCheck, htake, hhigh, hlow, or_shift_byte]
  rfl

theorem crc_bytes {crcCnt : Nat} (hfits : crcCnt < 65536) :
    ((crcCnt &&& 0xff00) >>> 8).toUInt8.toNat * 256 + (crcCnt &&& 0xff).toUInt8.toNat = crcCnt := by
  have hlow : crcCnt &&& 0xff = crcCnt % 256 := Nat.and_two_pow_sub_one_eq_mod crcCnt 8
  have hhigh : (crcCnt &&& 0xff00) >>> 8 = crcCnt / 256 % 256 := by
    rw [Nat.shiftRight_and_distrib, Nat.shiftRight_eq_div_pow]
    exact Nat.and_two_pow_sub_one_eq_mod (crcCnt / 256) 8
  rw [hlow, hhigh]
  show crcCnt / 256 % 256 % 256 * 256 + crcCnt % 256 % 256 = crcCnt
  omega

namespace LedFrame

theorem crcCnt_lt (frame : LedFrame) : frame.crcCnt < 65536 := by
  have hsum : frame.crcCnt ≤ 255 * 9 := checksum_bytes_le frame.body
  omega

theorem crcCheck_block (frame : LedFrame) : CrcCheck frame.block :=
  (crcCheck_iff rfl _ _).mpr (crc_bytes frame.crcCnt_lt).symm

/-- A summed byte cannot change without the sum, nor the sum without a summed byte. -/
theorem not_crcCheck_set (frame : LedFrame) {i : Nat} {byte : UInt8}
    (hi : i < frame.block.length) (hbyte : byte ≠ frame.block[i]) :
    ¬ CrcCheck (frame.block.set i byte) := by
  have hsum := (crcCheck_iff rfl _ _).mp frame.crcCheck_block
  have hlength : frame.body.length = 9 := rfl
  by_cases hsummed : i < 9
  · have hat : byte ≠ frame.body[i] := by
      intro hsame
      exact hbyte (hsame.trans (List.getElem_append_left hsummed).symm)
    have hset : (frame.body.set i byte).length = 9 := by rw [List.length_set, hlength]
    rw [block, List.set_append_left _ _ hsummed, crcCheck_iff hset, ← hsum]
    exact checksum_set_ne (fun _ _ => UInt8.toNat_inj.mp) hsummed hat
  · have hlast : i = 9 ∨ i = 10 := by
      have hblock : frame.block.length = 11 := rfl
      omega
    rw [block, List.set_append_right _ _ (by omega), hlength]
    intro hcheck
    rcases hlast with rfl | rfl
    · have hbad := (crcCheck_iff hlength byte _).mp hcheck
      have hsame : byte.toNat = ((frame.crcCnt &&& 0xff00) >>> 8).toUInt8.toNat := by omega
      exact hbyte (UInt8.toNat_inj.mp hsame)
    · have hbad := (crcCheck_iff hlength _ byte).mp hcheck
      have hsame : byte.toNat = (frame.crcCnt &&& 0xff).toUInt8.toNat := by omega
      exact hbyte (UInt8.toNat_inj.mp hsame)

theorem block_injective {frame other : LedFrame} (hblock : other.block = frame.block) :
    other.status = frame.status ∧ other.data1 = frame.data1 ∧ other.data2 = frame.data2 ∧
      other.data3 = frame.data3 ∧ other.data4 = frame.data4 := by
  have hbody : other.body = frame.body :=
    (List.append_inj hblock rfl).1
  simp only [body, List.cons.injEq] at hbody
  obtain ⟨-, -, -, -, hstatus, hdata1, hdata2, hdata3, hdata4, -⟩ := hbody
  exact ⟨hstatus, hdata1, hdata2, hdata3, hdata4⟩

end LedFrame

/-! ### Success -/

/-- The answers to the block writes among some events. -/
def blockWrites (events : List (Event Smbus)) : List Int :=
  events.filterMap fun event =>
    match event.op with
    | .writeBlockData _ _ => some event.answer
    | .readByteData _ => none

/-- The answers to the reads of the flags among some events. -/
def flagReads (events : List (Event Smbus)) : List Int :=
  events.filterMap fun event =>
    match event.op with
    | .writeBlockData _ _ => none
    | .readByteData command => if command = mcuReceiveFlags then some event.answer else none

/-- No block was written. -/
def NoFrame (events : List (Event Smbus)) : Prop :=
  ∀ event ∈ events, ∀ command values, event.op ≠ .writeBlockData command values

/-- One of the first three block writes succeeded, and one of the first three reads of the flags after it returned 1. -/
def AcknowledgedIn (events : List (Event Smbus)) : Prop :=
  ∃ before command values answer after,
    events = before ++ ⟨.writeBlockData command values, answer⟩ :: after ∧
    (blockWrites before).length < 3 ∧ 0 ≤ answer ∧ 1 ∈ (flagReads after).take 3

section Trace

variable {frame : LedFrame} {left : Nat} {events : List (Event Smbus)}

theorem sendFrame_trace {sent : Bool} (htrace : (sendFrame frame left).Trace events sent) :
    ∃ failed : List Int, (∀ answer ∈ failed, answer < 0) ∧
      if sent then
        failed.length < left ∧ ∃ answer, 0 ≤ answer ∧
          events = failed.map (Event.mk frame.write) ++ [⟨frame.write, answer⟩]
      else events = failed.map (Event.mk frame.write) := by
  induction left generalizing events with
  | zero =>
      obtain ⟨rfl, rfl⟩ := htrace
      exact ⟨[], by simp, rfl⟩
  | succ left ih =>
      rw [sendFrame, Prog.access_bind, Prog.trace_call] at htrace
      obtain ⟨answer, rest, rfl, hrest⟩ := htrace
      by_cases hfailed : answer < 0
      · rw [if_pos hfailed] at hrest
        obtain ⟨failed, hall, hevents⟩ := ih hrest
        refine ⟨answer :: failed, List.forall_mem_cons.mpr ⟨hfailed, hall⟩, ?_⟩
        cases sent with
        | false =>
            obtain rfl := hevents
            rfl
        | true =>
            obtain ⟨hlength, last, hlast, rfl⟩ := hevents
            exact ⟨Nat.succ_lt_succ hlength, last, hlast, rfl⟩
      · rw [if_neg hfailed] at hrest
        obtain ⟨rfl, rfl⟩ := hrest
        exact ⟨[], by simp, Nat.succ_pos left, answer, Int.not_lt.mp hfailed, rfl⟩

theorem readFlags_trace {ret : Option Int} (htrace : (readFlags left).Trace events ret) :
    ∃ answers : List Int, answers.length ≤ left ∧
      events = answers.map (Event.mk (S := Smbus) (.readByteData mcuReceiveFlags)) ∧
      ret = if 1 ∈ answers then some 1 else none := by
  induction left generalizing events with
  | zero =>
      obtain ⟨rfl, rfl⟩ := htrace
      exact ⟨[], Nat.le_refl 0, rfl, by simp⟩
  | succ left ih =>
      rw [readFlags, Prog.access_bind, Prog.trace_call] at htrace
      obtain ⟨answer, rest, rfl, hrest⟩ := htrace
      by_cases hflag : answer = 1
      · rw [if_neg (not_not.mpr hflag)] at hrest
        obtain ⟨rfl, rfl⟩ := hrest
        exact ⟨[answer], Nat.succ_le_succ (Nat.zero_le left), rfl, by simp [hflag]⟩
      · rw [if_pos hflag] at hrest
        obtain ⟨answers, hlength, rfl, hret⟩ := ih hrest
        refine ⟨answer :: answers, Nat.succ_le_succ hlength, rfl, ?_⟩
        have hmem : 1 ∈ answer :: answers ↔ 1 ∈ answers := by
          rw [List.mem_cons, or_iff_right (Ne.symm hflag)]
        rw [hret, if_congr hmem rfl rfl]

theorem i2cIdx601xWriteLed_trace {ret : Int} (htrace : (i2cIdx601xWriteLed frame).Trace events ret) :
    ∃ failed answers : List Int, (∀ answer ∈ failed, answer < 0) ∧
      ((events = failed.map (Event.mk frame.write) ∧ ret = eBusy) ∨
        failed.length < 3 ∧ answers.length ≤ 3 ∧ (∃ answer, 0 ≤ answer ∧
          events = failed.map (Event.mk frame.write) ++ ⟨frame.write, answer⟩ ::
            answers.map (Event.mk (S := Smbus) (.readByteData mcuReceiveFlags))) ∧
          ret = if 1 ∈ answers then 1 else eBusy) := by
  obtain ⟨sent, left, right, rfl, hsend, hrest⟩ := Prog.trace_bind.mp htrace
  obtain ⟨failed, hfailed, hevents⟩ := sendFrame_trace hsend
  cases sent with
  | false =>
      obtain rfl := hevents
      obtain ⟨rfl, rfl⟩ := hrest
      exact ⟨failed, [], hfailed, .inl ⟨List.append_nil _, rfl⟩⟩
  | true =>
      obtain ⟨hlength, answer, hanswer, rfl⟩ := hevents
      obtain ⟨flags, reads, nothing, rfl, hread, hlast⟩ := Prog.trace_bind.mp hrest
      obtain ⟨answers, hanswers, rfl, rfl⟩ := readFlags_trace hread
      have hend : nothing = [] ∧ ret = if 1 ∈ answers then 1 else eBusy := by
        split at hlast
        · next hnone =>
          have hflag : 1 ∉ answers := by
            intro hflag
            rw [if_pos hflag] at hnone
            cases hnone
          rw [if_neg hflag]
          exact hlast
        · next flag hsome =>
          have hflag : 1 ∈ answers := by
            by_contra hflag
            rw [if_neg hflag] at hsome
            cases hsome
          rw [if_pos hflag] at hsome ⊢
          obtain rfl := Option.some.inj hsome
          exact hlast
      obtain ⟨rfl, hret⟩ := hend
      refine ⟨failed, answers, hfailed, .inr ⟨hlength, hanswers, ⟨answer, hanswer, ?_⟩, hret⟩⟩
      rw [List.append_nil, List.append_assoc, List.singleton_append]

theorem blockWrites_writes (frame : LedFrame) (answers : List Int) :
    blockWrites (answers.map (Event.mk frame.write)) = answers := by
  rw [blockWrites, List.filterMap_map]
  exact List.filterMap_some

theorem flagReads_writes (frame : LedFrame) (answers : List Int) :
    flagReads (answers.map (Event.mk frame.write)) = [] := by
  rw [flagReads, List.filterMap_map]
  exact List.filterMap_eq_nil_iff.mpr fun _ _ => rfl

theorem flagReads_reads (answers : List Int) :
    flagReads (answers.map (Event.mk (S := Smbus) (.readByteData mcuReceiveFlags))) = answers := by
  rw [flagReads, List.filterMap_map]
  exact List.filterMap_some

theorem flagReads_append (left right : List (Event Smbus)) :
    flagReads (left ++ right) = flagReads left ++ flagReads right := List.filterMap_append

theorem acknowledged_iff {ret : Int} (htrace : (i2cIdx601xWriteLed frame).Trace events ret) :
    0 ≤ ret ↔ AcknowledgedIn events := by
  obtain ⟨failed, answers, hfailed, hcase⟩ := i2cIdx601xWriteLed_trace htrace
  constructor
  · intro hret
    obtain ⟨-, rfl⟩ | ⟨hlength, hanswers, ⟨answer, hanswer, rfl⟩, rfl⟩ := hcase
    · exact absurd hret (by decide)
    · have hflag : 1 ∈ answers := by
        by_contra hflag
        rw [if_neg hflag] at hret
        exact absurd hret (by decide)
      refine ⟨_, _, _, answer, _, rfl, ?_, hanswer, ?_⟩
      · rw [blockWrites_writes]
        exact hlength
      · rw [flagReads_reads, List.take_of_length_le hanswers]
        exact hflag
  · intro hgiven
    obtain ⟨before, command, values, answer, after, hevents, -, -, hflag⟩ := hgiven
    have hread : 1 ∈ flagReads events := by
      rw [hevents, ← List.singleton_append, flagReads_append, flagReads_append]
      exact List.mem_append_right _ (List.mem_append_right _ (List.mem_of_mem_take hflag))
    obtain ⟨rfl, -⟩ | ⟨-, -, ⟨sent, -, rfl⟩, rfl⟩ := hcase
    · rw [flagReads_writes] at hread
      exact absurd hread List.not_mem_nil
    · rw [flagReads_append, ← List.singleton_append, flagReads_append, flagReads_writes,
        flagReads_reads] at hread
      have hmem : 1 ∈ answers := hread
      rw [if_pos hmem]
      decide

theorem writes_block {ret : Int} (htrace : (i2cIdx601xWriteLed frame).Trace events ret)
    {event : Event Smbus} (hmem : event ∈ events) {command : UInt8} {values : List UInt8}
    (hop : event.op = .writeBlockData command values) :
    command = frame.select ∧ values = frame.block := by
  have hwrite : event.op = frame.write ∨ event.op = .readByteData mcuReceiveFlags := by
    obtain ⟨failed, answers, -, ⟨rfl, -⟩ | ⟨-, -, ⟨answer, -, rfl⟩, -⟩⟩ :=
      i2cIdx601xWriteLed_trace htrace
    · obtain ⟨_, -, rfl⟩ := List.mem_map.mp hmem
      exact .inl rfl
    · rcases List.mem_append.mp hmem with hmem | hmem
      · obtain ⟨_, -, rfl⟩ := List.mem_map.mp hmem
        exact .inl rfl
      · rcases List.mem_cons.mp hmem with rfl | hmem
        · exact .inl rfl
        · obtain ⟨_, -, rfl⟩ := List.mem_map.mp hmem
          exact .inr rfl
  rcases hwrite with hwrite | hread
  · obtain ⟨rfl, rfl⟩ := SmbusOp.writeBlockData.inj (hop.symm.trans hwrite)
    exact ⟨rfl, rfl⟩
  · rw [hop] at hread
    cases hread

end Trace

theorem ledFrame_checked (frame : LedFrame) :
    frame.block.length = 11 ∧ CrcCheck frame.block ∧
    (∀ other : LedFrame, other.block = frame.block →
      other.status = frame.status ∧ other.data1 = frame.data1 ∧ other.data2 = frame.data2 ∧
        other.data3 = frame.data3 ∧ other.data4 = frame.data4) ∧
    (∀ (i : Nat) (hi : i < frame.block.length) (byte : UInt8), byte ≠ frame.block[i] →
      ¬ CrcCheck (frame.block.set i byte)) ∧
    ∀ (events : List (Event Smbus)) (ret : Int), (i2cIdx601xWriteLed frame).Trace events ret →
      (∀ event ∈ events, ∀ command values, event.op = .writeBlockData command values →
        command = frame.select ∧ values = frame.block) ∧
      (0 ≤ ret ↔ AcknowledgedIn events) :=
  ⟨rfl, frame.crcCheck_block, fun _ hblock => LedFrame.block_injective hblock,
    fun _ hi _ hbyte => frame.not_crcCheck_set hi hbyte,
    fun _ _ htrace => ⟨fun _ hmem _ _ hop => writes_block htrace hmem hop, acknowledged_iff htrace⟩⟩

/-- The frame that lights the first LED, refused once by the bus and then acknowledged. -/
theorem ledFrame_checked_first : ∃ events,
    (i2cIdx601xWriteLed ⟨0, ledModeSwtich, 0xff, 0, 0, 0⟩).Trace events 1 ∧
    AcknowledgedIn events := by
  have htrace : (i2cIdx601xWriteLed ⟨0, ledModeSwtich, 0xff, 0, 0, 0⟩).Trace
      [⟨LedFrame.write ⟨0, ledModeSwtich, 0xff, 0, 0, 0⟩, (-5 : Int)⟩,
        ⟨LedFrame.write ⟨0, ledModeSwtich, 0xff, 0, 0, 0⟩, (0 : Int)⟩,
        ⟨.readByteData mcuReceiveFlags, (1 : Int)⟩] 1 :=
    ⟨_, _, rfl, _, _, rfl, _, _, rfl, rfl, rfl⟩
  exact ⟨_, htrace, (((ledFrame_checked _).2.2.2.2 _ _ htrace).2).mp (by decide)⟩

end FrontPanel.Led
