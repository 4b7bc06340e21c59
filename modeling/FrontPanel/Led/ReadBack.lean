import FrontPanel.Led.Driver
import FrontPanel.Led.FrameCheck

/-!
# Reading an LED back

`i2c_iDX601x_read_led` of `leds-mcu.c`, the other half of the protocol: a block of eleven bytes is read, the flag register is asked as after a write, and the bytes are put into the record of the LED if they add up. Each of the two loops makes up to three tries. A block read that brings fewer bytes than asked for has already written them to the array, and the next try starts from there.
-/

namespace FrontPanel.Led

/-! ### The routine -/

inductive McuOp
  | smbus (op : SmbusOp)
  | readI2cBlockData (command : UInt8) (length : Nat)

/-- A block read gives an error, or the bytes it brought, at most as many as asked for. -/
abbrev BlockAnswer (length : Nat) : Type := Except Int { bytes : List UInt8 // bytes.length ≤ length }

abbrev McuBus : Interface where
  Op := McuOp
  Answer := fun op =>
    match op with
    | .smbus _ => Int
    | .readI2cBlockData _ length => BlockAnswer length

/-- The record of an LED with the two words only this routine writes. -/
structure LedReading extends LedStatus where
  time : UInt16
  timeLight : UInt16

def onSmbus {Value : Type} (program : Prog Smbus Value) : Prog McuBus Value :=
  program.handle fun op => Prog.access McuBus (.smbus op)

/-- The first loop, with `left` tries to go. -/
def readBlock (command : UInt8) : Nat → List UInt8 → Prog McuBus (Option (List UInt8))
  | 0, _ => return none
  | left + 1, data => do
      match ← Prog.access McuBus (.readI2cBlockData command 11) with
      | .error _ => readBlock command left data
      | .ok bytes =>
          let data := bytes.val ++ data.drop bytes.val.length
          if bytes.val.length ≠ 11 then readBlock command left data else return some data

/-- Two bytes of the block as a word, the high one first. -/
def wordAt (data : List UInt8) (i : Nat) : UInt16 :=
  ((data.getD i 0).toNat <<< 8 ||| (data.getD (i + 1) 0).toNat).toUInt16

def LedReading.store (status : LedReading) (data : List UInt8) : LedReading :=
  { status with
    light := (data.getD 1 0).toUInt16
    statusData := BitVec.ofNat 32
      ((data.getD 2 0).toNat <<< 16 ||| (data.getD 3 0).toNat <<< 8 ||| (data.getD 4 0).toNat)
    rgb := ⟨data.getD 2 0, data.getD 3 0, data.getD 4 0⟩
    time := wordAt data 5
    timeLight := wordAt data 7 }

def i2cIdx601xReadLed (led : Nat) (status : LedReading) : Prog McuBus (Int × LedReading) := do
  match ← readBlock (ledAddr led + 0x81) 3 (List.replicate 11 0) with
  | none => return (eBusy, status)
  | some data =>
      match ← onSmbus (readFlags 3) with
      | none => return (eBusy, status)
      | some ret =>
          if CrcCheck data then return (ret, status.store data) else return (eBusy, status)

/-! ### What a read is answered -/

def blockRead (led : Nat) (answer : BlockAnswer 11) : Event McuBus :=
  ⟨.readI2cBlockData (ledAddr led + 0x81) 11, answer⟩

def flagRead (answer : Int) : Event McuBus := ⟨.smbus (.readByteData mcuReceiveFlags), answer⟩

/-- The block read did not bring the whole block. -/
def Short (answer : BlockAnswer 11) : Prop := ∀ bytes, answer = .ok bytes → bytes.val.length ≠ 11

/-- The whole blocks that were read. -/
def wholeBlocks (events : List (Event McuBus)) : List (List UInt8) :=
  events.filterMap fun event =>
    match event with
    | ⟨.readI2cBlockData _ _, .ok bytes⟩ =>
        if bytes.val.length = 11 then some bytes.val else none
    | _ => none

/-- The answers to the reads of the flags. -/
def flagAnswers (events : List (Event McuBus)) : List Int :=
  events.filterMap fun event =>
    match event with
    | ⟨.smbus (.readByteData _), answer⟩ => some answer
    | _ => none

/-- A whole block `data` was read, and the controller acknowledged it. -/
def Answered (events : List (Event McuBus)) (data : List UInt8) : Prop :=
  data ∈ wholeBlocks events ∧ 1 ∈ flagAnswers events

section Trace

variable {led left : Nat} {status after : LedReading} {events : List (Event McuBus)}
  {data : List UInt8}

/-- The block reads of one loop: those that fell short, and the one that did not if there was one. -/
def BlockReads (led : Nat) (short : List (BlockAnswer 11)) (events : List (Event McuBus)) :
    Option (List UInt8) → Prop
  | none => events = short.map (blockRead led)
  | some data => ∃ bytes : { bytes : List UInt8 // bytes.length ≤ 11 },
      bytes.val = data ∧ data.length = 11 ∧
        events = short.map (blockRead led) ++ [blockRead led (.ok bytes)]

theorem BlockReads.cons {short : List (BlockAnswer 11)} {result : Option (List UInt8)}
    (hreads : BlockReads led short events result) (answer : BlockAnswer 11) :
    BlockReads led (answer :: short) (blockRead led answer :: events) result := by
  cases result with
  | none =>
      obtain rfl : events = short.map (blockRead led) := hreads
      rfl
  | some data =>
      obtain ⟨bytes, hbytes, hlength, rfl⟩ := hreads
      exact ⟨bytes, hbytes, hlength, rfl⟩

theorem readBlock_trace {result : Option (List UInt8)} (hlength : data.length = 11)
    (htrace : (readBlock (ledAddr led + 0x81) left data).Trace events result) :
    ∃ short : List (BlockAnswer 11), (∀ answer ∈ short, Short answer) ∧
      (result ≠ none → short.length < left) ∧ BlockReads led short events result := by
  induction left generalizing data events with
  | zero =>
      obtain ⟨rfl, rfl⟩ := htrace
      exact ⟨[], by simp, fun hsome => absurd rfl hsome, rfl⟩
  | succ left ih =>
      rw [readBlock, Prog.access_bind, Prog.trace_call] at htrace
      obtain ⟨answer, rest, rfl, hrest⟩ := htrace
      have hmore : ∀ {data : List UInt8}, data.length = 11 → Short answer →
          (readBlock (ledAddr led + 0x81) left data).Trace rest result →
          ∃ short : List (BlockAnswer 11), (∀ answer ∈ short, Short answer) ∧
            (result ≠ none → short.length < left + 1) ∧
              BlockReads led short (blockRead led answer :: rest) result := by
        intro data hlength hshort hrest
        obtain ⟨short, hall, hlt, hreads⟩ := ih hlength hrest
        exact ⟨answer :: short, List.forall_mem_cons.mpr ⟨hshort, hall⟩,
          fun hsome => Nat.succ_lt_succ (hlt hsome), hreads.cons answer⟩
      cases answer with
      | error ret => exact hmore hlength (fun bytes hbytes => by cases hbytes) hrest
      | ok bytes =>
          dsimp only at hrest
          by_cases hwhole : bytes.val.length = 11
          · rw [if_neg (not_not.mpr hwhole)] at hrest
            obtain ⟨rfl, rfl⟩ := hrest
            have hdrop : data.drop bytes.val.length = [] :=
              List.drop_eq_nil_of_le (by rw [hlength, hwhole])
            rw [hdrop, List.append_nil]
            exact ⟨[], by simp, fun _ => Nat.succ_pos left, bytes, rfl, hwhole, rfl⟩
          · rw [if_pos hwhole] at hrest
            refine hmore ?_ (fun other hother => ?_) hrest
            · have hle := bytes.property
              rw [List.length_append, List.length_drop, hlength]
              omega
            · cases hother
              exact hwhole

theorem onSmbus_trace {Value : Type} {program : Prog Smbus Value} {value : Value} :
    (onSmbus program).Trace events value ↔ ∃ calls, program.Trace calls value ∧
      events = calls.map fun call => ⟨.smbus call.op, call.answer⟩ := by
  induction program generalizing events with
  | ret returned =>
      constructor
      · intro hgiven
        obtain ⟨rfl, rfl⟩ := hgiven
        exact ⟨[], ⟨rfl, rfl⟩, rfl⟩
      · intro hgiven
        obtain ⟨_, ⟨rfl, rfl⟩, rfl⟩ := hgiven
        exact ⟨rfl, rfl⟩
  | call op next ih =>
      constructor
      · intro hgiven
        obtain ⟨answer, rest, rfl, hrest⟩ := hgiven
        obtain ⟨calls, htrace, rfl⟩ := (ih answer).mp hrest
        exact ⟨⟨op, answer⟩ :: calls, ⟨answer, calls, rfl, htrace⟩, rfl⟩
      · intro hgiven
        obtain ⟨_, ⟨answer, calls, rfl, htrace⟩, rfl⟩ := hgiven
        exact ⟨answer, _, rfl, (ih answer).mpr ⟨calls, htrace, rfl⟩⟩

theorem wholeBlocks_append (left right : List (Event McuBus)) :
    wholeBlocks (left ++ right) = wholeBlocks left ++ wholeBlocks right := List.filterMap_append

theorem flagAnswers_append (left right : List (Event McuBus)) :
    flagAnswers (left ++ right) = flagAnswers left ++ flagAnswers right := List.filterMap_append

theorem wholeBlocks_short {short : List (BlockAnswer 11)} (hshort : ∀ answer ∈ short, Short answer) :
    wholeBlocks (short.map (blockRead led)) = [] := by
  rw [wholeBlocks, List.filterMap_map]
  refine List.filterMap_eq_nil_iff.mpr fun answer hmem => ?_
  have hfell := hshort answer hmem
  cases answer with
  | error ret => rfl
  | ok bytes => exact if_neg (hfell bytes rfl)

theorem flagAnswers_blocks (answers : List (BlockAnswer 11)) :
    flagAnswers (answers.map (blockRead led)) = [] := by
  rw [flagAnswers, List.filterMap_map]
  exact List.filterMap_eq_nil_iff.mpr fun _ _ => rfl

theorem wholeBlocks_flags (answers : List Int) : wholeBlocks (answers.map flagRead) = [] := by
  rw [wholeBlocks, List.filterMap_map]
  exact List.filterMap_eq_nil_iff.mpr fun _ _ => rfl

theorem flagAnswers_flags (answers : List Int) : flagAnswers (answers.map flagRead) = answers := by
  rw [flagAnswers, List.filterMap_map]
  exact List.filterMap_some

/-- A read takes at most three block reads, the last of them the only whole one, and then at most three looks at the flags. -/
theorem i2cIdx601xReadLed_trace {ret : Int}
    (htrace : (i2cIdx601xReadLed led status).Trace events (ret, after)) :
    ∃ (whole : List (List UInt8)) (flags : List Int), wholeBlocks events = whole ∧
      flagAnswers events = flags ∧ whole.length ≤ 1 ∧ flags.length ≤ 3 ∧
      ((∃ data, whole = [data] ∧ data.length = 11 ∧ 1 ∈ flags ∧ CrcCheck data ∧ ret = 1 ∧
          after = status.store data) ∨
        ((∀ data ∈ whole, 1 ∈ flags → ¬ CrcCheck data) ∧ ret = eBusy ∧ after = status)) := by
  obtain ⟨result, left, right, rfl, hblock, hrest⟩ := Prog.trace_bind.mp htrace
  obtain ⟨short, hshort, -, hreads⟩ := readBlock_trace (by rfl) hblock
  cases result with
  | none =>
      obtain rfl : left = short.map (blockRead led) := hreads
      obtain ⟨rfl, hresult⟩ := hrest
      obtain ⟨rfl, rfl⟩ := Prod.mk.inj hresult
      rw [List.append_nil, wholeBlocks_short hshort, flagAnswers_blocks]
      refine ⟨[], [], rfl, rfl, Nat.zero_le 1, Nat.zero_le 3, .inr ⟨fun data hmem => ?_, rfl, rfl⟩⟩
      exact absurd hmem List.not_mem_nil
  | some data =>
      obtain ⟨bytes, rfl, hlength, rfl⟩ := hreads
      obtain ⟨found, middle, last, rfl, hflags, hrest⟩ := Prog.trace_bind.mp hrest
      obtain ⟨calls, hcalls, rfl⟩ := onSmbus_trace.mp hflags
      obtain ⟨flags, hle, rfl, hfound⟩ := readFlags_trace hcalls
      have hmap : (flags.map (Event.mk (S := Smbus) (.readByteData mcuReceiveFlags))).map
          (fun call => (⟨.smbus call.op, call.answer⟩ : Event McuBus)) = flags.map flagRead := by
        rw [List.map_map]
        rfl
      have hend : last = [] ∧ ((1 ∈ flags ∧ CrcCheck bytes.val ∧ ret = 1 ∧
          after = status.store bytes.val) ∨
          ((1 ∈ flags → ¬ CrcCheck bytes.val) ∧ ret = eBusy ∧ after = status)) := by
        by_cases hflag : 1 ∈ flags
        · rw [if_pos hflag] at hfound
          obtain rfl := hfound
          dsimp only at hrest
          by_cases hcheck : CrcCheck bytes.val
          · rw [if_pos hcheck] at hrest
            obtain ⟨rfl, hresult⟩ := hrest
            obtain ⟨rfl, rfl⟩ := Prod.mk.inj hresult
            exact ⟨rfl, .inl ⟨hflag, hcheck, rfl, rfl⟩⟩
          · rw [if_neg hcheck] at hrest
            obtain ⟨rfl, hresult⟩ := hrest
            obtain ⟨rfl, rfl⟩ := Prod.mk.inj hresult
            exact ⟨rfl, .inr ⟨fun _ => hcheck, rfl, rfl⟩⟩
        · rw [if_neg hflag] at hfound
          obtain rfl := hfound
          obtain ⟨rfl, hresult⟩ := hrest
          obtain ⟨rfl, rfl⟩ := Prod.mk.inj hresult
          exact ⟨rfl, .inr ⟨fun hmem => absurd hmem hflag, rfl, rfl⟩⟩
      obtain ⟨rfl, hcases⟩ := hend
      have hwhole : wholeBlocks [blockRead led (.ok bytes)] = [bytes.val] := by
        show List.filterMap _ [_] = _
        rw [List.filterMap_cons_some (b := bytes.val) (by exact if_pos hlength)]
        rfl
      refine ⟨[bytes.val], flags, ?_, ?_, Nat.le_refl 1, hle, ?_⟩
      · rw [hmap, List.append_nil, wholeBlocks_append, wholeBlocks_append, wholeBlocks_short hshort,
          wholeBlocks_flags, hwhole]
        rfl
      · rw [hmap, List.append_nil, flagAnswers_append, flagAnswers_append, flagAnswers_blocks,
          flagAnswers_flags]
        rfl
      · rcases hcases with ⟨hflag, hcheck, hret, hafter⟩ | ⟨hrefused, hret, hafter⟩
        · exact .inl ⟨bytes.val, rfl, hlength, hflag, hcheck, hret, hafter⟩
        · refine .inr ⟨fun data hmem => ?_, hret, hafter⟩
          rw [List.mem_singleton.mp hmem]
          exact hrefused

/-- A read is taken where a whole block was read, it adds up and the controller acknowledged it; otherwise the record stays as it was. -/
theorem i2cIdx601xReadLed_accepts_iff {ret : Int}
    (htrace : (i2cIdx601xReadLed led status).Trace events (ret, after)) :
    (ret = 1 ↔ ∃ data, Answered events data ∧ CrcCheck data) ∧
      (∀ data, Answered events data → CrcCheck data → after = status.store data) ∧
      (ret ≠ 1 → ret = eBusy ∧ after = status) := by
  obtain ⟨whole, flags, hwhole, hflags, -, -, hcase⟩ := i2cIdx601xReadLed_trace htrace
  have hanswered : ∀ data, Answered events data ↔ data ∈ whole ∧ 1 ∈ flags := by
    intro data
    rw [Answered, hwhole, hflags]
  rcases hcase with ⟨data, rfl, -, hflag, hcheck, hret, hafter⟩ | ⟨hrefused, hret, hafter⟩
  · refine ⟨iff_of_true hret ⟨data, ?_, hcheck⟩, fun other hother _ => ?_, fun hne => ?_⟩
    · exact (hanswered data).mpr ⟨List.mem_singleton.mpr rfl, hflag⟩
    · obtain rfl := List.mem_singleton.mp ((hanswered other).mp hother).1
      exact hafter
    · exact absurd hret hne
  · have hnone : ∀ data, Answered events data → ¬ CrcCheck data := by
      intro data hdata
      obtain ⟨hmem, hflag⟩ := (hanswered data).mp hdata
      exact hrefused data hmem hflag
    refine ⟨iff_of_false ?_ ?_, fun data hdata hcheck => ?_, fun _ => ⟨hret, hafter⟩⟩
    · rw [hret]
      decide
    · intro hgiven
      obtain ⟨data, hdata, hcheck⟩ := hgiven
      exact hnone data hdata hcheck
    · exact absurd hcheck (hnone data hdata)

end Trace

/-! ### What the controller sends -/

/-- A reply of the controller. -/
structure McuReply where
  mode : UInt8
  light : UInt8
  rgb : Rgb
  time : UInt16
  timeLight : UInt16

namespace McuReply

def body (reply : McuReply) : List UInt8 :=
  [reply.mode, reply.light, reply.rgb.red, reply.rgb.green, reply.rgb.blue] ++
    bigEndian16 reply.time.toNat ++ bigEndian16 reply.timeLight.toNat

/-- The reply with its sum behind it. -/
def block (reply : McuReply) : List UInt8 :=
  reply.body ++ bigEndian16 (checksum UInt8.toNat reply.body)

theorem crcCheck_block (reply : McuReply) : CrcCheck reply.block := by
  have hsum : checksum UInt8.toNat reply.body ≤ 255 * 9 := checksum_bytes_le reply.body
  refine (crcCheck_iff rfl _ _).mpr ?_
  simp only [UInt8.toNat_ofNat']
  omega

end McuReply

theorem not_crcCheck_set {data : List UInt8} (hlength : data.length = 11) (hcheck : CrcCheck data)
    {i : Nat} {byte : UInt8} (hi : i < data.length) (hbyte : byte ≠ data[i]) :
    ¬ CrcCheck (data.set i byte) := by
  obtain ⟨body, tail, rfl, hbody⟩ : ∃ body tail, data = body ++ tail ∧ body.length = 9 :=
    ⟨data.take 9, data.drop 9, (List.take_append_drop 9 data).symm, by
      rw [List.length_take, hlength]; rfl⟩
  have htail : tail.length = 2 := by
    rw [List.length_append, hbody] at hlength
    omega
  obtain ⟨high, low, rfl⟩ := List.length_eq_two.mp htail
  have hsum := (crcCheck_iff hbody high low).mp hcheck
  by_cases hsummed : i < body.length
  · rw [List.getElem_append_left hsummed] at hbyte
    have hset : (body.set i byte).length = 9 := by rw [List.length_set, hbody]
    rw [List.set_append_left _ _ hsummed, crcCheck_iff hset, ← hsum]
    exact checksum_set_ne (fun _ _ => UInt8.toNat_inj.mp) hsummed hbyte
  · have hlast : i = 9 ∨ i = 10 := by omega
    rw [List.getElem_append_right (Nat.le_of_not_lt hsummed)] at hbyte
    rw [List.set_append_right _ _ (Nat.le_of_not_lt hsummed), hbody]
    simp only [hbody] at hbyte
    intro hbad
    rcases hlast with rfl | rfl
    · have hother := (crcCheck_iff hbody byte low).mp hbad
      have hsame : byte.toNat = high.toNat := by omega
      exact hbyte (UInt8.toNat_inj.mp hsame)
    · have hother := (crcCheck_iff hbody high byte).mp hbad
      have hsame : byte.toNat = low.toNat := by omega
      exact hbyte (UInt8.toNat_inj.mp hsame)

section RoundTrip

variable {led : Nat} {status after : LedReading} {events : List (Event McuBus)} {ret : Int}

end RoundTrip

def darkLed : LedReading where
  mode := ledModeLight
  statusData := 0
  light := 0
  rgb := ⟨0, 0, 0⟩
  time := 0
  timeLight := 0

def orangeReply : McuReply where
  mode := ledModeLight
  light := 0x80
  rgb := ⟨220, 40, 0⟩
  time := 1000
  timeLight := 500

/-- The second block read and the second look at the flags succeed. -/
def orangeEvents : List (Event McuBus) :=
  [blockRead 1 (.error (-6)), blockRead 1 (.ok ⟨orangeReply.block, by decide⟩), flagRead 0,
    flagRead 1]

theorem orangeEvents_trace : (i2cIdx601xReadLed 1 darkLed).Trace orangeEvents
    (1, darkLed.store orangeReply.block) :=
  ⟨_, _, rfl, _, _, rfl, _, _, rfl, _, _, rfl, rfl, rfl⟩

theorem orangeEvents_accepted : ∃ data, Answered orangeEvents data ∧ CrcCheck data :=
  (i2cIdx601xReadLed_accepts_iff orangeEvents_trace).1.mp rfl

end FrontPanel.Led
