import FrontPanel.Led.Driver

/-!
# The blink rate

The attributes `delay_on` and `delay_off` of the triggers timer2 and breath, whose stores are the same in `ledtrig-timer2-ht32f52231.c` and `ledtrig-breath-ht32f52231.c`. A store hands the number read and the other delay to `led_blink_set`, which passes them to `leds_blink_set`; that packs their sum and one of them into the 32 bits of `status_data`, sixteen bits for each, and does not check that they fit. What is proved is exactly when the two numbers sent are the ones in sysfs.
-/

namespace FrontPanel.Led

/-! ### The stores -/

inductive BlinkTrigger
  | timer2
  | breath

def BlinkTrigger.name : BlinkTrigger → String
  | .timer2 => "timer2"
  | .breath => "breath"

inductive Delay
  | on
  | off

/-- The pair of delays a store asks for: the number read, and the other one as it is. -/
def Blink.ask (s : Blink) : Delay → Nat → Blink
  | .on, state => { s with delayOn := .ofNat 64 state }
  | .off, state => { s with delayOff := .ofNat 64 state }

section Store

variable (software : Blink → Blink) (led : Nat) (trigger : BlinkTrigger)

/-- The LED core: where the driver refuses, the LED blinks in software. -/
def ledBlinkSet (s : Blink) : Prog Smbus Blink := do
  let (ret, s) ← ledsBlinkSet led (some trigger.name) s
  return if ret = 0 then s else software s

/-- The delays in a `Blink` are `blink_delay_on` and `blink_delay_off` here. -/
def ledDelayStore (delay : Delay) (buf : List UInt8) (size : Int) (s : Blink) :
    Prog Smbus (Int × Blink) :=
  match CString.kstrtoul buf with
  | .error ret => return (ret, s)
  | .ok state => do
      let s ← ledBlinkSet software led trigger (s.ask delay state)
      return (size, s)

def ledDelayOnStore := ledDelayStore software led trigger .on

def ledDelayOffStore := ledDelayStore software led trigger .off

end Store

/-! ### Sequences of stores -/

structure BlinkFiles where
  blink : Blink
  /-- the transfers of all stores so far -/
  log : List (Event Smbus)

/-- A store of a number, on which the writes to the controller succeed: the driver's `blink_set` returns 0. -/
inductive BlinkFiles.Store (software : Blink → Blink) (led : Nat) (trigger : BlinkTrigger) :
    BlinkFiles → Delay × List UInt8 → BlinkFiles → Prop
  | store {s : BlinkFiles} {delay : Delay} {buf : List UInt8} {state : Nat} {size : Int}
      {events : List (Event Smbus)} {after driven : Blink}
      (hstate : CString.kstrtoul buf = .ok state)
      (hstore : (ledDelayStore software led trigger delay buf size s.blink).Trace events
        (size, after))
      (hsucceeds : (ledsBlinkSet led (some trigger.name) (s.blink.ask delay state)).Trace events
        (0, driven)) :
      Store software led trigger s (delay, buf) ⟨after, s.log ++ events⟩

/-- The last frame sent. -/
def lastWrite (log : List (Event Smbus)) : Option SmbusOp :=
  log.foldl (fun last event =>
    match event.op with
    | .writeBlockData command values => some (.writeBlockData command values)
    | .readByteData _ => last) none

/-- Two numbers of 16 bits, high byte first. -/
def wordOf (high low : UInt8) : Nat := high.toNat * 256 + low.toNat

/-- The period and the part of it in a frame. -/
def rateOf (op : SmbusOp) : Option (Nat × Nat) :=
  match op with
  | .writeBlockData _ [_, _, _, _, _, data1, data2, data3, data4, _, _] =>
      some (wordOf data1 data2, wordOf data3 data4)
  | _ => none

/-- The rate that belongs to the delays in sysfs. -/
def BlinkTrigger.rate (trigger : BlinkTrigger) (delayOn delayOff : Nat) : Nat × Nat :=
  match trigger with
  | .timer2 =>
      if delayOn = 0 ∨ delayOff = 0 then (0, 0) else (delayOn + delayOff, delayOff)
  | .breath => (delayOn + delayOff, delayOn)

/-- The last frame has the rate of the cached delays. -/
def BlinkFiles.Shown (trigger : BlinkTrigger) (s : BlinkFiles) : Prop :=
  (lastWrite s.log).bind rateOf =
    some (trigger.rate s.blink.delayOn.toNat s.blink.delayOff.toNat)

/-- The period of a pair of delays asked for fits its 16 bits. -/
def BlinkTrigger.Fits (trigger : BlinkTrigger) (delayOn delayOff : Nat) : Prop :=
  match trigger with
  | .timer2 => delayOn = 0 ∨ delayOff = 0 ∨ delayOn + delayOff < 65536
  | .breath => max delayOn 1000 + max delayOff 500 < 65536

/-! ### What is sent -/

/-- Remember the last frame. -/
def watch : Prog.Rule Smbus (Option SmbusOp) where
  Allows := fun _ _ => True
  next := fun last event =>
    match event.op with
    | .writeBlockData command values => some (.writeBlockData command values)
    | .readByteData _ => last

theorem readFlags_watch (left : Nat) (last : Option SmbusOp) :
    (readFlags left).Obeys watch (fun _ after => after = last) last := by
  induction left with
  | zero => rfl
  | succ left ih =>
      rw [readFlags, Prog.access_bind, Prog.obeys_call]
      refine ⟨trivial, fun answer => ?_⟩
      split
      · exact ih
      · rfl

theorem sendFrame_watch (frame : LedFrame) (left : Nat) :
    (sendFrame frame left).Obeys watch (fun _ after => after = some frame.write)
      (some frame.write) := by
  induction left with
  | zero => rfl
  | succ left ih =>
      rw [sendFrame, Prog.access_bind, Prog.obeys_call]
      refine ⟨trivial, fun answer => ?_⟩
      split
      · exact ih
      · rfl

theorem i2cIdx601xWriteLed_watch (frame : LedFrame) (last : Option SmbusOp) :
    (i2cIdx601xWriteLed frame).Obeys watch (fun _ after => after = some frame.write) last := by
  have hsend : (sendFrame frame 3).Obeys watch (fun _ after => after = some frame.write) last := by
    rw [sendFrame, Prog.access_bind, Prog.obeys_call]
    refine ⟨trivial, fun answer => ?_⟩
    split
    · exact sendFrame_watch frame 2
    · rfl
  refine Prog.obeys_bind.mpr (hsend.weaken fun sent after hafter => ?_)
  obtain rfl := hafter
  split
  · rfl
  · refine Prog.obeys_bind.mpr ((readFlags_watch 3 _).weaken fun ret after hafter => ?_)
    obtain rfl := hafter
    cases ret <;> rfl

theorem sendFrames_watch (frame : LedFrame) (last : Option SmbusOp) :
    (sendFrames [frame]).Obeys watch (fun _ after => after = some frame.write) last := by
  refine Prog.obeys_bind.mpr ((i2cIdx601xWriteLed_watch frame last).weaken fun ret after hafter => ?_)
  split
  · exact hafter
  · exact hafter

/-- Under the two triggers one frame is sent, made of what the call leaves in the record. -/
theorem ledsBlinkSet_sends {led : Nat} {trigger : BlinkTrigger} {s after : Blink}
    {events : List (Event Smbus)} {ret : Int}
    (htrace : (ledsBlinkSet led (some trigger.name) s).Trace events (ret, after))
    (log : List (Event Smbus)) :
    after = s.request trigger.name ∧
      lastWrite (log ++ events) = some (statusFrame led after.status).write := by
  have hname : trigger.name ≠ "normal" := by
    cases trigger with
    | timer2 => decide
    | breath => decide
  obtain ⟨sent, hsent, hpair⟩ := Prog.trace_map.mp htrace
  obtain ⟨rfl, rfl⟩ := Prod.mk.inj hpair
  rw [blinkFrames, if_neg hname] at hsent
  refine ⟨rfl, ?_⟩
  have hlast := (sendFrames_watch _ (lastWrite log)).trace hsent
  rw [lastWrite, List.foldl_append]
  exact hlast

/-! ### The two numbers in a frame -/

theorem rateOf_statusFrame (led : Nat) (status : LedStatus) :
    rateOf (statusFrame led status).write =
      some (status.statusData.toNat / 65536, status.statusData.toNat % 65536) := by
  have hbyte : ∀ i, i < 4 → (byteAt status.statusData i).toNat =
      status.statusData.toNat >>> (8 * i) % 256 := fun i hi => byteAt_toNat _ hi
  have hlt := status.statusData.isLt
  show some (wordOf (byteAt status.statusData 3) (byteAt status.statusData 2),
    wordOf (byteAt status.statusData 1) (byteAt status.statusData 0)) = _
  rw [wordOf, wordOf, hbyte 3 (by decide), hbyte 2 (by decide), hbyte 1 (by decide),
    hbyte 0 (by decide)]
  simp only [Nat.shiftRight_eq_div_pow]
  congr 2
  · omega
  · omega

theorem packed_toNat {delayOn delayOff part : BitVec 64}
    (hsum : delayOn.toNat + delayOff.toNat < 65536) (hpart : part.toNat < 65536) :
    (((delayOn + delayOff) <<< 16).setWidth 32 ||| part.setWidth 32).toNat =
      (delayOn.toNat + delayOff.toNat) * 65536 + part.toNat := by
  have hadd : (delayOn + delayOff).toNat = delayOn.toNat + delayOff.toNat := by
    rw [BitVec.toNat_add]
    omega
  have hhigh : (((delayOn + delayOff) <<< 16).setWidth 32).toNat =
      (delayOn.toNat + delayOff.toNat) <<< 16 := by
    rw [BitVec.toNat_setWidth, BitVec.toNat_shiftLeft, hadd, Nat.shiftLeft_eq]
    omega
  have hlow : (part.setWidth 32).toNat = part.toNat := by
    rw [BitVec.toNat_setWidth]
    omega
  rw [BitVec.toNat_or, hhigh, hlow, ← Nat.shiftLeft_add_eq_or_of_lt hpart, Nat.shiftLeft_eq]

/-- A period that does not fit is not the one in the frame, and one that fits leaves room for its part. -/
theorem rateOf_packed_iff (led : Nat) {status : LedStatus} {delayOn delayOff part : BitVec 64}
    (hdata : status.statusData =
      ((delayOn + delayOff) <<< 16).setWidth 32 ||| part.setWidth 32)
    (hpart : part.toNat ≤ delayOn.toNat + delayOff.toNat) :
    rateOf (statusFrame led status).write =
        some (delayOn.toNat + delayOff.toNat, part.toNat) ↔
      delayOn.toNat + delayOff.toNat < 65536 := by
  rw [rateOf_statusFrame, Option.some_inj, Prod.mk.injEq]
  constructor
  · intro hgiven
    have hlt := status.statusData.isLt
    omega
  · intro hsum
    rw [hdata, packed_toNat hsum (by omega)]
    omega

theorem Blink.request_timer2 (s : Blink) : s.request "timer2" =
    { s with
      status := { s.status with
        mode := ledModeBlink
        statusData := if s.delayOn = 0 ∨ s.delayOff = 0 then 0
          else ((s.delayOn + s.delayOff) <<< 16).setWidth 32 ||| s.delayOff.setWidth 32 } } := by
  rw [Blink.request, if_neg (by decide), if_neg (by decide), if_pos rfl]

/-- A delay that is raised to a bound. -/
def raised (delay bound : BitVec 64) : BitVec 64 := if delay < bound then bound else delay

theorem raised_toNat (delay bound : BitVec 64) :
    (raised delay bound).toNat = max delay.toNat bound.toNat := by
  rw [raised]
  split
  · next hlt => exact (Nat.max_eq_right (Nat.le_of_lt hlt)).symm
  · next hge => exact (Nat.max_eq_left (Nat.le_of_not_lt hge)).symm

theorem Blink.request_breath (s : Blink) : s.request "breath" =
    { status := { s.status with
        mode := ledModeBreath
        statusData := ((raised s.delayOn 1000 + raised s.delayOff 500) <<< 16).setWidth 32 |||
          (raised s.delayOn 1000).setWidth 32 }
      brightness := s.status.light.toUInt32
      delayOn := raised s.delayOn 1000
      delayOff := raised s.delayOff 500 } := by
  rw [Blink.request, if_neg (by decide), if_pos rfl]
  rfl

theorem rate_request_iff (led : Nat) (trigger : BlinkTrigger) (s : Blink) :
    rateOf (statusFrame led (s.request trigger.name).status).write =
        some (trigger.rate (s.request trigger.name).delayOn.toNat
          (s.request trigger.name).delayOff.toNat) ↔
      trigger.Fits s.delayOn.toNat s.delayOff.toNat := by
  cases trigger with
  | timer2 =>
      have hzero : ∀ delay : BitVec 64, delay = 0 ↔ delay.toNat = 0 := fun delay =>
        BitVec.toNat_eq
      rw [BlinkTrigger.name, Blink.request_timer2, BlinkTrigger.rate, BlinkTrigger.Fits]
      by_cases hstill : s.delayOn.toNat = 0 ∨ s.delayOff.toNat = 0
      · rw [if_pos hstill, rateOf_statusFrame]
        simp only [hzero, if_pos hstill]
        exact ⟨fun _ => or_assoc.mp (.inl hstill), fun _ => rfl⟩
      · rw [if_neg hstill]
        have hmoving : ¬ (s.delayOn = 0 ∨ s.delayOff = 0) := by simpa only [hzero] using hstill
        refine (rateOf_packed_iff led (if_neg hmoving) (Nat.le_add_left _ _)).trans ?_
        rw [← or_assoc, or_iff_right hstill]
  | breath =>
      rw [BlinkTrigger.name, Blink.request_breath, BlinkTrigger.rate, BlinkTrigger.Fits]
      refine (rateOf_packed_iff led rfl (Nat.le_add_right _ _)).trans ?_
      rw [raised_toNat, raised_toNat]
      rfl

/-! ### Whole runs -/

/-- The pair of delays a store asks for, as numbers. -/
def BlinkFiles.asked (s : BlinkFiles) (delay : Delay) (state : Nat) : Nat × Nat :=
  match delay with
  | .on => (state, s.blink.delayOff.toNat)
  | .off => (s.blink.delayOn.toNat, state)

/-- The store asks for delays whose period fits. -/
def BlinkFiles.Fits (trigger : BlinkTrigger) (s : BlinkFiles) (label : Delay × List UInt8) : Prop :=
  ∀ state, CString.kstrtoul label.2 = .ok state →
    trigger.Fits (s.asked label.1 state).1 (s.asked label.1 state).2

theorem Blink.ask_toNat {s : BlinkFiles} {delay : Delay} {state : Nat}
    (hlt : state < 18446744073709551616) :
    ((s.blink.ask delay state).delayOn.toNat, (s.blink.ask delay state).delayOff.toNat) =
      s.asked delay state := by
  cases delay with
  | on => exact congrArg (·, s.blink.delayOff.toNat) (Nat.mod_eq_of_lt hlt)
  | off => exact congrArg (s.blink.delayOn.toNat, ·) (Nat.mod_eq_of_lt hlt)

variable {software : Blink → Blink} {led : Nat} {trigger : BlinkTrigger}

theorem ledDelayStore_trace {delay : Delay} {buf : List UInt8} {state : Nat} {size : Int}
    {s driven : Blink} {events : List (Event Smbus)}
    (hstate : CString.kstrtoul buf = .ok state)
    (hsucceeds : (ledsBlinkSet led (some trigger.name) (s.ask delay state)).Trace events
      (0, driven)) :
    (ledDelayStore software led trigger delay buf size s).Trace events (size, driven) := by
  rw [ledDelayStore, hstate]
  refine Prog.trace_map.mpr ⟨driven, ?_, rfl⟩
  exact Prog.trace_map.mpr ⟨(0, driven), hsucceeds, (if_pos rfl).symm⟩

/-- After a store the rate in the controller is the one in sysfs if and only if the store asks for delays whose period fits. -/
theorem BlinkFiles.Store.shown_iff {before after : BlinkFiles} {label : Delay × List UInt8}
    (hstep : Store software led trigger before label after) :
    after.Shown trigger ↔ before.Fits trigger label := by
  cases hstep with
  | @store delay buf state size events after driven hstate hstore hsucceeds =>
      obtain ⟨rfl, hlast⟩ := ledsBlinkSet_sends hsucceeds before.log
      have hafter : after = (before.blink.ask delay state).request trigger.name := by
        exact (Prod.mk.inj (hstore.unique (ledDelayStore_trace hstate hsucceeds))).2
      obtain rfl := hafter
      have hasked : _ = before.asked delay state := Blink.ask_toNat (CString.kstrtoul_lt hstate)
      rw [Shown, hlast, Option.bind_some, rate_request_iff, Fits]
      constructor
      · intro hfits other hother
        obtain rfl := Except.ok.inj (hstate.symm.trans hother)
        rw [← hasked]
        exact hfits
      · intro hfits
        have hfits := hfits state hstate
        rw [← hasked] at hfits
        exact hfits

/-- In every sequence of stores, after each of them the rate in the controller is the one in sysfs if and only if the store asks for delays whose period fits. -/
theorem blink_rate_shown_iff {start after : BlinkFiles} {labels : List (Delay × List UInt8)}
    {label : Delay × List UInt8}
    (hrun : Run (BlinkFiles.Store software led trigger) start (labels ++ [label]) after) :
    ∃ before, Run (BlinkFiles.Store software led trigger) start labels before ∧
      BlinkFiles.Store software led trigger before label after ∧
      (after.Shown trigger ↔ before.Fits trigger label) := by
  obtain ⟨before, hearlier, hstep⟩ := Run.snoc_iff.mp hrun
  exact ⟨before, hearlier, hstep, hstep.shown_iff⟩

theorem ledsBlinkSet_answered (led : Nat) (trigger : BlinkTrigger) (s : Blink) :
    (ledsBlinkSet led (some trigger.name) s).Trace
      [⟨(statusFrame led (s.request trigger.name).status).write, 0⟩,
        ⟨.readByteData mcuReceiveFlags, 1⟩] (0, s.request trigger.name) := by
  cases trigger with
  | timer2 => exact ⟨0, _, rfl, 1, _, rfl, rfl, rfl⟩
  | breath => exact ⟨0, _, rfl, 1, _, rfl, rfl, rfl⟩

theorem BlinkFiles.exists_store (software : Blink → Blink) (led : Nat) (trigger : BlinkTrigger)
    (before : BlinkFiles) (delay : Delay) {buf : List UInt8} {state : Nat}
    (hstate : CString.kstrtoul buf = .ok state) :
    ∃ after, Store software led trigger before (delay, buf) after := by
  have hsucceeds := ledsBlinkSet_answered led trigger (before.blink.ask delay state)
  have hstore : (ledDelayStore software led trigger delay buf 0 before.blink).Trace _ (0, _) :=
    ledDelayStore_trace hstate hsucceeds
  exact ⟨_, .store hstate hstore hsucceeds⟩

/-- 250 is stored in `delay_on` under timer2 while `delay_off` is 750. -/
theorem blink_rate_shown_second : ∃ before after : BlinkFiles,
    before.blink.delayOff = 750 ∧
    Run (BlinkFiles.Store id 0 .timer2) before ([] ++ [(.on, CString.ascii "250")]) after ∧
    after.Shown .timer2 := by
  let before : BlinkFiles := ⟨⟨⟨0, 0, 0, ⟨0, 0, 0⟩⟩, 0, 0, 750⟩, []⟩
  have hstate : CString.kstrtoul (CString.ascii "250") = .ok 250 := by rfl
  obtain ⟨after, hstep⟩ := before.exists_store id 0 .timer2 .on hstate
  have hrun : Run (BlinkFiles.Store id 0 .timer2) before ([] ++ [(.on, CString.ascii "250")]) after :=
    .single hstep
  obtain ⟨_, hearlier, -, hiff⟩ := blink_rate_shown_iff hrun
  obtain rfl := Run.nil_iff.mp hearlier
  refine ⟨_, after, rfl, hrun, hiff.mpr ?_⟩
  intro state hother
  obtain rfl := Except.ok.inj (hstate.symm.trans hother)
  exact .inr (.inr (by decide))

/-- 65536 is stored in `delay_on` under timer2 while `delay_off` is 500: the controller is told a period of 500. -/
theorem blink_rate_not_shown : ¬ ∀ (software : Blink → Blink) (led : Nat) (trigger : BlinkTrigger)
    (start after : BlinkFiles) (labels : List (Delay × List UInt8)) (label : Delay × List UInt8),
    Run (BlinkFiles.Store software led trigger) start (labels ++ [label]) after →
      after.Shown trigger := by
  intro halways
  let before : BlinkFiles := ⟨⟨⟨0, 0, 0, ⟨0, 0, 0⟩⟩, 0, 0, 500⟩, []⟩
  have hstate : CString.kstrtoul (CString.ascii "65536") = .ok 65536 := by rfl
  obtain ⟨after, hstep⟩ := before.exists_store id 0 .timer2 .on hstate
  have hfits := hstep.shown_iff.mp (halways id 0 .timer2 before after [] _ (.single hstep)) _ hstate
  have hnot : ¬ BlinkTrigger.timer2.Fits 65536 500 := by
    rintro (hzero | hzero | hsum)
    · cases hzero
    · cases hzero
    · omega
  exact hnot hfits

end FrontPanel.Led
