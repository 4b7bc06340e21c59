import FrontPanel.Led.BlinkRate
import FrontPanel.Led.FrameCheck

/-!
# Requests to blink

`leds_blink_set` puts the request into the record of the LED, the class device and the delays of its caller, and then sends. Nothing takes it back when a frame fails, so a request that fails has changed whatever it would have changed. A trigger the controller knows nothing of asks for nothing, and its call sends what the last request of another trigger has left in the record.
-/

namespace FrontPanel.Led

/-! ### A request that fails -/

/-- What a failed request is to leave alone. -/
def SameSettings (s after : Blink) : Prop :=
  after.status.mode = s.status.mode ∧ after.status.statusData = s.status.statusData ∧
    after.brightness = s.brightness ∧ after.delayOn = s.delayOn ∧ after.delayOff = s.delayOff

/-- The request asks for what is there already, or for nothing. -/
def Settled (trigger : Option String) (s : Blink) : Prop :=
  match trigger with
  | none => True
  | some name =>
      if name = "normal" then
        s.status.mode = ledModeLight ∧ s.status.statusData = 0 ∧ s.delayOn = 0 ∧ s.delayOff = 0
      else if name = "breath" then
        s.status.mode = ledModeBreath ∧
          s.status.statusData =
            ((s.delayOn + s.delayOff) <<< 16).setWidth 32 ||| s.delayOn.setWidth 32 ∧
          s.brightness = s.status.light.toUInt32 ∧ 1000 ≤ s.delayOn ∧ 500 ≤ s.delayOff
      else if name = "timer2" then
        s.status.mode = ledModeBlink ∧
          s.status.statusData =
            if s.delayOn = 0 ∨ s.delayOff = 0 then 0#32
            else ((s.delayOn + s.delayOff) <<< 16).setWidth 32 ||| s.delayOff.setWidth 32
      else True

theorem raised_eq_iff (delay bound : BitVec 64) : raised delay bound = delay ↔ bound ≤ delay := by
  rw [raised]
  split
  · next hlt =>
    constructor
    · intro hsame
      exact BitVec.le_of_eq hsame
    · intro hle
      exact absurd hlt (BitVec.not_lt.mpr hle)
  · next hge => exact ⟨fun _ => BitVec.not_lt.mp hge, fun _ => rfl⟩

theorem Blink.request_normal (s : Blink) : s.request "normal" =
    { s with
      status := { s.status with mode := ledModeLight, statusData := 0 }
      delayOff := 0
      delayOn := 0 } := by
  rw [Blink.request, if_pos rfl]

theorem Blink.request_other (s : Blink) {name : String} (hnormal : name ≠ "normal")
    (hbreath : name ≠ "breath") (htimer : name ≠ "timer2") : s.request name = s := by
  rw [Blink.request, if_neg hnormal, if_neg hbreath, if_neg htimer]

/-- What the call does to the settings, it does before anything is sent. -/
theorem sameSettings_request_iff (s : Blink) (name : String) :
    SameSettings s (s.request name) ↔ Settled (some name) s := by
  rw [Settled]
  by_cases hnormal : name = "normal"
  · subst hnormal
    rw [if_pos rfl, Blink.request_normal, SameSettings]
    constructor
    · intro hsame
      obtain ⟨hmode, hdata, -, hon, hoff⟩ := hsame
      exact ⟨hmode.symm, hdata.symm, hon.symm, hoff.symm⟩
    · intro hsettled
      obtain ⟨hmode, hdata, hon, hoff⟩ := hsettled
      exact ⟨hmode.symm, hdata.symm, rfl, hon.symm, hoff.symm⟩
  rw [if_neg hnormal]
  by_cases hbreath : name = "breath"
  · subst hbreath
    rw [if_pos rfl, Blink.request_breath, SameSettings]
    simp only [raised_eq_iff]
    constructor
    · intro hsame
      obtain ⟨hmode, hdata, hlight, hon, hoff⟩ := hsame
      rw [(raised_eq_iff _ _).mpr hon, (raised_eq_iff _ _).mpr hoff] at hdata
      exact ⟨hmode.symm, hdata.symm, hlight.symm, hon, hoff⟩
    · intro hsettled
      obtain ⟨hmode, hdata, hlight, hon, hoff⟩ := hsettled
      rw [(raised_eq_iff _ _).mpr hon, (raised_eq_iff _ _).mpr hoff]
      exact ⟨hmode.symm, hdata.symm, hlight.symm, hon, hoff⟩
  rw [if_neg hbreath]
  by_cases htimer : name = "timer2"
  · subst htimer
    rw [if_pos rfl, Blink.request_timer2, SameSettings]
    constructor
    · intro hsame
      obtain ⟨hmode, hdata, -⟩ := hsame
      exact ⟨hmode.symm, hdata.symm⟩
    · intro hsettled
      obtain ⟨hmode, hdata⟩ := hsettled
      exact ⟨hmode.symm, hdata.symm, rfl, rfl, rfl⟩
  · rw [if_neg htimer, s.request_other hnormal hbreath htimer]
    exact ⟨fun _ => trivial, fun _ => ⟨rfl, rfl, rfl, rfl, rfl⟩⟩

section Trace

variable {led : Nat} {name : String} {s after : Blink} {events : List (Event Smbus)} {ret : Int}

theorem ledsBlinkSet_after (htrace : (ledsBlinkSet led (some name) s).Trace events (ret, after)) :
    after = s.request name ∧
      (sendFrames (blinkFrames led name (s.request name))).Trace events ret := by
  obtain ⟨sent, hsent, hpair⟩ := Prog.trace_map.mp htrace
  obtain ⟨rfl, rfl⟩ := Prod.mk.inj hpair
  exact ⟨rfl, hsent⟩

theorem ledsBlinkSet_fails (led : Nat) (name : String) (s : Blink) :
    ∃ events, (ledsBlinkSet led (some name) s).Trace events (eBusy, s.request name) := by
  have hframes : ∀ frame frames,
      ((sendFrames (frame :: frames)).answered fun _ => (-1 : Int)).2 = eBusy := fun _ _ => rfl
  have hsend : ((sendFrames (blinkFrames led name (s.request name))).answered
      fun _ => (-1 : Int)).2 = eBusy := by
    rw [blinkFrames]
    split
    · exact hframes _ _
    · exact hframes _ _
  have htrace := Prog.trace_answered (fun _ => (-1 : Int))
    (sendFrames (blinkFrames led name (s.request name)))
  rw [hsend] at htrace
  exact ⟨_, Prog.trace_map.mpr ⟨_, htrace, rfl⟩⟩

theorem ledsBlinkSet_none (htrace : (ledsBlinkSet led none s).Trace events (ret, after)) :
    after = s :=
  (Prog.trace_pair.mp htrace).2.2

end Trace

theorem failed_request_unchanged_iff (led : Nat) (trigger : Option String) (s : Blink) :
    (∀ (events : List (Event Smbus)) (ret : Int) (after : Blink),
      (ledsBlinkSet led trigger s).Trace events (ret, after) → ret < 0 → SameSettings s after) ↔
    Settled trigger s := by
  cases trigger with
  | none =>
      refine ⟨fun _ => trivial, fun _ events ret after htrace _ => ?_⟩
      rw [ledsBlinkSet_none htrace]
      exact ⟨rfl, rfl, rfl, rfl, rfl⟩
  | some name =>
      rw [← sameSettings_request_iff]
      constructor
      · intro halways
        obtain ⟨events, htrace⟩ := ledsBlinkSet_fails led name s
        exact halways events _ _ htrace (by decide)
      · intro hsame events ret after htrace _
        rw [(ledsBlinkSet_after htrace).1]
        exact hsame

/-- timer2 is asked of an LED that is steady, and the bus is down: its record says it blinks. -/
theorem failed_request_changes : ¬ ∀ (led : Nat) (trigger : Option String) (s : Blink)
    (events : List (Event Smbus)) (ret : Int) (after : Blink),
    (ledsBlinkSet led trigger s).Trace events (ret, after) → ret < 0 → SameSettings s after := by
  intro halways
  let s : Blink := ⟨⟨ledModeLight, 0, 255, ⟨255, 255, 255⟩⟩, 255, 250, 750⟩
  obtain ⟨events, htrace⟩ := ledsBlinkSet_fails 0 "timer2" s
  have hsame := halways 0 (some "timer2") s events _ _ htrace (by decide)
  have hsettled := (sameSettings_request_iff s "timer2").mp hsame
  exact absurd hsettled.1 (by decide)

/-! ### A trigger the controller does not know -/

/-- The triggers of the controller itself. -/
def nativeTriggers : List String := ["normal", "breath", "timer2"]

/-- The mode and the data one of them asks the controller for. -/
def asksFor (name : String) (delayOn delayOff : BitVec 64) : Option (UInt8 × BitVec 32) :=
  if name = "normal" then some (ledModeLight, 0)
  else if name = "breath" then
    some (ledModeBreath,
      ((raised delayOn 1000 + raised delayOff 500) <<< 16).setWidth 32 |||
        (raised delayOn 1000).setWidth 32)
  else if name = "timer2" then
    some (ledModeBlink,
      if delayOn = 0 ∨ delayOff = 0 then 0#32
      else ((delayOn + delayOff) <<< 16).setWidth 32 ||| delayOff.setWidth 32)
  else none

/-- What is done to one LED. -/
inductive LedAct
  | blinkSet (trigger : Option String) (delayOn delayOff : BitVec 64)
  | colorSet (buf : List UInt8)
  | brightnessSet (brightness : UInt32)
  | brightnessWork

structure LedRecord where
  status : LedStatus
  /-- `cdev->brightness` -/
  brightness : UInt32

def LedRecord.blink (record : LedRecord) (delayOn delayOff : BitVec 64) : Blink :=
  ⟨record.status, record.brightness, delayOn, delayOff⟩

inductive LedRecord.Step (led : Nat) : LedRecord → LedAct → LedRecord → Prop
  | blinkSet {record : LedRecord} {trigger : Option String} {delayOn delayOff : BitVec 64}
      {events : List (Event Smbus)} {ret : Int} {after : Blink}
      (htrace : (ledsBlinkSet led trigger (record.blink delayOn delayOff)).Trace events
        (ret, after)) :
      Step led record (.blinkSet trigger delayOn delayOff) ⟨after.status, after.brightness⟩
  | colorSet {record : LedRecord} {buf : List UInt8} {size ret : Int}
      {events : List (Event Smbus)} {status : LedStatus}
      (htrace : (Led.colorSet led buf size record.status).Trace events (ret, status)) :
      Step led record (.colorSet buf) { record with status }
  | brightnessSet (record : LedRecord) (brightness : UInt32) :
      Step led record (.brightnessSet brightness)
        ⟨{ record.status with light := lightOf brightness }, brightness⟩
  | brightnessWork (record : LedRecord) :
      Step led record .brightnessWork
        { record with
          status := { record.status with
            light := if record.status.light = 1 then 255 else record.status.light } }

/-- What the latest of these acts has asked for under a trigger of the controller, or what the record held before them. -/
def latestRequest (start : LedRecord) (history : List LedAct) : UInt8 × BitVec 32 :=
  history.foldl (fun latest act =>
    match act with
    | .blinkSet (some name) delayOn delayOff => (asksFor name delayOn delayOff).getD latest
    | _ => latest) (start.status.mode, start.status.statusData)

theorem Blink.request_asks (s : Blink) (name : String) :
    ((s.request name).status.mode, (s.request name).status.statusData) =
      (asksFor name s.delayOn s.delayOff).getD (s.status.mode, s.status.statusData) := by
  rw [asksFor]
  by_cases hnormal : name = "normal"
  · subst hnormal
    rw [if_pos rfl, Blink.request_normal]
    rfl
  rw [if_neg hnormal]
  by_cases hbreath : name = "breath"
  · subst hbreath
    rw [if_pos rfl, Blink.request_breath]
    rfl
  rw [if_neg hbreath]
  by_cases htimer : name = "timer2"
  · subst htimer
    rw [if_pos rfl, Blink.request_timer2]
    rfl
  · rw [if_neg htimer, s.request_other hnormal hbreath htimer]
    rfl

/-- Only the latest request is left in the record. -/
theorem LedRecord.latest {led : Nat} {start record : LedRecord} {history : List LedAct}
    (hrun : Run (LedRecord.Step led) start history record) :
    (record.status.mode, record.status.statusData) = latestRequest start history := by
  refine hrun.history_invariant
    (fun passed record => (record.status.mode, record.status.statusData) =
      latestRequest start passed) ?_ rfl
  intro passed before act after hpassed hstep
  rw [latestRequest, List.foldl_append, List.foldl_cons, List.foldl_nil]
  rw [latestRequest] at hpassed
  rw [← hpassed]
  cases hstep with
  | @blinkSet trigger delayOn delayOff events ret after htrace =>
      cases trigger with
      | none =>
          rw [ledsBlinkSet_none htrace]
          rfl
      | some name =>
          rw [(ledsBlinkSet_after htrace).1]
          exact Blink.request_asks _ name
  | @colorSet buf size ret events status htrace =>
      rw [Led.colorSet] at htrace
      split at htrace
      · obtain ⟨-, -, rfl⟩ := Prog.trace_pair.mp htrace
        rfl
      · obtain ⟨_, -, hpair⟩ := Prog.trace_map.mp htrace
        obtain rfl := (Prod.mk.inj hpair).2
        rfl
  | brightnessSet brightness => rfl
  | brightnessWork => rfl

/-- The frame of a request. -/
def requestFrame (led : Nat) (request : UInt8 × BitVec 32) : LedFrame :=
  ⟨ledAddr led, request.1, byteAt request.2 3, byteAt request.2 2, byteAt request.2 1,
    byteAt request.2 0⟩

/-- Refused, with nothing sent. -/
def Refused (events : List (Event Smbus)) (ret : Int) : Prop := ret < 0 ∧ NoFrame events

theorem sendFrames_first {frame : LedFrame} {frames : List LedFrame} {events : List (Event Smbus)}
    {ret : Int} (htrace : (sendFrames (frame :: frames)).Trace events ret) :
    ∃ answer rest, events = ⟨frame.write, answer⟩ :: rest := by
  obtain ⟨answer, rest, rfl, -⟩ := htrace
  exact ⟨answer, rest, rfl⟩

theorem foreign_request_resends {led : Nat} {start record : LedRecord} {history : List LedAct}
    {name : String} {delayOn delayOff : BitVec 64} {events : List (Event Smbus)} {ret : Int}
    {after : Blink} (hrun : Run (LedRecord.Step led) start history record)
    (hforeign : name ∉ nativeTriggers)
    (htrace : (ledsBlinkSet led (some name) (record.blink delayOn delayOff)).Trace events
      (ret, after)) :
    ¬ Refused events ret ∧
    ∃ answer rest,
      events = ⟨(requestFrame led (latestRequest start history)).write, answer⟩ :: rest := by
  have hname : name ≠ "normal" ∧ name ≠ "breath" ∧ name ≠ "timer2" := by
    simpa [nativeTriggers] using hforeign
  obtain ⟨-, hsend⟩ := ledsBlinkSet_after htrace
  rw [Blink.request_other _ hname.1 hname.2.1 hname.2.2, blinkFrames, if_neg hname.1] at hsend
  obtain ⟨answer, rest, hevents⟩ := sendFrames_first hsend
  have hframe : statusFrame led record.status = requestFrame led (latestRequest start history) := by
    rw [← LedRecord.latest hrun]
    rfl
  refine ⟨?_, answer, rest, hevents.trans (by rw [← hframe]; rfl)⟩
  intro hrefused
  rw [hevents] at hrefused
  exact hrefused.2 _ List.mem_cons_self _ _ rfl

/-- The record after timer2 at 250 and 750, asked of a fresh one. -/
def blinkingRecord : LedRecord :=
  ⟨⟨ledModeBlink, 1000 <<< 16 ||| 750, 0, ⟨0, 0, 0⟩⟩, 0⟩

theorem run_blinkingRecord : Run (LedRecord.Step 0) ⟨⟨0, 0, 0, ⟨0, 0, 0⟩⟩, 0⟩
    [.blinkSet (some "timer2") 250 750] blinkingRecord := by
  have htrace := ledsBlinkSet_answered 0 .timer2
    (LedRecord.blink ⟨⟨0, 0, 0, ⟨0, 0, 0⟩⟩, 0⟩ 250 750)
  have hstep := LedRecord.Step.blinkSet htrace
  rw [BlinkTrigger.name, Blink.request_timer2] at hstep
  exact .single hstep

/-- The controller takes what the trigger timer never asked for, and the LED core is told that it blinks. -/
theorem timer_after_timer2 : (ledsBlinkSet 0 (some "timer") (blinkingRecord.blink 500 500)).Trace
    [⟨(requestFrame 0 (ledModeBlink, 1000 <<< 16 ||| 750)).write, (0 : Int)⟩,
      ⟨.readByteData mcuReceiveFlags, (1 : Int)⟩] (0, blinkingRecord.blink 500 500) :=
  ⟨0, _, rfl, 1, _, rfl, rfl, rfl⟩

theorem foreign_request_resends_timer2 : ∃ record events after,
    Run (LedRecord.Step 0) ⟨⟨0, 0, 0, ⟨0, 0, 0⟩⟩, 0⟩ [.blinkSet (some "timer2") 250 750] record ∧
    (ledsBlinkSet 0 (some "timer") (record.blink 500 500)).Trace events (0, after) ∧
    ¬ Refused events 0 :=
  ⟨_, _, _, run_blinkingRecord, timer_after_timer2,
    (foreign_request_resends run_blinkingRecord (by decide) timer_after_timer2).1⟩

theorem foreign_request_not_refused : ¬ ∀ (led : Nat) (start record : LedRecord)
    (history : List LedAct) (name : String) (delayOn delayOff : BitVec 64)
    (events : List (Event Smbus)) (ret : Int) (after : Blink),
    Run (LedRecord.Step led) start history record → name ∉ nativeTriggers →
    (ledsBlinkSet led (some name) (record.blink delayOn delayOff)).Trace events (ret, after) →
      Refused events ret := by
  intro halways
  have hrefused := halways 0 _ _ _ "timer" 500 500 _ _ _ run_blinkingRecord (by decide)
    timer_after_timer2
  exact absurd hrefused.1 (by decide)

end FrontPanel.Led
