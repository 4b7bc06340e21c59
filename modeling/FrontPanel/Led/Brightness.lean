import FrontPanel.Led.Exchange

/-!
# The last brightness wins

`leds_brightness_set` leaves the brightness in the record of the LED and schedules `brightness_work`, which reads it from there. Calls coalesce while the work is pending, and one can land between any two steps of the work. What ties the two together is that a brightness which is not on its way is due: the work is pending, or the call is about to schedule it, or the work has not read the brightness yet. The table `WillSend` says what the work still has to do for the brightness in the record, phase by phase.
-/

namespace FrontPanel.Led

/-! ### What was asked and what was sent -/

/-- The brightness of the most recent call for the LED. -/
def latestSet (led : Nat) (labels : List (Context × Action)) : Option UInt32 :=
  (labels.filterMap fun label =>
    match label with
    | (.setter other, .set brightness) => if other = led then some brightness else none
    | _ => none).getLast?

/-- The brightness byte, if this is a frame for brightness sent by the work of the LED. -/
def Entry.light (led : Nat) (entry : Entry) : Option UInt8 :=
  match entry.op with
  | .writeBlockData select values =>
      if entry.exchange.1 = .work led ∧ select = ledAddr led ∧ values[4]? = some ledModeLight then
        values[5]?
      else none
  | .readByteData _ => none

def lightsSent (led : Nat) (log : List Entry) : List UInt8 := log.filterMap (Entry.light led)

/-- The byte on the wire for a brightness. -/
def shown (brightness : UInt32) : Nat := if brightness = 1 then 255 else brightness.toNat

theorem latestSet_set (led : Nat) (labels : List (Context × Action)) (brightness : UInt32) :
    latestSet led (labels ++ [(.setter led, .set brightness)]) = some brightness := by
  simp [latestSet]

theorem latestSet_other {led : Nat} {labels : List (Context × Action)} {label : Context × Action}
    (hother : ∀ brightness, label ≠ (.setter led, .set brightness)) :
    latestSet led (labels ++ [label]) = latestSet led labels := by
  have hnone : (match label with
      | (Context.setter other, Action.set brightness) =>
          if other = led then some brightness else none
      | _ => none) = none := by
    split
    · next other brightness =>
      refine if_neg fun hsame => hother brightness ?_
      rw [hsame]
    · rfl
  simp [latestSet, hnone]

theorem lightsSent_snoc (led : Nat) (log : List Entry) (entry : Entry) :
    lightsSent led (log ++ [entry]) = lightsSent led log ++ (entry.light led).toList := by
  cases hlight : entry.light led <;> simp [lightsSent, hlight]

theorem Entry.light_other {led : Nat} {entry : Entry} (hother : entry.exchange.1 ≠ .work led) :
    entry.light led = none := by
  rw [Entry.light]
  split
  · exact if_neg fun hwork => hother hwork.1
  · rfl

theorem Entry.light_frame (led : Nat) (light : UInt16) (answer : Int) (k : Nat) :
    Entry.light led ⟨(lightFrame led light).write, answer, (.work led, k)⟩ = some light.toUInt8 :=
  if_pos ⟨rfl, rfl, rfl⟩

theorem lightOf_toNat {brightness : UInt32} (hmax : brightness ≤ ledBrightnessMax) :
    (lightOf brightness).toNat = shown brightness := by
  have hle : brightness.toNat ≤ 255 := UInt32.le_iff_toNat_le.mp hmax
  rw [lightOf, shown]
  split
  · rfl
  · rw [UInt32.toNat_toUInt16]
    omega

/-- A call never leaves a brightness of 1 in the record. -/
theorem lightOf_ne_one {brightness : UInt32} (hmax : brightness ≤ ledBrightnessMax) :
    lightOf brightness ≠ 1 := by
  intro hone
  have hshown : 1 = shown brightness := by
    rw [← lightOf_toNat hmax, hone]
    rfl
  rw [shown] at hshown
  split at hshown
  · cases hshown
  · next hne => exact hne (UInt32.toNat_inj.mp hshown.symm)

theorem lightOf_shown {brightness : UInt32} (hmax : brightness ≤ ledBrightnessMax) :
    (lightOf brightness).toUInt8.toNat = shown brightness := by
  have hle : brightness.toNat ≤ 255 := UInt32.le_iff_toNat_le.mp hmax
  rw [UInt16.toNat_toUInt8, lightOf_toNat hmax, shown]
  split
  · rfl
  · omega

/-! ### What the work still has to do -/

/-- A call repeats its frame and reads the flags, and nothing else. -/
def resends (frame : LedFrame) : Prog.Rule Smbus Unit where
  Allows := fun _ op => op = frame.write ∨ ∃ command, op = .readByteData command
  next := fun _ _ => ()

theorem resends_obeys (frame : LedFrame) : (i2cIdx601xWriteLed frame).Obeys (resends frame)
    (fun _ _ => True) () := by
  have hsend : ∀ left, (sendFrame frame left).Obeys (resends frame) (fun _ _ => True) () := by
    intro left
    induction left with
    | zero => trivial
    | succ left ih =>
        rw [sendFrame, Prog.access_bind, Prog.obeys_call]
        refine ⟨.inl rfl, fun answer => ?_⟩
        split
        · exact ih
        · trivial
  have hread : ∀ left, (readFlags left).Obeys (resends frame) (fun _ _ => True) () := by
    intro left
    induction left with
    | zero => trivial
    | succ left ih =>
        rw [readFlags, Prog.access_bind, Prog.obeys_call]
        refine ⟨.inr ⟨_, rfl⟩, fun answer => ?_⟩
        split
        · exact ih
        · trivial
  refine Prog.obeys_bind.mpr ((hsend 3).weaken fun sent _ _ => ?_)
  split
  · trivial
  · refine Prog.obeys_bind.mpr ((hread 3).weaken fun ret _ _ => ?_)
    cases ret <;> trivial

/-- Where `brightness_work` gets to when it does not find a brightness of 1. -/
def Working : Task → Prop
  | .idle => True
  | .testOne => True
  | .testZero => True
  | .fetch => True
  | .transmit _ => True
  | _ => False

/-- The work has not sent the brightness yet, and will. -/
def WillSend (led : Nat) (light : UInt16) : Task → Prop
  | .testOne => True
  | .testZero => True
  | .fetch => True
  | .transmit frame => frame = lightFrame led light
  | _ => False

namespace LedDevice

/-- The work has sent the brightness, and sends nothing else until it is through. -/
structure HasSent (d : LedDevice) (led : Nat) (light : UInt16) : Prop where
  last : (lightsSent led d.log).getLast? = some light.toUInt8
  rest : (d.running (.work led)).Obeys (resends (lightFrame led light)) (fun task _ => task = .idle)
    ()

/-- The brightness in the record is on its way, or has arrived. -/
def OnItsWay (d : LedDevice) (led : Nat) (light : UInt16) : Prop :=
  (∃ task, d.running (.work led) = .ret task ∧ WillSend led light task) ∨ d.HasSent led light

/-- What holds for an LED after the steps `labels`. -/
structure Latest (led : Nat) (labels : List (Context × Action)) (d : LedDevice) : Prop where
  quiet : latestSet led labels = none → d.pending led = false ∧
    d.running (.work led) = .ret .idle ∧ d.running (.setter led) = .ret .idle
  light : ∀ brightness, latestSet led labels = some brightness →
    brightness ≤ ledBrightnessMax ∧ (d.status led).light = lightOf brightness
  setter : d.running (.setter led) = .ret .idle ∨ d.running (.setter led) = .ret .schedule
  work : ∃ frame, (d.running (.work led)).Obeys (resends frame) (fun task _ => Working task) ()
  due : latestSet led labels ≠ none → d.pending led = true ∨
    d.running (.setter led) = .ret .schedule ∨ d.OnItsWay led (d.status led).light

/-- What the brightness of an LED depends on is as it was. -/
def Same (led : Nat) (d after : LedDevice) : Prop :=
  after.running (.work led) = d.running (.work led) ∧
    after.running (.setter led) = d.running (.setter led) ∧
    after.pending led = d.pending led ∧ (after.status led).light = (d.status led).light ∧
    lightsSent led after.log = lightsSent led d.log

variable {d after : LedDevice} {led : Nat} {t : Context} {action : Action}

theorem Step.same (hstep : Step d (t, action) after) (hwork : t ≠ .work led)
    (hsetter : t ≠ .setter led) : Same led d after := by
  have hrunning : ∀ u, u ≠ t → after.running u = d.running u := fun u hne =>
    hstep.running_of_ne hne
  refine ⟨hrunning _ hwork.symm, hrunning _ hsetter.symm, ?_⟩
  cases hstep with
  | call call hat | release hat | testOne hat | testZero hat | fetch hat => exact ⟨rfl, rfl, rfl⟩
  | @acquire n call hat hfree =>
      obtain ⟨status, brightness, hprepare, hlight⟩ := d.prepare_eq call
      rw [hprepare]
      exact ⟨rfl, hlight led, rfl⟩
  | @set other brightness hmax hat =>
      have hne : led ≠ other := fun hsame => hsetter (by rw [hsame])
      refine ⟨rfl, ?_, rfl⟩
      simp [setLight, setStatus, goto, hne]
  | @full other hat =>
      have hne : led ≠ other := fun hsame => hwork (by rw [hsame])
      refine ⟨rfl, ?_, rfl⟩
      simp [setLight, setStatus, goto, hne]
  | @schedule other hat =>
      have hne : led ≠ other := fun hsame => hsetter (by rw [hsame])
      exact ⟨Function.update_of_ne hne _ _, rfl, rfl⟩
  | @start other hpending hat =>
      have hne : led ≠ other := fun hsame => hwork (by rw [hsame])
      exact ⟨Function.update_of_ne hne _ _, rfl, rfl⟩
  | first answer hat hbegins | next answer hat =>
      refine ⟨rfl, rfl, ?_⟩
      rw [record, lightsSent_snoc, Entry.light_other hwork]
      exact List.append_nil _

variable {labels : List (Context × Action)} {label : Context × Action}

theorem Latest.other (hlatest : d.Latest led labels) (hsame : Same led d after)
    (hlabel : latestSet led (labels ++ [label]) = latestSet led labels) :
    after.Latest led (labels ++ [label]) := by
  obtain ⟨hwork, hsetter, hpending, hlight, hsent⟩ := hsame
  refine ⟨?_, ?_, ?_, ?_, ?_⟩
  · rw [hlabel, hpending, hwork, hsetter]
    exact hlatest.quiet
  · rw [hlabel, hlight]
    exact hlatest.light
  · rw [hsetter]
    exact hlatest.setter
  · rw [hwork]
    exact hlatest.work
  · rw [hlabel, hpending, hsetter, hlight]
    intro hasked
    refine (hlatest.due hasked).imp_right (Or.imp_right (Or.imp ?_ ?_))
    · rw [hwork]
      exact id
    · intro hgiven
      exact ⟨hsent ▸ hgiven.last, hwork ▸ hgiven.rest⟩

theorem Latest.setter_step (hlatest : d.Latest led labels)
    (hstep : Step d (.setter led, action) after) :
    after.Latest led (labels ++ [(.setter led, action)]) := by
  have hne : Context.work led ≠ .setter led := by
    intro hsame
    cases hsame
  have hwork : after.running (.work led) = d.running (.work led) := hstep.running_of_ne hne
  have hkeeps := hlatest.work
  rw [← hwork] at hkeeps
  cases hstep with
  | set brightness hmax hat =>
      have hset := latestSet_set led labels brightness
      refine ⟨?_, ?_, .inr (Function.update_self _ _ _), hkeeps, fun _ => .inr (.inl ?_)⟩
      · rw [hset]
        intro hnone
        cases hnone
      · rw [hset]
        intro _ hsame
        obtain rfl := Option.some.inj hsame
        exact ⟨hmax, by simp [setLight, setStatus, goto]⟩
      · exact Function.update_self _ _ _
  | schedule hat =>
      have hlabel : latestSet led (labels ++ [(.setter led, .schedule)]) = latestSet led labels :=
        latestSet_other fun brightness hsame => by cases hsame
      refine ⟨?_, ?_, .inl (Function.update_self _ _ _), hkeeps, fun _ => .inl ?_⟩
      · rw [hlabel]
        intro hnone
        have hidle := (hlatest.quiet hnone).2.2
        rw [hat] at hidle
        cases hidle
      · rw [hlabel]
        exact hlatest.light
      · exact Function.update_self _ _ _
  | first answer hat hbegins =>
      obtain hidle | hschedule := hlatest.setter
      · obtain rfl := Prog.ret.inj (hat.symm.trans hidle)
        cases hbegins
      · obtain rfl := Prog.ret.inj (hat.symm.trans hschedule)
        cases hbegins
  | next answer hat =>
      obtain hidle | hschedule := hlatest.setter
      · cases hat.symm.trans hidle
      · cases hat.symm.trans hschedule

theorem Latest.asked (hlatest : d.Latest led labels) (hstep : Step d (.work led, action) after) :
    latestSet led labels ≠ none := by
  intro hnone
  obtain ⟨hpending, hidle, -⟩ := hlatest.quiet hnone
  cases hstep with
  | start hset hat =>
      rw [hpending] at hset
      cases hset
  | testOne hat | full hat | testZero hat | fetch hat | next answer hat =>
      cases hat.symm.trans hidle
  | first answer hat hbegins =>
      obtain rfl := Prog.ret.inj (hat.symm.trans hidle)
      cases hbegins

theorem Latest.keeps_light (hlatest : d.Latest led labels)
    (hstep : Step d (.work led, action) after) : after.status = d.status := by
  cases hstep with
  | start hset hat | testOne hat | testZero hat | fetch hat | first answer hat hbegins
  | next answer hat => rfl
  | full hat =>
      obtain ⟨frame, hworking⟩ := hlatest.work
      rw [hat] at hworking
      exact hworking.elim

theorem HasSent.transfer {light : UInt16} {op : SmbusOp} {next : Int → Prog Smbus Task}
    {answer : Int} {k : Nat}
    (hobeys : (Prog.call op next).Obeys (resends (lightFrame led light))
      (fun task _ => task = .idle) ())
    (hlast : op = (lightFrame led light).write ∨
      (lightsSent led d.log).getLast? = some light.toUInt8) :
    ((d.goto (.work led) (next answer)).record op answer (.work led, k)).HasSent led light := by
  refine ⟨?_, ?_⟩
  · show (lightsSent led (d.log ++ [_])).getLast? = _
    rw [lightsSent_snoc]
    obtain rfl | ⟨command, rfl⟩ := hobeys.1
    · rw [Entry.light_frame]
      exact List.getLast?_concat
    · rw [show Entry.light led ⟨.readByteData command, answer, (.work led, k)⟩ = none from rfl]
      rw [Option.toList_none, List.append_nil]
      exact hlast.resolve_left nofun
  · rw [record, goto_self]
    exact hobeys.2 answer

theorem Latest.work_moved (hlatest : d.Latest led labels) (hstep : Step d (.work led, action) after)
    (hworks : ∃ frame,
      (after.running (.work led)).Obeys (resends frame) (fun task _ => Working task) ())
    (hdue : after.pending led = true ∨ d.running (.setter led) = .ret .schedule ∨
      after.OnItsWay led (d.status led).light) :
    after.Latest led (labels ++ [(.work led, action)]) := by
  have hasked := hlatest.asked hstep
  have hstatus := hlatest.keeps_light hstep
  have hsetter : after.running (.setter led) = d.running (.setter led) :=
    hstep.running_of_ne nofun
  have hlabel : latestSet led (labels ++ [(.work led, action)]) = latestSet led labels :=
    latestSet_other nofun
  refine ⟨?_, ?_, ?_, hworks, ?_⟩
  · rw [hlabel]
    exact fun hnone => absurd hnone hasked
  · rw [hlabel, hstatus]
    exact hlatest.light
  · rw [hsetter]
    exact hlatest.setter
  · rw [hsetter, hstatus]
    exact fun _ => hdue

theorem Latest.work_at (hlatest : d.Latest led labels) (hstep : Step d (.work led, action) after)
    {task : Task} (hat : after.running (.work led) = .ret task) (hworking : Working task)
    (hwill : WillSend led (d.status led).light task) :
    after.Latest led (labels ++ [(.work led, action)]) := by
  refine hlatest.work_moved hstep ⟨lightFrame led 0, ?_⟩ (.inr (.inr (.inl ⟨task, hat, hwill⟩)))
  rw [hat]
  exact hworking

theorem Latest.work_first (hlatest : d.Latest led labels)
    (hstep : Step d (.work led, .first) after) :
    after.Latest led (labels ++ [(.work led, .first)]) := by
  have hdue := hlatest.due (hlatest.asked hstep)
  obtain ⟨frame, hworking⟩ := hlatest.work
  cases id hstep with
  | @first _ task op next answer hat hbegins =>
      rw [hat] at hworking
      cases task with
      | transmit sent =>
          have hobeys : (Prog.call op next).Obeys (resends sent) (fun task _ => task = .idle) () := by
            rw [← Option.some.inj hbegins]
            exact Prog.obeys_bind.mpr ((resends_obeys sent).weaken fun _ _ _ => rfl)
          obtain ⟨rfl, -⟩ := Prog.call.inj (Option.some.inj hbegins)
          refine hlatest.work_moved hstep ⟨sent, ?_⟩ (hdue.imp_right (Or.imp_right ?_))
          · rw [record, goto_self]
            refine (hobeys.2 answer).weaken fun task _ hidle => ?_
            rw [hidle]
            trivial
          · rintro (⟨task, htask, hwill⟩ | hsent)
            · obtain rfl := Prog.ret.inj (hat.symm.trans htask)
              obtain rfl : sent = _ := hwill
              exact .inr (.transfer hobeys (.inl rfl))
            · -- a work that is through does not begin a call
              have hidle := hsent.rest
              rw [hat] at hidle
              cases hidle
      | idle | testOne | testZero | fetch => cases hbegins
      | lock _ | sending _ | schedule | full => exact hworking.elim

theorem Latest.work_step (hlatest : d.Latest led labels)
    (hstep : Step d (.work led, action) after) :
    after.Latest led (labels ++ [(.work led, action)]) := by
  have hasked := hlatest.asked hstep
  obtain ⟨frame, hworking⟩ := hlatest.work
  cases id hstep with
  | start hset hat => exact hlatest.work_at hstep (goto_self _ _ _) trivial trivial
  | testOne hat =>
      obtain ⟨brightness, hlatestSet⟩ := Option.ne_none_iff_exists'.mp hasked
      obtain ⟨hmax, hlight⟩ := hlatest.light brightness hlatestSet
      have hne : (d.status led).light ≠ 1 := by
        rw [hlight]
        exact lightOf_ne_one hmax
      apply @Latest.work_at d _ led _ labels hlatest hstep .testZero _ trivial trivial
      rw [goto_self, if_neg hne]
  | full hat =>
      rw [hat] at hworking
      exact hworking.elim
  | testZero hat => exact hlatest.work_at hstep (goto_self _ _ _) trivial trivial
  | fetch hat => exact hlatest.work_at hstep (goto_self _ _ _) trivial rfl
  | first answer hat hbegins => exact hlatest.work_first hstep
  | @next _ op next answer hat =>
      rw [hat] at hworking
      have hdue := hlatest.due hasked
      refine hlatest.work_moved hstep ⟨frame, ?_⟩ (hdue.imp_right (Or.imp_right ?_))
      · rw [record, goto_self]
        exact hworking.2 answer
      · rintro (⟨task, htask, -⟩ | hsent)
        · cases hat.symm.trans htask
        · have hobeys := hsent.rest
          rw [hat] at hobeys
          exact .inr (.transfer hobeys (.inr hsent.last))

theorem Latest.initial (led : Nat) (status : Nat → LedStatus) (brightness : Nat → UInt32) :
    (LedDevice.initial status brightness).Latest led [] := by
  refine ⟨fun _ => ⟨rfl, rfl, rfl⟩, nofun, .inl rfl, ⟨lightFrame led 0, trivial⟩, ?_⟩
  exact fun hasked => absurd rfl hasked

theorem Latest.step (hlatest : d.Latest led labels) (hstep : Step d label after) :
    after.Latest led (labels ++ [label]) := by
  obtain ⟨t, action⟩ := label
  by_cases hwork : t = .work led
  · subst hwork
    exact hlatest.work_step hstep
  by_cases hsetter : t = .setter led
  · subst hsetter
    exact hlatest.setter_step hstep
  refine hlatest.other (hstep.same hwork hsetter) (latestSet_other fun brightness hset => ?_)
  exact hsetter (Prod.mk.inj hset).1

end LedDevice

/-- After any run, once the work of an LED is neither pending nor running and no call is part-way through, the last frame it sent shows the brightness of the most recent call, and no step of the work changes the brightness in a record. -/
theorem last_brightness_wins {status : Nat → LedStatus} {cdevBrightness : Nat → UInt32}
    {labels : List (Context × Action)} {d : LedDevice} (led : Nat)
    (hrun : Run LedDevice.Step (.initial status cdevBrightness) labels d) :
    (∀ brightness, latestSet led labels = some brightness → d.pending led = false →
      d.running (.work led) = .ret .idle → d.running (.setter led) = .ret .idle →
      (lightsSent led d.log).getLast?.map UInt8.toNat = some (shown brightness)) ∧
    ∀ action after, LedDevice.Step d (.work led, action) after →
      ∀ other, (after.status other).light = (d.status other).light := by
  have hlatest : d.Latest led labels := by
    refine hrun.history_invariant (fun labels d => d.Latest led labels) ?_
      (.initial led status cdevBrightness)
    intro passed before label after hbefore hstep
    exact hbefore.step hstep
  refine ⟨?_, ?_⟩
  · intro brightness hset hpending hwork hsetter
    have hasked : latestSet led labels ≠ none := by
      rw [hset]
      exact nofun
    obtain hdue | hdue | ⟨task, htask, hwill⟩ | hsent := hlatest.due hasked
    · rw [hpending] at hdue
      cases hdue
    · cases hsetter.symm.trans hdue
    · obtain rfl := Prog.ret.inj (hwork.symm.trans htask)
      exact hwill.elim
    · obtain ⟨hmax, hlight⟩ := hlatest.light brightness hset
      rw [hsent.last, hlight, Option.map_some, lightOf_shown hmax]
  · intro action after hstep other
    rw [hlatest.keeps_light hstep]

/-- A brightness of 1 is set, and the work sends 255. -/
theorem last_brightness_wins_one : ∃ d : LedDevice, Run LedDevice.Step .zeroed
      [(.setter 0, .set 1), (.setter 0, .schedule), (.work 0, .start), (.work 0, .testOne),
        (.work 0, .testZero), (.work 0, .fetch), (.work 0, .first), (.work 0, .next)] d ∧
      (lightsSent 0 d.log).getLast?.map UInt8.toNat = some 255 := by
  have hrun : ∃ d : LedDevice, Run LedDevice.Step .zeroed
      [(.setter 0, .set 1), (.setter 0, .schedule), (.work 0, .start), (.work 0, .testOne),
        (.work 0, .testZero), (.work 0, .fetch), (.work 0, .first), (.work 0, .next)] d ∧
      d.pending 0 = false ∧ d.running (.work 0) = .ret .idle ∧ d.running (.setter 0) = .ret .idle :=
    ⟨_, .cons (.set 1 (by decide) rfl) <| .cons (.schedule rfl) <| .cons (.start rfl rfl) <|
      .cons (.testOne rfl) <| .cons (.testZero rfl) <| .cons (.fetch rfl) <|
      .cons (.first (0 : Int) rfl rfl) <| .single (.next (1 : Int) rfl), rfl, rfl, rfl⟩
  obtain ⟨d, hrun, hpending, hwork, hsetter⟩ := hrun
  exact ⟨d, hrun, (last_brightness_wins 0 hrun).1 1 rfl hpending hwork hsetter⟩

end FrontPanel.Led
