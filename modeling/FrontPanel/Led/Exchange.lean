import FrontPanel.Led.Contexts

/-!
# Calls in order

What holds of the LED driver in every run, whatever the other contexts do. A call of `i2c_iDX601x_write_led` sends its frame until the bus accepts it and reads the flags from then on, at least once before it returns; its transfers in the log tell how far it has come. A context that holds the mutex is the one the mutex belongs to. Every step of a context is a move from one task to the next or one transfer of its call, which is what the invariant is checked against.
-/

namespace FrontPanel.Led

/-! ### What a call does -/

/-- How far a call has come: its frame not accepted yet, accepted, and the flags read since. -/
inductive Phase
  | sending
  | accepted
  | asked
deriving DecidableEq

/-- A frame is sent until it is accepted, and the flags are read from then on. -/
def twoPhase : Prog.Rule Smbus Phase where
  Allows := fun phase op =>
    match op with
    | .writeBlockData _ _ => phase = .sending
    | .readByteData command => phase ≠ .sending ∧ command = mcuReceiveFlags
  next := fun phase event =>
    match event.op with
    | .writeBlockData _ _ => if event.answer < 0 then phase else .accepted
    | .readByteData _ => if phase = .sending then .sending else .asked

@[simp] theorem twoPhase_next_write {phase : Phase} {command : UInt8} {values : List UInt8}
    {answer : Int} : twoPhase.next phase ⟨.writeBlockData command values, answer⟩ =
      if answer < 0 then phase else .accepted := rfl

@[simp] theorem twoPhase_next_read {phase : Phase} {command : UInt8} {answer : Int} :
    twoPhase.next phase ⟨.readByteData command, answer⟩ =
      if phase = .sending then .sending else .asked := rfl

theorem sendFrame_obeys (frame : LedFrame) (left : Nat) :
    (sendFrame frame left).Obeys twoPhase
      (fun sent phase => phase = if sent then .accepted else .sending) .sending := by
  induction left with
  | zero => rfl
  | succ left ih =>
      rw [sendFrame, Prog.access_bind, Prog.obeys_call]
      refine ⟨rfl, fun answer => ?_⟩
      rw [LedFrame.write, twoPhase_next_write]
      split
      · exact ih
      · rfl

theorem readFlags_obeys (left : Nat) :
    (readFlags left).Obeys twoPhase (fun _ phase => phase = .asked) .asked := by
  induction left with
  | zero => rfl
  | succ left ih =>
      rw [readFlags, Prog.access_bind, Prog.obeys_call]
      refine ⟨⟨nofun, rfl⟩, fun answer => ?_⟩
      split
      · exact ih
      · rfl

/-- A call that returns has read the flags since its frame was accepted. -/
theorem i2cIdx601xWriteLed_obeys (frame : LedFrame) :
    (i2cIdx601xWriteLed frame).Obeys twoPhase (fun _ phase => phase ≠ .accepted) .sending := by
  refine Prog.obeys_bind.mpr ((sendFrame_obeys frame 3).weaken ?_)
  intro sent phase hphase
  obtain rfl := hphase
  cases sent with
  | false => exact nofun
  | true =>
      refine Prog.obeys_bind.mpr ?_
      rw [readFlags, Prog.access_bind, Prog.obeys_call]
      refine ⟨⟨nofun, rfl⟩, fun answer => ?_⟩
      have hrest : (if answer ≠ 1 then readFlags 2 else return some answer : Prog Smbus _).Obeys
          twoPhase (fun _ phase => phase = .asked) .asked := by
        split
        · exact readFlags_obeys 2
        · rfl
      refine hrest.weaken fun ret phase hphase => ?_
      obtain rfl := hphase
      cases ret <;> exact nofun

/-- The tasks of each kind of context. -/
def Task.Belongs : Context → Task → Prop
  | _, .idle => True
  | .caller _, .lock _ => True
  | .caller _, .sending _ => True
  | .setter _, .schedule => True
  | .work _, .testOne => True
  | .work _, .full => True
  | .work _, .testZero => True
  | .work _, .fetch => True
  | .work _, .transmit _ => True
  | _, _ => False

theorem Task.exchange_obeys {task : Task} {t : Context} {program : Prog Smbus Task}
    (hbelongs : task.Belongs t) (hbegins : task.exchange = some program) :
    program.Obeys twoPhase (fun task phase => task.Belongs t ∧ phase ≠ .accepted) .sending := by
  cases task with
  | sending frames =>
      cases frames with
      | nil => cases hbegins
      | cons frame frames =>
          obtain rfl := Option.some.inj hbegins
          refine Prog.obeys_bind.mpr ((i2cIdx601xWriteLed_obeys frame).weaken fun ret phase hphase =>
            ⟨?_, hphase⟩)
          cases t with
          | caller n => split <;> trivial
          | setter led | work led => exact hbelongs.elim
  | transmit frame =>
      obtain rfl := Option.some.inj hbegins
      refine Prog.obeys_bind.mpr ((i2cIdx601xWriteLed_obeys frame).weaken fun ret phase hphase =>
        ⟨?_, hphase⟩)
      cases t <;> trivial
  | idle | lock _ | schedule | testOne | full | testZero | fetch => cases hbegins

/-! ### What a step does -/

/-- How far a call has come, by the log. -/
def phaseOf (log : List Entry) (exchange : Exchange) : Phase :=
  log.foldl (fun phase entry =>
    if entry.exchange = exchange then twoPhase.next phase ⟨entry.op, entry.answer⟩ else phase)
    .sending

theorem phaseOf_snoc (log : List Entry) (entry : Entry) (exchange : Exchange) :
    phaseOf (log ++ [entry]) exchange =
      if entry.exchange = exchange then
        twoPhase.next (phaseOf log exchange) ⟨entry.op, entry.answer⟩
      else phaseOf log exchange := by
  simp [phaseOf]

theorem phaseOf_fresh {log : List Entry} {exchange : Exchange}
    (hfresh : ∀ entry ∈ log, entry.exchange ≠ exchange) : phaseOf log exchange = .sending := by
  induction log using List.reverseRecOn with
  | nil => rfl
  | append_singleton log entry ih =>
      rw [phaseOf_snoc, if_neg (hfresh entry (by simp))]
      exact ih fun other hmem => hfresh other (List.mem_append_left _ hmem)

namespace LedDevice

/-- A step of a context from one task to the next, outside `i2c_iDX601x_write_led`. -/
structure Moves (d : LedDevice) (t : Context) (old new : Task) (after : LedDevice) : Prop where
  before : d.running t = .ret old
  running : after.running = Function.update d.running t (.ret new)
  begun : after.begun = d.begun
  log : after.log = d.log
  belongs : old.Belongs t → new.Belongs t
  mutex : (after.mutex = d.mutex ∧ ∀ frames, new ≠ .sending frames) ∨
    (d.mutex = none ∧ after.mutex = some t) ∨
    (old = .sending [] ∧ new = .idle ∧ after.mutex = none)

/-- The state in which the next call of a context has begun and made no transfer yet. -/
def opened (d : LedDevice) (t : Context) (program : Prog Smbus Task) : LedDevice :=
  { d.goto t program with begun := Function.update d.begun t (d.begun t + 1) }

theorem prepare_eq (d : LedDevice) (call : LedCall) : ∃ status brightness,
    d.prepare call = { d with status, brightness } ∧
      ∀ led, (status led).light = (d.status led).light := by
  cases call with
  | blinkSet led name delayOn delayOff =>
      refine ⟨_, _, rfl, fun other => ?_⟩
      by_cases hother : other = led
      · subst hother
        simp [setStatus]
      · simp [setStatus, hother]
  | colorSet led buf =>
      rw [prepare]
      cases colorOf buf with
      | none => exact ⟨d.status, d.brightness, rfl, fun _ => rfl⟩
      | some color =>
          refine ⟨_, _, rfl, fun other => ?_⟩
          by_cases hother : other = led
          · subst hother
            simp
          · simp [hother]

@[simp] theorem prepare_running (d : LedDevice) (call : LedCall) :
    (d.prepare call).running = d.running := by
  obtain ⟨status, brightness, hprepare, -⟩ := d.prepare_eq call
  rw [hprepare]

/-- A step is a move outside the calls, or a transfer. -/
theorem step_cases {d after : LedDevice} {t : Context} {action : Action}
    (hstep : Step d (t, action) after) :
    (∃ old new, d.Moves t old new after) ∨
    (∃ task op next answer, action = .first ∧ d.running t = .ret task ∧
      task.exchange = some (.call op next) ∧
      after = ((d.opened t (.call op next)).goto t (next answer)).record op answer
        (t, d.begun t + 1)) ∨
    (∃ op next answer, d.running t = .call op next ∧
      after = (d.goto t (next answer)).record op answer (t, d.begun t)) := by
  cases hstep with
  | call call hat =>
      exact .inl ⟨.idle, .lock call, hat, rfl, rfl, rfl, fun _ => trivial, .inl ⟨rfl, nofun⟩⟩
  | @acquire n call hat hfree =>
      obtain ⟨status, brightness, hprepare, -⟩ := d.prepare_eq call
      refine .inl ⟨.lock call, .sending (d.frames call), hat, ?_, ?_, ?_, fun _ => trivial,
        .inr (.inl ⟨hfree, rfl⟩)⟩
      all_goals simp [hprepare, goto]
  | release hat =>
      exact .inl ⟨.sending [], .idle, hat, rfl, rfl, rfl, fun _ => trivial,
        .inr (.inr ⟨rfl, rfl, rfl⟩)⟩
  | set brightness hmax hat =>
      exact .inl ⟨.idle, .schedule, hat, rfl, rfl, rfl, fun _ => trivial, .inl ⟨rfl, nofun⟩⟩
  | schedule hat =>
      exact .inl ⟨.schedule, .idle, hat, rfl, rfl, rfl, fun _ => trivial, .inl ⟨rfl, nofun⟩⟩
  | start hpending hat =>
      exact .inl ⟨.idle, .testOne, hat, rfl, rfl, rfl, fun _ => trivial, .inl ⟨rfl, nofun⟩⟩
  | full hat =>
      exact .inl ⟨.full, .testZero, hat, rfl, rfl, rfl, fun _ => trivial, .inl ⟨rfl, nofun⟩⟩
  | testZero hat =>
      exact .inl ⟨.testZero, .fetch, hat, rfl, rfl, rfl, fun _ => trivial, .inl ⟨rfl, nofun⟩⟩
  | @fetch led hat =>
      exact .inl ⟨.fetch, .transmit (lightFrame led (d.status led).light), hat, rfl, rfl, rfl,
        fun _ => trivial, .inl ⟨rfl, nofun⟩⟩
  | @testOne led hat =>
      refine .inl ⟨.testOne, if (d.status led).light = 1 then .full else .testZero, hat, rfl, rfl,
        rfl, fun _ => ?_, .inl ⟨rfl, fun frames => ?_⟩⟩
      · split <;> trivial
      · split <;> exact nofun
  | first answer hat hbegins =>
      exact .inr (.inl ⟨_, _, _, answer, rfl, hat, hbegins, by simp [opened, goto]⟩)
  | next answer hat => exact .inr (.inr ⟨_, _, answer, hat, rfl⟩)

theorem Step.running_of_ne {d after : LedDevice} {t u : Context} {action : Action}
    (hstep : Step d (t, action) after) (hne : u ≠ t) : after.running u = d.running u := by
  obtain ⟨old, new, hmoves⟩ | ⟨task, op, next, answer, -, hat, hbegins, rfl⟩ |
    ⟨op, next, answer, hat, rfl⟩ := step_cases hstep
  · rw [hmoves.running, Function.update_of_ne hne]
  · simp [record, goto, opened, hne]
  · simp [record, goto, hne]

/-! ### What every run keeps -/

/-- Holding the mutex, by where the context is. -/
def Brackets (d : LedDevice) (t : Context) : Prop :=
  d.Inside t ∨ ∃ frames, d.running t = .ret (.sending frames)

/-- Every call does its own part in order, and the callers of the mutex hold it. -/
structure Ordered (d : LedDevice) : Prop where
  follows : ∀ t, (d.running t).Obeys twoPhase
    (fun task phase => task.Belongs t ∧ phase ≠ .accepted) (phaseOf d.log (t, d.begun t))
  bounded : ∀ entry ∈ d.log, entry.exchange.2 ≤ d.begun entry.exchange.1
  locked : ∀ n, d.Brackets (.caller n) → d.mutex = some (.caller n)

theorem not_inside_ret {d : LedDevice} {t : Context} {task : Task} (hat : d.running t = .ret task) :
    ¬ d.Inside t := by
  intro hgiven
  obtain ⟨op, next, hcall⟩ := hgiven
  rw [hat] at hcall
  cases hcall

variable {d after : LedDevice} {t : Context}

theorem Ordered.belongs (hordered : d.Ordered) {task : Task} (hat : d.running t = .ret task) :
    task.Belongs t := by
  have hfollows := hordered.follows t
  rw [hat] at hfollows
  exact hfollows.1

theorem Moves.inside {old new : Task} (hmoves : d.Moves t old new after) {u : Context}
    (hinside : after.Inside u) : d.Inside u ∧ u ≠ t := by
  obtain ⟨op, next, hcall⟩ := hinside
  rw [hmoves.running] at hcall
  by_cases heq : u = t
  · subst heq
    simp at hcall
  · exact ⟨⟨op, next, by simpa [heq] using hcall⟩, heq⟩

theorem Ordered.move (hordered : d.Ordered) {old new : Task} (hmoves : d.Moves t old new after) :
    after.Ordered := by
  have hbelongs := hordered.belongs hmoves.before
  refine ⟨?_, ?_, ?_⟩
  · intro u
    have hfollows := hordered.follows u
    rw [hmoves.running, hmoves.log, hmoves.begun]
    by_cases heq : u = t
    · subst heq
      rw [hmoves.before] at hfollows
      rw [Function.update_self]
      exact ⟨hmoves.belongs hbelongs, hfollows.2⟩
    · rwa [Function.update_of_ne heq]
  · rw [hmoves.log, hmoves.begun]
    exact hordered.bounded
  · intro n hbrackets
    by_cases heq : Context.caller n = t
    · subst heq
      obtain hinside | ⟨frames, hsending⟩ := hbrackets
      · exact absurd rfl (hmoves.inside hinside).2
      · rw [hmoves.running, Function.update_self] at hsending
        obtain rfl := (Prog.ret.inj hsending)
        obtain ⟨-, hnot⟩ | ⟨-, htaken⟩ | ⟨-, hidle, -⟩ := hmoves.mutex
        · exact absurd rfl (hnot frames)
        · exact htaken
        · cases hidle
    · have hbefore : d.Brackets (.caller n) := by
        refine hbrackets.imp (fun hinside => (hmoves.inside hinside).1) ?_
        intro hgiven
        obtain ⟨frames, hsending⟩ := hgiven
        rw [hmoves.running, Function.update_of_ne heq] at hsending
        exact ⟨frames, hsending⟩
      have hholds := hordered.locked n hbefore
      obtain ⟨hsame, -⟩ | ⟨hfree, -⟩ | ⟨hold, -, -⟩ := hmoves.mutex
      · rw [hsame]
        exact hholds
      · rw [hfree] at hholds
        cases hholds
      · -- only the holder releases the mutex
        rw [hold] at hbelongs
        cases t with
        | caller m =>
            have hreleases := hordered.locked m (.inr ⟨[], hold ▸ hmoves.before⟩)
            exact absurd (Option.some.inj (hholds.symm.trans hreleases)) heq
        | setter led | work led => exact hbelongs.elim

theorem opened_running (d : LedDevice) (t : Context) (program : Prog Smbus Task) :
    (d.opened t program).running t = program := by
  simp [opened, goto]

theorem opened_begun (d : LedDevice) (t : Context) (program : Prog Smbus Task) :
    (d.opened t program).begun t = d.begun t + 1 :=
  Function.update_self _ _ _

theorem opened_inside {program : Prog Smbus Task} {u : Context}
    (hinside : (d.opened t program).Inside u) : u = t ∨ d.Inside u := by
  obtain ⟨op, rest, hcall⟩ := hinside
  by_cases heq : u = t
  · exact .inl heq
  · exact .inr ⟨op, rest, by simpa [opened, goto, heq] using hcall⟩

theorem Ordered.fresh (hordered : d.Ordered) (t : Context) :
    ∀ entry ∈ d.log, entry.exchange ≠ (t, d.begun t + 1) := by
  intro entry hmem hsame
  have hle := hordered.bounded entry hmem
  rw [hsame] at hle
  exact absurd hle (Nat.not_succ_le_self _)

theorem Ordered.open (hordered : d.Ordered) {task : Task} {program : Prog Smbus Task}
    (hat : d.running t = .ret task) (hbegins : task.exchange = some program) :
    (d.opened t program).Ordered := by
  have hbelongs := hordered.belongs hat
  refine ⟨?_, ?_, ?_⟩
  · intro u
    by_cases heq : u = t
    · subst heq
      have hphase : phaseOf d.log (u, d.begun u + 1) = .sending :=
        phaseOf_fresh (hordered.fresh u)
      simpa [opened, goto, hphase] using Task.exchange_obeys hbelongs hbegins
    · simpa [opened, goto, heq] using hordered.follows u
  · intro entry hmem
    have hle := hordered.bounded entry hmem
    by_cases heq : entry.exchange.1 = t
    · subst heq
      simp only [opened, Function.update_self]
      omega
    · simpa [opened, heq] using hle
  · intro n hbrackets
    refine hordered.locked n ?_
    by_cases heq : Context.caller n = t
    · subst heq
      cases task with
      | sending frames => exact .inr ⟨frames, hat⟩
      | transmit frame => exact hbelongs.elim
      | idle | lock _ | schedule | testOne | full | testZero | fetch => cases hbegins
    · refine hbrackets.imp (fun hinside => (opened_inside hinside).resolve_left heq) ?_
      intro hgiven
      obtain ⟨frames, hsending⟩ := hgiven
      exact ⟨frames, by simpa [opened, goto, heq] using hsending⟩

theorem Ordered.transfer (hordered : d.Ordered) {op : SmbusOp} {next : Int → Prog Smbus Task}
    (answer : Int) (hat : d.running t = .call op next) :
    ((d.goto t (next answer)).record op answer (t, d.begun t)).Ordered := by
  refine ⟨?_, ?_, ?_⟩
  · intro u
    have hfollows := hordered.follows u
    simp only [goto, record, phaseOf_snoc]
    by_cases heq : u = t
    · subst heq
      rw [hat] at hfollows
      rw [Function.update_self, if_pos rfl]
      exact hfollows.2 answer
    · have hne : ¬ (t, d.begun t) = (u, d.begun u) := fun hsame => heq (Prod.mk.inj hsame).1.symm
      rwa [Function.update_of_ne heq, if_neg hne]
  · intro entry hmem
    rcases List.mem_append.mp hmem with hold | hnew
    · exact hordered.bounded entry hold
    · rw [List.mem_singleton.mp hnew]
      exact Nat.le_refl _
  · intro n hbrackets
    refine hordered.locked n ?_
    by_cases heq : Context.caller n = t
    · subst heq
      exact .inl ⟨op, next, hat⟩
    · refine hbrackets.imp ?_ ?_
      · intro hgiven
        obtain ⟨op, rest, hcall⟩ := hgiven
        exact ⟨op, rest, by simpa [goto, record, heq] using hcall⟩
      · intro hgiven
        obtain ⟨frames, hsending⟩ := hgiven
        exact ⟨frames, by simpa [goto, record, heq] using hsending⟩

theorem Ordered.step {action : Action} (hordered : d.Ordered) (hstep : Step d (t, action) after) :
    after.Ordered := by
  obtain ⟨old, new, hmoves⟩ | ⟨task, op, next, answer, -, hat, hbegins, rfl⟩ |
    ⟨op, next, answer, hat, rfl⟩ := step_cases hstep
  · exact hordered.move hmoves
  · have hafter := (hordered.open hat hbegins).transfer answer (opened_running _ _ _)
    simpa [opened] using hafter
  · exact hordered.transfer answer hat

theorem Ordered.initial (status : Nat → LedStatus) (brightness : Nat → UInt32) :
    (LedDevice.initial status brightness).Ordered := by
  refine ⟨fun t => ⟨?_, nofun⟩, nofun, ?_⟩
  · cases t <;> trivial
  · rintro n (⟨op, next, hcall⟩ | ⟨frames, hcall⟩) <;> cases hcall

end LedDevice

end FrontPanel.Led
