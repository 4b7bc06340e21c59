import FrontPanel.Sio.BeeperCount

/-!
# What the beeper is left doing

Three agents set the output: the commands, the timer, which beeps and re-arms itself, and the delayed work, which ends a beep. A command that sets the beeper deletes the timer, and none cancels the delayed work. So what `off` sets lasts until the next command whatever was pending when it came, and what `on` sets lasts exactly if the delayed work was not pending then.
-/

namespace FrontPanel.Sio.Beeper

open CString

/-- The bytes of an `on` command. -/
def IsOn (buffer : List UInt8) : Prop :=
  strncmp (beeperText buffer) (ascii "on") 3 = 0 ∨ strncmp (beeperText buffer) (ascii "ON") 3 = 0

/-- The bytes of an `off` command. -/
def IsOff (buffer : List UInt8) : Prop :=
  strncmp (beeperText buffer) (ascii "off") 4 = 0 ∨ strncmp (beeperText buffer) (ascii "OFF") 4 = 0

/-- With no command to follow, the output is `value` at every moment. -/
def Stays (s : Beeper) (value : Bool) : Prop :=
  ∀ events after, Quiet events → Run step s events after → after.on = value

/-! ### The two commands -/

theorem beeperText_eq {buffer : List UInt8} {word : List UInt8} (hword : 0 ∉ word)
    (hequal : strncmp (beeperText buffer) word (word.length + 1) = 0) :
    beeperText buffer = word := by
  have htake := (strncmp_eq_zero_iff (zero_not_mem_ofBuffer _) hword).mp hequal
  rw [List.take_of_length_le (Nat.le_succ word.length)] at htake
  have hlength := congrArg List.length htake
  rw [List.length_take] at hlength
  rw [← htake, eq_comm]
  apply List.take_of_length_le
  omega

theorem beeperCommand_on {s : Beeper} {buffer : List UInt8} (hon : IsOn buffer) :
    s.beeperCommand (beeperText buffer) =
      ({ s with timerPending := false, timerStatus := 0, on := true }, 0) := by
  obtain hon | hon := hon
  · rw [beeperText_eq (by decide) hon]
    rfl
  · rw [beeperText_eq (by decide) hon]
    rfl

theorem beeperCommand_off {s : Beeper} {buffer : List UInt8} (hoff : IsOff buffer) :
    s.beeperCommand (beeperText buffer) =
      ({ s with timerPending := false, timerStatus := 0, on := false }, 0) := by
  obtain hoff | hoff := hoff
  · rw [beeperText_eq (by decide) hoff]
    rfl
  · rw [beeperText_eq (by decide) hoff]
    rfl

/-! ### What the leftovers do -/

/-- Without a command, a stopped timer stays stopped and only the delayed work changes the output. -/
theorem stopped_of_run {s after : Beeper} {events : List BeeperEvent}
    (hstopped : s.timerPending = false) (hquiet : Quiet events) (hrun : Run step s events after) :
    after.timerPending = false ∧ (after.on = s.on ∧ after.workPending = s.workPending ∨
      s.workPending = true ∧ after.on = false) := by
  refine Run.history_invariant (fun passed state => Quiet passed → state.timerPending = false ∧
    (state.on = s.on ∧ state.workPending = s.workPending ∨
      s.workPending = true ∧ state.on = false)) ?_ hrun ?_ hquiet
  · intro passed before event next hbefore hstep hquiet
    obtain ⟨hidle, houtput⟩ := hbefore fun event hmem => hquiet event (List.mem_append_left _ hmem)
    obtain rfl | rfl := hquiet event (List.mem_append_right _ (List.mem_singleton.mpr rfl))
    · -- a timer that is not pending cannot expire
      have hpending : before.timerPending = true := hstep.1
      rw [hidle] at hpending
      cases hpending
    · obtain ⟨hpending, rfl⟩ := hstep
      refine ⟨hidle, .inr ⟨?_, rfl⟩⟩
      obtain ⟨_, hsame⟩ | ⟨hwork, _⟩ := houtput
      · exact hsame ▸ hpending
      · exact hwork
  · intro _
    exact ⟨hstopped, .inl ⟨rfl, rfl⟩⟩

theorem stays_off {s : Beeper} (hstopped : s.timerPending = false) (hoff : s.on = false) :
    s.Stays false := by
  intro events after hquiet hrun
  obtain ⟨hsame, _⟩ | ⟨_, hoff'⟩ := (stopped_of_run hstopped hquiet hrun).2
  · rw [hsame, hoff]
  · exact hoff'

theorem stays_on_iff {s : Beeper} (hstopped : s.timerPending = false) (hon : s.on = true) :
    s.Stays true ↔ s.workPending = false := by
  constructor
  · intro hstays
    by_contra hwork
    rw [Bool.not_eq_false] at hwork
    have hstep : step s .work { s with workPending := false }.beeperDelayWorkFunc := ⟨hwork, rfl⟩
    have hoff := hstays [.work] _ (by simp [Quiet]) (Run.single hstep)
    cases hoff
  · intro hnone events after hquiet hrun
    obtain ⟨hsame, _⟩ | ⟨hwork, _⟩ := (stopped_of_run hstopped hquiet hrun).2
    · rw [hsame, hon]
    · rw [hnone] at hwork
      cases hwork

/-- After any history, an accepted `on` leaves the output on until the next command exactly if the delayed work is not pending as the command comes, and an accepted `off` leaves it off whatever is pending. -/
theorem last_command_wins (bootByte : UInt8) (on : Bool) (history : List BeeperEvent)
    (s after : Beeper) (buffer : List UInt8) (copied : Bool) :
    Run step (initial bootByte on) history s → step s (.write buffer copied buffer.length) after →
      (IsOn buffer → (after.Stays true ↔ s.workPending = false)) ∧
      (IsOff buffer → after.Stays false) := by
  intro _ haccepted
  have hcommand := beeperWrite_accepted haccepted
  constructor
  · intro hon
    rw [beeperCommand_on hon] at hcommand
    obtain ⟨rfl, _⟩ := Prod.mk.inj hcommand
    exact stays_on_iff rfl rfl
  · intro hoff
    rw [beeperCommand_off hoff] at hcommand
    obtain ⟨rfl, _⟩ := Prod.mk.inj hcommand
    exact stays_off rfl rfl

/-- An `on` while the timer is pending, and an `off` while the timer and the delayed work are. -/
theorem last_command_wins_pending : ∃ timed on beeping off,
    (Run step (initial 0 false) [.write (ascii "timer 100 500") true 13] timed ∧
      timed.timerPending = true ∧
      step timed (.write (ascii "on") true 2) on ∧ on.Stays true) ∧
    (Run step (initial 0 false) [.write (ascii "rep 3 100 500") true 13, .expire] beeping ∧
      beeping.timerPending = true ∧ beeping.workPending = true ∧
      step beeping (.write (ascii "off") true 3) off ∧ off.Stays false) := by
  obtain ⟨timed, on, htimed, htimer, hnone, hon⟩ : ∃ timed on,
      Run step (initial 0 false) [.write (ascii "timer 100 500") true 13] timed ∧
      timed.timerPending = true ∧ timed.workPending = false ∧
      step timed (.write (ascii "on") true 2) on :=
    ⟨_, _, .single rfl, rfl, rfl, rfl⟩
  obtain ⟨beeping, off, hbeeping, hboth, hoff⟩ : ∃ beeping off,
      Run step (initial 0 false) [.write (ascii "rep 3 100 500") true 13, .expire] beeping ∧
      (beeping.timerPending = true ∧ beeping.workPending = true) ∧
      step beeping (.write (ascii "off") true 3) off :=
    ⟨_, _, .cons rfl (.single ⟨rfl, rfl⟩), ⟨rfl, rfl⟩, rfl⟩
  have hstays := (last_command_wins 0 false _ _ _ (ascii "on") true htimed hon).1
    (.inl (by decide))
  have hsilent := (last_command_wins 0 false _ _ _ (ascii "off") true hbeeping hoff).2
    (.inl (by decide))
  exact ⟨timed, on, beeping, off, ⟨htimed, htimer, hon, hstays.mpr hnone⟩,
    hbeeping, hboth.1, hboth.2, hoff, hsilent⟩

/-- The delayed work of a `one` ends the output of the `on` that follows it. -/
theorem last_command_undone : ¬ ∀ (history : List BeeperEvent) (s after : Beeper)
    (buffer : List UInt8) (events : List BeeperEvent) (last : Beeper),
    Run step (initial 0 false) history s → step s (.write buffer true buffer.length) after →
      IsOn buffer → Quiet events → Run step after events last → last.on = true := by
  intro halways
  obtain ⟨s, after, last, hrun, haccepted, hwork, hoff⟩ : ∃ s after last,
      Run step (initial 0 false) [.write (ascii "one") true 3] s ∧
      step s (.write (ascii "on") true 2) after ∧ Run step after [.work] last ∧ last.on = false :=
    ⟨_, _, _, .single rfl, rfl, .single ⟨rfl, rfl⟩, rfl⟩
  have hon := halways _ s after (ascii "on") [.work] last hrun haccepted (.inl (by decide))
    (by simp [Quiet]) hwork
  rw [hoff] at hon
  cases hon

end FrontPanel.Sio.Beeper
