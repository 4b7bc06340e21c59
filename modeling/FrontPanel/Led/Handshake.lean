import FrontPanel.Led.Exchange

/-!
# A frame and its acknowledgement

The flag register of the controller speaks of the last frame it was sent, whoever sent it. The mutex keeps the callers of `leds_blink_set` and `color_set` apart, and nothing keeps `brightness_work` apart from them or from the `brightness_work` of another LED. What is proved is that this is the only way a call can read the answer to a frame that is not its own: in every run in which no call of a work item begins inside another call, and none of a caller inside one of a work item, no frame comes between the accepted frame of a call and its reads of the flags.
-/

namespace FrontPanel.Led

/-! ### What the log says -/

namespace Entry

/-- A frame goes out. -/
def Sends (entry : Entry) : Prop := ∃ command values, entry.op = .writeBlockData command values

/-- A frame goes out and is accepted by the bus. -/
def Accepted (entry : Entry) : Prop := entry.Sends ∧ 0 ≤ entry.answer

/-- The flags are read. -/
def Asks (entry : Entry) : Prop := entry.op = .readByteData mcuReceiveFlags

end Entry

/-- Between the accepted frame of a call and a read of the flags by that call, no other call sends a frame. -/
def Undisturbed (log : List Entry) : Prop :=
  ∀ past mid later write read, log = past ++ write :: (mid ++ read :: later) →
    write.Accepted → read.Asks → write.exchange = read.exchange →
    ∀ entry ∈ mid, entry.Sends → entry.exchange = write.exchange

/-- The call that sent the last frame, if that frame was accepted. -/
def lastFrame (log : List Entry) : Option Exchange :=
  log.foldl (fun current entry =>
    match entry.op with
    | .writeBlockData _ _ => if entry.answer < 0 then none else some entry.exchange
    | .readByteData _ => current) none

/-- Whenever the flags are read, the last frame sent is the reader's own, and was accepted. -/
def Acknowledged (log : List Entry) : Prop :=
  ∀ past later read, log = past ++ read :: later → read.Asks →
    lastFrame past = some read.exchange

/-- Once the call has made a transfer, all transfers are its own. -/
def Current (log : List Entry) (exchange : Exchange) : Prop :=
  ∀ past entry later, log = past ++ entry :: later → entry.exchange = exchange →
    ∀ other ∈ later, other.exchange = exchange

theorem lastFrame_write (log : List Entry) (command : UInt8) (values : List UInt8) (answer : Int)
    (exchange : Exchange) : lastFrame (log ++ [⟨.writeBlockData command values, answer, exchange⟩]) =
      if answer < 0 then none else some exchange := by
  simp [lastFrame]

theorem lastFrame_read (log : List Entry) (command : UInt8) (answer : Int) (exchange : Exchange) :
    lastFrame (log ++ [⟨.readByteData command, answer, exchange⟩]) = lastFrame log := by
  simp [lastFrame]

theorem Current.snoc {log : List Entry} {exchange : Exchange} (hcurrent : Current log exchange)
    {last : Entry} (hlast : last.exchange = exchange) : Current (log ++ [last]) exchange := by
  intro past entry later hsplit hentry other hmem
  obtain rfl | ⟨later, newest, rfl⟩ := later.eq_nil_or_concat'
  · cases hmem
  · have hsplit : log ++ [last] = (past ++ entry :: later) ++ [newest] := by simpa using hsplit
    obtain ⟨hlog, hnewest⟩ := List.append_inj' hsplit rfl
    obtain rfl : last = newest := by simpa using hnewest
    rcases List.mem_append.mp hmem with hold | hnew
    · exact hcurrent past entry later hlog hentry other hold
    · rw [List.mem_singleton.mp hnew]
      exact hlast

theorem Undisturbed.snoc {log : List Entry} (hlog : Undisturbed log) {last : Entry}
    (hcurrent : Current log last.exchange) : Undisturbed (log ++ [last]) := by
  intro past mid later write read hsplit hwrite hread hsame entry hmem hsends
  obtain rfl | ⟨later, newest, rfl⟩ := later.eq_nil_or_concat'
  · -- the flags are read by the new transfer
    have hsplit : log ++ [last] = (past ++ write :: mid) ++ [read] := by simpa using hsplit
    obtain ⟨hpast, hlast⟩ := List.append_inj' hsplit rfl
    obtain rfl : last = read := by simpa using hlast
    rw [hsame]
    exact hcurrent past write mid hpast hsame entry hmem
  · have hsplit : log ++ [last] = (past ++ write :: (mid ++ read :: later)) ++ [newest] := by
      simpa using hsplit
    exact hlog past mid later write read (List.append_inj' hsplit rfl).1 hwrite hread hsame entry
      hmem hsends

theorem Acknowledged.snoc {log : List Entry} (hlog : Acknowledged log) {last : Entry}
    (hlast : last.Asks → lastFrame log = some last.exchange) : Acknowledged (log ++ [last]) := by
  intro past later read hsplit hread
  obtain rfl | ⟨later, newest, rfl⟩ := later.eq_nil_or_concat'
  · obtain ⟨rfl, hsame⟩ := List.append_inj' hsplit rfl
    obtain rfl : last = read := by simpa using hsame
    exact hlast hread
  · have hsplit : log ++ [last] = (past ++ read :: later) ++ [newest] := by simpa using hsplit
    exact hlog past later read (List.append_inj' hsplit rfl).1 hread

theorem exists_accepted {log : List Entry} {exchange : Exchange}
    (hphase : phaseOf log exchange ≠ .sending) :
    ∃ write ∈ log, write.Accepted ∧ write.exchange = exchange := by
  induction log using List.reverseRecOn with
  | nil => exact absurd rfl hphase
  | append_singleton log entry ih =>
      have hearlier : phaseOf log exchange ≠ .sending →
          ∃ write ∈ log ++ [entry], write.Accepted ∧ write.exchange = exchange := by
        intro hphase
        obtain ⟨write, hmem, hwrite⟩ := ih hphase
        exact ⟨write, List.mem_append_left _ hmem, hwrite⟩
      rw [phaseOf_snoc] at hphase
      split at hphase
      · next hsame =>
        obtain ⟨op, answer, _⟩ := entry
        cases op with
        | writeBlockData command values =>
            rw [twoPhase_next_write] at hphase
            split at hphase
            · exact hearlier hphase
            · next hanswer =>
              exact ⟨_, by simp, ⟨⟨command, values, rfl⟩, not_lt.mp hanswer⟩, hsame⟩
        | readByteData command =>
            rw [twoPhase_next_read] at hphase
            exact hearlier fun hsending => hphase (if_pos hsending)
      · exact hearlier hphase

namespace LedDevice

variable {d after : LedDevice} {t : Context}

/-! ### What keeps the calls apart -/

/-- A call of a work item begins only while no call is open, and one of a caller only while none of a work item is. -/
def Apart (d : LedDevice) (label : Context × Action) : Prop :=
  label.2 = .first → ∀ u, d.Inside u → (∃ n, label.1 = .caller n) ∧ ∃ m, u = .caller m

/-- At most one call is open, and its frame is the last one sent. -/
structure Separate (d : LedDevice) : Prop where
  single : ∀ t u, d.Inside t → d.Inside u → t = u
  current : ∀ t, d.Inside t → Current d.log (t, d.begun t)
  own : ∀ t, d.Inside t → phaseOf d.log (t, d.begun t) ≠ .sending →
    lastFrame d.log = some (t, d.begun t)
  undisturbed : Undisturbed d.log
  acknowledged : Acknowledged d.log

theorem Separate.move (hseparate : d.Separate) {old new : Task}
    (hmoves : d.Moves t old new after) : after.Separate := by
  refine ⟨?_, ?_, ?_, ?_, ?_⟩
  · intro u v hu hv
    exact hseparate.single u v (hmoves.inside hu).1 (hmoves.inside hv).1
  · intro u hu
    rw [hmoves.log, hmoves.begun]
    exact hseparate.current u (hmoves.inside hu).1
  · intro u hu
    rw [hmoves.log, hmoves.begun]
    exact hseparate.own u (hmoves.inside hu).1
  · rw [hmoves.log]
    exact hseparate.undisturbed
  · rw [hmoves.log]
    exact hseparate.acknowledged

theorem Separate.open (hordered : d.Ordered) (hseparate : d.Separate)
    (halone : ∀ u, ¬ d.Inside u) (t : Context) (program : Prog Smbus Task) :
    (d.opened t program).Separate := by
  have honly : ∀ u, (d.opened t program).Inside u → u = t := fun u hinside =>
    (opened_inside hinside).resolve_right (halone u)
  refine ⟨?_, ?_, ?_, hseparate.undisturbed, hseparate.acknowledged⟩
  · intro u v hu hv
    rw [honly u hu, honly v hv]
  · intro u hu past entry later hlog hentry
    rw [honly u hu, opened_begun] at hentry
    have hmem : entry ∈ d.log := by
      have hlog : d.log = past ++ entry :: later := hlog
      rw [hlog]
      simp
    exact absurd hentry (hordered.fresh t entry hmem)
  · intro u hu hphase
    rw [honly u hu, opened_begun] at hphase
    exact absurd (phaseOf_fresh (hordered.fresh t)) hphase

theorem Separate.transfer (hordered : d.Ordered) (hseparate : d.Separate) {op : SmbusOp}
    {next : Int → Prog Smbus Task} (answer : Int) (hat : d.running t = .call op next) :
    ((d.goto t (next answer)).record op answer (t, d.begun t)).Separate := by
  have hopen : d.Inside t := ⟨op, next, hat⟩
  have hallows := hordered.follows t
  rw [hat] at hallows
  have hallows := hallows.1
  have honly : ∀ u, ((d.goto t (next answer)).record op answer (t, d.begun t)).Inside u →
      u = t := by
    intro u hgiven
    obtain ⟨op, rest, hcall⟩ := hgiven
    by_contra hne
    exact hne (hseparate.single u t ⟨op, rest, by simpa [goto, record, hne] using hcall⟩ hopen)
  have hcurrent := hseparate.current t hopen
  refine ⟨?_, ?_, ?_, ?_, ?_⟩
  · intro u v hu hv
    rw [honly u hu, honly v hv]
  · intro u hu
    rw [honly u hu]
    exact hcurrent.snoc rfl
  · intro u hu
    rw [honly u hu]
    show phaseOf (d.log ++ [_]) (t, d.begun t) ≠ .sending →
      lastFrame (d.log ++ [_]) = some (t, d.begun t)
    rw [phaseOf_snoc, if_pos rfl]
    cases op with
    | writeBlockData command values =>
        rw [twoPhase_next_write, lastFrame_write]
        by_cases hanswer : answer < 0
        · rw [if_pos hanswer]
          exact fun hphase => absurd hallows hphase
        · exact fun _ => if_neg hanswer
    | readByteData command =>
        rw [lastFrame_read]
        exact fun _ => hseparate.own t hopen hallows.1
  · exact hseparate.undisturbed.snoc hcurrent
  · apply hseparate.acknowledged.snoc
    intro hasks
    obtain rfl : op = _ := hasks
    exact hseparate.own t hopen hallows.1

/-- The mutex and the guard together leave a call that begins alone. -/
theorem Ordered.alone (hordered : d.Ordered) {task : Task} {program : Prog Smbus Task}
    (hat : d.running t = .ret task) (hbegins : task.exchange = some program)
    (hapart : d.Apart (t, .first)) (u : Context) : ¬ d.Inside u := by
  intro hinside
  obtain ⟨⟨n, hn⟩, m, rfl⟩ := hapart rfl u hinside
  obtain rfl : t = .caller n := hn
  have hbrackets : d.Brackets (.caller n) := by
    have hbelongs := hordered.belongs hat
    cases task with
    | sending frames => exact .inr ⟨frames, hat⟩
    | transmit frame => exact hbelongs.elim
    | idle | lock _ | schedule | testOne | full | testZero | fetch => cases hbegins
  have hmutex : some (Context.caller n) = some (.caller m) :=
    (hordered.locked n hbrackets).symm.trans (hordered.locked m (.inl hinside))
  rw [← Option.some.inj hmutex] at hinside
  exact not_inside_ret hat hinside

theorem Separate.step {action : Action} (hordered : d.Ordered) (hseparate : d.Separate)
    (hstep : Guarded Step Apart d (t, action) after) : after.Separate := by
  obtain ⟨hstep, hapart⟩ := hstep
  obtain ⟨old, new, hmoves⟩ | ⟨task, op, next, answer, rfl, hat, hbegins, rfl⟩ |
    ⟨op, next, answer, hat, rfl⟩ := step_cases hstep
  · exact hseparate.move hmoves
  · have hopen := hseparate.open hordered (hordered.alone hat hbegins hapart) t (.call op next)
    have hafter := hopen.transfer (hordered.open hat hbegins) answer (opened_running _ _ _)
    simpa [opened] using hafter
  · exact hseparate.transfer hordered answer hat

theorem Separate.initial (status : Nat → LedStatus) (brightness : Nat → UInt32) :
    (LedDevice.initial status brightness).Separate := by
  refine ⟨?_, ?_, ?_, ?_, ?_⟩
  · intro t u hgiven
    exact absurd hgiven (not_inside_ret rfl)
  · intro t hgiven
    exact absurd hgiven (not_inside_ret rfl)
  · intro t hgiven
    exact absurd hgiven (not_inside_ret rfl)
  · intro past mid later write read hsplit
    simp [LedDevice.initial] at hsplit
  · intro past later read hsplit
    simp [LedDevice.initial] at hsplit

end LedDevice

/-- In every run in which no call of a work item begins inside another call and none of a caller inside one of a work item, no frame comes between the accepted frame of a call and its reads of the flags, and what a call reads there is the answer to its own frame. -/
theorem ledFrames_acknowledged {status : Nat → LedStatus} {brightness : Nat → UInt32}
    {labels : List (Context × Action)} {d : LedDevice}
    (hrun : Run (Guarded LedDevice.Step LedDevice.Apart) (.initial status brightness) labels d) :
    Undisturbed d.log ∧ Acknowledged d.log := by
  have hkept : ∀ before label after, LedDevice.Ordered before ∧ LedDevice.Separate before →
      Guarded LedDevice.Step LedDevice.Apart before label after → after.Ordered ∧ after.Separate := by
    intro before label after hbefore hstep
    exact ⟨hbefore.1.step hstep.1, hbefore.2.step hbefore.1 hstep⟩
  have hboth := Run.invariant hkept hrun
    ⟨LedDevice.Ordered.initial status brightness, LedDevice.Separate.initial status brightness⟩
  exact ⟨hboth.2.undisturbed, hboth.2.acknowledged⟩

/-- The colour of an LED is set, and then the work item sends a brightness; the controller acknowledges both frames. -/
theorem ledFrames_acknowledged_colorSet :
    ∃ d : LedDevice,
      Run (Guarded LedDevice.Step LedDevice.Apart) .zeroed
        [(.caller 0, .call (.colorSet 0 [49])), (.caller 0, .acquire), (.caller 0, .first),
          (.caller 0, .next), (.caller 0, .release), (.setter 0, .set 255), (.setter 0, .schedule),
          (.work 0, .start), (.work 0, .testOne), (.work 0, .testZero), (.work 0, .fetch),
          (.work 0, .first), (.work 0, .next)] d ∧
      d.log = [⟨(colorFrame 0 ⟨255, 255, 255⟩).write, 0, (.caller 0, 1)⟩,
        ⟨.readByteData mcuReceiveFlags, 1, (.caller 0, 1)⟩,
        ⟨(lightFrame 0 255).write, 0, (.work 0, 1)⟩,
        ⟨.readByteData mcuReceiveFlags, 1, (.work 0, 1)⟩] ∧
      Undisturbed d.log ∧ Acknowledged d.log := by
  have hfirst : ∀ {d after : LedDevice} {label : Context × Action}, (∀ u, ¬ d.Inside u) →
      LedDevice.Step d label after → Guarded LedDevice.Step LedDevice.Apart d label after :=
    fun hquiet hstep => ⟨hstep, fun _ u hinside => absurd hinside (hquiet u)⟩
  have hlater : ∀ {d after : LedDevice} {t : Context} {action : Action}, action ≠ .first →
      LedDevice.Step d (t, action) after →
      Guarded LedDevice.Step LedDevice.Apart d (t, action) after :=
    fun hne hstep => ⟨hstep, fun heq => absurd heq hne⟩
  have hrun : ∃ d : LedDevice,
      Run (Guarded LedDevice.Step LedDevice.Apart) .zeroed
        [(.caller 0, .call (.colorSet 0 [49])), (.caller 0, .acquire), (.caller 0, .first),
          (.caller 0, .next), (.caller 0, .release), (.setter 0, .set 255), (.setter 0, .schedule),
          (.work 0, .start), (.work 0, .testOne), (.work 0, .testZero), (.work 0, .fetch),
          (.work 0, .first), (.work 0, .next)] d ∧
      d.log = [⟨(colorFrame 0 ⟨255, 255, 255⟩).write, 0, (.caller 0, 1)⟩,
        ⟨.readByteData mcuReceiveFlags, 1, (.caller 0, 1)⟩,
        ⟨(lightFrame 0 255).write, 0, (.work 0, 1)⟩,
        ⟨.readByteData mcuReceiveFlags, 1, (.work 0, 1)⟩] := by
    refine ⟨_, .cons (hlater (by simp) (.call _ rfl)) <|
      .cons (hlater (by simp) (.acquire rfl rfl)) <|
      .cons (hfirst ?_ (.first (0 : Int) rfl rfl)) <|
      .cons (hlater (by simp) (.next (1 : Int) rfl)) <|
      .cons (hlater (by simp) (.release rfl)) <|
      .cons (hlater (by simp) (.set 255 (by decide) rfl)) <|
      .cons (hlater (by simp) (.schedule rfl)) <| .cons (hlater (by simp) (.start rfl rfl)) <|
      .cons (hlater (by simp) (.testOne rfl)) <| .cons (hlater (by simp) (.testZero rfl)) <|
      .cons (hlater (by simp) (.fetch rfl)) <| .cons (hfirst ?_ (.first (0 : Int) rfl rfl)) <|
      .single (hlater (by simp) (.next (1 : Int) rfl)), rfl⟩
    all_goals
      intro u hinside
      obtain ⟨op, next, hcall⟩ := hinside
      by_cases hcaller : u = .caller 0
      · subst hcaller
        cases hcall
      by_cases hwork : u = .work 0
      · subst hwork
        cases hcall
      simp [LedDevice.goto, LedDevice.record, LedDevice.setPending, LedDevice.setLight,
        LedDevice.setStatus, LedDevice.zeroed, LedDevice.initial, hcaller, hwork] at hcall
  obtain ⟨d, hrun, hlog⟩ := hrun
  exact ⟨d, hrun, hlog, ledFrames_acknowledged hrun⟩

/-- A work item sends its frame between the frame of a caller and the caller's read of the flags, which is then the answer to the frame of the work item. -/
theorem ledFrames_not_acknowledged : ¬ ∀ (status : Nat → LedStatus) (brightness : Nat → UInt32)
    (labels : List (Context × Action)) (d : LedDevice),
    Run LedDevice.Step (.initial status brightness) labels d →
      Undisturbed d.log ∧ Acknowledged d.log := by
  intro halways
  have hrun : ∃ d : LedDevice, Run LedDevice.Step .zeroed
      [(.setter 0, .set 255), (.setter 0, .schedule), (.work 0, .start), (.work 0, .testOne),
        (.work 0, .testZero), (.work 0, .fetch), (.caller 0, .call (.colorSet 0 [49])),
        (.caller 0, .acquire), (.caller 0, .first), (.work 0, .first), (.caller 0, .next)] d ∧
      d.log = [⟨(colorFrame 0 ⟨255, 255, 255⟩).write, 0, (.caller 0, 1)⟩,
        ⟨(lightFrame 0 255).write, 0, (.work 0, 1)⟩,
        ⟨.readByteData mcuReceiveFlags, 1, (.caller 0, 1)⟩] :=
    ⟨_, .cons (.set 255 (by decide) rfl) <| .cons (.schedule rfl) <| .cons (.start rfl rfl) <|
      .cons (.testOne rfl) <| .cons (.testZero rfl) <| .cons (.fetch rfl) <| .cons (.call _ rfl) <|
      .cons (.acquire rfl rfl) <| .cons (.first (0 : Int) rfl rfl) <|
      .cons (.first (0 : Int) rfl rfl) <| .single (.next (1 : Int) rfl), rfl⟩
  obtain ⟨d, hrun, hlog⟩ := hrun
  have hundisturbed := (halways _ _ _ d hrun).1
  have hmixed := hundisturbed [] [_] [] _ _ hlog ⟨⟨_, _, rfl⟩, le_refl 0⟩ rfl rfl _
    (List.mem_singleton.mpr rfl) ⟨_, _, rfl⟩
  cases hmixed

/-! ### The guard is needed -/

theorem i2cIdx601xWriteLed_retries (frame : LedFrame) (rest : Int → Prog Smbus Task) :
    ∃ next, i2cIdx601xWriteLed frame >>= rest = .call frame.write next ∧
      ∀ answer < 0, ∃ next', next answer = .call frame.write next' := by
  refine ⟨_, rfl, fun answer hanswer => ?_⟩
  show ∃ next', ((if answer < 0 then sendFrame frame 2 else return true : Prog Smbus Bool) >>= _ :
    Prog Smbus Int) >>= rest = .call frame.write next'
  rw [if_pos hanswer]
  exact ⟨_, rfl⟩

theorem Task.exchange_retries {task : Task} {op : SmbusOp} {next : Int → Prog Smbus Task}
    (hbegins : task.exchange = some (.call op next)) {answer : Int} (hanswer : answer < 0) :
    ∃ op next', next answer = .call op next' := by
  have hretries : ∃ frame rest, i2cIdx601xWriteLed frame >>= rest = .call op next := by
    cases task with
    | sending frames =>
        cases frames with
        | nil => cases hbegins
        | cons frame frames => exact ⟨frame, _, Option.some.inj hbegins⟩
    | transmit frame => exact ⟨frame, _, Option.some.inj hbegins⟩
    | idle | lock _ | schedule | testOne | full | testZero | fetch => cases hbegins
  obtain ⟨frame, rest, hprogram⟩ := hretries
  obtain ⟨first, hfirst, hagain⟩ := i2cIdx601xWriteLed_retries frame rest
  obtain ⟨rfl, hnext⟩ := Prog.call.inj (hfirst.symm.trans hprogram)
  obtain rfl := eq_of_heq hnext
  obtain ⟨next', hnext'⟩ := hagain answer hanswer
  exact ⟨_, next', hnext'⟩

namespace LedDevice

variable {d : LedDevice} {t : Context}

theorem Ordered.sends (hordered : d.Ordered) {op : SmbusOp} {next : Int → Prog Smbus Task}
    (hat : d.running t = .call op next) (hphase : phaseOf d.log (t, d.begun t) = .sending) :
    ∃ command values, op = .writeBlockData command values := by
  have hfollows := hordered.follows t
  rw [hat] at hfollows
  cases op with
  | writeBlockData command values => exact ⟨command, values, rfl⟩
  | readByteData command => exact absurd hphase hfollows.1.1

theorem Ordered.asks (hordered : d.Ordered) {op : SmbusOp} {next : Int → Prog Smbus Task}
    (hat : d.running t = .call op next) (hphase : phaseOf d.log (t, d.begun t) ≠ .sending) :
    op = .readByteData mcuReceiveFlags := by
  have hfollows := hordered.follows t
  rw [hat] at hfollows
  cases op with
  | writeBlockData command values => exact absurd hfollows.1 hphase
  | readByteData command => rw [hfollows.1.2]

theorem Ordered.still_asks (hordered : d.Ordered)
    (hphase : phaseOf d.log (t, d.begun t) = .accepted) :
    ∃ next, d.running t = .call (.readByteData mcuReceiveFlags) next := by
  cases hrunning : d.running t with
  | ret task =>
      have hfollows := hordered.follows t
      rw [hrunning] at hfollows
      exact absurd hphase hfollows.2
  | call op next =>
      obtain rfl := hordered.asks hrunning (by rw [hphase]; exact nofun)
      exact ⟨next, rfl⟩

/-- Two calls open at once: when another call has sent a frame since the accepted frame of the first, the first one's next read disturbs the log. -/
theorem disturbed_of_read {write other : Entry} {past mid : List Entry}
    {next : Int → Prog Smbus Task}
    (hlog : d.log = past ++ write :: (mid ++ [other])) (hwrite : write.Accepted)
    (hexchange : write.exchange = (t, d.begun t)) (hother : other.Sends)
    (hdistinct : other.exchange ≠ write.exchange)
    (hat : d.running t = .call (.readByteData mcuReceiveFlags) next) :
    ∃ after, Run Step d [(t, .next)] after ∧ ¬ Undisturbed after.log := by
  refine ⟨_, .single (.next (1 : Int) hat), fun hundisturbed => hdistinct ?_⟩
  refine hundisturbed past (mid ++ [other]) [] write
    ⟨.readByteData mcuReceiveFlags, 1, (t, d.begun t)⟩ ?_ hwrite rfl hexchange other (by simp) hother
  simp [record, goto, hlog]

/-- What the first transfer of a call leaves: its frame in the log, and, if that was not accepted, the call still open. -/
structure Begins (d : LedDevice) (t : Context) (frame : Entry) (after : LedDevice) : Prop where
  log : after.log = d.log ++ [frame]
  sends : frame.Sends
  exchange : frame.exchange = (t, after.begun t)
  fresh : after.begun t = d.begun t + 1
  running : ∀ u, u ≠ t → after.running u = d.running u
  begun : ∀ u, u ≠ t → after.begun u = d.begun u
  retries : frame.answer < 0 → after.Inside t

theorem Ordered.begins (hordered : d.Ordered) {after : LedDevice}
    (hstep : Step d (t, .first) after) : ∃ frame, d.Begins t frame after := by
  cases hstep with
  | @first _ task op next answer hat hbegins =>
      have hphase : phaseOf (d.opened t (.call op next)).log
          (t, (d.opened t (.call op next)).begun t) = .sending := by
        rw [opened_begun]
        exact phaseOf_fresh (hordered.fresh t)
      have hwrite := (hordered.open hat hbegins).sends (opened_running _ _ _) hphase
      refine ⟨⟨op, answer, (t, d.begun t + 1)⟩, rfl, hwrite, ?_, ?_, ?_, ?_, ?_⟩
      · simp [record, goto]
      · simp [record, goto]
      · intro u hne
        simp [record, goto, hne]
      · intro u hne
        simp [record, goto, hne]
      · intro hanswer
        obtain ⟨again, next', hagain⟩ := Task.exchange_retries hbegins hanswer
        exact ⟨again, next', by simpa [record, goto] using hagain⟩

theorem phaseOf_accepted {log : List Entry} {frame : Entry} {exchange : Exchange}
    (hsends : frame.Sends) (hanswer : 0 ≤ frame.answer) (hsame : frame.exchange = exchange) :
    phaseOf (log ++ [frame]) exchange = .accepted := by
  obtain ⟨op, answer, _⟩ := frame
  obtain ⟨command, values, rfl⟩ := hsends
  rw [phaseOf_snoc, if_pos hsame, twoPhase_next_write, if_neg (not_lt.mpr hanswer)]

theorem phaseOf_refused {log : List Entry} {frame : Entry} {exchange : Exchange}
    (hsends : frame.Sends) (hanswer : frame.answer < 0) (hsame : frame.exchange = exchange) :
    phaseOf (log ++ [frame]) exchange = phaseOf log exchange := by
  obtain ⟨op, answer, _⟩ := frame
  obtain ⟨command, values, rfl⟩ := hsends
  rw [phaseOf_snoc, if_pos hsame, twoPhase_next_write, if_pos hanswer]

theorem phaseOf_other {log : List Entry} {entry : Entry} {exchange : Exchange}
    (hother : entry.exchange ≠ exchange) :
    phaseOf (log ++ [entry]) exchange = phaseOf log exchange := by
  rw [phaseOf_snoc, if_neg hother]

/-- What a transfer leaves that gets the frame of an open call accepted. -/
structure Accepts (d : LedDevice) (t : Context) (frame : Entry) (after : LedDevice) : Prop where
  step : Step d (t, .next) after
  log : after.log = d.log ++ [frame]
  accepted : frame.Accepted
  exchange : frame.exchange = (t, d.begun t)
  running : ∀ u, u ≠ t → after.running u = d.running u
  begun : after.begun = d.begun

theorem Ordered.accepts (hordered : d.Ordered) (hinside : d.Inside t)
    (hphase : phaseOf d.log (t, d.begun t) = .sending) : ∃ frame after, d.Accepts t frame after := by
  obtain ⟨op, next, hat⟩ := hinside
  obtain ⟨command, values, rfl⟩ := hordered.sends hat hphase
  refine ⟨_, _, .next (0 : Int) hat, rfl, ⟨⟨command, values, rfl⟩, le_refl 0⟩, rfl, ?_, rfl⟩
  intro u hne
  simp [record, goto, hne]

theorem Accepts.asks {frame : Entry} {after : LedDevice} (haccepts : d.Accepts t frame after)
    (hordered : d.Ordered) :
    ∃ next, after.running t = .call (.readByteData mcuReceiveFlags) next := by
  apply (hordered.step haccepts.step).still_asks
  rw [haccepts.log, haccepts.begun]
  exact phaseOf_accepted haccepts.accepted.1 haccepts.accepted.2 haccepts.exchange

theorem Accepts.phaseOf_other {frame : Entry} {after : LedDevice} {u : Context}
    (haccepts : d.Accepts t frame after) (hne : u ≠ t) :
    phaseOf after.log (u, after.begun u) = phaseOf d.log (u, d.begun u) := by
  rw [haccepts.log, haccepts.begun]
  apply LedDevice.phaseOf_other
  rw [haccepts.exchange]
  exact fun hsame => hne (Prod.mk.inj hsame).1.symm

/-- The new call's frame is refused: it sends it again, and the open one reads the answer to that. -/
theorem Accepts.disturbed_of_refused {past : List Entry} {frame frameU : Entry}
    {after middle : LedDevice} {u : Context} (hafter : after.Ordered)
    (haccepts : after.Accepts u frameU middle) (hlog : after.log = past ++ [frame])
    (hinside : after.Inside t) (hphase : phaseOf after.log (t, after.begun t) = .sending)
    (hne : u ≠ t) : ∃ labels final, Run Step after labels final ∧ ¬ Undisturbed final.log := by
  have hmiddle : middle.Ordered := hafter.step haccepts.step
  have hinside' : middle.Inside t := by
    obtain ⟨op, next, hat⟩ := hinside
    exact ⟨op, next, (haccepts.running t hne.symm).trans hat⟩
  have hphase' : phaseOf middle.log (t, middle.begun t) = .sending :=
    (haccepts.phaseOf_other hne.symm).trans hphase
  obtain ⟨again, last, hagain⟩ := hmiddle.accepts hinside' hphase'
  obtain ⟨next, hat⟩ := haccepts.asks hafter
  have hat' : last.running u = .call (.readByteData mcuReceiveFlags) next :=
    (hagain.running u hne).trans hat
  have hlastLog : last.log = (past ++ [frame]) ++ frameU :: ([] ++ [again]) := by
    rw [hagain.log, haccepts.log, hlog]
    simp
  have hexchange : frameU.exchange = (u, last.begun u) := by
    rw [haccepts.exchange, hagain.begun, haccepts.begun]
  have hother : again.exchange ≠ frameU.exchange := by
    rw [hagain.exchange, haccepts.exchange]
    exact fun hsame => hne (Prod.mk.inj hsame).1.symm
  obtain ⟨final, hrun, hfinal⟩ := disturbed_of_read hlastLog haccepts.accepted hexchange
    hagain.accepted.1 hother hat'
  exact ⟨_, final, .cons haccepts.step (.cons hagain.step hrun), hfinal⟩

/-- The new call's frame is accepted, and then that of the open one: the new call reads the answer to it. -/
theorem Accepts.disturbed_of_accepted {past : List Entry} {frame frameU : Entry}
    {after middle : LedDevice} {u : Context} (hafter : after.Ordered)
    (haccepts : after.Accepts u frameU middle) (hlog : after.log = past ++ [frame])
    (haccepted : frame.Accepted) (hexchange : frame.exchange = (t, after.begun t)) (hne : u ≠ t) :
    ∃ labels final, Run Step after labels final ∧ ¬ Undisturbed final.log := by
  have hphase : phaseOf middle.log (t, middle.begun t) = .accepted := by
    rw [haccepts.phaseOf_other hne.symm, hlog]
    exact phaseOf_accepted haccepted.1 haccepted.2 hexchange
  obtain ⟨next, hat⟩ := (hafter.step haccepts.step).still_asks hphase
  have hmiddleLog : middle.log = past ++ frame :: ([] ++ [frameU]) := by
    rw [haccepts.log, hlog]
    simp
  have hexchange' : frame.exchange = (t, middle.begun t) := by rw [hexchange, haccepts.begun]
  have hother : frameU.exchange ≠ frame.exchange := by
    rw [haccepts.exchange, hexchange]
    exact fun hsame => hne (Prod.mk.inj hsame).1
  obtain ⟨final, hrun, hfinal⟩ := disturbed_of_read hmiddleLog haccepted hexchange'
    haccepts.accepted.1 hother hat
  exact ⟨_, final, .cons haccepts.step hrun, hfinal⟩

theorem Ordered.disturbed (hordered : d.Ordered) {after : LedDevice} {u : Context}
    (hstep : Step d (t, .first) after) (hinside : d.Inside u) (hne : u ≠ t) :
    ∃ labels final, Run Step after labels final ∧ ¬ Undisturbed final.log := by
  have hafter := hordered.step hstep
  obtain ⟨frame, hbegins⟩ := hordered.begins hstep
  obtain ⟨op, next, hat⟩ := hinside
  have hat' : after.running u = .call op next := (hbegins.running u hne).trans hat
  by_cases hphase : phaseOf d.log (u, d.begun u) = .sending
  · -- the open call has its frame accepted after the new one has sent its own
    have hphase' : phaseOf after.log (u, after.begun u) = .sending := by
      rw [hbegins.log, hbegins.begun u hne, phaseOf_other, hphase]
      rw [hbegins.exchange]
      exact fun hsame => hne (Prod.mk.inj hsame).1.symm
    obtain ⟨frameU, middle, haccepts⟩ := hafter.accepts ⟨op, next, hat'⟩ hphase'
    by_cases hanswer : frame.answer < 0
    · have hphaseT : phaseOf after.log (t, after.begun t) = .sending := by
        rw [hbegins.log, phaseOf_refused hbegins.sends hanswer hbegins.exchange, hbegins.fresh]
        exact phaseOf_fresh (hordered.fresh t)
      exact haccepts.disturbed_of_refused hafter hbegins.log (hbegins.retries hanswer) hphaseT hne
    · exact haccepts.disturbed_of_accepted hafter hbegins.log
        ⟨hbegins.sends, not_lt.mp hanswer⟩ hbegins.exchange hne
  · -- the open call reads the flags after the new one has sent its frame
    obtain rfl := hordered.asks hat hphase
    obtain ⟨write, hmem, haccepted, hexchange⟩ := exists_accepted hphase
    obtain ⟨past, mid, hsplit⟩ := List.append_of_mem hmem
    have hlog : after.log = past ++ write :: (mid ++ [frame]) := by simp [hbegins.log, hsplit]
    rw [← hbegins.begun u hne] at hexchange
    have hother : frame.exchange ≠ write.exchange := by
      rw [hbegins.exchange, hexchange]
      exact fun hsame => hne (Prod.mk.inj hsame).1.symm
    obtain ⟨final, hrun, hfinal⟩ :=
      disturbed_of_read hlog haccepted hexchange hbegins.sends hother hat'
    exact ⟨_, final, hrun, hfinal⟩

end LedDevice

/-- The guard leaves nothing out: after any run, a call that begins against it can be carried on to a mixed-up exchange. -/
theorem ledFrames_disturbed {status : Nat → LedStatus} {brightness : Nat → UInt32}
    {labels : List (Context × Action)} {d after : LedDevice} {t : Context}
    (hrun : Run LedDevice.Step (.initial status brightness) labels d)
    (hstep : LedDevice.Step d (t, .first) after) (hapart : ¬ d.Apart (t, .first)) :
    ∃ more final, Run LedDevice.Step after more final ∧ ¬ Undisturbed final.log := by
  have hordered : d.Ordered := by
    refine hrun.invariant ?_ (LedDevice.Ordered.initial status brightness)
    intro before label after hbefore hstep
    exact hbefore.step hstep
  obtain ⟨u, hinside, -⟩ : ∃ u, d.Inside u ∧
      ¬ ((∃ n, t = .caller n) ∧ ∃ m, u = .caller m) := by
    by_contra hnone
    refine hapart fun _ u hinside => ?_
    by_contra hnot
    exact hnone ⟨u, hinside, hnot⟩
  have hne : u ≠ t := by
    intro hsame
    subst hsame
    cases hstep with
    | first answer hat hbegins => exact LedDevice.not_inside_ret hat hinside
  exact hordered.disturbed hstep hinside hne

end FrontPanel.Led
