import FrontPanel.Sio.Beeper
import Mathlib.Tactic.NormNum

/-!
# How often the beeper repeats

Between two commands the timer counts `count` up from where the last repetition left it, and stops when it equals `g_count`. What follows is that this is the asked number of expiries exactly if the count started at 0 and the number fits an `int`, and that an endless beep is endless exactly if no `int` equals the `g_count` of an earlier repetition. The count starts elsewhere when an earlier repetition was cut short, since no command resets it.
-/

namespace FrontPanel.Sio.Beeper

open CString

/-! ### Expiries between two commands -/

/-- No command. -/
def Quiet (events : List BeeperEvent) : Prop := ∀ event ∈ events, event = .expire ∨ event = .work

def expiries (events : List BeeperEvent) : Nat :=
  events.countP fun event => match event with | .expire => true | _ => false

/-- With no command to follow, the timer expires `times` more times and is then stopped. -/
def RepeatsExactly (s : Beeper) (times : Nat) : Prop :=
  ∀ events after, Quiet events → Run step s events after →
    expiries events ≤ times ∧ (after.timerPending = true ↔ expiries events < times) ∧
      (expiries events = times → after.timerStatus = 0)

/-- With no command to follow, the timer is pending after every expiry. -/
def RepeatsForever (s : Beeper) : Prop :=
  ∀ events after, Quiet events → Run step s events after → after.timerPending = true

/-- The bytes of a `rep` command with these numbers. -/
def IsRep (buffer : List UInt8) (times off on : Int) : Prop :=
  strncmp (beeperText buffer) (ascii "rep ") 3 = 0 ∧
    vsscanf (format "rep # # #") (beeperText buffer) = [times, off, on]

/-- The bytes of a `timer` command with these numbers. -/
def IsTimer (buffer : List UInt8) (off on : Int) : Prop :=
  strncmp (beeperText buffer) (ascii "timer ") 6 = 0 ∧
    vsscanf (format "timer # #") (beeperText buffer) = [off, on]

/-! ### One expiry -/

/-- The comparison of the handler, which is made only for a count that is set. -/
def Hits (gCount : BitVec 64) (count : BitVec 32) : Prop :=
  gCount ≠ 0 ∧ gCount = count.signExtend 64

theorem setBeeper_two (s : Beeper) : s.setBeeper 2 = { s with on := true, workPending := true } :=
  rfl

/-- An expiry re-arms the timer and counts, unless the count is reached. -/
theorem beeperTimerHandle_spec (s : Beeper) :
    s.beeperTimerHandle.gCount = s.gCount ∧
      (¬ Hits s.gCount (s.count + 1) → s.beeperTimerHandle.timerPending = true ∧
        s.beeperTimerHandle.timerStatus = s.timerStatus ∧
        (s.gCount ≠ 0 → s.beeperTimerHandle.count = s.count + 1)) ∧
      (Hits s.gCount (s.count + 1) → s.beeperTimerHandle.timerPending = false ∧
        s.beeperTimerHandle.timerStatus = 0) := by
  obtain ⟨armed, harmed, hcount, hgCount, hstatus⟩ : ∃ armed : Beeper,
      armed = (if s.delayOn < 1 ∨ s.delayOff < 1 then
        { s with delayOn := 500, delayOff := 2000 } else s) ∧
      armed.count = s.count ∧ armed.gCount = s.gCount ∧ armed.timerStatus = s.timerStatus := by
    refine ⟨_, rfl, ?_, ?_, ?_⟩ <;> split <;> rfl
  have hhandle : s.beeperTimerHandle =
      if s.gCount ≠ 0 then
        if s.gCount = (s.count + 1).signExtend 64 then
          { ((armed.setBeeper 2).modTimer).delTimer with timerStatus := 0, count := 0 }
        else { (armed.setBeeper 2).modTimer with count := s.count + 1 }
      else (armed.setBeeper 2).modTimer := by
    rw [beeperTimerHandle]
    rw [← harmed]
    simp only [setBeeper_two, modTimer, delTimer, hcount, hgCount]
  rw [hhandle]
  by_cases hset : s.gCount = 0
  · simp [hset, Hits, setBeeper_two, modTimer, hgCount, hstatus]
  · by_cases hhit : s.gCount = (s.count + 1).signExtend 64
    · have hhits : Hits s.gCount (s.count + 1) := ⟨hset, hhit⟩
      rw [if_pos hset, if_pos hhit]
      exact ⟨hgCount, fun hnot => absurd hhits hnot, fun _ => ⟨rfl, rfl⟩⟩
    · have hmiss : ¬ Hits s.gCount (s.count + 1) := fun hhits => hhit hhits.2
      rw [if_pos hset, if_neg hhit]
      exact ⟨hgCount, fun _ => ⟨rfl, hstatus, fun _ => rfl⟩, fun hhits => absurd hhits hmiss⟩

/-! ### Many expiries -/

/-- The count after so many expiries. -/
def countAfter (s : Beeper) (fired : Nat) : BitVec 32 := s.count + BitVec.ofNat 32 fired

/-- The count is reached at expiry `times` and at none before. -/
def FirstHit (s : Beeper) (times : Nat) : Prop :=
  1 ≤ times ∧ Hits s.gCount (s.countAfter times) ∧
    ∀ j, 1 ≤ j → j < times → ¬ Hits s.gCount (s.countAfter j)

/-- After `fired` expiries the timer is going and has not reached the count, or has stopped as it reached it. -/
structure Counted (s : Beeper) (fired : Nat) (after : Beeper) : Prop where
  gCount : after.gCount = s.gCount
  status :
    (after.timerPending = true ∧ (s.gCount ≠ 0 → after.count = s.countAfter fired) ∧
      ∀ j, 1 ≤ j → j ≤ fired → ¬ Hits s.gCount (s.countAfter j)) ∨
    (after.timerPending = false ∧ after.timerStatus = 0 ∧ s.FirstHit fired)

theorem countAfter_succ (s : Beeper) (fired : Nat) :
    s.countAfter (fired + 1) = s.countAfter fired + 1 := by
  rw [countAfter, countAfter, BitVec.ofNat_add, ← BitVec.add_assoc]
  rfl

theorem counted_expire {s before : Beeper} {fired : Nat} (hcounted : Counted s fired before)
    (hpending : before.timerPending = true) :
    Counted s (fired + 1) { before with timerPending := false }.beeperTimerHandle := by
  obtain ⟨hgCount, ⟨_, hcount, hmissed⟩ | ⟨hstopped, _⟩⟩ := hcounted
  · obtain ⟨hsame, hmiss, hhit⟩ := beeperTimerHandle_spec { before with timerPending := false }
    dsimp only at hsame hmiss hhit
    refine ⟨hsame.trans hgCount, ?_⟩
    -- the count the handler compares is the one of expiry `fired + 1`, if a count is set at all
    have hcompared : Hits before.gCount (before.count + 1) ↔
        Hits s.gCount (s.countAfter (fired + 1)) := by
      rw [countAfter_succ, hgCount]
      apply and_congr_right
      intro hset
      rw [hcount hset]
    by_cases hhits : Hits s.gCount (s.countAfter (fired + 1))
    · obtain ⟨hoff, hstatus⟩ := hhit (hcompared.mpr hhits)
      refine .inr ⟨hoff, hstatus, by omega, hhits, fun j hone hlt => ?_⟩
      exact hmissed j hone (by omega)
    · obtain ⟨hon, _, hnext⟩ := hmiss (hcompared.not.mpr hhits)
      refine .inl ⟨hon, fun hset => ?_, fun j hone hle => ?_⟩
      · rw [hnext (hgCount ▸ hset), hcount hset, countAfter_succ]
      · obtain hlt | rfl := Nat.lt_or_eq_of_le hle
        · exact hmissed j hone (by omega)
        · exact hhits
  · rw [hstopped] at hpending
    cases hpending

theorem expiries_snoc (events : List BeeperEvent) (event : BeeperEvent) :
    expiries (events ++ [event]) =
      expiries events + (match event with | .expire => 1 | _ => 0) := by
  cases event <;> simp [expiries]

/-- The run lemma: without commands only the number of expiries matters. -/
theorem counted_of_run {s after : Beeper} {events : List BeeperEvent}
    (hpending : s.timerPending = true) (hquiet : Quiet events) (hrun : Run step s events after) :
    Counted s (expiries events) after := by
  refine Run.history_invariant (fun passed state => Quiet passed → Counted s (expiries passed) state)
    ?_ hrun ?_ hquiet
  · intro passed before event next hcounted hstep hquiet
    have hpassed : Quiet passed := fun event hmem => hquiet event (List.mem_append_left _ hmem)
    have hcounted := hcounted hpassed
    rw [expiries_snoc]
    obtain rfl | rfl := hquiet event (List.mem_append_right _ (List.mem_singleton.mpr rfl))
    · obtain ⟨hbefore, rfl⟩ := hstep
      exact counted_expire hcounted hbefore
    · obtain ⟨_, rfl⟩ := hstep
      exact ⟨hcounted.gCount, hcounted.status⟩
  · refine fun _ => ⟨rfl, .inl ⟨hpending, fun _ => ?_, fun j hone hle => ?_⟩⟩
    · simp [countAfter, expiries]
    · change j ≤ 0 at hle
      omega

theorem exists_run {s : Beeper} (hpending : s.timerPending = true) {times : Nat}
    (hmissed : ∀ j, 1 ≤ j → j < times → ¬ Hits s.gCount (s.countAfter j)) :
    ∃ events after, Quiet events ∧ Run step s events after ∧ expiries events = times := by
  induction times with
  | zero => exact ⟨[], s, by simp [Quiet], .nil s, rfl⟩
  | succ times ih =>
      obtain ⟨events, before, hquiet, hrun, rfl⟩ := ih fun j hone hlt => hmissed j hone (by omega)
      obtain ⟨_, ⟨hgoing, _⟩ | ⟨_, _, hfirst⟩⟩ := counted_of_run hpending hquiet hrun
      · have hstep : step before .expire { before with timerPending := false }.beeperTimerHandle :=
          ⟨hgoing, rfl⟩
        refine ⟨events ++ [.expire], _, ?_, Run.snoc_iff.mpr ⟨before, hrun, hstep⟩, ?_⟩
        · intro event hmem
          obtain hold | hnew := List.mem_append.mp hmem
          · exact hquiet event hold
          · exact .inl (List.mem_singleton.mp hnew)
        · rw [expiries_snoc]
      · exact absurd hfirst.2.1 (hmissed _ hfirst.1 (by omega))

theorem repeatsExactly_iff {s : Beeper} (hpending : s.timerPending = true) {times : Nat}
    (hpos : 1 ≤ times) : s.RepeatsExactly times ↔ s.FirstHit times := by
  constructor
  · intro hrepeats
    have hmissed : ∀ j, 1 ≤ j → j < times → ¬ Hits s.gCount (s.countAfter j) := by
      intro j
      induction j using Nat.strongRecOn with
      | ind j ih =>
          intro hone hlt hhits
          obtain ⟨events, after, hquiet, hrun, rfl⟩ := exists_run hpending
            fun i hi (hij : i < j) => ih i hij hi (by omega)
          obtain ⟨_, ⟨_, _, hnone⟩ | ⟨hoff, _⟩⟩ := counted_of_run hpending hquiet hrun
          · exact hnone _ hone (Nat.le_refl _) hhits
          · have hon := (hrepeats events after hquiet hrun).2.1.mpr hlt
            rw [hoff] at hon
            cases hon
    obtain ⟨events, after, hquiet, hrun, rfl⟩ := exists_run hpending hmissed
    obtain ⟨_, ⟨hon, _⟩ | ⟨_, _, hfirst⟩⟩ := counted_of_run hpending hquiet hrun
    · have hlt := (hrepeats events after hquiet hrun).2.1.mp hon
      omega
    · exact hfirst
  · intro hgiven events after hquiet hrun
    obtain ⟨_, hhits, hmissed⟩ := hgiven
    obtain ⟨_, ⟨hon, _, hnone⟩ | ⟨hoff, hstatus, hone, hhit, hnone⟩⟩ :=
      counted_of_run hpending hquiet hrun
    · have hlt : expiries events < times := by
        by_contra hge
        exact hnone times hpos (by omega) hhits
      exact ⟨by omega, by simp [hon, hlt], by omega⟩
    · -- stopped, at the one expiry that can be the first to reach the count
      have hle : expiries events ≤ times := by
        by_contra hgt
        exact hnone times hpos (by omega) hhits
      have hge : times ≤ expiries events := by
        by_contra hlt
        exact hmissed _ hone (by omega) hhit
      refine ⟨hle, ?_, fun _ => hstatus⟩
      rw [hoff]
      simpa using hge

theorem repeatsForever_iff {s : Beeper} (hpending : s.timerPending = true) :
    s.RepeatsForever ↔ ∀ j, 1 ≤ j → ¬ Hits s.gCount (s.countAfter j) := by
  constructor
  · intro hforever j
    induction j using Nat.strongRecOn with
    | ind j ih =>
        intro hone hhits
        obtain ⟨events, after, hquiet, hrun, rfl⟩ := exists_run hpending
          fun i hi (hij : i < j) => ih i hij hi
        obtain ⟨_, ⟨_, _, hnone⟩ | ⟨hoff, _⟩⟩ := counted_of_run hpending hquiet hrun
        · exact hnone _ hone (Nat.le_refl _) hhits
        · have hon := hforever events after hquiet hrun
          rw [hoff] at hon
          cases hon
  · intro hmissed events after hquiet hrun
    obtain ⟨_, ⟨hon, _⟩ | ⟨_, _, hone, hhits, _⟩⟩ := counted_of_run hpending hquiet hrun
    · exact hon
    · exact absurd hhits (hmissed _ hone)

/-! ### Where the count is reached -/

theorem toNat_countAfter (s : Beeper) (fired : Nat) :
    (s.countAfter fired).toNat = (s.count.toNat + fired) % 2 ^ 32 := by
  simp only [countAfter, BitVec.toNat_add, BitVec.toNat_ofNat]
  omega

/-- The counts repeat after `2 ^ 32` expiries. -/
theorem countAfter_congr (s : Beeper) {i j : Nat} (hmod : i % 2 ^ 32 = j % 2 ^ 32) :
    s.countAfter i = s.countAfter j := by
  apply BitVec.eq_of_toNat_eq
  rw [toNat_countAfter, toNat_countAfter]
  omega

/-- A sign-extended count is itself below `2^31`, and out of the reach of any `int` above. -/
theorem toNat_signExtend_count (count : BitVec 32) :
    (count.signExtend 64).toNat =
      if count.toNat < 2 ^ 31 then count.toNat else count.toNat + (2 ^ 64 - 2 ^ 32) := by
  have hlt := count.isLt
  rw [BitVec.toNat_signExtend, BitVec.toNat_setWidth, BitVec.msb_eq_decide,
    Nat.mod_eq_of_lt (by omega)]
  by_cases hsmall : count.toNat < 2 ^ 31
  · rw [if_pos hsmall, if_neg (by simpa using hsmall), Nat.add_zero]
  · rw [if_neg hsmall, if_pos (by simpa using hsmall)]

theorem firstHit_iff {s : Beeper} {times : Nat} (hpos : 1 ≤ times)
    (hgCount : s.gCount = BitVec.ofNat 64 times) :
    s.FirstHit times ↔ s.count = 0 ∧ times < 2 ^ 31 := by
  constructor
  · intro hgiven
    obtain ⟨_, ⟨hset, hhits⟩, hmissed⟩ := hgiven
    -- the first hit is among the first `2 ^ 32` expiries
    have hle : times ≤ 2 ^ 32 := by
      by_contra hgt
      apply hmissed (times - 2 ^ 32) (by omega) (by omega)
      have hsame : s.countAfter (times - 2 ^ 32) = s.countAfter times :=
        s.countAfter_congr (by omega)
      rw [hsame]
      exact ⟨hset, hhits⟩
    have hvalue := congrArg BitVec.toNat hhits
    rw [hgCount, BitVec.toNat_ofNat, Nat.mod_eq_of_lt (by omega), toNat_signExtend_count,
      toNat_countAfter] at hvalue
    have hlt := s.count.isLt
    have hzero : s.count.toNat = 0 ∧ times < 2 ^ 31 := by
      split at hvalue <;> omega
    exact ⟨BitVec.eq_of_toNat_eq (by simpa using hzero.1), hzero.2⟩
  · intro hgiven
    obtain ⟨hzero, hlt⟩ := hgiven
    have hvalue : ∀ j, j < 2 ^ 31 → ((s.countAfter j).signExtend 64).toNat = j := by
      intro j hj
      have hj : (s.countAfter j).toNat = j := by
        rw [toNat_countAfter, hzero]
        simp
        omega
      rw [toNat_signExtend_count, hj, if_pos (by omega)]
    have hset : s.gCount.toNat = times := by
      rw [hgCount, BitVec.toNat_ofNat, Nat.mod_eq_of_lt (by omega)]
    refine ⟨hpos, ⟨?_, BitVec.eq_of_toNat_eq (by rw [hset, hvalue _ hlt])⟩, ?_⟩
    · intro hnone
      rw [hnone] at hset
      simp at hset
      omega
    · intro j _ hj hgiven
      obtain ⟨_, hhits⟩ := hgiven
      have hsame := congrArg BitVec.toNat hhits
      rw [hset, hvalue j (by omega)] at hsame
      omega

theorem never_hits_iff (s : Beeper) :
    (∀ j, 1 ≤ j → ¬ Hits s.gCount (s.countAfter j)) ↔
      s.gCount = 0 ∨ ∀ count : BitVec 32, s.gCount ≠ count.signExtend 64 := by
  constructor
  · intro hmissed
    by_contra hneither
    rw [not_or, not_forall] at hneither
    obtain ⟨hset, count, hcount⟩ := hneither
    -- the expiry at which the count comes to `count`
    obtain ⟨j, hone, hj⟩ : ∃ j, 1 ≤ j ∧ s.countAfter j = count := by
      obtain ⟨j, hone, hmod⟩ : ∃ j, 1 ≤ j ∧ j % 2 ^ 32 = (count - s.count).toNat % 2 ^ 32 :=
        ⟨(count - s.count).toNat + 2 ^ 32, by omega, by omega⟩
      refine ⟨j, hone, ?_⟩
      rw [s.countAfter_congr hmod, countAfter, BitVec.ofNat_toNat, BitVec.setWidth_eq,
        BitVec.add_comm, BitVec.sub_add_cancel]
    exact hmissed j hone ⟨hset, by rw [hj]; exact not_not.mp hcount⟩
  · rintro (hnone | hnever) j _ ⟨hset, hhits⟩
    · exact hset hnone
    · exact hnever _ hhits

/-! ### The two commands -/

theorem timerCommand_cases (s : Beeper) (buf : List UInt8) :
    s.timerCommand buf = (s, eFault) ∨
      ∃ delayOff delayOn, s.timerCommand buf = ({ s with delayOff, delayOn }.startTimer, 0) := by
  rw [timerCommand]
  split
  · dsimp only
    split
    · exact .inr ⟨_, _, rfl⟩
    · exact .inl rfl
  · exact .inl rfl

theorem repCommand_cases (s : Beeper) (buf : List UInt8) :
    s.repCommand buf = (s, eFault) ∨
      ∃ delayOff delayOn gCount,
        s.repCommand buf = ({ s with delayOff, delayOn, gCount }.startTimer, 0) := by
  rw [repCommand]
  split
  · dsimp only
    split
    · exact .inr ⟨_, _, _, rfl⟩
    · exact .inl rfl
  · exact .inl rfl

/-- Everything a command can do: fail, set the boot flag, stop the timer and set the beeper, or start the timer. -/
theorem beeperCommand_cases (s : Beeper) (buf : List UInt8) :
    (∃ result, s.beeperCommand buf = (s, result) ∧ result < 0) ∨
      (∃ bootByte, s.beeperCommand buf = ({ s with bootByte }, 0)) ∨
      (∃ dat, s.beeperCommand buf = ({ s.delTimer with timerStatus := 0 }.setBeeper dat, 0)) ∨
      ∃ delayOff delayOn gCount,
        s.beeperCommand buf = ({ s with delayOff, delayOn, gCount }.startTimer, 0) := by
  generalize hcommand : s.beeperCommand buf = command
  rw [beeperCommand] at hcommand
  split at hcommand
  · exact .inr (.inl ⟨_, hcommand.symm⟩)
  split at hcommand
  · exact .inr (.inl ⟨_, hcommand.symm⟩)
  split at hcommand
  · exact .inr (.inr (.inl ⟨_, hcommand.symm⟩))
  split at hcommand
  · exact .inr (.inr (.inl ⟨_, hcommand.symm⟩))
  split at hcommand
  · exact .inr (.inr (.inl ⟨_, hcommand.symm⟩))
  split at hcommand
  · obtain hfault | ⟨delayOff, delayOn, hstart⟩ := timerCommand_cases s buf
    · exact .inl ⟨eFault, hcommand.symm.trans hfault, by decide⟩
    · exact .inr (.inr (.inr ⟨delayOff, delayOn, s.gCount, hcommand.symm.trans hstart⟩))
  split at hcommand
  · obtain hfault | ⟨delayOff, delayOn, gCount, hstart⟩ := repCommand_cases s buf
    · exact .inl ⟨eFault, hcommand.symm.trans hfault, by decide⟩
    · exact .inr (.inr (.inr ⟨delayOff, delayOn, gCount, hcommand.symm.trans hstart⟩))
  · exact .inl ⟨eInval, hcommand.symm, by decide⟩

theorem beeperWrite_accepted {s after : Beeper} {buffer : List UInt8} {copied : Bool}
    (haccepted : s.beeperWrite buffer copied = (after, (buffer.length : Int))) :
    s.beeperCommand (beeperText buffer) = (after, 0) := by
  have hresult : (s.beeperCommand (beeperText buffer)).2 ≤ 0 := by
    obtain ⟨result, heq, hneg⟩ | ⟨_, heq⟩ | ⟨_, heq⟩ | ⟨_, _, _, heq⟩ :=
      beeperCommand_cases s (beeperText buffer)
    · rw [heq]
      exact hneg.le
    all_goals rw [heq]
  rw [beeperWrite] at haccepted
  split at haccepted
  · have hret : eInval = buffer.length := (Prod.mk.inj haccepted).2
    simp only [eInval] at hret
    omega
  · split at haccepted
    · have hret : eFault = buffer.length := (Prod.mk.inj haccepted).2
      simp only [eFault] at hret
      omega
    · cases hcommand : s.beeperCommand (beeperText buffer) with
      | mk s' result =>
        rw [hcommand] at haccepted hresult
        obtain ⟨rfl, hret⟩ := Prod.mk.inj haccepted
        dsimp only at hret hresult
        split at hret <;> simp <;> omega

theorem beeperCommand_numbers (s : Beeper) {buf : List UInt8}
    (hhead : buf.headD 0 = 114 ∨ buf.headD 0 = 116) :
    s.beeperCommand buf =
      if strncmp buf (ascii "timer ") 6 = 0 then s.timerCommand buf
      else if strncmp buf (ascii "rep ") 3 = 0 then s.repCommand buf
      else (s, eInval) := by
  have hother : ∀ (text : String) (n : Nat),
      (ascii text).headD 0 ≠ 114 ∧ (ascii text).headD 0 ≠ 116 →
        strncmp buf (ascii text) (n + 1) ≠ 0 := by
    intro text n hgiven hequal
    obtain ⟨hr, ht⟩ := hgiven
    have hsame := headD_eq_of_strncmp hequal
    obtain hhead | hhead := hhead
    · exact hr (hsame.symm.trans hhead)
    · exact ht (hsame.symm.trans hhead)
  rw [beeperCommand]
  rw [if_neg (not_or.mpr ⟨hother "booton" 5 (by decide), hother "BOOTON" 5 (by decide)⟩),
    if_neg (not_or.mpr ⟨hother "bootoff" 6 (by decide), hother "BOOTOFF" 6 (by decide)⟩),
    if_neg (not_or.mpr ⟨hother "on" 2 (by decide), hother "ON" 2 (by decide)⟩),
    if_neg (not_or.mpr ⟨hother "off" 3 (by decide), hother "OFF" 3 (by decide)⟩),
    if_neg (not_or.mpr ⟨hother "one" 3 (by decide), hother "ONE" 3 (by decide)⟩)]

theorem beeperWrite_rep {s after : Beeper} {buffer : List UInt8} {copied : Bool}
    {times off on : Int} (hrep : IsRep buffer times off on)
    (haccepted : s.beeperWrite buffer copied = (after, (buffer.length : Int))) :
    after = { s with
      delayOff := .ofInt 64 off
      delayOn := .ofInt 64 on
      gCount := .ofInt 64 times }.startTimer := by
  obtain ⟨hequal, hscan⟩ := hrep
  have hhead : (beeperText buffer).headD 0 = 114 := headD_eq_of_strncmp hequal
  have htimer : strncmp (beeperText buffer) (ascii "timer ") 6 ≠ 0 := by
    intro htimer
    have hother : (beeperText buffer).headD 0 = 116 := headD_eq_of_strncmp htimer
    rw [hhead] at hother
    cases hother
  have hcommand := beeperWrite_accepted haccepted
  rw [beeperCommand_numbers s (.inl hhead), if_neg htimer, if_pos hequal, repCommand, hscan] at hcommand
  dsimp only at hcommand
  split at hcommand
  · exact (Prod.mk.inj hcommand).1.symm
  · cases (Prod.mk.inj hcommand).2

theorem beeperWrite_timer {s after : Beeper} {buffer : List UInt8} {copied : Bool} {off on : Int}
    (htimer : IsTimer buffer off on)
    (haccepted : s.beeperWrite buffer copied = (after, (buffer.length : Int))) :
    after = { s with delayOff := .ofInt 64 off, delayOn := .ofInt 64 on }.startTimer := by
  obtain ⟨hequal, hscan⟩ := htimer
  have hhead : (beeperText buffer).headD 0 = 116 := headD_eq_of_strncmp hequal
  have hcommand := beeperWrite_accepted haccepted
  rw [beeperCommand_numbers s (.inr hhead), if_pos hequal, timerCommand, hscan] at hcommand
  dsimp only at hcommand
  split at hcommand
  · exact (Prod.mk.inj hcommand).1.symm
  · cases (Prod.mk.inj hcommand).2

/-! ### Whole histories -/

/-- The flag says whether the timer is pending. -/
def Armed (s : Beeper) : Prop := s.timerStatus = 0 ↔ s.timerPending = false

theorem startTimer_pending {s : Beeper} (harmed : s.Armed) : s.startTimer.timerPending = true := by
  rw [startTimer]
  split
  · rfl
  · next hset => simpa using harmed.not.mp hset

theorem startTimer_armed {s : Beeper} (harmed : s.Armed) : s.startTimer.Armed := by
  rw [startTimer]
  split
  · simp [Armed, addTimer]
  · exact harmed

theorem setBeeper_armed {s : Beeper} (harmed : s.Armed) (dat : Nat) : (s.setBeeper dat).Armed := by
  rw [setBeeper]
  split
  · exact harmed
  split
  · exact harmed
  split
  · exact harmed
  · exact harmed

theorem beeperCommand_armed {s : Beeper} (harmed : s.Armed) (buf : List UInt8) :
    (s.beeperCommand buf).1.Armed := by
  obtain ⟨_, heq, _⟩ | ⟨_, heq⟩ | ⟨dat, heq⟩ | ⟨_, _, _, heq⟩ := beeperCommand_cases s buf
  · rw [heq]
    exact harmed
  · rw [heq]
    exact harmed
  · rw [heq]
    exact setBeeper_armed (by simp [Armed, delTimer]) dat
  · rw [heq]
    exact startTimer_armed harmed

theorem beeperWrite_armed {s : Beeper} (harmed : s.Armed) (buffer : List UInt8) (copied : Bool) :
    (s.beeperWrite buffer copied).1.Armed := by
  rw [beeperWrite]
  split
  · exact harmed
  split
  · exact harmed
  · exact beeperCommand_armed harmed (beeperText buffer)

theorem beeperTimerHandle_armed {s : Beeper} (hset : s.timerStatus ≠ 0) :
    s.beeperTimerHandle.Armed := by
  obtain ⟨_, hmiss, hhit⟩ := beeperTimerHandle_spec s
  by_cases hhits : Hits s.gCount (s.count + 1)
  · obtain ⟨hoff, hstatus⟩ := hhit hhits
    simp [Armed, hoff, hstatus]
  · obtain ⟨hon, hstatus, _⟩ := hmiss hhits
    simpa [Armed, hon, hstatus] using hset

theorem step_armed {before after : Beeper} {event : BeeperEvent} (harmed : before.Armed)
    (hstep : step before event after) : after.Armed := by
  cases event with
  | write buffer copied ret =>
      have hafter : (before.beeperWrite buffer copied).1 = after := congrArg Prod.fst hstep
      exact hafter ▸ beeperWrite_armed harmed buffer copied
  | expire =>
      obtain ⟨hpending, rfl⟩ := hstep
      apply beeperTimerHandle_armed
      intro hnone
      have hoff := harmed.mp hnone
      rw [hpending] at hoff
      cases hoff
  | work =>
      obtain ⟨_, rfl⟩ := hstep
      exact harmed

/-- After any history, an accepted `rep` with `N ≥ 1` repeats exactly `N` times exactly if the hidden count is 0 and `N` fits an `int`, and an accepted `timer` beeps for ever exactly if the `g_count` an earlier `rep` left is 0 or no `int`. -/
theorem beeper_counts_honoured {bootByte : UInt8} {on : Bool} {history : List BeeperEvent}
    {s after : Beeper} (hrun : Run step (initial bootByte on) history s)
    {buffer : List UInt8} {copied : Bool}
    (haccepted : step s (.write buffer copied buffer.length) after) :
    (∀ times delayOff delayOn, IsRep buffer times delayOff delayOn → 1 ≤ times →
      (after.RepeatsExactly times.toNat ↔ s.count = 0 ∧ times < 2 ^ 31)) ∧
    (∀ delayOff delayOn, IsTimer buffer delayOff delayOn →
      (after.RepeatsForever ↔
        s.gCount = 0 ∨ ∀ count : BitVec 32, s.gCount ≠ count.signExtend 64)) := by
  have harmed : s.Armed := hrun.invariant (fun _ _ _ harmed hstep => step_armed harmed hstep)
    (by simp [Armed, initial])
  have hkept : ∀ s : Beeper, s.startTimer.count = s.count ∧ s.startTimer.gCount = s.gCount := by
    intro s
    rw [startTimer]
    split <;> exact ⟨rfl, rfl⟩
  constructor
  · intro times delayOff delayOn hrep hpos
    have hafter := beeperWrite_rep hrep haccepted
    have hpending : after.timerPending = true := hafter ▸ startTimer_pending harmed
    have hgCount : after.gCount = BitVec.ofNat 64 times.toNat := by
      rw [hafter, (hkept _).2, ← BitVec.ofInt_natCast, Int.toNat_of_nonneg (by omega)]
    rw [repeatsExactly_iff hpending (by omega), firstHit_iff (by omega) hgCount, hafter, (hkept _).1]
    apply and_congr_right
    intro _
    omega
  · intro delayOff delayOn htimer
    have hafter := beeperWrite_timer htimer haccepted
    have hpending : after.timerPending = true := hafter ▸ startTimer_pending harmed
    rw [repeatsForever_iff hpending, never_hits_iff, hafter, (hkept _).2]

/-- The first repetition after the module is loaded. -/
theorem beeper_counts_honoured_first : ∃ after,
    step (initial 0 false) (.write (ascii "rep 3 20 20") true 11) after ∧
      after.RepeatsExactly 3 := by
  have haccepted : step (initial 0 false) (.write (ascii "rep 3 20 20") true 11)
      ((initial 0 false).beeperWrite (ascii "rep 3 20 20") true).1 := rfl
  have hrep : IsRep (ascii "rep 3 20 20") 3 20 20 := ⟨by decide, by decide⟩
  refine ⟨_, haccepted, ?_⟩
  exact ((beeper_counts_honoured (.nil _) haccepted).1 3 20 20 hrep (by decide)).mpr
    ⟨rfl, by decide⟩

/-- A repetition cut short by `off` after two of its five beeps takes two from the next one. -/
theorem beeper_counts_not_honoured : ¬ ∀ (history : List BeeperEvent) (s after : Beeper)
    (buffer : List UInt8) (times delayOff delayOn : Int),
    Run step (initial 0 false) history s → step s (.write buffer true buffer.length) after →
      IsRep buffer times delayOff delayOn → 1 ≤ times → 20 ≤ delayOff ∧ delayOff ≤ 99999 →
        20 ≤ delayOn ∧ delayOn ≤ 99999 → after.RepeatsExactly times.toNat := by
  intro halways
  obtain ⟨s, after, hrun, haccepted, hafter⟩ : ∃ s after, Run step (initial 0 false)
      [.write (ascii "rep 5 20 20") true 11, .expire, .expire, .write (ascii "off") true 3] s ∧
      step s (.write (ascii "rep 5 20 20") true 11) after ∧
      ∃ last, Run step after [.expire, .expire, .expire] last ∧ last.timerPending = false :=
    ⟨_, _, .cons rfl <| .cons ⟨rfl, rfl⟩ <| .cons ⟨rfl, rfl⟩ <| .single rfl, rfl,
      _, .cons ⟨rfl, rfl⟩ <| .cons ⟨rfl, rfl⟩ <| .single ⟨rfl, rfl⟩, rfl⟩
  obtain ⟨last, hthree, hstopped⟩ := hafter
  have hrepeats := halways _ s after (ascii "rep 5 20 20") 5 20 20 hrun haccepted
    ⟨by decide, by decide⟩ (by decide) (by decide) (by decide)
  have hpending := (hrepeats _ last (by simp [Quiet]) hthree).2.1.mpr (by decide)
  rw [hstopped] at hpending
  cases hpending

end FrontPanel.Sio.Beeper
