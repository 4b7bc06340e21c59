import FrontPanel.Sio.Button
import Mathlib.Data.List.Induction

/-!
# One press for every hold

The count in `seen` goes up by one with every active sample, stops at 1200 and starts over after the first sample that is not active. The press is reported at one particular value of it, which lies below 1200, so a hold passes that value at most once however long it lasts, and every hold counts from zero, whatever the earlier ones did. The other button reports its own key and no other.
-/

namespace FrontPanel.Sio

/-! ### Holds -/

/-- The number of active samples a sequence ends with. -/
def holdLength (held : Sample → Bool) (samples : List Sample) : Nat :=
  (samples.reverse.takeWhile held).length

/-- `run` is a maximal run of active samples, between `past` and `later`. -/
structure IsHold (held : Sample → Bool) (past run later : List Sample) : Prop where
  active : ∀ sample ∈ run, held sample = true
  starts : ∀ sample, past.getLast? = some sample → held sample = false
  ends : ∀ sample, later.head? = some sample → held sample = false

theorem holdLength_snoc (held : Sample → Bool) (samples : List Sample) (sample : Sample) :
    holdLength held (samples ++ [sample]) =
      if held sample then holdLength held samples + 1 else 0 := by
  rw [holdLength, List.reverse_append, List.reverse_singleton, List.singleton_append,
    List.takeWhile_cons]
  split
  · rfl
  · rfl

theorem holdLength_run {held : Sample → Bool} {past run : List Sample}
    (hactive : ∀ sample ∈ run, held sample = true)
    (hstarts : ∀ sample, past.getLast? = some sample → held sample = false) :
    holdLength held (past ++ run) = run.length := by
  induction run using List.reverseRecOn with
  | nil =>
      rw [List.append_nil]
      obtain rfl | ⟨earlier, last, rfl⟩ := past.eq_nil_or_concat'
      · rfl
      · have hfree := hstarts last List.getLast?_concat
        rw [holdLength_snoc, hfree]
        rfl
  | append_singleton run sample ih =>
      have hheld := hactive sample (by simp)
      have hrun := ih fun other hmem => hactive other (List.mem_append_left _ hmem)
      rw [← List.append_assoc, holdLength_snoc, if_pos hheld, hrun, List.length_append]
      rfl

/-! ### What a pass reports -/

theorem btnFree_reports (btn : BtnInfo) (val code : Nat) : (code, 1) ∉ (btnFree btn val).2 := by
  rw [btnFree]
  split
  next btn' reports heq =>
  split at heq
  · split at heq
    all_goals
      obtain ⟨rfl, rfl⟩ := Prod.mk.inj heq
      simp
  · split at heq
    all_goals
      obtain ⟨rfl, rfl⟩ := Prod.mk.inj heq
      simp

/-- The presses of a key reported so far. -/
def Keys.presses (keys : Keys) (code : Nat) : Nat := keys.reports.count (code, 1)

theorem btnPass_presses {product : String} {btn : BtnInfo} {reg : BitVec 32}
    (hcode : btn.code = keyF20 ∨ btn.code = keyF24) (hbase : btn.base = true) :
    (btnPass product btn reg).2.count (btn.code, 1) =
      if isHeld btn reg = true ∧ btn.seen < 1200 ∧ btn.seen + 1 = pressAt product btn.code then 1
      else 0 := by
  by_cases hlevel : btnLevel btn reg = btn.active
  · have hpass : (btnPass product btn reg).2 = (btnHeld product btn).2 := by
      simp [btnPass, hbase, hlevel]
    have hheld : isHeld btn reg = true := decide_eq_true hlevel
    rw [hpass, btnHeld_eq product hcode]
    simp only [hheld, true_and]
    split
    · exact List.count_singleton_self
    · rfl
  · have hpass : (btnPass product btn reg).2 = (btnFree btn (btnLevel btn reg)).2 := by
      simp [btnPass, hbase, hlevel]
    have hfree : isHeld btn reg ≠ true := fun hheld => hlevel (of_decide_eq_true hheld)
    rw [hpass, if_neg fun hgiven => hfree hgiven.1]
    exact List.count_eq_zero.mpr (btnFree_reports btn _ _)

theorem btnPass_other {product : String} {btn : BtnInfo} {reg : BitVec 32} {code : Nat}
    (hother : btn.code ≠ code) : (btnPass product btn reg).2.count (code, 1) = 0 := by
  refine List.count_eq_zero.mpr fun hmem => ?_
  obtain ⟨hnone, -⟩ | hone := (btnPass_accounts product btn reg).reports
  · rw [hnone] at hmem
    cases hmem
  · rw [hone] at hmem
    exact hother (Prod.mk.inj (List.mem_singleton.mp hmem)).1.symm

/-! ### Both buttons over a whole run -/

/-- What no sample changes of a button. -/
structure SameButton (before after : BtnInfo) : Prop where
  code : after.code = before.code
  shift : after.shift = before.shift
  base : after.base = before.base
  active : after.active = before.active

theorem SameButton.isHeld {before after : BtnInfo} (hsame : SameButton before after)
    (reg : BitVec 32) : isHeld after reg = isHeld before reg := by
  rw [FrontPanel.Sio.isHeld, FrontPanel.Sio.isHeld, btnLevel, btnLevel, hsame.shift, hsame.active]

theorem btnMonitor_button (product : String) (keys : Keys) (sample : Sample) (i : Fin 2) :
    (btnMonitor product keys sample).btnSatate i =
      (btnPass product (keys.btnSatate i) (sample i)).1 := by
  match i with
  | 0 => rfl
  | 1 => rfl

theorem btnMonitorAll_snoc (product : String) (keys : Keys) (samples : List Sample)
    (sample : Sample) : btnMonitorAll product keys (samples ++ [sample]) =
      btnMonitor product (btnMonitorAll product keys samples) sample := by
  rw [btnMonitorAll, List.foldl_append]
  rfl

theorem btnMonitorAll_same (product : String) (keys : Keys) (i : Fin 2) (samples : List Sample) :
    SameButton (keys.btnSatate i) ((btnMonitorAll product keys samples).btnSatate i) := by
  induction samples using List.reverseRecOn with
  | nil => exact ⟨rfl, rfl, rfl, rfl⟩
  | append_singleton samples sample ih =>
      rw [btnMonitorAll_snoc, btnMonitor_button]
      obtain ⟨⟨seen, prestate, lastReport, hbutton⟩, -⟩ := btnPass_accounts product
        ((btnMonitorAll product keys samples).btnSatate i) (sample i)
      rw [hbutton]
      exact ⟨ih.code, ih.shift, ih.base, ih.active⟩

theorem btnMonitorAll_configured {keys : Keys} (hconfigured : keys.Configured) (product : String)
    (samples : List Sample) : (btnMonitorAll product keys samples).Configured := by
  have hcode : ∀ i, ((btnMonitorAll product keys samples).btnSatate i).code =
      (keys.btnSatate i).code := fun i => (btnMonitorAll_same product keys i samples).code
  refine ⟨fun i => ?_, fun i j hne => ?_⟩
  · rw [hcode]
    exact hconfigured.code i
  · rw [hcode, hcode]
    exact hconfigured.distinct i j hne

/-- After any samples `seen` is the length of the hold, up to its limit. -/
theorem btnMonitorAll_seen {product : String} {keys : Keys} (i : Fin 2)
    (hcode : (keys.btnSatate i).code = keyF20 ∨ (keys.btnSatate i).code = keyF24)
    (hbase : (keys.btnSatate i).base = true) (hseen : (keys.btnSatate i).seen = 0)
    (samples : List Sample) :
    ((btnMonitorAll product keys samples).btnSatate i).seen =
      min (holdLength (fun sample => isHeld (keys.btnSatate i) (sample i)) samples) 1200 := by
  induction samples using List.reverseRecOn with
  | nil => exact hseen
  | append_singleton samples sample ih =>
      have hsame := btnMonitorAll_same product keys i samples
      rw [btnMonitorAll_snoc, btnMonitor_button, holdLength_snoc, ← hsame.isHeld]
      generalize (btnMonitorAll product keys samples).btnSatate i = btn at hsame ih
      have hbase' : btn.base = true := hsame.base.trans hbase
      by_cases hlevel : btnLevel btn (sample i) = btn.active
      · have hpass : (btnPass product btn (sample i)).1.seen = (btnHeld product btn).1.seen := by
          simp [btnPass, hbase', hlevel]
        have hheld : isHeld btn (sample i) = true := decide_eq_true hlevel
        rw [hpass, btnHeld_eq product (hsame.code ▸ hcode), if_pos hheld]
        dsimp only
        split <;> omega
      · have hpass : (btnPass product btn (sample i)).1.seen =
            (btnFree btn (btnLevel btn (sample i))).1.seen := by
          simp [btnPass, hbase', hlevel]
        have hfree : isHeld btn (sample i) ≠ true := fun hheld => hlevel (of_decide_eq_true hheld)
        rw [hpass, btnFree_eq, if_neg hfree]
        rfl

theorem btnMonitor_presses {product : String} {keys : Keys} (hconfigured : keys.Configured)
    (i : Fin 2) (hbase : (keys.btnSatate i).base = true) (sample : Sample) :
    (btnMonitor product keys sample).presses (keys.btnSatate i).code =
      keys.presses (keys.btnSatate i).code +
        if isHeld (keys.btnSatate i) (sample i) = true ∧ (keys.btnSatate i).seen < 1200 ∧
          (keys.btnSatate i).seen + 1 = pressAt product (keys.btnSatate i).code then 1 else 0 := by
  have hreports : (btnMonitor product keys sample).reports = keys.reports ++
      (btnPass product (keys.btnSatate 0) (sample 0)).2 ++
      (btnPass product (keys.btnSatate 1) (sample 1)).2 := rfl
  rw [Keys.presses, Keys.presses, hreports, List.count_append, List.count_append,
    ← btnPass_presses (hconfigured.code i) hbase]
  match i with
  | 0 =>
      rw [btnPass_other (hconfigured.distinct 1 0 (by decide))]
      rfl
  | 1 =>
      rw [btnPass_other (hconfigured.distinct 0 1 (by decide))]
      rfl

/-- The presses of a button's key after some samples. -/
def pressesAfter (product : String) (keys : Keys) (i : Fin 2) (samples : List Sample) : Nat :=
  (btnMonitorAll product keys samples).presses (keys.btnSatate i).code

/-- Within a hold, the sample whose number is the press length reports a press, and no other does. -/
theorem pressesAfter_hold {product : String} {keys : Keys} (hconfigured : keys.Configured)
    (i : Fin 2) (hbase : (keys.btnSatate i).base = true) (hseen : (keys.btnSatate i).seen = 0)
    {past before : List Sample} {sample : Sample}
    (hactive : ∀ other ∈ before ++ [sample], isHeld (keys.btnSatate i) (other i) = true)
    (hstarts : ∀ last, past.getLast? = some last → isHeld (keys.btnSatate i) (last i) = false) :
    pressesAfter product keys i (past ++ before ++ [sample]) =
      pressesAfter product keys i (past ++ before) +
        if before.length + 1 = pressAt product (keys.btnSatate i).code then 1 else 0 := by
  have hsame := btnMonitorAll_same product keys i (past ++ before)
  have hlength : holdLength (fun sample => isHeld (keys.btnSatate i) (sample i)) (past ++ before) =
      before.length :=
    holdLength_run (fun other hmem => hactive other (List.mem_append_left _ hmem)) hstarts
  have hcount : ((btnMonitorAll product keys (past ++ before)).btnSatate i).seen =
      min before.length 1200 := by
    rw [btnMonitorAll_seen i (hconfigured.code i) hbase hseen, hlength]
  have hheld : isHeld ((btnMonitorAll product keys (past ++ before)).btnSatate i) (sample i) =
      true := (hsame.isHeld _).trans (hactive sample (by simp))
  have hbounds := pressAt_bounds product (keys.btnSatate i).code
  have hconfigured' := btnMonitorAll_configured hconfigured product (past ++ before)
  have hpresses := @btnMonitor_presses product _ hconfigured' i (hsame.base.trans hbase) sample
  rw [hsame.code, hheld, hcount] at hpresses
  rw [pressesAfter, pressesAfter, btnMonitorAll_snoc, hpresses]
  refine congrArg _ (if_congr ⟨fun hgiven => ?_, fun hlength => ⟨rfl, ?_⟩⟩ rfl rfl)
  · obtain ⟨-, hgiven⟩ := hgiven
    omega
  · omega

/-- Within every maximal run of active samples of a button, its key is pressed exactly at the sample whose number is the press length: once if the run is that long, and not at all if it is shorter. -/
theorem one_press_per_hold {product : String} {keys : Keys} (hconfigured : keys.Configured)
    (i : Fin 2) (hbase : (keys.btnSatate i).base = true) (hseen : (keys.btnSatate i).seen = 0)
    {past run later : List Sample}
    (hhold : IsHold (fun sample => isHeld (keys.btnSatate i) (sample i)) past run later) :
    (∀ before sample after, run = before ++ sample :: after →
      pressesAfter product keys i (past ++ before ++ [sample]) =
        pressesAfter product keys i (past ++ before) +
          if before.length + 1 = pressAt product (keys.btnSatate i).code then 1 else 0) ∧
    pressesAfter product keys i (past ++ run) = pressesAfter product keys i past +
      if pressAt product (keys.btnSatate i).code ≤ run.length then 1 else 0 := by
  have hsample : ∀ before sample after, run = before ++ sample :: after →
      pressesAfter product keys i (past ++ before ++ [sample]) =
        pressesAfter product keys i (past ++ before) +
          if before.length + 1 = pressAt product (keys.btnSatate i).code then 1 else 0 := by
    intro before sample after hrun
    refine pressesAfter_hold hconfigured i hbase hseen (fun other hmem => ?_) hhold.starts
    refine hhold.active other ?_
    rw [hrun]
    obtain hold | hnew := List.mem_append.mp hmem
    · exact List.mem_append_left _ hold
    · rw [List.mem_singleton.mp hnew]
      exact List.mem_append_right _ List.mem_cons_self
  refine ⟨hsample, ?_⟩
  -- how much of the run has passed
  suffices hpassed : ∀ before after, run = before ++ after →
      pressesAfter product keys i (past ++ before) = pressesAfter product keys i past +
        if pressAt product (keys.btnSatate i).code ≤ before.length then 1 else 0 by
    exact hpassed run [] (List.append_nil _).symm
  have hbounds := pressAt_bounds product (keys.btnSatate i).code
  intro before
  induction before using List.reverseRecOn with
  | nil =>
      intro _ _
      rw [List.append_nil, List.length_nil, if_neg (by omega)]
      rfl
  | append_singleton before sample ih =>
      intro after hrun
      have hrun' : run = before ++ sample :: after := by simpa using hrun
      rw [← List.append_assoc, hsample before sample after hrun', ih (sample :: after) hrun',
        List.length_append, List.length_singleton]
      split_ifs <;> omega

/-- The power key of the DXP4800 is touched twice, for two samples and for one: the first touch presses it at its first sample. -/
theorem one_press_per_hold_dxp4800 :
    pressesAfter "DXP4800" dxp4800 0 [fun _ => 2, fun _ => 2] = 1 := by
  have hconfigured : dxp4800.Configured := ⟨by decide, by decide⟩
  have hhold : IsHold (fun sample => isHeld (dxp4800.btnSatate 0) (sample 0)) []
      [fun _ => 2, fun _ => 2] [fun _ => 0, fun _ => 2] := by
    refine ⟨fun sample hmem => ?_, nofun, fun sample hsample => ?_⟩
    · have hsame : sample = fun _ => 2 := by simpa using hmem
      rw [hsame]
      rfl
    · rw [← Option.some.inj hsample]
      rfl
  have hpresses : pressesAfter "DXP4800" dxp4800 0 ([] ++ [fun _ => 2, fun _ => 2]) =
      pressesAfter "DXP4800" dxp4800 0 [] +
        if pressAt "DXP4800" (dxp4800.btnSatate 0).code ≤ 2 then 1 else 0 :=
    (one_press_per_hold hconfigured 0 rfl rfl hhold).2
  rw [List.nil_append] at hpresses
  rw [hpresses]
  decide

end FrontPanel.Sio
