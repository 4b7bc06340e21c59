import FrontPanel.Lib.Checksum
import FrontPanel.Lib.Run
import FrontPanel.Touch.Report
import Mathlib.Data.UInt

/-!
# A report with one byte wrong

The last byte of a report is the sum of the ones before it. A report that was accepted and then lost one byte, be it a summed byte or the sum, no longer adds up, and the interrupt that delivers it stops at the check: of the driver data only the raw buffer is written.
-/

namespace FrontPanel.Touch

/-- The two reports differ in exactly one of their first `size` bytes. -/
def DifferInOneByte (size : Nat) (good bad : Report) : Prop :=
  ∃ i < size, bad i ≠ good i ∧ ∀ j < size, j ≠ i → bad j = good j

section Sum

variable {config : AxsConfig} {good bad : Report}

theorem crcSum_eq_checksum (hsize : config.pntBufSize - 1 ≤ 255) (buf : Report) :
    crcSum config buf = some (checksum id ((List.range (config.pntBufSize - 1)).map buf)) := by
  rw [crcSum, if_pos hsize, checksum, List.foldl_map]
  rfl

theorem le_of_crcSum {sum : UInt8} (hsum : crcSum config good = some sum) :
    config.pntBufSize - 1 ≤ 255 := by
  rw [crcSum] at hsum
  split at hsum
  · assumption
  · cases hsum

theorem map_range_set {count i : Nat} (hsame : ∀ j < count, j ≠ i → bad j = good j) :
    (List.range count).map bad = ((List.range count).map good).set i (bad i) := by
  apply List.ext_getElem
  · rw [List.length_set, List.length_map, List.length_map]
  · intro j hj _
    have hcount : j < count := by simpa using hj
    rw [List.getElem_set, List.getElem_map, List.getElem_map, List.getElem_range]
    by_cases hij : i = j
    · rw [if_pos hij, hij]
    · rw [if_neg hij]
      exact hsame j hcount (Ne.symm hij)

/-- A summed byte cannot change without the sum, nor the sum without a summed byte. -/
theorem crcSum_corrupted (hgood : crcSum config good = some (good (config.pntBufSize - 1)))
    (hbad : DifferInOneByte config.pntBufSize good bad) :
    ∃ sum, crcSum config bad = some sum ∧ sum ≠ bad (config.pntBufSize - 1) := by
  have hsize := le_of_crcSum hgood
  have hlast : config.pntBufSize - 1 < config.pntBufSize := by
    have hroom := config.hasRoom
    omega
  rw [crcSum_eq_checksum hsize, Option.some.injEq] at hgood
  refine ⟨_, crcSum_eq_checksum hsize bad, ?_⟩
  obtain ⟨i, hi, hchanged, hsame⟩ := hbad
  have hbytes := @map_range_set good bad (config.pntBufSize - 1) i fun j hj =>
    hsame j (Nat.lt_trans hj hlast)
  rw [hbytes]
  by_cases hsummed : i < config.pntBufSize - 1
  · rw [hsame _ hlast (Nat.ne_of_gt hsummed), ← hgood]
    refine checksum_set_ne Function.injective_id ?_ ?_
    · simpa using hsummed
    · simpa using hchanged
  · obtain rfl : i = config.pntBufSize - 1 := by omega
    rw [List.set_eq_of_length_le (by simp), hgood]
    exact Ne.symm hchanged

end Sum

/-! ### The interrupt -/

/-- Before the check only the raw buffer is written. -/
theorem axsTsInterrupt_rejected {config : AxsConfig} (data : AxsTsData) {bus : BusRead} {sum : UInt8}
    (hsum : crcSum config bus.buf = some sum) (hne : sum ≠ bus.buf (config.pntBufSize - 1)) :
    axsTsInterrupt config data bus =
      some (if data.fwLoading then data else { data with pointBuf := bus.buf }) := by
  rw [axsTsInterrupt]
  split
  · rfl
  · rw [axsTsReportThreadHandler, axsReadParseTouchdata, axsReadTouchdata]
    by_cases hret : bus.ret < 0
    · have hzero : bus.ret ≠ 0 := Int.ne_of_lt hret
      simp [hret, hzero]
    · simp [hret, hsum, hne]

theorem axsReadTouchdata_accepted {config : AxsConfig} {data accepted : AxsTsData} {bus : BusRead}
    (hread : axsReadTouchdata config data bus = some (accepted, 0)) :
    crcSum config bus.buf = some (bus.buf (config.pntBufSize - 1)) := by
  rw [axsReadTouchdata] at hread
  dsimp only at hread
  split at hread
  · next hfailed =>
    have hret : bus.ret = 0 := (Prod.mk.inj (Option.some.inj hread)).2
    omega
  · obtain ⟨sum, hsum, hread⟩ := Option.bind_eq_some_iff.mp hread
    split at hread
    · cases (Prod.mk.inj (Option.some.inj hread)).2
    · next hsame =>
      rw [hsum, not_not.mp hsame]

/-- In every state, reached or not; and the transfer of the corrupted report may return what it likes. -/
theorem corruptedReport_ignored {data accepted : AxsTsData} {bus bus' : BusRead}
    (haccepted : axsReadTouchdata .shipped data bus = some (accepted, 0))
    (hcorrupted : DifferInOneByte 15 bus.buf bus'.buf) :
    ∃ after, axsTsInterrupt .shipped data bus' = some after ∧
      after = { data with pointBuf := after.pointBuf } := by
  obtain ⟨sum, hsum, hne⟩ := crcSum_corrupted (axsReadTouchdata_accepted haccepted) hcorrupted
  refine ⟨_, axsTsInterrupt_rejected data hsum hne, ?_⟩
  split <;> rfl

/-- A finger held down, and the same report with its sum one too high. -/
theorem corruptedReport_ignored_finger :
    let good : Report := fun i => if i = 1 then 1 else if i = 14 then 1 else 0
    let bad : Report := Function.update good 14 2
    ∃ after, axsTsInterrupt .shipped .initial ⟨15, bad⟩ = some after ∧
      after = { AxsTsData.initial with pointBuf := after.pointBuf } := by
  intro good bad
  have haccepted : axsReadTouchdata .shipped .initial ⟨15, good⟩ =
      some ({ AxsTsData.initial with pointBuf := good }, 0) := rfl
  refine corruptedReport_ignored haccepted ⟨14, by decide, by decide, ?_⟩
  intro j _ hne
  exact Function.update_of_ne hne 2 good

/-! ### Runs -/

/-- An interrupt whose report does not add up. -/
def rejected (config : AxsConfig) : TouchEvent → Bool
  | .interrupt bus =>
      match crcSum config bus.buf with
      | some sum => sum ≠ bus.buf (config.pntBufSize - 1)
      | none => false
  | _ => false

/-- The same driver data up to the raw buffer. -/
def SameButBuffer (left right : AxsTsData) : Prop :=
  left = { right with pointBuf := left.pointBuf }

theorem touchStep_rejected {config : AxsConfig} {before after : AxsTsData} {event : TouchEvent}
    (hrejected : rejected config event = true) (hstep : touchStep config before event after) :
    SameButBuffer after before := by
  cases event with
  | interrupt bus =>
      rw [rejected] at hrejected
      split at hrejected
      · next sum hsum =>
        have hstep := (axsTsInterrupt_rejected before hsum (by simpa using hrejected)).symm.trans hstep
        obtain rfl := Option.some.inj hstep
        rw [SameButBuffer]
        split <;> rfl
      · cases hrejected
  | releaseAll => cases hrejected
  | fwLoading loading => cases hrejected

theorem touchStep_sameButBuffer {config : AxsConfig} {before after abstract : AxsTsData}
    {event : TouchEvent} (hsame : SameButBuffer before abstract)
    (hstep : touchStep config before event after) :
    ∃ abstract', touchStep config abstract event abstract' ∧ SameButBuffer after abstract' := by
  rw [SameButBuffer] at hsame
  generalize before.pointBuf = buf at hsame
  subst hsame
  cases event with
  | interrupt bus =>
      rw [touchStep, axsTsInterrupt] at hstep
      split at hstep
      · next hloading =>
        obtain rfl := Option.some.inj hstep
        exact ⟨abstract, if_pos hloading, rfl⟩
      · next hloading => exact ⟨after, (if_neg hloading).trans hstep, rfl⟩
  | releaseAll =>
      obtain rfl := hstep
      exact ⟨_, rfl, rfl⟩
  | fwLoading loading =>
      obtain rfl := hstep
      exact ⟨_, rfl, rfl⟩

/-- With the rejected reports struck out a run ends in the same driver data up to the raw buffer. -/
theorem run_without_rejected {config : AxsConfig} {before after abstract : AxsTsData}
    {events : List TouchEvent} (hrun : Run (touchStep config) before events after)
    (hsame : SameButBuffer before abstract) :
    ∃ abstract', Run (touchStep config) abstract
      (events.filter fun event => !rejected config event) abstract' ∧
      SameButBuffer after abstract' := by
  induction hrun generalizing abstract with
  | nil state => exact ⟨abstract, .nil _, hsame⟩
  | @cons before middle after event events hstep _ ih =>
      cases hrejected : rejected config event with
      | true =>
          have hmiddle : SameButBuffer middle abstract := by
            rw [SameButBuffer, touchStep_rejected hrejected hstep, hsame]
          rw [List.filter_cons_of_neg (by simp [hrejected])]
          exact ih hmiddle
      | false =>
          obtain ⟨next, hnext, hmiddle⟩ := touchStep_sameButBuffer hsame hstep
          obtain ⟨final, hrest, hfinal⟩ := ih hmiddle
          rw [List.filter_cons_of_pos (by simp [hrejected])]
          exact ⟨final, .cons hnext hrest, hfinal⟩

end FrontPanel.Touch
