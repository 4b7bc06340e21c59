import Mathlib.Data.List.Basic
import Mathlib.Logic.Function.Basic

/-!
# The front-panel keys

`btn_monitor` of `ug_gpio_btn.c` runs every 50 ms, samples the level of each button and reports key values to the input layer. It counts the samples of a hold in `seen`, up to 1200. A press is reported when `seen` has one particular value, and a release when the level turns while `seen` has reached a threshold. The two are compared here as they are for each key and product: between the count that presses and the count that releases, a hold leaves its key down.
-/

namespace FrontPanel.Sio

def keyF20 : Nat := 190
def keyF24 : Nat := 194

structure BtnInfo where
  code : Nat
  shift : Nat
  seen : Nat
  /-- whether `base` is mapped -/
  base : Bool
  prestate : Nat
  active : Nat
  lastReport : Nat

/-- A call of `input_report_key`: the key and the value. -/
abbrev KeyReport := Nat × Nat

/-- `val == btnSatate[i].active` -/
def btnHeld (product : String) (btn : BtnInfo) : BtnInfo × List KeyReport :=
  if btn.seen < 1200 then
    let btn := { btn with seen := btn.seen + 1 }
    if keyF24 = btn.code then
      if btn.seen = 260 then ({ btn with lastReport := 1 }, [(keyF24, 1)])
      else (btn, [])
    else if keyF20 = btn.code then
      if (btn.seen = 1 ∧ product ≠ "DXP2800 GT") ∨ (btn.seen = 100 ∧ product = "DXP2800 GT") then
        ({ btn with lastReport := 1 }, [(keyF20, 1)])
      else (btn, [])
    else (btn, [])
  else (btn, [])

/-- The `else` of `val == btnSatate[i].active`. -/
def btnFree (btn : BtnInfo) (val : Nat) : BtnInfo × List KeyReport :=
  let (btn, reports) :=
    if keyF24 = btn.code then
      if btn.seen > 260 then ({ btn with lastReport := 0 }, [(keyF24, 0)])
      else (btn, [])
    else
      if btn.seen ≥ 100 ∧ val ≠ btn.prestate then
        ({ btn with lastReport := 0 }, [(btn.code, 0)])
      else (btn, [])
  ({ btn with seen := 0 }, reports)

def btnLevel (btn : BtnInfo) (reg : BitVec 32) : Nat := ((reg >>> btn.shift) &&& 0x01#32).toNat

/-- One pass of the loop of `btn_monitor`. -/
def btnPass (product : String) (btn : BtnInfo) (reg : BitVec 32) : BtnInfo × List KeyReport :=
  if btn.base then
    let val := btnLevel btn reg
    let (btn, reports) :=
      if val = btn.active then btnHeld product btn else btnFree btn val
    ({ btn with prestate := val }, reports)
  else (btn, [])

/-- `btnSatate`, and every key value given to the input layer so far. -/
structure Keys where
  btnSatate : Fin 2 → BtnInfo
  reports : List KeyReport

/-- What `__raw_readl` of each button gives in one run. -/
abbrev Sample := Fin 2 → BitVec 32

def btnMonitor (product : String) (keys : Keys) (sample : Sample) : Keys :=
  ([0, 1] : List (Fin 2)).foldl (fun keys i =>
    let (btn, reports) := btnPass product (keys.btnSatate i) (sample i)
    { btnSatate := Function.update keys.btnSatate i btn, reports := keys.reports ++ reports }) keys

/-- The last value reported for a key, 0 if none was. -/
def lastValue (code : Nat) (reports : List KeyReport) : Nat :=
  ((reports.filter (·.1 = code)).getLast?.map Prod.snd).getD 0

/-- The buttons as `my_dmi_callback` sets them up, for any product: one is `KEY_F20`, the other `KEY_F24`. -/
structure Keys.Configured (keys : Keys) : Prop where
  code : ∀ i, (keys.btnSatate i).code = keyF20 ∨ (keys.btnSatate i).code = keyF24
  distinct : ∀ i j, i ≠ j → (keys.btnSatate i).code ≠ (keys.btnSatate j).code

/-- Nothing has been sampled yet. -/
structure Keys.Fresh (keys : Keys) : Prop where
  seen : ∀ i, (keys.btnSatate i).seen = 0
  lastReport : ∀ i, (keys.btnSatate i).lastReport = 0
  reports : keys.reports = []

/-! ### Which holds stick -/

/-- The hold length, in samples, at which a press is reported. -/
def pressAt (product : String) (code : Nat) : Nat :=
  if code = keyF24 then 260 else if product = "DXP2800 GT" then 100 else 1

/-- The hold length from which the end of a hold is reported. -/
def releaseAt (code : Nat) : Nat := if code = keyF24 then 261 else 100

/-- The hold lengths that press a key and do not release it. -/
def Sticks (product : String) (code length : Nat) : Prop :=
  if code = keyF24 then length = 260
  else product ≠ "DXP2800 GT" ∧ 1 ≤ length ∧ length < 100

theorem sticks_iff (product : String) (code length : Nat) :
    Sticks product code length ↔ pressAt product code ≤ length ∧ length < releaseAt code := by
  rw [Sticks, pressAt, releaseAt]
  split
  · omega
  · split <;> simp_all

theorem pressAt_bounds (product : String) (code : Nat) :
    1 ≤ pressAt product code ∧ pressAt product code ≤ 260 := by
  rw [pressAt]
  split
  · omega
  · split <;> omega

/-- The lengths of the holds that have ended, the first one begun `held` samples ago. -/
def completedHolds : Nat → List Bool → List Nat
  | _, [] => []
  | held, true :: rest => completedHolds (held + 1) rest
  | held, false :: rest => held :: completedHolds 0 rest

/-! ### One button -/

/-- A pass reports for its own key, records what it reports, and leaves the rest of the button alone. -/
structure Accounts (before : BtnInfo) (pass : BtnInfo × List KeyReport) : Prop where
  button : ∃ seen prestate lastReport, pass.1 = { before with seen, prestate, lastReport }
  reports : (pass.2 = [] ∧ pass.1.lastReport = before.lastReport) ∨
    pass.2 = [(before.code, pass.1.lastReport)]

theorem btnHeld_accounts (product : String) (btn : BtnInfo) :
    Accounts btn (btnHeld product btn) := by
  rw [btnHeld]
  split
  · dsimp only
    split
    · next hcode =>
      split
      · exact ⟨⟨_, _, _, rfl⟩, .inr (by rw [hcode])⟩
      · exact ⟨⟨_, _, _, rfl⟩, .inl ⟨rfl, rfl⟩⟩
    · split
      · next hcode =>
        split
        · exact ⟨⟨_, _, _, rfl⟩, .inr (by rw [hcode])⟩
        · exact ⟨⟨_, _, _, rfl⟩, .inl ⟨rfl, rfl⟩⟩
      · exact ⟨⟨_, _, _, rfl⟩, .inl ⟨rfl, rfl⟩⟩
  · exact ⟨⟨_, _, _, rfl⟩, .inl ⟨rfl, rfl⟩⟩

theorem btnFree_accounts (btn : BtnInfo) (val : Nat) : Accounts btn (btnFree btn val) := by
  rw [btnFree]
  split
  next btn' reports heq =>
  split at heq
  · next hcode =>
    split at heq
    all_goals
      obtain ⟨rfl, rfl⟩ := Prod.mk.inj heq
    · exact ⟨⟨_, _, _, rfl⟩, .inr (by rw [hcode])⟩
    · exact ⟨⟨_, _, _, rfl⟩, .inl ⟨rfl, rfl⟩⟩
  · split at heq
    all_goals
      obtain ⟨rfl, rfl⟩ := Prod.mk.inj heq
    · exact ⟨⟨_, _, _, rfl⟩, .inr rfl⟩
    · exact ⟨⟨_, _, _, rfl⟩, .inl ⟨rfl, rfl⟩⟩

theorem btnPass_accounts (product : String) (btn : BtnInfo) (reg : BitVec 32) :
    Accounts btn (btnPass product btn reg) := by
  have hpass : ∀ (pass : BtnInfo × List KeyReport) (prestate : Nat), Accounts btn pass →
      Accounts btn ({ pass.1 with prestate }, pass.2) := by
    intro hgiven prestate hgiven'
    obtain ⟨_, reports⟩ := hgiven
    obtain ⟨⟨seen, _, lastReport, rfl⟩, hreports⟩ := hgiven'
    exact ⟨⟨_, _, _, rfl⟩, hreports⟩
  rw [btnPass]
  split
  · dsimp only
    split
    · exact hpass _ _ (btnHeld_accounts product btn)
    · exact hpass _ _ (btnFree_accounts btn _)
  · exact ⟨⟨_, _, _, rfl⟩, .inl ⟨rfl, rfl⟩⟩

/-- The button has been held for `held` samples, and its key was up before. -/
structure Holding (product : String) (btn : BtnInfo) (held : Nat) : Prop where
  seen : btn.seen = min held 1200
  prestate : 0 < held → btn.prestate = btn.active
  lastReport : btn.lastReport = if pressAt product btn.code ≤ held then 1 else 0

theorem btnHeld_eq (product : String) {btn : BtnInfo}
    (hcode : btn.code = keyF20 ∨ btn.code = keyF24) :
    btnHeld product btn =
      ({ btn with
          seen := if btn.seen < 1200 then btn.seen + 1 else btn.seen
          lastReport :=
            if btn.seen < 1200 ∧ btn.seen + 1 = pressAt product btn.code then 1
            else btn.lastReport },
        if btn.seen < 1200 ∧ btn.seen + 1 = pressAt product btn.code then [(btn.code, 1)]
        else []) := by
  have hne : keyF24 ≠ keyF20 := by decide
  by_cases hseen : btn.seen < 1200
  · obtain hcode | hcode := hcode
    · by_cases hproduct : product = "DXP2800 GT"
      · by_cases hpress : btn.seen = 99 <;>
          simp [btnHeld, pressAt, hseen, hcode, hne, hne.symm, hproduct, hpress]
      · by_cases hpress : btn.seen = 0 <;>
          simp [btnHeld, pressAt, hseen, hcode, hne, hne.symm, hproduct, hpress]
    · by_cases hpress : btn.seen = 259 <;>
        simp [btnHeld, pressAt, hseen, hcode, hpress]
  · simp [btnHeld, hseen]

theorem btnFree_eq (btn : BtnInfo) (val : Nat) :
    (btnFree btn val).1 = { btn with
      seen := 0
      lastReport :=
        if releaseAt btn.code ≤ btn.seen ∧ (btn.code = keyF24 ∨ val ≠ btn.prestate) then 0
        else btn.lastReport } := by
  by_cases hcode : btn.code = keyF24
  · by_cases hrelease : 260 < btn.seen <;>
      simp [btnFree, releaseAt, hcode, hrelease, Nat.succ_le_iff]
  · by_cases hrelease : 100 ≤ btn.seen ∧ val ≠ btn.prestate <;>
      simp [btnFree, releaseAt, hcode, Ne.symm hcode, hrelease]

theorem btnPass_held {product : String} {btn : BtnInfo} {reg : BitVec 32} {held : Nat}
    (hcode : btn.code = keyF20 ∨ btn.code = keyF24) (hbase : btn.base = true)
    (hlevel : btnLevel btn reg = btn.active) (hholding : Holding product btn held) :
    Holding product (btnPass product btn reg).1 (held + 1) := by
  obtain ⟨hseen, _, hlast⟩ := hholding
  have hpass : (btnPass product btn reg).1 =
      { (btnHeld product btn).1 with prestate := btn.active } := by
    simp [btnPass, hbase, hlevel]
  have hbounds := pressAt_bounds product btn.code
  rw [hpass, btnHeld_eq product hcode]
  refine ⟨?_, fun _ => rfl, ?_⟩
  · dsimp only
    split <;> omega
  · dsimp only
    rw [hlast]
    split_ifs <;> omega

/-- A sample that ends a hold: the key is up afterwards unless the hold sticks. -/
theorem btnPass_free {product : String} {btn : BtnInfo} {reg : BitVec 32} {held : Nat}
    (hbase : btn.base = true) (hlevel : btnLevel btn reg ≠ btn.active)
    (hholding : Holding product btn held) :
    (btnPass product btn reg).1.seen = 0 ∧
      ((btnPass product btn reg).1.lastReport = 0 ↔ ¬ Sticks product btn.code held) := by
  obtain ⟨hseen, hprestate, hlast⟩ := hholding
  have hpass : (btnPass product btn reg).1 =
      { (btnFree btn (btnLevel btn reg)).1 with prestate := btnLevel btn reg } := by
    simp [btnPass, hbase, hlevel]
  have hbounds := pressAt_bounds product btn.code
  have hrelease : releaseAt btn.code ≤ 261 := by
    rw [releaseAt]
    split <;> omega
  rw [hpass, btnFree_eq, sticks_iff]
  refine ⟨rfl, ?_⟩
  dsimp only
  rw [hlast]
  obtain rfl | hpos := Nat.eq_zero_or_pos held
  · have hup : ¬ pressAt product btn.code ≤ 0 := by omega
    simp [hup]
  · have hturned : btnLevel btn reg ≠ btn.prestate := hprestate hpos ▸ hlevel
    simp only [hturned, ne_eq, not_false_eq_true, or_true, and_true]
    split_ifs <;> simp only [eq_self, true_iff, false_iff, not_not] <;> omega

/-! ### Both buttons over whole runs -/

/-- The history is a run of samples of `btn_monitor`. -/
def btnMonitorAll (product : String) (keys : Keys) (samples : List Sample) : Keys :=
  samples.foldl (btnMonitor product) keys

theorem lastValue_append (code : Nat) (reports more : List KeyReport) :
    lastValue code (reports ++ more) =
      if more.filter (·.1 = code) = [] then lastValue code reports else lastValue code more := by
  unfold lastValue
  rw [List.filter_append, List.getLast?_append]
  split
  · next hnone => simp [hnone]
  · next hsome =>
    obtain ⟨last, hlast⟩ := Option.ne_none_iff_exists'.mp (List.getLast?_eq_none_iff.not.mpr hsome)
    simp [hlast]

/-- The values reported for each key end with the value its button recorded. -/
structure Keys.Consistent (keys : Keys) : Prop extends keys.Configured where
  recorded : ∀ i, lastValue (keys.btnSatate i).code keys.reports = (keys.btnSatate i).lastReport

/-- What a run of `btn_monitor` does to each button is one pass over it, and it keeps the reports consistent. -/
theorem btnMonitor_spec (product : String) {keys : Keys} (hkeys : keys.Consistent)
    (sample : Sample) :
    (btnMonitor product keys sample).Consistent ∧
      ∀ i, (btnMonitor product keys sample).btnSatate i =
        (btnPass product (keys.btnSatate i) (sample i)).1 := by
  -- a pass over one button keeps the keys consistent, whichever button it is
  have hpass : ∀ (keys : Keys) (i : Fin 2) (reg : BitVec 32), keys.Consistent →
      Keys.Consistent
        { btnSatate := Function.update keys.btnSatate i (btnPass product (keys.btnSatate i) reg).1
          reports := keys.reports ++ (btnPass product (keys.btnSatate i) reg).2 } := by
    intro keys i reg hkeys
    obtain ⟨⟨seen, prestate, lastReport, hbutton⟩, hreports⟩ :=
      btnPass_accounts product (keys.btnSatate i) reg
    have hcode : ∀ j, (Function.update keys.btnSatate i
        (btnPass product (keys.btnSatate i) reg).1 j).code = (keys.btnSatate j).code := by
      intro j
      by_cases heq : j = i
      · subst heq
        rw [Function.update_self, hbutton]
      · rw [Function.update_of_ne heq]
    refine ⟨⟨fun j => ?_, fun j => ?_⟩, fun j => ?_⟩
    · exact (hcode j).symm ▸ hkeys.code j
    · intro k hne
      rw [hcode, hcode]
      exact hkeys.distinct j k hne
    · dsimp only
      rw [hcode, lastValue_append]
      by_cases heq : j = i
      · subst heq
        rw [Function.update_self]
        obtain ⟨hnone, hlast⟩ | hone := hreports
        · rw [hnone, List.filter_nil, if_pos rfl, hlast]
          exact hkeys.recorded j
        · rw [hone]
          simp [lastValue]
      · have hother : (btnPass product (keys.btnSatate i) reg).2.filter
            (·.1 = (keys.btnSatate j).code) = [] := by
          have hne := hkeys.distinct i j (Ne.symm heq)
          obtain ⟨hnone, _⟩ | hone := hreports
          · rw [hnone, List.filter_nil]
          · rw [hone]
            simp [hne]
        rw [if_pos hother, Function.update_of_ne heq]
        exact hkeys.recorded j
  refine ⟨hpass _ 1 (sample 1) (hpass _ 0 (sample 0) hkeys), fun i => ?_⟩
  match i with
  | 0 => rfl
  | 1 => rfl

/-- The key of a button is up, as far as the input layer and the driver know. -/
def KeyUp (keys : Keys) (i : Fin 2) : Prop :=
  lastValue (keys.btnSatate i).code keys.reports = 0 ∧ (keys.btnSatate i).lastReport = 0

def isHeld (btn : BtnInfo) (reg : BitVec 32) : Bool := btnLevel btn reg = btn.active

theorem forall_split_cons {α : Type*} {x : α} {xs : List α} {P : List α → α → Prop} :
    (∀ past y later, x :: xs = past ++ y :: later → P past y) ↔
      P [] x ∧ ∀ past y later, xs = past ++ y :: later → P (x :: past) y := by
  constructor
  · intro hall
    refine ⟨hall [] x xs rfl, fun past y later hsplit => hall (x :: past) y later ?_⟩
    rw [hsplit, List.cons_append]
  · intro hgiven past y later hsplit
    obtain ⟨hhead, htail⟩ := hgiven
    cases past with
    | nil =>
        obtain ⟨rfl, _⟩ := List.cons.inj hsplit
        exact hhead
    | cons z past =>
        obtain ⟨rfl, htails⟩ := List.cons.inj hsplit
        exact htail past y later htails

theorem Keys.Consistent.keyUp_iff {keys : Keys} (hkeys : keys.Consistent) (i : Fin 2) :
    KeyUp keys i ↔ (keys.btnSatate i).lastReport = 0 := by
  rw [KeyUp, hkeys.recorded i, and_self]

/-- From a hold in progress, the key is up after every sample that does not hold it exactly if no hold that ends sticks. -/
theorem btnMonitorAll_keyUp {product : String} {i : Fin 2} {samples : List Sample} {keys : Keys}
    {held : Nat} (hkeys : keys.Consistent) (hbase : (keys.btnSatate i).base = true)
    (hholding : Holding product (keys.btnSatate i) held) :
    (∀ past sample later, samples = past ++ sample :: later →
      isHeld (keys.btnSatate i) (sample i) = false →
        KeyUp (btnMonitorAll product keys (past ++ [sample])) i) ↔
      ∀ length ∈ completedHolds held
          (samples.map fun sample => isHeld (keys.btnSatate i) (sample i)),
        ¬ Sticks product (keys.btnSatate i).code length := by
  induction samples generalizing keys held with
  | nil => simp [completedHolds]
  | cons sample samples ih =>
      obtain ⟨hkeys', hbutton⟩ := btnMonitor_spec product hkeys sample
      obtain ⟨seen, prestate, lastReport, hsame⟩ :=
        (btnPass_accounts product (keys.btnSatate i) (sample i)).button
      have hsame : (btnMonitor product keys sample).btnSatate i =
          { keys.btnSatate i with seen, prestate, lastReport } := (hbutton i).trans hsame
      have hlater : ∀ later, Holding product ((btnMonitor product keys sample).btnSatate i) later →
          ((∀ past next rest, samples = past ++ next :: rest →
            isHeld (keys.btnSatate i) (next i) = false →
              KeyUp (btnMonitorAll product keys (sample :: past ++ [next])) i) ↔
          ∀ length ∈ completedHolds later
              (samples.map fun sample => isHeld (keys.btnSatate i) (sample i)),
            ¬ Sticks product (keys.btnSatate i).code length) := by
        intro later hholding'
        have hnext := ih hkeys' (by rw [hsame]; exact hbase) hholding'
        rw [hsame] at hnext
        exact hnext
      rw [forall_split_cons, List.map_cons]
      by_cases hheld : isHeld (keys.btnSatate i) (sample i) = true
      · have hlevel : btnLevel (keys.btnSatate i) (sample i) = (keys.btnSatate i).active := by
          simpa [isHeld] using hheld
        have hholding' := btnPass_held (hkeys.code i) hbase hlevel hholding
        rw [← hbutton i] at hholding'
        rw [hlater _ hholding', hheld, completedHolds]
        simp
      · rw [Bool.not_eq_true] at hheld
        have hlevel : btnLevel (keys.btnSatate i) (sample i) ≠ (keys.btnSatate i).active := by
          simpa [isHeld] using hheld
        obtain ⟨hseen, hlast⟩ := btnPass_free hbase hlevel hholding
        rw [← hbutton i] at hseen hlast
        have hup : KeyUp (btnMonitorAll product keys ([] ++ [sample])) i ↔
            ¬ Sticks product (keys.btnSatate i).code held := (hkeys'.keyUp_iff i).trans hlast
        rw [hheld, completedHolds, List.forall_mem_cons, imp_iff_right rfl, hup]
        refine and_congr_right fun hfree => hlater 0 ⟨by rw [hseen]; rfl, nofun, ?_⟩
        have hpress := (pressAt_bounds product
          ((btnMonitor product keys sample).btnSatate i).code).1
        rw [if_neg (by omega)]
        exact hlast.mpr hfree

/-- After every run of `btn_monitor` that samples a level other than the active one the key is up, exactly if no hold that has ended is 260 samples long (`KEY_F24`) or between 1 and 99 samples long (`KEY_F20`, on any product but the DXP2800 GT). -/
theorem btnMonitor_no_stuck_key {product : String} {keys : Keys} (hconfigured : keys.Configured)
    (hfresh : keys.Fresh) (i : Fin 2) (hbase : (keys.btnSatate i).base = true)
    (samples : List Sample) :
    (∀ past sample later, samples = past ++ sample :: later →
      isHeld (keys.btnSatate i) (sample i) = false →
        KeyUp (btnMonitorAll product keys (past ++ [sample])) i) ↔
      ∀ length ∈ completedHolds 0
          (samples.map fun sample => isHeld (keys.btnSatate i) (sample i)),
        ¬ Sticks product (keys.btnSatate i).code length := by
  have hconsistent : keys.Consistent := by
    refine ⟨hconfigured, fun j => ?_⟩
    rw [hfresh.reports, hfresh.lastReport]
    rfl
  refine btnMonitorAll_keyUp hconsistent hbase ⟨hfresh.seen i, nofun, ?_⟩
  have hpress := (pressAt_bounds product (keys.btnSatate i).code).1
  rw [if_neg (by omega)]
  exact hfresh.lastReport i

/-- `btnSatate` of the DXP4800, as `my_dmi_callback` fills it in. -/
def dxp4800 : Keys where
  btnSatate := fun i =>
    if i = 0 then
      { code := keyF20, shift := 1, active := 1, base := true, seen := 0, prestate := 0,
        lastReport := 0 }
    else
      { code := keyF24, shift := 1, active := 0, base := true, seen := 0, prestate := 1,
        lastReport := 0 }
  reports := []

/-- The power key of the DXP4800 touched for one sample and let go. -/
theorem btnMonitor_no_stuck_key_dxp4800 :
    ¬ ∀ past sample later, [fun _ => 2, fun _ => 0] = past ++ sample :: later →
      isHeld (dxp4800.btnSatate 0) (sample 0) = false →
        KeyUp (btnMonitorAll "DXP4800" dxp4800 (past ++ [sample])) 0 := by
  have hconfigured : dxp4800.Configured := ⟨by decide, by decide⟩
  rw [btnMonitor_no_stuck_key hconfigured ⟨by decide, by decide, rfl⟩ 0 rfl]
  intro hholds
  exact hholds 1 (by decide) (by simp [Sticks, dxp4800, keyF20, keyF24])

/-- The power key of a DXP4800 that is held for one sample stays down. -/
theorem btnMonitor_stuck_key : ¬ ∀ (product : String) (keys : Keys), keys.Configured → keys.Fresh →
    ∀ i, (keys.btnSatate i).base = true → ∀ samples past sample later,
      samples = past ++ sample :: later →
      isHeld (keys.btnSatate i) (sample i) = false →
        KeyUp (btnMonitorAll product keys (past ++ [sample])) i := by
  intro halways
  have hup := halways "DXP4800" dxp4800 ⟨by decide, by decide⟩ ⟨by decide, by decide, rfl⟩ 0
    rfl [fun _ => 2, fun _ => 0] [fun _ => 2] (fun _ => 0) [] rfl rfl
  exact absurd hup.1 (by decide)

end FrontPanel.Sio
