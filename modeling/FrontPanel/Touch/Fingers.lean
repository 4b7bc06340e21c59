import FrontPanel.Lib.Run
import FrontPanel.Touch.Reporter

/-!
# Fingers down and up

`touchs` is meant to mirror the slots: a bit for each slot whose last reported state is active. After any history a slot is active only if its bit is set; if each report lists distinct ids the two agree. A report that lists no point is dropped by the parser before the reporter can release anything.
-/

namespace FrontPanel.Touch

/-! ### The invariant -/

/-- A slot is active only if its bit is set, and only the driver's bits are. -/
structure Consistent (config : AxsConfig) (data : AxsTsData) : Prop where
  bounded : Bounded config data.touchs
  covers : ∀ i, data.inputDev.active i = true → data.touchs.getLsbD i = true

theorem axsTsInterrupt_cases {config : AxsConfig} {data after : AxsTsData} {bus : BusRead}
    (hstep : axsTsInterrupt config data bus = some after) :
    (after.touchs = data.touchs ∧ after.inputDev = data.inputDev) ∨
    ∃ parsed, parsed.touchs = data.touchs ∧ parsed.inputDev = data.inputDev ∧
      parsed.listed = listedPoints config bus.buf ∧ parsed.listed ≠ [] ∧
      (∀ event ∈ parsed.listed, event.id < axsMaxId ∧ event.id < config.maxTouchNumber) ∧
      after = axsInputReportB config parsed := by
  rw [axsTsInterrupt] at hstep
  split at hstep
  · obtain rfl := Option.some.inj hstep
    exact .inl ⟨rfl, rfl⟩
  · rw [axsTsReportThreadHandler] at hstep
    obtain ⟨⟨parsed, ret⟩, hread, hreport⟩ := Option.bind_eq_some_iff.mp hstep
    obtain ⟨htouchs, hdev, -, hzero⟩ := axsReadParseTouchdata_spec hread
    dsimp only at hreport
    split at hreport
    · next hret =>
      obtain ⟨hlisted, hsome, hids⟩ := hzero hret
      exact .inr ⟨parsed, htouchs, hdev, hlisted, hsome, hids, (Option.some.inj hreport).symm⟩
    · obtain rfl := Option.some.inj hreport
      exact .inl ⟨htouchs, hdev⟩

theorem axsTsReportThreadHandler_iff {config : AxsConfig} {data after : AxsTsData} {bus : BusRead} :
    axsTsReportThreadHandler config data bus = some after ↔
      ∃ parsed ret, axsReadParseTouchdata config data bus = some (parsed, ret) ∧
        after = if ret = 0 then axsInputReportB config parsed else parsed := by
  rw [axsTsReportThreadHandler]
  cases axsReadParseTouchdata config data bus with
  | none => simp
  | some read =>
      obtain ⟨parsed, ret⟩ := read
      by_cases hret : ret = 0
      · simp [hret, eq_comm]
      · simp [hret, eq_comm]

theorem axsTsReportThreadHandler_fwLoading {config : AxsConfig} {data after : AxsTsData}
    {bus : BusRead} (hbounded : Bounded config data.touchs)
    (hreport : axsTsReportThreadHandler config data bus = some after) :
    after.fwLoading = data.fwLoading := by
  obtain ⟨parsed, ret, hread, rfl⟩ := axsTsReportThreadHandler_iff.mp hreport
  obtain ⟨htouchs, -, hloading, hzero⟩ := axsReadParseTouchdata_spec hread
  split
  · next hret =>
    obtain ⟨-, -, -, hkept⟩ := axsInputReportB_spec (htouchs ▸ hbounded) (hzero hret).2.2
    exact hkept.trans hloading
  · exact hloading

theorem axsReleaseAllFinger_spec (config : AxsConfig) (data : AxsTsData) :
    (∀ i, (axsReleaseAllFinger config data).inputDev.active i =
      if i < config.maxTouchNumber then false else data.inputDev.active i) ∧
    (axsReleaseAllFinger config data).inputDev.btnTouch = false ∧
    (axsReleaseAllFinger config data).touchs = 0 := by
  have hprefix : ∀ count i, ((List.range count).foldl
      (fun dev finger => (dev.mtSlot finger).mtReportSlotState false) data.inputDev).active i =
        if i < count then false else data.inputDev.active i := by
    intro count
    induction count with
    | zero => simp
    | succ count ih =>
        intro i
        rw [List.range_succ, List.foldl_append, List.foldl_cons, List.foldl_nil]
        show (Function.update _ count false : Nat → Bool) i = _
        by_cases heq : i = count
        · subst heq
          simp
        · have hlt : i < count + 1 ↔ i < count := by omega
          simp only [Function.update_of_ne heq, hlt]
          exact ih i
  exact ⟨fun i => hprefix config.maxTouchNumber i, rfl, rfl⟩

theorem Consistent.report {config : AxsConfig} {data : AxsTsData} (hdata : Consistent config data)
    (hids : ∀ event ∈ data.listed, event.id < axsMaxId ∧ event.id < config.maxTouchNumber) :
    Consistent config (axsInputReportB config data) := by
  obtain ⟨hfield, hactive, _⟩ := axsInputReportB_spec hdata.bounded hids
  refine ⟨fun i hset => ?_, fun i hset => ?_⟩
  · obtain ⟨event, hmem, rfl, _⟩ := (hfield i).mp hset
    exact hids event hmem
  · rw [hactive i] at hset
    split at hset
    · next hsame =>
      rw [← hsame]
      cases hstate : lastState data.listed i with
      | some state => simpa [hstate] using hset
      | none =>
          rw [hstate] at hset
          exact hdata.covers i hset
    · cases hset

theorem Consistent.releaseAll {config : AxsConfig} {data : AxsTsData}
    (hdata : Consistent config data) :
    (axsReleaseAllFinger config data).touchs = 0 ∧
      ∀ i, (axsReleaseAllFinger config data).inputDev.active i = false := by
  obtain ⟨hactive, _, htouchs⟩ := axsReleaseAllFinger_spec config data
  refine ⟨htouchs, fun i => ?_⟩
  rw [hactive i, ← Bool.not_eq_true]
  intro hset
  split at hset
  · cases hset
  · next hout => exact hout (hdata.bounded i (hdata.covers i hset)).2

theorem consistent_of_released {config : AxsConfig} {data : AxsTsData} (htouchs : data.touchs = 0)
    (hactive : ∀ i, data.inputDev.active i = false) : Consistent config data := by
  refine ⟨fun i hset => ?_, fun i hset => ?_⟩
  · rw [htouchs] at hset
    simp at hset
  · rw [hactive i] at hset
    cases hset

theorem Consistent.step {config : AxsConfig} {before after : AxsTsData} {event : TouchEvent}
    (hbefore : Consistent config before) (hstep : touchStep config before event after) :
    Consistent config after := by
  cases event with
  | interrupt bus =>
      obtain ⟨htouchs, hdev⟩ | ⟨parsed, htouchs, hdev, _, _, hids, rfl⟩ :=
        axsTsInterrupt_cases hstep
      · exact ⟨htouchs ▸ hbefore.bounded, by rw [htouchs, hdev]; exact hbefore.covers⟩
      · have hparsed : Consistent config parsed :=
          ⟨htouchs ▸ hbefore.bounded, by rw [htouchs, hdev]; exact hbefore.covers⟩
        exact hparsed.report hids
  | releaseAll =>
      obtain rfl : after = axsReleaseAllFinger config before := hstep
      exact consistent_of_released hbefore.releaseAll.1 hbefore.releaseAll.2
  | fwLoading loading =>
      obtain rfl : after = { before with fwLoading := loading } := hstep
      exact ⟨hbefore.bounded, hbefore.covers⟩

theorem Consistent.initial (config : AxsConfig) : Consistent config .initial :=
  consistent_of_released rfl fun _ => rfl

/-- With distinct ids, the last state an id is listed with is the only one. -/
theorem lastState_eq {listed : List TsEvent} (hdistinct : (listed.map TsEvent.id).Nodup) {id : Nat}
    {state : Bool} (hstate : lastState listed id = some state) :
    DownIn listed id ↔ state = true := by
  obtain ⟨last, hlast, rfl, rfl⟩ := lastState_mem hstate
  constructor
  · intro hgiven
    obtain ⟨event, hmem, hid, hdown⟩ := hgiven
    rwa [List.inj_on_of_nodup_map hdistinct hmem hlast hid] at hdown
  · intro hdown
    exact ⟨last, hlast, rfl, hdown⟩

theorem lastState_none {listed : List TsEvent} {id : Nat} (hstate : lastState listed id = none) :
    ¬ DownIn listed id := by
  intro hgiven
  obtain ⟨event, hmem, hid, _⟩ := hgiven
  have hempty : listed.filter (·.id = id) = [] := by
    simpa [lastState, List.getLast?_eq_none_iff] using hstate
  have hin : event ∈ listed.filter (·.id = id) := List.mem_filter.mpr ⟨hmem, by simpa using hid⟩
  rw [hempty] at hin
  cases hin

/-- After a report of distinct ids the active slots are those whose bits are set. -/
theorem axsInputReportB_active {config : AxsConfig} {data : AxsTsData}
    (hdata : Consistent config data)
    (hids : ∀ event ∈ data.listed, event.id < axsMaxId ∧ event.id < config.maxTouchNumber)
    (hdistinct : (data.listed.map TsEvent.id).Nodup) (i : Nat) :
    (axsInputReportB config data).inputDev.active i =
      (axsInputReportB config data).touchs.getLsbD i := by
  obtain ⟨hfield, hactive, _⟩ := axsInputReportB_spec hdata.bounded hids
  rw [hactive i]
  cases hstate : lastState data.listed i with
  | some state =>
      have hsame : state = (axsInputReportB config data).touchs.getLsbD i := by
        rw [Bool.eq_iff_iff, hfield i, lastState_eq hdistinct hstate]
      simp [← hsame]
  | none =>
      have hclear : (axsInputReportB config data).touchs.getLsbD i = false := by
        rw [← Bool.not_eq_true, hfield i]
        exact lastState_none hstate
      rw [hclear]
      cases hset : data.touchs.getLsbD i with
      | true => rfl
      | false =>
          -- an unlisted slot whose bit is clear was not active before either
          have hidle : data.inputDev.active i = false := by
            rw [← Bool.not_eq_true]
            intro hbusy
            rw [hdata.covers i hbusy] at hset
            cases hset
          simpa using hidle

/-! ### What was reported -/

/-- The bookkeeping says what the input layer was told. -/
structure Mirrors (config : AxsConfig) (data : AxsTsData) : Prop extends Consistent config data where
  mirrored : ∀ i, data.touchs.getLsbD i = data.inputDev.active i
  btnTouch : data.inputDev.btnTouch = true ↔ data.touchs ≠ 0

/-- The ids a report lists are pairwise distinct. -/
def DistinctIds (config : AxsConfig) (event : TouchEvent) : Prop :=
  match event with
  | .interrupt bus => ((listedPoints config bus.buf).map TsEvent.id).Nodup
  | .releaseAll => True
  | .fwLoading _ => True

theorem distinctIds_of_one {config : AxsConfig} (hone : config.maxTouchNumber = 1)
    (event : TouchEvent) : DistinctIds config event := by
  have hshort : ∀ ids : List Nat, ids.length ≤ 1 → ids.Nodup
    | [], _ => List.nodup_nil
    | [id], _ => List.nodup_singleton id
    | _ :: _ :: _, hlength => by simp at hlength
  cases event with
  | interrupt bus =>
      apply hshort _
      rw [List.length_map, listedPoints]
      apply (List.takeWhile_prefix _).length_le.trans
      rw [List.length_map, List.length_range, hone]
      exact Nat.min_le_right _ _
  | releaseAll => trivial
  | fwLoading _ => trivial

theorem ne_zero_iff_getLsbD (touchs : BitVec 32) :
    touchs ≠ 0 ↔ ∃ i, touchs.getLsbD i = true := by
  constructor
  · intro hne
    by_contra hnone
    refine hne (BitVec.eq_of_getLsbD_eq fun i _ => ?_)
    have hclear : touchs.getLsbD i = false := by
      rw [← Bool.not_eq_true]
      exact fun hset => hnone ⟨i, hset⟩
    simpa using hclear
  · intro hgiven hzero
    obtain ⟨i, hset⟩ := hgiven
    simp [hzero] at hset

theorem Consistent.report_up {config : AxsConfig} {data : AxsTsData} (hdata : Consistent config data)
    (hids : ∀ event ∈ data.listed, event.id < axsMaxId ∧ event.id < config.maxTouchNumber)
    (hup : ∀ event ∈ data.listed, eventDown event.flag = false) :
    (axsInputReportB config data).touchs = 0 ∧
      ∀ i, (axsInputReportB config data).inputDev.active i = false := by
  obtain ⟨hfield, -⟩ := axsInputReportB_spec hdata.bounded hids
  have hclear : ∀ i, (axsInputReportB config data).touchs.getLsbD i ≠ true := by
    intro i hset
    obtain ⟨event, hmem, -, hdown⟩ := (hfield i).mp hset
    rw [hup event hmem] at hdown
    cases hdown
  constructor
  · by_contra hsome
    obtain ⟨i, hset⟩ := (ne_zero_iff_getLsbD _).mp hsome
    exact hclear i hset
  · intro i
    rw [← Bool.not_eq_true]
    exact fun hactive => hclear i ((hdata.report hids).covers i hactive)

theorem Mirrors.step {config : AxsConfig} {before after : AxsTsData} {event : TouchEvent}
    (hbefore : Mirrors config before) (hdistinct : DistinctIds config event)
    (hstep : touchStep config before event after) : Mirrors config after := by
  have hconsistent := hbefore.toConsistent.step hstep
  cases event with
  | interrupt bus =>
      obtain ⟨htouchs, hdev⟩ | ⟨parsed, htouchs, hdev, hlisted, hsome, hids, rfl⟩ :=
        axsTsInterrupt_cases hstep
      · exact ⟨hconsistent, by rw [htouchs, hdev]; exact hbefore.mirrored,
          by rw [htouchs, hdev]; exact hbefore.btnTouch⟩
      · have hparsed : Consistent config parsed :=
          ⟨htouchs ▸ hbefore.bounded, by rw [htouchs, hdev]; exact hbefore.covers⟩
        obtain ⟨hfield, _, hbtn, _⟩ := axsInputReportB_spec hparsed.bounded hids
        refine ⟨hconsistent, fun i => ?_, ?_⟩
        · exact (axsInputReportB_active hparsed hids (hlisted ▸ hdistinct) i).symm
        · rw [hbtn hsome, ne_zero_iff_getLsbD]
          exact exists_congr fun i => (hfield i).symm
  | releaseAll =>
      obtain rfl : after = axsReleaseAllFinger config before := hstep
      obtain ⟨hactive, hbtn, htouchs⟩ := axsReleaseAllFinger_spec config before
      refine ⟨hconsistent, fun i => ?_, by rw [hbtn, htouchs]; simp⟩
      rw [Bool.eq_iff_iff]
      exact ⟨fun hset => by simp [htouchs] at hset, hconsistent.covers i⟩
  | fwLoading loading =>
      obtain rfl : after = { before with fwLoading := loading } := hstep
      exact ⟨hconsistent, hbefore.mirrored, hbefore.btnTouch⟩

/-- In every run, with the ids of each report distinct if there is more than one, the bits of `touchs` are the slots last reported active, and `BTN_TOUCH` was last reported down exactly if there is one. -/
theorem touchs_mirrors_reported {config : AxsConfig} {history : List TouchEvent} {data : AxsTsData}
    (hrun : Run (touchStep config) .initial history data)
    (hdistinct : config.maxTouchNumber ≠ 1 → ∀ event ∈ history, DistinctIds config event) :
    (∀ i, data.touchs.getLsbD i = true ↔ data.inputDev.active i = true) ∧
      (data.inputDev.btnTouch = true ↔ data.touchs ≠ 0) := by
  have hall : ∀ event ∈ history, DistinctIds config event := by
    intro event hmem
    by_cases hone : config.maxTouchNumber = 1
    · exact distinctIds_of_one hone event
    · exact hdistinct hone event hmem
  have hinitial : Mirrors config .initial :=
    ⟨.initial config, fun i => by simp [AxsTsData.initial, InputDev.initial],
      by simp [AxsTsData.initial, InputDev.initial]⟩
  have hdata : Mirrors config data := (hrun.guarded hall).invariant
    (fun _ _ _ hbefore hstep => hbefore.step hstep.2 hstep.1) hinitial
  exact ⟨fun i => by rw [hdata.mirrored i], hdata.btnTouch⟩

/-- One finger down, as `axs_read_buf` gives it. -/
def fingerDown : BusRead where
  ret := 0
  buf := fun i => if i = 1 ∨ i = 14 then 1 else 0

theorem interrupt_fingerDown : ∃ data, touchStep .shipped .initial (.interrupt fingerDown) data ∧
    data.touchs = 1 ∧ data.inputDev.active 0 = true ∧ data.fwLoading = false :=
  ⟨_, rfl, rfl, rfl, rfl⟩

theorem touchs_mirrors_reported_fingerDown : ∃ data,
    Run (touchStep .shipped) .initial [.interrupt fingerDown] data ∧
      data.inputDev.active 0 = true ∧ data.inputDev.btnTouch = true := by
  obtain ⟨data, hstep, htouchs, hactive, _⟩ := interrupt_fingerDown
  have hrun := Run.single hstep
  obtain ⟨_, hbtn⟩ := touchs_mirrors_reported hrun fun hne => absurd rfl hne
  exact ⟨data, hrun, hactive, hbtn.mpr (by rw [htouchs]; decide)⟩

/-! ### No stuck finger -/

/-- The points of a report, as many as it says. -/
def points (buf : Report) : List TsEvent := (List.range (pointNum buf)).map (readEvent buf)

/-- A report of points: its checksum matches, it is no gesture, and its points are distinct and the driver's. -/
structure TouchReport (config : AxsConfig) (buf : Report) : Prop where
  checksum : crcSum config buf = some (buf (config.pntBufSize - 1))
  gesture : buf axsTouchGesturePos = 0
  count : pointNum buf ≤ config.maxTouchNumber
  distinct : ((points buf).map TsEvent.id).Nodup
  below : ∀ event ∈ points buf, event.id < config.maxTouchNumber

theorem TouchReport.listedPoints_eq {config : AxsConfig} {buf : Report}
    (hreport : TouchReport config buf) (hmax : config.maxTouchNumber ≤ axsMaxId) :
    listedPoints config buf = points buf := by
  rw [listedPoints, Nat.min_eq_left hreport.count]
  exact List.takeWhile_eq_self_iff.mpr fun event hmem => by
    simpa using Nat.lt_of_lt_of_le (hreport.below event hmem) hmax

theorem TouchReport.interrupt {config : AxsConfig} {data : AxsTsData} {bus : BusRead}
    (hreport : TouchReport config bus.buf) (hread : 0 ≤ bus.ret) (hloading : data.fwLoading = false) :
    axsTsInterrupt config data bus =
      some (if (parseReport config data bus.buf).2 = 0 then
        axsInputReportB config (parseReport config data bus.buf).1
      else (parseReport config data bus.buf).1) := by
  have hparse := axsReadParseTouchdata_accepted data hread hreport.checksum hreport.gesture
  rw [axsTsInterrupt, axsTsReportThreadHandler]
  rw [if_neg (by simp [hloading]), hparse]
  simp only [Option.bind_eq_bind, Option.bind_some, Option.pure_def]
  split <;> rfl

/-- After a report of points has been handled the active slots are those it lists as down, exactly if it lists a point or no slot was active before. -/
theorem no_stuck_finger {config : AxsConfig} (hmax : config.maxTouchNumber ≤ axsMaxId)
    {history : List TouchEvent} {data : AxsTsData}
    (hrun : Run (touchStep config) .initial history data) (hloading : data.fwLoading = false)
    {bus : BusRead} (hread : 0 ≤ bus.ret) (hreport : TouchReport config bus.buf) :
    (∃ after, axsTsInterrupt config data bus = some after ∧
      ∀ i, after.inputDev.active i = true ↔ DownIn (points bus.buf) i) ↔
    (pointNum bus.buf ≠ 0 ∨ ∀ i, data.inputDev.active i = false) := by
  have hdata : Consistent config data :=
    hrun.invariant (fun _ _ _ hbefore hstep => hbefore.step hstep) (.initial config)
  obtain ⟨htouchs, hdev, _⟩ := parseReport_frame config data bus.buf
  rw [hreport.interrupt hread hloading]
  by_cases hnone : pointNum bus.buf = 0
  · -- the parser finds no point and returns -1: the slots stay as they were
    have hret : (parseReport config data bus.buf).2 = -1 := by
      simp [parseReport, hnone, parsePoints, finishParse]
    have hempty : points bus.buf = [] := by simp [points, hnone]
    rw [if_neg (by rw [hret]; decide), hempty]
    simp [hnone, hdev, DownIn]
  · have hmin : min (pointNum bus.buf) config.maxTouchNumber = pointNum bus.buf :=
      Nat.min_eq_left hreport.count
    have hret : (parseReport config data bus.buf).2 = 0 := by
      refine parseReport_total data (by rw [hmin]; exact hnone) fun event hmem => ?_
      rw [hmin] at hmem
      have hlt := hreport.below event hmem
      exact ⟨Nat.lt_of_lt_of_le hlt hmax, hlt⟩
    obtain ⟨hlisted, hsome, hids⟩ := parseReport_zero (Prod.ext rfl hret)
    rw [hreport.listedPoints_eq hmax] at hlisted
    have hparsed : Consistent config (parseReport config data bus.buf).1 :=
      ⟨htouchs ▸ hdata.bounded, by rw [htouchs, hdev]; exact hdata.covers⟩
    have hactive := axsInputReportB_active hparsed hids (hlisted ▸ hreport.distinct)
    obtain ⟨hfield, _⟩ := axsInputReportB_spec hparsed.bounded hids
    rw [if_pos hret]
    refine iff_of_true ⟨_, rfl, fun i => ?_⟩ (.inl hnone)
    rw [hactive i, hfield i, hlisted]

theorem touchReport_fingerDown : TouchReport .shipped fingerDown.buf where
  checksum := by decide
  gesture := by decide
  count := by decide
  distinct := by decide
  below := by decide

theorem no_stuck_finger_fingerDown : ∃ after,
    axsTsInterrupt .shipped .initial fingerDown = some after ∧
      ∀ i, after.inputDev.active i = true ↔ DownIn (points fingerDown.buf) i :=
  (no_stuck_finger (by decide) (.nil _) rfl (by decide) touchReport_fingerDown).mpr
    (.inl (by decide))

/-- A report of no point, as `axs_read_buf` gives it. -/
def noPoint : BusRead where
  ret := 0
  buf := fun _ => 0

theorem touchReport_noPoint : TouchReport .shipped noPoint.buf where
  checksum := by decide
  gesture := by decide
  count := by decide
  distinct := by decide
  below := by decide

/-- A finger that is down when the controller reports no point stays down. -/
theorem stuck_finger : ¬ ∀ (history : List TouchEvent) (data : AxsTsData) (bus : BusRead),
    Run (touchStep .shipped) .initial history data → data.fwLoading = false → 0 ≤ bus.ret →
      TouchReport .shipped bus.buf →
        ∃ after, axsTsInterrupt .shipped data bus = some after ∧
          ∀ i, after.inputDev.active i = true ↔ DownIn (points bus.buf) i := by
  intro halways
  obtain ⟨data, hdown, hnone⟩ : ∃ data, touchStep .shipped .initial (.interrupt fingerDown) data ∧
      data.fwLoading = false ∧ ∃ after, axsTsInterrupt .shipped data noPoint = some after ∧
        after.inputDev.active 0 = true := ⟨_, rfl, rfl, _, rfl, rfl⟩
  obtain ⟨hloading, last, hlast, hstuck⟩ := hnone
  obtain ⟨after, hafter, hactive⟩ := halways _ data noPoint (.single hdown) hloading (by decide)
    touchReport_noPoint
  obtain rfl := Option.some.inj (hlast.symm.trans hafter)
  obtain ⟨event, hmem, _⟩ := (hactive 0).mp hstuck
  cases hmem

end FrontPanel.Touch
