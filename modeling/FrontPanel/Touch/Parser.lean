import FrontPanel.Touch.Report
import Mathlib.Data.List.TakeWhile

/-!
# What the parser makes of a report

`axs_read_parse_touchdata` returns early for a failed read, a bad checksum, a gesture and an id that is not the driver's, and with -1 if it has found no point. If it returns 0 the events it has filled in are the listed points up to the first id it stops at. The slots and the field are never touched.
-/

namespace FrontPanel.Touch

/-- The points of the driver data that a report has filled in. -/
def AxsTsData.listed (data : AxsTsData) : List TsEvent :=
  (List.range data.touchPoint).map data.events

/-- The points a report lists, up to the first id the parser stops at. -/
def listedPoints (config : AxsConfig) (buf : Report) : List TsEvent :=
  ((List.range (min (pointNum buf) config.maxTouchNumber)).map (readEvent buf)).takeWhile
    (·.id < axsMaxId)

theorem mem_takeWhile_id {events : List TsEvent} {event : TsEvent}
    (hmem : event ∈ events.takeWhile (·.id < axsMaxId)) : event.id < axsMaxId := by
  simpa using List.mem_takeWhile_imp hmem

/-- The driver data once point `i`, the next one, is filled in. -/
def AxsTsData.addPoint (data : AxsTsData) (i : Nat) : AxsTsData :=
  { data with
    touchPoint := data.touchPoint + 1
    events := Function.update data.events i (readEvent data.pointBuf i) }

theorem listed_addPoint (data : AxsTsData) :
    (data.addPoint data.touchPoint).listed =
      data.listed ++ [readEvent data.pointBuf data.touchPoint] := by
  have hold : (List.range data.touchPoint).map (data.addPoint data.touchPoint).events =
      (List.range data.touchPoint).map data.events := by
    apply List.map_congr_left
    intro j hj
    have hne : j ≠ data.touchPoint := Nat.ne_of_lt (List.mem_range.mp hj)
    exact Function.update_of_ne hne _ _
  show (List.range (data.touchPoint + 1)).map (data.addPoint data.touchPoint).events = _
  rw [List.range_succ, List.map_append, hold]
  simp [AxsTsData.listed, AxsTsData.addPoint]

theorem parsePoints_succ (config : AxsConfig) {num : Nat} (hnum : num ≠ 0) (left : Nat)
    (data : AxsTsData) :
    parsePoints config num (left + 1) data.touchPoint data =
      let event := readEvent data.pointBuf data.touchPoint
      if event.id ≥ axsMaxId then (data, none)
      else if event.id ≥ config.maxTouchNumber then (data, some (-1))
      else parsePoints config num left (data.touchPoint + 1) (data.addPoint data.touchPoint) := by
  simp only [parsePoints, hnum, and_false, if_false]
  rfl

/-- A loop that runs to its end has filled in the points from the next one on, up to the first id it stops at. -/
theorem parsePoints_spec {config : AxsConfig} {num : Nat} (hnum : num ≠ 0) {left : Nat}
    {data after : AxsTsData}
    (hparse : parsePoints config num left data.touchPoint data = (after, none)) :
    let read := ((List.range' data.touchPoint left).map (readEvent data.pointBuf)).takeWhile
      (·.id < axsMaxId)
    after.listed = data.listed ++ read ∧ ∀ event ∈ read, event.id < config.maxTouchNumber := by
  induction left generalizing data with
  | zero =>
      simp only [parsePoints, Prod.mk.injEq, and_true] at hparse
      subst hparse
      simp
  | succ left ih =>
      rw [parsePoints_succ config hnum] at hparse
      dsimp only at hparse
      rw [List.range'_succ, List.map_cons]
      split at hparse
      · next hstop =>
        obtain rfl := (Prod.mk.inj hparse).1
        rw [List.takeWhile_cons_of_neg (by simpa using hstop)]
        simp
      · next hgoes =>
        split at hparse
        · cases (Prod.mk.inj hparse).2
        · next hhas =>
          obtain ⟨hlisted, hids⟩ := @ih (data.addPoint data.touchPoint) hparse
          rw [List.takeWhile_cons_of_pos (by simpa using hgoes)]
          refine ⟨?_, ?_⟩
          · rw [hlisted, listed_addPoint, List.append_assoc]
            rfl
          · intro event hmem
            obtain rfl | hmem := List.mem_cons.mp hmem
            · exact Nat.lt_of_not_le hhas
            · exact hids event hmem

theorem parsePoints_frame (config : AxsConfig) (num left : Nat) (data : AxsTsData) (i : Nat) :
    let after := (parsePoints config num left i data).1
    after.touchs = data.touchs ∧ after.inputDev = data.inputDev ∧
      after.fwLoading = data.fwLoading ∧ after.pointBuf = data.pointBuf := by
  induction left generalizing data i with
  | zero => exact ⟨rfl, rfl, rfl, rfl⟩
  | succ left ih =>
      simp only [parsePoints]
      split
      · exact ⟨rfl, rfl, rfl, rfl⟩
      split
      · exact ⟨rfl, rfl, rfl, rfl⟩
      split
      · exact ⟨rfl, rfl, rfl, rfl⟩
      · exact ih _ _

/-- Where every id is one of the driver's, the loop runs to its end. -/
theorem parsePoints_total {config : AxsConfig} {num : Nat} (hnum : num ≠ 0) {left : Nat}
    {data : AxsTsData}
    (hids : ∀ event ∈ (List.range' data.touchPoint left).map (readEvent data.pointBuf),
      event.id < axsMaxId → event.id < config.maxTouchNumber) :
    (parsePoints config num left data.touchPoint data).2 = none := by
  induction left generalizing data with
  | zero => rfl
  | succ left ih =>
      rw [parsePoints_succ config hnum]
      dsimp only
      rw [List.range'_succ, List.map_cons] at hids
      split
      · rfl
      · next hgoes =>
        have hhas := hids _ List.mem_cons_self (Nat.lt_of_not_le hgoes)
        rw [if_neg (Nat.not_le_of_lt hhas)]
        exact @ih (data.addPoint data.touchPoint) fun event hmem =>
          hids event (List.mem_cons_of_mem _ hmem)

/-- Where every early return of the loop comes from. -/
theorem parsePoints_early {config : AxsConfig} {num left i : Nat} {data : AxsTsData} {ret : Int}
    (hparse : (parsePoints config num left i data).2 = some ret) : ret = -1 := by
  induction left generalizing data i with
  | zero => cases hparse
  | succ left ih =>
      simp only [parsePoints] at hparse
      split at hparse
      · cases hparse
      split at hparse
      · exact (Option.some.inj hparse).symm
      split at hparse
      · exact (Option.some.inj hparse).symm
      · exact ih hparse

/-- The end of the parser, after the loop. -/
def finishParse (parsed : AxsTsData × Option Int) : AxsTsData × Int :=
  match parsed with
  | (data, some ret) => (data, ret)
  | (data, none) => if data.touchPoint = 0 then (data, -1) else (data, 0)

theorem finishParse_fst (parsed : AxsTsData × Option Int) : (finishParse parsed).1 = parsed.1 := by
  rcases parsed with ⟨data, _ | ret⟩
  · simp only [finishParse]
    split <;> rfl
  · rfl

/-- What the parser does after an accepted read. -/
def parseReport (config : AxsConfig) (data : AxsTsData) (buf : Report) : AxsTsData × Int :=
  finishParse (parsePoints config (min (pointNum buf) config.maxTouchNumber)
    (min (pointNum buf) config.maxTouchNumber) 0 { data with pointBuf := buf, touchPoint := 0 })

theorem axsReadParseTouchdata_accepted {config : AxsConfig} (data : AxsTsData) {bus : BusRead}
    (hret : 0 ≤ bus.ret) (hsum : crcSum config bus.buf = some (bus.buf (config.pntBufSize - 1)))
    (hgesture : bus.buf axsTouchGesturePos = 0) :
    axsReadParseTouchdata config data bus = some (parseReport config data bus.buf) := by
  have hret : ¬ bus.ret < 0 := by omega
  have hmin : (if pointNum bus.buf > config.maxTouchNumber then config.maxTouchNumber
      else pointNum bus.buf) = min (pointNum bus.buf) config.maxTouchNumber := by
    split <;> omega
  simp only [axsReadParseTouchdata, axsReadTouchdata, Option.bind_eq_bind, hret, if_false, hsum,
    Option.bind_some, ne_eq, not_true, lt_irrefl, hgesture, hmin, Option.pure_def, parseReport,
    finishParse]
  rcases parsePoints config _ _ 0 _ with ⟨after, _ | early⟩
  · dsimp only
    split <;> rfl
  · rfl

/-- A read never ends, fails, or is accepted with a gesture or with points. -/
theorem axsReadParseTouchdata_cases (config : AxsConfig) (data : AxsTsData) (bus : BusRead) :
    axsReadParseTouchdata config data bus = none ∨
    (∃ ret, axsReadParseTouchdata config data bus = some ({ data with pointBuf := bus.buf }, ret) ∧
      ret ≠ 0) ∨
    axsReadParseTouchdata config data bus = some (parseReport config data bus.buf) := by
  by_cases hret : bus.ret < 0
  · have hne : bus.ret ≠ 0 := by omega
    exact .inr (.inl ⟨bus.ret, by simp [axsReadParseTouchdata, axsReadTouchdata, hret], hne⟩)
  cases hsum : crcSum config bus.buf with
  | none => exact .inl (by simp [axsReadParseTouchdata, axsReadTouchdata, hret, hsum])
  | some sum =>
      by_cases hcrc : sum = bus.buf (config.pntBufSize - 1)
      · by_cases hgesture : bus.buf axsTouchGesturePos = 0
        · exact .inr (.inr (axsReadParseTouchdata_accepted data (by omega) (hcrc ▸ hsum) hgesture))
        · have hne : ((bus.buf axsTouchGesturePos).toNat : Int) ≠ 0 := by
            have hne := UInt8.toNat_inj.not.mpr hgesture
            simpa using hne
          refine .inr (.inl ⟨_, ?_, hne⟩)
          simp [axsReadParseTouchdata, axsReadTouchdata, hret, hsum, hcrc, Ne.symm hgesture]
      · refine .inr (.inl ⟨-1, ?_, by decide⟩)
        simp [axsReadParseTouchdata, axsReadTouchdata, hret, hsum, hcrc]

theorem parseReport_frame (config : AxsConfig) (data : AxsTsData) (buf : Report) :
    let after := (parseReport config data buf).1
    after.touchs = data.touchs ∧ after.inputDev = data.inputDev ∧
      after.fwLoading = data.fwLoading := by
  obtain ⟨htouchs, hdev, hloading, _⟩ :=
    parsePoints_frame config (min (pointNum buf) config.maxTouchNumber)
      (min (pointNum buf) config.maxTouchNumber) { data with pointBuf := buf, touchPoint := 0 } 0
  rw [parseReport, finishParse_fst]
  exact ⟨htouchs, hdev, hloading⟩

/-- A parser that returns 0 has filled in the listed points, at least one, all of them of the driver's. -/
theorem parseReport_zero {config : AxsConfig} {data after : AxsTsData} {buf : Report}
    (hparse : parseReport config data buf = (after, 0)) :
    after.listed = listedPoints config buf ∧ after.listed ≠ [] ∧
      ∀ event ∈ after.listed, event.id < axsMaxId ∧ event.id < config.maxTouchNumber := by
  rw [parseReport] at hparse
  rcases hloop : parsePoints config (min (pointNum buf) config.maxTouchNumber)
      (min (pointNum buf) config.maxTouchNumber) 0 { data with pointBuf := buf, touchPoint := 0 }
    with ⟨last, _ | early⟩
  · rw [hloop] at hparse
    simp only [finishParse] at hparse
    split at hparse
    · cases (Prod.mk.inj hparse).2
    · next hpoints =>
      obtain rfl := (Prod.mk.inj hparse).1
      have hnum : min (pointNum buf) config.maxTouchNumber ≠ 0 := by
        intro hzero
        rw [hzero] at hloop
        obtain rfl := (Prod.mk.inj hloop).1
        exact hpoints rfl
      obtain ⟨hlisted, hids⟩ := @parsePoints_spec config _ hnum _
        { data with pointBuf := buf, touchPoint := 0 } last hloop
      have hlisted : last.listed = listedPoints config buf := by
        rw [hlisted, listedPoints, List.range_eq_range']
        rfl
      refine ⟨hlisted, ?_, ?_⟩
      · rw [AxsTsData.listed, ne_eq, List.map_eq_nil_iff, List.range_eq_nil]
        exact hpoints
      · intro event hmem
        rw [hlisted] at hmem
        refine ⟨mem_takeWhile_id hmem, hids event ?_⟩
        rw [listedPoints, List.range_eq_range'] at hmem
        exact hmem
  · have hearly := parsePoints_early (congrArg Prod.snd hloop)
    rw [hloop] at hparse
    have hret : early = 0 := (Prod.mk.inj hparse).2
    omega

theorem axsReadParseTouchdata_spec {config : AxsConfig} {data after : AxsTsData} {bus : BusRead}
    {ret : Int} (hread : axsReadParseTouchdata config data bus = some (after, ret)) :
    after.touchs = data.touchs ∧ after.inputDev = data.inputDev ∧
      after.fwLoading = data.fwLoading ∧
      (ret = 0 → after.listed = listedPoints config bus.buf ∧ after.listed ≠ [] ∧
        ∀ event ∈ after.listed, event.id < axsMaxId ∧ event.id < config.maxTouchNumber) := by
  obtain hnone | ⟨failed, hparse, hfailed⟩ | hparse := axsReadParseTouchdata_cases config data bus
  · rw [hnone] at hread
    cases hread
  · obtain ⟨rfl, rfl⟩ := Prod.mk.inj (Option.some.inj (hparse.symm.trans hread))
    exact ⟨rfl, rfl, rfl, fun hret => absurd hret hfailed⟩
  · have hreport := Option.some.inj (hparse.symm.trans hread)
    obtain ⟨htouchs, hdev, hloading⟩ := parseReport_frame config data bus.buf
    rw [hreport] at htouchs hdev hloading
    refine ⟨htouchs, hdev, hloading, ?_⟩
    intro hsame
    obtain rfl := hsame
    exact parseReport_zero hreport

theorem parseReport_total {config : AxsConfig} (data : AxsTsData) {buf : Report}
    (hnum : min (pointNum buf) config.maxTouchNumber ≠ 0)
    (hids : ∀ event ∈ (List.range (min (pointNum buf) config.maxTouchNumber)).map (readEvent buf),
      event.id < axsMaxId ∧ event.id < config.maxTouchNumber) :
    (parseReport config data buf).2 = 0 := by
  rw [List.range_eq_range'] at hids
  have htotal := @parsePoints_total config _ hnum (min (pointNum buf) config.maxTouchNumber)
    { data with pointBuf := buf, touchPoint := 0 } fun event hmem _ => (hids event hmem).2
  rw [parseReport]
  rcases hloop : parsePoints config (min (pointNum buf) config.maxTouchNumber)
      (min (pointNum buf) config.maxTouchNumber) 0 { data with pointBuf := buf, touchPoint := 0 }
    with ⟨last, _ | early⟩
  · obtain ⟨hlisted, _⟩ := @parsePoints_spec config _ hnum _
      { data with pointBuf := buf, touchPoint := 0 } last hloop
    have hpoints : last.touchPoint ≠ 0 := by
      intro hzero
      obtain ⟨left, hleft⟩ := Nat.exists_eq_succ_of_ne_zero hnum
      rw [hleft, List.range'_succ, List.map_cons] at hlisted hids
      rw [List.takeWhile_cons_of_pos (by simpa using (hids _ List.mem_cons_self).1)] at hlisted
      simp [AxsTsData.listed, hzero] at hlisted
    simp [finishParse, hpoints]
  · rw [hloop] at htotal
    cases htotal

end FrontPanel.Touch
