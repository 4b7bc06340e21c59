import FrontPanel.Touch.Parser

/-!
# What the reporter tells the input layer

`axs_input_report_b` has two loops. The first reports the listed points, keeping the field `touchs` and a local copy that starts empty; what it leaves is described by the last state each id is listed with. The second releases the slots in which field and copy differ, and the copy becomes the field.
-/

namespace FrontPanel.Touch

/-! ### Bits -/

theorem getLsbD_bit (i j : Nat) : (bit i).getLsbD j = (decide (j < 64) && decide (j = i)) := by
  rw [bit, BitVec.getLsbD_shiftLeft, BitVec.getLsbD_one]
  by_cases heq : j = i
  · subst heq
    simp
  · by_cases hlt : j < i
    · simp [heq, hlt]
    · have hne : j - i ≠ 0 := by omega
      simp [heq, hne]

theorem getLsbD_setBit (touchs : BitVec 32) {i : Nat} (hi : i < axsMaxId) (j : Nat) :
    (setBit touchs i).getLsbD j = (touchs.getLsbD j || decide (j = i)) := by
  have hi : i < 5 := hi
  rw [setBit, BitVec.getLsbD_setWidth, BitVec.getLsbD_or, BitVec.getLsbD_signExtend, getLsbD_bit]
  by_cases hj : j < 32
  · simp [hj, show j < 64 by omega]
  · have hne : j ≠ i := by omega
    simp [hj, hne, BitVec.getLsbD_of_ge touchs j (by omega)]

theorem getLsbD_clearBit (touchs : BitVec 32) (i j : Nat) :
    (clearBit touchs i).getLsbD j = (touchs.getLsbD j && !decide (j = i)) := by
  rw [clearBit, BitVec.getLsbD_setWidth, BitVec.getLsbD_and, BitVec.getLsbD_signExtend,
    BitVec.getLsbD_not, getLsbD_bit]
  by_cases hj : j < 32
  · simp [hj, show j < 64 by omega]
  · simp [hj, BitVec.getLsbD_of_ge touchs j (by omega)]

/-- Only the bits of ids the parser lets through are set. -/
def Small (touchs : BitVec 32) : Prop := ∀ i, touchs.getLsbD i = true → i < axsMaxId

theorem Small.getLsbD_eq_false {touchs : BitVec 32} (hsmall : Small touchs) {i : Nat}
    (hi : axsMaxId ≤ i) : touchs.getLsbD i = false := by
  rw [← Bool.not_eq_true]
  intro hset
  have hlt := hsmall i hset
  omega

theorem bit_and_ne_zero (mask : BitVec 64) (i : Nat) :
    bit i &&& mask ≠ 0 ↔ mask.getLsbD i = true := by
  constructor
  · intro hne
    by_contra hclear
    refine hne (BitVec.eq_of_getLsbD_eq fun j hj => ?_)
    rw [BitVec.getLsbD_and, getLsbD_bit]
    by_cases heq : j = i
    · subst heq
      simp [hclear]
    · simp [heq]
  · intro hset hzero
    have hlt := BitVec.lt_of_getLsbD hset
    have hclear : (bit i &&& mask).getLsbD i = false := by
      rw [hzero]
      exact BitVec.getLsbD_zero
    rw [BitVec.getLsbD_and, getLsbD_bit, hset] at hclear
    simp [hlt] at hclear

theorem missed_iff {field copy : BitVec 32} (hfield : Small field) (hcopy : Small copy) (i : Nat) :
    bit i &&& (field ^^^ copy).signExtend 64 ≠ 0 ↔ field.getLsbD i ≠ copy.getLsbD i := by
  rw [bit_and_ne_zero, BitVec.getLsbD_signExtend, BitVec.getLsbD_xor, BitVec.msb_xor,
    BitVec.msb_eq_getLsbD_last, BitVec.msb_eq_getLsbD_last]
  by_cases hi : i < axsMaxId
  · have h32 : i < 32 := Nat.lt_trans hi (by decide)
    have h64 : i < 64 := Nat.lt_trans hi (by decide)
    simp [h32, h64]
  · have hi : axsMaxId ≤ i := Nat.le_of_not_lt hi
    have hlast : axsMaxId ≤ 32 - 1 := by decide
    rw [hfield.getLsbD_eq_false hlast, hcopy.getLsbD_eq_false hlast,
      hfield.getLsbD_eq_false hi, hcopy.getLsbD_eq_false hi]
    simp

/-! ### The loop over the points -/

/-- The state the listed points leave an id in, if they name it. -/
def lastState (listed : List TsEvent) (id : Nat) : Option Bool :=
  (listed.filter (·.id = id)).getLast?.map fun event => eventDown event.flag

/-- The ids listed as down. -/
def DownIn (listed : List TsEvent) (id : Nat) : Prop :=
  ∃ event ∈ listed, event.id = id ∧ eventDown event.flag = true

theorem lastState_snoc (listed : List TsEvent) (event : TsEvent) (id : Nat) :
    lastState (listed ++ [event]) id =
      if event.id = id then some (eventDown event.flag) else lastState listed id := by
  by_cases heq : event.id = id <;> simp [lastState, List.filter_append, heq]

theorem downIn_snoc (listed : List TsEvent) (event : TsEvent) (id : Nat) :
    DownIn (listed ++ [event]) id ↔
      DownIn listed id ∨ (event.id = id ∧ eventDown event.flag = true) := by
  simp only [DownIn, List.mem_append, List.mem_singleton, or_and_right, exists_or,
    exists_eq_left]

/-- The loop after the points of `listed`, from the driver data `start`. -/
structure Reported (start : AxsTsData) (listed : List TsEvent) (loop : ReportLoop) : Prop where
  events : ∀ j, (loop.data.events j).id = (start.events j).id ∧
    (loop.data.events j).flag = (start.events j).flag
  active : ∀ i, loop.data.inputDev.active i =
    (lastState listed i).getD (start.inputDev.active i)
  field : ∀ i, loop.data.touchs.getLsbD i = (lastState listed i).getD (start.touchs.getLsbD i)
  copy : ∀ i, loop.touchs.getLsbD i = true ↔ DownIn listed i
  downPoints : 0 < loop.downPoints ↔ ∃ i, DownIn listed i
  vaReported : listed ≠ [] → loop.vaReported = true
  fwLoading : loop.data.fwLoading = start.fwLoading

theorem reportDown_events (data : AxsTsData) (i j : Nat) :
    ((reportDown data i).events j).id = (data.events j).id ∧
      ((reportDown data i).events j).flag = (data.events j).flag := by
  by_cases heq : j = i
  · subst heq
    simp only [reportDown, Function.update_self]
    split <;> split <;> exact ⟨rfl, rfl⟩
  · simp [reportDown, heq]

theorem reportDown_touchs (data : AxsTsData) (i : Nat) :
    (reportDown data i).touchs = setBit data.touchs (data.events i).id := by
  simp only [reportDown]
  split <;> split <;> rfl

theorem reportPoint_events (loop : ReportLoop) (i j : Nat) :
    ((reportPoint loop i).data.events j).id = (loop.data.events j).id ∧
      ((reportPoint loop i).data.events j).flag = (loop.data.events j).flag := by
  unfold reportPoint
  dsimp only
  split
  · exact reportDown_events _ i j
  · exact ⟨rfl, rfl⟩

theorem reportPoint_active (loop : ReportLoop) (i : Nat) :
    (reportPoint loop i).data.inputDev.active =
      Function.update loop.data.inputDev.active (loop.data.events i).id
        (eventDown (loop.data.events i).flag) := by
  unfold reportPoint
  dsimp only
  split
  · next hdown =>
    rw [hdown]
    rfl
  · next hup =>
    rw [Bool.not_eq_true] at hup
    rw [hup]
    rfl

theorem reportPoint_field (loop : ReportLoop) {i : Nat} (hid : (loop.data.events i).id < axsMaxId)
    (j : Nat) :
    (reportPoint loop i).data.touchs.getLsbD j =
      if (loop.data.events i).id = j then eventDown (loop.data.events i).flag
      else loop.data.touchs.getLsbD j := by
  unfold reportPoint
  dsimp only
  split
  · next hdown =>
    rw [reportDown_touchs, getLsbD_setBit _ hid, hdown]
    by_cases heq : (loop.data.events i).id = j
    · simp [heq]
    · simp [heq, Ne.symm heq]
  · next hup =>
    rw [Bool.not_eq_true] at hup
    simp only [reportUp, getLsbD_clearBit, hup]
    by_cases heq : (loop.data.events i).id = j
    · simp [heq]
    · simp [heq, Ne.symm heq]

theorem reportPoint_copy (loop : ReportLoop) {i : Nat} (hid : (loop.data.events i).id < axsMaxId)
    (j : Nat) :
    (reportPoint loop i).touchs.getLsbD j = true ↔ loop.touchs.getLsbD j = true ∨
      ((loop.data.events i).id = j ∧ eventDown (loop.data.events i).flag = true) := by
  unfold reportPoint
  dsimp only
  split
  · next hdown =>
    rw [getLsbD_setBit _ hid, hdown]
    by_cases heq : (loop.data.events i).id = j
    · simp [heq]
    · simp [heq, Ne.symm heq]
  · next hup => simp [hup]

theorem reportPoint_downPoints (loop : ReportLoop) (i : Nat) :
    (reportPoint loop i).downPoints =
      loop.downPoints + if eventDown (loop.data.events i).flag then 1 else 0 := by
  unfold reportPoint
  dsimp only
  split <;> simp_all

theorem reportPoint_vaReported (loop : ReportLoop) (i : Nat) :
    (reportPoint loop i).vaReported = true := by
  unfold reportPoint
  dsimp only
  split <;> rfl

theorem reportPoint_fwLoading (loop : ReportLoop) (i : Nat) :
    (reportPoint loop i).data.fwLoading = loop.data.fwLoading := by
  unfold reportPoint
  dsimp only
  split <;> rfl

/-- One pass takes one more point into account. -/
theorem Reported.step {start : AxsTsData} {listed : List TsEvent} {loop : ReportLoop} {i : Nat}
    (hloop : Reported start listed loop) (hid : (start.events i).id < axsMaxId) :
    Reported start (listed ++ [start.events i]) (reportPoint loop i) := by
  obtain ⟨hsameId, hsameFlag⟩ := hloop.events i
  have hid' : (loop.data.events i).id < axsMaxId := hsameId ▸ hid
  refine ⟨fun j => ?_, fun j => ?_, fun j => ?_, fun j => ?_, ?_, fun _ => ?_, ?_⟩
  · obtain ⟨hid, hflag⟩ := reportPoint_events loop i j
    exact ⟨hid.trans (hloop.events j).1, hflag.trans (hloop.events j).2⟩
  · rw [reportPoint_active, lastState_snoc, hsameId, hsameFlag]
    by_cases heq : (start.events i).id = j
    · subst heq
      simp
    · rw [Function.update_of_ne (Ne.symm heq), if_neg heq, hloop.active j]
  · rw [reportPoint_field loop hid', lastState_snoc, hsameId, hsameFlag, hloop.field j]
    by_cases heq : (start.events i).id = j <;> simp [heq]
  · rw [reportPoint_copy loop hid', downIn_snoc, hsameId, hsameFlag, hloop.copy j]
  · rw [reportPoint_downPoints, hsameFlag]
    simp only [downIn_snoc, exists_or, ← hloop.downPoints]
    by_cases hflag : eventDown (start.events i).flag = true <;> simp [hflag]
  · exact reportPoint_vaReported loop i
  · exact (reportPoint_fwLoading loop i).trans hloop.fwLoading

theorem reported_all {start : AxsTsData} (hids : ∀ event ∈ start.listed, event.id < axsMaxId) :
    Reported start start.listed ((List.range start.touchPoint).foldl reportPoint
      { data := start, downPoints := 0, upPoints := 0, touchs := 0, vaReported := false }) := by
  have hprefix : ∀ count, count ≤ start.touchPoint →
      Reported start ((List.range count).map start.events)
        ((List.range count).foldl reportPoint
          { data := start, downPoints := 0, upPoints := 0, touchs := 0, vaReported := false }) := by
    intro count
    induction count with
    | zero =>
        intro _
        refine ⟨fun j => ⟨rfl, rfl⟩, fun j => rfl, fun j => rfl, fun j => ?_, ?_, ?_, rfl⟩
        · simp [DownIn]
        · simp [DownIn]
        · simp
    | succ count ih =>
        intro hle
        rw [List.range_succ, List.map_append, List.foldl_append]
        have hmem : start.events count ∈ start.listed :=
          List.mem_map.mpr ⟨count, List.mem_range.mpr (by omega), rfl⟩
        exact (ih (by omega)).step (hids _ hmem)
  exact hprefix start.touchPoint (Nat.le_refl _)

/-! ### The loop over the missed slots -/

/-- The loop after the slots below `count`: those in which the field and the copy differ are released. -/
structure Released (start : ReportLoop) (count : Nat) (loop : ReportLoop) : Prop where
  active : ∀ i, loop.data.inputDev.active i =
    if i < count ∧ start.data.touchs.getLsbD i ≠ start.touchs.getLsbD i then false
    else start.data.inputDev.active i
  field : loop.data.touchs = start.data.touchs
  copy : loop.touchs = start.touchs
  downPoints : loop.downPoints = start.downPoints
  vaReported : start.vaReported = true → loop.vaReported = true
  fwLoading : loop.data.fwLoading = start.data.fwLoading

theorem Released.step {start loop : ReportLoop} {count : Nat}
    (hfield : Small start.data.touchs) (hcopy : Small start.touchs)
    (hloop : Released start count loop) : Released start (count + 1) (releaseMissed loop count) := by
  have hmissed := missed_iff hfield hcopy count
  rw [releaseMissed]
  rw [hloop.field, hloop.copy]
  split
  · next hdiffer =>
    have hdiffer := hmissed.mp hdiffer
    refine ⟨fun i => ?_, hloop.field, rfl, hloop.downPoints, fun _ => rfl, hloop.fwLoading⟩
    by_cases heq : i = count
    · subst heq
      simp [InputDev.mtSlot, InputDev.mtReportSlotState, hdiffer]
    · have hlt : i < count + 1 ↔ i < count := by omega
      simp only [InputDev.mtSlot, InputDev.mtReportSlotState, Function.update_of_ne heq, hlt]
      exact hloop.active i
  · next hsame =>
    have hsame := hmissed.not.mp hsame
    refine ⟨fun i => ?_, hloop.field, hloop.copy, hloop.downPoints, hloop.vaReported,
      hloop.fwLoading⟩
    rw [hloop.active i]
    by_cases heq : i = count
    · subst heq
      simp [not_not.mp hsame]
    · have hlt : i < count + 1 ↔ i < count := by omega
      simp only [hlt]

theorem released_all {start : ReportLoop} (hfield : Small start.data.touchs)
    (hcopy : Small start.touchs) (count : Nat) :
    Released start count ((List.range count).foldl releaseMissed start) := by
  induction count with
  | zero => exact ⟨by simp, rfl, rfl, rfl, id, rfl⟩
  | succ count ih =>
      rw [List.range_succ, List.foldl_append]
      exact ih.step hfield hcopy

/-! ### The reporter -/

/-- Every set bit belongs to a slot that the driver has. -/
def Bounded (config : AxsConfig) (touchs : BitVec 32) : Prop :=
  ∀ i, touchs.getLsbD i = true → i < axsMaxId ∧ i < config.maxTouchNumber

theorem lastState_mem {listed : List TsEvent} {id : Nat} {state : Bool}
    (hstate : lastState listed id = some state) :
    ∃ event ∈ listed, event.id = id ∧ eventDown event.flag = state := by
  obtain ⟨event, hlast, hflag⟩ := Option.map_eq_some_iff.mp hstate
  have hmem := List.mem_of_getLast? hlast
  rw [List.mem_filter, decide_eq_true_eq] at hmem
  exact ⟨event, hmem.1, hmem.2, hflag⟩

theorem released_if {start : ReportLoop} (hfield : Small start.data.touchs)
    (hcopy : Small start.touchs) (count : Nat) :
    Released start count (if start.data.touchs ^^^ start.touchs ≠ 0 then
      (List.range count).foldl releaseMissed start else start) := by
  split
  · exact released_all hfield hcopy count
  · next hzero =>
    have hsame : start.data.touchs = start.touchs := BitVec.xor_eq_zero_iff.mp (not_not.mp hzero)
    exact ⟨by simp [hsame], rfl, rfl, rfl, id, rfl⟩

/-- What a report leaves: the field names the ids listed as down, and a slot keeps the state the points left it in unless the field and the copy differed there. -/
theorem axsInputReportB_spec {config : AxsConfig} {data : AxsTsData}
    (hbounded : Bounded config data.touchs)
    (hids : ∀ event ∈ data.listed, event.id < axsMaxId ∧ event.id < config.maxTouchNumber) :
    let after := axsInputReportB config data
    (∀ i, after.touchs.getLsbD i = true ↔ DownIn data.listed i) ∧
    (∀ i, after.inputDev.active i =
      if (lastState data.listed i).getD (data.touchs.getLsbD i) = after.touchs.getLsbD i then
        (lastState data.listed i).getD (data.inputDev.active i)
      else false) ∧
    (data.listed ≠ [] → (after.inputDev.btnTouch = true ↔ ∃ i, DownIn data.listed i)) ∧
    after.fwLoading = data.fwLoading := by
  have hpoints := reported_all fun event hmem => (hids event hmem).1
  generalize hloop : (List.range data.touchPoint).foldl reportPoint
    { data, downPoints := 0, upPoints := 0, touchs := 0, vaReported := false } = loop at hpoints
  have hcopyBound : Bounded config loop.touchs := by
    intro i hset
    obtain ⟨event, hmem, rfl, _⟩ := (hpoints.copy i).mp hset
    exact hids event hmem
  have hfieldBound : Bounded config loop.data.touchs := by
    intro i hset
    rw [hpoints.field i] at hset
    cases hstate : lastState data.listed i with
    | none =>
        rw [hstate] at hset
        exact hbounded i hset
    | some state =>
        obtain ⟨event, hmem, rfl, _⟩ := lastState_mem hstate
        exact hids event hmem
  have hreleased := released_if (fun i hset => (hfieldBound i hset).1)
    (fun i hset => (hcopyBound i hset).1) config.maxTouchNumber
  generalize hlast : (if loop.data.touchs ^^^ loop.touchs ≠ 0 then
    (List.range config.maxTouchNumber).foldl releaseMissed loop else loop) = last at hreleased
  have hafter : axsInputReportB config data = { last.data with
      touchs := last.touchs
      inputDev := (if last.vaReported then last.data.inputDev.reportBtnTouch (0 ≠ last.downPoints)
        else last.data.inputDev).sync } := by
    simp only [axsInputReportB, hloop, hlast]
    cases last.vaReported <;> rfl
  have htouchs : (axsInputReportB config data).touchs = loop.touchs := by
    rw [hafter]
    exact hreleased.copy
  refine ⟨fun i => ?_, fun i => ?_, ?_, ?_⟩
  · rw [htouchs]
    exact hpoints.copy i
  · have hactive : (axsInputReportB config data).inputDev.active i =
        last.data.inputDev.active i := by
      rw [hafter]
      cases last.vaReported <;> rfl
    rw [hactive, hreleased.active i, htouchs, ← hpoints.field i, ← hpoints.active i]
    by_cases hsame : loop.data.touchs.getLsbD i = loop.touchs.getLsbD i
    · simp [hsame]
    · -- a slot in which they differ is one of the driver's
      have hlt : i < config.maxTouchNumber := by
        cases hset : loop.touchs.getLsbD i with
        | true => exact (hcopyBound i hset).2
        | false =>
            rw [hset, Bool.not_eq_false] at hsame
            exact (hfieldBound i hsame).2
      rw [if_pos ⟨hlt, hsame⟩, if_neg hsame]
  · intro hlisted
    rw [← hpoints.downPoints, ← hreleased.downPoints, hafter,
      hreleased.vaReported (hpoints.vaReported hlisted)]
    show decide (0 ≠ last.downPoints) = true ↔ 0 < last.downPoints
    rw [decide_eq_true_iff]
    omega
  · rw [hafter]
    exact hreleased.fwLoading.trans hpoints.fwLoading

end FrontPanel.Touch
