import FrontPanel.Touch.Fingers

/-!
# The two touch protocols

Without `AXS_MT_PROTOCOL_B_EN` the driver is built with `axs_input_report_a`: it has no slots to keep, and sends the points that are down as one packet, each point ended by an `input_mt_sync`. Here is that build, over the same parser and the same interrupt, and what a reader of either device knows at each `input_sync`: which contacts there are, by tracking id or by slot, with their axes, and whether the screen is touched. In every run, as long as no report lists an id twice, readers of the two devices know the same.
-/

namespace FrontPanel.Touch

/-! ### What a reader knows -/

structure Contact where
  x : Nat
  y : Nat
  pressure : Nat
  major : Nat
deriving DecidableEq

structure Screen where
  contacts : Nat → Option Contact
  touching : Bool

/-- The values of the axes as a contact. -/
def contactOf (values : Nat → Nat) : Contact where
  x := values absMtPositionX
  y := values absMtPositionY
  pressure := values absMtPressure
  major := values absMtTouchMajor

def Screen.empty : Screen where
  contacts := fun _ => none
  touching := false

/-- The reader of a device with slots: the axes of a slot stay as they were last set. -/
structure SlotReader where
  slot : Nat
  active : Nat → Bool
  values : Nat → Nat → Nat
  touching : Bool
  screen : Screen

namespace SlotReader

def initial : SlotReader where
  slot := 0
  active := fun _ => false
  values := fun _ _ => 0
  touching := false
  screen := .empty

def read (reader : SlotReader) : InputEvent → SlotReader
  | .mtSlot slot => { reader with slot }
  | .slotState active =>
      { reader with active := Function.update reader.active reader.slot active }
  | .abs code value =>
      { reader with
        values := Function.update reader.values reader.slot
          (Function.update (reader.values reader.slot) code value) }
  | .btnTouch value => { reader with touching := value }
  | .sync =>
      { reader with
        screen :=
          { contacts := fun id => if reader.active id then some (contactOf (reader.values id)) else none
            touching := reader.touching } }

end SlotReader

/-- What the driver sends without slots. -/
inductive PacketEvent
  | abs (code : Nat) (value : Nat)
  | mtSync
  | btnTouch (value : Bool)
  | sync

def absMtTrackingId : Nat := 0x39

/-- The reader of a device without slots: the axes since the last end of a point, and the points since the last packet. -/
structure PacketReader where
  values : Nat → Option Nat
  contacts : Nat → Option Contact
  touching : Bool
  screen : Screen

namespace PacketReader

def initial : PacketReader where
  values := fun _ => none
  contacts := fun _ => none
  touching := false
  screen := .empty

/-- An end of a point without a tracking id ends no point. -/
def read (reader : PacketReader) : PacketEvent → PacketReader
  | .abs code value => { reader with values := Function.update reader.values code (some value) }
  | .mtSync =>
      { reader with
        values := fun _ => none
        contacts :=
          match reader.values absMtTrackingId with
          | some id => Function.update reader.contacts id
              (some (contactOf fun code => (reader.values code).getD 0))
          | none => reader.contacts }
  | .btnTouch value => { reader with touching := value }
  | .sync =>
      { reader with
        values := fun _ => none
        contacts := fun _ => none
        screen := { contacts := reader.contacts, touching := reader.touching } }

end PacketReader

/-! ### The driver without slots -/

/-- The driver data, whose slots stay unused, and what was sent. -/
structure AxsTsDataA where
  data : AxsTsData
  sent : List PacketEvent

namespace AxsTsDataA

def send (driver : AxsTsDataA) (event : PacketEvent) : AxsTsDataA :=
  { driver with sent := driver.sent ++ [event] }

def reader (driver : AxsTsDataA) : PacketReader := driver.sent.foldl PacketReader.read .initial

def initial : AxsTsDataA where
  data := .initial
  sent := []

end AxsTsDataA

/-- The locals of `axs_input_report_a` with the driver data. -/
structure ReportLoopA where
  driver : AxsTsDataA
  downPoints : Nat
  upPoints : Nat
  vaReported : Bool

/-- A point that is down: `weight` and `area` are corrected in the event itself. -/
def reportDownA (driver : AxsTsDataA) (i : Nat) : AxsTsDataA :=
  let event := driver.data.events i
  let driver := driver.send (.abs absMtTrackingId event.id)
  let event := if event.weight ≤ 0 then { event with weight := 0x3f } else event
  let driver := driver.send (.abs absMtPressure event.weight)
  let event := if event.area ≤ 0 then { event with area := 0x09 } else event
  let driver := driver.send (.abs absMtTouchMajor event.area)
  let driver := driver.send (.abs absMtPositionX event.x)
  let driver := driver.send (.abs absMtPositionY event.y)
  let driver := driver.send .mtSync
  { driver with data := { driver.data with events := Function.update driver.data.events i event } }

/-- One pass of the loop over the points. -/
def reportPointA (loop : ReportLoopA) (i : Nat) : ReportLoopA :=
  if eventDown (loop.driver.data.events i).flag then
    { loop with
      vaReported := true
      driver := reportDownA loop.driver i
      downPoints := loop.downPoints + 1 }
  else
    { loop with
      vaReported := true
      upPoints := loop.upPoints + 1 }

def axsInputReportA (driver : AxsTsDataA) : AxsTsDataA :=
  let loop : ReportLoopA := { driver, downPoints := 0, upPoints := 0, vaReported := false }
  let loop := (List.range driver.data.touchPoint).foldl reportPointA loop
  let vaReported := if loop.driver.data.touchs ≠ 0 ∧ loop.downPoints = 0 then true
    else loop.vaReported
  let driver := { loop.driver with
    data := { loop.driver.data with touchs := BitVec.ofNat 32 loop.downPoints } }
  let driver :=
    if vaReported then
      if 0 = loop.downPoints then (driver.send (.btnTouch false)).send .mtSync
      else driver.send (.btnTouch true)
    else driver
  driver.send .sync

/-- `axs_release_all_finger` of this build. -/
def axsReleaseAllFingerA (driver : AxsTsDataA) : AxsTsDataA :=
  let driver := ((driver.send (.btnTouch false)).send .mtSync).send .sync
  { driver with data := { driver.data with touchs := 0, touchPoint := 0, keyState := 0 } }

def axsTsReportThreadHandlerA (config : AxsConfig) (driver : AxsTsDataA) (bus : BusRead) :
    Option AxsTsDataA := do
  let (data, ret) ← axsReadParseTouchdata config driver.data bus
  let driver := { driver with data }
  if ret = 0 then return axsInputReportA driver
  else return driver

def axsTsInterruptA (config : AxsConfig) (driver : AxsTsDataA) (bus : BusRead) :
    Option AxsTsDataA :=
  if driver.data.fwLoading then some driver
  else axsTsReportThreadHandlerA config driver bus

def touchStepA (config : AxsConfig) (before : AxsTsDataA) (event : TouchEvent) (after : AxsTsDataA) :
    Prop :=
  match event with
  | .interrupt bus => axsTsInterruptA config before bus = some after
  | .releaseAll => after = axsReleaseAllFingerA before
  | .fwLoading loading => after = { before with data := { before.data with fwLoading := loading } }

/-! ### The points of a report -/

/-- An event as it is reported. -/
def TsEvent.contact (event : TsEvent) : Contact where
  x := event.x
  y := event.y
  pressure := if event.weight ≤ 0 then 0x3f else event.weight
  major := if event.area ≤ 0 then 0x09 else event.area

/-- The contact an id is last listed with as down. -/
def downContact (listed : List TsEvent) (id : Nat) : Option Contact :=
  (listed.filter fun event => event.id = id ∧ eventDown event.flag).getLast?.map TsEvent.contact

theorem downContact_snoc (listed : List TsEvent) (event : TsEvent) (id : Nat) :
    downContact (listed ++ [event]) id =
      if event.id = id ∧ eventDown event.flag then some event.contact else downContact listed id := by
  by_cases hdown : event.id = id ∧ eventDown event.flag = true
  · simp [downContact, List.filter_append, hdown]
  · have hsingle : [event].filter (fun event => event.id = id ∧ eventDown event.flag) = [] := by
      rw [List.filter_eq_nil_iff]
      simpa using hdown
    rw [if_neg hdown, downContact, List.filter_append, hsingle, List.append_nil]
    rfl

theorem downContact_isSome (listed : List TsEvent) (id : Nat) :
    (downContact listed id).isSome = true ↔ DownIn listed id := by
  rw [downContact, Option.isSome_map, List.getLast?_isSome, ne_eq, List.filter_eq_nil_iff]
  simp [DownIn]

/-- What a report shows. -/
def reportScreen (listed : List TsEvent) : Screen where
  contacts := downContact listed
  touching := listed.any fun event => eventDown event.flag

theorem touching_iff (listed : List TsEvent) :
    (reportScreen listed).touching = true ↔ ∃ id, DownIn listed id := by
  simp [reportScreen, DownIn]

/-! ### The reader of the slots -/

def InputDev.reader (dev : InputDev) : SlotReader := dev.events.foldl SlotReader.read .initial

section SlotReader

variable (dev : InputDev)

@[simp] theorem reader_mtSlot (slot : Nat) :
    (dev.mtSlot slot).reader = dev.reader.read (.mtSlot slot) := List.foldl_concat _ _ _ _

@[simp] theorem reader_mtReportSlotState (active : Bool) :
    (dev.mtReportSlotState active).reader = dev.reader.read (.slotState active) :=
  List.foldl_concat _ _ _ _

@[simp] theorem reader_reportAbs (code value : Nat) :
    (dev.reportAbs code value).reader = dev.reader.read (.abs code value) := List.foldl_concat _ _ _ _

@[simp] theorem reader_reportBtnTouch (value : Bool) :
    (dev.reportBtnTouch value).reader = dev.reader.read (.btnTouch value) := List.foldl_concat _ _ _ _

@[simp] theorem reader_sync : dev.sync.reader = dev.reader.read .sync := List.foldl_concat _ _ _ _

end SlotReader

/-- The reader has the slots as the input layer keeps them. -/
structure InputDev.Coherent (dev : InputDev) : Prop where
  slot : dev.reader.slot = dev.slot
  active : dev.reader.active = dev.active
  touching : dev.reader.touching = dev.btnTouch

namespace InputDev.Coherent

variable {dev : InputDev}

theorem mtSlot (hdev : dev.Coherent) (slot : Nat) : (dev.mtSlot slot).Coherent :=
  ⟨by rw [reader_mtSlot]; rfl, by rw [reader_mtSlot]; exact hdev.active,
    by rw [reader_mtSlot]; exact hdev.touching⟩

theorem mtReportSlotState (hdev : dev.Coherent) (active : Bool) :
    (dev.mtReportSlotState active).Coherent := by
  refine ⟨?_, ?_, ?_⟩
  · rw [reader_mtReportSlotState]
    exact hdev.slot
  · rw [reader_mtReportSlotState, SlotReader.read, hdev.slot, hdev.active]
    rfl
  · rw [reader_mtReportSlotState]
    exact hdev.touching

theorem reportAbs (hdev : dev.Coherent) (code value : Nat) : (dev.reportAbs code value).Coherent :=
  ⟨by rw [reader_reportAbs]; exact hdev.slot, by rw [reader_reportAbs]; exact hdev.active,
    by rw [reader_reportAbs]; exact hdev.touching⟩

theorem reportBtnTouch (hdev : dev.Coherent) (value : Bool) : (dev.reportBtnTouch value).Coherent :=
  ⟨by rw [reader_reportBtnTouch]; exact hdev.slot, by rw [reader_reportBtnTouch]; exact hdev.active,
    by rw [reader_reportBtnTouch]; rfl⟩

theorem sync (hdev : dev.Coherent) : dev.sync.Coherent :=
  ⟨by rw [reader_sync]; exact hdev.slot, by rw [reader_sync]; exact hdev.active,
    by rw [reader_sync]; exact hdev.touching⟩

end InputDev.Coherent

/-- The event with its corrections. -/
def TsEvent.corrected (event : TsEvent) : TsEvent :=
  { event with weight := event.contact.pressure, area := event.contact.major }

theorem contact_corrected (event : TsEvent) : event.corrected.contact = event.contact := by
  simp only [TsEvent.corrected, TsEvent.contact]
  congr 1
  all_goals
    split
    · rfl
    · rfl

/-- The selected slot down, with all its axes. -/
def InputDev.reportContact (dev : InputDev) (contact : Contact) : InputDev :=
  ((((dev.mtReportSlotState true).reportAbs absMtPressure contact.pressure).reportAbs
    absMtTouchMajor contact.major).reportAbs absMtPositionX contact.x).reportAbs
    absMtPositionY contact.y

theorem reportDown_eq (data : AxsTsData) (i : Nat) :
    reportDown data i = { data with
      events := Function.update data.events i (data.events i).corrected
      inputDev := data.inputDev.reportContact (data.events i).contact
      touchs := setBit data.touchs (data.events i).id } := by
  by_cases hweight : (data.events i).weight ≤ 0
  all_goals
    by_cases harea : (data.events i).area ≤ 0
    all_goals
      simp only [reportDown, InputDev.reportContact, TsEvent.corrected, TsEvent.contact, hweight,
        harea, if_true, if_false]

theorem InputDev.Coherent.reportContact {dev : InputDev} (hdev : dev.Coherent) (contact : Contact) :
    (dev.reportContact contact).Coherent :=
  ((((hdev.mtReportSlotState true).reportAbs _ _).reportAbs _ _).reportAbs _ _).reportAbs _ _

theorem reportContact_values (dev : InputDev) (contact : Contact) (id : Nat) :
    contactOf ((dev.reportContact contact).reader.values id) =
      if id = dev.reader.slot then contact else contactOf (dev.reader.values id) := by
  by_cases hsame : id = dev.reader.slot
  · subst hsame
    simp [InputDev.reportContact, SlotReader.read, contactOf, absMtPositionX, absMtPositionY,
      absMtPressure, absMtTouchMajor]
  · simp [InputDev.reportContact, SlotReader.read, hsame]

/-- The reader after the points of `listed`, from the driver data `start`. -/
structure Told (start : AxsTsData) (listed : List TsEvent) (loop : ReportLoop) : Prop where
  coherent : loop.data.inputDev.Coherent
  events : ∀ j, (loop.data.events j).id = (start.events j).id ∧
    (loop.data.events j).flag = (start.events j).flag ∧
      (loop.data.events j).contact = (start.events j).contact
  values : ∀ id contact, downContact listed id = some contact →
    contactOf (loop.data.inputDev.reader.values id) = contact

theorem Told.step {start : AxsTsData} {listed : List TsEvent} {loop : ReportLoop} (i : Nat)
    (htold : Told start listed loop) :
    Told start (listed ++ [start.events i]) (reportPoint loop i) := by
  obtain ⟨hid, hflag, hcontact⟩ := htold.events i
  have hsame : ∀ j, ((reportPoint loop i).data.events j).id = (start.events j).id ∧
      ((reportPoint loop i).data.events j).flag = (start.events j).flag := fun j =>
    ⟨(reportPoint_events loop i j).1.trans (htold.events j).1,
      (reportPoint_events loop i j).2.trans (htold.events j).2.1⟩
  have hselected := htold.coherent.mtSlot (loop.data.events i).id
  by_cases hdown : eventDown (loop.data.events i).flag = true
  · have hpoint : (reportPoint loop i).data =
        reportDown { loop.data with
          inputDev := loop.data.inputDev.mtSlot (loop.data.events i).id } i := by
      simp only [reportPoint, hdown, if_true]
    rw [reportDown_eq] at hpoint
    refine ⟨?_, fun j => ⟨(hsame j).1, (hsame j).2, ?_⟩, fun id contact hlast => ?_⟩
    · rw [hpoint]
      exact hselected.reportContact _
    · rw [hpoint]
      by_cases hpast : j = i
      · subst hpast
        simp only [Function.update_self, contact_corrected]
        exact hcontact
      · simp only [Function.update_of_ne hpast]
        exact (htold.events j).2.2
    · rw [downContact_snoc, ← hid, ← hflag] at hlast
      rw [hpoint]
      simp only [reportContact_values, reader_mtSlot, SlotReader.read]
      split
      · next hlisted =>
        rw [if_pos ⟨hlisted.symm, hdown⟩] at hlast
        rw [hcontact, Option.some.inj hlast]
      · next hother =>
        rw [if_neg fun hgiven => hother hgiven.1.symm] at hlast
        exact htold.values id contact hlast
  · have hpoint : (reportPoint loop i).data.inputDev =
        (loop.data.inputDev.mtSlot (loop.data.events i).id).mtReportSlotState false := by
      simp only [reportPoint, hdown]
      rfl
    have hevents : (reportPoint loop i).data.events = loop.data.events := by
      simp only [reportPoint, hdown]
      rfl
    refine ⟨?_, fun j => ⟨(hsame j).1, (hsame j).2, ?_⟩, fun id contact hlast => ?_⟩
    · rw [hpoint]
      exact hselected.mtReportSlotState false
    · rw [hevents]
      exact (htold.events j).2.2
    · rw [downContact_snoc, if_neg fun hgiven => hdown (hflag ▸ hgiven.2)] at hlast
      rw [hpoint, reader_mtReportSlotState, reader_mtSlot]
      exact htold.values id contact hlast

theorem told_all {start : AxsTsData} (hstart : start.inputDev.Coherent) :
    Told start start.listed ((List.range start.touchPoint).foldl reportPoint
      { data := start, downPoints := 0, upPoints := 0, touchs := 0, vaReported := false }) := by
  rw [AxsTsData.listed]
  generalize start.touchPoint = count
  induction count with
  | zero =>
      refine ⟨hstart, fun j => ⟨rfl, rfl, rfl⟩, fun id contact hlast => ?_⟩
      cases hlast
  | succ count ih =>
      rw [List.range_succ, List.map_append, List.foldl_append]
      exact ih.step count

theorem releaseMissed_reader {loop : ReportLoop} (hloop : loop.data.inputDev.Coherent) (i : Nat) :
    (releaseMissed loop i).data.inputDev.Coherent ∧
      (releaseMissed loop i).data.inputDev.reader.values = loop.data.inputDev.reader.values := by
  rw [releaseMissed]
  split
  · refine ⟨(hloop.mtSlot i).mtReportSlotState false, ?_⟩
    rw [reader_mtReportSlotState, reader_mtSlot]
    rfl
  · exact ⟨hloop, rfl⟩

theorem releaseMissed_all {loop : ReportLoop} (hloop : loop.data.inputDev.Coherent)
    (slots : List Nat) :
    (slots.foldl releaseMissed loop).data.inputDev.Coherent ∧
      (slots.foldl releaseMissed loop).data.inputDev.reader.values =
        loop.data.inputDev.reader.values := by
  induction slots generalizing loop with
  | nil => exact ⟨hloop, rfl⟩
  | cons slot slots ih =>
      obtain ⟨hone, hvalues⟩ := releaseMissed_reader hloop slot
      obtain ⟨hall, hrest⟩ := ih hone
      exact ⟨hall, hrest.trans hvalues⟩

/-- What a reader knows of the slots as the input layer keeps them. -/
def InputDev.shown (dev : InputDev) : Screen where
  contacts := fun id => if dev.active id then some (contactOf (dev.reader.values id)) else none
  touching := dev.btnTouch

theorem InputDev.Coherent.screen_sync {dev : InputDev} (hdev : dev.Coherent) :
    dev.sync.reader.screen = dev.sync.shown := by
  simp only [reader_sync, SlotReader.read, hdev.active, hdev.touching, InputDev.shown]
  rfl

theorem axsInputReportB_told (config : AxsConfig) {data : AxsTsData}
    (hdev : data.inputDev.Coherent) :
    let after := (axsInputReportB config data).inputDev
    after.Coherent ∧ after.reader.screen = after.shown ∧
      ∀ id contact, downContact data.listed id = some contact →
        contactOf (after.reader.values id) = contact := by
  have htold := told_all hdev
  generalize hloop : (List.range data.touchPoint).foldl reportPoint
    { data, downPoints := 0, upPoints := 0, touchs := 0, vaReported := false } = loop at htold
  have hmissed : ∀ last, last = (if loop.data.touchs ^^^ loop.touchs ≠ 0 then
      (List.range config.maxTouchNumber).foldl releaseMissed loop else loop) →
      last.data.inputDev.Coherent ∧
        last.data.inputDev.reader.values = loop.data.inputDev.reader.values := by
    intro last hlast
    rw [hlast]
    split
    · exact releaseMissed_all htold.coherent _
    · exact ⟨htold.coherent, rfl⟩
  simp only [axsInputReportB, hloop]
  generalize (if loop.data.touchs ^^^ loop.touchs ≠ 0 then
    (List.range config.maxTouchNumber).foldl releaseMissed loop else loop) = last at hmissed ⊢
  obtain ⟨hlast, hvalues⟩ := hmissed last rfl
  have hcontacts : ∀ id contact, downContact data.listed id = some contact →
      contactOf (last.data.inputDev.reader.values id) = contact := by
    intro id contact hdown
    rw [hvalues]
    exact htold.values id contact hdown
  cases last.vaReported with
  | false =>
      refine ⟨hlast.sync, hlast.screen_sync, fun id contact hdown => ?_⟩
      simp only [Bool.false_eq_true, if_false, reader_sync]
      exact hcontacts id contact hdown
  | true =>
      have hbtn := hlast.reportBtnTouch (0 ≠ last.downPoints)
      refine ⟨hbtn.sync, hbtn.screen_sync, fun id contact hdown => ?_⟩
      simp only [if_true, reader_sync, reader_reportBtnTouch]
      exact hcontacts id contact hdown

theorem axsInputReportB_screen {config : AxsConfig} {data : AxsTsData}
    (hdata : Consistent config data) (hdev : data.inputDev.Coherent)
    (hids : ∀ event ∈ data.listed, event.id < axsMaxId ∧ event.id < config.maxTouchNumber)
    (hdistinct : (data.listed.map TsEvent.id).Nodup) (hsome : data.listed ≠ []) :
    (axsInputReportB config data).inputDev.reader.screen = reportScreen data.listed := by
  obtain ⟨hfield, -, hbtn, -⟩ := axsInputReportB_spec hdata.bounded hids
  obtain ⟨-, hscreen, hcontacts⟩ := axsInputReportB_told config hdev
  rw [hscreen, InputDev.shown, reportScreen]
  congr 1
  · funext id
    have hdown : (axsInputReportB config data).inputDev.active id = true ↔
        (downContact data.listed id).isSome = true := by
      rw [axsInputReportB_active hdata hids hdistinct, hfield id, downContact_isSome]
    cases hlast : downContact data.listed id with
    | none =>
        rw [hlast] at hdown
        exact if_neg fun hset => by simpa using hdown.mp hset
    | some contact =>
        rw [hlast] at hdown
        rw [if_pos (hdown.mpr rfl), hcontacts id contact hlast]
  · rw [Bool.eq_iff_iff, hbtn hsome]
    exact (touching_iff data.listed).symm

theorem axsReleaseAllFinger_screen {config : AxsConfig} {data : AxsTsData}
    (hdata : Consistent config data) (hdev : data.inputDev.Coherent) :
    (axsReleaseAllFinger config data).inputDev.Coherent ∧
      (axsReleaseAllFinger config data).inputDev.reader.screen = .empty := by
  have hslots : ∀ slots : List Nat, (slots.foldl
      (fun dev finger => (dev.mtSlot finger).mtReportSlotState false) data.inputDev).Coherent := by
    intro slots
    induction slots using List.reverseRecOn with
    | nil => exact hdev
    | append_singleton slots slot ih =>
        rw [List.foldl_concat]
        exact (ih.mtSlot slot).mtReportSlotState false
  have hreleased := (hslots (List.range config.maxTouchNumber)).reportBtnTouch false
  refine ⟨hreleased.sync, hreleased.screen_sync.trans ?_⟩
  rw [InputDev.shown, Screen.empty]
  congr 1
  funext id
  exact if_neg (Bool.not_eq_true _ |>.mpr (hdata.releaseAll.2 id))

/-! ### The reader of the packets -/

@[simp] theorem reader_send (driver : AxsTsDataA) (event : PacketEvent) :
    (driver.send event).reader = driver.reader.read event := List.foldl_concat _ _ _ _

/-- Between two packets, and between two points of one. -/
def PacketReader.Fresh (reader : PacketReader) : Prop := reader.values = fun _ => none

/-- A point that is down, ended. -/
def AxsTsDataA.sendContact (driver : AxsTsDataA) (id : Nat) (contact : Contact) : AxsTsDataA :=
  (((((driver.send (.abs absMtTrackingId id)).send (.abs absMtPressure contact.pressure)).send
    (.abs absMtTouchMajor contact.major)).send (.abs absMtPositionX contact.x)).send
    (.abs absMtPositionY contact.y)).send .mtSync

theorem PacketReader.Fresh.read_mtSync {reader : PacketReader} (hfresh : reader.Fresh) :
    reader.read .mtSync = reader := by
  have hid : reader.values absMtTrackingId = none := congrFun hfresh absMtTrackingId
  simp only [PacketReader.read, hid]
  rw [← hfresh]

theorem reportDownA_eq (driver : AxsTsDataA) (i : Nat) :
    reportDownA driver i =
      { driver.sendContact (driver.data.events i).id (driver.data.events i).contact with
        data := { driver.data with
          events := Function.update driver.data.events i (driver.data.events i).corrected } } := by
  by_cases hweight : (driver.data.events i).weight ≤ 0
  all_goals
    by_cases harea : (driver.data.events i).area ≤ 0
    all_goals
      simp only [reportDownA, AxsTsDataA.sendContact, AxsTsDataA.send, TsEvent.corrected,
        TsEvent.contact, hweight, harea, if_true, if_false]

theorem sendContact_reader (driver : AxsTsDataA) (id : Nat) (contact : Contact) :
    (driver.sendContact id contact).reader.Fresh ∧
    (driver.sendContact id contact).reader.contacts =
      Function.update driver.reader.contacts id (some contact) := by
  constructor
  · simp only [AxsTsDataA.sendContact, reader_send, PacketReader.read]
    rfl
  · simp [AxsTsDataA.sendContact, PacketReader.read, contactOf, absMtPositionX, absMtPositionY,
      absMtPressure, absMtTouchMajor, absMtTrackingId]

/-- The loop after the points of `listed`, from the driver `start`. -/
structure Packed (start : AxsTsDataA) (listed : List TsEvent) (loop : ReportLoopA) : Prop where
  fresh : loop.driver.reader.Fresh
  contacts : loop.driver.reader.contacts = downContact listed
  events : ∀ j, (loop.driver.data.events j).id = (start.data.events j).id ∧
    (loop.driver.data.events j).flag = (start.data.events j).flag ∧
      (loop.driver.data.events j).contact = (start.data.events j).contact
  downPoints : 0 < loop.downPoints ↔ ∃ id, DownIn listed id
  vaReported : listed ≠ [] → loop.vaReported = true
  fwLoading : loop.driver.data.fwLoading = start.data.fwLoading

theorem Packed.step {start : AxsTsDataA} {listed : List TsEvent} {loop : ReportLoopA} (i : Nat)
    (hpacked : Packed start listed loop) :
    Packed start (listed ++ [start.data.events i]) (reportPointA loop i) := by
  obtain ⟨hid, hflag, hcontact⟩ := hpacked.events i
  by_cases hdown : eventDown (loop.driver.data.events i).flag = true
  · have hpoint : reportPointA loop i = { loop with
        vaReported := true
        driver := reportDownA loop.driver i
        downPoints := loop.downPoints + 1 } := if_pos hdown
    rw [reportDownA_eq] at hpoint
    have hreader := sendContact_reader loop.driver (loop.driver.data.events i).id
      (loop.driver.data.events i).contact
    rw [hpoint]
    refine ⟨hreader.1, ?_, fun j => ?_, ?_, fun _ => rfl, hpacked.fwLoading⟩
    · funext id
      have hcontacts := congrFun hreader.2 id
      rw [downContact_snoc, ← hid, ← hflag, ← hcontact, ← hpacked.contacts]
      by_cases hsame : (loop.driver.data.events i).id = id
      · subst hsame
        rw [if_pos ⟨rfl, hdown⟩]
        exact hcontacts.trans (Function.update_self _ _ _)
      · rw [if_neg fun hgiven => hsame hgiven.1]
        exact hcontacts.trans (Function.update_of_ne (Ne.symm hsame) _ _)
    · by_cases hpast : j = i
      · subst hpast
        simp only [Function.update_self, contact_corrected]
        exact ⟨hid, hflag, hcontact⟩
      · simp only [Function.update_of_ne hpast]
        exact hpacked.events j
    · refine iff_of_true (Nat.succ_pos _) ⟨_, (downIn_snoc _ _ _).mpr (.inr ⟨rfl, ?_⟩)⟩
      rw [← hflag]
      exact hdown
  · have hpoint : reportPointA loop i = { loop with
        vaReported := true
        upPoints := loop.upPoints + 1 } := if_neg hdown
    rw [hpoint]
    refine ⟨hpacked.fresh, ?_, hpacked.events, ?_, fun _ => rfl, hpacked.fwLoading⟩
    · funext id
      rw [downContact_snoc, if_neg fun hgiven => hdown (hflag ▸ hgiven.2)]
      exact congrFun hpacked.contacts id
    · rw [hpacked.downPoints]
      refine exists_congr fun id => ?_
      rw [downIn_snoc, ← hflag]
      exact (or_iff_left fun hgiven => hdown hgiven.2).symm

theorem packed_all {start : AxsTsDataA} (hfresh : start.reader.Fresh)
    (hnone : start.reader.contacts = fun _ => none) :
    Packed start start.data.listed ((List.range start.data.touchPoint).foldl reportPointA
      { driver := start, downPoints := 0, upPoints := 0, vaReported := false }) := by
  rw [AxsTsData.listed]
  generalize start.data.touchPoint = count
  induction count with
  | zero =>
      refine ⟨hfresh, hnone, fun j => ⟨rfl, rfl, rfl⟩, ?_, fun hsome => absurd rfl hsome, rfl⟩
      simp [DownIn]
  | succ count ih =>
      rw [List.range_succ, List.map_append, List.foldl_append]
      exact ih.step count

/-- What a report shows, sent as one packet. -/
theorem axsInputReportA_screen (driver : AxsTsDataA) (hfresh : driver.reader.Fresh)
    (hnone : driver.reader.contacts = fun _ => none) (hsome : driver.data.listed ≠ []) :
    (axsInputReportA driver).reader.Fresh ∧
      (axsInputReportA driver).reader.contacts = (fun _ => none) ∧
      (axsInputReportA driver).reader.screen = reportScreen driver.data.listed ∧
      (axsInputReportA driver).data.fwLoading = driver.data.fwLoading := by
  have hpacked := packed_all hfresh hnone
  generalize hloop : (List.range driver.data.touchPoint).foldl reportPointA
    { driver, downPoints := 0, upPoints := 0, vaReported := false } = loop at hpacked
  have hreported : (if loop.driver.data.touchs ≠ 0 ∧ loop.downPoints = 0 then true
      else loop.vaReported) = true := by
    rw [hpacked.vaReported hsome, ite_self]
  have hend : (axsInputReportA driver).reader =
      (loop.driver.reader.read (.btnTouch (0 < loop.downPoints))).read .sync := by
    simp only [axsInputReportA, hloop, hreported, if_true]
    by_cases hup : 0 = loop.downPoints
    · have hpacket : (loop.driver.reader.read (.btnTouch false)).Fresh := hpacked.fresh
      rw [if_pos hup, reader_send, reader_send, reader_send, ← hup]
      exact congrArg (PacketReader.read · .sync) hpacket.read_mtSync
    · rw [if_neg hup, reader_send, reader_send, decide_eq_true (Nat.pos_of_ne_zero (Ne.symm hup))]
      rfl
  have hloading : (axsInputReportA driver).data.fwLoading = loop.driver.data.fwLoading := by
    simp only [axsInputReportA, hloop, hreported, if_true]
    split <;> rfl
  have htouching : decide (0 < loop.downPoints) = (reportScreen driver.data.listed).touching := by
    rw [Bool.eq_iff_iff, decide_eq_true_iff, hpacked.downPoints]
    exact (touching_iff driver.data.listed).symm
  rw [hend]
  refine ⟨rfl, rfl, ?_, hloading.trans hpacked.fwLoading⟩
  show Screen.mk loop.driver.reader.contacts (decide (0 < loop.downPoints)) = _
  rw [hpacked.contacts, htouching]
  rfl

/-! ### The same run under both protocols -/

/-- What the parser makes of a report does not depend on what it has made of earlier ones. -/
theorem parsePoints_congr (config : AxsConfig) (num left i : Nat) (data other : AxsTsData)
    (hbuf : other.pointBuf = data.pointBuf) (hpoint : other.touchPoint = data.touchPoint) :
    (parsePoints config num left i other).2 = (parsePoints config num left i data).2 ∧
      (parsePoints config num left i other).1.touchPoint =
        (parsePoints config num left i data).1.touchPoint := by
  induction left generalizing i data other with
  | zero => exact ⟨rfl, hpoint⟩
  | succ left ih =>
      simp only [parsePoints, hbuf]
      split
      · exact ⟨rfl, hpoint⟩
      split
      · exact ⟨rfl, hpoint⟩
      split
      · exact ⟨rfl, congrArg (· + 1) hpoint⟩
      · exact ih (i + 1) _ _ rfl (congrArg (· + 1) hpoint)

theorem finishParse_congr {parsed other : AxsTsData × Option Int} (hret : other.2 = parsed.2)
    (hpoint : other.1.touchPoint = parsed.1.touchPoint) :
    (finishParse other).2 = (finishParse parsed).2 := by
  obtain ⟨data, _⟩ := parsed
  obtain ⟨last, early⟩ := other
  obtain rfl := hret
  cases early with
  | some ret => rfl
  | none =>
      have hpoint : last.touchPoint = data.touchPoint := hpoint
      simp only [finishParse, hpoint]
      split <;> rfl

theorem axsReadParseTouchdata_ret (config : AxsConfig) (data other : AxsTsData) (bus : BusRead) :
    (axsReadParseTouchdata config other bus).map Prod.snd =
      (axsReadParseTouchdata config data bus).map Prod.snd := by
  by_cases hret : bus.ret < 0
  · simp [axsReadParseTouchdata, axsReadTouchdata, hret]
  cases hsum : crcSum config bus.buf with
  | none => simp [axsReadParseTouchdata, axsReadTouchdata, hret, hsum]
  | some sum =>
      by_cases hcrc : sum = bus.buf (config.pntBufSize - 1)
      · by_cases hgesture : bus.buf axsTouchGesturePos = 0
        · have haccepted : ∀ data, axsReadParseTouchdata config data bus =
              some (parseReport config data bus.buf) := fun data =>
            axsReadParseTouchdata_accepted data (by omega) (hcrc ▸ hsum) hgesture
          obtain ⟨hloop, hpoint⟩ := parsePoints_congr config
            (min (pointNum bus.buf) config.maxTouchNumber)
            (min (pointNum bus.buf) config.maxTouchNumber) 0
            { data with pointBuf := bus.buf, touchPoint := 0 }
            { other with pointBuf := bus.buf, touchPoint := 0 } rfl rfl
          rw [haccepted, haccepted]
          exact congrArg some (finishParse_congr hloop hpoint)
        · simp [axsReadParseTouchdata, axsReadTouchdata, hret, hsum, hcrc, Ne.symm hgesture]
      · simp [axsReadParseTouchdata, axsReadTouchdata, hret, hsum, hcrc]

theorem axsReadParseTouchdata_same {config : AxsConfig} {data parsed : AxsTsData} {bus : BusRead}
    {ret : Int} (other : AxsTsData)
    (hread : axsReadParseTouchdata config data bus = some (parsed, ret)) :
    ∃ last, axsReadParseTouchdata config other bus = some (last, ret) := by
  have hsame := axsReadParseTouchdata_ret config data other bus
  rw [hread] at hsame
  obtain ⟨⟨last, _⟩, hother, rfl⟩ := Option.map_eq_some_iff.mp hsame
  exact ⟨last, hother⟩

theorem axsTsReportThreadHandlerA_iff {config : AxsConfig} {driver after : AxsTsDataA}
    {bus : BusRead} :
    axsTsReportThreadHandlerA config driver bus = some after ↔
      ∃ parsed ret, axsReadParseTouchdata config driver.data bus = some (parsed, ret) ∧
        after = if ret = 0 then axsInputReportA { driver with data := parsed }
          else { driver with data := parsed } := by
  rw [axsTsReportThreadHandlerA]
  cases axsReadParseTouchdata config driver.data bus with
  | none => simp
  | some read =>
      obtain ⟨parsed, ret⟩ := read
      by_cases hret : ret = 0
      · simp [hret, eq_comm]
      · simp [hret, eq_comm]

/-- The two drivers after the same events. -/
structure SameScreen (config : AxsConfig) (driver : AxsTsDataA) (data : AxsTsData) : Prop where
  consistent : Consistent config data
  coherent : data.inputDev.Coherent
  fresh : driver.reader.Fresh
  contacts : driver.reader.contacts = fun _ => none
  fwLoading : driver.data.fwLoading = data.fwLoading
  screen : driver.reader.screen = data.inputDev.reader.screen

theorem SameScreen.initial (config : AxsConfig) : SameScreen config .initial .initial :=
  ⟨.initial config, ⟨rfl, rfl, rfl⟩, rfl, rfl, rfl, rfl⟩

section Simulation

variable {config : AxsConfig} {driver : AxsTsDataA} {data : AxsTsData}

theorem SameScreen.report (hsame : SameScreen config driver data) {bus : BusRead}
    (hdistinct : ((listedPoints config bus.buf).map TsEvent.id).Nodup)
    {parsed last : AxsTsData} {ret : Int}
    (hread : axsReadParseTouchdata config data bus = some (parsed, ret))
    (hreadA : axsReadParseTouchdata config driver.data bus = some (last, ret)) :
    SameScreen config (if ret = 0 then axsInputReportA { driver with data := last }
      else { driver with data := last })
      (if ret = 0 then axsInputReportB config parsed else parsed) := by
  obtain ⟨htouchs, hdev, hloading, hzero⟩ := axsReadParseTouchdata_spec hread
  obtain ⟨-, -, hloadingA, hzeroA⟩ := axsReadParseTouchdata_spec hreadA
  have hparsed : Consistent config parsed :=
    ⟨htouchs ▸ hsame.consistent.bounded, by rw [htouchs, hdev]; exact hsame.consistent.covers⟩
  have hcoherent : parsed.inputDev.Coherent := hdev ▸ hsame.coherent
  have hloadings : last.fwLoading = parsed.fwLoading := by
    rw [hloadingA, hloading, hsame.fwLoading]
  by_cases hret : ret = 0
  · obtain ⟨hlisted, hsome, hids⟩ := hzero hret
    obtain ⟨hlistedA, hsomeA, -⟩ := hzeroA hret
    have hscreen := axsInputReportB_screen hparsed hcoherent hids (hlisted ▸ hdistinct) hsome
    obtain ⟨hfresh, hcontacts, hscreenA, hkept⟩ :=
      axsInputReportA_screen { driver with data := last } hsame.fresh hsame.contacts hsomeA
    obtain ⟨-, -, -, hkeptB⟩ := axsInputReportB_spec hparsed.bounded hids
    rw [if_pos hret, if_pos hret]
    refine ⟨hparsed.report hids, (axsInputReportB_told config hcoherent).1, hfresh, hcontacts, ?_, ?_⟩
    · rw [hkept, hkeptB]
      exact hloadings
    · rw [hscreenA, hscreen]
      exact congrArg reportScreen (hlistedA.trans hlisted.symm)
  · rw [if_neg hret, if_neg hret]
    refine ⟨hparsed, hcoherent, hsame.fresh, hsame.contacts, hloadings, ?_⟩
    rw [hdev]
    exact hsame.screen

theorem SameScreen.releaseAll (hsame : SameScreen config driver data) :
    SameScreen config (axsReleaseAllFingerA driver) (axsReleaseAllFinger config data) := by
  obtain ⟨hcoherent, hscreen⟩ := axsReleaseAllFinger_screen hsame.consistent hsame.coherent
  obtain ⟨htouchs, hactive⟩ := hsame.consistent.releaseAll
  have hpacket : (driver.reader.read (.btnTouch false)).Fresh := hsame.fresh
  have hreader : (axsReleaseAllFingerA driver).reader =
      (driver.reader.read (.btnTouch false)).read .sync := by
    rw [← hpacket.read_mtSync, ← reader_send, ← reader_send, ← reader_send]
    rfl
  refine ⟨consistent_of_released htouchs hactive, hcoherent, ?_, ?_, hsame.fwLoading, ?_⟩
  · rw [hreader]
    rfl
  · rw [hreader]
    rfl
  · rw [hreader, hscreen]
    show Screen.mk driver.reader.contacts false = _
    rw [hsame.contacts]
    rfl

/-- Every step of one driver is a step of the other, and readers of the two devices still know the same. -/
theorem SameScreen.step (hsame : SameScreen config driver data) {event : TouchEvent}
    (hdistinct : DistinctIds config event) :
    (∀ after, touchStep config data event after →
      ∃ last, touchStepA config driver event last ∧ SameScreen config last after) ∧
    (∀ last, touchStepA config driver event last →
      ∃ after, touchStep config data event after ∧ SameScreen config last after) := by
  cases event with
  | interrupt bus =>
      simp only [touchStep, touchStepA, axsTsInterrupt, axsTsInterruptA, hsame.fwLoading]
      by_cases hloading : data.fwLoading = true
      · simp only [hloading, if_true, Option.some.injEq]
        exact ⟨fun after hafter => ⟨driver, rfl, hafter ▸ hsame⟩,
          fun last hlast => ⟨data, rfl, hlast ▸ hsame⟩⟩
      simp only [hloading]
      refine ⟨fun after hafter => ?_, fun last hlast => ?_⟩
      · obtain ⟨parsed, ret, hread, rfl⟩ := axsTsReportThreadHandler_iff.mp hafter
        obtain ⟨parsedA, hreadA⟩ := axsReadParseTouchdata_same driver.data hread
        exact ⟨_, axsTsReportThreadHandlerA_iff.mpr ⟨_, _, hreadA, rfl⟩,
          hsame.report hdistinct hread hreadA⟩
      · obtain ⟨parsedA, ret, hreadA, rfl⟩ := axsTsReportThreadHandlerA_iff.mp hlast
        obtain ⟨parsed, hread⟩ := axsReadParseTouchdata_same data hreadA
        exact ⟨_, axsTsReportThreadHandler_iff.mpr ⟨_, _, hread, rfl⟩,
          hsame.report hdistinct hread hreadA⟩
  | releaseAll =>
      refine ⟨fun after hafter => ?_, fun last hlast => ?_⟩
      · obtain rfl : after = axsReleaseAllFinger config data := hafter
        exact ⟨_, rfl, hsame.releaseAll⟩
      · obtain rfl : last = axsReleaseAllFingerA driver := hlast
        exact ⟨_, rfl, hsame.releaseAll⟩
  | fwLoading loading =>
      have hset : SameScreen config
          { driver with data := { driver.data with fwLoading := loading } }
          { data with fwLoading := loading } :=
        ⟨⟨hsame.consistent.bounded, hsame.consistent.covers⟩, hsame.coherent, hsame.fresh,
          hsame.contacts, rfl, hsame.screen⟩
      refine ⟨fun after hafter => ?_, fun last hlast => ?_⟩
      · obtain rfl : after = { data with fwLoading := loading } := hafter
        exact ⟨_, rfl, hset⟩
      · obtain rfl : last = { driver with data := { driver.data with fwLoading := loading } } := hlast
        exact ⟨_, rfl, hset⟩

end Simulation

/-- The drivers of the two protocols make the same runs, and at the end of each a reader of either device knows of the same contacts and whether the screen is touched. -/
theorem protocols_show_the_same {config : AxsConfig} {history : List TouchEvent}
    (hdistinct : config.maxTouchNumber ≠ 1 → ∀ event ∈ history, DistinctIds config event) :
    (∀ data, Run (touchStep config) .initial history data →
      ∃ driver, Run (touchStepA config) .initial history driver ∧
        driver.reader.screen = data.inputDev.reader.screen) ∧
    (∀ driver, Run (touchStepA config) .initial history driver →
      ∃ data, Run (touchStep config) .initial history data ∧
        driver.reader.screen = data.inputDev.reader.screen) := by
  have hall : ∀ event ∈ history, DistinctIds config event := by
    intro event hmem
    by_cases hone : config.maxTouchNumber = 1
    · exact distinctIds_of_one hone event
    · exact hdistinct hone event hmem
  have hmatched : ∀ before event after driver, SameScreen config driver before →
      Guarded (touchStep config) (fun _ event => DistinctIds config event) before event after →
        ∃ last, touchStepA config driver event last ∧ SameScreen config last after :=
    fun _ _ after _ hbefore hstep => (hbefore.step hstep.2).1 after hstep.1
  have hmatchedA : ∀ before event last data, SameScreen config before data →
      Guarded (touchStepA config) (fun _ event => DistinctIds config event) before event last →
        ∃ after, touchStep config data event after ∧ SameScreen config last after :=
    fun _ _ last _ hbefore hstep => (hbefore.step hstep.2).2 last hstep.1
  constructor
  · intro data hrun
    obtain ⟨driver, hdriver, hsame⟩ := (hrun.guarded hall).simulation hmatched (.initial config)
    exact ⟨driver, hdriver, hsame.screen⟩
  · intro driver hrun
    obtain ⟨data, hdata, hsame⟩ := (hrun.guarded hall).simulation hmatchedA (.initial config)
    exact ⟨data, hdata, hsame.screen⟩

/-- A finger down is shown as one contact by either driver. -/
theorem protocols_show_fingerDown : ∃ driver,
    Run (touchStepA .shipped) .initial [.interrupt fingerDown] driver ∧
      driver.reader.screen.contacts 0 = some ⟨0, 0, 0x3f, 0x09⟩ := by
  obtain ⟨data, hrun, hshown⟩ : ∃ data,
      Run (touchStep .shipped) .initial [.interrupt fingerDown] data ∧
        data.inputDev.reader.screen.contacts 0 = some ⟨0, 0, 0x3f, 0x09⟩ :=
    ⟨_, .single (by exact rfl), rfl⟩
  obtain ⟨driver, hdriver, hsame⟩ :=
    (protocols_show_the_same fun hne => absurd rfl hne).1 data hrun
  exact ⟨driver, hdriver, by rw [hsame]; exact hshown⟩

end FrontPanel.Touch
