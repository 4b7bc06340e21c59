import FrontPanel.Lib.Ledger

/-!
# Binding the touch driver

`axs_ts_probe` and `axs_ts_remove`, called as the I2C core calls them: a remove only of a client whose probe returned 0, and no second probe of it. The allocations and registrations of a probe are the calls of a ledger, and which of them fail is a choice of the step. The record `g_axs_data` has the pointers that a release looks at, each there or not.

The probe undoes what it has done through a ladder of labels. Past the workqueue every label frees two GPIOs that nobody requests, an input device that is registered is freed as if it were not, and what `axs_ts_probe_entry` has created is not undone at all. A probe without memory for its platform data returns 0, with `g_axs_data` gone, and a remove does not return from that. The transfers of the probe and `CONFIG_HAS_EARLYSUSPEND` are left out.
-/

namespace FrontPanel.Touch.Binding

/-! ### The code -/

inductive Resource
  | gAxsData
  | pdata
  | tsWorkqueue
  | busTxBuf
  | busRxBuf
  | inputDev
  | procDir
  | sysfsGroup
  | debugTxBuf
  | debugRxBuf
  | fbNotif
  | irq
  | resetGpio
  | irqGpio
  deriving DecidableEq

/-- Which pointers of `struct axs_ts_data` are not `NULL`; `kzalloc` leaves none. -/
structure AxsTsData where
  pdata : Bool := false
  tsWorkqueue : Bool := false
  busTxBuf : Bool := false
  busRxBuf : Bool := false
  procDir : Bool := false
  debugTxBuf : Bool := false
  debugRxBuf : Bool := false

structure I2cClient where
  /-- `i2c_check_functionality` -/
  functionality : Bool
  addr : UInt16

def axsI2cSlaveAddr : UInt16 := 0x3B

/-- `-ENODEV`, `-ESRCH`, `-ENOMEM` -/
def eNodev : Int := -19
def eSrch : Int := -3
def eNomem : Int := -12

abbrev Routine (Value : Type) : Type := Prog (Kernel Resource) Value

open Request (obtaining registering unregistering freeing freeingIf)

abbrev kfreeSafe (pbuf : Resource) (there : Bool) : Routine Unit := freeingIf pbuf there

def axsBusInit (tsData : AxsTsData) : Routine (AxsTsData × Int) := do
  let ret ← obtaining .busTxBuf
  if ret ≠ 0 then return (tsData, eNomem)
  else
    let tsData := { tsData with busTxBuf := true }
    let ret ← obtaining .busRxBuf
    if ret ≠ 0 then return (tsData, eNomem)
    else return ({ tsData with busRxBuf := true }, 0)

def axsBusExit (tsData : AxsTsData) : Routine Unit := do
  kfreeSafe .busTxBuf tsData.busTxBuf
  kfreeSafe .busRxBuf tsData.busRxBuf

def axsInputInit : Routine Int := do
  let ret ← obtaining .inputDev
  if ret ≠ 0 then return eNomem
  else
    let ret ← registering .inputDev
    if ret ≠ 0 then
      freeing .inputDev
      return ret
    else return 0

def axsReportBufferInit : Int := 0

def axsCreateProcFile (tsData : AxsTsData) : Routine AxsTsData := do
  let ret ← obtaining .procDir
  return { tsData with procDir := ret = 0 }

def axsReleaseProcFile (tsData : AxsTsData) : Routine Unit := freeingIf .procDir tsData.procDir

def axsDebugCreateSysfs (tsData : AxsTsData) : Routine AxsTsData := do
  let ret ← obtaining .sysfsGroup
  if ret ≠ 0 then
    -- `sysfs_remove_group` of the group that was not created
    freeing .sysfsGroup
    return tsData
  else
    let ret ← obtaining .debugTxBuf
    if ret ≠ 0 then return tsData
    else
      let tsData := { tsData with debugTxBuf := true }
      let ret ← obtaining .debugRxBuf
      if ret ≠ 0 then return tsData
      else return { tsData with debugRxBuf := true }

def axsDebugRemoveSysfs (tsData : AxsTsData) : Routine Unit := do
  kfreeSafe .debugTxBuf tsData.debugTxBuf
  kfreeSafe .debugRxBuf tsData.debugRxBuf
  freeing .sysfsGroup

/-- Its failures are logged. -/
def axsTsProbeEntry (tsData : AxsTsData) : Routine AxsTsData := do
  let tsData ← axsCreateProcFile tsData
  axsDebugCreateSysfs tsData

/-- `fb_register_client`, whose failure is logged. -/
def fbRegisterClient (configFb : Bool) : Routine Unit :=
  if configFb then do
    let _ ← obtaining .fbNotif
    return
  else return

/-! The labels of `axs_ts_probe`, from the last to the first: each returns what `g_axs_data` is then, and `err`. -/

def exitReleaseGAxsData (err : Int) : Routine (Option AxsTsData × Int) := do
  freeing .gAxsData
  return (none, err)

def exitReleasePdata (tsData : AxsTsData) (err : Int) : Routine (Option AxsTsData × Int) := do
  kfreeSafe .pdata tsData.pdata
  exitReleaseGAxsData err

def exitReleaseGpio (tsData : AxsTsData) (err : Int) : Routine (Option AxsTsData × Int) := do
  freeing .resetGpio
  freeing .irqGpio
  exitReleasePdata tsData err

def exitReleaseBus (tsData : AxsTsData) (err : Int) : Routine (Option AxsTsData × Int) := do
  kfreeSafe .busTxBuf tsData.busTxBuf
  kfreeSafe .busRxBuf tsData.busRxBuf
  -- `destroy_workqueue`
  freeingIf .tsWorkqueue tsData.tsWorkqueue
  exitReleaseGpio tsData err

def exitReleaseInput (tsData : AxsTsData) (err : Int) : Routine (Option AxsTsData × Int) := do
  freeing .inputDev
  exitReleaseBus tsData err

/-- What `g_axs_data` is then, and what the probe returns. -/
def axsTsProbe (configFb : Bool) (client : I2cClient) (gAxsData : Option AxsTsData) :
    Routine (Option AxsTsData × Int) :=
  if !client.functionality then return (gAxsData, eNodev)
  else if client.addr ≠ axsI2cSlaveAddr then return (gAxsData, eSrch)
  else do
    let ret ← obtaining .gAxsData
    if ret ≠ 0 then return (gAxsData, eNomem)
    else
      let ret ← obtaining .pdata
      -- `err` is still 0
      if ret ≠ 0 then exitReleaseGAxsData 0
      else
        let ret ← obtaining .tsWorkqueue
        if ret ≠ 0 then exitReleaseGpio { pdata := true } eSrch
        else
          let (tsData, err) ← axsBusInit { pdata := true, tsWorkqueue := true }
          if err ≠ 0 then exitReleaseBus tsData err
          else
            let err ← axsInputInit
            if err ≠ 0 then exitReleaseBus tsData eNomem
            else if axsReportBufferInit ≠ 0 then exitReleaseInput tsData axsReportBufferInit
            else
              let tsData ← axsTsProbeEntry tsData
              fbRegisterClient configFb
              let err ← obtaining .irq
              if err ≠ 0 then exitReleaseInput tsData err
              else return (some tsData, 0)

def axsTsRemove (configFb : Bool) (tsData : AxsTsData) : Routine Unit := do
  axsDebugRemoveSysfs tsData
  axsReleaseProcFile tsData
  axsBusExit tsData
  -- `fb_unregister_client`
  freeingIf .fbNotif configFb
  freeing .irq
  unregistering .inputDev
  -- `destroy_workqueue`
  freeing .tsWorkqueue
  kfreeSafe .pdata tsData.pdata
  freeing .gAxsData

/-! ### Runs -/

/-- What the I2C core knows of the client, `g_axs_data`, and what is held for the driver. -/
structure System where
  gAxsData : Option AxsTsData
  bound : Bool
  ledger : Ledger Resource

/-- The calls of a step, and what a probe returned. -/
inductive Label
  | probe (client : I2cClient) (choice : Choice Resource) (calls : List (Event (Kernel Resource)))
      (err : Int)
  | remove (calls : List (Event (Kernel Resource)))

/-- Everything is granted. -/
def plenty : Choice Resource where
  obtain _ := 0
  register _ := 0

inductive Step (configFb : Bool) : System → Label → System → Prop
  | probe {state : System} {client : I2cClient} {choice : Choice Resource}
      {calls : List (Event (Kernel Resource))} {gAxsData : Option AxsTsData} {err : Int}
      (hbound : state.bound = false)
      (hprobe : (axsTsProbe configFb client state.gAxsData).answered choice.respond =
        (calls, (gAxsData, err))) :
      Step configFb state (.probe client choice calls err)
        { gAxsData, bound := err = 0, ledger := state.ledger.after calls }
  -- a remove obtains nothing, so that it does not matter how that would be answered
  | remove {state : System} {tsData : AxsTsData} {calls : List (Event (Kernel Resource))}
      (hbound : state.bound = true) (hdata : state.gAxsData = some tsData)
      (hremove : (axsTsRemove configFb tsData).answered plenty.respond = (calls, ())) :
      Step configFb state (.remove calls)
        { gAxsData := none, bound := false, ledger := state.ledger.after calls }

/-- The driver is loaded. -/
def System.initial : System where
  gAxsData := none
  bound := false
  ledger _ := .absent

/-! ### What a bind leaves behind -/

/-- What a probe that returns 0 has obtained. -/
structure Equipped (ledger : Ledger Resource) : Prop where
  pdata : ledger .pdata = .obtained
  tsWorkqueue : ledger .tsWorkqueue = .obtained
  busTxBuf : ledger .busTxBuf = .obtained
  busRxBuf : ledger .busRxBuf = .obtained
  inputDev : ledger .inputDev = .registered
  irq : ledger .irq = .obtained

/-- The step is as it should be. -/
def Balanced : System → Label → System → Prop
  | before, .probe _ _ calls err, after =>
      before.ledger.Accepts calls ∧ (err = 0 → Equipped after.ledger) ∧
        (err ≠ 0 → after.ledger.Clear)
  | before, .remove calls, after => before.ledger.Accepts calls ∧ after.ledger.Clear

/-- Nothing fails but the proc entry, the two debug buffers and the framebuffer client. -/
structure Suffices (choice : Choice Resource) : Prop where
  pdata : choice.obtain .pdata = 0
  tsWorkqueue : choice.obtain .tsWorkqueue = 0
  busTxBuf : choice.obtain .busTxBuf = 0
  busRxBuf : choice.obtain .busRxBuf = 0
  inputDev : choice.obtain .inputDev = 0
  registered : choice.register .inputDev = 0
  sysfsGroup : choice.obtain .sysfsGroup = 0
  irq : choice.obtain .irq = 0

/-- A probe that gets memory for `g_axs_data` gets what it needs after that, and a client is only removed while its framebuffer client is registered, where there is one to register. -/
def System.Allows (configFb : Bool) (state : System) : Label → Prop
  | .probe client choice _ _ => client.functionality = true → client.addr = axsI2cSlaveAddr →
      choice.obtain .gAxsData = 0 → Suffices choice
  | .remove _ => configFb = true → state.ledger .fbNotif = .obtained

/-! ### A probe -/

section Probe

variable {configFb : Bool} {client : I2cClient} {choice : Choice Resource} {tsData : AxsTsData}
  {err : Int} {ledger : Ledger Resource}

/-- Nobody requests the reset GPIO, so no exit that frees it is right. -/
theorem not_keeps_exitReleaseGpio {post : Option AxsTsData × Int → Ledger Resource → Prop}
    (hgpio : ledger .resetGpio = .absent) :
    ¬ (exitReleaseGpio tsData err).Keeps choice post ledger := by
  intro hkeeps
  have hheld := (Prog.keeps_free.mp (Prog.keeps_bind.mp hkeeps)).1
  rw [hgpio] at hheld
  cases hheld

theorem not_keeps_exitReleaseBus {post : Option AxsTsData × Int → Ledger Resource → Prop}
    (hgpio : ledger .resetGpio = .absent) :
    ¬ (exitReleaseBus tsData err).Keeps choice post ledger := by
  intro hkeeps
  obtain ⟨first, hkeeps, hfirst⟩ := Prog.Keeps.freeIf (Prog.keeps_bind.mp hkeeps)
  obtain ⟨second, hkeeps, hsecond⟩ := Prog.Keeps.freeIf (Prog.keeps_bind.mp hkeeps)
  obtain ⟨third, hkeeps, hthird⟩ := Prog.Keeps.freeIf (Prog.keeps_bind.mp hkeeps)
  refine not_keeps_exitReleaseGpio ?_ hkeeps
  rw [hthird _ Resource.noConfusion, hsecond _ Resource.noConfusion,
    hfirst _ Resource.noConfusion]
  exact hgpio

/-- Where no failure of it is right, it has to get both buffers. -/
theorem keeps_axsBusInit {post : AxsTsData × Int → Ledger Resource → Prop}
    (htx : ledger .busTxBuf = .absent) (hrx : ledger .busRxBuf = .absent)
    (hfailed : ∀ tsData left, left .resetGpio = ledger .resetGpio → ¬ post (tsData, eNomem) left) :
    (axsBusInit tsData).Keeps choice post ledger ↔
      choice.obtain .busTxBuf = 0 ∧ choice.obtain .busRxBuf = 0 ∧
        post ({ tsData with busTxBuf := true, busRxBuf := true }, 0)
          (Function.update (Function.update ledger .busTxBuf .obtained) .busRxBuf .obtained) := by
  rw [axsBusInit]
  by_cases hret : choice.obtain .busTxBuf = 0
  · have hrx : Function.update ledger .busTxBuf .obtained .busRxBuf = .absent :=
      (Function.update_of_ne Resource.noConfusion _ _).trans hrx
    rw [Prog.keeps_obtained hret htx, and_iff_right hret]
    by_cases hret : choice.obtain .busRxBuf = 0
    · rw [Prog.keeps_obtained hret hrx, and_iff_right hret]
      rfl
    · rw [Prog.keeps_not_obtained hret]
      refine iff_of_false (hfailed _ _ ?_) fun hgiven => hret hgiven.1
      exact Function.update_of_ne Resource.noConfusion _ _
  · rw [Prog.keeps_not_obtained hret]
    exact iff_of_false (hfailed _ _ rfl) fun hgiven => hret hgiven.1

theorem keeps_axsInputInit {post : Int → Ledger Resource → Prop}
    (hdev : ledger .inputDev = .absent)
    (hfailed : ∀ err left, err ≠ 0 → left .resetGpio = ledger .resetGpio → ¬ post err left) :
    axsInputInit.Keeps choice post ledger ↔
      choice.obtain .inputDev = 0 ∧ choice.register .inputDev = 0 ∧
        post 0 (Function.update ledger .inputDev .registered) := by
  rw [axsInputInit]
  by_cases hret : choice.obtain .inputDev = 0
  · rw [Prog.keeps_obtained hret hdev, and_iff_right hret]
    by_cases hret : choice.register .inputDev = 0
    · rw [Prog.keeps_registered hret (Function.update_self _ _ _), and_iff_right hret,
        Function.update_idem]
      rfl
    · rw [Prog.keeps_not_registered hret, Prog.keeps_bind, Prog.keeps_free]
      refine iff_of_false (fun hgiven => hfailed _ _ hret ?_ hgiven.2.2) fun hgiven => hret hgiven.1
      rw [Function.update_of_ne Resource.noConfusion, Function.update_of_ne Resource.noConfusion]
  · rw [Prog.keeps_not_obtained hret]
    exact iff_of_false (hfailed _ _ (by decide) rfl) fun hgiven => hret hgiven.1

/-- Where `axs_ts_probe_entry` leaves the record. -/
def AxsTsData.entered (choice : Choice Resource) (tsData : AxsTsData) : AxsTsData :=
  { tsData with
    procDir := choice.obtain .procDir = 0
    debugTxBuf := choice.obtain .debugTxBuf = 0
    debugRxBuf := choice.obtain .debugTxBuf = 0 ∧ choice.obtain .debugRxBuf = 0 }

theorem keeps_axsDebugCreateSysfs {post : AxsTsData → Ledger Resource → Prop}
    (hgroup : ledger .sysfsGroup = .absent) (htx : ledger .debugTxBuf = .absent)
    (hrx : ledger .debugRxBuf = .absent) :
    (axsDebugCreateSysfs { tsData with debugTxBuf := false, debugRxBuf := false }).Keeps choice post
        ledger ↔
      choice.obtain .sysfsGroup = 0 ∧
        post
          { tsData with
            debugTxBuf := choice.obtain .debugTxBuf = 0
            debugRxBuf := choice.obtain .debugTxBuf = 0 ∧ choice.obtain .debugRxBuf = 0 }
          (Function.update
            (Function.update (Function.update ledger .sysfsGroup .obtained) .debugTxBuf
              (.obtainedIf (choice.obtain .debugTxBuf = 0)))
            .debugRxBuf
            (.obtainedIf (choice.obtain .debugTxBuf = 0 ∧ choice.obtain .debugRxBuf = 0))) := by
  rw [axsDebugCreateSysfs]
  by_cases hret : choice.obtain .sysfsGroup = 0
  · rw [Prog.keeps_obtained hret hgroup, and_iff_right hret]
    have htx : Function.update ledger .sysfsGroup .obtained .debugTxBuf = .absent :=
      (Function.update_of_ne Resource.noConfusion _ _).trans htx
    have hrx : Function.update ledger .sysfsGroup .obtained .debugRxBuf = .absent :=
      (Function.update_of_ne Resource.noConfusion _ _).trans hrx
    generalize Function.update ledger .sysfsGroup .obtained = ledger at htx hrx
    by_cases htxRet : choice.obtain .debugTxBuf = 0
    · have hrx : Function.update ledger .debugTxBuf .obtained .debugRxBuf = .absent :=
        (Function.update_of_ne Resource.noConfusion _ _).trans hrx
      rw [Prog.keeps_obtained htxRet htx, decide_eq_true htxRet]
      by_cases hrxRet : choice.obtain .debugRxBuf = 0
      · rw [Prog.keeps_obtained hrxRet hrx, decide_eq_true (And.intro htxRet hrxRet)]
        rfl
      · rw [Prog.keeps_not_obtained hrxRet, decide_eq_false fun hboth => hrxRet hboth.2]
        show _ ↔ post _ (Function.update (Function.update _ _ .obtained) .debugRxBuf .absent)
        rw [← hrx, Function.update_eq_self]
        rfl
    · rw [Prog.keeps_not_obtained htxRet, decide_eq_false htxRet,
        decide_eq_false fun hboth => htxRet hboth.1]
      show _ ↔ post _ (Function.update (Function.update _ .debugTxBuf .absent) .debugRxBuf .absent)
      rw [← htx, Function.update_eq_self, htx, ← hrx, Function.update_eq_self]
      rfl
  · rw [Prog.keeps_not_obtained hret]
    refine iff_of_false (fun hkeeps => ?_) fun hgiven => hret hgiven.1
    have hheld := (Prog.keeps_free.mp (Prog.keeps_bind.mp hkeeps)).1
    rw [hgroup] at hheld
    cases hheld

theorem keeps_axsTsProbeEntry {post : AxsTsData → Ledger Resource → Prop}
    (htxBuf : tsData.debugTxBuf = false) (hrxBuf : tsData.debugRxBuf = false)
    (hproc : ledger .procDir = .absent) (hgroup : ledger .sysfsGroup = .absent)
    (htx : ledger .debugTxBuf = .absent) (hrx : ledger .debugRxBuf = .absent) :
    (axsTsProbeEntry tsData).Keeps choice post ledger ↔
      choice.obtain .sysfsGroup = 0 ∧
        post (tsData.entered choice)
          (Function.update
            (Function.update
              (Function.update
                (Function.update ledger .procDir (.obtainedIf (choice.obtain .procDir = 0)))
                .sysfsGroup .obtained)
              .debugTxBuf (.obtainedIf (choice.obtain .debugTxBuf = 0)))
            .debugRxBuf
            (.obtainedIf (choice.obtain .debugTxBuf = 0 ∧ choice.obtain .debugRxBuf = 0))) := by
  obtain ⟨pdata, tsWorkqueue, busTxBuf, busRxBuf, procDir, _, _⟩ := tsData
  obtain rfl := htxBuf
  obtain rfl := hrxBuf
  rw [axsTsProbeEntry, Prog.keeps_bind, axsCreateProcFile, Prog.keeps_bind,
    Prog.keeps_optional hproc]
  exact @keeps_axsDebugCreateSysfs choice
    { pdata, tsWorkqueue, busTxBuf, busRxBuf, procDir := choice.obtain .procDir = 0 } _ _
    ((Function.update_of_ne Resource.noConfusion _ _).trans hgroup)
    ((Function.update_of_ne Resource.noConfusion _ _).trans htx)
    ((Function.update_of_ne Resource.noConfusion _ _).trans hrx)

theorem keeps_fbRegisterClient {post : Unit → Ledger Resource → Prop}
    (hclient : ledger .fbNotif = .absent) :
    (fbRegisterClient configFb).Keeps choice post ledger ↔
      post () (Function.update ledger .fbNotif
        (.obtainedIf (configFb && choice.obtain .fbNotif = 0))) := by
  cases configFb with
  | true => exact Prog.keeps_bind.trans (Prog.keeps_optional hclient)
  | false =>
      rw [Bool.false_and, show Held.obtainedIf false = ledger .fbNotif from hclient.symm,
        Function.update_eq_self]
      rfl

/-- What is held for a client that is bound. -/
def AxsTsData.held (fb : Bool) (tsData : AxsTsData) : Ledger Resource
  | .gAxsData => .obtained
  | .pdata => .obtainedIf tsData.pdata
  | .tsWorkqueue => .obtainedIf tsData.tsWorkqueue
  | .busTxBuf => .obtainedIf tsData.busTxBuf
  | .busRxBuf => .obtainedIf tsData.busRxBuf
  | .inputDev => .registered
  | .procDir => .obtainedIf tsData.procDir
  | .sysfsGroup => .obtained
  | .debugTxBuf => .obtainedIf tsData.debugTxBuf
  | .debugRxBuf => .obtainedIf tsData.debugRxBuf
  | .fbNotif => .obtainedIf fb
  | .irq => .obtained
  | .resetGpio => .absent
  | .irqGpio => .absent

/-- The record when the interrupt is requested. -/
def AxsTsData.probed (choice : Choice Resource) : AxsTsData :=
  AxsTsData.entered choice
    { pdata := true, tsWorkqueue := true, busTxBuf := true, busRxBuf := true }

/-- A failure to get the interrupt frees the input device, which is registered. -/
theorem keeps_requestIrq {fb : Bool} {post : Option AxsTsData × Int → Ledger Resource → Prop}
    (hirq : ledger .irq = .absent)
    (hheld : Function.update ledger .irq .obtained = tsData.held fb) :
    (obtaining .irq >>= fun err =>
      if err ≠ 0 then exitReleaseInput tsData err else return (some tsData, 0)).Keeps choice post
        ledger ↔ choice.obtain .irq = 0 ∧ post (some tsData, 0) (tsData.held fb) := by
  by_cases hret : choice.obtain .irq = 0
  · rw [Prog.keeps_obtained hret hirq, hheld, and_iff_right hret]
    rfl
  · rw [Prog.keeps_not_obtained hret]
    refine iff_of_false (fun hkeeps => ?_) fun hgiven => hret hgiven.1
    have hdev : ledger .inputDev = .registered := by
      have hsame := congrFun hheld .inputDev
      rw [Function.update_of_ne Resource.noConfusion] at hsame
      exact hsame
    have hfree := (Prog.keeps_free.mp (Prog.keeps_bind.mp hkeeps)).1
    rw [hdev] at hfree
    cases hfree

/-- Past the memory for `g_axs_data`, a probe that is right in its calls is a complete one, or it returned 0 for want of platform data. -/
theorem keeps_axsTsProbe {gAxsData : Option AxsTsData}
    {post : Option AxsTsData × Int → Ledger Resource → Prop}
    (hfunctionality : client.functionality = true) (haddr : client.addr = axsI2cSlaveAddr)
    (hmem : choice.obtain .gAxsData = 0) (hnone : ¬ post (none, 0) fun _ => .absent) :
    (axsTsProbe configFb client gAxsData).Keeps choice post (fun _ => .absent) ↔
      Suffices choice ∧ post (some (.probed choice), 0)
        (AxsTsData.held (configFb && choice.obtain .fbNotif = 0) (.probed choice)) := by
  rw [axsTsProbe, if_neg (by rw [hfunctionality]; decide), if_neg (not_not.mpr haddr),
    Prog.keeps_obtained hmem rfl]
  by_cases hpdata : choice.obtain .pdata = 0
  · refine (Prog.keeps_obtained hpdata rfl).trans ?_
    by_cases hworkqueue : choice.obtain .tsWorkqueue = 0
    · refine (Prog.keeps_obtained hworkqueue rfl).trans ?_
      rw [Prog.keeps_bind, keeps_axsBusInit rfl rfl fun _ _ hleft hkeeps =>
        not_keeps_exitReleaseBus hleft hkeeps]
      dsimp only
      rw [if_neg (by decide), Prog.keeps_bind, keeps_axsInputInit rfl fun err left herr hleft =>
        (by rw [if_pos herr]; exact not_keeps_exitReleaseBus hleft)]
      rw [if_neg (by decide), if_neg (by decide), Prog.keeps_bind,
        keeps_axsTsProbeEntry rfl rfl rfl rfl rfl rfl, Prog.keeps_bind, keeps_fbRegisterClient rfl]
      rw [@keeps_requestIrq choice _ _ (configFb && choice.obtain .fbNotif = 0) post rfl ?_]
      · constructor
        · intro hgiven
          obtain ⟨htx, hrx, hdev, hregistered, hgroup, hirq, hpost⟩ := hgiven
          exact ⟨⟨hpdata, hworkqueue, htx, hrx, hdev, hregistered, hgroup, hirq⟩, hpost⟩
        · intro hgiven
          obtain ⟨hsuffices, hpost⟩ := hgiven
          exact ⟨hsuffices.busTxBuf, hsuffices.busRxBuf, hsuffices.inputDev, hsuffices.registered,
            hsuffices.sysfsGroup, hsuffices.irq, hpost⟩
      · funext r
        cases r <;> rfl
    · rw [Prog.keeps_not_obtained hworkqueue]
      exact iff_of_false (not_keeps_exitReleaseGpio rfl) fun hgiven =>
        hworkqueue hgiven.1.tsWorkqueue
  · rw [Prog.keeps_not_obtained hpdata]
    refine iff_of_false (fun hkeeps => ?_) fun hgiven => hpdata hgiven.1.pdata
    have hpost := (Prog.keeps_free.mp (Prog.keeps_bind.mp hkeeps)).2
    rw [Function.update_idem, Function.update_eq_self] at hpost
    exact hnone hpost

theorem axsTsProbe_refused {gAxsData : Option AxsTsData}
    {post : Option AxsTsData × Int → Ledger Resource → Prop}
    (hrefused : ¬ (client.functionality = true ∧ client.addr = axsI2cSlaveAddr ∧
      choice.obtain .gAxsData = 0))
    (hpost : ∀ err, err ≠ 0 → post (gAxsData, err) ledger) :
    (axsTsProbe configFb client gAxsData).Keeps choice post ledger := by
  rw [axsTsProbe]
  by_cases hfunctionality : client.functionality = true
  · rw [if_neg (by rw [hfunctionality]; decide)]
    by_cases haddr : client.addr = axsI2cSlaveAddr
    · rw [if_neg (not_not.mpr haddr),
        Prog.keeps_not_obtained fun hmem => hrefused ⟨hfunctionality, haddr, hmem⟩]
      exact hpost _ (by decide)
    · rw [if_pos haddr]
      exact hpost _ (by decide)
  · rw [if_pos (by simpa using hfunctionality)]
    exact hpost _ (by decide)

/-! ### A remove -/

section Releases

variable {post : Unit → Ledger Resource → Prop}

theorem keeps_axsDebugRemoveSysfs (htx : ledger .debugTxBuf = .obtainedIf tsData.debugTxBuf)
    (hrx : ledger .debugRxBuf = .obtainedIf tsData.debugRxBuf)
    (hgroup : ledger .sysfsGroup = .obtained) :
    (axsDebugRemoveSysfs tsData).Keeps choice post ledger ↔
      post () (Function.update (Function.update (Function.update ledger .debugTxBuf .absent)
        .debugRxBuf .absent) .sysfsGroup .absent) := by
  rw [axsDebugRemoveSysfs, Prog.keeps_bind, Prog.keeps_freeIf htx, Prog.keeps_bind, Prog.keeps_freeIf,
    Prog.keeps_free]
  · apply and_iff_right
    rw [Function.update_of_ne Resource.noConfusion, Function.update_of_ne Resource.noConfusion]
    exact hgroup
  · rw [Function.update_of_ne Resource.noConfusion]
    exact hrx

theorem keeps_axsBusExit (htx : ledger .busTxBuf = .obtainedIf tsData.busTxBuf)
    (hrx : ledger .busRxBuf = .obtainedIf tsData.busRxBuf) :
    (axsBusExit tsData).Keeps choice post ledger ↔
      post () (Function.update (Function.update ledger .busTxBuf .absent) .busRxBuf .absent) := by
  rw [axsBusExit, Prog.keeps_bind, Prog.keeps_freeIf htx, Prog.keeps_freeIf]
  rw [Function.update_of_ne Resource.noConfusion]
  exact hrx

end Releases

/-- A remove gives back all that is held for a bound client, where a framebuffer client that it unregisters is there. -/
theorem keeps_axsTsRemove {fb : Bool} (hworkqueue : tsData.tsWorkqueue = true)
    (hfb : fb = true → configFb = true) :
    (axsTsRemove configFb tsData).Keeps choice (fun _ left => left.Clear) (tsData.held fb) ↔
      (configFb = true → fb = true) := by
  have hheld : Held.obtainedIf tsData.tsWorkqueue = .obtained := by rw [hworkqueue]; rfl
  rw [axsTsRemove, Prog.keeps_bind, keeps_axsDebugRemoveSysfs rfl rfl rfl, Prog.keeps_bind,
    axsReleaseProcFile, Prog.keeps_freeIf, Prog.keeps_bind, keeps_axsBusExit, Prog.keeps_bind]
  · by_cases hsame : fb = configFb
    · subst hsame
      rw [Prog.keeps_freeIf, Prog.keeps_bind, Prog.keeps_free, and_iff_right, Prog.keeps_bind,
        Prog.keeps_unregister, and_iff_right, Prog.keeps_bind, Prog.keeps_free, and_iff_right,
        Prog.keeps_bind, Prog.keeps_freeIf, Prog.keeps_free, and_iff_right]
      · refine iff_of_true (fun r => ?_) id
        cases r <;> rfl
      · rfl
      · rfl
      · exact hheld
      · rfl
      · rfl
      · rfl
    · have hnone : fb = false := Bool.eq_false_iff.mpr fun hset =>
        hsame (hset.trans (hfb hset).symm)
      subst hnone
      have hconfig : configFb = true := by
        by_contra hunset
        exact hsame (Bool.eq_false_iff.mpr hunset).symm
      subst hconfig
      refine iff_of_false (fun hkeeps => ?_) fun hgiven => Bool.false_ne_true (hgiven rfl)
      exact Held.noConfusion (Prog.keeps_free.mp hkeeps).1
  · rfl
  · rfl
  · rfl

end Probe

/-! ### What a step keeps -/

/-- Nothing is held for a client that is not bound, and for one that is, what its probe obtained. -/
structure System.Sound (configFb : Bool) (state : System) : Prop where
  unbound : state.bound = false → state.ledger = fun _ => .absent
  bound : state.bound = true → ∃ choice, state.gAxsData = some (.probed choice) ∧
    state.ledger = AxsTsData.held (configFb && choice.obtain .fbNotif = 0) (.probed choice)

theorem System.Sound.initial (configFb : Bool) : System.initial.Sound configFb where
  unbound _ := rfl
  bound hbound := absurd hbound Bool.false_ne_true

theorem equipped_held {fb : Bool} {choice : Choice Resource} :
    Equipped (AxsTsData.held fb (.probed choice)) :=
  ⟨rfl, rfl, rfl, rfl, rfl, rfl⟩

section Steps

variable {configFb : Bool} {before after : System} {label : Label} {labels : List Label}
  {client : I2cClient} {choice : Choice Resource} {calls : List (Event (Kernel Resource))}

/-- A probe that comes past its first allocation is bound, with what `choice` grants, or not as it should be. -/
theorem probe_iff {gAxsData data : Option AxsTsData} {err : Int}
    {post : Option AxsTsData × Int → Ledger Resource → Prop}
    (hreached : client.functionality = true ∧ client.addr = axsI2cSlaveAddr ∧
      choice.obtain .gAxsData = 0)
    (hprobe : (axsTsProbe configFb client gAxsData).answered choice.respond = (calls, (data, err)))
    (hnone : ¬ post (none, 0) fun _ => .absent) :
    Ledger.Accepts (fun _ => .absent) calls ∧
        post (data, err) (Ledger.after (fun _ => .absent) calls) ↔
      Suffices choice ∧ post (some (.probed choice), 0)
        (AxsTsData.held (configFb && choice.obtain .fbNotif = 0) (.probed choice)) := by
  have hkeeps := @keeps_axsTsProbe configFb client choice gAxsData post hreached.1 hreached.2.1
    hreached.2.2 hnone
  rw [Prog.keeps_iff, hprobe] at hkeeps
  exact hkeeps

theorem probe_refused {gAxsData data : Option AxsTsData} {err : Int}
    (hrefused : ¬ (client.functionality = true ∧ client.addr = axsI2cSlaveAddr ∧
      choice.obtain .gAxsData = 0))
    (hprobe : (axsTsProbe configFb client gAxsData).answered choice.respond =
      (calls, (data, err))) :
    Ledger.Accepts (fun _ => .absent) calls ∧ err ≠ 0 ∧
      Ledger.after (fun _ => .absent) calls = fun _ => .absent := by
  have hkeeps := @axsTsProbe_refused configFb client choice (fun _ => .absent) gAxsData
    (fun result left => result.2 ≠ 0 ∧ left = fun _ => .absent) hrefused
    fun err herr => ⟨herr, rfl⟩
  rw [Prog.keeps_iff, hprobe] at hkeeps
  exact hkeeps

theorem System.Sound.remove_iff {tsData : AxsTsData} (hsound : before.Sound configFb)
    (hbound : before.bound = true) (hdata : before.gAxsData = some tsData)
    (hremove : (axsTsRemove configFb tsData).answered plenty.respond = (calls, ())) :
    before.ledger.Accepts calls ∧ (before.ledger.after calls).Clear ↔
      (configFb = true → before.ledger .fbNotif = .obtained) := by
  obtain ⟨choice, hprobed, hledger⟩ := hsound.bound hbound
  rw [hprobed] at hdata
  obtain rfl := Option.some.inj hdata
  have hfb : (configFb && decide (choice.obtain .fbNotif = 0)) = true → configFb = true :=
    fun hset => (Bool.and_eq_true_iff.mp hset).1
  generalize (configFb && decide (choice.obtain .fbNotif = 0)) = fb at hledger hfb
  have hkeeps := @keeps_axsTsRemove configFb plenty (.probed choice) fb rfl hfb
  rw [Prog.keeps_iff, hremove, ← hledger] at hkeeps
  refine hkeeps.trans (imp_congr_right fun _ => ?_)
  rw [hledger]
  show fb = true ↔ Held.obtainedIf fb = .obtained
  cases fb with
  | true => exact iff_of_true rfl rfl
  | false => exact iff_of_false Bool.false_ne_true Held.noConfusion

theorem System.Sound.step (hsound : before.Sound configFb) (hstep : Step configFb before label after)
    (hallowed : before.Allows configFb label) : after.Sound configFb := by
  cases hstep with
  | @probe client choice calls data err hbound hprobe =>
      have hledger := hsound.unbound hbound
      by_cases hreached : client.functionality = true ∧ client.addr = axsI2cSlaveAddr ∧
          choice.obtain .gAxsData = 0
      · have hsuffices := hallowed hreached.1 hreached.2.1 hreached.2.2
        obtain ⟨-, hresult, hleft⟩ := (@probe_iff configFb client choice calls _ _ _
          (fun result left => result = (some (.probed choice), 0) ∧
            left = AxsTsData.held (configFb && choice.obtain .fbNotif = 0) (.probed choice))
          hreached hprobe fun hnone => by cases hnone.1).mpr ⟨hsuffices, rfl, rfl⟩
        obtain ⟨hdata, hzero⟩ := Prod.mk.inj hresult
        rw [← hledger] at hleft
        exact ⟨fun hunbound => absurd hzero (of_decide_eq_false hunbound),
          fun _ => ⟨choice, hdata, hleft⟩⟩
      · obtain ⟨-, herr, hleft⟩ := probe_refused hreached hprobe
        rw [← hledger] at hleft
        exact ⟨fun _ => hleft.trans hledger, fun hset => absurd (of_decide_eq_true hset) herr⟩
  | remove hbound hdata hremove =>
      obtain ⟨-, hclear⟩ := (hsound.remove_iff hbound hdata hremove).mpr hallowed
      exact ⟨fun _ => funext hclear, fun hset => absurd hset Bool.false_ne_true⟩

/-- The step is as it should be exactly where the condition on it is met. -/
theorem System.Sound.balanced_iff (hsound : before.Sound configFb)
    (hstep : Step configFb before label after) :
    Balanced before label after ↔ before.Allows configFb label := by
  cases hstep with
  | @probe client choice calls data err hbound hprobe =>
      have hledger := hsound.unbound hbound
      show before.ledger.Accepts calls ∧ (err = 0 → Equipped (before.ledger.after calls)) ∧
        (err ≠ 0 → (before.ledger.after calls).Clear) ↔ _
      rw [hledger]
      by_cases hreached : client.functionality = true ∧ client.addr = axsI2cSlaveAddr ∧
          choice.obtain .gAxsData = 0
      · refine (@probe_iff configFb client choice calls _ data err
          (fun result left => (result.2 = 0 → Equipped left) ∧ (result.2 ≠ 0 → left.Clear))
          hreached hprobe fun hnone => Held.noConfusion (hnone.1 rfl).pdata).trans ?_
        constructor
        · intro hgiven _ _ _
          exact hgiven.1
        · intro hallowed
          exact ⟨hallowed hreached.1 hreached.2.1 hreached.2.2, fun _ => equipped_held,
            fun herr => absurd rfl herr⟩
      · obtain ⟨haccepts, herr, hleft⟩ := probe_refused hreached hprobe
        rw [hleft]
        refine iff_of_true ⟨haccepts, fun hzero => absurd hzero herr, fun _ _ => rfl⟩ ?_
        intro hfunctionality haddr hmem
        exact absurd ⟨hfunctionality, haddr, hmem⟩ hreached
  | remove hbound hdata hremove => exact hsound.remove_iff hbound hdata hremove

/-- In every run whose steps have met the condition so far, the next step is as it should be exactly where it meets the condition too. -/
theorem probe_remove_balanced_iff
    (hrun : Run (Guarded (Step configFb) (System.Allows configFb)) .initial labels before)
    (hstep : Step configFb before label after) :
    Balanced before label after ↔ before.Allows configFb label :=
  (hrun.invariant (fun _ _ _ hsound hnext => hsound.step hnext.1 hnext.2)
    (System.Sound.initial configFb)).balanced_iff hstep

end Steps

/-! ### A client that is there -/

def panel : I2cClient where
  functionality := true
  addr := axsI2cSlaveAddr

theorem exists_probe (configFb : Bool) (choice : Choice Resource) : ∃ calls err after,
    Step configFb .initial (.probe panel choice calls err) after :=
  ⟨_, _, _, .probe rfl rfl⟩

theorem suffices_plenty : Suffices plenty := ⟨rfl, rfl, rfl, rfl, rfl, rfl, rfl, rfl⟩

theorem exists_bound : ∃ labels before,
    Run (Guarded (Step true) (System.Allows true)) .initial labels before ∧
      before.bound = true ∧ before.ledger .fbNotif = .obtained := by
  obtain ⟨calls, err, after, hstep⟩ := exists_probe true plenty
  have hallowed : System.initial.Allows true (.probe panel plenty calls err) :=
    fun _ _ _ => suffices_plenty
  refine ⟨_, _, .single ⟨hstep, hallowed⟩, ?_⟩
  cases hstep with
  | probe hbound hprobe =>
      obtain ⟨-, hresult, hleft⟩ := (@probe_iff true panel plenty calls _ _ _
        (fun result left => result = (some (.probed plenty), 0) ∧
          left = AxsTsData.held true (.probed plenty))
        ⟨rfl, rfl, rfl⟩ hprobe fun hnone => by cases hnone.1).mpr ⟨suffices_plenty, rfl, rfl⟩
      refine ⟨decide_eq_true (Prod.mk.inj hresult).2, ?_⟩
      exact congrFun hleft .fbNotif

theorem probe_remove_balanced_iff_bound : ∃ before calls after,
    Step true before (.remove calls) after ∧ Balanced before (.remove calls) after := by
  obtain ⟨labels, before, hrun, hbound, hclient⟩ := exists_bound
  have hsound := hrun.invariant (fun _ _ _ hsound hnext => hsound.step hnext.1 hnext.2)
    (System.Sound.initial true)
  obtain ⟨choice, hdata, -⟩ := hsound.bound hbound
  have hstep := @Step.remove true before _ _ hbound hdata rfl
  exact ⟨before, _, _, hstep, (probe_remove_balanced_iff hrun hstep).mpr fun _ => hclient⟩

/-- `-EBUSY` for the interrupt. -/
def busyIrq : Choice Resource where
  obtain r := if r = .irq then -16 else 0
  register _ := 0

/-- The interrupt is not to be had, and the input device that was registered is freed. -/
theorem irq_failure_not_balanced : ¬ ∀ (configFb : Bool) (labels : List Label)
    (before after : System) (label : Label), Run (Step configFb) .initial labels before →
      Step configFb before label after → Balanced before label after := by
  intro halways
  obtain ⟨calls, err, after, hstep⟩ := exists_probe true busyIrq
  have hbalanced := halways true [] .initial after _ (.nil _) hstep
  have hallowed := ((System.Sound.initial true).balanced_iff hstep).mp hbalanced
  exact absurd (hallowed rfl rfl rfl).irq (by decide)

end FrontPanel.Touch.Binding
