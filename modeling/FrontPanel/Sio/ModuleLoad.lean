import FrontPanel.Lib.Ledger
import FrontPanel.Sio.SataState

/-!
# Loading and unloading the two proc modules

What `functions_init` and `functions_exit` of `ug_it55pro_functions.c` and `sataio_beep_init` and `sataio_beep_exit` of `ug_sataio_beeper.c` obtain and give back. Each makes a directory under `/proc` with its files, and neither looks at whether that went well, nor does the first look at its backlight or its watchdog: the module is loaded all the same, and when it is unloaded it gives back everything, what it never got included. With no directory a file is looked for in `/proc` itself.

What the two do to the controller, the timer and the delayed work is left out here.
-/

namespace FrontPanel.Sio.ModuleLoad

open Request

inductive Resource
  /-- the n-th register block that is mapped -/
  | mapping (n : Nat)
  | backlight
  | watchdog
  /-- `nas_dir` -/
  | dir
  /-- a file in `nas_dir`, or in `/proc` where `nas_dir` is NULL -/
  | file (name : String) (nasDir : Bool)
  deriving DecidableEq

/-! ### The code -/

/-- `-ENODEV`, `-ENOMEM` -/
def eNodev : Int := -19
def eNomem : Int := -12

/-- `procfs_create` of both modules: its result, and whether `nas_dir` is set. -/
def procfsCreate (names : List String) : Prog (Kernel Resource) (Int × Bool) := do
  let ret ← obtaining .dir
  if ret ≠ 0 then return (eNodev, false)
  let ret ← obtainingAll (names.map fun name => .file name true)
  if ret ≠ 0 then
    freeing .dir
    return (eNodev, false)
  return (0, true)

def functionsNames : List String := ["fan", "startup", "pwr", "Lan_wakeup", "G3_wakeup"]

def mipiBacklightDriverInit : Prog (Kernel Resource) Int := obtaining .backlight

/-- `watchdog_register_device`, after which it is the device's. -/
def it55WdtInit : Prog (Kernel Resource) Int := obtaining .watchdog

/-- The result, and whether `nas_dir` is set. -/
def functionsInit (product : String) : Prog (Kernel Resource) (Int × Bool) := do
  if product ≠ "iDX6011 Pro" then return (eNodev, false)
  let ret ← obtaining (.mapping 0)
  if ret ≠ 0 then return (eNomem, false)
  let _ ← mipiBacklightDriverInit
  let _ ← it55WdtInit
  let created ← procfsCreate functionsNames
  return (0, created.2)

/-- A loaded module has mapped `power_status_virt_addr`. -/
def functionsExit (nasDir : Bool) : Prog (Kernel Resource) Unit := do
  freeing (.file "fan" nasDir)
  freeing (.file "startup" nasDir)
  freeing (.file "pwr" nasDir)
  freeing (.file "G3_wakeup" nasDir)
  freeing (.file "Lan_wakeup" nasDir)
  freeing .dir
  freeing .watchdog
  freeing .backlight
  freeing (.mapping 0)

/-- Loaded and, if that went well, unloaded. -/
def functionsCycle (product : String) : Prog (Kernel Resource) Unit := do
  let loaded ← functionsInit product
  if loaded.1 = 0 then functionsExit loaded.2

def beepNames : List String := ["sata_sw", "beeper"]

/-- The loop of `hwinit`: which register blocks are mapped. -/
def hwinit : List Nat → Prog (Kernel Resource) (List Nat)
  | [] => return []
  | bay :: bays => do
      let ret ← obtaining (.mapping bay)
      let mapped ← hwinit bays
      return if ret = 0 then bay :: mapped else mapped

def bayNumbers (product : String) : List Nat :=
  List.range (SataState.dmiGetProduct product).sataIoNum

/-- The blocks that are mapped, and whether `nas_dir` is set; the result is always 0. -/
def sataioBeepInit (product : String) : Prog (Kernel Resource) (List Nat × Bool) := do
  let created ← procfsCreate beepNames
  let mapped ← hwinit (bayNumbers product)
  return (mapped, created.2)

/-- `hw_unioremap` and `procfs_remove` -/
def sataioBeepExit (mapped : List Nat) (nasDir : Bool) : Prog (Kernel Resource) Unit := do
  freeingAll (mapped.map .mapping)
  freeing (.file "sata_sw" nasDir)
  freeing (.file "beeper" nasDir)
  freeing .dir

def beepCycle (product : String) : Prog (Kernel Resource) Unit := do
  let loaded ← sataioBeepInit product
  sataioBeepExit loaded.1 loaded.2

/-! ### The proc directory -/

variable {choice : Choice Resource} {ledger : Ledger Resource} {names : List String}

/-- The directory and all its files can be made. -/
structure Proc (choice : Choice Resource) (names : List String) : Prop where
  dir : choice.obtain .dir = 0
  file : ∀ name ∈ names, choice.obtain (.file name true) = 0

def procResources (names : List String) : List Resource :=
  .dir :: names.map fun name => .file name true

theorem nodup_procResources (hnames : names.Nodup) : (procResources names).Nodup := by
  refine List.nodup_cons.mpr ⟨?_, hnames.map fun a b hsame => ?_⟩
  · simp
  · cases hsame
    rfl

theorem keeps_procfsCreate {post : Int × Bool → Ledger Resource → Prop} (hproc : Proc choice names)
    (hnames : names.Nodup) (hdir : ledger .dir = .absent)
    (hfiles : ∀ name, ledger (.file name true) = .absent) :
    (procfsCreate names).Keeps choice post ledger ↔
      post (0, true) (ledger.mark (procResources names) .obtained) := by
  have hall : ∀ r ∈ names.map fun name => Resource.file name true, choice.obtain r = 0 := by
    simpa using hproc.file
  have habsent : ∀ r ∈ names.map fun name => Resource.file name true,
      Function.update ledger .dir .obtained r = .absent := by
    simpa using fun name _ => hfiles name
  obtain ⟨-, hnodup⟩ := List.nodup_cons.mp (nodup_procResources hnames)
  rw [procfsCreate, Prog.keeps_obtained hproc.dir hdir, Prog.keeps_bind,
    Prog.keeps_obtainingAll hall habsent hnodup, procResources, Ledger.mark_cons]
  rfl

theorem procfsCreate_fails {post : Int × Bool → Ledger Resource → Prop}
    (hproc : ¬ Proc choice names) (hkeeps : (procfsCreate names).Keeps choice post ledger) :
    ∃ ret left, post (ret, false) left ∧ ∀ r, r ∉ procResources names → left r = ledger r := by
  by_cases hdir : choice.obtain .dir = 0
  · have hsome : ∃ r ∈ names.map fun name => Resource.file name true, choice.obtain r ≠ 0 := by
      by_contra hnone
      refine hproc ⟨hdir, fun name hmem => ?_⟩
      by_contra hfails
      exact hnone ⟨_, List.mem_map_of_mem hmem, hfails⟩
    have hnone : ledger .dir = .absent := hkeeps.1 hdir
    rw [procfsCreate, Prog.keeps_obtained hdir hnone, Prog.keeps_bind] at hkeeps
    obtain ⟨ret, left, hret, hrest, hframe⟩ := hkeeps.obtainingAll hsome
    rw [if_pos hret] at hrest
    refine ⟨_, _, hrest.2, fun r hr => ?_⟩
    obtain ⟨hne, hnot⟩ := not_or.mp (List.mem_cons.not.mp hr)
    show Function.update left .dir .absent r = _
    rw [Function.update_of_ne hne, hframe r hnot, Function.update_of_ne hne]
  · rw [procfsCreate, Prog.keeps_not_obtained hdir] at hkeeps
    exact ⟨_, ledger, hkeeps, fun _ _ => rfl⟩

/-! ### The board functions -/

/-- Nothing is held. -/
def unloaded : Ledger Resource := fun _ => .absent

theorem functionsNames_nodup : functionsNames.Nodup := by decide

/-- What `functions_exit` gives back, in its order. -/
def functionsHeld (nasDir : Bool) : List Resource :=
  ["fan", "startup", "pwr", "G3_wakeup", "Lan_wakeup"].map (Resource.file · nasDir) ++
    [.dir, .watchdog, .backlight, .mapping 0]

theorem functionsExit_eq (nasDir : Bool) : functionsExit nasDir = freeingAll (functionsHeld nasDir) :=
  rfl

theorem functionsHeld_nodup (nasDir : Bool) : (functionsHeld nasDir).Nodup := by
  cases nasDir
  · decide
  · decide

/-- What is held once the module is loaded with its proc files. -/
def functionsLedger (choice : Choice Resource) : Ledger Resource :=
  Ledger.mark (Function.update (Function.update (Function.update unloaded (.mapping 0) .obtained)
    .backlight (.obtainedIf (choice.obtain .backlight = 0)))
    .watchdog (.obtainedIf (choice.obtain .watchdog = 0))) (procResources functionsNames) .obtained

theorem obtainedIf_eq_iff (there : Prop) [Decidable there] :
    Held.obtainedIf there = .obtained ↔ there := by
  by_cases hthere : there
  · simp [Held.obtainedIf, hthere]
  · simp [Held.obtainedIf, hthere]

theorem functionsLedger_held_iff (choice : Choice Resource) :
    (∀ r ∈ functionsHeld true, functionsLedger choice r = .obtained) ↔
      choice.obtain .backlight = 0 ∧ choice.obtain .watchdog = 0 := by
  have hfiles : ∀ name ∈ functionsNames, functionsLedger choice (.file name true) = .obtained := by
    intro name hmem
    exact if_pos (List.mem_cons_of_mem _ (List.mem_map_of_mem hmem))
  have hwatchdog : functionsLedger choice .watchdog =
      .obtainedIf (choice.obtain .watchdog = 0) := rfl
  have hbacklight : functionsLedger choice .backlight =
      .obtainedIf (choice.obtain .backlight = 0) := rfl
  have hothers : functionsLedger choice .dir = .obtained ∧
      functionsLedger choice (.mapping 0) = .obtained := ⟨rfl, rfl⟩
  have hsame : ∀ name ∈ ["fan", "startup", "pwr", "G3_wakeup", "Lan_wakeup"],
      name ∈ functionsNames := by decide
  rw [functionsHeld, List.forall_mem_append, List.forall_mem_map]
  constructor
  · intro hall
    exact ⟨(obtainedIf_eq_iff _).mp (hbacklight.symm.trans (hall.2 .backlight (by decide))),
      (obtainedIf_eq_iff _).mp (hwatchdog.symm.trans (hall.2 .watchdog (by decide)))⟩
  · intro hgiven
    have hback := hbacklight.trans ((obtainedIf_eq_iff _).mpr hgiven.1)
    have hwatch := hwatchdog.trans ((obtainedIf_eq_iff _).mpr hgiven.2)
    refine ⟨fun name hmem => hfiles name (hsame name hmem), ?_⟩
    simp [hback, hwatch, hothers.1, hothers.2]

theorem functionsLedger_freed (choice : Choice Resource) :
    (functionsLedger choice).mark (functionsHeld true) .absent = unloaded := by
  funext r
  by_cases hheld : r ∈ functionsHeld true
  · exact if_pos hheld
  · have hin : ∀ r ∈ procResources functionsNames ++ [.watchdog, .backlight, .mapping 0],
        r ∈ functionsHeld true := by decide
    have hnot : r ∉ procResources functionsNames ++ [.watchdog, .backlight, .mapping 0] :=
      fun hmem => hheld (hin r hmem)
    simp only [List.mem_append, List.mem_cons, List.not_mem_nil, or_false, not_or] at hnot
    obtain ⟨hproc, hwatchdog, hbacklight, hmapping⟩ := hnot
    refine (if_neg hheld).trans ((if_neg hproc).trans ?_)
    rw [Function.update_of_ne hwatchdog, Function.update_of_ne hbacklight,
      Function.update_of_ne hmapping]

/-- Everything that a load of the board functions needs, unless it is refused. -/
def FunctionsServed (product : String) (choice : Choice Resource) : Prop :=
  product ≠ "iDX6011 Pro" ∨ choice.obtain (.mapping 0) ≠ 0 ∨
    choice.obtain .backlight = 0 ∧ choice.obtain .watchdog = 0 ∧ Proc choice functionsNames

/-- A load and an unload match if the load is refused or everything is there, and not otherwise. -/
theorem keeps_functionsCycle (product : String) (choice : Choice Resource)
    (post : Unit → Ledger Resource → Prop) : (functionsCycle product).Keeps choice post unloaded ↔
      FunctionsServed product choice ∧ post () unloaded := by
  rw [functionsCycle, Prog.keeps_bind, functionsInit]
  by_cases hproduct : product ≠ "iDX6011 Pro"
  · rw [if_pos hproduct]
    exact (and_iff_right (.inl hproduct)).symm
  rw [if_neg hproduct]
  by_cases hmapping : choice.obtain (.mapping 0) ≠ 0
  · rw [Prog.keeps_not_obtained hmapping]
    exact (and_iff_right (.inr (.inl hmapping))).symm
  have hserved : FunctionsServed product choice ↔ choice.obtain .backlight = 0 ∧
      choice.obtain .watchdog = 0 ∧ Proc choice functionsNames := by
    rw [FunctionsServed, or_iff_right hproduct, or_iff_right hmapping]
  rw [hserved, Prog.keeps_obtained (not_not.mp hmapping) rfl, mipiBacklightDriverInit, it55WdtInit,
    Prog.keeps_bind, Prog.keeps_optional rfl, Prog.keeps_bind, Prog.keeps_optional rfl,
    Prog.keeps_bind]
  by_cases hproc : Proc choice functionsNames
  · rw [keeps_procfsCreate hproc functionsNames_nodup rfl fun _ => rfl]
    show (functionsExit true).Keeps choice post (functionsLedger choice) ↔ _
    rw [functionsExit_eq, Prog.keeps_freeingAll (functionsHeld_nodup true), functionsLedger_held_iff,
      functionsLedger_freed, and_iff_left hproc]
  · refine iff_of_false (fun hkeeps => ?_) fun hgiven => hproc hgiven.1.2.2
    -- with no `nas_dir` the first file is looked for where none was made
    obtain ⟨ret, left, hexit, hframe⟩ := procfsCreate_fails hproc hkeeps
    have hexit : (functionsExit false).Keeps choice post left := hexit
    rw [functionsExit_eq, Prog.keeps_freeingAll (functionsHeld_nodup false)] at hexit
    have hfan := hexit.1 (.file "fan" false) (by decide)
    rw [hframe _ (by decide)] at hfan
    cases hfan

/-- However often the board functions are loaded and unloaded, what is obtained is given back and nothing else exactly if no load goes through without its backlight, its watchdog or its proc files. -/
theorem functions_balanced_iff (product : String) (choices : List (Choice Resource)) :
    (functionsCycle product).Rounds choices unloaded ↔
      ∀ choice ∈ choices, FunctionsServed product choice :=
  Prog.rounds_iff (keeps_functionsCycle product) (fun _ => rfl) choices

/-! ### The beeper -/

/-- The blocks that are mapped, of these bays. -/
def mappedBays (choice : Choice Resource) (bays : List Nat) : List Nat :=
  bays.filter fun bay => choice.obtain (.mapping bay) = 0

theorem keeps_hwinit {post : List Nat → Ledger Resource → Prop} {bays : List Nat}
    (hbays : bays.Nodup) (habsent : ∀ bay, bay ∈ bays → ledger (.mapping bay) = .absent) :
    (hwinit bays).Keeps choice post ledger ↔ post (mappedBays choice bays)
      (ledger.mark ((mappedBays choice bays).map .mapping) .obtained) := by
  induction bays generalizing ledger post with
  | nil =>
      show _ ↔ post [] (ledger.mark [] .obtained)
      rw [Ledger.mark_nil]
      rfl
  | cons bay bays ih =>
      obtain ⟨hnew, hbays⟩ := List.nodup_cons.mp hbays
      have hnone := habsent bay List.mem_cons_self
      have hothers : ∀ other, other ∈ bays → Function.update ledger (.mapping bay)
          (.obtainedIf (choice.obtain (.mapping bay) = 0)) (.mapping other) = .absent := by
        intro other hmem
        have hne : Resource.mapping other ≠ .mapping bay := by
          intro hsame
          cases hsame
          exact hnew hmem
        rw [Function.update_of_ne hne]
        exact habsent other (List.mem_cons_of_mem _ hmem)
      rw [hwinit, Prog.keeps_bind, Prog.keeps_optional hnone, Prog.keeps_bind, ih hbays hothers]
      by_cases hret : choice.obtain (.mapping bay) = 0
      · have hmapped : mappedBays choice (bay :: bays) = bay :: mappedBays choice bays :=
          List.filter_cons_of_pos (decide_eq_true hret)
        rw [hmapped, List.map_cons, Ledger.mark_cons, decide_eq_true hret]
        show post (if _ then _ else _) _ ↔ _
        rw [if_pos hret]
        rfl
      · have hmapped : mappedBays choice (bay :: bays) = mappedBays choice bays :=
          List.filter_cons_of_neg (by rw [decide_eq_false hret]; decide)
        have hsame : Function.update ledger (.mapping bay) .absent = ledger := by
          rw [← hnone, Function.update_eq_self]
        rw [hmapped, decide_eq_false hret]
        show post (if _ then _ else _) (Ledger.mark (Function.update ledger _ .absent) _ _) ↔ _
        rw [if_neg hret, hsame]

def beepHeld (mapped : List Nat) (nasDir : Bool) : List Resource :=
  mapped.map .mapping ++ [.file "sata_sw" nasDir, .file "beeper" nasDir, .dir]

theorem sataioBeepExit_eq (mapped : List Nat) (nasDir : Bool) :
    sataioBeepExit mapped nasDir = freeingAll (beepHeld mapped nasDir) := by
  rw [beepHeld, freeingAll_append]
  rfl

theorem mapping_nodup {mapped : List Nat} (hmapped : mapped.Nodup) :
    (mapped.map Resource.mapping).Nodup := by
  refine hmapped.map fun a b hsame => ?_
  cases hsame
  rfl

theorem beepHeld_nodup {mapped : List Nat} (hmapped : mapped.Nodup) (nasDir : Bool) :
    (beepHeld mapped nasDir).Nodup := by
  refine (mapping_nodup hmapped).append (by cases nasDir <;> decide) ?_
  intro r hmem hother
  obtain ⟨bay, -, rfl⟩ := List.mem_map.mp hmem
  simp at hother

/-- A load and an unload match if the proc files can be made, and not otherwise. -/
theorem keeps_beepCycle (product : String) (choice : Choice Resource)
    (post : Unit → Ledger Resource → Prop) : (beepCycle product).Keeps choice post unloaded ↔
      Proc choice beepNames ∧ post () unloaded := by
  have hbays : (bayNumbers product).Nodup := List.nodup_range
  have hmapped : (mappedBays choice (bayNumbers product)).Nodup := hbays.filter _
  rw [beepCycle, Prog.keeps_bind, sataioBeepInit, Prog.keeps_bind]
  by_cases hproc : Proc choice beepNames
  · have habsent : ∀ bay, bay ∈ bayNumbers product →
        unloaded.mark (procResources beepNames) .obtained (.mapping bay) = .absent := by
      intro bay _
      exact if_neg (by simp [procResources])
    rw [keeps_procfsCreate hproc (by decide) rfl fun _ => rfl, Prog.keeps_bind,
      keeps_hwinit hbays habsent]
    show (sataioBeepExit _ true).Keeps choice post _ ↔ _
    rw [sataioBeepExit_eq, Prog.keeps_freeingAll (beepHeld_nodup hmapped true)]
    generalize mappedBays choice (bayNumbers product) = mapped
    have hheld : ∀ r, r ∈ beepHeld mapped true ↔
        r ∈ mapped.map .mapping ∨ r ∈ procResources beepNames := by
      intro r
      rw [beepHeld, List.mem_append]
      refine or_congr_right ?_
      simp only [procResources, beepNames, List.map_cons, List.map_nil, List.mem_cons, List.not_mem_nil]
      tauto
    have hobtained : ∀ r ∈ beepHeld mapped true, Ledger.mark
        (unloaded.mark (procResources beepNames) .obtained) (mapped.map .mapping) .obtained r =
          .obtained := by
      intro r hmem
      by_cases hmapped : r ∈ mapped.map .mapping
      · exact if_pos hmapped
      · exact (if_neg hmapped).trans (if_pos (((hheld r).mp hmem).resolve_left hmapped))
    have hfreed : Ledger.mark (Ledger.mark (unloaded.mark (procResources beepNames) .obtained)
        (mapped.map .mapping) .obtained) (beepHeld mapped true) .absent = unloaded := by
      funext r
      by_cases hmem : r ∈ beepHeld mapped true
      · exact if_pos hmem
      · obtain ⟨hmapped, hfiles⟩ := not_or.mp ((hheld r).not.mp hmem)
        exact (if_neg hmem).trans ((if_neg hmapped).trans (if_neg hfiles))
    rw [hfreed, and_iff_right hobtained, and_iff_right hproc]
  · refine iff_of_false (fun hkeeps => ?_) fun hgiven => hproc hgiven.1
    obtain ⟨ret, left, hinit, hframe⟩ := procfsCreate_fails hproc hkeeps
    have habsent : ∀ bay, bay ∈ bayNumbers product → left (.mapping bay) = .absent := by
      intro bay _
      exact hframe _ (by simp [procResources])
    rw [Prog.keeps_bind, keeps_hwinit hbays habsent] at hinit
    have hexit : (sataioBeepExit _ false).Keeps choice post _ := hinit
    rw [sataioBeepExit_eq, Prog.keeps_freeingAll (beepHeld_nodup hmapped false)] at hexit
    have hfile := hexit.1 (.file "sata_sw" false) (List.mem_append_right _ List.mem_cons_self)
    rw [Ledger.mark, if_neg (by simp), hframe _ (by simp [procResources])] at hfile
    cases hfile

/-- However often the beeper module is loaded and unloaded, what is obtained is given back and nothing else exactly if no load goes through without its proc files. -/
theorem beep_balanced_iff (product : String) (choices : List (Choice Resource)) :
    (beepCycle product).Rounds choices unloaded ↔ ∀ choice ∈ choices, Proc choice beepNames :=
  Prog.rounds_iff (keeps_beepCycle product) (fun _ => rfl) choices

end FrontPanel.Sio.ModuleLoad
