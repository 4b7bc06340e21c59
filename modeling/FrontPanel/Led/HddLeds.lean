import FrontPanel.Led.Color
import FrontPanel.Lib.Run

/-!
# The daemon of the disk LEDs

The loop of `examples/hdd-leds.sh`. Every second it lists the disks, gives each of the first six a bay in the order of the list, and calls `apply_one` for a bay only where the state file of the last round says otherwise, and for all behind the last disk if one has been added. The state file can be left over from a daemon that ran before, so the first round may find any.

`apply_one` takes the name of its LED from a variable `n` that its caller does not have, unless the environment does, and under `set -u` that ends the script. So the daemon as it is started by default lives for as long as it has nothing to do.
-/

namespace FrontPanel.Led.HddLeds

/-! ### The script -/

/-- A line that is written to a file in the directory of an LED. -/
structure Write where
  led : String
  attr : String
  value : String

def led (name : String) (settings : List (String × String)) : List Write :=
  settings.map fun setting => ⟨name, setting.1, setting.2⟩

/-- The lines of the two branches of `apply_one`. -/
def settingLines (d : String) (present : Bool) : List Write :=
  if present then led d [("trigger", "normal"), ("color", "0"), ("brightness", "255")]
  else led d [("trigger", "none"), ("brightness", "0")]

/-- `local n="$1" p="$2" d="disk$n"` expands all its words before it assigns the first, so `$n` is the variable `n` of the caller, `outer`, and the bay in `$1` goes nowhere. Where there is no such variable `set -u` ends the script: `none`. -/
def applyOne (outer : Option String) (present : Bool) : Option (List Write) := do
  let n ← outer
  return settingLines ("disk" ++ n) present

/-- The expression that `scan_disks` looks for: `sd` and letters, or `nvme` and two numbers with an `n` between. -/
def isDisk (name : String) : Bool :=
  match name.toList with
  | 's' :: 'd' :: letters => letters ≠ [] && letters.all Char.isLower
  | 'n' :: 'v' :: 'm' :: 'e' :: rest =>
      match rest.dropWhile Char.isDigit with
      | 'n' :: digits =>
          rest.takeWhile Char.isDigit ≠ [] && digits ≠ [] && digits.all Char.isDigit
      | _ => false
  | _ => false

def scanDisks (blocks : List String) : List String :=
  (blocks.filter isDisk).mergeSort fun a b => decide (a ≤ b)

/-- The lines of the state file, if there is one. -/
abbrev StateFile := Option (List String)

/-- `get_state | grep -qx i` -/
def inState (state : StateFile) (i : Nat) : Bool := (state.getD []).contains (toString i)

/-- `printf` prints one empty line where it is given no words. -/
def setState (words : List String) : StateFile := some (if words = [] then [""] else words)

/-- The variables of a round, and what it has written. -/
structure Pass where
  i : Nat
  newstate : List String
  changed : Bool
  writes : List Write

/-- A line of `disks` takes the next bay. -/
def Pass.present (outer : Option String) (state : StateFile) (s : Pass) : Option Pass := do
  let s := { s with newstate := s.newstate ++ [toString s.i] }
  if inState state s.i then return { s with i := s.i + 1 }
  else
    let writes ← applyOne outer true
    return { s with i := s.i + 1, changed := true, writes := s.writes ++ writes }

/-- The loop over the lines of `disks`. -/
def presentLoop (outer : Option String) (state : StateFile) : List String → Pass → Option Pass
  | [], s => some s
  | dev :: lines, s =>
      if dev = "" then presentLoop outer state lines s
      else do
        let s ← s.present outer state
        if s.i > 6 then return s
        presentLoop outer state lines s

/-- The loop over the empty slots. -/
def absentLoop (outer : Option String) (state : StateFile) (s : Pass) : Option Pass :=
  if s.i ≤ 6 then do
    let writes ← if inState state s.i || s.changed then applyOne outer false else some []
    absentLoop outer state { s with i := s.i + 1, writes := s.writes ++ writes }
  else some s
termination_by 7 - s.i
decreasing_by
  show 7 - (s.i + 1) < 7 - s.i
  omega

structure Daemon where
  running : Bool
  state : StateFile
  writes : List Write

/-- The script when it comes to its loop. -/
def Daemon.start (file : StateFile) : Daemon := ⟨true, file, []⟩

/-- One round, with these names in `/sys/block`. -/
def Daemon.round (outer : Option String) (daemon : Daemon) (blocks : List String) : Daemon :=
  let disks := scanDisks blocks
  -- a here-string of nothing is one empty line
  let lines := if disks = [] then [""] else disks
  match (presentLoop outer daemon.state lines ⟨1, [], false, []⟩).bind
      (absentLoop outer daemon.state) with
  -- either every call of `apply_one` ends the script or none does, so the first has ended it here
  | none => { daemon with running := false }
  | some s => { daemon with state := setState s.newstate, writes := daemon.writes ++ s.writes }

/-! ### The calls of a round -/

/-- The bays that have a disk. -/
def bays (blocks : List String) : Nat := min 6 (blocks.filter isDisk).length

/-- The lines of some calls of `apply_one`. -/
def applyAll (outer : Option String) (calls : List Bool) : Option (List Write) :=
  (calls.mapM (applyOne outer)).map List.flatten

theorem applyAll_cons (outer : Option String) (present : Bool) (calls : List Bool) :
    applyAll outer (present :: calls) = (applyOne outer present).bind fun writes =>
      (applyAll outer calls).map (writes ++ ·) := by
  rw [applyAll, List.mapM_cons]
  cases applyOne outer present with
  | none => rfl
  | some writes => cases hcalls : calls.mapM (applyOne outer) <;> simp [applyAll, hcalls]

theorem applyAll_append (outer : Option String) (first second : List Bool) :
    applyAll outer (first ++ second) = (applyAll outer first).bind fun writes =>
      (applyAll outer second).map (writes ++ ·) := by
  induction first with
  | nil =>
      show applyAll outer second = (applyAll outer second).map ([] ++ ·)
      cases applyAll outer second <;> rfl
  | cons present first ih =>
      rw [List.cons_append, applyAll_cons, applyAll_cons, ih]
      cases applyOne outer present <;> cases applyAll outer first <;>
        cases applyAll outer second <;> simp

/-- Without the variable no call is survived. -/
theorem applyAll_none {calls : List Bool} (hcalls : calls ≠ []) : applyAll none calls = none := by
  cases calls with
  | nil => exact absurd rfl hcalls
  | cons present calls => rfl

theorem applyAll_some (text : String) (calls : List Bool) :
    applyAll (some text) calls = some (calls.flatMap (settingLines ("disk" ++ text))) := by
  induction calls with
  | nil => rfl
  | cons present calls ih =>
      rw [applyAll_cons, ih]
      rfl

/-- The bays that a round fills, and those it finds to be dark. -/
def filled (state : StateFile) (blocks : List String) : List Nat :=
  (List.range' 1 (bays blocks)).filter fun i => !inState state i

def darkened (state : StateFile) (blocks : List String) : List Nat :=
  (List.range' (1 + bays blocks) (6 - bays blocks)).filter fun i =>
    inState state i || filled state blocks ≠ []

/-- The calls of `apply_one` in a round, each by whether the bay has a disk. -/
def calls (state : StateFile) (blocks : List String) : List Bool :=
  (filled state blocks).map (fun _ => true) ++ (darkened state blocks).map (fun _ => false)

/-- The pass after the bays from the next one on have been taken. -/
def Pass.presentAll (outer : Option String) (state : StateFile) (s : Pass) (count : Nat) :
    Option Pass :=
  let new := (List.range' s.i count).filter fun i => !inState state i
  (applyAll outer (new.map fun _ => true)).map fun writes =>
    { i := s.i + count
      newstate := s.newstate ++ (List.range' s.i count).map toString
      changed := s.changed || new ≠ []
      writes := s.writes ++ writes }

theorem Pass.presentAll_succ (outer : Option String) (state : StateFile) (s : Pass) (count : Nat) :
    s.presentAll outer state (count + 1) =
      (s.present outer state).bind (·.presentAll outer state count) := by
  have hi : s.i + (count + 1) = s.i + 1 + count := by omega
  have hwords : s.newstate ++ (List.range' s.i (count + 1)).map toString =
      s.newstate ++ [toString s.i] ++ (List.range' (s.i + 1) count).map toString := by
    rw [List.range'_succ, List.map_cons, List.append_cons]
  cases hstate : inState state s.i with
  | true =>
      have hnew : (List.range' s.i (count + 1)).filter (fun i => !inState state i) =
          (List.range' (s.i + 1) count).filter fun i => !inState state i := by
        rw [List.range'_succ, List.filter_cons_of_neg (by rw [hstate]; decide)]
      rw [Pass.present, if_pos hstate]
      show _ = Pass.presentAll outer state
        ⟨s.i + 1, s.newstate ++ [toString s.i], s.changed, s.writes⟩ count
      simp only [Pass.presentAll, hnew, hi, hwords]
  | false =>
      have hnew : (List.range' s.i (count + 1)).filter (fun i => !inState state i) =
          s.i :: (List.range' (s.i + 1) count).filter fun i => !inState state i := by
        rw [List.range'_succ, List.filter_cons_of_pos (by rw [hstate]; decide)]
      rw [Pass.present, if_neg (by rw [hstate]; decide)]
      simp only [Pass.presentAll, hnew, hi, hwords, List.map_cons, applyAll_cons]
      cases applyOne outer true with
      | none => rfl
      | some writes =>
          show ((applyAll outer _).map _).map _ = (applyAll outer _).map _
          rw [Option.map_map]
          refine congrArg (Option.map · _) (funext fun later => ?_)
          show Pass.mk _ _ (s.changed || decide (_ :: _ ≠ [])) (s.writes ++ (writes ++ later)) = _
          rw [← List.append_assoc]
          simp

theorem Pass.presentAll_zero (outer : Option String) (state : StateFile) (s : Pass) :
    s.presentAll outer state 0 = some s := by
  simp [Pass.presentAll, applyAll]

theorem Pass.present_i {outer : Option String} {state : StateFile} {s next : Pass}
    (hnext : s.present outer state = some next) : next.i = s.i + 1 := by
  cases hstate : inState state s.i with
  | true =>
      simp only [Pass.present, hstate, if_pos, Option.pure_def, Option.some.injEq] at hnext
      exact hnext ▸ rfl
  | false =>
      cases hwrites : applyOne outer true with
      | none => simp [Pass.present, hstate, hwrites] at hnext
      | some writes =>
          obtain rfl : _ = next := by simpa [Pass.present, hstate, hwrites] using hnext
          rfl

theorem presentLoop_eq (outer : Option String) (state : StateFile) {lines : List String}
    (hlines : "" ∉ lines) {s : Pass} (hi : s.i ≤ 6) :
    presentLoop outer state lines s = s.presentAll outer state (min lines.length (7 - s.i)) := by
  induction lines generalizing s with
  | nil => simp [presentLoop, Pass.presentAll_zero]
  | cons dev lines ih =>
      obtain ⟨hdev, hlines⟩ := List.ne_and_not_mem_of_not_mem_cons hlines
      have hcount : min (dev :: lines).length (7 - s.i) = min lines.length (7 - (s.i + 1)) + 1 := by
        rw [List.length_cons]
        omega
      rw [presentLoop, if_neg (Ne.symm hdev), hcount, Pass.presentAll_succ]
      cases hnext : s.present outer state with
      | none => rfl
      | some next =>
          rw [← Pass.present_i hnext]
          show (if next.i > 6 then some next else presentLoop outer state lines next) = _
          by_cases hlast : next.i > 6
          · have hnone : min lines.length (7 - next.i) = 0 := by omega
            rw [if_pos hlast, hnone]
            exact (Pass.presentAll_zero outer state next).symm
          · rw [if_neg hlast, ih hlines (Nat.not_lt.mp hlast)]
            rfl

theorem absentLoop_eq (outer : Option String) (state : StateFile) (s : Pass) :
    absentLoop outer state s =
      (applyAll outer (((List.range' s.i (7 - s.i)).filter fun i =>
        inState state i || s.changed).map fun _ => false)).map fun writes =>
          { s with i := max s.i 7, writes := s.writes ++ writes } := by
  induction hleft : 7 - s.i generalizing s with
  | zero =>
      have hi : max s.i 7 = s.i := by omega
      rw [absentLoop, if_neg (by omega), hi]
      simp [applyAll]
  | succ left ih =>
      have hi : max (s.i + 1) 7 = max s.i 7 := by omega
      rw [absentLoop, if_pos (by omega), List.range'_succ, List.filter_cons]
      cases hwrite : (inState state s.i || s.changed) with
      | true =>
          rw [if_pos rfl, if_pos rfl, List.map_cons, applyAll_cons]
          cases applyOne outer false with
          | none => rfl
          | some writes =>
              refine (ih _ (by show 7 - (s.i + 1) = left; omega)).trans ?_
              rw [Option.bind_some, Option.map_map]
              simp [Function.comp_def, hi]
      | false =>
          rw [if_neg Bool.false_ne_true, if_neg Bool.false_ne_true]
          refine (ih _ (by show 7 - (s.i + 1) = left; omega)).trans ?_
          simp [hi]

theorem scanDisks_length (blocks : List String) :
    (scanDisks blocks).length = (blocks.filter isDisk).length := List.length_mergeSort _

theorem not_mem_scanDisks (blocks : List String) : "" ∉ scanDisks blocks := by
  rw [scanDisks, List.mem_mergeSort, List.mem_filter]
  intro hmem
  exact absurd hmem.2 (by decide)

theorem passes_eq (outer : Option String) (state : StateFile) (blocks : List String) :
    (Pass.presentAll outer state ⟨1, [], false, []⟩ (bays blocks)).bind (absentLoop outer state) =
      (applyAll outer (calls state blocks)).map fun writes =>
        ⟨7, (List.range' 1 (bays blocks)).map toString, filled state blocks ≠ [], writes⟩ := by
  have hbays : bays blocks ≤ 6 := Nat.min_le_left _ _
  have hcount : 7 - (1 + bays blocks) = 6 - bays blocks := by omega
  have hlast : max (1 + bays blocks) 7 = 7 := by omega
  have hdarkened : ((List.range' (1 + bays blocks) (7 - (1 + bays blocks))).filter fun i =>
      inState state i || (false || filled state blocks ≠ [])) = darkened state blocks := by
    rw [hcount]
    rfl
  rw [Pass.presentAll, calls, applyAll_append]
  show ((applyAll outer ((filled state blocks).map fun _ => true)).map _).bind _ = _
  cases applyAll outer ((filled state blocks).map fun _ => true) with
  | none => rfl
  | some writes =>
      rw [Option.map_some, Option.bind_some, Option.bind_some, absentLoop_eq, Option.map_map,
        ← hdarkened]
      refine congrArg (Option.map · _) (funext fun later => ?_)
      show Pass.mk (max (1 + bays blocks) 7) _ _ _ = _
      rw [hlast]
      rfl

/-- A round is its calls, and then the list of the bays that have a disk. -/
theorem round_eq (outer : Option String) (daemon : Daemon) (blocks : List String) :
    daemon.round outer blocks =
      match applyAll outer (calls daemon.state blocks) with
      | none => { daemon with running := false }
      | some writes =>
          { daemon with
            state := setState ((List.range' 1 (bays blocks)).map toString)
            writes := daemon.writes ++ writes } := by
  have hpresent : presentLoop outer daemon.state
      (if scanDisks blocks = [] then [""] else scanDisks blocks) ⟨1, [], false, []⟩ =
        Pass.presentAll outer daemon.state ⟨1, [], false, []⟩ (bays blocks) := by
    by_cases hnone : scanDisks blocks = []
    · have hbays : bays blocks = 0 := by
        rw [bays, ← scanDisks_length, hnone]
        rfl
      rw [if_pos hnone, hbays, Pass.presentAll_zero]
      rfl
    · rw [if_neg hnone, presentLoop_eq outer _ (not_mem_scanDisks blocks) (by decide),
        scanDisks_length, bays, Nat.min_comm 6]
      rfl
  rw [Daemon.round, hpresent, passes_eq]
  cases applyAll outer (calls daemon.state blocks) with
  | none => rfl
  | some writes => rfl

/-! ### Rounds -/

/-- The state file says that the first `count` bays have a disk. -/
def Knows (state : StateFile) (count : Nat) : Prop :=
  ∀ i, 1 ≤ i → i ≤ 6 → (inState state i = true ↔ i ≤ count)

theorem toString_bay : ∀ i < 7, ∀ j < 7, toString i = toString j → i = j := by decide

theorem knows_setState {count : Nat} (hcount : count ≤ 6) :
    Knows (setState ((List.range' 1 count).map toString)) count := by
  intro i hlow hhigh
  rw [inState, setState]
  have hwords : toString i ∈ (List.range' 1 count).map toString ↔ i ≤ count := by
    rw [List.mem_map]
    constructor
    · intro hgiven
      obtain ⟨j, hj, hsame⟩ := hgiven
      have hrange := List.mem_range'_1.mp hj
      have heq := toString_bay j (by omega) i (by omega) hsame
      omega
    · intro hle
      exact ⟨i, List.mem_range'_1.mpr ⟨hlow, by omega⟩, rfl⟩
  rw [← hwords]
  by_cases hnone : (List.range' 1 count).map toString = []
  · rw [if_pos hnone, hnone]
    simp
  · rw [if_neg hnone]
    simp

theorem knows_congr {first second : StateFile} {count : Nat}
    (hsame : ∀ i, 1 ≤ i → i ≤ 6 → inState first i = inState second i) :
    Knows first count ↔ Knows second count := by
  constructor
  · intro hknows i hlow hhigh
    rw [← hsame i hlow hhigh]
    exact hknows i hlow hhigh
  · intro hknows i hlow hhigh
    rw [hsame i hlow hhigh]
    exact hknows i hlow hhigh

theorem inState_eq_of_knows {first second : StateFile} {count : Nat} (hfirst : Knows first count)
    (hsecond : Knows second count) {i : Nat} (hlow : 1 ≤ i) (hhigh : i ≤ 6) :
    inState first i = inState second i :=
  Bool.eq_iff_iff.mpr ((hfirst i hlow hhigh).trans (hsecond i hlow hhigh).symm)

theorem filled_eq_nil_iff {state : StateFile} {blocks : List String} :
    filled state blocks = [] ↔ ∀ i, 1 ≤ i → i ≤ bays blocks → inState state i = true := by
  rw [filled, List.filter_eq_nil_iff]
  constructor
  · intro hnone i hlow hle
    simpa using hnone i (List.mem_range'_1.mpr ⟨hlow, by omega⟩)
  · intro hall i hmem
    have hrange := List.mem_range'_1.mp hmem
    simpa using hall i hrange.1 (by omega)

/-- A round makes no call exactly where the state file has it right. -/
theorem calls_eq_nil_iff {state : StateFile} {blocks : List String} :
    calls state blocks = [] ↔ Knows state (bays blocks) := by
  have hbays : bays blocks ≤ 6 := Nat.min_le_left _ _
  rw [calls, List.append_eq_nil_iff, List.map_eq_nil_iff, List.map_eq_nil_iff]
  constructor
  · intro hnone i hlow hhigh
    obtain ⟨hfilled, hdark⟩ := hnone
    constructor
    · intro hstate
      by_contra hbehind
      have hmem : i ∈ List.range' (1 + bays blocks) (6 - bays blocks) :=
        List.mem_range'_1.mpr ⟨by omega, by omega⟩
      rw [darkened, List.filter_eq_nil_iff] at hdark
      exact hdark i hmem (by rw [hstate]; rfl)
    · intro hle
      exact filled_eq_nil_iff.mp hfilled i hlow hle
  · intro hknows
    have hfilled : filled state blocks = [] := by
      refine filled_eq_nil_iff.mpr fun i hlow hle => ?_
      exact (hknows i hlow (by omega)).mpr hle
    refine ⟨hfilled, ?_⟩
    rw [darkened, hfilled, List.filter_eq_nil_iff]
    intro i hmem hdark
    have hrange := List.mem_range'_1.mp hmem
    have hstate : inState state i = true := by simpa using hdark
    have hle := (hknows i (by omega) (by omega)).mp hstate
    omega

theorem round_none_of_knows {daemon : Daemon} {blocks : List String}
    (hknows : Knows daemon.state (bays blocks)) : daemon.round none blocks =
      { daemon with state := setState ((List.range' 1 (bays blocks)).map toString) } := by
  rw [round_eq, calls_eq_nil_iff.mpr hknows]
  show Daemon.mk _ _ (daemon.writes ++ []) = _
  rw [List.append_nil]

theorem round_none_of_not_knows {daemon : Daemon} {blocks : List String}
    (hknows : ¬ Knows daemon.state (bays blocks)) :
    daemon.round none blocks = { daemon with running := false } := by
  rw [round_eq, applyAll_none fun hnone => hknows (calls_eq_nil_iff.mp hnone)]

theorem round_some (text : String) (daemon : Daemon) (blocks : List String) :
    daemon.round (some text) blocks =
      { daemon with
        state := setState ((List.range' 1 (bays blocks)).map toString)
        writes := daemon.writes ++
          (calls daemon.state blocks).flatMap (settingLines ("disk" ++ text)) } := by
  rw [round_eq, applyAll_some]

/-- A round of a daemon that is still running. -/
def roundStep (outer : Option String) (before : Daemon) (blocks : List String) (after : Daemon) :
    Prop :=
  before.running = true ∧ after = before.round outer blocks

section Unset

variable {file : StateFile} {history : List (List String)} {daemon : Daemon}

/-- Without the variable, the daemon is through with its work before it has written a line. -/
structure Idle (file : StateFile) (history : List (List String)) (daemon : Daemon) : Prop where
  writes : daemon.writes = []
  state : ∀ i, 1 ≤ i → i ≤ 6 → inState daemon.state i = inState file i
  running : daemon.running = true ↔ ∀ blocks ∈ history, Knows file (bays blocks)

theorem Idle.round (hidle : Idle file history daemon) (hrunning : daemon.running = true)
    (blocks : List String) :
    Idle file (history ++ [blocks]) (daemon.round none blocks) := by
  have hpast := hidle.running.mp hrunning
  have hfile : Knows daemon.state (bays blocks) ↔ Knows file (bays blocks) :=
    knows_congr hidle.state
  by_cases hknows : Knows daemon.state (bays blocks)
  · rw [round_none_of_knows hknows]
    refine ⟨hidle.writes, ?_, ?_⟩
    · intro i hlow hhigh
      have hkept := inState_eq_of_knows (knows_setState (Nat.min_le_left 6 _)) hknows hlow hhigh
      exact hkept.trans (hidle.state i hlow hhigh)
    · refine iff_of_true hrunning (List.forall_mem_append.mpr ⟨hpast, ?_⟩)
      exact List.forall_mem_singleton.mpr (hfile.mp hknows)
  · rw [round_none_of_not_knows hknows]
    refine ⟨hidle.writes, hidle.state, iff_of_false Bool.false_ne_true ?_⟩
    intro hall
    exact hknows (hfile.mpr (hall blocks (List.mem_append_right _ List.mem_cons_self)))

theorem idle_of_run (hrun : Run (roundStep none) (.start file) history daemon) :
    Idle file history daemon := by
  induction history using List.reverseRecOn generalizing daemon with
  | nil =>
      obtain rfl := Run.nil_iff.mp hrun
      exact ⟨rfl, fun _ _ _ => rfl, iff_of_true rfl fun _ hmem => absurd hmem List.not_mem_nil⟩
  | append_singleton past blocks ih =>
      obtain ⟨middle, hpast, hrunning, rfl⟩ := Run.snoc_iff.mp hrun
      exact (ih hpast).round hrunning blocks

end Unset

theorem settingLines_led {d : String} {present : Bool} {write : Write}
    (hmem : write ∈ settingLines d present) : write.led = d := by
  cases present with
  | true =>
      obtain ⟨setting, -, rfl⟩ := List.mem_map.mp hmem
      rfl
  | false =>
      obtain ⟨setting, -, rfl⟩ := List.mem_map.mp hmem
      rfl

theorem settingLines_ne_nil (d : String) (present : Bool) : settingLines d present ≠ [] := by
  cases present with
  | true => exact List.cons_ne_nil _ _
  | false => exact List.cons_ne_nil _ _

theorem knows_unique {state : StateFile} {count other : Nat} (hcount : count ≤ 6)
    (hother : other ≤ 6) (hknows : Knows state count) (hknown : Knows state other) :
    other = count := by
  obtain hlt | heq | hgt := Nat.lt_trichotomy other count
  · have hstate := (hknows count (by omega) hcount).mpr (Nat.le_refl _)
    exact absurd ((hknown count (by omega) hcount).mp hstate) (Nat.not_le.mpr hlt)
  · exact heq
  · have hstate := (hknown other (by omega) hother).mpr (Nat.le_refl _)
    exact absurd ((hknows other (by omega) hother).mp hstate) (Nat.not_le.mpr hgt)

section Set

variable {text : String} {file : StateFile} {history : List (List String)} {daemon : Daemon}

/-- With the variable set, every bay is shown by one LED. -/
structure OneLed (text : String) (daemon : Daemon) : Prop where
  running : daemon.running = true
  writes : ∀ write ∈ daemon.writes, write.led = "disk" ++ text

theorem OneLed.round (hone : OneLed text daemon) (blocks : List String) :
    OneLed text (daemon.round (some text) blocks) := by
  rw [round_some]
  refine ⟨hone.running, List.forall_mem_append.mpr ⟨hone.writes, ?_⟩⟩
  intro write hmem
  obtain ⟨present, -, hwrite⟩ := List.mem_flatMap.mp hmem
  exact settingLines_led hwrite

theorem oneLed_of_run (hrun : Run (roundStep (some text)) (.start file) history daemon) :
    OneLed text daemon := by
  have hstep : ∀ before blocks after, OneLed text before →
      roundStep (some text) before blocks after → OneLed text after := by
    intro before blocks after hbefore hround
    obtain ⟨-, rfl⟩ := hround
    exact hbefore.round blocks
  exact hrun.invariant hstep ⟨rfl, fun _ hmem => absurd hmem List.not_mem_nil⟩

theorem knows_of_run {past : List (List String)} {blocks : List String}
    (hrun : Run (roundStep (some text)) (.start file) (past ++ [blocks]) daemon) :
    Knows daemon.state (bays blocks) := by
  obtain ⟨middle, -, -, rfl⟩ := Run.snoc_iff.mp hrun
  rw [round_some]
  exact knows_setState (Nat.min_le_left _ _)

theorem round_quiet_iff {count : Nat} (hcount : count ≤ 6) (hknows : Knows daemon.state count)
    (blocks : List String) :
    (daemon.round (some text) blocks).writes = daemon.writes ↔ bays blocks = count := by
  rw [round_some, List.append_right_eq_self]
  constructor
  · intro hnone
    have hcalls : calls daemon.state blocks = [] := by
      refine List.eq_nil_iff_forall_not_mem.mpr fun present hmem => ?_
      exact settingLines_ne_nil _ present (List.flatMap_eq_nil_iff.mp hnone present hmem)
    exact knows_unique hcount (Nat.min_le_left _ _) hknows (calls_eq_nil_iff.mp hcalls)
  · rintro rfl
    rw [calls_eq_nil_iff.mpr hknows]
    rfl

end Set

/-! ### The colour -/

/-- The line as the attribute gets it. -/
def Write.buf (write : Write) : List UInt8 := CString.ascii write.value ++ [10]

/-- The driver takes none of these lines for a colour, so nothing is sent for it. -/
def NoColor (writes : List Write) : Prop :=
  ∀ write ∈ writes, write.attr = "color" →
    ∀ (index : Nat) (size ret : Int) (status after : LedStatus) (events : List (Event Smbus)),
      (colorSet index write.buf size status).Trace events (ret, after) →
        events = [] ∧ after = status

theorem colorOf_zero : colorOf (CString.ascii "0" ++ [10]) = none := by decide

theorem noColor_settingLines (d : String) (present : Bool) : NoColor (settingLines d present) := by
  intro write hmem hcolor index size ret status after events htrace
  have hzero : write.buf = CString.ascii "0" ++ [10] := by
    cases present with
    | true =>
        obtain rfl | rfl | rfl : write = ⟨d, "trigger", "normal"⟩ ∨
            write = ⟨d, "color", "0"⟩ ∨ write = ⟨d, "brightness", "255"⟩ := by
          simpa [settingLines, led] using hmem
        · exact absurd hcolor (show ¬ ("trigger" : String) = "color" by decide)
        · rfl
        · exact absurd hcolor (show ¬ ("brightness" : String) = "color" by decide)
    | false =>
        obtain rfl | rfl : write = ⟨d, "trigger", "none"⟩ ∨ write = ⟨d, "brightness", "0"⟩ := by
          simpa [settingLines, led] using hmem
        · exact absurd hcolor (show ¬ ("trigger" : String) = "color" by decide)
        · exact absurd hcolor (show ¬ ("brightness" : String) = "color" by decide)
  have hnone := (colorSet_trace htrace).2
  rw [hzero, colorOf_zero] at hnone
  exact hnone

theorem noColor_run {text : String} {file : StateFile} {history : List (List String)}
    {daemon : Daemon} (hrun : Run (roundStep (some text)) (.start file) history daemon) :
    NoColor daemon.writes := by
  let Inv (daemon : Daemon) : Prop := NoColor daemon.writes
  have hstep : ∀ before blocks after, Inv before →
      roundStep (some text) before blocks after → Inv after := by
    intro before blocks after hbefore hround
    obtain ⟨-, rfl⟩ := hround
    show NoColor (before.round (some text) blocks).writes
    rw [round_some]
    intro write hmem
    obtain hmem | hmem := List.mem_append.mp hmem
    · exact hbefore write hmem
    · obtain ⟨present, -, hwrite⟩ := List.mem_flatMap.mp hmem
      exact noColor_settingLines _ present write hwrite
  have hlast : Inv daemon := hrun.invariant hstep fun _ hmem => absurd hmem List.not_mem_nil
  exact hlast

/-! ### The daemon -/

/-- Without a variable `n` in its environment the daemon never writes a line and leaves the list of its bays as it was, and it is running exactly if each round has found as many disks as the state file it began with says. With one it never ends: every line goes to the LED with that number, the state file is right after each round, the next round writes nothing exactly if it finds as many disks, and of a colour the controller is never told. -/
theorem daemon_lives_iff {outer : Option String} {file : StateFile} {history : List (List String)}
    {daemon : Daemon} (hrun : Run (roundStep outer) (.start file) history daemon) :
    (outer = none →
      daemon.writes = [] ∧
      (∀ i, 1 ≤ i → i ≤ 6 → inState daemon.state i = inState file i) ∧
      (daemon.running = true ↔ ∀ blocks ∈ history, Knows file (bays blocks))) ∧
    (∀ text, outer = some text →
      daemon.running = true ∧
      (∀ write ∈ daemon.writes, write.led = "disk" ++ text) ∧
      (∀ past blocks, history = past ++ [blocks] → Knows daemon.state (bays blocks) ∧
        ∀ next, (daemon.round outer next).writes = daemon.writes ↔ bays next = bays blocks) ∧
      NoColor daemon.writes) := by
  constructor
  · rintro rfl
    have hidle := idle_of_run hrun
    exact ⟨hidle.writes, hidle.state, hidle.running⟩
  · rintro text rfl
    have hone := oneLed_of_run hrun
    refine ⟨hone.running, hone.writes, ?_, noColor_run hrun⟩
    rintro past blocks rfl
    have hknows := knows_of_run hrun
    exact ⟨hknows, round_quiet_iff (Nat.min_le_left _ _) hknows⟩

/-- No state file, and a disk in the second round: the script ends there. -/
theorem daemon_ends_at_first_disk : ∃ daemon,
    Run (roundStep none) (.start none) ([[]] ++ [["loop0", "sda"]]) daemon ∧
      daemon.running = false ∧ daemon.writes = [] := by
  have hempty : Knows none (bays []) := by
    intro i hlow _
    exact iff_of_false Bool.false_ne_true (by show ¬ i ≤ 0; omega)
  have hfirst : (Daemon.start none).round none [] = ⟨true, some [""], []⟩ :=
    round_none_of_knows hempty
  have hrun : Run (roundStep none) (.start none) ([[]] ++ [["loop0", "sda"]]) _ :=
    .cons ⟨rfl, hfirst.symm⟩ (.single ⟨rfl, rfl⟩)
  have hlives := (daemon_lives_iff hrun).1 rfl
  have hbays : bays ["loop0", "sda"] = 1 := by decide
  refine ⟨_, hrun, ?_, hlives.1⟩
  rw [← Bool.not_eq_true, hlives.2.2]
  intro hall
  have hknows := hall ["loop0", "sda"] (by simp)
  rw [hbays] at hknows
  exact Bool.false_ne_true ((hknows 1 (by decide) (by decide)).mpr (by decide))

end FrontPanel.Led.HddLeds
