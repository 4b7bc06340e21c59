import FrontPanel.Sio.ButtonPress
import FrontPanel.Sio.SataState
import Mathlib.Data.Fin.VecNotation

/-!
# The buttons of a board

`my_dmi_callback` and `hwinit` of `ug_gpio_btn.c`, and what `btn_monitor` reports from there on. The product decides at which registers the two buttons are and how they are read; each register is mapped or not; and the poll sees nothing of a board but the level of each line, sample after sample.

What a key has reported is then told by the holds of its line alone, one after another: nothing for a short one, a press for a longer one, a press and a release from some length on. A product that no branch of `my_dmi_callback` knows leaves `btnSatate` as the compiler made it, all zeros, so that both buttons are read from the physical address 0; these report for no key at all.
-/

namespace FrontPanel.Sio.ButtonBoards

open SataState (isPrefix)

/-! ### The boards -/

/-- An entry of `btnSatate` as it is set up, before its register is mapped. -/
structure BtnEntry where
  code : Nat
  phyaddr : UInt32
  shift : Nat
  active : Nat
  prestate : Nat

/-- The entry `reboot`, whose level before the first sample is taken to be the inactive one. -/
def reboot (phyaddr : UInt32) (shift active prestate : Nat) : BtnEntry where
  code := keyF20
  phyaddr := phyaddr
  shift := shift
  active := active
  prestate := prestate

/-- The entry `reset`, active low on every board. -/
def reset (phyaddr : UInt32) (shift : Nat) : BtnEntry where
  code := keyF24
  phyaddr := phyaddr
  shift := shift
  active := 0
  prestate := 1

/-- The entries of a product, if there is a branch for it. -/
def entriesOf (product : String) : Option (Fin 2 → BtnEntry) :=
  if product = "DXP4800" ∨ product = "DXP2800" ∨ product = "DXP2800S" ∨ product = "DXP4800S" then
    some ![reboot 0xfd6a0980 1 1 0, reset 0xfd6d0b50 1]
  else if isPrefix product "DXP4800 Plus" ∨ isPrefix product "DXP4800 Pro" then
    some ![reboot 0xfd6a0980 1 1 0, reset 0xfd6d0a10 1]
  else if isPrefix product "DXP6800" ∨ isPrefix product "DXP8800" ∨ isPrefix product "FORT 6" then
    some ![reboot 0xfd6a0b40 1 1 0, reset 0xfd6d0a10 1]
  else if isPrefix product "DXP480T Plus" then
    some ![reboot 0xfd6e0810 1 1 0, reset 0xfd6e0770 1]
  else if isPrefix product "iDX6011" ∨ isPrefix product "iDX6012" then
    some ![reboot 0xe0d20860 1 1 0, reset 0xe0d508a0 1]
  else if isPrefix product "DH2600" then
    some ![reboot 0xfd6d0b20 1 1 0, reset 0xfd6e0800 1]
  else if isPrefix product "DX4600" ∨ isPrefix product "DX4700" then
    some ![reboot 0xfd6d0690 1 1 0, reset 0xfd6d0890 1]
  else if product = "DXP4800 GT" then
    some ![reboot 0xfed81526 0 1 0, reset 0xfed81522 0]
  else if product = "DXP2800 GT" then
    some ![reboot 0xfed81510 16 0 1, reset 0xfed8150c 16]
  else none

/-- `btnSatate` is a static array. -/
def unset : Fin 2 → BtnEntry := fun _ => ⟨0, 0, 0, 0, 0⟩

def myDmiCallback (product : String) : Fin 2 → BtnEntry := (entriesOf product).getD unset

/-! ### Mapping the registers -/

/-- The physical registers. -/
abbrev Registers := UInt32 → BitVec 32

/-- `val &= ~(1 << 23)`, which makes the pin an input. -/
def setInput (regs : Registers) (phyaddr : UInt32) : Registers :=
  Function.update regs phyaddr (regs phyaddr &&& ~~~(1#32 <<< 23))

/-- A button before its first sample. -/
def BtnEntry.info (entry : BtnEntry) (base : Bool) : BtnInfo where
  code := entry.code
  shift := entry.shift
  seen := 0
  base := base
  prestate := entry.prestate
  active := entry.active
  lastReport := 0

/-- The loop of `hwinit` over the buttons that are left; `none` is an access through `NULL`. -/
def hwinit (product : String) (ioremap : UInt32 → Bool) (entries : Fin 2 → BtnEntry) :
    List (Fin 2) → Keys → Registers → Option (Keys × Registers)
  | [], keys, regs => some (keys, regs)
  | i :: rest, keys, regs =>
      let base := ioremap (entries i).phyaddr
      let keys :=
        { keys with
          btnSatate := Function.update keys.btnSatate i { keys.btnSatate i with base } }
      if product = "DXP2800 GT" then
        if base then
          hwinit product ioremap entries rest keys (setInput regs (entries i).phyaddr)
        else none
      else hwinit product ioremap entries rest keys regs

/-- The module loaded on a board, up to the first sample. -/
def load (product : String) (ioremap : UInt32 → Bool) (regs : Registers) :
    Option (Keys × Registers) :=
  hwinit product ioremap (myDmiCallback product) (List.finRange 2)
    { btnSatate := fun i => (myDmiCallback product i).info false
      reports := [] } regs

/-- What the poll reads of the registers. -/
def sampleOf (product : String) (regs : Registers) : Sample :=
  fun i => regs (myDmiCallback product i).phyaddr

/-! ### The values of a key -/

/-- The length of the hold that is open in the end, the first one begun `held` samples ago. -/
def openHold : Nat → List Bool → Nat
  | held, [] => held
  | held, true :: rest => openHold (held + 1) rest
  | _, false :: rest => openHold 0 rest

/-- What a hold makes a key report by the time it is over. -/
def pulse (press release length : Nat) : List Nat :=
  if release ≤ length then [1, 0] else if press ≤ length then [1] else []

/-- The values of a key whose line had these levels: those of each hold that is over, and the press of the one that is not. -/
def keyValues (press release : Nat) (levels : List Bool) : List Nat :=
  (completedHolds 0 levels).flatMap (pulse press release) ++
    if press ≤ openHold 0 levels then [1] else []

/-- What one sample reports, after a hold of `held`. -/
def signal (press release held : Nat) (level : Bool) : List Nat :=
  if level then (if held + 1 = press then [1] else []) else (if release ≤ held then [0] else [])

def heldNext (held : Nat) (level : Bool) : Nat := if level then held + 1 else 0

def signals (press release : Nat) : Nat → List Bool → List Nat
  | _, [] => []
  | held, level :: rest =>
      signal press release held level ++ signals press release (heldNext held level) rest

theorem signals_eq {press release : Nat} (hpress : 1 ≤ press) (hrelease : press ≤ release)
    (held : Nat) (levels : List Bool) :
    (if press ≤ held then [1] else []) ++ signals press release held levels =
      (completedHolds held levels).flatMap (pulse press release) ++
        if press ≤ openHold held levels then [1] else [] := by
  induction levels generalizing held with
  | nil => exact List.append_nil _
  | cons level rest ih =>
      rw [signals, ← List.append_assoc]
      cases level with
      | true =>
          have hopen : (if press ≤ held then [1] else []) ++ signal press release held true =
              if press ≤ held + 1 then [1] else [] := by
            rw [signal, if_pos rfl]
            split_ifs <;> first | rfl | omega
          rw [hopen]
          exact ih (held + 1)
      | false =>
          have hover : (if press ≤ held then [1] else []) ++ signal press release held false =
              pulse press release held := by
            rw [signal, if_neg Bool.false_ne_true, pulse]
            split_ifs <;> first | rfl | omega
          have hfresh := ih 0
          rw [if_neg (by omega), List.nil_append] at hfresh
          rw [hover, completedHolds, List.flatMap_cons, List.append_assoc]
          exact congrArg _ hfresh

theorem signals_zero {press release : Nat} (hpress : 1 ≤ press) (hrelease : press ≤ release)
    (levels : List Bool) : signals press release 0 levels = keyValues press release levels := by
  have hsignals := signals_eq hpress hrelease 0 levels
  rwa [if_neg (by omega), List.nil_append] at hsignals

/-! ### One button -/

/-- What has been reported for a key, in order. -/
def valuesOf (code : Nat) (reports : List KeyReport) : List Nat :=
  (reports.filter (·.1 = code)).map Prod.snd

@[simp] theorem valuesOf_append (code : Nat) (reports more : List KeyReport) :
    valuesOf code (reports ++ more) = valuesOf code reports ++ valuesOf code more := by
  rw [valuesOf, List.filter_append, List.map_append]
  rfl

theorem valuesOf_map (code : Nat) (values : List Nat) :
    valuesOf code (values.map fun value => (code, value)) = values := by
  induction values with
  | nil => rfl
  | cons value rest ih => simpa [valuesOf] using ih

/-- The button has been held for `held` samples. -/
structure Counts (btn : BtnInfo) (held : Nat) : Prop where
  seen : btn.seen = min held 1200
  prestate : 0 < held → btn.prestate = btn.active

theorem btnFree_reported (btn : BtnInfo) (val : Nat) :
    (btnFree btn val).2 =
      if releaseAt btn.code ≤ btn.seen ∧ (btn.code = keyF24 ∨ val ≠ btn.prestate) then
        [(btn.code, 0)]
      else [] := by
  by_cases hcode : btn.code = keyF24
  · by_cases hrelease : 260 < btn.seen <;>
      simp [btnFree, releaseAt, hcode, hrelease, Nat.succ_le_iff]
  · by_cases hrelease : 100 ≤ btn.seen ∧ val ≠ btn.prestate <;>
      simp [btnFree, releaseAt, hcode, Ne.symm hcode, hrelease]

theorem releaseAt_bounds (product : String) (code : Nat) :
    pressAt product code ≤ releaseAt code ∧ releaseAt code ≤ 261 := by
  rw [pressAt, releaseAt]
  split_ifs <;> omega

theorem btnPass_of_held {product : String} {btn : BtnInfo} {reg : BitVec 32}
    (hbase : btn.base = true) (hlevel : btnLevel btn reg = btn.active) :
    btnPass product btn reg =
      ({ (btnHeld product btn).1 with prestate := btn.active }, (btnHeld product btn).2) := by
  rw [btnPass, if_pos hbase, hlevel]
  dsimp only
  rw [if_pos rfl]

theorem btnPass_of_free {product : String} {btn : BtnInfo} {reg : BitVec 32}
    (hbase : btn.base = true) (hlevel : btnLevel btn reg ≠ btn.active) :
    btnPass product btn reg =
      ({ (btnFree btn (btnLevel btn reg)).1 with prestate := btnLevel btn reg },
        (btnFree btn (btnLevel btn reg)).2) := by
  rw [btnPass, if_pos hbase]
  dsimp only
  rw [if_neg hlevel]

/-- A sample of a mapped button reports what its hold asks for. -/
theorem btnPass_signal {product : String} {btn : BtnInfo} {held : Nat}
    (hcode : btn.code = keyF20 ∨ btn.code = keyF24) (hbase : btn.base = true)
    (hcounts : Counts btn held) (reg : BitVec 32) :
    (btnPass product btn reg).2 =
      (signal (pressAt product btn.code) (releaseAt btn.code) held (isHeld btn reg)).map
        fun value => (btn.code, value) := by
  obtain ⟨hseen, hprestate⟩ := hcounts
  have hpress := pressAt_bounds product btn.code
  have hrelease := releaseAt_bounds product btn.code
  by_cases hlevel : btnLevel btn reg = btn.active
  · have hheld : isHeld btn reg = true := decide_eq_true hlevel
    rw [btnPass_of_held hbase hlevel, btnHeld_eq product hcode, hheld, signal, if_pos rfl]
    dsimp only
    split_ifs <;> first | rfl | omega
  · have hfree : isHeld btn reg = false := decide_eq_false hlevel
    rw [btnPass_of_free hbase hlevel, btnFree_reported, hfree, signal,
      if_neg Bool.false_ne_true]
    by_cases hover : releaseAt btn.code ≤ held
    · have hturned : btnLevel btn reg ≠ btn.prestate := by
        rw [hprestate (by omega)]
        exact hlevel
      rw [if_pos ⟨by omega, .inr hturned⟩, if_pos hover]
      rfl
    · rw [if_neg fun hgiven => hover (by omega), if_neg hover]
      rfl

theorem btnPass_counts {product : String} {btn : BtnInfo} {held : Nat}
    (hcode : btn.code = keyF20 ∨ btn.code = keyF24) (hbase : btn.base = true)
    (hcounts : Counts btn held) (reg : BitVec 32) :
    Counts (btnPass product btn reg).1 (heldNext held (isHeld btn reg)) := by
  obtain ⟨hseen, hprestate⟩ := hcounts
  by_cases hlevel : btnLevel btn reg = btn.active
  · have hheld : isHeld btn reg = true := decide_eq_true hlevel
    rw [btnPass_of_held hbase hlevel, hheld, btnHeld_eq product hcode]
    refine ⟨?_, fun _ => rfl⟩
    rw [heldNext, if_pos rfl]
    dsimp only
    split <;> omega
  · have hfree : isHeld btn reg = false := decide_eq_false hlevel
    rw [btnPass_of_free hbase hlevel, hfree, btnFree_eq]
    exact ⟨rfl, fun hpos => absurd hpos (Nat.lt_irrefl 0)⟩

theorem btnPass_code {product : String} {btn : BtnInfo} {reg : BitVec 32} {report : KeyReport}
    (hreport : report ∈ (btnPass product btn reg).2) : report.1 = btn.code := by
  obtain ⟨hnone, -⟩ | hone := (btnPass_accounts product btn reg).reports
  · rw [hnone] at hreport
    cases hreport
  · rw [hone, List.mem_singleton] at hreport
    rw [hreport]

theorem btnPass_valuesOf_other {product : String} {btn : BtnInfo} {reg : BitVec 32} {code : Nat}
    (hother : btn.code ≠ code) : valuesOf code (btnPass product btn reg).2 = [] := by
  have hnone : (btnPass product btn reg).2.filter (·.1 = code) = [] := by
    refine List.filter_eq_nil_iff.mpr fun report hreport hsame => hother ?_
    exact (btnPass_code hreport).symm.trans (of_decide_eq_true hsame)
  rw [valuesOf, hnone]
  rfl

/-! ### Both buttons -/

theorem btnMonitor_reports (product : String) (keys : Keys) (sample : Sample) :
    (btnMonitor product keys sample).reports = keys.reports ++
      (btnPass product (keys.btnSatate 0) (sample 0)).2 ++
      (btnPass product (keys.btnSatate 1) (sample 1)).2 := rfl

theorem btnMonitor_valuesOf {product : String} {keys : Keys} (hconfigured : keys.Configured)
    (i : Fin 2) (sample : Sample) :
    valuesOf (keys.btnSatate i).code (btnMonitor product keys sample).reports =
      valuesOf (keys.btnSatate i).code keys.reports ++
        valuesOf (keys.btnSatate i).code (btnPass product (keys.btnSatate i) (sample i)).2 := by
  rw [btnMonitor_reports, valuesOf_append, valuesOf_append]
  match i with
  | 0 => rw [btnPass_valuesOf_other (hconfigured.distinct 1 0 (by decide)), List.append_nil]
  | 1 => rw [btnPass_valuesOf_other (hconfigured.distinct 0 1 (by decide)), List.append_nil]

theorem btnMonitor_configured {keys : Keys} (hconfigured : keys.Configured) (product : String)
    (sample : Sample) : (btnMonitor product keys sample).Configured :=
  btnMonitorAll_configured hconfigured product [sample]

theorem btnMonitor_same (product : String) (keys : Keys) (i : Fin 2) (sample : Sample) :
    SameButton (keys.btnSatate i) ((btnMonitor product keys sample).btnSatate i) :=
  btnMonitorAll_same product keys i [sample]

/-- A button that is mapped reports the signals of its levels. -/
theorem valuesOf_signals {product : String} {keys : Keys} (hconfigured : keys.Configured)
    (i : Fin 2) (hbase : (keys.btnSatate i).base = true) {held : Nat}
    (hcounts : Counts (keys.btnSatate i) held) (samples : List Sample) :
    valuesOf (keys.btnSatate i).code (btnMonitorAll product keys samples).reports =
      valuesOf (keys.btnSatate i).code keys.reports ++
        signals (pressAt product (keys.btnSatate i).code) (releaseAt (keys.btnSatate i).code) held
          (samples.map fun sample => isHeld (keys.btnSatate i) (sample i)) := by
  induction samples generalizing keys held with
  | nil => exact (List.append_nil _).symm
  | cons sample rest ih =>
      have hsame := btnMonitor_same product keys i sample
      have hnext := @btnPass_counts product _ _ (hconfigured.code i) hbase hcounts (sample i)
      rw [← btnMonitor_button] at hnext
      have hrest := ih (btnMonitor_configured hconfigured product sample)
        (hsame.base.trans hbase) hnext
      simp only [hsame.code, hsame.isHeld] at hrest
      rw [List.map_cons, signals, ← List.append_assoc]
      refine hrest.trans (congrArg (· ++ _) ?_)
      rw [btnMonitor_valuesOf hconfigured, btnPass_signal (hconfigured.code i) hbase hcounts,
        valuesOf_map]

theorem valuesOf_unmapped {product : String} {keys : Keys} (hconfigured : keys.Configured)
    (i : Fin 2) (hbase : (keys.btnSatate i).base = false) (samples : List Sample) :
    valuesOf (keys.btnSatate i).code (btnMonitorAll product keys samples).reports =
      valuesOf (keys.btnSatate i).code keys.reports := by
  induction samples generalizing keys with
  | nil => rfl
  | cons sample rest ih =>
      have hsame := btnMonitor_same product keys i sample
      have hrest := ih (btnMonitor_configured hconfigured product sample)
        (hsame.base.trans hbase)
      have hpass : (btnPass product (keys.btnSatate i) (sample i)).2 = [] := by
        simp [btnPass, hbase]
      rw [hsame.code, btnMonitor_valuesOf hconfigured, hpass] at hrest
      exact hrest.trans (List.append_nil _)

theorem report_of_pass {product : String} {keys : Keys} {samples : List Sample}
    {Allowed : KeyReport → Prop} (hreports : keys.reports = [])
    (hpass : ∀ i btn reg, SameButton (keys.btnSatate i) btn →
      ∀ report ∈ (btnPass product btn reg).2, Allowed report) :
    ∀ report ∈ (btnMonitorAll product keys samples).reports, Allowed report := by
  induction samples using List.reverseRecOn with
  | nil =>
      intro report hreport
      have hnone : report ∈ keys.reports := hreport
      rw [hreports] at hnone
      cases hnone
  | append_singleton samples sample ih =>
      intro report hreport
      rw [btnMonitorAll_snoc, btnMonitor_reports, List.mem_append, List.mem_append] at hreport
      obtain (hreport | hreport) | hreport := hreport
      · exact ih report hreport
      · exact hpass 0 _ _ (btnMonitorAll_same product keys 0 samples) report hreport
      · exact hpass 1 _ _ (btnMonitorAll_same product keys 1 samples) report hreport

theorem btnPass_unset {product : String} {btn : BtnInfo} {reg : BitVec 32} {report : KeyReport}
    (hcode : btn.code = 0) (hreport : report ∈ (btnPass product btn reg).2) :
    report = (0, 0) := by
  have hheld : (btnHeld product btn).2 = [] := by
    rw [btnHeld]
    simp only [hcode, keyF20, keyF24]
    split <;> rfl
  have hfree : ∀ val, ∀ report ∈ (btnFree btn val).2, report = (0, 0) := by
    intro val report hreport
    rw [btnFree_reported] at hreport
    split_ifs at hreport
    · rw [List.mem_singleton.mp hreport, hcode]
    · cases hreport
  rw [btnPass] at hreport
  split_ifs at hreport
  · dsimp only at hreport
    split_ifs at hreport
    · rw [hheld] at hreport
      cases hreport
    · exact hfree _ report hreport
  · cases hreport

/-! ### From the load on -/

theorem setInput_bit (regs : Registers) (phyaddr addr : UInt32) {bit : Nat} (hbit : bit ≠ 23) :
    (setInput regs phyaddr addr).getLsbD bit = (regs addr).getLsbD bit := by
  rw [setInput]
  by_cases hat : addr = phyaddr
  · subst hat
    rw [Function.update_self, BitVec.getLsbD_and, BitVec.getLsbD_not, BitVec.getLsbD_shiftLeft,
      BitVec.getLsbD_one]
    by_cases hlt : bit < 32
    · have hother : bit < 23 ∨ ¬ bit - 23 = 0 := by omega
      simpa [hlt] using fun _ => hother
    · rw [BitVec.getLsbD_of_ge _ _ (by omega), Bool.false_and]
  · rw [Function.update_of_ne hat]

section Hwinit

variable {product : String} {ioremap : UInt32 → Bool} {entries : Fin 2 → BtnEntry}

theorem hwinit_keys {buttons : List (Fin 2)} {keys keys' : Keys} {regs regs' : Registers}
    (hinit : hwinit product ioremap entries buttons keys regs = some (keys', regs')) :
    keys'.reports = keys.reports ∧ ∀ i, keys'.btnSatate i = { keys.btnSatate i with
      base := if i ∈ buttons then ioremap (entries i).phyaddr else (keys.btnSatate i).base } := by
  induction buttons generalizing keys regs with
  | nil =>
      obtain ⟨rfl, -⟩ := Prod.mk.inj (Option.some.inj hinit)
      exact ⟨rfl, fun _ => rfl⟩
  | cons j rest ih =>
      have hrest : ∃ before, hwinit product ioremap entries rest
          { keys with
            btnSatate := Function.update keys.btnSatate j
              { keys.btnSatate j with base := ioremap (entries j).phyaddr } } before =
          some (keys', regs') := by
        rw [hwinit] at hinit
        split_ifs at hinit
        · exact ⟨_, hinit⟩
        · exact ⟨_, hinit⟩
      obtain ⟨before, hrest⟩ := hrest
      obtain ⟨hreports, hbuttons⟩ := ih hrest
      refine ⟨hreports, fun i => ?_⟩
      rw [hbuttons]
      by_cases hij : i = j
      · subst hij
        simp
      · simp [hij]

theorem hwinit_eq_none_iff {buttons : List (Fin 2)} {keys : Keys} {regs : Registers} :
    hwinit product ioremap entries buttons keys regs = none ↔ product = "DXP2800 GT" ∧
      ∃ i ∈ buttons, ioremap (entries i).phyaddr = false := by
  induction buttons generalizing keys regs with
  | nil => simp [hwinit]
  | cons j rest ih =>
      rw [hwinit]
      dsimp only
      split_ifs with hproduct hbase
      · rw [ih]
        simp [hbase]
      · simp [hproduct, hbase]
      · rw [ih]
        simp [hproduct]

/-- Making the pins inputs leaves every bit but one of every register. -/
theorem hwinit_bits {buttons : List (Fin 2)} {keys keys' : Keys} {regs regs' : Registers}
    (hinit : hwinit product ioremap entries buttons keys regs = some (keys', regs'))
    (phyaddr : UInt32) {bit : Nat} (hbit : bit ≠ 23) :
    (regs' phyaddr).getLsbD bit = (regs phyaddr).getLsbD bit := by
  induction buttons generalizing keys regs with
  | nil =>
      obtain ⟨-, rfl⟩ := Prod.mk.inj (Option.some.inj hinit)
      rfl
  | cons j rest ih =>
      rw [hwinit] at hinit
      split_ifs at hinit
      · rw [ih hinit, setInput_bit _ _ _ hbit]
      · exact ih hinit

end Hwinit

/-- The buttons a load sets up. -/
structure Loaded (product : String) (ioremap : UInt32 → Bool) (keys : Keys) : Prop where
  button : ∀ i, keys.btnSatate i =
    (myDmiCallback product i).info (ioremap (myDmiCallback product i).phyaddr)
  reports : keys.reports = []

theorem loaded_of_load {product : String} {ioremap : UInt32 → Bool} {regs regs' : Registers}
    {keys : Keys} (hload : load product ioremap regs = some (keys, regs')) :
    Loaded product ioremap keys := by
  obtain ⟨hreports, hbuttons⟩ := hwinit_keys hload
  refine ⟨fun i => ?_, hreports⟩
  rw [hbuttons, if_pos (List.mem_finRange i)]
  rfl

/-- A load ends in an access through `NULL` only on the one board whose pins it sets up, where a register is not mapped. -/
theorem load_eq_none_iff (product : String) (ioremap : UInt32 → Bool) (regs : Registers) :
    load product ioremap regs = none ↔ product = "DXP2800 GT" ∧
      ∃ i, ioremap (myDmiCallback product i).phyaddr = false := by
  rw [load, hwinit_eq_none_iff]
  simp

/-- The entries of a board: one key each, and a level that `hwinit` leaves alone. -/
theorem entriesOf_spec {product : String} {entries : Fin 2 → BtnEntry}
    (hentries : entriesOf product = some entries) :
    (entries 0).code = keyF20 ∧ (entries 1).code = keyF24 ∧ ∀ i, (entries i).shift ≠ 23 := by
  have hpair : ∀ first second : BtnEntry, first.code = keyF20 → second.code = keyF24 →
      first.shift ≠ 23 → second.shift ≠ 23 → some ![first, second] = some entries →
      (entries 0).code = keyF20 ∧ (entries 1).code = keyF24 ∧ ∀ i, (entries i).shift ≠ 23 := by
    rintro first second hfirst hsecond hfirst' hsecond' ⟨⟩
    refine ⟨hfirst, hsecond, fun i => ?_⟩
    match i with
    | 0 => exact hfirst'
    | 1 => exact hsecond'
  rw [entriesOf] at hentries
  split_ifs at hentries <;>
    exact hpair _ _ rfl rfl (by decide) (by decide) hentries

/-- The line of a button is active. -/
def BtnEntry.level (entry : BtnEntry) (regs : Registers) : Bool :=
  ((regs entry.phyaddr).getLsbD entry.shift).toNat = entry.active

theorem isHeld_info (entry : BtnEntry) (base : Bool) (regs : Registers) :
    isHeld (entry.info base) (regs entry.phyaddr) = entry.level regs := by
  have hlevel : btnLevel (entry.info base) (regs entry.phyaddr) =
      ((regs entry.phyaddr).getLsbD entry.shift).toNat := by
    have hshift : (entry.info base).shift = entry.shift := rfl
    rw [btnLevel, BitVec.and_one_eq_setWidth_ofBool_getLsbD, BitVec.getLsbD_ushiftRight, hshift,
      Nat.add_zero]
    cases (regs entry.phyaddr).getLsbD entry.shift
    · rfl
    · rfl
  rw [isHeld, hlevel]
  rfl

theorem level_load {product : String} {ioremap : UInt32 → Bool} {regs regs' : Registers}
    {keys : Keys} {entries : Fin 2 → BtnEntry}
    (hload : load product ioremap regs = some (keys, regs'))
    (hentries : entriesOf product = some entries) (i : Fin 2) :
    (entries i).level regs' = (entries i).level regs := by
  rw [BtnEntry.level, BtnEntry.level, hwinit_bits hload _ ((entriesOf_spec hentries).2.2 i)]

section Board

variable {product : String} {ioremap : UInt32 → Bool} {keys : Keys} {entries : Fin 2 → BtnEntry}

theorem myDmiCallback_of_entries (hentries : entriesOf product = some entries) :
    myDmiCallback product = entries := by
  rw [myDmiCallback, hentries]
  rfl

theorem Loaded.entry (hloaded : Loaded product ioremap keys)
    (hentries : entriesOf product = some entries) (i : Fin 2) :
    keys.btnSatate i = (entries i).info (ioremap (entries i).phyaddr) := by
  rw [hloaded.button, myDmiCallback_of_entries hentries]

theorem Loaded.code (hloaded : Loaded product ioremap keys)
    (hentries : entriesOf product = some entries) (i : Fin 2) :
    (keys.btnSatate i).code = (entries i).code := by
  rw [hloaded.entry hentries]
  rfl

theorem Loaded.configured (hloaded : Loaded product ioremap keys)
    (hentries : entriesOf product = some entries) : keys.Configured := by
  obtain ⟨hpower, hreset, -⟩ := entriesOf_spec hentries
  rw [← hloaded.code hentries] at hpower hreset
  refine ⟨fun i => ?_, fun i j hne => ?_⟩
  · match i with
    | 0 => exact .inl hpower
    | 1 => exact .inr hreset
  · match i, j with
    | 0, 0 => exact absurd rfl hne
    | 0, 1 =>
        rw [hpower, hreset]
        decide
    | 1, 0 =>
        rw [hpower, hreset]
        decide
    | 1, 1 => exact absurd rfl hne

theorem Loaded.levels (hloaded : Loaded product ioremap keys)
    (hentries : entriesOf product = some entries) (i : Fin 2) (history : List Registers) :
    (history.map (sampleOf product)).map (fun sample => isHeld (keys.btnSatate i) (sample i)) =
      history.map (entries i).level := by
  rw [List.map_map]
  refine List.map_congr_left fun regs _ => ?_
  rw [Function.comp_apply, sampleOf, myDmiCallback_of_entries hentries, hloaded.entry hentries]
  exact isHeld_info _ _ _

theorem Loaded.values (hloaded : Loaded product ioremap keys)
    (hentries : entriesOf product = some entries) (i : Fin 2) (history : List Registers) :
    valuesOf (entries i).code
        (btnMonitorAll product keys (history.map (sampleOf product))).reports =
      if ioremap (entries i).phyaddr then
        keyValues (pressAt product (entries i).code) (releaseAt (entries i).code)
          (history.map (entries i).level)
      else [] := by
  have hconfigured := hloaded.configured hentries
  have hnone : valuesOf (keys.btnSatate i).code keys.reports = [] := by
    rw [hloaded.reports]
    rfl
  have hbase : (keys.btnSatate i).base = ioremap (entries i).phyaddr := by
    rw [hloaded.entry hentries]
    rfl
  rw [← hloaded.code hentries, ← hbase]
  split
  · next hmapped =>
    have hcounts : Counts (keys.btnSatate i) 0 := by
      rw [hloaded.entry hentries]
      exact ⟨rfl, fun hpos => absurd hpos (Nat.lt_irrefl 0)⟩
    rw [valuesOf_signals hconfigured i hmapped hcounts, hnone, hloaded.levels hentries,
      signals_zero (pressAt_bounds product _).1 (releaseAt_bounds product _).1]
    rfl
  · next hmapped =>
    rw [valuesOf_unmapped hconfigured i (Bool.eq_false_iff.mpr hmapped), hnone]

end Board

/-- From the load on, the values reported for a key of the board are those of the holds of its line, one after another, or none if its register is not mapped, and there are no others. On a board that is not known, no key is ever pressed. -/
theorem keys_tell_holds {product : String} {ioremap : UInt32 → Bool} {regs regs' : Registers}
    {keys : Keys} (hload : load product ioremap regs = some (keys, regs'))
    (history : List Registers) :
    (∀ entries, entriesOf product = some entries →
      (∀ i, valuesOf (entries i).code
          (btnMonitorAll product keys (history.map (sampleOf product))).reports =
        if ioremap (entries i).phyaddr then
          keyValues (pressAt product (entries i).code) (releaseAt (entries i).code)
            (history.map (entries i).level)
        else []) ∧
      ∀ report ∈ (btnMonitorAll product keys (history.map (sampleOf product))).reports,
        ∃ i, report.1 = (entries i).code) ∧
    (entriesOf product = none →
      ∀ report ∈ (btnMonitorAll product keys (history.map (sampleOf product))).reports,
        report = (0, 0)) := by
  have hloaded := loaded_of_load hload
  refine ⟨fun entries hentries => ?_, fun hunknown => ?_⟩
  · refine ⟨fun i => hloaded.values hentries i history, ?_⟩
    refine report_of_pass hloaded.reports fun i btn reg hsame report hreport => ⟨i, ?_⟩
    exact (btnPass_code hreport).trans (hsame.code.trans (hloaded.code hentries i))
  · have hcode : ∀ i, (keys.btnSatate i).code = 0 := fun i => by
      rw [hloaded.button, myDmiCallback, hunknown]
      rfl
    exact report_of_pass hloaded.reports fun i btn reg hsame report hreport =>
      btnPass_unset (hsame.code.trans (hcode i)) hreport

/-- The power key of a DXP4800 touched for a sample, let go and touched again, from the load on: two presses. -/
theorem keys_tell_holds_dxp4800 : ∃ keys regs',
    load "DXP4800" (fun _ => true) (fun _ => 0) = some (keys, regs') ∧
    valuesOf keyF20 (btnMonitorAll "DXP4800" keys
      ([fun _ => 2, fun _ => 0, fun _ => 2].map (sampleOf "DXP4800"))).reports = [1, 1] := by
  have hsome : load "DXP4800" (fun _ => true) (fun _ => 0) ≠ none := by
    rw [Ne, load_eq_none_iff]
    exact fun hgiven => absurd hgiven.1 (by decide)
  obtain ⟨⟨keys, regs'⟩, hload⟩ := Option.ne_none_iff_exists'.mp hsome
  have hentries : entriesOf "DXP4800" =
      some ![reboot 0xfd6a0980 1 1 0, reset 0xfd6d0b50 1] := if_pos (.inl rfl)
  refine ⟨keys, regs', hload, ?_⟩
  refine (((keys_tell_holds hload [fun _ => 2, fun _ => 0, fun _ => 2]).1 _ hentries).1 0).trans ?_
  decide

end FrontPanel.Sio.ButtonBoards
