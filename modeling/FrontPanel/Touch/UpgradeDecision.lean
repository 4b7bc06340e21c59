import FrontPanel.Touch.Commands
import Mathlib.Data.List.GetD

/-!
# Whether to upgrade the touch controller

`axs_fwupg_need_upgrade` of `axs_upgrade.c`, with `AXS_UPGRADE_CHECK_VERSION` as compiled: the version byte in the image is compared with the version the controller reports, which `axs_core.c` reads twice. Where the version byte is in the image, the image itself says. Reading the image is an access by index, and so is a call of the bus layer; the commands are the stated ones of `Commands`.

`upg`, its `func` and its `fw` are set where this is called, and the re-reads for a message are left out, which read the same two bytes again.
-/

namespace FrontPanel.Touch.Upgrade

open Commands

/-! ### The controller's version -/

/-- `none` for -1, and `some ver` for 0 with `ver` stored. The two locals start out as what the stack holds. -/
def axsReadFwVersion (sfrValue sfrValue2 : UInt8) : Prog BusLayer (Option UInt8) := do
  let (ret, first) ← (Command.axsReadSfrReg 0x89 [sfrValue] 1).stated
  if ret ≠ 0 then return none
  let (ret, second) ← (Command.axsReadSfrReg 0x89 [sfrValue2] 1).stated
  if ret ≠ 0 then return none
  if first.headD 0 ≠ second.headD 0 then return none
  return some (second.headD 0)

/-- `none` for false. -/
def axsFwupgGetVerInTp (sfrValue sfrValue2 : UInt8) : Prog BusLayer (Option UInt8) :=
  axsReadFwVersion sfrValue sfrValue2

/-! ### The decision -/

inductive UpgradeOp
  | fw (index : Nat)
  | bus (op : BusLayerOp)

abbrev UpgradeIo : Interface where
  Op := UpgradeOp
  Answer := fun op =>
    match op with
    | .fw _ => UInt8
    | .bus op => BusLayer.Answer op

/-- `upg->fw[index]` -/
def fw (index : Nat) : Prog UpgradeIo UInt8 := .access UpgradeIo (.fw index)

def axsAppBinVerOffset : Nat := 0x5035

/-- `none` for false. -/
def axsFwupgGetVerInBin (fwLength : Nat) : Prog UpgradeIo (Option UInt8) := do
  let high ← fw 0x0b
  let low ← fw 0x0c
  let verOffset := ((high.toNat <<< 8) ||| low.toNat) + axsAppBinVerOffset
  if fwLength < verOffset then return none
  let ver ← fw verOffset
  return some ver

def axsFwupgNeedUpgrade (fwLength : Nat) (sfrValue sfrValue2 : UInt8) : Prog UpgradeIo Bool := do
  let inBin ← axsFwupgGetVerInBin fwLength
  match inBin with
  | none => return false
  | some fwVerInBin =>
      let inTp ← (axsFwupgGetVerInTp sfrValue sfrValue2).handle fun op => .access UpgradeIo (.bus op)
      match inTp with
      | none => return false
      | some fwVerInTp => return fwVerInTp ≠ fwVerInBin ∧ fwVerInTp ≠ 0

/-! ### What is read -/

/-- The calls of the bus layer among the accesses. -/
def busCalls (events : List (Event UpgradeIo)) : List (Event BusLayer) :=
  events.filterMap fun event =>
    match event with
    | ⟨.fw _, _⟩ => none
    | ⟨.bus op, answer⟩ => some ⟨op, answer⟩

/-- A read inside of the image finds the image; a read outside of it may find anything. -/
def Answers (image : List UInt8) : Event UpgradeIo → Prop
  | ⟨.fw index, byte⟩ => ∀ h : index < image.length, byte = image[index]
  | ⟨.bus _, _⟩ => True

def InImage (image : List UInt8) : Event UpgradeIo → Prop
  | ⟨.fw index, _⟩ => index < image.length
  | ⟨.bus _, _⟩ => True

/-- Where the image says its version is. -/
def verOffset (image : List UInt8) : Nat :=
  (image.getD 0x0b 0).toNat * 256 + (image.getD 0x0c 0).toNat + 0x5035

/-- A read of the version register that the bus layer did not fail. -/
def RegisterRead (ver : UInt8) : Event BusLayer → Prop
  | ⟨.axsWriteBytes _, _⟩ => False
  | ⟨.axsWriteBytesReadBytes cmd _ datalen, (ret, data)⟩ =>
      cmd = readSfrFrame 0x89 1 ∧ datalen = 1 ∧ 0 ≤ ret ∧ data.headD 0 = ver

/-- Two reads, neither failed, that agree on the version. -/
def VersionRead (calls : List (Event BusLayer)) (ver : UInt8) : Prop :=
  ∃ first second, calls = [first, second] ∧ RegisterRead ver first ∧ RegisterRead ver second

section Version

variable {calls : List (Event BusLayer)} {data data' : List UInt8} {ret : Int} {sfrReg : UInt8}

theorem axsReadSfrReg_trace {stale : UInt8}
    (htrace : (Command.axsReadSfrReg 0x89 [stale] 1).stated.Trace calls (ret, data)) :
    ∃ call, calls = [call] ∧ ∀ ver, RegisterRead ver call ↔ ret = 0 ∧ data.headD 0 = ver := by
  rw [Command.stated, if_pos Nat.one_pos, statedRead] at htrace
  obtain ⟨⟨answer, received⟩, rest, rfl, htrace⟩ := htrace
  have htrace : (if answer < 0 then .ret (answer, received) else .ret (0, received) :
      Prog BusLayer (Int × List UInt8)).Trace rest (ret, data) := htrace
  refine ⟨⟨.axsWriteBytesReadBytes (readSfrFrame 0x89 1) [stale] 1, (answer, received)⟩, ?_⟩
  have hcall : ∀ ver, RegisterRead ver ⟨.axsWriteBytesReadBytes (readSfrFrame 0x89 1) [stale] 1,
      (answer, received)⟩ ↔ 0 ≤ answer ∧ received.headD 0 = ver := by
    intro ver
    simp [RegisterRead]
  split at htrace
  · rename_i hfailed
    obtain ⟨rfl, rfl, rfl⟩ := Prog.trace_pair.mp htrace
    refine ⟨rfl, fun ver => (hcall ver).trans ?_⟩
    exact iff_of_false (fun hread => by omega) (fun hread => by omega)
  · rename_i hdone
    obtain ⟨rfl, rfl, rfl⟩ := Prog.trace_pair.mp htrace
    refine ⟨rfl, fun ver => (hcall ver).trans ?_⟩
    exact and_congr_left fun _ => iff_of_true (not_lt.mp hdone) rfl

theorem only_statedRead {allowed : BusLayerOp → Prop} {frame : List UInt8} {rdLen : Nat}
    (hread : allowed (.axsWriteBytesReadBytes frame data rdLen)) :
    (statedRead frame data rdLen).Only allowed :=
  Prog.only_call hread fun _ => Prog.only_ite (Prog.only_ret _) (Prog.only_ret _)

theorem only_axsReadFwVersion (sfrValue sfrValue2 : UInt8) :
    (axsReadFwVersion sfrValue sfrValue2).Only fun op : BusLayerOp =>
      ∃ stale, op = .axsWriteBytesReadBytes (readSfrFrame 0x89 1) [stale] 1 := by
  rw [axsReadFwVersion]
  refine Prog.Only.bind (only_statedRead ⟨sfrValue, rfl⟩) fun first =>
    Prog.only_ite (Prog.only_ret _) ?_
  refine Prog.Only.bind (only_statedRead ⟨sfrValue2, rfl⟩) fun second =>
    Prog.only_ite (Prog.only_ret _) ?_
  exact Prog.only_ite (Prog.only_ret _) (Prog.only_ret _)

/-- The version is reported exactly where both reads were made, did not fail and agree. -/
theorem axsReadFwVersion_trace {sfrValue sfrValue2 ver : UInt8} {result : Option UInt8}
    (htrace : (axsReadFwVersion sfrValue sfrValue2).Trace calls result) :
    result = some ver ↔ VersionRead calls ver := by
  rw [axsReadFwVersion] at htrace
  obtain ⟨⟨ret, first⟩, left, right, rfl, hfirst, hrest⟩ := Prog.trace_bind.mp htrace
  obtain ⟨call, rfl, hcall⟩ := axsReadSfrReg_trace hfirst
  dsimp only at hrest
  split at hrest
  · obtain ⟨rfl, rfl⟩ := hrest
    refine iff_of_false (by simp) ?_
    intro hread
    obtain ⟨_, _, hcalls, -, -⟩ := hread
    exact absurd hcalls (by simp)
  · rename_i hret
    obtain ⟨⟨ret', second⟩, left', right', rfl, hsecond, hlast⟩ := Prog.trace_bind.mp hrest
    obtain ⟨call', rfl, hcall'⟩ := axsReadSfrReg_trace hsecond
    have hboth : VersionRead ([call] ++ ([call'] ++ right')) ver ↔ right' = [] ∧
        first.headD 0 = ver ∧ ret' = 0 ∧ second.headD 0 = ver := by
      constructor
      · intro hread
        obtain ⟨_, _, hcalls, hfirstRead, hsecondRead⟩ := hread
        simp only [List.singleton_append, List.cons.injEq] at hcalls
        obtain ⟨rfl, rfl, hend⟩ := hcalls
        exact ⟨hend, ((hcall ver).mp hfirstRead).2, (hcall' ver).mp hsecondRead⟩
      · intro hgiven
        obtain ⟨rfl, hfirstVer, hsecondRead⟩ := hgiven
        exact ⟨call, call', rfl, (hcall ver).mpr ⟨not_not.mp hret, hfirstVer⟩,
          (hcall' ver).mpr hsecondRead⟩
    rw [hboth]
    dsimp only at hlast
    split at hlast
    · rename_i hret'
      obtain ⟨rfl, rfl⟩ := hlast
      exact iff_of_false (by simp) fun hgiven => hret' hgiven.2.2.1
    · rename_i hret'
      split at hlast
      · rename_i hdiffer
        obtain ⟨rfl, rfl⟩ := hlast
        exact iff_of_false (by simp) fun hgiven => hdiffer (hgiven.2.1.trans hgiven.2.2.2.symm)
      · rename_i hsame
        obtain ⟨rfl, rfl⟩ := hlast
        rw [not_not.mp hsame]
        simp [not_not.mp hret']

end Version

section Decision

variable {image : List UInt8} {events : List (Event UpgradeIo)} {ret : Bool}

theorem busCalls_append (left right : List (Event UpgradeIo)) :
    busCalls (left ++ right) = busCalls left ++ busCalls right :=
  List.filterMap_append

theorem handle_bus_trace {Value : Type} {program : Prog BusLayer Value} {value : Value}
    (htrace : (program.handle fun op => .access UpgradeIo (.bus op)).Trace events value) :
    program.Trace (busCalls events) value ∧ ∀ event ∈ events, InImage image event := by
  induction program generalizing events with
  | ret returned =>
      obtain ⟨rfl, rfl⟩ := htrace
      exact ⟨⟨rfl, rfl⟩, List.forall_mem_nil _⟩
  | call op next ih =>
      obtain ⟨answer, rest, rfl, htrace⟩ := htrace
      obtain ⟨hcalls, hinside⟩ := ih answer htrace
      exact ⟨⟨answer, busCalls rest, rfl, hcalls⟩, List.forall_mem_cons.mpr ⟨trivial, hinside⟩⟩

/-- The two bytes the offset is taken from, and the byte there, unless the offset is past the end. -/
theorem axsFwupgGetVerInBin_trace {result : Option UInt8} (hsize : 1024 ≤ image.length)
    (htrace : (axsFwupgGetVerInBin image.length).Trace events result)
    (hanswers : ∀ event ∈ events, Answers image event) :
    busCalls events = [] ∧
      ((image.length < verOffset image ∧ result = none ∧ ∀ event ∈ events, InImage image event) ∨
      (verOffset image ≤ image.length ∧ ∃ ver, result = some ver ∧
        (∀ h : verOffset image < image.length, ver = image[verOffset image]) ∧
        ((∀ event ∈ events, InImage image event) ↔ verOffset image < image.length))) := by
  obtain ⟨high, _, rfl, low, rest, rfl, htrace⟩ := htrace
  have hhigh : high = image.getD 0x0b 0 := by
    rw [List.getD_eq_getElem _ _ (by omega)]
    exact hanswers ⟨.fw 0x0b, high⟩ List.mem_cons_self (by omega)
  have hlow : low = image.getD 0x0c 0 := by
    rw [List.getD_eq_getElem _ _ (by omega)]
    exact hanswers ⟨.fw 0x0c, low⟩ (by simp) (by omega)
  have hoffset : ((high.toNat <<< 8) ||| low.toNat) + axsAppBinVerOffset = verOffset image := by
    rw [or_shift_byte, hhigh, hlow]
    rfl
  have htail : (if image.length < ((high.toNat <<< 8) ||| low.toNat) + axsAppBinVerOffset
      then .ret none
      else .call (.fw (((high.toNat <<< 8) ||| low.toNat) + axsAppBinVerOffset))
        fun ver => .ret (some ver) : Prog UpgradeIo (Option UInt8)).Trace rest result := htrace
  rw [hoffset] at htail
  have hhighInside : InImage image ⟨.fw 0x0b, high⟩ := show 0x0b < image.length by omega
  have hlowInside : InImage image ⟨.fw 0x0c, low⟩ := show 0x0c < image.length by omega
  simp only [List.forall_mem_cons, hhighInside, hlowInside, true_and]
  split at htail
  · rename_i hpast
    obtain ⟨rfl, rfl⟩ := htail
    exact ⟨rfl, .inl ⟨hpast, rfl, List.forall_mem_nil _⟩⟩
  · rename_i hwithin
    obtain ⟨ver, _, rfl, rfl, rfl⟩ := htail
    refine ⟨rfl, .inr ⟨not_lt.mp hwithin, ver, rfl, ?_, List.forall_mem_singleton⟩⟩
    exact hanswers ⟨.fw (verOffset image), ver⟩ (by simp)

/-- The decision is what it should be, and made inside of the image, unless the offset is just behind the image: only an offset past that is refused. -/
theorem axsFwupgNeedUpgrade_iff {sfrValue sfrValue2 : UInt8} (hsize : 1024 ≤ image.length)
    (htrace : (axsFwupgNeedUpgrade image.length sfrValue sfrValue2).Trace events ret)
    (hanswers : ∀ event ∈ events, Answers image event) :
    ((∀ event ∈ events, InImage image event) ∧
      (ret = true ↔ ∃ hinside : verOffset image < image.length, ∃ ver,
        VersionRead (busCalls events) ver ∧ ver ≠ 0 ∧ ver ≠ image[verOffset image])) ↔
      verOffset image ≠ image.length := by
  obtain ⟨inBin, left, right, rfl, hbin, hrest⟩ := Prog.trace_bind.mp htrace
  have hanswersLeft : ∀ event ∈ left, Answers image event :=
    fun event hmem => hanswers event (List.mem_append_left _ hmem)
  obtain ⟨hcalls, hcase⟩ := axsFwupgGetVerInBin_trace hsize hbin hanswersLeft
  rw [busCalls_append, hcalls, List.nil_append, List.forall_mem_append]
  rcases hcase with ⟨hpast, rfl, hinside⟩ | ⟨hwithin, fwVerInBin, rfl, hbyte, hinside⟩
  · obtain ⟨rfl, rfl⟩ := hrest
    refine iff_of_true ⟨⟨hinside, List.forall_mem_nil _⟩, ?_⟩ (by omega)
    refine iff_of_false (by decide) ?_
    intro hgiven
    obtain ⟨hlt, -⟩ := hgiven
    omega
  · obtain ⟨inTp, left', right', rfl, htp, hlast⟩ := Prog.trace_bind.mp hrest
    obtain ⟨htp, hbusInside⟩ := @handle_bus_trace image _ _ _ _ htp
    obtain ⟨rfl, hret⟩ : right' = [] ∧ (ret = true ↔ ∃ ver, inTp = some ver ∧ ver ≠ 0 ∧
        ver ≠ fwVerInBin) := by
      cases inTp with
      | none =>
          obtain ⟨rfl, rfl⟩ := hlast
          exact ⟨rfl, by simp⟩
      | some ver =>
          obtain ⟨rfl, rfl⟩ := hlast
          exact ⟨rfl, by simp [and_comm]⟩
    rw [List.append_nil, hinside]
    constructor
    · intro hboth
      exact hboth.1.1.ne
    · intro hne
      have hlt : verOffset image < image.length := by omega
      refine ⟨⟨hlt, hbusInside⟩, hret.trans ?_⟩
      rw [hbyte hlt]
      constructor
      · intro hgiven
        obtain ⟨ver, hver, hnew⟩ := hgiven
        exact ⟨hlt, ver, (axsReadFwVersion_trace htp).mp hver, hnew⟩
      · intro hgiven
        obtain ⟨_, ver, hver, hnew⟩ := hgiven
        exact ⟨ver, (axsReadFwVersion_trace htp).mpr hver, hnew⟩

/-- An offset just behind the image is read. -/
theorem reads_behind_image {sfrValue sfrValue2 : UInt8} (hsize : 1024 ≤ image.length)
    (hoffset : verOffset image = image.length)
    (htrace : (axsFwupgNeedUpgrade image.length sfrValue sfrValue2).Trace events ret)
    (hanswers : ∀ event ∈ events, Answers image event) :
    ¬ ∀ event ∈ events, InImage image event := by
  obtain ⟨inBin, left, right, rfl, hbin, -⟩ := Prog.trace_bind.mp htrace
  have hanswersLeft : ∀ event ∈ left, Answers image event :=
    fun event hmem => hanswers event (List.mem_append_left _ hmem)
  intro hinside
  have hinsideLeft : ∀ event ∈ left, InImage image event :=
    fun event hmem => hinside event (List.mem_append_left _ hmem)
  obtain ⟨-, hcase⟩ := axsFwupgGetVerInBin_trace hsize hbin hanswersLeft
  rcases hcase with ⟨hpast, -⟩ | ⟨-, _, -, -, hiff⟩
  · omega
  · exact absurd (hiff.mp hinsideLeft) (by omega)

end Decision

/-! ### Images of zeros -/

/-- What an image of `length` zeros, with zeros behind it, and a controller of version 3 answer. -/
def zeros : (op : UpgradeOp) → UpgradeIo.Answer op
  | .fw _ => (0 : UInt8)
  | .bus (.axsWriteBytes _) => (0 : Int)
  | .bus (.axsWriteBytesReadBytes _ _ _) => ((1 : Int), [3])

theorem answers_zeros (length : Nat) (op : UpgradeOp) :
    Answers (List.replicate length 0) ⟨op, zeros op⟩ := by
  cases op with
  | fw index =>
      intro hindex
      rw [List.getElem_replicate]
      rfl
  | bus op => trivial

theorem verOffset_zeros (length : Nat) : verOffset (List.replicate length 0) = 0x5035 := by
  have hzero : ∀ index, (List.replicate length (0 : UInt8)).getD index 0 = 0 := by
    intro index
    rw [List.getD_eq_getElem?_getD, List.getElem?_replicate]
    split <;> rfl
  rw [verOffset, hzero, hzero]
  rfl

theorem axsFwupgNeedUpgrade_iff_zeros : ∃ events ret,
    ((∀ event ∈ events, InImage (List.replicate 30000 0) event) ∧
      (ret = true ↔ ∃ hinside : verOffset (List.replicate 30000 0) <
          (List.replicate 30000 (0 : UInt8)).length, ∃ ver,
        VersionRead (busCalls events) ver ∧ ver ≠ 0 ∧
          ver ≠ (List.replicate 30000 0)[verOffset (List.replicate 30000 0)])) ↔
      verOffset (List.replicate 30000 0) ≠ (List.replicate 30000 (0 : UInt8)).length := by
  have hsize : 1024 ≤ (List.replicate 30000 (0 : UInt8)).length := by
    rw [List.length_replicate]
    decide
  have htrace := Prog.trace_answered zeros
    (axsFwupgNeedUpgrade (List.replicate 30000 (0 : UInt8)).length 0 0)
  exact ⟨_, _, axsFwupgNeedUpgrade_iff hsize htrace
    (Prog.answered_events (answers_zeros 30000) _)⟩

/-- An image of 0x5035 zeros says its version is in the byte behind it, and that byte is read. -/
theorem axsFwupgNeedUpgrade_reads_outside : ∃ events ret,
    (axsFwupgNeedUpgrade (List.replicate 0x5035 (0 : UInt8)).length 0 0).Trace events ret ∧
      (∀ event ∈ events, Answers (List.replicate 0x5035 0) event) ∧
      ¬ ∀ event ∈ events, InImage (List.replicate 0x5035 0) event := by
  have hlength : (List.replicate 0x5035 (0 : UInt8)).length = 0x5035 := List.length_replicate
  have hsize : 1024 ≤ (List.replicate 0x5035 (0 : UInt8)).length := by
    rw [hlength]
    decide
  have htrace := Prog.trace_answered zeros
    (axsFwupgNeedUpgrade (List.replicate 0x5035 (0 : UInt8)).length 0 0)
  have hanswers := Prog.answered_events (answers_zeros 0x5035)
    (axsFwupgNeedUpgrade (List.replicate 0x5035 (0 : UInt8)).length 0 0)
  exact ⟨_, _, htrace, hanswers,
    reads_behind_image hsize ((verOffset_zeros 0x5035).trans hlength.symm) htrace hanswers⟩

end FrontPanel.Touch.Upgrade
