import FrontPanel.Sio.EcHelper
import Mathlib.Logic.Function.Basic

/-!
# The embedded controller behind the two ports

What the helpers rely on of the controller, which is not in the repository. A byte the host writes sits in the input buffer, with IBF set, until the controller takes it; the controller then handles it in its own time, one byte at a time and in order, and may let any delay pass before either step. A command byte starts a new transaction and drops an unfinished one, `0x80 a` puts cell `a` in the output buffer and sets OBF until the host reads the data port, and `0x81 a v` stores `v` at `a`. A byte written while IBF is set is counted in `overruns`.

The controller's own steps change what it will do next, never where it ends: `settle` is the controller after it has handled everything outstanding, and it is the same before and after each of them. The host's accesses are described by what they do to `settle`.
-/

namespace FrontPanel.Sio

open Relation

inductive EcPhase
  | idle
  | readAddress
  | writeAddress
  | writeValue (address : UInt8)

/-- What the controller has made of the bytes it has handled. -/
structure EcCore where
  mem : UInt8 → UInt8
  phase : EcPhase
  obf : Option UInt8

structure Ec where
  core : EcCore
  /-- The byte taken from the input buffer and not yet handled. -/
  latch : Option (UInt16 × UInt8)
  ibf : Option (UInt16 × UInt8)
  overruns : Nat

/-- The controller handles one byte from the host. -/
def EcCore.receive (core : EcCore) (byte : UInt16 × UInt8) : EcCore :=
  if byte.1 = ecCPort then
    { core with phase :=
        if byte.2 = ecCReadMem then .readAddress
        else if byte.2 = ecCWriteMem then .writeAddress
        else .idle }
  else
    match core.phase with
    | .idle => core
    | .readAddress => { core with phase := .idle, obf := some (core.mem byte.2) }
    | .writeAddress => { core with phase := .writeValue byte.2 }
    | .writeValue address =>
        { core with phase := .idle, mem := Function.update core.mem address byte.2 }

namespace Ec

/-- The steps the controller takes on its own. -/
inductive Internal : Ec → Ec → Prop
  | take {ec : Ec} {byte : UInt16 × UInt8} (hlatch : ec.latch = none) (hibf : ec.ibf = some byte) :
      Internal ec { ec with latch := some byte, ibf := none }
  | handle {ec : Ec} {byte : UInt16 × UInt8} (hlatch : ec.latch = some byte) :
      Internal ec { ec with core := ec.core.receive byte, latch := none }

/-- The status byte: its other bits may be anything. -/
def HasStatus (ec : Ec) (status : UInt8) : Prop :=
  (status &&& ecSIbf == 0) = ec.ibf.isNone ∧ (status &&& ecSObf != 0) = ec.core.obf.isSome

/-- A byte written by the host arrives in the input buffer. -/
def accept (ec : Ec) (byte : UInt16 × UInt8) : Ec :=
  { ec with
    ibf := some byte
    overruns := if ec.ibf.isSome then ec.overruns + 1 else ec.overruns }

def clearObf (ec : Ec) : Ec := { ec with core := { ec.core with obf := none } }

/-- One access of the host, as the controller sees it. -/
def access (ec : Ec) (event : Event Ports) (after : Ec) : Prop :=
  match event with
  | ⟨.inb port, answer⟩ =>
      if port = ecCPort then ec.HasStatus answer ∧ after = ec
      else if port = ecDPort then
        (∀ byte, ec.core.obf = some byte → answer = byte) ∧ after = ec.clearObf
      else after = ec
  | ⟨.outb value port, _⟩ =>
      after = if port = ecCPort ∨ port = ecDPort then ec.accept (port, value) else ec

/-- The device a program meets: any number of the controller's own steps, then the access. -/
def device (before : Ec) (event : Event Ports) (after : Ec) : Prop :=
  ∃ middle, ReflTransGen Internal before middle ∧ middle.access event after

/-! ### Where the controller ends -/

/-- The core once the latched byte is handled. -/
def drain (ec : Ec) : EcCore := ec.latch.toList.foldl EcCore.receive ec.core

/-- The controller once it has handled everything the host has written. -/
def settle (ec : Ec) : Ec :=
  { ec with core := ec.ibf.toList.foldl EcCore.receive ec.drain, latch := none, ibf := none }

theorem Internal.settle_eq {before after : Ec} (hstep : Internal before after) :
    after.settle = before.settle := by
  cases hstep with
  | take hlatch hibf => simp [settle, drain, hlatch, hibf]
  | handle hlatch => simp [settle, drain, hlatch]

theorem settle_of_internal {before after : Ec} (hsteps : ReflTransGen Internal before after) :
    after.settle = before.settle := by
  induction hsteps with
  | refl => rfl
  | tail _ hstep ih => rw [hstep.settle_eq, ih]

theorem settle_eq_self {ec : Ec} (hlatch : ec.latch = none) (hibf : ec.ibf = none) :
    ec.settle = ec := by
  cases ec
  simp_all [settle, drain]

/-- The controller can always finish what is outstanding. -/
theorem internal_to_settle (ec : Ec) : ReflTransGen Internal ec ec.settle := by
  have hdrain : ReflTransGen Internal ec { ec with core := ec.drain, latch := none } := by
    cases hlatch : ec.latch with
    | none =>
        have hself : { ec with core := ec.drain, latch := none } = ec := by
          cases ec
          simp_all [drain]
        rw [hself]
    | some byte =>
        have hstep := Internal.handle hlatch
        simpa [drain, hlatch] using ReflTransGen.single hstep
  cases hibf : ec.ibf with
  | none => simpa [settle, hibf] using hdrain
  | some byte =>
      have htaken := hdrain.tail (.take rfl hibf)
      have hhandled := htaken.tail (.handle rfl)
      simpa [settle, hibf] using hhandled

theorem internal_ibf_none {before after : Ec} (hsteps : ReflTransGen Internal before after)
    (hibf : before.ibf = none) : after.ibf = none := by
  induction hsteps with
  | refl => exact hibf
  | tail _ hstep ih =>
      cases hstep with
      | take _ hsome => simp [ih] at hsome
      | handle _ => exact ih

/-- A byte written while IBF is clear is handled after everything before it, and overruns nothing. -/
theorem settle_accept {ec : Ec} (hibf : ec.ibf = none) (byte : UInt16 × UInt8) :
    (ec.accept byte).settle = { ec.settle with core := ec.settle.core.receive byte } := by
  simp [settle, accept, drain, hibf]

/-! ### The output buffer -/

theorem receive_obf_none {core : EcCore} {byte : UInt16 × UInt8}
    (hnone : (core.receive byte).obf = none) : core.obf = none := by
  rw [EcCore.receive] at hnone
  split at hnone
  · exact hnone
  · cases hphase : core.phase <;> simp_all

theorem foldl_receive_obf_none {core : EcCore} {bytes : List (UInt16 × UInt8)}
    (hnone : (bytes.foldl EcCore.receive core).obf = none) : core.obf = none := by
  induction bytes generalizing core with
  | nil => exact hnone
  | cons byte rest ih => exact receive_obf_none (ih hnone)

theorem internal_obf_ne_none {before after : Ec} (hsteps : ReflTransGen Internal before after)
    (hsome : before.core.obf ≠ none) : after.core.obf ≠ none := by
  induction hsteps with
  | refl => exact hsome
  | tail _ hstep ih =>
      cases hstep with
      | take _ _ => exact ih
      | handle _ => exact fun hnone => ih (receive_obf_none hnone)

/-- What is in the output buffer has no effect on what the controller does next. -/
theorem foldl_receive_obf (core : EcCore) (bytes : List (UInt16 × UInt8)) (kept : Option UInt8) :
    ∃ obf, bytes.foldl EcCore.receive { core with obf := kept } =
      { bytes.foldl EcCore.receive core with obf } := by
  induction bytes generalizing core kept with
  | nil => exact ⟨kept, rfl⟩
  | cons byte rest ih =>
      have hone : ∃ obf, ({ core with obf := kept } : EcCore).receive byte =
          { core.receive byte with obf } := by
        refine ⟨(({ core with obf := kept } : EcCore).receive byte).obf, ?_⟩
        obtain ⟨mem, phase, obf⟩ := core
        unfold EcCore.receive
        split
        · rfl
        · cases phase <;> rfl
      obtain ⟨obf, hone⟩ := hone
      rw [List.foldl_cons, List.foldl_cons, hone]
      exact ih (core.receive byte) obf

theorem settle_clearObf (ec : Ec) :
    ∃ obf, ec.clearObf.settle = { ec.settle with core := { ec.settle.core with obf } } := by
  obtain ⟨kept, hdrain⟩ := foldl_receive_obf ec.core ec.latch.toList none
  obtain ⟨obf, hsettle⟩ := foldl_receive_obf ec.drain ec.ibf.toList kept
  refine ⟨obf, ?_⟩
  have hcore : ec.clearObf.drain = { ec.drain with obf := kept } := hdrain
  simp only [settle, hcore]
  rw [← hsettle]
  rfl

/-- The controller owes the host `byte`, and no other byte can show up in the output buffer before it. -/
def Awaits (byte : UInt8) (ec : Ec) : Prop :=
  ec.settle.core.obf = some byte ∧ (ec.core.obf = none ∨ ec.core.obf = some byte) ∧
    (ec.ibf ≠ none → ec.drain.obf = none)

theorem Awaits.step {byte : UInt8} {before after : Ec} (hawaits : Awaits byte before)
    (hstep : Internal before after) : Awaits byte after := by
  obtain ⟨hsettle, hobf, hdrain⟩ := hawaits
  refine ⟨by rw [hstep.settle_eq]; exact hsettle, ?_⟩
  cases hstep with
  | take _ _ => exact ⟨hobf, fun hne => absurd rfl hne⟩
  | @handle taken hlatch =>
      have hcore : before.core.receive taken = before.drain := by simp [drain, hlatch]
      rw [hcore]
      refine ⟨?_, fun hibf => hdrain hibf⟩
      cases hibf : before.ibf with
      | none =>
          right
          simpa [settle, hibf] using hsettle
      | some waiting => exact .inl (hdrain (by simp [hibf]))

theorem Awaits.internal {byte : UInt8} {before after : Ec} (hawaits : Awaits byte before)
    (hsteps : ReflTransGen Internal before after) : Awaits byte after := by
  induction hsteps with
  | refl => exact hawaits
  | tail _ hstep ih => exact ih.step hstep

/-- The address of a read, written while the controller owed nothing, makes its cell the awaited byte. -/
theorem awaits_accept {ec : Ec} {byte : UInt8} {address : UInt16 × UInt8} (hibf : ec.ibf = none)
    (hnone : ec.settle.core.obf = none) (hdue : (ec.accept address).settle.core.obf = some byte) :
    Awaits byte (ec.accept address) := by
  have hdrained : ec.drain.obf = none := by simpa [settle, hibf] using hnone
  exact ⟨hdue, .inl (foldl_receive_obf_none hdrained), fun _ => hdrained⟩

end Ec

end FrontPanel.Sio
