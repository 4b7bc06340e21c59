import FrontPanel.Sio.EcDevice

/-!
# The helpers as an atomic memory

Seen from its callers the controller is a byte-addressed memory: a call either returns 0 and has read or written one cell, or returns `-ETIMEDOUT` and has done nothing. `AtomicMemory` is that memory. The writes refine it for every delay of the controller. The reads do only as long as the controller owes no byte to an earlier read: a read that gave up waiting for its byte leaves it to the next one.
-/

namespace FrontPanel.Sio

open Relation

inductive EcCall
  | read (address : UInt8)
  | write (address value : UInt8)

/-- The return code of a call and the byte it delivered. -/
abbrev EcReturn := Int × Option UInt8

def EcCall.program : EcCall → Prog Ports EcReturn
  | .read address => ecReadMemory address
  | .write address value => do
      let ret ← ecWriteMemory address value
      return (ret, none)

/-- One call made by the only host, from its first port access to its return. -/
def callStep (before : Ec) (call : EcCall × EcReturn) (after : Ec) : Prop :=
  call.1.program.Exec Ec.device before call.2 after

/-! ### The abstract memory -/

abbrev AtomicMemory := UInt8 → UInt8

/-- The cell a call has written, if it is a write that returned 0. -/
def AtomicMemory.apply (mem : AtomicMemory) : EcCall × EcReturn → AtomicMemory
  | (.write address value, (ret, _)) => if ret = 0 then Function.update mem address value else mem
  | (.read _, _) => mem

def AtomicMemory.applyAll (mem : AtomicMemory) (history : List (EcCall × EcReturn)) :
    AtomicMemory :=
  history.foldl AtomicMemory.apply mem

/-- What the memory allows a call to return, and what the call does to it. -/
def AtomicMemory.step (mem : AtomicMemory) (call : EcCall × EcReturn) (after : AtomicMemory) :
    Prop :=
  after = mem.apply call ∧
    ∀ address byte, call = (.read address, (0, byte)) → byte = some (mem address)

/-! ### One helper at a time -/

namespace Ec

theorem ecWait_spec {ready : UInt8 → Bool} {timeout : Nat} {before after : Ec} {ret : Int}
    (hexec : (ecWait ready timeout).Exec device before ret after) :
    ReflTransGen Internal before after ∧
      ((ret = 0 ∧ ∃ status, after.HasStatus status ∧ ready status = true) ∨ ret = eTimedOut) := by
  induction timeout generalizing before with
  | zero =>
      simp only [ecWait, Prog.pure_eq_ret, Prog.exec_ret] at hexec
      obtain ⟨rfl, rfl⟩ := hexec
      exact ⟨.refl, .inr rfl⟩
  | succ timeout ih =>
      simp only [ecWait, ecReadStatus, inb_bind, Prog.exec_call] at hexec
      obtain ⟨status, polled, ⟨middle, hsteps, haccess⟩, hrest⟩ := hexec
      simp only [access, if_true] at haccess
      obtain ⟨hstatus, rfl⟩ := haccess
      by_cases hready : ready status = true
      · simp only [hready, if_true, Prog.pure_eq_ret, Prog.exec_ret] at hrest
        obtain ⟨rfl, rfl⟩ := hrest
        exact ⟨hsteps, .inl ⟨rfl, status, hstatus, hready⟩⟩
      · simp only [hready, Bool.false_eq_true, if_false] at hrest
        obtain ⟨hmore, hret⟩ := ih hrest
        exact ⟨hsteps.trans hmore, hret⟩

theorem ecWaitCommandReady_spec {before after : Ec} {ret : Int}
    (hexec : ecWaitCommandReady.Exec device before ret after) :
    ReflTransGen Internal before after ∧ ((ret = 0 ∧ after.ibf = none) ∨ ret = eTimedOut) := by
  obtain ⟨hsteps, hret⟩ := ecWait_spec hexec
  refine ⟨hsteps, hret.imp ?_ id⟩
  intro hgiven
  obtain ⟨hzero, status, hstatus, hready⟩ := hgiven
  have hnone : after.ibf.isNone = true := hstatus.1 ▸ hready
  exact ⟨hzero, Option.isNone_iff_eq_none.mp hnone⟩

theorem eTimedOut_ne_zero : eTimedOut ≠ 0 := by decide

/-- Both senders: wait for the input buffer, then write one byte to the port. -/
theorem send_spec {port : UInt16} {byte : UInt8} (hport : port = ecCPort ∨ port = ecDPort)
    {before after : Ec} {ret : Int}
    (hexec : (do
      let ret ← ecWaitCommandReady
      if ret ≠ 0 then return ret
      outb byte port
      return 0 : Prog Ports Int).Exec device before ret after) :
    (ret = 0 ∧ ∃ middle, ReflTransGen Internal before middle ∧ middle.ibf = none ∧
      after = middle.accept (port, byte)) ∨
    (ret = eTimedOut ∧ ReflTransGen Internal before after) := by
  obtain ⟨waited, ready, hwait, hrest⟩ := Prog.exec_bind.mp hexec
  obtain ⟨hsteps, ⟨rfl, hibf⟩ | rfl⟩ := ecWaitCommandReady_spec hwait
  · simp only [ne_eq, not_true, if_false, outb_bind, Prog.exec_call, Prog.pure_eq_ret,
      Prog.exec_ret] at hrest
    obtain ⟨_, written, ⟨middle, hmore, haccess⟩, rfl, rfl⟩ := hrest
    simp only [access, if_pos hport] at haccess
    exact .inl ⟨rfl, middle, hsteps.trans hmore, internal_ibf_none hmore hibf, haccess⟩
  · simp only [ne_eq, eTimedOut_ne_zero, not_false_eq_true, if_true, Prog.pure_eq_ret,
      Prog.exec_ret] at hrest
    obtain ⟨rfl, rfl⟩ := hrest
    exact .inr ⟨rfl, hsteps⟩

/-- Sending a byte that is then handled, or timing out with nothing sent. -/
def Sends (byte : UInt16 × UInt8) (before : Ec) (ret : Int) (after : Ec) : Prop :=
  (ret = 0 ∧ after.settle = { before.settle with core := before.settle.core.receive byte }) ∨
  (ret = eTimedOut ∧ after.settle = before.settle)

theorem sends_of_send_spec {byte : UInt16 × UInt8} {before after : Ec} {ret : Int}
    (hsend : (ret = 0 ∧ ∃ middle, ReflTransGen Internal before middle ∧ middle.ibf = none ∧
      after = middle.accept byte) ∨ (ret = eTimedOut ∧ ReflTransGen Internal before after)) :
    Sends byte before ret after := by
  obtain ⟨hret, middle, hsteps, hibf, rfl⟩ | ⟨hret, hsteps⟩ := hsend
  · exact .inl ⟨hret, by rw [settle_accept hibf, settle_of_internal hsteps]⟩
  · exact .inr ⟨hret, settle_of_internal hsteps⟩

theorem ecSendCommand_spec {command : UInt8} {before after : Ec} {ret : Int}
    (hexec : (ecSendCommand command).Exec device before ret after) :
    Sends (ecCPort, command) before ret after :=
  sends_of_send_spec (send_spec (.inl rfl) hexec)

theorem ecSendData_spec {data : UInt8} {before after : Ec} {ret : Int}
    (hexec : (ecSendData data).Exec device before ret after) :
    Sends (ecDPort, data) before ret after :=
  sends_of_send_spec (send_spec (.inr rfl) hexec)

/-- A write that returns 0 has stored its byte once the controller has settled. One that timed out has at most moved the transaction on. -/
theorem ecWriteMemory_spec {address value : UInt8} {before after : Ec} {ret : Int}
    (hexec : (ecWriteMemory address value).Exec device before ret after) :
    (ret = 0 ∧ ∃ phase, after.settle = { before.settle with core := { before.settle.core with
      phase, mem := Function.update before.settle.core.mem address value } }) ∨
    (ret = eTimedOut ∧ ∃ phase, after.settle =
      { before.settle with core := { before.settle.core with phase } }) := by
  rw [ecWriteMemory] at hexec
  obtain ⟨_, afterCommand, hcommand, hexec⟩ := Prog.exec_bind.mp hexec
  obtain ⟨rfl, hsettle⟩ | ⟨rfl, hsettle⟩ := ecSendCommand_spec hcommand
  · have hphase : afterCommand.settle =
        { before.settle with core := { before.settle.core with phase := .writeAddress } } := hsettle
    simp only [ne_eq, not_true, if_false] at hexec
    obtain ⟨_, afterAddress, haddress, hexec⟩ := Prog.exec_bind.mp hexec
    obtain ⟨rfl, hsettle⟩ | ⟨rfl, hsettle⟩ := ecSendData_spec haddress
    · have hnext : afterAddress.settle = { before.settle with
          core := { before.settle.core with phase := .writeValue address } } := by
        rw [hsettle, hphase]
        rfl
      simp only [not_true, if_false] at hexec
      obtain ⟨rfl, hsettle⟩ | ⟨rfl, hsettle⟩ := ecSendData_spec hexec
      · exact .inl ⟨rfl, .idle, by rw [hsettle, hnext]; rfl⟩
      · exact .inr ⟨rfl, _, by rw [hsettle, hnext]⟩
    · simp only [eTimedOut_ne_zero, not_false_eq_true, if_true, Prog.pure_eq_ret,
        Prog.exec_ret] at hexec
      obtain ⟨rfl, rfl⟩ := hexec
      exact .inr ⟨rfl, _, by rw [hsettle, hphase]⟩
  · simp only [ne_eq, eTimedOut_ne_zero, not_false_eq_true, if_true, Prog.pure_eq_ret,
      Prog.exec_ret] at hexec
    obtain ⟨rfl, rfl⟩ := hexec
    exact .inr ⟨rfl, _, hsettle⟩

/-- A receive changes nothing but the output buffer, and delivers the awaited byte where one is awaited. -/
theorem ecReceiveData_spec {before after : Ec} {ret : EcReturn}
    (hexec : ecReceiveData.Exec device before ret after) :
    (∃ obf, after.settle = { before.settle with core := { before.settle.core with obf } }) ∧
      (ret.1 = 0 ∨ ret.1 = eTimedOut) ∧
      ∀ byte, Awaits byte before → ret.1 = 0 → ret.2 = some byte := by
  rw [ecReceiveData] at hexec
  obtain ⟨_, waited, hwait, hrest⟩ := Prog.exec_bind.mp hexec
  obtain ⟨hsteps, ⟨rfl, status, hstatus, hready⟩ | rfl⟩ := ecWait_spec hwait
  · simp only [ne_eq, not_true, if_false, inb_bind, Prog.exec_call, Prog.pure_eq_ret,
      Prog.exec_ret] at hrest
    obtain ⟨answer, _, ⟨middle, hmore, haccess⟩, rfl, rfl⟩ := hrest
    have hne : ecDPort ≠ ecCPort := by decide
    simp only [access, if_neg hne, if_true] at haccess
    obtain ⟨hanswer, rfl⟩ := haccess
    refine ⟨?_, .inl rfl, ?_⟩
    · obtain ⟨obf, hclear⟩ := settle_clearObf middle
      exact ⟨obf, by rw [hclear, settle_of_internal hmore, settle_of_internal hsteps]⟩
    · intro byte hawaits _
      have hsome : waited.core.obf ≠ none := by
        have hset : waited.core.obf.isSome = true := hstatus.2 ▸ hready
        exact Option.isSome_iff_ne_none.mp hset
      obtain hnone | hbyte := (hawaits.internal (hsteps.trans hmore)).2.1
      · exact absurd hnone (internal_obf_ne_none hmore hsome)
      · exact congrArg some (hanswer byte hbyte)
  · simp only [ne_eq, eTimedOut_ne_zero, not_false_eq_true, if_true, Prog.pure_eq_ret,
      Prog.exec_ret] at hrest
    obtain ⟨rfl, rfl⟩ := hrest
    refine ⟨⟨_, settle_of_internal hsteps⟩, .inr rfl, fun byte _ hret => ?_⟩
    exact absurd hret eTimedOut_ne_zero

/-- A read changes no cell. If the controller owed no byte when it was called, it delivers the cell it asked for. -/
theorem ecReadMemory_spec {address : UInt8} {before after : Ec} {ret : EcReturn}
    (hexec : (ecReadMemory address).Exec device before ret after) :
    (∃ phase obf, after.settle =
      { before.settle with core := { before.settle.core with phase, obf } }) ∧
      (ret.1 = 0 ∨ ret.1 = eTimedOut) ∧
      (before.settle.core.obf = none → ret.1 = 0 →
        ret.2 = some (before.settle.core.mem address)) := by
  rw [ecReadMemory] at hexec
  obtain ⟨_, afterCommand, hcommand, hexec⟩ := Prog.exec_bind.mp hexec
  obtain ⟨rfl, hsettle⟩ | ⟨rfl, hsettle⟩ := ecSendCommand_spec hcommand
  · have hphase : afterCommand.settle =
        { before.settle with core := { before.settle.core with phase := .readAddress } } := hsettle
    simp only [ne_eq, not_true, if_false] at hexec
    obtain ⟨_, afterAddress, haddress, hexec⟩ := Prog.exec_bind.mp hexec
    obtain ⟨rfl, middle, hsteps, hibf, rfl⟩ | ⟨rfl, hsteps⟩ := send_spec (.inr rfl) haddress
    · simp only [not_true, if_false] at hexec
      have hmiddle := (settle_of_internal hsteps).trans hphase
      have hdue : (middle.accept (ecDPort, address)).settle = { before.settle with
          core := { before.settle.core with
            phase := .idle, obf := some (before.settle.core.mem address) } } := by
        rw [settle_accept hibf, hmiddle]
        rfl
      obtain ⟨⟨obf, hafter⟩, hcode, hbyte⟩ := ecReceiveData_spec hexec
      refine ⟨⟨.idle, obf, by rw [hafter, hdue]⟩, hcode, fun hnone hret => hbyte _ ?_ hret⟩
      exact awaits_accept hibf (by rw [hmiddle]; exact hnone) (by rw [hdue])
    · simp only [eTimedOut_ne_zero, not_false_eq_true, if_true, Prog.pure_eq_ret,
        Prog.exec_ret] at hexec
      obtain ⟨rfl, rfl⟩ := hexec
      refine ⟨⟨.readAddress, before.settle.core.obf, ?_⟩, .inr rfl,
        fun _ hret => absurd hret eTimedOut_ne_zero⟩
      exact (settle_of_internal hsteps).trans hphase
  · simp only [ne_eq, eTimedOut_ne_zero, not_false_eq_true, if_true, Prog.pure_eq_ret,
      Prog.exec_ret] at hexec
    obtain ⟨rfl, rfl⟩ := hexec
    exact ⟨⟨_, _, hsettle⟩, .inr rfl, fun _ hret => absurd hret eTimedOut_ne_zero⟩

/-! ### Calls the controller can serve at its own pace

A controller that settles before the first poll of a call accepts every byte; one that takes no step at all lets the wait for data run out. -/

theorem ecWaitCommandReady_prompt (ec : Ec) :
    ecWaitCommandReady.Exec device ec 0 ec.settle := by
  have hstatus : ∃ status, ec.settle.HasStatus status ∧ (status &&& ecSIbf == 0) = true := by
    cases hobf : ec.settle.core.obf with
    | none => exact ⟨0, ⟨rfl, by rw [hobf]; rfl⟩, rfl⟩
    | some byte => exact ⟨ecSObf, ⟨rfl, by rw [hobf]; rfl⟩, rfl⟩
  obtain ⟨status, hstatus, hready⟩ := hstatus
  simp only [ecWaitCommandReady, ecTimeoutUs, ecWait, ecReadStatus, inb_bind, Prog.exec_call]
  refine ⟨status, ec.settle, ⟨ec.settle, internal_to_settle ec, hstatus, rfl⟩, ?_⟩
  rw [if_pos hready]
  exact Prog.exec_ret.mpr ⟨rfl, rfl⟩

theorem ecSendCommand_prompt (ec : Ec) (command : UInt8) :
    (ecSendCommand command).Exec device ec 0 (ec.settle.accept (ecCPort, command)) :=
  Prog.exec_bind.mpr ⟨0, _, ecWaitCommandReady_prompt ec, Prog.exec_call.mpr
    ⟨(), _, ⟨_, .refl, rfl⟩, Prog.exec_ret.mpr ⟨rfl, rfl⟩⟩⟩

theorem ecSendData_prompt (ec : Ec) (data : UInt8) :
    (ecSendData data).Exec device ec 0 (ec.settle.accept (ecDPort, data)) :=
  Prog.exec_bind.mpr ⟨0, _, ecWaitCommandReady_prompt ec, Prog.exec_call.mpr
    ⟨(), _, ⟨_, .refl, rfl⟩, Prog.exec_ret.mpr ⟨rfl, rfl⟩⟩⟩

theorem ecReceiveData_present {ec ready : Ec} {byte : UInt8}
    (hsteps : ReflTransGen Internal ec ready) (hobf : ready.core.obf = some byte) :
    ecReceiveData.Exec device ec (0, some byte) ready.clearObf := by
  have hstatus : ∃ status, ready.HasStatus status ∧ (status &&& ecSObf != 0) = true := by
    cases hibf : ready.ibf with
    | none => exact ⟨1, ⟨by rw [hibf]; rfl, by rw [hobf]; rfl⟩, rfl⟩
    | some waiting => exact ⟨3, ⟨by rw [hibf]; rfl, by rw [hobf]; rfl⟩, rfl⟩
  obtain ⟨status, hstatus, hready⟩ := hstatus
  refine Prog.exec_bind.mpr ⟨0, ready, ?_, Prog.exec_call.mpr
    ⟨byte, _, ⟨ready, .refl, ?_, rfl⟩, Prog.exec_ret.mpr ⟨rfl, rfl⟩⟩⟩
  · simp only [ecWaitDataReady, ecTimeoutUs, ecWait, ecReadStatus, inb_bind, Prog.exec_call]
    refine ⟨status, ready, ⟨ready, hsteps, hstatus, rfl⟩, ?_⟩
    rw [if_pos hready]
    exact Prog.exec_ret.mpr ⟨rfl, rfl⟩
  · intro held hheld
    exact Option.some.inj (hobf.symm.trans hheld)

theorem ecWait_outlasted {ready : UInt8 → Bool} {ec : Ec} {status : UInt8}
    (hstatus : ec.HasStatus status) (hbusy : ready status = false) (timeout : Nat) :
    (ecWait ready timeout).Exec device ec eTimedOut ec := by
  induction timeout with
  | zero => exact Prog.exec_ret.mpr ⟨rfl, rfl⟩
  | succ timeout ih =>
      simp only [ecWait, ecReadStatus, inb_bind, Prog.exec_call]
      refine ⟨status, ec, ⟨ec, .refl, hstatus, rfl⟩, ?_⟩
      simpa [hbusy] using ih

theorem ecWaitDataReady_idle {ec : Ec} (hobf : ec.core.obf = none) :
    ecWaitDataReady.Exec device ec eTimedOut ec := by
  have hstatus : ∃ status, ec.HasStatus status ∧ (status &&& ecSObf != 0) = false := by
    cases hibf : ec.ibf with
    | none => exact ⟨0, ⟨by rw [hibf]; rfl, by rw [hobf]; rfl⟩, rfl⟩
    | some waiting => exact ⟨2, ⟨by rw [hibf]; rfl, by rw [hobf]; rfl⟩, rfl⟩
  obtain ⟨status, hstatus, hbusy⟩ := hstatus
  exact ecWait_outlasted hstatus hbusy ecTimeoutUs

theorem ecWaitCommandReady_busy {ec : Ec} {waiting : UInt16 × UInt8}
    (hibf : ec.ibf = some waiting) : ecWaitCommandReady.Exec device ec eTimedOut ec := by
  have hstatus : ∃ status, ec.HasStatus status ∧ (status &&& ecSIbf == 0) = false := by
    cases hobf : ec.core.obf with
    | none => exact ⟨2, ⟨by rw [hibf]; rfl, by rw [hobf]; rfl⟩, rfl⟩
    | some byte => exact ⟨3, ⟨by rw [hibf]; rfl, by rw [hobf]; rfl⟩, rfl⟩
  obtain ⟨status, hstatus, hbusy⟩ := hstatus
  exact ecWait_outlasted hstatus hbusy ecTimeoutUs

/-- The controller right after it was sent a read of `address`, with every byte but the last handled. -/
def requested (ec : Ec) (address : UInt8) : Ec :=
  (ec.settle.accept (ecCPort, ecCReadMem)).settle.accept (ecDPort, address)

theorem requested_obf (ec : Ec) (address : UInt8) :
    (ec.requested address).core.obf = ec.settle.core.obf := by
  show (ec.settle.accept (ecCPort, ecCReadMem)).settle.core.obf = ec.settle.core.obf
  rw [settle_accept rfl, settle_eq_self rfl rfl]
  rfl

theorem requested_settle_obf (ec : Ec) (address : UInt8) :
    (ec.requested address).settle.core.obf = some (ec.settle.core.mem address) := by
  rw [requested, settle_accept rfl, settle_eq_self rfl rfl, settle_accept rfl,
    settle_eq_self rfl rfl]
  rfl

theorem ecReadMemory_requested {ec after : Ec} {address : UInt8} {ret : EcReturn}
    (hreceive : ecReceiveData.Exec device (ec.requested address) ret after) :
    (ecReadMemory address).Exec device ec ret after :=
  Prog.exec_bind.mpr ⟨0, _, ecSendCommand_prompt ec ecCReadMem, Prog.exec_bind.mpr
    ⟨0, _, ecSendData_prompt _ address, hreceive⟩⟩

theorem ecReadMemory_prompt (ec : Ec) (address : UInt8) :
    ∃ after, (ecReadMemory address).Exec device ec
      (0, some (ec.settle.core.mem address)) after :=
  ⟨_, ecReadMemory_requested (ecReceiveData_present (internal_to_settle _)
    (requested_settle_obf ec address))⟩

/-- A read whose byte does not come in time leaves the controller owing that byte. -/
theorem ecReadMemory_gives_up (ec : Ec) (address : UInt8) (hnone : ec.settle.core.obf = none) :
    ∃ after, (ecReadMemory address).Exec device ec (eTimedOut, none) after ∧
      after.settle.core.obf = some (ec.settle.core.mem address) := by
  have hidle : (ec.requested address).core.obf = none := (requested_obf ec address).trans hnone
  refine ⟨ec.requested address, ecReadMemory_requested ?_, requested_settle_obf ec address⟩
  exact Prog.exec_bind.mpr ⟨eTimedOut, _, ecWaitDataReady_idle hidle,
    Prog.exec_ret.mpr ⟨rfl, rfl⟩⟩

theorem ecWriteMemory_gives_up {ec : Ec} {waiting : UInt16 × UInt8} (hibf : ec.ibf = some waiting)
    (address value : UInt8) : (ecWriteMemory address value).Exec device ec eTimedOut ec :=
  Prog.exec_bind.mpr ⟨eTimedOut, ec, Prog.exec_bind.mpr ⟨eTimedOut, ec,
    ecWaitCommandReady_busy hibf, Prog.exec_ret.mpr ⟨rfl, rfl⟩⟩, Prog.exec_ret.mpr ⟨rfl, rfl⟩⟩

/-- The controller right after a write that was sent, with every byte but the last handled. -/
def sent (ec : Ec) (address value : UInt8) : Ec :=
  ((ec.settle.accept (ecCPort, ecCWriteMem)).settle.accept (ecDPort, address)).settle.accept
    (ecDPort, value)

theorem ecWriteMemory_prompt (ec : Ec) (address value : UInt8) :
    (ecWriteMemory address value).Exec device ec 0 (ec.sent address value) :=
  Prog.exec_bind.mpr ⟨0, _, ecSendCommand_prompt ec ecCWriteMem, Prog.exec_bind.mpr
    ⟨0, _, ecSendData_prompt _ address, ecSendData_prompt _ value⟩⟩

/-- A controller that owes a byte can make the next read deliver that byte, whatever cell it asks for. -/
theorem ecReadMemory_stale (ec : Ec) (address : UInt8) {stale : UInt8}
    (howes : ec.settle.core.obf = some stale) :
    ∃ after, (ecReadMemory address).Exec device ec (0, some stale) after :=
  ⟨_, ecReadMemory_requested (ecReceiveData_present .refl
    ((requested_obf ec address).trans howes))⟩

end Ec

/-! ### Whole runs -/

/-- A controller with nothing outstanding. -/
def Ec.idle (mem : UInt8 → UInt8) (obf : Option UInt8) : Ec :=
  { core := { mem, phase := .idle, obf }, latch := none, ibf := none, overruns := 0 }

/-- Every call does to the settled memory what the atomic memory does, and writes no byte over another. -/
theorem callStep_apply {before after : Ec} {call : EcCall × EcReturn}
    (hcall : callStep before call after) :
    after.settle.core.mem = AtomicMemory.apply before.settle.core.mem call ∧
      after.overruns = before.overruns ∧ (call.2.1 = 0 ∨ call.2.1 = eTimedOut) := by
  obtain ⟨call, ret⟩ := call
  cases call with
  | read address =>
      obtain ⟨⟨phase, obf, hafter⟩, hcode, _⟩ := Ec.ecReadMemory_spec hcall
      have hoverruns := congrArg Ec.overruns hafter
      exact ⟨by rw [hafter]; rfl, hoverruns, hcode⟩
  | write address value =>
      obtain ⟨_, middle, hwrite, hret⟩ := Prog.exec_bind.mp hcall
      obtain ⟨rfl, rfl⟩ := Prog.exec_ret.mp hret
      obtain ⟨rfl, phase, hafter⟩ | ⟨rfl, phase, hafter⟩ := Ec.ecWriteMemory_spec hwrite
      · have hoverruns := congrArg Ec.overruns hafter
        exact ⟨by rw [hafter]; rfl, hoverruns, .inl rfl⟩
      · have hoverruns := congrArg Ec.overruns hafter
        exact ⟨by rw [hafter]; rfl, hoverruns, .inr rfl⟩

theorem callStep_write {before after : Ec} {address value : UInt8} {ret : Int}
    (hwrite : (ecWriteMemory address value).Exec Ec.device before ret after) :
    callStep before (.write address value, (ret, none)) after :=
  Prog.exec_bind.mpr ⟨ret, after, hwrite, Prog.exec_ret.mpr ⟨rfl, rfl⟩⟩

theorem run_apply {before after : Ec} {history : List (EcCall × EcReturn)}
    (hrun : Run callStep before history after) :
    after.settle.core.mem = AtomicMemory.applyAll before.settle.core.mem history ∧
      after.overruns = before.overruns := by
  induction hrun with
  | nil => exact ⟨rfl, rfl⟩
  | cons head _ ih =>
      obtain ⟨hmem, hoverruns, _⟩ := callStep_apply head
      exact ⟨by rw [ih.1, hmem]; rfl, ih.2.trans hoverruns⟩

/-- For every delay of the controller, no byte is written while IBF is set, and once the controller has handled everything its memory is the initial one updated, in call order, by the writes that returned 0. -/
theorem ecWriteMemory_refines_atomic {mem : UInt8 → UInt8} {obf : Option UInt8}
    {history : List (EcCall × EcReturn)} {final : Ec}
    (hrun : Run callStep (Ec.idle mem obf) history final) :
    final.overruns = 0 ∧
      (∃ settled, ReflTransGen Ec.Internal final settled ∧
        settled.ibf = none ∧ settled.latch = none) ∧
      ∀ settled, ReflTransGen Ec.Internal final settled →
        settled.ibf = none → settled.latch = none →
          settled.core.mem = AtomicMemory.applyAll mem history := by
  obtain ⟨hmem, hoverruns⟩ := run_apply hrun
  refine ⟨hoverruns, ⟨final.settle, Ec.internal_to_settle final, rfl, rfl⟩, ?_⟩
  intro settled hsteps hibf hlatch
  rw [← Ec.settle_eq_self hlatch hibf, Ec.settle_of_internal hsteps, hmem]
  rfl

/-- A write that is served, one that times out behind it, and a read. -/
theorem ecWriteMemory_refines_atomic_served : ∃ final,
    Run callStep (Ec.idle (fun _ => 0) none)
      [(.write 0xa1 7, (0, none)), (.write 0xa1 9, (eTimedOut, none)), (.read 0xa1, (0, some 7))]
      final ∧
    final.overruns = 0 ∧ final.settle.core.mem 0xa1 = 7 := by
  obtain ⟨final, hread⟩ := Ec.ecReadMemory_prompt ((Ec.idle (fun _ => 0) none).sent 0xa1 7) 0xa1
  have hrun : Run callStep (Ec.idle (fun _ => 0) none)
      [(.write 0xa1 7, (0, none)), (.write 0xa1 9, (eTimedOut, none)), (.read 0xa1, (0, some 7))]
      final :=
    .cons (callStep_write (Ec.ecWriteMemory_prompt _ 0xa1 7))
      (.cons (callStep_write (Ec.ecWriteMemory_gives_up rfl 0xa1 9)) (.single hread))
  obtain ⟨hoverruns, _, hmem⟩ := ecWriteMemory_refines_atomic hrun
  refine ⟨final, hrun, hoverruns, ?_⟩
  rw [hmem final.settle (Ec.internal_to_settle final) rfl rfl]
  rfl

/-- The controller owes the caller of a read no byte: OBF is clear, and no address of an earlier read is still on its way to becoming one. -/
def OwesNothing (ec : Ec) (call : EcCall × EcReturn) : Prop :=
  match call.1 with
  | .read _ => ec.settle.core.obf = none
  | .write _ _ => True

/-- The cells the controller ends with are those of the abstract memory. -/
def Represents (ec : Ec) (mem : AtomicMemory) : Prop := ec.settle.core.mem = mem

/-- With nothing owed at the start of each read, the helpers refine the atomic memory, reads included. -/
theorem guarded_callStep_refines (before : Ec) (call : EcCall × EcReturn) (after : Ec)
    (mem : AtomicMemory) (hrelated : Represents before mem)
    (hcall : Guarded callStep OwesNothing before call after) :
    ∃ mem', AtomicMemory.step mem call mem' ∧ Represents after mem' := by
  obtain ⟨hstep, hnothing⟩ := hcall
  obtain ⟨hmem, _, _⟩ := callStep_apply hstep
  refine ⟨mem.apply call, ⟨rfl, ?_⟩, by rw [Represents, hmem, hrelated]⟩
  intro address byte hsame
  obtain rfl := hsame
  have hread := (Ec.ecReadMemory_spec hstep).2.2 hnothing rfl
  rwa [hrelated] at hread

theorem AtomicMemory.run_eq {mem mem' : AtomicMemory} {history : List (EcCall × EcReturn)}
    (hrun : Run AtomicMemory.step mem history mem') : mem' = mem.applyAll history := by
  induction hrun with
  | nil => rfl
  | cons head _ ih =>
      rw [ih, head.1]
      rfl

/-- In every run whose reads start with no byte owed, a read that returns 0 delivers its cell as the successful writes before it left it. -/
theorem ecReadMemory_right_cell {mem : UInt8 → UInt8} {history : List (EcCall × EcReturn)}
    {final : Ec} (hrun : Run (Guarded callStep OwesNothing) (Ec.idle mem none) history final)
    {past later : List (EcCall × EcReturn)} {address : UInt8} {byte : Option UInt8}
    (hread : history = past ++ (.read address, (0, byte)) :: later) :
    byte = some (AtomicMemory.applyAll mem past address) := by
  have hrelated : Represents (Ec.idle mem none) mem := rfl
  obtain ⟨_, habstract, _⟩ := Run.simulation guarded_callStep_refines hrun hrelated
  rw [hread] at habstract
  obtain ⟨middle, hpast, hrest⟩ := Run.append_iff.mp habstract
  obtain ⟨_, hstep, _⟩ := Run.cons_iff.mp hrest
  rw [hstep.2 address byte rfl, AtomicMemory.run_eq hpast]

/-- A write, one that times out behind it, and a read that delivers what the first has written. -/
theorem ecReadMemory_right_cell_prompt : ∃ final,
    Run (Guarded callStep OwesNothing) (Ec.idle (fun a => a) none)
      [(.write 5 7, (0, none)), (.write 5 9, (eTimedOut, none)), (.read 5, (0, some 7))] final ∧
    (some 7 : Option UInt8) = some (AtomicMemory.applyAll (fun a => a)
      [(.write 5 7, (0, none)), (.write 5 9, (eTimedOut, none))] 5) := by
  obtain ⟨final, hread⟩ := Ec.ecReadMemory_prompt ((Ec.idle (fun a => a) none).sent 5 7) 5
  have hrun : Run (Guarded callStep OwesNothing) (Ec.idle (fun a => a) none)
      [(.write 5 7, (0, none)), (.write 5 9, (eTimedOut, none)), (.read 5, (0, some 7))] final :=
    .cons ⟨callStep_write (Ec.ecWriteMemory_prompt _ 5 7), trivial⟩
      (.cons ⟨callStep_write (Ec.ecWriteMemory_gives_up rfl 5 9), trivial⟩ (.single ⟨hread, rfl⟩))
  exact ⟨final, hrun, ecReadMemory_right_cell hrun rfl⟩

/-- A read that gives up hands its byte to the next read: cell 2 is asked for and cell 1 delivered. -/
theorem ecReadMemory_right_cell_fails : ¬ ∀ (mem : UInt8 → UInt8)
    (history : List (EcCall × EcReturn)) (final : Ec), Run callStep (Ec.idle mem none) history final →
    ∀ past later address byte, history = past ++ (.read address, (0, byte)) :: later →
      byte = some (AtomicMemory.applyAll mem past address) := by
  intro halways
  obtain ⟨middle, hgives, howes⟩ := Ec.ecReadMemory_gives_up (Ec.idle (fun a => a) none) 1 rfl
  obtain ⟨final, hstale⟩ := Ec.ecReadMemory_stale middle 2 howes
  have hrun : Run callStep (Ec.idle (fun a => a) none)
      [(.read 1, (eTimedOut, none)), (.read 2, (0, some 1))] final :=
    .cons hgives (.single hstale)
  have hcell := halways _ _ _ hrun [(.read 1, (eTimedOut, none))] [] 2 (some 1) rfl
  exact absurd hcell (by decide)

end FrontPanel.Sio
