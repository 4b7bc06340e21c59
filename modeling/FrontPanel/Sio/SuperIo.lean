import FrontPanel.Sio.EcContexts
import Mathlib.Data.Nat.Find

/-!
# The write of the beeper

`superio_write_byte` of `ug_sataio_beeper.c`, alone with the ports: what is read from 0x66 and from 0x62 are two endless streams of bytes, and nothing else is known of them. The write repeats until the byte read back is the value, where a beeper may answer 2 for 1. It has no bound: the give-up path of the loop on the status is never taken, and the loop that writes has none.
-/

namespace FrontPanel.Sio

/-- The loop `do … while(tmp != value)`, with `passes` passes to go: `none` is a loop that is not through by then. -/
def superioLoop (value addr : UInt8) : Nat → Prog Ports (Option Int)
  | 0 => return none
  | passes + 1 => do
      superioWrite value addr
      let tmp ← superioReadBack addr
      if superioWritten value addr tmp then return some 0
      else superioLoop value addr passes

/-- The function, given up on after `passes` passes of its second loop. -/
def superioWriteByte (value addr : UInt8) (passes : Nat) : Prog Ports (Option Int) := do
  let ecStatus ← inb ecCPort
  match superioStatusLoop ecStatus 4 with
  | some ret => return some ret
  | none => superioLoop value addr passes

/-! ### The ports -/

/-- How much of the two streams has been read, and the last byte of the second. -/
structure PortsRead where
  status : Nat
  data : Nat
  lastByte : Option UInt8

def PortsRead.start : PortsRead := ⟨0, 0, none⟩

/-- The two ports answer from their streams, and every other one as it likes. -/
def portStreams (status data : Nat → UInt8) (before : PortsRead) (event : Event Ports)
    (after : PortsRead) : Prop :=
  match event with
  | ⟨.inb port, answer⟩ =>
      if port = ecCPort then
        answer = status before.status ∧ after = { before with status := before.status + 1 }
      else if port = ecDPort then
        answer = data before.data ∧
          after = { before with data := before.data + 1, lastByte := some (data before.data) }
      else after = before
  | ⟨.outb _ _, _⟩ => after = before

/-- The byte read back counts as the value: it is the value, or 2 for the 1 of a beeper. -/
def CountsAs (value addr byte : UInt8) : Prop :=
  byte = value ∨ ((addr = beeperAdr6011 ∨ addr = beeperAdr6011Pro) ∧ byte = 2 ∧ value = 1)

theorem superioWritten_iff (value addr tmp : UInt8) :
    superioWritten value addr tmp = true ↔ CountsAs value addr tmp := by
  rw [superioWritten, CountsAs, decide_eq_true_iff]
  split
  · next htwo =>
    obtain ⟨haddr, rfl, rfl⟩ := htwo
    exact iff_of_true rfl (.inr ⟨haddr, rfl, rfl⟩)
  · next htwo => rw [or_iff_left htwo]

section Streams

variable {status data : Nat → UInt8} {value addr : UInt8} {passes : Nat}
  {before after : PortsRead}

section Access

variable {Result : Type} {result : Result}

theorem exec_outb {byte : UInt8} {port : UInt16} {rest : Unit → Prog Ports Result} :
    (Prog.call (S := Ports) (.outb byte port) rest).Exec (portStreams status data) before result
        after ↔ (rest ()).Exec (portStreams status data) before result after := by
  rw [Prog.exec_call]
  constructor
  · intro hexec
    obtain ⟨_, _, rfl, hrest⟩ := hexec
    exact hrest
  · intro hrest
    exact ⟨(), before, rfl, hrest⟩

theorem exec_inb_status {rest : UInt8 → Prog Ports Result} :
    (Prog.call (S := Ports) (.inb ecCPort) rest).Exec (portStreams status data) before result
        after ↔
      (rest (status before.status)).Exec (portStreams status data)
        { before with status := before.status + 1 } result after := by
  rw [Prog.exec_call]
  constructor
  · intro hexec
    obtain ⟨_, _, ⟨rfl, rfl⟩, hrest⟩ := hexec
    exact hrest
  · intro hrest
    exact ⟨_, _, ⟨rfl, rfl⟩, hrest⟩

theorem exec_inb_data {rest : UInt8 → Prog Ports Result} :
    (Prog.call (S := Ports) (.inb ecDPort) rest).Exec (portStreams status data) before result
        after ↔
      (rest (data before.data)).Exec (portStreams status data)
        { before with data := before.data + 1, lastByte := some (data before.data) } result
        after := by
  rw [Prog.exec_call]
  constructor
  · intro hexec
    obtain ⟨_, _, ⟨rfl, rfl⟩, hrest⟩ := hexec
    exact hrest
  · intro hrest
    exact ⟨_, _, ⟨rfl, rfl⟩, hrest⟩

end Access

theorem exec_superioLoop_succ {ret : Option Int} :
    (superioLoop value addr (passes + 1)).Exec (portStreams status data) before ret after ↔
      (if superioWritten value addr (data before.data) then return some 0
        else superioLoop value addr passes : Prog Ports (Option Int)).Exec (portStreams status data)
        { before with data := before.data + 1, lastByte := some (data before.data) } ret after := by
  rw [superioLoop, superioWrite, superioReadBack]
  simp only [outb_bind, Prog.call_bind, exec_outb]
  exact exec_inb_data

theorem exists_first_succ {holds : Nat → Bool} {Good : Nat → Prop} :
    (∃ n < passes + 1, holds n = true ∧ (∀ m < n, holds m = false) ∧ Good n) ↔
      (holds 0 = true ∧ Good 0) ∨
      (holds 0 = false ∧
        ∃ n < passes, holds (n + 1) = true ∧ (∀ m < n, holds (m + 1) = false) ∧ Good (n + 1)) := by
  constructor
  · intro hgiven
    obtain ⟨n, hn, hholds, hfirst, hgood⟩ := hgiven
    cases n with
    | zero => exact .inl ⟨hholds, hgood⟩
    | succ n =>
        exact .inr ⟨hfirst 0 (Nat.succ_pos n), n, Nat.lt_of_succ_lt_succ hn, hholds,
          fun m hm => hfirst (m + 1) (Nat.succ_lt_succ hm), hgood⟩
  · intro hgiven
    obtain ⟨hholds, hgood⟩ | ⟨hnot, n, hn, hholds, hfirst, hgood⟩ := hgiven
    · exact ⟨0, Nat.succ_pos passes, hholds, fun m hm => absurd hm (Nat.not_lt_zero m), hgood⟩
    · refine ⟨n + 1, Nat.succ_lt_succ hn, hholds, ?_, hgood⟩
      intro m hm
      cases m with
      | zero => exact hnot
      | succ m => exact hfirst m (Nat.lt_of_succ_lt_succ hm)

/-- The loop is through with the first byte that compares equal. -/
theorem exec_superioLoop_iff {ret : Int} :
    (superioLoop value addr passes).Exec (portStreams status data) before (some ret) after ↔
      ret = 0 ∧ ∃ n < passes,
        superioWritten value addr (data (before.data + n)) = true ∧
        (∀ m < n, superioWritten value addr (data (before.data + m)) = false) ∧
        after = { before with
          data := before.data + n + 1
          lastByte := some (data (before.data + n)) } := by
  induction passes generalizing before with
  | zero =>
      rw [superioLoop, Prog.pure_eq_ret, Prog.exec_ret]
      constructor
      · intro hexec
        cases hexec.1
      · intro hgiven
        obtain ⟨-, n, hn, -⟩ := hgiven
        exact absurd hn (Nat.not_lt_zero n)
  | succ passes ih =>
      rw [exec_superioLoop_succ, exists_first_succ]
      cases hwritten : superioWritten value addr (data before.data) with
      | true =>
          rw [if_pos rfl, Prog.pure_eq_ret, Prog.exec_ret]
          constructor
          · intro hexec
            obtain ⟨hret, hafter⟩ := hexec
            exact ⟨Option.some.inj hret, .inl ⟨rfl, hafter⟩⟩
          · intro hgiven
            obtain ⟨rfl, ⟨-, hafter⟩ | ⟨hnot, -⟩⟩ := hgiven
            · exact ⟨rfl, hafter⟩
            · cases hnot
      | false =>
          have hshift : ∀ n, before.data + 1 + n = before.data + (n + 1) := fun n =>
            Nat.add_right_comm _ 1 n
          rw [if_neg Bool.false_ne_true, ih]
          simp only [hshift]
          constructor
          · intro hgiven
            obtain ⟨hret, hlater⟩ := hgiven
            exact ⟨hret, .inr ⟨trivial, hlater⟩⟩
          · intro hgiven
            obtain ⟨hret, ⟨hyes, -⟩ | ⟨-, hlater⟩⟩ := hgiven
            · cases hyes
            · exact ⟨hret, hlater⟩

/-- The status that is read first decides nothing. -/
theorem exec_superioWriteByte_iff {ret : Option Int} :
    (superioWriteByte value addr passes).Exec (portStreams status data) before ret after ↔
      (superioLoop value addr passes).Exec (portStreams status data)
        { before with status := before.status + 1 } ret after := by
  rw [superioWriteByte]
  simp only [inb_bind, superioStatusLoop_none]
  exact exec_inb_status

end Streams

/-! ### The end of the write -/

/-- The function returns 0 or -1 after finitely many accesses, and 0 only if the last byte read back counts as the value. -/
def Ends (value addr : UInt8) (status data : Nat → UInt8) : Prop :=
  ∃ passes ret after,
    (superioWriteByte value addr passes).Exec (portStreams status data) .start (some ret) after ∧
    (ret = 0 ∨ ret = -1) ∧
    (ret = 0 → ∃ byte, after.lastByte = some byte ∧ CountsAs value addr byte)

theorem superioWriteByte_ends_iff (value addr : UInt8) (status data : Nat → UInt8) :
    Ends value addr status data ↔ ∃ n, CountsAs value addr (data n) := by
  constructor
  · intro hends
    obtain ⟨passes, ret, after, hexec, -, -⟩ := hends
    rw [exec_superioWriteByte_iff, exec_superioLoop_iff] at hexec
    obtain ⟨-, n, -, hlast, -⟩ := hexec
    exact ⟨_, (superioWritten_iff _ _ _).mp hlast⟩
  · intro hcounts
    have hwritten : ∃ n, superioWritten value addr (data n) = true := by
      obtain ⟨n, hn⟩ := hcounts
      exact ⟨n, (superioWritten_iff _ _ _).mpr hn⟩
    have hfirst : ∀ m < Nat.find hwritten, superioWritten value addr (data (0 + m)) = false := by
      intro m hm
      rw [Nat.zero_add]
      exact Bool.eq_false_iff.mpr (Nat.find_min hwritten hm)
    have hlast : superioWritten value addr (data (0 + Nat.find hwritten)) = true := by
      rw [Nat.zero_add]
      exact Nat.find_spec hwritten
    exact ⟨Nat.find hwritten + 1, 0, _,
      exec_superioWriteByte_iff.mpr (exec_superioLoop_iff.mpr
        ⟨rfl, _, Nat.lt_succ_self _, hlast, hfirst, rfl⟩),
      .inl rfl, fun _ => ⟨_, rfl, (superioWritten_iff _ _ _).mp hlast⟩⟩

/-- The beeper is switched on, and the controller always answers 0. -/
theorem superioWriteByte_never_ends : ¬ ∀ (value addr : UInt8) (status data : Nat → UInt8),
    Ends value addr status data := by
  intro halways
  obtain ⟨passes, ret, after, hexec, -, -⟩ := halways 1 beeperAdr6011 (fun _ => 0) fun _ => 0
  rw [exec_superioWriteByte_iff, exec_superioLoop_iff] at hexec
  obtain ⟨-, n, -, hlast, -⟩ := hexec
  exact absurd hlast (by decide)

end FrontPanel.Sio
