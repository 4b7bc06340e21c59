import FrontPanel.Lib.Bytes
import FrontPanel.Sio.EcContexts

/-!
# The watchdog

`wdt_start` and what it calls in `ug_it55pro_functions.c`. The period goes to the controller as two bytes, then the watchdog is switched on; each of the three calls of `ec_write_memory` may time out, and one that does stores nothing. Only the code of the last one is returned, so a period byte that was not stored goes unnoticed, and the watchdog runs with the byte that was there.
-/

namespace FrontPanel.Sio

/-- The calls of `it55_helper.c`, each answered with its return code and, for a read, the byte. -/
abbrev EcCalls : Interface where
  Op := EcCall
  Answer := fun call =>
    match call with
    | .read _ => EcReturn
    | .write _ _ => Int

/-- A call that returned 0 has done its work, one that did not has done nothing. -/
def AtomicMemory.served (before : AtomicMemory) : Event EcCalls → AtomicMemory → Prop
  | ⟨.read address, answer⟩, after => before.step (.read address, answer) after
  | ⟨.write address value, ret⟩, after => before.step (.write address value, (ret, none)) after

def minTimeout : Nat := 1
def maxTimeout : Nat := 10000

/-- The watchdog core accepts only periods between the two limits, and `it55_wdt_init` starts with one. -/
structure WatchdogDevice where
  timeout : BitVec 32
  min : minTimeout ≤ timeout.toNat
  max : timeout.toNat ≤ maxTimeout

/-- `(u8)((value & 0xff00) >> 8)` -/
def timeMsb (value : BitVec 32) : UInt8 := .ofBitVec ((value &&& 0xff00#32) >>> 8 |>.setWidth 8)

/-- `value & 0xff` -/
def timeLsb (value : BitVec 32) : UInt8 := .ofBitVec ((value &&& 0xff#32).setWidth 8)

def wdtSetWatchdogSwitch (on : UInt8) : Prog EcCalls Int :=
  .access EcCalls (.write ecIt55WdtSwitch on)

def wdtUpdate (value : BitVec 32) : Prog EcCalls Int := do
  let _ ← Prog.access EcCalls (.write ecIt55WdtTimeMsb (timeMsb value))
  let _ ← Prog.access EcCalls (.write ecIt55WdtTimeLsb (timeLsb value))
  return 0

def wdtStart (wdd : WatchdogDevice) : Prog EcCalls Int := do
  let _ ← wdtUpdate wdd.timeout
  let ret ← wdtSetWatchdogSwitch 1
  return ret

/-- What `wdt_get_counter` makes of the two bytes it reads. -/
def wdtCounter (tmp1 tmp2 : UInt8) : Nat :=
  ((tmp1.toNat <<< 8) &&& 0xff00) ||| (tmp2.toNat &&& 0xff)

/-- The accesses of `wdt_start`, with the codes of its three calls. -/
def wdtStartEvents (wdd : WatchdogDevice) (msb lsb switch : Int) : List (Event EcCalls) :=
  [⟨.write ecIt55WdtTimeMsb (timeMsb wdd.timeout), msb⟩,
    ⟨.write ecIt55WdtTimeLsb (timeLsb wdd.timeout), lsb⟩,
    ⟨.write ecIt55WdtSwitch 1, switch⟩]

/-- Whatever fails, all three calls are made, and the code of the last one is returned. -/
theorem wdtStart_trace_iff {wdd : WatchdogDevice} {events : List (Event EcCalls)} {ret : Int} :
    (wdtStart wdd).Trace events ret ↔
      ∃ msb lsb, events = wdtStartEvents wdd msb lsb ret := by
  constructor
  · intro htrace
    obtain ⟨msb, _, rfl, lsb, _, rfl, switch, _, rfl, rfl, rfl⟩ := htrace
    exact ⟨msb, lsb, rfl⟩
  · intro hgiven
    obtain ⟨msb, lsb, rfl⟩ := hgiven
    exact ⟨msb, _, rfl, lsb, _, rfl, ret, _, rfl, rfl, rfl⟩

/-- They are the calls the handler makes between taking and giving back the ports. -/
theorem wdtStart_calls {wdd : WatchdogDevice} {events : List (Event EcCalls)} {ret : Int}
    (htrace : (wdtStart wdd).Trace events ret) :
    events.map Event.op = (SioHandler.wdtStart wdd.timeout).calls := by
  obtain ⟨msb, lsb, rfl⟩ := wdtStart_trace_iff.mp htrace
  rfl

/-! ### The counter bytes -/

theorem wdtCounter_eq (tmp1 tmp2 : UInt8) : wdtCounter tmp1 tmp2 = tmp1.toNat * 256 + tmp2.toNat := by
  have hlow : tmp2.toNat &&& 0xff = tmp2.toNat := by
    rw [show 0xff = 2 ^ 8 - 1 from rfl, Nat.and_two_pow_sub_one_eq_mod]
    exact Nat.mod_eq_of_lt tmp2.toNat_lt
  have hhigh : (tmp1.toNat <<< 8) &&& 0xff00 = tmp1.toNat <<< 8 := by
    rw [show 0xff00 = 0xff <<< 8 from rfl, ← Nat.shiftLeft_and_distrib,
      show 0xff = 2 ^ 8 - 1 from rfl, Nat.and_two_pow_sub_one_eq_mod,
      Nat.mod_eq_of_lt tmp1.toNat_lt]
  rw [wdtCounter, hlow, hhigh, or_shift_byte]

theorem timeMsb_eq (value : BitVec 32) : timeMsb value = byteAt value 1 := rfl

theorem timeLsb_eq (value : BitVec 32) : timeLsb value = byteAt value 0 := rfl

theorem time_toNat (wdd : WatchdogDevice) :
    wdd.timeout.toNat = (timeMsb wdd.timeout).toNat * 256 + (timeLsb wdd.timeout).toNat := by
  have hmax : wdd.timeout.toNat ≤ 10000 := wdd.max
  rw [timeMsb_eq, timeLsb_eq, byteAt_toNat _ (by decide), byteAt_toNat _ (by decide),
    Nat.shiftRight_eq_div_pow, Nat.shiftRight_eq_div_pow]
  omega

theorem wdtCounter_eq_iff (wdd : WatchdogDevice) (tmp1 tmp2 : UInt8) :
    wdtCounter tmp1 tmp2 = wdd.timeout.toNat ↔
      tmp1 = timeMsb wdd.timeout ∧ tmp2 = timeLsb wdd.timeout := by
  have hbyte := tmp2.toNat_lt
  have hlsb := (timeLsb wdd.timeout).toNat_lt
  rw [wdtCounter_eq, time_toNat, ← UInt8.toNat_inj, ← UInt8.toNat_inj]
  omega

/-! ### Arming -/

theorem write_served {before after : AtomicMemory} {address value : UInt8} {ret : Int}
    (hserved : before.served ⟨.write address value, ret⟩ after) :
    after = if ret = 0 then Function.update before address value else before :=
  hserved.1

/-- The counter and the switch say that the watchdog runs with the period. -/
def Armed (wdd : WatchdogDevice) (mem : AtomicMemory) : Prop :=
  wdtCounter (mem ecIt55WdtTimeMsb) (mem ecIt55WdtTimeLsb) = wdd.timeout.toNat ∧
    mem ecIt55WdtSwitch = 1

theorem wdtStart_cells {wdd : WatchdogDevice} {before after : AtomicMemory} {msb lsb switch : Int}
    (hrun : Run AtomicMemory.served before (wdtStartEvents wdd msb lsb switch) after) :
    after ecIt55WdtTimeMsb =
        (if msb = 0 then timeMsb wdd.timeout else before ecIt55WdtTimeMsb) ∧
      after ecIt55WdtTimeLsb =
        (if lsb = 0 then timeLsb wdd.timeout else before ecIt55WdtTimeLsb) ∧
      after ecIt55WdtSwitch = (if switch = 0 then 1 else before ecIt55WdtSwitch) := by
  obtain ⟨first, hmsb, hrest⟩ := Run.cons_iff.mp hrun
  obtain ⟨second, hlsb, hrest⟩ := Run.cons_iff.mp hrest
  obtain ⟨third, hswitch, hrest⟩ := Run.cons_iff.mp hrest
  rw [Run.nil_iff.mp hrest, write_served hswitch, write_served hlsb, write_served hmsb]
  refine ⟨?_, ?_, ?_⟩
  · split <;> split <;> split <;> rfl
  · split <;> split <;> split <;> rfl
  · split <;> split <;> split <;> rfl

/-- For every pattern of failures, a start that returns 0 has armed the watchdog with its period exactly if each counter byte that could not be stored was there already. -/
theorem wdtStart_arms {wdd : WatchdogDevice} {before after : AtomicMemory} {msb lsb switch ret : Int}
    (htrace : (wdtStart wdd).Trace (wdtStartEvents wdd msb lsb switch) ret)
    (hrun : Run AtomicMemory.served before (wdtStartEvents wdd msb lsb switch) after) :
    (ret = 0 → Armed wdd after) ↔
      (switch = 0 → (msb = 0 ∨ before ecIt55WdtTimeMsb = timeMsb wdd.timeout) ∧
        (lsb = 0 ∨ before ecIt55WdtTimeLsb = timeLsb wdd.timeout)) := by
  have hret : ret = switch := by
    obtain ⟨_, _, hevents⟩ := wdtStart_trace_iff.mp htrace
    simp only [wdtStartEvents, List.cons.injEq, Event.mk.injEq, heq_eq_eq, true_and] at hevents
    exact hevents.2.2.1.symm
  obtain ⟨hmsb, hlsb, hswitch⟩ := wdtStart_cells hrun
  rw [hret]
  apply imp_congr_right
  intro hzero
  rw [Armed, wdtCounter_eq_iff, hmsb, hlsb, hswitch, if_pos hzero]
  simp only [ite_eq_left_iff, and_true]
  exact and_congr or_iff_not_imp_left.symm or_iff_not_imp_left.symm

/-- The default period of ten minutes. -/
def defaultTimeout : WatchdogDevice where
  timeout := 600
  min := by decide
  max := by decide

theorem exists_served (wdd : WatchdogDevice) (before : AtomicMemory) (msb lsb switch : Int) :
    ∃ after, (wdtStart wdd).Trace (wdtStartEvents wdd msb lsb switch) switch ∧
      Run AtomicMemory.served before (wdtStartEvents wdd msb lsb switch) after :=
  ⟨_, wdtStart_trace_iff.mpr ⟨msb, lsb, rfl⟩,
    .cons ⟨rfl, nofun⟩ <| .cons ⟨rfl, nofun⟩ <| .single ⟨rfl, nofun⟩⟩

/-- Nothing fails. -/
theorem wdtStart_arms_default : ∃ after,
    Run AtomicMemory.served (fun _ => 0xff) (wdtStartEvents defaultTimeout 0 0 0) after ∧
      Armed defaultTimeout after := by
  obtain ⟨after, htrace, hrun⟩ := exists_served defaultTimeout (fun _ => 0xff) 0 0 0
  exact ⟨after, hrun, (wdtStart_arms htrace hrun).mpr (fun _ => ⟨.inl rfl, .inl rfl⟩) rfl⟩

/-- The high byte is not stored, and ten minutes become 10072 seconds. -/
theorem wdtStart_arms_wrong : ¬ ∀ (wdd : WatchdogDevice) (before after : AtomicMemory)
    (msb lsb switch ret : Int),
    (wdtStart wdd).Trace (wdtStartEvents wdd msb lsb switch) ret →
      Run AtomicMemory.served before (wdtStartEvents wdd msb lsb switch) after →
        ret = 0 → Armed wdd after := by
  intro halways
  obtain ⟨after, htrace, hrun⟩ := exists_served defaultTimeout (fun _ => 0x27) eTimedOut 0 0
  have hcounter := (halways defaultTimeout _ after _ _ _ _ htrace hrun rfl).1
  obtain ⟨hmsb, hlsb, _⟩ := wdtStart_cells hrun
  rw [hmsb, hlsb] at hcounter
  exact absurd hcounter (by decide)

end FrontPanel.Sio
