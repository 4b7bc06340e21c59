import FrontPanel.Lib.Prog
import Mathlib.Logic.Function.Basic

/-!
# Routines under one lock

Any number of threads call routines of one device at once, interleaved access by access. Some of the routines take a lock before their first access and give it back after their last, others take none. As long as no routine that takes no lock runs beside another one, the threads do what their routines do one at a time, in the order in which they end: between two of them the device is where the ones that have ended leave it, and what is left of a routine goes on from there.
-/

namespace FrontPanel

/-- The device, the thread that holds the lock, the call that each thread is in with what is left of it, and the calls that have ended with what each returned. -/
structure Locked (S : Interface) (State Call Value : Type) where
  state : State
  owner : Option Nat
  running : Nat → Option (Call × Prog S Value)
  ended : List (Call × Value)

namespace Locked

variable {S : Interface} {State Call Value : Type}

/-- A thread enters a call, makes the next access of the call that it is in, or leaves it. -/
inductive Label (Call : Type)
  | enter (thread : Nat) (call : Call)
  | access (thread : Nat)
  | leave (thread : Nat)

def start (state : State) : Locked S State Call Value := ⟨state, none, fun _ => none, []⟩

/-- No thread is in a call. -/
def Free (s : Locked S State Call Value) : Prop := ∀ thread, s.running thread = none

inductive Step (device : State → Event S → State → Prop) (body : Call → Prog S Value)
    (locks : Call → Bool) :
    Locked S State Call Value → Label Call → Locked S State Call Value → Prop
  | enter {s : Locked S State Call Value} {thread : Nat} (call : Call)
      (hat : s.running thread = none) (hlock : locks call = true → s.owner = none) :
      Step device body locks s (.enter thread call)
        { s with
          owner := if locks call then some thread else s.owner
          running := Function.update s.running thread (some (call, body call)) }
  | access {s : Locked S State Call Value} {thread : Nat} {call : Call} {op : S.Op}
      {next : S.Answer op → Prog S Value} {answer : S.Answer op} {state : State}
      (hat : s.running thread = some (call, .call op next))
      (hdevice : device s.state ⟨op, answer⟩ state) :
      Step device body locks s (.access thread)
        { s with state, running := Function.update s.running thread (some (call, next answer)) }
  | leave {s : Locked S State Call Value} {thread : Nat} {call : Call} {value : Value}
      (hat : s.running thread = some (call, .ret value)) :
      Step device body locks s (.leave thread)
        { s with
          owner := if locks call then none else s.owner
          running := Function.update s.running thread none
          ended := s.ended ++ [(call, value)] }

/-- No call begins beside another one unless both take the lock. -/
def Apart (locks : Call → Bool) (s : Locked S State Call Value) : Label Call → Prop
  | .enter _ call => ∀ other call' program, s.running other = some (call', program) →
      locks call = true ∧ locks call' = true
  | _ => True

/-- A whole call, made while no other one is. -/
def Whole (device : State → Event S → State → Prop) (body : Call → Prog S Value) (before : State)
    (record : Call × Value) (after : State) : Prop :=
  (body record.1).Exec device before record.2 after

/-- What holds of threads that keep apart: at most one is in a call, and `quiet` is where the calls that have ended leave the device. -/
structure Serial (device : State → Event S → State → Prop) (body : Call → Prog S Value)
    (locks : Call → Bool) (first quiet : State) (s : Locked S State Call Value) : Prop where
  ended : Run (Whole device body) first s.ended quiet
  owner : ∀ thread call program, s.running thread = some (call, program) → locks call = true →
    s.owner = some thread
  single : ∀ thread other, s.running thread ≠ none → s.running other ≠ none → thread = other
  free : s.Free → s.state = quiet
  inside : ∀ thread call program, s.running thread = some (call, program) →
    ∀ value after, program.Exec device s.state value after →
      (body call).Exec device quiet value after

section Run

variable {device : State → Event S → State → Prop} {body : Call → Prog S Value}
  {locks : Call → Bool} {first quiet : State} {s next : Locked S State Call Value}
  {label : Label Call}

theorem Serial.free_of_enter (hserial : Serial device body locks first quiet s) {thread : Nat}
    {call : Call} (hlock : locks call = true → s.owner = none)
    (hapart : Apart locks s (.enter thread call)) : s.Free := by
  intro other
  by_contra hrunning
  obtain ⟨⟨call', program⟩, hother⟩ := Option.ne_none_iff_exists'.mp hrunning
  obtain ⟨hcall, hcall'⟩ := hapart other call' program hother
  have howner := hserial.owner other call' program hother hcall'
  rw [hlock hcall] at howner
  cases howner

theorem Serial.others (hserial : Serial device body locks first quiet s) {thread other : Nat}
    (hat : s.running thread ≠ none) (hne : other ≠ thread) : s.running other = none := by
  by_contra hrunning
  exact hne (hserial.single other thread hrunning hat)

theorem serial_of_alone {state : State} {owner : Option Nat} {ended : List (Call × Value)}
    {running : Nat → Option (Call × Prog S Value)} {thread : Nat} {call : Call}
    {program : Prog S Value} (hended : Run (Whole device body) first ended quiet)
    (hothers : ∀ other, other ≠ thread → running other = none)
    (howner : locks call = true → owner = some thread)
    (hinside : ∀ value after, program.Exec device state value after →
      (body call).Exec device quiet value after) :
    Serial device body locks first quiet
      ⟨state, owner, Function.update running thread (some (call, program)), ended⟩ := by
  have hthread : ∀ other, Function.update running thread (some (call, program)) other ≠ none →
      other = thread := by
    intro other hother
    by_contra hne
    rw [Function.update_of_ne hne] at hother
    exact hother (hothers other hne)
  have hsame : ∀ other call' program',
      Function.update running thread (some (call, program)) other = some (call', program') →
      other = thread ∧ call' = call ∧ program' = program := by
    intro other call' program' hother
    obtain rfl := hthread other (hother ▸ Option.some_ne_none _)
    rw [Function.update_self] at hother
    obtain ⟨rfl, rfl⟩ := Prod.mk.inj (Option.some.inj hother)
    exact ⟨rfl, rfl, rfl⟩
  refine ⟨hended, ?_, ?_, ?_, ?_⟩
  · intro other call' program' hother hlocks
    obtain ⟨rfl, rfl, -⟩ := hsame other call' program' hother
    exact howner hlocks
  · intro t u ht hu
    rw [hthread t ht, hthread u hu]
  · intro hfree
    have hnone : Function.update running thread (some (call, program)) thread = none := hfree thread
    rw [Function.update_self] at hnone
    cases hnone
  · intro other call' program' hother
    obtain ⟨-, rfl, rfl⟩ := hsame other call' program' hother
    exact hinside

theorem serial_of_free {state : State} {owner : Option Nat} {ended : List (Call × Value)}
    {running : Nat → Option (Call × Prog S Value)}
    (hended : Run (Whole device body) first ended state) (hnone : ∀ other, running other = none) :
    Serial device body locks first state ⟨state, owner, running, ended⟩ := by
  refine ⟨hended, ?_, ?_, fun _ => rfl, ?_⟩
  · intro other call program hother
    exact absurd ((hnone other).symm.trans hother) (Option.some_ne_none _).symm
  · intro t _ ht
    exact absurd (hnone t) ht
  · intro other call program hother
    exact absurd ((hnone other).symm.trans hother) (Option.some_ne_none _).symm

theorem Serial.step (hserial : Serial device body locks first quiet s)
    (hstep : Guarded (Step device body locks) (Apart locks) s label next) :
    ∃ quiet', Serial device body locks first quiet' next := by
  obtain ⟨hstep, hapart⟩ := hstep
  cases hstep with
  | @enter thread call hat hlock =>
      have hfree := hserial.free_of_enter hlock hapart
      refine ⟨quiet, serial_of_alone hserial.ended (fun other _ => hfree other)
        (fun hlocks => if_pos hlocks) fun value after hexec => ?_⟩
      rw [← hserial.free hfree]
      exact hexec
  | @access thread call op rest answer state hat hdevice =>
      have hin : s.running thread ≠ none := hat ▸ Option.some_ne_none _
      exact ⟨quiet, serial_of_alone hserial.ended (fun other => hserial.others hin)
        (hserial.owner thread call _ hat) fun value after hexec =>
          hserial.inside thread call _ hat value after
            (Prog.exec_call.mpr ⟨answer, state, hdevice, hexec⟩)⟩
  | @leave thread call value hat =>
      have hin : s.running thread ≠ none := hat ▸ Option.some_ne_none _
      have hwhole : Whole device body quiet (call, value) s.state :=
        hserial.inside thread call _ hat value s.state (Prog.exec_ret.mpr ⟨rfl, rfl⟩)
      refine ⟨s.state, serial_of_free (hserial.ended.append (.single hwhole)) fun other => ?_⟩
      by_cases hsame : other = thread
      · rw [hsame, Function.update_self]
      · rw [Function.update_of_ne hsame]
        exact hserial.others hin hsame

/-- Threads that keep apart do what their calls do one at a time, in the order in which they end. -/
theorem serial_of_run {labels : List (Label Call)}
    (hrun : Run (Guarded (Step device body locks) (Apart locks)) (start first) labels s) :
    ∃ quiet, Serial device body locks first quiet s := by
  let Inv (s : Locked S State Call Value) : Prop := ∃ quiet, Serial device body locks first quiet s
  have hstep : ∀ before label after, Inv before →
      Guarded (Step device body locks) (Apart locks) before label after → Inv after := by
    intro before label after hbefore hstep
    obtain ⟨quiet, hserial⟩ := hbefore
    exact hserial.step hstep
  have hlast : Inv s := hrun.invariant hstep ⟨first, serial_of_free (.nil _) fun _ => rfl⟩
  exact hlast

end Run

/-! ### Runs that exist -/

section Exists

variable {device : State → Event S → State → Prop} {body : Call → Prog S Value}
  {locks : Call → Bool} {before after : State}

theorem run_of_part {Part : Type} {part : Prog S Part} {rest : Part → Prog S Value} {value : Part}
    {s : Locked S State Call Value} {thread : Nat} {call : Call}
    (hat : s.running thread = some (call, part >>= rest))
    (hexec : part.Exec device s.state value after) :
    ∃ labels, Run (Guarded (Step device body locks) (Apart locks)) s labels
      { s with
        state := after
        running := Function.update s.running thread (some (call, rest value)) } := by
  induction part generalizing s with
  | ret returned =>
      obtain ⟨rfl, rfl⟩ := Prog.exec_ret.mp hexec
      have hsame : Function.update s.running thread (some (call, rest value)) = s.running := by
        rw [← Function.update_eq_self thread s.running, hat, Function.update_idem]
        rfl
      rw [hsame]
      exact ⟨[], .nil _⟩
  | call op next ih =>
      obtain ⟨answer, middle, hdevice, hexec⟩ := Prog.exec_call.mp hexec
      let s' : Locked S State Call Value := { s with
        state := middle
        running := Function.update s.running thread (some (call, next answer >>= rest)) }
      have hstep : Step device body locks s (.access thread) s' := .access hat hdevice
      have hat' : s'.running thread = some (call, next answer >>= rest) := Function.update_self _ _ _
      obtain ⟨labels, hrun⟩ := ih answer hat' hexec
      have hlast : Function.update s'.running thread (some (call, rest value)) =
          Function.update s.running thread (some (call, rest value)) := Function.update_idem _ _ _
      rw [hlast] at hrun
      exact ⟨.access thread :: labels, .cons ⟨hstep, trivial⟩ hrun⟩

end Exists

end Locked

end FrontPanel
