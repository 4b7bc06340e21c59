import FrontPanel.Lib.Locked
import FrontPanel.Lib.Threads

/-!
# Routines with a critical section

Any number of threads call routines of one machine at once, interleaved access by access, and there is one mutex. A routine uses a device only while it has the mutex, which it takes at most once and gives back with its last access. Before and within that it may use memory that the others use as well, without a lock; `rely` is what any access may do to it. Where a routine, whatever the others do, makes of the device what another routine says that has the device to itself, the threads do what those routines do one at a time, in the order in which the calls end.
-/

namespace FrontPanel

inductive CriticalOp (S : Interface)
  | lock
  | unlock
  | op (op : S.Op)

abbrev Critical (S : Interface) : Interface where
  Op := CriticalOp S
  Answer := fun op =>
    match op with
    | .lock => Unit
    | .unlock => Unit
    | .op op => S.Answer op

/-- The machine, and the thread that has the mutex. -/
structure Mutexed (State : Type) where
  state : State
  owner : Option Nat

namespace Critical

variable {S T : Interface} {State View Call Value : Type}

abbrev System (S : Interface) (State Call Value : Type) : Type :=
  Threads (Critical S) (Mutexed State) Call Value

inductive Step (machine : State → Event S → State → Prop) (body : Call → Prog (Critical S) Value) :
    System S State Call Value → Threads.Label Call → System S State Call Value → Prop
  | enter {s : System S State Call Value} {thread : Nat} (call : Call)
      (hat : s.running thread = none) :
      Step machine body s (.enter thread call) (s.goOn thread call s.state (body call))
  | lock {s : System S State Call Value} {thread : Nat} {call : Call}
      {next : Unit → Prog (Critical S) Value}
      (hat : s.running thread = some (call, .call .lock next)) (hfree : s.state.owner = none) :
      Step machine body s (.access thread)
        (s.goOn thread call ⟨s.state.state, some thread⟩ (next ()))
  | unlock {s : System S State Call Value} {thread : Nat} {call : Call}
      {next : Unit → Prog (Critical S) Value}
      (hat : s.running thread = some (call, .call .unlock next)) :
      Step machine body s (.access thread)
        (s.goOn thread call ⟨s.state.state, none⟩ (next ()))
  | access {s : System S State Call Value} {thread : Nat} {call : Call} {op : S.Op}
      {next : S.Answer op → Prog (Critical S) Value} {answer : S.Answer op} {state : State}
      (hat : s.running thread = some (call, .call (.op op) next))
      (hmachine : machine s.state.state ⟨op, answer⟩ state) :
      Step machine body s (.access thread)
        (s.goOn thread call ⟨state, s.state.owner⟩ (next answer))

section Rule

variable (machine : State → Event S → State → Prop) (view : State → View)
  (rely : State → State → Prop) (device : View → Event T → View → Prop)

/-- What is left of a routine that has the mutex: each access does to the device what the next one of `rest` does, or leaves the device alone, and the last gives the mutex back. -/
def Within : Prog (Critical S) Value → Prog T Value → State → Prop
  | .ret _, _, _ => False
  | .call .lock _, _, _ => False
  | .call .unlock next, rest, _ => ∃ value, next () = .ret value ∧ rest = .ret value
  | .call (.op op) next, rest, before => ∀ state, rely before state →
      ∀ answer after, machine state ⟨op, answer⟩ after → rely state after ∧
        (view after = view state ∧ Within (next answer) rest after ∨
          ∃ op' next' answer', rest = .call op' next' ∧
            device (view state) ⟨op', answer'⟩ (view after) ∧
            Within (next answer) (next' answer') after)

/-- What is left of a routine that has not taken the mutex: it leaves the device alone. -/
def Before : Prog (Critical S) Value → Prog T Value → State → Prop
  | .ret value, rest, _ => rest = .ret value
  | .call .lock next, rest, before => ∀ state, rely before state →
      Within machine view rely device (next ()) rest state
  | .call .unlock _, _, _ => False
  | .call (.op op) next, rest, before => ∀ state, rely before state →
      ∀ answer after, machine state ⟨op, answer⟩ after →
        rely state after ∧ view after = view state ∧ Before (next answer) rest after

end Rule

variable {machine : State → Event S → State → Prop} {view : State → View}
  {rely : State → State → Prop} {device : View → Event T → View → Prop}
  {body : Call → Prog (Critical S) Value} {spec : Call → Prog T Value} {first before after : State}
  {program : Prog (Critical S) Value} {rest : Prog T Value}

theorem Within.mono (htrans : ∀ a b c : State, rely a b → rely b c → rely a c)
    (hwithin : Within machine view rely device program rest before) (hrely : rely before after) :
    Within machine view rely device program rest after := by
  match program, hwithin with
  | .call .unlock _, hwithin => exact hwithin
  | .call (.op _) _, hwithin => exact fun state hstate => hwithin state (htrans _ _ _ hrely hstate)

theorem Before.mono (htrans : ∀ a b c : State, rely a b → rely b c → rely a c)
    (hbefore : Before machine view rely device program rest before) (hrely : rely before after) :
    Before machine view rely device program rest after := by
  match program, hbefore with
  | .ret _, hbefore => exact hbefore
  | .call .lock _, hbefore => exact fun state hstate => hbefore state (htrans _ _ _ hrely hstate)
  | .call (.op _) _, hbefore => exact fun state hstate => hbefore state (htrans _ _ _ hrely hstate)

/-- What holds of the threads: `quiet` is where the calls that have ended leave the device. -/
structure Serial (machine : State → Event S → State → Prop) (view : State → View)
    (rely : State → State → Prop) (device : View → Event T → View → Prop)
    (spec : Call → Prog T Value) (first : State) (quiet : View) (s : System S State Call Value) :
    Prop where
  ended : Run (Locked.Whole device spec) (view first) s.ended quiet
  kept : rely first s.state.state
  free : s.state.owner = none → view s.state.state = quiet
  outside : ∀ thread call program, s.running thread = some (call, program) →
    s.state.owner ≠ some thread →
    Before machine view rely device program (spec call) s.state.state
  inside : ∀ thread, s.state.owner = some thread → ∃ call program rest,
    s.running thread = some (call, program) ∧
      Within machine view rely device program rest s.state.state ∧
      ∀ value after, rest.Exec device (view s.state.state) value after →
        (spec call).Exec device quiet value after

section Serial

variable (hrefl : ∀ a : State, rely a a) (htrans : ∀ a b c : State, rely a b → rely b c → rely a c)
  {quiet : View} {s next : System S State Call Value} {thread : Nat} {call : Call} {state : State}

include htrans in
theorem Serial.quietly (hserial : Serial machine view rely device spec first quiet s)
    (howner : s.state.owner ≠ some thread) (hrely : rely s.state.state state)
    (hview : view state = view s.state.state)
    (hbefore : Before machine view rely device program (spec call) state) :
    Serial machine view rely device spec first quiet
      (s.goOn thread call ⟨state, s.state.owner⟩ program) where
  ended := by
    cases program with
    | ret value =>
        have hwhole : Locked.Whole device spec quiet (call, value) quiet := by
          have hspec : spec call = .ret value := hbefore
          rw [Locked.Whole, hspec]
          exact Prog.exec_ret.mpr ⟨rfl, rfl⟩
        exact hserial.ended.append (.single hwhole)
    | call op next => exact hserial.ended
  kept := by
    rw [Threads.goOn_state]
    exact htrans _ _ _ hserial.kept hrely
  free := by
    rw [Threads.goOn_state]
    exact fun hfree => hview.trans (hserial.free hfree)
  outside := by
    intro other call' program' hother hneither
    rw [Threads.goOn_state] at hneither ⊢
    obtain ⟨-, rfl, rfl, -⟩ | ⟨-, hother⟩ := Threads.goOn_running hother
    · exact hbefore
    · exact (hserial.outside other call' program' hother hneither).mono htrans hrely
  inside := by
    intro other hother
    rw [Threads.goOn_state] at hother ⊢
    obtain ⟨call', program', rest, hat, hwithin, hexec⟩ := hserial.inside other hother
    have hne : other ≠ thread := fun hsame => howner (hsame ▸ hother)
    refine ⟨call', program', rest, (Threads.goOn_running_ne hne).trans hat,
      hwithin.mono htrans hrely, ?_⟩
    rw [hview]
    exact hexec

include htrans in
theorem Serial.within (hserial : Serial machine view rely device spec first quiet s)
    (hothers : ∀ other, other ≠ thread → s.state.owner ≠ some other)
    (hrely : rely s.state.state state)
    (hwithin : Within machine view rely device program rest state)
    (hexec : ∀ value after, rest.Exec device (view state) value after →
      (spec call).Exec device quiet value after) :
    Serial machine view rely device spec first quiet
      (s.goOn thread call ⟨state, some thread⟩ program) := by
  obtain ⟨op, next, rfl⟩ : ∃ op next, program = .call op next := by
    cases program with
    | ret value => exact hwithin.elim
    | call op next => exact ⟨op, next, rfl⟩
  refine ⟨hserial.ended, htrans _ _ _ hserial.kept hrely, fun hfree => ?_, ?_, ?_⟩
  · cases hfree
  · intro other call' program' hother hneither
    obtain ⟨rfl, -⟩ | ⟨hne, hother⟩ := Threads.goOn_running hother
    · exact absurd rfl hneither
    · exact (hserial.outside other call' program' hother (hothers other hne)).mono htrans hrely
  · intro other hother
    obtain rfl : thread = other := Option.some.inj hother
    exact ⟨call, _, rest, Function.update_self _ _ _, hwithin, hexec⟩

theorem Serial.release {value : Value}
    (hserial : Serial machine view rely device spec first quiet s)
    (howner : s.state.owner = some thread)
    (hwhole : Locked.Whole device spec quiet (call, value) (view s.state.state)) :
    Serial machine view rely device spec first (view s.state.state)
      (s.goOn thread call ⟨s.state.state, none⟩ (.ret value)) where
  ended := hserial.ended.append (.single hwhole)
  kept := hserial.kept
  free := fun _ => rfl
  outside := by
    intro other call' program' hother _
    obtain ⟨-, -, -, hmore⟩ | ⟨hne, hother⟩ := Threads.goOn_running hother
    · exact absurd rfl (hmore value)
    · refine hserial.outside other call' program' hother fun hsame => hne ?_
      exact Option.some.inj (hsame.symm.trans howner)
  inside := by
    intro other hother
    cases hother

include hrefl htrans in
theorem Serial.step (hbody : ∀ call state, rely first state →
      Before machine view rely device (body call) (spec call) state)
    {label : Threads.Label Call} (hserial : Serial machine view rely device spec first quiet s)
    (hstep : Step machine body s label next) :
    ∃ quiet', Serial machine view rely device spec first quiet' next := by
  cases hstep with
  | @enter thread call hat =>
      have howner : s.state.owner ≠ some thread := by
        intro hsame
        obtain ⟨_, _, _, hother, -⟩ := hserial.inside thread hsame
        rw [hat] at hother
        cases hother
      exact ⟨quiet, hserial.quietly htrans howner (hrefl _) rfl (hbody call _ hserial.kept)⟩
  | @lock thread call next hat hfree =>
      have hnot : ∀ other, s.state.owner ≠ some other := by
        intro other hother
        rw [hfree] at hother
        cases hother
      have hbefore := hserial.outside thread call _ hat (hnot thread)
      refine ⟨quiet, hserial.within htrans (fun other _ => hnot other) (hrefl _)
        (hbefore _ (hrefl _)) ?_⟩
      rw [hserial.free hfree]
      exact fun value after hexec => hexec
  | @unlock thread call next hat =>
      by_cases howner : s.state.owner = some thread
      · obtain ⟨call', program, rest, hother, hwithin, hexec⟩ := hserial.inside thread howner
        rw [hat] at hother
        cases hother
        obtain ⟨value, hnext, rfl⟩ := hwithin
        rw [hnext]
        exact ⟨_, hserial.release howner (hexec value _ (Prog.exec_ret.mpr ⟨rfl, rfl⟩))⟩
      · exact (hserial.outside thread call _ hat howner).elim
  | @access thread call op next answer state hat hmachine =>
      by_cases howner : s.state.owner = some thread
      · obtain ⟨call', program, rest, hother, hwithin, hexec⟩ := hserial.inside thread howner
        rw [hat] at hother
        cases hother
        obtain ⟨hrely, hleft⟩ := hwithin _ (hrefl _) answer state hmachine
        have hothers : ∀ other, other ≠ thread → s.state.owner ≠ some other := by
          intro other hne hsame
          exact hne (Option.some.inj (hsame.symm.trans howner))
        rw [howner]
        obtain ⟨hview, hleft⟩ | ⟨op', next', answer', rfl, hdevice, hleft⟩ := hleft
        · refine ⟨quiet, hserial.within htrans hothers hrely hleft ?_⟩
          rw [hview]
          exact hexec
        · refine ⟨quiet, hserial.within htrans hothers hrely hleft fun value after hrest => ?_⟩
          exact hexec value after (Prog.exec_call.mpr ⟨answer', _, hdevice, hrest⟩)
      · obtain ⟨hrely, hview, hleft⟩ :=
          hserial.outside thread call _ hat howner _ (hrefl _) answer state hmachine
        exact ⟨quiet, hserial.quietly htrans howner hrely hview hleft⟩

include hrefl htrans in
/-- Threads that call only such routines do what `spec` says of their calls, one at a time and in the order in which the calls end. -/
theorem serial_of_run (hbody : ∀ call state, rely first state →
      Before machine view rely device (body call) (spec call) state)
    {labels : List (Threads.Label Call)}
    (hrun : Run (Step machine body) (Threads.start ⟨first, none⟩) labels s) :
    ∃ quiet, Serial machine view rely device spec first quiet s := by
  let Inv (s : System S State Call Value) : Prop :=
    ∃ quiet, Serial machine view rely device spec first quiet s
  have hstep : ∀ before label after, Inv before → Step machine body before label after →
      Inv after := by
    intro before label after hbefore hstep
    obtain ⟨quiet, hserial⟩ := hbefore
    exact hserial.step hrefl htrans hbody hstep
  have hstart : Inv (Threads.start ⟨first, none⟩) := by
    refine ⟨view first, .nil _, hrefl first, fun _ => rfl, ?_, ?_⟩
    · intro thread call program hat
      cases hat
    · intro thread howner
      cases howner
  have hlast : Inv s := hrun.invariant hstep hstart
  exact hlast

end Serial

/-! ### Runs that exist -/

/-- The step with this label, if there is one, of a machine that answers as `serve` says. -/
def advance (serve : State → (op : S.Op) → S.Answer op × State)
    (body : Call → Prog (Critical S) Value) (s : System S State Call Value) :
    Threads.Label Call → Option (System S State Call Value)
  | .enter thread call =>
      match s.running thread with
      | none => some (s.goOn thread call s.state (body call))
      | some _ => none
  | .access thread =>
      match s.running thread, s.state.owner with
      | some (call, .call .lock next), none =>
          some (s.goOn thread call ⟨s.state.state, some thread⟩ (next ()))
      | some (call, .call .unlock next), _ =>
          some (s.goOn thread call ⟨s.state.state, none⟩ (next ()))
      | some (call, .call (.op op) next), owner =>
          some (s.goOn thread call ⟨(serve s.state.state op).2, owner⟩
            (next (serve s.state.state op).1))
      | _, _ => none

theorem step_of_advance {serve : State → (op : S.Op) → S.Answer op × State}
    (hserve : ∀ state op, machine state ⟨op, (serve state op).1⟩ (serve state op).2)
    {s next : System S State Call Value} {label : Threads.Label Call}
    (hadvance : advance serve body s label = some next) : Step machine body s label next := by
  cases label with
  | enter thread call =>
      cases hat : s.running thread with
      | none =>
          simp only [advance, hat, Option.some.injEq] at hadvance
          exact hadvance ▸ .enter call hat
      | some running => simp [advance, hat] at hadvance
  | access thread =>
      rw [advance] at hadvance
      split at hadvance
      · next hat hfree =>
        obtain rfl := Option.some.inj hadvance
        exact .lock hat hfree
      · next hat =>
        obtain rfl := Option.some.inj hadvance
        exact .unlock hat
      · next hat =>
        obtain rfl := Option.some.inj hadvance
        exact .access hat (hserve _ _)
      · cases hadvance

theorem run_of_advance {serve : State → (op : S.Op) → S.Answer op × State}
    (hserve : ∀ state op, machine state ⟨op, (serve state op).1⟩ (serve state op).2)
    {labels : List (Threads.Label Call)} {s last : System S State Call Value}
    (hadvance : labels.foldlM (advance serve body) s = some last) :
    Run (Step machine body) s labels last := by
  induction labels generalizing s with
  | nil =>
      cases hadvance
      exact .nil _
  | cons label labels ih =>
      rw [List.foldlM_cons] at hadvance
      obtain ⟨next, hnext, hrest⟩ := Option.bind_eq_some_iff.mp hadvance
      exact .cons (step_of_advance hserve hnext) (ih hrest)

end Critical

end FrontPanel
