import FrontPanel.Lib.Machine
import Mathlib.Logic.Function.Basic

/-!
# Threads on one machine

Any number of threads call routines of one machine at once, interleaved access by access. What the others may do to the state between two accesses of a thread is a relation `rely`. A routine takes effect last if, whatever the others do within it, its last access does what the whole routine is for and those before leave alone what can be seen of the state. Threads that call only such routines do what they would do one call at a time, in the order in which the calls end.
-/

namespace FrontPanel

/-- The state of the machine, the call that each thread is in with what is left of it, and the calls that have ended with what each returned. -/
structure Threads (S : Interface) (State Call Value : Type) where
  state : State
  running : Nat → Option (Call × Prog S Value)
  ended : List (Call × Value)

namespace Threads

variable {S : Interface} {State Call Value : Type}

/-- A thread enters a call, or it makes the next access of the call that it is in. -/
inductive Label (Call : Type)
  | enter (thread : Nat) (call : Call)
  | access (thread : Nat)

def start (state : State) : Threads S State Call Value := ⟨state, fun _ => none, []⟩

/-- The thread goes on with `program`, or leaves the call if nothing is left of it. -/
def goOn (s : Threads S State Call Value) (thread : Nat) (call : Call) (state : State) :
    Prog S Value → Threads S State Call Value
  | .ret value => ⟨state, Function.update s.running thread none, s.ended ++ [(call, value)]⟩
  | program => { s with state, running := Function.update s.running thread (some (call, program)) }

section GoOn

variable {s : Threads S State Call Value} {thread : Nat} {call : Call} {state : State}
  {program : Prog S Value}

@[simp] theorem goOn_state : (s.goOn thread call state program).state = state := by
  cases program with
  | ret value => rfl
  | call op next => rfl

theorem goOn_running_ne {other : Nat} (hne : other ≠ thread) :
    (s.goOn thread call state program).running other = s.running other := by
  cases program with
  | ret value => exact Function.update_of_ne hne _ _
  | call op next => exact Function.update_of_ne hne _ _

theorem goOn_running {other : Nat} {call' : Call} {program' : Prog S Value}
    (hat : (s.goOn thread call state program).running other = some (call', program')) :
    other = thread ∧ call' = call ∧ program' = program ∧ (∀ value, program ≠ .ret value) ∨
      other ≠ thread ∧ s.running other = some (call', program') := by
  by_cases hsame : other = thread
  · subst hsame
    cases program with
    | ret value =>
        have hnone : Function.update s.running other none other = some (call', program') := hat
        rw [Function.update_self] at hnone
        cases hnone
    | call op next =>
        have hsome : Function.update s.running other (some (call, .call op next)) other =
            some (call', program') := hat
        rw [Function.update_self] at hsome
        cases hsome
        exact .inl ⟨rfl, rfl, rfl, fun _ hret => by cases hret⟩
  · exact .inr ⟨hsame, (goOn_running_ne hsame).symm.trans hat⟩

theorem goOn_ended {record : Call × Value}
    (hmem : record ∈ (s.goOn thread call state program).ended) :
    record ∈ s.ended ∨ program = .ret record.2 ∧ record.1 = call := by
  cases program with
  | ret value =>
      obtain hmem | hmem := List.mem_append.mp hmem
      · exact .inl hmem
      · obtain rfl := List.mem_singleton.mp hmem
        exact .inr ⟨rfl, rfl⟩
  | call op next => exact .inl hmem

end GoOn

inductive Step (machine : Machine S State) (body : Call → Prog S Value) :
    Threads S State Call Value → Label Call → Threads S State Call Value → Prop
  | enter {s : Threads S State Call Value} {thread : Nat} (call : Call)
      (hat : s.running thread = none) :
      Step machine body s (.enter thread call)
        { s with running := Function.update s.running thread (some (call, body call)) }
  | access {s : Threads S State Call Value} {thread : Nat} {call : Call} {op : S.Op}
      {next : S.Answer op → Prog S Value} (hat : s.running thread = some (call, .call op next)) :
      Step machine body s (.access thread)
        (s.goOn thread call (machine.serve s.state op).2 (next (machine.serve s.state op).1))

/-- The step with this label, if there is one. -/
def advance (machine : Machine S State) (body : Call → Prog S Value)
    (s : Threads S State Call Value) : Label Call → Option (Threads S State Call Value)
  | .enter thread call =>
      match s.running thread with
      | none => some { s with running := Function.update s.running thread (some (call, body call)) }
      | some _ => none
  | .access thread =>
      match s.running thread with
      | some (call, .call op next) =>
          some (s.goOn thread call (machine.serve s.state op).2 (next (machine.serve s.state op).1))
      | _ => none

theorem step_of_advance {machine : Machine S State} {body : Call → Prog S Value}
    {s next : Threads S State Call Value} {label : Label Call}
    (hadvance : s.advance machine body label = some next) : Step machine body s label next := by
  cases label with
  | enter thread call =>
      cases hat : s.running thread with
      | none =>
          simp only [advance, hat, Option.some.injEq] at hadvance
          exact hadvance ▸ .enter call hat
      | some running => simp [advance, hat] at hadvance
  | access thread =>
      obtain hat | ⟨call, value, hat⟩ | ⟨call, op, rest, hat⟩ : s.running thread = none ∨
          (∃ call value, s.running thread = some (call, .ret value)) ∨
          ∃ call op rest, s.running thread = some (call, .call op rest) := by
        obtain _ | ⟨call, _ | _⟩ := s.running thread
        · exact .inl rfl
        · exact .inr (.inl ⟨_, _, rfl⟩)
        · exact .inr (.inr ⟨_, _, _, rfl⟩)
      · simp [advance, hat] at hadvance
      · simp [advance, hat] at hadvance
      · simp only [advance, hat, Option.some.injEq] at hadvance
        exact hadvance ▸ .access hat

theorem run_of_advance {machine : Machine S State} {body : Call → Prog S Value}
    {labels : List (Label Call)} {s last : Threads S State Call Value}
    (hadvance : labels.foldlM (advance machine body) s = some last) :
    Run (Step machine body) s labels last := by
  induction labels generalizing s with
  | nil =>
      cases hadvance
      exact .nil _
  | cons label labels ih =>
      rw [List.foldlM_cons] at hadvance
      obtain ⟨next, hnext, hrest⟩ := Option.bind_eq_some_iff.mp hadvance
      exact .cons (step_of_advance hnext) (ih hrest)

variable {View : Type} {machine : Machine S State} {body : Call → Prog S Value}
  {view : State → View} {rely : State → State → Prop} {spec : View → Call × Value → View → Prop}

/-- What is left of a call takes effect last, from `before` on. -/
def EffectLast (machine : Machine S State) (view : State → View) (rely : State → State → Prop)
    (spec : View → Call × Value → View → Prop) (call : Call) : Prog S Value → State → Prop
  | .ret _, _ => False
  | .call op next, before => ∀ state, rely before state →
      rely state (machine.serve state op).2 ∧
      ((∃ value, next (machine.serve state op).1 = .ret value ∧
          spec (view state) (call, value) (view (machine.serve state op).2)) ∨
        view (machine.serve state op).2 = view state ∧
          EffectLast machine view rely spec call (next (machine.serve state op).1)
            (machine.serve state op).2)

variable {call : Call} {before after : State}

theorem EffectLast.mono (htrans : ∀ a b c : State, rely a b → rely b c → rely a c)
    {program : Prog S Value} (heffect : EffectLast machine view rely spec call program before)
    (hrely : rely before after) : EffectLast machine view rely spec call program after := by
  cases program with
  | ret value => exact heffect
  | call op next => exact fun state hstate => heffect state (htrans _ _ _ hrely hstate)

/-- What holds of threads whose calls take effect last. -/
structure Linear (machine : Machine S State) (view : State → View) (rely : State → State → Prop)
    (spec : View → Call × Value → View → Prop) (first : State) (s : Threads S State Call Value) :
    Prop where
  ended : Run spec (view first) s.ended (view s.state)
  kept : rely first s.state
  running : ∀ thread call program, s.running thread = some (call, program) →
    EffectLast machine view rely spec call program s.state

theorem Linear.step (hrefl : ∀ a : State, rely a a)
    (htrans : ∀ a b c : State, rely a b → rely b c → rely a c) {first : State}
    (hbody : ∀ call state, EffectLast machine view rely spec call (body call) state)
    {s next : Threads S State Call Value} {label : Label Call}
    (hlinear : Linear machine view rely spec first s) (hstep : Step machine body s label next) :
    Linear machine view rely spec first next := by
  obtain ⟨hended, hkept, hrunning⟩ := hlinear
  cases hstep with
  | @enter thread call hat =>
      refine ⟨hended, hkept, fun other call' program hother => ?_⟩
      have hother : Function.update s.running thread (some (call, body call)) other =
        some (call', program) := hother
      by_cases hsame : other = thread
      · rw [hsame, Function.update_self] at hother
        cases hother
        exact hbody call s.state
      · rw [Function.update_of_ne hsame] at hother
        exact hrunning other call' program hother
  | @access thread call op next hat =>
      obtain ⟨hguarantee, heffect⟩ := hrunning thread call _ hat s.state (hrefl _)
      have hothers : ∀ other call program, s.running other = some (call, program) →
          EffectLast machine view rely spec call program (machine.serve s.state op).2 :=
        fun other call program hother => (hrunning other call program hother).mono htrans hguarantee
      have hkept := htrans _ _ _ hkept hguarantee
      obtain ⟨value, hlast, hspec⟩ | ⟨hquiet, hleft⟩ := heffect
      · refine ⟨?_, goOn_state ▸ hkept, fun other call' program hother => ?_⟩
        · rw [hlast]
          exact hended.append (.single hspec)
        · rw [goOn_state]
          obtain ⟨-, -, -, hmore⟩ | ⟨-, hother⟩ := goOn_running hother
          · exact absurd hlast (hmore value)
          · exact hothers other call' program hother
      · refine ⟨?_, goOn_state ▸ hkept, fun other call' program hother => ?_⟩
        · rw [goOn_state, hquiet]
          cases hnext : next (machine.serve s.state op).1 with
          | ret value =>
              rw [hnext] at hleft
              exact hleft.elim
          | call op' next' => exact hended
        · rw [goOn_state]
          obtain ⟨-, rfl, rfl, -⟩ | ⟨-, hother⟩ := goOn_running hother
          · exact hleft
          · exact hothers other call' program hother

/-- Threads whose calls take effect last do what their calls do one at a time, in the order in which they end. -/
theorem linear_of_run (hrefl : ∀ a : State, rely a a)
    (htrans : ∀ a b c : State, rely a b → rely b c → rely a c) {first : State}
    (hbody : ∀ call state, EffectLast machine view rely spec call (body call) state)
    {s : Threads S State Call Value} {labels : List (Label Call)}
    (hrun : Run (Step machine body) (start first) labels s) :
    Linear machine view rely spec first s := by
  refine hrun.invariant (fun _ _ _ hlinear hstep => hlinear.step hrefl htrans hbody hstep) ?_
  refine ⟨.nil _, hrefl first, fun thread call program hat => ?_⟩
  cases hat

end Threads

end FrontPanel
