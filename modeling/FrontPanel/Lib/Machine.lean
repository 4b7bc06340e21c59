import FrontPanel.Lib.Prog

/-!
# Routines on a machine

A device whose answers and whose next state are determined: a `Machine`. A routine run on it has one result and leaves one state, so a statement about all machines of a kind is a statement about everything the outside may do, with the outside named.
-/

namespace FrontPanel

/-- A device that answers every access, and what it is after it. -/
structure Machine (S : Interface) (State : Type*) where
  serve : State → (op : S.Op) → S.Answer op × State

namespace Machine

variable {S : Interface} {State : Type*} {Value Result : Type}

/-- What the routine returns on the machine, and the state it leaves. -/
def run (machine : Machine S State) : Prog S Value → State → Value × State
  | .ret value, state => (value, state)
  | .call op next, state =>
      machine.run (next (machine.serve state op).1) (machine.serve state op).2

variable {machine : Machine S State} {state : State}

@[simp] theorem run_ret (value : Value) : machine.run (.ret value) state = (value, state) := rfl

@[simp] theorem run_call (op : S.Op) (next : S.Answer op → Prog S Value) :
    machine.run (.call op next) state =
      machine.run (next (machine.serve state op).1) (machine.serve state op).2 := rfl

theorem run_bind (program : Prog S Value) (rest : Value → Prog S Result) :
    machine.run (program >>= rest) state =
      machine.run (rest (machine.run program state).1) (machine.run program state).2 := by
  induction program generalizing state with
  | ret value => rfl
  | call op next ih => exact ih _

theorem run_access_bind (op : S.Op) (rest : S.Answer op → Prog S Result) :
    machine.run (Prog.access S op >>= rest) state =
      machine.run (rest (machine.serve state op).1) (machine.serve state op).2 := rfl

end Machine

end FrontPanel
