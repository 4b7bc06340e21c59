import FrontPanel.Lib.Run

/-!
# Programs that talk to a device

A driver routine is a sequence of accesses whose answers come from outside: a port read, a bus transfer, an allocation. `Prog S Value` is such a routine over an interface `S`, which says what an access is and what type its answer has. A routine is a finite tree, so every routine returns after finitely many accesses whatever it is answered.

`Trace` gives a routine its meaning with nothing assumed of the outside: the accesses it makes, each with the answer it got, and the value it returns. A device is a step relation labelled by those same events, and `Exec` is the routine against the device: some trace of the routine is a run of the device. What the device does on its own between two accesses is part of its steps.
-/

namespace FrontPanel

/-- An interface: the accesses and the type of the answer to each. -/
structure Interface where
  Op : Type
  Answer : Op → Type

/-- An access together with the answer it got. -/
structure Event (S : Interface) where
  op : S.Op
  answer : S.Answer op

inductive Prog (S : Interface) (Value : Type) : Type
  | ret (value : Value)
  | call (op : S.Op) (next : S.Answer op → Prog S Value)

namespace Prog

variable {S : Interface} {Value Result : Type}

def bind : Prog S Value → (Value → Prog S Result) → Prog S Result
  | .ret value, rest => rest value
  | .call op next, rest => .call op fun answer => (next answer).bind rest

/-- Make one access and return its answer. -/
def access (S : Interface) (op : S.Op) : Prog S (S.Answer op) := .call op .ret

instance : Monad (Prog S) where
  pure := .ret
  bind := bind

@[simp] theorem ret_bind (value : Value) (rest : Value → Prog S Result) :
    (Prog.ret value : Prog S Value) >>= rest = rest value := rfl

@[simp] theorem pure_eq_ret (value : Value) : (pure value : Prog S Value) = .ret value := rfl

@[simp] theorem call_bind (op : S.Op) (next : S.Answer op → Prog S Value)
    (rest : Value → Prog S Result) :
    Prog.call op next >>= rest = .call op fun answer => next answer >>= rest := rfl

@[simp] theorem access_bind (op : S.Op) (rest : S.Answer op → Prog S Result) :
    access S op >>= rest = .call op rest := rfl

theorem bind_ret (program : Prog S Value) : program >>= Prog.ret = program := by
  induction program with
  | ret value => rfl
  | call op next ih => exact congrArg (Prog.call op) (funext ih)

theorem bind_assoc {Last : Type} (program : Prog S Value) (rest : Value → Prog S Result)
    (last : Result → Prog S Last) :
    (program >>= rest) >>= last = program >>= fun value => rest value >>= last := by
  induction program with
  | ret value => rfl
  | call op next ih => exact congrArg (Prog.call op) (funext ih)

/-- `Trace program events value`: answered as in `events`, the routine makes exactly the accesses of `events` and returns `value`. -/
def Trace : Prog S Value → List (Event S) → Value → Prop
  | .ret returned, events, value => events = [] ∧ value = returned
  | .call op next, events, value =>
      ∃ answer rest, events = ⟨op, answer⟩ :: rest ∧ (next answer).Trace rest value

variable {program : Prog S Value} {rest : Value → Prog S Result} {events : List (Event S)}
  {value : Value} {result : Result}

@[simp] theorem trace_ret {returned : Value} :
    (Prog.ret returned : Prog S Value).Trace events value ↔ events = [] ∧ value = returned :=
  Iff.rfl

@[simp] theorem trace_call {op : S.Op} {next : S.Answer op → Prog S Value} :
    (Prog.call op next).Trace events value ↔
      ∃ answer rest, events = ⟨op, answer⟩ :: rest ∧ (next answer).Trace rest value :=
  Iff.rfl

theorem trace_bind : (program >>= rest).Trace events result ↔
    ∃ value left right, events = left ++ right ∧ program.Trace left value ∧
      (rest value).Trace right result := by
  induction program generalizing events with
  | ret returned =>
      constructor
      · intro htrace
        exact ⟨returned, [], events, rfl, ⟨rfl, rfl⟩, htrace⟩
      · intro hgiven
        obtain ⟨_, _, _, rfl, ⟨rfl, rfl⟩, htrace⟩ := hgiven
        exact htrace
  | call op next ih =>
      simp only [call_bind, trace_call, ih]
      constructor
      · intro hgiven
        obtain ⟨answer, _, rfl, value, left, right, rfl, hleft, hright⟩ := hgiven
        exact ⟨value, ⟨op, answer⟩ :: left, right, rfl, ⟨answer, left, rfl, hleft⟩, hright⟩
      · intro hgiven
        obtain ⟨value, _, right, rfl, ⟨answer, left, rfl, hleft⟩, hright⟩ := hgiven
        exact ⟨answer, left ++ right, rfl, value, left, right, rfl, hleft, hright⟩

theorem trace_map {f : Value → Result} :
    (program >>= fun value => .ret (f value)).Trace events result ↔
      ∃ value, program.Trace events value ∧ result = f value := by
  rw [trace_bind]
  constructor
  · intro hgiven
    obtain ⟨value, left, _, rfl, hleft, rfl, hresult⟩ := hgiven
    rw [List.append_nil]
    exact ⟨value, hleft, hresult⟩
  · intro hgiven
    obtain ⟨value, htrace, hresult⟩ := hgiven
    exact ⟨value, events, [], (List.append_nil _).symm, htrace, rfl, hresult⟩

theorem trace_pair {first : Value} {second : Result} :
    (Prog.ret (first, second) : Prog S (Value × Result)).Trace events (value, result) ↔
      events = [] ∧ value = first ∧ result = second := by
  rw [trace_ret, Prod.mk.injEq]

/-- The answers decide what is returned. -/
theorem Trace.unique {other : Value} (hvalue : program.Trace events value)
    (hother : program.Trace events other) : value = other := by
  induction program generalizing events with
  | ret returned => rw [hvalue.2, hother.2]
  | call op next ih =>
      obtain ⟨answer, rest, rfl, hvalue⟩ := hvalue
      obtain ⟨answer', rest', hsame, hother⟩ := hother
      obtain ⟨hevent, rfl⟩ := List.cons.inj hsame
      cases hevent
      exact ih answer hvalue hother

/-- The routine against answers that only depend on the access: its events and the value it returns. -/
def answered (respond : ∀ op, S.Answer op) : Prog S Value → List (Event S) × Value
  | .ret value => ([], value)
  | .call op next =>
      let rest := (next (respond op)).answered respond
      (⟨op, respond op⟩ :: rest.1, rest.2)

theorem trace_answered (respond : ∀ op, S.Answer op) (program : Prog S Value) :
    program.Trace (program.answered respond).1 (program.answered respond).2 := by
  induction program with
  | ret value => exact ⟨rfl, rfl⟩
  | call op next ih => exact ⟨_, _, rfl, ih (respond op)⟩

theorem answered_events {respond : ∀ op, S.Answer op} {property : Event S → Prop}
    (hrespond : ∀ op, property ⟨op, respond op⟩) (program : Prog S Value) :
    ∀ event ∈ (program.answered respond).1, property event := by
  induction program with
  | ret value =>
      intro event hmem
      exact absurd hmem List.not_mem_nil
  | call op next ih =>
      intro event hmem
      rcases List.mem_cons.mp hmem with rfl | hmem
      · exact hrespond op
      · exact ih (respond op) event hmem

/-! ### Routines over another interface -/

/-- The routine, with each of its accesses made by a routine over `T`. -/
def handle {T : Interface} (handler : ∀ op, Prog T (S.Answer op)) : Prog S Value → Prog T Value
  | .ret value => .ret value
  | .call op next => handler op >>= fun answer => (next answer).handle handler

/-- `events` are the accesses the handler makes for `calls`, one call after the other. -/
def Handled {T : Interface} (handler : ∀ op, Prog T (S.Answer op)) :
    List (Event S) → List (Event T) → Prop
  | [], events => events = []
  | ⟨op, answer⟩ :: calls, events =>
      ∃ left right, events = left ++ right ∧ (handler op).Trace left answer ∧
        Handled handler calls right

theorem trace_handle {T : Interface} {handler : ∀ op, Prog T (S.Answer op)}
    {handled : List (Event T)} : (program.handle handler).Trace handled value ↔
      ∃ calls, program.Trace calls value ∧ Handled handler calls handled := by
  induction program generalizing handled with
  | ret returned =>
      constructor
      · intro htrace
        exact ⟨[], ⟨rfl, htrace.2⟩, htrace.1⟩
      · intro hgiven
        obtain ⟨_, ⟨rfl, hvalue⟩, hnone⟩ := hgiven
        exact ⟨hnone, hvalue⟩
  | call op next ih =>
      rw [handle, trace_bind]
      constructor
      · intro hgiven
        obtain ⟨answer, left, right, rfl, hleft, hright⟩ := hgiven
        obtain ⟨calls, htrace, hhandled⟩ := (ih answer).mp hright
        exact ⟨⟨op, answer⟩ :: calls, ⟨answer, calls, rfl, htrace⟩, left, right, rfl, hleft,
          hhandled⟩
      · intro hgiven
        obtain ⟨_, ⟨answer, calls, rfl, htrace⟩, left, right, rfl, hleft, hhandled⟩ := hgiven
        exact ⟨answer, left, right, rfl, hleft, (ih answer).mpr ⟨calls, htrace, hhandled⟩⟩

/-! ### Which accesses a routine makes -/

/-- Whatever it is answered, the routine makes only `allowed` accesses. -/
def Only (allowed : S.Op → Prop) (program : Prog S Value) : Prop :=
  ∀ events value, program.Trace events value → ∀ event ∈ events, allowed event.op

section Only

variable {allowed : S.Op → Prop}

theorem only_ret (value : Value) : (Prog.ret value : Prog S Value).Only allowed := by
  intro _ _ hgiven event hmem
  obtain ⟨rfl, -⟩ := hgiven
  exact absurd hmem List.not_mem_nil

theorem only_call {op : S.Op} {next : S.Answer op → Prog S Value} (hop : allowed op)
    (hnext : ∀ answer, (next answer).Only allowed) : (Prog.call op next).Only allowed := by
  intro _ _ hgiven event hmem
  obtain ⟨answer, rest, rfl, htrace⟩ := hgiven
  rcases List.mem_cons.mp hmem with rfl | hmem
  · exact hop
  · exact hnext answer _ _ htrace _ hmem

theorem Only.bind (hprogram : program.Only allowed) (hrest : ∀ value, (rest value).Only allowed) :
    (program >>= rest).Only allowed := by
  intro _ _ htrace event hmem
  obtain ⟨value, left, right, rfl, hleft, hright⟩ := trace_bind.mp htrace
  rcases List.mem_append.mp hmem with hmem | hmem
  · exact hprogram _ _ hleft _ hmem
  · exact hrest value _ _ hright _ hmem

theorem only_ite {condition : Prop} [Decidable condition] {other : Prog S Value}
    (hprogram : program.Only allowed) (hother : other.Only allowed) :
    (if condition then program else other).Only allowed := by
  split
  · exact hprogram
  · exact hother

theorem Only.handle {T : Interface} {handler : ∀ op, Prog T (S.Answer op)} {allowed' : T.Op → Prop}
    (hprogram : program.Only allowed) (hhandler : ∀ op, allowed op → (handler op).Only allowed') :
    (program.handle handler).Only allowed' := by
  intro handled value htrace event hmem
  obtain ⟨calls, hcalls, hhandled⟩ := trace_handle.mp htrace
  have hallowed := hprogram calls value hcalls
  clear hcalls htrace
  induction calls generalizing handled with
  | nil =>
      obtain rfl : handled = [] := hhandled
      exact absurd hmem List.not_mem_nil
  | cons call calls ih =>
      obtain ⟨left, right, rfl, hleft, hright⟩ := hhandled
      obtain ⟨hcall, hrest⟩ := List.forall_mem_cons.mp hallowed
      rcases List.mem_append.mp hmem with hmem | hmem
      · exact hhandler call.op hcall left call.answer hleft event hmem
      · exact ih right hmem hright hrest

end Only

/-! ### Rules about what a routine may do next -/

/-- A rule about accesses: which access is allowed, given what the accesses so far have come to. -/
structure Rule (S : Interface) (Ghost : Type*) where
  Allows : Ghost → S.Op → Prop
  next : Ghost → Event S → Ghost

variable {Ghost : Type*} {rule : Rule S Ghost} {ghost : Ghost}

/-- Whatever it is answered, the routine makes only allowed accesses, and returns with `post`. -/
def Obeys (rule : Rule S Ghost) (post : Value → Ghost → Prop) : Ghost → Prog S Value → Prop
  | ghost, .ret value => post value ghost
  | ghost, .call op next =>
      rule.Allows ghost op ∧ ∀ answer, (next answer).Obeys rule post (rule.next ghost ⟨op, answer⟩)

@[simp] theorem obeys_ret {post : Value → Ghost → Prop} :
    (Prog.ret value : Prog S Value).Obeys rule post ghost ↔ post value ghost := Iff.rfl

@[simp] theorem obeys_call {post : Value → Ghost → Prop} {op : S.Op}
    {next : S.Answer op → Prog S Value} :
    (Prog.call op next).Obeys rule post ghost ↔ rule.Allows ghost op ∧
      ∀ answer, (next answer).Obeys rule post (rule.next ghost ⟨op, answer⟩) := Iff.rfl

/-- The rule for sequencing. -/
theorem obeys_bind {post : Result → Ghost → Prop} :
    (program >>= rest).Obeys rule post ghost ↔
      program.Obeys rule (fun value ghost => (rest value).Obeys rule post ghost) ghost := by
  induction program generalizing ghost with
  | ret returned => rfl
  | call op next ih => simp only [call_bind, obeys_call, ih]

/-- The rule of consequence. -/
theorem Obeys.weaken {strong weak : Value → Ghost → Prop}
    (hobeys : program.Obeys rule strong ghost)
    (hweaken : ∀ value ghost, strong value ghost → weak value ghost) :
    program.Obeys rule weak ghost := by
  induction program generalizing ghost with
  | ret returned => exact hweaken _ _ hobeys
  | call op next ih => exact ⟨hobeys.1, fun answer => ih answer (hobeys.2 answer)⟩

/-- What the answers of a run have come to is what the rule says. -/
theorem Obeys.trace {post : Value → Ghost → Prop} (hobeys : program.Obeys rule post ghost)
    (htrace : program.Trace events value) : post value (events.foldl rule.next ghost) := by
  induction program generalizing ghost events with
  | ret returned =>
      obtain ⟨rfl, rfl⟩ := htrace
      exact hobeys
  | call op next ih =>
      obtain ⟨answer, rest, rfl, htrace⟩ := htrace
      have hpost := ih answer (hobeys.2 answer) htrace
      exact hpost

section Device

variable {State : Type*} {device : State → Event S → State → Prop} {before after : State}

/-- `Exec device program before value after`: against the device the routine can return `value`, taking the device from `before` to `after`. -/
def Exec (device : State → Event S → State → Prop) (program : Prog S Value) (before : State)
    (value : Value) (after : State) : Prop :=
  ∃ events, program.Trace events value ∧ Run device before events after

@[simp] theorem exec_ret {returned : Value} :
    (Prog.ret returned : Prog S Value).Exec device before value after ↔
      value = returned ∧ after = before := by
  constructor
  · intro hgiven
    obtain ⟨_, ⟨rfl, hvalue⟩, hrun⟩ := hgiven
    exact ⟨hvalue, Run.nil_iff.mp hrun⟩
  · intro hgiven
    obtain ⟨hvalue, rfl⟩ := hgiven
    exact ⟨[], ⟨rfl, hvalue⟩, .nil _⟩

@[simp] theorem exec_call {op : S.Op} {next : S.Answer op → Prog S Value} :
    (Prog.call op next).Exec device before value after ↔
      ∃ answer middle, device before ⟨op, answer⟩ middle ∧
        (next answer).Exec device middle value after := by
  constructor
  · intro hgiven
    obtain ⟨_, ⟨answer, rest, rfl, htrace⟩, hrun⟩ := hgiven
    obtain ⟨middle, hstep, htail⟩ := Run.cons_iff.mp hrun
    exact ⟨answer, middle, hstep, rest, htrace, htail⟩
  · intro hgiven
    obtain ⟨answer, middle, hstep, rest, htrace, htail⟩ := hgiven
    exact ⟨⟨op, answer⟩ :: rest, ⟨answer, rest, rfl, htrace⟩, .cons hstep htail⟩

theorem exec_bind : (program >>= rest).Exec device before result after ↔
    ∃ value middle, program.Exec device before value middle ∧
      (rest value).Exec device middle result after := by
  constructor
  · intro hgiven
    obtain ⟨_, htrace, hrun⟩ := hgiven
    obtain ⟨value, left, right, rfl, hleft, hright⟩ := trace_bind.mp htrace
    obtain ⟨middle, hrunLeft, hrunRight⟩ := Run.append_iff.mp hrun
    exact ⟨value, middle, ⟨left, hleft, hrunLeft⟩, ⟨right, hright, hrunRight⟩⟩
  · intro hgiven
    obtain ⟨value, middle, ⟨left, hleft, hrunLeft⟩, ⟨right, hright, hrunRight⟩⟩ := hgiven
    exact ⟨left ++ right, trace_bind.mpr ⟨value, left, right, rfl, hleft, hright⟩,
      hrunLeft.append hrunRight⟩

end Device

end Prog

end FrontPanel
