import FrontPanel.Sio.EcContexts

/-!
# No transaction mixes with another

The lock keeps the handlers apart, and nothing keeps `superio_write_byte` apart from them or from itself. What is proved is that this is the only way transactions mix: in every run in which no transaction of the beeper begins inside another one, and none of a handler inside one of the beeper, the accesses of a transaction are consecutive and every data byte follows a command byte of its own transaction.
-/

namespace FrontPanel.Sio

/-! ### What the log says -/

/-- Between two equal elements there is no other. -/
def Contiguous {α : Type*} (xs : List α) : Prop :=
  ∀ past mid later x, xs = past ++ x :: (mid ++ x :: later) → ∀ y ∈ mid, y = x

theorem Contiguous.snoc {α : Type*} {xs : List α} {x : α} (hxs : Contiguous xs)
    (hlast : xs.getLast? = some x ∨ x ∉ xs) : Contiguous (xs ++ [x]) := by
  intro past mid later z hsplit y hy
  obtain rfl | ⟨later, last, rfl⟩ := later.eq_nil_or_concat'
  · -- the second `z` is the new `x`
    have hsplit : xs ++ [x] = (past ++ z :: mid) ++ [z] := by simpa using hsplit
    obtain ⟨hxs', hz⟩ := List.append_inj' hsplit rfl
    obtain rfl : x = z := by simpa using hz
    have hmem : x ∈ xs := by simp [hxs']
    have hlast := hlast.resolve_right fun hnot => hnot hmem
    obtain rfl | ⟨mid, last, rfl⟩ := mid.eq_nil_or_concat'
    · cases hy
    · have hxs' : xs = (past ++ x :: mid) ++ [last] := by simpa using hxs'
      rw [hxs', List.getLast?_concat] at hlast
      obtain rfl : last = x := Option.some.inj hlast
      obtain hy | rfl : y ∈ mid ∨ y = last := by simpa using hy
      · exact hxs past mid [] last (by simpa using hxs') y hy
      · rfl
  · have hsplit : xs ++ [x] = (past ++ z :: (mid ++ z :: later)) ++ [last] := by
      simpa using hsplit
    exact hxs past mid later z (List.append_inj' hsplit rfl).1 y hy

/-- The transactions of the accesses in the log, in order. -/
def transactions (log : List Entry) : List Transaction := log.filterMap Entry.transaction

/-- The transaction the controller is in: the one that sent the last command byte. -/
def commander (log : List Entry) : Option Transaction :=
  log.foldl (fun current entry =>
    match entry.op with
    | .outb _ port => if port = ecCPort then entry.transaction else current
    | .inb _ => current) none

/-- Every data byte reaches the controller in the transaction that sent it. -/
def Attributed (log : List Entry) : Prop :=
  ∀ past later byte transaction, log = past ++ ⟨.outb byte ecDPort, transaction⟩ :: later →
    transaction ≠ none ∧ commander past = transaction

theorem transactions_snoc (log : List Entry) (op : PortOp) (transaction : Option Transaction) :
    transactions (log ++ [⟨op, transaction⟩]) = transactions log ++ transaction.toList := by
  cases transaction <;> simp [transactions]

theorem commander_inb (log : List Entry) (port : UInt16) (transaction : Option Transaction) :
    commander (log ++ [⟨.inb port, transaction⟩]) = commander log := by
  simp [commander]

theorem commander_outb (log : List Entry) (byte : UInt8) (port : UInt16)
    (transaction : Option Transaction) :
    commander (log ++ [⟨.outb byte port, transaction⟩]) =
      if port = ecCPort then transaction else commander log := by
  simp [commander]

theorem Attributed.snoc {log : List Entry} {entry : Entry} (hlog : Attributed log)
    (hentry : ∀ byte, entry.op = .outb byte ecDPort →
      entry.transaction ≠ none ∧ commander log = entry.transaction) :
    Attributed (log ++ [entry]) := by
  intro past later byte transaction hsplit
  obtain rfl | ⟨later, last, rfl⟩ := later.eq_nil_or_concat'
  · obtain ⟨rfl, hlast⟩ := List.append_inj' hsplit rfl
    obtain rfl : entry = ⟨.outb byte ecDPort, transaction⟩ := by simpa using hlast
    exact hentry byte rfl
  · have hsplit : log ++ [entry] =
        (past ++ ⟨.outb byte ecDPort, transaction⟩ :: later) ++ [last] := by simpa using hsplit
    exact hlog past later byte transaction (List.append_inj' hsplit rfl).1

/-! ### What a transaction may do -/

/-- A data byte may be written only after a command byte of the same transaction. -/
def commandFirst : Prog.Rule Ports Prop where
  Allows := fun commanded op =>
    match op with
    | .outb _ port => port = ecDPort → commanded
    | .inb _ => True
  next := fun commanded event =>
    match event.op with
    | .outb _ port => port = ecCPort ∨ commanded
    | .inb _ => commanded

@[simp] theorem commandFirst_inb (commanded : Prop) (port : UInt16) :
    commandFirst.Allows commanded (.inb port) := trivial

@[simp] theorem commandFirst_outb (commanded : Prop) (byte : UInt8) (port : UInt16) :
    commandFirst.Allows commanded (.outb byte port) ↔ (port = ecDPort → commanded) := Iff.rfl

@[simp] theorem commandFirst_next_inb (commanded : Prop) (port : UInt16) (answer : UInt8) :
    commandFirst.next commanded ⟨.inb port, answer⟩ = commanded := rfl

@[simp] theorem commandFirst_next_outb (commanded : Prop) (byte : UInt8) (port : UInt16)
    (answer : Unit) :
    commandFirst.next commanded ⟨.outb byte port, answer⟩ = (port = ecCPort ∨ commanded) := rfl

theorem ecDPort_ne_ecCPort : ecDPort ≠ ecCPort := by decide

theorem ecWait_obeys (ready : UInt8 → Bool) (timeout : Nat) (commanded : Prop) :
    (ecWait ready timeout).Obeys commandFirst (fun _ after => after = commanded) commanded := by
  induction timeout with
  | zero => simp [ecWait]
  | succ timeout ih =>
      simp only [ecWait, ecReadStatus, inb_bind, Prog.obeys_call]
      refine ⟨trivial, fun status => ?_⟩
      split
      · simp
      · exact ih

/-- Both senders: where the byte is allowed, the sender is, and after a command byte has been sent data is allowed. -/
theorem send_obeys {port : UInt16} {byte : UInt8} {commanded : Prop}
    (hport : port = ecDPort → commanded) :
    (do
      let ret ← ecWaitCommandReady
      if ret ≠ 0 then return ret
      outb byte port
      return 0 : Prog Ports Int).Obeys commandFirst
        (fun ret after => ret = 0 → after = (port = ecCPort ∨ commanded)) commanded := by
  refine Prog.obeys_bind.mpr ((ecWait_obeys _ _ commanded).weaken ?_)
  intro ret _ hsame
  obtain rfl := hsame
  split
  next hret => exact fun hzero => absurd hzero hret
  next => exact ⟨hport, fun _ _ => rfl⟩

theorem ecSendCommand_obeys (command : UInt8) (commanded : Prop) :
    (ecSendCommand command).Obeys commandFirst (fun ret after => ret = 0 → after) commanded := by
  have hport : ecCPort = ecDPort → commanded := fun heq => absurd heq.symm ecDPort_ne_ecCPort
  refine (send_obeys hport).weaken fun ret after hafter hret => ?_
  rw [hafter hret]
  exact .inl rfl

theorem ecSendData_obeys (data : UInt8) {commanded : Prop} (hcommanded : commanded) :
    (ecSendData data).Obeys commandFirst (fun ret after => ret = 0 → after) commanded := by
  refine (send_obeys fun _ => hcommanded).weaken fun ret after hafter hret => ?_
  rw [hafter hret]
  exact .inr hcommanded

theorem ecReceiveData_obeys (commanded : Prop) :
    ecReceiveData.Obeys commandFirst (fun _ _ => True) commanded := by
  refine Prog.obeys_bind.mpr ((ecWait_obeys _ _ commanded).weaken ?_)
  intro ret _ hsame
  obtain rfl := hsame
  split
  · trivial
  · exact ⟨trivial, fun _ => trivial⟩

theorem ecCall_obeys (call : EcCall) (commanded : Prop) :
    call.program.Obeys commandFirst (fun _ _ => True) commanded := by
  cases call with
  | read address =>
      refine Prog.obeys_bind.mpr ((ecSendCommand_obeys ecCReadMem commanded).weaken ?_)
      intro ret after hafter
      split
      · trivial
      · next hret =>
        refine Prog.obeys_bind.mpr ((ecSendData_obeys address (hafter (not_not.mp hret))).weaken ?_)
        intro ret after _
        split
        · trivial
        · exact ecReceiveData_obeys after
  | write address value =>
      refine Prog.obeys_bind.mpr (Prog.obeys_bind.mpr
        ((ecSendCommand_obeys ecCWriteMem commanded).weaken ?_))
      intro ret after hafter
      split
      · trivial
      · next hret =>
        refine Prog.obeys_bind.mpr ((ecSendData_obeys address (hafter (not_not.mp hret))).weaken ?_)
        intro ret after hafter
        split
        · trivial
        · next hret =>
          exact (ecSendData_obeys value (hafter (not_not.mp hret))).weaken fun _ _ _ => trivial

/-- The tasks of each kind of context. -/
def Task.Belongs : Context → Task → Prop
  | _, .idle => True
  | .sio _, .request _ => True
  | .sio _, .handler _ => True
  | .beeper _, .polling _ _ => True
  | .beeper _, .writing _ _ => True
  | .beeper _, .readingBack _ _ => True
  | _, _ => False

/-- Every transaction writes its command first, and leaves its context with a task of its kind. -/
theorem Task.transaction_obeys {task : Task} {t : Context} {program : Prog Ports Task}
    (hbelongs : task.Belongs t) (hbegins : task.transaction = some program) (commanded : Prop) :
    program.Obeys commandFirst (fun task _ => task.Belongs t) commanded := by
  have hne : ecCPort ≠ ecDPort := ecDPort_ne_ecCPort.symm
  unfold Task.transaction at hbegins
  split at hbegins
  · next call calls =>
    obtain rfl := Option.some.inj hbegins
    cases t with
    | sio n =>
        exact Prog.obeys_bind.mpr ((ecCall_obeys call commanded).weaken fun _ _ _ => trivial)
    | beeper n => exact hbelongs.elim
  · obtain rfl := Option.some.inj hbegins
    cases t with
    | sio n => exact hbelongs.elim
    | beeper n => simp [superioWrite, Task.Belongs, hne]
  · next value addr =>
    obtain rfl := Option.some.inj hbegins
    cases t with
    | sio n => exact hbelongs.elim
    | beeper n =>
        have hnext : ∀ tmp, (if superioWritten value addr tmp then Task.idle
            else .writing value addr).Belongs (.beeper n) := by
          intro tmp
          split <;> trivial
        simpa [superioReadBack, hne] using hnext
  · cases hbegins

/-! ### The invariant -/

namespace Sharing

/-- Between `ec_request_ports` and `ec_release_ports`. -/
def Brackets (s : Sharing) (t : Context) : Prop :=
  s.Inside t ∨ ∃ calls, s.running t = .ret (.handler calls)

/-- At most one transaction is open; it is the last in the log, or new to it. -/
structure Safe (s : Sharing) : Prop where
  follows : ∀ t, (s.running t).Obeys commandFirst (fun task _ => task.Belongs t)
    (commander s.log = some (t, s.begun t))
  locked : ∀ n, s.Brackets (.sio n) → s.owner = some (.sio n)
  single : ∀ t u, s.Inside t → s.Inside u → t = u
  latest : ∀ t, s.Inside t → (transactions s.log).getLast? = some (t, s.begun t) ∨
    (t, s.begun t) ∉ transactions s.log
  bounded : ∀ t k, (t, k) ∈ transactions s.log → k ≤ s.begun t
  contiguous : Contiguous (transactions s.log)
  attributed : Attributed s.log

theorem not_inside_ret {s : Sharing} {t : Context} {task : Task} (hat : s.running t = .ret task) :
    ¬ s.Inside t := by
  intro hgiven
  obtain ⟨op, next, hcall⟩ := hgiven
  rw [hat] at hcall
  cases hcall

theorem Safe.belongs {s : Sharing} (hsafe : s.Safe) {t : Context} {task : Task}
    (hat : s.running t = .ret task) : task.Belongs t := by
  have hfollows := hsafe.follows t
  rwa [hat] at hfollows

theorem Safe.move {s : Sharing} (hsafe : s.Safe) {t : Context} {old new : Task}
    (hat : s.running t = .ret old) (hbelongs : new.Belongs t) (owner : Option Context)
    (hself : ∀ calls, new = .handler calls → owner = some t)
    (hother : ∀ n, .sio n ≠ t → s.Brackets (.sio n) → owner = some (.sio n)) :
    Safe { s.goto t (.ret new) with owner } := by
  have hinside : ∀ u, Inside { s.goto t (.ret new) with owner } u → s.Inside u := by
    intro u hgiven
    obtain ⟨op, next, hcall⟩ := hgiven
    by_cases heq : u = t
    · subst heq
      simp [goto] at hcall
    · exact ⟨op, next, by simpa [goto, heq] using hcall⟩
  refine ⟨?_, ?_, ?_, ?_, hsafe.bounded, hsafe.contiguous, hsafe.attributed⟩
  · intro u
    by_cases heq : u = t
    · subst heq
      simpa [goto] using hbelongs
    · simpa [goto, heq] using hsafe.follows u
  · intro n hbrackets
    by_cases heq : Context.sio n = t
    · subst heq
      obtain ⟨op, next, hcall⟩ | ⟨calls, hcalls⟩ := hbrackets
      · simp [goto] at hcall
      · exact hself calls (by simpa [goto] using hcalls)
    · refine hother n heq (hbrackets.imp (hinside _) ?_)
      intro hgiven
      obtain ⟨calls, hcalls⟩ := hgiven
      exact ⟨calls, by simpa [goto, heq] using hcalls⟩
  · intro u v hu hv
    exact hsafe.single u v (hinside u hu) (hinside v hv)
  · intro u hu
    exact hsafe.latest u (hinside u hu)

theorem Safe.record_none {s : Sharing} (hsafe : s.Safe) (port : UInt16) :
    (s.record (.inb port) none).Safe := by
  have htransactions : transactions (s.record (.inb port) none).log = transactions s.log := by
    simp [record, transactions_snoc]
  refine ⟨?_, hsafe.locked, hsafe.single, ?_, ?_, ?_, ?_⟩
  · intro t
    have hcommander : commander (s.record (.inb port) none).log = commander s.log :=
      commander_inb _ _ _
    rw [hcommander]
    exact hsafe.follows t
  · rw [htransactions]
    exact hsafe.latest
  · rw [htransactions]
    exact hsafe.bounded
  · rw [htransactions]
    exact hsafe.contiguous
  · exact hsafe.attributed.snoc fun byte hop => nomatch hop

theorem commandFirst_next_commander (log : List Entry) (op : PortOp) (answer : Ports.Answer op)
    (transaction : Transaction) :
    commandFirst.next (commander log = some transaction) ⟨op, answer⟩ =
      (commander (log ++ [⟨op, some transaction⟩]) = some transaction) := by
  cases op with
  | inb port => rw [commander_inb]; rfl
  | outb byte port =>
      rw [commander_outb]
      by_cases hport : port = ecCPort <;> simp [hport]

theorem Safe.access {s : Sharing} (hsafe : s.Safe) {t : Context} {op : PortOp}
    {next : Ports.Answer op → Prog Ports Task} (answer : Ports.Answer op)
    (hat : s.running t = .call op next) :
    ((s.goto t (next answer)).record op (some (t, s.begun t))).Safe := by
  have hopen : s.Inside t := ⟨op, next, hat⟩
  have hfollows := hsafe.follows t
  rw [hat] at hfollows
  have htransactions : transactions ((s.goto t (next answer)).record op (some (t, s.begun t))).log =
      transactions s.log ++ [(t, s.begun t)] := transactions_snoc _ _ _
  have hinside : ∀ u, ((s.goto t (next answer)).record op (some (t, s.begun t))).Inside u →
      u = t := by
    intro u hgiven
    obtain ⟨op, rest, hcall⟩ := hgiven
    by_contra hne
    exact hne (hsafe.single u t ⟨op, rest, by simpa [goto, record, hne] using hcall⟩ hopen)
  refine ⟨?_, ?_, ?_, ?_, ?_, ?_, ?_⟩
  · intro u
    by_cases heq : u = t
    · subst heq
      have hnext := hfollows.2 answer
      rw [commandFirst_next_commander] at hnext
      simpa [goto, record] using hnext
    · -- every other context is outside, where the rule only speaks of its task
      cases hrunning : s.running u with
      | ret task =>
          have hbelongs := hsafe.belongs hrunning
          simpa [goto, record, heq, hrunning] using hbelongs
      | call op rest => exact absurd (hsafe.single u t ⟨op, rest, hrunning⟩ hopen) heq
  · intro n hbrackets
    by_cases heq : Context.sio n = t
    · exact hsafe.locked n (.inl (heq ▸ hopen))
    · refine hsafe.locked n (hbrackets.imp ?_ ?_)
      · intro hin
        exact absurd (hinside _ hin) heq
      · intro hgiven
        obtain ⟨calls, hcalls⟩ := hgiven
        exact ⟨calls, by simpa [goto, record, heq] using hcalls⟩
  · intro u v hu hv
    rw [hinside u hu, hinside v hv]
  · intro u hu
    rw [htransactions, hinside u hu]
    exact .inl List.getLast?_concat
  · intro u k hmem
    rw [htransactions, List.mem_append, List.mem_singleton] at hmem
    obtain hold | hnew := hmem
    · exact hsafe.bounded u k hold
    · obtain ⟨rfl, rfl⟩ := Prod.mk.inj hnew
      exact Nat.le_refl _
  · rw [htransactions]
    exact hsafe.contiguous.snoc (hsafe.latest t hopen)
  · apply hsafe.attributed.snoc
    intro byte hsame
    obtain rfl := hsame
    exact ⟨nofun, hfollows.1 rfl⟩

/-- The state in which the next transaction of a context is open and has made no access yet. -/
def opened (s : Sharing) (t : Context) (program : Prog Ports Task) : Sharing :=
  { s.goto t program with begun := Function.update s.begun t (s.begun t + 1) }

theorem opened_running (s : Sharing) (t : Context) (program : Prog Ports Task) :
    (s.opened t program).running t = program := by
  simp [opened, goto]

theorem Safe.open {s : Sharing} (hsafe : s.Safe) {t : Context} {task : Task}
    {program : Prog Ports Task} (hat : s.running t = .ret task)
    (hbegins : task.transaction = some program) (halone : ∀ u, ¬ s.Inside u) :
    (s.opened t program).Safe := by
  have hfresh : (t, s.begun t + 1) ∉ transactions s.log := by
    intro hmem
    have := hsafe.bounded _ _ hmem
    omega
  have hinside : ∀ u, (s.opened t program).Inside u → u = t := by
    intro u hgiven
    obtain ⟨op, rest, hcall⟩ := hgiven
    by_contra hne
    exact halone u ⟨op, rest, by simpa [opened, goto, hne] using hcall⟩
  refine ⟨?_, ?_, ?_, ?_, ?_, hsafe.contiguous, hsafe.attributed⟩
  · intro u
    by_cases heq : u = t
    · subst heq
      simpa [opened, goto] using Task.transaction_obeys (hsafe.belongs hat) hbegins _
    · simpa [opened, goto, heq] using hsafe.follows u
  · intro n hbrackets
    by_cases heq : Context.sio n = t
    · subst heq
      refine hsafe.locked n (.inr ?_)
      have hbelongs := hsafe.belongs hat
      cases task with
      | handler calls => exact ⟨calls, hat⟩
      | idle | request _ | polling _ _ => cases hbegins
      | writing _ _ | readingBack _ _ => exact hbelongs.elim
    · refine hsafe.locked n (hbrackets.imp ?_ ?_)
      · intro hin
        exact absurd (hinside _ hin) heq
      · intro hgiven
        obtain ⟨calls, hcalls⟩ := hgiven
        exact ⟨calls, by simpa [opened, goto, heq] using hcalls⟩
  · intro u v hu hv
    rw [hinside u hu, hinside v hv]
  · intro u hu
    rw [hinside u hu]
    right
    simpa [opened, goto] using hfresh
  · intro u k hmem
    have hle := hsafe.bounded u k hmem
    by_cases heq : u = t
    · subst heq
      simp only [opened, Function.update_self]
      omega
    · simpa [opened, heq] using hle

/-! ### Whole runs -/

/-- A transaction of the beeper begins only while no transaction is open, and one of a handler only while none of the beeper is. -/
def Apart (s : Sharing) (label : Context × Action) : Prop :=
  label.2 = .first → ∀ u, s.Inside u → (∃ n, label.1 = .sio n) ∧ ∃ m, u = .sio m

theorem Safe.initial : Sharing.initial.Safe := by
  refine ⟨?_, ?_, ?_, ?_, ?_, ?_, ?_⟩
  · intro t
    exact trivial
  · rintro n (⟨op, next, hcall⟩ | ⟨calls, hcall⟩) <;> cases hcall
  · intro t u hgiven
    obtain ⟨op, next, hcall⟩ := hgiven
    cases hcall
  · intro t hgiven
    obtain ⟨op, next, hcall⟩ := hgiven
    cases hcall
  · intro t k hmem
    cases hmem
  · intro past mid later x hsplit
    simp [Sharing.initial, transactions] at hsplit
  · intro past later byte transaction hsplit
    simp [Sharing.initial] at hsplit

/-- The lock and the guard together leave a transaction that begins alone. -/
theorem Safe.alone {s : Sharing} (hsafe : s.Safe) {t : Context} {task : Task}
    {program : Prog Ports Task} (hat : s.running t = .ret task)
    (hbegins : task.transaction = some program) (hapart : s.Apart (t, .first)) (u : Context) :
    ¬ s.Inside u := by
  intro hinside
  obtain ⟨⟨n, hn⟩, m, rfl⟩ := hapart rfl u hinside
  obtain rfl : t = .sio n := hn
  have hbracket : s.Brackets (.sio n) := by
    have hbelongs := hsafe.belongs hat
    cases task with
    | handler calls => exact .inr ⟨calls, hat⟩
    | idle | request _ | polling _ _ => cases hbegins
    | writing _ _ | readingBack _ _ => exact hbelongs.elim
  have howner : some (Context.sio n) = some (.sio m) :=
    (hsafe.locked n hbracket).symm.trans (hsafe.locked m (.inl hinside))
  rw [← Option.some.inj howner] at hinside
  exact not_inside_ret hat hinside

theorem Safe.step {before after : Sharing} {label : Context × Action} (hsafe : before.Safe)
    (hstep : Guarded Step Apart before label after) : after.Safe := by
  obtain ⟨hstep, hapart⟩ := hstep
  cases hstep with
  | call handler hat =>
      exact hsafe.move hat (by trivial) before.owner nofun fun n _ hbrackets =>
        hsafe.locked n hbrackets
  | beep value addr hat =>
      exact hsafe.move hat (by trivial) before.owner nofun fun n _ hbrackets =>
        hsafe.locked n hbrackets
  | @request t calls hat hfree =>
      have hbelongs : (Task.handler calls).Belongs t := by
        have hbelongs := hsafe.belongs hat
        cases t <;> exact hbelongs
      refine hsafe.move hat hbelongs (some t) (fun _ _ => rfl) fun n _ hbrackets => ?_
      have howner := hsafe.locked n hbrackets
      rw [hfree] at howner
      cases howner
  | @release t hat =>
      have hbelongs : Task.idle.Belongs t := by cases t <;> trivial
      refine hsafe.move hat hbelongs none nofun fun n hne hbrackets => ?_
      have hholds := hsafe.belongs hat
      cases t with
      | sio m =>
          have howner := (hsafe.locked n hbrackets).symm.trans
            (hsafe.locked m (.inr ⟨[], hat⟩))
          exact absurd (Option.some.inj howner) hne
      | beeper m => exact hholds.elim
  | @status t value addr ecStatus hat =>
      have hbelongs : (if superioStatusLoop ecStatus 4 = none then Task.writing value addr
          else .idle).Belongs t := by
        have hbelongs := hsafe.belongs hat
        cases t with
        | sio m => exact hbelongs.elim
        | beeper m => split <;> trivial
      have hself : ∀ calls, (if superioStatusLoop ecStatus 4 = none then Task.writing value addr
          else .idle) = .handler calls → before.owner = some t := by
        intro calls hcalls
        split at hcalls <;> cases hcalls
      exact (hsafe.move hat hbelongs before.owner hself fun n _ hbrackets =>
        hsafe.locked n hbrackets).record_none ecCPort
  | @first t task op next answer hat hbegins =>
      have hopen := hsafe.open hat hbegins (hsafe.alone hat hbegins hapart)
      have hafter := hopen.access answer (opened_running _ _ _)
      simpa [opened, goto, record] using hafter
  | next answer hat => exact hsafe.access answer hat

end Sharing

/-- In every run in which no transaction of the beeper begins inside another one and none of a handler inside one of the beeper, no access falls between two accesses of another transaction, and every data byte reaches the controller in the transaction that sent it. -/
theorem ecTransactions_never_mix {labels : List (Context × Action)} {s : Sharing}
    (hrun : Run (Guarded Sharing.Step Sharing.Apart) Sharing.initial labels s) :
    Contiguous (transactions s.log) ∧ Attributed s.log := by
  have hsafe : s.Safe := hrun.invariant (fun _ _ _ hsafe hstep => hsafe.step hstep)
    Sharing.Safe.initial
  exact ⟨hsafe.contiguous, hsafe.attributed⟩

/-- The watchdog is stopped, and then the beeper is switched on. -/
theorem ecTransactions_never_mix_wdtStop : ∃ s : Sharing,
    Run (Guarded Sharing.Step Sharing.Apart) Sharing.initial
      [(.sio 0, .call .wdtStop), (.sio 0, .request), (.sio 0, .first), (.sio 0, .next),
        (.sio 0, .next), (.sio 0, .next), (.sio 0, .next), (.sio 0, .next), (.sio 0, .release),
        (.beeper 0, .beep 1 beeperAdr6011), (.beeper 0, .status), (.beeper 0, .first),
        (.beeper 0, .next), (.beeper 0, .next), (.beeper 0, .first), (.beeper 0, .next),
        (.beeper 0, .next)] s ∧
    transactions s.log = List.replicate 6 (.sio 0, 1) ++
      (List.replicate 3 (.beeper 0, 1) ++ List.replicate 3 (.beeper 0, 2)) ∧
    Contiguous (transactions s.log) ∧ Attributed s.log := by
  have hfirst : ∀ {s after : Sharing} {label : Context × Action}, (∀ u, ¬ s.Inside u) →
      Sharing.Step s label after → Guarded Sharing.Step Sharing.Apart s label after :=
    fun hquiet hstep => ⟨hstep, fun _ u hinside => absurd hinside (hquiet u)⟩
  have hlater : ∀ {s after : Sharing} {t : Context} {action : Action}, action ≠ .first →
      Sharing.Step s (t, action) after → Guarded Sharing.Step Sharing.Apart s (t, action) after :=
    fun hne hstep => ⟨hstep, fun heq => absurd heq hne⟩
  have hnext : ∀ {s after : Sharing} {t : Context}, Sharing.Step s (t, .next) after →
      Guarded Sharing.Step Sharing.Apart s (t, .next) after := hlater (by simp)
  have hrun : ∃ s, Run (Guarded Sharing.Step Sharing.Apart) Sharing.initial
      [(.sio 0, .call .wdtStop), (.sio 0, .request), (.sio 0, .first), (.sio 0, .next),
        (.sio 0, .next), (.sio 0, .next), (.sio 0, .next), (.sio 0, .next), (.sio 0, .release),
        (.beeper 0, .beep 1 beeperAdr6011), (.beeper 0, .status), (.beeper 0, .first),
        (.beeper 0, .next), (.beeper 0, .next), (.beeper 0, .first), (.beeper 0, .next),
        (.beeper 0, .next)] s ∧
      transactions s.log = List.replicate 6 (.sio 0, 1) ++
        (List.replicate 3 (.beeper 0, 1) ++ List.replicate 3 (.beeper 0, 2)) := by
    refine ⟨_, .cons (hlater (by simp) (.call _ rfl)) <|
      .cons (hlater (by simp) (.request rfl rfl)) <|
      .cons (hfirst ?_ (.first (0 : UInt8) rfl rfl)) <| .cons (hnext (.next () rfl)) <|
      .cons (hnext (.next (0 : UInt8) rfl)) <| .cons (hnext (.next () rfl)) <|
      .cons (hnext (.next (0 : UInt8) rfl)) <| .cons (hnext (.next () rfl)) <|
      .cons (hlater (by simp) (.release rfl)) <| .cons (hlater (by simp) (.beep _ _ rfl)) <|
      .cons (hlater (by simp) (.status 0 rfl)) <| .cons (hfirst ?_ (.first () rfl rfl)) <|
      .cons (hnext (.next () rfl)) <| .cons (hnext (.next () rfl)) <|
      .cons (hfirst ?_ (.first () rfl rfl)) <| .cons (hnext (.next () rfl)) <|
      .single (hnext (.next (1 : UInt8) rfl)), rfl⟩
    all_goals
      intro u hgiven
      obtain ⟨op, next, hcall⟩ := hgiven
      by_cases hsio : u = .sio 0
      · subst hsio
        cases hcall
      by_cases hbeeper : u = .beeper 0
      · subst hbeeper
        cases hcall
      simp [Sharing.goto, Sharing.record, Sharing.initial, hsio, hbeeper] at hcall
  obtain ⟨s, hrun, hlog⟩ := hrun
  exact ⟨s, hrun, hlog, ecTransactions_never_mix hrun⟩

/-- The beeper writes its command between the command and the address of a handler, which then gives the handler's address to the beeper's transaction. -/
theorem ecTransactions_mix : ¬ ∀ (labels : List (Context × Action)) (s : Sharing),
    Run Sharing.Step Sharing.initial labels s →
      Contiguous (transactions s.log) ∧ Attributed s.log := by
  intro halways
  have hrun : ∃ s, Run Sharing.Step Sharing.initial
      [(.sio 0, .call (.g3wakeupWrite true)), (.sio 0, .request), (.sio 0, .first),
        (.sio 0, .next), (.beeper 0, .beep 1 beeperAdr6011Pro), (.beeper 0, .status),
        (.beeper 0, .first), (.sio 0, .next)] s ∧
      transactions s.log = [(.sio 0, 1), (.sio 0, 1), (.beeper 0, 1), (.sio 0, 1)] :=
    ⟨_, .cons (.call _ rfl) <| .cons (.request rfl rfl) <| .cons (.first (0 : UInt8) rfl rfl) <|
      .cons (.next () rfl) <| .cons (.beep _ _ rfl) <| .cons (.status 1 rfl) <|
      .cons (.first () rfl rfl) <| .single (.next (0 : UInt8) rfl), rfl⟩
  obtain ⟨s, hrun, hlog⟩ := hrun
  have hcontiguous := (halways _ s hrun).1
  rw [hlog] at hcontiguous
  have hmixed := hcontiguous [(.sio 0, 1)] [(.beeper 0, 1)] [] (.sio 0, 1) rfl (.beeper 0, 1)
    (List.mem_singleton.mpr rfl)
  cases hmixed

end FrontPanel.Sio
