import FrontPanel.Touch.Bus

/-!
# Short counts on the touch controller's bus

`i2c_master_send` and `i2c_master_recv` return a negative error, or how many bytes they moved, which may be fewer than asked for. The three primitives of `axs_i2c.c` hand that number on differently. Callers look at its sign and at nothing else, so a primitive says what they take it to say where it is not negative exactly for the calls that moved everything they had to. `axs_write_bytes` makes an error of a short count; the two that read return it as it is.
-/

namespace FrontPanel.Touch

/-! ### Results of a transfer -/

/-- The number a transfer returned, and the number of bytes it was to move. -/
def resultOf : Event Bus → Int × Nat
  | ⟨.i2cMasterSend bytes, ret⟩ => (ret, bytes.length)
  | ⟨.i2cMasterRecv length, (ret, _)⟩ => (ret, length)
  | ⟨.kzalloc _, _⟩ => (0, 0)

/-- A negative value, or a count of at most what was asked for. -/
def Possible (event : Event Bus) : Prop := (resultOf event).1 ≤ (resultOf event).2

instance (event : Event Bus) : Decidable (Possible event) := inferInstanceAs (Decidable (_ ≤ _))

def Full (event : Event Bus) : Prop := (resultOf event).1 = (resultOf event).2

instance (event : Event Bus) : Decidable (Full event) := inferInstanceAs (Decidable (_ = _))

def Short (event : Event Bus) : Prop :=
  0 ≤ (resultOf event).1 ∧ (resultOf event).1 < (resultOf event).2

theorem Full.not_short {event : Event Bus} (hfull : Full event) : ¬ Short event := by
  intro hshort
  exact absurd hfull (Int.ne_of_lt hshort.2)

theorem nonneg_iff_full_or_short {event : Event Bus} (hpossible : Possible event) :
    0 ≤ (resultOf event).1 ↔ Full event ∨ Short event := by
  rw [Possible] at hpossible
  rw [Full, Short]
  omega

/-! ### The primitives -/

inductive Primitive
  | axsWriteBytes (writebuf : List UInt8)
  | axsReadBytes (rdbuf : List UInt8) (rdlen : Nat)
  | axsWriteBytesReadBytes (cmd data : List UInt8) (datalen : Nat)

namespace Primitive

/-- A call of the primitive, and its return value. -/
def call : Primitive → Prog Bus Int
  | .axsWriteBytes writebuf => Touch.axsWriteBytes writebuf
  | .axsReadBytes rdbuf rdlen => do
      return (← Touch.axsReadBytes rdbuf rdlen).1
  | .axsWriteBytesReadBytes cmd data datalen => do
      return (← Touch.axsWriteBytesReadBytes cmd data datalen).1

/-- The arguments are within the primitive's length checks. -/
def LengthsPass : Primitive → Prop
  | .axsWriteBytes writebuf => 0 < writebuf.length ∧ writebuf.length < axsCmdMaxWriteBufLen
  | .axsReadBytes _ rdlen => rdlen < axsCmdMaxReadBufLen
  | .axsWriteBytesReadBytes cmd _ datalen =>
      cmd.length < axsCmdMaxWriteBufLen ∧ datalen < axsCmdMaxReadBufLen

/-- The transfers the primitive has to make. -/
def transfers : Primitive → List BusOp
  | .axsWriteBytes writebuf => [.i2cMasterSend writebuf]
  | .axsReadBytes _ rdlen => [.i2cMasterRecv rdlen]
  | .axsWriteBytesReadBytes cmd _ datalen =>
      (if 0 < cmd.length then [.i2cMasterSend cmd] else []) ++ [.i2cMasterRecv datalen]

/-- Every transfer the primitive has to make moved its full length. -/
def Moved (primitive : Primitive) (events : List (Event Bus)) : Prop :=
  events.map Event.op = primitive.transfers ∧ ∀ event ∈ events, Full event

/-- The primitive makes an error of a short count. -/
def ChecksCount : Primitive → Prop
  | .axsWriteBytes _ => True
  | .axsReadBytes _ _ => False
  | .axsWriteBytesReadBytes _ _ _ => False

end Primitive

/-! ### What a primitive returns -/

/-- The primitive stopped at its first transfer that was not made in full, and returns the result of its last one. -/
def ReturnsLast (primitive : Primitive) (events : List (Event Bus)) (ret : Int) : Prop :=
  ∃ before last, events = before ++ [last] ∧ ret = (resultOf last).1 ∧
    (∀ event ∈ before, Full event) ∧ (Full last → events.map Event.op = primitive.transfers)

theorem ReturnsLast.nonneg_iff {primitive : Primitive} {events : List (Event Bus)} {ret : Int}
    (hreturns : ReturnsLast primitive events ret) (hpossible : ∀ event ∈ events, Possible event) :
    0 ≤ ret ↔ primitive.Moved events ∨ ∃ event ∈ events, Short event := by
  obtain ⟨before, last, rfl, rfl, hbefore, hops⟩ := hreturns
  have hlast : last ∈ before ++ [last] := List.mem_append_right _ (List.mem_singleton_self _)
  rw [nonneg_iff_full_or_short (hpossible last hlast)]
  constructor
  · intro hcase
    rcases hcase with hfull | hshort
    · refine .inl ⟨hops hfull, ?_⟩
      intro event hmem
      rcases List.mem_append.mp hmem with hmem | hmem
      · exact hbefore event hmem
      · exact List.mem_singleton.mp hmem ▸ hfull
    · exact .inr ⟨last, hlast, hshort⟩
  · intro hcase
    rcases hcase with hmoved | ⟨event, hmem, hshort⟩
    · exact .inl (hmoved.2 last hlast)
    · rcases List.mem_append.mp hmem with hmem | hmem
      · exact absurd hshort (hbefore event hmem).not_short
      · exact .inr (List.mem_singleton.mp hmem ▸ hshort)

/-- What was moved in full was not cut short, so a short count is all that can go wrong. -/
theorem ReturnsLast.nonneg_iff_moved_iff {primitive : Primitive} {events : List (Event Bus)}
    {ret : Int} (hreturns : ReturnsLast primitive events ret)
    (hpossible : ∀ event ∈ events, Possible event) :
    (0 ≤ ret ↔ primitive.Moved events) ↔ ((∃ event ∈ events, Short event) → False) := by
  rw [hreturns.nonneg_iff hpossible]
  constructor
  · intro hiff hshort
    have hmoved := hiff.mp (.inr hshort)
    obtain ⟨event, hmem, hcut⟩ := hshort
    exact (hmoved.2 event hmem).not_short hcut
  · intro hnone
    exact or_iff_left hnone

section Trace

variable {events : List (Event Bus)} {cmd data writebuf rdbuf : List UInt8} {ret : Int}
  {rdlen datalen : Nat}

theorem axsReadBytes_returnsLast
    (hlengths : (Primitive.axsReadBytes rdbuf rdlen).LengthsPass)
    (htrace : (Primitive.axsReadBytes rdbuf rdlen).call.Trace events ret) :
    ReturnsLast (.axsReadBytes rdbuf rdlen) events ret := by
  have hlength : ¬ axsCmdMaxReadBufLen ≤ rdlen := Nat.not_le.mpr hlengths
  simp only [Primitive.call, Prog.pure_eq_ret, Prog.trace_map] at htrace
  obtain ⟨result, htrace, rfl⟩ := htrace
  rw [axsReadBytes, if_neg hlength] at htrace
  simp only [i2cMasterRecv_bind, Prog.trace_call] at htrace
  obtain ⟨⟨got, received⟩, rest, rfl, rfl, rfl⟩ := htrace
  exact ⟨[], _, rfl, rfl, List.forall_mem_nil _, fun _ => rfl⟩

theorem axsWriteBytesReadBytes_returnsLast
    (hlengths : (Primitive.axsWriteBytesReadBytes cmd data datalen).LengthsPass)
    (htrace : (Primitive.axsWriteBytesReadBytes cmd data datalen).call.Trace events ret) :
    ReturnsLast (.axsWriteBytesReadBytes cmd data datalen) events ret := by
  obtain ⟨hcmd, hdata⟩ := hlengths
  simp only [Primitive.call, Prog.pure_eq_ret, Prog.trace_map] at htrace
  obtain ⟨result, htrace, rfl⟩ := htrace
  rw [axsWriteBytesReadBytes, if_neg (by omega), sendCmd] at htrace
  by_cases hsend : 0 < cmd.length
  · simp only [if_pos hsend, i2cMasterSend_bind, Prog.trace_call] at htrace
    obtain ⟨sent, rest, rfl, htrace⟩ := htrace
    by_cases hfull : sent = (cmd.length : Int)
    · rw [if_neg (not_not.mpr hfull)] at htrace
      obtain ⟨⟨got, received⟩, _, rfl, rfl, rfl⟩ := htrace
      refine ⟨[⟨.i2cMasterSend cmd, sent⟩], _, rfl, rfl, ?_, ?_⟩
      · exact List.forall_mem_singleton.mpr hfull
      · intro _
        rw [Primitive.transfers, if_pos hsend]
        rfl
    · rw [if_pos hfull] at htrace
      obtain ⟨rfl, rfl⟩ := htrace
      exact ⟨[], _, rfl, rfl, List.forall_mem_nil _, fun hlast => absurd hlast hfull⟩
  · simp only [if_neg hsend, Prog.pure_eq_ret, Prog.ret_bind] at htrace
    rw [if_neg (by omega)] at htrace
    obtain ⟨⟨got, received⟩, _, rfl, rfl, rfl⟩ := htrace
    refine ⟨[], _, rfl, rfl, List.forall_mem_nil _, ?_⟩
    intro _
    rw [Primitive.transfers, if_neg hsend]
    rfl

/-- A short send is made an error of, so the sign says all. -/
theorem axsWriteBytes_nonneg_iff (hlengths : (Primitive.axsWriteBytes writebuf).LengthsPass)
    (htrace : (Primitive.axsWriteBytes writebuf).call.Trace events ret) :
    0 ≤ ret ↔ (Primitive.axsWriteBytes writebuf).Moved events := by
  obtain ⟨hpositive, hbound⟩ := hlengths
  rw [Primitive.call, axsWriteBytes, if_neg (by omega)] at htrace
  simp only [i2cMasterSend_bind, Prog.trace_call] at htrace
  obtain ⟨sent, rest, rfl, htrace⟩ := htrace
  by_cases hfull : sent = (writebuf.length : Int)
  · rw [if_neg (not_not.mpr hfull)] at htrace
    obtain ⟨rfl, rfl⟩ := htrace
    refine iff_of_true (hfull ▸ Int.natCast_nonneg _) ⟨rfl, ?_⟩
    exact List.forall_mem_singleton.mpr hfull
  · rw [if_pos hfull] at htrace
    obtain ⟨rfl, rfl⟩ := htrace
    refine iff_of_false (by decide) ?_
    intro hmoved
    exact hfull (hmoved.2 _ List.mem_cons_self)

end Trace

/-- The sign of the result says whether everything was moved, unless a primitive that does not check counts was given a short one. -/
theorem primitive_nonneg_iff_moved {primitive : Primitive} {events : List (Event Bus)} {ret : Int}
    (hlengths : primitive.LengthsPass) (htrace : primitive.call.Trace events ret)
    (hpossible : ∀ event ∈ events, Possible event) :
    (0 ≤ ret ↔ primitive.Moved events) ↔
      ((∃ event ∈ events, Short event) → primitive.ChecksCount) := by
  cases primitive with
  | axsWriteBytes writebuf =>
      exact iff_of_true (axsWriteBytes_nonneg_iff hlengths htrace) fun _ => trivial
  | axsReadBytes rdbuf rdlen =>
      exact (axsReadBytes_returnsLast hlengths htrace).nonneg_iff_moved_iff hpossible
  | axsWriteBytesReadBytes cmd data datalen =>
      exact (axsWriteBytesReadBytes_returnsLast hlengths htrace).nonneg_iff_moved_iff hpossible

theorem primitive_nonneg_iff_moved_three :
    (0 ≤ (3 : Int) ↔ (Primitive.axsReadBytes [0, 0, 0] 3).Moved [Received [1, 2, 3]]) ↔
      ((∃ event ∈ [Received [1, 2, 3]], Short event) →
        (Primitive.axsReadBytes [0, 0, 0] 3).ChecksCount) :=
  primitive_nonneg_iff_moved (show 3 < axsCmdMaxReadBufLen by decide)
    ⟨(3, [1, 2, 3]), [], rfl, rfl, rfl⟩ (List.forall_mem_singleton.mpr (by decide))

/-- One byte of three is received, and the three bytes count as read. -/
theorem axsReadBytes_short_nonneg :
    ∃ events, (Primitive.axsReadBytes [0, 0, 0] 3).LengthsPass ∧
      (Primitive.axsReadBytes [0, 0, 0] 3).call.Trace events 1 ∧
      (∀ event ∈ events, Possible event) ∧
      ¬ (0 ≤ (1 : Int) ↔ (Primitive.axsReadBytes [0, 0, 0] 3).Moved events) := by
  refine ⟨[⟨.i2cMasterRecv 3, ((1 : Int), [7])⟩],
    show 3 < axsCmdMaxReadBufLen by decide, ⟨(1, [7]), [], rfl, rfl, rfl⟩,
    List.forall_mem_singleton.mpr (by decide), ?_⟩
  intro hiff
  have hfull := (hiff.mp (by decide)).2 _ List.mem_cons_self
  exact absurd hfull (by decide)

end FrontPanel.Touch
