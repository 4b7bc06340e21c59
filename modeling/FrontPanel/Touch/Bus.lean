import FrontPanel.Lib.Prog

/-!
# The touch controller's bus

The transfers of `axs_i2c.c`. Every bus transfer is an access answered from outside, and so is an allocation, so any of them can fail at any point. The routines run on a probed device, with `g_axs_data` and its client set; `bus_mutex`, the delays and the messages are left out. `I2C_RETRY_NUMBER` is 1, so a retry loop is one attempt.
-/

namespace FrontPanel.Touch

inductive BusOp
  | i2cMasterSend (bytes : List UInt8)
  | i2cMasterRecv (length : Nat)
  | kzalloc (size : Nat)
  deriving DecidableEq

/-- A send answers its return value, a receive its return value and the bytes stored in the buffer, an allocation whether there was memory. -/
abbrev Bus : Interface where
  Op := BusOp
  Answer := fun op =>
    match op with
    | .i2cMasterSend _ => Int
    | .i2cMasterRecv _ => Int × List UInt8
    | .kzalloc _ => Bool

def i2cMasterSend (bytes : List UInt8) : Prog Bus Int := .access Bus (.i2cMasterSend bytes)

def i2cMasterRecv (length : Nat) : Prog Bus (Int × List UInt8) :=
  .access Bus (.i2cMasterRecv length)

def kzalloc (size : Nat) : Prog Bus Bool := .access Bus (.kzalloc size)

@[simp] theorem i2cMasterSend_bind {Result : Type} (bytes : List UInt8)
    (rest : Int → Prog Bus Result) :
    i2cMasterSend bytes >>= rest = .call (.i2cMasterSend bytes) rest := rfl

@[simp] theorem i2cMasterRecv_bind {Result : Type} (length : Nat)
    (rest : Int × List UInt8 → Prog Bus Result) :
    i2cMasterRecv length >>= rest = .call (.i2cMasterRecv length) rest := rfl

@[simp] theorem kzalloc_bind {Result : Type} (size : Nat) (rest : Bool → Prog Bus Result) :
    kzalloc size >>= rest = .call (.kzalloc size) rest := rfl

/-- `-EINVAL` -/
def eInval : Int := -22

def axsCmdMaxWriteBufLen : Nat := 1024
def axsCmdMaxReadBufLen : Nat := 1024

/-- What a receive stored at the start of a buffer, and the rest of the buffer as it was. -/
def overwrite (data received : List UInt8) : List UInt8 := received ++ data.drop received.length

def axsWriteBytes (writebuf : List UInt8) : Prog Bus Int := do
  if writebuf.length = 0 ∨ axsCmdMaxWriteBufLen ≤ writebuf.length then return eInval
  let ret ← i2cMasterSend writebuf
  if ret ≠ writebuf.length then return eInval
  return ret

/-- The return value and the buffer `rdbuf` afterwards. -/
def axsReadBytes (rdbuf : List UInt8) (rdlen : Nat) : Prog Bus (Int × List UInt8) := do
  if axsCmdMaxReadBufLen ≤ rdlen then return (eInval, rdbuf)
  let (ret, received) ← i2cMasterRecv rdlen
  return (ret, overwrite rdbuf received)

/-- `ret` after the guarded send of `axs_write_bytes_read_bytes`; it starts as 0. -/
def sendCmd (cmd : List UInt8) : Prog Bus Int :=
  if 0 < cmd.length then i2cMasterSend cmd else pure 0

/-- The return value and the buffer `data` afterwards. -/
def axsWriteBytesReadBytes (cmd data : List UInt8) (datalen : Nat) :
    Prog Bus (Int × List UInt8) := do
  if axsCmdMaxWriteBufLen ≤ cmd.length ∨ axsCmdMaxReadBufLen ≤ datalen then
    return (eInval, data)
  let ret ← sendCmd cmd
  if ret ≠ cmd.length then return (ret, data)
  let (ret, received) ← i2cMasterRecv datalen
  return (ret, overwrite data received)

/-! ### What a transfer does -/

/-- A send of all of `bytes`. -/
def Sent (bytes : List UInt8) : Event Bus := ⟨.i2cMasterSend bytes, (bytes.length : Int)⟩

/-- A receive of all the bytes asked for. -/
def Received (bytes : List UInt8) : Event Bus :=
  ⟨.i2cMasterRecv bytes.length, ((bytes.length : Int), bytes)⟩

/-- A transfer is done in full and returns its length, or fails and leaves the buffer as it was. -/
def AllOrNothing : Event Bus → Prop
  | ⟨.i2cMasterSend bytes, ret⟩ => ret = bytes.length ∨ ret < 0
  | ⟨.i2cMasterRecv length, (ret, received)⟩ =>
      (ret = length ∧ received.length = length) ∨ (ret < 0 ∧ received = [])
  | ⟨.kzalloc _, _⟩ => True

theorem allOrNothing_sent (bytes : List UInt8) : AllOrNothing (Sent bytes) := .inl rfl

theorem allOrNothing_received (bytes : List UInt8) : AllOrNothing (Received bytes) :=
  .inl ⟨rfl, rfl⟩

theorem received_injective {bytes other : List UInt8} (hsame : Received bytes = Received other) :
    bytes = other := by
  injection hsame with hop hanswer
  exact (Prod.mk.inj hanswer).2

section Trace

variable {events : List (Event Bus)} {cmd data data' received writebuf : List UInt8} {ret : Int}
  {datalen : Nat}

theorem axsWriteBytes_trace (htrace : (axsWriteBytes writebuf).Trace events ret)
    (hret : ¬ ret < 0) : events = [Sent writebuf] := by
  rw [axsWriteBytes] at htrace
  split at htrace
  · exact absurd (show ret < 0 by rw [htrace.2]; decide) hret
  · simp only [i2cMasterSend_bind, Prog.trace_call] at htrace
    obtain ⟨answer, rest, rfl, htrace⟩ := htrace
    split at htrace
    · exact absurd (show ret < 0 by rw [htrace.2]; decide) hret
    · rename_i hanswer
      obtain ⟨rfl, -⟩ := htrace
      rw [not_not.mp hanswer]
      rfl

theorem axsWriteBytesReadBytes_trace (hcmd : 0 < cmd.length)
    (htrace : (axsWriteBytesReadBytes cmd data datalen).Trace events (ret, data'))
    (hbus : ∀ event ∈ events, AllOrNothing event) :
    (¬ ret < 0 ∧ ∃ received, received.length = datalen ∧
      events = [Sent cmd, Received received] ∧ data' = overwrite data received) ∨
    (ret < 0 ∧ data' = data) := by
  rw [axsWriteBytesReadBytes] at htrace
  split at htrace
  · obtain ⟨-, rfl, rfl⟩ := Prog.trace_pair.mp htrace
    exact .inr ⟨by decide, rfl⟩
  · simp only [sendCmd, if_pos hcmd, i2cMasterSend_bind, Prog.trace_call] at htrace
    obtain ⟨sent, rest, rfl, htrace⟩ := htrace
    have hsent := hbus _ List.mem_cons_self
    split at htrace
    · rename_i hpartial
      obtain ⟨-, rfl, rfl⟩ := Prog.trace_pair.mp htrace
      exact .inr ⟨hsent.resolve_left hpartial, rfl⟩
    · rename_i hfull
      obtain ⟨⟨got, received⟩, _, rfl, htrace⟩ := htrace
      obtain ⟨rfl, rfl, rfl⟩ := Prog.trace_pair.mp htrace
      have hreceived := hbus _ (List.mem_cons_of_mem _ List.mem_cons_self)
      rcases hreceived with ⟨rfl, rfl⟩ | ⟨hfailed, rfl⟩
      · rw [not_not.mp hfull]
        exact .inl ⟨by omega, received, rfl, rfl, rfl⟩
      · exact .inr ⟨hfailed, rfl⟩

theorem axsWriteBytesReadBytes_refused (hdatalen : axsCmdMaxReadBufLen ≤ datalen) :
    axsWriteBytesReadBytes cmd data datalen = .ret (eInval, data) := by
  rw [axsWriteBytesReadBytes, if_pos (.inr hdatalen)]
  rfl

theorem trace_axsWriteBytesReadBytes (hcmd : 0 < cmd.length)
    (hcmdSize : cmd.length < axsCmdMaxWriteBufLen) (hsize : received.length < axsCmdMaxReadBufLen) :
    (axsWriteBytesReadBytes cmd data received.length).Trace [Sent cmd, Received received]
      ((received.length : Int), overwrite data received) := by
  rw [axsWriteBytesReadBytes, if_neg (by omega), sendCmd, if_pos hcmd]
  simp only [i2cMasterSend_bind, Prog.trace_call]
  refine ⟨(cmd.length : Int), [Received received], rfl, ?_⟩
  rw [if_neg (not_not.mpr rfl)]
  exact ⟨((received.length : Int), received), [], rfl, rfl, rfl⟩

theorem only_axsWriteBytes {allowed : BusOp → Prop} (hsend : allowed (.i2cMasterSend writebuf)) :
    (axsWriteBytes writebuf).Only allowed := by
  rw [axsWriteBytes]
  refine Prog.only_ite (Prog.only_ret _) (Prog.only_call hsend fun answer => ?_)
  exact Prog.only_ite (Prog.only_ret _) (Prog.only_ret _)

theorem only_axsWriteBytesReadBytes {allowed : BusOp → Prop}
    (hsend : allowed (.i2cMasterSend cmd)) (hrecv : allowed (.i2cMasterRecv datalen)) :
    (axsWriteBytesReadBytes cmd data datalen).Only allowed := by
  rw [axsWriteBytesReadBytes]
  refine Prog.only_ite (Prog.only_ret _) (Prog.Only.bind ?_ fun ret => ?_)
  · rw [sendCmd]
    exact Prog.only_ite (Prog.only_call hsend fun answer => Prog.only_ret _) (Prog.only_ret _)
  · exact Prog.only_ite (Prog.only_ret _) (Prog.only_call hrecv fun answer => Prog.only_ret _)

end Trace

end FrontPanel.Touch
