import FrontPanel.Lib.Locked
import FrontPanel.Sio.Watchdog

/-!
# Handlers as transactions

The handlers of `ug_it55pro_functions.c` bracket their calls with `ec_request_ports` and `ec_release_ports`, and `functions_exit` makes five calls without: its comment says that no lock is needed there. Any number of threads run them at once, one port access after another, against a controller that takes any time for each byte, while `ug_sataio_beeper.c` leaves the two ports alone. Where `functions_exit` runs beside no handler, each of them is one step of the atomic memory: all of its calls come together, in the order in which the handlers end. Beside one it stores a byte of its own in a cell of the other's.
-/

namespace FrontPanel.Sio

open Relation

/-! ### The calls -/

/-- Who makes calls: a handler, or `functions_exit`. -/
inductive SioCall
  | handler (sio : SioHandler)
  | functionsExit

def SioCall.calls : SioCall → List EcCall
  | .handler sio => sio.calls
  | .functionsExit =>
      [.write deviceFan1Mode 0, .write deviceFan2Mode 0, .write deviceFan3Mode 0,
        .write deviceFan4Mode 0, .write ecPwrEnable 0x1]

/-- Whether the calls come between `ec_request_ports` and `ec_release_ports`. -/
def SioCall.locks : SioCall → Bool
  | .handler _ => true
  | .functionsExit => false

/-- The calls one after the other, whatever they return. -/
def makeCalls : List EcCall → Prog Ports (List EcReturn)
  | [] => return []
  | call :: calls => do
      let ret ← call.program
      let rets ← makeCalls calls
      return ret :: rets

def SioCall.body (call : SioCall) : Prog Ports (List EcReturn) := makeCalls call.calls

/-- The threads and the controller. -/
abbrev SharedEc : Type := Locked Ports Ec SioCall (List EcReturn)

/-- The calls that the handlers have made, with what each returned. -/
def made (ended : List (SioCall × List EcReturn)) : List (EcCall × EcReturn) :=
  ended.flatMap fun record => record.1.calls.zip record.2

namespace Ec

/-- The controller owes `byte`, and once the byte is in the output buffer nothing is outstanding. -/
def Due (byte : UInt8) (ec : Ec) : Prop :=
  Awaits byte ec ∧ (ec.core.obf ≠ none → ec.latch = none ∧ ec.ibf = none)

theorem Due.step {byte : UInt8} {before after : Ec} (hdue : Due byte before)
    (hstep : Internal before after) : Due byte after := by
  obtain ⟨hawaits, hlast⟩ := hdue
  refine ⟨hawaits.step hstep, ?_⟩
  cases hstep with
  | take _ hibf =>
      intro hsome
      have hnone := (hlast hsome).2
      rw [hibf] at hnone
      cases hnone
  | @handle taken hlatch =>
      have hcore : before.core.receive taken = before.drain := by simp [drain, hlatch]
      intro hsome
      refine ⟨rfl, ?_⟩
      by_contra hibf
      exact hsome (hcore ▸ hawaits.2.2 hibf)

theorem Due.internal {byte : UInt8} {before after : Ec} (hdue : Due byte before)
    (hsteps : ReflTransGen Internal before after) : Due byte after := by
  induction hsteps with
  | refl => exact hdue
  | tail _ hstep ih => exact ih.step hstep

end Ec

/-- A read that did not give up waiting for its byte. -/
def InTime : EcCall × EcReturn → Prop
  | (.read _, ret) => ret.1 = 0
  | (.write _ _, _) => True

/-- A handler as one step of the memory: all of its calls, with nothing between them. -/
def AtomicMemory.transaction (before : AtomicMemory) (record : SioCall × List EcReturn)
    (after : AtomicMemory) : Prop :=
  record.2.length = record.1.calls.length ∧
    Run AtomicMemory.step before (record.1.calls.zip record.2) after

section Shared

variable {mem : AtomicMemory} {labels : List (Locked.Label SioCall)} {s : SharedEc}

end Shared

theorem write_parts (address value : UInt8) (rest : EcReturn → Prog Ports (List EcReturn)) :
    ∃ sendAddress sendValue finish : Int → Prog Ports (List EcReturn),
      (EcCall.write address value).program >>= rest = ecSendCommand ecCWriteMem >>= sendAddress ∧
        sendAddress 0 = ecSendData address >>= sendValue ∧
        sendValue 0 = ecSendData value >>= finish ∧ finish 0 = rest (0, none) := by
  let sendValue (ret : Int) : Prog Ports Int := if ret ≠ 0 then return ret else ecSendData value
  let sendAddress (ret : Int) : Prog Ports Int :=
    if ret ≠ 0 then return ret else ecSendData address >>= sendValue
  let finish (ret : Int) : Prog Ports (List EcReturn) := rest (ret, none)
  refine ⟨fun ret => sendAddress ret >>= finish, fun ret => sendValue ret >>= finish, finish,
    ?_, ?_, rfl, rfl⟩
  · show (ecSendCommand ecCWriteMem >>= sendAddress >>= fun ret => .ret (ret, none)) >>= rest = _
    rw [Prog.bind_assoc, Prog.bind_assoc]
    rfl
  · exact Prog.bind_assoc (ecSendData address) sendValue finish

/-- A handler that holds the ports and `functions_exit`, with what is left of each. -/
def besideExit (sio : SioHandler) (ec : Ec) (handler exit : Option (Prog Ports (List EcReturn))) :
    SharedEc where
  state := ec
  owner := some 0
  running := Function.update (Function.update (fun _ => none) 0 (handler.map (.handler sio, ·))) 1
    (exit.map (.functionsExit, ·))
  ended := []

section Beside

variable {sio : SioHandler} {ec after : Ec} {handler exit : Option (Prog Ports (List EcReturn))}
  {send : Prog Ports Int} {rest : Int → Prog Ports (List EcReturn)}

theorem besideExit_handler (hexec : send.Exec Ec.device ec 0 after) :
    ∃ labels, Run (Locked.Step Ec.device SioCall.body SioCall.locks)
      (besideExit sio ec (some (send >>= rest)) exit) labels
      (besideExit sio after (some (rest 0)) exit) := by
  have hat : (besideExit sio ec (some (send >>= rest)) exit).running 0 =
    some (.handler sio, send >>= rest) := rfl
  obtain ⟨labels, hrun⟩ := @Locked.run_of_part _ _ _ _ _ SioCall.body SioCall.locks _ _ _ _ _ _ _ _
    hat hexec
  have hsame : Function.update (besideExit sio ec (some (send >>= rest)) exit).running 0
      (some (.handler sio, rest 0)) = (besideExit sio after (some (rest 0)) exit).running := by
    rw [besideExit, Function.update_comm (by decide), Function.update_idem]
    rfl
  rw [hsame] at hrun
  exact ⟨labels, hrun.unguarded⟩

theorem besideExit_exit (hexec : send.Exec Ec.device ec 0 after) :
    ∃ labels, Run (Locked.Step Ec.device SioCall.body SioCall.locks)
      (besideExit sio ec handler (some (send >>= rest))) labels
      (besideExit sio after handler (some (rest 0))) := by
  have hat : (besideExit sio ec handler (some (send >>= rest))).running 1 =
    some (.functionsExit, send >>= rest) := rfl
  obtain ⟨labels, hrun⟩ := @Locked.run_of_part _ _ _ _ _ SioCall.body SioCall.locks _ _ _ _ _ _ _ _
    hat hexec
  have hsame : Function.update (besideExit sio ec handler (some (send >>= rest))).running 1
      (some (.functionsExit, rest 0)) = (besideExit sio after handler (some (rest 0))).running := by
    rw [besideExit, Function.update_idem]
    rfl
  rw [hsame] at hrun
  exact ⟨labels, hrun.unguarded⟩

theorem besideExit_enter (sio : SioHandler) (ec : Ec) :
    Locked.Step Ec.device SioCall.body SioCall.locks (Locked.start ec) (.enter 0 (.handler sio))
      (besideExit sio ec (some (SioCall.handler sio).body) none) := by
  let s : SharedEc := Locked.start ec
  have hstep : Locked.Step Ec.device SioCall.body SioCall.locks s (.enter 0 (.handler sio))
      ⟨ec, some 0, Function.update s.running 0 (some (.handler sio, (SioCall.handler sio).body)),
        []⟩ := .enter _ rfl fun _ => rfl
  have hsame : (besideExit sio ec (some (SioCall.handler sio).body) none).running =
      Function.update s.running 0 (some (.handler sio, (SioCall.handler sio).body)) :=
    Function.update_eq_self _ _
  rw [← hsame] at hstep
  exact hstep

theorem besideExit_unload (sio : SioHandler) (ec : Ec)
    (handler : Option (Prog Ports (List EcReturn))) :
    Locked.Step Ec.device SioCall.body SioCall.locks (besideExit sio ec handler none)
      (.enter 1 .functionsExit) (besideExit sio ec handler (some SioCall.functionsExit.body)) := by
  let s := besideExit sio ec handler none
  have hstep : Locked.Step Ec.device SioCall.body SioCall.locks s (.enter 1 .functionsExit)
      ⟨ec, some 0, Function.update s.running 1
        (some (.functionsExit, SioCall.functionsExit.body)), []⟩ := .enter _ rfl nofun
  have hsame : Function.update s.running 1 (some (.functionsExit, SioCall.functionsExit.body)) =
      (besideExit sio ec handler (some SioCall.functionsExit.body)).running :=
    Function.update_idem _ _ _
  rw [hsame] at hstep
  exact hstep

theorem besideExit_leave (sio : SioHandler) (ec : Ec) (rets : List EcReturn)
    (exit : Option (Prog Ports (List EcReturn))) :
    ∃ running, Locked.Step Ec.device SioCall.body SioCall.locks
      (besideExit sio ec (some (.ret rets)) exit) (.leave 0)
      ⟨ec, none, running, [(.handler sio, rets)]⟩ := by
  have hat : (besideExit sio ec (some (.ret rets)) exit).running 0 =
    some (.handler sio, .ret rets) := rfl
  exact ⟨_, .leave hat⟩

end Beside

/-- Waking up is switched on while the module is unloaded: every call of the handler returns 0, and its cell holds the address that `functions_exit` sent. -/
theorem functionsExit_overlaps : ∃ labels, ∃ s : SharedEc,
    Run (Locked.Step Ec.device SioCall.body SioCall.locks)
      (Locked.start (Ec.idle (fun _ => 0) none)) labels s ∧
    s.ended = [(.handler (.g3wakeupWrite true), [(0, none)])] ∧
    s.state.settle.core.mem g3WakeupAdr = deviceFan1Mode := by
  obtain ⟨address, value, finish, hbody, haddress, hvalue, hfinish⟩ := write_parts g3WakeupAdr 1
    fun ret => makeCalls [] >>= fun rets => .ret (ret :: rets)
  obtain ⟨address', value', -, hbody', haddress', -⟩ := write_parts deviceFan1Mode 0
    fun ret => makeCalls [.write deviceFan2Mode 0, .write deviceFan3Mode 0,
      .write deviceFan4Mode 0, .write ecPwrEnable 0x1] >>= fun rets => .ret (ret :: rets)
  have hbody : (SioCall.handler (.g3wakeupWrite true)).body =
    ecSendCommand ecCWriteMem >>= address := hbody
  have hbody' : SioCall.functionsExit.body = ecSendCommand ecCWriteMem >>= address' := hbody'
  refine Run.exists_append ⟨_, .single (besideExit_enter (.g3wakeupWrite true) _)⟩ ?_
  rw [hbody]
  refine Run.exists_append (besideExit_handler (Ec.ecSendCommand_prompt _ _)) ?_
  refine Run.exists_append ⟨_, .single (besideExit_unload _ _ _)⟩ ?_
  rw [hbody']
  refine Run.exists_append (besideExit_exit (Ec.ecSendCommand_prompt _ _)) ?_
  -- each sends its address: the controller takes the second one for the value
  rw [haddress, haddress']
  refine Run.exists_append (besideExit_handler (Ec.ecSendData_prompt _ _)) ?_
  refine Run.exists_append (besideExit_exit (Ec.ecSendData_prompt _ _)) ?_
  rw [hvalue]
  refine Run.exists_append (besideExit_handler (Ec.ecSendData_prompt _ _)) ?_
  rw [hfinish]
  obtain ⟨_, hleave⟩ := besideExit_leave (.g3wakeupWrite true) _ [(0, none)] (some (value' 0))
  exact ⟨_, _, .single hleave, rfl, rfl⟩

/-! ### The watchdog among the handlers -/

theorem AtomicMemory.applyAll_append (mem : AtomicMemory) (past later : List (EcCall × EcReturn)) :
    mem.applyAll (past ++ later) = (mem.applyAll past).applyAll later := List.foldl_append

end FrontPanel.Sio
