import FrontPanel.Lib.Threads
import FrontPanel.Sio.BeeperTimer
import FrontPanel.Sio.EcHelper

/-!
# The beeper on its ports

On every product without an embedded controller the commands, the timer and the delayed work of `ug_sataio_beeper.c` come down to reads and writes of the ports of a PC: 0x61 with the two bits of the speaker, 0x42 and 0x43 with the counter that gives its tone, 0x70 and 0x71 with the CMOS. They take no lock. Two bits of port 0x61 and one of CMOS cell 0x66 are set or cleared by a read and a write with anything in between.

What is proved is that nothing is lost by it: whatever runs at once, the ports are left as if one routine had run after the other, in the order of their last accesses, and so they show what `Beeper` says. The tone has no such luck: a byte of the counter is the low one or the high one by its turn, and so two routines that load it at once can leave a tone that neither asked for.
-/

namespace FrontPanel.Sio.Speaker

open CString

/-! ### The routines -/

def oemOverRideBeepOpen : Prog Ports Unit := do
  outb 0xB6 0x43
  outb 0x44 0x42
  outb 0x09 0x42
  let speaker ← inb 0x61
  outb (speaker ||| 3) 0x61

def oemOverRideBeepClose : Prog Ports Unit := do
  let speaker ← inb 0x61
  outb (speaker &&& 0xfc) 0x61

/-- `booton` in `beeper_write` -/
def bootOn : Prog Ports Unit := do
  outb 0x66 0x70
  let val ← inb 0x71
  outb (val &&& ~~~0x01) 0x71

/-- `bootoff` in `beeper_write` -/
def bootOff : Prog Ports Unit := do
  outb 0x66 0x70
  let val ← inb 0x71
  outb (val ||| 0x01) 0x71

def bootText (val : UInt8) : List UInt8 :=
  if val &&& 0x01 ≠ 0 then ascii "bootoff\n" else ascii "booton\n"

def beeperRead (size ppos : Nat) : Prog Ports (List UInt8) := do
  if ppos ≠ 0 then return []
  outb 0x66 0x70
  let val ← inb 0x71
  return (bootText val).take size

/-- What reaches the ports: the parts of `beeper_write`, of the timer and of the delayed work that do, and a read at position 0. -/
inductive Call
  | beepOpen
  | beepClose
  | bootOn
  | bootOff
  | read (size : Nat)
deriving DecidableEq

def Call.program : Call → Prog Ports (List UInt8)
  | .beepOpen => do oemOverRideBeepOpen; return []
  | .beepClose => do oemOverRideBeepClose; return []
  | .bootOn => do Speaker.bootOn; return []
  | .bootOff => do Speaker.bootOff; return []
  | .read size => beeperRead size 0

/-! ### The ports of a PC -/

structure PcPorts where
  cmosIndex : UInt8
  cmos : UInt8 → UInt8
  /-- the bits of port 0x61 that a write sets -/
  control : BitVec 4
  /-- how often port 0x61 has been read -/
  reads : Nat
  /-- the low byte that counter 2 has been given and no high byte yet -/
  low : Option UInt8
  divisor : Nat

namespace PcPorts

/-- A byte written to counter 2. -/
def load (s : PcPorts) (value : UInt8) : PcPorts :=
  match s.low with
  | none => { s with low := some value }
  | some low => { s with low := none, divisor := low.toNat + 256 * value.toNat }

def serveIn (status : Nat → BitVec 4) (s : PcPorts) (port : UInt16) : UInt8 × PcPorts :=
  if port = 0x61 then (.ofBitVec (status s.reads ++ s.control), { s with reads := s.reads + 1 })
  else if port = 0x71 then (s.cmos s.cmosIndex, s)
  else (0xff, s)

def serveOut (s : PcPorts) (value : UInt8) (port : UInt16) : PcPorts :=
  if port = 0x61 then { s with control := value.toBitVec.setWidth 4 }
  else if port = 0x70 then { s with cmosIndex := value &&& 0x7f }
  else if port = 0x71 then { s with cmos := Function.update s.cmos s.cmosIndex value }
  else if port = 0x43 then if value >>> 6 = 2 then { s with low := none } else s
  else if port = 0x42 then s.load value
  else s

end PcPorts

/-- The upper half of what port 0x61 reads is `status`, from outside. -/
def pcPorts (status : Nat → BitVec 4) : Machine Ports PcPorts where
  serve := fun s op =>
    match op with
    | .inb port => s.serveIn status port
    | .outb value port => ((), s.serveOut value port)

/-! ### One routine at a time -/

/-- What the routines are for: the bits of port 0x61 and the CMOS. -/
structure Shown where
  control : BitVec 4
  cmos : UInt8 → UInt8

def PcPorts.shown (s : PcPorts) : Shown := ⟨s.control, s.cmos⟩

def Shown.setCell (v : Shown) (value : UInt8) : Shown :=
  { v with cmos := Function.update v.cmos 0x66 value }

/-- A routine with nothing in between. -/
def Call.atomic (v : Shown) : Call → Shown
  | .beepOpen => { v with control := v.control ||| 3 }
  | .beepClose => { v with control := v.control &&& 12 }
  | .bootOn => v.setCell (v.cmos 0x66 &&& ~~~0x01)
  | .bootOff => v.setCell (v.cmos 0x66 ||| 0x01)
  | .read _ => v

def Call.answer (v : Shown) : Call → List UInt8
  | .read size => (bootText (v.cmos 0x66)).take size
  | _ => []

/-- One routine after the other. -/
def OneByOne (v : Shown) (ended : Call × List UInt8) (v' : Shown) : Prop :=
  ended.2 = ended.1.answer v ∧ v' = ended.1.atomic v

/-- What no routine changes, and that the index stays at 0x66 once it is there. -/
structure Kept (before after : PcPorts) : Prop where
  control : after.control &&& 12 = before.control &&& 12
  cell : after.cmos 0x66 &&& ~~~0x01 = before.cmos 0x66 &&& ~~~0x01
  cells : ∀ cell, cell ≠ 0x66 → after.cmos cell = before.cmos cell
  index : before.cmosIndex = 0x66 → after.cmosIndex = 0x66

theorem Kept.refl (s : PcPorts) : Kept s s := ⟨rfl, rfl, fun _ _ => rfl, id⟩

theorem Kept.trans (a b c : PcPorts) (hab : Kept a b) (hbc : Kept b c) : Kept a c where
  control := hbc.control.trans hab.control
  cell := hbc.cell.trans hab.cell
  cells := fun cell hcell => (hbc.cells cell hcell).trans (hab.cells cell hcell)
  index := fun hindex => hbc.index (hab.index hindex)

theorem control_open (high low : BitVec 4) :
    (UInt8.ofBitVec (high ++ low) ||| 3).toBitVec.setWidth 4 = low ||| 3 := by
  revert high low
  decide

theorem control_close (high low : BitVec 4) :
    (UInt8.ofBitVec (high ++ low) &&& 0xfc).toBitVec.setWidth 4 = low &&& 12 := by
  revert high low
  decide

theorem or_three (a b : BitVec 4) (hsame : a &&& 12 = b &&& 12) : b ||| 3 = a ||| 3 := by
  revert a b
  decide

theorem and_twelve (a : BitVec 4) : (a ||| 3) &&& 12 = a &&& 12 ∧ (a &&& 12) &&& 12 = a &&& 12 := by
  revert a
  decide

theorem or_one_eq (a : UInt8) : a ||| 0x01 = (a &&& ~~~0x01) ||| 0x01 := by
  have hbits : ∀ x : BitVec 8, x ||| 1 = (x &&& ~~~1) ||| 1 := by decide
  exact UInt8.toBitVec_inj.mp (hbits a.toBitVec)

theorem or_one_and (a : UInt8) : (a ||| 0x01) &&& ~~~0x01 = a &&& ~~~0x01 := by
  have hbits : ∀ x : BitVec 8, (x ||| 1) &&& ~~~1 = x &&& ~~~1 := by decide
  exact UInt8.toBitVec_inj.mp (hbits a.toBitVec)

theorem or_one {a b : UInt8} (hsame : a &&& ~~~0x01 = b &&& ~~~0x01) : b ||| 0x01 = a ||| 0x01 := by
  rw [or_one_eq a, or_one_eq b, hsame]

/-! ### A routine takes effect last -/

section

variable {status : Nat → BitVec 4}

abbrev TakesEffect (status : Nat → BitVec 4) (call : Call) (program : Prog Ports (List UInt8))
    (s : PcPorts) : Prop :=
  Threads.EffectLast (pcPorts status) PcPorts.shown Kept OneByOne call program s

theorem takesEffect_call {call : Call} {op : PortOp}
    {next : Ports.Answer op → Prog Ports (List UInt8)} {before : PcPorts}
    (hnext : ∀ s, Kept before s →
      ((pcPorts status).serve s op).2.shown = s.shown ∧
      (s.cmosIndex = 0x66 → ((pcPorts status).serve s op).2.cmosIndex = 0x66) ∧
      TakesEffect status call (next ((pcPorts status).serve s op).1) ((pcPorts status).serve s op).2) :
    TakesEffect status call (.call op next) before := by
  intro s hs
  obtain ⟨hshown, hindex, heffect⟩ := hnext s hs
  have hcontrol := congrArg Shown.control hshown
  have hcmos := congrArg Shown.cmos hshown
  refine ⟨⟨?_, ?_, fun cell _ => congrFun hcmos cell, hindex⟩, .inr ⟨hshown, heffect⟩⟩
  · exact congrArg (· &&& 12) hcontrol
  · exact congrArg (· &&& ~~~0x01) (congrFun hcmos 0x66)

theorem takesEffect_control {call : Call} {value : UInt8} {before : PcPorts}
    (hlast : ∀ s, Kept before s → value.toBitVec.setWidth 4 = (call.atomic s.shown).control ∧
      (call.atomic s.shown).cmos = s.cmos ∧
      (call.atomic s.shown).control &&& 12 = s.control &&& 12 ∧ call.answer s.shown = []) :
    TakesEffect status call (.call (.outb value 0x61) fun _ => .ret []) before := by
  intro s hs
  obtain ⟨hvalue, hcmos, hkept, hanswer⟩ := hlast s hs
  have hserve : ((pcPorts status).serve s (.outb value 0x61)).2 =
    { s with control := value.toBitVec.setWidth 4 } := rfl
  rw [hserve, hvalue]
  refine ⟨⟨hkept, rfl, fun _ _ => rfl, id⟩, .inl ⟨[], rfl, hanswer.symm, ?_⟩⟩
  show (⟨(call.atomic s.shown).control, s.cmos⟩ : Shown) = _
  rw [← hcmos]

theorem takesEffect_cell {call : Call} {value : UInt8} {before : PcPorts}
    (hindex : before.cmosIndex = 0x66)
    (hlast : ∀ s, Kept before s → call.atomic s.shown = s.shown.setCell value ∧
      value &&& ~~~0x01 = s.cmos 0x66 &&& ~~~0x01 ∧ call.answer s.shown = []) :
    TakesEffect status call (.call (.outb value 0x71) fun _ => .ret []) before := by
  intro s hs
  obtain ⟨hatomic, hkept, hanswer⟩ := hlast s hs
  have hserve : ((pcPorts status).serve s (.outb value 0x71)).2 =
      { s with cmos := Function.update s.cmos 0x66 value } := by
    rw [← hs.index hindex]
    rfl
  rw [hserve]
  refine ⟨⟨rfl, ?_, fun cell hcell => Function.update_of_ne hcell _ _, id⟩,
    .inl ⟨[], rfl, hanswer.symm, hatomic.symm⟩⟩
  show Function.update s.cmos 0x66 value 0x66 &&& ~~~0x01 = _
  rw [Function.update_self]
  exact hkept

theorem load_shown (s : PcPorts) (value : UInt8) :
    (s.load value).shown = s.shown ∧ (s.load value).cmosIndex = s.cmosIndex := by
  rw [PcPorts.load]
  split
  · exact ⟨rfl, rfl⟩
  · exact ⟨rfl, rfl⟩

theorem takesEffect_load {call : Call} {value : UInt8} {rest : Prog Ports (List UInt8)}
    {before : PcPorts} (hrest : ∀ s, TakesEffect status call rest s) :
    TakesEffect status call (.call (.outb value 0x42) fun _ => rest) before := by
  refine takesEffect_call fun s _ => ?_
  obtain ⟨hshown, hindex⟩ := load_shown s value
  exact ⟨hshown, fun h => hindex.trans h, hrest _⟩

theorem oemOverRideBeepOpen_takesEffect (s : PcPorts) :
    TakesEffect status .beepOpen Call.beepOpen.program s := by
  refine takesEffect_call fun _ _ => ⟨rfl, id, ?_⟩
  refine takesEffect_load fun _ => takesEffect_load fun _ => ?_
  refine takesEffect_call fun s _ => ⟨rfl, id, ?_⟩
  refine takesEffect_control fun now hnow => ⟨?_, rfl, (and_twelve _).1, rfl⟩
  show (UInt8.ofBitVec (status s.reads ++ s.control) ||| 3).toBitVec.setWidth 4 = now.control ||| 3
  rw [control_open]
  exact or_three _ _ hnow.control

theorem oemOverRideBeepClose_takesEffect (s : PcPorts) :
    TakesEffect status .beepClose Call.beepClose.program s := by
  refine takesEffect_call fun s _ => ⟨rfl, id, ?_⟩
  refine takesEffect_control fun now hnow => ⟨?_, rfl, (and_twelve _).2, rfl⟩
  show (UInt8.ofBitVec (status s.reads ++ s.control) &&& 0xfc).toBitVec.setWidth 4 = now.control &&& 12
  rw [control_close]
  exact hnow.control.symm

theorem takesEffect_cmos {call : Call} {rest : UInt8 → Prog Ports (List UInt8)} {before : PcPorts}
    (hrest : ∀ s, s.cmosIndex = 0x66 → TakesEffect status call (rest (s.cmos 0x66)) s) :
    TakesEffect status call (.call (.outb 0x66 0x70) fun _ => .call (.inb 0x71) rest) before := by
  refine takesEffect_call fun _ _ => ⟨rfl, fun _ => rfl, ?_⟩
  refine takesEffect_call fun s hs => ⟨rfl, id, ?_⟩
  have hindex : s.cmosIndex = 0x66 := hs.index rfl
  have hread : ((pcPorts status).serve s (.inb 0x71)).1 = s.cmos 0x66 := by
    rw [← hindex]
    rfl
  rw [hread]
  exact hrest s hindex

theorem bootOn_takesEffect (s : PcPorts) : TakesEffect status .bootOn Call.bootOn.program s := by
  refine takesEffect_cmos fun s hindex => takesEffect_cell hindex fun now hnow => ⟨?_, ?_, rfl⟩
  · rw [← hnow.cell]
    rfl
  · rw [UInt8.and_assoc, UInt8.and_self, hnow.cell]

theorem bootOff_takesEffect (s : PcPorts) : TakesEffect status .bootOff Call.bootOff.program s := by
  refine takesEffect_cmos fun s hindex => takesEffect_cell hindex fun now hnow => ⟨?_, ?_, rfl⟩
  · rw [or_one hnow.cell]
    rfl
  · rw [or_one_and, hnow.cell]

theorem beeperRead_takesEffect (size : Nat) (s : PcPorts) :
    TakesEffect status (.read size) (Call.read size).program s := by
  refine takesEffect_call fun _ _ => ⟨rfl, fun _ => rfl, ?_⟩
  intro s hs
  have hread : ((pcPorts status).serve s (.inb 0x71)).1 = s.cmos 0x66 := by
    rw [← hs.index rfl]
    rfl
  rw [hread]
  exact ⟨Kept.refl s, .inl ⟨_, rfl, rfl, rfl⟩⟩

theorem takesEffect (call : Call) (s : PcPorts) : TakesEffect status call call.program s := by
  cases call with
  | beepOpen => exact oemOverRideBeepOpen_takesEffect s
  | beepClose => exact oemOverRideBeepClose_takesEffect s
  | bootOn => exact bootOn_takesEffect s
  | bootOff => exact bootOff_takesEffect s
  | read size => exact beeperRead_takesEffect size s

end

/-! ### Any interleaving -/

/-- The routines, whatever runs at once. -/
abbrev Step (status : Nat → BitVec 4) := Threads.Step (pcPorts status) Call.program

abbrev Shared : Type := Threads Ports PcPorts Call (List UInt8)

variable {status : Nat → BitVec 4} {first : PcPorts} {s : Shared}
  {labels : List (Threads.Label Call)}

/-- Whatever runs at once, the bits of port 0x61 and the CMOS are what the routines leave and answer one after the other, in the order in which they end. -/
theorem ports_one_by_one (status : Nat → BitVec 4)
    (hrun : Run (Step status) (Threads.start first) labels s) :
    Run OneByOne first.shown s.ended s.state.shown ∧ Kept first s.state := by
  have hlinear := Threads.linear_of_run Kept.refl Kept.trans (fun call s => takesEffect call s) hrun
  exact ⟨hlinear.ended, hlinear.kept⟩

/-- A PC whose beeper has not been used. -/
def quietPc : PcPorts := ⟨0, fun _ => 0, 0, 0, none, 0⟩

/-- An `off` that reads port 0x61 before an `on` has written it, and writes it after. -/
def onOff : List (Threads.Label Call) :=
  [.enter 0 .beepOpen, .enter 1 .beepClose, .access 0, .access 0, .access 0, .access 0, .access 1,
    .access 0, .access 1]

theorem onOff_one_by_one : ∃ s : Shared, s.ended = [(.beepOpen, []), (.beepClose, [])] ∧
    Run OneByOne quietPc.shown s.ended s.state.shown := by
  obtain ⟨s, hrun, hended⟩ : ∃ s : Shared,
      onOff.foldlM (Threads.advance (pcPorts fun _ => 0) Call.program) (.start quietPc) = some s ∧
        s.ended = [(.beepOpen, []), (.beepClose, [])] := ⟨_, rfl, rfl⟩
  exact ⟨s, hended, (ports_one_by_one _ (Threads.run_of_advance hrun)).1⟩

/-! ### What the ports show -/

/-- What the ports show and `Beeper` speaks of. -/
structure Output where
  on : Bool
  bootByte : UInt8

def Shown.output (v : Shown) : Output := ⟨decide (v.control &&& 3 = 3), v.cmos 0x66⟩

def Output.perform (o : Output) : Call → Output
  | .beepOpen => { o with on := true }
  | .beepClose => { o with on := false }
  | .bootOn => { o with bootByte := o.bootByte &&& ~~~0x01 }
  | .bootOff => { o with bootByte := o.bootByte ||| 0x01 }
  | .read _ => o

theorem control_on (control : BitVec 4) :
    (control ||| 3) &&& 3 = 3 ∧ control &&& 12 &&& 3 ≠ 3 := by
  revert control
  decide

theorem setCell_output (v : Shown) (value : UInt8) :
    (v.setCell value).output = { v.output with bootByte := value } := by
  show Output.mk _ (Function.update v.cmos 0x66 value 0x66) = _
  rw [Function.update_self]
  rfl

theorem atomic_output (v : Shown) (call : Call) : (call.atomic v).output = v.output.perform call := by
  obtain ⟨hopen, hclose⟩ := control_on v.control
  cases call with
  | beepOpen => exact congrArg (Output.mk · _) (decide_eq_true hopen)
  | beepClose => exact congrArg (Output.mk · _) (decide_eq_false hclose)
  | bootOn => exact setCell_output v _
  | bootOff => exact setCell_output v _
  | read size => rfl

theorem run_output {v v' : Shown} {ended : List (Call × List UInt8)} (hrun : Run OneByOne v ended v') :
    v'.output = (ended.map Prod.fst).foldl Output.perform v.output := by
  induction hrun with
  | nil => rfl
  | cons head _ ih =>
      obtain ⟨-, rfl⟩ := head
      rw [ih, atomic_output]
      rfl

/-! ### What the beeper does to the ports -/

/-- `set_beeper` on a product without an embedded controller. -/
def setBeeperCalls (dat : Nat) : List Call :=
  if dat = 0 then [.beepClose] else if dat = 1 then [.beepOpen] else if dat = 2 then [.beepOpen]
  else []

def orderCalls : Beeper.Order → List Call
  | .boot opened => [if opened then .bootOn else .bootOff]
  | .set dat => setBeeperCalls dat
  | .start _ _ _ => []
  | .refuse _ => []

def eventCalls : BeeperEvent → List Call
  | .write buffer copied _ =>
      if buffer.length > 31 ∨ ¬ copied then [] else orderCalls (Beeper.order (Beeper.beeperText buffer))
  | .expire => setBeeperCalls 2
  | .work => [.beepClose]

def beeperOutput (beeper : Beeper) : Output := ⟨beeper.on, beeper.bootByte⟩

theorem setBeeper_output (beeper : Beeper) (dat : Nat) :
    beeperOutput (beeper.setBeeper dat) =
      (setBeeperCalls dat).foldl Output.perform (beeperOutput beeper) := by
  rw [Beeper.setBeeper, setBeeperCalls]
  split
  · rfl
  split
  · rfl
  split
  · rfl
  · rfl

theorem obey_output (beeper : Beeper) (order : Beeper.Order) :
    beeperOutput (beeper.obey order).1 =
      (orderCalls order).foldl Output.perform (beeperOutput beeper) := by
  cases order with
  | boot opened =>
      cases opened with
      | true => rfl
      | false => rfl
  | set dat => exact setBeeper_output _ dat
  | start delayOff delayOn gCount =>
      rw [Beeper.obey, Beeper.startTimer]
      split
      · rfl
      · rfl
  | refuse result => rfl

theorem beeperTimerHandle_output (beeper : Beeper) :
    beeperOutput beeper.beeperTimerHandle =
      (setBeeperCalls 2).foldl Output.perform (beeperOutput beeper) := by
  have hcount : ∀ b : Beeper, beeperOutput b.handleCount = beeperOutput b := by
    intro b
    rw [Beeper.handleCount]
    split
    · dsimp only
      split
      · rfl
      · rfl
    · rfl
  rw [Beeper.beeperTimerHandle_parts, hcount, Beeper.handleBeep]
  show beeperOutput (Beeper.setBeeper _ 2) = _
  rw [setBeeper_output]
  split
  · rfl
  · rfl

theorem step_output {before after : Beeper} {event : BeeperEvent}
    (hstep : Beeper.step before event after) :
    beeperOutput after = (eventCalls event).foldl Output.perform (beeperOutput before) := by
  cases event with
  | write buffer copied ret =>
      have hafter : (before.beeperWrite buffer copied).1 = after := congrArg Prod.fst hstep
      rw [← hafter, Beeper.beeperWrite, eventCalls]
      by_cases hlong : buffer.length > 31
      · rw [if_pos hlong, if_pos (.inl hlong)]
        rfl
      · by_cases hcopied : copied = true
        · rw [if_neg hlong, if_neg (not_not.mpr hcopied),
            if_neg (not_or.mpr ⟨hlong, not_not.mpr hcopied⟩), Beeper.beeperCommand_order]
          exact obey_output before _
        · rw [if_neg hlong, if_pos hcopied, if_pos (.inr hcopied)]
          rfl
  | expire =>
      obtain ⟨-, rfl⟩ := hstep
      exact beeperTimerHandle_output _
  | work =>
      obtain ⟨-, rfl⟩ := hstep
      rfl

theorem beeper_run_output {before after : Beeper} {events : List BeeperEvent}
    (hrun : Run Beeper.step before events after) : beeperOutput after =
      (events.flatMap eventCalls).foldl Output.perform (beeperOutput before) := by
  induction hrun with
  | nil => rfl
  | cons head _ ih => rw [ih, step_output head, List.flatMap_cons, List.foldl_append]

/-- All but the reads. -/
def Call.writes : Call → Bool
  | .read _ => false
  | _ => true

theorem perform_writes (calls : List Call) (o : Output) :
    (calls.filter Call.writes).foldl Output.perform o = calls.foldl Output.perform o := by
  rw [List.foldl_filter]
  congr 1
  funext o call
  cases call with
  | read size => rfl
  | _ => rfl

/-- Whatever runs at once, the ports show the beeper that `Beeper` speaks of, if the routines end in the order of its events. -/
theorem ports_show_beeper {before after : Beeper} {events : List BeeperEvent}
    (hrun : Run (Step status) (Threads.start first) labels s)
    (hbeeper : Run Beeper.step before events after)
    (hcalls : (s.ended.map Prod.fst).filter Call.writes = events.flatMap eventCalls)
    (hfirst : first.shown.output = beeperOutput before) :
    s.state.shown.output = beeperOutput after := by
  have hlinear := Threads.linear_of_run Kept.refl Kept.trans (fun call s => takesEffect call s) hrun
  rw [run_output hlinear.ended, beeper_run_output hbeeper, ← hcalls, perform_writes, hfirst]

theorem onOff_shows : ∃ s : Shared, s.ended = [(.beepOpen, []), (.beepClose, [])] ∧
    s.state.shown.output = ⟨false, 0x00⟩ := by
  obtain ⟨s, hrun, hended⟩ : ∃ s : Shared,
      onOff.foldlM (Threads.advance (pcPorts fun _ => 0) Call.program) (.start quietPc) = some s ∧
        s.ended = [(.beepOpen, []), (.beepClose, [])] := ⟨_, rfl, rfl⟩
  obtain ⟨after, hbeeper, houtput⟩ : ∃ after, Run Beeper.step (.initial 0x00 false)
      [.write (ascii "on\n") true 3, .write (ascii "off\n") true 4] after ∧
        beeperOutput after = ⟨false, 0x00⟩ := ⟨_, .cons rfl (.cons rfl (.nil _)), rfl⟩
  refine ⟨s, hended, (ports_show_beeper (Threads.run_of_advance hrun) hbeeper ?_ rfl).trans houtput⟩
  rw [hended]
  decide

/-! ### The tone -/

/-- A routine that loads the counter begins only when no other one is under way. -/
def OneOpen (s : Shared) : Threads.Label Call → Prop
  | .enter _ .beepOpen => ∀ thread program, s.running thread ≠ some (.beepOpen, program)
  | _ => True

/-- An access that leaves the counter alone. -/
def Untuned : Prog.Rule Ports Unit where
  Allows := fun _ op => ∀ (status : Nat → BitVec 4) (s : PcPorts),
    ((pcPorts status).serve s op).2.low = s.low ∧ ((pcPorts status).serve s op).2.divisor = s.divisor
  next := fun _ _ => ()

def Silent (program : Prog Ports (List UInt8)) : Prop := program.Obeys Untuned (fun _ _ => True) ()

/-- The rest of `OemOverRideBeep_open`, from where the counter is loaded. -/
def openRead : Prog Ports (List UInt8) :=
  .call (.inb 0x61) fun speaker => .call (.outb (speaker ||| 3) 0x61) fun _ => .ret []

def openHigh : Prog Ports (List UInt8) := .call (.outb 0x09 0x42) fun _ => openRead

def openLow : Prog Ports (List UInt8) := .call (.outb 0x44 0x42) fun _ => openHigh

/-- How far a routine that loads the counter has come with it. -/
inductive Loading (s : PcPorts) : Prog Ports (List UInt8) → Prop
  | select : Loading s Call.beepOpen.program
  | low (hlow : s.low = none) : Loading s openLow
  | high (hlow : s.low = some 0x44) : Loading s openHigh
  | done {program : Prog Ports (List UInt8)} (hdivisor : s.divisor = 0x0944)
      (hsilent : Silent program) : Loading s program

theorem silent_cmos {rest : UInt8 → Prog Ports (List UInt8)} (hrest : ∀ val, Silent (rest val)) :
    Silent (.call (.outb 0x66 0x70) fun _ => .call (.inb 0x71) rest) :=
  ⟨fun _ _ => ⟨rfl, rfl⟩, fun _ => ⟨fun _ _ => ⟨rfl, rfl⟩, hrest⟩⟩

theorem silent_last {value : UInt8} {port : UInt16} (hport : port = 0x61 ∨ port = 0x71) :
    Silent (.call (.outb value port) fun _ => .ret []) := by
  refine ⟨fun status s => ?_, fun _ => trivial⟩
  obtain rfl | rfl := hport
  · exact ⟨rfl, rfl⟩
  · exact ⟨rfl, rfl⟩

theorem silent_speaker {rest : UInt8 → UInt8} :
    Silent (.call (.inb 0x61) fun speaker => .call (.outb (rest speaker) 0x61) fun _ => .ret []) :=
  ⟨fun _ _ => ⟨rfl, rfl⟩, fun _ => silent_last (.inl rfl)⟩

theorem silent_of_ne {call : Call} (hne : call ≠ .beepOpen) : Silent call.program := by
  cases call with
  | beepOpen => exact absurd rfl hne
  | beepClose => exact silent_speaker
  | bootOn => exact silent_cmos fun _ => silent_last (.inr rfl)
  | bootOff => exact silent_cmos fun _ => silent_last (.inr rfl)
  | read size => exact silent_cmos fun _ => trivial

/-- What holds where no two routines load the counter at once. -/
structure Tuned (s : Shared) : Prop where
  alone : ∀ {t t' p p'}, s.running t = some (.beepOpen, p) → s.running t' = some (.beepOpen, p') →
    t = t'
  loading : ∀ {t p}, s.running t = some (.beepOpen, p) → Loading s.state p
  silent : ∀ {t call p}, s.running t = some (call, p) → call ≠ .beepOpen → Silent p
  ended : ∀ {text}, (.beepOpen, text) ∈ s.ended → s.state.divisor = 0x0944

theorem Loading.congr {s next : PcPorts} {program : Prog Ports (List UInt8)}
    (hloading : Loading s program) (hlow : next.low = s.low) (hdivisor : next.divisor = s.divisor) :
    Loading next program := by
  cases hloading with
  | select => exact .select
  | low h => exact .low (hlow.trans h)
  | high h => exact .high (hlow.trans h)
  | done h hsilent => exact .done (hdivisor.trans h) hsilent

/-- The next access of a routine that loads the counter; the divisor it has is the one it is given. -/
theorem Loading.access {s : PcPorts} {op : PortOp}
    {next : Ports.Answer op → Prog Ports (List UInt8)} (hloading : Loading s (.call op next)) :
    Loading ((pcPorts status).serve s op).2 (next ((pcPorts status).serve s op).1) ∧
      (s.divisor = 0x0944 → ((pcPorts status).serve s op).2.divisor = 0x0944) := by
  generalize hprogram : (.call op next : Prog Ports (List UInt8)) = program at hloading
  cases hloading with
  | select =>
      cases hprogram
      exact ⟨.low rfl, id⟩
  | low hlow =>
      cases hprogram
      have hserve : ((pcPorts status).serve s (.outb 0x44 0x42)).2 = s.load 0x44 := rfl
      rw [hserve, PcPorts.load, hlow]
      exact ⟨.high rfl, id⟩
  | high hlow =>
      cases hprogram
      have hserve : ((pcPorts status).serve s (.outb 0x09 0x42)).2 = s.load 0x09 := rfl
      rw [hserve, PcPorts.load, hlow]
      exact ⟨.done rfl silent_speaker, fun _ => rfl⟩
  | done hdivisor hsilent =>
      obtain rfl := hprogram
      obtain ⟨hop, hnext⟩ := hsilent
      obtain ⟨-, hsame⟩ := hop status s
      exact ⟨.done (hsame.trans hdivisor) (hnext _), fun _ => hsame.trans hdivisor⟩

theorem Tuned.enter {s : Shared} {thread : Nat} {call : Call} (htuned : Tuned s)
    (hguard : OneOpen s (.enter thread call)) : Tuned
      { s with running := Function.update s.running thread (some (call, call.program)) } := by
  have hrunning : ∀ {t call' p}, Function.update s.running thread (some (call, call.program)) t =
      some (call', p) → t = thread ∧ call' = call ∧ p = call.program ∨
        t ≠ thread ∧ s.running t = some (call', p) := by
    intro t call' p hat
    by_cases hsame : t = thread
    · rw [hsame, Function.update_self] at hat
      cases hat
      exact .inl ⟨hsame, rfl, rfl⟩
    · rw [Function.update_of_ne hsame] at hat
      exact .inr ⟨hsame, hat⟩
  refine ⟨fun hleft hright => ?_, fun hat => ?_, fun hat hne => ?_, htuned.ended⟩
  · obtain ⟨rfl, rfl, -⟩ | ⟨-, hother⟩ := hrunning hleft
    · obtain ⟨rfl, -, -⟩ | ⟨-, hother⟩ := hrunning hright
      · rfl
      · exact absurd hother (hguard _ _)
    · obtain ⟨-, rfl, -⟩ | ⟨-, hother'⟩ := hrunning hright
      · exact absurd hother (hguard _ _)
      · exact htuned.alone hother hother'
  · obtain ⟨-, rfl, rfl⟩ | ⟨-, hat⟩ := hrunning hat
    · exact .select
    · exact htuned.loading hat
  · obtain ⟨-, rfl, rfl⟩ | ⟨-, hat⟩ := hrunning hat
    · exact silent_of_ne hne
    · exact htuned.silent hat hne

theorem Tuned.access {s : Shared} {thread : Nat} {call : Call} {op : PortOp}
    {next : Ports.Answer op → Prog Ports (List UInt8)} (htuned : Tuned s)
    (hat : s.running thread = some (call, .call op next)) :
    Tuned (s.goOn thread call ((pcPorts status).serve s.state op).2
      (next ((pcPorts status).serve s.state op).1)) := by
  have halone : ∀ {t t' p p'}, (s.goOn thread call ((pcPorts status).serve s.state op).2
      (next ((pcPorts status).serve s.state op).1)).running t = some (.beepOpen, p) →
      (s.goOn thread call ((pcPorts status).serve s.state op).2
        (next ((pcPorts status).serve s.state op).1)).running t' = some (.beepOpen, p') → t = t' := by
    intro t t' p p' hleft hright
    obtain ⟨rfl, rfl, -⟩ | ⟨-, hother⟩ := Threads.goOn_running hleft
    · obtain ⟨rfl, -⟩ | ⟨-, hother⟩ := Threads.goOn_running hright
      · rfl
      · exact htuned.alone hat hother
    · obtain ⟨rfl, rfl, -⟩ | ⟨-, hother'⟩ := Threads.goOn_running hright
      · exact htuned.alone hother hat
      · exact htuned.alone hother hother'
  by_cases hopen : call = .beepOpen
  · subst hopen
    obtain ⟨hloading, hkept⟩ := (htuned.loading hat).access
    refine ⟨halone, fun hother => ?_, fun hother hne => ?_, fun hmem => ?_⟩
    · rw [Threads.goOn_state]
      obtain ⟨-, -, rfl, -⟩ | ⟨hne, hother⟩ := Threads.goOn_running hother
      · exact hloading
      · exact absurd (htuned.alone hother hat) hne
    · obtain ⟨-, rfl, -⟩ | ⟨-, hother⟩ := Threads.goOn_running hother
      · exact absurd rfl hne
      · exact htuned.silent hother hne
    · rw [Threads.goOn_state]
      obtain hmem | ⟨hlast, -⟩ := Threads.goOn_ended hmem
      · exact hkept (htuned.ended hmem)
      · -- nothing is left of it, so the counter is loaded
        rw [hlast] at hloading
        cases hloading with
        | done hdivisor _ => exact hdivisor
  · obtain ⟨hop, hnext⟩ := htuned.silent hat hopen
    obtain ⟨hlow, hdivisor⟩ := hop status s.state
    refine ⟨halone, fun hother => ?_, fun hother hne => ?_, fun hmem => ?_⟩
    · rw [Threads.goOn_state]
      obtain ⟨-, rfl, -⟩ | ⟨-, hother⟩ := Threads.goOn_running hother
      · exact absurd rfl hopen
      · exact (htuned.loading hother).congr hlow hdivisor
    · obtain ⟨-, -, rfl, -⟩ | ⟨-, hother⟩ := Threads.goOn_running hother
      · exact hnext _
      · exact htuned.silent hother hne
    · rw [Threads.goOn_state, hdivisor]
      obtain hmem | ⟨-, hsame⟩ := Threads.goOn_ended hmem
      · exact htuned.ended hmem
      · exact absurd hsame.symm hopen

/-- Where no two routines load the counter at once, it has the divisor of `OemOverRideBeep_open` from the first one that ends on. -/
theorem tone_kept {text : List UInt8}
    (hrun : Run (Guarded (Step status) OneOpen) (Threads.start first) labels s)
    (hended : (.beepOpen, text) ∈ s.ended) : s.state.divisor = 0x0944 := by
  have htuned : Tuned s := by
    refine hrun.invariant (fun before label after htuned hstep => ?_) ⟨?_, ?_, ?_, ?_⟩
    · obtain ⟨hstep, hguard⟩ := hstep
      cases hstep with
      | enter call hat => exact htuned.enter hguard
      | access hat => exact htuned.access hat
    · intro t t' p p' hat
      cases hat
    · intro t p hat
      cases hat
    · intro t call p hat
      cases hat
    · intro text hmem
      cases hmem
  exact htuned.ended hended

/-- One `on` alone. -/
theorem on_tone : ∃ s : Shared, s.ended = [(.beepOpen, [])] ∧ s.state.divisor = 0x0944 := by
  obtain ⟨entered, s, henter, hrun, hended⟩ : ∃ entered s : Shared,
      Threads.advance (pcPorts fun _ => 0) Call.program (.start quietPc) (.enter 0 .beepOpen) =
          some entered ∧
        (List.replicate 5 (.access 0)).foldlM (Threads.advance (pcPorts fun _ => 0) Call.program)
          entered = some s ∧
        s.ended = [(.beepOpen, [])] := ⟨_, _, rfl, rfl, rfl⟩
  have haccesses : ∀ label ∈ List.replicate 5 (.access 0), ∀ s : Shared, OneOpen s label := by
    intro label hmem s
    rw [List.eq_of_mem_replicate hmem]
    trivial
  have hstart : OneOpen (.start quietPc) (.enter 0 .beepOpen) := by
    intro thread program hat
    cases hat
  exact ⟨s, hended, tone_kept (.cons ⟨Threads.step_of_advance henter, hstart⟩
    ((Threads.run_of_advance hrun).guarded_of_forall haccesses)) (hended ▸ List.mem_singleton_self _)⟩

/-- Two at once: each low byte is followed by the other's high byte, or taken for one. -/
theorem tone_lost : ∃ s : Shared, Run (Step fun _ => 0) (Threads.start quietPc)
    [.enter 0 .beepOpen, .enter 1 .beepOpen, .access 0, .access 1, .access 0, .access 1, .access 0,
      .access 1, .access 0, .access 1, .access 0, .access 1] s ∧
    s.ended = [(.beepOpen, []), (.beepOpen, [])] ∧ s.state.divisor = 0x0909 :=
  ⟨_, Threads.run_of_advance rfl, rfl, rfl⟩

end FrontPanel.Sio.Speaker
