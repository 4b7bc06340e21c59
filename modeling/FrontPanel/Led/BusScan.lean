import FrontPanel.Led.Mcu
import FrontPanel.Lib.CString
import FrontPanel.Lib.Machine
import Mathlib.Logic.Function.Basic

/-!
# Finding the LED controller

`ug_led_driver_init` and `ug_led_driver_exit` of `leds-mcu.c`. The adapters 0 to 98 are tried in turn: an adapter with the right name gets a client, the client is asked for its chip id up to three times, and the first one that answers with it is kept in `client0`; every other client is unregistered again. What is kept of the I2C core is what a driver can get wrong about it: the references it holds on the adapters, the clients it has made, and whether its driver is registered. An operation on something that is not held is a fault, and the core goes on as it would have.

An address of an adapter takes one client, so a client that is left behind is in the way of the next one.
-/

namespace FrontPanel.Led.BusScan

def mcuChipId : UInt8 := 0x5A
def mcuFwVer : UInt8 := 0x5D

def eNodev : Int := -19

inductive CoreOp
  | i2cGetAdapter (i : Nat)
  | adapterName (i : Nat)
  | i2cPutAdapter (i : Nat)
  | i2cNewClientDevice (i : Nat)
  | i2cSmbusReadWordData (i : Nat) (command : UInt8)
  | i2cUnregisterDevice (i : Nat)
  | i2cAddDriver
  | i2cDelDriver
  deriving DecidableEq

/-- A client at the address of the controller is named by its adapter. -/
abbrev I2cCore : Interface where
  Op := CoreOp
  Answer := fun op =>
    match op with
    | .i2cGetAdapter _ => Bool
    | .adapterName _ => List UInt8
    | .i2cPutAdapter _ => Unit
    | .i2cNewClientDevice _ => Except Int Unit
    | .i2cSmbusReadWordData _ _ => Int
    | .i2cUnregisterDevice _ => Unit
    | .i2cAddDriver => Int
    | .i2cDelDriver => Unit

/-- `client0` -/
inductive Client
  | null
  | err (ret : Int)
  | device (adapter : Nat)
  deriving DecidableEq

/-! ### The driver -/

/-- Neither comparison with the array `name` finds its prefix. -/
def unnamed (name : List UInt8) : Bool :=
  CString.strncmp (CString.ascii "SMBus") (CString.ofBuffer name) 5 ≠ 0 &&
    CString.strncmp (CString.ascii "Synopsys") (CString.ofBuffer name) 8 ≠ 0

/-- A word as the driver keeps it, in a `u16`. -/
def toU16 (value : Int) : UInt16 := UInt16.ofNat (value % 65536).toNat

def isChip (value : Int) : Bool := toU16 value == 0xC5B2

/-- The loop of `leds_ugreen_detect`, with `left` tries to go and `chipid` read last. -/
def readChipId (client : Nat) : Nat → Int → Prog I2cCore Int
  | 0, chipid => return chipid
  | left + 1, _ => do
      let chipid ← Prog.access I2cCore (.i2cSmbusReadWordData client mcuChipId)
      if isChip chipid then return chipid else readChipId client left chipid

def ledsUgreenDetect (client : Nat) : Prog I2cCore Int := do
  let chipid ← readChipId client 3 0
  if isChip chipid then
    let _vendid ← Prog.access I2cCore (.i2cSmbusReadWordData client mcuFwVer)
    return 0
  else return eNodev

/-- The loop over the adapters, from `i` on with `left` to go. -/
def scanAdapters : Nat → Nat → Client → Prog I2cCore Client
  | 0, _, client0 => return client0
  | left + 1, i, client0 => do
      let adap ← Prog.access I2cCore (.i2cGetAdapter i)
      if !adap then scanAdapters left (i + 1) client0
      else
        let name ← Prog.access I2cCore (.adapterName i)
        if unnamed name then
          Prog.access I2cCore (.i2cPutAdapter i)
          -- the name is printed once more
          let _name ← Prog.access I2cCore (.adapterName i)
          scanAdapters left (i + 1) client0
        else
          let created ← Prog.access I2cCore (.i2cNewClientDevice i)
          Prog.access I2cCore (.i2cPutAdapter i)
          match created with
          | .error ret => scanAdapters left (i + 1) (.err ret)
          | .ok _ =>
              let ret ← ledsUgreenDetect i
              if 0 = ret then return .device i
              else
                Prog.access I2cCore (.i2cUnregisterDevice i)
                scanAdapters left (i + 1) .null

def ugLedDriverInit : Prog I2cCore (Client × Int) := do
  let client0 ← scanAdapters 99 0 .null
  let ret ← Prog.access I2cCore .i2cAddDriver
  return (client0, ret)

/-- `client0` is neither `NULL` nor an error where it is unregistered. -/
def ugLedDriverExit (client0 : Client) : Prog I2cCore Unit := do
  Prog.access I2cCore .i2cDelDriver
  match client0 with
  | .null => return
  | .err _ => return
  | .device adapter => Prog.access I2cCore (.i2cUnregisterDevice adapter)

/-! ### The I2C core -/

/-- What the buses are like during one load: the adapters there are and their names, what making a client on one comes to, and what a client answers, the chip id try by try. -/
structure Buses where
  name : Nat → Option (List UInt8)
  create : Nat → Except Int Unit
  chipId : Nat → Nat → Int
  fwVer : Nat → Int
  addDriver : Int

structure Core where
  references : Nat → Nat
  clients : Nat → Bool
  driver : Bool
  /-- how often each client has been asked for its chip id since it was made -/
  asked : Nat → Nat
  faults : List CoreOp

def eBusy : Int := -16

/-- Note an operation on what is not held. -/
def Core.expect (core : Core) (held : Bool) (op : CoreOp) : Core :=
  if held then core else { core with faults := core.faults ++ [op] }

def Core.referenced (core : Core) (i : Nat) : Bool := 0 < core.references i

def Buses.serve (buses : Buses) (core : Core) : (op : CoreOp) → I2cCore.Answer op × Core
  | .i2cGetAdapter i =>
      match buses.name i with
      | none => (false, core)
      | some _ =>
          (true,
            { core with references := Function.update core.references i (core.references i + 1) })
  | .adapterName i =>
      ((buses.name i).getD [], core.expect (core.referenced i) (.adapterName i))
  | .i2cPutAdapter i =>
      let core := core.expect (core.referenced i) (.i2cPutAdapter i)
      ((), { core with references := Function.update core.references i (core.references i - 1) })
  | .i2cNewClientDevice i =>
      let core := core.expect (core.referenced i) (.i2cNewClientDevice i)
      if core.clients i then (.error eBusy, core)
      else
        match buses.create i with
        | .error ret => (.error ret, core)
        | .ok _ =>
            (.ok (),
              { core with
                clients := Function.update core.clients i true
                asked := Function.update core.asked i 0 })
  | .i2cSmbusReadWordData i command =>
      let core := core.expect (core.clients i) (.i2cSmbusReadWordData i command)
      if command = mcuChipId then
        (buses.chipId i (core.asked i),
          { core with asked := Function.update core.asked i (core.asked i + 1) })
      else (buses.fwVer i, core)
  | .i2cUnregisterDevice i =>
      let core := core.expect (core.clients i) (.i2cUnregisterDevice i)
      ((), { core with clients := Function.update core.clients i false })
  | .i2cAddDriver =>
      (buses.addDriver, { core with driver := if buses.addDriver < 0 then core.driver else true })
  | .i2cDelDriver => ((), { core.expect core.driver .i2cDelDriver with driver := false })

def Buses.core (buses : Buses) : Machine I2cCore Core where
  serve := buses.serve

/-! ### What there is to find -/

namespace Buses

/-- There is an adapter, and it is passed over for its name. -/
def ignored (buses : Buses) (i : Nat) : Bool := (buses.name i).any unnamed

def named (buses : Buses) (i : Nat) : Bool := (buses.name i).any fun name => !unnamed name

/-- One of the three tries gives the chip id. -/
def answers (buses : Buses) (i : Nat) : Bool :=
  isChip (buses.chipId i 0) || isChip (buses.chipId i 1) || isChip (buses.chipId i 2)

/-- The controller is found on the adapter, with these clients already there. -/
def shows (buses : Buses) (clients : Nat → Bool) (i : Nat) : Bool :=
  buses.named i && !clients i && (buses.create i).isOk && buses.answers i

end Buses

/-! ### A scan -/

section Scan

variable {buses : Buses} {core : Core} {client0 : Client} {i left : Nat}

theorem readChipId_run (hclient : core.clients i = true) (last : Int) :
    ∃ asked, (buses.core.run (readChipId i left last) core).2 = { core with asked } ∧
      (isChip (buses.core.run (readChipId i left last) core).1 = true ↔
        (left = 0 ∧ isChip last = true) ∨
          ∃ k < left, isChip (buses.chipId i (core.asked i + k)) = true) := by
  induction left generalizing core last with
  | zero => exact ⟨core.asked, rfl, by simp [readChipId]⟩
  | succ left ih =>
      have hserve : buses.core.serve core (.i2cSmbusReadWordData i mcuChipId) =
          (buses.chipId i (core.asked i),
            { core with asked := Function.update core.asked i (core.asked i + 1) }) := by
        simp [Buses.core, Buses.serve, Core.expect, hclient]
      rw [readChipId, Machine.run_access_bind, hserve]
      dsimp only
      by_cases hchip : isChip (buses.chipId i (core.asked i)) = true
      · rw [if_pos hchip]
        exact ⟨_, rfl, iff_of_true hchip (.inr ⟨0, Nat.succ_pos left, hchip⟩)⟩
      · rw [if_neg hchip]
        obtain ⟨asked, hafter, hiff⟩ := @ih
          { core with asked := Function.update core.asked i (core.asked i + 1) } hclient
          (buses.chipId i (core.asked i))
        refine ⟨asked, hafter, hiff.trans ?_⟩
        rw [Nat.exists_lt_succ_left]
        simp [hchip, Nat.add_assoc, Nat.add_comm 1]

theorem exists_lt_three {p : Nat → Prop} : (∃ k < 3, p k) ↔ p 0 ∨ p 1 ∨ p 2 := by
  constructor
  · intro hsome
    obtain ⟨k, hk, hp⟩ := hsome
    obtain rfl | rfl | rfl : k = 0 ∨ k = 1 ∨ k = 2 := by omega
    · exact .inl hp
    · exact .inr (.inl hp)
    · exact .inr (.inr hp)
  · rintro (hp | hp | hp)
    · exact ⟨0, by decide, hp⟩
    · exact ⟨1, by decide, hp⟩
    · exact ⟨2, by decide, hp⟩

theorem ledsUgreenDetect_run (hclient : core.clients i = true) (hasked : core.asked i = 0) :
    ∃ asked, buses.core.run (ledsUgreenDetect i) core =
      (if buses.answers i then 0 else eNodev, { core with asked }) := by
  obtain ⟨asked, hafter, hiff⟩ := @readChipId_run buses core i 3 hclient 0
  have hanswers : isChip (buses.core.run (readChipId i 3 0) core).1 = buses.answers i := by
    rw [Bool.eq_iff_iff, hiff, exists_lt_three, Buses.answers, hasked]
    simp [or_assoc]
  rw [ledsUgreenDetect, Machine.run_bind, hafter, hanswers]
  by_cases hfound : buses.answers i = true
  · rw [if_pos hfound, if_pos hfound]
    refine ⟨asked, ?_⟩
    show ((0 : Int), _) = _
    simp [Buses.core, Buses.serve, Core.expect, hclient, mcuFwVer, mcuChipId]
  · rw [if_neg hfound, if_neg hfound]
    exact ⟨asked, rfl⟩

/-- No client is an error, or none. -/
def Client.Absent (client0 : Client) : Prop := ∀ n, client0 ≠ .device n

/-- The core while the scan is at adapter `i`. -/
def Core.holding (core : Core) (i : Nat) : Core :=
  { core with references := Function.update core.references i 1 }

def Core.blamed (core : Core) (op : CoreOp) : Core := { core with faults := core.faults ++ [op] }

theorem serve_get (hunheld : core.references i = 0) (hthere : (buses.name i).isSome) :
    buses.core.serve core (.i2cGetAdapter i) = (true, core.holding i) := by
  obtain ⟨name, hname⟩ := Option.isSome_iff_exists.mp hthere
  simp [Buses.core, Buses.serve, Core.holding, hname, hunheld]

theorem serve_name {name : List UInt8} (hname : buses.name i = some name) :
    buses.core.serve (core.holding i) (.adapterName i) = (name, core.holding i) := by
  simp [Buses.core, Buses.serve, Core.holding, Core.expect, Core.referenced, hname]

theorem serve_put (hunheld : core.references i = 0) :
    buses.core.serve (core.holding i) (.i2cPutAdapter i) = ((), core) := by
  simp [Buses.core, Buses.serve, Core.holding, Core.expect, Core.referenced, ← hunheld]

/-- The name is looked at when the adapter has been given back. -/
theorem serve_stale (hunheld : core.references i = 0) :
    (buses.core.serve core (.adapterName i)).2 = core.blamed (.adapterName i) := by
  simp [Buses.core, Buses.serve, Core.expect, Core.referenced, Core.blamed, hunheld]

theorem serve_new_busy (hclient : core.clients i = true) :
    buses.core.serve (core.holding i) (.i2cNewClientDevice i) =
      (.error eBusy, core.holding i) := by
  simp [Buses.core, Buses.serve, Core.holding, Core.expect, Core.referenced, hclient]

theorem serve_new (hclient : core.clients i = false) :
    buses.core.serve (core.holding i) (.i2cNewClientDevice i) =
      (buses.create i,
        if (buses.create i).isOk then
          Core.holding
            { core with
              clients := Function.update core.clients i true
              asked := Function.update core.asked i 0 } i
        else core.holding i) := by
  cases hcreate : buses.create i with
  | error ret =>
      simp [Buses.core, Buses.serve, Core.holding, Core.expect, Core.referenced, hclient, hcreate,
        Except.isOk, Except.toBool]
  | ok created =>
      simp [Buses.core, Buses.serve, Core.holding, Core.expect, Core.referenced, hclient, hcreate,
        Except.isOk, Except.toBool]

theorem serve_unregister (hclient : core.clients i = true) :
    buses.core.serve core (.i2cUnregisterDevice i) =
      ((), { core with clients := Function.update core.clients i false }) := by
  simp [Buses.core, Buses.serve, Core.expect, hclient]

theorem scanAdapters_absent (hname : buses.name i = none) :
    buses.core.run (scanAdapters (left + 1) i client0) core =
      buses.core.run (scanAdapters left (i + 1) client0) core := by
  have hserve : buses.core.serve core (.i2cGetAdapter i) = (false, core) := by
    simp [Buses.core, Buses.serve, hname]
  rw [scanAdapters, Machine.run_access_bind, hserve]
  rfl

theorem scanAdapters_ignored (hunheld : core.references i = 0) (hignored : buses.ignored i = true) :
    buses.core.run (scanAdapters (left + 1) i client0) core =
      buses.core.run (scanAdapters left (i + 1) client0) (core.blamed (.adapterName i)) := by
  obtain ⟨name, hname, hunnamed⟩ := (Option.any_eq_true _ _).mp hignored
  rw [scanAdapters, Machine.run_access_bind, serve_get hunheld (by rw [hname]; rfl)]
  simp only [Bool.not_true, Bool.false_eq_true, if_false]
  rw [Machine.run_access_bind, serve_name hname]
  dsimp only
  rw [if_pos hunnamed, Machine.run_access_bind, serve_put hunheld, Machine.run_access_bind,
    serve_stale hunheld]

theorem scanAdapters_named (hunheld : core.references i = 0) (hnamed : buses.named i = true) :
    buses.core.run (scanAdapters (left + 1) i client0) core =
      buses.core.run
        (Prog.access I2cCore (.i2cNewClientDevice i) >>= fun created =>
          Prog.access I2cCore (.i2cPutAdapter i) >>= fun _ =>
            match created with
            | .error ret => scanAdapters left (i + 1) (.err ret)
            | .ok _ =>
                ledsUgreenDetect i >>= fun ret =>
                  if 0 = ret then return .device i
                  else
                    Prog.access I2cCore (.i2cUnregisterDevice i) >>= fun _ =>
                      scanAdapters left (i + 1) .null) (core.holding i) := by
  obtain ⟨name, hname, hunnamed⟩ := (Option.any_eq_true _ _).mp hnamed
  rw [Bool.not_eq_true'] at hunnamed
  rw [scanAdapters, Machine.run_access_bind, serve_get hunheld (by rw [hname]; rfl)]
  simp only [Bool.not_true, Bool.false_eq_true, if_false]
  rw [Machine.run_access_bind, serve_name hname]
  simp only [hunnamed, Bool.false_eq_true, if_false]

theorem scanAdapters_refused (hunheld : core.references i = 0) (hnamed : buses.named i = true)
    (hrefused : core.clients i = true ∨ (buses.create i).isOk = false) :
    ∃ ret, buses.core.run (scanAdapters (left + 1) i client0) core =
      buses.core.run (scanAdapters left (i + 1) (.err ret)) core := by
  rw [scanAdapters_named hunheld hnamed, Machine.run_access_bind]
  cases hclient : core.clients i with
  | true =>
      refine ⟨eBusy, ?_⟩
      rw [serve_new_busy hclient, Machine.run_access_bind, serve_put hunheld]
  | false =>
      rw [hclient] at hrefused
      have hcreate := hrefused.resolve_left Bool.false_ne_true
      rw [serve_new hclient, hcreate]
      cases hret : buses.create i with
      | error ret =>
          refine ⟨ret, ?_⟩
          rw [if_neg Bool.false_ne_true, Machine.run_access_bind, serve_put hunheld]
      | ok created =>
          rw [hret] at hcreate
          cases hcreate

theorem scanAdapters_made (hunheld : core.references i = 0) (hnamed : buses.named i = true)
    (hclient : core.clients i = false) (hcreate : (buses.create i).isOk = true) :
    ∃ asked, buses.core.run (scanAdapters (left + 1) i client0) core =
      if buses.answers i then
        (.device i, { core with clients := Function.update core.clients i true, asked })
      else buses.core.run (scanAdapters left (i + 1) .null) { core with asked } := by
  rw [scanAdapters_named hunheld hnamed, Machine.run_access_bind, serve_new hclient, hcreate]
  cases hret : buses.create i with
  | error ret =>
      rw [hret] at hcreate
      cases hcreate
  | ok created =>
      generalize hmade :
        { core with
          clients := Function.update core.clients i true
          asked := Function.update core.asked i 0 } = made
      have hclients : made.clients = Function.update core.clients i true := by rw [← hmade]
      have hunheld : made.references i = 0 := by rw [← hmade]; exact hunheld
      obtain ⟨asked, hdetect⟩ := @ledsUgreenDetect_run buses made i
        (by rw [hclients, Function.update_self]) (by rw [← hmade]; exact Function.update_self ..)
      rw [if_pos rfl, Machine.run_access_bind, serve_put hunheld]
      dsimp only
      rw [Machine.run_bind]
      refine ⟨asked, ?_⟩
      rw [hdetect]
      subst hmade
      cases hanswers : buses.answers i with
      | true => rfl
      | false =>
          have hback : Function.update (Function.update core.clients i true) i false =
              core.clients := by
            rw [Function.update_idem, ← hclient, Function.update_eq_self]
          show buses.core.run (Prog.access I2cCore (.i2cUnregisterDevice i) >>= _) _ = _
          rw [Machine.run_access_bind, serve_unregister (Function.update_self ..),
            if_neg Bool.false_ne_true]
          dsimp only
          rw [hback, if_neg Bool.false_ne_true]

theorem shows_iff : buses.shows core.clients i = true ↔ buses.named i = true ∧
    core.clients i = false ∧ (buses.create i).isOk = true ∧ buses.answers i = true := by
  simp [Buses.shows, and_assoc]

/-- The core at adapter `i + 1`, where the controller is not on adapter `i`. -/
def Core.passed (core : Core) (buses : Buses) (i : Nat) (asked : Nat → Nat) : Core :=
  { core with
    asked
    faults := core.faults ++ if buses.ignored i then [.adapterName i] else [] }

/-- An adapter without the controller leaves the core as it was, but for a look at its name. -/
theorem scanAdapters_passes (hunheld : core.references i = 0) (habsent : client0.Absent)
    (hshows : buses.shows core.clients i = false) :
    ∃ client1 asked, client1.Absent ∧
      buses.core.run (scanAdapters (left + 1) i client0) core =
        buses.core.run (scanAdapters left (i + 1) client1) (core.passed buses i asked) := by
  have hunblamed : buses.ignored i = false → ∀ asked,
      core.passed buses i asked = { core with asked } := by
    intro hignored asked
    rw [Core.passed, hignored, if_neg Bool.false_ne_true, List.append_nil]
  have hnothing : Client.null.Absent := fun n hdevice => by cases hdevice
  have herror : ∀ ret, (Client.err ret).Absent := fun ret n hdevice => by cases hdevice
  cases hname : buses.name i with
  | none =>
      have hignored : buses.ignored i = false := by rw [Buses.ignored, hname]; rfl
      refine ⟨client0, core.asked, habsent, ?_⟩
      rw [scanAdapters_absent hname, hunblamed hignored]
  | some name =>
      cases hunnamed : unnamed name with
      | true =>
          have hignored : buses.ignored i = true := by rw [Buses.ignored, hname]; exact hunnamed
          refine ⟨client0, core.asked, habsent, ?_⟩
          rw [scanAdapters_ignored hunheld hignored, Core.passed, hignored, if_pos rfl]
          rfl
      | false =>
          have hignored : buses.ignored i = false := by rw [Buses.ignored, hname]; exact hunnamed
          have hnamed : buses.named i = true := by
            rw [Buses.named, hname, Option.any_some, hunnamed]
            rfl
          by_cases hmade : core.clients i = false ∧ (buses.create i).isOk = true
          · obtain ⟨asked, hrun⟩ := @scanAdapters_made buses core client0 i left hunheld hnamed
              hmade.1 hmade.2
            have hanswers : buses.answers i = false := by
              rw [← Bool.not_eq_true]
              intro hanswers
              rw [shows_iff.mpr ⟨hnamed, hmade.1, hmade.2, hanswers⟩] at hshows
              cases hshows
            refine ⟨.null, asked, hnothing, ?_⟩
            rw [hrun, hanswers, if_neg Bool.false_ne_true, hunblamed hignored]
          · have hrefused : core.clients i = true ∨ (buses.create i).isOk = false := by
              cases hclient : core.clients i with
              | true => exact .inl rfl
              | false => exact .inr (Bool.not_eq_true _ ▸ fun hok => hmade ⟨hclient, hok⟩)
            obtain ⟨ret, hrun⟩ := @scanAdapters_refused buses core client0 i left hunheld hnamed
              hrefused
            refine ⟨.err ret, core.asked, herror ret, ?_⟩
            rw [hrun, hunblamed hignored]

/-! ### A whole scan -/

/-- The adapter on which the scan of `sites` stops. -/
def Buses.firstOf (buses : Buses) (clients : Nat → Bool) (sites : List Nat) : Option Nat :=
  sites.find? (buses.shows clients)

/-- The adapters among `sites` that are passed over for their name before the scan stops. -/
def Buses.passedOver (buses : Buses) (clients : Nat → Bool) (sites : List Nat) : List Nat :=
  (sites.takeWhile fun i => !buses.shows clients i).filter buses.ignored

/-- What a scan of `sites` leaves. -/
structure Scanned (buses : Buses) (core : Core) (sites : List Nat) (after : Client × Core) :
    Prop where
  client : ∀ n, after.1 = .device n ↔ buses.firstOf core.clients sites = some n
  references : after.2.references = core.references
  clients : ∀ n, after.2.clients n =
    (core.clients n || decide (buses.firstOf core.clients sites = some n))
  driver : after.2.driver = core.driver
  faults : after.2.faults =
    core.faults ++ (buses.passedOver core.clients sites).map .adapterName

theorem Scanned.next {sites : List Nat} {after : Client × Core} {asked : Nat → Nat}
    (hscanned : Scanned buses (core.passed buses i asked) sites after)
    (hshows : buses.shows core.clients i = false) : Scanned buses core (i :: sites) after := by
  have hfirst : buses.firstOf core.clients (i :: sites) = buses.firstOf core.clients sites :=
    List.find?_cons_of_neg (by rw [hshows]; exact Bool.false_ne_true)
  have hover : buses.passedOver core.clients (i :: sites) =
      (if buses.ignored i then [i] else []) ++ buses.passedOver core.clients sites := by
    rw [Buses.passedOver, List.takeWhile_cons_of_pos (by rw [hshows]; rfl), List.filter_cons]
    cases buses.ignored i with
    | true => rfl
    | false => rfl
  refine ⟨?_, hscanned.references, ?_, hscanned.driver, ?_⟩
  · rw [hfirst]
    exact hscanned.client
  · rw [hfirst]
    exact hscanned.clients
  · rw [hscanned.faults, hover, List.map_append, ← List.append_assoc]
    congr 1
    rw [Core.passed]
    cases buses.ignored i with
    | true => rfl
    | false => rfl

theorem scanAdapters_scanned (hunheld : ∀ i, core.references i = 0) (habsent : client0.Absent) :
    Scanned buses core (List.range' i left)
      (buses.core.run (scanAdapters left i client0) core) := by
  induction left generalizing i core client0 with
  | zero =>
      refine ⟨fun n => iff_of_false (habsent n) (fun hfirst => by cases hfirst), rfl,
        fun n => ?_, rfl, (List.append_nil _).symm⟩
      exact (Bool.or_false _).symm
  | succ left ih =>
      rw [List.range'_succ]
      by_cases hshows : buses.shows core.clients i = true
      · obtain ⟨hnamed, hclient, hcreate, hanswers⟩ := shows_iff.mp hshows
        obtain ⟨asked, hrun⟩ := @scanAdapters_made buses core client0 i left (hunheld i) hnamed
          hclient hcreate
        rw [if_pos hanswers] at hrun
        have hfirst : buses.firstOf core.clients (i :: List.range' (i + 1) left) = some i :=
          List.find?_cons_of_pos hshows
        rw [hrun]
        refine ⟨fun n => ?_, rfl, fun n => ?_, rfl, ?_⟩
        · rw [hfirst, Client.device.injEq, Option.some.injEq]
        · rw [hfirst]
          by_cases hsame : n = i
          · subst hsame
            simp
          · simp [hsame, Ne.symm hsame]
        · rw [Buses.passedOver, List.takeWhile_cons_of_neg (by rw [hshows]; exact Bool.false_ne_true)]
          exact (List.append_nil _).symm
      · rw [Bool.not_eq_true] at hshows
        obtain ⟨client1, asked, hclient1, hrun⟩ :=
          @scanAdapters_passes buses core client0 i left (hunheld i) habsent hshows
        rw [hrun]
        exact (@ih (core.passed buses i asked) client1 (i + 1) hunheld hclient1).next hshows

theorem ugLedDriverInit_run (hunheld : ∀ i, core.references i = 0) :
    ∃ after, Scanned buses core (List.range' 0 99)
        ((buses.core.run ugLedDriverInit core).1.1, after) ∧
      (buses.core.run ugLedDriverInit core).1.2 = buses.addDriver ∧
      (buses.core.run ugLedDriverInit core).2 =
        { after with driver := if buses.addDriver < 0 then after.driver else true } := by
  have hscanned := @scanAdapters_scanned buses core .null 0 99 hunheld
    (fun n hdevice => by cases hdevice)
  rw [ugLedDriverInit, Machine.run_bind]
  exact ⟨_, hscanned, rfl, rfl⟩

end Scan

/-! ### The adapter that is kept -/

/-- The name begins as that of a bus the controller can be on. -/
def Named (name : List UInt8) : Prop :=
  CString.ascii "SMBus" <+: CString.ofBuffer name ∨
    CString.ascii "Synopsys" <+: CString.ofBuffer name

theorem unnamed_eq_false_iff (name : List UInt8) : unnamed name = false ↔ Named name := by
  have hname := CString.zero_not_mem_ofBuffer name
  rw [Named, List.prefix_iff_eq_take, List.prefix_iff_eq_take, unnamed, Bool.and_eq_false_iff,
    decide_eq_false_iff_not, decide_eq_false_iff_not, not_not, not_not,
    CString.strncmp_eq_zero_iff (by decide) hname, CString.strncmp_eq_zero_iff (by decide) hname]
  rfl

/-- The adapter leads to the controller: it is there under a right name, takes a client, and the client gives the chip id in one of three tries. -/
structure Buses.Leads (buses : Buses) (i : Nat) : Prop where
  named : ∃ name, buses.name i = some name ∧ Named name
  create : buses.create i = .ok ()
  chipId : ∃ k < 3, toU16 (buses.chipId i k) = 0xC5B2

theorem Buses.leads_iff (buses : Buses) {clients : Nat → Bool} (hnone : ∀ i, clients i = false)
    (i : Nat) : buses.Leads i ↔ buses.shows clients i = true := by
  have hnamed : (∃ name, buses.name i = some name ∧ Named name) ↔ buses.named i = true := by
    rw [Buses.named, Option.any_eq_true]
    simp [← unnamed_eq_false_iff]
  have hcreate : buses.create i = .ok () ↔ (buses.create i).isOk = true := by
    cases buses.create i with
    | error ret => simp [Except.isOk, Except.toBool]
    | ok created => simp [Except.isOk, Except.toBool]
  have hchip : (∃ k < 3, toU16 (buses.chipId i k) = 0xC5B2) ↔ buses.answers i = true := by
    rw [exists_lt_three]
    simp [Buses.answers, isChip, or_assoc]
  rw [Buses.shows, hnone i]
  simp only [Bool.not_false, Bool.and_true, Bool.and_eq_true, ← hnamed, ← hcreate, ← hchip]
  constructor
  · intro hleads
    exact ⟨⟨hleads.named, hleads.create⟩, hleads.chipId⟩
  · intro hgiven
    exact ⟨hgiven.1.1, hgiven.1.2, hgiven.2⟩

theorem mem_takeWhile_range' {p : Nat → Bool} {start count i : Nat} :
    i ∈ (List.range' start count).takeWhile p ↔
      start ≤ i ∧ i < start + count ∧ ∀ m, start ≤ m → m ≤ i → p m = true := by
  induction count generalizing start with
  | zero =>
      refine iff_of_false List.not_mem_nil fun hgiven => ?_
      omega
  | succ count ih =>
      rw [List.range'_succ]
      cases hfirst : p start with
      | false =>
          rw [List.takeWhile_cons_of_neg (by rw [hfirst]; exact Bool.false_ne_true)]
          refine iff_of_false List.not_mem_nil fun hgiven => ?_
          have htrue := hgiven.2.2 start (Nat.le_refl start) hgiven.1
          rw [hfirst] at htrue
          cases htrue
      | true =>
          rw [List.takeWhile_cons_of_pos hfirst, List.mem_cons, ih]
          constructor
          · intro hgiven
            rcases hgiven with rfl | ⟨hle, hlt, hall⟩
            · refine ⟨Nat.le_refl i, by omega, fun m hm hmi => ?_⟩
              rw [Nat.le_antisymm hmi hm, hfirst]
            · refine ⟨by omega, by omega, fun m hm hmi => ?_⟩
              by_cases hsame : m = start
              · rw [hsame, hfirst]
              · exact hall m (by omega) hmi
          · intro hgiven
            obtain ⟨hle, hlt, hall⟩ := hgiven
            by_cases hsame : i = start
            · exact .inl hsame
            · exact .inr ⟨by omega, by omega, fun m hm hmi => hall m (by omega) hmi⟩

theorem Buses.firstOf_eq_some_iff (buses : Buses) {clients : Nat → Bool}
    (hnone : ∀ i, clients i = false) (n : Nat) :
    buses.firstOf clients (List.range' 0 99) = some n ↔
      n < 99 ∧ buses.Leads n ∧ ∀ m < n, ¬ buses.Leads m := by
  rw [Buses.firstOf, List.find?_range'_eq_some, List.mem_range'_1]
  simp only [buses.leads_iff hnone, Bool.not_eq_true, Bool.not_eq_true', Nat.zero_le, true_and,
    forall_const, Nat.zero_add]
  exact and_left_comm

theorem Buses.mem_passedOver_iff (buses : Buses) {clients : Nat → Bool}
    (hnone : ∀ i, clients i = false) (i : Nat) :
    i ∈ buses.passedOver clients (List.range' 0 99) ↔
      i < 99 ∧ (∀ m < i, ¬ buses.Leads m) ∧ ∃ name, buses.name i = some name ∧ ¬ Named name := by
  have hignored : buses.ignored i = true ↔ ∃ name, buses.name i = some name ∧ ¬ Named name := by
    rw [Buses.ignored, Option.any_eq_true]
    simp [← unnamed_eq_false_iff]
  rw [Buses.passedOver, List.mem_filter, mem_takeWhile_range', hignored]
  simp only [Bool.not_eq_true', Nat.zero_le, true_and, forall_const, Nat.zero_add,
    ← Bool.not_eq_true, ← buses.leads_iff hnone]
  constructor
  · intro hgiven
    obtain ⟨⟨hlt, hall⟩, hname⟩ := hgiven
    exact ⟨hlt, fun m hm => hall m (Nat.le_of_lt hm), hname⟩
  · intro hgiven
    obtain ⟨hlt, hall, name, hname, hunnamed⟩ := hgiven
    refine ⟨⟨hlt, fun m hm hleads => ?_⟩, name, hname, hunnamed⟩
    by_cases hsame : m = i
    · obtain ⟨other, hother, hnamed⟩ := hleads.named
      rw [hsame, hname, Option.some.injEq] at hother
      exact hunnamed (hother ▸ hnamed)
    · exact hall m (by omega) hleads

/-- The first adapter that leads to the controller is kept, and only the names of adapters that are passed over are touched without a reference. -/
theorem ugLedDriverInit_keeps_first (buses : Buses) (core : Core)
    (hunheld : ∀ i, core.references i = 0) (hnone : ∀ i, core.clients i = false) :
    let after := buses.core.run ugLedDriverInit core
    (∀ n, after.1.1 = .device n ↔ n < 99 ∧ buses.Leads n ∧ ∀ m < n, ¬ buses.Leads m) ∧
      (∀ i, after.2.references i = 0) ∧
      (∀ n, after.2.clients n = true ↔ after.1.1 = .device n) ∧
      ∃ stale : List Nat, after.2.faults = core.faults ++ stale.map .adapterName ∧ stale.Nodup ∧
        ∀ i, i ∈ stale ↔ i < 99 ∧ (∀ m < i, ¬ buses.Leads m) ∧
          ∃ name, buses.name i = some name ∧ ¬ Named name := by
  obtain ⟨after, hscanned, -, hcore⟩ := @ugLedDriverInit_run buses core hunheld
  dsimp only
  rw [hcore]
  refine ⟨fun n => ?_, fun i => ?_, fun n => ?_, _, hscanned.faults, ?_, fun i => ?_⟩
  · rw [hscanned.client n, buses.firstOf_eq_some_iff hnone]
  · rw [hscanned.references]
    exact hunheld i
  · rw [hscanned.clients n, hnone n, Bool.false_or, decide_eq_true_eq, hscanned.client n]
  · exact (List.Nodup.sublist (List.takeWhile_sublist _) List.nodup_range').filter _
  · exact buses.mem_passedOver_iff hnone i

/-- A graphics adapter, and two under the right name: the first of them answers at the second try. -/
def threeAdapters (addDriver : Int) : Buses where
  name := fun i =>
    if i = 2 then some (CString.ascii "i915 gmbus dpb")
    else if i = 3 ∨ i = 5 then some (CString.ascii "SMBus I801 adapter") else none
  create := fun _ => .ok ()
  chipId := fun _ k => if k = 0 then -6 else 0xC5B2
  fwVer := fun _ => 7
  addDriver

theorem threeAdapters_keeps_third :
    ((threeAdapters 0).core.run ugLedDriverInit
      { references := fun _ => 0
        clients := fun _ => false
        driver := false
        asked := fun _ => 0
        faults := [] }).1.1 = .device 3 := by
  refine ((ugLedDriverInit_keeps_first (threeAdapters 0) _ (fun _ => rfl) (fun _ => rfl)).1 3).mpr
    ⟨by decide, ⟨⟨_, rfl, .inl (by decide)⟩, rfl, 1, by decide, by decide⟩, ?_⟩
  intro m hm hleads
  obtain ⟨name, hname, hnamed⟩ := hleads.named
  obtain rfl | rfl | rfl : m = 0 ∨ m = 1 ∨ m = 2 := by omega
  · cases hname
  · cases hname
  · obtain rfl := Option.some.inj hname
    revert hnamed
    unfold Named
    decide

/-! ### Loading and unloading -/

structure System where
  core : Core
  /-- `client0`, while the module is loaded -/
  loaded : Option Client

/-- The buses are what they are at the time. -/
inductive Label
  | load (buses : Buses) (client0 : Client) (ret : Int)
  | unload (buses : Buses)

/-- A module whose init fails is not loaded, and its exit is not run. -/
inductive Step : System → Label → System → Prop
  | load {state : System} {client0 : Client} {ret : Int} {core : Core} (buses : Buses)
      (hloaded : state.loaded = none)
      (hrun : buses.core.run ugLedDriverInit state.core = ((client0, ret), core)) :
      Step state (.load buses client0 ret)
        { core, loaded := if ret < 0 then none else some client0 }
  | unload {state : System} {client0 : Client} (buses : Buses)
      (hloaded : state.loaded = some client0) :
      Step state (.unload buses)
        { core := (buses.core.run (ugLedDriverExit client0) state.core).2, loaded := none }

def System.initial : System where
  core :=
    { references := fun _ => 0
      clients := fun _ => false
      driver := false
      asked := fun _ => 0
      faults := [] }
  loaded := none

/-- A load found the controller on adapter `n`, and then could not register its driver. -/
def LeftBehind (labels : List Label) (n : Nat) : Prop :=
  ∃ buses ret, Label.load buses (.device n) ret ∈ labels ∧ ret < 0

structure System.Accounted (passed : List Label) (state : System) : Prop where
  references : ∀ i, state.core.references i = 0
  driver : state.core.driver = state.loaded.isSome
  clients : ∀ n, state.core.clients n = true ↔
    state.loaded = some (.device n) ∨ LeftBehind passed n
  apart : ∀ n, state.loaded = some (.device n) → ¬ LeftBehind passed n
  faults : ∀ fault ∈ state.core.faults, ∃ i, fault = .adapterName i

theorem leftBehind_snoc {passed : List Label} {label : Label} {n : Nat} :
    LeftBehind (passed ++ [label]) n ↔
      LeftBehind passed n ∨ ∃ buses ret, label = .load buses (.device n) ret ∧ ret < 0 := by
  constructor
  · intro hgiven
    obtain ⟨buses, ret, hmem, hret⟩ := hgiven
    rcases List.mem_append.mp hmem with hmem | hmem
    · exact .inl ⟨buses, ret, hmem, hret⟩
    · exact .inr ⟨buses, ret, (List.mem_singleton.mp hmem).symm, hret⟩
  · intro hgiven
    rcases hgiven with ⟨buses, ret, hmem, hret⟩ | ⟨buses, ret, rfl, hret⟩
    · exact ⟨buses, ret, List.mem_append_left _ hmem, hret⟩
    · exact ⟨buses, ret, List.mem_append_right _ (List.mem_singleton.mpr rfl), hret⟩

theorem leftBehind_load {passed : List Label} {buses : Buses} {client0 : Client} {ret : Int}
    {n : Nat} : LeftBehind (passed ++ [.load buses client0 ret]) n ↔
      LeftBehind passed n ∨ (client0 = .device n ∧ ret < 0) := by
  rw [leftBehind_snoc]
  refine or_congr_right ⟨fun hgiven => ?_, fun hgiven => ?_⟩
  · obtain ⟨other, ret, hlabel, hret⟩ := hgiven
    cases hlabel
    exact ⟨rfl, hret⟩
  · exact ⟨buses, ret, by rw [hgiven.1], hgiven.2⟩

theorem System.Accounted.load {passed : List Label} {state : System} {buses : Buses}
    {client0 : Client} {ret : Int} {core : Core} (hstate : state.Accounted passed)
    (hloaded : state.loaded = none)
    (hrun : buses.core.run ugLedDriverInit state.core = ((client0, ret), core)) :
    System.Accounted (passed ++ [.load buses client0 ret])
      { core, loaded := if ret < 0 then none else some client0 } := by
  obtain ⟨after, hscanned, hret, hcore⟩ := @ugLedDriverInit_run buses state.core hstate.references
  rw [hrun] at hscanned hret hcore
  dsimp only at hscanned hret hcore
  subst hret hcore
  have hleft : ∀ n, state.core.clients n = true ↔ LeftBehind passed n := by
    intro n
    rw [hstate.clients n, hloaded, or_iff_right (fun hnone => by cases hnone)]
  have hclients : ∀ n, after.clients n = true ↔ LeftBehind passed n ∨ client0 = .device n := by
    intro n
    rw [hscanned.clients n, Bool.or_eq_true, decide_eq_true_eq, hleft n, hscanned.client n]
  -- the scan only makes a client where none is in the way
  have hapart : ∀ n, client0 = .device n → ¬ LeftBehind passed n := by
    intro n hdevice hbehind
    have hshows := List.find?_some ((hscanned.client n).mp hdevice)
    have hfree := (shows_iff.mp hshows).2.1
    rw [(hleft n).mpr hbehind] at hfree
    cases hfree
  have hfaults : ∀ fault ∈ after.faults, ∃ i, fault = .adapterName i := by
    intro fault hmem
    rw [hscanned.faults] at hmem
    rcases List.mem_append.mp hmem with hmem | hmem
    · exact hstate.faults fault hmem
    · obtain ⟨i, -, hfault⟩ := List.mem_map.mp hmem
      exact ⟨i, hfault.symm⟩
  have hreferences : ∀ i, after.references i = 0 := by
    intro i
    rw [hscanned.references]
    exact hstate.references i
  by_cases hret : buses.addDriver < 0
  · rw [if_pos hret, if_pos hret]
    refine ⟨hreferences, ?_, fun n => ?_, fun n hdevice => (by cases hdevice), hfaults⟩
    · exact hscanned.driver.trans (hstate.driver.trans (by rw [hloaded]))
    · rw [leftBehind_load, and_iff_left hret, or_iff_right (fun hnone => by cases hnone)]
      exact hclients n
  · rw [if_neg hret, if_neg hret]
    have hsame : ∀ n, LeftBehind (passed ++ [.load buses client0 buses.addDriver]) n ↔
        LeftBehind passed n := by
      intro n
      rw [leftBehind_load]
      exact or_iff_left fun hgiven => hret hgiven.2
    refine ⟨hreferences, rfl, fun n => ?_, fun n hdevice => ?_, hfaults⟩
    · rw [hsame n, Option.some.injEq, or_comm]
      exact hclients n
    · rw [hsame n]
      exact hapart n (Option.some.inj hdevice)

theorem System.Accounted.unload {passed : List Label} {state : System} {client0 : Client}
    (hstate : state.Accounted passed) (buses : Buses) (hloaded : state.loaded = some client0) :
    System.Accounted (passed ++ [.unload buses])
      { core := (buses.core.run (ugLedDriverExit client0) state.core).2, loaded := none } := by
  have hdriver : state.core.driver = true := by rw [hstate.driver, hloaded]; rfl
  have hsame : ∀ n, LeftBehind (passed ++ [.unload buses]) n ↔ LeftBehind passed n := by
    intro n
    rw [leftBehind_snoc]
    refine or_iff_left fun hgiven => ?_
    obtain ⟨other, ret, hlabel, -⟩ := hgiven
    cases hlabel
  have hgone : buses.core.serve state.core .i2cDelDriver =
      ((), { state.core with driver := false }) := by
    simp [Buses.core, Buses.serve, Core.expect, hdriver]
  have hnothing : client0.Absent → System.Accounted (passed ++ [.unload buses])
      { core := { state.core with driver := false }, loaded := none } := by
    intro habsent
    refine ⟨hstate.references, rfl, fun n => ?_, fun n hdevice => (by cases hdevice), hstate.faults⟩
    rw [hsame n, or_iff_right (fun hnone => by cases hnone)]
    refine (hstate.clients n).trans (or_iff_right fun hdevice => ?_)
    rw [hloaded, Option.some.injEq] at hdevice
    exact habsent n hdevice
  cases client0 with
  | null =>
      rw [show buses.core.run (ugLedDriverExit .null) state.core =
        buses.core.serve state.core .i2cDelDriver from rfl, hgone]
      exact hnothing fun n hdevice => by cases hdevice
  | err ret =>
      rw [show buses.core.run (ugLedDriverExit (.err ret)) state.core =
        buses.core.serve state.core .i2cDelDriver from rfl, hgone]
      exact hnothing fun n hdevice => by cases hdevice
  | device adapter =>
      rw [show buses.core.run (ugLedDriverExit (.device adapter)) state.core =
        buses.core.serve (buses.core.serve state.core .i2cDelDriver).2
          (.i2cUnregisterDevice adapter) from rfl, hgone]
      have hclient : state.core.clients adapter = true :=
        (hstate.clients adapter).mpr (.inl hloaded)
      rw [serve_unregister]
      · refine ⟨hstate.references, rfl, fun n => ?_, fun n hdevice => (by cases hdevice),
          hstate.faults⟩
        rw [hsame n, or_iff_right (fun hnone => by cases hnone)]
        by_cases hother : n = adapter
        · subst hother
          exact iff_of_false (by simp) (hstate.apart n hloaded)
        · dsimp only
          rw [Function.update_of_ne hother]
          refine (hstate.clients n).trans (or_iff_right fun hdevice => ?_)
          rw [hloaded, Option.some.injEq, Client.device.injEq] at hdevice
          exact hother hdevice.symm
      · exact hclient

theorem System.Accounted.step {passed : List Label} {before after : System} {label : Label}
    (hbefore : before.Accounted passed) (hstep : Step before label after) :
    after.Accounted (passed ++ [label]) := by
  cases hstep with
  | load buses hloaded hrun => exact hbefore.load hloaded hrun
  | unload buses hloaded => exact hbefore.unload buses hloaded

theorem System.Accounted.initial : System.Accounted [] .initial := by
  refine ⟨fun _ => rfl, rfl, fun n => ?_, fun n hdevice => (by cases hdevice), ?_⟩
  · refine iff_of_false Bool.false_ne_true fun hgiven => ?_
    rcases hgiven with hdevice | ⟨buses, ret, hmem, -⟩
    · cases hdevice
    · exact absurd hmem List.not_mem_nil
  · intro fault hmem
    exact absurd hmem List.not_mem_nil

end FrontPanel.Led.BusScan
