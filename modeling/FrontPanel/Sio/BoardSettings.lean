import FrontPanel.Lib.CString
import FrontPanel.Sio.EcContexts

/-!
# The board settings

The files `pwr`, `startup`, `G3_wakeup` and `Lan_wakeup` under `/proc/it86`, each with a write and a read handler of `ug_it55pro_functions.c`. Three of them keep their setting in a cell of the embedded controller, whose accesses succeed here, and `startup` keeps it in the last bit of the mapped power status register. A buffer fits the local array of its handler with a NUL behind it. A read gives the whole text that `simple_read_from_buffer` then hands out from the offset it is asked for.

What the files are for is four independent cells, `Settings`. `pwr`, `startup` and `G3_wakeup` keep to it. `lanwakeup_write` tests its text the wrong way round, which no file shows, since `lanwakeup_read` reads the cell of `G3_wakeup`.
-/

namespace FrontPanel.Sio

open CString

inductive SettingFile
  | pwr
  | startup
  | g3Wakeup
  | lanWakeup
deriving DecidableEq

structure Board where
  mem : AtomicMemory
  /-- the register behind `power_status_virt_addr`, and whether it is mapped -/
  powerStatus : BitVec 32
  mapped : Bool

namespace Board

/-- The calls of a handler, all of which return 0. -/
def serve (s : Board) (handler : SioHandler) : Board :=
  { s with mem := s.mem.applyAll (handler.calls.map fun call => (call, (0, none))) }

def eNoDev : Int := -19
def eFault : Int := -14
def eBusy : Int := -16

/-! ### The handlers -/

def savePowerStatus (s : Board) (status : Nat) : Board × Int :=
  if ¬ s.mapped then (s, eNoDev)
  else if status = 0 then ({ s with powerStatus := s.powerStatus ||| 1 }, 0)
  else if status = 1 then ({ s with powerStatus := s.powerStatus &&& ~~~1 }, 0)
  else (s, 0)

/-- The text in `buf` once the bytes are copied and a final newline is cut. -/
def startupText (buffer : List UInt8) : List UInt8 :=
  ofBuffer (if buffer.getLast? = some 0x0a then buffer.dropLast else buffer)

def setPowerStatus (s : Board) (buffer : List UInt8) (copied : Bool) : Board × Int :=
  if buffer.length > 11 then (s, eInval)
  else if ¬ copied then (s, eFault)
  else
    let buf := startupText buffer
    if strncasecmp buf (ascii "on") 3 = 0 then ((s.savePowerStatus 1).1, buffer.length)
    else if strncasecmp buf (ascii "off") 4 = 0 then ((s.savePowerStatus 0).1, buffer.length)
    else if strncasecmp buf (ascii "last") 5 = 0 then ((s.savePowerStatus 2).1, buffer.length)
    else (s, eInval)

def getPowerStatus (s : Board) : Except Int String :=
  if ¬ s.mapped then .error eNoDev
  else
    let powerStatus := s.powerStatus &&& 1
    if powerStatus = 0 then .ok "power on\n"
    else if powerStatus = 1 then .ok "power off\n"
    else .ok "unkown status\n"

def pwrWrite (s : Board) (buffer : List UInt8) (copied : Bool) : Board × Int :=
  if ¬ copied then (s, eInval)
  else
    match kstrtoint (ofBuffer buffer) with
    | .error _ => (s, eInval)
    | .ok inData =>
        if inData < 0 ∨ inData ≥ 8 then (s, eInval)
        else (s.serve (.pwrWrite (UInt8.ofNat inData.toNat)), buffer.length)

def pwrRead (s : Board) : Except Int String :=
  .ok ("Curren PWR  level:" ++ toString (s.mem ecPwrValue).toNat ++ "\n")

def g3wakeupWrite (s : Board) (buffer : List UInt8) (copied : Bool) : Board × Int :=
  let userBuffer := ofBuffer buffer
  if ¬ copied then (s, eInval)
  else if strncmp (ascii "on") userBuffer 2 = 0 then
    (s.serve (.g3wakeupWrite true), buffer.length)
  else if strncmp (ascii "off") userBuffer 3 = 0 then
    (s.serve (.g3wakeupWrite false), buffer.length)
  else (s, eBusy)

def g3wakeupRead (s : Board) : Except Int String :=
  let val := s.mem g3WakeupAdr
  if val = 0 ∨ val = 1 then .ok ("G3-WakeUp Status:" ++ toString val.toNat ++ "\n")
  else .error eInval

def lanwakeupWrite (s : Board) (buffer : List UInt8) (copied : Bool) : Board × Int :=
  let userBuffer := ofBuffer buffer
  if ¬ copied then (s, eInval)
  -- the results of `strncmp` are taken as they are, so this is the branch of every other text
  else if strncmp (ascii "on") userBuffer 2 ≠ 0 then
    (s.serve (.lanwakeupWrite false), buffer.length)
  else if strncmp (ascii "off") userBuffer 3 ≠ 0 then
    (s.serve (.lanwakeupWrite true), buffer.length)
  else (s, eBusy)

def lanwakeupRead (s : Board) : Except Int String :=
  let val := s.mem g3WakeupAdr
  if val = 0 ∨ val = 1 then .ok ("LAN-WakeUp Status:" ++ toString val.toNat ++ "\n")
  else .error eInval

def write (s : Board) : SettingFile → List UInt8 → Bool → Board × Int
  | .pwr => s.pwrWrite
  | .startup => s.setPowerStatus
  | .g3Wakeup => s.g3wakeupWrite
  | .lanWakeup => s.lanwakeupWrite

def read (s : Board) : SettingFile → Except Int String
  | .pwr => s.pwrRead
  | .startup => s.getPowerStatus
  | .g3Wakeup => s.g3wakeupRead
  | .lanWakeup => s.lanwakeupRead

/-- The buffer and a NUL fit the local array of the handler. -/
def Fits (buffer : List UInt8) : SettingFile → Prop
  | .startup => buffer.length < 12
  | _ => buffer.length < 8

end Board

inductive SettingEvent
  | write (file : SettingFile) (buffer : List UInt8) (copied : Bool) (ret : Int)
  | read (file : SettingFile) (result : Except Int String)

namespace Board

/-- A write of a buffer that fits, or a read. -/
def step (before : Board) (event : SettingEvent) (after : Board) : Prop :=
  match event with
  | .write file buffer copied ret =>
      Fits buffer file ∧ before.write file buffer copied = (after, ret)
  | .read file result => before.read file = result ∧ after = before

/-- The module as `functions_init` leaves it, which gives up where the register cannot be mapped. -/
def loaded (mem : AtomicMemory) (powerStatus : BitVec 32) : Board where
  mem := mem
  powerStatus := powerStatus
  mapped := true

end Board

/-! ### What the files are for -/

/-- The value each file reports. -/
abbrev Settings := SettingFile → Nat

namespace Settings

/-- The value a text asks a file to report, if it asks for one. -/
def asked (buffer : List UInt8) : SettingFile → Option Nat
  | .pwr =>
      match kstrtoint (ofBuffer buffer) with
      | .ok level => if 0 ≤ level ∧ level < 8 then some level.toNat else none
      | .error _ => none
  | .startup =>
      if (Board.startupText buffer).map tolower = ascii "on" then some 1
      else if (Board.startupText buffer).map tolower = ascii "off" then some 0
      else none
  | .g3Wakeup | .lanWakeup =>
      if ascii "on" <+: ofBuffer buffer then some 1
      else if ascii "off" <+: ofBuffer buffer then some 0
      else none

/-- Only an accepted write sets a value, the one it asks for. -/
def next (settings : Settings) : SettingEvent → Settings
  | .write file buffer _ ret =>
      if 0 ≤ ret then Function.update settings file ((asked buffer file).getD (settings file))
      else settings
  | .read _ _ => settings

def expected (settings : Settings) (history : List SettingEvent) : Settings :=
  history.foldl next settings

/-- The text that reports a value. -/
def report (value : Nat) : SettingFile → String
  | .pwr => "Curren PWR  level:" ++ toString value ++ "\n"
  | .startup => if value = 1 then "power on\n" else "power off\n"
  | .g3Wakeup => "G3-WakeUp Status:" ++ toString value ++ "\n"
  | .lanWakeup => "LAN-WakeUp Status:" ++ toString value ++ "\n"

end Settings

namespace Board

/-- What the registers hold, file by file. -/
def settings (s : Board) : Settings
  | .pwr => (s.mem ecPwrValue).toNat
  | .startup => if s.powerStatus &&& 1 = 0 then 1 else 0
  | .g3Wakeup => (s.mem g3WakeupAdr).toNat
  | .lanWakeup => (s.mem lanWakeupAdr).toNat

end Board

namespace Settings

/-- What a read gives for a value: the wake-up files have a text for 0 and 1 only. -/
def shown (value : Nat) (file : SettingFile) : Except Int String :=
  match file with
  | .pwr | .startup => .ok (report value file)
  | .g3Wakeup | .lanWakeup => if value ≤ 1 then .ok (report value file) else .error eInval

theorem toString_injective {m n : Nat} (hsame : toString m = toString n) : m = n := by
  have hdigits : Nat.toDigits 10 m = Nat.toDigits 10 n := by
    have hchars := congrArg String.toList hsame
    rwa [Nat.toString_eq_repr, Nat.toString_eq_repr, Nat.repr, Nat.repr, String.toList_ofList,
      String.toList_ofList] at hchars
  have hnumber := @Nat.ofDigitChars_ten_toDigits m
  rw [hdigits, Nat.ofDigitChars_ten_toDigits] at hnumber
  exact hnumber.symm

theorem report_lanWakeup_inj {m n : Nat}
    (hsame : report m .lanWakeup = report n .lanWakeup) : m = n := by
  have hsame : "LAN-WakeUp Status:" ++ toString m ++ "\n" =
      "LAN-WakeUp Status:" ++ toString n ++ "\n" := hsame
  rw [String.append_left_inj, String.append_right_inj] at hsame
  exact toString_injective hsame

end Settings

namespace Board

open Settings

/-! ### What a handler does -/

/-- The file whose cell a read looks at. -/
def source : SettingFile → SettingFile
  | .lanWakeup => .g3Wakeup
  | file => file

theorem le_one_iff (val : UInt8) : val = 0 ∨ val = 1 ↔ val.toNat ≤ 1 := by
  rw [← UInt8.toNat_inj, ← UInt8.toNat_inj]
  show val.toNat = 0 ∨ val.toNat = 1 ↔ _
  omega

theorem last_bit (val : BitVec 32) : val &&& 1 = 0 ∨ val &&& 1 = 1 := by
  have hbit : (val &&& 1).toNat = val.toNat % 2 := by
    rw [BitVec.toNat_and]
    exact Nat.and_one_is_mod val.toNat
  obtain hzero | hone : val.toNat % 2 = 0 ∨ val.toNat % 2 = 1 := by omega
  · left
    apply BitVec.eq_of_toNat_eq
    rw [hbit, hzero]
    rfl
  · right
    apply BitVec.eq_of_toNat_eq
    rw [hbit, hone]
    rfl

theorem read_eq {s : Board} (hmapped : s.mapped = true) (file : SettingFile) :
    s.read file = shown (s.settings (source file)) file := by
  have hwakeup : ∀ (val : UInt8) (text : String),
      (if val = 0 ∨ val = 1 then Except.ok text else .error eInval) =
        if val.toNat ≤ 1 then Except.ok text else .error eInval := by
    intro val text
    exact if_congr (le_one_iff val) rfl rfl
  cases file with
  | pwr => rfl
  | startup =>
      have hone : ¬ (1 : BitVec 32) = 0 := by decide
      show s.getPowerStatus = shown (if s.powerStatus &&& 1 = 0 then 1 else 0) .startup
      rw [getPowerStatus, if_neg (not_not.mpr hmapped)]
      obtain hzero | hset := last_bit s.powerStatus
      · rw [if_pos hzero, if_pos hzero]
        rfl
      · rw [hset, if_neg hone, if_pos rfl]
        rfl
  | g3Wakeup => exact hwakeup _ _
  | lanWakeup => exact hwakeup _ _

/-- A write is rejected with nothing changed, or sets the cell of its file and no other that is read. -/
def Writes (s : Board) (file : SettingFile) (value : Option Nat) (result : Board × Int) : Prop :=
  (result.2 < 0 ∧ result.1 = s ∧ (file = .g3Wakeup → value = none)) ∨
    (0 ≤ result.2 ∧ result.1.mapped = s.mapped ∧ (file = .g3Wakeup → value ≠ none) ∧
      ∀ other, other ≠ .lanWakeup → result.1.settings other =
        if other = file then value.getD (s.settings file) else s.settings other)

theorem pwrWrite_writes (s : Board) (buffer : List UInt8) :
    s.Writes .pwr (asked buffer .pwr) (s.pwrWrite buffer true) := by
  rw [pwrWrite, if_neg (by simp)]
  simp only [asked]
  cases kstrtoint (ofBuffer buffer) with
  | error rv => exact .inl ⟨show eInval < 0 by decide, rfl, nofun⟩
  | ok inData =>
      dsimp only
      by_cases hrange : 0 ≤ inData ∧ inData < 8
      · have hstored : (UInt8.ofNat inData.toNat).toNat = inData.toNat := by
          rw [UInt8.toNat_ofNat']
          omega
        have haccepted : ¬ (inData < 0 ∨ inData ≥ 8) := by omega
        rw [if_neg haccepted, if_pos hrange]
        refine .inr ⟨Int.natCast_nonneg _, rfl, nofun, fun other hother => ?_⟩
        cases other with
        | pwr => exact hstored
        | startup => rfl
        | g3Wakeup => rfl
        | lanWakeup => exact absurd rfl hother
      · have hrefused : inData < 0 ∨ inData ≥ 8 := by omega
        rw [if_pos hrefused, if_neg hrange]
        exact .inl ⟨show eInval < 0 by decide, rfl, nofun⟩

theorem savePowerStatus_on {s : Board} (hmapped : s.mapped = true) :
    s.savePowerStatus 1 = ({ s with powerStatus := s.powerStatus &&& ~~~1 }, 0) := by
  rw [savePowerStatus, if_neg (not_not.mpr hmapped)]
  rfl

theorem savePowerStatus_off {s : Board} (hmapped : s.mapped = true) :
    s.savePowerStatus 0 = ({ s with powerStatus := s.powerStatus ||| 1 }, 0) := by
  rw [savePowerStatus, if_neg (not_not.mpr hmapped)]
  rfl

theorem savePowerStatus_last {s : Board} (hmapped : s.mapped = true) :
    s.savePowerStatus 2 = (s, 0) := by
  rw [savePowerStatus, if_neg (not_not.mpr hmapped)]
  rfl

theorem setPowerStatus_writes {s : Board} (hmapped : s.mapped = true) {buffer : List UInt8}
    (hfits : buffer.length < 12) :
    s.Writes .startup (asked buffer .startup) (s.setPowerStatus buffer true) := by
  have hword : ∀ word : List UInt8, 0 ∉ word → word.map tolower = word →
      (strncasecmp (startupText buffer) word (word.length + 1) = 0 ↔
        (startupText buffer).map tolower = word) := by
    intro word hword hlower
    have htext : 0 ∉ startupText buffer := zero_not_mem_ofBuffer _
    rw [strncasecmp_eq_zero_iff htext hword, hlower]
  have hon : strncasecmp (startupText buffer) (ascii "on") 3 = 0 ↔ _ :=
    hword (ascii "on") (by decide) (by decide)
  have hoff : strncasecmp (startupText buffer) (ascii "off") 4 = 0 ↔ _ :=
    hword (ascii "off") (by decide) (by decide)
  have hother : ∀ (s' : Board) (value : Option Nat), s'.mapped = s.mapped → s'.mem = s.mem →
      s'.settings .startup = value.getD (s.settings .startup) →
        s.Writes .startup value (s', (buffer.length : Int)) := by
    intro s' value hmapped' hmem hvalue
    refine .inr ⟨Int.natCast_nonneg _, hmapped', nofun, fun other hother => ?_⟩
    cases other with
    | pwr => exact congrArg (fun mem : AtomicMemory => (mem ecPwrValue).toNat) hmem
    | startup => exact hvalue
    | g3Wakeup => exact congrArg (fun mem : AtomicMemory => (mem g3WakeupAdr).toNat) hmem
    | lanWakeup => exact absurd rfl hother
  rw [setPowerStatus, if_neg (by omega), if_neg (by simp)]
  simp only [asked, savePowerStatus_on hmapped, savePowerStatus_off hmapped,
    savePowerStatus_last hmapped]
  by_cases hison : (startupText buffer).map tolower = ascii "on"
  · rw [if_pos (hon.mpr hison), if_pos hison]
    refine hother _ _ rfl rfl (if_pos ?_)
    rw [BitVec.and_assoc]
    simp
  · rw [if_neg (hon.not.mpr hison), if_neg hison]
    by_cases hisoff : (startupText buffer).map tolower = ascii "off"
    · rw [if_pos (hoff.mpr hisoff), if_pos hisoff]
      refine hother _ _ rfl rfl (if_neg ?_)
      intro hzero
      have hbit := congrArg (fun val : BitVec 32 => val.getLsbD 0) hzero
      simp at hbit
    · rw [if_neg (hoff.not.mpr hisoff), if_neg hisoff]
      split
      · exact hother s none rfl rfl rfl
      · exact .inl ⟨show eInval < 0 by decide, rfl, nofun⟩

theorem strncmp_prefix {word text : List UInt8} (hword : 0 ∉ word) (htext : 0 ∉ text) :
    strncmp word text word.length = 0 ↔ word <+: text := by
  rw [strncmp_eq_zero_iff hword htext, List.take_length, List.prefix_iff_eq_take]

theorem g3wakeupWrite_writes (s : Board) (buffer : List UInt8) :
    s.Writes .g3Wakeup (asked buffer .g3Wakeup) (s.g3wakeupWrite buffer true) := by
  have hon : strncmp (ascii "on") (ofBuffer buffer) 2 = 0 ↔ ascii "on" <+: ofBuffer buffer :=
    strncmp_prefix (by decide) (zero_not_mem_ofBuffer buffer)
  have hoff : strncmp (ascii "off") (ofBuffer buffer) 3 = 0 ↔ ascii "off" <+: ofBuffer buffer :=
    strncmp_prefix (by decide) (zero_not_mem_ofBuffer buffer)
  rw [g3wakeupWrite, if_neg (by simp)]
  simp only [hon, hoff, asked]
  split
  · refine .inr ⟨Int.natCast_nonneg _, rfl, fun _ => Option.some_ne_none _, fun other hother => ?_⟩
    cases other <;> rfl
  · split
    · refine .inr ⟨Int.natCast_nonneg _, rfl, fun _ => Option.some_ne_none _, fun other hother => ?_⟩
      cases other <;> rfl
    · exact .inl ⟨show eBusy < 0 by decide, rfl, fun _ => rfl⟩

theorem lanwakeupWrite_writes (s : Board) (buffer : List UInt8) :
    s.Writes .lanWakeup (asked buffer .lanWakeup) (s.lanwakeupWrite buffer true) := by
  -- no file reads the cell that is set
  have hset : ∀ on : Bool, s.Writes .lanWakeup (asked buffer .lanWakeup)
      (s.serve (.lanwakeupWrite on), (buffer.length : Int)) := by
    intro on
    refine .inr ⟨Int.natCast_nonneg _, rfl, nofun, fun other hother => ?_⟩
    cases other with
    | pwr => rfl
    | startup => rfl
    | g3Wakeup => rfl
    | lanWakeup => exact absurd rfl hother
  rw [lanwakeupWrite, if_neg (by simp)]
  split
  · exact hset false
  · split
    · exact hset true
    · exact .inl ⟨show eBusy < 0 by decide, rfl, nofun⟩

theorem write_fault {s : Board} {file : SettingFile} {buffer : List UInt8}
    (hfits : Fits buffer file) :
    (s.write file buffer false).2 < 0 ∧ (s.write file buffer false).1 = s := by
  cases file with
  | startup =>
      have hfits : buffer.length < 12 := hfits
      show (s.setPowerStatus buffer false).2 < 0 ∧ (s.setPowerStatus buffer false).1 = s
      rw [setPowerStatus, if_neg (by omega)]
      exact ⟨show eFault < 0 by decide, rfl⟩
  | pwr => exact ⟨show eInval < 0 by decide, rfl⟩
  | g3Wakeup => exact ⟨show eInval < 0 by decide, rfl⟩
  | lanWakeup => exact ⟨show eInval < 0 by decide, rfl⟩

theorem write_writes {s : Board} (hmapped : s.mapped = true) {file : SettingFile}
    {buffer : List UInt8} (hfits : Fits buffer file) :
    s.Writes file (asked buffer file) (s.write file buffer true) := by
  cases file with
  | pwr => exact pwrWrite_writes s buffer
  | startup => exact setPowerStatus_writes hmapped hfits
  | g3Wakeup => exact g3wakeupWrite_writes s buffer
  | lanWakeup => exact lanwakeupWrite_writes s buffer

theorem write_cases {s after : Board} (hmapped : s.mapped = true) {file : SettingFile}
    {buffer : List UInt8} {copied : Bool} {ret : Int}
    (hstep : step s (.write file buffer copied ret) after) :
    (ret < 0 ∧ after = s ∧
      (file = .g3Wakeup → copied = true → asked buffer .g3Wakeup = none)) ∨
    (0 ≤ ret ∧ copied = true ∧ after.mapped = true ∧
      (file = .g3Wakeup → asked buffer .g3Wakeup ≠ none) ∧
      ∀ other, other ≠ .lanWakeup → after.settings other =
        if other = file then (asked buffer file).getD (s.settings file) else s.settings other) := by
  obtain ⟨hfits, hwrite⟩ := hstep
  cases copied with
  | false =>
      obtain ⟨hneg, hsame⟩ := write_fault (s := s) hfits
      rw [hwrite] at hneg hsame
      exact .inl ⟨hneg, hsame, nofun⟩
  | true =>
      obtain ⟨hneg, hsame, hnone⟩ | ⟨hret, hmapped', hsome, hset⟩ := write_writes hmapped hfits
      · rw [hwrite] at hneg hsame
        refine .inl ⟨hneg, hsame, fun hfile _ => ?_⟩
        rw [← hnone hfile, hfile]
      · rw [hwrite] at hret hmapped' hset
        refine .inr ⟨hret, rfl, hmapped'.trans hmapped, fun hfile => ?_, hset⟩
        rw [← hfile]
        exact hsome hfile

/-! ### Whole histories -/

/-- Every file but `Lan_wakeup` has its expected value in the cell it reads. -/
structure Holds (expected : Settings) (s : Board) : Prop where
  mapped : s.mapped = true
  settings : ∀ file, file ≠ .lanWakeup → s.settings file = expected file

theorem holds_step {expected : Settings} {s after : Board} {event : SettingEvent}
    (hholds : Holds expected s) (hstep : step s event after) :
    Holds (expected.next event) after := by
  cases event with
  | read file result =>
      obtain ⟨_, rfl⟩ := hstep
      exact hholds
  | write file buffer copied ret =>
      obtain ⟨hneg, hsame, _⟩ | ⟨hret, _, hmapped, _, hset⟩ := write_cases hholds.mapped hstep
      · rw [hsame, next, if_neg (by omega)]
        exact hholds
      · rw [next, if_pos hret]
        refine ⟨hmapped, fun other hother => ?_⟩
        rw [hset other hother, Function.update_apply]
        split
        · next hsame => rw [← hsame, hholds.settings other hother]
        · exact hholds.settings other hother

theorem holds_of_run {mem : AtomicMemory} {powerStatus : BitVec 32} {history : List SettingEvent}
    {s : Board} (hrun : Run step (loaded mem powerStatus) history s) :
    Holds ((loaded mem powerStatus).settings.expected history) s := by
  refine Run.history_invariant
    (fun passed s => Holds ((loaded mem powerStatus).settings.expected passed) s) ?_ hrun ?_
  · intro passed before event after hholds hstep
    rw [expected, List.foldl_append]
    exact holds_step hholds hstep
  · exact ⟨rfl, fun _ _ => rfl⟩

/-- A read that gives a text reports the expected value. A rejected write changes nothing, and no write changes what another file reads. -/
def ReadsBack (expected : Settings) (s : Board) (event : SettingEvent) (after : Board) : Prop :=
  match event with
  | .read file result => ∀ text, result = .ok text → text = report (expected file) file
  | .write file _ _ ret =>
      (ret < 0 → after = s) ∧ ∀ other, other ≠ file → after.read other = s.read other

/-- `Lan_wakeup` is read only where the cell of `G3_wakeup` has its value or one without a text, and a write to `G3_wakeup` sets the value that is there. -/
def Unmixed (expected : Settings) (s : Board) : SettingEvent → Prop
  | .read .lanWakeup _ =>
      s.settings .g3Wakeup ≤ 1 → s.settings .g3Wakeup = expected .lanWakeup
  | .write .g3Wakeup buffer copied _ =>
      copied = true → ∀ value ∈ asked buffer .g3Wakeup, s.settings .g3Wakeup = value
  | _ => True

theorem asked_g3Wakeup_le {buffer : List UInt8} {value : Nat}
    (hasked : asked buffer .g3Wakeup = some value) : value ≤ 1 := by
  simp only [asked] at hasked
  split at hasked
  · cases hasked
    omega
  · split at hasked
    · cases hasked
      omega
    · cases hasked

theorem report_of_shown {value : Nat} {file : SettingFile} {text : String}
    (hshown : shown value file = .ok text) : text = report value file := by
  have hwakeup : ∀ condition : Prop, ∀ [Decidable condition],
      (if condition then .ok (report value file) else .error eInval) = Except.ok text →
        text = report value file := by
    intro condition _ hshown
    split at hshown
    · exact (Except.ok.inj hshown).symm
    · cases hshown
  cases file with
  | pwr => exact (Except.ok.inj hshown).symm
  | startup => exact (Except.ok.inj hshown).symm
  | g3Wakeup => exact hwakeup _ hshown
  | lanWakeup => exact hwakeup _ hshown

theorem shown_lanWakeup_inj {m n : Nat} (hm : m ≤ 1) :
    shown m .lanWakeup = shown n .lanWakeup ↔ n = m := by
  have hshown : shown m .lanWakeup = .ok (report m .lanWakeup) := if_pos hm
  constructor
  · intro hsame
    rw [hshown] at hsame
    exact (report_lanWakeup_inj (report_of_shown hsame.symm)).symm
  · intro hsame
    rw [hsame]

theorem read_reads_back_iff {expected : Settings} {s : Board} (hholds : Holds expected s)
    (file : SettingFile) : ReadsBack expected s (.read file (s.read file)) s ↔
      Unmixed expected s (.read file (s.read file)) := by
  by_cases hlan : file = .lanWakeup
  · obtain rfl := hlan
    have hread := read_eq hholds.mapped .lanWakeup
    constructor
    · intro hreads hle
      have hshown : s.read .lanWakeup = .ok (report (s.settings .g3Wakeup) .lanWakeup) :=
        hread.trans (if_pos hle)
      exact report_lanWakeup_inj (hreads _ hshown)
    · intro hunmixed text htext
      have hreport := report_of_shown (hread.symm.trans htext)
      have hle : s.settings .g3Wakeup ≤ 1 := by
        by_contra hnot
        have herror : s.read .lanWakeup = .error eInval := hread.trans (if_neg hnot)
        rw [herror] at htext
        cases htext
      rw [hreport, ← hunmixed hle]
      rfl
  · have hunmixed : Unmixed expected s (.read file (s.read file)) := by
      cases file with
      | lanWakeup => exact absurd rfl hlan
      | _ => trivial
    have hsource : source file = file := by
      cases file with
      | lanWakeup => exact absurd rfl hlan
      | _ => rfl
    refine iff_of_true (fun text htext => ?_) hunmixed
    rw [read_eq hholds.mapped, hsource, hholds.settings file hlan] at htext
    exact report_of_shown htext

theorem write_reads_back_iff {expected : Settings} {s after : Board} (hholds : Holds expected s)
    {file : SettingFile} {buffer : List UInt8} {copied : Bool} {ret : Int}
    (hstep : step s (.write file buffer copied ret) after) :
    ReadsBack expected s (.write file buffer copied ret) after ↔
      Unmixed expected s (.write file buffer copied ret) := by
  obtain ⟨_, rfl, hnone⟩ | ⟨hret, hcopied, hmapped, hsome, hset⟩ :=
    write_cases hholds.mapped hstep
  · -- a rejected write has changed nothing, and asked for nothing
    refine iff_of_true ⟨fun _ => rfl, fun _ _ => rfl⟩ ?_
    cases file with
    | g3Wakeup =>
        intro hcopied value hasked
        rw [hnone rfl hcopied] at hasked
        cases hasked
    | _ => trivial
  · have hother : ∀ other, source other ≠ file → after.read other = s.read other := by
      intro other hne
      have hsource : source other ≠ .lanWakeup := by
        cases other <;> nofun
      rw [read_eq hmapped, read_eq hholds.mapped, hset _ hsource, if_neg hne]
    by_cases hg3 : file = .g3Wakeup
    · obtain rfl := hg3
      obtain ⟨value, hvalue⟩ := Option.ne_none_iff_exists'.mp (hsome rfl)
      have hafter : after.settings .g3Wakeup = value := by
        rw [hset .g3Wakeup nofun, if_pos rfl, hvalue]
        rfl
      have hlan : after.read .lanWakeup = s.read .lanWakeup ↔ s.settings .g3Wakeup = value := by
        rw [read_eq hmapped, read_eq hholds.mapped, source, hafter]
        exact shown_lanWakeup_inj (asked_g3Wakeup_le hvalue)
      constructor
      · intro hreads _ value' hasked
        rw [hvalue] at hasked
        cases hasked
        exact hlan.mp (hreads.2 .lanWakeup nofun)
      · intro hunmixed
        refine ⟨fun hneg => absurd hneg (by omega), fun other hne => ?_⟩
        cases other with
        | pwr => exact hother .pwr nofun
        | startup => exact hother .startup nofun
        | g3Wakeup => exact absurd rfl hne
        | lanWakeup => exact hlan.mpr (hunmixed hcopied value hvalue)
    · have hunmixed : Unmixed expected s (.write file buffer copied ret) := by
        cases file with
        | g3Wakeup => exact absurd rfl hg3
        | _ => trivial
      refine iff_of_true ⟨fun hneg => absurd hneg (by omega), fun other hne => ?_⟩ hunmixed
      apply hother
      cases other with
      | lanWakeup => exact Ne.symm hg3
      | _ => exact hne

/-- After any history of writes and reads, a read or a write does what the files are for exactly if it does not show that `Lan_wakeup` reads the cell of `G3_wakeup`. -/
theorem settings_read_back {mem : AtomicMemory} {powerStatus : BitVec 32}
    {history : List SettingEvent} {s after : Board} {event : SettingEvent}
    (hrun : Run step (loaded mem powerStatus) history s) (hstep : step s event after) :
    ReadsBack ((loaded mem powerStatus).settings.expected history) s event after ↔
      Unmixed ((loaded mem powerStatus).settings.expected history) s event := by
  have hholds := holds_of_run hrun
  cases event with
  | read file result =>
      obtain ⟨rfl, rfl⟩ := hstep
      exact read_reads_back_iff hholds file
  | write file buffer copied ret => exact write_reads_back_iff hholds hstep

/-- A level is set and read. -/
theorem settings_read_back_pwr : ∃ s,
    step (loaded (fun _ => 0) 0) (.write .pwr (ascii "5\n") true 2) s ∧
      ∀ text, s.read .pwr = .ok text → text = report 5 .pwr := by
  have hwrite : step (loaded (fun _ => 0) 0) (.write .pwr (ascii "5\n") true 2)
      ((loaded (fun _ => 0) 0).pwrWrite (ascii "5\n") true).1 :=
    ⟨show (ascii "5\n").length < 8 by decide, rfl⟩
  have hread : ∀ s : Board, step s (.read .pwr (s.read .pwr)) s := fun _ => ⟨rfl, rfl⟩
  exact ⟨_, hwrite, (settings_read_back (.single hwrite) (hread _)).mpr trivial⟩

/-- `on` written to `Lan_wakeup` reads back as the 0 that `G3_wakeup` has. -/
theorem settings_not_read_back : ¬ ∀ (history : List SettingEvent) (s after : Board)
    (event : SettingEvent), Run step (loaded (fun _ => 0) 0) history s → step s event after →
      ReadsBack ((loaded (fun _ => 0) 0).settings.expected history) s event after := by
  intro halways
  have hwrite : step (loaded (fun _ => 0) 0) (.write .lanWakeup (ascii "on") true 2)
      ((loaded (fun _ => 0) 0).lanwakeupWrite (ascii "on") true).1 :=
    ⟨show (ascii "on").length < 8 by decide, rfl⟩
  have hread : ∀ s : Board, step s (.read .lanWakeup (s.read .lanWakeup)) s := fun _ => ⟨rfl, rfl⟩
  have hzero : report 0 .lanWakeup = report 1 .lanWakeup :=
    halways _ _ _ _ (.single hwrite) (hread _) _ rfl
  cases report_lanWakeup_inj hzero

end Board

end FrontPanel.Sio
