import FrontPanel.Lib.CString
import FrontPanel.Lib.Snprintf
import Mathlib.Data.List.GetD

/-!
# The state of the SATA bays

`dmi_get_product`, `hwinit`, `hw_unioremap` and `sata_satate_read` of `ug_sataio_beeper.c`. The product decides how many bays there are and at which registers, each register block is mapped or not, and `/proc/nas/sata_sw` has a line for each bay.

Three locals of the read are not initialised. A bay that is not mapped shows what the last mapped bay before it showed, or what `val` held by chance, and the two lines of the GT products, which have no bay, show `u2_v1` and `u2_v2` as they were found. The locals are an argument of the read here, and what is proved is where it depends on them.
-/

namespace FrontPanel.Sio.SataState

open CString

/-! ### The bays of a product -/

structure Devinfo where
  name : List UInt8
  shift : Nat
  phyaddr0 : UInt32
  phyaddr1 : UInt32

/-- `sata_io_num`, and the entries of `sataInfo` that are set. -/
structure SataTable where
  sataIoNum : Nat
  sataInfo : List Devinfo

/-- One of the consecutive entries `SATA1`, `SATA2` and so on, whose registers are 16 bytes apart. -/
def bay (phyaddr : UInt32) (i : Nat) : Devinfo where
  name := ascii "SATA" ++ [49 + i.toUInt8]
  shift := 1
  phyaddr0 := phyaddr + 16 * i.toUInt32
  phyaddr1 := 0

def bays (phyaddr : UInt32) (count : Nat) : List Devinfo := (List.range count).map (bay phyaddr)

/-- `!strncmp(product, text, strlen(text))` -/
def isPrefix (product text : String) : Prop :=
  strncmp (ascii product) (ascii text) (ascii text).length = 0

instance (product text : String) : Decidable (isPrefix product text) :=
  inferInstanceAs (Decidable (_ = _))

def dmiGetProduct (product : String) : SataTable :=
  if product = "DXP2800" ∨ product = "DXP2800S" ∨ product = "DXP4800" ∨ product = "DXP4800S" then
    { sataIoNum := if isPrefix product "DXP4800" then 4 else 2
      sataInfo := bays 0xFD6A0930 4 }
  else if isPrefix product "DXP4800 Plus" ∨ isPrefix product "DXP4800 Pro" then
    { sataIoNum := 4
      sataInfo := bays 0xFD6A0930 4 }
  else if isPrefix product "DXP6800" ∨ isPrefix product "DXP8800" ∨ isPrefix product "FORT 6" then
    { sataIoNum := if isPrefix product "DXP8800" then 8 else 6
      sataInfo := bays 0xFD6A0930 8 }
  else if isPrefix product "iDX6012" ∨ isPrefix product "iDX6011" then
    { sataIoNum := 6
      sataInfo := bays 0xE0D30850 6 }
  else { sataIoNum := 0, sataInfo := [] }

/-! ### Mapping the registers -/

/-- An entry with its register blocks, by their physical addresses; `none` is NULL. -/
structure SataPort where
  info : Devinfo
  base0 : Option UInt32
  base1 : Option UInt32

/-- `ioremap` tells which blocks can be mapped. -/
def hwinit (ioremap : UInt32 → Bool) (table : SataTable) : List SataPort :=
  (table.sataInfo.take table.sataIoNum).map fun info =>
    { info
      base0 := if ioremap info.phyaddr0 then some info.phyaddr0 else none
      base1 := if info.phyaddr1 ≠ 0 ∧ ioremap info.phyaddr1 then some info.phyaddr1 else none }

/-- The bays as the module is loaded. -/
def loaded (ioremap : UInt32 → Bool) (product : String) : List SataPort :=
  hwinit ioremap (dmiGetProduct product)

/-! ### The read -/

/-- The locals that are not initialised. -/
structure Locals where
  val : UInt32
  u2V1 : UInt32
  u2V2 : UInt32

def Locals.setU2 (l : Locals) (i : Nat) (tmpv : UInt32) : Locals :=
  if i = 0 then { l with u2V1 := tmpv } else { l with u2V2 := tmpv }

def flag (condition : Bool) : UInt32 := if condition then 1 else 0

variable (readl : UInt32 → UInt32)

def registerBit (addr : UInt32) (port : SataPort) : UInt32 :=
  readl addr &&& (1 <<< port.info.shift.toUInt32)

/-- The branch for `DXP2800 GT`. -/
def gt2800 (i : Nat) (port : SataPort) (l : Locals) : Locals :=
  let l :=
    match port.base1 with
    | some addr =>
        let val1 := registerBit readl addr port
        let l := l.setU2 i (flag (l.val = 0 ∧ val1 ≠ 0))
        { l with val := l.val ||| val1 }
    | none => l
  { l with val := flag (l.val = 0) }

/-- The branch for `DXP4800 GT`. -/
def gt4800 (i : Nat) (port : SataPort) (l : Locals) : Locals :=
  match port.base1 with
  | some addr =>
      let val1 := registerBit readl addr port
      let l := l.setU2 i (flag (l.val ≠ 0 ∧ val1 ≠ 0))
      { l with val := flag (l.val ≠ 0 ∧ val1 = 0) }
  | none => l

/-- The locals at the end of a pass. -/
def sataPass (product : String) (i : Nat) (port : SataPort) (l : Locals) : Locals :=
  let l :=
    match port.base0 with
    | some addr => { l with val := registerBit readl addr port }
    | none => l
  if product = "DXP2800 GT" then gt2800 readl i port l
  else if product = "DXP4800 GT" then gt4800 readl i port l
  else l

def line (name : List UInt8) (val : UInt32) : List UInt8 :=
  name ++ ascii ":\t" ++ (if val ≠ 0 then ascii "ON" else ascii "OFF") ++ ascii "\n"

/-- The loop over the bays, from bay `i` on. -/
def sataLoop (product : String) :
    Nat → List SataPort → Locals → Printed 128 → Locals × Printed 128
  | _, [], l, tmpbuf => (l, tmpbuf)
  | i, port :: ports, l, tmpbuf =>
      let l := sataPass readl product i port l
      sataLoop product (i + 1) ports l (tmpbuf.snprintf (line port.info.name l.val))

/-- What is read at `*ppos`; `none` is a read behind `tmpbuf`. -/
def sataSatateRead (product : String) (ports : List SataPort) (l : Locals) (size ppos : Nat) :
    Option (List UInt8) :=
  if ppos ≠ 0 then some []
  else
    let (l, tmpbuf) := sataLoop readl product 0 ports l (.empty 128)
    let tmpbuf :=
      if product = "DXP2800 GT" ∨ product = "DXP4800 GT" then
        (tmpbuf.snprintf (line (ascii "U.2_1") l.u2V1)).snprintf (line (ascii "U.2_2") l.u2V2)
      else tmpbuf
    if 128 < tmpbuf.total then none
    else some (((tmpbuf.text ++ List.replicate 128 0).take tmpbuf.total).take size)

/-! ### What is read -/

def isGt (product : String) : Prop := product = "DXP2800 GT" ∨ product = "DXP4800 GT"

instance (product : String) : Decidable (isGt product) := inferInstanceAs (Decidable (_ ∨ _))

/-- What the last mapped of these bays reads, or `val` if none is mapped. -/
def shown (val : UInt32) (ports : List SataPort) : UInt32 :=
  (ports.filterMap fun port => port.base0.map fun addr => registerBit readl addr port).getLast?.getD val

/-- Each bay with what is read of it and the bays before it. -/
def bayLines (val : UInt32) (ports : List SataPort) : List (List UInt8) :=
  ports.mapIdx fun i port => line port.info.name (shown readl val (ports.take (i + 1)))

variable {readl} {product : String} {ports : List SataPort} {l : Locals}

theorem shown_cons (val : UInt32) (port : SataPort) (ports : List SataPort) :
    shown readl val (port :: ports) = shown readl (shown readl val [port]) ports := by
  rw [shown, ← List.singleton_append, List.filterMap_append, List.getLast?_append, Option.getD_or]
  rfl

theorem bayLines_cons (val : UInt32) (port : SataPort) (ports : List SataPort) :
    bayLines readl val (port :: ports) = line port.info.name (shown readl val [port]) ::
      bayLines readl (shown readl val [port]) ports := by
  rw [bayLines, List.mapIdx_cons]
  congr 1
  rw [bayLines]
  congr 1
  funext i next
  rw [List.take_succ_cons, shown_cons]

theorem sataPass_val (hgt : ¬ isGt product) (i : Nat) (port : SataPort) :
    (sataPass readl product i port l).val = shown readl l.val [port] := by
  obtain ⟨h2800, h4800⟩ := not_or.mp hgt
  rw [sataPass, if_neg h2800, if_neg h4800]
  obtain ⟨info, _ | addr, base1⟩ := port
  · rfl
  · rfl

theorem sataLoop_text (hgt : ¬ isGt product) (i : Nat) (tmpbuf : Printed 128) :
    (sataLoop readl product i ports l tmpbuf).2 = tmpbuf.printAll (bayLines readl l.val ports) := by
  induction ports generalizing i l tmpbuf with
  | nil => rfl
  | cons port ports ih =>
      rw [sataLoop, ih, bayLines_cons, Printed.printAll_cons, sataPass_val hgt]

/-! ### The bays fit the buffer -/

theorem length_line (name : List UInt8) (val : UInt32) : (line name val).length ≤ name.length + 6 := by
  have htab : (ascii ":\t").length = 2 := rfl
  have hon : (ascii "ON").length = 2 := rfl
  have hoff : (ascii "OFF").length = 3 := rfl
  have hend : (ascii "\n").length = 1 := rfl
  rw [line, List.length_append, List.length_append, List.length_append]
  split
  · omega
  · omega

theorem length_bayLines (hnames : ∀ port ∈ ports, port.info.name.length ≤ 5)
    (readl : UInt32 → UInt32) (val : UInt32) :
    (bayLines readl val ports).flatten.length ≤ 11 * ports.length := by
  induction ports generalizing val with
  | nil => exact Nat.le_refl 0
  | cons port ports ih =>
      obtain ⟨hname, hnames⟩ := List.forall_mem_cons.mp hnames
      have hline := length_line port.info.name (shown readl val [port])
      have hrest := ih hnames (shown readl val [port])
      rw [bayLines_cons, List.flatten_cons, List.length_append, List.length_cons]
      omega

theorem loaded_bounds (ioremap : UInt32 → Bool) (product : String) :
    (loaded ioremap product).length ≤ 8 ∧
      ∀ port ∈ loaded ioremap product, port.info.name.length ≤ 5 := by
  have hbays : ∀ phyaddr count, ∀ info ∈ bays phyaddr count, info.name.length ≤ 5 := by
    intro phyaddr count info hmem
    obtain ⟨i, -, rfl⟩ := List.mem_map.mp hmem
    exact Nat.le_refl 5
  have hlength : ∀ phyaddr count, (bays phyaddr count).length = count := by
    intro phyaddr count
    rw [bays, List.length_map, List.length_range]
  have htable : (dmiGetProduct product).sataInfo.length ≤ 8 ∧
      ∀ info ∈ (dmiGetProduct product).sataInfo, info.name.length ≤ 5 := by
    rw [dmiGetProduct]
    split
    · exact ⟨by rw [hlength]; decide, hbays _ _⟩
    split
    · exact ⟨by rw [hlength]; decide, hbays _ _⟩
    split
    · exact ⟨by rw [hlength], hbays _ _⟩
    split
    · exact ⟨by rw [hlength]; decide, hbays _ _⟩
    · exact ⟨Nat.zero_le 8, fun info hmem => absurd hmem List.not_mem_nil⟩
  obtain ⟨hcount, hnames⟩ := htable
  refine ⟨?_, fun port hmem => ?_⟩
  · rw [loaded, hwinit, List.length_map, List.length_take]
    omega
  · obtain ⟨info, hinfo, rfl⟩ := List.mem_map.mp hmem
    exact hnames info (List.mem_of_mem_take hinfo)

theorem loaded_gt (ioremap : UInt32 → Bool) (hgt : isGt product) :
    loaded ioremap product = [] := by
  obtain rfl | rfl := hgt
  · rfl
  · rfl

theorem printed_read {page : Printed 128} (htotal : page.total < 128) (size : Nat) :
    ((page.text ++ List.replicate 128 0).take page.total).take size = page.text.take size := by
  have hlength := page.length_text
  rw [List.take_left' (by omega)]

theorem sataSatateRead_zero (size : Nat) : sataSatateRead readl product ports l size 0 =
    let read := sataLoop readl product 0 ports l (.empty 128)
    let tmpbuf :=
      if isGt product then
        (read.2.snprintf (line (ascii "U.2_1") read.1.u2V1)).snprintf
          (line (ascii "U.2_2") read.1.u2V2)
      else read.2
    if 128 < tmpbuf.total then none
    else some (((tmpbuf.text ++ List.replicate 128 0).take tmpbuf.total).take size) := rfl

theorem sataSatateRead_bays (ioremap : UInt32 → Bool) (hgt : ¬ isGt product) (size : Nat) :
    sataSatateRead readl product (loaded ioremap product) l size 0 =
      some ((bayLines readl l.val (loaded ioremap product)).flatten.take size) := by
  obtain ⟨hcount, hnames⟩ := loaded_bounds ioremap product
  have hlength := length_bayLines hnames readl l.val
  have hfits : (Printed.empty 128).total +
      (bayLines readl l.val (loaded ioremap product)).flatten.length < 128 := by
    show 0 + _ < 128
    omega
  obtain ⟨htext, htotal⟩ := Printed.printAll_of_lt hfits
  rw [← htotal] at hfits
  rw [sataSatateRead_zero]
  dsimp only
  rw [if_neg hgt, sataLoop_text hgt, if_neg (by omega), printed_read hfits, htext]
  rfl

theorem sataSatateRead_gt (ioremap : UInt32 → Bool) (hgt : isGt product) (size : Nat) :
    sataSatateRead readl product (loaded ioremap product) l size 0 =
      some ((line (ascii "U.2_1") l.u2V1 ++ line (ascii "U.2_2") l.u2V2).take size) := by
  have hfirst := length_line (ascii "U.2_1") l.u2V1
  have hsecond := length_line (ascii "U.2_2") l.u2V2
  have hname : (ascii "U.2_1").length = 5 ∧ (ascii "U.2_2").length = 5 := ⟨rfl, rfl⟩
  have hflat : [line (ascii "U.2_1") l.u2V1, line (ascii "U.2_2") l.u2V2].flatten =
    line (ascii "U.2_1") l.u2V1 ++ line (ascii "U.2_2") l.u2V2 := by simp
  have hfits : (Printed.empty 128).total +
      [line (ascii "U.2_1") l.u2V1, line (ascii "U.2_2") l.u2V2].flatten.length < 128 := by
    rw [hflat, List.length_append]
    show 0 + _ < 128
    omega
  obtain ⟨htext, htotal⟩ := Printed.printAll_of_lt hfits
  rw [← htotal] at hfits
  rw [hflat] at htext
  rw [sataSatateRead_zero, loaded_gt ioremap hgt]
  dsimp only
  rw [if_pos hgt]
  show (if 128 < ((Printed.empty 128).printAll
    [line (ascii "U.2_1") l.u2V1, line (ascii "U.2_2") l.u2V2]).total then none else some _) = _
  rw [if_neg (by omega)]
  exact congrArg some ((printed_read hfits size).trans (congrArg (List.take size) htext))

/-! ### What the file tells -/

/-- On a product that is not a GT and with every bay mapped, `sata_sw` has a line for each bay that says whether its own bit is set. -/
theorem sata_sw_tells_each_bay (ioremap : UInt32 → Bool) (readl : UInt32 → UInt32) (l : Locals)
    (size : Nat) (hgt : ¬ isGt product)
    (hmapped : ∀ port ∈ loaded ioremap product, port.base0 = some port.info.phyaddr0) :
    sataSatateRead readl product (loaded ioremap product) l size 0 =
      some (((loaded ioremap product).flatMap fun port =>
        line port.info.name (registerBit readl port.info.phyaddr0 port)).take size) := by
  have hlines : ∀ (val : UInt32) (ports : List SataPort),
      (∀ port ∈ ports, port.base0 = some port.info.phyaddr0) → bayLines readl val ports =
        ports.map fun port => line port.info.name (registerBit readl port.info.phyaddr0 port) := by
    intro val ports hports
    induction ports generalizing val with
    | nil => rfl
    | cons port ports ih =>
        obtain ⟨hport, hports⟩ := List.forall_mem_cons.mp hports
        have hown : shown readl val [port] = registerBit readl port.info.phyaddr0 port := by
          simp [shown, hport]
        rw [bayLines_cons, hown, ih _ hports, List.map_cons]
  rw [sataSatateRead_bays ioremap hgt, hlines _ _ hmapped, List.flatMap_def]

theorem sata_sw_tells_each_bay_pro :
    sataSatateRead (fun addr => if addr = 0xE0D30860 then 0x02 else 0x01) "iDX6011 Pro"
        (loaded (fun _ => true) "iDX6011 Pro") ⟨0, 0, 0⟩ 31 0 =
      some (ascii "SATA1:\tOFF\nSATA2:\tON\nSATA3:\tOFF") := by
  rw [sata_sw_tells_each_bay _ _ _ _ (by decide) (by decide)]
  decide

theorem line_ne (name rest rest' : List UInt8) : line name 0 ++ rest ≠ line name 1 ++ rest' := by
  intro hsame
  have hoff : line name 0 = name ++ [58, 9, 79, 70, 70, 10] := by
    rw [line, List.append_assoc, List.append_assoc]
    rfl
  have hon : line name 1 = name ++ [58, 9, 79, 78, 10] := by
    rw [line, List.append_assoc, List.append_assoc]
    rfl
  rw [hoff, hon, List.append_assoc, List.append_assoc] at hsame
  have hbytes := List.append_cancel_left hsame
  simp at hbytes

/-- A read does not depend on what its locals hold by chance exactly if the product is not a GT and the first bay, where there is one, is mapped. -/
theorem sata_sw_determined_iff (ioremap : UInt32 → Bool) (readl : UInt32 → UInt32)
    (product : String) :
    (∀ (l l' : Locals) (size : Nat), sataSatateRead readl product (loaded ioremap product) l size 0 =
      sataSatateRead readl product (loaded ioremap product) l' size 0) ↔
    ¬ isGt product ∧ ∀ port, (loaded ioremap product).head? = some port → port.base0 ≠ none := by
  constructor
  · intro hsame
    have hgt : ¬ isGt product := by
      intro hgt
      have hlines := hsame ⟨0, 0, 0⟩ ⟨0, 1, 0⟩ 128
      rw [sataSatateRead_gt ioremap hgt, sataSatateRead_gt ioremap hgt] at hlines
      exact absurd hlines (by decide)
    refine ⟨hgt, fun port hhead hnone => ?_⟩
    have hlines := hsame ⟨0, 0, 0⟩ ⟨1, 0, 0⟩ 88
    obtain ⟨hcount, hnames⟩ := loaded_bounds ioremap product
    have hlength := length_bayLines hnames readl
    obtain ⟨ports, hports⟩ := List.head?_eq_some_iff.mp hhead
    rw [sataSatateRead_bays ioremap hgt, sataSatateRead_bays ioremap hgt, Option.some_inj,
      List.take_of_length_le ((hlength 0).trans (by omega)),
      List.take_of_length_le ((hlength 1).trans (by omega)), hports, bayLines_cons, bayLines_cons,
      List.flatten_cons, List.flatten_cons] at hlines
    have hval : ∀ val, shown readl val [port] = val := by
      intro val
      simp [shown, hnone]
    rw [hval, hval] at hlines
    exact line_ne _ _ _ hlines
  · intro hgiven l l' size
    obtain ⟨hgt, hfirst⟩ := hgiven
    rw [sataSatateRead_bays ioremap hgt, sataSatateRead_bays ioremap hgt]
    cases hports : loaded ioremap product with
    | nil => rfl
    | cons port ports =>
        obtain ⟨addr, hbase⟩ := Option.ne_none_iff_exists'.mp (hfirst port (by rw [hports]; rfl))
        have hval : ∀ val, shown readl val [port] = registerBit readl addr port := by
          intro val
          simp [shown, hbase]
        rw [bayLines_cons, bayLines_cons, hval, hval]

end FrontPanel.Sio.SataState
