import FrontPanel.Lib.LocalArray
import FrontPanel.Sio.Beeper
import FrontPanel.Sio.Fan

/-!
# The local buffers of the proc writes

The six write handlers that copy the user's bytes into a local array of `char`, access by access: `fan_write`, `set_power_status`, `pwr_write`, `g3wakeup_write` and `lanwakeup_write` of `ug_it55pro_functions.c` and `beeper_write` of `ug_sataio_beeper.c`. Each array starts as zeros. A string helper of the kernel reads up to the first NUL, or as many bytes as its length argument says; what it makes of them is in `CString`.

`Board` and `Beeper` give the same handlers on texts, with no array. A handler that keeps to its array does what they say (`inside`), and all six do, but for the write of nothing and, where no length is checked, the write of too much (`outside`).
-/

namespace FrontPanel.Sio

open CString LocalArray

/-- What `copy_from_user` does with the user's bytes: it writes them all, or fails having written `left`, at most as many. -/
inductive Copy (buffer : List UInt8)
  | done
  | fault (left : List UInt8) (hleft : left.length ≤ buffer.length)

namespace Copy

variable {buffer : List UInt8}

def written : Copy buffer → List UInt8
  | .done => buffer
  | .fault left _ => left

def copied : Copy buffer → Bool
  | .done => true
  | .fault _ _ => false

theorem length_written_le (copy : Copy buffer) : copy.written.length ≤ buffer.length := by
  cases copy with
  | done => exact le_rfl
  | fault left hleft => exact hleft

end Copy

namespace Buffered

/-! ### The handlers -/

/-- `copy_from_user(buf, buffer, size)`, and whether it returns 0. -/
def copyFromUser {buffer : List UInt8} (copy : Copy buffer) : Prog LocalArray Bool := do
  storeAll 0 copy.written
  pure copy.copied

/-- `if (buf[size - 1] == 0x0a) buf[size - 1] = '\0';`, where a size of 0 makes the index that of the byte before the array. -/
def cutNewline (size : Nat) : Prog LocalArray Unit := do
  let last ← load (size - 1)
  if last = 0x0a then store (size - 1) 0 else pure ()

/-- `!strncasecmp(buf, word, len)` -/
def sameWord (word : String) (len : Nat) : Prog LocalArray Bool := do
  let text ← readString len 0
  pure (strncasecmp text (ascii word) len = 0)

/-- What follows a keyword of `fan_write`; a scan of more than 12 bytes would have left the array. -/
def fanNumber (s : Board) (setFan : UInt8 → SioHandler) : Prog LocalArray (Board × Int) := do
  let p ← skipWhile Board.isBlank 13 4
  let first ← load p
  if first ≠ 0 then
    let text ← readString 13 p
    match kstrtoul text with
    | .error _ => pure (s, eInval)
    | .ok pwm =>
        if pwm > 0 ∧ pwm < 256 then pure (s.serve (setFan (UInt8.ofNat pwm)), 0)
        else pure (s, eInval)
  else pure (s, eInval)

def fanCommand (s : Board) : Prog LocalArray (Board × Int) := do
  if ← sameWord "on" 3 then pure (s.serve (.setSysFan 127), 0)
  else if ← sameWord "off" 4 then pure (s.serve (.setSysFan 0), 0)
  else if ← sameWord "set " 4 then fanNumber s .setSysFan
  else if ← sameWord "con" 3 then pure (s.serve (.setCpuFan 127), 0)
  else if ← sameWord "coff" 4 then pure (s.serve (.setCpuFan 0), 0)
  else if ← sameWord "cpu " 4 then fanNumber s .setCpuFan
  else pure (s, eInval)

def fanWrite (s : Board) (buffer : List UInt8) (copy : Copy buffer) :
    Prog LocalArray (Board × Int) :=
  if buffer.length > 11 then pure (s, eInval)
  else do
    if ← copyFromUser copy then
      store buffer.length 0
      cutNewline buffer.length
      let (s, result) ← fanCommand s
      pure (s, if result ≠ 0 then result else buffer.length)
    else pure (s, Board.eFault)

def powerCommand (s : Board) (size : Nat) : Prog LocalArray (Board × Int) := do
  if ← sameWord "on" 3 then pure ((s.savePowerStatus 1).1, size)
  else if ← sameWord "off" 4 then pure ((s.savePowerStatus 0).1, size)
  else if ← sameWord "last" 5 then pure ((s.savePowerStatus 2).1, size)
  else pure (s, eInval)

def setPowerStatus (s : Board) (buffer : List UInt8) (copy : Copy buffer) :
    Prog LocalArray (Board × Int) :=
  if buffer.length > 11 then pure (s, eInval)
  else do
    if ← copyFromUser copy then
      store buffer.length 0
      cutNewline buffer.length
      powerCommand s buffer.length
    else pure (s, Board.eFault)

def pwrWrite (s : Board) (buffer : List UInt8) (copy : Copy buffer) :
    Prog LocalArray (Board × Int) := do
  if ← copyFromUser copy then
    let text ← readString 9 0
    match kstrtoint text with
    | .error _ => pure (s, eInval)
    | .ok inData =>
        if inData < 0 ∨ inData ≥ 8 then pure (s, eInval)
        else pure (s.serve (.pwrWrite (UInt8.ofNat inData.toNat)), buffer.length)
  else pure (s, eInval)

def g3wakeupWrite (s : Board) (buffer : List UInt8) (copy : Copy buffer) :
    Prog LocalArray (Board × Int) := do
  if ← copyFromUser copy then
    let text ← readString 2 0
    if strncmp (ascii "on") text 2 = 0 then pure (s.serve (.g3wakeupWrite true), buffer.length)
    else
      let text ← readString 3 0
      if strncmp (ascii "off") text 3 = 0 then
        pure (s.serve (.g3wakeupWrite false), buffer.length)
      else pure (s, Board.eBusy)
  else pure (s, eInval)

def lanwakeupWrite (s : Board) (buffer : List UInt8) (copy : Copy buffer) :
    Prog LocalArray (Board × Int) := do
  if ← copyFromUser copy then
    let text ← readString 2 0
    if strncmp (ascii "on") text 2 ≠ 0 then
      pure (s.serve (.lanwakeupWrite false), buffer.length)
    else
      let text ← readString 3 0
      if strncmp (ascii "off") text 3 ≠ 0 then
        pure (s.serve (.lanwakeupWrite true), buffer.length)
      else pure (s, Board.eBusy)
  else pure (s, eInval)

/-- `!strncmp(buf, word, count)` -/
def begins (word : String) (count : Nat) : Prog LocalArray Bool := do
  let text ← readString count 0
  pure (strncmp text (ascii word) count = 0)

/-- A keyword in small or in capital letters. -/
def beginsEither (small capital : String) (count : Nat) : Prog LocalArray Bool := do
  if ← begins small count then pure true else begins capital count

def beeperCommand (s : Beeper) : Prog LocalArray (Beeper × Int) := do
  if ← beginsEither "booton" "BOOTON" 6 then
    pure ({ s with bootByte := s.bootByte &&& ~~~0x01 }, 0)
  else if ← beginsEither "bootoff" "BOOTOFF" 7 then
    pure ({ s with bootByte := s.bootByte ||| 0x01 }, 0)
  else if ← beginsEither "on" "ON" 3 then
    pure ({ s.delTimer with timerStatus := 0 }.setBeeper 1, 0)
  else if ← beginsEither "off" "OFF" 4 then
    pure ({ s.delTimer with timerStatus := 0 }.setBeeper 0, 0)
  else if ← beginsEither "one" "ONE" 4 then
    pure ({ s.delTimer with timerStatus := 0 }.setBeeper 2, 0)
  else if ← begins "timer " 6 then
    let text ← readString 33 0
    pure (s.timerCommand text)
  else if ← begins "rep " 3 then
    let text ← readString 33 0
    pure (s.repCommand text)
  else pure (s, Beeper.eInval)

/-- No NUL is written behind the bytes here: the array has it. -/
def beeperWrite (s : Beeper) (buffer : List UInt8) (copy : Copy buffer) :
    Prog LocalArray (Beeper × Int) :=
  if buffer.length > 31 then pure (s, Beeper.eInval)
  else do
    if ← copyFromUser copy then
      cutNewline buffer.length
      let (s, result) ← beeperCommand s
      pure (s, if result ≠ 0 then result else buffer.length)
    else pure (s, Beeper.eFault)

/-! ### The commands -/

section Commands

variable {Value : Type} {array text : List UInt8}

theorem within_ite {condition : Prop} [Decidable condition] {test : Bool}
    (htest : test = decide condition) {yes no : Prog LocalArray Value} {ifYes ifNo : Value}
    (hyes : condition → Within (fun value _ => value = ifYes) yes array)
    (hno : Within (fun value _ => value = ifNo) no array) :
    Within (fun value _ => value = if condition then ifYes else ifNo)
      (if test = true then yes else no) array := by
  rw [htest]
  by_cases hcondition : condition
  · rw [if_pos hcondition, if_pos (decide_eq_true hcondition)]
    exact hyes hcondition
  · rw [if_neg hcondition, if_neg (by simp [hcondition])]
    exact hno

theorem within_sameWord (hholds : HoldsText array text) {post : Bool → List UInt8 → Prop}
    (word : String) (len : Nat) : Within post (sameWord word len) array ↔
      post (strncasecmp text (ascii word) len = 0) array := by
  have hread := @HoldsText.within_readString array text 0 hholds
  rw [sameWord, within_bind, hread, Prog.pure_eq_ret, within_ret, strncasecmp_take]

/-- `if (!strncasecmp(buf, word, len))` -/
theorem within_ifSameWord (hholds : HoldsText array text) (word : String) (len : Nat)
    {yes no : Prog LocalArray Value} {ifYes ifNo : Value}
    (hyes : strncasecmp text (ascii word) len = 0 → Within (fun value _ => value = ifYes) yes array)
    (hno : Within (fun value _ => value = ifNo) no array) :
    Within (fun value _ => value = if strncasecmp text (ascii word) len = 0 then ifYes else ifNo)
      (sameWord word len >>= fun same => if same = true then yes else no) array := by
  rw [within_bind, within_sameWord hholds]
  exact within_ite rfl hyes hno

theorem within_fanNumber (hholds : HoldsText array text) (harray : array.length = 12)
    (hkeyword : 4 ≤ text.length) (s : Board) (setFan : UInt8 → SioHandler) :
    Within (fun value _ => value = s.fanNumber setFan ((text.drop 4).dropWhile Board.isBlank))
      (fanNumber s setFan) array := by
  have hnumber : HoldsText (array.drop 4) (text.drop 4) :=
    @HoldsText.drop array text 0 hholds 4 hkeyword
  have hleft := hnumber.skip Board.isBlank
  rw [fanNumber, within_bind, hnumber.within_skipWhile (by decide) (by omega), within_bind,
    hleft.within_load]
  rw [Board.fanNumber]
  cases hp : (text.drop 4).dropWhile Board.isBlank with
  | nil => simp
  | cons c rest =>
      rw [hp] at hleft
      have hc : c ≠ 0 := (List.ne_of_not_mem_cons hleft.noZero).symm
      have hshort : (c :: rest).length ≤ 13 := by
        have hlength := hleft.length_lt
        omega
      rw [List.headD_cons, if_pos hc, within_bind, hleft.within_readString,
        List.take_of_length_le hshort, if_pos (List.cons_ne_nil c rest)]
      cases kstrtoul (c :: rest) with
      | error _ => rfl
      | ok pwm =>
          dsimp only
          split
          · rfl
          · rfl

theorem within_fanCommand (hholds : HoldsText array text) (harray : array.length = 12) (s : Board) :
    Within (fun value _ => value = s.fanCommand text) (fanCommand s) array := by
  have hnumber : ∀ (keyword : String) (setFan : UInt8 → SioHandler), 0 ∉ ascii keyword →
      (ascii keyword).length = 4 → strncasecmp text (ascii keyword) 4 = 0 →
        Within (fun value _ => value = s.fanNumber setFan ((text.drop 4).dropWhile Board.isBlank))
          (fanNumber s setFan) array := by
    intro keyword setFan hzero hlength hequal
    have hkeyword := le_length_of_strncasecmp hzero hlength.ge hequal
    exact within_fanNumber hholds harray hkeyword s setFan
  apply within_ifSameWord hholds "on" 3 fun _ => within_pure _ _
  apply within_ifSameWord hholds "off" 4 fun _ => within_pure _ _
  apply within_ifSameWord hholds "set " 4 (hnumber "set " .setSysFan (by decide) (by decide))
  apply within_ifSameWord hholds "con" 3 fun _ => within_pure _ _
  apply within_ifSameWord hholds "coff" 4 fun _ => within_pure _ _
  apply within_ifSameWord hholds "cpu " 4 (hnumber "cpu " .setCpuFan (by decide) (by decide))
  exact within_pure _ _

theorem within_powerCommand (hholds : HoldsText array text) (s : Board) (size : Nat) :
    Within (fun value _ => value =
      if strncasecmp text (ascii "on") 3 = 0 then ((s.savePowerStatus 1).1, (size : Int))
      else if strncasecmp text (ascii "off") 4 = 0 then ((s.savePowerStatus 0).1, (size : Int))
      else if strncasecmp text (ascii "last") 5 = 0 then ((s.savePowerStatus 2).1, (size : Int))
      else (s, eInval)) (powerCommand s size) array := by
  apply within_ifSameWord hholds "on" 3 fun _ => within_pure _ _
  apply within_ifSameWord hholds "off" 4 fun _ => within_pure _ _
  apply within_ifSameWord hholds "last" 5 fun _ => within_pure _ _
  exact within_pure _ _

theorem within_begins (hholds : HoldsText array text) {post : Bool → List UInt8 → Prop}
    (word : String) (count : Nat) : Within post (begins word count) array ↔
      post (strncmp text (ascii word) count = 0) array := by
  have hread := @HoldsText.within_readString array text 0 hholds
  rw [begins, within_bind, hread, Prog.pure_eq_ret, within_ret, strncmp_take]

theorem within_beginsEither (hholds : HoldsText array text) {post : Bool → List UInt8 → Prop}
    (small capital : String) (count : Nat) :
    Within post (beginsEither small capital count) array ↔
      post (strncmp text (ascii small) count = 0 ∨ strncmp text (ascii capital) count = 0)
        array := by
  rw [beginsEither, within_bind, within_begins hholds]
  by_cases hsmall : strncmp text (ascii small) count = 0
  · simp [hsmall]
  · simp [hsmall, within_begins hholds]

/-- `if ((!strncmp(buf, small, count)) || (!strncmp(buf, capital, count)))` -/
theorem within_ifBeginsEither (hholds : HoldsText array text) (small capital : String) (count : Nat)
    {yes no : Prog LocalArray Value} {ifYes ifNo : Value}
    (hyes : Within (fun value _ => value = ifYes) yes array)
    (hno : Within (fun value _ => value = ifNo) no array) :
    Within (fun value _ => value =
        if strncmp text (ascii small) count = 0 ∨ strncmp text (ascii capital) count = 0 then ifYes
        else ifNo)
      (beginsEither small capital count >>= fun equal => if equal = true then yes else no)
      array := by
  rw [within_bind, within_beginsEither hholds]
  exact within_ite rfl (fun _ => hyes) hno

theorem within_ifBegins (hholds : HoldsText array text) (word : String) (count : Nat)
    {yes no : Prog LocalArray Value} {ifYes ifNo : Value}
    (hyes : Within (fun value _ => value = ifYes) yes array)
    (hno : Within (fun value _ => value = ifNo) no array) :
    Within (fun value _ => value = if strncmp text (ascii word) count = 0 then ifYes else ifNo)
      (begins word count >>= fun equal => if equal = true then yes else no) array := by
  rw [within_bind, within_begins hholds]
  exact within_ite rfl (fun _ => hyes) hno

theorem within_beeperCommand (hholds : HoldsText array text) (harray : array.length = 32)
    (s : Beeper) :
    Within (fun value _ => value = s.beeperCommand text) (beeperCommand s) array := by
  have hscan : ∀ command : List UInt8 → Beeper × Int,
      Within (fun value _ => value = command text)
        (readString 33 0 >>= fun text => pure (command text)) array := by
    intro command
    have hlength := @HoldsText.length_lt array text 0 hholds
    have hread := @HoldsText.within_readString array text 0 hholds
    rw [within_bind, hread, List.take_of_length_le (by omega)]
    rfl
  apply within_ifBeginsEither hholds "booton" "BOOTON" 6 (within_pure _ _)
  apply within_ifBeginsEither hholds "bootoff" "BOOTOFF" 7 (within_pure _ _)
  apply within_ifBeginsEither hholds "on" "ON" 3 (within_pure _ _)
  apply within_ifBeginsEither hholds "off" "OFF" 4 (within_pure _ _)
  apply within_ifBeginsEither hholds "one" "ONE" 4 (within_pure _ _)
  apply within_ifBegins hholds "timer " 6 (hscan s.timerCommand)
  apply within_ifBegins hholds "rep " 3 (hscan s.repCommand)
  exact within_pure _ _

end Commands

/-! ### The copy and the newline -/

/-- The array once the bytes are copied. -/
def padded (length : Nat) (bytes : List UInt8) : List UInt8 :=
  bytes ++ List.replicate (length - bytes.length) 0

section Line

variable {length : Nat} {buffer : List UInt8}

theorem length_padded (hsize : buffer.length ≤ length) :
    (padded length buffer).length = length := by
  rw [padded, List.length_append, List.length_replicate]
  omega

theorem ofBuffer_zeros (bytes : List UInt8) (count : Nat) :
    ofBuffer (bytes ++ List.replicate count 0) = ofBuffer bytes := by
  induction bytes with
  | nil =>
      cases count with
      | zero => rfl
      | succ count => rfl
  | cons byte bytes ih =>
      rw [ofBuffer, ofBuffer] at ih
      rw [List.cons_append, ofBuffer, ofBuffer, List.takeWhile_cons, List.takeWhile_cons, ih]

theorem holdsText_padded (hzero : buffer.length < length ∨ 0 ∈ buffer) :
    HoldsText (padded length buffer) (ofBuffer buffer) := by
  have hmem : 0 ∈ padded length buffer := by
    rw [padded, List.mem_append, List.mem_replicate]
    obtain hsize | hzero := hzero
    · exact .inr ⟨by omega, rfl⟩
    · exact .inl hzero
  have hholds := holdsText_ofBuffer hmem
  rwa [padded, ofBuffer_zeros] at hholds

theorem within_copyFromUser (copy : Copy buffer) {post : Bool → List UInt8 → Prop} :
    Within post (copyFromUser copy) (List.replicate length 0) ↔
      copy.written.length ≤ length ∧ post copy.copied (padded length copy.written) := by
  have hstore := @within_storeAll (fun _ array => post copy.copied array) []
    (List.replicate length 0) copy.written
  rw [copyFromUser, within_bind]
  show Within (fun _ array => post copy.copied array) _ _ ↔ _
  rw [List.length_replicate, List.drop_replicate] at hstore
  exact hstore

theorem within_terminate (hsize : buffer.length < length) {post : Unit → List UInt8 → Prop} :
    Within post (store buffer.length 0) (padded length buffer) ↔
      post () (padded length buffer) := by
  have hbounds : InBounds (padded length buffer) buffer.length := by
    rw [inBounds_natCast, length_padded hsize.le]
    exact hsize
  have hsame : (padded length buffer).set (buffer.length : Int).toNat 0 = padded length buffer := by
    obtain ⟨count, hcount⟩ : ∃ count, length - buffer.length = count + 1 :=
      ⟨length - buffer.length - 1, by omega⟩
    rw [Int.toNat_natCast, padded, hcount, List.replicate_succ]
    simp
  rw [within_store, hsame]
  exact and_iff_right hbounds

theorem within_cutNewline (hsize : buffer.length < length) (hne : buffer ≠ [])
    {post : Unit → List UInt8 → Prop}
    (hpost : ∀ array, array.length = length → HoldsText array (Board.startupText buffer) →
      post () array) :
    Within post (cutNewline buffer.length) (padded length buffer) := by
  obtain ⟨front, last, rfl⟩ : ∃ front last, buffer = front ++ [last] :=
    ⟨_, _, (List.dropLast_append_getLast hne).symm⟩
  have hindex : ((front ++ [last]).length : Int) - 1 = front.length := by simp
  have harray := length_padded hsize.le
  have hbounds : InBounds (padded length (front ++ [last])) front.length := by
    rw [inBounds_natCast, harray]
    rw [List.length_append, List.length_singleton] at hsize
    omega
  have hread : (padded length (front ++ [last])).getD (front.length : Int).toNat 0 = last := by
    simp [padded]
  rw [cutNewline, hindex, within_bind, within_load, hread]
  refine ⟨hbounds, ?_⟩
  by_cases hlast : last = 0x0a
  · have hcut : Board.startupText (front ++ [last]) = ofBuffer front := by
      rw [Board.startupText, if_pos (by simp [hlast]), List.dropLast_concat]
    have hset : (padded length (front ++ [last])).set (front.length : Int).toNat 0 =
        padded length front := by
      obtain ⟨count, hcount⟩ : ∃ count, length - front.length = count + 1 := by
        refine ⟨length - front.length - 1, ?_⟩
        rw [List.length_append, List.length_singleton] at hsize
        omega
      have hrest : length - (front.length + 1) = count := by omega
      simp [padded, hcount, hrest, List.replicate_succ]
    rw [List.length_append, List.length_singleton] at hsize
    rw [if_pos hlast, within_store, hset]
    refine ⟨hbounds, hpost _ (length_padded (by omega)) ?_⟩
    rw [hcut]
    exact holdsText_padded (.inl (by omega))
  · have hkept : Board.startupText (front ++ [last]) = ofBuffer (front ++ [last]) := by
      rw [Board.startupText, if_neg (by simp [hlast])]
    rw [if_neg hlast]
    refine hpost _ harray ?_
    rw [hkept]
    exact holdsText_padded (.inl hsize)

/-- A write of nothing makes the test for a newline look at the byte before the array. -/
theorem not_within_cutNewline {post : Unit → List UInt8 → Prop} {array : List UInt8} :
    ¬ Within post (cutNewline 0) array := by
  intro hwithin
  rw [cutNewline, within_bind, within_load] at hwithin
  exact absurd hwithin.1.1 (by decide)

end Line

/-! ### The handlers and their arrays -/

section Handlers

variable {buffer : List UInt8} {copy : Copy buffer}

/-- A write that is not empty, or is not copied. -/
def NotNothing (copy : Copy buffer) : Prop := buffer ≠ [] ∨ copy.copied = false

/-- A handler that copies fewer bytes than its array has, cuts a newline and looks at the text. -/
theorem within_line {length : Nat} (hsize : buffer.length < length) (hgiven : NotNothing copy)
    {terminate : Prog LocalArray Unit}
    (hterminate : ∀ post : Unit → List UInt8 → Prop,
      Within post terminate (padded length buffer) ↔ post () (padded length buffer))
    {Value : Type} {command : Prog LocalArray Value} {value fault : Value}
    (hcommand : ∀ array, array.length = length → HoldsText array (Board.startupText buffer) →
      Within (fun returned _ => returned = value) command array) :
    Within (fun returned _ => returned = if ¬ copy.copied then fault else value)
      (copyFromUser copy >>= fun copied =>
        if copied = true then terminate >>= fun _ => cutNewline buffer.length >>= fun _ => command
        else pure fault)
      (List.replicate length 0) := by
  have hcopied : copy.written.length ≤ length := copy.length_written_le.trans hsize.le
  rw [within_bind, within_copyFromUser]
  refine ⟨hcopied, ?_⟩
  cases copy with
  | fault left hleft => exact within_pure _ _
  | done =>
      have hne : buffer ≠ [] := hgiven.resolve_right nofun
      have hdone : (Copy.done : Copy buffer).copied = true := rfl
      rw [if_pos hdone, if_neg (not_not.mpr hdone), Copy.written, within_bind, hterminate,
        within_bind]
      exact within_cutNewline hsize hne hcommand

theorem within_fanWrite (hgiven : NotNothing copy) (s : Board) :
    Within (fun value _ => value = s.fanWrite buffer copy.copied) (fanWrite s buffer copy)
      (List.replicate 12 0) := by
  rw [fanWrite, Board.fanWrite]
  by_cases hsize : buffer.length > 11
  · rw [if_pos hsize, if_pos hsize]
    exact within_pure _ _
  · have hsize' : buffer.length < 12 := by omega
    rw [if_neg hsize, if_neg hsize]
    apply within_line hsize' hgiven (fun _ => within_terminate hsize')
    intro array harray hholds
    rw [within_bind]
    apply (within_fanCommand hholds harray s).weaken
    intro result _ hresult
    rw [hresult]
    rfl

theorem within_setPowerStatus (hgiven : NotNothing copy) (s : Board) :
    Within (fun value _ => value = s.setPowerStatus buffer copy.copied)
      (setPowerStatus s buffer copy) (List.replicate 12 0) := by
  rw [setPowerStatus, Board.setPowerStatus]
  by_cases hsize : buffer.length > 11
  · rw [if_pos hsize, if_pos hsize]
    exact within_pure _ _
  · have hsize' : buffer.length < 12 := by omega
    rw [if_neg hsize, if_neg hsize]
    apply within_line hsize' hgiven (fun _ => within_terminate hsize')
    intro array _ hholds
    exact within_powerCommand hholds s buffer.length

theorem within_beeperWrite (hgiven : NotNothing copy) (s : Beeper) :
    Within (fun value _ => value = s.beeperWrite buffer copy.copied) (beeperWrite s buffer copy)
      (List.replicate 32 0) := by
  rw [beeperWrite, Beeper.beeperWrite]
  by_cases hsize : buffer.length > 31
  · rw [if_pos hsize, if_pos hsize]
    exact within_pure _ _
  · have hsize' : buffer.length < 32 := by omega
    rw [if_neg hsize, if_neg hsize]
    -- nothing stands between the copy and the newline here
    apply @within_line buffer copy 32 hsize' hgiven (.ret ()) (fun _ => Iff.rfl)
    intro array harray hholds
    rw [within_bind]
    apply (within_beeperCommand hholds harray s).weaken
    intro result _ hresult
    rw [hresult]
    rfl

/-- The bytes fit, and those of a copy that succeeds have a NUL among them or behind them. -/
def FitsText (copy : Copy buffer) : Prop :=
  copy.written.length ≤ 8 ∧ (copy.copied = true → buffer.length < 8 ∨ 0 ∈ buffer)

theorem within_pwrWrite (hfits : FitsText copy) (s : Board) :
    Within (fun value _ => value = s.pwrWrite buffer copy.copied) (pwrWrite s buffer copy)
      (List.replicate 8 0) := by
  rw [pwrWrite, Board.pwrWrite, within_bind, within_copyFromUser]
  refine ⟨hfits.1, ?_⟩
  cases copy with
  | fault left hleft => exact within_pure _ _
  | done =>
      have hsize : buffer.length ≤ 8 := hfits.1
      have hdone : (Copy.done : Copy buffer).copied = true := rfl
      have hholds : HoldsText (padded 8 buffer) (ofBuffer buffer) := holdsText_padded (hfits.2 rfl)
      have hread := @HoldsText.within_readString (padded 8 buffer) (ofBuffer buffer) 0 hholds
      have hshort : (ofBuffer buffer).length ≤ 9 := by
        have hlength := @HoldsText.length_lt (padded 8 buffer) (ofBuffer buffer) 0 hholds
        rw [length_padded hsize] at hlength
        omega
      rw [if_pos hdone, if_neg (not_not.mpr hdone), within_bind, Copy.written, hread,
        List.take_of_length_le hshort]
      cases kstrtoint (ofBuffer buffer) with
      | error _ => exact within_pure _ _
      | ok inData =>
          dsimp only
          split
          · exact within_pure _ _
          · exact within_pure _ _

theorem within_compare (hsize : buffer.length ≤ 8) {count : Nat} (hcount : count ≤ 8)
    {Value : Type} {post : Value → List UInt8 → Prop}
    {rest : List UInt8 → Prog LocalArray Value} :
    Within post (readString count 0 >>= rest) (padded 8 buffer) ↔
      Within post (rest ((ofBuffer buffer).take count)) (padded 8 buffer) := by
  have harray : (padded 8 buffer).length = 8 := length_padded hsize
  have htext : ofBuffer ((padded 8 buffer).drop 0) = ofBuffer buffer := ofBuffer_zeros _ _
  rw [within_bind, within_readString (Nat.zero_le _), htext]
  exact and_iff_right (.inr (by omega))

theorem within_wakeup (hfits : copy.written.length ≤ 8) (first second : List UInt8 → Prop)
    [DecidablePred first] [DecidablePred second]
    (hfirst : ∀ text, first (text.take 2) ↔ first text)
    (hsecond : ∀ text, second (text.take 3) ↔ second text)
    {Value : Type} {onFirst onSecond onNone fault : Value} :
    Within (fun returned _ => returned =
        if ¬ copy.copied then fault
        else if first (ofBuffer buffer) then onFirst
        else if second (ofBuffer buffer) then onSecond
        else onNone)
      (copyFromUser copy >>= fun copied =>
        if copied = true then
          readString 2 0 >>= fun text =>
            if first text then pure onFirst
            else readString 3 0 >>= fun text => if second text then pure onSecond else pure onNone
        else pure fault)
      (List.replicate 8 0) := by
  rw [within_bind, within_copyFromUser]
  refine ⟨hfits, ?_⟩
  cases copy with
  | fault left hleft => exact within_pure _ _
  | done =>
      have hsize : buffer.length ≤ 8 := hfits
      have hdone : (Copy.done : Copy buffer).copied = true := rfl
      rw [if_pos hdone, if_neg (not_not.mpr hdone), Copy.written, within_compare hsize (by omega)]
      by_cases hon : first (ofBuffer buffer)
      · rw [if_pos hon, if_pos ((hfirst _).mpr hon)]
        exact within_pure _ _
      · rw [if_neg hon, if_neg ((hfirst _).not.mpr hon), within_compare hsize (by omega)]
        by_cases hoff : second (ofBuffer buffer)
        · rw [if_pos hoff, if_pos ((hsecond _).mpr hoff)]
          exact within_pure _ _
        · rw [if_neg hoff, if_neg ((hsecond _).not.mpr hoff)]
          exact within_pure _ _

theorem within_g3wakeupWrite (hfits : copy.written.length ≤ 8) (s : Board) :
    Within (fun value _ => value = s.g3wakeupWrite buffer copy.copied)
      (g3wakeupWrite s buffer copy) (List.replicate 8 0) := by
  apply within_wakeup hfits (fun text => strncmp (ascii "on") text 2 = 0)
    (fun text => strncmp (ascii "off") text 3 = 0)
  · intro text
    rw [strncmp_take_right]
  · intro text
    rw [strncmp_take_right]

theorem within_lanwakeupWrite (hfits : copy.written.length ≤ 8) (s : Board) :
    Within (fun value _ => value = s.lanwakeupWrite buffer copy.copied)
      (lanwakeupWrite s buffer copy) (List.replicate 8 0) := by
  apply within_wakeup hfits (fun text => strncmp (ascii "on") text 2 ≠ 0)
    (fun text => strncmp (ascii "off") text 3 ≠ 0)
  · intro text
    rw [strncmp_take_right]
  · intro text
    rw [strncmp_take_right]

/-! ### Writes that leave the array -/

theorem within_ifCopied {length : Nat} {Value : Type} {yes no : Prog LocalArray Value}
    {post : Value → List UInt8 → Prop}
    (hwithin : Within post (copyFromUser copy >>= fun copied => if copied = true then yes else no)
      (List.replicate length 0)) :
    copy.written.length ≤ length ∧
      (copy.copied = true → Within post yes (padded length buffer)) := by
  rw [within_bind, within_copyFromUser] at hwithin
  refine ⟨hwithin.1, fun hcopied => ?_⟩
  cases copy with
  | fault left hleft => cases hcopied
  | done =>
      have hyes := hwithin.2
      rwa [if_pos hcopied] at hyes

theorem notNothing_of_line {length : Nat} {Value : Type} {command fault : Prog LocalArray Value}
    {terminate : Prog LocalArray Unit} {post : Value → List UInt8 → Prop}
    (hwithin : Within post
      (copyFromUser copy >>= fun copied =>
        if copied = true then terminate >>= fun _ => cutNewline buffer.length >>= fun _ => command
        else fault)
      (List.replicate length 0))
    (hterminate : ∀ {rest : Unit → Prog LocalArray Value},
      Within post (terminate >>= rest) (padded length buffer) →
        Within post (rest ()) (padded length buffer)) : NotNothing copy := by
  by_contra hnothing
  rw [NotNothing, not_or, not_not] at hnothing
  obtain ⟨rfl, hcopied⟩ := hnothing
  have hrest := hterminate ((within_ifCopied hwithin).2 (Bool.eq_true_of_not_eq_false hcopied))
  rw [within_bind] at hrest
  exact not_within_cutNewline hrest

theorem notNothing_of_terminated {length : Nat} {Value : Type} {command fault : Prog LocalArray Value}
    {post : Value → List UInt8 → Prop} (hsize : buffer.length < length)
    (hwithin : Within post
      (copyFromUser copy >>= fun copied =>
        if copied = true then
          store buffer.length 0 >>= fun _ => cutNewline buffer.length >>= fun _ => command
        else fault)
      (List.replicate length 0)) : NotNothing copy := by
  apply notNothing_of_line hwithin
  intro rest hrest
  rwa [within_bind, within_terminate hsize] at hrest

theorem notNothing_of_fanWrite {s : Board} {post : Board × Int → List UInt8 → Prop}
    (hwithin : Within post (fanWrite s buffer copy) (List.replicate 12 0)) : NotNothing copy := by
  by_cases hsize : buffer.length > 11
  · exact .inl (List.ne_nil_of_length_pos (by omega))
  · rw [fanWrite, if_neg hsize] at hwithin
    exact notNothing_of_terminated (by omega) hwithin

theorem notNothing_of_setPowerStatus {s : Board} {post : Board × Int → List UInt8 → Prop}
    (hwithin : Within post (setPowerStatus s buffer copy) (List.replicate 12 0)) :
    NotNothing copy := by
  by_cases hsize : buffer.length > 11
  · exact .inl (List.ne_nil_of_length_pos (by omega))
  · rw [setPowerStatus, if_neg hsize] at hwithin
    exact notNothing_of_terminated (by omega) hwithin

theorem notNothing_of_beeperWrite {s : Beeper} {post : Beeper × Int → List UInt8 → Prop}
    (hwithin : Within post (beeperWrite s buffer copy) (List.replicate 32 0)) :
    NotNothing copy := by
  by_cases hsize : buffer.length > 31
  · exact .inl (List.ne_nil_of_length_pos (by omega))
  · rw [beeperWrite, if_neg hsize] at hwithin
    exact @notNothing_of_line buffer copy 32 _ _ _ (.ret ()) post hwithin fun hrest => hrest

/-- The conversion of `pwr_write` has no length argument. -/
theorem fitsText_of_pwrWrite {s : Board} {post : Board × Int → List UInt8 → Prop}
    (hwithin : Within post (pwrWrite s buffer copy) (List.replicate 8 0)) : FitsText copy := by
  rw [pwrWrite] at hwithin
  obtain ⟨hsize, hread⟩ := within_ifCopied hwithin
  refine ⟨hsize, fun hcopied => ?_⟩
  have hread := hread hcopied
  rw [within_bind, within_readString (Nat.zero_le _)] at hread
  have hsize : buffer.length ≤ 8 := by
    cases copy with
    | fault left hleft => cases hcopied
    | done => exact hsize
  have harray := length_padded hsize
  obtain hzero | hlong := hread.1
  · have hzero : 0 ∈ padded 8 buffer := List.mem_of_mem_drop (List.mem_of_mem_take hzero)
    rw [padded, List.mem_append, List.mem_replicate] at hzero
    obtain hzero | ⟨hroom, -⟩ := hzero
    · exact .inr hzero
    · exact .inl (by omega)
  · omega

end Handlers

end Buffered

/-! ### The files -/

inductive ProcFile
  | fan
  | startup
  | pwr
  | g3Wakeup
  | lanWakeup
  | beeper

/-- The size of the local array behind a file. -/
def ProcFile.bufLength : ProcFile → Nat
  | .fan | .startup => 12
  | .pwr | .g3Wakeup | .lanWakeup => 8
  | .beeper => 32

/-- What the handlers work on. -/
structure ProcState where
  board : Board
  beeper : Beeper

namespace ProcState

variable {buffer : List UInt8} {copy : Copy buffer}

def onBoard (s : ProcState) (result : Board × Int) : ProcState × Int :=
  ({ s with board := result.1 }, result.2)

def onBeeper (s : ProcState) (result : Beeper × Int) : ProcState × Int :=
  ({ s with beeper := result.1 }, result.2)

/-- A write to a file, access by access. -/
def write (s : ProcState) (file : ProcFile) (buffer : List UInt8) (copy : Copy buffer) :
    Prog LocalArray (ProcState × Int) :=
  match file with
  | .fan => s.onBoard <$> Buffered.fanWrite s.board buffer copy
  | .startup => s.onBoard <$> Buffered.setPowerStatus s.board buffer copy
  | .pwr => s.onBoard <$> Buffered.pwrWrite s.board buffer copy
  | .g3Wakeup => s.onBoard <$> Buffered.g3wakeupWrite s.board buffer copy
  | .lanWakeup => s.onBoard <$> Buffered.lanwakeupWrite s.board buffer copy
  | .beeper => s.onBeeper <$> Buffered.beeperWrite s.beeper buffer copy

/-- A write to a file, by what the handlers do with texts. -/
def writeText (s : ProcState) (file : ProcFile) (buffer : List UInt8) (copied : Bool) :
    ProcState × Int :=
  match file with
  | .fan => s.onBoard (s.board.fanWrite buffer copied)
  | .startup => s.onBoard (s.board.setPowerStatus buffer copied)
  | .pwr => s.onBoard (s.board.pwrWrite buffer copied)
  | .g3Wakeup => s.onBoard (s.board.g3wakeupWrite buffer copied)
  | .lanWakeup => s.onBoard (s.board.lanwakeupWrite buffer copied)
  | .beeper => s.onBeeper (s.beeper.beeperWrite buffer copied)

/-- The local array on entry, with any bytes around. -/
def entry (file : ProcFile) (around : Int → UInt8) : Memory where
  array := List.replicate file.bufLength 0
  around := around

/-- Which writes are at home in the array of a file. -/
def Fits (copy : Copy buffer) : ProcFile → Prop
  | .fan | .startup | .beeper => Buffered.NotNothing copy
  | .pwr => Buffered.FitsText copy
  | .g3Wakeup | .lanWakeup => copy.written.length ≤ 8

theorem within_map {Value Result : Type} {program : Prog LocalArray Value} {array : List UInt8}
    {value : Value} (result : Value → Result)
    (hwithin : Within (fun returned _ => returned = value) program array) :
    Within (fun returned _ => returned = result value) (result <$> program) array := by
  show Within _ (program >>= fun value => .ret (result value)) array
  rw [within_bind]
  apply hwithin.weaken
  intro returned _ hreturned
  rw [hreturned]
  rfl

/-- A write that fits keeps to the array, and does what the handler does with its text. -/
theorem inside {file : ProcFile} (hfits : Fits copy file) (s : ProcState) :
    Within (fun result _ => result = s.writeText file buffer copy.copied) (s.write file buffer copy)
      (List.replicate file.bufLength 0) := by
  cases file with
  | fan => exact within_map s.onBoard (Buffered.within_fanWrite hfits s.board)
  | startup => exact within_map s.onBoard (Buffered.within_setPowerStatus hfits s.board)
  | pwr => exact within_map s.onBoard (Buffered.within_pwrWrite hfits s.board)
  | g3Wakeup => exact within_map s.onBoard (Buffered.within_g3wakeupWrite hfits s.board)
  | lanWakeup => exact within_map s.onBoard (Buffered.within_lanwakeupWrite hfits s.board)
  | beeper => exact within_map s.onBeeper (Buffered.within_beeperWrite hfits s.beeper)

theorem fits_of_within {file : ProcFile} {s : ProcState} {around : Int → UInt8}
    (hwithin : Within (fun _ _ => True) (s.write file buffer copy) (entry file around).array) :
    Fits copy file := by
  cases file with
  | fan => exact Buffered.notNothing_of_fanWrite (within_bind.mp hwithin)
  | startup => exact Buffered.notNothing_of_setPowerStatus (within_bind.mp hwithin)
  | pwr => exact Buffered.fitsText_of_pwrWrite (within_bind.mp hwithin)
  | g3Wakeup => exact (Buffered.within_ifCopied (within_bind.mp hwithin)).1
  | lanWakeup => exact (Buffered.within_ifCopied (within_bind.mp hwithin)).1
  | beeper => exact Buffered.notNothing_of_beeperWrite (within_bind.mp hwithin)

/-- Which writes keep to their local array. -/
theorem local_buffer_kept_iff (s : ProcState) (file : ProcFile) (buffer : List UInt8)
    (copy : Copy buffer) (around : Int → UInt8) :
    (∀ index ∈ accesses (s.write file buffer copy) (entry file around),
      0 ≤ index ∧ index < file.bufLength) ↔ Fits copy file := by
  have harray : (entry file around).array.length = file.bufLength := List.length_replicate
  have haccesses := @within_iff_accesses _ (s.write file buffer copy) (entry file around)
  rw [harray] at haccesses
  rw [← haccesses]
  constructor
  · exact fits_of_within
  · intro hfits
    exact (inside hfits s).weaken fun _ _ _ => trivial

/-- A write of nothing to the fan file reads the byte before its array. -/
theorem local_buffer_not_kept :
    ¬ ∀ (s : ProcState) (file : ProcFile) (buffer : List UInt8) (copy : Copy buffer)
      (around : Int → UInt8), ∀ index ∈ accesses (s.write file buffer copy) (entry file around),
        0 ≤ index ∧ index < file.bufLength := by
  intro hkept
  let s : ProcState := ⟨Board.loaded (fun _ => 0) 0, Beeper.initial 0 false⟩
  have hread : (-1 : Int) ∈ accesses (s.write .fan [] .done) (entry .fan fun _ => 0) := by decide
  have hbounds := hkept s .fan [] .done (fun _ => 0) (-1) hread
  exact absurd hbounds.1 (by decide)

end ProcState

end FrontPanel.Sio
