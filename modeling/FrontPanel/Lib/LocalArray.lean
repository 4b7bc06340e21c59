import FrontPanel.Lib.CString
import FrontPanel.Lib.Prog

/-!
# Programs on a local array

A C function that keeps a text in a local array reads and writes bytes by index, and nothing stops an index from being outside of the array. Such a function is a routine over `LocalArray`: an access names its index, an integer, since `size - 1` may be one below the array. `Memory` is the array with all the bytes around it, so every access has an answer, and `accesses` are the indices a routine uses on a given memory.

`Within post program array` says that the routine keeps to the array and ends with `post`. It has a rule for each operation, and asks nothing of the bytes around, which a routine that keeps to its array does not see (`within_iff_accesses`).
-/

namespace FrontPanel

open CString

inductive ArrayOp
  | read (index : Int)
  | write (index : Int) (byte : UInt8)

def ArrayOp.index : ArrayOp → Int
  | .read index => index
  | .write index _ => index

def LocalArray : Interface where
  Op := ArrayOp
  Answer
    | .read _ => UInt8
    | .write _ _ => Unit

namespace LocalArray

variable {Value Result : Type}

def InBounds (array : List UInt8) (index : Int) : Prop := 0 ≤ index ∧ index < array.length

instance (array : List UInt8) (index : Int) : Decidable (InBounds array index) :=
  inferInstanceAs (Decidable (_ ∧ _))

/-- An access in bounds. -/
def access (array : List UInt8) : (op : ArrayOp) → LocalArray.Answer op × List UInt8
  | .read index => (array.getD index.toNat 0, array)
  | .write index byte => ((), array.set index.toNat byte)

/-- The array and the bytes around it, by their index in the array. -/
structure Memory where
  array : List UInt8
  around : Int → UInt8

namespace Memory

def accessAround (m : Memory) : (op : ArrayOp) → LocalArray.Answer op × Memory
  | .read index => (m.around index, m)
  | .write index byte => ((), { m with around := Function.update m.around index byte })

def access (m : Memory) (op : ArrayOp) : LocalArray.Answer op × Memory :=
  if InBounds m.array op.index then
    let result := LocalArray.access m.array op
    (result.1, { m with array := result.2 })
  else m.accessAround op

theorem access_of_inBounds {m : Memory} {op : ArrayOp} (hbounds : InBounds m.array op.index) :
    m.access op = ((LocalArray.access m.array op).1,
      { m with array := (LocalArray.access m.array op).2 }) :=
  if_pos hbounds

end Memory

/-- The indices a routine uses, in order. -/
def accesses : Prog LocalArray Value → Memory → List Int
  | .ret _, _ => []
  | .call op next, m => ArrayOp.index op :: accesses (next (m.access op).1) (m.access op).2

/-- The routine only uses indices of the array, and returns with `post`. -/
def Within (post : Value → List UInt8 → Prop) : Prog LocalArray Value → List UInt8 → Prop
  | .ret value, array => post value array
  | .call op next, array => InBounds array (ArrayOp.index op) ∧
      Within post (next (access array op).1) (access array op).2

/-! ### Rules -/

section Rules

variable {post weak : Value → List UInt8 → Prop} {program : Prog LocalArray Value}
  {array : List UInt8}

@[simp] theorem within_ret {value : Value} :
    Within post (.ret value) array ↔ post value array := Iff.rfl

theorem within_pure (value : Value) (array : List UInt8) :
    Within (fun returned _ => returned = value) (pure value) array := rfl

theorem within_call {op : LocalArray.Op} {next : LocalArray.Answer op → Prog LocalArray Value} :
    Within post (.call op next) array ↔ InBounds array (ArrayOp.index op) ∧
      Within post (next (access array op).1) (access array op).2 := Iff.rfl

/-- The rule for sequencing. -/
theorem within_bind {post : Result → List UInt8 → Prop} {rest : Value → Prog LocalArray Result} :
    Within post (program >>= rest) array ↔
      Within (fun value array => Within post (rest value) array) program array := by
  induction program generalizing array with
  | ret value => rfl
  | call op next ih => simp only [Prog.call_bind, within_call, ih]

/-- The rule of consequence. -/
theorem Within.weaken (hwithin : Within post program array)
    (hweaken : ∀ value array, post value array → weak value array) :
    Within weak program array := by
  induction program generalizing array with
  | ret value => exact hweaken _ _ hwithin
  | call op next ih => exact ⟨hwithin.1, ih _ hwithin.2⟩

theorem length_access (array : List UInt8) (op : ArrayOp) :
    (access array op).2.length = array.length := by
  cases op with
  | read index => rfl
  | write index byte => exact List.length_set

/-- A routine that keeps to the array does so whatever is around. -/
theorem within_iff_accesses {m : Memory} :
    Within (fun _ _ => True) program m.array ↔
      ∀ index ∈ accesses program m, 0 ≤ index ∧ index < m.array.length := by
  induction program generalizing m with
  | ret value => simp [accesses]
  | call op next ih =>
      rw [within_call, accesses, List.forall_mem_cons]
      apply and_congr_right
      intro hbounds
      have haccess := Memory.access_of_inBounds hbounds
      have hrest := @ih (access m.array op).1 { m with array := (access m.array op).2 }
      rw [haccess, ← length_access m.array op]
      exact hrest

end Rules

/-! ### Operations -/

def load (index : Int) : Prog LocalArray UInt8 := Prog.access LocalArray (.read index)

def store (index : Int) (byte : UInt8) : Prog LocalArray Unit :=
  Prog.access LocalArray (.write index byte)

/-- Bytes written one after the other from `index` on. -/
def storeAll (index : Nat) : List UInt8 → Prog LocalArray Unit
  | [] => pure ()
  | byte :: bytes => do
      store index byte
      storeAll (index + 1) bytes

/-- `count` bytes from `index` on. -/
def loadAll : Nat → Nat → Prog LocalArray (List UInt8)
  | 0, _ => pure []
  | count + 1, index => do
      let byte ← load index
      let rest ← loadAll count (index + 1)
      pure (byte :: rest)

/-- The text from `index` on: the bytes before the first NUL, or `count` bytes. -/
def readString : Nat → Nat → Prog LocalArray (List UInt8)
  | 0, _ => pure []
  | count + 1, index => do
      let byte ← load index
      if byte = 0 then pure []
      else
        let rest ← readString count (index + 1)
        pure (byte :: rest)

/-- The first index from `index` on whose byte is not skipped. -/
def skipWhile (skipped : UInt8 → Bool) : Nat → Nat → Prog LocalArray Nat
  | 0, index => pure index
  | count + 1, index => do
      let byte ← load index
      if skipped byte then skipWhile skipped count (index + 1)
      else pure index

section Operations

variable {post : Value → List UInt8 → Prop} {array : List UInt8}

theorem inBounds_natCast {index : Nat} : InBounds array index ↔ index < array.length := by
  rw [InBounds]
  omega

@[simp] theorem within_load {post : UInt8 → List UInt8 → Prop} {index : Int} :
    Within post (load index) array ↔
      InBounds array index ∧ post (array.getD index.toNat 0) array := Iff.rfl

@[simp] theorem within_store {post : Unit → List UInt8 → Prop} {index : Int} {byte : UInt8} :
    Within post (store index byte) array ↔
      InBounds array index ∧ post () (array.set index.toNat byte) := Iff.rfl

theorem drop_of_lt {index : Nat} (hindex : index < array.length) :
    ∃ byte, array.getD (index : Int).toNat 0 = byte ∧
      array.drop index = byte :: array.drop (index + 1) := by
  refine ⟨array[index], ?_, List.drop_eq_getElem_cons hindex⟩
  rw [Int.toNat_natCast, List.getD_eq_getElem?_getD, List.getElem?_eq_getElem hindex]
  rfl

theorem within_store_behind {post : Unit → List UInt8 → Prop} {front tail : List UInt8}
    {old byte : UInt8} : Within post (store (front.length : Nat) byte) (front ++ old :: tail) ↔
      post () (front ++ byte :: tail) := by
  rw [within_store, inBounds_natCast, Int.toNat_natCast, List.set_append_right _ _ le_rfl,
    Nat.sub_self, List.length_append, List.length_cons, List.set_cons_zero]
  exact and_iff_right (by omega)

theorem within_storeAll {post : Unit → List UInt8 → Prop} {front tail bytes : List UInt8} :
    Within post (storeAll front.length bytes) (front ++ tail) ↔
      bytes.length ≤ tail.length ∧ post () (front ++ bytes ++ tail.drop bytes.length) := by
  induction bytes generalizing front tail with
  | nil => simp [storeAll]
  | cons byte bytes ih =>
      rw [storeAll, within_bind]
      cases tail with
      | nil => simp [inBounds_natCast]
      | cons old tail =>
          have hlength : front.length + 1 = (front ++ [byte]).length := by simp
          rw [within_store_behind, List.append_cons, hlength, ih]
          simp

theorem within_loadAll {post : List UInt8 → List UInt8 → Prop} {count index : Nat}
    (hindex : index ≤ array.length) :
    Within post (loadAll count index) array ↔
      index + count ≤ array.length ∧ post ((array.drop index).take count) array := by
  induction count generalizing index post with
  | zero => simp [loadAll, hindex]
  | succ count ih =>
      rw [loadAll, within_bind, within_load, inBounds_natCast]
      rcases Nat.lt_or_eq_of_le hindex with hlt | rfl
      · obtain ⟨byte, hread, hdrop⟩ := drop_of_lt hlt
        have hshift : index + 1 + count = index + (count + 1) := by omega
        rw [hread, hdrop, within_bind, ih hlt, hshift]
        simp [hlt]
      · have hlong : ¬ array.length + (count + 1) ≤ array.length := by omega
        simp [hlong]

/-- A text is read as far as it goes, or as far as is asked. -/
theorem within_readString {post : List UInt8 → List UInt8 → Prop} {count index : Nat}
    (hindex : index ≤ array.length) :
    Within post (readString count index) array ↔
      (0 ∈ (array.drop index).take count ∨ index + count ≤ array.length) ∧
        post ((ofBuffer (array.drop index)).take count) array := by
  induction count generalizing index post with
  | zero => simp [readString, hindex]
  | succ count ih =>
      rw [readString, within_bind, within_load, inBounds_natCast]
      rcases Nat.lt_or_eq_of_le hindex with hlt | rfl
      · obtain ⟨byte, hread, hdrop⟩ := drop_of_lt hlt
        rw [hread, hdrop, ofBuffer]
        by_cases hzero : byte = 0
        · simp [hzero, hlt]
        · have hzero' : ¬ 0 = byte := fun hsame => hzero hsame.symm
          have hshift : index + 1 + count = index + (count + 1) := by omega
          simp only [if_neg hzero, within_bind, ih hlt]
          simp [hzero, hzero', hlt, hshift, ofBuffer]
      · have hlong : ¬ array.length + (count + 1) ≤ array.length := by omega
        simp [hlong]

theorem within_skipWhile {post : Nat → List UInt8 → Prop} {skipped : UInt8 → Bool}
    {count index : Nat} (hstop : ∃ byte ∈ array.drop index, skipped byte = false)
    (hcount : (array.drop index).length < count) :
    Within post (skipWhile skipped count index) array ↔
      post (index + ((array.drop index).takeWhile skipped).length) array := by
  induction count generalizing index with
  | zero => exact absurd hcount (Nat.not_lt_zero _)
  | succ count ih =>
      have hlt : index < array.length := by
        by_contra hge
        rw [List.drop_eq_nil_of_le (not_lt.mp hge)] at hstop
        obtain ⟨_, hmem, -⟩ := hstop
        exact absurd hmem List.not_mem_nil
      obtain ⟨byte, hread, hdrop⟩ := drop_of_lt hlt
      rw [skipWhile, within_bind, within_load, inBounds_natCast, hread]
      by_cases hskip : skipped byte = true
      · rw [hdrop, List.length_cons] at hcount
        have hstop : ∃ byte ∈ array.drop (index + 1), skipped byte = false := by
          obtain ⟨stop, hmem, hstop⟩ := hstop
          rw [hdrop] at hmem
          rcases List.mem_cons.mp hmem with rfl | hmem
          · exact absurd hskip (by simp [hstop])
          · exact ⟨stop, hmem, hstop⟩
        have hshift : ∀ n : Nat, index + 1 + n = index + (n + 1) := by omega
        rw [if_pos hskip, ih hstop (Nat.lt_of_succ_lt_succ hcount), hdrop]
        simp [hlt, hskip, hshift]
      · rw [if_neg hskip, hdrop]
        simp [hlt, hskip]

end Operations

/-! ### An array that holds a text -/

/-- The array begins with the text and a NUL behind it. -/
structure HoldsText (array text : List UInt8) : Prop where
  terminated : ∃ rest, array = text ++ 0 :: rest
  noZero : 0 ∉ text

theorem holdsText_ofBuffer {array : List UInt8} (hzero : 0 ∈ array) :
    HoldsText array (ofBuffer array) := by
  refine ⟨?_, zero_not_mem_ofBuffer array⟩
  induction array with
  | nil => exact absurd hzero List.not_mem_nil
  | cons byte array ih =>
      by_cases hbyte : byte = 0
      · exact ⟨array, by simp [ofBuffer, hbyte]⟩
      · have hrest : 0 ∈ array := (List.mem_cons.mp hzero).resolve_left (Ne.symm hbyte)
        obtain ⟨rest, hsplit⟩ := ih hrest
        refine ⟨rest, ?_⟩
        rw [ofBuffer] at hsplit ⊢
        rw [List.takeWhile_cons_of_pos (by simp [hbyte]), List.cons_append, ← hsplit]

namespace HoldsText

variable {array text : List UInt8} {index : Nat}

theorem takeWhile_eq (hholds : HoldsText array text) {skipped : UInt8 → Bool}
    (hstop : skipped 0 = false) : array.takeWhile skipped = text.takeWhile skipped := by
  obtain ⟨⟨rest, rfl⟩, -⟩ := hholds
  induction text with
  | nil => simp [hstop]
  | cons byte text ih =>
      by_cases hskip : skipped byte = true
      · simp [hskip, ih]
      · simp [hskip]

theorem ofBuffer_eq (hholds : HoldsText array text) : ofBuffer array = text := by
  rw [ofBuffer, hholds.takeWhile_eq (by simp), List.takeWhile_eq_self_iff]
  intro byte hmem
  have hbyte : byte ≠ 0 := fun hzero => hholds.noZero (hzero ▸ hmem)
  simpa using hbyte

theorem zero_mem (hholds : HoldsText array text) : 0 ∈ array := by
  obtain ⟨⟨rest, rfl⟩, -⟩ := hholds
  simp

theorem length_lt (hholds : HoldsText (array.drop index) text) :
    index + text.length < array.length := by
  obtain ⟨⟨rest, hsplit⟩, -⟩ := hholds
  have hlength := congrArg List.length hsplit
  simp only [List.length_drop, List.length_append, List.length_cons] at hlength
  omega

theorem drop (hholds : HoldsText (array.drop index) text) {count : Nat}
    (hcount : count ≤ text.length) :
    HoldsText (array.drop (index + count)) (text.drop count) := by
  obtain ⟨⟨rest, hsplit⟩, hzero⟩ := hholds
  refine ⟨⟨rest, ?_⟩, fun hmem => hzero (List.mem_of_mem_drop hmem)⟩
  rw [← List.drop_drop, hsplit, List.drop_append_of_le_length hcount]

theorem skip (hholds : HoldsText (array.drop index) text) (skipped : UInt8 → Bool) :
    HoldsText (array.drop (index + (text.takeWhile skipped).length)) (text.dropWhile skipped) := by
  have hsplit : text.takeWhile skipped ++ text.dropWhile skipped = text :=
    List.takeWhile_append_dropWhile
  have hrest : (text.takeWhile skipped ++ text.dropWhile skipped).drop
      (text.takeWhile skipped).length = text.dropWhile skipped := List.drop_left
  rw [hsplit] at hrest
  rw [← hrest]
  exact hholds.drop (List.takeWhile_prefix skipped).length_le

theorem within_load (hholds : HoldsText (array.drop index) text)
    {post : UInt8 → List UInt8 → Prop} :
    Within post (load index) array ↔ post (text.headD 0) array := by
  have hlt : index < array.length := by
    have hlength := hholds.length_lt
    omega
  obtain ⟨⟨rest, hsplit⟩, -⟩ := hholds
  obtain ⟨byte, hread, hdrop⟩ := drop_of_lt hlt
  have hbyte : text.headD 0 = byte := by
    rw [hdrop] at hsplit
    cases text with
    | nil => exact (List.cons.inj hsplit).1.symm
    | cons head text => exact (List.cons.inj hsplit).1.symm
  rw [LocalArray.within_load, inBounds_natCast, hread, hbyte]
  exact and_iff_right hlt

/-- However many bytes are asked for, a read ends at the NUL. -/
theorem within_readString (hholds : HoldsText (array.drop index) text)
    {post : List UInt8 → List UInt8 → Prop} {count : Nat} :
    Within post (readString count index) array ↔ post (text.take count) array := by
  have hlength := hholds.length_lt
  rw [LocalArray.within_readString (by omega), hholds.ofBuffer_eq]
  apply and_iff_right
  by_cases hcount : index + count ≤ array.length
  · exact .inr hcount
  · left
    rw [List.take_of_length_le (by rw [List.length_drop]; omega)]
    exact hholds.zero_mem

theorem within_skipWhile (hholds : HoldsText (array.drop index) text) {skipped : UInt8 → Bool}
    (hstop : skipped 0 = false) {post : Nat → List UInt8 → Prop} {count : Nat}
    (hcount : array.length < count) :
    Within post (skipWhile skipped count index) array ↔
      post (index + (text.takeWhile skipped).length) array := by
  have hshort : (array.drop index).length < count := by
    rw [List.length_drop]
    omega
  rw [LocalArray.within_skipWhile ⟨0, hholds.zero_mem, hstop⟩ hshort, hholds.takeWhile_eq hstop]

end HoldsText

end LocalArray

end FrontPanel
