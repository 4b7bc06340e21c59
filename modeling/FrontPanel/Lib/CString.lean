import Mathlib.Data.List.Basic
import Mathlib.Data.List.TakeWhile

/-!
# Kernel string functions

A C string is the list of its bytes before the terminating NUL, so reading past the end of the list reads NUL. `strncmp`, `strncasecmp` and `vsscanf` are those of the kernel's `lib/string.c` and `lib/vsprintf.c`, the latter for formats made of white space, plain characters and `%ld`. Digits are not checked for overflow there: the number a conversion stores is the one read modulo the width of its target, so the conversion here gives the number read. The conversions of `lib/kstrtox.c`, here for base 10, do check: they take a whole string of digits, with at most one newline behind it, or fail.
-/

namespace FrontPanel.CString

def ascii (text : String) : List UInt8 := text.toList.map fun c => c.toNat.toUInt8

/-- The string in a buffer. -/
def ofBuffer (buffer : List UInt8) : List UInt8 := buffer.takeWhile (· ≠ 0)

def strncmp (cs ct : List UInt8) : Nat → Int
  | 0 => 0
  | count + 1 =>
      let c1 := cs.headD 0
      let c2 := ct.headD 0
      if c1 ≠ c2 then (if c1 < c2 then -1 else 1)
      else if c1 = 0 then 0
      else strncmp cs.tail ct.tail count

def isspace (c : UInt8) : Bool := (9 ≤ c && c ≤ 13) || c == 32 || c == 160

def isdigit (c : UInt8) : Bool := 48 ≤ c && c ≤ 57

def skipSpaces (str : List UInt8) : List UInt8 := str.dropWhile isspace

/-- The number at the head of a string, and what follows it. -/
def simpleStrtoull (value : Nat) : List UInt8 → Nat × List UInt8
  | [] => (value, [])
  | c :: rest =>
      if isdigit c then simpleStrtoull (value * 10 + (c.toNat - 48)) rest
      else (value, c :: rest)

/-- The conversion `%ld`: a digit must follow the optional sign. -/
def scanLong (str : List UInt8) : Option (Int × List UInt8) :=
  match str with
  | [] => none
  | c :: rest =>
      if c = 45 then
        if (rest.head?.map isdigit).getD false then
          let (value, next) := simpleStrtoull 0 rest
          some (-value, next)
        else none
      else if isdigit c then
        let (value, next) := simpleStrtoull 0 (c :: rest)
        some (value, next)
      else none

inductive Directive
  | space
  | plain (c : UInt8)
  | long

/-- A format: a space stands for any white space, `#` here for `%ld`. -/
def format (text : String) : List Directive :=
  (ascii text).map fun c => if c = 32 then .space else if c = 35 then .long else .plain c

/-- The numbers converted before the first mismatch. -/
def vsscanf : List Directive → List UInt8 → List Int
  | [], _ => []
  | .space :: fmt, str => vsscanf fmt (skipSpaces str)
  | .plain c :: fmt, str =>
      match str with
      | [] => []
      | d :: rest => if c = d then vsscanf fmt rest else []
  | .long :: fmt, str =>
      match scanLong (skipSpaces str) with
      | none => []
      | some (value, rest) => value :: vsscanf fmt rest

/-! ### Whole numbers -/

def eInval : Int := -22
def eRange : Int := -34

/-- `_kstrtoull` -/
def kstrtoullDigits (s : List UInt8) : Except Int Nat :=
  let (value, rest) := simpleStrtoull 0 s
  if 18446744073709551616 ≤ value then .error eRange
  else if rest.length = s.length then .error eInval
  else if rest = [] ∨ rest = [10] then .ok value
  else .error eInval

def kstrtoull (s : List UInt8) : Except Int Nat :=
  if s.head? = some 43 then kstrtoullDigits s.tail else kstrtoullDigits s

/-- An `unsigned long` has 64 bits. -/
def kstrtoul (s : List UInt8) : Except Int Nat := kstrtoull s

def kstrtoll (s : List UInt8) : Except Int Int :=
  if s.head? = some 45 then
    match kstrtoullDigits s.tail with
    | .error rv => .error rv
    | .ok tmp => if 9223372036854775808 < tmp then .error eRange else .ok (-tmp)
  else
    match kstrtoull s with
    | .error rv => .error rv
    | .ok tmp => if 9223372036854775808 ≤ tmp then .error eRange else .ok tmp

def kstrtoint (s : List UInt8) : Except Int Int :=
  match kstrtoll s with
  | .error rv => .error rv
  | .ok tmp => if tmp < -2147483648 ∨ 2147483648 ≤ tmp then .error eRange else .ok tmp

theorem kstrtoullDigits_lt {s : List UInt8} {value : Nat} (hvalue : kstrtoullDigits s = .ok value) :
    value < 18446744073709551616 := by
  rw [kstrtoullDigits] at hvalue
  dsimp only at hvalue
  split_ifs at hvalue with hlarge
  rw [← Except.ok.inj hvalue]
  exact not_le.mp hlarge

theorem kstrtoul_lt {s : List UInt8} {value : Nat} (hvalue : kstrtoul s = .ok value) :
    value < 18446744073709551616 := by
  rw [kstrtoul, kstrtoull] at hvalue
  split at hvalue
  · exact kstrtoullDigits_lt hvalue
  · exact kstrtoullDigits_lt hvalue

/-- A conversion skips nothing, so a NUL is left where it is. -/
theorem zero_mem_simpleStrtoull (value : Nat) {s : List UInt8} (hzero : 0 ∈ s) :
    0 ∈ (simpleStrtoull value s).2 := by
  induction s generalizing value with
  | nil => exact hzero
  | cons c rest ih =>
      rw [simpleStrtoull]
      split
      · next hdigit =>
        rcases List.mem_cons.mp hzero with hc | hrest
        · rw [← hc] at hdigit
          exact absurd hdigit (by decide)
        · exact ih _ hrest
      · exact hzero

theorem kstrtoullDigits_zero {s : List UInt8} {value : Nat}
    (hvalue : kstrtoullDigits s = .ok value) : 0 ∉ s := by
  intro hzero
  have hrest := zero_mem_simpleStrtoull 0 hzero
  rw [kstrtoullDigits] at hvalue
  dsimp only at hvalue
  split_ifs at hvalue with hlarge hnone hend
  rcases hend with hend | hend
  · rw [hend] at hrest
    exact absurd hrest (by decide)
  · rw [hend] at hrest
    exact absurd hrest (by decide)

theorem kstrtoul_zero {s : List UInt8} {value : Nat} (hvalue : kstrtoul s = .ok value) : 0 ∉ s := by
  rw [kstrtoul, kstrtoull] at hvalue
  split at hvalue
  · next hplus =>
    cases s with
    | nil => cases hplus
    | cons c s =>
        have hc : c = 43 := Option.some.inj hplus
        have hrest := kstrtoullDigits_zero hvalue
        subst hc
        exact List.not_mem_cons_of_ne_of_not_mem (by decide) hrest
  · exact kstrtoullDigits_zero hvalue

/-! ### Comparisons without regard to case -/

/-- `tolower`, by the kernel's character table, which has the Latin-1 letters too. -/
def tolower (c : UInt8) : UInt8 :=
  if (65 ≤ c ∧ c ≤ 90) ∨ (192 ≤ c ∧ c ≤ 222 ∧ c ≠ 215) then c + 32 else c

def strncasecmp (s1 s2 : List UInt8) : Nat → Int
  | 0 => 0
  | len + 1 =>
      let c1 := s1.headD 0
      let c2 := s2.headD 0
      if c1 = 0 ∨ c2 = 0 then c1.toNat - c2.toNat
      else if tolower c1 = tolower c2 then strncasecmp s1.tail s2.tail len
      else (tolower c1).toNat - (tolower c2).toNat

theorem strncasecmp_cons {c1 c2 : UInt8} (hc1 : c1 ≠ 0) (hc2 : c2 ≠ 0) (s1 s2 : List UInt8)
    (len : Nat) : strncasecmp (c1 :: s1) (c2 :: s2) (len + 1) =
      if tolower c1 = tolower c2 then strncasecmp s1 s2 len
      else (tolower c1).toNat - (tolower c2).toNat :=
  if_neg (not_or.mpr ⟨hc1, hc2⟩)

theorem toNat_sub_eq_zero_iff {c1 c2 : UInt8} : (c1.toNat : Int) - c2.toNat = 0 ↔ c1 = c2 := by
  rw [Int.sub_eq_zero, Int.natCast_inj, UInt8.toNat_inj]

theorem strncasecmp_take (s1 s2 : List UInt8) (len : Nat) :
    strncasecmp (s1.take len) s2 len = strncasecmp s1 s2 len := by
  induction len generalizing s1 s2 with
  | zero => rfl
  | succ len ih =>
      cases s1 with
      | nil => rfl
      | cons c1 s1 =>
          have htail := ih s1 s2.tail
          rw [List.take_succ_cons, strncasecmp]
          simp only [List.tail_cons]
          rw [htail]
          rfl

theorem le_length_of_strncasecmp {text word : List UInt8} {len : Nat} (hword : 0 ∉ word)
    (hlen : len ≤ word.length) (hequal : strncasecmp text word len = 0) : len ≤ text.length := by
  induction len generalizing text word with
  | zero => exact Nat.zero_le _
  | succ len ih =>
      cases word with
      | nil => exact absurd hlen (Nat.not_succ_le_zero len)
      | cons c2 word =>
          have hc2 : c2 ≠ 0 := (List.ne_of_not_mem_cons hword).symm
          have hne : c2.toNat ≠ 0 := fun hzero => hc2 (UInt8.toNat_inj.mp hzero)
          cases text with
          | nil => simp [strncasecmp, hne] at hequal
          | cons c1 text =>
              have hrest := List.not_mem_of_not_mem_cons hword
              by_cases hc1 : c1 = 0
              · simp [strncasecmp, hc1, hne] at hequal
              · rw [strncasecmp_cons hc1 hc2] at hequal
                split at hequal
                · exact Nat.succ_le_succ (ih hrest (Nat.le_of_succ_le_succ hlen) hequal)
                · next hdiffer =>
                    rw [toNat_sub_eq_zero_iff] at hequal
                    exact absurd hequal hdiffer

/-- A text without a NUL compares equal to a whole word, terminator included, if it is that word up to case. -/
theorem strncasecmp_eq_zero_iff {text word : List UInt8} (htext : 0 ∉ text) (hword : 0 ∉ word) :
    strncasecmp text word (word.length + 1) = 0 ↔ text.map tolower = word.map tolower := by
  induction word generalizing text with
  | nil =>
      cases text with
      | nil => simp [strncasecmp]
      | cons c text =>
          have hc : c.toNat ≠ 0 := fun hzero =>
            List.ne_of_not_mem_cons htext (UInt8.toNat_inj.mp hzero).symm
          simp [strncasecmp, hc]
  | cons c2 word ih =>
      have hc2 : c2 ≠ 0 := (List.ne_of_not_mem_cons hword).symm
      cases text with
      | nil =>
          have hne : c2.toNat ≠ 0 := fun hzero => hc2 (UInt8.toNat_inj.mp hzero)
          rw [List.length_cons, strncasecmp]
          simpa using hne
      | cons c1 text =>
          have hc1 : c1 ≠ 0 := (List.ne_of_not_mem_cons htext).symm
          have htail := ih (List.not_mem_of_not_mem_cons htext) (List.not_mem_of_not_mem_cons hword)
          rw [List.length_cons]
          rw [strncasecmp_cons hc1 hc2]
          by_cases hsame : tolower c1 = tolower c2
          · simp [hsame, htail]
          · simp [hsame, toNat_sub_eq_zero_iff]

/-- Compared for its own length, a word compares equal to the texts that begin with it, up to case. -/
theorem strncasecmp_prefix_iff {text word : List UInt8} (htext : 0 ∉ text) (hword : 0 ∉ word) :
    strncasecmp text word word.length = 0 ↔
      (text.map tolower).take word.length = word.map tolower := by
  induction word generalizing text with
  | nil => simp [strncasecmp]
  | cons c2 word ih =>
      have hc2 : c2 ≠ 0 := (List.ne_of_not_mem_cons hword).symm
      cases text with
      | nil =>
          have hne : c2.toNat ≠ 0 := fun hzero => hc2 (UInt8.toNat_inj.mp hzero)
          simp [strncasecmp, hne]
      | cons c1 text =>
          have hc1 : c1 ≠ 0 := (List.ne_of_not_mem_cons htext).symm
          have htail := ih (List.not_mem_of_not_mem_cons htext) (List.not_mem_of_not_mem_cons hword)
          rw [List.length_cons, strncasecmp_cons hc1 hc2]
          by_cases hsame : tolower c1 = tolower c2
          · simp [hsame, htail]
          · simp [hsame, toNat_sub_eq_zero_iff]

/-- Of two conditions the weaker one skips as much, or the stronger one stops at a byte that the weaker one skips. -/
theorem dropWhile_cases {p q : UInt8 → Bool} (hpq : ∀ c, p c = true → q c = true)
    (text : List UInt8) :
    ((∀ c ∈ text.takeWhile q, p c = true) ∧ text.dropWhile p = text.dropWhile q) ∨
    ∃ c tail, c ∈ text.takeWhile q ∧ p c = false ∧ text.dropWhile p = c :: tail := by
  induction text with
  | nil => exact .inl ⟨by simp, rfl⟩
  | cons c text ih =>
      cases hq : q c with
      | false =>
          have hp : p c = false := Bool.eq_false_iff.mpr fun hp => by simp [hpq c hp] at hq
          exact .inl ⟨by simp [hq], by simp [hp, hq]⟩
      | true =>
          cases hp : p c with
          | false => exact .inr ⟨c, text, by simp [hq], hp, by simp [hp]⟩
          | true =>
              rw [List.takeWhile_cons_of_pos hq, List.dropWhile_cons_of_pos hp,
                List.dropWhile_cons_of_pos hq]
              obtain ⟨hall, hsame⟩ | ⟨d, tail, hmem, hd, hstop⟩ := ih
              · exact .inl ⟨List.forall_mem_cons.mpr ⟨hp, hall⟩, hsame⟩
              · exact .inr ⟨d, tail, List.mem_cons_of_mem _ hmem, hd, hstop⟩

theorem zero_not_mem_ofBuffer (buffer : List UInt8) : 0 ∉ ofBuffer buffer := by
  intro hmem
  simpa using List.mem_takeWhile_imp hmem

theorem strncmp_take (cs ct : List UInt8) (count : Nat) :
    strncmp (cs.take count) ct count = strncmp cs ct count := by
  induction count generalizing cs ct with
  | zero => rfl
  | succ count ih =>
      cases cs with
      | nil => rfl
      | cons c1 cs =>
          have htail := ih cs ct.tail
          rw [List.take_succ_cons, strncmp]
          simp only [List.tail_cons]
          rw [htail]
          rfl

theorem strncmp_take_right (cs ct : List UInt8) (count : Nat) :
    strncmp cs (ct.take count) count = strncmp cs ct count := by
  induction count generalizing cs ct with
  | zero => rfl
  | succ count ih =>
      cases ct with
      | nil => rfl
      | cons c2 ct =>
          have htail := ih cs.tail ct
          rw [List.take_succ_cons, strncmp]
          simp only [List.tail_cons]
          rw [htail]
          rfl

/-- Strings without a NUL compare equal if they agree as far as they are compared. -/
theorem strncmp_eq_zero_iff {cs ct : List UInt8} {count : Nat} (hcs : 0 ∉ cs) (hct : 0 ∉ ct) :
    strncmp cs ct count = 0 ↔ cs.take count = ct.take count := by
  induction count generalizing cs ct with
  | zero => simp [strncmp]
  | succ count ih =>
      have hdiffer : ∀ c1 c2 : UInt8, (if c1 < c2 then (-1 : Int) else 1) ≠ 0 := by
        intro c1 c2
        split <;> decide
      cases cs with
      | nil =>
          cases ct with
          | nil => simp [strncmp]
          | cons c2 ct =>
              have hc2 : (0 : UInt8) ≠ c2 := List.ne_of_not_mem_cons hct
              simp [strncmp, hc2, hdiffer]
      | cons c1 cs =>
          have hc1 : (0 : UInt8) ≠ c1 := List.ne_of_not_mem_cons hcs
          cases ct with
          | nil => simp [strncmp, hc1.symm]
          | cons c2 ct =>
              by_cases hsame : c1 = c2
              · obtain rfl := hsame
                have htail := ih (List.not_mem_of_not_mem_cons hcs) (List.not_mem_of_not_mem_cons hct)
                simp [strncmp, hc1.symm, htail]
              · simp [strncmp, hsame, hdiffer]

theorem headD_eq_of_strncmp {cs ct : List UInt8} {count : Nat}
    (hequal : strncmp cs ct (count + 1) = 0) : cs.headD 0 = ct.headD 0 := by
  by_contra hne
  simp only [strncmp, ne_eq, hne, not_false_eq_true, if_true] at hequal
  split at hequal <;> cases hequal

end FrontPanel.CString
