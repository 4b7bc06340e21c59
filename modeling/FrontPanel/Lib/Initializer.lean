import FrontPanel.Lib.Hex

/-!
# Initializers of byte arrays

What stands between the braces of a C array of bytes, where every element is a hexadecimal constant: white space may stand around an element, a comma behind every one, and behind the last there may be one. An element keeps the low eight bits of its constant.
-/

namespace FrontPanel.Initializer

/-- Where the reader is. -/
inductive Place
  /-- in front of an element or the end -/
  | element
  /-- behind the `0` of an element, and behind its `x` -/
  | zero
  | x
  | digits (value : Nat)
  /-- behind an element -/
  | behind (value : Nat)

def isSpace (c : UInt8) : Bool := c == 32 || (9 ≤ c && c ≤ 13)

/-- The elements of the text from this place on; `none` if it is no initializer. -/
def read : Place → List UInt8 → Option (List UInt8)
  | .element, [] => some []
  | .digits value, [] => some [UInt8.ofNat value]
  | .behind value, [] => some [UInt8.ofNat value]
  | .zero, [] => none
  | .x, [] => none
  | .element, c :: rest =>
      if isSpace c then read .element rest else if c = 48 then read .zero rest else none
  | .zero, c :: rest => if c = 120 ∨ c = 88 then read .x rest else none
  | .x, c :: rest =>
      match Hex.digit c with
      | some digit => read (.digits digit) rest
      | none => none
  | .digits value, c :: rest =>
      match Hex.digit c with
      | some digit => read (.digits (16 * value + digit)) rest
      | none =>
          if c = 44 then (read .element rest).map (UInt8.ofNat value :: ·)
          else if isSpace c then read (.behind value) rest
          else none
  | .behind value, c :: rest =>
      if isSpace c then read (.behind value) rest
      else if c = 44 then (read .element rest).map (UInt8.ofNat value :: ·)
      else none

/-- The array that the text initializes. -/
def array (text : List UInt8) : Option (List UInt8) := read .element text

/-- A digit of `%X`. -/
def upperDigit (value : Nat) : UInt8 :=
  if value < 10 then UInt8.ofNat (48 + value) else UInt8.ofNat (55 + value)

/-- `0x%02X` -/
def constant (byte : UInt8) : List UInt8 :=
  [48, 120, upperDigit (byte.toNat / 16), upperDigit (byte.toNat % 16)]

theorem digit_upperDigit {value : Nat} (hvalue : value < 16) :
    Hex.digit (upperDigit value) = some value := by
  revert value
  decide

variable {rest : List UInt8}

theorem read_space {c : UInt8} (hspace : isSpace c = true) :
    read .element (c :: rest) = read .element rest := by
  rw [read, if_pos hspace]

theorem read_constant (byte : UInt8) : read .element (constant byte ++ 44 :: rest) =
    (read .element rest).map (byte :: ·) := by
  have hhigh : Hex.digit (upperDigit (byte.toNat / 16)) = some (byte.toNat / 16) :=
    digit_upperDigit (by have := byte.toNat_lt; omega)
  have hlow : Hex.digit (upperDigit (byte.toNat % 16)) = some (byte.toNat % 16) :=
    digit_upperDigit (Nat.mod_lt _ (by decide))
  have hcomma : Hex.digit 44 = none := by decide
  have hvalue : UInt8.ofNat (16 * (byte.toNat / 16) + byte.toNat % 16) = byte := by
    rw [Nat.div_add_mod, UInt8.ofNat_toNat]
  have hread : read .element (constant byte ++ 44 :: rest) =
      read .x (upperDigit (byte.toNat / 16) :: upperDigit (byte.toNat % 16) :: 44 :: rest) := rfl
  rw [hread, read, hhigh]
  dsimp only
  rw [read, hlow]
  dsimp only
  rw [read, hcomma]
  dsimp only
  rw [if_pos rfl, hvalue]

end FrontPanel.Initializer
