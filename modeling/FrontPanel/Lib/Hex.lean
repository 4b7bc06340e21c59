import Mathlib.Data.UInt

/-!
# Hexadecimal text

A byte is written as two digits of either case, a list of bytes as its pairs one after the other with nothing between them.
-/

namespace FrontPanel.Hex

def digit (c : UInt8) : Option Nat :=
  if 48 ≤ c ∧ c ≤ 57 then some (c.toNat - 48)
  else if 97 ≤ c ∧ c ≤ 102 then some (c.toNat - 87)
  else if 65 ≤ c ∧ c ≤ 70 then some (c.toNat - 55)
  else none

def pair (high low : UInt8) : Option UInt8 := do
  let highValue ← digit high
  let lowValue ← digit low
  return UInt8.ofNat (16 * highValue + lowValue)

def pairs : List UInt8 → Option (List UInt8)
  | [] => some []
  | [_] => none
  | high :: low :: rest => do
      let byte ← pair high low
      let bytes ← pairs rest
      return byte :: bytes

theorem pair_eq_some {high low byte : UInt8} (hpair : pair high low = some byte) :
    ∃ highValue lowValue, digit high = some highValue ∧ digit low = some lowValue ∧
      byte = UInt8.ofNat (16 * highValue + lowValue) := by
  rw [pair] at hpair
  obtain ⟨highValue, hhigh, hpair⟩ := Option.bind_eq_some_iff.mp hpair
  obtain ⟨lowValue, hlow, hpair⟩ := Option.bind_eq_some_iff.mp hpair
  exact ⟨highValue, lowValue, hhigh, hlow, (Option.some.inj hpair).symm⟩

theorem pairs_cons_eq_some {high low : UInt8} {rest bytes : List UInt8}
    (hpairs : pairs (high :: low :: rest) = some bytes) :
    ∃ byte tail, pair high low = some byte ∧ pairs rest = some tail ∧ bytes = byte :: tail := by
  rw [pairs] at hpairs
  obtain ⟨byte, hbyte, hpairs⟩ := Option.bind_eq_some_iff.mp hpairs
  obtain ⟨tail, htail, hpairs⟩ := Option.bind_eq_some_iff.mp hpairs
  exact ⟨byte, tail, hbyte, htail, (Option.some.inj hpairs).symm⟩

end FrontPanel.Hex
