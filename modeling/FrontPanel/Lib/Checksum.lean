import Mathlib.Algebra.Group.Basic
import Mathlib.Algebra.Group.Nat.Defs
import Mathlib.Data.List.Basic

/-!
# Additive checksums

A frame that ends in the sum of its bytes, the bytes counted in whatever the sum is kept in: a machine word that wraps, or a number wide enough never to. Where the counting is injective and sums can be cancelled, the sum of a list sees every change of a single entry.
-/

namespace FrontPanel

variable {Entry Total : Type*} [AddCommMonoid Total] {weight : Entry → Total}
  {entries : List Entry} {entry : Entry} {i : Nat}

def checksum (weight : Entry → Total) (entries : List Entry) : Total :=
  entries.foldl (fun total entry => total + weight entry) 0

theorem foldl_checksum (weight : Entry → Total) (entries : List Entry) (start : Total) :
    entries.foldl (fun total entry => total + weight entry) start =
      start + checksum weight entries := by
  induction entries generalizing start with
  | nil => exact (add_zero start).symm
  | cons entry entries ih =>
      rw [checksum, List.foldl_cons, List.foldl_cons, ih, ih, zero_add, add_assoc]

theorem checksum_cons (weight : Entry → Total) (entry : Entry) (entries : List Entry) :
    checksum weight (entry :: entries) = weight entry + checksum weight entries := by
  rw [checksum, List.foldl_cons, foldl_checksum, zero_add]

/-- Replacing an entry moves the sum by what the two entries differ in. -/
theorem checksum_set (weight : Entry → Total) (entry : Entry) (hi : i < entries.length) :
    checksum weight (entries.set i entry) + weight entries[i] =
      checksum weight entries + weight entry := by
  induction entries generalizing i with
  | nil => exact absurd hi (Nat.not_lt_zero i)
  | cons head entries ih =>
      cases i with
      | zero =>
          rw [List.set_cons_zero, List.getElem_cons_zero, checksum_cons, checksum_cons,
            add_right_comm, add_comm (weight entry), add_right_comm]
      | succ i =>
          rw [List.set_cons_succ, List.getElem_cons_succ, checksum_cons, checksum_cons, add_assoc,
            ih (Nat.lt_of_succ_lt_succ hi), add_assoc]

theorem checksum_set_ne [IsCancelAdd Total] (hweight : Function.Injective weight)
    (hi : i < entries.length) (hentry : entry ≠ entries[i]) :
    checksum weight (entries.set i entry) ≠ checksum weight entries := by
  intro hsame
  have hmoved := checksum_set weight entry hi
  rw [hsame] at hmoved
  exact hentry (hweight (add_left_cancel hmoved)).symm

/-- Counted as a number, the sum of some bytes stays in its width if there are few enough of them. -/
theorem checksum_bytes_le (bytes : List UInt8) :
    checksum UInt8.toNat bytes ≤ 255 * bytes.length := by
  induction bytes with
  | nil => exact Nat.le_refl 0
  | cons byte bytes ih =>
      have hbyte := byte.toNat_lt
      rw [checksum_cons, List.length_cons]
      omega

end FrontPanel
