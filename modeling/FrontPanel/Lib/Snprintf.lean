import Mathlib.Data.List.Basic
import Mathlib.Data.UInt

/-!
# Filling a buffer with snprintf

The idiom `total += snprintf(buf + total, size - total, ...)`, one text after the other into a buffer of `size` bytes. `snprintf` cuts what does not fit in front of its NUL and returns the length it would have needed, so the total can reach `size` and pass it. Then `size - total` wraps round, and the kernel refuses such a size: nothing is printed and the total stays. What was printed is complete exactly when the total ended below `size`.
-/

namespace FrontPanel

/-- The text in front of the NUL of a buffer of `size` bytes, and the total so far. -/
structure Printed (size : Nat) where
  text : List UInt8
  total : Nat
  length_text : text.length = min total (size - 1)

namespace Printed

variable {size : Nat}

def empty (size : Nat) : Printed size where
  text := []
  total := 0
  length_text := (Nat.zero_min _).symm

theorem length_append_take (page : Printed size) (text : List UInt8) (htotal : page.total ≤ size) :
    (page.text ++ text.take (size - page.total - 1)).length =
      min (page.total + text.length) (size - 1) := by
  have hlength := page.length_text
  rw [List.length_append, List.length_take]
  omega

def snprintf (page : Printed size) (text : List UInt8) : Printed size :=
  if htotal : page.total ≤ size then
    { text := page.text ++ text.take (size - page.total - 1)
      total := page.total + text.length
      length_text := page.length_append_take text htotal }
  else page

def printAll (page : Printed size) (texts : List (List UInt8)) : Printed size :=
  texts.foldl snprintf page

variable {page : Printed size} {text : List UInt8} {texts : List (List UInt8)}

theorem printAll_cons : page.printAll (text :: texts) = (page.snprintf text).printAll texts := rfl

theorem printAll_append (more : List (List UInt8)) :
    page.printAll (texts ++ more) = (page.printAll texts).printAll more := List.foldl_append

theorem snprintf_of_lt (hfits : page.total + text.length < size) :
    (page.snprintf text).text = page.text ++ text ∧
      (page.snprintf text).total = page.total + text.length := by
  rw [snprintf, dif_pos (by omega)]
  refine ⟨?_, rfl⟩
  show page.text ++ text.take (size - page.total - 1) = page.text ++ text
  rw [List.take_of_length_le (by omega)]

theorem le_total_snprintf (page : Printed size) (text : List UInt8) :
    page.total ≤ (page.snprintf text).total := by
  rw [snprintf]
  split
  · show page.total ≤ page.total + text.length
    omega
  · exact le_refl _

theorem printAll_of_lt (hfits : page.total + texts.flatten.length < size) :
    (page.printAll texts).text = page.text ++ texts.flatten ∧
      (page.printAll texts).total = page.total + texts.flatten.length := by
  induction texts generalizing page with
  | nil => exact ⟨(List.append_nil _).symm, rfl⟩
  | cons text texts ih =>
      rw [List.flatten_cons, List.length_append] at hfits
      have hfirst : page.total + text.length < size := by omega
      obtain ⟨htext, htotal⟩ := snprintf_of_lt hfirst
      have hrest : (page.snprintf text).total + texts.flatten.length < size := by omega
      obtain ⟨hall, hsum⟩ := ih hrest
      rw [printAll_cons, hall, hsum, htext, htotal, List.flatten_cons, List.length_append]
      exact ⟨List.append_assoc _ _ _, by omega⟩

/-- What does not fit leaves a total that says so. -/
theorem printAll_of_le (hlarge : size ≤ page.total + texts.flatten.length) :
    size ≤ (page.printAll texts).total := by
  induction texts generalizing page with
  | nil => exact hlarge
  | cons text texts ih =>
      rw [printAll_cons]
      apply ih
      rw [List.flatten_cons, List.length_append] at hlarge
      by_cases htotal : page.total ≤ size
      · rw [snprintf, dif_pos htotal]
        show size ≤ page.total + text.length + texts.flatten.length
        omega
      · have hmono := le_total_snprintf page text
        omega

theorem total_printAll_empty_lt_iff :
    ((empty size).printAll texts).total < size ↔ texts.flatten.length < size := by
  constructor
  · intro htotal
    by_contra hlarge
    have htotal' : size ≤ ((empty size).printAll texts).total := by
      apply printAll_of_le
      show size ≤ 0 + texts.flatten.length
      omega
    omega
  · intro hfits
    have hzero : (empty size).total + texts.flatten.length = texts.flatten.length := Nat.zero_add _
    rw [(printAll_of_lt (by omega)).2]
    omega

end Printed

end FrontPanel
