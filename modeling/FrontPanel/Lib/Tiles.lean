import Mathlib.Data.List.Basic

/-!
# Pieces that tile a list

A transfer cut into pieces, each with the address it is meant for, carries a list whole exactly when the pieces tile it: each starts where the one before ended, none is empty, and together they are the list. A tiling says everything about the contents at once, and `Tiles.holds_iff` reads it address by address.
-/

namespace FrontPanel

variable {α : Type*} {start size : Nat} {pieces rest : List (Nat × List α)} {whole : List α}

/-- `Tiles start pieces whole`: laid at their addresses the pieces are `whole`, laid at `start`, in order, with no gap and no overlap. -/
def Tiles : Nat → List (Nat × List α) → List α → Prop
  | _, [], whole => whole = []
  | start, (address, piece) :: rest, whole =>
      address = start ∧ piece ≠ [] ∧
        ∃ remaining, whole = piece ++ remaining ∧ Tiles (start + piece.length) rest remaining

/-- Some piece holds `value` at `address`. -/
def Holds (pieces : List (Nat × List α)) (address : Nat) (value : α) : Prop :=
  ∃ base piece, (base, piece) ∈ pieces ∧ base ≤ address ∧ piece[address - base]? = some value

theorem holds_cons {base address : Nat} {piece : List α} {value : α} :
    Holds ((base, piece) :: rest) address value ↔
      (base ≤ address ∧ piece[address - base]? = some value) ∨ Holds rest address value := by
  simp only [Holds, List.mem_cons, Prod.mk.injEq]
  constructor
  · intro hgiven
    obtain ⟨_, _, ⟨rfl, rfl⟩ | hmem, hvalue⟩ := hgiven
    · exact .inl hvalue
    · exact .inr ⟨_, _, hmem, hvalue⟩
  · intro hcase
    rcases hcase with hvalue | ⟨_, _, hmem, hvalue⟩
    · exact ⟨base, piece, .inl ⟨rfl, rfl⟩, hvalue⟩
    · exact ⟨_, _, .inr hmem, hvalue⟩

namespace Tiles

theorem eq_nil_of_whole_nil (htiles : Tiles start pieces ([] : List α)) : pieces = [] := by
  cases pieces with
  | nil => rfl
  | cons head rest =>
      obtain ⟨-, hpiece, remaining, hwhole, -⟩ := htiles
      exact absurd (List.append_eq_nil_iff.mp hwhole.symm).1 hpiece

theorem packet (hsize : 0 < size) (hwhole : whole ≠ [])
    (hrest : Tiles (start + size) rest (whole.drop size)) :
    Tiles start ((start, whole.take size) :: rest) whole := by
  refine ⟨rfl, ?_, whole.drop size, (List.take_append_drop size whole).symm, ?_⟩
  · simp only [ne_eq, List.take_eq_nil_iff, hwhole, or_false]
    omega
  · by_cases hfull : size ≤ whole.length
    · rwa [List.length_take_of_le hfull]
    · have hdrop : whole.drop size = [] := List.drop_eq_nil_of_le (by omega)
      rw [hdrop] at hrest ⊢
      rw [hrest.eq_nil_of_whole_nil]
      rfl

theorem holds_iff (htiles : Tiles start pieces whole) {address : Nat} {value : α} :
    Holds pieces address value ↔ start ≤ address ∧ whole[address - start]? = some value := by
  induction pieces generalizing start whole with
  | nil =>
      have hwhole : whole = [] := htiles
      simp [Holds, hwhole]
  | cons head rest ih =>
      obtain ⟨base, piece⟩ := head
      obtain ⟨rfl, -, remaining, rfl, hrest⟩ := htiles
      rw [holds_cons, ih hrest]
      by_cases hinside : address - base < piece.length
      · rw [List.getElem?_append_left hinside]
        constructor
        · intro hcase
          rcases hcase with hvalue | ⟨hbeyond, -⟩
          · exact hvalue
          · omega
        · exact .inl
      · rw [List.getElem?_append_right (by omega), List.getElem?_eq_none (by omega),
          Nat.sub_sub]
        constructor
        · intro hcase
          rcases hcase with ⟨-, hnone⟩ | ⟨hbeyond, hvalue⟩
          · exact absurd hnone (by simp)
          · exact ⟨by omega, hvalue⟩
        · intro hgiven
          obtain ⟨hstart, hvalue⟩ := hgiven
          refine .inr ⟨?_, hvalue⟩
          by_contra hbefore
          omega

end Tiles

end FrontPanel
