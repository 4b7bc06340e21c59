import FrontPanel.Lib.Tiles
import Mathlib.Data.List.GetD
import Mathlib.Logic.Function.Basic

/-!
# NOR flash

An erase sets every bit and a program clears some: its bytes are anded into the cells, and where they reach the end of a page they go on at its beginning. So a page program does what it says if it stays within its page, and pieces that do and tile a list leave that list, programmed on top of an erase.
-/

namespace FrontPanel.NorFlash

abbrev Cells : Type := Nat → UInt8

def erased : Cells := fun _ => 0xff

/-- The address behind `address`, in the same page. -/
def nextInPage (page address : Nat) : Nat := address / page * page + (address + 1) % page

/-- The cells after a page program from `address` on. -/
def program (page : Nat) : Cells → Nat → List UInt8 → Cells
  | cells, _, [] => cells
  | cells, address, byte :: rest =>
      program page (Function.update cells address (cells address &&& byte)) (nextInPage page address)
        rest

def programAll (page : Nat) (cells : Cells) (pieces : List (Nat × List UInt8)) : Cells :=
  pieces.foldl (fun cells piece => program page cells piece.1 piece.2) cells

/-- The cells from `address` on are `bytes`. -/
def Stores (cells : Cells) (address : Nat) (bytes : List UInt8) : Prop :=
  ∀ (i : Nat) (hi : i < bytes.length), cells (address + i) = bytes[i]

instance (cells : Cells) (address : Nat) (bytes : List UInt8) :
    Decidable (Stores cells address bytes) :=
  inferInstanceAs (Decidable (∀ _, _))

variable {page address start : Nat} {cells : Cells} {bytes image : List UInt8}
  {pieces : List (Nat × List UInt8)}

theorem stores_iff (cells : Cells) (address : Nat) (bytes : List UInt8) :
    Stores cells address bytes ↔
      bytes = (List.range bytes.length).map fun i => cells (address + i) := by
  constructor
  · intro hstores
    refine List.ext_getElem (by simp) fun i hi _ => ?_
    rw [List.getElem_map, List.getElem_range, hstores i hi]
  · intro hsame i hi
    have hcell := List.getElem_of_eq hsame hi
    rw [hcell, List.getElem_map, List.getElem_range]

theorem stores_append {rest : List UInt8} : Stores cells address (bytes ++ rest) ↔
    Stores cells address bytes ∧ Stores cells (address + bytes.length) rest := by
  constructor
  · intro hstores
    refine ⟨fun i hi => ?_, fun i hi => ?_⟩
    · have hcell := hstores i (by rw [List.length_append]; omega)
      rwa [List.getElem_append_left hi] at hcell
    · have hcell := hstores (bytes.length + i) (by rw [List.length_append]; omega)
      rw [List.getElem_append_right (Nat.le_add_right _ _)] at hcell
      simpa [Nat.add_assoc] using hcell
  · intro hgiven i hi
    obtain ⟨hbytes, hrest⟩ := hgiven
    by_cases hfirst : i < bytes.length
    · rw [List.getElem_append_left hfirst]
      exact hbytes i hfirst
    · rw [List.length_append] at hi
      rw [List.getElem_append_right (Nat.le_of_not_lt hfirst), ← hrest (i - bytes.length) (by omega)]
      congr 1
      omega

theorem stores_tiles (htiles : Tiles start pieces image) :
    (∀ piece ∈ pieces, Stores cells piece.1 piece.2) ↔ Stores cells start image := by
  induction pieces generalizing start image with
  | nil =>
      obtain rfl : image = [] := htiles
      simp [Stores]
  | cons head rest ih =>
      obtain ⟨base, piece⟩ := head
      obtain ⟨rfl, -, remaining, rfl, hrest⟩ := htiles
      rw [List.forall_mem_cons, ih hrest, stores_append]

theorem nextInPage_eq (hinside : address % page + 1 < page) :
    nextInPage page address = address + 1 := by
  have hdiv := Nat.div_add_mod' address page
  rw [nextInPage, ← Nat.mod_add_mod, Nat.mod_eq_of_lt hinside]
  omega

/-- A program that stays within its page ands its bytes in. -/
theorem program_apply (hfits : address % page + bytes.length ≤ page) (cell : Nat) :
    program page cells address bytes cell =
      if address ≤ cell then cells cell &&& bytes.getD (cell - address) 0xff else cells cell := by
  have hkeep : ∀ byte : UInt8, byte &&& 0xff = byte := fun _ => UInt8.and_neg_one
  induction bytes generalizing cells address with
  | nil => simp [program, hkeep]
  | cons byte rest ih =>
      rw [List.length_cons] at hfits
      rw [program]
      by_cases hlast : rest = []
      · subst hlast
        rw [program]
        by_cases hcell : cell = address
        · subst hcell
          simp
        · rw [Function.update_of_ne hcell]
          split
          · next hle =>
            obtain ⟨offset, hoffset⟩ := Nat.exists_eq_succ_of_ne_zero
              (show cell - address ≠ 0 by omega)
            rw [hoffset]
            simp [hkeep]
          · rfl
      · have hrest := List.length_pos_of_ne_nil hlast
        have hinside : address % page + 1 < page := by omega
        have hmod : (address + 1) % page = address % page + 1 := by
          rw [← Nat.mod_add_mod, Nat.mod_eq_of_lt hinside]
        rw [nextInPage_eq hinside, ih (by omega)]
        by_cases hcell : cell = address
        · subst hcell
          rw [if_neg (by omega), if_pos (Nat.le_refl _)]
          simp
        · rw [Function.update_of_ne hcell]
          by_cases hle : address ≤ cell
          · rw [if_pos (by omega), if_pos hle, show cell - address = cell - (address + 1) + 1 by omega]
            rfl
          · rw [if_neg (by omega), if_neg hle]

/-- Pieces that tile a list and stay within their pages and that list in. -/
theorem programAll_apply (htiles : Tiles start pieces image)
    (hpages : ∀ piece ∈ pieces, piece.1 % page + piece.2.length ≤ page) (cell : Nat) :
    programAll page cells pieces cell =
      if start ≤ cell then cells cell &&& image.getD (cell - start) 0xff else cells cell := by
  induction pieces generalizing cells start image with
  | nil =>
      obtain rfl : image = [] := htiles
      have hkeep : cells cell &&& 0xff = cells cell := UInt8.and_neg_one
      simp [programAll, hkeep]
  | cons head rest ih =>
      obtain ⟨base, piece⟩ := head
      obtain ⟨rfl, -, remaining, rfl, hrest⟩ := htiles
      obtain ⟨hpage, hpages⟩ := List.forall_mem_cons.mp hpages
      show programAll page (program page cells base piece) rest cell = _
      rw [ih hrest hpages, program_apply hpage]
      by_cases hbefore : base ≤ cell
      · rw [if_pos hbefore, if_pos hbefore]
        by_cases hpiece : cell - base < piece.length
        · rw [if_neg (by omega), List.getD_append _ _ _ _ hpiece]
        · have hnone : piece.getD (cell - base) 0xff = 0xff :=
            List.getD_eq_default _ _ (Nat.le_of_not_lt hpiece)
          have hkeep : cells cell &&& 0xff = cells cell := UInt8.and_neg_one
          rw [if_pos (by omega), hnone, hkeep, List.getD_append_right _ _ _ _ (by omega),
            Nat.sub_sub]
      · rw [if_neg (by omega), if_neg hbefore, if_neg hbefore]

theorem programAll_erased (htiles : Tiles 0 pieces image)
    (hpages : ∀ piece ∈ pieces, piece.1 % page + piece.2.length ≤ page) (cell : Nat) :
    programAll page erased pieces cell = image.getD cell 0xff := by
  rw [programAll_apply htiles hpages, if_pos (Nat.zero_le _), Nat.sub_zero]
  exact UInt8.neg_one_and

end FrontPanel.NorFlash
