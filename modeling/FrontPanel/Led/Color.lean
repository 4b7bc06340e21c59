import FrontPanel.Led.FrameCheck
import FrontPanel.Led.Driver

/-!
# The colour attribute

The palette of `color` starts at 0, which is white, and so does the table of the driver; in between 1 is taken from the number. So 0 wraps around and is rejected, and each number from 1 to 5 gets the colour of the one before it. Every way out of `color_set` returns the size of the write.
-/

namespace FrontPanel.Led

/-- The colour the palette has for the text. -/
def paletteOf (buf : List UInt8) : Option Rgb :=
  match CString.kstrtoul buf with
  | .error _ => none
  | .ok value => if hvalue : value < 5 then some (ledColorTable ⟨value, hvalue⟩) else none

/-- What a write of `buf` to the attribute is to do. -/
def FollowsPalette (led : Nat) (buf : List UInt8) (size : Nat) (rgb : Rgb)
    (events : List (Event Smbus)) (ret : Int) (after : Rgb) : Prop :=
  match paletteOf buf with
  | none => ret < 0 ∧ after = rgb ∧ NoFrame events
  | some color =>
      (AcknowledgedIn events →
        (∃ event ∈ events, event.op = (colorFrame led color).write) ∧ after = color ∧ ret = size) ∧
      (¬ AcknowledgedIn events → ret < 0 ∧ after = rgb)

/-- The driver takes a number for the one before it. -/
theorem colorOf_eq_some_iff {buf : List UInt8} {color : Fin 5} :
    colorOf buf = some color ↔ CString.kstrtoul buf = .ok (color.val + 1) := by
  rw [colorOf]
  cases hvalue : CString.kstrtoul buf with
  | error ret => simp
  | ok value =>
      have hlt := CString.kstrtoul_lt hvalue
      have hret : (BitVec.ofNat 64 value - 1).toNat =
          if value = 0 then 18446744073709551615 else value - 1 := by
        rw [BitVec.toNat_sub, BitVec.toNat_ofNat]
        show (2 ^ 64 - 1 + value % 2 ^ 64) % 2 ^ 64 = _
        split <;> omega
      have hcolor := color.isLt
      dsimp only
      rw [Except.ok.injEq]
      constructor
      · intro hgiven
        split at hgiven
        · have hsame := congrArg Fin.val (Option.some.inj hgiven)
          dsimp only at hsame
          split at hret <;> omega
        · cases hgiven
      · intro hnext
        rw [if_neg (by omega)] at hret
        rw [dif_pos (by omega)]
        congr 1
        apply Fin.ext
        show (BitVec.ofNat 64 value - 1).toNat = color.val
        omega

deriving instance DecidableEq for Rgb

theorem ledColorTable_succ_ne {color : Fin 5} (hnext : color.val + 1 < 5) :
    ledColorTable ⟨color.val + 1, hnext⟩ ≠ ledColorTable color := by
  revert color
  decide

theorem paletteOf_ne_colorOf {buf : List UInt8} {color : Fin 5} (hcolor : colorOf buf = some color) :
    paletteOf buf ≠ some (ledColorTable color) := by
  rw [paletteOf, colorOf_eq_some_iff.mp hcolor]
  dsimp only
  split
  · next hnext =>
    intro hsame
    exact ledColorTable_succ_ne hnext (Option.some.inj hsame)
  · intro hsame
    cases hsame

/-- What a write does: the frame, if the number is one of 1 to 5, and the size in any case. -/
theorem colorSet_trace {led : Nat} {buf : List UInt8} {size ret : Int} {status after : LedStatus}
    {events : List (Event Smbus)}
    (htrace : (colorSet led buf size status).Trace events (ret, after)) :
    ret = size ∧
      match colorOf buf with
      | none => events = [] ∧ after = status
      | some color => after = { status with rgb := ledColorTable color } := by
  rw [colorSet] at htrace
  cases hcolor : colorOf buf with
  | none =>
      rw [hcolor] at htrace
      obtain ⟨rfl, rfl, rfl⟩ := Prog.trace_pair.mp htrace
      exact ⟨rfl, rfl, rfl⟩
  | some color =>
      rw [hcolor] at htrace
      obtain ⟨_, -, hpair⟩ := Prog.trace_map.mp htrace
      obtain ⟨rfl, rfl⟩ := Prod.mk.inj hpair
      exact ⟨rfl, rfl⟩

/-- No write does what the palette says: a text that is none of its numbers and a frame that fails are not reported, and a frame that is acknowledged has another colour. -/
theorem colorSet_off_palette {led size : Nat} {buf : List UInt8} {status after : LedStatus}
    {events : List (Event Smbus)} {ret : Int}
    (htrace : (colorSet led buf size status).Trace events (ret, after)) :
    ¬ FollowsPalette led buf size status.rgb events ret after.rgb := by
  obtain ⟨hret, hdone⟩ := colorSet_trace htrace
  have hsize : ¬ ret < 0 := by omega
  rw [FollowsPalette]
  split
  · intro hrefused
    exact hsize hrefused.1
  · next color hpalette =>
    intro hfollows
    by_cases hacknowledged : AcknowledgedIn events
    · cases hcolor : colorOf buf with
      | none =>
          rw [hcolor] at hdone
          obtain ⟨_, _, _, _, _, hevents, -⟩ := hacknowledged
          rw [hdone.1] at hevents
          exact absurd hevents.symm (List.append_ne_nil_of_right_ne_nil _ (List.cons_ne_nil _ _))
      | some sent =>
          rw [hcolor] at hdone
          have hsame : after.rgb = color := (hfollows.1 hacknowledged).2.1
          rw [hdone] at hsame
          exact paletteOf_ne_colorOf hcolor (hpalette.trans (congrArg some hsame.symm))
    · exact hsize (hfollows.2 hacknowledged).1

theorem colorSet_red : (colorSet 0 (CString.ascii "2\n") (2 : Nat) ⟨0, 0, 0, ⟨0, 0, 0⟩⟩).Trace
    [⟨(colorFrame 0 ⟨220, 40, 0⟩).write, (0 : Int)⟩, ⟨.readByteData mcuReceiveFlags, (1 : Int)⟩]
    ((2 : Nat), ⟨0, 0, 0, ⟨220, 40, 0⟩⟩) := by
  have hcolor : colorOf (CString.ascii "2\n") = some 1 :=
    colorOf_eq_some_iff.mpr (by decide)
  rw [colorSet, hcolor]
  exact ⟨0, _, rfl, 1, _, rfl, rfl, rfl⟩

theorem colorSet_off_palette_red :
    ¬ FollowsPalette 0 (CString.ascii "2\n") 2 ⟨0, 0, 0⟩
      [⟨(colorFrame 0 ⟨220, 40, 0⟩).write, (0 : Int)⟩,
        ⟨.readByteData mcuReceiveFlags, (1 : Int)⟩] (2 : Nat) ⟨220, 40, 0⟩ :=
  colorSet_off_palette colorSet_red

theorem colorSet_not_followsPalette : ¬ ∀ (led size : Nat) (buf : List UInt8)
    (status after : LedStatus) (events : List (Event Smbus)) (ret : Int),
    (colorSet led buf size status).Trace events (ret, after) →
      FollowsPalette led buf size status.rgb events ret after.rgb := by
  intro halways
  have hfollows := halways _ _ _ _ _ _ _ colorSet_red
  have hacknowledged : AcknowledgedIn [⟨(colorFrame 0 ⟨220, 40, 0⟩).write, (0 : Int)⟩,
      ⟨.readByteData mcuReceiveFlags, (1 : Int)⟩] :=
    ⟨[], _, _, 0, _, rfl, by decide, by decide, by decide⟩
  have hpalette : paletteOf (CString.ascii "2\n") = some ⟨255, 0, 0⟩ := by decide
  rw [FollowsPalette, hpalette] at hfollows
  exact absurd (hfollows.1 hacknowledged).2.1 (by decide)

end FrontPanel.Led
