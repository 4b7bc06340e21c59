import FrontPanel.Lib.Initializer
import FrontPanel.Touch.FlashChip

/-!
# From the firmware binary to the flash

`firmware/trans_bin_to_i.py` writes `firmware_flash.bin` out as the constants of `firmware_flash.i`, which `axs_upgrade.c` includes between the braces of `fw_file`, and that is the image of `axs_fwupg_get_fw_file` and so of the upgrade. The script puts 256 constants on a line and a comma behind every one.

Here the way is put together: the array is the binary, and on a NOR chip that keeps up an upgrade leaves the binary and nothing else.
-/

namespace FrontPanel.Touch.FirmwareFile

open Flash NorFlash

/-! ### The script -/

/-- The loop of `trans_bin_to_i.py` on what is left of the binary, with what is written so far. -/
def transLoop : List UInt8 → Nat → List UInt8 → List UInt8 → List UInt8
  | [], _, outstr, outFile => outFile ++ outstr
  | data :: ch, count, outstr, outFile =>
      let outstr := outstr ++ Initializer.constant data ++ [44]
      let count := count + 1
      if count = 256 then transLoop ch 0 [] (outFile ++ (outstr ++ [10]))
      else transLoop ch count outstr outFile

def transBinToI (bin : List UInt8) : List UInt8 := transLoop bin 0 [] []

/-- The text for the rest of the binary, with `count` constants on the line. -/
def constants : List UInt8 → Nat → List UInt8
  | [], _ => []
  | data :: bin, count =>
      Initializer.constant data ++ 44 ::
        (if count + 1 = 256 then 10 :: constants bin 0 else constants bin (count + 1))

theorem transLoop_eq (bin : List UInt8) (count : Nat) (outstr outFile : List UInt8) :
    transLoop bin count outstr outFile = outFile ++ outstr ++ constants bin count := by
  induction bin generalizing count outstr outFile with
  | nil => simp [transLoop, constants]
  | cons data bin ih =>
      rw [transLoop, constants]
      by_cases hfull : count + 1 = 256
      · rw [if_pos hfull, if_pos hfull, ih]
        simp
      · rw [if_neg hfull, if_neg hfull, ih]
        simp

theorem read_constants (bin : List UInt8) (count : Nat) :
    Initializer.read .element (constants bin count) = some bin := by
  induction bin generalizing count with
  | nil => rfl
  | cons data bin ih =>
      rw [constants, Initializer.read_constant]
      by_cases hfull : count + 1 = 256
      · rw [if_pos hfull, Initializer.read_space rfl, ih]
        rfl
      · rw [if_neg hfull, ih]
        rfl

/-- The array that the driver is built with is the binary. -/
theorem array_transBinToI (bin : List UInt8) : Initializer.array (transBinToI bin) = some bin := by
  rw [Initializer.array, transBinToI, transLoop_eq]
  exact read_constants bin 0

/-! ### The upgrade -/

/-- `axs_fwupg_get_fw_file`: the image, if its length is one. -/
def axsFwupgGetFwFile (fwFile : List UInt8) : Option (List UInt8) :=
  if 128 * 1024 < fwFile.length ∨ fwFile.length < 1024 then none else some fwFile

/-- A driver built with a binary of 1 to 128 KiB, on a NOR chip that is ready: its array is the binary, it takes the array for its image, an upgrade succeeds exactly if every operation of the chip ends in time, and then the chip holds the binary and nothing else. -/
theorem firmware_reaches_flash {bin : List UInt8} {chip : Chip} (delay : Nat → Nat)
    (identification : UInt8) (hsmall : 1024 ≤ bin.length) (hlarge : bin.length ≤ 128 * 1024)
    (hready : chip.busy = 0) :
    Initializer.array (transBinToI bin) = some bin ∧ axsFwupgGetFwFile bin = some bin ∧
      let result := (ChipKind.nor delay identification).machine.run
        (axsY15205Upgrade bin (some bin) bin.length) chip
      (result.1 = true ↔ ∀ i < totalPackets bin.length + 2, delay (chip.begun + i) < 2000) ∧
        (result.1 = true → ∀ address, result.2.cells address = bin.getD address 0xff) :=
  ⟨array_transBinToI bin, if_neg (by omega),
    axsY15205Upgrade_on_nor delay identification hlarge hready⟩

/-- Five packets, and nine polls an operation, on a chip that is full of something else. -/
theorem firmware_reaches_flash_zeros :
    let chip : Chip := ⟨fun _ => 0x55, 0, false, 0, 0, fun _ => 0xff⟩
    let bin := List.replicate 1025 0x12
    Initializer.array (transBinToI bin) = some bin ∧ axsFwupgGetFwFile bin = some bin ∧
      let result := (ChipKind.nor (fun _ => 9) 0x85).machine.run
        (axsY15205Upgrade bin (some bin) bin.length) chip
      result.1 = true ∧ result.2.cells 1024 = 0x12 ∧ result.2.cells 1025 = 0xff := by
  intro chip bin
  have hlength : bin.length = 1025 := List.length_replicate
  obtain ⟨harray, himage, hok, hcells⟩ :=
    @firmware_reaches_flash bin chip (fun _ => 9) 0x85 (by omega) (by omega) rfl
  have htrue := hok.mpr fun _ _ => by decide
  refine ⟨harray, himage, htrue, ?_, ?_⟩
  · rw [hcells htrue]
    exact List.getD_replicate _ (by decide)
  · rw [hcells htrue, List.getD_eq_default]
    omega

end FrontPanel.Touch.FirmwareFile
