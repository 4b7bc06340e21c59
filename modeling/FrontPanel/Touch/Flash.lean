import FrontPanel.Touch.Bus

/-!
# Writing the touch controller's flash

The flash routines of `axs_upgrade.c` that `axs_Y15205_upgrade` runs: identification, erase, a page program for every 256 bytes of the image, and a read-back that compares the flash with the image. Lengths and packet numbers are `Nat`: an image is at most `AXS_MAX_FW_LEN` bytes where these are called, far from the range of `int`.
-/

namespace FrontPanel.Touch.Flash

/-! ### Commands -/

/-- The first bytes of every buffer here: `{ 0xab, 0xb5, 0xa5, 0x5a }`. -/
def magic : List UInt8 := [0xab, 0xb5, 0xa5, 0x5a]

/-- A buffer filled in as the routines do it: bytes 4 and 5 are the number of bytes written to the flash, 6 and 7 the number read from it, 8 to 10 are zero, and from 11 on come the bytes for the flash. -/
def writeReadBuf (byte4 byte5 byte6 byte7 : UInt8) (body : List UInt8) : List UInt8 :=
  magic ++ [byte4, byte5, byte6, byte7, 0x00, 0x00, 0x00] ++ body

def writeEnable : List UInt8 := writeReadBuf 0x00 0x01 0x00 0x00 [0x06]
def readIdentification : List UInt8 := writeReadBuf 0x00 0x01 0x00 0x01 [0x9f]
def readStatus : List UInt8 := writeReadBuf 0x00 0x01 0x00 0x01 [0x05]
def writeStatus : List UInt8 := writeReadBuf 0x00 0x02 0x00 0x00 [0x01, 0x02]
def chipErase : List UInt8 := writeReadBuf 0x00 0x01 0x00 0x00 [0xc7]

/-- `*(pAddr + 2)`, `*(pAddr + 1)`, `*(pAddr + 0)` of a little-endian `u32 addr`. -/
def addrBytes (addr : Nat) : List UInt8 :=
  [UInt8.ofNat (addr >>> 16), UInt8.ofNat (addr >>> 8), UInt8.ofNat addr]

/-- `write_buf` of `axs_fwupg_flash_write`, step 2. -/
def pageProgram (fwBuf : List UInt8) (addr currentSize : Nat) : List UInt8 :=
  writeReadBuf (UInt8.ofNat ((currentSize + 4) >>> 8)) (UInt8.ofNat ((currentSize + 4) &&& 0xff))
    0x00 0x00 (0x02 :: addrBytes addr ++ (fwBuf.drop addr).take currentSize)

/-- `write_buf` of `axs_fwupg_flash_read_check`. -/
def fastRead (addr currentSize : Nat) : List UInt8 :=
  writeReadBuf 0x00 0x04 (UInt8.ofNat ((currentSize + 1) >>> 8))
    (UInt8.ofNat ((currentSize + 1) &&& 0xff)) (0x0b :: addrBytes addr)

/-! ### The flash routines -/

/-- The loop of `flash_is_ready`: the byte `write_read_buf[12]` as the loop leaves it. -/
def flashIsReadyLoop : Nat → List UInt8 → Prog Bus (List UInt8)
  | 0, status => pure status
  | waitMaxTimes + 1, status => do
      let (ret, status) ← axsWriteBytesReadBytes readStatus status 1
      if 0 ≤ ret ∧ status = [0x00] then return status
      else flashIsReadyLoop waitMaxTimes status

def flashIsReady (maxTimes : Nat) : Prog Bus Bool := do
  let status ← flashIsReadyLoop maxTimes [0xff]
  return status = [0x00]

/-- The bytes read in steps 2 and 4 are not looked at, and step 5 stores byte 12 anew. -/
def axsFwupgFlashInit : Prog Bus Bool := do
  let ret ← axsWriteBytes writeEnable
  if ret < 0 then return false
  let (ret, _) ← axsWriteBytesReadBytes readIdentification [0x00] 1
  if ret < 0 then return false
  let ret ← axsWriteBytes writeEnable
  if ret < 0 then return false
  let (ret, _) ← axsWriteBytesReadBytes readStatus [0x00] 1
  if ret < 0 then return false
  let ret ← axsWriteBytes writeStatus
  if ret < 0 then return false
  flashIsReady 2000

def axsFwupgFlashErase : Prog Bus Bool := do
  let ret ← axsWriteBytes writeEnable
  if ret < 0 then return false
  let ret ← axsWriteBytes chipErase
  if ret < 0 then return false
  flashIsReady 2000

def packetLen : Nat := 256

def totalPackets (fwLen : Nat) : Nat :=
  if fwLen % packetLen ≠ 0 then fwLen / packetLen + 1 else fwLen / packetLen

/-- `currentSize` of packet `currentNum`, counted from 1. -/
def currentSize (fwLen currentNum : Nat) : Nat :=
  if currentNum = totalPackets fwLen then fwLen - (currentNum - 1) * packetLen else packetLen

/-- The loop of `axs_fwupg_flash_write`, with `left` packets to go. -/
def flashWriteLoop (fwBuf : List UInt8) (fwLen : Nat) : Nat → Prog Bus Bool
  | 0 => pure true
  | left + 1 => do
      let currentNum := totalPackets fwLen - left
      let ret ← axsWriteBytes writeEnable
      if ret < 0 then return false
      let size := currentSize fwLen currentNum
      let addr := (currentNum - 1) * packetLen
      let ret ← axsWriteBytes (pageProgram fwBuf addr size)
      if ret < 0 then return false
      let ready ← flashIsReady 2000
      if !ready then return false
      flashWriteLoop fwBuf fwLen left

def axsFwupgFlashWrite (fwBuf : List UInt8) (fwLen : Nat) : Prog Bus Bool :=
  flashWriteLoop fwBuf fwLen (totalPackets fwLen)

/-- The loop of `axs_fwupg_flash_read_check`, with `left` packets to go. `fw` is what `fwupgrade->fw` points to. -/
def flashReadCheckLoop (fw : List UInt8) (fwLen : Nat) : Nat → List UInt8 → Prog Bus Bool
  | 0, _ => pure true
  | left + 1, tmpbuf => do
      let currentNum := totalPackets fwLen - left
      let size := currentSize fwLen currentNum
      let addr := (currentNum - 1) * packetLen
      let (ret, tmpbuf) ← axsWriteBytesReadBytes (fastRead addr size) tmpbuf (size + 1)
      if ret < 0 then return false
      if (fw.drop addr).take size ≠ (tmpbuf.drop 1).take size then return false
      flashReadCheckLoop fw fwLen left tmpbuf

def axsFwupgFlashReadCheck (fw : List UInt8) (fwLen : Nat) : Prog Bus Bool := do
  let allocated ← kzalloc (packetLen + 1)
  if !allocated then return false
  flashReadCheckLoop fw fwLen (totalPackets fwLen) (List.replicate (packetLen + 1) 0x00)

/-- `none` for a null `fw_buf`. -/
def axsY15205Upgrade (fw : List UInt8) (fwBuf : Option (List UInt8)) (fwLen : Nat) :
    Prog Bus Bool := do
  match fwBuf with
  | none => return false
  | some fwBuf =>
      let ok ← axsFwupgFlashInit
      if !ok then return false
      let ok ← axsFwupgFlashErase
      if !ok then return false
      let ok ← axsFwupgFlashWrite fwBuf fwLen
      if !ok then return false
      let ok ← axsFwupgFlashReadCheck fw fwLen
      if !ok then return false
      return true

end FrontPanel.Touch.Flash
