import FrontPanel.Touch.FlashImage
import FrontPanel.Touch.UpgradeDecision

/-!
# Downloading an application into the touch controller

`axs_download_app` of `axs_download.c` and what it runs, as compiled: nothing of what is written is read back. An attempt selects the RAM, sends the image in packets of at most 256 bytes, tells the controller that it is all, and reads its version. What an attempt put on the bus is read off the bus alone: a data frame is decoded from its bytes, and the theorem at the end says that the attempt that succeeded is whole, from the selection to the version, and that its data frames are the image.

The resets between the frames are no transfers, and `esd_firmware_enable` is left out.
-/

namespace FrontPanel.Touch.Download

open Flash

/-! ### The routines -/

/-- `write_buf` of `selectPram`. -/
def selectPramFrame : List UInt8 := [0xa5, 0x5a, 0xb5, 0xab, 0x01]

def selectPram : Prog Bus Bool := do
  let ret ← axsWriteBytes selectPramFrame
  if ret < 0 then return false
  return true

/-- `write_buf` of `axs_download_write_pram`, for the packet at `addr`. -/
def dataFrame (fwBuf : List UInt8) (addr currentSize : Nat) : List UInt8 :=
  magic ++ [UInt8.ofNat (currentSize >>> 8), UInt8.ofNat (currentSize &&& 0xff), 0x00, 0x00] ++
    addrBytes addr ++ (fwBuf.drop addr).take currentSize

/-- The loop of `axs_download_write_pram`, with `left` packets to go. -/
def writePramLoop (fwBuf : List UInt8) (fwLen : Nat) : Nat → Prog Bus Bool
  | 0 => pure true
  | left + 1 => do
      let currentNum := totalPackets fwLen - left
      let ret ← axsWriteBytes
        (dataFrame fwBuf ((currentNum - 1) * packetLen) (currentSize fwLen currentNum))
      if ret < 0 then return false
      writePramLoop fwBuf fwLen left

def axsDownloadWritePram (fwBuf : List UInt8) (fwLen : Nat) : Prog Bus Bool :=
  writePramLoop fwBuf fwLen (totalPackets fwLen)

/-- The first eight bytes of `write_buf` of `axs_download_finish`. -/
def finishFrame : List UInt8 := magic ++ [0x00, 0x00, 0x00, 0x00]

def axsDownloadFinish : Prog Bus Bool := do
  let ret ← axsWriteBytes finishFrame
  if ret < 0 then return false
  return true

/-- The bus layer under the commands. -/
def busLayer : (op : Commands.BusLayerOp) → Prog Bus (Commands.BusLayer.Answer op)
  | .axsWriteBytes writebuf => axsWriteBytes writebuf
  | .axsWriteBytesReadBytes cmd data datalen => axsWriteBytesReadBytes cmd data datalen

/-- Whether the version could be read; `stack` is what its two locals start out as. -/
def axsFwupgGetVerInTp (stack : UInt8 × UInt8) : Prog Bus Bool := do
  let ver ← (Upgrade.axsFwupgGetVerInTp stack.1 stack.2).handle busLayer
  return ver.isSome

/-- `none` for a null `fw_buf`. -/
def axsY15205Download (stack : UInt8 × UInt8) (fwBuf : Option (List UInt8)) (fwLen : Nat) :
    Prog Bus Bool := do
  match fwBuf with
  | none => return false
  | some fwBuf =>
      let ok ← axsDownloadWritePram fwBuf fwLen
      if !ok then return false
      let ok ← axsDownloadFinish
      if !ok then return false
      let ok ← axsFwupgGetVerInTp stack
      if !ok then return false
      return true

/-- `struct upgrade_func`; `none` for a null `upgrade`. -/
structure UpgradeFunc where
  upgrade : Option (UInt8 × UInt8 → Option (List UInt8) → Nat → Prog Bus Bool)

def downloadFunc15205 : UpgradeFunc where
  upgrade := some axsY15205Download

/-- `struct axs_upgrade` -/
structure AxsUpgrade where
  func : Option UpgradeFunc
  fw : Option (List UInt8)
  fwLength : Nat

/-- The loop of `axs_download_app`, with `left` attempts to go; `stack` is what an attempt finds on the stack. -/
def downloadLoop (upg : AxsUpgrade) (func : UpgradeFunc) (stack : Nat → UInt8 × UInt8) :
    Nat → Prog Bus Bool
  | 0 => pure false
  | left + 1 => do
      let ok ← selectPram
      if !ok then return false
      match func.upgrade with
      | none => return false
      | some upgrade =>
          let ok ← upgrade (stack left) upg.fw upg.fwLength
          if ok then return true
          downloadLoop upg func stack left

/-- `none` for a null `upg`. -/
def axsDownloadApp (upg : Option AxsUpgrade) (stack : Nat → UInt8 × UInt8) : Prog Bus Bool :=
  match upg with
  | none => pure false
  | some upg =>
      match upg.func with
      | none => pure false
      | some func => downloadLoop upg func stack 2

/-! ### Decoding the bus -/

/-- A data frame, as offset and payload: the length field is the length of the payload. -/
def dataOf : List UInt8 → Option (Nat × List UInt8)
  | 0xab :: 0xb5 :: 0xa5 :: 0x5a :: length1 :: length0 :: 0x00 :: 0x00 ::
      high :: middle :: low :: payload =>
      if payload.length = length1.toNat * 256 + length0.toNat then
        some (address24 high middle low, payload)
      else none
  | _ => none

/-- A data frame sent in full. -/
def SentData (event : Event Bus) (piece : Nat × List UInt8) : Prop :=
  ∃ bytes, event = Sent bytes ∧ dataOf bytes = some piece

/-- The header of a read of the version register. -/
def versionHeader : List UInt8 :=
  [0x5a, 0xa5, 0xab, 0xb5, 0x00, 0x00, 0x00, 0x01, 0x00, 0x80, 0x89]

/-- An attempt that delivered the image: the selection, data frames that tile it, the finish, and the same version read twice, each transferred in full. -/
def Delivery (image : List UInt8) (events : List (Event Bus)) : Prop :=
  ∃ frames pieces ver, List.Forall₂ SentData frames pieces ∧ Tiles 0 pieces image ∧
    events = Sent selectPramFrame :: frames ++ [Sent finishFrame,
      Sent versionHeader, Received [ver], Sent versionHeader, Received [ver]]

/-- The attempts begun. -/
def selections (events : List (Event Bus)) : List (Event Bus) :=
  events.filter fun event => event.op = .i2cMasterSend selectPramFrame

/-! ### The data frames -/

theorem dataOf_dataFrame {fw : List UInt8} {addr size : Nat} (haddr : addr < 0x1000000)
    (hsize : size ≤ packetLen) (hfits : addr + size ≤ fw.length) :
    dataOf (dataFrame fw addr size) = some (addr, (fw.drop addr).take size) := by
  have hlength : ((fw.drop addr).take size).length = size := by
    rw [List.length_take, List.length_drop]
    omega
  have hfield := lengthField (show size < 65536 by rw [packetLen] at hsize; omega)
  simp only [dataFrame, magic, addrBytes, dataOf, List.cons_append, List.nil_append, hlength,
    hfield, address24_addrBytes haddr, if_true]

theorem writePramLoop_tiles {fw : List UInt8} {left : Nat} {events : List (Event Bus)}
    (hlength : fw.length ≤ 128 * 1024) (hleft : left ≤ totalPackets fw.length)
    (htrace : (writePramLoop fw fw.length left).Trace events true) :
    ∃ pieces, List.Forall₂ SentData events pieces ∧
      Tiles (packetsFrom fw.length left) pieces (fw.drop (packetsFrom fw.length left)) := by
  induction left generalizing events with
  | zero =>
      obtain ⟨rfl, -⟩ := htrace
      rw [List.drop_eq_nil_of_le (packetsFrom_zero _)]
      exact ⟨[], .nil, rfl⟩
  | succ left ih =>
      have hnext : left < totalPackets fw.length := by omega
      rw [writePramLoop, trace_bind_int] at htrace
      obtain ⟨ret, sent, rest, rfl, hret, hsent, hrest⟩ := htrace
      obtain ⟨pieces, hpieces, htiles⟩ := ih (by omega) hrest
      have hbegin := packetsFrom_lt hnext
      have hsize := currentSize_eq hnext
      have hpacket : currentSize fw.length (totalPackets fw.length - left) ≤ packetLen := by omega
      have hfits : packetsFrom fw.length (left + 1) +
          currentSize fw.length (totalPackets fw.length - left) ≤ fw.length := by omega
      have hframe := dataOf_dataFrame (by omega) hpacket hfits
      rw [axsWriteBytes_trace hsent hret]
      exact ⟨_, .cons ⟨_, rfl, hframe⟩ hpieces, Tiles.image_packet hnext htiles⟩

/-! ### The version -/

theorem readSfrFrame_version : Commands.readSfrFrame 0x89 1 = versionHeader := by decide

theorem registerRead_received {ver : UInt8} {call : Event Commands.BusLayer}
    {events : List (Event Bus)} (hread : Upgrade.RegisterRead ver call)
    (htrace : (busLayer call.op).Trace events call.answer)
    (hbus : ∀ event ∈ events, AllOrNothing event) :
    events = [Sent versionHeader, Received [ver]] := by
  obtain ⟨op, answer⟩ := call
  cases op with
  | axsWriteBytes writebuf => exact hread.elim
  | axsWriteBytesReadBytes cmd data datalen =>
      obtain ⟨ret, data'⟩ := answer
      obtain ⟨rfl, rfl, hret, hver⟩ := hread
      rw [readSfrFrame_version] at htrace
      rcases axsWriteBytesReadBytes_trace (by decide) htrace hbus with
        ⟨-, received, hlength, rfl, rfl⟩ | ⟨hfailed, -⟩
      · obtain ⟨byte, rfl⟩ := List.length_eq_one_iff.mp hlength
        obtain rfl : byte = ver := hver
        rfl
      · exact absurd hfailed (not_lt.mpr hret)

theorem axsFwupgGetVerInTp_received {stack : UInt8 × UInt8} {events : List (Event Bus)}
    (htrace : (axsFwupgGetVerInTp stack).Trace events true)
    (hbus : ∀ event ∈ events, AllOrNothing event) :
    ∃ ver, events =
      [Sent versionHeader, Received [ver], Sent versionHeader, Received [ver]] := by
  obtain ⟨result, htrace, hsome⟩ := Prog.trace_map.mp htrace
  obtain ⟨ver, rfl⟩ := Option.isSome_iff_exists.mp hsome.symm
  obtain ⟨calls, hcalls, hhandled⟩ := Prog.trace_handle.mp htrace
  obtain ⟨first, second, rfl, hfirst, hsecond⟩ := (Upgrade.axsReadFwVersion_trace hcalls).mp rfl
  obtain ⟨left, right, rfl, hleft, hright⟩ := hhandled
  obtain ⟨middle, last, rfl, hmiddle, rfl⟩ := hright
  rw [registerRead_received hfirst hleft fun event hmem => hbus event (by simp [hmem]),
    registerRead_received hsecond hmiddle fun event hmem => hbus event (by simp [hmem])]
  exact ⟨ver, rfl⟩

/-! ### The attempts -/

def NoSelection (op : BusOp) : Prop := op ≠ .i2cMasterSend selectPramFrame

instance (op : BusOp) : Decidable (NoSelection op) := inferInstanceAs (Decidable (op ≠ _))

theorem selections_append (left right : List (Event Bus)) :
    selections (left ++ right) = selections left ++ selections right :=
  List.filter_append _ _

theorem selections_eq_nil {events : List (Event Bus)}
    (hevents : ∀ event ∈ events, NoSelection event.op) : selections events = [] := by
  rw [selections, List.filter_eq_nil_iff]
  intro event hmem
  rw [decide_eq_true_iff]
  exact hevents event hmem

theorem only_writePramLoop (fwBuf : List UInt8) (fwLen left : Nat) :
    (writePramLoop fwBuf fwLen left).Only NoSelection := by
  induction left with
  | zero => exact Prog.only_ret _
  | succ left ih =>
      refine (only_axsWriteBytes ?_).bind fun ret => Prog.only_ite (Prog.only_ret _) ih
      simp [NoSelection, dataFrame, magic, selectPramFrame]

/-- Between the selection and the end of an attempt there is no other selection. -/
theorem only_axsY15205Download (stack : UInt8 × UInt8) (fwBuf : Option (List UInt8))
    (fwLen : Nat) : (axsY15205Download stack fwBuf fwLen).Only NoSelection := by
  cases fwBuf with
  | none => exact Prog.only_ret _
  | some fwBuf =>
      refine (only_writePramLoop fwBuf fwLen _).bind fun ok => Prog.only_ite (Prog.only_ret _) ?_
      refine Prog.Only.bind ?_ fun ok => Prog.only_ite (Prog.only_ret _) ?_
      · refine (only_axsWriteBytes (by decide)).bind fun ret => ?_
        exact Prog.only_ite (Prog.only_ret _) (Prog.only_ret _)
      · refine Prog.Only.bind ?_ fun ok => Prog.only_ite (Prog.only_ret _) (Prog.only_ret _)
        refine Prog.Only.bind ?_ fun ver => Prog.only_ret _
        refine (Upgrade.only_axsReadFwVersion stack.1 stack.2).handle fun op hop => ?_
        obtain ⟨stale, rfl⟩ := hop
        exact only_axsWriteBytesReadBytes (by decide) (by decide)

/-- An attempt that succeeds delivered the image. -/
theorem axsY15205Download_delivers {image : List UInt8} {stack : UInt8 × UInt8}
    {events : List (Event Bus)} (hlength : image.length ≤ 128 * 1024)
    (htrace : (axsY15205Download stack (some image) image.length).Trace events true)
    (hbus : ∀ event ∈ events, AllOrNothing event) :
    Delivery image (Sent selectPramFrame :: events) := by
  simp only [axsY15205Download, axsDownloadWritePram, trace_bind_bool] at htrace
  obtain ⟨frames, _, rfl, hframes, finish, _, rfl, hfinish, version, _, rfl, hversion, rfl, -⟩ :=
    htrace
  obtain ⟨pieces, hpieces, htiles⟩ := writePramLoop_tiles hlength le_rfl hframes
  rw [packetsFrom, Nat.sub_self, Nat.zero_mul, List.drop_zero] at htiles
  rw [axsDownloadFinish, trace_bind_int] at hfinish
  obtain ⟨ret, sent, rest, rfl, hret, hsent, rfl, -⟩ := hfinish
  obtain ⟨ver, rfl⟩ := axsFwupgGetVerInTp_received hversion fun event hmem =>
    hbus event (by simp [hmem])
  refine ⟨frames, pieces, ver, hpieces, htiles, ?_⟩
  rw [axsWriteBytes_trace hsent hret]
  simp

theorem downloadLoop_delivers {image : List UInt8} {stack : Nat → UInt8 × UInt8} {left : Nat}
    {events : List (Event Bus)} (hlength : image.length ≤ 128 * 1024)
    (htrace : (downloadLoop ⟨some downloadFunc15205, some image, image.length⟩ downloadFunc15205
      stack left).Trace events true) (hbus : ∀ event ∈ events, AllOrNothing event) :
    (selections events).length ≤ left ∧
      ∃ failed delivery, events = failed ++ delivery ∧ Delivery image delivery := by
  induction left generalizing events with
  | zero => exact absurd htrace.2 (by decide)
  | succ left ih =>
      rw [downloadLoop, trace_bind_bool] at htrace
      obtain ⟨select, rest, rfl, hselect, hattempt⟩ := htrace
      rw [selectPram, trace_bind_int] at hselect
      obtain ⟨ret, sent, _, rfl, hret, hsent, rfl, -⟩ := hselect
      rw [axsWriteBytes_trace hsent hret] at *
      obtain ⟨ok, attempt, rest, rfl, hdownload, hlast⟩ := Prog.trace_bind.mp hattempt
      have hnone := selections_eq_nil (only_axsY15205Download _ _ _ _ _ hdownload)
      have hbegun : selections [Sent selectPramFrame] = [Sent selectPramFrame] :=
        List.filter_cons_of_pos (by decide)
      rw [List.append_nil] at hbus ⊢
      rw [selections_append, selections_append, hbegun, hnone, List.nil_append]
      cases ok with
      | true =>
          obtain ⟨rfl, -⟩ := hlast
          rw [List.append_nil] at hbus ⊢
          have hdelivery := axsY15205Download_delivers hlength hdownload fun event hmem =>
            hbus event (List.mem_append_right _ hmem)
          exact ⟨Nat.succ_le_succ (Nat.zero_le _), [], _, rfl, hdelivery⟩
      | false =>
          -- the attempt failed, and what is left is the next one
          obtain ⟨hcount, failed, delivery, rfl, hdelivery⟩ := ih hlast fun event hmem =>
            hbus event (by simp [hmem])
          refine ⟨?_, Sent selectPramFrame :: attempt ++ failed, delivery, by simp, hdelivery⟩
          rw [List.length_append, List.length_singleton]
          omega

/-- A bus without faults on which every byte received is a seven. -/
def allSevens : (op : BusOp) → Bus.Answer op
  | .i2cMasterSend bytes => (bytes.length : Int)
  | .i2cMasterRecv length => ((length : Int), List.replicate length 0x07)
  | .kzalloc _ => true

theorem allOrNothing_allSevens (op : BusOp) : AllOrNothing ⟨op, allSevens op⟩ := by
  cases op with
  | i2cMasterSend bytes => exact .inl rfl
  | i2cMasterRecv length => exact .inl ⟨rfl, List.length_replicate⟩
  | kzalloc size => trivial

/-- A download that succeeds is one of at most two attempts, and in that one the image was delivered whole. -/
theorem axsDownloadApp_delivers_image {image : List UInt8} {stack : Nat → UInt8 × UInt8}
    {events : List (Event Bus)} (hlength : image.length ≤ 128 * 1024)
    (htrace : (axsDownloadApp (some ⟨some downloadFunc15205, some image, image.length⟩)
      stack).Trace events true) (hbus : ∀ event ∈ events, AllOrNothing event) :
    (selections events).length ≤ 2 ∧
      ∃ failed delivery, events = failed ++ delivery ∧ Delivery image delivery :=
  downloadLoop_delivers hlength htrace hbus

/-- A controller that takes everything and says that its version is 7. -/
theorem axsDownloadApp_delivers_image_sevens :
    let image := List.replicate 1024 0x07
    let events := ((axsDownloadApp (some ⟨some downloadFunc15205, some image, image.length⟩)
      fun _ => (0, 0)).answered allSevens).1
    (selections events).length ≤ 2 ∧
      ∃ failed delivery, events = failed ++ delivery ∧ Delivery image delivery := by
  intro image events
  have hlength : image.length = 1024 := List.length_replicate
  have hsuccess : ((axsDownloadApp (some ⟨some downloadFunc15205, some image, image.length⟩)
      fun _ => (0, 0)).answered allSevens).2 = true := by
    decide +kernel
  have htrace := Prog.trace_answered allSevens
    (axsDownloadApp (some ⟨some downloadFunc15205, some image, image.length⟩) fun _ => (0, 0))
  rw [hsuccess] at htrace
  exact axsDownloadApp_delivers_image (by rw [hlength]; decide) htrace
    (Prog.answered_events allOrNothing_allSevens _)

end FrontPanel.Touch.Download
