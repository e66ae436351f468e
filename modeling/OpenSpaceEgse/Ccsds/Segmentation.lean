import OpenSpaceEgse.Ccsds.ReceiveFlow
import OpenSpaceEgse.Library.Windows
import Mathlib.Data.List.Basic

/-!
# Packets that are cut by frames

The encodings of a row of packets, one after the other, are cut anywhere into the data
fields of TM frames, and each frame points to the first packet that begins in it.  The
receiver then recovers the packets that lie inside one frame, and nothing else:
`segmented_packets`.

Packets and data fields are two rows of items laid along the same bytes, so most of the
argument is about windows.
-/

namespace OpenSpaceEgse

open Wire

/-- The packets with the positions of their first bytes. -/
def packetsAt (ps : List SpacePacket) : List (ℕ × SpacePacket) :=
  place (size SpacePacket.encode) 0 ps

/-- The frames with the positions of the first bytes of their data fields. -/
def framesAt (frames : List TmTransferFrame) : List (ℕ × TmTransferFrame) :=
  place (size TmTransferFrame.dataField) 0 frames

/-- The first header pointer of a frame at a position: where the first packet begins
that begins in its data field, or `0x07FF` if none does. -/
def Pointed (ps : List SpacePacket) (w : ℕ × TmTransferFrame) : Prop :=
  FirstBegin (packetsAt ps) w.1 w.2.dataField.length w.2.firstHeaderPointer ∨
    (∀ o < w.2.dataField.length, ∀ p, (w.1 + o, p) ∉ packetsAt ps) ∧
      w.2.firstHeaderPointer = 0x07FF

/-- The packets that lie inside one data field, in order. -/
def wholePackets (ps : List SpacePacket) (frames : List TmTransferFrame) : List SpacePacket :=
  seen (size SpacePacket.encode) (size TmTransferFrame.dataField) (framesAt frames) (packetsAt ps)

/-- The frames serialised one after the other. -/
def serializeAll : List TmTransferFrame → Except PyError Bytes
  | [] => .ok []
  | frame :: frames => do
      let ser ← serializeTm frame
      let rest ← serializeAll frames
      return ser ++ rest

lemma size_encode_pos (p : SpacePacket) : 0 < size SpacePacket.encode p := by
  have hlen : size SpacePacket.encode p = 6 + p.dataField.length := p.length_encode
  omega

lemma serializeAll_eq {frames : List TmTransferFrame}
    (h : ∀ f ∈ frames, f.dataField.length ≤ 2047) :
    serializeAll frames =
      .ok ((frames.map SdlpFrame.tm).flatMap fun f => slipEncode f.envelope) := by
  induction frames with
  | nil => rfl
  | cons frame frames ih =>
      have hframe : serializeTm frame = .ok (slipEncode (SdlpFrame.tm frame).envelope) :=
        SdlpFrame.serialize_eq (.tm frame) (SdlpFrame.length_encode_tm (h frame (by simp)))
      have hrest := ih fun f hf => h f (by simp [hf])
      rw [serializeAll, hframe, hrest]
      rfl

/-- What the receiver takes out of a frame: the packets that lie inside it. -/
lemma packetsOfFrame_tm {ps : List SpacePacket} {frames : List TmTransferFrame}
    (hcut : frames.flatMap TmTransferFrame.dataField = encodeAll ps)
    {w : ℕ × TmTransferFrame} (hw : w ∈ framesAt frames) (hsize : w.2.dataField.length ≤ 2047)
    (hpointed : Pointed ps w) :
    SdlpSpacePacketReceiver.packetsOfFrame (SdlpFrame.tm w.2).parsed =
      (inside (size SpacePacket.encode) w.1 (w.1 + size TmTransferFrame.dataField w.2)
        (packetsAt ps)).map (⟨.tm, ·⟩) := by
  obtain ⟨a, frame⟩ := w
  have hdata := take_drop_of_mem_place TmTransferFrame.dataField hw
  rw [Nat.sub_zero, hcut] at hdata
  have hfind : ∃ rest, frame.dataField.drop (tmStartOffset frame) =
      encodeAll (inside (size SpacePacket.encode) a (a + size TmTransferFrame.dataField frame)
        (packetsAt ps)) ++ rest ∧ Incomplete rest := by
    rcases hpointed with hfirst | ⟨hnone, hpointer⟩
    · -- the pointer leads to the first packet that begins in the frame
      have hoffset : tmStartOffset frame = frame.firstHeaderPointer := by
        have hlt : frame.firstHeaderPointer < frame.dataField.length := hfirst.1
        have hle : frame.dataField.length ≤ 2047 := hsize
        rw [tmStartOffset, if_neg (by omega), if_neg (by omega)]
      obtain ⟨rest, hrest, hprefix⟩ := window_content SpacePacket.encode size_encode_pos hfirst
      refine ⟨rest, ?_, ?_⟩
      · rw [hoffset]
        conv_lhs => rw [← hdata]
        exact hrest
      · rcases hprefix with rfl | ⟨p, hp, hlt⟩
        · exact incomplete_nil
        · exact incomplete_of_prefix hp hlt
    · -- no packet begins in the frame, and the receiver does not look at it
      have hoffset : tmStartOffset frame = frame.dataField.length := if_pos hpointer
      have hinside := inside_eq_nil SpacePacket.encode size_encode_pos hnone
      refine ⟨[], ?_, incomplete_nil⟩
      rw [hoffset, List.drop_length, packetsAt, size, hinside]
      rfl
  obtain ⟨rest, hrest, hincomplete⟩ := hfind
  exact SdlpSpacePacketReceiver.packetsOfFrame_eq
    (decodeSpacePacketsFromPayload_eq .tm _ hrest hincomplete)

/-- **Extraction under segmentation.**  However the encodings of a row of packets are
cut into TM frames, the receiver outputs the packets that lie inside one frame, in
order: no other packet, and none from the tail of one that began earlier or from the
head of one that is cut off. -/
theorem segmented_packets {ps : List SpacePacket} {frames : List TmTransferFrame}
    (hcut : frames.flatMap TmTransferFrame.dataField = encodeAll ps)
    (hsize : ∀ f ∈ frames, 0 < f.dataField.length ∧ f.dataField.length ≤ 2047)
    (hpointed : ∀ w ∈ framesAt frames, Pointed ps w) :
    ∃ stream, serializeAll frames = .ok stream ∧
      (SdlpSpacePacketReceiver.init.processUartBytes stream).1 =
        .ok ((wholePackets ps frames).map (⟨.tm, ·⟩)) := by
  have hlen : ∀ f ∈ frames, f.dataField.length ≤ 2047 := fun f hf => (hsize f hf).2
  refine ⟨_, serializeAll_eq hlen, ?_⟩
  have hemitted : SdlpUartStreamParser.init.emitted
      ((frames.map SdlpFrame.tm).flatMap fun f => slipEncode f.envelope) =
        (frames.map SdlpFrame.tm).map SdlpFrame.parsed := by
    apply SdlpUartStreamParser.emitted_serialized
    intro f hf
    obtain ⟨frame, hframe, rfl⟩ := List.mem_map.mp hf
    exact SdlpFrame.length_encode_tm (hlen frame hframe)
  have hframes : frames.flatMap (fun frame =>
      SdlpSpacePacketReceiver.packetsOfFrame (SdlpFrame.tm frame).parsed) =
      (framesAt frames).flatMap fun w => (inside (size SpacePacket.encode) w.1
        (w.1 + size TmTransferFrame.dataField w.2) (packetsAt ps)).map (⟨.tm, ·⟩) := by
    conv_lhs => rw [← map_snd_place (size TmTransferFrame.dataField) 0 frames, List.flatMap_map]
    apply List.flatMap_congr
    intro w hw
    have hmem : w.2 ∈ frames := by
      rw [← map_snd_place (size TmTransferFrame.dataField) 0 frames]
      exact List.mem_map_of_mem hw
    exact packetsOfFrame_tm hcut hw (hlen w.2 hmem) (hpointed w hw)
  -- the packets found frame by frame are those that lie inside some frame
  have hseen := seen_eq_flatMap (size SpacePacket.encode) (size TmTransferFrame.dataField)
    size_encode_pos (s := 0) (t := 0) ps frames
  rw [SdlpSpacePacketReceiver.processUartBytes_eq, SdlpSpacePacketReceiver.packets]
  show Except.ok ((SdlpUartStreamParser.init.emitted _).flatMap _) = _
  rw [hemitted, List.map_map, List.flatMap_map]
  show Except.ok (frames.flatMap fun frame =>
    SdlpSpacePacketReceiver.packetsOfFrame (SdlpFrame.tm frame).parsed) = _
  rw [hframes, wholePackets, packetsAt, framesAt, hseen, List.map_flatMap]

/-- A telemetry packet with one byte of data. -/
def bytePacket (version : Fin 8) (apid : Fin 2048) (sequenceCount : Fin 16384) (b : UInt8) :
    SpacePacket where
  apid := apid
  packetType := .telemetry
  sequenceFlags := .unsegmented
  sequenceCount := sequenceCount
  dataField := [b]
  secondaryHeaderFlag := false
  version := version
  version_le := Nat.le_of_lt_succ version.isLt
  apid_le := Nat.le_of_lt_succ apid.isLt
  sequenceCount_le := Nat.le_of_lt_succ sequenceCount.isLt
  dataField_pos := Nat.zero_lt_one
  dataField_le := Nat.zero_le _

/-- A frame with a pointer and a data field. -/
def pointerFrame (firstHeaderPointer : Fin 2048) (dataField : Bytes) : TmTransferFrame :=
  { SdlpUartStreamParser.emptyTm with
    firstHeaderPointer := firstHeaderPointer
    dataField := dataField
    firstHeaderPointer_le := Nat.le_of_lt_succ firstHeaderPointer.isLt }

/-- Three packets, of which the second one is cut in its header. -/
def threePackets : List SpacePacket :=
  [bytePacket 0 200 0 0xC0, bytePacket 0 200 1 0x00, bytePacket 0 200 2 0xDB]

def twoFrames : List TmTransferFrame :=
  [pointerFrame 0 ((encodeAll threePackets).take 10),
    pointerFrame 4 ((encodeAll threePackets).drop 10)]

theorem segmented_packets_cut :
    ∃ stream, serializeAll twoFrames = .ok stream ∧
      (SdlpSpacePacketReceiver.init.processUartBytes stream).1 =
        .ok ((wholePackets threePackets twoFrames).map (⟨.tm, ·⟩)) := by
  refine segmented_packets (by decide) (by decide) ?_
  intro w hw
  have hplace : packetsAt threePackets =
      [(0, bytePacket 0 200 0 0xC0), (7, bytePacket 0 200 1 0x00),
        (14, bytePacket 0 200 2 0xDB)] := rfl
  have hlast : (14, bytePacket 0 200 2 0xDB) ∈ packetsAt threePackets := by
    rw [hplace]
    exact List.mem_of_getLast? rfl
  rcases List.mem_cons.mp hw with rfl | hw
  · refine Or.inl ⟨by decide, ⟨bytePacket 0 200 0 0xC0, List.mem_cons_self⟩, ?_⟩
    intro o' ho'
    exact absurd ho' (Nat.not_lt_zero o')
  · rw [List.mem_singleton.mp hw]
    refine Or.inl ⟨by decide, ⟨bytePacket 0 200 2 0xDB, hlast⟩, ?_⟩
    intro o' ho' x hx
    rw [hplace] at hx
    change (10 + o', x) ∈ _ at hx
    change o' < 4 at ho'
    simp only [List.mem_cons, Prod.mk.injEq, List.not_mem_nil, or_false] at hx
    omega

/-- The first and the last one are recovered. -/
example : wholePackets threePackets twoFrames =
    [bytePacket 0 200 0 0xC0, bytePacket 0 200 2 0xDB] := by decide

end OpenSpaceEgse
