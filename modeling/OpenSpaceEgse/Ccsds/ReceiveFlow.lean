import OpenSpaceEgse.Ccsds.SpacePacket
import OpenSpaceEgse.Ccsds.StreamParser

/-!
# Receiving packets

The receiver owns a stream parser.  From each frame that the parser emits it takes the
packets out of the data field, greedily and from a start offset: the first header
pointer of a TM frame, the beginning of a TC frame.

The greedy loop runs on fuel here, more than it can use.  `decodeLoop_eq` says what it
returns, and `exists_greedy` that this covers every payload: the packets that were
encoded one after the other, up to a rest in which no packet is complete.
-/

namespace OpenSpaceEgse

open Wire

def spacePacketPrimaryHeaderLength : ℕ := 6
def spacePacketDataLengthFieldStart : ℕ := 4
def spacePacketDataLengthFieldEnd : ℕ := 6

def egseSerialMaxReadSize : ℤ := 4096

/-- The port of a receiver: how many bytes wait, and reading at most so many. -/
class SerialLike (P : Type*) where
  inWaiting : P → Except PyError ℤ × P
  read : P → ℤ → Except PyError Bytes × P

structure DecodedSpacePacket where
  frameType : SdlpFrameType
  spacePacket : SpacePacket
deriving DecidableEq, Repr

/-- `_tm_start_offset`. -/
def tmStartOffset (tmFrame : TmTransferFrame) : ℕ :=
  if tmFrame.firstHeaderPointer = 0x07FF then tmFrame.dataField.length
  else if tmFrame.firstHeaderPointer > tmFrame.dataField.length then tmFrame.dataField.length
  else tmFrame.firstHeaderPointer

/-- The loop of `_decode_space_packets_from_payload` from an offset on.  Every round
moves the offset, so fuel beyond the length of the payload is never used up. -/
def decodeLoop (frameType : SdlpFrameType) (payload : Bytes) :
    ℕ → ℕ → Except PyError (List DecodedSpacePacket)
  | 0, _ => .ok []
  | fuel + 1, offset =>
      if offset + spacePacketPrimaryHeaderLength ≤ payload.length then
        let packetDataLength := fromBytes (slice payload
          (offset + spacePacketDataLengthFieldStart) (offset + spacePacketDataLengthFieldEnd))
        let packetTotalLength := spacePacketPrimaryHeaderLength + packetDataLength + 1
        let packetEnd := offset + packetTotalLength
        if packetEnd > payload.length then
          .ok []
        else
          let rawPacket := slice payload offset packetEnd
          match SpacePacket.decode rawPacket with
          | .error (.typeError _) => .ok []
          | .error (.valueError _) => .ok []
          | .error e => .error e
          | .ok packet =>
              (decodeLoop frameType payload fuel packetEnd).map (⟨frameType, packet⟩ :: ·)
      else
        .ok []

/-- `_decode_space_packets_from_payload`. -/
def decodeSpacePacketsFromPayload (frameType : SdlpFrameType) (payload : Bytes)
    (startOffset : ℕ) : Except PyError (List DecodedSpacePacket) :=
  decodeLoop frameType payload (payload.length + 1) startOffset

/-- `SdlpSpacePacketReceiver._decode_packets_from_sdlp_frame`. -/
def decodePacketsFromSdlpFrame (parsedFrame : ParsedSdlpFrame) :
    Except PyError (List DecodedSpacePacket) :=
  if parsedFrame.frameType = .tm then
    match parsedFrame.frame with
    | .tm tmFrame =>
        decodeSpacePacketsFromPayload .tm tmFrame.dataField (tmStartOffset tmFrame)
    | .tc _ => .ok []
  else
    match parsedFrame.frame with
    | .tc tcFrame => decodeSpacePacketsFromPayload .tc tcFrame.dataField 0
    | .tm _ => .ok []

structure SdlpSpacePacketReceiver where
  uartParser : SdlpUartStreamParser
deriving DecidableEq, Repr

namespace SdlpSpacePacketReceiver

/-- `SdlpSpacePacketReceiver()`. -/
def init : SdlpSpacePacketReceiver := ⟨SdlpUartStreamParser.init⟩

/-- What one frame adds to `decoded_packets`: every exception is caught. -/
def packetsOfFrame (parsedFrame : ParsedSdlpFrame) : List DecodedSpacePacket :=
  match decodePacketsFromSdlpFrame parsedFrame with
  | .ok decoded => decoded
  | .error _ => []

/-- `SdlpSpacePacketReceiver.process_uart_bytes`. -/
def processUartBytes (self : SdlpSpacePacketReceiver) (uartChunk : Bytes) :
    Except PyError (List DecodedSpacePacket) × SdlpSpacePacketReceiver :=
  match self.uartParser.feed uartChunk with
  | (.error e, uartParser) => (.error e, ⟨uartParser⟩)
  | (.ok parsedFrames, uartParser) => (.ok (parsedFrames.flatMap packetsOfFrame), ⟨uartParser⟩)

/-- Processing chunk after chunk; the packets of all calls in one list. -/
def processChunks (self : SdlpSpacePacketReceiver) : List Bytes →
    Except PyError (List DecodedSpacePacket) × SdlpSpacePacketReceiver
  | [] => (.ok [], self)
  | chunk :: chunks =>
      match self.processUartBytes chunk with
      | (.error e, self') => (.error e, self')
      | (.ok decoded, self') =>
          match self'.processChunks chunks with
          | (.error e, self'') => (.error e, self'')
          | (.ok rest, self'') => (.ok (decoded ++ rest), self'')

/-- `SdlpSpacePacketReceiver.process_serial_once`. -/
def processSerialOnce {P : Type*} [SerialLike P] (self : SdlpSpacePacketReceiver) (serialPort : P)
    (maxReadSize : ℤ := egseSerialMaxReadSize) :
    Except PyError (List DecodedSpacePacket) × SdlpSpacePacketReceiver × P :=
  if maxReadSize ≤ 0 then
    (.error (.valueError "max_read_size must be positive"), self, serialPort)
  else
    match SerialLike.inWaiting serialPort with
    | (.error e, serialPort) => (.error e, self, serialPort)
    | (.ok pending, serialPort) =>
        if pending ≤ 0 then
          (.ok [], self, serialPort)
        else
          let toRead := if pending < maxReadSize then pending else maxReadSize
          match SerialLike.read serialPort toRead with
          | (.error e, serialPort) => (.error e, self, serialPort)
          | (.ok chunk, serialPort) =>
              if chunk.isEmpty then
                (.ok [], self, serialPort)
              else
                let (decoded, self) := self.processUartBytes chunk
                (decoded, self, serialPort)

end SdlpSpacePacketReceiver

/-! ## The greedy loop -/

/-- No packet is complete at the head of what is left. -/
def Incomplete (rest : Bytes) : Prop :=
  rest.length < 6 ∨ rest.length < 7 + fromBytes (slice rest 4 6)

instance (rest : Bytes) : Decidable (Incomplete rest) := inferInstanceAs (Decidable (_ ∨ _))

/-- The encodings of packets, one after the other. -/
def encodeAll (ps : List SpacePacket) : Bytes := ps.flatMap SpacePacket.encode

@[simp] lemma encodeAll_nil : encodeAll [] = [] := rfl

@[simp] lemma encodeAll_cons (p : SpacePacket) (ps : List SpacePacket) :
    encodeAll (p :: ps) = p.encode ++ encodeAll ps := by
  simp [encodeAll]

/-- The length field that the loop reads at an offset, as a field of what is left. -/
lemma lengthField_eq (payload : Bytes) (offset : ℕ) :
    fromBytes (slice payload (offset + spacePacketDataLengthFieldStart)
      (offset + spacePacketDataLengthFieldEnd)) = fromBytes (slice (payload.drop offset) 4 6) := by
  rw [← slice_drop]
  rfl

section Loop

variable {frameType : SdlpFrameType} {payload rest : Bytes} {offset fuel : ℕ}

lemma decodeLoop_stop (h : Incomplete (payload.drop offset)) :
    decodeLoop frameType payload (fuel + 1) offset = .ok [] := by
  have hlen : (payload.drop offset).length = payload.length - offset := List.length_drop
  have hfield := lengthField_eq payload offset
  rw [decodeLoop]
  by_cases hsix : offset + spacePacketPrimaryHeaderLength ≤ payload.length
  · rw [if_pos hsix, hfield]
    simp only [spacePacketPrimaryHeaderLength] at hsix ⊢
    rcases h with hshort | hlong
    · omega
    · exact if_pos (by omega)
  · exact if_neg hsix

lemma decodeLoop_step {p : SpacePacket} (h : payload.drop offset = p.encode ++ rest) :
    decodeLoop frameType payload (fuel + 1) offset =
      (decodeLoop frameType payload fuel (offset + p.totalLength)).map
        (⟨frameType, p⟩ :: ·) := by
  have hp := p.length_encode
  have hpos := p.dataField_pos
  have hdata : p.dataLength = p.dataField.length - 1 := rfl
  have htotal : p.totalLength = 6 + p.dataField.length := rfl
  have hlen : (p.encode ++ rest).length = payload.length - offset := by
    rw [← h, List.length_drop]
  rw [List.length_append] at hlen
  have hfield : fromBytes (slice (payload.drop offset) 4 6) = p.dataLength := by
    rw [h, slice_append_left rest (by omega), p.slice_encode_length,
      fromBytes_toBytes p.dataLength_lt]
  have hend : spacePacketPrimaryHeaderLength + p.dataLength + 1 = p.totalLength := by
    simp only [spacePacketPrimaryHeaderLength]
    omega
  have hraw : slice payload offset (offset + p.totalLength) = p.encode := by
    have := slice_drop payload offset 0 p.totalLength
    rw [Nat.add_zero] at this
    rw [this, h, ← hp, slice_zero_length]
  have hsix : offset + spacePacketPrimaryHeaderLength ≤ payload.length := by
    simp only [spacePacketPrimaryHeaderLength]
    omega
  rw [decodeLoop, if_pos hsix, lengthField_eq, hfield]
  simp only [hend]
  rw [if_neg (by omega), hraw, p.decode_encode]

/-- **What the loop returns.**  The packets up to an incomplete rest, whatever the
fuel, once there is enough of it. -/
theorem decodeLoop_eq (ps : List SpacePacket) (hdrop : payload.drop offset = encodeAll ps ++ rest)
    (hrest : Incomplete rest) (hfuel : ps.length < fuel) :
    decodeLoop frameType payload fuel offset = .ok (ps.map (⟨frameType, ·⟩)) := by
  obtain ⟨fuel, rfl⟩ : ∃ n, fuel = n + 1 := ⟨fuel - 1, by omega⟩
  induction ps generalizing fuel offset with
  | nil =>
      rw [encodeAll_nil, List.nil_append] at hdrop
      rw [← hdrop] at hrest
      exact decodeLoop_stop hrest
  | cons p ps ih =>
      rw [encodeAll_cons, List.append_assoc] at hdrop
      obtain ⟨fuel, rfl⟩ : ∃ n, fuel = n + 1 := ⟨fuel - 1, by simp at hfuel; omega⟩
      have htail : payload.drop (offset + p.totalLength) = encodeAll ps ++ rest := by
        rw [← List.drop_drop, hdrop, ← p.length_encode, List.drop_left]
      rw [decodeLoop_step hdrop, ih htail fuel (by simpa using hfuel)]
      rfl

end Loop

/-- Every byte string is a row of packets and an incomplete rest. -/
theorem exists_greedy (b : Bytes) : ∃ ps rest, b = encodeAll ps ++ rest ∧ Incomplete rest := by
  induction b using (measure List.length).wf.induction with
  | _ b ih =>
      by_cases h : Incomplete b
      · exact ⟨[], b, rfl, h⟩
      · simp only [Incomplete, not_or, Nat.not_lt] at h
        -- the packet that the length field announces
        have hlen :
            (b.take (7 + fromBytes (slice b 4 6))).length = 7 + fromBytes (slice b 4 6) := by
          rw [List.length_take]
          omega
        have hsplit : b.take (7 + fromBytes (slice b 4 6)) ++ b.drop (7 + fromBytes (slice b 4 6))
            = b := List.take_append_drop _ b
        have hfield : slice (b.take (7 + fromBytes (slice b 4 6))) 4 6 = slice b 4 6 := by
          conv_rhs => rw [← hsplit]
          exact (slice_append_left _ (by omega)).symm
        have hformed : SpacePacket.WireFormed (b.take (7 + fromBytes (slice b 4 6))) := by
          rw [SpacePacket.WireFormed, hfield, hlen]
          exact ⟨Nat.le_add_right 7 _, rfl⟩
        obtain ⟨p, -, hp⟩ := SpacePacket.decode_of_wireFormed hformed
        obtain ⟨ps, rest, hrest, hinc⟩ := ih (b.drop (7 + fromBytes (slice b 4 6))) (by
          show (b.drop _).length < b.length
          rw [List.length_drop]
          omega)
        refine ⟨p :: ps, rest, ?_, hinc⟩
        rw [encodeAll_cons, hp, List.append_assoc, ← hrest, hsplit]

lemma length_le_length_encodeAll (ps : List SpacePacket) : ps.length ≤ (encodeAll ps).length := by
  induction ps with
  | nil => exact Nat.le_refl 0
  | cons p ps ih =>
      have hp := p.length_encode
      have htotal : p.totalLength = 6 + p.dataField.length := rfl
      rw [encodeAll_cons, List.length_append, List.length_cons]
      omega

/-- The packets in a payload, behind an offset. -/
theorem decodeSpacePacketsFromPayload_eq (frameType : SdlpFrameType) {payload rest : Bytes}
    {offset : ℕ} (ps : List SpacePacket) (hdrop : payload.drop offset = encodeAll ps ++ rest)
    (hrest : Incomplete rest) :
    decodeSpacePacketsFromPayload frameType payload offset =
      .ok (ps.map (⟨frameType, ·⟩)) := by
  have hlen := congrArg List.length hdrop
  have hps := length_le_length_encodeAll ps
  rw [List.length_drop, List.length_append] at hlen
  exact decodeLoop_eq ps hdrop hrest (by omega)

lemma incomplete_nil : Incomplete [] := Or.inl (by decide)

/-- The beginning of a packet is incomplete. -/
lemma incomplete_of_prefix {p : SpacePacket} {rest : Bytes} (h : rest <+: p.encode)
    (hlt : rest.length < p.encode.length) : Incomplete rest := by
  obtain ⟨tail, htail⟩ := h
  by_cases hsix : rest.length < 6
  · exact Or.inl hsix
  · have hpos := p.dataField_pos
    have hdata : p.dataLength = p.dataField.length - 1 := rfl
    have htotal : p.encode.length = 6 + p.dataField.length := p.length_encode
    have hfield : slice rest 4 6 = toBytes p.dataLength 2 := by
      rw [← p.slice_encode_length, ← htail, slice_append_left tail (by omega)]
    refine Or.inr ?_
    rw [hfield, fromBytes_toBytes p.dataLength_lt]
    omega

namespace SdlpSpacePacketReceiver

/-- The packets on a stream, in the frames that the parser emits. -/
def packets (self : SdlpSpacePacketReceiver) (w : Bytes) : List DecodedSpacePacket :=
  (self.uartParser.emitted w).flatMap packetsOfFrame

/-- The receiver after a stream. -/
def after (self : SdlpSpacePacketReceiver) (w : Bytes) : SdlpSpacePacketReceiver :=
  ⟨(self.uartParser.feed w).2⟩

theorem processUartBytes_eq (self : SdlpSpacePacketReceiver) (w : Bytes) :
    self.processUartBytes w = (.ok (self.packets w), self.after w) := by
  rw [processUartBytes, packets, after, SdlpUartStreamParser.emitted_eq,
    SdlpUartStreamParser.feed_eq]

@[simp] lemma after_nil (self : SdlpSpacePacketReceiver) : self.after [] = self := rfl

@[simp] lemma packets_nil (self : SdlpSpacePacketReceiver) : self.packets [] = [] := rfl

lemma toPiece_after (self : SdlpSpacePacketReceiver) (w : Bytes) :
    (self.after w).uartParser.toPiece = sdlpFramer.run self.uartParser.toPiece w := by
  rw [after, SdlpUartStreamParser.feed_eq, SdlpUartStreamParser.toPiece_ofPiece]

lemma packets_eq (self : SdlpSpacePacketReceiver) (w : Bytes) :
    self.packets w = (sdlpFramer.out self.uartParser.toPiece w).flatMap packetsOfFrame := by
  rw [packets, SdlpUartStreamParser.emitted_eq]

lemma after_append (self : SdlpSpacePacketReceiver) (u v : Bytes) :
    self.after (u ++ v) = (self.after u).after v := by
  simp only [after, SdlpUartStreamParser.feed_eq, Framer.run_append,
    SdlpUartStreamParser.toPiece_ofPiece]

lemma packets_append (self : SdlpSpacePacketReceiver) (u v : Bytes) :
    self.packets (u ++ v) = self.packets u ++ (self.after u).packets v := by
  rw [packets_eq, packets_eq, packets_eq, toPiece_after, Framer.out_append, List.flatMap_append]

/-- The cut of a stream into chunks leaves no trace. -/
theorem processChunks_eq (self : SdlpSpacePacketReceiver) (chunks : List Bytes) :
    self.processChunks chunks = (.ok (self.packets chunks.flatten), self.after chunks.flatten) := by
  induction chunks generalizing self with
  | nil => rfl
  | cons chunk chunks ih =>
      simp only [processChunks, processUartBytes_eq, ih, List.flatten_cons, packets_append,
        after_append]

lemma packetsOfFrame_eq {parsedFrame : ParsedSdlpFrame} {decoded : List DecodedSpacePacket}
    (h : decodePacketsFromSdlpFrame parsedFrame = .ok decoded) :
    packetsOfFrame parsedFrame = decoded := by
  rw [packetsOfFrame, h]

/-- A TC frame that carries one packet yields that packet. -/
lemma packetsOfFrame_tc {frame : TcTransferFrame} {p : SpacePacket}
    (h : frame.dataField = p.encode) :
    packetsOfFrame (SdlpFrame.tc frame).parsed = [⟨.tc, p⟩] := by
  have hdrop : frame.dataField.drop 0 = encodeAll [p] ++ [] := by
    rw [List.drop_zero, h, encodeAll_cons, encodeAll_nil, List.append_nil, List.append_nil]
  exact packetsOfFrame_eq (decodeSpacePacketsFromPayload_eq .tc [p] hdrop incomplete_nil)

/-- A TM frame that carries one packet, and points to it, yields that packet. -/
lemma packetsOfFrame_tm_single {frame : TmTransferFrame} {p : SpacePacket}
    (h : frame.dataField = p.encode) (hpointer : frame.firstHeaderPointer = 0) :
    packetsOfFrame (SdlpFrame.tm frame).parsed = [⟨.tm, p⟩] := by
  have hoffset : tmStartOffset frame = 0 := by
    rw [tmStartOffset, hpointer, if_neg (by decide), if_neg (Nat.not_lt_zero _)]
  have hdrop : frame.dataField.drop (tmStartOffset frame) = encodeAll [p] ++ [] := by
    rw [hoffset, List.drop_zero, h, encodeAll_cons, encodeAll_nil, List.append_nil,
      List.append_nil]
  exact packetsOfFrame_eq (decodeSpacePacketsFromPayload_eq .tm [p] hdrop incomplete_nil)

/-! ## Reading from a port -/

/-- What one call of `process_serial_once` gets from its port. -/
def readOnce {P : Type*} [SerialLike P] (serialPort : P) (maxReadSize : ℤ) :
    Except PyError Bytes × P :=
  if maxReadSize ≤ 0 then (.error (.valueError "max_read_size must be positive"), serialPort)
  else
    match SerialLike.inWaiting serialPort with
    | (.error e, serialPort) => (.error e, serialPort)
    | (.ok pending, serialPort) =>
        if pending ≤ 0 then (.ok [], serialPort)
        else SerialLike.read serialPort (if pending < maxReadSize then pending else maxReadSize)

/-- A call of `process_serial_once` processes the bytes that it read; one that raises
leaves the receiver as it was. -/
theorem processSerialOnce_eq {P : Type*} [SerialLike P] (self : SdlpSpacePacketReceiver)
    (serialPort : P) (maxReadSize : ℤ) :
    self.processSerialOnce serialPort maxReadSize =
      match readOnce serialPort maxReadSize with
      | (.error e, serialPort) => (.error e, self, serialPort)
      | (.ok chunk, serialPort) => (.ok (self.packets chunk), self.after chunk, serialPort) := by
  rw [processSerialOnce, readOnce]
  split_ifs with hsize
  · rfl
  · rcases SerialLike.inWaiting serialPort with ⟨e | pending, serialPort'⟩
    · rfl
    · by_cases hpending : pending ≤ 0
      · simp only [if_pos hpending]
        rfl
      · simp only [if_neg hpending]
        generalize (if pending < maxReadSize then pending else maxReadSize) = toRead
        rcases SerialLike.read serialPort' toRead with ⟨e | chunk, serialPort''⟩
        · rfl
        · cases chunk with
          | nil => rfl
          | cons b chunk => simp only [List.isEmpty_cons, processUartBytes_eq]; rfl

/-! ## A frame on the line -/

/-- Behind an `END` the parser is in a frame of which it has read nothing. -/
lemma after_concat_end (self : SdlpSpacePacketReceiver) (w : Bytes) :
    self.after (w ++ [slipEnd]) = ⟨SdlpUartStreamParser.clean⟩ := by
  rw [after, SdlpUartStreamParser.feed_eq]
  exact congrArg (fun s => SdlpSpacePacketReceiver.mk (SdlpUartStreamParser.ofPiece s))
    (sdlpFramer.run_concat_delim _ w)

/-- The packets of the frame that an `END` behind these bytes completes. -/
def pending (self : SdlpSpacePacketReceiver) (p : Bytes) : List DecodedSpacePacket :=
  (sdlpFramer.close (sdlpFramer.inside self.uartParser.toPiece p)).toList.flatMap packetsOfFrame

lemma pending_after (self : SdlpSpacePacketReceiver) {u : Bytes} (hu : slipEnd ∉ u) (p : Bytes) :
    (self.after u).pending p = self.pending (u ++ p) := by
  rw [pending, pending, toPiece_after, sdlpFramer.run_of_not_mem hu, Framer.inside_append]

/-- Without an `END` nothing is completed. -/
lemma packets_of_notMem (self : SdlpSpacePacketReceiver) {w : Bytes} (hw : slipEnd ∉ w) :
    self.packets w = [] := by
  have hout := sdlpFramer.out_of_not_mem (w := w) hw self.uartParser.toPiece
  rw [packets_eq, hout]
  rfl

lemma packets_piece (self : SdlpSpacePacketReceiver) {p : Bytes} (hp : slipEnd ∉ p) (v : Bytes) :
    self.packets (p ++ slipEnd :: v) =
      self.pending p ++ (mk SdlpUartStreamParser.clean).packets v := by
  have hpiece := sdlpFramer.out_piece (p := p) hp self.uartParser.toPiece v
  rw [packets_eq, packets_eq, SdlpUartStreamParser.toPiece_clean, pending, ← List.flatMap_append]
  exact congrArg (List.flatMap packetsOfFrame) hpiece

lemma packets_end (self : SdlpSpacePacketReceiver) :
    self.packets [slipEnd] = self.pending [] :=
  (self.packets_piece (p := []) List.not_mem_nil []).trans (List.append_nil _)

lemma after_piece (self : SdlpSpacePacketReceiver) (p v : Bytes) :
    self.after (p ++ slipEnd :: v) = (mk SdlpUartStreamParser.clean).after v := by
  rw [List.append_cons, after_append, after_concat_end]

/-- The first `END` of a frame ends what the parser was reading. -/
lemma packets_slipEncode (self : SdlpSpacePacketReceiver) {f : SdlpFrame}
    (h : f.encode.length ≤ 0xFFFF) :
    self.packets (slipEncode f.envelope) = self.packets [slipEnd] ++ packetsOfFrame f.parsed := by
  have hdecode : (slip.unstuff (slip.stuff f.envelope)).bind decodeEnvelope = some f.parsed := by
    rw [slip.unstuff_stuff, Option.bind_some, f.decodeEnvelope_envelope h]
  have hsegment := self.uartParser.emitted_segment [] (slip.delim_notMem_stuff f.envelope)
  rw [List.nil_append, List.nil_append, hdecode] at hsegment
  rw [packets, packets, slipEncode_eq, hsegment, List.flatMap_append, Option.toList_some,
    List.flatMap_singleton]

end SdlpSpacePacketReceiver

end OpenSpaceEgse
