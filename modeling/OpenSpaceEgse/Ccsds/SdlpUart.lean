import OpenSpaceEgse.Ccsds.TcTransferFrame
import OpenSpaceEgse.Library.Stuffing

/-!
# The UART envelope and its stream parser

A transfer frame travels in an envelope (its type, a flags byte, its length) that is
SLIP-encoded between two `END` bytes.  The parser reads the stream a byte at a time
and keeps three mutable fields.

The three fields hold no more than the state of an `Unstuffer` inside the current
piece: `feed_eq` shows that the parser is the framer `sdlpFramer` in disguise, that
no call of `feed` raises, and from then on everything about streams is a statement
about `sdlpFramer`.
-/

namespace OpenSpaceEgse

open Wire

def slipEnd : UInt8 := 0xC0
def slipEsc : UInt8 := 0xDB
def slipEscEnd : UInt8 := 0xDC
def slipEscEsc : UInt8 := 0xDD

def uartHeaderLength : ℕ := 4

/-- The type byte of the envelope. -/
inductive SdlpFrameType where
  | tm
  | tc
deriving DecidableEq, Repr

namespace SdlpFrameType

/-- The value of the enumeration member. -/
def value : SdlpFrameType → ℕ
  | tm => 1
  | tc => 2

/-- `SdlpFrameType(value)`. -/
def ofValue : ℕ → Except PyError SdlpFrameType
  | 1 => .ok tm
  | 2 => .ok tc
  | n => .error (.valueError (toString n ++ " is not a valid SdlpFrameType"))

end SdlpFrameType

/-- The union `TmTransferFrame | TcTransferFrame`. -/
inductive SdlpFrame where
  | tm (frame : TmTransferFrame)
  | tc (frame : TcTransferFrame)
deriving DecidableEq, Repr

structure ParsedSdlpFrame where
  frameType : SdlpFrameType
  frame : SdlpFrame
  hasFecf : Bool
deriving DecidableEq, Repr

/-! ## The serializer -/

/-- `_build_uart_payload`. -/
def buildUartPayload (frameType : SdlpFrameType) (flags : ℕ) (frameBytes : Bytes) :
    Except PyError Bytes :=
  if frameBytes.length > 0xFFFF then
    .error (.valueError "SDLP frame is too large for UART stream length field")
  else
    .ok ([UInt8.ofNat frameType.value, UInt8.ofNat (flags &&& 0xFF)] ++
      toBytes frameBytes.length 2 ++ frameBytes)

/-- `_slip_encode`. -/
def slipEncode (payload : Bytes) : Bytes :=
  slipEnd :: payload.flatMap (fun item =>
    if item = slipEnd then [slipEsc, slipEscEnd]
    else if item = slipEsc then [slipEsc, slipEscEsc]
    else [item]) ++ [slipEnd]

/-- `SdlpUartStreamSerializer.serialize_tm`. -/
def serializeTm (frame : TmTransferFrame) : Except PyError Bytes := do
  let payload := frame.encode
  let flags := if frame.fecf.isSome then 1 else 0
  return slipEncode (← buildUartPayload .tm flags payload)

/-- `SdlpUartStreamSerializer.serialize_tc`. -/
def serializeTc (frame : TcTransferFrame) : Except PyError Bytes := do
  let payload := frame.encode
  let flags := if frame.fecf.isSome then 1 else 0
  return slipEncode (← buildUartPayload .tc flags payload)

/-! ## The stream parser -/

/-- `SdlpUartStreamParser._parse_slip_payload`. -/
def parseSlipPayload (payload : Bytes) : Except PyError (Option ParsedSdlpFrame) :=
  if payload.length < uartHeaderLength then
    .ok none
  else
    let frameTypeRaw := byteAt payload 0
    let flags := byteAt payload 1
    let frameLength := fromBytes (slice payload 2 4)
    let frameBytes := sliceFrom payload 4
    if frameBytes.length ≠ frameLength then
      .ok none
    else
      match SdlpFrameType.ofValue frameTypeRaw with
      | .error (.valueError _) => .ok none
      | .error e => .error e
      | .ok frameType =>
          let hasFecf := flags &&& 0x01 != 0
          let frame :=
            if frameType = .tm then (TmTransferFrame.decode frameBytes hasFecf).map SdlpFrame.tm
            else (TcTransferFrame.decode frameBytes hasFecf).map SdlpFrame.tc
          match frame with
          | .error (.typeError _) => .ok none
          | .error (.valueError _) => .ok none
          | .error e => .error e
          | .ok frame => .ok (some ⟨frameType, frame, hasFecf⟩)

/-- The fields of an `SdlpUartStreamParser`.  Outside a frame no escape is pending
and the buffer is empty. -/
structure SdlpUartStreamParser where
  inFrame : Bool
  escapeNext : Bool
  frameBuffer : Bytes
  idle : inFrame = false → escapeNext = false ∧ frameBuffer = []
deriving DecidableEq, Repr

namespace SdlpUartStreamParser

/-- `SdlpUartStreamParser()`. -/
def init : SdlpUartStreamParser := ⟨false, false, [], fun _ => ⟨rfl, rfl⟩⟩

/-- In a frame, nothing read yet: the state behind every `END`. -/
def clean : SdlpUartStreamParser := ⟨true, false, [], fun h => by simp at h⟩

/-- The body of the loop of `feed`: what is appended to `parsed`, and the parser
afterwards. -/
def feedItem (self : SdlpUartStreamParser) (item : UInt8) :
    Except PyError (Option ParsedSdlpFrame) × SdlpUartStreamParser :=
  if item = slipEnd then
    let maybe := if self.inFrame && !self.frameBuffer.isEmpty then
      parseSlipPayload self.frameBuffer else .ok none
    match maybe with
    | .error e => (.error e, self)
    | .ok maybe => (.ok maybe, clean)
  else if hf : self.inFrame = true then
    if self.escapeNext then
      if item = slipEscEnd then
        (.ok none, ⟨true, false, self.frameBuffer ++ [slipEnd], by simp⟩)
      else if item = slipEscEsc then
        (.ok none, ⟨true, false, self.frameBuffer ++ [slipEsc], by simp⟩)
      else
        -- an escape that stands for nothing: the rest of the piece is ignored
        (.ok none, init)
    else if item = slipEsc then
      (.ok none, ⟨self.inFrame, true, self.frameBuffer, by simp [hf]⟩)
    else
      (.ok none, ⟨self.inFrame, self.escapeNext, self.frameBuffer ++ [item], by simp [hf]⟩)
  else
    (.ok none, self)

/-- `SdlpUartStreamParser.feed`. -/
def feed (self : SdlpUartStreamParser) : Bytes →
    Except PyError (List ParsedSdlpFrame) × SdlpUartStreamParser
  | [] => (.ok [], self)
  | item :: uartBytes =>
      match self.feedItem item with
      | (.error e, self') => (.error e, self')
      | (.ok maybe, self') =>
          match self'.feed uartBytes with
          | (.error e, self'') => (.error e, self'')
          | (.ok parsed, self'') => (.ok (maybe.toList ++ parsed), self'')

/-- Feeding chunk after chunk; the frames of all calls in one list. -/
def feedChunks (self : SdlpUartStreamParser) : List Bytes →
    Except PyError (List ParsedSdlpFrame) × SdlpUartStreamParser
  | [] => (.ok [], self)
  | chunk :: chunks =>
      match self.feed chunk with
      | (.error e, self') => (.error e, self')
      | (.ok parsed, self') =>
          match self'.feedChunks chunks with
          | (.error e, self'') => (.error e, self'')
          | (.ok rest, self'') => (.ok (parsed ++ rest), self'')

end SdlpUartStreamParser

/-! ## The envelope of a payload -/

/-- The frame in an envelope: the type is known, the length is right, and the frame
decodes. -/
def decodeEnvelope (u : Bytes) : Option ParsedSdlpFrame :=
  let hasFecf := byteAt u 1 % 2 == 1
  if 4 ≤ u.length ∧ fromBytes (slice u 2 4) = u.length - 4 then
    if byteAt u 0 = 1 then
      (TmTransferFrame.decode (u.drop 4) hasFecf).toOption.map (⟨.tm, .tm ·, hasFecf⟩)
    else if byteAt u 0 = 2 then
      (TcTransferFrame.decode (u.drop 4) hasFecf).toOption.map (⟨.tc, .tc ·, hasFecf⟩)
    else none
  else none

lemma tm_decode_cases (b : Bytes) (h : Bool) :
    (∃ f, TmTransferFrame.decode b h = .ok f) ∨
      ∃ msg, TmTransferFrame.decode b h = .error (.valueError msg) := by
  by_cases hb : TmTransferFrame.WireFormed h b
  · obtain ⟨f, hf, -⟩ := TmTransferFrame.decode_of_wireFormed hb
    exact Or.inl ⟨f, hf⟩
  · exact Or.inr (TmTransferFrame.decode_of_not_wireFormed hb)

lemma tc_decode_cases (b : Bytes) (h : Bool) :
    (∃ f, TcTransferFrame.decode b h = .ok f) ∨
      ∃ msg, TcTransferFrame.decode b h = .error (.valueError msg) := by
  by_cases hb : TcTransferFrame.WireFormed h b
  · obtain ⟨f, hf, -⟩ := TcTransferFrame.decode_of_wireFormed hb
    exact Or.inl ⟨f, hf⟩
  · exact Or.inr (TcTransferFrame.decode_of_not_wireFormed hb)

lemma flag_eq (n : ℕ) : (n &&& 0x01 != 0) = (n % 2 == 1) := by
  rw [land_mask 0x01 1 rfl, Bool.eq_iff_iff, bne_iff_ne, beq_iff_eq]
  omega

/-- The parser reads the envelope, and never raises. -/
lemma parseSlipPayload_eq (u : Bytes) : parseSlipPayload u = .ok (decodeEnvelope u) := by
  rw [parseSlipPayload, decodeEnvelope]
  by_cases hshort : u.length < uartHeaderLength
  · have hlen : ¬ (4 ≤ u.length ∧ fromBytes (slice u 2 4) = u.length - 4) :=
      fun h => absurd h.1 (Nat.not_le_of_lt hshort)
    rw [if_pos hshort, if_neg hlen]
  rw [if_neg hshort]
  have hfour : 4 ≤ u.length := Nat.le_of_not_lt hshort
  have hdrop : (sliceFrom u 4).length = u.length - 4 := List.length_drop
  by_cases hlen : (sliceFrom u 4).length = fromBytes (slice u 2 4)
  · simp only [flag_eq, sliceFrom]
    simp only [sliceFrom] at hlen hdrop
    rw [if_neg (not_not.mpr hlen), if_pos ⟨hfour, by omega⟩]
    by_cases htm : byteAt u 0 = 1
    · rw [htm, if_pos rfl]
      simp only [SdlpFrameType.ofValue, if_true]
      rcases tm_decode_cases (u.drop 4) (byteAt u 1 % 2 == 1) with ⟨f, hf⟩ | ⟨msg, hf⟩ <;>
        simp [hf, Except.map, Except.toOption]
    · rw [if_neg htm]
      by_cases htc : byteAt u 0 = 2
      · rw [htc, if_pos rfl]
        simp only [SdlpFrameType.ofValue]
        rcases tc_decode_cases (u.drop 4) (byteAt u 1 % 2 == 1) with ⟨f, hf⟩ | ⟨msg, hf⟩ <;>
          simp [hf, Except.map, Except.toOption]
      · rw [if_neg htc]
        simp only [SdlpFrameType.ofValue]
  · simp only [hdrop] at hlen
    have hne : ¬ (4 ≤ u.length ∧ fromBytes (slice u 2 4) = u.length - 4) :=
      fun h => hlen h.2.symm
    rw [if_neg hne]
    simp [sliceFrom, hlen]

lemma decodeEnvelope_nil : decodeEnvelope [] = none := rfl

namespace SdlpFrame

def encode : SdlpFrame → Bytes
  | tm frame => frame.encode
  | tc frame => frame.encode

def hasFecf : SdlpFrame → Bool
  | tm frame => frame.fecf.isSome
  | tc frame => frame.fecf.isSome

def frameType : SdlpFrame → SdlpFrameType
  | tm _ => .tm
  | tc _ => .tc

/-- The serializer for the type of the frame. -/
def serialize : SdlpFrame → Except PyError Bytes
  | tm frame => serializeTm frame
  | tc frame => serializeTc frame

/-- The frame as the parser emits it. -/
def parsed (f : SdlpFrame) : ParsedSdlpFrame := ⟨f.frameType, f, f.hasFecf⟩

/-- The flags byte of the envelope. -/
def flags (f : SdlpFrame) : ℕ := if f.hasFecf then 1 else 0

/-- The bytes of the envelope. -/
def envelope (f : SdlpFrame) : Bytes :=
  [UInt8.ofNat f.frameType.value, UInt8.ofNat f.flags] ++ toBytes f.encode.length 2 ++ f.encode

lemma buildUartPayload_eq (f : SdlpFrame) (h : f.encode.length ≤ 0xFFFF) :
    buildUartPayload f.frameType f.flags f.encode = .ok f.envelope := by
  have hflags : f.flags &&& 0xFF = f.flags := by
    rw [land_mask 0xFF 8 rfl, flags]
    split <;> rfl
  rw [buildUartPayload, if_neg (Nat.not_lt_of_le h), hflags]
  rfl

lemma serialize_eq (f : SdlpFrame) (h : f.encode.length ≤ 0xFFFF) :
    f.serialize = .ok (slipEncode f.envelope) := by
  have hbuild := f.buildUartPayload_eq h
  cases f with
  | tm frame => exact congrArg (Except.map slipEncode) hbuild
  | tc frame => exact congrArg (Except.map slipEncode) hbuild

/-- A frame whose length does not fit two bytes is refused. -/
lemma serialize_of_lt (f : SdlpFrame) (h : 0xFFFF < f.encode.length) :
    f.serialize =
      .error (.valueError "SDLP frame is too large for UART stream length field") := by
  have hbuild : buildUartPayload f.frameType f.flags f.encode =
      .error (.valueError "SDLP frame is too large for UART stream length field") := if_pos h
  cases f with
  | tm frame => exact congrArg (Except.map slipEncode) hbuild
  | tc frame => exact congrArg (Except.map slipEncode) hbuild

/-- Only a TM frame can be too long. -/
lemma length_encode_tc (frame : TcTransferFrame) : (tc frame).encode.length ≤ 0xFFFF := by
  have := frame.totalLength_le
  rw [encode, frame.length_encode]
  omega

lemma length_encode_tm {frame : TmTransferFrame} (h : frame.dataField.length ≤ 2047) :
    (tm frame).encode.length ≤ 0xFFFF := by
  have hlen : (tm frame).encode.length = frame.totalLength := frame.length_encode
  rw [hlen]
  simp only [TmTransferFrame.totalLength, TmTransferFrame.tmPrimaryHeaderLength,
    TmTransferFrame.tmOcfLength, TmTransferFrame.fecfLength]
  split <;> split <;> omega

lemma length_envelope (f : SdlpFrame) : f.envelope.length = 4 + f.encode.length := by
  simp only [envelope, List.length_append, length_toBytes, List.length_cons, List.length_nil]

/-- The length field of the envelope. -/
lemma lengthField_envelope (f : SdlpFrame) (h : f.encode.length ≤ 0xFFFF) :
    fromBytes (slice f.envelope 2 4) = f.encode.length := by
  have hword : slice f.envelope 2 4 = toBytes f.encode.length 2 := by
    simp [slice, envelope, toBytes]
  rw [hword, fromBytes_toBytes (by omega)]

/-- The frame is read back from its envelope. -/
lemma decodeEnvelope_envelope (f : SdlpFrame) (h : f.encode.length ≤ 0xFFFF) :
    decodeEnvelope f.envelope = some f.parsed := by
  have hlen := f.length_envelope
  have hfield : fromBytes (slice f.envelope 2 4) = f.envelope.length - 4 := by
    rw [f.lengthField_envelope h, hlen]
    omega
  have hdrop : f.envelope.drop 4 = f.encode := by simp [envelope, toBytes]
  have hflags : (byteAt f.envelope 1 % 2 == 1) = f.hasFecf := by
    have hbyte : byteAt f.envelope 1 = f.flags := by
      cases hf : f.hasFecf <;> simp [byteAt, envelope, flags, hf]
    rw [hbyte, flags]
    cases f.hasFecf <;> rfl
  rw [decodeEnvelope, if_pos ⟨by omega, hfield⟩, hflags, hdrop]
  cases f with
  | tm frame =>
      have htype : byteAt (tm frame).envelope 0 = 1 := rfl
      rw [htype, if_pos rfl, encode, hasFecf, frame.decode_encode]
      rfl
  | tc frame =>
      have htype : byteAt (tc frame).envelope 0 = 2 := rfl
      rw [htype, if_neg (by decide), if_pos rfl, encode, hasFecf, frame.decode_encode]
      rfl

/-- A proper prefix of an envelope is no envelope: the length field does not fit. -/
lemma decodeEnvelope_take (f : SdlpFrame) (h : f.encode.length ≤ 0xFFFF) {j : ℕ}
    (hj : j < f.envelope.length) : decodeEnvelope (f.envelope.take j) = none := by
  have hlen : (f.envelope.take j).length = j := List.length_take_of_le (Nat.le_of_lt hj)
  refine if_neg ?_
  rintro ⟨hfour, hfield⟩
  have hsplit := List.take_append_drop j f.envelope
  have hslice : slice (f.envelope.take j) 2 4 = slice f.envelope 2 4 := by
    conv_rhs => rw [← hsplit]
    exact (slice_append_left _ hfour).symm
  rw [hslice, f.lengthField_envelope h, hlen] at hfield
  rw [f.length_envelope] at hj
  omega

end SdlpFrame

/-- The header of an envelope, and what follows it. -/
lemma header_append_drop {u : Bytes} (h : 4 ≤ u.length) :
    [UInt8.ofNat (byteAt u 0), UInt8.ofNat (byteAt u 1)] ++ toBytes (fromBytes (slice u 2 4)) 2 ++
      u.drop 4 = u := by
  rw [toBytes_fromBytes_slice h rfl]
  rcases u with _ | ⟨a, _ | ⟨b, u⟩⟩
  · exact absurd h (by simp)
  · exact absurd h (by simp)
  · have hsplit : slice (a :: b :: u) 2 4 ++ sliceFrom (a :: b :: u) 4 = u :=
      slice_append_sliceFrom (a :: b :: u) (i := 2) (by omega)
    rw [List.append_assoc]
    show _ ++ (slice (a :: b :: u) 2 4 ++ sliceFrom (a :: b :: u) 4) = _
    rw [hsplit]
    simp [byteAt]

/-- A header that announces a frame, with the frame behind it, is the envelope of the
frame up to the upper bits of the flags byte. -/
lemma eq_of_header {u : Bytes} {f : SdlpFrame} (hlen : 4 ≤ u.length)
    (hfield : fromBytes (slice u 2 4) = u.length - 4)
    (htype : byteAt u 0 = f.frameType.value) (hencode : f.encode = u.drop 4)
    (hfecf : f.hasFecf = (byteAt u 1 % 2 == 1)) :
    f.encode.length ≤ 0xFFFF ∧ byteAt u 1 % 2 = f.flags ∧
      u = [UInt8.ofNat f.frameType.value, UInt8.ofNat (byteAt u 1)] ++
        toBytes f.encode.length 2 ++ f.encode := by
  have hword := fromBytes_slice_lt (b := u) (i := 2) (j := 4) hlen rfl
  have hdrop : f.encode.length = u.length - 4 := by rw [hencode, List.length_drop]
  refine ⟨by omega, ?_, ?_⟩
  · rw [SdlpFrame.flags, hfecf]
    simp only [beq_iff_eq]
    split <;> omega
  · rw [← htype, hdrop, ← hfield, hencode]
    exact (header_append_drop hlen).symm

/-- What an envelope that was read looks like: only the upper bits of the flags byte
are not determined by the frame. -/
lemma eq_of_decodeEnvelope {u : Bytes} {p : ParsedSdlpFrame} (h : decodeEnvelope u = some p) :
    p = p.frame.parsed ∧ p.frame.encode.length ≤ 0xFFFF ∧ 4 ≤ u.length ∧
      byteAt u 1 % 2 = p.frame.flags ∧
      u = [UInt8.ofNat p.frame.frameType.value, UInt8.ofNat (byteAt u 1)] ++
        toBytes p.frame.encode.length 2 ++ p.frame.encode := by
  rw [decodeEnvelope] at h
  by_cases hlen : 4 ≤ u.length ∧ fromBytes (slice u 2 4) = u.length - 4
  · rw [if_pos hlen] at h
    by_cases htm : byteAt u 0 = 1
    · rw [if_pos htm] at h
      rcases tm_decode_cases (u.drop 4) (byteAt u 1 % 2 == 1) with ⟨f, hf⟩ | ⟨msg, hf⟩ <;>
        simp only [hf, Except.toOption, Option.map_some, Option.map_none] at h
      · obtain ⟨hencode, hfecf⟩ := TmTransferFrame.encode_of_decode hf
        obtain ⟨hle, hflags, hu⟩ := eq_of_header (f := .tm f) hlen.1 hlen.2 htm hencode hfecf
        cases h
        exact ⟨by rw [← hfecf]; rfl, hle, hlen.1, hflags, hu⟩
      · exact absurd h (by simp)
    · rw [if_neg htm] at h
      by_cases htc : byteAt u 0 = 2
      · rw [if_pos htc] at h
        rcases tc_decode_cases (u.drop 4) (byteAt u 1 % 2 == 1) with ⟨f, hf⟩ | ⟨msg, hf⟩ <;>
          simp only [hf, Except.toOption, Option.map_some, Option.map_none] at h
        · obtain ⟨hencode, hfecf⟩ := TcTransferFrame.encode_of_decode hf
          obtain ⟨hle, hflags, hu⟩ := eq_of_header (f := .tc f) hlen.1 hlen.2 htc hencode hfecf
          cases h
          exact ⟨by rw [← hfecf]; rfl, hle, hlen.1, hflags, hu⟩
        · exact absurd h (by simp)
      · rw [if_neg htc] at h
        exact absurd h (by simp)
  · rw [if_neg hlen] at h
    exact absurd h (by simp)

/-! ## The parser is a framer -/

/-- SLIP as a stuffing scheme. -/
def slip : Stuffing UInt8 where
  delim := slipEnd
  esc := slipEsc
  escDelim := slipEscEnd
  escEsc := slipEscEsc
  esc_ne_delim := by decide
  escDelim_ne_delim := by decide
  escEsc_ne_delim := by decide
  escDelim_ne_esc := by decide
  escEsc_ne_esc := by decide
  escEsc_ne_escDelim := by decide

lemma slipEncode_eq (u : Bytes) : slipEncode u = slipEnd :: slip.stuff u ++ [slipEnd] := rfl

/-- The stream parser, abstractly: unstuff each piece, then read the envelope. -/
def sdlpFramer : Framer UInt8 (Unstuffer UInt8) ParsedSdlpFrame :=
  Unstuffer.framer slip decodeEnvelope

namespace SdlpUartStreamParser

/-- What the three fields say about the current piece. -/
def toPiece (self : SdlpUartStreamParser) : Unstuffer UInt8 :=
  if self.inFrame then .reading self.escapeNext self.frameBuffer else .void

/-- The parser in a given state of the current piece. -/
def ofPiece : Unstuffer UInt8 → SdlpUartStreamParser
  | .void => init
  | .reading escape buffer => ⟨true, escape, buffer, by simp⟩

@[simp] lemma toPiece_ofPiece (s : Unstuffer UInt8) : (ofPiece s).toPiece = s := by
  cases s <;> rfl

@[simp] lemma ofPiece_toPiece (self : SdlpUartStreamParser) : ofPiece self.toPiece = self := by
  obtain ⟨inFrame, escapeNext, frameBuffer, idle⟩ := self
  cases inFrame with
  | true => rfl
  | false =>
      obtain ⟨he, hb⟩ := idle rfl
      subst he; subst hb
      rfl

@[simp] lemma toPiece_init : init.toPiece = .void := rfl

@[simp] lemma toPiece_clean : clean.toPiece = sdlpFramer.start := rfl

lemma toPiece_reading {self : SdlpUartStreamParser} (h : self.inFrame = true) :
    self.toPiece = .reading self.escapeNext self.frameBuffer := if_pos h

lemma toPiece_void {self : SdlpUartStreamParser} (h : ¬ self.inFrame = true) :
    self.toPiece = .void := if_neg h

/-- One byte takes the parser where it takes the framer, and emits the same. -/
lemma feedItem_eq (self : SdlpUartStreamParser) (item : UInt8) :
    self.feedItem item =
      (.ok (sdlpFramer.emit self.toPiece item), ofPiece (sdlpFramer.next self.toPiece item)) := by
  by_cases hend : item = slipEnd
  · have hemit : sdlpFramer.emit self.toPiece item = sdlpFramer.close self.toPiece := if_pos hend
    have hnext : sdlpFramer.next self.toPiece item = sdlpFramer.start := if_pos hend
    rw [feedItem, if_pos hend, hemit, hnext]
    by_cases hf : self.inFrame = true
    · -- an empty buffer is not parsed, and would yield nothing
      rw [toPiece_reading hf]
      show _ = (Except.ok (decodeEnvelope self.frameBuffer), clean)
      cases hb : self.frameBuffer with
      | nil => simp [decodeEnvelope_nil]
      | cons a b => simp [hf, parseSlipPayload_eq]
    · rw [toPiece_void hf]
      simp only [hf]
      rfl
  · have hemit : sdlpFramer.emit self.toPiece item = none := if_neg hend
    have hnext : sdlpFramer.next self.toPiece item = Unstuffer.step slip self.toPiece item :=
      if_neg hend
    rw [feedItem, if_neg hend, hemit, hnext]
    by_cases hf : self.inFrame = true
    · -- inside a frame the parser does what the stuffing scheme does with a letter
      obtain ⟨inFrame, escapeNext, frameBuffer, idle⟩ := self
      change inFrame = true at hf
      subst hf
      rw [dif_pos rfl, toPiece_reading rfl]
      cases escapeNext with
      | true =>
          rw [if_pos rfl]
          by_cases h₁ : item = slipEscEnd
          · rw [if_pos h₁, h₁, show slipEscEnd = slip.escDelim from rfl, Unstuffer.step_escDelim]
            rfl
          · rw [if_neg h₁]
            by_cases h₂ : item = slipEscEsc
            · rw [if_pos h₂, h₂, show slipEscEsc = slip.escEsc from rfl, Unstuffer.step_escEsc]
              rfl
            · rw [if_neg h₂, Unstuffer.step_illegal slip h₁ h₂]
              rfl
      | false =>
          rw [if_neg (by simp)]
          by_cases h₁ : item = slipEsc
          · rw [if_pos h₁, h₁, show slipEsc = slip.esc from rfl, Unstuffer.step_esc]
            rfl
          · rw [if_neg h₁, Unstuffer.step_of_ne slip h₁]
            rfl
    · rw [dif_neg hf, toPiece_void hf]
      show _ = (_, ofPiece .void)
      rw [← toPiece_void hf, ofPiece_toPiece]

/-- **The parser refines the framer.**  No call of `feed` raises. -/
theorem feed_eq (self : SdlpUartStreamParser) (w : Bytes) :
    self.feed w = (.ok (sdlpFramer.out self.toPiece w),
      ofPiece (sdlpFramer.run self.toPiece w)) := by
  induction w generalizing self with
  | nil => simp [feed]
  | cons item w ih => simp [feed, feedItem_eq, ih]

theorem feedChunks_eq (self : SdlpUartStreamParser) (chunks : List Bytes) :
    self.feedChunks chunks = (.ok (sdlpFramer.out self.toPiece chunks.flatten),
      ofPiece (sdlpFramer.run self.toPiece chunks.flatten)) := by
  rw [← sdlpFramer.outChunks_eq]
  induction chunks generalizing self with
  | nil => simp [feedChunks, Framer.outChunks]
  | cons chunk chunks ih =>
      simp [feedChunks, feed_eq, ih, Framer.outChunks, Framer.run_append]

/-- Every state that the type admits is reached from a fresh parser. -/
theorem exists_feed_init (self : SdlpUartStreamParser) : ∃ w, (init.feed w).2 = self := by
  suffices h : ∀ s, ∃ w, sdlpFramer.run .void w = s by
    obtain ⟨w, hw⟩ := h self.toPiece
    exact ⟨w, by rw [feed_eq, toPiece_init, hw, ofPiece_toPiece]⟩
  rintro (_ | ⟨escape, buffer⟩)
  · exact ⟨[], rfl⟩
  · have hplain : sdlpFramer.run .void (slipEnd :: slip.stuff buffer) = .reading false buffer := by
      have hnot : sdlpFramer.delim ∉ slip.stuff buffer := slip.delim_notMem_stuff buffer
      have hread := Unstuffer.inside_start slip decodeEnvelope (slip.stuff buffer)
      rw [slip.unstuff_stuff, slip.dangling_stuff, Option.elim_some] at hread
      rw [Framer.run_cons, show slipEnd = sdlpFramer.delim from rfl, Framer.next_delim,
        sdlpFramer.run_of_not_mem hnot]
      exact hread
    cases escape with
    | false => exact ⟨_, hplain⟩
    | true =>
        refine ⟨(slipEnd :: slip.stuff buffer) ++ [slipEsc], ?_⟩
        rw [Framer.run_append, hplain]
        rfl

end SdlpUartStreamParser

end OpenSpaceEgse
