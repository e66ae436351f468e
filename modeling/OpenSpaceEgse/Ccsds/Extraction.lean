import OpenSpaceEgse.Ccsds.ReceiveFlow

/-!
# What the receiver takes out of a frame

* `greedy_extraction`: the loop over a payload ends, and finds the packets of the one
  split of the payload into packets and a rest that begins with no complete packet;
* `receive_total`: processing bytes never raises, and does what it would do without the
  handlers and the guards that could drop a packet without a trace.
-/

namespace OpenSpaceEgse

open Wire

/-! ## Greedy extraction -/

/-- There is one way to split a payload into packets and an incomplete rest. -/
lemma greedy_unique {ps qs : List SpacePacket} {rest rest' : Bytes} (hrest : Incomplete rest)
    (hrest' : Incomplete rest') (h : encodeAll qs ++ rest' = encodeAll ps ++ rest) :
    qs = ps ∧ rest' = rest := by
  have hps := decodeSpacePacketsFromPayload_eq .tc ps
    (show (encodeAll ps ++ rest).drop 0 = _ from List.drop_zero) hrest
  have hqs := decodeSpacePacketsFromPayload_eq .tc qs
    (show (encodeAll qs ++ rest').drop 0 = _ from List.drop_zero) hrest'
  rw [h, hps, Except.ok.injEq] at hqs
  have hinj : ∀ p q, DecodedSpacePacket.mk .tc p = ⟨.tc, q⟩ → p = q := by
    intro p q hpq
    exact (DecodedSpacePacket.mk.inj hpq).2
  have heq : qs = ps := ((List.map_inj_right hinj).mp hqs).symm
  rw [heq, List.append_cancel_left_eq] at h
  exact ⟨heq, h⟩

/-- More bytes only extend what is found. -/
lemma decodeSpacePacketsFromPayload_append (frameType : SdlpFrameType) (payload more : Bytes)
    (startOffset : ℕ) (h : startOffset ≤ payload.length) :
    ∃ decoded later,
      decodeSpacePacketsFromPayload frameType payload startOffset = .ok decoded ∧
      decodeSpacePacketsFromPayload frameType (payload ++ more) startOffset =
        .ok (decoded ++ later) := by
  obtain ⟨ps, rest, hdrop, hrest⟩ := exists_greedy (payload.drop startOffset)
  -- the packets that the rest and the new bytes make up
  obtain ⟨qs, rest', hdrop', hrest'⟩ := exists_greedy (rest ++ more)
  have hboth : (payload ++ more).drop startOffset = encodeAll (ps ++ qs) ++ rest' := by
    rw [List.drop_append_of_le_length h, hdrop, List.append_assoc, hdrop', ← List.append_assoc]
    simp [encodeAll]
  refine ⟨ps.map (⟨frameType, ·⟩), qs.map (⟨frameType, ·⟩),
    decodeSpacePacketsFromPayload_eq frameType ps hdrop hrest, ?_⟩
  rw [decodeSpacePacketsFromPayload_eq frameType (ps ++ qs) hboth hrest', List.map_append]

/-- **Greedy extraction is exact.**  From every offset of a payload, the loop returns with
any fuel beyond the length of the payload, and what it returns are the packets of the one
split of the payload into packets and an incomplete rest.  So it returns the packets that
were encoded, also if the beginning of another one follows, and more bytes only extend
what it returns. -/
theorem greedy_extraction (frameType : SdlpFrameType) :
    (∀ (payload : Bytes) (startOffset : ℕ), ∃ ps rest,
      payload.drop startOffset = encodeAll ps ++ rest ∧ Incomplete rest ∧
      (∀ qs rest', Incomplete rest' → payload.drop startOffset = encodeAll qs ++ rest' →
        qs = ps ∧ rest' = rest) ∧
      (∀ fuel, payload.length < fuel →
        decodeLoop frameType payload fuel startOffset = .ok (ps.map (⟨frameType, ·⟩))) ∧
      decodeSpacePacketsFromPayload frameType payload startOffset =
        .ok (ps.map (⟨frameType, ·⟩))) ∧
    (∀ ps, decodeSpacePacketsFromPayload frameType (encodeAll ps) 0 =
      .ok (ps.map (⟨frameType, ·⟩))) ∧
    (∀ ps (p : SpacePacket) tail, tail <+: p.encode → tail ≠ p.encode →
      decodeSpacePacketsFromPayload frameType (encodeAll ps ++ tail) 0 =
        .ok (ps.map (⟨frameType, ·⟩))) ∧
    ∀ (payload more : Bytes) (startOffset : ℕ), startOffset ≤ payload.length →
      ∃ decoded later,
        decodeSpacePacketsFromPayload frameType payload startOffset = .ok decoded ∧
        decodeSpacePacketsFromPayload frameType (payload ++ more) startOffset =
          .ok (decoded ++ later) := by
  refine ⟨?_, ?_, ?_, decodeSpacePacketsFromPayload_append frameType⟩
  · intro payload startOffset
    obtain ⟨ps, rest, hdrop, hrest⟩ := exists_greedy (payload.drop startOffset)
    have hlen := congrArg List.length hdrop
    have hps := length_le_length_encodeAll ps
    rw [List.length_drop, List.length_append] at hlen
    refine ⟨ps, rest, hdrop, hrest, ?_, ?_, decodeSpacePacketsFromPayload_eq _ ps hdrop hrest⟩
    · intro qs rest' hrest' hdrop'
      rw [hdrop] at hdrop'
      exact greedy_unique hrest hrest' hdrop'.symm
    · intro fuel hfuel
      exact decodeLoop_eq ps hdrop hrest (by omega)
  · intro ps
    exact decodeSpacePacketsFromPayload_eq frameType ps (List.append_nil _).symm incomplete_nil
  · intro ps p tail hbegin hne
    have hlt : tail.length < p.encode.length := by
      refine Nat.lt_of_le_of_ne hbegin.length_le ?_
      intro hlen
      exact hne (hbegin.eq_of_length hlen)
    have hincomplete : Incomplete tail := incomplete_of_prefix hbegin hlt
    exact decodeSpacePacketsFromPayload_eq frameType ps rfl hincomplete

/-! ## The receive path without its handlers -/

/-- The loop of `_decode_space_packets_from_payload` without its `except` clause.  What
`SpacePacket.decode` raises escapes, and so would a round for which no fuel is left. -/
def strictLoop (frameType : SdlpFrameType) (payload : Bytes) :
    ℕ → ℕ → Except PyError (List DecodedSpacePacket)
  | 0, _ => .error (.assertionError "no fuel")
  | fuel + 1, offset =>
      if offset + spacePacketPrimaryHeaderLength ≤ payload.length then
        let packetDataLength := fromBytes (slice payload
          (offset + spacePacketDataLengthFieldStart) (offset + spacePacketDataLengthFieldEnd))
        let packetEnd := offset + (spacePacketPrimaryHeaderLength + packetDataLength + 1)
        if packetEnd > payload.length then
          .ok []
        else do
          let packet ← SpacePacket.decode (slice payload offset packetEnd)
          let decoded ← strictLoop frameType payload fuel packetEnd
          return ⟨frameType, packet⟩ :: decoded
      else
        .ok []

/-- `_decode_packets_from_sdlp_frame`, where a frame of the other class is an error. -/
def strictPackets (parsedFrame : ParsedSdlpFrame) : Except PyError (List DecodedSpacePacket) :=
  match parsedFrame.frameType, parsedFrame.frame with
  | .tm, .tm tmFrame =>
      strictLoop .tm tmFrame.dataField (tmFrame.dataField.length + 1) (tmStartOffset tmFrame)
  | .tc, .tc tcFrame => strictLoop .tc tcFrame.dataField (tcFrame.dataField.length + 1) 0
  | _, _ => .error (.assertionError "frame of the other class")

/-- `process_uart_bytes` without its `except` clause. -/
def SdlpSpacePacketReceiver.strictProcess (self : SdlpSpacePacketReceiver) (uartChunk : Bytes) :
    Except PyError (List DecodedSpacePacket) × SdlpSpacePacketReceiver :=
  match self.uartParser.feed uartChunk with
  | (.error e, uartParser) => (.error e, ⟨uartParser⟩)
  | (.ok parsedFrames, uartParser) =>
      ((parsedFrames.mapM strictPackets).map List.flatten, ⟨uartParser⟩)

/-- Where the packets of a frame are: its data field, and the offset of the first one. -/
def SdlpFrame.payload : SdlpFrame → Bytes × ℕ
  | .tm frame => (frame.dataField, tmStartOffset frame)
  | .tc frame => (frame.dataField, 0)

/-- The bytes that the loop hands to `SpacePacket.decode` are a packet. -/
lemma exists_decode_slice {payload : Bytes} {offset packetEnd : ℕ}
    (h : packetEnd ≤ payload.length)
    (hend : packetEnd = offset + (spacePacketPrimaryHeaderLength + fromBytes (slice payload
      (offset + spacePacketDataLengthFieldStart) (offset + spacePacketDataLengthFieldEnd)) + 1)) :
    ∃ packet, SpacePacket.decode (slice payload offset packetEnd) = .ok packet := by
  rw [lengthField_eq] at hend
  simp only [spacePacketPrimaryHeaderLength] at hend
  have hlen : (slice payload offset packetEnd).length = packetEnd - offset := length_slice h
  have hfield : slice (slice payload offset packetEnd) 4 6 = slice (payload.drop offset) 4 6 := by
    have hsplit := List.take_append_drop (packetEnd - offset) (payload.drop offset)
    have hsix : 6 ≤ ((payload.drop offset).take (packetEnd - offset)).length := by
      show 6 ≤ (slice payload offset packetEnd).length
      omega
    conv_rhs => rw [← hsplit]
    exact (slice_append_left _ hsix).symm
  have hformed : SpacePacket.WireFormed (slice payload offset packetEnd) := by
    rw [SpacePacket.WireFormed, hlen, hfield]
    simp only [SpacePacket.primaryHeaderLength]
    omega
  obtain ⟨packet, hpacket, -⟩ := SpacePacket.decode_of_wireFormed hformed
  exact ⟨packet, hpacket⟩

/-- Every round moves the offset, and none of them raises. -/
lemma strictLoop_eq (frameType : SdlpFrameType) {payload : Bytes} {fuel offset : ℕ}
    (h : payload.length - offset < fuel) :
    strictLoop frameType payload fuel offset = decodeLoop frameType payload fuel offset := by
  induction fuel generalizing offset with
  | zero => exact absurd h (Nat.not_lt_zero _)
  | succ fuel ih =>
      rw [strictLoop, decodeLoop]
      by_cases hheader : offset + spacePacketPrimaryHeaderLength ≤ payload.length
      · rw [if_pos hheader, if_pos hheader]
        dsimp only
        generalize hfield : fromBytes (slice payload (offset + spacePacketDataLengthFieldStart)
          (offset + spacePacketDataLengthFieldEnd)) = packetDataLength
        by_cases hend : offset + (spacePacketPrimaryHeaderLength + packetDataLength + 1) >
            payload.length
        · rw [if_pos hend, if_pos hend]
        · -- the slice is as long as its length field says, so that it decodes
          obtain ⟨packet, hpacket⟩ := exists_decode_slice (Nat.not_lt.mp hend) (by rw [hfield])
          have hnext : strictLoop frameType payload fuel
              (offset + (spacePacketPrimaryHeaderLength + packetDataLength + 1)) =
                decodeLoop frameType payload fuel
                  (offset + (spacePacketPrimaryHeaderLength + packetDataLength + 1)) :=
            ih (by omega)
          rw [if_neg hend, if_neg hend, hpacket, hnext]
          dsimp only
          cases decodeLoop frameType payload fuel (offset + (spacePacketPrimaryHeaderLength +
            packetDataLength + 1)) <;> rfl
      · rw [if_neg hheader, if_neg hheader]

/-- What both loops return, wherever they start. -/
lemma strictLoop_greedy (frameType : SdlpFrameType) (payload : Bytes) (startOffset : ℕ) :
    decodeSpacePacketsFromPayload frameType payload startOffset =
        strictLoop frameType payload (payload.length + 1) startOffset ∧
      ∃ ps rest, payload.drop startOffset = encodeAll ps ++ rest ∧ Incomplete rest ∧
        strictLoop frameType payload (payload.length + 1) startOffset =
          .ok (ps.map (⟨frameType, ·⟩)) := by
  have hstrict : strictLoop frameType payload (payload.length + 1) startOffset =
      decodeSpacePacketsFromPayload frameType payload startOffset :=
    strictLoop_eq frameType (by omega)
  obtain ⟨ps, rest, hdrop, hrest⟩ := exists_greedy (payload.drop startOffset)
  refine ⟨hstrict.symm, ps, rest, hdrop, hrest, ?_⟩
  rw [hstrict, decodeSpacePacketsFromPayload_eq frameType ps hdrop hrest]

/-- A frame that was emitted is taken by the branch for its type. -/
lemma decodePackets_parsed (f : SdlpFrame) :
    decodePacketsFromSdlpFrame f.parsed =
        decodeSpacePacketsFromPayload f.frameType f.payload.1 f.payload.2 ∧
      strictPackets f.parsed =
        strictLoop f.frameType f.payload.1 (f.payload.1.length + 1) f.payload.2 := by
  cases f <;> exact ⟨rfl, rfl⟩

/-- The packets of a frame that was emitted are those of its data field. -/
lemma packets_of_emitted {parser : SdlpUartStreamParser} {uartChunk : Bytes}
    {parsedFrame : ParsedSdlpFrame} (h : parsedFrame ∈ parser.emitted uartChunk) :
    parsedFrame.frameType = parsedFrame.frame.frameType ∧
      parsedFrame.hasFecf = parsedFrame.frame.hasFecf ∧
      decodePacketsFromSdlpFrame parsedFrame = strictPackets parsedFrame ∧
      ∃ ps rest, parsedFrame.frame.payload.1.drop parsedFrame.frame.payload.2 =
          encodeAll ps ++ rest ∧ Incomplete rest ∧
        strictPackets parsedFrame = .ok (ps.map (⟨parsedFrame.frameType, ·⟩)) := by
  have hparsed := SdlpUartStreamParser.parsed_of_mem_emitted h
  have htype : parsedFrame.frameType = parsedFrame.frame.frameType :=
    congrArg ParsedSdlpFrame.frameType hparsed
  obtain ⟨hbranch, hstrict⟩ := decodePackets_parsed parsedFrame.frame
  obtain ⟨hsame, ps, rest, hdrop, hrest, hfound⟩ := strictLoop_greedy parsedFrame.frame.frameType
    parsedFrame.frame.payload.1 parsedFrame.frame.payload.2
  rw [← hparsed] at hbranch hstrict
  refine ⟨htype, congrArg ParsedSdlpFrame.hasFecf hparsed, ?_, ps, rest, hdrop, hrest, ?_⟩
  · rw [hbranch, hsame, hstrict]
  · rw [hstrict, hfound, htype]

/-- **The receive path is total, and hides nothing.**  The loop over a payload returns what it
would return without its `except` clause, the packets up to an incomplete rest.  In every state
and on every byte string, `process_uart_bytes` returns, and it does what it would do if no
exception were caught on the way and a frame of the other class were an error: each frame it
handles has the type and the trailer flag that its class and its trailer say, and adds the
packets of its data field. -/
theorem receive_total :
    (∀ (frameType : SdlpFrameType) (payload : Bytes) (startOffset : ℕ),
      decodeSpacePacketsFromPayload frameType payload startOffset =
          strictLoop frameType payload (payload.length + 1) startOffset ∧
        ∃ ps rest, payload.drop startOffset = encodeAll ps ++ rest ∧ Incomplete rest ∧
          strictLoop frameType payload (payload.length + 1) startOffset =
            .ok (ps.map (⟨frameType, ·⟩))) ∧
    ∀ (self : SdlpSpacePacketReceiver) (uartChunk : Bytes),
      self.processUartBytes uartChunk = self.strictProcess uartChunk ∧
      ∃ parsedFrames, (self.uartParser.feed uartChunk).1 = .ok parsedFrames ∧
        (∀ parsedFrame ∈ parsedFrames,
          parsedFrame.frameType = parsedFrame.frame.frameType ∧
          parsedFrame.hasFecf = parsedFrame.frame.hasFecf ∧
          decodePacketsFromSdlpFrame parsedFrame = strictPackets parsedFrame ∧
          ∃ ps rest, parsedFrame.frame.payload.1.drop parsedFrame.frame.payload.2 =
              encodeAll ps ++ rest ∧ Incomplete rest ∧
            strictPackets parsedFrame = .ok (ps.map (⟨parsedFrame.frameType, ·⟩))) ∧
        (self.processUartBytes uartChunk).1 =
          .ok (parsedFrames.flatMap SdlpSpacePacketReceiver.packetsOfFrame) := by
  refine ⟨strictLoop_greedy, ?_⟩
  intro self uartChunk
  have hfeed := self.uartParser.feed_fst uartChunk
  have hfound : ∀ parsedFrame ∈ self.uartParser.emitted uartChunk,
      strictPackets parsedFrame = .ok (SdlpSpacePacketReceiver.packetsOfFrame parsedFrame) := by
    intro parsedFrame hmem
    obtain ⟨-, -, hsame, ps, rest, -, -, hstrict⟩ := packets_of_emitted hmem
    rw [SdlpSpacePacketReceiver.packetsOfFrame_eq (hsame.trans hstrict), hstrict]
  refine ⟨?_, self.uartParser.emitted uartChunk, hfeed, fun _ hmem => packets_of_emitted hmem, ?_⟩
  · rw [SdlpSpacePacketReceiver.processUartBytes, SdlpSpacePacketReceiver.strictProcess]
    rcases houtcome : self.uartParser.feed uartChunk with ⟨result, parser⟩
    rw [houtcome] at hfeed
    obtain rfl : result = .ok (self.uartParser.emitted uartChunk) := hfeed
    simp only [mapM_eq_ok hfound, Except.map, List.flatMap]
  · rw [SdlpSpacePacketReceiver.processUartBytes_eq, SdlpSpacePacketReceiver.packets]

end OpenSpaceEgse
