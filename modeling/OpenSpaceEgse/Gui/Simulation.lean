import OpenSpaceEgse.Gui.App

/-!
# Simulated telemetry

What one call of `_inject_simulated_telemetry` does: it builds a packet from its
counter, sends it to the receiver in a frame of its own, and hands on what comes back.

To hand on a telemetry packet may raise, since the log names the APID that was expected
instead of its own, and not every number that a text field holds can be written.  Behind
an injection it cannot: the number is an APID then.
-/

namespace OpenSpaceEgse

open Wire

namespace EgseGuiApp

/-! ## Handling packets -/

/-- The application behind a packet. -/
def afterPacket (self : EgseGuiApp) (decodedPacket : DecodedSpacePacket) : EgseGuiApp :=
  (self.handleDecodedPacket decodedPacket).2

/-- A packet is ignored, or it adds a sample. -/
lemma afterPacket_cases (self : EgseGuiApp) (decodedPacket : DecodedSpacePacket) :
    self.afterPacket decodedPacket = self ∨
      ∃ sample, self.afterPacket decodedPacket = self.addSample sample := by
  simp only [afterPacket, handleDecodedPacket]
  split_ifs
  · exact Or.inl rfl
  · exact Or.inl rfl
  · split
    · exact Or.inl rfl
    · exact Or.inr ⟨_, rfl⟩

/-- What samples do not touch is not touched by handling packets. -/
lemma foldl_afterPacket {α : Type} {f : EgseGuiApp → α}
    (hf : ∀ self sample, f (addSample self sample) = f self) (self : EgseGuiApp)
    (decodedPackets : List DecodedSpacePacket) :
    f (decodedPackets.foldl afterPacket self) = f self := by
  induction decodedPackets generalizing self with
  | nil => rfl
  | cons decodedPacket decodedPackets ih =>
      rw [List.foldl_cons, ih]
      rcases self.afterPacket_cases decodedPacket with h | ⟨sample, h⟩
      · rw [h]
      · rw [h, hf]

/-- Handling the packet raises. -/
def raisesOn (self : EgseGuiApp) (decodedPacket : DecodedSpacePacket) : Bool :=
  decide (decodedPacket.spacePacket.packetType = .telemetry ∧ ¬ Writable self.telemetryApid)

lemma telemetryApid_of_eq_ok {self : EgseGuiApp} {n : ℤ} (h : intOfText self.tmApidVar = .ok n) :
    self.telemetryApid = n := by
  rw [telemetryApid, h]

lemma writable_apid (packet : SpacePacket) : Writable packet.apid := by
  have hle := packet.apid_le
  exact writable_of_lt (by omega)

/-- Handling a packet returns, or it raises and has changed nothing. -/
lemma handleDecodedPacket_cases (self : EgseGuiApp) (decodedPacket : DecodedSpacePacket) :
    (self.raisesOn decodedPacket = false ∧
        self.handleDecodedPacket decodedPacket = (.ok (), self.afterPacket decodedPacket)) ∨
      self.raisesOn decodedPacket = true ∧
        ∃ msg, self.handleDecodedPacket decodedPacket = (.error (.valueError msg), self) := by
  simp only [raisesOn, afterPacket, handleDecodedPacket, decide_eq_true_eq, decide_eq_false_iff_not]
  by_cases htype : decodedPacket.spacePacket.packetType = .telemetry
  · rw [if_neg (not_not.mpr htype)]
    by_cases hapid : (decodedPacket.spacePacket.apid : ℤ) = self.telemetryApid
    · -- an APID is short enough
      have hwritable : Writable self.telemetryApid := hapid ▸ writable_apid _
      rw [if_neg (not_not.mpr hapid)]
      refine Or.inl ⟨fun h => h.2 hwritable, ?_⟩
      split <;> rfl
    · rw [if_pos hapid]
      by_cases hwritable : Writable self.telemetryApid
      · rw [strOfInt_of_writable hwritable]
        exact Or.inl ⟨fun h => h.2 hwritable, rfl⟩
      · obtain ⟨msg, hmsg⟩ := strOfInt_of_not_writable hwritable
        rw [hmsg]
        exact Or.inr ⟨⟨htype, hwritable⟩, msg, rfl⟩
  · rw [if_pos htype]
    exact Or.inl ⟨fun h => htype h.1, rfl⟩

/-- What is handled next raises under the same condition. -/
lemma raisesOn_afterPacket (self : EgseGuiApp) (decodedPacket : DecodedSpacePacket) :
    (self.afterPacket decodedPacket).raisesOn = self.raisesOn := by
  rcases self.afterPacket_cases decodedPacket with h | ⟨sample, h⟩
  · rw [h]
  · rw [h]
    rfl

lemma raisesOn_of_writable {self : EgseGuiApp} (h : Writable self.telemetryApid)
    (decodedPacket : DecodedSpacePacket) : self.raisesOn decodedPacket = false :=
  decide_eq_false fun hraises => hraises.2 h

/-- As long as the number can be written, all packets are handled. -/
lemma handleDecodedPackets_of_writable {self : EgseGuiApp} (h : Writable self.telemetryApid)
    (decodedPackets : List DecodedSpacePacket) :
    self.handleDecodedPackets decodedPackets =
      (.ok (), decodedPackets.foldl afterPacket self) := by
  induction decodedPackets generalizing self with
  | nil => rfl
  | cons decodedPacket decodedPackets ih =>
      have hnext : Writable (self.afterPacket decodedPacket).telemetryApid := by
        rcases self.afterPacket_cases decodedPacket with hsame | ⟨sample, hsample⟩
        · rwa [hsame]
        · rwa [hsample]
      rw [handleDecodedPackets, List.foldl_cons]
      rcases self.handleDecodedPacket_cases decodedPacket with ⟨-, hok⟩ | ⟨hraises, -⟩
      · rw [hok]
        exact ih hnext
      · rw [raisesOn_of_writable h] at hraises
        exact absurd hraises (by simp)

/-! ## An injection -/

lemma length_buildSimulatedTelemetryPayload (self : EgseGuiApp) :
    self.buildSimulatedTelemetryPayload.length = 7 := by
  simp only [buildSimulatedTelemetryPayload, toBytesSigned, List.length_append, length_toBytes]

/-- The packet of an injection is a telemetry packet of 13 bytes with the payload. -/
lemma simulatedPacket_eq_ok {self : EgseGuiApp} {tmApid : ℤ} {packet : SpacePacket}
    (h : self.simulatedPacket tmApid = .ok packet) :
    (packet.apid : ℤ) = tmApid ∧ packet.packetType = .telemetry ∧
      packet.dataField = self.buildSimulatedTelemetryPayload ∧ packet.encode.length = 13 := by
  rw [simulatedPacket, SpacePacket.buildTm] at h
  obtain ⟨hapid, htype, -, -, hdata, -⟩ := SpacePacket.new_eq_ok h
  refine ⟨hapid, htype, hdata, ?_⟩
  rw [packet.length_encode, SpacePacket.totalLength, hdata, length_buildSimulatedTelemetryPayload]
  rfl

/-- The stream of an injection is a frame around a packet of 13 bytes, to which it
points. -/
lemma simulatedStream_eq_ok {self : EgseGuiApp} {tmApid spacecraftId virtualChannelId : ℤ}
    {uartStream : Bytes}
    (h : self.simulatedStream tmApid spacecraftId virtualChannelId = .ok uartStream) :
    ∃ packet frame, self.simulatedPacket tmApid = .ok packet ∧ packet.encode.length = 13 ∧
      frame.dataField = packet.encode ∧ frame.firstHeaderPointer = 0 ∧
      (SdlpFrame.tm frame).encode.length ≤ 0xFFFF ∧
      uartStream = slipEncode (SdlpFrame.tm frame).envelope := by
  obtain ⟨packet, hpacket, h⟩ := bind_eq_ok.mp h
  obtain ⟨frame, hframe, h⟩ := bind_eq_ok.mp h
  obtain ⟨-, -, -, hlen⟩ := simulatedPacket_eq_ok hpacket
  obtain ⟨⟨-, -, -, -, hpointer, -⟩, hfield, -⟩ := TmTransferFrame.new_eq_ok hframe
  have hfits : (SdlpFrame.tm frame).encode.length ≤ 0xFFFF :=
    SdlpFrame.length_encode_tm (by rw [hfield, hlen]; decide)
  have hser := SdlpFrame.serialize_eq (.tm frame) hfits
  refine ⟨packet, frame, hpacket, hlen, hfield, ?_, hfits, ?_⟩
  · exact_mod_cast hpointer
  · exact Except.ok.inj (h.symm.trans hser)

/-- The numbers in the text fields that the constructors of the packet and of the frame
accept. -/
def InRange (tmApid spacecraftId virtualChannelId : ℤ) : Prop :=
  (0 ≤ tmApid ∧ tmApid ≤ 0x07FF) ∧ (0 ≤ spacecraftId ∧ spacecraftId ≤ 0x03FF) ∧
    0 ≤ virtualChannelId ∧ virtualChannelId ≤ 0x07

instance (tmApid spacecraftId virtualChannelId : ℤ) :
    Decidable (InRange tmApid spacecraftId virtualChannelId) :=
  inferInstanceAs (Decidable (_ ∧ _))

/-- The counters of the simulation fit the fields that they are written to. -/
def CountersFit (self : EgseGuiApp) : Prop :=
  self.simTmPacketSequence ≤ 0x3FFF ∧ self.simTmFrameCount ≤ 0xFF

/-- Nothing but a number out of range keeps an injection from building its stream. -/
lemma exists_simulatedStream_iff {self : EgseGuiApp} (hfit : self.CountersFit)
    {tmApid spacecraftId virtualChannelId : ℤ} :
    (∃ uartStream, self.simulatedStream tmApid spacecraftId virtualChannelId = .ok uartStream) ↔
      InRange tmApid spacecraftId virtualChannelId := by
  obtain ⟨hsequence, hcount⟩ := hfit
  constructor
  · rintro ⟨uartStream, h⟩
    obtain ⟨packet, hpacket, h⟩ := bind_eq_ok.mp h
    obtain ⟨frame, hframe, -⟩ := bind_eq_ok.mp h
    obtain ⟨hapid, -⟩ := simulatedPacket_eq_ok hpacket
    obtain ⟨⟨hscid, hvcid, -⟩, -⟩ := TmTransferFrame.new_eq_ok hframe
    have ha := packet.apid_le
    have hs := frame.spacecraftId_le
    have hv := frame.virtualChannelId_le
    refine ⟨?_, ?_, ?_⟩ <;> omega
  · rintro ⟨ha, hs, hv⟩
    have hlength := self.length_buildSimulatedTelemetryPayload
    obtain ⟨packet, hpacket⟩ : ∃ packet, self.simulatedPacket tmApid = .ok packet := by
      rw [simulatedPacket, SpacePacket.buildTm]
      exact SpacePacket.exists_new (by decide) ha (by omega) (by omega) (by omega)
    obtain ⟨frame, hframe⟩ : ∃ frame, TmTransferFrame.build spacecraftId virtualChannelId
        self.simTmFrameCount self.simTmFrameCount packet.encode 0 = .ok frame := by
      rw [TmTransferFrame.build]
      exact TmTransferFrame.exists_new (by decide) hs hv (by omega) (by omega) (by decide)
        (by decide) (by simp) (by simp) (Or.inl rfl)
    -- the packet is short, so the frame fits the length field of its envelope
    obtain ⟨-, -, -, hlen⟩ := simulatedPacket_eq_ok hpacket
    have hfield : frame.dataField = packet.encode := (TmTransferFrame.new_eq_ok hframe).2.1
    have hfits : (SdlpFrame.tm frame).encode.length ≤ 0xFFFF :=
      SdlpFrame.length_encode_tm (by rw [hfield, hlen]; decide)
    exact ⟨_, bind_eq_ok.mpr ⟨packet, hpacket, bind_eq_ok.mpr ⟨frame, hframe,
      SdlpFrame.serialize_eq (.tm frame) hfits⟩⟩⟩

/-- An injection touches the receiver before it hands anything on. -/
lemma exists_feedSimulated_snd (self : EgseGuiApp) :
    ∃ receiver, self.feedSimulated.2 = { self with receiver := receiver } := by
  rw [feedSimulated]
  split
  · exact ⟨self.receiver, rfl⟩
  · exact ⟨self.receiver, rfl⟩
  · split
    · exact ⟨self.receiver, rfl⟩
    · split <;> exact ⟨_, rfl⟩

/-- An injection that succeeds returns what the receiver was reading, if it is a frame,
and then its own packet; the receiver is left behind an `END`. -/
theorem feedSimulated_eq_ok {self : EgseGuiApp} {decodedPackets : List DecodedSpacePacket}
    (h : self.feedSimulated.1 = .ok (some decodedPackets)) :
    ∃ tmApid packet, intOfText self.tmApidVar = .ok tmApid ∧
      self.simulatedPacket tmApid = .ok packet ∧ packet.encode.length = 13 ∧
      decodedPackets = self.receiver.packets [slipEnd] ++ [⟨.tm, packet⟩] ∧
      self.feedSimulated.2 = { self with receiver := ⟨SdlpUartStreamParser.clean⟩ } := by
  rw [feedSimulated] at h ⊢
  cases hfields : self.simulationFields with
  | error e =>
      rw [hfields] at h
      cases e <;> exact absurd h (by simp)
  | ok fields =>
      obtain ⟨tmApid, spacecraftId, virtualChannelId⟩ := fields
      obtain ⟨apid, hapid, hrest⟩ := bind_eq_ok.mp hfields
      obtain ⟨scid, -, hrest⟩ := bind_eq_ok.mp hrest
      obtain ⟨vcid, -, hrest⟩ := bind_eq_ok.mp hrest
      obtain ⟨rfl, -⟩ := Prod.mk.inj (Except.ok.inj hrest)
      simp only [hfields] at h ⊢
      cases hstream : self.simulatedStream apid spacecraftId virtualChannelId with
      | error e =>
          rw [hstream] at h
          exact absurd h (by simp)
      | ok uartStream =>
          obtain ⟨packet, frame, hpacket, hlen, hdata, hpointer, hfits, rfl⟩ :=
            simulatedStream_eq_ok hstream
          simp only [hstream, SdlpSpacePacketReceiver.processUartBytes_eq, Except.ok.injEq,
            Option.some.injEq] at h ⊢
          refine ⟨apid, packet, hapid, hpacket, hlen, ?_, ?_⟩
          · rw [← h, self.receiver.packets_slipEncode hfits,
              SdlpSpacePacketReceiver.packetsOfFrame_tm_single hdata hpointer]
          · rw [slipEncode_eq, SdlpSpacePacketReceiver.after_concat_end]

/-- An injection whose text fields are numbers within their ranges succeeds: behind what the
receiver was reading it returns a telemetry packet with the APID of the text field and the
payload that was built. -/
theorem feedSimulated_of_inRange {self : EgseGuiApp} (hfit : self.CountersFit)
    {tmApid spacecraftId virtualChannelId : ℤ}
    (hfields : self.simulationFields = .ok (tmApid, spacecraftId, virtualChannelId))
    (hrange : InRange tmApid spacecraftId virtualChannelId) :
    ∃ packet : SpacePacket, intOfText self.tmApidVar = .ok (packet.apid : ℤ) ∧
      packet.packetType = .telemetry ∧
      packet.dataField = self.buildSimulatedTelemetryPayload ∧
      self.feedSimulated = (.ok (some (self.receiver.packets [slipEnd] ++ [⟨.tm, packet⟩])),
        { self with receiver := ⟨SdlpUartStreamParser.clean⟩ }) := by
  obtain ⟨uartStream, hstream⟩ := (exists_simulatedStream_iff hfit).mpr hrange
  have hok : self.feedSimulated.1 = .ok (some (self.receiver.packets uartStream)) := by
    rw [feedSimulated, hfields]
    simp only [hstream, SdlpSpacePacketReceiver.processUartBytes_eq]
  obtain ⟨tmApid', packet, hapid', hpacket, -, hdecoded, hstate⟩ := feedSimulated_eq_ok hok
  obtain ⟨hapid, htype, hdata, -⟩ := simulatedPacket_eq_ok hpacket
  rw [hdecoded] at hok
  exact ⟨packet, hapid ▸ hapid', htype, hdata, Prod.ext hok hstate⟩

/-- Behind a stream that was built, the packets that come back are all handled. -/
lemma handleDecodedPackets_of_feedSimulated {self self' : EgseGuiApp}
    {decodedPackets : List DecodedSpacePacket}
    (h : self.feedSimulated = (.ok (some decodedPackets), self')) :
    self'.handleDecodedPackets decodedPackets =
      (.ok (), decodedPackets.foldl afterPacket self') := by
  obtain ⟨tmApid, packet, htext, hpacket, -, -, hstate⟩ :=
    feedSimulated_eq_ok (congrArg Prod.fst h)
  obtain ⟨hapid, -⟩ := simulatedPacket_eq_ok hpacket
  obtain rfl : self' = { self with receiver := ⟨SdlpUartStreamParser.clean⟩ } :=
    (congrArg Prod.snd h).symm.trans hstate
  have htelemetry : telemetryApid { self with receiver := ⟨SdlpUartStreamParser.clean⟩ } = tmApid :=
    telemetryApid_of_eq_ok htext
  refine handleDecodedPackets_of_writable ?_ decodedPackets
  rw [htelemetry, ← hapid]
  exact writable_apid packet

lemma receiver_injectSimulatedTelemetry {self : EgseGuiApp}
    {decodedPackets : List DecodedSpacePacket}
    (h : self.feedSimulated.1 = .ok (some decodedPackets)) :
    self.injectSimulatedTelemetry.2.receiver = ⟨SdlpUartStreamParser.clean⟩ := by
  obtain ⟨tmApid, packet, -, -, -, -, hstate⟩ := feedSimulated_eq_ok h
  rw [injectSimulatedTelemetry]
  rcases hfeed : self.feedSimulated with ⟨result, self'⟩
  rw [hfeed] at h hstate
  cases h
  simp only at hstate
  simp only [handleDecodedPackets_of_feedSimulated hfeed]
  rw [foldl_afterPacket (f := receiver) fun _ _ => rfl, hstate]

end EgseGuiApp

end OpenSpaceEgse
