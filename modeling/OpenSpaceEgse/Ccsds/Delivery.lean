import OpenSpaceEgse.Ccsds.ReceiveFlow
import OpenSpaceEgse.Ccsds.SendFlow

/-!
# Delivery of telecommands

A sender on a port that transmits everything, and a receiver at the other end of the
wire: `sendAll_delivered` says that the receiver decodes exactly the packets of the
sends that returned, in order and numbered by the counters, in whatever chunks the
bytes arrive.
-/

namespace OpenSpaceEgse

open Wire

/-- A port that transmits what it is given, and reports so; `wire` is what it has
transmitted so far. -/
structure Transmits (P : Type*) [SerialWriteLike P] (wire : P → Bytes) : Prop where
  result : ∀ port data, (SerialWriteLike.write (P := P) port data).1 = .ok none ∨
    (SerialWriteLike.write (P := P) port data).1 = .ok (some data.length)
  wire_eq : ∀ port data, wire (SerialWriteLike.write port data).2 = wire port ++ data

namespace TcCommandSender

/-- The calls of a run that returned, with what they returned. -/
def accepted (calls : List (TcCommandArg × Option ℤ))
    (results : List (Except PyError SentTcCommand)) :
    List ((TcCommandArg × Option ℤ) × SentTcCommand) :=
  (calls.zip results).filterMap fun (call, result) => result.toOption.map (call, ·)

@[simp] lemma accepted_nil : accepted [] [] = [] := rfl

lemma accepted_cons_error (call : TcCommandArg × Option ℤ) (calls : List (TcCommandArg × Option ℤ))
    (e : PyError) (results : List (Except PyError SentTcCommand)) :
    accepted (call :: calls) (.error e :: results) = accepted calls results := rfl

lemma accepted_cons_ok (call : TcCommandArg × Option ℤ) (calls : List (TcCommandArg × Option ℤ))
    (sent : SentTcCommand) (results : List (Except PyError SentTcCommand)) :
    accepted (call :: calls) (.ok sent :: results) = (call, sent) :: accepted calls results := rfl

variable {P : Type*} [SerialWriteLike P] {wire : P → Bytes}

/-- On such a port, a send that raises leaves no trace, and one that returns puts its
bytes on the wire and advances the counters. -/
lemma send_transmits (hport : Transmits P wire) (self : TcCommandSender P)
    (command : TcCommandArg) (parameter : Option ℤ) :
    (∃ e, self.prepare command parameter = .error e ∧
      self.send command parameter = (.error e, self)) ∨
    ∃ sent self', self.send command parameter = (.ok sent, self') ∧
      sent.For self.config self.packetSequenceCount self.frameSequenceNumber command parameter ∧
      self'.config = self.config ∧
      wire self'.serialPort = wire self.serialPort ++ sent.uartBytes ∧
      self'.packetSequenceCount = (self.packetSequenceCount + 1) % 2 ^ 14 ∧
      self'.frameSequenceNumber = (self.frameSequenceNumber + 1) % 2 ^ 8 := by
  rcases self.send_cases command parameter with ⟨e, hprep, hsend⟩ | ⟨c, hprep, hfail | hdone⟩
  · exact Or.inl ⟨e, hprep, hsend⟩
  · -- a write that transmits everything does not fail
    obtain ⟨e, -, hne⟩ := hfail
    rcases hport.result self.serialPort c.uartBytes with hw | hw
    · exact absurd rfl (hne _ hw)
    · exact absurd rfl (hne _ hw)
  · obtain ⟨hsend, -⟩ := hdone
    exact Or.inr ⟨_, _, hsend, prepare_eq_ok hprep, rfl, hport.wire_eq _ _,
      packetSequenceCount_increment _, frameSequenceNumber_increment _⟩

/-- A run puts the bytes of the accepted calls on the wire, numbered from the counters
it started with. -/
lemma sendAll_transmits (hport : Transmits P wire) (self : TcCommandSender P)
    (calls : List (TcCommandArg × Option ℤ)) :
    wire (self.sendAll calls).2.serialPort = wire self.serialPort ++
        (accepted calls (self.sendAll calls).1).flatMap (fun a => a.2.uartBytes) ∧
      ∀ (i : ℕ) (a : (TcCommandArg × Option ℤ) × SentTcCommand),
        (accepted calls (self.sendAll calls).1)[i]? = some a →
        a.2.For self.config ((self.packetSequenceCount + i) % 2 ^ 14)
          ((self.frameSequenceNumber + i) % 2 ^ 8) a.1.1 a.1.2 := by
  induction calls generalizing self with
  | nil => exact ⟨(List.append_nil _).symm, fun i a h => by simp [sendAll] at h⟩
  | cons call calls ih =>
      obtain ⟨command, parameter⟩ := call
      rcases self.send_transmits hport command parameter with
        ⟨e, -, hsend⟩ | ⟨sent, self', hsend, hfor, hconfig, hwire, hp, hf⟩
      · simp only [sendAll, hsend, accepted_cons_error]
        exact ih self
      · obtain ⟨ihwire, ihfor⟩ := ih self'
        simp only [sendAll, hsend, accepted_cons_ok]
        constructor
        · rw [ihwire, hwire, List.flatMap_cons, List.append_assoc]
        · rintro (_ | i) a ha
          · rw [List.getElem?_cons_zero, Option.some.injEq] at ha
            subst ha
            have hp' := self.packetSequenceCount_le
            have hf' := self.frameSequenceNumber_le
            simp only [maxSequenceCount, maxFrameSequenceNumber] at hp' hf'
            rw [Nat.add_zero, Nat.add_zero, Nat.mod_eq_of_lt (by omega),
              Nat.mod_eq_of_lt (by omega)]
            exact hfor
          · -- the counters of `self'` are one further
            rw [List.getElem?_cons_succ] at ha
            have := ihfor i a ha
            rw [hconfig, hp, hf, Nat.mod_add_mod, Nat.mod_add_mod] at this
            rwa [Nat.add_right_comm, Nat.add_right_comm self.frameSequenceNumber] at this

/-- With a valid configuration, the sends that return are those of admitted commands. -/
lemma send_returns_iff (hport : Transmits P wire) {self : TcCommandSender P}
    (hvalid : self.config.Valid) (command : TcCommandArg) (parameter : Option ℤ) :
    (∃ sent, (self.send command parameter).1 = .ok sent) ↔
      ∃ payload, buildTcCommandPayload command parameter = .ok payload := by
  rcases self.send_transmits hport command parameter with
    ⟨e, hprep, hsend⟩ | ⟨sent, self', hsend, hfor, -⟩
  · rw [hsend]
    constructor
    · rintro ⟨sent, h⟩
      exact absurd h (by simp)
    · rintro ⟨payload, hpayload⟩
      obtain ⟨c, hc⟩ := exists_prepare hvalid hpayload
      rw [hprep] at hc
      exact absurd hc (by simp)
  · rw [hsend]
    exact ⟨fun _ => ⟨_, hfor.payload_eq⟩, fun _ => ⟨sent, rfl⟩⟩

end TcCommandSender

lemma flatMap_eq_map {α β : Type*} {f : α → List β} {g : α → β} {l : List α}
    (h : ∀ a ∈ l, f a = [g a]) : l.flatMap f = l.map g := by
  induction l with
  | nil => rfl
  | cons a l ih =>
      have ha : f a = [g a] := h a (by simp)
      have hl := ih fun b hb => h b (by simp [hb])
      rw [List.flatMap_cons, ha, hl]
      rfl

/-- **End-to-end delivery.**  Of a run of sends, the receiver decodes one packet for
each that returned, in order: a telecommand with the configured APID, numbered by the
packet counter, in a frame numbered by the frame counter, around the payload of its
command.  A send that raises leaves the sender and the port as they were; with a valid
configuration it raises only for the command or its parameter. -/
theorem sendAll_delivered {P : Type*} [SerialWriteLike P] {wire : P → Bytes}
    (hport : Transmits P wire) {port : P} (hempty : wire port = []) {config : TcSendConfig}
    (hvalid : config.Valid) {p₀ f₀ : ℤ} {self : TcCommandSender P}
    (hnew : TcCommandSender.new port config p₀ f₀ = .ok self)
    (calls : List (TcCommandArg × Option ℤ)) {chunks : List Bytes}
    (hchunks : chunks.flatten = wire (self.sendAll calls).2.serialPort) :
    (SdlpSpacePacketReceiver.init.processChunks chunks).1 =
        .ok ((TcCommandSender.accepted calls (self.sendAll calls).1).map
          fun a => ⟨.tc, a.2.spacePacket⟩) ∧
      (SdlpUartStreamParser.init.feedChunks chunks).1 =
        .ok ((TcCommandSender.accepted calls (self.sendAll calls).1).map
          fun a => ⟨.tc, .tc a.2.tcTransferFrame, config.fecf.isSome⟩) ∧
      (∀ (i : ℕ) (call : TcCommandArg × Option ℤ) (sent : SentTcCommand),
        (TcCommandSender.accepted calls (self.sendAll calls).1)[i]? = some (call, sent) →
          sent.spacePacket.packetType = .telecommand ∧
          (sent.spacePacket.apid : ℤ) = config.spacePacketApid ∧
          (sent.spacePacket.sequenceCount : ℤ) = (p₀ + i) % 2 ^ 14 ∧
          (sent.tcTransferFrame.frameSequenceNumber : ℤ) = (f₀ + i) % 2 ^ 8 ∧
          sent.tcTransferFrame.dataField = sent.spacePacket.encode ∧
          buildTcCommandPayload call.1 call.2 = .ok sent.spacePacket.dataField) ∧
      ∀ (s : TcCommandSender P) (command : TcCommandArg) (parameter : Option ℤ),
        (∀ e, (s.send command parameter).1 = .error e → (s.send command parameter).2 = s) ∧
        (s.config = config →
          ((∃ sent, (s.send command parameter).1 = .ok sent) ↔
            ∃ payload, buildTcCommandPayload command parameter = .ok payload)) := by
  obtain ⟨hserial, hconfig, hp, hf⟩ := TcCommandSender.new_eq_ok hnew
  obtain ⟨hwire, hfor⟩ := self.sendAll_transmits hport calls
  generalize hacc : TcCommandSender.accepted calls (self.sendAll calls).1 = delivered at *
  rw [hconfig] at hfor
  have hmem : ∀ a ∈ delivered, ∃ p f, a.2.For config p f a.1.1 a.1.2 := by
    intro a ha
    obtain ⟨i, hi⟩ := List.mem_iff_getElem?.mp ha
    exact ⟨_, _, hfor i a hi⟩
  -- on the wire: the serialised frames of the accepted sends, one behind the other
  have hstream : chunks.flatten =
      (delivered.map fun a => SdlpFrame.tc a.2.tcTransferFrame).flatMap
        fun f => slipEncode f.envelope := by
    have hbytes : delivered.map (fun a => a.2.uartBytes) =
        delivered.map (fun a => slipEncode (SdlpFrame.tc a.2.tcTransferFrame).envelope) := by
      apply List.map_congr_left
      intro a ha
      obtain ⟨p, f, h⟩ := hmem a ha
      exact h.uartBytes_eq
    rw [hchunks, hwire, hserial, hempty, List.nil_append, List.flatMap_def, hbytes,
      List.flatMap_map, List.flatMap_def]
  have hfits : ∀ f ∈ delivered.map fun a => SdlpFrame.tc a.2.tcTransferFrame,
      f.encode.length ≤ 0xFFFF := by
    intro f hf
    obtain ⟨a, -, rfl⟩ := List.mem_map.mp hf
    exact SdlpFrame.length_encode_tc _
  -- at the other end: the same frames, and one packet in each
  have hemitted := SdlpUartStreamParser.emitted_serialized _ hfits
  rw [← hstream, List.map_map] at hemitted
  have hparsed : delivered.map (SdlpFrame.parsed ∘ fun a => .tc a.2.tcTransferFrame) =
      delivered.map fun a => ⟨.tc, .tc a.2.tcTransferFrame, config.fecf.isSome⟩ := by
    apply List.map_congr_left
    intro a ha
    obtain ⟨p, f, h⟩ := hmem a ha
    rw [← h.fecf_eq]
    rfl
  have hpackets : SdlpSpacePacketReceiver.init.packets chunks.flatten =
      delivered.map fun a => ⟨.tc, a.2.spacePacket⟩ := by
    rw [SdlpSpacePacketReceiver.packets]
    show (SdlpUartStreamParser.init.emitted chunks.flatten).flatMap _ = _
    rw [hemitted, List.flatMap_map]
    apply flatMap_eq_map
    intro a ha
    obtain ⟨p, f, h⟩ := hmem a ha
    exact SdlpSpacePacketReceiver.packetsOfFrame_tc h.frameData_eq
  refine ⟨?_, ?_, ?_, ?_⟩
  · rw [SdlpSpacePacketReceiver.processChunks_eq, hpackets]
  · rw [SdlpUartStreamParser.feedChunks_eq, ← SdlpUartStreamParser.emitted_eq, hemitted, hparsed]
  · intro i call sent hi
    have h := hfor i (call, sent) hi
    refine ⟨h.packetType_eq, h.apid_eq, ?_, ?_, h.frameData_eq, ?_⟩
    · rw [h.sequenceCount_eq, ← hp]
      omega
    · rw [h.frameSequenceNumber_eq, ← hf]
      omega
    · rw [h.packetData_eq]
      exact h.payload_eq
  · intro s command parameter
    constructor
    · intro e he
      rcases s.send_transmits hport command parameter with ⟨e', -, hsend⟩ | ⟨sent, s', hsend, -⟩
      · rw [hsend]
      · rw [hsend] at he
        exact absurd he (by simp)
    · intro hs
      exact TcCommandSender.send_returns_iff hport (hs ▸ hvalid) command parameter

/-- A port that records what it transmits, and does not report how much. -/
structure RecordingPort where
  written : Bytes
deriving DecidableEq, Repr

instance : SerialWriteLike RecordingPort where
  write port data := (.ok none, ⟨port.written ++ data⟩)

lemma recordingPort_transmits : Transmits RecordingPort RecordingPort.written :=
  ⟨fun _ _ => Or.inl rfl, fun _ _ => rfl⟩

/-- A sender at the end of both counters. -/
def wrappingSender : TcCommandSender RecordingPort where
  serialPort := ⟨[]⟩
  config := { spacecraftId := 1, virtualChannelId := 0, spacePacketApid := 100 }
  packetSequenceCount := 16383
  frameSequenceNumber := 255
  packetSequenceCount_le := by decide
  frameSequenceNumber_le := by decide

/-- Two commands and, between them, one without its parameter. -/
def threeCalls : List (TcCommandArg × Option ℤ) :=
  [(.name .ping, some 0xC0DB), (.text "set_mode", none), (.text "request_status", none)]

theorem sendAll_delivered_threeCalls :
    (SdlpSpacePacketReceiver.init.processChunks
        [(wrappingSender.sendAll threeCalls).2.serialPort.written]).1 =
      .ok ((TcCommandSender.accepted threeCalls (wrappingSender.sendAll threeCalls).1).map
        fun a => ⟨.tc, a.2.spacePacket⟩) ∧
    (TcCommandSender.accepted threeCalls (wrappingSender.sendAll threeCalls).1).map
      (fun a => a.2.spacePacket.sequenceCount) = [16383, 0] := by
  have hvalid : wrappingSender.config.Valid :=
    ⟨by decide, by decide, by decide, Or.inl rfl⟩
  have hnew : TcCommandSender.new ⟨[]⟩ wrappingSender.config 16383 255 = .ok wrappingSender := rfl
  have hchunks : [(wrappingSender.sendAll threeCalls).2.serialPort.written].flatten =
      (wrappingSender.sendAll threeCalls).2.serialPort.written := List.append_nil _
  have hdelivered := sendAll_delivered recordingPort_transmits rfl hvalid hnew threeCalls hchunks
  exact ⟨hdelivered.1, by decide⟩

end OpenSpaceEgse
