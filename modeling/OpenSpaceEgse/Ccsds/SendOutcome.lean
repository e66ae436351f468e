import OpenSpaceEgse.Ccsds.SendFlow
import OpenSpaceEgse.Ccsds.StreamParser

/-!
# What one send does

An `AnsweringPort` is a port of any behaviour: what `write` answers may depend on all that
was written before.  It keeps the record of the writes.  `send_atomic` says what becomes of
the counters and of the record in one `send`, whichever way it ends.
-/

namespace OpenSpaceEgse

open Wire

structure AnsweringPort where
  answer : List Bytes → Bytes → Except PyError (Option ℤ)
  writes : List Bytes

instance : SerialWriteLike AnsweringPort where
  write port data := (port.answer port.writes data, { port with writes := port.writes ++ [data] })

/-! ## What can be refused before the write -/

lemma normalizeCommandName_raises (command : TcCommandArg) :
    OnlyValueErrors (normalizeCommandName command) := by
  cases command with
  | name name => exact .ok name
  | text text =>
      rw [normalizeCommandName, TcCommandName.ofValue]
      cases TcCommandName.members.find? (·.value = text) with
      | some name => exact .ok name
      | none => exact .valueError _

lemma validateU8_raises (value : ℤ) (name : String) :
    OnlyValueErrors (validateU8 value name) := by
  rw [validateU8]
  exact .ite (.valueError _) (.ok _)

lemma validateU16_raises (value : ℤ) (name : String) :
    OnlyValueErrors (validateU16 value name) := by
  rw [validateU16]
  exact .ite (.valueError _) (.ok _)

/-- The assertions of the encoder hold, since the parameter was looked for before. -/
lemma buildTcCommandPayload_raises (name : TcCommandName) (parameter : Option ℤ) :
    OnlyValueErrors (buildTcCommandPayload (.name name) parameter) := by
  cases parameter with
  | none =>
      cases name with
      | requestStatus => exact .ok _
      | ping => exact .valueError _
      | setMode => exact .valueError _
      | resetSubsystem => exact .valueError _
  | some v =>
      cases name with
      | requestStatus => exact .valueError _
      | ping =>
          show OnlyValueErrors
            (validateU16 v "parameter" >>= fun _ => pure (0x01 :: toBytes v.toNat 2))
          exact .bind (validateU16_raises v _) fun _ => .ok _
      | setMode =>
          show OnlyValueErrors
            (validateU8 v "parameter" >>= fun _ => pure [0x02, UInt8.ofNat v.toNat])
          exact .bind (validateU8_raises v _) fun _ => .ok _
      | resetSubsystem =>
          show OnlyValueErrors
            (validateU8 v "parameter" >>= fun _ => pure [0x03, UInt8.ofNat v.toNat])
          exact .bind (validateU8_raises v _) fun _ => .ok _

lemma SpacePacket.new_raises {apid sequenceCount version : ℤ} {packetType : PacketType}
    {sequenceFlags : SequenceFlags} {dataField : Bytes} {secondaryHeaderFlag : Bool} :
    OnlyValueErrors (SpacePacket.new apid packetType sequenceFlags sequenceCount dataField
      secondaryHeaderFlag version) := by
  rw [SpacePacket.new]
  exact .check fun _ => .check fun _ => .check fun _ => .check fun _ => .check fun _ => .ok _

lemma TcTransferFrame.new_raises {spacecraftId virtualChannelId frameSequenceNumber version
    reserved : ℤ} {dataField : Bytes} {bypassFlag controlCommandFlag : Bool} {fecf : Option Bytes} :
    OnlyValueErrors (TcTransferFrame.new spacecraftId virtualChannelId frameSequenceNumber
      dataField bypassFlag controlCommandFlag version reserved fecf) := by
  rw [TcTransferFrame.new]
  exact .check fun _ => .check fun _ => .check fun _ => .check fun _ => .check fun _ =>
    .check fun _ => .check fun _ => .ok _

namespace TcCommandSender

lemma prepare_raises {P : Type*} (self : TcCommandSender P) (command : TcCommandArg)
    (parameter : Option ℤ) : OnlyValueErrors (self.prepare command parameter) := by
  rw [prepare]
  refine .bind (normalizeCommandName_raises command) fun name => ?_
  refine .bind (buildTcCommandPayload_raises name parameter) fun payload => ?_
  refine .bind SpacePacket.new_raises fun packet => ?_
  refine .bind TcTransferFrame.new_raises fun frame => ?_
  rw [serializeTc_eq]
  exact .ok _

variable (self : TcCommandSender AnsweringPort) (command : TcCommandArg) (parameter : Option ℤ)

/-- A send that was prepared writes, and the answer of the port decides. -/
lemma send_of_prepare {c : PreparedTcCommand} (h : self.prepare command parameter = .ok c) :
    (self.send command parameter).2.serialPort.writes = self.serialPort.writes ++ [c.uartBytes] ∧
      ((∃ e, (self.send command parameter).1 = .error e ∧
          (self.send command parameter).2.packetSequenceCount = self.packetSequenceCount ∧
          (self.send command parameter).2.frameSequenceNumber = self.frameSequenceNumber ∧
          (self.serialPort.answer self.serialPort.writes c.uartBytes = .error e ∨
            ∃ n : ℤ, self.serialPort.answer self.serialPort.writes c.uartBytes = .ok (some n) ∧
              n ≠ c.uartBytes.length ∧ e = .osError "serial port write was incomplete")) ∨
        (self.send command parameter).1 = .ok { c with bytesWritten := c.uartBytes.length } ∧
        (self.send command parameter).2.packetSequenceCount =
          (self.packetSequenceCount + 1) % 2 ^ 14 ∧
        (self.send command parameter).2.frameSequenceNumber =
          (self.frameSequenceNumber + 1) % 2 ^ 8) := by
  rw [send, h]
  simp only [SerialWriteLike.write]
  cases hanswer : self.serialPort.answer self.serialPort.writes c.uartBytes with
  | error e => exact ⟨rfl, Or.inl ⟨e, rfl, rfl, rfl, Or.inl rfl⟩⟩
  | ok n =>
      by_cases hn : n.getD c.uartBytes.length = c.uartBytes.length
      · simp only [hn, ne_eq, not_true_eq_false, if_false]
        exact ⟨rfl, Or.inr
          ⟨trivial, packetSequenceCount_increment _, frameSequenceNumber_increment _⟩⟩
      · simp only [hn, ne_eq, not_false_eq_true, if_true]
        refine ⟨trivial, Or.inl ⟨_, rfl, trivial, trivial, Or.inr ?_⟩⟩
        cases n with
        | none => exact absurd rfl hn
        | some n => exact ⟨n, rfl, hn, rfl⟩

/-- A send is refused before it writes exactly if it cannot be prepared. -/
lemma refused_iff :
    (∃ e, (self.send command parameter).1 = .error e ∧
      (self.send command parameter).2.serialPort.writes = self.serialPort.writes) ↔
      ∃ e, self.prepare command parameter = .error e := by
  cases hprep : self.prepare command parameter with
  | error e => exact ⟨fun _ => ⟨e, rfl⟩, fun _ => ⟨e, by rw [send, hprep], by rw [send, hprep]⟩⟩
  | ok c =>
      obtain ⟨hwrites, -⟩ := self.send_of_prepare command parameter hprep
      constructor
      · rintro ⟨e, -, hsame⟩
        rw [hwrites] at hsame
        exact absurd hsame (by simp)
      · rintro ⟨e, he⟩
        exact absurd he (by simp)

/-- The commands with a payload are those of the table, with a parameter that it
admits. -/
lemma exists_payload_iff :
    (∃ payload, buildTcCommandPayload command parameter = .ok payload) ↔
      ∃ definition, tcCommandDefinition command = .ok definition ∧
        definition.Admits parameter := by
  constructor
  · rintro ⟨payload, h⟩
    obtain ⟨name, hname⟩ := normalize_of_buildTcCommandPayload h
    rw [← buildTcCommandPayload_of_normalize hname] at h
    refine ⟨tcCommandDefinitions name, ?_, (buildTcCommandPayload_eq_ok.mp h).1⟩
    rw [tcCommandDefinition, hname]
    rfl
  · rintro ⟨definition, hdefinition, hadmits⟩
    obtain ⟨name, hname, hname'⟩ := bind_eq_ok.mp hdefinition
    cases hname'
    refine ⟨name.payload parameter, ?_⟩
    rw [← buildTcCommandPayload_of_normalize hname]
    exact buildTcCommandPayload_eq_ok.mpr ⟨hadmits, rfl⟩

/-- **One send is atomic.**  A send that raises leaves the counters as they were: it was
refused by a validator and did not write, or it wrote once and the port is to blame.  A
send that returns wrote the bytes it reports, once and completely, and advanced the
counters; the bytes are those of the frame, the frame carries the packet, and the packet
the payload of the command.  With a valid configuration, a send is refused if and only if
its command is unknown or its parameter is none that the table of definitions admits. -/
theorem send_atomic :
    (∀ e, (self.send command parameter).1 = .error e →
      (self.send command parameter).2.packetSequenceCount = self.packetSequenceCount ∧
      (self.send command parameter).2.frameSequenceNumber = self.frameSequenceNumber ∧
      (((self.send command parameter).2.serialPort.writes = self.serialPort.writes ∧
          self.prepare command parameter = .error e ∧ IsValueError e) ∨
        ∃ c, self.prepare command parameter = .ok c ∧
          (self.send command parameter).2.serialPort.writes =
            self.serialPort.writes ++ [c.uartBytes] ∧
          (self.serialPort.answer self.serialPort.writes c.uartBytes = .error e ∨
            ∃ n : ℤ, self.serialPort.answer self.serialPort.writes c.uartBytes = .ok (some n) ∧
              n ≠ c.uartBytes.length ∧ e = .osError "serial port write was incomplete"))) ∧
    (∀ sent, (self.send command parameter).1 = .ok sent →
      (self.send command parameter).2.serialPort.writes =
        self.serialPort.writes ++ [sent.uartBytes] ∧
      sent.bytesWritten = sent.uartBytes.length ∧
      (self.send command parameter).2.packetSequenceCount =
        (self.packetSequenceCount + 1) % 2 ^ 14 ∧
      (self.send command parameter).2.frameSequenceNumber =
        (self.frameSequenceNumber + 1) % 2 ^ 8 ∧
      (SdlpUartStreamParser.init.feed sent.uartBytes).1 =
        .ok [⟨.tc, .tc sent.tcTransferFrame, sent.tcTransferFrame.fecf.isSome⟩] ∧
      SpacePacket.decode sent.tcTransferFrame.dataField = .ok sent.spacePacket ∧
      sent.toPreparedTcCommand.For self.config self.packetSequenceCount self.frameSequenceNumber
        command parameter) ∧
    (self.config.Valid →
      ((∃ e, (self.send command parameter).1 = .error e ∧
          (self.send command parameter).2.serialPort.writes = self.serialPort.writes) ↔
        ¬ ∃ definition, tcCommandDefinition command = .ok definition ∧
          definition.Admits parameter)) := by
  refine ⟨?_, ?_, ?_⟩
  · intro e he
    cases hprep : self.prepare command parameter with
    | error e' =>
        rw [send, hprep] at he ⊢
        cases he
        exact ⟨rfl, rfl, Or.inl ⟨rfl, rfl, self.prepare_raises command parameter _ hprep⟩⟩
    | ok c =>
        obtain ⟨hwrites, ⟨e', he', hp, hf, hport⟩ | ⟨hok, -⟩⟩ :=
          self.send_of_prepare command parameter hprep
        · rw [he'] at he
          cases he
          exact ⟨hp, hf, Or.inr ⟨c, rfl, hwrites, hport⟩⟩
        · rw [hok] at he
          exact absurd he (by simp)
  · intro sent hsent
    cases hprep : self.prepare command parameter with
    | error e =>
        rw [send, hprep] at hsent
        exact absurd hsent (by simp)
    | ok c =>
        obtain ⟨hwrites, ⟨e, he, -⟩ | ⟨hok, hp, hf⟩⟩ :=
          self.send_of_prepare command parameter hprep
        · rw [he] at hsent
          exact absurd hsent (by simp)
        · rw [hok] at hsent
          cases hsent
          have hfor := prepare_eq_ok hprep
          refine ⟨hwrites, rfl, hp, hf, ?_, ?_, hfor⟩
          · -- the bytes are the serialised frame, and nothing else
            have hemitted := SdlpUartStreamParser.emitted_serialized [.tc c.tcTransferFrame]
              (by simp [SdlpFrame.length_encode_tc])
            rw [List.flatMap_singleton, ← hfor.uartBytes_eq] at hemitted
            rw [SdlpUartStreamParser.feed_fst, hemitted]
            rfl
          · rw [hfor.frameData_eq, SpacePacket.decode_encode]
  · intro hvalid
    rw [refused_iff, ← exists_payload_iff]
    constructor
    · rintro ⟨e, he⟩ ⟨payload, hpayload⟩
      obtain ⟨c, hc⟩ := exists_prepare hvalid hpayload
      rw [he] at hc
      exact absurd hc (by simp)
    · intro hnone
      cases hprep : self.prepare command parameter with
      | error e => exact ⟨e, rfl⟩
      | ok c => exact absurd ⟨_, (prepare_eq_ok hprep).payload_eq⟩ hnone

end TcCommandSender

end OpenSpaceEgse
