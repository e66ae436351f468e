import OpenSpaceEgse.Ccsds.SpacePacket
import OpenSpaceEgse.Ccsds.SdlpUart
import OpenSpaceEgse.PythonInt

/-!
# Sending telecommands

A `TcCommandSender` turns a command into a packet, the packet into a frame, the frame
into UART bytes, and writes these to its port.  Its two counters advance only behind a
complete write.  The port is a type with a `write`; what a write does to the port, and
what it reports, is up to the port.

`send` is split at the write: `prepare` is what comes before and does not touch the
sender, and `send_cases` is the inversion lemma from which everything about runs of
sends is derived.
-/

namespace OpenSpaceEgse

open Wire

def uint8Min : ℤ := 0
def uint8Max : ℤ := 0xFF
def uint16Max : ℤ := 0xFFFF

/-- The port of a sender: `write` may change it, and raises or reports a number of
bytes or nothing. -/
class SerialWriteLike (P : Type*) where
  write : P → Bytes → Except PyError (Option ℤ) × P

/-! ## The commands -/

inductive TcCommandName where
  | ping
  | setMode
  | resetSubsystem
  | requestStatus
deriving DecidableEq, Repr

namespace TcCommandName

/-- The value of the enumeration member. -/
def value : TcCommandName → String
  | ping => "ping"
  | setMode => "set_mode"
  | resetSubsystem => "reset_subsystem"
  | requestStatus => "request_status"

/-- The members in the order of their definition. -/
def members : List TcCommandName := [ping, setMode, resetSubsystem, requestStatus]

/-- `TcCommandName(value)`. -/
def ofValue (value : String) : Except PyError TcCommandName :=
  match members.find? (·.value = value) with
  | some name => .ok name
  | none => .error (.valueError (reprOfText value ++ " is not a valid TcCommandName"))

end TcCommandName

structure TcCommandDefinition where
  command : TcCommandName
  requiresParameter : Bool
  parameterMin : Option ℤ := none
  parameterMax : Option ℤ := none
deriving DecidableEq, Repr

/-- `_TC_COMMAND_DEFINITIONS`. -/
def tcCommandDefinitions : TcCommandName → TcCommandDefinition
  | .ping =>
      { command := .ping, requiresParameter := true, parameterMin := some 0,
        parameterMax := some uint16Max }
  | .setMode =>
      { command := .setMode, requiresParameter := true, parameterMin := some uint8Min,
        parameterMax := some uint8Max }
  | .resetSubsystem =>
      { command := .resetSubsystem, requiresParameter := true, parameterMin := some uint8Min,
        parameterMax := some uint8Max }
  | .requestStatus => { command := .requestStatus, requiresParameter := false }

/-- An argument of type `TcCommandName | str`. -/
inductive TcCommandArg where
  | name (name : TcCommandName)
  | text (text : String)
deriving DecidableEq, Repr

/-- `available_tc_commands`. -/
def availableTcCommands : List String := TcCommandName.members.map TcCommandName.value

/-- `_normalize_command_name`. -/
def normalizeCommandName : TcCommandArg → Except PyError TcCommandName
  | .name name => .ok name
  | .text command =>
      match TcCommandName.ofValue command with
      | .ok name => .ok name
      | .error (.valueError _) =>
          .error (.valueError ("Unknown TC command '" ++ command ++ "'. Available: " ++
            ", ".intercalate availableTcCommands))
      | .error e => .error e

/-- `tc_command_definition`. -/
def tcCommandDefinition (command : TcCommandArg) : Except PyError TcCommandDefinition := do
  let commandName ← normalizeCommandName command
  return tcCommandDefinitions commandName

/-- `_validate_u8`. -/
def validateU8 (value : ℤ) (name : String) : Except PyError Unit :=
  if ¬ (uint8Min ≤ value ∧ value ≤ uint8Max) then
    .error (.valueError (name ++ " must be in range 0..255"))
  else .ok ()

/-- `_validate_u16`. -/
def validateU16 (value : ℤ) (name : String) : Except PyError Unit :=
  if ¬ (uint8Min ≤ value ∧ value ≤ uint16Max) then
    .error (.valueError (name ++ " must be in range 0..65535"))
  else .ok ()

/-- The statement `assert parameter is not None`. -/
def assertNotNone : Option ℤ → Except PyError ℤ
  | some parameter => .ok parameter
  | none => .error (.assertionError "")

/-- `build_tc_command_payload`. -/
def buildTcCommandPayload (command : TcCommandArg) (parameter : Option ℤ := none) :
    Except PyError Bytes := do
  let commandName ← normalizeCommandName command
  let definition := tcCommandDefinitions commandName
  if definition.requiresParameter && parameter.isNone then
    .error (.valueError ("Command '" ++ commandName.value ++ "' requires a parameter"))
  else if !definition.requiresParameter && parameter.isSome then
    .error (.valueError ("Command '" ++ commandName.value ++ "' does not accept a parameter"))
  else
    -- the members are exhausted, so the `raise` at the end of the function has no case here
    match commandName with
    | .ping => do
        let parameter ← assertNotNone parameter
        validateU16 parameter "parameter"
        return 0x01 :: toBytes parameter.toNat 2
    | .setMode => do
        let parameter ← assertNotNone parameter
        validateU8 parameter "parameter"
        return [0x02, UInt8.ofNat parameter.toNat]
    | .resetSubsystem => do
        let parameter ← assertNotNone parameter
        validateU8 parameter "parameter"
        return [0x03, UInt8.ofNat parameter.toNat]
    | .requestStatus => return [0x04]

/-! ## The sender -/

structure TcSendConfig where
  spacecraftId : ℤ
  virtualChannelId : ℤ
  spacePacketApid : ℤ
  secondaryHeaderFlag : Bool := false
  fecf : Option Bytes := none
deriving DecidableEq, Repr

/-- The configurations with which every accepted command can be sent. -/
structure TcSendConfig.Valid (config : TcSendConfig) : Prop where
  apid : 0 ≤ config.spacePacketApid ∧ config.spacePacketApid ≤ 2047
  spacecraftId : 0 ≤ config.spacecraftId ∧ config.spacecraftId ≤ 1023
  virtualChannelId : 0 ≤ config.virtualChannelId ∧ config.virtualChannelId ≤ 63
  fecf : config.fecf = none ∨ config.fecf.map List.length = some 2

/-- A command, ready to be written. -/
structure PreparedTcCommand where
  command : TcCommandName
  parameter : Option ℤ
  commandPayload : Bytes
  spacePacket : SpacePacket
  tcTransferFrame : TcTransferFrame
  uartBytes : Bytes
deriving DecidableEq, Repr

structure SentTcCommand extends PreparedTcCommand where
  bytesWritten : ℤ
deriving DecidableEq, Repr

def maxSequenceCount : ℕ := 0x3FFF
def maxFrameSequenceNumber : ℕ := 0xFF

/-- A sender.  The counters stay in the ranges that `__init__` checks. -/
structure TcCommandSender (P : Type*) where
  serialPort : P
  config : TcSendConfig
  packetSequenceCount : ℕ
  frameSequenceNumber : ℕ
  packetSequenceCount_le : packetSequenceCount ≤ maxSequenceCount
  frameSequenceNumber_le : frameSequenceNumber ≤ maxFrameSequenceNumber

namespace TcCommandSender

variable {P : Type*}

/-- The constructor `TcCommandSender(...)`. -/
def new (serialPort : P) (config : TcSendConfig) (initialPacketSequenceCount : ℤ := 0)
    (initialFrameSequenceNumber : ℤ := 0) : Except PyError (TcCommandSender P) :=
  if hp : ¬ (0 ≤ initialPacketSequenceCount ∧ initialPacketSequenceCount ≤ maxSequenceCount) then
    .error (.valueError "initial_packet_sequence_count out of range")
  else if hf : ¬ (0 ≤ initialFrameSequenceNumber ∧
      initialFrameSequenceNumber ≤ maxFrameSequenceNumber) then
    .error (.valueError "initial_frame_sequence_number out of range")
  else
    .ok
      { serialPort := serialPort
        config := config
        packetSequenceCount := initialPacketSequenceCount.toNat
        frameSequenceNumber := initialFrameSequenceNumber.toNat
        packetSequenceCount_le := by omega
        frameSequenceNumber_le := by omega }

/-- `_increment_counters`. -/
def incrementCounters (self : TcCommandSender P) : TcCommandSender P :=
  { self with
    packetSequenceCount := (self.packetSequenceCount + 1) &&& maxSequenceCount
    frameSequenceNumber := (self.frameSequenceNumber + 1) &&& maxFrameSequenceNumber
    packetSequenceCount_le := Nat.and_le_right
    frameSequenceNumber_le := Nat.and_le_right }

/-- The part of `send` before the write. -/
def prepare (self : TcCommandSender P) (command : TcCommandArg) (parameter : Option ℤ) :
    Except PyError PreparedTcCommand := do
  let commandName ← normalizeCommandName command
  let commandPayload ← buildTcCommandPayload (.name commandName) parameter
  let spacePacket ← SpacePacket.buildTc self.config.spacePacketApid self.packetSequenceCount
    commandPayload self.config.secondaryHeaderFlag
  let tcTransferFrame ← TcTransferFrame.build self.config.spacecraftId
    self.config.virtualChannelId self.frameSequenceNumber spacePacket.encode false false
    self.config.fecf
  let uartBytes ← serializeTc tcTransferFrame
  return ⟨commandName, parameter, commandPayload, spacePacket, tcTransferFrame, uartBytes⟩

variable [SerialWriteLike P]

/-- `TcCommandSender.send`. -/
def send (self : TcCommandSender P) (command : TcCommandArg) (parameter : Option ℤ := none) :
    Except PyError SentTcCommand × TcCommandSender P :=
  match self.prepare command parameter with
  | .error e => (.error e, self)
  | .ok prepared =>
      match SerialWriteLike.write self.serialPort prepared.uartBytes with
      | (.error e, port) => (.error e, { self with serialPort := port })
      | (.ok bytesWrittenRaw, port) =>
          let self := { self with serialPort := port }
          let bytesWritten := bytesWrittenRaw.getD prepared.uartBytes.length
          if bytesWritten ≠ prepared.uartBytes.length then
            (.error (.osError "serial port write was incomplete"), self)
          else
            (.ok { prepared with bytesWritten := bytesWritten }, self.incrementCounters)

/-- One `send` after the other, with the results of all of them. -/
def sendAll (self : TcCommandSender P) : List (TcCommandArg × Option ℤ) →
    List (Except PyError SentTcCommand) × TcCommandSender P
  | [] => ([], self)
  | (command, parameter) :: calls =>
      let (result, self') := self.send command parameter
      let (results, self'') := self'.sendAll calls
      (result :: results, self'')

end TcCommandSender

/-! ## The payload of a command -/

lemma buildTcCommandPayload_of_normalize {command : TcCommandArg} {name : TcCommandName}
    (h : normalizeCommandName command = .ok name) (parameter : Option ℤ) :
    buildTcCommandPayload (.name name) parameter = buildTcCommandPayload command parameter := by
  rw [buildTcCommandPayload, buildTcCommandPayload, h]
  rfl

lemma normalize_of_buildTcCommandPayload {command : TcCommandArg} {parameter : Option ℤ}
    {payload : Bytes} (h : buildTcCommandPayload command parameter = .ok payload) :
    ∃ name, normalizeCommandName command = .ok name := by
  cases hn : normalizeCommandName command with
  | ok name => exact ⟨name, rfl⟩
  | error e =>
      rw [buildTcCommandPayload, hn] at h
      exact absurd h (by simp [bind, Except.bind])

/-- The parameters that a definition admits: none, or one within its bounds. -/
def TcCommandDefinition.Admits (definition : TcCommandDefinition) : Option ℤ → Prop
  | none => definition.requiresParameter = false
  | some v => definition.requiresParameter = true ∧
      (∀ m ∈ definition.parameterMin, m ≤ v) ∧ (∀ m ∈ definition.parameterMax, v ≤ m)

/-- The bytes of a command with an admitted parameter: its code and the parameter. -/
def TcCommandName.payload : TcCommandName → Option ℤ → Bytes
  | .ping, parameter => 0x01 :: toBytes (parameter.getD 0).toNat 2
  | .setMode, parameter => [0x02, UInt8.ofNat (parameter.getD 0).toNat]
  | .resetSubsystem, parameter => [0x03, UInt8.ofNat (parameter.getD 0).toNat]
  | .requestStatus, _ => [0x04]

lemma TcCommandName.length_payload (name : TcCommandName) (parameter : Option ℤ) :
    1 ≤ (name.payload parameter).length ∧ (name.payload parameter).length ≤ 3 := by
  cases name <;> simp [payload]

section Validate

variable {value : ℤ} {name : String} {bs payload : Bytes}

lemma validateU8_bind :
    (validateU8 value name >>= fun _ => pure bs) = .ok payload ↔
      (0 ≤ value ∧ value ≤ 255) ∧ payload = bs := by
  by_cases h : uint8Min ≤ value ∧ value ≤ uint8Max
  · rw [validateU8, if_neg (not_not.mpr h)]
    exact ⟨fun hp => ⟨h, (Except.ok.inj hp).symm⟩, fun hp => congrArg Except.ok hp.2.symm⟩
  · rw [validateU8, if_pos h]
    exact ⟨fun hp => absurd hp (by simp [bind, Except.bind]), fun hp => absurd hp.1 h⟩

lemma validateU16_bind :
    (validateU16 value name >>= fun _ => pure bs) = .ok payload ↔
      (0 ≤ value ∧ value ≤ 65535) ∧ payload = bs := by
  by_cases h : uint8Min ≤ value ∧ value ≤ uint16Max
  · rw [validateU16, if_neg (not_not.mpr h)]
    exact ⟨fun hp => ⟨h, (Except.ok.inj hp).symm⟩, fun hp => congrArg Except.ok hp.2.symm⟩
  · rw [validateU16, if_pos h]
    exact ⟨fun hp => absurd hp (by simp [bind, Except.bind]), fun hp => absurd hp.1 h⟩

end Validate

/-- A payload is built exactly for the parameters that the table of definitions
admits. -/
theorem buildTcCommandPayload_eq_ok {name : TcCommandName} {parameter : Option ℤ}
    {payload : Bytes} :
    buildTcCommandPayload (.name name) parameter = .ok payload ↔
      (tcCommandDefinitions name).Admits parameter ∧ payload = name.payload parameter := by
  cases name with
  | ping =>
      cases parameter with
      | none =>
          refine ⟨fun h => absurd h ?_, fun h => absurd h.1 ?_⟩
          · intro hc; cases hc
          · simp [TcCommandDefinition.Admits, tcCommandDefinitions]
      | some v =>
          refine validateU16_bind.trans (and_congr_left' ?_)
          simp [TcCommandDefinition.Admits, tcCommandDefinitions, uint16Max]
  | setMode =>
      cases parameter with
      | none =>
          refine ⟨fun h => absurd h ?_, fun h => absurd h.1 ?_⟩
          · intro hc; cases hc
          · simp [TcCommandDefinition.Admits, tcCommandDefinitions]
      | some v =>
          refine validateU8_bind.trans (and_congr_left' ?_)
          simp [TcCommandDefinition.Admits, tcCommandDefinitions, uint8Min, uint8Max]
  | resetSubsystem =>
      cases parameter with
      | none =>
          refine ⟨fun h => absurd h ?_, fun h => absurd h.1 ?_⟩
          · intro hc; cases hc
          · simp [TcCommandDefinition.Admits, tcCommandDefinitions]
      | some v =>
          refine validateU8_bind.trans (and_congr_left' ?_)
          simp [TcCommandDefinition.Admits, tcCommandDefinitions, uint8Min, uint8Max]
  | requestStatus =>
      cases parameter with
      | none =>
          refine ⟨fun h => ⟨rfl, (Except.ok.inj h).symm⟩, fun h => congrArg Except.ok h.2.symm⟩
      | some v =>
          refine ⟨fun h => absurd h ?_, fun h => absurd h.1 ?_⟩
          · intro hc; cases hc
          · simp [TcCommandDefinition.Admits, tcCommandDefinitions]

/-- A sender that was constructed has what it was constructed with. -/
lemma TcCommandSender.new_eq_ok {P : Type*} {port : P} {config : TcSendConfig} {p₀ f₀ : ℤ}
    {self : TcCommandSender P} (h : TcCommandSender.new port config p₀ f₀ = .ok self) :
    self.serialPort = port ∧ self.config = config ∧ (self.packetSequenceCount : ℤ) = p₀ ∧
      (self.frameSequenceNumber : ℤ) = f₀ := by
  obtain ⟨hp, h⟩ := dite_eq_ok h
  obtain ⟨hf, h⟩ := dite_eq_ok h
  cases h
  exact ⟨rfl, rfl, Int.toNat_of_nonneg (not_not.mp hp).1, Int.toNat_of_nonneg (not_not.mp hf).1⟩

/-! ## Before the write -/

/-- What a command is turned into by a sender with configuration `config` and counters
`p` and `f`. -/
structure PreparedTcCommand.For (config : TcSendConfig) (p f : ℕ) (command : TcCommandArg)
    (parameter : Option ℤ) (c : PreparedTcCommand) : Prop where
  command_eq : normalizeCommandName command = .ok c.command
  parameter_eq : c.parameter = parameter
  payload_eq : buildTcCommandPayload command parameter = .ok c.commandPayload
  packetType_eq : c.spacePacket.packetType = .telecommand
  apid_eq : (c.spacePacket.apid : ℤ) = config.spacePacketApid
  sequenceCount_eq : c.spacePacket.sequenceCount = p
  packetData_eq : c.spacePacket.dataField = c.commandPayload
  frameSequenceNumber_eq : c.tcTransferFrame.frameSequenceNumber = f
  frameData_eq : c.tcTransferFrame.dataField = c.spacePacket.encode
  fecf_eq : c.tcTransferFrame.fecf = config.fecf
  uartBytes_eq : c.uartBytes = slipEncode (SdlpFrame.tc c.tcTransferFrame).envelope

namespace TcCommandSender

variable {P : Type*} {self : TcCommandSender P} {command : TcCommandArg} {parameter : Option ℤ}

lemma serializeTc_eq (frame : TcTransferFrame) :
    serializeTc frame = .ok (slipEncode (SdlpFrame.tc frame).envelope) :=
  SdlpFrame.serialize_eq (.tc frame) (SdlpFrame.length_encode_tc frame)

lemma prepare_eq_ok {c : PreparedTcCommand} (h : self.prepare command parameter = .ok c) :
    c.For self.config self.packetSequenceCount self.frameSequenceNumber command parameter := by
  rw [prepare] at h
  obtain ⟨name, hname, h⟩ := bind_eq_ok.mp h
  obtain ⟨payload, hpayload, h⟩ := bind_eq_ok.mp h
  obtain ⟨packet, hpacket, h⟩ := bind_eq_ok.mp h
  obtain ⟨frame, hframe, h⟩ := bind_eq_ok.mp h
  rw [serializeTc_eq] at h
  cases h
  obtain ⟨hapid, htype, -, hcount, hdata, -, -⟩ := SpacePacket.new_eq_ok hpacket
  obtain ⟨-, -, hseq, hfdata, -, -, -, -, hfecf⟩ := TcTransferFrame.new_eq_ok hframe
  exact
    { command_eq := hname
      parameter_eq := rfl
      payload_eq := (buildTcCommandPayload_of_normalize hname parameter).symm.trans hpayload
      packetType_eq := htype
      apid_eq := hapid
      sequenceCount_eq := Int.ofNat.inj hcount
      packetData_eq := hdata
      frameSequenceNumber_eq := Int.ofNat.inj hseq
      frameData_eq := hfdata
      fecf_eq := hfecf
      uartBytes_eq := rfl }

/-- With a valid configuration, only the command and its parameter can be refused. -/
lemma exists_prepare (hvalid : self.config.Valid) {payload : Bytes}
    (h : buildTcCommandPayload command parameter = .ok payload) :
    ∃ c, self.prepare command parameter = .ok c := by
  obtain ⟨name, hname⟩ := normalize_of_buildTcCommandPayload h
  rw [← buildTcCommandPayload_of_normalize hname] at h
  have hlen := name.length_payload parameter
  rw [← (buildTcCommandPayload_eq_ok.mp h).2] at hlen
  have hp := self.packetSequenceCount_le
  have hf := self.frameSequenceNumber_le
  simp only [maxSequenceCount, maxFrameSequenceNumber] at hp hf
  have hbuild : ∃ packet, SpacePacket.buildTc self.config.spacePacketApid
      self.packetSequenceCount payload self.config.secondaryHeaderFlag = .ok packet :=
    SpacePacket.exists_new (by omega) hvalid.apid (by omega) (by omega) (by omega)
  obtain ⟨packet, hpacket⟩ := hbuild
  have hdata : packet.encode.length ≤ 1017 := by
    obtain ⟨-, -, -, -, hdata, -, -⟩ := SpacePacket.new_eq_ok hpacket
    rw [packet.length_encode, SpacePacket.totalLength, hdata, SpacePacket.primaryHeaderLength]
    omega
  have hbuild : ∃ frame, TcTransferFrame.build self.config.spacecraftId
      self.config.virtualChannelId self.frameSequenceNumber packet.encode false false
      self.config.fecf = .ok frame :=
    TcTransferFrame.exists_new (by omega) (by omega) hvalid.spacecraftId
      hvalid.virtualChannelId (by omega) hvalid.fecf hdata
  obtain ⟨frame, hframe⟩ := hbuild
  refine ⟨⟨name, parameter, payload, packet, frame, slipEncode (SdlpFrame.tc frame).envelope⟩, ?_⟩
  exact bind_eq_ok.mpr ⟨name, hname, bind_eq_ok.mpr ⟨payload, h, bind_eq_ok.mpr ⟨packet, hpacket,
    bind_eq_ok.mpr ⟨frame, hframe, bind_eq_ok.mpr ⟨_, serializeTc_eq frame, rfl⟩⟩⟩⟩⟩

/-! ## One send -/

lemma packetSequenceCount_increment (self : TcCommandSender P) :
    self.incrementCounters.packetSequenceCount = (self.packetSequenceCount + 1) % 2 ^ 14 :=
  land_mask maxSequenceCount 14 rfl

lemma frameSequenceNumber_increment (self : TcCommandSender P) :
    self.incrementCounters.frameSequenceNumber = (self.frameSequenceNumber + 1) % 2 ^ 8 :=
  land_mask maxFrameSequenceNumber 8 rfl

variable [SerialWriteLike P]

/-- The three ways a `send` can end: refused before the write, failed at the write, or
complete. -/
theorem send_cases (self : TcCommandSender P) (command : TcCommandArg) (parameter : Option ℤ) :
    (∃ e, self.prepare command parameter = .error e ∧
      self.send command parameter = (.error e, self)) ∨
    ∃ c, self.prepare command parameter = .ok c ∧
      ((∃ e, self.send command parameter =
          (.error e, { self with
            serialPort := (SerialWriteLike.write self.serialPort c.uartBytes).2 }) ∧
          ∀ n, (SerialWriteLike.write self.serialPort c.uartBytes).1 = .ok n →
            n.getD c.uartBytes.length ≠ c.uartBytes.length) ∨
        (self.send command parameter =
          (.ok { c with bytesWritten := c.uartBytes.length }, incrementCounters { self with
            serialPort := (SerialWriteLike.write self.serialPort c.uartBytes).2 }) ∧
          ∃ n, (SerialWriteLike.write self.serialPort c.uartBytes).1 = .ok n ∧
            n.getD c.uartBytes.length = c.uartBytes.length)) := by
  cases hprep : self.prepare command parameter with
  | error e => exact Or.inl ⟨e, rfl, by rw [send, hprep]⟩
  | ok c =>
      refine Or.inr ⟨c, rfl, ?_⟩
      generalize hw : SerialWriteLike.write self.serialPort c.uartBytes = written
      obtain ⟨result, port⟩ := written
      cases result with
      | error e =>
          refine Or.inl ⟨e, ?_, fun n hn => by cases hn⟩
          simp only [send, hprep, hw]
      | ok n =>
          by_cases hn : n.getD c.uartBytes.length = c.uartBytes.length
          · refine Or.inr ⟨?_, n, rfl, hn⟩
            simp only [send, hprep, hw, hn, ne_eq, not_true_eq_false, if_false]
          · refine Or.inl ⟨.osError "serial port write was incomplete", ?_, ?_⟩
            · simp only [send, hprep, hw, hn, ne_eq, not_false_eq_true, if_true]
            · rintro m hm
              cases hm
              exact hn

end TcCommandSender

end OpenSpaceEgse
