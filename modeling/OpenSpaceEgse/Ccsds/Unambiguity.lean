import OpenSpaceEgse.Ccsds.SendFlow
import OpenSpaceEgse.Ccsds.StreamParser
import Mathlib.Data.List.Forall2

/-!
# What the line says

Two senders may be configured in any way and have any counters.  If they put the same bytes
on the line, then they have sent the same commands with the same parameters, from the same
configurations and with the same counters, `line_unambiguous`: nothing of a command is lost
on its way to the line, and no two sequences of commands are mistaken for each other.

The frames are found again by the parser (`emitted_serialized`), each of the inner formats
has a decoder that undoes it, and the payloads of the four commands differ.
-/

namespace OpenSpaceEgse

open Wire

/-! ## The payloads -/

namespace TcCommandDefinition

variable {definition : TcCommandDefinition} {parameter : Option ℤ}

/-- An admitted parameter, where the definition bounds it. -/
lemma Admits.exists_of_bounds {lo hi : ℤ} (h : definition.Admits parameter)
    (hrequires : definition.requiresParameter = true) (hlo : definition.parameterMin = some lo)
    (hhi : definition.parameterMax = some hi) : ∃ v, parameter = some v ∧ lo ≤ v ∧ v ≤ hi := by
  cases parameter with
  | none => exact absurd (hrequires.symm.trans h) (by decide)
  | some v => exact ⟨v, rfl, h.2.1 lo hlo, h.2.2 hi hhi⟩

lemma Admits.eq_none (h : definition.Admits parameter)
    (hrequires : definition.requiresParameter = false) : parameter = none := by
  cases parameter with
  | none => rfl
  | some v => exact absurd (hrequires.symm.trans h.1) (by decide)

end TcCommandDefinition

section Payload

variable {name name' : TcCommandName} {parameter parameter' : Option ℤ}

lemma eq_of_byte {v v' : ℤ} (hv : 0 ≤ v ∧ v ≤ 255) (hv' : 0 ≤ v' ∧ v' ≤ 255)
    (h : UInt8.ofNat v.toNat = UInt8.ofNat v'.toNat) : v = v' := by
  have hnat := congrArg UInt8.toNat h
  simp only [UInt8.toNat_ofNat'] at hnat
  omega

lemma eq_of_toBytes {v v' : ℤ} (hv : 0 ≤ v ∧ v ≤ 65535) (hv' : 0 ≤ v' ∧ v' ≤ 65535)
    (h : toBytes v.toNat 2 = toBytes v'.toNat 2) : v = v' := by
  have hnat := congrArg fromBytes h
  rw [fromBytes_toBytes (by omega), fromBytes_toBytes (by omega)] at hnat
  omega

/-- The four commands differ in their codes, and each keeps its parameter. -/
lemma TcCommandName.payload_inj (hadmits : (tcCommandDefinitions name).Admits parameter)
    (hadmits' : (tcCommandDefinitions name').Admits parameter')
    (h : name.payload parameter = name'.payload parameter') :
    name = name' ∧ parameter = parameter' := by
  obtain rfl : name = name' := by
    cases name <;> cases name' <;> first | rfl | exact absurd (List.cons.inj h).1 (by decide)
  refine ⟨rfl, ?_⟩
  have hrest := congrArg List.tail h
  cases name with
  | ping =>
      obtain ⟨v, rfl, hv⟩ := hadmits.exists_of_bounds rfl rfl rfl
      obtain ⟨v', rfl, hv'⟩ := hadmits'.exists_of_bounds rfl rfl rfl
      rw [eq_of_toBytes hv hv' hrest]
  | setMode =>
      obtain ⟨v, rfl, hv⟩ := hadmits.exists_of_bounds rfl rfl rfl
      obtain ⟨v', rfl, hv'⟩ := hadmits'.exists_of_bounds rfl rfl rfl
      rw [eq_of_byte hv hv' (List.cons.inj hrest).1]
  | resetSubsystem =>
      obtain ⟨v, rfl, hv⟩ := hadmits.exists_of_bounds rfl rfl rfl
      obtain ⟨v', rfl, hv'⟩ := hadmits'.exists_of_bounds rfl rfl rfl
      rw [eq_of_byte hv hv' (List.cons.inj hrest).1]
  | requestStatus => rw [hadmits.eq_none rfl, hadmits'.eq_none rfl]

end Payload

/-! ## One command -/

namespace TcCommandSender

variable {P : Type*} {self : TcCommandSender P} {command : TcCommandArg} {parameter : Option ℤ}

/-- Where the settings of the sender go. -/
lemma prepare_settings {c : PreparedTcCommand} (h : self.prepare command parameter = .ok c) :
    (c.tcTransferFrame.spacecraftId : ℤ) = self.config.spacecraftId ∧
      (c.tcTransferFrame.virtualChannelId : ℤ) = self.config.virtualChannelId ∧
      c.spacePacket.secondaryHeaderFlag = self.config.secondaryHeaderFlag := by
  obtain ⟨name, -, h⟩ := bind_eq_ok.mp h
  obtain ⟨payload, -, h⟩ := bind_eq_ok.mp h
  obtain ⟨packet, hpacket, h⟩ := bind_eq_ok.mp h
  obtain ⟨frame, hframe, h⟩ := bind_eq_ok.mp h
  rw [serializeTc_eq] at h
  cases h
  obtain ⟨-, -, -, -, -, hflag, -⟩ := SpacePacket.new_eq_ok hpacket
  obtain ⟨hspacecraft, hchannel, -⟩ := TcTransferFrame.new_eq_ok hframe
  exact ⟨hspacecraft, hchannel, hflag⟩

end TcCommandSender

/-- A command that was prepared, with the call of `send` and the sender behind it. -/
structure Preparation (P : Type*) where
  sender : TcCommandSender P
  command : TcCommandArg
  parameter : Option ℤ
  prepared : PreparedTcCommand
  made : sender.prepare command parameter = .ok prepared

namespace Preparation

variable {P : Type*} {a b : Preparation P}

/-- Two calls that differ at most in how the command was named and in the ports. -/
structure Agree (a b : Preparation P) : Prop where
  command : normalizeCommandName a.command = normalizeCommandName b.command
  parameter : a.parameter = b.parameter
  config : a.sender.config = b.sender.config
  packetSequenceCount : a.sender.packetSequenceCount = b.sender.packetSequenceCount
  frameSequenceNumber : a.sender.frameSequenceNumber = b.sender.frameSequenceNumber

lemma made_for (a : Preparation P) : a.prepared.For a.sender.config a.sender.packetSequenceCount
    a.sender.frameSequenceNumber a.command a.parameter :=
  TcCommandSender.prepare_eq_ok a.made

/-- The payload is that of the command in the table. -/
lemma payload_eq (a : Preparation P) :
    (tcCommandDefinitions a.prepared.command).Admits a.parameter ∧
      a.prepared.spacePacket.dataField = a.prepared.command.payload a.parameter := by
  have hfor := a.made_for
  have hpayload := hfor.payload_eq
  rw [← buildTcCommandPayload_of_normalize hfor.command_eq] at hpayload
  obtain ⟨hadmits, hpayload⟩ := buildTcCommandPayload_eq_ok.mp hpayload
  exact ⟨hadmits, hfor.packetData_eq.trans hpayload⟩

/-- Everything about a command is in its frame. -/
lemma agree_of_frame (h : a.prepared.tcTransferFrame = b.prepared.tcTransferFrame) :
    Agree a b := by
  have ha := a.made_for
  have hb := b.made_for
  have hpacket : a.prepared.spacePacket = b.prepared.spacePacket := by
    have hencode : a.prepared.spacePacket.encode = b.prepared.spacePacket.encode := by
      rw [← ha.frameData_eq, ← hb.frameData_eq, h]
    have hdecode := a.prepared.spacePacket.decode_encode
    rw [hencode, b.prepared.spacePacket.decode_encode] at hdecode
    exact (Except.ok.inj hdecode).symm
  obtain ⟨hadmits, hdata⟩ := a.payload_eq
  obtain ⟨hadmits', hdata'⟩ := b.payload_eq
  have hsame : a.prepared.command.payload a.parameter = b.prepared.command.payload b.parameter := by
    rw [← hdata, ← hdata', hpacket]
  obtain ⟨hname, hparameter⟩ := TcCommandName.payload_inj hadmits hadmits' hsame
  obtain ⟨hspacecraft, hchannel, hflag⟩ := TcCommandSender.prepare_settings a.made
  obtain ⟨hspacecraft', hchannel', hflag'⟩ := TcCommandSender.prepare_settings b.made
  refine ⟨?_, hparameter, ?_, ?_, ?_⟩
  · rw [ha.command_eq, hb.command_eq, hname]
  · have hconfig : ∀ config : TcSendConfig, config = ⟨config.spacecraftId, config.virtualChannelId,
        config.spacePacketApid, config.secondaryHeaderFlag, config.fecf⟩ := fun _ => rfl
    rw [hconfig a.sender.config, hconfig b.sender.config, ← hspacecraft, ← hspacecraft',
      ← hchannel, ← hchannel', ← ha.apid_eq, ← hb.apid_eq, ← hflag, ← hflag', ← ha.fecf_eq,
      ← hb.fecf_eq, h, hpacket]
  · rw [← ha.sequenceCount_eq, ← hb.sequenceCount_eq, hpacket]
  · rw [← ha.frameSequenceNumber_eq, ← hb.frameSequenceNumber_eq, h]

/-- And nothing else is in its bytes. -/
lemma Agree.uartBytes_eq (h : Agree a b) : a.prepared.uartBytes = b.prepared.uartBytes := by
  have hprepared : b.sender.prepare b.command b.parameter = .ok a.prepared := by
    rw [← a.made, TcCommandSender.prepare, TcCommandSender.prepare, h.command, h.parameter,
      h.config, h.packetSequenceCount, h.frameSequenceNumber]
  rw [Except.ok.inj (hprepared.symm.trans b.made)]

end Preparation

/-! ## The line -/

namespace Preparation

variable {P : Type*}

/-- The frames of the commands on the line. -/
def frames (calls : List (Preparation P)) : List SdlpFrame :=
  calls.map fun a => .tc a.prepared.tcTransferFrame

/-- What the parser finds on the line. -/
lemma emitted_uartBytes (calls : List (Preparation P)) :
    SdlpUartStreamParser.init.emitted (calls.flatMap fun a => a.prepared.uartBytes) =
      (frames calls).map SdlpFrame.parsed := by
  have hbytes : (calls.flatMap fun a => a.prepared.uartBytes) =
      (frames calls).flatMap fun f => slipEncode f.envelope := by
    rw [frames, List.flatMap_map]
    exact List.flatMap_congr fun a _ => a.made_for.uartBytes_eq
  rw [hbytes]
  refine SdlpUartStreamParser.emitted_serialized _ fun f hf => ?_
  obtain ⟨a, -, rfl⟩ := List.mem_map.mp hf
  exact SdlpFrame.length_encode_tc _

/-- **The line is unambiguous.**  Two sequences of commands, sent by whatever senders, put the
same bytes on the line if and only if they are the same commands with the same parameters, one
by one, from senders with the same configuration and the same counters. -/
theorem line_unambiguous (calls calls' : List (Preparation P)) :
    (calls.flatMap fun a => a.prepared.uartBytes) = (calls'.flatMap fun a => a.prepared.uartBytes) ↔
      List.Forall₂ Agree calls calls' := by
  constructor
  · intro hbytes
    have hemitted := congrArg SdlpUartStreamParser.init.emitted hbytes
    rw [emitted_uartBytes, emitted_uartBytes, frames, frames, List.map_map, List.map_map,
      ← List.forall₂_eq_eq_eq, List.forall₂_map_left_iff, List.forall₂_map_right_iff] at hemitted
    refine hemitted.imp fun a b hparsed => agree_of_frame ?_
    exact SdlpFrame.tc.inj (congrArg ParsedSdlpFrame.frame hparsed)
  · intro h
    induction h with
    | nil => rfl
    | cons hagree hrest ih => rw [List.flatMap_cons, List.flatMap_cons, hagree.uartBytes_eq, ih]

end Preparation

end OpenSpaceEgse
