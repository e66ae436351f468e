import OpenSpaceEgse.Ccsds.Polling
import OpenSpaceEgse.Library.Texts
import Mathlib.Data.List.Forall2

/-!
# Printing

The receive flow prints one line for each packet.  `printed_unambiguous` says what these lines
show: the type of the frame, and of the packet its type, its APID, its sequence count and its
data; the sequence flags, the version and the secondary header flag are not to be seen.
`process_serial_forever` has no end but an exception; `forever_prints` says what it has printed
after any number of rounds.  `receiveAndPrint_calls` is about single calls, with one receiver for
all of them or a fresh one for each.
-/

namespace OpenSpaceEgse

open Texts

/-- The name of the enumeration member. -/
def SdlpFrameType.name : SdlpFrameType → String
  | .tm => "TM"
  | .tc => "TC"

/-- The name of the enumeration member. -/
def PacketType.name : PacketType → String
  | .telemetry => "TELEMETRY"
  | .telecommand => "TELECOMMAND"

/-- The two digits of a byte. -/
def hexPair (byte : UInt8) : List Char :=
  [Nat.digitChar (byte.toNat / 16), Nat.digitChar (byte.toNat % 16)]

/-- `bytes.hex`. -/
def hex (bs : Bytes) : String := String.ofList (bs.flatMap hexPair)

/-- `str.upper`, on a text of ASCII characters. -/
def upper (text : String) : String := text.map Char.toUpper

/-- `format_space_packet`. -/
def formatSpacePacket (decodedPacket : DecodedSpacePacket) : String :=
  let packet := decodedPacket.spacePacket
  "[" ++ decodedPacket.frameType.name ++ "] " ++
  "APID=" ++ toString packet.apid ++ " " ++
  "TYPE=" ++ packet.packetType.name ++ " " ++
  "SEQ=" ++ toString packet.sequenceCount ++ " " ++
  "LEN=" ++ toString packet.dataField.length ++ " " ++
  "DATA_HEX=" ++ upper (hex packet.dataField)

/-- What the loop of `print` writes. -/
def printed : List DecodedSpacePacket → String
  | [] => ""
  | item :: items => formatSpacePacket item ++ "\n" ++ printed items

/-- What a function that prints leaves behind, and the exception that it let through. -/
structure Printout (P : Type*) where
  raised : Option PyError
  receiver : SdlpSpacePacketReceiver
  serialPort : P
  stdout : String

section Functions

variable {P : Type*} [SerialLike P]

/-- `receive_and_print_once`: what it returns, the receiver that it used, the port and what it
prints. -/
def receiveAndPrintOnce (serialPort : P) (receiver : Option SdlpSpacePacketReceiver := none)
    (maxReadSize : ℤ := egseSerialMaxReadSize) :
    Except PyError (List DecodedSpacePacket) × SdlpSpacePacketReceiver × P × String :=
  let activeReceiver := receiver.getD SdlpSpacePacketReceiver.init
  match activeReceiver.processSerialOnce serialPort maxReadSize with
  | (.error e, activeReceiver, serialPort) => (.error e, activeReceiver, serialPort, "")
  | (.ok decoded, activeReceiver, serialPort) =>
      (.ok decoded, activeReceiver, serialPort, printed decoded)

/-- One `receive_and_print_once` after the other, on one port and with one receiver or with none;
what each of them returns, the port, and what they print. -/
def receiveAndPrintAll (serialPort : P) (receiver : Option SdlpSpacePacketReceiver) :
    List ℤ → List (Except PyError (List DecodedSpacePacket)) × P × String
  | [] => ([], serialPort, "")
  | maxReadSize :: sizes =>
      let (result, activeReceiver, serialPort, stdout) :=
        receiveAndPrintOnce serialPort receiver maxReadSize
      let (results, serialPort, stdout') :=
        receiveAndPrintAll serialPort (receiver.map fun _ => activeReceiver) sizes
      (result :: results, serialPort, stdout ++ stdout')

/-- The first rounds of `process_serial_forever`, as many as there are before an exception. -/
def SdlpSpacePacketReceiver.processSerialForever (self : SdlpSpacePacketReceiver) (serialPort : P)
    (maxReadSize : ℤ := egseSerialMaxReadSize) : ℕ → Printout P
  | 0 => ⟨none, self, serialPort, ""⟩
  | rounds + 1 =>
      match self.processSerialOnce serialPort maxReadSize with
      | (.error e, self, serialPort) => ⟨some e, self, serialPort, ""⟩
      | (.ok decodedPackets, self, serialPort) =>
          let rest := self.processSerialForever serialPort maxReadSize rounds
          { rest with stdout := printed decodedPackets ++ rest.stdout }

end Functions

/-! ## The lines -/

/-- Two packets that look the same in print. -/
structure DecodedSpacePacket.LookAlike (a b : DecodedSpacePacket) : Prop where
  frameType : a.frameType = b.frameType
  apid : a.spacePacket.apid = b.spacePacket.apid
  packetType : a.spacePacket.packetType = b.spacePacket.packetType
  sequenceCount : a.spacePacket.sequenceCount = b.spacePacket.sequenceCount
  dataField : a.spacePacket.dataField = b.spacePacket.dataField

/-- Nothing that separates words or lines. -/
def IsWord (text : List Char) : Prop := ∀ c ∈ text, c ≠ ' ' ∧ c ≠ '\n'

lemma IsWord.append {text text' : List Char} (h : IsWord text) (h' : IsWord text') :
    IsWord (text ++ text') := by
  intro c hc
  rcases List.mem_append.mp hc with hc | hc
  · exact h c hc
  · exact h' c hc

lemma isWord_toDigits (n : ℕ) : IsWord (Nat.toDigits 10 n) := by
  intro c hc
  have hdigit := Nat.isDigit_of_mem_toDigits (by decide) (by decide) hc
  constructor
  · rintro rfl
    exact absurd hdigit (by decide)
  · rintro rfl
    exact absurd hdigit (by decide)

lemma toDigits_injective : Function.Injective (Nat.toDigits 10) := by
  intro m n h
  rw [← Nat.ofDigitChars_ten_toDigits (n := m), h, Nat.ofDigitChars_ten_toDigits]

/-- A hexadecimal digit in upper case. -/
def upperDigit (n : ℕ) : Char := (Nat.digitChar n).toUpper

lemma isWord_upperDigit : ∀ n < 16, upperDigit n ≠ ' ' ∧ upperDigit n ≠ '\n' := by decide

lemma upperDigit_inj : ∀ m < 16, ∀ n < 16, upperDigit m = upperDigit n → m = n := by decide

/-- The digits of a byte in upper case. -/
def upperPair (byte : UInt8) : List Char :=
  [upperDigit (byte.toNat / 16), upperDigit (byte.toNat % 16)]

lemma digits_lt (byte : UInt8) : byte.toNat / 16 < 16 ∧ byte.toNat % 16 < 16 := by
  have hbyte := byte.toNat_lt
  omega

lemma isWord_upperPair (byte : UInt8) : IsWord (upperPair byte) := by
  obtain ⟨hhigh, hlow⟩ := digits_lt byte
  intro c hc
  rcases List.mem_pair.mp hc with rfl | rfl
  · exact isWord_upperDigit _ hhigh
  · exact isWord_upperDigit _ hlow

lemma upperPair_injective : Function.Injective upperPair := by
  intro a b h
  obtain ⟨hhigh, hlow⟩ := digits_lt a
  obtain ⟨hhigh', hlow'⟩ := digits_lt b
  obtain ⟨hfirst, hsecond⟩ := List.cons.inj h
  have hdiv := upperDigit_inj _ hhigh _ hhigh' hfirst
  have hmod := upperDigit_inj _ hlow _ hlow' (List.cons.inj hsecond).1
  apply UInt8.toNat_inj.mp
  omega

lemma toList_upper_hex (bs : Bytes) : (upper (hex bs)).toList = bs.flatMap upperPair := by
  rw [upper, String.toList_map, hex, String.toList_ofList, List.map_flatMap]
  rfl

namespace DecodedSpacePacket

/-- The words of a line. -/
def words (a : DecodedSpacePacket) : List (List Char) :=
  ["[".toList ++ a.frameType.name.toList ++ "]".toList,
    "APID=".toList ++ Nat.toDigits 10 a.spacePacket.apid,
    "TYPE=".toList ++ a.spacePacket.packetType.name.toList,
    "SEQ=".toList ++ Nat.toDigits 10 a.spacePacket.sequenceCount,
    "LEN=".toList ++ Nat.toDigits 10 a.spacePacket.dataField.length,
    "DATA_HEX=".toList ++ a.spacePacket.dataField.flatMap upperPair]

lemma toList_format (a : DecodedSpacePacket) :
    (formatSpacePacket a).toList = [' '].intercalate a.words := by
  have hbracket : "] ".toList = "]".toList ++ [' '] := rfl
  have hspace : " ".toList = [' '] := rfl
  rw [words, ← toList_upper_hex]
  unfold formatSpacePacket
  simp only [String.toList_append, Nat.toString_eq_repr, Nat.toList_repr,
    List.intercalate_cons_cons, List.intercalate_singleton, hbracket, hspace, List.append_assoc]

lemma isWord_words (a : DecodedSpacePacket) : ∀ word ∈ a.words, IsWord word := by
  have hframeType : IsWord a.frameType.name.toList := by
    cases a.frameType <;> simp [IsWord, SdlpFrameType.name]
  have hpacketType : IsWord a.spacePacket.packetType.name.toList := by
    cases a.spacePacket.packetType <;> simp [IsWord, PacketType.name]
  have hdata : IsWord (a.spacePacket.dataField.flatMap upperPair) := by
    intro c hc
    obtain ⟨byte, -, hbyte⟩ := List.mem_flatMap.mp hc
    exact isWord_upperPair byte c hbyte
  have hlabel : ∀ label ∈ ["[", "]", "APID=", "TYPE=", "SEQ=", "LEN=", "DATA_HEX="],
      IsWord label.toList := by
    simp [IsWord]
  simp only [words, List.forall_mem_cons]
  refine ⟨?_, ?_, ?_, ?_, ?_, ?_, by simp⟩
  · exact ((hlabel _ (by simp)).append hframeType).append (hlabel _ (by simp))
  · exact (hlabel _ (by simp)).append (isWord_toDigits _)
  · exact (hlabel _ (by simp)).append hpacketType
  · exact (hlabel _ (by simp)).append (isWord_toDigits _)
  · exact (hlabel _ (by simp)).append (isWord_toDigits _)
  · exact (hlabel _ (by simp)).append hdata

/-- A line shows what makes two packets look alike, and nothing else. -/
lemma format_eq_iff {a b : DecodedSpacePacket} :
    formatSpacePacket a = formatSpacePacket b ↔ a.LookAlike b := by
  constructor
  · intro h
    have hlist := congrArg String.toList h
    rw [toList_format, toList_format] at hlist
    have hwords : a.words = b.words :=
      intercalate_inj (fun l hl hc => (a.isWord_words l hl _ hc).1 rfl)
        (fun l hl hc => (b.isWord_words l hl _ hc).1 rfl) (by simp [words]) (by simp [words]) hlist
    simp only [words, List.cons.injEq, List.append_cancel_left_eq, List.append_cancel_right_eq,
      and_true] at hwords
    obtain ⟨hframeType, hapid, hpacketType, hcount, -, hdata⟩ := hwords
    refine ⟨?_, toDigits_injective hapid, ?_, toDigits_injective hcount,
      flatMap_block_injective (fun _ => rfl) upperPair_injective hdata⟩
    · have hname : a.frameType.name = b.frameType.name := String.toList_inj.mp hframeType
      cases hthis : a.frameType <;> cases hthat : b.frameType <;>
        simp [hthis, hthat, SdlpFrameType.name] at hname ⊢
    · have hname := String.toList_inj.mp hpacketType
      cases hthis : a.spacePacket.packetType <;> cases hthat : b.spacePacket.packetType <;>
        simp [hthis, hthat, PacketType.name] at hname ⊢
  · intro h
    unfold formatSpacePacket
    dsimp only
    rw [h.frameType, h.apid, h.packetType, h.sequenceCount, h.dataField]

lemma newline_notMem_format (a : DecodedSpacePacket) : '\n' ∉ (formatSpacePacket a).toList := by
  rw [toList_format]
  intro hmem
  rcases mem_of_mem_intercalate hmem with hspace | ⟨word, hword, hmem⟩
  · exact absurd hspace (by decide)
  · exact (a.isWord_words word hword _ hmem).2 rfl

end DecodedSpacePacket

@[simp] lemma toList_printed (decoded : List DecodedSpacePacket) :
    (printed decoded).toList =
      terminate '\n' (decoded.map fun item => (formatSpacePacket item).toList) := by
  induction decoded with
  | nil => rfl
  | cons item items ih =>
      rw [printed, String.toList_append, String.toList_append, ih]
      rfl

lemma printed_append (decoded decoded' : List DecodedSpacePacket) :
    printed (decoded ++ decoded') = printed decoded ++ printed decoded' := by
  apply String.toList_inj.mp
  rw [String.toList_append, toList_printed, toList_printed, toList_printed, List.map_append]
  exact List.flatMap_append

/-- **What the lines show.**  Two lists of packets look the same in print if and only if they
agree, one by one, in the type of the frame and in the type, the APID, the sequence count and
the data of the packet. -/
theorem printed_unambiguous (decoded decoded' : List DecodedSpacePacket) :
    printed decoded = printed decoded' ↔
      List.Forall₂ DecodedSpacePacket.LookAlike decoded decoded' := by
  constructor
  · intro h
    have hlines := congrArg String.toList h
    rw [toList_printed, toList_printed] at hlines
    have hnewline : ∀ decoded : List DecodedSpacePacket,
        ∀ line ∈ decoded.map fun item => (formatSpacePacket item).toList, '\n' ∉ line := by
      intro decoded line hline
      obtain ⟨item, -, rfl⟩ := List.mem_map.mp hline
      exact item.newline_notMem_format
    have hsame := terminate_inj (hnewline decoded) (hnewline decoded') hlines
    rw [← List.forall₂_eq_eq_eq, List.forall₂_map_left_iff, List.forall₂_map_right_iff] at hsame
    exact hsame.imp fun a b hline =>
      DecodedSpacePacket.format_eq_iff.mp (String.toList_inj.mp hline)
  · intro h
    induction h with
    | nil => rfl
    | cons hlike hrest ih =>
        rw [printed, printed, ih, DecodedSpacePacket.format_eq_iff.mpr hlike]

/-! ## The rounds -/

namespace SdlpSpacePacketReceiver

/-- One round on a port: it prints what it has received, or an exception of the port leaves the
loop. -/
lemma round_cases (self : SdlpSpacePacketReceiver) (port : ScriptedPort) (maxReadSize : ℤ) :
    ∃ entries port', port'.history = port.history ++ entries ∧
      ((∃ e, Polled maxReadSize entries (.error e) ∧
          self.processSerialOnce port maxReadSize =
            (.error e, self.after (bytesRead entries), port') ∧
          self.packets (bytesRead entries) = []) ∨
        ∃ chunk, Polled maxReadSize entries (.ok chunk) ∧
          self.processSerialOnce port maxReadSize =
            (.ok (self.packets (bytesRead entries)), self.after (bytesRead entries), port')) := by
  obtain ⟨entries, result, hhistory, hpolled, hreturned, hself⟩ :=
    self.polled_processSerialOnce port maxReadSize
  generalize self.processSerialOnce port maxReadSize = call at hhistory hreturned hself ⊢
  obtain ⟨returned, self', port'⟩ := call
  simp only at hhistory hreturned hself
  subst hreturned hself
  refine ⟨entries, port', hhistory, ?_⟩
  cases result with
  | error e =>
      refine Or.inl ⟨e, hpolled, rfl, ?_⟩
      rw [hpolled.bytesRead_eq]
      rfl
  | ok chunk =>
      refine Or.inr ⟨chunk, hpolled, ?_⟩
      rw [hpolled.bytesRead_eq]
      rfl

/-- **The endless loop.**  On a port of any behaviour, the rounds of `process_serial_forever`
print the packets of all the bytes that were read, wherever the reads cut them, and leave the
receiver behind these bytes.  The loop goes on as long as the port does not raise; the
exception that it lets through is that of the last call, and all calls before returned. -/
theorem forever_prints (self : SdlpSpacePacketReceiver) (port : ScriptedPort) (maxReadSize : ℤ)
    (rounds : ℕ) : ∃ calls : List (List PortEntry),
      (self.processSerialForever port maxReadSize rounds).serialPort.history =
        port.history ++ calls.flatten ∧
      (self.processSerialForever port maxReadSize rounds).stdout =
        printed (self.packets (bytesRead calls.flatten)) ∧
      (self.processSerialForever port maxReadSize rounds).receiver =
        self.after (bytesRead calls.flatten) ∧
      match (self.processSerialForever port maxReadSize rounds).raised with
      | none => calls.length = rounds ∧
          ∀ entries ∈ calls, ∃ chunk, Polled maxReadSize entries (.ok chunk)
      | some e => ∃ earlier last, calls = earlier ++ [last] ∧ earlier.length < rounds ∧
          (∀ entries ∈ earlier, ∃ chunk, Polled maxReadSize entries (.ok chunk)) ∧
          Polled maxReadSize last (.error e) := by
  induction rounds generalizing self port with
  | zero =>
      refine ⟨[], (List.append_nil _).symm, ?_, ?_, rfl, by simp⟩
      · rfl
      · rfl
  | succ rounds ih =>
      obtain ⟨entries, port', hhistory, ⟨e, hpolled, hcall, hnone⟩ | ⟨chunk, hpolled, hcall⟩⟩ :=
        self.round_cases port maxReadSize
      · -- the last round, which prints nothing
        refine ⟨[entries], ?_, ?_, ?_, ?_⟩ <;>
          simp only [processSerialForever, hcall, List.flatten_singleton]
        · exact hhistory
        · rw [hnone]
          rfl
        · exact ⟨[], entries, rfl, Nat.succ_pos _, by simp, hpolled⟩
      · obtain ⟨calls, hhistory', hstdout, hreceiver, hraised⟩ :=
          ih (self.after (bytesRead entries)) port'
        have happend : bytesRead (entries :: calls).flatten =
            bytesRead entries ++ bytesRead calls.flatten := by
          simp [bytesRead]
        refine ⟨entries :: calls, ?_, ?_, ?_, ?_⟩ <;>
          simp only [processSerialForever, hcall]
        · rw [hhistory', hhistory, List.flatten_cons, List.append_assoc]
        · rw [hstdout, happend, packets_append, printed_append]
        · rw [hreceiver, happend, after_append]
        · generalize (processSerialForever (self.after (bytesRead entries)) port' maxReadSize
            rounds).raised = raised at hraised ⊢
          cases raised with
          | none =>
              obtain ⟨hlength, hreturned⟩ := hraised
              refine ⟨congrArg Nat.succ hlength, ?_⟩
              exact List.forall_mem_cons.mpr ⟨⟨chunk, hpolled⟩, hreturned⟩
          | some e =>
              obtain ⟨earlier, last, rfl, hlength, hreturned, hlast⟩ := hraised
              refine ⟨entries :: earlier, last, rfl, Nat.succ_lt_succ hlength, ?_, hlast⟩
              exact List.forall_mem_cons.mpr ⟨⟨chunk, hpolled⟩, hreturned⟩

end SdlpSpacePacketReceiver

/-! ## Single calls -/

open SdlpSpacePacketReceiver

/-- One call prints what it returns, and a call that raises prints nothing. -/
lemma receiveAndPrintOnce_eq (port : ScriptedPort) (receiver : Option SdlpSpacePacketReceiver)
    (maxReadSize : ℤ) :
    ∃ entries result port', port'.history = port.history ++ entries ∧
      Polled maxReadSize entries result ∧
      receiveAndPrintOnce port receiver maxReadSize =
        (result.map (receiver.getD .init).packets, (receiver.getD .init).after (bytesRead entries),
          port', printed (returned (result.map (receiver.getD .init).packets))) := by
  obtain ⟨entries, result, hhistory, hpolled, hreturned, hself⟩ :=
    (receiver.getD .init).polled_processSerialOnce port maxReadSize
  refine ⟨entries, result, _, hhistory, hpolled, ?_⟩
  rw [receiveAndPrintOnce]
  generalize (receiver.getD .init).processSerialOnce port maxReadSize = call at *
  obtain ⟨outcome, self, port'⟩ := call
  simp only at hreturned hself
  subst hreturned hself
  cases result with
  | error e => rfl
  | ok chunk => rfl

/-- What the calls return, one by one: with a receiver that is given to all of them, and without
one. -/
def callOutcomes (receiver : Option SdlpSpacePacketReceiver)
    (calls : List (List PortEntry × Except PyError Bytes)) :
    List (Except PyError (List DecodedSpacePacket)) :=
  match receiver with
  | some self => self.outcomes calls
  | none => calls.map fun call => call.2.map SdlpSpacePacketReceiver.init.packets

lemma callOutcomes_cons (receiver : Option SdlpSpacePacketReceiver) (entries : List PortEntry)
    (result : Except PyError Bytes) (calls : List (List PortEntry × Except PyError Bytes)) :
    callOutcomes receiver ((entries, result) :: calls) =
      result.map (receiver.getD .init).packets ::
        callOutcomes (receiver.map fun _ => (receiver.getD .init).after (bytesRead entries))
          calls := by
  cases receiver with
  | none => rfl
  | some self => rfl

/-- **The receiver is the memory.**  Calls of `receive_and_print_once` print what they return.
With a receiver that is given to all of them, each call returns what the bytes of its read
complete, and together they return the packets of all bytes that were read; without one, each
call decodes the bytes of its own read alone. -/
theorem receiveAndPrint_calls (port : ScriptedPort) (receiver : Option SdlpSpacePacketReceiver)
    (sizes : List ℤ) : ∃ calls : List (List PortEntry × Except PyError Bytes),
      List.Forall₂ (fun maxReadSize call => Polled maxReadSize call.1 call.2) sizes calls ∧
      (receiveAndPrintAll port receiver sizes).2.1.history =
        port.history ++ calls.flatMap Prod.fst ∧
      (receiveAndPrintAll port receiver sizes).2.2 =
        printed ((receiveAndPrintAll port receiver sizes).1.flatMap returned) ∧
      (receiveAndPrintAll port receiver sizes).1 = callOutcomes receiver calls ∧
      ∀ self, receiver = some self →
        (receiveAndPrintAll port receiver sizes).1.flatMap returned =
          self.packets (bytesRead (calls.flatMap Prod.fst)) := by
  have hcalls : ∃ calls : List (List PortEntry × Except PyError Bytes),
      List.Forall₂ (fun maxReadSize call => Polled maxReadSize call.1 call.2) sizes calls ∧
      (receiveAndPrintAll port receiver sizes).2.1.history =
        port.history ++ calls.flatMap Prod.fst ∧
      (receiveAndPrintAll port receiver sizes).2.2 =
        printed ((receiveAndPrintAll port receiver sizes).1.flatMap returned) ∧
      (receiveAndPrintAll port receiver sizes).1 = callOutcomes receiver calls := by
    induction sizes generalizing port receiver with
    | nil =>
        refine ⟨[], .nil, (List.append_nil _).symm, rfl, ?_⟩
        cases receiver with
        | none => rfl
        | some self => rfl
    | cons maxReadSize sizes ih =>
        -- without a receiver, the next call starts from a fresh one again
        obtain ⟨entries, result, port', hhistory, hpolled, hcall⟩ :=
          receiveAndPrintOnce_eq port receiver maxReadSize
        obtain ⟨calls, hcalls, hhistory', hstdout, hresults⟩ :=
          ih port' (receiver.map fun _ => (receiver.getD .init).after (bytesRead entries))
        refine ⟨(entries, result) :: calls, .cons hpolled hcalls, ?_, ?_, ?_⟩ <;>
          simp only [receiveAndPrintAll, hcall]
        · rw [hhistory', hhistory, List.flatMap_cons, List.append_assoc]
        · rw [hstdout, List.flatMap_cons, printed_append]
        · rw [hresults, callOutcomes_cons]
  obtain ⟨calls, hpolled, hhistory, hstdout, hresults⟩ := hcalls
  refine ⟨calls, hpolled, hhistory, hstdout, hresults, ?_⟩
  rintro self rfl
  rw [hresults]
  exact returned_outcomes hpolled self

end OpenSpaceEgse
