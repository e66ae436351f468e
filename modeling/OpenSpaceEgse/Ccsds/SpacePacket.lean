import OpenSpaceEgse.Library.Words
import OpenSpaceEgse.Python

/-!
# Space packets

A space packet is a primary header of six bytes, packed by hand into three
big-endian words, followed by a data field of 1 to 65536 bytes.  A `SpacePacket`
carries the checks of its `__post_init__` as fields, so only packets that pass
them can be built.

The main result is `spacePacket_codec`: `encode` and `decode` are inverse bijections
between the packets and the byte strings whose length field matches their length.
-/

namespace OpenSpaceEgse

open Wire

/-- The type bit of a packet. -/
inductive PacketType where
  | telemetry
  | telecommand
deriving DecidableEq, Repr

namespace PacketType

/-- The value of the enumeration member. -/
def value : PacketType → ℕ
  | telemetry => 0
  | telecommand => 1

/-- `PacketType(value)`. -/
def ofValue : ℕ → Except PyError PacketType
  | 0 => .ok telemetry
  | 1 => .ok telecommand
  | n => .error (.valueError (toString n ++ " is not a valid PacketType"))

end PacketType

/-- The two sequence flags of a packet. -/
inductive SequenceFlags where
  | continuationSegment
  | firstSegment
  | lastSegment
  | unsegmented
deriving DecidableEq, Repr

namespace SequenceFlags

/-- The value of the enumeration member. -/
def value : SequenceFlags → ℕ
  | continuationSegment => 0
  | firstSegment => 1
  | lastSegment => 2
  | unsegmented => 3

/-- `SequenceFlags(value)`. -/
def ofValue : ℕ → Except PyError SequenceFlags
  | 0 => .ok continuationSegment
  | 1 => .ok firstSegment
  | 2 => .ok lastSegment
  | 3 => .ok unsegmented
  | n => .error (.valueError (toString n ++ " is not a valid SequenceFlags"))

end SequenceFlags

/-- A space packet that passed `__post_init__`. -/
structure SpacePacket where
  apid : ℕ
  packetType : PacketType
  sequenceFlags : SequenceFlags
  sequenceCount : ℕ
  dataField : Bytes
  secondaryHeaderFlag : Bool
  version : ℕ
  version_le : version ≤ 0x07
  apid_le : apid ≤ 0x07FF
  sequenceCount_le : sequenceCount ≤ 0x3FFF
  dataField_pos : 0 < dataField.length
  dataField_le : dataField.length - 1 ≤ 0xFFFF
deriving DecidableEq, Repr

namespace SpacePacket

def primaryHeaderLength : ℕ := 6
def maxApid : ℕ := 0x07FF
def maxSequenceCount : ℕ := 0x3FFF
def maxDataLengthField : ℕ := 0xFFFF

/-- The constructor `SpacePacket(...)` with its `__post_init__`. -/
def new (apid : ℤ) (packetType : PacketType) (sequenceFlags : SequenceFlags) (sequenceCount : ℤ)
    (dataField : Bytes) (secondaryHeaderFlag : Bool) (version : ℤ) :
    Except PyError SpacePacket :=
  if hv : ¬ (0 ≤ version ∧ version ≤ 0x07) then
    .error (.valueError "version must be in range 0..7")
  else if ha : ¬ (0 ≤ apid ∧ apid ≤ maxApid) then
    .error (.valueError s!"apid must be in range 0..{maxApid}")
  else if hc : ¬ (0 ≤ sequenceCount ∧ sequenceCount ≤ maxSequenceCount) then
    .error (.valueError s!"sequence_count must be in range 0..{maxSequenceCount}")
  else if hd : dataField.length = 0 then
    .error (.valueError "data_field must not be empty")
  else if hl : dataField.length - 1 > maxDataLengthField then
    .error (.valueError "data_field is too large for CCSDS packet length field")
  else
    .ok
      { apid := apid.toNat
        packetType := packetType
        sequenceFlags := sequenceFlags
        sequenceCount := sequenceCount.toNat
        dataField := dataField
        secondaryHeaderFlag := secondaryHeaderFlag
        version := version.toNat
        version_le := by omega
        apid_le := by simp only [maxApid] at ha; omega
        sequenceCount_le := by simp only [maxSequenceCount] at hc; omega
        dataField_pos := by omega
        dataField_le := by simp only [maxDataLengthField] at hl; omega }

/-- The property `data_length`. -/
def dataLength (self : SpacePacket) : ℕ := self.dataField.length - 1

/-- The property `total_length`. -/
def totalLength (self : SpacePacket) : ℕ := primaryHeaderLength + self.dataField.length

/-- The local `first_word` of `encode`. -/
def firstWord (self : SpacePacket) : ℕ :=
  ((self.version &&& 0x07) <<< 13) ||| ((self.packetType.value &&& 0x01) <<< 12) |||
    ((if self.secondaryHeaderFlag then 1 else 0) <<< 11) ||| (self.apid &&& maxApid)

/-- The local `second_word` of `encode`. -/
def secondWord (self : SpacePacket) : ℕ :=
  ((self.sequenceFlags.value &&& 0x03) <<< 14) ||| (self.sequenceCount &&& maxSequenceCount)

/-- `SpacePacket.encode`. -/
def encode (self : SpacePacket) : Bytes :=
  toBytes self.firstWord 2 ++ toBytes self.secondWord 2 ++ toBytes self.dataLength 2 ++
    self.dataField

/-- `SpacePacket.decode`. -/
def decode (rawPacket : Bytes) : Except PyError SpacePacket :=
  if rawPacket.length < primaryHeaderLength + 1 then
    .error (.valueError "raw_packet is too short to contain a valid CCSDS packet")
  else
    let firstWord := fromBytes (slice rawPacket 0 2)
    let secondWord := fromBytes (slice rawPacket 2 4)
    let dataLength := fromBytes (slice rawPacket 4 6)
    let expectedDataFieldLen := dataLength + 1
    let expectedTotalLen := primaryHeaderLength + expectedDataFieldLen
    if rawPacket.length ≠ expectedTotalLen then
      .error (.valueError "raw_packet length does not match CCSDS packet length field")
    else do
      let version := (firstWord >>> 13) &&& 0x07
      let packetType ← PacketType.ofValue ((firstWord >>> 12) &&& 0x01)
      let secondaryHeaderFlag := (firstWord >>> 11) &&& 0x01 != 0
      let apid := firstWord &&& maxApid
      let sequenceFlags ← SequenceFlags.ofValue ((secondWord >>> 14) &&& 0x03)
      let sequenceCount := secondWord &&& maxSequenceCount
      let dataField := sliceFrom rawPacket 6
      new apid packetType sequenceFlags sequenceCount dataField secondaryHeaderFlag version

/-- `SpacePacket.build_tm`. -/
def buildTm (apid sequenceCount : ℤ) (payload : Bytes) (secondaryHeaderFlag : Bool := false)
    (sequenceFlags : SequenceFlags := .unsegmented) : Except PyError SpacePacket :=
  new apid .telemetry sequenceFlags sequenceCount payload secondaryHeaderFlag 0

/-- `SpacePacket.build_tc`. -/
def buildTc (apid sequenceCount : ℤ) (payload : Bytes) (secondaryHeaderFlag : Bool := false)
    (sequenceFlags : SequenceFlags := .unsegmented) : Except PyError SpacePacket :=
  new apid .telecommand sequenceFlags sequenceCount payload secondaryHeaderFlag 0

/-! ## What the constructor accepts -/

section New

variable {apid sequenceCount version : ℤ} {packetType : PacketType}
  {sequenceFlags : SequenceFlags} {dataField : Bytes} {secondaryHeaderFlag : Bool}

/-- A packet that was constructed has the fields it was constructed with. -/
lemma new_eq_ok {p : SpacePacket} (h : new apid packetType sequenceFlags sequenceCount dataField
    secondaryHeaderFlag version = .ok p) :
    (p.apid : ℤ) = apid ∧ p.packetType = packetType ∧ p.sequenceFlags = sequenceFlags ∧
      (p.sequenceCount : ℤ) = sequenceCount ∧ p.dataField = dataField ∧
      p.secondaryHeaderFlag = secondaryHeaderFlag ∧ (p.version : ℤ) = version := by
  obtain ⟨hv, h⟩ := dite_eq_ok h
  obtain ⟨ha, h⟩ := dite_eq_ok h
  obtain ⟨hc, h⟩ := dite_eq_ok h
  obtain ⟨hd, h⟩ := dite_eq_ok h
  obtain ⟨hl, h⟩ := dite_eq_ok h
  cases h
  refine ⟨?_, rfl, rfl, ?_, rfl, rfl, ?_⟩
  · exact Int.toNat_of_nonneg (not_not.mp ha).1
  · exact Int.toNat_of_nonneg (not_not.mp hc).1
  · exact Int.toNat_of_nonneg (not_not.mp hv).1

lemma exists_new (hv : 0 ≤ version ∧ version ≤ 7) (ha : 0 ≤ apid ∧ apid ≤ 2047)
    (hc : 0 ≤ sequenceCount ∧ sequenceCount ≤ 16383) (hd : 0 < dataField.length)
    (hl : dataField.length ≤ 65536) :
    ∃ p, new apid packetType sequenceFlags sequenceCount dataField secondaryHeaderFlag version
      = .ok p := by
  have hl' : ¬ dataField.length - 1 > maxDataLengthField := by
    simp only [maxDataLengthField]
    omega
  exact ⟨_, (dif_neg (not_not.mpr hv)).trans ((dif_neg (not_not.mpr ha)).trans
    ((dif_neg (not_not.mpr hc)).trans ((dif_neg (Nat.ne_of_gt hd)).trans (dif_neg hl'))))⟩

end New

/-! ## The header words -/

lemma value_packetType_le (t : PacketType) : t.value ≤ 1 := by cases t <;> decide

lemma value_sequenceFlags_le (f : SequenceFlags) : f.value ≤ 3 := by cases f <;> decide

lemma firstWord_eq (p : SpacePacket) :
    p.firstWord = p.version * 8192 + p.packetType.value * 4096 +
      (if p.secondaryHeaderFlag then 1 else 0) * 2048 + p.apid := by
  have hv := p.version_le
  have ht := value_packetType_le p.packetType
  have ha := p.apid_le
  have hs := bit_le p.secondaryHeaderFlag
  rw [firstWord, land_mask 0x07 3 rfl, land_mask 0x01 1 rfl, land_mask maxApid 11 rfl,
    Nat.or_assoc, Nat.or_assoc]
  rw [shiftLeft_lor (k := 11), shiftLeft_lor (k := 12), shiftLeft_lor (k := 13)] <;> omega

lemma firstWord_lt (p : SpacePacket) : p.firstWord < 256 ^ 2 := by
  have hv := p.version_le
  have ht := value_packetType_le p.packetType
  have ha := p.apid_le
  have hs := bit_le p.secondaryHeaderFlag
  rw [firstWord_eq]
  omega

lemma secondWord_eq (p : SpacePacket) :
    p.secondWord = p.sequenceFlags.value * 16384 + p.sequenceCount := by
  have hf := value_sequenceFlags_le p.sequenceFlags
  have hc := p.sequenceCount_le
  rw [secondWord, land_mask 0x03 2 rfl, land_mask maxSequenceCount 14 rfl,
    shiftLeft_lor (k := 14)] <;> omega

lemma secondWord_lt (p : SpacePacket) : p.secondWord < 256 ^ 2 := by
  have hf := value_sequenceFlags_le p.sequenceFlags
  have hc := p.sequenceCount_le
  rw [secondWord_eq]
  omega

lemma dataLength_lt (p : SpacePacket) : p.dataLength < 256 ^ 2 := by
  have := p.dataField_le
  rw [dataLength]
  omega

/-! ## The layout of an encoding -/

lemma length_encode (p : SpacePacket) : p.encode.length = p.totalLength := by
  simp only [encode, totalLength, primaryHeaderLength, List.length_append, length_toBytes]

lemma slice_encode_first (p : SpacePacket) : slice p.encode 0 2 = toBytes p.firstWord 2 := by
  simp [slice, encode]

lemma slice_encode_second (p : SpacePacket) : slice p.encode 2 4 = toBytes p.secondWord 2 := by
  simp [slice, encode]

lemma slice_encode_length (p : SpacePacket) : slice p.encode 4 6 = toBytes p.dataLength 2 := by
  simp [slice, encode, List.take_append, List.drop_append]

lemma sliceFrom_encode (p : SpacePacket) : sliceFrom p.encode 6 = p.dataField := by
  simp [sliceFrom, encode, toBytes]

/-! ## Decoding what was encoded -/

/-- Every packet passes the checks of the constructor. -/
lemma new_self (p : SpacePacket) :
    new p.apid p.packetType p.sequenceFlags p.sequenceCount p.dataField p.secondaryHeaderFlag
      p.version = .ok p := by
  have hv := p.version_le
  have ha := p.apid_le
  have hc := p.sequenceCount_le
  have hd := p.dataField_pos
  have hl := p.dataField_le
  rw [new, dif_neg (by omega), dif_neg (by simp only [maxApid]; omega),
    dif_neg (by simp only [maxSequenceCount]; omega), dif_neg (by omega),
    dif_neg (by simp only [maxDataLengthField]; omega)]
  rfl

lemma ofValue_packetType (t : PacketType) : PacketType.ofValue t.value = .ok t := by
  cases t <;> rfl

lemma ofValue_sequenceFlags (f : SequenceFlags) : SequenceFlags.ofValue f.value = .ok f := by
  cases f <;> rfl

/-- The fields of the first word are read back from their places in the sum. -/
lemma fields_firstWord (p : SpacePacket) :
    (p.firstWord >>> 13) &&& 0x07 = p.version ∧
      (p.firstWord >>> 12) &&& 0x01 = p.packetType.value ∧
      ((p.firstWord >>> 11) &&& 0x01 != 0) = p.secondaryHeaderFlag ∧
      p.firstWord &&& maxApid = p.apid := by
  have hv := p.version_le
  have ht := value_packetType_le p.packetType
  have ha := p.apid_le
  have hs := bit_le p.secondaryHeaderFlag
  simp only [firstWord_eq, land_mask 0x07 3 rfl, land_mask 0x01 1 rfl, land_mask maxApid 11 rfl,
    Nat.shiftRight_eq_div_pow]
  refine ⟨?_, ?_, bit_ne_zero ?_, ?_⟩ <;> omega

lemma fields_secondWord (p : SpacePacket) :
    (p.secondWord >>> 14) &&& 0x03 = p.sequenceFlags.value ∧
      p.secondWord &&& maxSequenceCount = p.sequenceCount := by
  have hf := value_sequenceFlags_le p.sequenceFlags
  have hc := p.sequenceCount_le
  simp only [secondWord_eq, land_mask 0x03 2 rfl, land_mask maxSequenceCount 14 rfl,
    Nat.shiftRight_eq_div_pow]
  constructor <;> omega

theorem decode_encode (p : SpacePacket) : decode p.encode = .ok p := by
  obtain ⟨hversion, htype, hflag, hapid⟩ := p.fields_firstWord
  obtain ⟨hflags, hcount⟩ := p.fields_secondWord
  have hd := p.dataField_pos
  have hlen := p.length_encode
  have hshort : ¬ p.encode.length < primaryHeaderLength + 1 := by
    simp only [hlen, totalLength, primaryHeaderLength]
    omega
  have hexact : ¬ p.encode.length ≠ primaryHeaderLength + (p.dataLength + 1) := by
    simp only [hlen, totalLength, dataLength]
    omega
  rw [decode, if_neg hshort, slice_encode_first, slice_encode_second, slice_encode_length,
    fromBytes_toBytes p.firstWord_lt, fromBytes_toBytes p.secondWord_lt,
    fromBytes_toBytes p.dataLength_lt, if_neg hexact, hversion, htype, hflag, hapid, hflags,
    hcount, sliceFrom_encode, ofValue_packetType, ofValue_sequenceFlags]
  exact p.new_self

/-! ## Encoding what was decoded -/

/-- The byte strings that are packets: the length field, one less than the length of
the data field, agrees with the length. -/
def WireFormed (b : Bytes) : Prop :=
  primaryHeaderLength + 1 ≤ b.length ∧
    b.length = primaryHeaderLength + 1 + fromBytes (slice b 4 6)

instance (b : Bytes) : Decidable (WireFormed b) := inferInstanceAs (Decidable (_ ∧ _))

lemma wireFormed_encode (p : SpacePacket) : WireFormed p.encode := by
  have hd := p.dataField_pos
  have hlen := p.length_encode
  rw [WireFormed, slice_encode_length, fromBytes_toBytes p.dataLength_lt, hlen]
  simp only [totalLength, dataLength, primaryHeaderLength]
  omega

/-- The packet with the given first two header words and data field. -/
def ofWords (w₁ w₂ : ℕ) (data : Bytes) (hpos : 0 < data.length)
    (hle : data.length - 1 ≤ 0xFFFF) : SpacePacket where
  apid := w₁ % 2 ^ 11
  packetType := if w₁ / 2 ^ 12 % 2 ^ 1 = 0 then .telemetry else .telecommand
  sequenceFlags :=
    if w₂ / 2 ^ 14 % 2 ^ 2 = 0 then .continuationSegment
    else if w₂ / 2 ^ 14 % 2 ^ 2 = 1 then .firstSegment
    else if w₂ / 2 ^ 14 % 2 ^ 2 = 2 then .lastSegment
    else .unsegmented
  sequenceCount := w₂ % 2 ^ 14
  dataField := data
  secondaryHeaderFlag := w₁ / 2 ^ 11 % 2 ^ 1 != 0
  version := w₁ / 2 ^ 13 % 2 ^ 3
  version_le := by omega
  apid_le := by omega
  sequenceCount_le := by omega
  dataField_pos := hpos
  dataField_le := hle

section OfWords

variable {w₁ w₂ : ℕ} {data : Bytes} (hpos : 0 < data.length) (hle : data.length - 1 ≤ 0xFFFF)

lemma ofValue_packetType_ofWords :
    PacketType.ofValue (w₁ / 2 ^ 12 % 2 ^ 1) = .ok (ofWords w₁ w₂ data hpos hle).packetType := by
  have h : w₁ / 2 ^ 12 % 2 ^ 1 = 0 ∨ w₁ / 2 ^ 12 % 2 ^ 1 = 1 := by omega
  rcases h with h | h <;> simp only [ofWords, h] <;> rfl

lemma ofValue_sequenceFlags_ofWords :
    SequenceFlags.ofValue (w₂ / 2 ^ 14 % 2 ^ 2) =
      .ok (ofWords w₁ w₂ data hpos hle).sequenceFlags := by
  have h : w₂ / 2 ^ 14 % 2 ^ 2 = 0 ∨ w₂ / 2 ^ 14 % 2 ^ 2 = 1 ∨ w₂ / 2 ^ 14 % 2 ^ 2 = 2 ∨
      w₂ / 2 ^ 14 % 2 ^ 2 = 3 := by omega
  rcases h with h | h | h | h <;> simp only [ofWords, h] <;> rfl

lemma firstWord_ofWords (h : w₁ < 256 ^ 2) : (ofWords w₁ w₂ data hpos hle).firstWord = w₁ := by
  have ht : (ofWords w₁ w₂ data hpos hle).packetType.value = w₁ / 2 ^ 12 % 2 ^ 1 := by
    simp only [ofWords]
    split <;> simp only [PacketType.value] <;> omega
  have hs : (if (ofWords w₁ w₂ data hpos hle).secondaryHeaderFlag then 1 else 0)
      = w₁ / 2 ^ 11 % 2 ^ 1 := bit_eq rfl
  rw [firstWord_eq, ht, hs]
  simp only [ofWords]
  omega

lemma secondWord_ofWords (h : w₂ < 256 ^ 2) : (ofWords w₁ w₂ data hpos hle).secondWord = w₂ := by
  have hf : (ofWords w₁ w₂ data hpos hle).sequenceFlags.value = w₂ / 2 ^ 14 % 2 ^ 2 := by
    simp only [ofWords]
    split
    · simp only [SequenceFlags.value]; omega
    · split
      · simp only [SequenceFlags.value]; omega
      · split <;> simp only [SequenceFlags.value] <;> omega
  rw [secondWord_eq, hf]
  simp only [ofWords]
  omega

end OfWords

/-- A byte string of the right length is decoded, and to a packet that encodes to
it. -/
theorem decode_of_wireFormed {b : Bytes} (h : WireFormed b) :
    ∃ p, decode b = .ok p ∧ p.encode = b := by
  obtain ⟨hshort, hexact⟩ := h
  simp only [primaryHeaderLength] at hshort hexact
  have hlen : 6 ≤ b.length := by omega
  have hw₁ := fromBytes_slice_lt (b := b) (i := 0) (j := 2) (by omega) rfl
  have hw₂ := fromBytes_slice_lt (b := b) (i := 2) (j := 4) (by omega) rfl
  have hw₃ := fromBytes_slice_lt (b := b) (i := 4) (j := 6) (by omega) rfl
  have hdata : (sliceFrom b 6).length = fromBytes (slice b 4 6) + 1 := by
    simp only [sliceFrom, List.length_drop]
    omega
  have hpos : 0 < (sliceFrom b 6).length := by omega
  have hle : (sliceFrom b 6).length - 1 ≤ 0xFFFF := by omega
  refine ⟨ofWords (fromBytes (slice b 0 2)) (fromBytes (slice b 2 4)) (sliceFrom b 6) hpos hle,
    ?_, ?_⟩
  · rw [decode, if_neg (by simp only [primaryHeaderLength]; omega),
      if_neg (by simp only [primaryHeaderLength]; omega)]
    simp only [land_mask 0x07 3 rfl, land_mask 0x01 1 rfl, land_mask 0x03 2 rfl,
      land_mask maxApid 11 rfl, land_mask maxSequenceCount 14 rfl,
      Nat.shiftRight_eq_div_pow]
    rw [ofValue_packetType_ofWords hpos hle, ofValue_sequenceFlags_ofWords hpos hle]
    exact new_self (ofWords _ _ _ hpos hle)
  · have hfield : (ofWords (fromBytes (slice b 0 2)) (fromBytes (slice b 2 4)) (sliceFrom b 6)
        hpos hle).dataLength = fromBytes (slice b 4 6) := by
      simp only [dataLength, ofWords]
      omega
    rw [encode, firstWord_ofWords hpos hle hw₁, secondWord_ofWords hpos hle hw₂, hfield,
      toBytes_fromBytes_slice (by omega) rfl, toBytes_fromBytes_slice (by omega) rfl,
      toBytes_fromBytes_slice hlen rfl, slice_append_slice (by omega) (by omega),
      slice_append_slice (by omega) (by omega)]
    exact slice_append_sliceFrom b (Nat.zero_le 6)

/-- Every other byte string is refused with a `ValueError`. -/
lemma decode_of_not_wireFormed {b : Bytes} (h : ¬ WireFormed b) :
    ∃ msg, decode b = .error (.valueError msg) := by
  rw [decode]
  by_cases hshort : b.length < primaryHeaderLength + 1
  · exact ⟨_, if_pos hshort⟩
  · rw [if_neg hshort]
    by_cases hexact : b.length = primaryHeaderLength + (fromBytes (slice b 4 6) + 1)
    · exact absurd ⟨by omega, by omega⟩ h
    · exact ⟨_, if_pos hexact⟩

lemma wireFormed_of_decode {b : Bytes} {p : SpacePacket} (h : decode b = .ok p) :
    WireFormed b := by
  by_contra hb
  obtain ⟨msg, hmsg⟩ := decode_of_not_wireFormed hb
  rw [h] at hmsg
  exact absurd hmsg (by simp)

lemma encode_of_decode {b : Bytes} {p : SpacePacket} (h : decode b = .ok p) : p.encode = b := by
  obtain ⟨q, hq, hqb⟩ := decode_of_wireFormed (wireFormed_of_decode h)
  rw [h, Except.ok.injEq] at hq
  rw [hq, hqb]

/-- **The space packet codec is a bijection.**  Every packet passes its own checks and
is the decoding of its encoding, which is as long as announced and has the right form.
A byte string is decoded if and only if its length field fits its length, and then it
is the encoding of what it decodes to; all others are refused with a `ValueError`. -/
theorem spacePacket_codec :
    (∀ p : SpacePacket,
      new p.apid p.packetType p.sequenceFlags p.sequenceCount p.dataField
        p.secondaryHeaderFlag p.version = .ok p ∧
      decode p.encode = .ok p ∧ p.encode.length = p.totalLength ∧ WireFormed p.encode) ∧
    (∀ b : Bytes, (∃ p, decode b = .ok p) ↔ WireFormed b) ∧
    (∀ b p, decode b = .ok p → p.encode = b) ∧
    (∀ b, ¬ WireFormed b → ∃ msg, decode b = .error (.valueError msg)) := by
  refine ⟨fun p => ⟨p.new_self, p.decode_encode, p.length_encode, p.wireFormed_encode⟩,
    fun b => ⟨?_, ?_⟩, fun b p => encode_of_decode, fun b => decode_of_not_wireFormed⟩
  · rintro ⟨p, hp⟩
    exact wireFormed_of_decode hp
  · intro hb
    obtain ⟨p, hp, -⟩ := decode_of_wireFormed hb
    exact ⟨p, hp⟩

end SpacePacket

end OpenSpaceEgse
