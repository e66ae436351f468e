import OpenSpaceEgse.Ccsds.TmTransferFrame

/-!
# TC transfer frames

A TC frame carries its own length, one less than the number of its bytes, in ten
bits of its header, so a frame has at most 1024 bytes and `decode` can reject a
byte string of any other length.  The codec is again a bijection between the frames
and the byte strings of the right form: `tcTransferFrame_codec`.
-/

namespace OpenSpaceEgse

open Wire

/-- A TC transfer frame that passed `__post_init__`. -/
structure TcTransferFrame where
  spacecraftId : ℕ
  virtualChannelId : ℕ
  frameSequenceNumber : ℕ
  dataField : Bytes
  bypassFlag : Bool
  controlCommandFlag : Bool
  version : ℕ
  reserved : ℕ
  fecf : Option Bytes
  version_le : version ≤ 0x03
  reserved_le : reserved ≤ 0x03
  spacecraftId_le : spacecraftId ≤ 0x03FF
  virtualChannelId_le : virtualChannelId ≤ 0x3F
  frameSequenceNumber_le : frameSequenceNumber ≤ 0xFF
  fecf_length : fecf = none ∨ fecf.map List.length = some 2
  length_le : 5 + dataField.length + (if fecf.isSome then 2 else 0) - 1 ≤ 0x03FF
deriving Repr

namespace TcTransferFrame

open TmTransferFrame (fecfLength fecf_check_iff fecf_of_check fecf_eq_sliceLast fecf_sliceLast
  length_fecf)

/-- The fields of a frame that are data. -/
def fields (f : TcTransferFrame) : List ℕ × List Bool × Bytes × Option Bytes :=
  ([f.spacecraftId, f.virtualChannelId, f.frameSequenceNumber, f.version, f.reserved],
    [f.bypassFlag, f.controlCommandFlag], f.dataField, f.fecf)

lemma fields_injective : Function.Injective fields := by
  rintro ⟨⟩ ⟨⟩ h
  simp only [fields, Prod.mk.injEq, List.cons.injEq] at h
  simp only [mk.injEq]
  simp only [h, and_self]

instance : DecidableEq TcTransferFrame := fun a b =>
  decidable_of_iff (a.fields = b.fields) fields_injective.eq_iff

def tcPrimaryHeaderLength : ℕ := 5

/-- The constructor `TcTransferFrame(...)` with its `__post_init__`. -/
def new (spacecraftId virtualChannelId frameSequenceNumber : ℤ) (dataField : Bytes)
    (bypassFlag controlCommandFlag : Bool) (version reserved : ℤ) (fecf : Option Bytes) :
    Except PyError TcTransferFrame :=
  if hv : ¬ (0 ≤ version ∧ version ≤ 0x03) then
    .error (.valueError "version must be in range 0..3")
  else if hr : ¬ (0 ≤ reserved ∧ reserved ≤ 0x03) then
    .error (.valueError "reserved must be in range 0..3")
  else if hs : ¬ (0 ≤ spacecraftId ∧ spacecraftId ≤ 0x03FF) then
    .error (.valueError "spacecraft_id must be in range 0..1023")
  else if hc : ¬ (0 ≤ virtualChannelId ∧ virtualChannelId ≤ 0x3F) then
    .error (.valueError "virtual_channel_id must be in range 0..63")
  else if hn : ¬ (0 ≤ frameSequenceNumber ∧ frameSequenceNumber ≤ 0xFF) then
    .error (.valueError "frame_sequence_number must be in range 0..255")
  else if he : fecf ≠ none ∧ fecf.map List.length ≠ some fecfLength then
    .error (.valueError "fecf must be exactly 2 bytes")
  else if hl : tcPrimaryHeaderLength + dataField.length +
      (if fecf.isSome then fecfLength else 0) - 1 > 0x03FF then
    .error (.valueError "TC frame length exceeds 10-bit field")
  else
    .ok
      { spacecraftId := spacecraftId.toNat
        virtualChannelId := virtualChannelId.toNat
        frameSequenceNumber := frameSequenceNumber.toNat
        dataField := dataField
        bypassFlag := bypassFlag
        controlCommandFlag := controlCommandFlag
        version := version.toNat
        reserved := reserved.toNat
        fecf := fecf
        version_le := by omega
        reserved_le := by omega
        spacecraftId_le := by omega
        virtualChannelId_le := by omega
        frameSequenceNumber_le := by omega
        fecf_length := fecf_of_check he
        length_le := Nat.le_of_not_lt hl }

/-- The property `total_length`. -/
def totalLength (self : TcTransferFrame) : ℕ :=
  let fecfLen := if self.fecf.isSome then fecfLength else 0
  tcPrimaryHeaderLength + self.dataField.length + fecfLen

/-- The property `frame_length_field`. -/
def frameLengthField (self : TcTransferFrame) : ℕ := self.totalLength - 1

/-- The local `first_word` of `encode`. -/
def firstWord (self : TcTransferFrame) : ℕ :=
  ((self.version &&& 0x03) <<< 14) ||| ((if self.bypassFlag then 1 else 0) <<< 13) |||
    ((if self.controlCommandFlag then 1 else 0) <<< 12) ||| ((self.reserved &&& 0x03) <<< 10) |||
    (self.spacecraftId &&& 0x03FF)

/-- The local `second_word` of `encode`. -/
def secondWord (self : TcTransferFrame) : ℕ :=
  ((self.virtualChannelId &&& 0x3F) <<< 10) ||| (self.frameLengthField &&& 0x03FF)

/-- `TcTransferFrame.encode`. -/
def encode (self : TcTransferFrame) : Bytes :=
  toBytes self.firstWord 2 ++ toBytes self.secondWord 2 ++
    toBytes self.frameSequenceNumber 1 ++ self.dataField ++ self.fecf.getD []

/-- `TcTransferFrame.decode`. -/
def decode (rawFrame : Bytes) (hasFecf : Bool := false) : Except PyError TcTransferFrame :=
  if rawFrame.length < tcPrimaryHeaderLength then
    .error (.valueError "raw_frame is too short for TC transfer frame")
  else
    let firstWord := fromBytes (slice rawFrame 0 2)
    let version := (firstWord >>> 14) &&& 0x03
    let bypassFlag := (firstWord >>> 13) &&& 0x01 != 0
    let controlCommandFlag := (firstWord >>> 12) &&& 0x01 != 0
    let reserved := (firstWord >>> 10) &&& 0x03
    let spacecraftId := firstWord &&& 0x03FF
    let secondWord := fromBytes (slice rawFrame 2 4)
    let virtualChannelId := (secondWord >>> 10) &&& 0x3F
    let frameLengthField := secondWord &&& 0x03FF
    let expectedTotalLen := frameLengthField + 1
    if rawFrame.length ≠ expectedTotalLen then
      .error (.valueError "raw_frame length does not match TC frame length field")
    else
      let frameSequenceNumber := byteAt rawFrame 4
      let trailerLen := if hasFecf then fecfLength else 0
      if rawFrame.length < tcPrimaryHeaderLength + trailerLen then
        .error (.valueError "raw_frame is shorter than TC header plus trailer")
      else
        let payloadEnd := rawFrame.length - trailerLen
        let dataField := slice rawFrame tcPrimaryHeaderLength payloadEnd
        let fecf := if hasFecf then some (sliceLast rawFrame fecfLength) else none
        new spacecraftId virtualChannelId frameSequenceNumber dataField bypassFlag
          controlCommandFlag version reserved fecf

/-- `TcTransferFrame.build`. -/
def build (spacecraftId virtualChannelId frameSequenceNumber : ℤ) (payload : Bytes)
    (bypassFlag controlCommandFlag : Bool := false) (fecf : Option Bytes := none) :
    Except PyError TcTransferFrame :=
  new spacecraftId virtualChannelId frameSequenceNumber payload bypassFlag controlCommandFlag
    0 0 fecf

/-! ## What the constructor accepts -/

section New

variable {spacecraftId virtualChannelId frameSequenceNumber version reserved : ℤ}
  {dataField : Bytes} {bypassFlag controlCommandFlag : Bool} {fecf : Option Bytes}

/-- A frame that was constructed has the fields it was constructed with. -/
lemma new_eq_ok {f : TcTransferFrame} (h : new spacecraftId virtualChannelId frameSequenceNumber
    dataField bypassFlag controlCommandFlag version reserved fecf = .ok f) :
    (f.spacecraftId : ℤ) = spacecraftId ∧ (f.virtualChannelId : ℤ) = virtualChannelId ∧
      (f.frameSequenceNumber : ℤ) = frameSequenceNumber ∧ f.dataField = dataField ∧
      f.bypassFlag = bypassFlag ∧ f.controlCommandFlag = controlCommandFlag ∧
      (f.version : ℤ) = version ∧ (f.reserved : ℤ) = reserved ∧ f.fecf = fecf := by
  obtain ⟨hv, h⟩ := dite_eq_ok h
  obtain ⟨hr, h⟩ := dite_eq_ok h
  obtain ⟨hs, h⟩ := dite_eq_ok h
  obtain ⟨hc, h⟩ := dite_eq_ok h
  obtain ⟨hn, h⟩ := dite_eq_ok h
  obtain ⟨he, h⟩ := dite_eq_ok h
  obtain ⟨hl, h⟩ := dite_eq_ok h
  cases h
  refine ⟨?_, ?_, ?_, rfl, rfl, rfl, ?_, ?_, rfl⟩
  · exact Int.toNat_of_nonneg (not_not.mp hs).1
  · exact Int.toNat_of_nonneg (not_not.mp hc).1
  · exact Int.toNat_of_nonneg (not_not.mp hn).1
  · exact Int.toNat_of_nonneg (not_not.mp hv).1
  · exact Int.toNat_of_nonneg (not_not.mp hr).1

lemma exists_new (hv : 0 ≤ version ∧ version ≤ 3) (hr : 0 ≤ reserved ∧ reserved ≤ 3)
    (hs : 0 ≤ spacecraftId ∧ spacecraftId ≤ 1023) (hc : 0 ≤ virtualChannelId ∧
    virtualChannelId ≤ 63) (hn : 0 ≤ frameSequenceNumber ∧ frameSequenceNumber ≤ 255)
    (he : fecf = none ∨ fecf.map List.length = some 2) (hl : dataField.length ≤ 1017) :
    ∃ f, new spacecraftId virtualChannelId frameSequenceNumber dataField bypassFlag
      controlCommandFlag version reserved fecf = .ok f := by
  have hl' : ¬ tcPrimaryHeaderLength + dataField.length +
      (if fecf.isSome then fecfLength else 0) - 1 > 0x03FF := by
    simp only [tcPrimaryHeaderLength, fecfLength]
    split <;> omega
  exact ⟨_, (dif_neg (not_not.mpr hv)).trans ((dif_neg (not_not.mpr hr)).trans
    ((dif_neg (not_not.mpr hs)).trans ((dif_neg (not_not.mpr hc)).trans
    ((dif_neg (not_not.mpr hn)).trans ((dif_neg (fecf_check_iff.mpr he)).trans (dif_neg hl'))))))⟩

end New

/-! ## The header words -/

lemma firstWord_eq (f : TcTransferFrame) :
    f.firstWord = f.version * 16384 + (if f.bypassFlag then 1 else 0) * 8192 +
      (if f.controlCommandFlag then 1 else 0) * 4096 + f.reserved * 1024 + f.spacecraftId := by
  have hv := f.version_le
  have hr := f.reserved_le
  have hs := f.spacecraftId_le
  have h₁ := bit_le f.bypassFlag
  have h₂ := bit_le f.controlCommandFlag
  rw [firstWord, land_mask 0x03 2 rfl, land_mask 0x03 2 rfl, land_mask 0x03FF 10 rfl,
    Nat.or_assoc, Nat.or_assoc, Nat.or_assoc]
  rw [shiftLeft_lor (k := 10), shiftLeft_lor (k := 12), shiftLeft_lor (k := 13),
    shiftLeft_lor (k := 14)] <;> omega

lemma firstWord_lt (f : TcTransferFrame) : f.firstWord < 256 ^ 2 := by
  have hv := f.version_le
  have hr := f.reserved_le
  have hs := f.spacecraftId_le
  have h₁ := bit_le f.bypassFlag
  have h₂ := bit_le f.controlCommandFlag
  rw [firstWord_eq]
  omega

lemma totalLength_le (f : TcTransferFrame) : f.totalLength ≤ 1024 := by
  have hl := f.length_le
  simp only [totalLength, tcPrimaryHeaderLength, fecfLength]
  omega

lemma frameLengthField_eq (f : TcTransferFrame) : f.frameLengthField + 1 = f.totalLength := by
  simp only [frameLengthField, totalLength, tcPrimaryHeaderLength]
  omega

lemma secondWord_eq (f : TcTransferFrame) :
    f.secondWord = f.virtualChannelId * 1024 + f.frameLengthField := by
  have hc := f.virtualChannelId_le
  have hl := f.totalLength_le
  have hf := f.frameLengthField_eq
  rw [secondWord, land_mask 0x3F 6 rfl, land_mask 0x03FF 10 rfl, shiftLeft_lor (k := 10)] <;> omega

lemma secondWord_lt (f : TcTransferFrame) : f.secondWord < 256 ^ 2 := by
  have hc := f.virtualChannelId_le
  have hl := f.totalLength_le
  have hf := f.frameLengthField_eq
  rw [secondWord_eq]
  omega

/-! ## The layout of an encoding -/

lemma length_encode (f : TcTransferFrame) : f.encode.length = f.totalLength := by
  simp only [encode, List.length_append, length_toBytes, length_fecf f.fecf_length, totalLength,
    tcPrimaryHeaderLength]

lemma slice_encode_first (f : TcTransferFrame) : slice f.encode 0 2 = toBytes f.firstWord 2 := by
  simp [slice, encode]

lemma slice_encode_second (f : TcTransferFrame) : slice f.encode 2 4 = toBytes f.secondWord 2 := by
  simp [slice, encode, toBytes]

lemma byteAt_encode (f : TcTransferFrame) : byteAt f.encode 4 = f.frameSequenceNumber := by
  have := f.frameSequenceNumber_le
  simp [byteAt, encode, toBytes]
  omega

lemma slice_encode_data (f : TcTransferFrame) :
    slice f.encode 5 (5 + f.dataField.length) = f.dataField := by
  simp [slice, encode, toBytes]

lemma fecf_eq_sliceLast_encode (f : TcTransferFrame) :
    f.fecf = if f.fecf.isSome then some (sliceLast f.encode fecfLength) else none :=
  fecf_eq_sliceLast f.fecf_length _

/-! ## Decoding what was encoded -/

/-- Every frame passes the checks of the constructor. -/
lemma new_self (f : TcTransferFrame) :
    new f.spacecraftId f.virtualChannelId f.frameSequenceNumber f.dataField f.bypassFlag
      f.controlCommandFlag f.version f.reserved f.fecf = .ok f := by
  have hv := f.version_le
  have hr := f.reserved_le
  have hs := f.spacecraftId_le
  have hc := f.virtualChannelId_le
  have hn := f.frameSequenceNumber_le
  have hl := f.length_le
  have hlen : ¬ tcPrimaryHeaderLength + f.dataField.length +
      (if f.fecf.isSome then fecfLength else 0) - 1 > 0x03FF := Nat.not_lt_of_le hl
  rw [new, dif_neg (by omega), dif_neg (by omega), dif_neg (by omega), dif_neg (by omega),
    dif_neg (by omega), dif_neg (fecf_check_iff.mpr f.fecf_length), dif_neg hlen]
  rfl

/-- The fields of the first word are read back from their places in the sum. -/
lemma fields_firstWord (f : TcTransferFrame) :
    (f.firstWord >>> 14) &&& 0x03 = f.version ∧
      ((f.firstWord >>> 13) &&& 0x01 != 0) = f.bypassFlag ∧
      ((f.firstWord >>> 12) &&& 0x01 != 0) = f.controlCommandFlag ∧
      (f.firstWord >>> 10) &&& 0x03 = f.reserved ∧ f.firstWord &&& 0x03FF = f.spacecraftId := by
  have hv := f.version_le
  have hr := f.reserved_le
  have hs := f.spacecraftId_le
  have h₁ := bit_le f.bypassFlag
  have h₂ := bit_le f.controlCommandFlag
  simp only [firstWord_eq, land_mask 0x01 1 rfl, land_mask 0x03 2 rfl, land_mask 0x03FF 10 rfl,
    Nat.shiftRight_eq_div_pow]
  refine ⟨?_, bit_ne_zero ?_, bit_ne_zero ?_, ?_, ?_⟩ <;> omega

lemma fields_secondWord (f : TcTransferFrame) :
    (f.secondWord >>> 10) &&& 0x3F = f.virtualChannelId ∧
      f.secondWord &&& 0x03FF = f.frameLengthField := by
  have hc := f.virtualChannelId_le
  have hl := f.totalLength_le
  have hf := f.frameLengthField_eq
  simp only [secondWord_eq, land_mask 0x3F 6 rfl, land_mask 0x03FF 10 rfl,
    Nat.shiftRight_eq_div_pow]
  constructor <;> omega

theorem decode_encode (f : TcTransferFrame) : decode f.encode f.fecf.isSome = .ok f := by
  obtain ⟨hversion, hbypass, hcontrol, hreserved, hscid⟩ := f.fields_firstWord
  obtain ⟨hvcid, hfield⟩ := f.fields_secondWord
  have hf := f.frameLengthField_eq
  have hlen : f.encode.length = f.frameLengthField + 1 := by rw [length_encode, hf]
  have hcover : f.encode.length = 5 + f.dataField.length +
      (if f.fecf.isSome then fecfLength else 0) := f.length_encode
  have hshort : ¬ f.encode.length < tcPrimaryHeaderLength := by
    rw [hcover, tcPrimaryHeaderLength]
    omega
  have htrailer : ¬ f.encode.length < tcPrimaryHeaderLength +
      (if f.fecf.isSome then fecfLength else 0) := by
    rw [hcover, tcPrimaryHeaderLength]
    omega
  have hend : f.encode.length - (if f.fecf.isSome then fecfLength else 0)
      = 5 + f.dataField.length := by
    rw [hcover]
    omega
  rw [decode, if_neg hshort, slice_encode_first, slice_encode_second, byteAt_encode,
    fromBytes_toBytes f.firstWord_lt, fromBytes_toBytes f.secondWord_lt]
  simp only [hversion, hbypass, hcontrol, hreserved, hscid, hvcid, hfield]
  rw [if_neg (not_not.mpr hlen), if_neg htrailer, hend, ← fecf_eq_sliceLast_encode]
  rw [show slice f.encode tcPrimaryHeaderLength (5 + f.dataField.length) = f.dataField from
    f.slice_encode_data]
  exact f.new_self

/-! ## Encoding what was decoded -/

/-- The byte strings that are frames: they hold the header and the trailer, and the
length field agrees with the length. -/
def WireFormed (hasFecf : Bool) (b : Bytes) : Prop :=
  tcPrimaryHeaderLength + (if hasFecf then fecfLength else 0) ≤ b.length ∧
    b.length = fromBytes (slice b 2 4) % 1024 + 1

instance (hasFecf : Bool) (b : Bytes) : Decidable (WireFormed hasFecf b) :=
  inferInstanceAs (Decidable (_ ∧ _))

lemma wireFormed_encode (f : TcTransferFrame) : WireFormed f.fecf.isSome f.encode := by
  have hl := f.totalLength_le
  have hf := f.frameLengthField_eq
  have h₂ := f.secondWord_eq
  rw [WireFormed, slice_encode_second, fromBytes_toBytes f.secondWord_lt, h₂, length_encode]
  refine ⟨?_, by omega⟩
  simp only [totalLength]
  omega

/-- The frame with the given header words, sequence number, data field and trailer. -/
def ofWords (w₁ w₂ seq : ℕ) (data : Bytes) (fecf : Option Bytes) (hseq : seq < 256)
    (hfecf : fecf = none ∨ fecf.map List.length = some 2)
    (hlen : 5 + data.length + (if fecf.isSome then 2 else 0) = w₂ % 2 ^ 10 + 1) :
    TcTransferFrame where
  spacecraftId := w₁ % 2 ^ 10
  virtualChannelId := w₂ / 2 ^ 10 % 2 ^ 6
  frameSequenceNumber := seq
  dataField := data
  bypassFlag := w₁ / 2 ^ 13 % 2 ^ 1 != 0
  controlCommandFlag := w₁ / 2 ^ 12 % 2 ^ 1 != 0
  version := w₁ / 2 ^ 14 % 2 ^ 2
  reserved := w₁ / 2 ^ 10 % 2 ^ 2
  fecf := fecf
  version_le := by omega
  reserved_le := by omega
  spacecraftId_le := by omega
  virtualChannelId_le := by omega
  frameSequenceNumber_le := by omega
  fecf_length := hfecf
  length_le := by omega

section OfWords

variable {w₁ w₂ seq : ℕ} {data : Bytes} {fecf : Option Bytes} (hseq : seq < 256)
  (hfecf : fecf = none ∨ fecf.map List.length = some 2)
  (hlen : 5 + data.length + (if fecf.isSome then 2 else 0) = w₂ % 2 ^ 10 + 1)

lemma firstWord_ofWords (h : w₁ < 256 ^ 2) :
    (ofWords w₁ w₂ seq data fecf hseq hfecf hlen).firstWord = w₁ := by
  generalize hf : ofWords w₁ w₂ seq data fecf hseq hfecf hlen = f
  have h₁ : (if f.bypassFlag then 1 else 0) = w₁ / 2 ^ 13 % 2 ^ 1 :=
    bit_eq (by rw [← hf]; rfl)
  have h₂ : (if f.controlCommandFlag then 1 else 0) = w₁ / 2 ^ 12 % 2 ^ 1 :=
    bit_eq (by rw [← hf]; rfl)
  rw [firstWord_eq, h₁, h₂, ← hf]
  simp only [ofWords]
  omega

lemma secondWord_ofWords (h : w₂ < 256 ^ 2) :
    (ofWords w₁ w₂ seq data fecf hseq hfecf hlen).secondWord = w₂ := by
  have hfield : (ofWords w₁ w₂ seq data fecf hseq hfecf hlen).frameLengthField + 1
      = w₂ % 2 ^ 10 + 1 := by
    rw [frameLengthField_eq, ← hlen]
    rfl
  rw [secondWord_eq]
  simp only [ofWords] at hfield ⊢
  omega

end OfWords

/-- A byte string of the right form is decoded, and to a frame that encodes to it. -/
theorem decode_of_wireFormed {hasFecf : Bool} {b : Bytes} (h : WireFormed hasFecf b) :
    ∃ f, decode b hasFecf = .ok f ∧ f.encode = b ∧ f.fecf.isSome = hasFecf := by
  obtain ⟨hcover, hexact⟩ := h
  simp only [tcPrimaryHeaderLength] at hcover
  have hfive : 5 ≤ b.length := by omega
  have hw₁ := fromBytes_slice_lt (b := b) (i := 0) (j := 2) (by omega) rfl
  have hw₂ := fromBytes_slice_lt (b := b) (i := 2) (j := 4) (by omega) rfl
  generalize hend : b.length - (if hasFecf then fecfLength else 0) = payloadEnd
  have hle : 5 ≤ payloadEnd := by omega
  have hsum : payloadEnd + (if hasFecf then fecfLength else 0) = b.length := by omega
  have hdata : (slice b 5 payloadEnd).length = payloadEnd - 5 := length_slice (by omega)
  have hfecf := fecf_sliceLast b hasFecf (by omega)
  have hsome : (if hasFecf then some (sliceLast b fecfLength) else none).isSome = hasFecf := by
    cases hasFecf <;> rfl
  have hlen : 5 + (slice b 5 payloadEnd).length +
      (if (if hasFecf then some (sliceLast b fecfLength) else none).isSome then 2 else 0)
        = fromBytes (slice b 2 4) % 2 ^ 10 + 1 := by
    rw [hsome, hdata]
    simp only [fecfLength] at hsum
    omega
  let f : TcTransferFrame := ofWords (fromBytes (slice b 0 2)) (fromBytes (slice b 2 4))
    (byteAt b 4) (slice b 5 payloadEnd) _ (byteAt_lt b 4) hfecf hlen
  refine ⟨f, ?_, ?_, hsome⟩
  · have hnew := f.new_self
    rw [decode, if_neg (by simp only [tcPrimaryHeaderLength]; omega)]
    simp only [land_mask 0x01 1 rfl, land_mask 0x03 2 rfl, land_mask 0x3F 6 rfl,
      land_mask 0x03FF 10 rfl, Nat.shiftRight_eq_div_pow]
    have hlength : b.length = fromBytes (slice b 2 4) % 2 ^ 10 + 1 := by omega
    rw [if_neg (not_not.mpr hlength), if_neg (by simp only [tcPrimaryHeaderLength]; omega), hend]
    exact hnew
  · -- the slices that were decoded follow each other without a gap
    have hfirst : f.firstWord = fromBytes (slice b 0 2) := firstWord_ofWords _ _ _ hw₁
    have hsecond : f.secondWord = fromBytes (slice b 2 4) := secondWord_ofWords _ _ _ hw₂
    have htail : f.fecf.getD [] = sliceFrom b payloadEnd := by
      cases hasFecf with
      | false => exact (List.drop_eq_nil_of_le (by simp at hsum; omega)).symm
      | true => exact TmTransferFrame.sliceLast_append hsum
    rw [encode, hfirst, hsecond, htail]
    show toBytes (fromBytes (slice b 0 2)) 2 ++ toBytes (fromBytes (slice b 2 4)) 2 ++
      toBytes (byteAt b 4) 1 ++ slice b 5 payloadEnd ++ sliceFrom b payloadEnd = b
    rw [toBytes_fromBytes_slice (by omega) rfl, toBytes_byteAt (j := 5) (by omega) rfl,
      toBytes_fromBytes_slice (by omega) rfl, slice_append_slice (by omega) (by omega),
      slice_append_slice (by omega) (by omega), slice_append_slice (by omega) hle]
    exact slice_append_sliceFrom b (Nat.zero_le _)

/-- Every other byte string is refused with a `ValueError`. -/
lemma decode_of_not_wireFormed {hasFecf : Bool} {b : Bytes} (h : ¬ WireFormed hasFecf b) :
    ∃ msg, decode b hasFecf = .error (.valueError msg) := by
  have hmask : fromBytes (slice b 2 4) &&& 0x03FF = fromBytes (slice b 2 4) % 1024 :=
    land_mask 0x03FF 10 rfl
  rw [decode]
  by_cases hshort : b.length < tcPrimaryHeaderLength
  · exact ⟨_, if_pos hshort⟩
  · rw [if_neg hshort]
    simp only [hmask]
    by_cases hexact : b.length = fromBytes (slice b 2 4) % 1024 + 1
    · rw [if_neg (not_not.mpr hexact)]
      exact ⟨_, if_pos (Nat.lt_of_not_le fun hle => h ⟨hle, hexact⟩)⟩
    · exact ⟨_, if_pos hexact⟩

lemma wireFormed_of_decode {hasFecf : Bool} {b : Bytes} {f : TcTransferFrame}
    (h : decode b hasFecf = .ok f) : WireFormed hasFecf b := by
  by_contra hb
  obtain ⟨msg, hmsg⟩ := decode_of_not_wireFormed hb
  rw [h] at hmsg
  exact absurd hmsg (by simp)

lemma encode_of_decode {hasFecf : Bool} {b : Bytes} {f : TcTransferFrame}
    (h : decode b hasFecf = .ok f) : f.encode = b ∧ f.fecf.isSome = hasFecf := by
  obtain ⟨g, hg, hgb, hgf⟩ := decode_of_wireFormed (wireFormed_of_decode h)
  rw [h, Except.ok.injEq] at hg
  rw [hg]
  exact ⟨hgb, hgf⟩

/-- The length field of an encoding.  The mask of `encode` does not change it. -/
lemma lengthField_encode (f : TcTransferFrame) :
    f.frameLengthField &&& 0x03FF = f.frameLengthField ∧
      fromBytes (slice f.encode 2 4) % 2 ^ 10 = f.encode.length - 1 := by
  have hl := f.totalLength_le
  have hf := f.frameLengthField_eq
  have h₂ := f.secondWord_eq
  constructor
  · rw [land_mask 0x03FF 10 rfl]
    omega
  · rw [slice_encode_second, fromBytes_toBytes f.secondWord_lt, length_encode]
    omega

/-- The right form bounds the length, since the length field has ten bits. -/
lemma wireFormed_iff {hasFecf : Bool} {b : Bytes} :
    WireFormed hasFecf b ↔ 5 + (if hasFecf then 2 else 0) ≤ b.length ∧ b.length ≤ 1024 ∧
      b.length = fromBytes (slice b 2 4) % 2 ^ 10 + 1 := by
  simp only [WireFormed, tcPrimaryHeaderLength, fecfLength]
  omega

/-- **The TC frame codec is a bijection**, for either value of `has_fecf`.  Every frame
with that trailer passes its own checks and is the decoding of its encoding, which is as
long as announced, here and in its length field.  A byte string is decoded if and only if
it holds the header and the trailer and its length field fits its length, and then it is
the encoding of what it decodes to; all others are refused with a `ValueError`. -/
theorem tcTransferFrame_codec (hasFecf : Bool) :
    (∀ f : TcTransferFrame, f.fecf.isSome = hasFecf →
      new f.spacecraftId f.virtualChannelId f.frameSequenceNumber f.dataField f.bypassFlag
        f.controlCommandFlag f.version f.reserved f.fecf = .ok f ∧
      decode f.encode hasFecf = .ok f ∧ f.encode.length = f.totalLength ∧
      f.frameLengthField &&& 0x03FF = f.frameLengthField ∧
      fromBytes (slice f.encode 2 4) % 2 ^ 10 = f.encode.length - 1 ∧
      WireFormed hasFecf f.encode) ∧
    (∀ b : Bytes, (∃ f, decode b hasFecf = .ok f) ↔
      5 + (if hasFecf then 2 else 0) ≤ b.length ∧ b.length ≤ 1024 ∧
        b.length = fromBytes (slice b 2 4) % 2 ^ 10 + 1) ∧
    (∀ b f, decode b hasFecf = .ok f → f.encode = b ∧ f.fecf.isSome = hasFecf) ∧
    ∀ b, ¬ WireFormed hasFecf b → ∃ msg, decode b hasFecf = .error (.valueError msg) := by
  refine ⟨?_, ?_, fun b f => encode_of_decode, fun b => decode_of_not_wireFormed⟩
  · rintro f rfl
    obtain ⟨hmask, hfield⟩ := f.lengthField_encode
    exact ⟨f.new_self, f.decode_encode, f.length_encode, hmask, hfield, f.wireFormed_encode⟩
  · intro b
    rw [← wireFormed_iff]
    constructor
    · rintro ⟨f, hf⟩
      exact wireFormed_of_decode hf
    · intro hb
      obtain ⟨f, hf, -⟩ := decode_of_wireFormed hb
      exact ⟨f, hf⟩

end TcTransferFrame

end OpenSpaceEgse
