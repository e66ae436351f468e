import OpenSpaceEgse.Python

/-!
# TM transfer frames

A TM frame is a header of six bytes, a data field of any length, and two optional
trailers: the operational control field, announced by a header bit, and the frame
error control field, whose presence the receiver has to be told.

The main result is `tmTransferFrame_codec`: for either value of `has_fecf`, the codec is a
bijection between the frames and the byte strings that hold the header and the trailers.
-/

namespace OpenSpaceEgse

open Wire

/-- A TM transfer frame that passed `__post_init__`. -/
structure TmTransferFrame where
  spacecraftId : ℕ
  virtualChannelId : ℕ
  masterChannelFrameCount : ℕ
  virtualChannelFrameCount : ℕ
  firstHeaderPointer : ℕ
  dataField : Bytes
  ocfFlag : Bool
  secondaryHeaderFlag : Bool
  synchFlag : Bool
  packetOrderFlag : Bool
  segmentLengthId : ℕ
  version : ℕ
  ocf : Option Bytes
  fecf : Option Bytes
  version_le : version ≤ 0x03
  spacecraftId_le : spacecraftId ≤ 0x03FF
  virtualChannelId_le : virtualChannelId ≤ 0x07
  masterChannelFrameCount_le : masterChannelFrameCount ≤ 0xFF
  virtualChannelFrameCount_le : virtualChannelFrameCount ≤ 0xFF
  firstHeaderPointer_le : firstHeaderPointer ≤ 0x07FF
  segmentLengthId_le : segmentLengthId ≤ 0x03
  ocf_some : ocfFlag = true → ocf.map List.length = some 4
  ocf_none : ocfFlag = false → ocf = none
  fecf_length : fecf = none ∨ fecf.map List.length = some 2
deriving Repr

namespace TmTransferFrame

/-- The fields of a frame that are data. -/
def fields (f : TmTransferFrame) : List ℕ × List Bool × Bytes × Option Bytes × Option Bytes :=
  ([f.spacecraftId, f.virtualChannelId, f.masterChannelFrameCount, f.virtualChannelFrameCount,
      f.firstHeaderPointer, f.segmentLengthId, f.version],
    [f.ocfFlag, f.secondaryHeaderFlag, f.synchFlag, f.packetOrderFlag], f.dataField, f.ocf, f.fecf)

lemma fields_injective : Function.Injective fields := by
  rintro ⟨⟩ ⟨⟩ h
  simp only [fields, Prod.mk.injEq, List.cons.injEq] at h
  simp only [mk.injEq]
  simp only [h, and_self]

instance : DecidableEq TmTransferFrame := fun a b =>
  decidable_of_iff (a.fields = b.fields) fields_injective.eq_iff

def tmPrimaryHeaderLength : ℕ := 6
def tmOcfLength : ℕ := 4
def fecfLength : ℕ := 2

lemma fecf_check_iff {fecf : Option Bytes} :
    ¬ (fecf ≠ none ∧ fecf.map List.length ≠ some fecfLength) ↔
      fecf = none ∨ fecf.map List.length = some 2 := by
  rw [not_and_or, not_not, not_not, fecfLength]

/-- What is left of the check of the `fecf`. -/
lemma fecf_of_check {fecf : Option Bytes}
    (h : ¬ (fecf ≠ none ∧ fecf.map List.length ≠ some fecfLength)) :
    fecf = none ∨ fecf.map List.length = some 2 := fecf_check_iff.mp h

/-- The constructor `TmTransferFrame(...)` with its `__post_init__`. -/
def new (spacecraftId virtualChannelId masterChannelFrameCount virtualChannelFrameCount
    firstHeaderPointer : ℤ) (dataField : Bytes)
    (ocfFlag secondaryHeaderFlag synchFlag packetOrderFlag : Bool)
    (segmentLengthId version : ℤ) (ocf fecf : Option Bytes) : Except PyError TmTransferFrame :=
  if hv : ¬ (0 ≤ version ∧ version ≤ 0x03) then
    .error (.valueError "version must be in range 0..3")
  else if hs : ¬ (0 ≤ spacecraftId ∧ spacecraftId ≤ 0x03FF) then
    .error (.valueError "spacecraft_id must be in range 0..1023")
  else if hc : ¬ (0 ≤ virtualChannelId ∧ virtualChannelId ≤ 0x07) then
    .error (.valueError "virtual_channel_id must be in range 0..7")
  else if hm : ¬ (0 ≤ masterChannelFrameCount ∧ masterChannelFrameCount ≤ 0xFF) then
    .error (.valueError "master_channel_frame_count must be in range 0..255")
  else if hf : ¬ (0 ≤ virtualChannelFrameCount ∧ virtualChannelFrameCount ≤ 0xFF) then
    .error (.valueError "virtual_channel_frame_count must be in range 0..255")
  else if hp : ¬ (0 ≤ firstHeaderPointer ∧ firstHeaderPointer ≤ 0x07FF) then
    .error (.valueError "first_header_pointer must be in range 0..2047")
  else if hi : ¬ (0 ≤ segmentLengthId ∧ segmentLengthId ≤ 0x03) then
    .error (.valueError "segment_length_id must be in range 0..3")
  else if ocfFlag = true ∧ ocf = none then
    .error (.valueError "ocf must be provided when ocf_flag is set")
  else if ho : ocfFlag = true ∧ ocf.map List.length ≠ some tmOcfLength then
    .error (.valueError "ocf must be exactly 4 bytes")
  else if hn : ocfFlag = false ∧ ocf ≠ none then
    .error (.valueError "ocf must be None when ocf_flag is not set")
  else if he : fecf ≠ none ∧ fecf.map List.length ≠ some fecfLength then
    .error (.valueError "fecf must be exactly 2 bytes")
  else
    .ok
      { spacecraftId := spacecraftId.toNat
        virtualChannelId := virtualChannelId.toNat
        masterChannelFrameCount := masterChannelFrameCount.toNat
        virtualChannelFrameCount := virtualChannelFrameCount.toNat
        firstHeaderPointer := firstHeaderPointer.toNat
        dataField := dataField
        ocfFlag := ocfFlag
        secondaryHeaderFlag := secondaryHeaderFlag
        synchFlag := synchFlag
        packetOrderFlag := packetOrderFlag
        segmentLengthId := segmentLengthId.toNat
        version := version.toNat
        ocf := ocf
        fecf := fecf
        version_le := by omega
        spacecraftId_le := by omega
        virtualChannelId_le := by omega
        masterChannelFrameCount_le := by omega
        virtualChannelFrameCount_le := by omega
        firstHeaderPointer_le := by omega
        segmentLengthId_le := by omega
        ocf_some := fun h => not_not.mp fun hne => ho ⟨h, hne⟩
        ocf_none := fun h => not_not.mp fun hne => hn ⟨h, hne⟩
        fecf_length := fecf_of_check he }

/-- The property `total_length`. -/
def totalLength (self : TmTransferFrame) : ℕ :=
  let ocfLen := if self.ocfFlag then tmOcfLength else 0
  let fecfLen := if self.fecf.isSome then fecfLength else 0
  tmPrimaryHeaderLength + self.dataField.length + ocfLen + fecfLen

/-- The local `first_word` of `encode`. -/
def firstWord (self : TmTransferFrame) : ℕ :=
  ((self.version &&& 0x03) <<< 14) ||| ((self.spacecraftId &&& 0x03FF) <<< 4) |||
    ((self.virtualChannelId &&& 0x07) <<< 1) ||| (if self.ocfFlag then 1 else 0)

/-- The local `second_word` of `encode`. -/
def secondWord (self : TmTransferFrame) : ℕ :=
  ((if self.secondaryHeaderFlag then 1 else 0) <<< 15) |||
    ((if self.synchFlag then 1 else 0) <<< 14) |||
    ((if self.packetOrderFlag then 1 else 0) <<< 13) |||
    ((self.segmentLengthId &&& 0x03) <<< 11) ||| (self.firstHeaderPointer &&& 0x07FF)

/-- The bytes that `encode` puts behind the data field. -/
def trailer (self : TmTransferFrame) : Bytes :=
  (if self.ocfFlag then self.ocf.getD [] else []) ++ self.fecf.getD []

/-- `TmTransferFrame.encode`. -/
def encode (self : TmTransferFrame) : Bytes :=
  toBytes self.firstWord 2 ++ toBytes self.masterChannelFrameCount 1 ++
    toBytes self.virtualChannelFrameCount 1 ++ toBytes self.secondWord 2 ++
    self.dataField ++ self.trailer

/-- `TmTransferFrame.decode`. -/
def decode (rawFrame : Bytes) (hasFecf : Bool := false) : Except PyError TmTransferFrame :=
  if rawFrame.length < tmPrimaryHeaderLength then
    .error (.valueError "raw_frame is too short for TM transfer frame")
  else
    let firstWord := fromBytes (slice rawFrame 0 2)
    let version := (firstWord >>> 14) &&& 0x03
    let spacecraftId := (firstWord >>> 4) &&& 0x03FF
    let virtualChannelId := (firstWord >>> 1) &&& 0x07
    let ocfFlag := firstWord &&& 0x01 != 0
    let mcfc := byteAt rawFrame 2
    let vcfc := byteAt rawFrame 3
    let secondWord := fromBytes (slice rawFrame 4 6)
    let secondaryHeaderFlag := (secondWord >>> 15) &&& 0x01 != 0
    let synchFlag := (secondWord >>> 14) &&& 0x01 != 0
    let packetOrderFlag := (secondWord >>> 13) &&& 0x01 != 0
    let segmentLengthId := (secondWord >>> 11) &&& 0x03
    let firstHeaderPointer := secondWord &&& 0x07FF
    let trailerLen := (if ocfFlag then tmOcfLength else 0) + (if hasFecf then fecfLength else 0)
    if rawFrame.length < tmPrimaryHeaderLength + trailerLen then
      .error (.valueError "raw_frame is shorter than TM header plus trailer")
    else
      let payloadEnd := rawFrame.length - trailerLen
      let dataField := slice rawFrame tmPrimaryHeaderLength payloadEnd
      let ocf := if ocfFlag then some (slice rawFrame payloadEnd (payloadEnd + tmOcfLength))
        else none
      let fecf := if hasFecf then some (sliceLast rawFrame fecfLength) else none
      new spacecraftId virtualChannelId mcfc vcfc firstHeaderPointer dataField ocfFlag
        secondaryHeaderFlag synchFlag packetOrderFlag segmentLengthId version ocf fecf

/-- `TmTransferFrame.build`. -/
def build (spacecraftId virtualChannelId masterChannelFrameCount virtualChannelFrameCount : ℤ)
    (payload : Bytes) (firstHeaderPointer : ℤ)
    (secondaryHeaderFlag synchFlag packetOrderFlag : Bool := false)
    (segmentLengthId : ℤ := 0b11) (ocf fecf : Option Bytes := none) :
    Except PyError TmTransferFrame :=
  new spacecraftId virtualChannelId masterChannelFrameCount virtualChannelFrameCount
    firstHeaderPointer payload ocf.isSome secondaryHeaderFlag synchFlag packetOrderFlag
    segmentLengthId 0 ocf fecf

/-! ## The trailer that TM and TC frames share -/

section Fecf

variable {fecf : Option Bytes}

lemma length_fecf (h : fecf = none ∨ fecf.map List.length = some 2) :
    (fecf.getD []).length = if fecf.isSome then fecfLength else 0 := by
  rcases h with rfl | h
  · rfl
  · obtain ⟨e, rfl, hlen⟩ := Option.map_eq_some_iff.mp h
    exact hlen

/-- It is cut off again from the end of a string that it was put behind. -/
lemma fecf_eq_sliceLast (h : fecf = none ∨ fecf.map List.length = some 2) (u : Bytes) :
    fecf = if fecf.isSome then some (sliceLast (u ++ fecf.getD []) fecfLength) else none := by
  rcases h with rfl | h
  · rfl
  · obtain ⟨e, rfl, hlen⟩ := Option.map_eq_some_iff.mp h
    have hlast : sliceLast (u ++ e) fecfLength = e := by
      rw [sliceLast, List.length_append, hlen, fecfLength, Nat.add_sub_cancel, List.drop_left]
    rw [Option.getD_some, Option.isSome_some, if_pos rfl, hlast]

/-- What is cut off the end of a string has the right length. -/
lemma fecf_sliceLast (b : Bytes) (hasFecf : Bool)
    (h : (if hasFecf then fecfLength else 0) ≤ b.length) :
    (if hasFecf then some (sliceLast b fecfLength) else none) = none ∨
      (if hasFecf then some (sliceLast b fecfLength) else none).map List.length = some 2 := by
  cases hasFecf with
  | false => exact Or.inl rfl
  | true =>
      rw [if_pos rfl] at h
      have hlen : (sliceLast b fecfLength).length = fecfLength := by
        rw [sliceLast, List.length_drop, Nat.sub_sub_self h]
      exact Or.inr (congrArg some hlen)

end Fecf

/-! ## What the constructor accepts -/

section New

variable {spacecraftId virtualChannelId masterChannelFrameCount virtualChannelFrameCount
  firstHeaderPointer segmentLengthId version : ℤ} {dataField : Bytes}
  {ocfFlag secondaryHeaderFlag synchFlag packetOrderFlag : Bool} {ocf fecf : Option Bytes}

/-- A frame that was constructed has the fields it was constructed with. -/
lemma new_eq_ok {f : TmTransferFrame} (h : new spacecraftId virtualChannelId
    masterChannelFrameCount virtualChannelFrameCount firstHeaderPointer dataField ocfFlag
    secondaryHeaderFlag synchFlag packetOrderFlag segmentLengthId version ocf fecf = .ok f) :
    ((f.spacecraftId : ℤ) = spacecraftId ∧ (f.virtualChannelId : ℤ) = virtualChannelId ∧
      (f.masterChannelFrameCount : ℤ) = masterChannelFrameCount ∧
      (f.virtualChannelFrameCount : ℤ) = virtualChannelFrameCount ∧
      (f.firstHeaderPointer : ℤ) = firstHeaderPointer ∧
      (f.segmentLengthId : ℤ) = segmentLengthId ∧ (f.version : ℤ) = version) ∧
      f.dataField = dataField ∧ f.ocfFlag = ocfFlag ∧
      f.secondaryHeaderFlag = secondaryHeaderFlag ∧ f.synchFlag = synchFlag ∧
      f.packetOrderFlag = packetOrderFlag ∧ f.ocf = ocf ∧ f.fecf = fecf := by
  obtain ⟨hv, h⟩ := dite_eq_ok h
  obtain ⟨hs, h⟩ := dite_eq_ok h
  obtain ⟨hc, h⟩ := dite_eq_ok h
  obtain ⟨hm, h⟩ := dite_eq_ok h
  obtain ⟨hf, h⟩ := dite_eq_ok h
  obtain ⟨hp, h⟩ := dite_eq_ok h
  obtain ⟨hi, h⟩ := dite_eq_ok h
  obtain ⟨ho, h⟩ := dite_eq_ok (ite_eq_ok h)
  obtain ⟨hn, h⟩ := dite_eq_ok h
  obtain ⟨he, h⟩ := dite_eq_ok h
  cases h
  refine ⟨⟨?_, ?_, ?_, ?_, ?_, ?_, ?_⟩, rfl, rfl, rfl, rfl, rfl, rfl, rfl⟩
  · exact Int.toNat_of_nonneg (not_not.mp hs).1
  · exact Int.toNat_of_nonneg (not_not.mp hc).1
  · exact Int.toNat_of_nonneg (not_not.mp hm).1
  · exact Int.toNat_of_nonneg (not_not.mp hf).1
  · exact Int.toNat_of_nonneg (not_not.mp hp).1
  · exact Int.toNat_of_nonneg (not_not.mp hi).1
  · exact Int.toNat_of_nonneg (not_not.mp hv).1

lemma exists_new (hv : 0 ≤ version ∧ version ≤ 3) (hs : 0 ≤ spacecraftId ∧ spacecraftId ≤ 1023)
    (hc : 0 ≤ virtualChannelId ∧ virtualChannelId ≤ 7)
    (hm : 0 ≤ masterChannelFrameCount ∧ masterChannelFrameCount ≤ 255)
    (hf : 0 ≤ virtualChannelFrameCount ∧ virtualChannelFrameCount ≤ 255)
    (hp : 0 ≤ firstHeaderPointer ∧ firstHeaderPointer ≤ 2047)
    (hi : 0 ≤ segmentLengthId ∧ segmentLengthId ≤ 3)
    (ho : ocfFlag = true → ocf.map List.length = some 4) (hn : ocfFlag = false → ocf = none)
    (he : fecf = none ∨ fecf.map List.length = some 2) :
    ∃ f, new spacecraftId virtualChannelId masterChannelFrameCount virtualChannelFrameCount
      firstHeaderPointer dataField ocfFlag secondaryHeaderFlag synchFlag packetOrderFlag
      segmentLengthId version ocf fecf = .ok f := by
  have hsome : ¬ (ocfFlag = true ∧ ocf = none) := by
    rintro ⟨hflag, rfl⟩
    exact absurd (ho hflag) (by simp)
  have ho' : ¬ (ocfFlag = true ∧ ocf.map List.length ≠ some tmOcfLength) :=
    fun h => h.2 (ho h.1)
  have hn' : ¬ (ocfFlag = false ∧ ocf ≠ none) := fun h => h.2 (hn h.1)
  exact ⟨_, (dif_neg (not_not.mpr hv)).trans ((dif_neg (not_not.mpr hs)).trans
    ((dif_neg (not_not.mpr hc)).trans ((dif_neg (not_not.mpr hm)).trans
    ((dif_neg (not_not.mpr hf)).trans ((dif_neg (not_not.mpr hp)).trans
    ((dif_neg (not_not.mpr hi)).trans ((if_neg hsome).trans ((dif_neg ho').trans
    ((dif_neg hn').trans (dif_neg (fecf_check_iff.mpr he)))))))))))⟩

end New

/-! ## The header words -/

lemma firstWord_eq (f : TmTransferFrame) :
    f.firstWord = f.version * 16384 + f.spacecraftId * 16 + f.virtualChannelId * 2 +
      (if f.ocfFlag then 1 else 0) := by
  have hv := f.version_le
  have hs := f.spacecraftId_le
  have hc := f.virtualChannelId_le
  have ho := bit_le f.ocfFlag
  rw [firstWord, land_mask 0x03 2 rfl, land_mask 0x03FF 10 rfl, land_mask 0x07 3 rfl,
    Nat.or_assoc, Nat.or_assoc]
  rw [shiftLeft_lor (k := 1), shiftLeft_lor (k := 4), shiftLeft_lor (k := 14)] <;> omega

lemma firstWord_lt (f : TmTransferFrame) : f.firstWord < 256 ^ 2 := by
  have hv := f.version_le
  have hs := f.spacecraftId_le
  have hc := f.virtualChannelId_le
  have ho := bit_le f.ocfFlag
  rw [firstWord_eq]
  omega

lemma secondWord_eq (f : TmTransferFrame) :
    f.secondWord = (if f.secondaryHeaderFlag then 1 else 0) * 32768 +
      (if f.synchFlag then 1 else 0) * 16384 + (if f.packetOrderFlag then 1 else 0) * 8192 +
      f.segmentLengthId * 2048 + f.firstHeaderPointer := by
  have hi := f.segmentLengthId_le
  have hp := f.firstHeaderPointer_le
  have h₁ := bit_le f.secondaryHeaderFlag
  have h₂ := bit_le f.synchFlag
  have h₃ := bit_le f.packetOrderFlag
  rw [secondWord, land_mask 0x03 2 rfl, land_mask 0x07FF 11 rfl, Nat.or_assoc, Nat.or_assoc,
    Nat.or_assoc]
  rw [shiftLeft_lor (k := 11), shiftLeft_lor (k := 13), shiftLeft_lor (k := 14),
    shiftLeft_lor (k := 15)] <;> omega

lemma secondWord_lt (f : TmTransferFrame) : f.secondWord < 256 ^ 2 := by
  have hi := f.segmentLengthId_le
  have hp := f.firstHeaderPointer_le
  have h₁ := bit_le f.secondaryHeaderFlag
  have h₂ := bit_le f.synchFlag
  have h₃ := bit_le f.packetOrderFlag
  rw [secondWord_eq]
  omega

/-! ## The layout of an encoding -/

/-- The number of bytes behind the data field, as `decode` computes it. -/
def trailerLength (ocfFlag hasFecf : Bool) : ℕ :=
  (if ocfFlag then tmOcfLength else 0) + (if hasFecf then fecfLength else 0)

lemma length_trailer (f : TmTransferFrame) :
    f.trailer.length = trailerLength f.ocfFlag f.fecf.isSome := by
  have hocf : (if f.ocfFlag then f.ocf.getD [] else []).length
      = if f.ocfFlag then tmOcfLength else 0 := by
    cases ho : f.ocfFlag with
    | false => rfl
    | true =>
        obtain ⟨o, hoo, hlen⟩ := Option.map_eq_some_iff.mp (f.ocf_some ho)
        simp [hoo, hlen, tmOcfLength]
  rw [trailer, List.length_append, hocf, length_fecf f.fecf_length, trailerLength]

lemma length_encode (f : TmTransferFrame) : f.encode.length = f.totalLength := by
  simp only [encode, List.length_append, length_toBytes, length_trailer, totalLength,
    trailerLength, tmPrimaryHeaderLength]
  omega

lemma slice_encode_first (f : TmTransferFrame) : slice f.encode 0 2 = toBytes f.firstWord 2 := by
  simp [slice, encode]

lemma byteAt_encode_master (f : TmTransferFrame) :
    byteAt f.encode 2 = f.masterChannelFrameCount := by
  have := f.masterChannelFrameCount_le
  simp [byteAt, encode, toBytes]
  omega

lemma byteAt_encode_virtual (f : TmTransferFrame) :
    byteAt f.encode 3 = f.virtualChannelFrameCount := by
  have := f.virtualChannelFrameCount_le
  simp [byteAt, encode, toBytes]
  omega

lemma slice_encode_second (f : TmTransferFrame) : slice f.encode 4 6 = toBytes f.secondWord 2 := by
  simp [slice, encode, toBytes]

lemma slice_encode_data (f : TmTransferFrame) :
    slice f.encode 6 (6 + f.dataField.length) = f.dataField := by
  simp [slice, encode, toBytes]

lemma sliceFrom_encode (f : TmTransferFrame) :
    sliceFrom f.encode (6 + f.dataField.length) = f.trailer := by
  simp [sliceFrom, encode, toBytes, Nat.add_comm 6]

lemma ocf_eq_slice (f : TmTransferFrame) :
    f.ocf = if f.ocfFlag then some (slice f.encode (6 + f.dataField.length)
      (6 + f.dataField.length + tmOcfLength)) else none := by
  cases ho : f.ocfFlag with
  | false => exact f.ocf_none ho
  | true =>
      obtain ⟨o, hoo, hlen⟩ := Option.map_eq_some_iff.mp (f.ocf_some ho)
      have hslice : slice f.encode (6 + f.dataField.length)
          (6 + f.dataField.length + tmOcfLength) = f.trailer.take tmOcfLength := by
        rw [← f.sliceFrom_encode, slice, sliceFrom, Nat.add_sub_cancel_left]
      have htake : f.trailer.take tmOcfLength = o := by
        rw [trailer, ho, if_pos rfl, hoo, Option.getD_some, List.take_append_of_le_length]
        · exact List.take_of_length_le (Nat.le_of_eq hlen)
        · exact Nat.le_of_eq hlen.symm
      rw [if_pos rfl, hslice, htake, hoo]

lemma fecf_eq_sliceLast_encode (f : TmTransferFrame) :
    f.fecf = if f.fecf.isSome then some (sliceLast f.encode fecfLength) else none := by
  rw [encode, trailer, ← List.append_assoc]
  exact fecf_eq_sliceLast f.fecf_length _

/-! ## Decoding what was encoded -/

/-- Every frame passes the checks of the constructor. -/
lemma new_self (f : TmTransferFrame) :
    new f.spacecraftId f.virtualChannelId f.masterChannelFrameCount f.virtualChannelFrameCount
      f.firstHeaderPointer f.dataField f.ocfFlag f.secondaryHeaderFlag f.synchFlag
      f.packetOrderFlag f.segmentLengthId f.version f.ocf f.fecf = .ok f := by
  have hv := f.version_le
  have hs := f.spacecraftId_le
  have hc := f.virtualChannelId_le
  have hm := f.masterChannelFrameCount_le
  have hf := f.virtualChannelFrameCount_le
  have hp := f.firstHeaderPointer_le
  have hi := f.segmentLengthId_le
  have hnone : ¬ (f.ocfFlag = true ∧ f.ocf = none) := by
    rintro ⟨ho, hn⟩
    have := f.ocf_some ho
    rw [hn] at this
    exact absurd this (by simp)
  have hfour : ¬ (f.ocfFlag = true ∧ f.ocf.map List.length ≠ some tmOcfLength) := by
    rintro ⟨ho, hn⟩
    exact hn (f.ocf_some ho)
  have hoff : ¬ (f.ocfFlag = false ∧ f.ocf ≠ none) := by
    rintro ⟨ho, hn⟩
    exact hn (f.ocf_none ho)
  rw [new, dif_neg (by omega), dif_neg (by omega), dif_neg (by omega), dif_neg (by omega),
    dif_neg (by omega), dif_neg (by omega), dif_neg (by omega), if_neg hnone, dif_neg hfour,
    dif_neg hoff, dif_neg (fecf_check_iff.mpr f.fecf_length)]
  rfl

/-- The fields of the first word are read back from their places in the sum. -/
lemma fields_firstWord (f : TmTransferFrame) :
    (f.firstWord >>> 14) &&& 0x03 = f.version ∧
      (f.firstWord >>> 4) &&& 0x03FF = f.spacecraftId ∧
      (f.firstWord >>> 1) &&& 0x07 = f.virtualChannelId ∧
      (f.firstWord &&& 0x01 != 0) = f.ocfFlag := by
  have hv := f.version_le
  have hs := f.spacecraftId_le
  have hc := f.virtualChannelId_le
  have ho := bit_le f.ocfFlag
  rw [firstWord_eq, land_mask 0x03 2 rfl, land_mask 0x03FF 10 rfl, land_mask 0x07 3 rfl,
    land_mask 0x01 1 rfl]
  simp only [Nat.shiftRight_eq_div_pow]
  refine ⟨?_, ?_, ?_, bit_ne_zero ?_⟩ <;> omega

lemma fields_secondWord (f : TmTransferFrame) :
    ((f.secondWord >>> 15) &&& 0x01 != 0) = f.secondaryHeaderFlag ∧
      ((f.secondWord >>> 14) &&& 0x01 != 0) = f.synchFlag ∧
      ((f.secondWord >>> 13) &&& 0x01 != 0) = f.packetOrderFlag ∧
      (f.secondWord >>> 11) &&& 0x03 = f.segmentLengthId ∧
      f.secondWord &&& 0x07FF = f.firstHeaderPointer := by
  have hi := f.segmentLengthId_le
  have hp := f.firstHeaderPointer_le
  have h₁ := bit_le f.secondaryHeaderFlag
  have h₂ := bit_le f.synchFlag
  have h₃ := bit_le f.packetOrderFlag
  simp only [secondWord_eq, land_mask 0x01 1 rfl, land_mask 0x03 2 rfl, land_mask 0x07FF 11 rfl,
    Nat.shiftRight_eq_div_pow]
  refine ⟨bit_ne_zero ?_, bit_ne_zero ?_, bit_ne_zero ?_, ?_, ?_⟩ <;> omega

theorem decode_encode (f : TmTransferFrame) : decode f.encode f.fecf.isSome = .ok f := by
  obtain ⟨hversion, hscid, hvcid, hocf⟩ := f.fields_firstWord
  obtain ⟨hshf, hsynch, horder, hseg, hfhp⟩ := f.fields_secondWord
  -- the checks on the length, and the end of the data field
  have hlen : f.encode.length = 6 + f.dataField.length + trailerLength f.ocfFlag f.fecf.isSome := by
    rw [length_encode]
    simp only [totalLength, trailerLength, tmPrimaryHeaderLength]
    omega
  have hshort : ¬ f.encode.length < tmPrimaryHeaderLength := by
    rw [hlen, tmPrimaryHeaderLength]
    omega
  have htrailer : ¬ f.encode.length < tmPrimaryHeaderLength +
      ((if f.ocfFlag then tmOcfLength else 0) + (if f.fecf.isSome then fecfLength else 0)) := by
    rw [hlen, trailerLength, tmPrimaryHeaderLength]
    omega
  have hend : f.encode.length -
      ((if f.ocfFlag then tmOcfLength else 0) + (if f.fecf.isSome then fecfLength else 0))
        = 6 + f.dataField.length := by
    rw [hlen, trailerLength]
    omega
  rw [decode, if_neg hshort, slice_encode_first, slice_encode_second, byteAt_encode_master,
    byteAt_encode_virtual, fromBytes_toBytes f.firstWord_lt, fromBytes_toBytes f.secondWord_lt]
  simp only [hversion, hscid, hvcid, hocf, hshf, hsynch, horder, hseg, hfhp]
  rw [if_neg htrailer, hend, ← ocf_eq_slice, ← fecf_eq_sliceLast_encode]
  rw [show slice f.encode tmPrimaryHeaderLength (6 + f.dataField.length) = f.dataField from
    f.slice_encode_data]
  exact f.new_self

/-! ## Encoding what was decoded -/

/-- The header bit that announces the operational control field: bit 0 of the second
byte. -/
def ocfBit (b : Bytes) : Bool := byteAt b 1 &&& 0x01 != 0

/-- The byte strings that are frames: they hold the header and the trailers. -/
def WireFormed (hasFecf : Bool) (b : Bytes) : Prop :=
  tmPrimaryHeaderLength ≤ b.length ∧
    tmPrimaryHeaderLength + trailerLength (ocfBit b) hasFecf ≤ b.length

instance (hasFecf : Bool) (b : Bytes) : Decidable (WireFormed hasFecf b) :=
  inferInstanceAs (Decidable (_ ∧ _))

lemma ocfBit_eq {b : Bytes} (h : 2 ≤ b.length) :
    (fromBytes (slice b 0 2) % 2 ^ 1 != 0) = ocfBit b := by
  rw [ocfBit, land_mask 0x01 1 rfl]
  rcases b with _ | ⟨b₀, _ | ⟨b₁, b⟩⟩
  · exact absurd h (by simp)
  · exact absurd h (by simp)
  · have hmod : (b₀.toNat * 256 + b₁.toNat) % 2 ^ 1 = b₁.toNat % 2 ^ 1 := by omega
    simp only [slice, byteAt, List.drop_zero, List.take_succ_cons, List.take_zero,
      fromBytes_pair, hmod]
    rfl

lemma ocfBit_encode (f : TmTransferFrame) : ocfBit f.encode = f.ocfFlag := by
  have h₁ := f.firstWord_eq
  have hlen : 2 ≤ f.encode.length := by
    rw [length_encode, totalLength, tmPrimaryHeaderLength]
    omega
  rw [← ocfBit_eq hlen, slice_encode_first, fromBytes_toBytes f.firstWord_lt, h₁]
  cases f.ocfFlag <;> simp <;> omega

lemma wireFormed_encode (f : TmTransferFrame) : WireFormed f.fecf.isSome f.encode := by
  rw [WireFormed, ocfBit_encode, length_encode]
  simp only [totalLength, trailerLength, tmPrimaryHeaderLength]
  omega

/-- The frame with the given header words, frame counts, data field and trailers. -/
def ofWords (w₁ mcfc vcfc w₂ : ℕ) (data : Bytes) (ocf fecf : Option Bytes)
    (hm : mcfc < 256) (hv : vcfc < 256)
    (hocf : ocf.map List.length = if w₁ % 2 ^ 1 != 0 then some 4 else none)
    (hfecf : fecf = none ∨ fecf.map List.length = some 2) : TmTransferFrame where
  spacecraftId := w₁ / 2 ^ 4 % 2 ^ 10
  virtualChannelId := w₁ / 2 ^ 1 % 2 ^ 3
  masterChannelFrameCount := mcfc
  virtualChannelFrameCount := vcfc
  firstHeaderPointer := w₂ % 2 ^ 11
  dataField := data
  ocfFlag := w₁ % 2 ^ 1 != 0
  secondaryHeaderFlag := w₂ / 2 ^ 15 % 2 ^ 1 != 0
  synchFlag := w₂ / 2 ^ 14 % 2 ^ 1 != 0
  packetOrderFlag := w₂ / 2 ^ 13 % 2 ^ 1 != 0
  segmentLengthId := w₂ / 2 ^ 11 % 2 ^ 2
  version := w₁ / 2 ^ 14 % 2 ^ 2
  ocf := ocf
  fecf := fecf
  version_le := by omega
  spacecraftId_le := by omega
  virtualChannelId_le := by omega
  masterChannelFrameCount_le := by omega
  virtualChannelFrameCount_le := by omega
  firstHeaderPointer_le := by omega
  segmentLengthId_le := by omega
  ocf_some := fun h => by rw [hocf, h, if_pos rfl]
  ocf_none := fun h => by
    rw [h] at hocf
    exact Option.map_eq_none_iff.mp hocf
  fecf_length := hfecf

section OfWords

variable {w₁ mcfc vcfc w₂ : ℕ} {data : Bytes} {ocf fecf : Option Bytes}
  (hm : mcfc < 256) (hv : vcfc < 256)
  (hocf : ocf.map List.length = if w₁ % 2 ^ 1 != 0 then some 4 else none)
  (hfecf : fecf = none ∨ fecf.map List.length = some 2)

lemma firstWord_ofWords (h : w₁ < 256 ^ 2) :
    (ofWords w₁ mcfc vcfc w₂ data ocf fecf hm hv hocf hfecf).firstWord = w₁ := by
  have hbit : (if (ofWords w₁ mcfc vcfc w₂ data ocf fecf hm hv hocf hfecf).ocfFlag then 1 else 0)
      = w₁ % 2 ^ 1 := bit_eq rfl
  rw [firstWord_eq, hbit]
  simp only [ofWords]
  omega

lemma secondWord_ofWords (h : w₂ < 256 ^ 2) :
    (ofWords w₁ mcfc vcfc w₂ data ocf fecf hm hv hocf hfecf).secondWord = w₂ := by
  generalize hf : ofWords w₁ mcfc vcfc w₂ data ocf fecf hm hv hocf hfecf = f
  have h₁ : (if f.secondaryHeaderFlag then 1 else 0) = w₂ / 2 ^ 15 % 2 ^ 1 :=
    bit_eq (by rw [← hf]; rfl)
  have h₂ : (if f.synchFlag then 1 else 0) = w₂ / 2 ^ 14 % 2 ^ 1 := bit_eq (by rw [← hf]; rfl)
  have h₃ : (if f.packetOrderFlag then 1 else 0) = w₂ / 2 ^ 13 % 2 ^ 1 :=
    bit_eq (by rw [← hf]; rfl)
  rw [secondWord_eq, h₁, h₂, h₃, ← hf]
  simp only [ofWords]
  omega

end OfWords

lemma sliceLast_append {b : Bytes} {i : ℕ} (h : i + fecfLength = b.length) :
    sliceLast b fecfLength = sliceFrom b i := by
  rw [sliceLast, sliceFrom, ← h, Nat.add_sub_cancel]

/-- The trailers cut from the end of a frame are the bytes behind its data field. -/
lemma trailer_eq_sliceFrom {b : Bytes} {o h : Bool} {i : ℕ}
    (hlen : i + trailerLength o h = b.length) :
    (if o then (if o then some (slice b i (i + tmOcfLength)) else none).getD [] else []) ++
        (if h then some (sliceLast b fecfLength) else none).getD [] = sliceFrom b i := by
  have hcut : ∀ j, i ≤ j → slice b i j ++ sliceFrom b j = sliceFrom b i :=
    fun j hij => slice_append_sliceFrom b hij
  cases o <;> cases h <;>
    simp only [trailerLength, Bool.false_eq_true, if_false, if_true, Option.getD_some,
      Option.getD_none, Nat.add_zero, Nat.zero_add, List.nil_append, List.append_nil] at hlen ⊢
  · rw [sliceFrom, hlen, List.drop_length]
  · rw [sliceLast_append hlen]
  · have := hcut (i + tmOcfLength) (by omega)
    rw [hlen, sliceFrom, List.drop_length, List.append_nil] at this
    rw [hlen, this]
  · rw [sliceLast_append (i := i + tmOcfLength) (by omega), hcut _ (by omega)]

/-- A byte string that holds the header and the trailers is decoded, and to a frame
that encodes to it. -/
theorem decode_of_wireFormed {hasFecf : Bool} {b : Bytes} (h : WireFormed hasFecf b) :
    ∃ f, decode b hasFecf = .ok f ∧ f.encode = b ∧ f.fecf.isSome = hasFecf := by
  obtain ⟨hshort, htrailer⟩ := h
  simp only [tmPrimaryHeaderLength] at hshort htrailer
  have hw₁ := fromBytes_slice_lt (b := b) (i := 0) (j := 2) (by omega) rfl
  have hw₂ := fromBytes_slice_lt (b := b) (i := 4) (j := 6) (by omega) rfl
  have hbit := ocfBit_eq (b := b) (by omega)
  -- between the header and the trailers lies the data field
  generalize hend : b.length - trailerLength (ocfBit b) hasFecf = payloadEnd
  have hle : 6 ≤ payloadEnd := by omega
  have hsum : payloadEnd + trailerLength (ocfBit b) hasFecf = b.length := by omega
  have hocf : (if ocfBit b then some (slice b payloadEnd (payloadEnd + tmOcfLength))
      else none).map List.length =
        if fromBytes (slice b 0 2) % 2 ^ 1 != 0 then some 4 else none := by
    rw [hbit]
    cases ho : ocfBit b with
    | false => rfl
    | true =>
        rw [ho, trailerLength, if_pos rfl] at hsum
        rw [if_pos rfl, if_pos rfl, Option.map_some, length_slice (by omega),
          Nat.add_sub_cancel_left, tmOcfLength]
  have hfecf := fecf_sliceLast b hasFecf (by rw [← hsum, trailerLength]; omega)
  let f : TmTransferFrame := ofWords (fromBytes (slice b 0 2)) (byteAt b 2) (byteAt b 3)
    (fromBytes (slice b 4 6)) (slice b 6 payloadEnd) _ _ (byteAt_lt b 2) (byteAt_lt b 3) hocf hfecf
  have hflag : f.ocfFlag = ocfBit b := hbit
  refine ⟨f, ?_, ?_, ?_⟩
  · have hnew := f.new_self
    rw [hflag] at hnew
    rw [decode, if_neg (by simp only [tmPrimaryHeaderLength]; omega)]
    simp only [land_mask 0x01 1 rfl, land_mask 0x03 2 rfl, land_mask 0x07 3 rfl,
      land_mask 0x03FF 10 rfl, land_mask 0x07FF 11 rfl, Nat.shiftRight_eq_div_pow]
    simp only [trailerLength] at hend hsum
    rw [hbit, if_neg (by simp only [tmPrimaryHeaderLength]; omega), hend]
    exact hnew
  · -- the slices that were decoded follow each other without a gap
    have hfirst : f.firstWord = fromBytes (slice b 0 2) := firstWord_ofWords _ _ _ _ hw₁
    have hsecond : f.secondWord = fromBytes (slice b 4 6) := secondWord_ofWords _ _ _ _ hw₂
    have htail : f.trailer = sliceFrom b payloadEnd := by
      rw [trailer, hflag]
      exact trailer_eq_sliceFrom hsum
    rw [encode, hfirst, hsecond, htail]
    show toBytes (fromBytes (slice b 0 2)) 2 ++ toBytes (byteAt b 2) 1 ++
      toBytes (byteAt b 3) 1 ++ toBytes (fromBytes (slice b 4 6)) 2 ++ slice b 6 payloadEnd ++
      sliceFrom b payloadEnd = b
    rw [toBytes_fromBytes_slice (by omega) rfl, toBytes_byteAt (j := 3) (by omega) rfl,
      toBytes_byteAt (j := 4) (by omega) rfl, toBytes_fromBytes_slice (by omega) rfl,
      slice_append_slice (by omega) (by omega), slice_append_slice (by omega) (by omega),
      slice_append_slice (by omega) (by omega), slice_append_slice (by omega) hle]
    exact slice_append_sliceFrom b (Nat.zero_le _)
  · cases hasFecf <;> rfl

/-- Every other byte string is refused with a `ValueError`. -/
lemma decode_of_not_wireFormed {hasFecf : Bool} {b : Bytes} (h : ¬ WireFormed hasFecf b) :
    ∃ msg, decode b hasFecf = .error (.valueError msg) := by
  rw [decode]
  by_cases hshort : b.length < tmPrimaryHeaderLength
  · exact ⟨_, if_pos hshort⟩
  · have hsix : 6 ≤ b.length := Nat.le_of_not_lt hshort
    have hbit : (fromBytes (slice b 0 2) &&& 0x01 != 0) = ocfBit b := by
      rw [land_mask 0x01 1 rfl, ocfBit_eq (by omega)]
    have htrailer : b.length < tmPrimaryHeaderLength +
        ((if ocfBit b then tmOcfLength else 0) + (if hasFecf then fecfLength else 0)) :=
      Nat.lt_of_not_le fun hle => h ⟨hsix, hle⟩
    rw [if_neg hshort]
    simp only [hbit]
    exact ⟨_, if_pos htrailer⟩

lemma wireFormed_of_decode {hasFecf : Bool} {b : Bytes} {f : TmTransferFrame}
    (h : decode b hasFecf = .ok f) : WireFormed hasFecf b := by
  by_contra hb
  obtain ⟨msg, hmsg⟩ := decode_of_not_wireFormed hb
  rw [h] at hmsg
  exact absurd hmsg (by simp)

lemma encode_of_decode {hasFecf : Bool} {b : Bytes} {f : TmTransferFrame}
    (h : decode b hasFecf = .ok f) : f.encode = b ∧ f.fecf.isSome = hasFecf := by
  obtain ⟨g, hg, hgb, hgf⟩ := decode_of_wireFormed (wireFormed_of_decode h)
  rw [h, Except.ok.injEq] at hg
  rw [hg]
  exact ⟨hgb, hgf⟩

/-- **The TM frame codec is a bijection**, for either value of `has_fecf`.  Every frame
with that trailer passes its own checks and is the decoding of its encoding, which is as
long as announced and has the right form.  A byte string is decoded if and only if it
holds the header and the trailers, and then it is the encoding of what it decodes to; all
others are refused with a `ValueError`. -/
theorem tmTransferFrame_codec (hasFecf : Bool) :
    (∀ f : TmTransferFrame, f.fecf.isSome = hasFecf →
      new f.spacecraftId f.virtualChannelId f.masterChannelFrameCount f.virtualChannelFrameCount
        f.firstHeaderPointer f.dataField f.ocfFlag f.secondaryHeaderFlag f.synchFlag
        f.packetOrderFlag f.segmentLengthId f.version f.ocf f.fecf = .ok f ∧
      decode f.encode hasFecf = .ok f ∧ f.encode.length = f.totalLength ∧
      WireFormed hasFecf f.encode) ∧
    (∀ b : Bytes, (∃ f, decode b hasFecf = .ok f) ↔ WireFormed hasFecf b) ∧
    (∀ b f, decode b hasFecf = .ok f → f.encode = b ∧ f.fecf.isSome = hasFecf) ∧
    ∀ b, ¬ WireFormed hasFecf b → ∃ msg, decode b hasFecf = .error (.valueError msg) := by
  refine ⟨?_, ?_, fun b f => encode_of_decode, fun b => decode_of_not_wireFormed⟩
  · rintro f rfl
    exact ⟨f.new_self, f.decode_encode, f.length_encode, f.wireFormed_encode⟩
  · intro b
    constructor
    · rintro ⟨f, hf⟩
      exact wireFormed_of_decode hf
    · intro hb
      obtain ⟨f, hf, -⟩ := decode_of_wireFormed hb
      exact ⟨f, hf⟩

end TmTransferFrame

end OpenSpaceEgse
