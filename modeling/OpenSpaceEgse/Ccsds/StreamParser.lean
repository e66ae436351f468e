import OpenSpaceEgse.Ccsds.SdlpUart

/-!
# What the stream parser makes of a stream

* `feedChunks_reference`: the parser computes the reference semantics, a split of the
  stream at its `END` bytes followed by the decoding of each piece on its own;
* `feed_noisyStream`: intact frames are recovered from between arbitrary noise;
* `reserialize_iff`: a frame is serialised back to the segment it was read from,
  unless the segment ends in an escape byte.  Such a segment is accepted, which is a
  slip of the parser: an escape that another byte leaves unpaired voids the segment.
-/

namespace OpenSpaceEgse

open Wire

namespace SdlpUartStreamParser

/-- What the parser emits on a stream. -/
def emitted (self : SdlpUartStreamParser) (w : Bytes) : List ParsedSdlpFrame :=
  match (self.feed w).1 with
  | .ok parsed => parsed
  | .error _ => []

lemma emitted_eq (self : SdlpUartStreamParser) (w : Bytes) :
    self.emitted w = sdlpFramer.out self.toPiece w := by
  rw [emitted, feed_eq]

lemma feed_fst (self : SdlpUartStreamParser) (w : Bytes) :
    (self.feed w).1 = .ok (self.emitted w) := by
  rw [emitted_eq, feed_eq]

/-- Every frame that is emitted was read from an envelope, so its type and its trailer
flag are those of the frame itself. -/
lemma parsed_of_mem_emitted {self : SdlpUartStreamParser} {w : Bytes} {p : ParsedSdlpFrame}
    (h : p ∈ self.emitted w) : p = p.frame.parsed := by
  rw [emitted_eq] at h
  obtain ⟨s, hs⟩ := sdlpFramer.exists_close_of_mem_out h
  cases s with
  | void => exact absurd hs (by simp [sdlpFramer])
  | reading escape buffer => exact (eq_of_decodeEnvelope hs).1

/-! ## The reference semantics -/

/-- The piece of a stream behind its last `END`. -/
def openPiece (w : Bytes) : Bytes := (w.splitOn slipEnd).getLastD []

/-- What a stream brings up to its first `END`. -/
def firstPiece (w : Bytes) : Bytes := w.takeWhile (· ≠ slipEnd)

lemma firstPiece_append {p : Bytes} (hp : slipEnd ∉ p) (w : Bytes) :
    firstPiece (p ++ w) = p ++ firstPiece w := by
  refine List.takeWhile_append_of_pos ?_
  intro b hb
  simpa using fun heq : b = slipEnd => hp (heq ▸ hb)

lemma firstPiece_append_end {p : Bytes} (hp : slipEnd ∉ p) (v : Bytes) :
    firstPiece (p ++ slipEnd :: v) = p := by
  rw [firstPiece_append hp]
  simp [firstPiece]

lemma exists_firstPiece {w : Bytes} (h : slipEnd ∈ w) :
    slipEnd ∉ firstPiece w ∧ ∃ v, w = firstPiece w ++ slipEnd :: v := by
  obtain ⟨p, v, rfl, hp⟩ := List.eq_append_cons_of_mem h
  rw [firstPiece_append_end hp]
  exact ⟨hp, v, rfl⟩

/-- The pieces between two consecutive `END`s, each unescaped and decoded on its own. -/
def reference (w : Bytes) : List ParsedSdlpFrame :=
  (w.splitOn slipEnd).tail.dropLast.filterMap fun piece =>
    (slip.unstuff piece).bind decodeEnvelope

lemma decode_piece (piece : Bytes) :
    sdlpFramer.decode piece = (slip.unstuff piece).bind decodeEnvelope :=
  Unstuffer.decode_eq slip decodeEnvelope piece

lemma out_void (w : Bytes) : sdlpFramer.out .void w = reference w := by
  have hidle : sdlpFramer.Idle .void := Unstuffer.void_idle slip decodeEnvelope
  have hdecode : sdlpFramer.decode = fun piece => (slip.unstuff piece).bind decodeEnvelope :=
    funext decode_piece
  rw [sdlpFramer.out_eq_splitOn hidle, hdecode]
  rfl

/-- The state after a stream, from a fresh parser. -/
lemma run_void (w : Bytes) :
    sdlpFramer.run .void w =
      if slipEnd ∈ w then
        (slip.unstuff (openPiece w)).elim .void (.reading (slip.dangling (openPiece w)))
      else .void := by
  have hidle : sdlpFramer.Idle .void := Unstuffer.void_idle slip decodeEnvelope
  rw [sdlpFramer.run_eq_openPiece]
  by_cases h : slipEnd ∈ w
  · rw [if_pos h, if_pos (show sdlpFramer.delim ∈ w from h)]
    exact Unstuffer.inside_start slip decodeEnvelope (openPiece w)
  · rw [if_neg h, if_neg (show sdlpFramer.delim ∉ w from h), hidle.inside_eq]

/-- **Reference semantics of the parser.**  Fed in whatever chunks, a fresh parser
emits the frames of the reference and never raises; afterwards it is in a frame if and
only if an `END` was seen and the piece since is not void, and then holds exactly that
piece, unescaped. -/
theorem feedChunks_reference (chunks : List Bytes) :
    (init.feedChunks chunks).1 = .ok (reference chunks.flatten) ∧
      ((init.feedChunks chunks).2.inFrame = true ↔
        slipEnd ∈ chunks.flatten ∧ slip.unstuff (openPiece chunks.flatten) ≠ none) ∧
      ((init.feedChunks chunks).2.inFrame = true →
        slip.unstuff (openPiece chunks.flatten) = some (init.feedChunks chunks).2.frameBuffer ∧
        ((init.feedChunks chunks).2.escapeNext = true ↔
          (openPiece chunks.flatten).getLast? = some slipEsc)) ∧
      ((init.feedChunks chunks).2.inFrame = false →
        (init.feedChunks chunks).2.frameBuffer = [] ∧
        (init.feedChunks chunks).2.escapeNext = false) := by
  generalize hw : chunks.flatten = w
  have hfeed := feedChunks_eq init chunks
  rw [hw, toPiece_init, out_void, run_void] at hfeed
  rw [hfeed]
  refine ⟨rfl, ?_⟩
  by_cases hend : slipEnd ∈ w
  · rw [if_pos hend]
    cases hu : slip.unstuff (openPiece w) with
    | none => exact ⟨by simp [ofPiece, init], by simp [ofPiece, init], fun _ => ⟨rfl, rfl⟩⟩
    | some u =>
        refine ⟨by simp [ofPiece, hend], fun _ => ⟨rfl, slip.dangling_iff hu⟩, ?_⟩
        intro h
        exact absurd h (by simp [ofPiece])
  · rw [if_neg hend]
    exact ⟨by simp [ofPiece, init, hend], by simp [ofPiece, init], fun _ => ⟨rfl, rfl⟩⟩

/-! ## Frames between noise -/

/-- A fresh parser emits the frames of a stream of serialised frames. -/
lemma emitted_serialized (frames : List SdlpFrame) (h : ∀ f ∈ frames, f.encode.length ≤ 0xFFFF) :
    init.emitted (frames.flatMap fun f => slipEncode f.envelope) =
      frames.map SdlpFrame.parsed := by
  have hnot : ∀ w ∈ frames.map fun f => slip.stuff f.envelope, sdlpFramer.delim ∉ w := by
    intro w hw
    obtain ⟨f, -, rfl⟩ := List.mem_map.mp hw
    exact slip.delim_notMem_stuff _
  have hout := sdlpFramer.out_frames (s := .void) rfl _ hnot rfl
  rw [List.flatMap_map, List.filterMap_map] at hout
  rw [emitted_eq]
  refine hout.trans ?_
  clear hnot hout
  induction frames with
  | nil => rfl
  | cons f frames ih =>
      have hf : f.encode.length ≤ 0xFFFF := h f (by simp)
      have hdecode : sdlpFramer.decode (slip.stuff f.envelope) = some f.parsed :=
        (Unstuffer.decode_stuff slip decodeEnvelope _).trans (f.decodeEnvelope_envelope hf)
      have hrest := ih fun g hg => h g (by simp [hg])
      rw [List.map_cons, ← hrest]
      exact List.filterMap_cons_some hdecode

/-- The stream `g₀ ++ ser f₁ ++ g₁ ++ … ++ ser fₙ ++ gₙ`. -/
def noisyStream (g : Bytes) : List (SdlpFrame × Bytes) → Except PyError Bytes
  | [] => .ok g
  | (f, g') :: items => do
      let ser ← f.serialize
      let rest ← noisyStream g' items
      return g ++ ser ++ rest

/-- What is emitted on it: each frame, with its own type and trailer flag, between
whatever the noise yields up to the `END` that opens the next frame. -/
def noisyOutput (self : SdlpUartStreamParser) (g : Bytes) :
    List (SdlpFrame × Bytes) → List ParsedSdlpFrame
  | [] => self.emitted g
  | (f, g') :: items =>
      self.emitted (g ++ [slipEnd]) ++ ⟨f.frameType, f, f.hasFecf⟩ :: noisyOutput clean g' items

/-- The stuffed envelopes of a noisy stream. -/
def noisyItems (items : List (SdlpFrame × Bytes)) : List (Bytes × Bytes) :=
  items.map fun i => (slip.stuff i.1.envelope, i.2)

lemma noisyStream_eq (g : Bytes) (items : List (SdlpFrame × Bytes))
    (h : ∀ i ∈ items, i.1.encode.length ≤ 0xFFFF) :
    noisyStream g items = .ok (sdlpFramer.interleave g (noisyItems items)) := by
  induction items generalizing g with
  | nil => rfl
  | cons i items ih =>
      obtain ⟨f, g'⟩ := i
      have hf : f.encode.length ≤ 0xFFFF := h (f, g') (by simp)
      have hrest := ih g' fun j hj => h j (by simp [hj])
      have hser := f.serialize_eq hf
      simp only [noisyStream, hser, hrest, slipEncode_eq]
      show Except.ok _ = Except.ok _
      simp only [noisyItems, List.map_cons, Framer.interleave, List.append_assoc,
        List.cons_append, List.nil_append]
      rfl

lemma noisyOutput_eq (self : SdlpUartStreamParser) (g : Bytes)
    (items : List (SdlpFrame × Bytes)) (h : ∀ i ∈ items, i.1.encode.length ≤ 0xFFFF) :
    noisyOutput self g items = sdlpFramer.expected self.toPiece g (noisyItems items) := by
  induction items generalizing self g with
  | nil => exact self.emitted_eq g
  | cons i items ih =>
      obtain ⟨f, g'⟩ := i
      have hf : f.encode.length ≤ 0xFFFF := h (f, g') (by simp)
      have hrest := ih clean g' fun j hj => h j (by simp [hj])
      have hdecode : sdlpFramer.decode (slip.stuff f.envelope) = some f.parsed :=
        (Unstuffer.decode_stuff slip decodeEnvelope f.envelope).trans
          (f.decodeEnvelope_envelope hf)
      rw [noisyOutput, hrest, emitted_eq]
      show _ = sdlpFramer.expected self.toPiece g
        ((slip.stuff f.envelope, g') :: noisyItems items)
      rw [Framer.expected, hdecode]
      rfl

/-- Without noise, a parser that holds nothing emits exactly the frames. -/
lemma noisyOutput_of_silent {self : SdlpUartStreamParser} (hself : self = init ∨ self = clean)
    (items : List (SdlpFrame × Bytes)) (h : ∀ i ∈ items, i.2 = []) :
    noisyOutput self [] items = items.map fun i => i.1.parsed := by
  have hopen : self.emitted [slipEnd] = [] := by
    rcases hself with rfl | rfl <;> rfl
  cases items with
  | nil => rfl
  | cons i items =>
      obtain ⟨f, g'⟩ := i
      have hg' : g' = [] := h (f, g') (by simp)
      subst hg'
      have hrest := noisyOutput_of_silent (Or.inr rfl) items fun j hj => h j (by simp [hj])
      rw [noisyOutput, hrest, List.nil_append, hopen]
      rfl

/-- **Resynchronisation.**  From every state of the parser and whatever the noise, each
frame that fits the envelope is emitted once, in order, unchanged; a TM frame that does
not fit is refused by the serializer. -/
theorem feed_noisyStream :
    (∀ (self : SdlpUartStreamParser) (g : Bytes) (items : List (SdlpFrame × Bytes)),
      (∀ i ∈ items, i.1.encode.length ≤ 0xFFFF) →
        ∃ w, noisyStream g items = .ok w ∧
          (self.feed w).1 = .ok (noisyOutput self g items) ∧
          ((self = init ∨ self = clean) → g = [] → (∀ i ∈ items, i.2 = []) →
            (self.feed w).1 = .ok (items.map fun i => i.1.parsed))) ∧
      (∀ frame : TcTransferFrame, (SdlpFrame.tc frame).encode.length ≤ 0xFFFF) ∧
      (∀ frame : TmTransferFrame, (SdlpFrame.tm frame).encode.length = frame.totalLength) ∧
      ∀ frame : TmTransferFrame, 0xFFFF < frame.totalLength → serializeTm frame =
        .error (.valueError "SDLP frame is too large for UART stream length field") := by
  refine ⟨?_, SdlpFrame.length_encode_tc, fun frame => frame.length_encode, ?_⟩
  · intro self g items h
    have hitems : ∀ i ∈ noisyItems items, sdlpFramer.delim ∉ i.1 := by
      intro i hi
      obtain ⟨j, -, rfl⟩ := List.mem_map.mp hi
      exact slip.delim_notMem_stuff _
    have hfeed : (self.feed (sdlpFramer.interleave g (noisyItems items))).1 =
        .ok (noisyOutput self g items) := by
      rw [feed_eq, sdlpFramer.out_interleave _ hitems, noisyOutput_eq self g items h]
    refine ⟨_, noisyStream_eq g items h, hfeed, ?_⟩
    rintro hself rfl hsilent
    rw [hfeed, noisyOutput_of_silent hself items hsilent]
  · intro frame h
    rw [← frame.length_encode] at h
    exact SdlpFrame.serialize_of_lt (.tm frame) h

/-- The smallest TC frame: five zero header bytes but for the length field. -/
def emptyTc : TcTransferFrame where
  spacecraftId := 0
  virtualChannelId := 0
  frameSequenceNumber := 0
  dataField := []
  bypassFlag := false
  controlCommandFlag := false
  version := 0
  reserved := 0
  fecf := none
  version_le := by decide
  reserved_le := by decide
  spacecraftId_le := by decide
  virtualChannelId_le := by decide
  frameSequenceNumber_le := by decide
  fecf_length := Or.inl rfl
  length_le := by decide

/-- The smallest TM frame. -/
def emptyTm : TmTransferFrame where
  spacecraftId := 0
  virtualChannelId := 0
  masterChannelFrameCount := 0
  virtualChannelFrameCount := 0
  firstHeaderPointer := 0
  dataField := []
  ocfFlag := false
  secondaryHeaderFlag := false
  synchFlag := false
  packetOrderFlag := false
  segmentLengthId := 0x03
  version := 0
  ocf := none
  fecf := none
  version_le := by decide
  spacecraftId_le := by decide
  virtualChannelId_le := by decide
  masterChannelFrameCount_le := by decide
  virtualChannelFrameCount_le := by decide
  firstHeaderPointer_le := by decide
  segmentLengthId_le := by decide
  ocf_some := by decide
  ocf_none := by decide
  fecf_length := Or.inl rfl

/-- Noise that starts inside a frame, ends in the middle of an escape, and holds an
`END` of its own. -/
theorem feed_noisyStream_emptyTc :
    ∃ w, noisyStream [0x01, 0xC0, 0xDB] [(.tc emptyTc, [0xDB, 0xC0]), (.tc emptyTc, [])] = .ok w ∧
      (clean.feed w).1 = .ok (noisyOutput clean [0x01, 0xC0, 0xDB]
        [(.tc emptyTc, [0xDB, 0xC0]), (.tc emptyTc, [])]) := by
  obtain ⟨w, hw, hfeed, -⟩ := feed_noisyStream.1 clean [0x01, 0xC0, 0xDB]
    [(.tc emptyTc, [0xDB, 0xC0]), (.tc emptyTc, [])] (by decide)
  exact ⟨w, hw, hfeed⟩

/-! ## Frames and the segments they were read from -/

/-- What happens at the second of two `END`s. -/
lemma emitted_segment (self : SdlpUartStreamParser) (pre : Bytes) {seg : Bytes}
    (hseg : slipEnd ∉ seg) :
    self.emitted (pre ++ slipEnd :: seg ++ [slipEnd]) =
      self.emitted (pre ++ [slipEnd]) ++ ((slip.unstuff seg).bind decodeEnvelope).toList := by
  have hdelimited := sdlpFramer.out_delimited (p := seg) hseg (sdlpFramer.run self.toPiece pre) []
  rw [decode_piece] at hdelimited
  rw [emitted_eq, emitted_eq, List.append_assoc, show slipEnd = sdlpFramer.delim from rfl,
    Framer.out_append, hdelimited, Framer.out_append, List.append_assoc]
  simp

lemma frameBuffer_segment (self : SdlpUartStreamParser) (pre : Bytes) {seg u : Bytes}
    (hseg : slipEnd ∉ seg) (hu : slip.unstuff seg = some u) :
    (self.feed (pre ++ slipEnd :: seg)).2.frameBuffer = u := by
  have hread : sdlpFramer.inside sdlpFramer.start seg = .reading (slip.dangling seg) u :=
    (Unstuffer.inside_start slip decodeEnvelope seg).trans (by rw [hu, Option.elim_some])
  rw [feed_eq, show slipEnd = sdlpFramer.delim from rfl, Framer.run_delim_append,
    sdlpFramer.run_of_not_mem hseg, hread]
  rfl

/-- **Canonical decoding, and its exact condition.**  A frame emitted at the second of
two consecutive `END`s is serialised back to what stood there, and the escapes of the
segment are all paired, if and only if the segment does not end in an escape byte. -/
theorem reserialize_iff (self : SdlpUartStreamParser) (pre seg : Bytes) (p : ParsedSdlpFrame)
    (hseg : slipEnd ∉ seg)
    (hp : self.emitted (pre ++ slipEnd :: seg ++ [slipEnd]) =
      self.emitted (pre ++ [slipEnd]) ++ [p]) :
    (byteAt (self.feed (pre ++ slipEnd :: seg)).2.frameBuffer 1 ≤ 1 →
      (p.frame.serialize = .ok (slipEnd :: seg ++ [slipEnd]) ↔ seg.getLast? ≠ some slipEsc)) ∧
    (slip.Paired seg ↔ seg.getLast? ≠ some slipEsc) := by
  rw [self.emitted_segment pre hseg, List.append_cancel_left_eq, Option.toList_eq_singleton_iff,
    Option.bind_eq_some_iff] at hp
  obtain ⟨u, hu, hp⟩ := hp
  have hlast := slip.dangling_iff hu
  have hstuff := slip.stuff_unstuff hu hseg
  have hpaired : slip.Paired seg ↔ seg.getLast? ≠ some slipEsc := by
    rw [slip.paired_iff hu, ne_eq, show slipEsc = slip.esc from rfl, ← hlast, Bool.not_eq_true]
  refine ⟨?_, hpaired⟩
  rw [self.frameBuffer_segment pre hseg hu]
  intro hflags
  obtain ⟨-, hlen, -, hbit, henv⟩ := eq_of_decodeEnvelope hp
  have hcanon : u = p.frame.envelope := by
    have hbyte : byteAt u 1 = p.frame.flags := by omega
    rw [hbyte] at henv
    exact henv
  rw [p.frame.serialize_eq hlen, ← hcanon, slipEncode_eq]
  simp only [Except.ok.injEq, List.cons_append, List.cons.injEq, true_and,
    List.append_cancel_right_eq, ne_eq]
  rw [show slipEsc = slip.esc from rfl, ← hlast]
  constructor
  · -- the stuffing of `u` never ends in an escape
    intro heq
    rw [← heq, slip.dangling_stuff]
    simp
  · intro hd
    rw [hstuff, if_neg hd, List.append_nil]

/-- A TC frame whose data are the two bytes that need an escape. -/
def escapedTc : TcTransferFrame :=
  { emptyTc with dataField := [slipEnd, slipEsc], length_le := by decide }

def escapedTcSegment : Bytes :=
  [0x02, 0x00, 0x00, 0x07, 0x00, 0x00, 0x00, 0x06, 0x00, 0xDB, 0xDC, 0xDB, 0xDD]

/-- Both escapes of the segment are paired, and the frame is serialised back to it. -/
theorem reserialize_escapedTcSegment :
    (SdlpFrame.tc escapedTc).serialize = .ok (slipEnd :: escapedTcSegment ++ [slipEnd]) ∧
      slip.Paired escapedTcSegment := by
  have h := reserialize_iff init [] escapedTcSegment (SdlpFrame.tc escapedTc).parsed (by decide)
    (by decide)
  exact ⟨(h.1 (by decide)).mpr (by decide), h.2.mpr (by decide)⟩

/-- The segment of the smallest TC frame. -/
def emptyTcSegment : Bytes := [0x02, 0x00, 0x00, 0x05, 0x00, 0x00, 0x00, 0x04, 0x00]

/-- With an escape byte behind it, this segment is still accepted, although nothing
serialises to it. -/
theorem dangling_escape_accepted :
    slipEnd ∉ emptyTcSegment ++ [slipEsc] ∧
      init.emitted (slipEnd :: (emptyTcSegment ++ [slipEsc]) ++ [slipEnd]) =
        [(SdlpFrame.tc emptyTc).parsed] ∧
      byteAt (init.feed (slipEnd :: (emptyTcSegment ++ [slipEsc]))).2.frameBuffer 1 = 0 ∧
      (SdlpFrame.tc emptyTc).serialize ≠
        .ok (slipEnd :: (emptyTcSegment ++ [slipEsc]) ++ [slipEnd]) ∧
      ¬ slip.Paired (emptyTcSegment ++ [slipEsc]) := by
  refine ⟨by decide, by decide, by decide, ?_, ?_⟩
  · intro h
    have hlen := congrArg (fun r => r.toOption.map List.length) h
    exact absurd hlen (by decide)
  · intro h
    obtain ⟨b, v, hv, -⟩ := h emptyTcSegment [] rfl
    exact absurd hv (by simp)

end SdlpUartStreamParser

end OpenSpaceEgse
