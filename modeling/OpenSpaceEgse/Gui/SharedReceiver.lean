import OpenSpaceEgse.Gui.EventLoop
import OpenSpaceEgse.Library.Runs

/-!
# Two users of one receiver

The receive loop and the simulation feed the same receiver.  An injected frame brings
its own `END`s, so it ends whatever the parser was reading from the line: a frame that
arrives in two pieces is lost if an injection falls between them, `injection_splits_frame`.

`undisturbed_iff` says when injections do no harm: as long as none of them can be seen in the
pieces between two `END`s that it cuts.  It is enough that each falls between two frames on the
line, `undisturbed_of_betweenFrames`.
-/

namespace OpenSpaceEgse

open Machine Wire

/-- The steps that use the receiver: the receive loop with what its port answers, and an
injection with the texts of the fields that it reads. -/
inductive SharedStep (P : Type) where
  | serial (port : P)
  | inject (tmApidVar scidVar vcidVar : String)

def SharedStep.isSerial {P : Type} : SharedStep P → Bool
  | serial _ => true
  | inject _ _ _ => false

/-- The bytes that the serial steps of a run read. -/
def serialBytes {P : Type} [SerialLike P] (steps : List (SharedStep P)) : Bytes :=
  steps.flatMap fun
    | .serial port => chunkOf port
    | .inject _ _ _ => []

namespace EgseGuiApp

variable {P : Type} [SerialLike P]

def withFields (self : EgseGuiApp) (tmApidVar scidVar vcidVar : String) : EgseGuiApp :=
  { self with tmApidVar := tmApidVar, scidVar := scidVar, vcidVar := vcidVar }

def sharedStep (self : EgseGuiApp) : SharedStep P → EgseGuiApp
  | .serial port => (self.receiveOnce port).2
  | .inject tmApidVar scidVar vcidVar =>
      (self.withFields tmApidVar scidVar vcidVar).injectSimulatedTelemetry.2

/-- What the serial steps of a run return. -/
def serialReturns (self : EgseGuiApp) :
    List (SharedStep P) → List (Except PyError (List DecodedSpacePacket))
  | [] => []
  | .serial port :: steps =>
      (self.receiveOnce port).1 :: (self.sharedStep (.serial port)).serialReturns steps
  | .inject tmApidVar scidVar vcidVar :: steps =>
      (self.sharedStep (.inject tmApidVar scidVar vcidVar : SharedStep P)).serialReturns steps

/-- An injection gets past its checks. -/
def Succeeds (self : EgseGuiApp) : SharedStep P → Prop
  | .serial _ => True
  | .inject tmApidVar scidVar vcidVar =>
      ∃ decodedPackets,
        (self.withFields tmApidVar scidVar vcidVar).feedSimulated.1 = .ok (some decodedPackets)

/-- An injection returns its own packet, and nothing else. -/
def ReturnsOwn (self : EgseGuiApp) : SharedStep P → Prop
  | .serial _ => True
  | .inject tmApidVar scidVar vcidVar =>
      ∃ tmApid packet, intOfText tmApidVar = .ok tmApid ∧ self.simulatedPacket tmApid = .ok packet ∧
        (self.withFields tmApidVar scidVar vcidVar).feedSimulated.1 = .ok (some [⟨.tm, packet⟩])

/-- The serial steps return what they return without the injections, and each injection
returns its own packet. -/
def Undisturbed (self : EgseGuiApp) (steps : List (SharedStep P)) : Prop :=
  self.serialReturns steps = self.serialReturns (steps.filter SharedStep.isSerial) ∧
    Along sharedStep ReturnsOwn self steps

end EgseGuiApp

/-- The line is between two frames: the last byte from it was an `END`, or the next one
will be, if there is one, and what was read since the last `END` carries no packet. -/
def BetweenFrames (receiver : SdlpSpacePacketReceiver) (next : Bytes) : Prop :=
  receiver.uartParser = SdlpUartStreamParser.clean ∨
    receiver.packets [slipEnd] = [] ∧ (next = [] ∨ next.head? = some slipEnd)

/-- The line brings a first `END`, if any, at which both receivers complete the same packets. -/
def SamePiece (a b : SdlpSpacePacketReceiver) (w : Bytes) : Prop :=
  slipEnd ∈ w → a.pending (SdlpUartStreamParser.firstPiece w) =
    b.pending (SdlpUartStreamParser.firstPiece w)

/-- The bytes from the line up to the next injection. -/
def untilInjection {P : Type} [SerialLike P] (steps : List (SharedStep P)) : Bytes :=
  serialBytes (steps.takeWhile SharedStep.isSerial)

/-- No injection of a run can be seen; `line` is the receiver as the line alone would have left
it.  The `END` that opens the injected frame completes no packets, and the next `END` from the
line, unless another injection comes first, completes the same packets as if the line were
alone. -/
def InjectsUnseen {P : Type} [SerialLike P] (self : EgseGuiApp) (line : SdlpSpacePacketReceiver) :
    List (SharedStep P) → Prop
  | [] => True
  | .serial port :: steps =>
      InjectsUnseen (self.sharedStep (.serial port)) (line.after (chunkOf port)) steps
  | .inject tmApidVar scidVar vcidVar :: steps =>
      (self.receiver.pending [] = [] ∧
          SamePiece ⟨SdlpUartStreamParser.clean⟩ line (untilInjection steps)) ∧
        InjectsUnseen (self.sharedStep (.inject tmApidVar scidVar vcidVar : SharedStep P)) line
          steps

/-- Every injection of a run falls between two frames. -/
def InjectsBetweenFrames {P : Type} [SerialLike P] (self : EgseGuiApp) :
    List (SharedStep P) → Prop
  | [] => True
  | .serial port :: steps => InjectsBetweenFrames (self.sharedStep (.serial port)) steps
  | .inject tmApidVar scidVar vcidVar :: steps =>
      BetweenFrames self.receiver (serialBytes steps) ∧
        InjectsBetweenFrames
          (self.sharedStep (.inject tmApidVar scidVar vcidVar : SharedStep P)) steps

/-! ## One step -/

section Step

variable {P : Type} {self : EgseGuiApp}

lemma receiver_serial [SerialLike P] (self : EgseGuiApp) (port : P) :
    (self.sharedStep (.serial port)).receiver = self.receiver.after (chunkOf port) :=
  self.receiver_receiveOnce port

lemma receiver_inject [SerialLike P] {tmApidVar scidVar vcidVar : String}
    (h : self.Succeeds (.inject tmApidVar scidVar vcidVar : SharedStep P)) :
    (self.sharedStep (.inject tmApidVar scidVar vcidVar : SharedStep P)).receiver =
      ⟨SdlpUartStreamParser.clean⟩ := by
  obtain ⟨decodedPackets, h⟩ := h
  rw [EgseGuiApp.sharedStep, EgseGuiApp.receiver_injectSimulatedTelemetry h]

/-- An injection returns its own packet alone exactly if it completes no others. -/
lemma returnsOwn_iff {tmApidVar scidVar vcidVar : String}
    (h : self.Succeeds (.inject tmApidVar scidVar vcidVar : SharedStep P)) :
    self.ReturnsOwn (.inject tmApidVar scidVar vcidVar : SharedStep P) ↔
      self.receiver.pending [] = [] := by
  obtain ⟨decodedPackets, h⟩ := h
  obtain ⟨tmApid, packet, hapid, hpacket, -, hdecoded, -⟩ := EgseGuiApp.feedSimulated_eq_ok h
  have hsame : decodedPackets = self.receiver.pending [] ++ [⟨.tm, packet⟩] := by
    rw [← self.receiver.packets_end]
    exact hdecoded
  constructor
  · rintro ⟨_, packet', -, -, hown⟩
    rw [h, Except.ok.injEq, Option.some.injEq] at hown
    have hlength := congrArg List.length (hsame.symm.trans hown)
    rw [List.length_append, List.length_singleton, List.length_singleton] at hlength
    exact List.eq_nil_of_length_eq_zero (by omega)
  · intro hnone
    rw [hnone, List.nil_append] at hsame
    exact ⟨tmApid, packet, hapid, hpacket, hsame ▸ h⟩

/-- Two calls of the receive loop on one port return the same exactly if the packets are. -/
lemma receiveOnce_eq_iff [SerialLike P] (a b : EgseGuiApp) (port : P) :
    (a.receiveOnce port).1 = (b.receiveOnce port).1 ↔
      a.receiver.packets (chunkOf port) = b.receiver.packets (chunkOf port) := by
  rw [EgseGuiApp.receiveOnce_fst, EgseGuiApp.receiveOnce_fst, chunkOf]
  cases (SdlpSpacePacketReceiver.readOnce port egseSerialMaxReadSize).1 with
  | error e => exact iff_of_true rfl rfl
  | ok chunk => exact ⟨Except.ok.inj, congrArg Except.ok⟩

end Step

/-! ## Two runs -/

/-- The first `END` from the line lies in the chunk or behind it. -/
lemma samePiece_append (a b : SdlpSpacePacketReceiver) (chunk w : Bytes) :
    SamePiece a b (chunk ++ w) ↔
      a.packets chunk = b.packets chunk ∧ SamePiece (a.after chunk) (b.after chunk) w := by
  by_cases hend : slipEnd ∈ chunk
  · -- behind the `END` the receivers are the same
    obtain ⟨p, v, rfl, hp⟩ := List.eq_append_cons_of_mem hend
    rw [a.packets_piece hp, b.packets_piece hp, a.after_piece, b.after_piece,
      List.append_cancel_right_eq, SamePiece, List.append_assoc, List.cons_append,
      SdlpUartStreamParser.firstPiece_append_end hp]
    constructor
    · intro h
      exact ⟨h (by simp), fun _ => rfl⟩
    · intro h _
      exact h.1
  · rw [a.packets_of_notMem hend, b.packets_of_notMem hend, SamePiece, SamePiece,
      a.pending_after hend, b.pending_after hend, SdlpUartStreamParser.firstPiece_append hend]
    simp [hend]

/-- A run returns what the line alone returns, and each injection its own packet, exactly if
its receiver completes the same packets at the next `END` as the receiver of the line, and no
injection can be seen. -/
lemma serialReturns_iff {P : Type} [SerialLike P] {a b : EgseGuiApp} {steps : List (SharedStep P)}
    (hok : Along EgseGuiApp.sharedStep EgseGuiApp.Succeeds a steps) :
    (a.serialReturns steps = b.serialReturns (steps.filter SharedStep.isSerial) ∧
        Along EgseGuiApp.sharedStep EgseGuiApp.ReturnsOwn a steps) ↔
      SamePiece a.receiver b.receiver (untilInjection steps) ∧
        InjectsUnseen a b.receiver steps := by
  induction steps generalizing a b with
  | nil => exact iff_of_true ⟨rfl, trivial⟩ ⟨fun h => absurd h List.not_mem_nil, trivial⟩
  | cons step steps ih =>
      cases step with
      | serial port =>
          -- the bytes of the call are the first ones up to the next injection
          have hrest := ih (b := b.sharedStep (.serial port)) hok.2
          have huntil : untilInjection (.serial port :: steps) =
              chunkOf port ++ untilInjection steps := rfl
          rw [receiver_serial, receiver_serial] at hrest
          rw [huntil, samePiece_append, and_assoc, InjectsUnseen, ← hrest, ← receiveOnce_eq_iff,
            List.filter_cons_of_pos rfl, EgseGuiApp.serialReturns, EgseGuiApp.serialReturns,
            List.cons.injEq, and_assoc]
          exact and_congr_right fun _ => and_congr_right fun _ => ⟨And.right, fun h => ⟨trivial, h⟩⟩
      | inject tmApidVar scidVar vcidVar =>
          -- nothing is owed from before, and a clean parser is compared with the line from here on
          have hrest := ih (b := b) hok.2
          rw [receiver_inject hok.1] at hrest
          rw [List.filter_cons_of_neg (by simp [SharedStep.isSerial]), EgseGuiApp.serialReturns,
            InjectsUnseen, and_assoc, ← hrest, ← returnsOwn_iff hok.1]
          constructor
          · rintro ⟨hreturns, hown, howns⟩
            exact ⟨fun h => absurd h List.not_mem_nil, hown, hreturns, howns⟩
          · rintro ⟨-, hown, hreturns, howns⟩
            exact ⟨hreturns, hown, howns⟩

/-- Injections and the line do not disturb each other exactly if no injection can be seen. -/
lemma undisturbed_iff {P : Type} [SerialLike P] {self : EgseGuiApp} {steps : List (SharedStep P)}
    (hok : Along EgseGuiApp.sharedStep EgseGuiApp.Succeeds self steps) :
    self.Undisturbed steps ↔ InjectsUnseen self self.receiver steps :=
  (serialReturns_iff (b := self) hok).trans (and_iff_right fun _ => rfl)

/-! ## Between two frames -/

/-- The receivers of the runs with and without injections: the same, or about to be the
same at the `END` that comes next from the line. -/
def Agree (a b : SdlpSpacePacketReceiver) (next : Bytes) : Prop :=
  a = b ∨ a = ⟨SdlpUartStreamParser.clean⟩ ∧ b.packets [slipEnd] = [] ∧
    (next = [] ∨ next.head? = some slipEnd)

lemma packets_end_clean :
    (SdlpSpacePacketReceiver.mk SdlpUartStreamParser.clean).packets [slipEnd] = [] := rfl

/-- Agreeing receivers agree behind a chunk. -/
lemma Agree.chunk {a b : SdlpSpacePacketReceiver} {chunk next : Bytes}
    (h : Agree a b (chunk ++ next)) : Agree (a.after chunk) (b.after chunk) next := by
  rcases h with rfl | ⟨ha, hb, hnext⟩
  · exact Or.inl rfl
  · cases chunk with
    | nil => exact Or.inr ⟨ha, hb, hnext⟩
    | cons c chunk =>
        obtain rfl : c = slipEnd := by
          rcases hnext with hnil | hhead
          · exact absurd hnil (by simp)
          · simpa using hhead
        exact Or.inl ((a.after_piece [] chunk).trans (b.after_piece [] chunk).symm)

/-- Agreeing receivers complete the same at the next `END`. -/
lemma Agree.samePiece {a b : SdlpSpacePacketReceiver} {w next : Bytes} (h : Agree a b next)
    (hw : w <+: next) : SamePiece a b w := by
  intro hend
  rcases h with rfl | ⟨rfl, hb, hnext⟩
  · rfl
  · obtain ⟨v, rfl⟩ := hw
    rcases w with _ | ⟨c, w⟩
    · exact absurd hend List.not_mem_nil
    · obtain rfl : c = slipEnd := by
        rcases hnext with hnil | hhead
        · exact absurd hnil (by simp)
        · simpa using hhead
      have hpiece : SdlpUartStreamParser.firstPiece (slipEnd :: w) = [] :=
        SdlpUartStreamParser.firstPiece_append_end List.not_mem_nil w
      rw [hpiece, ← SdlpSpacePacketReceiver.packets_end, ← SdlpSpacePacketReceiver.packets_end, hb]
      exact packets_end_clean

lemma BetweenFrames.pending_nil {r : SdlpSpacePacketReceiver} {next : Bytes}
    (h : BetweenFrames r next) : r.pending [] = [] := by
  rcases h with hclean | ⟨hend, -⟩
  · obtain ⟨parser⟩ := r
    obtain rfl : parser = SdlpUartStreamParser.clean := hclean
    rfl
  · exact r.packets_end.symm.trans hend

/-- Between two frames, an injection keeps the agreement. -/
lemma Agree.inject {a b : SdlpSpacePacketReceiver} {next : Bytes} (h : Agree a b next)
    (hbetween : BetweenFrames a next) : Agree ⟨SdlpUartStreamParser.clean⟩ b next := by
  rcases h with rfl | ⟨-, hb, hnext⟩
  · rcases hbetween with hclean | ⟨hend, hnext⟩
    · obtain ⟨parser⟩ := a
      exact Or.inl (congrArg SdlpSpacePacketReceiver.mk hclean.symm)
    · exact Or.inr ⟨rfl, hend, hnext⟩
  · exact Or.inr ⟨rfl, hb, hnext⟩

lemma isPrefix_untilInjection {P : Type} [SerialLike P] (steps : List (SharedStep P)) :
    untilInjection steps <+: serialBytes steps := by
  obtain ⟨later, hlater⟩ := List.takeWhile_prefix (l := steps) SharedStep.isSerial
  refine ⟨serialBytes later, ?_⟩
  conv_rhs => rw [← hlater]
  exact List.flatMap_append.symm

/-- Injections between two frames cannot be seen. -/
lemma injectsUnseen_of_betweenFrames {P : Type} [SerialLike P] {self : EgseGuiApp}
    {line : SdlpSpacePacketReceiver} {steps : List (SharedStep P)}
    (hagree : Agree self.receiver line (serialBytes steps))
    (hbetween : InjectsBetweenFrames self steps)
    (hok : Along EgseGuiApp.sharedStep EgseGuiApp.Succeeds self steps) :
    InjectsUnseen self line steps := by
  induction steps generalizing self line with
  | nil => trivial
  | cons step steps ih =>
      cases step with
      | serial port =>
          have hnext := hagree.chunk
          rw [← receiver_serial] at hnext
          exact ih hnext hbetween hok.2
      | inject tmApidVar scidVar vcidVar =>
          obtain ⟨hhere, hrest⟩ := hbetween
          have hnext : Agree ⟨SdlpUartStreamParser.clean⟩ line (serialBytes steps) :=
            hagree.inject hhere
          have hpiece := hnext.samePiece (isPrefix_untilInjection steps)
          rw [← receiver_inject hok.1] at hnext
          exact ⟨⟨hhere.pending_nil, hpiece⟩, ih hnext hrest hok.2⟩

/-- Injections that fall between two frames and the line do not disturb each other. -/
lemma undisturbed_of_betweenFrames {P : Type} [SerialLike P] {self : EgseGuiApp}
    {steps : List (SharedStep P)} (hbetween : InjectsBetweenFrames self steps)
    (hok : Along EgseGuiApp.sharedStep EgseGuiApp.Succeeds self steps) :
    self.Undisturbed steps :=
  (undisturbed_iff hok).mpr (injectsUnseen_of_betweenFrames (Or.inl rfl) hbetween hok)

/-! ## Everywhere else, an injection can be seen -/

/-- The envelope of a short frame. -/
lemma envelope_short {f : SdlpFrame} (hf : f.encode.length < 200) :
    ∃ t g : UInt8, (t.toNat = 1 ∨ t.toNat = 2) ∧ g.toNat ≤ 1 ∧
      f.envelope = t :: g :: 0 :: UInt8.ofNat f.encode.length :: f.encode := by
  refine ⟨UInt8.ofNat f.frameType.value, UInt8.ofNat f.flags, ?_, ?_, ?_⟩
  · cases f with
    | tm frame => exact Or.inl rfl
    | tc frame => exact Or.inr rfl
  · rw [SdlpFrame.flags]
    split <;> decide
  · have hzero : f.encode.length / 256 = 0 := Nat.div_eq_of_lt (by omega)
    simp only [SdlpFrame.envelope, toBytes, hzero]
    rfl

/-- A frame of another length does not complete what the parser has read of a frame. -/
lemma decodeEnvelope_append {u : Bytes} {f : SdlpFrame} (hu : u ≠ [])
    (hf : f.encode.length < 200) (hfield : 4 ≤ u.length →
      fromBytes (slice u 2 4) ≠ u.length + f.encode.length) :
    decodeEnvelope (u ++ f.envelope) = none := by
  obtain ⟨t, g, ht, hg, henv⟩ := envelope_short hf
  refine if_neg ?_
  rintro ⟨-, hlength⟩
  rw [List.length_append, f.length_envelope] at hlength
  -- the length field straddles `u` and the envelope, unless `u` holds all of it
  rcases u with _ | ⟨a, _ | ⟨b, _ | ⟨c, _ | ⟨d, u⟩⟩⟩⟩
  · exact hu rfl
  · have hslice : slice ([a] ++ f.envelope) 2 4 = [g, 0] := by rw [henv]; rfl
    rw [hslice, fromBytes_pair] at hlength
    simp only [List.length_cons, List.length_nil] at hlength
    have hzero : (0 : UInt8).toNat = 0 := rfl
    omega
  · have hslice : slice ([a, b] ++ f.envelope) 2 4 = [t, g] := by rw [henv]; rfl
    rw [hslice, fromBytes_pair] at hlength
    simp only [List.length_cons, List.length_nil] at hlength
    omega
  · have hslice : slice ([a, b, c] ++ f.envelope) 2 4 = [c, t] := by rw [henv]; rfl
    rw [hslice, fromBytes_pair] at hlength
    simp only [List.length_cons, List.length_nil] at hlength
    omega
  · have hfour : 4 ≤ (a :: b :: c :: d :: u).length := by simp
    rw [slice_append_left _ hfour] at hlength
    exact hfield hfour (by omega)

/-- Unless the parser has just read an `END`, one of two frames of different lengths is
lost on it. -/
lemma exists_lost {parser : SdlpUartStreamParser} (h : parser ≠ SdlpUartStreamParser.clean)
    {f g : SdlpFrame} (hf : f.encode.length < 200) (hg : g.encode.length < 200)
    (hne : f.encode.length ≠ g.encode.length) :
    ∃ k ∈ [f, g], parser.emitted (slip.stuff k.envelope ++ [slipEnd]) = [] := by
  have hout : ∀ k : SdlpFrame, parser.emitted (slip.stuff k.envelope ++ [slipEnd]) =
      (sdlpFramer.close (sdlpFramer.inside parser.toPiece (slip.stuff k.envelope))).toList := by
    intro k
    have hpiece := sdlpFramer.out_piece (slip.delim_notMem_stuff k.envelope) parser.toPiece []
    rw [Framer.out_nil, List.append_nil] at hpiece
    rw [SdlpUartStreamParser.emitted_eq]
    exact hpiece
  have hidle : sdlpFramer.Idle .void := Unstuffer.void_idle slip decodeEnvelope
  rcases hpiece : parser.toPiece with _ | ⟨escape, u⟩
  · -- outside a frame, or behind an illegal escape
    refine ⟨f, List.mem_cons_self, ?_⟩
    rw [hout, hpiece, hidle.inside_eq, hidle.close_eq]
    rfl
  · cases escape with
    | true =>
        -- the escape is followed by the type of the frame, which voids the piece
        refine ⟨f, List.mem_cons_self, ?_⟩
        obtain ⟨t, g', ht, -, henv⟩ := envelope_short hf
        have hne : ∀ b : UInt8, 2 < b.toNat → t ≠ b := by
          rintro b hb rfl
          omega
        have hletter : slip.stuffLetter t = [t] :=
          slip.stuffLetter_of_ne (hne _ (by decide)) (hne _ (by decide))
        have hvoid : sdlpFramer.step (.reading true u) t = .void :=
          Unstuffer.step_illegal slip (hne _ (by decide)) (hne _ (by decide)) u
        rw [hout, hpiece, henv, slip.stuff_cons, hletter, List.singleton_append,
          Framer.inside_cons, hvoid, hidle.inside_eq, hidle.close_eq]
        rfl
    | false =>
        -- the length field of what `u` begins fits one of the two frames at most
        have hu : u ≠ [] := by
          rintro rfl
          refine h ?_
          rw [← SdlpUartStreamParser.ofPiece_toPiece parser, hpiece]
          rfl
        have hlost : ∀ k : SdlpFrame, k.encode.length < 200 →
            (4 ≤ u.length → fromBytes (slice u 2 4) ≠ u.length + k.encode.length) →
            parser.emitted (slip.stuff k.envelope ++ [slipEnd]) = [] := by
          intro k hk hfield
          have hread := Unstuffer.inside_reading slip decodeEnvelope (slip.stuff k.envelope) u
          rw [slip.unstuff_stuff] at hread
          rw [hout, hpiece]
          show (sdlpFramer.close ((Unstuffer.framer slip decodeEnvelope).inside _ _)).toList = _
          rw [hread]
          show (decodeEnvelope (u ++ k.envelope)).toList = _
          rw [decodeEnvelope_append hu hk hfield]
          rfl
        by_cases hfield : fromBytes (slice u 2 4) = u.length + f.encode.length
        · exact ⟨g, by simp, hlost g hg fun _ => by omega⟩
        · exact ⟨f, by simp, hlost f hf fun _ => hfield⟩

lemma emitted_clean {f : SdlpFrame} (hf : f.encode.length < 200) :
    SdlpUartStreamParser.clean.emitted (slip.stuff f.envelope ++ [slipEnd]) = [f.parsed] := by
  have hpiece := sdlpFramer.out_piece (slip.delim_notMem_stuff f.envelope) sdlpFramer.start []
  have hdecode : sdlpFramer.decode (slip.stuff f.envelope) = some f.parsed :=
    (Unstuffer.decode_stuff slip decodeEnvelope f.envelope).trans
      (f.decodeEnvelope_envelope (by omega))
  rw [SdlpUartStreamParser.emitted_eq, SdlpUartStreamParser.toPiece_clean]
  refine hpiece.trans ?_
  show (sdlpFramer.decode _).toList ++ _ = _
  rw [hdecode]
  rfl

/-- Unless the parser has just read an `END`, the line can bring bytes that tell it from
a parser that has. -/
lemma exists_probe {parser : SdlpUartStreamParser} (h : parser ≠ SdlpUartStreamParser.clean)
    {packet : SpacePacket} (hpacket : packet.encode.length = 13) :
    ∃ w : Bytes, w.length ≤ 4096 ∧ (SdlpSpacePacketReceiver.mk parser).packets w = [] ∧
      (SdlpSpacePacketReceiver.mk SdlpUartStreamParser.clean).packets w ≠ [] := by
  -- two frames around the same packet, of different lengths
  let tm : TmTransferFrame := { SdlpUartStreamParser.emptyTm with dataField := packet.encode }
  let tc : TcTransferFrame :=
    { SdlpUartStreamParser.emptyTc with
      dataField := packet.encode
      length_le := by rw [hpacket]; decide }
  have htm : (SdlpFrame.tm tm).encode.length = 19 := by
    have hlen : (SdlpFrame.tm tm).encode.length = 6 + packet.encode.length + 0 + 0 :=
      tm.length_encode
    omega
  have htc : (SdlpFrame.tc tc).encode.length = 18 := by
    have hlen : (SdlpFrame.tc tc).encode.length = 5 + packet.encode.length + 0 := tc.length_encode
    omega
  have hcarry : ∀ k ∈ [SdlpFrame.tm tm, SdlpFrame.tc tc], k.encode.length < 200 ∧
      SdlpSpacePacketReceiver.packetsOfFrame k.parsed ≠ [] := by
    intro k hk
    simp only [List.mem_cons, List.not_mem_nil, or_false] at hk
    rcases hk with rfl | rfl
    · refine ⟨by omega, ?_⟩
      rw [SdlpSpacePacketReceiver.packetsOfFrame_tm_single (p := packet) rfl rfl]
      simp
    · refine ⟨by omega, ?_⟩
      rw [SdlpSpacePacketReceiver.packetsOfFrame_tc (p := packet) rfl]
      simp
  obtain ⟨k, hk, hlost⟩ := exists_lost h (f := .tm tm) (g := .tc tc) (by omega) (by omega)
    (by omega)
  obtain ⟨hshort, hpackets⟩ := hcarry k hk
  refine ⟨slip.stuff k.envelope ++ [slipEnd], ?_, ?_, ?_⟩
  · have hstuff := slip.length_stuff_le k.envelope
    rw [k.length_envelope] at hstuff
    simp only [List.length_append, List.length_cons, List.length_nil]
    omega
  · rw [SdlpSpacePacketReceiver.packets, hlost]
    rfl
  · rw [SdlpSpacePacketReceiver.packets, emitted_clean hshort, List.flatMap_singleton]
    exact hpackets

/-- A port that has a few bytes waiting hands them all over. -/
lemma readOnce_waiting {w : Bytes} (hw : w.length ≤ 4096) :
    (SdlpSpacePacketReceiver.readOnce (PortAnswer.waiting w) egseSerialMaxReadSize).1 = .ok w := by
  rw [SdlpSpacePacketReceiver.readOnce, if_neg (by decide)]
  show (if (w.length : ℤ) ≤ 0 then _ else _ : Except PyError Bytes × PortAnswer).1 = _
  by_cases hzero : (w.length : ℤ) ≤ 0
  · have hnil : w = [] := List.eq_nil_of_length_eq_zero (by omega)
    rw [if_pos hzero, hnil]
  · rw [if_neg hzero]
    show Except.ok (w.take _) = _
    rw [List.take_of_length_le]
    split_ifs <;> simp only [egseSerialMaxReadSize] at * <;> omega

lemma receiveOnce_waiting (self : EgseGuiApp) {w : Bytes} (hw : w.length ≤ 4096) :
    (self.receiveOnce (PortAnswer.waiting w)).1 = .ok (self.receiver.packets w) := by
  have hread := readOnce_waiting hw
  rw [EgseGuiApp.receiveOnce_fst, chunkOf, hread]
  rfl

/-- Without injections there is nothing to show. -/
lemma serial_only {P : Type} [SerialLike P] (self : EgseGuiApp) (ports : List P) :
    Along EgseGuiApp.sharedStep EgseGuiApp.Succeeds self (ports.map .serial) ∧
      InjectsBetweenFrames self (ports.map .serial) := by
  induction ports generalizing self with
  | nil => exact ⟨trivial, trivial⟩
  | cons port ports ih =>
      obtain ⟨hok, hbetween⟩ := ih (self.sharedStep (.serial port))
      exact ⟨⟨trivial, hok⟩, hbetween⟩

/-- **When injections do no harm.**  In a run, the injections and the line do not disturb each
other exactly if no injection can be seen in the pieces that it cuts; it is enough that every
injection falls between two frames on the line.  What may still come from the line never shows
an injection exactly if the last byte from it was an `END`. -/
theorem injections_undisturbed {P : Type} [SerialLike P] (self : EgseGuiApp) :
    (∀ steps : List (SharedStep P), Along EgseGuiApp.sharedStep EgseGuiApp.Succeeds self steps →
      (self.Undisturbed steps ↔ InjectsUnseen self self.receiver steps) ∧
        (InjectsBetweenFrames self steps → self.Undisturbed steps)) ∧
      ∀ tmApidVar scidVar vcidVar : String,
        self.Succeeds (.inject tmApidVar scidVar vcidVar : SharedStep PortAnswer) →
          ((∀ ports : List PortAnswer, self.Undisturbed
            (.inject tmApidVar scidVar vcidVar :: ports.map .serial)) ↔
            self.receiver.uartParser = SdlpUartStreamParser.clean) := by
  refine ⟨fun steps hok => ⟨undisturbed_iff hok, fun hbetween =>
    undisturbed_of_betweenFrames hbetween hok⟩, ?_⟩
  intro tmApidVar scidVar vcidVar hok
  constructor
  · intro hundisturbed
    by_contra hclean
    obtain ⟨decodedPackets, hfeed⟩ := hok
    obtain ⟨tmApid, packet, -, -, hlen, -⟩ := EgseGuiApp.feedSimulated_eq_ok hfeed
    obtain ⟨w, hw, hlost, hkept⟩ := exists_probe hclean hlen
    have hreturns := (hundisturbed [.waiting w]).1
    have hafter := receiver_inject (P := PortAnswer) ⟨decodedPackets, hfeed⟩
    change [(EgseGuiApp.receiveOnce _ (PortAnswer.waiting w)).1] =
      [(self.receiveOnce (PortAnswer.waiting w)).1] at hreturns
    rw [receiveOnce_waiting _ hw, receiveOnce_waiting _ hw, hafter] at hreturns
    simp only [List.cons.injEq, Except.ok.injEq, and_true] at hreturns
    exact hkept (hreturns.trans hlost)
  · intro hclean ports
    obtain ⟨hserial, hbetween⟩ := serial_only (self.sharedStep (.inject tmApidVar scidVar vcidVar :
      SharedStep PortAnswer)) ports
    exact undisturbed_of_betweenFrames ⟨Or.inl hclean, hbetween⟩ ⟨hok, hserial⟩

/-! ## A frame that an injection falls into -/

/-- The frame arrives in two pieces, with an injection between them. -/
def splitRun : List (SharedStep PortAnswer) :=
  [.serial (.waiting (lineFrame.take 9)), .inject "200" "1" "0",
    .serial (.waiting (lineFrame.drop 9))]

instance {P : Type} (self : EgseGuiApp) (step : SharedStep P) : Decidable (self.Succeeds step) :=
  match step with
  | .serial _ => isTrue trivial
  | .inject tmApidVar scidVar vcidVar =>
      match h : (self.withFields tmApidVar scidVar vcidVar).feedSimulated.1 with
      | .ok (some decodedPackets) => isTrue ⟨decodedPackets, h⟩
      | .ok none => isFalse fun ⟨_, hsome⟩ => by simp [h] at hsome
      | .error _ => isFalse fun ⟨_, hsome⟩ => by simp [h] at hsome

/-- Before the first frame, in the middle of noise and between two frames, injections are
safe. -/
def noisyRun : List (SharedStep PortAnswer) :=
  [.inject "200" "1" "0", .serial (.waiting [0xC0, 0x01, 0xDB]), .inject "201" "0x10" "7",
    .serial (.waiting ([0x02] ++ lineFrame)), .inject "202" "0" "0",
    .serial (.waiting (lineFrame.take 9)), .serial (.waiting (lineFrame.drop 9))]

theorem injections_undisturbed_noisyRun : EgseGuiApp.init.Undisturbed noisyRun :=
  ((injections_undisturbed EgseGuiApp.init).1 noisyRun (by decide)).1.mpr
    ⟨⟨by decide, fun _ => by decide⟩, ⟨by decide, fun _ => by decide⟩,
      ⟨by decide, fun _ => by decide⟩, trivial⟩

/-- The packet of the frame is lost. -/
theorem injection_splits_frame :
    Along EgseGuiApp.sharedStep EgseGuiApp.Succeeds EgseGuiApp.init splitRun ∧
      EgseGuiApp.init.serialReturns splitRun = [.ok [], .ok []] ∧
      (EgseGuiApp.init.serialReturns (splitRun.filter SharedStep.isSerial)).map
        (fun returned => returned.toOption.map List.length) = [some 0, some 1] ∧
      ¬ EgseGuiApp.init.Undisturbed splitRun := by
  have hlost : EgseGuiApp.init.serialReturns splitRun ≠
      EgseGuiApp.init.serialReturns (splitRun.filter SharedStep.isSerial) := by decide
  exact ⟨by decide, by decide, by decide, fun h => hlost h.1⟩

end OpenSpaceEgse
