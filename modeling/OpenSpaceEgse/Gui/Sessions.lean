import OpenSpaceEgse.Gui.EventLoop

/-!
# Sessions on the line

A session is a connection, what the receive loop gets from its port, and the end of the
connection.  Connecting makes a new sender, but the receiver stays: what a session left
unfinished is continued by the bytes of the next one, `session_splices_frame`.
`sessions_isolated_iff` says when this shows.
-/

namespace OpenSpaceEgse

open Wire

/-- Who ends a session: the user, or `_process_rx_queue` on an error of the port. -/
inductive SessionEnd where
  | user
  | rxError
deriving DecidableEq, Repr

/-- A session: how pyserial answers `_connect`, what the port answers, call after call,
to the receive loop, and who calls `_disconnect`. -/
structure Session (P : Type) where
  answer : String → ℤ → Except PyError Unit
  ports : List P
  ending : SessionEnd

/-- The bytes that the receive loop reads in a session. -/
def Session.bytes {P : Type} [SerialLike P] (session : Session P) : Bytes :=
  session.ports.flatMap chunkOf

namespace EgseGuiApp

variable {P : Type} [SerialLike P]

/-- The packets that the receive loop decodes, call after call. -/
def receiveAll (self : EgseGuiApp) : List P → List DecodedSpacePacket × EgseGuiApp
  | [] => ([], self)
  | port :: ports =>
      let (result, self) := self.receiveOnce port
      let (decoded, self) := self.receiveAll ports
      (result.toOption.getD [] ++ decoded, self)

/-- The end of a session; an error of the port has put its marker in the queue. -/
def endSession (self : EgseGuiApp) : SessionEnd → EgseGuiApp
  | .user => self.disconnect
  | .rxError => ({ self with rxQueue := self.rxQueue ++ [none] }.processRxQueue).2

/-- The packets that are decoded in a session. -/
def play (self : EgseGuiApp) (session : Session P) : List DecodedSpacePacket × EgseGuiApp :=
  let (decoded, self) := (self.connect session.answer).2.receiveAll session.ports
  (decoded, self.endSession session.ending)

/-- The application behind some sessions. -/
def playAll (self : EgseGuiApp) (sessions : List (Session P)) : EgseGuiApp :=
  sessions.foldl (fun self session => (self.play session).2) self

end EgseGuiApp

/-- What is left open by the earlier bytes is completed by the later ones to a frame that
carries packets. -/
def Spliced (earlier later : Bytes) : Prop :=
  slipEnd ∈ earlier ∧ slipEnd ∈ later ∧
    ∃ frame, (slip.unstuff (SdlpUartStreamParser.openPiece earlier ++
        SdlpUartStreamParser.firstPiece later)).bind decodeEnvelope = some frame ∧
      SdlpSpacePacketReceiver.packetsOfFrame frame ≠ []

/-! ## The receiver across sessions -/

namespace EgseGuiApp

variable {P : Type} [SerialLike P]

lemma receiveAll_eq (self : EgseGuiApp) (ports : List P) :
    (self.receiveAll ports).1 = self.receiver.packets (ports.flatMap chunkOf) ∧
      (self.receiveAll ports).2.receiver = self.receiver.after (ports.flatMap chunkOf) := by
  induction ports generalizing self with
  | nil => exact ⟨rfl, rfl⟩
  | cons port ports ih =>
      obtain ⟨hdecoded, hreceiver⟩ := ih (self.receiveOnce port).2
      have hresult : (self.receiveOnce port).1.toOption.getD [] =
          self.receiver.packets (chunkOf port) := by
        rw [receiveOnce_fst, chunkOf]
        cases (SdlpSpacePacketReceiver.readOnce port egseSerialMaxReadSize).1 <;> rfl
      rw [receiver_receiveOnce] at hdecoded hreceiver
      rw [List.flatMap_cons, SdlpSpacePacketReceiver.packets_append,
        SdlpSpacePacketReceiver.after_append, ← hdecoded, ← hreceiver, ← hresult]
      exact ⟨rfl, rfl⟩

/-- Connecting leaves the receiver as it is. -/
lemma receiver_connect (self : EgseGuiApp) (answer : String → ℤ → Except PyError Unit) :
    (self.connect answer).2.receiver = self.receiver :=
  connect_frame (f := receiver) (fun _ _ _ _ => rfl) self answer

lemma receiver_endSession (self : EgseGuiApp) (ending : SessionEnd) :
    (self.endSession ending).receiver = self.receiver := by
  cases ending with
  | user => exact receiver_disconnect self
  | rxError => exact receiver_processRxQueue _

lemma play_eq (self : EgseGuiApp) (session : Session P) :
    (self.play session).1 = self.receiver.packets session.bytes ∧
      (self.play session).2.receiver = self.receiver.after session.bytes := by
  obtain ⟨hdecoded, hreceiver⟩ := (self.connect session.answer).2.receiveAll_eq session.ports
  rw [receiver_connect] at hdecoded hreceiver
  exact ⟨hdecoded, (receiver_endSession _ _).trans hreceiver⟩

/-- The receiver goes through the bytes of all the sessions. -/
lemma receiver_playAll (self : EgseGuiApp) (sessions : List (Session P)) :
    (self.playAll sessions).receiver = self.receiver.after (sessions.flatMap Session.bytes) := by
  induction sessions generalizing self with
  | nil => rfl
  | cons session sessions ih =>
      have hplay := (self.play_eq session).2
      rw [playAll, List.foldl_cons]
      show ((self.play session).2.playAll sessions).receiver = _
      rw [ih, hplay, List.flatMap_cons, SdlpSpacePacketReceiver.after_append]

end EgseGuiApp

/-! ## The first piece of a session -/

lemma pending_init (p : Bytes) : SdlpSpacePacketReceiver.init.pending p = [] := by
  have hidle : sdlpFramer.Idle .void := Unstuffer.void_idle slip decodeEnvelope
  have hclose : sdlpFramer.close (sdlpFramer.inside .void p) = none := by
    rw [hidle.inside_eq, hidle.close_eq]
  exact congrArg (fun frame => frame.toList.flatMap SdlpSpacePacketReceiver.packetsOfFrame) hclose

/-- Behind some bytes, a receiver completes what they have left open. -/
lemma pending_after_init (earlier p : Bytes) :
    (SdlpSpacePacketReceiver.init.after earlier).pending p =
      (if slipEnd ∈ earlier then
        (slip.unstuff (SdlpUartStreamParser.openPiece earlier ++ p)).bind decodeEnvelope
      else none).toList.flatMap SdlpSpacePacketReceiver.packetsOfFrame := by
  have hidle : sdlpFramer.Idle .void := Unstuffer.void_idle slip decodeEnvelope
  have hstate : (SdlpSpacePacketReceiver.init.after earlier).uartParser.toPiece =
      sdlpFramer.inside (if slipEnd ∈ earlier then sdlpFramer.start else .void)
        (SdlpUartStreamParser.openPiece earlier) := by
    rw [SdlpSpacePacketReceiver.toPiece_after]
    exact sdlpFramer.run_eq_openPiece .void earlier
  rw [SdlpSpacePacketReceiver.pending, hstate, ← sdlpFramer.inside_append]
  -- the earlier bytes leave a piece open only if they hold an `END`
  by_cases hend : slipEnd ∈ earlier
  · rw [if_pos hend, if_pos hend, ← SdlpUartStreamParser.decode_piece]
    rfl
  · rw [if_neg hend, if_neg hend, hidle.inside_eq, hidle.close_eq]

/-- Earlier bytes show in later ones exactly if they are spliced. -/
lemma packets_after_eq_iff (earlier later : Bytes) :
    (SdlpSpacePacketReceiver.init.after earlier).packets later =
      SdlpSpacePacketReceiver.init.packets later ↔ ¬ Spliced earlier later := by
  by_cases hend : slipEnd ∈ later
  · obtain ⟨hp, v, hlater⟩ := SdlpUartStreamParser.exists_firstPiece hend
    have hopen := SdlpSpacePacketReceiver.packets_piece
      (SdlpSpacePacketReceiver.init.after earlier) hp v
    have hfresh := SdlpSpacePacketReceiver.init.packets_piece hp v
    rw [← hlater] at hopen hfresh
    rw [hopen, hfresh, pending_init, List.append_cancel_right_eq, pending_after_init, Spliced]
    by_cases hearlier : slipEnd ∈ earlier
    · rw [if_pos hearlier]
      cases (slip.unstuff (SdlpUartStreamParser.openPiece earlier ++
          SdlpUartStreamParser.firstPiece later)).bind decodeEnvelope with
      | none => simp
      | some frame => simp [hearlier, hend]
    · simp [hearlier]
  · rw [SdlpSpacePacketReceiver.packets_of_notMem _ hend,
      SdlpSpacePacketReceiver.packets_of_notMem _ hend]
    exact iff_of_true rfl fun h => hend h.2.1

/-- **When sessions are isolated.**  In a sequence of sessions, each decodes exactly the
packets that a fresh receiver decodes from its bytes, if and only if no session completes
what the earlier ones left open to a frame that carries packets. -/
theorem sessions_isolated_iff {P : Type} [SerialLike P] (sessions : List (Session P)) :
    (∀ earlier session later, sessions = earlier ++ session :: later →
      (SdlpSpacePacketReceiver.init.processUartBytes session.bytes).1 =
        .ok ((EgseGuiApp.init.playAll earlier).play session).1) ↔
      ∀ earlier session later, sessions = earlier ++ session :: later →
        ¬ Spliced (earlier.flatMap Session.bytes) session.bytes := by
  have hone : ∀ (earlier : List (Session P)) (session : Session P),
      (SdlpSpacePacketReceiver.init.processUartBytes session.bytes).1 =
        .ok ((EgseGuiApp.init.playAll earlier).play session).1 ↔
      ¬ Spliced (earlier.flatMap Session.bytes) session.bytes := by
    intro earlier session
    obtain ⟨hdecoded, -⟩ := (EgseGuiApp.init.playAll earlier).play_eq session
    rw [EgseGuiApp.receiver_playAll] at hdecoded
    rw [SdlpSpacePacketReceiver.processUartBytes_eq, hdecoded, ← packets_after_eq_iff,
      Except.ok.injEq]
    exact eq_comm
  constructor
  · intro h earlier session later hsplit
    exact (hone earlier session).mp (h earlier session later hsplit)
  · intro h earlier session later hsplit
    exact (hone earlier session).mpr (h earlier session later hsplit)

/-! ## A frame that two sessions make up -/

/-- The first session ends in the middle of a frame. -/
def firstSession : Session PortAnswer :=
  ⟨fun _ _ => .ok (), [.waiting (lineFrame.take 9)], .user⟩

/-- The second session brings the other half. -/
def secondSession : Session PortAnswer :=
  ⟨fun _ _ => .ok (), [.waiting (lineFrame.drop 9)], .rxError⟩

/-- The second session reports a packet, although its bytes hold none. -/
theorem session_splices_frame :
    ((EgseGuiApp.init.playAll [firstSession]).play secondSession).1.length = 1 ∧
      (SdlpSpacePacketReceiver.init.processUartBytes secondSession.bytes).1 = .ok [] ∧
      ¬ ∀ earlier session later,
        [firstSession, secondSession] = earlier ++ session :: later →
          (SdlpSpacePacketReceiver.init.processUartBytes session.bytes).1 =
            .ok ((EgseGuiApp.init.playAll earlier).play session).1 := by
  have hone : ((EgseGuiApp.init.playAll [firstSession]).play secondSession).1.length = 1 := by
    decide
  have hnone : (SdlpSpacePacketReceiver.init.processUartBytes secondSession.bytes).1 = .ok [] := by
    decide
  refine ⟨hone, hnone, ?_⟩
  intro h
  have hsecond := h [firstSession] secondSession [] rfl
  rw [hnone] at hsecond
  rw [← Except.ok.inj hsecond] at hone
  exact absurd hone (by decide)

end OpenSpaceEgse
