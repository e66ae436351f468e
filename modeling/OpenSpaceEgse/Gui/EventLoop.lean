import OpenSpaceEgse.Gui.Simulation
import OpenSpaceEgse.Gui.Link

/-!
# The event loop

The application takes one step for each event: a call from a widget, a timer that
fires, an edit of a text field, and the two halves of the receive loop, which runs in a
thread of its own and may stand still between them.  Tk reports an exception that
escapes a callback and goes on with the state as the callback left it.

`link` is the part of the state that concerns the connection.  Only connecting,
disconnecting, the receive loop and the timer of `_process_rx_queue` do anything to it,
and `link_step` is the refinement: every event takes a step of the abstract connection.
-/

namespace OpenSpaceEgse

inductive TextField where
  | port
  | baud
  | scid
  | vcid
  | tcApid
  | tmApid
deriving DecidableEq, Repr

/-- What a port answers once: it raises, or it has bytes waiting. -/
inductive PortAnswer where
  | raises (e : PyError)
  | waiting (bytes : Bytes)

instance : SerialLike PortAnswer where
  inWaiting
    | .raises e => (.error e, .raises e)
    | .waiting bytes => (.ok bytes.length, .waiting bytes)
  read
    | .raises e, _ => (.error e, .raises e)
    | .waiting bytes, size => (.ok (bytes.take size.toNat), .waiting (bytes.drop size.toNat))

/-- A TC frame with a telemetry packet of one byte, as it stands on the line. -/
def lineFrame : Bytes :=
  [0xC0, 0x02, 0x00, 0x00, 0x0C, 0x00, 0x01, 0x00, 0x0B, 0x00, 0x00, 0xC8, 0x00, 0x00, 0x00, 0x00,
    0x2A, 0xC0]

/-- The bytes that one call of `process_serial_once` in `_rx_loop` reads. -/
def chunkOf {P : Type} [SerialLike P] (port : P) : Bytes :=
  match (SdlpSpacePacketReceiver.readOnce port egseSerialMaxReadSize).1 with
  | .ok chunk => chunk
  | .error _ => []

/-- What happens to the application; `P` is what a port answers to the receive loop. -/
inductive Event (P : Type) where
  | connect (answer : String → ℤ → Except PyError Unit)
  | disconnect
  | rxPick
  | rxPoll (port : P)
  | fire (id : ℕ)
  | injectSimulatedTelemetry
  | clearTelemetryData
  | toggleAutoSimulation
  | toggleSimFrequency
  | edit (field : TextField) (text : String)

/-- The port that the receive thread has in hand. -/
def RxThread.inHand : RxThread → Option PortId
  | .picked serialPort => some serialPort
  | _ => none

namespace EgseGuiApp

variable {P : Type} [SerialLike P]

/-- An edit of a text field. -/
def setText (self : EgseGuiApp) (text : String) : TextField → EgseGuiApp
  | .port => { self with portVar := text }
  | .baud => { self with baudVar := text }
  | .scid => { self with scidVar := text }
  | .vcid => { self with vcidVar := text }
  | .tcApid => { self with tcApidVar := text }
  | .tmApid => { self with tmApidVar := text }

/-- The callback of a timer that has neither fired nor been cancelled. -/
def callback (self : EgseGuiApp) (id : ℕ) : Option Callback :=
  (self.root.timers.find? (·.id = id)).map Timer.callback

/-- Tk lets a timer fire. -/
def fire (self : EgseGuiApp) (id : ℕ) : EgseGuiApp :=
  match self.callback id with
  | none => self
  | some .processRxQueue => ({ self with root := self.root.afterCancel id }.processRxQueue).2
  | some .runAutoSimulationStep =>
      ({ self with root := self.root.afterCancel id }.runAutoSimulationStep).2

/-- What an event makes of the application. -/
def step (self : EgseGuiApp) : Event P → EgseGuiApp
  | .connect answer => (self.connect answer).2
  | .disconnect => self.disconnect
  | .rxPick => self.rxPick
  | .rxPoll port => self.rxPoll port
  | .fire id => self.fire id
  | .injectSimulatedTelemetry => self.injectSimulatedTelemetry.2
  | .clearTelemetryData => self.clearTelemetryData
  | .toggleAutoSimulation => self.toggleAutoSimulation.2
  | .toggleSimFrequency => self.toggleSimFrequency.2
  | .edit field text => self.setText text field

/-! ## Receiving -/

lemma receiver_receiveOnce (self : EgseGuiApp) (port : P) :
    (self.receiveOnce port).2.receiver = self.receiver.after (chunkOf port) := by
  rw [receiveOnce, SdlpSpacePacketReceiver.processSerialOnce_eq, chunkOf]
  rcases SdlpSpacePacketReceiver.readOnce port egseSerialMaxReadSize with ⟨e | chunk, port'⟩
  · rfl
  · rfl

/-- What is returned are the packets of the chunk, or what the port raises. -/
lemma receiveOnce_fst (self : EgseGuiApp) (port : P) :
    (self.receiveOnce port).1 =
      (SdlpSpacePacketReceiver.readOnce port egseSerialMaxReadSize).1.map fun _ =>
        self.receiver.packets (chunkOf port) := by
  rw [receiveOnce, SdlpSpacePacketReceiver.processSerialOnce_eq, chunkOf]
  rcases SdlpSpacePacketReceiver.readOnce port egseSerialMaxReadSize with ⟨e | chunk, port'⟩
  · rfl
  · rfl

/-! ## Connecting -/

/-- A new sender writes to the port it was made for, or a text field is no number. -/
lemma newSender_cases (self : EgseGuiApp) (serialPort : PortId) :
    (∃ sender, self.newSender serialPort = .ok sender ∧ sender.serialPort = serialPort) ∨
      ∃ msg, self.newSender serialPort = .error (.valueError msg) := by
  have hraises : OnlyValueErrors (self.newSender serialPort) :=
    .bind (intOfText_raises _) fun _ => .bind (intOfText_raises _) fun _ =>
      .bind (intOfText_raises _) fun _ => .ok _
  cases h : self.newSender serialPort with
  | ok sender =>
      obtain ⟨spacecraftId, -, h⟩ := bind_eq_ok.mp h
      obtain ⟨virtualChannelId, -, h⟩ := bind_eq_ok.mp h
      obtain ⟨apid, -, h⟩ := bind_eq_ok.mp h
      exact Or.inl ⟨sender, rfl, (TcCommandSender.new_eq_ok h).1⟩
  | error e =>
      obtain ⟨msg, rfl⟩ := hraises e h
      exact Or.inr ⟨msg, rfl⟩

/-- What `_connect` can do. -/
inductive ConnectOutcome (self : EgseGuiApp) : Except PyError Unit × EgseGuiApp → Prop where
  | already (h : self.serialPort ≠ none) : ConnectOutcome self (.ok (), self)
  | escaped (h : self.serialPort = none) (e : PyError) : ConnectOutcome self (.error e, self)
  | refused (h : self.serialPort = none) :
      ConnectOutcome self (.ok (), { self with serialPort := none, sender := none })
  | dropped (h : self.serialPort = none) :
      ConnectOutcome self (.ok (), { self with
        serialPort := none
        sender := none
        serial := { self.serial with opened := self.serial.opened + 1 } })
  | connected (h : self.serialPort = none) (sender : TcCommandSender PortId)
      (hport : sender.serialPort = self.serial.opened) :
      ConnectOutcome self (.ok (), { self with
        serialPort := some self.serial.opened
        sender := some sender
        serial := { self.serial with opened := self.serial.opened + 1 } })

lemma connectFailed_outcome {self : EgseGuiApp} (h : self.serialPort = none) (e : PyError) :
    ConnectOutcome self (self.connectFailed e) := by
  cases e with
  | valueError msg => exact .refused h
  | serialException msg => exact .refused h
  | typeError msg => exact .escaped h _
  | assertionError msg => exact .escaped h _
  | osError msg => exact .escaped h _

theorem connect_outcome (self : EgseGuiApp) (answer : String → ℤ → Except PyError Unit) :
    ConnectOutcome self (self.connect answer) := by
  rw [connect]
  split_ifs with hport
  · exact .already hport
  · have hnone : self.serialPort = none := not_not.mp hport
    split
    · exact connectFailed_outcome hnone _
    · split
      · exact connectFailed_outcome hnone _
      · rcases newSender_cases { self with
            serialPort := some self.serial.opened
            serial := { self.serial with opened := self.serial.opened + 1 } }
          self.serial.opened with ⟨sender, hsender, hsame⟩ | ⟨msg, hsender⟩
        · simp only [hsender]
          split
          · rename_i hstr
            obtain ⟨msg, rfl⟩ := strOfInt_raises _ _ hstr
            exact .dropped hnone
          · exact .connected hnone sender hsame
        · simp only [hsender]
          exact .dropped hnone

/-! ## What the steps leave alone -/

section Frame

variable {α : Type} {f : EgseGuiApp → α}

lemma connect_frame (hf : ∀ (self : EgseGuiApp) serialPort sender serial,
    f { self with serialPort := serialPort, sender := sender, serial := serial } = f self)
    (self : EgseGuiApp) (answer : String → ℤ → Except PyError Unit) :
    f (self.connect answer).2 = f self := by
  have hout := self.connect_outcome answer
  generalize self.connect answer = out at hout
  cases hout with
  | already => rfl
  | escaped => rfl
  | refused => exact hf self none none self.serial
  | dropped => exact hf self none none _
  | connected h sender => exact hf self (some self.serial.opened) (some sender) _

lemma disconnect_frame (hf : ∀ (self : EgseGuiApp) serialPort sender serial,
    f { self with serialPort := serialPort, sender := sender, serial := serial } = f self)
    (self : EgseGuiApp) : f self.disconnect = f self := by
  rw [disconnect]
  split
  · rfl
  · exact hf self none none _

lemma rxPick_frame (hf : ∀ (self : EgseGuiApp) rxThread,
    f { self with rxThread := rxThread } = f self) (self : EgseGuiApp) :
    f self.rxPick = f self := by
  rw [rxPick]
  split
  · exact hf self _
  · rfl

lemma rxPoll_frame (hf : ∀ (self : EgseGuiApp) receiver rxQueue rxThread,
    f { self with receiver := receiver, rxQueue := rxQueue, rxThread := rxThread } = f self)
    (self : EgseGuiApp) (port : P) : f (self.rxPoll port) = f self := by
  rw [rxPoll]
  split
  · rw [receiveOnce]
    rcases self.receiver.processSerialOnce port egseSerialMaxReadSize with
      ⟨e | decodedPackets, receiver, port'⟩
    · cases e with
      | osError msg => exact hf self receiver _ .idle
      | serialException msg => exact hf self receiver _ .idle
      | typeError msg => exact hf self receiver self.rxQueue .ended
      | valueError msg => exact hf self receiver self.rxQueue .ended
      | assertionError msg => exact hf self receiver self.rxQueue .ended
    · exact hf self receiver _ .idle
  · rfl

/-- The loop over the queue handles packets until a marker disconnects, or it raises. -/
lemma processItems_frame (hqueue : ∀ (self : EgseGuiApp) rxQueue,
    f { self with rxQueue := rxQueue } = f self)
    (hsample : ∀ self sample, f (addSample self sample) = f self)
    (hdisconnect : ∀ self, f (disconnect self) = f self) (self : EgseGuiApp)
    (items : List (Option DecodedSpacePacket)) : f (self.processItems items).2 = f self := by
  induction items generalizing self with
  | nil => exact hqueue self []
  | cons item items ih =>
      cases item with
      | none => exact (hdisconnect { self with rxQueue := items }).trans (hqueue self items)
      | some item =>
          rw [processItems]
          rcases handleDecodedPacket_cases { self with rxQueue := items } item with
            ⟨-, h⟩ | ⟨-, msg, h⟩
          · rw [h]
            refine (ih _).trans ?_
            rcases afterPacket_cases { self with rxQueue := items } item with h | ⟨sample, h⟩
            · rw [h, hqueue]
            · rw [h, hsample, hqueue]
          · rw [h]
            exact hqueue self items

/-- A tick arms the next timer, unless it raises. -/
lemma processRxQueue_cases (self : EgseGuiApp) :
    ((self.processItems self.rxQueue).1 = .ok () ∧
        self.processRxQueue = (.ok (), { (self.processItems self.rxQueue).2 with
          root := ((self.processItems self.rxQueue).2.root.after guiUpdateIntervalMs
            .processRxQueue).2 })) ∨
      ∃ e, (self.processItems self.rxQueue).1 = .error e ∧
        self.processRxQueue = (.error e, (self.processItems self.rxQueue).2) := by
  rw [processRxQueue]
  rcases self.processItems self.rxQueue with ⟨e | ⟨⟩, self'⟩
  · exact Or.inr ⟨e, rfl, rfl⟩
  · exact Or.inl ⟨rfl, rfl⟩

/-- What the loop over the queue leaves alone is left alone by a tick, the timers apart. -/
lemma processRxQueue_frame (hroot : ∀ (self : EgseGuiApp) root,
    f { self with root := root } = f self) (self : EgseGuiApp) :
    f self.processRxQueue.2 = f (self.processItems self.rxQueue).2 := by
  rcases self.processRxQueue_cases with ⟨-, h⟩ | ⟨e, -, h⟩
  · rw [h, hroot]
  · rw [h]

end Frame

lemma receiver_disconnect (self : EgseGuiApp) : self.disconnect.receiver = self.receiver :=
  disconnect_frame (f := receiver) (fun _ _ _ _ => rfl) self

lemma receiver_processItems (self : EgseGuiApp) (items : List (Option DecodedSpacePacket)) :
    (self.processItems items).2.receiver = self.receiver :=
  processItems_frame (f := receiver) (fun _ _ => rfl) (fun _ _ => rfl) receiver_disconnect self
    items

lemma receiver_processRxQueue (self : EgseGuiApp) :
    self.processRxQueue.2.receiver = self.receiver :=
  (self.processRxQueue_frame (f := receiver) fun _ _ => rfl).trans (self.receiver_processItems _)

/-! ## The connection -/

/-- The part of the application that concerns the connection. -/
def link (self : EgseGuiApp) : Link DecodedSpacePacket where
  port := self.serialPort
  writesTo := self.sender.map TcCommandSender.serialPort
  queue := self.rxQueue
  inHand := self.rxThread.inHand
  opened := self.serial.opened
  closed := self.serial.closed

lemma link_afterPacket (self : EgseGuiApp) (decodedPacket : DecodedSpacePacket) :
    (self.afterPacket decodedPacket).link = self.link := by
  rcases self.afterPacket_cases decodedPacket with h | ⟨sample, h⟩
  · rw [h]
  · rw [h]
    rfl

lemma link_feedSimulated (self : EgseGuiApp) : self.feedSimulated.2.link = self.link := by
  obtain ⟨receiver, h⟩ := self.exists_feedSimulated_snd
  rw [h]
  rfl

lemma link_injectSimulatedTelemetry (self : EgseGuiApp) :
    self.injectSimulatedTelemetry.2.link = self.link := by
  have hfeed := self.link_feedSimulated
  rw [injectSimulatedTelemetry]
  split
  · rename_i h
    rwa [h] at hfeed
  · rename_i h
    rwa [h] at hfeed
  · rename_i h
    rw [h] at hfeed
    rw [handleDecodedPackets_of_feedSimulated h]
    exact (foldl_afterPacket (f := link) (fun _ _ => rfl) _ _).trans hfeed

lemma link_armAutoSimulation (self : EgseGuiApp) :
    self.armAutoSimulation.2.link = self.link := by
  rw [armAutoSimulation]
  split <;> rfl

lemma link_runAutoSimulationStep (self : EgseGuiApp) :
    self.runAutoSimulationStep.2.link = self.link := by
  have hinject := self.link_injectSimulatedTelemetry
  rw [runAutoSimulationStep]
  split_ifs
  · split
    · rename_i h
      rwa [h] at hinject
    · rename_i h
      rw [h] at hinject
      exact (link_armAutoSimulation _).trans hinject
  · rfl

lemma link_toggleAutoSimulation (self : EgseGuiApp) :
    self.toggleAutoSimulation.2.link = self.link := by
  rw [toggleAutoSimulation]
  split_ifs
  · rw [stopAutoSimulation]
    split <;> rfl
  · exact link_runAutoSimulationStep _

lemma link_toggleSimFrequency (self : EgseGuiApp) :
    self.toggleSimFrequency.2.link = self.link := by
  rw [toggleSimFrequency]
  split_ifs
  · dsimp only
    split <;> exact link_armAutoSimulation _
  · rfl

lemma link_setText (self : EgseGuiApp) (field : TextField) (text : String) :
    (self.setText text field).link = self.link := by
  cases field <;> rfl

lemma link_disconnect (self : EgseGuiApp) : self.disconnect.link = self.link.close := by
  rw [disconnect, Link.close]
  cases h : self.serialPort with
  | none => simp only [link, h]
  | some serialPort => simp only [link, h, Option.map_none]

lemma link_processItems (self : EgseGuiApp) (items : List (Option DecodedSpacePacket)) :
    (self.processItems items).2.link =
      Link.tick { self.link with queue := items } self.raisesOn := by
  induction items generalizing self with
  | nil => rfl
  | cons item items ih =>
      cases item with
      | none =>
          rw [processItems, link_disconnect, Link.tick, Link.taken, if_pos List.mem_cons_self]
          rfl
      | some item =>
          have hraises : raisesOn { self with rxQueue := items } = self.raisesOn := rfl
          rw [processItems, Link.tick, Link.taken, Link.left, ← hraises]
          rcases handleDecodedPacket_cases { self with rxQueue := items } item with
            ⟨hgoes, h⟩ | ⟨hstops, msg, h⟩
          · have hmem : ∀ taken : List (Option DecodedSpacePacket),
                none ∈ some item :: taken ↔ none ∈ taken := by simp
            rw [h, hgoes]
            simp only [Bool.false_eq_true, if_false, hmem]
            rw [ih, raisesOn_afterPacket, link_afterPacket, Link.tick]
            rfl
          · rw [h, hstops]
            simp only [if_true, List.mem_singleton, reduceCtorEq, if_false]
            rfl

lemma link_processRxQueue (self : EgseGuiApp) :
    self.processRxQueue.2.link = self.link.tick self.raisesOn :=
  (self.processRxQueue_frame (f := link) fun _ _ => rfl).trans
    (self.link_processItems self.rxQueue)

/-- A timer that fires changes the connection only through `_process_rx_queue`. -/
lemma link_fire (self : EgseGuiApp) (id : ℕ) :
    (self.fire id).link =
      if self.callback id = some .processRxQueue then self.link.tick self.raisesOn
      else self.link := by
  rw [fire]
  cases h : self.callback id with
  | none => rfl
  | some callback =>
      cases callback with
      | processRxQueue => exact link_processRxQueue _
      | runAutoSimulationStep => exact link_runAutoSimulationStep _

/-- The receive loop raises on the port in hand: an error that it catches, and answers
with a marker. -/
def raises (self : EgseGuiApp) (port : P) : Option PortId :=
  match (self.receiveOnce port).1 with
  | .error (.osError _) | .error (.serialException _) => self.rxThread.inHand
  | _ => none

/-- The port that raises in an event. -/
def raisedBy (self : EgseGuiApp) : Event P → Option PortId
  | .rxPoll port => self.raises port
  | _ => none

lemma link_connect (self : EgseGuiApp) (answer : String → ℤ → Except PyError Unit) :
    Link.Step self.link none (self.connect answer).2.link := by
  have hout := self.connect_outcome answer
  generalize self.connect answer = out at hout
  cases hout with
  | already => exact .stays _
  | escaped => exact .stays _
  | refused h => exact .refuses _ h
  | dropped h => exact .drops _ h
  | connected h sender hport =>
      have hopens := Link.Step.opens self.link h
      simp only [link, Option.map_some, hport] at hopens ⊢
      exact hopens

lemma link_rxPick (self : EgseGuiApp) : Link.Step self.link none self.rxPick.link := by
  rw [rxPick]
  split
  · rename_i serialPort hthread hport
    exact .picks self.link serialPort hport
  · exact .stays _

lemma link_rxPoll (self : EgseGuiApp) (port : P) :
    Link.Step self.link (self.raises port) (self.rxPoll port).link := by
  cases hthread : self.rxThread with
  | picked serialPort =>
      -- of the errors, the loop catches `OSError` and `SerialException`; any other ends it
      have hhand : self.link.inHand = some serialPort := by rw [link, hthread]; rfl
      rw [raises, rxPoll, hthread, receiveOnce]
      rcases self.receiver.processSerialOnce port egseSerialMaxReadSize with
        ⟨e | decodedPackets, receiver, port'⟩
      · cases e with
        | osError msg => exact .fails self.link serialPort hhand
        | serialException msg => exact .fails self.link serialPort hhand
        | typeError msg => exact .ends self.link
        | valueError msg => exact .ends self.link
        | assertionError msg => exact .ends self.link
      · exact .delivers self.link decodedPackets
  | idle =>
      have hraises : self.raises port = none := by
        rw [raises, hthread]
        split <;> rfl
      rw [hraises, rxPoll, hthread]
      exact .stays _
  | ended =>
      have hraises : self.raises port = none := by
        rw [raises, hthread]
        split <;> rfl
      rw [hraises, rxPoll, hthread]
      exact .stays _

/-- **Refinement.**  Every event takes a step of the connection. -/
theorem link_step (self : EgseGuiApp) (e : Event P) :
    Link.Step self.link (self.raisedBy e) (self.step e).link := by
  cases e with
  | connect answer => exact self.link_connect answer
  | disconnect =>
      rw [step, link_disconnect]
      exact .closes _
  | rxPick => exact self.link_rxPick
  | rxPoll port => exact self.link_rxPoll port
  | fire id =>
      rw [step, link_fire]
      split_ifs
      · exact .ticks _ _
      · exact .stays _
  | injectSimulatedTelemetry =>
      rw [step, link_injectSimulatedTelemetry]
      exact .stays _
  | clearTelemetryData => exact .stays _
  | toggleAutoSimulation =>
      rw [step, link_toggleAutoSimulation]
      exact .stays _
  | toggleSimFrequency =>
      rw [step, link_toggleSimFrequency]
      exact .stays _
  | edit field text =>
      rw [step, link_setText]
      exact .stays _

end EgseGuiApp

end OpenSpaceEgse
