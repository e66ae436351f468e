import OpenSpaceEgse.Gui.Console

/-!
# Sending beside receiving

The panel and the rest of the application share the port, and nothing else.  `separation` says
so of whole runs: until the window is closed, commands may be selected, typed and sent in any
way, and everything but the counters of the sender goes on as in a run without the panel.  What
is proved of the runs of the application thus holds in the window.
-/

namespace OpenSpaceEgse

open Machine

namespace EgseGuiApp

variable {P : Type} [SerialLike P]

def withSender (self : EgseGuiApp) (sender : Option (TcCommandSender PortId)) : EgseGuiApp :=
  { self with sender := sender }

variable (self : EgseGuiApp) (sender : Option (TcCommandSender PortId))

/-! ### What does not look at the sender -/

lemma handleDecodedPacket_withSender (packet : DecodedSpacePacket) :
    (self.withSender sender).handleDecodedPacket packet =
      ((self.handleDecodedPacket packet).1,
        (self.handleDecodedPacket packet).2.withSender sender) := by
  have hapid : (self.withSender sender).telemetryApid = self.telemetryApid := rfl
  have hsample : ∀ sample, (self.withSender sender).addSample sample =
      (self.addSample sample).withSender sender := by
    intro sample
    simp only [addSample, withSender]
  rw [handleDecodedPacket, handleDecodedPacket, hapid]
  split_ifs
  · rfl
  · rfl
  · rcases decodeTelemetryPayload packet.spacePacket.dataField with e | sample
    · rfl
    · simp only [hsample sample]

lemma handleDecodedPackets_withSender (packets : List DecodedSpacePacket) :
    (self.withSender sender).handleDecodedPackets packets =
      ((self.handleDecodedPackets packets).1,
        (self.handleDecodedPackets packets).2.withSender sender) := by
  induction packets generalizing self with
  | nil => rfl
  | cons packet packets ih =>
      rw [handleDecodedPackets, handleDecodedPackets, handleDecodedPacket_withSender]
      rcases self.handleDecodedPacket packet with ⟨e | ⟨⟩, self'⟩
      · rfl
      · exact ih self'

lemma feedSimulated_withSender : (self.withSender sender).feedSimulated =
    (self.feedSimulated.1, self.feedSimulated.2.withSender sender) := by
  have hfields : (self.withSender sender).simulationFields = self.simulationFields := rfl
  have hstream : (self.withSender sender).simulatedStream = self.simulatedStream := rfl
  rw [feedSimulated, feedSimulated, hfields, hstream]
  rcases self.simulationFields with e | ⟨tmApid, spacecraftId, virtualChannelId⟩
  · cases e <;> rfl
  · dsimp only
    rcases self.simulatedStream tmApid spacecraftId virtualChannelId with e | uartStream
    · rfl
    · simp only [SdlpSpacePacketReceiver.processUartBytes_eq]
      rfl

lemma inject_withSender : (self.withSender sender).injectSimulatedTelemetry =
    (self.injectSimulatedTelemetry.1, self.injectSimulatedTelemetry.2.withSender sender) := by
  rw [injectSimulatedTelemetry, injectSimulatedTelemetry, feedSimulated_withSender]
  rcases self.feedSimulated with ⟨e | packets, self'⟩
  · rfl
  · cases packets with
    | none => rfl
    | some packets =>
        dsimp only
        rw [handleDecodedPackets_withSender]
        rcases self'.handleDecodedPackets packets with ⟨e | ⟨⟩, self''⟩ <;> rfl

lemma arm_withSender : (self.withSender sender).armAutoSimulation =
    (self.armAutoSimulation.1, self.armAutoSimulation.2.withSender sender) := by
  have hinterval : (self.withSender sender).currentAutoSimIntervalMs =
      self.currentAutoSimIntervalMs := rfl
  rw [armAutoSimulation, armAutoSimulation, hinterval]
  cases self.currentAutoSimIntervalMs <;> rfl

lemma runAutoSimulationStep_withSender : (self.withSender sender).runAutoSimulationStep =
    (self.runAutoSimulationStep.1, self.runAutoSimulationStep.2.withSender sender) := by
  have hrunning : (self.withSender sender).autoSimRunning = self.autoSimRunning := rfl
  rw [runAutoSimulationStep, runAutoSimulationStep, hrunning, inject_withSender]
  split_ifs
  · rcases self.injectSimulatedTelemetry with ⟨e | _, self'⟩
    · rfl
    · exact self'.arm_withSender sender
  · rfl

lemma stopAutoSimulation_withSender : (self.withSender sender).stopAutoSimulation =
    self.stopAutoSimulation.withSender sender := by
  have hid : (self.withSender sender).autoSimAfterId = self.autoSimAfterId := rfl
  rw [stopAutoSimulation, stopAutoSimulation, hid]
  cases self.autoSimAfterId <;> rfl

lemma toggleAutoSimulation_withSender : (self.withSender sender).toggleAutoSimulation =
    (self.toggleAutoSimulation.1, self.toggleAutoSimulation.2.withSender sender) := by
  have hrunning : (self.withSender sender).autoSimRunning = self.autoSimRunning := rfl
  rw [toggleAutoSimulation, toggleAutoSimulation, hrunning]
  split_ifs
  · rw [stopAutoSimulation_withSender]
  · exact runAutoSimulationStep_withSender { self with autoSimRunning := true } sender

lemma toggleSimFrequency_withSender : (self.withSender sender).toggleSimFrequency =
    (self.toggleSimFrequency.1, self.toggleSimFrequency.2.withSender sender) := by
  have hrunning : (self.withSender sender).autoSimRunning = self.autoSimRunning := rfl
  have hid : (self.withSender sender).autoSimAfterId = self.autoSimAfterId := rfl
  rw [toggleSimFrequency, toggleSimFrequency]
  dsimp only
  rw [hrunning, hid]
  split_ifs
  · cases self.autoSimAfterId with
    | none =>
        exact arm_withSender { self with
          autoSimAfterId := none
          simFrequencyIndex := (self.simFrequencyIndex + 1) % guiSimFrequencyOptionsHz.length }
          sender
    | some id =>
        exact arm_withSender { self with
          autoSimAfterId := some id
          simFrequencyIndex := (self.simFrequencyIndex + 1) % guiSimFrequencyOptionsHz.length
          root := self.root.afterCancel id } sender
  · rfl

/-! ### Connecting, step by step -/

/-- The application with the port that was just opened. -/
def withPort (self : EgseGuiApp) : EgseGuiApp :=
  { self with
    serialPort := some self.serial.opened
    serial := { self.serial with opened := self.serial.opened + 1 } }

/-- What is left of `_connect` behind the attempt to make a sender. -/
def settle (self : EgseGuiApp) (baudrate : ℤ) :
    Except PyError (TcCommandSender PortId) → Except PyError Unit × EgseGuiApp
  | .error e => self.connectFailed e
  | .ok sender =>
      match strOfInt baudrate with
      | .error e => { self with sender := some sender }.connectFailed e
      | .ok _ => (.ok (), { self with sender := some sender })

lemma connect_eq (answer : String → ℤ → Except PyError Unit) :
    self.connect answer =
      if self.serialPort ≠ none then (.ok (), self)
      else
        match intOfText (strip self.baudVar) with
        | .error e => self.connectFailed e
        | .ok baudrate =>
            match answer (strip self.portVar) baudrate with
            | .error e => self.connectFailed e
            | .ok () =>
                self.withPort.settle baudrate (self.withPort.newSender self.serial.opened) := by
  rw [connect]
  split_ifs
  · rfl
  · cases intOfText (strip self.baudVar) with
    | error e => rfl
    | ok baudrate =>
        dsimp only
        cases answer (strip self.portVar) baudrate with
        | error e => rfl
        | ok _ => rfl

/-! ### Applications that differ in the counters of their senders -/

/-- What a sender is besides its counters. -/
def wiring (sender : TcCommandSender PortId) : PortId × TcSendConfig :=
  (sender.serialPort, sender.config)

/-- The same application, but for the counters of the sender. -/
def Beside (app app' : EgseGuiApp) : Prop :=
  ∃ sender, app = app'.withSender sender ∧ sender.map wiring = app'.sender.map wiring

section Beside

variable {app app' : EgseGuiApp}

lemma Beside.refl (app : EgseGuiApp) : Beside app app := ⟨app.sender, rfl, rfl⟩

lemma Beside.map {g : EgseGuiApp → EgseGuiApp}
    (hg : ∀ app sender, g (withSender app sender) = (g app).withSender sender)
    (h : Beside app app') : Beside (g app) (g app') := by
  obtain ⟨sender, rfl, hsame⟩ := h
  have hself : g app' = (g app').withSender app'.sender := hg app' app'.sender
  have hsender : (g app').sender = app'.sender := by
    have hsenders := congrArg EgseGuiApp.sender hself
    exact hsenders
  exact ⟨sender, hg app' sender, by rw [hsender, hsame]⟩

lemma Beside.disconnect (h : Beside app app') : Beside app.disconnect app'.disconnect := by
  obtain ⟨sender, rfl, hsame⟩ := h
  have hport : (app'.withSender sender).serialPort = app'.serialPort := rfl
  rw [EgseGuiApp.disconnect, EgseGuiApp.disconnect, hport]
  cases app'.serialPort with
  | none => exact ⟨sender, rfl, hsame⟩
  | some serialPort => exact ⟨none, rfl, rfl⟩

lemma Beside.processItems (h : Beside app app') (items : List (Option DecodedSpacePacket)) :
    (app.processItems items).1 = (app'.processItems items).1 ∧
      Beside (app.processItems items).2 (app'.processItems items).2 := by
  induction items generalizing app app' with
  | nil => exact ⟨rfl, h.map (g := fun app => { app with rxQueue := [] }) fun _ _ => rfl⟩
  | cons item items ih =>
      have hrest : Beside { app with rxQueue := items } { app' with rxQueue := items } :=
        h.map (g := fun app => { app with rxQueue := items }) fun _ _ => rfl
      cases item with
      | none => exact ⟨rfl, hrest.disconnect⟩
      | some packet =>
          have hnext := hrest.map (g := fun app => (app.handleDecodedPacket packet).2)
            fun app sender => congrArg Prod.snd (app.handleDecodedPacket_withSender sender packet)
          have hraises : (handleDecodedPacket { app with rxQueue := items } packet).1 =
              (handleDecodedPacket { app' with rxQueue := items } packet).1 := by
            obtain ⟨sender, hrest, -⟩ := hrest
            rw [hrest, handleDecodedPacket_withSender]
          rw [EgseGuiApp.processItems, EgseGuiApp.processItems]
          generalize handleDecodedPacket { app with rxQueue := items } packet = outcome
            at hnext hraises ⊢
          generalize handleDecodedPacket { app' with rxQueue := items } packet = outcome'
            at hnext hraises ⊢
          obtain ⟨result, next⟩ := outcome
          obtain ⟨result', next'⟩ := outcome'
          obtain rfl : result = result' := hraises
          rcases result with e | ⟨⟩
          · exact ⟨rfl, hnext⟩
          · exact ih hnext

lemma Beside.processRxQueue (h : Beside app app') :
    Beside app.processRxQueue.2 app'.processRxQueue.2 := by
  have hqueue : app.rxQueue = app'.rxQueue := by
    obtain ⟨sender, rfl, -⟩ := h
    rfl
  obtain ⟨hraises, hitems⟩ := h.processItems app'.rxQueue
  rw [EgseGuiApp.processRxQueue, EgseGuiApp.processRxQueue, hqueue]
  generalize app.processItems app'.rxQueue = outcome at hraises hitems ⊢
  generalize app'.processItems app'.rxQueue = outcome' at hraises hitems ⊢
  obtain ⟨result, next⟩ := outcome
  obtain ⟨result', next'⟩ := outcome'
  obtain rfl : result = result' := hraises
  rcases result with e | ⟨⟩
  · exact hitems
  · exact hitems.map (g := fun app => { app with
      root := (app.root.after guiUpdateIntervalMs .processRxQueue).2 }) fun _ _ => rfl

lemma Beside.connectFailed (h : Beside app app') (e : PyError) :
    Beside (app.connectFailed e).2 (app'.connectFailed e).2 := by
  obtain ⟨sender, rfl, hsame⟩ := h
  cases e with
  | valueError msg => exact ⟨none, rfl, rfl⟩
  | serialException msg => exact ⟨none, rfl, rfl⟩
  | typeError msg => exact ⟨sender, rfl, hsame⟩
  | assertionError msg => exact ⟨sender, rfl, hsame⟩
  | osError msg => exact ⟨sender, rfl, hsame⟩

lemma Beside.settle (h : Beside app app') (baudrate : ℤ)
    (outcome : Except PyError (TcCommandSender PortId)) :
    Beside (app.settle baudrate outcome).2 (app'.settle baudrate outcome).2 := by
  cases outcome with
  | error e => exact h.connectFailed e
  | ok new =>
      obtain ⟨sender, rfl, -⟩ := h
      exact .refl _

lemma Beside.connect (h : Beside app app') (answer : String → ℤ → Except PyError Unit) :
    Beside (app.connect answer).2 (app'.connect answer).2 := by
  have hsame := h
  obtain ⟨sender, rfl, -⟩ := h
  have hport : (app'.withSender sender).serialPort = app'.serialPort := rfl
  have hbaud : (app'.withSender sender).baudVar = app'.baudVar := rfl
  have hname : (app'.withSender sender).portVar = app'.portVar := rfl
  have hopened : (app'.withSender sender).withPort = app'.withPort.withSender sender := rfl
  have hnew : (app'.withPort.withSender sender).newSender app'.serial.opened =
      app'.withPort.newSender app'.serial.opened := rfl
  have hsettle := fun baudrate => (hsame.map (g := withPort) fun _ _ => rfl).settle baudrate
    (app'.withPort.newSender app'.serial.opened)
  rw [connect_eq, connect_eq, hport, hbaud, hname, hopened]
  split_ifs
  · exact hsame
  · rcases intOfText (strip app'.baudVar) with e | baudrate
    · exact hsame.connectFailed e
    · dsimp only
      rcases answer (strip app'.portVar) baudrate with e | _
      · exact hsame.connectFailed e
      · exact hsettle baudrate

/-- Every event of the application keeps two of them side by side. -/
lemma Beside.step (h : Beside app app') (e : Event P) : Beside (app.step e) (app'.step e) := by
  have hroot : ∀ id, Beside { app with root := app.root.afterCancel id }
      { app' with root := app'.root.afterCancel id } := fun id =>
    h.map (g := fun app => { app with root := app.root.afterCancel id }) fun _ _ => rfl
  have hrun := h
  cases e with
  | connect answer => exact h.connect answer
  | disconnect => exact h.disconnect
  | rxPick =>
      refine h.map (g := EgseGuiApp.rxPick) fun app sender => ?_
      have hthread : (app.withSender sender).rxThread = app.rxThread := rfl
      have hport : (app.withSender sender).serialPort = app.serialPort := rfl
      rw [rxPick, rxPick, hthread, hport]
      cases app.rxThread <;> cases app.serialPort <;> rfl
  | rxPoll port =>
      -- the receive loop reads the thread and the receiver, and no sender
      refine h.map (g := fun app => app.rxPoll port) fun app sender => ?_
      have hthread : (app.withSender sender).rxThread = app.rxThread := rfl
      have hreceiver : (app.withSender sender).receiver = app.receiver := rfl
      rw [rxPoll, rxPoll, hthread, receiveOnce, receiveOnce, hreceiver]
      cases app.rxThread with
      | idle => rfl
      | ended => rfl
      | picked serialPort =>
          rcases app.receiver.processSerialOnce port egseSerialMaxReadSize with
            ⟨e | decodedPackets, receiver, port'⟩
          · cases e <;> rfl
          · rfl
  | fire id =>
      -- the timers of both runs have the same numbers
      obtain ⟨sender, hsender, -⟩ := hrun
      have hcallback : app.callback id = app'.callback id := by
        rw [hsender]
        rfl
      rw [EgseGuiApp.step, EgseGuiApp.step, fire, fire, hcallback]
      cases app'.callback id with
      | none => exact h
      | some callback =>
          cases callback with
          | processRxQueue => exact (hroot id).processRxQueue
          | runAutoSimulationStep =>
              exact (hroot id).map (g := fun app => app.runAutoSimulationStep.2)
                fun app sender => congrArg Prod.snd (app.runAutoSimulationStep_withSender sender)
  | injectSimulatedTelemetry =>
      exact h.map (g := fun app => app.injectSimulatedTelemetry.2)
        fun app sender => congrArg Prod.snd (app.inject_withSender sender)
  | clearTelemetryData => exact h.map (g := clearTelemetryData) fun _ _ => rfl
  | toggleAutoSimulation =>
      exact h.map (g := fun app => app.toggleAutoSimulation.2)
        fun app sender => congrArg Prod.snd (app.toggleAutoSimulation_withSender sender)
  | toggleSimFrequency =>
      exact h.map (g := fun app => app.toggleSimFrequency.2)
        fun app sender => congrArg Prod.snd (app.toggleSimFrequency_withSender sender)
  | edit field text =>
      exact h.map (g := fun app => app.setText text field) fun _ _ => by cases field <;> rfl

lemma Beside.sent (h : Beside app app') {sender : TcCommandSender PortId}
    (hsender : app.sender = some sender) :
    Beside { app with sender := some sender.incrementCounters } app' := by
  obtain ⟨sender', rfl, hsame⟩ := h
  obtain rfl : sender' = some sender := hsender
  exact ⟨some sender.incrementCounters, rfl, hsame⟩

end Beside

end EgseGuiApp

/-- The event of the application, if it is one. -/
def ConsoleEvent.appEvent {P : Type} : ConsoleEvent P → Option (Event P)
  | .app event => some event
  | _ => none

namespace Console

variable {P : Type} [SerialLike P]

/-- An open window, with an application beside its own. -/
structure OpenBeside (console : Console) (app : EgseGuiApp) : Prop where
  destroyed : console.destroyed = false
  running : console.rxStopEvent = false
  beside : console.app.Beside app

/-- **Separation.**  Up to the closing of the window, whatever is selected, typed and sent, the
application is as it would be had only its own events happened, but for the counters of the
sender: its port and its configuration are the same. -/
theorem separation (events : List (ConsoleEvent P)) (hopen : ∀ e ∈ events, e ≠ .close) :
    (run step init events).app.Beside
      (run EgseGuiApp.step EgseGuiApp.init (events.filterMap ConsoleEvent.appEvent)) := by
  have hseen : ∀ (self : Console) (app : EgseGuiApp) (e : ConsoleEvent P) (event : Event P),
      OpenBeside self app → e ≠ .close → e.appEvent = some event →
      OpenBeside (self.step e) (app.step event) := by
    intro self app e event h _ hevent
    cases e with
    | app event' =>
        obtain rfl := Option.some.inj hevent
        rw [step, appStep_open h.destroyed h.running]
        exact ⟨h.destroyed, h.running, h.beside.step event'⟩
    | _ => exact absurd hevent (by simp [ConsoleEvent.appEvent])
  have hhidden : ∀ (self : Console) (app : EgseGuiApp) (e : ConsoleEvent P),
      OpenBeside self app → e ≠ .close → e.appEvent = none → OpenBeside (self.step e) app := by
    intro self app e h hclose hevent
    have hpanel : ∀ event, e ≠ .app event := by
      rintro event rfl
      exact absurd hevent (by simp [ConsoleEvent.appEvent])
    obtain ⟨hdestroyed, hrunning, hsame⟩ := self.step_panel hpanel hclose
    refine ⟨hdestroyed.trans h.destroyed, hrunning.trans h.running, ?_⟩
    rcases hsame with hsame | ⟨sender, hsender, hsame⟩
    · rw [hsame]
      exact h.beside
    · rw [hsame]
      exact h.beside.sent hsender
  have hinit : OpenBeside init EgseGuiApp.init :=
    ⟨(onCommandChanged_stays _).1, (onCommandChanged_stays _).2, by
      rw [app_init]
      exact .refl _⟩
  have halong : Along step (fun _ e => e ≠ .close) init events :=
    Along.of_mem step fun e he _ => hopen e he
  exact (run_visible ConsoleEvent.appEvent hseen hhidden hinit halong).beside

/-- A command is sent between the two reads of a piece of noise. -/
def busyRun : List (ConsoleEvent PortAnswer) :=
  [.app (.connect fun _ _ => .ok ()), .app .rxPick, .app (.rxPoll (.waiting [0xC0, 1, 2])),
    .selectCommand 3, .sendTc fun data => (data.length, .ok none), .app .rxPick,
    .app (.rxPoll (.waiting [3, 0xC0])), .editParameter "5", .app (.fire 0)]

def quietRun : List (Event PortAnswer) :=
  [.connect fun _ _ => .ok (), .rxPick, .rxPoll (.waiting [0xC0, 1, 2]), .rxPick,
    .rxPoll (.waiting [3, 0xC0]), .fire 0]

theorem separation_busyRun :
    (run step init busyRun).app.Beside (run EgseGuiApp.step EgseGuiApp.init quietRun) := by
  have hquiet : busyRun.filterMap ConsoleEvent.appEvent = quietRun := rfl
  have hopen : ∀ e ∈ busyRun, e ≠ .close := by simp [busyRun]
  have hbeside := separation busyRun hopen
  rwa [hquiet] at hbeside

end Console

end OpenSpaceEgse
