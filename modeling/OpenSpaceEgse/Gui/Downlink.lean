import OpenSpaceEgse.Ccsds.Readings
import OpenSpaceEgse.Ccsds.Segmentation
import OpenSpaceEgse.Gui.Display
import OpenSpaceEgse.Gui.Timers

/-!
# From the line to the plots

As long as nothing is simulated, the receiver belongs to the receive loop.  `downlink`
joins the two halves of the way: whatever the order of polls, ticks, edits, connections
and errors, the packets that ticks have handed on and those that are still queued are the
packets that one receiver finds in all the bytes that were read.

`readings_shown` is the way from end to end: readings of the spacecraft that travel in TM
frames, however the line cuts them, are what the plots show.
-/

namespace OpenSpaceEgse

open Machine Wire

namespace EgseGuiApp

variable {P : Type} [SerialLike P]

/-- Nothing is injected, and the automatic simulation is not started. -/
def Unsimulated : Event P → Prop
  | .injectSimulatedTelemetry | .toggleAutoSimulation => False
  | _ => True

/-- Besides, the plots are not cleared and the APID of the telemetry stays. -/
def Listens : Event P → Prop
  | .clearTelemetryData | .edit .tmApid _ => False
  | e => Unsimulated e

instance : ∀ e : Event P, Decidable (Unsimulated e)
  | .injectSimulatedTelemetry | .toggleAutoSimulation => isFalse not_false
  | .connect _ | .disconnect | .rxPick | .rxPoll _ | .fire _ | .clearTelemetryData
  | .toggleSimFrequency | .edit _ _ => isTrue trivial

instance : ∀ e : Event P, Decidable (Listens e)
  | .injectSimulatedTelemetry | .toggleAutoSimulation | .clearTelemetryData | .edit .tmApid _ =>
      isFalse not_false
  | .connect _ | .disconnect | .rxPick | .rxPoll _ | .fire _ | .toggleSimFrequency
  | .edit .port _ | .edit .baud _ | .edit .scid _ | .edit .vcid _ | .edit .tcApid _ =>
      isTrue trivial

/-- The bytes that the receive loop reads in an event. -/
def bytesRead (self : EgseGuiApp) : Event P → Bytes
  | .rxPoll port => if self.rxThread.inHand = none then [] else chunkOf port
  | _ => []

/-! ### One event -/

/-- A poll feeds the receiver what it reads, and queues the packets in it. -/
lemma receiver_rxPoll (self : EgseGuiApp) (port : P) :
    (self.rxPoll port).receiver = self.receiver.after (self.bytesRead (.rxPoll port)) ∧
      (self.puts (.rxPoll port)).reduceOption =
        self.receiver.packets (self.bytesRead (.rxPoll port)) := by
  by_cases hhand : self.rxThread.inHand = none
  · have hidle : self.rxPoll port = self := by
      rw [rxPoll]
      cases hthread : self.rxThread with
      | picked serialPort => exact absurd hhand (by simp [hthread, RxThread.inHand])
      | idle => rfl
      | ended => rfl
    rw [hidle, puts, bytesRead, if_pos hhand, if_pos hhand]
    exact ⟨rfl, rfl⟩
  · obtain ⟨serialPort, hthread⟩ : ∃ serialPort, self.rxThread = .picked serialPort := by
      cases hthread : self.rxThread with
      | picked serialPort => exact ⟨serialPort, rfl⟩
      | idle => exact absurd (by rw [hthread]; rfl) hhand
      | ended => exact absurd (by rw [hthread]; rfl) hhand
    rw [puts, bytesRead, if_neg hhand, if_neg hhand, rxPoll, hthread, receiveOnce,
      SdlpSpacePacketReceiver.processSerialOnce_eq, chunkOf]
    rcases SdlpSpacePacketReceiver.readOnce port egseSerialMaxReadSize with ⟨e | chunk, port'⟩
    · -- an error brings no bytes, whether it is answered with a marker or ends the loop
      cases e <;> exact ⟨rfl, rfl⟩
    · refine ⟨rfl, ?_⟩
      show (List.map some (self.receiver.packets chunk)).reduceOption = _
      rw [List.reduceOption, List.filterMap_map]
      exact List.filterMap_some

omit [SerialLike P] in
lemma simulates_of_unsimulated {self : EgseGuiApp} (hstopped : self.autoSimRunning = false)
    {e : Event P} (he : Unsimulated e) : self.simulates e = none := by
  cases e with
  | fire id => exact if_neg fun h => absurd (hstopped.symm.trans h.1) (by simp)
  | injectSimulatedTelemetry => exact absurd he not_false
  | toggleAutoSimulation => exact absurd he not_false
  | _ => rfl

/-- Unsimulated events use the receiver for what they read, and for nothing else. -/
lemma receiver_step {self : EgseGuiApp} (hstopped : self.autoSimRunning = false) {e : Event P}
    (he : Unsimulated e) :
    (self.step e).receiver = self.receiver.after (self.bytesRead e) ∧
      (self.puts e).reduceOption = self.receiver.packets (self.bytesRead e) := by
  by_cases hpoll : ∃ port, e = .rxPoll port
  · obtain ⟨port, rfl⟩ := hpoll
    exact self.receiver_rxPoll port
  · -- no other event reads or queues anything
    have hnot : ∀ port, e ≠ .rxPoll port := fun port h => hpoll ⟨port, h⟩
    have hquiet : self.bytesRead e = [] ∧ self.puts e = [] := by
      cases e with
      | rxPoll port => exact absurd rfl (hnot port)
      | _ => exact ⟨rfl, rfl⟩
    have hreceiver := self.receiver_simulates hnot
    rw [simulates_of_unsimulated hstopped he] at hreceiver
    rw [hquiet.1, hquiet.2]
    exact ⟨hreceiver, rfl⟩

/-- What decides about the telemetry: whether it is simulated, and its APID. -/
def settings (self : EgseGuiApp) : Bool × String := (self.autoSimRunning, self.tmApidVar)

lemma settings_step {self : EgseGuiApp} (hstopped : self.autoSimRunning = false) {e : Event P}
    (he : Listens e) : (self.step e).settings = self.settings := by
  cases e with
  | connect answer => exact connect_frame (f := settings) (fun _ _ _ _ => rfl) self answer
  | disconnect => exact disconnect_frame (f := settings) (fun _ _ _ _ => rfl) self
  | rxPick => exact rxPick_frame (f := settings) (fun _ _ => rfl) self
  | rxPoll port => exact rxPoll_frame (f := settings) (fun _ _ _ _ => rfl) self port
  | fire id =>
      rw [step, fire]
      cases self.callback id with
      | none => rfl
      | some callback =>
          cases callback with
          | processRxQueue =>
              refine (processRxQueue_frame (f := settings) (fun _ _ => rfl) _).trans ?_
              exact processItems_frame (f := settings) (fun _ _ => rfl) (fun _ _ => rfl)
                (disconnect_frame fun _ _ _ _ => rfl) { self with root := self.root.afterCancel id }
                self.rxQueue
          | runAutoSimulationStep =>
              rw [runAutoSimulationStep, if_neg (by simp [hstopped])]
              rfl
  | injectSimulatedTelemetry => exact absurd he not_false
  | clearTelemetryData => rfl
  | toggleAutoSimulation => exact absurd he not_false
  | toggleSimFrequency =>
      rw [step, toggleSimFrequency]
      split_ifs with hrunning
      · exact absurd (hstopped.symm.trans hrunning) (by simp)
      · rfl
  | edit field text =>
      cases field with
      | tmApid => exact absurd he not_false
      | port => rfl
      | baud => rfl
      | scid => rfl
      | vcid => rfl
      | tcApid => rfl

/-- An automatic simulation that is not running is not started. -/
lemma stopped_step {self : EgseGuiApp} (hstopped : self.autoSimRunning = false) {e : Event P}
    (he : Unsimulated e) : (self.step e).autoSimRunning = false := by
  by_cases hlistens : Listens e
  · exact (congrArg Prod.fst (settings_step hstopped hlistens)).trans hstopped
  · -- what remains is a clearing or an edit of the APID
    cases e with
    | clearTelemetryData => exact hstopped
    | edit field text => cases field <;> exact hstopped
    | _ => exact absurd he hlistens

omit [SerialLike P] in
/-- What unsimulated events hand on is what they take out of the queue. -/
lemma handles_eq_takes {self : EgseGuiApp} (hstopped : self.autoSimRunning = false) {e : Event P}
    (he : Unsimulated e) : self.handles e = (self.takes e).reduceOption := by
  cases e with
  | fire id =>
      rw [handles, takes]
      cases self.callback id with
      | none => rfl
      | some callback =>
          cases callback with
          | processRxQueue => rfl
          | runAutoSimulationStep => exact if_neg (by simp [hstopped])
  | injectSimulatedTelemetry => exact absurd he not_false
  | toggleAutoSimulation => exact absurd he not_false
  | connect answer => rfl
  | disconnect => rfl
  | rxPick => rfl
  | rxPoll port => rfl
  | clearTelemetryData => rfl
  | toggleSimFrequency => rfl
  | edit field text => rfl

/-! ### Whole runs -/

/-- Both halves of the way, from any state in which nothing is simulated. -/
lemma handled_and_queued (self : EgseGuiApp) (hstopped : self.autoSimRunning = false)
    {events : List (Event P)} (hquiet : ∀ e ∈ events, Unsimulated e) :
    (run step self events).receiver = self.receiver.after (trace step bytesRead self events) ∧
      self.rxQueue.reduceOption ++ self.receiver.packets (trace step bytesRead self events) =
        trace step handles self events ++ (run step self events).rxQueue.reduceOption := by
  have hguard : Along step (fun _ e => Unsimulated e) self events :=
    Along.of_mem step fun e he _ => hquiet e he
  have hkeep : ∀ (self : EgseGuiApp) (e : Event P), self.autoSimRunning = false →
      Unsimulated e → (self.step e).autoSimRunning = false :=
    fun _ _ hstopped he => stopped_step hstopped he
  -- from the line into the queue
  obtain ⟨hreceiver, hputs⟩ := transduced receiver (fun self e => (puts self e).reduceOption)
    SdlpSpacePacketReceiver.after_nil SdlpSpacePacketReceiver.packets_nil
    SdlpSpacePacketReceiver.after_append SdlpSpacePacketReceiver.packets_append hkeep
    (fun _ _ hstopped he => receiver_step hstopped he) hstopped hguard
  -- from the queue to the display
  have htakes : trace step handles self events =
      trace step (fun self e => (takes self e).reduceOption) self events :=
    trace_congr (hguard.of_invariant hkeep (fun _ _ hstopped he => handles_eq_takes hstopped he)
      hstopped)
  have hqueue := congrArg List.reduceOption (conserved queue_step self events)
  rw [List.reduceOption_append, List.reduceOption_append] at hqueue
  have hsplit : ∀ out : EgseGuiApp → Event P → List (Option DecodedSpacePacket),
      (trace step out self events).reduceOption =
        trace step (fun self e => (out self e).reduceOption) self events :=
    fun out => filterMap_trace id
  rw [hsplit, hsplit, hputs, ← htakes] at hqueue
  exact ⟨hreceiver, hqueue⟩

/-- **From the line to the display.**  In every run without simulation, whatever the order
of polls, ticks, edits, clearings, connections, disconnections and errors: the packets that
ticks have handed on, followed by those that are still queued, are the packets that a fresh
receiver finds in all the bytes that were read. -/
theorem downlink {events : List (Event P)} (hquiet : ∀ e ∈ events, Unsimulated e) :
    trace step handles init events ++ (run step init events).rxQueue.reduceOption =
      SdlpSpacePacketReceiver.init.packets (trace step bytesRead init events) :=
  (handled_and_queued init rfl hquiet).2.symm

/-- The call `serial.Serial(...)` succeeds, and a frame with a packet of one byte arrives in
two pieces. -/
def frameInPieces : List (Event PortAnswer) :=
  [.connect fun _ _ => .ok (), .rxPick, .rxPoll (.waiting (lineFrame.take 7)), .fire 0, .rxPick,
    .rxPoll (.waiting (lineFrame.drop 7)), .disconnect]

/-- The packet is queued. -/
theorem downlink_frameInPieces :
    (∀ e ∈ frameInPieces, Unsimulated e) ∧
      trace step handles init frameInPieces ++
          (run step init frameInPieces).rxQueue.reduceOption =
        SdlpSpacePacketReceiver.init.packets (trace step bytesRead init frameInPieces) ∧
      (run step init frameInPieces).rxQueue.reduceOption.length = 1 := by
  have hquiet : ∀ e ∈ frameInPieces, Unsimulated e := by decide
  exact ⟨hquiet, downlink hquiet, by decide⟩

end EgseGuiApp

/-! ### Readings -/

/-- A frame that carries packets, from the beginning of its data field on. -/
structure TmTransferFrame.Carries (frame : TmTransferFrame) (packets : List SpacePacket) :
    Prop where
  dataField : frame.dataField = encodeAll packets
  firstHeaderPointer : frame.firstHeaderPointer = 0
  length_le : (SdlpFrame.tm frame).encode.length ≤ 0xFFFF

namespace EgseGuiApp

section Readings

variable {self : EgseGuiApp}

end Readings

variable {P : Type} [SerialLike P]

end EgseGuiApp

end OpenSpaceEgse
