import OpenSpaceEgse.Gui.EventLoop
import OpenSpaceEgse.Library.Traces
import Mathlib.Data.List.ReduceOption

/-!
# Packets between the two threads

The receive loop puts packets and error markers into a queue; a tick of
`_process_rx_queue` takes the items up to the first marker, or to the packet on which it
raises.  Ticks, polls, connections and disconnections may come in any order:
`queue_conserved` says that every item is taken once and in order, or is still queued.
-/

namespace OpenSpaceEgse

open Machine

namespace EgseGuiApp

variable {P : Type} [SerialLike P]

/-- What the receive loop puts into the queue in an event. -/
def puts (self : EgseGuiApp) : Event P → List (Option DecodedSpacePacket)
  | .rxPoll port =>
      if self.rxThread.inHand = none then []
      else
        match (self.receiveOnce port).1 with
        | .ok decodedPackets => decodedPackets.map some
        | .error (.osError _) | .error (.serialException _) => [none]
        | .error _ => []
  | _ => []

/-- The timer whose tick is due in an event. -/
def fires (self : EgseGuiApp) : Event P → List ℕ
  | .fire id => if self.callback id = some .processRxQueue then [id] else []
  | _ => []

/-- The timer whose tick returns in an event. -/
def ticks (self : EgseGuiApp) : Event P → List ℕ
  | .fire id =>
      if self.callback id = some .processRxQueue ∧
          ({ self with root := self.root.afterCancel id }.processRxQueue).1 = .ok () then [id]
      else []
  | _ => []

/-- The number in the field of the TM APID can be written into the log if a tick meets a
telemetry packet. -/
def TickLogs (self : EgseGuiApp) : Event P → Prop
  | .fire id => self.callback id = some .processRxQueue → Writable self.telemetryApid ∨
      ∀ packet ∈ (self.rxQueue.takeWhile Option.isSome).reduceOption,
        packet.spacePacket.packetType ≠ .telemetry
  | _ => True

instance (self : EgseGuiApp) : ∀ e : Event P, Decidable (self.TickLogs e)
  | .fire _ => inferInstanceAs (Decidable (_ → _ ∨ _))
  | .connect _ | .disconnect | .rxPick | .rxPoll _ | .injectSimulatedTelemetry
  | .clearTelemetryData | .toggleAutoSimulation | .toggleSimFrequency | .edit _ _ => isTrue trivial

/-- What a tick takes out of the queue in an event. -/
def takes (self : EgseGuiApp) : Event P → List (Option DecodedSpacePacket)
  | .fire id =>
      if self.callback id = some .processRxQueue then Link.taken self.raisesOn self.rxQueue
      else []
  | _ => []

lemma rxQueue_rxPoll (self : EgseGuiApp) (port : P) :
    (self.rxPoll port).rxQueue = self.rxQueue ++ self.puts (.rxPoll port) := by
  cases hthread : self.rxThread with
  | picked serialPort =>
      have hhand : self.rxThread.inHand ≠ none := by simp [hthread, RxThread.inHand]
      rw [puts, if_neg hhand, rxPoll, hthread, receiveOnce]
      rcases self.receiver.processSerialOnce port egseSerialMaxReadSize with
        ⟨e | decodedPackets, receiver, port'⟩
      · cases e with
        | osError msg => rfl
        | serialException msg => rfl
        | typeError msg => exact (List.append_nil _).symm
        | valueError msg => exact (List.append_nil _).symm
        | assertionError msg => exact (List.append_nil _).symm
      · rfl
  | idle =>
      have hhand : self.rxThread.inHand = none := by simp [hthread, RxThread.inHand]
      rw [puts, if_pos hhand, rxPoll, hthread]
      exact (List.append_nil _).symm
  | ended =>
      have hhand : self.rxThread.inHand = none := by simp [hthread, RxThread.inHand]
      rw [puts, if_pos hhand, rxPoll, hthread]
      exact (List.append_nil _).symm

/-! ### Ticks that return -/

/-- The loop over the queue returns if it raises on no packet in front of the first marker. -/
lemma processItems_fst_eq_ok (self : EgseGuiApp) (items : List (Option DecodedSpacePacket)) :
    (self.processItems items).1 = .ok () ↔
      ∀ packet ∈ (items.takeWhile Option.isSome).reduceOption, self.raisesOn packet = false := by
  induction items generalizing self with
  | nil => simp [processItems]
  | cons item items ih =>
      cases item with
      | none => simp [processItems]
      | some packet =>
          have hraises : raisesOn { self with rxQueue := items } = self.raisesOn := rfl
          have hwhile : ((some packet :: items).takeWhile Option.isSome).reduceOption =
              packet :: (items.takeWhile Option.isSome).reduceOption := rfl
          rw [processItems, hwhile, List.forall_mem_cons, ← hraises]
          rcases handleDecodedPacket_cases { self with rxQueue := items } packet with
            ⟨hgoes, h⟩ | ⟨hstops, msg, h⟩
          · rw [h]
            dsimp only
            rw [ih, raisesOn_afterPacket]
            exact (and_iff_right hgoes).symm
          · rw [h, hstops]
            simp

lemma processRxQueue_fst_eq_ok (self : EgseGuiApp) :
    self.processRxQueue.1 = .ok () ↔
      ∀ packet ∈ (self.rxQueue.takeWhile Option.isSome).reduceOption,
        self.raisesOn packet = false := by
  rw [← processItems_fst_eq_ok]
  rcases self.processRxQueue_cases with ⟨hitems, h⟩ | ⟨e, hitems, h⟩
  · rw [h, hitems]
  · rw [h, hitems]

omit [SerialLike P] in
/-- A tick returns exactly if it can write what it has to. -/
theorem tickLogs_iff {self : EgseGuiApp} {id : ℕ} (hid : self.callback id = some .processRxQueue) :
    self.TickLogs (.fire id : Event P) ↔
      ({ self with root := self.root.afterCancel id }.processRxQueue).1 = .ok () := by
  have hraises : raisesOn { self with root := self.root.afterCancel id } = self.raisesOn := rfl
  rw [processRxQueue_fst_eq_ok, hraises, TickLogs]
  simp only [hid, forall_const, raisesOn, decide_eq_false_iff_not]
  by_cases hwritable : Writable self.telemetryApid
  · simp [hwritable]
  · simp [hwritable]

omit [SerialLike P] in
lemma ticks_eq_fires {self : EgseGuiApp} {e : Event P} (h : self.TickLogs e) :
    self.ticks e = self.fires e := by
  cases e with
  | fire id =>
      rw [ticks, fires]
      by_cases hid : self.callback id = some .processRxQueue
      · rw [if_pos ⟨hid, (tickLogs_iff hid).mp h⟩, if_pos hid]
      · rw [if_neg hid, if_neg fun hreturns => hid hreturns.1]
  | _ => rfl

/-- One event: what was queued, or is put now, is taken or stays, in this order. -/
theorem queue_step (self : EgseGuiApp) (e : Event P) :
    self.rxQueue ++ self.puts e = self.takes e ++ (self.step e).rxQueue := by
  have hquiet : self.puts e = [] → self.takes e = [] → (self.step e).link.queue = self.link.queue →
      self.rxQueue ++ self.puts e = self.takes e ++ (self.step e).rxQueue := by
    intro hputs htakes hqueue
    rw [hputs, htakes, List.append_nil]
    exact hqueue.symm
  cases e with
  | connect answer =>
      refine hquiet rfl rfl ?_
      exact connect_frame (f := fun self => self.link.queue) (fun _ _ _ _ => rfl) self answer
  | disconnect =>
      refine hquiet rfl rfl ?_
      exact disconnect_frame (f := fun self => self.link.queue) (fun _ _ _ _ => rfl) self
  | rxPick =>
      refine hquiet rfl rfl ?_
      exact rxPick_frame (f := fun self => self.link.queue) (fun _ _ => rfl) self
  | rxPoll port => exact (self.rxQueue_rxPoll port).symm
  | fire id =>
      have hqueue := congrArg Link.queue (self.link_fire id)
      by_cases hcallback : self.callback id = some .processRxQueue
      · have htakes : self.takes (.fire id : Event P) = Link.taken self.raisesOn self.rxQueue :=
          if_pos hcallback
        have hputs : self.puts (.fire id : Event P) = [] := rfl
        -- a tick stops at the first marker, or where it raises
        have hleft : (self.step (.fire id : Event P)).rxQueue =
            Link.left self.raisesOn self.rxQueue := by
          rw [if_pos hcallback, Link.tick_queue] at hqueue
          exact hqueue
        rw [htakes, hputs, hleft, List.append_nil, Link.taken_append_left]
      · rw [if_neg hcallback] at hqueue
        exact hquiet rfl (if_neg hcallback) hqueue
  | injectSimulatedTelemetry =>
      exact hquiet rfl rfl (congrArg Link.queue self.link_injectSimulatedTelemetry)
  | clearTelemetryData => exact hquiet rfl rfl rfl
  | toggleAutoSimulation =>
      exact hquiet rfl rfl (congrArg Link.queue self.link_toggleAutoSimulation)
  | toggleSimFrequency =>
      exact hquiet rfl rfl (congrArg Link.queue self.link_toggleSimFrequency)
  | edit field text =>
      exact hquiet rfl rfl (congrArg Link.queue (self.link_setText field text))

/-- **Nothing is lost between the threads.**  In every run, whatever the order of polls,
ticks, connections and disconnections, the items that the receive loop has put into the
queue are those that ticks have taken out, followed by those that are still queued. -/
theorem queue_conserved (events : List (Event P)) :
    trace step puts init events =
      trace step takes init events ++ (run step init events).rxQueue :=
  conserved queue_step init events

end EgseGuiApp

end OpenSpaceEgse
