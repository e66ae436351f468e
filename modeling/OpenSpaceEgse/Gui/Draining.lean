import OpenSpaceEgse.Gui.Frames
import OpenSpaceEgse.Gui.Traffic

/-!
# The queue is emptied, and the receive thread may end

A tick stops at the first error marker, so what stands behind `m` markers has to wait:
`queue_drained` says that one tick more than there are markers always empties the queue,
once nothing is put into it any more.  Ticks that raise do not count: they stop earlier.

Nothing is put into it, for ever, behind an exception that the receive loop does not
catch: `receive_thread_ends`.
-/

namespace OpenSpaceEgse

open Machine

namespace Link

variable {α : Type} [DecidableEq α] {stops : α → Bool}

/-- The ticks that a queue needs. -/
def ticksNeeded (queue : List (Option α)) : ℕ :=
  if queue = [] then 0 else queue.count none + 1

lemma ticksNeeded_le (queue : List (Option α)) : ticksNeeded queue ≤ queue.count none + 1 := by
  rw [ticksNeeded]
  split_ifs <;> omega

/-- Whatever it is that a tick leaves, it needs no more ticks. -/
lemma ticksNeeded_left (queue : List (Option α)) :
    ticksNeeded (left stops queue) ≤ ticksNeeded queue := by
  have hcount := congrArg (List.count none) (taken_append_left stops queue)
  rw [List.count_append] at hcount
  by_cases hqueue : queue = []
  · rw [hqueue, left]
  · have hle := ticksNeeded_le (left stops queue)
    rw [ticksNeeded, ticksNeeded, if_neg hqueue]
    split_ifs <;> omega

/-- A tick that stops at no packet leaves one marker less, or nothing. -/
lemma ticksNeeded_left_lt {queue : List (Option α)}
    (h : ∀ a ∈ (queue.takeWhile Option.isSome).reduceOption, stops a = false) :
    ticksNeeded (left stops queue) ≤ ticksNeeded queue - 1 := by
  induction queue with
  | nil => exact Nat.le_refl _
  | cons item queue ih =>
      have hne : ∀ item : Option α, ticksNeeded (item :: queue) = (item :: queue).count none + 1 :=
        fun item => if_neg (List.cons_ne_nil item queue)
      rw [hne, Nat.add_sub_cancel]
      cases item with
      | none =>
          rw [left, List.count_cons_self]
          exact ticksNeeded_le queue
      | some a =>
          have hhere : stops a = false := h a (by simp [List.reduceOption])
          have hrest : ∀ b ∈ (queue.takeWhile Option.isSome).reduceOption, stops b = false :=
            fun b hb => h b (List.mem_cons_of_mem _ hb)
          have hle := ticksNeeded_le queue
          rw [left, hhere, if_neg (by simp), List.count_cons_of_ne (by simp)]
          exact (ih hrest).trans (by omega)

end Link

namespace EgseGuiApp

variable {P : Type} [SerialLike P]

/-- An event that puts nothing into the queue brings it nearer to its end if it is a tick that
returns. -/
lemma ticksNeeded_step (self : EgseGuiApp) (e : Event P) (hputs : self.puts e = []) :
    Link.ticksNeeded (self.step e).rxQueue ≤
      Link.ticksNeeded self.rxQueue - (self.ticks e).length := by
  have hqueue := self.queue_step e
  rw [hputs, List.append_nil] at hqueue
  have hquiet : self.takes e = [] → self.ticks e = [] →
      Link.ticksNeeded (self.step e).rxQueue ≤
        Link.ticksNeeded self.rxQueue - (self.ticks e).length := by
    intro htakes hticks
    rw [htakes, List.nil_append] at hqueue
    rw [← hqueue, hticks]
    exact Nat.le_refl _
  cases e with
  | fire id =>
      by_cases hcallback : self.callback id = some .processRxQueue
      · have htakes : self.takes (.fire id : Event P) = Link.taken self.raisesOn self.rxQueue :=
          if_pos hcallback
        rw [htakes] at hqueue
        have hleft : (self.step (.fire id : Event P)).rxQueue =
            Link.left self.raisesOn self.rxQueue := by
          have hsplit := Link.taken_append_left self.raisesOn self.rxQueue
          exact List.append_cancel_left (hqueue.symm.trans hsplit.symm)
        -- a tick that raises leaves markers standing, but adds none
        rw [hleft, ticks]
        split_ifs with hreturns
        · refine Link.ticksNeeded_left_lt ?_
          exact (processRxQueue_fst_eq_ok { self with root := self.root.afterCancel id }).mp
            hreturns.2
        · exact Link.ticksNeeded_left self.rxQueue
      · have hnot : self.ticks (.fire id : Event P) = [] := if_neg fun h => hcallback h.1
        exact hquiet (if_neg hcallback) hnot
  | _ => exact hquiet rfl rfl

/-- **The queue is emptied.**  As soon as the receive loop puts nothing into it any more, one
tick that returns more than there are error markers in it leaves the queue empty, whatever else
happens in between.  All ticks return if each can write the number in the field of the TM APID
when it has to. -/
theorem queue_drained {self : EgseGuiApp} {events : List (Event P)}
    (hputs : trace step puts self events = []) :
    (self.rxQueue.count none < (trace step ticks self events).length →
        (run step self events).rxQueue = []) ∧
      (Along step TickLogs self events →
        trace step ticks self events = trace step fires self events) := by
  constructor
  · intro hticks
    have hneeded : Link.ticksNeeded (run step self events).rxQueue ≤
        Link.ticksNeeded self.rxQueue - (trace step ticks self events).length :=
      worn_down (fun self : EgseGuiApp => Link.ticksNeeded self.rxQueue) ticksNeeded_step
        (trace_eq_nil.mp hputs)
    by_contra hne
    have hleft : Link.ticksNeeded (run step self events).rxQueue =
        (run step self events).rxQueue.count none + 1 := if_neg hne
    have hstart := Link.ticksNeeded_le self.rxQueue
    omega
  · intro hlogs
    have hkeep : ∀ (self : EgseGuiApp) (e : Event P), True → self.TickLogs e → True :=
      fun _ _ _ _ => trivial
    exact trace_congr (hlogs.of_invariant hkeep (fun _ _ _ h => ticks_eq_fires h) trivial)

/-- The receive loop has raised twice. -/
def twoMarkers : EgseGuiApp :=
  run step init ([.connect fun _ _ => .ok (), .rxPick, .rxPoll (.raises (.osError "gone")), .rxPick,
    .rxPoll (.raises (.serialException "gone"))] : List (Event PortAnswer))

/-- Two ticks are not enough for the second one of them, three are. -/
theorem queue_drained_twoMarkers :
    (run step twoMarkers ([.fire 0, .fire 1, .clearTelemetryData, .fire 2] :
      List (Event PortAnswer))).rxQueue = [] :=
  (queue_drained (by decide)).1 (by decide)

/-! ### The receive thread -/

/-- The exceptions of a port that the receive loop does not catch. -/
def escapes (self : EgseGuiApp) : Event P → List PyError
  | .rxPoll port =>
      if self.rxThread.inHand = none then []
      else
        match (self.receiveOnce port).1 with
        | .ok _ | .error (.osError _) | .error (.serialException _) => []
        | .error e => [e]
  | _ => []

lemma rxThread_rxPoll (self : EgseGuiApp) (port : P) :
    (self.escapes (.rxPoll port) = [] ∧
        ((self.rxPoll port).rxThread = .ended ↔ self.rxThread = .ended)) ∨
      (∃ e, self.escapes (.rxPoll port) = [e]) ∧ self.rxThread ≠ .ended ∧
        (self.rxPoll port).rxThread = .ended := by
  cases hthread : self.rxThread with
  | picked serialPort =>
      have hhand : self.rxThread.inHand ≠ none := by simp [hthread, RxThread.inHand]
      rw [escapes, if_neg hhand, rxPoll, hthread, receiveOnce]
      rcases self.receiver.processSerialOnce port egseSerialMaxReadSize with
        ⟨e | decodedPackets, receiver, port'⟩
      · cases e with
        | osError msg => exact Or.inl ⟨rfl, by simp⟩
        | serialException msg => exact Or.inl ⟨rfl, by simp⟩
        | typeError msg => exact Or.inr ⟨⟨_, rfl⟩, by simp, rfl⟩
        | valueError msg => exact Or.inr ⟨⟨_, rfl⟩, by simp, rfl⟩
        | assertionError msg => exact Or.inr ⟨⟨_, rfl⟩, by simp, rfl⟩
      · exact Or.inl ⟨rfl, by simp⟩
  | idle =>
      have hhand : self.rxThread.inHand = none := by simp [hthread, RxThread.inHand]
      rw [escapes, if_pos hhand, rxPoll, hthread]
      exact Or.inl ⟨rfl, by rw [hthread]⟩
  | ended =>
      have hhand : self.rxThread.inHand = none := by simp [hthread, RxThread.inHand]
      rw [escapes, if_pos hhand, rxPoll, hthread]
      exact Or.inl ⟨rfl, by rw [hthread]⟩

/-- One event: the thread ends if an exception escapes the loop, and only then. -/
lemma rxThread_step (self : EgseGuiApp) (e : Event P) :
    (self.escapes e = [] ∧ ((self.step e).rxThread = .ended ↔ self.rxThread = .ended)) ∨
      (∃ x, self.escapes e = [x]) ∧ self.rxThread ≠ .ended ∧ (self.step e).rxThread = .ended := by
  have hsame : self.escapes e = [] → (self.step e).rxThread = self.rxThread →
      (self.escapes e = [] ∧ ((self.step e).rxThread = .ended ↔ self.rxThread = .ended)) ∨
        (∃ x, self.escapes e = [x]) ∧ self.rxThread ≠ .ended ∧
          (self.step e).rxThread = .ended := by
    intro hescapes hthread
    exact Or.inl ⟨hescapes, by rw [hthread]⟩
  cases e with
  | connect answer =>
      exact hsame rfl (connect_frame (f := rxThread) (fun _ _ _ _ => rfl) self answer)
  | disconnect => exact hsame rfl (disconnect_frame (f := rxThread) (fun _ _ _ _ => rfl) self)
  | rxPick =>
      refine Or.inl ⟨rfl, ?_⟩
      rw [step, rxPick]
      split
      · rename_i serialPort hthread hport
        simp [hthread]
      · rfl
  | rxPoll port => exact self.rxThread_rxPoll port
  | fire id =>
      refine hsame rfl ?_
      exact fire_frame (f := rxThread) (by intros; rfl) (fun _ _ => rfl)
        (disconnect_frame fun _ _ _ _ => rfl) self id
  | injectSimulatedTelemetry =>
      exact hsame rfl (inject_frame (f := rxThread) (by intros; rfl) self)
  | clearTelemetryData => exact hsame rfl rfl
  | toggleAutoSimulation =>
      exact hsame rfl (toggleAutoSimulation_frame (f := rxThread) (by intros; rfl) self)
  | toggleSimFrequency =>
      exact hsame rfl (toggleSimFrequency_frame (f := rxThread) (by intros; rfl) self)
  | edit field text =>
      refine hsame rfl ?_
      cases field <;> rfl

/-- What an ended thread does in an event: it neither reads nor queues anything. -/
lemma quiet_of_ended {self : EgseGuiApp} (h : self.rxThread = .ended) (e : Event P) :
    self.puts e = [] ∧ self.escapes e = [] := by
  have hhand : self.rxThread.inHand = none := by rw [h]; rfl
  cases e with
  | rxPoll port => exact ⟨if_pos hhand, if_pos hhand⟩
  | _ => exact ⟨rfl, rfl⟩

/-- An ended thread stays ended, and nothing is queued any more. -/
lemma quiet_run_of_ended {self : EgseGuiApp} (h : self.rxThread = .ended)
    (events : List (Event P)) :
    (run step self events).rxThread = .ended ∧ trace step puts self events = [] ∧
      trace step escapes self events = [] := by
  have hkeep : ∀ (self : EgseGuiApp) (e : Event P), self.rxThread = .ended → True →
      (self.step e).rxThread = .ended := by
    rintro self e h -
    rcases self.rxThread_step e with ⟨-, hiff⟩ | ⟨-, hne, -⟩
    · exact hiff.mpr h
    · exact absurd h hne
  have halways := Along.always step self events
  refine ⟨Along.run hkeep h halways, ?_, ?_⟩
  · exact trace_eq_nil.mpr (halways.of_invariant hkeep (fun _ e h _ => (quiet_of_ended h e).1) h)
  · exact trace_eq_nil.mpr (halways.of_invariant hkeep (fun _ e h _ => (quiet_of_ended h e).2) h)

/-- **When the receive thread ends.**  While the window is open, it ends at the first exception
of a port that is neither an `OSError` nor a `SerialException`, and at nothing else; from then on
no packet and no marker is ever queued again, whatever is connected. -/
theorem receive_thread_ends (events : List (Event P)) :
    ((run step init events).rxThread = .ended ↔ trace step escapes init events ≠ []) ∧
      (trace step escapes init events).length ≤ 1 ∧
      ((run step init events).rxThread = .ended → ∀ more : List (Event P),
        trace step puts init (events ++ more) = trace step puts init events ∧
          (run step init (events ++ more)).rxThread = .ended) := by
  have hkeep : ∀ (self : EgseGuiApp) (e : Event P) (past : List PyError),
      ((self.rxThread = .ended ↔ past ≠ []) ∧ past.length ≤ 1) → True →
        (((self.step e).rxThread = .ended ↔ past ++ self.escapes e ≠ []) ∧
          (past ++ self.escapes e).length ≤ 1) := by
    rintro self e past ⟨hended, hlength⟩ -
    rcases self.rxThread_step e with ⟨hnone, hiff⟩ | ⟨⟨x, hone⟩, hne, hnext⟩
    · rw [hnone, List.append_nil, hiff]
      exact ⟨hended, hlength⟩
    · -- the thread was running, so nothing had escaped before
      obtain rfl : past = [] := by
        by_contra hpast
        exact hne (hended.mpr hpast)
      rw [hone, hnext]
      simp
  have hinit : (init.rxThread = .ended ↔ ([] : List PyError) ≠ []) ∧
      ([] : List PyError).length ≤ 1 := ⟨by simp [init], Nat.zero_le 1⟩
  obtain ⟨hended, hlength⟩ := trace_history hkeep [] hinit (Along.always step init events)
  refine ⟨hended, hlength, ?_⟩
  intro h more
  obtain ⟨hthread, hputs, -⟩ := quiet_run_of_ended h more
  rw [trace_append, run_append, hputs, List.append_nil]
  exact ⟨rfl, hthread⟩

/-- The descriptor of a port that has just been closed is `None`. -/
def closedDescriptor : List (Event PortAnswer) :=
  [.connect fun _ _ => .ok (), .rxPick, .disconnect, .rxPoll (.raises (.typeError "NoneType"))]

def nextConnection : List (Event PortAnswer) :=
  [.connect fun _ _ => .ok (), .rxPick, .rxPoll (.waiting lineFrame)]

/-- The frame that arrives on the next connection is not read. -/
theorem receive_thread_ends_closedDescriptor :
    trace step puts init (closedDescriptor ++ nextConnection) = [] := by
  have hended : (run step init closedDescriptor).rxThread = .ended := by decide
  obtain ⟨-, -, hquiet⟩ := receive_thread_ends closedDescriptor
  rw [(hquiet hended nextConnection).1]
  rfl

end EgseGuiApp

end OpenSpaceEgse
