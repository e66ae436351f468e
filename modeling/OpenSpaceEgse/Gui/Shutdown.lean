import OpenSpaceEgse.Gui.Display
import OpenSpaceEgse.Gui.Ports
import OpenSpaceEgse.Gui.Uplink

/-!
# Closing the window

`_on_close` stops the simulation, sets the stop event, disconnects and destroys the window.
The receive thread runs on beside it: it may be between its look at the stop event and its
poll, with a port in hand that has just been closed.  `shutdown` says that this poll is the
last thing that happens.
-/

namespace OpenSpaceEgse

open Machine

namespace Console

variable {P : Type} [SerialLike P]

/-- The port that the receive thread polls in an event. -/
def polls (self : Console) : ConsoleEvent P → List PortId
  | .app (.rxPoll _) =>
      match self.app.rxThread with
      | .picked serialPort => [serialPort]
      | _ => []
  | _ => []

/-- The window is closed, and so is the way to the port. -/
structure Closed (console : Console) : Prop where
  destroyed : console.destroyed = true
  stopped : console.rxStopEvent = true
  serialPort : console.app.serialPort = none
  sender : console.app.sender = none
  timers : console.app.root.timers = []

/-- What is left of the application: everything but the receive thread, its receiver and the
queue between the threads. -/
def SameButRx (app app' : EgseGuiApp) : Prop :=
  ∃ receiver rxQueue rxThread,
    app' = { app with receiver := receiver, rxQueue := rxQueue, rxThread := rxThread }

lemma SameButRx.refl (app : EgseGuiApp) : SameButRx app app := ⟨_, _, _, rfl⟩

lemma SameButRx.trans {app app' app'' : EgseGuiApp} (h : SameButRx app app')
    (h' : SameButRx app' app'') : SameButRx app app'' := by
  obtain ⟨_, _, _, rfl⟩ := h
  obtain ⟨receiver, rxQueue, rxThread, rfl⟩ := h'
  exact ⟨receiver, rxQueue, rxThread, rfl⟩

/-- How often the receive thread can still poll. -/
def pollsLeft (self : Console) : ℕ :=
  match self.app.rxThread with
  | .picked _ => 1
  | _ => 0

section Closed

variable {self : Console}

lemma sameButRx_rxPoll (app : EgseGuiApp) (port : P) : SameButRx app (app.rxPoll port) := by
  rw [EgseGuiApp.rxPoll]
  split
  · rw [EgseGuiApp.receiveOnce]
    rcases app.receiver.processSerialOnce port egseSerialMaxReadSize with
      ⟨e | decodedPackets, receiver, port'⟩
    · cases e <;> exact ⟨_, _, _, rfl⟩
    · exact ⟨_, _, _, rfl⟩
  · exact .refl app

/-- Behind a poll the thread has no port in hand. -/
lemma pollsLeft_rxPoll (self : Console) (port : P) : (self.rxPoll port).pollsLeft = 0 := by
  rw [rxPoll]
  split
  · rfl
  · rw [EgseGuiApp.rxPoll]
    split
    · rcases self.app.receiveOnce port with ⟨e | decodedPackets, app⟩
      · cases e <;> rfl
      · rfl
    · rename_i hpicked
      rw [pollsLeft]
      split
      · rename_i serialPort hthis
        exact absurd hthis (hpicked serialPort)
      · rfl

/-- What can still happen behind a closed window. -/
lemma Closed.step_cases (h : self.Closed) (e : ConsoleEvent P) :
    (∃ port, e = .app (.rxPoll port) ∧ self.step e = self.rxPoll port) ∨
      e = .app .rxPick ∧ self.step e = self.rxPick ∨
      self.step e = self ∧ self.polls e = [] := by
  have hdestroyed := h.destroyed
  cases e with
  | app event =>
      cases event with
      | rxPoll port => exact Or.inl ⟨port, rfl, rfl⟩
      | rxPick => exact Or.inr (Or.inl ⟨rfl, rfl⟩)
      | _ => exact Or.inr (Or.inr ⟨if_pos hdestroyed, rfl⟩)
  | _ => exact Or.inr (Or.inr ⟨if_pos hdestroyed, rfl⟩)

/-- The last look at the stop event. -/
lemma Closed.rxPick_eq (h : self.Closed) :
    self.rxPick = self ∧ self.app.rxThread ≠ .idle ∨
      self.rxPick = { self with app := { self.app with rxThread := .ended } } ∧
        self.app.rxThread = .idle := by
  rw [rxPick, if_pos h.stopped]
  cases hthread : self.app.rxThread with
  | idle => exact Or.inr ⟨rfl, rfl⟩
  | picked serialPort => exact Or.inl ⟨rfl, by simp⟩
  | ended => exact Or.inl ⟨rfl, by simp⟩

/-- Nothing but the receive thread goes on. -/
lemma Closed.step_keeps (h : self.Closed) (e : ConsoleEvent P) :
    (self.step e).Closed ∧ SameButRx self.app (self.step e).app := by
  have hkeep : ∀ app, SameButRx self.app app → ({ self with app := app } : Console).Closed := by
    rintro _ ⟨_, _, _, rfl⟩
    exact ⟨h.destroyed, h.stopped, h.serialPort, h.sender, h.timers⟩
  rcases h.step_cases e with ⟨port, rfl, hstep⟩ | ⟨rfl, hstep⟩ | ⟨hstep, -⟩
  · rw [hstep, rxPoll]
    split
    · exact ⟨hkeep _ ⟨_, _, _, rfl⟩, _, _, _, rfl⟩
    · exact ⟨hkeep _ (sameButRx_rxPoll _ port), sameButRx_rxPoll _ port⟩
  · rw [hstep]
    rcases h.rxPick_eq with ⟨hpick, -⟩ | ⟨hpick, -⟩
    · rw [hpick]
      exact ⟨h, .refl _⟩
    · rw [hpick]
      exact ⟨hkeep _ ⟨_, _, _, rfl⟩, _, _, _, rfl⟩
  · rw [hstep]
    exact ⟨h, .refl _⟩

/-- Every poll uses up the port in hand. -/
lemma Closed.pollsLeft_step (h : self.Closed) (e : ConsoleEvent P) :
    (self.polls e).length + (self.step e).pollsLeft ≤ self.pollsLeft := by
  rcases h.step_cases e with ⟨port, rfl, hstep⟩ | ⟨rfl, hstep⟩ | ⟨hstep, hpolls⟩
  · rw [hstep, pollsLeft_rxPoll, polls, pollsLeft]
    split <;> rfl
  · rw [hstep]
    rcases h.rxPick_eq with ⟨hpick, -⟩ | ⟨hpick, -⟩
    · rw [hpick]
      exact (Nat.zero_add _).le
    · rw [hpick]
      exact Nat.zero_le _
  · rw [hstep, hpolls]
    exact (Nat.zero_add _).le

lemma Closed.rxPick_ended (h : self.Closed) (hleft : self.pollsLeft = 0) :
    self.rxPick.app.rxThread = .ended := by
  rcases h.rxPick_eq with ⟨hpick, hidle⟩ | ⟨hpick, -⟩
  · rw [hpick]
    rw [pollsLeft] at hleft
    cases hthread : self.app.rxThread with
    | idle => exact absurd hthread hidle
    | picked serialPort => simp [hthread] at hleft
    | ended => rfl
  · rw [hpick]

/-- A thread that has ended does not start again. -/
lemma Closed.ended_step (h : self.Closed) (hended : self.app.rxThread = .ended)
    (e : ConsoleEvent P) : (self.step e).app.rxThread = .ended := by
  rcases h.step_cases e with ⟨port, rfl, hstep⟩ | ⟨rfl, hstep⟩ | ⟨hstep, -⟩
  · rw [hstep, rxPoll]
    split
    · rfl
    · rw [EgseGuiApp.rxPoll, hended]
      exact hended
  · rw [hstep]
    exact h.rxPick_ended (by rw [pollsLeft, hended])
  · rw [hstep]
    exact hended

end Closed

/-! ### The closing -/

/-- A window that is open, with a sender that writes to the current port. -/
structure Opened (console : Console) : Prop where
  destroyed : console.destroyed = false
  running : console.rxStopEvent = false
  writesTo : console.app.link.writesTo = console.app.link.port

section Closing

variable {self : Console}

lemma opened_init : init.Opened where
  destroyed := (onCommandChanged_stays _).1
  running := (onCommandChanged_stays _).2
  writesTo := by
    rw [app_init]
    rfl

lemma link_stopAutoSimulation (app : EgseGuiApp) : app.stopAutoSimulation.link = app.link := by
  rw [EgseGuiApp.stopAutoSimulation]
  split <;> rfl

lemma Opened.closed (h : self.Opened) : self.onClose.Closed where
  destroyed := rfl
  stopped := rfl
  serialPort := by
    show self.app.stopAutoSimulation.disconnect.link.port = none
    rw [EgseGuiApp.link_disconnect, Link.close_port]
  sender := by
    have hwrites : self.app.stopAutoSimulation.disconnect.link.writesTo = none := by
      rw [EgseGuiApp.link_disconnect, link_stopAutoSimulation, Link.close_writesTo h.writesTo]
    exact Option.map_eq_none_iff.mp hwrites
  timers := rfl

/-- The port is closed, and the plots stay as they are. -/
lemma onClose_keeps (self : Console) :
    (∀ serialPort, self.app.serialPort = some serialPort →
      serialPort ∈ self.onClose.app.serial.closed) ∧
    self.onClose.app.plots = self.app.plots := by
  constructor
  · intro serialPort hport
    have hclosed : serialPort ∈ self.app.stopAutoSimulation.disconnect.link.closed := by
      rw [EgseGuiApp.link_disconnect, link_stopAutoSimulation, Link.mem_close_closed]
      exact Or.inl hport
    exact hclosed
  · have hdisconnect := EgseGuiApp.disconnect_frame (f := EgseGuiApp.plots) (fun _ _ _ _ => rfl)
      self.app.stopAutoSimulation
    refine hdisconnect.trans ?_
    rw [EgseGuiApp.stopAutoSimulation]
    split <;> rfl

lemma Opened.step_keeps (h : self.Opened) (e : ConsoleEvent P) :
    (self.step e).Opened ∨ (self.step e).Closed := by
  by_cases happ : ∃ event, e = .app event
  · obtain ⟨event, rfl⟩ := happ
    rw [step, appStep_open h.destroyed h.running]
    exact Or.inl ⟨h.destroyed, h.running, (self.app.link_step event).writesTo h.writesTo⟩
  · by_cases hclose : e = .close
    · subst hclose
      rw [step, h.destroyed, if_neg Bool.false_ne_true]
      exact Or.inr h.closed
    · obtain ⟨hdestroyed, hrunning, hsame⟩ := self.step_panel (not_exists.mp happ) hclose
      refine Or.inl ⟨hdestroyed.trans h.destroyed, hrunning.trans h.running, ?_⟩
      have hwrites := h.writesTo
      rcases hsame with hsame | ⟨sender, hsender, hsame⟩
      · rwa [hsame]
      · rw [EgseGuiApp.link, hsender] at hwrites
        rw [hsame]
        exact hwrites

/-- Every state of a run is that of an open or of a closed window. -/
lemma opened_or_closed (events : List (ConsoleEvent P)) :
    (run step init events).Opened ∨ (run step init events).Closed := by
  have hkeep : ∀ (self : Console) (e : ConsoleEvent P), self.Opened ∨ self.Closed → True →
      (self.step e).Opened ∨ (self.step e).Closed := by
    rintro self e (hopened | hclosed) -
    · exact hopened.step_keeps e
    · exact Or.inr (hclosed.step_keeps e).1
  exact Along.run hkeep (Or.inl opened_init) (Along.always step init events)

lemma Closed.of_close (past : List (ConsoleEvent P)) :
    (run step init (past ++ [.close])).Closed := by
  rw [run_append, run_cons, run_nil]
  rcases opened_or_closed past with hopened | hclosed
  · rw [step, hopened.destroyed, if_neg Bool.false_ne_true]
    exact hopened.closed
  · exact (hclosed.step_keeps _).1

lemma Closed.run_keeps (h : self.Closed) (more : List (ConsoleEvent P)) :
    (run step self more).Closed ∧ SameButRx self.app (run step self more).app := by
  have hkeep : ∀ (console : Console) (e : ConsoleEvent P),
      console.Closed ∧ SameButRx self.app console.app → True →
      (console.step e).Closed ∧ SameButRx self.app (console.step e).app := by
    rintro console e ⟨hclosed, hsame⟩ -
    obtain ⟨hclosed', hsame'⟩ := hclosed.step_keeps e
    exact ⟨hclosed', hsame.trans hsame'⟩
  exact Along.run hkeep ⟨h, .refl _⟩ (Along.always step self more)

lemma Closed.along (h : self.Closed) (more : List (ConsoleEvent P)) :
    Along step (fun console _ => console.Closed) self more :=
  (Along.always step self more).of_invariant (fun _ e hclosed _ => (hclosed.step_keeps e).1)
    (fun _ _ hclosed _ => hclosed) h

/-- With one more poll and one more look the thread ends. -/
lemma Closed.thread_ends (h : self.Closed) (before between after : List (ConsoleEvent P))
    (port : P) :
    (run step self
      (before ++ .app (.rxPoll port) :: between ++ .app .rxPick :: after)).app.rxThread =
        .ended := by
  have hbefore := (h.run_keeps before).1
  have hpoll := (hbefore.step_keeps (.app (.rxPoll port))).1
  have hleft : ((run step self before).step (.app (.rxPoll port))).pollsLeft = 0 :=
    pollsLeft_rxPoll _ port
  -- between the poll and the look no port comes into the hand of the thread
  have hkeep : ∀ (console : Console) (e : ConsoleEvent P), console.Closed ∧ console.pollsLeft = 0 →
      True → (console.step e).Closed ∧ (console.step e).pollsLeft = 0 := by
    rintro console e ⟨hclosed, hnone⟩ -
    have hpolls := hclosed.pollsLeft_step e
    exact ⟨(hclosed.step_keeps e).1, by omega⟩
  obtain ⟨hbetween, hnone⟩ := Along.run hkeep ⟨hpoll, hleft⟩ (Along.always step _ between)
  have hpick := hbetween.rxPick_ended hnone
  have hafter : ∀ (console : Console) (e : ConsoleEvent P),
      console.Closed ∧ console.app.rxThread = .ended → True →
      (console.step e).Closed ∧ (console.step e).app.rxThread = .ended := by
    rintro console e ⟨hclosed, hended⟩ -
    exact ⟨(hclosed.step_keeps e).1, hclosed.ended_step hended e⟩
  rw [List.append_assoc, run_append, List.cons_append, run_cons, run_append, run_cons]
  exact (Along.run hafter ⟨(hbetween.step_keeps (.app .rxPick)).1, hpick⟩
    (Along.always step _ after)).2

end Closing

/-- **The end of a run.**  Behind the closing of the window, in whatever way the events go on,
there is no port and no sender, no timer fires any more, the plots stay as they were, and
nothing is sent on any port; the port that was open is closed.  The receive thread polls at
most once more, on a port that it had already picked up, and it has ended as soon as it had
the time for one poll and one look at the stop event. -/
theorem shutdown (past more : List (ConsoleEvent P)) :
    (run step init (past ++ .close :: more)).Closed ∧
      (∀ serialPort, (run step init past).destroyed = false →
        (run step init past).app.serialPort = some serialPort →
        serialPort ∈ (run step init (past ++ .close :: more)).app.serial.closed) ∧
      (run step init (past ++ .close :: more)).app.plots = (run step init past).app.plots ∧
      (∀ p, trace step (transmitsOn p) (run step init (past ++ [.close])) more = []) ∧
      (trace step polls (run step init (past ++ [.close])) more).length ≤ 1 ∧
      ∀ before between after port,
        more = before ++ .app (.rxPoll port) :: between ++ .app .rxPick :: after →
        (run step init (past ++ .close :: more)).app.rxThread = .ended := by
  have hclosed : (run step init (past ++ [.close])).Closed := Closed.of_close past
  have hrun : run step init (past ++ .close :: more) =
      run step (run step init (past ++ [.close])) more := by
    rw [← run_append, List.append_assoc, List.singleton_append]
  obtain ⟨hend, receiver, rxQueue, rxThread, hsame⟩ := hclosed.run_keeps more
  rw [hrun]
  have hclosing : (run step init past).destroyed = false →
      run step init (past ++ [.close]) = (run step init past).onClose := by
    intro hopen
    rw [run_append, run_cons, run_nil, step, hopen, if_neg Bool.false_ne_true]
  refine ⟨hend, ?_, ?_, ?_, ?_, ?_⟩
  · intro serialPort hopen hport
    rw [hsame, hclosing hopen]
    exact (run step init past).onClose_keeps.1 serialPort hport
  · rw [hsame]
    -- the window may have been closed before
    rcases opened_or_closed past with hopened | hbefore
    · rw [hclosing hopened.destroyed]
      exact (run step init past).onClose_keeps.2
    · have hsame' := (hbefore.step_keeps (P := P) .close).2
      rw [run_append, run_cons, run_nil]
      obtain ⟨_, _, _, hsame'⟩ := hsame'
      rw [hsame']
      rfl
  · intro p
    refine trace_eq_nil.mpr ((hclosed.along more).of_invariant (fun _ e h _ => (h.step_keeps e).1)
      (fun console e h _ => ?_) hclosed)
    cases e with
    | sendTc answer => rw [transmitsOn, h.destroyed]
    | _ => rfl
  · have hstep : ∀ (console : Console) (e : ConsoleEvent P), console.Closed →
        (polls console e).length + pollsLeft (step console e) ≤ pollsLeft console :=
      fun _ e h => h.pollsLeft_step e
    -- a poll needs the port that the thread picked up before the closing
    have hpolls := spent pollsLeft hstep (hclosed.along more)
    have hleft : (run step init (past ++ [.close])).pollsLeft ≤ 1 := by
      rw [pollsLeft]
      split
      · exact Nat.le_refl _
      · exact Nat.zero_le _
    omega
  · rintro before between after port rfl
    exact hclosed.thread_ends before between after port

/-- The receive thread is about to poll. -/
def portPicked : List (ConsoleEvent PortAnswer) :=
  [.app (.connect fun _ _ => .ok ()), .app .rxPick]

def lastPoll : List (ConsoleEvent PortAnswer) :=
  [.app .rxPick, .app (.rxPoll (.waiting lineFrame)), .app (.fire 0), .app .rxPick]

/-- The window is closed before the poll. -/
theorem shutdown_portPicked :
    0 ∈ (run step init (portPicked ++ .close :: lastPoll)).app.serial.closed ∧
      (run step init (portPicked ++ .close :: lastPoll)).app.rxThread = .ended := by
  obtain ⟨-, hport, -, -, -, hthread⟩ := shutdown portPicked lastPoll
  exact ⟨hport 0 (by decide) (by decide), hthread [.app .rxPick] [.app (.fire 0)] [] _ rfl⟩

end Console

end OpenSpaceEgse
