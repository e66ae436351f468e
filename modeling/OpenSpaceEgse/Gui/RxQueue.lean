import OpenSpaceEgse.Gui.EventLoop
import OpenSpaceEgse.Library.Runs

/-!
# Errors of the receive loop

The receive loop answers an error of its port with a marker in the queue, and the next
tick that meets the marker disconnects.  The marker does not say which port raised, and
the queue is not emptied when a port is closed, so a tick can close a port that works:
`stale_marker_closes`.  `ticks_justified_iff` says in which runs this is never possible.
-/

namespace OpenSpaceEgse

open Machine

/-- The application, with the ports on which the receive loop has raised so far. -/
structure Watched where
  app : EgseGuiApp
  raised : List PortId

namespace Watched

variable {P : Type} [SerialLike P]

def init : Watched := ⟨EgseGuiApp.init, []⟩

def step (w : Watched) (e : Event P) : Watched :=
  ⟨w.app.step e, (w.app.raisedBy e).toList ++ w.raised⟩

/-- A tick of `_process_rx_queue` could only close a port that has raised, whatever the field
of the TM APID holds by then. -/
def TickJustified (w : Watched) : Prop :=
  ∀ text p, w.app.serialPort = some p →
    (w.app.setText text .tmApid).processRxQueue.2.serialPort = none → p ∈ w.raised

/-- A port is opened only while no marker is queued, and the receive loop raises on the
current port, unless there is none or it has raised before. -/
def Orderly (w : Watched) (e : Event P) : Prop :=
  (w.app.serialPort = none → (w.app.step e).serialPort ≠ none → none ∉ w.app.rxQueue) ∧
    ∀ q ∈ w.app.raisedBy e, ∀ p ∈ w.app.serialPort, p = q ∨ p ∈ w.raised

instance (w : Watched) (e : Event P) : Decidable (w.Orderly e) :=
  inferInstanceAs (Decidable (_ ∧ _))

lemma numbered_step (w : Watched) (e : Event P) (h : Link.Numbered w.app.link w.raised) :
    Link.Numbered (w.step e).app.link (w.step e).raised :=
  (w.app.link_step e).numbered h

lemma accounted_step (w : Watched) (e : Event P) (h : Link.Accounted w.app.link w.raised)
    (ho : w.Orderly e) : Link.Accounted (w.step e).app.link (w.step e).raised :=
  (w.app.link_step e).accounted ho h

lemma tickJustified_of_accounted {w : Watched} (h : Link.Accounted w.app.link w.raised) :
    w.TickJustified := by
  intro text p hp htick
  have hlink := (w.app.setText text .tmApid).link_processRxQueue
  rw [EgseGuiApp.link_setText] at hlink
  have hclosed : (w.app.link.tick (w.app.setText text .tmApid).raisesOn).port = none := by
    rw [← hlink]
    exact htick
  exact h.tick hp hclosed

/-- A step that is not orderly makes a tick possible that is not justified: with an APID in
the field, a tick does not stop before the marker. -/
lemma orderly_of_tickJustified {w : Watched} {e : Event P}
    (hn : Link.Numbered w.app.link w.raised) (h : (w.step e).TickJustified) : w.Orderly e := by
  by_contra hno
  obtain ⟨p, hp, hraised, htick⟩ := (w.app.link_step e).not_orderly hn hno
  have hapid : ((w.app.step e).setText "200" .tmApid).telemetryApid = 200 :=
    EgseGuiApp.telemetryApid_of_eq_ok (by decide : intOfText "200" = .ok 200)
  have hstops : ((w.app.step e).setText "200" .tmApid).raisesOn = fun _ => false :=
    funext fun packet => EgseGuiApp.raisesOn_of_writable (hapid ▸ by decide) packet
  have hlink := ((w.app.step e).setText "200" .tmApid).link_processRxQueue
  rw [hstops, EgseGuiApp.link_setText] at hlink
  refine hraised (h "200" p hp ?_)
  rwa [← hlink] at htick

/-- **When a tick is justified.**  In a run, a tick could at every point only close a
port that has raised, if and only if every step of the run is orderly. -/
theorem ticks_justified_iff (events : List (Event P)) :
    (∀ past, past <+: events → (run step init past).TickJustified) ↔
      Along step Orderly init events := by
  have hnumbered : Link.Numbered EgseGuiApp.init.link [] :=
    ⟨fun _ hp => (nomatch hp), fun _ hp => (nomatch hp), fun _ hp => (nomatch hp)⟩
  have haccounted : Link.Accounted EgseGuiApp.init.link [] := fun _ hp => (nomatch hp)
  rw [Along.states_iff]
  constructor
  · rintro ⟨-, h⟩
    exact h.of_invariant (fun w e hw _ => numbered_step w e hw)
      (fun w e hw he => orderly_of_tickJustified hw he) hnumbered
  · intro h
    refine ⟨tickJustified_of_accounted haccounted, ?_⟩
    exact h.of_invariant accounted_step
      (fun w e hw he => tickJustified_of_accounted (accounted_step w e hw he)) haccounted

/-! ## A stale marker -/

/-- The call `serial.Serial(...)` succeeds. -/
def connected : Event PortAnswer := .connect fun _ _ => .ok ()

/-- The receive loop polls the current port, which raises. -/
def failedPoll : List (Event PortAnswer) :=
  [.rxPick, .rxPoll (.raises (.serialException "device disconnected"))]

/-- The first port raises twice before the tick that closes it. -/
def staleRun : List (Event PortAnswer) :=
  [connected] ++ failedPoll ++ failedPoll ++ [.fire 0, connected]

/-- The second marker then closes the next port, which never raised. -/
theorem stale_marker_closes :
    (run step init staleRun).app.serialPort = some 1 ∧
      (run step init staleRun).raised = [0, 0] ∧
      ((run step init staleRun).step (.fire 1 : Event PortAnswer)).app.serialPort = none := by
  decide

/-- Had the first port raised only once, the run would be orderly. -/
example : Along step Orderly init ([connected] ++ failedPoll ++ [.fire 0, connected]) := by
  decide

end Watched

end OpenSpaceEgse
