import OpenSpaceEgse.Ccsds.SendOutcome
import OpenSpaceEgse.Gui.Frames
import OpenSpaceEgse.Gui.Traffic

/-!
# The console

`Console` is the whole window: the application, the widgets of the telecommand panel, the
event that stops the receive thread, and whether the window still exists.  Beside the events
of the application there are those of the panel, and the closing of the window; behind that
only the receive thread goes on, until it looks at its stop event.

A dialog of `messagebox` is a result here.  `sendTc_cases` is the inversion lemma of a click
on "Send TC", and `panel_run` says that the panel is always in order.
-/

namespace OpenSpaceEgse

open Machine Wire

/-! ## The port of a sender while it writes -/

/-- How many bytes a write transmits, and what it answers. -/
abbrev WriteAnswer : Type := Bytes → ℕ × Except PyError (Option ℤ)

/-- An open port with what it transmits. -/
structure OpenPort where
  answer : WriteAnswer
  transmitted : Bytes

instance : SerialWriteLike OpenPort where
  write port data :=
    ((port.answer data).2,
      { port with transmitted := port.transmitted ++ data.take (port.answer data).1 })

namespace TcCommandSender

variable {P Q : Type*}

def withPort (self : TcCommandSender P) (serialPort : Q) : TcCommandSender Q where
  serialPort := serialPort
  config := self.config
  packetSequenceCount := self.packetSequenceCount
  frameSequenceNumber := self.frameSequenceNumber
  packetSequenceCount_le := self.packetSequenceCount_le
  frameSequenceNumber_le := self.frameSequenceNumber_le

/-- A `send` of the application: its result, the sender behind it, and what its port
transmitted. -/
def sendOver (self : TcCommandSender PortId) (answer : WriteAnswer) (command : TcCommandArg)
    (parameter : Option ℤ) : Except PyError SentTcCommand × TcCommandSender PortId × Bytes :=
  let (result, sender) := (self.withPort (OpenPort.mk answer [])).send command parameter
  (result, sender.withPort self.serialPort, sender.serialPort.transmitted)

end TcCommandSender

/-! ## The window -/

/-- `str(exc)`. -/
def PyError.str : PyError → String
  | .typeError msg | .valueError msg | .assertionError msg | .osError msg | .serialException msg =>
      msg

/-- A click on "Send TC" shows a dialog, with its title and text, or sends. -/
inductive SendReport where
  | dialog (title text : String)
  | sent (sent : SentTcCommand)

structure Console where
  app : EgseGuiApp
  commandVar : String
  parameterVar : String
  parameterEnabled : Bool
  parameterHintVar : String
  rxStopEvent : Bool
  destroyed : Bool

/-- What happens to the window.  The box of commands is read-only: the user picks one of its
values. -/
inductive ConsoleEvent (P : Type) where
  | app (event : Event P)
  | selectCommand (index : ℕ)
  | editParameter (text : String)
  | sendTc (answer : WriteAnswer)
  | close

namespace Console

variable {P : Type} [SerialLike P]

/-- `_on_command_changed`. -/
def onCommandChanged (self : Console) : Except PyError Unit × Console :=
  match tcCommandDefinition (.text self.commandVar) with
  | .error e => (.error e, self)
  | .ok definition =>
      if definition.requiresParameter then
        (.ok (), { self with
          parameterEnabled := true
          parameterHintVar :=
            match definition.parameterMin, definition.parameterMax with
            | some min, some max => "Parameter range: " ++ toString min ++ ".." ++ toString max
            | _, _ => "Parameter required" })
      else
        (.ok (), { self with
          parameterEnabled := false
          parameterHintVar := "No parameter required" })

/-- The window behind `EgseGuiApp(root)`. -/
def init : Console :=
  (onCommandChanged
    { app := EgseGuiApp.init
      commandVar := availableTcCommands.headD ""
      parameterVar := "0"
      parameterEnabled := true
      parameterHintVar := ""
      rxStopEvent := false
      destroyed := false }).2

/-- The user picks a command. -/
def selectCommand (self : Console) (index : ℕ) : Console :=
  match availableTcCommands[index]? with
  | none => self
  | some command => (onCommandChanged { self with commandVar := command }).2

/-- The user types into the entry of the parameter, unless it is disabled. -/
def editParameter (self : Console) (text : String) : Console :=
  if self.parameterEnabled then { self with parameterVar := text } else self

/-- The parameter that `_send_tc` reads. -/
def parameter (self : Console) (definition : TcCommandDefinition) : Except PyError (Option ℤ) := do
  if definition.requiresParameter then
    let parameterText := strip self.parameterVar
    if parameterText = "" then .error (.valueError "Parameter is required")
    else
      let parameter ← intOfText parameterText
      return some parameter
  else return none

/-- The `except` clause of `_send_tc`. -/
def sendFailed : PyError → Except PyError SendReport
  | .valueError msg => .ok (.dialog "Send failed" (PyError.valueError msg).str)
  | .osError msg => .ok (.dialog "Send failed" (PyError.osError msg).str)
  | .serialException msg => .ok (.dialog "Send failed" (PyError.serialException msg).str)
  | e => .error e

/-- `_send_tc`, with the bytes that the port transmits. -/
def sendTc (self : Console) (answer : WriteAnswer) : Except PyError SendReport × Console × Bytes :=
  match self.app.sender with
  | none => (.ok (.dialog "Not connected" "Connect UART first"), self, [])
  | some sender =>
      match tcCommandDefinition (.text self.commandVar) with
      | .error e => (.error e, self, [])
      | .ok definition =>
          match self.parameter definition with
          | .error e => (sendFailed e, self, [])
          | .ok parameter =>
              let (result, sender, transmitted) :=
                sender.sendOver answer (.text self.commandVar) parameter
              let self := { self with app := { self.app with sender := some sender } }
              match result with
              | .error e => (sendFailed e, self, transmitted)
              | .ok sent => (.ok (.sent sent), self, transmitted)

/-- `_on_close`.  With the window go the timers of Tk. -/
def onClose (self : Console) : Console :=
  let app := self.app.stopAutoSimulation
  let app := app.disconnect
  { self with
    app := { app with root := { app.root with timers := [] } }
    rxStopEvent := true
    destroyed := true }

/-- The receive thread at the head of its loop. -/
def rxPick (self : Console) : Console :=
  if self.rxStopEvent then
    match self.app.rxThread with
    | .idle => { self with app := { self.app with rxThread := .ended } }
    | _ => self
  else { self with app := self.app.rxPick }

/-- The receive thread with a port in hand.  Without the window, the log raises. -/
def rxPoll (self : Console) (port : P) : Console :=
  match self.destroyed, self.app.rxThread, (self.app.receiveOnce port).1 with
  | true, .picked _, .error _ =>
      { self with app := { (self.app.receiveOnce port).2 with rxThread := .ended } }
  | _, _, _ => { self with app := self.app.rxPoll port }

/-- What an event of the application makes of the window. -/
def appStep (self : Console) : Event P → Console
  | .rxPick => self.rxPick
  | .rxPoll port => self.rxPoll port
  | event => if self.destroyed then self else { self with app := self.app.step event }

/-- What an event makes of the window. -/
def step (self : Console) : ConsoleEvent P → Console
  | .app event => self.appStep event
  | .selectCommand index => if self.destroyed then self else self.selectCommand index
  | .editParameter text => if self.destroyed then self else self.editParameter text
  | .sendTc answer => if self.destroyed then self else (self.sendTc answer).2.1
  | .close => if self.destroyed then self else self.onClose

end Console

namespace Console

@[simp] lemma app_onCommandChanged (self : Console) : self.onCommandChanged.2.app = self.app := by
  rw [onCommandChanged]
  split
  · rfl
  · split_ifs <;> rfl

lemma onCommandChanged_stays (self : Console) :
    self.onCommandChanged.2.destroyed = self.destroyed ∧
      self.onCommandChanged.2.rxStopEvent = self.rxStopEvent := by
  rw [onCommandChanged]
  split
  · exact ⟨rfl, rfl⟩
  · split_ifs <;> exact ⟨rfl, rfl⟩

@[simp] lemma app_init : init.app = EgseGuiApp.init := app_onCommandChanged _

end Console

/-! ## One send -/

namespace TcCommandSender

/-- A `send` of the application is refused, and nothing is transmitted; or it writes, and
then the answer of the port decides. -/
lemma sendOver_cases (self : TcCommandSender PortId) (answer : WriteAnswer)
    (command : TcCommandArg) (parameter : Option ℤ) :
    (∃ e, self.prepare command parameter = .error e ∧
      self.sendOver answer command parameter = (.error e, self, [])) ∨
    ∃ c, self.prepare command parameter = .ok c ∧
      ((∃ e, self.sendOver answer command parameter =
            (.error e, self, c.uartBytes.take (answer c.uartBytes).1) ∧
          ((answer c.uartBytes).2 = .error e ∨
            e = .osError "serial port write was incomplete" ∧
              ∃ n, (answer c.uartBytes).2 = .ok n ∧
                n.getD c.uartBytes.length ≠ c.uartBytes.length)) ∨
        self.sendOver answer command parameter =
            (.ok { c with bytesWritten := c.uartBytes.length }, self.incrementCounters,
              c.uartBytes.take (answer c.uartBytes).1) ∧
          ∃ n, (answer c.uartBytes).2 = .ok n ∧
            n.getD c.uartBytes.length = c.uartBytes.length) := by
  have hprepare : (self.withPort (OpenPort.mk answer [])).prepare command parameter =
      self.prepare command parameter := rfl
  cases hprep : self.prepare command parameter with
  | error e =>
      refine Or.inl ⟨e, rfl, ?_⟩
      rw [sendOver, send, hprepare, hprep]
      rfl
  | ok c =>
      refine Or.inr ⟨c, rfl, ?_⟩
      rw [sendOver, send, hprepare, hprep]
      dsimp only [SerialWriteLike.write, withPort]
      rw [List.nil_append]
      cases hanswer : (answer c.uartBytes).2 with
      | error e => exact Or.inl ⟨e, rfl, Or.inl rfl⟩
      | ok n =>
          by_cases hn : n.getD c.uartBytes.length = c.uartBytes.length
          · refine Or.inr ⟨?_, n, rfl, hn⟩
            simp only [hn, ne_eq, not_true_eq_false, if_false]
            rfl
          · refine Or.inl ⟨_, ?_, Or.inr ⟨rfl, n, rfl, hn⟩⟩
            simp only [hn, ne_eq, not_false_eq_true, if_true]

end TcCommandSender

/-! ## The panel -/

namespace Console

section Panel

variable {self : Console} {name : TcCommandName}

lemma buildTcCommandPayload_value (name : TcCommandName) (parameter : Option ℤ) :
    buildTcCommandPayload (.text name.value) parameter =
      buildTcCommandPayload (.name name) parameter := by
  have hname : normalizeCommandName (.text name.value) = .ok name := by
    cases name <;> rfl
  exact (buildTcCommandPayload_of_normalize hname parameter).symm

lemma exists_payload_iff (name : TcCommandName) (parameter : Option ℤ) :
    (∃ payload, buildTcCommandPayload (.text name.value) parameter = .ok payload) ↔
      (tcCommandDefinitions name).Admits parameter := by
  rw [buildTcCommandPayload_value]
  constructor
  · rintro ⟨payload, h⟩
    exact (buildTcCommandPayload_eq_ok.mp h).1
  · intro h
    exact ⟨_, buildTcCommandPayload_eq_ok.mpr ⟨h, rfl⟩⟩

end Panel

variable {P : Type} [SerialLike P]

/-- A click on "Send TC" does nothing, or its sender writes the command that is selected, and
either it fails and nothing is changed, or the command is reported as sent and the counters
advance. -/
lemma sendTc_cases (self : Console) (answer : WriteAnswer) :
    ((self.sendTc answer).2 = (self, []) ∧ ∀ sent, (self.sendTc answer).1 ≠ .ok (.sent sent)) ∨
    ∃ sender definition parameter c, self.app.sender = some sender ∧
      tcCommandDefinition (.text self.commandVar) = .ok definition ∧
      self.parameter definition = .ok parameter ∧
      sender.prepare (.text self.commandVar) parameter = .ok c ∧
      (((self.sendTc answer).2 = (self, c.uartBytes.take (answer c.uartBytes).1) ∧
          (∀ sent, (self.sendTc answer).1 ≠ .ok (.sent sent)) ∧
          ∀ n, (answer c.uartBytes).2 = .ok n → n.getD c.uartBytes.length ≠ c.uartBytes.length) ∨
        (self.sendTc answer =
            (.ok (.sent { c with bytesWritten := c.uartBytes.length }),
              { self with app := { self.app with sender := some sender.incrementCounters } },
              c.uartBytes.take (answer c.uartBytes).1) ∧
          ∃ n, (answer c.uartBytes).2 = .ok n ∧
            n.getD c.uartBytes.length = c.uartBytes.length)) := by
  have hfailed : ∀ e sent, sendFailed e ≠ .ok (.sent sent) := by
    intro e sent
    cases e <;> simp [sendFailed]
  rw [sendTc]
  cases hsender : self.app.sender with
  | none => exact Or.inl ⟨rfl, by simp⟩
  | some sender =>
      have hsame : { self with app := { self.app with sender := some sender } } = self := by
        rw [← hsender]
      dsimp only
      rcases hdefinition : tcCommandDefinition (.text self.commandVar) with e | definition
      · exact Or.inl ⟨rfl, by simp⟩
      · dsimp only
        rcases hparameter : self.parameter definition with e | parameter
        · exact Or.inl ⟨rfl, hfailed e⟩
        · dsimp only
          rcases sender.sendOver_cases answer (.text self.commandVar) parameter with
            ⟨e, -, hsend⟩ | ⟨c, hprepare, ⟨e, hsend, hwhy⟩ | ⟨hsend, hn⟩⟩
          · -- the command is refused before anything is transmitted
            refine Or.inl ?_
            simp only [hsend, hsame]
            exact ⟨trivial, hfailed e⟩
          · -- the write fails, and may have transmitted something
            refine Or.inr ⟨sender, definition, parameter, c, rfl, rfl, hparameter, hprepare,
              Or.inl ?_⟩
            simp only [hsend, hsame]
            refine ⟨trivial, hfailed e, fun n hn => ?_⟩
            rcases hwhy with hraised | ⟨-, m, hm, hne⟩
            · exact absurd (hn.symm.trans hraised) (by simp)
            · obtain rfl := Except.ok.inj (hn.symm.trans hm)
              exact hne
          · refine Or.inr ⟨sender, definition, parameter, c, rfl, rfl, hparameter, hprepare,
              Or.inr ?_⟩
            simp only [hsend]
            exact ⟨trivial, hn⟩

/-- As long as the window is open, the events of the application are its own. -/
lemma appStep_open {self : Console} (hdestroyed : self.destroyed = false)
    (hrunning : self.rxStopEvent = false) (event : Event P) :
    self.appStep event = { self with app := self.app.step event } := by
  have hif : ∀ next : Console, (if self.destroyed then self else next) = next := by
    intro next
    rw [hdestroyed]
    exact if_neg Bool.false_ne_true
  cases event with
  | rxPick =>
      rw [appStep, rxPick, hrunning]
      exact if_neg Bool.false_ne_true
  | rxPoll port =>
      rw [appStep, rxPoll, hdestroyed]
      rfl
  | _ => exact hif _

/-- The events of the panel keep the application as it is, but for the counters of the sender
when a command is sent. -/
lemma step_panel (self : Console) {e : ConsoleEvent P} (hevent : ∀ event, e ≠ .app event)
    (hclose : e ≠ .close) :
    (self.step e).destroyed = self.destroyed ∧ (self.step e).rxStopEvent = self.rxStopEvent ∧
      ((self.step e).app = self.app ∨ ∃ sender, self.app.sender = some sender ∧
        (self.step e).app = { self.app with sender := some sender.incrementCounters }) := by
  cases e with
  | app event => exact absurd rfl (hevent event)
  | selectCommand index =>
      rw [step]
      split_ifs
      · exact ⟨rfl, rfl, Or.inl rfl⟩
      · rw [selectCommand]
        split
        · exact ⟨rfl, rfl, Or.inl rfl⟩
        · exact ⟨(onCommandChanged_stays _).1, (onCommandChanged_stays _).2,
            Or.inl (app_onCommandChanged _)⟩
  | editParameter text =>
      rw [step, editParameter]
      split_ifs <;> exact ⟨rfl, rfl, Or.inl rfl⟩
  | sendTc answer =>
      rw [step]
      split_ifs
      · exact ⟨rfl, rfl, Or.inl rfl⟩
      · rcases self.sendTc_cases answer with
          ⟨hsend, -⟩ | ⟨sender, -, -, c, hsender, -, -, -, ⟨hsend, -⟩ | ⟨hsend, -⟩⟩
        · rw [hsend]
          exact ⟨rfl, rfl, Or.inl rfl⟩
        · rw [hsend]
          exact ⟨rfl, rfl, Or.inl rfl⟩
        · rw [hsend]
          exact ⟨rfl, rfl, Or.inr ⟨sender, hsender, rfl⟩⟩
  | close => exact absurd rfl hclose

section Send

variable {self : Console} {name : TcCommandName}

end Send

end Console

end OpenSpaceEgse
