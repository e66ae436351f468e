import OpenSpaceEgse.Gui.EventLoop
import OpenSpaceEgse.Library.Runs

/-!
# The ports of a run

A port ends being open only through `close`, so one that the application drops without
closing it stays open for good.  On the abstract connection that is `Released`, which
every step keeps but `drops`; the application takes that step exactly if `_connect` opens
a port and then meets a text field that is no number, or cannot write the baud rate into
its status line, `connections_iff`.
-/

namespace OpenSpaceEgse

open Machine

namespace Link

variable {α : Type} {l l' : Link α} {r : Option ℕ}

/-- Every port that was opened and is not the current one was closed. -/
def Released (l : Link α) : Prop := ∀ p < l.opened, l.port ≠ some p → p ∈ l.closed

/-- The current port was opened, and so was every port that was closed. -/
structure Counted (l : Link α) : Prop where
  port_lt : ∀ p, l.port = some p → p < l.opened
  closed_lt : ∀ p ∈ l.closed, p < l.opened

lemma close_writesTo (h : l.writesTo = l.port) : l.close.writesTo = none := by
  rw [close]
  split
  · rename_i hnone
    rw [h, hnone]
  · rfl

/-- Closing adds the current port to the ports that were closed. -/
lemma mem_close_closed (l : Link α) (p : ℕ) :
    p ∈ l.close.closed ↔ l.port = some p ∨ p ∈ l.closed := by
  rw [close]
  split
  · rename_i hnone
    simp [hnone]
  · rename_i q hq
    simp [hq, eq_comm]

lemma Released.close (h : Released l) : Released l.close := by
  intro p hp _
  rw [close_opened] at hp
  rw [mem_close_closed]
  by_cases hport : l.port = some p
  · exact Or.inl hport
  · exact Or.inr (h p hp hport)

lemma Counted.close (h : Counted l) : Counted l.close := by
  constructor
  · intro p hp
    exact absurd hp (by simp [close_port])
  · intro p hp
    rw [close_opened]
    rcases (l.mem_close_closed p).mp hp with hport | hclosed
    · exact h.port_lt p hport
    · exact h.closed_lt p hclosed

variable [DecidableEq α]

/-- A tick changes the queue, and it may close the port. -/
lemma tick_cases (l : Link α) (stops : α → Bool) :
    ∃ queue, l.tick stops = { l with queue := queue }.close ∨
      l.tick stops = { l with queue := queue } := by
  rw [tick]
  split_ifs
  · exact ⟨_, Or.inl rfl⟩
  · exact ⟨_, Or.inr rfl⟩

/-- The sender writes to the current port all along. -/
theorem Step.writesTo (h : Step l r l') (hw : l.writesTo = l.port) : l'.writesTo = l'.port := by
  cases h with
  | stays => exact hw
  | refuses => rfl
  | drops => rfl
  | opens => rfl
  | closes => rw [close_writesTo hw, close_port]
  | ticks stops =>
      obtain ⟨queue, hclose | hkeep⟩ := l.tick_cases stops
      · rw [hclose, close_port]
        exact close_writesTo (l := { l with queue := queue }) hw
      · rw [hkeep]
        exact hw
  | picks => exact hw
  | delivers => exact hw
  | fails => exact hw
  | ends => exact hw

theorem Step.counted (h : Step l r l') (hc : Counted l) : Counted l' := by
  cases h with
  | stays => exact hc
  | refuses =>
      refine ⟨?_, hc.closed_lt⟩
      intro p hp
      exact absurd hp (by simp)
  | drops =>
      constructor
      · intro p hp
        exact absurd hp (by simp)
      · intro p hp
        exact Nat.lt_succ_of_lt (hc.closed_lt p hp)
  | opens =>
      constructor
      · intro p hp
        exact (Option.some.inj hp).symm ▸ Nat.lt_succ_self l.opened
      · intro p hp
        exact Nat.lt_succ_of_lt (hc.closed_lt p hp)
  | closes => exact hc.close
  | ticks stops =>
      obtain ⟨queue, hclose | hkeep⟩ := l.tick_cases stops
      · rw [hclose]
        exact Counted.close (l := { l with queue := queue }) ⟨hc.port_lt, hc.closed_lt⟩
      · rw [hkeep]
        exact ⟨hc.port_lt, hc.closed_lt⟩
  | picks => exact ⟨hc.port_lt, hc.closed_lt⟩
  | delivers => exact ⟨hc.port_lt, hc.closed_lt⟩
  | fails => exact ⟨hc.port_lt, hc.closed_lt⟩
  | ends => exact ⟨hc.port_lt, hc.closed_lt⟩

/-- A step loses a port exactly if it opens one that does not become the current one. -/
theorem Step.released_iff (h : Step l r l') (hc : Counted l) (hr : Released l) :
    Released l' ↔ ¬ (l.opened < l'.opened ∧ l'.port = none) := by
  have hquiet : Released l' → l'.opened = l.opened →
      (Released l' ↔ ¬ (l.opened < l'.opened ∧ l'.port = none)) := by
    intro hr' hopened
    refine iff_of_true hr' ?_
    rintro ⟨hlt, -⟩
    omega
  cases h with
  | stays => exact hquiet hr rfl
  | refuses hnone =>
      refine hquiet ?_ rfl
      intro p hp _
      exact hr p hp (by simp [hnone])
  | drops =>
      -- the number of the dropped port is new, so nothing closed it
      refine iff_of_false ?_ (not_not.mpr ⟨Nat.lt_succ_self l.opened, rfl⟩)
      intro hr'
      exact Nat.lt_irrefl _ (hc.closed_lt _ (hr' l.opened (Nat.lt_succ_self l.opened) (by simp)))
  | opens hnone =>
      refine iff_of_true ?_ ?_
      · intro p hp hne
        have hother : p ≠ l.opened := fun heq => hne (congrArg some heq.symm)
        exact hr p (by simp only at hp; omega) (by simp [hnone])
      · rintro ⟨-, hport⟩
        exact absurd hport (by simp)
  | closes => exact hquiet hr.close (close_opened l)
  | ticks stops =>
      refine hquiet ?_ (tick_opened l)
      obtain ⟨queue, hclose | hkeep⟩ := l.tick_cases stops
      · rw [hclose]
        exact Released.close (l := { l with queue := queue }) hr
      · rw [hkeep]
        exact hr
  | picks => exact hquiet hr rfl
  | delivers => exact hquiet hr rfl
  | fails => exact hquiet hr rfl
  | ends => exact hquiet hr rfl

end Link

namespace EgseGuiApp

variable {P : Type}

/-- The text fields of the sender are numbers. -/
def SenderFields (self : EgseGuiApp) : Prop :=
  ∃ spacecraftId virtualChannelId apid, intOfText self.scidVar = .ok spacecraftId ∧
    intOfText self.vcidVar = .ok virtualChannelId ∧ intOfText self.tcApidVar = .ok apid

/-- `_connect` opens a port while a text field of the sender is no number, or the baud rate
is one that cannot be written. -/
def Drops (self : EgseGuiApp) : Event P → Prop
  | .connect answer => self.serialPort = none ∧
      ∃ baudrate, intOfText (strip self.baudVar) = .ok baudrate ∧
        answer (strip self.portVar) baudrate = .ok () ∧
        ¬ (self.SenderFields ∧ Writable baudrate)
  | _ => False

/-- There is a sender if and only if there is a port, which it writes to, and every other
port that was opened was closed. -/
def ConnectionInOrder (self : EgseGuiApp) : Prop :=
  (self.serialPort = none ↔ self.sender = none) ∧
    (∀ serialPort sender, self.serialPort = some serialPort → self.sender = some sender →
      sender.serialPort = serialPort) ∧
    ∀ p < self.serial.opened, self.serialPort ≠ some p → p ∈ self.serial.closed

lemma connectionInOrder_iff (self : EgseGuiApp) :
    self.ConnectionInOrder ↔ self.link.writesTo = self.link.port ∧ Link.Released self.link := by
  have hlink : self.link.writesTo = self.sender.map TcCommandSender.serialPort := rfl
  have hport : self.link.port = self.serialPort := rfl
  rw [hlink, hport]
  cases hserial : self.serialPort with
  | none =>
      constructor
      · rintro ⟨hboth, -, hreleased⟩
        rw [hboth.mp hserial]
        exact ⟨rfl, hreleased⟩
      · rintro ⟨hwrites, hreleased⟩
        have hsender : self.sender = none := Option.map_eq_none_iff.mp hwrites
        refine ⟨by simp [hserial, hsender], ?_, hreleased⟩
        intro serialPort sender hsome
        exact absurd (hserial.symm.trans hsome) (by simp)
  | some serialPort =>
      constructor
      · rintro ⟨hboth, hwrites, hreleased⟩
        obtain ⟨sender, hsender⟩ : ∃ sender, self.sender = some sender := by
          refine Option.ne_none_iff_exists'.mp ?_
          intro hnone
          exact absurd (hserial.symm.trans (hboth.mpr hnone)) (by simp)
        rw [hsender, Option.map_some, hwrites serialPort sender hserial hsender]
        exact ⟨rfl, hreleased⟩
      · rintro ⟨hwrites, hreleased⟩
        obtain ⟨sender, hsender, hsame⟩ := Option.map_eq_some_iff.mp hwrites
        refine ⟨by simp [hserial, hsender], ?_, hreleased⟩
        intro serialPort' sender' hserial' hsender'
        obtain rfl := Option.some.inj (hserial.symm.trans hserial')
        obtain rfl := Option.some.inj (hsender.symm.trans hsender')
        exact hsame

lemma exists_newSender_iff (self : EgseGuiApp) (serialPort : PortId) :
    (∃ sender, self.newSender serialPort = .ok sender) ↔ self.SenderFields := by
  constructor
  · rintro ⟨sender, h⟩
    obtain ⟨spacecraftId, h₁, h⟩ := bind_eq_ok.mp h
    obtain ⟨virtualChannelId, h₂, h⟩ := bind_eq_ok.mp h
    obtain ⟨apid, h₃, -⟩ := bind_eq_ok.mp h
    exact ⟨spacecraftId, virtualChannelId, apid, h₁, h₂, h₃⟩
  · rintro ⟨spacecraftId, virtualChannelId, apid, h₁, h₂, h₃⟩
    exact ⟨_, bind_eq_ok.mpr ⟨spacecraftId, h₁, bind_eq_ok.mpr ⟨virtualChannelId, h₂,
      bind_eq_ok.mpr ⟨apid, h₃, rfl⟩⟩⟩⟩

lemma opened_connectFailed (self : EgseGuiApp) (e : PyError) :
    (self.connectFailed e).2.link.opened = self.link.opened := by
  cases e <;> rfl

/-- `_connect` opens a port that does not become the current one exactly if it drops it. -/
lemma connect_drops_iff (self : EgseGuiApp) (answer : String → ℤ → Except PyError Unit) :
    (self.link.opened < (self.connect answer).2.link.opened ∧
      (self.connect answer).2.link.port = none) ↔ self.Drops (.connect answer : Event P) := by
  rw [connect]
  by_cases hport : self.serialPort = none
  · rw [if_neg (not_not.mpr hport)]
    cases hbaud : intOfText (strip self.baudVar) with
    | error e =>
        refine iff_of_false ?_ ?_
        · rintro ⟨hlt, -⟩
          exact absurd hlt (by simp [opened_connectFailed])
        · rintro ⟨-, baudrate, hok, -⟩
          exact absurd (hbaud.symm.trans hok) (by simp)
    | ok baudrate =>
        simp only
        cases hanswer : answer (strip self.portVar) baudrate with
        | error e =>
            refine iff_of_false ?_ ?_
            · rintro ⟨hlt, -⟩
              exact absurd hlt (by simp [opened_connectFailed])
            · rintro ⟨-, baudrate', hok, hopened, -⟩
              obtain rfl := Except.ok.inj (hbaud.symm.trans hok)
              exact absurd (hanswer.symm.trans hopened) (by simp)
        | ok =>
            -- the port is open, and a failure from here on drops it
            have hnew := exists_newSender_iff { self with
                serialPort := some self.serial.opened
                serial := { self.serial with opened := self.serial.opened + 1 } }
              self.serial.opened
            rcases newSender_cases { self with
                serialPort := some self.serial.opened
                serial := { self.serial with opened := self.serial.opened + 1 } }
              self.serial.opened with ⟨sender, hsender, -⟩ | ⟨msg, hsender⟩
            · have hfields : self.SenderFields := hnew.mp ⟨sender, hsender⟩
              simp only [hsender]
              by_cases hwritable : Writable baudrate
              · rw [strOfInt_of_writable hwritable]
                refine iff_of_false ?_ ?_
                · rintro ⟨-, hnone⟩
                  exact absurd hnone (by simp [link])
                · rintro ⟨-, baudrate', hok, -, hdrops⟩
                  obtain rfl := Except.ok.inj (hbaud.symm.trans hok)
                  exact hdrops ⟨hfields, hwritable⟩
              · obtain ⟨msg, hmsg⟩ := strOfInt_of_not_writable hwritable
                rw [hmsg]
                exact iff_of_true ⟨Nat.lt_succ_self self.serial.opened, rfl⟩
                  ⟨hport, baudrate, hbaud, hanswer, fun h => hwritable h.2⟩
            · have hfields : ¬ self.SenderFields := by
                intro hfields
                obtain ⟨sender, hok⟩ := hnew.mpr hfields
                exact absurd (hsender.symm.trans hok) (by simp)
              simp only [hsender]
              exact iff_of_true ⟨Nat.lt_succ_self self.serial.opened, rfl⟩
                ⟨hport, baudrate, hbaud, hanswer, fun h => hfields h.1⟩
  · rw [if_pos hport]
    refine iff_of_false ?_ ?_
    · rintro ⟨hlt, -⟩
      exact Nat.lt_irrefl _ hlt
    · rintro ⟨hnone, -⟩
      exact hport hnone

/-- An event opens a port that does not become the current one exactly if it drops it. -/
theorem drops_iff [SerialLike P] (self : EgseGuiApp) (e : Event P) :
    (self.link.opened < (self.step e).link.opened ∧ (self.step e).link.port = none) ↔
      self.Drops e := by
  have hquiet : (self.step e).link.opened = self.link.opened → ¬ self.Drops e →
      ((self.link.opened < (self.step e).link.opened ∧ (self.step e).link.port = none) ↔
        self.Drops e) := by
    intro hopened hnot
    refine iff_of_false ?_ hnot
    rintro ⟨hlt, -⟩
    omega
  cases e with
  | connect answer => exact self.connect_drops_iff answer
  | disconnect =>
      refine hquiet ?_ not_false
      rw [step, link_disconnect, Link.close_opened]
  | rxPick =>
      refine hquiet ?_ not_false
      exact rxPick_frame (f := fun self => self.link.opened) (fun _ _ => rfl) self
  | rxPoll port =>
      refine hquiet ?_ not_false
      exact rxPoll_frame (f := fun self => self.link.opened) (fun _ _ _ _ => rfl) self port
  | fire id =>
      refine hquiet ?_ not_false
      rw [step, link_fire]
      split_ifs
      · exact Link.tick_opened _
      · rfl
  | injectSimulatedTelemetry =>
      exact hquiet (congrArg Link.opened self.link_injectSimulatedTelemetry) not_false
  | clearTelemetryData => exact hquiet rfl not_false
  | toggleAutoSimulation =>
      exact hquiet (congrArg Link.opened self.link_toggleAutoSimulation) not_false
  | toggleSimFrequency =>
      exact hquiet (congrArg Link.opened self.link_toggleSimFrequency) not_false
  | edit field text => exact hquiet (congrArg Link.opened (self.link_setText field text)) not_false

/-! ### Whole runs -/

/-- An event keeps the connection in order exactly if it drops no port. -/
theorem connectionInOrder_step [SerialLike P] {self : EgseGuiApp}
    (hcounted : Link.Counted self.link) (horder : self.ConnectionInOrder) (e : Event P) :
    Link.Counted (self.step e).link ∧ ((self.step e).ConnectionInOrder ↔ ¬ self.Drops e) := by
  have hstep := self.link_step e
  obtain ⟨hwrites, hreleased⟩ := self.connectionInOrder_iff.mp horder
  refine ⟨hstep.counted hcounted, ?_⟩
  rw [connectionInOrder_iff, hstep.released_iff hcounted hreleased, self.drops_iff e]
  exact and_iff_right (hstep.writesTo hwrites)

lemma counted_init : Link.Counted init.link :=
  ⟨fun _ hp => (nomatch hp), fun _ hp => (nomatch hp)⟩

lemma connectionInOrder_init : init.ConnectionInOrder :=
  ⟨by decide, fun _ _ hp => (nomatch hp), fun _ hp => (nomatch hp)⟩

/-- **When no port is left open.**  In all the states of a run there is a sender exactly if
there is a port, it writes to that port, and every other port that was opened was closed,
if and only if no `_connect` of the run opens a port while the text of the spacecraft, of
the virtual channel or of the APID is no number, or the baud rate has too many decimal digits
to be written. -/
theorem connections_iff [SerialLike P] (events : List (Event P)) :
    (∀ past, past <+: events → (run step init past).ConnectionInOrder) ↔
      Along step (fun self e => ¬ self.Drops e) init events := by
  have hstep : ∀ (self : EgseGuiApp) (e : Event P), Link.Counted self.link →
      self.ConnectionInOrder → Link.Counted (self.step e).link ∧
        ((self.step e).ConnectionInOrder ↔ ¬ self.Drops e) :=
    fun _ e hcounted horder => connectionInOrder_step hcounted horder e
  exact Along.states_iff_of_step hstep counted_init connectionInOrder_init

/-- The spacecraft is no number when the port is opened. -/
def leakingRun : List (Event PortAnswer) := [.edit .scid "x", .connect fun _ _ => .ok ()]

/-- The port stays open for good: it is not the current one, and was not closed. -/
theorem connections_leakingRun :
    (run step init leakingRun).serial = ⟨1, []⟩ ∧ (run step init leakingRun).serialPort = none ∧
      ¬ (run step init leakingRun).ConnectionInOrder := by
  have hleaks : (run step init leakingRun).serial = ⟨1, []⟩ ∧
      (run step init leakingRun).serialPort = none := by decide
  refine ⟨hleaks.1, hleaks.2, ?_⟩
  rintro ⟨-, -, hreleased⟩
  rw [hleaks.1, hleaks.2] at hreleased
  exact absurd (hreleased 0 (by simp) (by simp)) (by simp)

/-- It does so as well when all fields are numbers and the baud rate is too long. -/
theorem exists_leak_of_numbers : ∃ text : String, (init.setText text .baud).SenderFields ∧
    ∃ baudrate, intOfText text = .ok baudrate ∧
      ¬ (run step init [.edit .baud text, (.connect fun _ _ => .ok () : Event PortAnswer)]
          ).ConnectionInOrder := by
  obtain ⟨text, baudrate, hstrip, hbaud, hnot⟩ := exists_not_writable
  have hdrops : (init.setText text .baud).Drops
      (.connect fun _ _ => .ok () : Event PortAnswer) := by
    refine ⟨rfl, baudrate, ?_, rfl, fun h => hnot h.2⟩
    show intOfText (strip text) = .ok baudrate
    rw [hstrip, hbaud]
  have hfields : init.SenderFields := ⟨1, 0, 100, by decide, by decide, by decide⟩
  refine ⟨text, hfields, baudrate, hbaud, ?_⟩
  intro horder
  have hedit := connectionInOrder_step counted_init connectionInOrder_init
    (.edit .baud text : Event PortAnswer)
  have hconnect := connectionInOrder_step hedit.1 (hedit.2.mpr not_false)
    (.connect fun _ _ => .ok () : Event PortAnswer)
  exact hconnect.2.mp horder hdrops

end EgseGuiApp

end OpenSpaceEgse
