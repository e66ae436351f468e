import OpenSpaceEgse.Ccsds.Delivery
import OpenSpaceEgse.Gui.Console

/-!
# From the panel to the line

The window connects and disconnects, and a port may fail at any time: every connection has
a sender of its own, with counters of its own.  `uplink` says what this means for the
spacecraft at the end of one port: it receives exactly the commands that were reported as
sent on that port, numbered without a gap from zero, whatever else happened in the window.

A write that transmits only a part of its bytes is the matter of `PartialWrite`; here it
transmits all of them and returns normally, or none and does not report success.  A write that
transmits everything and then raises would deliver a command that is not reported as sent.
-/

namespace OpenSpaceEgse

open Machine Wire

/-- A write transmits everything and returns `None` or the number of its bytes; or it transmits
nothing, and raises or returns another number. -/
def WholeWrite (answer : WriteAnswer) : Prop :=
  ∀ data : Bytes,
    data.length ≤ (answer data).1 ∧
        ((answer data).2 = .ok none ∨ (answer data).2 = .ok (some data.length)) ∨
      (answer data).1 = 0 ∧ ∀ n, (answer data).2 = .ok n → n.getD data.length ≠ data.length

def ConsoleEvent.Whole {P : Type} : ConsoleEvent P → Prop
  | .sendTc answer => WholeWrite answer
  | _ => True

/-- Commands in a row, numbered from zero by one sender. -/
def Chained (config : TcSendConfig) (sents : List SentTcCommand) : Prop :=
  ∀ (i : ℕ) (sent : SentTcCommand), sents[i]? = some sent → ∃ command parameter,
    sent.For config (i % 2 ^ 14) (i % 2 ^ 8) command parameter

lemma chained_nil (config : TcSendConfig) : Chained config [] := by
  intro i sent h
  exact absurd h (by simp)

lemma Chained.concat {config : TcSendConfig} {sents : List SentTcCommand} (h : Chained config sents)
    {sent : SentTcCommand} {command : TcCommandArg} {parameter : Option ℤ}
    (hsent : sent.For config (sents.length % 2 ^ 14) (sents.length % 2 ^ 8) command parameter) :
    Chained config (sents ++ [sent]) := by
  intro i sent' hi
  rcases Nat.lt_trichotomy i sents.length with hlt | rfl | hgt
  · rw [List.getElem?_append_left hlt] at hi
    exact h i sent' hi
  · rw [List.getElem?_concat_length] at hi
    exact ⟨command, parameter, Option.some.inj hi ▸ hsent⟩
  · rw [List.getElem?_eq_none (by simp; omega)] at hi
    exact absurd hi (by simp)

/-- A fresh receiver decodes the commands of a sender, one packet each. -/
lemma packets_of_chained {config : TcSendConfig} {sents : List SentTcCommand}
    (h : Chained config sents) :
    SdlpSpacePacketReceiver.init.packets (sents.flatMap fun sent => sent.uartBytes) =
      sents.map fun sent => ⟨.tc, sent.spacePacket⟩ := by
  have hfor : ∀ sent ∈ sents, ∃ p f command parameter, sent.For config p f command parameter := by
    intro sent hsent
    obtain ⟨i, hi⟩ := List.mem_iff_getElem?.mp hsent
    obtain ⟨command, parameter, hfor⟩ := h i sent hi
    exact ⟨_, _, command, parameter, hfor⟩
  have hbytes : sents.flatMap (fun sent => sent.uartBytes) =
      (sents.map fun sent => SdlpFrame.tc sent.tcTransferFrame).flatMap
        fun f => slipEncode f.envelope := by
    rw [List.flatMap_map]
    refine List.flatMap_congr fun sent hsent => ?_
    obtain ⟨p, f, command, parameter, hfor⟩ := hfor sent hsent
    exact hfor.uartBytes_eq
  have hfits : ∀ f ∈ sents.map fun sent => SdlpFrame.tc sent.tcTransferFrame,
      f.encode.length ≤ 0xFFFF := by
    intro f hf
    obtain ⟨sent, -, rfl⟩ := List.mem_map.mp hf
    exact SdlpFrame.length_encode_tc _
  have hemitted := SdlpUartStreamParser.emitted_serialized _ hfits
  rw [← hbytes, List.map_map] at hemitted
  rw [SdlpSpacePacketReceiver.packets]
  show (SdlpUartStreamParser.init.emitted _).flatMap _ = _
  rw [hemitted, List.flatMap_map]
  refine flatMap_eq_map fun sent hsent => ?_
  obtain ⟨p, f, command, parameter, hfor⟩ := hfor sent hsent
  exact SdlpSpacePacketReceiver.packetsOfFrame_tc hfor.frameData_eq

namespace EgseGuiApp

variable {P : Type} [SerialLike P]

/-! ### What becomes of the sender -/

/-- The sender stays, or the port is gone. -/
structure KeepsSender (app app' : EgseGuiApp) : Prop where
  sender : app'.sender = app.sender ∨ app'.sender = none
  opened : app.serial.opened ≤ app'.serial.opened

lemma KeepsSender.of_eq {app app' : EgseGuiApp}
    (h : (app'.sender, app'.serial) = (app.sender, app.serial)) : KeepsSender app app' := by
  obtain ⟨hsender, hserial⟩ := Prod.mk.inj h
  exact ⟨Or.inl hsender, hserial ▸ Nat.le_refl _⟩

lemma keepsSender_disconnect (self : EgseGuiApp) : KeepsSender self self.disconnect := by
  rw [disconnect]
  split
  · exact .of_eq rfl
  · exact ⟨Or.inr rfl, Nat.le_refl _⟩

lemma keepsSender_processItems (self : EgseGuiApp) (items : List (Option DecodedSpacePacket)) :
    KeepsSender self (self.processItems items).2 := by
  induction items generalizing self with
  | nil => exact .of_eq rfl
  | cons item items ih =>
      cases item with
      | none =>
          have hdisconnect := keepsSender_disconnect { self with rxQueue := items }
          exact ⟨hdisconnect.sender, hdisconnect.opened⟩
      | some item =>
          rw [processItems]
          rcases handleDecodedPacket_cases { self with rxQueue := items } item with
            ⟨-, h⟩ | ⟨-, msg, h⟩
          · have hitem : ((afterPacket { self with rxQueue := items } item).sender,
                (afterPacket { self with rxQueue := items } item).serial) =
                  (self.sender, self.serial) :=
              foldl_afterPacket (f := fun self => (self.sender, self.serial)) (fun _ _ => rfl)
                { self with rxQueue := items } [item]
            obtain ⟨hsender, hserial⟩ := Prod.mk.inj hitem
            obtain ⟨hkept, hopened⟩ := ih (afterPacket { self with rxQueue := items } item)
            rw [hsender] at hkept
            rw [hserial] at hopened
            rw [h]
            exact ⟨hkept, hopened⟩
          · rw [h]
            exact .of_eq rfl

lemma keepsSender_processRxQueue (self : EgseGuiApp) :
    KeepsSender self self.processRxQueue.2 := by
  have hprocess := keepsSender_processItems self self.rxQueue
  have hsame := processRxQueue_frame (f := fun self => (self.sender, self.serial))
    (fun _ _ => rfl) self
  obtain ⟨hsender, hserial⟩ := Prod.mk.inj hsame
  refine ⟨?_, ?_⟩
  · rw [hsender]
    exact hprocess.sender
  · rw [hserial]
    exact hprocess.opened

/-- What connecting makes of the sender: a new one has counters of its own. -/
lemma sender_connect (self : EgseGuiApp) (answer : String → ℤ → Except PyError Unit) :
    KeepsSender self (self.connect answer).2 ∨
      ∃ sender, (self.connect answer).2.sender = some sender ∧
        sender.serialPort = self.serial.opened ∧ sender.packetSequenceCount = 0 ∧
        sender.frameSequenceNumber = 0 ∧
        (self.connect answer).2.serial.opened = self.serial.opened + 1 := by
  have hfailed : ∀ (app : EgseGuiApp) (e : PyError), app.sender = self.sender →
      self.serial.opened ≤ app.serial.opened → KeepsSender self (app.connectFailed e).2 := by
    intro app e hsender hopened
    cases e with
    | valueError msg => exact ⟨Or.inr rfl, hopened⟩
    | serialException msg => exact ⟨Or.inr rfl, hopened⟩
    | typeError msg => exact ⟨Or.inl hsender, hopened⟩
    | assertionError msg => exact ⟨Or.inl hsender, hopened⟩
    | osError msg => exact ⟨Or.inl hsender, hopened⟩
  rw [connect]
  split_ifs with hport
  · exact Or.inl (.of_eq rfl)
  · split
    · exact Or.inl (hfailed self _ rfl (Nat.le_refl _))
    · split
      · exact Or.inl (hfailed self _ rfl (Nat.le_refl _))
      · dsimp only
        split
        · exact Or.inl (hfailed _ _ rfl (Nat.le_succ _))
        · rename_i sender hsender
          obtain ⟨spacecraftId, -, hrest⟩ := bind_eq_ok.mp hsender
          obtain ⟨virtualChannelId, -, hrest⟩ := bind_eq_ok.mp hrest
          obtain ⟨apid, -, hnew⟩ := bind_eq_ok.mp hrest
          obtain ⟨hserial, -, hp, hf⟩ := TcCommandSender.new_eq_ok hnew
          split
          · rename_i hstr
            obtain ⟨msg, rfl⟩ := strOfInt_raises _ _ hstr
            exact Or.inl ⟨Or.inr rfl, Nat.le_succ _⟩
          · exact Or.inr ⟨sender, rfl, hserial, by exact_mod_cast hp, by exact_mod_cast hf, rfl⟩

/-- Every other event keeps the sender, or drops it. -/
lemma keepsSender_step (self : EgseGuiApp) (e : Event P) (he : ∀ answer, e ≠ .connect answer) :
    KeepsSender self (self.step e) := by
  cases e with
  | connect answer => exact absurd rfl (he answer)
  | disconnect => exact self.keepsSender_disconnect
  | rxPick =>
      exact .of_eq (rxPick_frame (f := fun self => (self.sender, self.serial))
        (fun _ _ => rfl) self)
  | rxPoll port =>
      exact .of_eq (rxPoll_frame (f := fun self => (self.sender, self.serial))
        (fun _ _ _ _ => rfl) self port)
  | fire id =>
      rw [step, fire]
      cases self.callback id with
      | none => exact .of_eq rfl
      | some callback =>
          cases callback with
          | processRxQueue =>
              have hprocess := keepsSender_processRxQueue
                { self with root := self.root.afterCancel id }
              exact ⟨hprocess.sender, hprocess.opened⟩
          | runAutoSimulationStep =>
              have hframe := runAutoSimulationStep_frame
                (f := fun self => (self.sender, self.serial)) (by intros; rfl)
                { self with root := self.root.afterCancel id }
              exact .of_eq hframe
  | injectSimulatedTelemetry =>
      rw [step]
      exact .of_eq (inject_frame (f := fun self => (self.sender, self.serial))
        (by intros; rfl) self)
  | clearTelemetryData => exact .of_eq rfl
  | toggleAutoSimulation =>
      rw [step]
      exact .of_eq (toggleAutoSimulation_frame (f := fun self => (self.sender, self.serial))
        (by intros; rfl) self)
  | toggleSimFrequency =>
      rw [step]
      exact .of_eq (toggleSimFrequency_frame (f := fun self => (self.sender, self.serial))
        (by intros; rfl) self)
  | edit field text => cases field <;> exact .of_eq rfl

end EgseGuiApp

namespace Console

variable {P : Type} [SerialLike P]

/-! ### What goes out on one port -/

/-- The command that an event reports as sent on the port `p`. -/
def sendsOn (p : PortId) (self : Console) : ConsoleEvent P → List SentTcCommand
  | .sendTc answer =>
      match self.destroyed, self.app.sender, (self.sendTc answer).1 with
      | false, some sender, .ok (.sent sent) => if sender.serialPort = p then [sent] else []
      | _, _, _ => []
  | _ => []

/-- The bytes that an event transmits on the port `p`. -/
def transmitsOn (p : PortId) (self : Console) : ConsoleEvent P → Bytes
  | .sendTc answer =>
      match self.destroyed, self.app.sender with
      | false, some sender => if sender.serialPort = p then (self.sendTc answer).2.2 else []
      | _, _ => []
  | _ => []

/-- What the port `p` has to do with the application, when the commands `past` have been sent
on it.  Only the last port that was opened can have a sender, and one that is not yet open has
sent nothing. -/
structure Uplinked (p : PortId) (app : EgseGuiApp) (past : List SentTcCommand) : Prop where
  numbered : ∃ config, Chained config past ∧
    ∀ sender, app.sender = some sender → sender.serialPort = p →
      sender.config = config ∧ sender.packetSequenceCount = past.length % 2 ^ 14 ∧
        sender.frameSequenceNumber = past.length % 2 ^ 8
  opened : ∀ sender, app.sender = some sender → sender.serialPort < app.serial.opened
  unopened : app.serial.opened ≤ p → past = []

section Uplinked

variable {p : PortId} {app app' : EgseGuiApp} {past : List SentTcCommand}

lemma uplinked_init : Uplinked p EgseGuiApp.init [] where
  numbered :=
    ⟨⟨0, 0, 0, false, none⟩, chained_nil _, fun _ h => absurd h (by simp [EgseGuiApp.init])⟩
  opened := fun _ h => absurd h (by simp [EgseGuiApp.init])
  unopened := fun _ => rfl

lemma Uplinked.keep (h : Uplinked p app past) (hkeeps : app.KeepsSender app') :
    Uplinked p app' past := by
  have hsender : ∀ sender, app'.sender = some sender → app.sender = some sender := by
    intro sender hsome
    rcases hkeeps.sender with hsame | hnone
    · rwa [← hsame]
    · exact absurd (hnone.symm.trans hsome) (by simp)
  obtain ⟨config, hchained, hcounters⟩ := h.numbered
  exact
    { numbered := ⟨config, hchained, fun sender hsome => hcounters sender (hsender sender hsome)⟩
      opened := fun sender hsome => (h.opened sender (hsender sender hsome)).trans_le hkeeps.opened
      unopened := fun hle => h.unopened (hkeeps.opened.trans hle) }

/-- A new sender is at a port on which nothing has been sent. -/
lemma Uplinked.connect (h : Uplinked p app past) (answer : String → ℤ → Except PyError Unit) :
    Uplinked p (app.connect answer).2 past := by
  rcases app.sender_connect answer with hkeeps | ⟨new, hnew, hport, hp, hf, hopened⟩
  · exact h.keep hkeeps
  · have hsender : ∀ sender, (app.connect answer).2.sender = some sender → sender = new :=
      fun sender hsome => (Option.some.inj (hnew.symm.trans hsome)).symm
    refine { numbered := ?_, opened := ?_, unopened := ?_ }
    · by_cases hthis : app.serial.opened = p
      · obtain rfl := h.unopened hthis.le
        refine ⟨new.config, chained_nil _, fun sender hsome _ => ?_⟩
        obtain rfl := hsender sender hsome
        exact ⟨rfl, hp, hf⟩
      · obtain ⟨config, hchained, -⟩ := h.numbered
        refine ⟨config, hchained, fun sender hsome hsame => ?_⟩
        obtain rfl := hsender sender hsome
        exact absurd (hport.symm.trans hsame) hthis
    · intro sender hsome
      obtain rfl := hsender sender hsome
      rw [hport, hopened]
      exact Nat.lt_succ_self _
    · intro hle
      rw [hopened] at hle
      exact h.unopened ((Nat.le_succ _).trans hle)

/-- A command that is sent carries the next numbers of its port. -/
lemma Uplinked.sent (h : Uplinked p app past) {sender : TcCommandSender PortId}
    (hsender : app.sender = some sender) {command : TcCommandArg} {parameter : Option ℤ}
    (sent : SentTcCommand)
    (hprepare : sender.prepare command parameter = .ok sent.toPreparedTcCommand) :
    Uplinked p { app with sender := some sender.incrementCounters }
      (past ++ if sender.serialPort = p then [sent] else []) := by
  have hfor := TcCommandSender.prepare_eq_ok hprepare
  obtain ⟨config, hchained, hcounters⟩ := h.numbered
  have hopened := h.opened sender hsender
  by_cases hport : sender.serialPort = p
  · obtain ⟨hconfig, hp, hf⟩ := hcounters sender hsender hport
    rw [hconfig, hp, hf] at hfor
    rw [if_pos hport]
    -- the counters are those of the number of commands sent on this port
    refine { numbered := ⟨config, hchained.concat hfor, ?_⟩, opened := ?_, unopened := ?_ }
    · rintro sender' hsome -
      obtain rfl := Option.some.inj hsome
      refine ⟨hconfig, ?_, ?_⟩
      · rw [TcCommandSender.packetSequenceCount_increment, hp, List.length_append, Nat.mod_add_mod]
        rfl
      · rw [TcCommandSender.frameSequenceNumber_increment, hf, List.length_append, Nat.mod_add_mod]
        rfl
    · rintro sender' hsome
      obtain rfl := Option.some.inj hsome
      exact hopened
    · intro hle
      exact absurd (hport ▸ hopened) (Nat.not_lt.mpr hle)
  · -- the sender of an older port has nothing to do with this one
    rw [if_neg hport, List.append_nil]
    refine { numbered := ⟨config, hchained, ?_⟩, opened := ?_, unopened := h.unopened }
    · rintro sender' hsome hthis
      obtain rfl := Option.some.inj hsome
      exact absurd hthis hport
    · rintro sender' hsome
      obtain rfl := Option.some.inj hsome
      exact hopened

end Uplinked

section Step

variable {p : PortId} {self : Console} {past : List SentTcCommand}

/-- Every other event of the application keeps the sender, or drops it. -/
lemma keepsSender_appStep (self : Console) (event : Event P)
    (hevent : ∀ answer, event ≠ .connect answer) :
    ∃ app, self.appStep event = { self with app := app } ∧ self.app.KeepsSender app := by
  have hother : ∃ app, (if self.destroyed then self
      else { self with app := self.app.step event }) = { self with app := app } ∧
        self.app.KeepsSender app := by
    split_ifs
    · exact ⟨self.app, rfl, .of_eq rfl⟩
    · exact ⟨_, rfl, self.app.keepsSender_step event hevent⟩
  cases event with
  | rxPick =>
      rw [appStep, rxPick]
      split_ifs
      · split
        · exact ⟨_, rfl, .of_eq rfl⟩
        · exact ⟨self.app, rfl, .of_eq rfl⟩
      · exact ⟨_, rfl, self.app.keepsSender_step (P := P) .rxPick (by simp)⟩
  | rxPoll port =>
      rw [appStep, rxPoll]
      split
      · exact ⟨_, rfl, .of_eq rfl⟩
      · exact ⟨_, rfl, self.app.keepsSender_step (.rxPoll port) (by simp)⟩
  | connect answer => exact absurd rfl (hevent answer)
  | _ => exact hother

lemma keepsSender_onClose (self : Console) : self.app.KeepsSender self.onClose.app := by
  have hstop : (self.app.stopAutoSimulation.sender, self.app.stopAutoSimulation.serial) =
      (self.app.sender, self.app.serial) := by
    rw [EgseGuiApp.stopAutoSimulation]
    split <;> rfl
  obtain ⟨hsender, hserial⟩ := Prod.mk.inj hstop
  have hdisconnect := self.app.stopAutoSimulation.keepsSender_disconnect
  exact ⟨hsender ▸ hdisconnect.sender, hserial ▸ hdisconnect.opened⟩

omit [SerialLike P] in
lemma sendsOn_eq_nil {answer : WriteAnswer}
    (h : ∀ sent, (self.sendTc answer).1 ≠ .ok (.sent sent)) :
    self.sendsOn (P := P) p (.sendTc answer) = [] := by
  rw [sendsOn]
  split
  · rename_i hsent
    exact absurd hsent (h _)
  · rfl

lemma uplinked_step (h : Uplinked p self.app past) (e : ConsoleEvent P) :
    Uplinked p (self.step e).app (past ++ self.sendsOn p e) := by
  cases e with
  | app event =>
      rw [show self.sendsOn p (.app event) = [] from rfl, List.append_nil]
      -- only a new connection replaces the sender by another one
      by_cases hconnect : ∃ answer, event = .connect answer
      · obtain ⟨answer, rfl⟩ := hconnect
        show Uplinked p (if self.destroyed then self
          else { self with app := (self.app.connect answer).2 }).app past
        split_ifs
        · exact h
        · exact h.connect answer
      · obtain ⟨app, happ, hkeeps⟩ := self.keepsSender_appStep event (not_exists.mp hconnect)
        rw [step, happ]
        exact h.keep hkeeps
  | selectCommand index =>
      rw [show self.sendsOn (P := P) p (.selectCommand index) = [] from rfl, List.append_nil, step,
        selectCommand]
      split_ifs
      · exact h
      · split
        · exact h
        · rw [app_onCommandChanged]
          exact h
  | editParameter text =>
      rw [show self.sendsOn (P := P) p (.editParameter text) = [] from rfl, List.append_nil, step,
        editParameter]
      split_ifs <;> exact h
  | sendTc answer =>
      rw [step]
      cases hdestroyed : self.destroyed with
      | true => simpa [sendsOn, hdestroyed] using h
      | false =>
          rw [if_neg Bool.false_ne_true]
          rcases self.sendTc_cases answer with ⟨hsend, hnot⟩ |
            ⟨sender, -, parameter, c, hsender, -, -, hprepare, ⟨hsend, hnot, -⟩ | ⟨hsend, -⟩⟩
          · rw [sendsOn_eq_nil hnot, hsend, List.append_nil]
            exact h
          · rw [sendsOn_eq_nil hnot, hsend, List.append_nil]
            exact h
          · have hsent := h.sent hsender { c with bytesWritten := c.uartBytes.length } hprepare
            simp only [sendsOn, hdestroyed, hsender, hsend]
            exact hsent
  | close =>
      rw [show self.sendsOn (P := P) p .close = [] from rfl, List.append_nil, step]
      split_ifs
      · exact h
      · exact h.keep self.keepsSender_onClose

omit [SerialLike P] in
/-- A port transmits the commands that are reported as sent. -/
lemma transmitsOn_eq (self : Console) {e : ConsoleEvent P} (he : e.Whole) :
    self.transmitsOn p e = (self.sendsOn p e).flatMap fun sent => sent.uartBytes := by
  cases e with
  | sendTc answer =>
      cases hdestroyed : self.destroyed with
      | true => simp [transmitsOn, sendsOn, hdestroyed]
      | false =>
          rcases self.sendTc_cases answer with ⟨hsend, hnot⟩ |
            ⟨sender, -, -, c, hsender, -, -, -, ⟨hsend, hnot, hn⟩ | ⟨hsend, n, hn, hne⟩⟩
          · rw [sendsOn_eq_nil hnot, transmitsOn, hsend]
            split
            · split_ifs <;> rfl
            · rfl
          · rcases he c.uartBytes with ⟨-, hanswer | hanswer⟩ | ⟨hnone, -⟩
            · exact absurd rfl (hn _ hanswer)
            · exact absurd rfl (hn _ hanswer)
            · rw [sendsOn_eq_nil hnot, transmitsOn, hsend, hnone]
              split
              · split_ifs <;> rfl
              · rfl
          · rcases he c.uartBytes with ⟨hall, -⟩ | ⟨-, hfails⟩
            · simp only [transmitsOn, sendsOn, hdestroyed, hsender, hsend]
              rw [List.take_of_length_le hall]
              split_ifs
              · exact (List.append_nil _).symm
              · rfl
            · exact absurd hne (hfails n hn)
  | _ => rfl

end Step

/-- **The uplink of the window.**  Whatever happens in the window, if every write transmits
all or nothing and its result says which, then what a port transmits decodes, in whatever chunks
it arrives, to exactly the commands that were reported as sent on this port, in this order; the
`i`-th of them was made from one configuration, and its packet and its frame are numbered `i`
modulo `2 ^ 14` and `2 ^ 8`. -/
theorem uplink (events : List (ConsoleEvent P)) (hwhole : ∀ e ∈ events, e.Whole) (p : PortId)
    {chunks : List Bytes} (hchunks : chunks.flatten = trace step (transmitsOn p) init events) :
    (SdlpSpacePacketReceiver.init.processChunks chunks).1 =
        .ok ((trace step (sendsOn p) init events).map fun sent => ⟨.tc, sent.spacePacket⟩) ∧
      ∃ config, ∀ (i : ℕ) (sent : SentTcCommand),
        (trace step (sendsOn p) init events)[i]? = some sent → ∃ command parameter,
          sent.For config (i % 2 ^ 14) (i % 2 ^ 8) command parameter := by
  have hstep : ∀ (self : Console) (e : ConsoleEvent P) (past : List SentTcCommand),
      Uplinked p self.app past → True → Uplinked p (self.step e).app (past ++ self.sendsOn p e) :=
    fun _ e _ h _ => uplinked_step h e
  have huplinked := trace_history hstep [] (app_init ▸ uplinked_init)
    (Along.always step init events)
  rw [List.nil_append] at huplinked
  obtain ⟨config, hchained, -⟩ := huplinked.numbered
  have hbytes : trace step (transmitsOn p) init events =
      (trace step (sendsOn p) init events).flatMap fun sent => sent.uartBytes := by
    rw [flatMap_trace]
    exact trace_congr (Along.of_mem step fun e he self => self.transmitsOn_eq (hwhole e he))
  refine ⟨?_, config, hchained⟩
  rw [SdlpSpacePacketReceiver.processChunks_eq, hchunks, hbytes, packets_of_chained hchained]

def takesAll : WriteAnswer := fun data => (data.length, .ok none)

def refuses : WriteAnswer := fun _ => (0, .error (.serialException "write failed"))

/-- The second connection sends twice; its first attempt is refused. -/
def reconnected : List (ConsoleEvent PortAnswer) :=
  [.app (.connect fun _ _ => .ok ()), .sendTc takesAll, .app .disconnect,
    .app (.connect fun _ _ => .ok ()), .sendTc refuses, .editParameter "0x1DB", .sendTc takesAll,
    .selectCommand 3, .sendTc takesAll, .close, .sendTc takesAll]

/-- The bytes of the second connection. -/
def reconnectedLine : Bytes := trace step (transmitsOn 1) init reconnected

theorem uplink_reconnected :
    (SdlpSpacePacketReceiver.init.processChunks
        [reconnectedLine.take 12, reconnectedLine.drop 12]).1 =
      .ok ((trace step (sendsOn 1) init reconnected).map fun sent => ⟨.tc, sent.spacePacket⟩) ∧
    (trace step (sendsOn 1) init reconnected).map (fun sent => (sent.parameter,
        sent.spacePacket.sequenceCount, sent.tcTransferFrame.frameSequenceNumber)) =
      [(some 0x1DB, 0, 0), (none, 1, 1)] := by
  have htakesAll : WholeWrite takesAll := fun data => Or.inl ⟨Nat.le_refl _, Or.inl rfl⟩
  have hrefuses : WholeWrite refuses := fun data => Or.inr ⟨rfl, fun n hn => by cases hn⟩
  have hwhole : ∀ e ∈ reconnected, e.Whole := by
    simp [reconnected, ConsoleEvent.Whole, htakesAll, hrefuses]
  have hchunks : [reconnectedLine.take 12, reconnectedLine.drop 12].flatten =
      trace step (transmitsOn 1) init reconnected := by
    rw [List.flatten_cons, List.flatten_singleton, List.take_append_drop]
    rfl
  exact ⟨(uplink reconnected hwhole 1 hchunks).1, by decide⟩

end Console

end OpenSpaceEgse
