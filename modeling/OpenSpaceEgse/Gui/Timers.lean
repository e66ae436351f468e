import OpenSpaceEgse.Gui.AutoSimulation
import OpenSpaceEgse.Gui.SimulatedRun
import OpenSpaceEgse.Gui.Traffic

/-!
# The two timers

Tk holds a timer for `_process_rx_queue`, and one for the automatic simulation while that
runs.  `Pace.Step` is all that an event can do to them and to the counters of the
simulation, and `pace_step` that the events do nothing else.

From it follow, for every run: `poll_timer`, the queue is looked at for ever, unless a tick
raises, and never again then; `simulation_timer`, the simulation never runs twice as fast,
and never after it was stopped; `simulated_numbered`, the frames that it sends are numbered
without a gap.
-/

namespace OpenSpaceEgse

open Machine Wire

/-- The interval of the automatic simulation for an option of the frequency. -/
def intervalMs (frequencyIndex : ℕ) : ℤ :=
  max 1 (roundHalfEven (1000 / guiSimFrequencyOptionsHz.getD frequencyIndex 0))

namespace Root

/-- The timers with a callback. -/
def pending (root : Root) (callback : Callback) : List Timer :=
  root.timers.filter (·.callback = callback)

lemma pending_after (root : Root) (delayMs : ℤ) (callback callback' : Callback) :
    (root.after delayMs callback').2.pending callback =
      if callback' = callback then root.pending callback ++ [⟨root.nextId, delayMs, callback'⟩]
      else root.pending callback := by
  rw [pending, pending, after, List.filter_append]
  split_ifs with h
  · simp [h]
  · simp [h]

lemma pending_afterCancel (root : Root) (id : ℕ) (callback : Callback) :
    (root.afterCancel id).pending callback = (root.pending callback).filter (·.id ≠ id) := by
  rw [pending, pending, afterCancel, List.filter_filter, List.filter_filter]
  congr 1
  funext t
  exact Bool.and_comm _ _

lemma mem_scheduled {root : Root} {id : ℕ} {callback : Callback} :
    id ∈ root.scheduled callback ↔ ∃ t ∈ root.pending callback, t.id = id :=
  List.mem_map

end Root

namespace Pace

/-- The counters advance if a frame was sent. -/
def count (p : Pace) (sent : Bool) : Pace := if sent then p.counted else p

@[simp] lemma count_frequencyIndex (p : Pace) (sent : Bool) :
    (p.count sent).frequencyIndex = p.frequencyIndex := by
  cases sent <;> rfl

/-- The timer of the queue fires, and its callback returns. -/
def tick (p : Pace) (id : ℕ) : Pace :=
  { p with root := ((p.root.afterCancel id).after guiUpdateIntervalMs .processRxQueue).2 }

/-- The timer of the simulation is armed for the frequency that is set. -/
def armStep (p : Pace) : Pace := p.arm (intervalMs p.frequencyIndex)

def start (p : Pace) : Pace := { p with running := true }

/-- The timer that `_auto_sim_after_id` names is cancelled. -/
def cancel (p : Pace) : Pace :=
  match p.afterId with
  | none => p
  | some id => p.afterCancel id

@[simp] lemma cancel_frequencyIndex (p : Pace) : p.cancel.frequencyIndex = p.frequencyIndex := by
  rw [cancel]
  split <;> rfl

def stop (p : Pace) : Pace := { p.cancel with running := false, afterId := none }

def retune (p : Pace) : Pace :=
  { p with frequencyIndex := (p.frequencyIndex + 1) % guiSimFrequencyOptionsHz.length }

/-- What an event can do to the timers and the counters.  The labels say whether it sent a
frame, and whether it was a tick that raised. -/
inductive Step : Pace → Bool → Bool → Pace → Prop where
  | stays (p : Pace) (sent : Bool) : Step p sent false (p.count sent)
  | ticks (p : Pace) (id : ℕ) (h : id ∈ p.root.scheduled .processRxQueue) :
      Step p false false (p.tick id)
  | breaks (p : Pace) (id : ℕ) (h : id ∈ p.root.scheduled .processRxQueue) :
      Step p false true (p.afterCancel id)
  | lapses (p : Pace) (id : ℕ) (h : id ∈ p.root.scheduled .runAutoSimulationStep) :
      Step p false false (p.afterCancel id)
  | repeats (p : Pace) (id : ℕ) (sent : Bool) (hrunning : p.running = true)
      (h : id ∈ p.root.scheduled .runAutoSimulationStep) :
      Step p sent false ((p.afterCancel id).count sent).armStep
  | starts (p : Pace) (sent : Bool) (h : p.running = false) :
      Step p sent false (p.start.count sent).armStep
  | startFails (p : Pace) (h : p.running = false) : Step p false false p.start
  | stops (p : Pace) : Step p false false p.stop
  | retunes (p : Pace) (h : p.running = false) : Step p false false p.retune
  | rearms (p : Pace) (h : p.running = true) : Step p false false p.retune.cancel.armStep

lemma Step.of_eq {p q : Pace} (h : q = p) : Step p false false q := by
  subst h
  exact .stays q false

end Pace

namespace EgseGuiApp

variable {P : Type}

/-- The stream that an injection feeds to the receiver, if it gets so far. -/
def injectedStream (self : EgseGuiApp) : Option Bytes :=
  match self.simulationFields with
  | .error _ => none
  | .ok (tmApid, spacecraftId, virtualChannelId) =>
      (self.simulatedStream tmApid spacecraftId virtualChannelId).toOption

/-- The stream that an event feeds to the receiver, if it simulates one. -/
def simulates (self : EgseGuiApp) : Event P → Option Bytes
  | .injectSimulatedTelemetry => self.injectedStream
  | .toggleAutoSimulation => if self.autoSimRunning then none else self.injectedStream
  | .fire id =>
      if self.autoSimRunning ∧ self.callback id = some .runAutoSimulationStep then
        self.injectedStream
      else none
  | _ => none

lemma injectedStream_congr {self other : EgseGuiApp}
    (hfields : other.simulationFields = self.simulationFields)
    (hstream : other.simulatedStream = self.simulatedStream) :
    other.injectedStream = self.injectedStream := by
  rw [injectedStream, injectedStream, hfields, hstream]

/-- The stream is what the receiver is fed. -/
lemma feedSimulated_of_some {self : EgseGuiApp} {stream : Bytes}
    (h : self.injectedStream = some stream) :
    self.feedSimulated = (.ok (some (self.receiver.packets stream)),
      { self with receiver := self.receiver.after stream }) := by
  rw [injectedStream] at h
  rw [feedSimulated]
  rcases hfields : self.simulationFields with e | ⟨tmApid, spacecraftId, virtualChannelId⟩
  · rw [hfields] at h
    exact absurd h (by simp)
  · rw [hfields] at h
    dsimp only at h ⊢
    cases hstream : self.simulatedStream tmApid spacecraftId virtualChannelId with
    | error e =>
        rw [hstream] at h
        exact absurd h (by simp [Except.toOption])
    | ok uartStream =>
        rw [hstream] at h
        obtain rfl : uartStream = stream := Option.some.inj h
        simp only [SdlpSpacePacketReceiver.processUartBytes_eq]

/-- Without a stream, the receiver is not called. -/
lemma feedSimulated_of_none {self : EgseGuiApp} (h : self.injectedStream = none) :
    (∃ e, self.feedSimulated = (.error e, self)) ∨ self.feedSimulated = (.ok none, self) := by
  rw [injectedStream] at h
  rw [feedSimulated]
  rcases hfields : self.simulationFields with e | ⟨tmApid, spacecraftId, virtualChannelId⟩
  · obtain ⟨msg, rfl⟩ := self.simulationFields_raises e hfields
    exact Or.inr rfl
  · rw [hfields] at h
    dsimp only at h ⊢
    cases hstream : self.simulatedStream tmApid spacecraftId virtualChannelId with
    | error e => exact Or.inl ⟨e, rfl⟩
    | ok uartStream =>
        rw [hstream] at h
        exact absurd h (by simp [Except.toOption])

/-! ### What an event does to the timers -/

/-- An injection counts the frame that it sends, and one that raises sends none. -/
lemma pace_injectSimulatedTelemetry (self : EgseGuiApp) :
    self.injectSimulatedTelemetry.2.pace = self.pace.count self.injectedStream.isSome ∧
      (∀ e, self.injectSimulatedTelemetry.1 = .error e → self.injectedStream = none) := by
  cases hstream : self.injectedStream with
  | none =>
      rw [injectSimulatedTelemetry]
      rcases feedSimulated_of_none hstream with ⟨e, hfeed⟩ | hfeed
      · rw [hfeed]
        exact ⟨rfl, fun _ _ => rfl⟩
      · rw [hfeed]
        exact ⟨rfl, fun _ _ => rfl⟩
  | some stream =>
      have hfeed := feedSimulated_of_some hstream
      have hpackets := foldl_afterPacket (f := pace) (fun _ _ => rfl)
        { self with receiver := self.receiver.after stream } (self.receiver.packets stream)
      rw [injectSimulatedTelemetry, hfeed]
      simp only [handleDecodedPackets_of_feedSimulated hfeed]
      exact ⟨congrArg Pace.counted hpackets, fun e h => absurd h (by simp)⟩

lemma pace_armAutoSimulation_eq (self : EgseGuiApp)
    (h : self.simFrequencyIndex < guiSimFrequencyOptionsHz.length) :
    self.currentAutoSimIntervalMs = .ok (intervalMs self.simFrequencyIndex) ∧
      self.armAutoSimulation.2.pace = self.pace.armStep := by
  have hpos : ∀ f ∈ guiSimFrequencyOptionsHz, 0 < f := by simp [guiSimFrequencyOptionsHz]
  have hfrequency : ¬ self.currentSimFrequencyHz ≤ 0 := by
    rw [currentSimFrequencyHz, List.getD_eq_getElem?_getD, List.getElem?_eq_getElem h,
      Option.getD_some]
    exact not_le.mpr (hpos _ (List.getElem_mem h))
  have hinterval : self.currentAutoSimIntervalMs = .ok (intervalMs self.simFrequencyIndex) :=
    if_neg hfrequency
  refine ⟨hinterval, ?_⟩
  rw [armAutoSimulation, hinterval]
  rfl

/-- A step of the running simulation arms the next one, unless it raises. -/
lemma pace_runAutoSimulationStep_cases {self : EgseGuiApp} (h : self.pace.Sound)
    (hrunning : self.autoSimRunning = true) :
    self.runAutoSimulationStep.2.pace = (self.pace.count self.injectedStream.isSome).armStep ∨
      self.injectedStream = none ∧ self.runAutoSimulationStep.2.pace = self.pace := by
  obtain ⟨hpace, hraises⟩ := self.pace_injectSimulatedTelemetry
  rw [runAutoSimulationStep, if_pos hrunning]
  generalize self.injectSimulatedTelemetry = outcome at hpace hraises ⊢
  rcases outcome with ⟨e | ⟨⟩, self'⟩
  · have hnone := hraises e rfl
    rw [hnone] at hpace
    exact Or.inr ⟨hnone, hpace⟩
  · have hindex : self'.simFrequencyIndex = self.simFrequencyIndex :=
      (congrArg Pace.frequencyIndex hpace).trans (Pace.count_frequencyIndex _ _)
    have hlt : self'.simFrequencyIndex < guiSimFrequencyOptionsHz.length :=
      hindex ▸ h.frequencyIndex_lt
    refine Or.inl ?_
    rw [← hpace]
    exact (self'.pace_armAutoSimulation_eq hlt).2

lemma pace_fire {self : EgseGuiApp} (h : self.pace.Sound) (id : ℕ) :
    Pace.Step self.pace (self.simulates (.fire id : Event P)).isSome
      (!decide (self.TickLogs (.fire id : Event P))) (self.fire id).pace := by
  rw [fire, simulates]
  cases hid : self.callback id with
  | none =>
      have hlogs : self.TickLogs (.fire id : Event P) := by simp [TickLogs, hid]
      rw [if_neg (by simp), decide_eq_true hlogs]
      exact .of_eq rfl
  | some callback =>
      have hscheduled := mem_scheduled_of_callback hid
      cases callback with
      | processRxQueue =>
          have hlogs := tickLogs_iff (P := P) hid
          rw [if_neg (by simp)]
          dsimp only
          -- a tick that raises does not arm its timer again
          rcases pace_processRxQueue { self with root := self.root.afterCancel id } with
            ⟨hok, hpace⟩ | ⟨hraises, hpace⟩
          · rw [hpace, decide_eq_true (hlogs.mpr hok)]
            exact .ticks self.pace id hscheduled
          · rw [hpace, decide_eq_false fun hc => hraises (hlogs.mp hc)]
            exact .breaks self.pace id hscheduled
      | runAutoSimulationStep =>
          have hlogs : self.TickLogs (.fire id : Event P) := by simp [TickLogs, hid]
          rw [decide_eq_true hlogs]
          by_cases hrunning : self.autoSimRunning = true
          · have hsame : injectedStream { self with root := self.root.afterCancel id } =
                self.injectedStream := injectedStream_congr rfl rfl
            have hsound : { self with root := self.root.afterCancel id }.pace.Sound :=
              h.afterCancel id
            rw [if_pos ⟨hrunning, rfl⟩]
            dsimp only
            -- nor does a step whose injection raises
            rcases pace_runAutoSimulationStep_cases hsound hrunning with hpace | ⟨hnone, hpace⟩
            · rw [hpace, hsame]
              exact .repeats self.pace id _ hrunning hscheduled
            · rw [hpace, ← hsame, hnone]
              exact .lapses self.pace id hscheduled
          · rw [if_neg fun hc => hrunning hc.1]
            dsimp only
            rw [runAutoSimulationStep, if_neg hrunning]
            exact .lapses self.pace id hscheduled

lemma pace_toggleAutoSimulation {self : EgseGuiApp} (h : self.pace.Sound) :
    Pace.Step self.pace (self.simulates (.toggleAutoSimulation : Event P)).isSome false
      self.toggleAutoSimulation.2.pace := by
  rw [toggleAutoSimulation, simulates]
  split_ifs with hrunning
  · have hstop : self.stopAutoSimulation.pace = self.pace.stop := by
      rw [stopAutoSimulation]
      cases hid : self.autoSimAfterId with
      | none => simp only [Pace.stop, Pace.cancel, pace, hid]
      | some id => simp only [Pace.stop, Pace.cancel, Pace.afterCancel, pace, hid]
    rw [hstop]
    exact .stops self.pace
  · have hstopped : self.autoSimRunning = false := by simpa using hrunning
    have hsame : injectedStream { self with autoSimRunning := true } = self.injectedStream :=
      injectedStream_congr rfl rfl
    have hsound : { self with autoSimRunning := true }.pace.Sound :=
      ⟨h.packetSequence_le, h.frameCount_le, h.frequencyIndex_lt, h.numbered⟩
    rcases pace_runAutoSimulationStep_cases hsound rfl with hpace | ⟨hnone, hpace⟩
    · rw [hpace, hsame]
      exact .starts self.pace _ hstopped
    · rw [hpace, ← hsame, hnone]
      exact .startFails self.pace hstopped

lemma pace_toggleSimFrequency (self : EgseGuiApp) :
    Pace.Step self.pace false false self.toggleSimFrequency.2.pace := by
  have harms : self.autoSimRunning = true → ∀ self' : EgseGuiApp,
      self'.pace = self.pace.retune.cancel →
        Pace.Step self.pace false false self'.armAutoSimulation.2.pace := by
    intro hrunning self' hpace
    have hindex : self'.simFrequencyIndex = self.pace.retune.frequencyIndex :=
      (congrArg Pace.frequencyIndex hpace).trans (Pace.cancel_frequencyIndex _)
    have hlt : self'.simFrequencyIndex < guiSimFrequencyOptionsHz.length :=
      hindex ▸ Nat.mod_lt _ (by decide)
    rw [(self'.pace_armAutoSimulation_eq hlt).2, hpace]
    exact .rearms self.pace hrunning
  rw [toggleSimFrequency]
  split_ifs with hrunning
  · cases hid : self.autoSimAfterId with
    | none =>
        refine harms hrunning _ ?_
        simp only [Pace.cancel, Pace.retune, pace, hid]
    | some id =>
        refine harms hrunning _ ?_
        simp only [Pace.cancel, Pace.retune, Pace.afterCancel, pace, hid]
  · have hstopped : self.autoSimRunning = false := by simpa using hrunning
    exact .retunes self.pace hstopped

/-- **Refinement.**  What an event does to the timers and the counters. -/
theorem pace_step [SerialLike P] {self : EgseGuiApp} (h : self.pace.Sound) (e : Event P) :
    Pace.Step self.pace (self.simulates e).isSome (!decide (self.TickLogs e))
      (self.step e).pace := by
  cases e with
  | connect answer => exact .of_eq (self.pace_connect answer)
  | disconnect => exact .of_eq self.pace_disconnect
  | rxPick => exact .of_eq self.pace_rxPick
  | rxPoll port => exact .of_eq (self.pace_rxPoll port)
  | fire id => exact pace_fire h id
  | injectSimulatedTelemetry =>
      rw [step, self.pace_injectSimulatedTelemetry.1]
      exact .stays self.pace _
  | clearTelemetryData => exact .of_eq rfl
  | toggleAutoSimulation => exact pace_toggleAutoSimulation h
  | toggleSimFrequency => exact self.pace_toggleSimFrequency
  | edit field text => exact .of_eq (self.pace_setText field text)

end EgseGuiApp

namespace Pace

variable {p q : Pace} {id : ℕ} {sent raised : Bool}

lemma count_root (p : Pace) (sent : Bool) : (p.count sent).root = p.root := by
  cases sent <;> rfl

lemma count_afterId (p : Pace) (sent : Bool) : (p.count sent).afterId = p.afterId := by
  cases sent <;> rfl

lemma count_running (p : Pace) (sent : Bool) : (p.count sent).running = p.running := by
  cases sent <;> rfl

lemma cancel_running (p : Pace) : p.cancel.running = p.running := by
  rw [cancel]
  split <;> rfl

lemma pending_arm (p : Pace) (delayMs : ℤ) (callback : Callback) :
    (p.arm delayMs).root.pending callback =
      if .runAutoSimulationStep = callback then
        p.root.pending callback ++ [⟨p.root.nextId, delayMs, .runAutoSimulationStep⟩]
      else p.root.pending callback :=
  p.root.pending_after delayMs callback .runAutoSimulationStep

lemma pending_afterCancel (p : Pace) (id : ℕ) (callback : Callback) :
    (p.afterCancel id).root.pending callback = (p.root.pending callback).filter (·.id ≠ id) :=
  p.root.pending_afterCancel id callback

lemma retune_cancel_root (p : Pace) : p.retune.cancel.root = p.cancel.root := by
  have hafterId : p.retune.afterId = p.afterId := rfl
  rw [cancel, cancel, hafterId]
  cases p.afterId <;> rfl

lemma Sound.count (h : p.Sound) (sent : Bool) : (p.count sent).Sound := by
  cases sent
  · exact h
  · exact h.counted

/-- The counters advance with every frame, and only then. -/
lemma Step.counters (h : Step p sent raised q) :
    q.packetSequence = (p.count sent).packetSequence ∧
      q.frameCount = (p.count sent).frameCount := by
  have hcancel : ∀ p : Pace, p.cancel.packetSequence = p.packetSequence ∧
      p.cancel.frameCount = p.frameCount := by
    intro p
    rw [cancel]
    split <;> exact ⟨rfl, rfl⟩
  cases h with
  | stays sent => exact ⟨rfl, rfl⟩
  | ticks id hid => exact ⟨rfl, rfl⟩
  | breaks id hid => exact ⟨rfl, rfl⟩
  | lapses id hid => exact ⟨rfl, rfl⟩
  | repeats id sent hrunning hid => cases sent <;> exact ⟨rfl, rfl⟩
  | starts sent hstopped => cases sent <;> exact ⟨rfl, rfl⟩
  | startFails hstopped => exact ⟨rfl, rfl⟩
  | stops => exact hcancel p
  | retunes hstopped => exact ⟨rfl, rfl⟩
  | rearms hrunning => exact hcancel p.retune

/-! ### The timer of the queue -/

/-- The timer of the queue is pending, and `_auto_sim_after_id` names another one. -/
structure Polled (p : Pace) (id : ℕ) : Prop where
  pending : p.root.pending .processRxQueue = [⟨id, guiUpdateIntervalMs, .processRxQueue⟩]
  afterId : ∀ id' ∈ p.afterId, id' < p.root.nextId ∧ id' ≠ id

namespace Polled

lemma mem_timers (hp : p.Polled id) :
    ⟨id, guiUpdateIntervalMs, .processRxQueue⟩ ∈ p.root.timers := by
  refine List.mem_of_mem_filter (p := fun t => decide (t.callback = .processRxQueue)) ?_
  show _ ∈ p.root.pending .processRxQueue
  rw [hp.pending]
  exact List.mem_singleton_self _

lemma count (hp : p.Polled id) (sent : Bool) : (p.count sent).Polled id := by
  cases sent
  · exact hp
  · exact ⟨hp.pending, hp.afterId⟩

lemma afterCancel (hp : p.Polled id) {id' : ℕ} (hne : id' ≠ id) :
    (p.afterCancel id').Polled id := by
  refine ⟨?_, hp.afterId⟩
  rw [pending_afterCancel, hp.pending]
  exact List.filter_cons_of_pos (by simp [hne.symm])

lemma cancel (hp : p.Polled id) : p.cancel.Polled id := by
  rw [Pace.cancel]
  cases hid : p.afterId with
  | none => exact hp
  | some id' => exact hp.afterCancel (hp.afterId id' hid).2

/-- A timer for the simulation gets a number of its own. -/
lemma arm (hp : p.Polled id) (hsound : p.Sound) (delayMs : ℤ) : (p.arm delayMs).Polled id := by
  have hlt : id < p.root.nextId := hsound.numbered.lt _ hp.mem_timers
  constructor
  · rw [pending_arm, if_neg (by simp)]
    exact hp.pending
  · rintro id' hid'
    obtain rfl : p.root.nextId = id' := Option.some.inj hid'
    exact ⟨Nat.lt_succ_self _, Nat.ne_of_gt hlt⟩

/-- The timer that fires is followed by the next one. -/
lemma tick (hp : p.Polled id) : (p.tick id).Polled p.root.nextId := by
  constructor
  · have hfired : (p.root.afterCancel id).pending .processRxQueue = [] := by
      rw [Root.pending_afterCancel, hp.pending]
      exact List.filter_cons_of_neg (by simp)
    rw [Pace.tick, Root.pending_after, if_pos rfl, hfired]
    rfl
  · intro id' hid'
    have hlt := (hp.afterId id' hid').1
    exact ⟨Nat.lt_succ_of_lt hlt, Nat.ne_of_lt hlt⟩

end Polled

lemma scheduled_processRxQueue (hp : p.Polled id) : p.root.scheduled .processRxQueue = [id] := by
  have hmap := congrArg (List.map Timer.id) hp.pending
  exact hmap

/-- The timer of the queue is not lost while its callback returns, whatever the simulation does
with its own. -/
theorem Step.polled (h : Step p sent false q) (hsound : p.Sound) (hp : ∃ id, p.Polled id) :
    ∃ id, q.Polled id := by
  obtain ⟨id, hp⟩ := hp
  have hscheduled := scheduled_processRxQueue hp
  -- no timer of the simulation has its number
  have hother : ∀ id' ∈ p.root.scheduled .runAutoSimulationStep, id' ≠ id := by
    rintro id' hid' rfl
    have hmem : id' ∈ p.root.scheduled .processRxQueue := by simp [hscheduled]
    exact absurd (hsound.numbered.callback_unique hid' hmem) (by simp)
  cases h with
  | stays sent => exact ⟨id, hp.count sent⟩
  | ticks id' hid' =>
      rw [hscheduled, List.mem_singleton] at hid'
      exact ⟨p.root.nextId, hid' ▸ hp.tick⟩
  | lapses id' hid' => exact ⟨id, hp.afterCancel (hother id' hid')⟩
  | repeats id' sent hrunning hid' =>
      have hcount := (hp.afterCancel (hother id' hid')).count sent
      exact ⟨id, hcount.arm ((hsound.afterCancel id').count sent) _⟩
  | starts sent hstopped =>
      have hstart : p.start.Polled id := ⟨hp.pending, hp.afterId⟩
      have hsound' : p.start.Sound :=
        ⟨hsound.packetSequence_le, hsound.frameCount_le, hsound.frequencyIndex_lt, hsound.numbered⟩
      exact ⟨id, (hstart.count sent).arm (hsound'.count sent) _⟩
  | startFails hstopped => exact ⟨id, hp.pending, hp.afterId⟩
  | stops => exact ⟨id, hp.cancel.pending, fun id' hid' => absurd hid' (by simp [stop])⟩
  | retunes hstopped => exact ⟨id, hp.pending, hp.afterId⟩
  | rearms hrunning =>
      have hretune : p.retune.Polled id := ⟨hp.pending, hp.afterId⟩
      have hsound' : p.retune.cancel.Sound := by
        have hlt : p.retune.frequencyIndex < guiSimFrequencyOptionsHz.length :=
          Nat.mod_lt _ (by decide)
        have hretuned : p.retune.Sound :=
          ⟨hsound.packetSequence_le, hsound.frameCount_le, hlt, hsound.numbered⟩
        rw [Pace.cancel]
        cases p.retune.afterId with
        | none => exact hretuned
        | some id' => exact hretuned.afterCancel id'
      exact ⟨id, hretune.cancel.arm hsound' _⟩

/-- A tick that raises was the last one. -/
lemma Step.broken (h : Step p sent true q) (hp : p.Polled id) :
    q.root.pending .processRxQueue = [] := by
  have hscheduled := scheduled_processRxQueue hp
  cases h with
  | breaks id' hid' =>
      rw [hscheduled, List.mem_singleton] at hid'
      rw [hid', pending_afterCancel, hp.pending]
      exact List.filter_cons_of_neg (by simp)

/-- Nothing but a tick arms the timer of the queue. -/
lemma Step.unpolled (h : Step p sent raised q)
    (hnone : p.root.pending .processRxQueue = []) : q.root.pending .processRxQueue = [] := by
  have hcancel : ∀ p : Pace, p.root.pending .processRxQueue = [] → ∀ id,
      (p.afterCancel id).root.pending .processRxQueue = [] := by
    intro p hnone id
    rw [pending_afterCancel, hnone]
    rfl
  have harm : ∀ p : Pace, p.root.pending .processRxQueue = [] → ∀ sent,
      (p.count sent).armStep.root.pending .processRxQueue = [] := by
    intro p hnone sent
    rw [armStep, pending_arm, if_neg (by simp), count_root]
    exact hnone
  have hstop : ∀ p : Pace, p.root.pending .processRxQueue = [] →
      p.cancel.root.pending .processRxQueue = [] := by
    intro p hnone
    rw [Pace.cancel]
    cases p.afterId with
    | none => exact hnone
    | some id => exact hcancel p hnone id
  cases h with
  | stays sent =>
      rw [count_root]
      exact hnone
  | ticks id hid =>
      -- there is no timer that could tick
      obtain ⟨t, ht, -⟩ := Root.mem_scheduled.mp hid
      rw [hnone] at ht
      exact absurd ht (by simp)
  | breaks id hid => exact hcancel p hnone id
  | lapses id hid => exact hcancel p hnone id
  | repeats id sent hrunning hid => exact harm _ (hcancel p hnone id) sent
  | starts sent hstopped => exact harm p.start hnone sent
  | startFails hstopped => exact hnone
  | stops => exact hstop p hnone
  | retunes hstopped => exact hnone
  | rearms hrunning => exact harm _ (hstop p.retune hnone) false

/-! ### The timer of the simulation -/

/-- No step of the simulation is pending, or one, while the simulation runs: it is the one
that `_auto_sim_after_id` names, and it waits as long as the frequency says. -/
def Paced (p : Pace) : Prop :=
  p.root.pending .runAutoSimulationStep = [] ∨
    p.running = true ∧ ∃ id, p.afterId = some id ∧
      p.root.pending .runAutoSimulationStep =
        [⟨id, intervalMs p.frequencyIndex, .runAutoSimulationStep⟩]

lemma Paced.of_stopped (hp : p.Paced) (hstopped : p.running = false) :
    p.root.pending .runAutoSimulationStep = [] := by
  rcases hp with hnone | ⟨hrunning, -⟩
  · exact hnone
  · exact absurd (hstopped.symm.trans hrunning) (by simp)

/-- Whichever timer of the simulation fires, it was the only one. -/
lemma Paced.afterCancel (hp : p.Paced) (hid : id ∈ p.root.scheduled .runAutoSimulationStep) :
    (p.afterCancel id).root.pending .runAutoSimulationStep = [] := by
  obtain ⟨t, ht, rfl⟩ := Root.mem_scheduled.mp hid
  rw [pending_afterCancel]
  rcases hp with hnone | ⟨-, id', -, hone⟩
  · rw [hnone]
    rfl
  · rw [hone] at ht ⊢
    rw [List.mem_singleton.mp ht]
    exact List.filter_cons_of_neg (by simp)

lemma Paced.cancel (hp : p.Paced) : p.cancel.root.pending .runAutoSimulationStep = [] := by
  rw [Pace.cancel]
  rcases hp with hnone | ⟨-, id, hid, hone⟩
  · cases p.afterId with
    | none => exact hnone
    | some id =>
        refine (p.pending_afterCancel id _).trans ?_
        rw [hnone]
        rfl
  · rw [hid]
    refine (p.pending_afterCancel id _).trans ?_
    rw [hone]
    exact List.filter_cons_of_neg (by simp)

/-- Arming is right if no timer of the simulation is pending. -/
lemma paced_armStep (hrunning : p.running = true)
    (hnone : p.root.pending .runAutoSimulationStep = []) : p.armStep.Paced := by
  refine Or.inr ⟨hrunning, p.root.nextId, rfl, ?_⟩
  rw [armStep, pending_arm, if_pos rfl, hnone]
  rfl

/-- The timer of the queue that fires is none of the simulation. -/
lemma Sound.kept (hsound : p.Sound) (hid : id ∈ p.root.scheduled .processRxQueue) :
    (p.afterCancel id).root.pending .runAutoSimulationStep =
      p.root.pending .runAutoSimulationStep := by
  rw [pending_afterCancel]
  refine List.filter_eq_self.mpr fun t ht => decide_eq_true ?_
  rintro rfl
  have hmem : t.id ∈ p.root.scheduled .runAutoSimulationStep :=
    Root.mem_scheduled.mpr ⟨t, ht, rfl⟩
  exact absurd (hsound.numbered.callback_unique hid hmem) (by simp)

/-- Two timers of the simulation are never pending, and none when it is stopped. -/
theorem Step.paced (h : Step p sent raised q) (hsound : p.Sound) (hp : p.Paced) : q.Paced := by
  cases h with
  | stays sent =>
      rw [Paced, count_root, count_running, count_afterId, count_frequencyIndex]
      exact hp
  | ticks id hid =>
      rw [Paced, tick, Root.pending_after, if_neg (by simp)]
      show (p.afterCancel id).Paced
      rw [Paced, hsound.kept hid]
      exact hp
  | breaks id hid =>
      rw [Paced, hsound.kept hid]
      exact hp
  | lapses id hid => exact Or.inl (hp.afterCancel hid)
  | repeats id sent hrunning hid =>
      refine paced_armStep ?_ ?_
      · rw [count_running]
        exact hrunning
      · rw [count_root]
        exact hp.afterCancel hid
  | starts sent hstopped =>
      refine paced_armStep ?_ ?_
      · rw [count_running]
        rfl
      · rw [count_root]
        exact hp.of_stopped hstopped
  | startFails hstopped => exact Or.inl (hp.of_stopped hstopped)
  | stops => exact Or.inl hp.cancel
  | retunes hstopped => exact Or.inl (hp.of_stopped hstopped)
  | rearms hrunning =>
      refine paced_armStep ?_ ?_
      · rw [cancel_running]
        exact hrunning
      · rw [retune_cancel_root]
        exact hp.cancel

end Pace

namespace EgseGuiApp

variable {P : Type} [SerialLike P]

/-! ### Whole runs -/

/-- Between two events, the timer of the simulation is in order. -/
structure TimersInOrder (app : EgseGuiApp) : Prop where
  sound : app.pace.Sound
  paced : app.pace.Paced

lemma timersInOrder_init : init.TimersInOrder := ⟨sound_init, Or.inl (by decide)⟩

lemma TimersInOrder.step {self : EgseGuiApp} (h : self.TimersInOrder) (e : Event P) :
    (self.step e).TimersInOrder :=
  ⟨(alarm_step h.sound e).1, (pace_step h.sound e).paced h.sound h.paced⟩

lemma timersInOrder_run (events : List (Event P)) :
    (run EgseGuiApp.step init events).TimersInOrder :=
  Along.run_always (fun _ e h => h.step e) timersInOrder_init

lemma callback_of_pending {self : EgseGuiApp} (hnumbered : self.root.Numbered) {t : Timer}
    {callback : Callback} (ht : t ∈ self.root.pending callback) :
    self.callback t.id = some callback := by
  obtain ⟨hmem, hcallback⟩ := List.mem_filter.mp ht
  rw [EgseGuiApp.callback]
  cases hfind : self.root.timers.find? (·.id = t.id) with
  | none =>
      rw [List.find?_eq_none] at hfind
      exact absurd (hfind t hmem) (by simp)
  | some t' =>
      have hid : t'.id = t.id := by simpa using List.find?_some hfind
      obtain rfl : t' = t :=
        List.inj_on_of_nodup_map hnumbered.nodup (List.mem_of_find?_eq_some hfind) hmem hid
      exact congrArg some (by simpa using hcallback)

/-- The timer of the queue is armed between two events. -/
def Polls (app : EgseGuiApp) : Prop := app.pace.Sound ∧ ∃ id, app.pace.Polled id

/-- It is not, and will not be. -/
def Deaf (app : EgseGuiApp) : Prop :=
  app.pace.Sound ∧ app.root.pending .processRxQueue = []

lemma Polls.step {self : EgseGuiApp} {e : Event P} (h : self.Polls) (hlogs : self.TickLogs e) :
    (self.step e).Polls := by
  obtain ⟨hsound, hpolled⟩ := h
  have hstep := pace_step hsound e
  rw [decide_eq_true hlogs] at hstep
  exact ⟨(alarm_step hsound e).1, hstep.polled hsound hpolled⟩

lemma Polls.breaks {self : EgseGuiApp} {e : Event P} (h : self.Polls) (hlogs : ¬ self.TickLogs e) :
    (self.step e).Deaf := by
  obtain ⟨hsound, id, hpolled⟩ := h
  have hstep := pace_step hsound e
  rw [decide_eq_false hlogs] at hstep
  exact ⟨(alarm_step hsound e).1, hstep.broken hpolled⟩

lemma Deaf.step {self : EgseGuiApp} (h : self.Deaf) (e : Event P) : (self.step e).Deaf :=
  ⟨(alarm_step h.1 e).1, (pace_step h.1 e).unpolled h.2⟩

/-- The timer of the queue: it is pending, with its interval, and the automatic simulation
cannot cancel it. -/
def QueueTimer (app : EgseGuiApp) (id : ℕ) : Prop :=
  app.root.pending .processRxQueue = [⟨id, 200, .processRxQueue⟩] ∧
    app.callback id = some .processRxQueue ∧ app.autoSimAfterId ≠ some id

lemma Polls.queueTimer {self : EgseGuiApp} (h : self.Polls) : ∃ id, self.QueueTimer id := by
  obtain ⟨hsound, id, hp⟩ := h
  refine ⟨id, hp.pending, ?_, fun hid => (hp.afterId id hid).2 rfl⟩
  refine callback_of_pending hsound.numbered (t := ⟨id, guiUpdateIntervalMs, .processRxQueue⟩) ?_
  show _ ∈ self.pace.root.pending .processRxQueue
  rw [hp.pending]
  exact List.mem_singleton_self _

/-- **How long the queue is looked at.**  Behind a run, Tk holds exactly one timer that will
call `_process_rx_queue`, 200 ms after it was armed, and nothing that the automatic simulation
may cancel is this timer, if and only if every tick could write the number in the field of the
TM APID when it had to.  Otherwise it holds none, and the queue is never looked at again. -/
theorem poll_timer (events : List (Event P)) :
    ((∃ id, (run step init events).QueueTimer id) ↔ Along step TickLogs init events) ∧
      (¬ Along step TickLogs init events → ∀ more : List (Event P),
        (run step init (events ++ more)).root.pending .processRxQueue = []) := by
  have hinit : init.Polls :=
    ⟨sound_init, 0, by decide, fun id hid => absurd hid (by simp [pace, init])⟩
  have hkeep : ∀ (self : EgseGuiApp) (e : Event P), self.Polls → self.TickLogs e →
      (self.step e).Polls := fun _ _ h hlogs => h.step hlogs
  have hdeaf : ¬ Along step TickLogs init events → (run step init events).Deaf :=
    Along.trapped hkeep (fun _ _ h hlogs => h.breaks hlogs) (fun _ e h => h.step e) hinit
  refine ⟨⟨?_, fun h => (h.run hkeep hinit).queueTimer⟩, ?_⟩
  · rintro ⟨id, hpending, -⟩
    by_contra hnot
    rw [(hdeaf hnot).2] at hpending
    exact absurd hpending (by simp)
  · intro hnot more
    rw [run_append]
    exact (Along.run_always (Q := Deaf) (fun _ e h => h.step e) (hdeaf hnot)).2

/-- A packet of telemetry waits in the queue. -/
def packetQueued : List (Event PortAnswer) :=
  [.connect fun _ _ => .ok (), .rxPick, .rxPoll (.waiting lineFrame)]

/-- A tick meets it when the number of the TM APID is too long: there are runs behind which the
queue is never looked at again. -/
theorem exists_not_tickLogs :
    ∃ events : List (Event PortAnswer), ¬ Along step TickLogs init events := by
  obtain ⟨text, n, -, htmApid, hnot⟩ := exists_not_writable
  refine ⟨packetQueued ++ [.edit .tmApid text, .fire 0], ?_⟩
  have hcallback : (run step init packetQueued).callback 0 = some .processRxQueue := by decide
  have hqueued : ∃ packet ∈
      ((run step init packetQueued).rxQueue.takeWhile Option.isSome).reduceOption,
      packet.spacePacket.packetType = .telemetry := by decide
  rw [Along.append]
  generalize run step init packetQueued = self at *
  obtain ⟨packet, hmem, htype⟩ := hqueued
  rintro ⟨-, -, hlogs, -⟩
  have hedited : (self.setText text .tmApid).telemetryApid = n := telemetryApid_of_eq_ok htmApid
  change self.callback 0 = _ → Writable (self.setText text .tmApid).telemetryApid ∨
    ∀ packet ∈ (self.rxQueue.takeWhile Option.isSome).reduceOption, _ at hlogs
  rcases hlogs hcallback with hwritable | hnone
  · exact hnot (hedited ▸ hwritable)
  · exact hnone packet hmem htype

/-- **The pace of the simulation.**  In every state of every run, also behind failures, at
most one step of the automatic simulation is scheduled: while it is running only, under the
number in `_auto_sim_after_id`, and after the interval of the frequency that is set. -/
theorem simulation_timer (events : List (Event P)) :
    (run step init events).root.pending .runAutoSimulationStep = [] ∨
      (run step init events).autoSimRunning = true ∧ ∃ id delayMs,
        (run step init events).autoSimAfterId = some id ∧
        (run step init events).currentAutoSimIntervalMs = .ok delayMs ∧
        (run step init events).root.pending .runAutoSimulationStep =
          [⟨id, delayMs, .runAutoSimulationStep⟩] := by
  have h := timersInOrder_run events
  rcases h.paced with hnone | ⟨hrunning, id, hid, hone⟩
  · exact Or.inl hnone
  · have hinterval := ((run step init events).pace_armAutoSimulation_eq
      h.sound.frequencyIndex_lt).1
    exact Or.inr ⟨hrunning, id, _, hid, hinterval, hone⟩

/-! ### The frames of the simulation -/

/-- The `n`-th frame that the simulation sends. -/
structure IsSimulatedFrame (n : ℕ) (packet : SpacePacket) (frame : TmTransferFrame) : Prop where
  dataField : frame.dataField = packet.encode
  firstHeaderPointer : frame.firstHeaderPointer = 0
  packetType : packet.packetType = .telemetry
  sample : decodeTelemetryPayload packet.dataField = .ok (simulatedSample (n % 2 ^ 14))
  sequenceCount : packet.sequenceCount = n % 2 ^ 14
  masterChannelFrameCount : frame.masterChannelFrameCount = n % 2 ^ 8
  virtualChannelFrameCount : frame.virtualChannelFrameCount = n % 2 ^ 8

/-- A stream holds the frame that the counters announce. -/
lemma exists_isSimulatedFrame {self : EgseGuiApp} {n : ℕ}
    (hsequence : self.simTmPacketSequence = n % 2 ^ 14)
    (hcount : self.simTmFrameCount = n % 2 ^ 8) {stream : Bytes}
    (h : self.injectedStream = some stream) :
    ∃ packet frame, stream = slipEncode (SdlpFrame.tm frame).envelope ∧
      IsSimulatedFrame n packet frame := by
  rw [injectedStream] at h
  cases hfields : self.simulationFields with
  | error e =>
      rw [hfields] at h
      exact absurd h (by simp)
  | ok fields =>
      obtain ⟨tmApid, spacecraftId, virtualChannelId⟩ := fields
      rw [hfields] at h
      cases hstream : self.simulatedStream tmApid spacecraftId virtualChannelId with
      | error e =>
          simp only [hstream] at h
          exact absurd h (by simp [Except.toOption])
      | ok uartStream =>
          simp only [hstream] at h
          obtain rfl : uartStream = stream := Option.some.inj h
          obtain ⟨packet, hpacket, hrest⟩ := bind_eq_ok.mp hstream
          obtain ⟨frame, hframe, hserialize⟩ := bind_eq_ok.mp hrest
          obtain ⟨-, htype, hpayload, hlength⟩ := simulatedPacket_eq_ok hpacket
          rw [simulatedPacket, SpacePacket.buildTm] at hpacket
          obtain ⟨-, -, -, hpacketCount, -⟩ := SpacePacket.new_eq_ok hpacket
          obtain ⟨⟨-, -, hmaster, hvirtual, hpointer, -⟩, hdata, -⟩ :=
            TmTransferFrame.new_eq_ok hframe
          have hfits : (SdlpFrame.tm frame).encode.length ≤ 0xFFFF :=
            SdlpFrame.length_encode_tm (by rw [hdata, hlength]; decide)
          have hbytes := SdlpFrame.serialize_eq (.tm frame) hfits
          refine ⟨packet, frame, Except.ok.inj (hserialize.symm.trans hbytes), ?_⟩
          exact
            { dataField := hdata
              firstHeaderPointer := by exact_mod_cast hpointer
              packetType := htype
              sample := by rw [← hsequence, hpayload, decode_buildSimulatedTelemetryPayload]
              sequenceCount := by rw [← hsequence]; exact_mod_cast hpacketCount
              masterChannelFrameCount := by rw [← hcount]; exact_mod_cast hmaster
              virtualChannelFrameCount := by rw [← hcount]; exact_mod_cast hvirtual }

omit [SerialLike P] in
lemma injectedStream_of_simulates {self : EgseGuiApp} {e : Event P} {stream : Bytes}
    (h : self.simulates e = some stream) : self.injectedStream = some stream := by
  cases e with
  | injectSimulatedTelemetry => exact h
  | toggleAutoSimulation =>
      rw [simulates] at h
      split_ifs at h
      exact h
  | fire id =>
      rw [simulates] at h
      split_ifs at h
      exact h
  | _ => exact absurd h (by simp [simulates])

omit [SerialLike P] in
lemma receiver_injectedStream (self : EgseGuiApp) :
    self.injectSimulatedTelemetry.2.receiver =
      self.receiver.after (self.injectedStream.getD []) := by
  rw [injectSimulatedTelemetry]
  cases hstream : self.injectedStream with
  | none =>
      rw [Option.getD_none, SdlpSpacePacketReceiver.after_nil]
      rcases feedSimulated_of_none hstream with ⟨e, hfeed⟩ | hfeed
      · rw [hfeed]
      · rw [hfeed]
  | some stream =>
      have hfeed := feedSimulated_of_some hstream
      rw [hfeed]
      simp only [handleDecodedPackets_of_feedSimulated hfeed]
      exact foldl_afterPacket (f := receiver) (fun _ _ => rfl) _ _

omit [SerialLike P] in
lemma receiver_runAutoSimulationStep (self : EgseGuiApp) :
    self.runAutoSimulationStep.2.receiver = self.receiver.after
      ((if self.autoSimRunning then self.injectedStream else none).getD []) := by
  have hinject := self.receiver_injectedStream
  rw [runAutoSimulationStep]
  split_ifs
  · rw [← hinject]
    generalize self.injectSimulatedTelemetry = outcome
    rcases outcome with ⟨e | ⟨⟩, self'⟩
    · rfl
    · show self'.armAutoSimulation.2.receiver = self'.receiver
      rw [armAutoSimulation]
      split <;> rfl
  · exact (SdlpSpacePacketReceiver.after_nil _).symm

/-- Apart from the receive loop, an event feeds the receiver the stream that it simulates, and
nothing else. -/
theorem receiver_simulates (self : EgseGuiApp) {e : Event P} (h : ∀ port, e ≠ .rxPoll port) :
    (self.step e).receiver = self.receiver.after ((self.simulates e).getD []) := by
  have hnil := (SdlpSpacePacketReceiver.after_nil self.receiver).symm
  cases e with
  | connect answer =>
      exact (connect_frame (f := receiver) (fun _ _ _ _ => rfl) self answer).trans hnil
  | disconnect => exact self.receiver_disconnect.trans hnil
  | rxPick => exact (rxPick_frame (f := receiver) (fun _ _ => rfl) self).trans hnil
  | rxPoll port => exact absurd rfl (h port)
  | fire id =>
      rw [step, fire, simulates]
      cases self.callback id with
      | none => simp
      | some callback =>
          cases callback with
          | processRxQueue =>
              refine (receiver_processRxQueue
                { self with root := self.root.afterCancel id }).trans ?_
              simp
          | runAutoSimulationStep =>
              refine (receiver_runAutoSimulationStep
                { self with root := self.root.afterCancel id }).trans ?_
              have hsame : injectedStream { self with root := self.root.afterCancel id } =
                  self.injectedStream := injectedStream_congr rfl rfl
              rw [hsame]
              simp
  | injectSimulatedTelemetry => exact self.receiver_injectedStream
  | clearTelemetryData => exact hnil
  | toggleAutoSimulation =>
      rw [step, toggleAutoSimulation, simulates]
      split_ifs
      · -- the button stops the simulation, and no frame is sent
        refine Eq.trans ?_ hnil
        rw [stopAutoSimulation]
        split <;> rfl
      · have hsame : injectedStream { self with autoSimRunning := true } = self.injectedStream :=
          injectedStream_congr rfl rfl
        refine (receiver_runAutoSimulationStep { self with autoSimRunning := true }).trans ?_
        rw [hsame]
        rfl
  | toggleSimFrequency =>
      refine Eq.trans ?_ hnil
      rw [step, toggleSimFrequency]
      split_ifs
      · dsimp only
        split <;> (rw [armAutoSimulation]; split <;> rfl)
      · rfl
  | edit field text =>
      refine Eq.trans ?_ hnil
      cases field <;> rfl

/-- What the counters say about the frames that were sent so far. -/
structure Counted (app : EgseGuiApp) (sent : List Bytes) : Prop where
  sound : app.pace.Sound
  sequence : app.simTmPacketSequence = sent.length % 2 ^ 14
  frameCount : app.simTmFrameCount = sent.length % 2 ^ 8
  frames : ∀ n stream, sent[n]? = some stream → ∃ packet frame,
    stream = slipEncode (SdlpFrame.tm frame).envelope ∧ IsSimulatedFrame n packet frame

/-- One event more. -/
lemma Counted.step {self : EgseGuiApp} {sent : List Bytes} (h : self.Counted sent)
    (e : Event P) : (self.step e).Counted (sent ++ (self.simulates e).toList) := by
  have hsound := (alarm_step h.sound e).1
  obtain ⟨hpacket, hframe⟩ := (pace_step h.sound e).counters
  cases hsimulates : self.simulates e with
  | none =>
      rw [hsimulates] at hpacket hframe
      rw [Option.toList_none, List.append_nil]
      exact ⟨hsound, Eq.trans hpacket h.sequence, Eq.trans hframe h.frameCount, h.frames⟩
  | some stream =>
      rw [hsimulates] at hpacket hframe
      have hframe' := exists_isSimulatedFrame h.sequence h.frameCount
        (injectedStream_of_simulates hsimulates)
      -- both counters wrap with the mask
      have hsequence : (self.step e).simTmPacketSequence = (sent.length + 1) % 2 ^ 14 := by
        have hmask : (self.step e).simTmPacketSequence =
            (self.simTmPacketSequence + 1) &&& 0x3FFF := hpacket
        rw [hmask, h.sequence, land_mask 0x3FFF 14 rfl]
        omega
      have hcount : (self.step e).simTmFrameCount = (sent.length + 1) % 2 ^ 8 := by
        have hmask : (self.step e).simTmFrameCount = (self.simTmFrameCount + 1) &&& 0xFF := hframe
        rw [hmask, h.frameCount, land_mask 0xFF 8 rfl]
        omega
      rw [Option.toList_some]
      refine ⟨hsound, by simpa using hsequence, by simpa using hcount, ?_⟩
      intro n stream' hstream'
      rcases Nat.lt_trichotomy n sent.length with hlt | rfl | hgt
      · rw [List.getElem?_append_left hlt] at hstream'
        exact h.frames n stream' hstream'
      · rw [List.getElem?_concat_length] at hstream'
        exact Option.some.inj hstream' ▸ hframe'
      · rw [List.getElem?_eq_none (by simp; omega)] at hstream'
        exact absurd hstream' (by simp)

/-- **The frames of the simulation are numbered.**  In every run of the application, by
whatever buttons and timers, and whatever text the user types in between: the `n`-th frame
that the simulation sends carries one telemetry packet, numbered by `n` modulo `2 ^ 14` and
with the sample prescribed for that number, and both frame counts are `n` modulo `2 ^ 8`. -/
theorem simulated_numbered (events : List (Event P)) (n : ℕ) (stream : Bytes)
    (h : (trace step (fun self e => (simulates self e).toList) init events)[n]? = some stream) :
    ∃ packet frame, stream = slipEncode (SdlpFrame.tm frame).envelope ∧
      IsSimulatedFrame n packet frame := by
  have hinit : init.Counted [] := ⟨sound_init, rfl, rfl, fun n stream h => absurd h (by simp)⟩
  have hkeep : ∀ (self : EgseGuiApp) (e : Event P) (sent : List Bytes), self.Counted sent → True →
      (self.step e).Counted (sent ++ (self.simulates e).toList) :=
    fun _ e _ hcounted _ => hcounted.step e
  have hrun := trace_history hkeep [] hinit (Along.always step init events)
  exact hrun.frames n stream h

/-- An injection by hand, one that fails, one that meets a range that was left, and one by
the automatic simulation. -/
def mixedRun : List (Event PortAnswer) :=
  [.injectSimulatedTelemetry, .edit .tmApid "x", .injectSimulatedTelemetry, .edit .tmApid "0x7FF",
    .edit .vcid "8", .injectSimulatedTelemetry, .edit .vcid "7", .toggleAutoSimulation]

/-- The second frame that is sent. -/
theorem simulated_numbered_mixedRun :
    ∃ stream, (trace step (fun self e => (simulates self e).toList) init mixedRun)[1]? =
        some stream ∧
      ∃ packet frame, stream = slipEncode (SdlpFrame.tm frame).envelope ∧
        IsSimulatedFrame 1 packet frame := by
  have hsome : (trace step (fun self e => (simulates self e).toList) init mixedRun)[1]?.isSome =
      true := by decide
  obtain ⟨stream, hstream⟩ := Option.isSome_iff_exists.mp hsome
  exact ⟨stream, hstream, simulated_numbered mixedRun 1 stream hstream⟩

end EgseGuiApp

end OpenSpaceEgse
