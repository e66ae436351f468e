import OpenSpaceEgse.Gui.SimulatedRun
import OpenSpaceEgse.Gui.Traffic

/-!
# What the plots show

Packets reach the display on two ways, from the queue of the receive loop and from
injections, by hand or by the automatic simulation.  `handles` are the packets that an
event hands on, `changes` what they make of the display: a sample is added for each packet
that is accepted, and a clearing forgets them all.

`display_run` is the invariant over every run of the application: the plots are the end of
the list of samples that were accepted since the last clearing.
-/

namespace OpenSpaceEgse

open Machine

/-- What an event can do to the plots. -/
inductive PlotChange where
  | add (sample : TelemetrySample)
  | clear
deriving DecidableEq, Repr

/-- The samples that are left of some changes: those since the last clearing. -/
def samplesSinceClear : List PlotChange → List TelemetrySample :=
  List.foldl (fun samples change =>
    match change with
    | .add sample => samples ++ [sample]
    | .clear => []) []

/-- The part of the application that the plots are drawn from. -/
structure Plots where
  sampleIndex : ℕ
  x : List ℕ
  temperature : List ℚ
  voltage : List ℚ
  capacity : List ℚ

namespace Plots

def empty : Plots := ⟨0, [], [], [], []⟩

/-- One sample more, of which 200 are kept. -/
def add (plots : Plots) (sample : TelemetrySample) : Plots where
  sampleIndex := plots.sampleIndex + 1
  x := History.push 200 plots.x (plots.sampleIndex + 1)
  temperature := History.push 200 plots.temperature sample.temperatureC
  voltage := History.push 200 plots.voltage sample.voltageV
  capacity := History.push 200 plots.capacity sample.batteryCapacityPct

def change (plots : Plots) : PlotChange → Plots
  | .add sample => plots.add sample
  | .clear => empty

/-- The plots of a list of samples: numbered from 1, the last 200 of them. -/
structure Show (plots : Plots) (samples : List TelemetrySample) : Prop where
  sampleIndex : plots.sampleIndex = samples.length
  x : plots.x = (List.range' 1 samples.length).rtake 200
  temperature : plots.temperature = (samples.map TelemetrySample.temperatureC).rtake 200
  voltage : plots.voltage = (samples.map TelemetrySample.voltageV).rtake 200
  capacity : plots.capacity = (samples.map TelemetrySample.batteryCapacityPct).rtake 200

lemma show_empty : Show empty [] := by
  constructor <;> rfl

lemma Show.add {plots : Plots} {samples : List TelemetrySample} (h : Show plots samples)
    (sample : TelemetrySample) : Show (plots.add sample) (samples ++ [sample]) := by
  constructor
  · rw [Plots.add, h.sampleIndex, List.length_append, List.length_singleton]
  · rw [Plots.add, h.x, h.sampleIndex, History.push_rtake, List.length_append,
      List.length_singleton, List.range'_1_concat, Nat.add_comm 1]
  · rw [Plots.add, h.temperature, History.push_rtake, List.map_append, List.map_singleton]
  · rw [Plots.add, h.voltage, History.push_rtake, List.map_append, List.map_singleton]
  · rw [Plots.add, h.capacity, History.push_rtake, List.map_append, List.map_singleton]

/-- Whatever the changes were, the plots show what is left of them. -/
lemma show_foldl_change (changes : List PlotChange) :
    Show (changes.foldl change empty) (samplesSinceClear changes) := by
  induction changes using List.reverseRecOn with
  | nil => exact show_empty
  | append_singleton changes change ih =>
      rw [samplesSinceClear, List.foldl_concat, List.foldl_concat]
      cases change with
      | add sample => exact ih.add sample
      | clear => exact show_empty

end Plots

namespace EgseGuiApp

variable {P : Type} [SerialLike P]

def plots (self : EgseGuiApp) : Plots :=
  ⟨self.sampleIndex, self.x, self.temperature, self.voltage, self.capacity⟩

/-- The sample of a packet, if it is a telemetry packet with the APID and a payload that
decodes. -/
def accepts (self : EgseGuiApp) (decodedPacket : DecodedSpacePacket) : Option TelemetrySample :=
  let packet := decodedPacket.spacePacket
  if packet.packetType = .telemetry ∧ (packet.apid : ℤ) = self.telemetryApid then
    (decodeTelemetryPayload packet.dataField).toOption
  else none

/-- The packets that an injection hands on. -/
def injected (self : EgseGuiApp) : List DecodedSpacePacket :=
  match self.feedSimulated.1 with
  | .ok (some decodedPackets) => decodedPackets
  | _ => []

/-- The packets that an event hands on. -/
def handles (self : EgseGuiApp) : Event P → List DecodedSpacePacket
  | .fire id =>
      match self.callback id with
      | some .processRxQueue => (Link.taken self.raisesOn self.rxQueue).reduceOption
      | some .runAutoSimulationStep => if self.autoSimRunning then self.injected else []
      | none => []
  | .injectSimulatedTelemetry => self.injected
  | .toggleAutoSimulation => if self.autoSimRunning then [] else self.injected
  | _ => []

/-- What an event does to the plots. -/
def changes (self : EgseGuiApp) : Event P → List PlotChange
  | .clearTelemetryData => [.clear]
  | e => (self.handles e).filterMap fun packet => (self.accepts packet).map .add

omit [SerialLike P] in
/-- All but the clearing change the plots by the packets that they hand on. -/
lemma changes_eq (self : EgseGuiApp) {e : Event P} (h : e ≠ .clearTelemetryData) :
    self.changes e = (self.handles e).filterMap fun packet => (self.accepts packet).map .add := by
  cases e with
  | clearTelemetryData => exact absurd rfl h
  | _ => rfl

/-! ### Handling packets -/

lemma plots_addSample (self : EgseGuiApp) (sample : TelemetrySample) :
    (self.addSample sample).plots = self.plots.add sample := by
  have hpush : ∀ {α : Type} (kept : List α) (a : α),
      dequeAppend kept a = History.push 200 kept a := by
    intro α kept a
    rw [dequeAppend, History.push, List.rtake, List.length_append, List.length_singleton]
    rfl
  simp only [plots, addSample, Plots.add, hpush]

/-- A packet adds the sample that is accepted from it, or nothing. -/
lemma afterPacket_eq (self : EgseGuiApp) (packet : DecodedSpacePacket) :
    self.afterPacket packet = (self.accepts packet).elim self self.addSample := by
  rw [accepts, afterPacket, handleDecodedPacket]
  by_cases htype : packet.spacePacket.packetType = .telemetry
  · by_cases hapid : (packet.spacePacket.apid : ℤ) = self.telemetryApid
    · simp only [if_pos (And.intro htype hapid), if_neg (not_not.mpr htype),
        if_neg (not_not.mpr hapid)]
      cases decodeTelemetryPayload packet.spacePacket.dataField <;> rfl
    · simp only [if_neg fun h : _ ∧ _ => hapid h.2, if_neg (not_not.mpr htype), if_pos hapid]
      rfl
  · simp only [if_neg fun h : _ ∧ _ => htype h.1, if_pos htype]
    rfl

lemma accepts_afterPacket (self : EgseGuiApp) (packet : DecodedSpacePacket) :
    (self.afterPacket packet).accepts = self.accepts := by
  rcases self.afterPacket_cases packet with h | ⟨sample, h⟩
  · rw [h]
  · rw [h]
    rfl

lemma plots_afterPacket (self : EgseGuiApp) (packet : DecodedSpacePacket) :
    (self.afterPacket packet).plots =
      ((self.accepts packet).map PlotChange.add).toList.foldl Plots.change self.plots := by
  rw [afterPacket_eq]
  cases self.accepts packet with
  | none => rfl
  | some sample => exact self.plots_addSample sample

/-- Some packets, one after the other. -/
lemma plots_foldl (self : EgseGuiApp) (packets : List DecodedSpacePacket) :
    (packets.foldl afterPacket self).plots =
      (packets.filterMap fun packet => (self.accepts packet).map .add).foldl Plots.change
        self.plots := by
  induction packets generalizing self with
  | nil => rfl
  | cons packet packets ih =>
      rw [List.foldl_cons, ih, accepts_afterPacket, plots_afterPacket,
        ← List.foldl_append]
      congr 1
      cases h : self.accepts packet <;> simp [h]

/-- A tick hands on the packets up to the first marker, or to the one on which it raises. -/
lemma plots_processItems (self : EgseGuiApp) (items : List (Option DecodedSpacePacket)) :
    (self.processItems items).2.plots =
      (((Link.taken self.raisesOn items).reduceOption).foldl afterPacket self).plots := by
  induction items generalizing self with
  | nil => rfl
  | cons item items ih =>
      cases item with
      | none =>
          exact disconnect_frame (f := plots) (fun _ _ _ _ => rfl) { self with rxQueue := items }
      | some packet =>
          have hraises : raisesOn { self with rxQueue := items } packet = self.raisesOn packet :=
            rfl
          rw [processItems, Link.taken, ← hraises]
          rcases handleDecodedPacket_cases { self with rxQueue := items } packet with
            ⟨hgoes, h⟩ | ⟨hstops, msg, h⟩
          · rw [h, hgoes]
            simp only [Bool.false_eq_true, if_false]
            rw [ih, raisesOn_afterPacket, List.reduceOption_cons_of_some, List.foldl_cons,
              plots_foldl, plots_foldl, accepts_afterPacket, accepts_afterPacket,
              plots_afterPacket, plots_afterPacket]
            rfl
          · -- the packet that raises adds nothing
            have hkept : self.afterPacket packet = self := by
              rcases self.handleDecodedPacket_cases packet with ⟨hgoes, -⟩ | ⟨-, msg', h'⟩
              · rw [hraises, hgoes] at hstops
                exact absurd hstops (by simp)
              · exact congrArg Prod.snd h'
            rw [h, hstops]
            simp only [if_true]
            exact (congrArg plots hkept).symm

lemma plots_injectSimulatedTelemetry (self : EgseGuiApp) :
    self.injectSimulatedTelemetry.2.plots =
      (self.injected.foldl afterPacket self).plots := by
  obtain ⟨receiver, hreceiver⟩ := self.exists_feedSimulated_snd
  rw [injectSimulatedTelemetry, injected]
  rcases hfeed : self.feedSimulated with ⟨e | _ | packets, self'⟩
  all_goals
    rw [hfeed] at hreceiver
    obtain rfl : self' = { self with receiver := receiver } := hreceiver
  · rfl
  · rfl
  · simp only [handleDecodedPackets_of_feedSimulated hfeed]
    show (packets.foldl afterPacket { self with receiver := receiver }).plots = _
    rw [plots_foldl, plots_foldl]
    rfl

/-- What an injection hands on depends on what it builds its stream from, and on the
receiver. -/
lemma injected_congr {self other : EgseGuiApp}
    (hfields : other.simulationFields = self.simulationFields)
    (hstream : other.simulatedStream = self.simulatedStream)
    (hreceiver : other.receiver = self.receiver) : other.injected = self.injected := by
  rw [injected, injected, feedSimulated, feedSimulated, hfields, hstream, hreceiver]
  rcases self.simulationFields with e | ⟨tmApid, spacecraftId, virtualChannelId⟩
  · cases e <;> rfl
  · dsimp only
    rcases self.simulatedStream tmApid spacecraftId virtualChannelId with e | uartStream
    · rfl
    · dsimp only
      rcases self.receiver.processUartBytes uartStream with ⟨e | decodedPackets, receiver⟩ <;> rfl

lemma plots_armAutoSimulation (self : EgseGuiApp) :
    self.armAutoSimulation.2.plots = self.plots := by
  rw [armAutoSimulation]
  split <;> rfl

lemma plots_runAutoSimulationStep (self : EgseGuiApp) :
    self.runAutoSimulationStep.2.plots =
      ((if self.autoSimRunning then self.injected
        else []).foldl afterPacket self).plots := by
  have hinject := self.plots_injectSimulatedTelemetry
  rw [runAutoSimulationStep]
  split_ifs
  · rw [← hinject]
    generalize self.injectSimulatedTelemetry = outcome
    rcases outcome with ⟨e | _, self'⟩
    · rfl
    · exact self'.plots_armAutoSimulation
  · rfl

/-! ### Whole runs -/

/-- An event changes the plots by the packets that it hands on, or clears them. -/
theorem plots_step (self : EgseGuiApp) (e : Event P) :
    (self.step e).plots = (self.changes e).foldl Plots.change self.plots := by
  cases e with
  | connect answer => exact connect_frame (f := plots) (fun _ _ _ _ => rfl) self answer
  | disconnect => exact disconnect_frame (f := plots) (fun _ _ _ _ => rfl) self
  | rxPick => exact rxPick_frame (f := plots) (fun _ _ => rfl) self
  | rxPoll port => exact rxPoll_frame (f := plots) (fun _ _ _ _ => rfl) self port
  | fire id =>
      rw [step, fire, self.changes_eq (by simp), handles]
      cases h : self.callback id with
      | none => rfl
      | some callback =>
          cases callback with
          | processRxQueue =>
              refine (processRxQueue_frame (f := plots) (fun _ _ => rfl) _).trans ?_
              refine (plots_processItems _ _).trans ?_
              exact plots_foldl { self with root := self.root.afterCancel id } _
          | runAutoSimulationStep =>
              -- what is injected does not depend on the timer that fired
              have hsame : injected { self with root := self.root.afterCancel id } =
                  self.injected := injected_congr rfl rfl rfl
              refine (plots_runAutoSimulationStep _).trans ?_
              rw [hsame]
              exact plots_foldl { self with root := self.root.afterCancel id } _
  | injectSimulatedTelemetry =>
      refine self.plots_injectSimulatedTelemetry.trans ?_
      exact self.plots_foldl self.injected
  | clearTelemetryData => rfl
  | toggleAutoSimulation =>
      rw [step, toggleAutoSimulation, self.changes_eq (by simp), handles]
      split_ifs
      · rw [stopAutoSimulation]
        split <;> rfl
      · have hsame : injected { self with autoSimRunning := true } = self.injected :=
          injected_congr rfl rfl rfl
        refine (plots_runAutoSimulationStep _).trans ?_
        rw [hsame, if_pos rfl]
        exact plots_foldl { self with autoSimRunning := true } self.injected
  | toggleSimFrequency =>
      rw [step, toggleSimFrequency]
      split_ifs
      · dsimp only
        split <;> exact plots_armAutoSimulation _
      · rfl
  | edit field text => cases field <;> rfl

/-- The plots behind a run are made of the changes on the way. -/
lemma plots_run (self : EgseGuiApp) (events : List (Event P)) :
    (run step self events).plots =
      (trace step changes self events).foldl Plots.change self.plots := by
  have hkeep : ∀ (app : EgseGuiApp) (e : Event P) (past : List PlotChange),
      app.plots = past.foldl Plots.change self.plots → True →
        (app.step e).plots = (past ++ app.changes e).foldl Plots.change self.plots := by
    rintro app e past happ -
    rw [plots_step, happ, List.foldl_append]
  exact trace_history hkeep [] rfl (Along.always step self events)

/-- **What the plots show.**  Behind every run of the application, they show the samples
that were accepted since the last clearing, from the queue and from injections alike: the
last 200 of them, in the order in which their packets were handed on, and numbered from
the clearing. -/
theorem display_run (events : List (Event P)) :
    (run step init events).plots.Show (samplesSinceClear (trace step changes init events)) := by
  rw [plots_run]
  exact Plots.show_foldl_change _

end EgseGuiApp

end OpenSpaceEgse
