import OpenSpaceEgse.Gui.EventLoop
import OpenSpaceEgse.Library.Alarm
import OpenSpaceEgse.Library.Runs
import Mathlib.Data.List.Nodup

/-!
# The automatic simulation

The automatic simulation repeats an injection through a timer of Tk.  `pace` is the part
of the application that this rests on, and `alarm_step` the refinement: every event takes
a step of an alarm, in which the action fails exactly if it meets text fields that are
numbers out of their ranges.  Everything else that an injection may meet it survives, so
`auto_simulation_iff` says when the timer and its handle are in order all along.
-/

namespace OpenSpaceEgse

open Machine Wire

/-! ## The timers of Tk -/

namespace Root

variable {root : Root} {id : ℕ} {callback : Callback}

/-- The timers with a callback, by their numbers. -/
def scheduled (root : Root) (callback : Callback) : List ℕ :=
  (root.timers.filter (·.callback = callback)).map Timer.id

/-- No number is given twice. -/
structure Numbered (root : Root) : Prop where
  nodup : (root.timers.map Timer.id).Nodup
  lt : ∀ t ∈ root.timers, t.id < root.nextId

lemma Numbered.after (h : root.Numbered) (delayMs : ℤ) (callback : Callback) :
    (root.after delayMs callback).2.Numbered := by
  obtain ⟨hnodup, hlt⟩ := h
  constructor
  · rw [Root.after, List.map_append]
    refine List.nodup_append.mpr ⟨hnodup, by simp, ?_⟩
    rintro id hid _ hnew rfl
    obtain ⟨t, ht, rfl⟩ := List.mem_map.mp hid
    have := hlt t ht
    simp only [List.map_cons, List.map_nil, List.mem_singleton] at hnew
    omega
  · intro t ht
    rcases List.mem_append.mp ht with hold | hnew
    · exact Nat.lt_succ_of_lt (hlt t hold)
    · rw [List.mem_singleton.mp hnew]
      exact Nat.lt_succ_self root.nextId

lemma Numbered.afterCancel (h : root.Numbered) (id : ℕ) : (root.afterCancel id).Numbered := by
  constructor
  · exact h.nodup.sublist (List.filter_sublist.map Timer.id)
  · intro t ht
    exact h.lt t (List.mem_of_mem_filter ht)

lemma scheduled_after (root : Root) (delayMs : ℤ) (callback callback' : Callback) :
    (root.after delayMs callback').2.scheduled callback =
      if callback' = callback then root.scheduled callback ++ [root.nextId]
      else root.scheduled callback := by
  rw [Root.after, scheduled, List.filter_append, List.map_append]
  split_ifs with h
  · simp [scheduled, h]
  · simp [scheduled, h]

lemma scheduled_afterCancel (root : Root) (id : ℕ) (callback : Callback) :
    (root.afterCancel id).scheduled callback = (root.scheduled callback).filter (· ≠ id) := by
  rw [afterCancel, scheduled, scheduled, List.filter_map, List.filter_filter, List.filter_filter]
  congr 2
  funext t
  simp [Bool.and_comm]

/-- A timer has one callback. -/
lemma Numbered.callback_unique (h : root.Numbered) {callback' : Callback}
    (hid : id ∈ root.scheduled callback) (hid' : id ∈ root.scheduled callback') :
    callback = callback' := by
  simp only [scheduled, List.mem_map, List.mem_filter, decide_eq_true_eq] at hid hid'
  obtain ⟨t, ⟨ht, rfl⟩, rfl⟩ := hid
  obtain ⟨t', ⟨ht', rfl⟩, hsame⟩ := hid'
  rw [List.inj_on_of_nodup_map h.nodup ht' ht hsame]

end Root

/-! ## What the timer of the automatic simulation rests on -/

/-- The part of the application that concerns the pace of the simulation. -/
structure Pace where
  running : Bool
  afterId : Option ℕ
  frequencyIndex : ℕ
  packetSequence : ℕ
  frameCount : ℕ
  root : Root

namespace Pace

def alarm (p : Pace) : Alarm where
  running := p.running
  handle := p.afterId
  pending := p.root.scheduled .runAutoSimulationStep

/-- The counters fit their fields, the frequency is one of the options, and no two timers
have the same number. -/
structure Sound (p : Pace) : Prop where
  packetSequence_le : p.packetSequence ≤ 0x3FFF
  frameCount_le : p.frameCount ≤ 0xFF
  frequencyIndex_lt : p.frequencyIndex < guiSimFrequencyOptionsHz.length
  numbered : p.root.Numbered

/-- The counters advance. -/
def counted (p : Pace) : Pace :=
  { p with
    packetSequence := (p.packetSequence + 1) &&& 0x3FFF
    frameCount := (p.frameCount + 1) &&& 0xFF }

def arm (p : Pace) (delayMs : ℤ) : Pace :=
  { p with
    afterId := some p.root.nextId
    root := (p.root.after delayMs .runAutoSimulationStep).2 }

def afterCancel (p : Pace) (id : ℕ) : Pace := { p with root := p.root.afterCancel id }

variable {p : Pace}

lemma Sound.counted (h : p.Sound) : p.counted.Sound :=
  ⟨Nat.and_le_right, Nat.and_le_right, h.frequencyIndex_lt, h.numbered⟩

lemma Sound.arm (h : p.Sound) (delayMs : ℤ) : (p.arm delayMs).Sound :=
  ⟨h.packetSequence_le, h.frameCount_le, h.frequencyIndex_lt, h.numbered.after _ _⟩

lemma Sound.afterCancel (h : p.Sound) (id : ℕ) : (p.afterCancel id).Sound :=
  ⟨h.packetSequence_le, h.frameCount_le, h.frequencyIndex_lt, h.numbered.afterCancel id⟩

lemma alarm_arm (p : Pace) (delayMs : ℤ) : (p.arm delayMs).alarm = p.alarm.arm p.root.nextId := by
  rw [alarm, arm, Root.scheduled_after, if_pos rfl]
  rfl

lemma alarm_afterCancel (p : Pace) (id : ℕ) : (p.afterCancel id).alarm = p.alarm.drop id := by
  rw [alarm, afterCancel, Root.scheduled_afterCancel]
  rfl

end Pace

namespace EgseGuiApp

variable {P : Type}

def pace (self : EgseGuiApp) : Pace where
  running := self.autoSimRunning
  afterId := self.autoSimAfterId
  frequencyIndex := self.simFrequencyIndex
  packetSequence := self.simTmPacketSequence
  frameCount := self.simTmFrameCount
  root := self.root

/-! ### Events that leave the pace alone -/

lemma pace_disconnect (self : EgseGuiApp) : self.disconnect.pace = self.pace :=
  disconnect_frame (f := pace) (fun _ _ _ _ => rfl) self

lemma pace_connect (self : EgseGuiApp) (answer : String → ℤ → Except PyError Unit) :
    (self.connect answer).2.pace = self.pace :=
  connect_frame (f := pace) (fun _ _ _ _ => rfl) self answer

lemma pace_rxPick (self : EgseGuiApp) : self.rxPick.pace = self.pace :=
  rxPick_frame (f := pace) (fun _ _ => rfl) self

lemma pace_rxPoll [SerialLike P] (self : EgseGuiApp) (port : P) :
    (self.rxPoll port).pace = self.pace :=
  rxPoll_frame (f := pace) (fun _ _ _ _ => rfl) self port

lemma pace_setText (self : EgseGuiApp) (field : TextField) (text : String) :
    (self.setText text field).pace = self.pace := by
  cases field <;> rfl

lemma pace_processItems (self : EgseGuiApp) (items : List (Option DecodedSpacePacket)) :
    (self.processItems items).2.pace = self.pace :=
  processItems_frame (f := pace) (fun _ _ => rfl) (fun _ _ => rfl) pace_disconnect self items

/-- A tick arms the next timer, unless it raises. -/
lemma pace_processRxQueue (self : EgseGuiApp) :
    (self.processRxQueue.1 = .ok () ∧ self.processRxQueue.2.pace =
        { self.pace with root := (self.root.after guiUpdateIntervalMs .processRxQueue).2 }) ∨
      self.processRxQueue.1 ≠ .ok () ∧ self.processRxQueue.2.pace = self.pace := by
  have hitems := self.pace_processItems self.rxQueue
  have hroot : (self.processItems self.rxQueue).2.root = self.root := congrArg Pace.root hitems
  rcases self.processRxQueue_cases with ⟨-, h⟩ | ⟨e, -, h⟩
  · rw [h, ← hitems, ← hroot]
    exact Or.inl ⟨rfl, rfl⟩
  · rw [h]
    exact Or.inr ⟨by simp, hitems⟩

/-! ### One injection -/

/-- The text fields are numbers, and one of them is out of its range. -/
def OutOfRange (self : EgseGuiApp) : Prop :=
  ∃ tmApid spacecraftId virtualChannelId,
    self.simulationFields = .ok (tmApid, spacecraftId, virtualChannelId) ∧
      ¬ InRange tmApid spacecraftId virtualChannelId

instance (self : EgseGuiApp) : Decidable self.OutOfRange :=
  match h : self.simulationFields with
  | .error e => isFalse fun ⟨_, _, _, hok, _⟩ => by simp [h] at hok
  | .ok (tmApid, spacecraftId, virtualChannelId) =>
      decidable_of_iff (¬ InRange tmApid spacecraftId virtualChannelId) (by simp [OutOfRange, h])

lemma simulationFields_raises (self : EgseGuiApp) : OnlyValueErrors self.simulationFields :=
  .bind (intOfText_raises _) fun _ => .bind (intOfText_raises _) fun _ =>
    .bind (intOfText_raises _) fun _ => .ok _

/-- Numbers out of range raise, before anything was changed. -/
lemma injectSimulatedTelemetry_of_outOfRange {self : EgseGuiApp} (hfit : self.CountersFit)
    (h : self.OutOfRange) : ∃ e, self.injectSimulatedTelemetry = (.error e, self) := by
  obtain ⟨tmApid, spacecraftId, virtualChannelId, hfields, hrange⟩ := h
  cases hstream : self.simulatedStream tmApid spacecraftId virtualChannelId with
  | ok uartStream => exact absurd ((exists_simulatedStream_iff hfit).mp ⟨_, hstream⟩) hrange
  | error e =>
      refine ⟨e, ?_⟩
      rw [injectSimulatedTelemetry, feedSimulated, hfields]
      simp only [hstream]

/-- Otherwise an injection returns; the counters advance, or a text field was no number. -/
lemma injectSimulatedTelemetry_of_not {self : EgseGuiApp} (hfit : self.CountersFit)
    (h : ¬ self.OutOfRange) :
    self.injectSimulatedTelemetry.1 = .ok () ∧
      (self.injectSimulatedTelemetry.2.pace = self.pace ∨
        self.injectSimulatedTelemetry.2.pace = self.pace.counted) := by
  cases hfields : self.simulationFields with
  | error e =>
      obtain ⟨msg, rfl⟩ := self.simulationFields_raises e hfields
      rw [injectSimulatedTelemetry, feedSimulated, hfields]
      exact ⟨rfl, Or.inl rfl⟩
  | ok fields =>
      obtain ⟨tmApid, spacecraftId, virtualChannelId⟩ := fields
      have hrange : InRange tmApid spacecraftId virtualChannelId := by
        by_contra hnot
        exact h ⟨_, _, _, hfields, hnot⟩
      obtain ⟨packet, -, -, -, hfeed⟩ := feedSimulated_of_inRange hfit hfields hrange
      have hpackets := foldl_afterPacket (f := pace) (fun _ _ => rfl)
        { self with receiver := ⟨SdlpUartStreamParser.clean⟩ }
        (self.receiver.packets [slipEnd] ++ [⟨.tm, packet⟩])
      rw [injectSimulatedTelemetry, hfeed]
      simp only [handleDecodedPackets_of_feedSimulated hfeed]
      exact ⟨trivial, Or.inr (congrArg Pace.counted hpackets)⟩

/-! ### The timer -/

lemma currentAutoSimIntervalMs_eq_ok {self : EgseGuiApp} (h : self.pace.Sound) :
    ∃ delayMs, self.currentAutoSimIntervalMs = .ok delayMs := by
  have hpos : ∀ f ∈ guiSimFrequencyOptionsHz, 0 < f := by simp [guiSimFrequencyOptionsHz]
  have hlt : self.simFrequencyIndex < guiSimFrequencyOptionsHz.length := h.frequencyIndex_lt
  have hfrequency : ¬ self.currentSimFrequencyHz ≤ 0 := by
    rw [currentSimFrequencyHz, List.getD_eq_getElem?_getD, List.getElem?_eq_getElem hlt,
      Option.getD_some]
    exact not_le.mpr (hpos _ (List.getElem_mem hlt))
  exact ⟨_, if_neg hfrequency⟩

lemma pace_armAutoSimulation {self : EgseGuiApp} (h : self.pace.Sound) :
    ∃ delayMs, self.armAutoSimulation.2.pace = self.pace.arm delayMs := by
  obtain ⟨delayMs, hdelay⟩ := currentAutoSimIntervalMs_eq_ok h
  refine ⟨delayMs, ?_⟩
  rw [armAutoSimulation, hdelay]
  rfl

/-- A step of the running simulation leaves no timer behind if it meets numbers out of
range, and a new one otherwise. -/
lemma pace_runAutoSimulationStep {self : EgseGuiApp} (h : self.pace.Sound)
    (hrunning : self.autoSimRunning = true) :
    (self.OutOfRange → self.runAutoSimulationStep.2.pace = self.pace) ∧
      (¬ self.OutOfRange → ∃ p delayMs, (p = self.pace ∨ p = self.pace.counted) ∧
        self.runAutoSimulationStep.2.pace = p.arm delayMs) := by
  have hfit : self.CountersFit := ⟨h.packetSequence_le, h.frameCount_le⟩
  rw [runAutoSimulationStep, if_pos hrunning]
  constructor
  · intro hout
    obtain ⟨e, hinject⟩ := injectSimulatedTelemetry_of_outOfRange hfit hout
    rw [hinject]
  · intro hin
    obtain ⟨hok, hpace⟩ := injectSimulatedTelemetry_of_not hfit hin
    rcases hinject : self.injectSimulatedTelemetry with ⟨result, self'⟩
    rw [hinject] at hok hpace
    obtain rfl : result = .ok () := hok
    have hsound : self'.pace.Sound := by
      rcases hpace with hsame | hcounted
      · exact hsame ▸ h
      · exact hcounted ▸ h.counted
    obtain ⟨delayMs, harm⟩ := pace_armAutoSimulation hsound
    exact ⟨self'.pace, delayMs, hpace, harm⟩

lemma mem_scheduled_of_callback {self : EgseGuiApp} {id : ℕ} {callback : Callback}
    (h : self.callback id = some callback) : id ∈ self.root.scheduled callback := by
  obtain ⟨t, ht, rfl⟩ := Option.map_eq_some_iff.mp h
  have hid : t.id = id := by simpa using List.find?_some ht
  refine List.mem_map.mpr ⟨t, ?_, hid⟩
  exact List.mem_filter.mpr ⟨List.mem_of_find?_eq_some ht, by simp⟩

/-! ### Refinement -/

/-- The event performs a step of the automatic simulation. -/
def RunsStep (self : EgseGuiApp) : Event P → Prop
  | .toggleAutoSimulation => self.autoSimRunning = false
  | .fire id => self.autoSimRunning = true ∧ self.callback id = some .runAutoSimulationStep
  | _ => False

/-- It does so while the text fields are numbers of which one is out of its range. -/
def Fails (self : EgseGuiApp) (e : Event P) : Prop := self.RunsStep e ∧ self.OutOfRange

instance (self : EgseGuiApp) : ∀ e : Event P, Decidable (self.RunsStep e)
  | .toggleAutoSimulation => inferInstanceAs (Decidable (_ = _))
  | .fire _ => inferInstanceAs (Decidable (_ ∧ _))
  | .connect _ | .disconnect | .rxPick | .rxPoll _ | .injectSimulatedTelemetry
  | .clearTelemetryData | .toggleSimFrequency | .edit _ _ => isFalse not_false

instance (self : EgseGuiApp) (e : Event P) : Decidable (self.Fails e) :=
  inferInstanceAs (Decidable (_ ∧ _))

/-- From `self`, a step to `self'` that fails or does not is a step of the alarm. -/
def Refines (self self' : EgseGuiApp) (fails : Prop) : Prop :=
  self'.pace.Sound ∧ ∃ failed, (failed = true ↔ fails) ∧
    Alarm.Step self.pace.alarm failed self'.pace.alarm

lemma Refines.stays {self self' : EgseGuiApp} {fails : Prop} (h : self.pace.Sound)
    (hpace : self'.pace = self.pace) (hnot : ¬ fails) : self.Refines self' fails := by
  refine ⟨hpace ▸ h, false, by simp [hnot], ?_⟩
  rw [hpace]
  exact .stays _

/-- On the alarm, a step of the running simulation does nothing if it meets numbers out of
range, and arms it otherwise. -/
lemma alarm_runAutoSimulationStep {self : EgseGuiApp} (h : self.pace.Sound)
    (hrunning : self.autoSimRunning = true) :
    self.runAutoSimulationStep.2.pace.Sound ∧
      (self.OutOfRange → self.runAutoSimulationStep.2.pace.alarm = self.pace.alarm) ∧
      (¬ self.OutOfRange →
        ∃ id, self.runAutoSimulationStep.2.pace.alarm = self.pace.alarm.arm id) := by
  obtain ⟨hfail, harm⟩ := pace_runAutoSimulationStep h hrunning
  by_cases hout : self.OutOfRange
  · have hpace := hfail hout
    exact ⟨hpace ▸ h, fun _ => congrArg Pace.alarm hpace, fun hnot => absurd hout hnot⟩
  · obtain ⟨p, delayMs, hp, hpace⟩ := harm hout
    have hsound : p.Sound := by
      rcases hp with rfl | rfl
      · exact h
      · exact h.counted
    have halarm : p.alarm = self.pace.alarm := by
      rcases hp with rfl | rfl
      · rfl
      · rfl
    refine ⟨hpace ▸ hsound.arm delayMs, fun hyes => absurd hyes hout, fun _ => ?_⟩
    exact ⟨p.root.nextId, by rw [hpace, p.alarm_arm, halarm]⟩

lemma refines_stopAutoSimulation {self : EgseGuiApp} (h : self.pace.Sound) {fails : Prop}
    (hnot : ¬ fails) : self.Refines self.stopAutoSimulation fails := by
  have hstep : self.stopAutoSimulation.pace.Sound ∧
      self.stopAutoSimulation.pace.alarm = self.pace.alarm.stop := by
    rw [stopAutoSimulation]
    cases hid : self.autoSimAfterId with
    | none =>
        refine ⟨⟨h.packetSequence_le, h.frameCount_le, h.frequencyIndex_lt, h.numbered⟩, ?_⟩
        simp only [Alarm.stop, Alarm.cancel, pace, Pace.alarm, hid]
    | some id =>
        refine ⟨⟨h.packetSequence_le, h.frameCount_le, h.frequencyIndex_lt,
          h.numbered.afterCancel id⟩, ?_⟩
        simp only [Alarm.stop, Alarm.cancel, Alarm.drop, pace, Pace.alarm, hid,
          Root.scheduled_afterCancel]
  refine ⟨hstep.1, false, by simp [hnot], ?_⟩
  rw [hstep.2]
  exact .stops _

lemma refines_toggleSimFrequency {self : EgseGuiApp} (h : self.pace.Sound) {fails : Prop}
    (hnot : ¬ fails) : self.Refines self.toggleSimFrequency.2 fails := by
  have hindex : (self.simFrequencyIndex + 1) % guiSimFrequencyOptionsHz.length <
      guiSimFrequencyOptionsHz.length := Nat.mod_lt _ (by decide)
  -- whatever was cancelled before, the timer is armed anew
  have harms : ∀ self' : EgseGuiApp, self'.pace.Sound →
      self'.pace.alarm = self.pace.alarm.cancel → self.autoSimRunning = true →
      self.Refines self'.armAutoSimulation.2 fails := by
    intro self' hsound halarm hrunning
    obtain ⟨delayMs, hpace⟩ := pace_armAutoSimulation hsound
    refine ⟨hpace ▸ hsound.arm delayMs, false, by simp [hnot], ?_⟩
    rw [hpace, Pace.alarm_arm, halarm]
    exact .rearms _ _ hrunning
  rw [toggleSimFrequency]
  split_ifs with hrunning
  · cases hid : self.autoSimAfterId with
    | none =>
        refine harms _ ⟨h.packetSequence_le, h.frameCount_le, hindex, h.numbered⟩ ?_ hrunning
        simp only [Alarm.cancel, pace, Pace.alarm, hid]
    | some id =>
        refine harms _ ⟨h.packetSequence_le, h.frameCount_le, hindex,
          h.numbered.afterCancel id⟩ ?_ hrunning
        simp only [Alarm.cancel, Alarm.drop, pace, Pace.alarm, hid, Root.scheduled_afterCancel]
  · refine ⟨⟨h.packetSequence_le, h.frameCount_le, hindex, h.numbered⟩, false, by simp [hnot], ?_⟩
    exact .stays _

lemma refines_toggleAutoSimulation {self : EgseGuiApp} (h : self.pace.Sound) :
    self.Refines self.toggleAutoSimulation.2
      (self.Fails (.toggleAutoSimulation : Event P)) := by
  rw [toggleAutoSimulation]
  split_ifs with hrunning
  · refine refines_stopAutoSimulation h ?_
    rintro ⟨hstopped, -⟩
    exact absurd (hrunning.symm.trans hstopped) (by simp)
  · have hstopped : self.autoSimRunning = false := by simpa using hrunning
    have hsound : { self with autoSimRunning := true }.pace.Sound :=
      ⟨h.packetSequence_le, h.frameCount_le, h.frequencyIndex_lt, h.numbered⟩
    obtain ⟨hafter, hfail, harm⟩ := alarm_runAutoSimulationStep hsound rfl
    refine ⟨hafter, ?_⟩
    by_cases hout : self.OutOfRange
    · refine ⟨true, by simp [Fails, RunsStep, hstopped, hout], ?_⟩
      rw [hfail hout]
      exact .startFails self.pace.alarm hstopped
    · obtain ⟨id, halarm⟩ := harm hout
      refine ⟨false, by simp [Fails, hout], ?_⟩
      rw [halarm]
      exact .starts self.pace.alarm id hstopped

/-- `_process_rx_queue` arms at most its own timer and leaves that of the simulation alone. -/
lemma refines_processRxQueue {self : EgseGuiApp} (h : self.pace.Sound) {id : ℕ}
    (hid : self.callback id = some .processRxQueue) {fails : Prop} (hnot : ¬ fails) :
    self.Refines ({ self with root := self.root.afterCancel id }.processRxQueue).2 fails := by
  have hnumbered : self.root.Numbered := h.numbered
  -- the timer that fires is none of the simulation
  have hother : id ∉ self.root.scheduled .runAutoSimulationStep := by
    intro hmem
    exact absurd (hnumbered.callback_unique hmem (mem_scheduled_of_callback hid)) (by simp)
  have hfilter : (self.root.scheduled .runAutoSimulationStep).filter (· ≠ id) =
      self.root.scheduled .runAutoSimulationStep := by
    refine List.filter_eq_self.mpr ?_
    intro id' hid'
    exact decide_eq_true fun heq => hother (heq ▸ hid')
  have hkept : (self.pace.afterCancel id).alarm = self.pace.alarm := by
    rw [Pace.alarm_afterCancel]
    exact congrArg (Alarm.mk _ _) hfilter
  rcases pace_processRxQueue { self with root := self.root.afterCancel id } with
    ⟨-, hpace⟩ | ⟨-, hpace⟩
  · have halarm : ({ self with root := self.root.afterCancel id }.processRxQueue).2.pace.alarm =
        self.pace.alarm := by
      rw [← hkept, hpace, Pace.alarm, Root.scheduled_after, if_neg (by simp)]
      rfl
    refine ⟨?_, false, by simp [hnot], ?_⟩
    · rw [hpace]
      exact ⟨h.packetSequence_le, h.frameCount_le, h.frequencyIndex_lt,
        (hnumbered.afterCancel id).after _ _⟩
    · rw [halarm]
      exact .stays _
  · have halarm : ({ self with root := self.root.afterCancel id }.processRxQueue).2.pace.alarm =
        self.pace.alarm := by
      rw [hpace]
      exact hkept
    refine ⟨?_, false, by simp [hnot], ?_⟩
    · rw [hpace]
      exact h.afterCancel id
    · rw [halarm]
      exact .stays _

/-- The timer of the simulation fires. -/
lemma refines_runAutoSimulationStep {self : EgseGuiApp} (h : self.pace.Sound) {id : ℕ}
    (hid : self.callback id = some .runAutoSimulationStep) :
    self.Refines ({ self with root := self.root.afterCancel id }.runAutoSimulationStep).2
      (self.Fails (.fire id : Event P)) := by
  have hsound : (self.pace.afterCancel id).Sound := h.afterCancel id
  have hdrop := self.pace.alarm_afterCancel id
  have hpending : id ∈ self.pace.alarm.pending := mem_scheduled_of_callback hid
  by_cases hrunning : self.autoSimRunning = true
  · have hfired : { self with root := self.root.afterCancel id }.pace.Sound := hsound
    obtain ⟨hafter, hfail, harm⟩ := alarm_runAutoSimulationStep hfired hrunning
    refine ⟨hafter, ?_⟩
    by_cases hout : self.OutOfRange
    · refine ⟨true, by simp [Fails, RunsStep, hrunning, hid, hout], ?_⟩
      rw [hfail hout]
      exact hdrop ▸ .repeatFails self.pace.alarm id hrunning hpending
    · obtain ⟨new, halarm⟩ := harm hout
      refine ⟨false, by simp [Fails, hout], ?_⟩
      rw [halarm]
      exact hdrop ▸ .repeats self.pace.alarm id new hrunning hpending
  · -- a timer that was armed while the simulation ran does nothing any more
    have hstopped : self.autoSimRunning = false := by simpa using hrunning
    rw [runAutoSimulationStep, if_neg hrunning]
    refine ⟨hsound, false, by simp [Fails, RunsStep, hstopped], ?_⟩
    exact hdrop ▸ .lapses self.pace.alarm id hstopped

lemma refines_fire {self : EgseGuiApp} (h : self.pace.Sound) (id : ℕ) :
    self.Refines (self.fire id) (self.Fails (.fire id : Event P)) := by
  rw [fire]
  cases hid : self.callback id with
  | none => exact .stays h rfl fun hfails => absurd hfails.1.2 (by simp [hid])
  | some callback =>
      cases callback with
      | processRxQueue =>
          exact refines_processRxQueue h hid fun hfails => absurd hfails.1.2 (by simp [hid])
      | runAutoSimulationStep => exact refines_runAutoSimulationStep h hid

lemma refines_injectSimulatedTelemetry {self : EgseGuiApp} (h : self.pace.Sound) {fails : Prop}
    (hnot : ¬ fails) : self.Refines self.injectSimulatedTelemetry.2 fails := by
  have hfit : self.CountersFit := ⟨h.packetSequence_le, h.frameCount_le⟩
  by_cases hout : self.OutOfRange
  · obtain ⟨e, hinject⟩ := injectSimulatedTelemetry_of_outOfRange hfit hout
    rw [hinject]
    exact .stays h rfl hnot
  · obtain ⟨-, hsame | hcounted⟩ := injectSimulatedTelemetry_of_not hfit hout
    · exact .stays h hsame hnot
    · refine ⟨hcounted ▸ h.counted, false, by simp [hnot], ?_⟩
      rw [hcounted]
      exact .stays self.pace.alarm

/-- **Refinement.**  Every event takes a step of the alarm, in which the action fails
exactly if it meets numbers out of range. -/
theorem alarm_step [SerialLike P] {self : EgseGuiApp} (h : self.pace.Sound) (e : Event P) :
    self.Refines (self.step e) (self.Fails e) := by
  cases e with
  | connect answer => exact .stays h (self.pace_connect answer) fun hfails => hfails.1
  | disconnect => exact .stays h self.pace_disconnect fun hfails => hfails.1
  | rxPick => exact .stays h self.pace_rxPick fun hfails => hfails.1
  | rxPoll port => exact .stays h (self.pace_rxPoll port) fun hfails => hfails.1
  | fire id => exact refines_fire h id
  | injectSimulatedTelemetry => exact refines_injectSimulatedTelemetry h fun hfails => hfails.1
  | clearTelemetryData => exact .stays h rfl fun hfails => hfails.1
  | toggleAutoSimulation => exact refines_toggleAutoSimulation h
  | toggleSimFrequency => exact refines_toggleSimFrequency h fun hfails => hfails.1
  | edit field text => exact .stays h (self.pace_setText field text) fun hfails => hfails.1

/-! ## Whole runs -/

lemma sound_init : init.pace.Sound :=
  ⟨by decide, by decide, by decide, by decide, by decide⟩

/-- Between two events, exactly one step of the automatic simulation is scheduled while
that is running, under the number in `_auto_sim_after_id`, and none while it is not. -/
def TimerInOrder (self : EgseGuiApp) : Prop :=
  (self.autoSimRunning = true → ∃ id, self.autoSimAfterId = some id ∧
    self.root.scheduled .runAutoSimulationStep = [id]) ∧
    (self.autoSimRunning = false → self.root.scheduled .runAutoSimulationStep = [])

lemma timerInOrder_iff (self : EgseGuiApp) : self.TimerInOrder ↔ self.pace.alarm.Armed := by
  constructor
  · rintro ⟨hrunning, hstopped⟩
    exact ⟨hrunning, hstopped⟩
  · rintro ⟨hrunning, hstopped⟩
    exact ⟨hrunning, hstopped⟩

lemma timerInOrder_init : init.TimerInOrder := ⟨by decide, by decide⟩

/-- A sound application keeps its timer in order in the events that do not fail, and in no
other. -/
theorem timerInOrder_step [SerialLike P] {self : EgseGuiApp} (hsound : self.pace.Sound)
    (horder : self.TimerInOrder) (e : Event P) :
    (self.step e).pace.Sound ∧ ((self.step e).TimerInOrder ↔ ¬ self.Fails e) := by
  obtain ⟨hsound', failed, hfailed, hstep⟩ := alarm_step hsound e
  rw [timerInOrder_iff] at horder ⊢
  refine ⟨hsound', ?_⟩
  constructor
  · rintro hnext hfails
    obtain rfl : failed = true := hfailed.mpr hfails
    exact hstep.not_armed horder hnext
  · intro hnot
    obtain rfl : failed = false := by simpa using mt hfailed.mp hnot
    exact hstep.armed horder

/-- **When the timer of the automatic simulation is in order.**  It is in order in all the
states of a run if and only if no step of the automatic simulation meets text fields that
are numbers of which one is out of its range. -/
theorem auto_simulation_iff [SerialLike P] (events : List (Event P)) :
    (∀ past, past <+: events → (run step init past).TimerInOrder) ↔
      Along step (fun self e => ¬ self.Fails e) init events := by
  have hstep : ∀ (self : EgseGuiApp) (e : Event P), self.pace.Sound → self.TimerInOrder →
      (self.step e).pace.Sound ∧ ((self.step e).TimerInOrder ↔ ¬ self.Fails e) :=
    fun _ e hsound horder => timerInOrder_step hsound horder e
  exact Along.states_iff_of_step hstep sound_init timerInOrder_init

/-- Text that is no number does no harm, neither does a range that is left while nothing
runs. -/
example : Along step (fun self e => ¬ self.Fails e) init
    ([.toggleAutoSimulation, .edit .vcid "x", .fire 1, .toggleSimFrequency, .fire 3,
      .toggleAutoSimulation, .edit .vcid "8", .injectSimulatedTelemetry] :
      List (Event PortAnswer)) := by decide

/-- The virtual channel is one of a TC frame, but of no TM frame, when the automatic
simulation is started. -/
def stuckRun : List (Event PortAnswer) := [.edit .vcid "8", .toggleAutoSimulation]

/-- It runs from then on, without a timer. -/
theorem auto_simulation_stuck :
    (run step init stuckRun).autoSimRunning = true ∧
      (run step init stuckRun).root.scheduled .runAutoSimulationStep = [] ∧
      ¬ (run step init stuckRun).TimerInOrder := by
  have hstuck : (run step init stuckRun).autoSimRunning = true ∧
      (run step init stuckRun).root.scheduled .runAutoSimulationStep = [] := by decide
  refine ⟨hstuck.1, hstuck.2, ?_⟩
  rintro ⟨hrunning, -⟩
  obtain ⟨id, -, hscheduled⟩ := hrunning hstuck.1
  exact absurd (hstuck.2.symm.trans hscheduled) (by simp)

end EgseGuiApp

end OpenSpaceEgse
