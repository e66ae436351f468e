import OpenSpaceEgse.Gui.SharedReceiver
import OpenSpaceEgse.Library.History

/-!
# Runs of simulated telemetry

An application that nothing reaches but its own simulation: injections and clearings of
the plots, in any order and number.  Its counters wrap, its plots forget; `AfterRun` is
what holds all the same behind `n` injections of which `m` came after the last clearing,
and `simulated_telemetry` reads off what the plots show.
-/

namespace OpenSpaceEgse

open Machine Wire

/-- The sample that `_build_simulated_telemetry_payload` prescribes for an index. -/
def simulatedSample (index : ℕ) : TelemetrySample :=
  let statusCode := index % simTelemetryStatusCycle
  let temperatureCentiC := simTemperatureBaseCentiC +
    (index % simTemperatureSpanSamples : ℕ) * simTemperatureStepCentiC
  let voltageMillivolt := simVoltageBaseMv + (index % simVoltageSpanSamples) * simVoltageStepMv
  let batteryDeciPct := simCapacityBaseDeciPct -
    (index % simCapacitySpanSamples) * simCapacityDecrementPerSample
  { statusCode := statusCode
    statusText := statusText statusCode
    temperatureC := temperatureCentiC / 100
    voltageV := voltageMillivolt / 1000
    batteryCapacityPct := batteryDeciPct / 10 }

inductive SimulationStep where
  | inject
  | clear
deriving DecidableEq, Repr

/-- The number of injections behind the last clearing. -/
def sinceClear (steps : List SimulationStep) : ℕ := (steps.rtakeWhile (· = .inject)).length

namespace EgseGuiApp

def simulationStep (self : EgseGuiApp) : SimulationStep → EgseGuiApp
  | .inject => self.injectSimulatedTelemetry.2
  | .clear => self.clearTelemetryData

/-- An injection hands on one packet, with the sample, and adds that. -/
def Adds (self : EgseGuiApp) (sample : TelemetrySample) : Prop :=
  ∃ packet, self.feedSimulated.1 = .ok (some [⟨.tm, packet⟩]) ∧
    decodeTelemetryPayload packet.dataField = .ok sample ∧
    self.injectSimulatedTelemetry = (.ok (), { self.addSample sample with
      receiver := ⟨SdlpUartStreamParser.clean⟩
      simTmPacketSequence := (self.simTmPacketSequence + 1) &&& 0x3FFF
      simTmFrameCount := (self.simTmFrameCount + 1) &&& 0xFF })

/-- The samples of the last `k` of `n` injections. -/
def lastSamples (n k : ℕ) : List TelemetrySample :=
  (List.range' (n - k) k).map fun j => simulatedSample (j % 2 ^ 14)

/-- What the plots show behind `n` injections, `m` of them since the last clearing. -/
structure Shows (app : EgseGuiApp) (n m : ℕ) : Prop where
  length_x : app.x.length = min m 200
  length_temperature : app.temperature.length = min m 200
  length_voltage : app.voltage.length = min m 200
  length_capacity : app.capacity.length = min m 200
  x : app.x = List.range' (m - min m 200 + 1) (min m 200)
  temperature : app.temperature = (lastSamples n (min m 200)).map TelemetrySample.temperatureC
  voltage : app.voltage = (lastSamples n (min m 200)).map TelemetrySample.voltageV
  capacity : app.capacity =
    (lastSamples n (min m 200)).map TelemetrySample.batteryCapacityPct

/-! ## One injection -/

/-- The payload of an injection decodes to the sample that is prescribed for it. -/
lemma decode_buildSimulatedTelemetryPayload (self : EgseGuiApp) :
    decodeTelemetryPayload self.buildSimulatedTelemetryPayload =
      .ok (simulatedSample self.simTmPacketSequence) := by
  have hstatus := Nat.mod_lt self.simTmPacketSequence (show 0 < 5 by decide)
  have htemperature := Nat.mod_lt self.simTmPacketSequence (show 0 < 40 by decide)
  have hvoltage := Nat.mod_lt self.simTmPacketSequence (show 0 < 25 by decide)
  rw [buildSimulatedTelemetryPayload, decodeTelemetryPayload_eq]
  · rfl
  · simp only [simTelemetryStatusCycle]
    omega
  · simp only [simTemperatureBaseCentiC, simTemperatureSpanSamples, simTemperatureStepCentiC]
    omega
  · simp only [simVoltageBaseMv, simVoltageSpanSamples, simVoltageStepMv]
    omega
  · simp only [simCapacityBaseDeciPct]
    omega

/-- A telemetry packet with the APID of the text field adds its sample. -/
lemma afterPacket_eq_addSample {self : EgseGuiApp} {packet : SpacePacket}
    {frameType : SdlpFrameType} {sample : TelemetrySample} (htype : packet.packetType = .telemetry)
    (hapid : intOfText self.tmApidVar = .ok (packet.apid : ℤ))
    (hsample : decodeTelemetryPayload packet.dataField = .ok sample) :
    self.afterPacket ⟨frameType, packet⟩ = self.addSample sample := by
  simp [afterPacket, handleDecodedPacket, htype, telemetryApid_of_eq_ok hapid, hsample]

/-- An injection with good text fields adds its sample, if the line left nothing with the
receiver that its frame could end. -/
theorem adds_simulatedSample {self : EgseGuiApp} (hfit : self.CountersFit)
    {tmApid spacecraftId virtualChannelId : ℤ}
    (hfields : self.simulationFields = .ok (tmApid, spacecraftId, virtualChannelId))
    (hrange : InRange tmApid spacecraftId virtualChannelId)
    (hquiet : self.receiver.packets [slipEnd] = []) :
    self.Adds (simulatedSample self.simTmPacketSequence) := by
  obtain ⟨packet, hapid, htype, hdata, hfeed⟩ := feedSimulated_of_inRange hfit hfields hrange
  have hsample : decodeTelemetryPayload packet.dataField =
      .ok (simulatedSample self.simTmPacketSequence) := by
    rw [hdata, decode_buildSimulatedTelemetryPayload]
  have hhandled : afterPacket { self with receiver := ⟨SdlpUartStreamParser.clean⟩ }
      ⟨.tm, packet⟩ = addSample { self with receiver := ⟨SdlpUartStreamParser.clean⟩ }
        (simulatedSample self.simTmPacketSequence) :=
    afterPacket_eq_addSample htype hapid hsample
  rw [hquiet, List.nil_append] at hfeed
  refine ⟨packet, by rw [hfeed], hsample, ?_⟩
  rw [injectSimulatedTelemetry, hfeed]
  simp only [handleDecodedPackets_of_feedSimulated hfeed, List.foldl_cons, List.foldl_nil]
  rw [hhandled]
  rfl

/-! ## Whole runs -/

/-- The samples of the last `m` of `n` injections, unless the plots forget some. -/
def history {α : Type} (f : TelemetrySample → α) (n m : ℕ) : List α :=
  (lastSamples n m).map f

lemma history_zero {α : Type} (f : TelemetrySample → α) (n : ℕ) : history f n 0 = [] := rfl

lemma history_succ {α : Type} (f : TelemetrySample → α) {n m : ℕ} (h : m ≤ n) :
    history f (n + 1) (m + 1) = history f n m ++ [f (simulatedSample (n % 2 ^ 14))] := by
  have hlast : n - m + m = n := Nat.sub_add_cancel h
  rw [history, history, lastSamples, lastSamples, Nat.add_sub_add_right, List.range'_1_concat,
    hlast]
  simp only [List.map_append, List.map_singleton]

/-- The plots keep the end of the history. -/
lemma rtake_history {α : Type} (f : TelemetrySample → α) {n m : ℕ} (h : m ≤ n) (k : ℕ) :
    (history f n m).rtake k = (lastSamples n (min m k)).map f := by
  have hstart : n - m + (m - min m k) = n - min m k := by omega
  rw [history, lastSamples, ← History.map_rtake, ← History.map_rtake, History.rtake_range', hstart]
  rfl

lemma dequeAppend_rtake {α : Type} (all : List α) (a : α) :
    dequeAppend (all.rtake 200) a = (all ++ [a]).rtake 200 := by
  have hlen : (all.rtake 200 ++ [a]).length = (all.rtake 200).length + 1 := by
    rw [List.length_append, List.length_singleton]
  rw [← History.push_rtake, History.push, dequeAppend, ← hlen]
  rfl

/-- The state behind `n` injections, `m` of them since the last clearing. -/
structure AfterRun (fields : ℤ × ℤ × ℤ) (app : EgseGuiApp) (n m : ℕ) : Prop where
  fields : app.simulationFields = .ok fields
  sequence : app.simTmPacketSequence = n % 2 ^ 14
  frameCount : app.simTmFrameCount = n % 2 ^ 8
  quiet : app.receiver.packets [slipEnd] = []
  le : m ≤ n
  sampleIndex : app.sampleIndex = m
  x : app.x = (List.range' 1 m).rtake 200
  temperature : app.temperature = (history TelemetrySample.temperatureC n m).rtake 200
  voltage : app.voltage = (history TelemetrySample.voltageV n m).rtake 200
  capacity : app.capacity = (history TelemetrySample.batteryCapacityPct n m).rtake 200

namespace AfterRun

variable {self : EgseGuiApp} {tmApid spacecraftId virtualChannelId : ℤ} {n m : ℕ}

lemma adds (h : AfterRun (tmApid, spacecraftId, virtualChannelId) self n m)
    (hrange : InRange tmApid spacecraftId virtualChannelId) :
    self.Adds (simulatedSample (n % 2 ^ 14)) := by
  have hfit : self.CountersFit := by
    refine ⟨?_, ?_⟩
    · rw [h.sequence]
      omega
    · rw [h.frameCount]
      omega
  rw [← h.sequence]
  exact adds_simulatedSample hfit h.fields hrange h.quiet

/-- One injection more. -/
theorem inject (h : AfterRun (tmApid, spacecraftId, virtualChannelId) self n m)
    (hrange : InRange tmApid spacecraftId virtualChannelId) :
    AfterRun (tmApid, spacecraftId, virtualChannelId) self.injectSimulatedTelemetry.2
      (n + 1) (m + 1) := by
  obtain ⟨packet, -, -, hstate⟩ := h.adds hrange
  rw [hstate]
  constructor
  · exact h.fields
  · -- both counters wrap with the mask
    show (self.simTmPacketSequence + 1) &&& 0x3FFF = _
    rw [h.sequence, land_mask 0x3FFF 14 rfl]
    omega
  · show (self.simTmFrameCount + 1) &&& 0xFF = _
    rw [h.frameCount, land_mask 0xFF 8 rfl]
    omega
  · exact packets_end_clean
  · exact Nat.succ_le_succ h.le
  · simp only [addSample, h.sampleIndex]
  · simp only [addSample]
    rw [h.x, h.sampleIndex, dequeAppend_rtake, List.range'_1_concat, Nat.add_comm 1 m]
  · simp only [addSample]
    rw [h.temperature, dequeAppend_rtake, history_succ _ h.le]
  · simp only [addSample]
    rw [h.voltage, dequeAppend_rtake, history_succ _ h.le]
  · simp only [addSample]
    rw [h.capacity, dequeAppend_rtake, history_succ _ h.le]

/-- Empty plots are what a clearing leaves behind. -/
lemma of_empty {fields : ℤ × ℤ × ℤ} (hfields : self.simulationFields = .ok fields)
    (hsequence : self.simTmPacketSequence = n % 2 ^ 14)
    (hframeCount : self.simTmFrameCount = n % 2 ^ 8)
    (hquiet : self.receiver.packets [slipEnd] = []) (hsampleIndex : self.sampleIndex = 0)
    (hx : self.x = []) (htemperature : self.temperature = []) (hvoltage : self.voltage = [])
    (hcapacity : self.capacity = []) : AfterRun fields self n 0 := by
  refine ⟨hfields, hsequence, hframeCount, hquiet, Nat.zero_le n, hsampleIndex, ?_, ?_, ?_, ?_⟩
  · rw [hx, List.range'_zero, List.rtake_nil]
  · rw [htemperature, history_zero, List.rtake_nil]
  · rw [hvoltage, history_zero, List.rtake_nil]
  · rw [hcapacity, history_zero, List.rtake_nil]

/-- A clearing forgets the samples, and nothing else. -/
theorem clear {fields : ℤ × ℤ × ℤ} (h : AfterRun fields self n m) :
    AfterRun fields self.clearTelemetryData n 0 :=
  of_empty h.fields h.sequence h.frameCount h.quiet rfl rfl rfl rfl rfl

lemma shows {fields : ℤ × ℤ × ℤ} (h : AfterRun fields self n m) : self.Shows n m := by
  have hlast : ∀ {α : Type} (f : TelemetrySample → α),
      ((lastSamples n (min m 200)).map f).length = min m 200 := by
    intro α f
    rw [List.length_map, lastSamples, List.length_map, List.length_range']
  have htemperature := h.temperature.trans (rtake_history _ h.le 200)
  have hvoltage := h.voltage.trans (rtake_history _ h.le 200)
  have hcapacity := h.capacity.trans (rtake_history _ h.le 200)
  constructor
  · rw [h.x, History.length_rtake, List.length_range']
  · rw [htemperature, hlast]
  · rw [hvoltage, hlast]
  · rw [hcapacity, hlast]
  · rw [h.x, History.rtake_range', Nat.add_comm]
  · exact htemperature
  · exact hvoltage
  · exact hcapacity

end AfterRun

lemma sinceClear_concat_inject (steps : List SimulationStep) :
    sinceClear (steps ++ [.inject]) = sinceClear steps + 1 := by
  rw [sinceClear, List.rtakeWhile_concat_pos _ _ _ (by simp), List.length_append]
  rfl

lemma sinceClear_concat_clear (steps : List SimulationStep) :
    sinceClear (steps ++ [.clear]) = 0 := by
  rw [sinceClear, List.rtakeWhile_concat_neg _ _ _ (by simp), List.length_nil]

/-- Every run leaves behind what its injections and its last clearing say. -/
theorem run_afterRun {self : EgseGuiApp} {tmApid spacecraftId virtualChannelId : ℤ}
    (h : AfterRun (tmApid, spacecraftId, virtualChannelId) self 0 0)
    (hrange : InRange tmApid spacecraftId virtualChannelId) (steps : List SimulationStep) :
    AfterRun (tmApid, spacecraftId, virtualChannelId) (run simulationStep self steps)
      (steps.count .inject) (sinceClear steps) := by
  induction steps using List.reverseRecOn with
  | nil => exact h
  | append_singleton steps step ih =>
      rw [run_append, List.count_append]
      cases step with
      | inject =>
          rw [sinceClear_concat_inject]
          exact ih.inject hrange
      | clear =>
          rw [sinceClear_concat_clear]
          exact ih.clear

/-- **What a run of simulated telemetry shows.**  From a fresh application with good text
fields, whatever was injected and cleared before: an injection adds exactly the sample
that is prescribed for its number modulo `2 ^ 14`, and the plots show the last 200 samples
at most, in order and numbered from the last clearing. -/
theorem simulated_telemetry {tmApidVar scidVar vcidVar : String}
    {tmApid spacecraftId virtualChannelId : ℤ} (ha : intOfText tmApidVar = .ok tmApid)
    (hs : intOfText scidVar = .ok spacecraftId) (hv : intOfText vcidVar = .ok virtualChannelId)
    (hrange : InRange tmApid spacecraftId virtualChannelId) (steps : List SimulationStep) :
    (run simulationStep (init.withFields tmApidVar scidVar vcidVar) steps).Adds
        (simulatedSample (steps.count .inject % 2 ^ 14)) ∧
      (run simulationStep (init.withFields tmApidVar scidVar vcidVar) steps).Shows
        (steps.count .inject) (sinceClear steps) := by
  have hfields : (init.withFields tmApidVar scidVar vcidVar).simulationFields =
      .ok (tmApid, spacecraftId, virtualChannelId) :=
    bind_eq_ok.mpr ⟨tmApid, ha, bind_eq_ok.mpr ⟨spacecraftId, hs,
      bind_eq_ok.mpr ⟨virtualChannelId, hv, rfl⟩⟩⟩
  have hfresh : AfterRun (tmApid, spacecraftId, virtualChannelId)
      (init.withFields tmApidVar scidVar vcidVar) 0 0 :=
    .of_empty hfields rfl rfl rfl rfl rfl rfl rfl rfl
  have hrun := run_afterRun hfresh hrange steps
  exact ⟨hrun.adds hrange, hrun.shows⟩

/-- The default text fields are good. -/
theorem simulated_telemetry_defaults :
    InRange 200 1 0 ∧
      (run simulationStep (init.withFields "200" "1" "0") [.inject, .clear, .inject]).Adds
        (simulatedSample (2 % 2 ^ 14)) ∧
      (run simulationStep (init.withFields "200" "1" "0") [.inject, .clear, .inject]).Shows
        2 1 := by
  have hapid : intOfText "200" = .ok 200 := by decide
  have hscid : intOfText "1" = .ok 1 := by decide
  have hvcid : intOfText "0" = .ok 0 := by decide
  have hrange : InRange 200 1 0 := by decide
  exact ⟨hrange, simulated_telemetry hapid hscid hvcid hrange [.inject, .clear, .inject]⟩

end EgseGuiApp

end OpenSpaceEgse
