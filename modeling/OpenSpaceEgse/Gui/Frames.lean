import OpenSpaceEgse.Gui.EventLoop

/-!
# What the simulation leaves alone

The simulation owns the receiver, the plots, its counters and its timer.  Whatever depends
on nothing of this is the same behind all that it does; `fire_frame` is about any timer.
-/

namespace OpenSpaceEgse

namespace EgseGuiApp

variable {α : Type} {f : EgseGuiApp → α} (hf : ∀ (self : EgseGuiApp) receiver sampleIndex
  simTmPacketSequence simTmFrameCount autoSimRunning autoSimAfterId simFrequencyIndex x
  temperature voltage capacity root,
  f { self with
    receiver := receiver
    sampleIndex := sampleIndex
    simTmPacketSequence := simTmPacketSequence
    simTmFrameCount := simTmFrameCount
    autoSimRunning := autoSimRunning
    autoSimAfterId := autoSimAfterId
    simFrequencyIndex := simFrequencyIndex
    x := x
    temperature := temperature
    voltage := voltage
    capacity := capacity
    root := root } = f self)

include hf

lemma inject_frame (self : EgseGuiApp) : f self.injectSimulatedTelemetry.2 = f self := by
  have hreceiver : ∀ receiver, f { self with receiver := receiver } = f self :=
    fun receiver => hf self receiver _ _ _ _ _ _ _ _ _ _ _
  have hpackets : ∀ (self : EgseGuiApp) (packets : List DecodedSpacePacket),
      f (packets.foldl afterPacket self) = f self :=
    foldl_afterPacket fun self sample => hf self _ _ _ _ _ _ _ _ _ _ _ _
  have hcount : ∀ (self : EgseGuiApp) (sequence count : ℕ),
      f { self with simTmPacketSequence := sequence, simTmFrameCount := count } = f self :=
    fun self sequence count => hf self _ _ sequence count _ _ _ _ _ _ _ _
  obtain ⟨receiver, hsnd⟩ := self.exists_feedSimulated_snd
  rw [injectSimulatedTelemetry]
  rcases hfeed : self.feedSimulated with ⟨e | _ | decodedPackets, self'⟩
  all_goals
    rw [hfeed] at hsnd
    obtain rfl : self' = { self with receiver := receiver } := hsnd
  · exact hreceiver receiver
  · exact hreceiver receiver
  · simp only [handleDecodedPackets_of_feedSimulated hfeed]
    rw [hcount, hpackets, hreceiver]

lemma arm_frame (self : EgseGuiApp) : f self.armAutoSimulation.2 = f self := by
  rw [armAutoSimulation]
  split
  · rfl
  · exact hf self _ _ _ _ _ _ _ _ _ _ _ _

lemma runAutoSimulationStep_frame (self : EgseGuiApp) :
    f self.runAutoSimulationStep.2 = f self := by
  have hinject := inject_frame hf self
  rw [runAutoSimulationStep]
  split_ifs
  · generalize self.injectSimulatedTelemetry = outcome at hinject ⊢
    rcases outcome with ⟨e | _, self'⟩
    · exact hinject
    · exact (arm_frame hf self').trans hinject
  · rfl

lemma toggleAutoSimulation_frame (self : EgseGuiApp) :
    f self.toggleAutoSimulation.2 = f self := by
  rw [toggleAutoSimulation]
  split_ifs
  · rw [stopAutoSimulation]
    split <;> exact hf self _ _ _ _ _ _ _ _ _ _ _ _
  · exact (runAutoSimulationStep_frame hf _).trans (hf self _ _ _ _ _ _ _ _ _ _ _ _)

lemma toggleSimFrequency_frame (self : EgseGuiApp) : f self.toggleSimFrequency.2 = f self := by
  rw [toggleSimFrequency]
  split_ifs
  · dsimp only
    split <;> exact (arm_frame hf _).trans (hf self _ _ _ _ _ _ _ _ _ _ _ _)
  · exact hf self _ _ _ _ _ _ _ _ _ _ _ _

/-- A timer that fires may also empty the queue and disconnect. -/
lemma fire_frame
    (hqueue : ∀ (self : EgseGuiApp) rxQueue, f { self with rxQueue := rxQueue } = f self)
    (hdisconnect : ∀ self, f (disconnect self) = f self) (self : EgseGuiApp) (id : ℕ) :
    f (self.fire id) = f self := by
  have hroot : ∀ (self : EgseGuiApp) (root : Root), f { self with root := root } = f self :=
    fun self root => hf self _ _ _ _ _ _ _ _ _ _ _ root
  rw [fire]
  cases self.callback id with
  | none => rfl
  | some callback =>
      cases callback with
      | processRxQueue =>
          have hitems := processItems_frame hqueue
            (fun self sample => hf self _ _ _ _ _ _ _ _ _ _ _ _) hdisconnect
          exact (processRxQueue_frame hroot _).trans ((hitems _ _).trans (hroot self _))
      | runAutoSimulationStep => exact (runAutoSimulationStep_frame hf _).trans (hroot self _)

end EgseGuiApp

end OpenSpaceEgse
