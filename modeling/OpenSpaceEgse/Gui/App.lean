import OpenSpaceEgse.Ccsds.ReceiveFlow
import OpenSpaceEgse.Ccsds.SendFlow
import OpenSpaceEgse.Ccsds.Telemetry
import OpenSpaceEgse.PythonInt

/-!
# The GUI application

`EgseGuiApp` is the object of the GUI with what it holds of the outside world: the
ports that pyserial opened for it, the timers of Tk, and the thread that receives.  A
method returns the object it leaves behind, beside an exception if one may escape it.

Widgets, labels and the log are left out; the text fields that are read are not, nor is the
exception of a line that names a number too long to be written.
-/

namespace OpenSpaceEgse

open Wire

/-! ## Parameters of the program -/

def egseSerialPortDefault : String := "/dev/ttyUSB0"
def egseSerialBaudrateDefault : ℕ := 115200

def guiPlotHistoryLength : ℕ := 200
def guiUpdateIntervalMs : ℤ := 200
def guiSimFrequencyOptionsHz : List ℚ := [1 / 2, 1, 2, 5]
def guiSimFrequencyDefaultIndex : ℕ := 1

def ccsdsDefaultSpacecraftId : ℕ := 1
def ccsdsDefaultVirtualChannelId : ℕ := 0
def ccsdsDefaultTcApid : ℕ := 100
def ccsdsDefaultTmApid : ℕ := 200

def simTelemetryStatusCycle : ℕ := 5
def simTemperatureBaseCentiC : ℤ := 2000
def simTemperatureStepCentiC : ℤ := 25
def simTemperatureSpanSamples : ℕ := 40
def simVoltageBaseMv : ℕ := 4800
def simVoltageStepMv : ℕ := 8
def simVoltageSpanSamples : ℕ := 25
def simCapacityBaseDeciPct : ℕ := 900
def simCapacityDecrementPerSample : ℕ := 1
def simCapacitySpanSamples : ℕ := 120

/-! ## The outside world -/

/-- A port, known by its place in the order of opening. -/
abbrev PortId : Type := ℕ

/-- pyserial, as far as the application uses it: how many ports it opened, and those on
which `close` was called. -/
structure SerialModule where
  opened : ℕ
  closed : List PortId
deriving DecidableEq, Repr

/-- What `root.after` is given to call. -/
inductive Callback where
  | processRxQueue
  | runAutoSimulationStep
deriving DecidableEq, Repr

structure Timer where
  id : ℕ
  delayMs : ℤ
  callback : Callback
deriving DecidableEq, Repr

/-- The timers of Tk that have neither fired nor been cancelled. -/
structure Root where
  nextId : ℕ
  timers : List Timer
deriving DecidableEq, Repr

namespace Root

/-- `root.after`. -/
def after (self : Root) (delayMs : ℤ) (callback : Callback) : ℕ × Root :=
  (self.nextId, ⟨self.nextId + 1, self.timers ++ [⟨self.nextId, delayMs, callback⟩]⟩)

/-- `root.after_cancel`; also what Tk does with a timer that fires. -/
def afterCancel (self : Root) (id : ℕ) : Root :=
  { self with timers := self.timers.filter (·.id ≠ id) }

end Root

/-- Where the receive thread stands: at the head of its loop, behind the reading of
`_serial_port` with a port in hand, or ended by an exception. -/
inductive RxThread where
  | idle
  | picked (serialPort : PortId)
  | ended
deriving DecidableEq, Repr

/-! ## The application -/

structure EgseGuiApp where
  serialPort : Option PortId
  sender : Option (TcCommandSender PortId)
  receiver : SdlpSpacePacketReceiver
  rxQueue : List (Option DecodedSpacePacket)
  rxThread : RxThread
  sampleIndex : ℕ
  simTmPacketSequence : ℕ
  simTmFrameCount : ℕ
  autoSimRunning : Bool
  autoSimAfterId : Option ℕ
  simFrequencyIndex : ℕ
  x : List ℕ
  temperature : List ℚ
  voltage : List ℚ
  capacity : List ℚ
  portVar : String
  baudVar : String
  scidVar : String
  vcidVar : String
  tcApidVar : String
  tmApidVar : String
  root : Root
  serial : SerialModule

/-- `append` of a `deque(maxlen=GUI_PLOT_HISTORY_LENGTH)`. -/
def dequeAppend {α : Type} (deque : List α) (a : α) : List α :=
  (deque ++ [a]).drop (deque.length + 1 - guiPlotHistoryLength)

/-- `round`, which takes a half to the even neighbour. -/
def roundHalfEven (q : ℚ) : ℤ :=
  let rest := q - q.floor
  if rest < 1 / 2 ∨ (rest = 1 / 2 ∧ q.floor % 2 = 0) then q.floor else q.floor + 1

namespace EgseGuiApp

/-- `EgseGuiApp(root)`. -/
def init : EgseGuiApp where
  serialPort := none
  sender := none
  receiver := SdlpSpacePacketReceiver.init
  rxQueue := []
  rxThread := .idle
  sampleIndex := 0
  simTmPacketSequence := 0
  simTmFrameCount := 0
  autoSimRunning := false
  autoSimAfterId := none
  simFrequencyIndex :=
    if guiSimFrequencyDefaultIndex < guiSimFrequencyOptionsHz.length then
      guiSimFrequencyDefaultIndex
    else 0
  x := []
  temperature := []
  voltage := []
  capacity := []
  portVar := egseSerialPortDefault
  baudVar := toString egseSerialBaudrateDefault
  scidVar := toString ccsdsDefaultSpacecraftId
  vcidVar := toString ccsdsDefaultVirtualChannelId
  tcApidVar := toString ccsdsDefaultTcApid
  tmApidVar := toString ccsdsDefaultTmApid
  root := ((Root.mk 0 []).after guiUpdateIntervalMs .processRxQueue).2
  serial := ⟨0, []⟩

/-! ### Connecting -/

/-- The sender that `_connect` makes for a port that was opened. -/
def newSender (self : EgseGuiApp) (serialPort : PortId) :
    Except PyError (TcCommandSender PortId) := do
  let spacecraftId ← intOfText self.scidVar
  let virtualChannelId ← intOfText self.vcidVar
  let spacePacketApid ← intOfText self.tcApidVar
  TcCommandSender.new serialPort
    { spacecraftId := spacecraftId, virtualChannelId := virtualChannelId,
      spacePacketApid := spacePacketApid }

/-- The `except` clause of `_connect`. -/
def connectFailed (self : EgseGuiApp) : PyError → Except PyError Unit × EgseGuiApp
  | .valueError _ | .serialException _ =>
      (.ok (), { self with serialPort := none, sender := none })
  | e => (.error e, self)

/-- `_connect`, when pyserial answers the call `serial.Serial(port, baudrate)` with an
exception or a new port. -/
def connect (self : EgseGuiApp) (answer : String → ℤ → Except PyError Unit) :
    Except PyError Unit × EgseGuiApp :=
  if self.serialPort ≠ none then (.ok (), self)
  else
    match intOfText (strip self.baudVar) with
    | .error e => self.connectFailed e
    | .ok baudrate =>
        match answer (strip self.portVar) baudrate with
        | .error e => self.connectFailed e
        | .ok () =>
            let serialPort := self.serial.opened
            let self := { self with
              serialPort := some serialPort
              serial := { self.serial with opened := self.serial.opened + 1 } }
            match self.newSender serialPort with
            | .error e => self.connectFailed e
            | .ok sender =>
                let self := { self with sender := some sender }
                -- the status line and the log name the port and the baud rate
                match strOfInt baudrate with
                | .error e => self.connectFailed e
                | .ok _ => (.ok (), self)

/-- `_disconnect`. -/
def disconnect (self : EgseGuiApp) : EgseGuiApp :=
  match self.serialPort with
  | none => self
  | some serialPort =>
      { self with
        serialPort := none
        sender := none
        serial := { self.serial with closed := serialPort :: self.serial.closed } }

/-! ### Telemetry -/

/-- What `_handle_decoded_packet` does with a sample. -/
def addSample (self : EgseGuiApp) (sample : TelemetrySample) : EgseGuiApp :=
  { self with
    sampleIndex := self.sampleIndex + 1
    x := dequeAppend self.x (self.sampleIndex + 1)
    temperature := dequeAppend self.temperature sample.temperatureC
    voltage := dequeAppend self.voltage sample.voltageV
    capacity := dequeAppend self.capacity sample.batteryCapacityPct }

/-- The APID of the packets that are shown: the number in the text field, or the default if
it holds none. -/
def telemetryApid (self : EgseGuiApp) : ℤ :=
  match intOfText self.tmApidVar with
  | .ok telemetryApid => telemetryApid
  | .error _ => ccsdsDefaultTmApid

/-- `_handle_decoded_packet`. -/
def handleDecodedPacket (self : EgseGuiApp) (decodedPacket : DecodedSpacePacket) :
    Except PyError Unit × EgseGuiApp :=
  let packet := decodedPacket.spacePacket
  if packet.packetType ≠ .telemetry then (.ok (), self)
  else if (packet.apid : ℤ) ≠ self.telemetryApid then
    -- the log names the APID that was expected
    ((strOfInt self.telemetryApid).map fun _ => (), self)
  else
    match decodeTelemetryPayload packet.dataField with
    | .error _ => (.ok (), self)
    | .ok sample => (.ok (), self.addSample sample)

/-- `_clear_telemetry_data`. -/
def clearTelemetryData (self : EgseGuiApp) : EgseGuiApp :=
  { self with x := [], temperature := [], voltage := [], capacity := [], sampleIndex := 0 }

/-! ### Receiving -/

/-- The loop of `_process_rx_queue` over the items of the queue. -/
def processItems (self : EgseGuiApp) :
    List (Option DecodedSpacePacket) → Except PyError Unit × EgseGuiApp
  | [] => (.ok (), { self with rxQueue := [] })
  | none :: items => (.ok (), { self with rxQueue := items }.disconnect)
  | some item :: items =>
      match { self with rxQueue := items }.handleDecodedPacket item with
      | (.error e, self) => (.error e, self)
      | (.ok (), self) => self.processItems items

/-- `_process_rx_queue`.  It catches no exception but that of the empty queue. -/
def processRxQueue (self : EgseGuiApp) : Except PyError Unit × EgseGuiApp :=
  match self.processItems self.rxQueue with
  | (.error e, self) => (.error e, self)
  | (.ok (), self) =>
      (.ok (), { self with root := (self.root.after guiUpdateIntervalMs .processRxQueue).2 })

/-- `_rx_loop` from its head to the test of the port. -/
def rxPick (self : EgseGuiApp) : EgseGuiApp :=
  match self.rxThread, self.serialPort with
  | .idle, some serialPort => { self with rxThread := .picked serialPort }
  | _, _ => self

/-- The call of `process_serial_once` in `_rx_loop`. -/
def receiveOnce {P : Type} [SerialLike P] (self : EgseGuiApp) (port : P) :
    Except PyError (List DecodedSpacePacket) × EgseGuiApp :=
  let (result, receiver, _) := self.receiver.processSerialOnce port egseSerialMaxReadSize
  (result, { self with receiver := receiver })

/-- `_rx_loop` from the test of the port to its head, with what the port that was picked
up answers. -/
def rxPoll {P : Type} [SerialLike P] (self : EgseGuiApp) (port : P) : EgseGuiApp :=
  match self.rxThread with
  | .picked _ =>
      match self.receiveOnce port with
      | (.ok decodedPackets, self) =>
          { self with rxQueue := self.rxQueue ++ decodedPackets.map some, rxThread := .idle }
      | (.error (.osError _), self) | (.error (.serialException _), self) =>
          { self with rxQueue := self.rxQueue ++ [none], rxThread := .idle }
      | (.error _, self) => { self with rxThread := .ended }
  | _ => self

/-! ### Simulated telemetry -/

/-- `_build_simulated_telemetry_payload`.  The parameters keep the numbers within their
fields. -/
def buildSimulatedTelemetryPayload (self : EgseGuiApp) : Bytes :=
  let index := self.simTmPacketSequence
  let statusCode := index % simTelemetryStatusCycle
  let temperatureCentiC := simTemperatureBaseCentiC +
    (index % simTemperatureSpanSamples : ℕ) * simTemperatureStepCentiC
  let voltageMillivolt := simVoltageBaseMv + (index % simVoltageSpanSamples) * simVoltageStepMv
  let batteryDeciPct := simCapacityBaseDeciPct -
    (index % simCapacitySpanSamples) * simCapacityDecrementPerSample
  toBytes statusCode 1 ++ toBytesSigned temperatureCentiC 2 ++ toBytes voltageMillivolt 2 ++
    toBytes batteryDeciPct 2

/-- The `try` block of `_inject_simulated_telemetry`: APID, spacecraft and channel. -/
def simulationFields (self : EgseGuiApp) : Except PyError (ℤ × ℤ × ℤ) := do
  let tmApid ← intOfText self.tmApidVar
  let spacecraftId ← intOfText self.scidVar
  let virtualChannelId ← intOfText self.vcidVar
  return (tmApid, spacecraftId, virtualChannelId)

/-- The packet that `_inject_simulated_telemetry` builds. -/
def simulatedPacket (self : EgseGuiApp) (tmApid : ℤ) : Except PyError SpacePacket :=
  SpacePacket.buildTm tmApid self.simTmPacketSequence self.buildSimulatedTelemetryPayload

/-- The UART stream that `_inject_simulated_telemetry` puts it in. -/
def simulatedStream (self : EgseGuiApp) (tmApid spacecraftId virtualChannelId : ℤ) :
    Except PyError Bytes := do
  let spacePacket ← self.simulatedPacket tmApid
  let tmFrame ← TmTransferFrame.build spacecraftId virtualChannelId self.simTmFrameCount
    self.simTmFrameCount spacePacket.encode 0
  serializeTm tmFrame

/-- `_inject_simulated_telemetry` up to the call of `process_uart_bytes`, with what that
returns; nothing is returned if a text field is no number. -/
def feedSimulated (self : EgseGuiApp) :
    Except PyError (Option (List DecodedSpacePacket)) × EgseGuiApp :=
  match self.simulationFields with
  | .error (.valueError _) => (.ok none, self)
  | .error e => (.error e, self)
  | .ok (tmApid, spacecraftId, virtualChannelId) =>
      match self.simulatedStream tmApid spacecraftId virtualChannelId with
      | .error e => (.error e, self)
      | .ok uartStream =>
          match self.receiver.processUartBytes uartStream with
          | (.error e, receiver) => (.error e, { self with receiver := receiver })
          | (.ok decodedPackets, receiver) =>
              (.ok (some decodedPackets), { self with receiver := receiver })

/-- The loop of `_inject_simulated_telemetry` over what the receiver returned. -/
def handleDecodedPackets (self : EgseGuiApp) :
    List DecodedSpacePacket → Except PyError Unit × EgseGuiApp
  | [] => (.ok (), self)
  | decoded :: decodedPackets =>
      match self.handleDecodedPacket decoded with
      | (.error e, self) => (.error e, self)
      | (.ok (), self) => self.handleDecodedPackets decodedPackets

/-- `_inject_simulated_telemetry`. -/
def injectSimulatedTelemetry (self : EgseGuiApp) : Except PyError Unit × EgseGuiApp :=
  match self.feedSimulated with
  | (.error e, self) => (.error e, self)
  | (.ok none, self) => (.ok (), self)
  | (.ok (some decodedPackets), self) =>
      match self.handleDecodedPackets decodedPackets with
      | (.error e, self) => (.error e, self)
      | (.ok (), self) =>
          (.ok (), { self with
            simTmPacketSequence := (self.simTmPacketSequence + 1) &&& 0x3FFF
            simTmFrameCount := (self.simTmFrameCount + 1) &&& 0xFF })

/-! ### Automatic simulation -/

/-- `_current_sim_frequency_hz`. -/
def currentSimFrequencyHz (self : EgseGuiApp) : ℚ :=
  guiSimFrequencyOptionsHz.getD self.simFrequencyIndex 0

/-- `_current_auto_sim_interval_ms`. -/
def currentAutoSimIntervalMs (self : EgseGuiApp) : Except PyError ℤ :=
  let frequencyHz := self.currentSimFrequencyHz
  if frequencyHz ≤ 0 then .error (.valueError "Simulation frequency must be positive")
  else .ok (max 1 (roundHalfEven (1000 / frequencyHz)))

/-- The statement that arms the timer of the automatic simulation. -/
def armAutoSimulation (self : EgseGuiApp) : Except PyError Unit × EgseGuiApp :=
  match self.currentAutoSimIntervalMs with
  | .error e => (.error e, self)
  | .ok delayMs =>
      let (id, root) := self.root.after delayMs .runAutoSimulationStep
      (.ok (), { self with autoSimAfterId := some id, root := root })

/-- `_run_auto_simulation_step`. -/
def runAutoSimulationStep (self : EgseGuiApp) : Except PyError Unit × EgseGuiApp :=
  if self.autoSimRunning then
    match self.injectSimulatedTelemetry with
    | (.error e, self) => (.error e, self)
    | (.ok (), self) => self.armAutoSimulation
  else (.ok (), self)

/-- `_stop_auto_simulation`. -/
def stopAutoSimulation (self : EgseGuiApp) : EgseGuiApp :=
  match self.autoSimAfterId with
  | none => { self with autoSimRunning := false }
  | some id =>
      { self with
        autoSimRunning := false
        autoSimAfterId := none
        root := self.root.afterCancel id }

/-- `_toggle_auto_simulation`. -/
def toggleAutoSimulation (self : EgseGuiApp) : Except PyError Unit × EgseGuiApp :=
  if self.autoSimRunning then (.ok (), self.stopAutoSimulation)
  else { self with autoSimRunning := true }.runAutoSimulationStep

/-- `_toggle_sim_frequency`. -/
def toggleSimFrequency (self : EgseGuiApp) : Except PyError Unit × EgseGuiApp :=
  let self := { self with
    simFrequencyIndex := (self.simFrequencyIndex + 1) % guiSimFrequencyOptionsHz.length }
  if self.autoSimRunning then
    match self.autoSimAfterId with
    | none => self.armAutoSimulation
    | some id => { self with root := self.root.afterCancel id }.armAutoSimulation
  else (.ok (), self)

end EgseGuiApp

end OpenSpaceEgse
