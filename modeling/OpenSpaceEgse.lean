import OpenSpaceEgse.Library.Words
import OpenSpaceEgse.Library.Framer
import OpenSpaceEgse.Library.Stuffing
import OpenSpaceEgse.Ccsds.SpacePacket
import OpenSpaceEgse.Ccsds.TmTransferFrame
import OpenSpaceEgse.Ccsds.TcTransferFrame
import OpenSpaceEgse.Ccsds.SdlpUart
import OpenSpaceEgse.Ccsds.StreamParser
import OpenSpaceEgse.Ccsds.SendFlow
import OpenSpaceEgse.Ccsds.Delivery
import OpenSpaceEgse.Ccsds.PartialWrite
import OpenSpaceEgse.Ccsds.Segmentation
import OpenSpaceEgse.PythonInt
import OpenSpaceEgse.Ccsds.Telemetry
import OpenSpaceEgse.Gui.App
import OpenSpaceEgse.Gui.EventLoop
import OpenSpaceEgse.Library.Runs
import OpenSpaceEgse.Gui.RxQueue
import OpenSpaceEgse.Gui.Simulation
import OpenSpaceEgse.Gui.SharedReceiver
import OpenSpaceEgse.Gui.Sessions
import OpenSpaceEgse.Ccsds.Extraction
import OpenSpaceEgse.Ccsds.Polling
import OpenSpaceEgse.Ccsds.SendOutcome
import OpenSpaceEgse.Gui.SimulatedRun
import OpenSpaceEgse.Gui.AutoSimulation
import OpenSpaceEgse.Gui.Ports
import OpenSpaceEgse.Library.Traces
import OpenSpaceEgse.Library.Texts
import OpenSpaceEgse.Gui.Traffic
import OpenSpaceEgse.Gui.Display
import OpenSpaceEgse.Ccsds.Readings
import OpenSpaceEgse.Ccsds.Unambiguity
import OpenSpaceEgse.Ccsds.Printing
import OpenSpaceEgse.Gui.Frames
import OpenSpaceEgse.Gui.Downlink
import OpenSpaceEgse.Gui.Timers
import OpenSpaceEgse.Gui.Draining
import OpenSpaceEgse.Gui.Console
import OpenSpaceEgse.Gui.Uplink
import OpenSpaceEgse.Gui.Shutdown
import OpenSpaceEgse.Gui.Separation
