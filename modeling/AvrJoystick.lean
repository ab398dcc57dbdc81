import AvrJoystick.Runs
import AvrJoystick.BitStream
import AvrJoystick.HidLayout
import AvrJoystick.Descriptors
import AvrJoystick.Report
import AvrJoystick.Usages
import AvrJoystick.Endpoint
import AvrJoystick.Board
import AvrJoystick.Device
import AvrJoystick.DeviceSteps
import AvrJoystick.ChangeSender
import AvrJoystick.Latch
import AvrJoystick.InterruptPipe
import AvrJoystick.StatusLed
import AvrJoystick.SpillRegister
import AvrJoystick.LedCalls
import AvrJoystick.Transmit
import AvrJoystick.Hidraw
import AvrJoystick.LossyFifo
import AvrJoystick.HostApp
import AvrJoystick.Ranges
import AvrJoystick.Interleave
import AvrJoystick.Streams
import AvrJoystick.Surroundings
import AvrJoystick.Framing
import AvrJoystick.DeviceDescriptors
import AvrJoystick.Firmware
import AvrJoystick.UsbStack
import AvrJoystick.MainActions
import AvrJoystick.EndpointMemory
import AvrJoystick.FirmwareInvariants
import AvrJoystick.EndpointDiscipline
import AvrJoystick.ControlRequests
import AvrJoystick.ControlStreams
import AvrJoystick.IdleRate
import AvrJoystick.ReportTask
import AvrJoystick.ClassRequests
