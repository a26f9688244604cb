import PlantAssistant.Framing.Scan
import PlantAssistant.Transition.Run
import PlantAssistant.Firmware.CFloat
import PlantAssistant.Firmware.Globals
import PlantAssistant.Firmware.Usart4
import PlantAssistant.Firmware.Usart5
import PlantAssistant.Firmware.UartPort
import PlantAssistant.Firmware.UartFrames
import PlantAssistant.Panel.Hex
import PlantAssistant.Panel.SerialPanel
import PlantAssistant.Link.Resync
import PlantAssistant.Link.PanelCommands
import PlantAssistant.Vision.Green
import PlantAssistant.Link.VisionLink
import PlantAssistant.Bits.MsbFirst
import PlantAssistant.Firmware.DH11
import PlantAssistant.Climate.Capture
import PlantAssistant.Climate.Decode
import PlantAssistant.Climate.Driver
import PlantAssistant.Link.Telemetry
import PlantAssistant.Link.PanelReceive
import PlantAssistant.Firmware.TB6612
import PlantAssistant.Firmware.CarTurn
import PlantAssistant.Firmware.SportMode
import PlantAssistant.Motion.Sport
import PlantAssistant.Motion.ArmRotation
import PlantAssistant.Motion.EmergencyStop
import PlantAssistant.Motion.ControlledMotion
import PlantAssistant.Framing.Window
import PlantAssistant.Firmware.RxLoop
import PlantAssistant.Firmware.UsartPort
import PlantAssistant.Firmware.UsartFrames
import PlantAssistant.Link.ReadCuts
import PlantAssistant.Link.Attitude
import PlantAssistant.Motion.StartDelay
import PlantAssistant.Motion.EscapeLeg
import PlantAssistant.Panel.Dashboard
import PlantAssistant.Watering.PumpState
import PlantAssistant.Watering.PumpDelivery
import PlantAssistant.Firmware.Soil
import PlantAssistant.Watering.SoilAlarm
import PlantAssistant.Transition.Stamped
import PlantAssistant.Link.PlantType
import PlantAssistant.Framing.Blocks
import PlantAssistant.Vision.ModeSwitch
import PlantAssistant.Link.ModeLink
import PlantAssistant.Vision.LeafState
import PlantAssistant.Vision.StableState
import PlantAssistant.Panel.AuthState
import PlantAssistant.Panel.Session
import PlantAssistant.Motion.Obstacles
import PlantAssistant.Motion.StopPhases
import PlantAssistant.Motion.Debounce
import PlantAssistant.Cyclic.Distance
import PlantAssistant.Motion.Headings
import PlantAssistant.Motion.TurnLimit
import PlantAssistant.Motion.Inspection
import PlantAssistant.Motion.Odometer
import PlantAssistant.Link.ObstacleReport
import PlantAssistant.Firmware.Usart6
import PlantAssistant.Voice.Alarms
import PlantAssistant.Ramp.Approach
import PlantAssistant.Motion.Acceleration
import PlantAssistant.Firmware.PWM
import PlantAssistant.Light.FillLight
import PlantAssistant.Decimal.Rounding
import PlantAssistant.Firmware.NumberText
import PlantAssistant.Display.Formatters
import PlantAssistant.Firmware.MainOled
import PlantAssistant.Display.OledLines
import PlantAssistant.Framing.Occurrences
import PlantAssistant.Link.ModeResync
import PlantAssistant.Link.RangeReadings
import PlantAssistant.Link.RangeDistance
import PlantAssistant.Link.Overread
import PlantAssistant.Panel.AuthSave
import PlantAssistant.Iteration.Loops
import PlantAssistant.Firmware.CheckedPort
import PlantAssistant.Link.ReceiveSafety
import PlantAssistant.Vision.ModeLoop
import PlantAssistant.Link.ModeBounds
import PlantAssistant.Queue.Ring
import PlantAssistant.Firmware.SerialDevice
import PlantAssistant.Firmware.ReceiveThread
import PlantAssistant.Link.SerialReceive
import PlantAssistant.Transition.Simulation
import PlantAssistant.Transition.Response
import PlantAssistant.Transition.Since
import PlantAssistant.Firmware.Gas
import PlantAssistant.Firmware.Outputs
import PlantAssistant.Control.Schedule
import PlantAssistant.Control.Orders
import PlantAssistant.Control.Parts
import PlantAssistant.Watering.Relay
import PlantAssistant.Motion.DutyLimit
import PlantAssistant.Control.Safety
import PlantAssistant.Control.GasAlarm
import PlantAssistant.Framing.Codec
import PlantAssistant.Firmware.EmmV5
import PlantAssistant.Motion.StepperStream
import PlantAssistant.Panel.Window
import PlantAssistant.Panel.Pages
import PlantAssistant.Panel.LoginFields
import PlantAssistant.Bits.TwoWire
import PlantAssistant.Firmware.OledI2c
import PlantAssistant.Display.OledBus
import PlantAssistant.Display.OledCells
import PlantAssistant.Vision.Sight
import PlantAssistant.Vision.Script
import PlantAssistant.Vision.Pacing
import PlantAssistant.Vision.Convergence
import PlantAssistant.Vision.Seen
import PlantAssistant.Boards.TwoBoards
import PlantAssistant.Boards.Agreement
import PlantAssistant.Framing.Settle
import PlantAssistant.Link.MidStream
