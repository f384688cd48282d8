import UsbPd.Machine.Observer
import UsbPd.Control.Operations
import UsbPd.Control.Messages
import UsbPd.Control.States
import UsbPd.Control.Refine
import UsbPd.Control.Rules
import UsbPd.Control.Rest
import UsbPd.Control.Role
import UsbPd.Control.Termination
import UsbPd.Control.HardReset
import UsbPd.Control.Receiver
import UsbPd.Control.Timer
import UsbPd.Control.Contract
import UsbPd.Effects.Basic
import UsbPd.Frame.Scratch
import UsbPd.Frame.Live
import UsbPd.Machine.Interleave
import UsbPd.Effects.Messages
import UsbPd.Effects.States
import UsbPd.Effects.Iteration
import UsbPd.Link.Log
import UsbPd.Link.Transmit
import UsbPd.Link.MessageId
import UsbPd.Sink.PsRdy
import UsbPd.Sink.Offers
import UsbPd.Sink.Request
import UsbPd.Board.Clock
import UsbPd.Sink.Wait
import UsbPd.Sink.Record
import UsbPd.Frame.Parts
import UsbPd.Link.Collision
import UsbPd.Frame.Messages
import UsbPd.Frame.States
import UsbPd.Frame.Alike
import UsbPd.Frame.Step
import UsbPd.Source.Transition
import UsbPd.Link.Disconnect
import UsbPd.Link.Retransmission
import UsbPd.Link.Reaction
import UsbPd.Link.GoodCrc
import UsbPd.Sink.Limit
import UsbPd.Machine.Channel
import UsbPd.Link.Wire
import UsbPd.Source.Grant
import UsbPd.Sink.NearReady
import UsbPd.Sink.Client
import UsbPd.System.Pair
import UsbPd.System.Agreement
import UsbPd.Policy.VoltageCap
import UsbPd.System.DualRole
import UsbPd.Control.Stale
import UsbPd.Link.ResetCount
import UsbPd.Link.Debounce
import UsbPd.Tcpc.GetMessage
import UsbPd.Tcpc.Framing
import UsbPd.Machine.CInt
import UsbPd.System.ResetCall
import UsbPd.Vdm.Slot
import UsbPd.Vdm.Kept
import UsbPd.Vdm.Busy
import UsbPd.System.Fleet
import UsbPd.Policy.PdoPower
import UsbPd.Policy.RequestFields
import UsbPd.System.Shadow
import UsbPd.Source.SinkCap
import UsbPd.Machine.Dialogue
import UsbPd.Tcpc.Bus
import UsbPd.Tcpc.Failure
import UsbPd.AltMode.Policy
import UsbPd.AltMode.Svdm
import UsbPd.AltMode.Discovery
import UsbPd.AltMode.Slots
import UsbPd.Conduct.Basic
import UsbPd.Conduct.Messages
import UsbPd.Conduct.States
import UsbPd.Conduct.Iteration
import UsbPd.System.Bounds
import UsbPd.System.Wiring
import UsbPd.Link.Delivery
import UsbPd.AltMode.Inventory
import UsbPd.Link.Backing
import UsbPd.Sink.Draw
import UsbPd.Machine.Stage
import UsbPd.System.Still
import UsbPd.Sink.Progress
import UsbPd.Source.Progress
import UsbPd.Board.Sketch
import UsbPd.Tcpc.Measure
import UsbPd.Sink.Reselect
import UsbPd.Link.Watch
import UsbPd.Sink.Attach
import UsbPd.Source.Attach
import UsbPd.Link.Silent
import UsbPd.Link.Exchange
import UsbPd.System.Negotiation
