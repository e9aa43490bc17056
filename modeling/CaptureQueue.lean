import CaptureQueue.Backend.Memory
import CaptureQueue.Backend.Scripted
import CaptureQueue.Filter.Json
import CaptureQueue.Frame.Draft
import CaptureQueue.Main
import CaptureQueue.Proofs.Address.Text
import CaptureQueue.Proofs.Queue.History
import CaptureQueue.Proofs.Session.Accounting
import CaptureQueue.Proofs.Threads.Snapshot
import CaptureQueue.Proofs.Toml.Plain
import CaptureQueue.Proofs.Config.RoundTrip
import CaptureQueue.Proofs.Session.Failure
import CaptureQueue.Proofs.Session.Sequential
import CaptureQueue.Proofs.Pipeline.Live
import CaptureQueue.Proofs.Pipeline.Drained
import CaptureQueue.Proofs.Pipeline.Alone
import CaptureQueue.Proofs.Frame.Composed
import CaptureQueue.Proofs.Threads.Handover
import CaptureQueue.Proofs.Session.Closing
import CaptureQueue.Proofs.Session.Feeding
import CaptureQueue.Proofs.Session.StandIn
import CaptureQueue.Proofs.Queue.Occupancy
import CaptureQueue.Proofs.Queue.Policies
import CaptureQueue.Proofs.Frame.Fragment
import CaptureQueue.Proofs.Text.Reader
import CaptureQueue.Proofs.Toml.Bounded
import CaptureQueue.Proofs.Config.Numbers
import CaptureQueue.Proofs.Config.Usable
import CaptureQueue.Proofs.Filter.Verdict
import CaptureQueue.Proofs.Frame.Layers
import CaptureQueue.Proofs.Frame.Truncated
import CaptureQueue.Proofs.Frame.Tagged
import CaptureQueue.Proofs.Queue.Refused
import CaptureQueue.Proofs.Frame.Coherent
import CaptureQueue.Proofs.Frame.Reversed
import CaptureQueue.Proofs.Filter.Flaw
import CaptureQueue.Proofs.Config.Validation
import CaptureQueue.Proofs.Toml.Revised
import CaptureQueue.Proofs.Filter.Widened
import CaptureQueue.Proofs.Config.Overlay
import CaptureQueue.Proofs.Filter.History
import CaptureQueue.Proofs.Filter.Agreement
import CaptureQueue.Proofs.Session.Creation
import CaptureQueue.Proofs.Session.Fates
import CaptureQueue.Proofs.Session.Executed
import CaptureQueue.Proofs.Session.Asked
import CaptureQueue.Proofs.Filter.Unambiguous
import CaptureQueue.Proofs.Datalink.Default
import CaptureQueue.Proofs.Program.Breaks
import CaptureQueue.Proofs.Program.LogSettings
import CaptureQueue.Proofs.Threads.Delivery
