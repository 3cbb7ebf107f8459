import Gxfp.Io.Reassembly
import Gxfp.Cmd.Xfer
import Gxfp.Io.Timeout
import Gxfp.Tls.Session
import Gxfp.Algo.SensorCfg
import Gxfp.Image.RoundTrip
import Gxfp.Cmd.Register
import Gxfp.Kernel.Delivery
import Gxfp.Kernel.Power
import Gxfp.Driver.Reports
import Gxfp.Driver.Answers
import Gxfp.Driver.Contract
import Gxfp.Image.Integrity
import Gxfp.Image.Scan
import Gxfp.Image.Sink
import Gxfp.Flow.History
import Gxfp.Sigfm.Template
import Gxfp.Bounds.Receive
import Gxfp.Bounds.Commands
import Gxfp.Cmd.Recovery
import Gxfp.Tool.Loops
import Gxfp.Tool.Stream
import Gxfp.Algo.CfgEffect
import Gxfp.Algo.Provision
import Gxfp.Cmd.Wait
import Gxfp.Driver.Poll
import Gxfp.Flow.Thresholds
import Gxfp.Image.Placement
import Gxfp.Tls.Send
import Gxfp.Tool.Upload
import Gxfp.Algo.CfgScan
import Gxfp.Kernel.Acpi
import Gxfp.Kernel.Readiness
import Gxfp.Kernel.Lifetime
import Gxfp.Flow.Corrupted
import Gxfp.Image.Fpn
import Gxfp.Sigfm.Order
import Gxfp.Sigfm.Score
import Gxfp.Driver.Progress
import Gxfp.Cmd.Control
import Gxfp.Flow.Recovery
import Gxfp.Flow.Bringup
import Gxfp.Tool.Psk
import Gxfp.Tool.Steps
import Gxfp.Tool.Capture
import Gxfp.Sigfm.Print
import Gxfp.Driver.Results
import Gxfp.Driver.Outcomes
import Gxfp.Driver.Returns
import Gxfp.Driver.Accepts
