import TrafficShaper.Random.Block
import TrafficShaper.Random.Generator
import TrafficShaper.Random.Draw
import TrafficShaper.Binary.Basic
import TrafficShaper.Binary.Round
import TrafficShaper.DecimalText.Shortest
import TrafficShaper.Text.Blank
import TrafficShaper.Text.Extending
import TrafficShaper.Text.Printable
import TrafficShaper.Text.Quoted
import TrafficShaper.DecimalText.Layout
import TrafficShaper.DecimalText.Read
import TrafficShaper.Bucket
import TrafficShaper.Delay
import TrafficShaper.Config.Basic
import TrafficShaper.Json.Error
import TrafficShaper.Json.Scan
import TrafficShaper.Json.Value
import TrafficShaper.Error
import TrafficShaper.Config.Property
import TrafficShaper.Config.Json
import TrafficShaper.Buffer
import TrafficShaper.Stats
import TrafficShaper.Delivery
import TrafficShaper.Filter
import TrafficShaper.Lifecycle
import TrafficShaper.Bench
import TrafficShaper.Metrics.Address
import TrafficShaper.Metrics.Endpoint
import TrafficShaper.Cli.FileTree
import TrafficShaper.Cli.Run
import TrafficShaper.Main
import TrafficShaper.Proofs.DeliveryLoop
import TrafficShaper.Proofs.Run
import TrafficShaper.Proofs.Arrival
import TrafficShaper.Proofs.Accounting
import TrafficShaper.Proofs.RateLimit
import TrafficShaper.Proofs.Certainty
import TrafficShaper.Proofs.Control
import TrafficShaper.Proofs.Rounding
import TrafficShaper.Proofs.Shortest
import TrafficShaper.Proofs.PlainText
import TrafficShaper.Proofs.PropertyText
import TrafficShaper.Proofs.Lifecycle
import TrafficShaper.Proofs.MidpointGap
import TrafficShaper.Proofs.DoubleRounding
import TrafficShaper.Proofs.ShortestGrid
import TrafficShaper.Proofs.ReadThroughDouble
import TrafficShaper.Proofs.NumberText
import TrafficShaper.Proofs.ConfigJson
import TrafficShaper.Proofs.Grant
import TrafficShaper.Proofs.NormalPair
import TrafficShaper.Proofs.MetricEvents
import TrafficShaper.Proofs.SetField
import TrafficShaper.Proofs.ClockMark
import TrafficShaper.Proofs.Pipeline
