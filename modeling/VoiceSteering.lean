import VoiceSteering.Balancer
import VoiceSteering.Config.Json
import VoiceSteering.Kernel.Program
import VoiceSteering.Main
import VoiceSteering.Json.Reader
import VoiceSteering.Proofs.Frame.CarrySum
import VoiceSteering.Proofs.Maglev.Fill
import VoiceSteering.Proofs.Maglev.Loop
import VoiceSteering.Proofs.Maglev.Balance
import VoiceSteering.Proofs.Pool.Script
import VoiceSteering.Proofs.Pipeline.Ending
import VoiceSteering.Proofs.Rate.Interval
import VoiceSteering.Proofs.Balancer.Reachability
import VoiceSteering.Proofs.Balancer.Steering
import VoiceSteering.Proofs.Pipeline.InMemory
import VoiceSteering.Proofs.Pipeline.Confinement
import VoiceSteering.Proofs.Pipeline.ChecksumValidity
import VoiceSteering.Proofs.Health.Slot
import VoiceSteering.Proofs.Rate.Sweeping
import VoiceSteering.Proofs.Health.Rotation
import VoiceSteering.Proofs.Health.Recovery
import VoiceSteering.Proofs.Health.Outage
import VoiceSteering.Proofs.Host.Action
import VoiceSteering.Proofs.Kernel.PoolMaps
import VoiceSteering.Proofs.Service.HealthPass
import VoiceSteering.Proofs.Pipeline.Affinity
import VoiceSteering.Proofs.Pipeline.Counting
import VoiceSteering.Proofs.Rate.Isolation
import VoiceSteering.Proofs.Rate.Overshoot
import VoiceSteering.Proofs.Pipeline.InWindow
import VoiceSteering.Proofs.Pipeline.Classes
import VoiceSteering.Proofs.Service.CleanUp
import VoiceSteering.Proofs.Pool.ConcurrentUpdates
import VoiceSteering.Proofs.Maglev.Positions
import VoiceSteering.Proofs.Rate.Requests
import VoiceSteering.Proofs.Selection.Shares
import VoiceSteering.Proofs.Frame.Grammar
import VoiceSteering.Proofs.Health.Results
import VoiceSteering.Proofs.Health.Streak
import VoiceSteering.Proofs.Config.Placement
import VoiceSteering.Proofs.Service.Filling
import VoiceSteering.Proofs.Rate.InterruptedSweep
import VoiceSteering.Proofs.Pipeline.Cores
import VoiceSteering.Proofs.Pipeline.RefusedStores
import VoiceSteering.Proofs.Net.Mac
import VoiceSteering.Proofs.Net.Address
import VoiceSteering.Proofs.Config.RoundTrip
import VoiceSteering.Proofs.Pipeline.Recirculation
