import ResourceSync.Engine.Pass
import ResourceSync.Main
import ResourceSync.Metrics.Endpoint
import ResourceSync.Prometheus.Sync
import ResourceSync.Proofs.Calls
import ResourceSync.Proofs.Calm
import ResourceSync.Proofs.CalmPass
import ResourceSync.Proofs.Convergence
import ResourceSync.Proofs.Counting
import ResourceSync.Proofs.Course
import ResourceSync.Proofs.DurableLink
import ResourceSync.Proofs.Effect
import ResourceSync.Proofs.Ends
import ResourceSync.Proofs.Fleet
import ResourceSync.Proofs.History
import ResourceSync.Proofs.Independence
import ResourceSync.Proofs.Isolation
import ResourceSync.Proofs.Orphan
import ResourceSync.Proofs.Passes
import ResourceSync.Proofs.Recording
import ResourceSync.Proofs.Renaming
import ResourceSync.Proofs.Stable
import ResourceSync.Remote.Client
import ResourceSync.Proofs.Release
import ResourceSync.Proofs.Confinement
import ResourceSync.Proofs.FinalizerUpdate
import ResourceSync.Proofs.Stranding
import ResourceSync.Proofs.Accounting
import ResourceSync.Proofs.Scope
import ResourceSync.Proofs.Merging
import ResourceSync.Proofs.Reading
import ResourceSync.Proofs.Codecs
import ResourceSync.Proofs.Timestamps
import ResourceSync.Proofs.Documents
import ResourceSync.Proofs.StatusWrite
import ResourceSync.Proofs.Tally
import ResourceSync.Proofs.Standing
import ResourceSync.Proofs.Traversal
import ResourceSync.Proofs.Spelling
import ResourceSync.Proofs.Magnitude
import ResourceSync.Proofs.Origin
import ResourceSync.Proofs.Calendar
import ResourceSync.Proofs.Bounded
import ResourceSync.Proofs.Numerals
import ResourceSync.Proofs.Decimals
import ResourceSync.Proofs.Printing
import ResourceSync.Proofs.Rounding
import ResourceSync.Proofs.ShortNumbers
import ResourceSync.Proofs.RoundTrip
import ResourceSync.Proofs.Bodies
import ResourceSync.Proofs.Wire
import ResourceSync.Proofs.AlertNames
import ResourceSync.Proofs.Generated
import ResourceSync.Proofs.Shelves
import ResourceSync.Proofs.Upkeep
import ResourceSync.Proofs.Synchronized
import ResourceSync.Proofs.Collision
import ResourceSync.Proofs.Requests
import ResourceSync.Proofs.Endpoints
import ResourceSync.Proofs.Durations
import ResourceSync.Proofs.Amounts
import ResourceSync.Proofs.Windows
import ResourceSync.Proofs.Overruns
import ResourceSync.Proofs.Alerting
import ResourceSync.Proofs.RecordingGroups
import ResourceSync.Proofs.Intervals
import ResourceSync.Proofs.Fragments
import ResourceSync.Proofs.Conjunction
import ResourceSync.Proofs.Balance
import ResourceSync.Proofs.Sameness
import ResourceSync.Proofs.Attempts
import ResourceSync.Proofs.Positions
import ResourceSync.Proofs.Telling
import ResourceSync.Proofs.Blame
import ResourceSync.Proofs.Milestones
import ResourceSync.Proofs.Series
