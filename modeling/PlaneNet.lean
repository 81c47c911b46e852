import PlaneNet.Command.Options
import PlaneNet.Command.Run
import PlaneNet.Dataset.Reading
import PlaneNet.Files
import PlaneNet.Fragment.Program
import PlaneNet.Json.Codec
import PlaneNet.KMeans
import PlaneNet.Main
import PlaneNet.Network.Pass
import PlaneNet.Proofs.Buffer
import PlaneNet.Proofs.Checked
import PlaneNet.Proofs.Layout.Spans
import PlaneNet.Trainer.Builder
import PlaneNet.Trainer.Continuous
import PlaneNet.Trainer.Interleaving
import PlaneNet.Proofs.Layout.Naming
import PlaneNet.Proofs.Network.Sound
import PlaneNet.Proofs.Network.Response
import PlaneNet.Proofs.Network.Steps
import PlaneNet.Proofs.Network.Reachable
import PlaneNet.Proofs.Network.Forward
import PlaneNet.Proofs.Fragment.Order
import PlaneNet.Proofs.Fragment.Source
import PlaneNet.Proofs.Digits
import PlaneNet.Proofs.Fragment.Names
import PlaneNet.Proofs.Fragment.Reading
import PlaneNet.Proofs.Fragment.Numbering
import PlaneNet.Proofs.Fragment.Agreement
import PlaneNet.Proofs.Network.Errors
import PlaneNet.Proofs.Network.Update
import PlaneNet.Proofs.Network.Training
import PlaneNet.Proofs.Dataset
import PlaneNet.Proofs.Network.Sessions
import PlaneNet.Proofs.Trainer.Sound
import PlaneNet.Proofs.Trainer.Sessions
import PlaneNet.Proofs.KMeans.Fitting
import PlaneNet.Proofs.KMeans.Passes
import PlaneNet.Proofs.KMeans.FixedPoint
import PlaneNet.Proofs.KMeans.Descent
import PlaneNet.Proofs.KMeans.Stopping
import PlaneNet.Proofs.Trainer.Cycles
import PlaneNet.Proofs.Trainer.Visits
import PlaneNet.Proofs.Trainer.Lessons
import PlaneNet.Proofs.Trainer.Separable
import PlaneNet.Proofs.Trainer.Momentum
import PlaneNet.Proofs.Trainer.Continuous
import PlaneNet.Proofs.Trainer.Interleaving
import PlaneNet.Proofs.Trainer.Snapshots
import PlaneNet.Proofs.Network.Perturbation
import PlaneNet.Proofs.Activation
import PlaneNet.Proofs.Activation.Guarded
import PlaneNet.Proofs.Network.Gradient
import PlaneNet.Proofs.Network.Linear
import PlaneNet.Proofs.Network.Perceptron
import PlaneNet.Proofs.Network.Momentum
import PlaneNet.Proofs.Text.Fields
import PlaneNet.Proofs.Text.Utf8
import PlaneNet.Proofs.Dataset.Grammar
import PlaneNet.Proofs.KMeans.Refitting
import PlaneNet.Proofs.KMeans.Seeding
import PlaneNet.Proofs.KMeans.Reordering
import PlaneNet.Proofs.Trainer.Building
import PlaneNet.Proofs.Trainer.Gaussians
import PlaneNet.Proofs.Command.Running
import PlaneNet.Proofs.KMeans.Capping
import PlaneNet.Proofs.Network.Leftovers
import PlaneNet.Proofs.Network.Connections
import PlaneNet.Proofs.Trainer.Evaluation
import PlaneNet.Proofs.Dataset.Failing
import PlaneNet.Proofs.Dataset.Joining
import PlaneNet.Proofs.Fragment.Collisions
import PlaneNet.Proofs.Fragment.Declarations
import PlaneNet.Proofs.Fragment.Occurrences
import PlaneNet.Network.Installing
import PlaneNet.Proofs.Json.Written
import PlaneNet.Proofs.Layout.Totals
import PlaneNet.Proofs.Network.Installing
import PlaneNet.Proofs.Binary.Reading
import PlaneNet.Proofs.Binary.Narrowing
import PlaneNet.Proofs.Network.Variances
import PlaneNet.Proofs.Binary.Ordering
import PlaneNet.Proofs.KMeans.Nearest
import PlaneNet.Proofs.KMeans.Assigning
import PlaneNet.Proofs.Trainer.ErrorRate
import PlaneNet.Proofs.Layout.Tiling
import PlaneNet.Command.Effects
import PlaneNet.Proofs.Command.Failing
