import Holdout.Archive.Rendezvous
import Holdout.Cursor
import Holdout.Image.Decode
import Holdout.Loader.Basic
import Holdout.Main
import Holdout.Model.Onnx
import Holdout.Report
import Holdout.Text.Padding
import Holdout.Proofs.Archive.RoundTrip
import Holdout.Proofs.Archive.Runs
import Holdout.Proofs.Article
import Holdout.Proofs.Cursor
import Holdout.Proofs.Cut
import Holdout.Proofs.Dataset
import Holdout.Proofs.Evaluation.Agreement
import Holdout.Proofs.Evaluation.Counts
import Holdout.Proofs.Evaluation.Feeding
import Holdout.Proofs.Evaluation.Limit
import Holdout.Proofs.Evaluation.Pass
import Holdout.Proofs.Evaluation.Questions
import Holdout.Proofs.Evaluation.Skipping
import Holdout.Proofs.Evaluation.Stopping
import Holdout.Proofs.Hub.Delivery
import Holdout.Proofs.Hub.Streaming
import Holdout.Proofs.Json.Lines
import Holdout.Proofs.Loader.Documents
import Holdout.Proofs.Model.Feeding
import Holdout.Proofs.Reading
import Holdout.Proofs.RecordStream
import Holdout.Proofs.Sieve
import Holdout.Proofs.Transform
import Holdout.Proofs.Hub.Requests
import Holdout.Proofs.Archive.Completion
import Holdout.Proofs.Archive.Rendezvous
import Holdout.Proofs.Ending
import Holdout.Proofs.Model.Naming
import Holdout.Proofs.Model.Outputs
import Holdout.Proofs.Archive.Keys
import Holdout.Proofs.Archive.NormalPath
import Holdout.Proofs.Archive.Conservation
import Holdout.Proofs.Flattening
import Holdout.Proofs.Command.Classify
import Holdout.Proofs.Scores.Integers
import Holdout.Proofs.Scores.Search
import Holdout.Proofs.InTurn
import Holdout.Proofs.Json.Values
import Holdout.Proofs.Document
import Holdout.Proofs.Model.Inputs
import Holdout.Proofs.Label
import Holdout.Proofs.Command.Recognition
import Holdout.Proofs.Model.Pinning
import Holdout.Proofs.Hub.Address
import Holdout.Proofs.Scores.Restart
import Holdout.Proofs.Image.Planes
import Holdout.Proofs.Json.Sequence
import Holdout.Proofs.Command.Stream
