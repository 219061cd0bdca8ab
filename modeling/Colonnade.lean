import Colonnade.Csv.Sheet
import Colonnade.Frame.Arena
import Colonnade.Frame.Layout
import Colonnade.Frame.Merge
import Colonnade.Frame.Removal
import Colonnade.Frame.Stack
import Colonnade.Inference
import Colonnade.Main
import Colonnade.Probe
import Colonnade.Proofs.Conversion.RoundTrip
import Colonnade.Proofs.Conversion.Values
import Colonnade.Proofs.Csv.Nesting
import Colonnade.Proofs.Duration.Forms
import Colonnade.Proofs.Frame.Leaves
import Colonnade.Proofs.Frame.Snapshot
import Colonnade.Proofs.Inference.Cascade
import Colonnade.Proofs.Inference.Fallback
import Colonnade.Proofs.Inference.GivenType
import Colonnade.Proofs.Inference.Numbers
import Colonnade.Proofs.Inference.Session
import Colonnade.Proofs.Json.Order
import Colonnade.Proofs.Options
import Colonnade.Proofs.Path
import Colonnade.Proofs.Removal.Contract
import Colonnade.Proofs.Removal.Grouping
import Colonnade.Proofs.Removal.InTurn
import Colonnade.Proofs.Removal.Rename
import Colonnade.Proofs.Removal.Successive
import Colonnade.Proofs.Soundness.Runs
import Colonnade.Proofs.Stack.Collected
import Colonnade.Proofs.Stack.Slices
import Colonnade.Proofs.Stack.Tree
import Colonnade.Proofs.Table
import Colonnade.Proofs.Time.Exclusion
import Colonnade.Schema
