import Conform.Main
import Conform.Proofs.KeyMap
import Conform.Proofs.Number
import Conform.Proofs.Path
import Conform.Proofs.PathOrder
import Conform.Proofs.PathText
import Conform.Proofs.Schema.Sorted
import Conform.Proofs.Schema.Merge
import Conform.Proofs.Schema.Edit
import Conform.Proofs.Schema.Blank
import Conform.Proofs.Schema.Normalize
import Conform.Proofs.Schema.Parts
import Conform.Proofs.Schema.Effective
import Conform.Proofs.Schema.Priority
import Conform.Proofs.Schema.Layered
import Conform.Proofs.Schema.AsksMore
import Conform.Proofs.Json
import Conform.Proofs.Schema.Places
import Conform.Proofs.Schema.Repair
import Conform.Proofs.Schema.Rewrites
import Conform.Proofs.Schema.Reading
import Conform.Proofs.Schema.Members
import Conform.Proofs.Schema.Readable
import Conform.Proofs.Schema.Rereading
import Conform.Proofs.Validator.Reports
import Conform.Proofs.Validator.Visits
import Conform.Proofs.Validator.Order
import Conform.Proofs.Validator.Demands
import Conform.Proofs.Validator.Stricter
import Conform.Proofs.Validator.Projection
import Conform.Proofs.Scalar.History
import Conform.Proofs.Scalar.Enumerated
import Conform.Proofs.Compile.Required
import Conform.Proofs.Compile.Plain
import Conform.Proofs.Compile.Growth
import Conform.Proofs.Compile.Arena
import Conform.Proofs.Compile.Assembly
import Conform.Proofs.Compile.Meaning
import Conform.Proofs.Compile.Warnings
import Conform.Proofs.Compile.BlackList
import Conform.Proofs.Compile.Simulation
import Conform.Proofs.Compile.Without
import Conform.Proofs.Compile.Demands
import Conform.Proofs.Compile.Parts
import Conform.Proofs.Compile.Grouped
import Conform.Proofs.Compile.Presence
import Conform.Proofs.Compile.Monotone
import Conform.Proofs.Compile.Overrides
import Conform.Proofs.Compile.Raw
import Conform.Proofs.Invocation
import Conform.Proofs.Validator.Printed
import Conform.Proofs.Yaml
import Conform.Proofs.Config
import Conform.Proofs.Schema.Bounds
import Conform.Proofs.Compile.Resolving
import Conform.Proofs.Compile.Turns
import Conform.Proofs.Compile.Tree
