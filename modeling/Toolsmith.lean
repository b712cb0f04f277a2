import Toolsmith.Main
import Toolsmith.Proofs.Compile.Contract
import Toolsmith.Proofs.Generation.Serve
import Toolsmith.Proofs.Tool.Segments
import Toolsmith.Schema.Validation
import Toolsmith.Proofs.History
import Toolsmith.Proofs.Server.Session
import Toolsmith.Proofs.Server.Recency
import Toolsmith.Proofs.Server.Gate
import Toolsmith.Proofs.Generation.Environment
import Toolsmith.Proofs.Compile.Substitution
import Toolsmith.Proofs.Generation.Summary
import Toolsmith.Proofs.Generation.Regenerate
import Toolsmith.Proofs.Json.Distinct
import Toolsmith.Proofs.Json.Members
import Toolsmith.Proofs.Schema.Admission
import Toolsmith.Proofs.Schema.Validation
import Toolsmith.Proofs.Server.Advertised
import Toolsmith.Proofs.Server.Unanswered
import Toolsmith.Proofs.Server.Framing
import Toolsmith.Proofs.Server.Transports
import Toolsmith.Proofs.Server.Registry
import Toolsmith.Proofs.Generation.Packed
import Toolsmith.Proofs.Generation.Confined
import Toolsmith.Proofs.Generation.Rerun
import Toolsmith.Proofs.Generation.Consulted
import Toolsmith.Proofs.Generation.Finished
import Toolsmith.Proofs.Json.Given
import Toolsmith.Proofs.Collection.Document
import Toolsmith.Proofs.Collection.Canonical
import Toolsmith.Proofs.Collection.Spelling
import Toolsmith.Proofs.Compile.Query
import Toolsmith.Proofs.Tool.Arguments
import Toolsmith.Proofs.Compile.Example
import Toolsmith.Proofs.Text.Form
import Toolsmith.Proofs.Tool.Parameters
import Toolsmith.Proofs.Schema.Violation
import Toolsmith.Proofs.Schema.Widening
import Toolsmith.Proofs.Compile.Inputs
import Toolsmith.Proofs.Generation.Sample
import Toolsmith.Proofs.Naming.Resolution
import Toolsmith.Proofs.Naming.Stages
import Toolsmith.Proofs.Generation.Script
import Toolsmith.Proofs.Schema.Literal
import Toolsmith.Proofs.Schema.Builder
