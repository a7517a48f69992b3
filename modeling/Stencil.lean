import Stencil.Main
import Stencil.Node.Json
import Stencil.Render.Engine
import Stencil.Proofs.Numeral
import Stencil.Proofs.Quoted
import Stencil.Proofs.Segment
import Stencil.Proofs.Form
import Stencil.Proofs.Unambiguous
import Stencil.Proofs.Defects
import Stencil.Proofs.Transparency
import Stencil.Proofs.Atomic
import Stencil.Proofs.Position
import Stencil.Proofs.Location
import Stencil.Proofs.Validation
import Stencil.Proofs.History
import Stencil.Proofs.InclusionFlags
import Stencil.Proofs.Extension
import Stencil.Proofs.Isolation
import Stencil.Proofs.Output
import Stencil.Proofs.WellPlaced
import Stencil.Proofs.Congruence
import Stencil.Proofs.Lines
import Stencil.Proofs.Wrapping
import Stencil.Proofs.Expression
import Stencil.Proofs.JsonScalar
import Stencil.Proofs.JsonRoundTrip
import Stencil.Proofs.Substitution
import Stencil.Proofs.Traversal
import Stencil.Proofs.Spelling
import Stencil.Proofs.Flattening
import Stencil.Proofs.Shadowing
import Stencil.Proofs.Acyclic
import Stencil.Proofs.Equality
