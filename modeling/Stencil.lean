import Stencil.Rendering
import Stencil.Context
import Stencil.Yaml
import Stencil.Project
import Stencil.CommandLine
import Stencil.Main
import Stencil.Proofs.Text.BlankLines
import Stencil.Proofs.Template.Printing
import Stencil.Proofs.Template.Refusal
import Stencil.Proofs.Template.Tiling
import Stencil.Proofs.Template.Outlining
import Stencil.Proofs.Template.Bodies
import Stencil.Proofs.Template.References
import Stencil.Proofs.Template.QuickCheck
import Stencil.Proofs.Condition.RoundTrip
import Stencil.Proofs.Condition.Written
import Stencil.Proofs.Condition.Joining
import Stencil.Proofs.Scope.Turns
import Stencil.Proofs.Rendering.Composition
import Stencil.Proofs.Rendering.Nested
import Stencil.Proofs.Rendering.Returning
import Stencil.Proofs.Rendering.Counting
import Stencil.Proofs.Rendering.Substitution
import Stencil.Proofs.Rendering.Mentions
import Stencil.Proofs.Folder.Run
import Stencil.Proofs.Folder.Linting
import Stencil.Proofs.Project.Edits
import Stencil.Proofs.CommandLine.Validating
import Stencil.Proofs.CommandLine.Refusing
import Stencil.Proofs.CommandLine.Variables
import Stencil.Proofs.Binary64.Order
import Stencil.Proofs.Binary64.Rounding
import Stencil.Proofs.Condition.Integers
import Stencil.Proofs.Condition.Membership
import Stencil.Proofs.Text.Words
import Stencil.Proofs.Transform
import Stencil.Proofs.Folder.Finding
import Stencil.Proofs.Folder.InPlace
import Stencil.Proofs.Template.Positions
import Stencil.Proofs.Context.Stack
import Stencil.Proofs.Project.Context
