import Formwright.Cache
import Formwright.Compilation
import Formwright.Document.Reader
import Formwright.Patch
import Formwright.Pattern.Lemmas
import Formwright.Prompt.Reading
import Formwright.Proofs.BackEnds
import Formwright.Proofs.Cache.Lookup
import Formwright.Proofs.Cache.Run
import Formwright.Proofs.Cache.Session
import Formwright.Proofs.Code.Linkage
import Formwright.Proofs.Code.Naming
import Formwright.Proofs.Code.Nesting
import Formwright.Proofs.Code.ReadBack
import Formwright.Proofs.Code.Shape
import Formwright.Proofs.Compilation
import Formwright.Proofs.Document.RoundTrip
import Formwright.Proofs.Lowering.Identity
import Formwright.Proofs.Node.Address
import Formwright.Proofs.Node.Spelled
import Formwright.Proofs.Node.Spelling
import Formwright.Proofs.Patch
import Formwright.Proofs.Pointer.Resolution
import Formwright.Proofs.Pointer.Segments
import Formwright.Proofs.Prompt.DraftName
import Formwright.Proofs.Prompt.Keyword
import Formwright.Proofs.Prompt.Layout
import Formwright.Proofs.Prompt.LengthRule
import Formwright.Proofs.Prompt.Qualification
import Formwright.Proofs.Prompt.Reading
import Formwright.Proofs.Prompt.Registration
import Formwright.Proofs.Prompt.Token
import Formwright.Proofs.Prompt.TokenForm
import Formwright.Proofs.Registry.Directory
import Formwright.Proofs.Text.Tidy
import Formwright.Proofs.Validation.ForeignKey
import Formwright.Proofs.Validation.Location
import Formwright.Proofs.Validation.Mention
import Formwright.Proofs.Validation.Pointing
import Formwright.Proofs.Validation.Relocation
import Formwright.Registry.DesignSystem
