import Stubsmith.Main
import Stubsmith.Proofs.Batch.Blame
import Stubsmith.Proofs.Store.Destination
import Stubsmith.Proofs.Store.Files
import Stubsmith.Proofs.Syntax.Derivation
import Stubsmith.Proofs.Syntax.Completeness
import Stubsmith.Proofs.Syntax.Places
import Stubsmith.Proofs.Syntax.Words
import Stubsmith.Proofs.Syntax.Names
import Stubsmith.Proofs.Command.Overwriting
import Stubsmith.Proofs.Command.Generate
import Stubsmith.Proofs.Syntax.Preorder
import Stubsmith.Proofs.Model.Constructors
import Stubsmith.Proofs.Syntax.Alike
import Stubsmith.Proofs.Syntax.Members
import Stubsmith.Proofs.Stub.Acceptance
import Stubsmith.Proofs.Syntax.Agreement
import Stubsmith.Proofs.Syntax.Respacing
import Stubsmith.Proofs.Batch.Sequence
import Stubsmith.Proofs.Command.Confinement
import Stubsmith.Proofs.Command.Inspecting
import Stubsmith.Proofs.Stub.Printing
import Stubsmith.Proofs.Stub.Wording
import Stubsmith.Proofs.Stub.Reading
import Stubsmith.Proofs.Stub.Uses
import Stubsmith.Proofs.Stub.Failing
import Stubsmith.Proofs.Stub.MethodNames
import Stubsmith.Proofs.Stub.Indentation
import Stubsmith.Proofs.Stub.Nesting
import Stubsmith.Proofs.Stub.Variables
import Stubsmith.Proofs.Command.Listing
import Stubsmith.Proofs.Command.Accesses
import Stubsmith.Proofs.Syntax.Positions
import Stubsmith.Proofs.Syntax.Usings
