import ApiClient.Code.Cursor
import ApiClient.Command
import ApiClient.FileTree
import ApiClient.Main
import ApiClient.Proofs.Resolution
import ApiClient.Proofs.Binding
import ApiClient.Proofs.Declarations.Following
import ApiClient.Proofs.Generation
import ApiClient.Proofs.Code
import ApiClient.Proofs.Code.Indentation
import ApiClient.Proofs.Generation.Mirrored
import ApiClient.Proofs.Route.Joining
import ApiClient.Proofs.Binding.Address
import ApiClient.Proofs.Document.Signatures
import ApiClient.Proofs.Generation.Visibility
import ApiClient.Proofs.Declarations.Names
import ApiClient.Proofs.Text.Trim
import ApiClient.Proofs.TypeRef.Grammar
import ApiClient.Proofs.TypeRef.FullName
import ApiClient.Proofs.TypeRef.Stops
import ApiClient.Proofs.Route.Written
import ApiClient.Proofs.Generation.Refusals
import ApiClient.Proofs.Declarations.Slots
import ApiClient.Proofs.Declarations.Registering
import ApiClient.Proofs.Document.Pairing
import ApiClient.Proofs.Binding.Alike
import ApiClient.Proofs.TypeStore
import ApiClient.Proofs.Generation.Sight
import ApiClient.Proofs.Generation.Switches
import ApiClient.Proofs.Binding.Names
import ApiClient.Proofs.Generation.Scopes
import ApiClient.Proofs.Command
import ApiClient.Proofs.Attribute
import ApiClient.Proofs.Binding.Numbering
import ApiClient.Proofs.Binding.Partition
import ApiClient.Proofs.Text.Units
import ApiClient.Proofs.Json.Strings
import ApiClient.Proofs.Json.RoundTrip
import ApiClient.Proofs.Path
import ApiClient.Proofs.Command.Init
import ApiClient.Proofs.Resolution.Closed
import ApiClient.Proofs.Resolution.Wrapped
import ApiClient.Proofs.Declarations.Origins
import ApiClient.Proofs.Binding.Required
import ApiClient.Proofs.Document.Query
import ApiClient.Proofs.Loading.Neighbours
import ApiClient.Proofs.Route.Composing
import ApiClient.Proofs.Route.Spans
import ApiClient.Proofs.Route.Splitting
