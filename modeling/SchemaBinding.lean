import SchemaBinding.Config.File
import SchemaBinding.Http.Method
import SchemaBinding.Http.Operation
import SchemaBinding.Naming.FieldName
import SchemaBinding.Resolver.Basic
import SchemaBinding.Schema.Json
import SchemaBinding.TypeExpr.Json
import SchemaBinding.Proofs.Config.RoundTrip
import SchemaBinding.Proofs.Json.Lossless
import SchemaBinding.Proofs.Naming.BlankSegments
import SchemaBinding.Proofs.Naming.FieldIdentifier
import SchemaBinding.Proofs.Naming.SpacedWords
import SchemaBinding.Proofs.Naming.TypeLetters
import SchemaBinding.Proofs.Resolver.Batch
import SchemaBinding.Proofs.Resolver.Dependence
import SchemaBinding.Proofs.Resolver.LegalPath
import SchemaBinding.Proofs.TypeExpr.CanonicalImports
import SchemaBinding.Proofs.Text.Runs
import SchemaBinding.Proofs.Text.SnakeWords
import SchemaBinding.Proofs.Naming.FieldWords
import SchemaBinding.Proofs.Naming.FieldNameAgain
import SchemaBinding.Proofs.Naming.TypeNameAgain
import SchemaBinding.Proofs.Naming.Delimiters
import SchemaBinding.Proofs.Resolver.HintOrDefault
import SchemaBinding.Proofs.Resolver.Events
import SchemaBinding.Proofs.Config.Settings
import SchemaBinding.Proofs.Schema.Noise
import SchemaBinding.Proofs.TypeExpr.Rendering
import SchemaBinding.Proofs.Naming.Respelling
import SchemaBinding.Proofs.Http.Forms
import SchemaBinding.Proofs.Text.CapitalStream
import SchemaBinding.Proofs.Text.Sanitized
