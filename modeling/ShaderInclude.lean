import ShaderInclude.Assoc
import ShaderInclude.Buffer
import ShaderInclude.Buffer.Query
import ShaderInclude.Charset
import ShaderInclude.Charset.DecodeError
import ShaderInclude.Charset.Utf16
import ShaderInclude.Charset.Utf8
import ShaderInclude.Config
import ShaderInclude.ContentType
import ShaderInclude.Decimal.Binary
import ShaderInclude.Decimal.Shortest
import ShaderInclude.Diagnostic.Compile
import ShaderInclude.Diagnostic.Marker
import ShaderInclude.Diagnostic.Remap
import ShaderInclude.Directive
import ShaderInclude.Environment
import ShaderInclude.Error
import ShaderInclude.Expansion
import ShaderInclude.FileTree
import ShaderInclude.FileTree.Canonical
import ShaderInclude.IncludePath
import ShaderInclude.Journal
import ShaderInclude.Loader
import ShaderInclude.Log.Level
import ShaderInclude.Log.Logger
import ShaderInclude.Log.Record
import ShaderInclude.Log.Template
import ShaderInclude.Log.Timestamp
import ShaderInclude.Log.Value
import ShaderInclude.MemoryStore
import ShaderInclude.Registry
import ShaderInclude.Resolver
import ShaderInclude.RootPath
import ShaderInclude.Scheme
import ShaderInclude.SchemeTable
import ShaderInclude.Segment
import ShaderInclude.Text.Blank
import ShaderInclude.Text.CodeRange
import ShaderInclude.Text.Digit
import ShaderInclude.Text.Integer
import ShaderInclude.Text.Printable
import ShaderInclude.Text.Quoted
import ShaderInclude.Text.Split
import ShaderInclude.Text.Word
import ShaderInclude.WebPage
import ShaderInclude.Proofs.Laminar
import ShaderInclude.Proofs.Parenthood
import ShaderInclude.Proofs.Provenance
import ShaderInclude.Proofs.Outline
import ShaderInclude.Proofs.CallTrace
import ShaderInclude.Proofs.Layout
import ShaderInclude.Proofs.PlainExpansion
import ShaderInclude.Proofs.SourceMap
import ShaderInclude.Proofs.IncludeOnce
import ShaderInclude.Proofs.IncludeTree
import ShaderInclude.Proofs.Elision
import ShaderInclude.Proofs.Dependence
import ShaderInclude.Proofs.DepthLimit
import ShaderInclude.Proofs.DirectiveFree
import ShaderInclude.Proofs.Nesting
import ShaderInclude.Proofs.PathRoundTrip
import ShaderInclude.Proofs.PathJoin
import ShaderInclude.Proofs.Anchoring
import ShaderInclude.Proofs.LastWrite
import ShaderInclude.Proofs.DirectiveGrammar
import ShaderInclude.Proofs.FailureCauses
import ShaderInclude.Proofs.StableParents
import ShaderInclude.Proofs.MarkerGrammar
import ShaderInclude.Proofs.Remapping
import ShaderInclude.Proofs.RemappedLog
import ShaderInclude.Proofs.SpliceLaws
import ShaderInclude.Proofs.Atomicity
import ShaderInclude.Proofs.MergedText
import ShaderInclude.Proofs.RegistryHistory
import ShaderInclude.Proofs.SingleHandler
