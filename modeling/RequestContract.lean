import RequestContract.Check.Content
import RequestContract.Check.Structure
import RequestContract.Context
import RequestContract.Double.Basic
import RequestContract.Double.Layout
import RequestContract.Double.Rounding
import RequestContract.Double.Shortest
import RequestContract.Finding
import RequestContract.Json.Basic
import RequestContract.Json.Cut
import RequestContract.Json.Draft
import RequestContract.Json.Fault
import RequestContract.Json.Literal
import RequestContract.Json.Writer
import RequestContract.Loading.Disk
import RequestContract.Loading.FilePath
import RequestContract.Loading.FileSystem
import RequestContract.Loading.Loader
import RequestContract.NonEmptyList
import RequestContract.Options
import RequestContract.OrderedMap
import RequestContract.Path
import RequestContract.Proofs.Applicability
import RequestContract.Proofs.Building
import RequestContract.Proofs.Categories
import RequestContract.Proofs.Check.Breach
import RequestContract.Proofs.Check.Codes
import RequestContract.Proofs.Check.Conformance
import RequestContract.Proofs.Check.Content
import RequestContract.Proofs.Check.Spot
import RequestContract.Proofs.Check.Structure
import RequestContract.Proofs.Check.Walk
import RequestContract.Proofs.Combining
import RequestContract.Proofs.Double.Order
import RequestContract.Proofs.Double.Rounding
import RequestContract.Proofs.Entries
import RequestContract.Proofs.Enums
import RequestContract.Proofs.Extension
import RequestContract.Proofs.Framing
import RequestContract.Proofs.Guarded
import RequestContract.Proofs.Json.Cut
import RequestContract.Proofs.Json.Draft
import RequestContract.Proofs.Json.RoundTrip
import RequestContract.Proofs.Loading.Directory
import RequestContract.Proofs.Loading.Order
import RequestContract.Proofs.Loading.Reloading
import RequestContract.Proofs.Locations
import RequestContract.Proofs.Occurrences
import RequestContract.Proofs.Options
import RequestContract.Proofs.Path
import RequestContract.Proofs.Path.Reading
import RequestContract.Proofs.Path.Splitting
import RequestContract.Proofs.Path.Stack
import RequestContract.Proofs.Ranges
import RequestContract.Proofs.Registry
import RequestContract.Proofs.Relaxation.Declaration
import RequestContract.Proofs.Relaxation.Validation
import RequestContract.Proofs.Reordering.Declaration
import RequestContract.Proofs.Reordering.Validation
import RequestContract.Proofs.Request
import RequestContract.Proofs.Schema.Canonical
import RequestContract.Proofs.Schema.Decoding
import RequestContract.Proofs.Schema.Insertion
import RequestContract.Proofs.Schema.Problems
import RequestContract.Proofs.Schema.References
import RequestContract.Proofs.Schema.Resolution
import RequestContract.Proofs.Schema.RoundTrip
import RequestContract.Proofs.Schema.TypeText
import RequestContract.Proofs.Undeclared
import RequestContract.Proofs.Url.Address
import RequestContract.Proofs.Url.Case
import RequestContract.Proofs.Url.Characters
import RequestContract.Proofs.Url.Grammar
import RequestContract.Proofs.Validator
import RequestContract.Proofs.Wording
import RequestContract.Proofs.WrongShapes
import RequestContract.Registry.Basic
import RequestContract.Registry.Calls
import RequestContract.Registry.Shared
import RequestContract.Report
import RequestContract.Request
import RequestContract.Schema.Basic
import RequestContract.Schema.Declaration
import RequestContract.Schema.Decoding.Attribute
import RequestContract.Schema.Decoding.Mismatch
import RequestContract.Schema.Decoding.OfJson
import RequestContract.Schema.Decoding.OfText
import RequestContract.Schema.Encoding
import RequestContract.Schema.FieldType
import RequestContract.Schema.Problem
import RequestContract.Schema.Resolution
import RequestContract.Text.Blank
import RequestContract.Text.Interval
import RequestContract.Text.Invisible
import RequestContract.Text.Letter
import RequestContract.Text.Numbered
import RequestContract.Text.Numeral
import RequestContract.Text.Quoted
import RequestContract.Text.Utf8
import RequestContract.Url
import RequestContract.Validator
