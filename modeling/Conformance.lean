import Conformance.Main
import Conformance.Console.Log
import Conformance.Console.Markup
import Conformance.Console.Table
import Conformance.Console.Tree
import Conformance.Document
import Conformance.Yaml.Document
import Conformance.Yaml.Plain
import Conformance.Yaml.Flow
import Conformance.Yaml.Block
import Conformance.Descriptor.Value
import Conformance.Vocabulary
import Conformance.Validation.Stored
import Conformance.Validation.Validator
import Conformance.Validation.Walk
import Conformance.Marker.Acceptance
import Conformance.Schema.Compile
import Conformance.Descriptor.Matching
import Conformance.Failure
import Conformance.Store.Iteration
import Conformance.Store.Equality
import Conformance.Store.Text
import Conformance.Store.Basic
import Conformance.Validation.Basic
import Conformance.Value.Basic
import Conformance.Descriptor.Parser
import Conformance.Text.Blank
import Conformance.Text.Columns
import Conformance.Text.Quoted
import Conformance.Number.Shortest
import Conformance.Number.Exact
import Conformance.Calendar
import Conformance.Proofs.Descriptor.Grammar
import Conformance.Proofs.Schema.WellFormed
import Conformance.Proofs.Store.KeyEquality
import Conformance.Proofs.Validation.Agreement
import Conformance.Proofs.Validation.Conformity
import Conformance.Proofs.Validation.ReservedKey
import Conformance.Proofs.Validation.Strictness
import Conformance.Proofs.Descriptor.Canonical
import Conformance.Proofs.Descriptor.Meaning
import Conformance.Proofs.Descriptor.Viability
import Conformance.Proofs.Descriptor.Stray
import Conformance.Proofs.Descriptor.Spacing
import Conformance.Proofs.Schema.Stopping
import Conformance.Proofs.Schema.Acceptance
import Conformance.Proofs.Schema.Failing
import Conformance.Proofs.Validation.FaultList
import Conformance.Proofs.Vocabulary.Combinators
import Conformance.Proofs.Schema.PlainMarkers
import Conformance.Proofs.Schema.Sharing
import Conformance.Proofs.Validation.Emission
import Conformance.Proofs.Vocabulary.NamedType
import Conformance.Proofs.Validation.Visibility
import Conformance.Proofs.Validation.KeyOrder
import Conformance.Proofs.Validation.Positional
import Conformance.Proofs.Store.Data
import Conformance.Proofs.Yaml.Reading
import Conformance.Proofs.Document.Loading
import Conformance.Proofs.Yaml.Safety
import Conformance.Proofs.CommandLine.ExitStatus
import Conformance.Proofs.Descriptor.Context
import Conformance.Proofs.Descriptor.Derived
import Conformance.Proofs.Schema.Precompiled
import Conformance.Proofs.Schema.Trees
import Conformance.Proofs.Validation.Loosening
import Conformance.Proofs.Validation.Safety
import Conformance.Proofs.Validation.Paths
import Conformance.Proofs.Marker.Listed
import Conformance.Proofs.Descriptor.Refusal
import Conformance.Proofs.Validation.Arrays
import Conformance.Proofs.Text.CodePoint
import Conformance.Proofs.Number.Rounding
import Conformance.Proofs.Number.Shortest
import Conformance.Proofs.Number.Numeral
import Conformance.Proofs.Number.Layout
import Conformance.Proofs.Yaml.Words
import Conformance.Proofs.Yaml.Lines
import Conformance.Proofs.Json.Basic
import Conformance.Proofs.Json.Quoted
import Conformance.Proofs.Json.Scanning
import Conformance.Proofs.Json.Lexemes
import Conformance.Proofs.Json.Reading
import Conformance.Proofs.Json.Form
import Conformance.Proofs.Json.Atoms
import Conformance.Proofs.Json.Making
import Conformance.Proofs.Json.Loading
