import Phrasebook.Buffer
import Phrasebook.Catalog
import Phrasebook.Files.Host
import Phrasebook.Format
import Phrasebook.Generation
import Phrasebook.Json.Number
import Phrasebook.Json.Reader
import Phrasebook.Json.Writer
import Phrasebook.LanguageTag
import Phrasebook.Literal.Js
import Phrasebook.Literal.Kotlin
import Phrasebook.Literal.Rust
import Phrasebook.Main
import Phrasebook.Placeholder
import Phrasebook.Proofs.Binding.Captures
import Phrasebook.Proofs.Binding.FileNames
import Phrasebook.Proofs.Binding.LegalNames
import Phrasebook.Proofs.Binding.Lookups
import Phrasebook.Proofs.Binding.ModuleNames
import Phrasebook.Proofs.Binding.Quotations
import Phrasebook.Proofs.Binding.Translations
import Phrasebook.Proofs.Buffer.Projections
import Phrasebook.Proofs.Catalog.Completeness
import Phrasebook.Proofs.Catalog.Forwarding
import Phrasebook.Proofs.Catalog.Tables
import Phrasebook.Proofs.Command.Agreement
import Phrasebook.Proofs.Command.FailedRuns
import Phrasebook.Proofs.Command.SkippedKeys
import Phrasebook.Proofs.Delivery.MissingDirectories
import Phrasebook.Proofs.Delivery.WrittenFiles
import Phrasebook.Proofs.Generation.SideBySide
import Phrasebook.Proofs.Generation.TargetLists
import Phrasebook.Proofs.LanguageTag.Apart
import Phrasebook.Proofs.Literal.JsTexts
import Phrasebook.Proofs.Literal.KotlinTexts
import Phrasebook.Proofs.Literal.RustTexts
import Phrasebook.Proofs.Naming.WordCuts
import Phrasebook.Proofs.Placeholder.Splicing
import Phrasebook.Proofs.Plan.Accounting
import Phrasebook.Proofs.Plan.Clashes
import Phrasebook.Proofs.Plan.KeyedNames
import Phrasebook.Proofs.Plan.PlainNames
import Phrasebook.Proofs.Plan.Pruning
import Phrasebook.Proofs.Plan.Rearranging
import Phrasebook.Proofs.Plan.Repeats
import Phrasebook.Proofs.Runtime.Replacing
import Phrasebook.Proofs.Runtime.Scanning
import Phrasebook.Proofs.Serial.RoundTrip
import Phrasebook.Proofs.Shape.Mirror
import Phrasebook.Proofs.Shape.Reordering
import Phrasebook.Proofs.Shape.UniqueNames
import Phrasebook.Proofs.Shape.Verdict
import Phrasebook.Serial.Config
import Phrasebook.Serial.Tree
import Phrasebook.Shape
import Phrasebook.SortedMap
import Phrasebook.Target
import Phrasebook.Target.Js
import Phrasebook.Target.Kotlin
import Phrasebook.Target.Rust
