/-
Specifications of the classes generated for user types: naming conventions, properties, drafts and
finished specifications, and the texts and fingerprints by which they are known.
-/
import BuilderSpec.Conventions.File
import BuilderSpec.Proofs.Conventions.Document
import BuilderSpec.Proofs.Conventions.Written
import BuilderSpec.Proofs.Discovery.ClassNames
import BuilderSpec.Proofs.Discovery.Descent
import BuilderSpec.Proofs.Specification.Edits
import BuilderSpec.Proofs.Specification.Finished
import BuilderSpec.Proofs.Discovery.Counterpart
import BuilderSpec.Proofs.Specification.Record
import BuilderSpec.Proofs.Specification.SameClasses
import BuilderSpec.Proofs.Specification.BuilderName
import BuilderSpec.Proofs.Class.Nameable
import BuilderSpec.Proofs.Specification.Misnested
import BuilderSpec.Proofs.Symbol.Nesting
import BuilderSpec.Proofs.Symbol.Registrations
import BuilderSpec.Proofs.Specification.NestedType
import BuilderSpec.Proofs.Discovery.Placed
import BuilderSpec.Proofs.Naming.Words
import BuilderSpec.Proofs.Naming.Getter
import BuilderSpec.Proofs.Naming.GetterNames
import BuilderSpec.Proofs.Discovery.PropertyDrafts
import BuilderSpec.Proofs.Specification.Repetitions
import BuilderSpec.Proofs.Conventions.Loading
import BuilderSpec.Proofs.Naming.Separators
import BuilderSpec.Proofs.Digest.Hexadecimal
import BuilderSpec.Proofs.Messages
