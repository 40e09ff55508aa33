import Typewright.BuildStep
import Typewright.Journal.Run
import Typewright.Main
import Typewright.Template
import Typewright.Proofs.Resolution
import Typewright.Proofs.Containment
import Typewright.Proofs.Declared
import Typewright.Proofs.Merging
import Typewright.Proofs.Spelling
import Typewright.Proofs.RoundTrip
import Typewright.Proofs.SelfReference
import Typewright.Proofs.Layout
import Typewright.Proofs.Uniqueness
import Typewright.Proofs.MergeLaws
import Typewright.Proofs.Stages
import Typewright.Proofs.Coincidences
import Typewright.Proofs.Completeness
import Typewright.Proofs.Paths
import Typewright.Proofs.Refusals
import Typewright.Proofs.Registry
import Typewright.Proofs.Relocation
import Typewright.Proofs.Extension
import Typewright.Proofs.Clashes
import Typewright.Proofs.Allocation
import Typewright.Proofs.Shadowing
import Typewright.Proofs.Nesting
import Typewright.Proofs.Registration
import Typewright.Proofs.Lookups
import Typewright.Proofs.Nodes
import Typewright.Proofs.SnakeCase
import Typewright.Proofs.LetterCase
import Typewright.Proofs.FreeNames
import Typewright.Proofs.LastSegment
import Typewright.Proofs.Reachability
