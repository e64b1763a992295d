import Lineage.Main
import Lineage.Proofs.Adjoin
import Lineage.Proofs.Growth
import Lineage.Proofs.Operations
import Lineage.Proofs.Indexing
import Lineage.Proofs.Documents
import Lineage.Proofs.Neighborhood
import Lineage.Proofs.Run
import Lineage.Proofs.Store
import Lineage.Proofs.Resolution
import Lineage.Proofs.Meaning
import Lineage.Proofs.Outcome
import Lineage.Proofs.Presented
import Lineage.Proofs.Placement
import Lineage.Proofs.Searching
import Lineage.Proofs.Counting
import Lineage.Proofs.Quoting
import Lineage.Proofs.Reading
import Lineage.Proofs.Telling
import Lineage.Proofs.Dangling
import Lineage.Proofs.Answers
import Lineage.Proofs.Endpoints
import Lineage.Proofs.Fates
import Lineage.Proofs.Decorating
import Lineage.Proofs.Order
import Lineage.Proofs.Restriction
import Lineage.Proofs.Parts
import Lineage.Proofs.Implementers
import Lineage.Proofs.Lexing
import Lineage.Proofs.Assembling
import Lineage.Proofs.RoundTrip
import Lineage.Proofs.Editing
import Lineage.Proofs.Showing
import Lineage.Proofs.Overlay
import Lineage.Proofs.Sweeping
import Lineage.Proofs.Recording
import Lineage.Proofs.Bookkeeping
import Lineage.Proofs.Lines
import Lineage.Proofs.Flags
import Lineage.Proofs.Traceless
import Lineage.Proofs.Absorbing
import Lineage.Proofs.BreadthFirst
import Lineage.Proofs.Delimiting
import Lineage.Proofs.Declaring
import Lineage.Proofs.Emitting
import Lineage.Proofs.Bytes
import Lineage.Proofs.Delivering
import Lineage.Proofs.Finding
import Lineage.Proofs.Occurring
import Lineage.Proofs.Roots
import Lineage.Proofs.Shadowing
import Lineage.Proofs.Grouping
