import FrontEnd.Declaration.Basic
import FrontEnd.Document.Lemmas
import FrontEnd.JsonForm
import FrontEnd.Proofs.Cursor.Placement
import FrontEnd.Proofs.Cursor.Offsets
import FrontEnd.Proofs.Declaration.FirstSignature
import FrontEnd.Proofs.Document.Operations
import FrontEnd.Store
import FrontEnd.Proofs.Scan.InStep
import FrontEnd.Proofs.Scan.Tiling
import FrontEnd.Proofs.Scan.Progress
import FrontEnd.Proofs.Store.Changes
import FrontEnd.Proofs.Text.Boundary
import FrontEnd.Proofs.LineIndex.Correspondence
import FrontEnd.Proofs.Session.Basic
import FrontEnd.Proofs.Session.Steps
import FrontEnd.Proofs.Session.Requests
import FrontEnd.Proofs.Session.Chains
import FrontEnd.Proofs.Session.History
import FrontEnd.Proofs.Session.Refusals
import FrontEnd.Proofs.Session.Replies
import FrontEnd.Proofs.Session.Builders
import FrontEnd.Proofs.Session.Plain
import FrontEnd.Proofs.Session.Naming
import FrontEnd.Proofs.Session.Drivers
import FrontEnd.Proofs.Opening.Calls
import FrontEnd.Proofs.Opening.Invariant
import FrontEnd.Proofs.Opening.Once
import FrontEnd.Proofs.Declaration.WriteOnce
import FrontEnd.Proofs.Cursor.Rewinding
import FrontEnd.Proofs.Declaration.Roles
import FrontEnd.Proofs.Iterator.Turns
import FrontEnd.Proofs.Session.Views
import FrontEnd.Proofs.Iterator.Walking
import FrontEnd.Proofs.Iterator.OnChain
import FrontEnd.Proofs.Session.Kinds
import FrontEnd.Proofs.LineIndex.Extensional
import FrontEnd.Proofs.Cursor.Munching
import FrontEnd.Proofs.KindNames
import FrontEnd.Proofs.JsonForm
