import SExpr.Main
import SExpr.Proofs.Composite.OnePass
import SExpr.Proofs.Context
import SExpr.Proofs.Conversion
import SExpr.Proofs.Equality
import SExpr.Proofs.Failure.Entry
import SExpr.Proofs.Failure.Number
import SExpr.Proofs.Limit
import SExpr.Proofs.Longest
import SExpr.Proofs.Notation
import SExpr.Proofs.Parts
import SExpr.Proofs.Place
import SExpr.Proofs.Prefix
import SExpr.Proofs.Radix
import SExpr.Proofs.Report
import SExpr.Proofs.Session.Atom
import SExpr.Proofs.Session.Depth
import SExpr.Proofs.Session.Grounded
import SExpr.Proofs.Session.Moved
import SExpr.Proofs.Session.Progress
import SExpr.Proofs.Spacing
import SExpr.Proofs.Unspellable
import SExpr.Proofs.Visits
