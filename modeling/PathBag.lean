import PathBag.Bag
import PathBag.Proofs.Code.Faults
import PathBag.Proofs.Tree.Write
import PathBag.Report
import PathBag.View
import PathBag.Proofs.Eval.Respect
import PathBag.Proofs.Eval.Depth
import PathBag.Proofs.Marker.Texts
import PathBag.Proofs.Bag.Operations
import PathBag.Proofs.Eval.Misses
import PathBag.Proofs.Tree.Texts
import PathBag.Proofs.Bag.Inert
import PathBag.Proofs.Tree.Merge
import PathBag.Proofs.Bag.Writes
import PathBag.Proofs.Code.Completeness
import PathBag.Proofs.Marker.Templates
import PathBag.Proofs.Eval.Interpolation
import PathBag.Proofs.Tree.Keys
import PathBag.Proofs.Eval.Chains
import PathBag.Proofs.Eval.Subtrees
import PathBag.Proofs.Tree.Erase
import PathBag.Proofs.View.Places
import PathBag.Proofs.Bag.Construction
import PathBag.Proofs.Bag.Push
import PathBag.Proofs.Code.Paths
import PathBag.Proofs.Eval.Forms
import PathBag.Proofs.Json.RoundTrip
import PathBag.Proofs.Code.Comparisons
import PathBag.Proofs.Bag.Copies
import PathBag.Proofs.Bag.Roots
import PathBag.Proofs.Tree.Fresh
import PathBag.Proofs.Tree.Layers
import PathBag.Proofs.Bag.Deletion
import PathBag.Proofs.View.Plain
import PathBag.Proofs.Tree.Notation
import PathBag.Proofs.Code.Lookups
import PathBag.Proofs.Code.Arithmetic
import PathBag.Proofs.Eval.Rounds
import PathBag.Proofs.Code.Integers
import PathBag.Proofs.Eval.Splices
import PathBag.Proofs.Marker.Defaults
import PathBag.Proofs.Eval.Defaults
import PathBag.Proofs.Bag.Fallback
import PathBag.Proofs.Code.Positions
import PathBag.Proofs.Code.Printing
import PathBag.Proofs.Bag.Counts
import PathBag.Proofs.Shape.Extraction
import PathBag.Proofs.Code.Lookahead
import PathBag.Proofs.Code.EarlyEnds
