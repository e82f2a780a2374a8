import Clearance.Draft.Program
import Clearance.Policy.Access
import Clearance.Policy.Book
import Clearance.Sql.Database
import Clearance.Proofs.Error.Result
import Clearance.Proofs.Rule.Expansion
import Clearance.Proofs.Rule.Outline
import Clearance.Proofs.Rule.Plain
import Clearance.Proofs.Draft.Alike
import Clearance.Proofs.Draft.Fields
import Clearance.Proofs.Draft.Describe
import Clearance.Proofs.Decision.Outcome
import Clearance.Proofs.Decision.Reckoning
import Clearance.Proofs.Decision.Tally
import Clearance.Proofs.Filter.Outcome
import Clearance.Proofs.Filter.Tally
import Clearance.Proofs.Sql.Joining
import Clearance.Proofs.Sql.Uniform
import Clearance.Proofs.Filter.Guarded
import Clearance.Proofs.Filter.Declared
import Clearance.Proofs.Filter.Validation
import Clearance.Proofs.Filter.Placeholders
import Clearance.Proofs.Filter.TwoValued
import Clearance.Proofs.Sql.Naming
import Clearance.Proofs.Sql.Running
import Clearance.Proofs.Pattern.Affix
import Clearance.Proofs.Pattern.Parts
import Clearance.Proofs.Agreement.Scene
import Clearance.Proofs.Agreement.Tree
import Clearance.Proofs.Agreement.Shows
import Clearance.Proofs.Agreement.Leaf
import Clearance.Proofs.Agreement.Rule
import Clearance.Proofs.Agreement.Expansion
import Clearance.Proofs.Agreement.Faults
import Clearance.Proofs.Agreement.Mismatch
import Clearance.Proofs.Agreement.Footprint
import Clearance.Proofs.Limits.Answers
import Clearance.Proofs.Limits.Depth
import Clearance.Proofs.Limits.Unlimited
import Clearance.Proofs.Decision.Counting
import Clearance.Proofs.Policy.Joining
import Clearance.Proofs.Pattern.Reading
import Clearance.Proofs.Pattern.Matching
import Clearance.Proofs.Decision.Comparing
import Clearance.Proofs.Draft.Built
import Clearance.Proofs.Decision.OnData
import Clearance.Proofs.Limits.Headroom
import Clearance.Proofs.Policy.Extension
import Clearance.Draft.Call
import Clearance.Proofs.Draft.Hiding
import Clearance.Proofs.Draft.Twin
import Clearance.Proofs.Pattern.Placement
import Clearance.Proofs.Pattern.Descent
import Clearance.Proofs.Agreement.Native
import Clearance.Proofs.Agreement.Shapes
import Clearance.Proofs.Limits.Stray
import Clearance.Proofs.Agreement.OwnTable
import Clearance.Proofs.Pattern.LetterCase
import Clearance.Proofs.Pattern.Folding
import Clearance.Proofs.Agreement.AnyCase
import Clearance.Proofs.Rule.Traversal
import Clearance.Proofs.Pattern.Grammar
import Clearance.Proofs.Decision.Exact
import Clearance.Proofs.Policy.Equality
import Clearance.Proofs.Draft.Drawn
import Clearance.Proofs.Filter.Spanned
