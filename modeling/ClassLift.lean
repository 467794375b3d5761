import ClassLift.Conversion
import ClassLift.Literal.Quotation
import ClassLift.Pattern
import ClassLift.Proofs.Conversion.Visit
import ClassLift.Proofs.Class.SuperCall
import ClassLift.Token.Dump
import ClassLift.Proofs.Class.Declared
import ClassLift.Proofs.Token.Frame
import ClassLift.Proofs.Token.Replacements
import ClassLift.Proofs.Class.Declaration
import ClassLift.Proofs.Class.Commit
import ClassLift.Proofs.Class.Ready
import ClassLift.Proofs.Class.Progress
import ClassLift.Proofs.Conversion.Rewriting
import ClassLift.Proofs.Scan
import ClassLift.Proofs.Conversion.Run
import ClassLift.Proofs.Statement.Face
import ClassLift.Proofs.Class.Quiet
import ClassLift.Proofs.Conversion.Idempotence
import ClassLift.Proofs.Statement.Presence
import ClassLift.Proofs.Class.Failure
import ClassLift.Proofs.Token.Whole
import ClassLift.Proofs.Token.Copies
import ClassLift.Proofs.Class.Success
import ClassLift.Proofs.Conversion.Novelty
import ClassLift.Proofs.Conversion.Confinement
import ClassLift.Proofs.Token.Offspring
import ClassLift.Proofs.Class.Offspring
import ClassLift.Proofs.Class.Constructor
import ClassLift.Proofs.Conversion.Permanence
import ClassLift.Proofs.Conversion.Linearity
import ClassLift.Proofs.Conversion.Constructors
import ClassLift.Proofs.Conversion.Definitions
import ClassLift.Proofs.Agreement
import ClassLift.Proofs.Token.Mirror
import ClassLift.Proofs.Statement.Mirror
import ClassLift.Proofs.Class.Mirror
import ClassLift.Proofs.Token.Lockstep
import ClassLift.Proofs.Class.Lockstep
import ClassLift.Proofs.Conversion.Lockstep
import ClassLift.Proofs.Scan.Loop
import ClassLift.Proofs.Scan.Trace
import ClassLift.Proofs.Scan.Preorder
import ClassLift.Proofs.Statement.Under
import ClassLift.Proofs.Conversion.Lineage
import ClassLift.Proofs.Conversion.Loop
import ClassLift.Proofs.Conversion.Independence
import ClassLift.Proofs.Conversion.Warnings
import ClassLift.Proofs.Token.Touch
import ClassLift.Proofs.Class.Touch
import ClassLift.Proofs.Conversion.Touch
import ClassLift.Proofs.Conversion.Concern
import ClassLift.Proofs.Class.Building
import ClassLift.Proofs.Class.Calls
import ClassLift.Proofs.Class.ParentCalls
import ClassLift.Proofs.Class.Redeclaration
import ClassLift.Proofs.Conversion.Calls
import ClassLift.Proofs.Conversion.Transfer
import ClassLift.Proofs.Conversion.Reworked
import ClassLift.Proofs.Conversion.Course
import ClassLift.Proofs.Conversion.Unvisited
import ClassLift.Proofs.Conversion.Schedule
import ClassLift.Proofs.Conversion.Order
import ClassLift.Proofs.Class.WrittenOut
import ClassLift.Proofs.Conversion.WrittenOut
import ClassLift.Proofs.Token.Acyclic
import ClassLift.Proofs.Token.Shape
import ClassLift.Proofs.Token.Listing
import ClassLift.Proofs.Class.Refusal
import ClassLift.Proofs.Conversion.Accounting
import ClassLift.Proofs.Class.Settled
import ClassLift.Proofs.Class.Withdrawal
import ClassLift.Proofs.Class.Repeated
import ClassLift.Proofs.Class.Recommit
import ClassLift.Proofs.Description
import ClassLift.Proofs.Token.Dump
import ClassLift.Proofs.Token.Unfolding
import ClassLift.Proofs.Token.Clone
import ClassLift.Proofs.Token.Comments
import ClassLift.Proofs.Class.Comments
import ClassLift.Proofs.Conversion.Takeover
import ClassLift.Proofs.Class.Origins
import ClassLift.Proofs.Conversion.Comments
import ClassLift.Proofs.Class.Misplaced
import ClassLift.Proofs.Text.PropertyName
import ClassLift.Proofs.Literal.StringSyntax
import ClassLift.Proofs.Literal.StringLines
import ClassLift.Proofs.Literal.StringValue
import ClassLift.Proofs.Table.Entries
import ClassLift.Proofs.Table.StringKeys
import ClassLift.Proofs.Table.Unquoting
