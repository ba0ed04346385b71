import SyntaxOutline.Main
import SyntaxOutline.Session
import SyntaxOutline.Proofs.Forest
import SyntaxOutline.Proofs.Reachable
import SyntaxOutline.Proofs.Sessions
import SyntaxOutline.Proofs.Subtree
import SyntaxOutline.Proofs.JobLines
import SyntaxOutline.Proofs.Printing
import SyntaxOutline.Proofs.BoundedSink
import SyntaxOutline.Proofs.ReadBack
import SyntaxOutline.Proofs.Deeds
import SyntaxOutline.Proofs.History
import SyntaxOutline.Proofs.Measures
import SyntaxOutline.Proofs.Roots
import SyntaxOutline.Proofs.Strangers
import SyntaxOutline.Proofs.Attachments
import SyntaxOutline.Proofs.Growth
import SyntaxOutline.Proofs.Locality
import SyntaxOutline.Proofs.Descent
import SyntaxOutline.Proofs.Copies
import SyntaxOutline.Proofs.Verdicts
import SyntaxOutline.Proofs.Additions
import SyntaxOutline.Proofs.Termination
import SyntaxOutline.Proofs.MachineWalks
import SyntaxOutline.Proofs.MachineLines
import SyntaxOutline.Proofs.Stretches
import SyntaxOutline.Proofs.Blocks
import SyntaxOutline.Proofs.Stopping
import SyntaxOutline.Proofs.Telling
import SyntaxOutline.Proofs.Newlines
import SyntaxOutline.Proofs.Reports
import SyntaxOutline.Proofs.Grafts
import SyntaxOutline.Proofs.Shifts
import SyntaxOutline.Proofs.Accumulation
import SyntaxOutline.Proofs.Decoding
import SyntaxOutline.Proofs.SureReads
import SyntaxOutline.Proofs.Accounts
import SyntaxOutline.Proofs.Trail
import SyntaxOutline.Proofs.Delimiters
