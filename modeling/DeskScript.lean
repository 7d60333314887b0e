import DeskScript.Main
import DeskScript.Inspector.Basic
import DeskScript.Node.Loaded
import DeskScript.Proofs.Chain.Climbing
import DeskScript.Proofs.Command
import DeskScript.Proofs.Control.Program
import DeskScript.Proofs.Coordinates
import DeskScript.Proofs.Declaration.Scopes
import DeskScript.Proofs.Declaration.Types
import DeskScript.Proofs.Inspector.Colouring
import DeskScript.Proofs.Inspector.Following
import DeskScript.Proofs.Inspector.Words
import DeskScript.Proofs.Naming.Program
import DeskScript.Proofs.Naming.Strictness
import DeskScript.Proofs.Naming.Uses
import DeskScript.Proofs.Nesting.Limit
import DeskScript.Proofs.Node.Accepted
import DeskScript.Proofs.Node.Regular
import DeskScript.Proofs.Node.Rewritten
import DeskScript.Proofs.Node.RoundTrip
import DeskScript.Proofs.Parser.Integers
import DeskScript.Proofs.Parser.Termination
import DeskScript.Proofs.Printer.Program
import DeskScript.Proofs.Scope.History
import DeskScript.Proofs.Semicolon.Program
import DeskScript.Proofs.Token.Faults
import DeskScript.Proofs.Token.Reading
import DeskScript.Proofs.Token.Written
import DeskScript.Proofs.Twins.Blame
import DeskScript.Proofs.Twins.Spelling
