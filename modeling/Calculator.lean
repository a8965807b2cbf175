import Calculator.Main
import Calculator.Proofs.Calculation.Leftover
import Calculator.Proofs.Calculation.Failure
import Calculator.Proofs.Calculation.Reordered
import Calculator.Proofs.Calculation.Value
import Calculator.Proofs.Calculation.Substitution
import Calculator.Proofs.Command.Batch
import Calculator.Proofs.Command.History
import Calculator.Proofs.Command.Stream
import Calculator.Proofs.Command.Logging
import Calculator.Proofs.Command.Readback
import Calculator.Proofs.Rpn.Waiting
import Calculator.Proofs.Rpn.Fault
import Calculator.Proofs.Rpn.Parentheses
import Calculator.Proofs.Token.Fault
import Calculator.Proofs.Token.Insertion
