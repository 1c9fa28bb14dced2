import IntegerEnum.CommandLine.Publish
import IntegerEnum.Conformance.Expectation
import IntegerEnum.Conformance.Fixtures
import IntegerEnum.Main
import IntegerEnum.Proofs.AcceptedDocuments
import IntegerEnum.Proofs.Beginnings
import IntegerEnum.Proofs.Conformity
import IntegerEnum.Proofs.DeclaredMapping
import IntegerEnum.Proofs.Extension
import IntegerEnum.Proofs.HandWritten
import IntegerEnum.Proofs.LocalChange
import IntegerEnum.Proofs.ModifierProblems
import IntegerEnum.Proofs.Noninterference
import IntegerEnum.Proofs.Reports
import IntegerEnum.Proofs.Sufficiency
import IntegerEnum.Proofs.Unchecked
import IntegerEnum.Proofs.Interchange
import IntegerEnum.Proofs.Multiplicity
import IntegerEnum.Proofs.Relisting
import IntegerEnum.Proofs.Rearrangement
import IntegerEnum.Proofs.Splitting
import IntegerEnum.Proofs.DeclarationOrder
import IntegerEnum.Proofs.WrittenOut
import IntegerEnum.Proofs.Aliases
import IntegerEnum.Proofs.Drift
import IntegerEnum.Proofs.Intake
import IntegerEnum.Proofs.Runs
import IntegerEnum.Proofs.Columns
import IntegerEnum.Proofs.Wrapping
import IntegerEnum.Proofs.Spellings
import IntegerEnum.Proofs.Names
