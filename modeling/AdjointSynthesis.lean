import AdjointSynthesis.Text.Margin
import AdjointSynthesis.Text.Quoted
import AdjointSynthesis.Text.Identifier
import AdjointSynthesis.Text.NormalForm
import AdjointSynthesis.Code.Tree
import AdjointSynthesis.Code.Scan
import AdjointSynthesis.Code.Reader
import AdjointSynthesis.Code.Literal
import AdjointSynthesis.Code.Grammar.Targets
import AdjointSynthesis.Code.Grammar.Patterns
import AdjointSynthesis.Code.Read
import AdjointSynthesis.Code.Occurrence
import AdjointSynthesis.Scope
import AdjointSynthesis.Code.Assignment
import AdjointSynthesis.Text.Case
import AdjointSynthesis.Template.Fill
import AdjointSynthesis.Roles
import AdjointSynthesis.Registry
import AdjointSynthesis.Settings.Reader
import AdjointSynthesis.Generator
import AdjointSynthesis.Main
import AdjointSynthesis.Proofs.Transparency
import AdjointSynthesis.Proofs.Omissions
import AdjointSynthesis.Proofs.Agreement.Combinators
import AdjointSynthesis.Proofs.Agreement.Instances
import AdjointSynthesis.Proofs.Agreement.Trees
import AdjointSynthesis.Proofs.Agreement.Terminals
import AdjointSynthesis.Proofs.Agreement.Rules
import AdjointSynthesis.Proofs.Agreement.Arguments
import AdjointSynthesis.Proofs.Agreement.Displays
import AdjointSynthesis.Proofs.Agreement.Parameters
import AdjointSynthesis.Proofs.Agreement.Expressions
import AdjointSynthesis.Proofs.Agreement.Patterns
import AdjointSynthesis.Proofs.Agreement.Targets
import AdjointSynthesis.Proofs.Agreement.SimpleStatements
import AdjointSynthesis.Proofs.Agreement.CompoundStatements
import AdjointSynthesis.Proofs.Agreement.Texts
import AdjointSynthesis.Proofs.Forgetful
import AdjointSynthesis.Proofs.Emission
import AdjointSynthesis.Proofs.Templates
import AdjointSynthesis.Proofs.Names
import AdjointSynthesis.Proofs.ReadBack
import AdjointSynthesis.Proofs.Alignment
import AdjointSynthesis.Proofs.Shapes
import AdjointSynthesis.Proofs.Namespaces
import AdjointSynthesis.Proofs.Capture
import AdjointSynthesis.Proofs.Partition
import AdjointSynthesis.Proofs.Wrappers
import AdjointSynthesis.Proofs.Scanning.Ends
import AdjointSynthesis.Proofs.Scanning.Places
import AdjointSynthesis.Proofs.Reading.Targets
import AdjointSynthesis.Proofs.Usage
import AdjointSynthesis.Proofs.Writes
import AdjointSynthesis.Proofs.Bodies
import AdjointSynthesis.Proofs.Outcomes
import AdjointSynthesis.Proofs.Dependence
import AdjointSynthesis.Proofs.Reordering
import AdjointSynthesis.Proofs.Reports
import AdjointSynthesis.Proofs.Positions
import AdjointSynthesis.Proofs.References
import AdjointSynthesis.Proofs.Refusals
import AdjointSynthesis.Proofs.Newlines
import AdjointSynthesis.Proofs.Margins
import AdjointSynthesis.Proofs.BlockTexts
import AdjointSynthesis.Proofs.LineEnds
import AdjointSynthesis.Proofs.OneLine
import AdjointSynthesis.Proofs.Recovery
import AdjointSynthesis.Proofs.BlockNames
import AdjointSynthesis.Proofs.LookUps
import AdjointSynthesis.Proofs.Validation
import AdjointSynthesis.Proofs.Snapshots
import AdjointSynthesis.Proofs.NameLists
import AdjointSynthesis.Proofs.Columns
import AdjointSynthesis.Proofs.Naming
import AdjointSynthesis.Proofs.Sites
