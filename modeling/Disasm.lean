import Disasm.Command.PrintTemplates
import Disasm.Main
import Disasm.Proofs.FunctionHash
import Disasm.Proofs.Listing.Assembly
import Disasm.Proofs.Listing.Completion
import Disasm.Proofs.Listing.Statement
import Disasm.Proofs.SplitJoin
import Disasm.Proofs.Template.Growth
import Disasm.Proofs.Template.Layout
import Disasm.Proofs.WellFormed
import Disasm.Sample.Workload
import Disasm.Proofs.Listing.Origin
import Disasm.Proofs.Listing.Shown
import Disasm.Proofs.Patterns
import Disasm.Proofs.Relocation
import Disasm.Proofs.FunctionTables
import Disasm.Proofs.CodeGraph
import Disasm.Proofs.SwitchSafety
import Disasm.Proofs.Template.Report
import Disasm.Proofs.Annotation.Placement
import Disasm.Proofs.Template.Expansion
import Disasm.Proofs.Annotation.TemplateSymbols
import Disasm.Proofs.Annotation.Reading
import Disasm.Proofs.Listing.Pointers
import Disasm.Proofs.Decoders
import Disasm.Proofs.Listing.Literal
import Disasm.Proofs.Listing.Segments
import Disasm.Proofs.Listing.LabelLines
import Disasm.Proofs.Listing.Comments
import Disasm.Proofs.KnownNames
import Disasm.Proofs.HashNames
import Disasm.Proofs.C.Template
import Disasm.Proofs.Label.Search
import Disasm.Proofs.Template.Alignment
import Disasm.Proofs.ExpressionText
import Disasm.Proofs.Annotation.BlockComments
import Disasm.Proofs.Annotation.InlineComments
import Disasm.Proofs.C.Dimension
import Disasm.Proofs.Listing.LocalNames
import Disasm.Proofs.LineForms
import Disasm.Proofs.Label.Substitution
import Disasm.Proofs.SwitchTargets
import Disasm.Proofs.Template.ArrayWord
import Disasm.Proofs.TextHash
