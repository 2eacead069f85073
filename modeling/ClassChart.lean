import ClassChart.Main
import ClassChart.Proofs.Build.Accounting
import ClassChart.Proofs.Build.Calls
import ClassChart.Proofs.Build.FailedFiles
import ClassChart.Proofs.Build.Growth
import ClassChart.Proofs.Build.Meeting
import ClassChart.Proofs.Build.NameFilter
import ClassChart.Proofs.Build.NamingConvention
import ClassChart.Proofs.Build.Reordering
import ClassChart.Proofs.Build.Suppression
import ClassChart.Proofs.Build.SystemTypes
import ClassChart.Proofs.Build.VisibilityFloor
import ClassChart.Proofs.Chart.Parts
import ClassChart.Proofs.Chart.Remarks
import ClassChart.Proofs.CommandLine.Endings
import ClassChart.Proofs.Declaration.Lookup
import ClassChart.Proofs.Diagram.Decoding
import ClassChart.Proofs.Diagram.Height
import ClassChart.Proofs.Files.Collect
import ClassChart.Proofs.Names.Namespace
import ClassChart.Proofs.Names.TypeName
import ClassChart.Proofs.Signature.Layout
import ClassChart.Proofs.Source.ReportedPath
import ClassChart.Proofs.Syntax.Faults
import ClassChart.Proofs.Syntax.Preorder
import ClassChart.Proofs.Syntax.Wrappers
