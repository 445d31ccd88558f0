import ProjectAudit.Main
import ProjectAudit.Disk.Edit
import ProjectAudit.Proofs.Disk.Collect
import ProjectAudit.Proofs.Migration.Discovery
import ProjectAudit.Proofs.Disk.Walk
import ProjectAudit.Proofs.Migration.Verdict
import ProjectAudit.Proofs.Catalog.Checks
import ProjectAudit.Proofs.Catalog.Growth
import ProjectAudit.Proofs.Catalog.LineEnd
import ProjectAudit.Proofs.Rule.Modes
import ProjectAudit.Proofs.Migration.Unlisted
import ProjectAudit.Proofs.Disk.Entry
import ProjectAudit.Proofs.Catalog.Results
import ProjectAudit.Proofs.Catalog.Specimen
import ProjectAudit.Proofs.Migration.Misnamed
import ProjectAudit.Proofs.Catalog.Conforming
import ProjectAudit.Proofs.Report.Lines
import ProjectAudit.Proofs.Catalog.Names
import ProjectAudit.Proofs.CommandLine.Formats
import ProjectAudit.Proofs.Report.Failures
import ProjectAudit.Proofs.Disk.SamePlace
import ProjectAudit.Proofs.Migration.Elsewhere
import ProjectAudit.Proofs.Disk.Insert
import ProjectAudit.Proofs.Rule.Kept
import ProjectAudit.Proofs.Migration.Added
import ProjectAudit.Proofs.Migration.NewScript
import ProjectAudit.Proofs.Rule.Coherent
import ProjectAudit.Proofs.Catalog.Targets
import ProjectAudit.Proofs.Catalog.Keys
import ProjectAudit.Proofs.Catalog.Admits
import ProjectAudit.Proofs.Disk.Trail
import ProjectAudit.Proofs.Rule.Precedence
import ProjectAudit.Proofs.Rule.Detail
import ProjectAudit.Proofs.Catalog.Selection
import ProjectAudit.Proofs.Catalog.Local
import ProjectAudit.Proofs.Report.Complete
import ProjectAudit.Proofs.Text.Normalize
import ProjectAudit.Proofs.Text.Alignment
import ProjectAudit.Proofs.Report.Blocks
import ProjectAudit.Proofs.Report.Lossless
import ProjectAudit.Proofs.Text.LetterCase
import ProjectAudit.Proofs.Migration.Parts
import ProjectAudit.Proofs.Report.CatalogText
import ProjectAudit.Proofs.Report.CatalogJson
import ProjectAudit.Proofs.Text.Title
import ProjectAudit.Proofs.Disk.FullPaths
import ProjectAudit.Proofs.Project.Root
import ProjectAudit.Proofs.Text.Occurrences
import ProjectAudit.Proofs.Report.Regrouping
import ProjectAudit.Proofs.CommandLine.Arguments
import ProjectAudit.Proofs.CommandLine.Log
import ProjectAudit.Proofs.CommandLine.Colour
import ProjectAudit.Proofs.Path.Display
