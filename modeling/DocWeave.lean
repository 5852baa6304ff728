import DocWeave.Main
import DocWeave.Proofs.Client.Accounting
import DocWeave.Proofs.Client.Pacing
import DocWeave.Proofs.Command.Agreement
import DocWeave.Proofs.Command.DryRun
import DocWeave.Proofs.Command.Guards
import DocWeave.Proofs.Comment.Keeping
import DocWeave.Proofs.Comment.Repeating
import DocWeave.Proofs.Config.Consumers
import DocWeave.Proofs.Config.Contents
import DocWeave.Proofs.Config.Extensions
import DocWeave.Proofs.Documenting.Content
import DocWeave.Proofs.Documenting.Directory
import DocWeave.Proofs.Documenting.DryRun
import DocWeave.Proofs.Documenting.Schedules
import DocWeave.Proofs.Documenting.WritingBack
import DocWeave.Proofs.Extraction.Anchors
import DocWeave.Proofs.Extraction.Complete
import DocWeave.Proofs.Extraction.Faults
import DocWeave.Proofs.Extraction.Nesting
import DocWeave.Proofs.Files.Collecting
import DocWeave.Proofs.Files.Visiting
import DocWeave.Proofs.Generation.Hollow
import DocWeave.Proofs.Generation.Questions
import DocWeave.Proofs.Log.Runs
import DocWeave.Proofs.Prompt.Verbatim
import DocWeave.Proofs.Script.Turns
import DocWeave.Proofs.Splice.Joining
