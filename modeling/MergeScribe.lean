import MergeScribe.GitHub.Memory
import MergeScribe.Main
import MergeScribe.Proofs.Changelog.Appending
import MergeScribe.Proofs.Changelog.Cursors
import MergeScribe.Proofs.Changelog.Drift
import MergeScribe.Proofs.Changelog.Lossless
import MergeScribe.Proofs.Changelog.Markup
import MergeScribe.Proofs.Changelog.Tidy
import MergeScribe.Proofs.Changelog.Wrapping
import MergeScribe.Proofs.Command.Formatting
import MergeScribe.Proofs.Config.Coherence
import MergeScribe.Proofs.Config.Overriding
import MergeScribe.Proofs.Credential
import MergeScribe.Proofs.GitHub.Pages
import MergeScribe.Proofs.Handler.Announcing
import MergeScribe.Proofs.Handler.Closing
import MergeScribe.Proofs.Handler.Gate
import MergeScribe.Proofs.Handler.Report
import MergeScribe.Proofs.Handler.Released
import MergeScribe.Proofs.History.Race
import MergeScribe.System.World
