import ArtifactLens.Main
import ArtifactLens.Script
import ArtifactLens.Proofs.Registry.Collisions
import ArtifactLens.Proofs.Registry.Load
import ArtifactLens.Proofs.Provider.Coverage
import ArtifactLens.Proofs.Provider.Faults
import ArtifactLens.Proofs.Provider.Lookups
import ArtifactLens.Proofs.Provider.Events
import ArtifactLens.Proofs.Provider.Reset
import ArtifactLens.Proofs.Provider.Listeners
import ArtifactLens.Proofs.Watch.Subscriptions
import ArtifactLens.Proofs.Session.Failures
import ArtifactLens.Proofs.Session.Notes
import ArtifactLens.Proofs.Session.FailedLoads
import ArtifactLens.Proofs.Session.Stale
import ArtifactLens.Proofs.Command.Joining
import ArtifactLens.Proofs.Command.Spans
import ArtifactLens.Proofs.CommandLine.Exits
import ArtifactLens.Proofs.CommandLine.Runs
import ArtifactLens.Proofs.CommandLine.Sources
import ArtifactLens.Proofs.Listing
import ArtifactLens.Proofs.Database
import ArtifactLens.Proofs.Session.Counts
import ArtifactLens.Proofs.External
import ArtifactLens.Proofs.Settings
