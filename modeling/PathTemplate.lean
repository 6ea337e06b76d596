import PathTemplate.Main
import PathTemplate.Registry.Run
import PathTemplate.Proofs.Resolver.Completeness
import PathTemplate.Proofs.Resolver.CacheContents
import PathTemplate.Proofs.Template.Canonical
import PathTemplate.Proofs.Template.Groups
import PathTemplate.Proofs.Template.Anchors
import PathTemplate.Proofs.Resolver.Separated
import PathTemplate.Proofs.Template.Scanning
import PathTemplate.Proofs.Registry.History
import PathTemplate.Proofs.Template.Rendering
import PathTemplate.Proofs.Resolver.Duplicates
import PathTemplate.Proofs.Resolver.Construction
import PathTemplate.Proofs.Registry.Isolation
import PathTemplate.Proofs.PatternSet.RoundTrip
import PathTemplate.Proofs.Template.GroupNames
import PathTemplate.Proofs.CommandLine.Agreement
