import HubRelay.Discovery.Described
import HubRelay.Main
import HubRelay.Proofs.CommandLine.FileSystems
import HubRelay.Proofs.CommandLine.FileTree
import HubRelay.Proofs.CommandLine.Inspection
import HubRelay.Proofs.Discovery.BridgeTypes
import HubRelay.Proofs.Discovery.FullNames
import HubRelay.Proofs.Discovery.Navigation
import HubRelay.Proofs.Discovery.Nesting
import HubRelay.Proofs.Discovery.Refusal
import HubRelay.Proofs.Discovery.Resolved
import HubRelay.Proofs.Discovery.ShortNames
import HubRelay.Proofs.Document.Alignment
import HubRelay.Proofs.Document.Completeness
import HubRelay.Proofs.Document.Deliveries
import HubRelay.Proofs.Document.DispatcherPaths
import HubRelay.Proofs.Document.FieldNames
import HubRelay.Proofs.Document.Forwarding
import HubRelay.Proofs.Document.LineEndings
import HubRelay.Proofs.Document.Members
import HubRelay.Proofs.Document.RecordNames
import HubRelay.Proofs.Hub.MethodReferences
import HubRelay.Proofs.Hub.RoundTrip
import HubRelay.Proofs.Snapshot.Acceptance
import HubRelay.Proofs.Snapshot.DottedNamespaces
import HubRelay.Proofs.Snapshot.Insertion
import HubRelay.Proofs.Snapshot.LookupOrder
import HubRelay.Proofs.Snapshot.Mentions
import HubRelay.Proofs.Snapshot.Reordering
import HubRelay.Proofs.Snapshot.RoundTrip
import HubRelay.Proofs.Snapshot.VerbatimNames
import HubRelay.Proofs.TypeExpr.Blame
import HubRelay.Proofs.TypeExpr.Completeness
import HubRelay.Proofs.TypeExpr.Descent
import HubRelay.Proofs.TypeExpr.WrittenNames
import HubRelay.Proofs.TypeRef.RoundTrip
import HubRelay.Proofs.TypeRef.WellNamed
import HubRelay.Proofs.Writer.OpenScopes
import HubRelay.Settings.Json
import HubRelay.Writer.Session
