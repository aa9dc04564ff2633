import FirewallOperator.Collect
import FirewallOperator.Main
import FirewallOperator.Reconcile
import FirewallOperator.Cluster
import FirewallOperator.Proofs.Removals
import FirewallOperator.Proofs.Mirroring
import FirewallOperator.Proofs.Reports
import FirewallOperator.Proofs.Delimiting
import FirewallOperator.Proofs.FunctionTexts
import FirewallOperator.Proofs.Isolation
import FirewallOperator.Proofs.Releases
import FirewallOperator.Proofs.Expressions
import FirewallOperator.Proofs.Selections
import FirewallOperator.Proofs.Indexing
import FirewallOperator.Proofs.Provenance
import FirewallOperator.Proofs.References
import FirewallOperator.Proofs.Relisting
import FirewallOperator.Proofs.Restarts
import FirewallOperator.Proofs.Clusters
import FirewallOperator.Proofs.Confinement
import FirewallOperator.Proofs.Collecting
import FirewallOperator.Proofs.Marks
import FirewallOperator.Proofs.Domains
import FirewallOperator.Proofs.Edits
import FirewallOperator.Proofs.Finalizers
import FirewallOperator.Proofs.Defects
import FirewallOperator.Proofs.Readings
import FirewallOperator.Proofs.Renderings
import FirewallOperator.Proofs.Looks
import FirewallOperator.Proofs.Syncing
import FirewallOperator.Proofs.RoundTrips
import FirewallOperator.Proofs.Collisions
import FirewallOperator.Proofs.Graphs
import FirewallOperator.Proofs.Requests
import FirewallOperator.Proofs.Deletions
import FirewallOperator.Proofs.Differences
import FirewallOperator.Proofs.Listings
import FirewallOperator.Proofs.Cursors
import FirewallOperator.Proofs.GroupPaths
