import CatalogSync.Main
import CatalogSync.Store.Faults
import CatalogSync.Store.Memory
import CatalogSync.Index.Memory
import CatalogSync.Schema.Fixed
import CatalogSync.Feed.Recorder
import CatalogSync.Proofs.Bulk.Deferral
import CatalogSync.Proofs.Bulk.Drift
import CatalogSync.Proofs.Bulk.Exact
import CatalogSync.Proofs.Bulk.Repair
import CatalogSync.Proofs.Bulk.Visibility
import CatalogSync.Proofs.Command.Traffic
import CatalogSync.Proofs.Entity
import CatalogSync.Proofs.Feed.Recording
import CatalogSync.Proofs.Feed.Routing
import CatalogSync.Proofs.Feed.Sync
import CatalogSync.Proofs.Index.Documents
import CatalogSync.Proofs.Settings
import CatalogSync.Proofs.Solr.Acknowledged
import CatalogSync.Proofs.Solr.Course
import CatalogSync.Proofs.Solr.Enumeration
import CatalogSync.Proofs.Solr.Interchange
import CatalogSync.Proofs.Solr.Key
import CatalogSync.Proofs.Solr.Scope
import CatalogSync.Proofs.Store.History
