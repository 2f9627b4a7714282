import MigrationController.Api
import MigrationController.Resourcemerge
import MigrationController.Store
import MigrationController.Apply
import MigrationController.Remove
import MigrationController.Aggregate
import MigrationController.Sync
import MigrationController.Concurrency
import MigrationController.Run
import MigrationController.Interleaving
import MigrationController.Reconcile
