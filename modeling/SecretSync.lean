import SecretSync.Main
import SecretSync.Proofs.Cli.Settings
import SecretSync.Proofs.Cluster.Listing
import SecretSync.Proofs.Config.Precedence
import SecretSync.Proofs.Controller.Calendar
import SecretSync.Proofs.Controller.Cursor
import SecretSync.Proofs.Controller.Loop
import SecretSync.Proofs.Controller.Window
import SecretSync.Proofs.Declaration.Conditions
import SecretSync.Proofs.Declaration.Rewriting
import SecretSync.Proofs.Logging.Cleanup
import SecretSync.Proofs.Secret.Control
import SecretSync.Proofs.Secret.MapRecord
import SecretSync.Proofs.Secret.Rekeying
import SecretSync.Proofs.Secret.Writeback
import SecretSync.Proofs.Sync.Accumulation
import SecretSync.Proofs.Sync.Conflict
import SecretSync.Proofs.Sync.Isolation
import SecretSync.Proofs.Sync.Reflection
import SecretSync.Proofs.Sync.Secrecy
import SecretSync.View.Declaration
import SecretSync.View.Settings
