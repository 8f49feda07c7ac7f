import InventoryQuery.Main
import InventoryQuery.Proofs.Filter.Columns
import InventoryQuery.Proofs.Filter.Numbers
import InventoryQuery.Proofs.Filter.Attempts
import InventoryQuery.Proofs.Filter.Continuations
import InventoryQuery.Proofs.Filter.Viability
import InventoryQuery.Proofs.Filter.Traversal
import InventoryQuery.Proofs.Filter.Faithful
import InventoryQuery.Proofs.Filter.Spans
import InventoryQuery.Proofs.Filter.Excerpts
import InventoryQuery.Proofs.Filter.Locations
import InventoryQuery.Proofs.Filter.Operators
import InventoryQuery.Proofs.Filter.Networks
import InventoryQuery.Proofs.Filter.Holes
import InventoryQuery.Proofs.Filter.Trailing
import InventoryQuery.Proofs.Filter.Integers
import InventoryQuery.Proofs.Request.Defaults
import InventoryQuery.Proofs.Request.Secrets
import InventoryQuery.Proofs.Request.Calls
import InventoryQuery.Proofs.Request.Registration
import InventoryQuery.Proofs.Request.Configurations
import InventoryQuery.Proofs.Shell.Loading
import InventoryQuery.Proofs.Shell.Writing
import InventoryQuery.Proofs.Shell.EnvFile
import InventoryQuery.Proofs.Shell.TableCommand
import InventoryQuery.Proofs.Filter.Carets
import InventoryQuery.Proofs.Filter.Quotations
import InventoryQuery.Proofs.Filter.Escapes
import InventoryQuery.Proofs.Json.Merging
import InventoryQuery.Proofs.Text.Offsets
