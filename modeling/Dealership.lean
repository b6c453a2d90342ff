import Dealership.Crm.Assignments
import Dealership.Crm.AttributionRuns
import Dealership.Crm.Imports
import Dealership.Crm.QuietHours
import Dealership.Crm.Suppressions
import Dealership.Database.Transactions
import Dealership.Desking.Requests
import Dealership.Desking.RuleEvidence
import Dealership.Identity.LoginLife
import Dealership.Identity.PortAnswers
import Dealership.Identity.Refreshes
import Dealership.Inventory.RequestOrder
import Dealership.Inventory.VinReading
import Dealership.Inventory.Whereabouts
import Dealership.Jacket.Convergence
import Dealership.Jacket.Expiry
import Dealership.Jacket.Ledger
import Dealership.Jacket.LockOrder
import Dealership.Jacket.Papering
import Dealership.Jacket.Reassembly
import Dealership.Jacket.Resolution
import Dealership.Jacket.Reverify
import Dealership.Jacket.Waivers
import Dealership.Jacket.Words
import Dealership.Migrations.Ledger
import Dealership.Policy.ResourceBindings
import Dealership.Policy.Rooftops
import Dealership.Policy.RowOrder
import Dealership.Sales.Convergence
import Dealership.Sales.FloorRuns
import Dealership.Sales.SalesBoard
import Dealership.Service.BenchRuns
import Dealership.Service.BoardRuns
import Dealership.Service.BookingRuns
import Dealership.Service.Runs
import Dealership.Service.Sums
import Dealership.Service.Supervision
import Dealership.Service.WaitlistRuns
import Dealership.Worker.Loop
