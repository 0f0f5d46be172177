import Tableside.ApiDoc
import Tableside.Auth.Credentials
import Tableside.Cache.Backend
import Tableside.Catalog.Menu
import Tableside.Catalog.Update
import Tableside.Command
import Tableside.Cursor
import Tableside.Http.Application
import Tableside.Json.Printer
import Tableside.Main
import Tableside.Orders.Request
import Tableside.Proofs.Cursor
import Tableside.Response
import Tableside.Service.Admin
import Tableside.Service.Guest
import Tableside.Store.Relation
import Tableside.Proofs.Operations
import Tableside.Proofs.Calls
import Tableside.Proofs.History
import Tableside.Proofs.Listing
import Tableside.Proofs.Paging
import Tableside.Proofs.Isolation
import Tableside.Proofs.JsonText
import Tableside.Proofs.Snapshot
import Tableside.Proofs.MenuCache
import Tableside.Proofs.Consistency
import Tableside.Proofs.AdminGate
import Tableside.Proofs.MenuAge
import Tableside.Proofs.Scan
import Tableside.Proofs.Failure
import Tableside.Proofs.Schema
import Tableside.Proofs.Placement
import Tableside.Proofs.Window
import Tableside.Proofs.ItemEdit
import Tableside.Proofs.Independence
import Tableside.Proofs.OrderLines
import Tableside.Proofs.GuestOrders
import Tableside.Proofs.MenuRead
import Tableside.Proofs.Token
import Tableside.Proofs.TextOrder
import Tableside.Proofs.KeyOrder
import Tableside.Proofs.MenuDisplay
import Tableside.Proofs.PatchLaws
import Tableside.Proofs.Expiry
import Tableside.Proofs.SharedCache
import Tableside.Proofs.Cookies
import Tableside.Proofs.Migration
import Tableside.Proofs.PatchText
import Tableside.Proofs.OrderForm
