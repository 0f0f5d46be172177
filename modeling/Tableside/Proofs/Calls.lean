import Tableside.Proofs.Operations
import Tableside.Service.Admin
import Tableside.Service.Guest

/-!
# Calls

Everything that can be asked of a server is a `Call`. `Call.effect` says what a call comes to in a
store: the answer, and one of four changes of the rows. A server whose database serves answers
accordingly and leaves its rows changed accordingly (`Call.run_leaves`, `Call.run_database`); only
the answer of a menu read through a cache is left open here. Whatever is called, the rows undergo
one of four changes (`Call.effect_cases`).
-/

namespace Tableside

/-! ## Calls and answers -/

/-- A call to the service. What is made up for a new order is part of the call. -/
inductive Call
  | getMenu (code : String)
  | dropMenu (code : String)
  | resolveTable (token : String)
  | health
  | placeOrder (fresh : Fresh) (r : OrderRequest)
  | createOrder (fresh : Fresh) (r : OrderRequest)
  | listOrders (user : AdminUser) (q : ListQuery)
  | listPage (tenantId : Uuid) (status : Option OrderStatus) (token : Option String)
      (asked : Option Int)
  | getOrder (user : AdminUser) (id : Uuid)
  | findOrder (tenantId id : Uuid)
  | updateOrderStatus (user : AdminUser) (id : Uuid) (u : StatusUpdate)
  | setStatus (tenantId id : Uuid) (status : OrderStatus)
  | patchItem (user : AdminUser) (id : Uuid) (p : ItemPatch)
  | setItemAvailability (user : AdminUser) (id : Uuid) (a : Availability)

/-- What a call that succeeds answers. -/
inductive Reply
  | menu (m : Menu)
  | dropped
  | table (e : Envelope TableResolution)
  | health (e : Envelope Health)
  | placed (e : Envelope OrderReceipt)
  | created (r : OrderReceipt)
  | orders (e : Envelope OrdersPage)
  | page (p : OrdersPage)
  | order (e : Envelope Order)
  | found (o : Order)
  | item (e : Envelope Item)

/-- The call as a server carries it out. -/
def Call.run (i : Instance) : Call → Service Reply
  | getMenu code => Reply.menu <$> i.getMenu code
  | dropMenu code => (fun _ => Reply.dropped) <$> i.invalidateMenu code
  | resolveTable token => Reply.table <$> i.resolveTable token
  | health => Reply.health <$> i.health
  | placeOrder fresh r => Reply.placed <$> i.placeOrder fresh r
  | createOrder fresh r => Reply.created <$> Service.db (Orders.create fresh r)
  | listOrders user q => Reply.orders <$> i.listOrders user q
  | listPage tenantId status token asked =>
    Reply.page <$> Service.db (Orders.list tenantId status token asked)
  | getOrder user id => Reply.order <$> i.getOrder user id
  | findOrder tenantId id => Reply.found <$> Service.db (Orders.get tenantId id)
  | updateOrderStatus user id u => Reply.order <$> i.updateOrderStatus user id u
  | setStatus tenantId id status =>
    Reply.found <$> Service.db (Orders.setStatus tenantId id status)
  | patchItem user id p => Reply.item <$> i.patchItem user id p
  | setItemAvailability user id a => Reply.item <$> i.setItemAvailability user id a

/-! ## Changes -/

/-- What a call does to the rows. -/
inductive Change
  | nothing
  | order (row : OrderRow) (lines : List LineRow)
  | status (id : Uuid) (status : OrderStatus)
  | item (id : Uuid) (f : Item → Item)

/-- The store after a change. -/
def Change.apply (s : Store) : Change → Store
  | nothing => s
  | order row lines => s.withOrder row lines
  | status id new => s.updateStatus id new
  | item id f => s.updateItem id f

/-- An answer and a change. -/
abbrev Effect := Except ApiError Reply × Change

namespace Effect

/-- A check that comes before everything else. -/
def guarded (check : Except ApiError α) (next : α → Effect) : Effect :=
  match check with
  | .ok a => next a
  | .error e => (.error e, .nothing)

/-- An order that is placed, or the failure that is told. -/
def ofPlacement (placed : Except ApiError (OrderRow × List LineRow)) (reply : Reply)
    (told : ApiError → ApiError) : Effect :=
  match placed with
  | .ok (row, lines) => (.ok reply, .order row lines)
  | .error e => (.error (told e), .nothing)

/-- An order of a tenant in a new state. -/
def ofStatus (s : Store) (tenantId id : Uuid) (status : OrderStatus) (reply : Order → Reply) :
    Effect :=
  match s.orderOf? tenantId id with
  | some row =>
    ((Orders.shownOne s { row with status := status.name }).map reply, .status id status)
  | none => (.error (Orders.missing id), .nothing)

/-- An item that is changed. -/
def ofEdit (target : Except ApiError (String × Item)) (f : Item → Item) : Effect :=
  match target with
  | .ok (_, item) => (.ok (.item (.plain "Item updated" (f item))), .item item.id f)
  | .error e => (.error e, .nothing)

end Effect

namespace Orders

/-- An order of a tenant with its lines. -/
def look (s : Store) (tenantId id : Uuid) : Except ApiError Order :=
  match s.orderOf? tenantId id with
  | some row => shownOne s row
  | none => .error (missing id)

end Orders

namespace Catalog

/-- The menu of a code as it is given. -/
def menuAnswer (s : Store) (code : String) : Except ApiError Menu :=
  if (Text.trim code).isEmpty then .error (.badRequest "tenant code is required")
  else menuIn s (Text.trim code)

end Catalog

/-- The item with another availability. -/
def Availability.apply (a : Availability) (i : Item) : Item :=
  { i with isActive := a.isActive }

/-- What a call comes to in a store. -/
def Call.effect (s : Store) : Call → Effect
  | getMenu code => ((Catalog.menuAnswer s code).map .menu, .nothing)
  | dropMenu _ => (.ok .dropped, .nothing)
  | resolveTable token =>
    ((Catalog.resolution s (Text.trim token)).map fun r => .table (.plain "Table" r), .nothing)
  | health => (.ok (.health (.plain "Health check" ⟨true⟩)), .nothing)
  | placeOrder fresh r =>
    .guarded r.normalize.check fun _ =>
      .ofPlacement (Orders.placement fresh r.normalize s)
        (.placed (.plain "Order created" ⟨fresh.orderId, .waiting⟩)) Orders.hideMiss
  | createOrder fresh r =>
    .ofPlacement (Orders.placement fresh r s) (.created ⟨fresh.orderId, .waiting⟩) id
  | listOrders user q =>
    .guarded user.ensureAdmin fun _ => .guarded (ListQuery.statusFilter q.status) fun status =>
      ((Orders.page s user.tenantId status q.cursor q.limit).map fun page =>
        .orders ⟨"Orders", page,
          some (Meta.cursorPage page.limit page.data.length page.nextCursor)⟩, .nothing)
  | listPage tenantId status token asked =>
    ((Orders.page s tenantId status token asked).map .page, .nothing)
  | getOrder user id =>
    .guarded user.ensureAdmin fun _ =>
      ((Orders.look s user.tenantId id).map fun o => .order (.plain "Order found" o), .nothing)
  | findOrder tenantId id => ((Orders.look s tenantId id).map .found, .nothing)
  | updateOrderStatus user id u =>
    .guarded user.ensureAdmin fun _ => .guarded u.target fun status =>
      .ofStatus s user.tenantId id status fun o => .order (.plain "Order updated" o)
  | setStatus tenantId id status => .ofStatus s tenantId id status .found
  | patchItem user id p =>
    .guarded user.ensureAdmin fun _ =>
      .ofEdit (Catalog.patchTarget s user.tenantId id p) p.apply
  | setItemAvailability user id a =>
    .guarded user.ensureAdmin fun _ =>
      .ofEdit (Catalog.editTarget s user.tenantId id) a.apply

/-- The store after a call. -/
def Call.step (s : Store) (c : Call) : Store :=
  (c.effect s).2.apply s

/-! ## What servers do -/

namespace Service

variable {α β : Type} {w w' : World}

theorem map_apply (f : α → β) (m : Service α) (w : World) :
    (f <$> m) w = ((m w).1.map f, (m w).2) := by
  simp only [Functor.map, ExceptT.map, ExceptT.mk, StateT.bind, bind]
  rcases m w with ⟨_ | a, w'⟩
  · rfl
  · rfl

theorem bind_apply (m : Service α) (k : α → Service β) (w : World) :
    (m >>= k) w = match m w with
      | (.ok a, w) => k a w
      | (.error e, w) => (.error e, w) := by
  simp only [bind, ExceptT.bind, ExceptT.mk, StateT.bind]
  rcases m w with ⟨_ | a, w'⟩
  · rfl
  · rfl

theorem bind_of_ok {m : Service α} {a : α} (k : α → Service β) (h : m w = (.ok a, w')) :
    (m >>= k) w = k a w' := by
  rw [bind_apply, h]

theorem bind_of_error {m : Service α} {e : ApiError} (k : α → Service β)
    (h : m w = (.error e, w')) : (m >>= k) w = (.error e, w') := by
  rw [bind_apply, h]

end Service

/-- Work on the database, with its answer wrapped. -/
theorem Service.db_wrapped {α β : Type} (m : Db α) (wrap : α → β) (w : World) :
    (Service.db m >>= fun a => (pure (wrap a) : Service β)) w =
      ((m w.database).1.map wrap, { w with database := (m w.database).2 }) := by
  rw [Service.bind_apply, Service.db]
  rcases m w.database with ⟨_ | a, d⟩
  · rfl
  · rfl

/-- A call leaves `effect` behind: it answers so and changes the rows so. -/
structure Leaves (w : World) (effect : Effect) (result : Except ApiError Reply × World) : Prop where
  answer : result.1 = effect.1
  database : result.2.database =
    { w.database with store := effect.2.apply w.database.store }

namespace Leaves

variable {α : Type} {w : World}

/-- A service leaves what its answer, put in a reply, and its database say. -/
theorem of_run {m : Service α} {reply : α → Reply} {effect : Effect}
    {result : Except ApiError α × World}
    (ran : m w = result) (answered : result.1.map reply = effect.1)
    (changed : result.2.database =
      { w.database with store := effect.2.apply w.database.store }) :
    Leaves w effect ((reply <$> m) w) := by
  rw [Service.map_apply, ran]
  exact ⟨answered, changed⟩

/-- What is only asked leaves the rows alone. -/
theorem of_question {m : Db α} {reply : α → Reply} {answer : Except ApiError α}
    (asked : m w.database = (answer, w.database)) :
    Leaves w (answer.map reply, .nothing) ((reply <$> Service.db m) w) :=
  of_run (by rw [Service.db, asked]) rfl rfl

/-- A check is made before anything is done. -/
theorem guarded {β : Type} {check : Except ApiError β} {next : β → Effect} {m : β → Service α}
    {reply : α → Reply} (passed : ∀ b, check = .ok b → Leaves w (next b) ((reply <$> m b) w)) :
    Leaves w (.guarded check next) ((reply <$> (Service.check check >>= m)) w) := by
  cases check with
  | ok b =>
    have after := passed b rfl
    rw [Service.map_apply] at after ⊢
    exact after
  | error e =>
    rw [Service.map_apply]
    exact ⟨rfl, rfl⟩

end Leaves

/-! ## Caches and the rows -/

theorem World.cacheCall_database (w : World) (i : Instance) (name : String) (call : CacheCall) :
    (w.cacheCall i name call).2.database = w.database := by
  unfold World.cacheCall
  cases i.faults call.op <;> rfl

theorem World.cacheCall_log (w : World) (i : Instance) (name : String) (call : CacheCall) :
    (w.cacheCall i name call).2.log = w.log ++ [.cacheCall i.number call] := by
  unfold cacheCall
  cases i.faults call.op <;> rfl

theorem World.cacheGet_database (w : World) (i : Instance) (name key : String) :
    (w.cacheGet i name key).2.database = w.database := by
  have kept := w.cacheCall_database i name (.get key)
  unfold World.cacheGet
  split
  all_goals
    rename_i answered
    rw [answered] at kept
    exact kept

theorem Instance.invalidateMenu_apply (i : Instance) (code : String) (w : World) :
    ∃ w', i.invalidateMenu code w = (.ok (), w') ∧ w'.database = w.database := by
  refine ⟨_, rfl, ?_⟩
  dsimp only
  cases i.cache with
  | none => rfl
  | some name =>
    dsimp only
    split
    · rfl
    · exact w.cacheCall_database i name _

namespace MenuRead

variable (i : Instance) (name : String) {w : World}

theorem run_lookup (key : String) (next : Except CacheError (Option String) → MenuRead) :
    (lookup key next).run i name w =
      (next (w.cacheGet i name key).1).run i name (w.cacheGet i name key).2 := rfl

theorem run_load (serving : w.database.Serving) (code : String)
    (next : Except ApiError Menu → MenuRead) :
    (load code next).run i name w =
      (next (Catalog.menuIn w.database.store code)).run i name
        (w.record (.load i.number code)) := by
  have loaded : Service.db (Catalog.loadMenu code) (w.record (.load i.number code)) =
      (Catalog.menuIn w.database.store code, w.record (.load i.number code)) := by
    have answer := Catalog.loadMenu_apply serving code
    simp only [Service.db, World.record, answer]
  rw [run]
  simp only [loaded]

theorem run_save (key value : String) (ttl : Nanos) (next : MenuRead) :
    (save key value ttl next).run i name w =
      next.run i name (w.cacheCall i name (.set key value ttl)).2 := rfl

/-- A menu read leaves the database alone, whatever it still waits for. -/
theorem run_database (read : MenuRead) (serving : w.database.Serving) :
    (read.run i name w).2.database = w.database := by
  induction read generalizing w with
  | done answer => rfl
  | lookup key next ih =>
    have kept := w.cacheGet_database i name key
    rw [run_lookup, ih _ (kept ▸ serving), kept]
  | load code next ih =>
    rw [run_load i name serving]
    exact ih _ serving
  | save key value ttl next ih =>
    have kept := w.cacheCall_database i name (.set key value ttl)
    rw [run_save, ih (kept ▸ serving), kept]

end MenuRead

theorem Instance.getMenu_database (i : Instance) {w : World} (serving : w.database.Serving)
    (code : String) : (i.getMenu code w).2.database = w.database := by
  rw [Instance.getMenu]
  exact MenuRead.run_database i _ _ serving

/-- Without a cache to read, a menu is the one of the store. -/
theorem Instance.getMenu_uncached {i : Instance} (uncached : i.readThroughTtl = none)
    {w : World} (serving : w.database.Serving) (code : String) :
    (i.getMenu code w).1 = Catalog.menuAnswer w.database.store code := by
  rw [Instance.getMenu, uncached, Catalog.menuAnswer, MenuRead.start]
  split
  · rfl
  · rw [MenuRead.uncached, MenuRead.run_load _ _ serving]
    rfl

/-! ## What calls leave -/

namespace Leaves

variable {w : World}

theorem placement {m : Db OrderReceipt} (reply : OrderReceipt → Reply) (receipt : OrderReceipt)
    {placed : Except ApiError (OrderRow × List LineRow)} (told : ApiError → ApiError)
    (ran : m w.database = match placed with
      | .ok (row, lines) =>
        (.ok receipt, { w.database with store := w.database.store.withOrder row lines })
      | .error e => (.error (told e), w.database)) :
    Leaves w (.ofPlacement placed (reply receipt) told) ((reply <$> Service.db m) w) := by
  refine of_run (by rw [Service.db, ran]) ?_ ?_
  · cases placed <;> rfl
  · cases placed <;> rfl

theorem setStatus (serving : w.database.Serving) (keyed : w.database.store.Keyed)
    (tenantId id : Uuid) (status : OrderStatus) (reply : Order → Reply) :
    Leaves w (.ofStatus w.database.store tenantId id status reply)
      ((reply <$> Service.db (Orders.setStatus tenantId id status)) w) := by
  have set := Orders.setStatus_apply serving keyed tenantId id status
  unfold Effect.ofStatus
  cases found : w.database.store.orderOf? tenantId id with
  | none =>
    simp only [found] at set
    exact of_run (by rw [Service.db, set]) rfl rfl
  | some row =>
    simp only [found] at set
    exact of_run (by rw [Service.db, set]) rfl rfl

/-- An answer may be wrapped before it is put in a reply. -/
theorem wrapped {α β : Type} {m : Db α} {wrap : α → β} {reply : β → Reply} {effect : Effect}
    (bare : Leaves w effect (((fun a => reply (wrap a)) <$> Service.db m) w)) :
    Leaves w effect ((reply <$> (Service.db m >>= fun a => (pure (wrap a) : Service β))) w) := by
  rw [Service.map_apply] at bare ⊢
  rw [Service.db_wrapped]
  refine ⟨?_, bare.database⟩
  rw [← bare.answer]
  change _ = (m w.database).1.map fun a => reply (wrap a)
  cases (m w.database).1 <;> rfl

theorem editItem (i : Instance) {edit : Db (String × Item)}
    {target : Except ApiError (String × Item)} {f : Item → Item}
    (ran : edit w.database = Catalog.edited target f w.database) :
    Leaves w (.ofEdit target f) ((Reply.item <$> i.editItem edit) w) := by
  rw [Service.map_apply, Instance.editItem]
  cases target with
  | error e =>
    rw [Service.bind_of_error _ (by rw [Service.db, ran]; rfl)]
    exact ⟨rfl, rfl⟩
  | ok found =>
    rw [Service.bind_of_ok _ (by rw [Service.db, ran]; rfl)]
    obtain ⟨w', dropped, kept⟩ := i.invalidateMenu_apply found.1
      { w with database :=
        { w.database with store := w.database.store.updateItem found.2.id f } }
    dsimp only
    rw [Service.bind_of_ok _ dropped]
    exact ⟨rfl, kept⟩

end Leaves

/-- A call that reads no menu through a cache answers what it comes to and leaves the rows so. -/
theorem Call.run_leaves (i : Instance) (c : Call) {w : World} (serving : w.database.Serving)
    (keyed : w.database.store.Keyed)
    (uncached : ∀ code, c = .getMenu code → i.readThroughTtl = none) :
    Leaves w (c.effect w.database.store) (c.run i w) := by
  cases c with
  | getMenu code =>
    refine Leaves.of_run rfl ?_ ?_
    · rw [i.getMenu_uncached (uncached code rfl) serving, Call.effect]
    · rw [i.getMenu_database serving code]
      rfl
  | dropMenu code =>
    obtain ⟨w', dropped, kept⟩ := i.invalidateMenu_apply code w
    exact Leaves.of_run dropped rfl kept
  | resolveTable token =>
    exact Leaves.wrapped (.of_question (Catalog.resolveTable_apply serving token))
  | health =>
    have up := serving.mark
    refine Leaves.of_run rfl ?_ ?_
    · simp only [Instance.health, Service.db, up]
      rfl
    · simp only [Instance.health, Service.db, up]
      rfl
  | placeOrder fresh r =>
    have placed := Orders.place_apply serving fresh r
    rw [Call.run, Instance.placeOrder, Call.effect]
    unfold Effect.guarded
    refine Leaves.wrapped ?_
    cases checked : r.normalize.check with
    | error e =>
      simp only [checked] at placed
      exact Leaves.of_question placed
    | ok _ =>
      simp only [checked] at placed
      exact Leaves.placement (fun receipt => .placed (.plain "Order created" receipt)) _ _ placed
  | createOrder fresh r =>
    exact Leaves.placement .created _ id (Orders.create_apply serving fresh r)
  | listOrders user q =>
    refine Leaves.guarded fun _ _ => Leaves.guarded fun status _ => ?_
    exact Leaves.wrapped (.of_question (Orders.list_apply serving ..))
  | listPage tenantId status token asked => exact Leaves.of_question (Orders.list_apply serving ..)
  | getOrder user id =>
    refine Leaves.guarded fun _ _ => ?_
    exact Leaves.wrapped (.of_question (Orders.get_apply serving ..))
  | findOrder tenantId id => exact Leaves.of_question (Orders.get_apply serving ..)
  | updateOrderStatus user id u =>
    refine Leaves.guarded fun _ _ => Leaves.guarded fun status _ => ?_
    exact Leaves.wrapped (.setStatus serving keyed user.tenantId id status _)
  | setStatus tenantId id status => exact Leaves.setStatus serving keyed tenantId id status _
  | patchItem user id p =>
    refine Leaves.guarded fun _ _ => ?_
    exact Leaves.editItem i (Catalog.patchItem_apply serving keyed user.tenantId id p)
  | setItemAvailability user id a =>
    refine Leaves.guarded fun _ _ => ?_
    exact Leaves.editItem i (Catalog.setAvailability_apply serving keyed user.tenantId id a)

/-- Every call, cached or not, leaves the rows as it should. -/
theorem Call.run_database (i : Instance) (c : Call) {w : World} (serving : w.database.Serving)
    (keyed : w.database.store.Keyed) :
    (c.run i w).2.database = { w.database with store := c.step w.database.store } := by
  by_cases read : ∃ code, c = .getMenu code
  · obtain ⟨code, rfl⟩ := read
    rw [Call.run, Service.map_apply, i.getMenu_database serving code]
    rfl
  · exact (c.run_leaves i serving keyed fun code same => absurd ⟨code, same⟩ read).database

/-! ## What a call may change -/

namespace Call

/-- The order that a call asks for. -/
def creates : Call → Option (Fresh × OrderRequest)
  | placeOrder fresh r => some (fresh, r.normalize)
  | createOrder fresh r => some (fresh, r)
  | _ => none

/-- The tenant, the order and the state that a call asks for, if it may. -/
def sets : Call → Option (Uuid × Uuid × OrderStatus)
  | updateOrderStatus user id u =>
    if user.role = "admin" then u.target.toOption.map (user.tenantId, id, ·) else none
  | setStatus tenantId id status => some (tenantId, id, status)
  | _ => none

/-- The tenant, the item and the change that a call asks for, if it may. -/
def edits : Call → Option (Uuid × Uuid × (Item → Item))
  | patchItem user id p => if user.role = "admin" then some (user.tenantId, id, p.apply) else none
  | setItemAvailability user id a =>
    if user.role = "admin" then some (user.tenantId, id, a.apply) else none
  | _ => none

variable {s : Store}

theorem ensureAdmin_of_admin {user : AdminUser} (admin : user.role = "admin") :
    user.ensureAdmin = .ok () :=
  if_pos admin

theorem ensureAdmin_of_other {user : AdminUser} (other : user.role ≠ "admin") :
    user.ensureAdmin = .error .forbidden :=
  if_neg other

theorem admin_of_ensureAdmin {user : AdminUser} (passed : user.ensureAdmin = .ok ()) :
    user.role = "admin" := by
  by_contra other
  rw [ensureAdmin_of_other other] at passed
  cases passed

theorem effect_creates {c : Call} {fresh : Fresh} {r : OrderRequest}
    (asked : c.creates = some (fresh, r)) :
    (∃ e, c.effect s = (.error e, .nothing)) ∨ ∃ reply told,
      c.effect s = .ofPlacement (Orders.placement fresh r s) reply told := by
  cases c
  case placeOrder fresh' r' =>
    cases asked
    rw [effect]
    cases r'.normalize.check with
    | error e => exact .inl ⟨e, rfl⟩
    | ok _ => exact .inr ⟨_, _, rfl⟩
  case createOrder fresh' r' =>
    cases asked
    exact .inr ⟨_, _, rfl⟩
  all_goals cases asked

theorem effect_sets {c : Call} {tenantId id : Uuid} {status : OrderStatus}
    (asked : c.sets = some (tenantId, id, status)) :
    ∃ reply, c.effect s = .ofStatus s tenantId id status reply := by
  cases c
  case updateOrderStatus user id' u =>
    rw [sets] at asked
    split at asked
    · rename_i admin
      rw [effect, ensureAdmin_of_admin admin]
      cases target : u.target with
      | error e =>
        rw [target] at asked
        cases asked
      | ok status' =>
        rw [target] at asked
        cases asked
        exact ⟨_, rfl⟩
    · cases asked
  case setStatus tenantId' id' status' =>
    cases asked
    exact ⟨_, rfl⟩
  all_goals cases asked

theorem effect_edits {c : Call} {tenantId id : Uuid} {f : Item → Item}
    (asked : c.edits = some (tenantId, id, f)) :
    ∃ target, c.effect s = .ofEdit target f ∧
      ∀ found, target = .ok found → Catalog.editTarget s tenantId id = .ok found := by
  cases c
  case patchItem user id' p =>
    rw [edits] at asked
    split at asked
    · rename_i admin
      cases asked
      rw [effect, ensureAdmin_of_admin admin]
      exact ⟨_, rfl, fun found => Catalog.patchTarget_eq_ok⟩
    · cases asked
  case setItemAvailability user id' a =>
    rw [edits] at asked
    split at asked
    · rename_i admin
      cases asked
      rw [effect, ensureAdmin_of_admin admin]
      exact ⟨_, rfl, fun found there => there⟩
    · cases asked
  all_goals cases asked

/-- A call that may not write changes nothing. -/
theorem effect_idle {c : Call} (creates : c.creates = none) (sets : c.sets = none)
    (edits : c.edits = none) : (c.effect s).2 = .nothing := by
  cases c
  case placeOrder => cases creates
  case createOrder => cases creates
  case setStatus => cases sets
  case listOrders user q =>
    rw [effect]
    unfold Effect.guarded
    split
    · split <;> rfl
    · rfl
  case getOrder user id =>
    rw [effect]
    unfold Effect.guarded
    split <;> rfl
  case updateOrderStatus user id u =>
    rw [effect]
    by_cases admin : user.role = "admin"
    · rw [Call.sets, if_pos admin] at sets
      rw [ensureAdmin_of_admin admin]
      cases target : u.target with
      | error e => rfl
      | ok status =>
        rw [target] at sets
        cases sets
    · rw [ensureAdmin_of_other admin]
      rfl
  case patchItem user id p =>
    by_cases admin : user.role = "admin"
    · rw [Call.edits, if_pos admin] at edits
      cases edits
    · rw [effect, ensureAdmin_of_other admin]
      rfl
  case setItemAvailability user id a =>
    by_cases admin : user.role = "admin"
    · rw [Call.edits, if_pos admin] at edits
      cases edits
    · rw [effect, ensureAdmin_of_other admin]
      rfl
  all_goals rfl

/-- The four things that a call can do. -/
theorem effect_cases (c : Call) (s : Store) :
    (c.effect s).2 = .nothing ∨
    (∃ fresh r row lines, c.creates = some (fresh, r) ∧
      Orders.placement fresh r s = .ok (row, lines) ∧ (c.effect s).2 = .order row lines) ∨
    (∃ tenantId id status row, c.sets = some (tenantId, id, status) ∧
      s.orderOf? tenantId id = some row ∧ (c.effect s).2 = .status id status ∧
      ∃ reply, (c.effect s).1 =
        (Orders.shownOne s { row with status := status.name }).map reply) ∨
    (∃ tenantId id f code item, c.edits = some (tenantId, id, f) ∧
      Catalog.editTarget s tenantId id = .ok (code, item) ∧ (c.effect s).2 = .item id f ∧
      ∃ reply, (c.effect s).1 = .ok reply) := by
  cases creates : c.creates with
  | some asked =>
    obtain ⟨fresh, r⟩ := asked
    rcases effect_creates creates with ⟨e, refused⟩ | ⟨reply, told, placed⟩
    · exact .inl (by rw [refused])
    rw [placed]
    cases done : Orders.placement fresh r s with
    | error e => exact .inl rfl
    | ok added => exact .inr (.inl ⟨fresh, r, _, _, rfl, done, rfl⟩)
  | none =>
  cases sets : c.sets with
  | some asked =>
    obtain ⟨tenantId, id, status⟩ := asked
    obtain ⟨reply, set⟩ := effect_sets sets
    rw [set, Effect.ofStatus]
    cases found : s.orderOf? tenantId id with
    | none => exact .inl rfl
    | some row => exact .inr (.inr (.inl ⟨tenantId, id, status, row, rfl, found, rfl, reply, rfl⟩))
  | none =>
  cases edits : c.edits with
  | some asked =>
    obtain ⟨tenantId, id, f⟩ := asked
    obtain ⟨target, edited, found⟩ := effect_edits edits
    rw [edited]
    cases target with
    | error e => exact .inl rfl
    | ok target =>
      have there := found target rfl
      obtain ⟨-, -, same, -⟩ := Catalog.editTarget_eq_ok there
      exact .inr (.inr (.inr ⟨tenantId, id, f, _, _, rfl, there, by rw [← same]; rfl, _, rfl⟩))
  | none => exact .inl (effect_idle creates sets edits)

theorem edits_keep {c : Call} {tenantId id : Uuid} {f : Item → Item}
    (asked : c.edits = some (tenantId, id, f)) (i : Item) :
    (f i).id = i.id ∧ (f i).tenantId = i.tenantId := by
  cases c
  case patchItem user id' p =>
    rw [edits] at asked
    split at asked
    · cases asked
      exact ⟨rfl, rfl⟩
    · cases asked
  case setItemAvailability user id' a =>
    rw [edits] at asked
    split at asked
    · cases asked
      exact ⟨rfl, rfl⟩
    · cases asked
  all_goals cases asked

/-- Whatever is asked, keys stay unique. -/
theorem keyed_step (c : Call) (keyed : s.Keyed) : (c.step s).Keyed := by
  rw [step]
  rcases c.effect_cases s with idle | ⟨fresh, r, row, lines, -, placed, changed⟩ |
    ⟨tenantId, id, status, row, -, -, changed, -⟩ |
    ⟨tenantId, id, f, code, item, asked, -, changed, -⟩
  · rw [idle]
    exact keyed
  · rw [changed]
    exact Orders.keyed_of_placement keyed placed
  · rw [changed]
    exact keyed.updateStatus id status
  · rw [changed]
    exact keyed.updateItem id fun i => (edits_keep asked i).1

/-- The lines of a new order can be read, so that all lines can be if all could. -/
theorem readable_step (c : Call) (readable : ∀ l ∈ s.lines, l.read?.isSome = true) :
    ∀ l ∈ (c.step s).lines, l.read?.isSome = true := by
  rw [step]
  rcases c.effect_cases s with idle | ⟨fresh, r, row, lines, -, placed, changed⟩ |
    ⟨tenantId, id, status, row, -, -, changed, -⟩ | ⟨tenantId, id, f, code, item, -, -, changed, -⟩
  · rw [idle]
    exact readable
  · rw [changed]
    obtain ⟨_, _, -, -, -, -, ordered⟩ := Orders.placement_eq_ok placed
    intro l member
    rcases List.mem_append.1 member with old | new
    · exact readable l old
    · exact ((Orders.lineRows_eq_ok ordered).1 l new).2
  · rw [changed]
    exact readable
  · rw [changed]
    exact readable

end Call

/-! ## Runs -/

/-- A cache without the entries whose keys are not kept. -/
def CacheStore.keep (keys : String → Bool) : CacheStore → CacheStore
  | memory cache => .memory ⟨cache.entries.filter fun e => keys e.1⟩
  | redis server => .redis { server with entries := server.entries.filter fun e => keys e.1 }

/-- The world some time later. A shared cache keeps its own time, so that entries may have gone. -/
def World.later (w : World) (elapsed : Nanos) (keys : String → Bool) : World :=
  { w with
    now := w.now + elapsed
    caches := w.caches.map fun c => (c.1, c.2.keep keys) }

/-- One call of a run: the server that is asked, the time that passes before and the keys whose
cache entries outlast it. -/
structure Turn where
  server : Instance
  call : Call
  elapsed : Nanos
  keys : String → Bool

/-- The turn is taken. -/
def Turn.take (t : Turn) (w : World) : Except ApiError Reply × World :=
  t.call.run t.server (w.later t.elapsed t.keys)

/-- A call and its answer. -/
abbrev Exchange := Call × Except ApiError Reply

/-- The exchanges of a run, and the world after it. -/
def World.play (w : World) : List Turn → List Exchange × World
  | [] => ([], w)
  | t :: rest =>
    let after := (t.take w).2.play rest
    ((t.call, (t.take w).1) :: after.1, after.2)

/-- The database serves, and its store is keyed. -/
structure World.Sound (w : World) : Prop where
  serving : w.database.Serving
  keyed : w.database.store.Keyed

namespace Turn

variable {w : World}

theorem take_database (t : Turn) (sound : w.Sound) :
    (t.take w).2.database =
      { w.database with store := t.call.step w.database.store } := by
  have later : (w.later t.elapsed t.keys).Sound := ⟨sound.serving, sound.keyed⟩
  rw [take, t.call.run_database t.server later.serving later.keyed]
  rfl

theorem take_store (t : Turn) (sound : w.Sound) :
    (t.take w).2.database.store = t.call.step w.database.store := by
  rw [t.take_database sound]

/-- A turn leaves a sound world sound. -/
theorem take_sound (t : Turn) (sound : w.Sound) : (t.take w).2.Sound := by
  constructor
  · rw [t.take_database sound]
    exact sound.serving.withStore _
  · rw [t.take_store sound]
    exact t.call.keyed_step sound.keyed

/-- Only the answers of menu reads depend on more than the store. -/
theorem take_answer (t : Turn) (sound : w.Sound)
    (uncached : ∀ code, t.call = .getMenu code → t.server.readThroughTtl = none) :
    (t.take w).1 = (t.call.effect w.database.store).1 := by
  have later : (w.later t.elapsed t.keys).Sound := ⟨sound.serving, sound.keyed⟩
  rw [take, (t.call.run_leaves t.server later.serving later.keyed uncached).answer]
  rfl

end Turn

namespace World

variable {w : World}

theorem play_cons (w : World) (t : Turn) (rest : List Turn) :
    w.play (t :: rest) = ((t.call, (t.take w).1) :: ((t.take w).2.play rest).1,
      ((t.take w).2.play rest).2) := rfl

/-- A run leaves a sound world sound. -/
theorem play_sound (sound : w.Sound) (turns : List Turn) : (w.play turns).2.Sound := by
  induction turns generalizing w with
  | nil => exact sound
  | cons t rest ih =>
    rw [play_cons]
    exact ih (t.take_sound sound)

end World

/-! ## A small world -/

namespace Sample

/-- A noon in May. -/
def noon : Instant := ⟨1714564800, 0, by decide, by decide⟩

def cafe : Tenant := ⟨.ofNat 1, "cafe", "Cafe", noon⟩

def bar : Tenant := ⟨.ofNat 2, "bar", "Bar", noon⟩

def table : TableRow := ⟨⟨.ofNat 3, cafe.id, "T1", "Window", true⟩, "window"⟩

def drinks : Category := ⟨.ofNat 4, cafe.id, "Drinks", 1, true⟩

def coffee : Item := ⟨.ofNat 5, cafe.id, drinks.id, "Coffee", none, 300, true⟩

def order : OrderRow := ⟨.ofNat 6, cafe.id, table.id, "guest", none, "waiting", "unpaid", noon⟩

/-- An order of the next day. -/
def later : OrderRow :=
  { order with id := .ofNat 30, createdAt := ⟨1714651200, 0, by decide, by decide⟩ }

def line : LineRow := ⟨⟨.ofNat 7, order.id, coffee.id, "Coffee", 2, 300, none⟩, 0⟩

/-- Options that do not come back: when their text is read, the first field is taken to carry a
value, and then no other may follow. -/
def unreadable : Json := .obj [(Json.embeddingKey, .str "1"), ("size", .int 1)]

/-- A line that cannot be read. -/
def lostLine : LineRow := { line with options := some unreadable }

/-- A cafe where two coffees were ordered, and its neighbours. -/
def store (neighbours : List Tenant) : Store :=
  ⟨cafe :: neighbours, [table], [drinks], [coffee], [order], [line]⟩

def world (neighbours : List Tenant) : World :=
  ⟨⟨store neighbours, Entity.all, true, true, true, none⟩, [], 0, []⟩

/-- An instance that keeps menus for a minute. -/
def server : Instance := ⟨0, some "menus", 60000000000, none, fun _ => none⟩

def admin : AdminUser := ⟨.ofNat 8, cafe.id, "admin"⟩

/-- Another coffee is ordered. -/
def refill : Call :=
  .placeOrder ⟨.ofNat 20, fun _ => .ofNat 21, noon⟩
    ⟨"cafe", "window", "guest", none, [⟨coffee.id, 1, none⟩]⟩

/-- The coffee gets dearer. -/
def raise : Call := .patchItem admin coffee.id ⟨none, .keep, some 400, none, none⟩

/-- The order is done. -/
def finish : Call := .setStatus cafe.id order.id .done

/-- The menu is read before and after the coffee gets dearer, and the order is done. -/
def day : List Turn :=
  [.getMenu " cafe", raise, .getMenu "cafe", finish].map fun c => ⟨server, c, 1, fun _ => true⟩

theorem sound {neighbours : List Tenant} (keyed : (store neighbours).Keyed) :
    (world neighbours).Sound :=
  ⟨⟨rfl, Entity.mem_all⟩, keyed⟩

end Sample

end Tableside
