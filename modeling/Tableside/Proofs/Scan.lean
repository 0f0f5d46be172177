import Tableside.Proofs.Consistency
import Tableside.Proofs.Isolation

/-!
# From a scanned table to an order

A guest scans the token of a table, reads the menu of its tenant and orders from it. Each of these
steps looks for its rows anew: the table by its token, the tenant by the table and later by its
code, the items among those of the tenant. That they find the same rows is what is shown here: the
items that can be ordered are those of the menu (`Store.activeItemOf?_isSome_iff`), and the lines of
an order are made of the items that are found, one by one (`Orders.lineRows_eq_picks`), so that an
order is placed just when it asks for items of the menu, with options that can be stored
(`Orders.lineRows_isOk_iff`).

Options are to be kept as they are given. They are stored as a text, though, from which some do not
come back, and then the order is refused although its items are on the menu.
-/

namespace Tableside

/-- Whether the options of a line come back from the text they are stored as. -/
def LineRequest.storable (line : LineRequest) : Bool :=
  line.options.all fun j => j.restored.toOption.isSome

theorem Fresh.isSome_read?_lineRow (fresh : Fresh) (position : Nat) (item : Item)
    (line : LineRequest) : (fresh.lineRow position item line).read?.isSome = line.storable := by
  rw [LineRow.read?, LineRequest.storable]
  simp only [Fresh.lineRow]
  cases line.options with
  | none => rfl
  | some j => simp

/-! ## The menu and the items that are offered -/

theorem Catalog.mem_activeItems {s : Store} {tenantId : Uuid} {item : Item} :
    item ∈ activeItems s tenantId ↔
      item ∈ s.items ∧ item.tenantId = tenantId ∧ item.isActive = true := by
  rw [activeItems, List.mem_mergeSort, List.mem_filter, Bool.and_eq_true, beq_iff_eq]

namespace Store

variable {s : Store} {tenantId id : Uuid}

/-- An item that can be ordered is shown on the menu. -/
theorem mem_activeItems_of_activeItemOf? {item : Item}
    (offered : s.activeItemOf? tenantId id = some item) :
    item ∈ Catalog.activeItems s tenantId ∧ item.id = id := by
  have holds := List.find?_some offered
  simp only [Bool.and_eq_true, beq_iff_eq] at holds
  obtain ⟨⟨named, own⟩, active⟩ := holds
  exact ⟨Catalog.mem_activeItems.2 ⟨List.mem_of_find?_eq_some offered, own, active⟩, named⟩

/-- The items that can be ordered are those of the menu. -/
theorem activeItemOf?_isSome_iff :
    (s.activeItemOf? tenantId id).isSome = true ↔
      ∃ item ∈ Catalog.activeItems s tenantId, item.id = id := by
  constructor
  · intro offered
    obtain ⟨item, found⟩ := Option.isSome_iff_exists.1 offered
    obtain ⟨shown, named⟩ := mem_activeItems_of_activeItemOf? found
    exact ⟨item, shown, named⟩
  · rintro ⟨item, shown, named⟩
    obtain ⟨member, own, active⟩ := Catalog.mem_activeItems.1 shown
    exact List.find?_isSome.2 ⟨item, member, by simp [named, own, active]⟩

end Store

/-! ## The table and its tenant -/

namespace Catalog

variable {s : Store} {token : String} {found : TableResolution}

theorem resolution_eq_ok (resolved : resolution s token = .ok found) :
    token ≠ "" ∧ ∃ table, s.tableByToken? token = some table ∧
      s.tenant? table.tenantId = some found.tenant ∧ found.table = table.toTable := by
  rw [resolution] at resolved
  split at resolved
  · cases resolved
  rename_i filled
  cases scanned : s.tableByToken? token with
  | none =>
    rw [scanned] at resolved
    cases resolved
  | some table =>
    simp only [scanned] at resolved
    cases named : s.tenant? table.tenantId with
    | none =>
      rw [named] at resolved
      cases resolved
    | some tenant =>
      rw [named] at resolved
      cases resolved
      refine ⟨?_, table, rfl, named, rfl⟩
      rintro rfl
      exact filled rfl

/-- Where codes and tokens name one row each, the table of a token is found again among those of its
tenant, and the tenant by its code. -/
theorem lookups_of_resolution (codes : (s.tenants.map (·.code)).Nodup)
    (tokens : (s.tables.map (·.token)).Nodup) (resolved : resolution s token = .ok found) :
    s.tenantByCode? found.tenant.code = some found.tenant ∧
      ∃ table, s.tableOf? found.tenant.id token = some table ∧ found.table = table.toTable := by
  obtain ⟨-, table, scanned, named, shown⟩ := resolution_eq_ok resolved
  obtain ⟨member, same⟩ := Store.tenant?_eq_some named
  refine ⟨Store.tenantByCode?_of_mem codes member, table, ?_, shown⟩
  have holds := List.find?_some scanned
  simp only [Bool.and_eq_true, beq_iff_eq] at holds
  obtain ⟨spelled, active⟩ := holds
  refine find?_eq_some_of_keyed TableRow.token tokens (List.mem_of_find?_eq_some scanned)
    (by simp [spelled, active, same]) fun other _ alike => ?_
  simp only [Bool.and_eq_true, beq_iff_eq] at alike
  exact alike.1.1.trans spelled.symm

end Catalog

/-! ## The order -/

/-- Lines that were asked for, each with the name and the price that a menu shows for its item. -/
def Menu.Prices (m : Menu) : List LineRequest → List LineRow → Prop :=
  List.Forall₂ fun line l => l.itemId = line.itemId ∧ l.qty = line.qty ∧
    ∃ item ∈ m.items, item.id = line.itemId ∧ l.name = item.name ∧ l.unitPrice = item.price

/-- The lines of an order from a position on, for lines of the request with their items. -/
def Fresh.lineRows (fresh : Fresh) (position : Nat) (picks : List (LineRequest × Item)) :
    List LineRow :=
  (picks.zipIdx position).map fun pick => fresh.lineRow pick.2 pick.1.2 pick.1.1

namespace Orders

variable {fresh : Fresh} {r : OrderRequest} {s : Store}

/-- The item of a line that can be written. -/
def pick (offered : Uuid → Option Item) (line : LineRequest) :
    Except ApiError (LineRequest × Item) :=
  match offered line.itemId with
  | none => .error (.notFound ("item " ++ line.itemId.text))
  | some item => if line.storable then .ok (line, item) else .error .database

theorem pick_isOk_iff {offered : Uuid → Option Item} {line : LineRequest} :
    (∃ y, pick offered line = .ok y) ↔
      (offered line.itemId).isSome = true ∧ line.storable = true := by
  rw [pick]
  cases offered line.itemId with
  | none => simp
  | some item => cases line.storable <;> simp

/-- Lines with new ids are those of the items that are found. -/
theorem lineRows_eq_picks {offered : Uuid → Option Item} {position : Nat}
    {requests : List LineRequest} {taken : List Uuid}
    (unused : ∀ n ∈ List.range' position requests.length, fresh.lineId n ∉ taken)
    (distinct : ((List.range' position requests.length).map fresh.lineId).Nodup) :
    lineRows fresh offered position requests taken =
      (requests.mapM (pick offered)).map (fresh.lineRows position) := by
  induction requests generalizing position taken with
  | nil => rfl
  | cons line rest ih =>
    rw [List.length_cons, List.range'_succ] at unused distinct
    rw [lineRows, List.mapM_cons, pick]
    cases offered line.itemId with
    | none => rfl
    | some item =>
      have absent : (fresh.lineRow position item line).id ∉ taken :=
        unused position List.mem_cons_self
      dsimp only
      rw [if_neg absent, fresh.isSome_read?_lineRow]
      cases line.storable with
      | false => rfl
      | true =>
        obtain ⟨other, distinct⟩ := List.nodup_cons.1 distinct
        -- The id that was just taken is none of those that follow.
        have unused' : ∀ n ∈ List.range' (position + 1) rest.length,
            fresh.lineId n ∉ taken ++ [(fresh.lineRow position item line).id] := by
          intro n member there
          rcases List.mem_append.1 there with old | new
          · exact unused n (List.mem_cons_of_mem _ member) old
          · have same : fresh.lineId n = fresh.lineId position := List.mem_singleton.1 new
            exact other (same ▸ List.mem_map_of_mem member)
        rw [if_pos rfl, ih unused' distinct]
        cases rest.mapM (pick offered) <;> rfl

/-- Lines with new ids are written just when each asks for an item that is offered, with options
that can be stored. -/
theorem lineRows_isOk_iff {offered : Uuid → Option Item} {position : Nat}
    {requests : List LineRequest} {taken : List Uuid}
    (unused : ∀ n ∈ List.range' position requests.length, fresh.lineId n ∉ taken)
    (distinct : ((List.range' position requests.length).map fresh.lineId).Nodup) :
    (∃ lines, lineRows fresh offered position requests taken = .ok lines) ↔
      ∀ line ∈ requests, (offered line.itemId).isSome = true ∧ line.storable = true := by
  rw [lineRows_eq_picks unused distinct, exists_map_eq_ok, mapM_isOk_iff]
  exact forall₂_congr fun line _ => pick_isOk_iff

/-- An order with new ids, of a tenant and a table that are found, is placed just when it asks for
items of the menu with options that can be stored. -/
theorem placement_isOk_iff {tenant : Tenant} {table : TableRow}
    (named : s.tenantByCode? r.tenant = some tenant)
    (scanned : s.tableOf? tenant.id r.tableToken = some table) (unused : fresh.UnusedIn s)
    (distinct : ((List.range r.items.length).map fresh.lineId).Nodup) (filled : r.items ≠ []) :
    (∃ added, placement fresh r s = .ok added) ↔
      ∀ line ∈ r.items, (∃ item ∈ Catalog.activeItems s tenant.id, item.id = line.itemId) ∧
        line.storable = true := by
  have absent : ¬s.has (.order, fresh.orderId) = true :=
    fun there => unused.order (Store.has_iff.1 there)
  rw [List.range_eq_range'] at distinct
  have written : (∃ lines, lineRows fresh (s.activeItemOf? tenant.id) 0 r.items (s.ids .line) =
      .ok lines) ↔ _ := lineRows_isOk_iff (fun n _ => unused.line n) distinct
  simp only [Store.activeItemOf?_isSome_iff] at written
  rw [placement, if_neg (by simpa using filled), named]
  dsimp only
  rw [scanned]
  dsimp only
  rw [if_neg absent, exists_map_eq_ok, written]

/-- An order that is placed is one of the tenant and the table that are found, priced as on the menu
of the tenant. -/
theorem priced_of_placement {tenant : Tenant} {table : TableRow} {row : OrderRow}
    {lines : List LineRow} {m : Menu} (named : s.tenantByCode? r.tenant = some tenant)
    (scanned : s.tableOf? tenant.id r.tableToken = some table)
    (shown : m.items = Catalog.activeItems s tenant.id)
    (placed : placement fresh r s = .ok (row, lines)) :
    row.id = fresh.orderId ∧ row.tenantId = tenant.id ∧ row.tableId = table.id ∧
      (∀ l ∈ lines, l.orderId = row.id) ∧ m.Prices r.items lines := by
  obtain ⟨_, _, named', scanned', rfl, -, ordered⟩ := placement_eq_ok placed
  obtain rfl := Option.some.inj (named.symm.trans named')
  obtain rfl := Option.some.inj (scanned.symm.trans scanned')
  refine ⟨rfl, rfl, rfl, fun l member => ((lineRows_eq_ok ordered).1 l member).1, ?_⟩
  rw [Menu.Prices, ← List.zipIdx_map_fst 0 r.items, List.forall₂_map_left_iff]
  refine (lineRows_pairs ordered).imp ?_
  rintro ⟨line, position⟩ l ⟨item, offered, rfl⟩
  obtain ⟨member, named⟩ := Store.mem_activeItems_of_activeItemOf? offered
  exact ⟨named, rfl, item, shown ▸ member, named, rfl, rfl⟩

end Orders

/-! ## The three paths -/

/-- What becomes of a guest's order that passes the check. -/
theorem Instance.placeOrder_apply {w : World} (serving : w.database.Serving) (i : Instance)
    (fresh : Fresh) {r : OrderRequest} (checked : r.normalize.check = .ok ()) :
    i.placeOrder fresh r w = match Orders.placement fresh r.normalize w.database.store with
      | .ok (row, lines) => (.ok (.plain "Order created" ⟨fresh.orderId, .waiting⟩),
          { w with database :=
            { w.database with store := w.database.store.withOrder row lines } })
      | .error e => (.error (Orders.hideMiss e), w) := by
  rw [Instance.placeOrder, Service.db_wrapped, Orders.place_apply serving, checked]
  dsimp only
  cases Orders.placement fresh r.normalize w.database.store <;> rfl

/-- The menu of the tenant of a scanned table is there, and an order from that table is placed just
when it asks for items of that menu with options that can be stored. It is then an order of that
tenant and that table, priced as on the menu. -/
theorem guest_paths_agree {w : World} (serving : w.database.Serving)
    (codes : (w.database.store.tenants.map (·.code)).Nodup)
    (tokens : (w.database.store.tables.map (·.token)).Nodup) {i : Instance}
    (uncached : i.readThroughTtl = none) {token : String} {answer : Envelope TableResolution}
    (scanned : (i.resolveTable token w).1 = .ok answer)
    (solid : answer.data.tenant.code ≠ "" ∧
      Text.trim answer.data.tenant.code = answer.data.tenant.code) :
    ∃ m, (i.getMenu answer.data.tenant.code w).1 = .ok m ∧
      ∀ (fresh : Fresh) (session : String) (note : Option String) (items : List LineRequest),
        fresh.UnusedIn w.database.store → ((List.range items.length).map fresh.lineId).Nodup →
        Text.trim session ≠ "" → items ≠ [] → (∀ line ∈ items, 0 < line.qty.toInt) →
        let placed :=
          i.placeOrder fresh ⟨answer.data.tenant.code, token, session, note, items⟩ w
        ((∃ receipt, placed.1 = .ok receipt) ↔
          ∀ line ∈ items, (∃ item ∈ m.items, item.id = line.itemId) ∧ line.storable = true) ∧
        ∀ receipt, placed.1 = .ok receipt → ∃ row lines,
          placed.2.database.store = w.database.store.withOrder row lines ∧
          row.id = receipt.data.orderId ∧ row.tenantId = answer.data.tenant.id ∧
          row.tableId = answer.data.table.id ∧ (∀ l ∈ lines, l.orderId = row.id) ∧
          m.Prices items lines := by
  have resolved : Catalog.resolution w.database.store (Text.trim token) = .ok answer.data := by
    rw [Instance.resolveTable, Service.db_wrapped, Catalog.resolveTable_apply serving] at scanned
    cases found : Catalog.resolution w.database.store (Text.trim token) with
    | error e =>
      rw [found] at scanned
      cases scanned
    | ok found =>
      simp only [found] at scanned
      cases scanned
      rfl
  generalize answer.data = found at resolved solid
  obtain ⟨tenant, shown⟩ := found
  obtain ⟨code, trimmed⟩ := solid
  dsimp only at code trimmed ⊢
  obtain ⟨spelled, -⟩ := Catalog.resolution_eq_ok resolved
  obtain ⟨named, table, tabled, rfl⟩ := Catalog.lookups_of_resolution codes tokens resolved
  dsimp only at named tabled
  let m : Menu := ⟨tenant.code, Catalog.activeCategories w.database.store tenant.id,
    Catalog.activeItems w.database.store tenant.id⟩
  have shown : m.items = Catalog.activeItems w.database.store tenant.id := rfl
  refine ⟨m, ?_, ?_⟩
  · rw [i.getMenu_uncached uncached serving, Catalog.menuAnswer, trimmed,
      if_neg (by simpa using code), Catalog.menuIn, named]
  intro fresh session note items unused distinct sessioned filled positive
  let r : OrderRequest := ⟨tenant.code, token, session, note, items⟩
  have tenantOf : r.normalize.tenant = tenant.code := trimmed
  have checked : r.normalize.check = .ok () :=
    OrderRequest.Complete.check_eq_ok ⟨tenantOf ▸ code, spelled, sessioned, filled, positive⟩
  rw [← tenantOf] at named
  have placeable := Orders.placement_isOk_iff (r := r.normalize) named tabled unused distinct filled
  rw [i.placeOrder_apply serving fresh checked]
  cases placed : Orders.placement fresh r.normalize w.database.store with
  | error e =>
    rw [placed] at placeable
    refine ⟨iff_of_false ?_ fun all => ?_, fun receipt answered => ?_⟩
    · rintro ⟨receipt, ⟨⟩⟩
    · obtain ⟨_, ⟨⟩⟩ := placeable.2 all
    · cases answered
  | ok added =>
    obtain ⟨row, lines⟩ := added
    obtain ⟨own, ofTenant, atTable, belong, priced⟩ :=
      Orders.priced_of_placement named tabled shown placed
    refine ⟨⟨fun _ => placeable.1 ⟨_, placed⟩, fun _ => ⟨_, rfl⟩⟩, fun receipt answered => ?_⟩
    cases answered
    exact ⟨row, lines, rfl, own, ofTenant, atTable, belong, priced⟩

namespace Sample

/-- An instance without a cache. -/
def bare : Instance := ⟨0, none, 0, none, fun _ => none⟩

/-- The made-up ids of an order with up to two lines. -/
def fresh : Fresh := ⟨.ofNat 20, fun n => if n = 0 then .ofNat 21 else .ofNat 22, noon⟩

/-- Coffee is ordered twice over. -/
def twice : List LineRequest :=
  [⟨coffee.id, 2, some (.obj [("milk", .bool true)])⟩, ⟨coffee.id, 1, none⟩]

/-- A coffee with options that do not come back. -/
def oddOrder : OrderRequest :=
  ⟨"cafe", "window", "guest", none, [⟨coffee.id, 1, some unreadable⟩]⟩

end Sample

theorem guest_paths_agree_cafe :
    ∃ m, (Sample.bare.getMenu Sample.cafe.code (Sample.world [Sample.bar])).1 = .ok m ∧
      let placed := Sample.bare.placeOrder Sample.fresh
        ⟨Sample.cafe.code, " window ", "guest", some " ", Sample.twice⟩
        (Sample.world [Sample.bar])
      ((∃ receipt, placed.1 = .ok receipt) ↔
        ∀ line ∈ Sample.twice, (∃ item ∈ m.items, item.id = line.itemId) ∧
          line.storable = true) ∧
      ∀ receipt, placed.1 = .ok receipt → ∃ row lines,
        placed.2.database.store =
          (Sample.world [Sample.bar]).database.store.withOrder row lines ∧
        row.id = receipt.data.orderId ∧ row.tenantId = Sample.cafe.id ∧
        row.tableId = Sample.table.id ∧ (∀ l ∈ lines, l.orderId = row.id) ∧
        m.Prices Sample.twice lines := by
  have sound : (Sample.world [Sample.bar]).Sound := Sample.sound (by decide)
  have scanned : (Sample.bare.resolveTable " window " (Sample.world [Sample.bar])).1 =
      .ok (.plain "Table" ⟨Sample.cafe, Sample.table.toTable⟩) := by rfl
  obtain ⟨m, menu, orders⟩ := guest_paths_agree sound.serving sound.keyed.codes sound.keyed.tokens
    (i := Sample.bare) rfl scanned (by decide)
  have unused : Sample.fresh.UnusedIn (Sample.store [Sample.bar]) := by
    refine ⟨by decide, by decide, fun position => ?_⟩
    simp only [Sample.fresh]
    split
    · decide
    · decide
  dsimp only [Envelope.plain] at menu orders
  exact ⟨m, menu, orders Sample.fresh "guest" (some " ") Sample.twice unused (by decide)
    (by decide) (by decide) (by decide)⟩

/-- The item of the order is on the menu, and yet the order is refused. -/
theorem stored_options_matter :
    (Sample.bare.resolveTable "window" (Sample.world [])).1 =
        .ok (.plain "Table" ⟨Sample.cafe, Sample.table.toTable⟩) ∧
      (Sample.bare.getMenu "cafe" (Sample.world [])).1 =
        .ok ⟨"cafe", [Sample.drinks], [Sample.coffee]⟩ ∧
      (∀ line ∈ Sample.oddOrder.items, 0 < line.qty.toInt) ∧
      ¬((∃ receipt,
          (Sample.bare.placeOrder Sample.fresh Sample.oddOrder (Sample.world [])).1 = .ok receipt) ↔
        ∀ line ∈ Sample.oddOrder.items, ∃ item ∈ [Sample.coffee], item.id = line.itemId) := by
  have refused : (Sample.bare.placeOrder Sample.fresh Sample.oddOrder (Sample.world [])).1 =
      .error .database := by rfl
  have shown : ∀ line ∈ Sample.oddOrder.items,
      ∃ item ∈ [Sample.coffee], item.id = line.itemId := by decide
  refine ⟨?_, ?_, by decide, fun agree => ?_⟩
  · rfl
  · decide +kernel
  · obtain ⟨receipt, answered⟩ := agree.2 shown
    rw [refused] at answered
    cases answered

end Tableside
