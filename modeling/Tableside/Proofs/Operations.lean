import Tableside.Catalog.Edit
import Tableside.Catalog.Source
import Tableside.Orders.Listing
import Tableside.Orders.Placement
import Tableside.Proofs.Statements
import Tableside.Proofs.Store

/-!
# Operations as functions of the store

On a database that serves, each operation of the service comes to a function of the store: what it
answers, and the store that it leaves. One equation says so for each (`Orders.list_apply`,
`Orders.get_apply`, `Orders.setStatus_apply`, `Orders.create_apply`, `Catalog.loadMenu_apply`,
`Catalog.patchItem_apply`, `Catalog.setAvailability_apply`), and nothing later opens the operations
again. An order that is placed adds a row and lines that are determined before anything is written
(`Orders.placement_eq_ok`, `Orders.lineRows_eq_ok`).
-/

namespace Tableside

namespace Orders

variable {d : Database} {s s' : Store}

/-! ## Reading orders -/

/-- The lines of a set of orders as they are read; they are not when one of them cannot be. -/
def linesRead (s : Store) (ids : List Uuid) : Except ApiError (List OrderLine) :=
  match (linesOf s ids).mapM LineRow.read? with
  | some lines => .ok lines
  | none => .error .database

/-- The orders of a set of rows. -/
def shown (s : Store) (rows : List OrderRow) : Except ApiError (List Order) :=
  (linesRead s (rows.map (·.id))).map fun lines => rows.map fun row => withLines row lines

/-- The order of one row. -/
def shownOne (s : Store) (row : OrderRow) : Except ApiError Order :=
  (linesRead s [row.id]).map (withLines row)

/-- A page of a listing. -/
def page (s : Store) (tenantId : Uuid) (status : Option OrderStatus) (token : Option String)
    (asked : Option Int) : Except ApiError OrdersPage :=
  let limit := pageLimit asked
  let rows := newest s ⟨tenantId, status, cursorOf? token⟩ (limit + 1)
  (shown s (rows.take limit)).map fun data => { data, nextCursor := nextToken? rows limit, limit }

theorem mem_linesOf {ids : List Uuid} {l : LineRow} :
    l ∈ linesOf s ids ↔ l ∈ s.lines ∧ l.orderId ∈ ids := by
  rw [linesOf, List.mem_mergeSort, List.mem_filter, List.contains_iff_mem]

/-- Lines are read when each of them can be; one that cannot fails as the database does. -/
theorem linesRead_cases (s : Store) (ids : List Uuid) :
    ((∀ l ∈ s.lines, l.orderId ∈ ids → l.read?.isSome = true) ∧
      ∃ lines, linesRead s ids = .ok lines) ∨
    ((∃ l ∈ s.lines, l.orderId ∈ ids ∧ l.read? = none) ∧
      linesRead s ids = .error .database) := by
  have readable : (∃ lines, (linesOf s ids).mapM LineRow.read? = some lines) ↔
      ∀ l ∈ s.lines, l.orderId ∈ ids → l.read?.isSome = true := by
    simp only [mapM_isSome_iff, mem_linesOf, and_imp]
  rw [← readable, linesRead]
  cases read : (linesOf s ids).mapM LineRow.read? with
  | some lines => exact .inl ⟨⟨lines, rfl⟩, lines, rfl⟩
  | none =>
    refine .inr ⟨?_, rfl⟩
    rw [read] at readable
    by_contra all
    push Not at all
    obtain ⟨lines, same⟩ := readable.2 fun l member own =>
      Option.isSome_iff_ne_none.2 (all l member own)
    cases same

/-- Lines that can all be read are read. -/
theorem linesRead_of_readable (ids : List Uuid)
    (readable : ∀ l ∈ s.lines, l.orderId ∈ ids → l.read?.isSome = true) :
    ∃ lines, linesRead s ids = .ok lines := by
  rcases linesRead_cases s ids with ⟨-, read⟩ | ⟨⟨l, member, own, lost⟩, -⟩
  · exact read
  · have there := readable l member own
    rw [lost] at there
    cases there

theorem linesOf_nil (s : Store) : linesOf s [] = [] := by
  simp [linesOf]

theorem shown_nil (s : Store) : shown s [] = .ok [] := by
  rw [shown, linesRead, List.map_nil, linesOf_nil]
  rfl

theorem readLines_apply (serving : d.Serving) (ids : List Uuid) :
    readLines ids d = (linesRead d.store ids, d) := by
  rw [readLines, serving.find, linesRead]
  cases (linesOf d.store ids).mapM LineRow.read? <;> rfl

theorem attachLines_apply (serving : d.Serving) (rows : List OrderRow) :
    attachLines rows d = (shown d.store rows, d) := by
  cases rows with
  | nil =>
    rw [shown_nil]
    rfl
  | cons row rows =>
    rw [attachLines, if_neg (by simp), Db.bind_apply, readLines_apply serving, shown]
    cases linesRead d.store ((row :: rows).map (·.id)) <;> rfl

theorem attachTo_apply (serving : d.Serving) (row : OrderRow) :
    attachTo row d = (shownOne d.store row, d) := by
  rw [attachTo, Db.bind_apply, readLines_apply serving, shownOne]
  cases linesRead d.store [row.id] <;> rfl

theorem list_apply (serving : d.Serving) (tenantId : Uuid) (status : Option OrderStatus)
    (token : Option String) (asked : Option Int) :
    list tenantId status token asked d = (page d.store tenantId status token asked, d) := by
  rw [list, Db.bind_of_ok _ (serving.select ..), Db.bind_apply, attachLines_apply serving, page]
  cases shown d.store ((newest d.store ⟨tenantId, status, cursorOf? token⟩
    (pageLimit asked + 1)).take (pageLimit asked)) <;> rfl

theorem get_apply (serving : d.Serving) (tenantId id : Uuid) :
    get tenantId id d = ((match d.store.orderOf? tenantId id with
      | some row => shownOne d.store row
      | none => .error (missing id)), d) := by
  rw [get, Db.bind_apply, serving.find]
  cases d.store.orderOf? tenantId id with
  | none => rfl
  | some row => exact attachTo_apply serving row

/-! ## Setting the state of an order -/

/-- The state of an order that is there is set before its lines are read; that they cannot be read
does not take the change back. -/
theorem setStatus_apply (serving : d.Serving) (keyed : d.store.Keyed) (tenantId id : Uuid)
    (status : OrderStatus) :
    setStatus tenantId id status d = match d.store.orderOf? tenantId id with
      | some row => (shownOne d.store { row with status := status.name },
        { d with store := d.store.updateStatus id status })
      | none => (.error (missing id), d) := by
  cases found : d.store.orderOf? tenantId id with
  | none => rw [setStatus, Db.bind_of_error _ (serving.find_none found _)]
  | some row =>
    obtain ⟨member, rfl, rfl⟩ := Store.orderOf?_eq_some found
    have serving' := serving.withStore (d.store.updateStatus row.id status)
    have written := serving.writeOnly .order fun _ s => .ok (s.updateStatus row.id status)
    rw [setStatus, Db.bind_of_ok _ (serving.find_some found _), Statement.updateStatus,
      Db.bind_of_ok _ written,
      Db.bind_of_ok _ (serving'.find_some (keyed.order?_updateStatus member status) _)]
    exact attachTo_apply serving' _

/-! ## Placing an order -/

/-- The lines of an order from a position on; `offered` gives the items that can be ordered, and
`taken` are the ids that lines have. -/
def lineRows (fresh : Fresh) (offered : Uuid → Option Item) :
    (position : Nat) → List LineRequest → (taken : List Uuid) → Except ApiError (List LineRow)
  | _, [], _ => .ok []
  | position, line :: rest, taken =>
    match offered line.itemId with
    | none => .error (.notFound ("item " ++ line.itemId.text))
    | some item =>
      let row := fresh.lineRow position item line
      if row.id ∈ taken then .error .database
      else if row.read?.isSome then
        (lineRows fresh offered (position + 1) rest (taken ++ [row.id])).map (row :: ·)
      else .error .database

/-- The row and the lines of an order. No reference of theirs can be refused. -/
def placement (fresh : Fresh) (r : OrderRequest) (s : Store) :
    Except ApiError (OrderRow × List LineRow) :=
  if r.items.isEmpty then .error OrderRequest.noItems
  else
    match s.tenantByCode? r.tenant with
    | none => .error (.notFound ("tenant " ++ r.tenant))
    | some tenant =>
      match s.tableOf? tenant.id r.tableToken with
      | none => .error (.notFound "table")
      | some table =>
        if s.has (.order, fresh.orderId) then .error .database
        else (lineRows fresh (s.activeItemOf? tenant.id) 0 r.items (s.ids .line)).map
          (fresh.orderRow tenant table r, ·)

theorem line?_concat {l : LineRow} (absent : l.id ∉ s.ids .line) :
    ({ s with lines := s.lines ++ [l] } : Store).line? l.id = some l := by
  have none : s.lines.find? (fun m => m.id == l.id) = none := by
    rw [List.find?_eq_none]
    intro m member same
    exact absent (List.mem_map.2 ⟨m, member, beq_iff_eq.1 same⟩)
  simp [Store.line?, List.find?_append, none]

theorem order?_concat {o : OrderRow} (absent : o.id ∉ s.ids .order) :
    ({ s with orders := s.orders ++ [o] } : Store).order? o.id = some o := by
  have none : s.orders.find? (fun m => m.id == o.id) = none := by
    rw [List.find?_eq_none]
    intro m member same
    exact absent (List.mem_map.2 ⟨m, member, beq_iff_eq.1 same⟩)
  simp [Store.order?, List.find?_append, none]

/-- A line is written and then read as it was stored. -/
theorem insertLine_apply (serving : d.Serving) (row : LineRow)
    (order : d.store.has (.order, row.orderId) = true)
    (item : d.store.has (.item, row.itemId) = true) :
    insertAndRead (.insertLine row) .line (fun s => (s.line? row.id).bind LineRow.read?) d =
      if d.store.has (.line, row.id) then (.error .database, d)
      else ((match row.read? with | some l => .ok l | none => .error .database),
        { d with store := { d.store with lines := d.store.lines ++ [row] } }) := by
  have write := serving.writeOnly .line fun foreignKeys s => s.insertLine foreignKeys row
  rw [Store.insertLine_of_met order item] at write
  rw [insertAndRead, Statement.insertLine]
  by_cases taken : d.store.has (.line, row.id) = true
  · rw [if_pos taken] at write ⊢
    rw [Db.bind_of_error _ write]
  · rw [if_neg taken] at write ⊢
    have absent : row.id ∉ d.store.ids .line := fun there => taken (Store.has_iff.2 there)
    rw [Db.bind_of_ok _ write, (serving.withStore _).find]
    simp only [line?_concat absent, Option.bind_some]
    cases row.read? <;> rfl

/-- An order is written and then read. -/
theorem insertOrder_apply (serving : d.Serving) (row : OrderRow)
    (tenant : d.store.has (.tenant, row.tenantId) = true)
    (table : d.store.has (.table, row.tableId) = true) :
    insertAndRead (.insertOrder row) .order (fun s => s.order? row.id) d =
      if d.store.has (.order, row.id) then (.error .database, d)
      else (.ok row, { d with store := { d.store with orders := d.store.orders ++ [row] } }) := by
  have write := serving.writeOnly .order fun foreignKeys s => s.insertOrder foreignKeys row
  rw [Store.insertOrder_of_met tenant table] at write
  rw [insertAndRead, Statement.insertOrder]
  by_cases taken : d.store.has (.order, row.id) = true
  · rw [if_pos taken] at write ⊢
    rw [Db.bind_of_error _ write]
  · rw [if_neg taken] at write ⊢
    have absent : row.id ∉ d.store.ids .order := fun there => taken (Store.has_iff.2 there)
    rw [Db.bind_of_ok _ write, (serving.withStore _).find_some (order?_concat absent)]

/-- The lines are written in turn; after a failure the store holds some of them. -/
theorem placeLines_apply (serving : d.Serving) (fresh : Fresh) (tenant : Tenant)
    (order : d.store.has (.order, fresh.orderId) = true) (position : Nat)
    (lines : List LineRequest) :
    ∃ left : Store, placeLines fresh tenant position lines d =
      match lineRows fresh (d.store.activeItemOf? tenant.id) position lines (d.store.ids .line) with
      | .ok rows => (.ok (), { d with store := { d.store with lines := d.store.lines ++ rows } })
      | .error e => (.error e, { d with store := left }) := by
  induction lines generalizing d position with
  | nil => exact ⟨d.store, by simp [placeLines, lineRows]⟩
  | cons line rest ih =>
    rw [placeLines, lineRows, Db.bind_apply, serving.find]
    cases found : d.store.activeItemOf? tenant.id line.itemId with
    | none => exact ⟨d.store, rfl⟩
    | some item =>
      dsimp only
      obtain ⟨member, -, -⟩ := Store.activeItemOf?_eq_some found
      have write := insertLine_apply serving (fresh.lineRow position item line) order
        (Store.has_iff.2 (List.mem_map_of_mem member))
      rw [Db.bind_apply, write]
      by_cases taken : (fresh.lineRow position item line).id ∈ d.store.ids .line
      · rw [if_pos (Store.has_iff.2 taken), if_pos taken]
        exact ⟨d.store, rfl⟩
      rw [if_neg fun there => taken (Store.has_iff.1 there), if_neg taken]
      cases readable : (fresh.lineRow position item line).read? with
      | none => exact ⟨_, rfl⟩
      | some shown =>
        let row := fresh.lineRow position item line
        let s : Store := { d.store with lines := d.store.lines ++ [row] }
        have ids : s.ids .line = d.store.ids .line ++ [row.id] := List.map_append
        have offered : s.activeItemOf? tenant.id = d.store.activeItemOf? tenant.id := rfl
        obtain ⟨left, after⟩ := ih (serving.withStore s) order (position + 1)
        rw [ids, offered] at after
        refine ⟨left, after.trans ?_⟩
        change _ = match (lineRows fresh (d.store.activeItemOf? tenant.id) (position + 1) rest
          (d.store.ids .line ++ [row.id])).map (row :: ·) with
            | .ok rows => _
            | .error e => _
        cases lineRows fresh (d.store.activeItemOf? tenant.id) (position + 1) rest
          (d.store.ids .line ++ [row.id]) with
        | error e => rfl
        | ok rows => simp [s, Except.map]

/-- Placing an order leaves the store with it, or as it was. -/
theorem create_apply (serving : d.Serving) (fresh : Fresh) (r : OrderRequest) :
    create fresh r d = match placement fresh r d.store with
      | .ok (row, lines) =>
        (.ok ⟨fresh.orderId, .waiting⟩, { d with store := d.store.withOrder row lines })
      | .error e => (.error e, d) := by
  rw [create, placement]
  by_cases empty : r.items.isEmpty
  · rw [if_pos empty, if_pos empty]
    rfl
  rw [if_neg empty, if_neg empty]
  dsimp only
  rw [Db.bind_apply, serving.find]
  cases named : d.store.tenantByCode? r.tenant with
  | none => rfl
  | some tenant =>
    dsimp only
    rw [Db.bind_apply, serving.find]
    cases scanned : d.store.tableOf? tenant.id r.tableToken with
    | none => rfl
    | some table =>
      dsimp only
      have order := insertOrder_apply serving (fresh.orderRow tenant table r)
        (Store.has_iff.2 (List.mem_map_of_mem (Store.tenantByCode?_eq_some named).1))
        (Store.has_iff.2 (List.mem_map_of_mem (Store.tableOf?_eq_some scanned).1))
      by_cases taken : d.store.has (.order, fresh.orderId) = true
      · rw [if_pos taken]
        exact serving.transaction_of_error (Db.bind_of_error _ (order.trans (if_pos taken)))
      rw [if_neg taken]
      have order := order.trans (if_neg taken)
      let row := fresh.orderRow tenant table r
      let s : Store := { d.store with orders := d.store.orders ++ [row] }
      have there : s.has (.order, fresh.orderId) = true :=
        Store.has_iff.2 (List.mem_map.2 ⟨row, by simp [s], rfl⟩)
      obtain ⟨left, lines⟩ := placeLines_apply (serving.withStore s) fresh tenant there 0 r.items
      have placed := Db.bind_of_ok (fun order : OrderRow => do
        placeLines fresh tenant 0 r.items
        return (⟨order.id, .waiting⟩ : OrderReceipt)) order
      change _ = match (lineRows fresh (s.activeItemOf? tenant.id) 0 r.items
        (s.ids .line)).map (row, ·) with
          | .ok (row, lines) => _
          | .error e => _
      cases done : lineRows fresh (s.activeItemOf? tenant.id) 0 r.items (s.ids .line) with
      | error e =>
        simp only [done] at lines
        have failed := Db.bind_of_error
          (fun _ : Unit => (pure ⟨fresh.orderId, .waiting⟩ : Db OrderReceipt)) lines
        have undone := serving.transaction_of_error (placed.trans failed)
        exact undone
      | ok rows =>
        simp only [done] at lines
        exact serving.transaction_of_ok (serving.withStore _)
          (placed.trans (Db.bind_of_ok _ lines))

/-- To guests every miss looks the same. -/
theorem place_apply (serving : d.Serving) (fresh : Fresh) (r : OrderRequest) :
    place fresh r d = match r.normalize.check with
      | .error e => (.error e, d)
      | .ok _ => match placement fresh r.normalize d.store with
        | .ok (row, lines) =>
          (.ok ⟨fresh.orderId, .waiting⟩, { d with store := d.store.withOrder row lines })
        | .error e => (.error (hideMiss e), d) := by
  rw [place]
  cases r.normalize.check with
  | error e => rfl
  | ok _ =>
    simp only [create_apply serving]
    cases placement fresh r.normalize d.store <;> rfl

/-! ## What an order adds -/

variable {fresh : Fresh} {r : OrderRequest} {row : OrderRow} {lines : List LineRow}

/-- The lines of an order are its own, can be read back, and have new ids. -/
theorem lineRows_eq_ok {offered : Uuid → Option Item} {position : Nat}
    {requests : List LineRequest} {taken : List Uuid}
    (done : lineRows fresh offered position requests taken = .ok lines) :
    (∀ l ∈ lines, l.orderId = fresh.orderId ∧ l.read?.isSome) ∧
      (taken.Nodup → (taken ++ lines.map (·.id)).Nodup) := by
  induction requests generalizing position taken lines with
  | nil =>
    cases done
    simp
  | cons line rest ih =>
    rw [lineRows] at done
    cases found : offered line.itemId with
    | none =>
      rw [found] at done
      cases done
    | some item =>
      simp only [found] at done
      split at done
      · cases done
      rename_i absent
      split at done
      · rename_i readable
        cases after : lineRows fresh offered (position + 1) rest
          (taken ++ [(fresh.lineRow position item line).id]) with
        | error e =>
          rw [after] at done
          cases done
        | ok rows =>
          rw [after] at done
          cases done
          obtain ⟨own, nodup⟩ := ih after
          constructor
          · intro l member
            rcases List.mem_cons.1 member with rfl | member
            · exact ⟨rfl, readable⟩
            · exact own l member
          · intro distinct
            have spread := nodup (Store.nodup_concat distinct absent)
            simpa using spread
      · cases done

/-- An order that can be placed is one of a tenant and a table that are there, under a new id. -/
theorem placement_eq_ok (done : placement fresh r s = .ok (row, lines)) :
    ∃ tenant table, s.tenantByCode? r.tenant = some tenant ∧
      s.tableOf? tenant.id r.tableToken = some table ∧ row = fresh.orderRow tenant table r ∧
      fresh.orderId ∉ s.ids .order ∧
      lineRows fresh (s.activeItemOf? tenant.id) 0 r.items (s.ids .line) = .ok lines := by
  rw [placement] at done
  split at done
  · cases done
  cases named : s.tenantByCode? r.tenant with
  | none =>
    rw [named] at done
    cases done
  | some tenant =>
    simp only [named] at done
    cases scanned : s.tableOf? tenant.id r.tableToken with
    | none =>
      rw [scanned] at done
      cases done
    | some table =>
      simp only [scanned] at done
      split at done
      · cases done
      rename_i absent
      cases ordered : lineRows fresh (s.activeItemOf? tenant.id) 0 r.items (s.ids .line) with
      | error e =>
        rw [ordered] at done
        cases done
      | ok rows =>
        rw [ordered] at done
        cases done
        have unused : fresh.orderId ∉ s.ids .order := fun there => absent (Store.has_iff.2 there)
        exact ⟨tenant, table, rfl, scanned, rfl, unused, ordered⟩

theorem keyed_of_placement (keyed : s.Keyed) (done : placement fresh r s = .ok (row, lines)) :
    (s.withOrder row lines).Keyed := by
  obtain ⟨tenant, table, -, -, rfl, absent, ordered⟩ := placement_eq_ok done
  exact keyed.withOrder absent ((lineRows_eq_ok ordered).2 (keyed.ids .line))

end Orders

namespace Catalog

variable {d : Database}

/-! ## Reading the catalog -/

/-- The menu of a tenant code. -/
def menuIn (s : Store) (code : String) : Except ApiError Menu :=
  match s.tenantByCode? code with
  | some tenant => .ok ⟨tenant.code, activeCategories s tenant.id, activeItems s tenant.id⟩
  | none => .error (.notFound ("tenant " ++ code))

/-- The tenant and table of a token that is trimmed. -/
def resolution (s : Store) (token : String) : Except ApiError TableResolution :=
  if token.isEmpty then .error (.badRequest "token is required")
  else
    match s.tableByToken? token with
    | none => .error (.notFound "table")
    | some table =>
      match s.tenant? table.tenantId with
      | none => .error (.notFound "tenant")
      | some tenant => .ok ⟨tenant, table.toTable⟩

theorem loadMenu_apply (serving : d.Serving) (code : String) :
    loadMenu code d = (menuIn d.store code, d) := by
  rw [loadMenu, Db.bind_apply, serving.find, menuIn]
  cases d.store.tenantByCode? code with
  | none => rfl
  | some tenant =>
    dsimp only
    rw [Db.bind_of_ok _ (serving.select ..), Db.bind_of_ok _ (serving.select ..)]
    rfl

theorem resolveTable_apply (serving : d.Serving) (token : String) :
    resolveTable token d = (resolution d.store (Text.trim token), d) := by
  rw [resolveTable, resolution]
  by_cases empty : (Text.trim token).isEmpty
  · rw [if_pos empty, if_pos empty]
    rfl
  rw [if_neg empty, if_neg empty]
  dsimp only
  rw [Db.bind_apply, serving.find]
  cases d.store.tableByToken? (Text.trim token) with
  | none => rfl
  | some table =>
    dsimp only
    rw [Db.bind_apply, serving.find]
    cases d.store.tenant? table.tenantId <;> rfl

/-! ## Changing items -/

/-- The tenant's code and the item that an edit is about. -/
def editTarget (s : Store) (tenantId id : Uuid) : Except ApiError (String × Item) :=
  match s.tenant? tenantId with
  | none => .error (.notFound "tenant")
  | some tenant =>
    match s.itemOf? tenantId id with
    | none => .error (.notFound ("item " ++ id.text))
    | some item => .ok (tenant.code, item)

/-- What a patch is about, once nothing forbids it. -/
def patchTarget (s : Store) (tenantId id : Uuid) (p : ItemPatch) :
    Except ApiError (String × Item) :=
  match p.validate with
  | .error e => .error e
  | .ok _ =>
    if p.isEmpty then .error (.badRequest "no fields to update")
    else
      match editTarget s tenantId id with
      | .error e => .error e
      | .ok target =>
        match p.categoryId with
        | none => .ok target
        | some categoryId =>
          match s.categoryOf? tenantId categoryId with
          | some _ => .ok target
          | none => .error (.notFound ("category " ++ categoryId.text))

/-- The answer of an edit and the database after it. -/
def edited (target : Except ApiError (String × Item)) (f : Item → Item) (d : Database) :
    Except ApiError (String × Item) × Database :=
  match target with
  | .ok (code, item) => (.ok (code, f item), { d with store := d.store.updateItem item.id f })
  | .error e => (.error e, d)

theorem editTarget_eq_ok {s : Store} {tenantId id : Uuid} {code : String} {item : Item}
    (found : editTarget s tenantId id = .ok (code, item)) :
    (∃ tenant ∈ s.tenants, tenant.id = tenantId ∧ tenant.code = code) ∧
      item ∈ s.items ∧ item.id = id ∧ item.tenantId = tenantId := by
  rw [editTarget] at found
  cases named : s.tenant? tenantId with
  | none =>
    rw [named] at found
    cases found
  | some tenant =>
    simp only [named] at found
    cases there : s.itemOf? tenantId id with
    | none =>
      rw [there] at found
      cases found
    | some other =>
      rw [there] at found
      cases found
      obtain ⟨member, same⟩ := Store.tenant?_eq_some named
      exact ⟨⟨tenant, member, same, rfl⟩, Store.itemOf?_eq_some there⟩

/-- A patch is about what an edit is about, if nothing forbids the patch. -/
theorem patchTarget_eq_ok_iff {s : Store} {tenantId id : Uuid} {p : ItemPatch}
    {target : String × Item} :
    patchTarget s tenantId id p = .ok target ↔
      p.validate = .ok () ∧ p.isEmpty = false ∧ editTarget s tenantId id = .ok target ∧
        ∀ categoryId, p.categoryId = some categoryId →
          (s.categoryOf? tenantId categoryId).isSome = true := by
  rw [patchTarget]
  cases p.validate with
  | error e => simp
  | ok _ =>
    cases p.isEmpty with
    | true => simp
    | false =>
      cases editTarget s tenantId id with
      | error e => simp
      | ok other =>
        cases p.categoryId with
        | none => simp
        | some categoryId => cases found : s.categoryOf? tenantId categoryId <;> simp [found]

theorem patchTarget_eq_ok {s : Store} {tenantId id : Uuid} {p : ItemPatch}
    {target : String × Item} (found : patchTarget s tenantId id p = .ok target) :
    editTarget s tenantId id = .ok target :=
  (patchTarget_eq_ok_iff.1 found).2.2.1

/-- What is written is what is read again and answered. -/
theorem writeItem_apply (serving : d.Serving) (keyed : d.store.Keyed) (code : String) {item : Item}
    (member : item ∈ d.store.items) {f : Item → Item} (keeps : ∀ i, (f i).id = i.id) :
    (writeItem item.id f >>= fun updated => pure (code, updated)) d =
      edited (.ok (code, item)) f d := by
  have written := serving.writeOnly .item fun _ s => .ok (s.updateItem item.id f)
  have read : Db.find .item (fun s => s.item? item.id) .database
      { d with store := d.store.updateItem item.id f } =
        (.ok (f item), { d with store := d.store.updateItem item.id f }) :=
    (serving.withStore _).find_some (keyed.item?_updateItem member keeps) _
  exact Db.bind_of_ok _ ((Db.bind_of_ok _ written).trans read)

theorem editTarget_steps (serving : d.Serving) (tenantId id : Uuid)
    (next : String → Item → Db (String × Item)) :
    (tenantCode tenantId >>= fun code => findItem tenantId id >>= fun item => next code item) d =
      match editTarget d.store tenantId id with
      | .ok (code, item) => next code item d
      | .error e => (.error e, d) := by
  rw [tenantCode, findItem, editTarget, Db.bind_apply, Db.bind_apply, serving.find]
  cases d.store.tenant? tenantId with
  | none => rfl
  | some tenant =>
    change (Db.find _ _ _ >>= next tenant.code) d = _
    rw [Db.bind_apply, serving.find]
    cases d.store.itemOf? tenantId id <;> rfl

theorem requireCategory_apply (serving : d.Serving) (tenantId id : Uuid) :
    requireCategory tenantId id d = ((match d.store.categoryOf? tenantId id with
      | some _ => .ok ()
      | none => .error (.notFound ("category " ++ id.text))), d) := by
  rw [requireCategory, Db.bind_apply, serving.find]
  cases d.store.categoryOf? tenantId id <;> rfl

theorem setAvailability_apply (serving : d.Serving) (keyed : d.store.Keyed) (tenantId id : Uuid)
    (a : Availability) :
    setAvailability tenantId id a d =
      edited (editTarget d.store tenantId id) (fun i => { i with isActive := a.isActive }) d := by
  rw [setAvailability, editTarget_steps serving]
  cases found : editTarget d.store tenantId id with
  | error e => rfl
  | ok target =>
    obtain ⟨-, member, -, -⟩ := editTarget_eq_ok found
    exact writeItem_apply serving keyed target.1 member fun _ => rfl

theorem patchItem_apply (serving : d.Serving) (keyed : d.store.Keyed) (tenantId id : Uuid)
    (p : ItemPatch) :
    patchItem tenantId id p d = edited (patchTarget d.store tenantId id p) p.apply d := by
  rw [patchItem, patchTarget]
  cases p.validate with
  | error e => rfl
  | ok _ =>
    by_cases empty : p.isEmpty
    · simp only [if_pos empty]
      rfl
    simp only [if_neg empty]
    rw [editTarget_steps serving]
    cases found : editTarget d.store tenantId id with
    | error e => rfl
    | ok target =>
      obtain ⟨-, member, -, -⟩ := editTarget_eq_ok found
      have written := writeItem_apply serving keyed target.1 member (f := p.apply) fun _ => rfl
      dsimp only
      cases p.categoryId with
      | none => exact written
      | some categoryId =>
        have looked := requireCategory_apply serving tenantId categoryId
        dsimp only
        cases there : d.store.categoryOf? tenantId categoryId with
        | none =>
          rw [there] at looked
          exact Db.bind_of_error _ looked
        | some category =>
          rw [there] at looked
          exact (Db.bind_of_ok _ looked).trans written

end Catalog

end Tableside
