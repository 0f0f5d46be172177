import Tableside.Proofs.Scan

/-!
# What becomes of an order

An order is decided before anything is written: `Orders.choice` finds its tenant, its table and an
item for each of its lines, or the first of these that is missing. What is made up for the order has
no part in that; it enters the rows that are then written (`Orders.placement_eq_choice`). Hence an
order is either refused, for a reason that the store and the request determine (`Orders.Refused`),
or it adds one row and a line for each line of the request (`Orders.Recorded`), and nothing else
happens (`Orders.created_or_refused`).
-/

namespace Tableside

/-! ## The choice of rows -/

/-- What is made up for an order is unused, and its lines get different ids. -/
structure Fresh.New (fresh : Fresh) (s : Store) (r : OrderRequest) : Prop
    extends fresh.UnusedIn s where
  distinct : ((List.range r.items.length).map fresh.lineId).Nodup

namespace Orders

/-- The rows that an order is made of. -/
structure Choice where
  tenant : Tenant
  table : TableRow
  picks : List (LineRequest × Item)

/-- The rows that a request is about, or what is wrong with it. -/
def choice (s : Store) (r : OrderRequest) : Except ApiError Choice :=
  if r.items.isEmpty then .error OrderRequest.noItems
  else
    match s.tenantByCode? r.tenant with
    | none => .error (.notFound ("tenant " ++ r.tenant))
    | some tenant =>
      match s.tableOf? tenant.id r.tableToken with
      | none => .error (.notFound "table")
      | some table =>
        (r.items.mapM (pick (s.activeItemOf? tenant.id))).map fun picks => ⟨tenant, table, picks⟩

variable {fresh : Fresh} {r : OrderRequest} {s : Store} {d : Database}

/-- What is made up for an order has no part in whether it is placed, nor in what it is made of. -/
theorem placement_eq_choice (new : fresh.New s r) :
    placement fresh r s = (choice s r).map fun c =>
      (fresh.orderRow c.tenant c.table r, fresh.lineRows 0 c.picks) := by
  have absent : ¬s.has (.order, fresh.orderId) = true :=
    fun there => new.order (Store.has_iff.1 there)
  have distinct := new.distinct
  rw [List.range_eq_range'] at distinct
  rw [placement, choice]
  by_cases empty : r.items.isEmpty = true
  · rw [if_pos empty, if_pos empty]
    rfl
  rw [if_neg empty, if_neg empty]
  cases s.tenantByCode? r.tenant with
  | none => rfl
  | some tenant =>
    dsimp only
    cases s.tableOf? tenant.id r.tableToken with
    | none => rfl
    | some table =>
      dsimp only
      rw [if_neg absent, lineRows_eq_picks (fun n _ => new.line n) distinct]
      cases r.items.mapM (pick (s.activeItemOf? tenant.id)) <;> rfl

end Orders

/-! ## Refused orders -/

/-- A tenant has an item that a line asks for, and it is active. -/
def Store.Offers (s : Store) (tenant : Tenant) (line : LineRequest) : Prop :=
  ∃ item ∈ s.items, item.id = line.itemId ∧ item.tenantId = tenant.id ∧ item.isActive = true

theorem Store.isSome_activeItemOf? {s : Store} {tenant : Tenant} {line : LineRequest} :
    (s.activeItemOf? tenant.id line.itemId).isSome = true ↔ s.Offers tenant line := by
  rw [Store.activeItemOf?_isSome_iff]
  constructor
  · rintro ⟨item, shown, named⟩
    obtain ⟨member, own, active⟩ := Catalog.mem_activeItems.1 shown
    exact ⟨item, member, named, own, active⟩
  · rintro ⟨item, member, named, own, active⟩
    exact ⟨item, Catalog.mem_activeItems.2 ⟨member, own, active⟩, named⟩

/-- The table is an active one of the tenant, with a token. -/
def TableRow.At (table : TableRow) (tenant : Tenant) (token : String) : Prop :=
  table.token = token ∧ table.tenantId = tenant.id ∧ table.isActive = true

namespace Store

variable {s : Store} {tenant : Tenant} {token : String}

theorem tableOf?_eq_none_iff :
    s.tableOf? tenant.id token = none ↔ ∀ table ∈ s.tables, ¬table.At tenant token := by
  simp [tableOf?, List.find?_eq_none, TableRow.At]

theorem tableOf?_seated {table : TableRow} (scanned : s.tableOf? tenant.id token = some table) :
    table ∈ s.tables ∧ table.At tenant token := by
  have holds := List.find?_some scanned
  simp only [Bool.and_eq_true, beq_iff_eq] at holds
  exact ⟨List.mem_of_find?_eq_some scanned, holds.1.1, holds.1.2, holds.2⟩

theorem tableOf?_isSome {table : TableRow} (there : table ∈ s.tables)
    (seated : table.At tenant token) : ∃ found, s.tableOf? tenant.id token = some found := by
  cases scanned : s.tableOf? tenant.id token with
  | none => exact absurd seated (tableOf?_eq_none_iff.1 scanned table there)
  | some found => exact ⟨found, rfl⟩

end Store

namespace Orders

/-- Why an order is refused: the first thing that is missing. -/
inductive Refused (s : Store) (r : OrderRequest) : ApiError → Prop
  | empty (nothing : r.items = []) :
    Refused s r (.badRequest "order must contain at least one item")
  | tenant (asked : r.items ≠ []) (unknown : ∀ tenant ∈ s.tenants, tenant.code ≠ r.tenant) :
    Refused s r (.notFound ("tenant " ++ r.tenant))
  | table {tenant : Tenant} (asked : r.items ≠ []) (known : tenant ∈ s.tenants)
    (named : tenant.code = r.tenant) (absent : ∀ table ∈ s.tables, ¬table.At tenant r.tableToken) :
    Refused s r (.notFound "table")
  | line {tenant : Tenant} {table : TableRow} {before : List LineRequest} {line : LineRequest}
    {after : List LineRequest} {e : ApiError} (known : tenant ∈ s.tenants)
    (named : tenant.code = r.tenant) (there : table ∈ s.tables)
    (seated : table.At tenant r.tableToken) (split : r.items = before ++ line :: after)
    (fine : ∀ l ∈ before, s.Offers tenant l ∧ l.storable = true)
    (wrong : ¬s.Offers tenant line ∧ e = .notFound ("item " ++ line.itemId.text) ∨
      s.Offers tenant line ∧ line.storable = false ∧ e = .database) : Refused s r e

variable {fresh : Fresh} {r : OrderRequest} {s : Store} {d : Database}

theorem pick_eq_ok_iff {tenant : Tenant} {line : LineRequest} :
    (∃ y, pick (s.activeItemOf? tenant.id) line = .ok y) ↔
      s.Offers tenant line ∧ line.storable = true := by
  rw [pick_isOk_iff, Store.isSome_activeItemOf?]

theorem pick_eq_error_iff {tenant : Tenant} {line : LineRequest} {e : ApiError} :
    pick (s.activeItemOf? tenant.id) line = .error e ↔
      ¬s.Offers tenant line ∧ e = .notFound ("item " ++ line.itemId.text) ∨
        s.Offers tenant line ∧ line.storable = false ∧ e = .database := by
  rw [← Store.isSome_activeItemOf?, pick]
  cases s.activeItemOf? tenant.id line.itemId with
  | none =>
    constructor
    · intro failed
      exact .inl ⟨by simp, (Except.error.inj failed).symm⟩
    · rintro (⟨-, rfl⟩ | ⟨⟨⟩, -⟩)
      rfl
  | some item =>
    cases line.storable with
    | false =>
      constructor
      · intro failed
        exact .inr ⟨rfl, rfl, (Except.error.inj failed).symm⟩
      · rintro (⟨absent, -⟩ | ⟨-, -, rfl⟩)
        · exact absurd rfl absent
        · rfl
    | true =>
      refine iff_of_false ?_ ?_
      · rintro ⟨⟩
      · rintro (⟨absent, -⟩ | ⟨-, ⟨⟩, -⟩)
        exact absurd rfl absent

theorem choice_of_empty (nothing : r.items = []) : choice s r = .error OrderRequest.noItems := by
  rw [choice, nothing]
  rfl

theorem choice_of_asked (asked : r.items ≠ []) : choice s r =
    match s.tenantByCode? r.tenant with
    | none => .error (.notFound ("tenant " ++ r.tenant))
    | some tenant =>
      match s.tableOf? tenant.id r.tableToken with
      | none => .error (.notFound "table")
      | some table =>
        (r.items.mapM (pick (s.activeItemOf? tenant.id))).map fun picks =>
          ⟨tenant, table, picks⟩ := by
  rw [choice, if_neg (by simpa using asked)]

/-- A request that fails to choose its rows is refused for the same reason. -/
theorem refused_of_choice {e : ApiError} (failed : choice s r = .error e) : Refused s r e := by
  by_cases nothing : r.items = []
  · rw [choice_of_empty nothing] at failed
    cases failed
    exact .empty nothing
  rw [choice_of_asked nothing] at failed
  cases named : s.tenantByCode? r.tenant with
  | none =>
    rw [named] at failed
    cases failed
    exact .tenant nothing (Store.tenantByCode?_eq_none_iff.1 named)
  | some tenant =>
    obtain ⟨known, same⟩ := Store.tenantByCode?_eq_some named
    simp only [named] at failed
    cases scanned : s.tableOf? tenant.id r.tableToken with
    | none =>
      rw [scanned] at failed
      cases failed
      exact .table nothing known same (Store.tableOf?_eq_none_iff.1 scanned)
    | some table =>
      obtain ⟨there, seated⟩ := Store.tableOf?_seated scanned
      simp only [scanned] at failed
      cases picked : r.items.mapM (pick (s.activeItemOf? tenant.id)) with
      | ok picks =>
        rw [picked] at failed
        cases failed
      | error e' =>
        rw [picked] at failed
        cases failed
        obtain ⟨before, line, after, split, fine, wrong⟩ := mapM_eq_error_iff.1 picked
        exact .line known same there seated split
          (fun l member => pick_eq_ok_iff.1 (fine l member)) (pick_eq_error_iff.1 wrong)

/-- What an order is refused for is what its request fails on, since tenants have codes of their
own. -/
theorem choice_of_refused (keyed : s.Keyed) {e : ApiError} (refused : Refused s r e) :
    choice s r = .error e := by
  cases refused with
  | empty nothing => exact choice_of_empty nothing
  | tenant asked unknown =>
    rw [choice_of_asked asked, Store.tenantByCode?_eq_none_iff.2 unknown]
  | @table tenant asked known same absent =>
    rw [choice_of_asked asked, ← same, keyed.tenantByCode?_eq_some known]
    dsimp only
    rw [Store.tableOf?_eq_none_iff.2 absent]
  | @line tenant table before line after _ known same there seated split fine wrong =>
    obtain ⟨found, scanned⟩ := Store.tableOf?_isSome there seated
    have failed : r.items.mapM (pick (s.activeItemOf? tenant.id)) = .error e :=
      mapM_eq_error_iff.2 ⟨before, line, after, split,
        fun l member => pick_eq_ok_iff.2 (fine l member), pick_eq_error_iff.2 wrong⟩
    rw [choice_of_asked (by simp [split]), ← same, keyed.tenantByCode?_eq_some known]
    dsimp only
    rw [scanned]
    dsimp only
    rw [failed]
    rfl

/-! ## Recorded orders -/

/-- The line at a position of an order: what was asked for, with the name and the price of an active
item of the tenant. -/
structure Copies (s : Store) (row : OrderRow) (line : LineRequest) (position : Nat) (l : LineRow) :
    Prop where
  order : l.orderId = row.id
  number : l.lineNo.toInt = position
  item : l.itemId = line.itemId
  qty : l.qty = line.qty
  options : l.options = line.options
  snapshot : ∃ item ∈ s.items, item.id = line.itemId ∧ item.tenantId = row.tenantId ∧
    item.isActive = true ∧ l.name = item.name ∧ l.unitPrice = item.price

/-- The row and the lines of an order that is placed. -/
structure Recorded (s : Store) (fresh : Fresh) (r : OrderRequest) (row : OrderRow)
    (lines : List LineRow) : Prop where
  place : ∃ tenant ∈ s.tenants, tenant.code = r.tenant ∧ row.tenantId = tenant.id ∧
    ∃ table ∈ s.tables, table.At tenant r.tableToken ∧ row.tableId = table.id
  id : row.id = fresh.orderId
  guestSessionId : row.guestSessionId = r.guestSessionId
  note : row.note = r.note
  status : row.status = "waiting"
  paidStatus : row.paidStatus = "unpaid"
  createdAt : row.createdAt = fresh.now
  copied : List.Forall₂ (fun (asked : LineRequest × Nat) l => Copies s row asked.1 asked.2 l)
    r.items.zipIdx lines
  ids : lines.map (·.id) = (List.range r.items.length).map fresh.lineId

theorem recorded_of_placement (small : r.items.length ≤ 2 ^ 31) {row : OrderRow}
    {lines : List LineRow} (placed : placement fresh r s = .ok (row, lines)) :
    Recorded s fresh r row lines := by
  obtain ⟨tenant, table, named, scanned, rfl, -, ordered⟩ := placement_eq_ok placed
  obtain ⟨known, same⟩ := Store.tenantByCode?_eq_some named
  obtain ⟨there, seated⟩ := Store.tableOf?_seated scanned
  have pairs := lineRows_pairs ordered
  have below : ∀ asked ∈ r.items.zipIdx, asked.2 < 2 ^ 31 := by
    rintro ⟨line, n⟩ member
    have short := (List.mem_zipIdx member).2.1
    omega
  exact {
    place := ⟨tenant, known, same, rfl, table, there, seated, rfl⟩
    id := rfl
    guestSessionId := rfl
    note := rfl
    status := rfl
    paidStatus := rfl
    createdAt := rfl
    copied := by
      refine (List.forall₂_and_left _ _ |>.2 ⟨below, pairs⟩).imp ?_
      rintro ⟨line, n⟩ l ⟨fits, item, offered, rfl⟩
      have holds := List.find?_some offered
      simp only [Bool.and_eq_true, beq_iff_eq] at holds
      obtain ⟨⟨named, own⟩, active⟩ := holds
      exact {
        order := rfl
        number := Int32.toInt_ofNat_of_lt fits
        item := named
        qty := rfl
        options := rfl
        snapshot := ⟨item, List.mem_of_find?_eq_some offered, named, own, active, rfl, rfl⟩ }
    ids := by
      have ids := map_of_pairs pairs (f := fun asked => fresh.lineId asked.2) (g := (·.id)) <| by
        rintro asked l ⟨item, -, rfl⟩
        rfl
      rw [← ids, List.range_eq_range', ← List.zipIdx_map_snd 0 r.items, List.map_map]
      rfl }

/-- An order with new ids is recorded, with one row and one line for each line of the request, or it
is refused and nothing changes. It is refused just when something is missing or cannot be kept, for
the first such reason; badly requested is only an order without lines. -/
theorem created_or_refused (serving : d.Serving) (keyed : d.store.Keyed) (new : fresh.New d.store r)
    (small : r.items.length ≤ 2 ^ 31) :
    ((∃ row lines, create fresh r d =
        (.ok ⟨fresh.orderId, .waiting⟩, { d with store := d.store.withOrder row lines }) ∧
        Recorded d.store fresh r row lines) ∨
      ∃ e, create fresh r d = (.error e, d)) ∧
    (∀ e, (create fresh r d).1 = .error e ↔ Refused d.store r e) ∧
    ((∃ why, (create fresh r d).1 = .error (.badRequest why)) ↔ r.items = []) := by
  have reasons : ∀ e, (create fresh r d).1 = .error e ↔ Refused d.store r e := by
    intro e
    have failing : choice d.store r = .error e ↔ Refused d.store r e :=
      ⟨refused_of_choice, choice_of_refused keyed⟩
    rw [← failing, create_apply serving, placement_eq_choice new]
    cases choice d.store r with
    | error e' =>
      constructor
      · intro failed
        cases failed
        rfl
      · intro failed
        cases failed
        rfl
    | ok c => exact iff_of_false (fun h => by cases h) (fun h => by cases h)
  refine ⟨?_, reasons, ?_⟩
  · rw [create_apply serving]
    cases placed : placement fresh r d.store with
    | error e => exact .inr ⟨e, rfl⟩
    | ok added => exact .inl ⟨_, _, rfl, recorded_of_placement small placed⟩
  · constructor
    · rintro ⟨why, failed⟩
      cases (reasons _).1 failed with
      | empty nothing => exact nothing
      | line _ _ _ _ _ _ wrong => rcases wrong with ⟨-, ⟨⟩⟩ | ⟨-, -, ⟨⟩⟩
    · exact fun nothing => ⟨_, (reasons _).2 (.empty nothing)⟩

end Orders

namespace Sample

/-- A coffee, and something that is not sold. -/
def withStranger (options : Option Json) : OrderRequest :=
  ⟨"cafe", "window", "guest", some "to go", [⟨coffee.id, 1, options⟩, ⟨.ofNat 9, 1, none⟩]⟩

/-- Two lines for one item. -/
def twoLines : OrderRequest := ⟨"cafe", "window", "guest", some "to go", twice⟩

theorem fresh_new (r : OrderRequest) (short : r.items.length = 2) :
    fresh.New (world [bar]).database.store r where
  order := by decide
  reference := by decide
  line := by
    intro position
    simp only [fresh]
    split
    · decide
    · decide
  distinct := by
    rw [short]
    decide

end Sample

namespace Orders

theorem created_or_refused_cafe :
    (∃ row lines, create Sample.fresh Sample.twoLines (Sample.world [Sample.bar]).database =
        (.ok ⟨.ofNat 20, .waiting⟩, { (Sample.world [Sample.bar]).database with
          store := (Sample.store [Sample.bar]).withOrder row lines }) ∧
        Recorded (Sample.store [Sample.bar]) Sample.fresh Sample.twoLines row lines) ∧
      (create Sample.fresh (Sample.withStranger none) (Sample.world [Sample.bar]).database).1 =
        .error (.notFound ("item " ++ (Uuid.ofNat 9).text)) := by
  have sound : (Sample.world [Sample.bar]).Sound := Sample.sound (by decide)
  obtain ⟨done, -, -⟩ := created_or_refused sound.serving sound.keyed
    (Sample.fresh_new Sample.twoLines rfl) (by decide)
  obtain ⟨-, reasons, -⟩ := created_or_refused sound.serving sound.keyed
    (Sample.fresh_new (Sample.withStranger none) rfl) (by decide)
  refine ⟨?_, (reasons _).2 ?_⟩
  · rcases done with recorded | ⟨e, failed⟩
    · exact recorded
    · have created : (create Sample.fresh Sample.twoLines
          (Sample.world [Sample.bar]).database).1 = .ok ⟨.ofNat 20, .waiting⟩ := by decide +kernel
      rw [failed] at created
      cases created
  · have known : Sample.cafe ∈ (Sample.store [Sample.bar]).tenants := List.mem_cons_self
    have there : Sample.table ∈ (Sample.store [Sample.bar]).tables := List.mem_cons_self
    have split : (Sample.withStranger none).items =
      [⟨Sample.coffee.id, 1, none⟩] ++ ⟨.ofNat 9, 1, none⟩ :: [] := rfl
    refine .line known rfl there ⟨rfl, rfl, rfl⟩ split ?_ (.inl ⟨?_, rfl⟩)
    · rintro l member
      obtain rfl := List.mem_singleton.1 member
      exact ⟨⟨Sample.coffee, List.mem_cons_self, rfl, rfl, rfl⟩, rfl⟩
    · rintro ⟨item, member, named, -⟩
      obtain rfl := List.mem_singleton.1 member
      exact absurd named (by decide)

/-- The order names a tenant and a table of the tenant. Its first line asks for an item that is
there and its second for one that is not, and yet it is not the second line that is named: the
options of the first do not come back. Nor is an order placed all of whose items are there. -/
theorem refused_for_options :
    (Sample.fresh.New (Sample.store [Sample.bar]) (Sample.withStranger (some Sample.unreadable)) ∧
      Sample.cafe ∈ (Sample.store [Sample.bar]).tenants ∧
      Sample.table ∈ (Sample.store [Sample.bar]).tables ∧ Sample.table.At Sample.cafe "window" ∧
      (Sample.store [Sample.bar]).Offers Sample.cafe ⟨Sample.coffee.id, 1, some Sample.unreadable⟩ ∧
      ¬(Sample.store [Sample.bar]).Offers Sample.cafe ⟨.ofNat 9, 1, none⟩) ∧
    (create Sample.fresh (Sample.withStranger (some Sample.unreadable))
      (Sample.world [Sample.bar]).database).1 ≠
        .error (.notFound ("item " ++ (Uuid.ofNat 9).text)) ∧
    (create Sample.fresh Sample.oddOrder (Sample.world [Sample.bar]).database).1 =
      .error .database := by
  have failed : (create Sample.fresh (Sample.withStranger (some Sample.unreadable))
      (Sample.world [Sample.bar]).database).1 = .error .database := by rfl
  refine ⟨⟨Sample.fresh_new _ rfl, by decide, by decide, ⟨rfl, rfl, rfl⟩,
    ⟨Sample.coffee, by decide, rfl, rfl, rfl⟩, ?_⟩, ?_, rfl⟩
  · rintro ⟨item, member, named, -⟩
    obtain rfl := List.mem_singleton.1 member
    exact absurd named (by decide)
  · rw [failed]
    rintro ⟨⟩

end Orders

end Tableside
