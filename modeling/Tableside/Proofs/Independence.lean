import Tableside.Proofs.Placement

/-!
# Orders are independent of each other

A guest's order looks at tenants, tables and items, and writes none of these. What becomes of it is
therefore the same whenever it is placed, as long as no item changes: `Orders.outcome` is what
becomes of a request, told without what is made up for it. Along a run the contents of the stored
orders grow by the outcomes of the requests, one after the other (`World.contents_play`). So each
request fares as it would alone, and runs that place the same requests in any order end with the
same orders (`World.orders_independent`).
-/

namespace Tableside

/-! ## Contents of orders -/

/-- A line of an order without the ids that are made up for it. -/
structure LineContent where
  lineNo : Int32
  itemId : Uuid
  name : String
  qty : Int32
  unitPrice : Int64
  options : Option Json

/-- An order without the ids and the time that are made up for it, and without its state. -/
structure OrderContent where
  tenantId : Uuid
  tableId : Uuid
  guestSessionId : String
  note : Option String
  paidStatus : String
  lines : List LineContent

def LineRow.content (l : LineRow) : LineContent :=
  ⟨l.lineNo, l.itemId, l.name, l.qty, l.unitPrice, l.options⟩

def OrderRow.content (o : OrderRow) (lines : List LineRow) : OrderContent :=
  ⟨o.tenantId, o.tableId, o.guestSessionId, o.note, o.paidStatus, lines.map (·.content)⟩

namespace Store

/-- The contents of the orders that a store holds. -/
def contents (s : Store) : List OrderContent :=
  s.orders.map fun o => o.content (s.linesOf o.id)

variable {s : Store}

/-- A new order is added to the contents with its own lines, and takes no lines from the others. -/
theorem contents_withOrder {row : OrderRow} {lines : List LineRow} (absent : row.id ∉ s.ids .order)
    (unreferred : ∀ l ∈ s.lines, l.orderId ≠ row.id) (own : ∀ l ∈ lines, l.orderId = row.id) :
    (s.withOrder row lines).contents = s.contents ++ [row.content lines] := by
  have split : ∀ id, (s.withOrder row lines).linesOf id =
      s.linesOf id ++ lines.filter fun l => l.orderId == id :=
    fun id => List.filter_append ..
  have others : ∀ o ∈ s.orders, (s.withOrder row lines).linesOf o.id = s.linesOf o.id := by
    intro o member
    have none : (lines.filter fun l => l.orderId == o.id) = [] := by
      refine List.filter_eq_nil_iff.2 fun l there same => absent ?_
      rw [← own l there, beq_iff_eq.1 same]
      exact List.mem_map_of_mem member
    rw [split, none, List.append_nil]
  have new : (s.withOrder row lines).linesOf row.id = lines := by
    have old : s.linesOf row.id = [] :=
      List.filter_eq_nil_iff.2 fun l there same => unreferred l there (beq_iff_eq.1 same)
    have all : (lines.filter fun l => l.orderId == row.id) = lines :=
      List.filter_eq_self.2 fun l there => beq_iff_eq.2 (own l there)
    rw [split, old, all, List.nil_append]
  have orders : (s.withOrder row lines).orders = s.orders ++ [row] := rfl
  rw [contents, orders, List.map_append, List.map_singleton, new, contents,
    List.map_congr_left fun o member => by rw [others o member]]

/-- The state of an order is no part of its content. -/
theorem contents_updateStatus (s : Store) (id : Uuid) (status : OrderStatus) :
    (s.updateStatus id status).contents = s.contents := by
  rw [contents, updateStatus, List.map_map]
  refine List.map_congr_left fun o _ => ?_
  by_cases here : o.id = id
  · simp only [Function.comp_apply, if_pos here]
    rfl
  · simp only [Function.comp_apply, if_neg here]
    rfl

/-- What guests can order is the same. -/
structure SameSupply (s s' : Store) : Prop where
  tenants : s'.tenants = s.tenants
  tables : s'.tables = s.tables
  items : s'.items = s.items

theorem SameSupply.trans {s' s'' : Store} (first : s.SameSupply s') (second : s'.SameSupply s'') :
    s.SameSupply s'' :=
  ⟨second.tenants.trans first.tenants, second.tables.trans first.tables,
    second.items.trans first.items⟩

end Store

/-! ## What becomes of a request -/

namespace Orders

/-- The content of an order that is made of these rows. -/
def Choice.content (c : Choice) (r : OrderRequest) : OrderContent where
  tenantId := c.tenant.id
  tableId := c.table.id
  guestSessionId := r.guestSessionId
  note := r.note
  paidStatus := PaidStatus.unpaid.name
  lines := c.picks.zipIdx.map fun ⟨⟨line, item⟩, position⟩ =>
    ⟨Int32.ofNat position, item.id, item.name, line.qty, item.price, line.options⟩

/-- What becomes of a guest's request: the content of the order, or what the guest is told. -/
def outcome (s : Store) (r : OrderRequest) : Except ApiError OrderContent :=
  match r.normalize.check with
  | .error e => .error e
  | .ok _ =>
    match choice s r.normalize with
    | .error e => .error (hideMiss e)
    | .ok c => .ok (c.content r.normalize)

variable {s s' : Store} {r : OrderRequest}

/-- What is made up for an order is no part of its content. -/
theorem content_placed (fresh : Fresh) (c : Choice) :
    (fresh.orderRow c.tenant c.table r).content (fresh.lineRows 0 c.picks) = c.content r := by
  rw [OrderRow.content, Fresh.lineRows, List.map_map]
  rfl

/-- Orders and their lines are not looked at. -/
theorem outcome_congr (same : s.SameSupply s') (r : OrderRequest) : outcome s' r = outcome s r := by
  have chosen : choice s' r.normalize = choice s r.normalize := by
    obtain ⟨tenants, tables, items⟩ := same
    unfold choice Store.tenantByCode? Store.tableOf? Store.activeItemOf?
    rw [tenants, tables, items]
  rw [outcome, chosen, outcome]

end Orders

/-- How a request of a certain outcome fares: it is refused and nothing changes, or it is answered
with the id made up for it, and an order of this content is added under this id. -/
inductive Fares (fresh : Fresh) (s : Store) :
    Except ApiError OrderContent → Except ApiError Reply → Store → Prop
  | refused (e : ApiError) : Fares fresh s (.error e) (.error e) s
  | placed {row : OrderRow} {lines : List LineRow} (named : row.id = fresh.orderId)
    (own : ∀ l ∈ lines, l.orderId = row.id) (waiting : row.status = OrderStatus.waiting.name) :
    Fares fresh s (.ok (row.content lines))
      (.ok (.placed (.plain "Order created" ⟨fresh.orderId, .waiting⟩))) (s.withOrder row lines)

namespace Fares

variable {s s' : Store} {fresh : Fresh} {r : OrderRequest} {told : Except ApiError OrderContent}
  {answer : Except ApiError Reply}

theorem contents (fares : Fares fresh s told answer s') (unused : fresh.UnusedIn s) :
    s'.contents = s.contents ++ told.toOption.toList := by
  cases fares with
  | refused e => exact (List.append_nil _).symm
  | placed named own waiting =>
    exact Store.contents_withOrder (named ▸ unused.order) (named ▸ unused.reference) own

/-- A request fares as its outcome says. -/
theorem of_placeOrder (new : fresh.New s r) :
    Fares fresh s (Orders.outcome s r) ((Call.placeOrder fresh r).effect s).1
      ((Call.placeOrder fresh r).step s) := by
  have new : fresh.New s r.normalize := ⟨new.toUnusedIn, new.distinct⟩
  rw [Call.step, Orders.outcome, Call.effect]
  cases r.normalize.check with
  | error e => exact .refused e
  | ok _ =>
    dsimp only [Effect.guarded]
    rw [Orders.placement_eq_choice new]
    cases Orders.choice s r.normalize with
    | error e => exact .refused _
    | ok choice =>
      dsimp only
      rw [← Orders.content_placed fresh]
      refine .placed rfl (fun l member => ?_) rfl
      obtain ⟨pick, -, rfl⟩ := List.mem_map.1 member
      rfl

end Fares

/-! ## Calls that change no item -/

namespace Call

variable {s : Store} {c : Call}

/-- The request of a guest that a call places. -/
def request? : Call → Option OrderRequest
  | placeOrder _ r => some r
  | _ => none

/-- Calls that change no item, and place orders only as guests do. -/
structure Ordinary (c : Call) : Prop where
  edits : c.edits = none
  guest : ∀ fresh r, c ≠ .createOrder fresh r

theorem sameSupply_step (unedited : c.edits = none) : s.SameSupply (c.step s) := by
  rw [step]
  rcases c.effect_cases s with idle | ⟨fresh, r, row, lines, -, -, changed⟩ |
    ⟨tenantId, id, status, row, -, -, changed, -⟩ | ⟨tenantId, id, f, code, item, asked, -⟩
  · rw [idle]
    exact ⟨rfl, rfl, rfl⟩
  · rw [changed]
    exact ⟨rfl, rfl, rfl⟩
  · rw [changed]
    exact ⟨rfl, rfl, rfl⟩
  · cases unedited.symm.trans asked

/-- A call that creates no order and changes no item leaves the contents as they are. -/
theorem contents_step_of_idle (uncreated : c.creates = none) (unedited : c.edits = none) :
    (c.step s).contents = s.contents := by
  rw [step]
  rcases c.effect_cases s with idle | ⟨fresh, r, row, lines, creates, -⟩ |
    ⟨tenantId, id, status, row, -, -, changed, -⟩ | ⟨tenantId, id, f, code, item, asked, -⟩
  · rw [idle]
    rfl
  · cases uncreated.symm.trans creates
  · rw [changed]
    exact s.contents_updateStatus id status
  · cases unedited.symm.trans asked

/-- An ordinary call adds the outcome of its request, if it has one, to the contents. -/
theorem contents_step (ordinary : c.Ordinary)
    (new : ∀ fresh r, c = .placeOrder fresh r → fresh.New s r) :
    (c.step s).contents =
      s.contents ++ c.request?.toList.filterMap fun r => (Orders.outcome s r).toOption := by
  cases asked : c.creates with
  | some made =>
    -- Guests create orders; the engine is not called past their checks.
    cases c
    case placeOrder fresh r =>
      have new := new fresh r rfl
      rw [(Fares.of_placeOrder new).contents new.toUnusedIn, request?, Option.toList_some,
        List.filterMap_cons, List.filterMap_nil]
      cases Orders.outcome s r <;> rfl
    case createOrder fresh r => exact absurd rfl (ordinary.guest fresh r)
    all_goals cases asked
  | none =>
    have unasked : c.request? = none := by
      cases c
      case placeOrder => cases asked
      all_goals rfl
    rw [contents_step_of_idle asked ordinary.edits, unasked]
    exact (List.append_nil _).symm

end Call

/-! ## Runs -/

/-- A request that is placed in a turn fares as its outcome says. -/
theorem Turn.fares {w : World} {t : Turn} {fresh : Fresh} {r : OrderRequest} (sound : w.Sound)
    (asked : t.call = .placeOrder fresh r) (new : fresh.New w.database.store r) :
    Fares fresh w.database.store (Orders.outcome w.database.store r) (t.take w).1
      (t.take w).2.database.store := by
  have uncached : ∀ code, t.call = .getMenu code → t.server.readThroughTtl = none :=
    fun code same => by cases asked.symm.trans same
  rw [t.take_store sound, t.take_answer sound uncached, asked]
  exact .of_placeOrder new

namespace World

variable {w : World} {t : Turn} {turns rest : List Turn}

/-- What is made up for the guests' orders of a run is new when it is used. -/
def Anew (w : World) (turns : List Turn) : Prop :=
  ∀ before t after fresh r, turns = before ++ t :: after → t.call = .placeOrder fresh r →
    fresh.New (w.play before).2.database.store r

theorem Anew.nil (w : World) : w.Anew [] := by
  rintro before t after fresh r split
  cases before <;> cases split

theorem Anew.cons (here : ∀ fresh r, t.call = .placeOrder fresh r → fresh.New w.database.store r)
    (later : (t.take w).2.Anew rest) : w.Anew (t :: rest) := by
  rintro before u after fresh r split asked
  cases before with
  | nil =>
    cases split
    exact here fresh r asked
  | cons _ before =>
    cases split
    exact later before u after fresh r rfl asked

theorem Anew.tail (new : w.Anew (t :: rest)) : (t.take w).2.Anew rest :=
  fun before u after fresh r split => new (t :: before) u after fresh r (congrArg (t :: ·) split)

/-- The requests of guests in a run, in turn. -/
def requests (turns : List Turn) : List OrderRequest :=
  turns.flatMap fun t => t.call.request?.toList

theorem requests_cons (t : Turn) (rest : List Turn) :
    requests (t :: rest) = t.call.request?.toList ++ requests rest := List.flatMap_cons

/-- A run without changes of items leaves what guests can order. -/
theorem sameSupply_play (sound : w.Sound) (unedited : ∀ t ∈ turns, t.call.edits = none) :
    w.database.store.SameSupply (w.play turns).2.database.store := by
  induction turns generalizing w with
  | nil => exact ⟨rfl, rfl, rfl⟩
  | cons t rest ih =>
    obtain ⟨first, others⟩ := List.forall_mem_cons.1 unedited
    have here : w.database.store.SameSupply (t.take w).2.database.store := by
      rw [t.take_store sound]
      exact Call.sameSupply_step first
    rw [play_cons]
    exact here.trans (ih (t.take_sound sound) others)

/-- Along a run the contents grow by the outcomes that the requests have at its beginning. -/
theorem contents_play (sound : w.Sound) (ordinary : ∀ t ∈ turns, t.call.Ordinary)
    (new : w.Anew turns) : (w.play turns).2.database.store.contents =
      w.database.store.contents ++
        (requests turns).filterMap fun r => (Orders.outcome w.database.store r).toOption := by
  induction turns generalizing w with
  | nil => exact (List.append_nil _).symm
  | cons t rest ih =>
    obtain ⟨first, others⟩ := List.forall_mem_cons.1 ordinary
    have supply : w.database.store.SameSupply (t.take w).2.database.store := by
      rw [t.take_store sound]
      exact Call.sameSupply_step first.edits
    have here : (t.take w).2.database.store.contents = w.database.store.contents ++
        t.call.request?.toList.filterMap fun r =>
          (Orders.outcome w.database.store r).toOption := by
      rw [t.take_store sound]
      exact Call.contents_step first fun fresh r => new [] t rest fresh r rfl
    rw [play_cons, ih (t.take_sound sound) others new.tail, here, List.append_assoc,
      requests_cons, List.filterMap_append]
    -- The outcomes of the rest are those that it has before this turn.
    simp only [Orders.outcome_congr supply]

/-- Take runs in which no item is changed and every made-up id is new. A request that is placed in
the midst of one is refused for the same reason as when it is placed alone at the beginning, or has
an order of the same content stored; and two runs that place the same requests, in whatever order
and with whatever else in between, add orders of the same contents. -/
theorem orders_independent (sound : w.Sound) (ordinary : ∀ t ∈ turns, t.call.Ordinary)
    (new : w.Anew turns) :
    (∀ before t after (alone : Turn) fresh fresh' r, turns = before ++ t :: after →
      t.call = .placeOrder fresh r → alone.call = .placeOrder fresh' r →
      fresh'.New w.database.store r → ∃ told,
        Fares fresh (w.play before).2.database.store told (t.take (w.play before).2).1
          (t.take (w.play before).2).2.database.store ∧
        Fares fresh' w.database.store told (alone.take w).1 (alone.take w).2.database.store) ∧
    ∀ turns', (∀ t ∈ turns', t.call.Ordinary) → w.Anew turns' →
      (requests turns').Perm (requests turns) →
      ∃ added added', added'.Perm added ∧
        (w.play turns).2.database.store.contents = w.database.store.contents ++ added ∧
        (w.play turns').2.database.store.contents = w.database.store.contents ++ added' := by
  constructor
  · rintro before t after alone fresh fresh' r rfl asked same new'
    have supply := sameSupply_play sound fun u member =>
      (ordinary u (List.mem_append_left _ member)).edits
    have here := Turn.fares (play_sound sound before) asked (new before t after fresh r rfl asked)
    rw [Orders.outcome_congr supply] at here
    exact ⟨_, here, Turn.fares sound same new'⟩
  · intro turns' ordinary' new' same
    exact ⟨_, _, same.filterMap _, contents_play sound ordinary new,
      contents_play sound ordinary' new'⟩

end World

namespace Sample

/-- So many of an item are asked for. -/
def want (item : Uuid) (qty : Int32) : OrderRequest :=
  ⟨"cafe", "window", "guest", none, [⟨item, qty, none⟩]⟩

def made (n : Nat) : Fresh := ⟨.ofNat n, fun _ => .ofNat (n + 1), noon⟩

/-- A guest places a request, for which certain ids are made up. -/
def placing (n : Nat) (r : OrderRequest) : Turn :=
  ⟨server, .placeOrder (made n) r, 1, fun _ => true⟩

/-- The order is done. -/
def finished : Turn := ⟨server, finish, 1, fun _ => true⟩

/-- Two guests order coffee, and one something that is not on the menu. -/
def forth : List Turn :=
  [placing 20 (want coffee.id 1), finished, placing 22 (want cafe.id 1),
    placing 24 (want coffee.id 2)]

/-- The same guests the other way round. -/
def back : List Turn :=
  [placing 30 (want coffee.id 2), placing 32 (want cafe.id 1), placing 34 (want coffee.id 1),
    finished]

theorem placing_new {s : Store} {n : Nat} {item : Uuid} {qty : Int32}
    (order : Uuid.ofNat n ∉ s.ids .order) (reference : ∀ l ∈ s.lines, l.orderId ≠ .ofNat n)
    (line : Uuid.ofNat (n + 1) ∉ s.ids .line) (fresh : Fresh) (r : OrderRequest)
    (asked : (placing n (want item qty)).call = .placeOrder fresh r) : fresh.New s r := by
  cases asked
  exact ⟨⟨order, reference, fun _ => line⟩, List.nodup_singleton _⟩

theorem finished_new {s : Store} (fresh : Fresh) (r : OrderRequest)
    (asked : finished.call = .placeOrder fresh r) : fresh.New s r := by
  cases asked

theorem forth_anew : (world [bar]).Anew forth := by
  have sound : (world [bar]).Sound := sound (by decide)
  have after := Turn.take_sound (placing 20 (want coffee.id 1)) sound
  have after' := Turn.take_sound finished after
  refine .cons (placing_new (by decide) (by decide) (by decide)) (.cons finished_new
    (.cons (placing_new ?_ ?_ ?_) (.cons (placing_new ?_ ?_ ?_) (.nil _))))
  all_goals
    simp only [Turn.take_store _ after', Turn.take_store _ after, Turn.take_store _ sound]
    decide +kernel

theorem back_anew : (world [bar]).Anew back := by
  have sound : (world [bar]).Sound := sound (by decide)
  have after := Turn.take_sound (placing 30 (want coffee.id 2)) sound
  refine .cons (placing_new (by decide) (by decide) (by decide)) (.cons (placing_new ?_ ?_ ?_)
    (.cons (placing_new ?_ ?_ ?_) (.cons finished_new (.nil _))))
  all_goals
    simp only [Turn.take_store _ after, Turn.take_store _ sound]
    decide +kernel

theorem placing_ordinary (n : Nat) (r : OrderRequest) : (placing n r).call.Ordinary :=
  ⟨rfl, fun _ _ => Call.noConfusion⟩

theorem finished_ordinary : finished.call.Ordinary :=
  ⟨rfl, fun _ _ => Call.noConfusion⟩

end Sample

namespace World

/-- What is not on the menu is refused in the midst of a run as it is alone, and both runs end with
the same three orders. -/
theorem orders_independent_cafe :
    (∃ e, Fares (Sample.made 22)
        ((Sample.world [Sample.bar]).play (Sample.forth.take 2)).2.database.store (.error e)
        ((Sample.placing 22 (Sample.want Sample.cafe.id 1)).take
          ((Sample.world [Sample.bar]).play (Sample.forth.take 2)).2).1
        ((Sample.placing 22 (Sample.want Sample.cafe.id 1)).take
          ((Sample.world [Sample.bar]).play (Sample.forth.take 2)).2).2.database.store ∧
      Fares (Sample.made 42) (Sample.store [Sample.bar]) (.error e)
        ((Sample.placing 42 (Sample.want Sample.cafe.id 1)).take (Sample.world [Sample.bar])).1
        ((Sample.placing 42 (Sample.want Sample.cafe.id 1)).take
          (Sample.world [Sample.bar])).2.database.store) ∧
    ((Sample.world [Sample.bar]).play Sample.forth).2.database.store.contents.length = 3 ∧
    ((Sample.world [Sample.bar]).play Sample.back).2.database.store.contents.Perm
      ((Sample.world [Sample.bar]).play Sample.forth).2.database.store.contents := by
  have sound : (Sample.world [Sample.bar]).Sound := Sample.sound (by decide)
  have ordinary : ∀ t ∈ Sample.forth, t.call.Ordinary := by
    simp [Sample.forth, Sample.placing_ordinary, Sample.finished_ordinary]
  have ordinary' : ∀ t ∈ Sample.back, t.call.Ordinary := by
    simp [Sample.back, Sample.placing_ordinary, Sample.finished_ordinary]
  have same : (requests Sample.back).Perm (requests Sample.forth) :=
    (List.Perm.swap _ _ _).trans ((List.Perm.cons _ (List.Perm.swap _ _ [])).trans
      (List.Perm.swap _ _ _))
  have new : (Sample.made 42).New (Sample.store [Sample.bar]) (Sample.want Sample.cafe.id 1) :=
    Sample.placing_new (by decide) (by decide) (by decide) _ _ rfl
  obtain ⟨alike, permuted⟩ := orders_independent sound ordinary Sample.forth_anew
  obtain ⟨told, midst, alone⟩ := alike (Sample.forth.take 2)
    (Sample.placing 22 (Sample.want Sample.cafe.id 1)) (Sample.forth.drop 3)
    (Sample.placing 42 (Sample.want Sample.cafe.id 1)) _ _ _ rfl rfl rfl new
  obtain ⟨added, added', same, first, second⟩ :=
    permuted Sample.back ordinary' Sample.back_anew same
  refine ⟨?_, by decide +kernel, ?_⟩
  · cases told with
    | error e => exact ⟨e, midst, alone⟩
    | ok content =>
      -- There would be a second order.
      have grown := congrArg List.length (alone.contents new.toUnusedIn)
      rw [List.length_append] at grown
      exact absurd (grown.trans rfl : _ = 2) (by decide +kernel)
  · rw [first, second]
    exact same.append_left _

end World

end Tableside
