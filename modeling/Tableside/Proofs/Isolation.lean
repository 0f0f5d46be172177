import Tableside.Proofs.Calls
import Tableside.Proofs.Listing

/-!
# Tenants apart

`Store.part` cuts a store in two: the rows of a tenant and those of everybody else. A call on behalf
of a tenant comes to the same in the whole store as in the tenant's part (`Call.effect_own`), and
what it changes is in that part alone (`Change.part_own`, `Change.part_others`). So two stores that
agree on a tenant's rows cannot be told apart by the tenant's calls.
-/

namespace Tableside

/-! ## Whose rows -/

namespace Store

/-- Whether a line belongs to an order of a tenant. -/
def owns (s : Store) (a : Uuid) (l : LineRow) : Bool :=
  s.orders.any fun o => o.id == l.orderId && o.tenantId == a

/-- The rows that are a tenant's, or those that are not. -/
def part (s : Store) (a : Uuid) (mine : Bool) : Store where
  tenants := s.tenants.filter fun t => (t.id == a) == mine
  tables := s.tables.filter fun t => (t.tenantId == a) == mine
  categories := s.categories.filter fun c => (c.tenantId == a) == mine
  items := s.items.filter fun i => (i.tenantId == a) == mine
  orders := s.orders.filter fun o => (o.tenantId == a) == mine
  lines := s.lines.filter fun l => s.owns a l == mine

/-- The rows of a tenant. -/
abbrev own (s : Store) (a : Uuid) : Store := s.part a true

/-- The rows of everybody else. -/
abbrev others (s : Store) (a : Uuid) : Store := s.part a false

variable {s : Store} {a id : Uuid}

theorem find?_filter_of_imp {α : Type} {p q : α → Bool} (implies : ∀ x, p x = true → q x = true)
    (l : List α) : (l.filter q).find? p = l.find? p := by
  rw [List.find?_filter]
  congr 1
  funext x
  cases h : p x with
  | false => simp
  | true => simp [implies x h]

theorem filter_filter_of_imp {α : Type} {p q : α → Bool} (implies : ∀ x, p x = true → q x = true)
    (l : List α) : (l.filter q).filter p = l.filter p := by
  rw [List.filter_filter]
  congr 1
  funext x
  cases h : p x with
  | false => simp
  | true => simp [implies x h]

theorem Keyed.part (keyed : s.Keyed) (a : Uuid) (mine : Bool) : (s.part a mine).Keyed := by
  refine ⟨fun e => ?_, ?_, ?_⟩
  · have nodup := keyed.ids e
    cases e
    all_goals exact nodup.sublist (List.filter_sublist.map _)
  · exact keyed.codes.sublist (List.filter_sublist.map _)
  · exact keyed.tokens.sublist (List.filter_sublist.map _)

/-! ## Questions about a tenant's rows -/

theorem tenant?_own (s : Store) (a : Uuid) : (s.own a).tenant? a = s.tenant? a :=
  find?_filter_of_imp (fun t holds => by simpa using holds) _

theorem orderOf?_own (s : Store) (a id : Uuid) : (s.own a).orderOf? a id = s.orderOf? a id :=
  find?_filter_of_imp (fun o holds => by simp at holds; simp [holds]) _

theorem itemOf?_own (s : Store) (a id : Uuid) : (s.own a).itemOf? a id = s.itemOf? a id :=
  find?_filter_of_imp (fun i holds => by simp at holds; simp [holds]) _

theorem activeItemOf?_own (s : Store) (a : Uuid) :
    (s.own a).activeItemOf? a = s.activeItemOf? a :=
  funext fun _ => find?_filter_of_imp (fun i holds => by simp at holds; simp [holds]) _

theorem categoryOf?_own (s : Store) (a id : Uuid) :
    (s.own a).categoryOf? a id = s.categoryOf? a id :=
  find?_filter_of_imp (fun c holds => by simp at holds; simp [holds]) _

theorem tableOf?_own (s : Store) (a : Uuid) (token : String) :
    (s.own a).tableOf? a token = s.tableOf? a token :=
  find?_filter_of_imp (fun t holds => by simp at holds; simp [holds]) _

/-- A code that names the tenant. -/
def Names (s : Store) (a : Uuid) (code : String) : Prop :=
  ∃ t ∈ s.tenants, t.id = a ∧ t.code = code

theorem tenantByCode?_own (keyed : s.Keyed) {code : String} (named : s.Names a code) :
    ∃ t, t.id = a ∧ s.tenantByCode? code = some t ∧ (s.own a).tenantByCode? code = some t := by
  obtain ⟨t, member, rfl, rfl⟩ := named
  refine ⟨t, rfl, keyed.tenantByCode?_eq_some member, ?_⟩
  exact (keyed.part t.id true).tenantByCode?_eq_some (List.mem_filter.2 ⟨member, by simp⟩)

end Store

/-! ## Answers from a tenant's rows -/

namespace Orders

variable {s : Store} {a : Uuid}

theorem linesOf_own {ids : List Uuid}
    (mine : ∀ id ∈ ids, ∃ o ∈ s.orders, o.id = id ∧ o.tenantId = a) :
    linesOf (s.own a) ids = linesOf s ids := by
  unfold linesOf
  rw [Store.own, Store.part, Store.filter_filter_of_imp]
  intro l asked
  obtain ⟨o, member, same, own⟩ := mine l.orderId (List.contains_iff_mem.1 asked)
  have owned : s.owns a l = true := List.any_eq_true.2 ⟨o, member, by simp [same, own]⟩
  simp [owned]

theorem shown_own {rows : List OrderRow} (mine : ∀ o ∈ rows, o ∈ s.orders ∧ o.tenantId = a) :
    shown (s.own a) rows = shown s rows := by
  unfold shown linesRead
  rw [linesOf_own]
  intro id member
  obtain ⟨o, there, rfl⟩ := List.mem_map.1 member
  exact ⟨o, (mine o there).1, rfl, (mine o there).2⟩

theorem shownOne_own (row : OrderRow) (mine : ∃ o ∈ s.orders, o.id = row.id ∧ o.tenantId = a) :
    shownOne (s.own a) row = shownOne s row := by
  unfold shownOne linesRead
  rw [linesOf_own]
  intro id member
  rw [List.mem_singleton.1 member]
  exact mine

theorem matching_own (status : Option OrderStatus) (below : Option Cursor) :
    matching (s.own a) ⟨a, status, below⟩ = matching s ⟨a, status, below⟩ := by
  unfold matching
  rw [Store.own, Store.part, Store.filter_filter_of_imp]
  intro o admitted
  simp only [Filter.admits, Bool.and_eq_true] at admitted
  simp [admitted.1.1]

theorem page_own (status : Option OrderStatus) (token : Option String) (asked : Option Int) :
    page (s.own a) a status token asked = page s a status token asked := by
  rw [page_eq, page_eq, newest_eq, newest_eq, pageRows_eq, pageRows_eq, matching_own, shown_own]
  intro o member
  obtain ⟨there, admitted⟩ := mem_matching.1 (List.mem_of_mem_take member)
  simp only [Filter.admits, Bool.and_eq_true, beq_iff_eq] at admitted
  exact ⟨there, admitted.1.1⟩

theorem look_own (id : Uuid) : look (s.own a) a id = look s a id := by
  unfold look
  rw [Store.orderOf?_own]
  cases found : s.orderOf? a id with
  | none => rfl
  | some row =>
    obtain ⟨member, -, own⟩ := Store.orderOf?_eq_some found
    exact shownOne_own row ⟨row, member, rfl, own⟩

end Orders

theorem Effect.ofStatus_own {s : Store} {a : Uuid} (id : Uuid) (status : OrderStatus)
    (reply : Order → Reply) :
    ofStatus (s.own a) a id status reply = ofStatus s a id status reply := by
  unfold ofStatus
  rw [Store.orderOf?_own]
  cases found : s.orderOf? a id with
  | none => rfl
  | some row =>
    obtain ⟨member, -, own⟩ := Store.orderOf?_eq_some found
    dsimp only
    rw [Orders.shownOne_own { row with status := status.name } ⟨row, member, rfl, own⟩]

namespace Catalog

variable {s : Store} {a : Uuid}

theorem editTarget_own (id : Uuid) : editTarget (s.own a) a id = editTarget s a id := by
  unfold editTarget
  rw [Store.tenant?_own, Store.itemOf?_own]

theorem patchTarget_own (id : Uuid) (p : ItemPatch) :
    patchTarget (s.own a) a id p = patchTarget s a id p := by
  unfold patchTarget
  simp only [editTarget_own, Store.categoryOf?_own]

theorem menuIn_own (keyed : s.Keyed) {code : String} (named : s.Names a code) :
    menuIn (s.own a) code = menuIn s code := by
  obtain ⟨t, rfl, whole, part⟩ := Store.tenantByCode?_own keyed named
  have categories : activeCategories (s.own t.id) t.id = activeCategories s t.id := by
    unfold activeCategories
    rw [Store.own, Store.part, Store.filter_filter_of_imp]
    intro c holds
    simp at holds
    simp [holds]
  have items : activeItems (s.own t.id) t.id = activeItems s t.id := by
    unfold activeItems
    rw [Store.own, Store.part, Store.filter_filter_of_imp]
    intro i holds
    simp at holds
    simp [holds]
  rw [menuIn, menuIn, whole, part]
  dsimp only
  rw [categories, items]

end Catalog

/-! ## Placing orders from a tenant's rows -/

/-- What is made up for an order occurs nowhere yet. -/
structure Fresh.UnusedIn (fresh : Fresh) (s : Store) : Prop where
  order : fresh.orderId ∉ s.ids .order
  reference : ∀ l ∈ s.lines, l.orderId ≠ fresh.orderId
  line : ∀ position, fresh.lineId position ∉ s.ids .line

namespace Orders

variable {s : Store} {a : Uuid} {fresh : Fresh}

/-- Only whether the new ids are taken matters of the ids that lines have. -/
theorem lineRows_congr (fresh : Fresh) (offered : Uuid → Option Item) (position : Nat)
    (lines : List LineRequest) (taken taken' : List Uuid)
    (same : ∀ n, fresh.lineId n ∈ taken ↔ fresh.lineId n ∈ taken') :
    lineRows fresh offered position lines taken = lineRows fresh offered position lines taken' := by
  induction lines generalizing position taken taken' with
  | nil => rfl
  | cons line rest ih =>
    rw [lineRows, lineRows]
    cases offered line.itemId with
    | none => rfl
    | some item =>
      have here : (fresh.lineRow position item line).id ∈ taken ↔
          (fresh.lineRow position item line).id ∈ taken' := same position
      have after := ih (position + 1) (taken ++ [(fresh.lineRow position item line).id])
        (taken' ++ [(fresh.lineRow position item line).id])
        fun n => by rw [List.mem_append, List.mem_append, same n]
      dsimp only
      rw [after]
      simp only [here]

theorem placement_own (keyed : s.Keyed) {r : OrderRequest} (named : s.Names a r.tenant)
    (unused : fresh.UnusedIn s) : placement fresh r (s.own a) = placement fresh r s := by
  obtain ⟨t, rfl, whole, part⟩ := Store.tenantByCode?_own keyed named
  have absent : s.has (.order, fresh.orderId) = false := by
    rw [← Bool.not_eq_true, Store.has_iff]
    exact unused.order
  have absent' : (s.own t.id).has (.order, fresh.orderId) = false := by
    rw [← Bool.not_eq_true, Store.has_iff]
    exact fun there => unused.order ((List.filter_sublist.map _).subset there)
  have lines := lineRows_congr fresh (s.activeItemOf? t.id) 0 r.items
    ((s.own t.id).ids .line) (s.ids .line) fun n =>
      ⟨fun there => (List.filter_sublist.map _).subset there,
        fun there => absurd there (unused.line n)⟩
  unfold placement
  rw [whole, part]
  dsimp only
  rw [Store.tableOf?_own, Store.activeItemOf?_own, absent, absent', lines]

end Orders

/-! ## Calls on behalf of a tenant -/

namespace Call

variable {s : Store} {a : Uuid}

/-- Calls on behalf of a tenant: those of its users and of the parts of the service that act for
them, and those of guests who name its code. -/
def For (a : Uuid) (s : Store) : Call → Prop
  | getMenu code => s.Names a (Text.trim code)
  | placeOrder _ r => s.Names a r.normalize.tenant
  | createOrder _ r => s.Names a r.tenant
  | listOrders user _ => user.tenantId = a
  | listPage tenantId _ _ _ => tenantId = a
  | getOrder user _ => user.tenantId = a
  | findOrder tenantId _ => tenantId = a
  | updateOrderStatus user _ _ => user.tenantId = a
  | setStatus tenantId _ _ => tenantId = a
  | patchItem user _ _ => user.tenantId = a
  | setItemAvailability user _ _ => user.tenantId = a
  | dropMenu _ | resolveTable _ | health => False

/-- Whether a code names a tenant is told by the tenant's rows. -/
theorem names_of_agree {s s' : Store} (agree : s.own a = s'.own a) {code : String}
    (named : s.Names a code) : s'.Names a code := by
  obtain ⟨t, member, same, coded⟩ := named
  have there : t ∈ (s.own a).tenants := List.mem_filter.2 ⟨member, by simp [same]⟩
  rw [agree] at there
  exact ⟨t, (List.mem_filter.1 there).1, same, coded⟩

theorem For.of_agree {s s' : Store} {c : Call} (mine : c.For a s) (agree : s.own a = s'.own a) :
    c.For a s' := by
  cases c
  case getMenu => exact names_of_agree agree mine
  case placeOrder => exact names_of_agree agree mine
  case createOrder => exact names_of_agree agree mine
  all_goals exact mine

/-- What a call makes up occurs nowhere yet. -/
def Unused (s : Store) (c : Call) : Prop :=
  ∀ fresh r, c.creates = some (fresh, r) → fresh.UnusedIn s

/-- A tenant's call comes to what it comes to in the tenant's rows. -/
theorem effect_own (keyed : s.Keyed) {c : Call} (mine : c.For a s) (unused : c.Unused s) :
    c.effect (s.own a) = c.effect s := by
  cases c with
  | getMenu code =>
    rw [effect, effect, Catalog.menuAnswer, Catalog.menuAnswer, Catalog.menuIn_own keyed mine]
  | placeOrder fresh r =>
    rw [effect, effect, Orders.placement_own keyed mine (unused fresh r.normalize rfl)]
  | createOrder fresh r =>
    rw [effect, effect, Orders.placement_own keyed mine (unused fresh r rfl)]
  | listOrders user q =>
    obtain rfl : user.tenantId = a := mine
    simp only [effect, Orders.page_own]
  | listPage tenantId status token asked =>
    obtain rfl : tenantId = a := mine
    rw [effect, effect, Orders.page_own]
  | getOrder user id =>
    obtain rfl : user.tenantId = a := mine
    simp only [effect, Orders.look_own]
  | findOrder tenantId id =>
    obtain rfl : tenantId = a := mine
    rw [effect, effect, Orders.look_own]
  | updateOrderStatus user id u =>
    obtain rfl : user.tenantId = a := mine
    simp only [effect, Effect.ofStatus_own]
  | setStatus tenantId id status =>
    obtain rfl : tenantId = a := mine
    rw [effect, effect, Effect.ofStatus_own]
  | patchItem user id p =>
    obtain rfl : user.tenantId = a := mine
    simp only [effect, Catalog.patchTarget_own]
  | setItemAvailability user id p =>
    obtain rfl : user.tenantId = a := mine
    simp only [effect, Catalog.editTarget_own]
  | dropMenu code => exact mine.elim
  | resolveTable token => exact mine.elim
  | health => exact mine.elim

end Call

/-! ## Changes of a tenant's rows -/

/-- A change of rows that are a tenant's. -/
def Change.Of (a : Uuid) (s : Store) : Change → Prop
  | nothing => True
  | order row lines => row.tenantId = a ∧ row.id ∉ s.ids .order ∧
      (∀ l ∈ s.lines, l.orderId ≠ row.id) ∧ ∀ l ∈ lines, l.orderId = row.id
  | status id _ => ∃ o ∈ s.orders, o.id = id ∧ o.tenantId = a
  | item id f => (∃ i ∈ s.items, i.id = id ∧ i.tenantId = a) ∧ ∀ i, (f i).tenantId = i.tenantId

namespace Change

variable {s : Store} {a : Uuid}

theorem filter_map_of_same {α : Type} {p : α → Bool} {f : α → α} (l : List α)
    (same : ∀ x ∈ l, p (f x) = p x) : (l.map f).filter p = (l.filter p).map f := by
  rw [List.filter_map]
  congr 1
  exact List.filter_congr same

theorem owns_withOrder (s : Store) (row : OrderRow) (lines : List LineRow) (a : Uuid)
    (l : LineRow) :
    (s.withOrder row lines).owns a l =
      (s.owns a l || (row.id == l.orderId && row.tenantId == a)) := by
  simp [Store.owns, Store.withOrder]

theorem owns_updateStatus (s : Store) (id : Uuid) (status : OrderStatus) (a : Uuid) (l : LineRow) :
    (s.updateStatus id status).owns a l = s.owns a l := by
  simp only [Store.owns, Store.updateStatus, List.any_map]
  congr 1
  funext o
  dsimp only [Function.comp]
  split <;> rfl

theorem part_withOrder {row : OrderRow} {lines : List LineRow}
    (reference : ∀ l ∈ s.lines, l.orderId ≠ row.id) (own : ∀ l ∈ lines, l.orderId = row.id)
    (mine : Bool) :
    (s.withOrder row lines).part row.tenantId mine =
      if mine then (s.part row.tenantId mine).withOrder row lines
      else s.part row.tenantId mine := by
  have old : s.lines.filter (fun l => (s.withOrder row lines).owns row.tenantId l == mine) =
      s.lines.filter fun l => s.owns row.tenantId l == mine := by
    refine List.filter_congr fun l member => ?_
    rw [owns_withOrder, beq_false_of_ne (reference l member).symm, Bool.false_and, Bool.or_false]
  have new : lines.filter (fun l => (s.withOrder row lines).owns row.tenantId l == mine) =
      if mine then lines else [] := by
    have all : ∀ l ∈ lines, (s.withOrder row lines).owns row.tenantId l = true := by
      intro l member
      rw [owns_withOrder, own l member]
      simp
    cases mine with
    | true => exact List.filter_eq_self.2 fun l member => by simp [all l member]
    | false => exact List.filter_eq_nil_iff.2 fun l member => by simp [all l member]
  have split : (s.withOrder row lines).lines.filter
      (fun l => (s.withOrder row lines).owns row.tenantId l == mine) =
        s.lines.filter (fun l => s.owns row.tenantId l == mine) ++ if mine then lines else [] := by
    rw [← old, ← new]
    exact List.filter_append ..
  rw [Store.part, split]
  cases mine with
  | true => simp [Store.part, Store.withOrder]
  | false => simp [Store.part, Store.withOrder]

theorem part_updateStatus (id : Uuid) (status : OrderStatus) (mine : Bool) :
    (s.updateStatus id status).part a mine = (s.part a mine).updateStatus id status := by
  have orders := filter_map_of_same (p := fun o => (o.tenantId == a) == mine)
    (f := fun o => if o.id = id then { o with status := status.name } else o) s.orders
    fun o _ => by split <;> rfl
  rw [Store.part]
  simp only [owns_updateStatus]
  simp only [Store.updateStatus, Store.part, orders]

theorem part_updateItem (id : Uuid) {f : Item → Item} (keeps : ∀ i, (f i).tenantId = i.tenantId)
    (mine : Bool) : (s.updateItem id f).part a mine = (s.part a mine).updateItem id f := by
  have items := filter_map_of_same (p := fun i => (i.tenantId == a) == mine)
    (f := fun i => if i.id = id then f i else i) s.items
    fun i _ => by split <;> simp [keeps]
  simp only [Store.updateItem, Store.part, items, Store.owns]

/-- A change of a tenant's rows changes the tenant's part. -/
theorem part_own {change : Change} (mine : change.Of a s) :
    (change.apply s).own a = change.apply (s.own a) := by
  cases change with
  | nothing => rfl
  | order row lines =>
    obtain ⟨rfl, -, reference, own⟩ := mine
    exact part_withOrder reference own true
  | status id status => exact part_updateStatus id status true
  | item id f => exact part_updateItem id mine.2 true

/-- A change of a tenant's rows leaves everybody else's alone. -/
theorem part_others (keyed : s.Keyed) {change : Change} (mine : change.Of a s) :
    (change.apply s).others a = s.others a := by
  cases change with
  | nothing => rfl
  | order row lines =>
    obtain ⟨rfl, -, reference, own⟩ := mine
    exact part_withOrder reference own false
  | status id status =>
    obtain ⟨o, member, rfl, own⟩ := mine
    refine (part_updateStatus o.id status false).trans (Store.updateStatus_of_absent ?_)
    intro p there same
    obtain ⟨member', other⟩ := List.mem_filter.1 there
    obtain rfl := eq_of_key_eq (keyed.ids .order) member' member same
    simp [own] at other
  | item id f =>
    obtain ⟨⟨i, member, rfl, own⟩, keeps⟩ := mine
    refine (part_updateItem i.id keeps false).trans (Store.updateItem_of_absent ?_)
    intro j there same
    obtain ⟨member', other⟩ := List.mem_filter.1 there
    obtain rfl := eq_of_key_eq (keyed.ids .item) member' member same
    simp [own] at other

end Change

namespace Call

variable {s : Store} {a : Uuid}

/-- A tenant's call changes rows of the tenant. -/
theorem change_of (keyed : s.Keyed) {c : Call} (mine : c.For a s) (unused : c.Unused s) :
    (c.effect s).2.Of a s := by
  rcases c.effect_cases s with idle | ⟨fresh, r, row, lines, creates, placed, changed⟩ |
    ⟨tenantId, id, status, row, sets, found, changed, -⟩ |
    ⟨tenantId, id, f, code, item, edits, found, changed, -⟩
  · rw [idle]
    trivial
  · rw [changed]
    obtain ⟨tenant, table, named, -, rfl, absent, ordered⟩ := Orders.placement_eq_ok placed
    have theirs : s.Names a r.tenant := by
      cases c
      case placeOrder => cases creates; exact mine
      case createOrder => cases creates; exact mine
      all_goals cases creates
    obtain ⟨t, same, whole, -⟩ := Store.tenantByCode?_own keyed theirs
    obtain rfl : t = tenant := Option.some.inj (whole.symm.trans named)
    exact ⟨same, absent, (unused fresh r creates).reference,
      fun l member => ((Orders.lineRows_eq_ok ordered).1 l member).1⟩
  · rw [changed]
    obtain ⟨member, named, own⟩ := Store.orderOf?_eq_some found
    have theirs : tenantId = a := by
      cases c
      case updateOrderStatus user id' u =>
        rw [Call.sets] at sets
        split at sets
        · cases target : u.target with
          | error e => rw [target] at sets; cases sets
          | ok status' => rw [target] at sets; cases sets; exact mine
        · cases sets
      case setStatus => cases sets; exact mine
      all_goals cases sets
    exact ⟨row, member, named, own.trans theirs⟩
  · rw [changed]
    obtain ⟨-, member, named, own⟩ := Catalog.editTarget_eq_ok found
    have theirs : tenantId = a := by
      cases c
      case patchItem user id' p =>
        rw [Call.edits] at edits
        split at edits
        · cases edits; exact mine
        · cases edits
      case setItemAvailability user id' p =>
        rw [Call.edits] at edits
        split at edits
        · cases edits; exact mine
        · cases edits
      all_goals cases edits
    exact ⟨⟨item, member, named, own.trans theirs⟩, fun i => (edits_keep edits i).2⟩

end Call

/-! ## Two worlds -/

/-- Two worlds that agree on the rows of a tenant answer the tenant's calls alike and go on to
agree, and in each of them the rows of everybody else stay as they are. -/
theorem tenants_do_not_interfere {w₁ w₂ : World} (sound₁ : w₁.Sound) (sound₂ : w₂.Sound) {a : Uuid}
    (agree : w₁.database.store.own a = w₂.database.store.own a) {c : Call} {i₁ i₂ : Instance}
    (mine : c.For a w₁.database.store)
    (unused₁ : c.Unused w₁.database.store) (unused₂ : c.Unused w₂.database.store)
    (uncached₁ : ∀ code, c = .getMenu code → i₁.readThroughTtl = none)
    (uncached₂ : ∀ code, c = .getMenu code → i₂.readThroughTtl = none) :
    (c.run i₁ w₁).1 = (c.run i₂ w₂).1 ∧
      (c.run i₁ w₁).2.database.store.own a = (c.run i₂ w₂).2.database.store.own a ∧
      (c.run i₁ w₁).2.database.store.others a = w₁.database.store.others a ∧
      (c.run i₂ w₂).2.database.store.others a = w₂.database.store.others a := by
  have left := c.run_leaves i₁ sound₁.serving sound₁.keyed uncached₁
  have right := c.run_leaves i₂ sound₂.serving sound₂.keyed uncached₂
  have mine₂ := mine.of_agree agree
  have same : c.effect w₁.database.store = c.effect w₂.database.store := by
    rw [← Call.effect_own sound₁.keyed mine unused₁, agree,
      Call.effect_own sound₂.keyed mine₂ unused₂]
  have of₁ := Call.change_of sound₁.keyed mine unused₁
  have of₂ := Call.change_of sound₂.keyed mine₂ unused₂
  refine ⟨?_, ?_, ?_, ?_⟩
  · rw [left.answer, right.answer, same]
  · have parts := Change.part_own of₂
    rw [left.database, right.database, Change.part_own of₁, agree, same]
    exact parts.symm
  · rw [left.database]
    exact Change.part_others sound₁.keyed of₁
  · rw [right.database]
    exact Change.part_others sound₂.keyed of₂

theorem tenants_do_not_interfere_cafe :
    (Sample.refill.run Sample.server (Sample.world [])).1 =
        (Sample.refill.run Sample.server (Sample.world [Sample.bar])).1 ∧
      (Sample.refill.run Sample.server (Sample.world [])).2.database.store.own Sample.cafe.id =
        (Sample.refill.run Sample.server (Sample.world [Sample.bar])).2.database.store.own
          Sample.cafe.id ∧
      (Sample.refill.run Sample.server (Sample.world [Sample.bar])).2.database.store.others
          Sample.cafe.id =
        (Sample.world [Sample.bar]).database.store.others Sample.cafe.id := by
  have agree : (Sample.store []).own Sample.cafe.id =
      (Sample.store [Sample.bar]).own Sample.cafe.id := by
    have other : (Sample.bar.id == Sample.cafe.id) = false := by decide
    simp [Sample.store, Store.part, Store.owns, other]
  have mine : Sample.refill.For Sample.cafe.id (Sample.store []) :=
    ⟨Sample.cafe, List.mem_cons_self, rfl, by decide⟩
  have unused (neighbours : List Tenant) : Sample.refill.Unused (Sample.store neighbours) := by
    intro fresh r asked
    cases asked
    refine ⟨?_, ?_, fun _ => ?_⟩
    · show Uuid.ofNat 20 ∉ [Sample.order.id]
      decide
    · show ∀ l ∈ [Sample.line], l.orderId ≠ Uuid.ofNat 20
      decide
    · show Uuid.ofNat 21 ∉ [Sample.line.id]
      decide
  have uncached : ∀ code, Sample.refill = .getMenu code → Sample.server.readThroughTtl = none :=
    fun code same => by cases same
  have sound₁ : (Sample.world []).Sound := Sample.sound (by decide)
  have sound₂ : (Sample.world [Sample.bar]).Sound := Sample.sound (by decide)
  obtain ⟨answers, own, -, others⟩ :=
    tenants_do_not_interfere sound₁ sound₂ agree mine (unused []) (unused [Sample.bar])
      uncached uncached
  exact ⟨answers, own, others⟩

end Tableside
