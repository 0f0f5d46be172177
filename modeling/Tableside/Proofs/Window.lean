import Tableside.Proofs.Listing
import Tableside.Proofs.Scan

/-!
# A page is a window

`Orders.Sought` says which orders a listing is about: those of a tenant, in the state asked for if
any, below the position that the token names if it names one. In order, newest first, these are the
rows of the listing (`Orders.Window`), of which there is one list only. A page shows as many of them
from the top as its size says, and leads on just when there are more (`Orders.CutFrom`); it cannot
be had when a line of one of its orders cannot be read (`Orders.page_is_window`). All times are
those of the four-digit years, in the store and in the token (`Orders.Dated`).
-/

namespace Tableside

open Text (isBlank)

/-! ## Positions and tokens -/

namespace Cursor

/-- A blank token names no position. -/
theorem decode_blank {token : String} (blank : ∀ x ∈ token.toList, isBlank x = true) :
    decode token = none := by
  have nothing : token.toList.dropWhile isBlank = [] := List.dropWhile_eq_nil_iff.2 blank
  rw [decode, Text.trimChars, nothing]
  rfl

end Cursor

namespace Orders

/-! ## Rows of a listing -/

/-- The orders that a listing is about. -/
def Sought (tenantId : Uuid) (status : Option OrderStatus) (token : Option String)
    (o : OrderRow) : Prop :=
  o.tenantId = tenantId ∧ (∀ state, status = some state → o.status = state.name) ∧
    ∀ text c, token = some text → text ≠ "" → Cursor.decode text = some c → o.cursor.Earlier c

/-- The position that a token names, if it names one, has a four-digit year. -/
def Dated (token : Option String) : Prop :=
  ∀ text c, token = some text → Cursor.decode text = some c → c.createdAt.FourDigitYear

/-- The orders of a store that are sought, newest first. -/
structure Window (s : Store) (sought : OrderRow → Prop) (rows : List OrderRow) : Prop where
  members : ∀ o, o ∈ rows ↔ o ∈ s.orders ∧ sought o
  descends : rows.Pairwise fun a b => b.cursor.Earlier a.cursor

/-- The lines of a set of orders can be read. -/
def Legible (s : Store) (rows : List OrderRow) : Prop :=
  ∀ l ∈ s.lines, l.orderId ∈ rows.map (·.id) → l.read?.isSome = true

/-- The size of a page: what is asked for between 1 and 100, otherwise 20. -/
def PageSize (asked : Option Int) (size : Nat) : Prop :=
  (∀ n, asked = some n → 1 ≤ n → n ≤ 100 → (size : Int) = n) ∧
    ((∀ n, asked = some n → n < 1 ∨ 100 < n) → size = 20)

/-- The page that shows the first rows of a listing. -/
structure CutFrom (rows : List OrderRow) (size : Nat) (page : OrdersPage) : Prop where
  limit : page.limit = size
  data : page.data.map (·.toOrderRow) = rows.take size
  leads : page.nextCursor.isSome = true ↔ size < rows.length
  resumes : ∀ token, page.nextCursor = some token →
    ∃ last, (rows.take size).getLast? = some last ∧ Cursor.decode token = some last.cursor

variable {s : Store} {tenantId : Uuid} {status : Option OrderStatus} {token : Option String}
  {o : OrderRow} {rows : List OrderRow} {size : Nat}

theorem pageSize_pageLimit (asked : Option Int) : PageSize asked (pageLimit asked) := by
  cases asked with
  | none => exact ⟨fun n same => absurd same (by simp), fun _ => rfl⟩
  | some n =>
    rw [pageLimit]
    by_cases allowed : 0 < n ∧ n ≤ maxPageLimit
    · rw [if_pos allowed]
      refine ⟨fun m same _ _ => ?_, fun outside => ?_⟩
      · cases same
        omega
      · have bounds := outside n rfl
        unfold maxPageLimit at allowed
        omega
    · rw [if_neg allowed]
      refine ⟨fun m same low high => ?_, fun _ => rfl⟩
      cases same
      unfold maxPageLimit at allowed
      omega

/-- What a listing asks of the store is what is sought. -/
theorem admits_iff_sought (year : o.createdAt.FourDigitYear) (named : Dated token) :
    Filter.admits ⟨tenantId, status, cursorOf? token⟩ o = true ↔
      Sought tenantId status token o := by
  have year : o.cursor.createdAt.FourDigitYear := year
  have below : (cursorOf? token).all (fun c => o.cursor.before c) = true ↔
      ∀ text c, token = some text → text ≠ "" → Cursor.decode text = some c →
        o.cursor.Earlier c := by
    have names : ∀ c, cursorOf? token = some c ↔
        ∃ text, token = some text ∧ text ≠ "" ∧ Cursor.decode text = some c := by
      intro c
      cases token with
      | none => simp [cursorOf?]
      | some text => simp [cursorOf?, String.isEmpty_iff]
    rw [Option.all_eq_true]
    constructor
    · intro before text c here filled read
      have less := before c ((names c).2 ⟨text, here, filled, read⟩)
      exact (Cursor.before_iff_earlier year (named text c here read)).1 less
    · intro earlier c found
      obtain ⟨text, here, filled, read⟩ := (names c).1 found
      have less := earlier text c here filled read
      exact (Cursor.before_iff_earlier year (named text c here read)).2 less
  have state : status.all (fun state => o.status == state.name) = true ↔
      ∀ state, status = some state → o.status = state.name := by
    simp [Option.all_eq_true]
  rw [Filter.admits, Bool.and_eq_true, Bool.and_eq_true, beq_iff_eq, below, state, Sought,
    and_assoc]

/-- The rows that match are those that are sought, newest first. -/
theorem window_matching (keyed : s.Keyed) (dated : ∀ o ∈ s.orders, o.createdAt.FourDigitYear)
    (named : Dated token) :
    Window s (Sought tenantId status token)
      (matching s ⟨tenantId, status, cursorOf? token⟩) where
  members o := by
    rw [mem_matching]
    exact and_congr_right fun member => admits_iff_sought (dated o member) named
  descends := by
    have four : ∀ o ∈ matching s ⟨tenantId, status, cursorOf? token⟩,
        o.cursor.createdAt.FourDigitYear := fun o member => dated o (mem_matching.1 member).1
    exact (matching_descends keyed _).imp_of_mem fun {a b} first second before =>
      (Cursor.before_iff_earlier (four b second) (four a first)).1 before

/-! ## Lines of a page -/

/-- Rows are shown just when their lines can be read. -/
theorem shown_eq (s : Store) (rows : List OrderRow) :
    (Legible s rows ∧ ∃ data, shown s rows = .ok data) ∨
      ¬Legible s rows ∧ shown s rows = .error .database := by
  rcases linesRead_cases s (rows.map OrderRow.id) with
    ⟨legible, lines, read⟩ | ⟨⟨l, member, own, lost⟩, unread⟩
  · exact .inl ⟨legible, _, by rw [shown, read]; rfl⟩
  · refine .inr ⟨fun legible => ?_, by rw [shown, unread]; rfl⟩
    have there := legible l member own
    rw [lost] at there
    cases there

/-! ## The cut -/

theorem getLast?_take_isSome (positive : 0 < size) (more : size < rows.length) :
    ((rows.take size).getLast?).isSome = true := by
  rw [List.getLast?_isSome, Ne, List.take_eq_nil_iff]
  rintro (none | rfl)
  · omega
  · simp at more

/-- The page of the rows that match is cut from them. -/
theorem cutFrom_matching {f : Filter} {data : List Order} (positive : 0 < size)
    (four : ∀ o ∈ matching s f, o.createdAt.FourDigitYear)
    (read : shown s (pageRows s f size) = .ok data) :
    CutFrom (matching s f) size
      ⟨data, nextToken? (newest s f (size + 1)) size, size⟩ := by
  have next : nextToken? (newest s f (size + 1)) size =
      if size < (matching s f).length then
        ((matching s f).take size).getLast?.map fun o => o.cursor.encode else none := by
    rw [nextToken?, newest_eq, List.take_take, Nat.min_eq_left (Nat.le_succ size),
      List.length_take]
    have same : size < min (size + 1) (matching s f).length ↔ size < (matching s f).length := by
      omega
    simp only [same]
  constructor
  case limit => rfl
  case data => rw [rows_of_shown read, pageRows_eq]
  case leads =>
    rw [next]
    by_cases more : size < (matching s f).length
    · rw [if_pos more, Option.isSome_map]
      exact iff_of_true (getLast?_take_isSome positive more) more
    · rw [if_neg more]
      exact iff_of_false (by simp) more
  case resumes =>
    intro token found
    rw [next] at found
    split at found
    · obtain ⟨last, there, rfl⟩ := Option.map_eq_some_iff.1 found
      have member := List.mem_of_mem_take (List.mem_of_getLast? there)
      exact ⟨last, there, Cursor.decode_encode_of_year (four last member)⟩
    · cases found

/-- A token that names no position counts as none. -/
theorem list_unnamed {text : String}
    (unnamed : (∀ x ∈ text.toList, isBlank x = true) ∨ Cursor.decode text = none)
    (asked : Option Int) :
    list tenantId status (some text) asked = list tenantId status none asked := by
  have lost : Cursor.decode text = none := unnamed.elim Cursor.decode_blank id
  have none : cursorOf? (some text) = cursorOf? none := by
    simp [cursorOf?, lost]
  unfold list
  rw [none]

/-- A page shows the first rows of its listing, as many as its size says, and leads on from the last
of them just when there are more; it is refused just when a line of these rows cannot be read. A
token that names no position counts as none, and administrators are told the size of the page, how
many orders it has and where the next one begins. -/
theorem page_is_window {w : World} (serving : w.database.Serving)
    (keyed : w.database.store.Keyed)
    (dated : ∀ o ∈ w.database.store.orders, o.createdAt.FourDigitYear) (tenantId : Uuid)
    (status : Option OrderStatus) (token : Option String) (asked : Option Int) :
    (Dated token → ∃ size rows, PageSize asked size ∧
      Window w.database.store (Sought tenantId status token) rows ∧
      (Legible w.database.store (rows.take size) →
        ∃ page, list tenantId status token asked w.database = (.ok page, w.database) ∧
          CutFrom rows size page) ∧
      (¬Legible w.database.store (rows.take size) →
        list tenantId status token asked w.database = (.error .database, w.database))) ∧
    (∀ text, token = some text →
      (∀ x ∈ text.toList, isBlank x = true) ∨ Cursor.decode text = none →
        list tenantId status token asked w.database =
          list tenantId status none asked w.database) ∧
    ∀ (i : Instance) (user : AdminUser) (q : ListQuery), user.role = "admin" →
      user.tenantId = tenantId → ListQuery.statusFilter q.status = .ok status →
      q.cursor = token → q.limit = asked →
      (i.listOrders user q w).1 =
        (list tenantId status token asked w.database).1.map fun page =>
          ⟨"Orders", page,
            some ⟨some page.limit, some page.data.length, page.nextCursor⟩⟩ := by
  refine ⟨fun named => ?_, ?_, ?_⟩
  · let f : Filter := ⟨tenantId, status, cursorOf? token⟩
    refine ⟨pageLimit asked, matching w.database.store f, pageSize_pageLimit asked,
      window_matching keyed dated named, ?_, ?_⟩
    all_goals
      rw [list_apply serving, page_eq, pageRows_eq]
      rcases shown_eq w.database.store ((matching w.database.store f).take (pageLimit asked)) with
        ⟨legible, data, read⟩ | ⟨illegible, failed⟩
    · intro _
      rw [read]
      rw [← pageRows_eq] at read
      exact ⟨_, rfl, cutFrom_matching (pageLimit_pos asked)
        (fun o member => dated o (mem_matching.1 member).1) read⟩
    · exact fun legible => absurd legible illegible
    · exact fun illegible => absurd legible illegible
    · intro _
      rw [failed]
      rfl
  · rintro text rfl unnamed
    rw [list_unnamed unnamed]
  · rintro i user q admin rfl filtered rfl rfl
    have passed : Service.check user.ensureAdmin w = (.ok (), w) := by
      rw [Service.check, Call.ensureAdmin_of_admin admin]
    have named : Service.check (ListQuery.statusFilter q.status) w = (.ok status, w) := by
      rw [Service.check, filtered]
    rw [Instance.listOrders, Service.bind_of_ok _ passed, Service.bind_of_ok _ named,
      Service.db_wrapped]
    rfl

end Orders

namespace Sample

/-- The cafe and its neighbour with two orders and some lines. -/
def busy (lines : List LineRow) : World :=
  ⟨⟨{ store [bar] with orders := [order, later], lines }, Entity.all, true, true, true, none⟩,
    [], 0, []⟩

theorem busy_sound {lines : List LineRow}
    (keyed : (busy lines).database.store.Keyed) : (busy lines).Sound :=
  ⟨⟨rfl, Entity.mem_all⟩, keyed⟩

end Sample

namespace Orders

theorem page_is_window_cafe :
    ∃ size rows, PageSize (some 1) size ∧
      Window (Sample.busy [Sample.line]).database.store
        (Sought Sample.cafe.id (some .waiting) (some Sample.later.cursor.encode)) rows ∧
      Sample.order ∈ rows ∧
      ∃ page, list Sample.cafe.id (some .waiting) (some Sample.later.cursor.encode) (some 1)
          (Sample.busy [Sample.line]).database = (.ok page, (Sample.busy [Sample.line]).database) ∧
        CutFrom rows size page := by
  have sound : (Sample.busy [Sample.line]).Sound := Sample.busy_sound (by decide)
  have year : Sample.later.cursor.createdAt.FourDigitYear := by decide
  have names : Cursor.decode Sample.later.cursor.encode = some Sample.later.cursor :=
    Cursor.decode_encode_of_year year
  have named : Dated (some Sample.later.cursor.encode) := by
    intro text c same read
    cases same
    rw [names] at read
    cases read
    exact year
  obtain ⟨window, -⟩ := page_is_window sound.serving sound.keyed (by decide) Sample.cafe.id
    (some .waiting) (some Sample.later.cursor.encode) (some 1)
  obtain ⟨size, rows, sized, window, cut, -⟩ := window named
  have sought : Sought Sample.cafe.id (some .waiting) (some Sample.later.cursor.encode)
      Sample.order := by
    refine ⟨rfl, ?_, ?_⟩
    · intro state same
      cases same
      rfl
    · intro text c same _ read
      cases same
      rw [names] at read
      cases read
      exact .inl (by decide)
  refine ⟨size, rows, sized, window, (window.members Sample.order).2 ⟨List.mem_cons_self, sought⟩,
    cut fun l member _ => ?_⟩
  obtain rfl := List.mem_singleton.1 member
  rfl

/-- Two orders are there, but no page is had when a line of one of them cannot be read. -/
theorem window_withheld :
    let w := Sample.busy [Sample.lostLine]
    w.database.store.orders = [Sample.order, Sample.later] ∧
      Sample.order.tenantId = Sample.cafe.id ∧ Sample.later.tenantId = Sample.cafe.id ∧
      (list Sample.cafe.id none none none w.database).1 = .error .database := by
  intro w
  refine ⟨rfl, rfl, rfl, ?_⟩
  let f : Filter := ⟨Sample.cafe.id, none, none⟩
  have short : (matching w.database.store f).length ≤ 20 := by
    rw [matching, List.length_mergeSort]
    decide
  have shows : Sample.order ∈ pageRows w.database.store f 20 := by
    rw [pageRows_eq, List.take_of_length_le short]
    exact mem_matching.2 ⟨List.mem_cons_self, rfl⟩
  rw [list_apply (Sample.busy_sound (by decide)).serving, page_eq]
  rcases shown_eq w.database.store (pageRows w.database.store f 20) with
    ⟨legible, -⟩ | ⟨-, failed⟩
  · exact absurd (legible Sample.lostLine List.mem_cons_self (List.mem_map_of_mem shows))
      (by decide +kernel)
  · exact congrArg (Except.map _) failed

end Orders

end Tableside
