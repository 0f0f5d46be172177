import Mathlib.Data.List.Infix
import Mathlib.Data.List.Perm.Subperm
import Tableside.Proofs.History
import Tableside.Proofs.Listing

/-!
# Reading all pages of a listing

A client reads a listing page by page, each time with the token that the page before gave it, while
others call the service as they like. `Reading.run` carries out such a run. `Reading.Invariant` is
what holds between any two of its events: the rows read so far descend strictly and are still there,
and the next token is the position of the last of them. A row that has matched all along is either
among them or lies below that position (`Reading.Due`).
-/

namespace Tableside

/-! ## Clients -/

/-- Where a client stands: it asks for a page next, with the token it was given if any, or it was
told that there is no next page. -/
inductive Reader
  | asking (token : Option String)
  | finished
deriving DecidableEq

/-- A client that reads a listing, the world, and the pages that the client was given. -/
structure Reading where
  world : World
  reader : Reader
  pages : List OrdersPage

namespace Reading

/-- The client asks for its next page, with any limit, or anybody calls anything. -/
inductive Event
  | page (asked : Option Int)
  | other (t : Turn)

/-- Before the first page. -/
def start (w : World) : Reading := ⟨w, .asking none, []⟩

/-- Who asks next after a page. -/
def next (page : OrdersPage) : Reader :=
  match page.nextCursor with
  | some token => .asking (some token)
  | none => .finished

/-- An event of a run. A client that has finished asks no more; a page that cannot be had leaves
the client where it was. -/
def step (tenantId : Uuid) (status : Option OrderStatus) (r : Reading) : Event → Reading
  | .other t => { r with world := (t.take r.world).2 }
  | .page asked =>
    match r.reader with
    | .finished => r
    | .asking token =>
      match Service.db (Orders.list tenantId status token asked) r.world with
      | (.ok page, w) => ⟨w, next page, r.pages ++ [page]⟩
      | (.error _, w) => { r with world := w }

/-- A run of events. -/
def run (tenantId : Uuid) (status : Option OrderStatus) (r : Reading) (events : List Event) :
    Reading :=
  events.foldl (step tenantId status) r

/-- The rows that the client was given, in turn. -/
def listed (r : Reading) : List OrderRow :=
  r.pages.flatMap fun page => page.data.map (·.toOrderRow)

/-- The store of the moment. -/
abbrev store (r : Reading) : Store := r.world.database.store

/-- Orders that are placed in a run have times of the four-digit years. -/
def Event.Dated : Event → Prop
  | .other t => ∀ fresh r, t.call.creates = some (fresh, r) → fresh.now.FourDigitYear
  | .page _ => True

/-! ## Between two events -/

variable {tenantId : Uuid} {status : Option OrderStatus} {r : Reading}

/-- What holds between any two events. -/
structure Invariant (tenantId : Uuid) (r : Reading) : Prop where
  sound : r.world.Sound
  dated : ∀ o ∈ r.store.orders, o.createdAt.FourDigitYear
  descends : r.listed.Pairwise fun a b => b.cursor.before a.cursor = true
  remains : ∀ o ∈ r.listed, o.tenantId = tenantId ∧
    ∃ row ∈ r.store.orders, row.cursor = o.cursor ∧ row.tenantId = tenantId
  begins : r.reader = .asking none → r.pages = []
  resumes : ∀ token, r.reader = .asking (some token) →
    ∃ last, r.listed.getLast? = some last ∧ token = last.cursor.encode
  counted : r.pages.length ≤ r.listed.length + if r.reader = .finished then 1 else 0

theorem invariant_start {w : World} (sound : w.Sound)
    (dated : ∀ o ∈ w.database.store.orders, o.createdAt.FourDigitYear) :
    (start w).Invariant tenantId where
  sound := sound
  dated := dated
  descends := List.Pairwise.nil
  remains := fun o member => absurd member List.not_mem_nil
  begins := fun _ => rfl
  resumes := fun token same => by cases same
  counted := Nat.zero_le _

/-- An order that is there when something is called is there afterwards, at its position. -/
theorem remains_after_turn {w : World} (sound : w.Sound) (t : Turn) {o : OrderRow}
    (member : o ∈ w.database.store.orders) :
    ∃ row ∈ (t.take w).2.database.store.orders,
      row.cursor = o.cursor ∧ row.tenantId = o.tenantId := by
  obtain ⟨history, kept⟩ := Call.continues_step sound.keyed t.call
  refine ⟨o.after history, ?_, rfl, rfl⟩
  rw [t.take_store sound]
  exact kept.after_mem member

theorem dated_after_turn {w : World} (sound : w.Sound) {t : Turn} (fresh : (Event.other t).Dated)
    (dated : ∀ o ∈ w.database.store.orders, o.createdAt.FourDigitYear) :
    ∀ o ∈ (t.take w).2.database.store.orders, o.createdAt.FourDigitYear := by
  intro o member
  by_cases there : o.id ∈ w.database.store.ids .order
  · obtain ⟨row, found, same⟩ := List.mem_map.1 there
    obtain ⟨later, member', cursor, -⟩ := remains_after_turn sound t found
    have named : later.id = o.id := (congrArg Cursor.id cursor).trans same
    obtain rfl := eq_of_key_eq ((t.take_sound sound).keyed.ids .order) member' member named
    have time : later.createdAt = row.createdAt := congrArg Cursor.createdAt cursor
    exact time ▸ dated row found
  · rw [t.take_store sound] at member
    obtain ⟨⟨fresh', r, asked, -, time⟩, -⟩ := t.call.created_step sound.keyed member there
    exact time ▸ fresh fresh' r asked

theorem invariant_turn (holds : r.Invariant tenantId) {t : Turn} (fresh : (Event.other t).Dated) :
    (step tenantId status r (.other t)).Invariant tenantId where
  sound := t.take_sound holds.sound
  dated := dated_after_turn holds.sound fresh holds.dated
  descends := holds.descends
  remains := fun o member => by
    obtain ⟨own, row, there, cursor, tenant⟩ := holds.remains o member
    obtain ⟨later, there', cursor', tenant'⟩ := remains_after_turn holds.sound t there
    exact ⟨own, later, there', cursor'.trans cursor, tenant'.trans tenant⟩
  begins := holds.begins
  resumes := holds.resumes
  counted := holds.counted

/-! ## Reading a page -/

/-- What the client asks for with a token. -/
def asks (tenantId : Uuid) (status : Option OrderStatus) (token : Option String) : Orders.Filter :=
  ⟨tenantId, status, Orders.cursorOf? token⟩

/-- The rows that the client is given for a token. -/
def given (tenantId : Uuid) (status : Option OrderStatus) (r : Reading) (token : Option String)
    (asked : Option Int) : List OrderRow :=
  Orders.pageRows r.store (asks tenantId status token) (pageLimit asked)

/-- The token of the page after. -/
def token? (tenantId : Uuid) (status : Option OrderStatus) (r : Reading) (token : Option String)
    (asked : Option Int) : Option String :=
  Orders.nextToken?
    (Orders.newest r.store (asks tenantId status token) (pageLimit asked + 1))
    (pageLimit asked)

/-- A page that is read leaves the world alone; it is given to the client, or cannot be had since
some line cannot be read. -/
theorem step_page (sound : r.world.Sound) {token : Option String}
    (asking : r.reader = .asking token) (asked : Option Int) :
    ((∃ e, Orders.shown r.store (given tenantId status r token asked) = .error e) ∧
      step tenantId status r (.page asked) = r) ∨
    ∃ page, page.data.map (·.toOrderRow) = given tenantId status r token asked ∧
      page.nextCursor = token? tenantId status r token asked ∧
      step tenantId status r (.page asked) = ⟨r.world, next page, r.pages ++ [page]⟩ := by
  have listing : Orders.list tenantId status token asked r.world.database =
      ((Orders.shown r.store (given tenantId status r token asked)).map fun data =>
        ⟨data, token? tenantId status r token asked, pageLimit asked⟩, r.world.database) :=
    Orders.list_apply sound.serving tenantId status token asked
  cases read : Orders.shown r.store (given tenantId status r token asked) with
  | error e =>
    simp only [read, Except.map] at listing
    refine .inl ⟨⟨e, rfl⟩, ?_⟩
    simp only [step, asking, Service.db, listing]
    rw [← asking]
  | ok data =>
    simp only [read, Except.map] at listing
    refine .inr ⟨⟨data, token? tenantId status r token asked, pageLimit asked⟩,
      Orders.rows_of_shown read, rfl, ?_⟩
    simp only [step, asking, Service.db, listing]

/-- Where all lines can be read the page is given. -/
theorem step_page_of_readable (sound : r.world.Sound)
    (readable : ∀ l ∈ r.store.lines, l.read?.isSome = true) {token : Option String}
    (asking : r.reader = .asking token) (asked : Option Int) :
    ∃ page, page.data.map (·.toOrderRow) = given tenantId status r token asked ∧
      page.nextCursor = token? tenantId status r token asked ∧
      step tenantId status r (.page asked) = ⟨r.world, next page, r.pages ++ [page]⟩ := by
  rcases step_page sound asking asked with ⟨⟨e, failed⟩, -⟩ | read
  · obtain ⟨data, shown⟩ :=
      Orders.shown_of_readable readable (given tenantId status r token asked)
    cases failed.symm.trans shown
  · exact read

/-- Then the client asks on with the token of the page. -/
theorem asking_of_token? (sound : r.world.Sound)
    (readable : ∀ l ∈ r.store.lines, l.read?.isSome = true) {token : Option String}
    (asking : r.reader = .asking token) {asked : Option Int} {token' : String}
    (more : token? tenantId status r token asked = some token') :
    (step tenantId status r (.page asked)).reader = .asking (some token') := by
  obtain ⟨page, -, follows, read⟩ := step_page_of_readable sound readable asking asked
  rw [read, next, follows, more]

theorem step_finished (done : r.reader = .finished) (asked : Option Int) :
    step tenantId status r (.page asked) = r := by
  simp only [step, done]

/-- What an event makes of the store: reading a page leaves it alone. -/
def Event.after (s : Store) : Event → Store
  | .page _ => s
  | .other t => t.call.step s

theorem step_store (sound : r.world.Sound) (e : Event) :
    (step tenantId status r e).store = e.after r.store := by
  cases e with
  | other t => exact t.take_store sound
  | page asked =>
    cases asking : r.reader with
    | finished => rw [step_finished asking]; rfl
    | asking token =>
      rcases step_page sound asking asked with ⟨-, failed⟩ | ⟨page, -, -, read⟩
      · rw [failed]; rfl
      · rw [read]; rfl

theorem listed_concat (w : World) (reader : Reader) (pages : List OrdersPage) (page : OrdersPage) :
    listed ⟨w, reader, pages ++ [page]⟩ =
      listed ⟨w, reader, pages⟩ ++ page.data.map (·.toOrderRow) := by
  simp [listed, List.flatMap_append]

theorem eq_or_of_getLast? {α : Type} {R : α → α → Prop} {l : List α} (ordered : l.Pairwise R)
    {last : α} (found : l.getLast? = some last) : ∀ a ∈ l, a = last ∨ R a last := by
  obtain ⟨front, rfl⟩ := List.getLast?_eq_some_iff.1 found
  intro a member
  rcases List.mem_append.1 member with before | here
  · exact .inr ((List.pairwise_append.1 ordered).2.2 a before last (List.mem_singleton_self _))
  · exact .inl (List.mem_singleton.1 here)

/-- The row that was given last is the position that the next token stands for. -/
theorem below_of_resume (holds : r.Invariant tenantId) {token : String}
    (asking : r.reader = .asking (some token)) :
    ∃ last, r.listed.getLast? = some last ∧
      Orders.cursorOf? (some token) = some last.cursor := by
  obtain ⟨last, found, rfl⟩ := holds.resumes token asking
  obtain ⟨-, row, there, cursor, -⟩ := holds.remains last (List.mem_of_getLast? found)
  have year : last.cursor.createdAt.FourDigitYear := cursor ▸ holds.dated row there
  exact ⟨last, found, Orders.cursorOf?_encode year⟩

/-- An order that a client is to be given: its tenant's, and in the state asked for if any. -/
def Wanted (tenantId : Uuid) (status : Option OrderStatus) (o : OrderRow) : Prop :=
  o.tenantId = tenantId ∧ ∀ asked, status = some asked → o.status = asked.name

theorem admits_iff {token : Option String} {o : OrderRow} :
    (asks tenantId status token).admits o = true ↔ Wanted tenantId status o ∧
      ∀ c, Orders.cursorOf? token = some c → o.cursor.before c = true := by
  simp only [Orders.Filter.admits, asks, Wanted, Bool.and_eq_true, beq_iff_eq,
    Option.all_eq_true]

theorem mem_given {token : Option String} {asked : Option Int} {o : OrderRow}
    (member : o ∈ given tenantId status r token asked) :
    o ∈ r.store.orders ∧ Wanted tenantId status o ∧
      ∀ c, Orders.cursorOf? token = some c → o.cursor.before c = true := by
  obtain ⟨there, admitted⟩ := Orders.mem_of_mem_pageRows member
  exact ⟨there, admits_iff.1 admitted⟩

/-- What a page gives lies below everything that was given before. -/
theorem given_below (holds : r.Invariant tenantId) {token : Option String}
    (asking : r.reader = .asking token) {asked : Option Int} {a b : OrderRow} (old : a ∈ r.listed)
    (new : b ∈ given tenantId status r token asked) : b.cursor.before a.cursor = true := by
  cases token with
  | none =>
    rw [listed, holds.begins asking] at old
    exact absurd old List.not_mem_nil
  | some token =>
    obtain ⟨last, found, below⟩ := below_of_resume holds asking
    have under := (mem_given new).2.2 last.cursor below
    rcases eq_or_of_getLast? holds.descends found a old with rfl | above
    · exact under
    · exact Cursor.before_trans under above

/-- The next token is the position of the last row given, and what was asked for and not given lies
below it. -/
theorem last_of_token? (keyed : r.store.Keyed) {token : Option String} {asked : Option Int}
    {token' : String} (more : token? tenantId status r token asked = some token') :
    ∃ last ∈ given tenantId status r token asked,
      (r.listed ++ given tenantId status r token asked).getLast? = some last ∧
      token' = last.cursor.encode ∧
      ∀ o ∈ r.store.orders, (asks tenantId status token).admits o = true →
        o ∈ given tenantId status r token asked ∨ o.cursor.before last.cursor = true := by
  obtain ⟨last, found, same, rest⟩ := Orders.nextToken?_eq_some keyed more
  have found : (given tenantId status r token asked).getLast? = some last := found
  exact ⟨last, List.mem_of_getLast? found, by rw [List.getLast?_append, found]; rfl, same, rest⟩

theorem invariant_page (holds : r.Invariant tenantId) (asked : Option Int) :
    (step tenantId status r (.page asked)).Invariant tenantId := by
  cases asking : r.reader with
  | finished =>
    rw [step_finished asking]
    exact holds
  | asking token =>
    rcases step_page holds.sound asking asked with ⟨-, failed⟩ | ⟨page, rows, follows, read⟩
    · rw [failed]
      exact holds
    rw [read]
    have listed : Reading.listed ⟨r.world, next page, r.pages ++ [page]⟩ =
        r.listed ++ given tenantId status r token asked := by
      rw [listed_concat, rows]
      rfl
    have counted := holds.counted
    rw [asking, if_neg Reader.noConfusion] at counted
    have descends : (r.listed ++ given tenantId status r token asked).Pairwise
        fun a b => b.cursor.before a.cursor = true :=
      List.pairwise_append.2 ⟨holds.descends, Orders.pageRows_descends holds.sound.keyed _ _,
        fun a old b new => given_below holds asking old new⟩
    have remains : ∀ o ∈ r.listed ++ given tenantId status r token asked, o.tenantId = tenantId ∧
        ∃ row ∈ r.store.orders, row.cursor = o.cursor ∧ row.tenantId = tenantId := by
      intro o member
      rcases List.mem_append.1 member with old | new
      · exact holds.remains o old
      · obtain ⟨there, ⟨own, -⟩, -⟩ := mem_given new
        exact ⟨own, o, there, rfl, own⟩
    unfold next at listed ⊢
    rw [follows] at listed ⊢
    cases more : token? tenantId status r token asked with
    | none =>
      rw [more] at listed
      refine ⟨holds.sound, holds.dated, listed ▸ descends, listed ▸ remains, fun begins => ?_,
        fun token' resumes => ?_, ?_⟩
      · cases begins
      · cases resumes
      · rw [listed, List.length_append, List.length_append, if_pos rfl]
        exact Nat.add_le_add_right (Nat.le_trans counted (Nat.le_add_right ..)) 1
    | some token' =>
      rw [more] at listed
      obtain ⟨last, member, found, same, -⟩ := last_of_token? holds.sound.keyed more
      have positive := List.length_pos_of_mem member
      refine ⟨holds.sound, holds.dated, listed ▸ descends, listed ▸ remains, fun begins => ?_,
        fun token'' resumes => ?_, ?_⟩
      · cases begins
      · cases resumes
        exact ⟨last, listed ▸ found, same⟩
      · rw [listed, List.length_append, List.length_append, List.length_singleton,
          if_neg Reader.noConfusion]
        omega

/-- An event leaves what holds between events. -/
theorem invariant_step (holds : r.Invariant tenantId) {e : Event} (dated : e.Dated) :
    (step tenantId status r e).Invariant tenantId := by
  cases e with
  | page asked => exact invariant_page holds asked
  | other t => exact invariant_turn holds dated

/-! ## Rows that match all along -/

/-- A row that the client has been given or has yet to be given. -/
def Due (r : Reading) (position : Cursor) : Prop :=
  (∃ o ∈ r.listed, o.cursor = position) ∨ r.reader = .asking none ∨
    ∃ token last, r.reader = .asking (some token) ∧ r.listed.getLast? = some last ∧
      position.before last.cursor = true

theorem due_page (holds : r.Invariant tenantId) {row : OrderRow} (due : r.Due row.cursor)
    (there : row ∈ r.store.orders) (wanted : Wanted tenantId status row) (asked : Option Int) :
    (step tenantId status r (.page asked)).Due row.cursor := by
  cases asking : r.reader with
  | finished =>
    rw [step_finished asking]
    exact due
  | asking token =>
    rcases step_page holds.sound asking asked with ⟨-, failed⟩ | ⟨page, rows, follows, read⟩
    · rw [failed]
      exact due
    rw [read]
    have listed : Reading.listed ⟨r.world, next page, r.pages ++ [page]⟩ =
        r.listed ++ given tenantId status r token asked := by
      rw [listed_concat, rows]
      rfl
    by_cases old : ∃ o ∈ r.listed, o.cursor = row.cursor
    · obtain ⟨o, member, same⟩ := old
      exact .inl ⟨o, listed ▸ List.mem_append_left _ member, same⟩
    have admitted : (asks tenantId status token).admits row = true := by
      refine admits_iff.2 ⟨wanted, fun c below => ?_⟩
      rcases due with given | begins | ⟨token', last, resumes, found, under⟩
      · exact absurd given old
      · rw [asking] at begins
        cases begins
        cases below
      · rw [asking] at resumes
        cases resumes
        obtain ⟨last', found', stands⟩ := below_of_resume holds asking
        rw [found] at found'
        cases found'
        rw [stands] at below
        cases below
        exact under
    cases more : token? tenantId status r token asked with
    | none =>
      have shown := Orders.mem_pageRows_of_last (Orders.pageLimit_pos asked) more there admitted
      exact .inl ⟨row, listed ▸ List.mem_append_right _ shown, rfl⟩
    | some token' =>
      obtain ⟨last, -, found, same, rest⟩ := last_of_token? holds.sound.keyed more
      rcases rest row there admitted with shown | below
      · exact .inl ⟨row, listed ▸ List.mem_append_right _ shown, rfl⟩
      · refine .inr (.inr ⟨token', last, ?_, listed ▸ found, below⟩)
        simp only [next, follows, more]

/-! ## Runs -/

theorem run_append (r : Reading) (before after : List Event) :
    r.run tenantId status (before ++ after) =
      (r.run tenantId status before).run tenantId status after :=
  List.foldl_append

theorem run_cons (r : Reading) (e : Event) (rest : List Event) :
    r.run tenantId status (e :: rest) = (step tenantId status r e).run tenantId status rest := rfl

theorem invariant_run (holds : r.Invariant tenantId) {events : List Event}
    (dated : ∀ e ∈ events, e.Dated) : (r.run tenantId status events).Invariant tenantId := by
  induction events generalizing r with
  | nil => exact holds
  | cons e rest ih =>
    rw [run_cons]
    exact ih (invariant_step holds (dated e List.mem_cons_self)) fun x member =>
      dated x (List.mem_cons_of_mem e member)

/-- The store is what the calls of the others have made of it. -/
theorem run_store (holds : r.Invariant tenantId) {events : List Event}
    (dated : ∀ e ∈ events, e.Dated) :
    (r.run tenantId status events).store = events.foldl Event.after r.store := by
  induction events generalizing r with
  | nil => rfl
  | cons e rest ih =>
    rw [run_cons, List.foldl_cons, ← step_store holds.sound]
    exact ih (invariant_step holds (dated e List.mem_cons_self)) fun x member =>
      dated x (List.mem_cons_of_mem e member)

/-- Until the client asks for a page it has none. -/
theorem asking_of_no_page (begins : r.reader = .asking none) {events : List Event}
    (unread : ∀ asked, .page asked ∉ events) :
    (r.run tenantId status events).reader = .asking none := by
  induction events generalizing r with
  | nil => exact begins
  | cons e rest ih =>
    cases e with
    | page asked => exact absurd List.mem_cons_self (unread asked)
    | other t => exact ih begins fun asked member => unread asked (List.mem_cons_of_mem _ member)

/-- A row that matches between any two events is given or yet to be given. -/
theorem due_run (holds : r.Invariant tenantId) {position : Cursor} (due : r.Due position)
    {events : List Event} (dated : ∀ e ∈ events, e.Dated)
    (throughout : ∀ before after, events = before ++ after →
      ∃ row ∈ (r.run tenantId status before).store.orders, row.cursor = position ∧
        Wanted tenantId status row) :
    (r.run tenantId status events).Due position := by
  induction events generalizing r with
  | nil => exact due
  | cons e rest ih =>
    rw [run_cons]
    have dated' : ∀ x ∈ rest, x.Dated := fun x member => dated x (List.mem_cons_of_mem e member)
    refine ih (invariant_step holds (dated e List.mem_cons_self)) ?_ dated'
      fun before after same => throughout (e :: before) after (by rw [same, List.cons_append])
    cases e with
    | other t => exact due
    | page asked =>
      obtain ⟨row, there, rfl, wanted⟩ := throughout [] _ rfl
      exact due_page holds due there wanted asked

/-- What is listed in a run was read from the store by one of its pages. -/
theorem listed_run (holds : r.Invariant tenantId) {events : List Event}
    (dated : ∀ e ∈ events, e.Dated) :
    ∀ o ∈ (r.run tenantId status events).listed, o ∈ r.listed ∨
      ∃ before asked after, events = before ++ .page asked :: after ∧
        o ∈ (r.run tenantId status before).store.orders ∧ Wanted tenantId status o := by
  induction events generalizing r with
  | nil => exact fun o member => .inl member
  | cons e rest ih =>
    intro o member
    have dated' : ∀ x ∈ rest, x.Dated := fun x there => dated x (List.mem_cons_of_mem e there)
    rcases ih (invariant_step holds (dated e List.mem_cons_self)) dated' o member with
      old | ⟨before, asked, after, rfl, there, wanted⟩
    · cases e with
      | other t => exact .inl old
      | page asked =>
        cases asking : r.reader with
        | finished =>
          rw [step_finished asking] at old
          exact .inl old
        | asking token =>
          rcases step_page holds.sound asking asked with ⟨-, failed⟩ | ⟨page, rows, follows, read⟩
          · rw [failed] at old
            exact .inl old
          · rw [read, listed_concat, rows] at old
            rcases List.mem_append.1 old with old | new
            · exact .inl old
            · obtain ⟨there, wanted, -⟩ := mem_given new
              exact .inr ⟨[], asked, rest, rfl, there, wanted⟩
    · exact .inr ⟨e :: before, asked, after, rfl, there, wanted⟩

/-! ## How many pages -/

/-- Whether the client asks for a page. -/
def Event.isPage : Event → Bool
  | .page _ => true
  | .other _ => false

theorem finished_run (done : r.reader = .finished) (events : List Event) :
    (r.run tenantId status events).reader = .finished := by
  induction events generalizing r with
  | nil => exact done
  | cons e rest ih =>
    cases e with
    | other t => exact ih done
    | page asked =>
      rw [run_cons, step_finished done]
      exact ih done

/-- While the lines of all orders can be read, every page that is asked for is given. -/
theorem pages_run (sound : r.world.Sound) (readable : ∀ l ∈ r.store.lines, l.read?.isSome = true)
    {events : List Event} (unfinished : (r.run tenantId status events).reader ≠ .finished) :
    (r.run tenantId status events).pages.length = r.pages.length + events.countP Event.isPage := by
  induction events generalizing r with
  | nil => rfl
  | cons e rest ih =>
    rw [run_cons] at unfinished ⊢
    cases e with
    | other t =>
      have readable' : ∀ l ∈ (t.take r.world).2.database.store.lines, l.read?.isSome = true := by
        rw [t.take_store sound]
        exact t.call.readable_step readable
      rw [ih (t.take_sound sound) readable' unfinished]
      rfl
    | page asked =>
      cases asking : r.reader with
      | finished =>
        rw [step_finished asking] at unfinished
        exact absurd (finished_run asking rest) unfinished
      | asking token =>
        obtain ⟨page, -, -, read⟩ := step_page_of_readable sound readable asking asked
        rw [read] at unfinished ⊢
        have later := ih (r := ⟨r.world, next page, r.pages ++ [page]⟩) sound readable unfinished
        rw [later, List.length_append, List.length_singleton, List.countP_cons_of_pos (by rfl)]
        omega

/-! ## The whole listing -/

theorem dated_listed (holds : r.Invariant tenantId) :
    ∀ o ∈ r.listed, o.cursor.createdAt.FourDigitYear := by
  intro o member
  obtain ⟨-, row, there, same, -⟩ := holds.remains o member
  exact same ▸ holds.dated row there

/-- Rows of a listing descend by time and id. -/
theorem listed_descends (holds : r.Invariant tenantId) :
    r.listed.Pairwise fun a b => b.cursor.Earlier a.cursor :=
  List.Pairwise.imp_of_mem (fun memberA memberB before =>
    (Cursor.before_iff_earlier (dated_listed holds _ memberB) (dated_listed holds _ memberA)).1
      before) holds.descends

/-- No row is given twice. -/
theorem nodup_listed (holds : r.Invariant tenantId) : (r.listed.map (·.id)).Nodup := by
  rw [List.Nodup, List.pairwise_map]
  refine List.Pairwise.imp_of_mem (fun {a b} memberA memberB before same => ?_) holds.descends
  obtain ⟨-, rowA, thereA, cursorA, -⟩ := holds.remains a memberA
  obtain ⟨-, rowB, thereB, cursorB, -⟩ := holds.remains b memberB
  have ids : rowA.id = rowB.id :=
    ((congrArg Cursor.id cursorA).trans same).trans (congrArg Cursor.id cursorB).symm
  obtain rfl := eq_of_key_eq (holds.sound.keyed.ids .order) thereA thereB ids
  rw [← cursorA, ← cursorB, Cursor.not_before_self] at before
  cases before

/-- There are at most as many rows as the tenant has orders. -/
theorem length_listed_le (holds : r.Invariant tenantId) :
    r.listed.length ≤ (r.store.orders.filter fun o => o.tenantId == tenantId).length := by
  have among : r.listed.map (·.id) ⊆
      (r.store.orders.filter fun o => o.tenantId == tenantId).map (·.id) := by
    intro id member
    obtain ⟨o, listed, rfl⟩ := List.mem_map.1 member
    obtain ⟨-, row, there, same, own⟩ := holds.remains o listed
    exact List.mem_map.2 ⟨row, List.mem_filter.2 ⟨there, beq_iff_eq.2 own⟩, congrArg Cursor.id same⟩
  have bound := (List.subperm_of_subset (nodup_listed holds) among).length_le
  rwa [List.length_map, List.length_map] at bound

/-- An order that is there remains there, at its position. -/
theorem remains_run (holds : r.Invariant tenantId) {events : List Event}
    (dated : ∀ e ∈ events, e.Dated) {o : OrderRow} (member : o ∈ r.store.orders) :
    ∃ row ∈ (r.run tenantId status events).store.orders, row.cursor = o.cursor := by
  induction events generalizing r o with
  | nil => exact ⟨o, member, rfl⟩
  | cons e rest ih =>
    have stays : ∃ row ∈ (step tenantId status r e).store.orders, row.cursor = o.cursor := by
      cases e with
      | page asked => exact ⟨o, by rw [step_store holds.sound]; exact member, rfl⟩
      | other t =>
        obtain ⟨row, there, same, -⟩ := remains_after_turn holds.sound t member
        exact ⟨row, there, same⟩
    obtain ⟨row, there, same⟩ := stays
    obtain ⟨last, there', same'⟩ := ih (invariant_step holds (dated e List.mem_cons_self))
      (fun x later => dated x (List.mem_cons_of_mem e later)) there
    exact ⟨last, there', same'.trans same⟩

/-- A client that has finished was given every row that matched all along. -/
theorem given_of_finished (holds : r.Invariant tenantId) (begins : r.reader = .asking none)
    {events : List Event} (dated : ∀ e ∈ events, e.Dated)
    (finished : (r.run tenantId status events).reader = .finished) {o : OrderRow}
    (member : o ∈ r.store.orders)
    (throughout : ∀ before after, events = before ++ after →
      ∃ row ∈ (r.run tenantId status before).store.orders, row.id = o.id ∧
        Wanted tenantId status row) :
    ((r.run tenantId status events).listed.map (·.id)).count o.id = 1 := by
  have due : (r.run tenantId status events).Due o.cursor := by
    refine due_run holds (.inr (.inl begins)) dated fun before after same => ?_
    obtain ⟨row, there, named, wanted⟩ := throughout before after same
    have dated' : ∀ e ∈ before, e.Dated := fun e earlier =>
      dated e (same ▸ List.mem_append_left after earlier)
    have kept : ∃ row ∈ (r.run tenantId status before).store.orders, row.cursor = o.cursor :=
      remains_run holds dated' member
    obtain ⟨row', there', position⟩ := kept
    have ids : row.id = row'.id := named.trans (congrArg Cursor.id position).symm
    have keyed : (r.run tenantId status before).store.Keyed :=
      (invariant_run holds dated').sound.keyed
    obtain rfl := eq_of_key_eq (keyed.ids .order) there there' ids
    exact ⟨row, there, position, wanted⟩
  have given : o.id ∈ (r.run tenantId status events).listed.map (·.id) := by
    rcases due with ⟨row, listed, position⟩ | unread | ⟨token, last, unread, -⟩
    · exact List.mem_map.2 ⟨row, listed, congrArg Cursor.id position⟩
    · rw [finished] at unread
      cases unread
    · rw [finished] at unread
      cases unread
  exact List.count_eq_one_of_mem (nodup_listed (invariant_run holds dated)) given

/-- Whatever happens between the pages: the rows of all pages together descend strictly by time and
id, and none comes twice; each was read from the store as an order of the tenant in the state asked
for; and when the client has finished, every order that was there before the first page and matched
all along was given exactly once. There are at most as many pages as the tenant has orders, and one
more; and where lines can be read no page is refused. -/
theorem paging_exact {w : World} (sound : w.Sound)
    (dated : ∀ o ∈ w.database.store.orders, o.createdAt.FourDigitYear) {events : List Event}
    (fresh : ∀ e ∈ events, e.Dated) (tenantId : Uuid) (status : Option OrderStatus) :
    let r := (start w).run tenantId status events
    (r.listed.Pairwise fun a b => b.cursor.Earlier a.cursor) ∧
      (r.listed.map (·.id)).Nodup ∧
      (∀ o ∈ r.listed, ∃ before asked after, events = before ++ .page asked :: after ∧
        o ∈ ((start w).run tenantId status before).store.orders ∧ Wanted tenantId status o) ∧
      (r.reader = .finished → ∀ first rest, events = first ++ rest →
        (∀ asked, .page asked ∉ first) →
        ∀ o ∈ ((start w).run tenantId status first).store.orders,
        (∀ before after, rest = before ++ after →
          ∃ row ∈ ((start w).run tenantId status (first ++ before)).store.orders,
            row.id = o.id ∧ Wanted tenantId status row) →
        (r.listed.map (·.id)).count o.id = 1) ∧
      r.pages.length ≤ (r.store.orders.filter fun o => o.tenantId == tenantId).length + 1 ∧
      ((∀ l ∈ w.database.store.lines, l.read?.isSome = true) → r.reader ≠ .finished →
        r.pages.length = events.countP Event.isPage) := by
  intro r
  have begins : (start w).Invariant tenantId := invariant_start sound dated
  have holds : r.Invariant tenantId := invariant_run begins fresh
  refine ⟨listed_descends holds, nodup_listed holds, fun o member => ?_,
    fun finished first rest same unread o member throughout => ?_, ?_,
    fun readable unfinished => ?_⟩
  · rcases listed_run begins fresh o member with listed | read
    · exact absurd listed List.not_mem_nil
    · exact read
  · subst same
    have fresh' : ∀ e ∈ first, e.Dated := fun e there => fresh e (List.mem_append_left rest there)
    have split : r = ((start w).run tenantId status first).run tenantId status rest :=
      run_append (start w) first rest
    rw [split] at finished ⊢
    refine given_of_finished (invariant_run begins fresh') (asking_of_no_page rfl unread)
      (fun e there => fresh e (List.mem_append_right first there)) finished member
      fun before after same => ?_
    rw [← run_append]
    exact throughout before after same
  · have counted := holds.counted
    have bound := length_listed_le holds
    split at counted <;> omega
  · have counted := pages_run sound readable unfinished
    rw [counted]
    exact Nat.zero_add _

end Reading

namespace Sample

/-- An order at the same time as `order`. -/
def twin : OrderRow := { order with id := .ofNat 31 }

def rush : World :=
  ⟨⟨{ store [] with orders := [later, twin, order] }, Entity.all, true, true, true, none⟩, [], 0,
    []⟩

/-- While the listing is read another coffee is ordered, an order done, and the coffee gets
dearer. -/
def reading : List Reading.Event :=
  [.page (some 1), .other ⟨server, refill, 1, fun _ => true⟩,
    .other ⟨server, finish, 1, fun _ => true⟩, .page (some 1),
    .other ⟨server, raise, 1, fun _ => true⟩, .page none, .page none, .page none, .page none]

theorem rush_sound : rush.Sound := ⟨⟨rfl, Entity.mem_all⟩, by decide⟩

theorem rush_dated : ∀ o ∈ rush.database.store.orders, o.createdAt.FourDigitYear := by decide

theorem rush_readable : ∀ l ∈ rush.database.store.lines, l.read?.isSome = true := by decide

theorem reading_dated : ∀ e ∈ reading, e.Dated := by
  have noon : Sample.noon.FourDigitYear := by decide
  simp [reading, Reading.Event.Dated, refill, finish, raise, Call.creates, noon]

/-- The listing of the waiting orders after some of the events. -/
def waiting (before : List Reading.Event) : Reading :=
  (Reading.start rush).run cafe.id (some .waiting) before

theorem waiting_invariant {before : List Reading.Event} (part : before <+: reading) :
    (waiting before).Invariant cafe.id :=
  Reading.invariant_run (Reading.invariant_start rush_sound rush_dated) fun e member =>
    reading_dated e (part.subset member)

theorem waiting_store {before : List Reading.Event} (part : before <+: reading) :
    (waiting before).store = before.foldl Reading.Event.after rush.database.store :=
  Reading.run_store (Reading.invariant_start rush_sound rush_dated) fun e member =>
    reading_dated e (part.subset member)

/-- The twin waits all along. -/
theorem twin_mem {before : List Reading.Event} (part : before <+: reading) :
    twin ∈ (waiting before).store.orders := by
  have stays : (reading.inits.all fun before => decide
      (twin ∈ (before.foldl Reading.Event.after rush.database.store).orders)) = true := by
    decide +kernel
  rw [waiting_store part]
  exact of_decide_eq_true (List.all_eq_true.1 stays before ((List.mem_inits _ _).2 part))

theorem first_page : (waiting (reading.take 1)).reader = .asking (some later.cursor.encode) := by
  have newest : Orders.newest rush.database.store (Reading.asks cafe.id (some .waiting) none) 2 =
      [later, twin] := by
    rw [Orders.newest, List.mergeSort_of_pairwise (by decide +kernel)]
    decide +kernel
  exact Reading.asking_of_token? (r := Reading.start rush) rush_sound rush_readable rfl
    (congrArg (Orders.nextToken? · 1) newest)

/-- Below the token of the first page are the twin and the order that was placed meanwhile. -/
theorem second_page : (waiting (reading.take 4)).reader = .asking (some twin.cursor.encode) := by
  have between := waiting_store (List.take_prefix 3 reading)
  have newest : Orders.newest (waiting (reading.take 3)).store
      (Reading.asks cafe.id (some .waiting) (some later.cursor.encode)) 2 =
        [twin, { order with id := .ofNat 20 }] := by
    rw [between, Reading.asks, Orders.cursorOf?_encode (by decide), Orders.newest,
      List.mergeSort_of_pairwise (by decide +kernel)]
    decide +kernel
  have split : reading.take 4 = reading.take 3 ++ [.page (some 1)] := rfl
  rw [waiting, split, Reading.run_append]
  exact Reading.asking_of_token? (waiting_invariant (List.take_prefix 3 reading)).sound
    (between ▸ by decide +kernel) first_page (congrArg (Orders.nextToken? · 1) newest)

end Sample

namespace Reading

/-- The first page leaves a token, and before it is used an order is placed and another one done.
The page that is read with it leads on, and the order that waited all along was given once. -/
theorem paging_exact_cafe :
    (Sample.waiting (Sample.reading.take 1)).reader = .asking (some Sample.later.cursor.encode) ∧
      (Sample.waiting (Sample.reading.take 4)).reader =
        .asking (some Sample.twin.cursor.encode) ∧
      (Sample.waiting Sample.reading).reader = .finished ∧
      ((Sample.waiting Sample.reading).listed.Pairwise fun a b => b.cursor.Earlier a.cursor) ∧
      ((Sample.waiting Sample.reading).listed.map (·.id)).count Sample.twin.id = 1 := by
  obtain ⟨descends, -, -, once, few, served⟩ := paging_exact Sample.rush_sound Sample.rush_dated
    Sample.reading_dated Sample.cafe.id (some .waiting)
  -- The client asks more often than there are orders, so that it must have been told the end.
  have finished : (Sample.waiting Sample.reading).reader = .finished := by
    by_contra unfinished
    have pages := served Sample.rush_readable unfinished
    have store := Sample.waiting_store (List.prefix_refl Sample.reading)
    rw [Sample.waiting] at store
    rw [pages, store] at few
    exact absurd few (by decide +kernel)
  refine ⟨Sample.first_page, Sample.second_page, finished, descends, ?_⟩
  refine once finished [] Sample.reading rfl (fun _ => List.not_mem_nil) Sample.twin (by decide) ?_
  intro before after same
  exact ⟨Sample.twin, Sample.twin_mem ⟨after, same.symm⟩, rfl, rfl, fun asked same => by
    cases same
    rfl⟩

end Reading

end Tableside
