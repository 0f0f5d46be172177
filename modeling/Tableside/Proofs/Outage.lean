import Tableside.Proofs.Calls

/-!
# Databases that stop answering

A database may stop answering in the middle of a call, and may lack a table. What a call then leaves
is compared with what it would have left on the same rows in a database that is awake and answers
everything. An operation that does not fail with the database has the same outcome there
(`Db.Steady`); one that does has written nothing, or all that it would have written there
(`Db.Follows`), since the questions come before the only write or the writes stand in a transaction.
Tables neither come nor go (`Db.Stands`). So every call leaves the rows as they were or as the call comes to (`Call.run_store`), and this is
all that can happen to the rows in a run during which the database stops as it pleases.
-/

namespace Tableside

/-- The same rows in a database that answers everything. -/
def Database.awake (d : Database) : Database :=
  { d with answers := none, tables := Entity.all }

theorem Database.awake_serving (d : Database) : d.awake.Serving where
  answers := rfl
  tables := Entity.mem_all

/-- The database when it takes up a statement. -/
def Database.asked (d : Database) : Database :=
  { d with answers := d.answers.map (· - 1) }

/-! ## Runs of statements -/

namespace Db

variable {α β : Type} {m : Db α} {k : α → Db β}

/-- Any answer but the failure of the database is the one of the awake database, with the same
rows after it. -/
def Steady (m : Db α) : Prop :=
  ∀ ⦃d answer d'⦄, m d = (answer, d') → answer ≠ .error .database → m d.awake = (answer, d'.awake)

/-- What fails has changed no row. -/
def Atomic (m : Db α) : Prop :=
  ∀ ⦃d e d'⦄, m d = (.error e, d') → d'.store = d.store

/-- Nothing is ever changed but the number of answers that are left. -/
def Asks (m : Db α) : Prop :=
  ∀ d, ∃ answers, (m d).2 = { d with answers }

/-- No table comes or goes. -/
def Stands (m : Db α) : Prop :=
  ∀ d, (m d).2.tables = d.tables

/-- The rows are left as they were, or as they would have been on the awake database. -/
structure Follows (m : Db α) : Prop where
  rows : ∀ d, (m d).2.store = d.store ∨ (m d).2.store = (m d.awake).2.store
  stands : m.Stands

theorem Asks.store (asks : m.Asks) (d : Database) : (m d).2.store = d.store := by
  obtain ⟨answers, same⟩ := asks d
  rw [same]

theorem Asks.stands (asks : m.Asks) : m.Stands := by
  intro d
  obtain ⟨answers, same⟩ := asks d
  rw [same]

/-! ### One statement -/

/-- A statement is not taken up, is refused, or is answered. -/
theorem run_cases (s : Statement α) (d : Database) :
    (d.answers = some 0 ∧ run s d = (.error .database, d)) ∨
    d.answers ≠ some 0 ∧
      ((∃ fault, s d.asked = .error fault ∧ run s d = (.error .database, d.asked)) ∨
        ∃ a d', s d.asked = .ok (a, d') ∧ run s d = (.ok a, d')) := by
  rw [run, Database.execute]
  by_cases stopped : d.answers = some 0
  · rw [if_pos stopped]
    exact .inl ⟨stopped, rfl⟩
  · rw [if_neg stopped]
    dsimp only
    refine .inr ⟨stopped, ?_⟩
    cases answered : s { d with answers := d.answers.map (· - 1) } with
    | error fault => exact .inl ⟨fault, answered, rfl⟩
    | ok result => exact .inr ⟨result.1, result.2, answered, rfl⟩

/-- A statement that is answered was taken up. -/
theorem run_ok {s : Statement α} {d d' : Database} {a : α} (ran : run s d = (.ok a, d')) :
    d.answers ≠ some 0 ∧ s d.asked = .ok (a, d') := by
  rcases run_cases s d with ⟨-, stopped⟩ | ⟨going, ⟨_, -, refused⟩ | ⟨b, d'', done, answered⟩⟩
  · rw [stopped] at ran
    cases ran
  · rw [refused] at ran
    cases ran
  · rw [answered] at ran
    cases ran
    exact ⟨going, done⟩

/-- A statement that fails was not taken up or refused. -/
theorem run_failed {s : Statement α} {d d' : Database} {e : ApiError}
    (ran : run s d = (.error e, d')) :
    e = .database ∧ ((d.answers = some 0 ∧ d' = d) ∨
      (∃ fault, s d.asked = .error fault) ∧ d' = d.asked) := by
  rcases run_cases s d with ⟨spent, stopped⟩ | ⟨-, ⟨fault, faulty, refused⟩ | ⟨_, _, -, answered⟩⟩
  · rw [stopped] at ran
    cases ran
    exact ⟨rfl, .inl ⟨spent, rfl⟩⟩
  · rw [refused] at ran
    cases ran
    exact ⟨rfl, .inr ⟨⟨fault, faulty⟩, rfl⟩⟩
  · rw [answered] at ran
    cases ran

/-- One statement fails only as the database does. -/
theorem run_error {s : Statement α} {d d' : Database} {e : ApiError}
    (ran : run s d = (.error e, d')) : e = .database :=
  (run_failed ran).1

theorem run_atomic (s : Statement α) : (run s).Atomic := by
  intro d e d' ran
  obtain ⟨-, ⟨-, rfl⟩ | ⟨-, rfl⟩⟩ := run_failed ran
  · rfl
  · rfl

/-- A statement is steady if its answer needs no more than the rows and its table. -/
theorem run_steady {s : Statement α}
    (same : ∀ ⦃d a d'⦄, s d = .ok (a, d') → s d.awake = .ok (a, d'.awake)) : (run s).Steady := by
  intro d answer d' ran answers
  cases answer with
  | error e => exact absurd (by rw [run_error ran]) answers
  | ok a =>
    obtain ⟨-, done⟩ := run_ok ran
    have awake : s d.awake = .ok (a, d'.awake) := same (d := d.asked) done
    rw [run, d.awake_serving.execute, awake]

/-- A statement asks if no answer of it comes with another database. -/
theorem run_asks {s : Statement α}
    (same : ∀ ⦃d a d'⦄, s d = .ok (a, d') → d' = d) : (run s).Asks := by
  intro d
  rcases run_cases s d with ⟨-, stopped⟩ | ⟨-, ⟨_, -, refused⟩ | ⟨a, d', done, answered⟩⟩
  · exact ⟨d.answers, by rw [stopped]⟩
  · exact ⟨_, by rw [refused]; rfl⟩
  · exact ⟨_, by rw [answered, same done]; rfl⟩

theorem select_steady (e : Entity) (ask : Store → α) : (select e ask).Steady := by
  refine run_steady fun d a d' answered => ?_
  rw [Statement.select] at answered
  split at answered
  · cases answered
    exact if_pos (d.awake_serving.tables e)
  · cases answered

theorem select_asks (e : Entity) (ask : Store → α) : (select e ask).Asks := by
  refine run_asks fun d a d' answered => ?_
  rw [Statement.select] at answered
  split at answered
  · cases answered
    rfl
  · cases answered

theorem writeOnly_steady (e : Entity) (change : Bool → Store → Except Fault Store) :
    (run (Statement.writeOnly e change)).Steady := by
  refine run_steady fun d a d' answered => ?_
  rw [Statement.writeOnly, Statement.write] at answered
  rw [Statement.writeOnly, Statement.write, if_pos (d.awake_serving.tables e)]
  change Except.map _ (Except.map _ (change d.foreignKeys d.store)) = _
  split at answered
  · cases written : change d.foreignKeys d.store with
    | error fault =>
      rw [written] at answered
      cases answered
    | ok s =>
      rw [written] at answered
      cases answered
      rfl
  · cases answered

theorem writeOnly_stands (e : Entity) (change : Bool → Store → Except Fault Store) :
    (run (Statement.writeOnly e change)).Stands := by
  intro d
  rcases run_cases (Statement.writeOnly e change) d with
    ⟨-, stopped⟩ | ⟨-, ⟨_, -, refused⟩ | ⟨a, d', done, answered⟩⟩
  · rw [stopped]
  · rw [refused]
    rfl
  · rw [answered]
    rw [Statement.writeOnly, Statement.write] at done
    split at done
    · cases written : change d.asked.foreignKeys d.asked.store with
      | error fault =>
        rw [written] at done
        cases done
      | ok s =>
        rw [written] at done
        cases done
        rfl
    · cases done

theorem mark_steady : (run .mark).Steady :=
  run_steady fun d a d' answered => by
    cases answered
    rfl

theorem mark_asks : (run .mark).Asks :=
  run_asks fun d a d' answered => by
    cases answered
    rfl

/-! ### Statements in turn -/

theorem pure_steady (a : α) : (pure a : Db α).Steady := by
  intro d answer d' ran _
  cases ran
  rfl

theorem pure_asks (a : α) : (pure a : Db α).Asks := fun d => ⟨d.answers, rfl⟩

theorem throw_steady (e : ApiError) : (throw e : Db α).Steady := by
  intro d answer d' ran _
  cases ran
  rfl

theorem throw_asks (e : ApiError) : (throw e : Db α).Asks := fun d => ⟨d.answers, rfl⟩

theorem Steady.bind (first : m.Steady) (next : ∀ a, (k a).Steady) : (m >>= k).Steady := by
  intro d answer d' ran answers
  rw [bind_apply] at ran
  split at ran
  · rename_i a between answered
    rw [bind_of_ok k (first answered ok_ne_error)]
    exact next a ran answers
  · rename_i answered
    cases ran
    rw [bind_of_error k (first answered fun same => answers (congrArg _ (Except.error.inj same)))]

/-- What is asked after a step leaves what the step has left. -/
theorem bind_asked (next : ∀ a, (k a).Asks) (d : Database) :
    ∃ answers, ((m >>= k) d).2 = { (m d).2 with answers } := by
  rw [bind_apply]
  split
  · rename_i a between answered
    rw [answered]
    exact next a between
  · rename_i answered
    rw [answered]
    exact ⟨_, rfl⟩

theorem Asks.bind (first : m.Asks) (next : ∀ a, (k a).Asks) : (m >>= k).Asks := by
  intro d
  obtain ⟨answers, after⟩ := bind_asked (m := m) next d
  obtain ⟨_, before⟩ := first d
  exact ⟨answers, by rw [after, before]⟩

theorem Stands.bind (first : m.Stands) (next : ∀ a, (k a).Stands) : (m >>= k).Stands := by
  intro d
  have before := first d
  rw [bind_apply]
  split
  · rename_i a between answered
    rw [answered] at before
    exact (next a between).trans before
  · rename_i answered
    rw [answered] at before
    exact before

theorem find_steady (e : Entity) (ask : Store → Option α) (missing : ApiError) :
    (find e ask missing).Steady := by
  refine (select_steady e ask).bind fun found => ?_
  cases found with
  | some a => exact pure_steady a
  | none => exact throw_steady missing

theorem find_asks (e : Entity) (ask : Store → Option α) (missing : ApiError) :
    (find e ask missing).Asks := by
  refine (select_asks e ask).bind fun found => ?_
  cases found with
  | some a => exact pure_asks a
  | none => exact throw_asks missing

/-! ### What is left -/

theorem Asks.follows (asks : m.Asks) : m.Follows := ⟨fun d => .inl (asks.store d), asks.stands⟩

theorem Steady.follows (steady : m.Steady) (atomic : m.Atomic) (stands : m.Stands) :
    m.Follows := by
  refine ⟨fun d => ?_, stands⟩
  cases ran : m d with
  | mk answer d' =>
    cases answer with
    | error e => exact .inl (atomic ran)
    | ok a => exact .inr (by rw [steady ran ok_ne_error]; rfl)

theorem writeOnly_follows (e : Entity) (change : Bool → Store → Except Fault Store) :
    (run (Statement.writeOnly e change)).Follows :=
  (writeOnly_steady e change).follows (run_atomic _) (writeOnly_stands e change)

/-- Questions may come first. -/
theorem Follows.after (asks : m.Asks) (steady : m.Steady) (next : ∀ a, (k a).Follows) :
    (m >>= k).Follows := by
  refine ⟨fun d => ?_, asks.stands.bind fun a => (next a).stands⟩
  cases ran : m d with
  | mk answer d' =>
    have same := asks.store d
    rw [ran] at same
    cases answer with
    | error e => exact .inl (by rw [bind_of_error k ran]; exact same)
    | ok a =>
      rw [bind_of_ok k ran, bind_of_ok k (steady ran ok_ne_error), ← same]
      exact (next a).rows d'

/-- Questions may come last. -/
theorem Follows.before (follows : m.Follows) (next : ∀ a, (k a).Asks) : (m >>= k).Follows := by
  refine ⟨fun d => ?_, follows.stands.bind fun a => (next a).stands⟩
  obtain ⟨_, here⟩ := bind_asked (m := m) next d
  obtain ⟨_, there⟩ := bind_asked (m := m) next d.awake
  rw [here, there]
  exact follows.rows d

theorem transaction_steady (steady : m.Steady) : (transaction m).Steady := by
  intro d answer d' ran answers
  rw [transaction] at ran
  split at ran
  · rename_i refused
    cases ran
    exact absurd (by rw [run_error refused]) answers
  rename_i begun
  split at ran
  · rename_i failed
    cases ran
    have other := steady failed fun same => answers (congrArg _ (Except.error.inj same))
    simp only [transaction, mark_steady begun ok_ne_error, other]
    rfl
  rename_i done
  split at ran
  · rename_i ended
    cases ran
    simp only [transaction, mark_steady begun ok_ne_error, steady done ok_ne_error,
      mark_steady ended ok_ne_error]
  · rename_i refused
    cases ran
    exact absurd (by rw [run_error refused]) answers

theorem transaction_atomic (m : Db α) : (transaction m).Atomic := by
  intro d e d' ran
  rw [transaction] at ran
  split at ran
  · rename_i refused
    cases ran
    exact run_atomic _ refused
  rename_i begun
  have same := mark_asks.store d
  rw [begun] at same
  split at ran
  · cases ran
    exact same
  split at ran
  · cases ran
  · cases ran
    exact same

theorem transaction_stands (stands : m.Stands) : (transaction m).Stands := by
  intro d
  have begins := mark_asks.stands d
  rw [transaction]
  split
  · rename_i refused
    rw [refused] at begins
    exact begins
  rename_i begun marked
  rw [marked] at begins
  have lasts := stands begun
  split
  · rename_i failed
    rw [failed] at lasts
    exact lasts.trans begins
  rename_i between done
  rw [done] at lasts
  have ends := mark_asks.stands between
  split
  · rename_i ended
    rw [ended] at ends
    exact ends.trans (lasts.trans begins)
  · rename_i refused
    rw [refused] at ends
    exact ends.trans (lasts.trans begins)

end Db

/-! ## Operations -/

namespace Orders

theorem readLines_asks (ids : List Uuid) : (readLines ids).Asks := Db.find_asks _ _ _

theorem attachTo_asks (row : OrderRow) : (attachTo row).Asks :=
  (readLines_asks _).bind fun _ => Db.pure_asks _

theorem attachTo_steady (row : OrderRow) : (attachTo row).Steady :=
  Db.Steady.bind (Db.find_steady _ _ _) fun _ => Db.pure_steady _

theorem list_asks (tenantId : Uuid) (status : Option OrderStatus) (token : Option String)
    (asked : Option Int) : (list tenantId status token asked).Asks := by
  refine (Db.select_asks _ _).bind fun rows => Db.Asks.bind ?_ fun _ => Db.pure_asks _
  rw [attachLines]
  split
  · exact Db.pure_asks _
  · exact (readLines_asks _).bind fun _ => Db.pure_asks _

theorem list_steady (tenantId : Uuid) (status : Option OrderStatus) (token : Option String)
    (asked : Option Int) : (list tenantId status token asked).Steady := by
  refine (Db.select_steady _ _).bind fun rows => Db.Steady.bind ?_ fun _ => Db.pure_steady _
  rw [attachLines]
  split
  · exact Db.pure_steady _
  · exact Db.Steady.bind (Db.find_steady _ _ _) fun _ => Db.pure_steady _

theorem get_asks (tenantId id : Uuid) : (get tenantId id).Asks :=
  (Db.find_asks _ _ _).bind attachTo_asks

theorem get_steady (tenantId id : Uuid) : (get tenantId id).Steady :=
  (Db.find_steady _ _ _).bind attachTo_steady

theorem setStatus_steady (tenantId id : Uuid) (status : OrderStatus) :
    (setStatus tenantId id status).Steady := by
  refine (Db.find_steady _ _ _).bind fun row => ?_
  have written : (Db.run (.updateStatus row.id status)).Steady := Db.writeOnly_steady _ _
  exact written.bind fun _ => (Db.find_steady _ _ _).bind attachTo_steady

theorem setStatus_follows (tenantId id : Uuid) (status : OrderStatus) :
    (setStatus tenantId id status).Follows := by
  refine .after (Db.find_asks _ _ _) (Db.find_steady _ _ _) fun row => ?_
  have written : (Db.run (.updateStatus row.id status)).Follows := Db.writeOnly_follows _ _
  exact written.before fun _ => (Db.find_asks _ _ _).bind attachTo_asks

theorem placeLines_steady (fresh : Fresh) (tenant : Tenant) (position : Nat)
    (lines : List LineRequest) : (placeLines fresh tenant position lines).Steady := by
  induction lines generalizing position with
  | nil => exact Db.pure_steady ()
  | cons line rest ih =>
    refine (Db.find_steady _ _ _).bind fun item => ?_
    have written := (Db.writeOnly_steady .line fun foreignKeys s =>
      s.insertLine foreignKeys (fresh.lineRow position item line)).bind fun _ =>
        Db.find_steady .line (fun s => (s.line? (fresh.lineRow position item line).id).bind
          LineRow.read?) .database
    exact written.bind fun _ => ih (position + 1)

theorem placeLines_stands (fresh : Fresh) (tenant : Tenant) (position : Nat)
    (lines : List LineRequest) : (placeLines fresh tenant position lines).Stands := by
  induction lines generalizing position with
  | nil => exact (Db.pure_asks ()).stands
  | cons line rest ih =>
    refine (Db.find_asks _ _ _).stands.bind fun item => ?_
    have written := (Db.writeOnly_stands .line fun foreignKeys s =>
      s.insertLine foreignKeys (fresh.lineRow position item line)).bind fun _ =>
        (Db.find_asks .line (fun s => (s.line? (fresh.lineRow position item line).id).bind
          LineRow.read?) .database).stands
    exact written.bind fun _ => ih (position + 1)

theorem create_follows (fresh : Fresh) (r : OrderRequest) : (create fresh r).Follows := by
  rw [create]
  split
  · exact (Db.throw_asks _).follows
  refine .after (Db.find_asks _ _ _) (Db.find_steady _ _ _) fun tenant => ?_
  refine .after (Db.find_asks _ _ _) (Db.find_steady _ _ _) fun table => ?_
  have written := (Db.writeOnly_steady .order fun foreignKeys s =>
    s.insertOrder foreignKeys (fresh.orderRow tenant table r)).bind fun _ =>
      Db.find_steady .order (fun s => s.order? (fresh.orderRow tenant table r).id) .database
  have stands := (Db.writeOnly_stands .order fun foreignKeys s =>
    s.insertOrder foreignKeys (fresh.orderRow tenant table r)).bind fun _ =>
      (Db.find_asks .order (fun s => s.order? (fresh.orderRow tenant table r).id) .database).stands
  exact (Db.transaction_steady <| written.bind fun _ =>
    (placeLines_steady _ _ _ _).bind fun _ => Db.pure_steady _).follows (Db.transaction_atomic _)
      (Db.transaction_stands <| stands.bind fun _ =>
        (placeLines_stands _ _ _ _).bind fun _ => (Db.pure_asks _).stands)

/-- A guest is told something else, but what is left is the same. -/
theorem place_database {fresh : Fresh} {r : OrderRequest} (checked : r.normalize.check = .ok ())
    (d : Database) : (place fresh r d).2 = (create fresh r.normalize d).2 := by
  rw [place, checked]
  dsimp only
  split
  · rename_i created
    rw [created]
  · rename_i created
    rw [created]

theorem place_follows (fresh : Fresh) (r : OrderRequest) : (place fresh r).Follows := by
  cases checked : r.normalize.check with
  | error e =>
    rw [place, checked]
    exact (Db.throw_asks e).follows
  | ok _ =>
    have created := create_follows fresh r.normalize
    constructor
    · intro d
      rw [place_database checked, place_database checked]
      exact created.rows d
    · intro d
      rw [place_database checked]
      exact created.stands d

end Orders

namespace Catalog

theorem loadMenu_asks (code : String) : (loadMenu code).Asks :=
  (Db.find_asks _ _ _).bind fun _ => (Db.select_asks _ _).bind fun _ =>
    (Db.select_asks _ _).bind fun _ => Db.pure_asks _

theorem loadMenu_steady (code : String) : (loadMenu code).Steady :=
  (Db.find_steady _ _ _).bind fun _ => (Db.select_steady _ _).bind fun _ =>
    (Db.select_steady _ _).bind fun _ => Db.pure_steady _

/-- A menu that is loaded is the one of the rows, whenever the database stops. -/
theorem menuIn_of_loadMenu {d : Database} {code : String} {m : Menu}
    (loaded : (loadMenu code d).1 = .ok m) : menuIn d.store code = .ok m := by
  rcases ran : loadMenu code d with ⟨answer, d'⟩
  rw [ran] at loaded
  obtain rfl : answer = .ok m := loaded
  have awake := loadMenu_steady code ran ok_ne_error
  rw [loadMenu_apply d.awake_serving] at awake
  exact congrArg Prod.fst awake

theorem resolveTable_asks (token : String) : (resolveTable token).Asks := by
  rw [resolveTable]
  dsimp only
  split
  · exact Db.throw_asks _
  · exact (Db.find_asks _ _ _).bind fun _ => (Db.find_asks _ _ _).bind fun _ => Db.pure_asks _

theorem writeItem_follows (id : Uuid) (f : Item → Item) (code : String) :
    (writeItem id f >>= fun updated => pure (code, updated)).Follows := by
  have written : (Db.run (.updateItem id f)).Follows := Db.writeOnly_follows _ _
  exact (written.before fun _ => Db.find_asks _ _ _).before fun _ => Db.pure_asks _

theorem writeItem_steady (id : Uuid) (f : Item → Item) (code : String) :
    (writeItem id f >>= fun updated => pure (code, updated)).Steady := by
  have written : (Db.run (.updateItem id f)).Steady := Db.writeOnly_steady _ _
  exact (written.bind fun _ => Db.find_steady _ _ _).bind fun _ => Db.pure_steady _

theorem tenantCode_asks (tenantId : Uuid) : (tenantCode tenantId).Asks :=
  (Db.find_asks _ _ _).bind fun _ => Db.pure_asks _

theorem tenantCode_steady (tenantId : Uuid) : (tenantCode tenantId).Steady :=
  (Db.find_steady _ _ _).bind fun _ => Db.pure_steady _

theorem setAvailability_follows (tenantId id : Uuid) (a : Availability) :
    (setAvailability tenantId id a).Follows :=
  .after (tenantCode_asks _) (tenantCode_steady _) fun code =>
    .after (Db.find_asks _ _ _) (Db.find_steady _ _ _) fun item => writeItem_follows item.id _ code

theorem setAvailability_steady (tenantId id : Uuid) (a : Availability) :
    (setAvailability tenantId id a).Steady :=
  (tenantCode_steady _).bind fun code =>
    Db.Steady.bind (Db.find_steady _ _ _) fun item => writeItem_steady item.id _ code

theorem patchItem_follows (tenantId id : Uuid) (p : ItemPatch) :
    (patchItem tenantId id p).Follows := by
  rw [patchItem]
  cases p.validate with
  | error e => exact (Db.throw_asks _).follows
  | ok _ =>
    by_cases empty : p.isEmpty
    · simp only [if_pos empty]
      exact (Db.throw_asks _).follows
    simp only [if_neg empty]
    refine .after (tenantCode_asks _) (tenantCode_steady _) fun code => ?_
    refine .after (Db.find_asks _ _ _) (Db.find_steady _ _ _) fun item => ?_
    cases p.categoryId with
    | none => exact writeItem_follows item.id _ code
    | some categoryId =>
      exact .after ((Db.find_asks _ _ _).bind fun _ => Db.pure_asks _)
        ((Db.find_steady _ _ _).bind fun _ => Db.pure_steady _)
        fun _ => writeItem_follows item.id _ code

theorem patchItem_steady (tenantId id : Uuid) (p : ItemPatch) :
    (patchItem tenantId id p).Steady := by
  rw [patchItem]
  cases p.validate with
  | error e => exact Db.throw_steady _
  | ok _ =>
    by_cases empty : p.isEmpty
    · simp only [if_pos empty]
      exact Db.throw_steady _
    simp only [if_neg empty]
    refine (tenantCode_steady _).bind fun code =>
      Db.Steady.bind (Db.find_steady _ _ _) fun item => ?_
    cases p.categoryId with
    | none => exact writeItem_steady item.id _ code
    | some categoryId =>
      exact ((Db.find_steady _ _ _).bind fun _ => Db.pure_steady _).bind
        fun _ => writeItem_steady item.id _ code

end Catalog

/-! ## Services -/

/-- The same world over the awake database. -/
def World.awake (w : World) : World :=
  { w with database := w.database.awake }

namespace Service

variable {α β : Type} {m : Service α} {k : α → Service β}

/-- Nothing of the database is ever changed but the number of answers that are left. -/
def Asks (m : Service α) : Prop :=
  ∀ w, ∃ answers, (m w).2.database = { w.database with answers }

/-- The rows are left as they were, or as they would have been over the awake database; no table
comes or goes. -/
structure Follows (m : Service α) : Prop where
  rows : ∀ w, (m w).2.database.store = w.database.store ∨
    (m w).2.database.store = (m w.awake).2.database.store
  stands : ∀ w, (m w).2.database.tables = w.database.tables

/-- Any answer but the failure of the database is the one over the awake database. -/
def Steady (m : Service α) : Prop :=
  ∀ ⦃w answer w'⦄, m w = (answer, w') → answer ≠ .error .database → m w.awake = (answer, w'.awake)

theorem Asks.store (asks : m.Asks) (w : World) :
    (m w).2.database.store = w.database.store := by
  obtain ⟨answers, same⟩ := asks w
  rw [same]

theorem check_asks (c : Except ApiError α) : (check c).Asks := fun w => ⟨w.database.answers, rfl⟩

theorem pure_asks (a : α) : (pure a : Service α).Asks := fun w => ⟨w.database.answers, rfl⟩

theorem db_asks {m : Db α} (asks : m.Asks) : (db m).Asks := fun w => asks w.database

theorem db_follows {m : Db α} (follows : m.Follows) : (db m).Follows :=
  ⟨fun w => follows.rows w.database, fun w => follows.stands w.database⟩

theorem Asks.follows (asks : m.Asks) : m.Follows := by
  refine ⟨fun w => .inl (asks.store w), fun w => ?_⟩
  obtain ⟨answers, same⟩ := asks w
  rw [same]

theorem bind_asked (next : ∀ a, (k a).Asks) (w : World) :
    ∃ answers, ((m >>= k) w).2.database = { (m w).2.database with answers } := by
  rw [bind_apply]
  split
  · rename_i a between answered
    rw [answered]
    exact next a between
  · rename_i answered
    rw [answered]
    exact ⟨_, rfl⟩

theorem Asks.bind (first : m.Asks) (next : ∀ a, (k a).Asks) : (m >>= k).Asks := by
  intro w
  obtain ⟨answers, after⟩ := bind_asked (m := m) next w
  obtain ⟨_, before⟩ := first w
  exact ⟨answers, by rw [after, before]⟩

theorem Follows.before (follows : m.Follows) (next : ∀ a, (k a).Asks) : (m >>= k).Follows := by
  constructor
  · intro w
    obtain ⟨_, here⟩ := bind_asked (m := m) next w
    obtain ⟨_, there⟩ := bind_asked (m := m) next w.awake
    rw [here, there]
    exact follows.rows w
  · intro w
    obtain ⟨_, here⟩ := bind_asked (m := m) next w
    rw [here]
    exact follows.stands w

/-- A check that comes first does not depend on the database. -/
theorem Follows.checked (c : Except ApiError α) (next : ∀ a, (k a).Follows) :
    (check c >>= k).Follows := by
  cases c with
  | error e => exact ⟨fun w => .inl rfl, fun w => rfl⟩
  | ok a => exact next a

theorem pure_steady (a : α) : (pure a : Service α).Steady := by
  intro w answer w' ran _
  cases ran
  rfl

theorem db_steady {m : Db α} (steady : m.Steady) : (db m).Steady := by
  intro w answer w' ran answers
  cases ran
  have same := steady (d := w.database) rfl answers
  simp only [db, World.awake, same]

theorem Steady.bind (first : m.Steady) (next : ∀ a, (k a).Steady) : (m >>= k).Steady := by
  intro w answer w' ran answers
  rw [bind_apply] at ran
  split at ran
  · rename_i a between answered
    rw [bind_of_ok k (first answered ok_ne_error)]
    exact next a ran answers
  · rename_i answered
    cases ran
    rw [bind_of_error k (first answered fun same => answers (congrArg _ (Except.error.inj same)))]

theorem Steady.checked (c : Except ApiError α) (next : ∀ a, (k a).Steady) :
    (check c >>= k).Steady := by
  cases c with
  | error e =>
    intro w answer w' ran _
    cases ran
    rfl
  | ok a => exact next a

theorem Steady.map (steady : m.Steady) (f : α → β) : (f <$> m).Steady := by
  intro w answer w' ran answers
  rw [map_apply] at ran
  cases ran
  have same := steady (w := w) rfl fun failed => answers (by rw [failed]; rfl)
  rw [map_apply, same]

theorem Asks.map (asks : m.Asks) (f : α → β) : (f <$> m).Asks := by
  intro w
  rw [map_apply]
  exact asks w

theorem Follows.map (follows : m.Follows) (f : α → β) : (f <$> m).Follows := by
  constructor
  · intro w
    rw [map_apply, map_apply]
    exact follows.rows w
  · intro w
    rw [map_apply]
    exact follows.stands w

end Service

/-- A menu read changes no row, whatever the caches and the database answer. -/
theorem MenuRead.run_asks (i : Instance) (name : String) (read : MenuRead) :
    (read.run i name).Asks := by
  induction read with
  | done answer => exact Service.check_asks answer
  | lookup key next ih =>
    intro w
    obtain ⟨answers, rest⟩ := ih _ (w.cacheGet i name key).2
    exact ⟨answers, by rw [run_lookup, rest, w.cacheGet_database]⟩
  | load code next ih =>
    intro w
    let loading := Service.db (Catalog.loadMenu code) (w.record (.load i.number code))
    have loaded : ∃ answers, loading.2.database = { w.database with answers } :=
      Service.db_asks (Catalog.loadMenu_asks code) (w.record (.load i.number code))
    obtain ⟨_, loaded⟩ := loaded
    obtain ⟨answers, rest⟩ := ih loading.1 loading.2
    exact ⟨answers, rest.trans (by rw [loaded])⟩
  | save key value ttl next ih =>
    intro w
    obtain ⟨answers, rest⟩ := ih (w.cacheCall i name (.set key value ttl)).2
    exact ⟨answers, by rw [run_save, rest, w.cacheCall_database]⟩

theorem Instance.invalidateMenu_asks (i : Instance) (code : String) :
    (i.invalidateMenu code).Asks := by
  intro w
  obtain ⟨w', dropped, kept⟩ := i.invalidateMenu_apply code w
  exact ⟨w.database.answers, by rw [dropped, kept]⟩

theorem Instance.invalidateMenu_steady (i : Instance) (code : String) :
    (i.invalidateMenu code).Steady := by
  intro w answer w' ran _
  cases ran
  refine congrArg (Except.ok (), ·) ?_
  dsimp only
  cases i.cache with
  | none => rfl
  | some name =>
    dsimp only
    split
    · rfl
    · unfold World.cacheCall
      cases i.faults (CacheCall.del [menuKey (Text.trim code)]).op <;> rfl

theorem Instance.editItem_steady (i : Instance) {edit : Db (String × Item)}
    (steady : edit.Steady) : (i.editItem edit).Steady :=
  (Service.db_steady steady).bind fun found =>
    (i.invalidateMenu_steady found.1).bind fun _ => Service.pure_steady _

theorem Instance.editItem_follows (i : Instance) {edit : Db (String × Item)}
    (follows : edit.Follows) : (i.editItem edit).Follows :=
  (Service.db_follows follows).before fun found =>
    (i.invalidateMenu_asks found.1).bind fun _ => Service.pure_asks _

namespace Call

/-- The call only asks. -/
def asks : Call → Bool
  | placeOrder .. | createOrder .. | updateOrderStatus .. | setStatus .. | patchItem ..
  | setItemAvailability .. => false
  | _ => true

theorem run_asks (i : Instance) {c : Call} (asks : c.asks = true) : (c.run i).Asks := by
  cases c with
  | getMenu code => exact (MenuRead.run_asks i _ _).map _
  | dropMenu code => exact (i.invalidateMenu_asks code).map _
  | resolveTable token =>
    exact ((Service.db_asks (Catalog.resolveTable_asks token)).bind
      fun _ => Service.pure_asks _).map _
  | health =>
    have asked : i.health.Asks := fun w => Db.mark_asks w.database
    exact asked.map _
  | listOrders user q =>
    refine ((Service.check_asks _).bind fun _ => (Service.check_asks _).bind fun status => ?_).map _
    exact (Service.db_asks (Orders.list_asks _ _ _ _)).bind fun _ => Service.pure_asks _
  | listPage tenantId status token asked =>
    exact (Service.db_asks (Orders.list_asks _ _ _ _)).map _
  | getOrder user id =>
    refine ((Service.check_asks _).bind fun _ => ?_).map _
    exact (Service.db_asks (Orders.get_asks _ _)).bind fun _ => Service.pure_asks _
  | findOrder tenantId id => exact (Service.db_asks (Orders.get_asks _ _)).map _
  | _ => cases asks

theorem run_follows (i : Instance) (c : Call) : (c.run i).Follows := by
  cases c with
  | placeOrder fresh r =>
    exact ((Service.db_follows (Orders.place_follows fresh r)).before
      fun _ => Service.pure_asks _).map _
  | createOrder fresh r => exact (Service.db_follows (Orders.create_follows fresh r)).map _
  | updateOrderStatus user id u =>
    refine (Service.Follows.checked _ fun _ => .checked _ fun status => ?_).map _
    exact (Service.db_follows (Orders.setStatus_follows _ _ _)).before fun _ => Service.pure_asks _
  | setStatus tenantId id status =>
    exact (Service.db_follows (Orders.setStatus_follows _ _ _)).map _
  | patchItem user id p =>
    exact (Service.Follows.checked _ fun _ =>
      i.editItem_follows (Catalog.patchItem_follows _ _ p)).map _
  | setItemAvailability user id a =>
    exact (Service.Follows.checked _ fun _ =>
      i.editItem_follows (Catalog.setAvailability_follows _ _ a)).map _
  | _ => exact (run_asks i rfl).follows

/-- Whenever the database stops, a call leaves the rows as they were or as it comes to. -/
theorem run_store (i : Instance) (c : Call) {w : World} (keyed : w.database.store.Keyed) :
    (c.run i w).2.database.store = w.database.store ∨
      (c.run i w).2.database.store = c.step w.database.store := by
  rcases (c.run_follows i).rows w with idle | done
  · exact .inl idle
  · have carried := c.run_database i (w := w.awake) w.database.awake_serving keyed
    rw [carried] at done
    exact .inr done

end Call

/-! ## Runs -/

/-- One call of a run in which the database may stop: `answers` is the number of statements that it
still answers, if it stops at all. -/
structure Attempt extends Turn where
  answers : Option Nat

/-- The world that is called. -/
def Attempt.onset (a : Attempt) (w : World) : World :=
  { w with database := { w.database with answers := a.answers } }

/-- The call is made of the database as it is then. -/
def Attempt.make (a : Attempt) (w : World) : World :=
  (a.toTurn.take (a.onset w)).2

/-- What is answered. -/
def Attempt.answer (a : Attempt) (w : World) : Except ApiError Reply :=
  (a.toTurn.take (a.onset w)).1

/-- The world after a run. -/
def World.attempt (w : World) : List Attempt → World
  | [] => w
  | a :: rest => (a.make w).attempt rest

namespace World

theorem attempt_append (w : World) (before after : List Attempt) :
    w.attempt (before ++ after) = (w.attempt before).attempt after := by
  induction before generalizing w with
  | nil => rfl
  | cons a rest ih => exact ih (a.make w)

end World

/-- The call finds the rows and the tables as they are. -/
theorem Attempt.take_eq (a : Attempt) (w : World) :
    a.call.run a.server ((a.onset w).later a.elapsed a.keys) = (a.answer w, a.make w) := rfl

theorem Attempt.make_store (a : Attempt) {w : World} (keyed : w.database.store.Keyed) :
    (a.make w).database.store = w.database.store ∨
      (a.make w).database.store = a.call.step w.database.store :=
  a.call.run_store a.server (w := (a.onset w).later a.elapsed a.keys) keyed

theorem Attempt.make_tables (a : Attempt) (w : World) :
    (a.make w).database.tables = w.database.tables :=
  (a.call.run_follows a.server).stands ((a.onset w).later a.elapsed a.keys)

/-- Keys stay unique, whenever the database stops. -/
theorem Attempt.make_keyed (a : Attempt) {w : World} (keyed : w.database.store.Keyed) :
    (a.make w).database.store.Keyed := by
  rcases a.make_store keyed with idle | done
  · rw [idle]
    exact keyed
  · rw [done]
    exact a.call.keyed_step keyed

theorem World.attempt_tables (w : World) (attempts : List Attempt) :
    (w.attempt attempts).database.tables = w.database.tables := by
  induction attempts generalizing w with
  | nil => rfl
  | cons a rest ih => exact (ih (a.make w)).trans (a.make_tables w)

theorem World.attempt_keyed {w : World} (keyed : w.database.store.Keyed)
    (attempts : List Attempt) : (w.attempt attempts).database.store.Keyed := by
  induction attempts generalizing w with
  | nil => exact keyed
  | cons a rest ih => exact ih (a.make_keyed keyed)

end Tableside
