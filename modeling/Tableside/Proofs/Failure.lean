import Tableside.Proofs.Outage

/-!
# What a failing call leaves

An order is written in a transaction, so that a call that fails to place one leaves no trace
(`Db.Atomic`). Every other call that writes does so by one statement, which stands for itself: the
questions that come before it change nothing, and what was written is read again afterwards
(`Db.Rewrites`). When the database fails in that last part, the call fails and yet the row is
changed. Nothing else can be left: a call that fails for another reason, or with a database that has
stopped before or at the write, leaves the rows as they were.

The statements before the write are counted by the answers that they take (`Db.Takes`).
-/

namespace Tableside

/-! ## Statements that were answered -/

/-- The rows were changed by `f`, by a statement that came after `k` others and was answered. Only
the database can have failed since. -/
structure Database.Rewritten {α : Type} (k : Nat) (f : Store → Store) (d d' : Database)
    (answer : Except ApiError α) : Prop where
  store : d'.store = f d.store
  answered : ∀ n, d.answers = some n → k < n
  fault : ∀ e, answer = .error e → e = .database

/-- No row was changed before a failure. If it was the database that failed, and not for lack of a
table, it gave no more than `k` answers. -/
structure Database.Untouched (k : Nat) (d d' : Database) (e : ApiError) : Prop where
  store : d'.store = d.store
  stopped : e = .database → (∀ t, t ∈ d.tables) → ∃ n, d.answers = some n ∧ n ≤ k

/-- It is the same with another answer, as long as that fails no other way. -/
theorem Database.Rewritten.told {α β : Type} {k : Nat} {f : Store → Store} {d d' : Database}
    {answer : Except ApiError α} {other : Except ApiError β}
    (written : d.Rewritten k f d' answer) (same : ∀ e, other = .error e → answer = .error e) :
    d.Rewritten k f d' other :=
  ⟨written.store, written.answered, fun e failed => written.fault e (same e failed)⟩

namespace Db

variable {α β : Type} {m : Db α} {next : α → Db β} {j k : Nat} {f : Store → Store}

/-- What goes through has taken `k` of the answers that were left. -/
def Takes (k : Nat) (m : Db α) : Prop :=
  ∀ ⦃d a d'⦄, m d = (.ok a, d') →
    (∀ n, d.answers = some n → k ≤ n) ∧ d'.answers = d.answers.map (· - k)

/-- Where no table is missing, the database fails only if it answers nothing. -/
def Prompt (m : Db α) : Prop :=
  ∀ ⦃d d'⦄, (∀ t, t ∈ d.tables) → m d = (.error .database, d') → d.answers = some 0

/-- What fails fails as the database does. -/
def Faults (m : Db α) : Prop :=
  ∀ ⦃d e d'⦄, m d = (.error e, d') → e = .database

/-- The rows change by `f`, after `k` statements, or there is a failure before that. -/
def Rewrites (k : Nat) (f : Store → Store) (m : Db α) : Prop :=
  ∀ ⦃d answer d'⦄, m d = (answer, d') →
    (∃ e, answer = .error e ∧ d.Untouched k d' e) ∨ d.Rewritten k f d' answer

theorem run_takes {s : Statement α}
    (same : ∀ ⦃d a d'⦄, s d = .ok (a, d') → d'.answers = d.answers) : (run s).Takes 1 := by
  intro d a d' ran
  obtain ⟨going, done⟩ := run_ok ran
  refine ⟨fun n left => Nat.pos_of_ne_zero ?_, same done⟩
  rintro rfl
  exact going left

theorem select_takes (e : Entity) (ask : Store → α) : (select e ask).Takes 1 := by
  refine run_takes fun d a d' answered => ?_
  rw [Statement.select] at answered
  split at answered
  · cases answered
    rfl
  · cases answered

theorem pure_takes (a : α) : (pure a : Db α).Takes 0 := by
  intro d b d' ran
  cases ran
  exact ⟨fun n _ => n.zero_le, by simp⟩

theorem Takes.bind (first : m.Takes j) (rest : ∀ a, (next a).Takes k) :
    (m >>= next).Takes (j + k) := by
  intro d b d' ran
  rw [bind_apply] at ran
  split at ran
  · rename_i a between answered
    obtain ⟨enough, left⟩ := first answered
    obtain ⟨enough', left'⟩ := rest a ran
    rw [left, Option.map_map] at left'
    refine ⟨fun n there => ?_, left'.trans (congrArg (d.answers.map ·) ?_)⟩
    · have more := enough n there
      have more' := enough' (n - j) (by rw [left, there]; rfl)
      omega
    · exact funext fun n => Nat.sub_sub n j k
  · cases ran

theorem throw_takes (e : ApiError) (k : Nat) : (throw e : Db α).Takes k := by
  intro d a d' ran
  cases ran

theorem find_takes (e : Entity) (ask : Store → Option α) (missing : ApiError) :
    (find e ask missing).Takes 1 := by
  refine Takes.bind (k := 0) (select_takes e ask) fun found => ?_
  cases found with
  | some a => exact pure_takes a
  | none => exact throw_takes missing 0

theorem find_prompt (e : Entity) (ask : Store → Option α) {missing : ApiError}
    (other : missing ≠ .database) : (find e ask missing).Prompt := by
  intro d d' tables ran
  rw [find, bind_apply] at ran
  split at ran
  · rename_i found between answered
    cases found with
    | some a => cases ran
    | none =>
      cases ran
      exact absurd rfl other
  · rename_i failed
    obtain ⟨-, ⟨spent, -⟩ | ⟨⟨fault, faulty⟩, -⟩⟩ := run_failed failed
    · exact spent
    · have there : e ∈ d.asked.tables := tables e
      rw [Statement.select, if_pos there] at faulty
      cases faulty

theorem Prompt.told (prompt : m.Prompt) (f : α → β) :
    (m >>= fun a => (pure (f a) : Db β)).Prompt := by
  intro d d' tables ran
  rw [bind_apply] at ran
  split at ran
  · cases ran
  · rename_i failed
    cases ran
    exact prompt tables failed

/-! ## Failures of the database -/

theorem pure_faults (a : α) : (pure a : Db α).Faults := by
  intro d e d' ran
  cases ran

theorem Faults.bind (first : m.Faults) (rest : ∀ a, (next a).Faults) : (m >>= next).Faults := by
  intro d e d' ran
  rw [bind_apply] at ran
  split at ran
  · rename_i a between answered
    exact rest a ran
  · rename_i answered
    cases ran
    exact first answered

theorem find_faults (e : Entity) (ask : Store → Option α) : (find e ask .database).Faults := by
  refine Faults.bind (fun d e d' ran => run_error ran) fun found => ?_
  cases found with
  | some a => exact pure_faults a
  | none =>
    intro d e d' ran
    cases ran
    rfl

/-! ## One write among questions -/

theorem throw_rewrites {e : ApiError} (other : e ≠ .database) (k : Nat) (f : Store → Store) :
    (throw e : Db α).Rewrites k f := by
  intro d answer d' ran
  cases ran
  exact .inl ⟨e, rfl, rfl, fun same => absurd same other⟩

theorem write_rewrites (e : Entity) (f : Store → Store) :
    (run (Statement.writeOnly e fun _ s => .ok (f s))).Rewrites 0 f := by
  intro d answer d' ran
  cases answer with
  | error e' =>
    refine .inl ⟨e', rfl, run_atomic _ ran, fun _ tables => ?_⟩
    obtain ⟨-, ⟨spent, -⟩ | ⟨⟨fault, faulty⟩, -⟩⟩ := run_failed ran
    · exact ⟨0, spent, Nat.le_refl 0⟩
    · have there : e ∈ d.asked.tables := tables e
      rw [Statement.writeOnly, Statement.write, if_pos there] at faulty
      cases faulty
  | ok a =>
    obtain ⟨going, done⟩ := run_ok ran
    rw [Statement.writeOnly, Statement.write] at done
    split at done
    · cases done
      refine .inr ⟨rfl, fun n left => Nat.pos_of_ne_zero ?_, fun _ same => absurd same ok_ne_error⟩
      rintro rfl
      exact going left
    · cases done

/-- What was written may be read again. -/
theorem Rewrites.before (first : m.Rewrites k f) (asks : ∀ a, (next a).Asks)
    (faults : ∀ a, (next a).Faults) : (m >>= next).Rewrites k f := by
  intro d answer d' ran
  rw [bind_apply] at ran
  split at ran
  · rename_i a between answered
    have kept := (asks a).store between
    rw [ran] at kept
    rcases first answered with ⟨e, ⟨⟩, -⟩ | written
    refine .inr ⟨kept.trans written.store, written.answered, ?_⟩
    rintro e rfl
    exact faults a ran
  · rename_i e between failed
    cases ran
    rcases first failed with ⟨_, ⟨⟩, untouched⟩ | written
    · exact .inl ⟨e, rfl, untouched⟩
    · exact .inr (written.told fun e same => by cases same; rfl)

/-- Rows may be looked for before the write; what is written may depend on what was found. -/
theorem Rewrites.after (asks : m.Asks) (takes : m.Takes j) (prompt : m.Prompt)
    (rest : ∀ ⦃d a d'⦄, m d = (.ok a, d') → (next a).Rewrites k f) :
    (m >>= next).Rewrites (j + k) f := by
  intro d answer d' ran
  have kept := asks.store d
  have stands := asks.stands d
  rw [bind_apply] at ran
  split at ran
  · rename_i a between answered
    rw [answered] at kept stands
    obtain ⟨enough, left⟩ := takes answered
    rcases rest answered ran with ⟨e, failed, untouched⟩ | written
    · refine .inl ⟨e, failed, untouched.store.trans kept, fun same tables => ?_⟩
      obtain ⟨rest, there, few⟩ := untouched.stopped same fun t => stands ▸ tables t
      rw [left] at there
      obtain ⟨n, before, rfl⟩ := Option.map_eq_some_iff.1 there
      exact ⟨n, before, by omega⟩
    · refine .inr ⟨written.store.trans (congrArg f kept), fun n there => ?_, written.fault⟩
      have many := enough n there
      have more := written.answered (n - j) (by rw [left, there]; rfl)
      omega
  · rename_i e between failed
    rw [failed] at kept
    cases ran
    refine .inl ⟨e, rfl, kept, fun same tables => ?_⟩
    exact ⟨0, prompt tables (by rw [failed, same]), Nat.zero_le _⟩

/-! ## Transactions among questions -/

theorem Asks.atomic (asks : m.Asks) : m.Atomic := by
  intro d e d' ran
  have kept := asks.store d
  rwa [ran] at kept

theorem Atomic.after (asks : m.Asks) (rest : ∀ a, (next a).Atomic) : (m >>= next).Atomic := by
  intro d e d' ran
  have kept := asks.store d
  rw [bind_apply] at ran
  split at ran
  · rename_i a between answered
    rw [answered] at kept
    exact (rest a ran).trans kept
  · rename_i answered
    rw [answered] at kept
    cases ran
    exact kept

/-- What was found was asked for. -/
theorem find_eq_some {e : Entity} {ask : Store → Option α} {missing : ApiError} {d d' : Database}
    {a : α} (found : find e ask missing d = (.ok a, d')) : ask d.store = some a := by
  have awake := find_steady e ask missing found ok_ne_error
  have same : ask d.awake.store = ask d.store := rfl
  rw [d.awake_serving.find, same] at awake
  have answer := congrArg Prod.fst awake
  cases asked : ask d.store with
  | none =>
    rw [asked] at answer
    cases answer
  | some b =>
    rw [asked] at answer
    cases answer
    rfl

end Db

/-! ## Checks -/

/-- No check fails as the database does. -/
theorem AdminUser.fault_of_ensureAdmin (user : AdminUser) {e : ApiError}
    (failed : user.ensureAdmin = .error e) : e ≠ .database := by
  by_cases admin : user.role = "admin"
  · rw [Call.ensureAdmin_of_admin admin] at failed
    cases failed
  · rw [Call.ensureAdmin_of_other admin] at failed
    cases failed
    exact ApiError.noConfusion

theorem StatusUpdate.fault_of_target (u : StatusUpdate) {e : ApiError}
    (failed : u.target = .error e) : e ≠ .database := by
  rw [target] at failed
  split at failed
  · cases failed
    exact ApiError.noConfusion
  split at failed
  · cases failed
  · cases failed
    exact ApiError.noConfusion

theorem ItemPatch.fault_of_validate (p : ItemPatch) {e : ApiError}
    (failed : p.validate = .error e) : e ≠ .database := by
  rw [validate] at failed
  split at failed
  · cases failed
    exact ApiError.noConfusion
  split at failed
  · cases failed
    exact ApiError.noConfusion
  · cases failed

/-! ## Operations -/

namespace Orders

theorem attachTo_faults (row : OrderRow) : (attachTo row).Faults :=
  Db.Faults.bind (Db.find_faults _ _) fun _ => Db.pure_faults _

/-- The state of an order is set by the second statement. -/
theorem setStatus_rewrites (tenantId id : Uuid) (status : OrderStatus) :
    (setStatus tenantId id status).Rewrites 1 (·.updateStatus id status) := by
  refine .after (k := 0) (Db.find_asks _ _ _) (Db.find_takes _ _ _)
    (Db.find_prompt _ _ ApiError.noConfusion) fun d row d' found => ?_
  obtain ⟨-, rfl, -⟩ := Store.orderOf?_eq_some (Db.find_eq_some found)
  exact (Db.write_rewrites .order (·.updateStatus row.id status)).before
    (fun _ => (Db.find_asks _ _ _).bind attachTo_asks)
    (fun _ => (Db.find_faults _ _).bind attachTo_faults)

theorem create_atomic (fresh : Fresh) (r : OrderRequest) : (create fresh r).Atomic := by
  rw [create]
  split
  · exact (Db.throw_asks _).atomic
  refine .after (Db.find_asks _ _ _) fun tenant => ?_
  refine .after (Db.find_asks _ _ _) fun table => ?_
  exact Db.transaction_atomic _

theorem place_atomic (fresh : Fresh) (r : OrderRequest) : (place fresh r).Atomic := by
  intro d e d' ran
  cases checked : r.normalize.check with
  | error e =>
    rw [place, checked] at ran
    cases ran
    rfl
  | ok _ =>
    rw [place, checked] at ran
    dsimp only at ran
    split at ran
    · rename_i failed
      cases ran
      exact create_atomic fresh _ failed
    · cases ran

end Orders

namespace Catalog

theorem tenantCode_takes (tenantId : Uuid) : (tenantCode tenantId).Takes 1 :=
  Db.Takes.bind (k := 0) (Db.find_takes _ _ _) fun _ => Db.pure_takes _

theorem tenantCode_prompt (tenantId : Uuid) : (tenantCode tenantId).Prompt :=
  (Db.find_prompt _ _ ApiError.noConfusion).told _

theorem requireCategory_takes (tenantId id : Uuid) : (requireCategory tenantId id).Takes 1 :=
  Db.Takes.bind (k := 0) (Db.find_takes _ _ _) fun _ => Db.pure_takes _

theorem requireCategory_prompt (tenantId id : Uuid) : (requireCategory tenantId id).Prompt :=
  (Db.find_prompt _ _ ApiError.noConfusion).told _

theorem writeItem_rewrites (id : Uuid) (f : Item → Item) (code : String) :
    (writeItem id f >>= fun updated => pure (code, updated)).Rewrites 0 (·.updateItem id f) := by
  have written := Db.write_rewrites .item (·.updateItem id f)
  exact (written.before (fun _ => Db.find_asks _ _ _) fun _ => Db.find_faults _ _).before
    (fun _ => Db.pure_asks _) fun _ => Db.pure_faults _

/-- An item is found by the second statement, after its tenant. -/
theorem edit_rewrites {tenantId id : Uuid} {k : Nat} {f : Store → Store}
    {next : String → Item → Db (String × Item)}
    (rest : ∀ code item, item.id = id → (next code item).Rewrites k f) :
    (tenantCode tenantId >>= fun code => findItem tenantId id >>= next code).Rewrites
      (1 + (1 + k)) f := by
  refine .after (tenantCode_asks _) (tenantCode_takes _) (tenantCode_prompt _)
    fun d code d' _ => ?_
  refine .after (Db.find_asks _ _ _) (Db.find_takes _ _ _)
    (Db.find_prompt _ _ ApiError.noConfusion) fun d item d' found => ?_
  obtain ⟨-, named, -⟩ := Store.itemOf?_eq_some (Db.find_eq_some found)
  exact rest code item named

theorem setAvailability_rewrites (tenantId id : Uuid) (a : Availability) :
    (setAvailability tenantId id a).Rewrites 2 (·.updateItem id a.apply) := by
  refine edit_rewrites (k := 0) fun code item named => ?_
  rw [← named]
  exact writeItem_rewrites item.id a.apply code

end Catalog

/-- How many rows a patch looks for before it is written. -/
def ItemPatch.lookups (p : ItemPatch) : Nat :=
  if p.categoryId.isSome then 3 else 2

theorem Catalog.patchItem_rewrites (tenantId id : Uuid) (p : ItemPatch) :
    (patchItem tenantId id p).Rewrites p.lookups (·.updateItem id p.apply) := by
  rw [patchItem]
  cases valid : p.validate with
  | error e => exact Db.throw_rewrites (p.fault_of_validate valid) _ _
  | ok _ =>
    by_cases empty : p.isEmpty
    · simp only [if_pos empty]
      exact Db.throw_rewrites ApiError.noConfusion _ _
    simp only [if_neg empty]
    cases named : p.categoryId with
    | none =>
      rw [ItemPatch.lookups, named]
      refine edit_rewrites (k := 0) fun code item same => ?_
      rw [← same]
      exact writeItem_rewrites item.id p.apply code
    | some categoryId =>
      rw [ItemPatch.lookups, named]
      refine edit_rewrites (k := 1) fun code item same => ?_
      rw [← same]
      exact .after (k := 0) ((Db.find_asks _ _ _).bind fun _ => Db.pure_asks _)
        (requireCategory_takes _ _) (requireCategory_prompt _ _)
        fun _ _ _ _ => writeItem_rewrites item.id p.apply code

/-! ## Services -/

namespace Service

variable {α β : Type} {m : Service α} {next : α → Service β} {k : Nat} {f : Store → Store}

/-- What fails has changed no row. -/
def Atomic (m : Service α) : Prop :=
  ∀ ⦃w e w'⦄, m w = (.error e, w') → w'.database.store = w.database.store

/-- The rows change by `f`, after `k` statements, or there is a failure before that. -/
def Rewrites (k : Nat) (f : Store → Store) (m : Service α) : Prop :=
  ∀ ⦃w answer w'⦄, m w = (answer, w') →
    (∃ e, answer = .error e ∧ w.database.Untouched k w'.database e) ∨
      w.database.Rewritten k f w'.database answer

/-- There is always an answer. -/
def Sure (m : Service α) : Prop :=
  ∀ w, ∃ a w', m w = (.ok a, w')

theorem pure_sure (a : α) : (pure a : Service α).Sure := fun w => ⟨a, w, rfl⟩

theorem Sure.bind (first : m.Sure) (rest : ∀ a, (next a).Sure) : (m >>= next).Sure := by
  intro w
  obtain ⟨a, between, answered⟩ := first w
  obtain ⟨b, w', done⟩ := rest a between
  exact ⟨b, w', by rw [bind_of_ok next answered, done]⟩

theorem Asks.atomic (asks : m.Asks) : m.Atomic := by
  intro w e w' ran
  have kept := asks.store w
  rwa [ran] at kept

theorem db_eq {m : Db α} {w w' : World} {answer : Except ApiError α}
    (ran : db m w = (answer, w')) : m w.database = (answer, w'.database) := by
  cases ran
  rfl

theorem db_atomic {m : Db α} (atomic : m.Atomic) : (db m).Atomic :=
  fun _ _ _ ran => atomic (db_eq ran)

theorem db_rewrites {m : Db α} (rewrites : m.Rewrites k f) : (db m).Rewrites k f :=
  fun _ _ _ ran => rewrites (db_eq ran)

/-- What is sure may follow. -/
theorem Atomic.before (atomic : m.Atomic) (sure : ∀ a, (next a).Sure) :
    (m >>= next).Atomic := by
  intro w e w' ran
  rw [bind_apply] at ran
  split at ran
  · rename_i a between _
    obtain ⟨b, after, done⟩ := sure a between
    rw [done] at ran
    cases ran
  · rename_i failed
    cases ran
    exact atomic failed

theorem Rewrites.before (rewrites : m.Rewrites k f) (asks : ∀ a, (next a).Asks)
    (sure : ∀ a, (next a).Sure) : (m >>= next).Rewrites k f := by
  intro w answer w' ran
  rw [bind_apply] at ran
  split at ran
  · rename_i a between answered
    have kept := (asks a).store between
    obtain ⟨b, after, done⟩ := sure a between
    rw [ran] at kept
    rw [done] at ran
    cases ran
    rcases rewrites answered with ⟨e, ⟨⟩, -⟩ | written
    exact .inr ⟨kept.trans written.store, written.answered, fun _ same => absurd same ok_ne_error⟩
  · rename_i e between failed
    cases ran
    rcases rewrites failed with ⟨_, ⟨⟩, untouched⟩ | written
    · exact .inl ⟨e, rfl, untouched⟩
    · exact .inr (written.told fun e same => by cases same; rfl)

/-- A check that comes first fails otherwise than the database does. -/
theorem Rewrites.checked (c : Except ApiError α) (other : ∀ e, c = .error e → e ≠ .database)
    (rest : ∀ a, c = .ok a → (next a).Rewrites k f) : (check c >>= next).Rewrites k f := by
  cases c with
  | error e =>
    intro w answer w' ran
    cases ran
    exact .inl ⟨e, rfl, rfl, fun same => absurd same (other e rfl)⟩
  | ok a => exact rest a rfl

theorem Atomic.checked (c : Except ApiError α) (rest : ∀ a, c = .ok a → (next a).Atomic) :
    (check c >>= next).Atomic := by
  cases c with
  | error e =>
    intro w e w' ran
    cases ran
    rfl
  | ok a => exact rest a rfl

theorem map_eq {w w' : World} {g : α → β} {answer : Except ApiError β}
    (ran : (g <$> m) w = (answer, w')) :
    ∃ inner, m w = (inner, w') ∧ ∀ e, answer = .error e ↔ inner = .error e := by
  rw [map_apply] at ran
  cases ran
  exact ⟨_, rfl, fun e => map_eq_error_iff⟩

theorem Atomic.map (atomic : m.Atomic) (g : α → β) : (g <$> m).Atomic := by
  intro w e w' ran
  obtain ⟨inner, done, told⟩ := map_eq ran
  rw [(told e).1 rfl] at done
  exact atomic done

theorem Rewrites.map (rewrites : m.Rewrites k f) (g : α → β) : (g <$> m).Rewrites k f := by
  intro w answer w' ran
  obtain ⟨inner, done, told⟩ := map_eq ran
  rcases rewrites done with ⟨e, failed, untouched⟩ | written
  · exact .inl ⟨e, (told e).2 failed, untouched⟩
  · exact .inr (written.told fun e => (told e).1)

end Service

theorem Instance.invalidateMenu_sure (i : Instance) (code : String) :
    (i.invalidateMenu code).Sure := by
  intro w
  obtain ⟨w', dropped, -⟩ := i.invalidateMenu_apply code w
  exact ⟨(), w', dropped⟩

/-- The cache is told after an edit, and no fault of the cache undoes it. -/
theorem Instance.editItem_rewrites (i : Instance) {edit : Db (String × Item)} {k : Nat}
    {f : Store → Store} (rewrites : edit.Rewrites k f) : (i.editItem edit).Rewrites k f :=
  (Service.db_rewrites rewrites).before
    (fun found => (i.invalidateMenu_asks found.1).bind fun _ => Service.pure_asks _)
    (fun found => (i.invalidateMenu_sure found.1).bind fun _ => Service.pure_sure _)

/-! ## Calls -/

/-- A write that stands for itself: how many statements come before it, and what it does. -/
structure Update where
  before : Nat
  apply : Store → Store

namespace Call

/-- The write of a call that does not write in a transaction. -/
def update : Call → Option Update
  | updateOrderStatus _ id u =>
    match u.target with
    | .ok status => some ⟨1, (·.updateStatus id status)⟩
    | .error _ => none
  | setStatus _ id status => some ⟨1, (·.updateStatus id status)⟩
  | patchItem _ id p => some ⟨p.lookups, (·.updateItem id p.apply)⟩
  | setItemAvailability _ id a => some ⟨2, (·.updateItem id a.apply)⟩
  | _ => none

theorem run_rewrites (i : Instance) {c : Call} {u : Update} (writes : c.update = some u) :
    (c.run i).Rewrites u.before u.apply := by
  cases c with
  | updateOrderStatus user id asked =>
    refine (Service.Rewrites.checked _ (fun _ => user.fault_of_ensureAdmin) fun _ _ =>
      .checked _ (fun _ => asked.fault_of_target) fun status target => ?_).map _
    rw [update, target] at writes
    cases writes
    exact (Service.db_rewrites (Orders.setStatus_rewrites _ id status)).before
      (fun _ => Service.pure_asks _) fun _ => Service.pure_sure _
  | setStatus tenantId id status =>
    cases writes
    exact (Service.db_rewrites (Orders.setStatus_rewrites tenantId id status)).map _
  | patchItem user id p =>
    cases writes
    exact (Service.Rewrites.checked _ (fun _ => user.fault_of_ensureAdmin) fun _ _ =>
      i.editItem_rewrites (Catalog.patchItem_rewrites _ id p)).map _
  | setItemAvailability user id a =>
    cases writes
    exact (Service.Rewrites.checked _ (fun _ => user.fault_of_ensureAdmin) fun _ _ =>
      i.editItem_rewrites (Catalog.setAvailability_rewrites _ id a)).map _
  | _ => cases writes

theorem run_atomic (i : Instance) {c : Call} (writes : c.update = none) : (c.run i).Atomic := by
  cases c with
  | placeOrder fresh r =>
    exact ((Service.db_atomic (Orders.place_atomic fresh r)).before
      fun _ => Service.pure_sure _).map _
  | createOrder fresh r => exact (Service.db_atomic (Orders.create_atomic fresh r)).map _
  | updateOrderStatus user id asked =>
    refine (Service.Atomic.checked _ fun _ _ => .checked _ fun status target => ?_).map _
    rw [update, target] at writes
    cases writes
  | setStatus tenantId id status => cases writes
  | patchItem user id p => cases writes
  | setItemAvailability user id a => cases writes
  | _ => exact (run_asks i rfl).atomic

/-- A call that fails leaves the rows as they were. The exception is a write that stands for itself
and was answered: when the database fails after it, where rows are only read again, the row stays as
it was written. -/
theorem left_by_failure {i : Instance} {c : Call} {w w' : World} {e : ApiError}
    (failed : c.run i w = (.error e, w')) :
    w'.database.store = w.database.store ∨
      ∃ u, c.update = some u ∧ e = .database ∧
        (∀ n, w.database.answers = some n → u.before < n) ∧
        w'.database.store = u.apply w.database.store := by
  cases writes : c.update with
  | none => exact .inl (run_atomic i writes failed)
  | some u =>
    rcases run_rewrites i writes failed with ⟨_, -, untouched⟩ | written
    · exact .inl untouched.store
    · exact .inr ⟨u, rfl, written.fault e rfl, written.answered, written.store⟩

end Call

namespace Sample

/-- The database answers so many statements and no more. -/
def stopping (answers : Nat) : World :=
  ⟨{ (world []).database with answers := some answers }, [], 0, []⟩

end Sample

/-- The second order of coffee stops at its line, and nothing of it is left. -/
theorem Call.left_by_failure_cafe :
    (Sample.refill.run Sample.server (Sample.stopping 6)).1 = .error .database ∧
      (Sample.refill.run Sample.server (Sample.stopping 6)).2.database.store = Sample.store [] := by
  have stopped : (Sample.refill.run Sample.server (Sample.stopping 6)).1 = .error .database := by
    rfl
  refine ⟨stopped, ?_⟩
  rcases left_by_failure (Prod.ext stopped rfl) with same | ⟨u, writes, -⟩
  · exact same
  · cases writes

/-- The order is done, and then its lines cannot be read: the call fails, and the order stays done.
-/
theorem Call.finished_though_failed :
    (Sample.finish.run Sample.server (Sample.stopping 3)).1 = .error .database ∧
      (Sample.finish.run Sample.server (Sample.stopping 3)).2.database.store ≠ Sample.store [] := by
  refine ⟨by rfl, fun same => ?_⟩
  have states : (Sample.finish.run Sample.server (Sample.stopping 3)).2.database.store.orders.map
      (·.status) = ["done"] := by rfl
  rw [same] at states
  exact absurd states (by decide)

end Tableside
