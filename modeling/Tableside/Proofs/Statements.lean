import Tableside.Proofs.Result
import Tableside.Store.Database

/-!
# What statements do

Runs of statements are functions from a database to an answer and a database. The equations here
compute them: how steps follow each other (`Db.bind_apply`), and what a single step does on a
database that answers everything (`Database.Serving`). There a question only asks, a write changes
the store alone or is refused, and a transaction keeps the writes of a body that succeeds and takes
back those of one that fails.
-/

namespace Tableside

/-! ## Steps in turn -/

namespace Db

variable {α β : Type} {d d' : Database}

@[simp] theorem pure_apply (a : α) (d : Database) : (pure a : Db α) d = (.ok a, d) := rfl

/-- The second step starts where the first one ended, unless that failed. -/
theorem bind_apply (m : Db α) (k : α → Db β) (d : Database) :
    (m >>= k) d = match m d with
      | (.ok a, d) => k a d
      | (.error e, d) => (.error e, d) := by
  simp only [bind, ExceptT.bind, ExceptT.mk, StateT.bind]
  rcases m d with ⟨_ | a, d'⟩
  · rfl
  · rfl

theorem bind_of_ok {m : Db α} {a : α} (k : α → Db β) (h : m d = (.ok a, d')) :
    (m >>= k) d = k a d' := by
  rw [bind_apply, h]

theorem bind_of_error {m : Db α} {e : ApiError} (k : α → Db β) (h : m d = (.error e, d')) :
    (m >>= k) d = (.error e, d') := by
  rw [bind_apply, h]

end Db

/-! ## A database that answers everything -/

/-- Every statement is answered, about every table. -/
structure Database.Serving (d : Database) : Prop where
  answers : d.answers = none
  tables : ∀ e, e ∈ d.tables

namespace Database.Serving

variable {α β : Type} {d : Database}

/-- A database that serves goes on serving whatever is in its store. -/
theorem withStore (serving : d.Serving) (s : Store) : ({ d with store := s } : Database).Serving :=
  ⟨serving.answers, serving.tables⟩

theorem execute (serving : d.Serving) (s : Statement α) :
    d.execute s = match s d with
      | .ok (a, d) => (.ok a, d)
      | .error fault => (.error fault, d) := by
  have kept : { d with answers := d.answers.map (· - 1) } = d := by
    rw [serving.answers]
    cases d
    cases serving.answers
    rfl
  rw [Database.execute, if_neg (by simp [serving.answers])]
  cases ran : s d with
  | ok result => simp only [kept, ran]
  | error fault => simp only [kept, ran]

theorem select (serving : d.Serving) (e : Entity) (ask : Store → α) :
    Db.select e ask d = (.ok (ask d.store), d) := by
  rw [Db.select, Db.run, serving.execute, Statement.select, if_pos (serving.tables e)]

/-- A row that is looked for is the answer, or its lack is. -/
theorem find (serving : d.Serving) (e : Entity) (ask : Store → Option α) (missing : ApiError) :
    Db.find e ask missing d =
      ((match ask d.store with | some a => .ok a | none => .error missing), d) := by
  rw [Db.find, Db.bind_of_ok _ (serving.select e ask)]
  cases ask d.store <;> rfl

theorem find_some (serving : d.Serving) {e : Entity} {ask : Store → Option α} {a : α}
    (found : ask d.store = some a) (missing : ApiError) :
    Db.find e ask missing d = (.ok a, d) := by
  rw [serving.find, found]

theorem find_none (serving : d.Serving) {e : Entity} {ask : Store → Option α}
    (absent : ask d.store = none) (missing : ApiError) :
    Db.find e ask missing d = (.error missing, d) := by
  rw [serving.find, absent]

/-- A write changes the store, or is refused and changes nothing. -/
theorem writeOnly (serving : d.Serving) (e : Entity) (change : Bool → Store → Except Fault Store) :
    Db.run (Statement.writeOnly e change) d = match change d.foreignKeys d.store with
      | .ok s => (.ok (), { d with store := s })
      | .error _ => (.error .database, d) := by
  rw [Db.run, serving.execute, Statement.writeOnly, Statement.write, if_pos (serving.tables e)]
  cases change d.foreignKeys d.store <;> rfl

theorem mark (serving : d.Serving) : Db.run .mark d = (.ok (), d) := by
  rw [Db.run, serving.execute]
  rfl

theorem transaction_of_ok (serving : d.Serving) {body : Db α} {a : α} {d' : Database}
    (serving' : d'.Serving) (ran : body d = (.ok a, d')) :
    Db.transaction body d = (.ok a, d') := by
  simp only [Db.transaction, serving.mark, ran, serving'.mark]

theorem transaction_of_error (serving : d.Serving) {body : Db α} {e : ApiError} {d' : Database}
    (ran : body d = (.error e, d')) :
    Db.transaction body d = (.error e, { d' with store := d.store }) := by
  simp only [Db.transaction, serving.mark, ran]

end Database.Serving

end Tableside
