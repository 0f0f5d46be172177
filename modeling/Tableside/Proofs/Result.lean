import Mathlib.Data.List.Forall2

/-!
# Outcomes and lists of them

What holds of `Except` and `Option` whatever is computed: when a step after another one succeeds,
what a run over a list comes to, told by its members, and which member is to blame when the run
fails. The last section is about lists whose members belong together in pairs.
-/

namespace Tableside

/-! ## One outcome -/

section Outcome

variable {ε α β : Type}

theorem ok_ne_error {a : α} {e : ε} : (.ok a : Except ε α) ≠ .error e := by
  rintro ⟨⟩

theorem bind_eq_ok {x : Except ε α} {f : α → Except ε β} {b : β} :
    (x >>= f) = .ok b ↔ ∃ a, x = .ok a ∧ f a = .ok b := by
  cases x with
  | error e => exact ⟨fun failed => (nomatch failed), fun ⟨_, failed, _⟩ => (nomatch failed)⟩
  | ok a => exact ⟨fun done => ⟨a, rfl, done⟩, fun ⟨_, rfl, done⟩ => done⟩

theorem exists_map_eq_ok {x : Except ε α} {f : α → β} :
    (∃ b, x.map f = .ok b) ↔ ∃ a, x = .ok a := by
  cases x with
  | error e =>
    refine iff_of_false ?_ ?_
    · rintro ⟨b, ⟨⟩⟩
    · rintro ⟨a, ⟨⟩⟩
  | ok a => exact ⟨fun _ => ⟨a, rfl⟩, fun _ => ⟨f a, rfl⟩⟩

theorem map_eq_error_iff {x : Except ε α} {f : α → β} {e : ε} :
    x.map f = .error e ↔ x = .error e := by
  cases x with
  | error e' => exact ⟨fun failed => by cases failed; rfl, fun failed => by cases failed; rfl⟩
  | ok a => exact iff_of_false ok_ne_error ok_ne_error

end Outcome

/-! ## A run over a list -/

section Except

variable {ε α β : Type} {f : α → Except ε β} {l : List α}

/-- Attempts in turn succeed just when each of them does. -/
theorem mapM_isOk_iff : (∃ ys, l.mapM f = .ok ys) ↔ ∀ x ∈ l, ∃ y, f x = .ok y := by
  induction l with
  | nil => exact iff_of_true ⟨[], rfl⟩ (List.forall_mem_nil _)
  | cons x rest ih =>
    rw [List.mapM_cons, List.forall_mem_cons, ← ih]
    cases f x with
    | error e =>
      refine iff_of_false ?_ ?_
      · rintro ⟨ys, ⟨⟩⟩
      · rintro ⟨⟨y, ⟨⟩⟩, -⟩
    | ok y =>
      cases rest.mapM f with
      | error e =>
        refine iff_of_false ?_ ?_
        · rintro ⟨ys, ⟨⟩⟩
        · rintro ⟨-, ys, ⟨⟩⟩
      | ok ys => exact iff_of_true ⟨y :: ys, rfl⟩ ⟨⟨y, rfl⟩, ys, rfl⟩

/-- Attempts in turn fail as the first of them does that fails. -/
theorem mapM_eq_error_iff {e : ε} :
    l.mapM f = .error e ↔ ∃ before a after, l = before ++ a :: after ∧
      (∀ b ∈ before, ∃ y, f b = .ok y) ∧ f a = .error e := by
  constructor
  · intro failed
    induction l with
    | nil => cases failed
    | cons x rest ih =>
      rw [List.mapM_cons] at failed
      cases here : f x with
      | error e' =>
        rw [here] at failed
        cases failed
        exact ⟨[], x, rest, rfl, List.forall_mem_nil _, here⟩
      | ok y =>
        cases others : rest.mapM f with
        | error e' =>
          rw [here, others] at failed
          cases failed
          obtain ⟨before, a, after, rfl, fine, wrong⟩ := ih others
          exact ⟨x :: before, a, after, rfl, List.forall_mem_cons.2 ⟨⟨y, here⟩, fine⟩, wrong⟩
        | ok ys =>
          rw [here, others] at failed
          cases failed
  · intro ⟨before, a, after, split, fine, wrong⟩
    obtain ⟨ys, done⟩ := mapM_isOk_iff.2 fine
    rw [split, List.mapM_append, done, List.mapM_cons, wrong]
    rfl

end Except

section Option

variable {α β : Type} {f : α → Option β} {l : List α} {ys : List β}

/-- A list is read just when each of its members is. -/
theorem mapM_isSome_iff : (∃ ys, l.mapM f = some ys) ↔ ∀ x ∈ l, (f x).isSome = true := by
  induction l with
  | nil => exact iff_of_true ⟨[], rfl⟩ (List.forall_mem_nil _)
  | cons x rest ih =>
    rw [List.mapM_cons, List.forall_mem_cons, ← ih]
    cases f x with
    | none => simp
    | some y => cases rest.mapM f <;> simp

end Option

/-! ## Lists in pairs -/

section Pairs

variable {α β γ : Type} {related : α → β → Prop} {as : List α} {bs : List β}

/-- What is the same in each pair is the same in the lists. -/
theorem map_of_pairs {f : α → γ} {g : β → γ} (pairs : List.Forall₂ related as bs)
    (same : ∀ a b, related a b → f a = g b) : as.map f = bs.map g := by
  have equal := List.rel_map (P := (· = ·)) (fun ⦃a b⦄ => same a b) pairs
  rwa [List.forall₂_eq_eq_eq] at equal

theorem exists_of_pairs (pairs : List.Forall₂ related as bs) {b : β} (member : b ∈ bs) :
    ∃ a ∈ as, related a b := by
  induction pairs with
  | nil => cases member
  | cons first _ ih =>
    rcases List.mem_cons.1 member with rfl | later
    · exact ⟨_, List.mem_cons_self, first⟩
    · obtain ⟨a, there, holds⟩ := ih later
      exact ⟨a, List.mem_cons_of_mem _ there, holds⟩

end Pairs

end Tableside
