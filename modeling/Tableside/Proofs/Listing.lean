import Tableside.Proofs.Cursor
import Tableside.Proofs.Operations

/-!
# One page of a listing

Positions are strictly ordered (`Cursor.before_iff`), and in the years of four digits their order is
that of time and then of ids (`Cursor.before_iff_earlier`). A page is cut from the sorted rows that
are asked for: what it shows descends strictly (`Orders.pageRows_descends`), and a row that is
asked for but not shown lies below the last row shown, whose position is the token of the next page
(`Orders.nextToken?_eq_some`).
-/

namespace Tableside

/-! ## The order of positions -/

/-- Earlier in time, or at the same time with a smaller id. -/
def Cursor.Earlier (a b : Cursor) : Prop :=
  a.createdAt < b.createdAt ∨ (a.createdAt = b.createdAt ∧ a.id < b.id)

theorem Instant.lt_iff {a b : Instant} :
    a < b ↔ a.secs < b.secs ∨ (a.secs = b.secs ∧ a.nanos < b.nanos) := Iff.rfl

theorem Instant.ext_iff {a b : Instant} : a = b ↔ a.secs = b.secs ∧ a.nanos = b.nanos :=
  ⟨by rintro rfl; exact ⟨rfl, rfl⟩, fun ⟨secs, nanos⟩ => key_injective (Prod.ext secs nanos)⟩

theorem Instant.era_of_year {t : Instant} (year : t.FourDigitYear) : t.era = 2 := by
  rw [era, if_neg (Int.not_lt.2 year.2), if_neg (Int.not_lt.2 year.1)]

namespace Cursor

variable {a b c : Cursor}

theorem before_iff : a.before b = true ↔
    a.createdAt.era < b.createdAt.era ∨ (a.createdAt.era = b.createdAt.era ∧
      (a.createdAt.secs < b.createdAt.secs ∨ (a.createdAt.secs = b.createdAt.secs ∧
        (a.createdAt.nanos < b.createdAt.nanos ∨ (a.createdAt.nanos = b.createdAt.nanos ∧
          a.id.toNat < b.id.toNat))))) := by
  have ids : a.id < b.id ↔ a.id.toNat < b.id.toNat := Iff.rfl
  simp only [before, Instant.storedBefore, Bool.or_eq_true, Bool.and_eq_true, decide_eq_true_eq,
    beq_iff_eq, Instant.lt_iff, ids]
  constructor
  · rintro ((era | ⟨era, time⟩) | ⟨same, id⟩)
    · exact .inl era
    · omega
    · rw [same]
      omega
  · rintro (era | ⟨era, secs | ⟨secs, nanos | ⟨nanos, id⟩⟩⟩)
    · exact .inl (.inl era)
    · exact .inl (.inr ⟨era, .inl secs⟩)
    · exact .inl (.inr ⟨era, .inr ⟨secs, nanos⟩⟩)
    · exact .inr ⟨Instant.ext_iff.2 ⟨secs, nanos⟩, id⟩

theorem before_trans (ab : a.before b = true) (bc : b.before c = true) : a.before c = true := by
  rw [before_iff] at *
  omega

theorem not_before_self : a.before a = false := by
  rw [← Bool.not_eq_true, before_iff]
  omega

/-- Of two positions with different ids one is before the other. -/
theorem before_or_before (differs : a.id ≠ b.id) : a.before b = true ∨ b.before a = true := by
  have ids : a.id.toNat ≠ b.id.toNat := fun same => differs (Uuid.toNat_injective same)
  rw [before_iff, before_iff]
  omega

/-- In the years of four digits the order of positions is that of time and then of ids. -/
theorem before_iff_earlier (yearA : a.createdAt.FourDigitYear) (yearB : b.createdAt.FourDigitYear) :
    a.before b = true ↔ a.Earlier b := by
  have ids : a.id < b.id ↔ a.id.toNat < b.id.toNat := Iff.rfl
  rw [before_iff, Instant.era_of_year yearA, Instant.era_of_year yearB, Earlier, Instant.lt_iff,
    Instant.ext_iff, ids]
  omega

end Cursor

namespace OrderRow

variable {a b c : OrderRow}

theorem notBefore_iff : a.notBefore b = true ↔ ¬(a.cursor.before b.cursor = true) := by
  rw [notBefore, Bool.not_eq_true', Bool.not_eq_true]

theorem notBefore_trans (ab : a.notBefore b = true) (bc : b.notBefore c = true) :
    a.notBefore c = true := by
  rw [notBefore_iff, Cursor.before_iff] at *
  omega

theorem notBefore_total (a b : OrderRow) : (a.notBefore b || b.notBefore a) = true := by
  rw [Bool.or_eq_true, notBefore_iff, notBefore_iff, Cursor.before_iff, Cursor.before_iff]
  omega

end OrderRow

/-! ## What a page shows -/

namespace Orders

variable {s : Store} {f : Filter} {limit : Nat}

theorem pageLimit_pos (asked : Option Int) : 0 < pageLimit asked := by
  unfold pageLimit
  split
  · split
    · omega
    · decide
  · decide

/-- The rows that are asked for, newest first. -/
def matching (s : Store) (f : Filter) : List OrderRow :=
  (s.orders.filter f.admits).mergeSort OrderRow.notBefore

theorem mem_matching {o : OrderRow} : o ∈ matching s f ↔ o ∈ s.orders ∧ f.admits o = true := by
  rw [matching, List.mem_mergeSort, List.mem_filter]

/-- Rows with different ids descend strictly. -/
theorem matching_descends (keyed : s.Keyed) (f : Filter) :
    (matching s f).Pairwise fun a b => b.cursor.before a.cursor = true := by
  have sorted : (matching s f).Pairwise fun a b => a.notBefore b = true := by
    rw [matching]
    apply List.pairwise_mergeSort
    · exact fun _ _ _ => OrderRow.notBefore_trans
    · exact OrderRow.notBefore_total
  have distinct : (matching s f).Pairwise fun a b => a.id ≠ b.id := by
    have nodup : (s.orders.map (·.id)).Nodup := keyed.ids .order
    have some : ((s.orders.filter f.admits).map (·.id)).Nodup :=
      nodup.sublist (List.filter_sublist.map _)
    have same : ((matching s f).map (·.id)).Perm ((s.orders.filter f.admits).map (·.id)) :=
      (List.mergeSort_perm _ _).map _
    have all := same.nodup_iff.2 some
    rwa [List.Nodup, List.pairwise_map] at all
  refine (sorted.and distinct).imp fun {a b} ⟨above, differs⟩ => ?_
  rcases Cursor.before_or_before (a := a.cursor) (b := b.cursor) differs with before | before
  · exact absurd before (OrderRow.notBefore_iff.1 above)
  · exact before

theorem newest_eq (s : Store) (f : Filter) (count : Nat) :
    newest s f count = (matching s f).take count := rfl

/-- The rows that a page shows. -/
def pageRows (s : Store) (f : Filter) (limit : Nat) : List OrderRow :=
  (newest s f (limit + 1)).take limit

theorem pageRows_eq (s : Store) (f : Filter) (limit : Nat) :
    pageRows s f limit = (matching s f).take limit := by
  rw [pageRows, newest_eq, List.take_take, Nat.min_eq_left (Nat.le_succ limit)]

theorem mem_of_mem_pageRows {o : OrderRow} (member : o ∈ pageRows s f limit) :
    o ∈ s.orders ∧ f.admits o = true := by
  rw [pageRows_eq] at member
  exact mem_matching.1 (List.mem_of_mem_take member)

theorem pageRows_descends (keyed : s.Keyed) (f : Filter) (limit : Nat) :
    (pageRows s f limit).Pairwise fun a b => b.cursor.before a.cursor = true := by
  rw [pageRows_eq]
  exact (matching_descends keyed f).sublist (List.take_sublist limit _)

/-- Without a next page everything that is asked for is shown. -/
theorem mem_pageRows_of_last (positive : 0 < limit)
    (last : nextToken? (newest s f (limit + 1)) limit = none) {o : OrderRow}
    (member : o ∈ s.orders) (asked : f.admits o = true) : o ∈ pageRows s f limit := by
  rw [newest_eq, nextToken?] at last
  have short : (matching s f).length ≤ limit := by
    by_contra long
    rw [if_pos (by rw [List.length_take]; omega), Option.map_eq_none_iff, List.getLast?_eq_none_iff,
      List.take_take, List.take_eq_nil_iff] at last
    rcases last with none | none
    · omega
    · simp [none] at long
  rw [pageRows_eq, List.take_of_length_le short]
  exact mem_matching.2 ⟨member, asked⟩

/-- The token of the next page is the position of the last row shown, and whatever is asked for but
not shown lies below it. -/
theorem nextToken?_eq_some (keyed : s.Keyed) {token : String}
    (next : nextToken? (newest s f (limit + 1)) limit = some token) :
    ∃ last, (pageRows s f limit).getLast? = some last ∧ token = last.cursor.encode ∧
      ∀ o ∈ s.orders, f.admits o = true →
        o ∈ pageRows s f limit ∨ o.cursor.before last.cursor = true := by
  rw [nextToken?] at next
  split at next
  · obtain ⟨last, found, rfl⟩ := Option.map_eq_some_iff.1 next
    refine ⟨last, found, rfl, fun o member asked => ?_⟩
    have there : o ∈ (matching s f).take limit ++ (matching s f).drop limit := by
      rw [List.take_append_drop]
      exact mem_matching.2 ⟨member, asked⟩
    have descends := matching_descends keyed f
    rw [← List.take_append_drop limit (matching s f), List.pairwise_append] at descends
    rcases List.mem_append.1 there with shown | below
    · exact .inl (pageRows_eq s f limit ▸ shown)
    · have lastShown : last ∈ (matching s f).take limit :=
        pageRows_eq s f limit ▸ List.mem_of_getLast? found
      exact .inr (descends.2.2 last lastShown o below)
  · cases next

/-! ## Pages -/

theorem rows_of_shown {rows : List OrderRow} {data : List Order}
    (read : shown s rows = .ok data) : data.map (·.toOrderRow) = rows := by
  rw [shown] at read
  cases lines : linesRead s (rows.map (·.id)) with
  | error e =>
    rw [lines] at read
    cases read
  | ok lines =>
    rw [‹linesRead s _ = _›] at read
    cases read
    rw [List.map_map]
    exact List.map_id _

theorem page_eq (s : Store) (tenantId : Uuid) (status : Option OrderStatus) (token : Option String)
    (asked : Option Int) :
    page s tenantId status token asked =
      (shown s (pageRows s ⟨tenantId, status, cursorOf? token⟩ (pageLimit asked))).map fun data =>
        { data
          nextCursor := nextToken?
            (newest s ⟨tenantId, status, cursorOf? token⟩ (pageLimit asked + 1)) (pageLimit asked)
          limit := pageLimit asked } := rfl

theorem shown_of_readable (readable : ∀ l ∈ s.lines, l.read?.isSome = true)
    (rows : List OrderRow) : ∃ data, shown s rows = .ok data := by
  obtain ⟨lines, read⟩ :=
    linesRead_of_readable (rows.map (·.id)) fun l member _ => readable l member
  exact ⟨_, by rw [shown, read]; rfl⟩

/-- The token of a position of the four-digit years stands for it. -/
theorem cursorOf?_encode {c : Cursor} (year : c.createdAt.FourDigitYear) :
    cursorOf? (some c.encode) = some c := by
  rw [cursorOf?, Option.bind_some, if_neg (by simp [c.isEmpty_encode])]
  exact Cursor.decode_encode_of_year year

end Orders

end Tableside
