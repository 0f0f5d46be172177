import Tableside.Proofs.Placement

/-!
# What guests are told of their orders

An order of a guest is trimmed and checked, and its rows are chosen. What the guest is told of it
depends on the store and the request and on nothing that is made up for the order (`Orders.told`,
`Instance.placeOrder_told`). The order is placed just when nothing is missing in the request
(`OrderRequest.Complete`) or in the store (`Store.Grants`), and a complete order that misses
something is told one thing, whatever that is.

The options of a line are to be kept as they are given. They are stored as a text, though, and where
the first line that cannot be written is one whose options do not come back from it
(`Store.Spoils`), the database fails, and so the guest is told.
-/

namespace Tableside

/-! ## Blanks around texts -/

/-- A text with blanks put around it. -/
def Text.Padded (s t : String) : Prop :=
  ∃ lead tail : String, (∀ c ∈ lead.toList, isBlank c = true) ∧
    (∀ c ∈ tail.toList, isBlank c = true) ∧ t = lead ++ s ++ tail

theorem Text.Padded.refl (s : String) : Padded s s :=
  ⟨"", "", fun _ none => absurd none List.not_mem_nil, fun _ none => absurd none List.not_mem_nil,
    by rw [String.append_empty, String.empty_append]⟩

theorem Text.Padded.trim_eq {s t : String} (padded : Padded s t) : trim t = trim s := by
  obtain ⟨lead, tail, blankLead, blankTail, rfl⟩ := padded
  rw [trim, trim, String.toList_append, String.toList_append,
    trimChars_surrounded _ blankLead blankTail]

theorem Text.map_trim_eq {note note' : Option String} (padded : Option.Rel Padded note note') :
    note'.map trim = note.map trim := by
  cases padded with
  | some text => exact congrArg some text.trim_eq
  | none => rfl

namespace OrderRequest

variable {r r' : OrderRequest}

/-- An order with blanks put around its texts. -/
structure Padded (r r' : OrderRequest) : Prop where
  tenant : Text.Padded r.tenant r'.tenant
  tableToken : Text.Padded r.tableToken r'.tableToken
  guestSessionId : Text.Padded r.guestSessionId r'.guestSessionId
  note : Option.Rel Text.Padded r.note r'.note
  items : r'.items = r.items

theorem Padded.normalize_eq (padded : r.Padded r') : r'.normalize = r.normalize := by
  rw [normalize, normalize, padded.tenant.trim_eq, padded.tableToken.trim_eq,
    padded.guestSessionId.trim_eq, Text.map_trim_eq padded.note, padded.items]

end OrderRequest

/-! ## What the store has for an order -/

namespace Store

/-- The tenant of an order is there, with the table and with the item of every line. -/
def Grants (s : Store) (r : OrderRequest) : Prop :=
  ∃ tenant ∈ s.tenants, tenant.code = r.tenant ∧
    (∃ table ∈ s.tables, table.At tenant r.tableToken) ∧ ∀ line ∈ r.items, s.Offers tenant line

/-- The tenant of an order is there, with the table, and so is the item of the first line that
cannot be written: it is the options of that line that do not come back. -/
def Spoils (s : Store) (r : OrderRequest) : Prop :=
  ∃ tenant ∈ s.tenants, tenant.code = r.tenant ∧
    (∃ table ∈ s.tables, table.At tenant r.tableToken) ∧
    ∃ before line after, r.items = before ++ line :: after ∧
      (∀ l ∈ before, s.Offers tenant l ∧ l.storable = true) ∧
      s.Offers tenant line ∧ line.storable = false

end Store

namespace Orders

variable {s : Store} {r : OrderRequest}

/-- The rows of an order are there, and its lines can be written, just when it is not refused. -/
theorem choice_isOk_iff (keyed : s.Keyed) (asked : r.items ≠ []) :
    (∃ c, choice s r = .ok c) ↔ s.Grants r ∧ ∀ line ∈ r.items, line.storable = true := by
  constructor
  · rintro ⟨c, chosen⟩
    rw [choice_of_asked asked] at chosen
    cases named : s.tenantByCode? r.tenant with
    | none =>
      rw [named] at chosen
      cases chosen
    | some tenant =>
      obtain ⟨known, same⟩ := Store.tenantByCode?_eq_some named
      simp only [named] at chosen
      cases scanned : s.tableOf? tenant.id r.tableToken with
      | none =>
        rw [scanned] at chosen
        cases chosen
      | some table =>
        obtain ⟨there, seated⟩ := Store.tableOf?_seated scanned
        simp only [scanned] at chosen
        have fine : ∀ line ∈ r.items, s.Offers tenant line ∧ line.storable = true :=
          fun line member => pick_eq_ok_iff.1 <|
            mapM_isOk_iff.1 (exists_map_eq_ok.1 ⟨c, chosen⟩) line member
        exact ⟨⟨tenant, known, same, ⟨table, there, seated⟩, fun line member =>
          (fine line member).1⟩, fun line member => (fine line member).2⟩
  · rintro ⟨⟨tenant, known, same, ⟨table, there, seated⟩, offered⟩, storable⟩
    cases chosen : choice s r with
    | ok c => exact ⟨c, rfl⟩
    | error e =>
      -- The tenant that is refused something is the one that grants everything.
      have one : ∀ other ∈ s.tenants, other.code = r.tenant → other = tenant :=
        fun other member named => eq_of_key_eq keyed.codes member known (named.trans same.symm)
      cases refused_of_choice chosen with
      | empty nothing => exact absurd nothing asked
      | tenant _ unknown => exact absurd same (unknown tenant known)
      | table _ known' named absent =>
        obtain rfl := one _ known' named
        exact absurd seated (absent table there)
      | @line _ _ before line after _ known' named _ _ split _ wrong =>
        obtain rfl := one _ known' named
        have member : line ∈ r.items := split ▸ List.mem_append_right _ List.mem_cons_self
        rcases wrong with ⟨absent, -⟩ | ⟨-, lost, -⟩
        · exact absurd (offered line member) absent
        · rw [storable line member] at lost
          cases lost

/-- What is missed for an order is one thing to the guest, unless the database fails on the options
of a line. -/
theorem told_of_choice (keyed : s.Keyed) (asked : r.items ≠ []) {e : ApiError}
    (failed : choice s r = .error e) :
    s.Spoils r ∧ e = .database ∨
      ¬s.Spoils r ∧ hideMiss e = .badRequest "order could not be placed" := by
  by_cases spoils : s.Spoils r
  · refine .inl ⟨spoils, ?_⟩
    obtain ⟨tenant, known, same, ⟨table, there, seated⟩, before, line, after, split, fine, offered,
      lost⟩ := spoils
    have refused := choice_of_refused keyed
      (.line known same there seated split fine (.inr ⟨offered, lost, rfl⟩))
    rw [refused] at failed
    exact (Except.error.inj failed).symm
  · refine .inr ⟨spoils, ?_⟩
    cases refused_of_choice failed with
    | empty nothing => exact absurd nothing asked
    | tenant => rfl
    | table => rfl
    | @line tenant table _ _ _ _ known same there seated split fine wrong =>
      rcases wrong with ⟨-, rfl⟩ | ⟨offered, lost, -⟩
      · rfl
      · exact absurd ⟨tenant, known, same, ⟨table, there, seated⟩, _, _, _, split, fine, offered,
          lost⟩ spoils

/-! ## What guests are told -/

/-- What a guest is told: that the order is placed, or why it is not. -/
def told (s : Store) (r : OrderRequest) : Except ApiError Unit :=
  match r.normalize.check with
  | .error e => .error e
  | .ok _ =>
    match choice s r.normalize with
    | .error e => .error (hideMiss e)
    | .ok _ => .ok ()

/-- An order is placed just when nothing is missing and the options of all its lines come back. -/
theorem told_eq_ok_iff (keyed : s.Keyed) : told s r = .ok () ↔
    r.normalize.Complete ∧ s.Grants r.normalize ∧ ∀ line ∈ r.items, line.storable = true := by
  rw [told]
  rcases r.normalize.check_cases with ⟨complete, passed⟩ | ⟨lacks, why, failed⟩
  · rw [passed]
    have chosen := choice_isOk_iff keyed complete.items
    cases result : choice s r.normalize with
    | ok c => exact iff_of_true rfl ⟨complete, chosen.1 ⟨c, result⟩⟩
    | error e =>
      refine iff_of_false (fun h => by cases h) fun ⟨_, granted⟩ => ?_
      obtain ⟨c, found⟩ := chosen.2 granted
      rw [result] at found
      cases found
  · rw [failed]
    exact iff_of_false (fun h => by cases h) fun ⟨complete, _⟩ => lacks complete

/-- Of an order that is not placed a guest is told what is missing in the request, or that the
database failed on the options of a line, or the one thing that is told of all other orders. -/
theorem told_eq_error (keyed : s.Keyed) {e : ApiError} (failed : told s r = .error e) :
    (¬r.normalize.Complete ∧ r.normalize.check = .error e ∧ ∃ why, e = .badRequest why) ∨
      r.normalize.Complete ∧ (s.Spoils r.normalize ∧ e = .database ∨
        ¬s.Spoils r.normalize ∧ e = .badRequest "order could not be placed") := by
  rw [told] at failed
  rcases r.normalize.check_cases with ⟨complete, passed⟩ | ⟨lacks, why, found⟩
  · rw [passed] at failed
    cases chosen : choice s r.normalize with
    | ok c =>
      rw [chosen] at failed
      cases failed
    | error reason =>
      rw [chosen] at failed
      cases failed
      refine .inr ⟨complete, ?_⟩
      rcases told_of_choice keyed complete.items chosen with ⟨spoils, rfl⟩ | ⟨misses, hidden⟩
      · exact .inl ⟨spoils, rfl⟩
      · exact .inr ⟨misses, hidden⟩
  · rw [found] at failed
    cases failed
    exact .inl ⟨lacks, found, why, rfl⟩

/-- Stores in which an order is not placed tell of it alike, if the database fails on its options in
both of them or in neither. -/
theorem told_alike {s' : Store} (keyed : s.Keyed) (keyed' : s'.Keyed) {e e' : ApiError}
    (failed : told s r = .error e) (failed' : told s' r = .error e')
    (alike : s.Spoils r.normalize ↔ s'.Spoils r.normalize) : e = e' := by
  rcases told_eq_error keyed failed, told_eq_error keyed' failed' with
    ⟨⟨lacks, found, -⟩ | ⟨complete, reason⟩, ⟨lacks', found', -⟩ | ⟨complete', reason'⟩⟩
  · exact Except.error.inj (found.symm.trans found')
  · exact absurd complete' lacks
  · exact absurd complete lacks'
  · rcases reason, reason' with
      ⟨⟨spoils, rfl⟩ | ⟨fine, rfl⟩, ⟨spoils', rfl⟩ | ⟨fine', rfl⟩⟩
    · rfl
    · exact absurd (alike.1 spoils) fine'
    · exact absurd (alike.2 spoils') fine
    · rfl

end Orders

namespace Instance

variable {w : World} {fresh : Fresh} {r : OrderRequest}

theorem placeOrder_told (serving : w.database.Serving) (new : fresh.New w.database.store r)
    (i : Instance) :
    (i.placeOrder fresh r w).1 = (Orders.told w.database.store r).map (fun _ =>
        .plain "Order created" ⟨fresh.orderId, .waiting⟩) ∧
      ∀ e, (i.placeOrder fresh r w).1 = .error e → (i.placeOrder fresh r w).2 = w := by
  have new : fresh.New w.database.store r.normalize := ⟨new.toUnusedIn, new.distinct⟩
  rw [Instance.placeOrder, Service.db_wrapped, Orders.place_apply serving, Orders.told,
    Orders.placement_eq_choice new]
  cases r.normalize.check with
  | error e => exact ⟨rfl, fun _ _ => rfl⟩
  | ok _ =>
    cases Orders.choice w.database.store r.normalize with
    | error e => exact ⟨rfl, fun _ _ => rfl⟩
    | ok c =>
      refine ⟨rfl, fun e failed => ?_⟩
      cases failed

theorem told_of_placeOrder (serving : w.database.Serving) (new : fresh.New w.database.store r)
    {i : Instance} {e : ApiError} (failed : (i.placeOrder fresh r w).1 = .error e) :
    Orders.told w.database.store r = .error e := by
  rw [(placeOrder_told serving new i).1] at failed
  cases said : Orders.told w.database.store r with
  | error e' =>
    rw [said] at failed
    exact congrArg Except.error (Except.error.inj failed)
  | ok _ =>
    rw [said] at failed
    cases failed

/-- An order of a guest with new ids is placed just when nothing is missing in the request, the
tenant, the table and the items are there, and the options of every line come back from the text
that they are stored as. Otherwise nothing changes and the order counts as badly requested, unless
the request is complete and the database fails on the options of a line; of a complete request that
misses something else, whatever that is, one thing is told. So two stores in which a request fails,
in both or neither of them for its options, answer it alike. Blanks around the texts change neither
the answer nor what is stored. -/
theorem placed_or_turned_away (serving : w.database.Serving) (keyed : w.database.store.Keyed)
    (new : fresh.New w.database.store r) (i : Instance) :
    ((∃ receipt, (i.placeOrder fresh r w).1 = .ok receipt) ↔
      r.normalize.Complete ∧ w.database.store.Grants r.normalize ∧
        ∀ line ∈ r.items, line.storable = true) ∧
    (∀ e, (i.placeOrder fresh r w).1 = .error e →
      (i.placeOrder fresh r w).2 = w ∧
      (¬r.normalize.Complete ∧ (∃ why, e = .badRequest why) ∨
        r.normalize.Complete ∧ (w.database.store.Spoils r.normalize ∧ e = .database ∨
          ¬w.database.store.Spoils r.normalize ∧
            e = .badRequest "order could not be placed"))) ∧
    (∀ (i' : Instance) (w' : World) (fresh' : Fresh) e e', w'.database.Serving →
      w'.database.store.Keyed → fresh'.New w'.database.store r →
      (i.placeOrder fresh r w).1 = .error e → (i'.placeOrder fresh' r w').1 = .error e' →
      (w.database.store.Spoils r.normalize ↔ w'.database.store.Spoils r.normalize) → e = e') ∧
    ∀ r', r.Padded r' → i.placeOrder fresh r' w = i.placeOrder fresh r w := by
  obtain ⟨answer, unchanged⟩ := placeOrder_told serving new i
  refine ⟨?_, fun e failed => ⟨unchanged e failed, ?_⟩, ?_, fun r' padded => ?_⟩
  · rw [answer, exists_map_eq_ok, ← Orders.told_eq_ok_iff keyed]
    exact ⟨fun ⟨(), said⟩ => said, fun said => ⟨(), said⟩⟩
  · rcases Orders.told_eq_error keyed (told_of_placeOrder serving new failed) with
      ⟨lacks, -, why⟩ | reason
    · exact .inl ⟨lacks, why⟩
    · exact .inr reason
  · intro i' w' fresh' e e' serving' keyed' new' failed failed' alike
    exact Orders.told_alike keyed keyed' (told_of_placeOrder serving new failed)
      (told_of_placeOrder serving' new' failed') alike
  · rw [Instance.placeOrder, Instance.placeOrder, Orders.place, Orders.place, padded.normalize_eq]

/-- Two coffees are ordered, with blanks around the texts or without, and then something that is not
sold. -/
theorem placed_or_turned_away_cafe :
    (∃ receipt, (Sample.bare.placeOrder Sample.fresh Sample.twoLines
      (Sample.world [Sample.bar])).1 = .ok receipt) ∧
    Sample.bare.placeOrder Sample.fresh
        ⟨" cafe ", "window", "guest", some " to go ", Sample.twice⟩ (Sample.world [Sample.bar]) =
      Sample.bare.placeOrder Sample.fresh Sample.twoLines (Sample.world [Sample.bar]) ∧
    (Sample.bare.placeOrder Sample.fresh (Sample.withStranger none)
      (Sample.world [Sample.bar])).1 = .error (.badRequest "order could not be placed") := by
  have sound : (Sample.world [Sample.bar]).Sound := Sample.sound (by decide)
  have known : Sample.cafe ∈ (Sample.store [Sample.bar]).tenants := List.mem_cons_self
  have there : Sample.table ∈ (Sample.store [Sample.bar]).tables := List.mem_cons_self
  obtain ⟨placed, -, -, padding⟩ := placed_or_turned_away sound.serving sound.keyed
    (Sample.fresh_new Sample.twoLines rfl) Sample.bare
  obtain ⟨placed', turnedAway, -⟩ := placed_or_turned_away sound.serving sound.keyed
    (Sample.fresh_new (Sample.withStranger none) rfl) Sample.bare
  have storable : ∀ line ∈ (Sample.withStranger none).items, line.storable = true := by decide
  refine ⟨placed.2 ⟨⟨by decide, by decide, by decide, by decide, by decide⟩, ?_, by decide⟩,
    padding _ ?_, ?_⟩
  · refine ⟨Sample.cafe, known, by decide, ⟨Sample.table, there, by decide, rfl, rfl⟩, ?_⟩
    intro line member
    exact ⟨Sample.coffee, List.mem_cons_self, by revert line; decide, rfl, rfl⟩
  · have blank : ∀ c ∈ " ".toList, Text.isBlank c = true :=
      fun c member => List.mem_singleton.1 member ▸ rfl
    exact ⟨⟨" ", " ", blank, blank, by decide⟩, .refl _, .refl _,
      .some ⟨" ", " ", blank, blank, by decide⟩, rfl⟩
  · cases answer : (Sample.bare.placeOrder Sample.fresh (Sample.withStranger none)
        (Sample.world [Sample.bar])).1 with
    | ok receipt =>
      obtain ⟨-, ⟨tenant, -, -, -, offered⟩, -⟩ := placed'.1 ⟨receipt, answer⟩
      obtain ⟨item, member, named, -⟩ :=
        offered ⟨.ofNat 9, 1, none⟩ (List.mem_cons_of_mem _ List.mem_cons_self)
      obtain rfl := List.mem_singleton.1 member
      exact absurd named (by decide)
    | error e =>
      rcases (turnedAway e answer).2 with ⟨lacks, -⟩ | ⟨-, ⟨spoils, -⟩ | ⟨-, rfl⟩⟩
      · exact absurd ⟨by decide, by decide, by decide, by decide, by decide⟩ lacks
      · obtain ⟨-, -, -, -, before, line, after, split, -, -, lost⟩ := spoils
        have member : line ∈ (Sample.withStranger none).items :=
          split ▸ List.mem_append_right _ List.mem_cons_self
        rw [storable line member] at lost
        cases lost
      · rfl

/-- The order is complete, its tenant, its table and its item are there, and yet it is not placed;
and what the guest is told does not count as badly requested. -/
theorem odd_order_turned_away :
    Sample.fresh.New (Sample.store [Sample.bar]) Sample.oddOrder ∧
      Sample.oddOrder.normalize.Complete ∧
      (Sample.store [Sample.bar]).Grants Sample.oddOrder.normalize ∧
      (Sample.bare.placeOrder Sample.fresh Sample.oddOrder (Sample.world [Sample.bar])).1 =
        .error .database := by
  refine ⟨⟨(Sample.fresh_new Sample.twoLines rfl).toUnusedIn, by decide⟩,
    ⟨by decide, by decide, by decide, by decide, by decide⟩, ⟨Sample.cafe, List.mem_cons_self,
      by decide, ⟨Sample.table, List.mem_cons_self, by decide, rfl, rfl⟩, ?_⟩, rfl⟩
  intro line member
  exact ⟨Sample.coffee, List.mem_cons_self, by revert line; decide, rfl, rfl⟩

end Instance

end Tableside
