import Tableside.Proofs.GuestOrders

/-!
# The normal form of an order

Before anything is looked up, an order is trimmed and checked. Trimming is a projection onto the
orders in normal form (`OrderRequest.Normal`): what it gives is in normal form, and it leaves what
is in normal form as it is. Two orders have one normal form just when they differ in nothing but the
blanks around their texts, where a blank note counts as none
(`OrderRequest.normalize_eq_normalize_iff`); such orders are placed alike
(`OrderRequest.Alike.place_eq`).

The check of an order names the first thing that is missing (`OrderRequest.Rejected`): a text, then
the lines, then a positive quantity, which is asked of the lines in their order. No other reason
begins as that for a quantity does, so whoever is told of a quantity is told of the first line that
has none (`OrderRequest.normalize_projection`).
-/

namespace Tableside

/-! ## Texts and the blanks around them -/

namespace Text

/-- Nothing but blanks. -/
def Blank (s : String) : Prop :=
  ∀ c ∈ s.toList, isBlank c = true

instance (s : String) : Decidable (Blank s) :=
  decidable_of_iff (s.toList.all isBlank = true) List.all_eq_true

/-- A text that neither begins nor ends with a blank. -/
structure Bare (s : String) : Prop where
  head : ∀ c, s.toList.head? = some c → isBlank c = false
  last : ∀ c, s.toList.getLast? = some c → isBlank c = false

/-- Texts that differ only in the blanks around them. -/
def Alike (s t : String) : Prop :=
  ∃ core, Padded core s ∧ Padded core t

theorem alike_surrounded (lead core tail : String) (blankLead : Blank lead)
    (blankTail : Blank tail) : Alike core (lead ++ core ++ tail) :=
  ⟨core, .refl core, lead, tail, blankLead, blankTail, rfl⟩

theorem bare_trim (s : String) : Bare (trim s) where
  head c head := by
    rw [trim, String.toList_ofList] at head
    exact isBlank_head_trimChars head
  last c last := by
    rw [trim, String.toList_ofList] at last
    exact isBlank_getLast_trimChars last

/-- A text is left as it is just when there is nothing to trim. -/
theorem trim_eq_self_iff {s : String} : trim s = s ↔ Bare s := by
  constructor
  · intro same
    rw [← same]
    exact bare_trim s
  · intro bare
    rw [trim, trimChars_eq_self bare.head bare.last, String.ofList_toList]

/-- A text is its trimmed form with blanks put around it. -/
theorem padded_trim (s : String) : Padded (trim s) s := by
  obtain ⟨lead, tail, blankLead, blankTail, split⟩ := exists_surrounded s.toList
  refine ⟨.ofList lead, .ofList tail, ?_, ?_, String.toList_inj.1 ?_⟩
  · rwa [String.toList_ofList]
  · rwa [String.toList_ofList]
  · rw [String.toList_append, String.toList_append, trim, String.toList_ofList,
      String.toList_ofList, String.toList_ofList]
    exact split

/-- Texts are trimmed to one text just when they differ only in the blanks around them. -/
theorem trim_eq_trim_iff {s t : String} : trim s = trim t ↔ Alike s t := by
  constructor
  · intro same
    exact ⟨trim s, padded_trim s, same ▸ padded_trim t⟩
  · intro alike
    obtain ⟨core, padded, padded'⟩ := alike
    exact padded.trim_eq.trans padded'.trim_eq.symm

end Text

/-- Notes that differ only in the blanks around them, where a blank note counts as none. -/
inductive SameNote : Option String → Option String → Prop
  | text {s t : String} (alike : Text.Alike s t) : SameNote (some s) (some t)
  | nothing {note note' : Option String} (blank : ∀ s ∈ note, Text.Blank s)
    (blank' : ∀ s ∈ note', Text.Blank s) : SameNote note note'

namespace OrderRequest

variable {r r' : OrderRequest}

/-! ## The normal form -/

/-- Nothing is left to trim, and there is no blank note. -/
structure Normal (r : OrderRequest) : Prop where
  tenant : Text.Bare r.tenant
  tableToken : Text.Bare r.tableToken
  guestSessionId : Text.Bare r.guestSessionId
  note : ∀ s ∈ r.note, Text.Bare s ∧ s ≠ ""

/-- Orders that differ only in the blanks around their texts, where a blank note counts as none. -/
structure Alike (r r' : OrderRequest) : Prop where
  tenant : Text.Alike r.tenant r'.tenant
  tableToken : Text.Alike r.tableToken r'.tableToken
  guestSessionId : Text.Alike r.guestSessionId r'.guestSessionId
  note : SameNote r.note r'.note
  items : r.items = r'.items

theorem note_normalize_eq_some_iff {t : String} :
    r.normalize.note = some t ↔ ∃ s ∈ r.note, ¬Text.Blank s ∧ Text.trim s = t := by
  rw [normalize, Option.filter_eq_some_iff]
  constructor
  · intro kept
    obtain ⟨there, solid⟩ := kept
    obtain ⟨s, written, rfl⟩ := Option.map_eq_some_iff.1 there
    refine ⟨s, written, fun blank => ?_, rfl⟩
    rw [Text.trim_eq_empty_iff.2 blank] at solid
    cases solid
  · intro kept
    obtain ⟨s, written, solid, rfl⟩ := kept
    refine ⟨Option.map_eq_some_iff.2 ⟨s, written, rfl⟩, ?_⟩
    simpa [← Text.trim_eq_empty_iff, Text.Blank] using solid

theorem note_normalize_eq_none_iff : r.normalize.note = none ↔ ∀ s ∈ r.note, Text.Blank s := by
  rw [Option.eq_none_iff_forall_ne_some]
  constructor
  · intro absent s written
    by_contra solid
    exact absent _ (note_normalize_eq_some_iff.2 ⟨s, written, solid, rfl⟩)
  · intro blank t kept
    obtain ⟨s, written, solid, -⟩ := note_normalize_eq_some_iff.1 kept
    exact solid (blank s written)

/-- Notes have one normal form just when they say the same. -/
theorem note_normalize_eq_iff :
    r.normalize.note = r'.normalize.note ↔ SameNote r.note r'.note := by
  constructor
  · intro same
    cases kept : r.normalize.note with
    | none =>
      exact .nothing (note_normalize_eq_none_iff.1 kept)
        (note_normalize_eq_none_iff.1 (same.symm.trans kept))
    | some t =>
      obtain ⟨s, written, -, rfl⟩ := note_normalize_eq_some_iff.1 kept
      obtain ⟨s', written', -, trimmed⟩ := note_normalize_eq_some_iff.1 (same.symm.trans kept)
      rw [written, written']
      exact .text (Text.trim_eq_trim_iff.1 trimmed.symm)
  · intro same
    -- The notes become variables, or the cases could not be told apart.
    generalize one : r.note = note, other : r'.note = note' at same
    cases same with
    | nothing blank blank' =>
      rw [note_normalize_eq_none_iff.2 (one ▸ blank), note_normalize_eq_none_iff.2 (other ▸ blank')]
    | text alike =>
      rw [normalize, normalize, one, other]
      dsimp only
      rw [Option.map_some, Option.map_some, Text.trim_eq_trim_iff.2 alike]

/-- What trimming gives is in normal form. -/
theorem normal_normalize (r : OrderRequest) : r.normalize.Normal where
  tenant := Text.bare_trim _
  tableToken := Text.bare_trim _
  guestSessionId := Text.bare_trim _
  note t kept := by
    obtain ⟨solid, same⟩ := r.normalize_trimmed.2 t kept
    exact ⟨Text.trim_eq_self_iff.1 same, solid⟩

/-- What is in normal form is left as it is. -/
theorem Normal.normalize_eq (normal : r.Normal) : r.normalize = r := by
  have note : r.normalize.note = r.note := by
    cases written : r.note with
    | none => rw [note_normalize_eq_none_iff, written]; simp
    | some s =>
      obtain ⟨bare, solid⟩ := normal.note s written
      have trimmed := Text.trim_eq_self_iff.2 bare
      refine note_normalize_eq_some_iff.2 ⟨s, written, fun blank => ?_, trimmed⟩
      exact solid (trimmed.symm.trans (Text.trim_eq_empty_iff.2 blank))
  calc r.normalize
      = ⟨Text.trim r.tenant, Text.trim r.tableToken, Text.trim r.guestSessionId,
          r.normalize.note, r.items⟩ := rfl
    _ = r := by
      rw [Text.trim_eq_self_iff.2 normal.tenant, Text.trim_eq_self_iff.2 normal.tableToken,
        Text.trim_eq_self_iff.2 normal.guestSessionId, note]

@[simp] theorem normalize_normalize (r : OrderRequest) : r.normalize.normalize = r.normalize :=
  r.normal_normalize.normalize_eq

/-- Orders have one normal form just when they differ only in the blanks around their texts. -/
theorem normalize_eq_normalize_iff : r.normalize = r'.normalize ↔ r.Alike r' := by
  have fields : r.normalize = r'.normalize ↔
      Text.trim r.tenant = Text.trim r'.tenant ∧
      Text.trim r.tableToken = Text.trim r'.tableToken ∧
      Text.trim r.guestSessionId = Text.trim r'.guestSessionId ∧
      r.normalize.note = r'.normalize.note ∧ r.items = r'.items := by
    rw [normalize, normalize, OrderRequest.mk.injEq]
  rw [fields, Text.trim_eq_trim_iff, Text.trim_eq_trim_iff, Text.trim_eq_trim_iff,
    note_normalize_eq_iff]
  constructor
  · intro same
    obtain ⟨tenant, tableToken, guestSessionId, note, items⟩ := same
    exact ⟨tenant, tableToken, guestSessionId, note, items⟩
  · intro alike
    exact ⟨alike.tenant, alike.tableToken, alike.guestSessionId, alike.note, alike.items⟩

/-- Orders that differ only in the blanks around their texts are placed alike. -/
theorem Alike.place_eq (alike : r.Alike r') (fresh : Fresh) :
    Orders.place fresh r = Orders.place fresh r' := by
  rw [Orders.place, Orders.place, normalize_eq_normalize_iff.2 alike]

/-! ## What the check finds -/

/-- The three texts of an order are there. -/
structure Identified (r : OrderRequest) : Prop where
  tenant : r.tenant ≠ ""
  tableToken : r.tableToken ≠ ""
  guestSessionId : r.guestSessionId ≠ ""

/-- A line is the first of an order whose quantity is not positive. -/
def FirstOffender (r : OrderRequest) (line : LineRequest) : Prop :=
  ∃ before after, r.items = before ++ line :: after ∧
    (∀ l ∈ before, 0 < l.qty.toInt) ∧ ¬0 < line.qty.toInt

/-- Why an order is rejected: the first thing that is missing. -/
inductive Rejected (r : OrderRequest) : ApiError → Prop
  | tenant (absent : r.tenant = "") : Rejected r (.badRequest "tenant is required")
  | tableToken (tenant : r.tenant ≠ "") (absent : r.tableToken = "") :
    Rejected r (.badRequest "table_token is required")
  | guestSessionId (tenant : r.tenant ≠ "") (tableToken : r.tableToken ≠ "")
    (absent : r.guestSessionId = "") : Rejected r (.badRequest "guest_session_id is required")
  | items (identified : r.Identified) (absent : r.items = []) :
    Rejected r (.badRequest "order must contain at least one item")
  | quantity {line : LineRequest} (identified : r.Identified) (first : r.FirstOffender line) :
    Rejected r (.badRequest ("qty must be positive for item " ++ line.itemId.text))

theorem FirstOffender.items_ne_nil {line : LineRequest} (first : r.FirstOffender line) :
    r.items ≠ [] := by
  obtain ⟨before, after, split, -⟩ := first
  simp [split]

theorem find?_eq_some_iff_firstOffender {line : LineRequest} :
    (r.items.find? fun line => line.qty.toInt ≤ 0) = some line ↔ r.FirstOffender line := by
  simp only [List.find?_eq_some_iff_append, decide_eq_true_eq, Bool.not_eq_true',
    decide_eq_false_iff_not, Int.not_le, FirstOffender, Int.not_lt]
  constructor
  · intro found
    obtain ⟨offends, before, after, split, fine⟩ := found
    exact ⟨before, after, split, fine, offends⟩
  · intro first
    obtain ⟨before, after, split, fine, offends⟩ := first
    exact ⟨offends, before, after, split, fine⟩

theorem check_eq_ok_iff : r.check = .ok () ↔ r.Complete :=
  ⟨complete_of_check, Complete.check_eq_ok⟩

/-- The check fails with the first thing that is missing, and with nothing else. -/
theorem check_eq_error_iff {e : ApiError} : r.check = .error e ↔ r.Rejected e := by
  rw [check]
  constructor
  · intro failed
    split at failed
    · rename_i absent
      cases failed
      exact .tenant (String.isEmpty_iff.1 absent)
    rename_i tenant
    rw [String.isEmpty_iff] at tenant
    split at failed
    · rename_i absent
      cases failed
      exact .tableToken tenant (String.isEmpty_iff.1 absent)
    rename_i tableToken
    rw [String.isEmpty_iff] at tableToken
    split at failed
    · rename_i absent
      cases failed
      exact .guestSessionId tenant tableToken (String.isEmpty_iff.1 absent)
    rename_i guestSessionId
    rw [String.isEmpty_iff] at guestSessionId
    have identified : r.Identified := ⟨tenant, tableToken, guestSessionId⟩
    split at failed
    · rename_i absent
      cases failed
      exact .items identified (List.isEmpty_iff.1 absent)
    split at failed
    · rename_i line found
      cases failed
      exact .quantity identified (find?_eq_some_iff_firstOffender.1 found)
    · cases failed
  · intro rejected
    cases rejected with
    | tenant absent => simp [absent]
    | tableToken tenant absent => simp [tenant, absent]
    | guestSessionId tenant tableToken absent => simp [tenant, tableToken, absent]
    | items identified absent =>
      simp [identified.tenant, identified.tableToken, identified.guestSessionId, absent, noItems]
    | quantity identified first =>
      simp [identified.tenant, identified.tableToken, identified.guestSessionId,
        first.items_ne_nil, find?_eq_some_iff_firstOffender.2 first]

/-- No other reason begins as that for a quantity does. -/
theorem quantity_of_rejected {why : String} (rejected : r.Rejected (.badRequest ("qty" ++ why))) :
    r.Identified ∧ ∃ line, r.FirstOffender line ∧
      why = " must be positive for item " ++ line.itemId.text := by
  generalize said : ApiError.badRequest ("qty" ++ why) = e at rejected
  have heads : ∀ reason, e = .badRequest reason → reason.toList.head? = some 'q' := by
    intro reason same
    rw [← said] at same
    rw [← ApiError.badRequest.inj same, String.toList_append]
    rfl
  cases rejected with
  -- The other reasons begin with another letter.
  | tenant => exact absurd (heads _ rfl) (by decide)
  | tableToken => exact absurd (heads _ rfl) (by decide)
  | guestSessionId => exact absurd (heads _ rfl) (by decide)
  | items => exact absurd (heads _ rfl) (by decide)
  | @quantity line identified first =>
    refine ⟨identified, line, first, ?_⟩
    have same := ApiError.badRequest.inj said
    have parts : "qty must be positive for item " = "qty" ++ " must be positive for item " := rfl
    rw [parts, String.append_assoc] at same
    exact (String.append_right_inj _).1 same

/-! ## Trimming and checking -/

/-- Trimming an order is a projection, and the outcome of the check goes along with it. What is
trimmed is left as it is when it is trimmed again, whether it passes the check or not, and the lines
are never touched. Orders have one trimmed form, and with it one outcome, just when they differ only
in the blanks around their texts. An order passes when its trimmed texts are there and a line, and
all its quantities are positive; otherwise the first thing that is missing is named, and for the
quantities it is the first line whose quantity is not positive. -/
theorem normalize_projection (r : OrderRequest) :
    r.normalize.normalize = r.normalize ∧
    r.normalize.normalize.check = r.normalize.check ∧
    r.normalize.items = r.items ∧
    (∀ r', r.Alike r' ↔
      r'.normalize = r.normalize ∧ r'.normalize.check = r.normalize.check) ∧
    (r.normalize.check = .ok () ↔
      Text.trim r.tenant ≠ "" ∧ Text.trim r.tableToken ≠ "" ∧ Text.trim r.guestSessionId ≠ "" ∧
        r.items ≠ [] ∧ ∀ line ∈ r.items, 0 < line.qty.toInt) ∧
    (∀ e, r.normalize.check = .error e ↔ r.normalize.Rejected e) ∧
    ∀ why, r.normalize.check = .error (.badRequest ("qty" ++ why)) ↔
      (Text.trim r.tenant ≠ "" ∧ Text.trim r.tableToken ≠ "" ∧ Text.trim r.guestSessionId ≠ "") ∧
        ∃ line, r.FirstOffender line ∧
          why = " must be positive for item " ++ line.itemId.text := by
  refine ⟨r.normalize_normalize, congrArg check r.normalize_normalize, rfl, fun r' => ?_, ?_,
    fun e => check_eq_error_iff, fun why => ?_⟩
  · rw [← normalize_eq_normalize_iff]
    constructor
    · intro same
      exact ⟨same.symm, congrArg check same.symm⟩
    · intro same
      exact same.1.symm
  · rw [check_eq_ok_iff]
    constructor
    · intro complete
      exact ⟨complete.tenant, complete.tableToken, complete.guestSessionId, complete.items,
        complete.quantities⟩
    · intro there
      obtain ⟨tenant, tableToken, guestSessionId, items, quantities⟩ := there
      exact ⟨tenant, tableToken, guestSessionId, items, quantities⟩
  · rw [check_eq_error_iff]
    constructor
    · intro rejected
      obtain ⟨⟨tenant, tableToken, guestSessionId⟩, offender⟩ := quantity_of_rejected rejected
      exact ⟨⟨tenant, tableToken, guestSessionId⟩, offender⟩
    · intro offended
      obtain ⟨⟨tenant, tableToken, guestSessionId⟩, line, first, rfl⟩ := offended
      rw [← String.append_assoc]
      exact .quantity ⟨tenant, tableToken, guestSessionId⟩ first

end OrderRequest

namespace Sample

/-- An order with blanks around its texts, some of them not in ASCII, and a blank note. -/
def loose (items : List LineRequest) : OrderRequest :=
  ⟨" cafe\u3000", "\twindow", "guest\n", some "\u00a0 ", items⟩

/-- The same order as it is trimmed. -/
def tight (items : List LineRequest) : OrderRequest :=
  ⟨"cafe", "window", "guest", none, items⟩

/-- A coffee, none of something else, and less than none of a third thing. -/
def wanting : List LineRequest :=
  [⟨coffee.id, 1, none⟩, ⟨.ofNat 9, 0, none⟩, ⟨.ofNat 10, -1, none⟩]

end Sample

namespace OrderRequest

/-- Two coffees are ordered loosely and pass as they do when they are ordered tightly; among wanting
lines the second is the first whose quantity is not positive. -/
theorem normalize_projection_loose :
    (Sample.loose Sample.twice).normalize = (Sample.tight Sample.twice).normalize ∧
    (Sample.loose Sample.twice).normalize.check = .ok () ∧
    (Sample.loose Sample.wanting).normalize.check =
      .error (.badRequest ("qty must be positive for item " ++ (Uuid.ofNat 9).text)) ∧
    (Sample.loose Sample.wanting).normalize.items = Sample.wanting := by
  have alike : (Sample.tight Sample.twice).Alike (Sample.loose Sample.twice) := {
    tenant := Text.alike_surrounded " " "cafe" "\u3000" (by decide) (by decide)
    tableToken := Text.alike_surrounded "\t" "window" "" (by decide) (by decide)
    guestSessionId := Text.alike_surrounded "" "guest" "\n" (by decide) (by decide)
    note := .nothing (fun s written => nomatch written) fun s written => by
      cases written
      decide
    items := rfl }
  obtain ⟨-, -, -, alike_iff, -⟩ := normalize_projection (Sample.tight Sample.twice)
  obtain ⟨-, -, -, -, passes, -⟩ := normalize_projection (Sample.loose Sample.twice)
  obtain ⟨-, -, items, -, -, -, offends⟩ := normalize_projection (Sample.loose Sample.wanting)
  refine ⟨((alike_iff _).1 alike).1, passes.2 (by decide), ?_, items⟩
  have first : (Sample.loose Sample.wanting).FirstOffender ⟨.ofNat 9, 0, none⟩ :=
    ⟨[⟨Sample.coffee.id, 1, none⟩], [⟨.ofNat 10, -1, none⟩], rfl, by decide, by decide⟩
  have said := (offends _).2 ⟨by decide, _, first, rfl⟩
  rwa [← String.append_assoc] at said

end OrderRequest

end Tableside
