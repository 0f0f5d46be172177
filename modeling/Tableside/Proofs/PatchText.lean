import Mathlib.Data.List.Nodup
import Tableside.Catalog.Update
import Tableside.Proofs.JsonText
import Tableside.Proofs.Result

/-!
# What the text of a patch says

An object is taken for a record when each of its fields passes by itself, no known field comes twice
and none is missed (`Slots.read_obj`). This does not depend on the order of the fields, and of an
unknown field it asks only that it can be read, so objects with the same known fields are taken for
the same record (`Slots.Fits.of_perm`). A patch is settled by the value under each of its five names
(`ItemPatch.decode_obj`), and for the description alone it matters whether null stands there or
nothing (`ItemPatch.Separates`).
-/

namespace Tableside

/-- Where keys are unique, a lookup finds every entry. -/
theorem lookup_eq_some_iff_mem {κ β : Type} [DecidableEq κ] {l : List (κ × β)} {key : κ} {b : β}
    (unique : (l.map (·.1)).Nodup) : l.lookup key = some b ↔ (key, b) ∈ l := by
  induction l with
  | nil => simp
  | cons entry rest ih =>
    rcases entry with ⟨key', b'⟩
    obtain ⟨absent, unique⟩ := List.nodup_cons.1 unique
    by_cases same : key = key'
    · subst same
      have elsewhere : (key, b) ∉ rest := fun member =>
        absent (List.mem_map_of_mem (f := (·.1)) member)
      simp [elsewhere, eq_comm]
    · simp [List.lookup_cons, same, ih unique, beq_false_of_ne same]

/-! ## What stands under a name -/

namespace Node

/-- A value stands under a name in an object with these fields. -/
def Holds (fields : List (Option String × Node)) (name : String) (n : Node) : Prop :=
  (some name, n) ∈ fields

/-- Nothing stands under a name. -/
def Lacks (fields : List (Option String × Node)) (name : String) : Prop :=
  ∀ n, ¬Holds fields name n

/-- Null stands under a name, or nothing. -/
def Unset (fields : List (Option String × Node)) (name : String) : Prop :=
  Lacks fields name ∨ Holds fields name .null

end Node

/-! ## Objects that are records -/

namespace Slots

open Node

variable {rules : List FieldRule} {fields other : List (Option String × Node)} {slots : Slots}
  {name : String} {n : Node}

/-- The fields of a record among those of an object. -/
def known (rules : List FieldRule) (fields : List (Option String × Node)) : Slots :=
  fields.filterMap fun
    | (some name, n) => if name ∈ rules.map (·.name) then some (name, n) else none
    | (none, _) => none

/-- A field that has a value its rule accepts, or is unknown and can be passed over. -/
def Passes (rules : List FieldRule) : Option String × Node → Prop
  | (none, _) => False
  | (some name, n) =>
    match rules.find? fun r => r.name == name with
    | none => n.wellFormed = true
    | some rule => rule.check n = .ok ()

/-- An object that can be taken for a record. -/
structure Fits (rules : List FieldRule) (fields : List (Option String × Node)) : Prop where
  passes : ∀ field ∈ fields, Passes rules field
  once : ((known rules fields).map (·.1)).Nodup
  complete : ∀ r ∈ rules, r.mayLack = true ∨ r.name ∈ (known rules fields).map (·.1)

theorem mem_known :
    (name, n) ∈ known rules fields ↔ name ∈ rules.map (·.name) ∧ Holds fields name n := by
  rw [known, List.mem_filterMap]
  constructor
  · intro found
    rcases found with ⟨⟨_ | name', n'⟩, member, taken⟩
    · exact absurd taken (Option.some_ne_none _).symm
    · obtain ⟨listed, same⟩ := Option.ite_none_right_eq_some.1 taken
      cases same
      exact ⟨listed, member⟩
  · intro held
    rcases held with ⟨listed, member⟩
    exact ⟨_, member, if_pos listed⟩

theorem find?_eq_none_iff :
    (rules.find? fun r => r.name == name) = none ↔ name ∉ rules.map (·.name) := by
  simp [List.find?_eq_none]

theorem known_cons_of_none (found : (rules.find? fun r => r.name == name) = none) :
    known rules ((some name, n) :: fields) = known rules fields :=
  List.filterMap_cons_none (if_neg (find?_eq_none_iff.1 found))

theorem known_cons_of_some {rule : FieldRule}
    (found : (rules.find? fun r => r.name == name) = some rule) :
    known rules ((some name, n) :: fields) = (name, n) :: known rules fields := by
  refine List.filterMap_cons_some (if_pos ?_)
  by_contra unlisted
  rw [find?_eq_none_iff.2 unlisted] at found
  cases found

/-- The walk over an object takes the known fields, each once and none that was seen before. -/
theorem ofFields_eq_ok {seen : List String} :
    ofFields rules seen fields = .ok slots ↔
      (∀ field ∈ fields, Passes rules field) ∧ ((known rules fields).map (·.1)).Nodup ∧
        (∀ slot ∈ known rules fields, slot.1 ∉ seen) ∧ slots = known rules fields := by
  induction fields generalizing seen slots with
  | nil => simp [ofFields, known, eq_comm]
  | cons field rest ih =>
    rcases field with ⟨_ | name, n⟩
    · simp [ofFields, Passes]
    rw [List.forall_mem_cons]
    cases found : rules.find? fun r => r.name == name with
    | none =>
      rw [known_cons_of_none found, Passes, found, ofFields, found]
      by_cases well : n.wellFormed = true
      · simp [well, ih]
      · simp [well]
    | some rule =>
      rw [known_cons_of_some found, Passes, found, ofFields, found, List.map_cons,
        List.nodup_cons, List.forall_mem_cons]
      by_cases met : name ∈ seen
      · simp [met]
      · simp only [List.contains_eq_mem, decide_eq_false met, Bool.false_eq_true, if_false,
          bind_eq_ok, ih]
        constructor
        · intro walked
          rcases walked with ⟨_, checked, _, ⟨passes, once, fresh, rfl⟩, done⟩
          cases done
          refine ⟨⟨checked, passes⟩, ⟨fun twice => ?_, once⟩, ⟨met, fun slot member => ?_⟩, rfl⟩
          · obtain ⟨slot, member, same⟩ := List.mem_map.1 twice
            exact fresh slot member (same ▸ List.mem_cons_self)
          · exact fun before => fresh slot member (List.mem_cons_of_mem name before)
        · intro sound
          rcases sound with ⟨⟨checked, passes⟩, ⟨absent, once⟩, ⟨-, fresh⟩, rfl⟩
          refine ⟨(), checked, _, ⟨passes, once, fun slot member => ?_, rfl⟩, rfl⟩
          exact List.not_mem_cons_of_ne_of_not_mem
            (fun same => absent (same ▸ List.mem_map_of_mem member)) (fresh slot member)

theorem read_obj :
    read rules (.obj fields) = .ok slots ↔ Fits rules fields ∧ slots = known rules fields := by
  have whole : (rules.all fun r => r.mayLack || ((known rules fields).lookup r.name).isSome) =
      true ↔ ∀ r ∈ rules, r.mayLack = true ∨ r.name ∈ (known rules fields).map (·.1) := by
    simp [List.lookup_isSome_iff]
  simp only [read, bind_eq_ok, ofFields_eq_ok]
  constructor
  · intro walked
    rcases walked with ⟨_, ⟨passes, once, -, rfl⟩, done⟩
    split at done
    · cases done
      exact ⟨⟨passes, once, whole.1 ‹_›⟩, rfl⟩
    · cases done
  · intro fitting
    rcases fitting with ⟨⟨passes, once, complete⟩, rfl⟩
    exact ⟨_, ⟨passes, once, fun _ _ => List.not_mem_nil, rfl⟩, if_pos (whole.2 complete)⟩

/-! ## The order of fields, and unknown fields -/

/-- A field whose name can be read and that is known or well formed. -/
def Tolerable (rules : List FieldRule) (field : Option String × Node) : Prop :=
  ∃ name, field.1 = some name ∧ (name ∈ rules.map (·.name) ∨ field.2.wellFormed = true)

theorem Passes.tolerable {field : Option String × Node} (passes : Passes rules field) :
    Tolerable rules field := by
  rcases field with ⟨_ | name, n⟩
  · exact passes.elim
  · refine ⟨name, rfl, Decidable.or_iff_not_imp_left.2 fun unlisted => ?_⟩
    rwa [Passes, find?_eq_none_iff.2 unlisted] at passes

namespace Fits

/-- An object with the same known fields, in any order, fits as well if the rest of it is
tolerable. -/
theorem of_perm (fits : Fits rules fields) (same : (known rules other).Perm (known rules fields)) :
    Fits rules other ↔ ∀ field ∈ other, Tolerable rules field := by
  refine ⟨fun fits' field member => (fits'.passes field member).tolerable, fun tolerable => ?_⟩
  have names := same.map (·.1)
  refine ⟨fun field member => ?_, names.nodup_iff.2 fits.once, fun r rule => ?_⟩
  · obtain ⟨name, named, readable⟩ := tolerable field member
    rcases field with ⟨_, n⟩
    cases named
    by_cases listed : name ∈ rules.map (·.name)
    · have here := same.mem_iff.1 (mem_known.2 ⟨listed, member⟩)
      exact fits.passes _ (mem_known.1 here).2
    · rw [Passes, find?_eq_none_iff.2 listed]
      exact readable.resolve_left listed
  · exact (fits.complete r rule).imp_right names.mem_iff.2

theorem lookup_eq_some (fits : Fits rules fields) (listed : name ∈ rules.map (·.name)) :
    (known rules fields).lookup name = some n ↔ Holds fields name n :=
  (lookup_eq_some_iff_mem fits.once).trans (mem_known.trans (and_iff_right listed))

theorem lookup_eq_none (fits : Fits rules fields) (listed : name ∈ rules.map (·.name)) :
    (known rules fields).lookup name = none ↔ Lacks fields name := by
  simp only [Option.eq_none_iff_forall_ne_some, ne_eq, fits.lookup_eq_some listed, Lacks]

/-- What a lookup finds was accepted. -/
theorem check_of_lookup (fits : Fits rules fields) {rule : FieldRule}
    (found : (rules.find? fun r => r.name == name) = some rule)
    (looked : (known rules fields).lookup name = some n) : rule.check n = .ok () := by
  have member := (lookup_eq_some_iff_mem fits.once).1 looked
  have passes := fits.passes _ (mem_known.1 member).2
  rwa [Passes, found] at passes

theorem exists_optional {α : Type} (fits : Fits rules fields) (name : String) (d : Decoder α)
    (found : (rules.find? fun r => r.name == name) = some (.optional name d)) :
    ∃ o, (known rules fields).optional name d = .ok o := by
  rw [Slots.optional]
  cases looked : (known rules fields).lookup name with
  | none => exact ⟨none, rfl⟩
  | some n => exact exists_map_eq_ok.1 ⟨_, fits.check_of_lookup found looked⟩

theorem lookup_of_perm (fits : Fits rules fields)
    (same : (known rules other).Perm (known rules fields)) (name : String) :
    (known rules other).lookup name = (known rules fields).lookup name := by
  have once := (same.map (·.1)).nodup_iff.2 fits.once
  refine Option.ext fun n => ?_
  rw [lookup_eq_some_iff_mem once, lookup_eq_some_iff_mem fits.once, same.mem_iff]

end Fits

end Slots

/-! ## Optional values -/

namespace Node

theorem nullable_of_ne {α : Type} {d : Decoder α} {n : Node} (value : n ≠ .null) :
    nullable d n = (d n).map some := by
  cases n with
  | null => exact absurd rfl value
  | _ => rfl

theorem eq_none_of_nullable {α : Type} {d : Decoder α} {n : Node} {o : Option α}
    (read : nullable d n = .ok o) : o = none ↔ n = .null := by
  by_cases null : n = .null
  · subst null
    cases read
    exact iff_of_true rfl rfl
  · rw [nullable_of_ne null] at read
    cases got : d n with
    | error fault =>
      rw [got] at read
      cases read
    | ok a =>
      rw [got] at read
      cases read
      exact iff_of_false (Option.some_ne_none a) null

end Node

/-! ## Patches -/

namespace ItemPatch

open Node

variable {fields : List (Option String × Node)} {slots : Slots} {p : ItemPatch}

/-- A patch says what the values of its fields say. -/
structure ReadFrom (slots : Slots) (p : ItemPatch) : Prop where
  name : slots.optional "name" Node.text = .ok p.name
  description : changeOf (slots.lookup "description") = .ok p.description
  price : slots.optional "price" Node.int64 = .ok p.price
  categoryId : slots.optional "category_id" Node.uuid = .ok p.categoryId
  isActive : slots.optional "is_active" Node.truth = .ok p.isActive

theorem decode_obj :
    decode (.obj fields) = .ok p ↔
      Slots.Fits ItemPatch.fields fields ∧ p.ReadFrom (Slots.known ItemPatch.fields fields) := by
  simp only [decode, bind_eq_ok, Slots.read_obj]
  constructor
  · intro steps
    rcases steps with
      ⟨_, ⟨fits, rfl⟩, _, name, _, description, _, price, _, categoryId, _, isActive, done⟩
    cases done
    exact ⟨fits, ⟨name, description, price, categoryId, isActive⟩⟩
  · intro settled
    rcases settled with ⟨fits, ⟨name, description, price, categoryId, isActive⟩⟩
    exact ⟨_, ⟨fits, rfl⟩, _, name, _, description, _, price, _, categoryId, _, isActive, rfl⟩

theorem exists_changeOf (fits : Slots.Fits ItemPatch.fields fields) :
    ∃ c, changeOf ((Slots.known ItemPatch.fields fields).lookup "description") = .ok c := by
  cases looked : (Slots.known ItemPatch.fields fields).lookup "description" with
  | none => exact ⟨.keep, rfl⟩
  | some n =>
    obtain ⟨text?, read⟩ := exists_map_eq_ok.1 ⟨_, fits.check_of_lookup rfl looked⟩
    exact ⟨_, by rw [changeOf, read, Except.map]⟩

/-- An object is taken for a patch exactly if its fields fit. -/
theorem exists_decode_obj :
    (∃ p, decode (.obj fields) = .ok p) ↔ Slots.Fits ItemPatch.fields fields := by
  constructor
  · intro decoded
    obtain ⟨p, decoded⟩ := decoded
    exact (decode_obj.1 decoded).1
  · intro fits
    obtain ⟨name, readName⟩ := fits.exists_optional "name" Node.text rfl
    obtain ⟨description, readDescription⟩ := exists_changeOf fits
    obtain ⟨price, readPrice⟩ := fits.exists_optional "price" Node.int64 rfl
    obtain ⟨categoryId, readCategory⟩ := fits.exists_optional "category_id" Node.uuid rfl
    obtain ⟨isActive, readActive⟩ := fits.exists_optional "is_active" Node.truth rfl
    exact ⟨⟨name, description, price, categoryId, isActive⟩,
      decode_obj.2 ⟨fits, readName, readDescription, readPrice, readCategory, readActive⟩⟩

theorem changeOf_eq_ok {found : Option Node} {c : DescriptionChange}
    (read : changeOf found = .ok c) :
    (c = .keep ↔ found = none) ∧ (c = .clear ↔ found = some .null) ∧
      ∀ t, c = .set t ↔ found = some (.str t) := by
  rcases found with _ | n
  · cases read
    simp
  · cases n with
    | null =>
      cases read
      simp
    | str text =>
      cases read
      simp [eq_comm]
    | _ => cases read

/-- A patch sets apart what an object says about the description: nothing, null or a text. Of the
other fields it only says whether they have a value. -/
structure Separates (fields : List (Option String × Node)) (p : ItemPatch) : Prop where
  keep : p.description = .keep ↔ Lacks fields "description"
  clear : p.description = .clear ↔ Holds fields "description" .null
  set : ∀ text, p.description = .set text ↔ Holds fields "description" (.str text)
  name : p.name = none ↔ Unset fields "name"
  price : p.price = none ↔ Unset fields "price"
  categoryId : p.categoryId = none ↔ Unset fields "category_id"
  isActive : p.isActive = none ↔ Unset fields "is_active"

theorem unset_of_optional {α : Type} {d : Decoder α} {name : String} {o : Option α}
    (fits : Slots.Fits ItemPatch.fields fields) (listed : name ∈ ItemPatch.fields.map (·.name))
    (read : (Slots.known ItemPatch.fields fields).optional name d = .ok o) :
    o = none ↔ Unset fields name := by
  rw [Unset, ← fits.lookup_eq_some listed, ← fits.lookup_eq_none listed]
  rw [Slots.optional] at read
  cases found : (Slots.known ItemPatch.fields fields).lookup name with
  | none =>
    rw [found] at read
    cases read
    simp
  | some n =>
    rw [found] at read
    simpa using eq_none_of_nullable read

theorem ReadFrom.separates (fits : Slots.Fits ItemPatch.fields fields)
    (read : p.ReadFrom (Slots.known ItemPatch.fields fields)) : p.Separates fields := by
  have listed : "description" ∈ ItemPatch.fields.map (·.name) := by decide
  obtain ⟨keep, clear, set⟩ := changeOf_eq_ok read.description
  exact {
    keep := keep.trans (fits.lookup_eq_none listed)
    clear := clear.trans (fits.lookup_eq_some listed)
    set := fun text => (set text).trans (fits.lookup_eq_some listed)
    name := unset_of_optional fits (by decide) read.name
    price := unset_of_optional fits (by decide) read.price
    categoryId := unset_of_optional fits (by decide) read.categoryId
    isActive := unset_of_optional fits (by decide) read.isActive }

theorem ReadFrom.of_lookup {slots' : Slots} (read : p.ReadFrom slots)
    (same : ∀ name, slots'.lookup name = slots.lookup name) : p.ReadFrom slots' := by
  have optional {α : Type} (name : String) (d : Decoder α) :
      slots'.optional name d = slots.optional name d := by
    rw [Slots.optional, Slots.optional, same]
  exact {
    name := (optional _ _).trans read.name
    description := (congrArg changeOf (same _)).trans read.description
    price := (optional _ _).trans read.price
    categoryId := (optional _ _).trans read.categoryId
    isActive := (optional _ _).trans read.isActive }

theorem Separates.isEmpty_iff (separates : p.Separates fields) :
    p.isEmpty = true ↔ Lacks fields "description" ∧
      ∀ name ∈ ["name", "price", "category_id", "is_active"], Unset fields name := by
  simp [isEmpty, ← separates.keep, ← separates.name, ← separates.price, ← separates.categoryId,
    ← separates.isActive, and_assoc, and_left_comm]

/-- Objects with the same known fields are decoded alike. -/
theorem decode_perm {other : List (Option String × Node)} {q : ItemPatch}
    (decoded : decode (.obj fields) = .ok p)
    (same : (Slots.known ItemPatch.fields other).Perm (Slots.known ItemPatch.fields fields)) :
    decode (.obj other) = .ok q ↔
      q = p ∧ ∀ field ∈ other, Slots.Tolerable ItemPatch.fields field := by
  obtain ⟨fits, read⟩ := decode_obj.1 decoded
  rw [decode_obj, fits.of_perm same]
  constructor
  · intro decoded'
    rcases decoded' with ⟨tolerable, read'⟩
    have lookups := fun name => (fits.lookup_of_perm same name).symm
    have again : decode (.obj fields) = .ok q := decode_obj.2 ⟨fits, read'.of_lookup lookups⟩
    exact ⟨Except.ok.inj (again.symm.trans decoded), tolerable⟩
  · intro alike
    rcases alike with ⟨rfl, tolerable⟩
    exact ⟨tolerable, read.of_lookup (fits.lookup_of_perm same)⟩

theorem parse_eq_ok {text : String} (object : (Json.read text).root = .obj fields) :
    Json.parse decode text = .ok p ↔
      decode (.obj fields) = .ok p ∧ (Json.read text).trailing = false := by
  simp only [Json.parse, Document.decode, bind_eq_ok, object]
  constructor
  · intro steps
    rcases steps with ⟨_, decoded, done⟩
    split at done
    · cases done
    · cases done
      exact ⟨decoded, Bool.eq_false_iff.2 ‹_›⟩
  · intro settled
    rcases settled with ⟨decoded, whole⟩
    exact ⟨p, decoded, if_neg (Bool.eq_false_iff.1 whole)⟩

/-- A text of an object is taken for a patch exactly if its fields fit and nothing follows it. The
patch tells nothing, null and a text under the name of the description apart, and under the other
names a value from null or nothing. So the patch is empty exactly if nothing stands under the one
and no value under the others. Any text of an object that has the same known fields, in any order,
and besides them only names that can be read with values that are well formed, is taken for this
patch, and for no other. -/
theorem text_settles {text : String} (object : (Json.read text).root = .obj fields) :
    ((∃ p, Json.parse decode text = .ok p) ↔
      Slots.Fits ItemPatch.fields fields ∧ (Json.read text).trailing = false) ∧
    ∀ p, Json.parse decode text = .ok p →
      p.Separates fields ∧
      (p.isEmpty = true ↔ Lacks fields "description" ∧
        ∀ name ∈ ["name", "price", "category_id", "is_active"], Unset fields name) ∧
      ∀ text' fields', (Json.read text').root = .obj fields' →
        (Slots.known ItemPatch.fields fields').Perm (Slots.known ItemPatch.fields fields) →
        ∀ q, Json.parse decode text' = .ok q ↔
          (q = p ∧ ∀ field ∈ fields', Slots.Tolerable ItemPatch.fields field) ∧
            (Json.read text').trailing = false := by
  refine ⟨?_, fun p parsed => ?_⟩
  · simp only [parse_eq_ok object, exists_and_right, exists_decode_obj]
  · have decoded := ((parse_eq_ok object).1 parsed).1
    obtain ⟨fits, read⟩ := decode_obj.1 decoded
    have separates := read.separates fits
    refine ⟨separates, separates.isEmpty_iff, fun text' fields' object' same q => ?_⟩
    rw [parse_eq_ok object', decode_perm decoded same]

/-- Null stands for clearing the description, and for no name; a note in front and another order
change nothing. -/
theorem text_settles_null :
    let text := "\x7b\"price\":100,\"description\":null,\"name\":null\x7d"
    let text' := "\x7b\"note\":[1],\"description\":null,\"name\":null,\"price\":100\x7d"
    let p : ItemPatch := ⟨none, .clear, some 100, none, none⟩
    (Json.read text).root = .obj [(some "price", .num (.int 100)), (some "description", .null),
      (some "name", .null)] ∧
    Json.parse decode text = .ok p ∧ p.isEmpty = false ∧ Json.parse decode text' = .ok p := by
  intro text text' p
  have read : Json.read text = ⟨.obj [(some "price", .num (.int 100)),
      (some "description", .null), (some "name", .null)], false⟩ :=
    Json.read_text (.obj [("price", .num (.int 100)), ("description", .null), ("name", .null)]) rfl
  have read' : Json.read text' = ⟨.obj [(some "note", .arr [.num (.int 1)]),
      (some "description", .null), (some "name", .null), (some "price", .num (.int 100))], false⟩ :=
    Json.read_text (.obj [("note", .arr [.num (.int 1)]), ("description", .null), ("name", .null),
      ("price", .num (.int 100))]) rfl
  have parsed : Json.parse decode text = .ok p := by
    rw [Json.parse, read]
    rfl
  obtain ⟨-, isEmpty_iff, settled⟩ := (text_settles (congrArg Document.root read)).2 p parsed
  refine ⟨congrArg Document.root read, parsed, ?_,
    (settled text' _ (congrArg Document.root read') ?_ p).2
      ⟨⟨rfl, ?_⟩, congrArg Document.trailing read'⟩⟩
  · exact Bool.eq_false_iff.2 fun empty =>
      (isEmpty_iff.1 empty).1 .null (List.mem_cons_of_mem _ List.mem_cons_self)
  · exact List.perm_append_singleton _ [_, _]
  · rw [List.forall_mem_cons]
    refine ⟨⟨"note", rfl, .inr rfl⟩, ?_⟩
    simp [Slots.Tolerable, ItemPatch.fields, FieldRule.optional, FieldRule.defaulted]

end ItemPatch

end Tableside
