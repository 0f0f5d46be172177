import Tableside.Catalog.Menu
import Tableside.Proofs.Cursor
import Tableside.Proofs.JsonText

/-!
# Snapshots of menus

The snapshot of a menu is a text that is not empty and that gives the menu back, whatever names and
numbers stand in it (`Menu.ofSnapshot?_snapshot`). Records are decoded from the nodes of their own
JSON forms first; then the text is read.
-/

namespace Tableside

/-! ## Parts of records -/

namespace Node

@[simp] theorem text_str (s : String) : text (.str s) = .ok s := rfl

@[simp] theorem truth_bool (b : Bool) : truth (.bool b) = .ok b := rfl

@[simp] theorem uuid_text (u : Uuid) : uuid (.str u.text) = .ok u := by
  simp [uuid, parsed, bind, Except.bind]

@[simp] theorem int32_toInt (n : Int32) : int32 (.num (.int n.toInt)) = .ok n := by
  have range : Int32.minValue.toInt ≤ n.toInt ∧ n.toInt ≤ Int32.maxValue.toInt :=
    ⟨n.minValue_le_toInt, n.toInt_le⟩
  rw [int32, int, if_pos range, Except.map, Int32.ofInt_toInt]

@[simp] theorem int64_toInt (n : Int64) : int64 (.num (.int n.toInt)) = .ok n := by
  have range : Int64.minValue.toInt ≤ n.toInt ∧ n.toInt ≤ Int64.maxValue.toInt :=
    ⟨n.minValue_le_toInt, n.toInt_le⟩
  rw [int64, int, if_pos range, Except.map, Int64.ofInt_toInt]

theorem ofItems_eq_map (items : List Json) : ofItems items = items.map ofJson := by
  induction items with
  | nil => rfl
  | cons j rest ih => rw [ofItems, ih, List.map_cons]

/-- A list is decoded when each of its items is. -/
theorem list_ofJson {α : Type} {d : Decoder α} {json : α → Json}
    (decoded : ∀ a, d (ofJson (json a)) = .ok a) (as : List α) :
    list d (ofJson (.arr (as.map json))) = .ok as := by
  rw [ofJson, ofItems_eq_map, list, List.map_map]
  induction as with
  | nil => rfl
  | cons a as ih =>
    rw [List.map_cons, List.mapM_cons, ih, Function.comp, decoded]
    rfl

end Node

/-! ## Records -/

theorem Category.decode_json (c : Category) : decode (Node.ofJson c.json) = .ok c := by
  simp [decode, json, fields, Uuid.json, Json.int, Node.ofJson, Node.ofFields, Slots.read,
    Slots.ofFields, FieldRule.required, Slots.required, Except.map, bind, Except.bind, pure,
    Except.pure, List.lookup_cons]

theorem Item.decode_json (i : Item) : decode (Node.ofJson i.json) = .ok i := by
  obtain ⟨id, tenantId, categoryId, name, description, price, isActive⟩ := i
  cases description with
  | none =>
    simp [decode, json, fields, Uuid.json, Json.int, Json.optionalField, Node.ofJson, Node.ofFields,
      Slots.read, Slots.ofFields, FieldRule.required, FieldRule.optional, Slots.required,
      Slots.optional, Except.map, bind, Except.bind, pure, Except.pure, List.lookup_cons]
  | some text =>
    simp [decode, json, fields, Uuid.json, Json.int, Json.optionalField, Node.ofJson, Node.ofFields,
      Node.nullable, Slots.read, Slots.ofFields, FieldRule.required, FieldRule.optional,
      Slots.required, Slots.optional, Except.map, bind, Except.bind, pure, Except.pure,
      List.lookup_cons]

theorem Menu.decode_json (m : Menu) : decode (Node.ofJson m.json) = .ok m := by
  have categories := Node.list_ofJson Category.decode_json m.categories
  have items := Node.list_ofJson Item.decode_json m.items
  have node : Node.ofJson m.json = .obj [(some "tenant", .str m.tenant),
      (some "categories", Node.ofJson (.arr (m.categories.map Category.json))),
      (some "items", Node.ofJson (.arr (m.items.map Item.json)))] := rfl
  rw [node]
  simp [decode, fields, Slots.read, Slots.ofFields, FieldRule.required, Slots.required, categories,
    items, Except.map, bind, Except.bind, pure, Except.pure, List.lookup_cons]

/-! ## Texts -/

theorem Json.plainItems_map {α : Type} {json : α → Json} (whole : ∀ a, (json a).plain = true)
    (as : List α) : plainItems (as.map json) = true := by
  induction as with
  | nil => rfl
  | cons a as ih => rw [List.map_cons, plainItems, whole, ih, Bool.and_self]

theorem NumberText.fits_int32 (n : Int32) : Fits n.toInt := by
  have low := n.minValue_le_toInt
  have high := n.toInt_lt
  have least : Int32.minValue.toInt = -2147483648 := by decide
  unfold Fits
  omega

theorem NumberText.fits_int64 (n : Int64) : Fits n.toInt := by
  have low := n.minValue_le_toInt
  have high := n.toInt_lt
  have least : Int64.minValue.toInt = -9223372036854775808 := by decide
  unfold Fits
  omega

theorem Category.plain_json (c : Category) : c.json.plain = true := by
  simp [json, Uuid.json, Json.int, Json.plain, Json.plainFields, NumberText.fits_int32]

theorem Item.plain_json (i : Item) : i.json.plain = true := by
  obtain ⟨id, tenantId, categoryId, name, description, price, isActive⟩ := i
  cases description <;>
    simp [json, Uuid.json, Json.int, Json.optionalField, Json.plain, Json.plainFields,
      NumberText.fits_int64]

theorem Menu.plain_json (m : Menu) : m.json.plain = true := by
  have categories := Json.plainItems_map Category.plain_json m.categories
  have items := Json.plainItems_map Item.plain_json m.items
  simp [json, Json.plain, Json.plainFields, categories, items]

/-- A snapshot is read without fault, to its end. -/
theorem Menu.parse_snapshot (m : Menu) : Json.parse decode m.snapshot = .ok m := by
  rw [snapshot, Json.parse, Json.read_text m.json m.plain_json, Document.decode]
  simp only [m.decode_json]
  rfl

/-- A snapshot gives its menu back. -/
theorem Menu.ofSnapshot?_snapshot (m : Menu) : ofSnapshot? m.snapshot = some m := by
  rw [ofSnapshot?, m.parse_snapshot]
  rfl

theorem Menu.isEmpty_snapshot (m : Menu) : m.snapshot.isEmpty = false := by
  have opens : m.snapshot.toList.head? = some '{' := by
    rw [snapshot, Json.text, String.toList_ofList]
    rfl
  rw [← Bool.not_eq_true, String.isEmpty_iff]
  intro empty
  rw [empty] at opens
  cases opens

end Tableside
