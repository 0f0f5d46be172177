import Tableside.Proofs.Text

/-!
# The order of texts

Texts are ordered by their bytes, the first difference deciding, and any two can be compared
(`bytesLe_trans`, `bytesLe_total`). For texts of plain characters this is the order of their
characters (`utf8_lt_iff`). Texts of one width compare part by part (`append_lt_append_iff`), and
numbers written in digits of one width sort as numbers do (`fixedDigits_lt_iff`).
-/

namespace Tableside.Text

/-! ## Lists of one length -/

section Lists

variable {α β : Type} [LT α] [LT β]

/-- When two lists begin with parts of one length, these parts decide unless they are the same. -/
theorem append_lt_append_iff {as bs xs ys : List α} (length : as.length = bs.length) :
    as ++ xs < bs ++ ys ↔ as < bs ∨ (as = bs ∧ xs < ys) := by
  induction as generalizing bs with
  | nil =>
    obtain rfl := List.length_eq_zero_iff.1 length.symm
    simp [List.not_lt_nil]
  | cons a as ih =>
    cases bs with
    | nil => cases length
    | cons b bs =>
      have rest := ih (Nat.succ.inj length)
      simp only [List.cons_append, List.cons_lt_cons_iff, List.cons.injEq, rest]
      tauto

/-- A change of the entries that keeps their order keeps that of the lists. -/
theorem map_lt_map_iff {p : α → Prop} {f : α → β}
    (order : ∀ a b, p a → p b → (f a < f b ↔ a < b))
    (injective : ∀ a b, p a → p b → (f a = f b ↔ a = b)) {as bs : List α}
    (left : ∀ a ∈ as, p a) (right : ∀ b ∈ bs, p b) : as.map f < bs.map f ↔ as < bs := by
  induction as generalizing bs with
  | nil => cases bs <;> simp [List.not_lt_nil, List.nil_lt_cons]
  | cons a as ih =>
    cases bs with
    | nil => simp [List.not_lt_nil]
    | cons b bs =>
      obtain ⟨here, left⟩ := List.forall_mem_cons.1 left
      obtain ⟨there, right⟩ := List.forall_mem_cons.1 right
      simp only [List.map_cons, List.cons_lt_cons_iff, order a b here there,
        injective a b here there, ih left right]

/-- Lists that compare as numbers do are the same for the same number only. -/
theorem eq_of_lt_iff [Std.Irrefl (α := α) (· < ·)] {as bs : List α} {m n : Nat}
    (less : as < bs ↔ m < n) (greater : bs < as ↔ n < m) (same : as = bs) : m = n := by
  subst same
  have irrefl := List.lt_irrefl as
  exact Nat.le_antisymm (Nat.le_of_not_lt fun h => irrefl (greater.2 h))
    (Nat.le_of_not_lt fun h => irrefl (less.2 h))

end Lists

/-! ## Digits -/

theorem length_fixedValues (base width n : Nat) : (fixedValues base width n).length = width := by
  induction width generalizing n with
  | zero => rfl
  | succ width ih => simp [fixedValues, ih]

theorem lt_of_mem_fixedValues {base width n d : Nat} (positive : 0 < base)
    (member : d ∈ fixedValues base width n) : d < base := by
  induction width generalizing n with
  | zero => cases member
  | succ width ih =>
    rw [fixedValues, List.mem_append, List.mem_singleton] at member
    rcases member with member | rfl
    · exact ih member
    · exact Nat.mod_lt n positive

theorem fixedDigits_eq_map (base width n : Nat) :
    fixedDigits base width n = (fixedValues base width n).map Nat.digitChar := by
  induction width generalizing n with
  | zero => rfl
  | succ width ih => rw [fixedDigits, fixedValues, ih, List.map_append, List.map_singleton]

section Digits

variable {base width m n : Nat}

theorem fixedValues_inj (left : m < base ^ width) (right : n < base ^ width) :
    fixedValues base width m = fixedValues base width n ↔ m = n := by
  constructor
  · intro same
    rw [← ofDigits_fixedValues left, same, ofDigits_fixedValues right]
  · rintro rfl
    rfl

/-- Digits of one width sort as the numbers that they spell. -/
theorem fixedValues_lt_iff (left : m < base ^ width) (right : n < base ^ width) :
    fixedValues base width m < fixedValues base width n ↔ m < n := by
  induction width generalizing m n with
  | zero =>
    rw [Nat.pow_zero, Nat.lt_one_iff] at left right
    simp [fixedValues, left, right]
  | succ width ih =>
    rw [Nat.pow_succ, Nat.mul_comm] at left right
    have high := Nat.div_lt_of_lt_mul left
    have high' := Nat.div_lt_of_lt_mul right
    have split := Nat.div_add_mod m base
    have split' := Nat.div_add_mod n base
    have lengths : (fixedValues base width (m / base)).length =
        (fixedValues base width (n / base)).length := by
      rw [length_fixedValues, length_fixedValues]
    have last : [m % base] < [n % base] ↔ m % base < n % base := by
      simp [List.cons_lt_cons_iff]
    rw [fixedValues, fixedValues, append_lt_append_iff lengths, ih high high',
      fixedValues_inj high high', last]
    constructor
    · rintro (less | ⟨same, less⟩)
      · exact Nat.lt_of_div_lt_div less
      · rw [same] at split
        omega
    · intro less
      rcases Nat.lt_or_eq_of_le (Nat.div_le_div_right (c := base) less.le) with front | same
      · exact .inl front
      · rw [same] at split
        exact .inr ⟨same, by omega⟩

theorem digitChar_lt_iff : ∀ a < 16, ∀ b < 16,
    (Nat.digitChar a < Nat.digitChar b ↔ a < b) ∧ (Nat.digitChar a = Nat.digitChar b ↔ a = b) := by
  decide

theorem fixedDigits_lt_iff (positive : 0 < base) (small : base ≤ 16) (left : m < base ^ width)
    (right : n < base ^ width) : fixedDigits base width m < fixedDigits base width n ↔ m < n := by
  have digits : ∀ k, ∀ d ∈ fixedValues base width k, d < 16 :=
    fun k d member => (lt_of_mem_fixedValues positive member).trans_le small
  rw [fixedDigits_eq_map, fixedDigits_eq_map, ← fixedValues_lt_iff left right]
  exact map_lt_map_iff (fun a b ha hb => (digitChar_lt_iff a ha b hb).1)
    (fun a b ha hb => (digitChar_lt_iff a ha b hb).2) (digits m) (digits n)

theorem fixedDigits_inj (positive : 0 < base) (small : base ≤ 16) (left : m < base ^ width)
    (right : n < base ^ width) : fixedDigits base width m = fixedDigits base width n ↔ m = n :=
  ⟨eq_of_lt_iff (fixedDigits_lt_iff positive small left right)
    (fixedDigits_lt_iff positive small right left), fun same => by rw [same]⟩

theorem digitChar_plain : ∀ d < 16, (Nat.digitChar d).toNat < 128 := by decide

theorem plain_of_mem_fixedDigits (positive : 0 < base) (small : base ≤ 16) {c : Char}
    (member : c ∈ fixedDigits base width n) : c.toNat < 128 := by
  obtain ⟨d, below, rfl⟩ := exists_of_mem_fixedDigits positive member
  exact digitChar_plain d (below.trans_le small)

end Digits

/-! ## Bytes -/

/-- The bytes of a text of plain characters are their codes. -/
theorem utf8_ofList {cs : List Char} (plain : ∀ c ∈ cs, c.toNat < 128) :
    utf8 (String.ofList cs) = cs.map fun c => UInt8.ofNat c.toNat := by
  have codes : cs.flatMap String.utf8EncodeChar = cs.map fun c => UInt8.ofNat c.toNat := by
    induction cs with
    | nil => rfl
    | cons c cs ih =>
      obtain ⟨here, plain⟩ := List.forall_mem_cons.1 plain
      have single : String.utf8EncodeChar c = [UInt8.ofNat c.toNat] :=
        if_pos (Nat.le_of_lt_succ here)
      rw [List.flatMap_cons, List.map_cons, ih plain, single, List.singleton_append]
  rw [utf8, String.toUTF8_eq_toByteArray, String.toByteArray_ofList, List.utf8Encode,
    List.data_toByteArray, List.toList_toArray, codes]

/-- Texts of plain characters sort by their bytes as by their characters. -/
theorem utf8_lt_iff {cs ds : List Char} (left : ∀ c ∈ cs, c.toNat < 128)
    (right : ∀ d ∈ ds, d.toNat < 128) :
    utf8 (String.ofList cs) < utf8 (String.ofList ds) ↔ cs < ds := by
  have code : ∀ c : Char, c.toNat < 128 → (UInt8.ofNat c.toNat).toNat = c.toNat :=
    fun c small => UInt8.toNat_ofNat_of_lt (small.trans (by decide))
  rw [utf8_ofList left, utf8_ofList right]
  refine map_lt_map_iff (p := fun c => c.toNat < 128) (fun a b ha hb => ?_) (fun a b ha hb => ?_)
    left right
  · rw [UInt8.lt_iff_toNat_lt, code a ha, code b hb]
    exact Iff.rfl
  · rw [← UInt8.toNat_inj, code a ha, code b hb, Char.toNat_inj]

variable {s t u : String}

theorem bytesLe_iff : bytesLe s t = true ↔ utf8 s ≤ utf8 t := decide_eq_true_iff

theorem bytesLe_trans (left : bytesLe s t = true) (right : bytesLe t u = true) :
    bytesLe s u = true := by
  rw [bytesLe_iff] at *
  exact List.le_trans left right

theorem bytesLe_total (s t : String) : bytesLe s t = true ∨ bytesLe t s = true := by
  rw [bytesLe_iff, bytesLe_iff]
  exact List.le_total _ _

end Tableside.Text
