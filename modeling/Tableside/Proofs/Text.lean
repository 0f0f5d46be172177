import Mathlib.Algebra.Group.Nat.Defs
import Mathlib.Data.List.Induction
import Mathlib.Data.List.TakeWhile
import Tableside.Text.Base64Url
import Tableside.Text.Blank
import Tableside.Text.Digits
import Tableside.Text.Split
import Tableside.Text.Utf8

/-!
# Texts that read back

What the writers of digits, base64 and UTF-8 produce, the readers take back: a number written in a
fixed width spells itself (`hex?_fixedDigits`, `digitsValue_fixedDigits`), bytes survive base64
(`Base64Url.decode_encode`), and a text its own bytes (`ofUtf8?_utf8`). And what the readers take is
what the writers produce: decimal digits, and hexadecimal ones without capital letters, are those of
the number they spell (`fixedDigits_digitsValue`, `fixedDigits_hex?`), and no bytes have two texts in
base64 (`Base64Url.encode_of_decode`).

Trimming a text that has no blanks at its ends changes nothing, in particular a second time
(`trim_trim`).
-/

namespace Tableside.Text

/-! ## Digits -/

/-- The values of the digits that `fixedDigits` writes. -/
def fixedValues (base : Nat) : (width : Nat) → (n : Nat) → List Nat
  | 0, _ => []
  | width + 1, n => fixedValues base width (n / base) ++ [n % base]

@[simp] theorem length_fixedDigits (base width n : Nat) :
    (fixedDigits base width n).length = width := by
  induction width generalizing n with
  | zero => rfl
  | succ width ih => simp [fixedDigits, ih]

theorem ofDigits_append_singleton (base : Nat) (ds : List Nat) (d : Nat) :
    ofDigits base (ds ++ [d]) = ofDigits base ds * base + d := by
  simp [ofDigits, List.foldl_append]

theorem ofDigits_fixedValues {base width n : Nat} (fits : n < base ^ width) :
    ofDigits base (fixedValues base width n) = n := by
  induction width generalizing n with
  | zero =>
    have zero : n = 0 := by simpa using fits
    subst zero
    rfl
  | succ width ih =>
    have high : n / base < base ^ width := by
      rw [Nat.pow_succ, Nat.mul_comm] at fits
      exact Nat.div_lt_of_lt_mul fits
    rw [fixedValues, ofDigits_append_singleton, ih high]
    exact Nat.div_add_mod' n base

/-- A reader of single digits takes all that are written in a base, so long as it takes each. -/
theorem mapM_fixedDigits {base : Nat} (positive : 0 < base) {read? : Char → Option Nat}
    (reads : ∀ d < base, read? (Nat.digitChar d) = some d) (width n : Nat) :
    (fixedDigits base width n).mapM read? = some (fixedValues base width n) := by
  induction width generalizing n with
  | zero => rfl
  | succ width ih =>
    rw [fixedDigits, fixedValues, List.mapM_append, ih]
    simp [reads _ (Nat.mod_lt n positive)]

theorem hexValue?_digitChar : ∀ d < 16, hexValue? (Nat.digitChar d) = some d := by decide

theorem digitValue?_digitChar : ∀ d < 10, digitValue? (Nat.digitChar d) = some d := by decide

theorem isDigit_digitChar : ∀ d < 10, isDigit (Nat.digitChar d) = true := by decide

/-- Hexadecimal digits of a fixed width spell the number they were written for. -/
theorem hex?_fixedDigits {width n : Nat} (fits : n < 16 ^ width) :
    hex? (fixedDigits 16 width n) = some n := by
  rw [hex?, mapM_fixedDigits (by decide) hexValue?_digitChar, Option.map_some,
    ofDigits_fixedValues fits]

theorem exists_of_mem_fixedDigits {base width n : Nat} (positive : 0 < base) {c : Char}
    (member : c ∈ fixedDigits base width n) : ∃ d < base, Nat.digitChar d = c := by
  induction width generalizing n with
  | zero => cases member
  | succ width ih =>
    rw [fixedDigits, List.mem_append, List.mem_singleton] at member
    rcases member with member | rfl
    · exact ih member
    · exact ⟨_, Nat.mod_lt n positive, rfl⟩

theorem isDigit_of_mem_fixedDigits {width n : Nat} {c : Char}
    (member : c ∈ fixedDigits 10 width n) : isDigit c = true := by
  obtain ⟨d, small, rfl⟩ := exists_of_mem_fixedDigits (by decide) member
  exact isDigit_digitChar d small

/-- Decimal digits of a fixed width spell the number they were written for. -/
theorem digitsValue_fixedDigits {width n : Nat} (fits : n < 10 ^ width) :
    digitsValue (fixedDigits 10 width n) = n := by
  have values : ∀ width n, (fixedDigits 10 width n).map (fun c => (digitValue? c).getD 0) =
      fixedValues 10 width n := by
    intro width
    induction width with
    | zero => intro n; rfl
    | succ width ih =>
      intro n
      rw [fixedDigits, fixedValues, List.map_append, ih]
      simp [digitValue?_digitChar _ (Nat.mod_lt n (by decide))]
  rw [digitsValue, values, ofDigits_fixedValues fits]

/-- Digits of a fixed width are those of the number that they spell. -/
theorem fixedDigits_ofDigits {base : Nat} {ds : List Nat} (digits : ∀ d ∈ ds, d < base) :
    ofDigits base ds < base ^ ds.length ∧
      fixedDigits base ds.length (ofDigits base ds) = ds.map Nat.digitChar := by
  induction ds using List.reverseRecOn with
  | nil => exact ⟨Nat.one_pos, rfl⟩
  | append_singleton ds d ih =>
    have last : d < base := digits d (by simp)
    obtain ⟨small, written⟩ := ih fun x member => digits x (by simp [member])
    have front : (ofDigits base ds * base + d) / base = ofDigits base ds := by
      rw [Nat.mul_comm, Nat.mul_add_div (by omega), Nat.div_eq_of_lt last, Nat.add_zero]
    have rest : (ofDigits base ds * base + d) % base = d := by
      rw [Nat.mul_comm, Nat.mul_add_mod, Nat.mod_eq_of_lt last]
    rw [List.length_append, List.length_singleton, ofDigits_append_singleton, fixedDigits, front,
      rest, written, List.map_append, List.map_singleton, Nat.pow_succ]
    refine ⟨?_, rfl⟩
    calc ofDigits base ds * base + d < (ofDigits base ds + 1) * base := by
          rw [Nat.add_mul, Nat.one_mul]
          omega
      _ ≤ base ^ ds.length * base := Nat.mul_le_mul_right base small

theorem digitChar_decimal : ∀ n < 58, 48 ≤ n → Nat.digitChar (n - 48) = Char.ofNat n := by decide

theorem digitChar_letter : ∀ n < 103, 97 ≤ n → Nat.digitChar (n - 97 + 10) = Char.ofNat n := by
  decide

theorem exists_digitChar_of_isDigit {c : Char} (digit : isDigit c = true) :
    ∃ d < 10, Nat.digitChar d = c := by
  have bounds : 48 ≤ c.toNat ∧ c.toNat ≤ 57 := by
    rw [isDigit, Bool.and_eq_true, decide_eq_true_eq, decide_eq_true_eq] at digit
    exact digit
  refine ⟨c.toNat - 48, by omega, ?_⟩
  rw [digitChar_decimal _ (by omega) bounds.1, Char.ofNat_toNat]

/-- Decimal digits are those that the number they spell is written with in their width. -/
theorem fixedDigits_digitsValue {ds : List Char} (digits : ∀ c ∈ ds, isDigit c = true) :
    digitsValue ds < 10 ^ ds.length ∧ fixedDigits 10 ds.length (digitsValue ds) = ds := by
  have read : ∀ c ∈ ds, (digitValue? c).getD 0 < 10 ∧ Nat.digitChar ((digitValue? c).getD 0) = c := by
    intro c member
    obtain ⟨d, small, rfl⟩ := exists_digitChar_of_isDigit (digits c member)
    rw [digitValue?_digitChar d small]
    exact ⟨small, rfl⟩
  have small : ∀ d ∈ ds.map fun c => (digitValue? c).getD 0, d < 10 := by
    intro d member
    obtain ⟨c, there, rfl⟩ := List.mem_map.1 member
    exact (read c there).1
  have written := fixedDigits_ofDigits small
  rw [List.length_map, List.map_map] at written
  refine ⟨written.1, written.2.trans ?_⟩
  exact (List.map_congr_left fun c member => (read c member).2).trans (List.map_id _)

/-- A hexadecimal digit that is no capital letter is the one that its value is written with. -/
theorem digitChar_of_hexValue? {c : Char} {d : Nat} (read : hexValue? c = some d)
    (small : c.isUpper = false) : d < 16 ∧ Nat.digitChar d = c := by
  unfold hexValue? at read
  split at read
  · rename_i bounds
    cases read
    have bounds : 48 ≤ c.toNat ∧ c.toNat ≤ 57 := bounds
    refine ⟨?_, ?_⟩
    · change c.toNat - 48 < 16
      omega
    · exact (digitChar_decimal _ (by omega) bounds.1).trans (Char.ofNat_toNat c)
  split at read
  · rename_i bounds
    cases read
    have bounds : 97 ≤ c.toNat ∧ c.toNat ≤ 102 := bounds
    refine ⟨?_, ?_⟩
    · change c.toNat - 97 + 10 < 16
      omega
    · exact (digitChar_letter _ (by omega) bounds.1).trans (Char.ofNat_toNat c)
  split at read
  · rename_i bounds
    have bounds : 65 ≤ c.toNat ∧ c.toNat ≤ 70 := bounds
    have capital : c.isUpper = true := by
      have upper : c.toNat ≤ 90 := by omega
      exact decide_eq_true ⟨bounds.1, upper⟩
    rw [capital] at small
    cases small
  · cases read

/-- Where each character is the one that its value is written with, so is the text. -/
theorem map_of_mapM {read? : Char → Option Nat} {write : Nat → Char} {bound : Nat}
    {cs : List Char} {ns : List Nat}
    (each : ∀ c ∈ cs, ∀ n, read? c = some n → n < bound ∧ write n = c)
    (read : cs.mapM read? = some ns) : (∀ n ∈ ns, n < bound) ∧ ns.map write = cs := by
  induction cs generalizing ns with
  | nil =>
    cases read
    exact ⟨fun _ none => absurd none List.not_mem_nil, rfl⟩
  | cons c cs ih =>
    rw [List.mapM_cons] at read
    obtain ⟨n, here, read⟩ := Option.bind_eq_some_iff.1 read
    obtain ⟨rest, later, read⟩ := Option.bind_eq_some_iff.1 read
    cases read
    obtain ⟨small, rfl⟩ := each c List.mem_cons_self n here
    obtain ⟨below, written⟩ := ih (fun x member => each x (List.mem_cons_of_mem _ member)) later
    exact ⟨List.forall_mem_cons.2 ⟨small, below⟩, by rw [List.map_cons, written]⟩

/-- Hexadecimal digits without capital letters are those that the number they spell is written with
in their width. -/
theorem fixedDigits_hex? {ds : List Char} {n : Nat} (read : hex? ds = some n)
    (small : ∀ c ∈ ds, c.isUpper = false) :
    n < 16 ^ ds.length ∧ fixedDigits 16 ds.length n = ds := by
  obtain ⟨values, each, rfl⟩ := Option.map_eq_some_iff.1 read
  obtain ⟨below, rfl⟩ := map_of_mapM
    (fun c member d value => digitChar_of_hexValue? value (small c member)) each
  rw [List.length_map]
  exact fixedDigits_ofDigits below

/-! ## Splitting -/

/-- The first separator is the one that stands after a text without any. -/
theorem splitOnce_append {sep : Char} {before after : List Char} (absent : sep ∉ before) :
    splitOnce sep (before ++ sep :: after) = some (before, after) := by
  induction before with
  | nil => simp [splitOnce]
  | cons c before ih =>
    rw [List.mem_cons, not_or] at absent
    rw [List.cons_append, splitOnce, if_neg (Ne.symm absent.1), ih absent.2, Option.map_some]

/-- A text is cut at a separator that stands in it after none. -/
theorem splitOnce_eq_some {sep : Char} {cs before after : List Char}
    (cut : splitOnce sep cs = some (before, after)) :
    cs = before ++ sep :: after ∧ sep ∉ before := by
  induction cs generalizing before with
  | nil => cases cut
  | cons c rest ih =>
    rw [splitOnce] at cut
    split at cut
    · rename_i here
      cases cut
      exact ⟨by rw [here, List.nil_append], List.not_mem_nil⟩
    · rename_i other
      obtain ⟨⟨front, back⟩, later, same⟩ := Option.map_eq_some_iff.1 cut
      cases same
      obtain ⟨rfl, absent⟩ := ih later
      refine ⟨rfl, fun member => ?_⟩
      rcases List.mem_cons.1 member with rfl | there
      · exact other rfl
      · exact absent there

/-- The last separator is the one that stands before a text without any. -/
theorem splitLast_append {sep : Char} {before after : List Char} (absent : sep ∉ after) :
    splitLast sep (before ++ sep :: after) = some (before, after) := by
  have reversed : (before ++ sep :: after).reverse = after.reverse ++ sep :: before.reverse := by
    simp
  rw [splitLast, reversed, splitOnce_append (by rwa [List.mem_reverse]), Option.map_some]
  simp only [List.reverse_reverse]

/-! ## Trimming -/

theorem dropWhile_eq_self {p : Char → Bool} {cs : List Char}
    (head : ∀ c, cs.head? = some c → p c = false) : cs.dropWhile p = cs := by
  cases cs with
  | nil => rfl
  | cons c cs => simp [head c rfl]

/-- A text without blanks at its ends is its own trimmed form. -/
theorem trimChars_eq_self {cs : List Char} (head : ∀ c, cs.head? = some c → isBlank c = false)
    (last : ∀ c, cs.getLast? = some c → isBlank c = false) : trimChars cs = cs := by
  have ending : cs.reverse.dropWhile isBlank = cs.reverse :=
    dropWhile_eq_self fun c hc => last c (by rwa [List.head?_reverse] at hc)
  rw [trimChars, dropWhile_eq_self head, trimEnd, ending, List.reverse_reverse]

theorem trimChars_of_forall {cs : List Char} (solid : ∀ c ∈ cs, isBlank c = false) :
    trimChars cs = cs :=
  trimChars_eq_self (fun c hc => solid c (List.mem_of_mem_head? hc))
    (fun c hc => solid c (List.mem_of_getLast? hc))

theorem head?_dropWhile_not {p : Char → Bool} {cs : List Char} {c : Char}
    (head : (cs.dropWhile p).head? = some c) : p c = false := by
  have kept := List.head?_dropWhile_not p cs
  rw [head] at kept
  simpa using kept

/-- No blank is left at the beginning of a trimmed text. -/
theorem isBlank_head_trimChars {cs : List Char} {c : Char}
    (head : (trimChars cs).head? = some c) : isBlank c = false := by
  have leads : trimChars cs <+: cs.dropWhile isBlank := by
    rw [trimChars, trimEnd, ← List.reverse_suffix, List.reverse_reverse]
    exact List.dropWhile_suffix _
  obtain ⟨rest, split⟩ := leads
  have first : (cs.dropWhile isBlank).head? = some c := by
    rw [← split]
    cases trimmed : trimChars cs with
    | nil =>
      rw [trimmed] at head
      cases head
    | cons a as =>
      rw [trimmed] at head
      simpa using head
  exact head?_dropWhile_not first

/-- No blank is left at the end of a trimmed text. -/
theorem isBlank_getLast_trimChars {cs : List Char} {c : Char}
    (last : (trimChars cs).getLast? = some c) : isBlank c = false := by
  rw [trimChars, trimEnd, List.getLast?_reverse] at last
  exact head?_dropWhile_not last

@[simp] theorem trimChars_trimChars (cs : List Char) : trimChars (trimChars cs) = trimChars cs :=
  trimChars_eq_self (fun _ => isBlank_head_trimChars) (fun _ => isBlank_getLast_trimChars)

@[simp] theorem trim_trim (s : String) : trim (trim s) = trim s := by
  rw [trim, trim, String.toList_ofList, trimChars_trimChars]

/-- Nothing is left of a text when it is blank. -/
theorem trimChars_eq_nil_iff {cs : List Char} :
    trimChars cs = [] ↔ ∀ c ∈ cs, isBlank c = true := by
  have rest : (∀ c ∈ (cs.dropWhile isBlank).reverse, isBlank c = true) ↔
      cs.dropWhile isBlank = [] := by
    cases tail : cs.dropWhile isBlank with
    | nil => simp
    | cons c tail' =>
      have head : (cs.dropWhile isBlank).head? = some c := by rw [tail]; rfl
      have solid := head?_dropWhile_not head
      simp [solid]
  rw [trimChars, trimEnd, List.reverse_eq_nil_iff, List.dropWhile_eq_nil_iff, rest,
    List.dropWhile_eq_nil_iff]

theorem trim_eq_empty_iff {s : String} : trim s = "" ↔ ∀ c ∈ s.toList, isBlank c = true := by
  rw [← trimChars_eq_nil_iff, trim, ← String.toList_eq_nil_iff, String.toList_ofList]

theorem trimEnd_append_blank (cs : List Char) {tail : List Char}
    (blank : ∀ c ∈ tail, isBlank c = true) : trimEnd (cs ++ tail) = trimEnd cs := by
  have dropped : (tail.reverse ++ cs.reverse).dropWhile isBlank = cs.reverse.dropWhile isBlank :=
    List.dropWhile_append_of_pos fun c member => blank c (List.mem_reverse.1 member)
  rw [trimEnd, trimEnd, List.reverse_append, dropped]

/-- Blanks around a text go when it is trimmed, and nothing else does on their account. -/
theorem trimChars_surrounded (cs : List Char) {lead tail : List Char}
    (blankLead : ∀ c ∈ lead, isBlank c = true) (blankTail : ∀ c ∈ tail, isBlank c = true) :
    trimChars (lead ++ cs ++ tail) = trimChars cs := by
  rw [List.append_assoc, trimChars, List.dropWhile_append_of_pos blankLead, trimChars,
    List.dropWhile_append]
  split
  · -- nothing but blanks stands between the two
    rename_i empty
    have none : tail.dropWhile isBlank = [] := List.dropWhile_eq_nil_iff.2 blankTail
    rw [none, List.isEmpty_iff.1 empty]
  · exact trimEnd_append_blank _ blankTail

/-- A text is its trimmed form between blanks. -/
theorem exists_surrounded (cs : List Char) : ∃ lead tail : List Char,
    (∀ c ∈ lead, isBlank c = true) ∧ (∀ c ∈ tail, isBlank c = true) ∧
      cs = lead ++ trimChars cs ++ tail := by
  have rest : cs.dropWhile isBlank =
      trimChars cs ++ ((cs.dropWhile isBlank).reverse.takeWhile isBlank).reverse := by
    rw [trimChars, trimEnd, ← List.reverse_append, List.takeWhile_append_dropWhile,
      List.reverse_reverse]
  refine ⟨cs.takeWhile isBlank, ((cs.dropWhile isBlank).reverse.takeWhile isBlank).reverse,
    fun c => List.mem_takeWhile_imp, fun c member => ?_, ?_⟩
  · exact List.mem_takeWhile_imp (List.mem_reverse.1 member)
  · rw [List.append_assoc, ← rest, List.takeWhile_append_dropWhile]

/-! ## Base64 -/

namespace Base64Url

theorem sextet?_letter : ∀ n < 64, sextet? (letter n) = some n := by decide

theorem isBlank_letter : ∀ n < 64, isBlank (letter n) = false := by decide

/-- The sextets that `encode` writes letters for. -/
def sextets : List UInt8 → List Nat
  | a :: b :: c :: rest =>
    a.toNat / 4 :: (a.toNat % 4 * 16 + b.toNat / 16) :: (b.toNat % 16 * 4 + c.toNat / 64) ::
      c.toNat % 64 :: sextets rest
  | [a, b] => [a.toNat / 4, a.toNat % 4 * 16 + b.toNat / 16, b.toNat % 16 * 4]
  | [a] => [a.toNat / 4, a.toNat % 4 * 16]
  | [] => []

theorem encode_eq_map (bytes : List UInt8) : encode bytes = (sextets bytes).map letter := by
  fun_induction encode bytes <;> simp_all [sextets]

theorem lt_of_mem_sextets {bytes : List UInt8} {n : Nat} (member : n ∈ sextets bytes) :
    n < 64 := by
  fun_induction sextets bytes with
  | case1 a b c rest ih =>
    have := a.toNat_lt
    have := b.toNat_lt
    have := c.toNat_lt
    simp only [List.mem_cons] at member
    rcases member with rfl | rfl | rfl | rfl | member
    · omega
    · omega
    · omega
    · omega
    · exact ih member
  | case2 a b =>
    have := a.toNat_lt
    have := b.toNat_lt
    simp only [List.mem_cons, List.not_mem_nil, or_false] at member
    omega
  | case3 a =>
    have := a.toNat_lt
    simp only [List.mem_cons, List.not_mem_nil, or_false] at member
    omega
  | case4 => cases member

theorem uint8_ofNat_eq {n : Nat} {a : UInt8} (h : n = a.toNat) : UInt8.ofNat n = a := by
  rw [h, UInt8.ofNat_toNat]

theorem bytes?_sextets (bytes : List UInt8) : bytes? (sextets bytes) = some bytes := by
  fun_induction sextets bytes with
  | case1 a b c rest ih =>
    have := a.toNat_lt
    have := b.toNat_lt
    have := c.toNat_lt
    rw [bytes?, ih, Option.map_some, uint8_ofNat_eq (a := a) (by omega),
      uint8_ofNat_eq (a := b) (by omega), uint8_ofNat_eq (a := c) (by omega)]
  | case2 a b =>
    have := a.toNat_lt
    have := b.toNat_lt
    rw [bytes?, if_pos (by omega), uint8_ofNat_eq (a := a) (by omega),
      uint8_ofNat_eq (a := b) (by omega)]
  | case3 a =>
    have := a.toNat_lt
    rw [bytes?, if_pos (by omega), uint8_ofNat_eq (a := a) (by omega)]
  | case4 => rfl

theorem mapM_sextet? {ns : List Nat} (small : ∀ n ∈ ns, n < 64) :
    (ns.map letter).mapM sextet? = some ns := by
  induction ns with
  | nil => rfl
  | cons n ns ih =>
    rw [List.map_cons, List.mapM_cons, sextet?_letter n (small n (by simp)),
      ih fun m hm => small m (by simp [hm])]
    rfl

/-- Bytes survive base64. -/
theorem decode_encode (bytes : List UInt8) : decode (encode bytes) = some bytes := by
  rw [decode, encode_eq_map, mapM_sextet? fun _ => lt_of_mem_sextets, Option.bind_some,
    bytes?_sextets]

/-- Every character of a base64 text is the letter of a sextet. -/
theorem exists_of_mem_encode {bytes : List UInt8} {c : Char} (member : c ∈ encode bytes) :
    ∃ n < 64, letter n = c := by
  rw [encode_eq_map, List.mem_map] at member
  obtain ⟨n, hn, same⟩ := member
  exact ⟨n, lt_of_mem_sextets hn, same⟩

theorem alphabet_letter :
    ∀ n < 64, (letter n).isAlphanum = true ∨ letter n = '-' ∨ letter n = '_' := by decide

/-- A base64 text is written with letters and digits, hyphens and low lines. -/
theorem alphabet_of_mem_encode {bytes : List UInt8} {c : Char} (member : c ∈ encode bytes) :
    c.isAlphanum = true ∨ c = '-' ∨ c = '_' := by
  obtain ⟨n, small, rfl⟩ := exists_of_mem_encode member
  exact alphabet_letter n small

/-- A base64 text has no blanks. -/
theorem isBlank_of_mem_encode {bytes : List UInt8} {c : Char} (member : c ∈ encode bytes) :
    isBlank c = false := by
  obtain ⟨n, small, rfl⟩ := exists_of_mem_encode member
  exact isBlank_letter n small

theorem encode_ne_nil {bytes : List UInt8} (nonempty : bytes ≠ []) : encode bytes ≠ [] := by
  fun_cases encode bytes <;> simp_all

theorem letter_of_code : ∀ n < 123,
    (sextet? (Char.ofNat n)).all (fun m => m < 64 && letter m == Char.ofNat n) = true := by
  decide

theorem letter_of_sextet? {c : Char} {n : Nat} (read : sextet? c = some n) :
    n < 64 ∧ letter n = c := by
  have small : c.toNat < 123 := by
    unfold sextet? at read
    dsimp only at read
    by_contra large
    rw [if_neg (by omega), if_neg (by omega), if_neg (by omega), if_neg (by omega),
      if_neg (by omega)] at read
    cases read
  have coded := letter_of_code c.toNat small
  rw [Char.ofNat_toNat, read, Option.all_some, Bool.and_eq_true, decide_eq_true_eq,
    beq_iff_eq] at coded
  exact coded

/-- The sextets that bytes are made of are those that they are written with. -/
theorem sextets_of_bytes? {ns : List Nat} {bytes : List UInt8} (small : ∀ n ∈ ns, n < 64)
    (read : bytes? ns = some bytes) : sextets bytes = ns := by
  have whole : ∀ n, n < 256 → (UInt8.ofNat n).toNat = n :=
    fun n below => UInt8.toNat_ofNat_of_lt below
  fun_induction bytes? ns generalizing bytes with
  | case1 a b c d rest ih =>
    simp only [List.forall_mem_cons] at small
    obtain ⟨ha, hb, hc, hd, others⟩ := small
    obtain ⟨tail, later, rfl⟩ := Option.map_eq_some_iff.1 read
    have first : (a * 4 + b / 16) / 4 = a := by omega
    have second : (a * 4 + b / 16) % 4 * 16 + (b % 16 * 16 + c / 4) / 16 = b := by omega
    have third : (b % 16 * 16 + c / 4) % 16 * 4 + (c % 4 * 64 + d) / 64 = c := by omega
    have fourth : (c % 4 * 64 + d) % 64 = d := by omega
    rw [sextets, ih others later, whole _ (by omega), whole _ (by omega), whole _ (by omega), first,
      second, third, fourth]
  | case2 a b c tail =>
    simp only [List.forall_mem_cons] at small
    obtain ⟨ha, hb, hc, -⟩ := small
    cases read
    have first : (a * 4 + b / 16) / 4 = a := by omega
    have second : (a * 4 + b / 16) % 4 * 16 + (b % 16 * 16 + c / 4) / 16 = b := by omega
    have third : (b % 16 * 16 + c / 4) % 16 * 4 = c := by omega
    rw [sextets, whole _ (by omega), whole _ (by omega), first, second, third]
  | case4 a b tail =>
    simp only [List.forall_mem_cons] at small
    obtain ⟨ha, hb, -⟩ := small
    cases read
    have first : (a * 4 + b / 16) / 4 = a := by omega
    have second : (a * 4 + b / 16) % 4 * 16 = b := by omega
    rw [sextets, whole _ (by omega), first, second]
  | case7 =>
    cases read
    rfl
  | case3 => cases read
  | case5 => cases read
  | case6 => cases read

/-- A text is read as the bytes that are written so. -/
theorem encode_of_decode {cs : List Char} {bytes : List UInt8} (read : decode cs = some bytes) :
    encode bytes = cs := by
  obtain ⟨ns, letters, joined⟩ := Option.bind_eq_some_iff.1 read
  obtain ⟨small, rfl⟩ := map_of_mapM (fun _ _ _ => letter_of_sextet?) letters
  rw [encode_eq_map, sextets_of_bytes? small joined]

end Base64Url

/-! ## UTF-8 -/

/-- A text survives its bytes. -/
@[simp] theorem ofUtf8?_utf8 (s : String) : ofUtf8? (utf8 s) = some s := by
  have bytes : (⟨(utf8 s).toArray⟩ : ByteArray) = s.toByteArray := by
    rw [utf8, String.toUTF8_eq_toByteArray, Array.toArray_toList]
  rw [ofUtf8?, bytes, String.fromUTF8?, dif_pos s.isValidUTF8]
  rfl

/-- A text is read from its own bytes only. -/
theorem utf8_of_ofUtf8? {bytes : List UInt8} {s : String} (read : ofUtf8? bytes = some s) :
    utf8 s = bytes := by
  rw [ofUtf8?, String.fromUTF8?] at read
  split at read
  · cases read
    rfl
  · cases read

end Tableside.Text
