import Tableside.Json.Printer
import Tableside.Json.Reader
import Tableside.Proofs.Text

/-!
# JSON texts read back

The text of a value whose numbers are whole and fit in 64 bits is read as the node of that value,
and nothing of what follows is taken along (`Json.readValue_chars`); so the whole text is read
without a rest (`Json.read_text`). The parts come first: decimals, which need a head that no number
can go on with after them (`Json.Stops`), and strings, whose escapes are undone character by
character.
-/

namespace Tableside

/-! ## Decimals -/

namespace Text

theorem decimal_of_lt {n : Nat} (small : n < 10) : decimal n = [Nat.digitChar n] :=
  Nat.toDigits_of_lt_base small

theorem decimal_of_le {n : Nat} (large : 10 ≤ n) :
    decimal n = decimal (n / 10) ++ [Nat.digitChar (n % 10)] :=
  Nat.toDigits_of_base_le (by decide) large

theorem isDigit_of_mem_decimal {n : Nat} {c : Char} (member : c ∈ decimal n) :
    isDigit c = true := by
  induction n using Nat.strongRecOn with
  | ind n ih =>
    by_cases small : n < 10
    · rw [decimal_of_lt small, List.mem_singleton] at member
      exact member ▸ isDigit_digitChar n small
    · rw [decimal_of_le (Nat.not_lt.1 small), List.mem_append, List.mem_singleton] at member
      rcases member with before | last
      · exact ih (n / 10) (by omega) before
      · exact last ▸ isDigit_digitChar _ (Nat.mod_lt n (by decide))

theorem decimal_ne_nil (n : Nat) : decimal n ≠ [] := by
  by_cases small : n < 10
  · rw [decimal_of_lt small]
    simp
  · rw [decimal_of_le (Nat.not_lt.1 small)]
    simp

theorem zero_of_digitChar : ∀ n < 10, Nat.digitChar n = '0' → n = 0 := by decide

/-- Only zero begins with the digit zero. -/
theorem head?_decimal {n : Nat} (zero : (decimal n).head? = some '0') : n = 0 := by
  induction n using Nat.strongRecOn with
  | ind n ih =>
    by_cases small : n < 10
    · rw [decimal_of_lt small, List.head?_cons] at zero
      exact zero_of_digitChar n small (Option.some.inj zero)
    · rw [decimal_of_le (Nat.not_lt.1 small), List.head?_append] at zero
      cases front : (decimal (n / 10)).head? with
      | none => exact absurd (List.head?_eq_none_iff.1 front) (decimal_ne_nil _)
      | some c =>
        rw [front] at zero
        cases zero
        have := ih (n / 10) (by omega) front
        omega

end Text

namespace NumberText

open Text

theorem gather_append {s s' : Nat} {ds : List Char} (all : gather s ds = (s', []))
    (rest : List Char) : gather s (ds ++ rest) = gather s' rest := by
  induction ds generalizing s with
  | nil =>
    cases all
    rfl
  | cons c ds ih =>
    rw [List.cons_append, gather]
    rw [gather] at all
    split at all
    · rename_i fits
      rw [if_pos fits]
      exact ih all
    · cases all

/-- The digits of a number that fits are gathered to it. -/
theorem gather_decimal {n : Nat} (fits : n ≤ maxSignificand) : gather 0 (decimal n) = (n, []) := by
  induction n using Nat.strongRecOn with
  | ind n ih =>
    by_cases small : n < 10
    · rw [decimal_of_lt small, gather, digitValue?_digitChar n small]
      simp [gather, fits]
    · have front := ih (n / 10) (by omega) (by omega)
      rw [decimal_of_le (Nat.not_lt.1 small), gather_append front, gather,
        digitValue?_digitChar _ (Nat.mod_lt n (by decide))]
      have whole : n / 10 * 10 + n % 10 = n := Nat.div_add_mod' n 10
      simp [gather, whole, fits]

end NumberText

namespace Json

open Text

/-- Heads of texts that end a number. -/
def Stops (rest : List Char) : Prop :=
  ∀ c, rest.head? = some c → isDigit c = false ∧ c ≠ '.' ∧ c ≠ 'e' ∧ c ≠ 'E'

theorem stops_nil : Stops [] := fun c head => by cases head

theorem stops_cons {c : Char} (plain : isDigit c = false ∧ c ≠ '.' ∧ c ≠ 'e' ∧ c ≠ 'E')
    (rest : List Char) : Stops (c :: rest) := by
  intro d head
  cases head
  exact plain

end Json

namespace NumberText

open Text

variable {rest : List Char}

theorem spanDigits_append {ds : List Char} (digits : ∀ c ∈ ds, isDigit c = true)
    (stops : Json.Stops rest) : spanDigits (ds ++ rest) = (ds, rest) := by
  induction ds with
  | nil =>
    cases rest with
    | nil => rfl
    | cons c rest => simp [spanDigits, (stops c rfl).1]
  | cons c ds ih =>
    rw [List.cons_append, spanDigits, if_pos (digits c List.mem_cons_self),
      ih fun d member => digits d (List.mem_cons_of_mem c member)]

theorem readFraction_of_stops (stops : Json.Stops rest) :
    readFraction rest = some (none, rest) := by
  cases rest with
  | nil => rfl
  | cons c rest =>
    unfold readFraction
    split
    · rename_i same
      cases same
      exact absurd rfl (stops '.' rfl).2.1
    · rfl

theorem readExponent_of_stops (stops : Json.Stops rest) :
    readExponent rest = some (none, rest) := by
  cases rest with
  | nil => rfl
  | cons c rest =>
    obtain ⟨-, -, small, large⟩ := stops c rfl
    unfold readExponent
    exact if_neg (not_or.2 ⟨small, large⟩)

theorem readUnsigned_decimal (negative : Bool) (n : Nat) (stops : Json.Stops rest) :
    readUnsigned negative (decimal n ++ rest) =
      some (⟨negative, decimal n, none, none⟩, rest) := by
  have span := spanDigits_append (fun c => isDigit_of_mem_decimal (n := n)) stops
  have leading : ¬((decimal n).isEmpty = true ∨
      ((decimal n).head? = some '0' ∧ 1 < (decimal n).length)) := by
    rintro (empty | ⟨zero, long⟩)
    · exact decimal_ne_nil n (List.isEmpty_iff.1 empty)
    · rw [head?_decimal zero] at long
      exact absurd long (by decide)
  rw [readUnsigned, span]
  dsimp only
  rw [if_neg leading, readFraction_of_stops stops]
  simp [readExponent_of_stops stops]

/-- The text of a whole number is read to its end. -/
theorem read_decimalInt (z : Int) (stops : Json.Stops rest) :
    read (decimalInt z ++ rest) =
      some (⟨decide (z < 0), decimal z.natAbs, none, none⟩, rest) := by
  by_cases negative : z < 0
  · rw [decimalInt, if_pos negative, List.cons_append, read, readUnsigned_decimal _ _ stops]
    simp [negative]
  · rw [decimalInt, if_neg negative]
    have unsigned : read (decimal z.natAbs ++ rest) =
        readUnsigned false (decimal z.natAbs ++ rest) := by
      cases digits : decimal z.natAbs with
      | nil => exact absurd digits (decimal_ne_nil _)
      | cons c ds =>
        have digit : isDigit c = true :=
          isDigit_of_mem_decimal (n := z.natAbs) (digits ▸ List.mem_cons_self)
        rw [List.cons_append]
        unfold read
        split
        · rename_i same
          cases same
          exact absurd digit (by decide)
        · rfl
    rw [unsigned, readUnsigned_decimal _ _ stops]
    simp [negative]

/-- A whole number of 64 bits, with or without sign. -/
def Fits (z : Int) : Prop :=
  -9223372036854775808 ≤ z ∧ z < 18446744073709551616

instance (z : Int) : Decidable (Fits z) := by
  unfold Fits
  infer_instance

theorem value?_decimalInt {z : Int} (fits : Fits z) :
    (⟨decide (z < 0), decimal z.natAbs, none, none⟩ : NumberText).value? = some (.int z) := by
  obtain ⟨low, high⟩ := fits
  have gathered := gather_decimal (n := z.natAbs) (by unfold maxSignificand UInt64.size; omega)
  rw [value?, gathered]
  by_cases negative : z < 0
  · have value : -(z.natAbs : Int) = z := by omega
    have range : 0 < z.natAbs ∧ z.natAbs ≤ Int64.minValue.toInt.natAbs := by
      have bound : Int64.minValue.toInt.natAbs = 9223372036854775808 := by decide
      omega
    simp only [negative, decide_true, List.isEmpty_nil, not_true_eq_false, and_false, if_false,
      range.1, range.2, and_self, if_true, value]
  · have value : (z.natAbs : Int) = z := by omega
    simp [negative, value]

end NumberText

/-! ## Strings -/

namespace Json

open Text

/-- A character that is put in front of a string body. -/
def withCode (code : Nat) (body : Option (List Nat × List Char)) : Option (List Nat × List Char) :=
  body.map fun (codes, rest) => (code :: codes, rest)

theorem shortEscape?_u : shortEscape? 'u' = none := by decide

theorem stringCodes_short {e : Char} {code : Nat} (short : shortEscape? e = some code)
    (rest : List Char) : stringCodes ('\\' :: e :: rest) = withCode code (stringCodes rest) := by
  rw [stringCodes, short, withCode]
  · cases stringCodes rest <;> rfl
  · rintro a b c d rest' rfl -
    rw [shortEscape?_u] at short
    cases short

theorem stringCodes_long {n : Nat} (small : n < 65536) (rest : List Char) :
    stringCodes ('\\' :: 'u' :: (fixedDigits 16 4 n ++ rest)) = withCode n (stringCodes rest) := by
  have value : hex? (fixedDigits 16 4 n) = some n := hex?_fixedDigits small
  have length : (fixedDigits 16 4 n).length = 4 := length_fixedDigits 16 4 n
  match digits : fixedDigits 16 4 n, length with
  | [a, b, c, d], _ =>
    rw [digits] at value
    rw [List.cons_append, List.cons_append, List.cons_append, List.cons_append, List.nil_append,
      stringCodes, hexCode?, value, withCode]
    cases stringCodes rest <;> rfl

theorem stringCodes_plain {c : Char} (above : ¬c.toNat < 32) (quote : c ≠ '"') (slash : c ≠ '\\')
    (rest : List Char) : stringCodes (c :: rest) = withCode c.toNat (stringCodes rest) := by
  rw [stringCodes.eq_def]
  split
  · rename_i same
    cases same
  · rename_i same
    cases same
    exact absurd rfl quote
  · rename_i same
    cases same
    exact absurd rfl slash
  · rename_i same
    cases same
    exact absurd rfl slash
  · rename_i same
    cases same
    rw [if_neg (not_or.2 ⟨above, slash⟩), withCode]
    cases stringCodes rest <;> rfl

/-- An escape is undone. -/
theorem stringCodes_escape (c : Char) (rest : List Char) :
    stringCodes (escape c ++ rest) = withCode c.toNat (stringCodes rest) := by
  unfold escape
  split
  · rename_i same
    subst same
    exact stringCodes_short (by decide) rest
  split
  · rename_i same
    subst same
    exact stringCodes_short (by decide) rest
  split
  · rename_i code
    rw [code]
    exact stringCodes_short (by decide) rest
  split
  · rename_i code
    rw [code]
    exact stringCodes_short (by decide) rest
  split
  · rename_i same
    subst same
    exact stringCodes_short (by decide) rest
  split
  · rename_i same
    subst same
    exact stringCodes_short (by decide) rest
  split
  · rename_i same
    subst same
    exact stringCodes_short (by decide) rest
  split
  · rename_i low
    exact stringCodes_long (by omega) rest
  · exact stringCodes_plain ‹_› ‹_› ‹_› rest

/-- A string body gives the codes of its characters. -/
theorem stringCodes_body (cs rest : List Char) :
    stringCodes (cs.flatMap escape ++ '"' :: rest) = some (cs.map Char.toNat, rest) := by
  induction cs with
  | nil => rw [List.flatMap_nil, List.nil_append, stringCodes]; rfl
  | cons c cs ih =>
    rw [List.flatMap_cons, List.append_assoc, stringCodes_escape, ih]
    rfl

theorem not_surrogate (c : Char) : ¬(0xD800 ≤ c.toNat ∧ c.toNat < 0xE000) := by
  have valid := c.valid
  unfold UInt32.isValidChar Nat.isValidChar at valid
  unfold Char.toNat
  omega

/-- No character is a surrogate, so codes of characters stand for themselves. -/
theorem charsOfCodes_map (cs : List Char) : charsOfCodes (cs.map Char.toNat) = some cs := by
  induction cs with
  | nil => rfl
  | cons c cs ih =>
    have single := not_surrogate c
    cases cs with
    | nil =>
      rw [List.map_cons, List.map_nil, charsOfCodes, if_neg single, Char.ofNat_toNat]
    | cons d cs =>
      rw [List.map_cons] at ih ⊢
      rw [List.map_cons, charsOfCodes, if_neg fun high => single ⟨high.1, by omega⟩,
        if_neg single, ih, Char.ofNat_toNat]
      rfl

/-- A string is read to its closing quote. -/
theorem readString_body (s : String) (rest : List Char) :
    readString (s.toList.flatMap escape ++ '"' :: rest) = some (.str s, rest) := by
  rw [readString, stringCodes_body, Option.map_some]
  simp [stringNode, charsOfCodes_map]

/-! ## Values -/

mutual

/-- Whether all numbers of a value are whole and fit in 64 bits. -/
def plain : Json → Bool
  | .num (.int z) => decide (NumberText.Fits z)
  | .num (.double _) => false
  | .arr items => plainItems items
  | .obj fields => plainFields fields
  | _ => true

/-- `plain` on the items of an array. -/
def plainItems : List Json → Bool
  | [] => true
  | j :: rest => plain j && plainItems rest

/-- `plain` on the fields of an object. -/
def plainFields : List (String × Json) → Bool
  | [] => true
  | (_, j) :: rest => plain j && plainFields rest

end

/-- A head at which a value begins. -/
def Opens (c : Char) : Prop :=
  c = 'n' ∨ c = 't' ∨ c = 'f' ∨ c = '"' ∨ c = '[' ∨ c = '{' ∨ c = '-' ∨ isDigit c = true

instance (c : Char) : Decidable (Opens c) := by
  unfold Opens
  infer_instance

theorem isSpace_of_opens {c : Char} (opens : Opens c) : isSpace c = false := by
  rcases opens with rfl | rfl | rfl | rfl | rfl | rfl | rfl | digit
  case inr.inr.inr.inr.inr.inr.inr =>
    rw [← Bool.not_eq_true]
    intro space
    simp only [isSpace, Bool.or_eq_true, decide_eq_true_eq] at space
    rcases space with ((rfl | rfl) | rfl) | rfl <;> exact absurd digit (by decide)
  all_goals decide

theorem opens_decimalInt (z : Int) : ∃ c tail, decimalInt z = c :: tail ∧
    (c = '-' ∨ isDigit c = true) := by
  unfold decimalInt
  split
  · exact ⟨'-', _, rfl, .inl rfl⟩
  · cases digits : decimal z.natAbs with
    | nil => exact absurd digits (decimal_ne_nil _)
    | cons c tail =>
      have member : c ∈ decimal z.natAbs := digits ▸ List.mem_cons_self
      exact ⟨c, tail, rfl, .inr (isDigit_of_mem_decimal member)⟩

theorem opens_chars (j : Json) (whole : j.plain = true) :
    ∃ c tail, j.chars = c :: tail ∧ Opens c := by
  match j with
  | .null => exact ⟨'n', _, rfl, .inl rfl⟩
  | .bool true => exact ⟨'t', _, rfl, .inr (.inl rfl)⟩
  | .bool false => exact ⟨'f', _, rfl, .inr (.inr (.inl rfl))⟩
  | .num (.int z) =>
    obtain ⟨c, tail, same, head⟩ := opens_decimalInt z
    refine ⟨c, tail, same, ?_⟩
    rcases head with rfl | digit
    · exact .inr (.inr (.inr (.inr (.inr (.inr (.inl rfl))))))
    · exact .inr (.inr (.inr (.inr (.inr (.inr (.inr digit))))))
  | .num (.double _) => cases whole
  | .str s => exact ⟨'"', _, rfl, .inr (.inr (.inr (.inl rfl)))⟩
  | .arr [] => exact ⟨'[', _, rfl, .inr (.inr (.inr (.inr (.inl rfl))))⟩
  | .arr (_ :: _) => exact ⟨'[', _, rfl, .inr (.inr (.inr (.inr (.inl rfl))))⟩
  | .obj [] => exact ⟨'{', _, rfl, .inr (.inr (.inr (.inr (.inr (.inl rfl)))))⟩
  | .obj (_ :: _) => exact ⟨'{', _, rfl, .inr (.inr (.inr (.inr (.inr (.inl rfl)))))⟩

theorem readScalar_num {z : Int} (fits : NumberText.Fits z) {rest : List Char}
    (stops : Stops rest) :
    readScalar (decimalInt z ++ rest) = (.num (.int z), some rest) := by
  have read := NumberText.read_decimalInt z stops
  have value := NumberText.value?_decimalInt fits
  obtain ⟨c, tail, same, head⟩ := opens_decimalInt z
  rw [same, List.cons_append] at read ⊢
  unfold readScalar
  split
  case h_5 =>
    rw [read]
    simp [value]
  all_goals
    rename_i head'
    cases head'
    rcases head with head | head <;> exact absurd head (by decide)

theorem readScalar_str (s : String) (rest : List Char) :
    readScalar (quote s ++ rest) = (.str s, some rest) := by
  have body := readString_body s rest
  rw [quote, List.cons_append, List.append_assoc]
  simp [readScalar, body]

theorem skipSpace_of_ink {c : Char} (ink : isSpace c = false) (cs : List Char) :
    skipSpace (c :: cs) = c :: cs := by
  rw [skipSpace, List.dropWhile_cons_of_neg]
  rw [ink]
  exact Bool.false_ne_true

theorem skipSpace_of_opens {c : Char} (opens : Opens c) (cs : List Char) :
    skipSpace (c :: cs) = c :: cs :=
  skipSpace_of_ink (isSpace_of_opens opens) cs

/-- The items of an array that is not empty, and its end. -/
def bodyChars (items : List Json) : List Char :=
  (itemChars items).tail

theorem bodyChars_cons (j : Json) (rest : List Json) :
    bodyChars (j :: rest) = chars j ++ itemChars rest := rfl

theorem chars_arr_cons (j : Json) (rest : List Json) :
    chars (.arr (j :: rest)) = '[' :: bodyChars (j :: rest) := rfl

theorem itemChars_cons (j : Json) (rest : List Json) :
    itemChars (j :: rest) = ',' :: bodyChars (j :: rest) := rfl

/-- The fields of an object that is not empty, and its end. -/
def recordChars (fields : List (String × Json)) : List Char :=
  (fieldChars fields).tail

theorem recordChars_cons (name : String) (j : Json) (rest : List (String × Json)) :
    recordChars ((name, j) :: rest) = quote name ++ ':' :: (chars j ++ fieldChars rest) := rfl

theorem fieldChars_cons (name : String) (j : Json) (rest : List (String × Json)) :
    fieldChars ((name, j) :: rest) = ',' :: recordChars ((name, j) :: rest) := rfl

/-- A value that is no container is read as a scalar. -/
theorem readValue_scalar {cs : List Char} {c : Char} (opens : Opens c) (array : c ≠ '[')
    (object : c ≠ '{') (fuel : Nat) : readValue (fuel + 1) (c :: cs) = readScalar (c :: cs) := by
  rw [readValue, skipSpace_of_opens opens]
  split
  · rename_i same
    cases same
    exact absurd rfl array
  · rename_i same
    cases same
    exact absurd rfl object
  · rfl

theorem opens_bodyChars {items : List Json} (whole : plainItems items = true)
    (filled : items ≠ []) :
    ∃ c tail, bodyChars items = c :: tail ∧ Opens c := by
  cases items with
  | nil => exact absurd rfl filled
  | cons j items =>
    unfold plainItems at whole
    obtain ⟨c, tail, same, opens⟩ := opens_chars j (Bool.and_eq_true_iff.1 whole).1
    exact ⟨c, tail ++ itemChars items, by rw [bodyChars_cons, same, List.cons_append], opens⟩

theorem ne_bracket_of_opens {c : Char} (opens : Opens c) : c ≠ ']' := by
  rintro rfl
  exact absurd opens (by decide)

/-- An array that is not empty is read item by item. -/
theorem readValue_arr {cs : List Char} {c : Char} (opens : Opens c) (fuel : Nat) :
    readValue (fuel + 1) ('[' :: c :: cs) =
      ((.arr (readItems fuel (c :: cs)).1, (readItems fuel (c :: cs)).2)) := by
  have bracket : skipSpace ('[' :: c :: cs) = '[' :: c :: cs := skipSpace_of_opens (by decide) _
  simp only [readValue, bracket, skipSpace_of_opens opens]
  split
  · rename_i same
    cases same
    exact absurd rfl (ne_bracket_of_opens opens)
  · rfl

/-- An object that is not empty is read field by field. -/
theorem readValue_obj (cs : List Char) (fuel : Nat) :
    readValue (fuel + 1) ('{' :: '"' :: cs) =
      ((.obj (readFields fuel ('"' :: cs)).1, (readFields fuel ('"' :: cs)).2)) := by
  have brace : skipSpace ('{' :: '"' :: cs) = '{' :: '"' :: cs := skipSpace_of_opens (by decide) _
  have quoted : skipSpace ('"' :: cs) = '"' :: cs := skipSpace_of_opens (by decide) _
  simp only [readValue, brace, quoted]
  split
  · rename_i same
    cases same
  · rfl

mutual

/-- The text of a value is read as the value's node, and what follows is left. The length of the
text bounds the readers that are entered. -/
theorem readValue_chars (j : Json) (whole : j.plain = true) (fuel : Nat) (rest : List Char)
    (enough : j.chars.length ≤ fuel) (stops : Stops rest) :
    readValue fuel (j.chars ++ rest) = (Node.ofJson j, some rest) := by
  match fuel, j with
  | 0, j =>
    obtain ⟨c, tail, same, -⟩ := opens_chars j whole
    rw [same] at enough
    cases enough
  | fuel + 1, .null => exact readValue_scalar (.inl rfl) (by decide) (by decide) fuel
  | fuel + 1, .bool true =>
    exact readValue_scalar (.inr (.inl rfl)) (by decide) (by decide) fuel
  | fuel + 1, .bool false =>
    exact readValue_scalar (.inr (.inr (.inl rfl))) (by decide) (by decide) fuel
  | fuel + 1, .num (.double _) => cases whole
  | fuel + 1, .num (.int z) =>
    have scalar := readScalar_num (of_decide_eq_true whole) stops
    obtain ⟨c, tail, same, head⟩ := opens_decimalInt z
    have opens : Opens c ∧ c ≠ '[' ∧ c ≠ '{' := by
      rcases head with rfl | digit
      · decide
      · refine ⟨.inr (.inr (.inr (.inr (.inr (.inr (.inr digit)))))), ?_, ?_⟩ <;>
          rintro rfl <;> exact absurd digit (by decide)
    rw [same, List.cons_append] at scalar
    have chars_num : chars (.num (.int z)) = c :: tail := same
    rw [chars_num, List.cons_append, readValue_scalar opens.1 opens.2.1 opens.2.2]
    exact scalar
  | fuel + 1, .str s =>
    have opens : Opens '"' := by decide
    exact (readValue_scalar opens (by decide) (by decide) fuel).trans (readScalar_str s rest)
  | fuel + 1, .arr [] => rfl
  | fuel + 1, .obj [] => rfl
  | fuel + 1, .arr (first :: items) =>
    obtain ⟨c, tail, same, opens⟩ := opens_bodyChars whole (List.cons_ne_nil first items)
    rw [chars_arr_cons, List.length_cons] at enough
    have body := readItems_chars (first :: items) whole (List.cons_ne_nil first items) fuel rest
      (by omega)
    rw [chars_arr_cons, List.cons_append]
    rw [same, List.cons_append] at body ⊢
    rw [readValue_arr opens, body]
    rfl
  | fuel + 1, .obj ((name, first) :: fields) =>
    have chars_obj : chars (.obj ((name, first) :: fields)) =
        '{' :: recordChars ((name, first) :: fields) := rfl
    rw [chars_obj, List.length_cons] at enough
    have body := readFields_chars ((name, first) :: fields) whole (List.cons_ne_nil _ fields) fuel
      rest (by omega)
    rw [chars_obj, List.cons_append]
    rw [recordChars_cons, quote, List.cons_append, List.cons_append] at body ⊢
    rw [readValue_obj, body]
    rfl

/-- The items of an array are read up to its end. -/
theorem readItems_chars (items : List Json) (whole : plainItems items = true) (filled : items ≠ [])
    (fuel : Nat) (rest : List Char) (enough : (bodyChars items).length ≤ fuel) :
    readItems fuel (bodyChars items ++ rest) = (Node.ofItems items, some rest) := by
  match fuel, items with
  | _, [] => exact absurd rfl filled
  | 0, first :: items =>
    obtain ⟨c, tail, same, -⟩ := opens_bodyChars whole filled
    rw [same] at enough
    cases enough
  | fuel + 1, first :: items =>
    unfold plainItems at whole
    obtain ⟨this, others⟩ := Bool.and_eq_true_iff.1 whole
    obtain ⟨c, tail, same, -⟩ := opens_chars first this
    have one : 1 ≤ (chars first).length := by rw [same, List.length_cons]; omega
    rw [bodyChars_cons, List.length_append] at enough
    rw [bodyChars_cons, List.append_assoc]
    cases items with
    | nil =>
      have value := readValue_chars first this fuel (']' :: rest)
        (by rw [itemChars, List.length_singleton] at enough; omega) (stops_cons (by decide) rest)
      have close : skipSpace (']' :: rest) = ']' :: rest := skipSpace_of_ink (by decide) rest
      rw [itemChars, List.cons_append, List.nil_append]
      simp [readItems, value, close, Node.ofItems]
    | cons second items =>
      rw [itemChars_cons, List.length_cons] at enough
      have value := readValue_chars first this fuel (',' :: (bodyChars (second :: items) ++ rest))
        (by omega) (stops_cons (by decide) _)
      have more := readItems_chars (second :: items) others (List.cons_ne_nil second items) fuel
        rest (by omega)
      have comma : skipSpace (',' :: (bodyChars (second :: items) ++ rest)) =
          ',' :: (bodyChars (second :: items) ++ rest) := skipSpace_of_ink (by decide) _
      rw [itemChars_cons, List.cons_append]
      simp [readItems, value, comma, more, Node.ofItems]

/-- The fields of an object are read up to its end. -/
theorem readFields_chars (fields : List (String × Json)) (whole : plainFields fields = true)
    (filled : fields ≠ []) (fuel : Nat) (rest : List Char)
    (enough : (recordChars fields).length ≤ fuel) :
    readFields fuel (recordChars fields ++ rest) = (Node.ofFields fields, some rest) := by
  match fuel, fields with
  | _, [] => exact absurd rfl filled
  | 0, (name, first) :: fields =>
    rw [recordChars_cons, quote] at enough
    cases enough
  | fuel + 1, (name, first) :: fields =>
    unfold plainFields at whole
    obtain ⟨this, others⟩ := Bool.and_eq_true_iff.1 whole
    simp only [recordChars_cons, quote, List.length_append, List.length_cons, List.length_nil]
      at enough
    have ink : ∀ c cs, isSpace c = false → skipSpace (c :: cs) = c :: cs :=
      fun c cs ink => skipSpace_of_ink ink cs
    have key : ∀ rest, readString (name.toList.flatMap escape ++ '"' :: rest) =
        some (.str name, rest) := readString_body name
    rw [recordChars_cons, quote]
    cases fields with
    | nil =>
      have value := readValue_chars first this fuel ('}' :: rest)
        (by omega) (stops_cons (by decide) rest)
      simp [readFields, ink, isSpace, key, fieldChars, value, Node.ofFields, Node.name?]
    | cons second fields =>
      obtain ⟨next, second⟩ := second
      have more := readFields_chars ((next, second) :: fields) others (List.cons_ne_nil _ fields)
        fuel rest (by rw [fieldChars_cons, List.length_cons] at enough; omega)
      have value := readValue_chars first this fuel
        (',' :: (recordChars ((next, second) :: fields) ++ rest)) (by omega)
        (stops_cons (by decide) _)
      simp [readFields, ink, isSpace, key, fieldChars_cons, value, more, Node.ofFields, Node.name?]

end

/-- The text of a value is read as the value, and nothing stands behind it. -/
theorem read_text (j : Json) (whole : j.plain = true) : read j.text = ⟨Node.ofJson j, false⟩ := by
  have value := readValue_chars j whole (2 * j.chars.length + 2) [] (by omega) stops_nil
  rw [List.append_nil] at value
  simp [read, text, value, skipSpace]

end Json

end Tableside
