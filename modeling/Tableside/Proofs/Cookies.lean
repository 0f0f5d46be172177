import Mathlib.Logic.Relation
import Tableside.Auth.Credentials
import Tableside.Proofs.Text

/-!
# Where the token of a request is found

The token stands after `Bearer` in the first `Authorization` header, or else in the first piece of
the cookie headers that is a pair of the right name (`Auth.FirstNamed`). `Auth.Recast` lists the
changes of headers that should not matter: cookie headers are joined or cut at a semicolon, pieces
of other names come or go, blanks are put around a piece, an `Authorization` header without a token
is exchanged or dropped. Each of them keeps three things (`Auth.Alike`): whether the cookies can be
read, what the first `Authorization` header says, and the first value of the right name. These
settle the token (`Auth.Alike.token?_eq`).
-/

namespace Tableside

theorem Text.splitAll_eq_splitOn (sep : Char) (cs : List Char) :
    splitAll sep cs = cs.splitOn sep := by
  induction cs with
  | nil => rfl
  | cons c rest ih =>
    rw [List.splitOn_cons_eq_if_modifyHead, splitAll, ih]
    by_cases here : c = sep
    · rw [if_pos here, if_pos (beq_iff_eq.2 here)]
    · rw [if_neg here, if_neg (mt beq_iff_eq.1 here)]
      cases pieces : rest.splitOn sep with
      | nil => exact absurd pieces (List.splitOn_ne_nil sep rest)
      | cons piece pieces => rfl

/-- Texts that are joined are cut where they were joined and where each of them is cut. -/
theorem Text.splitOn_intercalate_eq_flatMap (sep : Char) {texts : List (List Char)}
    (nonempty : texts ≠ []) :
    ([sep].intercalate texts).splitOn sep = texts.flatMap (·.splitOn sep) := by
  induction texts with
  | nil => exact absurd rfl nonempty
  | cons text rest ih =>
    cases rest with
    | nil => simp
    | cons next rest =>
      rw [List.intercalate_cons_cons, List.append_assoc, List.singleton_append,
        List.splitOn_append_cons_self, ih (List.cons_ne_nil next rest)]
      exact List.flatMap_cons.symm

namespace Auth

open Text

/-! ## What is asked of headers -/

/-- A character that can be seen in a header: printable ASCII or a tab. -/
def Seen (c : Char) : Prop :=
  c = '\t' ∨ 32 ≤ c.toNat ∧ c.toNat ≤ 126

instance (c : Char) : Decidable (Seen c) :=
  inferInstanceAs (Decidable (c = '\t' ∨ 32 ≤ c.toNat ∧ c.toNat ≤ 126))

theorem isVisible_iff {value : String} : isVisible value = true ↔ ∀ c ∈ value.toList, Seen c := by
  simp [isVisible, Seen]

/-- All cookie headers can be read. -/
def CookiesVisible (headers : Headers) : Prop :=
  ∀ h ∈ headers, h.1 = "cookie" → isVisible h.2 = true

instance (headers : Headers) : Decidable (CookiesVisible headers) :=
  inferInstanceAs (Decidable (∀ h ∈ headers, h.1 = "cookie" → isVisible h.2 = true))

/-- A header value brings a token: it can be read, and the token is what stands after `Bearer`, less
the blanks around it. -/
def Brings (value token : String) : Prop :=
  isVisible value = true ∧ token ≠ "" ∧ ∃ rest, value = "Bearer " ++ rest ∧ trim rest = token

/-- The first `Authorization` header brings a token. -/
def Bears (headers : Headers) (token : String) : Prop :=
  ∃ value, headers.lookup "authorization" = some value ∧ Brings value token

/-- What stands between the semicolons of the cookie headers, in order. -/
def pieces (headers : Headers) : List (List Char) :=
  (headers.filter fun h => h.1 == "cookie").flatMap fun h => h.2.toList.splitOn ';'

/-- A piece is a pair: a name up to the first equals sign and a value, no blanks around them. -/
def IsPair (piece : List Char) (name value : String) : Prop :=
  trimChars piece = name.toList ++ '=' :: value.toList ∧ '=' ∉ name.toList

/-- The value of the first piece that is a pair of the right name, if there is one. -/
def FirstNamed (pieces : List (List Char)) : Option String → Prop
  | some value => ∃ before piece after, pieces = before ++ piece :: after ∧
      IsPair piece cookieName value ∧ ∀ other ∈ before, ∀ v, ¬IsPair other cookieName v
  | none => ∀ piece ∈ pieces, ∀ v, ¬IsPair piece cookieName v

/-! ## Changes -/

/-- Pieces as one value of a cookie header. -/
def joined (pieces : List (List Char)) : String :=
  String.ofList ([';'].intercalate pieces)

/-- A piece that can be read and is no pair of the right name. -/
structure Stray (piece : List Char) : Prop where
  visible : ∀ c ∈ piece, Seen c
  single : ';' ∉ piece
  other : ∀ value, ¬IsPair piece cookieName value

/-- A change of the headers of a request that its token does not depend on. -/
inductive Recast : Headers → Headers → Prop
  | join {before between after : Headers} {a b : String} (apart : ∀ h ∈ between, h.1 ≠ "cookie") :
      Recast (before ++ ("cookie", a) :: between ++ ("cookie", b) :: after)
        (before ++ ("cookie", a ++ "; " ++ b) :: between ++ after)
  | split {before after : Headers} {a b : String} :
      Recast (before ++ ("cookie", a ++ ";" ++ b) :: after)
        (before ++ ("cookie", a) :: ("cookie", b) :: after)
  | insert {before after : Headers} {first last : List (List Char)} {piece : List Char}
      (stray : Stray piece) :
      Recast (before ++ ("cookie", joined (first ++ last)) :: after)
        (before ++ ("cookie", joined (first ++ piece :: last)) :: after)
  | insertAlone {before after : Headers} {piece : List Char} (stray : Stray piece) :
      Recast (before ++ after) (before ++ ("cookie", String.ofList piece) :: after)
  | pad {before after : Headers} {first last : List (List Char)} {piece lead tail : List Char}
      (single : ';' ∉ piece) (blankLead : ∀ c ∈ lead, c = ' ' ∨ c = '\t')
      (blankTail : ∀ c ∈ tail, c = ' ' ∨ c = '\t') :
      Recast (before ++ ("cookie", joined (first ++ piece :: last)) :: after)
        (before ++ ("cookie", joined (first ++ (lead ++ piece ++ tail) :: last)) :: after)
  | authorize {before after : Headers} {value value' : String}
      (first : ∀ h ∈ before, h.1 ≠ "authorization") (old : ∀ token, ¬Brings value token)
      (new : ∀ token, ¬Brings value' token) :
      Recast (before ++ ("authorization", value) :: after)
        (before ++ ("authorization", value') :: after)
  | unauthorize {headers : Headers} (plain : ∀ token, ¬Bears headers token) :
      Recast headers (headers.filter fun h => h.1 != "authorization")
  | other {before after : Headers} {h : String × String} (noCookie : h.1 ≠ "cookie")
      (noToken : h.1 ≠ "authorization") : Recast (before ++ after) (before ++ h :: after)

/-! ## Pairs -/

theorem cookiePair?_eq_some {piece : List Char} {name value : String} :
    cookiePair? piece = some (name, value) ↔ IsPair piece name value := by
  constructor
  · intro read
    obtain ⟨⟨front, back⟩, cut, same⟩ := Option.map_eq_some_iff.1 read
    obtain ⟨rfl, rfl⟩ := Prod.mk.inj same
    obtain ⟨spelled, absent⟩ := splitOnce_eq_some cut
    refine ⟨?_, ?_⟩
    · rw [String.toList_ofList, String.toList_ofList]
      exact spelled
    · rw [String.toList_ofList]
      exact absent
  · rintro ⟨spelled, absent⟩
    rw [cookiePair?, spelled, splitOnce_append absent]
    simp

/-- The value of a piece that is a pair of the right name. -/
def value? (piece : List Char) : Option String :=
  (cookiePair? piece).bind fun c => if c.1 == cookieName then some c.2 else none

theorem value?_eq_some {piece : List Char} {value : String} :
    value? piece = some value ↔ IsPair piece cookieName value := by
  rw [← cookiePair?_eq_some, value?]
  constructor
  · intro found
    obtain ⟨⟨name, value'⟩, read, named⟩ := Option.bind_eq_some_iff.1 found
    by_cases same : name = cookieName
    · subst same
      rw [if_pos (beq_self_eq_true _)] at named
      cases named
      exact read
    · rw [if_neg (mt beq_iff_eq.1 same)] at named
      cases named
  · intro read
    rw [read]
    simp

theorem value?_eq_none {piece : List Char} :
    value? piece = none ↔ ∀ value, ¬IsPair piece cookieName value := by
  rw [Option.eq_none_iff_forall_not_mem]
  exact forall_congr' fun value => not_congr value?_eq_some

/-- Blanks around a piece are no part of it. -/
theorem value?_surrounded (piece : List Char) {lead tail : List Char}
    (blankLead : ∀ c ∈ lead, isBlank c = true) (blankTail : ∀ c ∈ tail, isBlank c = true) :
    value? (lead ++ piece ++ tail) = value? piece := by
  rw [value?, cookiePair?, trimChars_surrounded piece blankLead blankTail]
  rfl

theorem firstNamed_findSome? (pieces : List (List Char)) :
    FirstNamed pieces (pieces.findSome? value?) := by
  cases found : pieces.findSome? value? with
  | some value =>
    obtain ⟨before, piece, after, split, here, earlier⟩ := List.findSome?_eq_some_iff.1 found
    exact ⟨before, piece, after, split, value?_eq_some.1 here,
      fun other member => value?_eq_none.1 (earlier other member)⟩
  | none =>
    exact fun piece member => value?_eq_none.1 (List.findSome?_eq_none_iff.1 found piece member)

/-! ## What settles the token -/

/-- What is read of a header value with `Bearer` in front. -/
theorem bearerToken?_append (rest : String) :
    bearerToken? ("Bearer " ++ rest) = if trim rest = "" then none else some (trim rest) := by
  have empty : (trimChars rest.toList).isEmpty = true ↔ trim rest = "" := by
    rw [List.isEmpty_iff, trim, ← String.toList_eq_nil_iff, String.toList_ofList]
  simp only [bearerToken?, String.toList_append, List.take_left, List.drop_left, if_true]
  exact if_congr empty rfl rfl

/-- What has no `Bearer` in front brings nothing. -/
theorem bearerToken?_eq_none {value : String} (other : ∀ rest, value ≠ "Bearer " ++ rest) :
    bearerToken? value = none := by
  refine if_neg fun lead => other (String.ofList (value.toList.drop "Bearer ".toList.length)) ?_
  have split := List.take_append_drop "Bearer ".toList.length value.toList
  rw [lead] at split
  calc value
    _ = String.ofList value.toList := String.ofList_toList.symm
    _ = String.ofList ("Bearer ".toList ++ value.toList.drop "Bearer ".toList.length) := by
      rw [split]
    _ = "Bearer " ++ String.ofList (value.toList.drop "Bearer ".toList.length) :=
      String.ofList_append

theorem brings_iff {value token : String} :
    Brings value token ↔ isVisible value = true ∧ bearerToken? value = some token := by
  refine and_congr_right fun _ => ⟨?_, fun read => ?_⟩
  · rintro ⟨solid, rest, rfl, rfl⟩
    rw [bearerToken?_append, if_neg solid]
  · by_cases lead : ∃ rest, value = "Bearer " ++ rest
    · obtain ⟨rest, rfl⟩ := lead
      rw [bearerToken?_append] at read
      split at read
      · cases read
      · rename_i solid
        cases read
        exact ⟨solid, rest, rfl, rfl⟩
    · rw [bearerToken?_eq_none fun rest same => lead ⟨rest, same⟩] at read
      cases read

/-- The token that the first `Authorization` header brings. -/
def bearer? (headers : Headers) : Option String :=
  (headers.lookup "authorization").bind fun value =>
    if isVisible value then bearerToken? value else none

theorem bearer?_eq_some {headers : Headers} {token : String} :
    bearer? headers = some token ↔ Bears headers token := by
  rw [bearer?, Option.bind_eq_some_iff]
  refine exists_congr fun value => and_congr_right fun _ => ?_
  rw [brings_iff]
  cases isVisible value <;> simp

theorem bearer?_eq_none {headers : Headers} :
    bearer? headers = none ↔ ∀ token, ¬Bears headers token := by
  rw [Option.eq_none_iff_forall_not_mem]
  exact forall_congr' fun token => not_congr bearer?_eq_some

/-- The first value of a header, if it can be read. -/
theorem head?_headerValues (headers : Headers) (name : String) :
    (headerValues headers name).head? =
      (headers.lookup name).map fun value => if isVisible value then some value else none := by
  rw [headerValues, List.head?_map, List.head?_filter, List.lookup_eq_findSome?]
  induction headers with
  | nil => rfl
  | cons h rest ih =>
    rw [List.find?_cons, List.findSome?_cons]
    by_cases named : h.1 = name
    · simp [named]
    · rw [beq_false_of_ne named, beq_false_of_ne (Ne.symm named)]
      exact ih

/-- All cookies, where they can be read. -/
theorem cookies_of_visible {headers : Headers} (visible : CookiesVisible headers) :
    cookies headers = (pieces headers).filterMap cookiePair? := by
  have read : headerValues headers "cookie" =
      (headers.filter fun h => h.1 == "cookie").map fun h => some h.2 := by
    refine List.map_congr_left fun h member => if_pos ?_
    obtain ⟨there, named⟩ := List.mem_filter.1 member
    exact visible h there (beq_iff_eq.1 named)
  rw [cookies, read, pieces, List.filterMap_flatMap, List.filterMap_map]
  change ((headers.filter _).filterMap fun h => some h.2).flatMap _ = _
  rw [List.filterMap_eq_map', List.flatMap_map]
  simp only [splitAll_eq_splitOn]

/-- The first cookie of the right name comes from the first piece of the right name. -/
theorem find?_cookies (pieces : List (List Char)) :
    ((pieces.filterMap cookiePair?).find? fun c => c.1 == cookieName).map (·.2) =
      pieces.findSome? value? := by
  induction pieces with
  | nil => rfl
  | cons piece rest ih =>
    cases read : cookiePair? piece with
    | none =>
      have passed : value? piece = none := by rw [value?, read]; rfl
      rw [List.filterMap_cons_none read, List.findSome?_cons, passed]
      exact ih
    | some c =>
      rw [List.filterMap_cons_some read, List.find?_cons, List.findSome?_cons, value?, read,
        Option.bind_some]
      cases c.1 == cookieName with
      | true => rfl
      | false => exact ih

/-- Cookies are asked for when the first `Authorization` header brings no token. -/
theorem token?_eq_or (headers : Headers) : token? headers =
    (bearer? headers).or (((cookies headers).find? fun c => c.1 == cookieName).map (·.2)) := by
  have carried : ((headerValues headers "authorization").head?.bind fun value =>
      value.bind bearerToken?) = bearer? headers := by
    rw [head?_headerValues, bearer?, Option.bind_map]
    refine congrArg _ (funext fun value => ?_)
    change (if isVisible value then some value else none).bind bearerToken? = _
    cases isVisible value <;> rfl
  rw [token?, carried]
  cases bearer? headers <;> rfl

theorem token?_of_visible {headers : Headers} (visible : CookiesVisible headers) :
    token? headers = (bearer? headers).or ((pieces headers).findSome? value?) := by
  rw [token?_eq_or, cookies_of_visible visible, find?_cookies]

/-! ## Changes that do not matter -/

/-- Headers that are alike in all that settles the token. -/
structure Alike (headers headers' : Headers) : Prop where
  visible : CookiesVisible headers ↔ CookiesVisible headers'
  bearer : bearer? headers = bearer? headers'
  named : (pieces headers).findSome? value? = (pieces headers').findSome? value?

theorem Alike.symm {headers headers' : Headers} (alike : Alike headers headers') :
    Alike headers' headers :=
  ⟨alike.visible.symm, alike.bearer.symm, alike.named.symm⟩

theorem Alike.trans {headers headers' headers'' : Headers} (first : Alike headers headers')
    (second : Alike headers' headers'') : Alike headers headers'' :=
  ⟨first.visible.trans second.visible, first.bearer.trans second.bearer,
    first.named.trans second.named⟩

theorem Alike.token?_eq {headers headers' : Headers} (alike : Alike headers headers')
    (visible : CookiesVisible headers) : token? headers = token? headers' := by
  rw [token?_of_visible visible, token?_of_visible (alike.visible.1 visible), alike.bearer,
    alike.named]

theorem visible_append {front back : Headers} :
    CookiesVisible (front ++ back) ↔ CookiesVisible front ∧ CookiesVisible back :=
  List.forall_mem_append

theorem visible_cookie {value : String} :
    CookiesVisible [("cookie", value)] ↔ isVisible value = true := by
  simp [CookiesVisible]

theorem visible_of_no_cookie {headers : Headers} (apart : ∀ h ∈ headers, h.1 ≠ "cookie") :
    CookiesVisible headers :=
  fun h member named => absurd named (apart h member)

theorem pieces_append (front back : Headers) :
    pieces (front ++ back) = pieces front ++ pieces back := by
  rw [pieces, List.filter_append, List.flatMap_append]
  rfl

theorem pieces_cookie (value : String) :
    pieces [("cookie", value)] = value.toList.splitOn ';' := by
  simp [pieces]

theorem pieces_of_no_cookie {headers : Headers} (apart : ∀ h ∈ headers, h.1 ≠ "cookie") :
    pieces headers = [] := by
  have none : headers.filter (fun h => h.1 == "cookie") = [] :=
    List.filter_eq_nil_iff.2 fun h member => mt beq_iff_eq.1 (apart h member)
  rw [pieces, none]
  rfl

/-- Cookie headers may be exchanged for others that can be read as well and have the same first
value of the right name, wherever they stand. -/
theorem alike_within (before middle middle' after : Headers)
    (visible : CookiesVisible middle ↔ CookiesVisible middle')
    (bearer : middle.lookup "authorization" = middle'.lookup "authorization")
    (named : (pieces middle).findSome? value? = (pieces middle').findSome? value?) :
    Alike (before ++ (middle ++ after)) (before ++ (middle' ++ after)) where
  visible := by simp only [visible_append, visible]
  bearer := by simp only [bearer?, List.lookup_append, bearer]
  named := by simp only [pieces_append, List.findSome?_append, named]

theorem alike_cookie (before after : Headers) {value value' : String}
    (visible : isVisible value = true ↔ isVisible value' = true)
    (named : (value.toList.splitOn ';').findSome? value? =
      (value'.toList.splitOn ';').findSome? value?) :
    Alike (before ++ ("cookie", value) :: after) (before ++ ("cookie", value') :: after) := by
  refine alike_within before [("cookie", value)] [("cookie", value')] after ?_ rfl ?_
  · rwa [visible_cookie, visible_cookie]
  · rwa [pieces_cookie, pieces_cookie]

/-! ### Pieces that are joined -/

theorem isVisible_joined {texts : List (List Char)} :
    isVisible (joined texts) = true ↔ ∀ text ∈ texts, ∀ c ∈ text, Seen c := by
  rw [isVisible_iff, joined, String.toList_ofList]
  induction texts with
  | nil => simp
  | cons text rest ih =>
    cases rest with
    | nil => simp
    | cons next rest =>
      have split : (∀ c ∈ [';'].intercalate (text :: next :: rest), Seen c) ↔
          (∀ c ∈ text, Seen c) ∧ ∀ c ∈ [';'].intercalate (next :: rest), Seen c := by
        have seen : Seen ';' := by decide
        rw [List.intercalate_cons_cons, List.append_assoc, List.forall_mem_append,
          List.singleton_append, List.forall_mem_cons]
        exact and_congr_right fun _ => and_iff_right seen
      rw [split, ih]
      exact (List.forall_mem_cons (p := fun text => ∀ c ∈ text, Seen c)).symm

theorem findSome?_joined (texts : List (List Char)) :
    ((joined texts).toList.splitOn ';').findSome? value? =
      (texts.flatMap (·.splitOn ';')).findSome? value? := by
  rw [joined, String.toList_ofList]
  cases texts with
  | nil => rfl
  | cons text rest => rw [splitOn_intercalate_eq_flatMap ';' (List.cons_ne_nil text rest)]

/-- One more piece counts for what it is. -/
theorem findSome?_joined_insert {first last : List (List Char)} {piece : List Char}
    (single : ';' ∉ piece) :
    ((joined (first ++ piece :: last)).toList.splitOn ';').findSome? value? =
      ((first.flatMap (·.splitOn ';')).findSome? value?).or
        ((value? piece).or ((last.flatMap (·.splitOn ';')).findSome? value?)) := by
  rw [findSome?_joined, List.flatMap_append, List.flatMap_cons, List.splitOn_eq_singleton single,
    List.findSome?_append, List.findSome?_append, List.findSome?_singleton]

theorem Stray.value?_eq {piece : List Char} (stray : Stray piece) : value? piece = none :=
  value?_eq_none.2 stray.other

/-- A blank in front of all pieces is no part of the first. -/
theorem findSome?_splitOn_blank (cs : List Char) :
    ((' ' :: cs).splitOn ';').findSome? value? = (cs.splitOn ';').findSome? value? := by
  rw [List.splitOn_cons_eq_if_modifyHead, if_neg (by decide)]
  cases cut : cs.splitOn ';' with
  | nil => rfl
  | cons piece rest =>
    have same : value? (' ' :: piece) = value? piece := by
      have blank : ∀ c ∈ [' '], isBlank c = true := List.forall_mem_singleton.2 rfl
      have surrounded := value?_surrounded piece blank (List.forall_mem_nil _)
      rwa [List.append_nil] at surrounded
    rw [List.modifyHead_cons, List.findSome?_cons, List.findSome?_cons, same]

/-! ### One change after another -/

theorem alike_join {before between after : Headers} {a b : String}
    (apart : ∀ h ∈ between, h.1 ≠ "cookie") :
    Alike (before ++ ("cookie", a) :: between ++ ("cookie", b) :: after)
      (before ++ ("cookie", a ++ "; " ++ b) :: between ++ after) := by
  have cut : (a ++ "; " ++ b).toList.splitOn ';' =
      a.toList.splitOn ';' ++ (' ' :: b.toList).splitOn ';' := by
    have spelled : (a ++ "; " ++ b).toList = a.toList ++ ';' :: ' ' :: b.toList := by simp
    rw [spelled, List.splitOn_append_cons_self]
  have visible : isVisible (a ++ "; " ++ b) = true ↔ isVisible a = true ∧ isVisible b = true := by
    have lead : Seen ';' ∧ Seen ' ' := by decide
    rw [isVisible_iff, isVisible_iff, isVisible_iff]
    simp [or_imp, forall_and, lead]
  have moved := alike_within before ([("cookie", a)] ++ (between ++ [("cookie", b)]))
    ([("cookie", a ++ "; " ++ b)] ++ between) after ?_ ?_ ?_
  · simpa using moved
  · simp only [visible_append, visible_cookie, visible]
    have free := visible_of_no_cookie apart
    tauto
  · simp [List.lookup_append, List.lookup_cons]
  · simp only [pieces_append, pieces_cookie, pieces_of_no_cookie apart, cut, List.append_nil,
      List.nil_append, List.findSome?_append, findSome?_splitOn_blank]

theorem alike_split {before after : Headers} {a b : String} :
    Alike (before ++ ("cookie", a ++ ";" ++ b) :: after)
      (before ++ ("cookie", a) :: ("cookie", b) :: after) := by
  have spelled : (a ++ ";" ++ b).toList = a.toList ++ ';' :: b.toList := by simp
  refine alike_within before [("cookie", a ++ ";" ++ b)] ([("cookie", a)] ++ [("cookie", b)]) after
    ?_ rfl ?_
  · have semicolon : Seen ';' := by decide
    rw [visible_append, visible_cookie, visible_cookie, visible_cookie, isVisible_iff,
      isVisible_iff, isVisible_iff, spelled, List.forall_mem_append, List.forall_mem_cons]
    exact and_congr_right fun _ => and_iff_right semicolon
  · rw [pieces_append, pieces_cookie, pieces_cookie, pieces_cookie, spelled,
      List.splitOn_append_cons_self]

theorem alike_insert {before after : Headers} {first last : List (List Char)} {piece : List Char}
    (stray : Stray piece) :
    Alike (before ++ ("cookie", joined (first ++ last)) :: after)
      (before ++ ("cookie", joined (first ++ piece :: last)) :: after) := by
  refine alike_cookie before after ?_ ?_
  · rw [isVisible_joined, isVisible_joined, List.forall_mem_append, List.forall_mem_append,
      List.forall_mem_cons]
    exact and_congr_right fun _ => (and_iff_right stray.visible).symm
  · rw [findSome?_joined_insert stray.single, findSome?_joined, List.flatMap_append,
      List.findSome?_append, stray.value?_eq, Option.none_or]

theorem alike_insertAlone {before after : Headers} {piece : List Char} (stray : Stray piece) :
    Alike (before ++ after) (before ++ ("cookie", String.ofList piece) :: after) := by
  refine alike_within before [] [("cookie", String.ofList piece)] after ?_ rfl ?_
  · rw [visible_cookie, isVisible_iff, String.toList_ofList]
    exact iff_of_true (List.forall_mem_nil _) stray.visible
  · rw [pieces_cookie, String.toList_ofList, List.splitOn_eq_singleton stray.single,
      List.findSome?_singleton, stray.value?_eq]
    rfl

theorem alike_pad {before after : Headers} {first last : List (List Char)}
    {piece lead tail : List Char} (single : ';' ∉ piece)
    (blankLead : ∀ c ∈ lead, c = ' ' ∨ c = '\t') (blankTail : ∀ c ∈ tail, c = ' ' ∨ c = '\t') :
    Alike (before ++ ("cookie", joined (first ++ piece :: last)) :: after)
      (before ++ ("cookie", joined (first ++ (lead ++ piece ++ tail) :: last)) :: after) := by
  have space {c : Char} (blank : c = ' ' ∨ c = '\t') : Seen c ∧ isBlank c = true ∧ c ≠ ';' := by
    rcases blank with rfl | rfl
    · decide
    · decide
  have single' : ';' ∉ lead ++ piece ++ tail := by
    simp only [List.mem_append, not_or]
    exact ⟨⟨fun member => (space (blankLead _ member)).2.2 rfl, single⟩,
      fun member => (space (blankTail _ member)).2.2 rfl⟩
  refine alike_cookie before after ?_ ?_
  · have padded : (∀ c ∈ lead ++ piece ++ tail, Seen c) ↔ ∀ c ∈ piece, Seen c := by
      rw [List.forall_mem_append, List.forall_mem_append]
      exact (and_iff_left fun c member => (space (blankTail c member)).1).trans
        (and_iff_right fun c member => (space (blankLead c member)).1)
    rw [isVisible_joined, isVisible_joined, List.forall_mem_append, List.forall_mem_append,
      List.forall_mem_cons, List.forall_mem_cons, padded]
  · rw [findSome?_joined_insert single, findSome?_joined_insert single',
      value?_surrounded piece (fun c member => (space (blankLead c member)).2.1)
        fun c member => (space (blankTail c member)).2.1]

theorem lookup_of_absent {headers : Headers} {name : String} (apart : ∀ h ∈ headers, h.1 ≠ name) :
    headers.lookup name = none :=
  List.lookup_eq_none_iff.2 fun h member => bne_iff_ne.2 (apart h member).symm

theorem alike_authorize {before after : Headers} {value value' : String}
    (first : ∀ h ∈ before, h.1 ≠ "authorization") (old : ∀ token, ¬Brings value token)
    (new : ∀ token, ¬Brings value' token) :
    Alike (before ++ ("authorization", value) :: after)
      (before ++ ("authorization", value') :: after) := by
  have silent {value : String} (plain : ∀ token, ¬Brings value token) :
      bearer? (before ++ ("authorization", value) :: after) = none := by
    refine bearer?_eq_none.2 fun token => ?_
    rintro ⟨found, looked, brings⟩
    rw [List.lookup_append, lookup_of_absent first, List.lookup_cons_self] at looked
    cases looked
    exact plain token brings
  refine ⟨?_, (silent old).trans (silent new).symm, ?_⟩
  · simp [CookiesVisible, or_imp, forall_and]
  · simp [pieces]

theorem alike_unauthorize {headers : Headers} (plain : ∀ token, ¬Bears headers token) :
    Alike headers (headers.filter fun h => h.1 != "authorization") where
  visible := by
    constructor
    · exact fun visible h member => visible h (List.mem_filter.1 member).1
    · intro visible h member named
      refine visible h (List.mem_filter.2 ⟨member, ?_⟩) named
      rw [named]
      decide
  bearer := by
    rw [bearer?_eq_none.2 plain, bearer?, lookup_of_absent]
    · rfl
    · exact fun h member => bne_iff_ne.1 (List.mem_filter.1 member).2
  named := by
    rw [pieces, pieces, List.filter_filter]
    refine congrArg (fun kept : Headers => (kept.flatMap _).findSome? value?)
      (List.filter_congr fun h _ => ?_)
    by_cases named : h.1 = "cookie"
    · rw [named]
      decide
    · rw [beq_false_of_ne named, Bool.false_and]

theorem alike_other {before after : Headers} {h : String × String} (noCookie : h.1 ≠ "cookie")
    (noToken : h.1 ≠ "authorization") : Alike (before ++ after) (before ++ h :: after) := by
  refine alike_within before [] [h] after ?_ ?_ ?_
  · exact iff_of_true (List.forall_mem_nil _)
      (visible_of_no_cookie (List.forall_mem_singleton.2 noCookie))
  · exact (lookup_of_absent (List.forall_mem_singleton.2 noToken)).symm
  · rw [pieces_of_no_cookie (List.forall_mem_singleton.2 noCookie)]
    rfl

theorem Recast.alike {headers headers' : Headers} (recast : Recast headers headers') :
    Alike headers headers' := by
  cases recast with
  | join apart => exact alike_join apart
  | split => exact alike_split
  | insert stray => exact alike_insert stray
  | insertAlone stray => exact alike_insertAlone stray
  | pad single blankLead blankTail => exact alike_pad single blankLead blankTail
  | authorize first old new => exact alike_authorize first old new
  | unauthorize plain => exact alike_unauthorize plain
  | other noCookie noToken => exact alike_other noCookie noToken

theorem alike_of_recasts {headers headers' : Headers}
    (recasts : Relation.EqvGen Recast headers headers') : Alike headers headers' := by
  induction recasts with
  | rel _ _ recast => exact recast.alike
  | refl _ => exact ⟨Iff.rfl, rfl, rfl⟩
  | symm _ _ _ ih => exact ih.symm
  | trans _ _ _ _ _ first second => exact first.trans second

/-- A token after `Bearer` in the first `Authorization` header is the one of the request, whatever
cookies say. Otherwise, where cookies can be read, it is the value of the first pair of the right
name; and no change that should not matter, made or taken back, in any number, changes it. -/
theorem token_settled (headers : Headers) :
    (∀ token, Bears headers token → token? headers = some token) ∧
      (CookiesVisible headers →
        ((∀ token, ¬Bears headers token) → FirstNamed (pieces headers) (token? headers)) ∧
        ∀ headers', Relation.EqvGen Recast headers headers' →
          token? headers' = token? headers) := by
  refine ⟨fun token bears => ?_, fun visible => ⟨fun plain => ?_, fun headers' recasts => ?_⟩⟩
  · rw [token?_eq_or, bearer?_eq_some.2 bears, Option.some_or]
  · rw [token?_of_visible visible, bearer?_eq_none.2 plain, Option.none_or]
    exact firstNamed_findSome? _
  · exact ((alike_of_recasts recasts).token?_eq visible).symm

/-- A password in the place of a token is passed over, and may go; the cookie is found where it is
and in a header of its own. -/
theorem token_settled_cut :
    let headers := [("authorization", "Basic dXNlcjpwYXNz"),
      ("cookie", "theme=dark; x_admin_token=1" ++ ";" ++ " admin_token=abc.d=f")]
    let cut := [("cookie", "theme=dark; x_admin_token=1"), ("cookie", " admin_token=abc.d=f")]
    let bearing := [("authorization", "Bearer  xyz"), ("cookie", "admin_token=abc")]
    Bears bearing "xyz" ∧ token? bearing = some "xyz" ∧
      CookiesVisible headers ∧ (∀ token, ¬Bears headers token) ∧
      Relation.EqvGen Recast headers cut ∧ FirstNamed (pieces headers) (some "abc.d=f") ∧
      token? cut = some "abc.d=f" := by
  intro headers cut bearing
  have bears : Bears bearing "xyz" := bearer?_eq_some.1 (by decide)
  have visible : CookiesVisible headers := by decide
  have plain : ∀ token, ¬Bears headers token := bearer?_eq_none.1 (by decide)
  have recasts : Relation.EqvGen Recast headers cut :=
    .trans _ _ _ (.rel _ _ (.unauthorize plain))
      (.rel _ _ (@Recast.split [] [] _ _))
  have found : token? headers = some "abc.d=f" := by decide
  obtain ⟨named, same⟩ := (token_settled headers).2 visible
  exact ⟨bears, (token_settled bearing).1 _ bears, visible, plain, recasts,
    found ▸ named plain, (same cut recasts).trans found⟩

end Auth

end Tableside
