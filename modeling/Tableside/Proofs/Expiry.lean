import Mathlib.Data.List.Infix
import Tableside.Cache.Expiring
import Tableside.Proofs.Store

/-!
# Caches as maps whose entries end

A cache is called and time passes. Whatever was called before, the last call that concerns a key
decides what the cache answers for it: the text that was set while its life lasts, and a miss
otherwise (`Cache.IsTimedMap`). This holds of every cache that keeps one step's worth of promises
(`Cache.Lawful`), which a call that concerns a key makes for all later moments and every other call
leaves alone. The cache over an expiring map keeps them as long as the map keeps its own
(`ExpiringMap.Honours`) and is not full, and so does the cache that keeps the entries itself.
-/

namespace Tableside

/-! ## Histories -/

/-- Something that happens to a cache: a call, or the passage of time. -/
inductive CacheEvent
  | call (c : CacheCall)
  | wait (time : Nanos)
deriving DecidableEq, Repr

/-- A call concerns the key that it sets and the keys that it deletes. -/
def CacheCall.Concerns (key : String) : CacheCall → Prop
  | get _ => False
  | set other _ _ => other = key
  | del keys => key ∈ keys

instance (key : String) (c : CacheCall) : Decidable (c.Concerns key) :=
  match c with
  | .get _ => inferInstanceAs (Decidable False)
  | .set other _ _ => inferInstanceAs (Decidable (other = key))
  | .del keys => inferInstanceAs (Decidable (key ∈ keys))

namespace CacheEvent

/-- An event concerns the keys that its call concerns, if it is one. -/
def Concerns (key : String) : CacheEvent → Prop
  | call c => c.Concerns key
  | wait _ => False

instance (key : String) (e : CacheEvent) : Decidable (e.Concerns key) :=
  match e with
  | call c => inferInstanceAs (Decidable (c.Concerns key))
  | wait _ => inferInstanceAs (Decidable False)

/-- The time that passes. -/
def time : CacheEvent → Nanos
  | call _ => 0
  | wait time => time

/-- Nothing in a history concerns a key. -/
def Quiet (key : String) (events : List CacheEvent) : Prop :=
  ∀ e ∈ events, ¬ e.Concerns key

instance (key : String) (events : List CacheEvent) : Decidable (Quiet key events) :=
  inferInstanceAs (Decidable (∀ e ∈ events, ¬ e.Concerns key))

/-- The time that passes in a history. -/
def elapsed : List CacheEvent → Nanos
  | [] => 0
  | e :: rest => e.time + elapsed rest

/-- What concerns a key sets or deletes it. -/
theorem cases_of_key (e : CacheEvent) (key : String) :
    ¬ e.Concerns key ∨ (∃ value ttl, e = call (.set key value ttl)) ∨
      ∃ keys, key ∈ keys ∧ e = call (.del keys) := by
  cases e with
  | wait time => exact .inl id
  | call c =>
    cases c with
    | get other => exact .inl id
    | set other value ttl =>
      by_cases same : other = key
      · exact .inr (.inl ⟨value, ttl, by rw [same]⟩)
      · exact .inl same
    | del keys =>
      by_cases listed : key ∈ keys
      · exact .inr (.inr ⟨keys, listed, rfl⟩)
      · exact .inl listed

end CacheEvent

namespace Cache

open CacheEvent

variable (C : Cache)

/-- The answer for a key. -/
def read (s : C.State) (now : Nanos) (key : String) : CacheReply :=
  (C.call s now (.get key)).1

/-- The contents and the moment after an event. -/
def step : C.State × Nanos → CacheEvent → C.State × Nanos
  | (s, now), .call c => ((C.call s now c).2, now)
  | (s, now), .wait time => (s, now + time)

/-- The contents and the moment after a history. -/
def run (x : C.State × Nanos) (events : List CacheEvent) : C.State × Nanos :=
  events.foldl C.step x

/-- The answer for a key after a history that began with the empty cache. -/
def answer (begun : Nanos) (events : List CacheEvent) (key : String) : CacheReply :=
  C.read (C.run (C.empty, begun) events).1 (C.run (C.empty, begun) events).2 key

/-- The contents are of a kind at every point of a history. -/
def Stays (Room : C.State → Prop) (x : C.State × Nanos) (events : List CacheEvent) : Prop :=
  ∀ before ∈ events.inits, Room (C.run x before).1

instance {Room : C.State → Prop} [DecidablePred Room] (x : C.State × Nanos)
    (events : List CacheEvent) : Decidable (C.Stays Room x events) :=
  inferInstanceAs (Decidable (∀ before ∈ events.inits, Room (C.run x before).1))

/-- A map from keys to texts in which every entry has its own end, as long as there is room. -/
structure IsTimedMap (begun : Nanos) (Room : C.State → Prop) : Prop where
  /-- What was set last is answered while its life lasts. -/
  present {before after : List CacheEvent} {key value : String} {ttl : Nanos}
    (room : C.Stays Room (C.empty, begun) (before ++ .call (.set key value ttl) :: after))
    (quiet : Quiet key after) (alive : elapsed after < ttl) :
    C.answer begun (before ++ .call (.set key value ttl) :: after) key = .value (some value)
  /-- What was set last for no time or for less than has passed is gone. -/
  expired {before after : List CacheEvent} {key value : String} {ttl : Nanos}
    (room : C.Stays Room (C.empty, begun) (before ++ .call (.set key value ttl) :: after))
    (quiet : Quiet key after) (ended : ttl = 0 ∨ ttl < elapsed after) :
    C.answer begun (before ++ .call (.set key value ttl) :: after) key = .value none
  /-- What was deleted last is gone, whatever else was deleted with it. -/
  deleted {before after : List CacheEvent} {key : String} {keys : List String}
    (room : C.Stays Room (C.empty, begun) (before ++ .call (.del keys) :: after))
    (listed : key ∈ keys) (quiet : Quiet key after) :
    C.answer begun (before ++ .call (.del keys) :: after) key = .value none
  /-- What was never set is not there. -/
  absent {events : List CacheEvent} {key : String}
    (room : C.Stays Room (C.empty, begun) events) (quiet : Quiet key events) :
    C.answer begun events key = .value none
  /-- What is gone comes back only when it is set. -/
  gone {before after : List CacheEvent} {key : String}
    (room : C.Stays Room (C.empty, begun) (before ++ after))
    (unset : ∀ value ttl, .call (.set key value ttl) ∉ after)
    (missing : C.answer begun before key = .value none) :
    C.answer begun (before ++ after) key = .value none
  /-- Calls that do not concern a key are to it as the passage of time. -/
  apart {before after : List CacheEvent} {key : String}
    (room : C.Stays Room (C.empty, begun) (before ++ after)) (quiet : Quiet key after) :
    C.answer begun (before ++ after) key = C.answer begun (before ++ [.wait (elapsed after)]) key

/-- From now on nothing is there for a key. -/
def Gone (x : C.State × Nanos) (key : String) : Prop :=
  ∀ ⦃later : Nanos⦄, x.2 ≤ later → C.read x.1 later key = .value none

/-- From now on, once a miss is a miss for good. -/
def Fades (x : C.State × Nanos) (key : String) : Prop :=
  ∀ ⦃now later : Nanos⦄, x.2 ≤ now → now ≤ later →
    C.read x.1 now key = .value none → C.read x.1 later key = .value none

/-- What a single call promises for a key at any later moment, as long as there is room. -/
structure Lawful (Room : C.State → Prop) : Prop where
  read_empty (now : Nanos) (key : String) : C.read C.empty now key = .value none
  read_other {s : C.State} {now later : Nanos} {c : CacheCall} {key : String} (room : Room s)
    (apart : ¬ c.Concerns key) (since : now ≤ later) :
    C.read (C.call s now c).2 later key = C.read s later key
  read_set {s : C.State} {now later ttl : Nanos} {key value : String} (room : Room s)
    (since : now ≤ later) (alive : later < now + ttl) :
    C.read (C.call s now (.set key value ttl)).2 later key = .value (some value)
  read_set_ended {s : C.State} {now later ttl : Nanos} {key value : String} (room : Room s)
    (since : now ≤ later) (ended : ttl = 0 ∨ now + ttl < later) :
    C.read (C.call s now (.set key value ttl)).2 later key = .value none
  read_del {s : C.State} {now later : Nanos} {key : String} {keys : List String}
    (listed : key ∈ keys) (since : now ≤ later) :
    C.read (C.call s now (.del keys)).2 later key = .value none

/-! ## Runs -/

variable {C} {Room : C.State → Prop} {x : C.State × Nanos} {begun : Nanos} {key : String}
  {before after events : List CacheEvent}

theorem run_append : C.run x (before ++ after) = C.run (C.run x before) after :=
  List.foldl_append

theorem run_snd (x : C.State × Nanos) (events : List CacheEvent) :
    (C.run x events).2 = x.2 + elapsed events := by
  induction events generalizing x with
  | nil => rfl
  | cons e rest ih =>
    change (C.run (C.step x e) rest).2 = _
    have passed : (C.step x e).2 = x.2 + e.time := by cases e <;> rfl
    rw [ih, passed, elapsed, Nat.add_assoc]

theorem le_run_snd (x : C.State × Nanos) (events : List CacheEvent) : x.2 ≤ (C.run x events).2 := by
  rw [run_snd]
  exact Nat.le_add_right ..

theorem le_step_snd (x : C.State × Nanos) (e : CacheEvent) : x.2 ≤ (C.step x e).2 :=
  le_run_snd x [e]

theorem Stays.left (room : C.Stays Room x (before ++ after)) : C.Stays Room x before :=
  fun part member => room part ((List.mem_inits ..).2
    (((List.mem_inits ..).1 member).trans (List.prefix_append ..)))

theorem Stays.right (room : C.Stays Room x (before ++ after)) :
    C.Stays Room (C.run x before) after := by
  intro part member
  rw [← run_append]
  exact room _ ((List.mem_inits ..).2 ((List.prefix_append_right_inj _).2 ((List.mem_inits ..).1 member)))

theorem Stays.room (room : C.Stays Room x events) : Room x.1 :=
  room [] ((List.mem_inits ..).2 List.nil_prefix)

theorem Stays.rest {e : CacheEvent} (room : C.Stays Room x (e :: events)) :
    C.Stays Room (C.step x e) events :=
  (show C.Stays Room x ([e] ++ events) from room).right

namespace Lawful

variable (lawful : C.Lawful Room)
include lawful

theorem read_step (room : Room x.1) {e : CacheEvent} (apart : ¬ e.Concerns key) {later : Nanos}
    (since : (C.step x e).2 ≤ later) : C.read (C.step x e).1 later key = C.read x.1 later key := by
  cases e with
  | call c => exact lawful.read_other room apart since
  | wait time => rfl

/-- A quiet history leaves the answers of all later moments alone. -/
theorem read_run (room : C.Stays Room x events) (quiet : Quiet key events) {later : Nanos}
    (since : (C.run x events).2 ≤ later) :
    C.read (C.run x events).1 later key = C.read x.1 later key := by
  induction events generalizing x with
  | nil => rfl
  | cons e rest ih =>
    have first : (C.step x e).2 ≤ later := Nat.le_trans (le_run_snd (C.step x e) rest) since
    calc C.read (C.run (C.step x e) rest).1 later key
      _ = C.read (C.step x e).1 later key :=
        ih room.rest (fun e member => quiet e (List.mem_cons_of_mem _ member)) since
      _ = C.read x.1 later key := lawful.read_step room.room (quiet e List.mem_cons_self) first

/-- The last call that concerns a key decides the answer for it. -/
theorem answer_last {c : CacheCall}
    (room : C.Stays Room (C.empty, begun) (before ++ .call c :: after)) (quiet : Quiet key after) :
    ∃ s now, Room s ∧ C.answer begun (before ++ .call c :: after) key =
      C.read (C.call s now c).2 (now + elapsed after) key := by
  refine ⟨(C.run (C.empty, begun) before).1, (C.run (C.empty, begun) before).2, room.right.room, ?_⟩
  unfold answer
  rw [run_append]
  change C.read (C.run (C.step _ (.call c)) after).1 (C.run (C.step _ (.call c)) after).2 key = _
  rw [lawful.read_run room.right.rest quiet (Nat.le_refl _), run_snd]
  rfl

/-! ## Misses -/

theorem gone_step (room : Room x.1) (gone : C.Gone x key) {e : CacheEvent}
    (unset : ∀ value ttl, e ≠ .call (.set key value ttl)) : C.Gone (C.step x e) key := by
  intro later since
  rcases e.cases_of_key key with apart | ⟨value, ttl, rfl⟩ | ⟨keys, listed, rfl⟩
  · rw [lawful.read_step room apart since]
    exact gone (Nat.le_trans (le_step_snd x e) since)
  · exact absurd rfl (unset value ttl)
  · exact lawful.read_del listed since

/-- Without a call that sets the key, what is gone stays gone. -/
theorem gone_run (room : C.Stays Room x events) (gone : C.Gone x key)
    (unset : ∀ value ttl, .call (.set key value ttl) ∉ events) : C.Gone (C.run x events) key := by
  induction events generalizing x with
  | nil => exact gone
  | cons e rest ih =>
    have first : C.Gone (C.step x e) key := lawful.gone_step room.room gone
      fun value ttl same => unset value ttl (same ▸ List.mem_cons_self)
    exact ih room.rest first fun value ttl member => unset value ttl (List.mem_cons_of_mem _ member)

theorem fades_step (room : Room x.1) (fades : C.Fades x key) (e : CacheEvent) :
    C.Fades (C.step x e) key := by
  intro now later since order missing
  have since' := Nat.le_trans since order
  rcases e.cases_of_key key with apart | ⟨value, ttl, rfl⟩ | ⟨keys, listed, rfl⟩
  · rw [lawful.read_step room apart since] at missing
    rw [lawful.read_step room apart since']
    exact fades (Nat.le_trans (le_step_snd x e) since) order missing
  · have ended : ¬ now < x.2 + ttl := fun alive => by
      cases (lawful.read_set room since alive).symm.trans missing
    -- At the end of a life either answer may be given, but the same one as long as no time passes.
    rcases Nat.eq_or_lt_of_le order with same | past
    · rwa [← same]
    · exact lawful.read_set_ended room since'
        (.inr (Nat.lt_of_le_of_lt (Nat.le_of_not_lt ended) past))
  · exact lawful.read_del listed since'

theorem fades_run (room : C.Stays Room x events) (fades : C.Fades x key) :
    C.Fades (C.run x events) key := by
  induction events generalizing x with
  | nil => exact fades
  | cons e rest ih => exact ih room.rest (lawful.fades_step room.room fades e)

/-- A cache that keeps the promises of a step is a map whose entries end. -/
theorem isTimedMap (begun : Nanos) : C.IsTimedMap begun Room where
  present room quiet alive := by
    obtain ⟨s, now, there, answer⟩ := lawful.answer_last room quiet
    rw [answer]
    exact lawful.read_set there (Nat.le_add_right ..) (Nat.add_lt_add_left alive _)
  expired room quiet ended := by
    obtain ⟨s, now, there, answer⟩ := lawful.answer_last room quiet
    rw [answer]
    exact lawful.read_set_ended there (Nat.le_add_right ..)
      (ended.imp_right fun late => Nat.add_lt_add_left late _)
  deleted room listed quiet := by
    obtain ⟨s, now, -, answer⟩ := lawful.answer_last room quiet
    rw [answer]
    exact lawful.read_del listed (Nat.le_add_right ..)
  absent room quiet := by
    unfold answer
    rw [lawful.read_run room quiet (Nat.le_refl _), lawful.read_empty]
  gone {before after key} room unset missing := by
    have fades : C.Fades (C.empty, begun) key := fun _ _ _ _ _ => lawful.read_empty ..
    unfold answer
    rw [run_append]
    have gone : C.Gone (C.run (C.empty, begun) before) key := fun later since =>
      lawful.fades_run room.left fades (Nat.le_refl _) since missing
    exact lawful.gone_run room.right gone unset (Nat.le_refl _)
  apart {before after key} room quiet := by
    unfold answer
    rw [run_append, run_append, lawful.read_run room.right quiet (Nat.le_refl _), run_snd _ after]
    rfl

end Lawful

end Cache

/-! ## Dropping keys -/

/-- Dropping keys one by one takes what is found for each of them and for nothing else. -/
theorem find_foldl_drop {σ β : Type} {drop : σ → String → σ} (find : σ → String → β) {nothing : β}
    (find_drop : ∀ s key, find (drop s key) key = nothing)
    (find_drop_of_ne : ∀ s key other, other ≠ key → find (drop s key) other = find s other)
    (s : σ) (keys : List String) (key : String) :
    find (keys.foldl drop s) key = if key ∈ keys then nothing else find s key := by
  induction keys generalizing s with
  | nil => rfl
  | cons first rest ih =>
    rw [List.foldl_cons, ih]
    by_cases later : key ∈ rest
    · rw [if_pos later, if_pos (List.mem_cons_of_mem _ later)]
    · rw [if_neg later]
      by_cases here : key = first
      · rw [here, find_drop, if_pos List.mem_cons_self]
      · rw [find_drop_of_ne _ _ _ here, if_neg (by simp [here, later])]

/-! ## The cache over an expiring map -/

namespace ExpiringMap

/-- What an expiring map promises that was built with a bound and a rule: it is a map, an entry that
goes in while there is room lives as long as the rule says, and reading changes nothing when the
rule leaves what is read the time that it has left. -/
structure Honours (m : ExpiringMap) (bound : Nat) (rule : Expiry) : Prop where
  get_empty (now : Nanos) (key : String) : (m.get m.empty now key).1 = none
  get_get {s : m.State} {now later : Nanos} (since : now ≤ later) (key other : String)
    (kept : ∀ entry left, rule.read key entry now left = left) :
    (m.get (m.get s now key).2 later other).1 = (m.get s later other).1
  get_invalidate {s : m.State} {now later : Nanos} (since : now ≤ later) (key : String) :
    (m.get (m.invalidate s now key) later key).1 = none
  get_invalidate_of_ne {s : m.State} {now later : Nanos} (since : now ≤ later)
    {key other : String} (apart : other ≠ key) :
    (m.get (m.invalidate s now key) later other).1 = (m.get s later other).1
  get_insert {s : m.State} (room : m.held s < bound) (now : Nanos) (key : String)
    (entry : TimedText) : ∃ life,
      (life = rule.created key entry now ∨ ∃ left, life = rule.updated key entry now left) ∧
      ∀ later, now ≤ later →
        ((∀ time ∈ life, later < now + time) →
          (m.get (m.insert s now key entry) later key).1 = some entry) ∧
        ((∃ time ∈ life, now + time < later) →
          (m.get (m.insert s now key entry) later key).1 = none)
  get_insert_of_ne {s : m.State} (room : m.held s < bound) {now later : Nanos}
    (since : now ≤ later) {key other : String} (apart : other ≠ key) (entry : TimedText) :
    (m.get (m.insert s now key entry) later other).1 = (m.get s later other).1

/-- Fewer keys are held than a bound. -/
def Below (m : ExpiringMap) (bound : Nat) (s : m.cache.State) : Prop :=
  m.held s < bound

instance (m : ExpiringMap) (bound : Nat) : DecidablePred (m.Below bound) :=
  fun s => inferInstanceAs (Decidable (m.held s < bound))

variable {m : ExpiringMap} {bound : Nat}

namespace Honours

variable (honours : m.Honours bound .perEntry)
include honours

/-- New or in the place of another, an entry lives as long as it says. -/
theorem get_insert_perEntry {s : m.State} (room : m.held s < bound) {now later : Nanos}
    (since : now ≤ later) (key : String) (entry : TimedText) :
    (later < now + entry.ttl → (m.get (m.insert s now key entry) later key).1 = some entry) ∧
    (now + entry.ttl < later → (m.get (m.insert s now key entry) later key).1 = none) := by
  obtain ⟨life, asked, lives⟩ := honours.get_insert room now key entry
  have life_eq : life = some entry.ttl := by
    rcases asked with created | ⟨left, updated⟩
    · exact created
    · exact updated
  subst life_eq
  obtain ⟨alive, ended⟩ := lives later since
  exact ⟨fun early => alive fun time member => by cases member; exact early,
    fun late => ended ⟨entry.ttl, rfl, late⟩⟩

theorem get_del {s : m.State} {now later : Nanos} (since : now ≤ later) (keys : List String)
    (key : String) :
    (m.get (keys.foldl (fun s key => m.invalidate s now key) s) later key).1 =
      if key ∈ keys then none else (m.get s later key).1 :=
  find_foldl_drop (fun s key => (m.get s later key).1)
    (fun _ key => honours.get_invalidate since key)
    (fun _ _ _ apart => honours.get_invalidate_of_ne since apart) s keys key

/-- The cache over a map that keeps its promises keeps its own. -/
theorem lawful : m.cache.Lawful (m.Below bound) where
  read_empty now key := congrArg CacheReply.found (honours.get_empty now key)
  read_other {s now later c key} room apart since := by
    refine congrArg CacheReply.found ?_
    cases c with
    | get other => exact honours.get_get since other key fun _ _ => rfl
    | set other value ttl =>
      have other_ne : key ≠ other := Ne.symm apart
      change (m.get (if ttl = 0 then _ else _) later key).1 = _
      split
      · exact honours.get_invalidate_of_ne since other_ne
      · exact honours.get_insert_of_ne room since other_ne _
    | del keys => exact (honours.get_del since keys key).trans (if_neg apart)
  read_set {s now later ttl key value} room since alive := by
    have lives : ttl ≠ 0 := by
      rintro rfl
      exact absurd alive (Nat.not_lt_of_le since)
    refine congrArg CacheReply.found (?_ : _ = some ⟨value, ttl⟩)
    change (m.get (if ttl = 0 then _ else _) later key).1 = _
    rw [if_neg lives]
    exact (honours.get_insert_perEntry room since key ⟨value, ttl⟩).1 alive
  read_set_ended {s now later ttl key value} room since ended := by
    refine congrArg CacheReply.found (?_ : _ = none)
    change (m.get (if ttl = 0 then _ else _) later key).1 = none
    split
    · exact honours.get_invalidate since key
    · rename_i lives
      exact (honours.get_insert_perEntry room since key ⟨value, ttl⟩).2 (ended.resolve_left lives)
  read_del {s now later key keys} listed since :=
    congrArg CacheReply.found ((honours.get_del since keys key).trans (if_pos listed))

end Honours

end ExpiringMap

/-! ## A map that keeps its promises -/

/-- Entries by key, the last used ones first, each with the moment at which it ends, if it does. -/
abbrev Ledger := List (String × TimedText × Option Nanos)

namespace Ledger

/-- The entry of a key that has not ended. -/
def live (s : Ledger) (now : Nanos) (key : String) : Option (TimedText × Option Nanos) :=
  (s.lookup key).filter fun found => found.2.all (now < ·)

/-- The ledger without a key. -/
def drop (s : Ledger) (key : String) : Ledger :=
  s.filter fun e => e.1 != key

/-- The ledger with an entry in front that lives for some time. -/
def lead (s : Ledger) (now : Nanos) (key : String) (entry : TimedText) (life : Option Nanos) :
    Ledger :=
  (key, entry, life.map (now + ·)) :: s.drop key

/-- The entry of a key, which is in front once it is read. -/
def get (rule : Expiry) (s : Ledger) (now : Nanos) (key : String) : Option TimedText × Ledger :=
  match s.live now key with
  | some (entry, due) =>
    (some entry, s.lead now key entry (rule.read key entry now (due.map (· - now))))
  | none => (none, s)

/-- How long an entry lives that goes in. -/
def life (rule : Expiry) (s : Ledger) (now : Nanos) (key : String) (entry : TimedText) :
    Option Nanos :=
  match s.live now key with
  | some (_, due) => rule.updated key entry now (due.map (· - now))
  | none => rule.created key entry now

/-- The ledger with an entry, where those beyond the bound that were used longest ago are given up. -/
def put (bound : Nat) (rule : Expiry) (s : Ledger) (now : Nanos) (key : String)
    (entry : TimedText) : Ledger :=
  (s.lead now key entry (life rule s now key entry)).take bound

/-- Ledgers as expiring maps. -/
def library (bound : Nat) (rule : Expiry) : ExpiringMap where
  State := Ledger
  empty := []
  held s := s.length
  get := get rule
  insert := put bound rule
  invalidate s _ key := s.drop key

variable {s : Ledger} {now later : Nanos} {key other : String} {entry : TimedText} {bound : Nat}
  {rule : Expiry}

theorem get_fst : (get rule s now key).1 = (s.live now key).map (·.1) := by
  unfold get
  cases s.live now key <;> rfl

theorem live_drop_of_ne (apart : other ≠ key) : (s.drop key).live now other = s.live now other := by
  rw [live, live, drop, lookup_filter_of_ne apart]

theorem live_lead_self (life : Option Nanos) : (s.lead now key entry life).live later key =
    if ∀ time ∈ life, later < now + time then some (entry, life.map (now + ·)) else none := by
  rw [live, lead, List.lookup_cons_self]
  cases life <;> simp [Option.filter]

theorem live_lead_of_ne (apart : other ≠ key) (life : Option Nanos) :
    (s.lead now key entry life).live later other = s.live later other := by
  rw [live, lead, List.lookup_cons, beq_false_of_ne apart]
  exact live_drop_of_ne apart

theorem put_of_room (room : s.length < bound) :
    put bound rule s now key entry = s.lead now key entry (life rule s now key entry) := by
  refine List.take_of_length_le ?_
  have fewer : (s.drop key).length ≤ s.length := List.length_filter_le ..
  exact Nat.le_trans (Nat.succ_le_succ fewer) room

theorem life_asked (rule : Expiry) (s : Ledger) (now : Nanos) (key : String) (entry : TimedText) :
    life rule s now key entry = rule.created key entry now ∨
      ∃ left, life rule s now key entry = rule.updated key entry now left := by
  unfold life
  cases s.live now key with
  | none => exact .inl rfl
  | some old => exact .inr ⟨_, rfl⟩

/-- Reading an entry that keeps the time that it has left changes no answer. -/
theorem live_get (kept : ∀ entry left, rule.read key entry now left = left) :
    (get rule s now key).2.live later other = s.live later other := by
  unfold get
  cases found : s.live now key with
  | none => rfl
  | some held =>
    obtain ⟨entry, due⟩ := held
    change (s.lead now key entry (rule.read key entry now (due.map (· - now)))).live later other = _
    rw [kept]
    by_cases same : other = key
    · subst same
      obtain ⟨looked, alive⟩ := Option.filter_eq_some_iff.1 found
      rw [live_lead_self, live, looked]
      cases due with
      | none => rfl
      | some time =>
        have left : now + (time - now) = time :=
          Nat.add_sub_of_le (Nat.le_of_lt (of_decide_eq_true alive))
        simp [Option.filter, left]
    · exact live_lead_of_ne same _

theorem get_get (kept : ∀ entry left, rule.read key entry now left = left) :
    (get rule (get rule s now key).2 later other).1 = (get rule s later other).1 := by
  rw [get_fst, get_fst, live_get kept]

theorem get_drop_self : (get rule (s.drop key) now key).1 = none := by
  rw [get_fst, live, drop, lookup_filter_self]
  rfl

theorem get_drop_of_ne (apart : other ≠ key) :
    (get rule (s.drop key) now other).1 = (get rule s now other).1 := by
  rw [get_fst, get_fst, live_drop_of_ne apart]

theorem get_put_self (room : s.length < bound) :
    (get rule (put bound rule s now key entry) later key).1 =
      if ∀ time ∈ life rule s now key entry, later < now + time then some entry else none := by
  rw [get_fst, put_of_room room, live_lead_self]
  split <;> rfl

theorem get_put_of_ne (room : s.length < bound) (apart : other ≠ key) :
    (get rule (put bound rule s now key entry) later other).1 = (get rule s later other).1 := by
  rw [get_fst, get_fst, put_of_room room, live_lead_of_ne apart]

theorem honours (bound : Nat) (rule : Expiry) : (library bound rule).Honours bound rule where
  get_empty _ _ := rfl
  get_get _ _ _ kept := get_get kept
  get_invalidate _ _ := get_drop_self
  get_invalidate_of_ne _ _ _ apart := get_drop_of_ne apart
  get_insert room _ _ _ := ⟨_, life_asked .., fun _ _ =>
    ⟨fun early => (get_put_self room).trans (if_pos early), fun ⟨time, member, late⟩ =>
      (get_put_self room).trans (if_neg fun early => Nat.lt_asymm late (early time member))⟩⟩
  get_insert_of_ne room _ _ _ _ _ apart _ := get_put_of_ne room apart

end Ledger

/-! ## The cache that keeps the entries itself -/

namespace MemoryCache

variable {c : MemoryCache} {now later ttl : Nanos} {key other value : String}

theorem get_erase_self : (c.erase key).get now key = none := by
  simp only [get, erase, lookup_filter_self]

theorem get_erase_of_ne (apart : other ≠ key) : (c.erase key).get now other = c.get now other := by
  simp only [get, erase, lookup_filter_of_ne apart]

theorem get_set_self : (c.set now key value ttl).get later key =
    if ttl ≠ 0 ∧ later < now + ttl then some value else none := by
  unfold set
  split
  · simp_all [get_erase_self]
  · simp_all [get]

theorem get_set_of_ne (apart : other ≠ key) :
    (c.set now key value ttl).get later other = c.get later other := by
  unfold set
  split
  · exact get_erase_of_ne apart
  · have behind : get ⟨(key, ⟨value, now + ttl⟩) :: (c.erase key).entries⟩ later other =
        (c.erase key).get later other := by
      simp only [get, List.lookup_cons, beq_false_of_ne apart]
    exact behind.trans (get_erase_of_ne apart)

theorem get_del (keys : List String) :
    (c.del keys).get now key = if key ∈ keys then none else c.get now key :=
  find_foldl_drop (fun c key => get c now key) (fun _ _ => get_erase_self)
    (fun _ _ _ apart => get_erase_of_ne apart) c keys key

theorem lawful_cache : cache.Lawful fun _ => True where
  read_empty _ _ := rfl
  read_other {s now later c key} _ apart _ := by
    refine congrArg CacheReply.value ?_
    cases c with
    | get other => rfl
    | set other value ttl => exact get_set_of_ne (Ne.symm apart)
    | del keys => exact (get_del keys).trans (if_neg apart)
  read_set _ since alive := by
    refine congrArg CacheReply.value (get_set_self.trans (if_pos ⟨?_, alive⟩))
    rintro rfl
    exact absurd alive (Nat.not_lt_of_le since)
  read_set_ended _ _ ended := by
    refine congrArg CacheReply.value (get_set_self.trans (if_neg ?_))
    rintro ⟨lives, early⟩
    exact Nat.lt_asymm early (ended.resolve_left lives)
  read_del {s now later key keys} listed _ :=
    congrArg CacheReply.value ((get_del keys).trans (if_pos listed))

/-- A cache within the process is a map in which every entry has its own end: over any expiring map
that keeps its promises, as long as fewer keys are held than it may hold, and by itself. -/
theorem isTimedMap_cache (library : ExpiringMap.Library)
    (honours : ∀ bound rule, (library bound rule).Honours bound rule) (begun : Nanos) :
    (backing library).cache.IsTimedMap begun ((backing library).Below maxEntries) ∧
      cache.IsTimedMap begun fun _ => True :=
  ⟨(honours maxEntries .perEntry).lawful.isTimedMap begun, lawful_cache.isTimedMap begun⟩

/-- A menu that was set for a minute is overwritten by an empty text that lives for ten seconds from
then on, whatever else is read and deleted meanwhile. -/
theorem isTimedMap_cache_overwritten :
    let cache := (backing Ledger.library).cache
    let menu : CacheEvent := .call (.set "menu" "soup" (Nanos.ofSeconds 60))
    let blank : CacheEvent := .call (.set "menu" "" (Nanos.ofSeconds 10))
    let rest : List CacheEvent :=
      [.call (.get "menu"), .call (.del ["wine", "wine"]), .wait (Nanos.ofSeconds 9)]
    (∀ bound rule, (Ledger.library bound rule).Honours bound rule) ∧
      cache.answer 5 ([menu, .wait 7] ++ blank :: rest) "menu" = .value (some "") ∧
      cache.answer 5 ([menu, .wait 7] ++ blank :: (rest ++ rest)) "menu" = .value none :=
  have timed := (isTimedMap_cache Ledger.library Ledger.honours 5).1
  ⟨Ledger.honours, timed.present (by decide) (by decide) (by decide),
    timed.expired (by decide) (by decide) (by decide)⟩

end MemoryCache

end Tableside
