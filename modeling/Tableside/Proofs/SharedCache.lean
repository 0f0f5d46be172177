import Tableside.Cache.Redis
import Tableside.Proofs.Expiry

/-!
# A shared cache in the place of one within the process

Clients call a server that they share, which refuses a command now and then. The answers that are no
errors are those that a cache within the process gives to the calls that were not refused
(`Cache.Lawful.replies_granted`), whoever made them, as long as no entry comes to its end: the
server keeps no time here, and it counts whole milliseconds where the cache counts nanoseconds.

From call to call this is carried by `Cache.Mirrors`: under every key the server holds what the
cache answers for it from now on until the next call that concerns the key. A call leaves the same
text in both (`CacheCall.leaves`), and the lives that are still ahead do not end before that next
call.
-/

namespace Tableside

/-! ## Calls -/

namespace CacheCall

/-- A life that the server can count: none, or a millisecond at least. -/
def Whole : CacheCall → Prop
  | set _ _ ttl => ttl = 0 ∨ Nanos.ofMillis 1 ≤ ttl
  | _ => True

instance : (c : CacheCall) → Decidable c.Whole
  | get _ => .isTrue trivial
  | set _ _ ttl => inferInstanceAs (Decidable (ttl = 0 ∨ Nanos.ofMillis 1 ≤ ttl))
  | del _ => .isTrue trivial

/-- What a call leaves under a key. -/
def leaves (key : String) (old : Option String) : CacheCall → Option String
  | get _ => old
  | set other value ttl => if other = key then if ttl = 0 then none else some value else old
  | del keys => if key ∈ keys then none else old

/-- What is answered to a call where texts stand under keys. -/
def reply (held : String → Option String) : CacheCall → CacheReply
  | get key => .value (held key)
  | _ => .done

theorem leaves_of_apart {c : CacheCall} {key : String} (apart : ¬ c.Concerns key)
    (old : Option String) : c.leaves key old = old := by
  cases c with
  | get other => rfl
  | set other value ttl => exact if_neg apart
  | del keys => exact if_neg apart

end CacheCall

/-- No life ends within a history: as long as nothing else concerns its key, less time passes than
the life is long. -/
def CacheEvent.Lasting : List CacheEvent → Prop
  | [] => True
  | .call (.set key _ ttl) :: rest =>
    (∀ part ∈ rest.inits, Quiet key part → ttl = 0 ∨ elapsed part < ttl) ∧ Lasting rest
  | _ :: rest => Lasting rest

namespace CacheEvent

instance decidableLasting : (events : List CacheEvent) → Decidable (Lasting events)
  | [] => .isTrue trivial
  | .call (.set key _ ttl) :: rest =>
    have := decidableLasting rest
    inferInstanceAs (Decidable
      ((∀ part ∈ rest.inits, Quiet key part → ttl = 0 ∨ elapsed part < ttl) ∧ Lasting rest))
  | .call (.get _) :: rest => decidableLasting rest
  | .call (.del _) :: rest => decidableLasting rest
  | .wait _ :: rest => decidableLasting rest

theorem Lasting.tail {e : CacheEvent} {rest : List CacheEvent} (lasting : Lasting (e :: rest)) :
    Lasting rest := by
  cases e with
  | wait time => exact lasting
  | call c =>
    cases c with
    | get key => exact lasting
    | set key value ttl => exact lasting.2
    | del keys => exact lasting

end CacheEvent

namespace Cache

open CacheEvent

/-- The answers to the calls of a history, in turn. -/
def replies (C : Cache) : C.State × Nanos → List CacheEvent → List CacheReply
  | _, [] => []
  | x, .wait time :: rest => C.replies (C.step x (.wait time)) rest
  | x, .call c :: rest => (C.call x.1 x.2 c).1 :: C.replies (C.step x (.call c)) rest

/-- Calls that ask for no text are answered by saying that they are done. -/
def Confirms (C : Cache) : Prop :=
  ∀ s now c, (∀ key, c ≠ .get key) → (C.call s now c).1 = .done

/-- Under every key stands what the cache answers for it until the next call about the key. -/
def Mirrors (C : Cache) (held : String → Option String) (x : C.State × Nanos)
    (rest : List CacheEvent) : Prop :=
  ∀ key part, part <+: rest → Quiet key part →
    C.read x.1 (x.2 + elapsed part) key = .value (held key)

variable {C : Cache} {Room : C.State → Prop} {x : C.State × Nanos} {rest : List CacheEvent}
  {held : String → Option String}

theorem Mirrors.wait {time : Nanos} (mirrors : C.Mirrors held x (.wait time :: rest)) :
    C.Mirrors held (C.step x (.wait time)) rest := by
  intro key part leads quiet
  have later := mirrors key (.wait time :: part) ((List.prefix_cons_inj _).2 leads)
    (List.forall_mem_cons.2 ⟨id, quiet⟩)
  change C.read x.1 (x.2 + (time + elapsed part)) key = _ at later
  rwa [← Nat.add_assoc] at later

theorem Lawful.mirrors_empty (lawful : C.Lawful Room) (begun : Nanos) (rest : List CacheEvent) :
    C.Mirrors (fun _ => none) (C.empty, begun) rest :=
  fun key _ _ _ => lawful.read_empty _ key

/-- A call leaves in the cache what it leaves anywhere. -/
theorem Lawful.mirrors_call (lawful : C.Lawful Room) (room : Room x.1) {c : CacheCall}
    (lasting : Lasting (.call c :: rest)) (mirrors : C.Mirrors held x (.call c :: rest)) :
    C.Mirrors (fun key => c.leaves key (held key)) (C.step x (.call c)) rest := by
  intro key part leads quiet
  have since : x.2 ≤ x.2 + elapsed part := Nat.le_add_right ..
  rcases (CacheEvent.call c).cases_of_key key with apart | ⟨value, ttl, same⟩ | ⟨keys, listed, same⟩
  · have before := mirrors key (.call c :: part) ((List.prefix_cons_inj _).2 leads)
      (List.forall_mem_cons.2 ⟨apart, quiet⟩)
    have passed : elapsed (.call c :: part) = elapsed part := Nat.zero_add _
    rw [passed] at before
    calc C.read (C.step x (.call c)).1 (x.2 + elapsed part) key
      _ = C.read x.1 (x.2 + elapsed part) key := lawful.read_other room apart since
      _ = .value (held key) := before
      _ = .value (c.leaves key (held key)) := by rw [CacheCall.leaves_of_apart apart]
  · cases same
    have life := lasting.1 part ((List.mem_inits ..).2 leads) quiet
    by_cases none : ttl = 0
    · simp only [CacheCall.leaves, if_pos none, if_true]
      exact lawful.read_set_ended room since (.inl none)
    · simp only [CacheCall.leaves, if_neg none, if_true]
      exact lawful.read_set room since (Nat.add_lt_add_left (life.resolve_left none) _)
  · cases same
    simp only [CacheCall.leaves, if_pos listed]
    exact lawful.read_del listed since

/-- What the cache answers to a call is told by what stands under the keys. -/
theorem Mirrors.reply (confirms : C.Confirms) {c : CacheCall}
    (mirrors : C.Mirrors held x (.call c :: rest)) :
    (C.call x.1 x.2 c).1 = c.reply held := by
  cases c with
  | get key => exact mirrors key [] List.nil_prefix (List.forall_mem_nil _)
  | set key value ttl => exact confirms _ _ _ fun _ same => nomatch same
  | del keys => exact confirms _ _ _ fun _ same => nomatch same

end Cache

/-! ## A server and its clients -/

/-- Something that happens to a server that clients share: one of them makes a call, and what is
sent for it is answered with an error if it is `refused`; or time passes. -/
inductive SharedEvent (Client : Type)
  | call (sender : Client) (c : CacheCall) (refused : Bool)
  | wait (time : Nanos)

/-- A call of a client with what was sent for it and what was answered. -/
structure SharedExchange (Client : Type) where
  sender : Client
  call : CacheCall
  refused : Bool
  sent : Option RedisCommand
  answer : Except CacheError CacheReply

variable {Client : Type}

namespace SharedEvent

/-- The event without its client, unless it is a call that is answered with an error. Deleting no
keys is not. -/
def granted? : SharedEvent Client → Option CacheEvent
  | call _ c refused => if refused = true ∧ c ≠ .del [] then none else some (.call c)
  | wait time => some (.wait time)

/-- What a cache sees that gets the calls that were not answered with an error, from nobody in
particular. -/
def granted (history : List (SharedEvent Client)) : List CacheEvent :=
  history.filterMap granted?

/-- The lives that are set can be counted by the server. -/
def Whole : SharedEvent Client → Prop
  | call _ c _ => c.Whole
  | wait _ => True

instance : (e : SharedEvent Client) → Decidable e.Whole
  | call _ c _ => inferInstanceAs (Decidable c.Whole)
  | wait _ => .isTrue trivial

/-- Whether an event is a call. -/
def isCall : SharedEvent Client → Bool
  | call .. => true
  | wait _ => false

end SharedEvent

namespace SharedExchange

/-- The event that an exchange comes from. -/
def event (e : SharedExchange Client) : SharedEvent Client :=
  .call e.sender e.call e.refused

/-- The client is told of an error exactly if its command was refused, and deleting no keys is done
without a command. -/
structure Fair (e : SharedExchange Client) : Prop where
  refused : e.refused = true ∧ e.call ≠ .del [] → e.answer = .error .backend
  granted : ¬(e.refused = true ∧ e.call ≠ .del []) → ∃ reply, e.answer = .ok reply
  nothing : e.call = .del [] → e.sent = none ∧ e.answer = .ok .done

end SharedExchange

namespace RedisServer

/-- The server as a call finds it: refusing the next command, or not. -/
def facing (s : RedisServer) (refused : Bool) : RedisServer :=
  { s with failing := refused }

/-- The exchanges of a history, in turn. -/
def exchanges (s : RedisServer) : List (SharedEvent Client) → List (SharedExchange Client)
  | [] => []
  | .wait _ :: rest => s.exchanges rest
  | .call sender c refused :: rest =>
    ⟨sender, c, refused, commandFor? c, ((s.facing refused).call c).1⟩ ::
      ((s.facing refused).call c).2.exchanges rest

/-- The text that the server holds under a key. -/
def text? (s : RedisServer) (key : String) : Option String :=
  s.entries.lookup key

variable {s : RedisServer} {c : CacheCall} {key other : String}

theorem text?_erase (s : RedisServer) (key other : String) :
    (s.erase key).text? other = if other = key then none else s.text? other := by
  by_cases same : other = key
  · subst same
    rw [if_pos rfl]
    exact lookup_filter_self _
  · rw [if_neg same]
    exact lookup_filter_of_ne same _

theorem text?_foldl_erase (s : RedisServer) (keys : List String) (key : String) :
    (keys.foldl erase s).text? key = if key ∈ keys then none else s.text? key :=
  find_foldl_drop text? (fun s key => (text?_erase s key key).trans (if_pos rfl))
    (fun s key other apart => (text?_erase s key other).trans (if_neg apart)) s keys key

theorem commandFor?_eq_none : commandFor? c = none ↔ c = .del [] := by
  cases c with
  | get key => simp [commandFor?]
  | set key value ttl => simp [commandFor?]
  | del keys => cases keys <;> simp [commandFor?]

/-- A server in trouble answers every command with an error and changes nothing. -/
theorem call_refused (command : c ≠ .del []) :
    (s.facing true).call c = (.error .backend, s.facing false) := by
  rw [call]
  cases sent : commandFor? c with
  | none => exact absurd (commandFor?_eq_none.1 sent) command
  | some command => rfl

/-- What is answered to a call and what it leaves. -/
theorem call_granted (whole : c.Whole) {refused : Bool}
    (granted : ¬(refused = true ∧ c ≠ .del [])) :
    ((s.facing refused).call c).1 = .ok (c.reply s.text?) ∧
    ((s.facing refused).call c).2.text? = fun key => c.leaves key (s.text? key) := by
  by_cases nothing : c = .del []
  · subst nothing
    refine ⟨rfl, funext fun key => ?_⟩
    exact (CacheCall.leaves_of_apart (c := .del []) List.not_mem_nil _).symm
  have calm : refused = false := by
    cases refused with
    | false => rfl
    | true => exact absurd ⟨rfl, nothing⟩ granted
  subst calm
  cases c with
  | get key => exact ⟨rfl, rfl⟩
  | set key value ttl =>
    by_cases none : ttl = 0
    · subst none
      refine ⟨rfl, funext fun other => ?_⟩
      change ((s.facing false).erase key).text? other = _
      rw [text?_erase, CacheCall.leaves, if_pos rfl]
      exact if_congr eq_comm rfl rfl
    · have counted : min (ttl / 1000000) (UInt64.size - 1) ≠ 0 := by
        have long : 1000000 ≤ ttl := whole.resolve_left none
        have millis : 1 ≤ ttl / 1000000 := (Nat.one_le_div_iff (by decide)).2 long
        exact Nat.ne_of_gt (Nat.lt_min.2 ⟨millis, by decide⟩)
      have sent : commandFor? (.set key value ttl) =
          some (.setFor key value (min (ttl / 1000000) (UInt64.size - 1))) := by
        simp only [commandFor?, if_neg counted]
      rw [call, sent]
      refine ⟨rfl, funext fun other => ?_⟩
      change List.lookup other ((key, value) :: ((s.facing false).erase key).entries) = _
      rw [List.lookup_cons, CacheCall.leaves, if_neg none]
      by_cases same : other = key
      · rw [beq_iff_eq.2 same, if_pos same.symm]
      · rw [beq_false_of_ne same, if_neg (Ne.symm same)]
        exact (text?_erase _ _ _).trans (if_neg same)
  | del keys =>
    have sent : commandFor? (.del keys) = some (.del keys) := by
      cases keys with
      | nil => exact absurd rfl nothing
      | cons key rest => rfl
    rw [call, sent]
    exact ⟨rfl, funext fun key => text?_foldl_erase (s.facing false) keys key⟩

/-- Every call has its exchange. -/
theorem map_event_exchanges (s : RedisServer) (history : List (SharedEvent Client)) :
    (s.exchanges history).map (·.event) = history.filter (·.isCall) := by
  induction history generalizing s with
  | nil => rfl
  | cons e rest ih =>
    cases e with
    | wait time => exact ih s
    | call sender c refused => exact congrArg (_ :: ·) (ih _)

theorem fair_exchanges (s : RedisServer) {history : List (SharedEvent Client)}
    (whole : ∀ e ∈ history, e.Whole) : ∀ e ∈ s.exchanges history, e.Fair := by
  induction history generalizing s with
  | nil => exact List.forall_mem_nil _
  | cons e rest ih =>
    obtain ⟨here, later⟩ := List.forall_mem_cons.1 whole
    cases e with
    | wait time => exact ih s later
    | call sender c refused =>
      refine List.forall_mem_cons.2 ⟨⟨?_, ?_, ?_⟩, ih _ later⟩
      · rintro ⟨rfl, command⟩
        exact congrArg Prod.fst (call_refused command)
      · intro granted
        exact ⟨_, (call_granted here granted).1⟩
      · rintro rfl
        exact ⟨rfl, rfl⟩

end RedisServer

namespace Cache

open CacheEvent SharedEvent

variable {C : Cache} {Room : C.State → Prop}

/-- As long as the server holds what the cache answers, they answer alike. -/
theorem Lawful.replies_granted (lawful : C.Lawful Room) (confirms : C.Confirms) {s : RedisServer}
    {x : C.State × Nanos} {history : List (SharedEvent Client)} (whole : ∀ e ∈ history, e.Whole)
    (lasting : Lasting (granted history)) (room : C.Stays Room x (granted history))
    (mirrors : C.Mirrors s.text? x (granted history)) :
    (s.exchanges history).filterMap (·.answer.toOption) = C.replies x (granted history) := by
  induction history generalizing s x with
  | nil => rfl
  | cons e rest ih =>
    obtain ⟨here, later⟩ := List.forall_mem_cons.1 whole
    cases e with
    | wait time => exact ih later lasting room.rest mirrors.wait
    | call sender c refused =>
      by_cases struck : refused = true ∧ c ≠ .del []
      · have skipped : granted (.call sender c refused :: rest) = granted rest :=
          List.filterMap_cons_none (if_pos struck)
        rw [skipped] at lasting room mirrors ⊢
        obtain ⟨rfl, command⟩ := struck
        rw [RedisServer.exchanges, RedisServer.call_refused command]
        exact ih later lasting room mirrors
      · have kept : granted (.call sender c refused :: rest) = .call c :: granted rest :=
          List.filterMap_cons_some (if_neg struck)
        rw [kept] at lasting room mirrors ⊢
        obtain ⟨answer, left⟩ := RedisServer.call_granted (s := s) here struck
        have next := lawful.mirrors_call room.room lasting mirrors
        rw [← left] at next
        let after := ((s.facing refused).call c).2
        calc (s.exchanges (.call sender c refused :: rest)).filterMap (·.answer.toOption)
          _ = c.reply s.text? :: (after.exchanges rest).filterMap (·.answer.toOption) :=
            List.filterMap_cons_some (congrArg Except.toOption answer)
          _ = c.reply s.text? :: C.replies (C.step x (.call c)) (granted rest) :=
            congrArg (_ :: ·) (ih later lasting.tail room.rest next)
          _ = C.replies x (.call c :: granted rest) := by rw [replies, mirrors.reply confirms]

end Cache

/-! ## Both kinds of caches -/

theorem ExpiringMap.confirms_cache (m : ExpiringMap) : m.cache.Confirms := by
  intro s now c asks
  cases c with
  | get key => exact absurd rfl (asks key)
  | set key value ttl => rfl
  | del keys => rfl

namespace MemoryCache

theorem confirms_cache : cache.Confirms := by
  intro s now c asks
  cases c with
  | get key => exact absurd rfl (asks key)
  | set key value ttl => rfl
  | del keys => rfl

end MemoryCache

open CacheEvent SharedEvent in
/-- Whatever the clients of a server call, in any order, and whatever it refuses: who is refused is
told of an error, and the other answers are those that one cache within the process gives to the
calls that were not refused, over any expiring map that keeps its promises and by itself. Entries
must live on, and fewer of them be held than there is room for. -/
theorem backends_interchangeable (library : ExpiringMap.Library)
    (honours : ∀ bound rule, (library bound rule).Honours bound rule) (begun : Nanos)
    (history : List (SharedEvent Client)) (whole : ∀ e ∈ history, e.Whole)
    (lasting : Lasting (granted history))
    (room : (MemoryCache.backing library).cache.Stays
      ((MemoryCache.backing library).Below MemoryCache.maxEntries)
      ((MemoryCache.backing library).cache.empty, begun) (granted history)) :
    let exchanges := RedisServer.empty.exchanges history
    let backing := (MemoryCache.backing library).cache
    exchanges.map (·.event) = history.filter (·.isCall) ∧
      (∀ e ∈ exchanges, e.Fair) ∧
      exchanges.filterMap (·.answer.toOption) =
        backing.replies (backing.empty, begun) (granted history) ∧
      exchanges.filterMap (·.answer.toOption) =
        MemoryCache.cache.replies (.empty, begun) (granted history) := by
  have lawful := (honours MemoryCache.maxEntries .perEntry).lawful
  have own := MemoryCache.lawful_cache
  refine ⟨RedisServer.empty.map_event_exchanges history, RedisServer.empty.fair_exchanges whole,
    ?_, ?_⟩
  · exact lawful.replies_granted (ExpiringMap.confirms_cache _) whole lasting room
      (lawful.mirrors_empty begun _)
  · exact own.replies_granted MemoryCache.confirms_cache whole lasting (fun _ _ => trivial)
      (own.mirrors_empty begun _)

open CacheEvent SharedEvent in
/-- Two clients share an empty text and lose it again; a text that is refused is not set, and
deleting no keys is done while the server refuses everything. -/
theorem backends_interchangeable_pair :
    let history : List (SharedEvent (Fin 2)) :=
      [.call 0 (.set "menu" "" (Nanos.ofSeconds 30)) false, .wait 7, .call 1 (.get "menu") false,
        .call 1 (.set "menu" "soup" (Nanos.ofMillis 1)) true, .call 0 (.del []) true,
        .call 0 (.get "menu") false, .call 1 (.set "menu" "tea" 0) false,
        .call 0 (.get "menu") false]
    let backing := MemoryCache.backing Ledger.library
    (∀ bound rule, (Ledger.library bound rule).Honours bound rule) ∧
      (∀ e ∈ history, e.Whole) ∧ Lasting (granted history) ∧
      backing.cache.Stays (backing.Below MemoryCache.maxEntries) (backing.cache.empty, 5)
        (granted history) ∧
      (∀ e ∈ RedisServer.empty.exchanges history, e.Fair) ∧
      (RedisServer.empty.exchanges history).filterMap (·.answer.toOption) =
        [.done, .value (some ""), .done, .value (some ""), .done, .value none] := by
  intro history backing
  have whole : ∀ e ∈ history, e.Whole := by decide
  have lasting : Lasting (granted history) := by decide
  have room : backing.cache.Stays (backing.Below MemoryCache.maxEntries) (backing.cache.empty, 5)
      (granted history) := by decide
  obtain ⟨-, fair, -, own⟩ :=
    backends_interchangeable Ledger.library Ledger.honours 5 history whole lasting room
  exact ⟨Ledger.honours, whole, lasting, room, fair, own.trans (by decide)⟩

end Tableside
