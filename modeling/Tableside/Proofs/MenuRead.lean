import Tableside.Proofs.MenuCache

/-!
# What a menu read asks

A menu read is carried out here among `Surroundings`: a cache and a source of menus that answer as
they please, and differently every time. `MenuRead.course` keeps what is asked of them in turn, with
their answers, next to what the read comes to. Whatever a cache answers, it is asked once for the
menu and, after a menu was loaded, once to save it; a read fails just when its code is blank or the
source fails (`Instance.menu_read_course`).

The world of an instance is such surroundings (`MenuRead.run_eq_course`), and its log keeps what was
asked (`MenuRead.log_course`).
-/

namespace Tableside

namespace MenuRead

/-! ## The course of a read -/

/-- A question of a read with the answer to it. -/
inductive Asked
  | lookup (key : String) (found : Except CacheError (Option String))
  | load (code : String) (loaded : Except ApiError Menu)
  | save (key value : String) (ttl : Nanos) (saved : Except CacheError Unit)

/-- A cache and a source of menus, with what they answer and what becomes of them. -/
structure Surroundings (σ : Type) where
  lookup (key : String) : σ → Except CacheError (Option String) × σ
  load (code : String) : σ → Except ApiError Menu × σ
  save (key value : String) (ttl : Nanos) : σ → Except CacheError Unit × σ

/-- What a read comes to: its answer, what it asked in turn, and the surroundings after it. -/
structure Course (σ : Type) where
  answer : Except ApiError Menu
  asked : List Asked
  after : σ

variable {σ : Type}

/-- The course with a question in front. -/
def Course.since (a : Asked) (c : Course σ) : Course σ :=
  { c with asked := a :: c.asked }

/-- The course of a read in some surroundings. -/
def course (around : Surroundings σ) : MenuRead → σ → Course σ
  | .done answer, s => ⟨answer, [], s⟩
  | .lookup key next, s =>
    (course around (next (around.lookup key s).1) (around.lookup key s).2).since
      (.lookup key (around.lookup key s).1)
  | .load code next, s =>
    (course around (next (around.load code s).1) (around.load code s).2).since
      (.load code (around.load code s).1)
  | .save key value ttl next, s =>
    (course around next (around.save key value ttl s).2).since
      (.save key value ttl (around.save key value ttl s).1)

/-! ## Reads of a menu -/

/-- An answer of a cache that holds a menu: a text that is not empty and spells it. -/
def Holds (found : Except CacheError (Option String)) (m : Menu) : Prop :=
  ∃ text, found = .ok (some text) ∧ text ≠ "" ∧ Json.parse Menu.decode text = .ok m

theorem cached?_eq_some_iff_holds {found : Except CacheError (Option String)} {m : Menu} :
    cached? found = some m ↔ Holds found m := by
  have spells : ∀ text, Menu.ofSnapshot? text = some m ↔ Json.parse Menu.decode text = .ok m := by
    intro text
    rw [Menu.ofSnapshot?]
    cases Json.parse Menu.decode text <;> simp [Except.toOption]
  simp only [cached?_eq_some_iff, Holds, spells]

variable (around : Surroundings σ) (s : σ) (code : String) (ttl : Nanos)

theorem course_uncached : (uncached code).course around s =
    ⟨(around.load code s).1, [.load code (around.load code s).1], (around.load code s).2⟩ := rfl

/-- A source that fails is asked once, and nothing is saved. -/
theorem course_loadAndSave_of_error {e : ApiError} (failed : (around.load code s).1 = .error e) :
    (loadAndSave code ttl).course around s =
      ⟨.error e, [.load code (.error e)], (around.load code s).2⟩ := by
  rw [loadAndSave, course, failed]
  rfl

/-- A menu that is loaded is saved, and whatever comes of that, it is the answer. -/
theorem course_loadAndSave_of_ok {m : Menu} (loaded : (around.load code s).1 = .ok m) :
    (loadAndSave code ttl).course around s =
      let saved := around.save (menuKey code) m.snapshot ttl (around.load code s).2
      ⟨.ok m, [.load code (.ok m), .save (menuKey code) m.snapshot ttl saved.1], saved.2⟩ := by
  rw [loadAndSave, course, loaded]
  rfl

/-- A menu that the cache holds is the answer. -/
theorem course_throughCache_of_holds {m : Menu}
    (holds : Holds (around.lookup (menuKey code) s).1 m) :
    (throughCache code ttl).course around s =
      let found := around.lookup (menuKey code) s
      ⟨.ok m, [.lookup (menuKey code) found.1], found.2⟩ := by
  rw [throughCache, course, cached?_eq_some_iff_holds.2 holds]
  rfl

/-- Whatever else the cache answers, the menu is loaded. -/
theorem course_throughCache_of_not_holds
    (lacks : ∀ m, ¬Holds (around.lookup (menuKey code) s).1 m) :
    (throughCache code ttl).course around s =
      ((loadAndSave code ttl).course around (around.lookup (menuKey code) s).2).since
        (.lookup (menuKey code) (around.lookup (menuKey code) s).1) := by
  have misses : cached? (around.lookup (menuKey code) s).1 = none := by
    cases hit : cached? (around.lookup (menuKey code) s).1 with
    | none => rfl
    | some m => exact absurd (cached?_eq_some_iff_holds.1 hit) (lacks m)
  rw [throughCache, course, misses]

theorem start_of_blank {ttl : Option Nanos} {code : String} (blank : Text.trim code = "") :
    start ttl code = .done (.error (.badRequest "tenant code is required")) := by
  unfold start
  dsimp only
  rw [blank]
  rfl

theorem start_of_filled {ttl : Option Nanos} {code : String} (filled : Text.trim code ≠ "") :
    start ttl code = match ttl with
      | some ttl => throughCache (Text.trim code) ttl
      | none => uncached (Text.trim code) := by
  unfold start
  dsimp only
  exact if_neg (by simpa using filled)

/-- A read whose code is not blank asks for something. -/
theorem asked_start_ne_nil {ttl : Option Nanos} {code : String} (filled : Text.trim code ≠ "") :
    ((start ttl code).course around s).asked ≠ [] := by
  rw [start_of_filled filled]
  cases ttl with
  | none => exact List.cons_ne_nil _ _
  | some ttl => exact List.cons_ne_nil _ _

theorem load_mem_asked_loadAndSave {e : ApiError}
    (failed : ((loadAndSave code ttl).course around s).answer = .error e) :
    .load code (.error e) ∈ ((loadAndSave code ttl).course around s).asked := by
  cases loaded : (around.load code s).1 with
  | ok m =>
    rw [course_loadAndSave_of_ok around s code ttl loaded] at failed
    cases failed
  | error e' =>
    rw [course_loadAndSave_of_error around s code ttl loaded] at failed ⊢
    cases failed
    exact List.mem_cons_self

/-- A read whose code is not blank fails as a load does; no answer of a cache makes it fail. -/
theorem load_mem_asked {ttl : Option Nanos} {code : String} {e : ApiError}
    (filled : Text.trim code ≠ "")
    (failed : ((start ttl code).course around s).answer = .error e) :
    .load (Text.trim code) (.error e) ∈ ((start ttl code).course around s).asked := by
  rw [start_of_filled filled] at failed ⊢
  cases ttl with
  | none =>
    have failed : (around.load (Text.trim code) s).1 = .error e := failed
    rw [course_uncached, failed]
    exact List.mem_cons_self
  | some ttl =>
    dsimp only at failed ⊢
    by_cases hit : ∃ m, Holds (around.lookup (menuKey (Text.trim code)) s).1 m
    · obtain ⟨m, holds⟩ := hit
      rw [course_throughCache_of_holds around s _ ttl holds] at failed
      cases failed
    · rw [course_throughCache_of_not_holds around s _ ttl fun m holds => hit ⟨m, holds⟩] at failed ⊢
      exact List.mem_cons_of_mem _ (load_mem_asked_loadAndSave around _ _ ttl failed)

/-! ## The world of an instance -/

/-- What the log keeps of a question. -/
def Asked.event (sender : Nat) : Asked → Event
  | .lookup key _ => .cacheCall sender (.get key)
  | .load code _ => .load sender code
  | .save key value ttl _ => .cacheCall sender (.set key value ttl)

end MenuRead

/-- The cache `name` and the database, as an instance reaches them. -/
def Instance.surroundings (i : Instance) (name : String) : MenuRead.Surroundings World where
  lookup key w := w.cacheGet i name key
  load code w := Service.db (Catalog.loadMenu code) (w.record (.load i.number code))
  save key value ttl w :=
    ((w.cacheCall i name (.set key value ttl)).1.map fun _ => (),
      (w.cacheCall i name (.set key value ttl)).2)

namespace MenuRead

variable (i : Instance) (name : String)

/-- A read that is carried through on an instance goes as it does in the world of the instance. -/
theorem run_eq_course (read : MenuRead) (w : World) :
    read.run i name w = ((read.course (i.surroundings name) w).answer,
      (read.course (i.surroundings name) w).after) := by
  induction read generalizing w with
  | done answer => rfl
  | lookup key next ih => exact ih _ _
  | load code next ih => exact ih _ _
  | save key value ttl next ih => exact ih _

/-- The log keeps what was asked, in turn. -/
theorem log_course (read : MenuRead) (w : World) :
    (read.course (i.surroundings name) w).after.log =
      w.log ++ (read.course (i.surroundings name) w).asked.map (Asked.event i.number) := by
  induction read generalizing w with
  | done answer => exact (List.append_nil _).symm
  | lookup key next ih =>
    have kept : (w.cacheGet i name key).2.log = w.log ++ [.cacheCall i.number (.get key)] := by
      rw [w.cacheGet_snd, w.cacheCall_log]
    refine (ih _ (w.cacheGet i name key).2).trans ?_
    rw [kept, List.append_assoc]
    rfl
  | load code next ih =>
    refine (ih _ _).trans ?_
    change w.log ++ [_] ++ _ = _
    rw [List.append_assoc]
    rfl
  | save key value ttl next ih =>
    refine (ih (w.cacheCall i name (.set key value ttl)).2).trans ?_
    rw [w.cacheCall_log, List.append_assoc]
    rfl

end MenuRead

/-- The course of reading the menu of a code in some surroundings. -/
def Instance.readCourse {σ : Type} (i : Instance) (around : MenuRead.Surroundings σ) (code : String)
    (s : σ) : MenuRead.Course σ :=
  (MenuRead.start i.readThroughTtl code).course around s

/-- The surroundings that an instance finds itself in. -/
def Instance.own (i : Instance) : MenuRead.Surroundings World :=
  i.surroundings (i.cache.getD "")

/-- An instance reads menus in its own surroundings. -/
theorem Instance.getMenu_eq_course (i : Instance) (code : String) (w : World) :
    i.getMenu code w =
      ((i.readCourse i.own code w).answer, (i.readCourse i.own code w).after) := by
  rw [getMenu, MenuRead.run_eq_course]
  rfl

/-- The log keeps what a menu read asked. -/
theorem Instance.log_getMenu (i : Instance) (code : String) (w : World) :
    (i.getMenu code w).2.log =
      w.log ++ (i.readCourse i.own code w).asked.map (MenuRead.Asked.event i.number) := by
  rw [getMenu, MenuRead.run_eq_course, MenuRead.log_course, readCourse, own]

/-! ## Whatever a cache does -/

/-- Settings under which a cache is read and written: caching is on, there is a cache, and menus
live in it for some time. -/
structure CacheConfig.Reads (config : CacheConfig) (cache : Option String) : Prop where
  enabled : config.enabled = true
  there : cache.isSome = true
  lasting : config.menuTtl ≠ 0

namespace Instance

variable (number : Nat) (config : CacheConfig) (cache jwtSecret : Option String)
  (faults : CacheOp → Option CacheError)

theorem readThroughTtl_configured_of_reads {config : CacheConfig} {cache : Option String}
    (reads : config.Reads cache) :
    (configured number config cache jwtSecret faults).readThroughTtl = some config.menuTtl := by
  have lasting : (config.menuTtl != 0) = true := bne_iff_ne.2 reads.lasting
  simp [readThroughTtl, configured, reads.enabled, reads.there, lasting]

theorem readThroughTtl_configured_of_not_reads {config : CacheConfig} {cache : Option String}
    (idle : ¬config.Reads cache) :
    (configured number config cache jwtSecret faults).readThroughTtl = none := by
  rw [readThroughTtl]
  refine if_neg fun used => ?_
  obtain ⟨there, lasting⟩ := Bool.and_eq_true_iff.1 used
  cases on : config.enabled with
  | true =>
    have there : (if config.enabled then cache else none).isSome = true := there
    rw [if_pos on] at there
    exact idle ⟨on, there, bne_iff_ne.1 lasting⟩
  | false =>
    have there : (if config.enabled then cache else none).isSome = true := there
    rw [on] at there
    cases there

variable {σ : Type} (around : MenuRead.Surroundings σ) (s : σ) {code : String}

theorem readCourse_of_reads {config : CacheConfig} {cache : Option String}
    (reads : config.Reads cache) (filled : Text.trim code ≠ "") :
    (configured number config cache jwtSecret faults).readCourse around code s =
      (MenuRead.throughCache (Text.trim code) config.menuTtl).course around s := by
  rw [readCourse, readThroughTtl_configured_of_reads number jwtSecret faults reads,
    MenuRead.start_of_filled filled]

theorem readCourse_of_not_reads {config : CacheConfig} {cache : Option String}
    (idle : ¬config.Reads cache) (filled : Text.trim code ≠ "") :
    (configured number config cache jwtSecret faults).readCourse around code s =
      (MenuRead.uncached (Text.trim code)).course around s := by
  rw [readCourse, readThroughTtl_configured_of_not_reads number jwtSecret faults idle,
    MenuRead.start_of_filled filled]

theorem readCourse_of_blank (i : Instance) (blank : Text.trim code = "") :
    i.readCourse around code s = ⟨.error (.badRequest "tenant code is required"), [], s⟩ := by
  rw [readCourse, MenuRead.start_of_blank blank]
  rfl

theorem asked_readCourse_ne_nil (i : Instance) (filled : Text.trim code ≠ "") :
    (i.readCourse around code s).asked ≠ [] := by
  rw [readCourse]
  exact MenuRead.asked_start_ne_nil around s filled

/-- A menu read asks for nothing and counts as badly requested just when its code is blank.
Otherwise, with a cache that is read, it looks up the key of the code once. If the cache holds a
menu, that is the answer and nothing else is asked; whatever else it answers, the menu of the code
is loaded once and what is loaded is the answer, which is saved once, for the lifetime that the
settings name, if it is a menu. Without such a cache the menu is loaded once and that is all. A read
whose code is not blank fails only as its load does.

So an instance reads menus in its own surroundings, and the log keeps what was asked. -/
theorem menu_read_course (number : Nat) (config : CacheConfig) (cache jwtSecret : Option String)
    (faults : CacheOp → Option CacheError) (around : MenuRead.Surroundings σ) (s : σ)
    (code : String) :
    let i := configured number config cache jwtSecret faults
    let key := menuKey (Text.trim code)
    let course := i.readCourse around code s
    ((course.asked = [] ∧ ∃ why, course.answer = .error (.badRequest why)) ↔
      Text.trim code = "") ∧
    (Text.trim code ≠ "" → config.Reads cache →
      let found := around.lookup key s
      (∀ m, MenuRead.Holds found.1 m → course = ⟨.ok m, [.lookup key found.1], found.2⟩) ∧
      ((∀ m, ¬MenuRead.Holds found.1 m) →
        let loaded := around.load (Text.trim code) found.2
        (∀ e, loaded.1 = .error e → course =
          ⟨.error e, [.lookup key found.1, .load (Text.trim code) (.error e)], loaded.2⟩) ∧
        ∀ m, loaded.1 = .ok m →
          let saved := around.save key m.snapshot config.menuTtl loaded.2
          course = ⟨.ok m, [.lookup key found.1, .load (Text.trim code) (.ok m),
            .save key m.snapshot config.menuTtl saved.1], saved.2⟩)) ∧
    (Text.trim code ≠ "" → ¬config.Reads cache →
      let loaded := around.load (Text.trim code) s
      course = ⟨loaded.1, [.load (Text.trim code) loaded.1], loaded.2⟩) ∧
    (Text.trim code ≠ "" → ∀ e, course.answer = .error e →
      .load (Text.trim code) (.error e) ∈ course.asked) ∧
    ∀ w, i.getMenu code w =
        ((i.readCourse i.own code w).answer, (i.readCourse i.own code w).after) ∧
      (i.getMenu code w).2.log =
        w.log ++ (i.readCourse i.own code w).asked.map (MenuRead.Asked.event number) := by
  intro i key course
  refine ⟨⟨fun ⟨nothing, _⟩ => ?_, fun blank => ?_⟩, fun filled reads => ?_,
    fun filled idle => ?_, fun filled e => MenuRead.load_mem_asked around s filled,
    fun w => ⟨i.getMenu_eq_course code w, i.log_getMenu code w⟩⟩
  · by_contra filled
    exact asked_readCourse_ne_nil around s i filled nothing
  · have here : course = _ := readCourse_of_blank around s i blank
    rw [here]
    exact ⟨rfl, _, rfl⟩
  · have through : course = _ :=
      readCourse_of_reads number jwtSecret faults around s reads filled
    rw [through]
    refine ⟨fun m holds => MenuRead.course_throughCache_of_holds around s _ _ holds,
      fun lacks => ⟨fun e failed => ?_, fun m loaded => ?_⟩⟩
    · rw [MenuRead.course_throughCache_of_not_holds around s _ _ lacks,
        MenuRead.course_loadAndSave_of_error around _ _ _ failed]
      rfl
    · rw [MenuRead.course_throughCache_of_not_holds around s _ _ lacks,
        MenuRead.course_loadAndSave_of_ok around _ _ _ loaded]
      rfl
  · have direct : course = _ :=
      readCourse_of_not_reads number jwtSecret faults around s idle filled
    rw [direct]
    exact MenuRead.course_uncached around s _

end Instance

/-- A cache that never answers in time, next to a source whose menus are empty. -/
def MenuRead.Surroundings.deaf : MenuRead.Surroundings Unit where
  lookup _ s := (.error .timeout, s)
  load code s := (.ok ⟨code, [], []⟩, s)
  save _ _ _ s := (.error .timeout, s)

/-- The cache is asked twice in vain, and the menu is read all the same. -/
theorem Instance.menu_read_course_deaf :
    (configured 0 .default (some "menus") none fun _ => none).readCourse .deaf " cafe " () =
      ⟨.ok ⟨"cafe", [], []⟩, [.lookup (menuKey "cafe") (.error .timeout),
        .load "cafe" (.ok ⟨"cafe", [], []⟩),
        .save (menuKey "cafe") (Menu.snapshot ⟨"cafe", [], []⟩) (Nanos.ofSeconds 300)
          (.error .timeout)], ()⟩ := by
  have trimmed : Text.trim " cafe " = "cafe" := by decide
  have lasting : CacheConfig.default.Reads (some "menus") := ⟨rfl, rfl, by decide⟩
  obtain ⟨-, through, -⟩ :=
    menu_read_course 0 .default (some "menus") none (fun _ => none) .deaf () " cafe "
  rw [trimmed] at through
  have lacks : ∀ m, ¬MenuRead.Holds (MenuRead.Surroundings.deaf.lookup (menuKey "cafe") ()).1 m := by
    rintro m ⟨text, found, -⟩
    cases found
  exact ((through (by decide) lasting).2 lacks).2 _ rfl

end Tableside
