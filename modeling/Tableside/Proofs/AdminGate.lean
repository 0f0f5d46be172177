import Tableside.Http.Gateway
import Tableside.Proofs.Isolation
import Tableside.Proofs.Outage
import Tableside.Proofs.Text

/-!
# The gate of the administrators

Every route of administrators first finds out who asks. A request that brings no accepted token is
turned away with an answer that depends on nothing else (`Gateway.serve_rejected`). Every other one
comes to a call on behalf of the user of the token (`Gateway.adminCall`), which is refused unless
the user is an administrator and then reads and writes rows of the user's tenant alone: what it
answers is what it comes to in these rows (`Call.answer_of_asker`), also when the database stops, so
long as the answer is not that it did.
-/

namespace Tableside

/-! ## Who asks -/

/-- The user that a request shows a token of: it carries one that the secret of the server lets
through. -/
def Auth.Presents (headers : Headers) (secret : Option String) (now : Int) (user : AdminUser) :
    Prop :=
  ∃ token key, token? headers = some token ∧ secret = some key ∧
    decodeToken token key now = .ok user

theorem Auth.extractAdmin_eq_ok {headers : Headers} {secret : Option String} {now : Int}
    {user : AdminUser} :
    extractAdmin headers secret now = .ok user ↔ Presents headers secret now user := by
  unfold extractAdmin Presents
  cases token? headers with
  | none => exact ⟨nofun, fun ⟨_, _, found, _⟩ => nomatch found⟩
  | some token =>
    cases secret with
    | none => exact ⟨nofun, fun ⟨_, _, _, kept, _⟩ => nomatch kept⟩
    | some key =>
      constructor
      · exact fun accepted => ⟨token, key, rfl, rfl, accepted⟩
      · rintro ⟨_, _, ⟨⟩, ⟨⟩, accepted⟩
        exact accepted

/-! ## Tokens that are let through -/

namespace Auth

open Text

/-- A token for claims, signed with a secret. -/
def issue (claims secret : String) : List Char :=
  let message := Base64Url.encode (utf8 "\x7b\"alg\":\"HS256\"\x7d") ++
    '.' :: Base64Url.encode (utf8 claims)
  message ++ '.' :: Base64Url.encode (Hmac.sign (utf8 secret) (utf8 (String.ofList message)))

theorem point_not_mem_encode (bytes : List UInt8) : '.' ∉ Base64Url.encode bytes := fun member =>
  absurd (Base64Url.alphabet_of_mem_encode member) (by decide)

/-- A token that was signed with the secret is taken for its claims. -/
theorem verified?_issue (claims secret : String) :
    verified? (String.ofList (issue claims secret)) secret =
      part? (Base64Url.encode (utf8 claims)) Claims.decode := by
  have header : part? (Base64Url.encode (utf8 "\x7b\"alg\":\"HS256\"\x7d")) (fun n =>
      if headerAccepted n then .ok () else .error n.refusal) = some () := by decide +kernel
  rw [verified?, issue, String.toList_ofList]
  simp only [splitLast_append (point_not_mem_encode _), header, Base64Url.decode_encode,
    Option.bind_eq_bind, Option.bind_some, if_true]

/-- A token that can be seen and has no blanks is found after `Bearer`. -/
theorem token?_bearer {token : List Char} (nonempty : token ≠ [])
    (visible : isVisible (String.ofList token) = true)
    (solid : ∀ c ∈ token, isBlank c = false) :
    token? [("authorization", String.ofList ("Bearer ".toList ++ token))] =
      some (String.ofList token) := by
  have seen : isVisible (String.ofList ("Bearer ".toList ++ token)) = true := by
    rw [isVisible, String.toList_ofList] at visible ⊢
    rw [List.all_append, visible]
    decide
  have found : bearerToken? (String.ofList ("Bearer ".toList ++ token)) =
      some (String.ofList token) := by
    simp only [bearerToken?, String.toList_ofList, List.take_left, List.drop_left,
      trimChars_of_forall solid, if_true]
    rw [if_neg (by simpa using nonempty)]
  generalize String.ofList ("Bearer ".toList ++ token) = value at seen found ⊢
  simp [token?, headerValues, seen, found]

theorem forall_mem_issue {p : Char → Prop} (letters : ∀ n < 64, p (Base64Url.letter n))
    (point : p '.') (claims secret : String) : ∀ c ∈ issue claims secret, p c := by
  have encoded {bytes : List UInt8} {c : Char} (member : c ∈ Base64Url.encode bytes) : p c := by
    obtain ⟨n, small, rfl⟩ := Base64Url.exists_of_mem_encode member
    exact letters n small
  intro c member
  simp only [issue, List.mem_append, List.mem_cons] at member
  rcases member with (member | rfl | member) | rfl | member
  · exact encoded member
  · exact point
  · exact encoded member
  · exact point
  · exact encoded member

/-- The user that claims name at a time. -/
def Claims.user? (said : Claims) (now : Int) : Option AdminUser :=
  if (said.exp : Int) < now - leeway then none
  else do
    let adminId ← Uuid.ofText? said.sub
    let tenantId ← Uuid.ofText? said.tenantId
    some ⟨adminId, tenantId, said.role⟩

/-- A request that brings claims under their signature shows a token of whom they name. -/
theorem presents_issue {claims secret : String} {now : Int} {user : AdminUser}
    (names : (part? (Base64Url.encode (utf8 claims)) Claims.decode).bind (·.user? now) =
      some user) :
    Presents [("authorization", String.ofList ("Bearer ".toList ++ issue claims secret))]
      (some secret) now user := by
  have visible : isVisible (String.ofList (issue claims secret)) = true := by
    rw [isVisible, String.toList_ofList, List.all_eq_true]
    exact forall_mem_issue (by decide) (by decide) claims secret
  have solid := forall_mem_issue (p := fun c => isBlank c = false) (by decide) (by decide)
    claims secret
  have nonempty : issue claims secret ≠ [] := by simp [issue]
  have named : user? (String.ofList (issue claims secret)) secret now = some user := by
    rw [← verified?_issue claims secret] at names
    exact names
  exact ⟨_, secret, token?_bearer nonempty visible solid, rfl, by rw [decodeToken, named]⟩

end Auth

namespace Call

variable {c : Call} {user : AdminUser}

/-- The user on whose behalf a call is made. -/
def asker? : Call → Option AdminUser
  | listOrders user _ => some user
  | getOrder user _ => some user
  | updateOrderStatus user _ _ => some user
  | patchItem user _ _ => some user
  | setItemAvailability user _ _ => some user
  | _ => none

theorem for_of_asker (asks : c.asker? = some user) (s : Store) : c.For user.tenantId s := by
  cases c
  case listOrders => cases asks; rfl
  case getOrder => cases asks; rfl
  case updateOrderStatus => cases asks; rfl
  case patchItem => cases asks; rfl
  case setItemAvailability => cases asks; rfl
  all_goals cases asks

theorem unused_of_asker (asks : c.asker? = some user) (s : Store) : c.Unused s := by
  intro fresh r creates
  cases c
  case placeOrder => cases asks
  case createOrder => cases asks
  all_goals cases creates

/-- Whoever is not an administrator is refused before anything is done. -/
theorem run_forbidden (asks : c.asker? = some user) (other : user.role ≠ "admin") (i : Instance)
    (w : World) : c.run i w = (.error .forbidden, w) := by
  have refused := ensureAdmin_of_other other
  cases c
  case listOrders =>
    cases asks
    rw [run, Instance.listOrders, refused]
    rfl
  case getOrder =>
    cases asks
    rw [run, Instance.getOrder, refused]
    rfl
  case updateOrderStatus =>
    cases asks
    rw [run, Instance.updateOrderStatus, refused]
    rfl
  case patchItem =>
    cases asks
    rw [run, Instance.patchItem, refused]
    rfl
  case setItemAvailability =>
    cases asks
    rw [run, Instance.setItemAvailability, refused]
    rfl
  all_goals cases asks

/-- What is answered on behalf of a user does not depend on when the database stops, unless it does
before the answer. -/
theorem run_steady (asks : c.asker? = some user) (i : Instance) : (c.run i).Steady := by
  cases c
  case listOrders user' q =>
    exact (Service.Steady.checked _ fun _ => .checked _ fun _ =>
      (Service.db_steady (Orders.list_steady _ _ _ _)).bind fun _ => Service.pure_steady _).map _
  case getOrder user' id =>
    exact (Service.Steady.checked _ fun _ =>
      (Service.db_steady (Orders.get_steady _ _)).bind fun _ => Service.pure_steady _).map _
  case updateOrderStatus user' id u =>
    exact (Service.Steady.checked _ fun _ => .checked _ fun _ =>
      (Service.db_steady (Orders.setStatus_steady _ _ _)).bind fun _ => Service.pure_steady _).map _
  case patchItem user' id p =>
    exact (Service.Steady.checked _ fun _ =>
      i.editItem_steady (Catalog.patchItem_steady _ _ p)).map _
  case setItemAvailability user' id a =>
    exact (Service.Steady.checked _ fun _ =>
      i.editItem_steady (Catalog.setAvailability_steady _ _ a)).map _
  all_goals cases asks

/-- What is answered on behalf of a user is what the call comes to. -/
theorem answer_of_asker (asks : c.asker? = some user) (i : Instance) {w : World}
    (keyed : w.database.store.Keyed)
    (answered : w.database.Serving ∨ (c.run i w).1 ≠ .error .database) :
    (c.run i w).1 = (c.effect w.database.store).1 := by
  have uncached : ∀ code, c = .getMenu code → i.readThroughTtl = none := by
    rintro code rfl
    cases asks
  rcases answered with serving | answered
  · exact (c.run_leaves i serving keyed uncached).answer
  · have awake := run_steady asks i rfl answered
    have leaves := c.run_leaves i (w := w.awake) w.database.awake_serving keyed uncached
    rw [awake] at leaves
    exact leaves.answer

/-- Two worlds with the same rows of the user's tenant answer alike. -/
theorem answer_of_agree (asks : c.asker? = some user) (i : Instance) {w w' : World}
    (keyed : w.database.store.Keyed) (keyed' : w'.database.store.Keyed)
    (agree : w.database.store.own user.tenantId = w'.database.store.own user.tenantId)
    (answered : w.database.Serving ∨ (c.run i w).1 ≠ .error .database)
    (answered' : w'.database.Serving ∨ (c.run i w').1 ≠ .error .database) :
    (c.run i w).1 = (c.run i w').1 := by
  rw [answer_of_asker asks i keyed answered, answer_of_asker asks i keyed' answered',
    ← effect_own keyed (for_of_asker asks _) (unused_of_asker asks _), agree,
    effect_own keyed' (for_of_asker asks _) (unused_of_asker asks _)]

/-- The rows of everybody else stay as they are, whenever the database stops. -/
theorem others_of_asker (asks : c.asker? = some user) (i : Instance) {w : World}
    (keyed : w.database.store.Keyed) :
    (c.run i w).2.database.store.others user.tenantId =
      w.database.store.others user.tenantId := by
  rcases c.run_store i keyed with idle | done
  · rw [idle]
  · rw [done]
    exact Change.part_others keyed
      (change_of keyed (for_of_asker asks _) (unused_of_asker asks _))

end Call

/-! ## Answers -/

namespace Http.Gateway

/-- The JSON form of what an administrator is answered. -/
def replyJson : Reply → Json
  | .orders e => Envelope.json OrdersPage.json e
  | .order e => Envelope.json Order.json e
  | .item e => Envelope.json Item.json e
  | _ => .null

/-- The answer to a call. -/
def respond : Except ApiError Reply → Response
  | .ok reply => .ofBody 200 (.json (replyJson reply))
  | .error e => failure e

theorem perform_reply {α : Type} (m : Service α) (reply : α → Reply) {encode : α → Json}
    (same : ∀ a, replyJson (reply a) = encode a) (w : World) :
    perform m 200 encode w = (respond ((reply <$> m) w).1, ((reply <$> m) w).2) := by
  rw [Service.map_apply, perform]
  rcases m w with ⟨_ | a, w'⟩
  · rfl
  · dsimp only
    rw [← same a]
    rfl

theorem failure_status (e : ApiError) : 400 ≤ (failure e).status := by
  change 400 ≤ e.status
  cases e <;> simp [ApiError.status]

theorem status_of_refusal {α : Type} {limit : Nat} {d : Decoder α} {r : Request} {status : Nat}
    (refused : bodyOf limit d r = .error status) : 400 ≤ status ∧ status < 500 := by
  unfold bodyOf at refused
  split at refused
  · cases refused
    decide
  split at refused
  · cases refused
    decide
  split at refused
  · cases refused
  · cases refused
    decide
  · cases refused
    decide

/-! ## Requests as calls -/

/-- The call that lists orders as a query asks. -/
def callWithQuery (user : AdminUser) (asked : Option ListQuery) : Except Nat Call :=
  match asked with
  | some q => .ok (.listOrders user q)
  | none => .error 400

/-- A call that needs the identifier of a path. -/
def callWithId (piece : String) (make : Uuid → Except Nat Call) : Except Nat Call :=
  match pathId? piece with
  | some id => make id
  | none => .error 400

/-- The call that an administrator's request comes to, or the status of its refusal. -/
def adminCall (c : Context) (r : Request) (user : AdminUser) : Route → Except Nat Call
  | .adminOrders => callWithQuery user (Query.listQuery? r.query)
  | .adminOrder piece => callWithId piece fun id => .ok (.getOrder user id)
  | .adminOrderStatus piece => callWithId piece fun id =>
    (bodyOf c.bodyLimit StatusUpdate.decode r).map (.updateOrderStatus user id)
  | .adminItem piece => callWithId piece fun id =>
    (bodyOf c.bodyLimit ItemPatch.decode r).map (.patchItem user id)
  | .adminItemAvailability piece => callWithId piece fun id =>
    (bodyOf c.bodyLimit Availability.decode r).map (.setItemAvailability user id)
  | _ => .error 404

/-- Carries out the call, or refuses. -/
def carryOut (i : Instance) (asked : Except Nat Call) (w : World) : Response × World :=
  match asked with
  | .ok call => (respond (call.run i w).1, (call.run i w).2)
  | .error status => (refuse status, w)

section

variable {c : Context} {i : Instance} {r : Request} {user : AdminUser} {w : World}

theorem withQuery_carryOut (asked : Option ListQuery) :
    (match asked with
      | some q => perform (i.listOrders user q) 200 (Envelope.json OrdersPage.json) w
      | none => (refuse 400, w)) = carryOut i (callWithQuery user asked) w := by
  cases asked with
  | none => rfl
  | some q => exact perform_reply (i.listOrders user q) .orders (fun _ => rfl) w

theorem withId_carryOut {piece : String} {ask : Uuid → World → Response × World}
    {make : Uuid → Except Nat Call} (same : ∀ id, ask id w = carryOut i (make id) w) :
    withId piece ask w = carryOut i (callWithId piece make) w := by
  rw [withId, callWithId]
  cases pathId? piece with
  | none => rfl
  | some id => exact same id

theorem withBody_carryOut {α : Type} {limit : Nat} {d : Decoder α}
    {ask : α → World → Response × World} {make : α → Call}
    (same : ∀ a, ask a w = carryOut i (.ok (make a)) w) :
    withBody limit d r ask w = carryOut i ((bodyOf limit d r).map make) w := by
  rw [withBody]
  cases bodyOf limit d r with
  | error status => rfl
  | ok a => exact same a

/-- An administrator's request is answered as the call that it comes to. -/
theorem serveAdmin_eq {route : Route} (admin : route.isAdmin = true) :
    serveAdmin c i r user route w = carryOut i (adminCall c r user route) w := by
  cases route
  case adminOrders =>
    unfold serveAdmin adminCall
    generalize Query.listQuery? r.query = asked
    exact withQuery_carryOut asked
  case adminOrder piece =>
    exact withId_carryOut fun id => perform_reply (i.getOrder user id) .order (fun _ => rfl) w
  case adminOrderStatus piece =>
    exact withId_carryOut fun id => withBody_carryOut fun u =>
      perform_reply (i.updateOrderStatus user id u) .order (fun _ => rfl) w
  case adminItem piece =>
    exact withId_carryOut fun id => withBody_carryOut fun p =>
      perform_reply (i.patchItem user id p) .item (fun _ => rfl) w
  case adminItemAvailability piece =>
    exact withId_carryOut fun id => withBody_carryOut fun a =>
      perform_reply (i.setItemAvailability user id a) .item (fun _ => rfl) w
  all_goals cases admin

/-- A request is refused with the status of a client's mistake, or comes to a call on behalf of a
user. -/
def Proper (user : AdminUser) : Except Nat Call → Prop
  | .ok call => call.asker? = some user
  | .error status => 400 ≤ status ∧ status < 500

theorem proper_withQuery (asked : Option ListQuery) : Proper user (callWithQuery user asked) := by
  cases asked with
  | none => exact ⟨by decide, by decide⟩
  | some q => exact rfl

theorem proper_withId {piece : String} {make : Uuid → Except Nat Call}
    (proper : ∀ id, Proper user (make id)) : Proper user (callWithId piece make) := by
  rw [callWithId]
  cases pathId? piece with
  | none => exact ⟨by decide, by decide⟩
  | some id => exact proper id

theorem proper_body {α : Type} {limit : Nat} {d : Decoder α} {make : α → Call}
    (asks : ∀ a, (make a).asker? = some user) : Proper user ((bodyOf limit d r).map make) := by
  cases read : bodyOf limit d r with
  | error status => exact status_of_refusal read
  | ok a => exact asks a

theorem proper_adminCall {route : Route} (admin : route.isAdmin = true) :
    Proper user (adminCall c r user route) := by
  cases route
  case adminOrders =>
    unfold adminCall
    generalize Query.listQuery? r.query = asked
    exact proper_withQuery asked
  case adminOrder piece => exact proper_withId fun _ => rfl
  case adminOrderStatus piece => exact proper_withId fun _ => proper_body fun _ => rfl
  case adminItem piece => exact proper_withId fun _ => proper_body fun _ => rfl
  case adminItemAvailability piece => exact proper_withId fun _ => proper_body fun _ => rfl
  all_goals cases admin

end

/-! ## The gate -/

/-- The database has answered: it answers everything, or it has not failed this time. -/
def Answered (w : World) (answer : Response) : Prop :=
  w.database.Serving ∨ answer.status ≠ 500

section

variable {i : Instance} {user : AdminUser} {asked : Except Nat Call} {w w' : World}

/-- Nobody but an administrator is answered with success or changes anything. -/
theorem admin_of_carryOut (proper : Proper user asked)
    (done : (carryOut i asked w).1.status < 400 ∨ (carryOut i asked w).2 ≠ w) :
    user.role = "admin" := by
  cases asked with
  | error status =>
    rcases done with success | changed
    · exact absurd success (Nat.not_lt.2 proper.1)
    · exact absurd rfl changed
  | ok call =>
    by_contra other
    rw [carryOut, call.run_forbidden proper other] at done
    rcases done with success | changed
    · exact absurd success (Nat.not_lt.2 (failure_status .forbidden))
    · exact absurd rfl changed

theorem others_of_carryOut (proper : Proper user asked) (keyed : w.database.store.Keyed) :
    (carryOut i asked w).2.database.store.others user.tenantId =
      w.database.store.others user.tenantId := by
  cases asked with
  | error status => rfl
  | ok call => exact call.others_of_asker proper i keyed

theorem answered_run {call : Call} (answered : Answered w (respond (call.run i w).1)) :
    w.database.Serving ∨ (call.run i w).1 ≠ .error .database := by
  rcases answered with serving | answered
  · exact .inl serving
  · exact .inr fun failed => answered (by rw [failed]; rfl)

theorem carryOut_of_agree (proper : Proper user asked) (keyed : w.database.store.Keyed)
    (keyed' : w'.database.store.Keyed)
    (agree : w.database.store.own user.tenantId = w'.database.store.own user.tenantId)
    (answered : Answered w (carryOut i asked w).1)
    (answered' : Answered w' (carryOut i asked w').1) :
    (carryOut i asked w).1 = (carryOut i asked w').1 := by
  cases asked with
  | error status => rfl
  | ok call =>
    exact congrArg respond (call.answer_of_agree proper i keyed keyed' agree
      (answered_run answered) (answered_run answered'))

end

/-! ## Methods -/

section

variable {own : String} {r : Request} {answer : World → Response × World} {w w' : World}

/-- A method is served, is served without a body, or is refused, whatever there is to serve. -/
theorem byMethod_cases (own : String) (r : Request) :
    (∀ answer w, byMethod own r answer w = answer w) ∨
    (r.method ≠ own ∧
      ∀ answer w, byMethod own r answer w = ((answer w).1.withoutBody, (answer w).2)) ∨
    (r.method ≠ own ∧
      ∀ answer w, byMethod own r answer w = (wrongMethod (Route.allowFor own), w)) := by
  by_cases same : r.method = own
  · exact .inl fun _ _ => if_pos same
  by_cases head : r.method = "HEAD" ∧ own = "GET"
  · exact .inr (.inl ⟨same, fun _ _ => (if_neg same).trans (if_pos head)⟩)
  · exact .inr (.inr ⟨same, fun _ _ => (if_neg same).trans (if_neg head)⟩)

/-- Success and changes come from what is served. -/
theorem done_of_byMethod
    (done : (byMethod own r answer w).1.status < 400 ∨ (byMethod own r answer w).2 ≠ w) :
    (answer w).1.status < 400 ∨ (answer w).2 ≠ w := by
  rcases byMethod_cases own r with served | ⟨-, served⟩ | ⟨-, refused⟩
  · rwa [served] at done
  · rwa [served] at done
  · rw [refused] at done
    rcases done with success | changed
    · exact absurd success (show ¬ 405 < 400 by decide)
    · exact absurd rfl changed

theorem byMethod_agree
    (agree : Answered w (answer w).1 → Answered w' (answer w').1 → (answer w).1 = (answer w').1)
    (answered : Answered w (byMethod own r answer w).1)
    (answered' : Answered w' (byMethod own r answer w').1) :
    (byMethod own r answer w).1 = (byMethod own r answer w').1 := by
  rcases byMethod_cases own r with served | ⟨-, served⟩ | ⟨-, refused⟩
  · rw [served] at answered answered' ⊢
    rw [served]
    exact agree answered answered'
  · rw [served] at answered answered' ⊢
    rw [served]
    exact congrArg Response.withoutBody (agree answered answered')
  · rw [refused, refused]

end

/-! ## Routes of administrators -/

section

variable {c : Context} {i : Instance} {r : Request} {route : Route} (admin : route.isAdmin = true)

include admin

/-- A request that the gate rejects is told so, and nothing else happens. -/
theorem serve_rejected {e : ApiError}
    (rejected : Auth.extractAdmin r.headers i.jwtSecret c.now = .error e) (w : World) :
    serve c i r route w = (failure e, w) := by
  rw [serve, if_pos admin, rejected]

theorem serve_presented {user : AdminUser}
    (presented : Auth.Presents r.headers i.jwtSecret c.now user) (w : World) :
    serve c i r route w = carryOut i (adminCall c r user route) w := by
  rw [serve, if_pos admin, Auth.extractAdmin_eq_ok.2 presented]
  exact serveAdmin_eq admin

theorem presents_of_serve {w : World}
    (done : (serve c i r route w).1.status < 400 ∨ (serve c i r route w).2 ≠ w) :
    ∃ user, Auth.Presents r.headers i.jwtSecret c.now user ∧ user.role = "admin" := by
  cases extracted : Auth.extractAdmin r.headers i.jwtSecret c.now with
  | error e =>
    rw [serve_rejected admin extracted] at done
    rcases done with success | changed
    · exact absurd success (Nat.not_lt.2 (failure_status e))
    · exact absurd rfl changed
  | ok user =>
    have presented := Auth.extractAdmin_eq_ok.1 extracted
    rw [serve_presented admin presented] at done
    exact ⟨user, presented, admin_of_carryOut (proper_adminCall admin) done⟩

end

/-- Every route of administrators fails closed. A success and any change need a token that the
secret lets through, of an administrator. Whosever token it is, the rows of other tenants stay as
they are, and the answer is the same in every world with the same rows of the user's tenant. A
request that the gate rejects changes nothing, and is told the failure of the gate, which the
headers, the secret and the time determine. Without a secret nothing succeeds. -/
theorem admin_fails_closed (c : Context) (i : Instance) (r : Request) {route : Route}
    (known : Route.ofPath? r.path = some route) (admin : route.isAdmin = true) :
    (∀ w, (handle c i r w).1.status < 400 ∨ (handle c i r w).2 ≠ w →
      ∃ user, Auth.Presents r.headers i.jwtSecret c.now user ∧ user.role = "admin") ∧
    (∀ user, Auth.Presents r.headers i.jwtSecret c.now user → ∀ w, w.database.store.Keyed →
      (handle c i r w).2.database.store.others user.tenantId =
          w.database.store.others user.tenantId ∧
        ∀ w', w'.database.store.Keyed →
          w.database.store.own user.tenantId = w'.database.store.own user.tenantId →
          Answered w (handle c i r w).1 → Answered w' (handle c i r w').1 →
            (handle c i r w).1 = (handle c i r w').1) ∧
    (∀ e, Auth.extractAdmin r.headers i.jwtSecret c.now = .error e →
      ∀ w, (handle c i r w).2 = w ∧ (r.method = route.method → (handle c i r w).1 = failure e)) ∧
    (i.jwtSecret = none → ∀ w, 400 ≤ (handle c i r w).1.status) := by
  have handled : handle c i r = byMethod route.method r (serve c i r route) := by
    funext w
    rw [handle, known]
  rw [handled]
  refine ⟨fun w done => presents_of_serve admin (done_of_byMethod done), ?_, ?_, ?_⟩
  · intro user presented w keyed
    have proper : Proper user (adminCall c r user route) := proper_adminCall admin
    have served := serve_presented admin presented
    constructor
    · have kept := others_of_carryOut (i := i) proper keyed
      rw [← served] at kept
      rcases byMethod_cases route.method r with same | ⟨-, same⟩ | ⟨-, refused⟩
      · rw [same]
        exact kept
      · rw [same]
        exact kept
      · rw [refused]
    · intro w' keyed' agree
      refine byMethod_agree ?_
      rw [served, served]
      exact carryOut_of_agree proper keyed keyed' agree
  · intro e rejected w
    have told := serve_rejected admin rejected w
    rcases byMethod_cases route.method r with same | ⟨other, same⟩ | ⟨other, refused⟩
    · rw [same, told]
      exact ⟨rfl, fun _ => rfl⟩
    · rw [same, told]
      exact ⟨rfl, fun own => absurd own other⟩
    · rw [refused]
      exact ⟨rfl, fun own => absurd own other⟩
  · intro unset w
    by_contra success
    obtain ⟨user, ⟨token, key, -, kept, -⟩, -⟩ :=
      presents_of_serve admin (done_of_byMethod (.inl (Nat.not_le.1 success)))
    rw [unset] at kept
    cases kept

end Http.Gateway

namespace Sample

/-- A server with a secret. -/
def office : Instance := { server with jwtSecret := some "key" }

/-- Claims of the administrator of the cafe that hold in the first minute of 1970. -/
def badge : String :=
  "\x7b\"sub\":\"00000000-0000-0000-0000-000000000008\"," ++
    "\"tenant_id\":\"00000000-0000-0000-0000-000000000001\",\"role\":\"admin\",\"exp\":60\x7d"

/-- The order of the cafe is asked for. -/
def glance (token : List Char) : Http.Request :=
  ⟨"GET", "/api/admin/orders/00000000-0000-0000-0000-000000000006",
    [("authorization", String.ofList ("Bearer ".toList ++ token))], ""⟩

def moment : Http.Context := ⟨0, ⟨.ofNat 20, fun _ => .ofNat 21, noon⟩, 1024⟩

end Sample

open Http.Gateway Sample in
theorem Http.Gateway.admin_fails_closed_cafe :
    (handle moment office (glance (Auth.issue badge "key")) (world [])).1 =
        (handle moment office (glance (Auth.issue badge "key")) (world [bar])).1 ∧
      ∀ w, (handle moment office (glance ['x']) w).1 = failure .unauthorized := by
  have known (token : List Char) : Route.ofPath? (glance token).path =
      some (.adminOrder "00000000-0000-0000-0000-000000000006") := by
    change Route.ofPath? (glance []).path = _
    decide +kernel
  constructor
  · have presented : Auth.Presents (glance (Auth.issue badge "key")).headers office.jwtSecret
        moment.now admin := Auth.presents_issue (by decide +kernel)
    have agree : (store []).own cafe.id = (store [bar]).own cafe.id := by
      have other : (bar.id == cafe.id) = false := by decide
      simp [store, Store.part, Store.owns, other]
    obtain ⟨-, tenant, -⟩ :=
      admin_fails_closed moment office (glance (Auth.issue badge "key")) (known _) rfl
    obtain ⟨-, same⟩ := tenant admin presented (world []) (by decide)
    exact same (world [bar]) (by decide) agree (.inl (sound (by decide)).serving)
      (.inl (sound (by decide)).serving)
  · intro w
    have rejected : Auth.extractAdmin (glance ['x']).headers office.jwtSecret moment.now =
        .error .unauthorized := by decide +kernel
    obtain ⟨-, -, gate, -⟩ := admin_fails_closed moment office (glance ['x']) (known _) rfl
    exact (gate .unauthorized rejected w).2 rfl

end Tableside
