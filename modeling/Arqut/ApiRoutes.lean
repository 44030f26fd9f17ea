import Arqut.ApiKey

/-!
# The REST API's routes and its API-key guard

`api.New` builds one Fiber app: `recover` and the request logger on every path,
CORS when origins are configured, then `setupRoutes`: the services dashboard,
`GET /api/v1/health`, the group of protected endpoints behind
`middleware.APIKeyAuth`, the admin group behind it again, and last the
signaling routes that `signaling.Server.RegisterRoutes` adds under `/api/v1`.

Fiber is not in the repository; `Fiber` below is what these routes use of its
router, and nothing more:

* `Group(prefix, handlers...)` with handlers registers them as
  `Use(prefix, handlers...)`, a middleware route matching every path that
  begins with `prefix`, whichever group a later route was added through;
* `Get` registers its route for `HEAD` and for `GET`;
* a request walks the routes in the order they were registered; every route
  whose method and path match runs its handlers in order, where `c.Next()`
  hands on to the next handler and, after a route's last handler, to the next
  matching route;
* when the routes run out, the answer is 405 if no route but middleware matched
  and a route of another method matches the path, else 404.

Paths are Fiber's detection paths: the app is neither case sensitive nor
strict, so a path is lowercased and loses its trailing slashes before it is
matched, and the routes' own paths are written so.

Since the protected group is `api.Group("", APIKeyAuth(...))`, its guard is
`Use("/api/v1", APIKeyAuth(...))`, and every route registered after it under
`/api/v1` sits behind it, the signaling routes included:

* `api_requests_need_key`: a request to any path under `/api/v1` but
  `GET /api/v1/health` that `APIKeyAuth` refuses runs no handler but the global
  middleware and the guard, and is answered with the guard's 401;
* `guard_transparent`: a request the guard admits, or one outside `/api/v1`,
  is answered as the app without the two guards answers it.
-/

namespace Arqut

namespace Fiber

/-- The request methods Fiber serves, its default `RequestMethods`. -/
inductive Method where
  | get | head | post | put | delete | connect | options | trace | patch
  deriving DecidableEq, Repr

/-- The method as it stands in the request line. -/
def Method.name : Method → String
  | .get => "GET" | .head => "HEAD" | .post => "POST" | .put => "PUT" | .delete => "DELETE"
  | .connect => "CONNECT" | .options => "OPTIONS" | .trace => "TRACE" | .patch => "PATCH"

/-- A request as the router sees it: the method, the detection path and the
`Authorization` header (empty when absent). -/
structure Request where
  method : Method
  path : String
  authorization : List UInt8

/-- An answer: its status and the message its JSON body carries. -/
structure Response where
  status : Nat
  message : String
  deriving DecidableEq, Repr

/-- A piece of a route's path: text matched as it is, or a `:param`, which
matches a non-empty run of characters up to the next `/`. -/
inductive Part where
  | lit (s : String)
  | param
  deriving DecidableEq, Repr

/-- A route's path: `use p`, from `Use(p, ...)` or a group with handlers, or the
path `exact ps` of `Get`, `Post`, `Delete`. -/
inductive Pattern where
  | use (p : String)
  | exact (ps : List Part)
  deriving DecidableEq, Repr

/-- A registered route: its path, the methods it is registered for and its
handlers. -/
structure Route (H : Type) where
  pattern : Pattern
  methods : List Method
  handlers : List H

/-- Fiber's match of a route path with parameters against a detection path. -/
def matchParts : List Part → List Char → Bool
  | [], cs => cs.isEmpty
  | .lit s :: ps, cs => s.data.isPrefixOf cs && matchParts ps (cs.drop s.length)
  | .param :: ps, cs =>
    let v := cs.takeWhile (· ≠ '/')
    !v.isEmpty && matchParts ps (cs.drop v.length)

/-- `Route.match`: a middleware route matches every path it begins; another
route matches its own path. -/
def Pattern.matches : Pattern → String → Bool
  | .use p, path => p.data.isPrefixOf path.data
  | .exact ps, path => matchParts ps path.data

def Pattern.isUse : Pattern → Bool
  | .use _ => true
  | .exact _ => false

variable {H : Type}

def Route.matches (r : Route H) (req : Request) : Bool :=
  req.method ∈ r.methods && r.pattern.matches req.path

/-- `app.methodExist`: a route that is not middleware, registered for another
method, matches the path. -/
def methodExist (stack : List (Route H)) (req : Request) : Bool :=
  stack.any fun r => !r.pattern.isUse && r.pattern.matches req.path && r.methods.any (· ≠ req.method)

/-- What `app.next` answers when no route is left, through `errorHandler`. -/
def notFound (stack : List (Route H)) (matched : Bool) (req : Request) : Response :=
  if !matched && methodExist stack req then ⟨405, "Method Not Allowed"⟩
  else ⟨404, "Cannot " ++ req.method.name ++ " " ++ req.path⟩

section Dispatch

variable (run : H → Request → Option Response) (req : Request)

/-- A matched route's handlers, with `k` what the routes after it give: a handler
answers (`some`) or calls `c.Next()` (`none`). The answer, and the handlers
that ran in order. -/
def runHandlers : List H → Response × List H → Response × List H
  | [], k => k
  | h :: hs, k =>
    match run h req with
    | some r => (r, [h])
    | none => ((runHandlers hs k).1, h :: (runHandlers hs k).2)

/-- `app.next` from the current route on; `matched` is whether a route that is
not middleware has matched. -/
def next (stack : List (Route H)) : Bool → List (Route H) → Response × List H
  | matched, [] => (notFound stack matched req, [])
  | matched, r :: rs =>
    if r.matches req then runHandlers run req r.handlers (next stack (matched || !r.pattern.isUse) rs)
    else next stack matched rs

/-- `app.handler`: the walk from the first route. -/
def serve (stack : List (Route H)) : Response × List H := next run req stack false stack

theorem runHandlers_of_pass {hs : List H} (h : ∀ x ∈ hs, run x req = none)
    (k : Response × List H) : runHandlers run req hs k = (k.1, hs ++ k.2) := by
  induction hs with
  | nil => rfl
  | cons x hs ih =>
    simp only [List.mem_cons, forall_eq_or_imp] at h
    simp only [runHandlers, h.1, ih h.2, List.cons_append]

theorem mem_runHandlers {hs : List H} {k : Response × List H} {x : H}
    (hx : x ∈ (runHandlers run req hs k).2) : x ∈ hs ∨ x ∈ k.2 := by
  induction hs with
  | nil => exact .inr hx
  | cons y hs ih =>
    simp only [runHandlers] at hx
    split at hx
    · exact .inl (List.mem_singleton.mp hx ▸ List.mem_cons_self _ _)
    · rcases List.mem_cons.mp hx with rfl | hx
      · exact .inl (List.mem_cons_self _ _)
      · exact (ih hx).imp_left (List.mem_cons_of_mem _)

/-- Two continuations that agree up to the handlers `dropH` names give the same
answer through handlers it does not name. -/
theorem runHandlers_congr (dropH : H → Bool) {hs : List H} (hk : ∀ x ∈ hs, dropH x = false)
    {k k' : Response × List H} (h₁ : k.1 = k'.1) (h₂ : k.2.filter (!dropH ·) = k'.2) :
    (runHandlers run req hs k).1 = (runHandlers run req hs k').1 ∧
      (runHandlers run req hs k).2.filter (!dropH ·) = (runHandlers run req hs k').2 := by
  induction hs with
  | nil => exact ⟨h₁, h₂⟩
  | cons x hs ih =>
    simp only [List.mem_cons, forall_eq_or_imp] at hk
    simp only [runHandlers]
    split
    · simp [hk.1]
    · simp [hk.1, ih hk.2]

theorem methodExist_filter (stack : List (Route H)) (drop : Route H → Bool)
    (huse : ∀ r ∈ stack, drop r = true → r.pattern.isUse = true) :
    methodExist (stack.filter (!drop ·)) req = methodExist stack req := by
  simp only [methodExist, List.any_filter]
  induction stack with
  | nil => rfl
  | cons r rs ih =>
    simp only [List.mem_cons, forall_eq_or_imp] at huse
    simp only [List.any_cons, ih huse.2]
    cases hd : drop r
    · rfl
    · simp [huse.1 hd]

/-- Erasing middleware routes that hand this request on, or do not match it,
changes neither the answer nor, up to their own handlers, the handlers that
run. -/
theorem next_filter (stack : List (Route H)) (drop : Route H → Bool) (dropH : H → Bool)
    (huse : ∀ r ∈ stack, drop r = true → r.pattern.isUse = true) :
    ∀ (rs : List (Route H)) (matched : Bool),
    (∀ r ∈ rs, drop r = true →
      r.pattern.isUse = true ∧ (r.matches req = true → ∀ x ∈ r.handlers, run x req = none)) →
    (∀ r ∈ rs, ∀ x ∈ r.handlers, dropH x = drop r) →
    (next run req stack matched rs).1 =
        (next run req (stack.filter (!drop ·)) matched (rs.filter (!drop ·))).1 ∧
      (next run req stack matched rs).2.filter (!dropH ·) =
        (next run req (stack.filter (!drop ·)) matched (rs.filter (!drop ·))).2
  | [], matched, _, _ => by simp [next, notFound, methodExist_filter req stack drop huse]
  | r :: rs, matched, hdrop, hH => by
    simp only [List.mem_cons, forall_eq_or_imp] at hdrop hH
    have ih := fun m => next_filter stack drop dropH huse rs m hdrop.2 hH.2
    cases hd : drop r
    · have hk : ∀ x ∈ r.handlers, dropH x = false := fun x hx => (hH.1 x hx).trans hd
      simp only [List.filter_cons, hd, Bool.not_false, if_true, next]
      split
      · exact runHandlers_congr run req dropH hk (ih _).1 (ih _).2
      · exact ih matched
    · obtain ⟨hu, hp⟩ := hdrop.1 hd
      simp only [List.filter_cons, hd, Bool.not_true, Bool.false_eq_true, if_false, next]
      split
      · rw [runHandlers_of_pass run req (hp ‹_›), hu, Bool.not_true, Bool.or_false]
        have hk : ∀ x ∈ r.handlers, dropH x = true := fun x hx => (hH.1 x hx).trans hd
        refine ⟨(ih matched).1, ?_⟩
        rw [List.filter_append, List.filter_eq_nil_iff.mpr (by simpa using hk), List.nil_append]
        exact (ih matched).2
      · exact ih matched

theorem next_cons_of_not_matches (stack : List (Route H)) (m : Bool) {r : Route H}
    (rs : List (Route H)) (h : r.matches req = false) :
    next run req stack m (r :: rs) = next run req stack m rs := by
  simp [next, h]

/-- A matching route whose only handler answers ends the walk. -/
theorem next_cons_of_answers (stack : List (Route H)) (m : Bool) {r : Route H} {x : H}
    {a : Response} (rs : List (Route H)) (hr : r.matches req = true) (hx : r.handlers = [x])
    (ha : run x req = some a) : next run req stack m (r :: rs) = (a, [x]) := by
  simp [next, hr, hx, runHandlers, ha]

/-- Middleware in front of the walk: the handlers that run are theirs or those of
the rest of the walk, and when theirs all hand on the answer is the rest's. -/
theorem next_append_middleware (stack : List (Route H)) (m : Bool) (rest : List (Route H)) :
    ∀ pre : List (Route H), (∀ r ∈ pre, r.pattern.isUse = true) →
    (∀ x ∈ (next run req stack m (pre ++ rest)).2,
        (∃ r ∈ pre, x ∈ r.handlers) ∨ x ∈ (next run req stack m rest).2) ∧
      ((∀ r ∈ pre, ∀ x ∈ r.handlers, run x req = none) →
        (next run req stack m (pre ++ rest)).1 = (next run req stack m rest).1)
  | [], _ => ⟨fun _ hx => .inr hx, fun _ => rfl⟩
  | r :: pre, huse => by
    simp only [List.mem_cons, forall_eq_or_imp] at huse
    have ih := next_append_middleware stack m rest pre huse.2
    simp only [List.cons_append, next, huse.1, Bool.not_true, Bool.or_false]
    split
    · refine ⟨fun x hx => ?_, fun hp => ?_⟩
      · rcases mem_runHandlers run req hx with hx | hx
        · exact .inl ⟨r, List.mem_cons_self _ _, hx⟩
        · exact (ih.1 x hx).imp_left fun ⟨r', hr', hx'⟩ => ⟨r', List.mem_cons_of_mem _ hr', hx'⟩
      · simp only [List.mem_cons, forall_eq_or_imp] at hp
        rw [runHandlers_of_pass run req hp.1]
        exact ih.2 hp.2
    · exact ⟨fun x hx => (ih.1 x hx).imp_left fun ⟨r', hr', hx'⟩ =>
        ⟨r', List.mem_cons_of_mem _ hr', hx'⟩, fun hp => ih.2 fun r' hr' => hp r' (List.mem_cons_of_mem _ hr')⟩

end Dispatch

/-- `Get(path, handlers...)`: the route for `HEAD` and for `GET`. -/
def get (ps : List Part) (hs : List H) : Route H := ⟨.exact ps, [.head, .get], hs⟩

def post (ps : List Part) (hs : List H) : Route H := ⟨.exact ps, [.post], hs⟩

def delete (ps : List Part) (hs : List H) : Route H := ⟨.exact ps, [.delete], hs⟩

/-- `Use(p, handlers...)`, and `Group(p, handlers...)` with handlers: every method. -/
def use (p : String) (hs : List H) : Route H :=
  ⟨.use p, [.get, .head, .post, .put, .delete, .connect, .options, .trace, .patch], hs⟩

@[simp] theorem get_handlers (ps : List Part) (hs : List H) : (get ps hs).handlers = hs := rfl
@[simp] theorem post_handlers (ps : List Part) (hs : List H) : (post ps hs).handlers = hs := rfl
@[simp] theorem delete_handlers (ps : List Part) (hs : List H) : (delete ps hs).handlers = hs := rfl
@[simp] theorem use_handlers (p : String) (hs : List H) : (use p hs).handlers = hs := rfl

theorem matchParts_lit (s : String) (cs : List Char) :
    matchParts [.lit s] cs = true ↔ cs = s.data := by
  have hlen : s.length = s.data.length := rfl
  simp only [matchParts, Bool.and_eq_true, List.isPrefixOf_iff_prefix, List.isEmpty_iff, hlen]
  constructor
  · rintro ⟨⟨t, rfl⟩, ht⟩
    simpa using ht
  · rintro rfl
    simp

theorem use_matches (p : String) (hs : List H) (req : Request) :
    (use p hs).matches req = true ↔ p.data <+: req.path.data := by
  simp only [Route.matches, use, Pattern.matches, Bool.and_eq_true, decide_eq_true_eq,
    List.isPrefixOf_iff_prefix, and_iff_right_iff_imp]
  intro _
  cases req.method <;> simp

theorem get_lit_matches (s : String) (hs : List H) (req : Request) :
    (get [.lit s] hs).matches req = true ↔
      (req.method = .head ∨ req.method = .get) ∧ req.path = s := by
  simp only [Route.matches, get, Pattern.matches, Bool.and_eq_true, decide_eq_true_eq,
    List.mem_cons, List.mem_singleton, List.not_mem_nil, or_false, matchParts_lit,
    ← String.ext_iff]

end Fiber

/-! ## The app `api.New` builds -/

/-- The handlers on the app's routes. -/
inductive ApiHandler where
  | recover
  | logger
  | cors
  | servicesDashboard
  | health
  | apiKeyAuth (apiKeyHash : List UInt8)
  | generateCredentials
  | getICEServers
  | listPeers
  | getPeer
  | listServices
  | deleteService
  | rotateSecrets
  | wsMiddleware
  | webSocket
  | clientConnect
  deriving DecidableEq, Repr

section Argon2

variable (idKey : List UInt8 → List UInt8 → Nat → Nat → Nat → Nat → List UInt8)

/-- What a handler does: `APIKeyAuth` as `middleware.APIKeyAuth` does it, with
`ErrorUnauthorizedResp`'s 401; every other handler as `env` says, so that what
follows holds whatever they answer and whenever they hand on. -/
def ApiHandler.run (env : ApiHandler → Fiber.Request → Option Fiber.Response) :
    ApiHandler → Fiber.Request → Option Fiber.Response
  | .apiKeyAuth apiKeyHash, req =>
    match Arqut.apiKeyAuth idKey apiKeyHash req.authorization with
    | .ok () => none
    | .error message => some ⟨401, message⟩
  | h, req => env h req

end Argon2

/-- The global middleware of `api.New`: `recover`, the logger, and CORS when
`CORSOrigins` is non-empty. -/
def globalMiddleware (cors : Bool) : List (Fiber.Route ApiHandler) :=
  [Fiber.use "/" [.recover], Fiber.use "/" [.logger]] ++
    if cors then [Fiber.use "/" [.cors]] else []

/-- `setupRoutes` with `apiKeyHash` the configured `APIKey.Hash`; the signaling
routes come from `RegisterRoutes(api)` when the server has a signaling server,
as `runServer`'s always does. -/
def setupRoutes (signaling : Bool) (apiKeyHash : List UInt8) : List (Fiber.Route ApiHandler) :=
  [Fiber.get [.lit "/dashboard/services"] [.servicesDashboard],
    Fiber.get [.lit "/api/v1/health"] [.health],
    Fiber.use "/api/v1" [.apiKeyAuth apiKeyHash],
    Fiber.post [.lit "/api/v1/credentials"] [.generateCredentials],
    Fiber.get [.lit "/api/v1/ice-servers"] [.getICEServers],
    Fiber.get [.lit "/api/v1/peers"] [.listPeers],
    Fiber.get [.lit "/api/v1/peers/", .param] [.getPeer],
    Fiber.get [.lit "/api/v1/services"] [.listServices],
    Fiber.delete [.lit "/api/v1/services/", .param] [.deleteService],
    Fiber.use "/api/v1/admin" [.apiKeyAuth apiKeyHash],
    Fiber.post [.lit "/api/v1/admin/secrets"] [.rotateSecrets]] ++
    if signaling then
      [Fiber.get [.lit "/api/v1/signaling/ws/", .param] [.wsMiddleware, .webSocket],
        Fiber.post [.lit "/api/v1/signaling/client/connect"] [.clientConnect]]
    else []

/-- The routes of the app `api.New` builds, in the order they are registered. -/
def apiRoutes (cors signaling : Bool) (apiKeyHash : List UInt8) : List (Fiber.Route ApiHandler) :=
  globalMiddleware cors ++ setupRoutes signaling apiKeyHash

/-! ## The API-key guard -/

section Guard

variable (idKey : List UInt8 → List UInt8 → Nat → Nat → Nat → Nat → List UInt8)
  (env : ApiHandler → Fiber.Request → Option Fiber.Response) (cors signaling : Bool)
  (apiKeyHash : List UInt8) (req : Fiber.Request)

theorem globalMiddleware_isUse : ∀ r ∈ globalMiddleware cors, r.pattern.isUse = true := by
  unfold globalMiddleware
  split <;> simp [Fiber.use, Fiber.Pattern.isUse]

theorem mem_globalMiddleware_handlers {r : Fiber.Route ApiHandler} {x : ApiHandler}
    (hr : r ∈ globalMiddleware cors) (hx : x ∈ r.handlers) :
    x = .recover ∨ x = .logger ∨ x = .cors := by
  unfold globalMiddleware at hr
  split at hr <;> simp only [List.mem_append, List.mem_cons, List.mem_singleton,
    List.not_mem_nil, or_false] at hr <;> rcases hr with (rfl | rfl) | rfl <;>
    simp_all [Fiber.use]

/-- For every request to a path under `/api/v1` but `GET` or `HEAD /api/v1/health`
whose `Authorization` header `APIKeyAuth` refuses with `message`, and whatever
the other handlers do: no handler runs but the global middleware and the guard,
and when the global middleware hand on the answer is the guard's 401 with
`message`. The signaling routes `RegisterRoutes` adds under `/api/v1` are among
these paths. -/
theorem api_requests_need_key (hapi : "/api/v1".data <+: req.path.data)
    (hopen : ¬(req.path = "/api/v1/health" ∧ (req.method = .head ∨ req.method = .get)))
    {message : String} (hkey : apiKeyAuth idKey apiKeyHash req.authorization = .error message) :
    let r := Fiber.serve (ApiHandler.run idKey env) req (apiRoutes cors signaling apiKeyHash)
    (∀ x ∈ r.2, x = .recover ∨ x = .logger ∨ x = .cors ∨ x = .apiKeyAuth apiKeyHash) ∧
      ((∀ x ∈ [ApiHandler.recover, .logger, .cors], env x req = none) → r.1 = ⟨401, message⟩) := by
  intro r
  have hdash : (Fiber.get [.lit "/dashboard/services"] [ApiHandler.servicesDashboard]).matches req
      = false := by
    refine Bool.eq_false_iff.mpr fun h => ?_
    have hp := ((Fiber.get_lit_matches _ _ req).mp h).2 ▸ hapi
    exact absurd hp (by decide)
  have hhealth : (Fiber.get [.lit "/api/v1/health"] [ApiHandler.health]).matches req = false :=
    Bool.eq_false_iff.mpr fun h => hopen ((Fiber.get_lit_matches _ _ req).mp h).symm
  have hrest : Fiber.next (ApiHandler.run idKey env) req (apiRoutes cors signaling apiKeyHash) false
      (setupRoutes signaling apiKeyHash) = (⟨401, message⟩, [.apiKeyAuth apiKeyHash]) := by
    simp only [setupRoutes, List.cons_append]
    rw [Fiber.next_cons_of_not_matches _ _ _ _ _ hdash,
      Fiber.next_cons_of_not_matches _ _ _ _ _ hhealth]
    exact Fiber.next_cons_of_answers _ _ _ _ _ ((Fiber.use_matches _ _ req).mpr hapi) rfl
      (by simp [ApiHandler.run, hkey])
  have hg := Fiber.next_append_middleware (ApiHandler.run idKey env) req
    (apiRoutes cors signaling apiKeyHash) false (setupRoutes signaling apiKeyHash)
    (globalMiddleware cors) (globalMiddleware_isUse cors)
  rw [hrest] at hg
  refine ⟨fun x hx => ?_, fun hp => hg.2 fun g hg' x hx => ?_⟩
  · rcases hg.1 x hx with ⟨g, hg', hx'⟩ | hx'
    · exact (mem_globalMiddleware_handlers cors hg' hx').imp_right (.imp_right .inl)
    · exact .inr (.inr (.inr (List.mem_singleton.mp hx')))
  · rcases mem_globalMiddleware_handlers cors hg' hx with rfl | rfl | rfl <;> exact hp _ (by simp)

/-- An edge's WebSocket upgrade without an `Authorization` header, as the API
documentation's examples open it, is answered by the guard. -/
theorem websocket_upgrade_refused_without_key :
    let idKey : List UInt8 → List UInt8 → Nat → Nat → Nat → Nat → List UInt8 :=
      fun _ _ _ _ _ _ => []
    let env : ApiHandler → Fiber.Request → Option Fiber.Response := fun _ _ => none
    let req : Fiber.Request := ⟨.get, "/api/v1/signaling/ws/edge", []⟩
    ("/api/v1".data <+: req.path.data ∧
      ¬(req.path = "/api/v1/health" ∧ (req.method = .head ∨ req.method = .get)) ∧
      apiKeyAuth idKey [1] req.authorization = .error "Missing Authorization header") ∧
    let r := Fiber.serve (ApiHandler.run idKey env) req (apiRoutes false true [1])
    (∀ x ∈ r.2, x = .recover ∨ x = .logger ∨ x = .cors ∨ x = .apiKeyAuth [1]) ∧
      ((∀ x ∈ [ApiHandler.recover, .logger, .cors], env x req = none) →
        r.1 = ⟨401, "Missing Authorization header"⟩) := by
  intro idKey env req
  have hapi : "/api/v1".data <+: req.path.data := ⟨"/signaling/ws/edge".data, rfl⟩
  have hopen : ¬(req.path = "/api/v1/health" ∧ (req.method = .head ∨ req.method = .get)) :=
    by decide
  have hkey : apiKeyAuth idKey [1] req.authorization = .error "Missing Authorization header" := rfl
  exact ⟨⟨hapi, hopen, hkey⟩, api_requests_need_key idKey env false true [1] req hapi hopen hkey⟩

/-- The only routes with the guard as their handlers are the two guards. -/
theorem eq_guard_of_mem_apiRoutes : ∀ r ∈ apiRoutes cors signaling apiKeyHash,
    r.handlers = [.apiKeyAuth apiKeyHash] →
      r = Fiber.use "/api/v1" [.apiKeyAuth apiKeyHash] ∨
        r = Fiber.use "/api/v1/admin" [.apiKeyAuth apiKeyHash] := by
  rw [apiRoutes, List.forall_mem_append]
  constructor
  · cases cors <;>
      simp only [globalMiddleware, Bool.false_eq_true, if_false, if_true, List.append_nil,
        List.cons_append, List.nil_append, List.forall_mem_cons, List.not_mem_nil,
        Fiber.use_handlers, List.cons.injEq, reduceCtorEq, false_and, false_implies,
        implies_true, and_true, IsEmpty.forall_iff, forall_const]
  · cases signaling <;>
      simp only [setupRoutes, Bool.false_eq_true, if_false, if_true, List.append_nil,
        List.cons_append, List.nil_append, List.forall_mem_cons, List.not_mem_nil,
        false_implies, implies_true, and_true, Fiber.use_handlers, Fiber.get_handlers,
        Fiber.post_handlers, Fiber.delete_handlers, List.cons.injEq, reduceCtorEq, false_and,
        and_false, true_or, or_true, IsEmpty.forall_iff, forall_const]

/-- The guard's handler is on the guards and on no other route. -/
theorem guard_handlers : ∀ r ∈ apiRoutes cors signaling apiKeyHash, ∀ x ∈ r.handlers,
    (x = .apiKeyAuth apiKeyHash ↔ r.handlers = [.apiKeyAuth apiKeyHash]) := by
  rw [apiRoutes, List.forall_mem_append]
  constructor
  · cases cors <;>
      simp only [globalMiddleware, Bool.false_eq_true, if_false, if_true, List.append_nil,
        List.cons_append, List.nil_append, List.forall_mem_cons, List.not_mem_nil,
        Fiber.use_handlers, List.cons.injEq, reduceCtorEq, false_and, false_implies,
        implies_true, and_true, IsEmpty.forall_iff, forall_const, iff_self, and_self]
  · cases signaling <;>
      simp only [setupRoutes, Bool.false_eq_true, if_false, if_true, List.append_nil,
        List.cons_append, List.nil_append, List.forall_mem_cons, List.not_mem_nil,
        false_implies, implies_true, and_true, Fiber.use_handlers, Fiber.get_handlers,
        Fiber.post_handlers, Fiber.delete_handlers, List.cons.injEq, reduceCtorEq, false_and,
        and_false, IsEmpty.forall_iff, forall_const, iff_self, and_self, not_false_eq_true]

/-- For every request that `APIKeyAuth` admits, or whose path is not under
`/api/v1`, and whatever the other handlers do, the app answers as it would
without its two guards, and the same handlers run but the guards. -/
theorem guard_transparent
    (hpass : apiKeyAuth idKey apiKeyHash req.authorization = .ok () ∨
      ¬"/api/v1".data <+: req.path.data) :
    let guarded := Fiber.serve (ApiHandler.run idKey env) req (apiRoutes cors signaling apiKeyHash)
    let plain := Fiber.serve (ApiHandler.run idKey env) req
      ((apiRoutes cors signaling apiKeyHash).filter fun r => r.handlers ≠ [.apiKeyAuth apiKeyHash])
    guarded.1 = plain.1 ∧ guarded.2.filter (· ≠ .apiKeyAuth apiKeyHash) = plain.2 := by
  intro guarded plain
  have hguard : ∀ r ∈ apiRoutes cors signaling apiKeyHash,
      decide (r.handlers = [.apiKeyAuth apiKeyHash]) = true →
      r.pattern.isUse = true ∧ (r.matches req = true → ∀ x ∈ r.handlers,
        ApiHandler.run idKey env x req = none) := by
    intro r hr hd
    obtain ⟨p, hp, rfl⟩ : ∃ p, "/api/v1".data <+: p.data ∧
        r = Fiber.use p [.apiKeyAuth apiKeyHash] := by
      rcases eq_guard_of_mem_apiRoutes cors signaling apiKeyHash r hr (of_decide_eq_true hd)
        with rfl | rfl
      exacts [⟨_, List.prefix_refl _, rfl⟩, ⟨_, by decide, rfl⟩]
    refine ⟨rfl, fun hm x hx => ?_⟩
    rw [Fiber.use_handlers, List.mem_singleton] at hx
    have hok := hpass.resolve_right fun hout => hout (hp.trans ((Fiber.use_matches _ _ req).mp hm))
    simp [hx, ApiHandler.run, hok]
  have key := Fiber.next_filter (ApiHandler.run idKey env) req (apiRoutes cors signaling apiKeyHash)
    (fun r => decide (r.handlers = [.apiKeyAuth apiKeyHash]))
    (fun x => decide (x = .apiKeyAuth apiKeyHash)) (fun r hr hd => (hguard r hr hd).1)
    (apiRoutes cors signaling apiKeyHash) false hguard
    fun r hr x hx => decide_eq_decide.mpr (guard_handlers cors signaling apiKeyHash r hr x hx)
  simpa [guarded, plain, Fiber.serve] using key

/-- `GET /dashboard/services` without a key, outside `/api/v1`. -/
theorem dashboard_unaffected_by_guard :
    let idKey : List UInt8 → List UInt8 → Nat → Nat → Nat → Nat → List UInt8 :=
      fun _ _ _ _ _ _ => []
    let env : ApiHandler → Fiber.Request → Option Fiber.Response := fun _ _ => none
    let req : Fiber.Request := ⟨.get, "/dashboard/services", []⟩
    (apiKeyAuth idKey [1] req.authorization = .ok () ∨ ¬"/api/v1".data <+: req.path.data) ∧
    let guarded := Fiber.serve (ApiHandler.run idKey env) req (apiRoutes true true [1])
    let plain := Fiber.serve (ApiHandler.run idKey env) req
      ((apiRoutes true true [1]).filter fun r => r.handlers ≠ [.apiKeyAuth [1]])
    guarded.1 = plain.1 ∧ guarded.2.filter (· ≠ .apiKeyAuth [1]) = plain.2 := by
  intro idKey env req
  have hout : ¬"/api/v1".data <+: req.path.data := by decide
  exact ⟨.inr hout, guard_transparent idKey env true true [1] req (.inr hout)⟩

end Guard

end Arqut
