import WebRouting.Demo
import WebRouting.Proofs.App.Views

/-! # The order of checks

A request can fail in many ways at once: its path is that of no route, its method is missing, a part of
the path cannot be decoded, its body is too large, its handler takes another number of values. The checks
have a fixed order, and each sees only its own part of the request: routing sees the method and the
decoded path (`App.respond_of_error`), then the size of the body counts
(`App.respond_of_tooLarge`), and only then the handler is called (`App.respond_of_fits`). -/

namespace WebRouting

/-! ## Responses to failures of routing -/

/-- The response to a failure of routing, in words. A refusal lists its methods in increasing order. -/
inductive ResolveError.Gives : ResolveError → Response → Prop where
  /-- A path that is not found. -/
  | notFound {path : String} : Gives (.notFound path) (.text "Not Found" 404)
  /-- A method that is not allowed. -/
  | methodNotAllowed {path method : String} {allowed : NameSet} {names : List String}
      (hsorted : names.Pairwise (· < ·)) (hmem : ∀ name, name ∈ names ↔ name ∈ allowed) :
      Gives (.methodNotAllowed path method allowed)
        { status := 405
          allow := some (", ".intercalate names)
          contentType := some "text/plain; charset=utf-8"
          body := "Method Not Allowed" }
  /-- A value that cannot be decoded. -/
  | badRequest {rule param : String} {source : DecodeError} :
      Gives (.badRequest rule param source)
        (.text ("Bad Request: bad value for parameter '" ++ param ++ "' of rule '" ++ rule ++ "': " ++
          source.message) 400)

theorem ResolveError.gives_response (e : ResolveError) : e.Gives e.response := by
  cases e with
  | notFound path => exact .notFound
  | methodNotAllowed path method allowed =>
    have hsorted : allowed.toList.Pairwise (· < ·) := NameSet.pairwise_toList allowed
    have hmem : ∀ name, name ∈ allowed.toList ↔ name ∈ allowed := by
      intro name
      exact Std.ExtTreeSet.mem_toList
    exact .methodNotAllowed hsorted hmem
  | badRequest rule param source =>
    have hstart : "Bad Request: bad value for parameter '" =
        "Bad Request: " ++ "bad value for parameter '" := by
      decide
    have hend : "': " = "'" ++ ": " := by
      decide
    have hgives := @Gives.badRequest rule param source
    rw [hstart, hend] at hgives
    show (badRequest rule param source).Gives (.text ("Bad Request: " ++
      ("bad value for parameter '" ++ param ++ "' of rule '" ++ rule ++ "'") ++ ": " ++
        source.message) 400)
    simp only [String.append_assoc] at hgives ⊢
    exact hgives

/-! ## Requests -/

/-- Whether a request is for a decoded path with a method. Of its target only the path counts, of its
path only what it is decoded to. -/
structure Request.IsFor (r : Request) (method path : String) : Prop where
  /-- The method. -/
  method : r.method = method
  /-- The path. -/
  path : Url.decodePath r.target.path = path

/-- The context of a request has the path that it is routed by and the body as it arrived. -/
theorem Context.ofRequest_of_isFor {r : Request} {method path : String} (h : r.IsFor method path) :
    (Context.ofRequest r).method = method ∧ (Context.ofRequest r).path = path ∧
      (Context.ofRequest r).body = r.body :=
  ⟨h.method, h.path, rfl⟩

namespace App

variable {a : App} {r : Request} {found : Resolved Handler}

/-! ## Answers -/

/-- A body that is too large is refused whatever the handler is. -/
theorem respond_of_tooLarge
    (h : a.router.resolve (Url.decodePath r.target.path) r.method = .ok found)
    (hsize : bodyLimit < r.body.size) : a.respond r = .text "Payload Too Large" 413 := by
  have hanswer : a.answer r = .error .tooLarge := by
    rw [answer, h]
    exact if_pos hsize
  rw [respond, hanswer]
  rfl

/-- Any other body is left to the handler. -/
theorem respond_of_fits (h : a.router.resolve (Url.decodePath r.target.path) r.method = .ok found)
    (hsize : r.body.size ≤ bodyLimit) :
    a.respond r = found.route.handler.respond (.ofRequest r) found.params := by
  have hanswer : a.answer r =
      (found.route.handler.answer (.ofRequest r) found.params).mapError .unhandled := by
    rw [answer, h]
    exact if_neg (Nat.not_lt.mpr hsize)
  rw [respond, hanswer, Handler.respond]
  cases found.route.handler.answer (.ofRequest r) found.params <;> rfl

/-- What an application finds is one of its routes, which matches the request. -/
theorem resolve_eq_ok {checking : Bool} {script : List Step} {path method : String}
    (h : (App.setUp { checking } script).router.resolve path method = .ok found) :
    found.route ∈ (App.setUp { checking } script).routes ∧
      found.route.match? path method = some (.ok found.params) := by
  have hindexed := indexed_setUp checking script
  rw [hindexed.resolve_eq_scan] at h
  exact Router.scan_eq_ok h

/-- **The order of checks.** Method and decoded path decide how a request is routed. If this fails, all
requests for them get one response, whatever their queries, headers and bodies are. If it finds a route,
the route matches; then a body above the limit is refused, whatever the handler is, and any other body is
given to the handler whole, with the path that was matched and the values that were decoded. -/
theorem respond_order (checking : Bool) (script : List Step) (method path : String) :
    let a := App.setUp { checking } script
    match a.router.resolve path method with
    | .error e =>
      ∃ response, e.Gives response ∧ ∀ r : Request, r.IsFor method path → a.respond r = response
    | .ok found =>
      (found.route ∈ a.routes ∧ found.route.match? path method = some (.ok found.params)) ∧
      ∀ r : Request, r.IsFor method path →
        (bodyLimit < r.body.size → a.respond r = .text "Payload Too Large" 413) ∧
        (r.body.size ≤ bodyLimit →
          ∃ c : Context, (c.method = method ∧ c.path = path ∧ c.body = r.body ∧
            c.headers = r.headers ∧ c.query = Url.parseQuery r.target.query ∧
            c.cookies = readCookies (r.headers.all "cookie")) ∧
            a.respond r = found.route.handler.respond c found.params) := by
  intro a
  cases hresolve : a.router.resolve path method with
  | error e =>
    refine ⟨e.response, e.gives_response, ?_⟩
    intro r hr
    apply respond_of_error
    rw [hr.path, hr.method]
    exact hresolve
  | ok found =>
    refine ⟨resolve_eq_ok hresolve, ?_⟩
    intro r hr
    have hfound : a.router.resolve (Url.decodePath r.target.path) r.method = .ok found := by
      rw [hr.path, hr.method]
      exact hresolve
    constructor
    · intro hsize
      exact respond_of_tooLarge hfound hsize
    · intro hsize
      obtain ⟨hmethod, hpath, hbody⟩ := Context.ofRequest_of_isFor hr
      exact ⟨.ofRequest r, ⟨hmethod, hpath, hbody, rfl, rfl, rfl⟩, respond_of_fits hfound hsize⟩

/-- A handler with two parameters. -/
def pair : Handler := .typed "pair" [.string, .int64] fun _ (name, age, ()) =>
  .ok (name ++ (Value.int age).text)

/-- A rule with one parameter for it, which is not checked, and the start page. -/
def unchecked : List Step :=
  [.item (.route "/hello/<name>" ["GET"] pair (some { checking := false })),
   .item (Demo.get "/" Demo.index)]

/-- A request without query and headers. -/
def plainRequest (method path : String) (body : ByteArray) : Request where
  method
  target := ⟨path, none⟩
  headers := {}
  body

/-- A body above the limit. -/
def largeBody : ByteArray := ⟨Array.replicate (bodyLimit + 1) 0⟩

theorem isFor_plainRequest (method : String) {raw path : String} (h : Url.decodePath raw = path)
    (body : ByteArray) : (plainRequest method raw body).IsFor method path :=
  ⟨rfl, h⟩

/-- Several failures at once: a large body counts before the wrong number of parameters, and a missing
method before a large body, which changes nothing then. -/
theorem respond_order_unchecked :
    bodyLimit < largeBody.size ∧
    (App.setUp {} unchecked).respond (plainRequest "GET" "/hello/A%64a" largeBody) =
      .text "Payload Too Large" 413 ∧
    (∃ (handler : Handler) (c : Context) (values : List Value), c.path = "/hello/Ada" ∧
      (App.setUp {} unchecked).respond (plainRequest "GET" "/hello/A%64a" .empty) =
        handler.respond c values ∧
      handler.respond c values = .text "Internal Server Error" 500) ∧
    (App.setUp {} unchecked).respond (plainRequest "PUT" "/" largeBody) =
      .methodNotAllowed ["GET"] := by
  have hlarge : bodyLimit < largeBody.size := by simp [largeBody, ByteArray.size]
  have hsmall : ByteArray.empty.size ≤ bodyLimit := by decide
  have hname : Url.decodePath "/hello/A%64a" = "/hello/Ada" := by decide +kernel
  have hroot : Url.decodePath "/" = "/" := by decide +kernel
  have hhello := respond_order true unchecked "GET" "/hello/Ada"
  have hstart := respond_order true unchecked "PUT" "/"
  refine ⟨hlarge, ?_⟩
  have hfound : ((App.setUp {} unchecked).router.resolve "/hello/Ada" "GET").isOk = true := by
    decide +kernel
  have hrefused : ((App.setUp {} unchecked).router.resolve "/" "PUT").isOk = false := by
    decide +kernel
  cases hresolve : (App.setUp {} unchecked).router.resolve "/hello/Ada" "GET" with
  | error e => rw [hresolve] at hfound; cases hfound
  | ok found =>
    cases hrefuse : (App.setUp {} unchecked).router.resolve "/" "PUT" with
    | ok other => rw [hrefuse] at hrefused; cases hrefused
    | error e =>
      simp only [hresolve] at hhello
      simp only [hrefuse] at hstart
      obtain ⟨-, hhello⟩ := hhello
      obtain ⟨response, -, hstart⟩ := hstart
      refine ⟨?_, ?_, ?_⟩
      · exact (hhello _ (isFor_plainRequest "GET" hname largeBody)).1 hlarge
      · have hcount :
            (App.setUp {} unchecked).respond (plainRequest "GET" "/hello/A%64a" .empty) =
              .text "Internal Server Error" 500 := by
          decide +kernel
        obtain ⟨c, ⟨-, hpath, -⟩, hrespond⟩ :=
          (hhello _ (isFor_plainRequest "GET" hname .empty)).2 hsmall
        exact ⟨_, c, _, hpath, hrespond, hrespond.symm.trans hcount⟩
      · have hempty : (App.setUp {} unchecked).respond (plainRequest "PUT" "/" .empty) =
            .methodNotAllowed ["GET"] := by
          decide +kernel
        rw [hstart _ (isFor_plainRequest "PUT" hroot largeBody), ← hempty,
          hstart _ (isFor_plainRequest "PUT" hroot .empty)]

end App

end WebRouting
