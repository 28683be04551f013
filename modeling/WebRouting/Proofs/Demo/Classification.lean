import WebRouting.Proofs.App.Order
import WebRouting.Proofs.Demo.Routes

/-! # What the demonstration answers

Every request to the demonstration gets one of four verdicts: success, a value that cannot be read, a path
that is not found, or a method that is refused. `Answers` says which, from the method and the decoded path
alone and without routes or patterns. The verdicts are right for every request with a body within the limit
(`respond_classified`), and no request at all makes the demonstration fail. -/

namespace WebRouting.Demo

/-! ## Verdicts -/

/-- What a request is answered. -/
inductive Verdict where
  /-- A handler answers. -/
  | success
  /-- The path is that of a page, but its value cannot be read. -/
  | malformed
  /-- The path is not found. -/
  | notFound
  /-- The path is there, but not under the method. -/
  | refused

namespace Verdict

/-- The status of a verdict. -/
def status : Verdict → Nat
  | success => 200
  | malformed => 400
  | notFound => 404
  | refused => 405

/-- The methods that are listed with a verdict. -/
def allow : Verdict → Option String
  | refused => some "GET"
  | _ => none

/-- A response is that of a verdict. -/
structure IsOf (v : Verdict) (response : Response) : Prop where
  /-- The status is that of the verdict. -/
  status : response.status = v.status
  /-- The methods that are listed are those of the verdict. -/
  allow : response.allow = v.allow

/-- A response is that of one verdict at most. -/
theorem IsOf.unique {v other : Verdict} {response : Response} (h : v.IsOf response)
    (hother : other.IsOf response) : other = v := by
  have hstatus : other.status = v.status := hother.status.symm.trans h.status
  cases v <;> cases other <;> first | rfl | cases hstatus

end Verdict

/-! ## Paths and methods -/

/-- The methods that pages have. -/
def pageMethods : List String := ["GET", "PUT", "DELETE"]

/-- A path is one of a page: what stands before the value, and then a value that fits. -/
def Page.Has (page : Page) (path : String) : Prop :=
  ∃ value, path = page.root ++ value ∧ page.Fits value

/-- A path is one of one page at most. -/
theorem Page.Has.unique {page other : Page} {path : String} (h : page.Has path)
    (hother : other.Has path) : other = page := by
  obtain ⟨value, rfl, -⟩ := h
  obtain ⟨text, heq, -⟩ := hother
  exact (Page.eq_of_append_eq heq).1.symm

theorem Page.Has.not_mem_fixedPaths {page : Page} {path : String} (h : page.Has path) :
    path ∉ fixedPaths := by
  obtain ⟨value, rfl, -⟩ := h
  exact page.append_not_mem_fixedPaths value

/-- The verdict on requests for a decoded path with a method. -/
inductive Answers (method : String) : String → Verdict → Prop where
  /-- A fixed path under GET. -/
  | fixed {path : String} (hpath : path ∈ fixedPaths) (hmethod : method = "GET") :
      Answers method path .success
  /-- A fixed path under another method. -/
  | fixedRefused {path : String} (hpath : path ∈ fixedPaths) (hmethod : method ≠ "GET") :
      Answers method path .refused
  /-- Any other path under a method that no page has. -/
  | otherMethod {path : String} (hpath : path ∉ fixedPaths) (hmethod : method ∉ pageMethods) :
      Answers method path .notFound
  /-- A page that has the method, with a value that can be read. -/
  | read {page : Page} {value : String} (hmethod : page.Allows method) (hvalue : page.Reads value) :
      Answers method (page.root ++ value) .success
  /-- A page that has the method, with a value that fits and cannot be read. -/
  | malformed {page : Page} {value : String} (hmethod : page.Allows method)
      (hfits : page.Fits value) (hvalue : ¬ page.Reads value) :
      Answers method (page.root ++ value) .malformed
  /-- A page that lacks the method while another one has it. Values are not read. -/
  | refused {page : Page} {path : String} (hmethod : ¬ page.Allows method)
      (hother : method ∈ pageMethods) (hpath : page.Has path) : Answers method path .refused
  /-- A path of no page. -/
  | unknown {path : String} (hpath : path ∉ fixedPaths) (hmethod : method ∈ pageMethods)
      (hnone : ∀ page : Page, ¬ page.Has path) : Answers method path .notFound

/-- Some page has a method exactly if it is listed. -/
theorem exists_page_allows_iff {method : String} :
    (∃ page : Page, page.Allows method) ↔ method ∈ pageMethods := by
  rw [pageMethods, List.mem_cons, List.mem_pair]
  constructor
  · rintro ⟨page, hget | ⟨-, hother⟩⟩
    · exact .inl hget
    · exact .inr hother
  · rintro (hget | hother)
    · exact ⟨.person, .inl hget⟩
    · exact ⟨.person, .inr ⟨rfl, hother⟩⟩

/-- Every request gets a verdict. -/
theorem exists_answers (method path : String) : ∃ v, Answers method path v := by
  by_cases hfixed : path ∈ fixedPaths
  · by_cases hget : method = "GET"
    · exact ⟨_, .fixed hfixed hget⟩
    · exact ⟨_, .fixedRefused hfixed hget⟩
  by_cases hmethod : method ∈ pageMethods
  swap
  · exact ⟨_, .otherMethod hfixed hmethod⟩
  by_cases hpage : ∃ page : Page, page.Has path
  swap
  · exact ⟨_, .unknown hfixed hmethod (not_exists.mp hpage)⟩
  obtain ⟨page, hhas⟩ := hpage
  by_cases hallows : page.Allows method
  · obtain ⟨value, rfl, hfits⟩ := hhas
    by_cases hreads : page.Reads value
    · exact ⟨_, .read hallows hreads⟩
    · exact ⟨_, .malformed hallows hfits hreads⟩
  · exact ⟨_, .refused hallows hmethod hhas⟩

/-! ## Routes and paths -/

section Routes

variable {route : Route Handler} {page : Page} {method path value : String}

theorem Shows.matchesPath_iff (h : Shows route page) :
    route.matchesPath path = true ↔ page.Has path := by
  rw [h.lastParam.matchesPath_iff]
  simp only [Page.accepts_iff]
  rfl

theorem Shows.belongsToMethod_iff (h : Shows route page) :
    Router.belongsToMethod method route = true ↔ page.Allows method := by
  rw [Router.belongsToMethod, h.lastParam.isStatic_eq, Bool.not_false, Bool.true_and, h.allows]

theorem IsFixed.belongsToPath_iff {key : String} (h : IsFixed route key) :
    Router.belongsToPath path route = true ↔ key = path := by
  rw [(Router.belongs_of_staticKey h.key path).1, beq_iff_eq]

theorem IsFixed.isStatic_eq {key : String} (h : IsFixed route key) : route.isStatic = true := by
  rw [Route.isStatic, h.key]
  rfl

/-- What the route of a page answers is what the filter of the page decodes. -/
theorem Shows.answer?_eq (h : Shows route page) (hmethod : page.Allows method)
    (hfits : page.Fits value) :
    Router.answer? (page.root ++ value) method route =
      some (match page.filter.decode value with
        | .ok v => .ok ⟨route, [v]⟩
        | .error e => .error (.badRequest route.rule page.parameter e)) := by
  have hmatch := h.lastParam.match?_eq ((h.allows method).mpr hmethod) (Page.accepts_iff.mpr hfits)
  rw [Router.answer?, hmatch]
  cases page.filter.decode value <;> rfl

end Routes

/-! ## What is resolved -/

/-- A verdict is right about what requests with a method are resolved to: the handler that is found
succeeds whatever else the requests have, or the response to the failure is that of the verdict. -/
inductive Verdict.Decides (method : String) :
    Verdict → Except ResolveError (Resolved Handler) → Prop where
  /-- A route is found. -/
  | found {found : Resolved Handler} (h : ∀ c : Context, c.method = method →
      IsSuccess (found.route.handler.respond c found.params)) : Decides method .success (.ok found)
  /-- No route is found. -/
  | failed {v : Verdict} {e : ResolveError} (h : v.IsOf e.response) : Decides method v (.error e)

/-- A refusal by routes for GET alone, at least one, lists GET alone. -/
theorem isOf_refused {path method : String} {routes : List (Route Handler)} {route : Route Handler}
    (hmem : route ∈ routes)
    (hget : ∀ other ∈ routes, ∀ name, other.allows name = true ↔ name = "GET") :
    Verdict.refused.IsOf
      (ResolveError.methodNotAllowed path method (Router.unionMethods routes)).response := by
  have hunion : Router.unionMethods routes = NameSet.ofNames ["GET"] := by
    apply Std.ExtTreeSet.ext_contains
    intro name
    rw [Router.contains_unionMethods, NameSet.contains_ofNames, Bool.eq_iff_iff, List.any_eq_true,
      List.contains_iff_mem, List.mem_singleton]
    constructor
    · rintro ⟨other, hother, hallows⟩
      exact (hget other hother name).mp hallows
    · intro hname
      exact ⟨route, hmem, (hget route hmem name).mpr hname⟩
  have hnames : (NameSet.ofNames ["GET"]).toList = ["GET"] := by decide +kernel
  refine ⟨rfl, ?_⟩
  show some (", ".intercalate (Router.unionMethods routes).toList) = some "GET"
  rw [hunion, hnames]
  rfl

namespace HasPages

variable {a : App} {page : Page} {method path value : String} {route : Route Handler}

/-- The routes without parameters for a path are those of a fixed path. -/
theorem isFixed_of_belongsToPath (h : HasPages a)
    (hroute : route ∈ a.router.routes.filter (Router.belongsToPath path)) : IsFixed route path := by
  obtain ⟨hmem, hpath⟩ := List.mem_filter.mp hroute
  rcases h.only route hmem with ⟨key, hfixed⟩ | ⟨page, hshows⟩
  · obtain rfl := hfixed.belongsToPath_iff.mp hpath
    exact hfixed
  · rw [Router.belongsToPath, hshows.lastParam.isStatic_eq] at hpath
    cases hpath

/-- The routes with parameters are those of pages. -/
theorem exists_shows (h : HasPages a) (hmem : route ∈ a.router.routes)
    (hdynamic : route.isStatic = false) : ∃ page, Shows route page := by
  rcases h.only route hmem with ⟨key, hfixed⟩ | hshows
  · rw [hfixed.isStatic_eq] at hdynamic
    cases hdynamic
  · exact hshows

theorem exists_shows_of_belongsToMethod (h : HasPages a)
    (hroute : route ∈ a.router.routes.filter (Router.belongsToMethod method)) :
    ∃ page, Shows route page ∧ page.Allows method := by
  obtain ⟨hmem, hmethod⟩ := List.mem_filter.mp hroute
  have hdynamic : route.isStatic = false := by
    rw [Router.belongsToMethod, Bool.and_eq_true, Bool.not_eq_true'] at hmethod
    exact hmethod.1
  obtain ⟨page, hshows⟩ := h.exists_shows hmem hdynamic
  exact ⟨page, hshows, hshows.belongsToMethod_iff.mp hmethod⟩

theorem filter_belongsToPath_eq_nil (h : HasPages a) (hpath : path ∉ fixedPaths) :
    a.router.routes.filter (Router.belongsToPath path) = [] := by
  apply List.eq_nil_iff_forall_not_mem.mpr
  intro route hroute
  exact hpath (h.isFixed_of_belongsToPath hroute).mem

theorem exists_mem_filter_belongsToMethod (h : HasPages a) (hmethod : page.Allows method) :
    ∃ route ∈ a.router.routes.filter (Router.belongsToMethod method), Shows route page := by
  obtain ⟨route, hmem, hshows⟩ := h.pages page
  exact ⟨route, List.mem_filter.mpr ⟨hmem, hshows.belongsToMethod_iff.mpr hmethod⟩, hshows⟩

/-- Requests for a fixed path are decided by routes for GET whose handlers always succeed. -/
theorem decides_fixed (h : HasPages a) (hpath : path ∈ fixedPaths) :
    (if method = "GET" then Verdict.success else .refused).Decides method
      (a.router.resolve path method) := by
  set candidates := a.router.routes.filter (Router.belongsToPath path) with hcandidates
  have hfixed : ∀ route ∈ candidates, IsFixed route path := by
    intro route hroute
    exact h.isFixed_of_belongsToPath hroute
  obtain ⟨route, hmem, hroute⟩ := h.fixed path hpath
  have hcandidate : route ∈ candidates :=
    List.mem_filter.mpr ⟨hmem, hroute.belongsToPath_iff.mpr rfl⟩
  rw [h.indexed.resolve_fixed (List.ne_nil_of_mem hcandidate), ← hcandidates, Router.resolveStatic]
  cases hfind : candidates.find? (·.allows method) with
  | some found =>
    have hfound := hfixed found (List.mem_of_find?_eq_some hfind)
    have hallows := List.find?_some hfind
    rw [if_pos ((hfound.allows method).mp hallows)]
    exact .found fun c _ => hfound.served c
  | none =>
    have hnone := List.find?_eq_none.mp hfind
    have hget : method ≠ "GET" := by
      intro hget
      exact hnone route hcandidate ((hroute.allows method).mpr hget)
    rw [if_neg hget]
    exact .failed (isOf_refused hcandidate fun other hother => (hfixed other hother).allows)

/-- Requests for a path of a page under a method of the page are decided by a route of the page, which
decodes the value. -/
theorem exists_resolve_eq (h : HasPages a) (hmethod : page.Allows method) (hfits : page.Fits value) :
    ∃ route, Shows route page ∧ a.router.resolve (page.root ++ value) method =
      match page.filter.decode value with
      | .ok v => .ok ⟨route, [v]⟩
      | .error e => .error (.badRequest route.rule page.parameter e) := by
  have hpage : page.Has (page.root ++ value) := ⟨value, rfl, hfits⟩
  have hfixed := h.filter_belongsToPath_eq_nil hpage.not_mem_fixedPaths
  obtain ⟨route, hroute, hshows⟩ := h.exists_mem_filter_belongsToMethod hmethod
  have hanswer : (Router.answer? (page.root ++ value) method route).isSome = true := by
    rw [hshows.answer?_eq hmethod hfits]
    rfl
  -- the route that answers first may be another one, but only of the same page
  obtain ⟨first, hfirst, hresolve⟩ := h.indexed.exists_answer?_eq hfixed hroute hanswer
  obtain ⟨other, hother, -⟩ := h.exists_shows_of_belongsToMethod hfirst
  have hsome := Router.isSome_answer? (page.root ++ value) method first
  rw [hresolve, Option.isSome_some, eq_comm, Bool.and_eq_true] at hsome
  obtain rfl : other = page := hpage.unique (hother.matchesPath_iff.mp hsome.2)
  rw [hother.answer?_eq hmethod hfits] at hresolve
  exact ⟨first, hother, (Option.some.inj hresolve).symm⟩

theorem decides_read (h : HasPages a) (hmethod : page.Allows method) (hreads : page.Reads value) :
    Verdict.success.Decides method (a.router.resolve (page.root ++ value) method) := by
  have hfits : page.Fits value := hreads.fits
  have hok := (Page.isOk_decode_iff hfits).mpr hreads
  obtain ⟨route, hshows, hresolve⟩ := h.exists_resolve_eq hmethod hfits
  rw [hresolve]
  cases hdecode : page.filter.decode value with
  | error e =>
    rw [hdecode] at hok
    cases hok
  | ok v =>
    refine .found ?_
    intro c hc
    have hallows : page.Allows c.method := hc ▸ hmethod
    exact hshows.served c value v hallows hdecode

theorem decides_malformed (h : HasPages a) (hmethod : page.Allows method) (hfits : page.Fits value)
    (hreads : ¬ page.Reads value) :
    Verdict.malformed.Decides method (a.router.resolve (page.root ++ value) method) := by
  have hok := (Page.isOk_decode_iff hfits).not.mpr hreads
  obtain ⟨route, -, hresolve⟩ := h.exists_resolve_eq hmethod hfits
  rw [hresolve]
  cases hdecode : page.filter.decode value with
  | ok v =>
    rw [hdecode] at hok
    exact absurd rfl hok
  | error e => exact .failed ⟨rfl, rfl⟩

/-- If no page has both a path and a method, no route answers requests for them. -/
theorem resolve_unanswered (h : HasPages a) (hpath : path ∉ fixedPaths)
    (hnone : ∀ page : Page, page.Has path → ¬ page.Allows method) :
    a.router.resolve path method =
      if a.router.routes.filter (Router.belongsToMethod method) = [] then .error (.notFound path)
      else .error (a.router.refusal path method) := by
  apply h.indexed.resolve_of_unanswered (h.filter_belongsToPath_eq_nil hpath)
  intro route hroute
  obtain ⟨page, hshows, hallows⟩ := h.exists_shows_of_belongsToMethod hroute
  have hmisses : route.matchesPath path = false := by
    rw [Bool.eq_false_iff]
    intro hmatches
    exact hnone page (hshows.matchesPath_iff.mp hmatches) hallows
  exact Router.answer?_of_not_matchesPath hmisses method

theorem decides_otherMethod (h : HasPages a) (hpath : path ∉ fixedPaths)
    (hmethod : method ∉ pageMethods) :
    Verdict.notFound.Decides method (a.router.resolve path method) := by
  have hnone : ∀ page : Page, ¬ page.Allows method :=
    not_exists.mp (exists_page_allows_iff.not.mpr hmethod)
  have hroutes : a.router.routes.filter (Router.belongsToMethod method) = [] := by
    apply List.eq_nil_iff_forall_not_mem.mpr
    intro route hroute
    obtain ⟨page, -, hallows⟩ := h.exists_shows_of_belongsToMethod hroute
    exact hnone page hallows
  rw [h.resolve_unanswered hpath fun page _ => hnone page, if_pos hroutes]
  exact .failed ⟨rfl, rfl⟩

/-- The routes with parameters that match a path are those of the pages that have it. -/
theorem mem_matching_iff (h : HasPages a) :
    route ∈ (a.router.routes.filter (!·.isStatic)).filter (·.matchesPath path) ↔
      route ∈ a.routes ∧ ∃ page, Shows route page ∧ page.Has path := by
  rw [List.mem_filter, List.mem_filter, Bool.not_eq_true', and_assoc]
  refine and_congr_right fun hmem => ?_
  constructor
  · rintro ⟨hdynamic, hmatches⟩
    obtain ⟨page, hshows⟩ := h.exists_shows hmem hdynamic
    exact ⟨page, hshows, hshows.matchesPath_iff.mp hmatches⟩
  · rintro ⟨page, hshows, hhas⟩
    exact ⟨hshows.lastParam.isStatic_eq, hshows.matchesPath_iff.mpr hhas⟩

/-- If no page that has the path has the method, but another page has it, the path is refused. -/
theorem resolve_refused (h : HasPages a) (hpath : path ∉ fixedPaths)
    (hmethod : method ∈ pageMethods) (hnone : ∀ page : Page, page.Has path → ¬ page.Allows method) :
    a.router.resolve path method = .error (a.router.refusal path method) := by
  obtain ⟨other, hallows⟩ := exists_page_allows_iff.mpr hmethod
  obtain ⟨route, hroute, -⟩ := h.exists_mem_filter_belongsToMethod hallows
  rw [h.resolve_unanswered hpath hnone, if_neg (List.ne_nil_of_mem hroute)]

theorem decides_unknown (h : HasPages a) (hpath : path ∉ fixedPaths) (hmethod : method ∈ pageMethods)
    (hnone : ∀ page : Page, ¬ page.Has path) :
    Verdict.notFound.Decides method (a.router.resolve path method) := by
  have hmatching :
      (a.router.routes.filter (!·.isStatic)).filter (·.matchesPath path) = [] := by
    apply List.eq_nil_iff_forall_not_mem.mpr
    intro route hroute
    obtain ⟨-, page, -, hhas⟩ := h.mem_matching_iff.mp hroute
    exact hnone page hhas
  rw [h.resolve_refused hpath hmethod fun page hhas => absurd hhas (hnone page), Router.refusal_eq,
    if_pos hmatching]
  exact .failed ⟨rfl, rfl⟩

theorem decides_refused (h : HasPages a) (hmethod : ¬ page.Allows method)
    (hother : method ∈ pageMethods) (hpath : page.Has path) :
    Verdict.refused.Decides method (a.router.resolve path method) := by
  -- the view on persons has all methods
  have hperson : page ≠ .person := by
    rintro rfl
    rcases List.mem_cons.mp hother with hget | hrest
    · exact hmethod (.inl hget)
    · exact hmethod (.inr ⟨rfl, List.mem_pair.mp hrest⟩)
  have hnone : ∀ other : Page, other.Has path → ¬ other.Allows method := by
    intro other hhas
    obtain rfl : other = page := hpath.unique hhas
    exact hmethod
  obtain ⟨route, hmem, hshows⟩ := h.pages page
  have hmatching := h.mem_matching_iff.mpr ⟨hmem, page, hshows, hpath⟩
  rw [h.resolve_refused hpath.not_mem_fixedPaths hother hnone, Router.refusal_eq,
    if_neg (List.ne_nil_of_mem hmatching)]
  refine .failed (isOf_refused hmatching ?_)
  intro other hmatches name
  obtain ⟨-, shown, hshown, hhas⟩ := h.mem_matching_iff.mp hmatches
  obtain rfl : shown = page := hpath.unique hhas
  rw [hshown.allows]
  exact or_iff_left fun hboth => hperson hboth.1

/-- The verdicts are right about what is resolved. -/
theorem decides (h : HasPages a) {v : Verdict} (hanswers : Answers method path v) :
    v.Decides method (a.router.resolve path method) := by
  cases hanswers with
  | fixed hpath hmethod =>
    have hverdict : (if method = "GET" then Verdict.success else .refused) = .success :=
      if_pos hmethod
    exact hverdict ▸ h.decides_fixed hpath
  | fixedRefused hpath hmethod =>
    have hverdict : (if method = "GET" then Verdict.success else .refused) = .refused :=
      if_neg hmethod
    exact hverdict ▸ h.decides_fixed hpath
  | otherMethod hpath hmethod => exact h.decides_otherMethod hpath hmethod
  | read hmethod hvalue => exact h.decides_read hmethod hvalue
  | malformed hmethod hfits hvalue => exact h.decides_malformed hmethod hfits hvalue
  | refused hmethod hother hpath => exact h.decides_refused hmethod hother hpath
  | unknown hpath hmethod hnone => exact h.decides_unknown hpath hmethod hnone

end HasPages

/-! ## Responses -/

section Responses

variable {a : App} {r : Request} {v : Verdict}

theorem Verdict.isOf_success {response : Response} (h : IsSuccess response) :
    Verdict.success.IsOf response :=
  ⟨h.status, h.allow⟩

/-- A verdict about what is resolved is one about the response, if the body is within the limit. -/
theorem Verdict.Decides.isOf_respond
    (h : v.Decides r.method (a.router.resolve (Url.decodePath r.target.path) r.method))
    (hsize : r.body.size ≤ bodyLimit) : v.IsOf (a.respond r) := by
  generalize hresolve : a.router.resolve (Url.decodePath r.target.path) r.method = outcome at h
  cases h with
  | found hserved =>
    rw [App.respond_of_fits hresolve hsize]
    exact isOf_success (hserved _ rfl)
  | failed hresponse =>
    rw [App.respond_of_error hresolve]
    exact hresponse

/-- The response is a failure of the server under no verdict, however large the body is. -/
theorem Verdict.Decides.status_ne
    (h : v.Decides r.method (a.router.resolve (Url.decodePath r.target.path) r.method)) :
    (a.respond r).status ≠ 500 := by
  by_cases hsize : r.body.size ≤ bodyLimit
  · rw [(h.isOf_respond hsize).status]
    cases v <;> decide
  · generalize hresolve : a.router.resolve (Url.decodePath r.target.path) r.method = outcome at h
    cases h with
    | found hserved =>
      rw [App.respond_of_tooLarge hresolve (Nat.lt_of_not_le hsize)]
      decide
    | failed hresponse =>
      rw [App.respond_of_error hresolve, hresponse.status]
      cases v <;> decide

end Responses

/-- **What the demonstration answers.** The demonstration can be set up, and none of its responses is a
failure of the server. Each request whose body is within the limit gets exactly one verdict from its method
and its decoded path, and its response has the status and the methods of this verdict. -/
theorem respond_classified (config : RoutingConfig) :
    ∃ a, app config = .ok a ∧ ∀ r : Request,
      (a.respond r).status ≠ 500 ∧
      (r.body.size ≤ bodyLimit →
        ∃ v : Verdict, (∀ other, Answers r.method (Url.decodePath r.target.path) other ↔ other = v) ∧
          (a.respond r).status = v.status ∧ (a.respond r).allow = v.allow) := by
  have hok := isOk_app config
  cases happ : app config with
  | error e =>
    rw [happ] at hok
    cases hok
  | ok a =>
    have hpages := hasPages_app happ
    refine ⟨a, rfl, ?_⟩
    intro r
    obtain ⟨v, hv⟩ := exists_answers r.method (Url.decodePath r.target.path)
    refine ⟨(hpages.decides hv).status_ne, ?_⟩
    intro hsize
    have hresponse := (hpages.decides hv).isOf_respond hsize
    refine ⟨v, ?_, hresponse.status, hresponse.allow⟩
    intro other
    constructor
    · -- another verdict would be right about the same response
      intro hother
      exact hresponse.unique ((hpages.decides hother).isOf_respond hsize)
    · rintro rfl
      exact hv

/-- An Arabic digit fits the page of ages and cannot be read. -/
theorem fits_arabicDigit : Page.age.Fits "٣" ∧ ¬ Page.age.Reads "٣" := by
  have hfits : Page.age.Fits "٣" := Page.accepts_iff.mp (by decide +kernel)
  refine ⟨hfits, fun hreads => ?_⟩
  have hok := (Page.isOk_decode_iff hfits).mpr hreads
  have hnone : (Page.age.filter.decode "٣").isOk = false := by decide +kernel
  rw [hnone] at hok
  cases hok

/-- A value that fits and cannot be read is reported under the method of its page only; a name that can be
read is answered under all methods. -/
theorem respond_classified_arabicDigit :
    ByteArray.empty.size ≤ bodyLimit ∧
    ∃ a, app {} = .ok a ∧
      (a.respond (App.plainRequest "GET" "/age/%D9%A3" .empty)).status = 400 ∧
      (a.respond (App.plainRequest "PUT" "/age/%D9%A3" .empty)).status = 405 ∧
      (a.respond (App.plainRequest "PUT" "/age/%D9%A3" .empty)).allow = some "GET" ∧
      (a.respond (App.plainRequest "PUT" "/person/Ada" .empty)).status = 200 := by
  have hsize : ByteArray.empty.size ≤ bodyLimit := by decide
  have hage : Url.decodePath "/age/%D9%A3" = Page.age.root ++ "٣" := by decide +kernel
  have hperson : Url.decodePath "/person/Ada" = Page.person.root ++ "Ada" := by decide +kernel
  obtain ⟨hfits, hreads⟩ := fits_arabicDigit
  have hname : Page.person.Reads "Ada" := by
    show "Ada" ≠ "" ∧ '/' ∉ "Ada".toList
    decide
  have hput : ¬ Page.age.Allows "PUT" := by simp [Page.Allows]
  obtain ⟨a, happ, hclassified⟩ := respond_classified {}
  obtain ⟨getAge, hgetAge, hbad, -⟩ :=
    (hclassified (App.plainRequest "GET" "/age/%D9%A3" .empty)).2 hsize
  obtain ⟨putAge, hputAge, hnot, hallow⟩ :=
    (hclassified (App.plainRequest "PUT" "/age/%D9%A3" .empty)).2 hsize
  obtain ⟨putPerson, hputPerson, hok, -⟩ :=
    (hclassified (App.plainRequest "PUT" "/person/Ada" .empty)).2 hsize
  obtain rfl := (hgetAge .malformed).mp (hage ▸ .malformed (.inl rfl) hfits hreads)
  obtain rfl := (hputAge .refused).mp (hage ▸ .refused hput (by decide) ⟨_, rfl, hfits⟩)
  obtain rfl := (hputPerson .success).mp (hperson ▸ .read (.inr ⟨rfl, .inl rfl⟩) hname)
  exact ⟨hsize, a, happ, hbad, hnot, hallow, hok⟩

end WebRouting.Demo
