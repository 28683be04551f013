import WebRouting.Proofs.App.Filters
import WebRouting.Proofs.App.Views
import WebRouting.Proofs.Demo.Pages
import WebRouting.Proofs.Route.LastParam

/-! # Routes of the demonstration

The demonstration can be set up (`isOk_app`). Each of its routes is that of a page: it has the addresses
of the page, decodes their values with the filter of the page and answers with success whatever can be
decoded (`Shows`), or it is one of a fixed path (`IsFixed`). -/

namespace WebRouting.Demo

/-! ## Answers of handlers -/

/-- A response of success. -/
structure IsSuccess (response : Response) : Prop where
  /-- The status is that of success. -/
  status : response.status = 200
  /-- No methods are listed. -/
  allow : response.allow = none

/-- The methods of the route of a page. -/
def Page.Allows (page : Page) (method : String) : Prop :=
  method = "GET" ∨ page = .person ∧ (method = "PUT" ∨ method = "DELETE")

/-- A handler answers with success to what the filter of a page can decode, under the methods of the
page. -/
def Page.IsServedBy (page : Page) (handler : Handler) : Prop :=
  ∀ (c : Context) (value : String) (v : Value), page.Allows c.method →
    page.filter.decode value = .ok v → IsSuccess (handler.respond c [v])

theorem exists_bool_of_decode {raw : String} {v : Value} (h : Demo.bool.decode raw = .ok v) :
    ∃ b, v = .bool b := by
  change Filter.decodeWith "bool" (fun raw => (readBool? raw).map .bool) raw = .ok v at h
  rw [Filter.decodeWith] at h
  cases hread : readBool? raw with
  | none =>
    simp only [hread] at h
    cases h
  | some b =>
    simp only [hread] at h
    cases h
    exact ⟨b, rfl⟩

theorem isServedBy_hello : Page.hello.IsServedBy hello := by
  intro c value v _ h
  cases h
  exact ⟨rfl, rfl⟩

theorem isServedBy_age : Page.age.IsServedBy age := by
  intro c value v _ h
  obtain ⟨n, rfl⟩ := Filter.exists_int_of_decode h
  exact ⟨rfl, rfl⟩

theorem isServedBy_post : Page.post.IsServedBy post := by
  intro c value v _ h
  cases h
  exact ⟨rfl, rfl⟩

theorem isServedBy_flag : Page.flag.IsServedBy flag := by
  intro c value v _ h
  obtain ⟨b, rfl⟩ := exists_bool_of_decode h
  exact ⟨rfl, rfl⟩

theorem isServedBy_item : Page.item.IsServedBy item := by
  intro c value v _ h
  obtain ⟨n, rfl⟩ := Filter.exists_int_of_decode h
  exact ⟨rfl, rfl⟩

theorem isServedBy_price : Page.price.IsServedBy price := by
  intro c value v _ h
  obtain ⟨x, rfl⟩ := Filter.exists_float_of_decode h
  exact ⟨rfl, rfl⟩

/-- The view on persons answers as the handler for the method does. -/
theorem answer_persons {verb : Verb} {handler : Handler} (h : persons.handlers verb = some handler)
    {c : Context} (hmethod : c.method = verb.method) (values : List Value) :
    persons.answer c values = handler.answer c values := by
  rw [View.answer_eq (by rw [hmethod, Verb.ofMethod?_method]) h]

theorem isServedBy_persons {rule : String} {handler : Handler}
    (h : persons.handler rule = .ok handler) : Page.person.IsServedBy handler := by
  obtain ⟨-, hanswer⟩ := View.handler_eq_ok h
  intro c value v hmethod hdecode
  cases hdecode
  rw [Handler.respond, hanswer]
  rcases hmethod with hget | ⟨-, hput | hdelete⟩
  · have hhandler : persons.handlers .get = some showPerson := rfl
    rw [answer_persons hhandler hget]
    exact ⟨rfl, rfl⟩
  · have hhandler : persons.handlers .put = some updatePerson := rfl
    rw [answer_persons hhandler hput]
    exact ⟨rfl, rfl⟩
  · have hhandler : persons.handlers .delete = some deletePerson := rfl
    rw [answer_persons hhandler hdelete]
    exact ⟨rfl, rfl⟩

/-! ## Single routes -/

/-- A route is that of a page. -/
structure Shows (route : Route Handler) (page : Page) : Prop where
  /-- The rule is what stands before the value, and then one parameter. -/
  lastParam : route.LastParam page.root page.parameter page.filter
  /-- The methods are those of the page. -/
  allows : ∀ method, route.allows method = true ↔ page.Allows method
  /-- The handler answers to what can be decoded. -/
  served : page.IsServedBy route.handler

/-- A route is that of a fixed path. -/
structure IsFixed (route : Route Handler) (path : String) : Prop where
  /-- The path is one of the fixed paths. -/
  mem : path ∈ fixedPaths
  /-- The rule is the path. -/
  key : route.staticKey? = some path
  /-- The only method is GET. -/
  allows : ∀ method, route.allows method = true ↔ method = "GET"
  /-- The handler always answers. -/
  served : ∀ c, IsSuccess (route.handler.respond c [])

variable {a b : App} {page : Page} {rule : String} {handler : Handler} {own : Option RouteOptions}
  {route : Route Handler}

theorem allows_of_get {registry : Registry} (h : Route.Built registry rule ["GET"] route)
    (method : String) : route.allows method = true ↔ method = "GET" := by
  rw [h.allows, List.contains_iff_mem, List.mem_singleton]

theorem handler_of_build {registry : Registry} {methods : List String} {options : RouteOptions}
    (h : Route.build registry rule methods handler options = .ok route) : route.handler = handler := by
  obtain ⟨set, segments, matcher, -, -, -, -, rfl⟩ := Route.build_eq_ok h
  rfl

/-- A route for GET is that of a page if its rule and its handler are. -/
theorem shows_of_makes (h : App.Makes a (.route rule ["GET"] handler own) route)
    (hpage : page ≠ .person)
    (htokens : Rule.tokenize rule = [.literal page.root, .param page.kind page.parameter])
    (hfind : a.filters.find? page.kind = some page.filter) (hserved : page.IsServedBy handler) :
    Shows route page := by
  cases h with
  | route h =>
    have hbuilt := Route.built h
    refine ⟨hbuilt.lastParam htokens hfind page.segmental, ?_, ?_⟩
    · intro method
      rw [allows_of_get hbuilt, Page.Allows, or_iff_left fun hperson => hpage hperson.1]
    · rw [handler_of_build h]
      exact hserved

/-- A route whose rule is a text has the text as its path. -/
theorem staticKey?_of_built {registry : Registry} {methods : List String}
    (h : Route.Built registry rule methods route) (htokens : Rule.tokenize rule = [.literal rule]) :
    route.staticKey? = some rule := by
  have hsegments : route.compiled.segments = [.literal rule] := by
    have hcompile := h.segments
    rw [htokens] at hcompile
    simpa [Rule.compileTokens] using hcompile.symm
  have hstatic : route.compiled.isStatic = true := by
    rw [Rule.Compiled.isStatic, Rule.Compiled.params, hsegments]
    rfl
  have htext : route.compiled.text = rule := by
    rw [Rule.Compiled.text, hsegments]
    show String.join [rule] = rule
    rw [String.join_cons, String.join_nil, String.append_empty]
  have hmatcher := h.matcher
  rw [Matcher.ofCompiled?, if_pos hstatic, htext] at hmatcher
  rw [Route.staticKey?, ← Option.some.inj hmatcher]

/-- A route for GET whose rule is one of the fixed paths. -/
theorem isFixed_of_makes (h : App.Makes a (.route rule ["GET"] handler own) route)
    (hrule : rule ∈ fixedPaths) (htokens : Rule.tokenize rule = [.literal rule])
    (hserved : ∀ c, IsSuccess (handler.respond c [])) : IsFixed route rule := by
  cases h with
  | route h =>
    have hbuilt := Route.built h
    refine ⟨hrule, staticKey?_of_built hbuilt htokens, allows_of_get hbuilt, ?_⟩
    rw [handler_of_build h]
    exact hserved

theorem contains_methods_persons (method : String) :
    persons.methods.contains method = true ↔ Page.person.Allows method := by
  rw [View.contains_methods]
  constructor
  · rintro ⟨verb, handler, hhandler, rfl⟩
    cases verb with
    | get => exact .inl rfl
    | put => exact .inr ⟨rfl, .inl rfl⟩
    | delete => exact .inr ⟨rfl, .inr rfl⟩
    | post => cases hhandler
    | head => cases hhandler
    | options => cases hhandler
    | trace => cases hhandler
    | patch => cases hhandler
  · rintro (rfl | ⟨-, rfl | rfl⟩)
    · exact ⟨.get, showPerson, rfl, rfl⟩
    · exact ⟨.put, updatePerson, rfl, rfl⟩
    · exact ⟨.delete, deletePerson, rfl, rfl⟩

/-- The route of the view on persons. -/
theorem shows_of_makes_view (h : App.Makes a (.view rule persons own) route)
    (htokens : Rule.tokenize rule = [.literal "/person/", .param "default" "name"])
    (hfind : a.filters.find? "default" = some .string) : Shows route .person := by
  have hallows := App.allows_of_makes_view h
  cases h with
  | view hview h =>
    have hbuilt := Route.built h
    refine ⟨hbuilt.lastParam htokens hfind (Page.segmental .person), ?_, ?_⟩
    · intro method
      rw [hallows, contains_methods_persons]
    · rw [handler_of_build h]
      exact isServedBy_persons hview

/-! ## All routes -/

/-- The routes of an application are those of the pages. -/
structure HasPages (a : App) : Prop where
  /-- The indexes of the router are exact. -/
  indexed : a.router.Indexed
  /-- Each page has a route. -/
  pages : ∀ page, ∃ route ∈ a.routes, Shows route page
  /-- Each fixed path has a route. -/
  fixed : ∀ path ∈ fixedPaths, ∃ route ∈ a.routes, IsFixed route path
  /-- There are no other routes. -/
  only : ∀ route ∈ a.routes, (∃ path, IsFixed route path) ∨ ∃ page, Shows route page

/-- The filters of the demonstration. -/
def filters : Registry := (Registry.builtin.register "slug" slug).register "bool" Demo.bool

theorem find?_kind (page : Page) : filters.find? page.kind = some page.filter := by
  have hother {name : String} (hslug : "slug" ≠ name) (hbool : "bool" ≠ name) :
      filters.find? name = Registry.builtin.find? name := by
    rw [filters, Registry.find?_register_of_ne _ _ hbool, Registry.find?_register_of_ne _ _ hslug]
  cases page with
  | flag => exact Registry.find?_register_self ..
  | post =>
    show filters.find? "slug" = _
    rw [filters, Registry.find?_register_of_ne _ _ (by decide)]
    exact Registry.find?_register_self ..
  | hello => exact (hother (by decide) (by decide)).trans (Registry.find?_builtin _)
  | age => exact (hother (by decide) (by decide)).trans (Registry.find?_builtin _)
  | person => exact (hother (by decide) (by decide)).trans (Registry.find?_builtin _)
  | item => exact (hother (by decide) (by decide)).trans (Registry.find?_builtin _)
  | price => exact (hother (by decide) (by decide)).trans (Registry.find?_builtin _)

/-- The demonstration is set up in two steps, of which none fails. -/
theorem app_eq_ok {config : RoutingConfig} (h : app config = .ok a) :
    ∃ b, App.performAll { checking := config.checking } items = (b, none) ∧
      b.addGroup api = (a, none) := by
  unfold app at h
  cases hitems : App.performAll { checking := config.checking } items with
  | mk b failure =>
    rw [hitems] at h
    cases failure with
    | some e => cases h
    | none =>
      refine ⟨b, rfl, ?_⟩
      cases hgroup : b.addGroup api with
      | mk c failure =>
        simp only [hgroup] at h
        cases failure with
        | some e => cases h
        | none => cases h; rfl

/-- The routes before the group. -/
theorem exists_routes_items {checking : Bool} (h : App.performAll { checking } items = (a, none)) :
    ∃ start greeting years entry switch someone,
      a.router.routes = [start, greeting, years, entry, switch, someone] ∧ a.filters = filters ∧
      IsFixed start "/" ∧ Shows greeting .hello ∧ Shows years .age ∧ Shows entry .post ∧
      Shows switch .flag ∧ Shows someone .person := by
  let c : App := { filters, checking }
  have hrest : c.performAll (items.drop 2) = (a, none) := h
  obtain ⟨made, hmade, hroutes, hfilters, -⟩ := App.exists_made hrest (by decide)
  obtain _ | ⟨hstart, hmade⟩ := hmade
  obtain _ | ⟨hgreeting, hmade⟩ := hmade
  obtain _ | ⟨hyears, hmade⟩ := hmade
  obtain _ | ⟨hentry, hmade⟩ := hmade
  obtain _ | ⟨hswitch, hmade⟩ := hmade
  obtain _ | ⟨hsomeone, _ | _⟩ := hmade
  refine ⟨_, _, _, _, _, _, hroutes, hfilters, ?_, ?_, ?_, ?_, ?_, ?_⟩
  · exact isFixed_of_makes hstart (by decide) (by cbv) fun c => ⟨rfl, rfl⟩
  · exact shows_of_makes hgreeting (by decide) (by cbv) (find?_kind _) isServedBy_hello
  · exact shows_of_makes hyears (by decide) (by cbv) (find?_kind _) isServedBy_age
  · exact shows_of_makes hentry (by decide) (by cbv) (find?_kind _) isServedBy_post
  · exact shows_of_makes hswitch (by decide) (by cbv) (find?_kind _) isServedBy_flag
  · exact shows_of_makes_view hsomeone (by cbv) (find?_kind .person)

/-- The routes of the group, behind those before it. -/
theorem exists_routes_api (h : a.addGroup api = (b, none)) (hfilters : a.filters = filters) :
    ∃ state thing amount, b.router.routes = a.router.routes ++ [state, thing, amount] ∧
      IsFixed state "/api/status" ∧ Shows thing .item ∧ Shows amount .price := by
  have hgroup := App.addGroup_eq a api api.items
  cases hplaced : a.performAll (api.items.map (api.place a.defaultOptions)) with
  | mk c failure =>
    rw [hplaced] at hgroup
    have hboth := hgroup.symm.trans h
    cases failure with
    | some e => cases hboth
    | none =>
      cases hboth
      have hall : ∀ item ∈ api.items, item.rule?.isSome = true := by decide
      obtain ⟨made, hmade, hroutes, -⟩ := App.exists_made hplaced fun item hitem => by
        obtain ⟨member, hmember, rfl⟩ := List.mem_map.mp hitem
        rw [Item.rule?_place, Option.isSome_map]
        exact hall member hmember
      obtain _ | ⟨hstate, hmade⟩ := hmade
      obtain _ | ⟨hthing, hmade⟩ := hmade
      obtain _ | ⟨hamount, _ | _⟩ := hmade
      have hfind (page : Page) : a.filters.find? page.kind = some page.filter := by
        rw [hfilters]
        exact find?_kind page
      refine ⟨_, _, _, hroutes, ?_, ?_, ?_⟩
      · exact isFixed_of_makes hstate (by decide +kernel) (by cbv) fun c => ⟨rfl, rfl⟩
      · exact shows_of_makes hthing (by decide) (by cbv) (hfind _) isServedBy_item
      · exact shows_of_makes hamount (by decide) (by cbv) (hfind _) isServedBy_price

/-- The demonstration has the routes of its pages and no others. -/
theorem hasPages_app {config : RoutingConfig} (h : app config = .ok a) : HasPages a := by
  obtain ⟨b, hitems, hgroup⟩ := app_eq_ok h
  obtain ⟨start, greeting, years, entry, switch, someone, hfirst, hfilters, hstart, hgreeting, hyears,
    hentry, hswitch, hsomeone⟩ := exists_routes_items hitems
  obtain ⟨state, thing, amount, hroutes, hstate, hthing, hamount⟩ := exists_routes_api hgroup hfilters
  have hindexed : a.router.Indexed := by
    have hbefore := App.indexed_performAll (a := { checking := config.checking }) Router.Indexed.empty
      items
    rw [hitems] at hbefore
    have hafter := App.indexed_addGroup hbefore api
    rw [hgroup] at hafter
    exact hafter
  have hlist : a.routes =
      [start, greeting, years, entry, switch, someone, state, thing, amount] := by
    rw [App.routes, hroutes, hfirst]
    rfl
  refine ⟨hindexed, ?_, ?_, ?_⟩
  · intro page
    rw [hlist]
    cases page with
    | hello => exact ⟨greeting, by simp, hgreeting⟩
    | age => exact ⟨years, by simp, hyears⟩
    | post => exact ⟨entry, by simp, hentry⟩
    | flag => exact ⟨switch, by simp, hswitch⟩
    | person => exact ⟨someone, by simp, hsomeone⟩
    | item => exact ⟨thing, by simp, hthing⟩
    | price => exact ⟨amount, by simp, hamount⟩
  · intro path hpath
    rw [hlist]
    rcases List.mem_pair.mp hpath with rfl | rfl
    · exact ⟨start, by simp, hstart⟩
    · exact ⟨state, by simp, hstate⟩
  · intro route hroute
    rw [hlist] at hroute
    simp only [List.mem_cons, List.not_mem_nil, or_false] at hroute
    rcases hroute with rfl | rfl | rfl | rfl | rfl | rfl | rfl | rfl | rfl
    · exact .inl ⟨_, hstart⟩
    · exact .inr ⟨_, hgreeting⟩
    · exact .inr ⟨_, hyears⟩
    · exact .inr ⟨_, hentry⟩
    · exact .inr ⟨_, hswitch⟩
    · exact .inr ⟨_, hsomeone⟩
    · exact .inl ⟨_, hstate⟩
    · exact .inr ⟨_, hthing⟩
    · exact .inr ⟨_, hamount⟩

/-- The demonstration can be set up, be the number of parameters checked or not. -/
theorem isOk_app (config : RoutingConfig) : (app config).isOk = true := by
  have hboth : ∀ checking : Bool, (app ⟨checking⟩).isOk = true := by decide +kernel
  exact hboth config.checking

end WebRouting.Demo
