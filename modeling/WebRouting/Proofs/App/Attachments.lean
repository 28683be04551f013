import WebRouting.Demo
import WebRouting.Proofs.App.Setup
import WebRouting.Proofs.Handler.Faults
import WebRouting.Proofs.Route.Faults
import WebRouting.Proofs.Text.LastEntry
import WebRouting.Proofs.Text.Letter
import WebRouting.Proofs.Url.Percent

/-! # Attached handlers

A view is made by attaching handlers to verbs one after another, and the last handler of each verb
counts (`View.handlers_attach`). If two of these take different numbers of parameters, the view stands
for no handler (`View.exists_firstDisagreement`). Otherwise it stands for one, which finds the verb of
a method in any case (`Verb.ofMethod?_eq_some_iff`) and answers as the verb's handler does
(`View.standsFor_of_handler`). -/

namespace WebRouting

variable {attachments : List (Verb × Handler)} {verb : Verb} {first other handler : Handler}
  {name rule method s t : String}

/-! ## Methods in any case -/

/-- The texts are equal but for the case of ASCII letters. -/
def EqIgnoringCase (s t : String) : Prop := s.map Char.toLower = t.map Char.toLower

instance (s t : String) : Decidable (EqIgnoringCase s t) := inferInstanceAs (Decidable (_ = _))

theorem toUpper_toLower (c : Char) : c.toLower.toUpper = c.toUpper := by
  rw [← Char.toNat_inj, toNat_toUpper, toNat_toUpper, toNat_toLower, UInt32.size]
  split_ifs <;> omega

theorem toLower_toUpper (c : Char) : c.toUpper.toLower = c.toLower := by
  rw [← Char.toNat_inj, toNat_toLower, toNat_toLower, toNat_toUpper, UInt32.size]
  split_ifs <;> omega

/-- Texts are compared in capitals as well as in small letters. -/
theorem eqIgnoringCase_iff : EqIgnoringCase s t ↔ s.map Char.toUpper = t.map Char.toUpper := by
  have hupper : Char.toUpper ∘ Char.toLower = Char.toUpper := funext toUpper_toLower
  have hlower : Char.toLower ∘ Char.toUpper = Char.toLower := funext toLower_toUpper
  constructor
  · intro h
    rw [← hupper, ← String.map_map, h, String.map_map]
  · intro h
    rw [EqIgnoringCase, ← hlower, ← String.map_map, h, String.map_map]

namespace Verb

theorem map_toUpper_method (verb : Verb) : verb.method.map Char.toUpper = verb.method := by
  cases verb <;> decide +kernel

/-- A method means the verb whose method it is in any case. -/
theorem ofMethod?_eq_some_iff : ofMethod? method = some verb ↔ EqIgnoringCase verb.method method := by
  rw [eqIgnoringCase_iff, map_toUpper_method]
  constructor
  · intro h
    simpa using List.find?_some h
  · intro h
    have hself := ofMethod?_method verb
    rwa [ofMethod?, map_toUpper_method, h] at hself

/-- The methods of verbs are verbs. -/
theorem isVerb_method (verb : Verb) : MethodSet.IsVerb verb.method := by
  rw [← MethodSet.isMethodName_iff]
  cases verb <;> decide +kernel

/-- The methods of verbs are in the order of their bytes. -/
theorem utf8Bytes_lt_of_lt {verb other : Verb} (h : verb.method < other.method) :
    Url.utf8Bytes verb.method.toList < Url.utf8Bytes other.method.toList := by
  have hall : ∀ verb ∈ all, ∀ other ∈ all, verb.method < other.method →
      Url.utf8Bytes verb.method.toList < Url.utf8Bytes other.method.toList := by
    decide +kernel
  exact hall verb (mem_all verb) other (mem_all other) h

end Verb

/-! ## Attachments -/

/-- All handlers that are attached in the end take the same number of parameters. -/
def HandlersAgree (attachments : List (Verb × Handler)) : Prop :=
  ∀ verb first, LastEntry attachments verb first →
    ∀ otherVerb other, LastEntry attachments otherVerb other → first.arity = other.arity

/-- Two of the handlers that are attached in the end are the first, in the order of verbs, that take
different numbers of parameters. -/
inductive FirstDisagreement (attachments : List (Verb × Handler)) : Handler → Handler → Prop where
  /-- The first handler of all, and the first that differs from it. -/
  | intro {before between after : List Verb} {verb otherVerb : Verb} {first other : Handler}
      (hall : Verb.all = before ++ verb :: (between ++ otherVerb :: after))
      (hbefore : ∀ v ∈ before, ∀ h, ¬LastEntry attachments v h)
      (hfirst : LastEntry attachments verb first)
      (hbetween : ∀ v ∈ between, ∀ h, LastEntry attachments v h → h.arity = first.arity)
      (hother : LastEntry attachments otherVerb other) (hne : other.arity ≠ first.arity) :
      FirstDisagreement attachments first other

/-- A handler does what the handlers that are attached in the end do. -/
structure StandsFor (attachments : List (Verb × Handler)) (handler : Handler) : Prop where
  /-- It takes as many parameters as each of them. -/
  arity : ∀ verb other, LastEntry attachments verb other → other.arity = handler.arity
  /-- It responds as the handler of the verb whose method it is asked for, in any case. -/
  responds : ∀ verb other, LastEntry attachments verb other → ∀ c params,
    EqIgnoringCase verb.method c.method → handler.respond c params = other.respond c params
  /-- For other methods it refuses and lists the methods of the verbs in the order of bytes. -/
  refuses : ∃ allowed : List String,
    (∀ method, method ∈ allowed ↔
      ∃ verb other, LastEntry attachments verb other ∧ verb.method = method) ∧
    allowed.Pairwise (fun s t => Url.utf8Bytes s.toList < Url.utf8Bytes t.toList) ∧
    ∀ c params,
      (∀ verb other, LastEntry attachments verb other → ¬EqIgnoringCase verb.method c.method) →
      handler.respond c params =
        { status := 405
          allow := some (", ".intercalate allowed)
          contentType := some "text/plain; charset=utf-8"
          body := "Method Not Allowed" }

namespace View

/-- The view with handlers that are attached one after another. -/
def attach (name : String) (attachments : List (Verb × Handler)) : View :=
  attachments.foldl (fun v attachment => v.on attachment.1 attachment.2) (empty name)

/-- For each verb the last handler counts. -/
theorem handlers_attach (name : String) : (attach name attachments).handlers verb = some handler ↔
    LastEntry attachments verb handler := by
  apply get_foldl_iff View.handlers
  · intro verb
    rfl
  · intro v attachment
    exact handlers_on_self v attachment.1 attachment.2
  · intro v attachment verb hverb
    exact handlers_on_of_ne v attachment.2 (Ne.symm hverb)

theorem handlers_attach_eq_none (name : String) : (attach name attachments).handlers verb = none ↔
    ∀ handler, ¬LastEntry attachments verb handler := by
  rw [Option.eq_none_iff_forall_ne_some]
  exact forall_congr' fun handler => not_congr (handlers_attach name)

theorem mem_attached_attach (name : String) : handler ∈ (attach name attachments).attached ↔
    ∃ verb, LastEntry attachments verb handler := by
  simp only [mem_attached, handlers_attach]

theorem name_attach (name : String) (attachments : List (Verb × Handler)) :
    (attach name attachments).name = name := by
  induction attachments using List.reverseRecOn with
  | nil => rfl
  | append_singleton attachments attachment ih =>
    rw [attach, List.foldl_append]
    exact ih

/-- The methods of the view are those of the verbs that have a handler. -/
theorem mem_methods_attach : method ∈ (attach name attachments).methods.toList ↔
    ∃ verb other, LastEntry attachments verb other ∧ verb.method = method := by
  rw [Std.ExtTreeSet.mem_toList, Std.ExtTreeSet.mem_iff_contains, contains_methods]
  simp only [handlers_attach]

/-! ## Disagreement -/

/-- What is found to disagree is the first disagreement. -/
theorem exists_firstDisagreement {expected found : Nat}
    (h : (attach name attachments).disagreement? = some (other, expected, found)) :
    ∃ first, FirstDisagreement attachments first other ∧ expected = first.arity ∧
      found = other.arity := by
  rw [disagreement?] at h
  cases hattached : (attach name attachments).attached with
  | nil => rw [hattached] at h; cases h
  | cons first rest =>
    rw [hattached] at h
    obtain ⟨other, hfind, hother⟩ := Option.map_eq_some_iff.mp h
    cases hother
    obtain ⟨before, verb, others, hall, hbefore, hfirst, hrest⟩ :=
      List.filterMap_eq_cons_iff.mp hattached
    obtain ⟨hne, same, more, rfl, hsame⟩ := List.find?_eq_some_iff_append.mp hfind
    obtain ⟨between, others, rfl, hbetween, hrest⟩ := List.filterMap_eq_append_iff.mp hrest
    obtain ⟨skipped, otherVerb, after, rfl, hskipped, hlast, -⟩ := List.filterMap_eq_cons_iff.mp hrest
    simp only [handlers_attach_eq_none] at hbefore hskipped
    rw [handlers_attach] at hfirst hlast
    have hbetween : ∀ v ∈ between ++ skipped, ∀ h, LastEntry attachments v h →
        h.arity = first.arity := by
      intro v hv h hattached
      rcases List.mem_append.mp hv with hv | hv
      · have hmem : h ∈ same := by
          rw [← hbetween]
          exact List.mem_filterMap.mpr ⟨v, hv, (handlers_attach name).mpr hattached⟩
        simpa using hsame h hmem
      · exact absurd hattached (hskipped v hv h)
    rw [← List.append_assoc] at hall
    exact ⟨first, .intro hall hbefore hfirst hbetween hlast (by simpa using hne), rfl, rfl⟩

/-- A view finds a disagreement unless all its handlers agree. -/
theorem disagreement?_eq_none_iff (name : String) :
    (attach name attachments).disagreement? = none ↔ HandlersAgree attachments := by
  constructor
  · intro hnone verb first hfirst otherVerb other hother
    have hfirst := (mem_attached_attach name).mpr ⟨verb, hfirst⟩
    have hother := (mem_attached_attach name).mpr ⟨otherVerb, hother⟩
    rw [arity_of_disagreement? hnone hfirst, arity_of_disagreement? hnone hother]
  · intro hagree
    cases hfound : (attach name attachments).disagreement? with
    | none => rfl
    | some found =>
      obtain ⟨other, expected, arity⟩ := found
      obtain ⟨first, ⟨-, -, hfirst, -, hother, hne⟩, -⟩ := exists_firstDisagreement hfound
      exact absurd (hagree _ _ hother _ _ hfirst) hne

/-- If the handlers do not agree, the view has no handler, and the error is about the first that
differ. -/
theorem exists_handler_eq_error (h : ¬HandlersAgree attachments) (name rule : String) :
    ∃ first other, FirstDisagreement attachments first other ∧
      (attach name attachments).handler rule =
        .error (.arityMismatch rule (name ++ "." ++ other.name) first.arity other.arity) := by
  cases hfound : (attach name attachments).disagreement? with
  | none => exact absurd ((disagreement?_eq_none_iff name).mp hfound) h
  | some found =>
    obtain ⟨other, expected, arity⟩ := found
    obtain ⟨first, hfirst, rfl, rfl⟩ := exists_firstDisagreement hfound
    refine ⟨first, other, hfirst, ?_⟩
    rw [View.handler, hfound, name_attach]

/-! ## One handler -/

/-- The one handler of a view does what the handlers that are attached in the end do. -/
theorem standsFor_of_handler (h : (attach name attachments).handler rule = .ok handler) :
    StandsFor attachments handler := by
  obtain ⟨harity, hanswer⟩ := handler_eq_ok h
  refine ⟨?_, ?_, ?_⟩
  · intro verb other hother
    exact harity other ((mem_attached_attach name).mpr ⟨verb, hother⟩)
  · intro verb other hother c params hmethod
    rw [Handler.respond, hanswer,
      answer_eq (Verb.ofMethod?_eq_some_iff.mpr hmethod) ((handlers_attach name).mpr hother)]
    rfl
  · refine ⟨(attach name attachments).methods.toList, fun method => mem_methods_attach, ?_, ?_⟩
    · refine (NameSet.pairwise_toList _).imp_of_mem fun hs ht hlt => ?_
      obtain ⟨verb, -, -, rfl⟩ := mem_methods_attach.mp hs
      obtain ⟨otherVerb, -, -, rfl⟩ := mem_methods_attach.mp ht
      exact Verb.utf8Bytes_lt_of_lt hlt
    · intro c params hnone
      have hbind : (Verb.ofMethod? c.method).bind (attach name attachments).handlers = none := by
        rw [Option.bind_eq_none_iff]
        intro verb hverb
        rw [handlers_attach_eq_none]
        intro other hother
        exact hnone verb other hother (Verb.ofMethod?_eq_some_iff.mp hverb)
      rw [Handler.respond, hanswer, answer, hbind]
      rfl

/-- If the handlers agree, the view has one handler, with its own name. -/
theorem exists_handler_of_agree (h : HandlersAgree attachments) (name rule : String) :
    ∃ handler, (attach name attachments).handler rule = .ok handler ∧ handler.name = name := by
  rw [View.handler, (disagreement?_eq_none_iff name).mpr h]
  exact ⟨_, rfl, name_attach name attachments⟩

/-- A view with a handler has methods under which routes can be made. -/
theorem areVerbs_methods_attach (name : String) (h : attachments ≠ []) :
    MethodSet.AreVerbs (attach name attachments).methods.toList := by
  constructor
  · obtain ⟨verb, handler, hlast⟩ := exists_lastEntry h
    exact List.ne_nil_of_mem (mem_methods_attach.mpr ⟨verb, handler, hlast, rfl⟩)
  · intro method hmethod
    obtain ⟨verb, -, -, rfl⟩ := mem_methods_attach.mp hmethod
    exact Verb.isVerb_method verb

end View

/-! ## Registration -/

namespace App

variable {a : App} {options : RouteOptions}

/-- A route is added exactly if it can be made. -/
theorem exists_addRoute_iff {methods : List String} :
    (∃ b, a.addRoute rule methods handler options = .ok b) ↔
      Route.Buildable a.filters rule methods handler options := by
  constructor
  · rintro ⟨b, hadd⟩
    obtain ⟨route, hbuild, -⟩ := addRoute_eq_ok hadd
    exact Route.buildable_of_build hbuild
  · intro hbuildable
    obtain ⟨route, hbuild⟩ := hbuildable.exists_build
    rw [addRoute, hbuild]
    exact ⟨_, rfl⟩

/-- **Views made by attachments.** If two of the handlers that are attached in the end take different
numbers of parameters, no application takes the view, and the error names the first two that differ.
Without handlers no application takes it for lack of methods. Otherwise the view stands for one
handler, which does what the attached ones do; an application takes the view if it takes this handler
for the rule, and adds one route, to this handler and under the methods of the verbs that have a
handler. -/
theorem addView_attach (name : String) (attachments : List (Verb × Handler)) (rule : String) :
    (¬HandlersAgree attachments → ∃ first other, FirstDisagreement attachments first other ∧
      ∀ (a : App) options, a.addView rule (.attach name attachments) options =
        .error (.arityMismatch rule (name ++ "." ++ other.name) first.arity other.arity)) ∧
    (attachments = [] → ∀ (a : App) options, a.addView rule (.attach name attachments) options =
      .error (.invalidMethods rule .noMethod)) ∧
    (HandlersAgree attachments → attachments ≠ [] →
      ∃ handler : Handler, handler.name = name ∧ StandsFor attachments handler ∧
        ∀ (a : App) options,
          ((∃ b, a.addView rule (.attach name attachments) options = .ok b) ↔
            Rule.Sound a.filters (Rule.tokenize rule) ∧ Route.ArityAgrees rule handler options ∧
              Route.PatternAgrees a.filters rule) ∧
          ∀ b, a.addView rule (.attach name attachments) options = .ok b →
            ∃ route, b = { a with router := a.router.add route } ∧ route.rule = rule ∧
              route.handler = handler ∧
              ∀ method, route.allows method = true ↔
                ∃ verb other, LastEntry attachments verb other ∧ verb.method = method) := by
  refine ⟨fun hdisagree => ?_, ?_, fun hagree hne => ?_⟩
  · obtain ⟨first, other, hfirst, herror⟩ := View.exists_handler_eq_error hdisagree name rule
    refine ⟨first, other, hfirst, fun a options => ?_⟩
    rw [addView, herror]
    rfl
  · rintro rfl a options
    rfl
  · obtain ⟨handler, hhandler, hname⟩ := View.exists_handler_of_agree hagree name rule
    refine ⟨handler, hname, View.standsFor_of_handler hhandler, fun a options => ?_⟩
    rw [addView_of_handler hhandler]
    refine ⟨?_, fun b hb => ?_⟩
    · rw [exists_addRoute_iff]
      have hmethods := View.areVerbs_methods_attach name hne
      constructor
      · intro h
        exact ⟨h.placeholders, h.arity, h.pattern⟩
      · rintro ⟨hrule, harity, hpattern⟩
        exact ⟨hmethods, hrule, harity, hpattern⟩
    · obtain ⟨route, hbuild, rfl⟩ := addRoute_eq_ok hb
      refine ⟨route, rfl, (Route.built hbuild).rule, ?_, fun method => ?_⟩
      · obtain ⟨-, -, -, -, -, -, -, rfl⟩ := Route.build_eq_ok hbuild
        rfl
      · rw [(Route.built hbuild).allows, List.contains_iff_mem, View.mem_methods_attach]

/-- Two handlers with different numbers of parameters. -/
def unequalHandlers : List (Verb × Handler) := [(.put, Demo.showPerson), (.get, Demo.index)]

/-- Three handlers, the first of which is replaced by the last. -/
def replacedHandlers : List (Verb × Handler) :=
  [(.get, Demo.index), (.delete, Demo.deletePerson), (.get, Demo.showPerson)]

theorem addView_attach_replacedHandlers :
    ¬HandlersAgree unequalHandlers ∧ HandlersAgree replacedHandlers ∧ replacedHandlers ≠ [] ∧
      (∃ first other, FirstDisagreement unequalHandlers first other) ∧
      (∃ e, App.addView {} "no methods" (.attach "Nobody" []) {} = .error e) ∧
      ∃ handler : Handler, handler.name = "Person" ∧ handler.arity = 1 ∧
        handler.respond (.forPath "Delete" "/person/Ada") [.string "Ada"] = .ok ("Deleted " ++ "Ada") ∧
        (handler.respond (.forPath "PUT" "/person/Ada") [.string "Ada"]).status = 405 := by
  have hget : LastEntry unequalHandlers .get Demo.index := (View.handlers_attach "People").mp rfl
  have hput : LastEntry unequalHandlers .put Demo.showPerson := (View.handlers_attach "People").mp rfl
  have hunequal : ¬HandlersAgree unequalHandlers := fun h => absurd (h _ _ hget _ _ hput) (by decide)
  have hreplaced : HandlersAgree replacedHandlers := (View.disagreement?_eq_none_iff "Person").mp rfl
  have hne : replacedHandlers ≠ [] := List.cons_ne_nil _ _
  have hdelete : LastEntry replacedHandlers .delete Demo.deletePerson :=
    (View.handlers_attach "Person").mp rfl
  obtain ⟨first, other, hfirst, -⟩ := (addView_attach "People" unequalHandlers "/people").1 hunequal
  have hnobody := (addView_attach "Nobody" [] "no methods").2.1 rfl {} {}
  obtain ⟨handler, hname, hstands, -⟩ :=
    (addView_attach "Person" replacedHandlers "/person/<name>").2.2 hreplaced hne
  have harity : handler.arity = 1 := (hstands.arity _ _ hdelete).symm
  refine ⟨hunequal, hreplaced, hne, ⟨first, other, hfirst⟩, ⟨_, hnobody⟩, handler, hname, harity,
    ?_, ?_⟩
  · have hcase : EqIgnoringCase Verb.delete.method (Context.forPath "Delete" "/person/Ada").method := by
      rw [EqIgnoringCase, ← String.toList_inj, String.toList_map, String.toList_map]
      decide +kernel
    exact hstands.responds _ _ hdelete _ _ hcase
  · obtain ⟨allowed, -, -, hrefuse⟩ := hstands.refuses
    have hnone (verb : Verb) (other : Handler) (hlast : LastEntry replacedHandlers verb other) :
        ¬EqIgnoringCase verb.method (Context.forPath "PUT" "/person/Ada").method := by
      cases verb with
      | put =>
        have hput : (View.attach "Person" replacedHandlers).handlers .put = none := rfl
        exact absurd hlast ((View.handlers_attach_eq_none "Person").mp hput other)
      | _ => decide +kernel
    rw [hrefuse _ _ hnone]

end App

end WebRouting
