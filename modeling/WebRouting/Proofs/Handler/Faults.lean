import WebRouting.Proofs.Handler.Conversion
import WebRouting.View

/-! # Faults of handlers

A fault is the client's if a value of the path is not of the kind that is needed (`Fault.IsClients`). A
handler with typed parameters, given as many values as it takes, has no other (`Handler.serves_typed`).
Nor has the one handler that a view stands for, in the contexts with a method of the view, if the
handlers of the view have none (`View.serves_handler`): all of them take the same number of values, and
one of them is for the method. -/

namespace WebRouting

/-! ## Conversions -/

/-- A value that does not convert is of a wrong kind. -/
theorem Value.toParam_error {v : Value} {t : ParamType} {e : ConversionError}
    (h : v.toParam t = .error e) : ∃ expected, e = .mismatch expected v.kind := by
  by_cases hadmits : t.Admits v
  · obtain ⟨a, htakes⟩ := ParamType.exists_takes hadmits
    rw [toParam_of_takes htakes] at h
    cases h
  · obtain ⟨expected, hneeds⟩ := ParamType.exists_needs hadmits
    rw [toParam_of_needs hneeds] at h
    cases h
    exact ⟨expected, rfl⟩

/-- With a value for each type, no value is missing. -/
theorem takeArguments_error {position : Nat} {values : List Value} {types : List ParamType}
    (hlength : values.length = types.length) {e : ConversionError}
    (h : takeArguments position values types = .error e) :
    ∃ expected, ∃ v ∈ values, e = .mismatch expected v.kind := by
  induction types generalizing position values with
  | nil => rw [takeArguments] at h; cases h
  | cons t types ih =>
    cases values with
    | nil => cases hlength
    | cons v values =>
      -- the first value that does not convert is the one that is named
      cases hfirst : v.toParam t with
      | error e' =>
        rw [takeArguments_cons_of_error hfirst] at h
        cases h
        obtain ⟨expected, rfl⟩ := Value.toParam_error hfirst
        exact ⟨expected, v, List.mem_cons_self, rfl⟩
      | ok first =>
        rw [takeArguments_cons_of_ok hfirst] at h
        cases hrest : takeArguments (position + 1) values types with
        | ok rest => rw [hrest] at h; cases h
        | error e' =>
          rw [hrest] at h
          cases h
          obtain ⟨expected, other, hother, rfl⟩ := ih (Nat.succ.inj hlength) hrest
          exact ⟨expected, other, List.mem_cons_of_mem _ hother, rfl⟩

/-! ## Handlers -/

/-- Whether a fault is the client's: a value is not of the kind that is needed. -/
def Fault.IsClients (fault : Fault) : Prop :=
  ∃ expected found, fault = .unconverted (.mismatch expected found)

namespace Handler

/-- Whether a handler, in a context and for as many values as it takes, has faults of the client only. -/
def Serves (h : Handler) (c : Context) : Prop :=
  ∀ params, params.length = h.arity → ∀ fault, h.answer c params = .error fault → fault.IsClients

/-- Whether a handler is one of a function with typed parameters. -/
def IsTyped (h : Handler) : Prop := ∃ name types f, h = typed name types f

@[simp] theorem isTyped_typed (name : String) (types : List ParamType)
    (f : Context → Arguments types → Response) : (typed name types f).IsTyped :=
  ⟨name, types, f, rfl⟩

/-- Given as many values as it takes, a handler with typed parameters answers unless a value is of a
wrong kind. -/
theorem serves_typed {h : Handler} (htyped : h.IsTyped) (c : Context) : h.Serves c := by
  obtain ⟨name, types, f, rfl⟩ := htyped
  intro params hlength fault hfault
  change call types f c params = .error fault at hfault
  rw [call, if_neg fun hne => hne hlength] at hfault
  cases harguments : takeArguments 0 params types with
  | ok arguments => rw [harguments] at hfault; cases hfault
  | error e =>
    rw [harguments] at hfault
    cases hfault
    obtain ⟨expected, v, -, rfl⟩ := takeArguments_error hlength harguments
    exact ⟨expected, v.kind, rfl⟩

end Handler

/-! ## Views -/

/-- A verb is found by its method. -/
theorem Verb.ofMethod?_method (verb : Verb) : Verb.ofMethod? verb.method = some verb := by
  cases verb <;> decide +kernel

namespace View

theorem mem_attached {v : View} {handler : Handler} :
    handler ∈ v.attached ↔ ∃ verb, v.handlers verb = some handler := by
  simp [attached, Verb.mem_all]

/-- The methods of a view are those for which it has a handler. -/
theorem contains_methods {v : View} {method : String} :
    v.methods.contains method = true ↔
      ∃ verb handler, v.handlers verb = some handler ∧ verb.method = method := by
  simp [methods, Verb.mem_all, Option.isSome_iff_exists]

/-- If a view has one handler for all, each of its handlers takes as many parameters as this one. -/
theorem arity_of_disagreement? {v : View} (h : v.disagreement? = none) {other : Handler}
    (hother : other ∈ v.attached) :
    other.arity = (v.attached.head?.map Handler.arity).getD 0 := by
  rw [disagreement?] at h
  cases hattached : v.attached with
  | nil => rw [hattached] at hother; cases hother
  | cons first rest =>
    rw [hattached] at h hother
    obtain rfl | hrest := List.mem_cons.mp hother
    · rfl
    · have hfind := List.find?_eq_none.mp (Option.map_eq_none_iff.mp h) other hrest
      simpa using hfind

/-- What a view's one handler is: it takes as many parameters as each of the handlers, and answers as
the view does. -/
theorem handler_eq_ok {v : View} {rule : String} {handler : Handler}
    (h : v.handler rule = .ok handler) :
    (∀ other ∈ v.attached, other.arity = handler.arity) ∧ handler.answer = v.answer := by
  rw [View.handler] at h
  cases hagree : v.disagreement? with
  | some found => rw [hagree] at h; cases h
  | none =>
    rw [hagree] at h
    cases h
    exact ⟨fun other => arity_of_disagreement? hagree, rfl⟩

/-- A view answers as its handler for the verb of the method does. -/
theorem answer_eq {v : View} {c : Context} {verb : Verb} {handler : Handler}
    (hverb : Verb.ofMethod? c.method = some verb) (hhandler : v.handlers verb = some handler) :
    v.answer c = handler.answer c := by
  funext params
  rw [answer, hverb, Option.bind_some, hhandler]

/-- A view's one handler serves the methods of the view if the handlers of the view do. -/
theorem serves_handler {v : View} {rule : String} {handler : Handler}
    (h : v.handler rule = .ok handler) {c : Context} (hserve : ∀ other ∈ v.attached, other.Serves c)
    (hmethod : v.methods.contains c.method = true) : handler.Serves c := by
  obtain ⟨harity, hanswer⟩ := handler_eq_ok h
  obtain ⟨verb, other, hother, hverb⟩ := contains_methods.mp hmethod
  have hmem : other ∈ v.attached := mem_attached.mpr ⟨verb, hother⟩
  -- the view picks the handler of the verb, which takes as many parameters as all of them
  have hpick : v.answer c = other.answer c :=
    answer_eq (by rw [← hverb, Verb.ofMethod?_method]) hother
  intro params hlength fault hfault
  rw [hanswer, hpick] at hfault
  exact hserve other hmem params (hlength.trans (harity other hmem).symm) fault hfault

end View

end WebRouting
