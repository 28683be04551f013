import WebRouting.Proofs.Handler.Faults

/-! # Calls of handlers with typed parameters

A handler with typed parameters answers for what its types take from the values in turn. Without as many
values as types the fault is the server's, and with a value that its type does not admit it is the
client's: the response says what the first such type needs (`Handler.respond_typed`). -/

namespace WebRouting

/-! ## Calls -/

namespace Handler

variable {name : String} {types : List ParamType} {f : Context → Arguments types → Response}
  {c : Context} {params : List Value}

theorem respond_of_call_eq_ok {response : Response} (h : call types f c params = .ok response) :
    (typed name types f).respond c params = response := by
  have hanswer : (typed name types f).answer c params = .ok response := h
  rw [respond, hanswer]

theorem respond_of_call_eq_error {fault : Fault} (h : call types f c params = .error fault) :
    (typed name types f).respond c params = fault.response := by
  have hanswer : (typed name types f).answer c params = .error fault := h
  rw [respond, hanswer]

theorem call_of_length_ne (hlength : params.length ≠ types.length) :
    call types f c params = .error .wrongCount :=
  if_pos hlength

theorem call_of_taken {arguments : Arguments types} (hlength : params.length = types.length)
    (h : Arguments.Taken types params arguments) : call types f c params = .ok (f c arguments) := by
  rw [call, if_neg fun hne => hne hlength, takeArguments_of_taken h]

theorem call_of_needs {before after : List (ParamType × Value)} {t : ParamType} {v : Value}
    {expected : Expectation} (hlength : params.length = types.length)
    (hsplit : types.zip params = before ++ (t, v) :: after) (hbefore : ∀ p ∈ before, p.1.Admits p.2)
    (hneeds : t.Needs v expected) :
    call types f c params = .error (.unconverted (.mismatch expected v.kind)) := by
  rw [call, if_neg fun hne => hne hlength, takeArguments_of_needs hsplit hbefore hneeds]

/-- **Calls.** A handler with typed parameters gives 500 for a number of values that it does not take. For
as many as it takes, it answers with what its types take from the values if they admit them all;
otherwise it gives 400 with what the first type that does not admit its value needs. It never says that a
value is missing. -/
theorem respond_typed (name : String) (types : List ParamType)
    (f : Context → Arguments types → Response) (c : Context) (params : List Value) :
    (params.length ≠ types.length →
      (typed name types f).respond c params = .text "Internal Server Error" 500) ∧
    (params.length = types.length → (∀ p ∈ types.zip params, p.1.Admits p.2) →
      ∃ arguments, Arguments.Taken types params arguments ∧
        (typed name types f).respond c params = f c arguments) ∧
    (params.length = types.length → ∀ before t v after,
      types.zip params = before ++ (t, v) :: after → (∀ p ∈ before, p.1.Admits p.2) →
      ¬ t.Admits v → ∃ expected, t.Needs v expected ∧ (typed name types f).respond c params =
        .text ("Bad Request: " ++ (ConversionError.mismatch expected v.kind).message) 400) ∧
    ∀ position, (typed name types f).answer c params ≠ .error (.unconverted (.missing position)) := by
  refine ⟨?_, ?_, ?_, ?_⟩
  · intro hlength
    exact respond_of_call_eq_error (call_of_length_ne hlength)
  · intro hlength hadmits
    obtain ⟨arguments, htaken⟩ := exists_taken hlength hadmits
    exact ⟨arguments, htaken, respond_of_call_eq_ok (call_of_taken hlength htaken)⟩
  · intro hlength before t v after hsplit hbefore hadmits
    obtain ⟨expected, hneeds⟩ := ParamType.exists_needs hadmits
    exact ⟨expected, hneeds,
      respond_of_call_eq_error (call_of_needs hlength hsplit hbefore hneeds)⟩
  · intro position hmissing
    by_cases hlength : params.length = types.length
    · -- with as many values as types, every fault is about the kind of a value
      obtain ⟨expected, found, hfault⟩ :=
        serves_typed (isTyped_typed name types f) c params hlength _ hmissing
      cases hfault
    · have hcall : call types f c params = .error (.unconverted (.missing position)) := hmissing
      rw [call_of_length_ne hlength] at hcall
      cases hcall

/-- How many there are of a book at a price. -/
def shelf (_ : Context) : Arguments [.string, .uint64, .float] → Response
  | (book, count, _, ()) => .ok (String.ofList (Numeral.writeNat count.toNat) ++ " of " ++ book)

/-- Every value has a text and an integer is a number too, but a negative integer is no natural number.
The value after it is not looked at. -/
theorem respond_typed_shelf :
    (typed "shelf" [.string, .uint64, .float] shelf).respond (.forPath "GET" "/")
        [.int 7, .int 2, .int 1] = .ok "2 of 7" ∧
      (typed "shelf" [.string, .uint64, .float] shelf).respond (.forPath "GET" "/")
        [.int 7, .int (-1), .bool true] =
          .text "Bad Request: expected unsigned int, got int" 400 := by
  constructor
  · obtain ⟨-, hadmitted, -⟩ := respond_typed "shelf" [.string, .uint64, .float] shelf
      (.forPath "GET" "/") [.int 7, .int 2, .int 1]
    have hadmits : ∀ p ∈ [(ParamType.string, Value.int 7), (.uint64, .int 2), (.float, .int 1)],
        p.1.Admits p.2 := by
      simp only [List.forall_mem_cons, List.not_mem_nil, false_imp_iff, implies_true, and_true]
      exact ⟨trivial, ⟨2, rfl, by decide⟩, .inl rfl⟩
    obtain ⟨arguments, htaken, hresponse⟩ := hadmitted rfl hadmits
    rw [hresponse]
    cases htaken with
    | cons hbook hothers =>
      cases hbook
      cases hothers with
      | cons hcount _ =>
        cases hcount with
        | uint64 hvalue =>
          rw [shelf, Int.ofNat.inj hvalue]
          decide
  · obtain ⟨-, -, hrefused, -⟩ := respond_typed "shelf" [.string, .uint64, .float] shelf
      (.forPath "GET" "/") [.int 7, .int (-1), .bool true]
    have hnegative : ¬ ParamType.uint64.Admits (.int (-1)) := by
      rintro ⟨n, hn, hnatural⟩
      cases hn
      exact absurd hnatural (by decide)
    obtain ⟨expected, hneeds, hresponse⟩ := hrefused rfl [(.string, .int 7)] .uint64 (.int (-1))
      [(.float, .bool true)] rfl (List.forall_mem_singleton.mpr trivial) hnegative
    rw [hresponse]
    cases hneeds with
    | uint64 hkind => exact absurd rfl hkind
    | sign hsign => rfl

end Handler

end WebRouting
