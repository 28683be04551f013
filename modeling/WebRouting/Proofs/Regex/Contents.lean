import WebRouting.Proofs.Regex.Ends

/-! # What expressions pass over

Facts about all the texts of an expression that can be read off its classes and groups. What holds for
each of them and carries over from part to part holds for the whole (`Ends.closure`): a character that
no class has stands in no text (`not_mem_of_avoids`). Conversely a repeated class passes over any text of
its characters of a length that the repetition allows (`exists_ends_rep_char`). -/

namespace WebRouting.Regex

variable {r : Regex} {c d : Cursor} {w t : List Char}

/-- Whether all classes and the names of all groups pass a test. -/
def all (okClass : CharClass → Bool) (okName : Option String → Bool) : Regex → Bool
  | empty => true
  | char allowed => okClass allowed
  | assert _ => true
  | seq first second => first.all okClass okName && second.all okClass okName
  | alt first second => first.all okClass okName && second.all okClass okName
  | rep body _ _ _ => body.all okClass okName
  | group name body => okName name && body.all okClass okName

/-- Whether no group of the expression has a name. -/
def unnamed (r : Regex) : Bool := r.all (fun _ => true) Option.isNone

/-- A relation between places that carries over from part to part holds from the start of an expression
to its end if it holds across its classes and its groups. -/
theorem Ends.closure {R : Cursor → Cursor → Prop} {okClass : CharClass → Bool}
    {okName : Option String → Bool} (hrefl : ∀ c, R c c)
    (htrans : ∀ {c m d}, R c m → R m d → R c d)
    (hclass : ∀ {allowed x c d}, okClass allowed = true → allowed.contains x = true →
      c.Passes [x] d → d.captures = c.captures → R c d)
    (hname : ∀ {name c d}, okName name = true → R c d → R c (c.capture name d))
    (h : r.Ends c d) (hr : r.all okClass okName = true) : R c d := by
  induction r generalizing c d with
  | empty => cases h; exact hrefl c
  | char allowed =>
    obtain ⟨x, hx, hpasses, hcaptures⟩ := Cursor.advance?_eq_some_iff.mp h
    exact hclass hr hx hpasses hcaptures
  | assert a => cases h.2; exact hrefl c
  | seq first second ih₁ ih₂ =>
    obtain ⟨m, h₁, h₂⟩ := h
    obtain ⟨hr₁, hr₂⟩ := Bool.and_eq_true_iff.mp hr
    exact htrans (ih₁ h₁ hr₁) (ih₂ h₂ hr₂)
  | alt first second ih₁ ih₂ =>
    obtain ⟨hr₁, hr₂⟩ := Bool.and_eq_true_iff.mp hr
    exact h.elim (ih₁ · hr₁) (ih₂ · hr₂)
  | rep body least most greedy ih =>
    obtain ⟨n, -, hrounds⟩ := h
    -- on the rounds, each of which is covered by the induction on the body
    induction hrounds with
    | zero c => exact hrefl c
    | succ first _ ih' => exact htrans (ih first hr) ih'
  | group name body ih =>
    obtain ⟨m, hm, rfl⟩ := h
    obtain ⟨hname', hbody⟩ := Bool.and_eq_true_iff.mp hr
    exact hname hname' (ih hm hbody)

/-! ## Characters -/

/-- Whether no class of the expression has a character. -/
def avoids (x : Char) (r : Regex) : Bool := r.all (!·.contains x) fun _ => true

/-- A character that no class of an expression has is not passed. -/
theorem Ends.passes_without {x : Char} (h : r.Ends c d) (hx : r.avoids x = true) :
    ∃ w, c.Passes w d ∧ x ∉ w := by
  refine h.closure (R := fun c d => ∃ w, c.Passes w d ∧ x ∉ w) ?_ ?_ ?_ ?_ hx
  · exact fun c => ⟨[], .refl c, List.not_mem_nil⟩
  · rintro c m d ⟨u, hu, hxu⟩ ⟨v, hv, hxv⟩
    exact ⟨u ++ v, hu.trans hv, fun hmem => (List.mem_append.mp hmem).elim hxu hxv⟩
  · intro allowed y c d hallowed hy hpasses _
    refine ⟨[y], hpasses, fun hmem => ?_⟩
    obtain rfl := List.mem_singleton.mp hmem
    rw [hy] at hallowed
    cases hallowed
  · rintro name c d - ⟨w, hw, hxw⟩
    exact ⟨w, hw.capture c name, hxw⟩

/-- A character that no class of an expression has stands in none of its texts. -/
theorem not_mem_of_avoids {x : Char} (h : r.Matches w) (hx : r.avoids x = true) : x ∉ w := by
  obtain ⟨d, hd, hrest⟩ := h
  obtain ⟨v, hv, hxv⟩ := hd.passes_without hx
  have hwv : w = v ++ d.rest := hv.rest
  rwa [hwv, hrest, List.append_nil]

/-! ## Repeated classes -/

theorem exists_rounds_char {allowed : CharClass} (hw : ∀ x ∈ w, allowed.contains x = true)
    (hc : c.rest = w ++ t) : ∃ d, Rounds (char allowed).Ends w.length c d ∧ d.rest = t := by
  induction w generalizing c with
  | nil => exact ⟨c, .zero c, hc⟩
  | cons x w ih =>
    obtain ⟨hx, hw⟩ := List.forall_mem_cons.mp hw
    obtain ⟨m, hm, hrest⟩ := Cursor.exists_advance? hc hx
    obtain ⟨d, hd, ht⟩ := ih hw hrest
    exact ⟨d, .succ hm hd, ht⟩

/-- A repeated class may end after any text of its characters that is as long as allowed. -/
theorem exists_ends_rep_char {allowed : CharClass} {least : Nat} {most : Option Nat}
    {greedy : Bool} (hlength : AllowsRounds least most w.length)
    (hw : ∀ x ∈ w, allowed.contains x = true) (hc : c.rest = w ++ t) :
    ∃ d, (rep (char allowed) least most greedy).Ends c d ∧ d.rest = t := by
  obtain ⟨d, hd, hrest⟩ := exists_rounds_char hw hc
  exact ⟨d, ⟨w.length, hlength, hd⟩, hrest⟩

end WebRouting.Regex
