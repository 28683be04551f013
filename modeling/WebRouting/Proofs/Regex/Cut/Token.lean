import WebRouting.Proofs.Regex.Cut.Bracket
import WebRouting.Proofs.Regex.Token

/-! # Tokens cut short

A token is read in the same way if the pattern is cut before a parenthesis behind it
(`readToken?_cut`), with one exception: of a boundary before braces only the brace may be left. -/

namespace WebRouting.Regex

variable {flags : Flags} {c : Char} {cs more rest t : List Char}

/-! ## Groups -/

/-- The flags of a group end with a colon or a parenthesis. -/
theorem readFlags?_cut {reading : FlagReading} {opens : Bool} {out : Flags}
    (h : readFlags? reading cs = some (out, opens, rest)) :
    ∃ u, cs = u ++ rest ∧ Settled u ∧ ∀ p, readFlags? reading (u ++ p) = some (out, opens, p) := by
  fun_induction readFlags? reading cs
  case case3 hdangling =>
    cases h
    exact ⟨[':'], rfl, rfl, fun p => by simp [readFlags?, hdangling]⟩
  case case5 hdangling _ =>
    cases h
    exact ⟨[')'], rfl, rfl, fun p => by simp_all [readFlags?]⟩
  case case7 hnegated _ _ ih =>
    obtain ⟨u, rfl, hu, hcut⟩ := ih h
    exact ⟨'-' :: u, rfl, .cons (by decide) hu, fun p => by simp [readFlags?, hnegated, hcut p]⟩
  case case10 x _ hcolon hparen hhyphen hletter _ hset ih =>
    obtain ⟨u, rfl, hu, hcut⟩ := ih h
    have hx : x ≠ '\\' := by
      rintro rfl
      cases hset
    exact ⟨x :: u, rfl, .cons hx hu, fun p => by
      simp [readFlags?, hcolon, hparen, hhyphen, hletter, hset, hcut p]⟩
  all_goals cases h

/-- The name of a group ends with an angle bracket. -/
theorem readGroupName?_cut {token : Token} (h : readGroupName? cs = some (token, rest)) :
    ∃ u, cs = u ++ '>' :: rest ∧ ∀ p, readGroupName? (u ++ '>' :: p) = some (token, p) := by
  rw [readGroupName?] at h
  split at h
  · next name more hname =>
    split at h
    · next hok =>
      cases h
      obtain ⟨rfl, hcut⟩ := cut?_cut hname
      exact ⟨name, rfl, fun p => by rw [readGroupName?, hcut p]; exact if_pos hok⟩
    · cases h
  · cases h

/-- No flag is written as a mark of a name. -/
theorem ne_of_readFlags? {out : Flags × Bool × List Char}
    (h : readFlags? { flags } (c :: cs) = some out) : c ≠ '<' ∧ c ≠ 'P' := by
  constructor <;> (rintro rfl; simp [readFlags?, Flags.set?] at h)

/-- The start of a group is read in the same way before a parenthesis. -/
theorem readGroupStart?_cut {token : Token} (h : readGroupStart? flags cs = some (token, rest)) :
    ∃ u, cs = u ++ rest ∧ (rest ≠ [] → Settled u) ∧ ∀ p t, rest = p ++ ')' :: t →
      readGroupStart? flags (u ++ p) = some (token, p) := by
  unfold readGroupStart? at h
  split at h
  case h_1 | h_2 => cases h
  -- a name in angle brackets, which is no assertion
  case h_3 name hahead hbehind hname =>
    obtain ⟨v, rfl, hcut⟩ := readGroupName?_cut h
    obtain ⟨u, rfl, hu, hskip⟩ := skip_cut hname (List.cons_ne_nil _ _)
    refine ⟨u ++ '?' :: '<' :: v ++ ['>'], by simp, fun _ => .concat _ (by decide),
      fun p t hp => ?_⟩
    have hskip := hskip ('?' :: '<' :: (v ++ '>' :: p)) ⟨')' :: t, by simp [hp]⟩
    have hcut := hcut p
    rw [List.append_assoc, List.append_assoc, List.cons_append, List.cons_append,
      List.singleton_append, readGroupStart?, hskip]
    cases v with
    | nil =>
      rw [List.nil_append] at hcut
      simp [hcut]
    | cons x v =>
      have hx : x ≠ '=' := fun hx => hahead _ (by rw [hx]; rfl)
      have hx' : x ≠ '!' := fun hx => hbehind _ (by rw [hx]; rfl)
      rw [List.cons_append] at hcut
      simp [hx, hx', hcut]
  -- a name in angle brackets after a letter
  case h_4 name hname =>
    obtain ⟨v, rfl, hcut⟩ := readGroupName?_cut h
    obtain ⟨u, rfl, hu, hskip⟩ := skip_cut hname (List.cons_ne_nil _ _)
    refine ⟨u ++ '?' :: 'P' :: '<' :: v ++ ['>'], by simp, fun _ => .concat _ (by decide),
      fun p t hp => ?_⟩
    have hskip := hskip ('?' :: 'P' :: '<' :: (v ++ '>' :: p)) ⟨')' :: t, by simp [hp]⟩
    rw [List.append_assoc, List.append_assoc, List.cons_append, List.cons_append,
      List.cons_append, List.singleton_append, readGroupStart?, hskip]
    exact hcut p
  -- flags, whose letters are no marks of a name
  case h_5 letters _ _ hangle hnamed hletters =>
    obtain ⟨⟨out, opens, rest⟩, hflags, h⟩ := Option.map_eq_some_iff.mp h
    cases h
    obtain ⟨v, rfl, hv, hcut⟩ := readFlags?_cut hflags
    obtain ⟨u, rfl, hu, hskip⟩ := skip_cut hletters (List.cons_ne_nil _ _)
    refine ⟨u ++ '?' :: v, by simp, fun _ => hu.append (.cons (by decide) hv), fun p t hp => ?_⟩
    have hskip := hskip ('?' :: (v ++ p)) ⟨')' :: t, by simp [hp]⟩
    rw [List.append_assoc, List.cons_append, readGroupStart?, hskip]
    cases v with
    | nil =>
      have hnothing := hcut []
      simp [readFlags?] at hnothing
    | cons x v =>
      have hcut := hcut p
      rw [List.cons_append] at hcut
      obtain ⟨hx, hx'⟩ := ne_of_readFlags? hcut
      simp [hx, hx', hcut]
  -- a group without any mark
  case h_6 hquestion =>
    cases h
    by_cases hrest : skip flags cs = []
    · rw [hrest]
      exact ⟨cs, by simp, fun h => absurd rfl h, fun p t hp => by simp at hp⟩
    · obtain ⟨u, hcs, hu, hskip⟩ := skip_cut rfl hrest
      refine ⟨u, hcs, fun _ => hu, fun p t hp => ?_⟩
      rw [readGroupStart?, hskip p ⟨')' :: t, hp.symm⟩]
      cases p with
      | nil => rfl
      | cons x p =>
        have hx : x ≠ '?' := fun hx => hquestion (p ++ ')' :: t) (by rw [hp, hx]; rfl)
        simp [hx]

/-! ## Quantifiers -/

/-- A lazy mark is read in the same way before a parenthesis. -/
theorem markLazy_cut {least : Nat} {most : Option Nat} {token : Token}
    (h : markLazy flags least most cs = (token, rest)) :
    ∃ u, cs = u ++ rest ∧ Settled u ∧ ∀ p t, rest = p ++ ')' :: t →
      markLazy flags least most (u ++ p) = (token, p) := by
  unfold markLazy at h
  split at h
  · next more =>
    cases h
    exact ⟨['?'], rfl, rfl, fun p t hp => rfl⟩
  · next hquestion =>
    cases h
    refine ⟨[], rfl, .nil, fun p t hp => ?_⟩
    cases p with
    | nil => rfl
    | cons x p =>
      have hx : x ≠ '?' := fun hx => hquestion (p ++ ')' :: t) (by rw [hp, hx]; rfl)
      simp [markLazy, hx]

/-- A counted repetition is read in the same way before a parenthesis. -/
theorem readCounted?_cut {token : Token} (h : readCounted? flags cs = some (token, rest)) :
    ∃ u, cs = u ++ rest ∧ (rest ≠ [] → Settled u) ∧ ∀ p t, rest = p ++ ')' :: t →
      readCounted? flags (u ++ p) = some (token, p) := by
  simp only [readCounted?, Option.bind_eq_bind, Option.bind_eq_some_iff, Prod.exists] at h
  obtain ⟨body, more, hbody, least, most, hbounds, h⟩ := h
  obtain ⟨u, rfl, hcut⟩ := readBraced?_cut hbody
  generalize hmore : skip flags more = ahead at h
  obtain ⟨v, rfl, hv, hlazy⟩ := markLazy_cut (Option.some.inj h)
  by_cases hnil : v ++ rest = []
  · obtain ⟨rfl, rfl⟩ := List.append_eq_nil_iff.mp hnil
    exact ⟨u ++ '\x7d' :: more, by simp, fun h => absurd rfl h, fun p t hp => by simp at hp⟩
  · obtain ⟨w, rfl, hw, hskip⟩ := skip_cut hmore hnil
    refine ⟨u ++ ['\x7d'] ++ (w ++ v), by simp, fun _ => ?_, fun p t hp => ?_⟩
    · exact (Settled.concat u (by decide)).append (hw.append hv)
    · have hcut := hcut (w ++ (v ++ p))
      have hskip := hskip (v ++ p) ⟨')' :: t, by simp [hp]⟩
      simp [readCounted?, hcut, hbounds, hskip, hlazy p t hp]

/-! ## Tokens -/

/-- A token is read in the same way before a parenthesis, unless it is a boundary behind which only
a brace is left. -/
theorem readToken?_cut {token : Token} (h : readToken? flags c cs = some (token, rest)) :
    ∃ u, cs = u ++ rest ∧ (rest ≠ [] → Settled (c :: u)) ∧ ∀ p t, rest = p ++ ')' :: t →
      readToken? flags c (u ++ p) = some (token, p) ∨
        (∃ a depth, token = .atom a depth) ∧ Dangling flags p := by
  unfold readToken? at h
  split at h
  case h_1 =>
    obtain ⟨u, rfl, hu, hcut⟩ := readGroupStart?_cut h
    exact ⟨u, rfl, fun hrest => .cons (by decide) (hu hrest), fun p t hp => .inl (hcut p t hp)⟩
  case h_4 =>
    obtain ⟨⟨cls, rest⟩, hcls, h⟩ := Option.map_eq_some_iff.mp h
    cases h
    obtain ⟨u, rfl, hu, hcut⟩ := readBracket?_cut hcls
    exact ⟨u, rfl, fun _ => .cons (by decide) hu, fun p t hp =>
      .inl (by simp [readToken?, hcut p t hp])⟩
  case h_5 | h_6 | h_7 =>
    obtain ⟨u, rfl, hu, hcut⟩ := markLazy_cut (Option.some.inj h)
    exact ⟨u, rfl, fun _ => .cons (by decide) hu, fun p t hp =>
      .inl (by simp [readToken?, hcut p t hp])⟩
  case h_8 =>
    obtain ⟨u, rfl, hu, hcut⟩ := readCounted?_cut h
    exact ⟨u, rfl, fun hrest => .cons (by decide) (hu hrest), fun p t hp => .inl (hcut p t hp)⟩
  case h_9 =>
    split at h
    · next hunicode =>
      cases h
      exact ⟨[], rfl, fun _ => rfl, fun p t hp => .inl (by simp [readToken?, hunicode])⟩
    · cases h
  case h_12 =>
    obtain ⟨⟨escape, after⟩, hescape, h⟩ := Option.map_eq_some_iff.mp h
    obtain rfl : after = rest := by cases escape <;> cases h <;> rfl
    obtain ⟨u, rfl, hu, hcut⟩ := readEscape?_cut hescape
    refine ⟨u, rfl, fun _ => hu, fun p t hp => (hcut p t hp).imp (fun hcut => ?_) ?_⟩
    · rw [readToken?, hcut]
      cases escape <;> cases h <;> rfl
    · rintro ⟨⟨a, rfl⟩, hdangling⟩
      cases h
      exact ⟨⟨.assert a, 0, rfl⟩, hdangling⟩
  -- any other character stands for itself
  case h_13 =>
    cases h
    have hc : c ≠ '\\' := by assumption
    exact ⟨[], rfl, fun _ => .cons hc .nil, fun p t hp => .inl (by simp_all [readToken?])⟩
  all_goals
    cases h
    exact ⟨[], rfl, fun _ => rfl, fun p t hp => .inl rfl⟩

end WebRouting.Regex
