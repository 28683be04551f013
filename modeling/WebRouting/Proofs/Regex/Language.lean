import WebRouting.Proofs.Regex.Contents

/-! # Languages of expressions

The texts that an expression without assertions matches, from those that its parts match. A sequence
matches a text of the first part before one of the second (`matches_seq`), a choice the texts of either
(`matches_alt`), and a repetition the texts that fall into as many texts of its body as it allows
(`matches_rep`). So a repeated class matches texts of its characters (`matches_rep_char`). -/

namespace WebRouting.Regex

variable {first second body : Regex} {allowed : CharClass} {w : List Char}

/-! ## Single parts -/

theorem matches_empty : Regex.empty.Matches w ↔ w = [] := by
  constructor
  · rintro ⟨d, rfl, hrest⟩
    exact hrest
  · rintro rfl
    exact ⟨.start [], rfl, rfl⟩

theorem matches_char : (Regex.char allowed).Matches w ↔ ∃ x, w = [x] ∧ allowed.contains x = true := by
  constructor
  · rintro ⟨d, hd, hrest⟩
    obtain ⟨x, hx, hpasses, -⟩ := Cursor.advance?_eq_some_iff.mp hd
    have hw : w = [x] ++ d.rest := hpasses.rest
    rw [hrest] at hw
    exact ⟨x, hw, hx⟩
  · rintro ⟨x, rfl, hx⟩
    exact Cursor.exists_advance? rfl hx

/-! ## Sequences and choices -/

/-- A sequence matches a text of the first part before a text of the second. -/
theorem matches_seq (hfirst : first.AssertionFree) (hsecond : second.AssertionFree) :
    (Regex.seq first second).Matches w ↔
      ∃ u v, w = u ++ v ∧ first.Matches u ∧ second.Matches v := by
  constructor
  · rintro ⟨d, ⟨m, hm, hd⟩, hrest⟩
    obtain ⟨u, hu⟩ := hm.passes
    obtain ⟨v, hv⟩ := hd.passes
    have hw : w = u ++ m.rest := hu.rest
    have hv' : m.rest = v ++ [] := by
      rw [← hrest]
      exact hv.rest
    refine ⟨u, v, ?_, ?_, ?_⟩
    · rw [hw, hv', List.append_nil]
    · exact (hfirst.exists_ends_iff hu.rest).mp ⟨m, hm, rfl⟩
    · exact (hsecond.exists_ends_iff hv').mp ⟨d, hd, hrest⟩
  · rintro ⟨u, v, rfl, hu, hv⟩
    have hstart : (Cursor.start (u ++ v)).rest = u ++ v := rfl
    obtain ⟨m, hm, hrest⟩ := (hfirst.exists_ends_iff hstart).mpr hu
    rw [← List.append_nil v] at hrest
    obtain ⟨d, hd, hend⟩ := (hsecond.exists_ends_iff hrest).mpr hv
    exact ⟨d, ⟨m, hm, hd⟩, hend⟩

/-- The sequence that reading starts with adds nothing. -/
theorem matches_empty_seq (hsecond : second.AssertionFree) :
    (Regex.seq .empty second).Matches w ↔ second.Matches w := by
  have hempty : Regex.empty.AssertionFree := trivial
  rw [matches_seq hempty hsecond]
  constructor
  · rintro ⟨u, v, rfl, hu, hv⟩
    obtain rfl := matches_empty.mp hu
    exact hv
  · intro h
    exact ⟨[], w, rfl, matches_empty.mpr rfl, h⟩

theorem matches_alt : (Regex.alt first second).Matches w ↔ first.Matches w ∨ second.Matches w := by
  constructor
  · rintro ⟨d, h | h, hrest⟩
    · exact .inl ⟨d, h, hrest⟩
    · exact .inr ⟨d, h, hrest⟩
  · rintro (⟨d, h, hrest⟩ | ⟨d, h, hrest⟩)
    · exact ⟨d, .inl h, hrest⟩
    · exact ⟨d, .inr h, hrest⟩

/-- The expressions of the characters of a text match the text. -/
theorem matches_characters {text : List Char} :
    (seqReversed (text.map fun x => .char (.single x)).reverse).Matches w ↔ w = text := by
  unfold Matches
  simp only [ends_characters]
  constructor
  · rintro ⟨d, ⟨hpasses, -⟩, hrest⟩
    have hw : w = text ++ d.rest := hpasses.rest
    rw [hw, hrest, List.append_nil]
  · rintro rfl
    have hstart : (Cursor.start w).rest = w ++ [] := (List.append_nil w).symm
    obtain ⟨d, hpasses, hcaptures, hrest⟩ := Cursor.exists_passes hstart
    exact ⟨d, ⟨hpasses, hcaptures⟩, hrest⟩

/-! ## Repetitions -/

/-- Rounds may end behind a text ahead exactly if it falls into a text for each of them. -/
theorem exists_rounds_iff (hbody : body.AssertionFree) {n : Nat} {c : Cursor} {t : List Char}
    (hc : c.rest = w ++ t) : (∃ d, Rounds body.Ends n c d ∧ d.rest = t) ↔
      ∃ parts : List (List Char), parts.length = n ∧ (∀ part ∈ parts, body.Matches part) ∧
        w = parts.flatten := by
  induction n generalizing c w with
  | zero =>
    constructor
    · rintro ⟨d, hd, rfl⟩
      cases hd
      have hnil : w = [] := List.self_eq_append_left.mp hc
      exact ⟨[], rfl, fun part hpart => absurd hpart List.not_mem_nil, hnil⟩
    · rintro ⟨parts, hlength, -, rfl⟩
      obtain rfl := List.length_eq_zero_iff.mp hlength
      exact ⟨c, .zero c, hc⟩
  | succ n ih =>
    constructor
    · rintro ⟨d, hd, hrest⟩
      cases hd with
      | @succ _ _ m _ hfirst hothers =>
        obtain ⟨u, hu⟩ := hfirst.passes
        obtain ⟨v, hv⟩ := hothers.passes fun _ _ => Ends.passes
        -- the first part is passed by the first round
        have hm : m.rest = v ++ t := by
          rw [← hrest]
          exact hv.rest
        have hw : w = u ++ v := by
          have hboth := hu.rest
          rw [hc, hm, ← List.append_assoc] at hboth
          exact List.append_cancel_right hboth
        have hpart : body.Matches u := (hbody.exists_ends_iff hu.rest).mp ⟨m, hfirst, rfl⟩
        obtain ⟨parts, hlength, hparts, rfl⟩ := (ih hm).mp ⟨d, hothers, hrest⟩
        refine ⟨u :: parts, ?_, List.forall_mem_cons.mpr ⟨hpart, hparts⟩, hw⟩
        rw [List.length_cons, hlength]
    · rintro ⟨parts, hlength, hparts, rfl⟩
      cases parts with
      | nil => cases hlength
      | cons part parts =>
        obtain ⟨hpart, hparts⟩ := List.forall_mem_cons.mp hparts
        rw [List.flatten_cons, List.append_assoc] at hc
        obtain ⟨m, hm, hrest⟩ := (hbody.exists_ends_iff hc).mpr hpart
        obtain ⟨d, hd, hend⟩ := (ih hrest).mpr ⟨parts, Nat.succ.inj hlength, hparts, rfl⟩
        exact ⟨d, .succ hm hd, hend⟩

/-- A repetition matches what falls into as many texts of its body as it allows. -/
theorem matches_rep (hbody : body.AssertionFree) {least : Nat} {most : Option Nat} {greedy : Bool} :
    (Regex.rep body least most greedy).Matches w ↔
      ∃ parts : List (List Char), AllowsRounds least most parts.length ∧
        (∀ part ∈ parts, body.Matches part) ∧ w = parts.flatten := by
  have hstart : (Cursor.start w).rest = w ++ [] := (List.append_nil w).symm
  constructor
  · rintro ⟨d, ⟨n, hn, hrounds⟩, hrest⟩
    obtain ⟨parts, rfl, hparts, hw⟩ := (exists_rounds_iff hbody hstart).mp ⟨d, hrounds, hrest⟩
    exact ⟨parts, hn, hparts, hw⟩
  · rintro ⟨parts, hn, hparts, hw⟩
    obtain ⟨d, hrounds, hrest⟩ :=
      (exists_rounds_iff hbody hstart).mpr ⟨parts, rfl, hparts, hw⟩
    exact ⟨d, ⟨_, hn, hrounds⟩, hrest⟩

/-- Texts of one class make a text of its characters, one for each of them. -/
theorem flatten_of_matches_char {parts : List (List Char)}
    (h : ∀ part ∈ parts, (Regex.char allowed).Matches part) :
    parts.flatten.length = parts.length ∧ ∀ x ∈ parts.flatten, allowed.contains x = true := by
  induction parts with
  | nil => exact ⟨rfl, fun x hx => absurd hx List.not_mem_nil⟩
  | cons part parts ih =>
    obtain ⟨hpart, hparts⟩ := List.forall_mem_cons.mp h
    obtain ⟨x, rfl, hx⟩ := matches_char.mp hpart
    obtain ⟨hlength, hall⟩ := ih hparts
    rw [List.flatten_cons, List.singleton_append]
    constructor
    · rw [List.length_cons, List.length_cons, hlength]
    · exact List.forall_mem_cons.mpr ⟨hx, hall⟩

/-- A repeated class matches texts of its characters that are as long as allowed. -/
theorem matches_rep_char {least : Nat} {most : Option Nat} {greedy : Bool} :
    (Regex.rep (.char allowed) least most greedy).Matches w ↔
      AllowsRounds least most w.length ∧ ∀ x ∈ w, allowed.contains x = true := by
  have hfree : (Regex.char allowed).AssertionFree := trivial
  constructor
  · intro h
    obtain ⟨parts, hlength, hparts, rfl⟩ := (matches_rep hfree).mp h
    obtain ⟨hcount, hall⟩ := flatten_of_matches_char hparts
    rw [hcount]
    exact ⟨hlength, hall⟩
  · rintro ⟨hlength, hw⟩
    have hstart : (Cursor.start w).rest = w ++ [] := (List.append_nil w).symm
    exact exists_ends_rep_char hlength hw hstart

end WebRouting.Regex
