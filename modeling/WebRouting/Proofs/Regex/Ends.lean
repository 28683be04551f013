import WebRouting.Regex.Match

/-! # What expressions match

`Regex.Ends` is the meaning of an expression as a relation between cursors, without an order of
preference and without a bound on the work: where the expression may end when it starts at a cursor,
and what has been captured on the way. `Regex.Matches` is its meaning as a set of texts. An expression
without assertions does not see what is around the text that it matches
(`AssertionFree.transfers`). -/

namespace WebRouting

/-! ## Places -/

namespace Cursor

variable {c d m : Cursor} {text u v w : List Char}

/-- The second cursor is where the first one gets by passing a text. -/
structure Passes (c : Cursor) (w : List Char) (d : Cursor) : Prop where
  /-- The text stands ahead of the first cursor. -/
  rest : c.rest = w ++ d.rest
  /-- Its characters are counted. -/
  position : d.position = c.position + w.length
  /-- Its last character is before the second cursor. -/
  previous : d.previous = w.getLast?.or c.previous

theorem Passes.refl (c : Cursor) : c.Passes [] c := ⟨rfl, rfl, rfl⟩

theorem Passes.trans (h₁ : c.Passes u m) (h₂ : m.Passes v d) : c.Passes (u ++ v) d where
  rest := by rw [h₁.rest, h₂.rest, List.append_assoc]
  position := by rw [h₂.position, h₁.position, List.length_append, Nat.add_assoc]
  previous := by rw [h₂.previous, h₁.previous, List.getLast?_append, Option.or_assoc]

/-- From a place in the middle of a text the rest of the text is passed. -/
theorem Passes.of_append (h : c.Passes (u ++ v) d) (h₁ : c.Passes u m) : m.Passes v d where
  rest := by
    have hrest := h.rest
    rw [h₁.rest, List.append_assoc] at hrest
    exact List.append_cancel_left hrest
  position := by rw [h.position, h₁.position, List.length_append, Nat.add_assoc]
  previous := by rw [h.previous, h₁.previous, List.getLast?_append, Option.or_assoc]

/-- A text leads from a cursor to one place only. -/
theorem Passes.eq_of_captures {d' : Cursor} (h : c.Passes w d) (h' : c.Passes w d')
    (hcaptures : d'.captures = d.captures) : d' = d := by
  have hrest : d'.rest = d.rest := List.append_cancel_left (h'.rest.symm.trans h.rest)
  have hposition : d'.position = d.position := h'.position.trans h.position.symm
  have hprevious : d'.previous = d.previous := h'.previous.trans h.previous.symm
  cases d
  cases d'
  cases hrest
  cases hposition
  cases hprevious
  cases hcaptures
  rfl

/-- Recording a group moves no cursor. -/
theorem Passes.capture (h : c.Passes w d) (first : Cursor) (name : Option String) :
    c.Passes w (first.capture name d) := by
  cases name with
  | none => exact h
  | some name => exact ⟨h.rest, h.position, h.previous⟩

/-- Advancing succeeds before a character of the class. -/
theorem exists_advance? {allowed : CharClass} {x : Char} {rest : List Char}
    (hrest : c.rest = x :: rest) (hx : allowed.contains x = true) :
    ∃ d, c.advance? allowed = some d ∧ d.rest = rest := by
  refine ⟨{ c with position := c.position + 1, previous := some x, rest }, ?_, rfl⟩
  rw [advance?, hrest]
  exact if_pos hx

/-- Advancing passes one character of the class and captures nothing. -/
theorem advance?_eq_some_iff {allowed : CharClass} : c.advance? allowed = some d ↔
    ∃ x, allowed.contains x = true ∧ c.Passes [x] d ∧ d.captures = c.captures := by
  have forward {d : Cursor} (h : c.advance? allowed = some d) :
      ∃ x, allowed.contains x = true ∧ c.Passes [x] d ∧ d.captures = c.captures := by
    rw [advance?] at h
    cases hrest : c.rest with
    | nil => rw [hrest] at h; cases h
    | cons x rest =>
      rw [hrest] at h
      by_cases hx : allowed.contains x = true
      · obtain rfl : _ = d := Option.some.inj ((if_pos hx).symm.trans h)
        exact ⟨x, hx, ⟨hrest, rfl, rfl⟩, rfl⟩
      · cases (if_neg hx).symm.trans h
  -- what is passed and captured determines the cursor
  refine ⟨forward, fun ⟨x, hx, hd, hcaptures⟩ => ?_⟩
  obtain ⟨d', hadvance, -⟩ := exists_advance? hd.rest hx
  obtain ⟨y, -, hd', hcaptures'⟩ := forward hadvance
  obtain ⟨rfl, -⟩ := List.cons.inj (hd'.rest.symm.trans hd.rest)
  rw [hadvance, hd.eq_of_captures hd' (hcaptures'.trans hcaptures.symm)]

/-- A text that stands ahead can be passed. -/
theorem exists_passes (h : c.rest = w ++ v) :
    ∃ d, c.Passes w d ∧ d.captures = c.captures ∧ d.rest = v :=
  ⟨{ c with position := c.position + w.length, previous := w.getLast?.or c.previous, rest := v },
    ⟨h, rfl, rfl⟩, rfl, rfl⟩

/-- The cursor stands at a place of a text. -/
def On (text : List Char) (c : Cursor) : Prop := ∃ before, (start text).Passes before c

theorem On.start (text : List Char) : (Cursor.start text).On text := ⟨[], .refl _⟩

theorem On.passes (hc : c.On text) (h : c.Passes w d) : d.On text := by
  obtain ⟨before, hbefore⟩ := hc
  exact ⟨before ++ w, hbefore.trans h⟩

/-- What is before the cursor and what is after it are the whole text. -/
theorem On.position_add_length (hc : c.On text) : c.position + c.rest.length = text.length := by
  obtain ⟨before, hbefore⟩ := hc
  have hposition : c.position = 0 + before.length := hbefore.position
  have hrest : text = before ++ c.rest := hbefore.rest
  rw [hposition, hrest, List.length_append, Nat.zero_add]

/-- Cursors of one text at one position have the same text before and after them. -/
theorem On.eq_of_position (hc : c.On text) (hd : d.On text) (h : d.position = c.position) :
    d.rest = c.rest ∧ d.previous = c.previous := by
  obtain ⟨u, hu⟩ := hc
  obtain ⟨v, hv⟩ := hd
  have hlength : v.length = u.length := by
    have hu' := hu.position
    have hv' := hv.position
    omega
  -- both have passed as many characters of one text
  obtain ⟨rfl, hrest⟩ := List.append_inj (hv.rest.symm.trans hu.rest) hlength
  exact ⟨hrest, hv.previous.trans hu.previous.symm⟩

end Cursor

namespace Regex

/-! ## Ends -/

/-- A number of steps lead from one cursor to another. -/
inductive Rounds (step : Cursor → Cursor → Prop) : Nat → Cursor → Cursor → Prop where
  /-- No step leads nowhere else. -/
  | zero (c : Cursor) : Rounds step 0 c c
  /-- One step before the others. -/
  | succ {n : Nat} {c m d : Cursor} (first : step c m) (others : Rounds step n m d) :
      Rounds step (n + 1) c d

/-- Whether a repetition allows a number of rounds. A greatest number below the least one is not
heeded. -/
def AllowsRounds (least : Nat) (most : Option Nat) (n : Nat) : Prop :=
  least ≤ n ∧ ∀ m, most = some m → n ≤ max least m

/-- Where an expression may end that starts at a cursor. -/
def Ends : Regex → Cursor → Cursor → Prop
  | empty, c, d => d = c
  | char allowed, c, d => c.advance? allowed = some d
  | assert a, c, d => a.holds c.previous c.rest = true ∧ d = c
  | seq first second, c, d => ∃ m, first.Ends c m ∧ second.Ends m d
  | alt first second, c, d => first.Ends c d ∨ second.Ends c d
  | rep body least most _, c, d => ∃ n, AllowsRounds least most n ∧ Rounds body.Ends n c d
  | group name body, c, d => ∃ m, body.Ends c m ∧ d = c.capture name m

/-- Whether the expression matches the whole of a text. -/
def Matches (r : Regex) (text : List Char) : Prop :=
  ∃ d, r.Ends (.start text) d ∧ d.rest = []

theorem Rounds.append {step : Cursor → Cursor → Prop} {n k : Nat} {c m d : Cursor}
    (h₁ : Rounds step n c m) (h₂ : Rounds step k m d) : Rounds step (n + k) c d := by
  induction h₁ with
  | zero c => rwa [Nat.zero_add]
  | succ first _ ih => rw [Nat.succ_add]; exact .succ first (ih h₂)

theorem Rounds.split {step : Cursor → Cursor → Prop} {n k : Nat} {c d : Cursor}
    (h : Rounds step (n + k) c d) : ∃ m, Rounds step n c m ∧ Rounds step k m d := by
  induction n generalizing c with
  | zero => exact ⟨c, .zero c, by rwa [Nat.zero_add] at h⟩
  | succ n ih =>
    rw [Nat.succ_add] at h
    cases h with
    | succ first others =>
      obtain ⟨m, hm, hd⟩ := ih others
      exact ⟨m, .succ first hm, hd⟩

/-- Rounds pass the texts that their steps pass, one after another. -/
theorem Rounds.passes {step : Cursor → Cursor → Prop}
    (hstep : ∀ c d, step c d → ∃ w, c.Passes w d) {n : Nat} {c d : Cursor}
    (h : Rounds step n c d) : ∃ w, c.Passes w d := by
  induction h with
  | zero c => exact ⟨[], .refl c⟩
  | succ first _ ih =>
    obtain ⟨u, hu⟩ := hstep _ _ first
    obtain ⟨v, hv⟩ := ih
    exact ⟨u ++ v, hu.trans hv⟩

/-- An expression ends after a text ahead of where it starts. -/
theorem Ends.passes {r : Regex} {c d : Cursor} (h : r.Ends c d) : ∃ w, c.Passes w d := by
  induction r generalizing c d with
  | empty => cases h; exact ⟨[], .refl c⟩
  | char allowed =>
    obtain ⟨x, -, hpasses, -⟩ := Cursor.advance?_eq_some_iff.mp h
    exact ⟨[x], hpasses⟩
  | assert a => cases h.2; exact ⟨[], .refl c⟩
  | seq first second ih₁ ih₂ =>
    obtain ⟨m, h₁, h₂⟩ := h
    obtain ⟨u, hu⟩ := ih₁ h₁
    obtain ⟨v, hv⟩ := ih₂ h₂
    exact ⟨u ++ v, hu.trans hv⟩
  | alt first second ih₁ ih₂ => exact h.elim ih₁ ih₂
  | rep body least most greedy ih =>
    obtain ⟨n, -, hrounds⟩ := h
    exact hrounds.passes fun _ _ => ih
  | group name body ih =>
    obtain ⟨m, hm, rfl⟩ := h
    obtain ⟨w, hw⟩ := ih hm
    exact ⟨w, hw.capture c name⟩

/-! ## Sequences -/

/-- The items of a sequence are passed in turn. -/
theorem ends_seqReversed_append {first second : List Regex} {c d : Cursor} :
    (seqReversed (second ++ first)).Ends c d ↔
      ∃ m, (seqReversed first).Ends c m ∧ (seqReversed second).Ends m d := by
  induction second generalizing d with
  | nil => exact ⟨fun h => ⟨d, h, rfl⟩, fun ⟨m, h, hd⟩ => hd ▸ h⟩
  | cons r second ih =>
    constructor
    · rintro ⟨m, hm, hd⟩
      obtain ⟨n, hn, hm⟩ := ih.mp hm
      exact ⟨n, hn, m, hm, hd⟩
    · rintro ⟨n, hn, m, hm, hd⟩
      exact ⟨m, ih.mpr ⟨n, hn, hm⟩, hd⟩

theorem ends_seqReversed_singleton {r : Regex} {c d : Cursor} :
    (seqReversed [r]).Ends c d ↔ r.Ends c d :=
  ⟨fun ⟨_, hm, hd⟩ => hm ▸ hd, fun h => ⟨c, rfl, h⟩⟩

theorem contains_single {x y : Char} : (CharClass.single x).contains y = true ↔ y = x := by
  rw [CharClass.single, CharClass.contains_range, Bool.and_eq_true, decide_eq_true_iff,
    decide_eq_true_iff]
  exact ⟨fun h => Char.le_antisymm h.2 h.1, fun h => h ▸ ⟨Char.le_refl y, Char.le_refl y⟩⟩

/-- The expressions of the characters of a text pass exactly over the text. -/
theorem ends_characters {text : List Char} {c d : Cursor} :
    (seqReversed (text.map fun x => .char (.single x)).reverse).Ends c d ↔
      c.Passes text d ∧ d.captures = c.captures := by
  induction text generalizing c with
  | nil =>
    constructor
    · rintro rfl
      exact ⟨.refl d, rfl⟩
    · rintro ⟨hd, hcaptures⟩
      exact Cursor.Passes.eq_of_captures (.refl c) hd hcaptures
  | cons x text ih =>
    rw [List.map_cons, List.reverse_cons, ends_seqReversed_append]
    constructor
    · rintro ⟨m, hm, hd⟩
      obtain ⟨y, hy, hpasses, hcaptures⟩ :=
        Cursor.advance?_eq_some_iff.mp (ends_seqReversed_singleton.mp hm)
      obtain rfl := contains_single.mp hy
      obtain ⟨hd, hcaptures'⟩ := ih.mp hd
      exact ⟨hpasses.trans hd, hcaptures'.trans hcaptures⟩
    · rintro ⟨hpasses, hcaptures⟩
      have hx := contains_single.mpr (rfl : x = x)
      obtain ⟨m, hm, -⟩ := Cursor.exists_advance? hpasses.rest hx
      obtain ⟨y, hy, hm', hcaptures'⟩ := Cursor.advance?_eq_some_iff.mp hm
      obtain rfl := contains_single.mp hy
      have hd := Cursor.Passes.of_append (u := [y]) hpasses hm'
      exact ⟨m, ends_seqReversed_singleton.mpr hm, ih.mpr ⟨hd, hcaptures.trans hcaptures'.symm⟩⟩

/-! ## Expressions without assertions -/

/-- Whether no assertion occurs in the expression. -/
def AssertionFree : Regex → Prop
  | empty => True
  | char _ => True
  | assert _ => False
  | seq first second => first.AssertionFree ∧ second.AssertionFree
  | alt first second => first.AssertionFree ∧ second.AssertionFree
  | rep body _ _ _ => body.AssertionFree
  | group _ body => body.AssertionFree

instance AssertionFree.decidable : (r : Regex) → Decidable r.AssertionFree
  | empty => .isTrue trivial
  | char _ => .isTrue trivial
  | assert _ => .isFalse id
  | seq first second => @instDecidableAnd _ _ (decidable first) (decidable second)
  | alt first second => @instDecidableAnd _ _ (decidable first) (decidable second)
  | rep body _ _ _ => decidable body
  | group _ body => decidable body

/-- Whether what a step passes can be passed by it anywhere. -/
def Transfers (step : Cursor → Cursor → Prop) : Prop :=
  ∀ ⦃c d c' : Cursor⦄ ⦃w t : List Char⦄, step c d → c.rest = w ++ d.rest → c'.rest = w ++ t →
    ∃ d', step c' d' ∧ d'.rest = t

theorem Transfers.rounds {step : Cursor → Cursor → Prop} (hstep : Transfers step)
    (hpasses : ∀ c d, step c d → ∃ w, c.Passes w d) (n : Nat) : Transfers (Rounds step n) := by
  intro c d c' w t h hw hc'
  induction h generalizing c' w with
  | zero c =>
    obtain rfl : w = [] := List.self_eq_append_left.mp hw
    exact ⟨c', .zero c', hc'⟩
  | succ first others ih =>
    obtain ⟨u, hu⟩ := hpasses _ _ first
    obtain ⟨v, hv⟩ := others.passes hpasses
    -- the text falls into what the first round passes and what the others pass
    obtain rfl : w = u ++ v := by
      rw [hu.rest, hv.rest, ← List.append_assoc] at hw
      exact (List.append_cancel_right hw).symm
    rw [List.append_assoc] at hc'
    obtain ⟨m', hm', hrest⟩ := hstep first hu.rest hc'
    obtain ⟨d', hd', ht⟩ := ih hv.rest hrest
    exact ⟨d', .succ hm' hd', ht⟩

/-- An expression without assertions does not see what is around the text that it matches. -/
theorem AssertionFree.transfers {r : Regex} (hfree : r.AssertionFree) : Transfers r.Ends := by
  induction r with
  | empty =>
    rintro c d c' w t rfl hw hc'
    obtain rfl : w = [] := List.self_eq_append_left.mp hw
    exact ⟨c', rfl, hc'⟩
  | char allowed =>
    intro c d c' w t h hw hc'
    obtain ⟨x, hx, hpasses, -⟩ := Cursor.advance?_eq_some_iff.mp h
    obtain rfl : w = [x] := List.append_cancel_right (hw.symm.trans hpasses.rest)
    exact Cursor.exists_advance? hc' hx
  | assert a => exact hfree.elim
  | seq first second ih₁ ih₂ =>
    rintro c d c' w t ⟨m, h₁, h₂⟩ hw hc'
    obtain ⟨u, hu⟩ := h₁.passes
    obtain ⟨v, hv⟩ := h₂.passes
    obtain rfl : w = u ++ v := List.append_cancel_right (hw.symm.trans (hu.trans hv).rest)
    rw [List.append_assoc] at hc'
    obtain ⟨m', hm', hrest⟩ := ih₁ hfree.1 h₁ hu.rest hc'
    obtain ⟨d', hd', ht⟩ := ih₂ hfree.2 h₂ hv.rest hrest
    exact ⟨d', ⟨m', hm', hd'⟩, ht⟩
  | alt first second ih₁ ih₂ =>
    rintro c d c' w t (h | h) hw hc'
    · obtain ⟨d', hd', ht⟩ := ih₁ hfree.1 h hw hc'
      exact ⟨d', .inl hd', ht⟩
    · obtain ⟨d', hd', ht⟩ := ih₂ hfree.2 h hw hc'
      exact ⟨d', .inr hd', ht⟩
  | rep body least most greedy ih =>
    rintro c d c' w t ⟨n, hn, h⟩ hw hc'
    obtain ⟨d', hd', ht⟩ := (ih hfree).rounds (fun _ _ => Ends.passes) n h hw hc'
    exact ⟨d', ⟨n, hn, hd'⟩, ht⟩
  | group name body ih =>
    rintro c d c' w t ⟨m, hm, rfl⟩ hw hc'
    -- recording the group moves no cursor
    have hrest : (c.capture name m).rest = m.rest := by cases name <;> rfl
    obtain ⟨m', hm', ht⟩ := ih hfree hm (hrest ▸ hw) hc'
    refine ⟨c'.capture name m', ⟨m', hm', rfl⟩, ?_⟩
    cases name <;> exact ht

/-- An expression without assertions may end after a text ahead exactly if it matches the text. -/
theorem AssertionFree.exists_ends_iff {r : Regex} (hfree : r.AssertionFree) {c : Cursor}
    {w t : List Char} (hc : c.rest = w ++ t) :
    (∃ d, r.Ends c d ∧ d.rest = t) ↔ r.Matches w := by
  constructor
  · rintro ⟨d, hd, rfl⟩
    exact hfree.transfers hd hc (List.append_nil w).symm
  · rintro ⟨d, hd, hrest⟩
    exact hfree.transfers hd (by rw [hrest, List.append_nil]; rfl) hc

end Regex

end WebRouting
