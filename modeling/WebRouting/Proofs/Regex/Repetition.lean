import WebRouting.Proofs.Regex.Explore
import WebRouting.Proofs.Regex.Finds

/-! # Repetitions

The searches of a repetition find what its rounds reach (`Finds.repeated`). Two things have to be
seen. A repetition without a greatest number drops rounds that move nowhere, which loses no position
(`Rounds.moves`). And the searches visit no place twice, which loses no position either, since they are
instances of `explore`. -/

namespace WebRouting.Regex

variable {text : List Char} {step : Cursor → List Cursor} {R : Cursor → Cursor → Prop}
  {greedy : Bool} {c c' d : Cursor}

/-! ## A number of rounds -/

theorem Finds.rounds_sound (h : Finds text step R) {n : Nat} {cursors : List Cursor}
    (hd : d ∈ rounds step n cursors) : ∃ c ∈ cursors, Rounds R n c d := by
  induction n generalizing cursors with
  | zero => exact ⟨d, hd, .zero d⟩
  | succ n ih =>
    obtain ⟨m, hm, hd⟩ := ih hd
    obtain ⟨c, hc, hm⟩ := List.mem_flatMap.mp (mem_of_mem_distinct hm)
    exact ⟨c, hc, .succ (h.sound c m hm) hd⟩

theorem Finds.rounds_complete (h : Finds text step R) {n : Nat} {cursors : List Cursor}
    (hcursors : ∀ x ∈ cursors, x.On text) (hc : c.On text) (hc' : c' ∈ cursors)
    (hposition : c'.position = c.position) (hR : Rounds R n c d) :
    ∃ d' ∈ rounds step n cursors, d'.position = d.position := by
  induction hR generalizing c' cursors with
  | zero c => exact ⟨c', hc', hposition⟩
  | succ first _ ih =>
    obtain ⟨m', hm', hmposition⟩ := h.complete hc (hcursors c' hc') hposition first
    obtain ⟨e, he, heposition⟩ := exists_mem_distinct (List.mem_flatMap.mpr ⟨c', hc', hm'⟩)
    refine ih (fun x hx => ?_) (h.on hc first) he (heposition.trans hmposition)
    obtain ⟨y, hy, hx⟩ := List.mem_flatMap.mp (mem_of_mem_distinct hx)
    exact h.on (hcursors y hy) (h.sound y x hx)

/-- Exactly a number of rounds. -/
theorem Finds.rounds (h : Finds text step R) (n : Nat) :
    Finds text (fun c => Regex.rounds step n [c]) (Rounds R n) where
  passes c d hR := hR.passes h.passes
  sound c d hd := by
    obtain ⟨x, hx, hR⟩ := h.rounds_sound hd
    rwa [List.mem_singleton.mp hx] at hR
  complete hc hc' hposition hR := by
    refine h.rounds_complete (fun x hx => ?_) hc (List.mem_singleton_self _) hposition hR
    rwa [List.mem_singleton.mp hx]

/-! ## At most a number of rounds -/

/-- How a repetition with a greatest number of rounds goes on. -/
def fewNext (step : Cursor → List Cursor) : Nat → Cursor → List (Nat × Cursor)
  | 0, _ => []
  | left + 1, c => (step c).map (left, ·)

theorem fewRounds_eq_explore (step : Cursor → List Cursor) (greedy : Bool) (budget : Nat)
    (f : Found) (c : Cursor) :
    fewRounds step greedy budget f c = explore (fewNext step) greedy (budget + 1) f (budget, c) := by
  induction budget generalizing f c with
  | zero =>
    rw [fewRounds, explore, fewNext]
    cases greedy <;> rfl
  | succ budget ih =>
    -- the recursive calls are searches by induction
    have hsearch : fewRounds step greedy budget =
        fun f c => explore (fewNext step) greedy (budget + 1) f (budget, c) := by
      funext f c
      exact ih f c
    rw [fewRounds, explore, fewNext, hsearch]
    simp only [List.foldl_map]

theorem descends_fewNext (h : Finds text step R) :
    Descends text (fewNext step) fun left _ => left where
  on {left c node} hc hnode := by
    cases left with
    | zero => exact absurd hnode List.not_mem_nil
    | succ left =>
      obtain ⟨d, hd, rfl⟩ := List.mem_map.mp hnode
      exact h.on hc (h.sound c d hd)
  lt {left c node} _ hnode := by
    cases left with
    | zero => exact absurd hnode List.not_mem_nil
    | succ left =>
      obtain ⟨d, -, rfl⟩ := List.mem_map.mp hnode
      exact Nat.lt_succ_self left
  uniform {left c c' node} hc hc' hposition hnode := by
    cases left with
    | zero => exact absurd hnode List.not_mem_nil
    | succ left =>
      obtain ⟨d, hd, rfl⟩ := List.mem_map.mp hnode
      obtain ⟨d', hd', hdposition⟩ := h.complete hc hc' hposition (h.sound c d hd)
      exact ⟨(left, d'), List.mem_map_of_mem hd', rfl, hdposition⟩

theorem rounds_of_reaches_fewNext (h : Finds text step R) {a b : Nat × Cursor}
    (hreaches : Reaches (fewNext step) a b) : ∃ n ≤ a.1, Rounds R n a.2 b.2 := by
  induction hreaches using Relation.ReflTransGen.head_induction_on with
  | refl => exact ⟨0, Nat.zero_le _, .zero _⟩
  | @head a m hstep _ ih =>
    obtain ⟨left, c⟩ := a
    cases left with
    | zero => exact absurd hstep List.not_mem_nil
    | succ left =>
      obtain ⟨d, hd, rfl⟩ := List.mem_map.mp hstep
      obtain ⟨n, hn, hR⟩ := ih
      exact ⟨n + 1, Nat.succ_le_succ hn, .succ (h.sound c d hd) hR⟩

theorem stepAt_of_rounds (h : Finds text step R) {n left : Nat} (hn : n ≤ left) (hc : c.On text)
    (hR : Rounds R n c d) : ∃ left', Relation.ReflTransGen (StepAt text (fewNext step))
      (left, c.position) (left', d.position) := by
  induction hR generalizing left with
  | zero c => exact ⟨left, .refl⟩
  | @succ n c m d first _ ih =>
    obtain ⟨left, rfl⟩ : ∃ k, left = k + 1 := ⟨left - 1, by omega⟩
    obtain ⟨left', hreaches⟩ := ih (Nat.le_of_succ_le_succ hn) (h.on hc first)
    obtain ⟨m', hm', hmposition⟩ := h.complete hc hc rfl first
    refine ⟨left', .head ⟨c, hc, rfl, (left, m'), List.mem_map_of_mem hm', rfl, hmposition⟩ hreaches⟩

/-- At most a number of rounds. -/
theorem Finds.atMost (h : Finds text step R) (greedy : Bool) (budget : Nat) :
    Finds text (Regex.atMost step greedy budget) fun c d => ∃ n ≤ budget, Rounds R n c d where
  passes := by
    rintro c d ⟨n, -, hR⟩
    exact hR.passes h.passes
  sound := by
    intro c d hd
    have hmem := List.mem_reverse.mp (mem_of_mem_distinct hd)
    rw [fewRounds_eq_explore] at hmem
    rcases explore_sound _ _ _ _ hmem with hnone | ⟨left, hreaches⟩
    · exact absurd hnone List.not_mem_nil
    · exact rounds_of_reaches_fewNext h hreaches
  complete := by
    rintro c c' d hc hc' hposition ⟨n, hn, hR⟩
    have hexplored : Explored text (fewNext step) (fun left _ => left) (budget + 1) [(budget, c')] {}
        (explore (fewNext step) greedy (budget + 1) {} (budget, c')) :=
      explore_explored (descends_fewNext h) (budget + 1) hc' (Nat.lt_succ_self _)
        (Nat.lt_succ_self _) (closed_empty _)
    -- the rounds are steps of the search, which is closed
    obtain ⟨left', hreaches⟩ := stepAt_of_rounds h hn hc hR
    rw [← hposition] at hreaches
    obtain ⟨e, he, heposition⟩ := ended_of_reaches (descends_fewNext h) hexplored.closed hreaches
      (hexplored.visited _ (List.mem_singleton_self _)) (Nat.lt_succ_self _)
    rw [← fewRounds_eq_explore] at he
    obtain ⟨d', hd', hdposition⟩ := exists_mem_distinct (List.mem_reverse.mpr he)
    exact ⟨d', hd', hdposition.trans heposition⟩

/-! ## Any number of rounds -/

/-- How a repetition without a greatest number of rounds goes on that started at position `first`. -/
def moreNext (step : Cursor → List Cursor) (first _left : Nat) (c : Cursor) : List (Nat × Cursor) :=
  (if c.position = first then [] else (step c).filter (c.position < ·.position)).map (0, ·)

theorem moreRounds_eq_explore (step : Cursor → List Cursor) (greedy : Bool) (first fuel : Nat)
    (f : Found) (c : Cursor) :
    moreRounds step greedy first fuel f c = explore (moreNext step first) greedy fuel f (0, c) := by
  induction fuel generalizing f c with
  | zero => rfl
  | succ fuel ih =>
    have hsearch : moreRounds step greedy first fuel =
        fun f c => explore (moreNext step first) greedy fuel f (0, c) := by
      funext f c
      exact ih f c
    rw [moreRounds, explore, moreNext, hsearch]
    simp only [List.foldl_map]

/-- What is next is a move away from the start of the repetition. -/
theorem mem_moreNext {step : Cursor → List Cursor} {first left : Nat} {c : Cursor}
    {node : Nat × Cursor} : node ∈ moreNext step first left c ↔
      c.position ≠ first ∧ node.1 = 0 ∧ node.2 ∈ step c ∧ c.position < node.2.position := by
  obtain ⟨left', d⟩ := node
  by_cases hfirst : c.position = first
  · simp [moreNext, hfirst]
  · simp only [moreNext, if_neg hfirst, List.mem_map, List.mem_filter, Prod.mk.injEq,
      decide_eq_true_eq]
    constructor
    · rintro ⟨x, ⟨hx, hlt⟩, rfl, rfl⟩
      exact ⟨hfirst, rfl, hx, hlt⟩
    · rintro ⟨-, rfl, hd, hlt⟩
      exact ⟨d, ⟨hd, hlt⟩, rfl, rfl⟩

theorem descends_moreNext (h : Finds text step R) (first : Nat) :
    Descends text (moreNext step first) fun _ position => text.length - position where
  on hc hnode := h.on hc (h.sound _ _ (mem_moreNext.mp hnode).2.2.1)
  lt hc hnode := by
    obtain ⟨-, -, hd, hlt⟩ := mem_moreNext.mp hnode
    have hon := (h.on hc (h.sound _ _ hd)).position_add_length
    omega
  uniform {left c c' node} hc hc' hposition hnode := by
    obtain ⟨hfirst, hzero, hd, hlt⟩ := mem_moreNext.mp hnode
    obtain ⟨d', hd', hdposition⟩ := h.complete hc hc' hposition (h.sound _ _ hd)
    refine ⟨(0, d'), mem_moreNext.mpr ⟨?_, rfl, hd', ?_⟩, hzero.symm, hdposition⟩
    · rwa [hposition]
    · rwa [hposition, hdposition]

theorem rounds_of_reaches_moreNext (h : Finds text step R) {first : Nat} {a b : Nat × Cursor}
    (hreaches : Reaches (moreNext step first) a b) : ∃ n, Rounds R n a.2 b.2 := by
  induction hreaches using Relation.ReflTransGen.head_induction_on with
  | refl => exact ⟨0, .zero _⟩
  | head hstep _ ih =>
    obtain ⟨n, hn⟩ := ih
    exact ⟨n + 1, .succ (h.sound _ _ (mem_moreNext.mp hstep).2.2.1) hn⟩

/-- A round that moves from one position to a later one. -/
def Moves (text : List Char) (R : Cursor → Cursor → Prop) (p q : Nat) : Prop :=
  p < q ∧ ∃ c d, c.On text ∧ c.position = p ∧ R c d ∧ d.position = q

/-- The rounds that move reach the same position as all rounds. -/
theorem Rounds.moves (h : Finds text step R) {n : Nat} (hc : c.On text) (hR : Rounds R n c d) :
    Relation.ReflTransGen (Moves text R) c.position d.position := by
  induction hR with
  | zero c => exact .refl
  | @succ n c m d first _ ih =>
    -- a round that stays is left out
    rcases Nat.eq_or_lt_of_le (h.le first) with hstays | hmoves
    · rw [hstays]
      exact ih (h.on hc first)
    · exact .head ⟨hmoves, c, m, hc, rfl, first, rfl⟩ (ih (h.on hc first))

/-- Away from the start of the repetition, the search follows all moves. -/
theorem stepAt_of_moves (h : Finds text step R) {first p q : Nat} (hp : first < p)
    (hmoves : Relation.ReflTransGen (Moves text R) p q) :
    Relation.ReflTransGen (StepAt text (moreNext step first)) (0, p) (0, q) := by
  induction hmoves using Relation.ReflTransGen.head_induction_on with
  | refl => exact .refl
  | @head p m hmove _ ih =>
    obtain ⟨hlt, c, d, hc, hcp, hR, hdm⟩ := hmove
    obtain ⟨d', hd', hdposition⟩ := h.complete hc hc rfl hR
    refine .head ⟨c, hc, hcp, (0, d'), mem_moreNext.mpr ⟨?_, rfl, hd', ?_⟩, rfl, ?_⟩
      (ih (Nat.lt_trans hp hlt))
    · rw [hcp]
      exact Nat.ne_of_gt hp
    · rw [hcp, hdposition, hdm]
      exact hlt
    · exact hdposition.trans hdm

theorem onceOrMore_eq_explore (step : Cursor → List Cursor) (greedy : Bool) (c : Cursor) :
    Regex.onceOrMore step greedy c = (((step c).map (0, ·)).foldl
      (explore (moreNext step c.position) greedy (c.rest.length + 1)) {}).ends.reverse := by
  have hsearch : moreRounds step greedy c.position (c.rest.length + 1) = fun f d =>
      explore (moreNext step c.position) greedy (c.rest.length + 1) f (0, d) := by
    funext f d
    exact moreRounds_eq_explore step greedy c.position (c.rest.length + 1) f d
  rw [Regex.onceOrMore, hsearch, List.foldl_map]

/-- From the ends of one round on, the search finds every position that moves reach. -/
theorem exists_mem_onceOrMore (h : Finds text step R) (greedy : Bool) {m : Cursor} {q : Nat}
    (hc : c.On text) (hm : m ∈ step c)
    (hmoves : c.position < m.position ∧ Relation.ReflTransGen (Moves text R) m.position q ∨
      m.position = q) :
    ∃ e ∈ Regex.onceOrMore step greedy c, e.position = q := by
  have hdescends := descends_moreNext h c.position
  have hexplored : Explored text (moreNext step c.position)
      (fun _ position => text.length - position) (text.length + 1) ((step c).map (0, ·)) {}
      (((step c).map (0, ·)).foldl
        (explore (moreNext step c.position) greedy (c.rest.length + 1)) {}) := by
    refine Explored.foldl _ (fun node hnode f hf => ?_) {} (closed_empty _)
    obtain ⟨d, hd, rfl⟩ := List.mem_map.mp hnode
    have hlength := hc.position_add_length
    have hle := h.le (h.sound c d hd)
    exact explore_explored hdescends _ (h.on hc (h.sound c d hd)) (by omega) (by omega) hf
  -- the search does not go on where it started, so the first round has to have moved
  have hreaches : Relation.ReflTransGen (StepAt text (moreNext step c.position))
      (0, m.position) (0, q) := by
    rcases hmoves with ⟨hlt, hmoves⟩ | rfl
    · exact stepAt_of_moves h hlt hmoves
    · exact .refl
  obtain ⟨e, he, heposition⟩ := ended_of_reaches hdescends hexplored.closed hreaches
    (hexplored.visited (0, m) (List.mem_map_of_mem hm)) (by omega)
  refine ⟨e, ?_, heposition⟩
  rw [onceOrMore_eq_explore]
  exact List.mem_reverse.mpr he

/-- One round or more. -/
theorem Finds.onceOrMore (h : Finds text step R) (greedy : Bool) :
    Finds text (Regex.onceOrMore step greedy) fun c d => ∃ n, Rounds R (n + 1) c d where
  passes := by
    rintro c d ⟨n, hR⟩
    exact hR.passes h.passes
  sound := by
    intro c d hd
    rw [onceOrMore_eq_explore] at hd
    rcases mem_ends_foldl (explore_sound _) _ _ d (List.mem_reverse.mp hd) with
      hnone | ⟨node, hnode, left, hreaches⟩
    · exact absurd hnone List.not_mem_nil
    · obtain ⟨m, hm, rfl⟩ := List.mem_map.mp hnode
      obtain ⟨n, hR⟩ := rounds_of_reaches_moreNext h hreaches
      exact ⟨n, .succ (h.sound c m hm) hR⟩
  complete := by
    rintro c c' d hc hc' hposition ⟨n, hR⟩
    cases hR with
    | @succ _ _ m _ first others =>
      have hmoves := others.moves h (h.on hc first)
      obtain ⟨m', hm', hmposition⟩ := h.complete hc hc' hposition first
      rcases Nat.eq_or_lt_of_le (h.le first) with hstays | hlt
      · -- a first round that moves nowhere: the next move could have been the first round
        rcases Relation.ReflTransGen.cases_head hmoves with heq | ⟨q, hmove, hmoves⟩
        · exact exists_mem_onceOrMore h greedy hc' hm' (.inr (hmposition.trans heq))
        · obtain ⟨hlt, x, y, hx, hxm, hRxy, hyq⟩ := hmove
          obtain ⟨y', hy', hyposition⟩ := h.complete hx hc' (by omega) hRxy
          rw [hyq] at hyposition
          rw [← hyposition] at hmoves
          exact exists_mem_onceOrMore h greedy hc' hy' (.inl ⟨by omega, hmoves⟩)
      · rw [← hmposition] at hmoves
        exact exists_mem_onceOrMore h greedy hc' hm' (.inl ⟨by omega, hmoves⟩)

/-! ## All repetitions -/

/-- A repetition finds the ends after all allowed numbers of rounds. -/
theorem Finds.repeated (h : Finds text step R) (least : Nat) (most : Option Nat) (greedy : Bool) :
    Finds text (Regex.repeated step least most greedy)
      fun c d => ∃ n, AllowsRounds least most n ∧ Rounds R n c d := by
  cases most with
  | some most =>
    refine ((h.rounds least).seq (h.atMost greedy (most - least))).congr fun c d => ?_
    constructor
    · rintro ⟨m, hm, n, hn, hd⟩
      refine ⟨least + n, ⟨Nat.le_add_right _ _, fun m' hm' => ?_⟩, hm.append hd⟩
      obtain rfl := Option.some.inj hm'
      omega
    · rintro ⟨n, ⟨hleast, hmost⟩, hR⟩
      -- the least number of rounds comes first, then the others
      obtain ⟨k, rfl⟩ := Nat.exists_eq_add_of_le hleast
      obtain ⟨m, hm, hd⟩ := hR.split
      have hle := hmost most rfl
      exact ⟨m, hm, k, by omega, hd⟩
  | none =>
    cases least with
    | zero =>
      have hzero : ∀ c d, ((∃ n, Rounds R (n + 1) c d) ∨ d = c) ↔
          ∃ n, AllowsRounds 0 none n ∧ Rounds R n c d := by
        intro c d
        constructor
        · rintro (⟨n, hR⟩ | rfl)
          · exact ⟨n + 1, ⟨Nat.zero_le _, fun _ h => nomatch h⟩, hR⟩
          · exact ⟨0, ⟨Nat.zero_le _, fun _ h => nomatch h⟩, .zero d⟩
        · rintro ⟨n, -, hR⟩
          cases hR with
          | zero => exact .inr rfl
          | succ first others => exact .inl ⟨_, .succ first others⟩
      cases greedy with
      | true => exact ((h.onceOrMore true).alt .pure).congr hzero
      | false =>
        exact (Finds.alt .pure (h.onceOrMore false)).congr fun c d => or_comm.trans (hzero c d)
    | succ least =>
      refine ((h.rounds least).seq (h.onceOrMore greedy)).congr fun c d => ?_
      constructor
      · rintro ⟨m, hm, n, hd⟩
        exact ⟨least + (n + 1), ⟨by omega, fun _ h => nomatch h⟩, hm.append hd⟩
      · rintro ⟨n, ⟨hleast, -⟩, hR⟩
        obtain ⟨k, rfl⟩ : ∃ k, n = least + (k + 1) := ⟨n - least - 1, by omega⟩
        obtain ⟨m, hm, hd⟩ := hR.split
        exact ⟨m, hm, k, hd⟩

end WebRouting.Regex
