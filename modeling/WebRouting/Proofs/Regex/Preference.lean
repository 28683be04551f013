import Mathlib.Data.List.Lex
import Mathlib.Data.List.Nodup
import WebRouting.Proofs.Regex.Run

/-! # Preference

`Regex.run` lists ends in an order of preference and keeps the preferred way to each place. Here the
order is compared with one that can be stated without a search: ways are ranked by lists of lengths, and
a way is preferred if its list is greater in the lexicographic order. `Ranked` says that cursors are
listed in this order and that no way to a place has been missed that is ranked higher than the one kept.
It carries over from part to part of a sequence (`Ranked.seq`) if each part lists its ends in the same
order, as a repeated class does that is greedy (`descending_run_rep_char`). -/

namespace WebRouting.Regex

variable {text : List Char} {allowed : CharClass} {c d : Cursor} {cursors : List Cursor}

/-! ## Kept cursors -/

theorem distinctFrom_sublist (seen : Std.ExtTreeSet Nat) (cursors : List Cursor) :
    (distinctFrom seen cursors).Sublist cursors := by
  induction cursors generalizing seen with
  | nil => exact .slnil
  | cons c cursors ih =>
    rw [distinctFrom]
    split
    · exact (ih seen).cons c
    · exact (ih _).cons_cons c

/-- What is kept is listed in the same order. -/
theorem distinct_sublist (cursors : List Cursor) : (distinct cursors).Sublist cursors :=
  distinctFrom_sublist ∅ cursors

theorem not_mem_of_mem_distinctFrom {seen : Std.ExtTreeSet Nat} (h : d ∈ distinctFrom seen cursors) :
    d.position ∉ seen := by
  induction cursors generalizing seen with
  | nil => exact absurd h List.not_mem_nil
  | cons c cursors ih =>
    rw [distinctFrom] at h
    split at h
    · exact ih h
    · next hc =>
      rcases List.mem_cons.mp h with rfl | h
      · exact fun hseen => hc (Std.ExtTreeSet.contains_iff_mem.mpr hseen)
      · exact fun hseen => ih h (Std.ExtTreeSet.mem_insert.mpr (.inr hseen))

theorem nodup_position_distinctFrom (seen : Std.ExtTreeSet Nat) (cursors : List Cursor) :
    ((distinctFrom seen cursors).map Cursor.position).Nodup := by
  induction cursors generalizing seen with
  | nil => exact .nil
  | cons c cursors ih =>
    rw [distinctFrom]
    split
    · exact ih seen
    · refine List.nodup_cons.mpr ⟨fun hmem => ?_, ih _⟩
      obtain ⟨d, hd, hposition⟩ := List.mem_map.mp hmem
      refine not_mem_of_mem_distinctFrom hd (Std.ExtTreeSet.mem_insert.mpr (.inl ?_))
      rw [hposition]
      exact Std.ReflCmp.compare_self

/-- One cursor is kept for each position. -/
theorem nodup_position_distinct (cursors : List Cursor) :
    ((distinct cursors).map Cursor.position).Nodup := nodup_position_distinctFrom ∅ cursors

/-! ## Longer ends first -/

/-- Later ends come first. -/
def Descending (cursors : List Cursor) : Prop := cursors.Pairwise fun x y => y.position < x.position

theorem eq_nil_or_singleton (h : cursors.length ≤ 1) : cursors = [] ∨ ∃ d, cursors = [d] :=
  (Nat.le_one_iff_eq_zero_or_eq_one.mp h).imp List.length_eq_zero_iff.mp List.length_eq_one_iff.mp

theorem Descending.distinct (h : Descending cursors) : Descending (distinct cursors) :=
  h.sublist (distinct_sublist cursors)

/-- With at most one way to go on, a repetition goes on nowhere or to one place further on. -/
theorem ahead_cases {step : Cursor → List Cursor} (hstep : (step c).length ≤ 1) (first : Nat) :
    (if c.position = first then [] else (step c).filter (c.position < ·.position)) = [] ∨
      ∃ d, (if c.position = first then [] else (step c).filter (c.position < ·.position)) = [d] ∧
        c.position < d.position := by
  split
  · exact .inl rfl
  · obtain hends | ⟨d, hends⟩ := eq_nil_or_singleton hstep
    · exact .inl (by rw [hends, List.filter_nil])
    · rw [hends]
      by_cases hlt : c.position < d.position
      · exact .inr ⟨d, List.filter_cons_of_pos (decide_eq_true hlt), hlt⟩
      · exact .inl (List.filter_cons_of_neg (by simpa using hlt))

/-- What a repetition finds that is greedy and has at most one way to go on: the ends of later rounds
are found first. -/
theorem exists_ends_moreRounds {step : Cursor → List Cursor} (hstep : ∀ c, (step c).length ≤ 1)
    (first fuel : Nat) (f : Found) (c : Cursor) :
    ∃ found, (moreRounds step true first fuel f c).ends = found ++ f.ends ∧
      Descending found.reverse ∧ ∀ e ∈ found, c.position ≤ e.position := by
  induction fuel generalizing f c with
  | zero => exact ⟨[], rfl, .nil, fun e he => absurd he List.not_mem_nil⟩
  | succ fuel ih =>
    rw [moreRounds]
    split
    · exact ⟨[], rfl, .nil, fun e he => absurd he List.not_mem_nil⟩
    · have hahead := ahead_cases (hstep c) first
      generalize (if c.position = first then []
        else (step c).filter (c.position < ·.position)) = ahead at hahead ⊢
      obtain rfl | ⟨d, rfl, hlt⟩ := hahead
      · exact ⟨[c], rfl, List.pairwise_singleton _ c, fun e he => by rw [List.mem_singleton.mp he]⟩
      · obtain ⟨found, hfound, hdescending, hle⟩ := ih (f.visit 0 c) d
        refine ⟨c :: found, congrArg (c :: ·) hfound, ?_, ?_⟩
        · rw [List.reverse_cons]
          refine List.pairwise_append.mpr ⟨hdescending, List.pairwise_singleton _ c, ?_⟩
          intro e he c' hc'
          rw [List.mem_singleton.mp hc']
          exact Nat.lt_of_lt_of_le hlt (hle e (List.mem_reverse.mp he))
        · refine List.forall_mem_cons.mpr ⟨Nat.le_refl _, fun e he => ?_⟩
          exact Nat.le_trans (Nat.le_of_lt hlt) (hle e he)

theorem descending_onceOrMore {step : Cursor → List Cursor} (hstep : ∀ c, (step c).length ≤ 1)
    (c : Cursor) : Descending (onceOrMore step true c) := by
  rw [onceOrMore]
  obtain hends | ⟨d, hends⟩ := eq_nil_or_singleton (hstep c)
  · rw [hends]
    exact .nil
  · obtain ⟨found, hfound, hdescending, -⟩ :=
      exists_ends_moreRounds hstep c.position (c.rest.length + 1) {} d
    rw [hends, List.foldl_cons, List.foldl_nil, hfound, List.append_nil]
    exact hdescending

/-- Some characters of a class are taken as many as possible. -/
theorem descending_run_rep_char (c : Cursor) :
    Descending ((rep (.char allowed) 1 none true).run c) := by
  have hstep : ∀ c, (run (.char allowed) c).length ≤ 1 := fun c => Option.length_toList_le
  have hrun : (rep (.char allowed) 1 none true).run c =
      distinct ([c].flatMap (onceOrMore (run (.char allowed)) true)) := rfl
  rw [hrun, List.flatMap_singleton]
  exact (descending_onceOrMore hstep c).distinct

/-! ## Ranks -/

/-- Of lists of one length that differ already, the order stays when more is appended. -/
theorem append_lt_append {first second u v : List Nat} (hlength : first.length = second.length)
    (h : first < second) : first ++ u < second ++ v := by
  induction first generalizing second with
  | nil =>
    obtain rfl := List.length_eq_zero_iff.mp hlength.symm
    exact absurd h (lt_irrefl _)
  | cons x first ih =>
    cases second with
    | nil => cases hlength
    | cons y second =>
      rw [List.cons_append, List.cons_append, List.cons_lt_cons_iff]
      refine (List.cons_lt_cons_iff.mp h).imp_right fun ⟨heq, hlt⟩ => ⟨heq, ?_⟩
      exact ih (Nat.succ.inj hlength) hlt

theorem append_le_append {first second : List Nat} (hlength : first.length = second.length)
    (h : first ≤ second) (u : List Nat) : first ++ u ≤ second ++ u := by
  rcases h.eq_or_lt with rfl | hlt
  · exact le_refl _
  · exact le_of_lt (append_lt_append hlength hlt)

theorem cons_le_cons_iff {x y : Nat} {first second : List Nat} :
    x :: first ≤ y :: second ↔ x < y ∨ x = y ∧ first ≤ second := by
  rw [le_iff_lt_or_eq, le_iff_lt_or_eq, List.cons_lt_cons_iff, List.cons.injEq]
  tauto

/-- The cursors of a relation are listed by their ranks, the greatest first, and for each place the one
of the greatest rank. -/
structure Ranked (R : Cursor → Prop) (rank : Cursor → List Nat) (cursors : List Cursor) : Prop where
  /-- What is listed is related. -/
  sound : ∀ x ∈ cursors, R x
  /-- One cursor is listed for each position. -/
  nodup : (cursors.map Cursor.position).Nodup
  /-- Greater ranks come first. -/
  sorted : cursors.Pairwise fun x y => rank y < rank x
  /-- Nothing that is related is ranked higher than the cursor listed at its position. -/
  greatest : ∀ d, R d → ∃ x ∈ cursors, x.position = d.position ∧ rank d ≤ rank x

namespace Ranked

variable {R : Cursor → Prop} {S : Cursor → Cursor → Prop} {rank rank' : Cursor → List Nat}
  {step : Cursor → List Cursor}

theorem singleton (c : Cursor) (rank : Cursor → List Nat) : Ranked (· = c) rank [c] where
  sound _ hx := List.mem_singleton.mp hx
  nodup := List.nodup_singleton _
  sorted := List.pairwise_singleton _ c
  greatest := by
    rintro d rfl
    exact ⟨d, List.mem_singleton_self d, rfl, le_refl _⟩

/-- Cursors stay ranked under one more part, if the rank grows by what depends on the length of the part
alone and the part lists its ends by their ranks. -/
theorem seq (h : Ranked R rank cursors) (hstep : Finds text step S) (hon : ∀ d, R d → d.On text)
    (hlength : ∀ x y, (rank x).length = (rank y).length) (more : Nat → List Nat)
    (hgrows : ∀ m d, S m d → rank' d = rank m ++ more (d.position - m.position))
    (hsorted : ∀ m, (step m).Pairwise fun x y => rank' y < rank' x) :
    Ranked (fun d => ∃ m, R m ∧ S m d) rank' (distinct (cursors.flatMap step)) := by
  have hflat : (cursors.flatMap step).Pairwise fun x y => rank' y < rank' x := by
    refine List.pairwise_flatMap.mpr ⟨fun m _ => hsorted m, h.sorted.imp fun {m n} hlt => ?_⟩
    -- what differs before the part decides
    intro x hx y hy
    rw [hgrows m x (hstep.sound m x hx), hgrows n y (hstep.sound n y hy)]
    exact append_lt_append (hlength n m) hlt
  refine ⟨?_, nodup_position_distinct _, hflat.sublist (distinct_sublist _), ?_⟩
  · intro x hx
    obtain ⟨m, hm, hx⟩ := List.mem_flatMap.mp (mem_of_mem_distinct hx)
    exact ⟨m, h.sound m hm, hstep.sound m x hx⟩
  · rintro d ⟨m, hm, hd⟩
    -- the cursor listed at the place between goes on to the same place
    obtain ⟨n, hn, hposition, hle⟩ := h.greatest m hm
    obtain ⟨e, he, heposition⟩ :=
      hstep.complete (hon m hm) (hon n (h.sound n hn)) hposition hd
    have hrank : rank' d ≤ rank' e := by
      rw [hgrows m d hd, hgrows n e (hstep.sound n e he), heposition, hposition]
      exact append_le_append (hlength m n) hle _
    obtain ⟨x, hx, hxposition, hfirst⟩ :=
      exists_first_mem_distinct hflat (List.mem_flatMap.mpr ⟨n, hn, he⟩)
    refine ⟨x, hx, hxposition.trans heposition, ?_⟩
    rcases hfirst with rfl | hlt
    · exact hrank
    · exact le_trans hrank (le_of_lt hlt)

/-- Nothing that is related is ranked higher than a cursor listed at its position. -/
theorem le_of_position (h : Ranked R rank cursors) (hc : c ∈ cursors) (hd : R d)
    (hposition : d.position = c.position) : rank d ≤ rank c := by
  obtain ⟨x, hx, hxposition, hle⟩ := h.greatest d hd
  have heq : x = c := List.inj_on_of_nodup_map h.nodup hx hc (hxposition.trans hposition)
  rwa [heq] at hle

end Ranked

/-! ## Runs in order -/

/-- From the start of a text the expression is run in the order of ranks. -/
def RunsRanked (text : List Char) (rank : Cursor → List Nat) (r : Regex) : Prop :=
  Ranked (r.Ends (.start text)) rank (r.run (.start text))

namespace RunsRanked

variable {rank rank' : Cursor → List Nat} {r : Regex} {items : List Regex}

theorem nil (text : List Char) (rank : Cursor → List Nat) :
    RunsRanked text rank (seqReversed []) := Ranked.singleton (.start text) rank

/-- A sequence is run in the order of ranks with one more item. -/
theorem cons (h : RunsRanked text rank (seqReversed items))
    (hlength : ∀ x y, (rank x).length = (rank y).length) (more : Nat → List Nat)
    (hgrows : ∀ m d, r.Ends m d → rank' d = rank m ++ more (d.position - m.position))
    (hsorted : ∀ m, (r.run m).Pairwise fun x y => rank' y < rank' x) :
    RunsRanked text rank' (seqReversed (r :: items)) := by
  refine Ranked.seq h (finds_run text r) (fun d hd => ?_) hlength more hgrows hsorted
  obtain ⟨w, hw⟩ := hd.passes
  exact (Cursor.On.start text).passes hw

/-- The characters of a text leave the ranks as they are. -/
theorem characters (h : RunsRanked text rank (seqReversed items))
    (hlength : ∀ x y, (rank x).length = (rank y).length)
    (hrank : ∀ m d : Cursor, d.captures = m.captures → rank d = rank m) (literal : List Char) :
    RunsRanked text rank
      (seqReversed ((literal.map fun x => .char (.single x)).reverse ++ items)) := by
  induction literal generalizing items with
  | nil => exact h
  | cons x literal ih =>
    rw [List.map_cons, List.reverse_cons, List.append_assoc]
    refine ih (h.cons hlength (fun _ => []) (fun m d hd => ?_) fun m => ?_)
    · obtain ⟨-, -, -, hcaptures⟩ := Cursor.advance?_eq_some_iff.mp hd
      rw [List.append_nil, hrank m d hcaptures]
    · rw [run]
      cases m.advance? (.single x) with
      | none => exact .nil
      | some d => exact List.pairwise_singleton _ d

end RunsRanked

/-- What is found for the whole text is among the ends of the expression. -/
theorem mem_run_of_search_wholeText {r : Regex} {text : String} {last : Cursor}
    (h : r.wholeText.search text = some last) : last ∈ r.run (.start text.toList) := by
  rw [search_wholeText] at h
  have hmem := List.mem_of_mem_head? (Option.mem_def.mpr h)
  -- the assertions at both ends stay where they are
  obtain ⟨m, hm, hend⟩ := List.mem_flatMap.mp (mem_of_mem_distinct hmem)
  obtain ⟨s, hs, hm⟩ := List.mem_flatMap.mp (mem_of_mem_distinct hm)
  obtain ⟨-, rfl⟩ := (finds_run [] (.assert .textEnd)).sound m last hend
  obtain ⟨e, rfl, -, rfl⟩ := (finds_run [] (.seq .empty (.assert .textStart))).sound _ s hs
  exact hm

/-- No way of matching the whole text is ranked higher than the one that is found. -/
theorem RunsRanked.le_of_search {rank : Cursor → List Nat} {r : Regex} {text : String}
    {last : Cursor} (h : RunsRanked text.toList rank r) (hlast : r.wholeText.search text = some last)
    (hd : r.Ends (.start text.toList) d) (hrest : d.rest = []) : rank d ≤ rank last := by
  obtain ⟨hfound, hend⟩ := ends_of_search_wholeText hlast
  refine h.le_of_position (mem_run_of_search_wholeText hlast) hd ?_
  -- both have the whole text before them
  obtain ⟨u, hu⟩ := hd.passes
  obtain ⟨v, hv⟩ := hfound.passes
  have hdlength := ((Cursor.On.start text.toList).passes hu).position_add_length
  have hlastlength := ((Cursor.On.start text.toList).passes hv).position_add_length
  rw [hrest, List.length_nil, Nat.add_zero] at hdlength
  rw [hend, List.length_nil, Nat.add_zero] at hlastlength
  exact hdlength.trans hlastlength.symm

end WebRouting.Regex
