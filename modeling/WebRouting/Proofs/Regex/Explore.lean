import Mathlib.Logic.Relation
import WebRouting.Proofs.Regex.Ends

/-! # Repetitions as searches

A repetition looks for its ends depth first and visits no place twice. `explore` is that search for
any way of going on from a place; the two searches of repetitions are instances of it. It finds
nothing but what can be reached (`explore_sound`), and where every step goes down in some rank it
misses nothing (`ended_of_reaches`): what has been visited is closed under steps
(`Found.Closed`), but for the places that are still being worked on, which have a higher rank. -/

namespace WebRouting.Regex

/-! ## What has been found -/

namespace Found

/-- The search has been at a position with so many rounds left. -/
def Visited (f : Found) (left position : Nat) : Prop := left ∈ f.visited.getD position []

/-- The search has found an end at a position. -/
def Ended (f : Found) (position : Nat) : Prop := ∃ e ∈ f.ends, e.position = position

/-- Nothing that has been found is forgotten. -/
structure Grows (f f' : Found) : Prop where
  /-- Visits stay. -/
  visited : ∀ {left position}, f.Visited left position → f'.Visited left position
  /-- Ends stay. -/
  ended : ∀ {position}, f.Ended position → f'.Ended position

theorem Grows.refl (f : Found) : f.Grows f := ⟨id, id⟩

theorem Grows.trans {f g h : Found} (h₁ : f.Grows g) (h₂ : g.Grows h) : f.Grows h :=
  ⟨fun hv => h₂.visited (h₁.visited hv), fun he => h₂.ended (h₁.ended he)⟩

theorem hasVisited_iff {f : Found} {left : Nat} {c : Cursor} :
    f.hasVisited left c = true ↔ f.Visited left c.position := by
  rw [hasVisited, Visited, List.contains_iff_mem]

@[simp] theorem visited_visit {f : Found} {left other position : Nat} {c : Cursor} :
    (f.visit left c).Visited other position ↔
      (other = left ∧ position = c.position) ∨ f.Visited other position := by
  rw [Visited, visit, Std.ExtTreeMap.getD_alter]
  by_cases h : c.position = position
  · subst h
    simp [Visited, Std.ExtTreeMap.getD_eq_getD_getElem?]
  · simp [Visited, h, Ne.symm h]

@[simp] theorem ended_stop {f : Found} {position : Nat} {c : Cursor} :
    (f.stop c).Ended position ↔ c.position = position ∨ f.Ended position := by
  simp [Ended, stop]

theorem grows_stop (f : Found) (c : Cursor) : f.Grows (f.stop c) := ⟨id, fun h => ended_stop.mpr (.inr h)⟩

theorem grows_visit (f : Found) (left : Nat) (c : Cursor) : f.Grows (f.visit left c) :=
  ⟨fun h => visited_visit.mpr (.inr h), id⟩

end Found

/-! ## The search -/

/-- Goes on from a cursor with a number of rounds left, where `next` tells how. -/
def explore (next : Nat → Cursor → List (Nat × Cursor)) (greedy : Bool) :
    (fuel : Nat) → Found → Nat × Cursor → Found
  | 0, f, _ => f
  | fuel + 1, f, (left, c) =>
    if f.hasVisited left c then f
    else goOn greedy c ((next left c).foldl (explore next greedy fuel)) (f.visit left c)

variable {next : Nat → Cursor → List (Nat × Cursor)} {greedy : Bool}

/-- The search reaches the second node from the first one. -/
def Reaches (next : Nat → Cursor → List (Nat × Cursor)) : Nat × Cursor → Nat × Cursor → Prop :=
  Relation.ReflTransGen fun a b => b ∈ next a.1 a.2

/-- Whatever order a repetition goes on in, it finds the place itself and what is next. -/
theorem mem_ends_goOn {c e : Cursor} {go : Found → Found} {f : Found} {P : Cursor → Prop}
    (hgo : ∀ f e, e ∈ (go f).ends → e ∈ f.ends ∨ P e) (h : e ∈ (goOn greedy c go f).ends) :
    e ∈ f.ends ∨ e = c ∨ P e := by
  cases greedy with
  | true =>
    rcases List.mem_cons.mp h with rfl | h
    · exact .inr (.inl rfl)
    · exact (hgo f e h).imp_right .inr
  | false =>
    rcases hgo _ e h with h | h
    · rcases List.mem_cons.mp h with rfl | h
      · exact .inr (.inl rfl)
      · exact .inl h
    · exact .inr (.inr h)

/-- Searching from several nodes finds what searching from one of them can find. -/
theorem mem_ends_foldl {search : Found → Nat × Cursor → Found} {P : Nat × Cursor → Cursor → Prop}
    (hsearch : ∀ f node e, e ∈ (search f node).ends → e ∈ f.ends ∨ P node e)
    (nodes : List (Nat × Cursor)) (f : Found) (e : Cursor) (h : e ∈ (nodes.foldl search f).ends) :
    e ∈ f.ends ∨ ∃ node ∈ nodes, P node e := by
  induction nodes generalizing f with
  | nil => exact .inl h
  | cons node nodes ih =>
    rcases ih (search f node) h with h | ⟨other, hother, hP⟩
    · exact (hsearch f node e h).imp_right fun hP => ⟨node, List.mem_cons_self, hP⟩
    · exact .inr ⟨other, List.mem_cons_of_mem node hother, hP⟩

/-- The search finds nothing but ends that it can reach. -/
theorem explore_sound (fuel : Nat) (f : Found) (node : Nat × Cursor) (e : Cursor)
    (h : e ∈ (explore next greedy fuel f node).ends) :
    e ∈ f.ends ∨ ∃ left, Reaches next node (left, e) := by
  -- on the fuel, which bounds how deep the search goes
  induction fuel generalizing f node e with
  | zero => exact .inl h
  | succ fuel ih =>
    obtain ⟨left, c⟩ := node
    rw [explore] at h
    split at h
    · exact .inl h
    · have hfold := mem_ends_foldl ih (next left c)
      rcases mem_ends_goOn hfold h with h | rfl | ⟨node, hnode, left', hreaches⟩
      · exact .inl h
      · exact .inr ⟨left, .refl⟩
      · exact .inr ⟨left', .head hnode hreaches⟩

/-! ## Nothing is missed -/

/-- The search goes on in the same way from all cursors at one position of the text, stays in the text,
and every step goes down in rank. -/
structure Descends (text : List Char) (next : Nat → Cursor → List (Nat × Cursor))
    (rank : Nat → Nat → Nat) : Prop where
  /-- Steps stay in the text. -/
  on : ∀ {left c node}, c.On text → node ∈ next left c → node.2.On text
  /-- Steps go down. -/
  lt : ∀ {left c node}, c.On text → node ∈ next left c →
    rank node.1 node.2.position < rank left c.position
  /-- Steps depend on the position alone. -/
  uniform : ∀ {left c c' node}, c.On text → c'.On text → c'.position = c.position →
    node ∈ next left c → ∃ node' ∈ next left c', node'.1 = node.1 ∧
      node'.2.position = node.2.position

/-- A step of the search between positions of the text. -/
def StepAt (text : List Char) (next : Nat → Cursor → List (Nat × Cursor)) (a b : Nat × Nat) :
    Prop :=
  ∃ c, c.On text ∧ c.position = a.2 ∧ ∃ node ∈ next a.1 c, node.1 = b.1 ∧ node.2.position = b.2

variable {text : List Char} {rank : Nat → Nat → Nat}

/-- Every visit below a rank has been followed by an end and by visits to all that is next. -/
def Found.Closed (text : List Char) (next : Nat → Cursor → List (Nat × Cursor))
    (rank : Nat → Nat → Nat) (bound : Nat) (f : Found) : Prop :=
  ∀ left position, f.Visited left position → rank left position < bound →
    f.Ended position ∧ ∀ b, StepAt text next (left, position) b → f.Visited b.1 b.2

theorem Found.Closed.stop {f : Found} {bound : Nat} (h : f.Closed text next rank bound) (c : Cursor) :
    (f.stop c).Closed text next rank bound := fun left position hvisited hrank =>
  ⟨(f.grows_stop c).ended (h left position hvisited hrank).1, (h left position hvisited hrank).2⟩

/-- What a search from nodes below a rank has done: it has visited them, nothing else that is not
below the rank, and its visits are closed. -/
structure Explored (text : List Char) (next : Nat → Cursor → List (Nat × Cursor))
    (rank : Nat → Nat → Nat) (bound : Nat) (nodes : List (Nat × Cursor)) (f f' : Found) :
    Prop where
  /-- Nothing is forgotten. -/
  grows : f.Grows f'
  /-- The nodes have been visited. -/
  visited : ∀ node ∈ nodes, f'.Visited node.1 node.2.position
  /-- New visits are below the rank. -/
  new : ∀ {left position}, f'.Visited left position →
    f.Visited left position ∨ rank left position < bound
  /-- Visits below the rank are closed. -/
  closed : f'.Closed text next rank bound

/-- Searching from several nodes, given what searching from one of them does. -/
theorem Explored.foldl {search : Found → Nat × Cursor → Found} {bound : Nat}
    (nodes : List (Nat × Cursor))
    (hsearch : ∀ node ∈ nodes, ∀ f, f.Closed text next rank bound →
      Explored text next rank bound [node] f (search f node))
    (f : Found) (hf : f.Closed text next rank bound) :
    Explored text next rank bound nodes f (nodes.foldl search f) := by
  induction nodes generalizing f with
  | nil => exact ⟨.refl f, fun _ h => absurd h List.not_mem_nil, .inl, hf⟩
  | cons node nodes ih =>
    have hfirst := hsearch node List.mem_cons_self f hf
    -- the first search leaves what the others need: its visits are closed
    have hothers := ih (fun other h => hsearch other (List.mem_cons_of_mem node h)) (search f node)
      hfirst.closed
    refine ⟨hfirst.grows.trans hothers.grows, fun other hother => ?_, fun hvisited => ?_,
      hothers.closed⟩
    · rcases List.mem_cons.mp hother with rfl | hother
      · exact hothers.grows.visited (hfirst.visited other List.mem_cons_self)
      · exact hothers.visited other hother
    · exact (hothers.new hvisited).elim hfirst.new .inr

/-- A node has been explored once its steps have been searched and its own place is an end. -/
theorem Explored.node {left : Nat} {c : Cursor} {bound : Nat} {f f' : Found}
    (h : Descends text next rank) (hc : c.On text) (hbound : rank left c.position < bound)
    (hf : f.Closed text next rank bound) (hended : f'.Ended c.position)
    (hsteps : Explored text next rank (rank left c.position) (next left c) (f.visit left c) f') :
    Explored text next rank bound [(left, c)] f f' := by
  have hgrows : f.Grows f' := (f.grows_visit left c).trans hsteps.grows
  refine ⟨hgrows, fun node hnode => ?_, fun hvisited => ?_,
    fun other position hvisited hrank => ?_⟩
  · obtain rfl := List.mem_singleton.mp hnode
    exact hsteps.grows.visited (Found.visited_visit.mpr (.inl ⟨rfl, rfl⟩))
  · rcases hsteps.new hvisited with hvisited | hrank
    · rcases Found.visited_visit.mp hvisited with ⟨rfl, rfl⟩ | hvisited
      · exact .inr hbound
      · exact .inl hvisited
    · exact .inr (Nat.lt_trans hrank hbound)
  · rcases hsteps.new hvisited with hold | hbelow
    · rcases Found.visited_visit.mp hold with ⟨rfl, rfl⟩ | hold
      · -- the node itself: what is next after its position is next after its cursor
        refine ⟨hended, fun b ⟨c', hc', hposition, node', hnode', hleft, hnext⟩ => ?_⟩
        obtain ⟨node, hnode, hleft', hnext'⟩ := h.uniform hc' hc hposition.symm hnode'
        have hvisited' := hsteps.visited node hnode
        rwa [hleft', hnext', hleft, hnext] at hvisited'
      -- a visit from before stays closed
      · obtain ⟨hended', hnext⟩ := hf _ _ hold hrank
        exact ⟨hgrows.ended hended', fun b hb => hgrows.visited (hnext b hb)⟩
    · exact hsteps.closed _ _ hvisited hbelow

/-- Searching with enough fuel from a node below a rank. -/
theorem explore_explored (h : Descends text next rank) (fuel : Nat) {left : Nat} {c : Cursor}
    {bound : Nat} {f : Found} (hc : c.On text) (hfuel : rank left c.position < fuel)
    (hbound : rank left c.position < bound) (hf : f.Closed text next rank bound) :
    Explored text next rank bound [(left, c)] f (explore next greedy fuel f (left, c)) := by
  induction fuel generalizing left c bound f with
  | zero => exact absurd hfuel (Nat.not_lt_zero _)
  | succ fuel ih =>
    rw [explore]
    split
    · next hvisited =>
      refine ⟨.refl f, fun node hnode => ?_, .inl, hf⟩
      obtain rfl := List.mem_singleton.mp hnode
      exact Found.hasVisited_iff.mp hvisited
    · -- the node is open while its steps are searched: only what is below it is closed then
      have hopen : (f.visit left c).Closed text next rank (rank left c.position) := by
        intro other position hvisited hrank
        rcases Found.visited_visit.mp hvisited with ⟨rfl, rfl⟩ | hvisited
        · exact absurd hrank (Nat.lt_irrefl _)
        · obtain ⟨hended, hsteps⟩ := hf _ _ hvisited (Nat.lt_trans hrank hbound)
          exact ⟨hended, fun b hb => (f.grows_visit left c).visited (hsteps b hb)⟩
      have hfold : ∀ g : Found, g.Closed text next rank (rank left c.position) →
          Explored text next rank (rank left c.position) (next left c) g
            ((next left c).foldl (explore next greedy fuel) g) := by
        refine Explored.foldl (next left c) fun node hnode g hg => ?_
        have hlt := h.lt hc hnode
        exact ih (h.on hc hnode) (by omega) hlt hg
      cases greedy with
      | true =>
        have hsteps := hfold (f.visit left c) hopen
        exact .node h hc hbound hf (Found.ended_stop.mpr (.inl rfl))
          ⟨hsteps.grows.trans (Found.grows_stop _ c), hsteps.visited, hsteps.new,
            hsteps.closed.stop c⟩
      | false =>
        have hsteps := hfold ((f.visit left c).stop c) (hopen.stop c)
        exact .node h hc hbound hf (hsteps.grows.ended (Found.ended_stop.mpr (.inl rfl)))
          ⟨(Found.grows_stop _ c).trans hsteps.grows, hsteps.visited, hsteps.new, hsteps.closed⟩

/-- The empty search is closed. -/
theorem closed_empty (bound : Nat) : ({} : Found).Closed text next rank bound := by
  intro left position hvisited
  simp [Found.Visited] at hvisited

/-- Where all visits below a rank are closed, every position that can be reached from a visit below
the rank is an end. -/
theorem ended_of_reaches (h : Descends text next rank) {bound : Nat} {f : Found}
    (hf : f.Closed text next rank bound) {a b : Nat × Nat}
    (hreaches : Relation.ReflTransGen (StepAt text next) a b) (hvisited : f.Visited a.1 a.2)
    (hrank : rank a.1 a.2 < bound) : f.Ended b.2 := by
  -- from the start of the path: each step leads to a visit of lower rank
  induction hreaches using Relation.ReflTransGen.head_induction_on with
  | refl => exact (hf _ _ hvisited hrank).1
  | head hstep _ ih =>
    refine ih ((hf _ _ hvisited hrank).2 _ hstep) ?_
    obtain ⟨c, hc, hposition, node, hnode, hleft, hnext⟩ := hstep
    have hlt := h.lt hc hnode
    rw [hposition, hleft, hnext] at hlt
    exact Nat.lt_trans hlt hrank

end WebRouting.Regex
