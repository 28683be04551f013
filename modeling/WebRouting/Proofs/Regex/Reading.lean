import WebRouting.Proofs.Regex.Token

/-! # Patterns inside a group

A pattern that means something by itself means the same between the parentheses of a group in a longer
pattern (`Reading.run?_group`), unless it sets flags that would outlast it. While the pattern is read,
the two readings differ only in the groups around it and in the names in use (`Within`). Escaped text
is read as its characters wherever no flags are set (`Reading.run?_escape`). -/

namespace WebRouting.Regex

variable {flags : Flags} {c : Char} {cs more rest t : List Char}

/-- Whether the token changes the flags for the rest of a group. -/
def Token.setsFlags : Token → Bool
  | .setFlags _ => true
  | _ => false

/-- The tokens of a pattern, up to the first one that cannot be read or taken. -/
def Reading.tokens (r : Reading) (cs : List Char) : List Token :=
  match next? r.flags cs with
  | none => []
  | some (c, more) =>
    match readToken? r.flags c more with
    | none => []
    | some (token, rest) =>
      if rest.length < cs.length then
        match r.take? token with
        | none => []
        | some r => token :: tokens r rest
      else []
termination_by cs.length
decreasing_by assumption

/-- Whether a pattern sets flags for no more than groups of their own. -/
def SetsNoFlags (pattern : List Char) : Prop :=
  ∀ token ∈ Reading.tokens {} pattern, token.setsFlags = false

instance (pattern : List Char) : Decidable (SetsNoFlags pattern) := List.decidableBAll _ _

namespace Reading

variable {r r' s s' out : Reading} {base : List OpenGroup} {token : Token}

/-! ## One token -/

theorem run?_of_next? (hnext : next? r.flags cs = some (c, more))
    (htoken : readToken? r.flags c more = some (token, rest)) (hlt : rest.length < cs.length) :
    r.run? cs = (r.take? token).bind (·.run? rest) := by
  rw [run?, hnext]
  simp only [htoken, if_pos hlt]
  cases r.take? token <;> rfl

theorem tokens_of_next? (hnext : next? r.flags cs = some (c, more))
    (htoken : readToken? r.flags c more = some (token, rest)) (hlt : rest.length < cs.length)
    (htake : r.take? token = some s) : r.tokens cs = token :: s.tokens rest := by
  rw [tokens, hnext]
  simp only [htoken, if_pos hlt, htake]

theorem take?_groupEnd {g : OpenGroup} {outer : List OpenGroup} (h : r.outer = g :: outer) :
    r.take? .groupEnd = some { r with level := g.around r.level, flags := g.flags, outer } := by
  simp only [take?, h]

/-- Only an open group can be closed. -/
theorem exists_of_groupEnd (h : r.take? .groupEnd = some s) : ∃ g outer, r.outer = g :: outer ∧
    s = { r with level := g.around r.level, flags := g.flags, outer } := by
  cases houter : r.outer with
  | nil => rw [take?, houter] at h; cases h
  | cons g outer =>
    rw [take?_groupEnd houter] at h
    cases h
    exact ⟨g, outer, rfl, rfl⟩

/-- A group that captures is opened in the same way with and without a name, which is then in use. -/
theorem exists_of_capture {name : Option String} (h : r.take? (.capture name) = some s) :
    ∃ names, s = { r.openGroup r.flags true name with names } := by
  cases name with
  | none => cases h; exact ⟨r.names, rfl⟩
  | some name =>
    rw [take?] at h
    split at h
    · cases h
    · cases h; exact ⟨name :: r.names, rfl⟩

/-- An expression has been read where every group has been closed. -/
theorem finish?_eq_some_iff {expression : Regex} :
    r.finish? = some expression ↔ r.outer = [] ∧ r.level.value = expression := by
  rw [finish?, Option.ite_none_right_eq_some, List.isEmpty_iff, Option.some_inj]

theorem run?_of_next?_eq_none (h : next? r.flags cs = none) : r.run? cs = some r := by
  rw [run?, h]

theorem next?_nil (flags : Flags) : next? flags [] = none := by
  rw [next?, skip]
  cases flags.ignoreBlank <;> rfl

/-- The readings of a pattern that come to its end, token by token. -/
inductive Reads (out : Reading) : Reading → List Char → Prop where
  /-- Nothing significant is left. -/
  | done {cs : List Char} (hnext : next? out.flags cs = none) : Reads out out cs
  /-- A token is read and taken. -/
  | token {r s : Reading} {cs more rest : List Char} {c : Char} {token : Token}
      (hnext : next? r.flags cs = some (c, more))
      (htoken : readToken? r.flags c more = some (token, rest)) (hlt : rest.length < cs.length)
      (htake : r.take? token = some s) (hrest : Reads out s rest) : Reads out r cs

/-- A pattern is read to its end exactly if each of its tokens can be read and taken. -/
theorem run?_eq_some_iff : r.run? cs = some out ↔ Reads out r cs := by
  constructor
  · intro h
    induction r, cs using run?.induct with
    | case1 r cs hnext =>
      rw [run?_of_next?_eq_none hnext] at h
      cases h
      exact .done hnext
    | case2 r cs c more hnext htoken =>
      rw [run?, hnext] at h
      simp only [htoken] at h
      cases h
    | case3 r cs c more hnext token rest htoken hlt htake =>
      rw [run?_of_next? hnext htoken hlt, htake] at h
      cases h
    | case4 r cs c more hnext token rest htoken hlt s htake ih =>
      rw [run?_of_next? hnext htoken hlt, htake, Option.bind_some] at h
      exact .token hnext htoken hlt htake (ih h)
    | case5 r cs c more hnext token rest htoken hlt =>
      rw [run?, hnext] at h
      simp only [htoken, if_neg hlt] at h
      cases h
  · intro h
    induction h with
    | done hnext => exact run?_of_next?_eq_none hnext
    | token hnext htoken hlt htake _ ih => rw [run?_of_next? hnext htoken hlt, htake]; exact ih

/-- The flags in force outside all groups that are open. -/
def outermostFlags (r : Reading) : Flags := (r.outer.getLast?.map OpenGroup.flags).getD r.flags

theorem outermostFlags_openGroup (r : Reading) (flags : Flags) (captures : Bool)
    (name : Option String) : (r.openGroup flags captures name).outermostFlags = r.outermostFlags := by
  rw [outermostFlags, outermostFlags, openGroup, List.getLast?_cons]
  cases r.outer.getLast? <;> rfl

theorem outermostFlags_take? (h : r.take? token = some s) (htoken : token.setsFlags = false) :
    s.outermostFlags = r.outermostFlags := by
  cases token with
  | atom => cases h; rfl
  | quantifier =>
    obtain ⟨level, -, rfl⟩ := Option.map_eq_some_iff.mp h
    rfl
  | capture name =>
    obtain ⟨names, rfl⟩ := exists_of_capture h
    exact outermostFlags_openGroup r r.flags true name
  | group flags => cases h; exact outermostFlags_openGroup r flags false none
  | setFlags => cases htoken
  | groupEnd =>
    obtain ⟨g, outer, houter, rfl⟩ := exists_of_groupEnd h
    rw [outermostFlags, outermostFlags, houter, List.getLast?_cons]
    cases outer.getLast? <;> rfl
  | bar => cases h; rfl

/-! ## Readings within others -/

/-- The second reading is the first one within further open groups. -/
structure Within (base : List OpenGroup) (r r' : Reading) : Prop where
  /-- They have the same flags. -/
  flags : r'.flags = r.flags
  /-- They have the same level. -/
  level : r'.level = r.level
  /-- The groups are around the others. -/
  outer : r'.outer = r.outer ++ base

theorem Within.openGroup (h : Within base r r') (flags : Flags) (captures : Bool)
    (name : Option String) :
    Within base (r.openGroup flags captures name) (r'.openGroup flags captures name) where
  flags := rfl
  level := rfl
  outer := by
    rw [Reading.openGroup, Reading.openGroup, h.flags, h.level, h.outer, List.cons_append]

/-- Taking a token keeps the difference between two readings. -/
theorem Within.take? (h : Within base r r') (hs : r.take? token = some s)
    (hs' : r'.take? token = some s') : Within base s s' := by
  cases token with
  | atom a depth =>
    cases hs
    cases hs'
    exact ⟨h.flags, by rw [h.level], h.outer⟩
  | quantifier least most greedy =>
    rw [Reading.take?, h.level] at hs'
    obtain ⟨level, hlevel, rfl⟩ := Option.map_eq_some_iff.mp hs
    rw [hlevel] at hs'
    cases hs'
    exact ⟨h.flags, rfl, h.outer⟩
  | capture name =>
    -- both take the name, whichever names each of them has in use
    obtain ⟨names, rfl⟩ := exists_of_capture hs
    obtain ⟨names', rfl⟩ := exists_of_capture hs'
    have hgroup := h.openGroup r.flags true name
    rw [h.flags]
    exact ⟨hgroup.flags, hgroup.level, hgroup.outer⟩
  | group flags =>
    cases hs
    cases hs'
    exact h.openGroup flags false none
  | setFlags flags =>
    cases hs
    cases hs'
    exact ⟨rfl, by rw [h.level], h.outer⟩
  | groupEnd =>
    obtain ⟨g, outer, houter, rfl⟩ := exists_of_groupEnd hs
    rw [take?_groupEnd (by rw [h.outer, houter, List.cons_append])] at hs'
    cases hs'
    exact ⟨rfl, by rw [h.level], rfl⟩
  | bar =>
    cases hs
    cases hs'
    exact ⟨h.flags, by rw [h.level], h.outer⟩

theorem take?_groupEnd_of_closed (h : r.take? token = some s) (hopen : r.outer ≠ [])
    (hclosed : s.outer = []) : token = .groupEnd := by
  cases token with
  | groupEnd => rfl
  | atom => cases h; exact absurd hclosed hopen
  | quantifier =>
    obtain ⟨level, -, rfl⟩ := Option.map_eq_some_iff.mp h
    exact absurd hclosed hopen
  | capture name =>
    obtain ⟨names, rfl⟩ := exists_of_capture h
    cases hclosed
  | group => cases h; cases hclosed
  | setFlags => cases h; exact absurd hclosed hopen
  | bar => cases h; exact absurd hclosed hopen

theorem outermostFlags_of_closed (h : r.outer = []) : r.outermostFlags = r.flags := by
  rw [outermostFlags, h]
  rfl

/-- The first token of a pattern that is read to its end is read in the same way within open groups, with
a parenthesis behind the pattern. -/
theorem Within.run?_token {fin : Reading} (hr : Within base r r')
    (hnext : next? r.flags cs = some (c, more))
    (htoken : readToken? r.flags c more = some (token, rest)) (hlt : rest.length < cs.length)
    (htake : r.take? token = some s) (h : s.run? rest = some fin) (hclosed : fin.outer = [])
    (hflags : r.outermostFlags = {}) (t : List Char) :
    r'.run? (cs ++ ')' :: t) = (r'.take? token).bind (·.run? (rest ++ ')' :: t)) := by
  -- a comment reaches the end of the pattern in no group that is still open
  have hrest : r.flags.ignoreBlank = false ∨ rest ≠ [] ∨ token = .groupEnd := by
    by_cases hnil : rest = []
    · rw [hnil, run?_of_next?_eq_none (next?_nil s.flags)] at h
      cases h
      by_cases houter : r.outer = []
      · rw [outermostFlags_of_closed houter] at hflags
        exact .inl (by rw [hflags])
      · exact .inr (.inr (take?_groupEnd_of_closed htake houter hclosed))
    · exact .inr (.inl hnil)
  have hnext' := next?_append hnext (')' :: t)
  have htoken' := readToken?_append htoken hrest t
  rw [← hr.flags] at hnext' htoken'
  exact run?_of_next? hnext' htoken' (length_append_lt hlt _)

/-- A pattern that is read to its end is read in the same way within open groups, up to the
parenthesis that closes the innermost of them. -/
theorem run?_append {fin : Reading} (h : r.run? cs = some fin) (hclosed : fin.outer = [])
    (htokens : ∀ token ∈ r.tokens cs, token.setsFlags = false) (hflags : r.outermostFlags = {})
    (hr : Within base r r') (h' : r'.run? (cs ++ ')' :: t) = some out) :
    ∃ s, Within base fin s ∧ fin.flags = {} ∧ s.run? (')' :: t) = some out := by
  -- on the tokens of the pattern
  induction r, cs using run?.induct generalizing r' with
  -- the end: no group is left open, so no comment can hide what follows
  | case1 r cs hnext =>
    rw [run?_of_next?_eq_none hnext] at h
    cases h
    rw [outermostFlags_of_closed hclosed] at hflags
    rw [hflags] at hnext
    cases cs with
    | nil => exact ⟨r', hr, hflags, h'⟩
    | cons c cs => cases hnext
  | case2 r cs c more hnext htoken =>
    rw [run?, hnext] at h
    simp only [htoken] at h
    cases h
  | case3 r cs c more hnext token rest htoken hlt htake =>
    rw [run?_of_next? hnext htoken hlt, htake] at h
    cases h
  | case4 r cs c more hnext token rest htoken hlt s htake ih =>
    rw [run?_of_next? hnext htoken hlt, htake, Option.bind_some] at h
    rw [tokens_of_next? hnext htoken hlt htake, List.forall_mem_cons] at htokens
    -- the same token within the groups, and both readings take it
    rw [hr.run?_token hnext htoken hlt htake h hclosed hflags t] at h'
    obtain ⟨s', hs', h'⟩ := Option.bind_eq_some_iff.mp h'
    have hflags' := (outermostFlags_take? htake htokens.1).trans hflags
    exact ih h htokens.2 hflags' (hr.take? htake hs') h'
  | case5 r cs c more hnext token rest htoken hlt =>
    rw [run?, hnext] at h
    simp only [htoken, if_neg hlt] at h
    cases h

/-! ## Groups -/

/-- A pattern that means something by itself means the same in a group. -/
theorem run?_group {g : OpenGroup} {pattern : List Char} {expression : Regex}
    (hparse : parse? pattern = some expression) (hpattern : SetsNoFlags pattern)
    (hflags : r.flags = {}) (hlevel : r.level = {}) (houter : r.outer = g :: base)
    (h : r.run? (pattern ++ ')' :: t) = some out) :
    ∃ (s : Reading) (depth : Nat), s.flags = g.flags ∧
      s.level = g.level.add (g.close expression) depth ∧ s.outer = base ∧ s.run? t = some out := by
  obtain ⟨fin, hfin, hfinish⟩ := Option.bind_eq_some_iff.mp hparse
  obtain ⟨hclosed, rfl⟩ := finish?_eq_some_iff.mp hfinish
  -- the pattern is read from nothing and inside the group
  have hwithin : Within (g :: base) {} r := ⟨hflags, hlevel, houter⟩
  obtain ⟨s, hs, hflags, h⟩ := run?_append hfin hclosed hpattern rfl hwithin h
  have hnext : next? s.flags (')' :: t) = some (')', t) := by
    rw [hs.flags, hflags]
    rfl
  have hopen : s.outer = g :: base := by rw [hs.outer, hclosed, List.nil_append]
  rw [run?_of_next? hnext rfl (Nat.lt_succ_self _), take?_groupEnd hopen] at h
  exact ⟨_, _, rfl, by rw [OpenGroup.around, hs.level], rfl, h⟩

/-! ## Escaped text -/

theorem readEscape?_of_isSpecial (flags : Flags) (h : isSpecial c = true) (cs : List Char) :
    readEscape? flags (c :: cs) = some (.literal c, cs) := by
  rw [isSpecial, decide_eq_true_iff] at h
  revert c
  -- one case for each special character
  simp only [specialCharacters, List.forall_mem_cons]
  and_intros
  all_goals first | rfl | simp

theorem readToken?_of_not_isSpecial (flags : Flags) (h : isSpecial c = false) (cs : List Char) :
    readToken? flags c cs = some (.atom (literal flags c) 0, cs) := by
  unfold readToken?
  split
  case h_13 => rfl
  all_goals exact absurd h (by decide)

/-- The pattern of one character is read as the character. -/
theorem run?_escapeChar (hflags : r.flags = {}) (c : Char) (t : List Char) :
    r.run? (escapeChar c ++ t) =
      ({ r with level := r.level.add (.char (.single c)) 0 } : Reading).run? t := by
  rw [escapeChar]
  cases hc : isSpecial c with
  | true =>
    have hnext : next? r.flags ('\\' :: c :: t) = some ('\\', c :: t) := by rw [hflags]; rfl
    have htoken : readToken? r.flags '\\' (c :: t) = some (.atom (.char (.single c)) 0, t) := by
      rw [readToken?, readEscape?_of_isSpecial r.flags hc, hflags]
      rfl
    rw [if_pos rfl]
    exact run?_of_next? hnext htoken (by simp only [List.length_cons]; omega)
  | false =>
    have hnext : next? r.flags (c :: t) = some (c, t) := by rw [hflags]; rfl
    have htoken : readToken? r.flags c t = some (.atom (.char (.single c)) 0, t) := by
      rw [readToken?_of_not_isSpecial r.flags hc, hflags]
      rfl
    rw [if_neg (by decide)]
    exact run?_of_next? hnext htoken (Nat.lt_succ_self _)

/-- One reading after the other of further items of the same branch. -/
structure Adds (r : Reading) (items : List Regex) (s : Reading) : Prop where
  /-- The flags are the same. -/
  flags : s.flags = r.flags
  /-- The finished branches are the same. -/
  branches : s.level.branches = r.level.branches
  /-- The items have been read. -/
  items : s.level.items = items.reverse ++ r.level.items
  /-- The groups around are the same. -/
  outer : s.outer = r.outer
  /-- How deep the items before them are nested is kept. -/
  depths : r.level.depths ⊆ s.level.depths

theorem Adds.refl (r : Reading) : r.Adds [] r := ⟨rfl, rfl, rfl, rfl, List.Subset.refl _⟩

/-- One more item on the level is read. -/
theorem Adds.single {item : Regex} {depth : Nat} (hflags : s.flags = r.flags)
    (hlevel : s.level = r.level.add item depth) (houter : s.outer = r.outer) : r.Adds [item] s where
  flags := hflags
  branches := by rw [hlevel]; rfl
  items := by rw [hlevel]; rfl
  outer := houter
  depths := by rw [hlevel]; exact List.subset_cons_self ..

theorem Adds.trans {items items' : List Regex} (h : r.Adds items r') (h' : r'.Adds items' s) :
    r.Adds (items ++ items') s where
  flags := h'.flags.trans h.flags
  branches := h'.branches.trans h.branches
  items := by rw [h'.items, h.items, List.reverse_append, List.append_assoc]
  outer := h'.outer.trans h.outer
  depths := List.Subset.trans h.depths h'.depths

/-- Escaped text is read as its characters, and no name is used for it. -/
theorem run?_escape (hflags : r.flags = {}) (text t : List Char) :
    ∃ s, r.Adds (text.map fun c => .char (.single c)) s ∧ s.names = r.names ∧
      r.run? (escape text ++ t) = s.run? t := by
  induction text generalizing r with
  | nil => exact ⟨r, .refl r, rfl, rfl⟩
  | cons c text ih =>
    obtain ⟨s, hs, hnames, hrun⟩ :=
      ih (r := { r with level := r.level.add (.char (.single c)) 0 }) hflags
    have hfirst : r.Adds [.char (.single c)] { r with level := r.level.add (.char (.single c)) 0 } :=
      .single rfl rfl rfl
    refine ⟨s, hfirst.trans hs, hnames, ?_⟩
    rw [escape, List.flatMap_cons, List.append_assoc, run?_escapeChar hflags]
    exact hrun

end Reading

end WebRouting.Regex
