import WebRouting.Proofs.Regex.Cut.Token
import WebRouting.Proofs.Regex.Reading

/-! # Groups that are closed

Inside a group a pattern is read as it is by itself up to the parenthesis that closes the group
(`Reading.exists_run?_of_closed`): whatever the pattern is, if in the end every group has been closed, some
parenthesis closes this one, and what stands before it means something by itself. The reason is a count.
A reader that takes the parenthesis behind the pattern for something else has passed it, and what is left
has too few parentheses for the groups that are open (`Reading.outer_ne_nil_of_closers`). -/

namespace WebRouting.Regex

variable {flags : Flags} {c : Char} {cs more rest p t : List Char} {token : Token}

/-! ## Counting parentheses -/

/-- How many closing parentheses no backslash escapes, given whether one before the text escapes its
first character. -/
def closersFrom (before : Bool) : List Char → Nat
  | [] => 0
  | c :: cs => closersFrom (!before && c = '\\') cs + if !before && c = ')' then 1 else 0

/-- How many closing parentheses no backslash escapes. -/
def closers (cs : List Char) : Nat := closersFrom false cs

@[simp] theorem closers_nil : closers [] = 0 := rfl

@[simp] theorem closers_paren (cs : List Char) : closers (')' :: cs) = closers cs + 1 := rfl

theorem closersFrom_append (before : Bool) (u v : List Char) :
    closersFrom before (u ++ v) = closersFrom before u + closersFrom (pending before u) v := by
  induction u generalizing before with
  | nil => simp [closersFrom, pending]
  | cons x u ih =>
    have hu := ih (!before && x = '\\')
    simp only [List.cons_append, closersFrom, pending_cons, hu]
    omega

theorem Settled.closers_append {u : List Char} (hu : Settled u) (v : List Char) :
    closers (u ++ v) = closers u + closers v := by
  rw [closers, closersFrom_append, hu]
  rfl

/-- Escaped text closes no group. -/
@[simp] theorem closers_escape_append (text t : List Char) :
    closers (escape text ++ t) = closers t := by
  induction text with
  | nil => rfl
  | cons x text ih =>
    rw [escape, List.flatMap_cons, List.append_assoc, ← escape, escapeChar]
    cases hx : isSpecial x with
    | true => exact ih
    | false =>
      have hparen : x ≠ ')' := by rintro rfl; exact absurd hx (by decide)
      have hbackslash : x ≠ '\\' := by rintro rfl; exact absurd hx (by decide)
      have hsettled : Settled [x] := .cons hbackslash .nil
      have hone : closers [x] = 0 := by simp [closers, closersFrom, hparen]
      have hcount := hsettled.closers_append (escape text ++ t)
      rw [hone, ih, Nat.zero_add] at hcount
      exact hcount

/-- What a reader leaves starts before a parenthesis ahead, or has no more parentheses than what is behind
it. -/
theorem cut_or_closers_le {u : List Char} (h : p ++ ')' :: t = u ++ rest)
    (hu : rest ≠ [] → Settled u) :
    (∃ q, p = u ++ q ∧ rest = q ++ ')' :: t) ∨ closers rest ≤ closers t := by
  obtain ⟨a, rfl, ha⟩ | ⟨q, rfl, hq⟩ := List.append_eq_append_iff.mp h
  · cases a with
    | nil => exact .inl ⟨[], by simp, by simpa using ha.symm⟩
    | cons x a =>
      rw [List.cons_append, List.cons.injEq] at ha
      obtain ⟨rfl, rfl⟩ := ha
      -- the parenthesis itself has been passed, and it escapes nothing
      refine .inr ?_
      by_cases hrest : rest = []
      · simp [hrest]
      · have hsettled : Settled a := by
          have hpassed := hu hrest
          rw [Settled, ← List.singleton_append, ← List.append_assoc, pending_append,
            pending_concat false p (by decide)] at hpassed
          exact hpassed
        rw [hsettled.closers_append]
        omega
  · exact .inl ⟨q, rfl, hq⟩

namespace Token

/-- How many groups a token closes. -/
def closes : Token → Nat
  | groupEnd => 1
  | _ => 0

end Token

/-- Only a parenthesis closes a group. -/
theorem eq_paren_of_groupEnd (h : readToken? flags c cs = some (.groupEnd, rest)) :
    c = ')' ∧ rest = cs := readFrom_of_readToken? h

/-- A token takes the parentheses that close its groups. -/
theorem closers_add_closes_le (h : readToken? flags c cs = some (token, rest)) :
    closers rest + token.closes ≤ closers (c :: cs) := by
  cases token with
  | groupEnd =>
    obtain ⟨rfl, rfl⟩ := eq_paren_of_groupEnd h
    exact Nat.le_refl _
  | _ =>
    obtain ⟨u, rfl, hu, -⟩ := readToken?_cut h
    by_cases hrest : rest = []
    · simp [hrest, Token.closes]
    · have hcount := (hu hrest).closers_append rest
      rw [List.cons_append] at hcount
      simp only [Token.closes]
      omega

namespace Reading

variable {r s r' s' l out : Reading} {base : List OpenGroup}

/-- A token closes no more groups than it says. -/
theorem length_outer_le (h : r.take? token = some s) :
    r.outer.length ≤ s.outer.length + token.closes := by
  cases token with
  | quantifier =>
    obtain ⟨level, -, rfl⟩ := Option.map_eq_some_iff.mp h
    simp
  | capture name =>
    obtain ⟨names, rfl⟩ := exists_of_capture h
    simp [openGroup]
    omega
  | groupEnd =>
    obtain ⟨g, outer, houter, rfl⟩ := exists_of_groupEnd h
    simp [houter, Token.closes]
  | group => cases h; simp [openGroup]; omega
  | _ => cases h; simp

/-- With fewer parentheses ahead than there are groups open, some group stays open. -/
theorem outer_ne_nil_of_closers (h : r.run? cs = some out) (hcount : closers cs < r.outer.length) :
    out.outer ≠ [] := by
  -- on the tokens of the pattern
  induction run?_eq_some_iff.mp h with
  | done => exact List.ne_nil_of_length_pos (by omega)
  | @token r s cs more rest c token hnext htoken _ htake hrest ih =>
    obtain ⟨u, rfl, hu, -, -⟩ := next?_cut hnext
    have hskipped := hu.closers_append (c :: more)
    have hclosers := closers_add_closes_le htoken
    have houter := length_outer_le htake
    exact ih (run?_eq_some_iff.mpr hrest) (by omega)

/-! ## Groups within others -/

/-- What a reading within other groups can take, the reading by itself can take, unless it closes a group
that is not its own. -/
theorem Within.exists_take? (h : Within base r r') (hnames : r.names ⊆ r'.names)
    (htake : r'.take? token = some s') (hopen : token = .groupEnd → r.outer ≠ []) :
    ∃ s, r.take? token = some s ∧ Within base s s' ∧ s.names ⊆ s'.names := by
  have hs : ∃ s, r.take? token = some s ∧ s.names ⊆ s'.names := by
    cases token with
    | quantifier least most greedy =>
      obtain ⟨level, hlevel, rfl⟩ := Option.map_eq_some_iff.mp htake
      rw [h.level] at hlevel
      exact ⟨_, Option.map_eq_some_iff.mpr ⟨level, hlevel, rfl⟩, hnames⟩
    | capture name =>
      cases name with
      | none => cases htake; exact ⟨_, rfl, hnames⟩
      | some name =>
        rw [Reading.take?] at htake
        split at htake
        · cases htake
        · next hname =>
          cases htake
          -- a name that is new within the groups is new by itself
          exact ⟨_, if_neg fun hmem => hname (hnames hmem), List.cons_subset_cons name hnames⟩
    | groupEnd =>
      obtain ⟨g, outer, houter⟩ := List.exists_cons_of_ne_nil (hopen rfl)
      rw [take?_groupEnd (by rw [h.outer, houter, List.cons_append])] at htake
      cases htake
      exact ⟨_, take?_groupEnd houter, hnames⟩
    | _ => cases htake; exact ⟨_, rfl, hnames⟩
  obtain ⟨s, hs, hnames'⟩ := hs
  exact ⟨s, hs, h.take? hs htake, hnames'⟩

/-- A brace that opens no counted repetition cannot be read. -/
theorem run?_of_dangling (h : Dangling flags cs) (hflags : r.flags = flags) :
    r.run? cs = none := by
  subst hflags
  obtain ⟨more, rfl, hmore⟩ := h
  have hnext : next? r.flags ('\x7b' :: more) = some ('\x7b', more) :=
    next?_cons r.flags (by decide) (by decide) more
  have hbraced : readBraced? r.flags more = none := by
    cases hbraced : readBraced? r.flags more with
    | none => rfl
    | some out =>
      obtain ⟨x, after, hx⟩ := exists_next?_of_readBraced? hbraced
      rw [hmore] at hx
      cases hx
  have htoken : readToken? r.flags '\x7b' more = none := by
    simp [readToken?, readCounted?, hbraced]
  rw [run?, hnext]
  simp only [htoken]

/-- **Groups are closed by parentheses.** A pattern is read inside a group as it is by itself, up to the
parenthesis that closes the group: the one behind it, or one of its own before which it means something
by itself. -/
theorem exists_run?_of_closed (hs : Within base l s) (hnames : l.names ⊆ s.names)
    (h : s.run? (p ++ ')' :: t) = some out) (hclosed : out.outer = [])
    (hcount : closers t < base.length) :
    ∃ p₁ rest fin s', p ++ ')' :: t = p₁ ++ ')' :: rest ∧ p₁ <+: p ∧ l.run? p₁ = some fin ∧
      fin.outer = [] ∧ Within base fin s' ∧ s'.run? (')' :: rest) = some out := by
  -- on the tokens of the longer pattern
  generalize hcs : p ++ ')' :: t = cs at h
  induction run?_eq_some_iff.mp h generalizing l p with
  | done =>
    rw [hs.outer] at hclosed
    rw [(List.append_eq_nil_iff.mp hclosed).2] at hcount
    simp at hcount
  | @token s s' cs more rest c token hnext htoken hlt htake hrest ih =>
    have hrun := run?_eq_some_iff.mpr hrest
    obtain ⟨u, rfl, hu, hnone, hcutu⟩ := next?_cut hnext
    -- the groups that are open need their parentheses
    have houter := length_outer_le htake
    have hclosers := closers_add_closes_le htoken
    have hneeded : s'.outer.length ≤ closers rest :=
      Nat.le_of_not_lt fun hfew => outer_ne_nil_of_closers hrun hfew hclosed
    have hopen : s.outer.length = l.outer.length + base.length := by
      rw [hs.outer, List.length_append]
    by_cases hend : token = .groupEnd ∧ l.outer = []
    -- the group itself is closed
    · obtain ⟨rfl, hl⟩ := hend
      obtain ⟨rfl, rfl⟩ := eq_paren_of_groupEnd htoken
      have hclosing : closers (')' :: rest) = closers rest + 1 := closers_paren rest
      have hdepth : l.outer.length = 0 := by rw [hl]; rfl
      simp only [Token.closes] at houter
      obtain ⟨q, rfl, -⟩ := (cut_or_closers_le hcs fun _ => hu).resolve_right (by omega)
      rw [hs.flags] at hnone
      refine ⟨u, rest, l, s, rfl, List.prefix_append u q, run?_of_next?_eq_none hnone, hl, hs, ?_⟩
      rw [run?_of_next? (next?_cons s.flags (by decide) (by decide) rest) htoken
        (Nat.lt_succ_self _), htake]
      exact hrun
    -- the group stays open, and so its own token has been read
    · have hcloses : token.closes ≤ l.outer.length := by
        cases token with
        | groupEnd => exact List.length_pos_iff.mpr fun hl => hend ⟨rfl, hl⟩
        | _ => exact Nat.zero_le _
      obtain ⟨v, rfl, hv, hcutv⟩ := readToken?_cut htoken
      -- the token lies before the parenthesis behind the pattern
      have hlies : p ++ ')' :: t = (u ++ c :: v) ++ rest := by rw [hcs]; simp
      have hsettled : rest ≠ [] → Settled (u ++ c :: v) := fun hrest => hu.append (hv hrest)
      obtain ⟨w, rfl, rfl⟩ := (cut_or_closers_le hlies hsettled).resolve_right (by omega)
      have hopen' : token = .groupEnd → l.outer ≠ [] := fun htoken hl => hend ⟨htoken, hl⟩
      obtain ⟨l', hl', hs', hnames'⟩ := hs.exists_take? hnames htake hopen'
      obtain ⟨p₁, rest, fin, s'', hrest, hprefix, hfin, hfin', hs'', hrun'⟩ := ih hs' hnames' rfl hrun
      refine ⟨u ++ c :: (v ++ p₁), rest, fin, s'', by simp [hrest], ?_, ?_, hfin', hs'', hrun'⟩
      · simpa using hprefix
      · -- the token is read by itself as well
        have hnext' : next? l.flags (u ++ c :: (v ++ p₁)) = some (c, v ++ p₁) := by
          rw [← hs.flags]
          exact hcutu (v ++ p₁)
        obtain htoken' | ⟨⟨a, depth, rfl⟩, hdangling⟩ := hcutv p₁ rest hrest
        · rw [hs.flags] at htoken'
          rw [run?_of_next? hnext' htoken' (by simp; omega), hl']
          exact hfin
        -- a boundary before a lonely brace could not be followed by what has been read
        · cases hl'
          have hfin' := hfin.symm.trans (run?_of_dangling hdangling hs.flags.symm)
          cases hfin'

/-- A pattern that is read as the whole content of a group closes the group itself, or can be read by
itself. -/
theorem closes_or_run?_of_closed (hs : Within base {} s)
    (h : s.run? (p ++ ')' :: t) = some out) (hclosed : out.outer = [])
    (hcount : closers t < base.length) :
    (∃ before after, p = before ++ ')' :: after ∧ (parse? before).isSome) ∨
      ∃ fin s', ({} : Reading).run? p = some fin ∧ fin.outer = [] ∧ Within base fin s' ∧
        s'.run? (')' :: t) = some out := by
  obtain ⟨p₁, rest, fin, s', hrest, ⟨q, rfl⟩, hfin, hfin', hs', hrun⟩ :=
    exists_run?_of_closed hs (List.nil_subset _) h hclosed hcount
  rw [List.append_assoc, List.append_cancel_left_eq] at hrest
  cases q with
  -- the parenthesis is the one behind the pattern
  | nil =>
    cases hrest
    exact .inr ⟨fin, s', by rw [List.append_nil, hfin], hfin', hs', hrun⟩
  -- the parenthesis is one of the pattern
  | cons x q =>
    rw [List.cons_append, List.cons.injEq] at hrest
    have hparse : parse? p₁ = some fin.level.value := by
      rw [parse?, hfin, Option.bind_some]
      exact finish?_eq_some_iff.mpr ⟨hfin', rfl⟩
    exact .inl ⟨p₁, q, by rw [hrest.1], by rw [hparse]; rfl⟩

end Reading

end WebRouting.Regex
