import Mathlib.Data.List.Basic
import WebRouting.Proofs.Regex.Names

/-! # Patterns inside longer ones

A pattern that means something by itself can also be read between the parentheses of a group, whatever
stands around the group (`Reading.run?_group_of_disjoint`). Only two things of a pattern reach beyond
it, the flags that it sets and the names of its groups: so it must set no flags, unless for groups of
its own, and no name of its groups may be in use outside. -/

namespace WebRouting.Regex.Reading

variable {r r' s out : Reading} {base : List OpenGroup} {used : List String} {token : Token}
  {cs t : List Char}

/-! ## Names in use -/

/-- A name stays in use. -/
theorem names_subset_of_take? (h : r.take? token = some s) : r.names ⊆ s.names := by
  cases token with
  | quantifier =>
    obtain ⟨level, -, rfl⟩ := Option.map_eq_some_iff.mp h
    exact List.Subset.refl _
  | capture name =>
    cases name with
    | none => cases h; exact List.Subset.refl _
    | some name =>
      rw [take?] at h
      split at h
      · cases h
      · cases h; exact List.subset_cons_self ..
  | groupEnd =>
    obtain ⟨g, outer, -, rfl⟩ := exists_of_groupEnd h
    exact List.Subset.refl _
  | _ => cases h; exact List.Subset.refl _

theorem names_subset_of_run? (h : r.run? cs = some out) : r.names ⊆ out.names := by
  induction run?_eq_some_iff.mp h with
  | done => exact List.Subset.refl _
  | token _ _ _ htake hrest ih =>
    exact List.Subset.trans (names_subset_of_take? htake) (ih (run?_eq_some_iff.mpr hrest))

/-! ## Readings within others -/

/-- What a reading by itself can take, the reading within other groups can take as well, if the names
that are in use there are none of its own. -/
theorem Within.take?_of_disjoint (h : Within base r r') (hnames : r'.names = r.names ++ used)
    (htake : r.take? token = some s) (hused : s.names.Disjoint used) :
    ∃ s', r'.take? token = some s' ∧ Within base s s' ∧ s'.names = s.names ++ used := by
  have hs : ∃ s', r'.take? token = some s' ∧ s'.names = s.names ++ used := by
    cases token with
    | quantifier least most greedy =>
      obtain ⟨level, hlevel, rfl⟩ := Option.map_eq_some_iff.mp htake
      rw [← h.level] at hlevel
      exact ⟨_, Option.map_eq_some_iff.mpr ⟨level, hlevel, rfl⟩, hnames⟩
    | capture name =>
      cases name with
      | none => cases htake; exact ⟨_, rfl, hnames⟩
      | some name =>
        rw [Reading.take?] at htake
        split at htake
        · cases htake
        · next hname =>
          cases htake
          -- the name is new among those of the reading itself, and those outside are others
          have hnew : name ∉ r'.names := by
            rw [hnames, List.mem_append, not_or]
            exact ⟨hname, hused List.mem_cons_self⟩
          exact ⟨_, if_neg hnew, congrArg (name :: ·) hnames⟩
    | groupEnd =>
      obtain ⟨g, outer, houter, rfl⟩ := exists_of_groupEnd htake
      exact ⟨_, take?_groupEnd (by rw [h.outer, houter, List.cons_append]), hnames⟩
    | _ => cases htake; exact ⟨_, rfl, hnames⟩
  obtain ⟨s', hs', hnames'⟩ := hs
  exact ⟨s', hs', h.take? htake hs', hnames'⟩

/-- A pattern that is read to its end can be read within open groups, up to the parenthesis that closes
the innermost of them, if the names that are in use there are none of its own. -/
theorem run?_append_of_disjoint (h : r.run? cs = some out) (hclosed : out.outer = [])
    (htokens : ∀ token ∈ r.tokens cs, token.setsFlags = false) (hflags : r.outermostFlags = {})
    (hr : Within base r r') (hnames : r'.names = r.names ++ used)
    (hused : out.names.Disjoint used) (t : List Char) :
    ∃ s, Within base out s ∧ s.names = out.names ++ used ∧ out.flags = {} ∧
      r'.run? (cs ++ ')' :: t) = s.run? (')' :: t) := by
  -- on the tokens of the pattern
  induction run?_eq_some_iff.mp h generalizing r' with
  | @done cs hnext =>
    -- no group is left open, so nothing of the pattern can be left in a comment
    rw [outermostFlags_of_closed hclosed] at hflags
    rw [hflags] at hnext
    cases cs with
    | nil => exact ⟨r', hr, hnames, hflags, rfl⟩
    | cons c cs => cases hnext
  | @token r s cs more rest c token hnext htoken hlt htake hrest ih =>
    have hrun := run?_eq_some_iff.mpr hrest
    rw [tokens_of_next? hnext htoken hlt htake, List.forall_mem_cons] at htokens
    -- both readings take the token, and go on with the rest
    have hused' : s.names.Disjoint used :=
      List.disjoint_of_subset_left (names_subset_of_run? hrun) hused
    obtain ⟨s', hs', hwithin, hnames'⟩ := hr.take?_of_disjoint hnames htake hused'
    rw [hr.run?_token hnext htoken hlt htake hrun hclosed hflags t, hs', Option.bind_some]
    have hflags' := (outermostFlags_take? htake htokens.1).trans hflags
    exact ih hrun htokens.2 hflags' hwithin hnames'

/-! ## Groups -/

/-- **Patterns in groups.** A pattern that means something by itself can be read in a group, and means
the same there, if no name of its groups is in use. -/
theorem run?_group_of_disjoint {g : OpenGroup} {pattern : List Char} {expression : Regex}
    (hparse : parse? pattern = some expression) (hpattern : SetsNoFlags pattern)
    (hflags : r.flags = {}) (hlevel : r.level = {}) (houter : r.outer = g :: base)
    (hnames : expression.groupNames.Disjoint r.names) (t : List Char) :
    ∃ (s : Reading) (depth : Nat), s.flags = g.flags ∧
      s.level = g.level.add (g.close expression) depth ∧ s.outer = base ∧
      s.names.Perm (expression.groupNames ++ r.names) ∧
      r.run? (pattern ++ ')' :: t) = s.run? t := by
  obtain ⟨fin, hfin, hfinish⟩ := Option.bind_eq_some_iff.mp hparse
  obtain ⟨hclosed, rfl⟩ := finish?_eq_some_iff.mp hfinish
  -- the names in use after the pattern are those of its groups
  have hperm := (accounts_start.run? hfin).perm_value hclosed
  have hdisjoint : fin.names.Disjoint r.names := fun name hname =>
    hnames (hperm.mem_iff.mpr hname)
  have hwithin : Within (g :: base) {} r := ⟨hflags, hlevel, houter⟩
  obtain ⟨s, hs, hsnames, hsflags, hrun⟩ :=
    run?_append_of_disjoint hfin hclosed hpattern rfl hwithin (List.nil_append _).symm hdisjoint t
  have hnext : next? s.flags (')' :: t) = some (')', t) := by
    rw [hs.flags, hsflags]
    rfl
  have hopen : s.outer = g :: base := by rw [hs.outer, hclosed, List.nil_append]
  rw [hrun, run?_of_next? hnext rfl (Nat.lt_succ_self _), take?_groupEnd hopen, Option.bind_some]
  refine ⟨_, _, rfl, by rw [OpenGroup.around, hs.level], rfl, ?_, rfl⟩
  rw [hsnames]
  exact hperm.symm.append_right r.names

end WebRouting.Regex.Reading
