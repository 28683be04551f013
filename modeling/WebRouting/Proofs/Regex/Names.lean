import WebRouting.Proofs.Regex.Contents
import WebRouting.Proofs.Regex.Reading
import WebRouting.Proofs.Regex.Run

/-! # Names of groups

Each group of a pattern has a name of its own or none (`nodup_groupNames_of_parse?`): the names in use
are those of the groups that have been read, in some order, from the first token to the last
(`Reading.Accounts`). Nothing is captured under a name that no group of an expression has
(`captured_of_not_mem_groupNames`). -/

namespace WebRouting

/-! ## Captures -/

namespace Cursor

variable {c d : Cursor} {w : List Char} {name : String}

theorem captured_of_captures (h : d.captures = c.captures) (name : String) :
    d.captured name = c.captured name := by
  rw [captured, captured, h]

/-- A group has captured what was passed in it. -/
theorem captured_capture (h : c.Passes w d) (name : String) :
    (c.capture (some name) d).captured name = String.ofList w := by
  have hlength : d.position - c.position = w.length := by
    rw [h.position, Nat.add_sub_cancel_left]
  have htext : Capture.text ⟨c.rest, d.position - c.position⟩ = w := by
    rw [Capture.text, hlength, h.rest, List.take_left]
  rw [captured, capture, List.lookup_cons_self, Option.map_some, htext]
  rfl

/-- A group leaves what other groups have captured. -/
theorem captured_capture_of_ne {other : String} (h : name ≠ other) :
    (c.capture (some other) d).captured name = d.captured name := by
  rw [captured, captured, capture, List.lookup_cons, beq_false_of_ne h]

end Cursor

namespace Regex

variable {r : Regex} {c d : Cursor} {name : String}

/-! ## Groups of an expression -/

/-- The names of the groups of an expression. -/
def groupNames : Regex → List String
  | empty => []
  | char _ => []
  | assert _ => []
  | seq first second => first.groupNames ++ second.groupNames
  | alt first second => first.groupNames ++ second.groupNames
  | rep body _ _ _ => body.groupNames
  | group name body => name.toList ++ body.groupNames

/-- No group has a name that is not among those of the expression. -/
theorem all_ne_of_not_mem_groupNames (h : name ∉ r.groupNames) :
    r.all (fun _ => true) (· ≠ some name) = true := by
  induction r with
  | empty | char | assert => rfl
  | seq first second ih₁ ih₂ | alt first second ih₁ ih₂ =>
    rw [groupNames, List.mem_append, not_or] at h
    exact Bool.and_eq_true_iff.mpr ⟨ih₁ h.1, ih₂ h.2⟩
  | rep body least most greedy ih => exact ih h
  | group other body ih =>
    rw [groupNames, List.mem_append, not_or, Option.mem_toList] at h
    exact Bool.and_eq_true_iff.mpr ⟨decide_eq_true h.1, ih h.2⟩

theorem groupNames_eq_nil_of_unnamed (h : r.unnamed = true) : r.groupNames = [] := by
  induction r with
  | empty | char | assert => rfl
  | seq first second ih₁ ih₂ | alt first second ih₁ ih₂ =>
    obtain ⟨h₁, h₂⟩ := Bool.and_eq_true_iff.mp h
    rw [groupNames, ih₁ h₁, ih₂ h₂, List.append_nil]
  | rep body least most greedy ih => exact ih h
  | group name body ih =>
    obtain ⟨hname, hbody⟩ := Bool.and_eq_true_iff.mp h
    rw [groupNames, Option.isNone_iff_eq_none.mp hname, ih hbody]
    rfl

/-- What has been captured under a name is kept by an expression without a group of this name. -/
theorem captured_of_not_mem_groupNames (h : r.Ends c d) (hname : name ∉ r.groupNames) :
    d.captured name = c.captured name := by
  refine h.closure (R := fun c d => d.captured name = c.captured name) (fun c => rfl) ?_ ?_ ?_
    (all_ne_of_not_mem_groupNames hname)
  · exact fun h₁ h₂ => h₂.trans h₁
  · exact fun _ _ _ hcaptures => Cursor.captured_of_captures hcaptures name
  · intro other c d hother hcaptured
    cases other with
    | none => exact hcaptured
    | some other =>
      have hne : name ≠ other := fun heq => of_decide_eq_true hother (congrArg some heq.symm)
      exact (Cursor.captured_capture_of_ne hne).trans hcaptured

/-- The groups of a sequence are those of its items. -/
theorem groupNames_seqReversed (items : List Regex) :
    (seqReversed items).groupNames = items.reverse.flatMap groupNames := by
  induction items with
  | nil => rfl
  | cons r items ih =>
    have hcons : seqReversed (r :: items) = .seq (seqReversed items) r := rfl
    rw [hcons, groupNames, ih, List.reverse_cons, List.flatMap_append, List.flatMap_singleton]

/-- The assertions around an expression for the whole text have no groups. -/
theorem groupNames_wholeText (r : Regex) : r.wholeText.groupNames = r.groupNames := by
  rw [wholeText, groupNames_seqReversed]
  simp [groupNames]

theorem perm_groupNames_seqReversed (items : List Regex) :
    (seqReversed items).groupNames.Perm (items.flatMap groupNames) := by
  rw [groupNames_seqReversed]
  exact (List.reverse_perm items).flatMap_right groupNames

/-- The groups of a choice are those of its branches. -/
theorem perm_groupNames_altReversed (branches : List Regex) (last : Regex) :
    (altReversed branches last).groupNames.Perm (branches.flatMap groupNames ++ last.groupNames) := by
  induction branches generalizing last with
  | nil => exact .refl _
  | cons r branches ih =>
    have hcons : altReversed (r :: branches) last = altReversed branches (.alt r last) := rfl
    rw [hcons, List.flatMap_cons, List.append_assoc]
    exact (ih (.alt r last)).trans (List.perm_append_comm_assoc ..)

/-! ## Groups that have been read -/

/-- The names of the groups that have been read on a level. -/
def Level.groupNames (l : Level) : List String :=
  l.branches.flatMap Regex.groupNames ++ l.items.flatMap Regex.groupNames

theorem Level.perm_groupNames_value (l : Level) : l.value.groupNames.Perm l.groupNames :=
  (perm_groupNames_altReversed ..).trans ((perm_groupNames_seqReversed _).append_left _)

theorem Level.perm_groupNames_add (l : Level) (r : Regex) (depth : Nat) :
    (l.add r depth).groupNames.Perm (r.groupNames ++ l.groupNames) :=
  List.perm_append_comm_assoc ..

theorem Level.perm_groupNames_branch (l : Level) : l.branch.groupNames.Perm l.groupNames := by
  rw [branch, groupNames, List.flatMap_cons, List.flatMap_nil, List.append_nil]
  exact List.perm_append_comm.trans ((perm_groupNames_seqReversed l.items).append_left _)

/-- The name of an open group and the names of the groups that were read before it on its level. -/
def OpenGroup.groupNames (g : OpenGroup) : List String :=
  (if g.captures then g.name.toList else []) ++ g.level.groupNames

/-- A group that is closed has its own name and those of its content. -/
theorem OpenGroup.perm_groupNames_around (g : OpenGroup) (l : Level) :
    (g.around l).groupNames.Perm (l.groupNames ++ g.groupNames) := by
  have hclose : (g.close l.value).groupNames =
      (if g.captures then g.name.toList else []) ++ l.value.groupNames := by
    rw [close]
    split <;> rfl
  have hadd := g.level.perm_groupNames_add (g.close l.value) (l.depth + 1)
  rw [hclose, List.append_assoc] at hadd
  refine hadd.trans (.trans ?_ (List.perm_append_comm_assoc ..))
  exact (l.perm_groupNames_value.append_right _).append_left _

/-- The expressions that are complete by themselves have no groups. -/
theorem groupNames_of_atom {flags : Flags} {x : Char} {cs rest : List Char} {depth : Nat}
    (h : readToken? flags x cs = some (.atom r depth, rest)) : r.groupNames = [] := by
  obtain ⟨allowed, rfl⟩ | ⟨a, rfl⟩ := readFrom_of_readToken? h
  · rfl
  · rfl

namespace Reading

variable {s s' out : Reading} {token : Token} {cs : List Char}

/-- The names of the groups that have been read. -/
def groupNames (s : Reading) : List String :=
  s.level.groupNames ++ s.outer.flatMap OpenGroup.groupNames

/-- The names in use are those of the groups that have been read, and they differ. -/
structure Accounts (s : Reading) : Prop where
  /-- The names in use are those of the groups. -/
  perm : s.groupNames.Perm s.names
  /-- No name has been used twice. -/
  nodup : s.names.Nodup

theorem accounts_start : Accounts {} := ⟨.nil, .nil⟩

theorem groupNames_openGroup (s : Reading) (flags : Flags) (captures : Bool) (name : Option String) :
    (s.openGroup flags captures name).groupNames =
      (if captures then name.toList else []) ++ s.groupNames := by
  rw [openGroup, groupNames, groupNames, List.flatMap_cons, OpenGroup.groupNames,
    List.append_assoc]
  rfl

/-- The names are accounted for after each token. -/
theorem Accounts.take? (h : s.Accounts) (htake : s.take? token = some s')
    (hatom : ∀ r depth, token = .atom r depth → r.groupNames = []) : s'.Accounts := by
  cases token with
  | atom r depth =>
    cases htake
    refine ⟨?_, h.nodup⟩
    have hlevel := s.level.perm_groupNames_add r depth
    rw [hatom r depth rfl, List.nil_append] at hlevel
    exact (hlevel.append_right _).trans h.perm
  | quantifier least most greedy =>
    obtain ⟨level, hlevel, rfl⟩ := Option.map_eq_some_iff.mp htake
    rw [Level.quantify?] at hlevel
    split at hlevel
    · next item items _ hitems =>
      cases hlevel
      -- a repetition has the groups of its body
      have hperm := h.perm
      rw [groupNames, Level.groupNames, hitems] at hperm
      exact ⟨hperm, h.nodup⟩
    · cases hlevel
  | capture name =>
    cases name with
    | none => cases htake; exact ⟨by rw [groupNames_openGroup]; exact h.perm, h.nodup⟩
    | some name =>
      rw [Reading.take?] at htake
      split at htake
      · cases htake
      · next hname =>
        cases htake
        have hgroup := groupNames_openGroup s s.flags true (some name)
        refine ⟨?_, List.nodup_cons.mpr ⟨hname, h.nodup⟩⟩
        exact (List.Perm.of_eq hgroup).trans (h.perm.cons name)
  | group flags => cases htake; exact ⟨by rw [groupNames_openGroup]; exact h.perm, h.nodup⟩
  | setFlags flags => cases htake; exact ⟨h.perm, h.nodup⟩
  | groupEnd =>
    obtain ⟨g, outer, houter, rfl⟩ := exists_of_groupEnd htake
    have hgroup := (g.perm_groupNames_around s.level).append_right (outer.flatMap OpenGroup.groupNames)
    have hperm := h.perm
    rw [groupNames, houter, List.flatMap_cons, ← List.append_assoc] at hperm
    exact ⟨hgroup.trans hperm, h.nodup⟩
  | bar =>
    cases htake
    exact ⟨(s.level.perm_groupNames_branch.append_right _).trans h.perm, h.nodup⟩

/-- The names are accounted for at the end of the pattern. -/
theorem Accounts.run? (h : s.Accounts) (hrun : s.run? cs = some out) : out.Accounts := by
  induction run?_eq_some_iff.mp hrun with
  | done => exact h
  | token _ htoken _ htake hrest ih =>
    refine ih (h.take? htake ?_) (run?_eq_some_iff.mpr hrest)
    rintro r depth rfl
    exact groupNames_of_atom htoken

/-- Where every group has been closed, the names in use are those of the groups of the expression. -/
theorem Accounts.perm_value (h : s.Accounts) (hclosed : s.outer = []) :
    s.level.value.groupNames.Perm s.names := by
  have hperm := h.perm
  rw [groupNames, hclosed, List.flatMap_nil, List.append_nil] at hperm
  exact s.level.perm_groupNames_value.trans hperm

end Reading

/-- No two groups of a pattern have the same name. -/
theorem nodup_groupNames_of_parse? {pattern : List Char} (h : parse? pattern = some r) :
    r.groupNames.Nodup := by
  obtain ⟨out, hrun, hfinish⟩ := Option.bind_eq_some_iff.mp h
  obtain ⟨hclosed, rfl⟩ := Reading.finish?_eq_some_iff.mp hfinish
  have hout := Reading.accounts_start.run? hrun
  exact (hout.perm_value hclosed).nodup_iff.mpr hout.nodup

end Regex

end WebRouting
