import Mathlib.Data.List.DropRight
import WebRouting.Proofs.Rule.Reading
import WebRouting.Proofs.Text.Split
import WebRouting.Rule.Join

/-! # Joined rules

Joining is associative, the empty rule is neutral, and at the seam there is exactly one slash
(`join_monoid`). A slash that stands behind a rule with no placeholder left open divides what is read:
the tokens before it, the slash itself and the tokens behind it, put together (`scan_append_cons`). -/

namespace WebRouting.Rule

variable {c : Char} {cs u v : List Char} {a b : String}

/-! ## Ends of texts -/

theorem isSlash_iff : isSlash c = true ↔ c = '/' := decide_eq_true_iff

/-- Slashes and nothing else are so many slashes. -/
theorem eq_replicate_of_all (h : ∀ c ∈ cs, isSlash c = true) : cs = List.replicate cs.length '/' :=
  List.eq_replicate_iff.mpr ⟨rfl, fun c hc => isSlash_iff.mp (h c hc)⟩

theorem head?_dropWhile_isSlash (cs : List Char) : (cs.dropWhile isSlash).head? ≠ some '/' := by
  intro hhead
  have hslash := List.head?_dropWhile_not isSlash cs
  rw [hhead] at hslash
  cases hslash

/-- What is left of two texts that meet, without the slashes where they do. -/
structure Seam (first second : String) (before after : List Char) : Prop where
  /-- The first text is what is left of it, and slashes. -/
  first_eq : ∃ n, first.toList = before ++ List.replicate n '/'
  /-- The second text is slashes, and what is left of it. -/
  second_eq : ∃ n, second.toList = List.replicate n '/' ++ after
  /-- What is left of the first text does not end with a slash. -/
  getLast?_before : before.getLast? ≠ some '/'
  /-- What is left of the second text does not start with a slash. -/
  head?_after : after.head? ≠ some '/'

/-- Dropping slashes leaves what is left at a seam. -/
theorem seam_dropped (a b : String) :
    Seam a b (Text.dropEndWhile isSlash a.toList) (b.toList.dropWhile isSlash) where
  first_eq := by
    have hslashes : ∀ c ∈ a.toList.rtakeWhile isSlash, isSlash c = true :=
      fun _ => List.mem_rtakeWhile_imp
    refine ⟨(a.toList.rtakeWhile isSlash).length, ?_⟩
    rw [← eq_replicate_of_all hslashes]
    exact List.rdropWhile_append_rtakeWhile.symm
  second_eq := by
    have hslashes : ∀ c ∈ b.toList.takeWhile isSlash, isSlash c = true :=
      fun _ => List.mem_takeWhile_imp
    refine ⟨(b.toList.takeWhile isSlash).length, ?_⟩
    rw [← eq_replicate_of_all hslashes, List.takeWhile_append_dropWhile]
  getLast?_before := by
    rw [Text.dropEndWhile, List.getLast?_reverse]
    exact head?_dropWhile_isSlash _
  head?_after := head?_dropWhile_isSlash _

/-! ## Joining -/

@[simp] theorem join_empty_left (a : String) : join "" a = a := if_pos rfl

@[simp] theorem join_empty_right (a : String) : join a "" = a := by
  rw [join]
  split
  · next ha => exact ha.symm
  · exact if_pos rfl

/-- Two rules with text are joined by one slash in place of those where they meet. -/
theorem toList_join (ha : a ≠ "") (hb : b ≠ "") : (join a b).toList =
    Text.dropEndWhile isSlash a.toList ++ '/' :: b.toList.dropWhile isSlash := by
  rw [join, if_neg ha, if_neg hb, String.toList_ofList]

theorem join_ne_empty (ha : a ≠ "") (hb : b ≠ "") : join a b ≠ "" := by
  intro hempty
  have hjoin := toList_join ha hb
  rw [hempty] at hjoin
  exact List.append_ne_nil_of_right_ne_nil _ (List.cons_ne_nil _ _) hjoin.symm

/-- Between two slashes the slashes at the start and those at the end of a text may be dropped in any
order, also if the text has nothing else. -/
theorem dropEndWhile_append_dropWhile (hu : Text.dropEndWhile isSlash u = u)
    (hv : v.dropWhile isSlash = v) (cs : List Char) :
    Text.dropEndWhile isSlash (u ++ '/' :: cs.dropWhile isSlash) ++ '/' :: v =
      u ++ '/' :: (Text.dropEndWhile isSlash cs ++ '/' :: v).dropWhile isSlash := by
  by_cases hslashes : ∀ x ∈ cs, isSlash x = true
  · -- of slashes alone nothing is left on either side
    have hstart : cs.dropWhile isSlash = [] := List.dropWhile_eq_nil_iff.mpr hslashes
    have hend : Text.dropEndWhile isSlash cs = [] := List.rdropWhile_eq_nil_iff.mpr hslashes
    have hslash : isSlash '/' = true := rfl
    have hbefore : Text.dropEndWhile isSlash (u ++ ['/']) = u :=
      (List.rdropWhile_concat_pos isSlash u '/' hslash).trans hu
    rw [hstart, hend, hbefore, List.nil_append, List.dropWhile_cons_of_pos hslash, hv]
  · -- behind another character nothing changes at the start, and before it nothing at the end
    push Not at hslashes
    obtain ⟨x, hx, hother⟩ := hslashes
    have hstays : isSlash x = false := Bool.eq_false_iff.mpr hother
    obtain ⟨before, after, rfl⟩ := List.append_of_mem hx
    have hleft : Text.dropEndWhile isSlash (u ++ '/' :: (before ++ x :: after).dropWhile isSlash) =
        u ++ '/' :: (before.dropWhile isSlash ++ x :: Text.dropEndWhile isSlash after) := by
      rw [Text.dropWhile_append_cons hstays, ← List.cons_append, ← List.append_assoc,
        Text.dropEndWhile_append_cons hstays, List.append_assoc, List.cons_append]
    have hright : (Text.dropEndWhile isSlash (before ++ x :: after) ++ '/' :: v).dropWhile isSlash =
        before.dropWhile isSlash ++ x :: (Text.dropEndWhile isSlash after ++ '/' :: v) := by
      rw [Text.dropEndWhile_append_cons hstays, List.append_assoc, List.cons_append,
        Text.dropWhile_append_cons hstays]
    rw [hleft, hright, List.append_assoc, List.cons_append, List.append_assoc, List.cons_append]

/-- The rule in the middle may be joined to either side first. -/
theorem join_assoc (a b c : String) : join (join a b) c = join a (join b c) := by
  by_cases ha : a = ""
  · rw [ha, join_empty_left, join_empty_left]
  by_cases hb : b = ""
  · rw [hb, join_empty_right, join_empty_left]
  by_cases hc : c = ""
  · rw [hc, join_empty_right, join_empty_right]
  apply String.toList_inj.mp
  rw [toList_join (join_ne_empty ha hb) hc, toList_join ha (join_ne_empty hb hc), toList_join ha hb,
    toList_join hb hc]
  exact dropEndWhile_append_dropWhile (List.rdropWhile_idempotent isSlash a.toList)
    (List.dropWhile_idempotent isSlash c.toList) b.toList

/-- **Joining rules.** Joining is associative and the empty rule is neutral. Rules with text are joined by
one slash, between what is left of the first without the slashes at its end and of the second without
those at its start; so no other slash is next to it. -/
theorem join_monoid :
    (∀ a b c : String, join (join a b) c = join a (join b c)) ∧
      (∀ a : String, join "" a = a ∧ join a "" = a) ∧
      ∀ a b : String, a ≠ "" → b ≠ "" → ∃ before after, Seam a b before after ∧
        (join a b).toList = before ++ '/' :: after :=
  ⟨join_assoc, fun a => ⟨join_empty_left a, join_empty_right a⟩,
    fun a b ha hb => ⟨_, _, seam_dropped a b, toList_join ha hb⟩⟩

/-- Two rules of slashes alone. -/
theorem join_monoid_slashes : "//" ≠ "" ∧ "///" ≠ "" ∧
    ∃ before after, Seam "//" "///" before after ∧
      (join "//" "///").toList = before ++ '/' :: after := by
  have hfirst : "//" ≠ "" := by decide
  have hsecond : "///" ≠ "" := by decide
  exact ⟨hfirst, hsecond, join_monoid.2.2 _ _ hfirst hsecond⟩

example : join "//" "///" = "/" := by decide

/-! ## Open placeholders -/

/-- No opening mark stands behind the last closing mark, so no placeholder is left open. -/
def Closed (cs : List Char) : Prop := '<' ∉ cs.rtakeWhile (· ≠ '>')

instance (cs : List Char) : Decidable (Closed cs) :=
  inferInstanceAs (Decidable ('<' ∉ cs.rtakeWhile (· ≠ '>')))

/-- No placeholder is left open if behind each opening mark there is a closing one. -/
theorem closed_iff : Closed cs ↔ ∀ u v, cs = u ++ '<' :: v → '>' ∈ v := by
  constructor
  · rintro h u v rfl
    by_contra hclose
    -- the closing mark, if there is one, stands before the opening mark
    have hbehind : ∀ c ∈ v.reverse ++ ['<'], (c ≠ '>' : Bool) = true := by
      simp only [List.mem_append, List.mem_reverse, List.mem_singleton, decide_eq_true_iff]
      rintro c (hc | rfl)
      · exact ne_of_mem_of_not_mem hc hclose
      · decide
    apply h
    rw [List.rtakeWhile, List.reverse_append, List.reverse_cons, List.takeWhile_append_of_pos hbehind]
    simp
  · intro h hopen
    obtain ⟨before, after, hsplit⟩ := List.append_of_mem hopen
    have hclose : '>' ∈ after := by
      refine h (cs.rdropWhile (· ≠ '>') ++ before) after ?_
      rw [List.append_assoc, ← hsplit, List.rdropWhile_append_rtakeWhile]
    have hmem : '>' ∈ cs.rtakeWhile (· ≠ '>') := by
      rw [hsplit]
      exact List.mem_append_right _ (List.mem_cons_of_mem _ hclose)
    exact absurd (List.mem_rtakeWhile_imp hmem) (by decide)

/-- What stands at the end of a text leaves nothing open that the text does not. -/
theorem Closed.of_append (h : Closed (u ++ v)) : Closed v := by
  refine closed_iff.mpr fun before after hv => ?_
  exact closed_iff.mp h (u ++ before) after (by rw [hv, List.append_assoc])

/-- Text without a closing mark at the end closes nothing. -/
theorem Closed.of_append_left (h : Closed (u ++ v)) (hv : '>' ∉ v) : Closed u := by
  refine closed_iff.mpr fun before after hu => ?_
  have hclose : '>' ∈ after ++ v :=
    closed_iff.mp h before (after ++ v) (by rw [hu, List.append_assoc, List.cons_append])
  exact (List.mem_append.mp hclose).resolve_right hv

/-- If a text with a closing mark does not start with a placeholder, none starts there. -/
theorem Placeholder.read?_append_eq_none (h : '>' ∈ u) (hread : read? u = none) (v : List Char) :
    read? (u ++ v) = none := by
  refine Option.eq_none_iff_forall_ne_some.mpr fun ⟨p, rest⟩ happend => ?_
  obtain ⟨hp, hspell⟩ := spell_of_read? happend
  obtain ⟨body, hbody, -, hclose⟩ := hp.exists_spell_eq
  rw [hbody, List.cons_append, List.append_assoc, List.singleton_append] at hspell
  -- between its marks there is no closing mark, so the placeholder ends in the text
  rcases List.append_eq_append_iff.mp (List.cons.inj hspell).2 with ⟨more, hmore, -⟩ | ⟨more, hu, hv⟩
  · exact hclose (hmore ▸ List.mem_append_left more h)
  · cases more with
    | nil =>
      rw [List.append_nil] at hu
      exact hclose (hu ▸ h)
    | cons x more =>
      obtain ⟨rfl, -⟩ := List.cons.inj hv
      have hself : read? u = some (p, more) :=
        read?_of_spell hp (by rw [hbody, hu, List.cons_append, List.append_assoc]; rfl)
      rw [hread] at hself
      cases hself

/-! ## Reading joined rules -/

theorem merge_flush (literal : List Char) (tokens : List Token) :
    merge (flush literal tokens) = merge (.literal (String.ofList literal.reverse) :: tokens) := by
  rw [flush]
  split
  · next hnil => rw [hnil]; exact (merge_empty tokens).symm
  · rfl

theorem flush_append (literal : List Char) (tokens others : List Token) :
    flush literal tokens ++ others = flush literal (tokens ++ others) := by
  rw [flush, flush]
  split <;> rfl

/-- In tokens in normal form there is nothing to put together. -/
theorem merge_of_isNormal {tokens : List Token} (h : IsNormal tokens) : merge tokens = tokens := by
  induction tokens with
  | nil => rfl
  | cons token tokens ih =>
    have htail := ih h.tail
    cases token with
    | param filter name => exact congrArg (Token.param filter name :: ·) htail
    | literal text =>
      have htext : text ≠ "" := h.wellFormed _ List.mem_cons_self
      rw [merge, htail]
      split
      · exact absurd ⟨rfl, rfl⟩ (List.isChain_cons_cons.mp h.separated).1
      · rw [if_neg htext]

theorem parameters_merge (tokens : List Token) : parameters (merge tokens) = parameters tokens := by
  induction tokens with
  | nil => rfl
  | cons token tokens ih =>
    cases token with
    | param filter name => exact congrArg ((filter, name) :: ·) ih
    | literal text =>
      rw [merge]
      split
      · next more others hmerged => rw [hmerged] at ih; exact ih
      · split <;> exact ih

/-- The literal read so far is put before the first token of what follows. -/
theorem scan_literal (literal cs : List Char) :
    scan literal 0 cs = merge (.literal (String.ofList literal.reverse) :: scan [] 0 cs) := by
  obtain ⟨parts, last, hsplits⟩ := exists_splits cs
  have htokens : scan [] 0 cs = merge (tokensOf parts last) :=
    (scan_of_splits hsplits []).trans (merge_empty _)
  have hmerged := merge_of_isNormal (isNormal_scan [] 0 cs)
  rw [scan_of_splits hsplits literal, merge, merge, hmerged, htokens]

/-- A character that is no mark of a rule, and stands where no placeholder is open, divides what is read:
what is before it and what is behind it are read apart. -/
theorem scan_append_cons (hbackslash : c ≠ '\\') (hmark : c ≠ '<') (hu : Closed u)
    (literal : List Char) (run : Nat) (v : List Char) : scan literal run (u ++ c :: v) =
      merge (scan literal run u ++ .literal (String.singleton c) :: scan [] 0 v) := by
  fun_induction scan literal run u with
  | case1 literal run =>
    rw [List.nil_append, scan_other hbackslash hmark, scan_literal, flush_append, merge_flush,
      List.nil_append, merge_literal_literal, List.reverse_cons, String.ofList_append]
    rfl
  | case2 literal run cs ih =>
    rw [List.cons_append, scan, if_pos rfl]
    exact ih (Closed.of_append (u := ['\\']) hu)
  | case3 literal run cs p rest hread _ _ hodd _ ih =>
    obtain ⟨hp, hspell⟩ := Placeholder.spell_of_read? hread
    rw [hspell] at hu
    rw [hspell, List.append_assoc, scan_spell hp, if_pos hodd]
    exact ih hu.of_append
  | case4 literal run cs p rest hread _ _ heven _ ih =>
    obtain ⟨hp, hspell⟩ := Placeholder.spell_of_read? hread
    rw [hspell] at hu
    rw [hspell, List.append_assoc, scan_spell hp, if_neg heven, ih hu.of_append, flush_append,
      merge_flush, List.cons_append, Placeholder.token, merge_literal_param]
  | case5 literal run cs hread _ ih =>
    have hclose : '>' ∈ cs := closed_iff.mp hu [] cs rfl
    rw [List.cons_append, scan_mark (Placeholder.read?_append_eq_none hclose hread _)]
    exact ih (Closed.of_append (u := ['<']) hu)
  | case6 literal run x cs hx hxmark ih =>
    rw [List.cons_append, scan_other hx hxmark]
    exact ih (Closed.of_append (u := [x]) hu)

/-- Text without opening marks has no parameters. -/
theorem parameters_scan_of_not_mem (h : '<' ∉ cs) (literal : List Char) (run : Nat) :
    parameters (scan literal run cs) = [] := by
  fun_induction scan literal run cs with
  | case1 => exact parameters_flush _ _
  | case2 _ _ _ ih => exact ih (List.not_mem_of_not_mem_cons h)
  | case3 => exact absurd List.mem_cons_self h
  | case4 => exact absurd List.mem_cons_self h
  | case5 => exact absurd List.mem_cons_self h
  | case6 _ _ _ _ _ _ ih => exact ih (List.not_mem_of_not_mem_cons h)

/-- The parameters on both sides of a slash are those of the whole. -/
theorem parameters_scan_append_slash (hu : Closed u) (v : List Char) :
    parameters (scan [] 0 (u ++ '/' :: v)) =
      parameters (scan [] 0 u) ++ parameters (scan [] 0 v) := by
  rw [scan_append_cons (by decide) (by decide) hu, parameters_merge, parameters_append,
    parameters_literal]

theorem not_mem_slashes (hc : c ≠ '/') (n : Nat) : c ∉ List.replicate n '/' :=
  fun hmem => hc (List.eq_of_mem_replicate hmem)

namespace Seam

variable {before after : List Char}

/-- Without the slashes at its end a rule leaves no placeholder open that it does not. -/
theorem closed_before (h : Seam a b before after) (ha : Closed a.toList) : Closed before := by
  obtain ⟨n, hfirst⟩ := h.first_eq
  rw [hfirst] at ha
  exact ha.of_append_left (not_mem_slashes (by decide) n)

/-- Slashes at the end of a rule are no parameters. -/
theorem parameters_first (h : Seam a b before after) (ha : Closed a.toList) :
    parameters (tokenize a) = parameters (scan [] 0 before) := by
  have hbefore := h.closed_before ha
  obtain ⟨n, hfirst⟩ := h.first_eq
  rw [tokenize, hfirst]
  cases n with
  | zero => rw [List.replicate_zero, List.append_nil]
  | succ n =>
    rw [List.replicate_succ, parameters_scan_append_slash hbefore,
      parameters_scan_of_not_mem (not_mem_slashes (by decide) n), List.append_nil]

/-- Slashes at the start of a rule are no parameters. -/
theorem parameters_second (h : Seam a b before after) :
    parameters (tokenize b) = parameters (scan [] 0 after) := by
  obtain ⟨n, hsecond⟩ := h.second_eq
  rw [tokenize, hsecond]
  cases n with
  | zero => rw [List.replicate_zero, List.nil_append]
  | succ n =>
    have hmark : '<' ∉ List.replicate n '/' := not_mem_slashes (by decide) n
    have hclosed : Closed (List.replicate n '/') := by
      refine closed_iff.mpr fun u v hsplit => absurd ?_ hmark
      rw [hsplit]
      exact List.mem_append_right u List.mem_cons_self
    rw [List.replicate_succ', List.append_assoc, List.singleton_append,
      parameters_scan_append_slash hclosed, parameters_scan_of_not_mem hmark, List.nil_append]

end Seam

/-- A joined rule says what is left of the first rule says, then a slash, and then what is left of the
second one says. Its parameters are those of both. -/
theorem tokenize_join (ha : a ≠ "") (hb : b ≠ "") (hclosed : Closed a.toList) :
    (∃ before after, Seam a b before after ∧ tokenize (join a b) =
      merge (tokenize (String.ofList before) ++
        .literal "/" :: tokenize (String.ofList after))) ∧
      parameters (tokenize (join a b)) = parameters (tokenize a) ++ parameters (tokenize b) := by
  have hseam := seam_dropped a b
  have hbefore := hseam.closed_before hclosed
  constructor
  · refine ⟨_, _, hseam, ?_⟩
    rw [tokenize, toList_join ha hb, scan_append_cons (by decide) (by decide) hbefore, tokenize, tokenize,
      String.toList_ofList, String.toList_ofList]
    rfl
  · rw [hseam.parameters_first hclosed, hseam.parameters_second, tokenize, toList_join ha hb,
      parameters_scan_append_slash hbefore]

end WebRouting.Rule
