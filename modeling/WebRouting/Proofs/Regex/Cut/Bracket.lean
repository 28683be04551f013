import WebRouting.Proofs.Regex.Bracket
import WebRouting.Proofs.Regex.Cut.Escape

/-! # Brackets cut short

A class in brackets is read in the same way if the pattern is cut before a parenthesis behind it
(`readBracket?_cut`). Behind a hyphen a member looks ahead for the end of a range. If that lies behind
the parenthesis, the hyphen is the last that is left (`Trailing`), and then the bracket is not closed
before the parenthesis at all. -/

namespace WebRouting.Regex

variable {flags : Flags} {c : Char} {cs more rest t : List Char}

/-! ## Brackets -/

/-- A member of a bracket is read in the same way before a parenthesis. -/
theorem readItem?_cut {item : ClassItem} (h : readItem? flags c cs = some (item, rest)) :
    ∃ u, cs = u ++ rest ∧ Settled (c :: u) ∧ ∀ p t, rest = p ++ ')' :: t →
      readItem? flags c (u ++ p) = some (item, p) := by
  rw [readItem?] at h
  split at h
  · next hc =>
    subst hc
    split at h
    · next x after hescape =>
      split at h
      · next hx =>
        cases h
        obtain ⟨u, rfl, hu, hcut⟩ := readEscape?_cut hescape
        refine ⟨u, rfl, hu, fun p t hp => ?_⟩
        obtain hcut | ⟨⟨a, ha⟩, -⟩ := hcut p t hp
        · simp [readItem?, hcut, hx]
        · cases ha
      · cases h
    · next cls after hescape =>
      cases h
      obtain ⟨u, rfl, hu, hcut⟩ := readEscape?_cut hescape
      refine ⟨u, rfl, hu, fun p t hp => ?_⟩
      obtain hcut | ⟨⟨a, ha⟩, -⟩ := hcut p t hp
      · simp [readItem?, hcut]
      · cases ha
    · cases h
  · next hc =>
    split at h
    · next hx =>
      cases h
      refine ⟨[], rfl, .cons hc .nil, fun p t hp => ?_⟩
      rw [readItem?, if_neg hc, if_pos hx]
      rfl
    · cases h

/-- A hyphen follows that nothing significant comes after, so that it would begin a range. -/
def Trailing (flags : Flags) (cs : List Char) : Prop :=
  ∃ more, next? flags cs = some ('-', more) ∧ next? flags more = none

theorem rangeEnd?_eq_some {after : List Char} : rangeEnd? flags cs = some after ↔
    next? flags cs = some ('-', after) ∧
      ∀ x more, next? flags after = some (x, more) → x ≠ ']' ∧ x ≠ '-' := by
  rw [rangeEnd?]
  constructor
  · intro h
    split at h
    · next hcs =>
      split at h
      · cases h
      · cases h
      · next hbracket hhyphen =>
        cases h
        refine ⟨hcs, fun x more hx => ⟨?_, ?_⟩⟩
        · rintro rfl; exact hbracket more hx
        · rintro rfl; exact hhyphen more hx
    · cases h
  · rintro ⟨hcs, hafter⟩
    rw [hcs]
    simp only
    split
    · next h => exact absurd rfl (hafter _ _ h).1
    · next h => exact absurd rfl (hafter _ _ h).2
    · rfl

/-- No range begins before a parenthesis either, unless a hyphen is the last that is left. -/
theorem rangeEnd?_cut_of_none (h : rangeEnd? flags (cs ++ t) = none) :
    rangeEnd? flags cs = none ∨ Trailing flags cs := by
  cases hcs : rangeEnd? flags cs with
  | none => exact .inl rfl
  | some after =>
    obtain ⟨hhyphen, hafter⟩ := rangeEnd?_eq_some.mp hcs
    cases hnext : next? flags after with
    | none => exact .inr ⟨after, hhyphen, hnext⟩
    | some first =>
      -- the same character follows the hyphen in the longer text
      rw [rangeEnd?_append_of_some hcs (by rw [hnext]; rfl)] at h
      cases h

/-- A member or a range in a bracket is read in the same way before a parenthesis, unless a hyphen is
the last that is left. -/
theorem readMember?_cut {cls : CharClass} (h : readMember? flags c cs = some (cls, rest)) :
    ∃ u, cs = u ++ rest ∧ Settled (c :: u) ∧ ∀ p t, rest = p ++ ')' :: t →
      readMember? flags c (u ++ p) = some (cls, p) ∨ Trailing flags p := by
  simp only [readMember?, Option.bind_eq_bind, Option.bind_eq_some_iff, Prod.exists] at h
  obtain ⟨item, more, hitem, h⟩ := h
  obtain ⟨u, rfl, hu, hcut⟩ := readItem?_cut hitem
  split at h
  -- a single character or an escape
  · next hend =>
    obtain rfl : more = rest := by cases item <;> exact (Prod.mk.inj (Option.some.inj h)).2
    refine ⟨u, rfl, hu, fun p t hp => ?_⟩
    rw [hp] at hend
    refine (rangeEnd?_cut_of_none hend).imp_left fun hend => ?_
    simp only [readMember?, Option.bind_eq_bind, Option.bind_eq_some_iff, Prod.exists]
    refine ⟨item, p, hcut p t hp, ?_⟩
    rw [hend]
    cases item <;> cases h <;> rfl
  -- both ends of a range
  · next after hend =>
    simp only [Option.bind_eq_some_iff, Prod.exists] at h
    obtain ⟨y, after', hy, last, after'', hlast, h⟩ := h
    obtain ⟨hhyphen, hafter⟩ := rangeEnd?_eq_some.mp hend
    obtain ⟨v, rfl, hv, -, hcutv⟩ := next?_cut hhyphen
    obtain ⟨w, rfl, hw, -, hcutw⟩ := next?_cut hy
    obtain ⟨x, rfl, hx, hcutx⟩ := readItem?_cut hlast
    have hrest : after'' = rest := by
      split at h
      · next heq =>
        split at h
        · cases h
          exact (Prod.mk.inj heq).2
        · cases h
      · cases h
    subst hrest
    refine ⟨u ++ (v ++ '-' :: (w ++ y :: x)), by simp, ?_, fun p t hp => .inl ?_⟩
    · exact hu.append (hv.append (.cons (by decide) (hw.append hx)))
    · have hitem' : readItem? flags c (u ++ (v ++ '-' :: (w ++ y :: (x ++ p)))) =
          some (item, v ++ '-' :: (w ++ y :: (x ++ p))) := hcut _ t (by simp [hp])
      have hy' := hcutw (x ++ p)
      have hend' : rangeEnd? flags (v ++ '-' :: (w ++ y :: (x ++ p))) =
          some (w ++ y :: (x ++ p)) := by
        refine rangeEnd?_eq_some.mpr ⟨hcutv _, fun z more hz => ?_⟩
        obtain rfl := (Prod.mk.inj (Option.some.inj (hy'.symm.trans hz))).1
        exact hafter _ _ hy
      have hlast' := hcutx p t hp
      simp only [List.append_assoc, List.cons_append] at hitem' ⊢
      simp only [readMember?, Option.bind_eq_bind, hitem', Option.bind_some, hend', hy', hlast']
      split at h
      · next heq =>
        cases heq
        split at h
        · next hle => cases h; exact if_pos hle
        · cases h
      · cases h

/-- Hyphens at the start of a list are read in the same way before a parenthesis. -/
theorem readHyphens_cut {count out : Nat} (h : readHyphens flags count cs = (out, rest)) :
    ∃ u, cs = u ++ rest ∧ Settled u ∧ ∀ p t, rest = p ++ t →
      readHyphens flags count (u ++ p) = (out, p) := by
  induction count, cs using readHyphens.induct flags with
  | case1 count cs more hhyphen _ ih =>
    rw [readHyphens_of_hyphen count hhyphen] at h
    obtain ⟨u, rfl, hu, -, hcut⟩ := next?_cut hhyphen
    obtain ⟨v, rfl, hv, hcut'⟩ := ih h
    refine ⟨u ++ '-' :: v, by simp, hu.append (.cons (by decide) hv), fun p t hp => ?_⟩
    rw [List.append_assoc, List.cons_append, readHyphens_of_hyphen count (hcut (v ++ p)),
      hcut' p t hp]
  | case2 count cs hhyphen =>
    rw [readHyphens_of_ne count hhyphen] at h
    cases h
    refine ⟨[], rfl, .nil, fun p t hp => readHyphens_of_ne out fun more hmore => ?_⟩
    rw [hp] at hhyphen
    exact hhyphen (more ++ t) (next?_append hmore t)

/-- The start of a list is read in the same way before a parenthesis. -/
theorem startList_cut {negated : Bool} {b : Bracket} (h : startList flags negated cs = (b, rest)) :
    ∃ u, cs = u ++ rest ∧ Settled u ∧ ∀ p t, rest = p ++ t →
      startList flags negated (u ++ p) = (b, p) := by
  rw [startList] at h
  split at h
  · next hyphen more hmore =>
    cases h
    obtain ⟨u, rfl, hu, hcut⟩ := readHyphens_cut hmore
    exact ⟨u, rfl, hu, fun p t hp => by rw [startList, hcut p t hp]⟩
  · next more hmore =>
    obtain ⟨u, rfl, hu, hcut⟩ := readHyphens_cut hmore
    split at h
    · next after hafter =>
      cases h
      obtain ⟨v, rfl, hv, -, hcut'⟩ := next?_cut hafter
      refine ⟨u ++ (v ++ [']']), by simp, hu.append (.concat v (by decide)), fun p t hp => ?_⟩
      have hcut := hcut (v ++ ']' :: p) t (by simp [hp])
      rw [startList, List.append_assoc, List.append_assoc, List.singleton_append, hcut]
      simp only
      rw [hcut' p]
      rfl
    · next hbracket =>
      cases h
      refine ⟨u, rfl, hu, fun p t hp => ?_⟩
      rw [startList, hcut p t hp]
      simp only
      split
      · next after hafter =>
        rw [hp] at hbracket
        exact absurd (next?_append hafter t) (hbracket (after ++ t))
      · rfl

/-- The start of a bracket is read in the same way before a parenthesis. -/
theorem startBracket_cut {b : Bracket} (h : startBracket flags cs = (b, rest)) :
    ∃ u, cs = u ++ rest ∧ Settled u ∧ ∀ p t, rest = p ++ t →
      startBracket flags (u ++ p) = (b, p) := by
  rw [startBracket] at h
  split at h
  · next more hmore =>
    obtain ⟨u, rfl, hu, -, hcut⟩ := next?_cut hmore
    obtain ⟨v, rfl, hv, hcut'⟩ := startList_cut h
    refine ⟨u ++ '^' :: v, by simp, hu.append (.cons (by decide) hv), fun p t hp => ?_⟩
    rw [startBracket, List.append_assoc, List.cons_append, hcut (v ++ p)]
    exact hcut' p t hp
  · next hcaret =>
    obtain ⟨u, rfl, hu, hcut⟩ := startList_cut h
    refine ⟨u, rfl, hu, fun p t hp => ?_⟩
    rw [startBracket]
    split
    · next more hmore =>
      rw [hp, ← List.append_assoc] at hcaret
      exact absurd (next?_append hmore t) (hcaret (more ++ t))
    · exact hcut p t hp

/-- The name of an ASCII class ends with a bracket. -/
theorem readPosixName?_cut {cls : CharClass} (h : readPosixName? cs = some (cls, rest)) :
    ∃ u, cs = u ++ ']' :: rest ∧ ∀ p, readPosixName? (u ++ ']' :: p) = some (cls, p) := by
  rw [readPosixName?] at h
  split at h
  · next name after hname =>
    obtain ⟨c, hlookup, h⟩ := Option.map_eq_some_iff.mp h
    cases h
    obtain ⟨rfl, hcut⟩ := cut?_cut hname
    refine ⟨name ++ [':'], by simp, fun p => ?_⟩
    rw [List.append_assoc, List.singleton_append, readPosixName?, hcut]
    simp [hlookup]
  · cases h

/-- An ASCII class ends with a bracket. -/
theorem readPosix?_cut {cls : Option CharClass} (h : readPosix? flags cs = some (cls, rest)) :
    ∃ u, cs = u ++ ']' :: rest ∧ ∀ p, readPosix? flags (u ++ ']' :: p) = some (cls, p) := by
  unfold readPosix? at h
  split at h
  · obtain ⟨⟨c, rest⟩, hname, h⟩ := Option.map_eq_some_iff.mp h
    cases h
    obtain ⟨u, rfl, hcut⟩ := readPosixName?_cut hname
    exact ⟨':' :: '^' :: u, rfl, fun p => by simp [readPosix?, hcut p]⟩
  · next more hcaret =>
    obtain ⟨⟨c, rest⟩, hname, h⟩ := Option.map_eq_some_iff.mp h
    cases h
    obtain ⟨u, rfl, hcut⟩ := readPosixName?_cut hname
    refine ⟨':' :: u, rfl, fun p => ?_⟩
    cases u with
    | nil =>
      have hcut := hcut p
      rw [List.nil_append] at hcut
      simp [readPosix?, hcut]
    | cons x u =>
      have hx : x ≠ '^' := fun hx => hcaret _ (by rw [hx]; rfl)
      have hcut := hcut p
      rw [List.cons_append] at hcut
      simp [readPosix?, hx, hcut]
  · cases h

/-- An operation has two characters. -/
theorem readOperation?_cut {operation : ClassOperation}
    (h : readOperation? c cs = some (operation, rest)) :
    ∃ x, cs = x :: rest ∧ Settled [c, x] ∧
      ∀ p, readOperation? c (x :: p) = some (operation, p) := by
  unfold readOperation? at h
  split at h
  case h_4 => cases h
  all_goals
    cases h
    exact ⟨_, rfl, rfl, fun p => rfl⟩

/-- A part of a bracket is read in the same way before a parenthesis, unless it is a member behind
which only a hyphen is left. -/
theorem readBracketPart?_cut {part : BracketPart}
    (h : readBracketPart? flags cs = some (part, rest)) :
    ∃ u, cs = u ++ rest ∧ Settled u ∧ ∀ p t, rest = p ++ ')' :: t →
      readBracketPart? flags (u ++ p) = some (part, p) ∨
        (∃ c, part = .member c) ∧ Trailing flags p := by
  simp only [readBracketPart?, Option.bind_eq_bind, Option.bind_eq_some_iff, Prod.exists] at h
  obtain ⟨x, more, hx, h⟩ := h
  obtain ⟨u, rfl, hu, -, hcut⟩ := next?_cut hx
  split at h
  · next hclose =>
    cases h
    refine ⟨u ++ [x], by simp, .concat u (by rw [hclose]; decide), fun p t hp => .inl ?_⟩
    rw [List.append_assoc, List.singleton_append, readBracketPart?, hcut p]
    exact if_pos hclose
  · next hclose =>
    split at h
    · next hopen =>
      split at h
      · next cls after hposix =>
        obtain ⟨c, rfl, h⟩ := Option.bind_eq_some_iff.mp h
        cases h
        obtain ⟨v, rfl, hcut'⟩ := readPosix?_cut hposix
        refine ⟨u ++ x :: v ++ [']'], by simp, .concat _ (by decide), fun p t hp => .inl ?_⟩
        rw [List.append_assoc, List.append_assoc, List.singleton_append, List.cons_append,
          readBracketPart?, hcut (v ++ ']' :: p)]
        simp [hopen, hcut' p]
      · next hposix =>
        generalize hbracket : startBracket flags more = started at h
        cases h
        obtain ⟨v, rfl, hv, hcut'⟩ := startBracket_cut hbracket
        have hx : x ≠ '\\' := by rw [hopen]; decide
        refine ⟨u ++ x :: v, by simp, hu.append (.cons hx hv), fun p t hp => .inl ?_⟩
        rw [hp, ← List.append_assoc, readPosix?_append, Option.map_eq_none_iff] at hposix
        rw [List.append_assoc, List.cons_append, readBracketPart?, hcut (v ++ p)]
        simp [hopen, hposix, hcut' p _ hp]
    · next hopen =>
      split at h
      · next operation after hoperation =>
        cases h
        obtain ⟨y, rfl, hy, hcut'⟩ := readOperation?_cut hoperation
        refine ⟨u ++ [x, y], by simp, hu.append hy, fun p t hp => .inl ?_⟩
        rw [List.append_assoc, List.cons_append, readBracketPart?, hcut ([y] ++ p)]
        simp [hclose, hopen, hcut' p]
      · next hoperation =>
        obtain ⟨⟨cls, after⟩, hmember, h⟩ := Option.bind_eq_some_iff.mp h
        cases h
        obtain ⟨v, rfl, hv, hcut'⟩ := readMember?_cut hmember
        refine ⟨u ++ x :: v, by simp, hu.append hv, fun p t hp =>
          (hcut' p t hp).imp (fun hmember => ?_) fun hp => ⟨⟨_, rfl⟩, hp⟩⟩
        rw [show after = p ++ ')' :: t from hp, ← List.append_assoc, readOperation?_append,
          Option.map_eq_none_iff] at hoperation
        rw [List.append_assoc, List.cons_append, readBracketPart?, hcut (v ++ p)]
        simp [hclose, hopen, hoperation, hmember]

theorem readBracketFrom?_of_next?_eq_none {b : Bracket} {outer : List Bracket}
    (h : next? flags cs = none) : readBracketFrom? flags b outer cs = none := by
  cases hout : readBracketFrom? flags b outer cs with
  | none => rfl
  | some out =>
    have hnext := isSome_next?_of_readBracketFrom? hout
    rw [h] at hnext
    cases hnext

/-- A bracket in which only a hyphen is left is not closed. -/
theorem readBracketFrom?_of_trailing {b : Bracket} {outer : List Bracket} (h : Trailing flags cs) :
    readBracketFrom? flags b outer cs = none := by
  obtain ⟨more, hhyphen, hmore⟩ := h
  have hoperation : readOperation? '-' more = none := by
    unfold readOperation?
    split
    case h_2 =>
      -- a second hyphen would be significant
      rw [next?_cons flags (by decide) (by decide)] at hmore
      cases hmore
    case h_4 => rfl
    all_goals next heq => exact absurd heq (by decide)
  have hmember : readMember? flags '-' more = some (.single '-', more) := by
    have hend : rangeEnd? flags more = none := by
      rw [rangeEnd?, hmore]
    have hitem : readItem? flags '-' more = some (.literal '-', more) := by
      rw [readItem?, if_neg (by decide), if_pos (by simp [isListable])]
    simp [readMember?, hitem, hend]
  have hpart : readBracketPart? flags cs = some (.member (.single '-'), more) := by
    simp [readBracketPart?, hhyphen, hoperation, hmember]
  rw [readBracketFrom?, hpart]
  simp only [readBracketFrom?_of_next?_eq_none hmore, ite_self]

theorem lt_of_cut {u : List Char} (h : rest.length < (u ++ rest).length) (p : List Char) :
    p.length < (u ++ p).length := by
  rw [List.length_append] at h ⊢
  omega

/-- The rest of a bracket is read in the same way before a parenthesis. -/
theorem readBracketFrom?_cut {b : Bracket} {outer : List Bracket} {out : CharClass × Nat}
    (h : readBracketFrom? flags b outer cs = some (out, rest)) :
    ∃ u, cs = u ++ rest ∧ Settled u ∧ ∀ p t, rest = p ++ ')' :: t →
      readBracketFrom? flags b outer (u ++ p) = some (out, p) := by
  induction b, outer, cs using readBracketFrom?.induct flags
  case case1 b outer cs hpart =>
    rw [readBracketFrom?, hpart] at h
    cases h
  -- a member, an inner bracket or an operation: the bracket goes on
  case case2 b outer cs more hlt part hpart ih | case3 b outer cs more hlt part hpart ih |
      case4 b outer cs more hlt part hpart ih =>
    rw [readBracketFrom?, hpart] at h
    simp only [if_pos hlt] at h
    obtain ⟨u, rfl, hu, hcut⟩ := readBracketPart?_cut hpart
    obtain ⟨v, rfl, hv, hcut'⟩ := ih h
    refine ⟨u ++ v, by simp, hu.append hv, fun p t hp => ?_⟩
    have hrest := hcut' p t hp
    obtain hpart' | ⟨-, htrailing⟩ := hcut (v ++ p) t (by simp [hp])
    · rw [List.append_assoc, readBracketFrom?, hpart']
      simp only [if_pos (lt_of_cut hlt (v ++ p)), hrest]
    · rw [readBracketFrom?_of_trailing htrailing] at hrest
      cases hrest
  case case5 b outer cs more hlt hclose hpart =>
    rw [readBracketFrom?, hpart] at h
    simp only [if_pos hlt, hclose] at h
    cases h
  -- the end of the outermost bracket
  case case6 b cs more hlt c hclose hpart =>
    rw [readBracketFrom?, hpart] at h
    simp only [if_pos hlt, hclose] at h
    cases h
    obtain ⟨u, rfl, hu, hcut⟩ := readBracketPart?_cut hpart
    refine ⟨u, rfl, hu, fun p t hp => ?_⟩
    obtain hpart' | ⟨⟨c, hc⟩, -⟩ := hcut p t hp
    · rw [readBracketFrom?, hpart']
      simp only [if_pos (lt_of_cut hlt p), hclose]
    · cases hc
  case case7 b cs more hlt c parent outer hclose hpart ih =>
    rw [readBracketFrom?, hpart] at h
    simp only [if_pos hlt, hclose] at h
    obtain ⟨u, rfl, hu, hcut⟩ := readBracketPart?_cut hpart
    obtain ⟨v, rfl, hv, hcut'⟩ := ih h
    refine ⟨u ++ v, by simp, hu.append hv, fun p t hp => ?_⟩
    obtain hpart' | ⟨⟨c, hc⟩, -⟩ := hcut (v ++ p) t (by simp [hp])
    · rw [List.append_assoc, readBracketFrom?, hpart']
      simp only [if_pos (lt_of_cut hlt (v ++ p)), hclose, hcut' p t hp]
    · cases hc
  case case8 b outer cs part more hpart hlt =>
    rw [readBracketFrom?, hpart] at h
    simp only [if_neg hlt] at h
    cases h

/-- A class in brackets is read in the same way before a parenthesis. -/
theorem readBracket?_cut {out : CharClass × Nat} (h : readBracket? flags cs = some (out, rest)) :
    ∃ u, cs = u ++ rest ∧ Settled u ∧ ∀ p t, rest = p ++ ')' :: t →
      readBracket? flags (u ++ p) = some (out, p) := by
  rw [readBracket?] at h
  generalize hbracket : startBracket flags cs = started at h
  obtain ⟨b, more⟩ := started
  obtain ⟨u, rfl, hu, hcut⟩ := startBracket_cut hbracket
  obtain ⟨v, rfl, hv, hcut'⟩ := readBracketFrom?_cut h
  refine ⟨u ++ v, by simp, hu.append hv, fun p t hp => ?_⟩
  rw [List.append_assoc, readBracket?, hcut (v ++ p) (')' :: t) (by simp [hp])]
  exact hcut' p t hp

end WebRouting.Regex
