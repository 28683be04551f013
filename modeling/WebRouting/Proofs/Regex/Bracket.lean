import WebRouting.Proofs.Regex.Escape
import WebRouting.Regex.Bracket

/-! # Brackets before further text

A class in brackets is read in the same way when the parenthesis that closes a group follows
(`readBracket?_append`). A bracket looks ahead for the end of a range, for the name of a class and for
an operation; the parenthesis is none of these, and it stands behind the bracket that closes. -/

namespace WebRouting.Regex

variable {flags : Flags} {c : Char} {cs more rest t : List Char}

/-! ## Brackets -/

/-- No operation on classes starts with a parenthesis. -/
theorem readOperation?_append (c : Char) (cs t : List Char) :
    readOperation? c (cs ++ ')' :: t) =
      (readOperation? c cs).map fun (operation, rest) => (operation, rest ++ ')' :: t) := by
  cases cs with
  | nil =>
    unfold readOperation?
    split <;> simp_all
  | cons x cs =>
    rw [List.cons_append]
    unfold readOperation?
    split <;> simp_all

theorem not_mem_of_lookup_posix {name : List Char} {cls : CharClass}
    (h : CharClass.posix.lookup (String.ofList name) = some cls) : ')' ∉ name := by
  have hnames : ∀ entry ∈ CharClass.posix, ')' ∉ entry.1.toList := by decide
  -- the name is one of the table
  obtain ⟨before, after, hposix, -⟩ := List.lookup_eq_some_iff.mp h
  have hmem : (String.ofList name, cls) ∈ CharClass.posix := by simp [hposix]
  simpa using hnames _ hmem

/-- What follows a parenthesis cannot complete the name of a class. -/
theorem readPosixName?_append (cs t : List Char) :
    readPosixName? (cs ++ ')' :: t) =
      (readPosixName? cs).map fun (cls, rest) => (cls, rest ++ ')' :: t) := by
  rw [readPosixName?, readPosixName?]
  cases hcut : Text.cut? ':' cs with
  | some parts =>
    obtain ⟨name, after⟩ := parts
    rw [cut?_append hcut]
    cases after with
    | nil => rfl
    | cons x after =>
      by_cases hx : x = ']'
      · subst hx
        simp [Function.comp_def]
      · simp [hx]
  | none =>
    -- a colon can only stand behind the parenthesis, which is then part of the name
    rw [cut?_append_of_eq_none hcut, Text.cut?, if_neg (by decide), Option.map_map]
    cases Text.cut? ':' t with
    | none => rfl
    | some parts =>
      obtain ⟨before, after⟩ := parts
      cases hlookup : CharClass.posix.lookup (String.ofList (cs ++ ')' :: before)) with
      | none =>
        simp only [Option.map_some, Function.comp_apply, Option.map_none]
        split
        · next heq => cases heq; rw [hlookup]; rfl
        · rfl
      | some cls => exact absurd (by simp) (not_mem_of_lookup_posix hlookup)

/-- A bracketed name is completed by what follows no more than a name by itself. -/
theorem readPosix?_append (flags : Flags) (cs t : List Char) :
    readPosix? flags (cs ++ ')' :: t) =
      (readPosix? flags cs).map fun (cls, rest) => (cls, rest ++ ')' :: t) := by
  cases cs with
  | nil => rfl
  | cons x cs =>
    by_cases hx : x = ':'
    · subst hx
      cases cs with
      | nil =>
        have hname := readPosixName?_append [] t
        rw [List.nil_append] at hname
        simp [readPosix?, hname, Function.comp_def]
      | cons y cs =>
        by_cases hy : y = '^'
        · subst hy
          simp [readPosix?, readPosixName?_append, Function.comp_def]
        · have hname := readPosixName?_append (y :: cs) t
          rw [List.cons_append] at hname
          simp [readPosix?, hy, hname, Function.comp_def]
    · simp [readPosix?, hx]

/-- A character or an escape in a bracket is read as it is by itself. -/
theorem readItem?_append {item : ClassItem} (h : readItem? flags c cs = some (item, rest))
    (t : List Char) : readItem? flags c (cs ++ ')' :: t) = some (item, rest ++ ')' :: t) := by
  rw [readItem?] at h ⊢
  split at h
  · next hc =>
    rw [if_pos hc]
    split at h
    · next x after hescape =>
      rw [readEscape?_append hescape]
      simp only at h ⊢
      split at h
      · next hx => rw [if_pos hx]; cases h; rfl
      · cases h
    · next cls after hescape =>
      rw [readEscape?_append hescape]
      cases h
      rfl
    · cases h
  · next hc =>
    rw [if_neg hc]
    split at h
    · next hx => rw [if_pos hx]; cases h; rfl
    · cases h

/-- Where no range is begun and something stands ahead, none is begun by what follows. -/
theorem rangeEnd?_append_of_none (h : rangeEnd? flags cs = none) (hnext : (next? flags cs).isSome)
    (t : List Char) : rangeEnd? flags (cs ++ t) = none := by
  obtain ⟨⟨x, more⟩, hx⟩ := Option.isSome_iff_exists.mp hnext
  rw [rangeEnd?, hx] at h
  rw [rangeEnd?, next?_append hx]
  split at h
  · next after heq =>
    cases heq
    simp only
    split at h
    · next hafter => rw [next?_append hafter]; rfl
    · next hafter => rw [next?_append hafter]; rfl
    · cases h
  · next hhyphen =>
    split
    · next heq =>
      cases heq
      exact absurd rfl (hhyphen more)
    · rfl

/-- A range that is begun stays begun. -/
theorem rangeEnd?_append_of_some (h : rangeEnd? flags cs = some rest)
    (hnext : (next? flags rest).isSome) (t : List Char) :
    rangeEnd? flags (cs ++ t) = some (rest ++ t) := by
  obtain ⟨⟨y, after⟩, hy⟩ := Option.isSome_iff_exists.mp hnext
  rw [rangeEnd?] at h
  split at h
  · next more hx =>
    rw [rangeEnd?, next?_append hx]
    simp only
    split at h
    · cases h
    · cases h
    -- a hyphen before a character that ends no range
    · next hbracket hhyphen =>
      cases h
      rw [next?_append hy]
      split
      · next heq => cases heq; exact absurd hy (hbracket after)
      · next heq => cases heq; exact absurd hy (hhyphen after)
      · rfl
  · cases h

/-- A character, an escape or a range in a bracket is read as it is by itself if something stands
behind it. -/
theorem readMember?_append {cls : CharClass} (h : readMember? flags c cs = some (cls, rest))
    (hnext : (next? flags rest).isSome) (t : List Char) :
    readMember? flags c (cs ++ ')' :: t) = some (cls, rest ++ ')' :: t) := by
  simp only [readMember?, Option.bind_eq_bind, Option.bind_eq_some_iff, Prod.exists] at h ⊢
  obtain ⟨item, more, hitem, h⟩ := h
  refine ⟨item, more ++ ')' :: t, readItem?_append hitem t, ?_⟩
  split at h
  · next hend =>
    have hmore : more = rest := by cases item <;> exact (Prod.mk.inj (Option.some.inj h)).2
    subst hmore
    -- a single character or an escape
    rw [rangeEnd?_append_of_none hend hnext]
    cases item <;> cases h <;> rfl
  · next after hend =>
    simp only [Option.bind_eq_some_iff, Prod.exists] at h
    obtain ⟨y, after', hy, last, after'', hlast, h⟩ := h
    -- both ends of a range
    rw [rangeEnd?_append_of_some hend (Option.isSome_iff_exists.mpr ⟨_, hy⟩)]
    simp only [Option.bind_eq_some_iff, Prod.exists]
    refine ⟨y, _, next?_append hy _, last, _, readItem?_append hlast t, ?_⟩
    split at h
    · next heq =>
      cases heq
      split at h
      · next hle => cases h; exact if_pos hle
      · cases h
    · cases h

theorem readHyphens_of_hyphen (count : Nat) (h : next? flags cs = some ('-', more)) :
    readHyphens flags count cs = readHyphens flags (count + 1) more := by
  rw [readHyphens]
  split
  · next h' => rw [h] at h'; cases h'; rfl
  · next h' => exact absurd h (h' more)

theorem readHyphens_of_ne (count : Nat) (h : ∀ more, next? flags cs ≠ some ('-', more)) :
    readHyphens flags count cs = (count, cs) := by
  rw [readHyphens]
  split
  · next h' => exact absurd h' (h _)
  · rfl

theorem readHyphens_append {count out : Nat} (h : readHyphens flags count cs = (out, rest))
    (hnext : (next? flags rest).isSome) (t : List Char) :
    readHyphens flags count (cs ++ t) = (out, rest ++ t) := by
  induction count, cs using readHyphens.induct flags with
  | case1 count cs more hhyphen _ ih =>
    rw [readHyphens_of_hyphen count hhyphen] at h
    rw [readHyphens_of_hyphen count (next?_append hhyphen t)]
    exact ih h
  | case2 count cs hhyphen =>
    -- the run of hyphens has ended before a character that is there
    rw [readHyphens_of_ne count hhyphen] at h
    cases h
    obtain ⟨⟨x, more⟩, hx⟩ := Option.isSome_iff_exists.mp hnext
    refine readHyphens_of_ne out fun after hafter => ?_
    rw [next?_append hx] at hafter
    cases hafter
    exact hhyphen more hx

theorem startList_append {negated : Bool} {b : Bracket}
    (h : startList flags negated cs = (b, rest)) (hnext : (next? flags rest).isSome)
    (t : List Char) : startList flags negated (cs ++ t) = (b, rest ++ t) := by
  rw [startList] at h ⊢
  split at h
  · next hyphen more hmore =>
    cases h
    rw [readHyphens_append hmore hnext]
  · next more hmore =>
    split at h
    · next after hafter =>
      cases h
      rw [readHyphens_append hmore (Option.isSome_iff_exists.mpr ⟨_, hafter⟩)]
      simp only
      rw [next?_append hafter]
      rfl
    · next hbracket =>
      cases h
      obtain ⟨⟨x, after⟩, hx⟩ := Option.isSome_iff_exists.mp hnext
      rw [readHyphens_append hmore hnext]
      simp only
      rw [next?_append hx]
      split
      · next heq => cases heq; exact absurd hx (hbracket after)
      · rfl

/-- The start of a bracket is read as it is by itself if something stands behind it. -/
theorem startBracket_append {b : Bracket} (h : startBracket flags cs = (b, rest))
    (hnext : (next? flags rest).isSome) (t : List Char) :
    startBracket flags (cs ++ t) = (b, rest ++ t) := by
  rw [startBracket] at h ⊢
  split at h
  · next more hmore =>
    rw [next?_append hmore]
    exact startList_append h hnext t
  · next hcaret =>
    have hlist := startList_append h hnext t
    cases hx : next? flags cs with
    | none =>
      -- nothing at all would be left, but something stands ahead
      rw [startList, readHyphens_of_ne 0 (by simp [hx])] at h
      simp only [hx] at h
      cases h
      simp [hx] at hnext
    | some first =>
      obtain ⟨x, more⟩ := first
      rw [next?_append hx]
      split
      · next heq => cases heq; exact absurd hx (hcaret more)
      · exact hlist

/-- A part of a bracket is read as it is by itself if it closes the bracket or something stands behind
it. -/
theorem readBracketPart?_append {part : BracketPart}
    (h : readBracketPart? flags cs = some (part, rest))
    (hnext : part = .close ∨ (next? flags rest).isSome) (t : List Char) :
    readBracketPart? flags (cs ++ ')' :: t) = some (part, rest ++ ')' :: t) := by
  simp only [readBracketPart?, Option.bind_eq_bind, Option.bind_eq_some_iff, Prod.exists] at h ⊢
  obtain ⟨x, more, hx, h⟩ := h
  refine ⟨x, _, next?_append hx _, ?_⟩
  split at h
  · next hclose =>
    cases h
    exact if_pos hclose
  · next hclose =>
    rw [if_neg hclose]
    split at h
    · next hopen =>
      rw [if_pos hopen, readPosix?_append]
      split at h
      · next cls after hposix =>
        obtain ⟨c, rfl, h⟩ := Option.bind_eq_some_iff.mp h
        cases h
        rw [hposix]
        rfl
      · next hposix =>
        cases h
        obtain hnext := hnext.resolve_left BracketPart.noConfusion
        rw [hposix, startBracket_append rfl hnext]
        rfl
    · next hopen =>
      rw [if_neg hopen, readOperation?_append]
      split at h
      · next operation after hoperation =>
        cases h
        rw [hoperation]
        rfl
      · next hoperation =>
        obtain ⟨⟨cls, after⟩, hmember, h⟩ := Option.bind_eq_some_iff.mp h
        cases h
        obtain hnext := hnext.resolve_left BracketPart.noConfusion
        rw [hoperation]
        simp only [Option.map_none]
        rw [readMember?_append hmember hnext]
        rfl

theorem isSome_next?_of_readBracketFrom? {b : Bracket} {outer : List Bracket}
    {out : (CharClass × Nat) × List Char} (h : readBracketFrom? flags b outer cs = some out) :
    (next? flags cs).isSome := by
  rw [readBracketFrom?] at h
  split at h
  · cases h
  · next hpart =>
    obtain ⟨x, hx, -⟩ := Option.bind_eq_some_iff.mp hpart
    exact Option.isSome_iff_exists.mpr ⟨x, hx⟩

theorem length_append_lt (h : rest.length < cs.length) (t : List Char) :
    (rest ++ t).length < (cs ++ t).length := by
  rw [List.length_append, List.length_append]
  omega

/-- The rest of a bracket is read as it is by itself. -/
theorem readBracketFrom?_append {b : Bracket} {outer : List Bracket} {out : CharClass × Nat}
    (h : readBracketFrom? flags b outer cs = some (out, rest)) (t : List Char) :
    readBracketFrom? flags b outer (cs ++ ')' :: t) = some (out, rest ++ ')' :: t) := by
  induction b, outer, cs using readBracketFrom?.induct flags
  case case1 b outer cs hpart =>
    rw [readBracketFrom?, hpart] at h
    cases h
  -- a member, an inner bracket or an operation: the bracket goes on, so something stands behind it
  case case2 b outer cs more hlt part hpart ih | case3 b outer cs more hlt part hpart ih |
      case4 b outer cs more hlt part hpart ih =>
    rw [readBracketFrom?, hpart] at h
    simp only [if_pos hlt] at h
    have hpart := readBracketPart?_append hpart (.inr (isSome_next?_of_readBracketFrom? h)) t
    rw [readBracketFrom?, hpart]
    simp only [if_pos (length_append_lt hlt _)]
    exact ih h
  case case5 b outer cs more hlt hclose hpart =>
    rw [readBracketFrom?, hpart] at h
    simp only [if_pos hlt, hclose] at h
    cases h
  -- the end of the outermost bracket, behind which nothing need stand
  case case6 b cs more hlt c hclose hpart =>
    rw [readBracketFrom?, hpart] at h
    simp only [if_pos hlt, hclose] at h
    cases h
    rw [readBracketFrom?, readBracketPart?_append hpart (.inl rfl)]
    simp only [if_pos (length_append_lt hlt _), hclose]
  case case7 b cs more hlt c parent outer hclose hpart ih =>
    rw [readBracketFrom?, hpart] at h
    simp only [if_pos hlt, hclose] at h
    rw [readBracketFrom?, readBracketPart?_append hpart (.inl rfl)]
    simp only [if_pos (length_append_lt hlt _), hclose]
    exact ih h
  case case8 b outer cs part more hpart hlt =>
    rw [readBracketFrom?, hpart] at h
    simp only [if_neg hlt] at h
    cases h

/-- A class in brackets is read as it is by itself. -/
theorem readBracket?_append {out : CharClass × Nat} (h : readBracket? flags cs = some (out, rest))
    (t : List Char) : readBracket? flags (cs ++ ')' :: t) = some (out, rest ++ ')' :: t) := by
  rw [readBracket?] at h ⊢
  rw [startBracket_append rfl (isSome_next?_of_readBracketFrom? h)]
  exact readBracketFrom?_append h t

end WebRouting.Regex
