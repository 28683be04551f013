import WebRouting.Text.Split

/-! # Cut texts

What cutting and trimming find in a text whose parts are known. The pieces between separators are those
of the list library (`pieces_eq_splitOn`), so parts without separators that are put together come apart
again, up to parts that are left out anyway (`filter_splitOn_intercalate`). A text is cut at its first
separator (`cut?_append_cons`), and trimming drops what is on both sides of a character that stays
(`trim_append_cons`). -/

namespace WebRouting.Text

variable {separator c : Char} {cs before : List Char}

/-! ## Pieces -/

/-- The pieces are those of the list library. -/
theorem pieces_eq_splitOn (separator : Char) (cs : List Char) :
    pieces separator cs = cs.splitOn separator := by
  induction cs with
  | nil => rfl
  | cons c cs ih =>
    rw [pieces, List.splitOn_cons_eq_if_modifyHead, ← ih]
    by_cases hc : c = separator
    · simp [hc]
    · cases hpieces : pieces separator cs with
      | nil => exact absurd hpieces (pieces_ne_nil separator cs)
      | cons piece rest => simp [hc]

/-- Parts without separators come apart again when they have been put together, if empty parts do not
count. -/
theorem filter_splitOn_intercalate {p : List Char → Bool} (hp : p [] = false)
    {parts : List (List Char)} (h : ∀ part ∈ parts, separator ∉ part) :
    (([separator].intercalate parts).splitOn separator).filter p = parts.filter p := by
  by_cases hne : parts = []
  · subst hne
    simp [hp]
  · rw [List.splitOn_intercalate separator h hne]

/-- What the separator satisfies is satisfied by all that is put together if it is satisfied by all
parts. -/
theorem forall_mem_intercalate_iff {P : Char → Prop} (hseparator : P separator)
    {parts : List (List Char)} :
    (∀ c ∈ [separator].intercalate parts, P c) ↔ ∀ part ∈ parts, ∀ c ∈ part, P c := by
  induction parts with
  | nil => simp
  | cons part parts ih =>
    cases parts with
    | nil => simp
    | cons second parts =>
      rw [List.intercalate_cons_cons, List.forall_mem_append, ih, List.forall_mem_append,
        List.forall_mem_singleton, and_iff_left hseparator, List.forall_mem_cons (l := second :: parts)]

/-! ## Cuts -/

/-- A text is cut at its first separator. -/
theorem cut?_append_cons (h : separator ∉ before) (after : List Char) :
    cut? separator (before ++ separator :: after) = some (before, after) := by
  induction before with
  | nil => exact if_pos rfl
  | cons x before ih =>
    rw [List.mem_cons, not_or] at h
    rw [List.cons_append, cut?, if_neg (Ne.symm h.1), ih h.2]
    rfl

/-- A text without separators is not cut. -/
theorem cut?_of_not_mem (h : separator ∉ cs) : cut? separator cs = none := by
  induction cs with
  | nil => rfl
  | cons c cs ih =>
    rw [List.mem_cons, not_or] at h
    rw [cut?, if_neg (Ne.symm h.1), ih h.2]
    rfl

/-! ## Ends -/

/-- A character that stays ends what is dropped at the start. -/
theorem dropWhile_append_cons {p : Char → Bool} (hc : p c = false) (u v : List Char) :
    (u ++ c :: v).dropWhile p = u.dropWhile p ++ c :: v := by
  have hstays : ¬p c = true := by simp [hc]
  rw [List.dropWhile_append]
  split
  · next hempty => rw [List.isEmpty_iff.mp hempty, List.dropWhile_cons_of_neg hstays, List.nil_append]
  · rfl

/-- A character that stays ends what is dropped at the end. -/
theorem dropEndWhile_append_cons {p : Char → Bool} (hc : p c = false) (u v : List Char) :
    dropEndWhile p (u ++ c :: v) = u ++ c :: dropEndWhile p v := by
  rw [dropEndWhile, List.reverse_append, List.reverse_cons, List.append_assoc,
    List.singleton_append, dropWhile_append_cons hc, List.reverse_append, List.reverse_cons,
    List.reverse_reverse, List.append_assoc]
  rfl

/-- The sides of a character that stays are trimmed by themselves. -/
theorem trim_append_cons {p : Char → Bool} (hc : p c = false) (u v : List Char) :
    trim p (u ++ c :: v) = u.dropWhile p ++ c :: dropEndWhile p v := by
  rw [trim, dropWhile_append_cons hc, dropEndWhile_append_cons hc]

/-- What is dropped at the start goes no further than to a start that stays. -/
theorem dropWhile_append_of_head? {p : Char → Bool} (hbefore : ∀ c ∈ before, p c = true)
    (hcs : ∀ c ∈ cs.head?, p c = false) : (before ++ cs).dropWhile p = cs := by
  rw [List.dropWhile_append_of_pos hbefore]
  cases cs with
  | nil => rfl
  | cons c cs => exact List.dropWhile_cons_of_neg (by simp [hcs c rfl])

/-- What is dropped at the end goes no further than to an end that stays. -/
theorem dropEndWhile_append_of_getLast? {p : Char → Bool} {after : List Char}
    (hafter : ∀ c ∈ after, p c = true) (hcs : ∀ c ∈ cs.getLast?, p c = false) :
    dropEndWhile p (cs ++ after) = cs := by
  have hreverse : ∀ c ∈ cs.reverse.head?, p c = false := by rwa [List.head?_reverse]
  rw [dropEndWhile, List.reverse_append, dropWhile_append_of_head? (by simpa using hafter) hreverse,
    List.reverse_reverse]

/-- Trimming adds no characters. -/
theorem trim_sublist (p : Char → Bool) (cs : List Char) : (trim p cs).Sublist cs := by
  have hend : (dropEndWhile p (cs.dropWhile p)).Sublist (cs.dropWhile p) := by
    rw [dropEndWhile, ← List.sublist_reverse_iff]
    exact List.dropWhile_sublist p
  exact hend.trans (List.dropWhile_sublist p)

end WebRouting.Text
