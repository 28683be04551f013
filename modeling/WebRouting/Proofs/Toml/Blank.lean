import WebRouting.Proofs.Rule.Token
import WebRouting.Toml.Reader
import WebRouting.Unicode.Property

/-! # Blank documents

A text of blank characters is not always a document: TOML knows spaces, tabs and newlines only. If it is
one, it is the empty document (`read?_eq_of_blank`): no line of it is more than the end of the line. -/

namespace WebRouting.Toml

variable {c : Char} {cs rest : List Char}

/-- No key starts with a blank character. -/
theorem isBareKeyChar_of_isBlank (h : Unicode.isBlank c = true) : isBareKeyChar c = false := by
  simp only [Unicode.isBlank, Unicode.whiteSpace, Ranges.contains, Ranges.covers_cons,
    Ranges.covers_nil, Bool.or_eq_true, Bool.and_eq_true, decide_eq_true_eq, Bool.false_eq_true,
    or_false] at h
  rw [Bool.eq_false_iff]
  intro hkey
  simp only [isBareKeyChar, Char.isAlphanum, Bool.or_eq_true, decide_eq_true_eq] at hkey
  rcases hkey with ((halpha | hdigit) | rfl) | rfl
  · have hletter := Rule.bounds_of_isAlpha halpha
    omega
  · have hbounds := Rule.bounds_of_isDigit hdigit
    omega
  · exact absurd h (by decide)
  · exact absurd h (by decide)

theorem skipComment_suffix (cs : List Char) : skipComment cs <:+ cs := by
  unfold skipComment
  split
  · exact (List.dropWhile_suffix isText).trans (List.suffix_cons ..)
  · exact List.suffix_refl _

theorem suffix_of_afterNewline? (h : afterNewline? cs = some rest) : rest <:+ cs := by
  unfold afterNewline? at h
  split at h
  · cases h
    exact List.suffix_cons ..
  · cases h
    exact (List.suffix_cons ..).trans (List.suffix_cons ..)
  · cases h

/-- What is left behind the end of a line was there before. -/
theorem suffix_of_afterLine? (h : afterLine? cs = some rest) : rest <:+ cs := by
  unfold afterLine? at h
  split at h
  · cases h
    exact List.nil_suffix
  · exact ((suffix_of_afterNewline? h).trans (skipComment_suffix _)).trans
      (List.dropWhile_suffix isBlank)

/-- Where a line of blank characters does not start with a space or a tab, it cannot be an entry. -/
theorem readEntry?_of_blank {readValue? : List Char → Option (Toml × List Char)}
    (h : Unicode.isBlank c = true) (hc : isBlank c = false) :
    readEntry? readValue? (c :: cs) = none := by
  have hskip : skip (c :: cs) = c :: cs := List.dropWhile_cons_of_neg (by simp [hc])
  have hkey : readSimpleKey? (c :: cs) = none := by
    unfold readSimpleKey?
    split
    · next heq => cases heq; exact absurd h (by decide)
    · next heq => cases heq; exact absurd h (by decide)
    · simp [isBareKeyChar_of_isBlank h]
  rw [ readEntry?, readPath?, readKeys?, hskip, hkey]
  rfl

/-- A line of blank characters adds nothing to a document. -/
theorem readLine?_of_blank {d out : Document} (hc : isBlank c = false)
    (hblank : ∀ x ∈ c :: cs, Unicode.isBlank x = true) (h : readLine? d (c :: cs) = some (out, rest)) :
    out = d ∧ rest <:+ c :: cs := by
  have hfirst := hblank c List.mem_cons_self
  unfold readLine? at h
  split at h
  · next heq =>
    cases heq
    exact absurd hfirst (by decide)
  · next heq =>
    cases heq
    split at h
    · obtain ⟨rest, hrest, h⟩ := Option.map_eq_some_iff.mp h
      cases h
      exact ⟨rfl, suffix_of_afterLine? hrest⟩
    · rw [readEntry?_of_blank hfirst hc] at h
      cases h
  · next heq => cases heq

/-- Lines of blank characters add nothing to a document. -/
theorem readDocument?_of_blank {d out : Document} (hblank : ∀ x ∈ cs, Unicode.isBlank x = true)
    (h : readDocument? d cs = some out) : out = d := by
  -- on the lines of the text
  fun_induction readDocument? d cs with
  | case1 d cs hskip =>
    cases h
    rfl
  | case2 d cs hskip hline => cases h
  | case3 d cs m rest hlt hskip hline ih =>
    have hsuffix : skip cs <:+ cs := List.dropWhile_suffix isBlank
    obtain ⟨c, line, hcons⟩ := List.exists_cons_of_ne_nil hskip
    -- the blanks of the format have been skipped, so the line starts with another one
    have hc : isBlank c = false := by
      have hhead := List.head?_dropWhile_not isBlank cs
      rw [← skip, hcons] at hhead
      simpa using hhead
    rw [hcons] at hline hsuffix
    obtain ⟨rfl, hrest⟩ := readLine?_of_blank hc (fun x hx => hblank x (hsuffix.subset hx)) hline
    exact ih (fun x hx => hblank x (hsuffix.subset (hrest.subset hx))) h
  | case4 d cs m rest hlt hskip hline => cases h

/-- A document of blank characters is empty. -/
theorem read?_eq_of_blank {text : String} {document : Toml}
    (hblank : text.toList.all Unicode.isBlank = true) (h : read? text = some document) :
    document = .table [] := by
  rw [List.all_eq_true] at hblank
  obtain ⟨d, hd, rfl⟩ := Option.map_eq_some_iff.mp h
  split at hd
  -- the byte order mark is no blank character
  · next rest hmark =>
    rw [hmark] at hblank
    exact absurd (hblank _ List.mem_cons_self) (by decide)
  · obtain rfl := readDocument?_of_blank hblank hd
    rfl

end WebRouting.Toml
