import WebRouting.Proofs.Url.Percent
import WebRouting.Text.Split
import WebRouting.Url.Path

/-! # Segments of decoded paths

Decoding a path neither adds nor removes a boundary between segments (`decodePath_segments`). A path is
cut at its escaped slashes, and each piece is decoded by itself (`decodePathFrom_eq`). No piece has an
escaped slash, so none gains a slash; and a slash in a piece divides the piece in the same way before
and after decoding (`Cut.decode_join`). -/

namespace WebRouting.Url

/-! ## Cutting -/

/-- A text cut at its escaped slashes. -/
inductive Cut where
  /-- The piece behind the last slash. -/
  | last (piece : List Char)
  /-- A piece, the letter with which the slash behind it is written, and the text behind the slash. -/
  | slash (piece : List Char) (letter : Char) (hletter : letter = 'F' ∨ letter = 'f') (rest : Cut)

namespace Cut

/-- The pieces in order. -/
def pieces : Cut → List (List Char)
  | last piece => [piece]
  | slash piece _ _ rest => piece :: rest.pieces

/-- The text that is cut. -/
def spell : Cut → List Char
  | last piece => piece
  | slash piece letter _ rest => piece ++ '%' :: '2' :: letter :: rest.spell

/-- The text with each piece decoded. -/
def decode : Cut → List Char
  | last piece => decodePiece piece
  | slash piece letter _ rest => decodePiece piece ++ '%' :: '2' :: letter :: rest.decode

/-- Puts more text before the first piece. -/
def prepend (before : List Char) : Cut → Cut
  | last piece => last (before ++ piece)
  | slash piece letter hletter rest => slash (before ++ piece) letter hletter rest

/-- One text behind the other, with a slash between them. -/
def join (c d : Cut) : Cut :=
  match c with
  | last piece => d.prepend (piece ++ ['/'])
  | slash piece letter hletter rest => slash piece letter hletter (rest.join d)

/-- The bytes of every piece are those of a text. -/
def Decodable (c : Cut) : Prop := ∀ piece ∈ c.pieces, (percentDecode? piece).isSome = true

instance (c : Cut) : Decidable c.Decodable := List.decidableBAll _ c.pieces

end Cut

/-- Cuts a text at its escaped slashes. -/
def cut : List Char → Cut
  | [] => .last []
  | '%' :: '2' :: f :: cs =>
    if h : f = 'F' ∨ f = 'f' then .slash [] f h (cut cs) else (cut ('2' :: f :: cs)).prepend ['%']
  | c :: cs => (cut cs).prepend [c]

variable {c d : Cut} {cs u v : List Char}

namespace Cut

theorem prepend_prepend (u v : List Char) (c : Cut) :
    (c.prepend v).prepend u = c.prepend (u ++ v) := by
  cases c with
  | last piece => exact congrArg last (List.append_assoc u v piece).symm
  | slash piece letter hletter rest =>
    exact congrArg (slash · letter hletter rest) (List.append_assoc u v piece).symm

theorem prepend_nil (c : Cut) : c.prepend [] = c := by
  cases c <;> rfl

theorem spell_prepend (u : List Char) (c : Cut) : (c.prepend u).spell = u ++ c.spell := by
  cases c with
  | last piece => rfl
  | slash piece letter hletter rest => exact List.append_assoc ..

theorem prepend_join (u : List Char) (c d : Cut) : (c.prepend u).join d = (c.join d).prepend u := by
  cases c with
  | last piece => rw [join, prepend, join, prepend_prepend, List.append_assoc]
  | slash piece letter hletter rest => rfl

end Cut

/-- A character with which no escaped slash starts belongs to a piece. -/
theorem cut_cons {x : Char}
    (h : ∀ f rest, f = 'F' ∨ f = 'f' → x = '%' → cs = '2' :: f :: rest → False) :
    cut (x :: cs) = (cut cs).prepend [x] := by
  rw [cut.eq_def]
  split
  · next heq => cases heq
  · next f rest heq =>
    obtain ⟨rfl, rfl⟩ := List.cons.inj heq
    rw [dif_neg fun hf => h f rest hf rfl rfl]
  · next heq =>
    obtain ⟨rfl, rfl⟩ := List.cons.inj heq
    rfl

/-- A path is decoded piece by piece. -/
theorem decodePathFrom_eq (piece cs : List Char) :
    decodePathFrom piece cs = ((cut cs).prepend piece.reverse).decode := by
  fun_induction decodePathFrom piece cs with
  | case1 piece =>
    rw [cut, Cut.prepend, List.append_nil]
    rfl
  | case2 piece f cs hf ih =>
    rw [ih, cut, dif_pos hf, Cut.prepend, List.append_nil, List.reverse_nil, Cut.prepend_nil]
    rfl
  | case3 piece f cs hf ih => rw [ih, cut, dif_neg hf, Cut.prepend_prepend, List.reverse_cons]
  | case4 piece x cs hother ih =>
    rw [ih, cut_cons fun f rest _ => hother f rest, Cut.prepend_prepend, List.reverse_cons]

theorem spell_cut (cs : List Char) : (cut cs).spell = cs := by
  fun_induction cut cs with
  | case1 => rfl
  | case2 f cs hf ih => exact congrArg ('%' :: '2' :: f :: ·) ih
  | case3 f cs hf ih => rw [Cut.spell_prepend, ih, List.singleton_append]
  | case4 x cs hother ih => rw [Cut.spell_prepend, ih, List.singleton_append]

/-- A slash as it is divides what is cut. -/
theorem cut_append_cons (u v : List Char) : cut (u ++ '/' :: v) = (cut u).join (cut v) := by
  fun_induction cut u with
  | case1 => exact cut_cons fun _ _ _ hmark => absurd hmark (by decide)
  | case2 f cs hf ih =>
    rw [List.cons_append, List.cons_append, List.cons_append, cut, dif_pos hf, ih]
    rfl
  | case3 f cs hf ih =>
    rw [List.cons_append, List.cons_append, List.cons_append, cut, dif_neg hf, Cut.prepend_join, ← ih]
    rfl
  | case4 x cs hother ih =>
    rw [List.cons_append, Cut.prepend_join, ← ih]
    refine cut_cons fun f rest hf hx hcs => ?_
    -- the slash is no part of an escaped one
    cases cs with
    | nil => cases hcs
    | cons y cs =>
      cases cs with
      | nil =>
        obtain ⟨-, hcs⟩ := List.cons.inj hcs
        obtain ⟨rfl, -⟩ := List.cons.inj hcs
        exact absurd hf (by decide)
      | cons z cs =>
        obtain ⟨rfl, hcs⟩ := List.cons.inj hcs
        exact hother z cs hx rfl

/-! ## Pieces -/

namespace Cut

/-- Of the pieces the first one alone has the text that is put before it. -/
theorem of_mem_pieces_prepend {piece : List Char} (h : piece ∈ (c.prepend u).pieces) :
    piece ∈ c.pieces ∨ ∃ first ∈ c.pieces, first <+: c.spell ∧ piece = u ++ first := by
  cases c with
  | last first =>
    exact .inr ⟨first, List.mem_singleton_self first, List.prefix_rfl, List.mem_singleton.mp h⟩
  | slash first letter hletter rest =>
    rcases List.mem_cons.mp h with rfl | h
    · exact .inr ⟨first, List.mem_cons_self, List.prefix_append .., rfl⟩
    · exact .inl (List.mem_cons_of_mem first h)

end Cut

theorem not_escapesSlash_cons {x : Char} {piece : List Char} (hpiece : ¬EscapesSlash piece)
    (hstarts : piece <+: cs)
    (h : ∀ f rest, f = 'F' ∨ f = 'f' → x = '%' → cs = '2' :: f :: rest → False) :
    ¬EscapesSlash (x :: piece) := by
  have hstart (f : Char) (hf : f = 'F' ∨ f = 'f') : ¬['%', '2', f] <+: x :: piece := by
    intro hstarts'
    obtain ⟨rest, hrest⟩ := hstarts'.trans (List.cons_prefix_cons.mpr ⟨rfl, hstarts⟩)
    obtain ⟨hx, hcs⟩ := List.cons.inj hrest
    exact h f rest hf hx.symm hcs.symm
  rintro (hslash | hslash)
  · rcases List.infix_cons_iff.mp hslash with hbefore | hinside
    · exact hstart 'F' (.inl rfl) hbefore
    · exact hpiece (.inl hinside)
  · rcases List.infix_cons_iff.mp hslash with hbefore | hinside
    · exact hstart 'f' (.inr rfl) hbefore
    · exact hpiece (.inr hinside)

/-- No piece has an escaped slash in it. -/
theorem not_escapesSlash_of_mem_cut {piece : List Char} (h : piece ∈ (cut cs).pieces) :
    ¬EscapesSlash piece := by
  fun_induction cut cs generalizing piece with
  | case1 =>
    obtain rfl := List.mem_singleton.mp h
    rintro (hslash | hslash) <;> cases List.infix_nil.mp hslash
  | case2 f cs hf ih =>
    rcases List.mem_cons.mp h with rfl | h
    · rintro (hslash | hslash) <;> cases List.infix_nil.mp hslash
    · exact ih h
  | case3 f cs hf ih =>
    rcases Cut.of_mem_pieces_prepend h with h | ⟨first, hfirst, hstarts, rfl⟩
    · exact ih h
    · rw [spell_cut] at hstarts
      refine not_escapesSlash_cons (ih hfirst) hstarts fun g rest hg _ heq => ?_
      obtain ⟨-, heq⟩ := List.cons.inj heq
      obtain ⟨rfl, -⟩ := List.cons.inj heq
      exact hf hg
  | case4 x cs hother ih =>
    rcases Cut.of_mem_pieces_prepend h with h | ⟨first, hfirst, hstarts, rfl⟩
    · exact ih h
    · rw [spell_cut] at hstarts
      exact not_escapesSlash_cons (ih hfirst) hstarts fun f rest _ => hother f rest

/-! ## Decoded pieces -/

theorem decodePiece_of_eq {text : String} (h : percentDecode? cs = some text) :
    decodePiece cs = text.toList := by
  rw [decodePiece, h]

/-- A piece without an escaped slash keeps its slashes, be it decoded or not. -/
theorem count_decodePiece (h : ¬EscapesSlash cs) : (decodePiece cs).count '/' = cs.count '/' := by
  cases hdecode : percentDecode? cs with
  | some text => rw [decodePiece_of_eq hdecode, count_of_percentDecode? h hdecode]
  | none => rw [decodePiece, hdecode]

/-- The parts of a piece on both sides of a slash are decoded by themselves, if the whole is text. -/
theorem decodePiece_append_cons (h : (percentDecode? (u ++ '/' :: v)).isSome = true) :
    (percentDecode? u).isSome = true ∧ (percentDecode? v).isSome = true ∧
      decodePiece (u ++ '/' :: v) = decodePiece u ++ '/' :: decodePiece v := by
  obtain ⟨text, htext⟩ := Option.isSome_iff_exists.mp h
  obtain ⟨first, second, hfirst, hsecond, hjoin⟩ :=
    percentDecode?_append_cons (by decide) (by decide) (by decide) htext
  rw [decodePiece_of_eq htext, decodePiece_of_eq hfirst, decodePiece_of_eq hsecond, hfirst, hsecond]
  exact ⟨rfl, rfl, hjoin⟩

namespace Cut

/-- Decoding pieces without escaped slashes keeps the number of slashes. -/
theorem count_decode (h : ∀ piece ∈ c.pieces, ¬EscapesSlash piece) :
    c.decode.count '/' = c.spell.count '/' := by
  induction c with
  | last piece => exact count_decodePiece (h piece (List.mem_singleton_self piece))
  | slash piece letter hletter rest ih =>
    obtain ⟨hpiece, hrest⟩ := List.forall_mem_cons.mp h
    rw [decode, spell, List.count_append, List.count_append, count_decodePiece hpiece]
    simp only [List.count_cons, ih hrest]

/-- What is joined by a slash is decoded on both sides of it, if all of it is text. -/
theorem decode_join (h : (c.join d).Decodable) :
    c.Decodable ∧ d.Decodable ∧ (c.join d).decode = c.decode ++ '/' :: d.decode := by
  induction c with
  | last piece =>
    -- the first piece of what follows the slash is decoded together with the piece before it
    cases d with
    | last other =>
      have hwhole : (percentDecode? (piece ++ '/' :: other)).isSome = true := by
        simpa [Decodable, join, prepend, pieces] using h
      obtain ⟨hpiece, hother, hdecode⟩ := decodePiece_append_cons hwhole
      refine ⟨List.forall_mem_singleton.mpr hpiece, List.forall_mem_singleton.mpr hother, ?_⟩
      rw [join, prepend, decode, decode, decode, ← hdecode, List.append_assoc]
      rfl
    | slash other letter hletter rest =>
      obtain ⟨hwhole, hrest⟩ := List.forall_mem_cons.mp h
      rw [List.append_assoc, List.singleton_append] at hwhole
      obtain ⟨hpiece, hother, hdecode⟩ := decodePiece_append_cons hwhole
      refine ⟨List.forall_mem_singleton.mpr hpiece, List.forall_mem_cons.mpr ⟨hother, hrest⟩, ?_⟩
      rw [join, prepend, decode, decode, decode, List.append_assoc, List.singleton_append, hdecode,
        List.append_assoc]
      rfl
  | slash piece letter hletter rest ih =>
    obtain ⟨hpiece, hrest⟩ := List.forall_mem_cons.mp h
    obtain ⟨hc, hd, hdecode⟩ := ih hrest
    refine ⟨List.forall_mem_cons.mpr ⟨hpiece, hc⟩, hd, ?_⟩
    rw [join, decode, hdecode, decode, List.append_assoc]
    rfl

end Cut

/-! ## Segments -/

theorem toList_decodePath (raw : String) : (decodePath raw).toList = (cut raw.toList).decode := by
  rw [decodePath, String.toList_ofList, decodePathFrom_eq, List.reverse_nil, Cut.prepend_nil]

theorem count_decode_cut (cs : List Char) : (cut cs).decode.count '/' = cs.count '/' := by
  rw [Cut.count_decode fun _ => not_escapesSlash_of_mem_cut, spell_cut]

/-- A path whose pieces are all text is decoded segment by segment. -/
theorem pieces_decode_cut (h : (cut cs).Decodable) :
    Text.pieces '/' (cut cs).decode =
      (Text.pieces '/' cs).map fun segment => (cut segment).decode := by
  -- a text without slashes has none when decoded
  have hnone {segment : List Char} (hsegment : '/' ∉ segment) : '/' ∉ (cut segment).decode := by
    rwa [← List.count_eq_zero, count_decode_cut, List.count_eq_zero]
  induction hlength : cs.length using Nat.strong_induction_on generalizing cs with
  | _ n ih =>
    by_cases hslash : '/' ∈ cs
    · obtain ⟨first, others, rfl, hfirst⟩ := List.eq_append_cons_of_mem hslash
      rw [cut_append_cons] at h ⊢
      obtain ⟨-, hothers, hdecode⟩ := Cut.decode_join h
      have hshorter : others.length < n := by
        rw [← hlength, List.length_append, List.length_cons]
        omega
      rw [hdecode, Text.pieces_append_cons (hnone hfirst), Text.pieces_append_cons hfirst,
        List.map_cons, ih _ hshorter hothers rfl]
    · rw [Text.pieces_of_not_mem hslash, Text.pieces_of_not_mem (hnone hslash)]
      rfl

/-- **Segments survive decoding.** A decoded path has as many slashes as the path. If every piece between
escaped slashes is text, the segments of the decoded path are the decoded segments of the path, in
order. -/
theorem decodePath_segments (raw : String) :
    (decodePath raw).toList.count '/' = raw.toList.count '/' ∧
      ((cut raw.toList).Decodable → Text.pieces '/' (decodePath raw).toList =
        (Text.pieces '/' raw.toList).map fun segment =>
          (decodePath (String.ofList segment)).toList) := by
  refine ⟨?_, fun h => ?_⟩
  · rw [toList_decodePath, count_decode_cut]
  · rw [toList_decodePath, pieces_decode_cut h]
    simp only [toList_decodePath, String.toList_ofList]

/-- A malformed escape before an escaped slash, a slash that is escaped twice and a character of two
bytes. -/
def awkwardPath : String := "/a%%2F%4/%252F%2%2f/%C3%A9"

theorem decodePath_segments_awkwardPath : (cut awkwardPath.toList).Decodable ∧
    Text.pieces '/' (decodePath awkwardPath).toList =
      ["", "a%%2F%4", "%2F%2%2f", "é"].map String.toList := by
  have hdecodable : (cut awkwardPath.toList).Decodable := by decide +kernel
  refine ⟨hdecodable, ?_⟩
  rw [(decodePath_segments awkwardPath).2 hdecodable]
  decide +kernel

end WebRouting.Url
