import Mathlib.Data.List.Forall2
import WebRouting.Context
import WebRouting.Proofs.Text.LastEntry
import WebRouting.Proofs.Text.Split
import WebRouting.Proofs.Url.Percent

/-! # Cookies of headers

Cookies are written in headers as pieces `name=value` with semicolons between them and blanks around
them (`SpellsCookie`). Pieces without an equals sign do not count (`cookiesOf_headerOf`), and neither
do headers that are not readable as text (`flatMap_cookiesOf`). In the end each name has the value of
its last cookie (`readCookies_of_spells`). Only blanks around a whole cookie are dropped: blanks on the
sides of the equals sign belong to the name and the value, and every further equals sign belongs to the
value. -/

namespace WebRouting

variable {c : Char} {piece : List Char} {header : String} {headers : List String}
  {cookie : String × String} {cookies : List (String × String)}

/-! ## Characters -/

/-- The characters are spaces and tabs. -/
def AreGaps (cs : List Char) : Prop := ∀ c ∈ cs, c = ' ' ∨ c = '\t'

instance (cs : List Char) : Decidable (AreGaps cs) := List.decidableBAll _ cs

/-- The bytes are visible ASCII characters, spaces and tabs. -/
def ArePlain (bytes : List UInt8) : Prop :=
  ∀ byte ∈ bytes, byte.toNat = 9 ∨ 32 ≤ byte.toNat ∧ byte.toNat < 127

instance (bytes : List UInt8) : Decidable (ArePlain bytes) := List.decidableBAll _ bytes

/-- The header is readable as text. -/
def IsReadable (header : String) : Prop := ArePlain (Url.utf8Bytes header.toList)

instance (header : String) : Decidable (IsReadable header) :=
  inferInstanceAs (Decidable (ArePlain _))

theorem isVisible_iff_toNat : isVisible c = true ↔ c.toNat = 9 ∨ 32 ≤ c.toNat ∧ c.toNat < 127 := by
  have hle (a b : Char) : a ≤ b ↔ a.toNat ≤ b.toNat := UInt32.le_iff_toNat_le
  have hlt (a b : Char) : a < b ↔ a.toNat < b.toNat := UInt32.lt_iff_toNat_lt
  have hcodes : '\t'.toNat = 9 ∧ ' '.toNat = 32 ∧ '\x7F'.toNat = 127 := by decide
  simp only [isVisible, Bool.or_eq_true, Bool.and_eq_true, decide_eq_true_eq, ← Char.toNat_inj, hle,
    hlt, hcodes]

/-- A character is visible if its bytes are plain. -/
theorem isVisible_iff : isVisible c = true ↔ ArePlain (String.utf8EncodeChar c) := by
  rw [isVisible_iff_toNat]
  by_cases hascii : c.toNat < 128
  · have hbyte : c.toUInt8.toNat = c.toNat := Nat.mod_eq_of_lt (Nat.lt_trans hascii (by decide))
    rw [Url.utf8EncodeChar_of_ascii hascii, ArePlain, List.forall_mem_singleton, hbyte]
  · obtain ⟨byte, hbyte⟩ := List.exists_mem_of_ne_nil _ (String.utf8EncodeChar_ne_nil (c := c))
    have hlarge := Url.le_of_mem_utf8EncodeChar (Nat.le_of_not_lt hascii) hbyte
    constructor
    · intro hcode
      omega
    · intro hplain
      have hsmall := hplain byte hbyte
      omega

theorem arePlain_utf8Bytes_iff {cs : List Char} :
    ArePlain (Url.utf8Bytes cs) ↔ ∀ c ∈ cs, isVisible c = true := by
  induction cs with
  | nil => simp [ArePlain]
  | cons c cs ih =>
    rw [Url.utf8Bytes_cons, List.forall_mem_cons, ← ih, isVisible_iff]
    exact List.forall_mem_append

theorem isReadable_iff : IsReadable header ↔ ∀ c ∈ header.toList, isVisible c = true :=
  arePlain_utf8Bytes_iff

/-- Of the characters of readable headers, trimming drops spaces and tabs. -/
theorem isBlank_iff (hvisible : isVisible c = true) :
    Unicode.isBlank c = true ↔ c = ' ' ∨ c = '\t' := by
  have hcode := isVisible_iff_toNat.mp hvisible
  have hcodes : '\t'.toNat = 9 ∧ ' '.toNat = 32 := by decide
  rw [← Char.toNat_inj, ← Char.toNat_inj, hcodes.1, hcodes.2]
  simp only [Unicode.isBlank, Unicode.whiteSpace, Ranges.contains, Ranges.covers_cons,
    Ranges.covers_nil, Bool.or_eq_true, Bool.and_eq_true, decide_eq_true_eq, Bool.false_eq_true,
    or_false]
  omega

/-! ## Pieces -/

/-- A piece spells a cookie: its name and its value with an equals sign between them, and blanks around
both. -/
structure SpellsCookie (piece : List Char) (cookie : String × String) : Prop where
  /-- There is no equals sign in the name. -/
  name : '=' ∉ cookie.1.toList
  /-- The name does not start with a blank. -/
  start : cookie.1.toList.head? ∉ [some ' ', some '\t']
  /-- The value does not end with a blank. -/
  stop : cookie.2.toList.getLast? ∉ [some ' ', some '\t']
  /-- Between blanks there are the name and the value. -/
  spelled : ∃ before after : List Char, AreGaps before ∧ AreGaps after ∧
    piece = before ++ cookie.1.toList ++ '=' :: (cookie.2.toList ++ after)

/-- The first or last character of a text is not trimmed if it is no space and no tab. -/
theorem isBlank_of_mem_edge {edge? : Option Char} (hedge : edge? ∉ [some ' ', some '\t'])
    (hvisible : isVisible c = true) (hc : c ∈ edge?) : Unicode.isBlank c = false := by
  rw [Bool.eq_false_iff, Ne, isBlank_iff hvisible]
  rintro (rfl | rfl) <;> simp [Option.mem_def.mp hc] at hedge

/-- A spelled cookie is read as the cookie. -/
theorem SpellsCookie.cookie?_eq (h : SpellsCookie piece cookie)
    (hvisible : ∀ c ∈ piece, isVisible c = true) : cookie? piece = some cookie := by
  obtain ⟨before, after, hbefore, hafter, rfl⟩ := h.spelled
  have hstart : (before ++ cookie.1.toList).dropWhile Unicode.isBlank = cookie.1.toList := by
    apply Text.dropWhile_append_of_head?
    · intro c hc
      exact (isBlank_iff (hvisible c (by simp [hc]))).mpr (hbefore c hc)
    · intro c hc
      exact isBlank_of_mem_edge h.start (hvisible c (by simp [List.mem_of_mem_head? hc])) hc
  have hstop : Text.dropEndWhile Unicode.isBlank (cookie.2.toList ++ after) = cookie.2.toList := by
    apply Text.dropEndWhile_append_of_getLast?
    · intro c hc
      exact (isBlank_iff (hvisible c (by simp [hc]))).mpr (hafter c hc)
    · intro c hc
      exact isBlank_of_mem_edge h.stop (hvisible c (by simp [List.mem_of_mem_getLast? hc])) hc
  have hequals : Unicode.isBlank '=' = false := by decide
  rw [cookie?, Text.trim_append_cons hequals, hstart, hstop, Text.cut?_append_cons h.name,
    Option.map_some]
  simp

/-- A piece without an equals sign is no cookie. -/
theorem cookie?_of_not_mem (h : '=' ∉ piece) : cookie? piece = none := by
  have htrim : '=' ∉ Text.trim Unicode.isBlank piece := fun hmem =>
    h ((Text.trim_sublist Unicode.isBlank piece).subset hmem)
  rw [cookie?, Text.cut?_of_not_mem htrim, Option.map_none]

/-! ## Headers -/

/-- The header with the pieces, and semicolons between them. -/
def headerOf (pieces : List (List Char)) : String := String.ofList ([';'].intercalate pieces)

/-- A header spells cookies: some of the pieces between its semicolons do, and the others have no equals
sign. -/
def SpellsHeader (header : String) (cookies : List (String × String)) : Prop :=
  ∃ pieces, header = headerOf pieces ∧ (∀ piece ∈ pieces, ';' ∉ piece) ∧
    List.Forall₂ SpellsCookie (pieces.filter ('=' ∈ ·)) cookies

/-- Headers spell cookies, one header after another. Headers that are not readable count for nothing. -/
def SpellsCookies (headers : List String) (cookies : List (String × String)) : Prop :=
  ∃ groups, List.Forall₂ SpellsHeader (headers.filter (IsReadable ·)) groups ∧
    cookies = groups.flatten

theorem isReadable_headerOf_iff {pieces : List (List Char)} :
    IsReadable (headerOf pieces) ↔ ∀ piece ∈ pieces, ∀ c ∈ piece, isVisible c = true := by
  have hmark : isVisible ';' = true := by decide
  rw [isReadable_iff, headerOf, String.toList_ofList]
  exact Text.forall_mem_intercalate_iff (P := fun c => isVisible c = true) hmark

theorem cookiesOf_of_not_isReadable (h : ¬IsReadable header) : cookiesOf header = [] := by
  rw [cookiesOf]
  refine if_neg fun hall => h (isReadable_iff.mpr (List.all_eq_true.mp hall))

/-- Of the pieces of a readable header those with an equals sign count. -/
theorem cookiesOf_headerOf {pieces : List (List Char)} (hmarks : ∀ piece ∈ pieces, ';' ∉ piece)
    (hreadable : IsReadable (headerOf pieces)) :
    cookiesOf (headerOf pieces) = (pieces.filter ('=' ∈ ·)).filterMap cookie? := by
  have hcount (parts : List (List Char)) :
      parts.filterMap cookie? = (parts.filter ('=' ∈ ·)).filterMap cookie? := by
    rw [List.filterMap_filter]
    refine List.filterMap_congr fun part _ => ?_
    by_cases hequals : '=' ∈ part
    · simp [hequals]
    · simp [hequals, cookie?_of_not_mem hequals]
  rw [cookiesOf, if_pos (List.all_eq_true.mpr (isReadable_iff.mp hreadable)), Text.pieces_eq_splitOn,
    hcount, headerOf, String.toList_ofList, Text.filter_splitOn_intercalate (by decide) hmarks]

/-- A piece without an equals sign changes nothing in a header. -/
theorem cookiesOf_headerOf_append_cons {first last : List (List Char)}
    (hmarks : ∀ part ∈ piece :: (first ++ last), ';' ∉ part) (hequals : '=' ∉ piece)
    (hplain : ∀ c ∈ piece, isVisible c = true) :
    cookiesOf (headerOf (first ++ piece :: last)) = cookiesOf (headerOf (first ++ last)) := by
  have hall (P : List Char → Prop) :
      (∀ part ∈ first ++ piece :: last, P part) ↔ ∀ part ∈ piece :: (first ++ last), P part :=
    forall_congr' fun part => by rw [List.perm_middle.mem_iff]
  have hsame :
      IsReadable (headerOf (first ++ piece :: last)) ↔ IsReadable (headerOf (first ++ last)) := by
    rw [isReadable_headerOf_iff, isReadable_headerOf_iff, hall, List.forall_mem_cons,
      and_iff_right hplain]
  by_cases hreadable : IsReadable (headerOf (first ++ last))
  · have hfilter : (first ++ piece :: last).filter ('=' ∈ ·) = (first ++ last).filter ('=' ∈ ·) := by
      simp [hequals]
    rw [cookiesOf_headerOf ((hall _).mpr hmarks) (hsame.mpr hreadable),
      cookiesOf_headerOf (List.forall_mem_cons.mp hmarks).2 hreadable, hfilter]
  · rw [cookiesOf_of_not_isReadable hreadable, cookiesOf_of_not_isReadable (mt hsame.mp hreadable)]

/-- The cookies of a readable header are those that it spells. -/
theorem SpellsHeader.cookiesOf_eq (h : SpellsHeader header cookies) (hreadable : IsReadable header) :
    cookiesOf header = cookies := by
  obtain ⟨pieces, rfl, hmarks, hcookies⟩ := h
  have hread : ∀ piece ∈ pieces.filter ('=' ∈ ·), ∀ c ∈ piece, isVisible c = true :=
    fun piece hpiece => isReadable_headerOf_iff.mp hreadable piece (List.mem_filter.mp hpiece).1
  rw [cookiesOf_headerOf hmarks hreadable]
  -- the pieces with an equals sign are read one by one
  generalize pieces.filter ('=' ∈ ·) = parts at hcookies hread ⊢
  induction hcookies with
  | nil => rfl
  | cons hfirst _ ih =>
    obtain ⟨hpart, hparts⟩ := List.forall_mem_cons.mp hread
    rw [List.filterMap_cons, hfirst.cookie?_eq hpart, ih hparts]

/-- Headers that are not readable have no cookies. -/
theorem flatMap_cookiesOf (headers : List String) :
    headers.flatMap cookiesOf = (headers.filter (IsReadable ·)).flatMap cookiesOf := by
  induction headers with
  | nil => rfl
  | cons header headers ih =>
    rw [List.flatMap_cons, ih]
    by_cases hreadable : IsReadable header
    · rw [List.filter_cons_of_pos (by simpa using hreadable), List.flatMap_cons]
    · rw [List.filter_cons_of_neg (by simpa using hreadable), cookiesOf_of_not_isReadable hreadable,
        List.nil_append]

/-- The cookies of headers are those that they spell, one header after another. -/
theorem SpellsCookies.flatMap_eq (h : SpellsCookies headers cookies) :
    headers.flatMap cookiesOf = cookies := by
  obtain ⟨groups, hgroups, rfl⟩ := h
  rw [flatMap_cookiesOf]
  have hreadable : ∀ header ∈ headers.filter (IsReadable ·), IsReadable header := by
    intro header hheader
    simpa using (List.mem_filter.mp hheader).2
  generalize headers.filter (IsReadable ·) = readable at hgroups hreadable ⊢
  induction hgroups with
  | nil => rfl
  | cons hfirst _ ih =>
    obtain ⟨hheader, hheaders⟩ := List.forall_mem_cons.mp hreadable
    rw [List.flatMap_cons, hfirst.cookiesOf_eq hheader, ih hheaders, List.flatten_cons]

/-- **Cookies survive being sent.** Each name has the value of the last cookie with the name in the
headers that spell the cookies, and other names have none. Headers that are not readable and pieces
without an equals sign change nothing in any headers, wherever they are put in. -/
theorem readCookies_of_spells :
    (∀ headers cookies, SpellsCookies headers cookies → ∀ name value,
      (readCookies headers)[name]? = some value ↔ LastEntry cookies name value) ∧
    (∀ before after header, ¬IsReadable header →
      readCookies (before ++ header :: after) = readCookies (before ++ after)) ∧
    ∀ before after first last piece, (∀ part ∈ piece :: (first ++ last), ';' ∉ part) → '=' ∉ piece →
      ArePlain (Url.utf8Bytes piece) →
      readCookies (before ++ headerOf (first ++ piece :: last) :: after) =
        readCookies (before ++ headerOf (first ++ last) :: after) := by
  refine ⟨fun headers cookies h name value => ?_, fun before after header h => ?_,
    fun before after first last piece hmarks hequals hplain => ?_⟩
  · rw [readCookies, h.flatMap_eq]
    exact TextMap.getElem?_foldl_insert cookies name value
  · rw [readCookies, List.flatMap_append, List.flatMap_cons, cookiesOf_of_not_isReadable h,
      List.nil_append, ← List.flatMap_append]
    rfl
  · rw [readCookies, List.flatMap_append, List.flatMap_cons,
      cookiesOf_headerOf_append_cons hmarks hequals (arePlain_utf8Bytes_iff.mp hplain),
      ← List.flatMap_cons, ← List.flatMap_append]
    rfl

/-- Cookies with one name, one whose name ends with a space, and one without a name. -/
def awkwardCookies : List (String × String) := [("a", "1"), ("b ", ""), ("", "x=y"), ("a", " 2")]

/-- Two headers for them with a third one between them. -/
def awkwardHeaders : List String := ["a=1; flag ;\tb =;", "ä=1", " =x=y;a= 2 \t"]

theorem readCookies_of_spells_awkwardHeaders :
    SpellsCookies awkwardHeaders awkwardCookies ∧ ¬IsReadable "ä=1" ∧
      (readCookies awkwardHeaders)["a"]? = some " 2" ∧
      readCookies ["a=1;flag;b=2", "ä=1", "a=3"] = readCookies ["a=1;b=2", "a=3"] := by
  have hunreadable : ¬IsReadable "ä=1" := by decide
  have hreadable : awkwardHeaders.filter (IsReadable ·) = ["a=1; flag ;\tb =;", " =x=y;a= 2 \t"] := by
    decide +kernel
  have hfirst : SpellsHeader "a=1; flag ;\tb =;" [("a", "1"), ("b ", "")] := by
    refine ⟨["a=1".toList, " flag ".toList, "\tb =".toList, []], by decide, by decide, ?_⟩
    refine .cons ⟨by decide, by decide, by decide, [], [], by decide, by decide, by decide⟩ ?_
    exact .cons ⟨by decide, by decide, by decide, ['\t'], [], by decide, by decide, by decide⟩ .nil
  have hlast : SpellsHeader " =x=y;a= 2 \t" [("", "x=y"), ("a", " 2")] := by
    refine ⟨[" =x=y".toList, "a= 2 \t".toList], by decide, by decide, ?_⟩
    refine .cons ⟨by decide, by decide, by decide, [' '], [], by decide, by decide, by decide⟩ ?_
    exact .cons ⟨by decide, by decide, by decide, [], [' ', '\t'], by decide, by decide, by decide⟩ .nil
  have hspells : SpellsCookies awkwardHeaders awkwardCookies := by
    refine ⟨[[("a", "1"), ("b ", "")], [("", "x=y"), ("a", " 2")]], ?_, rfl⟩
    rw [hreadable]
    exact .cons hfirst (.cons hlast .nil)
  obtain ⟨hread, hheader, hpiece⟩ := readCookies_of_spells
  refine ⟨hspells, hunreadable, (hread _ _ hspells "a" " 2").mpr (by decide), ?_⟩
  have hflag := hpiece [] ["a=3"] ["a=1".toList] ["b=2".toList] "flag".toList (by decide) (by decide)
    (by decide)
  have hbetween := hheader ["a=1;flag;b=2"] ["a=3"] "ä=1" hunreadable
  have hlong : headerOf (["a=1".toList] ++ "flag".toList :: ["b=2".toList]) = "a=1;flag;b=2" := by
    decide
  have hshort : headerOf (["a=1".toList] ++ ["b=2".toList]) = "a=1;b=2" := by decide
  rw [hlong, hshort] at hflag
  exact hbetween.trans hflag

end WebRouting
