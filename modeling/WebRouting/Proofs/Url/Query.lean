import WebRouting.Proofs.Text.LastEntry
import WebRouting.Proofs.Text.Split
import WebRouting.Proofs.Url.Component

/-! # Parameters of queries

Which parameters a query has. The pieces between ampersands are pairs unless they are empty, and a pair
is divided at its first equals sign (`Divides`). This gives entries (`HasEntries`), and each key has
the value of its last entry (`parseQuery_entries`); a key or value that stands for no text is kept, but
not as it arrived, for its plus signs are replaced (`parseQuery_undecodedPlus`). A list of pairs can be
written as a query in many ways (`SpellsQuery`), all of which give back its last entries
(`parseQuery_of_spells`). -/

namespace WebRouting.Url

variable {piece key value : List Char} {query : String} {entries pairs : List (String × String)}

/-! ## Entries -/

/-- How a piece is divided into a key and a value. -/
inductive Divides : List Char → List Char → List Char → Prop where
  /-- The first equals sign stands between the key and the value. -/
  | atEquals {key value : List Char} (h : '=' ∉ key) : Divides (key ++ '=' :: value) key value
  /-- Without an equals sign all is the key, and the value is empty. -/
  | keyAlone {piece : List Char} (h : '=' ∉ piece) : Divides piece piece []

theorem divides_iff : Divides piece key value ↔ splitPair piece = (key, value) := by
  constructor
  · intro h
    cases h with
    | atEquals hkey => rw [splitPair, Text.cut?_append_cons hkey, Option.getD_some]
    | keyAlone hpiece => rw [splitPair, Text.cut?_of_not_mem hpiece, Option.getD_none]
  · intro h
    by_cases hequals : '=' ∈ piece
    · obtain ⟨before, after, rfl, hbefore⟩ := List.eq_append_cons_of_mem hequals
      rw [splitPair, Text.cut?_append_cons hbefore, Option.getD_some] at h
      cases h
      exact .atEquals hbefore
    · rw [splitPair, Text.cut?_of_not_mem hequals, Option.getD_none] at h
      cases h
      exact .keyAlone hequals

/-- A piece gives an entry: its key and its value, each as it is stored. -/
def GivesEntry (kept : List Char → List Char) (piece : List Char) (entry : String × String) : Prop :=
  ∃ key value, Divides piece key value ∧ Stores kept key entry.1 ∧ Stores kept value entry.2

/-- The entries of a query in order: one for each piece between ampersands that is not empty. -/
def HasEntries (kept : List Char → List Char) (query : String) (entries : List (String × String)) :
    Prop :=
  List.Forall₂ (GivesEntry kept) ((query.toList.splitOn '&').filter (· ≠ [])) entries

/-- The text is the key or the value of a piece of the query, as it arrived. -/
def IsComponent (query : String) (raw : List Char) : Prop :=
  ∃ piece ∈ (query.toList.splitOn '&').filter (· ≠ []), ∃ key value,
    Divides piece key value ∧ (raw = key ∨ raw = value)

theorem givesEntry_iff {entry : String × String} :
    GivesEntry (List.map plusToSpace) piece entry ↔
      (decodeComponent (splitPair piece).1, decodeComponent (splitPair piece).2) = entry := by
  constructor
  · rintro ⟨key, value, hdivides, hkey, hvalue⟩
    rw [divides_iff.mp hdivides, stores_iff.mp hkey, stores_iff.mp hvalue]
  · rintro rfl
    exact ⟨_, _, divides_iff.mpr rfl, stores_iff.mpr rfl, stores_iff.mpr rfl⟩

/-- The pairs of a query are its entries. -/
theorem hasEntries_iff :
    HasEntries (List.map plusToSpace) query entries ↔ queryPairs query.toList = entries := by
  have hequal (pairs : List (String × String)) :
      List.Forall₂ (· = ·) pairs entries ↔ pairs = entries := by
    rw [List.forall₂_eq_eq_eq]
  rw [queryPairs, Text.pieces_eq_splitOn, ← hequal, List.forall₂_map_left_iff]
  constructor
  · intro h
    exact h.imp fun piece entry => givesEntry_iff.mp
  · intro h
    exact h.imp fun piece entry => givesEntry_iff.mpr

/-- A key has the value of the last pair with the key. -/
theorem getElem?_parseQuery (query key value : String) :
    (parseQuery (some query))[key]? = some value ↔ LastEntry (queryPairs query.toList) key value :=
  TextMap.getElem?_foldl_insert (queryPairs query.toList) key value

/-- **What the parameters of a query are.** Every query has entries, and each key has the value of its
last entry. A key or value that stands for no text is stored with spaces in place of its plus signs. So
it is stored as it arrived if it has no plus signs. -/
theorem parseQuery_entries (query : String) :
    ∃ entries, HasEntries (List.map plusToSpace) query entries ∧
      (∀ key value, (parseQuery (some query))[key]? = some value ↔ LastEntry entries key value) ∧
      ((∀ raw, IsComponent query raw → '+' ∈ raw → Decodes raw) → HasEntries id query entries) := by
  have hentries : HasEntries (List.map plusToSpace) query (queryPairs query.toList) :=
    hasEntries_iff.mpr rfl
  refine ⟨_, hentries, getElem?_parseQuery query, fun hplus => ?_⟩
  -- the pieces of the query are kept at hand while the entries are compared
  have hpieces := (List.forall₂_and_left _ _).mpr ⟨fun piece hpiece => hpiece, hentries⟩
  refine hpieces.imp fun piece entry h => ?_
  obtain ⟨hpiece, key, value, hdivides, hkey, hvalue⟩ := h
  exact ⟨key, value, hdivides,
    hkey.as_arrived (hplus key ⟨piece, hpiece, key, value, hdivides, .inl rfl⟩),
    hvalue.as_arrived (hplus value ⟨piece, hpiece, key, value, hdivides, .inr rfl⟩)⟩

/-- Two pairs whose keys are written in different ways. The value of the first one is no text. -/
def awkwardQuery : String := "x+y=%FF&&%78+y=1=+"

theorem parseQuery_entries_awkwardQuery :
    (∀ raw, IsComponent awkwardQuery raw → '+' ∈ raw → Decodes raw) ∧
      HasEntries id awkwardQuery [("x y", "%FF"), ("x y", "1= ")] ∧
      (parseQuery (some awkwardQuery))["x y"]? = some "1= " := by
  have hpieces : (awkwardQuery.toList.splitOn '&').filter (· ≠ []) =
      ["x+y=%FF".toList, "%78+y=1=+".toList] := by decide +kernel
  have hcomponents : ∀ raw, IsComponent awkwardQuery raw → '+' ∈ raw → Decodes raw := by
    rintro raw ⟨piece, hpiece, key, value, hdivides, hraw⟩ hplus
    rw [hpieces] at hpiece
    have hpair := divides_iff.mp hdivides
    simp only [List.mem_cons, List.not_mem_nil, or_false] at hpiece
    rcases hpiece with rfl | rfl
    · have hfirst : splitPair "x+y=%FF".toList = ("x+y".toList, "%FF".toList) := by decide
      obtain ⟨rfl, rfl⟩ := Prod.mk.inj (hpair.symm.trans hfirst)
      rcases hraw with rfl | rfl
      · exact ⟨"x y", percentDecode?_map_eq_some_iff.mp (by decide +kernel)⟩
      · exact absurd hplus (by decide)
    · have hsecond : splitPair "%78+y=1=+".toList = ("%78+y".toList, "1=+".toList) := by decide
      obtain ⟨rfl, rfl⟩ := Prod.mk.inj (hpair.symm.trans hsecond)
      rcases hraw with rfl | rfl
      · exact ⟨"x y", percentDecode?_map_eq_some_iff.mp (by decide +kernel)⟩
      · exact ⟨"1= ", percentDecode?_map_eq_some_iff.mp (by decide +kernel)⟩
  obtain ⟨entries, hentries, hlookup, harrived⟩ := parseQuery_entries awkwardQuery
  obtain rfl : entries = [("x y", "%FF"), ("x y", "1= ")] :=
    (hasEntries_iff.mp hentries).symm.trans (by decide +kernel)
  exact ⟨hcomponents, harrived hcomponents, (hlookup "x y" "1= ").mpr (by decide)⟩

/-- A value that stands for no text is not stored as it arrived: its plus sign is replaced. -/
theorem parseQuery_undecodedPlus :
    HasEntries id "a=%FF+b" [("a", "%FF+b")] ∧ LastEntry [("a", "%FF+b")] "a" "%FF+b" ∧
      (parseQuery (some "a=%FF+b"))["a"]? = some "%FF b" := by
  have hpieces : ("a=%FF+b".toList.splitOn '&').filter (· ≠ []) = ["a=%FF+b".toList] := by
    decide +kernel
  have hkey : Stores id "a".toList "a" := stores_of_eq_some id (by decide +kernel)
  have hvalue : Stores id "%FF+b".toList (String.ofList "%FF+b".toList) :=
    stores_of_eq_none id (by decide +kernel)
  have hdivides : Divides "a=%FF+b".toList "a".toList "%FF+b".toList := divides_iff.mpr (by decide)
  refine ⟨?_, by decide, by decide +kernel⟩
  rw [String.ofList_toList] at hvalue
  rw [HasEntries, hpieces]
  exact .cons ⟨_, _, hdivides, hkey, hvalue⟩ .nil

/-! ## Spellings -/

/-- A piece spells a pair: its key and its value with an equals sign between them. -/
def SpellsPair (piece : List Char) (pair : String × String) : Prop :=
  ∃ key value, SpellsComponent pair.1 key ∧ SpellsComponent pair.2 value ∧ piece = key ++ '=' :: value

/-- How a list of pairs is spelled: as pieces with an ampersand between neighbours, where any number of
empty pieces may stand between the pairs, before and after them. -/
def SpellsQuery (pairs : List (String × String)) (query : String) : Prop :=
  ∃ pieces, List.Forall₂ SpellsPair (pieces.filter (· ≠ [])) pairs ∧
    query.toList = ['&'].intercalate pieces

theorem SpellsPair.not_mem {pair : String × String} (h : SpellsPair piece pair) : '&' ∉ piece := by
  obtain ⟨key, value, hkey, hvalue, rfl⟩ := h
  rw [List.mem_append, List.mem_cons, not_or, not_or]
  exact ⟨hkey.not_mem (.inl rfl), by decide, hvalue.not_mem (.inl rfl)⟩

/-- A spelled pair is read as the pair. -/
theorem SpellsPair.givesEntry {pair : String × String} (h : SpellsPair piece pair)
    (kept : List Char → List Char) : GivesEntry kept piece pair := by
  obtain ⟨key, value, hkey, hvalue, rfl⟩ := h
  exact ⟨key, value, .atEquals (hkey.not_mem (.inr rfl)), .decoded hkey.formBytes,
    .decoded hvalue.formBytes⟩

/-- The entries of a spelled query are the pairs. -/
theorem SpellsQuery.hasEntries (h : SpellsQuery pairs query) (kept : List Char → List Char) :
    HasEntries kept query pairs := by
  obtain ⟨pieces, hpairs, hquery⟩ := h
  have hmarks : ∀ piece ∈ pieces, '&' ∉ piece := by
    intro piece hpiece
    by_cases hempty : piece = []
    · rw [hempty]
      exact List.not_mem_nil
    · have hspelled := (List.forall₂_and_left _ _).mp (hpairs.imp fun piece pair h => ⟨h.not_mem, h⟩)
      exact hspelled.1 piece (List.mem_filter.mpr ⟨hpiece, decide_eq_true hempty⟩)
  rw [HasEntries, hquery, Text.filter_splitOn_intercalate rfl hmarks]
  exact hpairs.imp fun piece pair h => h.givesEntry kept

theorem exists_spellsQuery (pairs : List (String × String)) : ∃ query, SpellsQuery pairs query := by
  have hpieces : ∃ pieces, List.Forall₂ SpellsPair pieces pairs := by
    induction pairs with
    | nil => exact ⟨[], .nil⟩
    | cons pair pairs ih =>
      obtain ⟨pieces, hpieces⟩ := ih
      obtain ⟨key, hkey⟩ := exists_spellsComponent pair.1
      obtain ⟨value, hvalue⟩ := exists_spellsComponent pair.2
      exact ⟨_, .cons ⟨key, value, hkey, hvalue, rfl⟩ hpieces⟩
  obtain ⟨pieces, hpieces⟩ := hpieces
  have hne : ∀ piece ∈ pieces, piece ≠ [] := by
    refine ((List.forall₂_and_left _ _).mp (hpieces.imp fun piece pair h => ⟨?_, h⟩)).1
    obtain ⟨key, value, -, -, rfl⟩ := h
    exact List.append_ne_nil_of_right_ne_nil _ (List.cons_ne_nil _ _)
  refine ⟨String.ofList (['&'].intercalate pieces), pieces, ?_, String.toList_ofList⟩
  rwa [List.filter_eq_self.mpr fun piece hpiece => decide_eq_true (hne piece hpiece)]

/-- **Parameters survive being sent.** Every list of pairs can be spelled as a query, and every query
that spells it gives each key the value of its last pair, and no other keys any. -/
theorem parseQuery_of_spells (pairs : List (String × String)) :
    (∃ query, SpellsQuery pairs query) ∧
      ∀ query, SpellsQuery pairs query → ∀ key value,
        (parseQuery (some query))[key]? = some value ↔ LastEntry pairs key value := by
  refine ⟨exists_spellsQuery pairs, fun query h key value => ?_⟩
  rw [getElem?_parseQuery, hasEntries_iff.mp (h.hasEntries _)]

/-- Two pairs with one key, the empty pair between them, and empty pieces on all sides. -/
theorem parseQuery_of_spells_emptyPair :
    SpellsQuery [("a b", "&"), ("", ""), ("a b", "é%")] "&a+b=%26&&=&%61 b=%c3%A9%25&" ∧
      (parseQuery (some "&a+b=%26&&=&%61 b=%c3%A9%25&"))["a b"]? = some "é%" := by
  have hfirst : SpellsPair "a+b=%26".toList ("a b", "&") := by
    refine ⟨"a+b".toList, "%26".toList, ⟨[['a'], ['+'], ['b']], ?_, rfl⟩,
      ⟨[['%', '2', '6']], ?_, rfl⟩, rfl⟩
    · exact .cons (.raw (by decide)) (.cons .plus (.cons (.raw (by decide)) .nil))
    · have hbytes : Escapes (String.utf8EncodeChar '&') ['%', '2', '6'] :=
        .cons (by decide) (by decide) .nil
      exact .cons (.escaped hbytes) .nil
  have hempty : SpellsPair "=".toList ("", "") := ⟨[], [], ⟨[], .nil, rfl⟩, ⟨[], .nil, rfl⟩, rfl⟩
  have hlast : SpellsPair "%61 b=%c3%A9%25".toList ("a b", "é%") := by
    refine ⟨"%61 b".toList, "%c3%A9%25".toList, ⟨[['%', '6', '1'], [' '], ['b']], ?_, rfl⟩,
      ⟨[['%', 'c', '3', '%', 'A', '9'], ['%', '2', '5']], ?_, rfl⟩, rfl⟩
    · have hbytes : Escapes (String.utf8EncodeChar 'a') ['%', '6', '1'] :=
        .cons (by decide) (by decide) .nil
      exact .cons (.escaped hbytes) (.cons (.raw (by decide)) (.cons (.raw (by decide)) .nil))
    · have haccent : Escapes (String.utf8EncodeChar 'é') ['%', 'c', '3', '%', 'A', '9'] :=
        .cons (by decide) (by decide) (.cons (by decide) (by decide) .nil)
      have hmark : Escapes (String.utf8EncodeChar '%') ['%', '2', '5'] :=
        .cons (by decide) (by decide) .nil
      exact .cons (.escaped haccent) (.cons (.escaped hmark) .nil)
  have hspells : SpellsQuery [("a b", "&"), ("", ""), ("a b", "é%")]
      "&a+b=%26&&=&%61 b=%c3%A9%25&" := by
    refine ⟨[[], "a+b=%26".toList, [], "=".toList, "%61 b=%c3%A9%25".toList, []], ?_, by decide⟩
    exact .cons hfirst (.cons hempty (.cons hlast .nil))
  exact ⟨hspells, ((parseQuery_of_spells _).2 _ hspells "a b" "é%").mpr (by decide)⟩

end WebRouting.Url
