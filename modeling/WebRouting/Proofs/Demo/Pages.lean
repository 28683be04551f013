import WebRouting.Demo
import WebRouting.Proofs.Filter.Decoding

/-! # Pages of the demonstration

The pages whose address ends with a value. `Page.Fits` says which values an address of the page may end
with, and `Page.Reads` which of them can be read; both are said without patterns. The filter of a page
accepts the values that fit (`Page.accepts_iff`) and decodes those that can be read
(`Page.isOk_decode_iff`). The addresses of two pages differ before their values
(`Page.eq_of_append_eq`). -/

namespace WebRouting.Demo

open Regex

/-! ## Pages -/

/-- A page whose address ends with a value. -/
inductive Page where
  /-- The greeting of a name. -/
  | hello
  /-- An age. -/
  | age
  /-- A post. -/
  | post
  /-- A flag. -/
  | flag
  /-- A person. -/
  | person
  /-- An item of the interface in JSON. -/
  | item
  /-- A price of the interface in JSON. -/
  | price
deriving DecidableEq

/-- The addresses of the pages without a value. -/
def fixedPaths : List String := ["/", "/api/status"]

/-- A word of small letters and digits. -/
def IsWord (word : List Char) : Prop :=
  word ≠ [] ∧ ∀ c ∈ word, ('a' ≤ c ∧ c ≤ 'z') ∨ ('0' ≤ c ∧ c ≤ '9')

/-- Words with hyphens between them, at least one. -/
def IsSlug (cs : List Char) : Prop :=
  ∃ words : List (List Char), words ≠ [] ∧ cs = ['-'].intercalate words ∧
    ∀ word ∈ words, IsWord word

namespace Page

/-- What stands before the value. -/
def root : Page → String
  | hello => "/hello/"
  | age => "/age/"
  | post => "/posts/"
  | flag => "/flags/"
  | person => "/person/"
  | item => "/api/items/"
  | price => "/api/prices/"

/-- The name of the parameter. -/
def parameter : Page → String
  | hello => "name"
  | age => "age"
  | post => "slug"
  | flag => "on"
  | person => "name"
  | item => "id"
  | price => "amount"

/-- The name of the filter. -/
def kind : Page → String
  | hello => "default"
  | age => "int"
  | post => "slug"
  | flag => "bool"
  | person => "default"
  | item => "int"
  | price => "float"

/-- The filter. -/
def filter : Page → Filter
  | hello => .string
  | age => .int
  | post => slug
  | flag => Demo.bool
  | person => .string
  | item => .int
  | price => .float

/-- Whether a text may stand at the end of an address of the page. The digits are those of all scripts. -/
def Fits : Page → String → Prop
  | hello, value | person, value => value ≠ "" ∧ '/' ∉ value.toList
  | age, value | item, value =>
    ∃ negative digits, value.toList = Double.signText negative ++ digits ∧ digits ≠ [] ∧
      ∀ c ∈ digits, (CharClass.digit true).contains c = true
  | post, value => IsSlug value.toList
  | flag, value => value = "true" ∨ value = "false"
  | price, value =>
    ∃ negative body, value.toList = Double.signText negative ++ body ∧ body ≠ [] ∧
      ∀ c ∈ body, (CharClass.digit true).contains c = true ∨ c = '.'

/-- Whether a text at the end of an address of the page can be read. -/
def Reads : Page → String → Prop
  | age, value | item, value => Numeral.IsInt64Text value.toList
  | price, value => Double.IsDecimalText value.toList
  | page, value => page.Fits value

end Page

/-! ## Languages of the filters -/

/-- Small letters and digits. -/
def slugCharacter : CharClass := .union (.union .empty (.range 'a' 'z')) (.range '0' '9')

theorem contains_slugCharacter {c : Char} :
    slugCharacter.contains c = true ↔ ('a' ≤ c ∧ c ≤ 'z') ∨ ('0' ≤ c ∧ c ≤ '9') := by
  rw [slugCharacter, CharClass.contains_union, CharClass.contains_union, Filter.contains_empty,
    Bool.false_or, CharClass.contains_range, CharClass.contains_range]
  simp only [Bool.or_eq_true, Bool.and_eq_true, decide_eq_true_eq]

/-- A hyphen and a word. -/
def hyphenWord : Regex := .seq (.seq .empty (.char (.single '-'))) (Filter.someOf slugCharacter)

theorem parse?_slug : parse? slug.pattern.toList = some (.seq
    (.seq .empty (Filter.someOf slugCharacter)) (.rep hyphenWord 0 none true)) := by
  cbv

theorem parse?_bool : parse? Demo.bool.pattern.toList = some (.alt
    (seqReversed ("true".toList.map fun x => .char (.single x)).reverse)
    (seqReversed ("false".toList.map fun x => .char (.single x)).reverse)) := by
  cbv

theorem matches_someOf_slugCharacter {w : List Char} :
    (Filter.someOf slugCharacter).Matches w ↔ IsWord w := by
  rw [Filter.matches_someOf]
  simp only [contains_slugCharacter]
  rfl

theorem matches_hyphenWord {w : List Char} :
    hyphenWord.Matches w ↔ ∃ word, w = '-' :: word ∧ IsWord word := by
  have hhyphen : (Regex.char (.single '-')).AssertionFree := trivial
  have hfirst : (Regex.seq .empty (.char (.single '-'))).AssertionFree := ⟨trivial, hhyphen⟩
  have hsome : (Filter.someOf slugCharacter).AssertionFree := trivial
  rw [hyphenWord, matches_seq hfirst hsome]
  simp only [matches_empty_seq hhyphen, matches_char, contains_single, matches_someOf_slugCharacter]
  constructor
  · rintro ⟨u, word, rfl, ⟨x, rfl, rfl⟩, hword⟩
    exact ⟨word, rfl, hword⟩
  · rintro ⟨word, rfl, hword⟩
    exact ⟨['-'], word, rfl, ⟨'-', rfl, rfl⟩, hword⟩

/-- Words with hyphens between them are the first word and then hyphens with words. -/
theorem intercalate_cons (first : List Char) (words : List (List Char)) :
    ['-'].intercalate (first :: words) = first ++ (words.map ('-' :: ·)).flatten := by
  induction words generalizing first with
  | nil => simp [List.intercalate]
  | cons second words ih =>
    have hrest := ih second
    simp only [List.intercalate, List.intersperse_cons_cons, List.flatten_cons, List.map_cons] at hrest ⊢
    rw [hrest]
    simp

/-- Texts that are each a hyphen and a word. -/
theorem forall_hyphenWord_iff {parts : List (List Char)} :
    (∀ part ∈ parts, hyphenWord.Matches part) ↔
      ∃ words : List (List Char), parts = words.map ('-' :: ·) ∧ ∀ word ∈ words, IsWord word := by
  induction parts with
  | nil =>
    constructor
    · intro _
      exact ⟨[], rfl, fun word hword => absurd hword List.not_mem_nil⟩
    · intro _ part hpart
      exact absurd hpart List.not_mem_nil
  | cons part parts ih =>
    rw [List.forall_mem_cons, ih, matches_hyphenWord]
    constructor
    · rintro ⟨⟨word, rfl, hword⟩, words, rfl, hwords⟩
      exact ⟨word :: words, rfl, List.forall_mem_cons.mpr ⟨hword, hwords⟩⟩
    · rintro ⟨words, hparts, hwords⟩
      cases words with
      | nil => cases hparts
      | cons word words =>
        cases hparts
        obtain ⟨hword, hwords⟩ := List.forall_mem_cons.mp hwords
        exact ⟨⟨word, rfl, hword⟩, words, rfl, hwords⟩

theorem accepts_slug_iff {text : String} : slug.accepts text = true ↔ IsSlug text.toList := by
  have hsome : (Filter.someOf slugCharacter).AssertionFree := trivial
  have hfirst : (Regex.seq .empty (Filter.someOf slugCharacter)).AssertionFree := ⟨trivial, hsome⟩
  have hword : hyphenWord.AssertionFree := ⟨⟨trivial, trivial⟩, trivial⟩
  have hothers : (Regex.rep hyphenWord 0 none true).AssertionFree := hword
  rw [Filter.accepts_iff parse?_slug, matches_seq hfirst hothers]
  simp only [matches_empty_seq hsome, matches_someOf_slugCharacter, matches_rep hword,
    forall_hyphenWord_iff]
  constructor
  · rintro ⟨u, v, htext, hu, parts, -, ⟨words, rfl, hwords⟩, rfl⟩
    refine ⟨u :: words, List.cons_ne_nil _ _, ?_, List.forall_mem_cons.mpr ⟨hu, hwords⟩⟩
    rw [htext, intercalate_cons]
  · rintro ⟨words, hne, htext, hwords⟩
    cases words with
    | nil => exact absurd rfl hne
    | cons first words =>
      obtain ⟨hfirst, hwords⟩ := List.forall_mem_cons.mp hwords
      rw [intercalate_cons] at htext
      exact ⟨first, _, htext, hfirst, _, ⟨Nat.zero_le _, nofun⟩, ⟨words, rfl, hwords⟩, rfl⟩

theorem accepts_bool_iff {text : String} :
    Demo.bool.accepts text = true ↔ text = "true" ∨ text = "false" := by
  rw [Filter.accepts_iff parse?_bool, matches_alt, matches_characters, matches_characters,
    String.toList_inj, String.toList_inj]

namespace Page

/-- The filter of a page accepts the values that fit. -/
theorem accepts_iff {page : Page} {value : String} :
    page.filter.accepts value = true ↔ page.Fits value := by
  cases page with
  | hello => exact Filter.accepts_string_iff
  | age => exact Filter.accepts_int_iff
  | post => exact accepts_slug_iff
  | flag => exact accepts_bool_iff
  | person => exact Filter.accepts_string_iff
  | item => exact Filter.accepts_int_iff
  | price => exact Filter.accepts_float_iff

/-- What can be read fits. -/
theorem Reads.fits {page : Page} {value : String} (h : page.Reads value) : page.Fits value := by
  cases page with
  | age => exact accepts_iff.mp (Filter.accepts_int_of_isInt64Text h)
  | item => exact accepts_iff.mp (Filter.accepts_int_of_isInt64Text h)
  | price => exact accepts_iff.mp (Filter.accepts_float_of_isDecimalText h)
  | hello => exact h
  | post => exact h
  | flag => exact h
  | person => exact h

/-- Of the values that fit, the filter of a page decodes those that can be read. -/
theorem isOk_decode_iff {page : Page} {value : String} (h : page.Fits value) :
    (page.filter.decode value).isOk = true ↔ page.Reads value := by
  cases page with
  | age => exact Filter.isOk_decode_int_iff (accepts_iff.mpr h)
  | item => exact Filter.isOk_decode_int_iff (accepts_iff.mpr h)
  | price => exact Filter.isOk_decode_float_iff (accepts_iff.mpr h)
  | hello => exact iff_of_true rfl h
  | post => exact iff_of_true rfl h
  | person => exact iff_of_true rfl h
  | flag =>
    refine iff_of_true ?_ h
    rcases h with rfl | rfl <;> rfl

/-- The filters of pages are filters for segments. -/
theorem segmental (page : Page) : page.filter.Segmental := by
  cases page <;> decide +kernel

/-! ## Addresses -/

/-- What stands before the value of one page starts no address of another one. -/
theorem not_prefix_of_ne {page other : Page} (h : page ≠ other) :
    ¬ page.root.toList <+: other.root.toList := by
  cases page <;> cases other <;> first | exact absurd rfl h | decide

theorem not_prefix_fixedPaths (page : Page) : ∀ path ∈ fixedPaths, ¬ page.root.toList <+: path.toList := by
  cases page <;> decide

/-- An address is that of one page, with one value. -/
theorem eq_of_append_eq {page other : Page} {value text : String}
    (h : page.root ++ value = other.root ++ text) : page = other ∧ value = text := by
  have hchars : page.root.toList ++ value.toList = other.root.toList ++ text.toList := by
    rw [← String.toList_append, h, String.toList_append]
  have hpage : page = other := by
    by_contra hne
    have hleft : page.root.toList <+: other.root.toList ++ text.toList :=
      hchars ▸ List.prefix_append _ _
    rcases List.prefix_or_prefix_of_prefix hleft (List.prefix_append _ _) with h | h
    · exact not_prefix_of_ne hne h
    · exact not_prefix_of_ne (Ne.symm hne) h
  subst hpage
  exact ⟨rfl, String.toList_injective (List.append_cancel_left hchars)⟩

/-- An address of a page is none of a page without a value. -/
theorem append_not_mem_fixedPaths (page : Page) (value : String) : page.root ++ value ∉ fixedPaths := by
  intro hmem
  refine not_prefix_fixedPaths page _ hmem ?_
  rw [String.toList_append]
  exact List.prefix_append _ _

end Page

end WebRouting.Demo
