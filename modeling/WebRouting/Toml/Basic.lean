/-! # TOML values and tables under construction

A document is built entry by entry, and a table may be built in several places of it. How a table came
about decides what may still be added: a table with a header of its own is complete when the next
header starts, a table that is only mentioned in other headers may yet get its own, and a table that
dotted keys made can only be extended by dotted keys. A value in a document is always complete. -/

namespace WebRouting

/-- A TOML value. Floats and dates are not looked into. -/
inductive Toml where
  /-- A string. -/
  | string (s : String)
  /-- An integer. -/
  | int (n : Int)
  /-- A truth value. -/
  | bool (b : Bool)
  /-- A float. -/
  | float
  /-- A date, a time, or both. -/
  | dateTime
  /-- An array. -/
  | array (items : List Toml)
  /-- A table. -/
  | table (entries : List (String × Toml))

namespace Toml

/-! ## Equality -/

mutual

/-- Whether two values are the same. -/
def same : Toml → Toml → Bool
  | string s, string t => s = t
  | int m, int n => m = n
  | bool a, bool b => a = b
  | float, float => true
  | dateTime, dateTime => true
  | array items, array items' => sameItems items items'
  | table entries, table entries' => sameEntries entries entries'
  | _, _ => false

/-- Whether two arrays have the same items. -/
def sameItems : List Toml → List Toml → Bool
  | [], [] => true
  | v :: items, w :: items' => v.same w && sameItems items items'
  | _, _ => false

/-- Whether two tables have the same entries in the same order. -/
def sameEntries : List (String × Toml) → List (String × Toml) → Bool
  | [], [] => true
  | (key, v) :: entries, (key', w) :: entries' =>
    key = key' && v.same w && sameEntries entries entries'
  | _, _ => false

end

mutual

theorem same_iff : ∀ {v w : Toml}, v.same w = true ↔ v = w
  | string _, w => by cases w <;> simp [same]
  | int _, w => by cases w <;> simp [same]
  | bool _, w => by cases w <;> simp [same]
  | float, w => by cases w <;> simp [same]
  | dateTime, w => by cases w <;> simp [same]
  | array items, w => by cases w <;> simp [same, sameItems_iff]
  | table entries, w => by cases w <;> simp [same, sameEntries_iff]

theorem sameItems_iff : ∀ {items items' : List Toml}, sameItems items items' = true ↔ items = items'
  | [], items' => by cases items' <;> simp [sameItems]
  | v :: items, items' => by cases items' <;> simp [sameItems, same_iff, sameItems_iff]

theorem sameEntries_iff : ∀ {entries entries' : List (String × Toml)},
    sameEntries entries entries' = true ↔ entries = entries'
  | [], entries' => by cases entries' <;> simp [sameEntries]
  | (key, v) :: entries, entries' => by
    cases entries' <;> simp [sameEntries, same_iff, sameEntries_iff, Prod.ext_iff]

end

instance : DecidableEq Toml := fun v w => decidable_of_iff (v.same w = true) same_iff

/-! ## Drafts -/

/-- How a table came about. -/
inductive TableKind where
  /-- By a header of its own. -/
  | header
  /-- By its mention in other headers. -/
  | implied
  /-- By dotted keys. -/
  | dotted
deriving DecidableEq

/-- An entry of a document under construction. -/
inductive Draft where
  /-- A value. -/
  | value (v : Toml)
  /-- A table. -/
  | table (kind : TableKind) (entries : List (String × Draft))
  /-- The tables of one repeated header, the latest first. -/
  | tables (latest : List (String × Draft)) (earlier : List Draft)

/-- Entries under construction. -/
abbrev Entries : Type := List (String × Draft)

namespace Entries

/-- Puts an entry in place of one with the same key, or behind all others. -/
def put (entries : Entries) (key : String) (d : Draft) : Entries :=
  if (entries.lookup key).isSome then
    entries.map fun (other, old) => if other = key then (other, d) else (other, old)
  else entries ++ [(key, d)]

/-- Adds a value under a key that is new. -/
def addValue? (entries : Entries) (key : String) (v : Toml) : Option Entries :=
  if (entries.lookup key).isSome then none else some (entries.put key (.value v))

/-- Adds a value under dotted keys. Tables on the way that do not exist are made by them, and the last
one must have been made by dotted keys. -/
def addDotted? (entries : Entries) (key : String) (v : Toml) : (path : List String) → Option Entries
  | [] => entries.addValue? key v
  | step :: path =>
    let below (kind : TableKind) (inner : Entries) : Option Entries :=
      if path = [] ∧ kind ≠ .dotted then none else addDotted? inner key v path
    match entries.lookup step with
    | none => (below .dotted []).map fun inner => entries.put step (.table .dotted inner)
    | some (.value _) => none
    | some (.table .header _) => none
    | some (.table kind inner) =>
      (below kind inner).map fun inner => entries.put step (.table kind inner)
    | some (.tables latest earlier) =>
      (below .header latest).map fun latest => entries.put step (.tables latest earlier)

/-- Changes the table that a header is in. Tables on the way that do not exist are implied. -/
def within? (entries : Entries) (change : Entries → Option Entries) :
    (path : List String) → Option Entries
  | [] => change entries
  | step :: path =>
    match entries.lookup step with
    | none => (within? [] change path).map fun inner => entries.put step (.table .implied inner)
    | some (.value _) => none
    | some (.table kind inner) =>
      (within? inner change path).map fun inner => entries.put step (.table kind inner)
    | some (.tables latest earlier) =>
      (within? latest change path).map fun latest => entries.put step (.tables latest earlier)

/-- Gives a table its own header. It must be new or implied. -/
def openTable? (entries : Entries) (key : String) : Option Entries :=
  match entries.lookup key with
  | none => some (entries.put key (.table .header []))
  | some (.table .implied inner) => some (entries.put key (.table .header inner))
  | _ => none

/-- Starts another table of a repeated header. -/
def openNext? (entries : Entries) (key : String) : Option Entries :=
  match entries.lookup key with
  | none => some (entries.put key (.tables [] []))
  | some (.tables latest earlier) =>
    some (entries.put key (.tables [] (.table .header latest :: earlier)))
  | _ => none

end Entries

/-! ## Documents -/

/-- A document under construction. -/
structure Document where
  /-- The entries. -/
  entries : Entries := []
  /-- The path of the table that the last header opened. -/
  path : List String := []

namespace Document

/-- Adds an entry to the open table. -/
def add? (d : Document) (path : List String) (key : String) (v : Toml) : Option Document :=
  (d.entries.within? (·.addDotted? key v path) d.path).map fun entries => { d with entries }

/-- Opens a table by its header, a repeated one if `repeats`. -/
def openHeader? (d : Document) (repeats : Bool) (path : List String) (key : String) :
    Option Document :=
  let change (entries : Entries) : Option Entries :=
    if repeats then entries.openNext? key else entries.openTable? key
  (d.entries.within? change path).map fun entries => { entries, path := path ++ [key] }

end Document

/-! ## Finished values -/

mutual

/-- The value of a finished entry. -/
def Draft.finish : Draft → Toml
  | .value v => v
  | .table _ entries => .table (finishAll entries)
  | .tables latest earlier => .array (finishTables earlier [.table (finishAll latest)])

/-- The values of finished entries. -/
def finishAll : List (String × Draft) → List (String × Toml)
  | [] => []
  | (key, d) :: entries => (key, d.finish) :: finishAll entries

/-- The values of finished tables, the latest of which comes first, in front of others. -/
def finishTables : List Draft → List Toml → List Toml
  | [], later => later
  | d :: earlier, later => finishTables earlier (d.finish :: later)

end

end Toml

end WebRouting
