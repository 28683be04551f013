import Std.Data.ExtTreeMap
import WebRouting.Filter.Basic

/-! # Filter registries

Filters by name. A registry starts with the built-in filters, and a name registered again means the
filter registered last. -/

namespace WebRouting

/-- The filters known under their names. -/
structure Registry where
  /-- The filters by name. -/
  filters : Std.ExtTreeMap String Filter

namespace Registry

/-- Makes `name` mean `filter`. -/
def register (r : Registry) (name : String) (filter : Filter) : Registry :=
  ⟨r.filters.insert name filter⟩

/-- The built-in filters: text under two names, integers and floats. -/
def builtin : Registry :=
  Registry.mk ∅ |>.register "default" .string |>.register "str" .string |>.register "int" .int
    |>.register "float" .float

/-- The filter that `name` means. -/
def find? (r : Registry) (name : String) : Option Filter := r.filters[name]?

/-- Whether `name` means a filter. -/
def contains (r : Registry) (name : String) : Bool := r.filters.contains name

/-- The names in increasing order. -/
def names (r : Registry) : List String := r.filters.keys

/-- The wording of a failed look-up. -/
def missMessage (name : String) : String := "url filter '" ++ name ++ "' is not registered"

@[simp] theorem find?_register_self (r : Registry) (name : String) (filter : Filter) :
    (r.register name filter).find? name = some filter := by
  simp [register, find?]

theorem find?_register_of_ne (r : Registry) {name other : String} (filter : Filter)
    (h : name ≠ other) : (r.register name filter).find? other = r.find? other := by
  simp [register, find?, Std.ExtTreeMap.getElem?_insert, h]

end Registry

end WebRouting
