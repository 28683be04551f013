import Std.Data.ExtTreeMap
import Std.Data.ExtTreeSet

/-! # Collections of texts

Sets and maps of texts. Two collections with the same content are equal, and their content is listed
in increasing order. -/

namespace WebRouting

/-- Texts by name. -/
abbrev TextMap : Type := Std.ExtTreeMap String String

/-- A set of names. -/
abbrev NameSet : Type := Std.ExtTreeSet String

/-- The set of the names in a list. -/
def NameSet.ofNames (names : List String) : NameSet := (∅ : NameSet).insertMany names

@[simp] theorem NameSet.contains_ofNames (names : List String) (name : String) :
    (NameSet.ofNames names).contains name = names.contains name := by
  simp [NameSet.ofNames, Std.ExtTreeSet.contains_insertMany_list]

theorem NameSet.isEmpty_ofNames (names : List String) :
    (NameSet.ofNames names).isEmpty = names.isEmpty := by
  simp [NameSet.ofNames, Std.ExtTreeSet.isEmpty_insertMany_list]

/-- The names of a set are listed in increasing order. -/
theorem NameSet.pairwise_toList (names : NameSet) : names.toList.Pairwise (· < ·) := by
  have hordered := Std.ExtTreeSet.ordered_toList (t := names)
  exact hordered.imp fun h => compareOfLessAndEq_eq_lt.mp h

end WebRouting
