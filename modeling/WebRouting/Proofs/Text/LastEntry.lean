import Mathlib.Data.List.Basic
import Mathlib.Data.List.Induction
import WebRouting.Text.Collection

/-! # Last entries

Entries are written under their keys one after another, and each takes the place of the one that its
key had before. In the end every key has the value of its last entry (`LastEntry`), and a key without
entries has none. This holds of every store in which an entry changes nothing but the value of its own
key (`get_foldl_iff`), and so of maps of texts (`TextMap.getElem?_foldl_insert`). -/

namespace WebRouting

variable {α β σ : Type} {entries : List (α × β)} {entry : α × β} {key : α} {value : β}

/-- The last entry with the key has the value. -/
def LastEntry (entries : List (α × β)) (key : α) (value : β) : Prop :=
  ∃ before after, entries = before ++ (key, value) :: after ∧ ∀ entry ∈ after, entry.1 ≠ key

@[simp] theorem not_lastEntry_nil (key : α) (value : β) : ¬LastEntry [] key value := by
  rintro ⟨before, after, h, -⟩
  cases before <;> cases h

/-- An entry at the end is the last one of its key, and changes nothing for the other keys. -/
theorem lastEntry_concat_iff : LastEntry (entries ++ [entry]) key value ↔
    entry = (key, value) ∨ entry.1 ≠ key ∧ LastEntry entries key value := by
  constructor
  · rintro ⟨before, after, h, hafter⟩
    rcases List.eq_nil_or_concat' after with rfl | ⟨after, last, rfl⟩
    · exact .inl (List.singleton_inj.mp (List.append_inj' h rfl).2)
    · rw [← List.cons_append, ← List.append_assoc] at h
      obtain ⟨hentries, hlast⟩ := List.append_inj' h rfl
      obtain rfl : entry = last := List.singleton_inj.mp hlast
      obtain ⟨hafter, hentry⟩ := List.forall_mem_append.mp hafter
      exact .inr ⟨hentry entry (List.mem_singleton_self entry), before, after, hentries, hafter⟩
  · rintro (rfl | ⟨hentry, before, after, rfl, hafter⟩)
    · exact ⟨entries, [], rfl, fun _ hmem => absurd hmem List.not_mem_nil⟩
    · refine ⟨before, after ++ [entry], ?_, ?_⟩
      · rw [List.append_assoc, List.cons_append]
      · exact List.forall_mem_append.mpr ⟨hafter, List.forall_mem_singleton.mpr hentry⟩

/-- The last entry is found first from the end. -/
theorem lastEntry_iff_lookup [BEq α] [LawfulBEq α] :
    LastEntry entries key value ↔ entries.reverse.lookup key = some value := by
  induction entries using List.reverseRecOn with
  | nil => simp
  | append_singleton entries entry ih =>
    rw [lastEntry_concat_iff, ih, List.reverse_concat, List.lookup_cons]
    by_cases hkey : entry.1 = key
    · subst hkey
      simp [Prod.ext_iff]
    · have hne : entry ≠ (key, value) := fun h => hkey (congrArg Prod.fst h)
      have hbeq : (key == entry.1) = false := beq_eq_false_iff_ne.mpr (Ne.symm hkey)
      simp [hkey, hne, hbeq]

instance [DecidableEq α] [DecidableEq β] (entries : List (α × β)) (key : α) (value : β) :
    Decidable (LastEntry entries key value) :=
  decidable_of_iff _ lastEntry_iff_lookup.symm

/-- If there are entries, some key has a last one. -/
theorem exists_lastEntry (h : entries ≠ []) : ∃ key value, LastEntry entries key value := by
  obtain ⟨before, last, rfl⟩ := (List.eq_nil_or_concat' entries).resolve_left h
  exact ⟨last.1, last.2, lastEntry_concat_iff.mpr (.inl rfl)⟩

/-- A store that is empty at first has the values of the last entries in the end, if writing an entry
gives its key its value and leaves the other keys as they are. -/
theorem get_foldl_iff (get : σ → α → Option β) {put : σ → α × β → σ} {start : σ}
    (hstart : ∀ key, get start key = none)
    (hself : ∀ s entry, get (put s entry) entry.1 = some entry.2)
    (hother : ∀ s entry key, entry.1 ≠ key → get (put s entry) key = get s key) :
    get (entries.foldl put start) key = some value ↔ LastEntry entries key value := by
  induction entries using List.reverseRecOn with
  | nil => simp [hstart]
  | append_singleton entries entry ih =>
    rw [List.foldl_append, List.foldl_cons, List.foldl_nil, lastEntry_concat_iff]
    by_cases hkey : entry.1 = key
    · subst hkey
      rw [hself]
      simp [Prod.ext_iff]
    · rw [hother _ _ _ hkey, ih]
      have hne : entry ≠ (key, value) := fun h => hkey (congrArg Prod.fst h)
      simp [hkey, hne]

/-- A map in which entries are inserted one after another has the values of the last entries. -/
theorem TextMap.getElem?_foldl_insert (entries : List (String × String)) (key value : String) :
    (entries.foldl (fun map (key, value) => map.insert key value) (∅ : TextMap))[key]? = some value ↔
      LastEntry entries key value := by
  refine get_foldl_iff (fun (map : TextMap) key => map[key]?) ?_ ?_ ?_
  · intro key
    exact Std.ExtTreeMap.getElem?_empty
  · intro map entry
    exact Std.ExtTreeMap.getElem?_insert_self
  · intro map entry key hkey
    simp [Std.ExtTreeMap.getElem?_insert, hkey]

end WebRouting
