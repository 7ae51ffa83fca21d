import Copybook.Association
import Mathlib.Data.List.Basic
import Mathlib.Data.List.Nodup

/-!
Keys and entries of association lists. Putting a value keeps keys apart, and a list whose keys are
apart holds exactly the entries that are found in it. -/
namespace Copybook
namespace Association

variable {α β : Type} [BEq α] [LawfulBEq α]

theorem find?_isSome_iff (key : α) (entries : List (α × β)) :
    (find? key entries).isSome = true ↔ key ∈ entries.map (·.1) := by
  induction entries with
  | nil => simp [find?]
  | cons entry rest ih =>
    by_cases h : entry.1 = key
    · simp [find?, h]
    · simp [find?, h, Ne.symm h, ih]

theorem length_put (key : α) (value : β) (entries : List (α × β)) :
    (put key value entries).length =
      if (find? key entries).isSome then entries.length else entries.length + 1 := by
  have hkeys := congrArg List.length (keys_put key value entries)
  rw [List.length_map] at hkeys
  rw [hkeys]
  by_cases h : key ∈ entries.map (·.1)
  · rw [if_pos h, if_pos ((find?_isSome_iff key entries).mpr h), List.length_map]
  · have hnone : ¬ (find? key entries).isSome = true := fun hsome =>
      h ((find?_isSome_iff key entries).mp hsome)
    simp [h, hnone]

theorem find?_map {γ : Type} (f : β → γ) (key : α) (entries : List (α × β)) :
    find? key (entries.map fun entry => (entry.1, f entry.2)) = (find? key entries).map f := by
  induction entries with
  | nil => rfl
  | cons entry rest ih => by_cases h : entry.1 = key <;> simp [find?, h, ih]

theorem put_put (key : α) (value other : β) (entries : List (α × β)) :
    put key value (put key other entries) = put key value entries := by
  induction entries with
  | nil => simp [put]
  | cons entry rest ih => by_cases h : entry.1 = key <;> simp [put, h, ih]

theorem put_of_find?_eq_some {key : α} {value : β} {entries : List (α × β)}
    (h : find? key entries = some value) : put key value entries = entries := by
  induction entries with
  | nil => cases h
  | cons entry rest ih =>
    by_cases hkey : entry.1 = key
    · subst hkey
      obtain rfl : entry.2 = value := by simpa [find?] using h
      simp [put]
    · have hrest : find? key rest = some value := by simpa [find?, hkey] using h
      simp [put, hkey, ih hrest]

theorem put_of_find?_eq_none {key : α} (value : β) {entries : List (α × β)}
    (h : find? key entries = none) : put key value entries = entries ++ [(key, value)] := by
  induction entries with
  | nil => rfl
  | cons entry rest ih =>
    by_cases hkey : entry.1 = key
    · simp [find?, hkey] at h
    · have hrest : find? key rest = none := by simpa [find?, hkey] using h
      simp [put, hkey, ih hrest]

theorem mem_of_find?_eq_some {key : α} {value : β} {entries : List (α × β)}
    (h : find? key entries = some value) : value ∈ entries.map (·.2) := by
  induction entries with
  | nil => cases h
  | cons entry rest ih =>
    by_cases hkey : entry.1 = key
    · obtain rfl : entry.2 = value := by simpa [find?, hkey] using h
      exact List.mem_cons_self
    · exact List.mem_cons_of_mem _ (ih (by simpa [find?, hkey] using h))

theorem nodup_put {key : α} (value : β) {entries : List (α × β)}
    (h : (entries.map (·.1)).Nodup) : ((put key value entries).map (·.1)).Nodup := by
  rw [keys_put]
  by_cases hkey : key ∈ entries.map (·.1)
  · rwa [if_pos hkey]
  · rw [if_neg hkey, ← List.concat_eq_append]
    exact h.concat hkey

theorem mem_iff_find? {entries : List (α × β)} (h : (entries.map (·.1)).Nodup) (entry : α × β) :
    entry ∈ entries ↔ find? entry.1 entries = some entry.2 := by
  induction entries with
  | nil => simp [find?]
  | cons first rest ih =>
    rw [List.map_cons, List.nodup_cons] at h
    obtain ⟨hfirst, hrest⟩ := h
    rw [List.mem_cons, ih hrest]
    by_cases hkey : first.1 = entry.1
    · have hnone : find? entry.1 rest ≠ some entry.2 := by
        intro hfound
        have hmem := (find?_isSome_iff entry.1 rest).mp (by rw [hfound]; rfl)
        exact hfirst (hkey ▸ hmem)
      simp [find?, hkey, hnone, Prod.ext_iff, eq_comm]
    · have hne : entry ≠ first := by
        rintro rfl
        exact hkey rfl
      simp [find?, hkey, hne]

theorem find?_eq_none_iff {key : α} {entries : List (α × β)} :
    find? key entries = none ↔ key ∉ entries.map (·.1) := by
  rw [← find?_isSome_iff, Option.not_isSome_iff_eq_none]

theorem find?_append (key : α) (entries later : List (α × β)) :
    find? key (entries ++ later) = (find? key entries).or (find? key later) := by
  induction entries with
  | nil => rfl
  | cons entry rest ih => by_cases h : entry.1 = key <;> simp [find?, h, ih]

theorem find?_perm {entries other : List (α × β)} (hperm : entries.Perm other)
    (h : (other.map (·.1)).Nodup) (key : α) : find? key entries = find? key other := by
  have hentries : (entries.map (·.1)).Nodup := (hperm.map _).nodup_iff.mpr h
  ext value
  rw [← mem_iff_find? hentries (key, value), ← mem_iff_find? h (key, value), hperm.mem_iff]

theorem find?_eq_none_of_nodup {entry : α × β} {done later : List (α × β)}
    (h : ((done ++ entry :: later).map (·.1)).Nodup) : find? entry.1 done = none := by
  rw [List.map_append, List.nodup_append] at h
  rw [find?_eq_none_iff]
  intro hmem
  exact h.2.2 entry.1 hmem entry.1 List.mem_cons_self rfl

theorem foldl_put (done : List (α × β)) {entries : List (α × β)} (h : ((done ++ entries).map (·.1)).Nodup) :
    entries.foldl (fun done entry => put entry.1 entry.2 done) done = done ++ entries := by
  induction entries generalizing done with
  | nil => simp
  | cons entry rest ih =>
    have hnone : find? entry.1 done = none := find?_eq_none_of_nodup h
    rw [List.foldl_cons, put_of_find?_eq_none _ hnone, ih _ (by simpa using h)]
    simp

theorem ofList_eq_self {entries : List (α × β)} (h : (entries.map (·.1)).Nodup) :
    ofList entries = entries := foldl_put [] h

end Association
end Copybook
