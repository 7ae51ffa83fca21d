/-!
Association lists in order of first insertion: a key that is put again keeps its place and takes the
new value. Keys that compare equal are one key, in the form in which it was put first. -/
namespace Copybook
namespace Association

variable {α β : Type} [BEq α]

def put (key : α) (value : β) : List (α × β) → List (α × β)
  | [] => [(key, value)]
  | entry :: rest =>
    if entry.1 == key then (entry.1, value) :: rest else entry :: put key value rest

def ofList (entries : List (α × β)) : List (α × β) :=
  entries.foldl (fun done entry => put entry.1 entry.2 done) []

def find? (key : α) : List (α × β) → Option β
  | [] => none
  | entry :: rest => if entry.1 == key then some entry.2 else find? key rest

theorem find?_put [LawfulBEq α] (key other : α) (value : β) (entries : List (α × β)) :
    find? other (put key value entries) =
      if key == other then some value else find? other entries := by
  induction entries with
  | nil => simp [put, find?]
  | cons entry rest ih =>
    by_cases h : entry.1 = key
    · subst h; by_cases ho : entry.1 = other <;> simp [put, find?, ho]
    · by_cases ho : entry.1 = other
      · subst ho; simp [put, find?, h, Ne.symm h]
      · simp [put, find?, h, ho, ih]

theorem keys_put [LawfulBEq α] (key : α) (value : β) (entries : List (α × β)) :
    (put key value entries).map (·.1) =
      if key ∈ entries.map (·.1) then entries.map (·.1) else entries.map (·.1) ++ [key] := by
  induction entries with
  | nil => simp [put]
  | cons entry rest ih =>
    by_cases h : entry.1 = key
    · simp [put, h]
    · have hk : key ≠ entry.1 := Ne.symm h
      simp only [put, beq_iff_eq, h, if_false, List.map_cons, ih, List.mem_cons, hk, false_or]
      split <;> simp

end Association
end Copybook
