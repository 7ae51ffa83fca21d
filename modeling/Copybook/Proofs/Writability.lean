import Copybook.Json.Reader
import Copybook.Proofs.Arithmetic
import Copybook.Proofs.Association

/-!
Values that can be written. A number in a document has no more digits than may be written, so whatever
is read from a document has a text. -/
namespace Copybook

theorem Association.forall_put {α β : Type} [BEq α] {P : β → Prop} {key : α} {value : β}
    {entries : List (α × β)} (hvalue : P value) (h : ∀ entry ∈ entries, P entry.2) :
    ∀ entry ∈ put key value entries, P entry.2 := by
  induction entries with
  | nil => simpa [put] using hvalue
  | cons first rest ih =>
    obtain ⟨hfirst, hrest⟩ := List.forall_mem_cons.mp h
    rw [put]
    split
    · exact List.forall_mem_cons.mpr ⟨hvalue, hrest⟩
    · exact List.forall_mem_cons.mpr ⟨hfirst, ih hrest⟩

theorem Association.forall_ofList {α β : Type} [BEq α] {P : β → Prop} {entries : List (α × β)}
    (h : ∀ entry ∈ entries, P entry.2) : ∀ entry ∈ ofList entries, P entry.2 := by
  suffices hall : ∀ done : List (α × β), (∀ entry ∈ done, P entry.2) →
      ∀ entry ∈ entries.foldl (fun done entry => put entry.1 entry.2 done) done, P entry.2 from
    hall [] (by simp)
  induction entries with
  | nil => exact fun _ hdone => hdone
  | cons first rest ih =>
    obtain ⟨hfirst, hrest⟩ := List.forall_mem_cons.mp h
    exact fun done hdone => ih hrest _ (forall_put hfirst hdone)

namespace Json
namespace Value

theorem isWritable_list_iff (items : List Value) :
    (list items).isWritable = true ↔ ∀ v ∈ items, v.isWritable = true := by
  rw [isWritable]
  induction items with
  | nil => simp [isWritableItems]
  | cons v rest ih => simp [isWritableItems, ih]

theorem isWritable_object_iff (fields : List (Text × Value)) :
    (object fields).isWritable = true ↔ ∀ entry ∈ fields, entry.2.isWritable = true := by
  rw [isWritable]
  induction fields with
  | nil => simp [isWritableFields]
  | cons entry rest ih => simp [isWritableFields, ih]

theorem isWritable_of_get? {key : Text} {v w : Value} (h : v.get? key = some w)
    (hv : v.isWritable = true) : w.isWritable = true := by
  cases v with
  | object fields =>
    obtain ⟨entry, hentry, rfl⟩ := List.mem_map.mp (Association.mem_of_find?_eq_some h)
    exact (isWritable_object_iff _).mp hv entry hentry
  | _ => cases h

theorem display_of_isWritable {v : Value} (h : v.isWritable = true) : v.display = .ok v.shown := by
  rw [display, written, if_pos h]
  rfl

theorem isWritable_int {n : Int} (h : n.natAbs < 10 ^ Numeral.digitLimit) :
    (int n).isWritable = true := by
  have hshort : (Text.ofNat n.natAbs).length ≤ Numeral.digitLimit :=
    (Nat.length_toDigits_le_iff (by decide) (by decide)).mpr h
  rw [isWritable, Numeral.write, if_neg (Nat.not_lt.mpr hshort)]
  rfl

end Value

namespace Token

def IsWritable : Token → Prop
  | .value v => v.isWritable = true
  | _ => True

theorem valueOf_lt {digits : Text} (h : ∀ c ∈ digits, c.isDigit = true)
    (hlength : digits.length ≤ Numeral.digitLimit) : valueOf digits < 10 ^ Numeral.digitLimit := by
  have hzero : 0 < 10 ^ 0 := by decide
  have hlt : valueOf digits < 10 ^ (0 + digits.length) := Rule.valueFrom_lt h hzero
  rw [Nat.zero_add] at hlt
  exact hlt.trans_le (Nat.pow_le_pow_right (by decide) hlength)

theorem isDigit_of_mem_digitsOf {t : Text} : ∀ c ∈ digitsOf t, c.isDigit = true :=
  fun c hc => List.all_eq_true.mp List.all_takeWhile c hc

theorem readNumber_isWritable {negative : Bool} {t : Text} {token : Token} {length : Nat}
    (h : readNumber negative t = some (token, length)) : token.IsWritable := by
  unfold readNumber at h
  extract_lets whole afterWhole fraction afterFraction n digits at h
  have hdigits : ∀ c ∈ whole, c.isDigit = true := by
    unfold whole
    split
    · decide
    · exact isDigit_of_mem_digitsOf
  clear_value whole
  split at h
  · cases h
  split at h
  split at h
  · obtain ⟨rfl, -⟩ := Prod.mk.inj (Option.some.inj h)
    split
    · trivial
    · have hlt := valueOf_lt hdigits (by omega)
      refine Value.isWritable_int ?_
      cases negative <;> simpa [n] using hlt
  · obtain ⟨rfl, -⟩ := Prod.mk.inj (Option.some.inj h)
    rfl

theorem words_isWritable : ∀ entry ∈ words, entry.2.isWritable = true := by decide

theorem first_isWritable (position : Nat) (t : Text) : (first position t).1.IsWritable := by
  unfold first
  split <;> try trivial
  · split <;> trivial
  · split
    · rename_i hfind
      exact words_isWritable _ (List.mem_of_find?_eq_some hfind)
    · split
      · split
        · exact readNumber_isWritable ‹_›
        · trivial
      · cases hnumber : readNumber false _ with
        | none => trivial
        | some found => exact readNumber_isWritable hnumber

theorem scanFrom_isWritable (position skip : Nat) (t : Text) :
    ∀ entry ∈ scanFrom position skip t, entry.2.IsWritable := by
  fun_induction scanFrom position skip t with
  | case1 => simp
  | case2 position skip c r ih => exact ih
  | case3 position c r hspace ih => exact ih
  | case4 position c r hspace token length hfirst ih =>
    refine List.forall_mem_cons.mpr ⟨?_, ih⟩
    have htoken := first_isWritable position (c :: r)
    rwa [hfirst] at htoken

end Token

namespace Reader

def Frame.IsWritable : Frame → Prop
  | .list items => ∀ v ∈ items, v.isWritable = true
  | .object fields _ => ∀ entry ∈ fields, entry.2.isWritable = true

def Expected.IsWritable : Expected → Prop
  | .key fields | .colon fields _ => ∀ entry ∈ fields, entry.2.isWritable = true
  | .delimiter v => v.isWritable = true
  | _ => True

theorem list_isWritable {items : List Value} (h : ∀ v ∈ items, v.isWritable = true) :
    (Value.list items.reverse).isWritable = true :=
  (Value.isWritable_list_iff _).mpr fun v hv => h v (List.mem_reverse.mp hv)

theorem objectOf_isWritable {fields : List (Text × Value)}
    (h : ∀ entry ∈ fields, entry.2.isWritable = true) : (objectOf fields).isWritable = true := by
  refine (Value.isWritable_object_iff _).mpr ?_
  refine Association.forall_ofList (P := (Value.isWritable · = true)) ?_
  exact fun entry hentry => h entry (List.mem_reverse.mp hentry)

theorem enter_isWritable {depth : Depth} {container : Container} {stack : List Frame}
    {next : Expected} (h : enter depth container stack = .ok next) : next.IsWritable := by
  unfold enter at h
  split at h
  · cases h
  · cases container <;> cases h <;> trivial

/-- What has been read stays such that it can be written, token by token. -/
theorem run_isWritable {depth : Depth} {finish : Nat} {s : Expected} {stack : List Frame}
    {tokens : List (Nat × Token)} {v : Value} (h : run depth finish s stack tokens = .ok v)
    (hs : s.IsWritable) (hstack : ∀ frame ∈ stack, frame.IsWritable)
    (htokens : ∀ entry ∈ tokens, entry.2.IsWritable) : v.isWritable = true := by
  induction tokens generalizing s stack with
  | nil =>
    cases s with
    | delimiter w =>
      cases stack with
      | nil =>
        obtain rfl := Except.ok.inj h
        exact hs
      | cons frame rest => cases h
    | _ => cases h
  | cons entry rest ih =>
    obtain ⟨position, token⟩ := entry
    obtain ⟨htoken, hrest⟩ := List.forall_mem_cons.mp htokens
    cases s with
    | delimiter w =>
      cases stack with
      | nil => cases h
      | cons frame stack =>
        obtain ⟨hframe, hbelow⟩ := List.forall_mem_cons.mp hstack
        cases frame with
        | list items =>
          have hitems : ∀ item ∈ w :: items, item.isWritable = true :=
            List.forall_mem_cons.mpr ⟨hs, hframe⟩
          unfold run at h
          split at h
          · exact ih h (list_isWritable hitems) hbelow hrest
          · exact ih h trivial (List.forall_mem_cons.mpr ⟨hitems, hbelow⟩) hrest
          · cases h
        | object fields key =>
          have hfields : ∀ entry ∈ (key, w) :: fields, entry.2.isWritable = true :=
            List.forall_mem_cons.mpr ⟨hs, hframe⟩
          unfold run at h
          split at h
          · exact ih h (objectOf_isWritable hfields) hbelow hrest
          · exact ih h hfields hbelow hrest
          · cases h
    | key fields =>
      unfold run at h
      split at h
      · exact ih h hs hstack hrest
      all_goals cases h
    | keyOrEnd =>
      unfold run at h
      split at h
      · exact ih h rfl hstack hrest
      · exact ih h (List.forall_mem_nil _) hstack hrest
      all_goals cases h
    | colon fields key =>
      unfold run at h
      split at h
      · exact ih h trivial (List.forall_mem_cons.mpr ⟨hs, hstack⟩) hrest
      · cases h
    | value =>
      unfold run at h
      split at h
      · obtain ⟨next, hnext, h⟩ := bind_eq_ok_iff.mp h
        exact ih h (enter_isWritable hnext) hstack hrest
      · obtain ⟨next, hnext, h⟩ := bind_eq_ok_iff.mp h
        exact ih h (enter_isWritable hnext) hstack hrest
      · exact ih h rfl hstack hrest
      · exact ih h htoken hstack hrest
      all_goals cases h
    | itemOrEnd =>
      have hopen : ∀ frame ∈ .list [] :: stack, frame.IsWritable :=
        List.forall_mem_cons.mpr ⟨List.forall_mem_nil _, hstack⟩
      unfold run at h
      split at h
      · exact ih h rfl hstack hrest
      · obtain ⟨next, hnext, h⟩ := bind_eq_ok_iff.mp h
        exact ih h (enter_isWritable hnext) hopen hrest
      · obtain ⟨next, hnext, h⟩ := bind_eq_ok_iff.mp h
        exact ih h (enter_isWritable hnext) hopen hrest
      · exact ih h rfl hopen hrest
      · exact ih h htoken hopen hrest
      all_goals cases h

end Reader

theorem read_isWritable {depth : Depth} {t : Text} {v : Value} (h : read depth t = .ok v) :
    v.isWritable = true := by
  unfold read at h
  split at h
  · cases h
  · exact Reader.run_isWritable h trivial (List.forall_mem_nil _) (Token.scanFrom_isWritable 0 0 t)

end Json
end Copybook
