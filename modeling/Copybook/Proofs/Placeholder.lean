import Copybook.Proofs.Association
import Copybook.Rule.Template
import Mathlib.Data.List.Infix

/-!
Placeholders and their values. Keys are substituted one after the other, and still every placeholder
of a template gets its value as if all were filled at once, in whatever order the keys come: between
two placeholders there stands a character that is in no key, so that no percent sign is taken for the
beginning of a placeholder that it ends. -/
namespace Copybook
namespace Rule

/-- A part of a template: text, or a placeholder by its name. -/
inductive Segment
  | plain (t : Text) (h : '%' ∉ t)
  | slot (key : Text) (h : '%' ∉ key)

namespace Segment

def text : Segment → Text
  | plain t _ => t
  | slot key _ => placeholder key

/-- A segment with the value in the place of its placeholder, if there is one. -/
def filled (values : List (Text × Text)) : Segment → Text
  | plain t _ => t
  | slot key _ => (Association.find? key values).getD (placeholder key)

/-- Whether the value that a segment takes, if any, brings no percent sign. -/
def Suits (values : List (Text × Text)) : Segment → Prop
  | plain _ _ => True
  | slot key _ => ∀ value, Association.find? key values = some value → '%' ∉ value

theorem Suits.of_append {done values : List (Text × Text)} {s : Segment}
    (h : s.Suits (done ++ values)) : s.Suits done := by
  cases s with
  | plain t ht => trivial
  | slot key hkey =>
    intro value hfound
    apply h
    rw [Association.find?_append, hfound, Option.some_or]

end Segment

def isForeign (keys : List Text) (c : Char) : Bool := keys.all fun key => !key.contains c

/-- Whether a character that is in no key stands between every placeholder and the next one; `apart`
says that there has been one since the last placeholder, or that there has been no placeholder. -/
def separated (keys : List Text) : Bool → List Segment → Bool
  | _, [] => true
  | apart, .plain t _ :: rest => separated keys (apart || t.any (isForeign keys)) rest
  | apart, .slot _ _ :: rest => apart && separated keys false rest

/-- Values under keys that are distinct, all without percent signs. -/
structure IsMapping (values : List (Text × Text)) : Prop where
  distinct : (values.map (·.1)).Nodup
  keys : ∀ entry ∈ values, '%' ∉ entry.1
  values : ∀ entry ∈ values, '%' ∉ entry.2

/-! ### Going through a text -/

section

variable {key value t : Text}

theorem replaceFrom_skip (old new t u : Text) :
    Text.replaceFrom old new t.length (t ++ u) = Text.replaceAll old new u := by
  induction t with
  | nil => rfl
  | cons c t ih => exact ih

theorem replaceAll_plain (h : '%' ∉ t) (u : Text) :
    Text.replaceAll (placeholder key) value (t ++ u) =
      t ++ Text.replaceAll (placeholder key) value u := by
  induction t with
  | nil => rfl
  | cons c t ih =>
    obtain ⟨hc, ht⟩ := not_or.mp (mt List.mem_cons.mpr h)
    have hstart : ¬ (placeholder key).isPrefixOf (c :: (t ++ u)) = true := by
      simp [placeholder, hc]
    rw [List.cons_append, Text.replaceAll, Text.replaceFrom, if_neg hstart]
    exact congrArg (c :: ·) (ih ht)

theorem replaceAll_slot (key value u : Text) :
    Text.replaceAll (placeholder key) value (placeholder key ++ u) =
      value ++ Text.replaceAll (placeholder key) value u := by
  have hstart : (placeholder key).isPrefixOf ('%' :: (key ++ ['%'] ++ u)) = true :=
    List.isPrefixOf_iff_prefix.mpr ⟨u, rfl⟩
  have hskip := replaceFrom_skip (placeholder key) value (key ++ ['%']) u
  change Text.replaceFrom (placeholder key) value 0 ('%' :: (key ++ ['%'] ++ u)) = _
  rw [Text.replaceFrom, if_pos hstart, ← hskip]
  rfl

theorem replaceAll_sign {u : Text} (h : ¬ key ++ ['%'] <+: u) :
    Text.replaceAll (placeholder key) value ('%' :: u) =
      '%' :: Text.replaceAll (placeholder key) value u := by
  have hstart : ¬ (placeholder key).isPrefixOf ('%' :: u) = true := by
    rw [List.isPrefixOf_iff_prefix]
    rintro ⟨more, hmore⟩
    exact h ⟨more, (List.cons.inj hmore).2⟩
  rw [Text.replaceAll, Text.replaceFrom, if_neg hstart]
  rfl

theorem isPrefix_of_sign {part u : Text} (ht : '%' ∉ t) (h : part ++ ['%'] <+: t ++ u) :
    t <+: part := by
  rcases List.prefix_or_prefix_of_prefix h (List.prefix_append t u) with hshort | hlong
  · exact absurd (hshort.subset (by simp)) ht
  · rcases List.prefix_concat_iff.mp hlong with rfl | hpart
    · exact absurd (by simp) ht
    · exact hpart

theorem eq_of_sign {other u : Text} (hkey : '%' ∉ key) (hother : '%' ∉ other)
    (h : key ++ ['%'] <+: other ++ ('%' :: u)) : key = other := by
  obtain ⟨rest, rfl⟩ := isPrefix_of_sign hother h
  rw [List.append_assoc, List.prefix_append_right_inj] at h
  cases rest with
  | nil => exact List.append_nil other
  | cons c rest =>
    obtain rfl : c = '%' := (List.cons_prefix_cons.mp h).1
    exact absurd (by simp) hkey

end

/-! ### Going through a template -/

section

variable {keys : List Text} {done : List (Text × Text)} {segments : List Segment}

/-- Behind a placeholder no part of a key is followed by a percent sign. -/
theorem not_sign_of_separated (hseparated : separated keys false segments = true)
    (done : List (Text × Text)) {part : Text} (hpart : ∀ c ∈ part, isForeign keys c = false) :
    ¬ part ++ ['%'] <+: segments.flatMap (Segment.filled done) := by
  induction segments generalizing part with
  | nil => simp
  | cons s rest ih =>
    cases s with
    | slot other hother => cases hseparated
    | plain t ht =>
      intro hprefix
      rw [List.flatMap_cons, Segment.filled] at hprefix
      obtain ⟨later, rfl⟩ := isPrefix_of_sign ht hprefix
      obtain ⟨hfront, hlater⟩ := List.forall_mem_append.mp hpart
      have hnone : t.any (isForeign keys) = false := List.any_eq_false.mpr (by simpa using hfront)
      rw [separated, hnone, Bool.or_false] at hseparated
      rw [List.append_assoc, List.prefix_append_right_inj] at hprefix
      exact ih hseparated hlater hprefix

/-- One more key is substituted in the placeholders of that name, and nowhere else. -/
theorem replaceAll_filled {apart : Bool} (hseparated : separated keys apart segments = true)
    (hsuits : ∀ s ∈ segments, s.Suits done) {key : Text} (value : Text) (hmem : key ∈ keys)
    (hplain : '%' ∉ key) :
    Text.replaceAll (placeholder key) value (segments.flatMap (Segment.filled done)) =
      segments.flatMap (Segment.filled (done ++ [(key, value)])) := by
  induction segments generalizing apart with
  | nil => rfl
  | cons s rest ih =>
    obtain ⟨hfirst, hlater⟩ := List.forall_mem_cons.mp hsuits
    rw [List.flatMap_cons, List.flatMap_cons]
    cases s with
    | plain t ht =>
      rw [separated] at hseparated
      rw [Segment.filled, replaceAll_plain ht, ih hseparated hlater]
      rfl
    | slot other hother =>
      obtain ⟨-, hrest⟩ := (Bool.and_eq_true _ _).mp hseparated
      rw [Segment.filled, Segment.filled, Association.find?_append]
      cases hfound : Association.find? other done with
      | some held =>
        rw [Option.getD_some, replaceAll_plain (hfirst held hfound), ih hrest hlater]
        rfl
      | none =>
        by_cases hsame : key = other
        · subst hsame
          rw [Option.getD_none, replaceAll_slot, ih hrest hlater]
          simp [Association.find?]
        · have hforeign : ∀ c ∈ key, isForeign keys c = false := by
            intro c hc
            rw [isForeign, List.all_eq_false]
            exact ⟨key, hmem, by simpa using hc⟩
          have hopens : ¬ key ++ ['%'] <+:
              other ++ ('%' :: rest.flatMap (Segment.filled done)) :=
            fun h => hsame (eq_of_sign hplain hother h)
          have hcloses := not_sign_of_separated hrest done hforeign
          have htext : placeholder other ++ rest.flatMap (Segment.filled done) =
              '%' :: (other ++ ('%' :: rest.flatMap (Segment.filled done))) := by
            simp [placeholder]
          rw [Option.getD_none, htext, replaceAll_sign hopens, replaceAll_plain hother,
            replaceAll_sign hcloses, ih hrest hlater]
          simp [Association.find?, hsame, placeholder]

theorem substitute_filled {apart : Bool} (hseparated : separated keys apart segments = true)
    {values : List (Text × Text)} (hkeys : ∀ entry ∈ values, entry.1 ∈ keys ∧ '%' ∉ entry.1)
    (hdistinct : ((done ++ values).map (·.1)).Nodup)
    (hsuits : ∀ s ∈ segments, s.Suits (done ++ values)) :
    substitute values (segments.flatMap (Segment.filled done)) =
      segments.flatMap (Segment.filled (done ++ values)) := by
  induction values generalizing done with
  | nil => rw [List.append_nil, substitute, List.foldl_nil]
  | cons entry rest ih =>
    obtain ⟨⟨hmem, hplain⟩, hlater⟩ := List.forall_mem_cons.mp hkeys
    have hfirst : ∀ s ∈ segments, s.Suits done := fun s hs => (hsuits s hs).of_append
    have happend : done ++ entry :: rest = (done ++ [(entry.1, entry.2)]) ++ rest := by simp
    rw [happend] at hdistinct hsuits ⊢
    rw [substitute, List.foldl_cons, replaceAll_filled hseparated hfirst entry.2 hmem hplain]
    exact ih hlater hdistinct hsuits

end

theorem flatMap_text (segments : List Segment) :
    segments.flatMap Segment.text = segments.flatMap (Segment.filled []) := by
  have htext : ∀ s : Segment, s.text = s.filled [] := by
    intro s
    cases s <;> rfl
  rw [funext htext]

theorem IsMapping.suits {values : List (Text × Text)} (h : IsMapping values) (s : Segment) :
    s.Suits values := by
  cases s with
  | plain t ht => trivial
  | slot key hkey =>
    intro value hfound
    obtain ⟨entry, hentry, rfl⟩ := List.mem_map.mp (Association.mem_of_find?_eq_some hfound)
    exact h.values entry hentry

theorem IsMapping.perm {values order : List (Text × Text)} (h : IsMapping values)
    (horder : order.Perm values) : IsMapping order where
  distinct := (horder.map _).nodup_iff.mpr h.distinct
  keys := fun entry hentry => h.keys entry (horder.mem_iff.mp hentry)
  values := fun entry hentry => h.values entry (horder.mem_iff.mp hentry)

theorem filled_perm {values order : List (Text × Text)} (h : IsMapping values)
    (horder : order.Perm values) (s : Segment) : s.filled order = s.filled values := by
  cases s with
  | plain t ht => rfl
  | slot key hkey => rw [Segment.filled, Segment.filled, Association.find?_perm horder h.distinct]

/-- Whatever order the keys come in, every placeholder with a key is replaced by its value, and
everything else is left as it is. -/
theorem substitute_segments {values order : List (Text × Text)} (hvalues : IsMapping values)
    (horder : order.Perm values) {segments : List Segment}
    (hseparated : separated (values.map (·.1)) true segments = true) :
    substitute order (segments.flatMap Segment.text) =
      segments.flatMap (Segment.filled values) := by
  have hmapping := hvalues.perm horder
  have hkeys : ∀ entry ∈ order, entry.1 ∈ values.map (·.1) ∧ '%' ∉ entry.1 := fun entry hentry =>
    ⟨List.mem_map_of_mem (horder.mem_iff.mp hentry), hmapping.keys entry hentry⟩
  have hfilled : substitute order (segments.flatMap (Segment.filled [])) =
      segments.flatMap (Segment.filled order) :=
    substitute_filled hseparated hkeys hmapping.distinct fun s _ => hmapping.suits s
  rw [flatMap_text, hfilled, funext (filled_perm hvalues horder)]

def sampleValues : List (Text × Text) := [("size", "12"), ("scale", ""), ("usage", "COMP-3")]

/-- An empty value brings texts together, and one placeholder has no key. -/
def sampleSegments : List Segment :=
  [.plain "scale" (by decide), .slot "size" (by decide), .plain ";" (by decide),
    .slot "scale" (by decide), .plain "-size" (by decide), .slot "prefix" (by decide),
    .plain "usage" (by decide)]

theorem substitute_segments_sample :
    IsMapping sampleValues ∧ sampleValues.reverse.Perm sampleValues ∧
      separated (sampleValues.map (·.1)) true sampleSegments = true ∧
      sampleSegments.flatMap Segment.text = "scale%size%;%scale%-size%prefix%usage" ∧
      substitute sampleValues.reverse "scale%size%;%scale%-size%prefix%usage" =
        "scale12;-size%prefix%usage" := by
  have hvalues : IsMapping sampleValues := ⟨by decide, by decide, by decide⟩
  have horder : sampleValues.reverse.Perm sampleValues := List.reverse_perm _
  have hseparated : separated (sampleValues.map (·.1)) true sampleSegments = true := by decide
  exact ⟨hvalues, horder, hseparated, by decide, substitute_segments hvalues horder hseparated⟩

end Rule
end Copybook
