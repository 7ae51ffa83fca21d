import Copybook.Text.Blank

/-!
Trimming and joining texts. Trimming takes away the blanks around a text that has none at its ends,
and no more; parts are joined from left to right. -/
namespace Copybook
namespace Text

/-- What is said of the characters of a text is decided by going through the text, not through all
characters that there are. -/
instance decidableForall {p : Char → Prop} [DecidablePred p] (t : Text) : Decidable (∀ c ∈ t, p c) :=
  List.decidableBAll p t

def BeginsSolid (t : Text) : Prop := ∃ c, t.head? = some c ∧ isBlank c = false

def EndsSolid (t : Text) : Prop := ∃ c, t.getLast? = some c ∧ isBlank c = false

def IsBlankText (t : Text) : Prop := ∀ c ∈ t, isBlank c = true

instance (t : Text) : Decidable (IsBlankText t) :=
  List.decidableBAll (fun c => isBlank c = true) t

def blankCodes : List Nat :=
  [9, 10, 11, 12, 13, 28, 29, 30, 31, 32, 0x85, 0xA0, 0x1680, 0x2000, 0x2001, 0x2002, 0x2003, 0x2004,
   0x2005, 0x2006, 0x2007, 0x2008, 0x2009, 0x200A, 0x2028, 0x2029, 0x202F, 0x205F, 0x3000]

theorem mem_blankCodes {c : Char} (h : isBlank c = true) : c.toNat ∈ blankCodes := by
  simp only [isBlank, Bool.or_eq_true, Bool.and_eq_true, decide_eq_true_eq, beq_iff_eq] at h
  simp only [blankCodes, List.mem_cons, List.not_mem_nil, or_false]
  omega

theorem forall_blank {P : Char → Prop} (h : ∀ n ∈ blankCodes, P (Char.ofNat n)) (c : Char)
    (hc : isBlank c = true) : P c := by
  have hp := h c.toNat (mem_blankCodes hc)
  rwa [Char.ofNat_toNat] at hp

theorem BeginsSolid.ne_nil {t : Text} (h : BeginsSolid t) : t ≠ [] := by
  rintro rfl
  obtain ⟨c, hc, _⟩ := h
  simp at hc

theorem EndsSolid.ne_nil {t : Text} (h : EndsSolid t) : t ≠ [] := by
  rintro rfl
  obtain ⟨c, hc, _⟩ := h
  simp at hc

theorem BeginsSolid.append {t : Text} (h : BeginsSolid t) (u : Text) : BeginsSolid (t ++ u) := by
  obtain ⟨c, hc, hb⟩ := h
  exact ⟨c, by simp [List.head?_append, hc], hb⟩

theorem EndsSolid.append {t : Text} (h : EndsSolid t) (u : Text) : EndsSolid (u ++ t) := by
  obtain ⟨c, hc, hb⟩ := h
  exact ⟨c, by simp [List.getLast?_append, hc], hb⟩

theorem dropEndWhile_append {p : Char → Bool} {t : Text} {c : Char} (hc : t.getLast? = some c)
    (hp : p c = false) (u : Text) : dropEndWhile p (t ++ u) = t ++ dropEndWhile p u := by
  obtain ⟨s, rfl⟩ : ∃ s, t = s ++ [c] := List.getLast?_eq_some_iff.mp hc
  unfold dropEndWhile
  rw [List.reverse_append, List.dropWhile_append]
  split
  · rename_i h
    have hu : u.reverse.dropWhile p = [] := by simpa using h
    simp [hu, hp]
  · simp

theorem dropEndWhile_eq_nil {p : Char → Bool} {t : Text} (h : ∀ c ∈ t, p c = true) :
    dropEndWhile p t = [] := by
  have hd : (t.reverse ++ []).dropWhile p = [].dropWhile p :=
    List.dropWhile_append_of_pos (by intro c hc; exact h c (by simpa using hc))
  simpa [dropEndWhile] using hd

theorem dropEndWhile_prefix (p : Char → Bool) (t : Text) : dropEndWhile p t <+: t := by
  have h := List.dropWhile_suffix p (l := t.reverse)
  simpa [dropEndWhile] using List.reverse_prefix.mpr h

theorem isBlankText_nil : IsBlankText [] := by simp [IsBlankText]

theorem trimStart_append {blanks t : Text} (hb : IsBlankText blanks) (ht : BeginsSolid t) :
    trimStart (blanks ++ t) = t := by
  obtain ⟨c, hc, hs⟩ := ht
  unfold trimStart
  rw [List.dropWhile_append_of_pos hb]
  cases t with
  | nil => simp at hc
  | cons d r =>
    obtain rfl : d = c := by simpa using hc
    simp [List.dropWhile, hs]

theorem trimEnd_append {t blanks : Text} (ht : EndsSolid t) (hb : IsBlankText blanks) :
    trimEnd (t ++ blanks) = t := by
  obtain ⟨c, hc, hs⟩ := ht
  rw [trimEnd, dropEndWhile_append hc hs, dropEndWhile_eq_nil hb, List.append_nil]

theorem trimEnd_append_blanks {blanks : Text} (t : Text) (hb : IsBlankText blanks) :
    trimEnd (t ++ blanks) = trimEnd t := by
  unfold trimEnd dropEndWhile
  rw [List.reverse_append, List.dropWhile_append_of_pos]
  exact fun c hc => hb c (List.mem_reverse.mp hc)

theorem trim_append {before t after : Text} (hbefore : IsBlankText before) (hbegin : BeginsSolid t)
    (hend : EndsSolid t) (hafter : IsBlankText after) : trim (before ++ t ++ after) = t := by
  rw [trim, List.append_assoc, trimStart_append hbefore (hbegin.append after),
    trimEnd_append hend hafter]

theorem trim_eq_self {t : Text} (hbegin : BeginsSolid t) (hend : EndsSolid t) : trim t = t := by
  simpa using trim_append isBlankText_nil hbegin hend isBlankText_nil

theorem trim_of_forall {t : Text} (h : ∀ c ∈ t, isBlank c = false) : trim t = t := by
  cases t with
  | nil => rfl
  | cons c r =>
    obtain ⟨last, hlast⟩ : ∃ last, (c :: r).getLast? = some last :=
      Option.isSome_iff_exists.mp (by simp)
    exact trim_eq_self ⟨c, rfl, h c List.mem_cons_self⟩ ⟨last, hlast, h last (List.mem_of_getLast? hlast)⟩

theorem trim_sublist (t : Text) : t.trim.Sublist t := by
  have hend : t.trim <+: t.trimStart := dropEndWhile_prefix isBlank t.trimStart
  exact hend.sublist.trans (List.dropWhile_suffix isBlank).sublist

theorem mem_of_mem_trim {t : Text} {c : Char} (h : c ∈ t.trim) : c ∈ t := t.trim_sublist.subset h

theorem mem_trim {t : Text} {c : Char} (hc : isBlank c = false) (h : c ∈ t) : c ∈ t.trim := by
  have hkept : ∀ u : Text, c ∈ u → c ∈ u.dropWhile isBlank := by
    intro u hu
    rw [← List.takeWhile_append_dropWhile (p := isBlank) (l := u), List.mem_append] at hu
    refine hu.resolve_left fun hfront => ?_
    have hblank : isBlank c = true := List.all_eq_true.mp List.all_takeWhile c hfront
    rw [hblank] at hc
    cases hc
  rw [trim, trimEnd, dropEndWhile, List.mem_reverse]
  exact hkept _ (List.mem_reverse.mpr (hkept t h))

theorem length_trim_le (t : Text) : t.trim.length ≤ t.length := t.trim_sublist.length_le

theorem getLast?_trim {t : Text} {c : Char} (h : t.getLast? = some c) (hc : isBlank c = false) :
    t.trim.getLast? = some c := by
  obtain ⟨s, rfl⟩ := List.getLast?_eq_some_iff.mp h
  have hstart : ∃ u, trimStart (s ++ [c]) = u ++ [c] := by
    rw [trimStart, List.dropWhile_append]
    split
    · exact ⟨[], by simp [hc]⟩
    · exact ⟨_, rfl⟩
  obtain ⟨u, hu⟩ := hstart
  have hend : trimEnd (u ++ [c] ++ []) = u ++ [c] :=
    trimEnd_append ⟨c, by simp, hc⟩ isBlankText_nil
  rw [List.append_nil] at hend
  rw [trim, hu, hend, List.getLast?_concat]

theorem endsSolid_trimEnd {t : Text} (h : t.trimEnd ≠ []) : EndsSolid t.trimEnd := by
  obtain ⟨c, hc⟩ := Option.isSome_iff_exists.mp (List.getLast?_isSome.mpr h)
  have hhead := List.head?_dropWhile_not isBlank t.reverse
  rw [← List.getLast?_reverse, show (t.reverse.dropWhile isBlank).reverse = t.trimEnd from rfl,
    hc] at hhead
  exact ⟨c, hc, hhead⟩

theorem endsSolid_trim {t : Text} (h : t.trim ≠ []) : EndsSolid t.trim := endsSolid_trimEnd h

theorem beginsSolid_trim {t : Text} (h : t.trim ≠ []) : BeginsSolid t.trim := by
  obtain ⟨more, hmore⟩ : t.trim <+: t.trimStart := dropEndWhile_prefix isBlank t.trimStart
  obtain ⟨c, hc⟩ := Option.isSome_iff_exists.mp (List.isSome_head?.mpr h)
  have hstart : t.trimStart.head? = some c := by simp [← hmore, List.head?_append, hc]
  have hhead := List.head?_dropWhile_not isBlank t
  rw [← trimStart, hstart] at hhead
  exact ⟨c, hc, hhead⟩

theorem trim_trim (t : Text) : t.trim.trim = t.trim := by
  by_cases h : t.trim = []
  · rw [h]
    rfl
  · exact trim_eq_self (beginsSolid_trim h) (endsSolid_trim h)

theorem length_le_flatMap {α : Type} {f : α → Text} {a : α} {parts : List α} (h : a ∈ parts) :
    (f a).length ≤ (parts.flatMap f).length := by
  rw [List.flatMap_def]
  exact (List.sublist_flatten_of_mem (List.mem_map_of_mem h)).length_le

theorem join_concat (separator part next : Text) (parts : List Text) :
    join separator (parts ++ [part] ++ [next]) =
      join separator (parts ++ [part]) ++ separator ++ next := by
  induction parts with
  | nil => simp [join]
  | cons first parts ih => cases parts <;> simp_all [join]

theorem join_append_last (separator part more : Text) (parts : List Text) :
    join separator (parts ++ [part ++ more]) = join separator (parts ++ [part]) ++ more := by
  induction parts with
  | nil => simp [join]
  | cons first parts ih => cases parts <;> simp_all [join]

theorem join_ends (separator part : Text) (parts : List Text) :
    ∃ front, join separator (parts ++ [part]) = front ++ part := by
  refine ⟨join separator (parts ++ [[]]), ?_⟩
  simpa using join_append_last separator [] part parts

theorem join_begins (separator part : Text) (parts : List Text) :
    ∃ more, Text.join separator (part :: parts) = part ++ more := by
  cases parts with
  | nil => exact ⟨[], (List.append_nil part).symm⟩
  | cons next others => exact ⟨_, List.append_assoc _ _ _⟩

theorem mem_join {separator : Text} {parts : List Text} {c : Char}
    (h : c ∈ Text.join separator parts) : c ∈ separator ∨ ∃ part ∈ parts, c ∈ part := by
  induction parts with
  | nil => cases h
  | cons part rest ih =>
    cases rest with
    | nil => exact .inr ⟨part, List.mem_cons_self, h⟩
    | cons next others =>
      rw [Text.join, List.mem_append, List.mem_append] at h
      rcases h with (h | h) | h
      · exact .inr ⟨part, List.mem_cons_self, h⟩
      · exact .inl h
      · rcases ih h with h | ⟨other, hother, h⟩
        · exact .inl h
        · exact .inr ⟨other, List.mem_cons_of_mem _ hother, h⟩

end Text
end Copybook
