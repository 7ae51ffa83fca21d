import Copybook.Proofs.Escape
import Copybook.Proofs.Text
import Copybook.Proofs.Utf8
import Copybook.Proofs.Writability

/-!
JSON documents. A value without numbers is read back from its document, on one line or indented, as
long as its containers are not nested beyond the limit of the reader. -/
namespace Copybook
namespace Json

/-- Values without numbers, whose containers are nested at most as deep as a number says. In no
object a key stands twice. -/
inductive IsPlain : Nat → Value → Prop
  | null {n : Nat} : IsPlain n .null
  | bool {n : Nat} (b : Bool) : IsPlain n (.bool b)
  | text {n : Nat} (t : Text) : IsPlain n (.text t)
  | list {n : Nat} {items : List Value} : (∀ v ∈ items, IsPlain n v) → IsPlain (n + 1) (.list items)
  | object {n : Nat} {fields : List (Text × Value)} : (fields.map (·.1)).Nodup →
      (∀ entry ∈ fields, IsPlain n entry.2) → IsPlain (n + 1) (.object fields)

theorem IsPlain.isWritable {n : Nat} {v : Value} (h : IsPlain n v) : v.isWritable = true := by
  induction h with
  | null | bool | text => rfl
  | list _ ih => exact (Value.isWritable_list_iff _).mpr ih
  | object _ _ ih => exact (Value.isWritable_object_iff _).mpr ih

namespace Token

def IsBlank (t : Text) : Prop := ∀ c ∈ t, c = ' ' ∨ c = '\n'

instance (t : Text) : Decidable (IsBlank t) :=
  inferInstanceAs (Decidable (∀ c ∈ t, c = ' ' ∨ c = '\n'))

theorem scanFrom_skip (used rest : Text) (position : Nat) :
    scanFrom position used.length (used ++ rest) = scanFrom (position + used.length) 0 rest := by
  induction used generalizing position with
  | nil => rfl
  | cons c r ih =>
    rw [List.cons_append, List.length_cons, scanFrom, ih]
    congr 1
    omega

theorem scanFrom_blank {blanks : Text} (h : IsBlank blanks) (rest : Text) (position : Nat) :
    scanFrom position 0 (blanks ++ rest) = scanFrom (position + blanks.length) 0 rest := by
  induction blanks generalizing position with
  | nil => rfl
  | cons c r ih =>
    obtain ⟨hc, hr⟩ := List.forall_mem_cons.mp h
    have hspace : isSpace c = true := by
      rcases hc with rfl | rfl <;> rfl
    rw [List.cons_append, scanFrom, if_pos hspace, ih hr, List.length_cons]
    congr 1
    omega

theorem scanFrom_word {c : Char} {word rest : Text} {token : Token} {position : Nat}
    (hc : isSpace c = false)
    (h : first position (c :: word ++ rest) = (token, (c :: word).length)) :
    scanFrom position 0 (c :: word ++ rest) =
      (position, token) :: scanFrom (position + (c :: word).length) 0 rest := by
  have hskip := scanFrom_skip word rest (position + 1)
  rw [List.cons_append] at h ⊢
  rw [scanFrom, if_neg (by simp [hc]), h]
  simp only [List.length_cons, Nat.add_sub_cancel]
  rw [hskip]
  congr 2
  omega

/-- A text that is one token, whatever follows it. -/
def IsWord (word : Text) (token : Token) : Prop := ∀ position rest, ∃ position',
  scanFrom position 0 (word ++ rest) = (position, token) :: scanFrom position' 0 rest

theorem isWord_text (t : Text) : IsWord (Writer.text t) (.text t) := fun _ rest =>
  ⟨_, scanFrom_word (by decide) (first_text t rest)⟩

theorem isWord_null : IsWord "null" (.value .null) := fun _ _ => ⟨_, scanFrom_word (by decide) rfl⟩

theorem isWord_bool (b : Bool) : IsWord (Writer.scalar (.bool b)) (.value (.bool b)) := by
  intro _ _
  cases b <;> exact ⟨_, scanFrom_word (by decide) rfl⟩

def sign : Mark → Char
  | .openList => '['
  | .closeList => ']'
  | .openObject => '\x7b'
  | .closeObject => '\x7d'
  | .comma => ','
  | .colon => ':'

theorem isWord_mark (m : Mark) : IsWord [sign m] (.mark m) := by
  intro _ _
  cases m <;> exact ⟨_, rfl⟩

/-- A text with which an item of a list may begin. -/
def Opens (t : Text) : Prop := ∃ word token more,
  t = word ++ more ∧ IsWord word token ∧ token ≠ .mark .closeList

theorem IsWord.opens {word : Text} {token : Token} (h : IsWord word token)
    (hne : token ≠ .mark .closeList) : Opens word :=
  ⟨word, token, [], (List.append_nil word).symm, h, hne⟩

theorem Opens.append {t : Text} (h : Opens t) (u : Text) : Opens (t ++ u) := by
  obtain ⟨word, token, more, rfl, hword, hne⟩ := h
  exact ⟨word, token, more ++ u, List.append_assoc _ _ _, hword, hne⟩

end Token

namespace Reader

open Token (scanFrom)

variable {room : Depth}

/-- Reading goes over a text from one state to another, wherever the text stands. -/
def Leads (room : Depth) (s : Expected) (stack : List Frame) (t : Text) (s' : Expected)
    (stack' : List Frame) : Prop :=
  ∀ finish position rest, ∃ position',
    run room finish s stack (scanFrom position 0 (t ++ rest)) =
      run room finish s' stack' (scanFrom position' 0 rest)

variable {s s' s'' : Expected} {stack stack' stack'' : List Frame} {t u : Text}

theorem Leads.trans (h : Leads room s stack t s' stack') (h' : Leads room s' stack' u s'' stack'') :
    Leads room s stack (t ++ u) s'' stack'' := by
  intro finish position rest
  obtain ⟨middle, hfirst⟩ := h finish position (u ++ rest)
  obtain ⟨position', hsecond⟩ := h' finish middle rest
  exact ⟨position', by rw [List.append_assoc, hfirst, hsecond]⟩

theorem leads_blank (h : Token.IsBlank t) : Leads room s stack t s stack := fun _ position rest =>
  ⟨position + t.length, by rw [Token.scanFrom_blank h]⟩

theorem leads_word {token : Token} (h : Token.IsWord t token)
    (hstep : ∀ finish position rest,
      run room finish s stack ((position, token) :: rest) = run room finish s' stack' rest) :
    Leads room s stack t s' stack' := by
  intro finish position rest
  obtain ⟨position', hscan⟩ := h position rest
  exact ⟨position', by rw [hscan, hstep]⟩

theorem run_itemOrEnd {finish position : Nat} {token : Token} {rest : List (Nat × Token)}
    (h : token ≠ .mark .closeList) :
    run room finish .itemOrEnd stack ((position, token) :: rest) =
      run room finish .value (.list [] :: stack) ((position, token) :: rest) := by
  cases token with
  | mark m =>
    cases m with
    | closeList => exact absurd rfl h
    | _ => rfl
  | _ => rfl

theorem leads_item (hopens : Token.Opens t)
    (h : Leads room .value (.list [] :: stack) t s' stack') :
    Leads room .itemOrEnd stack t s' stack' := by
  intro finish position rest
  obtain ⟨position', hrun⟩ := h finish position rest
  obtain ⟨word, token, more, rfl, hword, hne⟩ := hopens
  obtain ⟨middle, hscan⟩ := hword position (more ++ rest)
  refine ⟨position', ?_⟩
  rw [List.append_assoc, hscan] at hrun ⊢
  rw [run_itemOrEnd hne, hrun]

theorem leads_openList (h : stack.length < room.limit) :
    Leads room .value stack ['['] .itemOrEnd stack := by
  refine leads_word (Token.isWord_mark .openList) fun _ _ _ => ?_
  rw [run, enter, if_neg (by omega)]
  rfl

theorem leads_openObject (h : stack.length < room.limit) :
    Leads room .value stack ['\x7b'] .keyOrEnd stack := by
  refine leads_word (Token.isWord_mark .openObject) fun _ _ _ => ?_
  rw [run, enter, if_neg (by omega)]
  rfl

/-! ### Items and fields -/

variable {indent : Option Text} {depth : Nat} {between after : Text}

theorem leads_items {items : List Value} (hne : items ≠ []) (hbetween : Token.IsBlank between)
    (hafter : Token.IsBlank after)
    (hitems : ∀ v ∈ items, ∀ done, Leads room .value (.list done :: stack)
      (Writer.value indent depth v) (.delimiter v) (.list done :: stack)) (done : List Value) :
    Leads room .value (.list done :: stack)
      (Text.join (',' :: between) (Writer.listItems indent depth items) ++ (after ++ [']']))
      (.delimiter (.list (done.reverse ++ items))) stack := by
  induction items generalizing done with
  | nil => exact absurd rfl hne
  | cons v rest ih =>
    obtain ⟨hv, hrest⟩ := List.forall_mem_cons.mp hitems
    cases rest with
    | nil =>
      have hclose : Leads room (.delimiter v) (.list done :: stack) [']']
          (.delimiter (.list (done.reverse ++ [v]))) stack := by
        refine leads_word (Token.isWord_mark .closeList) fun _ _ _ => ?_
        rw [run, List.reverse_cons]
      exact (hv done).trans ((leads_blank hafter).trans hclose)
    | cons w others =>
      have hcomma : Leads room (.delimiter v) (.list done :: stack) [','] .value
          (.list (v :: done) :: stack) :=
        leads_word (Token.isWord_mark .comma) fun _ _ _ => rfl
      have hlater := ih (by simp) hrest (v :: done)
      have hall := (hv done).trans (hcomma.trans ((leads_blank hbetween).trans hlater))
      simpa [Writer.listItems, Text.join] using hall

theorem leads_field {fields : List (Text × Value)} {entry : Text × Value}
    (hkey : ∀ key, Leads room s stack (Writer.text key) (.colon fields key) stack)
    (hvalue : Leads room .value (.object fields entry.1 :: stack)
      (Writer.value indent depth entry.2) (.delimiter entry.2) (.object fields entry.1 :: stack)) :
    Leads room s stack (Writer.text entry.1 ++ ": " ++ Writer.value indent depth entry.2)
      (.delimiter entry.2) (.object fields entry.1 :: stack) := by
  have hcolon : Leads room (.colon fields entry.1) stack [':'] .value
      (.object fields entry.1 :: stack) :=
    leads_word (Token.isWord_mark .colon) fun _ _ _ => rfl
  have hblank : Leads room .value (.object fields entry.1 :: stack) [' '] .value
      (.object fields entry.1 :: stack) := leads_blank (by decide)
  have hall := (hkey entry.1).trans (hcolon.trans (hblank.trans hvalue))
  simpa using hall

theorem leads_fields {fields : List (Text × Value)} (hne : fields ≠ [])
    (hbetween : Token.IsBlank between) (hafter : Token.IsBlank after)
    (hfields : ∀ entry ∈ fields, ∀ done, Leads room .value (.object done entry.1 :: stack)
      (Writer.value indent depth entry.2) (.delimiter entry.2) (.object done entry.1 :: stack))
    (done : List (Text × Value))
    (hkey : ∀ key, Leads room s stack (Writer.text key) (.colon done key) stack) :
    Leads room s stack
      (Text.join (',' :: between) (Writer.objectItems indent depth fields) ++ (after ++ ['\x7d']))
      (.delimiter (objectOf (fields.reverse ++ done))) stack := by
  induction fields generalizing done s with
  | nil => exact absurd rfl hne
  | cons entry rest ih =>
    obtain ⟨hentry, hrest⟩ := List.forall_mem_cons.mp hfields
    have hfield := leads_field hkey (hentry done)
    cases rest with
    | nil =>
      have hclose : Leads room (.delimiter entry.2) (.object done entry.1 :: stack) ['\x7d']
          (.delimiter (objectOf (entry :: done))) stack :=
        leads_word (Token.isWord_mark .closeObject) fun _ _ _ => rfl
      exact hfield.trans ((leads_blank hafter).trans hclose)
    | cons next others =>
      have hcomma : Leads room (.delimiter entry.2) (.object done entry.1 :: stack) [',']
          (.key (entry :: done)) stack := leads_word (Token.isWord_mark .comma) fun _ _ _ => rfl
      have hkeys : ∀ key, Leads room (.key (entry :: done)) stack (Writer.text key)
          (.colon (entry :: done) key) stack := fun key =>
        leads_word (Token.isWord_text key) fun _ _ _ => rfl
      have hlater := ih (by simp) hrest (entry :: done) hkeys
      have hall := hfield.trans (hcomma.trans ((leads_blank hbetween).trans hlater))
      simpa [Writer.objectItems, Text.join] using hall

/-! ### Values -/

/-- Whether documents stand on one line or are indented by blanks. -/
def IsIndent (indent : Option Text) : Prop := ∀ unit, indent = some unit → Token.IsBlank unit

theorem listItems_eq (indent : Option Text) (depth : Nat) (items : List Value) :
    Writer.listItems indent depth items = items.map (Writer.value indent depth) := by
  induction items with
  | nil => rfl
  | cons v rest ih => rw [Writer.listItems, ih, List.map_cons]

theorem objectItems_eq (indent : Option Text) (depth : Nat) (fields : List (Text × Value)) :
    Writer.objectItems indent depth fields =
      fields.map fun entry => Writer.text entry.1 ++ ": " ++ Writer.value indent depth entry.2 := by
  induction fields with
  | nil => rfl
  | cons entry rest ih => rw [Writer.objectItems, ih, List.map_cons]

theorem isBlank_newLine {unit : Text} (h : Token.IsBlank unit) (depth : Nat) :
    Token.IsBlank (Writer.newLine unit depth) := by
  intro c hc
  rcases List.mem_cons.mp hc with rfl | hc
  · decide
  · obtain ⟨part, hpart, hc⟩ := List.mem_flatten.mp hc
    rw [List.eq_of_mem_replicate hpart] at hc
    exact h c hc

theorem enclose_eq (hindent : IsIndent indent) (depth : Nat) {items : List Text} (hne : items ≠ [])
    (first last : Char) : ∃ before between after,
      Token.IsBlank before ∧ Token.IsBlank between ∧ Token.IsBlank after ∧
        Writer.enclose indent depth first last items =
          [first] ++ (before ++ (Text.join (',' :: between) items ++ (after ++ [last]))) := by
  have hfull : ¬ items.isEmpty = true := by simpa using hne
  cases indent with
  | none =>
    refine ⟨[], [' '], [], by decide, by decide, by decide, ?_⟩
    rw [Writer.enclose, if_neg hfull]
    simp
  | some unit =>
    have hunit := hindent unit rfl
    refine ⟨_, _, _, isBlank_newLine hunit (depth + 1), isBlank_newLine hunit (depth + 1),
      isBlank_newLine hunit depth, ?_⟩
    rw [Writer.enclose, if_neg hfull]
    simp

theorem enclose_begins (indent : Option Text) (depth : Nat) (first last : Char) (items : List Text) :
    ∃ more, Writer.enclose indent depth first last items = [first] ++ more := by
  unfold Writer.enclose
  by_cases hempty : items.isEmpty = true
  · rw [if_pos hempty]
    exact ⟨[last], rfl⟩
  · rw [if_neg hempty]
    cases indent with
    | none => exact ⟨_, List.append_assoc _ _ _⟩
    | some unit =>
      simp only [List.append_assoc]
      exact ⟨_, rfl⟩

theorem opens_value {n : Nat} {v : Value} (h : IsPlain n v) (indent : Option Text) (depth : Nat) :
    Token.Opens (Writer.value indent depth v) := by
  cases h with
  | null => exact Token.isWord_null.opens (by simp)
  | bool b => exact (Token.isWord_bool b).opens (by simp)
  | text t => exact (Token.isWord_text t).opens (by simp)
  | @list n items =>
    obtain ⟨more, heq⟩ :=
      enclose_begins indent depth '[' ']' (Writer.listItems indent (depth + 1) items)
    rw [Writer.value, heq]
    exact ((Token.isWord_mark .openList).opens (by simp)).append more
  | @object n fields =>
    obtain ⟨more, heq⟩ :=
      enclose_begins indent depth '\x7b' '\x7d' (Writer.objectItems indent (depth + 1) fields)
    rw [Writer.value, heq]
    exact ((Token.isWord_mark .openObject).opens (by simp)).append more

theorem opens_items {n : Nat} {items : List Value} (hne : items ≠ [])
    (h : ∀ v ∈ items, IsPlain n v) (indent : Option Text) (depth : Nat) (separator rest : Text) :
    Token.Opens (Text.join separator (Writer.listItems indent depth items) ++ rest) := by
  cases items with
  | nil => exact absurd rfl hne
  | cons v others =>
    obtain ⟨more, heq⟩ := Text.join_begins separator (Writer.value indent depth v)
      (Writer.listItems indent depth others)
    rw [Writer.listItems, heq]
    exact ((opens_value (h v List.mem_cons_self) indent depth).append more).append rest

theorem leads_list {items : List Value} (hindent : IsIndent indent)
    (hstack : stack.length < room.limit)
    (hopens : items ≠ [] → ∀ separator rest, Token.Opens
      (Text.join separator (Writer.listItems indent (depth + 1) items) ++ rest))
    (hitems : ∀ v ∈ items, ∀ done, Leads room .value (.list done :: stack)
      (Writer.value indent (depth + 1) v) (.delimiter v) (.list done :: stack)) :
    Leads room .value stack (Writer.value indent depth (.list items)) (.delimiter (.list items))
      stack := by
  have hopen := leads_openList hstack
  by_cases hne : items = []
  · subst hne
    have hclose : Leads room .itemOrEnd stack [']'] (.delimiter (.list [])) stack :=
      leads_word (Token.isWord_mark .closeList) fun _ _ _ => rfl
    exact hopen.trans hclose
  · have hwritten : Writer.listItems indent (depth + 1) items ≠ [] := by
      simpa [listItems_eq] using hne
    obtain ⟨before, between, after, hbefore, hbetween, hafter, heq⟩ :=
      enclose_eq hindent depth hwritten '[' ']'
    have hall := leads_items hne hbetween hafter hitems []
    rw [Writer.value, heq]
    exact hopen.trans ((leads_blank hbefore).trans (leads_item (hopens hne _ _) hall))

theorem leads_object {fields : List (Text × Value)} (hindent : IsIndent indent)
    (hstack : stack.length < room.limit) (hkeys : (fields.map (·.1)).Nodup)
    (hfields : ∀ entry ∈ fields, ∀ done, Leads room .value (.object done entry.1 :: stack)
      (Writer.value indent (depth + 1) entry.2) (.delimiter entry.2)
      (.object done entry.1 :: stack)) :
    Leads room .value stack (Writer.value indent depth (.object fields))
      (.delimiter (.object fields)) stack := by
  have hopen := leads_openObject hstack
  by_cases hne : fields = []
  · subst hne
    have hclose : Leads room .keyOrEnd stack ['\x7d'] (.delimiter (.object [])) stack :=
      leads_word (Token.isWord_mark .closeObject) fun _ _ _ => rfl
    exact hopen.trans hclose
  · have hwritten : Writer.objectItems indent (depth + 1) fields ≠ [] := by
      simpa [objectItems_eq] using hne
    obtain ⟨before, between, after, hbefore, hbetween, hafter, heq⟩ :=
      enclose_eq hindent depth hwritten '\x7b' '\x7d'
    have hkey : ∀ key, Leads room .keyOrEnd stack (Writer.text key) (.colon [] key) stack :=
      fun key => leads_word (Token.isWord_text key) fun _ _ _ => rfl
    have hall := leads_fields hne hbetween hafter hfields [] hkey
    rw [List.append_nil, objectOf, List.reverse_reverse, Association.ofList_eq_self hkeys] at hall
    rw [Writer.value, heq]
    exact hopen.trans ((leads_blank hbefore).trans hall)

theorem leads_value {n : Nat} {v : Value} (h : IsPlain n v) (hindent : IsIndent indent)
    (depth : Nat) (stack : List Frame) (hstack : stack.length + n ≤ room.limit) :
    Leads room .value stack (Writer.value indent depth v) (.delimiter v) stack := by
  induction h generalizing depth stack with
  | null => exact leads_word Token.isWord_null fun _ _ _ => rfl
  | bool b => exact leads_word (Token.isWord_bool b) fun _ _ _ => rfl
  | text t => exact leads_word (Token.isWord_text t) fun _ _ _ => rfl
  | list hplain ih =>
    refine leads_list hindent (by omega) (fun hne => opens_items hne hplain _ _) ?_
    intro v hv done
    exact ih v hv _ _ (by rw [List.length_cons]; omega)
  | object hkeys _ ih =>
    refine leads_object hindent (by omega) hkeys ?_
    intro entry hentry done
    exact ih entry hentry _ _ (by rw [List.length_cons]; omega)

end Reader

open Token (IsBasic)

/-! ### Documents -/

theorem isBasic_of_mem_blank {t : Text} (h : Token.IsBlank t) {c : Char} (hc : c ∈ t) :
    IsBasic c := by
  rcases h c hc with rfl | rfl <;> decide

theorem isBasic_of_mem_enclose {indent : Option Text} (hindent : Reader.IsIndent indent)
    {depth : Nat} {first last c : Char} {items : List Text} (hfirst : IsBasic first)
    (hlast : IsBasic last) (hitems : ∀ item ∈ items, ∀ c ∈ item, IsBasic c)
    (h : c ∈ Writer.enclose indent depth first last items) : IsBasic c := by
  by_cases hne : items = []
  · subst hne
    have hends : c = first ∨ c = last := by simpa [Writer.enclose] using h
    rcases hends with rfl | rfl
    · exact hfirst
    · exact hlast
  obtain ⟨before, between, after, hbefore, hbetween, hafter, heq⟩ :=
    Reader.enclose_eq hindent depth hne first last
  rw [heq] at h
  simp only [List.mem_append, List.mem_singleton] at h
  rcases h with rfl | h | h | h | rfl
  · exact hfirst
  · exact isBasic_of_mem_blank hbefore h
  · rcases Text.mem_join h with h | ⟨item, hitem, h⟩
    · rcases List.mem_cons.mp h with rfl | h
      · decide
      · exact isBasic_of_mem_blank hbetween h
    · exact hitems item hitem c h
  · exact isBasic_of_mem_blank hafter h
  · exact hlast

theorem isBasic_of_mem_value {indent : Option Text} (hindent : Reader.IsIndent indent) {n : Nat}
    {v : Value} (hv : IsPlain n v) (depth : Nat) {c : Char} (h : c ∈ Writer.value indent depth v) :
    IsBasic c := by
  induction hv generalizing depth c with
  | null =>
    have hword : ∀ d ∈ Writer.scalar .null, IsBasic d := by decide
    exact hword c h
  | bool b =>
    have hword : ∀ d ∈ Writer.scalar (.bool b), IsBasic d := by cases b <;> decide
    exact hword c h
  | text t => exact Token.isBasic_of_mem_text h
  | list _ ih =>
    rw [Writer.value, Reader.listItems_eq] at h
    refine isBasic_of_mem_enclose hindent (by decide) (by decide) ?_ h
    intro item hitem d hd
    obtain ⟨v, hv, rfl⟩ := List.mem_map.mp hitem
    exact ih v hv _ hd
  | object _ _ ih =>
    rw [Writer.value, Reader.objectItems_eq] at h
    refine isBasic_of_mem_enclose hindent (by decide) (by decide) ?_ h
    intro item hitem d hd
    obtain ⟨entry, hentry, rfl⟩ := List.mem_map.mp hitem
    rcases List.mem_append.mp hd with hd | hd
    · rcases List.mem_append.mp hd with hd | hd
      · exact Token.isBasic_of_mem_text hd
      · have hcolon : ∀ d ∈ (": " : Text), IsBasic d := by decide
        exact hcolon d hd
    · exact ih entry hentry _ hd

theorem read_write {n : Nat} {v : Value} {indent : Option Text} (h : IsPlain n v)
    {room : Depth} (hn : n ≤ room.limit) (hindent : Reader.IsIndent indent) :
    read room (write indent v) = .ok v := by
  have hlead := Reader.leads_value h hindent 0 [] (by simpa using hn)
  obtain ⟨position, hrun⟩ := hlead (write indent v).length 0 []
  have hbasic : ∀ c ∈ write indent v, IsBasic c := fun c => isBasic_of_mem_value hindent h 0
  unfold read
  split
  · rename_i rest heq
    exact absurd (hbasic '\uFEFF' (by rw [heq]; exact List.mem_cons_self)) (by decide)
  · rw [Token.scan]
    rw [List.append_nil] at hrun
    exact hrun

theorem readAll_basic {t : Text} (h : ∀ c ∈ t, IsBasic c) :
    Encoding.readAll (Encoding.encodeUtf8 t) = .ok t := by
  rw [Encoding.readAll_encodeUtf8, Text.unifyLineEnds_eq_self]
  intro hreturn
  exact (h '\r' hreturn).2 rfl

end Json
end Copybook
