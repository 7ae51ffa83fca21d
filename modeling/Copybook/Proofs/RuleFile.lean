import Copybook.Proofs.Files
import Copybook.Proofs.Table
import Copybook.Proofs.Utf8
import Copybook.Proofs.Writability
import Copybook.Rule.File

/-!
What loading a rule file comes to. It is a store of texts or a problem that is reported, as long as
the path and the bytes can be used, the document stays within the limits, and no row that counts is
short of a value. -/
namespace Copybook
namespace Rule

structure Store.IsClean (s : Store) : Prop where
  categories : ∀ entry ∈ s.categories, entry.1 ≠ none
  names : ∀ entry ∈ s.categories, ∀ rule ∈ entry.2, rule.1 ≠ none
  rules : ∀ entry ∈ s.categories, ∀ rule ∈ entry.2, ∃ text, rule.2 = .text text

structure IsText (category name : Option Text) (rule : Json.Value) : Prop where
  category : category ≠ none
  name : name ≠ none
  rule : ∃ text, rule = .text text

/-- Whether a store is clean depends on what the last rows say. -/
theorem isClean_addAll_iff (group : Json.Value) (rows : List (Option Text × Option Text × Json.Value)) :
    Store.IsClean ((Table.empty group).addAll rows) ↔
      ∀ category name rule, lastRule category name rows = some rule →
        IsText category name rule := by
  have hshows := Table.shows_addAll group rows
  have hdistinct := Table.distinct_addAll group rows
  generalize (Table.empty group).addAll rows = t at *
  constructor
  · intro hclean category name rule hlast
    rw [← hshows.rules] at hlast
    obtain ⟨rules, hcategory, hrule⟩ := (hdistinct.find?_eq_some_iff _ _ _).mp hlast
    exact ⟨hclean.categories _ hcategory, hclean.names _ hcategory _ hrule,
      hclean.rules _ hcategory _ hrule⟩
  · intro h
    have hentries : ∀ entry ∈ t.categories, ∀ rule ∈ entry.2, IsText entry.1 rule.1 rule.2 := by
      intro entry hentry rule hrule
      refine h _ _ _ ?_
      rw [← hshows.rules]
      exact (hdistinct.find?_eq_some_iff _ _ _).mpr ⟨_, hentry, hrule⟩
    refine ⟨?_, fun entry hentry rule hrule => (hentries entry hentry rule hrule).name,
      fun entry hentry rule hrule => (hentries entry hentry rule hrule).rule⟩
    intro entry hentry
    have hkey : entry.1 ∈ t.categories.map (·.1) := List.mem_map_of_mem hentry
    rw [hshows.categories, List.mem_eraseDups] at hkey
    obtain ⟨row, hrow, hcategory⟩ := List.mem_map.mp hkey
    have hsome := (Table.lastRule_isSome_iff row.1 row.2.1 rows).mpr (List.mem_map_of_mem hrow)
    obtain ⟨rule, hlast⟩ := Option.isSome_iff_exists.mp hsome
    rw [← hcategory]
    exact (h _ _ _ hlast).category

def Store.IsFilled (s : Store) : Prop := ∃ group rows,
  s = (Table.empty group).addAll rows ∧ ∀ row ∈ rows, IsText row.1 row.2.1 row.2.2

theorem Store.IsFilled.addAll {s : Store} (h : s.IsFilled)
    {rows : List (Option Text × Option Text × Json.Value)}
    (hrows : ∀ row ∈ rows, IsText row.1 row.2.1 row.2.2) : Store.IsFilled (s.addAll rows) := by
  obtain ⟨group, before, rfl, hbefore⟩ := h
  exact ⟨group, before ++ rows, (Table.addAll_append _ _ _).symm,
    List.forall_mem_append.mpr ⟨hbefore, hrows⟩⟩

theorem Store.IsFilled.isClean {s : Store} (h : s.IsFilled) : s.IsClean := by
  obtain ⟨group, rows, rfl, hrows⟩ := h
  refine (isClean_addAll_iff group rows).mpr ?_
  intro category name rule hlast
  exact hrows _ (Table.mem_of_lastRule hlast)

/-- A store of texts, or a problem with the source or with its content. -/
inductive Clean : Except Failure Store → Prop
  | store {s : Store} : s.IsClean → Clean (.ok s)
  | source (message : Text) : Clean (.error (.problem (.source message)))
  | configuration (message : Text) : Clean (.error (.problem (.configuration message)))

theorem clean_ok_iff (s : Store) : Clean (.ok s) ↔ s.IsClean := by
  refine ⟨?_, .store⟩
  rintro ⟨hclean⟩
  exact hclean

theorem not_clean_fault (fault : Fault) : ¬ Clean (.error (.fault fault)) := by
  intro h
  cases h

namespace File

/-! ### Documents -/

theorem addCategory_eq {rules : List (Text × Json.Value)}
    (h : ∀ entry ∈ rules, entry.2.isWritable = true) (s : Store) (category : Text) :
    addCategory s category rules = .ok (s.addAll (rules.map fun entry =>
      (some category, some entry.1, .text entry.2.shown))) := by
  induction rules generalizing s with
  | nil => rfl
  | cons entry rest ih =>
    obtain ⟨hentry, hrest⟩ := List.forall_mem_cons.mp h
    rw [addCategory, Json.Value.display_of_isWritable hentry]
    exact ih hrest _

theorem addCategory_isFilled {s : Store} (h : s.IsFilled) (category : Text)
    {rules : List (Text × Json.Value)} (hrules : ∀ entry ∈ rules, entry.2.isWritable = true) :
    ∃ t, addCategory s category rules = .ok t ∧ t.IsFilled := by
  refine ⟨_, addCategory_eq hrules s category, h.addAll ?_⟩
  intro row hrow
  obtain ⟨entry, -, rfl⟩ := List.mem_map.mp hrow
  exact ⟨by simp, by simp, _, rfl⟩

theorem ofCategories_clean (path : Path) {s : Store} (h : s.IsFilled)
    {categories : List (Text × Json.Value)}
    (hcategories : ∀ entry ∈ categories, entry.2.isWritable = true) :
    Clean (ofCategories path s categories) := by
  induction categories generalizing s with
  | nil => exact .store h.isClean
  | cons entry rest ih =>
    obtain ⟨category, value⟩ := entry
    obtain ⟨hvalue, hrest⟩ := List.forall_mem_cons.mp hcategories
    cases value with
    | object rules =>
      obtain ⟨t, ht, hfilled⟩ :=
        addCategory_isFilled h category ((Json.Value.isWritable_object_iff _).mp hvalue)
      rw [ofCategories, ht]
      exact ih hfilled hrest
    | _ => exact .configuration _

theorem ofJson_clean_iff (depth : Json.Depth) (path : Path) (document : Text) :
    Clean (ofJson depth path document) ↔
      ∀ failure, Json.read depth document = .error failure → ∃ fault, failure = .malformed fault := by
  unfold ofJson
  cases hread : Json.read depth document with
  | error failure =>
    cases failure with
    | malformed fault =>
      refine iff_of_true (.configuration _) ?_
      rintro _ ⟨⟩
      exact ⟨fault, rfl⟩
    | numeral problem => simpa using not_clean_fault _
    | tooDeep container => simpa using not_clean_fault _
  | ok data =>
    refine iff_of_true ?_ (by simp)
    dsimp only
    split
    · rename_i hcategories
      have hwritable := Json.Value.isWritable_of_get? hcategories (Json.read_isWritable hread)
      exact ofCategories_clean path ⟨_, [], rfl, by simp⟩
        ((Json.Value.isWritable_object_iff _).mp hwritable)
    · exact .configuration _

/-! ### Tables -/

def chosen (group : Json.Value) (header : List Text) (records : List (List Text)) :
    List (Option Text × Option Text × Json.Value) :=
  (records.filter fun record => !record.isEmpty && isChosen group (cell header record "group")).map
    fun record => (cell header record "category", cell header record "name",
      .ofOption (cell header record "rule"))

theorem ofRecords_eq (group : Json.Value) (header : List Text) (records : List (List Text)) :
    ofRecords group header records = (Table.empty group).addAll (chosen group header records) := rfl

/-- What makes a table something else than a store of texts or an invalid file. -/
inductive SpoilsTable (group : Json.Value) (table : Csv.Table) : Prop
  | header : table.overlong = true → table.records = [] → SpoilsTable group table
  | field : table.overlong = true → (∀ column ∈ columns, column ∈ table.records.headD []) →
      SpoilsTable group table
  | row {category name : Option Text} {rule : Json.Value} : table.overlong = false →
      (∀ column ∈ columns, column ∈ table.records.headD []) →
      lastRule category name (chosen group (table.records.headD []) table.records.tail) = some rule →
      ¬ IsText category name rule → SpoilsTable group table

theorem missing_eq_nil_iff (header : List Text) :
    (columns.filter fun column => !header.contains column) = [] ↔
      ∀ column ∈ columns, column ∈ header := by
  simp [List.filter_eq_nil_iff]

theorem ofTable_clean_iff (path : Path) (group : Json.Value) (document : Text) :
    Clean (ofTable path group document) ↔ ¬ SpoilsTable group (Csv.read document.breakLines) := by
  unfold ofTable
  generalize Csv.read document.breakLines = table
  dsimp only
  by_cases hheader : (table.records.isEmpty && table.overlong) = true
  · rw [if_pos hheader]
    obtain ⟨hempty, hover⟩ := by simpa using hheader
    exact iff_of_false (not_clean_fault _) (not_not.mpr (.header hover hempty))
  rw [if_neg hheader]
  cases hmissing : columns.filter fun column => !(table.records.headD []).contains column with
  | cons first others =>
    refine iff_of_true (.configuration _) ?_
    have habsent : ¬ ∀ column ∈ columns, column ∈ table.records.headD [] := by
      rw [← missing_eq_nil_iff, hmissing]
      exact List.cons_ne_nil _ _
    rintro (⟨hover, hempty⟩ | ⟨-, hall⟩ | ⟨-, hall, -, -⟩)
    · exact hheader (by simp [hover, hempty])
    · exact habsent hall
    · exact habsent hall
  | nil =>
    have hall := (missing_eq_nil_iff _).mp hmissing
    by_cases hover : table.overlong = true
    · dsimp only
      rw [if_pos hover]
      exact iff_of_false (not_clean_fault _) (not_not.mpr (.field hover hall))
    · dsimp only
      rw [if_neg hover, clean_ok_iff, ofRecords_eq, isClean_addAll_iff]
      constructor
      · rintro hclean (⟨hover', -⟩ | ⟨hover', -⟩ | ⟨-, -, hlast, hnot⟩)
        · exact hover hover'
        · exact hover hover'
        · exact hnot (hclean _ _ _ hlast)
      · intro hnot category name rule hlast
        by_contra htext
        exact hnot (.row (by simpa using hover) hall hlast htext)

/-! ### Files -/

def IsTable (path : Path) : Prop := path.suffix.lower = (".csv" : Text)

inductive SpoilsDocument (depth : Json.Depth) (path : Path) (group : Json.Value) (document : Text) :
    Prop
  | number {problem : Numeral.Problem} : ¬ IsTable path →
      Json.read depth document = .error (.numeral problem) →
      SpoilsDocument depth path group document
  | nesting {container : Json.Container} : ¬ IsTable path →
      Json.read depth document = .error (.tooDeep container) →
      SpoilsDocument depth path group document
  | table : IsTable path → SpoilsTable group (Csv.read document.breakLines) →
      SpoilsDocument depth path group document

theorem store_of_isTable {path : Path} (h : IsTable path) (depth : Json.Depth) (group : Json.Value)
    (document : Text) : store depth path group document = ofTable path group document := if_pos h

theorem store_of_not_isTable {path : Path} (h : ¬ IsTable path) (depth : Json.Depth)
    (group : Json.Value) (document : Text) :
    store depth path group document = ofJson depth path document := if_neg h

theorem store_clean_iff (depth : Json.Depth) (path : Path) (group : Json.Value) (document : Text) :
    Clean (store depth path group document) ↔ ¬ SpoilsDocument depth path group document := by
  by_cases htable : IsTable path
  · rw [store_of_isTable htable, ofTable_clean_iff, not_iff_not]
    refine ⟨.table htable, ?_⟩
    rintro (⟨hnot, -⟩ | ⟨hnot, -⟩ | ⟨-, hspoils⟩)
    · exact absurd htable hnot
    · exact absurd htable hnot
    · exact hspoils
  · rw [store_of_not_isTable htable, ofJson_clean_iff]
    constructor
    · rintro hread (⟨-, hnumber⟩ | ⟨-, hnesting⟩ | ⟨htable', -⟩)
      · obtain ⟨fault, h⟩ := hread _ hnumber
        cases h
      · obtain ⟨fault, h⟩ := hread _ hnesting
        cases h
      · exact htable htable'
    · intro hnot failure hread
      cases failure with
      | malformed fault => exact ⟨fault, rfl⟩
      | numeral problem => exact absurd (.number htable hread) hnot
      | tooDeep container => exact absurd (.nesting htable hread) hnot

/-- Whether a path cannot be used, or the bytes of its file are those of no text. -/
inductive SpoilsContent (files : Files.Tree) (path : Path) : Prop
  | path : '\x00' ∈ path.toText → SpoilsContent files path
  | bytes {bytes : Bytes} : files.read path = .ok bytes → (∀ t, bytes ≠ Encoding.encodeUtf8 t) →
      SpoilsContent files path

theorem content_of_read {files : Files.Tree} {path : Path} {bytes : Bytes}
    (h : files.read path = .ok bytes) : content files path =
      (Encoding.readAll bytes).mapError fun fault => .fault (.decoding (.undecodable fault)) := by
  rw [content, h]

theorem content_clean_iff {files : Files.Tree} {path : Path} {failure : Failure}
    (h : content files path = .error failure) :
    Clean (.error failure) ↔ ¬ SpoilsContent files path := by
  cases hread : files.read path with
  | error fault =>
    rw [content, hread] at h
    cases fault with
    | trouble trouble name =>
      obtain rfl := Except.error.inj h
      refine iff_of_true (.source _) ?_
      rintro (hnull | ⟨hbytes, -⟩)
      · rw [← Files.Tree.read_nullCharacter_iff files, hread] at hnull
        cases hnull
      · cases hread.symm.trans hbytes
    | nullCharacter =>
      obtain rfl := Except.error.inj h
      have hnull := (Files.Tree.read_nullCharacter_iff files path).mp hread
      exact iff_of_false (not_clean_fault _) (not_not.mpr (.path hnull))
  | ok bytes =>
    rw [content_of_read hread] at h
    cases hbytes : Encoding.readAll bytes with
    | error fault =>
      rw [hbytes] at h
      obtain rfl := Except.error.inj h
      have hnone := (Encoding.readAll_eq_error_iff bytes).mp ⟨fault, hbytes⟩
      exact iff_of_false (not_clean_fault _) (not_not.mpr (.bytes hread hnone))
    | ok document =>
      rw [hbytes] at h
      cases h

theorem not_spoilsContent {files : Files.Tree} {path : Path} {document : Text}
    (h : content files path = .ok document) : ¬ SpoilsContent files path := by
  rintro (hnull | ⟨hread, hnone⟩)
  · rw [content, (Files.Tree.read_nullCharacter_iff files path).mpr hnull] at h
    cases h
  · obtain ⟨fault, hfault⟩ := (Encoding.readAll_eq_error_iff _).mpr hnone
    rw [content_of_read hread, hfault] at h
    cases h

end File

/-- What makes loading end otherwise than with a store of texts or a problem that is reported. -/
inductive Spoils (depth : Json.Depth) (files : Files.Tree) (path : Path) (group : Json.Value) : Prop
  | content : File.SpoilsContent files path → Spoils depth files path group
  | document {document : Text} : File.content files path = .ok document →
      File.SpoilsDocument depth path group document → Spoils depth files path group

theorem load_result (depth : Json.Depth) (files : Files.Tree) (path : Path) (group : Json.Value) :
    (load depth files path group).result =
      File.content files path >>= File.store depth path group := by
  unfold load
  cases File.content files path with
  | error failure => rfl
  | ok document =>
    change _ = File.store depth path group document
    cases hstore : File.store depth path group document <;> simp only [hstore]

theorem load_clean_iff (depth : Json.Depth) (files : Files.Tree) (path : Path) (group : Json.Value) :
    Clean (load depth files path group).result ↔ ¬ Spoils depth files path group := by
  rw [load_result]
  cases hcontent : File.content files path with
  | error failure =>
    change Clean (.error failure) ↔ _
    rw [File.content_clean_iff hcontent, not_iff_not]
    refine ⟨.content, ?_⟩
    rintro (hspoils | ⟨hdocument, -⟩)
    · exact hspoils
    · cases hcontent.symm.trans hdocument
  | ok document =>
    change Clean (File.store depth path group document) ↔ _
    rw [File.store_clean_iff, not_iff_not]
    refine ⟨.document hcontent, ?_⟩
    rintro (hspoils | ⟨hdocument, hspoils⟩)
    · exact absurd hspoils (File.not_spoilsContent hcontent)
    · obtain rfl := Except.ok.inj (hcontent.symm.trans hdocument)
      exact hspoils

/-- A table in Latin-1 with a letter that is no character of UTF-8. -/
def latinTable : Bytes :=
  ("group,category,name,rule\nCOBOL,data-type,UINT," : Text).map (fun c => c.toUInt8) ++ [0xE9, 0x0A]

theorem load_clean_iff_latin :
    ¬ Clean (load ⟨3, by decide⟩ ⟨[], [(["rules.csv"], .file latinTable)]⟩ (.ofText "rules.csv")
      .null).result := by
  have hbytes : Encoding.readAll latinTable =
      .error ⟨"utf-8", [0xE9], 46, "invalid continuation byte"⟩ := by decide +kernel
  rw [load_clean_iff, not_not]
  exact .content (.bytes (by decide) ((Encoding.readAll_eq_error_iff _).mp ⟨_, hbytes⟩))

end Rule
end Copybook
