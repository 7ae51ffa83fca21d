import Copybook.Proofs.Builder
import Copybook.Proofs.Csv
import Copybook.Proofs.Dictionary
import Copybook.Proofs.RuleFile
import Mathlib.Data.Option.Basic

/-!
The same rules in both formats of rule files. A document gives the rules that a builder collects from
the rows of a group. A table of the rows gives those that the rows have without their line breaks, so
that the formats agree on some rows, whatever the group, if and only if no line break counts there. -/
namespace Copybook
namespace Rule

open Text (strike IsUnbroken isUnbroken_strike strike_eq_self_iff)

structure Row where
  group : Text
  category : Text
  name : Text
  rule : Text

namespace Row

def fields (row : Row) : List Text := [row.group, row.category, row.name, row.rule]

/-- A row without the line breaks of its fields. -/
def struck (row : Row) : Row :=
  ⟨strike row.group, strike row.category, strike row.name, strike row.rule⟩

/-- Whether a row is one of a group. All rows are when no group is given, or an empty one. -/
def isOf (group : Option Text) (row : Row) : Bool :=
  (group.getD []).isEmpty || group == some row.group

def ofGroup (group : Option Text) (rows : List Row) : List (Text × Text × Text) :=
  (rows.filter (isOf group)).map fun row => (row.category, row.name, row.rule)

/-- The rules that a builder collects from the rows of a group. -/
def collected (group : Option Text) (rows : List Row) : Table Text Text :=
  let built := ((Builder.new (.ofOption group)).addAll (ofGroup group rows)).build
  built.2.memory.table built.1

theorem collected_eq (group : Option Text) (rows : List Row) :
    collected group rows = (Table.empty (.ofOption group)).addAll (ofGroup group rows) := by
  have hnew := Builder.new_isValid (κ := Text) (ρ := Text) (.ofOption group)
  obtain ⟨hkeeps, htable⟩ := Builder.addAll_spec hnew (ofGroup group rows)
  obtain ⟨-, -, -, -, hbuilt⟩ := Builder.build_spec hkeeps.valid
  exact hbuilt.trans htable

theorem shows_collected (group : Option Text) (rows : List Row) :
    (collected group rows).Shows (ofGroup group rows) := by
  rw [collected_eq]
  exact Table.shows_addAll _ _

theorem distinct_collected (group : Option Text) (rows : List Row) :
    (collected group rows).Distinct := by
  rw [collected_eq]
  exact Table.distinct_addAll _ _

theorem noneEmpty_collected (group : Option Text) (rows : List Row) :
    (collected group rows).NoneEmpty := by
  rw [collected_eq]
  exact Table.noneEmpty_addAll _ _

/-! ### Line breaks that count -/

/-- Whether no line break counts in some rows: neither in a group, a category or a name, nor in a rule
that is not replaced by a later one of a group. -/
structure Survive (rows : List Row) : Prop where
  keys : ∀ row ∈ rows, IsUnbroken row.group ∧ IsUnbroken row.category ∧ IsUnbroken row.name
  rules : ∀ group category name rule, lastRule category name (ofGroup group rows) = some rule →
    IsUnbroken rule

theorem isUnbroken_of_mem_ofGroup_struck {group : Option Text} {rows : List Row}
    {said : Text × Text × Text} (h : said ∈ ofGroup group (rows.map struck)) :
    IsUnbroken said.1 ∧ IsUnbroken said.2.1 ∧ IsUnbroken said.2.2 := by
  obtain ⟨row, hrow, rfl⟩ := List.mem_map.mp h
  obtain ⟨original, -, rfl⟩ := List.mem_map.mp (List.mem_filter.mp hrow).1
  exact ⟨isUnbroken_strike _, isUnbroken_strike _, isUnbroken_strike _⟩

theorem mem_ofGroup {group : Option Text} {rows : List Row} {row : Row} (h : row ∈ rows)
    (hgroup : row.isOf group = true) :
    (row.category, row.name, row.rule) ∈ ofGroup group rows :=
  List.mem_map.mpr ⟨row, List.mem_filter.mpr ⟨h, hgroup⟩, rfl⟩

theorem isOf_group (row : Row) : row.isOf (some row.group) = true := by simp [isOf]

theorem isOf_none (row : Row) : row.isOf none = true := rfl

theorem survive_of_collected {rows : List Row}
    (h : ∀ group, collected group (rows.map struck) = collected group rows) : Survive rows := by
  have hlast : ∀ group category name rule, lastRule category name (ofGroup group rows) = some rule →
      (category, name, rule) ∈ ofGroup group (rows.map struck) := by
    intro group category name rule hrule
    rw [← (shows_collected group rows).rules, ← h, (shows_collected _ _).rules] at hrule
    exact Table.mem_of_lastRule hrule
  -- Each row is one for which some last rule is found.
  have hfound : ∀ group, ∀ row ∈ rows, row.isOf group = true →
      ∃ rule, (row.category, row.name, rule) ∈ ofGroup group (rows.map struck) := by
    intro group row hrow hgroup
    have hpair := List.mem_map_of_mem (f := fun said : Text × Text × Text => (said.1, said.2.1))
      (mem_ofGroup hrow hgroup)
    obtain ⟨rule, hrule⟩ := Option.isSome_iff_exists.mp ((Table.lastRule_isSome_iff _ _ _).mpr hpair)
    exact ⟨rule, hlast _ _ _ _ hrule⟩
  refine ⟨fun row hrow => ?_, fun group category name rule hrule =>
    (isUnbroken_of_mem_ofGroup_struck (hlast group category name rule hrule)).2.2⟩
  obtain ⟨rule, hall⟩ := hfound none row hrow row.isOf_none
  obtain ⟨hcategory, hname, -⟩ := isUnbroken_of_mem_ofGroup_struck hall
  refine ⟨?_, hcategory, hname⟩
  obtain ⟨rule, hown⟩ := hfound (some row.group) row hrow row.isOf_group
  obtain ⟨other, hother, -⟩ := List.mem_map.mp hown
  obtain ⟨hstruck, hsame⟩ := List.mem_filter.mp hother
  obtain ⟨original, -, rfl⟩ := List.mem_map.mp hstruck
  cases hempty : row.group with
  | nil => exact fun c hc => absurd hc List.not_mem_nil
  | cons c rest =>
    have hgroup : row.group = strike original.group := by simpa [isOf, hempty, struck] using hsame
    rw [← hempty, hgroup]
    exact isUnbroken_strike _

theorem ofGroup_struck {rows : List Row} (h : Survive rows) (group : Option Text) :
    ofGroup group (rows.map struck) =
      (ofGroup group rows).map fun said => (id said.1, id said.2.1, strike said.2.2) := by
  have hstruck : ∀ row ∈ rows, row.struck = ⟨row.group, row.category, row.name, strike row.rule⟩ := by
    intro row hrow
    obtain ⟨hgroup, hcategory, hname⟩ := h.keys row hrow
    rw [struck, (strike_eq_self_iff _).mpr hgroup, (strike_eq_self_iff _).mpr hcategory,
      (strike_eq_self_iff _).mpr hname]
  rw [ofGroup, List.map_congr_left hstruck, List.filter_map, List.map_map, ofGroup, List.map_map]
  rfl

theorem collected_struck {rows : List Row} (h : Survive rows) (group : Option Text) :
    collected group (rows.map struck) = collected group rows := by
  have hmap : collected group (rows.map struck) = (collected group rows).map id strike := by
    rw [collected_eq, collected_eq, ofGroup_struck h, Table.map_addAll Function.injective_id]
    rfl
  rw [hmap]
  refine Table.map_eq_self fun entry hentry rule hrule => ?_
  refine (strike_eq_self_iff _).mpr (h.rules group entry.1 rule.1 rule.2 ?_)
  rw [← (shows_collected group rows).rules]
  exact ((distinct_collected group rows).find?_eq_some_iff _ _ _).mpr ⟨_, hentry, hrule⟩

end Row

open Row (collected ofGroup)

def Table.toStore (t : Table Text Text) : Store := t.map some .text

theorem toStore_injective : Function.Injective Table.toStore :=
  Table.map_injective (Option.some_injective _) fun _ _ h => Json.Value.text.inj h

theorem toStore_collected (group : Option Text) (rows : List Row) :
    (collected group rows).toStore = (Table.empty (.ofOption group)).addAll
      ((ofGroup group rows).map fun said => (some said.1, some said.2.1, .text said.2.2)) := by
  rw [Table.toStore, Row.collected_eq, Table.map_addAll (Option.some_injective _)]
  rfl

namespace File

/-! ### Tables -/

/-- The first line of a table of rules, with its names in quotes or without. -/
def header (quoted : Bool) : Text :=
  if quoted then Csv.Reader.quotedRecord columns else Text.join [','] columns

/-- A file that is a table of some rows, all of whose fields stand in quotes. -/
structure HoldsTable (files : Files.Tree) (path : Path) (rows : List Row) : Prop where
  isTable : IsTable path
  bytes : ∃ (layout : Csv.Layout) (quoted : Bool), files.read path = .ok (Encoding.encodeUtf8
    (layout.document (header quoted :: rows.map fun row => Csv.Reader.quotedRecord row.fields)))

theorem run_header (quoted : Bool) {u v : Text}
    (hend : Text.marks false u = none :: Text.marks false v) :
    Csv.Reader.run .recordStart [] [] (Text.marks false (header quoted ++ u)) =
      Csv.Reader.Table.cons columns (Csv.Reader.run .recordStart [] [] (Text.marks false v)) := by
  cases quoted with
  | true =>
    have hfits : ∀ t ∈ columns, Csv.Reader.Fits t := by decide
    exact (Csv.Reader.run_record (.inl rfl) _ _ [] hend).trans (if_pos hfits)
  | false =>
    have hmarks : Text.marks false (header false ++ u) =
        (header false).map some ++ Text.marks false u := rfl
    rw [hmarks, hend]
    rfl

theorem endsOpen_header (quoted : Bool) : Text.EndsOpen (header quoted) := by
  cases quoted with
  | true => exact Csv.endsOpen_quotedRecord (by decide)
  | false => exact ⟨'e', by decide, by decide⟩

theorem read_table (layout : Csv.Layout) (quoted : Bool) (rows : List Row) :
    Csv.read (Text.breakLines (Text.unifyLineEnds (layout.document
        (header quoted :: rows.map fun row => Csv.Reader.quotedRecord row.fields)))) =
      Csv.Reader.Table.cons columns (Csv.Reader.run .recordStart [] [] (Text.marks false
        (((rows.map Row.fields).map Csv.Reader.quotedRecord).flatMap fun line =>
          line ++ layout.lineEnd))) := by
  have hopen : ∀ line ∈ header quoted :: rows.map fun row => Csv.Reader.quotedRecord row.fields,
      Text.EndsOpen line := by
    refine List.forall_mem_cons.mpr ⟨endsOpen_header quoted, fun line hline => ?_⟩
    obtain ⟨row, -, rfl⟩ := List.mem_map.mp hline
    exact Csv.endsOpen_quotedRecord (List.cons_ne_nil _ _)
  rw [layout.read_document (List.cons_ne_nil _ _) hopen, List.flatMap_cons, List.append_assoc,
    run_header quoted (layout.marks_lineEnd _), List.map_map]
  rfl

theorem isChosen_group (group : Option Text) (row : Row) :
    isChosen (.ofOption group) (some row.group) = row.isOf group := by
  cases group with
  | none => rfl
  | some t => simp [isChosen, Json.Value.ofOption, Json.Value.isTruthy, Row.isOf]

theorem chosen_fields (group : Option Text) (rows : List Row) :
    chosen (.ofOption group) columns (rows.map Row.fields) =
      (ofGroup group rows).map fun said => (some said.1, some said.2.1, .text said.2.2) := by
  have hchosen : (fun record : List Text => !record.isEmpty &&
      isChosen (.ofOption group) (cell columns record "group")) ∘ Row.fields = Row.isOf group :=
    funext fun row => isChosen_group group row
  rw [chosen, List.filter_map, hchosen, List.map_map, ofGroup, List.map_map]
  rfl

theorem ofTable_of_read {document : Text} {body : Csv.Table} (path : Path) (group : Json.Value)
    (h : Csv.read document.breakLines = Csv.Reader.Table.cons columns body) :
    ofTable path group document = if body.overlong then .error (.fault .overlongField)
      else .ok ((Table.empty group).addAll (chosen group columns body.records)) := by
  have hnone : (columns.filter fun column => !columns.contains column) = [] :=
    (missing_eq_nil_iff _).mpr fun _ hcolumn => hcolumn
  unfold ofTable
  rw [h]
  simp only [Csv.Reader.Table.cons, List.isEmpty_cons, Bool.false_and, Bool.false_eq_true, if_false,
    List.headD_cons, List.tail_cons, hnone, ofRecords_eq]
  rfl

theorem load_table {files : Files.Tree} {path : Path} {rows : List Row}
    (h : HoldsTable files path rows) (depth : Json.Depth) (group : Option Text) :
    (load depth files path (.ofOption group)).result =
      if ∀ row ∈ rows, ∀ t ∈ row.fields, Csv.Reader.Fits t then
        .ok (collected group (rows.map Row.struck)).toStore
      else .error (.fault .overlongField) := by
  obtain ⟨layout, quoted, hread⟩ := h.bytes
  have hbody := ofTable_of_read path (.ofOption group) (read_table layout quoted rows)
  have hne : ∀ record ∈ rows.map Row.fields, record ≠ [] := by
    intro record hrecord
    obtain ⟨row, -, rfl⟩ := List.mem_map.mp hrecord
    exact List.cons_ne_nil _ _
  have hfields : (∀ record ∈ rows.map Row.fields, ∀ t ∈ record, Csv.Reader.Fits t) ↔
      ∀ row ∈ rows, ∀ t ∈ row.fields, Csv.Reader.Fits t := List.forall_mem_map
  rw [load_result, content_of_read hread, Encoding.readAll_encodeUtf8]
  refine (store_of_isTable h.isTable _ _ _).trans (hbody.trans ?_)
  by_cases hfits : ∀ row ∈ rows, ∀ t ∈ row.fields, Csv.Reader.Fits t
  · have hstruck : (rows.map Row.fields).map (List.map strike) =
        (rows.map Row.struck).map Row.fields := by
      rw [List.map_map, List.map_map]
      rfl
    rw [Csv.Reader.run_lines_of_fits layout.marks_lineEnd hne (hfields.mpr hfits), if_pos hfits,
      hstruck, if_neg Bool.false_ne_true, chosen_fields, ← toStore_collected]
  · rw [Csv.Reader.run_lines_overlong layout.marks_lineEnd hne (mt hfields.mp hfits), if_neg hfits,
      if_pos rfl]

/-! ### Documents -/

def nested (t : Table Text Text) : Json.Value := .object (t.categories.map fun entry =>
  (entry.1, .object (entry.2.map fun rule => (rule.1, .text rule.2))))

/-- A file that is a document with the rules of a table. -/
structure HoldsDocument (depth : Json.Depth) (files : Files.Tree) (path : Path)
    (t : Table Text Text) : Prop where
  isDocument : ¬ IsTable path
  content : ∃ document data, content files path = .ok document ∧
    Json.read depth document = .ok data ∧ data.get? "rules" = some (nested t)

theorem ofCategories_nested (path : Path) (s : Store) (categories : List (Text × List (Text × Text))) :
    ofCategories path s (categories.map fun entry =>
        (entry.1, .object (entry.2.map fun rule => (rule.1, .text rule.2)))) =
      .ok (s.addAll ((categories.flatMap fun entry => entry.2.map fun rule =>
        (entry.1, rule.1, rule.2)).map fun said => (some said.1, some said.2.1, .text said.2.2))) := by
  induction categories generalizing s with
  | nil => rfl
  | cons entry rest ih =>
    have hcategory : addCategory s entry.1 (entry.2.map fun rule => (rule.1, .text rule.2)) =
        .ok (s.addAll ((entry.2.map fun rule => (entry.1, rule.1, rule.2)).map fun said =>
          (some said.1, some said.2.1, .text said.2.2))) := by
      rw [addCategory_eq (List.forall_mem_map.mpr fun _ _ => rfl), List.map_map, List.map_map]
      rfl
    rw [List.map_cons, ofCategories, hcategory, List.flatMap_cons, List.map_append,
      Table.addAll_append]
    exact ih _

theorem load_document {depth : Json.Depth} {files : Files.Tree} {path : Path} {t : Table Text Text}
    (h : HoldsDocument depth files path t) (hdistinct : t.Distinct) (hfull : t.NoneEmpty)
    (group : Json.Value) :
    ∃ s, (load depth files path group).result = .ok s ∧ s.categories = t.toStore.categories := by
  obtain ⟨document, data, hcontent, hread, hrules⟩ := h.content
  have hadded := Table.map_addAll (Option.some_injective Text) Json.Value.text
    (Table.empty ((data.get? "group").getD .null)) t.entries
  rw [Table.addAll_entries hdistinct hfull] at hadded
  refine ⟨_, ?_, (congrArg Table.categories hadded).symm⟩
  rw [load_result, hcontent]
  refine (store_of_not_isTable h.isDocument _ _ _).trans ?_
  have hcategories := ofCategories_nested path (Table.empty ((data.get? "group").getD .null))
    t.categories
  unfold ofJson
  rw [hread]
  dsimp only
  rw [hrules]
  exact hcategories

end File

/-- Whether both formats of rule files give what a builder collects from the rows of a group. -/
def FormatsAgree (depth : Json.Depth) (files : Files.Tree) (path : Path) (group : Option Text)
    (rows : List Row) : Prop :=
  ∃ s, (load depth files path (.ofOption group)).result = .ok s ∧
    s = (collected group rows).toStore ∧
    ∀ others document chosen, File.HoldsDocument depth others document (collected group rows) →
      ∃ t, (load depth others document chosen).result = .ok t ∧ t.categories = s.categories

/-- A table of rows gives the rules that these have without their line breaks, and a document gives
them as they are. So both agree for every group with a builder if and only if the fields of the table
fit and no line break counts. -/
theorem formats_agree_iff {files : Files.Tree} {path : Path} {rows : List Row}
    (h : File.HoldsTable files path rows) (depth : Json.Depth) :
    (∀ group, (load depth files path (.ofOption group)).result =
      if ∀ row ∈ rows, ∀ t ∈ row.fields, Csv.Reader.Fits t then
        .ok (collected group (rows.map Row.struck)).toStore
      else .error (.fault .overlongField)) ∧
    (∀ group others document chosen,
      File.HoldsDocument depth others document (collected group rows) →
      ∃ s, (load depth others document chosen).result = .ok s ∧
        s.categories = (collected group rows).toStore.categories) ∧
    ((∀ group, FormatsAgree depth files path group rows) ↔
      (∀ row ∈ rows, ∀ t ∈ row.fields, Csv.Reader.Fits t) ∧ Row.Survive rows) := by
  have hdocuments : ∀ group others document chosen,
      File.HoldsDocument depth others document (collected group rows) →
        ∃ s, (load depth others document chosen).result = .ok s ∧
          s.categories = (collected group rows).toStore.categories :=
    fun group _ _ chosen hdocument => File.load_document hdocument
      (Row.distinct_collected group rows) (Row.noneEmpty_collected group rows) chosen
  refine ⟨File.load_table h depth, hdocuments, ?_, ?_⟩
  · intro hagree
    have hfits : ∀ row ∈ rows, ∀ t ∈ row.fields, Csv.Reader.Fits t := by
      by_contra hnot
      obtain ⟨s, hload, -⟩ := hagree none
      rw [File.load_table h depth, if_neg hnot] at hload
      cases hload
    refine ⟨hfits, Row.survive_of_collected fun group => ?_⟩
    obtain ⟨s, hload, hs, -⟩ := hagree group
    rw [File.load_table h depth, if_pos hfits, hs] at hload
    exact toStore_injective (Except.ok.inj hload)
  · rintro ⟨hfits, hsurvive⟩ group
    refine ⟨_, ?_, rfl, hdocuments group⟩
    rw [File.load_table h depth, if_pos hfits, Row.collected_struck hsurvive]

/-- A row whose rule goes over two lines, with a table and a document of it. -/
def brokenRow : Row := ⟨"COBOL", "data-type", "UINT", "a\nb"⟩

def brokenFiles : Files.Tree :=
  ⟨[], [(["rules.csv"], .file (Encoding.encodeUtf8
      "group,category,name,rule\n\"COBOL\",\"data-type\",\"UINT\",\"a\nb\"\n")),
    (["rules.json"], .file (Encoding.encodeUtf8
      "\x7b\"rules\": \x7b\"data-type\": \x7b\"UINT\": \"a\\nb\"\x7d\x7d\x7d"))]⟩

theorem formats_agree_iff_broken :
    File.HoldsDocument ⟨3, by decide⟩ brokenFiles (.ofText "rules.json")
      (collected none [brokenRow]) ∧
    ¬ ∀ group, FormatsAgree ⟨3, by decide⟩ brokenFiles (.ofText "rules.csv") group
      [brokenRow] := by
  have hread : File.HoldsTable brokenFiles (.ofText "rules.csv") [brokenRow] :=
    ⟨rfl, ⟨false, true⟩, false, rfl⟩
  have hdocument : File.content brokenFiles (.ofText "rules.json") =
      .ok "\x7b\"rules\": \x7b\"data-type\": \x7b\"UINT\": \"a\\nb\"\x7d\x7d\x7d" := by rfl
  refine ⟨⟨by unfold File.IsTable; decide, _, _, hdocument, rfl, rfl⟩, ?_⟩
  rw [(formats_agree_iff hread _).2.2]
  rintro ⟨-, hsurvive⟩
  exact absurd (hsurvive.rules none "data-type" "UINT" "a\nb" (by decide)) (by decide)

end Rule
end Copybook
