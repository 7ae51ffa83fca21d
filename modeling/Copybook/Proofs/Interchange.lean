import Copybook.Proofs.Csv
import Copybook.Proofs.Filling

/-!
Tables as they are interchanged. A document of comma-separated values has a common form, whoever writes
it, and there is only one table that it stands for. Both exports of a type table have that form, however
their lines end, and stand for that table. -/
namespace Copybook
namespace Csv
namespace Interchange

/-! ### The common form -/

def IsLineEnd (lineEnd : Text) : Prop := lineEnd = ['\n'] ∨ lineEnd = ['\r', '\n']

instance (lineEnd : Text) : Decidable (IsLineEnd lineEnd) := inferInstanceAs (Decidable (_ ∨ _))

def isReserved (c : Char) : Bool := c = ',' || c = '"' || c = '\n' || c = '\r'

/-- How a field is written: bare, or in quotes, with each quote in it doubled. -/
inductive Field : Text → Text → Prop
  | bare {t : Text} : (∀ c ∈ t, isReserved c = false) → Field t t
  | quoted (t : Text) : Field ('"' :: (Reader.doubled t ++ ['"'])) t

/-- How a record is written: its fields with commas between them. -/
inductive Record : Text → List Text → Prop
  | single {written t : Text} : Field written t → Record written [t]
  | cons {written t more : Text} {fields : List Text} : Field written t → Record more fields →
      Record (written ++ ',' :: more) (t :: fields)

/-- How records are written: each with a line end behind it, which may be missing at the very end. -/
inductive Document : Text → List (List Text) → Prop
  | nil : Document [] []
  | last {written : Text} {fields : List Text} : Record written fields → written ≠ [] →
      Document written [fields]
  | line {written lineEnd rest : Text} {fields : List Text} {records : List (List Text)} :
      Record written fields → IsLineEnd lineEnd → Document rest records →
      Document (written ++ (lineEnd ++ rest)) (fields :: records)

/-- The place reached in a document: the start of a record, the start of a field behind a comma, a bare
field, a quoted field, a quote in a quoted field, or a carriage return behind a record. -/
inductive Place
  | recordStart | fieldStart | bare | quoted | quote | returned
  deriving DecidableEq, Repr

/-- Reads on from a place. The field and the fields before it are kept backwards. What does not fit is
refused. -/
def scan : Place → Text → List Text → Text → Option (List (List Text))
  | .recordStart, _, _, [] => some []
  | .quoted, _, _, [] => none
  | .returned, _, _, [] => none
  | _, field, fields, [] => some [(field.reverse :: fields).reverse]
  | .quoted, field, fields, c :: r =>
    if c = '"' then scan .quote field fields r else scan .quoted (c :: field) fields r
  | .returned, _, fields, c :: r =>
    if c = '\n' then (scan .recordStart [] [] r).map (fields.reverse :: ·) else none
  | place, field, fields, c :: r =>
    if c = ',' then scan .fieldStart [] (field.reverse :: fields) r
    else if c = '\n' then
      (scan .recordStart [] [] r).map ((field.reverse :: fields).reverse :: ·)
    else if c = '\r' then scan .returned [] (field.reverse :: fields) r
    else if c = '"' then
      match place with
      | .bare => none
      | .quote => scan .quoted (c :: field) fields r
      | _ => scan .quoted field fields r
    else if place = .quote then none
    else scan .bare (c :: field) fields r

def parse? (t : Text) : Option (List (List Text)) := scan .recordStart [] [] t

/-! ### Reading what has been written -/

def EndsField (rest : Text) : Prop :=
  rest = [] ∨ ∃ c r, rest = c :: r ∧ (c = ',' ∨ c = '\n' ∨ c = '\r')

theorem IsLineEnd.endsField {lineEnd : Text} (h : IsLineEnd lineEnd) (rest : Text) :
    EndsField (lineEnd ++ rest) := by
  rcases h with rfl | rfl
  · exact .inr ⟨'\n', rest, rfl, .inr (.inl rfl)⟩
  · exact .inr ⟨'\r', '\n' :: rest, rfl, .inr (.inr rfl)⟩

/-- Behind a field it does not matter how it was written. -/
theorem scan_end {rest : Text} (h : EndsField rest) {place : Place}
    (hplace : place = .quote ∨ place = .fieldStart ∨ place = .recordStart ∧ rest ≠ [])
    (field : Text) (fields : List Text) :
    scan place field fields rest = scan .bare field fields rest := by
  rcases h with rfl | ⟨c, r, rfl, hc⟩
  · rcases hplace with rfl | rfl | ⟨-, hne⟩
    · rfl
    · rfl
    · exact absurd rfl hne
  · rcases hplace with rfl | rfl | ⟨rfl, -⟩ <;> rcases hc with rfl | rfl | rfl <;> rfl

theorem scan_doubled (t field : Text) (fields : List Text) (rest : Text) :
    scan .quoted field fields (Reader.doubled t ++ '"' :: rest) =
      scan .quote (t.reverse ++ field) fields rest := by
  induction t generalizing field with
  | nil => rfl
  | cons c r ih =>
    by_cases hc : c = '"'
    · subst hc
      have hpair : scan .quoted field fields ('"' :: '"' :: (Reader.doubled r ++ '"' :: rest)) =
          scan .quoted ('"' :: field) fields (Reader.doubled r ++ '"' :: rest) := rfl
      have hdoubled : Reader.doubled ('"' :: r) ++ '"' :: rest =
          '"' :: '"' :: (Reader.doubled r ++ '"' :: rest) := by
        simp [Reader.doubled]
      rw [hdoubled, hpair, ih]
      simp
    · have hdoubled : Reader.doubled (c :: r) ++ '"' :: rest =
          c :: (Reader.doubled r ++ '"' :: rest) := by
        simp [Reader.doubled, hc]
      rw [hdoubled, scan, if_neg hc, ih]
      simp

theorem scan_unreserved {c : Char} (hc : isReserved c = false) {place : Place}
    (hplace : place = .bare ∨ place = .fieldStart ∨ place = .recordStart) (field : Text)
    (fields : List Text) (rest : Text) :
    scan place field fields (c :: rest) = scan .bare (c :: field) fields rest := by
  simp only [isReserved, Bool.or_eq_false_iff, decide_eq_false_iff_not] at hc
  obtain ⟨⟨⟨hcomma, hquote⟩, hfeed⟩, hreturn⟩ := hc
  rcases hplace with rfl | rfl | rfl <;> simp [scan, hcomma, hquote, hfeed, hreturn]

theorem scan_bare {t : Text} (h : ∀ c ∈ t, isReserved c = false) (field : Text) (fields : List Text)
    (rest : Text) : scan .bare field fields (t ++ rest) = scan .bare (t.reverse ++ field) fields rest := by
  induction t generalizing field with
  | nil => rfl
  | cons c r ih =>
    obtain ⟨hc, hr⟩ := List.forall_mem_cons.mp h
    rw [List.cons_append, scan_unreserved hc (.inl rfl), ih hr]
    simp

theorem scan_field {written t rest : Text} (h : Field written t) (hrest : EndsField rest)
    {place : Place} (hplace : place = .fieldStart ∨ place = .recordStart ∧ written ++ rest ≠ [])
    (fields : List Text) :
    scan place [] fields (written ++ rest) = scan .bare t.reverse fields rest := by
  cases h with
  | quoted t =>
    have hopen : scan place [] fields ('"' :: (Reader.doubled t ++ '"' :: rest)) =
        scan .quoted [] fields (Reader.doubled t ++ '"' :: rest) := by
      rcases hplace with rfl | ⟨rfl, -⟩ <;> rfl
    have hwritten : ('"' :: (Reader.doubled t ++ ['"'])) ++ rest =
        '"' :: (Reader.doubled t ++ '"' :: rest) := by simp
    rw [hwritten, hopen, scan_doubled, List.append_nil, scan_end hrest (.inl rfl)]
  | bare hbare =>
    cases written with
    | nil => exact scan_end hrest (.inr hplace) [] fields
    | cons c r =>
      obtain ⟨hc, hr⟩ := List.forall_mem_cons.mp hbare
      rw [List.cons_append, scan_unreserved hc (.inr (hplace.imp_right And.left)), scan_bare hr,
        List.reverse_cons]

theorem scan_record {written rest : Text} {fields : List Text} (h : Record written fields)
    (hrest : EndsField rest) (finish : List Text → Option (List (List Text)))
    (hfinish : ∀ t done, scan .bare (List.reverse t) done rest = finish (done.reverse ++ [t]))
    {place : Place} (hplace : place = .fieldStart ∨ place = .recordStart ∧ written ++ rest ≠ [])
    (done : List Text) : scan place [] done (written ++ rest) = finish (done.reverse ++ fields) := by
  induction h generalizing place done with
  | single hfield => rw [scan_field hfield hrest hplace, hfinish]
  | @cons written t more fields hfield _ ih =>
    have hcomma : EndsField (',' :: (more ++ rest)) := .inr ⟨',', _, rfl, .inl rfl⟩
    have hnext : scan .bare t.reverse done (',' :: (more ++ rest)) =
        scan .fieldStart [] (t :: done) (more ++ rest) := by
      rw [scan, if_pos rfl, List.reverse_reverse]
    rw [List.append_assoc, List.cons_append] at hplace ⊢
    rw [scan_field hfield hcomma hplace, hnext, ih (.inl rfl), List.reverse_cons, List.append_assoc,
      List.singleton_append]

theorem scan_lineEnd {lineEnd : Text} (h : IsLineEnd lineEnd) (rest t : Text) (done : List Text) :
    scan .bare (List.reverse t) done (lineEnd ++ rest) =
      (parse? rest).map ((done.reverse ++ [t]) :: ·) := by
  rcases h with rfl | rfl <;> simp [scan, parse?]

/-- A document is read as the records that it stands for. -/
theorem parse?_of_document {text : Text} {records : List (List Text)} (h : Document text records) :
    parse? text = some records := by
  induction h with
  | nil => rfl
  | @last written fields hrecord hne =>
    have hall := scan_record hrecord (.inl rfl) (fun fields => some [fields])
      (fun t done => by simp [scan]) (.inr ⟨rfl, by simpa using hne⟩) []
    simpa [parse?] using hall
  | @line written lineEnd rest fields records hrecord hend _ ih =>
    have hne : written ++ (lineEnd ++ rest) ≠ [] := by
      rcases hend with rfl | rfl <;> simp
    have hall := scan_record hrecord (hend.endsField rest)
      (fun fields => (parse? rest).map (fields :: ·)) (scan_lineEnd hend rest) (.inr ⟨rfl, hne⟩) []
    rw [parse?, hall, ih]
    rfl

example : parse? "a,\"b\"\"c\"\r\n\"\n\"" =
    (some [["a", "b\"c"], ["\n"]] : Option (List (List Text))) := by decide

/-! ### What the writer writes -/

/-- A bare field may hold a carriage return when only line feeds end lines, and then it could not be
told from a line end. -/
theorem field_writer {lineEnd : Text} (hend : IsLineEnd lineEnd) {t : Text}
    (ht : '\r' ∈ t → '\r' ∈ lineEnd) : Field (Writer.field lineEnd t) t := by
  unfold Writer.field
  split
  · exact .quoted t
  · rename_i hplain
    refine .bare fun c hc => ?_
    have hspecial : Writer.isSpecial lineEnd c = false := by
      by_contra h
      exact hplain (List.any_eq_true.mpr ⟨c, hc, by simpa using h⟩)
    simp only [Writer.isSpecial, Bool.or_eq_false_iff, decide_eq_false_iff_not,
      List.contains_eq_mem] at hspecial
    obtain ⟨⟨hcomma, hquote⟩, hlast⟩ := hspecial
    have hfeed : c ≠ '\n' := by
      rintro rfl
      rcases hend with rfl | rfl <;> simp at hlast
    have hreturn : c ≠ '\r' := by
      rintro rfl
      exact hlast (ht hc)
    simp [isReserved, hcomma, hquote, hfeed, hreturn]

theorem record_writer {lineEnd : Text} (hend : IsLineEnd lineEnd) {fields : List Text}
    (hne : fields ≠ []) (hfields : ∀ t ∈ fields, '\r' ∈ t → '\r' ∈ lineEnd) :
    ∃ written, Writer.record lineEnd fields = written ++ lineEnd ∧ Record written fields := by
  -- an empty field that is alone is quoted, so that its line is not empty
  by_cases halone : fields = [[]]
  · subst halone
    exact ⟨"\"\"", rfl, .single (.quoted [])⟩
  · refine ⟨Text.join [','] (fields.map (Writer.field lineEnd)), ?_, ?_⟩
    · unfold Writer.record
      split
      · exact absurd rfl halone
      · rfl
    · clear halone
      induction fields with
      | nil => exact absurd rfl hne
      | cons t rest ih =>
        obtain ⟨ht, hrest⟩ := List.forall_mem_cons.mp hfields
        cases rest with
        | nil => exact .single (field_writer hend ht)
        | cons next others =>
          have hlater := ih (List.cons_ne_nil _ _) hrest
          simpa [Text.join] using Record.cons (field_writer hend ht) hlater

theorem document_write {lineEnd : Text} (hend : IsLineEnd lineEnd) {records : List (List Text)}
    (hne : ∀ fields ∈ records, fields ≠ [])
    (hfields : ∀ fields ∈ records, ∀ t ∈ fields, '\r' ∈ t → '\r' ∈ lineEnd) :
    Document (write lineEnd records) records := by
  induction records with
  | nil => exact .nil
  | cons fields rest ih =>
    obtain ⟨hfirst, hlater⟩ := List.forall_mem_cons.mp hne
    obtain ⟨hfield, hrest⟩ := List.forall_mem_cons.mp hfields
    obtain ⟨written, hwritten, hrecord⟩ := record_writer hend hfirst hfield
    rw [write, List.flatMap_cons, hwritten, List.append_assoc]
    exact .line hrecord hend (ih hlater hrest)

end Interchange
end Csv

namespace TypeTable

open Csv.Interchange

/-- A type table as records: the columns, and the texts of each row. -/
def records (t : TypeTable) : List (List Text) := t.columns :: t.rows.map fun row => row.map (·.2)

theorem records_filled {columns : List Text} (hcolumns : columns.Nodup) (values : List TypeRow) :
    (∀ row ∈ (filled columns values).rows, row.map (·.1) = columns) ∧
      (filled columns values).records =
        columns :: (filled columns values).rows.map (cells columns) := by
  have hlength : ∀ row, columns.length = (cells columns row).length := by simp [cells]
  refine ⟨fun row hrow => ?_, ?_⟩
  · rw [eq_zip_of_nodup hcolumns hrow]
    exact List.map_fst_zip (Nat.le_of_eq (hlength row))
  · have htexts : ∀ row ∈ (filled columns values).rows, row.map (·.2) = cells columns row := by
      intro row hrow
      have hzip := congrArg (List.map (·.2)) (eq_zip_of_nodup hcolumns hrow)
      rwa [List.map_snd_zip (Nat.le_of_eq (hlength row).symm)] at hzip
    rw [records, List.map_congr_left htexts, filled_eq]

theorem document_exported {lineEnd : Text} (hend : IsLineEnd lineEnd) (values : List TypeRow)
    (hcells : ∀ row ∈ (filled usualColumns values).rows, ∀ entry ∈ row,
      '\r' ∈ entry.2 → '\r' ∈ lineEnd) :
    Document ((filled usualColumns values).exported lineEnd).text
      (filled usualColumns values).records := by
  have hcolumns : (filled usualColumns values).columns = usualColumns := by rw [filled_eq]
  rw [text_exported (strangers_exported_filled _ _ _), hcolumns,
    (records_filled (by decide) values).2]
  refine document_write hend ?_ ?_
  · refine List.forall_mem_cons.mpr ⟨by decide, fun fields hfields => ?_⟩
    obtain ⟨row, -, rfl⟩ := List.mem_map.mp hfields
    exact List.cons_ne_nil _ _
  · have hnames : ∀ name ∈ usualColumns, '\r' ∉ name := by decide
    refine List.forall_mem_cons.mpr
      ⟨fun name hname h => absurd h (hnames name hname), fun fields hfields text htext => ?_⟩
    obtain ⟨row, hrow, rfl⟩ := List.mem_map.mp hfields
    obtain ⟨entry, hentry, rfl⟩ := mem_of_mem_cells hrow htext
    exact hcells row hrow entry hentry

/-- Both exports of a table under the usual columns can be made of all its rows, and each is read as the
columns and the texts of the rows. With plain line feeds the texts have to be without carriage returns;
what is written to a file has line ends that no text is confused with. -/
theorem exports_parse (values : List TypeRow) :
    let t := filled usualColumns values
    (∀ row ∈ t.rows, row.map (·.1) = usualColumns) ∧
    ((∀ row ∈ t.rows, ∀ entry ∈ row, '\r' ∉ entry.2) →
      ∃ text, Output.typesText t = .ok text ∧
        parse? text = some t.records) ∧
    ∃ text, parse? text = some t.records ∧
      ∀ files path, Output.writeTypes files path t = Output.write files path text none ∧
        ((Output.writeTypes files path t).fault = none →
          (Output.writeTypes files path t).files.read path = .ok (Encoding.encodeUtf8 text)) := by
  intro t
  have hstrangers := strangers_exported_filled usualColumns values
  refine ⟨(records_filled (by decide) values).1, fun hcells => ?_, ?_⟩
  · refine ⟨(t.exported ['\n']).text, ?_, parse?_of_document
      (document_exported (.inl rfl) values fun row hrow entry hentry h =>
        absurd h (hcells row hrow entry hentry))⟩
    simp [Output.typesText, Output.strangerFault, t, hstrangers]
  · refine ⟨(t.exported ['\r', '\n']).text, parse?_of_document
      (document_exported (.inr rfl) values fun _ _ _ _ _ => List.mem_cons_self), fun files path => ?_⟩
    have hwrite : Output.writeTypes files path t =
        Output.write files path (t.exported ['\r', '\n']).text none := by
      simp [Output.writeTypes, Output.strangerFault, t, hstrangers]
    refine ⟨hwrite, fun hfault => ?_⟩
    rw [hwrite] at hfault ⊢
    exact Output.read_write hfault

def quotedValues : List TypeRow := [[("attribute", "A,B"), ("declaration", "\"9(5)\"\n")]]

theorem exports_parse_quoted :
    (∀ row ∈ (filled usualColumns quotedValues).rows, ∀ entry ∈ row, '\r' ∉ entry.2) ∧
      ∃ text, Output.typesText (filled usualColumns quotedValues) = .ok text ∧
        parse? text = some [usualColumns, ["A,B", "\"9(5)\"\n", [], [], [], []]] := by
  have hcells : ∀ row ∈ (filled usualColumns quotedValues).rows, ∀ entry ∈ row, '\r' ∉ entry.2 := by
    decide
  exact ⟨hcells, (exports_parse quotedValues).2.1 hcells⟩

end TypeTable
end Copybook
