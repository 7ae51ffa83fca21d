import Copybook.Csv.Reader
import Copybook.Csv.Writer
import Copybook.Text.Lines
import Mathlib.Data.List.Basic

/-!
Tables in which every field stands in quotes. A quoted field is read as it is written, but for the line
breaks in it, which are gone when the lines of the table are read. -/
namespace Copybook
namespace Text

/-! ### Line breaks -/

def strike (t : Text) : Text := t.filter fun c => !isBreak c

def IsUnbroken (t : Text) : Prop := ∀ c ∈ t, isBreak c = false

instance (t : Text) : Decidable (IsUnbroken t) :=
  inferInstanceAs (Decidable (∀ c ∈ t, isBreak c = false))

theorem isUnbroken_strike (t : Text) : IsUnbroken (strike t) := by
  intro c hc
  simpa using (List.mem_filter.mp hc).2

theorem strike_eq_self_iff (t : Text) : strike t = t ↔ IsUnbroken t := by
  simp [strike, List.filter_eq_self, IsUnbroken]

/-- The characters of a text up to the line breaks, each of which counts as the end of a line. -/
def marks : Bool → Text → List (Option Char)
  | _, [] => []
  | afterReturn, c :: r =>
    if c = '\n' && afterReturn then marks false r
    else if isBreak c then none :: marks (c = '\r') r
    else some c :: marks false r

/-- Whether a text ends with a character that breaks no line. -/
def EndsOpen (t : Text) : Prop := ∃ c, t.getLast? = some c ∧ isBreak c = false

theorem ne_lineFeed {c : Char} (h : isBreak c = false) : c ≠ '\n' := by
  rintro rfl
  exact absurd h (by decide)

theorem marks_cons {c : Char} (h : isBreak c = false) (afterReturn : Bool) (t : Text) :
    marks afterReturn (c :: t) = some c :: marks false t := by
  simp [marks, ne_lineFeed h, h]

theorem EndsOpen.concat (t : Text) {c : Char} (h : isBreak c = false) : EndsOpen (t ++ [c]) :=
  ⟨c, by simp, h⟩

theorem EndsOpen.of_cons {c d : Char} {t : Text} (h : EndsOpen (c :: d :: t)) : EndsOpen (d :: t) := by
  obtain ⟨e, he, hopen⟩ := h
  exact ⟨e, by rwa [List.getLast?_cons_cons] at he, hopen⟩

theorem marks_append {t : Text} (h : EndsOpen t) (afterReturn : Bool) (u : Text) :
    marks afterReturn (t ++ u) = marks afterReturn t ++ marks false u := by
  induction t generalizing afterReturn with
  | nil =>
    obtain ⟨c, hc, -⟩ := h
    cases hc
  | cons c t ih =>
    cases t with
    | nil =>
      obtain ⟨d, hd, hopen⟩ := h
      obtain rfl : c = d := by simpa using hd
      rw [List.cons_append, marks_cons hopen, marks_cons hopen]
      rfl
    | cons d t =>
      have hlater := ih h.of_cons
      rw [List.cons_append, marks, marks]
      split
      · exact hlater false
      · split
        · rw [hlater, List.cons_append]
        · rw [hlater, List.cons_append]

theorem breakLinesAfter_unifyAfter (afterReturn : Bool) (t : Text) :
    breakLinesAfter false (unifyAfter afterReturn t) = breakLinesAfter afterReturn t := by
  induction t generalizing afterReturn with
  | nil => rfl
  | cons c r ih =>
    by_cases hreturn : c = '\r'
    · subst hreturn
      have hbreak : isBreak '\n' = true ∧ isBreak '\r' = true := by decide
      simp [unifyAfter, breakLinesAfter, hbreak, ih]
    by_cases hfeed : c = '\n' ∧ afterReturn = true
    · obtain ⟨rfl, rfl⟩ := hfeed
      simp [unifyAfter, breakLinesAfter, ih]
    have hnot : (decide (c = '\n') && afterReturn) = false := by
      rw [Bool.eq_false_iff]
      simpa using hfeed
    simp only [unifyAfter, breakLinesAfter, hreturn, hnot, if_false, Bool.and_false,
      Bool.false_eq_true, decide_false, ih]

theorem breakLines_unifyLineEnds (t : Text) : breakLines (unifyLineEnds t) = breakLines t :=
  breakLinesAfter_unifyAfter false t

theorem breakLinesAfter_eq_nil {t : Text} (h : breakLinesAfter false t = []) : t = [] := by
  cases t with
  | nil => rfl
  | cons c r =>
    simp only [breakLinesAfter, Bool.and_false, Bool.false_eq_true, if_false] at h
    split at h
    · cases h
    · split at h <;> cases h

end Text

namespace Csv

open Text (marks strike EndsOpen isBreak)

/-! ### Lines -/

/-- What the lines of a text are to a reader of tables. -/
def input (lines : List Text) : List (Option Char) := lines.flatMap fun line => line.map some ++ [none]

theorem read_eq (lines : List Text) : read lines = Reader.run .recordStart [] [] (input lines) := rfl

theorem input_broken {t : Text} (h : ¬ EndsOpen t) (afterReturn : Bool) :
    input (Text.breakLinesAfter afterReturn t) = marks afterReturn t := by
  induction t generalizing afterReturn with
  | nil => rfl
  | cons c r ih =>
    have hlater : ¬ EndsOpen r := by
      rintro ⟨d, hd, hopen⟩
      exact h ⟨d, by simp [List.getLast?_cons, hd], hopen⟩
    rw [Text.breakLinesAfter, marks]
    split
    · exact ih hlater false
    split
    · rw [← ih hlater]
      rfl
    · rename_i hbreak
      cases hlines : Text.breakLinesAfter false r with
      | nil =>
        obtain rfl := Text.breakLinesAfter_eq_nil hlines
        exact absurd ⟨c, rfl, by simpa using hbreak⟩ h
      | cons line rest =>
        rw [← ih hlater, hlines]
        rfl

theorem input_open {t : Text} (h : EndsOpen t) (afterReturn : Bool) :
    input (Text.breakLinesAfter afterReturn t) = marks afterReturn t ++ [none] := by
  induction t generalizing afterReturn with
  | nil =>
    obtain ⟨c, hc, -⟩ := h
    cases hc
  | cons c r ih =>
    cases r with
    | nil =>
      obtain ⟨d, hd, hopen⟩ := h
      obtain rfl : c = d := by simpa using hd
      simp [Text.breakLinesAfter, marks, Text.ne_lineFeed hopen, hopen, input]
    | cons d r =>
      have hlater := ih h.of_cons
      rw [Text.breakLinesAfter, marks]
      split
      · exact hlater false
      split
      · rw [List.cons_append, ← hlater]
        rfl
      · cases hlines : Text.breakLinesAfter false (d :: r) with
        | nil => cases Text.breakLinesAfter_eq_nil hlines
        | cons line rest =>
          rw [List.cons_append, ← hlater, hlines]
          rfl

/-! ### Quoted fields -/

namespace Reader

open Writer (quote)

def doubled (t : Text) : Text := t.flatMap fun c => if c = '"' then ['"', '"'] else [c]

theorem quote_eq (t : Text) : quote t = '"' :: (doubled t ++ ['"']) := rfl

/-- Whether a field can be read behind what has been read of it. -/
def Fits (t : Text) : Prop := (strike t).length ≤ fieldLimit

instance (t : Text) : Decidable (Fits t) := inferInstanceAs (Decidable (_ ≤ _))

theorem marks_quote (afterReturn : Bool) (t : Text) :
    marks afterReturn ('"' :: t) = some '"' :: marks false t := Text.marks_cons (by decide) _ _

theorem run_quoted (field : Text) (fields : List Text) {c : Char} (hc : c ≠ '"')
    (r : List (Option Char)) : run .quoted field fields (some c :: r) =
      if fieldLimit ≤ field.length then ⟨[], true⟩ else run .quoted (c :: field) fields r := by
  rw [run, if_neg hc]

theorem run_doubleQuote (field : Text) (fields : List Text) (r : List (Option Char)) :
    run .quoted field fields (some '"' :: some '"' :: r) =
      if fieldLimit ≤ field.length then ⟨[], true⟩ else run .quoted ('"' :: field) fields r := rfl

theorem run_doubled (t : Text) (afterReturn : Bool) {field : Text} (h : field.length ≤ fieldLimit)
    (u : Text) (fields : List Text) :
    run .quoted field fields (marks afterReturn (doubled t ++ '"' :: u)) =
      if field.length + (strike t).length ≤ fieldLimit then
        run .quote ((strike t).reverse ++ field) fields (marks false u)
      else ⟨[], true⟩ := by
  -- The field and the last character go along, since a line break changes the one and not the other.
  induction t generalizing afterReturn field with
  | nil =>
    rw [if_pos (by simpa [strike] using h)]
    change run .quoted field fields (marks afterReturn ('"' :: u)) = _
    rw [marks_quote]
    rfl
  | cons c r ih =>
    by_cases hbreak : isBreak c = true
    · have hquote : c ≠ '"' := by
        rintro rfl
        exact absurd hbreak (by decide)
      have hstrike : strike (c :: r) = strike r := by simp [strike, hbreak]
      have hdoubled : doubled (c :: r) ++ '"' :: u = c :: (doubled r ++ '"' :: u) := by
        simp [doubled, hquote]
      rw [hstrike, hdoubled, marks, if_pos hbreak]
      split
      · exact ih false h
      · exact ih _ h
    have hopen : isBreak c = false := by simpa using hbreak
    have hstrike : strike (c :: r) = c :: strike r := by simp [strike, hopen]
    have hnext : (if fieldLimit ≤ field.length then (⟨[], true⟩ : Table)
        else run .quoted (c :: field) fields (marks false (doubled r ++ '"' :: u))) =
          if field.length + (strike (c :: r)).length ≤ fieldLimit then
            run .quote ((strike (c :: r)).reverse ++ field) fields (marks false u)
          else ⟨[], true⟩ := by
      by_cases hlong : fieldLimit ≤ field.length
      · rw [if_pos hlong, if_neg (by rw [hstrike, List.length_cons]; omega)]
      · have hlength : (c :: field).length + (strike r).length =
            field.length + (strike (c :: r)).length := by
          simp only [hstrike, List.length_cons]
          omega
        rw [if_neg hlong, ih false (by rw [List.length_cons]; omega), hlength, hstrike,
          List.reverse_cons, List.append_assoc]
        rfl
    by_cases hquote : c = '"'
    · subst hquote
      have hdoubled : doubled ('"' :: r) ++ '"' :: u = '"' :: '"' :: (doubled r ++ '"' :: u) := by
        simp [doubled]
      rw [hdoubled, marks_quote, marks_quote, run_doubleQuote]
      exact hnext
    · have hdoubled : doubled (c :: r) ++ '"' :: u = c :: (doubled r ++ '"' :: u) := by
        simp [doubled, hquote]
      rw [hdoubled, Text.marks_cons hopen, run_quoted field fields hquote]
      exact hnext

theorem run_field {place : Place} (hplace : place = .recordStart ∨ place = .fieldStart)
    (t : Text) (fields : List Text) (u : Text) :
    run place [] fields (marks false (quote t ++ u)) =
      if Fits t then run .quote (strike t).reverse fields (marks false u) else ⟨[], true⟩ := by
  have hbegin : ∀ r, run place [] fields (some '"' :: r) = run .quoted [] fields r := by
    intro r
    rcases hplace with rfl | rfl <;> rfl
  have hquote : quote t ++ u = '"' :: (doubled t ++ '"' :: u) := by
    rw [quote_eq, List.cons_append, List.append_assoc]
    rfl
  rw [hquote, marks_quote, hbegin, run_doubled t false (Nat.zero_le _), List.append_nil]
  simp only [Fits, List.length_nil, Nat.zero_add]
  rfl

def quotedRecord (fields : List Text) : Text := Text.join [','] (fields.map quote)

theorem run_record {place : Place} (hplace : place = .recordStart ∨ place = .fieldStart)
    (field : Text) (others done : List Text) {u v : Text}
    (hend : marks false u = none :: marks false v) :
    run place [] done (marks false (quotedRecord (field :: others) ++ u)) =
      if ∀ t ∈ field :: others, Fits t then
        Table.cons (done.reverse ++ (field :: others).map strike)
          (run .recordStart [] [] (marks false v))
      else ⟨[], true⟩ := by
  induction others generalizing field done place with
  | nil =>
    change run place [] done (marks false (quote field ++ u)) = _
    rw [run_field hplace, hend]
    by_cases hfield : Fits field
    · have hall : ∀ t ∈ [field], Fits t := by simpa using hfield
      have hlast : run .quote (strike field).reverse done (none :: marks false v) =
          Table.cons ((strike field).reverse.reverse :: done).reverse
            (run .recordStart [] [] (marks false v)) := rfl
      rw [if_pos hfield, if_pos hall, hlast, List.reverse_reverse, List.reverse_cons]
      rfl
    · have hnot : ¬ ∀ t ∈ [field], Fits t := by simpa using hfield
      rw [if_neg hfield, if_neg hnot]
  | cons next others ih =>
    have hrecord : quotedRecord (field :: next :: others) ++ u =
        quote field ++ ',' :: (quotedRecord (next :: others) ++ u) := by
      simp [quotedRecord, Text.join]
    have hcomma : ∀ r, run .quote (strike field).reverse done (some ',' :: r) =
        run .fieldStart [] ((strike field).reverse.reverse :: done) r := fun _ => rfl
    rw [hrecord, run_field hplace, Text.marks_cons (by decide), hcomma, List.reverse_reverse,
      ih (.inr rfl)]
    by_cases hfield : Fits field
    · rw [if_pos hfield]
      simp only [List.mem_cons, forall_eq_or_imp, hfield, true_and, List.reverse_cons,
        List.append_assoc, List.map_cons, List.singleton_append]
    · have hnot : ¬ ∀ t ∈ field :: next :: others, Fits t := fun h => hfield (h _ List.mem_cons_self)
      rw [if_neg hfield, if_neg hnot]

section lines

variable {lineEnd : Text} (hend : ∀ u, marks false (lineEnd ++ u) = none :: marks false u)

include hend

theorem run_line {record : List Text} (hne : record ≠ []) (more : Text) :
    run .recordStart [] [] (marks false ((quotedRecord record ++ lineEnd) ++ more)) =
      if ∀ t ∈ record, Fits t then
        Table.cons (record.map strike) (run .recordStart [] [] (marks false more))
      else ⟨[], true⟩ := by
  obtain ⟨field, others, rfl⟩ := List.exists_cons_of_ne_nil hne
  rw [List.append_assoc]
  exact run_record (.inl rfl) field others [] (hend more)

theorem run_lines_of_fits {records : List (List Text)} (hne : ∀ record ∈ records, record ≠ [])
    (hfits : ∀ record ∈ records, ∀ t ∈ record, Fits t) :
    run .recordStart [] [] (marks false
      ((records.map quotedRecord).flatMap fun line => line ++ lineEnd)) =
        ⟨records.map (List.map strike), false⟩ := by
  induction records with
  | nil => rfl
  | cons record rest ih =>
    obtain ⟨hfirst, hothers⟩ := List.forall_mem_cons.mp hne
    obtain ⟨hfit, hrest⟩ := List.forall_mem_cons.mp hfits
    rw [List.map_cons, List.flatMap_cons, run_line hend hfirst, if_pos hfit, ih hothers hrest]
    rfl

theorem run_lines_overlong {records : List (List Text)} (hne : ∀ record ∈ records, record ≠ [])
    (hlong : ¬ ∀ record ∈ records, ∀ t ∈ record, Fits t) :
    (run .recordStart [] [] (marks false
      ((records.map quotedRecord).flatMap fun line => line ++ lineEnd))).overlong = true := by
  induction records with
  | nil => exact absurd (fun _ h => nomatch h) hlong
  | cons record rest ih =>
    obtain ⟨hfirst, hothers⟩ := List.forall_mem_cons.mp hne
    rw [List.map_cons, List.flatMap_cons, run_line hend hfirst]
    by_cases hfit : ∀ t ∈ record, Fits t
    · rw [if_pos hfit]
      exact ih hothers fun hrest => hlong (List.forall_mem_cons.mpr ⟨hfit, hrest⟩)
    · rw [if_neg hfit]

end lines

end Reader

/-! ### Tables -/

theorem endsOpen_join {lines : List Text} (hne : lines ≠ []) (h : ∀ line ∈ lines, EndsOpen line)
    (separator : Text) : EndsOpen (Text.join separator lines) := by
  induction lines with
  | nil => exact absurd rfl hne
  | cons line rest ih =>
    cases rest with
    | nil => exact h line List.mem_cons_self
    | cons next rest =>
      obtain ⟨c, hc, hopen⟩ := ih (List.cons_ne_nil _ _) fun line hline =>
        h line (List.mem_cons_of_mem _ hline)
      exact ⟨c, by rw [Text.join, List.getLast?_append, hc]; rfl, hopen⟩

theorem endsOpen_quotedRecord {record : List Text} (hne : record ≠ []) :
    EndsOpen (Reader.quotedRecord record) := by
  refine endsOpen_join (by simpa using hne) (fun field hfield => ?_) _
  obtain ⟨t, -, rfl⟩ := List.mem_map.mp hfield
  exact .concat ('"' :: Reader.doubled t) (by decide)

/-- How the lines of a table are ended: by a line feed alone or behind a carriage return, and also at
the end of the table or not. -/
structure Layout where
  returns : Bool
  ended : Bool

namespace Layout

def lineEnd (l : Layout) : Text := if l.returns then ['\r', '\n'] else ['\n']

def document (l : Layout) (lines : List Text) : Text :=
  Text.join l.lineEnd lines ++ if l.ended then l.lineEnd else []

theorem marks_lineEnd (l : Layout) (t : Text) :
    marks false (l.lineEnd ++ t) = none :: marks false t := by
  obtain ⟨returns, ended⟩ := l
  cases returns <;> simp [lineEnd, marks, isBreak]

theorem join_append (separator : Text) {lines : List Text} (hne : lines ≠ []) :
    Text.join separator lines ++ separator = lines.flatMap fun line => line ++ separator := by
  induction lines with
  | nil => exact absurd rfl hne
  | cons line rest ih =>
    cases rest with
    | nil => simp [Text.join]
    | cons next rest =>
      rw [Text.join, List.append_assoc, ih (List.cons_ne_nil _ _)]
      rfl

/-- However its lines are ended, a table is read line by line. -/
theorem read_document (l : Layout) {lines : List Text} (hne : lines ≠ [])
    (h : ∀ line ∈ lines, EndsOpen line) :
    Csv.read (Text.breakLines (Text.unifyLineEnds (l.document lines))) =
      Reader.run .recordStart [] [] (marks false (lines.flatMap fun line => line ++ l.lineEnd)) := by
  have hopen := endsOpen_join hne h l.lineEnd
  have hmarks : marks false (Text.join l.lineEnd lines ++ l.lineEnd) =
      marks false (Text.join l.lineEnd lines) ++ [none] := by
    have hend := marks_lineEnd l []
    rw [List.append_nil] at hend
    rw [Text.marks_append hopen, hend]
    rfl
  rw [Text.breakLines_unifyLineEnds, read_eq, ← join_append _ hne]
  obtain ⟨returns, ended⟩ := l
  cases ended with
  | false =>
    rw [hmarks, ← input_open hopen]
    simp [document, Text.breakLines]
  | true =>
    have hbroken : ¬ EndsOpen
        (Text.join (lineEnd ⟨returns, true⟩) lines ++ lineEnd ⟨returns, true⟩) := by
      rintro ⟨c, hc, hopen⟩
      have hfeed : c = '\n' := by
        cases returns <;> simpa [lineEnd, List.getLast?_append, eq_comm] using hc
      subst hfeed
      exact absurd hopen (by decide)
    rw [← input_broken hbroken]
    rfl

end Layout

end Csv
end Copybook
