import Copybook.Proofs.Status
import Copybook.Status.Operation

/-!
A status log and its sink over any run of operations. The sink holds the lines that were recorded
since it was attached, whether they were cleared or not, as long as it had room for them; the
operation that records a line beyond that fails and records no other line. -/
namespace Copybook
namespace StatusLog

variable {s : StatusLog} {w : World} {op : Operation}

def Operation.lines : Operation → List Text
  | .append line => [line]
  | .banner line => [separator, line, separator]
  | .clear | .suppress _ | .setSink _ => []

theorem appendAll_singleton (s : StatusLog) (line : Text) (w : World) :
    s.appendAll [line] w = s.append line w := by
  rw [appendAll]
  generalize s.append line w = outcome
  obtain ⟨t, v, _ | problem⟩ := outcome <;> rfl

theorem perform_of_lines (h : op.lines ≠ []) : s.perform w op = s.appendAll op.lines w := by
  cases op with
  | append line => exact (appendAll_singleton s line w).symm
  | banner line => rfl
  | _ => exact absurd rfl h

/-- A status log at work, with what it has recorded for its sink. -/
structure Journal where
  status : StatusLog
  world : World
  /-- The surroundings in which the sink was attached. -/
  attached : World
  /-- The lines recorded since then, also those that memory has lost. -/
  recorded : List Text

namespace Journal

def start (s : StatusLog) (w : World) : Journal := ⟨s, w, w, []⟩

def outcome (x : Journal) (op : Operation) : Outcome := x.status.perform x.world op

/-- The lines by which an operation makes memory longer. -/
def added (x : Journal) (op : Operation) : List Text :=
  (x.outcome op).status.lines.drop x.status.lines.length

def step (x : Journal) (op : Operation) : Journal :=
  match op with
  | .setSink _ => start (x.outcome op).status (x.outcome op).world
  | _ => ⟨(x.outcome op).status, (x.outcome op).world, x.attached, x.recorded ++ x.added op⟩

def run (x : Journal) (ops : List Operation) : Journal := ops.foldl step x

/-- Whether the sink holds all recorded lines that it had room for, and no others. -/
def InStep (x : Journal) : Prop := x.attached.Receives x.recorded x.world

structure Effect (x : Journal) (op : Operation) : Prop where
  records : x.added op <+: op.lines
  /-- It fails exactly when it records a line for which the sink has no room. -/
  fails : (x.outcome op).problem ≠ none ↔ x.added op ≠ [] ∧
    ∃ n, x.attached.room = some n ∧ n < x.recorded.length + (x.added op).length
  unwritten : ∀ p, (x.outcome op).problem = some p →
    ∃ reason, p = .read ("Unable to write status line: " ++ reason)
  /-- Nothing is recorded after the line that fails, the first of its operation without room. -/
  stops : (x.outcome op).problem ≠ none → ∃ n, x.attached.room = some n ∧
    x.recorded.length + (x.added op).length = max n x.recorded.length + 1
  complete : x.status.suppressed = false → (x.outcome op).problem = none → x.added op = op.lines
  keeps : op ≠ .clear → (x.outcome op).status.lines = x.status.lines ++ x.added op
  silent : x.status.suppressed = true → op.lines ≠ [] → x.outcome op = ⟨x.status, x.world, none⟩
  clears : op = .clear → x.outcome op = ⟨{ x.status with lines := [] }, x.world, none⟩

variable {x : Journal}

theorem outcome_of_suppressed (hs : x.status.suppressed = true) (h : op.lines ≠ []) :
    x.outcome op = ⟨x.status, x.world, none⟩ := by
  rw [outcome, perform_of_lines h, appendAll_of_suppressed hs]

theorem outcome_reports (hs : x.status.suppressed = false) (h : op.lines ≠ []) :
    x.status.Reports x.world op.lines (x.outcome op) := by
  rw [outcome, perform_of_lines h]
  exact appendAll_reports hs op.lines x.world

theorem added_of_reports {lines : List Text} (h : x.status.Reports x.world lines (x.outcome op)) :
    x.added op = World.within (x.world.room.map (· + 1)) lines := by
  rw [added, h.status]
  exact List.drop_left

theorem added_of_lines_eq_nil (h : op.lines = []) : x.added op = [] := by
  cases op <;> simp_all [Operation.lines, added, outcome, perform, StatusLog.clear]

theorem problem_of_lines_eq_nil (h : op.lines = []) : (x.outcome op).problem = none := by
  cases op <;> simp_all [Operation.lines, outcome, perform]

theorem added_of_suppressed (hs : x.status.suppressed = true) (h : op.lines ≠ []) :
    x.added op = [] := by
  rw [added, outcome_of_suppressed hs h]
  exact List.drop_length

theorem outcome_receives (x : Journal) (h : ∀ sink, op ≠ .setSink sink) :
    x.world.Receives (x.added op) (x.outcome op).world := by
  by_cases hlines : op.lines = []
  · rw [added_of_lines_eq_nil hlines]
    have hworld : (x.outcome op).world = x.world := by
      cases op <;> simp_all [Operation.lines, outcome, perform]
    rw [hworld]
    exact .refl x.world
  · cases hs : x.status.suppressed with
    | true =>
      rw [added_of_suppressed hs hlines, outcome_of_suppressed hs hlines]
      exact .refl x.world
    | false =>
      have hreports := outcome_reports hs hlines
      rw [added_of_reports hreports]
      exact hreports.receives

theorem step_eq (h : ∀ sink, op ≠ .setSink sink) : x.step op =
    ⟨(x.outcome op).status, (x.outcome op).world, x.attached, x.recorded ++ x.added op⟩ := by
  cases op with
  | setSink sink => exact absurd rfl (h sink)
  | _ => rfl

theorem InStep.step (h : x.InStep) (op : Operation) : (x.step op).InStep := by
  by_cases hop : ∃ sink, op = .setSink sink
  · obtain ⟨sink, rfl⟩ := hop
    exact .refl _
  · have hkept : ∀ sink, op ≠ .setSink sink := fun sink hsink => hop ⟨sink, hsink⟩
    rw [step_eq hkept]
    exact h.trans (outcome_receives x hkept)

theorem InStep.run (h : x.InStep) (ops : List Operation) : (x.run ops).InStep := by
  induction ops generalizing x with
  | nil => exact h
  | cons op rest ih => exact ih (h.step op)

theorem attached_run (x : Journal) {ops : List Operation}
    (h : ∀ op ∈ ops, ∀ sink, op ≠ .setSink sink) : (x.run ops).attached = x.attached := by
  induction ops generalizing x with
  | nil => rfl
  | cons op rest ih =>
    obtain ⟨hop, hrest⟩ := List.forall_mem_cons.mp h
    have hstep : (x.step op).attached = x.attached := by rw [step_eq hop]
    exact (ih (x.step op) hrest).trans hstep

/-- A log that is not suppressed records the lines for which the sink has room, and one more. -/
theorem effect_of_reports (h : x.InStep) (hs : x.status.suppressed = false) (hop : op.lines ≠ []) :
    x.Effect op := by
  have hreports := outcome_reports hs hop
  have hadded := added_of_reports hreports
  have hrecords : x.added op <+: op.lines := by
    rw [hadded]
    exact World.within_prefix _ _
  have hkeeps : (x.outcome op).status.lines = x.status.lines ++ x.added op := by
    rw [hreports.status, hadded]
  have hloud : x.status.suppressed ≠ true := by simp [hs]
  have hclear : op ≠ .clear := by rintro rfl; exact hop rfl
  have hfits := hreports.fits
  rw [h.room] at hadded hfits
  cases hroom : x.attached.room with
  | none =>
    have hall : x.added op = op.lines := by rw [hadded, hroom]; rfl
    have hproblem : (x.outcome op).problem = none := hfits.mpr (by simp [hroom])
    exact ⟨hrecords, by simp [hproblem, hroom], hreports.unwritten, by simp [hproblem],
      fun _ _ => hall, fun _ => hkeeps, fun h => absurd h hloud, fun h => absurd h hclear⟩
  | some n =>
    have htake : x.added op = op.lines.take (n - x.recorded.length + 1) := by
      rw [hadded, hroom]
      rfl
    have hproblem : (x.outcome op).problem = none ↔
        op.lines.length ≤ n - x.recorded.length := by simpa [hroom] using hfits
    have hcount : (x.added op).length = min (n - x.recorded.length + 1) op.lines.length := by
      rw [htake, List.length_take]
    have hlength : 0 < op.lines.length := List.length_pos_iff.mpr hop
    have hsome : x.added op ≠ [] := by
      rw [← List.length_pos_iff, hcount]
      omega
    refine ⟨hrecords, ?_, hreports.unwritten, ?_, ?_, fun _ => hkeeps, fun h => absurd h hloud,
      fun h => absurd h hclear⟩
    · simp only [ne_eq, hproblem, hroom, hsome, not_false_eq_true, true_and, Option.some.injEq,
        exists_eq_left']
      omega
    · intro hfails
      have hmore : n - x.recorded.length < op.lines.length := Nat.not_le.mp (mt hproblem.mpr hfails)
      exact ⟨n, hroom, by omega⟩
    · intro _ hnone
      have hless := hproblem.mp hnone
      rw [htake]
      exact List.take_of_length_le (by omega)

theorem InStep.effect (h : x.InStep) (op : Operation) : x.Effect op := by
  by_cases hlines : op.lines = []
  · have hadded := added_of_lines_eq_nil (x := x) hlines
    have hproblem := problem_of_lines_eq_nil (x := x) hlines
    refine ⟨by simp [hadded], by simp [hproblem, hadded], by simp [hproblem], by simp [hproblem],
      fun _ _ => hadded.trans hlines.symm, ?_, fun _ h => absurd hlines h, by rintro rfl; rfl⟩
    intro hclear
    rw [hadded]
    cases op <;> simp_all [Operation.lines, outcome, perform]
  · cases hs : x.status.suppressed with
    | false => exact effect_of_reports h hs hlines
    | true =>
      have hadded := added_of_suppressed hs hlines
      have houtcome := outcome_of_suppressed hs hlines
      refine ⟨by simp [hadded], by simp [houtcome, hadded], by simp [houtcome], by simp [houtcome],
        by simp [hs], by simp [houtcome, hadded], fun _ _ => houtcome, ?_⟩
      rintro rfl
      exact absurd rfl hlines

end Journal

/-- A status log and its sink stay in step over every run of operations, and whatever operation
comes next. Unless a sink is set on the way, it is still the one that the run began with. -/
theorem stays_in_step (s : StatusLog) (w : World) (ops : List Operation) :
    ((Journal.start s w).run ops).InStep ∧
      (∀ op, ((Journal.start s w).run ops).Effect op) ∧
      ((∀ op ∈ ops, ∀ sink, op ≠ .setSink sink) →
        ((Journal.start s w).run ops).attached = w) := by
  have hstart : (Journal.start s w).InStep := .refl w
  have hrun := hstart.run ops
  exact ⟨hrun, hrun.effect, Journal.attached_run (Journal.start s w)⟩

-- A sink with room for two lines fails at the second line of the banner, which is the last recorded.
example :
    let x := (Journal.start empty ⟨⟨[], []⟩, [], some (.memory [] (some 2)), false⟩).run
      [.append "first", .clear, .banner "next"]
    x.recorded = ["first".toList, separator, "next".toList] ∧
      x.status.lines = [separator, "next".toList] ∧
      x.world.written = some ("first\n".toList ++ separator ++ ['\n']) := by
  decide

end StatusLog
end Copybook
