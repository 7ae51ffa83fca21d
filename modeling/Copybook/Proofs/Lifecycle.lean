import Copybook.Proofs.Reader
import Copybook.Reader.Operation
import Mathlib.Data.List.Basic

/-!
What holds of a reader whatever it has been asked to do. Its configuration and its members belong
together, type mode is for a single copybook, and no copybook stays open. A problem ends a reader
until it accepts parameters again, or ends with another problem over them. -/
namespace Copybook

namespace Reader

variable {r : Reader} {w : World} {problem : Problem} {origin : Option (World × Parameters)}

/-- Type mode finds what it needs: a table and a single copybook. The status log is silent in type
mode, and only then. -/
structure IsTyped (r : Reader) : Prop where
  silent : r.status.suppressed = r.typeMode
  table : r.typeMode = true → r.types.isSome = true
  single : r.typeMode = true → ∀ config, r.config = some config → config.scope = .copybook

/-- A configuration and its members, as some parameters have given both of them. -/
def Stems (origin : Option (World × Parameters)) (config : ReaderConfig) (members : Members) :
    Prop :=
  ∃ w p taken, origin = some (w, p) ∧ ReaderConfig.ofParameters w.files p = .ok config ∧
    taken ≤ (Members.ofConfig w.files config).size ∧
    members = { Members.ofConfig w.files config with taken := taken }

/-- What holds of a reader between two operations; `origin` has the parameters that it accepted
last. -/
structure IsSound (origin : Option (World × Parameters)) (r : Reader) : Prop where
  closed : r.handle = none
  served : r.phase = .configured ∨ r.phase = .reading ∨ r.phase = .done →
    ∃ config members, r.config = some config ∧ r.members = some members ∧
      Stems origin config members
  typed : r.IsTyped
  ended : r.phase = .failed → r.problem.isSome = true

theorem isSound_new : IsSound none new :=
  ⟨rfl, by simp [new], ⟨rfl, by simp [new], by simp [new]⟩, by simp [new]⟩

theorem Stems.next {config : ReaderConfig} {members members' : Members} {path : Path}
    (h : Stems origin config members) (hnext : members.next = (some path, members')) :
    Stems origin config members' := by
  obtain ⟨w, p, taken, horigin, hconfig, -, rfl⟩ := h
  obtain ⟨hpath, rfl⟩ := Members.next_some hnext
  exact ⟨w, p, taken + 1, horigin, hconfig, (List.getElem?_eq_some_iff.mp hpath).1, rfl⟩

theorem isSound_fail {α : Type} (h : r.IsTyped) (w : World) (problem : Problem)
    (origin : Option (World × Parameters)) :
    IsSound origin (r.fail w problem : Outcome α).reader := by
  rw [(fail_leaves r w problem).1]
  have hsilent := (StatusLog.append_suppressed r.status problem.message w).trans h.silent
  exact ⟨rfl, by simp, ⟨hsilent, h.table, h.single⟩, fun _ => rfl⟩

theorem IsSound.takeUp (h : IsSound origin r) (w : World) (config : ReaderConfig) (path : Path) :
    IsSound origin (r.takeUp w config path).reader := by
  obtain ⟨⟨rows, hreader⟩, -⟩ := takeUp_leaves h.closed w config path
  rw [hreader]
  have hsilent := (StatusLog.appendAll_suppressed r.status (r.announcement config path) w).trans
    h.typed.silent
  refine ⟨h.closed, h.served, ⟨hsilent, fun ht => ?_, h.typed.single⟩, h.ended⟩
  simpa [addRows] using h.typed.table ht

theorem IsSound.read (h : IsSound origin r) (w : World) : IsSound origin (r.read w).reader := by
  by_cases hphase : r.phase = .configured ∨ r.phase = .reading
  · obtain ⟨config, members, hconfig, hmembers, hstems⟩ :=
      h.served (hphase.imp_right Or.inl)
    have hserves : Serves r config members r := ⟨hphase, hconfig, hmembers, rfl, rfl⟩
    cases hpath : members.next.1 with
    | none =>
      rw [hserves.read_last hpath]
      exact ⟨h.closed, fun _ => ⟨config, members, hconfig, hmembers, hstems⟩,
        ⟨h.typed.silent, h.typed.table, h.typed.single⟩, by simp⟩
    | some path =>
      have hnext : members.next = (some path, members.next.2) := Prod.ext hpath rfl
      have hstarted : IsSound origin
          { r with phase := .reading, members := some members.next.2 } :=
        ⟨h.closed, fun _ => ⟨config, members.next.2, hconfig, rfl, hstems.next hnext⟩,
          ⟨h.typed.silent, h.typed.table, h.typed.single⟩, by simp⟩
      have htaken := hstarted.takeUp w config path
      rw [hserves.read_member hnext]
      generalize Reader.takeUp _ w config path = outcome at htaken ⊢
      obtain ⟨q, v, result⟩ := outcome
      cases result with
      | ok object => exact htaken
      | error failure =>
        cases failure with
        | problem problem => exact isSound_fail htaken.typed v problem origin
        | fault fault => exact htaken
  · cases hr : r.phase with
    | unconfigured =>
      have hread : r.read w = r.fail w (.notConfigured name) := by simp [Reader.read, hr]
      rw [hread]
      exact isSound_fail h.typed w _ origin
    | configured => exact absurd (.inl hr) hphase
    | reading => exact absurd (.inr hr) hphase
    | done =>
      rw [read_done hr]
      exact h
    | failed =>
      obtain ⟨problem, hproblem⟩ := Option.isSome_iff_exists.mp (h.ended hr)
      rw [read_failed hr hproblem]
      exact h

theorem enableTypeMode_cases (r : Reader) :
    (∃ problem, r.enableTypeMode = (r, .error problem)) ∨
      r.phase ≠ .failed ∧ (∀ config, r.config = some config → config.scope = .copybook) ∧
        r.enableTypeMode = ({ r with
          typeMode := true, types := some .empty,
          status := { r.status with suppressed := true } }, .ok ()) := by
  unfold enableTypeMode
  split
  · exact .inl ⟨_, rfl⟩
  · rename_i hphase
    have hfailed : r.phase ≠ .failed := by
      intro h
      simp [h] at hphase
    cases r.config with
    | none => exact .inr ⟨hfailed, by simp, rfl⟩
    | some config =>
      dsimp only
      unfold checkTypeMode
      cases hscope : config.scope with
      | directory => exact .inl ⟨_, rfl⟩
      | copybook => exact .inr ⟨hfailed, by rintro _ ⟨⟩; exact hscope, rfl⟩

theorem IsSound.enableTypeMode (h : IsSound origin r) : IsSound origin r.enableTypeMode.1 := by
  rcases enableTypeMode_cases r with ⟨problem, hrefused⟩ | ⟨-, hscope, hdone⟩
  · rw [hrefused]
    exact h
  · rw [hdone]
    exact ⟨h.closed, h.served, ⟨rfl, fun _ => rfl, fun _ => hscope⟩, h.ended⟩

/-- The parameters that a reader has accepted last, once a call has been made. -/
def originAfter (r : Reader) (origin : Option (World × Parameters)) (c : Call) :
    Option (World × Parameters) :=
  match c.operation, (r.call c).result with
  | .init p, .ok _ => some (c.world, p)
  | _, _ => origin

def lastOrigin (r : Reader) (origin : Option (World × Parameters)) :
    List Call → Option (World × Parameters)
  | [] => origin
  | c :: rest => (r.call c).reader.lastOrigin (r.originAfter origin c) rest

theorem call_close (h : r.handle = none) (w : World) :
    r.call ⟨w, .close⟩ = ⟨r, w, .ok .done⟩ := by
  simp [Reader.call, perform, close, release, h]

theorem IsSound.init (h : IsSound origin r) (w : World) (p : Parameters) :
    IsSound (r.originAfter origin ⟨w, .init p⟩) (r.call ⟨w, .init p⟩).reader := by
  have hcases := init_cases r p w
  unfold originAfter call perform
  dsimp only [Outcome.map]
  cases hverdict : verdict r.typeMode w.files p with
  | ok config =>
    rw [hverdict] at hcases
    obtain ⟨records, hinit⟩ := hcases
    obtain ⟨hconfig, -, hscope⟩ := verdict_ok hverdict
    rw [hinit]
    refine ⟨h.closed, fun _ => ⟨config, _, rfl, rfl, w, p, 0, rfl, hconfig, Nat.zero_le _, ?_⟩,
      ⟨h.typed.silent, h.typed.table, ?_⟩, by simp⟩
    · unfold Members.ofConfig Members.ofSource
      cases config.source <;> rfl
    · rintro ht config' ⟨⟩
      exact hscope ht
  | error failure =>
    rw [hverdict] at hcases
    cases failure with
    | problem problem =>
      obtain ⟨members, hinit⟩ := hcases
      rw [hinit, (fail_spec _ _ _).1]
      have htyped : IsTyped { r with config := none, members := members } :=
        ⟨h.typed.silent, h.typed.table, by simp⟩
      exact isSound_fail htyped w problem origin
    | fault fault =>
      replace hcases : r.init p w = ⟨r, w, .error (.fault fault)⟩ := hcases
      rw [hcases]
      exact h

theorem IsSound.call (h : IsSound origin r) (c : Call) :
    IsSound (r.originAfter origin c) (r.call c).reader := by
  obtain ⟨w, operation⟩ := c
  cases operation with
  | init p => exact h.init w p
  | read => exact h.read w
  | close =>
    rw [call_close h.closed]
    exact h
  | enableTypeMode => exact h.enableTypeMode
  | typeTable => exact h
  | setSink sink => exact h

theorem IsSound.after (h : IsSound origin r) (calls : List Call) :
    IsSound (r.lastOrigin origin calls) (r.after calls) := by
  induction calls generalizing r origin with
  | nil => exact h
  | cons c rest ih => exact ih (h.call c)

/-- Whatever a new reader has been asked to do, and whether or not it did it: no copybook is open,
a reader that has been configured serves the members of its own configuration, and type mode finds
what it needs. -/
theorem after_isSound (calls : List Call) : IsSound (new.lastOrigin none calls) (new.after calls) :=
  isSound_new.after calls

/-- A reader that has failed and answers every read with one and the same problem. -/
def Ended (problem : Problem) (r : Reader) : Prop :=
  r.phase = .failed ∧ ∀ w, (r.read w).result = .error (.problem problem)

/-- Whether parameters change nothing about a reader that a problem has ended: they lead to a fault,
or to that problem again. -/
def Repeats (problem : Problem) : Except Failure ReaderConfig → Prop
  | .ok _ => False
  | .error (.problem other) => other = problem
  | .error (.fault _) => True

structure IsEnded (problem : Problem) (typeMode : Bool) (r : Reader) : Prop where
  phase : r.phase = .failed
  problem : r.problem = some problem
  typeMode : r.typeMode = typeMode

theorem isEnded_fail {α : Type} (r : Reader) (w : World) (problem : Problem) :
    IsEnded problem r.typeMode (r.fail w problem : Outcome α).reader := by
  rw [(fail_leaves r w problem).1]
  exact ⟨rfl, rfl, rfl⟩

theorem IsEnded.ended {typeMode : Bool} (h : IsEnded problem typeMode r) : Ended problem r :=
  ⟨h.phase, fun w => by rw [read_failed h.phase h.problem]⟩

theorem readNext_typeMode (r : Reader) (w : World) :
    (r.readNext w).reader.typeMode = r.typeMode := by
  unfold readNext
  split
  · split
    · rfl
    · exact (takeUp_spec _ w _ _).1.typeMode
  · rfl

theorem read_problem (h : (r.read w).result = .error (.problem problem)) :
    IsEnded problem r.typeMode (r.read w).reader := by
  generalize hread : r.read w = o at h ⊢
  unfold read at hread
  split at hread
  · rename_i hphase hproblem
    subst hread
    obtain ⟨⟩ := h
    exact ⟨hphase, hproblem, rfl⟩
  · subst hread
    rw [(fail_spec _ _ _).1] at h
    obtain ⟨⟩ := h
    exact isEnded_fail r w _
  · subst hread
    cases h
  · have hmode := readNext_typeMode { r with phase := .reading } w
    generalize readNext _ w = outcome at hmode hread
    obtain ⟨q, v, result⟩ := outcome
    split at hread
    · rename_i other heq
      obtain ⟨rfl, rfl, rfl⟩ := heq
      subst hread
      rw [(fail_spec _ _ _).1] at h
      obtain ⟨⟩ := h
      exact (hmode : q.typeMode = r.typeMode) ▸ isEnded_fail q v problem
    · subst hread
      cases h
    · rename_i hnot _
      subst hread
      obtain rfl : result = .error (.problem problem) := h
      exact (hnot q v problem rfl).elim

theorem init_problem {p : Parameters} (h : (r.init p w).result = .error (.problem problem)) :
    IsEnded problem r.typeMode (r.init p w).reader := by
  have hcases := init_cases r p w
  cases hverdict : verdict r.typeMode w.files p with
  | ok config =>
    rw [hverdict] at hcases
    obtain ⟨records, hinit⟩ := hcases
    simp [hinit] at h
  | error failure =>
    rw [hverdict] at hcases
    cases failure with
    | problem other =>
      obtain ⟨members, hinit⟩ := hcases
      rw [hinit, (fail_spec _ _ _).1] at h
      obtain ⟨⟩ := h
      rw [hinit]
      exact isEnded_fail { r with config := none, members := members } w problem
    | fault fault =>
      replace hcases : r.init p w = ⟨r, w, .error (.fault fault)⟩ := hcases
      simp [hcases] at h

section

variable {typeMode : Bool} (h : IsEnded problem typeMode r)
include h

theorem IsEnded.init_iff (w : World) (p : Parameters) :
    (Ended problem (r.init p w).reader ↔ Repeats problem (verdict typeMode w.files p)) ∧
      (Repeats problem (verdict typeMode w.files p) →
        IsEnded problem typeMode (r.init p w).reader) := by
  have hcases := init_cases r p w
  rw [h.typeMode] at hcases
  cases hverdict : verdict typeMode w.files p with
  | ok config =>
    rw [hverdict] at hcases
    obtain ⟨records, hinit⟩ := hcases
    simp [hinit, Ended, Repeats]
  | error failure =>
    rw [hverdict] at hcases
    cases failure with
    | problem other =>
      obtain ⟨members, hinit⟩ := hcases
      have hended := isEnded_fail (α := Unit) { r with config := none, members := members } w other
      rw [hinit]
      dsimp only at hended
      rw [h.typeMode] at hended
      refine ⟨⟨fun ⟨_, hread⟩ => ?_, ?_⟩, ?_⟩
      · have hother := hended.ended.2 w
        rw [hread w] at hother
        obtain ⟨⟩ := hother
        rfl
      · rintro rfl
        exact hended.ended
      · rintro rfl
        exact hended
    | fault fault =>
      replace hcases : r.init p w = ⟨r, w, .error (.fault fault)⟩ := hcases
      rw [hcases]
      exact ⟨⟨fun _ => trivial, fun _ => h.ended⟩, fun _ => h⟩

theorem IsEnded.call {c : Call} (hc : ∀ p, c.operation ≠ .init p) :
    IsEnded problem typeMode (r.call c).reader := by
  obtain ⟨w, operation⟩ := c
  cases operation with
  | init p => exact absurd rfl (hc p)
  | read =>
    change IsEnded problem typeMode (r.read w).reader
    rw [read_failed h.phase h.problem]
    exact h
  | close =>
    change IsEnded problem typeMode (r.close w).1
    rw [close, release_reader]
    exact ⟨h.phase, h.problem, h.typeMode⟩
  | enableTypeMode =>
    change IsEnded problem typeMode r.enableTypeMode.1
    rcases enableTypeMode_cases r with ⟨other, hrefused⟩ | ⟨hphase, -⟩
    · rw [hrefused]
      exact h
    · exact absurd h.phase hphase
  | typeTable => exact h
  | setSink sink => exact h

theorem IsEnded.call_iff (c : Call) :
    (Ended problem (r.call c).reader ↔
        ∀ p, c.operation = .init p → Repeats problem (verdict typeMode c.world.files p)) ∧
      (Ended problem (r.call c).reader → IsEnded problem typeMode (r.call c).reader) := by
  by_cases hinit : ∃ p, c.operation = .init p
  · obtain ⟨p, hp⟩ := hinit
    have hreader : (r.call c).reader = (r.init p c.world).reader := by rw [Reader.call, hp]; rfl
    obtain ⟨hiff, hkeep⟩ := h.init_iff c.world p
    rw [hreader, hiff]
    refine ⟨⟨fun hrepeats p' hp' => ?_, fun hall => hall p hp⟩, hkeep⟩
    obtain rfl := Operation.init.inj (hp.symm.trans hp')
    exact hrepeats
  · have hended := h.call (c := c) fun p hp => hinit ⟨p, hp⟩
    exact ⟨⟨fun _ p hp => absurd ⟨p, hp⟩ hinit, fun _ => hended.ended⟩, fun _ => hended⟩

theorem IsEnded.outcomes_iff (calls : List Call) :
    (∀ o ∈ r.outcomes calls, Ended problem o.reader) ↔ ∀ c ∈ calls, ∀ p, c.operation = .init p →
      Repeats problem (verdict typeMode c.world.files p) := by
  induction calls generalizing r with
  | nil => simp [outcomes]
  | cons c rest ih =>
    obtain ⟨hiff, hkeep⟩ := h.call_iff c
    rw [outcomes, List.forall_mem_cons, List.forall_mem_cons, ← hiff]
    exact and_congr_right fun hended => ih (hkeep hended)

end

/-- A problem that reading or initialising raises has ended the reader, and it lasts through any
calls exactly when none of them gives the reader parameters that it accepts, or that lead to another
problem. -/
theorem ended_lasts_iff {operation : Operation}
    (hoperation : operation = .read ∨ ∃ p, operation = .init p)
    (h : (r.perform w operation).result = .error (.problem problem)) (calls : List Call) :
    Ended problem (r.perform w operation).reader ∧
      ((∀ o ∈ (r.perform w operation).reader.outcomes calls, Ended problem o.reader) ↔
        ∀ c ∈ calls, ∀ p, c.operation = .init p →
          Repeats problem (verdict r.typeMode c.world.files p)) := by
  have hended : IsEnded problem r.typeMode (r.perform w operation).reader := by
    rcases hoperation with rfl | ⟨p, rfl⟩
    · refine read_problem ?_
      simp only [perform, Outcome.map] at h
      cases hresult : (r.read w).result with
      | ok o => simp [hresult, Except.map] at h
      | error failure => simpa [hresult, Except.map] using h
    · refine init_problem ?_
      simp only [perform, Outcome.map] at h
      cases hresult : (r.init p w).result with
      | ok o => simp [hresult, Except.map] at h
      | error failure => simpa [hresult, Except.map] using h
  exact ⟨hended.ended, hended.outcomes_iff calls⟩

def orphanWorld : World := sampleWorld "       88 B VALUE 'Y'."

def orphanParameters : Parameters := { sampleParameters with encoding := some "ascii" }

def orphanProblem : Problem :=
  .malformed "condition name B has no preceding data item" (some "C") 1

/-- Parameters that are accepted put the reader to work again. -/
theorem ended_lasts_iff_revived :
    let r := (new.init orphanParameters orphanWorld).reader
    let calls : List Call := [⟨orphanWorld, .init orphanParameters⟩]
    (r.perform orphanWorld .read).result = .error (.problem orphanProblem) ∧
      Ended orphanProblem (r.perform orphanWorld .read).reader ∧
      ¬ ∀ o ∈ (r.perform orphanWorld .read).reader.outcomes calls, Ended orphanProblem o.reader := by
  intro r calls
  have hread : (r.perform orphanWorld .read).result = .error (.problem orphanProblem) := by
    decide +kernel
  obtain ⟨hended, hiff⟩ := ended_lasts_iff (.inl rfl) hread calls
  have haccepted : (verdict r.typeMode orphanWorld.files orphanParameters).isOk = true := by
    decide +kernel
  refine ⟨hread, hended, fun hlasts => ?_⟩
  have hrepeats := hiff.mp hlasts ⟨orphanWorld, .init orphanParameters⟩ (by simp [calls]) _ rfl
  cases hverdict : verdict r.typeMode orphanWorld.files orphanParameters with
  | ok config => rwa [hverdict] at hrepeats
  | error failure => simp [hverdict, Except.isOk, Except.toBool] at haccepted

end Reader
end Copybook
