import Copybook.Proofs.Directory
import Copybook.Proofs.Lifecycle

/-!
The life of a reader that has been configured. Its reads take up the members in their order until
one of them has a problem or none is left, and from then on they answer alike. The status log and its
sink hold what has been reported on the way and nothing else. -/
namespace Copybook
namespace World

variable {v w : World}

/-- Surroundings `v` in which the sink is as it has been left in `w`; all else may have changed. -/
structure Precedes (w v : World) : Prop where
  sink : v.sink = w.sink
  held : v.held = w.held

theorem Precedes.refl (w : World) : w.Precedes w := ⟨rfl, rfl⟩

theorem Precedes.takes (h : w.Precedes v) (hw : w.IsReliable) : w.Takes [] v := by
  refine ⟨?_, ?_⟩
  · unfold IsReliable
    rw [h.sink]
    exact hw
  · rw [h.held]
    exact (Takes.refl hw).held

end World

namespace Reader

variable {r q : Reader} {u v w : World} {config : ReaderConfig} {path : Path}
  {members members' : Members} {calls : List Call} {problem : Problem}

/-- Calls between which nobody else writes to the sink, from a reader and its surroundings to what
they leave behind. -/
inductive Session : Reader → World → List Call → Reader → World → Prop
  | nil (r : Reader) (w : World) : Session r w [] r w
  | cons {r q : Reader} {v w : World} {c : Call} {rest : List Call} (hc : w.Precedes c.world)
      (hrest : Session (r.call c).reader (r.call c).world rest q v) : Session r w (c :: rest) q v

structure Reading where
  world : World
  result : Except Failure (Option DataObject)

def readings (r : Reader) : List Call → List Reading
  | [] => []
  | ⟨w, .read⟩ :: rest => ⟨w, (r.read w).result⟩ :: (r.read w).reader.readings rest
  | c :: rest => (r.call c).reader.readings rest

/-- Whether a read gives the object of a member. -/
def Yields (config : ReaderConfig) (path : Path) (reading : Reading) : Prop :=
  ∃ object, new.produce reading.world config path = .ok object ∧ reading.result = .ok (some object)

/-- How reads go on that yield no more objects, with the members that are left and the lines that
are reported. -/
inductive Ending (config : ReaderConfig) : List Path → List Reading → List Text → Prop
  | pause (left : List Path) : Ending config left [] []
  | exhausted {later : List Reading} (h : ∀ reading ∈ later, reading.result = .ok none) :
      Ending config [] later []
  | failed {path : Path} {left : List Path} {world : World} {later : List Reading}
      {problem : Problem} (hproduce : new.produce world config path = .error (.problem problem))
      (h : ∀ reading ∈ later, reading.result = .error (.problem problem)) :
      Ending config (path :: left) (⟨world, .error (.problem problem)⟩ :: later)
        (new.announcement config path ++ [problem.message])

/-- Reads that yield the first members one by one and then end. -/
def Transcript (config : ReaderConfig) (members : List Path) (reads : List Reading)
    (lines : List Text) : Prop :=
  ∃ taken left first later ending, members = taken ++ left ∧ reads = first ++ later ∧
    List.Forall₂ (Yields config) taken first ∧ Ending config left later ending ∧
    lines = taken.flatMap (new.announcement config) ++ ending

theorem Ending.transcript {left : List Path} {later : List Reading} {lines : List Text}
    (h : Ending config left later lines) : Transcript config left later lines :=
  ⟨[], left, [], later, lines, rfl, rfl, .nil, h, rfl⟩

theorem Transcript.cons {left : List Path} {reading : Reading} {later : List Reading}
    {lines : List Text} (h : Transcript config left later lines)
    (hyields : Yields config path reading) :
    Transcript config (path :: left) (reading :: later) (new.announcement config path ++ lines) := by
  obtain ⟨taken, left, first, later, ending, rfl, rfl, hfirst, hending, rfl⟩ := h
  refine ⟨path :: taken, left, reading :: first, later, ending, rfl, rfl, .cons hyields hfirst,
    hending, ?_⟩
  rw [List.flatMap_cons, List.append_assoc]

def complaint : Except Failure DataObject → List Text
  | .ok _ => []
  | .error (.problem problem) => [problem.message]
  | .error (.fault _) => []

theorem announcement_congr (hmode : r.typeMode = q.typeMode) (config : ReaderConfig)
    (path : Path) : r.announcement config path = q.announcement config path := by
  simp only [announcement, namespaceOf, hmode]

theorem takeUp_records (hmode : r.typeMode = false) (hs : r.status.suppressed = false)
    (hclosed : r.handle = none) (hw : w.IsReliable) (config : ReaderConfig) (path : Path) :
    (r.takeUp w config path).reader.handle = none ∧
      r.status.Records w (new.announcement config path) (r.takeUp w config path).reader.status
        (r.takeUp w config path).world := by
  obtain ⟨⟨rows, hreader⟩, hagrees⟩ := takeUp_leaves hclosed w config path
  rw [announcement_congr (q := new) hmode] at hreader hagrees
  have hlines := (StatusLog.appendAll_records hs hw (new.announcement config path)).2
  rw [hreader]
  exact ⟨hclosed, hlines.kept, hlines.suppressed, hlines.takes.of_agrees hagrees⟩

theorem fail_records {α : Type} (hs : r.status.suppressed = false) (hw : w.IsReliable)
    (problem : Problem) :
    (r.fail w problem : Outcome α).reader.handle = none ∧
      r.status.Records w [problem.message] (r.fail w problem : Outcome α).reader.status
        (r.fail w problem : Outcome α).world := by
  obtain ⟨hreader, hagrees⟩ := fail_leaves (α := α) r w problem
  have hline := (StatusLog.append_records hs hw problem.message).2
  rw [hreader]
  exact ⟨rfl, hline.kept, hline.suppressed, hline.takes.of_agrees hagrees⟩

theorem Serves.read_records (h : Serves new config members r) (hclosed : r.handle = none)
    (hw : w.IsReliable) (hnext : members.next = (some path, members')) :
    (r.read w).reader.handle = none ∧
      r.status.Records w
        (new.announcement config path ++ complaint (new.produce w config path))
        (r.read w).reader.status (r.read w).world := by
  have htaken := takeUp_records (r := { r with phase := .reading, members := some members' })
    h.typeMode h.suppressed hclosed hw config path
  have hresult := (takeUp_spec { r with phase := .reading, members := some members' } w config
    path).2.trans (produce_agrees (q := new) h.typeMode h.suppressed w config path)
  rw [h.read_member hnext, ← hresult]
  generalize takeUp _ w config path = outcome at htaken ⊢
  obtain ⟨q, v, result⟩ := outcome
  obtain ⟨hhandle, hlines⟩ := htaken
  cases result with
  | ok object =>
    rw [complaint, List.append_nil]
    exact ⟨hhandle, hlines⟩
  | error failure =>
    cases failure with
    | fault fault =>
      rw [complaint, List.append_nil]
      exact ⟨hhandle, hlines⟩
    | problem problem =>
      obtain ⟨hreleased, hline⟩ := fail_records (α := Option DataObject)
        (hlines.suppressed.trans h.suppressed) hlines.takes.reliable problem
      exact ⟨hreleased, hlines.trans hline⟩

theorem readings_close (h : r.handle = none) (w : World) (rest : List Call) :
    r.readings (⟨w, .close⟩ :: rest) = r.readings rest := by
  rw [readings, call_close h]
  rintro _ ⟨⟩

/-- A reader whose reads all answer alike goes on so, and nothing more is reported. -/
theorem Session.unchanging {result : Except Failure (Option DataObject)}
    (hsession : Session r w calls q v) (hread : ∀ w, r.read w = ⟨r, w, result⟩)
    (hclosed : r.handle = none) (hw : w.IsReliable)
    (hcalls : ∀ c ∈ calls, c.operation = .read ∨ c.operation = .close) :
    (∀ reading ∈ r.readings calls, reading.result = result) ∧ r.status.Records w [] q.status v := by
  induction hsession with
  | nil r w => exact ⟨by simp [readings], .refl _ hw⟩
  | @cons r q v w c rest hc hrest ih =>
    obtain ⟨u, operation⟩ := c
    rw [List.forall_mem_cons] at hcalls
    obtain ⟨hcall, hcalls⟩ := hcalls
    have hu : w.Takes [] u := hc.takes hw
    rcases hcall with rfl | rfl
    · have hstill : r.call ⟨u, .read⟩ = ⟨r, u, result.map .object⟩ := by
        simp [call, perform, Outcome.map, hread]
      rw [hstill] at ih
      obtain ⟨hall, hlines⟩ := ih hread hclosed hu.reliable hcalls
      rw [readings, hread]
      exact ⟨List.forall_mem_cons.mpr ⟨rfl, hall⟩, hlines.of_takes hu⟩
    · rw [call_close hclosed] at ih
      obtain ⟨hall, hlines⟩ := ih hread hclosed hu.reliable hcalls
      rw [readings_close hclosed]
      exact ⟨hall, hlines.of_takes hu⟩

section

variable {rest : List Call} (h : Serves new config members r) (hclosed : r.handle = none)
  (hw : w.IsReliable) (hsession : Session (r.read w).reader (r.read w).world rest q v)
  (hcalls : ∀ c ∈ rest, c.operation = .read ∨ c.operation = .close)
include h hclosed hw hsession hcalls

theorem Serves.exhausted (hnext : members.next.1 = none) :
    Ending config members.left (⟨w, (r.read w).result⟩ :: (r.read w).reader.readings rest) [] ∧
      r.status.Records w [] q.status v := by
  have hdone : ∀ w, Reader.read { r with phase := .done } w =
      ⟨{ r with phase := .done }, w, .ok none⟩ := read_done rfl
  rw [h.read_last hnext] at hsession ⊢
  obtain ⟨hall, hlines⟩ := hsession.unchanging hdone hclosed hw hcalls
  rw [Members.left_of_none hnext]
  exact ⟨.exhausted (List.forall_mem_cons.mpr ⟨rfl, hall⟩), hlines⟩

theorem Serves.failed (hnext : members.next = (some path, members'))
    (hproduce : new.produce w config path = .error (.problem problem)) :
    Ending config members.left (⟨w, (r.read w).result⟩ :: (r.read w).reader.readings rest)
        (new.announcement config path ++ [problem.message]) ∧
      r.status.Records w (new.announcement config path ++ [problem.message]) q.status v := by
  have hspec := h.read_spec hnext w
  obtain ⟨hreleased, hlines⟩ := h.read_records hclosed hw hnext
  rw [hproduce] at hspec hlines
  obtain ⟨hresult, hphase, hproblem⟩ := hspec
  obtain ⟨hall, hmore⟩ := hsession.unchanging (read_failed hphase hproblem) hreleased
    hlines.takes.reliable hcalls
  have hreported := hlines.trans hmore
  rw [List.append_nil] at hreported
  rw [Members.left_of_some hnext, hresult]
  exact ⟨.failed hproduce hall, hreported⟩

end

/-- The reads of a reader that serves members, and what it has reported at the end. -/
theorem Session.transcript (hsession : Session r w calls q v) (h : Serves new config members r)
    (hclosed : r.handle = none) (hw : w.IsReliable)
    (hcalls : ∀ c ∈ calls, c.operation = .read ∨ c.operation = .close)
    (hproblems : ∀ o ∈ r.outcomes calls, ∀ fault, o.result ≠ .error (.fault fault)) :
    ∃ lines, Transcript config members.left (r.readings calls) lines ∧
      r.status.Records w lines q.status v := by
  -- The reader serves what is left as long as its reads yield objects; the first read that does not
  -- settles the rest.
  induction hsession generalizing members with
  | nil r w => exact ⟨[], (Ending.pause _).transcript, .refl _ hw⟩
  | @cons r q v w c rest hc hrest ih =>
    obtain ⟨u, operation⟩ := c
    rw [List.forall_mem_cons] at hcalls
    rw [outcomes, List.forall_mem_cons] at hproblems
    obtain ⟨hcall, hcalls⟩ := hcalls
    obtain ⟨hproblem, hproblems⟩ := hproblems
    have hu : w.Takes [] u := hc.takes hw
    rcases hcall with rfl | rfl
    · change Session (r.read u).reader (r.read u).world rest q v at hrest
      rw [readings]
      cases hpath : members.next.1 with
      | none =>
        obtain ⟨hending, hlines⟩ := h.exhausted hclosed hu.reliable hrest hcalls hpath
        exact ⟨[], hending.transcript, hlines.of_takes hu⟩
      | some path =>
        have hnext : members.next = (some path, members.next.2) := Prod.ext hpath rfl
        have hspec := h.read_spec hnext u
        cases hproduce : new.produce u config path with
        | ok object =>
          obtain ⟨hreleased, hreport⟩ := h.read_records hclosed hu.reliable hnext
          rw [hproduce, complaint, List.append_nil] at hreport
          rw [hproduce] at hspec
          obtain ⟨hresult, hserves⟩ := hspec
          obtain ⟨lines, htranscript, hlines⟩ :=
            ih hserves hreleased hreport.takes.reliable hcalls hproblems
          rw [Members.left_of_some hnext]
          exact ⟨_, htranscript.cons ⟨object, hproduce, hresult⟩,
            (hreport.trans hlines).of_takes hu⟩
        | error failure =>
          cases failure with
          | problem problem =>
            obtain ⟨hending, hlines⟩ :=
              h.failed hclosed hu.reliable hrest hcalls hnext hproduce
            exact ⟨_, hending.transcript, hlines.of_takes hu⟩
          | fault fault =>
            rw [hproduce] at hspec
            refine absurd ?_ (hproblem fault)
            simp [call, perform, Outcome.map, hspec, Except.map]
    · rw [call_close hclosed] at ih hproblems
      obtain ⟨lines, htranscript, hlines⟩ := ih h hclosed hu.reliable hcalls hproblems
      rw [readings_close hclosed]
      exact ⟨lines, htranscript, hlines.of_takes hu⟩

/-- Once a reader has been configured, its reads yield the objects of its first members in order. Then
all of them have been read and there is nothing more, or the next member has a problem, which every
later read has too. The lines that announce these members and the one problem are all that the
status log and the sink have received. -/
theorem init_transcript (earlier : List Call) {p : Parameters}
    (hmode : (new.after earlier).typeMode = false) (hw : w.IsReliable)
    (hinit : ((new.after earlier).init p w).result = .ok ())
    (hsession : Session ((new.after earlier).init p w).reader ((new.after earlier).init p w).world
      calls q v)
    (hcalls : ∀ c ∈ calls, c.operation = .read ∨ c.operation = .close)
    (hproblems : ∀ o ∈ ((new.after earlier).init p w).reader.outcomes calls,
      ∀ fault, o.result ≠ .error (.fault fault)) :
    ∃ config lines, ReaderConfig.ofParameters w.files p = .ok config ∧
      Transcript config (Members.ofConfig w.files config).all
        (((new.after earlier).init p w).reader.readings calls) lines ∧
      q.status.lines = (new.after earlier).status.lines ++ lines ∧
      v.held = w.held.map (· ++ Encoding.encodeUtf8 (World.textOf lines)) := by
  have hsound := isSound_new.after earlier
  obtain ⟨config, records, hverdict, hconfigured⟩ := init_ok hinit
  rw [hconfigured] at hsession hproblems ⊢
  have hserves : Serves new config (Members.ofConfig w.files config) { new.after earlier with
      phase := .configured, config := some config,
      members := some (Members.ofConfig w.files config) } :=
    ⟨.inl rfl, rfl, rfl, hmode, hsound.typed.silent.trans hmode⟩
  obtain ⟨lines, htranscript, hlines⟩ :=
    hsession.transcript hserves hsound.closed hw hcalls hproblems
  rw [Members.left, Members.taken_ofConfig, List.drop_zero] at htranscript
  exact ⟨config, lines, (verdict_ok hverdict).1, htranscript, hlines.kept, hlines.takes.held⟩

/-- Calls that find all as the one before them has left it. -/
def undisturbed (r : Reader) (w : World) : List Operation → List Call
  | [] => []
  | operation :: rest =>
    let o := r.perform w operation
    ⟨w, operation⟩ :: o.reader.undisturbed o.world rest

theorem session_undisturbed (r : Reader) (w : World) (operations : List Operation) :
    ∃ q v, Session r w (r.undisturbed w operations) q v := by
  induction operations generalizing r w with
  | nil => exact ⟨r, w, .nil r w⟩
  | cons operation rest ih =>
    obtain ⟨q, v, hrest⟩ := ih (r.perform w operation).reader (r.perform w operation).world
    exact ⟨q, v, .cons (.refl w) hrest⟩

/-- A reader of two members of which the second has a problem. -/
theorem init_transcript_pair :
    let start := new.init directoryParameters pairWorld
    let calls := start.reader.undisturbed start.world [.read, .close, .read, .read]
    pairWorld.IsReliable ∧ start.result = .ok () ∧
      (∀ c ∈ calls, c.operation = .read ∨ c.operation = .close) ∧
      (∀ o ∈ start.reader.outcomes calls, ∀ fault, o.result ≠ .error (.fault fault)) ∧
      (start.reader.readings calls).map (·.result.isOk) = [true, false, false] ∧
      ∃ q v config lines, Session start.reader start.world calls q v ∧
        ReaderConfig.ofParameters pairWorld.files directoryParameters = .ok config ∧
        Transcript config (Members.ofConfig pairWorld.files config).all
          (start.reader.readings calls) lines ∧
        q.status.lines = lines ∧ v.held = some (Encoding.encodeUtf8 (World.textOf lines)) := by
  intro start calls
  have hw : pairWorld.IsReliable := trivial
  have hinit : start.result = .ok () := by decide +kernel
  have hcalls : ∀ c ∈ calls, c.operation = .read ∨ c.operation = .close := by
    simp [calls, undisturbed]
  have hreadings : (start.reader.readings calls).map (·.result.isOk) = [true, false, false] := by
    decide +kernel
  have hproblems : ∀ o ∈ start.reader.outcomes calls,
      ∀ fault, o.result ≠ .error (.fault fault) := by
    have hall : ((start.reader.outcomes calls).all fun o => !isFaulty o.result) = true := by
      decide +kernel
    intro o ho fault hfault
    simpa [hfault, isFaulty, Failure.isFault] using List.all_eq_true.mp hall o ho
  obtain ⟨q, v, hsession⟩ := session_undisturbed start.reader start.world [.read, .close, .read, .read]
  obtain ⟨config, lines, hconfig, htranscript, hlines, hheld⟩ :=
    init_transcript [] (p := directoryParameters) rfl hw hinit hsession hcalls hproblems
  exact ⟨hw, hinit, hcalls, hproblems, hreadings, q, v, config, lines, hsession, hconfig,
    htranscript, hlines, hheld⟩

end Reader
end Copybook
