import Copybook.Proofs.Directory
import Copybook.Run.Task

/-!
Surroundings that a reader cannot tell apart. Whatever relation between them outlasts the reporting
of lines, and holds only where the same paths lead to the same copybooks, is kept by every operation
of a reader, and the operation comes to the same on both sides. -/
namespace Copybook
namespace World

variable {u v w : World}

@[simp] theorem note_nil (w : World) : w.note [] = w := by simp [note]

/-- A relation that reporting a line does not break; the line is taken on both sides or on none. -/
structure Lasts (R : World → World → Prop) : Prop where
  note {v w : World} (h : R v w) (records more : List Log.Record) : R (v.note records) (w.note more)
  send {v w : World} (h : R v w) (text : Text) :
    (v.send text).2 = (w.send text).2 ∧ R (v.send text).1 (w.send text).1

/-- A relation between surroundings in which parameters give the same configuration with the same
members. -/
structure Matches (R : World → World → Prop) : Prop extends Lasts R where
  config {v w : World} (h : R v w) (p : Parameters) :
    ReaderConfig.ofParameters v.files p = ReaderConfig.ofParameters w.files p
  members {v w : World} (h : R v w) (config : ReaderConfig) :
    Members.ofConfig v.files config = Members.ofConfig w.files config
  trouble {v w : World} (h : R v w) (source : Source) :
    Members.trouble? v.files source = Members.trouble? w.files source

def Shares (R : World → World → Prop) (path : Path) : Prop :=
  ∀ v w, R v w → v.files.read path = w.files.read path

theorem matches_agrees : Matches Agrees where
  note h := h.note
  send h text := (h.send text).symm
  config h p := by rw [h.1]
  members h config := by rw [h.1]
  trouble h source := by rw [h.1]

theorem shares_agrees (path : Path) : Shares Agrees path := fun v w h => by rw [h.1]

structure Kept (P : World → Prop) : Prop where
  note {w : World} (h : P w) (records : List Log.Record) : P (w.note records)
  send {w : World} (h : P w) (text : Text) : P (w.send text).1

theorem matches_agrees_and {P : World → Prop} (h : Kept P) :
    Matches fun v w => v.Agrees w ∧ P w where
  note hr _ more := ⟨hr.1, h.note hr.2 more⟩
  send hr text := ⟨(hr.1.send text).2, (hr.1.send text).1, h.send hr.2 text⟩
  config hr := matches_agrees.config hr.1
  members hr := matches_agrees.members hr.1
  trouble hr := matches_agrees.trouble hr.1

def IsApart (w : World) (path : Path) : Prop :=
  ∀ place, w.sink = some (.file place) → w.files.locate path ≠ .ok place

theorem kept_apart (files : Files.Tree) (path : Path) :
    Kept fun w => w.IsApart path ∧ w.files.read path = files.read path where
  note h _ := h
  send {w} h text := by
    obtain ⟨hapart, hread⟩ := h
    obtain ⟨tree, log, sink, closeFails⟩ := w
    cases sink with
    | none => exact ⟨hapart, hread⟩
    | some sink =>
      cases sink with
      | closed => exact ⟨hapart, hread⟩
      | memory content room =>
        rcases room with _ | _ | room
        · exact ⟨by rintro place ⟨⟩, hread⟩
        · exact ⟨hapart, hread⟩
        · exact ⟨by rintro place ⟨⟩, hread⟩
      | file place =>
        refine ⟨?_, ?_⟩
        · rintro other ⟨⟩
          dsimp only [send]
          rw [Files.Tree.locate_append]
          exact hapart place rfl
        · dsimp only [send]
          rw [Files.Tree.read_append (hapart place rfl)]
          exact hread

end World

variable {R : World → World → Prop} {v w : World}

namespace StatusLog

variable (h : World.Lasts R)
include h

theorem append_lasts (s : StatusLog) (line : Text) (hr : R v w) :
    (s.append line v).status = (s.append line w).status ∧
      (s.append line v).problem = (s.append line w).problem ∧
      R (s.append line v).world (s.append line w).world := by
  unfold append
  split
  · exact ⟨rfl, rfl, hr⟩
  · have hsend := h.send (h.note hr [⟨.info, Log.Channel.status, line⟩]
      [⟨.info, Log.Channel.status, line⟩]) (line ++ ['\n'])
    generalize (v.note [⟨.info, Log.Channel.status, line⟩]).send (line ++ ['\n']) = sent at hsend ⊢
    generalize (w.note [⟨.info, Log.Channel.status, line⟩]).send (line ++ ['\n']) = sent' at hsend ⊢
    obtain ⟨v', answer⟩ := sent
    obtain ⟨w', answer'⟩ := sent'
    obtain ⟨hanswer, hworld⟩ := hsend
    obtain rfl : answer = answer' := hanswer
    cases answer <;> exact ⟨rfl, rfl, hworld⟩

theorem appendAll_lasts (s : StatusLog) (lines : List Text) (hr : R v w) :
    (s.appendAll lines v).status = (s.appendAll lines w).status ∧
      (s.appendAll lines v).problem = (s.appendAll lines w).problem ∧
      R (s.appendAll lines v).world (s.appendAll lines w).world := by
  induction lines generalizing s v w with
  | nil => exact ⟨rfl, rfl, hr⟩
  | cons line rest ih =>
    have hline := append_lasts h s line hr
    rw [appendAll, appendAll]
    generalize s.append line v = outcome at hline ⊢
    generalize s.append line w = outcome' at hline ⊢
    obtain ⟨t, v', problem⟩ := outcome
    obtain ⟨t', w', problem'⟩ := outcome'
    obtain ⟨hstatus, hproblem, hworld⟩ := hline
    obtain rfl : t = t' := hstatus
    obtain rfl : problem = problem' := hproblem
    cases problem with
    | none => exact ih t hworld
    | some problem => exact ⟨rfl, rfl, hworld⟩

end StatusLog

namespace Reader

/-- Two outcomes between which the surroundings make no difference. -/
structure Outcome.Same {α : Type} (R : World → World → Prop) (o o' : Outcome α) : Prop where
  reader : o.reader = o'.reader
  result : o.result = o'.result
  world : R o.world o'.world

section

variable (h : World.Lasts R)
include h

theorem release_lasts (r : Reader) (hr : R v w) :
    (r.release v).1 = (r.release w).1 ∧ R (r.release v).2 (r.release w).2 := by
  have hleft : ∀ {v w : World} (records : List Log.Record), R v w → R (v.note records) w := by
    intro v w records hr
    simpa using h.note hr records []
  have hright : ∀ {v w : World} (records : List Log.Record), R v w → R v (w.note records) := by
    intro v w records hr
    simpa using h.note hr [] records
  unfold release
  split
  · exact ⟨rfl, hr⟩
  · refine ⟨rfl, ?_⟩
    dsimp only
    split <;> split
    · exact h.note hr _ _
    · exact hleft _ hr
    · exact hright _ hr
    · exact hr

theorem fail_lasts {α : Type} (r : Reader) (hr : R v w) (problem : Problem) :
    Outcome.Same R (r.fail v problem : Outcome α) (r.fail w problem) := by
  obtain ⟨hreader, hworld⟩ := release_lasts h r hr
  unfold fail
  generalize r.release v = released at hreader hworld ⊢
  generalize r.release w = released' at hreader hworld ⊢
  obtain ⟨q, v'⟩ := released
  obtain ⟨q', w'⟩ := released'
  obtain rfl : q = q' := hreader
  have hline := StatusLog.append_lasts h q.status problem.message hworld
  dsimp only
  generalize q.status.append problem.message v' = outcome at hline ⊢
  generalize q.status.append problem.message w' = outcome' at hline ⊢
  obtain ⟨status, v'', trouble⟩ := outcome
  obtain ⟨status', w'', trouble'⟩ := outcome'
  obtain ⟨hstatus, htrouble, hlast⟩ := hline
  obtain rfl : status = status' := hstatus
  obtain rfl : trouble = trouble' := htrouble
  cases trouble with
  | none => exact ⟨rfl, rfl, hlast⟩
  | some trouble => exact ⟨rfl, rfl, h.note hlast _ _⟩

theorem harvest_lasts (r : Reader) (hr : R v w) (config : ReaderConfig) (path : Path)
    (opened : Bytes × Encoding.Decoder) :
    Outcome.Same R (r.harvest v config path opened) (r.harvest w config path opened) := by
  obtain ⟨hreader, hworld⟩ := release_lasts h
    { r with handle := some path, types := addRows r.types (r.harvested config path opened).1.rows }
    (h.note hr (r.harvested config path opened).1.notes (r.harvested config path opened).1.notes)
  exact ⟨hreader, rfl, hworld⟩

/-- A member comes to the same where the copybook is the same once it has been announced. -/
theorem takeUp_lasts (r : Reader) (hr : R v w) (config : ReaderConfig) {path : Path}
    (hread : World.Shares R path) :
    Outcome.Same R (r.takeUp v config path) (r.takeUp w config path) := by
  unfold takeUp
  dsimp only
  have hnoted := h.note hr (r.namespaceOf config path).notes (r.namespaceOf config path).notes
  cases (r.namespaceOf config path).result with
  | error failure => exact ⟨rfl, rfl, hnoted⟩
  | ok nameSpace =>
    have hbanner := StatusLog.appendAll_lasts h r.status
      [StatusLog.separator, "Importing " ++ path.name, StatusLog.separator] hnoted
    unfold StatusLog.banner
    generalize r.status.appendAll _ (v.note _) = outcome at hbanner ⊢
    generalize r.status.appendAll _ (w.note _) = outcome' at hbanner ⊢
    obtain ⟨status, v', trouble⟩ := outcome
    obtain ⟨status', w', trouble'⟩ := outcome'
    obtain ⟨hstatus, htrouble, hworld⟩ := hbanner
    obtain rfl : status = status' := hstatus
    obtain rfl : trouble = trouble' := htrouble
    cases trouble with
    | some trouble => exact ⟨rfl, rfl, hworld⟩
    | none =>
      dsimp only
      have hbegun := h.note hworld
        [⟨.info, Log.Channel.copybooks, "Importing " ++ path.toText⟩]
        [⟨.info, Log.Channel.copybooks, "Importing " ++ path.toText⟩]
      generalize v'.note _ = v'' at hbegun ⊢
      generalize w'.note _ = w'' at hbegun ⊢
      rw [openCopybook_congr (hread _ _ hbegun)]
      cases openCopybook w''.files path config.encoding with
      | error failure => exact ⟨rfl, rfl, hbegun⟩
      | ok opened =>
        have hharvest := harvest_lasts h { r with status := status } hbegun config path opened
        dsimp only
        generalize Reader.harvest _ v'' config path opened = outcome at hharvest ⊢
        generalize Reader.harvest _ w'' config path opened = outcome' at hharvest ⊢
        obtain ⟨q, x, result⟩ := outcome
        obtain ⟨q', y, result'⟩ := outcome'
        obtain ⟨hq, hresult, hlast⟩ := hharvest
        obtain rfl : q = q' := hq
        obtain rfl : result = result' := hresult
        cases result with
        | error failure => exact ⟨rfl, rfl, hlast⟩
        | ok attributes => exact ⟨rfl, rfl, h.note hlast _ _⟩

theorem readNext_lasts (r : Reader) (hr : R v w)
    (hread : ∀ path ∈ r.upcoming, World.Shares R path) :
    Outcome.Same R (r.readNext v) (r.readNext w) := by
  obtain ⟨phase, config, members, typeMode, types, status, problem, handle⟩ := r
  cases config with
  | none => exact ⟨rfl, rfl, hr⟩
  | some config =>
    cases members with
    | none => exact ⟨rfl, rfl, hr⟩
    | some members =>
      rcases hnext : members.next with ⟨next, members'⟩
      cases next with
      | none =>
        simp only [readNext, hnext]
        exact ⟨rfl, rfl, hr⟩
      | some path =>
        have hmem : path ∈ members.left := by
          rw [Members.left_of_some hnext]
          exact List.mem_cons_self
        have htaken := takeUp_lasts h
          ⟨phase, some config, some members', typeMode, types, status, problem, handle⟩ hr config
          (hread path hmem)
        simp only [readNext, hnext]
        exact ⟨htaken.reader, congrArg (Except.map some) htaken.result, htaken.world⟩

theorem read_lasts (r : Reader) (hr : R v w)
    (hread : ∀ path ∈ r.upcoming, World.Shares R path) :
    Outcome.Same R (r.read v) (r.read w) := by
  unfold read
  split
  · exact ⟨rfl, rfl, hr⟩
  · exact fail_lasts h r hr _
  · exact ⟨rfl, rfl, hr⟩
  · have hnext := readNext_lasts h { r with phase := .reading } hr hread
    generalize readNext _ v = outcome at hnext ⊢
    generalize readNext _ w = outcome' at hnext ⊢
    obtain ⟨q, v', result⟩ := outcome
    obtain ⟨q', w', result'⟩ := outcome'
    obtain ⟨hq, hresult, hworld⟩ := hnext
    obtain rfl : q = q' := hq
    obtain rfl : result = result' := hresult
    cases result with
    | error failure =>
      cases failure with
      | problem problem => exact fail_lasts h q hworld problem
      | fault fault => exact ⟨rfl, rfl, hworld⟩
    | ok next => cases next <;> exact ⟨rfl, rfl, hworld⟩

end

theorem upcoming_readNext (r : Reader) (w : World) :
    ∀ path ∈ (r.readNext w).reader.upcoming, path ∈ r.upcoming := by
  intro path hpath
  obtain ⟨phase, config, members, typeMode, types, status, problem, handle⟩ := r
  cases config with
  | none => exact hpath
  | some config =>
    cases members with
    | none => exact hpath
    | some members =>
      rcases hnext : members.next with ⟨next, members'⟩
      cases next with
      | none =>
        simp only [readNext, hnext] at hpath
        exact hpath
      | some place =>
        have hkept := (takeUp_spec
          ⟨phase, some config, some members', typeMode, types, status, problem, handle⟩ w config
          place).1.members
        simp only [readNext, hnext, upcoming, hkept] at hpath
        change path ∈ members.left
        rw [Members.left_of_some hnext]
        exact List.mem_cons_of_mem _ hpath

theorem upcoming_read (r : Reader) (w : World) :
    ∀ path ∈ (r.read w).reader.upcoming, path ∈ r.upcoming := by
  intro path hpath
  have hfail : ∀ (q : Reader) (v : World) (problem : Problem),
      (q.fail v problem : Outcome (Option DataObject)).reader.upcoming = q.upcoming := by
    intro q v problem
    rw [upcoming, (fail_leaves q v problem).1]
    rfl
  have hnext := upcoming_readNext { r with phase := .reading } w path
  unfold read at hpath
  split at hpath
  · exact hpath
  · rwa [hfail] at hpath
  · exact hpath
  · generalize readNext _ w = outcome at hpath hnext
    obtain ⟨q, v, result⟩ := outcome
    cases result with
    | error failure =>
      cases failure with
      | problem problem =>
        rw [hfail] at hpath
        exact hnext hpath
      | fault fault => exact hnext hpath
    | ok next => cases next <;> exact hnext hpath

structure Remainder.Same (R : World → World → Prop) (e e' : Remainder) : Prop where
  reader : e.reader = e'.reader
  objects : e.objects = e'.objects
  failure : e.failure = e'.failure
  world : R e.world e'.world

theorem readOver_lasts (h : World.Lasts R) (r : Reader) (hr : R v w) (paths : List Path)
    (hread : ∀ path ∈ r.upcoming, World.Shares R path) :
    Remainder.Same R (r.readOver v paths) (r.readOver w paths) := by
  induction paths generalizing r v w with
  | nil =>
    have hfirst := read_lasts h r hr hread
    unfold readOver
    generalize r.read v = outcome at hfirst ⊢
    generalize r.read w = outcome' at hfirst ⊢
    obtain ⟨q, v', result⟩ := outcome
    obtain ⟨q', w', result'⟩ := outcome'
    obtain ⟨hq, hresult, hworld⟩ := hfirst
    obtain rfl : q = q' := hq
    obtain rfl : result = result' := hresult
    cases result <;> exact ⟨rfl, rfl, rfl, hworld⟩
  | cons path rest ih =>
    have hfirst := read_lasts h r hr hread
    have hleft := upcoming_read r v
    unfold readOver
    generalize r.read v = outcome at hfirst hleft ⊢
    generalize r.read w = outcome' at hfirst ⊢
    obtain ⟨q, v', result⟩ := outcome
    obtain ⟨q', w', result'⟩ := outcome'
    obtain ⟨hq, hresult, hworld⟩ := hfirst
    obtain rfl : q = q' := hq
    obtain rfl : result = result' := hresult
    cases result with
    | error failure => exact ⟨rfl, rfl, rfl, hworld⟩
    | ok next =>
      cases next with
      | none => exact ⟨rfl, rfl, rfl, hworld⟩
      | some object =>
        have hrest := ih q hworld fun place hplace => hread place (hleft place hplace)
        exact ⟨hrest.reader, congrArg (object :: ·) hrest.objects, hrest.failure, hrest.world⟩

theorem init_matches (h : World.Matches R) (r : Reader) (p : Parameters) (hr : R v w) :
    Outcome.Same R (r.init p v) (r.init p w) := by
  unfold init
  rw [h.config hr p]
  cases ReaderConfig.ofParameters w.files p with
  | error failure =>
    cases failure with
    | problem problem => exact fail_lasts h.toLasts _ hr problem
    | fault fault => exact ⟨rfl, rfl, hr⟩
  | ok config =>
    dsimp only
    rw [h.members hr config, h.trouble hr config.source]
    cases Members.trouble? w.files config.source with
    | some fault => exact ⟨rfl, rfl, hr⟩
    | none =>
      dsimp only
      cases (if r.typeMode then checkTypeMode config else .ok ()) with
      | error problem => exact fail_lasts h.toLasts _ hr problem
      | ok _ => exact ⟨rfl, rfl, h.note hr _ _⟩

end Reader

namespace Run

/-- What a task comes to but for the surroundings that it leaves. -/
structure Yield.Same (R : World → World → Prop) (y y' : Yield) : Prop where
  objects : y.objects = y'.objects
  rows : y.rows = y'.rows
  status : y.status = y'.status
  failure : y.failure = y'.failure
  world : R y.world y'.world

theorem Task.perform_matches (h : World.Matches R) (t : Task) (typeMode : Bool) (hr : R v w)
    (hread : ∀ config, ReaderConfig.ofParameters w.files t.parameters = .ok config →
      ∀ path ∈ (Members.ofConfig w.files config).all, World.Shares R path) :
    Yield.Same R (t.perform typeMode v) (t.perform typeMode w) := by
  have hinit := Reader.init_matches h (newReader typeMode) t.parameters hr
  have hupcoming : ((newReader typeMode).init t.parameters w).result = .ok () →
      ∀ path ∈ ((newReader typeMode).init t.parameters w).reader.upcoming,
        World.Shares R path := by
    intro hok path hpath
    obtain ⟨config, hconfig, hserves⟩ := Reader.init_spec hok
    rw [Reader.upcoming, hserves.members] at hpath
    exact hread config hconfig path (List.mem_of_mem_drop hpath)
  unfold Task.perform
  generalize (newReader typeMode).init t.parameters v = outcome at hinit ⊢
  generalize (newReader typeMode).init t.parameters w = outcome' at hinit hupcoming ⊢
  obtain ⟨q, v', result⟩ := outcome
  obtain ⟨q', w', result'⟩ := outcome'
  obtain ⟨hq, hresult, hworld⟩ := hinit
  obtain rfl : q = q' := hq
  obtain rfl : result = result' := hresult
  cases result with
  | error failure => exact ⟨rfl, rfl, rfl, rfl, (Reader.release_lasts h.toLasts q hworld).2⟩
  | ok _ =>
    have hrest := Reader.readOver_lasts h.toLasts q hworld q.upcoming (hupcoming rfl)
    dsimp only
    unfold Reader.readAll
    generalize q.readOver v' q.upcoming = rest at hrest ⊢
    generalize q.readOver w' q.upcoming = rest' at hrest ⊢
    obtain ⟨last, v'', objects, failure⟩ := rest
    obtain ⟨last', w'', objects', failure'⟩ := rest'
    obtain ⟨hlast, hobjects, hfailure, hend⟩ := hrest
    obtain rfl : last = last' := hlast
    obtain rfl : objects = objects' := hobjects
    obtain rfl : failure = failure' := hfailure
    obtain ⟨hclosed, hleft⟩ := Reader.release_lasts h.toLasts last hend
    dsimp only [Reader.close]
    rw [hclosed]
    exact ⟨rfl, rfl, rfl, rfl, hleft⟩

end Run
end Copybook
