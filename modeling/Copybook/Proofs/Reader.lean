import Copybook.Proofs.Result
import Copybook.Reader

/-!
What the operations of a reader come to. A read of a reader that has members left takes up the next
one; it then goes on, or it has failed for good, or a fault has passed through it. -/
namespace Copybook

def Failure.isFault : Failure → Bool
  | .problem _ => false
  | .fault _ => true

def isFaulty {α : Type} : Except Failure α → Bool
  | .error failure => failure.isFault
  | .ok _ => false

/-- Surroundings that differ in their log only. -/
def World.Agrees (v w : World) : Prop := v.files = w.files ∧ v.sink = w.sink

theorem World.Agrees.note {v w : World} (h : v.Agrees w) (records more : List Log.Record) :
    (v.note records).Agrees (w.note more) := h

theorem World.agrees_note (w : World) (records : List Log.Record) : (w.note records).Agrees w :=
  ⟨rfl, rfl⟩

theorem World.Agrees.send {v w : World} (h : v.Agrees w) (text : Text) :
    (v.send text).1.Agrees (w.send text).1 ∧ (v.send text).2 = (w.send text).2 := by
  obtain ⟨hfiles, hsink⟩ := h
  unfold World.send
  rw [hsink]
  split <;> simp [World.Agrees, hfiles, hsink]

namespace Members

variable {members members' : Members} {path : Path}

theorem next_some (h : members.next = (some path, members')) :
    members.all[members.taken]? = some path ∧ members' = { members with taken := members.taken + 1 } := by
  unfold next at h
  split at h
  · rename_i place hplace
    obtain ⟨hpath, rfl⟩ := Prod.mk.inj h
    exact ⟨hplace.trans hpath, rfl⟩
  · cases h

theorem next_none (h : members.next.1 = none) : members.all[members.taken]? = none := by
  unfold next at h
  split at h
  · cases h
  · assumption

def left (members : Members) : List Path := members.all.drop members.taken

theorem left_of_none (h : members.next.1 = none) : members.left = [] :=
  List.drop_eq_nil_of_le (List.getElem?_eq_none_iff.mp (next_none h))

theorem left_of_some (h : members.next = (some path, members')) :
    members.left = path :: members'.left := by
  obtain ⟨hplace, rfl⟩ := next_some h
  obtain ⟨hlt, hpath⟩ := List.getElem?_eq_some_iff.mp hplace
  rw [left, List.drop_eq_getElem_cons hlt, hpath, left]

end Members

namespace StatusLog

variable {s t : StatusLog} {v w : World}

theorem append_suppressed (s : StatusLog) (line : Text) (w : World) :
    (s.append line w).status.suppressed = s.suppressed := by
  unfold append
  cases hs : s.suppressed with
  | true => simp [hs]
  | false =>
    rw [if_neg (by simp)]
    dsimp only
    split <;> rfl

theorem appendAll_suppressed (s : StatusLog) (lines : List Text) (w : World) :
    (s.appendAll lines w).status.suppressed = s.suppressed := by
  induction lines generalizing s w with
  | nil => rfl
  | cons line rest ih =>
    have happend := append_suppressed s line w
    rw [appendAll]
    generalize s.append line w = outcome at happend ⊢
    obtain ⟨s', w', problem⟩ := outcome
    cases problem with
    | none => exact (ih s' w').trans happend
    | some problem => exact happend

/-- Where a line goes does not depend on the lines before it. -/
theorem append_agrees (hs : s.suppressed = t.suppressed) (h : v.Agrees w) (line : Text) :
    (s.append line v).problem = (t.append line w).problem ∧
      (s.append line v).world.Agrees (t.append line w).world := by
  unfold append
  rw [hs]
  cases ht : t.suppressed with
  | true => exact ⟨rfl, h⟩
  | false =>
    have hsend := (h.note [⟨.info, Log.Channel.status, line⟩]
      [⟨.info, Log.Channel.status, line⟩]).send (line ++ ['\n'])
    rw [if_neg (by simp), if_neg (by simp)]
    generalize (v.note [⟨.info, Log.Channel.status, line⟩]).send (line ++ ['\n']) = sent at hsend ⊢
    generalize (w.note [⟨.info, Log.Channel.status, line⟩]).send (line ++ ['\n']) = sent' at hsend ⊢
    obtain ⟨v', answer⟩ := sent
    obtain ⟨w', answer'⟩ := sent'
    obtain ⟨hworld, hanswer⟩ := hsend
    obtain rfl : answer = answer' := hanswer
    cases answer <;> exact ⟨rfl, hworld⟩

theorem appendAll_agrees (hs : s.suppressed = t.suppressed) (h : v.Agrees w) (lines : List Text) :
    (s.appendAll lines v).problem = (t.appendAll lines w).problem ∧
      (s.appendAll lines v).world.Agrees (t.appendAll lines w).world := by
  induction lines generalizing s t v w with
  | nil => exact ⟨rfl, h⟩
  | cons line rest ih =>
    have happend := append_agrees hs h line
    have hs' : (s.append line v).status.suppressed = (t.append line w).status.suppressed := by
      rw [append_suppressed, append_suppressed, hs]
    rw [appendAll, appendAll]
    generalize s.append line v = outcome at happend hs' ⊢
    generalize t.append line w = outcome' at happend hs' ⊢
    obtain ⟨s', v', problem⟩ := outcome
    obtain ⟨t', w', problem'⟩ := outcome'
    obtain ⟨hproblem, hworld⟩ := happend
    obtain rfl : problem = problem' := hproblem
    cases problem with
    | none => exact ih hs' hworld
    | some problem => exact ⟨rfl, hworld⟩

theorem append_status (s : StatusLog) (line : Text) (v w : World) :
    (s.append line v).status = (s.append line w).status := by
  unfold append
  split
  · rfl
  · dsimp only
    split <;> split <;> rfl

theorem appendAll_status (s : StatusLog) (h : v.Agrees w) (lines : List Text) :
    (s.appendAll lines v).status = (s.appendAll lines w).status := by
  induction lines generalizing s v w with
  | nil => rfl
  | cons line rest ih =>
    have hstatus := append_status s line v w
    have happend := append_agrees (s := s) rfl h line
    rw [appendAll, appendAll]
    generalize s.append line v = outcome at hstatus happend ⊢
    generalize s.append line w = outcome' at hstatus happend ⊢
    obtain ⟨s', v', problem⟩ := outcome
    obtain ⟨t', w', problem'⟩ := outcome'
    obtain rfl : s' = t' := hstatus
    obtain ⟨hproblem, hworld⟩ := happend
    obtain rfl : problem = problem' := hproblem
    cases problem with
    | none => exact ih s' hworld
    | some problem => rfl

end StatusLog

theorem ReaderConfig.ofParameters_checks {files : Files.Tree} {p : Parameters}
    {config : ReaderConfig} (h : ReaderConfig.ofParameters files p = .ok config) :
    ReaderConfig.checkSource files p = .ok config.source ∧
      ReaderConfig.checkCase p.case = .ok config.caseMode := by
  simp only [ReaderConfig.ofParameters, bind_eq_ok_iff] at h
  obtain ⟨source, hsource, namespacePrefix, -, store, -, caseMode, hcase, sortMembers, -,
    hconfig⟩ := h
  obtain rfl := Except.ok.inj hconfig
  exact ⟨hsource, hcase⟩

namespace Reader

variable {r : Reader} {w : World} {config : ReaderConfig} {path : Path}

/-- The files in which a member is opened once it has been announced; a sink may have changed
them. -/
def announced (r : Reader) (w : World) (path : Path) : Except Problem Files.Tree :=
  match r.status.banner ("Importing " ++ path.name) w with
  | ⟨_, w, none⟩ => .ok w.files
  | ⟨_, _, some problem⟩ => .error problem

theorem announced_agrees {q : Reader} {v : World} (hs : r.status.suppressed = q.status.suppressed)
    (h : w.Agrees v) (path : Path) : r.announced w path = q.announced v path := by
  have hbanner := StatusLog.appendAll_agrees hs h
    [StatusLog.separator, "Importing " ++ path.name, StatusLog.separator]
  unfold announced StatusLog.banner
  generalize r.status.appendAll _ w = outcome at hbanner ⊢
  generalize q.status.appendAll _ v = outcome' at hbanner ⊢
  obtain ⟨s', w', problem⟩ := outcome
  obtain ⟨t', v', problem'⟩ := outcome'
  obtain ⟨hproblem, hworld⟩ := hbanner
  obtain rfl : problem = problem' := hproblem
  cases problem with
  | none => exact congrArg Except.ok hworld.1
  | some problem => rfl

/-- What stays as it is when a member is taken up. -/
structure Keeps (r q : Reader) : Prop where
  phase : q.phase = r.phase
  config : q.config = r.config
  members : q.members = r.members
  typeMode : q.typeMode = r.typeMode
  suppressed : q.status.suppressed = r.status.suppressed

theorem Keeps.refl (r : Reader) : r.Keeps r := ⟨rfl, rfl, rfl, rfl, rfl⟩

theorem Keeps.trans {p q r : Reader} (h : p.Keeps q) (h' : q.Keeps r) : p.Keeps r :=
  ⟨h'.phase.trans h.phase, h'.config.trans h.config, h'.members.trans h.members,
    h'.typeMode.trans h.typeMode, h'.suppressed.trans h.suppressed⟩

theorem keeps_release (r : Reader) (w : World) : r.Keeps (r.release w).1 := by
  unfold release
  split <;> exact ⟨rfl, rfl, rfl, rfl, rfl⟩

def harvested (r : Reader) (config : ReaderConfig) (path : Path)
    (opened : Bytes × Encoding.Decoder) : Harvest.Outcome :=
  let delivery := Encoding.deliver opened.2 opened.1
  Harvest.ofLines (r.mapping config) config.caseMode path.name delivery.lines
    (delivery.failure.map (readingFailure path))

theorem harvest_result (r : Reader) (w : World) (config : ReaderConfig) (path : Path)
    (opened : Bytes × Encoding.Decoder) : (r.harvest w config path opened).result =
      match (r.harvested config path opened).2 with
      | some failure => .error failure
      | none => .ok (r.harvested config path opened).1.attributes := rfl

theorem keeps_harvest (r : Reader) (w : World) (config : ReaderConfig) (path : Path)
    (opened : Bytes × Encoding.Decoder) : r.Keeps (r.harvest w config path opened).reader :=
  Keeps.trans (q := { r with
    handle := some path, types := addRows r.types (r.harvested config path opened).1.rows })
    ⟨rfl, rfl, rfl, rfl, rfl⟩ (keeps_release _ (w.note (r.harvested config path opened).1.notes))

/-- What a member comes to when it is taken up, all bookkeeping left aside. -/
def produce (r : Reader) (w : World) (config : ReaderConfig) (path : Path) :
    Except Failure DataObject := do
  let nameSpace ← (r.namespaceOf config path).result.mapError Rule.TemplateFailure.toFailure
  let files ← (r.announced w path).mapError Failure.problem
  let opened ← openCopybook files path config.encoding
  match r.harvested config path opened with
  | (_, some failure) => .error failure
  | (h, none) => .ok {
      name := config.caseMode.convert path.name
      nameSpace := config.caseMode.convert (nameSpace.getD [])
      attributes := h.attributes
      source := path.toText }

theorem takeUp_spec (r : Reader) (w : World) (config : ReaderConfig) (path : Path) :
    r.Keeps (r.takeUp w config path).reader ∧
      (r.takeUp w config path).result = r.produce w config path := by
  have hannounced := announced_agrees (r := r) rfl
    (w.agrees_note (r.namespaceOf config path).notes) path
  have hsuppressed : (r.status.banner ("Importing " ++ path.name)
      (w.note (r.namespaceOf config path).notes)).status.suppressed = r.status.suppressed :=
    StatusLog.appendAll_suppressed _ _ _
  rw [announced] at hannounced
  unfold takeUp produce
  rw [← hannounced]
  dsimp only
  generalize (r.namespaceOf config path).result = named
  cases named with
  | error failure => exact ⟨.refl r, rfl⟩
  | ok nameSpace =>
    generalize r.status.banner ("Importing " ++ path.name)
      (w.note (r.namespaceOf config path).notes) = outcome at hsuppressed ⊢
    obtain ⟨status, v, problem⟩ := outcome
    have hkeeps : r.Keeps { r with status := status } := ⟨rfl, rfl, rfl, rfl, hsuppressed⟩
    cases problem with
    | some problem => exact ⟨hkeeps, rfl⟩
    | none =>
      dsimp only
      generalize hv : v.note [⟨.info, Log.Channel.copybooks, "Importing " ++ path.toText⟩] = u
      have hfiles : v.files = u.files := by rw [← hv]; rfl
      simp only [hfiles, mapError_ok, bind, Except.bind]
      generalize openCopybook u.files path config.encoding = opening
      cases opening with
      | error failure => exact ⟨hkeeps, rfl⟩
      | ok opened =>
        have hkept := hkeeps.trans (keeps_harvest { r with status := status } u config path opened)
        have hresult := harvest_result { r with status := status } u config path opened
        change _ = match (r.harvested config path opened).2 with
          | some failure => Except.error failure
          | none => Except.ok (r.harvested config path opened).1.attributes at hresult
        dsimp only
        generalize { r with status := status }.harvest u config path opened = q at hresult hkept ⊢
        generalize r.harvested config path opened = outcome at hresult ⊢
        obtain ⟨q, u', result⟩ := q
        obtain ⟨h, failure⟩ := outcome
        obtain rfl := hresult
        cases failure <;> exact ⟨hkept, rfl⟩

theorem produce_ok {object : DataObject} (h : r.produce w config path = .ok object) :
    ∃ nameSpace files opened, (r.namespaceOf config path).result = .ok nameSpace ∧
      r.announced w path = .ok files ∧ openCopybook files path config.encoding = .ok opened ∧
      (r.harvested config path opened).2 = none ∧
      object = {
        name := config.caseMode.convert path.name
        nameSpace := config.caseMode.convert (nameSpace.getD [])
        attributes := (r.harvested config path opened).1.attributes
        source := path.toText } := by
  simp only [produce, bind_eq_ok_iff, mapError_eq_ok_iff] at h
  obtain ⟨nameSpace, hname, files, hfiles, opened, hopen, h⟩ := h
  refine ⟨nameSpace, files, opened, hname, hfiles, hopen, ?_⟩
  generalize r.harvested config path opened = outcome at h ⊢
  obtain ⟨harvest, failure⟩ := outcome
  cases failure with
  | none => exact ⟨rfl, (Except.ok.inj h).symm⟩
  | some failure => cases h

/-- Of a reader only the mode and the state of its status log play a part in this. -/
theorem produce_agrees {q : Reader} (hmode : r.typeMode = q.typeMode)
    (hs : r.status.suppressed = q.status.suppressed) (w : World) (config : ReaderConfig)
    (path : Path) : r.produce w config path = q.produce w config path := by
  simp only [produce, namespaceOf, harvested, mapping, hmode, announced_agrees hs ⟨rfl, rfl⟩]

theorem fail_spec {α : Type} (r : Reader) (w : World) (problem : Problem) :
    (r.fail w problem : Outcome α).result = .error (.problem problem) ∧
      (r.fail w problem : Outcome α).reader.phase = .failed ∧
      (r.fail w problem : Outcome α).reader.problem = some problem := by
  unfold fail
  dsimp only
  split <;> exact ⟨rfl, rfl, rfl⟩

/-- A reader whose configuration is that of `start` and which has taken up some members. -/
structure Serves (start : Reader) (config : ReaderConfig) (members : Members) (r : Reader) :
    Prop where
  phase : r.phase = .configured ∨ r.phase = .reading
  config : r.config = some config
  members : r.members = some members
  typeMode : r.typeMode = start.typeMode
  suppressed : r.status.suppressed = start.status.suppressed

/-- The lines that announce a member; there are none when its namespace cannot be resolved. -/
def announcement (r : Reader) (config : ReaderConfig) (path : Path) : List Text :=
  match (r.namespaceOf config path).result with
  | .ok _ => [StatusLog.separator, "Importing " ++ path.name, StatusLog.separator]
  | .error _ => []

theorem release_reader (r : Reader) (w : World) : (r.release w).1 = { r with handle := none } := by
  obtain ⟨_, _, _, _, _, _, _, handle⟩ := r
  cases handle <;> rfl

theorem release_agrees (r : Reader) (w : World) : (r.release w).2.Agrees w := by
  unfold release
  split
  · exact ⟨rfl, rfl⟩
  · dsimp only
    split <;> exact ⟨rfl, rfl⟩

/-- A reader that ends reports the problem, and forgets nothing but the copybook that is open. -/
theorem fail_leaves {α : Type} (r : Reader) (w : World) (problem : Problem) :
    (r.fail w problem : Outcome α).reader = { r with
        phase := .failed, problem := some problem, handle := none,
        status := (r.status.append problem.message w).status } ∧
      (r.fail w problem : Outcome α).world.Agrees (r.status.append problem.message w).world := by
  have hreader := release_reader r w
  have hstatus := StatusLog.append_status r.status problem.message (r.release w).2 w
  have hworld := (StatusLog.append_agrees (s := r.status) rfl (release_agrees r w)
    problem.message).2
  unfold fail
  generalize r.release w = released at hreader hstatus hworld ⊢
  obtain ⟨q, v⟩ := released
  obtain rfl : q = { r with handle := none } := hreader
  dsimp only at hstatus hworld ⊢
  generalize r.status.append problem.message v = outcome at hstatus hworld ⊢
  obtain ⟨status, v', trouble⟩ := outcome
  rw [← hstatus]
  cases trouble <;> exact ⟨rfl, hworld⟩

theorem harvest_leaves (r : Reader) (w : World) (config : ReaderConfig) (path : Path)
    (opened : Bytes × Encoding.Decoder) :
    (r.harvest w config path opened).reader = { r with
        handle := none, types := addRows r.types (r.harvested config path opened).1.rows } ∧
      (r.harvest w config path opened).world.Agrees w := by
  unfold harvest harvested
  dsimp only
  constructor
  · rw [release_reader]
  · exact release_agrees _ (w.note _)

theorem addRows_nil (types : Option TypeTable) : addRows types [] = types := by
  simp [addRows]

theorem takeUp_leaves (h : r.handle = none) (w : World) (config : ReaderConfig) (path : Path) :
    (∃ rows, (r.takeUp w config path).reader = { r with
        status := (r.status.appendAll (r.announcement config path) w).status,
        types := addRows r.types rows }) ∧
      (r.takeUp w config path).world.Agrees
        (r.status.appendAll (r.announcement config path) w).world := by
  obtain ⟨phase, configured, members, typeMode, types, status, problem, handle⟩ := r
  obtain rfl : handle = none := h
  unfold takeUp announcement
  dsimp only
  generalize namespaceOf _ config path = resolved
  obtain ⟨notes, result⟩ := resolved
  cases result with
  | error failure => exact ⟨⟨[], by rw [addRows_nil]; rfl⟩, w.agrees_note notes⟩
  | ok nameSpace =>
    unfold StatusLog.banner
    dsimp only
    generalize [StatusLog.separator, "Importing " ++ path.name, StatusLog.separator] = lines
    have hstatus := StatusLog.appendAll_status status (w.agrees_note notes) lines
    have hworld := (StatusLog.appendAll_agrees (s := status) rfl (w.agrees_note notes) lines).2
    generalize status.appendAll lines (w.note notes) = outcome at hstatus hworld ⊢
    generalize status.appendAll lines w = outcome' at hstatus hworld ⊢
    obtain ⟨status', v, trouble⟩ := outcome
    obtain rfl : status' = outcome'.status := hstatus
    cases trouble with
    | some trouble => exact ⟨⟨[], by rw [addRows_nil]⟩, hworld⟩
    | none =>
      dsimp only
      generalize hv : v.note [⟨.info, Log.Channel.copybooks, "Importing " ++ path.toText⟩] = u
      have hu : u.Agrees outcome'.world := by
        rw [← hv]
        exact hworld
      cases openCopybook u.files path config.encoding with
      | error failure => exact ⟨⟨[], by rw [addRows_nil]⟩, hu⟩
      | ok opened =>
        obtain ⟨hreader, hafter⟩ := harvest_leaves ⟨phase, configured, members, typeMode, types,
          outcome'.status, problem, none⟩ u config path opened
        dsimp only
        generalize harvest _ u config path opened = harvest at hreader hafter ⊢
        obtain ⟨q, x, result⟩ := harvest
        have hlast : x.Agrees outcome'.world := ⟨hafter.1.trans hu.1, hafter.2.trans hu.2⟩
        cases result <;> exact ⟨⟨_, hreader⟩, hlast⟩

theorem ofParameters_spec {files : Files.Tree} {p : Parameters}
    (h : ReaderConfig.ofParameters files p = .ok config) :
    p.ruleStore = some (.store config.rules) ∧
      config.encoding = ReaderConfig.encodingOf p.encoding := by
  simp only [ReaderConfig.ofParameters, bind_eq_ok_iff] at h
  obtain ⟨source, -, namespacePrefix, -, rules, hrules, caseMode, -, sortMembers, -, hconfig⟩ := h
  obtain rfl := Except.ok.inj hconfig
  refine ⟨?_, rfl⟩
  cases hstore : p.ruleStore with
  | none => simp [hstore, ReaderConfig.checkRules] at hrules
  | some argument =>
    cases argument with
    | other v => cases v <;> simp [hstore, ReaderConfig.checkRules] at hrules
    | store s =>
      rw [hstore] at hrules
      obtain rfl := Except.ok.inj hrules
      rfl

/-- What a reader makes of parameters: a configuration that it can serve, or what is in the way. -/
def verdict (typeMode : Bool) (files : Files.Tree) (p : Parameters) :
    Except Failure ReaderConfig := do
  let config ← ReaderConfig.ofParameters files p
  match Members.trouble? files config.source with
  | some fault => .error (.fault (.files fault))
  | none =>
    match (if typeMode then checkTypeMode config else .ok ()) with
    | .error problem => .error (.problem problem)
    | .ok () => .ok config

theorem init_cases (r : Reader) (p : Parameters) (w : World) :
    match verdict r.typeMode w.files p with
    | .ok config => ∃ records, r.init p w = ⟨{ r with
        phase := .configured, config := some config,
        members := some (Members.ofConfig w.files config) }, w.note records, .ok ()⟩
    | .error (.problem problem) =>
      ∃ members, r.init p w = { r with config := none, members := members }.fail w problem
    | .error (.fault fault) => r.init p w = ⟨r, w, .error (.fault fault)⟩ := by
  unfold init verdict
  cases ReaderConfig.ofParameters w.files p with
  | error failure =>
    cases failure with
    | fault fault => rfl
    | problem problem => exact ⟨r.members, rfl⟩
  | ok config =>
    simp only [bind, Except.bind]
    cases Members.trouble? w.files config.source with
    | some fault => rfl
    | none =>
      cases (if r.typeMode then checkTypeMode config else .ok ()) with
      | error problem => exact ⟨_, rfl⟩
      | ok _ => exact ⟨_, rfl⟩

theorem init_error {p : Parameters} {failure : Failure}
    (h : ReaderConfig.ofParameters w.files p = .error failure) :
    (r.init p w).result = .error failure := by
  unfold init
  rw [h]
  cases failure with
  | fault fault => rfl
  | problem problem => exact (fail_spec { r with config := none } w problem).1

theorem verdict_ok {typeMode : Bool} {files : Files.Tree} {p : Parameters}
    (h : verdict typeMode files p = .ok config) :
    ReaderConfig.ofParameters files p = .ok config ∧
      Members.trouble? files config.source = none ∧
      (typeMode = true → config.scope = .copybook) := by
  unfold verdict at h
  obtain ⟨config', hconfig, h⟩ := bind_eq_ok_iff.mp h
  split at h
  · cases h
  · split at h
    · cases h
    · rename_i htrouble _ hmode
      obtain rfl := Except.ok.inj h
      refine ⟨hconfig, htrouble, fun ht => ?_⟩
      rw [ht, if_pos rfl, checkTypeMode] at hmode
      split at hmode
      · assumption
      · cases hmode

theorem init_ok {p : Parameters} (h : (r.init p w).result = .ok ()) :
    ∃ config records, verdict r.typeMode w.files p = .ok config ∧ r.init p w = ⟨{ r with
      phase := .configured, config := some config,
      members := some (Members.ofConfig w.files config) }, w.note records, .ok ()⟩ := by
  have hcases := init_cases r p w
  cases hverdict : verdict r.typeMode w.files p with
  | ok config =>
    rw [hverdict] at hcases
    obtain ⟨records, hinit⟩ := hcases
    exact ⟨config, records, rfl, hinit⟩
  | error failure =>
    rw [hverdict] at hcases
    cases failure with
    | problem problem =>
      obtain ⟨members, hinit⟩ := hcases
      simp [hinit, fail_spec] at h
    | fault fault =>
      replace hcases : r.init p w = ⟨r, w, .error (.fault fault)⟩ := hcases
      simp [hcases] at h

theorem init_spec {p : Parameters} (h : (r.init p w).result = .ok ()) :
    ∃ config, ReaderConfig.ofParameters w.files p = .ok config ∧
      Serves (r.init p w).reader config (Members.ofConfig w.files config) (r.init p w).reader := by
  obtain ⟨config, records, hverdict, hinit⟩ := init_ok h
  rw [hinit]
  exact ⟨config, (verdict_ok hverdict).1, .inl rfl, rfl, rfl, rfl, rfl⟩

section

variable {start : Reader} {members members' : Members} (h : Serves start config members r)
include h

theorem Serves.read_last (hnext : members.next.1 = none) (w : World) :
    r.read w = ⟨{ r with phase := .done }, w, .ok none⟩ := by
  obtain ⟨next, hnext⟩ : ∃ next, members.next = (none, next) := ⟨_, Prod.ext hnext rfl⟩
  rcases h.phase with hphase | hphase <;>
    simp [read, readNext, hphase, h.config, h.members, hnext]

theorem Serves.read_member (hnext : members.next = (some path, members')) (w : World) :
    r.read w =
      match { r with phase := .reading, members := some members' }.takeUp w config path with
      | ⟨q, w, .error (.problem problem)⟩ => q.fail w problem
      | ⟨q, w, .error (.fault fault)⟩ => ⟨q, w, .error (.fault fault)⟩
      | ⟨q, w, .ok object⟩ => ⟨q, w, .ok (some object)⟩ := by
  obtain ⟨phase, _, _, typeMode, types, status, problem, handle⟩ := r
  obtain ⟨hphase, rfl, rfl, -, -⟩ := h
  obtain rfl | rfl : phase = .configured ∨ phase = .reading := hphase
  all_goals
    simp only [read, readNext, hnext]
    generalize takeUp _ w config path = outcome
    obtain ⟨q, w', result⟩ := outcome
    cases result with
    | ok object => rfl
    | error failure => cases failure <;> rfl

theorem Serves.read_spec (hnext : members.next = (some path, members')) (w : World) :
    match start.produce w config path with
    | .ok object => (r.read w).result = .ok (some object) ∧
        Serves start config members' (r.read w).reader
    | .error (.problem problem) => (r.read w).result = .error (.problem problem) ∧
        (r.read w).reader.phase = .failed ∧ (r.read w).reader.problem = some problem
    | .error (.fault fault) => (r.read w).result = .error (.fault fault) := by
  obtain ⟨hkeeps, hresult⟩ :=
    takeUp_spec { r with phase := .reading, members := some members' } w config path
  have hproduce := produce_agrees (r := { r with phase := .reading, members := some members' })
    (q := start) h.typeMode h.suppressed w config path
  rw [hproduce] at hresult
  rw [h.read_member hnext]
  generalize takeUp _ w config path = outcome at hkeeps hresult ⊢
  obtain ⟨q, w', result⟩ := outcome
  obtain rfl : result = start.produce w config path := hresult
  cases start.produce w config path with
  | ok object => exact ⟨rfl, .inr hkeeps.phase, hkeeps.config.trans h.config, hkeeps.members,
      hkeeps.typeMode.trans h.typeMode, hkeeps.suppressed.trans h.suppressed⟩
  | error failure =>
    cases failure with
    | problem problem => exact fail_spec q w' problem
    | fault fault => rfl

end

theorem read_done (h : r.phase = .done) (w : World) : r.read w = ⟨r, w, .ok none⟩ := by
  simp [read, h]

theorem read_failed {problem : Problem} (h : r.phase = .failed)
    (hproblem : r.problem = some problem) (w : World) : r.read w = ⟨r, w, .error (.problem problem)⟩ := by
  simp [read, h, hproblem]

theorem readNext_some {object : DataObject} (h : (r.readNext w).result = .ok (some object)) :
    ∃ config members path members', r.config = some config ∧ r.members = some members ∧
      members.next = (some path, members') ∧ r.produce w config path = .ok object := by
  obtain ⟨phase, config, members, typeMode, types, status, problem, handle⟩ := r
  cases config with
  | none => cases h
  | some config =>
    cases members with
    | none => cases h
    | some members =>
      rcases hnext : members.next with ⟨next, members'⟩
      cases next with
      | none => simp [readNext, hnext] at h
      | some path =>
        refine ⟨config, members, path, members', rfl, rfl, hnext, ?_⟩
        have hagrees := produce_agrees
          (r := ⟨phase, some config, some members', typeMode, types, status, problem, handle⟩)
          (q := ⟨phase, some config, some members, typeMode, types, status, problem, handle⟩)
          rfl rfl w config path
        simp only [readNext, hnext] at h
        rw [(takeUp_spec _ w config path).2, hagrees] at h
        generalize produce _ w config path = result at h ⊢
        cases result with
        | error failure => cases h
        | ok object' => simpa [Except.map] using h

theorem read_some {object : DataObject} (h : (r.read w).result = .ok (some object)) :
    ∃ config members path members', r.config = some config ∧ r.members = some members ∧
      members.next = (some path, members') ∧ r.produce w config path = .ok object := by
  have hnext : ({ r with phase := .reading }.readNext w).result = .ok (some object) := by
    unfold read at h
    split at h
    · cases h
    · simp [fail_spec] at h
    · cases h
    · split at h
      · simp [fail_spec] at h
      · cases h
      · exact h
  obtain ⟨config, members, path, members', hconfig, hmembers, hmember, hproduce⟩ :=
    readNext_some hnext
  exact ⟨config, members, path, members', hconfig, hmembers, hmember, hproduce⟩

def sampleWorld (copybook : Text) : World where
  files := ⟨[], [(["C"], .file (Encoding.bytesOf (copybook.map Char.toNat)))]⟩
  log := []
  sink := none
  closeFails := false

def sampleParameters : Parameters where
  scope := some "copybook"
  copybookFile := some "C"
  namespacePrefix := some "P"
  ruleStore := some (.store (.empty .null))

end Reader
end Copybook
