import Copybook.Proofs.Files
import Copybook.Proofs.Reader

/-!
What reaches a sink. A sink holds the lines sent to it, as long as it has room for them. The status
log and a sink that takes every line receive the same lines, and a copybook that is not the sink
stays as it is while lines are reported. -/
namespace Copybook
namespace World

variable {v w : World} {path : Path} {files : Files.Tree}

/-- Whether whatever is sent is taken; without a sink nothing is refused. -/
def IsReliable (w : World) : Prop :=
  match w.sink with
  | none | some (.memory _ none) | some (.file _) => True
  | some .closed | some (.memory _ (some _)) => False

def held (w : World) : Option Bytes :=
  match w.sink with
  | some (.memory content _) => some (Encoding.encodeUtf8 content)
  | some (.file place) =>
    match w.files.node? place with
    | some (.file content) => some content
    | _ => none
  | _ => none

def textOf (lines : List Text) : Text := lines.flatMap fun line => line ++ ['\n']

/-- How many more lines the sink takes; `none` where it takes any number. -/
def room (w : World) : Option Nat :=
  match w.sink with
  | none | some (.memory _ none) | some (.file _) => none
  | some .closed => some 0
  | some (.memory _ (some room)) => some room

def within : Option Nat → List Text → List Text
  | none, lines => lines
  | some room, lines => lines.take room

/-- Surroundings `v` after lines have been sent in `w`: the sink has that much less room, and holds
those lines that it had room for. -/
structure Receives (w : World) (lines : List Text) (v : World) : Prop where
  room : v.room = w.room.map (· - lines.length)
  held : v.held = w.held.map (· ++ Encoding.encodeUtf8 (textOf (within w.room lines)))
  written : v.written = w.written.map (· ++ textOf (within w.room lines))

/-- Surroundings `v` in which the sink holds some lines more than in `w`, and takes any other. -/
structure Takes (w : World) (lines : List Text) (v : World) : Prop where
  reliable : v.IsReliable
  held : v.held = w.held.map (· ++ Encoding.encodeUtf8 (textOf lines))

/-- Surroundings in which a copybook is as it was in `files`, and the sink takes all lines and is
not the copybook itself. -/
structure Preserves (w : World) (files : Files.Tree) (path : Path) : Prop where
  reliable : w.IsReliable
  apart : ∀ place, w.sink = some (.file place) → w.files.locate path ≠ .ok place
  unchanged : w.files.read path = files.read path

theorem encodeUtf8_append (s t : Text) :
    Encoding.encodeUtf8 (s ++ t) = Encoding.encodeUtf8 s ++ Encoding.encodeUtf8 t :=
  List.flatMap_append

theorem textOf_append (lines more : List Text) : textOf (lines ++ more) = textOf lines ++ textOf more :=
  List.flatMap_append

theorem Agrees.isReliable_iff (h : v.Agrees w) : v.IsReliable ↔ w.IsReliable := by
  unfold IsReliable
  rw [h.2]

theorem Agrees.held_eq (h : v.Agrees w) : v.held = w.held := by
  unfold held
  rw [h.1, h.2]

theorem Takes.refl (h : w.IsReliable) : w.Takes [] w :=
  ⟨h, by simp [textOf, Encoding.encodeUtf8]⟩

theorem Takes.trans {u : World} {lines more : List Text} (h : u.Takes lines v)
    (h' : v.Takes more w) : u.Takes (lines ++ more) w := by
  refine ⟨h'.reliable, ?_⟩
  rw [h'.held, h.held, Option.map_map, textOf_append, encodeUtf8_append]
  simp [Function.comp_def]

theorem Takes.of_agrees {lines : List Text} {u : World} (h : u.Takes lines v) (hw : w.Agrees v) :
    u.Takes lines w :=
  ⟨hw.isReliable_iff.mpr h.reliable, hw.held_eq.trans h.held⟩

theorem isReliable_iff : w.IsReliable ↔ w.room = none := by
  unfold IsReliable room
  split <;> simp

theorem within_append (room : Option Nat) (lines more : List Text) :
    within room (lines ++ more) =
      within room lines ++ within (room.map (· - lines.length)) more := by
  cases room with
  | none => rfl
  | some room => exact List.take_append

@[simp] theorem within_nil (room : Option Nat) : within room [] = [] := by
  cases room <;> simp [within]

theorem within_cons (room : Option Nat) (line : Text) (rest : List Text) :
    within (room.map (· + 1)) (line :: rest) = line :: within room rest := by
  cases room <;> rfl

theorem within_prefix (room : Option Nat) (lines : List Text) : within room lines <+: lines := by
  cases room with
  | none => exact List.prefix_rfl
  | some room => exact List.take_prefix room lines

theorem Receives.refl (w : World) : w.Receives [] w :=
  ⟨by simp, by simp [textOf, Encoding.encodeUtf8], by simp [textOf]⟩

theorem Receives.trans {u : World} {lines more : List Text} (h : u.Receives lines v)
    (h' : v.Receives more w) : u.Receives (lines ++ more) w := by
  refine ⟨?_, ?_, ?_⟩
  · rw [h'.room, h.room, Option.map_map]
    simp [Function.comp_def, Nat.sub_sub]
  · rw [h'.held, h.held, h.room, within_append, textOf_append, encodeUtf8_append, Option.map_map]
    simp [Function.comp_def]
  · rw [h'.written, h.written, h.room, within_append, textOf_append, Option.map_map]
    simp [Function.comp_def]

theorem Receives.takes {lines : List Text} (h : w.Receives lines v) (hw : w.IsReliable) :
    w.Takes lines v := by
  have hroom := isReliable_iff.mp hw
  refine ⟨isReliable_iff.mpr ?_, ?_⟩
  · rw [h.room, hroom]
    rfl
  · rw [h.held, hroom]
    rfl

theorem send_receives (w : World) (line : Text) :
    ((w.send (line ++ ['\n'])).2 = none ↔ w.room ≠ some 0) ∧
      w.Receives [line] (w.send (line ++ ['\n'])).1 := by
  have htext : textOf [line] = line ++ ['\n'] := by simp [textOf]
  have hnone : textOf [] = [] := rfl
  obtain ⟨files, log, sink, closeFails⟩ := w
  cases sink with
  | none => exact ⟨by simp [send, room], rfl, rfl, rfl⟩
  | some sink =>
    cases sink with
    | closed => exact ⟨by simp [send, room], rfl, rfl, rfl⟩
    | memory content room =>
      rcases room with _ | _ | room
      · exact ⟨by simp [send, World.room], rfl,
          by simp [held, send, World.room, within, htext, encodeUtf8_append],
          by simp [written, send, World.room, within, htext]⟩
      · exact ⟨by simp [send, World.room], rfl,
          by simp [held, send, World.room, within, hnone, Encoding.encodeUtf8],
          by simp [written, send, World.room, within, hnone]⟩
      · exact ⟨by simp [send, World.room], rfl,
          by simp [held, send, World.room, within, htext, encodeUtf8_append],
          by simp [written, send, World.room, within, htext]⟩
    | file place =>
      refine ⟨by simp [send, room], rfl, ?_, rfl⟩
      simp only [held, send, room, within, htext]
      cases hnode : files.node? place with
      | none => rw [Files.Tree.append_of_not_file (by simp [hnode]), hnode]; rfl
      | some node =>
        cases node with
        | directory => rw [Files.Tree.append_of_not_file (by simp [hnode]), hnode]; rfl
        | file old => rw [Files.Tree.node?_append_self hnode]; rfl

theorem Preserves.note (h : w.Preserves files path) (records : List Log.Record) :
    (w.note records).Preserves files path :=
  ⟨h.reliable, h.apart, h.unchanged⟩

theorem send_preserves (h : w.Preserves files path) (text : Text) :
    (w.send text).2 = none ∧ (w.send text).1.Preserves files path := by
  obtain ⟨tree, log, sink, closeFails⟩ := w
  obtain ⟨hreliable, hapart, hunchanged⟩ := h
  cases sink with
  | none => exact ⟨rfl, trivial, hapart, hunchanged⟩
  | some sink =>
    cases sink with
    | closed => exact absurd hreliable id
    | memory content room =>
      cases room with
      | some room => exact absurd hreliable id
      | none => exact ⟨rfl, trivial, by rintro place ⟨⟩, hunchanged⟩
    | file place =>
      refine ⟨rfl, trivial, ?_, ?_⟩
      · rintro other ⟨⟩
        dsimp only [send]
        rw [Files.Tree.locate_append]
        exact hapart place rfl
      · dsimp only [send]
        rw [Files.Tree.read_append (hapart place rfl)]
        exact hunchanged

end World

namespace StatusLog

variable {s t u : StatusLog} {v w x : World}

structure Records (s : StatusLog) (w : World) (lines : List Text) (t : StatusLog) (v : World) :
    Prop where
  kept : t.lines = s.lines ++ lines
  suppressed : t.suppressed = s.suppressed
  takes : w.Takes lines v

theorem Records.refl (s : StatusLog) (h : w.IsReliable) : Records s w [] s w :=
  ⟨by simp, rfl, .refl h⟩

theorem Records.trans {lines more : List Text} (h : Records s w lines t v)
    (h' : Records t v more u x) : Records s w (lines ++ more) u x :=
  ⟨by rw [h'.kept, h.kept, List.append_assoc], h'.suppressed.trans h.suppressed,
    h.takes.trans h'.takes⟩

theorem Records.of_takes {lines : List Text} (h : Records s v lines t x) (hv : w.Takes [] v) :
    Records s w lines t x :=
  ⟨h.kept, h.suppressed, hv.trans h.takes⟩

/-- What lines come to that are reported to a log that is not suppressed. They are kept up to the
first for which the sink has no room, that line included. -/
structure Reports (s : StatusLog) (w : World) (lines : List Text) (o : Outcome) : Prop where
  status : o.status =
    { s with lines := s.lines ++ World.within (w.room.map (· + 1)) lines }
  receives : w.Receives (World.within (w.room.map (· + 1)) lines) o.world
  fits : o.problem = none ↔ ∀ n, w.room = some n → lines.length ≤ n
  unwritten : ∀ p, o.problem = some p →
    ∃ reason, p = .read ("Unable to write status line: " ++ reason)

theorem append_reports (hs : s.suppressed = false) (line : Text) (w : World) :
    Reports s w [line] (s.append line w) := by
  have hsend := World.send_receives (w.note [⟨.info, Log.Channel.status, line⟩]) line
  have hkept : World.within (w.room.map (· + 1)) [line] = [line] := by simp [World.within_cons]
  have hfits : (∀ n, w.room = some n → [line].length ≤ n) ↔ w.room ≠ some 0 := by
    cases w.room <;> simp [Nat.one_le_iff_ne_zero]
  rw [append, if_neg (by simp [hs])]
  generalize (w.note [⟨.info, Log.Channel.status, line⟩]).send (line ++ ['\n']) = sent at hsend ⊢
  obtain ⟨v, answer⟩ := sent
  have hline : w.Receives [line] v := ⟨hsend.2.room, hsend.2.held, hsend.2.written⟩
  cases answer with
  | none =>
    have hroom : w.room ≠ some 0 := hsend.1.mp rfl
    exact ⟨by simp [hkept], by rwa [hkept], iff_of_true rfl (hfits.mpr hroom), by simp⟩
  | some reason =>
    have hroom : w.room = some 0 := by simpa [World.room, World.note] using hsend.1
    refine ⟨by simp [hkept], by rwa [hkept], by simp [hroom], ?_⟩
    rintro p ⟨⟩
    exact ⟨reason, rfl⟩

theorem appendAll_reports (hs : s.suppressed = false) (lines : List Text) (w : World) :
    Reports s w lines (s.appendAll lines w) := by
  induction lines generalizing s w with
  | nil => exact ⟨by simp [appendAll], by simpa [appendAll] using .refl w, by simp [appendAll],
      by simp [appendAll]⟩
  | cons line rest ih =>
    have hline := append_reports hs line w
    rw [appendAll]
    generalize s.append line w = outcome at hline ⊢
    obtain ⟨t, v, problem⟩ := outcome
    obtain ⟨hstatus, hv, hfits, hunwritten⟩ := hline
    rw [World.within_cons, World.within_nil] at hstatus hv
    obtain rfl : t = { s with lines := s.lines ++ [line] } := hstatus
    cases problem with
    | none =>
      obtain ⟨hstatus', hrest, hfits', hunwritten'⟩ :=
        ih (s := { s with lines := s.lines ++ [line] }) hs v
      have hroom : ∀ n, w.room = some n → 1 ≤ n := hfits.mp rfl
      -- Counting the line that was taken, there is room for as many lines as before.
      have hkept : v.room.map (· + 1) = w.room := by
        rw [hv.room]
        cases hw : w.room with
        | none => rfl
        | some n =>
          have := hroom n hw
          simp [Nat.sub_add_cancel this]
      rw [hkept] at hstatus' hrest
      refine ⟨?_, ?_, hfits'.trans ?_, hunwritten'⟩
      · rw [hstatus', World.within_cons]
        simp
      · rw [World.within_cons]
        exact hv.trans hrest
      · rw [← hkept]
        cases v.room <;> simp
    | some problem =>
      have hroom : w.room = some 0 := by
        cases hw : w.room <;> simp_all
      exact ⟨by simp [hroom, World.within], by simpa [hroom, World.within] using hv,
        by simp [hroom], hunwritten⟩

theorem appendAll_of_suppressed (hs : s.suppressed = true) (lines : List Text) (w : World) :
    s.appendAll lines w = ⟨s, w, none⟩ := by
  induction lines with
  | nil => rfl
  | cons line rest ih =>
    have hline : s.append line w = ⟨s, w, none⟩ := if_pos hs
    rw [appendAll, hline]
    exact ih

theorem Reports.records {lines : List Text} {o : Outcome} (h : Reports s w lines o)
    (hw : w.IsReliable) : o.problem = none ∧ Records s w lines o.status o.world := by
  obtain ⟨hstatus, hlines, hfits, -⟩ := h
  have hroom := World.isReliable_iff.mp hw
  rw [hroom] at hstatus hlines
  refine ⟨hfits.mpr (by simp [hroom]), ?_⟩
  rw [hstatus]
  exact ⟨rfl, rfl, hlines.takes hw⟩

theorem append_records (hs : s.suppressed = false) (h : w.IsReliable) (line : Text) :
    (s.append line w).problem = none ∧
      Records s w [line] (s.append line w).status (s.append line w).world :=
  (append_reports hs line w).records h

theorem appendAll_records (hs : s.suppressed = false) (h : w.IsReliable) (lines : List Text) :
    (s.appendAll lines w).problem = none ∧
      Records s w lines (s.appendAll lines w).status (s.appendAll lines w).world :=
  (appendAll_reports hs lines w).records h

theorem append_preserves {files : Files.Tree} {path : Path} (h : w.Preserves files path)
    (line : Text) : (s.append line w).problem = none ∧
      (s.append line w).world.Preserves files path := by
  unfold append
  split
  · exact ⟨rfl, h⟩
  · have hsend := World.send_preserves (h.note [⟨.info, Log.Channel.status, line⟩]) (line ++ ['\n'])
    generalize (w.note [⟨.info, Log.Channel.status, line⟩]).send (line ++ ['\n']) = sent at hsend ⊢
    obtain ⟨v, answer⟩ := sent
    obtain ⟨rfl, hpreserves⟩ : answer = none ∧ _ := hsend
    exact ⟨rfl, hpreserves⟩

theorem appendAll_preserves {files : Files.Tree} {path : Path} (h : w.Preserves files path)
    (lines : List Text) : (s.appendAll lines w).problem = none ∧
      (s.appendAll lines w).world.Preserves files path := by
  induction lines generalizing s w with
  | nil => exact ⟨rfl, h⟩
  | cons line rest ih =>
    have hline := append_preserves (s := s) h line
    rw [appendAll]
    generalize s.append line w = outcome at hline ⊢
    obtain ⟨t, v, problem⟩ := outcome
    obtain ⟨rfl, hpreserves⟩ : problem = none ∧ _ := hline
    exact ih hpreserves

end StatusLog
end Copybook
