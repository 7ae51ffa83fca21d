import Copybook.Proofs.Association
import Copybook.Proofs.Surroundings

/-!
Files that grow. Writing more into a file changes neither what kind of node a path leads to nor the
members of a directory, so parameters come to the same configuration with the same members. -/
namespace Copybook
namespace Files
namespace Tree

variable {files t : Tree}

/-- Files after more has been written into some of them. -/
inductive Grown (files : Tree) : Tree → Prop
  | refl : Grown files files
  | append {t : Tree} (h : Grown files t) (place : Place) (content : Bytes) :
      Grown files (t.append place content)

theorem look_append (t : Tree) (place : Place) (content : Bytes) (p : Path) :
    (t.append place content).look p = t.look p ∨
      ∃ old new, t.look p = .ok (some (.file old)) ∧
        (t.append place content).look p = .ok (some (.file new)) := by
  have hlocate := locate_append t place content p
  unfold look find
  rw [hlocate]
  cases t.locate p with
  | error fault => exact .inl rfl
  | ok other =>
    rcases node?_append t place content other with hnode | ⟨-, old, new, hold, hnew⟩
    · exact .inl (by simp only [hnode])
    · exact .inr ⟨old, new, by simp only [hold], by simp only [hnew]⟩

theorem members_append (t : Tree) (place : Place) (content : Bytes) (directory : Place) :
    (t.append place content).members directory = t.members directory := by
  by_cases h : ∃ old, t.node? place = some (.file old)
  · obtain ⟨old, hold⟩ := h
    have hkey : place ∈ t.nodes.map (·.1) := by
      cases place with
      | nil => simp [node?] at hold
      | cons name rest =>
        exact (Association.find?_isSome_iff _ _).mp (Option.isSome_of_mem hold)
    rw [members_eq, members_eq, append, hold]
    dsimp only [put]
    rw [Association.keys_put, if_pos hkey]
  · rw [append_of_not_file fun old hold => h ⟨old, hold⟩]

namespace Grown

variable (h : Grown files t)
include h

/-- A path leads to the same node, or to a file that may have grown. -/
theorem look (p : Path) : t.look p = files.look p ∨
    ∃ old new, files.look p = .ok (some (.file old)) ∧ t.look p = .ok (some (.file new)) := by
  induction h with
  | refl => exact .inl rfl
  | append _ place content ih =>
    rcases ih with ih | ⟨old, new, hold, hnew⟩ <;>
      rcases look_append _ place content p with hlook | ⟨old', new', hold', hnew'⟩
    · exact .inl (hlook.trans ih)
    · exact .inr ⟨old', new', ih.symm.trans hold', hnew'⟩
    · exact .inr ⟨old, new, hold, hlook.trans hnew⟩
    · exact .inr ⟨old, new', hold, hnew'⟩

theorem locate (p : Path) : t.locate p = files.locate p := by
  induction h with
  | refl => rfl
  | append _ place content ih => rw [locate_append, ih]

theorem members (directory : Place) : t.members directory = files.members directory := by
  induction h with
  | refl => rfl
  | append _ place content ih => rw [members_append, ih]

theorem hasFile (p : Path) : t.hasFile p = files.hasFile p := by
  unfold Tree.hasFile
  rcases h.look p with hlook | ⟨old, new, hold, hnew⟩
  · rw [hlook]
  · rw [hold, hnew]
    rfl

end Grown
end Tree
end Files

open Files.Tree (Grown)

variable {files t : Files.Tree} (h : Grown files t)
include h

theorem ReaderConfig.lookAt_grown {α : Type} (path : Path)
    {f : Option Files.Node → Except Failure α}
    (hf : ∀ old new, f (some (.file old)) = f (some (.file new))) :
    (lookAt t path >>= f) = (lookAt files path >>= f) := by
  unfold lookAt
  rcases h.look path with hlook | ⟨old, new, hold, hnew⟩
  · rw [hlook]
  · rw [hold, hnew]
    exact hf new old

theorem ReaderConfig.checkFile_grown (v : Option Json.Value) :
    ReaderConfig.checkFile t v = ReaderConfig.checkFile files v := by
  unfold checkFile
  cases Parameters.given v with
  | none => rfl
  | some v => exact bind_congr fun found => lookAt_grown h found.2 fun _ _ => rfl

theorem ReaderConfig.checkDirectory_grown (v : Option Json.Value) :
    ReaderConfig.checkDirectory t v = ReaderConfig.checkDirectory files v := by
  unfold checkDirectory
  cases Parameters.given v with
  | none => rfl
  | some v => exact bind_congr fun found => lookAt_grown h found.2 fun _ _ => rfl

theorem ReaderConfig.ofParameters_grown (p : Parameters) :
    ReaderConfig.ofParameters t p = ReaderConfig.ofParameters files p := by
  unfold ofParameters checkSource
  simp only [checkFile_grown h, checkDirectory_grown h]

theorem Members.entries_grown (directory : Path) :
    Members.entries t directory = Members.entries files directory := by
  unfold entries
  simp only [h.locate, h.members]

theorem Members.ofConfig_grown (config : ReaderConfig) :
    Members.ofConfig t config = Members.ofConfig files config := by
  unfold ofConfig ofSource listed
  simp only [entries_grown h, h.hasFile]

theorem Members.trouble?_grown (source : Source) :
    Members.trouble? t source = Members.trouble? files source := by
  unfold trouble?
  simp only [entries_grown h, h.hasFile]

omit h

namespace World

variable {paths : List Path} {v w : World}

/-- Surroundings in which a sink takes all lines and `files` may have grown, but not the copybooks
at `paths`. -/
structure Shows (files : Files.Tree) (paths : List Path) (w : World) : Prop where
  reliable : w.IsReliable
  grown : Grown files w.files
  preserves : ∀ path ∈ paths, w.Preserves files path

theorem kept_grown (files : Files.Tree) : Kept fun w => Grown files w.files where
  note h _ := h
  send {w} h text := by
    obtain ⟨tree, log, sink, closeFails⟩ := w
    cases sink with
    | none => exact h
    | some sink =>
      cases sink with
      | closed => exact h
      | memory content room => rcases room with _ | _ | room <;> exact h
      | file place => exact h.append place _

theorem send_reliable (h : w.IsReliable) (text : Text) :
    (w.send text).2 = none ∧ (w.send text).1.IsReliable := by
  obtain ⟨tree, log, sink, closeFails⟩ := w
  cases sink with
  | none => exact ⟨rfl, trivial⟩
  | some sink =>
    cases sink with
    | closed => exact absurd h id
    | memory content room =>
      cases room with
      | some room => exact absurd h id
      | none => exact ⟨rfl, trivial⟩
    | file place => exact ⟨rfl, trivial⟩

theorem kept_shows (files : Files.Tree) (paths : List Path) : Kept (Shows files paths) where
  note h records := ⟨h.reliable, h.grown, fun path hpath => (h.preserves path hpath).note records⟩
  send h text := ⟨(send_reliable h.reliable text).2, (kept_grown files).send h.grown text,
    fun path hpath => (send_preserves (h.preserves path hpath) text).2⟩

theorem matches_shows (files : Files.Tree) (paths : List Path) :
    Matches fun v w => Shows files paths v ∧ Shows files paths w where
  note h records more := ⟨(kept_shows files paths).note h.1 records,
    (kept_shows files paths).note h.2 more⟩
  send h text := ⟨(send_reliable h.1.reliable text).1.trans
      (send_reliable h.2.reliable text).1.symm,
    (kept_shows files paths).send h.1 text, (kept_shows files paths).send h.2 text⟩
  config h p := (ReaderConfig.ofParameters_grown h.1.grown p).trans
    (ReaderConfig.ofParameters_grown h.2.grown p).symm
  members h config := (Members.ofConfig_grown h.1.grown config).trans
    (Members.ofConfig_grown h.2.grown config).symm
  trouble h source := (Members.trouble?_grown h.1.grown source).trans
    (Members.trouble?_grown h.2.grown source).symm

theorem shares_shows {path : Path} (hpath : path ∈ paths) :
    Shares (fun v w => Shows files paths v ∧ Shows files paths w) path :=
  fun _ _ h => (h.1.preserves path hpath).unchanged.trans (h.2.preserves path hpath).unchanged.symm

end World
end Copybook
