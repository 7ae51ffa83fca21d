import Copybook.Proofs.Document
import Copybook.Proofs.Files
import Copybook.Settings

/-!
Settings and their documents. Settings of the declared kinds are read back from their written form,
and from the file in which they have been saved. -/
namespace Copybook
namespace Setting

open Settings (Form)

def IsPaths (s : Setting) : Prop := ∃ ps : List Path, (∀ p ∈ ps, p.IsNormal) ∧ s = .paths ps

def IsPath (s : Setting) : Prop := ∃ p : Path, p.IsNormal ∧ s = .path p

def IsText (s : Setting) : Prop := ∃ t, s = .value (.text t)

def IsFlag (s : Setting) : Prop := ∃ b, s = .value (.bool b)

def IsNone (s : Setting) : Prop := s = .value .null

/-- Whether a setting has a plain written form from which it is read back. -/
structure ComesBack (form : Form) (s : Setting) : Prop where
  writable : s.isWritable = true
  plain : Json.IsPlain 1 s.toJson
  read : ofJson form s.toJson = .ok s

theorem toText_ne_nil {p : Path} (h : p.IsNormal) : p.toText ≠ [] := by
  intro hempty
  have hback := Path.ofText_toText h
  rw [hempty] at hback
  rw [← hback] at hempty
  exact absurd hempty (by decide)

theorem pathsOf_toText {ps : List Path} (h : ∀ p ∈ ps, p.IsNormal) :
    pathsOf (ps.map fun p => .text p.toText) = .ok ps := by
  induction ps with
  | nil => rfl
  | cons p rest ih =>
    obtain ⟨hp, hrest⟩ := List.forall_mem_cons.mp h
    rw [List.map_cons, pathsOf, pathOf, Path.ofText_toText hp, ih hrest]
    rfl

theorem data_paths (ps : List Path) :
    (paths ps).data = .list (ps.map fun p => .text p.toText) := by
  simp [paths, data, Function.comp_def, Source.data]

theorem isWritable_data_paths (ps : List Path) : (paths ps).data.isWritable = true := by
  rw [data_paths, Json.Value.isWritable_list_iff]
  exact List.forall_mem_map.mpr fun _ _ => rfl

theorem toJson_paths (ps : List Path) :
    (paths ps).toJson = .list (ps.map fun p => .text p.toText) := by
  simp [toJson, data_paths, Function.comp_def, Json.Value.shown]

theorem IsPaths.comesBack {s : Setting} (h : s.IsPaths) : s.ComesBack .paths := by
  obtain ⟨ps, hnormal, rfl⟩ := h
  constructor
  · exact isWritable_data_paths ps
  · rw [toJson_paths]
    refine .list fun v hv => ?_
    obtain ⟨p, -, rfl⟩ := List.mem_map.mp hv
    exact .text _
  · rw [toJson_paths, ofJson, Untyped.elements]
    change (do return paths (← pathsOf _)) = _
    rw [pathsOf_toText hnormal]
    rfl

theorem IsPath.comesBack {s : Setting} (h : s.IsPath) : s.ComesBack .path := by
  obtain ⟨p, hnormal, rfl⟩ := h
  refine ⟨rfl, .text p.toText, ?_⟩
  have htrue : (Json.Value.text p.toText).isTruthy = true := by
    simpa [Json.Value.isTruthy] using toText_ne_nil hnormal
  have hread : ofJson .path (.text p.toText) = (pathOf (.text p.toText)).map .path := if_pos htrue
  change ofJson .path (.text p.toText) = _
  rw [hread, pathOf, Path.ofText_toText hnormal]
  rfl

theorem IsNone.comesBack {s : Setting} (h : s.IsNone) {form : Form} (hform : form ≠ .paths) :
    s.ComesBack form := by
  subst h
  cases form with
  | paths => exact absurd rfl hform
  | path | value => exact ⟨rfl, .null, rfl⟩

theorem IsText.comesBack {s : Setting} (h : s.IsText) : s.ComesBack .value := by
  obtain ⟨t, rfl⟩ := h
  exact ⟨rfl, .text t, rfl⟩

theorem IsFlag.comesBack {s : Setting} (h : s.IsFlag) : s.ComesBack .value := by
  obtain ⟨b, rfl⟩ := h
  exact ⟨rfl, .bool b, rfl⟩

end Setting

namespace Settings

structure IsTyped (s : Settings) : Prop where
  copybooks : s.copybooks.IsPaths
  directories : s.directories.IsPaths
  rulesFile : s.rulesFile.IsNone ∨ s.rulesFile.IsPath
  ruleGroup : s.ruleGroup.IsNone ∨ s.ruleGroup.IsText
  namespacePrefix : s.namespacePrefix.IsText
  case : s.case.IsText
  encoding : s.encoding.IsText
  sortMembers : s.sortMembers.IsFlag
  typeMode : s.typeMode.IsFlag
  outputFile : s.outputFile.IsNone ∨ s.outputFile.IsPath
  statusFile : s.statusFile.IsNone ∨ s.statusFile.IsPath
  logLevel : s.logLevel.IsText
  verbose : s.verbose.IsFlag
  quiet : s.quiet.IsFlag

theorem isTyped_default : default.IsTyped := by
  refine ⟨⟨[], by simp, rfl⟩, ⟨[], by simp, rfl⟩, .inl rfl, .inl rfl, ⟨_, rfl⟩, ⟨_, rfl⟩, ⟨_, rfl⟩,
    ⟨_, rfl⟩, ⟨_, rfl⟩, .inl rfl, .inl rfl, ⟨_, rfl⟩, ⟨_, rfl⟩, ⟨_, rfl⟩⟩

theorem optionalPath_comesBack {s : Setting} (h : s.IsNone ∨ s.IsPath) : s.ComesBack .path := by
  rcases h with h | h
  · exact h.comesBack (by simp)
  · exact h.comesBack

theorem IsTyped.comesBack {s : Settings} (h : s.IsTyped) (k : Key) :
    (s.get k).ComesBack k.form := by
  cases k with
  | copybooks => exact h.copybooks.comesBack
  | directories => exact h.directories.comesBack
  | rulesFile => exact optionalPath_comesBack h.rulesFile
  | ruleGroup =>
    rcases h.ruleGroup with h | h
    · exact h.comesBack (by decide)
    · exact h.comesBack
  | namespacePrefix => exact h.namespacePrefix.comesBack
  | case => exact h.case.comesBack
  | encoding => exact h.encoding.comesBack
  | sortMembers => exact h.sortMembers.comesBack
  | typeMode => exact h.typeMode.comesBack
  | outputFile => exact optionalPath_comesBack h.outputFile
  | statusFile => exact optionalPath_comesBack h.statusFile
  | logLevel => exact h.logLevel.comesBack
  | verbose => exact h.verbose.comesBack
  | quiet => exact h.quiet.comesBack

theorem readKeys_eq {read : Key → Except Fault (Option Setting)} {f : Key → Setting}
    {keys : List Key} (h : ∀ k ∈ keys, read k = .ok (some (f k))) (s : Settings) :
    readKeys read keys s = .ok (ofKeys fun k => if k ∈ keys then f k else s.get k) := by
  induction keys generalizing s with
  | nil => simp [readKeys]
  | cons key rest ih =>
    obtain ⟨hkey, hrest⟩ := List.forall_mem_cons.mp h
    rw [readKeys, hkey]
    change readKeys read rest (s.set key (f key)) = _
    rw [ih hrest]
    congr 2
    funext k
    by_cases hk : k = key <;> by_cases hr : k ∈ rest <;> simp [set, hk, hr]

/-- Settings are laid over others if what is chosen under each key can be read. -/
theorem merge_of_read {lower upper : Settings} {f : Key → Setting}
    (hlower : lower.isWritable = true) (hupper : upper.isWritable = true)
    (h : ∀ k : Key, Setting.ofJson k.form
      (if (upper.get k).toJson.alike (default.get k).toJson then (lower.get k).toJson
        else (upper.get k).toJson) = .ok (f k)) :
    lower.merge upper = .ok (ofKeys f) := by
  rw [merge, if_pos (Bool.and_eq_true_iff.mpr ⟨hlower, hupper⟩), readKeys_eq (f := f)]
  · simp only [Key.mem_all, if_true]
  · intro k _
    dsimp only
    rw [h k]
    rfl

theorem nodup_words : (Key.all.map Key.word).Nodup := by decide

theorem find?_word (f : Key → Json.Value) (k : Key) :
    Association.find? k.word (Key.all.map fun k => (k.word, f k)) = some (f k) := by
  have hkeys : ((Key.all.map fun k => (k.word, f k)).map (·.1)).Nodup := by
    rw [List.map_map]
    exact nodup_words
  exact (Association.mem_iff_find? hkeys (k.word, f k)).mp
    (List.mem_map.mpr ⟨k, k.mem_all, rfl⟩)

theorem ofFields_eq {fields : List (Text × Json.Value)} {f : Key → Setting}
    (h : ∀ k : Key, ∃ v, Association.find? k.word fields = some v ∧
      Setting.ofJson k.form v = .ok (f k)) : ofFields fields = .ok (ofKeys f) := by
  rw [ofFields, readKeys_eq (f := f)]
  · simp only [Key.mem_all, if_true]
  · intro k _
    obtain ⟨v, hfind, hread⟩ := h k
    rw [hfind]
    dsimp only
    rw [hread]
    rfl

theorem ofJson_object (fields : List (Text × Json.Value)) :
    ofJson (.object fields) = ofFields fields := rfl

theorem IsTyped.isWritable {s : Settings} (h : s.IsTyped) : s.isWritable = true :=
  List.all_eq_true.mpr fun k _ => (h.comesBack k).writable

theorem IsTyped.toJson_eq {s : Settings} (h : s.IsTyped) : s.toJson = .ok (.object s.fields) :=
  if_pos h.isWritable

theorem ofJson_fields {s : Settings} (h : s.IsTyped) : ofJson (.object s.fields) = .ok s := by
  rw [ofJson_object, ofFields_eq (f := s.get), ofKeys_get]
  intro k
  exact ⟨_, find?_word (fun k => (s.get k).toJson) k, (h.comesBack k).read⟩

theorem isPlain_fields {s : Settings} (h : s.IsTyped) : Json.IsPlain 2 (.object s.fields) := by
  refine .object ?_ ?_
  · rw [fields, List.map_map]
    exact nodup_words
  · intro entry hentry
    obtain ⟨k, -, rfl⟩ := List.mem_map.mp hentry
    exact (h.comesBack k).plain

def document (s : Settings) : Text := Json.write (some Json.usualIndent) (.object s.fields)

theorem isIndent_usual : Json.Reader.IsIndent (some Json.usualIndent) := by
  rintro unit ⟨⟩
  decide

theorem IsTyped.save_eq {s : Settings} (h : s.IsTyped) (files : Files.Tree) (path : Path) :
    s.save files path = (files.write path (Encoding.encodeUtf8 s.document)).mapError .files := by
  have hwritten : (Json.Value.object s.fields).written = .ok (.object s.fields) :=
    if_pos (isPlain_fields h).isWritable
  simp only [save, h.toJson_eq, bind, Except.bind, hwritten, mapError_ok]
  rfl

theorem IsTyped.save_of_create {s : Settings} (h : s.IsTyped) {files opened : Files.Tree}
    {path : Path} {place : Files.Place} (hcreate : files.create path = .ok (place, opened)) :
    ∃ saved, s.save files path = .ok saved := by
  rw [h.save_eq, Files.Tree.write, hcreate]
  exact ⟨_, rfl⟩

theorem load_of_read {s : Settings} (h : s.IsTyped) (depth : Json.Depth) {files : Files.Tree}
    {path : Path} (hread : files.read path = .ok (Encoding.encodeUtf8 s.document)) :
    load depth files path = .ok s := by
  have hbytes : Encoding.readAll (Encoding.encodeUtf8 s.document) = .ok s.document :=
    Json.readAll_basic fun c =>
      Json.isBasic_of_mem_value isIndent_usual (isPlain_fields h) 0
  have hroom : 2 ≤ depth.limit := Nat.le_of_succ_le depth.three_le
  have hjson : Json.read depth s.document = .ok (.object s.fields) :=
    Json.read_write (isPlain_fields h) hroom isIndent_usual
  rw [load, hread]
  change (do
    let document ← (Encoding.readAll (Encoding.encodeUtf8 s.document)).mapError _
    ofJson (← (Json.read depth document).mapError (Fault.ofJson document))) = _
  rw [hbytes]
  change (do ofJson (← (Json.read depth s.document).mapError (Fault.ofJson s.document))) = _
  rw [hjson]
  exact ofJson_fields h

theorem load_save {s : Settings} (h : s.IsTyped) (depth : Json.Depth) :
    (s.toJson >>= ofJson) = .ok s ∧
    (∀ files path opened, files.create path = .ok opened → ∃ saved, s.save files path = .ok saved) ∧
    ∀ files path saved, s.save files path = .ok saved → load depth saved path = .ok s := by
  refine ⟨?_, fun _ _ _ => h.save_of_create, ?_⟩
  · rw [h.toJson_eq]
    exact ofJson_fields h
  intro files path saved hsave
  rw [h.save_eq] at hsave
  cases hwrite : files.write path (Encoding.encodeUtf8 s.document) with
  | error fault =>
    rw [hwrite] at hsave
    cases hsave
  | ok written =>
    rw [hwrite] at hsave
    obtain rfl := Except.ok.inj hsave
    exact load_of_read h depth (Files.Tree.read_write hwrite)

/-- Settings with paths, and with a text that holds a quote, a line feed and other characters that
are not written as they are. -/
def sample : Settings :=
  { default with
    copybooks := .paths [.ofText "lib//A", .ofText "B"]
    rulesFile := .path (.ofText "/rules.csv")
    ruleGroup := .value (.text "G\"\n\u00e9😀")
    quiet := .value (.bool true) }

theorem load_save_sample : sample.IsTyped ∧ (sample.toJson >>= ofJson) = .ok sample ∧
    ∃ saved, sample.save ⟨[], []⟩ (.ofText "run.json") = .ok saved ∧
      load ⟨3, by decide⟩ saved (.ofText "run.json") = .ok sample := by
  have hdefault := isTyped_default
  have htyped : sample.IsTyped :=
    { hdefault with
      copybooks := ⟨[.ofText "lib//A", .ofText "B"], by simp [Path.isNormal_ofText], rfl⟩
      rulesFile := .inr ⟨_, Path.isNormal_ofText _, rfl⟩
      ruleGroup := .inr ⟨_, rfl⟩
      quiet := ⟨true, rfl⟩ }
  obtain ⟨hback, hsaves, hloads⟩ := load_save htyped ⟨3, by decide⟩
  obtain ⟨saved, hsaved⟩ := hsaves ⟨[], []⟩ (.ofText "run.json") _ rfl
  exact ⟨htyped, hback, saved, hsaved, hloads _ _ _ hsaved⟩

end Settings
end Copybook
