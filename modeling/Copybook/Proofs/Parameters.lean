import Copybook.Proofs.Validation

/-!
Parameters and configurations. A configuration brings itself back through the parameters that it
gives, as long as its source is where it was, whatever the words were in which it was asked for. -/
namespace Copybook

variable {files found : Files.Tree} {p : Parameters} {config : ReaderConfig} {source : Source}
  {v : Option Json.Value} {path : Path}

namespace Files.Tree

theorem find_of_look {t : Tree} {node : Node} (h : t.look path = .ok (some node)) :
    t.find path = .ok node := by
  unfold look at h
  split at h
  · rename_i other hfind
    obtain rfl := Option.some.inj (Except.ok.inj h)
    exact hfind
  · cases h
  · cases h

end Files.Tree

namespace Source

theorem check_eq_ok_iff : source.check files = .ok () ↔ source.IsThere files := by
  by_cases hreach : files.IsOutOfReach source.path
  · have hfind : files.find source.path = .error (.trouble .nameTooLong source.path.toText) :=
      Files.Tree.find_outOfReach_iff.mpr ⟨hreach, rfl⟩
    refine iff_of_false (by simp [check_outOfReach hreach]) ?_
    cases source with
    | copybook path => exact fun ⟨content, h⟩ => nomatch hfind.symm.trans h
    | directory path => exact fun h => nomatch hfind.symm.trans h
  · rw [check_eq hreach, ← problem?_find_iff]
    cases source.problem? (files.find source.path).toOption <;> simp

end Source

namespace ReaderConfig

/-! ### Each check passes what it has made of a parameter -/

theorem lookAt_eq_ok {node : Files.Node} (h : lookAt files path = .ok (some node)) :
    files.find path = .ok node :=
  Files.Tree.find_of_look (mapError_eq_ok_iff.mp h)

theorem checkFile_found (h : checkFile files v = .ok path) :
    path.IsNormal ∧ (Source.copybook path).IsThere files := by
  unfold checkFile at h
  split at h
  · cases h
  · obtain ⟨⟨written, named⟩, hnamed, h⟩ := bind_eq_ok_iff.mp h
    obtain ⟨node, hnode, h⟩ := bind_eq_ok_iff.mp h
    split at h
    · cases h
    · cases h
    · obtain rfl := Except.ok.inj h
      exact ⟨pathOf_isNormal hnamed, _, lookAt_eq_ok hnode⟩

theorem checkDirectory_found (h : checkDirectory files v = .ok path) :
    (Source.directory path).IsThere files := by
  unfold checkDirectory at h
  split at h
  · cases h
  · obtain ⟨⟨written, named⟩, -, h⟩ := bind_eq_ok_iff.mp h
    obtain ⟨node, hnode, h⟩ := bind_eq_ok_iff.mp h
    split at h
    · cases h
    · cases h
    · obtain rfl := Except.ok.inj h
      exact lookAt_eq_ok hnode

theorem checkSource_found (h : checkSource files p = .ok source) :
    source.path.IsNormal ∧ source.IsThere files := by
  obtain ⟨scope, -, h⟩ := bind_eq_ok_iff.mp h
  cases scope with
  | copybook =>
    obtain ⟨path, hpath, h⟩ := bind_eq_ok_iff.mp h
    obtain rfl := Except.ok.inj h
    exact checkFile_found hpath
  | directory =>
    obtain ⟨path, hpath, h⟩ := bind_eq_ok_iff.mp h
    obtain rfl := Except.ok.inj h
    exact ⟨checkDirectory_isNormal hpath, checkDirectory_found hpath⟩

theorem checkPrefix_text {space : Text} (h : checkPrefix v = .ok space) :
    checkPrefix (some (.text space)) = .ok space := by
  unfold checkPrefix at h
  split at h
  · cases h
  · split at h
    · cases h
    · rename_i t _
      split at h
      · cases h
      · rename_i hsolid
        obtain rfl := Except.ok.inj h
        change (if t.trim.trim.isEmpty then _ else Except.ok t.trim.trim) = _
        rw [Text.trim_trim, if_neg hsolid]

theorem checkCase_word (mode : CaseMode) : checkCase (some (.text mode.word)) = .ok mode := by
  cases mode <;> decide +kernel

theorem encodingOf_encodingOf (v : Option Json.Value) :
    encodingOf (some (encodingOf v)) = encodingOf v := by
  cases v with
  | none => rfl
  | some v =>
    by_cases h : v.isTruthy = true
    · simp [encodingOf, h]
    · simp only [encodingOf, if_neg h]
      rfl

theorem getD_given (v : Json.Value) : (Parameters.given (some v)).getD .null = v := by
  cases v <;> rfl

/-! ### The way back -/

theorem names_toParameters (config : ReaderConfig) : config.toParameters.Names config.source := by
  obtain ⟨source, _, _, _, _, _, _⟩ := config
  cases source <;> exact ⟨rfl, rfl⟩

/-- The parameters of a configuration are refused for its source only. -/
theorem ofParameters_given (h : ofParameters files p = .ok config) (found : Files.Tree) :
    ofParameters found config.toParameters = (config.source.check found).map fun _ => config := by
  simp only [ofParameters, bind_eq_ok_iff] at h
  obtain ⟨source, hsource, space, hspace, rules, -, mode, -, sorted, -, hconfig⟩ := h
  obtain rfl := Except.ok.inj hconfig
  rw [ofParameters, checkSource_of_names (names_toParameters _) (checkSource_found hsource).1]
  dsimp only [toParameters]
  rw [checkPrefix_text hspace, checkCase_word, encodingOf_encodingOf, getD_given]
  cases source.check found <;> rfl

/-- Parameters that are accepted give a configuration which its own parameters give again, and those
stay the same. Among other files they give it again if and only if the source is there, and they give
no other one. -/
theorem ofParameters_toParameters (h : ofParameters files p = .ok config) :
    (∃ again, ofParameters files config.toParameters = .ok again ∧ again = config ∧
      again.toParameters = config.toParameters) ∧
    ∀ found again, ofParameters found config.toParameters = .ok again ↔
      config.source.IsThere found ∧ again = config := by
  have hthere : config.source.IsThere files := (checkSource_found (ofParameters_checks h).1).2
  have hback : ∀ found again, ofParameters found config.toParameters = .ok again ↔
      config.source.IsThere found ∧ again = config := by
    intro found again
    rw [ofParameters_given h, ← Source.check_eq_ok_iff]
    cases config.source.check found with
    | error failure => simp [Except.map]
    | ok _ => simp [Except.map, eq_comm]
  exact ⟨⟨config, (hback files config).mpr ⟨hthere, rfl⟩, rfl, rfl⟩, hback⟩

def libraryFiles : Files.Tree := ⟨["W"], [(["W"], .directory), (["W", "LIB"], .directory)]⟩

/-- Parameters that are told in other words than those of a configuration. -/
def looseParameters : Parameters where
  scope := some " PDS "
  copybookDirectory := some ".//LIB/../LIB/"
  namespacePrefix := some (.int 7)
  ruleStore := some (.store (.empty .null))
  ruleGroup := some (.list [.float .nan])
  case := some "Upper "
  encoding := some (.bool false)
  sortMembers := some "TRUE"

def strictConfig : ReaderConfig :=
  ⟨.directory (Path.ofText "LIB/../LIB"), "7", .empty .null, .list [.float .nan], .upper,
    .text "latin-1", true⟩

theorem ofParameters_toParameters_loose :
    ofParameters libraryFiles looseParameters = .ok strictConfig ∧
      ofParameters libraryFiles strictConfig.toParameters = .ok strictConfig ∧
      strictConfig.source.IsThere libraryFiles := by
  have hloose : ofParameters libraryFiles looseParameters = .ok strictConfig := rfl
  obtain ⟨⟨again, hagain, rfl, -⟩, hback⟩ := ofParameters_toParameters hloose
  exact ⟨hloose, hagain, ((hback libraryFiles _).mp hagain).1⟩

end ReaderConfig
end Copybook
