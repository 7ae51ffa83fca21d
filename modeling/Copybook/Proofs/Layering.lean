import Copybook.Proofs.Settings

/-!
Layers of settings. Settings of the declared kinds that are laid over each other come key by key to
the uppermost one that differs from the default, so that the default changes nothing and it does not
matter how several layers are grouped. -/
namespace Copybook
namespace Json
namespace Value

theorem alike_null_iff (v : Value) : v.alike .null = true ↔ v = .null := by
  cases v with
  | float x => cases h : x.toFraction? <;> simp [alike, equalsInt, h]
  | null | bool _ | int _ | text _ | list _ | object _ => simp [alike, equalsInt]

theorem alike_text_iff (v : Value) (t : Text) : v.alike (.text t) = true ↔ v = .text t := by
  cases v with
  | float x => cases h : x.toFraction? <;> simp [alike, equalsInt, h]
  | null | bool _ | int _ | text _ | list _ | object _ => simp [alike, equalsInt]

theorem alike_nil_iff (v : Value) : v.alike (.list []) = true ↔ v = .list [] := by
  cases v with
  | float x => cases h : x.toFraction? <;> simp [alike, equalsInt, h]
  | list items => cases items <;> simp [alike, alikeItems]
  | null | bool _ | int _ | text _ | object _ => simp [alike, equalsInt]

theorem alike_bool_iff (b c : Bool) : (Value.bool b).alike (.bool c) = true ↔ b = c := by
  cases b <;> cases c <;> simp [alike, equalsInt]

end Value
end Json

namespace Settings

variable {a b c s lower upper : Settings} {k : Key}

/-! ### One setting -/

def Key.Admits : Key → Setting → Prop
  | .copybooks, s | .directories, s => s.IsPaths
  | .rulesFile, s | .outputFile, s | .statusFile, s => s.IsNone ∨ s.IsPath
  | .ruleGroup, s => s.IsNone ∨ s.IsText
  | .namespacePrefix, s | .case, s | .encoding, s | .logLevel, s => s.IsText
  | .sortMembers, s | .typeMode, s | .verbose, s | .quiet, s => s.IsFlag

theorem isTyped_iff : s.IsTyped ↔ ∀ k : Key, k.Admits (s.get k) := by
  constructor
  · rintro ⟨_, _, _, _, _, _, _, _, _, _, _, _, _, _⟩ k
    cases k <;> assumption
  · intro h
    exact ⟨h .copybooks, h .directories, h .rulesFile, h .ruleGroup, h .namespacePrefix, h .case,
      h .encoding, h .sortMembers, h .typeMode, h .outputFile, h .statusFile, h .logLevel, h .verbose,
      h .quiet⟩

/-- Whether what is set under a key is written as the default is. -/
def isIdle (s : Settings) (k : Key) : Bool := (s.get k).toJson.alike (default.get k).toJson

@[simp] theorem isIdle_default (k : Key) : default.isIdle k = true := by cases k <;> rfl

theorem paths_alike_iff {s : Setting} (h : s.IsPaths) :
    s.toJson.alike (Setting.paths []).toJson = true ↔ s = .paths [] := by
  obtain ⟨ps, -, rfl⟩ := h
  rw [Setting.toJson_paths, Setting.toJson_paths, List.map_nil, Json.Value.alike_nil_iff]
  cases ps <;> simp [Setting.paths]

theorem none_alike_iff {s : Setting} (h : s.IsNone ∨ s.IsPath ∨ s.IsText) :
    s.toJson.alike .null = true ↔ s = .value .null := by
  rw [Json.Value.alike_null_iff]
  rcases h with rfl | ⟨p, -, rfl⟩ | ⟨t, rfl⟩ <;> simp [Setting.toJson, Setting.data]

theorem text_alike_iff {s : Setting} (h : s.IsText) (t : Text) :
    s.toJson.alike (.text t) = true ↔ s = .value (.text t) := by
  obtain ⟨u, rfl⟩ := h
  rw [Json.Value.alike_text_iff]
  simp [Setting.toJson, Setting.data]

theorem flag_alike_iff {s : Setting} (h : s.IsFlag) (b : Bool) :
    s.toJson.alike (.bool b) = true ↔ s = .value (.bool b) := by
  obtain ⟨c, rfl⟩ := h
  change (Json.Value.bool c).alike (.bool b) = true ↔ _
  rw [Json.Value.alike_bool_iff]
  simp

theorem IsTyped.isIdle_iff (h : s.IsTyped) (k : Key) : s.isIdle k = true ↔ s.get k = default.get k := by
  cases k with
  | copybooks => exact paths_alike_iff h.copybooks
  | directories => exact paths_alike_iff h.directories
  | rulesFile => exact none_alike_iff (h.rulesFile.imp_right .inl)
  | ruleGroup => exact none_alike_iff (h.ruleGroup.imp_right .inr)
  | namespacePrefix => exact text_alike_iff h.namespacePrefix _
  | case => exact text_alike_iff h.case _
  | encoding => exact text_alike_iff h.encoding _
  | sortMembers => exact flag_alike_iff h.sortMembers _
  | typeMode => exact flag_alike_iff h.typeMode _
  | outputFile => exact none_alike_iff (h.outputFile.imp_right .inl)
  | statusFile => exact none_alike_iff (h.statusFile.imp_right .inl)
  | logLevel => exact text_alike_iff h.logLevel _
  | verbose => exact flag_alike_iff h.verbose _
  | quiet => exact flag_alike_iff h.quiet _

/-! ### Two layers -/

/-- The upper settings where they differ from the default, and else the lower ones. -/
def atop (upper lower : Settings) : Settings :=
  ofKeys fun k => if upper.isIdle k then lower.get k else upper.get k

theorem get_atop (upper lower : Settings) (k : Key) :
    (upper.atop lower).get k = if upper.isIdle k then lower.get k else upper.get k :=
  get_ofKeys _ k

theorem isIdle_atop (upper lower : Settings) (k : Key) :
    (upper.atop lower).isIdle k = (upper.isIdle k && lower.isIdle k) := by
  cases h : upper.isIdle k with
  | true => rw [isIdle, get_atop, if_pos h, Bool.true_and, isIdle]
  | false =>
    have hkept : (upper.atop lower).get k = upper.get k := by simp [get_atop, h]
    rw [isIdle, hkept, ← isIdle, h, Bool.false_and]

theorem atop_assoc (a b c : Settings) : (c.atop b).atop a = c.atop (b.atop a) := by
  refine ext_get fun k => ?_
  rw [get_atop, get_atop, get_atop, get_atop, isIdle_atop]
  cases c.isIdle k <;> cases b.isIdle k <;> rfl

theorem default_atop (s : Settings) : default.atop s = s :=
  ext_get fun k => by rw [get_atop, isIdle_default, if_pos rfl]

theorem IsTyped.atop_default (h : s.IsTyped) : s.atop default = s := by
  refine ext_get fun k => ?_
  rw [get_atop]
  split
  · rename_i hidle
    exact ((h.isIdle_iff k).mp hidle).symm
  · rfl

theorem IsTyped.atop (hupper : upper.IsTyped) (hlower : lower.IsTyped) :
    (upper.atop lower).IsTyped := by
  rw [isTyped_iff] at hupper hlower ⊢
  intro k
  rw [get_atop]
  split
  · exact hlower k
  · exact hupper k

theorem IsTyped.merge_eq (hlower : lower.IsTyped) (hupper : upper.IsTyped) :
    lower.merge upper = .ok (upper.atop lower) := by
  rw [← ofKeys_get (upper.atop lower)]
  refine merge_of_read hlower.isWritable hupper.isWritable fun k => ?_
  have hchosen : (if (upper.get k).toJson.alike (default.get k).toJson then (lower.get k).toJson
      else (upper.get k).toJson) = ((upper.atop lower).get k).toJson := by
    rw [get_atop, ← isIdle]
    split <;> rfl
  rw [hchosen]
  exact ((hupper.atop hlower).comesBack k).read

/-! ### Any number of layers -/

/-- Settings that are laid over each other, in the grouping in which it is done. -/
inductive Layers
  | single (s : Settings)
  | pair (lower upper : Layers)

namespace Layers

def all : Layers → List Settings
  | .single s => [s]
  | .pair lower upper => lower.all ++ upper.all

/-- What the layers come to when each group is merged by itself. -/
def merged : Layers → Except Fault Settings
  | .single s => .ok s
  | .pair lower upper => do (← lower.merged).merge (← upper.merged)

end Layers

def stack (layers : List Settings) : Settings :=
  layers.foldl (fun lower upper => upper.atop lower) default

theorem foldl_atop (layers : List Settings) (base : Settings) :
    layers.foldl (fun lower upper => upper.atop lower) base = (stack layers).atop base := by
  suffices hall : ∀ s : Settings, layers.foldl (fun lower upper => upper.atop lower) (s.atop base) =
      (layers.foldl (fun lower upper => upper.atop lower) s).atop base by
    rw [stack, ← hall default, default_atop]
  induction layers with
  | nil => exact fun _ => rfl
  | cons next rest ih => exact fun s => by rw [List.foldl_cons, List.foldl_cons, ← atop_assoc, ih]

theorem stack_append (layers more : List Settings) :
    stack (layers ++ more) = (stack more).atop (stack layers) := by
  rw [stack, List.foldl_append, ← stack, foldl_atop]

theorem isTyped_stack {layers : List Settings} (h : ∀ s ∈ layers, s.IsTyped) :
    (stack layers).IsTyped := by
  induction layers with
  | nil => exact isTyped_default
  | cons s rest ih =>
    obtain ⟨hs, hrest⟩ := List.forall_mem_cons.mp h
    rw [← List.singleton_append, stack_append]
    exact (ih hrest).atop (hs.atop isTyped_default)

theorem Layers.merged_eq {l : Layers} (h : ∀ s ∈ l.all, s.IsTyped) : l.merged = .ok (stack l.all) := by
  induction l with
  | single s => exact congrArg Except.ok (h s List.mem_cons_self).atop_default.symm
  | pair lower upper ihlower ihupper =>
    obtain ⟨hlower, hupper⟩ := List.forall_mem_append.mp h
    rw [merged, ihlower hlower, ihupper hupper, all, stack_append]
    exact (isTyped_stack hlower).merge_eq (isTyped_stack hupper)

/-- The default changes nothing, from below or from above; what two layers come to is decided key by
key; and three or more layers may be grouped in any way. -/
theorem merge_layers (ha : a.IsTyped) (hb : b.IsTyped) (hc : c.IsTyped) :
    default.merge a = .ok a ∧ a.merge default = .ok a ∧
      (∃ ab bc abc, a.merge b = .ok ab ∧ b.merge c = .ok bc ∧ ab.merge c = .ok abc ∧
        a.merge bc = .ok abc ∧ ∀ k, (b.get k = default.get k → ab.get k = a.get k) ∧
          (b.get k ≠ default.get k → ab.get k = b.get k)) ∧
      ∀ l m : Layers, (∀ s ∈ l.all, s.IsTyped) → m.all = l.all →
        ∃ s, l.merged = .ok s ∧ m.merged = .ok s := by
  refine ⟨?_, ?_, ⟨b.atop a, c.atop b, c.atop (b.atop a), ha.merge_eq hb, hb.merge_eq hc,
    (hb.atop ha).merge_eq hc, ?_, fun k => ⟨fun hidle => ?_, fun hset => ?_⟩⟩, fun l m hl hm => ?_⟩
  · rw [isTyped_default.merge_eq ha, ha.atop_default]
  · rw [ha.merge_eq isTyped_default, default_atop]
  · rw [ha.merge_eq (hc.atop hb), atop_assoc]
  · rw [get_atop, if_pos ((hb.isIdle_iff k).mpr hidle)]
  · rw [get_atop, if_neg fun hidle => hset ((hb.isIdle_iff k).mp hidle)]
  · exact ⟨stack l.all, Layers.merged_eq hl, by rw [Layers.merged_eq (hm ▸ hl), hm]⟩

def siteLayer : Settings :=
  { default with case := .value "upper", rulesFile := .path (.ofText "/rules.csv") }

def projectLayer : Settings :=
  { default with case := .value "lower", copybooks := .paths [.ofText "lib//A"] }

/-- The word for the case is that of the default. -/
def runLayer : Settings := { default with case := .value "mixed", quiet := .value (.bool true) }

example : (stack [siteLayer, projectLayer, runLayer]).case = .value "lower" := rfl

theorem merge_layers_three : siteLayer.IsTyped ∧ projectLayer.IsTyped ∧ runLayer.IsTyped ∧
    let l : Layers := .pair (.pair (.single siteLayer) (.single projectLayer)) (.single runLayer)
    let m : Layers := .pair (.single siteLayer) (.pair (.single projectLayer) (.single runLayer))
    (∀ s ∈ l.all, s.IsTyped) ∧ m.all = l.all ∧ ∃ s, l.merged = .ok s ∧ m.merged = .ok s := by
  have hdefault := isTyped_default
  have hsite : siteLayer.IsTyped :=
    { hdefault with case := ⟨_, rfl⟩, rulesFile := .inr ⟨_, Path.isNormal_ofText _, rfl⟩ }
  have hproject : projectLayer.IsTyped :=
    { hdefault with
      case := ⟨_, rfl⟩, copybooks := ⟨[.ofText "lib//A"], by simp [Path.isNormal_ofText], rfl⟩ }
  have hrun : runLayer.IsTyped := { hdefault with case := ⟨_, rfl⟩, quiet := ⟨true, rfl⟩ }
  obtain ⟨-, -, -, hgroups⟩ := merge_layers hsite hproject hrun
  have hall : ∀ s ∈ [siteLayer, projectLayer, runLayer], s.IsTyped := by simp [hsite, hproject, hrun]
  exact ⟨hsite, hproject, hrun, hall, rfl, hgroups _ _ hall rfl⟩

end Settings
end Copybook
