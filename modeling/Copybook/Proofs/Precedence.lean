import Copybook.CommandLine.Arguments
import Copybook.Proofs.Result
import Copybook.Proofs.Settings

/-!
Precedence of the command line. What is given there goes before what stands in the configuration
file, and what is not given there stays as the file has it. Whether something has been given is seen
from its value, so that a word which says what holds by default gives way to the file. -/
namespace Copybook

namespace Setting

/-- Sources whose names can be written and stay as they are when they are read as paths. -/
structure Source.IsNamed (source : Source) : Prop where
  writable : source.data.isWritable = true
  name : (Path.ofText source.data.shown).toText = source.data.shown

/-- Settings that belong under the keys of a form. -/
inductive Suits : Settings.Form → Setting → Prop
  | sources {sources : List Source} : (∀ source ∈ sources, source.IsNamed) →
      Suits .paths (.several sources)
  | place {p : Path} : p.IsNormal → Suits .path (.path p)
  | idle {v : Json.Value} : v.isTruthy = false → Suits .path (.value v)
  | plain {v : Json.Value} : (value v).isWritable = true → Suits .value (.value v)

theorem isNamed_path {p : Path} (h : p.IsNormal) : (Source.path p).IsNamed :=
  ⟨rfl, congrArg Path.toText (Path.ofText_toText h)⟩

theorem isWritable_value {v : Json.Value} (h : v.isWritable = true) :
    (value v).isWritable = true := by
  cases v with
  | list => exact h
  | _ => rfl

theorem Suits.isWritable {form : Settings.Form} {s : Setting} (h : Suits form s) :
    s.isWritable = true := by
  cases h with
  | sources hnamed =>
    refine (Json.Value.isWritable_list_iff _).mpr fun v hv => ?_
    obtain ⟨source, hsource, rfl⟩ := List.mem_map.mp hv
    exact (hnamed source hsource).writable
  | place => rfl
  | @idle v hidle =>
    cases v with
    | list items =>
      cases items with
      | nil => rfl
      | cons => cases hidle
    | _ => rfl
  | plain hwritable => exact hwritable

theorem toJson_several (sources : List Source) :
    (several sources).toJson = .list (sources.map fun source => .text source.data.shown) := by
  simp [toJson, data, Function.comp_def]

theorem pathsOf_texts (names : List Text) :
    pathsOf (names.map .text) = .ok (names.map Path.ofText) := by
  induction names with
  | nil => rfl
  | cons name rest ih =>
    rw [List.map_cons, pathsOf, ih]
    rfl

theorem toJson_toJson (v : Json.Value) : (value (value v).toJson).toJson = (value v).toJson := by
  cases v <;> simp [toJson, data, Function.comp_def, Json.Value.shown]

theorem Suits.reread {form : Settings.Form} {s : Setting} (h : Suits form s) :
    ∃ t, ofJson form s.toJson = .ok t ∧ t.toJson = s.toJson := by
  cases h with
  | @sources sources hnamed =>
    have hread : ofJson .paths (several sources).toJson =
        .ok (paths (sources.map fun source => Path.ofText source.data.shown)) := by
      have hpaths := pathsOf_texts (sources.map fun source => source.data.shown)
      simp only [List.map_map, Function.comp_def] at hpaths
      rw [toJson_several, ofJson, Untyped.elements]
      change (do return paths (← pathsOf _)) = _
      rw [hpaths]
      rfl
    refine ⟨_, hread, ?_⟩
    rw [toJson_paths, toJson_several, List.map_map]
    congr 1
    exact List.map_congr_left fun source hsource => congrArg Json.Value.text (hnamed source hsource).name
  | place hnormal => exact ⟨_, (IsPath.comesBack ⟨_, hnormal, rfl⟩).read, rfl⟩
  | @idle v hidle =>
    have hwritten : (value v).toJson.isTruthy = false := by
      cases v <;> simp_all [toJson, data, Json.Value.isTruthy]
    exact ⟨_, by rw [ofJson, hwritten]; rfl, toJson_toJson v⟩
  | @plain v _ => exact ⟨_, rfl, toJson_toJson v⟩

theorem pathOf_isNormal {v : Json.Value} {p : Path} (h : pathOf v = .ok p) : p.IsNormal := by
  unfold pathOf at h
  split at h
  · obtain rfl := Except.ok.inj h
    exact Path.isNormal_ofText _
  · cases h

theorem pathsOf_isNormal {items : List Json.Value} {ps : List Path}
    (h : pathsOf items = .ok ps) : ∀ p ∈ ps, p.IsNormal := by
  induction items generalizing ps with
  | nil =>
    obtain rfl := Except.ok.inj h
    simp
  | cons v rest ih =>
    obtain ⟨p, hp, h⟩ := bind_eq_ok_iff.mp h
    obtain ⟨more, hmore, h⟩ := bind_eq_ok_iff.mp h
    obtain rfl := Except.ok.inj h
    exact List.forall_mem_cons.mpr ⟨pathOf_isNormal hp, ih hmore⟩

theorem suits_ofJson {form : Settings.Form} {v : Json.Value} {s : Setting}
    (h : ofJson form v = .ok s) (hv : v.isWritable = true) : Suits form s := by
  cases form with
  | value =>
    obtain rfl := Except.ok.inj h
    exact .plain (isWritable_value hv)
  | path =>
    unfold ofJson at h
    dsimp only at h
    split at h
    · cases hp : pathOf v with
      | error fault => simp [hp, Except.map] at h
      | ok p =>
        rw [hp] at h
        obtain rfl := Except.ok.inj h
        exact .place (pathOf_isNormal hp)
    · obtain rfl := Except.ok.inj h
      exact .idle (by simpa using ‹¬ v.isTruthy = true›)
  | paths =>
    obtain ⟨items, -, h⟩ := bind_eq_ok_iff.mp h
    obtain ⟨ps, hps, h⟩ := bind_eq_ok_iff.mp h
    obtain rfl := Except.ok.inj h
    refine .sources fun source hsource => ?_
    obtain ⟨p, hp, rfl⟩ := List.mem_map.mp hsource
    exact isNamed_path (pathsOf_isNormal hps p hp)

end Setting

namespace Settings

variable {s t lower upper : Settings} {depth : Json.Depth} {files : Files.Tree} {path : Path}

def IsSuited (s : Settings) : Prop := ∀ k, (s.get k).Suits k.form

@[simp] theorem get_set (key k : Key) (setting : Setting) (s : Settings) :
    (s.set key setting).get k = if k = key then setting else s.get k := by
  simp [set]

theorem IsSuited.isWritable (h : s.IsSuited) : s.isWritable = true :=
  List.all_eq_true.mpr fun k _ => (h k).isWritable

theorem isSuited_default : default.IsSuited := by
  intro k
  cases k <;> first | exact .sources (by simp) | exact .idle rfl | exact .plain rfl

theorem IsSuited.set {key : Key} {setting : Setting} (hs : s.IsSuited)
    (h : setting.Suits key.form) : (s.set key setting).IsSuited := by
  intro k
  rw [get_set]
  split
  · subst k
    exact h
  · exact hs k

theorem readKeys_isSuited {read : Key → Except Fault (Option Setting)}
    (hread : ∀ k setting, read k = .ok (some setting) → setting.Suits k.form) {keys : List Key}
    (hs : s.IsSuited) (h : readKeys read keys s = .ok t) : t.IsSuited := by
  induction keys generalizing s with
  | nil =>
    obtain rfl := Except.ok.inj h
    exact hs
  | cons key rest ih =>
    obtain ⟨found, hfound, h⟩ := bind_eq_ok_iff.mp h
    cases found with
    | none => exact ih hs h
    | some setting => exact ih (hs.set (hread key setting hfound)) h

/-! ### What is read can be written -/

theorem elements_isWritable {v : Json.Value} {items : List Json.Value}
    (h : Untyped.elements v = .ok items) (hv : v.isWritable = true) :
    ∀ item ∈ items, item.isWritable = true := by
  cases v with
  | list =>
    obtain rfl := Except.ok.inj h
    exact (Json.Value.isWritable_list_iff _).mp hv
  | text | object =>
    obtain rfl := Except.ok.inj h
    exact List.forall_mem_map.mpr fun _ _ => rfl
  | _ => cases h

theorem pairOf_isWritable {index : Nat} {v : Json.Value} {pair : Option (Text × Json.Value)}
    (h : pairOf index v = .ok pair) (hv : v.isWritable = true) :
    ∀ entry ∈ pair, entry.2.isWritable = true := by
  obtain ⟨items, hitems, h⟩ := bind_eq_ok_iff.mp h
  have hall := elements_isWritable hitems hv
  split at h
  · obtain rfl := Except.ok.inj h
    rintro entry ⟨⟩
    exact hall _ (by simp)
  · cases h
  · cases h
  · obtain rfl := Except.ok.inj h
    simp
  · cases h

theorem pairsOf_isWritable {index : Nat} {items : List Json.Value}
    {fields : List (Text × Json.Value)} (h : pairsOf index items = .ok fields)
    (hitems : ∀ item ∈ items, item.isWritable = true) :
    ∀ entry ∈ fields, entry.2.isWritable = true := by
  induction items generalizing index fields with
  | nil =>
    obtain rfl := Except.ok.inj h
    simp
  | cons v rest ih =>
    obtain ⟨hv, hrest⟩ := List.forall_mem_cons.mp hitems
    obtain ⟨pair, hpair, h⟩ := bind_eq_ok_iff.mp h
    obtain ⟨more, hmore, h⟩ := bind_eq_ok_iff.mp h
    obtain rfl := Except.ok.inj h
    refine List.forall_mem_append.mpr ⟨fun entry hentry => ?_, ih hmore hrest⟩
    exact pairOf_isWritable hpair hv entry (Option.mem_toList.mp hentry)

theorem fieldsOf_isWritable {v : Json.Value} {fields : List (Text × Json.Value)}
    (h : fieldsOf v = .ok fields) (hv : v.isWritable = true) :
    ∀ entry ∈ fields, entry.2.isWritable = true := by
  unfold fieldsOf at h
  split at h
  · obtain rfl := Except.ok.inj h
    exact (Json.Value.isWritable_object_iff _).mp hv
  · obtain ⟨items, hitems, h⟩ := bind_eq_ok_iff.mp h
    obtain ⟨pairs, hpairs, h⟩ := bind_eq_ok_iff.mp h
    obtain rfl := Except.ok.inj h
    exact Association.forall_ofList (P := (Json.Value.isWritable · = true))
      (pairsOf_isWritable hpairs (elements_isWritable hitems hv))

theorem load_isSuited (h : load depth files path = .ok s) : s.IsSuited := by
  obtain ⟨bytes, -, h⟩ := bind_eq_ok_iff.mp h
  obtain ⟨document, -, h⟩ := bind_eq_ok_iff.mp h
  obtain ⟨v, hv, h⟩ := bind_eq_ok_iff.mp h
  obtain ⟨fields, hfields, h⟩ := bind_eq_ok_iff.mp h
  have hall : ∀ w ∈ fields.map (·.2), w.isWritable = true := List.forall_mem_map.mpr
    (fieldsOf_isWritable hfields (Json.read_isWritable (mapError_eq_ok_iff.mp hv)))
  refine readKeys_isSuited ?_ isSuited_default h
  intro k setting hk
  split at hk
  · cases hk
  · rename_i v hfind
    have hwritable := hall _ (Association.mem_of_find?_eq_some hfind)
    cases hread : Setting.ofJson k.form v with
    | error fault => simp [hread, Except.map] at hk
    | ok found =>
      rw [hread] at hk
      obtain rfl := Option.some.inj (Except.ok.inj hk)
      exact Setting.suits_ofJson hread hwritable

/-- Laying settings over others never fails, and the written form of each setting is that of the
upper one, if it is not that of the default, and else that of the lower one. -/
theorem merge_spec (hlower : lower.IsSuited) (hupper : upper.IsSuited) :
    ∃ s, lower.merge upper = .ok s ∧ ∀ k, (s.get k).toJson =
      if (upper.get k).toJson.alike (default.get k).toJson then (lower.get k).toJson
      else (upper.get k).toJson := by
  have hchosen : ∀ k : Key, ∃ t : Setting, Setting.ofJson k.form
      (if (upper.get k).toJson.alike (default.get k).toJson then (lower.get k).toJson
        else (upper.get k).toJson) = .ok t ∧
      t.toJson = if (upper.get k).toJson.alike (default.get k).toJson then (lower.get k).toJson
        else (upper.get k).toJson := by
    intro k
    split
    · exact (hlower k).reread
    · exact (hupper k).reread
  choose f hread hwritten using hchosen
  refine ⟨ofKeys f, merge_of_read hlower.isWritable hupper.isWritable hread, fun k => ?_⟩
  rw [get_ofKeys, hwritten k]

end Settings

namespace CommandLine

open Settings (Key Form)

namespace Switch

variable {o s : Switch} {k : Key}

/-- The word that says what holds by default anyway. -/
def defaultWord? : Switch → Option Text
  | .namespacePrefix => some []
  | .case => some "mixed"
  | .encoding => some "latin-1"
  | _ => none

theorem eq_of_key (hs : s.key? = some k) (ho : o.key? = some k) : s = o := by
  cases k <;> cases s <;> cases hs <;> cases o <;> first | rfl | cases ho

end Switch

namespace Token

def orders : List Token → List (Switch × Text)
  | [] => []
  | .plain _ :: rest | .unknown _ :: rest => orders rest
  | .switch s short attached :: rest =>
    match Bundle.ofSwitch s short attached with
    | .error _ => []
    | .ok b =>
      match b.valued, rest with
      | none, rest => orders rest
      | some (s, some word), rest => (s, word) :: orders rest
      | some (s, none), .plain word :: rest => (s, word) :: orders rest
      | some (_, none), _ => []

end Token

def wordsOf (o : Switch) (orders : List (Switch × Text)) : List Text :=
  orders.filterMap fun order => if order.1 = o then some order.2 else none

def Switch.given (o : Switch) (words : List Text) : List Text :=
  match Token.readAll words with
  | .ok tokens => wordsOf o (Token.orders tokens)
  | .error _ => []

namespace Bundle

theorem flags_single (s : Switch) : ∀ f ∈ (single s).flags, f.takesValue = false := by
  unfold single
  split
  · simp
  · simp_all

theorem flags_behind {s : Switch} (hs : s.takesValue = false) {b : Bundle}
    (hb : ∀ f ∈ b.flags, f.takesValue = false) :
    ∀ f ∈ (b.behind s).flags, f.takesValue = false :=
  List.forall_mem_cons.mpr ⟨hs, hb⟩

theorem flags_together {s : Switch} {attached : Text} {b : Bundle}
    (h : together s attached = .ok b) : ∀ f ∈ b.flags, f.takesValue = false := by
  induction attached generalizing s b with
  | nil =>
    unfold together at h
    split at h
    · obtain rfl := Except.ok.inj h
      simp
    · cases h
  | cons c rest ih =>
    unfold together at h
    split at h
    · obtain rfl := Except.ok.inj h
      simp
    · rename_i hs
      have hs : s.takesValue = false := by simpa using hs
      split at h
      · cases h
      · rename_i next _
        split at h
        · obtain rfl := Except.ok.inj h
          exact flags_behind hs (flags_single next)
        · cases hnext : together next rest with
          | error refusal => simp [hnext, Except.map] at h
          | ok more =>
            rw [hnext] at h
            obtain rfl := Except.ok.inj h
            exact flags_behind hs (ih hnext)

theorem flags_ofSwitch {s : Switch} {short : Bool} {attached : Option Text} {b : Bundle}
    (h : ofSwitch s short attached = .ok b) : ∀ f ∈ b.flags, f.takesValue = false := by
  unfold ofSwitch at h
  split at h
  · obtain rfl := Except.ok.inj h
    exact flags_single s
  · split at h
    · exact flags_together h
    · split at h
      · obtain rfl := Except.ok.inj h
        simp
      · cases h

end Bundle

namespace Arguments

variable {a b c : Arguments} {o : Switch} {k : Key} {words : List Text} {tokens : List Token}
  {orders : List (Switch × Text)}

/-- Switches that are taken one after the other, those with words as they are ordered. -/
inductive Steps : Arguments → List (Switch × Text) → Arguments → Prop
  | done (a : Arguments) : Steps a [] a
  | flag {a b c : Arguments} {f : Switch} {orders : List (Switch × Text)} :
      f.takesValue = false → takeFlag f a = .ok b → Steps b orders c → Steps a orders c
  | order {a b c : Arguments} {s : Switch} {word : Text} {orders : List (Switch × Text)} :
      takeValue s word a = .ok b → Steps b orders c → Steps a ((s, word) :: orders) c

theorem Steps.flags {flags : List Switch} (hflags : ∀ f ∈ flags, f.takesValue = false)
    (h : takeFlags flags a = .ok b) (hsteps : Steps b orders c) : Steps a orders c := by
  induction flags generalizing a with
  | nil =>
    obtain rfl := Except.ok.inj h
    exact hsteps
  | cons f rest ih =>
    obtain ⟨hf, hrest⟩ := List.forall_mem_cons.mp hflags
    obtain ⟨next, hnext, h⟩ := bind_eq_ok_iff.mp h
    exact .flag hf hnext (ih hrest h)

theorem take_steps {stray : List Text} (h : take a stray tokens = .ok b) :
    Steps a (Token.orders tokens) b := by
  fun_induction take a stray tokens with
  | case1 a stray hstray =>
    obtain rfl := Except.ok.inj h
    exact .done a
  | case2 => cases h
  | case3 a stray word rest ih => exact ih h
  | case4 a stray word rest ih => exact ih h
  | case5 => cases h
  | case6 a stray s short attached bundle hbundle rest hvalued ih =>
    obtain ⟨flagged, hflags, h⟩ := bind_eq_ok_iff.mp h
    simp only [Token.orders, hbundle, hvalued]
    exact .flags (Bundle.flags_ofSwitch hbundle) hflags (ih flagged h)
  | case7 a stray s short attached bundle hbundle o word rest hvalued ih
  | case8 a stray s short attached bundle hbundle o word rest hvalued ih =>
    obtain ⟨flagged, hflags, h⟩ := bind_eq_ok_iff.mp h
    obtain ⟨taken, htaken, h⟩ := bind_eq_ok_iff.mp h
    simp only [Token.orders, hbundle, hvalued]
    exact .flags (Bundle.flags_ofSwitch hbundle) hflags (.order htaken (ih taken h))
  | case9 => cases h

theorem takeFlag_ok {f : Switch} (hf : f.takesValue = false) (h : takeFlag f a = .ok b) :
    ∃ key, f.key? = some key ∧ key.form = .value ∧ b = a.set key (.value (.bool true)) := by
  cases f with
  | help | version => cases h
  | sortMembers | types | verbose | quiet =>
    obtain rfl := Except.ok.inj h
    exact ⟨_, rfl, rfl, rfl⟩
  | _ => cases hf

theorem takeValue_ok {s : Switch} {word : Text} (h : takeValue s word a = .ok b) :
    (∃ key, s.key? = some key ∧
      b = a.set key (settingOf key.form (a.settings.get key) (valueOf word))) ∨
    s.key? = none ∧ b.settings = a.settings := by
  unfold takeValue at h
  split at h
  · cases h
  · split at h
    · obtain rfl := Except.ok.inj h
      exact .inl ⟨_, ‹_›, rfl⟩
    · obtain rfl := Except.ok.inj h
      exact .inr ⟨‹_›, rfl⟩

theorem suits_settingOf {form : Form} {setting : Setting} (h : setting.Suits form) (word : Text) :
    (settingOf form setting (valueOf word)).Suits form := by
  unfold valueOf
  cases h with
  | @sources sources hnamed =>
    split
    · refine .sources (List.forall_mem_append.mpr ⟨hnamed, ?_⟩)
      intro source hsource
      obtain rfl := List.mem_singleton.mp hsource
      exact ⟨rfl, rfl⟩
    · refine .sources (List.forall_mem_append.mpr ⟨hnamed, ?_⟩)
      intro source hsource
      obtain rfl := List.mem_singleton.mp hsource
      exact Setting.isNamed_path (Path.isNormal_ofText _)
  | place | idle =>
    split
    · exact .idle rfl
    · exact .place (Path.isNormal_ofText _)
  | plain => split <;> exact .plain rfl

theorem Steps.isSuited (h : Steps a orders b) (ha : a.settings.IsSuited) :
    b.settings.IsSuited := by
  induction h with
  | done a => exact ha
  | flag hf hflag _ ih =>
    obtain ⟨key, -, hform, rfl⟩ := takeFlag_ok hf hflag
    exact ih (ha.set (hform ▸ .plain rfl))
  | order hvalue _ ih =>
    obtain ⟨key, -, rfl⟩ | ⟨-, hsettings⟩ := takeValue_ok hvalue
    · exact ih (ha.set (suits_settingOf (ha key) _))
    · exact ih (hsettings ▸ ha)

/-- What the words given to a switch make of a setting one after the other. -/
def settle (form : Form) (setting : Setting) (words : List Text) : Setting :=
  words.foldl (fun setting word => settingOf form setting (valueOf word)) setting

/-- Of all switches only that of a key has an effect on it. -/
theorem Steps.settings (h : Steps a orders b) (ho : o.takesValue = true) (hk : o.key? = some k) :
    b.settings.get k = settle k.form (a.settings.get k) (wordsOf o orders) := by
  induction h with
  | done a => rfl
  | @flag a b c f orders hf hflag _ ih =>
    obtain ⟨key, hkey, -, rfl⟩ := takeFlag_ok hf hflag
    have hne : k ≠ key := by
      rintro rfl
      rw [Switch.eq_of_key hkey hk, ho] at hf
      cases hf
    rw [ih]
    simp [set, hne]
  | @order a b c s word orders hvalue _ ih =>
    rw [ih, wordsOf, wordsOf, List.filterMap_cons]
    obtain ⟨key, hkey, rfl⟩ | ⟨hnone, hsettings⟩ := takeValue_ok hvalue
    · by_cases hs : s = o
      · subst s
        obtain rfl := Option.some.inj (hkey.symm.trans hk)
        simp [settle, set]
      · have hne : k ≠ key := by
          rintro rfl
          exact hs (Switch.eq_of_key hkey hk)
        simp [set, hs, hne]
    · have hs : s ≠ o := by
        rintro rfl
        rw [hk] at hnone
        cases hnone
      simp [hs, hsettings]

def sourceOf (word : Text) : Setting.Source :=
  if word = Token.separator then .value (.list []) else .path (Path.ofText word)

/-- The setting that the words given to a switch make: the last of them, or where sources are listed
all of them. -/
def settingFor (before : List Text) (last : Text) : Form → Setting
  | .paths => .several ((before ++ [last]).map sourceOf)
  | .path => if last = Token.separator then .value (.list []) else .path (Path.ofText last)
  | .value => .value (valueOf last)

theorem settle_paths (sources : List Setting.Source) (words : List Text) :
    settle .paths (.several sources) words = .several (sources ++ words.map sourceOf) := by
  induction words generalizing sources with
  | nil => simp [settle]
  | cons word rest ih =>
    have hword : settingOf .paths (.several sources) (valueOf word) =
        .several (sources ++ [sourceOf word]) := by
      unfold valueOf sourceOf
      split <;> rfl
    rw [settle, List.foldl_cons, hword, List.map_cons,
      List.append_cons sources (sourceOf word) (rest.map sourceOf)]
    exact ih _

theorem settle_default (k : Key) (before : List Text) (last : Text) :
    settle k.form (Settings.default.get k) (before ++ [last]) = settingFor before last k.form := by
  have hpath : ∀ setting,
      settingOf .path setting (valueOf last) = settingFor before last .path := by
    intro setting
    unfold valueOf settingFor
    dsimp only
    split <;> rfl
  cases k with
  | copybooks | directories => exact settle_paths [] (before ++ [last])
  | rulesFile | outputFile | statusFile =>
    rw [settle, List.foldl_append]
    exact hpath _
  | _ =>
    rw [settle, List.foldl_append]
    rfl

theorem alike_several {sources : List Setting.Source} (h : sources ≠ []) :
    (Setting.several sources).toJson.alike (.list []) = false := by
  rw [Setting.toJson_several]
  cases sources with
  | nil => exact absurd rfl h
  | cons source rest => rfl

theorem alike_path (before : List Text) (last : Text) :
    (settingFor before last .path).toJson.alike .null = false := by
  unfold settingFor
  dsimp only
  split <;> rfl

theorem alike_null (before : List Text) (last : Text) :
    (settingFor before last .value).toJson.alike .null = false := by
  unfold settingFor valueOf
  dsimp only
  split <;> rfl

theorem alike_text_iff {word : Text} (hword : word ≠ Token.separator) (before : List Text)
    (last : Text) :
    (settingFor before last .value).toJson.alike (.text word) = true ↔ some word = some last := by
  unfold settingFor valueOf
  dsimp only
  split
  · rename_i hlast
    refine iff_of_false (by rintro ⟨⟩) fun h => ?_
    exact hword ((Option.some.inj h).trans hlast)
  · have halike : (Setting.value (.text last)).toJson.alike (.text word) = (last == word) := rfl
    rw [halike, beq_iff_eq]
    exact ⟨fun h => congrArg some h.symm, fun h => (Option.some.inj h).symm⟩

/-- What is given is taken for what holds by default exactly if it is the word for it. -/
theorem alike_default_iff (ho : o.takesValue = true) (hk : o.key? = some k) (before : List Text)
    (last : Text) :
    (settingFor before last k.form).toJson.alike (Settings.default.get k).toJson = true ↔
      o.defaultWord? = some last := by
  have hnever : ∀ {b : Bool}, b = false → (b = true ↔ none = some last) := by
    rintro b rfl
    simp
  cases o with
  | help | version | sortMembers | types | verbose | quiet => cases ho
  | config => cases hk
  | copybook | directory =>
    obtain rfl := Option.some.inj hk
    exact hnever (alike_several (by simp))
  | rules | output | statusFile =>
    obtain rfl := Option.some.inj hk
    exact hnever (alike_path before last)
  | ruleGroup =>
    obtain rfl := Option.some.inj hk
    exact hnever (alike_null before last)
  | namespacePrefix | case | encoding =>
    obtain rfl := Option.some.inj hk
    exact alike_text_iff (by decide) before last

theorem alike_default_self (k : Key) :
    (Settings.default.get k).toJson.alike (Settings.default.get k).toJson = true := by
  cases k <;> decide

theorem read_ok (h : read words = .ok a) :
    a.settings.IsSuited ∧ ∀ (o : Switch) k, o.takesValue = true → o.key? = some k →
      a.settings.get k = settle k.form (Settings.default.get k) (o.given words) := by
  unfold read at h
  unfold Switch.given
  split at h
  · cases h
  · rename_i tokens htokens
    have hsteps := take_steps h
    refine ⟨hsteps.isSuited Settings.isSuited_default, fun o k ho hk => ?_⟩
    rw [htokens]
    exact hsteps.settings ho hk

theorem get_given {k : Key} (h : k ≠ .logLevel) (a : Arguments) :
    a.given.get k = a.settings.get k := by
  simp [Arguments.given, h]

theorem isSuited_given (h : a.settings.IsSuited) : a.given.IsSuited := by
  have hlevel : ∀ t, (Setting.value (.text t)).Suits Settings.Key.logLevel.form := fun _ => .plain rfl
  exact h.set (hlevel _)

variable {depth : Json.Depth} {files : Files.Tree} {path : Path} {file s : Settings}

/-- The command line and a configuration file. An option that is not given has what the file says.
One that is given has what is given, all sources or the last word, unless that is the word for what
holds by default: then it has what the file says after all. -/
theorem effective_given_iff (hread : read words = .ok a) (hconfig : a.config = some path)
    (hfile : Settings.load depth files path = .ok file) :
    ∃ s, a.effective depth files = .ok s ∧ ∀ (o : Switch) k, o.takesValue = true → o.key? = some k →
      (o.given words = [] → (s.get k).toJson = (file.get k).toJson) ∧
      ∀ before last, o.given words = before ++ [last] →
        let setting := settingFor before last k.form
        ((s.get k).toJson = setting.toJson ↔
          ¬ (o.defaultWord? = some last ∧ (file.get k).toJson ≠ setting.toJson)) ∧
        (o.defaultWord? = some last → (s.get k).toJson = (file.get k).toJson) := by
  obtain ⟨hsuited, hsettings⟩ := read_ok hread
  obtain ⟨s, hmerge, hlaw⟩ := Settings.merge_spec (Settings.load_isSuited hfile)
    (isSuited_given hsuited)
  refine ⟨s, ?_, fun o k ho hk => ?_⟩
  · obtain ⟨bytes, hbytes, -⟩ := bind_eq_ok_iff.mp hfile
    have hlook := Files.Tree.look_of_read (mapError_eq_ok_iff.mp hbytes)
    simp only [effective, hconfig, hlook, hfile, mapError_ok, bind, Except.bind]
    exact hmerge
  · have hlevel : k ≠ .logLevel := by
      rintro rfl
      cases o <;> cases hk
    have hchosen := hlaw k
    rw [get_given hlevel, hsettings o k ho hk] at hchosen
    constructor
    · intro hnone
      rw [hnone] at hchosen
      exact hchosen.trans (if_pos (alike_default_self k))
    · intro before last hgiven setting
      rw [hgiven, settle_default] at hchosen
      have hdefault := alike_default_iff ho hk before last
      by_cases hidle : o.defaultWord? = some last
      · rw [if_pos (hdefault.mpr hidle)] at hchosen
        simp [hchosen, hidle]
      · rw [if_neg (mt hdefault.mp hidle)] at hchosen
        simp [hchosen, hidle, setting]

def capitalFiles : Files.Tree :=
  ⟨[], [(["config.json"], .file (Encoding.encodeUtf8
    "\x7b\"case\": \"upper\", \"rule_group\": \"R\"\x7d"))]⟩

def capitalSettings : Settings :=
  { Settings.default with case := .value "upper", ruleGroup := .value "R" }

def mixedWords : List Text := ["-c", "config.json", "--case", "mixed", "-n", "P"]

/-- The command line asks for letters as they are, and gets capital ones. -/
theorem effective_given_iff_mixed :
    ∃ a s, read mixedWords = .ok a ∧ a.config = some (Path.ofText "config.json") ∧
      Settings.load ⟨3, by decide⟩ capitalFiles (Path.ofText "config.json") = .ok capitalSettings ∧
      a.effective ⟨3, by decide⟩ capitalFiles = .ok s ∧
      Switch.case.given mixedWords = (["mixed"] : List Text) ∧ s.case.toJson = "upper" ∧
      s.case.toJson ≠ "mixed" ∧ Switch.namespacePrefix.given mixedWords = (["P"] : List Text) ∧
      s.namespacePrefix.toJson = "P" ∧ Switch.ruleGroup.given mixedWords = [] ∧
      s.ruleGroup.toJson = "R" := by
  have hread : ∃ a, read mixedWords = .ok a ∧ a.config = some (Path.ofText "config.json") :=
    ⟨_, rfl, rfl⟩
  have hfile : Settings.load ⟨3, by decide⟩ capitalFiles (Path.ofText "config.json") =
      .ok capitalSettings := rfl
  obtain ⟨a, hread, hconfig⟩ := hread
  obtain ⟨s, heffective, hlaw⟩ := effective_given_iff hread hconfig hfile
  obtain ⟨-, hcase⟩ := hlaw .case .case rfl rfl
  obtain ⟨-, hspace⟩ := hlaw .namespacePrefix .namespacePrefix rfl rfl
  obtain ⟨hgroup, -⟩ := hlaw .ruleGroup .ruleGroup rfl rfl
  obtain ⟨hwins, hgives⟩ := hcase [] "mixed" rfl
  have hdiffers : (capitalSettings.get .case).toJson ≠
      (settingFor [] "mixed" (Key.form .case)).toJson := by
    intro h
    injection h with h
    revert h
    decide
  refine ⟨a, s, hread, hconfig, hfile, heffective, rfl, hgives rfl, ?_, rfl, ?_, rfl, hgroup rfl⟩
  · exact fun h => hwins.mp h ⟨rfl, hdiffers⟩
  · refine (hspace [] "P" rfl).1.mpr ?_
    rintro ⟨⟨⟩, -⟩

end Arguments
end CommandLine
end Copybook
