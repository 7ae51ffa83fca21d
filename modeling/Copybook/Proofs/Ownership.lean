import Copybook.Proofs.Reader
import Copybook.Proofs.Rendering

/-!
To which item a condition name belongs. A reader gives it to the last item before it, whatever
stands between them. That is the item which the condition names follow without a break exactly when
every condition name with a value reaches one item, and only one, over the condition names before
it. -/
namespace Copybook
namespace Harvest

/-- What condition names reach over the entries before them, the nearest one first: other condition
names and the entry which these follow. -/
def reach : List Entry → List Entry
  | [] => []
  | e :: earlier => if e.isConditionName then e :: reach earlier else [e]

/-- The condition names that follow an item without a break. -/
def following (entries : List Entry) : List Entry := entries.takeWhile (·.isConditionName)

theorem isConditionName_of_isCode {e : Entry} (h : isCode e = true) : e.isConditionName = true := by
  simp only [isCode, Bool.and_eq_true] at h
  exact h.1.1

theorem codesOf_takeWhile_eq_iff_of_ends (mode : CaseMode) {p q : Entry → Bool}
    (hp : ∀ e, isCode e = true → p e = true) (hq : ∀ e, isCode e = true → q e = true) {e : Entry}
    (hpe : p e = true) (hqe : q e = false) (rest : List Entry) :
    codesOf mode ((e :: rest).takeWhile p) = codesOf mode ((e :: rest).takeWhile q) ↔
      ∀ before c after, e :: rest = before ++ c :: after → isCode c = true →
        ((∀ x ∈ before, p x = true) ↔ ∀ x ∈ before, q x = true) := by
  have hc : isCode e = false := by
    cases h : isCode e with
    | false => rfl
    | true => simp [hq e h] at hqe
  have hnil := codesOf_takeWhile_eq_nil_iff mode hp rest
  rw [forall_cut_cons_iff, List.takeWhile_cons_of_pos hpe,
    List.takeWhile_cons_of_neg (by simp [hqe]), codesOf_cons_other _ _ hc]
  simpa [codesOf, hpe, hqe] using hnil

theorem codesOf_takeWhile_eq_iff (mode : CaseMode) {p q : Entry → Bool}
    (hp : ∀ e, isCode e = true → p e = true) (hq : ∀ e, isCode e = true → q e = true)
    (entries : List Entry) :
    codesOf mode (entries.takeWhile p) = codesOf mode (entries.takeWhile q) ↔
      ∀ before c after, entries = before ++ c :: after → isCode c = true →
        ((∀ x ∈ before, p x = true) ↔ ∀ x ∈ before, q x = true) := by
  induction entries with
  | nil => simp
  | cons e rest ih =>
    cases hpe : p e <;> cases hqe : q e
    case true.false => exact codesOf_takeWhile_eq_iff_of_ends mode hp hq hpe hqe rest
    case false.true =>
      rw [eq_comm, codesOf_takeWhile_eq_iff_of_ends mode hq hp hqe hpe rest]
      simp only [iff_comm]
    case false.false =>
      rw [forall_cut_cons_iff]
      simp [hpe, hqe]
    case true.true =>
      rw [forall_cut_cons_iff, List.takeWhile_cons_of_pos hpe, List.takeWhile_cons_of_pos hqe]
      cases hc : isCode e with
      | true => simp [codesOf_cons_code _ _ hc, ih, hpe, hqe]
      | false => simp [codesOf_cons_other _ _ hc, ih, hpe, hqe]

theorem forall_items_iff {P : Entry → List Entry → Prop} (entries : List Entry) :
    (∀ item ∈ items entries, P item.1 item.2) ↔ ∀ before e after, entries = before ++ e :: after →
      isKept e = true → P e after := by
  induction entries with
  | nil => simp [items]
  | cons e rest ih =>
    rw [forall_cut_cons_iff]
    cases hk : isKept e with
    | true =>
      rw [items_cons_kept _ hk, List.forall_mem_cons, ih]
      simp
    | false =>
      rw [items_cons_other _ hk, ih]
      simp

theorem countP_reach_eq_zero_iff (earlier : List Entry) : (reach earlier).countP isKept = 0 ↔
    ∀ between i before, earlier = between ++ i :: before → isKept i = true →
      ¬ ∀ x ∈ between, x.isConditionName = true := by
  induction earlier with
  | nil => simp [reach]
  | cons e earlier ih =>
    rw [forall_cut_cons_iff]
    cases hn : e.isConditionName <;> cases hk : isKept e <;> simp [reach, hn, hk, ih]

theorem countP_reach_eq_one_iff {earlier : List Entry} (hsome : ∃ k ∈ earlier, isKept k = true) :
    (reach earlier).countP isKept = 1 ↔
      ∀ between i before, earlier = between ++ i :: before → isKept i = true →
        ((∀ x ∈ between, isKept x = false) ↔ ∀ x ∈ between, x.isConditionName = true) := by
  induction earlier with
  | nil => simp at hsome
  | cons e earlier ih =>
    rw [forall_cut_cons_iff]
    cases hk : isKept e with
    | true =>
      have hzero := countP_reach_eq_zero_iff earlier
      cases hn : e.isConditionName <;> simp [reach, hn, hk, hzero]
    | false =>
      have hsome' : ∃ k ∈ earlier, isKept k = true := by simpa [hk] using hsome
      cases hn : e.isConditionName with
      | true => simp [reach, hn, hk, ih hsome']
      | false =>
        -- the entry reached is no item, and yet some item has no other one behind it
        obtain ⟨i, hi⟩ := Option.isSome_iff_exists.mp (List.find?_isSome.mpr hsome')
        obtain ⟨hik, between, before, hcut, hbetween⟩ := List.find?_eq_some_iff_append.mp hi
        have hbetween' : ∀ x ∈ between, isKept x = false := by simpa using hbetween
        constructor
        · simp [reach, hn, hk]
        · rintro ⟨-, hall⟩
          have hreached := (hall between i before hcut hik).mp (by simpa [hk] using hbetween')
          simp [hn] at hreached

/-- The codes behind each item are those that follow it without a break exactly when every code
reaches one item. -/
theorem behind_eq_following_iff (mode : CaseMode) {entries : List Entry} (h : HasNoOrphan entries) :
    ((items entries).map fun item => codesOf mode (behind item.2)) =
        (items entries).map (fun item => codesOf mode (following item.2)) ↔
      ∀ before c after, entries = before ++ c :: after → isCode c = true →
        (reach before.reverse).countP isKept = 1 := by
  have hruns : ∀ rest, codesOf mode (behind rest) = codesOf mode (following rest) ↔
      ∀ between c after, rest = between ++ c :: after → isCode c = true →
        ((∀ x ∈ between, isKept x = false) ↔ ∀ x ∈ between, x.isConditionName = true) := by
    intro rest
    have hkept : ∀ e, isCode e = true → (!isKept e) = true := fun e he => by
      rw [not_isKept_of_isCode he]; rfl
    rw [behind, following]
    simpa using codesOf_takeWhile_eq_iff mode hkept (fun _ => isConditionName_of_isCode) rest
  rw [List.map_inj_left, forall_items_iff (P := fun _ rest =>
    codesOf mode (behind rest) = codesOf mode (following rest))]
  constructor
  · rintro hitems before c after rfl hc
    rw [countP_reach_eq_one_iff (by simpa using h before c after rfl hc)]
    intro between i earlier hcut hk
    have hbefore : before = earlier.reverse ++ i :: between.reverse := by
      rw [← List.reverse_reverse before, hcut]
      simp
    have hrest := hitems earlier.reverse i (between.reverse ++ c :: after) (by simp [hbefore]) hk
    simpa using (hruns _).mp hrest between.reverse c after rfl hc
  · intro hreach before i rest hcut hk
    rw [hruns]
    rintro between c after rfl hc
    have hone := hreach (before ++ i :: between) c after (by simp [hcut]) hc
    rw [countP_reach_eq_one_iff ⟨i, by simp, hk⟩] at hone
    simpa using hone between.reverse i before.reverse (by simp) hk

end Harvest

namespace Reader

open Harvest

def Delivers (r : Reader) (w : World) (lines : List Text) : Prop :=
  ∃ config members path members' files opened, r.config = some config ∧ r.members = some members ∧
    members.next = (some path, members') ∧ r.announced w path = .ok files ∧
    openCopybook files path config.encoding = .ok opened ∧
    Encoding.deliver opened.2 opened.1 = ⟨lines, none⟩

theorem read_delivers {r : Reader} {w : World} {object : DataObject}
    (h : (r.read w).result = .ok (some object)) :
    ∃ lines mapping copybook, r.Delivers w lines ∧
      (ofLines mapping r.caseMode copybook lines none).2 = none ∧
      object.attributes = (ofLines mapping r.caseMode copybook lines none).1.attributes := by
  obtain ⟨config, members, path, members', hconfig, hmembers, hnext, hproduce⟩ := read_some h
  obtain ⟨nameSpace, files, opened, -, hannounced, hopen, hend, rfl⟩ := produce_ok hproduce
  generalize hdelivery : Encoding.deliver opened.2 opened.1 = delivery
  have hmode : r.caseMode = config.caseMode := by simp [caseMode, hconfig]
  simp only [harvested, hdelivery] at hend
  have hbroken := broken_eq_none_of_ofLines hend
  have hfailure : delivery.failure = none := by simpa using hbroken
  obtain ⟨lines, failure⟩ := delivery
  obtain rfl : failure = none := hfailure
  refine ⟨lines, r.mapping config, path.name, ⟨config, members, path, members', files, opened,
    hconfig, hmembers, hnext, hannounced, hopen, hdelivery⟩, ?_, ?_⟩
  · rw [hmode]
    exact hend
  · rw [hmode]
    simp [harvested, hdelivery]

/-- An object that has been read gives each code to the last item before it; that is the item which
the code follows without a break exactly when every code reaches one item. -/
theorem read_owned_iff {r : Reader} {w : World} {object : DataObject}
    (h : (r.read w).result = .ok (some object)) :
    ∃ lines entries, r.Delivers w lines ∧
      List.Forall₂ Reads (worded (Sentence.ofLines lines)) entries ∧
      object.attributes.map (·.name) = (items entries).map (fun item => r.caseMode.convert item.1.name) ∧
      object.attributes.map (·.codes) =
        (items entries).map (fun item => codesOf r.caseMode (behind item.2)) ∧
      (object.attributes.map (·.codes) =
          (items entries).map (fun item => codesOf r.caseMode (following item.2)) ↔
        ∀ before c after, entries = before ++ c :: after → isCode c = true →
          (reach before.reverse).countP isKept = 1) := by
  obtain ⟨lines, mapping, copybook, hdelivers, hend, hattributes⟩ := read_delivers h
  obtain ⟨entries, hreads, horphan, hrenders⟩ := ofLines_renders hend
  rw [← hattributes] at hrenders
  refine ⟨lines, entries, hdelivers, hreads, ?_, hrenders.owned, ?_⟩
  · rw [hrenders.names, filter_isKept, List.map_map]
    rfl
  · rw [hrenders.owned]
    exact behind_eq_following_iff r.caseMode horphan

/-- A condition name follows an item without a name, which follows one with a name. -/
def fillerWorld : World :=
  sampleWorld "       05 A PIC X.\n       05 FILLER PIC X.\n       88 B VALUE 'Y'."

def fillerObject : DataObject where
  name := "C"
  nameSpace := "P"
  attributes := [{ name := "A", seqNo := 1, dataType := "X", codes := [⟨"Y", "B"⟩] }]
  source := "C"

theorem read_owned_iff_filler :
    let r := (new.init sampleParameters fillerWorld).reader
    (r.read fillerWorld).result = .ok (some fillerObject) ∧
    ∃ lines entries, r.Delivers fillerWorld lines ∧
      List.Forall₂ Reads (worded (Sentence.ofLines lines)) entries ∧
      [("A" : Text)] = (items entries).map (fun item => r.caseMode.convert item.1.name) ∧
      [[(⟨"Y", "B"⟩ : Code)]] = (items entries).map (fun item => codesOf r.caseMode (behind item.2)) ∧
      ([[(⟨"Y", "B"⟩ : Code)]] =
          (items entries).map (fun item => codesOf r.caseMode (following item.2)) ↔
        ∀ before c after, entries = before ++ c :: after → isCode c = true →
          (reach before.reverse).countP isKept = 1) := by
  intro r
  have hread : (r.read fillerWorld).result = .ok (some fillerObject) := by decide +kernel
  exact ⟨hread, read_owned_iff hread⟩

end Reader
end Copybook
