import Copybook.Encoding.Decoder
import Mathlib.Tactic.Common

/-!
UTF-8. The bytes of a text are decoded as that text, and no other bytes can be decoded. -/
namespace Copybook

theorem Text.unifyLineEnds_eq_self {t : Text} (h : '\r' ∉ t) : t.unifyLineEnds = t := by
  unfold unifyLineEnds
  induction t with
  | nil => rfl
  | cons c r ih =>
    obtain ⟨hc, hr⟩ := not_or.mp (mt List.mem_cons.mpr h)
    rw [unifyAfter, if_neg (Ne.symm hc), ih hr]
    simp

namespace Encoding

/-- The codes of characters, which leave out the surrogates. -/
def IsScalar (n : Nat) : Prop := n < 0xD800 ∨ 0xE000 ≤ n ∧ n < 0x110000

theorem isScalar_toNat (c : Char) : IsScalar c.toNat := c.valid

theorem toNat_ofNat {n : Nat} (h : IsScalar n) : (Char.ofNat n).toNat = n := by
  have hvalid : n.isValidChar := h
  rw [Char.ofNat, dif_pos hvalid]
  rfl

/-- The bytes of a character code, of which there are the more the greater it is. -/
def codeBytes (n : Nat) : List Nat :=
  if n < 0x80 then [n]
  else if n < 0x800 then [n / 0x40 + 0xC0, n % 0x40 + 0x80]
  else if n < 0x10000 then [n / 0x1000 + 0xE0, n / 0x40 % 0x40 + 0x80, n % 0x40 + 0x80]
  else [n / 0x40000 + 0xF0, n / 0x1000 % 0x40 + 0x80, n / 0x40 % 0x40 + 0x80, n % 0x40 + 0x80]

theorem codeBytes_ne_nil (n : Nat) : codeBytes n ≠ [] := by
  unfold codeBytes
  split_ifs <;> simp

theorem map_utf8EncodeChar (c : Char) :
    (String.utf8EncodeChar c).map UInt8.toNat = codeBytes c.toNat := by
  have hscalar := isScalar_toNat c
  have hcode : c.val.toNat = c.toNat := rfl
  unfold String.utf8EncodeChar codeBytes
  rw [hcode]
  generalize c.toNat = n at *
  unfold IsScalar at hscalar
  dsimp only
  split_ifs <;> simp <;> omega

theorem isContinuation_iff (b : Nat) : isContinuation b = true ↔ 0x80 ≤ b ∧ b < 0xC0 := by
  rw [isContinuation, Bool.and_eq_true, decide_eq_true_iff, decide_eq_true_iff, Nat.lt_succ_iff]

theorem isSecond_iff (a b : Nat) : isSecond a b = true ↔ (0x80 ≤ b ∧ b < 0xC0) ∧
    (a = 0xE0 → 0xA0 ≤ b) ∧ (a = 0xED → b < 0xA0) ∧ (a = 0xF0 → 0x90 ≤ b) ∧
    (a = 0xF4 → b < 0x90) := by
  simp only [isSecond, Bool.and_eq_true, isContinuation_iff, Bool.not_eq_true',
    Bool.and_eq_false_imp, beq_iff_eq, decide_eq_false_iff_not, Nat.not_lt, Nat.not_le, and_assoc]

/-! ### One character -/

theorem utf8_one {a : Nat} (ha : a < 0x80) (rest : List Nat) :
    (utf8 (a :: rest) : Step Unit) = .char (Char.ofNat a) 1 := by
  rw [utf8.eq_def]
  dsimp only
  rw [if_pos ha]

theorem utf8_two {a b : Nat} (ha : 0xC2 ≤ a) (ha' : a < 0xE0) (hb : isContinuation b = true)
    (rest : List Nat) : (utf8 (a :: b :: rest) : Step Unit) =
      .char (Char.ofNat ((a - 0xC0) * 0x40 + (b - 0x80))) 2 := by
  have hlarge : ¬ a < 0x80 := by omega
  have hstart : (decide (a < 0xC2) || decide (0xF4 < a)) = false := by simp; omega
  rw [utf8.eq_def]
  dsimp only
  rw [if_neg hlarge, hstart, if_neg Bool.false_ne_true, if_pos ha', if_pos hb]

theorem utf8_three {a b c : Nat} (ha : 0xE0 ≤ a) (ha' : a < 0xF0) (hb : isSecond a b = true)
    (hc : isContinuation c = true) (rest : List Nat) : (utf8 (a :: b :: c :: rest) : Step Unit) =
      .char (Char.ofNat (((a - 0xE0) * 0x40 + (b - 0x80)) * 0x40 + (c - 0x80))) 3 := by
  have hlarge : ¬ a < 0x80 := by omega
  have hstart : (decide (a < 0xC2) || decide (0xF4 < a)) = false := by simp; omega
  have htwo : ¬ a < 0xE0 := by omega
  rw [utf8.eq_def]
  dsimp only
  rw [if_neg hlarge, hstart, if_neg Bool.false_ne_true, if_neg htwo, if_pos ha', hb, hc]
  rfl

theorem utf8_four {a b c d : Nat} (ha : 0xF0 ≤ a) (ha' : a < 0xF5) (hb : isSecond a b = true)
    (hc : isContinuation c = true) (hd : isContinuation d = true) (rest : List Nat) :
    (utf8 (a :: b :: c :: d :: rest) : Step Unit) = .char (Char.ofNat
      ((((a - 0xF0) * 0x40 + (b - 0x80)) * 0x40 + (c - 0x80)) * 0x40 + (d - 0x80))) 4 := by
  have hlarge : ¬ a < 0x80 := by omega
  have hstart : (decide (a < 0xC2) || decide (0xF4 < a)) = false := by simp; omega
  have htwo : ¬ a < 0xE0 := by omega
  have hthree : ¬ a < 0xF0 := by omega
  rw [utf8.eq_def]
  dsimp only
  rw [if_neg hlarge, hstart, if_neg Bool.false_ne_true, if_neg htwo, if_neg hthree, hb, hc, hd]
  rfl

theorem utf8_codeBytes {n : Nat} (h : IsScalar n) (rest : List Nat) :
    (utf8 (codeBytes n ++ rest) : Step Unit) = .char (Char.ofNat n) (codeBytes n).length := by
  have hcontinuation (m : Nat) : isContinuation (m % 0x40 + 0x80) = true :=
    (isContinuation_iff _).mpr (by omega)
  unfold IsScalar at h
  unfold codeBytes
  split_ifs with hone htwo hthree
  · exact utf8_one hone rest
  · have hcode : (n / 0x40 + 0xC0 - 0xC0) * 0x40 + (n % 0x40 + 0x80 - 0x80) = n := by omega
    have hstep := utf8_two (by omega) (by omega) (hcontinuation n) rest (a := n / 0x40 + 0xC0)
    rwa [hcode] at hstep
  · have hsecond : isSecond (n / 0x1000 + 0xE0) (n / 0x40 % 0x40 + 0x80) = true :=
      (isSecond_iff _ _).mpr (by omega)
    have hcode : ((n / 0x1000 + 0xE0 - 0xE0) * 0x40 + (n / 0x40 % 0x40 + 0x80 - 0x80)) * 0x40 +
        (n % 0x40 + 0x80 - 0x80) = n := by omega
    have hstep := utf8_three (by omega) (by omega) hsecond (hcontinuation n) rest
    rwa [hcode] at hstep
  · have hsecond : isSecond (n / 0x40000 + 0xF0) (n / 0x1000 % 0x40 + 0x80) = true :=
      (isSecond_iff _ _).mpr (by omega)
    have hcode : (((n / 0x40000 + 0xF0 - 0xF0) * 0x40 + (n / 0x1000 % 0x40 + 0x80 - 0x80)) * 0x40 +
        (n / 0x40 % 0x40 + 0x80 - 0x80)) * 0x40 + (n % 0x40 + 0x80 - 0x80) = n := by omega
    have hstep := utf8_four (by omega) (by omega) hsecond (hcontinuation (n / 0x40))
      (hcontinuation n) rest
    rwa [hcode] at hstep

/-- Steps at which decoding stops with a fault when no more data follow. -/
inductive Step.IsFault {σ : Type} : Step σ → Prop
  | broken (length : Nat) (reason : String) : IsFault (.broken length reason)
  | late (length : Nat) (reason : String) : IsFault (.late length reason)
  | short (reason : String) : IsFault (.short reason)

theorem utf8_isFault_or (l : List Nat) : (utf8 l : Step Unit).IsFault ∨
    ∃ n rest, IsScalar n ∧ l = codeBytes n ++ rest := by
  fun_cases utf8 l
  case case2 a rest hone =>
    exact .inr ⟨a, rest, .inl (by omega), by rw [codeBytes, if_pos hone]; rfl⟩
  case case5 a hlarge hstart htwo b rest hb =>
    rw [isContinuation_iff] at hb
    have ha : 0xC2 ≤ a := by simp at hstart; omega
    refine .inr ⟨(a - 0xC0) * 0x40 + (b - 0x80), rest, .inl (by omega), ?_⟩
    rw [codeBytes, if_neg (by omega), if_pos (by omega), List.cons_append, List.cons_append]
    congr <;> omega
  case case13 a hlarge hstart htwo hthree b c rest hb hc =>
    simp only [Bool.not_eq_true', Bool.not_eq_false, isSecond_iff, isContinuation_iff] at hb hc
    refine .inr ⟨((a - 0xE0) * 0x40 + (b - 0x80)) * 0x40 + (c - 0x80), rest, ?_, ?_⟩
    · unfold IsScalar
      omega
    rw [codeBytes, if_neg (by omega), if_neg (by omega), if_pos (by omega)]
    simp only [List.cons_append, List.nil_append]
    congr <;> omega
  case case23 a hlarge hstart htwo hthree b c d rest hb hc hd =>
    simp only [Bool.not_eq_true', Bool.not_eq_false, isSecond_iff, isContinuation_iff] at hb hc hd
    have ha : a < 0xF5 := by simp at hstart; omega
    refine .inr ⟨(((a - 0xF0) * 0x40 + (b - 0x80)) * 0x40 + (c - 0x80)) * 0x40 + (d - 0x80), rest,
      .inr (by omega), ?_⟩
    rw [codeBytes, if_neg (by omega), if_neg (by omega), if_neg (by omega)]
    simp only [List.cons_append, List.nil_append]
    congr <;> omega
  all_goals exact .inl (by constructor)

/-! ### Texts -/

theorem decodeFrom_skip (final : Bool) (position : Nat) (front rest : List Nat) :
    Codec.utf8.decodeFrom final position front.length () (front ++ rest) =
      Codec.utf8.decodeFrom final (position + front.length) 0 () rest := by
  induction front generalizing position with
  | nil => rfl
  | cons b front ih =>
    rw [List.cons_append, List.length_cons, Codec.decodeFrom, ih, Nat.add_assoc, Nat.add_comm 1]

theorem decodeFrom_codeBytes {n : Nat} (h : IsScalar n) (final : Bool) (position : Nat)
    (rest : List Nat) : Codec.utf8.decodeFrom final position 0 () (codeBytes n ++ rest) =
      (Codec.utf8.decodeFrom final (position + (codeBytes n).length) 0 () rest).map
        (Block.behind [Char.ofNat n]) := by
  have hstep := utf8_codeBytes h rest
  cases hbytes : codeBytes n with
  | nil => exact absurd hbytes (codeBytes_ne_nil n)
  | cons b front =>
    rw [hbytes] at hstep
    have hstep' : Codec.utf8.step () (b :: (front ++ rest)) =
        .text [Char.ofNat n] (front.length + 1) := hstep
    rw [List.cons_append, Codec.decodeFrom, hstep']
    dsimp only
    rw [Nat.add_sub_cancel, decodeFrom_skip, List.length_cons, Nat.add_assoc, Nat.add_comm 1]

theorem decodeFrom_isFault {l : List Nat} (hl : l ≠ []) (h : (utf8 l : Step Unit).IsFault)
    (position : Nat) : ∃ fault, Codec.utf8.decodeFrom true position 0 () l = .error fault := by
  cases l with
  | nil => exact absurd rfl hl
  | cons b r =>
    have hstep : Codec.utf8.step () (b :: r) = utf8 (b :: r) := rfl
    rw [Codec.decodeFrom, hstep]
    generalize (utf8 (b :: r) : Step Unit) = step at h
    cases h <;> exact ⟨_, rfl⟩

theorem map_encodeUtf8 (t : Text) :
    (encodeUtf8 t).map UInt8.toNat = t.flatMap fun c => codeBytes c.toNat := by
  rw [encodeUtf8, List.map_flatMap]
  exact congrArg t.flatMap (funext map_utf8EncodeChar)

theorem decodeFrom_flatMap (t : Text) (position : Nat) :
    Codec.utf8.decodeFrom true position 0 () (t.flatMap fun c => codeBytes c.toNat) =
      .ok ⟨t, [], ()⟩ := by
  induction t generalizing position with
  | nil => rfl
  | cons c r ih =>
    rw [List.flatMap_cons, decodeFrom_codeBytes (isScalar_toNat c), ih, Char.ofNat_toNat]
    rfl

theorem eq_flatMap_of_decodeFrom {l : List Nat} {position : Nat} {b : Block Unit}
    (h : Codec.utf8.decodeFrom true position 0 () l = .ok b) :
    l = b.text.flatMap fun c => codeBytes c.toNat := by
  -- The induction is on the number of bytes, as a character takes several of them.
  induction hlength : l.length using Nat.strongRecOn generalizing l position b with
  | _ length ih =>
    by_cases hl : l = []
    · subst hl
      cases h
      rfl
    rcases utf8_isFault_or l with hfault | ⟨n, rest, hn, rfl⟩
    · obtain ⟨fault, herror⟩ := decodeFrom_isFault hl hfault position
      cases h.symm.trans herror
    · rw [decodeFrom_codeBytes hn] at h
      have hpos := List.length_pos_iff.mpr (codeBytes_ne_nil n)
      cases hrest : Codec.utf8.decodeFrom true (position + (codeBytes n).length) 0 () rest with
      | error fault =>
        rw [hrest] at h
        cases h
      | ok b' =>
        rw [hrest] at h
        obtain rfl := Except.ok.inj h
        have heq := ih _ (by rw [← hlength, List.length_append]; omega) hrest rfl
        rw [Block.behind, List.singleton_append, List.flatMap_cons, toNat_ofNat hn, ← heq]

theorem readAll_encodeUtf8 (t : Text) : readAll (encodeUtf8 t) = .ok (Text.unifyLineEnds t) := by
  rw [readAll, Codec.decode, map_encodeUtf8, decodeFrom_flatMap]

theorem readAll_eq_error_iff (bytes : Bytes) :
    (∃ fault, readAll bytes = .error fault) ↔ ∀ t, bytes ≠ encodeUtf8 t := by
  constructor
  · rintro ⟨fault, hread⟩ t rfl
    cases hread.symm.trans (readAll_encodeUtf8 t)
  · intro h
    unfold readAll
    cases hdecode : Codec.utf8.decode true 0 () bytes with
    | error fault => exact ⟨fault, rfl⟩
    | ok b =>
      refine absurd ?_ (h b.text)
      refine (List.map_inj_right fun _ _ => UInt8.toNat.inj).mp ?_
      rw [map_encodeUtf8]
      exact eq_flatMap_of_decodeFrom hdecode

end Encoding
end Copybook
