import Stepwise.Text.Utf8

/-!
# Reading back what was encoded

The numbers of bytes that a character takes, and the bounds of its second byte, are those of the
encoding. Main statement: bytes are read as a text exactly if they are its encoding.
-/

namespace Stepwise.Text

def octets (n : Nat) : List Nat :=
  if n < 0x80 then [n]
  else if n < 0x800 then [0xC0 + n / 64, 0x80 + n % 64]
  else if n < 0x10000 then [0xE0 + n / 4096, 0x80 + n / 64 % 64, 0x80 + n % 64]
  else [0xF0 + n / 262144, 0x80 + n / 4096 % 64, 0x80 + n / 64 % 64, 0x80 + n % 64]

theorem map_toNat_utf8EncodeChar (c : Char) :
    (String.utf8EncodeChar c).map UInt8.toNat = octets c.toNat := by
  have hvalid : c.toNat < 0xd800 ∨ 0xdfff < c.toNat ∧ c.toNat < 0x110000 := c.valid
  change _ = octets c.val.toNat
  change c.val.toNat < 0xd800 ∨ 0xdfff < c.val.toNat ∧ c.val.toNat < 0x110000 at hvalid
  unfold octets
  fun_cases String.utf8EncodeChar c with
  | case1 v h =>
      rw [if_pos (by omega)]
      simp only [List.map_cons, List.map_nil, UInt8.toNat_ofNat', List.cons.injEq, and_true]
      omega
  | case2 v h h' =>
      rw [if_neg (by omega), if_pos (by omega)]
      simp only [List.map_cons, List.map_nil, UInt8.toNat_ofNat', List.cons.injEq, and_true]
      omega
  | case3 v h h' h'' =>
      rw [if_neg (by omega), if_neg (by omega), if_pos (by omega)]
      simp only [List.map_cons, List.map_nil, UInt8.toNat_ofNat', List.cons.injEq, and_true]
      omega
  | case4 v h h' h'' =>
      rw [if_neg (by omega), if_neg (by omega), if_neg (by omega)]
      simp only [List.map_cons, List.map_nil, UInt8.toNat_ofNat', List.cons.injEq, and_true]
      omega

/-! The bytes of one character. -/

variable {place first code n taken : Nat} {bounds : Nat × Nat} {bytes rest : List UInt8}
  {found : Nat × List UInt8}

theorem takeTail_zero_eq_ok_iff :
    takeTail place 0 bounds code taken bytes = .ok found ↔ found = (code, bytes) := by
  rw [takeTail, Except.ok.injEq, eq_comm]

theorem takeTail_succ_eq_ok_iff :
    takeTail place (n + 1) bounds code taken bytes = .ok found ↔
      ∃ b behind, bytes = b :: behind ∧ (bounds.1 ≤ b.toNat ∧ b.toNat ≤ bounds.2) ∧
        takeTail place n (0x80, 0xBF) (64 * code + (b.toNat - 0x80)) (taken + 1) behind =
          .ok found := by
  cases bytes with
  | nil => simp [takeTail]
  | cons b behind =>
      rw [takeTail]
      constructor
      · intro h
        split at h
        · rename_i hb
          exact ⟨b, behind, rfl, hb, h⟩
        · exact absurd h (by simp)
      · rintro ⟨b', behind', heq, hb, h⟩
        obtain ⟨rfl, rfl⟩ := List.cons.inj heq
        rw [if_pos hb, h]

/-- The second byte is no less free than the others, except behind four first bytes. -/
theorem secondBounds_iff (first b : Nat) :
    (secondBounds first).1 ≤ b ∧ b ≤ (secondBounds first).2 ↔
      (0x80 ≤ b ∧ b ≤ 0xBF) ∧ (first = 0xE0 → 0xA0 ≤ b) ∧ (first = 0xED → b ≤ 0x9F) ∧
        (first = 0xF0 → 0x90 ≤ b) ∧ (first = 0xF4 → b ≤ 0x8F) := by
  unfold secondBounds
  split
  · simp only; omega
  · split
    · simp only; omega
    · split
      · simp only; omega
      · split
        · simp only; omega
        · simp only; omega

theorem tailLength?_eq_some_iff :
    tailLength? first = some n ↔
      n = 0 ∧ first < 0x80 ∨ n = 1 ∧ 0xC2 ≤ first ∧ first ≤ 0xDF ∨
        n = 2 ∧ 0xE0 ≤ first ∧ first ≤ 0xEF ∨ n = 3 ∧ 0xF0 ≤ first ∧ first ≤ 0xF4 := by
  unfold tailLength?
  split
  · rw [Option.some.injEq]; omega
  · split
    · rw [Option.some.injEq]; omega
    · split
      · rw [Option.some.injEq]; omega
      · split
        · rw [Option.some.injEq]; omega
        · simp only [reduceCtorEq, false_iff]; omega

/-- What is read behind a first byte are the other bytes of a character. -/
theorem octets_of_takeTail (hn : tailLength? first = some n)
    (h : takeTail place n (secondBounds first) (firstBits first) 1 bytes = .ok (code, rest)) :
    ∃ tail : List UInt8, bytes = tail ++ rest ∧ code.isValidChar ∧
      octets code = first :: tail.map UInt8.toNat := by
  unfold firstBits at h
  unfold octets Nat.isValidChar
  rcases tailLength?_eq_some_iff.mp hn with ⟨rfl, hfirst⟩ | ⟨rfl, hfirst⟩ | ⟨rfl, hfirst⟩ |
    ⟨rfl, hfirst⟩
  · obtain ⟨hcode, rfl⟩ := Prod.mk.inj (takeTail_zero_eq_ok_iff.mp h)
    rw [if_pos hfirst] at hcode
    refine ⟨[], rfl, by omega, ?_⟩
    rw [if_pos (by omega), hcode, List.map_nil]
  · obtain ⟨b, behind, rfl, hb, h⟩ := takeTail_succ_eq_ok_iff.mp h
    obtain ⟨hcode, rfl⟩ := Prod.mk.inj (takeTail_zero_eq_ok_iff.mp h)
    rw [secondBounds_iff] at hb
    rw [if_neg (by omega), if_pos (by omega)] at hcode
    refine ⟨[b], rfl, by omega, ?_⟩
    rw [if_neg (by omega), if_pos (by omega)]
    simp only [List.map_cons, List.map_nil, List.cons.injEq, and_true]
    omega
  · obtain ⟨b, behind, rfl, hb, h⟩ := takeTail_succ_eq_ok_iff.mp h
    obtain ⟨c, behind, rfl, hc, h⟩ := takeTail_succ_eq_ok_iff.mp h
    obtain ⟨hcode, rfl⟩ := Prod.mk.inj (takeTail_zero_eq_ok_iff.mp h)
    rw [secondBounds_iff] at hb
    rw [if_neg (by omega), if_neg (by omega), if_pos (by omega)] at hcode
    refine ⟨[b, c], rfl, by omega, ?_⟩
    rw [if_neg (by omega), if_neg (by omega), if_pos (by omega)]
    simp only [List.map_cons, List.map_nil, List.cons.injEq, and_true]
    omega
  · obtain ⟨b, behind, rfl, hb, h⟩ := takeTail_succ_eq_ok_iff.mp h
    obtain ⟨c, behind, rfl, hc, h⟩ := takeTail_succ_eq_ok_iff.mp h
    obtain ⟨d, behind, rfl, hd, h⟩ := takeTail_succ_eq_ok_iff.mp h
    obtain ⟨hcode, rfl⟩ := Prod.mk.inj (takeTail_zero_eq_ok_iff.mp h)
    rw [secondBounds_iff] at hb
    rw [if_neg (by omega), if_neg (by omega), if_neg (by omega)] at hcode
    refine ⟨[b, c, d], rfl, by omega, ?_⟩
    rw [if_neg (by omega), if_neg (by omega), if_neg (by omega)]
    simp only [List.map_cons, List.map_nil, List.cons.injEq, and_true]
    omega

/-- The bytes of a character are read to their end. -/
theorem takeTail_of_octets {tail : List UInt8} (hcode : code.isValidChar)
    (h : octets code = first :: tail.map UInt8.toNat) (place : Nat) (rest : List UInt8) :
    tailLength? first = some tail.length ∧
      takeTail place tail.length (secondBounds first) (firstBits first) 1 (tail ++ rest) =
        .ok (code, rest) := by
  unfold octets at h
  unfold Nat.isValidChar at hcode
  rw [tailLength?_eq_some_iff]
  unfold firstBits
  split at h
  · obtain ⟨rfl, htail⟩ := List.cons.inj h
    obtain rfl := List.map_eq_nil_iff.mp htail.symm
    rw [if_pos (by omega)]
    exact ⟨.inl ⟨rfl, by omega⟩, takeTail_zero_eq_ok_iff.mpr rfl⟩
  · split at h
    · obtain ⟨hfirst, htail⟩ := List.cons.inj h
      obtain ⟨b, tail, rfl, hb, htail⟩ := List.map_eq_cons_iff.mp htail.symm
      obtain rfl := List.map_eq_nil_iff.mp htail
      rw [if_neg (by omega), if_pos (by omega)]
      refine ⟨.inr (.inl ⟨rfl, by omega⟩), takeTail_succ_eq_ok_iff.mpr
        ⟨b, rest, rfl, (secondBounds_iff first b.toNat).mpr (by omega), ?_⟩⟩
      refine takeTail_zero_eq_ok_iff.mpr (Prod.ext ?_ rfl)
      simp only
      omega
    · split at h
      · obtain ⟨hfirst, htail⟩ := List.cons.inj h
        obtain ⟨b, tail, rfl, hb, htail⟩ := List.map_eq_cons_iff.mp htail.symm
        obtain ⟨c, tail, rfl, hc, htail⟩ := List.map_eq_cons_iff.mp htail
        obtain rfl := List.map_eq_nil_iff.mp htail
        rw [if_neg (by omega), if_neg (by omega), if_pos (by omega)]
        refine ⟨.inr (.inr (.inl ⟨rfl, by omega⟩)), takeTail_succ_eq_ok_iff.mpr
          ⟨b, c :: rest, rfl, (secondBounds_iff first b.toNat).mpr (by omega), ?_⟩⟩
        refine takeTail_succ_eq_ok_iff.mpr ⟨c, rest, rfl, by simp only; omega, ?_⟩
        refine takeTail_zero_eq_ok_iff.mpr (Prod.ext ?_ rfl)
        simp only
        omega
      · obtain ⟨hfirst, htail⟩ := List.cons.inj h
        obtain ⟨b, tail, rfl, hb, htail⟩ := List.map_eq_cons_iff.mp htail.symm
        obtain ⟨c, tail, rfl, hc, htail⟩ := List.map_eq_cons_iff.mp htail
        obtain ⟨d, tail, rfl, hd, htail⟩ := List.map_eq_cons_iff.mp htail
        obtain rfl := List.map_eq_nil_iff.mp htail
        rw [if_neg (by omega), if_neg (by omega), if_neg (by omega)]
        refine ⟨.inr (.inr (.inr ⟨rfl, by omega⟩)), takeTail_succ_eq_ok_iff.mpr
          ⟨b, c :: d :: rest, rfl, (secondBounds_iff first b.toNat).mpr (by omega), ?_⟩⟩
        refine takeTail_succ_eq_ok_iff.mpr ⟨c, d :: rest, rfl, by simp only; omega, ?_⟩
        refine takeTail_succ_eq_ok_iff.mpr ⟨d, rest, rfl, by simp only; omega, ?_⟩
        refine takeTail_zero_eq_ok_iff.mpr (Prod.ext ?_ rfl)
        simp only
        omega

/-! Whole texts. -/

theorem utf8EncodeChar_eq_iff {c : Char} {b : UInt8} {tail : List UInt8} :
    String.utf8EncodeChar c = b :: tail ↔ octets c.toNat = b.toNat :: tail.map UInt8.toNat := by
  rw [← map_toNat_utf8EncodeChar, ← List.map_cons]
  exact (List.map_inj_right fun _ _ => UInt8.toNat_inj.mp).symm

/-- The character that is read at a first byte. -/
theorem exists_char_of_takeTail {b : UInt8} (hn : tailLength? b.toNat = some n)
    (h : takeTail place n (secondBounds b.toNat) (firstBits b.toNat) 1 bytes = .ok (code, rest)) :
    String.utf8EncodeChar (Char.ofNat code) ++ rest = b :: bytes := by
  obtain ⟨tail, rfl, hcode, hoctets⟩ := octets_of_takeTail hn h
  have hchar : (Char.ofNat code).toNat = code := by
    rw [Char.ofNat, dif_pos hcode]
    rfl
  rw [← hchar] at hoctets
  rw [utf8EncodeChar_eq_iff.mpr hoctets, List.cons_append]

theorem flatMap_of_decodeFrom {text : List Char} (h : decodeFrom place bytes = .ok text) :
    text.flatMap String.utf8EncodeChar = bytes := by
  fun_induction decodeFrom place bytes generalizing text with
  | case1 place =>
      rw [← Except.ok.inj h, List.flatMap_nil]
  | case2 place b bytes hn => exact absurd h (by simp)
  | case3 place b bytes n hn fault htake => exact absurd h (by simp)
  | case4 place b bytes n hn code rest htake hlength ih =>
      cases hrest : decodeFrom (place + n + 1) rest with
      | error fault =>
          rw [hrest] at h
          exact absurd h (by simp [Except.map])
      | ok others =>
          rw [hrest] at h
          rw [← Except.ok.inj h, List.flatMap_cons, ih hrest]
          exact exists_char_of_takeTail hn htake

theorem decodeFrom_flatMap (place : Nat) (text : List Char) :
    decodeFrom place (text.flatMap String.utf8EncodeChar) = .ok text := by
  induction text generalizing place with
  | nil => rw [List.flatMap_nil, decodeFrom]
  | cons c text ih =>
      obtain ⟨b, tail, hbytes⟩ := List.exists_cons_of_ne_nil (String.utf8EncodeChar_ne_nil (c := c))
      have hvalid : c.toNat.isValidChar := c.valid
      obtain ⟨hn, htake⟩ := takeTail_of_octets hvalid (utf8EncodeChar_eq_iff.mp hbytes) place
        (text.flatMap String.utf8EncodeChar)
      rw [List.flatMap_cons, hbytes, List.cons_append, decodeFrom]
      split
      · rename_i hnone
        rw [hn] at hnone
        exact absurd hnone (by simp)
      · rename_i n hsome
        obtain rfl := Option.some.inj (hn.symm.trans hsome)
        split
        · rename_i fault herror
          rw [htake] at herror
          exact absurd herror (by simp)
        · rename_i code rest hok
          obtain ⟨rfl, rfl⟩ := Prod.mk.inj (Except.ok.inj (htake.symm.trans hok))
          rw [ih, Char.ofNat_toNat]
          rfl

/-- Bytes are read as a text exactly if they are its encoding. -/
theorem decode_eq_ok_iff {text : List Char} :
    decode bytes = .ok text ↔ text.flatMap String.utf8EncodeChar = bytes := by
  constructor
  · exact flatMap_of_decodeFrom
  · rintro rfl
    exact decodeFrom_flatMap 0 text

end Stepwise.Text
