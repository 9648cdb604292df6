import Mathlib.Data.Bool.Basic
import ReleaseGate.Text.Utf8

/-!
# UTF-8 is read back exactly

The bytes of a text are those of its characters one behind the other, and `front` reads off the
first of them. From this the strict reader accepts a byte sequence just when some text is written
so, and that text is unique.
-/

namespace ReleaseGate.Text

/-! ## The bytes of a text -/

private theorem toList_loop (b : ByteArray) (i : Nat) (before : List UInt8) :
    ByteArray.toList.loop b i before = before.reverse ++ b.data.toList.drop i := by
  fun_induction ByteArray.toList.loop b i before with
  | case1 i before hi ih =>
      have hlen : i < b.data.toList.length := hi
      have hget : b.get! i = b.data.toList[i] := by
        show b.data[i]! = b.data.toList[i]
        rw [Array.getElem_toList, getElem!_pos b.data i hi]
      rw [ih, hget, List.drop_eq_getElem_cons hlen, List.reverse_cons, List.append_assoc]
      rfl
  | case2 i before hi =>
      have hlen : b.data.toList.length ≤ i := Nat.le_of_not_lt hi
      rw [List.drop_eq_nil_of_le hlen, List.append_nil]

/-- The bytes of a text are the bytes of its characters. -/
theorem encode_eq_flatMap (s : String) : encode s = s.toList.flatMap String.utf8EncodeChar := by
  have hbytes : s.toByteArray = (s.toList.flatMap String.utf8EncodeChar).toByteArray := by
    conv => lhs; rw [← String.ofList_toList (s := s)]
    exact String.toByteArray_ofList
  show s.toUTF8.toList = _
  rw [String.toUTF8_eq_toByteArray, hbytes]
  show ByteArray.toList.loop _ 0 [] = _
  rw [toList_loop]
  simp

@[simp] theorem encode_empty : encode "" = [] := by
  rw [encode_eq_flatMap]
  rfl

@[simp] theorem encode_append (a b : String) : encode (a ++ b) = encode a ++ encode b := by
  rw [encode_eq_flatMap, encode_eq_flatMap, encode_eq_flatMap, String.toList_append,
    List.flatMap_append]

/-! ## The first character -/

/-- The code point of a character is below the surrogates, or above them and within range. -/
theorem toNat_range (c : Char) : c.toNat < 0xD800 ∨ 0xDFFF < c.toNat ∧ c.toNat < 0x110000 :=
  c.valid

/-- A code point outside the surrogates and within range is that of its character. -/
theorem toNat_ofNat {n : Nat} (h : n < 0xD800 ∨ 0xDFFF < n ∧ n < 0x110000) :
    (Char.ofNat n).toNat = n := by
  have hv : n.isValidChar := h
  rw [Char.ofNat, dif_pos hv]
  rfl

private theorem toNat_byte {n : Nat} (h : n < 256) : (UInt8.ofNat n).toNat = n := by
  rw [UInt8.toNat_ofNat']
  exact Nat.mod_eq_of_lt h

/-- A lead byte of two and the range of the byte behind it. -/
theorem leadOf_two {b : UInt8} (hlo : 0xC2 ≤ b.toNat) (hhi : b.toNat ≤ 0xDF) :
    leadOf b = some (1, 0x80, 0xBF) := by
  unfold leadOf
  grind

/-- A lead byte of three; the second byte keeps out what is too small and the surrogates. -/
theorem leadOf_three {b : UInt8} (hlo : 0xE0 ≤ b.toNat) (hhi : b.toNat ≤ 0xEF) :
    leadOf b = some (2, if b.toNat = 0xE0 then 0xA0 else 0x80,
      if b.toNat = 0xED then 0x9F else 0xBF) := by
  unfold leadOf
  grind

/-- A lead byte of four; the second byte keeps out what is too small and what is too large. -/
theorem leadOf_four {b : UInt8} (hlo : 0xF0 ≤ b.toNat) (hhi : b.toNat ≤ 0xF4) :
    leadOf b = some (3, if b.toNat = 0xF0 then 0x90 else 0x80,
      if b.toNat = 0xF4 then 0x8F else 0xBF) := by
  unfold leadOf
  grind

private theorem within_of {lo hi : Nat} {b : UInt8} (h : lo ≤ b.toNat ∧ b.toNat ≤ hi) :
    within lo hi b = true := by
  rw [within, decide_eq_true h.1, decide_eq_true h.2, Bool.true_and]

/-- Two bytes that stand for a character. -/
theorem front_of_two {b b1 : UInt8} (hlo : 0xC2 ≤ b.toNat) (hhi : b.toNat ≤ 0xDF)
    (h1 : 0x80 ≤ b1.toNat ∧ b1.toNat ≤ 0xBF) (rest : List UInt8) :
    front b (b1 :: rest) = .char (Char.ofNat ((b.toNat % 32) * 64 + b1.toNat % 64)) 1 := by
  rw [front, if_neg (by omega), leadOf_two hlo hhi]
  dsimp only
  rw [within_of h1]
  rfl

/-- Three bytes that stand for a character. -/
theorem front_of_three {b b1 b2 : UInt8} (hlo : 0xE0 ≤ b.toNat) (hhi : b.toNat ≤ 0xEF)
    (h1 : (if b.toNat = 0xE0 then 0xA0 else 0x80) ≤ b1.toNat
      ∧ b1.toNat ≤ if b.toNat = 0xED then 0x9F else 0xBF)
    (h2 : 0x80 ≤ b2.toNat ∧ b2.toNat ≤ 0xBF) (rest : List UInt8) :
    front b (b1 :: b2 :: rest)
      = .char (Char.ofNat (((b.toNat % 16) * 64 + b1.toNat % 64) * 64 + b2.toNat % 64)) 2 := by
  rw [front, if_neg (by omega), leadOf_three hlo hhi]
  dsimp only
  rw [within_of h1, within_of h2]
  rfl

/-- Four bytes that stand for a character. -/
theorem front_of_four {b b1 b2 b3 : UInt8} (hlo : 0xF0 ≤ b.toNat) (hhi : b.toNat ≤ 0xF4)
    (h1 : (if b.toNat = 0xF0 then 0x90 else 0x80) ≤ b1.toNat
      ∧ b1.toNat ≤ if b.toNat = 0xF4 then 0x8F else 0xBF)
    (h2 : 0x80 ≤ b2.toNat ∧ b2.toNat ≤ 0xBF) (h3 : 0x80 ≤ b3.toNat ∧ b3.toNat ≤ 0xBF)
    (rest : List UInt8) :
    front b (b1 :: b2 :: b3 :: rest)
      = .char (Char.ofNat
          ((((b.toNat % 8) * 64 + b1.toNat % 64) * 64 + b2.toNat % 64) * 64 + b3.toNat % 64)) 3 := by
  rw [front, if_neg (by omega), leadOf_four hlo hhi]
  dsimp only
  rw [within_of h1, within_of h2, within_of h3]
  rfl

/-- The first character of a text's bytes is the first character of the text. -/
theorem front_utf8EncodeChar (c : Char) (rest : List UInt8) :
    ∃ b bs, String.utf8EncodeChar c = b :: bs ∧ front b (bs ++ rest) = .char c bs.length := by
  have hc := toNat_range c
  have hval : c.val.toNat = c.toNat := rfl
  -- the payload of the bytes, put together, is the code point
  have hchar : ∀ {n more : Nat}, n = c.toNat → Front.char (Char.ofNat n) more = .char c more := by
    intro n more hn
    rw [hn, Char.ofNat_toNat]
  rw [String.utf8EncodeChar]
  show ∃ b bs, (if c.toNat ≤ 0x7f then _ else _) = _ ∧ _
  by_cases h1 : c.toNat ≤ 0x7f
  · rw [if_pos h1]
    refine ⟨_, _, rfl, ?_⟩
    have hb := toNat_byte (n := c.toNat) (by omega)
    show front (UInt8.ofNat c.toNat) _ = _
    rw [front, hb, if_pos (by omega)]
    exact hchar rfl
  rw [if_neg h1]
  show ∃ b bs, (if c.toNat ≤ 0x7ff then _ else _) = _ ∧ _
  by_cases h2 : c.toNat ≤ 0x7ff
  · rw [if_pos h2]
    refine ⟨_, _, rfl, ?_⟩
    have hb := toNat_byte (n := c.val.toNat / 64 % 32 + 0xC0) (by omega)
    have hb1 := toNat_byte (n := c.val.toNat % 64 + 0x80) (by omega)
    exact (front_of_two (by omega) (by omega) ⟨by omega, by omega⟩ rest).trans
      (hchar (by omega))
  rw [if_neg h2]
  show ∃ b bs, (if c.toNat ≤ 0xffff then _ else _) = _ ∧ _
  by_cases h3 : c.toNat ≤ 0xffff
  · rw [if_pos h3]
    refine ⟨_, _, rfl, ?_⟩
    have hb := toNat_byte (n := c.val.toNat / 4096 % 16 + 0xE0) (by omega)
    have hb1 := toNat_byte (n := c.val.toNat / 64 % 64 + 0x80) (by omega)
    have hb2 := toNat_byte (n := c.val.toNat % 64 + 0x80) (by omega)
    refine (front_of_three (by omega) (by omega) ⟨?_, ?_⟩ ⟨by omega, by omega⟩ rest).trans
      (hchar (by omega))
    · split <;> omega
    · split <;> omega
  · rw [if_neg h3]
    refine ⟨_, _, rfl, ?_⟩
    have hb := toNat_byte (n := c.val.toNat / 262144 % 8 + 0xF0) (by omega)
    have hb1 := toNat_byte (n := c.val.toNat / 4096 % 64 + 0x80) (by omega)
    have hb2 := toNat_byte (n := c.val.toNat / 64 % 64 + 0x80) (by omega)
    have hb3 := toNat_byte (n := c.val.toNat % 64 + 0x80) (by omega)
    refine (front_of_four (by omega) (by omega) ⟨?_, ?_⟩ ⟨by omega, by omega⟩
      ⟨by omega, by omega⟩ rest).trans (hchar (by omega))
    · split <;> omega
    · split <;> omega

/-- The bytes of the character with a given code point. -/
theorem utf8EncodeChar_ofNat {n : Nat} (h : n < 0xD800 ∨ 0xDFFF < n ∧ n < 0x110000) :
    String.utf8EncodeChar (Char.ofNat n)
      = if n ≤ 0x7f then [UInt8.ofNat n]
        else if n ≤ 0x7ff then [UInt8.ofNat (n / 64 % 32 + 0xC0), UInt8.ofNat (n % 64 + 0x80)]
        else if n ≤ 0xffff then
          [UInt8.ofNat (n / 4096 % 16 + 0xE0), UInt8.ofNat (n / 64 % 64 + 0x80),
            UInt8.ofNat (n % 64 + 0x80)]
        else
          [UInt8.ofNat (n / 262144 % 8 + 0xF0), UInt8.ofNat (n / 4096 % 64 + 0x80),
            UInt8.ofNat (n / 64 % 64 + 0x80), UInt8.ofNat (n % 64 + 0x80)] := by
  have hn : (Char.ofNat n).val.toNat = n := toNat_ofNat h
  rw [String.utf8EncodeChar]
  simp only [hn]

private theorem ofNat_eq {b : UInt8} {n : Nat} (h : n = b.toNat) : UInt8.ofNat n = b := by
  rw [h, UInt8.ofNat_toNat]

/-- No other byte leads any. -/
theorem leadOf_none {b : UInt8} (h2 : ¬ (0xC2 ≤ b.toNat ∧ b.toNat ≤ 0xDF))
    (h3 : ¬ (0xE0 ≤ b.toNat ∧ b.toNat ≤ 0xEF)) (h4 : ¬ (0xF0 ≤ b.toNat ∧ b.toNat ≤ 0xF4)) :
    leadOf b = none := by
  unfold leadOf
  grind

private theorem front_two {b : UInt8} {rest : List UInt8} {c : Char} {more : Nat}
    (hlo : 0xC2 ≤ b.toNat) (hhi : b.toNat ≤ 0xDF) (h : front b rest = .char c more) :
    ∃ b1 tail, rest = b1 :: tail ∧ more = 1 ∧ String.utf8EncodeChar c = [b, b1] := by
  rw [front, if_neg (by omega), leadOf_two hlo hhi] at h
  match rest with
  | [] => exact nomatch h
  | b1 :: tail =>
      simp only [within, tailBits] at h
      have hb1 : 0x80 ≤ b1.toNat ∧ b1.toNat ≤ 0xBF := by grind
      have hc : c = Char.ofNat ((b.toNat % 32) * 64 + b1.toNat % 64) := by grind
      refine ⟨b1, tail, rfl, by grind, ?_⟩
      rw [hc, utf8EncodeChar_ofNat (by omega), if_neg (by omega), if_pos (by omega)]
      rw [ofNat_eq (b := b) (by omega), ofNat_eq (b := b1) (by omega)]

private theorem front_three {b : UInt8} {rest : List UInt8} {c : Char} {more : Nat}
    (hlo : 0xE0 ≤ b.toNat) (hhi : b.toNat ≤ 0xEF) (h : front b rest = .char c more) :
    ∃ b1 b2 tail, rest = b1 :: b2 :: tail ∧ more = 2 ∧ String.utf8EncodeChar c = [b, b1, b2] := by
  rw [front, if_neg (by omega), leadOf_three hlo hhi] at h
  match rest with
  | [] => exact nomatch h
  | [b1] =>
      simp only [within] at h
      grind
  | b1 :: b2 :: tail =>
      simp only [within, tailBits] at h
      have hb1 : 0x80 ≤ b1.toNat ∧ b1.toNat ≤ 0xBF := by grind
      have hsmall : b.toNat = 0xE0 → 0xA0 ≤ b1.toNat := by grind
      have hsurrogate : b.toNat = 0xED → b1.toNat ≤ 0x9F := by grind
      have hb2 : 0x80 ≤ b2.toNat ∧ b2.toNat ≤ 0xBF := by grind
      have hc : c = Char.ofNat (((b.toNat % 16) * 64 + b1.toNat % 64) * 64 + b2.toNat % 64) := by
        grind
      refine ⟨b1, b2, tail, rfl, by grind, ?_⟩
      rw [hc, utf8EncodeChar_ofNat (by omega), if_neg (by omega), if_neg (by omega),
        if_pos (by omega)]
      rw [ofNat_eq (b := b) (by omega), ofNat_eq (b := b1) (by omega),
        ofNat_eq (b := b2) (by omega)]

private theorem front_four {b : UInt8} {rest : List UInt8} {c : Char} {more : Nat}
    (hlo : 0xF0 ≤ b.toNat) (hhi : b.toNat ≤ 0xF4) (h : front b rest = .char c more) :
    ∃ b1 b2 b3 tail, rest = b1 :: b2 :: b3 :: tail ∧ more = 3
      ∧ String.utf8EncodeChar c = [b, b1, b2, b3] := by
  rw [front, if_neg (by omega), leadOf_four hlo hhi] at h
  match rest with
  | [] => exact nomatch h
  | [b1] =>
      simp only [within] at h
      grind
  | [b1, b2] =>
      simp only [within] at h
      grind
  | b1 :: b2 :: b3 :: tail =>
      simp only [within, tailBits] at h
      have hb1 : 0x80 ≤ b1.toNat ∧ b1.toNat ≤ 0xBF := by grind
      have hsmall : b.toNat = 0xF0 → 0x90 ≤ b1.toNat := by grind
      have hlarge : b.toNat = 0xF4 → b1.toNat ≤ 0x8F := by grind
      have hb2 : 0x80 ≤ b2.toNat ∧ b2.toNat ≤ 0xBF := by grind
      have hb3 : 0x80 ≤ b3.toNat ∧ b3.toNat ≤ 0xBF := by grind
      have hc : c = Char.ofNat
          ((((b.toNat % 8) * 64 + b1.toNat % 64) * 64 + b2.toNat % 64) * 64 + b3.toNat % 64) := by
        grind
      refine ⟨b1, b2, b3, tail, rfl, by grind, ?_⟩
      rw [hc, utf8EncodeChar_ofNat (by omega), if_neg (by omega), if_neg (by omega),
        if_neg (by omega)]
      rw [ofNat_eq (b := b) (by omega), ofNat_eq (b := b1) (by omega),
        ofNat_eq (b := b2) (by omega), ofNat_eq (b := b3) (by omega)]

/-- What stands at the front of a byte sequence as a character is written so. -/
theorem utf8EncodeChar_of_front {b : UInt8} {rest : List UInt8} {c : Char} {more : Nat}
    (h : front b rest = .char c more) :
    ∃ bs tail, bs.length = more ∧ rest = bs ++ tail ∧ String.utf8EncodeChar c = b :: bs := by
  by_cases h1 : b.toNat < 0x80
  · rw [front, if_pos h1] at h
    injection h with hc hm
    refine ⟨[], rest, hm, rfl, ?_⟩
    rw [← hc, utf8EncodeChar_ofNat (by omega), if_pos (by omega), UInt8.ofNat_toNat]
  by_cases h2 : 0xC2 ≤ b.toNat ∧ b.toNat ≤ 0xDF
  · obtain ⟨b1, tail, hr, hm, hc⟩ := front_two h2.1 h2.2 h
    exact ⟨[b1], tail, hm.symm, hr, hc⟩
  by_cases h3 : 0xE0 ≤ b.toNat ∧ b.toNat ≤ 0xEF
  · obtain ⟨b1, b2, tail, hr, hm, hc⟩ := front_three h3.1 h3.2 h
    exact ⟨[b1, b2], tail, hm.symm, hr, hc⟩
  by_cases h4 : 0xF0 ≤ b.toNat ∧ b.toNat ≤ 0xF4
  · obtain ⟨b1, b2, b3, tail, hr, hm, hc⟩ := front_four h4.1 h4.2 h
    exact ⟨[b1, b2, b3], tail, hm.symm, hr, hc⟩
  rw [front, if_neg h1, leadOf_none h2 h3 h4] at h
  exact nomatch h

/-! ## The strict reader -/

private theorem decodeFrom_skip (bs rest : List UInt8) :
    decodeFrom bs.length (bs ++ rest) = decodeFrom 0 rest := by
  induction bs with
  | nil => rfl
  | cons b bs ih =>
      show decodeFrom bs.length (bs ++ rest) = decodeFrom 0 rest
      exact ih

/-- The bytes of characters are read back as these characters. -/
theorem decodeFrom_flatMap (cs : List Char) :
    decodeFrom 0 (cs.flatMap String.utf8EncodeChar) = some cs := by
  induction cs with
  | nil => rfl
  | cons c cs ih =>
      obtain ⟨b, bs, hc, hfront⟩ := front_utf8EncodeChar c (cs.flatMap String.utf8EncodeChar)
      rw [List.flatMap_cons, hc, List.cons_append, decodeFrom, hfront]
      show (decodeFrom bs.length (bs ++ cs.flatMap String.utf8EncodeChar)).map (c :: ·)
        = some (c :: cs)
      rw [decodeFrom_skip, ih]
      rfl

/-- Bytes that are read as characters are the bytes of these characters. -/
theorem flatMap_of_decodeFrom :
    ∀ (n : Nat) (bytes : List UInt8), bytes.length = n → ∀ cs, decodeFrom 0 bytes = some cs →
      cs.flatMap String.utf8EncodeChar = bytes := by
  intro n
  -- a character may take several bytes, so the induction is on a bound of the length
  induction n using Nat.strongRecOn with
  | ind n ih =>
      intro bytes hn cs h
      cases bytes with
      | nil =>
          have hcs : [] = cs := Option.some.inj h
          rw [← hcs]
          rfl
      | cons b rest =>
          rw [decodeFrom] at h
          cases hf : front b rest with
          | bad more =>
              rw [hf] at h
              exact nomatch h
          | char c more =>
              rw [hf] at h
              obtain ⟨tail', ht, hcs⟩ := Option.map_eq_some_iff.mp h
              obtain ⟨bs, tail, hlen, hrest, hc⟩ := utf8EncodeChar_of_front hf
              rw [← hlen, hrest, decodeFrom_skip] at ht
              have hlt : tail.length < n := by
                rw [← hn, hrest, List.length_cons, List.length_append]
                omega
              have htail := ih tail.length hlt tail rfl tail' ht
              rw [← hcs, List.flatMap_cons, hc, htail, hrest, List.cons_append]

/-- The strict reader accepts a byte sequence just when it is the bytes of a text, and answers that
text. -/
theorem decode?_eq_some_iff {bytes : List UInt8} {s : String} :
    decode? bytes = some s ↔ bytes = encode s := by
  rw [decode?, encode_eq_flatMap]
  constructor
  · intro h
    obtain ⟨cs, hcs, hs⟩ := Option.map_eq_some_iff.mp h
    rw [← hs, String.toList_ofList]
    exact (flatMap_of_decodeFrom bytes.length bytes rfl cs hcs).symm
  · intro h
    rw [h, decodeFrom_flatMap]
    show some (String.ofList s.toList) = some s
    rw [String.ofList_toList]

/-- Two texts do not have the same bytes. -/
theorem encode_injective : Function.Injective encode := by
  intro a b h
  have ha := decode?_eq_some_iff.mpr h
  exact Option.some.inj ((decode?_eq_some_iff.mpr rfl).symm.trans ha)

end ReleaseGate.Text
