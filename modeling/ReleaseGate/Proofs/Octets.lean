import Mathlib.Data.List.Forall2
import ReleaseGate.Pattern.Octets
import ReleaseGate.Proofs.Utf8

/-!
# Rows of bytes are the UTF-8 forms of a set

An automaton that follows the rows of a set takes the bytes of its characters and nothing else. A
range of numbers is cut where a block of 64 begins or ends: what is left of a block at either side
has a row of its own, and the whole blocks in between are themselves a range of numbers with one
digit less. So the rows are followed by induction on the number of digits.
-/

namespace ReleaseGate.Pattern.Octets

open Unicode

/-- One byte from each range of a row, in order. -/
def Takes (row : List Octets) (bytes : List Nat) : Prop :=
  List.Forall₂ (fun r b => r.1 ≤ b ∧ b ≤ r.2) row bytes

/-- The bytes of a number from `lo` on and below `stop`, in front of what a row takes. -/
def Spells (lead digits lo stop : Nat) (behind : List Octets) (bytes : List Nat) : Prop :=
  ∃ n tail, (lo ≤ n ∧ n < stop) ∧ bytes = form lead digits n ++ tail ∧ Takes behind tail

variable {lead digits lo mid stop : Nat} {row behind : List Octets} {bytes : List Nat}

/-! ## Numbers in a row -/

theorem takes_cons {r : Octets} :
    Takes (r :: row) bytes ↔ ∃ b tail, (r.1 ≤ b ∧ b ≤ r.2) ∧ Takes row tail ∧ bytes = b :: tail :=
  List.forall₂_cons_left_iff

/-- The row for a number alone takes the bytes of the number. -/
theorem takes_only_append {n : Nat} :
    Takes (only lead digits n ++ row) bytes
      ↔ ∃ tail, bytes = form lead digits n ++ tail ∧ Takes row tail := by
  rw [only]
  induction form lead digits n generalizing bytes with
  | nil => simp
  | cons b form ih =>
      rw [List.map_cons, List.cons_append, takes_cons]
      constructor
      · rintro ⟨b', rest, ⟨hle, hge⟩, hrest, rfl⟩
        obtain ⟨tail, rfl, htail⟩ := ih.mp hrest
        have hb : b' = b := Nat.le_antisymm hge hle
        exact ⟨tail, by rw [hb, List.cons_append], htail⟩
      · rintro ⟨tail, rfl, htail⟩
        exact ⟨b, form ++ tail, ⟨Nat.le_refl b, Nat.le_refl b⟩, ih.mpr ⟨tail, rfl, htail⟩, rfl⟩

theorem not_spells (h : stop ≤ lo) : ¬ Spells lead digits lo stop behind bytes := by
  rintro ⟨n, tail, ⟨hlo, hstop⟩, -⟩
  omega

/-- The numbers below some number, and those from it on. -/
theorem spells_or (hlo : lo ≤ mid) (hstop : mid ≤ stop) :
    Spells lead digits lo mid behind bytes ∨ Spells lead digits mid stop behind bytes
      ↔ Spells lead digits lo stop behind bytes := by
  constructor
  · rintro (⟨n, tail, ⟨hl, hs⟩, h⟩ | ⟨n, tail, ⟨hl, hs⟩, h⟩)
    · exact ⟨n, tail, ⟨hl, Nat.lt_of_lt_of_le hs hstop⟩, h⟩
    · exact ⟨n, tail, ⟨Nat.le_trans hlo hl, hs⟩, h⟩
  · rintro ⟨n, tail, ⟨hl, hs⟩, h⟩
    rcases Nat.lt_or_ge n mid with hn | hn
    · exact .inl ⟨n, tail, ⟨hl, hn⟩, h⟩
    · exact .inr ⟨n, tail, ⟨hn, hs⟩, h⟩

/-- A number is a number of blocks with one digit behind it. -/
theorem form_block {block digit : Nat} (h : digit < 64) :
    form lead (digits + 1) (block * 64 + digit)
      = form lead digits block ++ [0x80 + digit] := by
  have hblock : (block * 64 + digit) / 64 = block := by omega
  have hdigit : (block * 64 + digit) % 64 = digit := by omega
  rw [form, hblock, hdigit]

/-- Behind the bytes of a block, a range of last digits takes the numbers with these digits. -/
theorem takes_digit {block first : Nat} (hstop : stop ≤ 64) (h : first < stop) :
    (∃ rest, bytes = form lead digits block ++ rest
        ∧ Takes ((0x80 + first, 0x80 + (stop - 1)) :: behind) rest)
      ↔ Spells lead (digits + 1) (block * 64 + first) (block * 64 + stop) behind bytes := by
  constructor
  · rintro ⟨rest, rfl, hrest⟩
    obtain ⟨b, tail, ⟨hle, hge⟩, htail, rfl⟩ := takes_cons.mp hrest
    dsimp only at hle hge
    refine ⟨block * 64 + (b - 0x80), tail, ⟨by omega, by omega⟩, ?_, htail⟩
    have hb : 0x80 + (b - 0x80) = b := by omega
    rw [form_block (by omega), hb, List.append_assoc, List.singleton_append]
  · rintro ⟨n, tail, ⟨hlo, hn⟩, rfl, htail⟩
    obtain ⟨digit, rfl⟩ := Nat.exists_eq_add_of_le (Nat.le_trans (Nat.le_add_right _ _) hlo)
    refine ⟨(0x80 + digit) :: tail, ?_, ?_⟩
    · rw [form_block (by omega), List.append_assoc, List.singleton_append]
    · exact takes_cons.mpr ⟨_, tail, ⟨by dsimp only; omega, by dsimp only; omega⟩, htail, rfl⟩

/-- A part of a block takes the numbers with these last digits. -/
theorem takes_part {block first : Nat} (hstop : stop ≤ 64) :
    (∃ row ∈ part lead digits block first stop behind, Takes row bytes)
      ↔ Spells lead (digits + 1) (block * 64 + first) (block * 64 + stop) behind bytes := by
  rw [part]
  by_cases h : first < stop
  · rw [if_pos h, ← takes_digit hstop h]
    simp only [List.mem_singleton, exists_eq_left, takes_only_append]
  · rw [if_neg h]
    exact iff_of_false (by simp) (not_spells (by omega))

/-- Whole blocks are numbers with one digit less, in front of any digit. -/
theorem spells_blocks {first last : Nat} :
    Spells lead digits first last ((0x80, 0xBF) :: behind) bytes
      ↔ Spells lead (digits + 1) (first * 64) (last * 64) behind bytes := by
  have hdigit (block : Nat) :
      (∃ rest, bytes = form lead digits block ++ rest ∧ Takes ((0x80, 0xBF) :: behind) rest)
        ↔ Spells lead (digits + 1) (block * 64) (block * 64 + 64) behind bytes :=
    takes_digit (Nat.le_refl 64) (Nat.zero_lt_succ 63)
  constructor
  · rintro ⟨block, rest, ⟨hfirst, hlast⟩, h⟩
    obtain ⟨n, tail, ⟨hlo, hn⟩, h⟩ := (hdigit block).mp ⟨rest, h⟩
    exact ⟨n, tail, ⟨by omega, by omega⟩, h⟩
  · rintro ⟨n, tail, ⟨hlo, hn⟩, h⟩
    obtain ⟨rest, h⟩ := (hdigit (n / 64)).mpr ⟨n, tail, ⟨by omega, by omega⟩, h⟩
    exact ⟨n / 64, rest, ⟨by omega, by omega⟩, h⟩

/-- The rows for some numbers take the bytes of these numbers. -/
theorem takes_rows (h : lo ≤ stop) :
    (∃ row ∈ rows lead digits lo stop behind, Takes row bytes)
      ↔ Spells lead digits lo stop behind bytes := by
  induction digits generalizing lo stop behind with
  | zero =>
      rw [rows]
      by_cases hlt : lo < stop
      · rw [if_pos hlt]
        simp only [List.mem_singleton, exists_eq_left, takes_cons]
        constructor
        · rintro ⟨b, tail, ⟨hle, hge⟩, htail, rfl⟩
          have hb : lead + (b - lead) = b := by omega
          exact ⟨b - lead, tail, ⟨by omega, by omega⟩, by rw [form, hb]; rfl, htail⟩
        · rintro ⟨n, tail, ⟨hlo, hn⟩, rfl, htail⟩
          exact ⟨lead + n, tail, ⟨by omega, by omega⟩, htail, rfl⟩
      · rw [if_neg hlt]
        exact iff_of_false (by simp) (not_spells (by omega))
  | succ digits ih =>
      rw [rows]
      by_cases hblock : lo / 64 = stop / 64
      · rw [if_pos hblock, takes_part (by omega)]
        have hlo : lo / 64 * 64 + lo % 64 = lo := by omega
        have hstop : lo / 64 * 64 + stop % 64 = stop := by omega
        rw [hlo, hstop]
      · rw [if_neg hblock]
        simp only [List.mem_append, or_and_right, exists_or]
        have hfirst : lo ≤ (lo + 63) / 64 * 64 := by omega
        have hblocks : (lo + 63) / 64 ≤ stop / 64 := by omega
        -- what is left of the first block
        have hbelow : (∃ row ∈ (if lo % 64 = 0 then [] else part lead digits (lo / 64) (lo % 64) 64
              behind), Takes row bytes)
            ↔ Spells lead (digits + 1) lo ((lo + 63) / 64 * 64) behind bytes := by
          by_cases hzero : lo % 64 = 0
          · rw [if_pos hzero]
            exact iff_of_false (by simp) (not_spells (by omega))
          · rw [if_neg hzero, takes_part (Nat.le_refl 64)]
            have hlo : lo / 64 * 64 + lo % 64 = lo := by omega
            have hnext : lo / 64 * 64 + 64 = (lo + 63) / 64 * 64 := by omega
            rw [hlo, hnext]
        have habove : stop / 64 * 64 + stop % 64 = stop := by omega
        have hlast : lo ≤ stop / 64 * 64 := by omega
        rw [hbelow, ih hblocks, spells_blocks, takes_part (by omega), habove,
          spells_or hfirst (Nat.mul_le_mul_right 64 hblocks), Nat.add_zero (stop / 64 * 64),
          spells_or hlast (by omega)]

/-! ## Characters -/

/-- The code points of a stretch are those of characters. -/
theorem valid_of_mem_stretches {s : Stretch} (hs : s ∈ stretches) {n : Nat} (hfirst : s.first ≤ n)
    (hlast : n ≤ s.last) : n < 0xD800 ∨ 0xDFFF < n ∧ n < 0x110000 := by
  simp only [stretches, List.mem_cons, List.not_mem_nil, or_false] at hs
  rcases hs with rfl | rfl | rfl | rfl | rfl <;> dsimp only at hfirst hlast <;> omega

/-- Every character lies in a stretch. -/
theorem exists_mem_stretches (c : Char) :
    ∃ s ∈ stretches, s.first ≤ c.toNat ∧ c.toNat ≤ s.last := by
  have hc := Text.toNat_range c
  simp only [stretches, List.mem_cons, List.not_mem_nil, or_false, exists_eq_or_imp,
    exists_eq_left]
  omega

private theorem toNat_ofNat_byte {n : Nat} (h : n < 256) : (UInt8.ofNat n).toNat = n := by
  rw [UInt8.toNat_ofNat', Nat.mod_eq_of_lt h]

/-- The bytes of a number that takes three. -/
theorem form_three {n : Nat} (h : n ≤ 0xFFFF) :
    form 0xE0 2 n = [UInt8.ofNat (n / 4096 % 16 + 0xE0), UInt8.ofNat (n / 64 % 64 + 0x80),
      UInt8.ofNat (n % 64 + 0x80)].map UInt8.toNat := by
  simp only [form, List.map_cons, List.map_nil, List.cons_append, List.nil_append]
  rw [toNat_ofNat_byte (by omega), toNat_ofNat_byte (by omega), toNat_ofNat_byte (by omega)]
  simp only [List.cons.injEq, and_true]
  omega

/-- The bytes of a character are those of its code point in its stretch. -/
theorem form_of_mem_stretches {s : Stretch} (hs : s ∈ stretches) {n : Nat} (hfirst : s.first ≤ n)
    (hlast : n ≤ s.last) :
    form s.lead s.digits n = (String.utf8EncodeChar (Char.ofNat n)).map UInt8.toNat := by
  rw [Text.utf8EncodeChar_ofNat (valid_of_mem_stretches hs hfirst hlast)]
  simp only [stretches, List.mem_cons, List.not_mem_nil, or_false] at hs
  rcases hs with rfl | rfl | rfl | rfl | rfl <;> dsimp only at hfirst hlast
  · rw [if_pos hlast, List.map_singleton, toNat_ofNat_byte (by omega), form, Nat.zero_add]
  · rw [if_neg (by omega), if_pos hlast]
    simp only [form, List.map_cons, List.map_nil, List.cons_append, List.nil_append]
    rw [toNat_ofNat_byte (by omega), toNat_ofNat_byte (by omega)]
    simp only [List.cons.injEq, and_true]
    omega
  · rw [if_neg (by omega), if_neg (by omega), if_pos (by omega), form_three (by omega)]
  · rw [if_neg (by omega), if_neg (by omega), if_pos hlast, form_three hlast]
  · rw [if_neg (by omega), if_neg (by omega), if_neg (by omega)]
    simp only [form, List.map_cons, List.map_nil, List.cons_append, List.nil_append]
    rw [toNat_ofNat_byte (by omega), toNat_ofNat_byte (by omega), toNat_ofNat_byte (by omega),
      toNat_ofNat_byte (by omega)]
    simp only [List.cons.injEq, and_true]
    omega

/-- The bytes of a character, on their own. -/
theorem encoded_toNat (c : Char) :
    encoded c.toNat = (String.utf8EncodeChar c).map UInt8.toNat := by
  obtain ⟨s, hs, hwithin⟩ := exists_mem_stretches c
  rw [encoded]
  cases hfind : stretches.find? fun s => s.first ≤ c.toNat && c.toNat ≤ s.last with
  | none =>
      have hnot := List.find?_eq_none.mp hfind s hs
      simp [hwithin] at hnot
  | some s =>
      have hfound := List.find?_some hfind
      rw [Bool.and_eq_true, decide_eq_true_iff, decide_eq_true_iff] at hfound
      have hform :=
        form_of_mem_stretches (List.mem_of_find?_eq_some hfind) hfound.1 hfound.2
      rw [Char.ofNat_toNat] at hform
      exact hform

/-- The rows for the part of a range in a stretch take the bytes of the numbers in both. -/
theorem takes_rowsWithin {r : Nat × Nat} {s : Stretch} :
    (∃ row ∈ rowsWithin r s, Takes row bytes)
      ↔ ∃ n, (r.1 ≤ n ∧ n ≤ r.2) ∧ (s.first ≤ n ∧ n ≤ s.last) ∧ bytes = form s.lead s.digits n := by
  rw [rowsWithin]
  by_cases h : max r.1 s.first ≤ min r.2 s.last
  · rw [if_pos h, takes_rows (by omega)]
    constructor
    · rintro ⟨n, tail, ⟨hlo, hhi⟩, rfl, htail⟩
      rw [List.forall₂_nil_left_iff.mp htail, List.append_nil]
      exact ⟨n, ⟨by omega, by omega⟩, ⟨by omega, by omega⟩, rfl⟩
    · rintro ⟨n, ⟨hlo, hhi⟩, ⟨hfirst, hlast⟩, rfl⟩
      exact ⟨n, [], ⟨by omega, by omega⟩, (List.append_nil _).symm, .nil⟩
  · rw [if_neg h]
    refine iff_of_false (by simp) ?_
    rintro ⟨n, ⟨hlo, hhi⟩, ⟨hfirst, hlast⟩, -⟩
    omega

/-- The rows of a set take the bytes of the characters in its ranges, and nothing else. -/
theorem takes_ofSet_iff (set : CharSet) (bytes : List UInt8) :
    (∃ row ∈ ofSet set, Takes row (bytes.map UInt8.toNat))
      ↔ ∃ c : Char, (∃ r ∈ set.ranges, r.1 ≤ c.toNat ∧ c.toNat ≤ r.2)
        ∧ String.utf8EncodeChar c = bytes := by
  constructor
  · rintro ⟨row, hrow, htakes⟩
    obtain ⟨r, hr, hrow⟩ := List.mem_flatMap.mp hrow
    obtain ⟨s, hs, hrow⟩ := List.mem_flatMap.mp hrow
    obtain ⟨n, hn, ⟨hfirst, hlast⟩, hbytes⟩ := takes_rowsWithin.mp ⟨row, hrow, htakes⟩
    have hnat := Text.toNat_ofNat (valid_of_mem_stretches hs hfirst hlast)
    refine ⟨Char.ofNat n, ⟨r, hr, by rwa [hnat]⟩, ?_⟩
    rw [form_of_mem_stretches hs hfirst hlast] at hbytes
    exact (List.map_injective_iff.mpr (fun _ _ => UInt8.toNat_inj.mp) hbytes).symm
  · rintro ⟨c, ⟨r, hr, hc⟩, rfl⟩
    obtain ⟨s, hs, hfirst, hlast⟩ := exists_mem_stretches c
    have hform := form_of_mem_stretches hs hfirst hlast
    rw [Char.ofNat_toNat] at hform
    obtain ⟨row, hrow, htakes⟩ := takes_rowsWithin.mpr ⟨c.toNat, hc, ⟨hfirst, hlast⟩, hform.symm⟩
    exact ⟨row, List.mem_flatMap.mpr ⟨r, hr, List.mem_flatMap.mpr ⟨s, hs, hrow⟩⟩, htakes⟩

end ReleaseGate.Pattern.Octets
