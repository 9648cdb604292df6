import ReleaseGate.Proofs.Utf8

/-!
# UTF-8 with replacement

The lenient reader gives a text for any bytes. Where bytes are those of a character they are read as
it, and each stray piece between them is shown as `U+FFFD`. A piece is a byte that begins no
character, or as much of the beginning of a character as there is before something else comes. So
bytes are shown in one way only, and the reader shows them in this way.
-/

namespace ReleaseGate.Text

/-- A piece of bytes that stands where a character should, with the bytes behind it. No character
begins there; the piece is a single byte or the beginning of a character, and the next byte would
not continue it to a longer beginning. -/
structure Stray (piece rest : List UInt8) : Prop where
  noChar : ∀ c, ¬ String.utf8EncodeChar c <+: piece ++ rest
  begun : piece.length = 1 ∨ 1 < piece.length ∧ ∃ c, piece <+: String.utf8EncodeChar c
  stopped : ∀ x ∈ rest.head?, ∀ c, ¬ piece ++ [x] <+: String.utf8EncodeChar c

/-- The characters that bytes are shown as. -/
inductive ShownAs : List UInt8 → List Char → Prop where
  | nil : ShownAs [] []
  | char (c : Char) {rest : List UInt8} {cs : List Char} :
      ShownAs rest cs → ShownAs (String.utf8EncodeChar c ++ rest) (c :: cs)
  | stray {piece rest : List UInt8} {cs : List Char} :
      Stray piece rest → ShownAs rest cs → ShownAs (piece ++ rest) ('\uFFFD' :: cs)

/-! ## Where a piece breaks off -/

/-- A byte that leads others is no character of its own. -/
theorem not_ascii_of_lead {b : UInt8} {range : Nat × Nat × Nat} (h : leadOf b = some range) :
    ¬ b.toNat < 0x80 := by
  unfold leadOf at h
  grind

/-- Where the bytes behind a byte stop to be those of a character: the number of bytes before. -/
inductive Breaks (b : UInt8) : List UInt8 → Nat → Prop where
  | lead (rest : List UInt8) : 0x80 ≤ b.toNat → leadOf b = none → Breaks b rest 0
  | second {n lo hi : Nat} (rest : List UInt8) : leadOf b = some (n, lo, hi) →
      (∀ x ∈ rest.head?, within lo hi x = false) → Breaks b rest 0
  | third {n lo hi : Nat} (b1 : UInt8) (rest : List UInt8) : leadOf b = some (n, lo, hi) →
      n ≠ 1 → within lo hi b1 = true →
      (∀ x ∈ rest.head?, within 0x80 0xBF x = false) → Breaks b (b1 :: rest) 1
  | fourth {n lo hi : Nat} (b1 b2 : UInt8) (rest : List UInt8) : leadOf b = some (n, lo, hi) →
      n ≠ 1 → n ≠ 2 → within lo hi b1 = true → within 0x80 0xBF b2 = true →
      (∀ x ∈ rest.head?, within 0x80 0xBF x = false) → Breaks b (b1 :: b2 :: rest) 2

theorem Breaks.front_eq {b : UInt8} {rest : List UInt8} {more : Nat} (h : Breaks b rest more) :
    front b rest = .bad more := by
  cases h with
  | lead _ hb hlead => rw [front, if_neg (by omega), hlead]
  | second _ hlead hout =>
      have hb := not_ascii_of_lead hlead
      cases rest with
      | nil => simp [front, hb, hlead]
      | cons x rest => simp [front, hb, hlead, hout x rfl]
  | third b1 rest hlead hn1 h1 hout =>
      have hb := not_ascii_of_lead hlead
      cases rest with
      | nil => simp [front, hb, hlead, h1, hn1]
      | cons x rest => simp [front, hb, hlead, h1, hn1, hout x rfl]
  | fourth b1 b2 rest hlead hn1 hn2 h1 h2 hout =>
      have hb := not_ascii_of_lead hlead
      cases rest with
      | nil => simp [front, hb, hlead, h1, hn1, h2, hn2]
      | cons x rest => simp [front, hb, hlead, h1, hn1, h2, hn2, hout x rfl]

/-- The next byte is within a range, or there is none that is. -/
theorem head_within_or (lo hi : Nat) (rest : List UInt8) :
    (∀ x ∈ rest.head?, within lo hi x = false)
      ∨ ∃ x tail, rest = x :: tail ∧ within lo hi x = true := by
  cases rest with
  | nil => exact .inl fun x hx => (nomatch hx)
  | cons x tail =>
      cases hx : within lo hi x with
      | false => exact .inl fun y hy => Option.some.inj hy ▸ hx
      | true => exact .inr ⟨x, tail, rfl, hx⟩

/-- Bytes break off somewhere, or a character stands at their front. -/
theorem breaks_or_char (b : UInt8) (rest : List UInt8) :
    (∃ more, Breaks b rest more) ∨ ∃ c more, front b rest = .char c more := by
  by_cases hb : b.toNat < 0x80
  · exact .inr (by simp [front, hb])
  cases hlead : leadOf b with
  | none => exact .inl ⟨0, .lead rest (by omega) hlead⟩
  | some range =>
      obtain ⟨n, lo, hi⟩ := range
      rcases head_within_or lo hi rest with hout | ⟨b1, rest1, rfl, h1⟩
      · exact .inl ⟨0, .second rest hlead hout⟩
      by_cases hn1 : n = 1
      · exact .inr (by simp [front, hb, hlead, h1, hn1])
      rcases head_within_or 0x80 0xBF rest1 with hout | ⟨b2, rest2, rfl, h2⟩
      · exact .inl ⟨1, .third b1 rest1 hlead hn1 h1 hout⟩
      by_cases hn2 : n = 2
      · exact .inr (by simp [front, hb, hlead, h1, h2, hn2])
      rcases head_within_or 0x80 0xBF rest2 with hout | ⟨b3, rest3, rfl, h3⟩
      · exact .inl ⟨2, .fourth b1 b2 rest2 hlead hn1 hn2 h1 h2 hout⟩
      · exact .inr (by simp [front, hb, hlead, h1, hn1, h2, hn2, h3])

/-- What stands at the front as no character breaks off there. -/
theorem breaks_of_front {b : UInt8} {rest : List UInt8} {more : Nat}
    (h : front b rest = .bad more) : Breaks b rest more := by
  rcases breaks_or_char b rest with ⟨more', hbreaks⟩ | ⟨c, more', hchar⟩
  · rw [hbreaks.front_eq] at h
    cases h
    exact hbreaks
  · rw [hchar] at h
    cases h

/-- The bytes of a character at the front begin with any of the bytes there are of it. -/
theorem prefix_of_front_char {b : UInt8} {rest : List UInt8} {c : Char} {more k : Nat}
    (h : front b rest = .char c more) (hk : k ≤ more) :
    b :: rest.take k <+: String.utf8EncodeChar c := by
  obtain ⟨bs, tail, hlen, hrest, hc⟩ := utf8EncodeChar_of_front h
  have htake : rest.take k = bs.take k := by
    rw [hrest, List.take_append_of_le_length (by omega)]
  rw [hc, htake, List.prefix_cons_inj]
  exact List.take_prefix k bs

/-- A piece that breaks off behind its first byte is the beginning of a character. -/
theorem Breaks.begun {b : UInt8} {rest : List UInt8} {more : Nat} (h : Breaks b rest more) :
    more = 0 ∨ ∃ c, b :: rest.take more <+: String.utf8EncodeChar c := by
  have hfill : within 0x80 0xBF 0x80 = true := by decide
  cases h with
  | lead _ _ _ => exact .inl rfl
  | second _ _ _ => exact .inl rfl
  | @third n _ _ b1 rest hlead hn1 h1 _ =>
      obtain ⟨m, hm, c, hfront⟩ : ∃ m, 1 ≤ m ∧ ∃ c, front b [b1, 0x80, 0x80] = .char c m := by
        have hb := not_ascii_of_lead hlead
        by_cases hn2 : n = 2 <;> simp [front, hb, hlead, h1, hn1, hn2, hfill]
      have hprefix := prefix_of_front_char hfront hm
      exact .inr ⟨c, hprefix⟩
  | fourth b1 b2 rest hlead hn1 hn2 h1 h2 _ =>
      obtain ⟨m, hm, c, hfront⟩ : ∃ m, 2 ≤ m ∧ ∃ c, front b [b1, b2, 0x80] = .char c m := by
        have hb := not_ascii_of_lead hlead
        simp [front, hb, hlead, h1, hn1, h2, hn2, hfill]
      have hprefix := prefix_of_front_char hfront hm
      exact .inr ⟨c, hprefix⟩

/-- Where a piece breaks off, the next byte continues it to no character, whatever comes then. -/
theorem Breaks.stopped {b : UInt8} {rest : List UInt8} {more : Nat} (h : Breaks b rest more)
    {x : UInt8} (hx : x ∈ (rest.drop more).head?) (tail : List UInt8) :
    front b (rest.take more ++ x :: tail) = .bad more := by
  have hhead : ∀ {lo hi : Nat}, within lo hi x = false →
      ∀ y ∈ (x :: tail).head?, within lo hi y = false :=
    fun hout y hy => Option.some.inj hy ▸ hout
  cases h with
  | lead _ hb hlead => exact (Breaks.lead _ hb hlead).front_eq
  | second _ hlead hout => exact (Breaks.second _ hlead (hhead (hout x hx))).front_eq
  | third b1 _ hlead hn1 h1 hout =>
      exact (Breaks.third b1 _ hlead hn1 h1 (hhead (hout x hx))).front_eq
  | fourth b1 b2 _ hlead hn1 hn2 h1 h2 hout =>
      exact (Breaks.fourth b1 b2 _ hlead hn1 hn2 h1 h2 (hhead (hout x hx))).front_eq

theorem Breaks.le_length {b : UInt8} {rest : List UInt8} {more : Nat} (h : Breaks b rest more) :
    more ≤ rest.length := by
  cases h <;> simp

/-- What stands at the front as no character is a stray piece. -/
theorem stray_of_front {b : UInt8} {rest : List UInt8} {more : Nat}
    (h : front b rest = .bad more) :
    ∃ bs tail, bs.length = more ∧ rest = bs ++ tail ∧ Stray (b :: bs) tail := by
  have hbreaks := breaks_of_front h
  have hrest := List.take_append_drop more rest
  have hlength : (rest.take more).length = more := List.length_take_of_le hbreaks.le_length
  refine ⟨rest.take more, rest.drop more, hlength, hrest.symm, ?_, ?_, ?_⟩
  · rintro c ⟨tail, hc⟩
    obtain ⟨b', bs, hbytes, hfront⟩ := front_utf8EncodeChar c tail
    rw [hbytes, List.cons_append, List.cons_append, hrest] at hc
    obtain ⟨rfl, hbs⟩ := List.cons_eq_cons.mp hc
    rw [hbs, h] at hfront
    cases hfront
  · rw [List.length_cons, hlength]
    rcases hbreaks.begun with hzero | ⟨c, hc⟩
    · exact .inl (by omega)
    · by_cases hzero : more = 0
      · exact .inl (by omega)
      · exact .inr ⟨by omega, c, hc⟩
  · rintro x hx c ⟨tail, hc⟩
    obtain ⟨b', bs, hbytes, hfront⟩ := front_utf8EncodeChar c []
    rw [hbytes, List.cons_append, List.cons_append, List.append_assoc] at hc
    obtain ⟨rfl, hbs⟩ := List.cons_eq_cons.mp hc
    rw [List.append_nil, ← hbs, List.singleton_append, hbreaks.stopped hx tail] at hfront
    cases hfront

/-! ## Bytes are shown in one way -/

theorem Stray.length_pos {piece rest : List UInt8} (h : Stray piece rest) : 0 < piece.length := by
  rcases h.begun with hone | ⟨hlong, -⟩
  · omega
  · omega

/-- No stray piece is longer than another one at the same place. -/
theorem Stray.length_le {piece rest piece' rest' : List UInt8} (h : Stray piece rest)
    (h' : Stray piece' rest') (hsame : piece ++ rest = piece' ++ rest') :
    piece.length ≤ piece'.length := by
  rcases List.append_eq_append_iff.mp hsame with ⟨more, rfl, -⟩ | ⟨more, rfl, rfl⟩
  · rw [List.length_append]
    omega
  · match more with
    | [] => simp
    | x :: more =>
        have hpos := h'.length_pos
        rcases h.begun with hone | ⟨-, c, hc⟩
        · rw [List.length_append, List.length_cons] at hone
          omega
        · -- the longer piece is the beginning of a character, so it continues the shorter one
          have hcut : piece' ++ [x] <+: piece' ++ x :: more := ⟨more, by simp⟩
          exact absurd (hcut.trans hc) (h'.stopped x rfl c)

private theorem replaceFrom_skip (bs rest : List UInt8) :
    replaceFrom bs.length (bs ++ rest) = replaceFrom 0 rest := by
  induction bs with
  | nil => rfl
  | cons b bs ih =>
      show replaceFrom bs.length (bs ++ rest) = replaceFrom 0 rest
      exact ih

/-- What bytes are shown as is what is read from them. -/
theorem replaceFrom_of_shownAs {bytes : List UInt8} {cs : List Char} (h : ShownAs bytes cs) :
    replaceFrom 0 bytes = cs := by
  induction h with
  | nil => rfl
  | @char c rest cs _ ih =>
      obtain ⟨b, bs, hc, hfront⟩ := front_utf8EncodeChar c rest
      rw [hc, List.cons_append, replaceFrom, hfront]
      show c :: replaceFrom bs.length (bs ++ rest) = c :: cs
      rw [replaceFrom_skip, ih]
  | @stray piece rest cs hstray _ ih =>
      match piece with
      | [] => exact absurd hstray.length_pos (Nat.lt_irrefl 0)
      | b :: bs =>
          rw [List.cons_append, replaceFrom]
          match hfront : front b (bs ++ rest) with
          | .char c more =>
              obtain ⟨bs', tail, -, hrest, hc⟩ := utf8EncodeChar_of_front hfront
              refine absurd ⟨tail, ?_⟩ (hstray.noChar c)
              rw [hc, List.cons_append, List.cons_append, hrest]
          | .bad more =>
              obtain ⟨bs', tail, hlength, hrest, hstray'⟩ := stray_of_front hfront
              have hsame : b :: bs ++ rest = b :: bs' ++ tail := congrArg (b :: ·) hrest
              have hle := hstray.length_le hstray' hsame
              have hge := hstray'.length_le hstray hsame.symm
              have heq : bs.length = bs'.length := by
                rw [List.length_cons, List.length_cons] at hle hge
                omega
              show '\uFFFD' :: replaceFrom more (bs ++ rest) = '\uFFFD' :: cs
              rw [← hlength, ← heq, replaceFrom_skip, ih]

/-- Bytes are shown as what is read from them. -/
theorem shownAs_replaceFrom :
    ∀ (n : Nat) (bytes : List UInt8), bytes.length = n → ShownAs bytes (replaceFrom 0 bytes) := by
  intro n
  -- a character or a piece may take several bytes, so the induction is on a bound of the length
  induction n using Nat.strongRecOn with
  | ind n ih =>
      intro bytes hn
      have htail : ∀ {b : UInt8} {bs tail : List UInt8}, bytes = b :: (bs ++ tail) →
          ShownAs tail (replaceFrom bs.length (bs ++ tail)) := by
        intro b bs tail hbytes
        have hlt : tail.length < n := by
          rw [← hn, hbytes, List.length_cons, List.length_append]
          omega
        rw [replaceFrom_skip]
        exact ih tail.length hlt tail rfl
      cases bytes with
      | nil => exact .nil
      | cons b rest =>
          rw [replaceFrom]
          match hfront : front b rest with
          | .char c more =>
              obtain ⟨bs, tail, rfl, rfl, hc⟩ := utf8EncodeChar_of_front hfront
              have hshown := ShownAs.char c (htail rfl)
              rw [hc] at hshown
              exact hshown
          | .bad more =>
              obtain ⟨bs, tail, rfl, rfl, hstray⟩ := stray_of_front hfront
              exact .stray hstray (htail rfl)

/-- Bytes are read with replacement as the text that they are shown as. -/
theorem decodeReplacing_eq_iff {bytes : List UInt8} {s : String} :
    decodeReplacing bytes = s ↔ ShownAs bytes s.toList := by
  constructor
  · rintro rfl
    rw [decodeReplacing, String.toList_ofList]
    exact shownAs_replaceFrom bytes.length bytes rfl
  · intro h
    rw [decodeReplacing, replaceFrom_of_shownAs h, String.ofList_toList]

end ReleaseGate.Text
