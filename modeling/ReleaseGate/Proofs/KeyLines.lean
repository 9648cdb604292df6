import ReleaseGate.Proofs.BuiltIn

/-!
# Lines with a key

The config map names the images of the agent and the daemon on lines of their own, each behind a
key. The rule of such a role looks for an occurrence of its key that has a pinned reference behind
it on the same line, takes the first such occurrence, and on its line the last such reference. What
stands on other lines, or behind an occurrence of the key without a pinned reference, has no
influence. The keys of the two roles do not contain each other, so neither role is mistaken for the
other.
-/

namespace ReleaseGate

open Pattern

/-! ## References behind a key -/

/-- A pinned reference comes next: an at sign, the name of the algorithm, a hexadecimal digit. -/
def PinAhead (l : List Char) : Prop :=
  ∃ digit rest, l = '@' :: (Digest.algorithm ++ digit :: rest) ∧ Digest.isHexDigit digit = true

/-- Behind `before` stands a key, and later on the same line a pinned reference. -/
def KeyLine (key text : String) (before : List Char) : Prop :=
  ∃ line, text.toList = before ++ (key.toList ++ line)
    ∧ ∃ skipped rest, Pick.Skips line skipped rest ∧ PinAhead rest

/-- What a text has from an occurrence of a key up to the digest behind it. -/
structure Cites (key text digest : String) (before skipped digits rest : List Char) : Prop where
  text_eq : text.toList
    = before ++ (key.toList ++ (skipped ++ '@' :: (Digest.algorithm ++ (digits ++ rest))))
  sameLine : '\n' ∉ skipped
  someDigit : digits ≠ []
  hexDigits : ∀ c ∈ digits, Digest.isHexDigit c = true
  allDigits : ∀ c ∈ rest.head?, Digest.isHexDigit c = false
  digest_eq : digest.toList = Digest.algorithm ++ digits
  /-- No earlier occurrence of the key has a pinned reference behind it on its line. -/
  first : ∀ before', KeyLine key text before' → before.length ≤ before'.length
  /-- No later place on the line has a pinned reference. -/
  last : ∀ skipped' rest',
    Pick.Skips (skipped ++ '@' :: (Digest.algorithm ++ (digits ++ rest))) skipped' rest' →
      PinAhead rest' → skipped'.length ≤ skipped.length

/-- Every occurrence of a key lies within an occurrence of another text. -/
def OnlyWithin (key other text : String) : Prop :=
  ∀ before after, text.toList = before ++ (key.toList ++ after) →
    ∃ before' after', text.toList = before' ++ (other.toList ++ after')
      ∧ before'.length ≤ before.length
      ∧ before.length + key.toList.length ≤ before'.length + other.toList.length

/-- The reference of a role is the one that its key cites. -/
structure FollowsKey (rs : Rules) (role key other : String) : Prop where
  isSome_iff : ∀ text,
    (References.inText rs role text).isSome = true ↔ ∃ before, KeyLine key text before
  eq_some_iff : ∀ text digest, References.inText rs role text = some digest ↔
    ∃ before skipped digits rest, Cites key text digest before skipped digits rest
  /-- A key that is part of another key only does not count. -/
  eq_none_of_within : ∀ text, OnlyWithin key other text → References.inText rs role text = none

/-! ## What is picked -/

namespace Digest

theorem pinnedAhead_eq_some {l : List Char} {d : String} : pinnedAhead l = some d ↔
    ∃ digits rest, l = '@' :: (algorithm ++ (digits ++ rest))
      ∧ d = String.ofList (algorithm ++ digits) ∧ digits ≠ [] ∧ (∀ c ∈ digits, isHexDigit c = true)
      ∧ ∀ c ∈ rest.head?, isHexDigit c = false := by
  rw [pinnedAhead, Pick.behind_eq_some]
  constructor
  · rintro ⟨_, rfl, h⟩
    obtain ⟨digits, rest, rfl, hd⟩ := ahead_eq_some.mp h
    exact ⟨digits, rest, rfl, hd⟩
  · rintro ⟨digits, rest, rfl, hd⟩
    exact ⟨_, rfl, ahead_eq_some.mpr ⟨digits, rest, rfl, hd⟩⟩

theorem isSome_pinnedAhead {l : List Char} : (pinnedAhead l).isSome = true ↔ PinAhead l := by
  constructor
  · intro h
    obtain ⟨d, hd⟩ := Option.isSome_iff_exists.mp h
    obtain ⟨digits, rest, rfl, -, hnil, hhex, -⟩ := pinnedAhead_eq_some.mp hd
    cases digits with
    | nil => exact absurd rfl hnil
    | cons digit digits => exact ⟨digit, digits ++ rest, rfl, hhex digit (List.mem_cons_self ..)⟩
  · rintro ⟨digit, rest, rfl, hdigit⟩
    have hrun : (digit :: rest).takeWhile isHexDigit ≠ [] := by simp [hdigit]
    simp [pinnedAhead, ahead, Pick.behind, Pick.run, hrun]

end Digest

namespace Profile

variable {key text digest : String}

theorem isSome_sought {l : List Char} : (sought key l).isSome = true ↔
    ∃ line, l = key.toList ++ line
      ∧ ∃ skipped rest, Pick.Skips line skipped rest ∧ PinAhead rest := by
  simp only [sought, Pick.isSome_behind, Pick.isSome_lastOnLine, Digest.isSome_pinnedAhead]

theorem isSome_first_sought : (Pick.first (sought key) text.toList).isSome = true ↔
    ∃ before, KeyLine key text before := by
  rw [Pick.isSome_first]
  constructor
  · rintro ⟨before, rest, htext, h⟩
    obtain ⟨line, rfl, hline⟩ := isSome_sought.mp h
    exact ⟨before, line, htext, hline⟩
  · rintro ⟨before, line, htext, hline⟩
    exact ⟨before, _, htext, isSome_sought.mpr ⟨line, rfl, hline⟩⟩

theorem exists_cites_of_first (h : Pick.first (sought key) text.toList = some digest) :
    ∃ before skipped digits rest, Cites key text digest before skipped digits rest := by
  obtain ⟨before, _, htext, hpick, hfirst⟩ := Pick.first_eq_some_iff_le.mp h
  obtain ⟨line, rfl, honLine⟩ := Pick.behind_eq_some.mp hpick
  obtain ⟨skipped, _, ⟨hline, rfl⟩, hpin, hlast⟩ := Pick.lastOnLine_eq_some.mp honLine
  obtain ⟨digits, rest, rfl, rfl, hnil, hhex, hrest⟩ := Digest.pinnedAhead_eq_some.mp hpin
  refine ⟨before, skipped, digits, rest, htext, hline, hnil, hhex, hrest, String.toList_ofList,
    ?_, ?_⟩
  · rintro before' ⟨line', htext', hline'⟩
    exact hfirst before' _ htext' (isSome_sought.mpr ⟨line', rfl, hline'⟩)
  · intro skipped' rest' hskips hpin
    refine Nat.le_of_not_lt fun hlt => ?_
    have hsome := Digest.isSome_pinnedAhead.mpr hpin
    rw [hlast skipped' rest' hskips hlt] at hsome
    cases hsome

theorem first_eq_of_cites {before skipped digits rest : List Char}
    (h : Cites key text digest before skipped digits rest) :
    Pick.first (sought key) text.toList = some digest := by
  have hdigest : digest = String.ofList (Digest.algorithm ++ digits) := by
    rw [← h.digest_eq, String.ofList_toList]
  refine Pick.first_eq_some_iff_le.mpr
    ⟨before, _, h.text_eq, Pick.behind_eq_some.mpr ⟨_, rfl, ?_⟩, ?_⟩
  · refine Pick.lastOnLine_eq_some.mpr ⟨skipped, _, ⟨h.sameLine, rfl⟩, ?_, ?_⟩
    · exact Digest.pinnedAhead_eq_some.mpr
        ⟨digits, rest, rfl, hdigest, h.someDigit, h.hexDigits, h.allDigits⟩
    · intro skipped' rest' hskips hlong
      refine Option.not_isSome_iff_eq_none.mp fun hsome => ?_
      have hle := h.last skipped' rest' hskips (Digest.isSome_pinnedAhead.mp hsome)
      exact absurd hlong (Nat.not_lt.mpr hle)
  · intro before' rest' htext hsome
    obtain ⟨line, rfl, hline⟩ := isSome_sought.mp hsome
    exact h.first before' ⟨line, htext, hline⟩

/-- The first occurrence of a key with something to pick gives the last reference on its line. -/
theorem first_sought_eq_some : Pick.first (sought key) text.toList = some digest ↔
    ∃ before skipped digits rest, Cites key text digest before skipped digits rest :=
  ⟨exists_cites_of_first, fun ⟨_, _, _, _, h⟩ => first_eq_of_cites h⟩

end Profile

/-! ## Keys within keys -/

/-- What lies within an occurrence of a text is a piece of it. -/
theorem infix_of_within {key other before after before' after' : List Char}
    (h : before ++ (key ++ after) = before' ++ (other ++ after'))
    (hbegin : before'.length ≤ before.length)
    (hend : before.length + key.length ≤ before'.length + other.length) : key <:+: other := by
  have hbefore : before' <+: before := by
    refine List.prefix_of_prefix_length_le ?_ (List.prefix_append before (key ++ after)) hbegin
    rw [h]
    exact List.prefix_append _ _
  obtain ⟨skipped, rfl⟩ := hbefore
  rw [List.append_assoc, List.append_cancel_left_eq, ← List.append_assoc] at h
  have hkey : skipped ++ key <+: other ++ after' := ⟨after, h⟩
  have hother : skipped ++ key <+: other := by
    refine List.prefix_of_prefix_length_le hkey (List.prefix_append other after') ?_
    simp only [List.length_append] at hend ⊢
    omega
  exact (List.suffix_append skipped key).isInfix.trans hother.isInfix

theorem OnlyWithin.not_keyLine {key other text : String} (h : OnlyWithin key other text)
    (hkey : ¬ key.toList <:+: other.toList) (before : List Char) : ¬ KeyLine key text before := by
  rintro ⟨line, htext, -⟩
  obtain ⟨before', after', htext', hbegin, hend⟩ := h before line htext
  exact hkey (infix_of_within (htext.symm.trans htext') hbegin hend)

/-! ## The two roles -/

/-- A rule that seeks behind a key makes its role follow the key. -/
theorem followsKey_of_seeks {rs : Rules} {r : Rule} {key other : String}
    (h : rs.Checked) (hr : r ∈ rs.profile.roles) (hseeks : r.Seeks (Profile.sought key))
    (hkey : ¬ key.toList <:+: other.toList) : FollowsKey rs r.role key other := by
  have hfound := h.inText_of_seeks hr hseeks
  refine ⟨fun text => ?_, fun text digest => ?_, fun text hwithin => ?_⟩
  · rw [hfound]
    exact Profile.isSome_first_sought
  · rw [hfound]
    exact Profile.first_sought_eq_some
  · rw [hfound]
    refine Option.not_isSome_iff_eq_none.mp fun hsome => ?_
    obtain ⟨before, hline⟩ := Profile.isSome_first_sought.mp hsome
    exact hwithin.not_keyLine hkey before hline

/-- Under the built-in profile, the agent and the daemon each follow a key of their own. -/
theorem builtIn_follows_keys : ∃ rs, Profile.builtIn.compile = .ok rs
    ∧ FollowsKey rs Profile.agent "bpfman.agent.image:" "bpfman.image:"
    ∧ FollowsKey rs Profile.daemon "bpfman.image:" "bpfman.agent.image:" := by
  obtain ⟨rs, hrs⟩ := Profile.exists_compile_builtIn
  obtain ⟨hprofile, hchecked⟩ := (Profile.compile_eq_ok _ _).mp hrs
  refine ⟨rs, hrs, ?_, ?_⟩
  · refine followsKey_of_seeks hchecked ?_ Profile.seeks_agent (by decide)
    rw [hprofile]
    exact List.getElem_mem _
  · refine followsKey_of_seeks hchecked ?_ Profile.seeks_daemon (by decide)
    rw [hprofile]
    exact List.getElem_mem _

/-- The daemon's key is not found within the agent's, and on its line the last reference counts. -/
example : Pick.first (Profile.sought Profile.daemonKey)
    "bpfman.agent.image: a@sha256:0a\nbpfman.image: b@sha256:0b c@sha256:0c".toList
      = some "sha256:0c" := by
  decide +kernel

end ReleaseGate
