import ReleaseGate.Digest
import ReleaseGate.Stream

/-!
# Marks in a text — the stream of a name and the digest of an image

Both are read off a text by what stands somewhere in it: a stream by its mark, a digest by the first
at sign. Here both are said without the search that finds them.
-/

namespace ReleaseGate

namespace Text

/-- The text `needle` stands somewhere in `s`. -/
def Holds (s needle : String) : Prop :=
  needle.toList <:+: s.toList

theorem occursIn_iff (needle cs : List Char) : occursIn needle cs = true ↔ needle <:+: cs := by
  induction cs with
  | nil => rw [occursIn, List.isEmpty_iff, List.infix_nil]
  | cons c cs ih =>
      rw [occursIn, Bool.or_eq_true, List.isPrefixOf_iff_prefix, ih, List.infix_cons_iff]

theorem contains_iff (s needle : String) : contains s needle = true ↔ Holds s needle :=
  occursIn_iff needle.toList s.toList

end Text

namespace Stream

/-- A name is of minor releases when it has their mark, whatever else it has. -/
theorem detect_eq_minor (application : String) :
    detect application = some .minor ↔ Text.Holds application minor.name := by
  rw [← Text.contains_iff, detect]
  by_cases hminor : Text.contains application minor.name = true
  · rw [if_pos hminor]
    exact ⟨fun _ => hminor, fun _ => rfl⟩
  · rw [if_neg hminor]
    constructor
    · intro h
      split at h
      · exact nomatch h
      · exact nomatch h
    · intro h
      exact absurd h hminor

/-- A name without either mark has no stream. -/
theorem detect_eq_none (application : String) :
    detect application = none
      ↔ ¬ (Text.Holds application minor.name ∨ Text.Holds application patch.name) := by
  rw [← Text.contains_iff, ← Text.contains_iff, detect]
  by_cases hminor : Text.contains application minor.name = true
  · rw [if_pos hminor]
    exact ⟨fun h => (nomatch h), fun h => absurd (.inl hminor) h⟩
  · rw [if_neg hminor]
    by_cases hpatch : Text.contains application patch.name = true
    · rw [if_pos hpatch]
      exact ⟨fun h => (nomatch h), fun h => absurd (.inr hpatch) h⟩
    · rw [if_neg hpatch]
      exact ⟨fun _ h => h.elim hminor hpatch, fun _ => rfl⟩

end Stream

namespace Digest

/-- The digest is what stands behind the first at sign of the image. -/
def Pins (digest image : String) : Prop :=
  ∃ before, '@' ∉ before ∧ image.toList = before ++ '@' :: digest.toList

private theorem dropWhile_at (cs : List Char) :
    ('@' ∉ cs ∧ cs.dropWhile (· != '@') = []) ∨
      ∃ before rest, '@' ∉ before ∧ cs = before ++ '@' :: rest
        ∧ cs.dropWhile (· != '@') = '@' :: rest := by
  induction cs with
  | nil => exact .inl ⟨List.not_mem_nil, rfl⟩
  | cons c cs ih =>
      by_cases hc : c = '@'
      · refine .inr ⟨[], cs, List.not_mem_nil, by rw [hc]; rfl, ?_⟩
        rw [hc]
        rfl
      · have hdrop : (c :: cs).dropWhile (· != '@') = cs.dropWhile (· != '@') :=
          List.dropWhile_cons_of_pos (by rw [bne_iff_ne]; exact hc)
        have hmem : ∀ {l : List Char}, '@' ∉ l → '@' ∉ c :: l := by
          intro l hl h
          rcases List.mem_cons.mp h with heq | hl'
          · exact hc heq.symm
          · exact hl hl'
        rw [hdrop]
        -- a character in front that is no at sign changes neither case
        rcases ih with ⟨hno, hd⟩ | ⟨before, rest, hno, hcs, hd⟩
        · exact .inl ⟨hmem hno, hd⟩
        · exact .inr ⟨c :: before, rest, hmem hno, by rw [hcs]; rfl, hd⟩

private theorem first_at_unique {before before' rest rest' : List Char} (h : '@' ∉ before)
    (h' : '@' ∉ before') (heq : before ++ '@' :: rest = before' ++ '@' :: rest') :
    rest = rest' := by
  induction before generalizing before' with
  | nil =>
      cases before' with
      | nil => exact List.tail_eq_of_cons_eq heq
      | cons c cs => exact absurd (List.mem_cons.mpr (.inl (List.head_eq_of_cons_eq heq))) h'
  | cons c cs ih =>
      cases before' with
      | nil => exact absurd (List.mem_cons.mpr (.inl (List.head_eq_of_cons_eq heq).symm)) h
      | cons c' cs' =>
          exact ih (fun hm => h (List.mem_cons_of_mem _ hm))
            (fun hm => h' (List.mem_cons_of_mem _ hm)) (List.tail_eq_of_cons_eq heq)

theorem ofImage_eq_some (image digest : String) :
    ofImage image = some digest ↔ Pins digest image := by
  rw [ofImage, Pins]
  rcases dropWhile_at image.toList with ⟨hno, hd⟩ | ⟨before, rest, hno, himage, hd⟩
  · rw [hd]
    constructor
    · intro h
      exact nomatch h
    · rintro ⟨before, -, himage⟩
      refine absurd ?_ hno
      rw [himage]
      exact List.mem_append_right _ (List.mem_cons_self ..)
  · rw [hd]
    constructor
    · intro h
      refine ⟨before, hno, ?_⟩
      rw [himage, ← Option.some.inj h, String.toList_ofList]
    · rintro ⟨before', hno', himage'⟩
      rw [himage] at himage'
      show some (String.ofList rest) = some digest
      rw [first_at_unique hno hno' himage', String.ofList_toList]

/-- An image without an at sign has no digest. -/
theorem ofImage_eq_none (image : String) : ofImage image = none ↔ '@' ∉ image.toList := by
  rw [ofImage]
  rcases dropWhile_at image.toList with ⟨hno, hd⟩ | ⟨before, rest, hno, himage, hd⟩
  · rw [hd]
    exact ⟨fun _ => hno, fun _ => rfl⟩
  · rw [hd]
    constructor
    · intro h
      exact nomatch h
    · intro h
      refine absurd ?_ h
      rw [himage]
      exact List.mem_append_right _ (List.mem_cons_self ..)

end Digest

end ReleaseGate
