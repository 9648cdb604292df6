import ReleaseGate.Report

/-!
# Lines — what stands between the line feeds of a text

A report is put together of lines, but a line may quote a text that holds line feeds of its own, and
a reader then sees more lines than were meant. Whoever wrote the text decides on all of these but
the first, which begins as the report has it. Where no such text is quoted, the lines are seen as
they were put; a role on one line has a title on one line, since no letter becomes a line feed in
upper case.
-/

namespace ReleaseGate

namespace Unicode.Upper

/-- Only the number of the line feed makes one. -/
theorem eq_of_ofNat_eq_lineFeed {n : Nat} (h : Char.ofNat n = '\n') : n = 10 := by
  by_cases hvalid : n.isValidChar
  · rw [Char.ofNat, dif_pos hvalid] at h
    exact congrArg Char.toNat h
  · -- a number that is no character stands for the one with the number zero
    rw [Char.ofNat, dif_neg hvalid] at h
    exact absurd h (by decide)

/-- No other character becomes a line feed in upper case. -/
theorem not_mem_upper {c : Char} (h : c ≠ '\n') : '\n' ∉ upper c := by
  intro hmem
  rw [upper] at hmem
  by_cases hascii : c.toNat < 0x80
  · rw [if_pos hascii, List.mem_singleton] at hmem
    have hall : ∀ n < 0x80, '\n' = (Char.ofNat n).toUpper → Char.ofNat n = '\n' := by decide
    have hc := hall c.toNat hascii
    rw [Char.ofNat_toNat] at hc
    exact h (hc hmem)
  rw [if_neg hascii] at hmem
  -- beyond ASCII, neither the images in the tables nor what is left as it is can be one
  match hseveral : several.lookup c.toNat with
  | some images =>
      have hnone : ∀ entry ∈ several, 10 ∉ entry.2 := by decide +kernel
      rw [hseveral] at hmem
      obtain ⟨image, himage, heq⟩ := List.mem_map.mp hmem
      obtain ⟨before, after, hsplit, -⟩ := List.lookup_eq_some_iff.mp hseveral
      have hentry : (c.toNat, images) ∈ several :=
        hsplit ▸ List.mem_append_right before (List.mem_cons_self ..)
      exact hnone _ hentry (eq_of_ofNat_eq_lineFeed heq ▸ himage)
  | none =>
      rw [hseveral] at hmem
      dsimp only at hmem
      match hseries : series.find? fun s => s.contains c.toNat with
      | some s =>
          have hbehind : ∀ s ∈ series, 10 < s.image := by decide +kernel
          rw [hseries] at hmem
          have hten := eq_of_ofNat_eq_lineFeed (List.mem_singleton.mp hmem).symm
          have himage := hbehind s (List.mem_of_find?_eq_some hseries)
          rw [Series.imageOf] at hten
          omega
      | none =>
          rw [hseries] at hmem
          exact h (List.mem_singleton.mp hmem).symm

end Unicode.Upper

namespace Text

/-- A name that stands on one line does so with its first character in upper case. -/
theorem not_mem_capitalised {s : String} (h : '\n' ∉ s.toList) : '\n' ∉ (capitalised s).toList := by
  rw [capitalised]
  match hs : s.toList with
  | [] => exact List.not_mem_nil
  | c :: rest =>
      rw [hs] at h
      obtain ⟨hc, hrest⟩ := List.ne_and_not_mem_of_not_mem_cons h
      dsimp only
      rw [String.toList_ofList, List.mem_append]
      exact not_or.mpr ⟨Unicode.Upper.not_mem_upper hc.symm, hrest⟩

/-- The lines of a text: what stands before its first line feed, between two and behind the last. -/
def linesOf (text : String) : List String :=
  (text.toList.splitOn '\n').map String.ofList

/-- A text without a line feed is its only line. -/
theorem linesOf_of_not_mem {text : String} (h : '\n' ∉ text.toList) : linesOf text = [text] := by
  have hsplit : text.toList.splitOn '\n' = [text.toList] := by
    rw [List.splitOn_eq_splitOnP]
    refine List.splitOnP_eq_singleton fun c hc => beq_eq_false_iff_ne.mpr ?_
    rintro rfl
    exact h hc
  rw [linesOf, hsplit, List.map_singleton, String.ofList_toList]

/-- A line feed parts the lines before it from those behind it. -/
theorem linesOf_append_lineFeed (a b : String) :
    linesOf (a ++ "\n" ++ b) = linesOf a ++ linesOf b := by
  have hfeed : (a ++ "\n" ++ b).toList = a.toList ++ '\n' :: b.toList := by
    simp
  rw [linesOf, linesOf, linesOf, hfeed, ← List.map_append]
  simp only [List.splitOn_eq_splitOnP]
  rw [List.splitOnP_append_cons (p := fun c => c == '\n') _ _ rfl]

/-- Characters in front that are no line feeds make the first line longer and leave the others. -/
theorem exists_splitOn_append {a : List Char} (h : '\n' ∉ a) (b : List Char) :
    ∃ first, (a ++ b).splitOn '\n' = (a ++ first) :: (b.splitOn '\n').tail := by
  induction a with
  | nil =>
      rw [List.nil_append]
      exact ⟨_, (List.cons_head_tail (List.splitOn_ne_nil '\n' b)).symm⟩
  | cons c a ih =>
      obtain ⟨hc, ha⟩ := List.ne_and_not_mem_of_not_mem_cons h
      obtain ⟨first, hfirst⟩ := ih ha
      refine ⟨first, ?_⟩
      have hne : ¬ (c == '\n') = true := fun heq => hc (beq_iff_eq.mp heq).symm
      have hcons := List.splitOnP_cons_eq_if_modifyHead (p := fun c => c == '\n') c (a ++ b)
      rw [if_neg hne, ← List.splitOn_eq_splitOnP, ← List.splitOn_eq_splitOnP, hfirst] at hcons
      exact hcons

/-- So a line that does not begin with them is one of the other lines. -/
theorem mem_linesOf_append {a line : String} (h : '\n' ∉ a.toList)
    (hline : ¬ a.toList <+: line.toList) (b : String) :
    line ∈ linesOf (a ++ b) ↔ line ∈ (linesOf b).tail := by
  obtain ⟨first, hfirst⟩ := exists_splitOn_append h b.toList
  rw [linesOf, linesOf, String.toList_append, hfirst, List.map_cons, List.map_tail, List.mem_cons]
  refine or_iff_right fun heq => hline ?_
  rw [heq, String.toList_ofList]
  exact List.prefix_append ..

/-- Texts are joined on one line when none of them holds a line feed. -/
theorem not_mem_joined {separator : String} (h : '\n' ∉ separator.toList) {texts : List String}
    (htexts : ∀ text ∈ texts, '\n' ∉ text.toList) : '\n' ∉ (joined separator texts).toList := by
  induction texts with
  | nil => exact List.not_mem_nil
  | cons text texts ih =>
      obtain ⟨htext, hrest⟩ := List.forall_mem_cons.mp htexts
      cases texts with
      | nil => exact htext
      | cons text' texts =>
          rw [joined]
          · simp [htext, h, ih hrest]
          · exact fun h => nomatch h

end Text

namespace Report

/-- The lines that a report is put together of are seen line by line, and then what follows. -/
theorem linesOf_ofLines_append (lines : List String) (text : String) :
    Text.linesOf (ofLines lines ++ text) = lines.flatMap Text.linesOf ++ Text.linesOf text := by
  induction lines with
  | nil => simp [ofLines]
  | cons line lines ih =>
      have hcons : ofLines (line :: lines) = line ++ "\n" ++ ofLines lines := String.join_cons
      rw [hcons, String.append_assoc, Text.linesOf_append_lineFeed, ih,
        List.flatMap_cons, List.append_assoc]

/-- Lines without line feeds are seen as they are, and an empty text behind them. -/
theorem linesOf_ofLines {lines : List String} (h : ∀ line ∈ lines, '\n' ∉ line.toList) :
    Text.linesOf (ofLines lines) = lines ++ [""] := by
  have hlines : lines.flatMap Text.linesOf = lines := by
    induction lines with
    | nil => rfl
    | cons line lines ih =>
        obtain ⟨hline, hrest⟩ := List.forall_mem_cons.mp h
        rw [List.flatMap_cons, Text.linesOf_of_not_mem hline, ih hrest]
        rfl
  rw [← String.append_empty (s := ofLines lines), linesOf_ofLines_append, hlines,
    Text.linesOf_of_not_mem List.not_mem_nil]

end Report

end ReleaseGate
