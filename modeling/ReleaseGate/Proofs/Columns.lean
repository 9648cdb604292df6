import ReleaseGate.Proofs.Lines
import ReleaseGate.Proofs.Resolution
import ReleaseGate.Proofs.BuiltIn

/-!
# Columns — when the digests of a report stand below each other

The labels of a block are padded to one width. A label that fills the width or exceeds it leaves no
space before the digest, and it pushes the digest on; a line feed in a label makes the padding count
from another line. So the digests of a block line up just when every label is short enough and all
labels begin their last line at the same character. The widths fit the roles of the built-in
profile; roles with longer names do not line up.
-/

namespace ReleaseGate

namespace Text

/-- The number of characters behind the last line feed of a text: the column of what follows it. -/
def columnBehind (text : String) : Nat :=
  (text.toList.reverse.takeWhile (· != '\n')).length

/-- The number of characters before that: up to the last line feed, and with it. -/
def lineStart (text : String) : Nat :=
  text.toList.length - columnBehind text

theorem columnBehind_le (text : String) : columnBehind text ≤ text.toList.length := by
  have h := (List.takeWhile_prefix (l := text.toList.reverse) (· != '\n')).length_le
  rwa [List.length_reverse] at h

theorem lineStart_add_columnBehind (text : String) :
    lineStart text + columnBehind text = text.toList.length :=
  Nat.sub_add_cancel (columnBehind_le text)

/-- The last line of two texts is the one of the second, or it begins in the first. -/
theorem columnBehind_append (a b : String) :
    columnBehind (a ++ b)
      = if lineStart b = 0 then columnBehind a + b.toList.length else columnBehind b := by
  have hb := lineStart_add_columnBehind b
  rw [columnBehind, String.toList_append, List.reverse_append, List.takeWhile_append,
    List.length_reverse]
  by_cases hall : lineStart b = 0
  · rw [hall, Nat.zero_add, columnBehind] at hb
    rw [if_pos hb, if_pos hall, List.length_append, List.length_reverse, Nat.add_comm]
    rfl
  · have hnot : (b.toList.reverse.takeWhile (· != '\n')).length ≠ b.toList.length := by
      intro heq
      rw [columnBehind] at hb
      omega
    rw [if_neg hnot, if_neg hall]
    rfl

theorem lineStart_append (a b : String) :
    lineStart (a ++ b)
      = if lineStart b = 0 then lineStart a else a.toList.length + lineStart b := by
  have ha := lineStart_add_columnBehind a
  have hb := lineStart_add_columnBehind b
  have hab := lineStart_add_columnBehind (a ++ b)
  rw [columnBehind_append, String.toList_append, List.length_append] at hab
  by_cases hall : lineStart b = 0
  · rw [if_pos hall] at hab ⊢
    omega
  · rw [if_neg hall] at hab ⊢
    omega

/-- A text without a line feed is all on its last line. -/
theorem lineStart_eq_zero {text : String} : lineStart text = 0 ↔ '\n' ∉ text.toList := by
  have htext := lineStart_add_columnBehind text
  rw [columnBehind] at htext
  have hprefix := List.takeWhile_prefix (· != '\n') (l := text.toList.reverse)
  constructor
  · intro hzero hfeed
    rw [hzero, Nat.zero_add] at htext
    have hall := hprefix.eq_of_length (htext.trans List.length_reverse.symm)
    rw [List.takeWhile_eq_self_iff] at hall
    exact absurd (hall _ (List.mem_reverse.mpr hfeed)) (by decide)
  · intro h
    have hall : text.toList.reverse.takeWhile (· != '\n') = text.toList.reverse := by
      rw [List.takeWhile_eq_self_iff]
      intro c hc
      rw [bne_iff_ne]
      rintro rfl
      exact h (List.mem_reverse.mp hc)
    rw [hall, List.length_reverse] at htext
    omega

end Text

namespace Report

/-! ## Rows -/

/-- What stands before the digest of a row: a label with a colon, and a gap behind it. -/
def front (label : String) (gap : Nat) : String :=
  "  " ++ label ++ ":" ++ String.ofList (List.replicate gap ' ')

/-- A row has a gap between its label and its digest, and the digest begins in the given column. -/
def StandsAt (column : Nat) (line : String) (cell : String × Option String) : Prop :=
  ∃ gap, 0 < gap ∧ line = front cell.1 gap ++ digestOrNone cell.2
    ∧ Text.columnBehind (front cell.1 gap) = column

/-- The digests of a block of rows stand below each other, each behind a gap. -/
def LinesUp (lines : List String) (cells : List (String × Option String)) : Prop :=
  ∃ column, List.Forall₂ (StandsAt column) lines cells

theorem length_front (label : String) (gap : Nat) :
    (front label gap).toList.length = label.toList.length + gap + 3 := by
  simp [front]
  omega

/-- Only the label can begin a new line. -/
theorem lineStart_front (label : String) (gap : Nat) :
    Text.lineStart (front label gap)
      = if Text.lineStart label = 0 then 0 else 2 + Text.lineStart label := by
  have hgap : Text.lineStart (String.ofList (List.replicate gap ' ')) = 0 := by
    rw [Text.lineStart_eq_zero, String.toList_ofList]
    intro h
    exact absurd (List.eq_of_mem_replicate h) (by decide)
  have hcolon : Text.lineStart ":" = 0 := by decide
  have hindent : Text.lineStart "  " = 0 := by decide
  rw [front, Text.lineStart_append, if_pos hgap, Text.lineStart_append, if_pos hcolon,
    Text.lineStart_append, hindent]
  rfl

theorem row_eq (width : Nat) (label : String) (digest : Option String) :
    row width label digest
      = front label (width - (label.toList.length + 1)) ++ digestOrNone digest := by
  have hlength : (label ++ ":").toList.length = label.toList.length + 1 := by
    simp
  rw [row, Text.padRight, hlength, front, ← String.append_assoc, ← String.append_assoc]

/-- A row stands in a column when its label leaves a gap, and then there is one such column. -/
theorem standsAt_row {column width : Nat} {cell : String × Option String} :
    StandsAt column (row width cell.1 cell.2) cell ↔ cell.1.toList.length + 1 < width
      ∧ column + Text.lineStart (front cell.1 0) = width + 2 := by
  rw [StandsAt, row_eq]
  have hstart : ∀ gap, Text.lineStart (front cell.1 gap) = Text.lineStart (front cell.1 0) := by
    intro gap
    rw [lineStart_front, lineStart_front]
  have hcolumn : ∀ gap, Text.columnBehind (front cell.1 gap) + Text.lineStart (front cell.1 0)
      = cell.1.toList.length + gap + 3 := by
    intro gap
    rw [← hstart gap, Nat.add_comm, Text.lineStart_add_columnBehind, length_front]
  constructor
  · rintro ⟨gap, hgap, hrow, hbehind⟩
    -- the two ways to split the row have digests of equal length, so the gaps are equal
    have hlength := congrArg (fun text => text.toList.length) hrow
    simp only [String.toList_append, List.length_append, length_front] at hlength
    have hthis := hcolumn gap
    omega
  · rintro ⟨hfits, hcol⟩
    refine ⟨_, Nat.sub_pos_of_lt hfits, rfl, ?_⟩
    have hthis := hcolumn (width - (cell.1.toList.length + 1))
    omega

/-- Labels that leave a gap in a width and begin their last lines at the same character. -/
structure Fit (width : Nat) (labels : List String) : Prop where
  short : ∀ label ∈ labels, label.toList.length + 1 < width
  aligned : ∀ label ∈ labels, ∀ label' ∈ labels, Text.lineStart label = Text.lineStart label'

/-- Rows of one width line up just when their labels fit. -/
theorem linesUp_iff {width : Nat} {cells : List (String × Option String)} :
    LinesUp (cells.map fun cell => row width cell.1 cell.2) cells
      ↔ Fit width (cells.map Prod.fst) := by
  have hrows : ∀ column, List.Forall₂ (StandsAt column)
      (cells.map fun cell => row width cell.1 cell.2) cells
      ↔ ∀ cell ∈ cells, StandsAt column (row width cell.1 cell.2) cell := by
    intro column
    rw [List.forall₂_map_left_iff, List.forall₂_same]
  simp only [LinesUp, hrows, standsAt_row, lineStart_front]
  constructor
  · rintro ⟨column, h⟩
    refine ⟨List.forall_mem_map.mpr fun cell hcell => (h cell hcell).1, ?_⟩
    refine List.forall_mem_map.mpr fun cell hcell => List.forall_mem_map.mpr fun cell' hcell' => ?_
    have hcolumn := (h cell hcell).2
    have hcolumn' := (h cell' hcell').2
    split at hcolumn <;> split at hcolumn' <;> omega
  · rintro ⟨hshort, haligned⟩
    rw [List.forall_mem_map] at hshort
    cases cells with
    | nil => exact ⟨0, fun cell hcell => nomatch hcell⟩
    | cons first rest =>
        -- all stand where the first one stands
        have hmem : first ∈ first :: rest := List.mem_cons_self ..
        have hfirst := hshort first hmem
        have hlabel := Text.lineStart_add_columnBehind first.1
        refine ⟨width + 2 - if Text.lineStart first.1 = 0 then 0 else 2 + Text.lineStart first.1,
          fun cell hcell => ⟨hshort cell hcell, ?_⟩⟩
        rw [haligned _ (List.mem_map_of_mem hcell) _ (List.mem_map_of_mem hmem)]
        split <;> omega

/-! ## The two blocks of digests -/

/-- A block is a title, rows that line up and a blank line. -/
def BlockLinesUp (title : String) (lines : List String) (cells : List (String × Option String)) :
    Prop :=
  ∃ rows, lines = title :: rows ++ [""] ∧ LinesUp rows cells

/-- A block of rows of one width lines up just when its labels fit. -/
theorem blockLinesUp_iff {title : String} {width : Nat} {lines : List String}
    {cells : List (String × Option String)}
    (h : lines = title :: (cells.map fun cell => row width cell.1 cell.2) ++ [""]) :
    BlockLinesUp title lines cells ↔ Fit width (cells.map Prod.fst) := by
  rw [← linesUp_iff, BlockLinesUp]
  constructor
  · rintro ⟨rows, hrows, hlinesUp⟩
    rw [h, List.append_left_inj, List.cons_inj_right] at hrows
    rwa [hrows]
  · intro hlinesUp
    exact ⟨_, h, hlinesUp⟩

/-- The labels and digests of the snapshot's components, the bundle's at the end. -/
def digestCells (r : Required) : List (String × Option String) :=
  r.roles.map (fun given => (Text.capitalised given.1, given.2.digest))
    ++ [("Bundle", r.bundle.digest)]

theorem digestLines_eq (r : Required) : digestLines r
    = "Snapshot contains:"
      :: ((digestCells r).map fun cell => row digestWidth cell.1 cell.2) ++ [""] := by
  simp [digestLines, digestCells]

/-- The block of the snapshot has the titles of the roles for labels, and one more. -/
theorem map_fst_digestCells {s : Snapshot} {stream : Stream} {p : Profile} {r : Required}
    (h : Required.resolve s stream p = .ok r) :
    (digestCells r).map Prod.fst = p.roles.map Rule.title ++ ["Bundle"] := by
  have htitles := congrArg (List.map Text.capitalised) (Required.map_fst_of_resolve h)
  rw [List.map_map, List.map_map] at htitles
  rw [digestCells, List.map_append, List.map_map]
  exact congrArg (· ++ ["Bundle"]) htitles

/-- The label of what a rule has found. -/
def referenceLabel (r : Rule) : String :=
  r.manifest.label ++ " " ++ r.title

/-- The labels and digests of the references, in the order of the profile. -/
def referenceCells (refs : References) (p : Profile) : List (String × Option String) :=
  p.roles.map fun r => (referenceLabel r, refs.get? r.role)

theorem referenceLines_eq (refs : References) (rs : Rules) : referenceLines refs rs
    = "Bundle references:"
      :: ((referenceCells refs rs.profile).map fun cell => row referenceWidth cell.1 cell.2)
        ++ [""] := by
  rw [referenceLines, referenceCells, List.map_map]
  rfl

theorem map_fst_referenceCells (refs : References) (p : Profile) :
    (referenceCells refs p).map Prod.fst = p.roles.map referenceLabel := by
  rw [referenceCells, List.map_map]
  rfl

/-- Beside the bundle's label, titles fit when each is on one line and no wider than eight
characters. -/
theorem fit_titles (rules : List Rule) :
    Fit digestWidth (rules.map Rule.title ++ ["Bundle"]) ↔
      ∀ r ∈ rules, '\n' ∉ r.title.toList ∧ r.title.toList.length ≤ 8 := by
  have hbundle : "Bundle" ∈ rules.map Rule.title ++ ["Bundle"] :=
    List.mem_append_right _ (List.mem_singleton.mpr rfl)
  have hstart : Text.lineStart "Bundle" = 0 := by decide
  constructor
  · intro h r hr
    have htitle : r.title ∈ rules.map Rule.title ++ ["Bundle"] :=
      List.mem_append_left _ (List.mem_map_of_mem hr)
    have hshort := h.short _ htitle
    rw [digestWidth] at hshort
    exact ⟨Text.lineStart_eq_zero.mp ((h.aligned _ htitle _ hbundle).trans hstart), by omega⟩
  · intro h
    have hlabels : ∀ label ∈ rules.map Rule.title ++ ["Bundle"],
        Text.lineStart label = 0 ∧ label.toList.length ≤ 8 := by
      rw [List.forall_mem_append, List.forall_mem_map, List.forall_mem_singleton]
      refine ⟨fun r hr => ⟨Text.lineStart_eq_zero.mpr (h r hr).1, (h r hr).2⟩, hstart, by decide⟩
    refine ⟨fun label hlabel => ?_, fun label hlabel label' hlabel' => ?_⟩
    · have hshort := (hlabels label hlabel).2
      rw [digestWidth]
      omega
    · rw [(hlabels label hlabel).1, (hlabels label' hlabel').1]

/-- Labels of references fit when manifest and title together take no more than fifteen characters
and all labels begin their last lines at the same one. -/
theorem fit_referenceLabels (rules : List Rule) :
    Fit referenceWidth (rules.map referenceLabel) ↔
      (∀ r ∈ rules, r.manifest.label.toList.length + r.title.toList.length ≤ 15)
        ∧ ∀ r ∈ rules, ∀ r' ∈ rules,
          Text.lineStart (referenceLabel r) = Text.lineStart (referenceLabel r') := by
  have hlength : ∀ r : Rule, (referenceLabel r).toList.length + 1 < referenceWidth
      ↔ r.manifest.label.toList.length + r.title.toList.length ≤ 15 := by
    intro r
    have hlabel : (referenceLabel r).toList.length
        = r.manifest.label.toList.length + 1 + r.title.toList.length := by
      rw [referenceLabel, String.toList_append, List.length_append, String.toList_append,
        List.length_append]
      rfl
    rw [hlabel, referenceWidth]
    omega
  constructor
  · rintro ⟨hshort, haligned⟩
    simp only [List.forall_mem_map] at hshort haligned
    exact ⟨fun r hr => (hlength r).mp (hshort r hr), haligned⟩
  · rintro ⟨hshort, haligned⟩
    constructor
    · exact List.forall_mem_map.mpr fun r hr => (hlength r).mpr (hshort r hr)
    · simp only [List.forall_mem_map]
      exact haligned

/-- The digests of a snapshot line up just when the title of every role is on one line and no wider
than eight characters; those of the references do just when manifest and title take no more than
fifteen together and all labels begin their last lines at the same character. -/
theorem digests_lineUp_iff {p : Profile} {rs : Rules} (hrs : p.compile = .ok rs) :
    (∀ s stream r, Required.resolve s stream p = .ok r →
      (BlockLinesUp "Snapshot contains:" (digestLines r) (digestCells r) ↔
        ∀ rule ∈ p.roles, '\n' ∉ rule.title.toList ∧ rule.title.toList.length ≤ 8))
    ∧ ∀ refs, (BlockLinesUp "Bundle references:" (referenceLines refs rs) (referenceCells refs p) ↔
      (∀ rule ∈ p.roles, rule.manifest.label.toList.length + rule.title.toList.length ≤ 15)
        ∧ ∀ rule ∈ p.roles, ∀ rule' ∈ p.roles,
          Text.lineStart (referenceLabel rule) = Text.lineStart (referenceLabel rule')) := by
  obtain ⟨rfl, -⟩ := (Profile.compile_eq_ok p rs).mp hrs
  constructor
  · intro s stream r h
    rw [blockLinesUp_iff (digestLines_eq r), map_fst_digestCells h, fit_titles]
  · intro refs
    rw [blockLinesUp_iff (referenceLines_eq refs rs), map_fst_referenceCells, fit_referenceLabels]

namespace Sample

/-- A snapshot with all components of the built-in profile. -/
def complete : Snapshot :=
  ⟨"ystream", .minor, [⟨"bpfman-operator-ystream", "o@x"⟩, ⟨"bpfman-agent-ystream", "a@y"⟩,
    ⟨"bpfman-daemon-ystream", "d"⟩, ⟨"bpfman-operator-bundle-ystream", "b@z"⟩]⟩

/-- What it gives the built-in profile. -/
def given : Required :=
  ⟨[("operator", ⟨"bpfman-operator-ystream", "o@x"⟩), ("agent", ⟨"bpfman-agent-ystream", "a@y"⟩),
    ("daemon", ⟨"bpfman-daemon-ystream", "d"⟩)], ⟨"bpfman-operator-bundle-ystream", "b@z"⟩⟩

/-- A profile with a role of a longer name. -/
def proxied : Profile :=
  ⟨"/m/", "b", ⟨"c", "m"⟩, [⟨"operator", "o", .clusterServiceVersion, "o@(a+)"⟩,
    ⟨"kube-rbac-proxy", "p", .clusterServiceVersion, "p@(a+)"⟩]⟩

/-- A snapshot with all components of this profile. -/
def proxies : Snapshot :=
  ⟨"ystream", .minor, [⟨"o-ystream", "o@a"⟩, ⟨"p-ystream", "p@aa"⟩, ⟨"b-ystream", "b"⟩]⟩

/-- What it gives the profile. -/
def proxiesGiven : Required :=
  ⟨[("operator", ⟨"o-ystream", "o@a"⟩), ("kube-rbac-proxy", ⟨"p-ystream", "p@aa"⟩)],
    ⟨"b-ystream", "b"⟩⟩

/-- References to the same digests. -/
def proxyReferences : References :=
  ⟨[("operator", some "a"), ("kube-rbac-proxy", some "aa")]⟩

end Sample

/-- The roles of the built-in profile have names that fit. -/
theorem sample_digests_lineUp : ∃ rs, Profile.builtIn.compile = .ok rs
    ∧ Required.resolve Sample.complete .minor Profile.builtIn = .ok Sample.given
    ∧ BlockLinesUp "Snapshot contains:" (digestLines Sample.given) (digestCells Sample.given)
    ∧ BlockLinesUp "Bundle references:" (referenceLines .empty rs)
      (referenceCells .empty Profile.builtIn) := by
  obtain ⟨rs, hrs⟩ := Profile.exists_compile_builtIn
  have hgiven : Required.resolve Sample.complete .minor Profile.builtIn = .ok Sample.given := by
    decide
  obtain ⟨hdigests, hreferences⟩ := digests_lineUp_iff hrs
  exact ⟨rs, hrs, hgiven, (hdigests _ _ _ hgiven).mpr (by decide),
    (hreferences .empty).mpr (by decide)⟩

/-- A role of a longer name leaves no gap before its digests, in neither block. -/
theorem long_name_breaks_columns : ∃ rs, Sample.proxied.compile = .ok rs
    ∧ Required.resolve Sample.proxies .minor Sample.proxied = .ok Sample.proxiesGiven
    ∧ ¬ BlockLinesUp "Snapshot contains:" (digestLines Sample.proxiesGiven)
      (digestCells Sample.proxiesGiven)
    ∧ ¬ BlockLinesUp "Bundle references:" (referenceLines Sample.proxyReferences rs)
      (referenceCells Sample.proxyReferences Sample.proxied) := by
  have hsome : Sample.proxied.compile.toOption.isSome = true := by decide +kernel
  cases hrs : Sample.proxied.compile with
  | error f =>
      rw [hrs] at hsome
      cases hsome
  | ok rs =>
      have hprofile := ((Profile.compile_eq_ok _ _).mp hrs).1
      refine ⟨rs, rfl, by decide, ?_, ?_⟩
      · rw [blockLinesUp_iff (digestLines_eq _)]
        intro h
        have hshort := h.short "Kube-rbac-proxy" (by decide)
        exact absurd hshort (by decide)
      · rw [← hprofile, blockLinesUp_iff (referenceLines_eq _ rs), hprofile]
        intro h
        have hshort := h.short "CSV Kube-rbac-proxy" (by decide)
        exact absurd hshort (by decide)

end Report

end ReleaseGate
