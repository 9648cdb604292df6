import ReleaseGate.Proofs.Rendered
import ReleaseGate.Proofs.Snapshots

/-!
# Snapshots are read as they were written

A snapshot is written as one object with the application and the list of its components, each an
object with a name and an image. Names, images and the application may be any text. Reading gives
back the application and the components one by one, and where a name comes a second time, it is this
name that is reported.
-/

namespace ReleaseGate

open Json

/-! ## Texts of snapshots -/

/-- The text of a component, with its members sorted by key or with the name first. -/
def Component.text (sorted : Bool) (c : Component) : List Char :=
  if sorted then braced [("containerImage", quoted c.image), ("name", quoted c.name)]
  else braced [("name", quoted c.name), ("containerImage", quoted c.image)]

namespace Snapshot

/-- The text of a snapshot; its own members are in the same order whether sorted or not. -/
def textOf (sorted : Bool) (application : String) (components : List Component) : String :=
  String.ofList (braced
    [("application", quoted application),
      ("components", listed (components.map (Component.text sorted)))])

end Snapshot

/-! ## Values of snapshots -/

namespace Json

theorem Reads.mono {depth depth' : Nat} {text : List Char} {v : Json} (h : Reads depth text v)
    (hle : depth ≤ depth') : Reads depth' text v :=
  ⟨h.starts, fun stack hdepth => h.passes stack (by omega)⟩

/-- Two members come to stand in the order of their keys, in whatever order they are written. -/
theorem ofMembers_pair {key key' : String} (h : key < key') (v v' : Json) :
    ofMembers [(key, v), (key', v')] = .object [(key, v), (key', v')]
      ∧ ofMembers [(key', v'), (key, v)] = .object [(key, v), (key', v')] := by
  have hasym : ¬ key' < key := String.lt_asymm h
  have hne : key' ≠ key := fun heq => String.lt_irrefl key (heq ▸ h)
  constructor
  · simp [ofMembers, put, hasym, hne]
  · simp [ofMembers, put, h]

end Json

/-- The value of a component. -/
def Component.value (c : Component) : Json :=
  .object [("containerImage", .string c.image), ("name", .string c.name)]

theorem Component.reads_text (sorted : Bool) (c : Component) :
    Reads 1 (c.text sorted) c.value := by
  have himage : ReadsMember 0 ("containerImage", quoted c.image)
      ("containerImage", .string c.image) := ⟨rfl, reads_quoted c.image⟩
  have hname : ReadsMember 0 ("name", quoted c.name) ("name", .string c.name) :=
    ⟨rfl, reads_quoted c.name⟩
  have hlt : "containerImage" < "name" := by decide
  obtain ⟨hsorted, hgiven⟩ := ofMembers_pair hlt (.string c.image) (.string c.name)
  cases sorted with
  | true =>
      have h := reads_braced (.cons himage (.cons hname .nil))
      rw [hsorted] at h
      exact h
  | false =>
      have h := reads_braced (.cons hname (.cons himage .nil))
      rw [hgiven] at h
      exact h

namespace Snapshot

/-- The value of a snapshot. -/
def value (application : String) (components : List Component) : Json :=
  .object [("application", .string application),
    ("components", .array (components.map Component.value))]

theorem read_textOf (sorted : Bool) (application : String) (components : List Component) :
    Json.read (textOf sorted application components) = .ok (value application components) := by
  have hitems : List.Forall₂ (Reads 1) (components.map (Component.text sorted))
      (components.map Component.value) := by
    rw [List.forall₂_map_left_iff, List.forall₂_map_right_iff]
    exact List.forall₂_same.mpr fun c _ => c.reads_text sorted
  have happ : ReadsMember 2 ("application", quoted application)
      ("application", .string application) :=
    ⟨rfl, (reads_quoted application).mono (Nat.zero_le 2)⟩
  have hcomponents : ReadsMember 2
      ("components", listed (components.map (Component.text sorted)))
      ("components", .array (components.map Component.value)) := ⟨rfl, reads_listed hitems⟩
  have hlt : "application" < "components" := by decide
  have hobject := reads_braced (.cons happ (.cons hcomponents .nil))
  rw [(ofMembers_pair hlt _ _).1] at hobject
  exact read_of_reads hobject (by decide)

theorem isDocument_value (application : String) (components : List Component) :
    IsDocument (value application components)
      ⟨application, components.map Component.entry⟩ := by
  refine .object (.text application) (.array ?_)
  rw [List.forall₂_map_left_iff, List.forall₂_map_right_iff]
  exact List.forall₂_same.mpr fun c _ => .object (.text c.name) (.text c.image)

/-- What is read of the text of a snapshot is made of its document. -/
theorem read_textOf_snd (sorted : Bool) (application : String) (components : List Component) :
    (read (textOf sorted application components)).2
      = (ofDocument ⟨application, components.map Component.entry⟩).2 := by
  rw [read, read_textOf]
  dsimp only
  rw [(ofJson_eq_ok _ _).mpr (isDocument_value application components)]

/-! ## Reading them back -/

theorem entry_injective : Function.Injective Component.entry := by
  intro c c' h
  have hname : c.name = c'.name := Option.some.inj (congrArg Entry.name h)
  have himage : c.image = c'.image := Option.some.inj (congrArg Entry.image h)
  cases c
  cases c'
  exact congrArg₂ Component.mk hname himage

/-- Where components have a first defect, it is a name that comes a second time. -/
theorem repeated_of_firstDefect {components : List Component} {d : Defect}
    (h : FirstDefect (components.map Component.entry) d) :
    ∃ before c after, components = before ++ c :: after ∧ (before.map Component.name).Nodup
      ∧ c.name ∈ before.map Component.name ∧ d = .repeatedName c.name := by
  obtain ⟨before, entry, after, hentries, hnodup, hdefect⟩ := h
  obtain ⟨first, rest, rfl, hfirst, hrest⟩ := List.map_eq_append_iff.mp hentries
  obtain rfl := List.map_injective_iff.mpr entry_injective hfirst
  obtain ⟨c, later, rfl, rfl, -⟩ := List.map_eq_cons_iff.mp hrest
  refine ⟨first, c, later, rfl, hnodup, ?_⟩
  -- an entry of a component lacks nothing
  generalize hentry : c.entry = e at hdefect
  cases hdefect with
  | noName => cases hentry
  | noImage => cases hentry
  | repeatedName hmem =>
      rw [entry_injective hentry]
      exact ⟨hmem, rfl⟩

/-- What is written with distinct names is read back as it was, and otherwise the first name that
comes a second time is reported. -/
theorem written_read_back (sorted : Bool) (application : String) (components : List Component)
    (h : Text.Holds application "ystream" ∨ Text.Holds application "zstream") :
    ((components.map Component.name).Nodup →
      ∃ stream, Stream.detect application = some stream
        ∧ (read (textOf sorted application components)).2 = .ok ⟨application, stream, components⟩)
    ∧ (¬ (components.map Component.name).Nodup →
      ∃ before c after, components = before ++ c :: after ∧ (before.map Component.name).Nodup
        ∧ c.name ∈ before.map Component.name
        ∧ (read (textOf sorted application components)).2
          = .error (.malformedSnapshot ("duplicate component name: " ++ c.name))) := by
  rw [read_textOf_snd]
  have hmarked : (Document.mk application (components.map Component.entry)).Marked := h
  constructor
  · intro hnodup
    cases hstream : Stream.detect application with
    | none => exact absurd h ((Stream.detect_eq_none application).mp hstream)
    | some stream =>
        exact ⟨stream, rfl, (ofDocument_eq_ok _ _).mpr ⟨rfl, hstream, rfl, hnodup⟩⟩
  · intro hrepeated
    cases hread : (ofDocument ⟨application, components.map Component.entry⟩).2 with
    | ok s =>
        obtain ⟨-, -, hentries, hnodup⟩ := (ofDocument_eq_ok _ s).mp hread
        rw [List.map_injective_iff.mpr entry_injective hentries] at hrepeated
        exact absurd hnodup hrepeated
    | error f =>
        rcases (ofDocument_eq_error _ f).mp hread with ⟨hno, -⟩ | ⟨-, d, hdefect, rfl⟩
        · exact absurd hmarked hno
        · obtain ⟨before, c, after, hsplit, hnodup, hmem, rfl⟩ := repeated_of_firstDefect hdefect
          exact ⟨before, c, after, hsplit, hnodup, hmem, rfl⟩

theorem sample_written_read_back :
    (Text.Holds "a ystream" "ystream" ∨ Text.Holds "a ystream" "zstream")
      ∧ (∃ stream, (read (textOf true "a ystream" [⟨"say \"a\"\n", "\\b"⟩, ⟨"c", "é"⟩])).2
        = .ok ⟨"a ystream", stream, [⟨"say \"a\"\n", "\\b"⟩, ⟨"c", "é"⟩]⟩)
      ∧ ∃ f, (read (textOf false "a ystream" [⟨"a", "b"⟩, ⟨"a", "c"⟩])).2 = .error f := by
  have hmark : Text.Holds "a ystream" "ystream" ∨ Text.Holds "a ystream" "zstream" :=
    .inl (by rw [← Text.contains_iff]; decide)
  obtain ⟨stream, -, hread⟩ := (written_read_back true "a ystream"
    [⟨"say \"a\"\n", "\\b"⟩, ⟨"c", "é"⟩] hmark).1 (by decide)
  obtain ⟨_, _, _, -, -, -, herror⟩ := (written_read_back false "a ystream"
    [⟨"a", "b"⟩, ⟨"a", "c"⟩] hmark).2 (by decide)
  exact ⟨hmark, ⟨stream, hread⟩, _, herror⟩

end Snapshot

end ReleaseGate
