import ReleaseGate.Proofs.DigestForms
import ReleaseGate.Proofs.SnapshotTexts

/-!
# Remarks — what is said of the digests while a snapshot is read

The entries of a document are taken one by one, and each component is remarked on as it is made. So
the events of a reading are the remarks on the components in front of the first entry that makes
none, in the order of the document, and a closing event when all entries make components. What is
remarked depends on the images, and what the reading comes to does not: documents with the same
names in the same places come to the same, whatever their images are.
-/

namespace ReleaseGate.Snapshot

/-! ## One component -/

/-- The warning that a digest has an unexpected form. -/
def warning (c : Component) (digest : String) : Event :=
  ⟨.warn, "Component " ++ c.name ++ " carries an unexpected digest: " ++ digest⟩

/-- The events that the image of a component gives rise to: a warning when it is pinned by a digest
of an unexpected form, and a note when it is not pinned. -/
inductive Noted (c : Component) : List Event → Prop where
  | expected {digest : String} :
      Digest.Pins digest c.image → Digest.Expected digest → Noted c []
  | unexpected {digest : String} :
      Digest.Pins digest c.image → ¬ Digest.Expected digest →
      Noted c [warning c digest]
  | unpinned :
      '@' ∉ c.image.toList →
      Noted c [⟨.debug, "Component " ++ c.name ++ " is not pinned by digest"⟩]

theorem remark_of_pins {c : Component} {digest : String} (h : Digest.Pins digest c.image) :
    remark c = if Digest.isSha256 digest then [] else [warning c digest] := by
  have hdigest : c.digest = some digest := (Digest.ofImage_eq_some _ _).mpr h
  simp only [remark, hdigest, warning]

/-- The remark on a component is what its image gives rise to, and nothing else is. -/
theorem noted_iff {c : Component} {notes : List Event} : Noted c notes ↔ remark c = notes := by
  constructor
  · intro h
    cases h with
    | expected hpins hform =>
        rw [remark_of_pins hpins, if_pos (Digest.isSha256_iff_expected.mpr hform)]
    | unexpected hpins hform =>
        rw [remark_of_pins hpins, if_neg fun h => hform (Digest.isSha256_iff_expected.mp h)]
    | unpinned hsign =>
        have hdigest : c.digest = none := (Digest.ofImage_eq_none _).mpr hsign
        simp only [remark, hdigest]
  · rintro rfl
    cases hdigest : c.digest with
    | none =>
        simp only [remark, hdigest]
        exact .unpinned ((Digest.ofImage_eq_none _).mp hdigest)
    | some digest =>
        have hpins := (Digest.ofImage_eq_some _ _).mp hdigest
        rw [remark_of_pins hpins]
        by_cases hform : Digest.isSha256 digest = true
        · rw [if_pos hform]
          exact .expected hpins (Digest.isSha256_iff_expected.mp hform)
        · rw [if_neg hform]
          exact .unexpected hpins fun h => hform (Digest.isSha256_iff_expected.mpr h)

/-! ## All components -/

/-- A component is remarked on when it is made, and then the entries behind it are taken. -/
theorem componentsOf_entry {seen : List String} {c : Component} (h : c.name ∉ seen) (place : Nat)
    (entries : List Entry) : componentsOf seen place (c.entry :: entries) =
      (remark c ++ (componentsOf (c.name :: seen) (place + 1) entries).1,
        (componentsOf (c.name :: seen) (place + 1) entries).2.map (c :: ·)) := by
  rw [componentsOf, (componentOf_eq_ok seen place c.entry c).mpr ⟨rfl, h⟩]

/-- Components with new names are remarked on in their order, and what comes behind them is told
afterwards. -/
theorem events_of_entries (cs : List Component) (entries : List Entry) :
    ∀ (seen : List String) (place : Nat), Fresh seen (cs.map Component.name) →
      (componentsOf seen place (cs.map Component.entry ++ entries)).1
        = (cs.map remark).flatten ++ (componentsOf ((cs.map Component.name).reverse ++ seen)
          (place + cs.length) entries).1 := by
  induction cs with
  | nil =>
      intro seen place _
      rfl
  | cons c cs ih =>
      intro seen place hfresh
      obtain ⟨hnew, hfresh⟩ := fresh_cons.mp hfresh
      -- the component in front is counted and remembered before the others are taken
      have hplace : place + (c :: cs).length = place + 1 + cs.length := by
        rw [List.length_cons]
        omega
      rw [List.map_cons, List.cons_append, componentsOf_entry hnew, ih _ _ hfresh, hplace]
      simp only [List.map_cons, List.flatten_cons, List.append_assoc, List.reverse_cons,
        List.singleton_append]

/-- Where an entry makes no component, nothing more is told. -/
theorem events_of_defect {seen : List String} {place : Nat} {entry : Entry} {d : Defect}
    (h : IsDefect seen place entry d) (after : List Entry) :
    (componentsOf seen place (entry :: after)).1 = [] := by
  rw [componentsOf, (componentOf_eq_error seen place entry d).mpr h]

theorem forall₂_noted_iff {cs : List Component} {notes : List (List Event)} :
    List.Forall₂ Noted cs notes ↔ cs.map remark = notes := by
  have hnoted : Noted = fun c notes => remark c = notes := by
    funext c notes
    exact propext noted_iff
  rw [hnoted, ← List.forall₂_map_left_iff (R := Eq), List.forall₂_eq_eq_eq]

/-! ## A document -/

/-- The events of a reading and what it comes to, for a document whose application has a mark. -/
inductive Told (doc : Document) : List Event → Except Failure Snapshot → Prop where
  /-- All entries make components. -/
  | parsed {s : Snapshot} {notes : List (List Event)} :
      s.application = doc.application → Stream.detect doc.application = some s.stream →
      doc.entries = s.components.map Component.entry → s.names.Nodup →
      List.Forall₂ Noted s.components notes →
      Told doc
        (notes.flatten ++ [⟨.debug, "Parsed snapshot " ++ doc.application ++ " (" ++ s.stream.name
          ++ ") with " ++ toString s.components.length ++ " components"⟩])
        (.ok s)
  /-- An entry makes none, and all in front of it do. -/
  | stopped {before : List Component} {entry : Entry} {after : List Entry} {d : Defect}
      {notes : List (List Event)} :
      doc.entries = before.map Component.entry ++ entry :: after →
      (before.map Component.name).Nodup →
      IsDefect (before.map Component.name) before.length entry d →
      List.Forall₂ Noted before notes →
      Told doc notes.flatten (.error (.malformedSnapshot d.reason))

variable {doc : Document} {events : List Event} {result : Except Failure Snapshot}

theorem Document.Marked.exists_stream (h : doc.Marked) :
    ∃ stream, Stream.detect doc.application = some stream := by
  refine Option.ne_none_iff_exists'.mp fun hnone => ?_
  exact (Stream.detect_eq_none doc.application).mp hnone h

theorem ofDocument_of_told (hmark : doc.Marked) (h : Told doc events result) :
    ofDocument doc = (events, result) := by
  cases h with
  | @parsed s notes happ hstream hentries hnodup hnotes =>
      have hfresh := (fresh_of_nothing_seen _).mpr hnodup
      have hevents := events_of_entries s.components [] [] 0 hfresh
      rw [forall₂_noted_iff.mp hnotes, List.append_nil, ← hentries] at hevents
      have hresult := (componentsOf_eq_ok doc.entries [] 0 s.components).mpr ⟨hentries, hfresh⟩
      have hboth : componentsOf [] 0 doc.entries = (notes.flatten, .ok s.components) :=
        Prod.ext (hevents.trans (List.append_nil _)) hresult
      rw [ofDocument, hstream, hboth, ← happ]
      rfl
  | @stopped before entry after d notes hentries hnodup hdefect hnotes =>
      obtain ⟨stream, hstream⟩ := hmark.exists_stream
      have hevents := events_of_entries before (entry :: after) [] 0
        ((fresh_of_nothing_seen _).mpr hnodup)
      -- the names are remembered in reverse, which makes no difference to a defect
      have hreversed : IsDefect ((before.map Component.name).reverse ++ []) (0 + before.length)
          entry d := by
        rw [List.append_nil, Nat.zero_add]
        exact hdefect.congr fun name => List.mem_reverse.symm
      rw [forall₂_noted_iff.mp hnotes, events_of_defect hreversed, ← hentries,
        List.append_nil] at hevents
      have hresult := (componentsOf_eq_error_iff doc.entries d).mpr
        ⟨before, entry, after, hentries, hnodup, hdefect⟩
      have hboth : componentsOf [] 0 doc.entries = (notes.flatten, .error d) :=
        Prod.ext hevents hresult
      rw [ofDocument, hstream, hboth]

theorem exists_told (hmark : doc.Marked) : ∃ events result, Told doc events result := by
  obtain ⟨stream, hstream⟩ := hmark.exists_stream
  cases hresult : (componentsOf [] 0 doc.entries).2 with
  | ok cs =>
      obtain ⟨hentries, hfresh⟩ := (componentsOf_eq_ok _ _ _ _).mp hresult
      exact ⟨_, _, .parsed (s := ⟨doc.application, stream, cs⟩) rfl hstream hentries
        ((fresh_of_nothing_seen _).mp hfresh) (forall₂_noted_iff.mpr rfl)⟩
  | error d =>
      obtain ⟨before, entry, after, hentries, hnodup, hdefect⟩ :=
        (componentsOf_eq_error_iff _ _).mp hresult
      exact ⟨_, _, .stopped hentries hnodup hdefect (forall₂_noted_iff.mpr rfl)⟩

theorem told_iff (hmark : doc.Marked) :
    Told doc events result ↔ ofDocument doc = (events, result) := by
  refine ⟨ofDocument_of_told hmark, fun h => ?_⟩
  -- something is told of every such document, and it is what is read
  obtain ⟨events', result', htold⟩ := exists_told hmark
  obtain ⟨rfl, rfl⟩ := Prod.mk.inj ((ofDocument_of_told hmark htold).symm.trans h)
  exact htold

/-- No remark reads like a closing event. -/
theorem Noted.summary_not_mem {c : Component} {notes : List Event} (h : Noted c notes)
    (s : Snapshot) : summary s ∉ notes := by
  -- they differ in their first letters
  have hletter : ∀ e ∈ notes, e.message.toList.head? = some 'C' := by
    cases h <;> simp [warning]
  intro hmem
  have hclash := hletter _ hmem
  simp [summary] at hclash

/-- The closing event is there just when a snapshot is. -/
theorem Told.summary_mem_iff (h : Told doc events result) :
    (∃ s, summary s ∈ events) ↔ ∃ s, result = .ok s := by
  cases h with
  | @parsed s notes happ =>
      rw [← happ]
      exact ⟨fun _ => ⟨s, rfl⟩, fun _ => ⟨s, List.mem_append_right _ (List.mem_singleton_self _)⟩⟩
  | @stopped before entry after d notes _ _ _ hnotes =>
      constructor
      · rintro ⟨s, hs⟩
        rw [← forall₂_noted_iff.mp hnotes, ← List.flatMap_def] at hs
        obtain ⟨c, -, hmem⟩ := List.mem_flatMap.mp hs
        exact absurd hmem ((noted_iff.mpr rfl).summary_not_mem s)
      · rintro ⟨s, hs⟩
        cases hs

/-! ## Documents that differ in their images -/

/-- Two entries with the same name, if any, that have an image or have none. -/
structure Entry.Alike (e e' : Entry) : Prop where
  name : e.name = e'.name
  image : e.image.isSome = e'.image.isSome

/-- Two documents of the same application whose entries are alike. -/
structure Document.Alike (doc doc' : Document) : Prop where
  application : doc.application = doc'.application
  entries : List.Forall₂ Entry.Alike doc.entries doc'.entries

/-- A snapshot without the images of its components. -/
def outline (s : Snapshot) : String × Stream × List String :=
  (s.application, s.stream, s.names)

/-- Which component an entry makes, by its name, does not depend on the image. -/
theorem componentOf_alike (seen : List String) (place : Nat) {e e' : Entry} (h : e.Alike e') :
    (componentOf seen place e).map Component.name
      = (componentOf seen place e').map Component.name := by
  obtain ⟨name, image⟩ := e
  obtain ⟨name', image'⟩ := e'
  obtain ⟨rfl, himage⟩ : name = name' ∧ image.isSome = image'.isSome := ⟨h.name, h.image⟩
  cases name with
  | none => rfl
  | some name =>
      match image, image', himage with
      | none, none, _ => rfl
      | some image, some image', _ =>
          simp only [componentOf]
          by_cases hseen : name ∈ seen
          · rw [if_pos hseen, if_pos hseen]
          · rw [if_neg hseen, if_neg hseen]
            rfl

/-- The names of the components are those of the entries, one after the other. -/
theorem names_componentsOf_cons (seen : List String) (place : Nat) (entry : Entry)
    (entries : List Entry) :
    (componentsOf seen place (entry :: entries)).2.map (List.map Component.name)
      = ((componentOf seen place entry).map Component.name).bind fun name =>
          ((componentsOf (name :: seen) (place + 1) entries).2.map
            (List.map Component.name)).map (name :: ·) := by
  rw [componentsOf]
  cases componentOf seen place entry with
  | error d => rfl
  | ok c =>
      dsimp only
      cases hrest : (componentsOf (c.name :: seen) (place + 1) entries).2 with
      | error d => simp [Except.map, Except.bind, hrest]
      | ok cs => simp [Except.map, Except.bind, hrest]

theorem componentsOf_alike {entries entries' : List Entry}
    (h : List.Forall₂ Entry.Alike entries entries') : ∀ (seen : List String) (place : Nat),
      (componentsOf seen place entries).2.map (List.map Component.name)
        = (componentsOf seen place entries').2.map (List.map Component.name) := by
  induction h with
  | nil =>
      intro seen place
      rfl
  | cons hfirst _ ih =>
      intro seen place
      simp only [names_componentsOf_cons, componentOf_alike seen place hfirst, ih]

/-- A snapshot without its images is made of the names of the components. -/
theorem outline_ofDocument {stream : Stream}
    (h : Stream.detect doc.application = some stream) : (ofDocument doc).2.map outline =
      (((componentsOf [] 0 doc.entries).2.map (List.map Component.name)).map fun names =>
        (doc.application, stream, names)).mapError fun d => .malformedSnapshot d.reason := by
  rw [ofDocument, h]
  cases componentsOf [] 0 doc.entries with
  | mk events result =>
      cases result with
      | error d => rfl
      | ok cs => rfl

/-- Documents that are alike make the same snapshot, but for the images, or fail alike. -/
theorem ofDocument_alike {doc' : Document} (h : doc.Alike doc') :
    (ofDocument doc).2.map outline = (ofDocument doc').2.map outline := by
  cases hstream : Stream.detect doc.application with
  | none => simp only [ofDocument, ← h.application, hstream]
  | some stream =>
      have hstream' := h.application ▸ hstream
      rw [outline_ofDocument hstream, outline_ofDocument hstream', h.application,
        componentsOf_alike h.entries]

/-! ## Texts -/

theorem read_of_isDocument {raw : String} {v : Json} (hv : Json.read raw = .ok v)
    (hdoc : IsDocument v doc) : read raw = ofDocument doc := by
  rw [read, hv]
  dsimp only
  rw [(ofJson_eq_ok v doc).mpr hdoc]

/-- Once the entries of a text are reached, its reading tells of each component in front of the
first entry that makes none, and closes with their number just when a snapshot is made. The form of
a digest is that of the pattern, so whatever is odd about a digest is told. And nothing of this
changes what the reading comes to. -/
theorem read_told_exactly {raw : String} {v : Json} (hv : Json.read raw = .ok v)
    (hdoc : IsDocument v doc) (hmark : doc.Marked) :
    (∀ events result, Told doc events result ↔ read raw = (events, result))
      ∧ ((∃ s, summary s ∈ (read raw).1) ↔ ∃ s, (read raw).2 = .ok s)
      ∧ (∃ p, Pattern.compile Digest.form = .ok p
          ∧ ∀ digest, p.Occurs digest ↔ Digest.Expected digest)
      ∧ (∀ (c : Component) (digest : String), Digest.Pins digest c.image → Digest.Odd digest →
          Noted c [warning c digest])
      ∧ ∀ raw' v' doc', Json.read raw' = .ok v' → IsDocument v' doc' → doc.Alike doc' →
          (read raw).2.map outline = (read raw').2.map outline := by
  rw [read_of_isDocument hv hdoc]
  refine ⟨fun events result => told_iff hmark, ?_, Digest.exists_compile_form, ?_, ?_⟩
  · exact ((told_iff hmark).mpr rfl).summary_mem_iff
  · intro c digest hpins hodd
    exact .unexpected hpins (Digest.not_expected_of_odd hodd)
  · intro raw' v' doc' hv' hdoc' halike
    rw [read_of_isDocument hv' hdoc']
    exact ofDocument_alike halike

namespace Sample

/-- Components with a digest as expected, one with a line feed behind it and none at all, and then
one whose name is repeated. -/
def flawed : List Component :=
  [⟨"a", "r@sha256:0b"⟩, ⟨"b", "r@sha256:0b\n"⟩, ⟨"c", "r"⟩, ⟨"a", "r@"⟩, ⟨"d", "r@"⟩]

/-- Components with the same names and other images. -/
def unpinned : List Component :=
  [⟨"a", ""⟩, ⟨"b", ""⟩, ⟨"c", ""⟩, ⟨"a", ""⟩, ⟨"d", ""⟩]

end Sample

theorem sample_read_told_exactly :
    read (textOf true "ystream" Sample.flawed)
        = ([⟨.warn, "Component b carries an unexpected digest: sha256:0b\n"⟩,
            ⟨.debug, "Component c is not pinned by digest"⟩],
          .error (.malformedSnapshot "duplicate component name: a"))
      ∧ (read (textOf true "ystream" Sample.flawed)).2.map outline
        = (read (textOf true "ystream" Sample.unpinned)).2.map outline
      ∧ read (textOf true "ystream" [⟨"a", "r@"⟩])
        = ([⟨.warn, "Component a carries an unexpected digest: "⟩,
            ⟨.debug, "Parsed snapshot ystream (ystream) with 1 components"⟩],
          .ok ⟨"ystream", .minor, [⟨"a", "r@"⟩]⟩) := by
  have hholds : Text.Holds "ystream" "ystream" := by
    rw [← Text.contains_iff]
    decide
  have htold := fun components => read_told_exactly (read_textOf true "ystream" components)
    (isDocument_value "ystream" components) (.inl hholds)
  obtain ⟨hflawed, -, -, hodd, halike⟩ := htold Sample.flawed
  have hpinned : Digest.Pins "sha256:0b" "r@sha256:0b" := ⟨['r'], by decide, rfl⟩
  have hexpected : Digest.Expected "sha256:0b" := Digest.isSha256_iff_expected.mp (by decide)
  have hnotes : List.Forall₂ Noted (Sample.flawed.take 3)
      [[], [warning ⟨"b", "r@sha256:0b\n"⟩ "sha256:0b\n"],
        [⟨.debug, "Component c is not pinned by digest"⟩]] :=
    .cons (.expected hpinned hexpected)
      (.cons (hodd _ _ ⟨['r'], by decide, rfl⟩ (.lineFeed (by decide)))
        (.cons (.unpinned (by decide)) .nil))
  have hempty : List.Forall₂ Noted [⟨"a", "r@"⟩] [[warning ⟨"a", "r@"⟩ ""]] :=
    .cons (hodd _ _ ⟨['r'], by decide, rfl⟩ (.empty rfl)) .nil
  refine ⟨(hflawed _ _).mp ?_, ?_, ((htold [⟨"a", "r@"⟩]).1 _ _).mp ?_⟩
  · have hentries : Sample.flawed.map Component.entry = (Sample.flawed.take 3).map Component.entry
        ++ ⟨some "a", some "r@"⟩ :: [⟨some "d", some "r@"⟩] := rfl
    have hrepeated : IsDefect ((Sample.flawed.take 3).map Component.name)
        (Sample.flawed.take 3).length ⟨some "a", some "r@"⟩ (.repeatedName "a") :=
      IsDefect.repeatedName (c := ⟨"a", "r@"⟩) (by decide)
    exact Told.stopped hentries (by decide) hrepeated hnotes
  · refine halike _ _ _ (read_textOf true "ystream" Sample.unpinned)
      (isDocument_value "ystream" Sample.unpinned) ⟨rfl, ?_⟩
    exact .cons ⟨rfl, rfl⟩ (.cons ⟨rfl, rfl⟩ (.cons ⟨rfl, rfl⟩ (.cons ⟨rfl, rfl⟩
      (.cons ⟨rfl, rfl⟩ .nil))))
  · exact Told.parsed (s := ⟨"ystream", .minor, [⟨"a", "r@"⟩]⟩) rfl rfl rfl
      (List.nodup_singleton "a") hempty

end ReleaseGate.Snapshot
