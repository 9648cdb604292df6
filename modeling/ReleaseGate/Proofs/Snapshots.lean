import Mathlib.Data.Option.Basic
import ReleaseGate.Proofs.Forms
import ReleaseGate.Proofs.Marks
import ReleaseGate.Snapshot.Reader

/-!
# Reading snapshots — which texts are accepted, and why the others are not

The entries of a document are taken one by one, and the names before an entry are remembered. The
invariant of this loop is that the components of the entries behind it have distinct names, none of
which is remembered. So a document is accepted when all its entries are of that kind, and otherwise
the first entry that is not gives the reason.
-/

namespace ReleaseGate

/-- The entry that a component is read from. -/
def Component.entry (c : Component) : Snapshot.Entry :=
  ⟨some c.name, some c.image⟩

namespace Snapshot

/-- What is wrong with an entry at a place, behind entries with the names `seen`. -/
inductive IsDefect (seen : List String) (place : Nat) : Entry → Defect → Prop where
  | noName {image : Option String} : IsDefect seen place ⟨none, image⟩ (.noName place)
  | noImage {name : String} : IsDefect seen place ⟨some name, none⟩ (.noImage name)
  | repeatedName {c : Component} :
      c.name ∈ seen → IsDefect seen place c.entry (.repeatedName c.name)

/-- The first entry of a list that makes no component has the given defect. -/
def FirstDefect (entries : List Entry) (defect : Defect) : Prop :=
  ∃ (before : List Component) (entry : Entry) (after : List Entry),
    entries = before.map Component.entry ++ entry :: after
      ∧ (before.map Component.name).Nodup
      ∧ IsDefect (before.map Component.name) before.length entry defect

/-! ## One entry -/

theorem componentOf_eq_ok (seen : List String) (place : Nat) (entry : Entry) (c : Component) :
    componentOf seen place entry = .ok c ↔ entry = c.entry ∧ c.name ∉ seen := by
  match entry with
  | ⟨none, image⟩ =>
      constructor
      · intro h
        exact nomatch h
      · intro h
        exact nomatch h.1
  | ⟨some name, none⟩ =>
      constructor
      · intro h
        exact nomatch h
      · intro h
        exact nomatch h.1
  | ⟨some name, some image⟩ =>
      show (if name ∈ seen then _ else _) = _ ↔ _
      by_cases hseen : name ∈ seen
      · rw [if_pos hseen]
        constructor
        · intro h
          exact nomatch h
        · rintro ⟨hentry, hnew⟩
          have hname : name = c.name := Option.some.inj (congrArg Entry.name hentry)
          exact absurd (hname ▸ hseen) hnew
      · rw [if_neg hseen]
        constructor
        · intro h
          rw [← Except.ok.inj h]
          exact ⟨rfl, hseen⟩
        · rintro ⟨hentry, -⟩
          have hname : name = c.name := Option.some.inj (congrArg Entry.name hentry)
          have himage : image = c.image := Option.some.inj (congrArg Entry.image hentry)
          rw [hname, himage]

theorem componentOf_eq_error (seen : List String) (place : Nat) (entry : Entry) (d : Defect) :
    componentOf seen place entry = .error d ↔ IsDefect seen place entry d := by
  match entry with
  | ⟨none, image⟩ =>
      constructor
      · intro h
        rw [← Except.error.inj h]
        exact .noName
      · intro h
        cases h
        rfl
  | ⟨some name, none⟩ =>
      constructor
      · intro h
        rw [← Except.error.inj h]
        exact .noImage
      · intro h
        cases h
        rfl
  | ⟨some name, some image⟩ =>
      show (if name ∈ seen then _ else _) = _ ↔ _
      by_cases hseen : name ∈ seen
      · rw [if_pos hseen]
        constructor
        · intro h
          rw [← Except.error.inj h]
          exact IsDefect.repeatedName (c := ⟨name, image⟩) hseen
        · intro h
          cases h
          rfl
      · rw [if_neg hseen]
        constructor
        · intro h
          exact nomatch h
        · intro h
          cases h with
          | repeatedName hmem => exact absurd hmem hseen

/-! ## All entries -/

/-- Only which names were seen counts, not their order. -/
theorem IsDefect.congr {seen seen' : List String} {place : Nat} {entry : Entry} {d : Defect}
    (hseen : ∀ name, name ∈ seen ↔ name ∈ seen') (h : IsDefect seen place entry d) :
    IsDefect seen' place entry d := by
  cases h with
  | noName => exact .noName
  | noImage => exact .noImage
  | repeatedName hmem => exact .repeatedName ((hseen _).mp hmem)

/-- A component may be counted to those in front of an entry or to those that were seen. -/
theorem isDefect_cons {seen : List String} {place : Nat} {c : Component}
    {before : List Component} {entry : Entry} {d : Defect} :
    IsDefect ((c :: before).map Component.name ++ seen) (place + (c :: before).length) entry d
      ↔ IsDefect (before.map Component.name ++ c.name :: seen) (place + 1 + before.length)
          entry d := by
  have hplace : place + (c :: before).length = place + 1 + before.length := by
    rw [List.length_cons]
    omega
  have hseen : ∀ name, name ∈ (c :: before).map Component.name ++ seen
      ↔ name ∈ before.map Component.name ++ c.name :: seen := by
    intro name
    simp only [List.map_cons, List.cons_append, List.mem_cons, List.mem_append]
    exact or_left_comm
  rw [hplace]
  exact ⟨IsDefect.congr hseen, IsDefect.congr fun name => (hseen name).symm⟩

/-- The entries make components just when they are entries of components whose names are distinct
and new. -/
theorem componentsOf_eq_ok (entries : List Entry) :
    ∀ (seen : List String) (place : Nat) (cs : List Component),
      (componentsOf seen place entries).2 = .ok cs
        ↔ entries = cs.map Component.entry ∧ Fresh seen (cs.map Component.name) := by
  induction entries with
  | nil =>
      intro seen place cs
      constructor
      · intro h
        rw [← Except.ok.inj h]
        exact ⟨rfl, fresh_nil seen⟩
      · rintro ⟨h, -⟩
        rw [List.map_eq_nil_iff.mp h.symm]
        rfl
  | cons entry entries ih =>
      intro seen place cs
      rw [componentsOf]
      cases hc : componentOf seen place entry with
      | error d =>
          constructor
          · intro h
            exact nomatch h
          · rintro ⟨hentries, hfresh⟩
            match cs with
            | [] => exact nomatch hentries
            | c :: cs =>
                have hok := (componentOf_eq_ok seen place entry c).mpr
                  ⟨List.head_eq_of_cons_eq hentries, (fresh_cons.mp hfresh).1⟩
                rw [hok] at hc
                exact nomatch hc
      | ok c =>
          obtain ⟨hentry, hnew⟩ := (componentOf_eq_ok seen place entry c).mp hc
          show ((componentsOf (c.name :: seen) (place + 1) entries).2.map (c :: ·)) = _ ↔ _
          constructor
          · intro h
            cases hrest : (componentsOf (c.name :: seen) (place + 1) entries).2 with
            | error d =>
                rw [hrest] at h
                exact nomatch h
            | ok rest =>
                rw [hrest] at h
                have hcs : c :: rest = cs := Except.ok.inj h
                obtain ⟨hentries, hfresh⟩ := (ih _ _ rest).mp hrest
                rw [← hcs]
                exact ⟨congrArg₂ List.cons hentry hentries, fresh_cons.mpr ⟨hnew, hfresh⟩⟩
          · rintro ⟨hentries, hfresh⟩
            match cs with
            | [] => exact nomatch hentries
            | c' :: rest =>
                obtain ⟨hnew', hfresh'⟩ := fresh_cons.mp hfresh
                have hok := (componentOf_eq_ok seen place entry c').mpr
                  ⟨List.head_eq_of_cons_eq hentries, hnew'⟩
                -- an entry makes one component only
                have hsame : c = c' := Except.ok.inj (hc.symm.trans hok)
                have hrest := (ih (c.name :: seen) (place + 1) rest).mpr
                  ⟨List.tail_eq_of_cons_eq hentries, hsame ▸ hfresh'⟩
                rw [hrest, hsame]
                rfl

/-- When the entries do not make components, the first that makes none tells why. -/
theorem componentsOf_eq_error (entries : List Entry) :
    ∀ (seen : List String) (place : Nat) (d : Defect),
      (componentsOf seen place entries).2 = .error d →
        ∃ (before : List Component) (entry : Entry) (after : List Entry),
          entries = before.map Component.entry ++ entry :: after
            ∧ Fresh seen (before.map Component.name)
            ∧ IsDefect (before.map Component.name ++ seen) (place + before.length) entry d := by
  induction entries with
  | nil =>
      intro seen place d h
      exact nomatch h
  | cons entry entries ih =>
      intro seen place d h
      rw [componentsOf] at h
      cases hc : componentOf seen place entry with
      | error d' =>
          rw [hc] at h
          have hd : d' = d := Except.error.inj h
          refine ⟨[], entry, entries, rfl, fresh_nil seen, ?_⟩
          exact hd ▸ (componentOf_eq_error seen place entry d').mp hc
      | ok c =>
          obtain ⟨hentry, hnew⟩ := (componentOf_eq_ok seen place entry c).mp hc
          rw [hc] at h
          cases hrest : (componentsOf (c.name :: seen) (place + 1) entries).2 with
          | ok rest =>
              dsimp only at h
              rw [hrest] at h
              exact nomatch h
          | error d' =>
              dsimp only at h
              rw [hrest] at h
              have hd : d' = d := Except.error.inj h
              obtain ⟨before, bad, after, hentries, hfresh, hbad⟩ := ih _ _ d' hrest
              -- the defect lies further on, with one more component in front of it
              refine ⟨c :: before, bad, after, congrArg₂ List.cons hentry hentries,
                fresh_cons.mpr ⟨hnew, hfresh⟩, ?_⟩
              exact hd ▸ isDefect_cons.mpr hbad

/-- The first entry that makes no component is where the entries fail. -/
theorem componentsOf_of_defect (before : List Component) {entry : Entry} {after : List Entry}
    {d : Defect} :
    ∀ {seen : List String} {place : Nat}, Fresh seen (before.map Component.name) →
      IsDefect (before.map Component.name ++ seen) (place + before.length) entry d →
        (componentsOf seen place (before.map Component.entry ++ entry :: after)).2 = .error d := by
  induction before with
  | nil =>
      intro seen place _ hbad
      have hentry := (componentOf_eq_error seen place entry d).mpr hbad
      show (componentsOf seen place (entry :: after)).2 = _
      rw [componentsOf, hentry]
  | cons c before ih =>
      intro seen place hfresh hbad
      obtain ⟨hnew, hfresh⟩ := fresh_cons.mp hfresh
      have hc := (componentOf_eq_ok seen place c.entry c).mpr ⟨rfl, hnew⟩
      have hrest := ih hfresh (isDefect_cons.mp hbad)
      rw [List.map_cons, List.cons_append, componentsOf, hc]
      dsimp only
      rw [hrest]
      rfl

/-- The entries fail just at the first that makes no component. -/
theorem componentsOf_eq_error_iff (entries : List Entry) (d : Defect) :
    (componentsOf [] 0 entries).2 = .error d ↔ FirstDefect entries d := by
  constructor
  · intro h
    obtain ⟨before, entry, after, hentries, hfresh, hbad⟩ := componentsOf_eq_error _ _ _ _ h
    rw [List.append_nil, Nat.zero_add] at hbad
    exact ⟨before, entry, after, hentries, (fresh_of_nothing_seen _).mp hfresh, hbad⟩
  · rintro ⟨before, entry, after, hentries, hnodup, hbad⟩
    rw [hentries]
    refine componentsOf_of_defect before ((fresh_of_nothing_seen _).mpr hnodup) ?_
    rw [List.append_nil, Nat.zero_add]
    exact hbad

/-- Entries are those of components just when each has a name and an image. -/
theorem exists_map_entry_iff (entries : List Entry) :
    (∃ cs : List Component, entries = cs.map Component.entry)
      ↔ ∀ e ∈ entries, e.name ≠ none ∧ e.image ≠ none := by
  induction entries with
  | nil => exact ⟨fun _ e he => (nomatch he), fun _ => ⟨[], rfl⟩⟩
  | cons entry entries ih =>
      rw [List.forall_mem_cons, ← ih]
      constructor
      · rintro ⟨cs, hcs⟩
        match cs with
        | [] => exact nomatch hcs
        | c :: cs =>
            obtain ⟨hc, hrest⟩ := List.cons.inj hcs
            rw [hc]
            exact ⟨⟨Option.some_ne_none _, Option.some_ne_none _⟩, cs, hrest⟩
      · rintro ⟨⟨hname, himage⟩, cs, hcs⟩
        obtain ⟨name, hname⟩ := Option.ne_none_iff_exists'.mp hname
        obtain ⟨image, himage⟩ := Option.ne_none_iff_exists'.mp himage
        refine ⟨⟨name, image⟩ :: cs, congrArg₂ List.cons ?_ hcs⟩
        show entry = ⟨some name, some image⟩
        rw [← hname, ← himage]

theorem map_entry_name (cs : List Component) :
    (cs.map Component.entry).map Entry.name = (cs.map Component.name).map some := by
  rw [List.map_map, List.map_map]
  rfl

/-! ## Documents and texts -/

/-- The application of a document has the mark of a stream. -/
def Document.Marked (doc : Document) : Prop :=
  Text.Holds doc.application "ystream" ∨ Text.Holds doc.application "zstream"

/-- A document that makes a snapshot. -/
structure Document.Complete (doc : Document) : Prop where
  marked : doc.Marked
  filled : ∀ e ∈ doc.entries, e.name ≠ none ∧ e.image ≠ none
  distinct : (doc.entries.map Entry.name).Nodup

/-- A document makes a snapshot when the application has a mark and the entries make components. -/
theorem ofDocument_eq_ok (doc : Document) (s : Snapshot) :
    (ofDocument doc).2 = .ok s ↔ s.application = doc.application
      ∧ Stream.detect doc.application = some s.stream
      ∧ doc.entries = s.components.map Component.entry ∧ s.names.Nodup := by
  have hentries : doc.entries = s.components.map Component.entry ∧ s.names.Nodup
      ↔ (componentsOf [] 0 doc.entries).2 = .ok s.components := by
    rw [componentsOf_eq_ok, fresh_of_nothing_seen, names]
  rw [hentries, ofDocument]
  cases Stream.detect doc.application with
  | none => exact ⟨fun h => (nomatch h), fun h => (nomatch h.2.1)⟩
  | some stream =>
      match componentsOf [] 0 doc.entries with
      | (events, .error d) => exact ⟨fun h => (nomatch h), fun h => (nomatch h.2.2)⟩
      | (events, .ok cs) =>
          constructor
          · intro h
            rw [← Except.ok.inj h]
            exact ⟨rfl, rfl, rfl⟩
          · rintro ⟨happ, hstream, hcs⟩
            have hstream : stream = s.stream := Option.some.inj hstream
            have hcs : cs = s.components := Except.ok.inj hcs
            rw [← happ, hstream, hcs]

/-- Some snapshot is made just of a complete document. -/
theorem exists_ofDocument_eq_ok (doc : Document) :
    (∃ s, (ofDocument doc).2 = .ok s) ↔ doc.Complete := by
  constructor
  · rintro ⟨s, h⟩
    obtain ⟨-, hstream, hentries, hnodup⟩ := (ofDocument_eq_ok doc s).mp h
    refine ⟨?_, (exists_map_entry_iff _).mp ⟨_, hentries⟩, ?_⟩
    · by_contra hmark
      rw [(Stream.detect_eq_none doc.application).mpr hmark] at hstream
      exact nomatch hstream
    · rw [hentries, map_entry_name]
      exact (List.nodup_map_iff (Option.some_injective _)).mpr hnodup
  · rintro ⟨hmark, hfilled, hdistinct⟩
    obtain ⟨cs, hcs⟩ := (exists_map_entry_iff _).mpr hfilled
    rw [hcs, map_entry_name] at hdistinct
    cases hstream : Stream.detect doc.application with
    | none => exact absurd hmark ((Stream.detect_eq_none doc.application).mp hstream)
    | some stream =>
        exact ⟨⟨doc.application, stream, cs⟩, (ofDocument_eq_ok doc _).mpr
          ⟨rfl, hstream, hcs, (List.nodup_map_iff (Option.some_injective _)).mp hdistinct⟩⟩

/-- Without a mark the application is at fault, and with one the first entry that makes no
component. -/
theorem ofDocument_eq_error (doc : Document) (f : Failure) :
    (ofDocument doc).2 = .error f ↔
      (¬ doc.Marked ∧ f = .unknownStream doc.application)
        ∨ (doc.Marked ∧ ∃ d, FirstDefect doc.entries d ∧ f = .malformedSnapshot d.reason) := by
  have hmark : doc.Marked ↔ Stream.detect doc.application ≠ none := by
    rw [Ne, Stream.detect_eq_none, not_not]
    rfl
  rw [hmark, not_not, ofDocument]
  cases Stream.detect doc.application with
  | none =>
      constructor
      · intro h
        exact .inl ⟨rfl, (Except.error.inj h).symm⟩
      · rintro (⟨-, h⟩ | ⟨h, -⟩)
        · rw [h]
        · exact absurd rfl h
  | some stream =>
      have hsome : (some stream : Option Stream) ≠ none := Option.some_ne_none stream
      simp only [← componentsOf_eq_error_iff]
      match componentsOf [] 0 doc.entries with
      | (events, .ok cs) =>
          constructor
          · intro h
            exact nomatch h
          · rintro (⟨h, -⟩ | ⟨-, d, h, -⟩)
            · exact absurd h hsome
            · exact nomatch h
      | (events, .error d) =>
          constructor
          · intro h
            exact .inr ⟨hsome, d, rfl, (Except.error.inj h).symm⟩
          · rintro (⟨h, -⟩ | ⟨-, d', h, hf⟩)
            · exact absurd h hsome
            · rw [hf, ← Except.error.inj h]

/-- The names of a snapshot that was read are distinct. -/
theorem names_nodup_of_read {raw : String} {s : Snapshot} (h : (read raw).2 = .ok s) :
    s.names.Nodup := by
  rw [read] at h
  match hv : Json.read raw with
  | .error fault =>
      rw [hv] at h
      exact nomatch h
  | .ok v =>
      rw [hv] at h
      cases hdoc : Document.ofJson v with
      | error misfit =>
          dsimp only at h
          rw [hdoc] at h
          exact nomatch h
      | ok doc =>
          dsimp only at h
          rw [hdoc] at h
          exact ((ofDocument_eq_ok doc s).mp h).2.2.2

/-- With distinct names, looking up a name finds the component that has it. -/
theorem component?_eq_some {s : Snapshot} (hnodup : s.names.Nodup) (name : String)
    (c : Component) : s.component? name = some c ↔ c ∈ s.components ∧ c.name = name :=
  find?_eq_some_of_nodup hnodup name c

/-- A text is read just when it is a JSON value of a complete document. The snapshot then has the
entries of the document as its components, and it finds each of them by its name. Otherwise the
form of the value is at fault before its application is, and that before its entries. -/
theorem read_iff_complete (raw : String) :
    match Json.read raw with
    | .error fault => (read raw).2 = .error (.json fault)
    | .ok v =>
        ((∃ s, (read raw).2 = .ok s) ↔ ∃ doc, IsDocument v doc ∧ doc.Complete)
          ∧ (∀ s, (read raw).2 = .ok s → ∃ doc, IsDocument v doc
              ∧ s.application = doc.application
              ∧ (s.stream = .minor ↔ Text.Holds doc.application "ystream")
              ∧ doc.entries = s.components.map Component.entry
              ∧ (∀ c ∈ s.components, ∀ digest,
                  c.digest = some digest ↔ Digest.Pins digest c.image)
              ∧ ∀ name c, s.component? name = some c ↔ c ∈ s.components ∧ c.name = name)
          ∧ ∀ f, (read raw).2 = .error f ↔
              ((∀ doc, ¬ IsDocument v doc) ∧ ∃ misfit, Document.ofJson v = .error misfit
                ∧ f = .malformedSnapshot misfit.message)
              ∨ ∃ doc, IsDocument v doc ∧ ((¬ doc.Marked ∧ f = .unknownStream doc.application)
                ∨ (doc.Marked ∧ ∃ d, FirstDefect doc.entries d
                  ∧ f = .malformedSnapshot d.reason)) := by
  rw [read]
  match Json.read raw with
  | .error fault => rfl
  | .ok v =>
      have hform : ∀ doc, IsDocument v doc ↔ Document.ofJson v = .ok doc :=
        fun doc => (ofJson_eq_ok v doc).symm
      simp only [hform]
      cases hv : Document.ofJson v with
      | error misfit =>
          refine ⟨⟨fun ⟨s, h⟩ => (nomatch h), fun ⟨doc, h, _⟩ => (nomatch h)⟩,
            fun s h => (nomatch h), fun f => ⟨fun h => ?_, ?_⟩⟩
          · exact .inl ⟨fun doc hdoc => (nomatch hdoc), misfit, rfl, (Except.error.inj h).symm⟩
          · rintro (⟨-, misfit', h, hf⟩ | ⟨doc, h, -⟩)
            · rw [hf, Except.error.inj h]
            · exact nomatch h
      | ok doc =>
          dsimp only
          have hdoc : ∀ doc', Except.ok (ε := Misfit) doc = .ok doc' ↔ doc = doc' :=
            fun doc' => ⟨Except.ok.inj, congrArg Except.ok⟩
          simp only [hdoc]
          refine ⟨?_, ?_, ?_⟩
          · rw [exists_ofDocument_eq_ok]
            exact ⟨fun h => ⟨doc, rfl, h⟩, fun ⟨doc', hsame, h⟩ => hsame ▸ h⟩
          · intro s hs
            obtain ⟨happ, hstream, hentries, hnodup⟩ := (ofDocument_eq_ok doc s).mp hs
            refine ⟨doc, rfl, happ, ?_, hentries, fun c _ digest => ?_, ?_⟩
            · rw [← Option.some_inj, ← hstream]
              exact Stream.detect_eq_minor doc.application
            · exact Digest.ofImage_eq_some c.image digest
            · exact component?_eq_some hnodup
          · intro f
            rw [ofDocument_eq_error]
            constructor
            · intro h
              exact .inr ⟨doc, rfl, h⟩
            · rintro (⟨h, -⟩ | ⟨doc', hsame, h⟩)
              · exact absurd rfl (h doc)
              · exact hsame ▸ h

end Snapshot

end ReleaseGate
