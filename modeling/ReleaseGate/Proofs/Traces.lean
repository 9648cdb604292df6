import ReleaseGate.Proofs.Manifests

/-!
# Traces — what an extraction leaves in the file system

An extraction makes a directory among the temporary files, the extractor fills a directory in it,
and both are removed before the extraction ends, however it ends. So the file system is the same
before and after. The temporary files may lie anywhere in it; a run sees them alone and cannot reach
the rest, whose place is kept while they change.
-/

namespace ReleaseGate

/-! ## Trees of directories -/

namespace Directory

/-- The entries of the directory that names lead to. -/
def entriesAt (d : Directory) : List String → Option Directory
  | [] => some d
  | name :: rest =>
    match List.lookup name d with
    | some (.directory next) => entriesAt next rest
    | _ => none

/-- The tree with other entries in the directory that names lead to; unchanged when they lead to
none. -/
def replaceAt (entries : Directory) (d : Directory) : List String → Directory
  | [] => entries
  | name :: rest =>
    match List.lookup name d with
    | some (.directory next) => put name (.directory (replaceAt entries next rest)) d
    | _ => d

theorem entriesAt_cons {name : String} {d next : Directory}
    (h : List.lookup name d = some (.directory next)) (rest : List String) :
    entriesAt d (name :: rest) = entriesAt next rest := by
  rw [entriesAt, h]

theorem replaceAt_cons {name : String} {d next : Directory}
    (h : List.lookup name d = some (.directory next)) (entries : Directory) (rest : List String) :
    replaceAt entries d (name :: rest)
      = put name (.directory (replaceAt entries next rest)) d := by
  rw [replaceAt, h]

/-- Names that lead to a directory begin with the name of one. -/
theorem exists_of_entriesAt_cons {name : String} {d entries : Directory} {rest : List String}
    (h : entriesAt d (name :: rest) = some entries) :
    ∃ next, List.lookup name d = some (.directory next) ∧ entriesAt next rest = some entries := by
  rw [entriesAt] at h
  match hl : List.lookup name d with
  | some (.directory next) =>
      rw [hl] at h
      exact ⟨next, rfl, h⟩
  | some (.file content) =>
      rw [hl] at h
      exact nomatch h
  | none =>
      rw [hl] at h
      exact nomatch h

/-- A node put where it stands already changes nothing. -/
theorem put_of_lookup {name : String} {node : Node} {d : Directory}
    (h : List.lookup name d = some node) : put name node d = d := by
  induction d with
  | nil => exact nomatch h
  | cons entry rest ih =>
      rw [put]
      by_cases hname : (entry.1 == name) = true
      · have heq : entry.1 = name := beq_iff_eq.mp hname
        rw [← heq, List.lookup_cons_self] at h
        rw [if_pos hname, ← heq, ← Option.some.inj h]
      · rw [if_neg hname]
        have hne : (name == entry.1) = false := by
          rw [beq_eq_false_iff_ne]
          exact fun heq => hname (beq_iff_eq.mpr heq.symm)
        rw [List.lookup_cons, hne] at h
        exact congrArg (entry :: ·) (ih h)

/-- A path one behind another is followed in two parts. -/
theorem entriesAt_append {d entries : Directory} {names : List String}
    (h : entriesAt d names = some entries) (more : List String) :
    entriesAt d (names ++ more) = entriesAt entries more := by
  induction names generalizing d with
  | nil => rw [List.nil_append, Option.some.inj h]
  | cons name rest ih =>
      obtain ⟨next, hl, hnext⟩ := exists_of_entriesAt_cons h
      rw [List.cons_append, entriesAt_cons hl]
      exact ih hnext

/-- What is put in the place of a directory is found there. -/
theorem entriesAt_replaceAt {d old : Directory} {names : List String}
    (h : entriesAt d names = some old) (entries : Directory) :
    entriesAt (replaceAt entries d names) names = some entries := by
  -- on the names, for every tree they lead through
  induction names generalizing d with
  | nil => rfl
  | cons name rest ih =>
      obtain ⟨next, hl, hnext⟩ := exists_of_entriesAt_cons h
      rw [replaceAt_cons hl, entriesAt_cons (lookup_put ..)]
      exact ih hnext

/-- A directory that gets the entries it has already leaves the tree as it is. -/
theorem replaceAt_self {d entries : Directory} {names : List String}
    (h : entriesAt d names = some entries) : replaceAt entries d names = d := by
  induction names generalizing d with
  | nil => exact (Option.some.inj h).symm
  | cons name rest ih =>
      obtain ⟨next, hl, hnext⟩ := exists_of_entriesAt_cons h
      rw [replaceAt_cons hl, ih hnext]
      exact put_of_lookup hl

end Directory

/-! ## Runs in a file system -/

/-- A file system: what its root holds, and the names that lead from there to the directory of the
temporary files. -/
structure FileSystem where
  root : Directory
  place : List String

namespace FileSystem

variable {α : Type} (fs : FileSystem)

/-- The temporary files; none when their directory is not there. -/
def temporary : Option Directory :=
  fs.root.entriesAt fs.place

/-- The file system with other temporary files. -/
def withTemporary : Option Directory → FileSystem
  | some entries => { fs with root := Directory.replaceAt entries fs.root fs.place }
  | none => fs

/-- A world whose temporary files are those of the file system. -/
def world (w : World) : World :=
  { w with temporary := { w.temporary with entries := fs.temporary } }

/-- The file system that a run leaves. -/
def after (m : Run α) (w : World) : FileSystem :=
  fs.withTemporary (m.exec (fs.world w)).2.temporary.entries

/-- A run that leaves the temporary files as they were leaves the file system as it was. -/
theorem after_eq_self {m : Run α} {w : World}
    (h : (m.exec (fs.world w)).2.temporary = (fs.world w).temporary) : fs.after m w = fs := by
  rw [after, h]
  show fs.withTemporary fs.temporary = fs
  cases ht : fs.temporary with
  | none => rfl
  | some entries => rw [withTemporary, Directory.replaceAt_self ht]

end FileSystem

/-! ## Extractions -/

namespace Extraction

open Run

variable (extractor : Extractor) (image : String)

/-- However an extraction ends, the temporary files are as before. -/
theorem temporary_exec_manifests (p : Profile) (w : World) :
    ((manifests extractor p image).exec w).2.temporary = w.temporary := by
  cases hd : w.temporary.entries with
  | none => rw [exec_manifests_of_none hd]
  | some d =>
      have hmade : extractor image p.imagePath (destination w.temporary) = _ := rfl
      obtain ⟨events, hexec⟩ := exec_manifests (p := p) hd hmade
      rw [hexec]
      rfl

/-- So they are when the references are taken from what was read. -/
theorem temporary_exec_references (rs : Rules) (w : World) :
    ((references extractor rs image).exec w).2.temporary = w.temporary := by
  cases hd : w.temporary.entries with
  | none => rw [exec_references_of_none hd]
  | some d =>
      obtain ⟨events, hexec⟩ := exec_references extractor rs image hd
      rw [hexec]
      rfl

/-- An extraction without the removal at its end. -/
def leaving (p : Profile) : Run ByManifest := do
  let name ← makeTemporary
  readManifests extractor p image name

/-- But for the removal, an extraction comes to the same result and leaves its directory behind. -/
theorem exec_leaving (p : Profile) {w : World} {d : Directory} (hd : w.temporary.entries = some d) :
    ((leaving extractor image p).exec w).1 = ((manifests extractor p image).exec w).1
      ∧ ((leaving extractor image p).exec w).2.temporary.entries
        = some (Directory.put (Directory.freshName temporaryStem d)
            (.directory [(manifestsName, .directory
              (extractor image p.imagePath (destination w.temporary)).made)]) d) := by
  have hmade : extractor image p.imagePath (destination w.temporary) = _ := rfl
  obtain ⟨events, hmanifests⟩ := exec_manifests (p := p) hd hmade
  obtain ⟨events', hread⟩ := exec_readManifests (p := p) hmade d
  have hleaving : (leaving extractor image p).exec w = _ :=
    (exec_bind_ok (exec_makeTemporary hd)).trans hread
  rw [hmanifests, hleaving]
  exact ⟨rfl, rfl⟩

/-- An extraction leaves the file system as it was, whatever it comes to; so does one that goes on
to the references. The directory that it removes holds all that the extractor has made, and the
result does not depend on the removal. -/
theorem manifests_leave_no_trace (p : Profile) (fs : FileSystem) (w : World) :
    fs.after (manifests extractor p image) w = fs
      ∧ (∀ rs, fs.after (references extractor rs image) w = fs)
      ∧ ∀ d, fs.temporary = some d → ∃ name, List.lookup name d = none
        ∧ ((leaving extractor image p).exec (fs.world w)).1
          = ((manifests extractor p image).exec (fs.world w)).1
        ∧ (fs.after (leaving extractor image p) w).root.entriesAt (fs.place ++ [name, manifestsName])
          = some (extractor image p.imagePath (destination (fs.world w).temporary)).made := by
  refine ⟨fs.after_eq_self (temporary_exec_manifests ..), fun rs => ?_, fun d hd => ?_⟩
  · exact fs.after_eq_self (temporary_exec_references ..)
  · obtain ⟨hresult, hentries⟩ := exec_leaving extractor image p (w := fs.world w) hd
    refine ⟨_, Directory.lookup_freshName temporaryStem d, hresult, ?_⟩
    -- follow the path: to the temporary files, to the fresh directory, to what was made in it
    rw [FileSystem.after, hentries]
    refine (Directory.entriesAt_append (Directory.entriesAt_replaceAt hd _) _).trans ?_
    rw [Directory.entriesAt_cons (Directory.lookup_put ..),
      Directory.entriesAt_cons List.lookup_cons_self]
    rfl

namespace Sample

/-- A tool that fails when it has made a directory with a file in it. -/
def halting : Extractor := fun _ _ _ =>
  ⟨[("nested", .directory [("half", .file [0x61])])], some (.io "halted"), []⟩

/-- A file system with temporary files of others. -/
def fileSystem : FileSystem :=
  ⟨[("etc", .file []), ("tmp", .directory [("snapcheck-bundle-0", .file [])])], ["tmp"]⟩

/-- A world in which nothing has been done. -/
def world : World :=
  ⟨Sink.unlimited, ⟨none, "/tmp/snapcheck-bundle-1"⟩, [], []⟩

end Sample

theorem sample_leaves_no_trace :
    Sample.fileSystem.temporary = some [("snapcheck-bundle-0", .file [])]
      ∧ Sample.fileSystem.after (manifests Sample.halting Profile.builtIn "b") Sample.world
        = Sample.fileSystem
      ∧ ∃ name, (Sample.fileSystem.after (leaving Sample.halting "b" Profile.builtIn)
          Sample.world).root.entriesAt ["tmp", name, "manifests"]
        = some [("nested", .directory [("half", .file [0x61])])] := by
  obtain ⟨hafter, -, hleaving⟩ :=
    manifests_leave_no_trace Sample.halting "b" Profile.builtIn Sample.fileSystem Sample.world
  have htemporary : Sample.fileSystem.temporary = some [("snapcheck-bundle-0", .file [])] := rfl
  obtain ⟨name, -, -, hmade⟩ := hleaving _ htemporary
  exact ⟨htemporary, hafter, name, hmade⟩

end Extraction

end ReleaseGate
