import ReleaseGate.Extraction
import ReleaseGate.Proofs.Directories
import ReleaseGate.Proofs.Runs

/-!
# Manifests — what an extraction comes to

An extraction calls the extractor once, reads two entries of what it has made, and leaves the
temporary files as they were. Nothing is written on the way, and the sink is never looked at.
-/

namespace ReleaseGate

namespace World

/-- The world after a call of the extractor. -/
def called (w : World) (image source : String) : World :=
  { w with calls := w.calls ++ [Call.mk image source] }

end World

namespace Extraction

open Run

/-- The entry under a file name in the manifests directory that an extractor has filled. -/
def entryAt (made : Directory) (fileName : String) : Except FileFault Node :=
  manifestAt [("", .directory [(manifestsName, .directory made)])] "" fileName

/-- The text of the manifest with a file name; `shown` is the path of the temporary directory. -/
def textAt (made : Directory) (shown fileName : String) : Except Failure String :=
  textOf (Path.join (Path.join shown manifestsName) fileName) (entryAt made fileName)

/-- The manifests that an extraction yields. -/
def yields (e : Extraction) (p : Profile) (shown : String) : Except Failure ByManifest :=
  match e.failure with
  | some failure => .error failure
  | none => do
    let csv ← textAt e.made shown p.fileNames.clusterServiceVersion
    let configMap ← textAt e.made shown p.fileNames.configMap
    return ⟨csv, configMap⟩

/-- The directory that an extractor is to copy into. -/
def destination (t : Temporary) : String :=
  Path.join t.shownAs manifestsName

/-- The failure of an extraction without a place for temporary files. -/
def noPlace (t : Temporary) : Failure :=
  .io (FileFault.notFound.words ++ " at path " ++ Text.quoted t.shownAs)

/-! ## What is read -/

private theorem names_manifest {fileName : String} (hslash : '/' ∉ fileName.toList) :
    Path.names (manifestsName ++ "/" ++ fileName) = [manifestsName, fileName] := by
  rw [Path.names_append, Path.names_of_no_slash hslash]
  rfl

/-- Before the last name of a manifest's path there is nothing that could be at fault. -/
private theorem fault_manifest {fileName : String}
    (h : '\x00' ∉ fileName.toList ∧ fileName.utf8ByteSize ≤ Path.longestName) :
    Path.fault? (manifestsName ++ "/" ++ fileName) = none := by
  rw [Path.fault?_eq_none_iff, String.toList_append, String.utf8ByteSize_append]
  constructor
  · intro hmem
    rcases List.mem_append.mp hmem with hfront | hname
    · revert hfront
      decide
    · exact h.1 hname
  · -- a name that is not too long leaves room for the directory in front of it
    have hfront : (manifestsName ++ "/").utf8ByteSize = 10 := by decide
    have hname : Path.longestName = 255 := rfl
    have hpath : Path.longestPath = 4095 := rfl
    omega

/-- A manifest is a file just when the manifests directory holds that file. -/
theorem entryAt_eq_file {fileName : String} (hempty : fileName ≠ "")
    (hslash : '/' ∉ fileName.toList) (made : Directory) (content : List UInt8) :
    entryAt made fileName = .ok (.file content) ↔ made.HasFile fileName content := by
  have hat : entryAt made fileName
      = (Node.directory [(manifestsName, .directory made)]).at?
          (manifestsName ++ "/" ++ fileName) := by
    rw [entryAt, manifestAt, Path.isAbsolute_of_no_slash hslash, Path.names_of_no_slash hslash,
      Path.staysBelow_singleton, List.lookup_cons_self]
    rfl
  have hfollow : Node.follow [] (.directory [(manifestsName, .directory made)])
      [manifestsName, fileName]
      = Node.follow [.directory [(manifestsName, .directory made)]] (.directory made)
          [fileName] := rfl
  rw [hat, Node.at?]
  cases hfault : Path.fault? (manifestsName ++ "/" ++ fileName) with
  | none =>
      dsimp only
      rw [names_manifest hslash, hfollow]
      refine Node.follow_eq_file hempty hslash ?_ _ _ _ _
      intro hnul
      refine (Path.fault?_eq_none_iff.mp hfault).1 ?_
      rw [String.toList_append]
      exact List.mem_append_right _ hnul
  | some fault =>
      -- the fault can only be in the file's own name, which no entry has then
      constructor
      · intro h
        exact nomatch h
      · intro h
        rw [fault_manifest ⟨h.1.noNul, h.1.short⟩] at hfault
        exact nomatch hfault

/-- A manifest is read as a text just when it is a file that holds the text. -/
theorem textAt_eq_ok {fileName : String} (hempty : fileName ≠ "")
    (hslash : '/' ∉ fileName.toList) (made : Directory) (shown text : String) :
    textAt made shown fileName = .ok text ↔ made.HasFile fileName (Text.encode text) := by
  rw [← entryAt_eq_file hempty hslash, textAt]
  match entryAt made fileName with
  | .error fault =>
      constructor
      · intro h
        cases h
      · intro h
        cases h
  | .ok (.directory entries) =>
      constructor
      · intro h
        cases h
      · intro h
        cases h
  | .ok (.file bytes) =>
      dsimp only [textOf]
      cases hd : Text.decode? bytes with
      | none =>
          constructor
          · intro h
            cases h
          · intro h
            have hbytes : bytes = Text.encode text := Node.file.inj (Except.ok.inj h)
            rw [Text.decode?_eq_some_iff.mpr hbytes] at hd
            cases hd
      | some found =>
          have hbytes := Text.decode?_eq_some_iff.mp hd
          constructor
          · intro h
            rw [hbytes, Except.ok.inj h]
          · intro h
            have hbytes' : bytes = Text.encode text := Node.file.inj (Except.ok.inj h)
            rw [Text.decode?_eq_some_iff.mpr hbytes'] at hd
            rw [Option.some.inj hd]

/-- Reading a manifest fails because it is not there, or because it is no text. -/
theorem textAt_error {made : Directory} {shown fileName : String} {f : Failure}
    (h : textAt made shown fileName = .error f) :
    (∃ reason, f = .io reason) ∨ ∃ path, f = .manifestNotFound path := by
  rw [textAt] at h
  match hentry : entryAt made fileName with
  | .error fault =>
      rw [hentry] at h
      exact .inr ⟨_, (Except.error.inj h).symm⟩
  | .ok (.directory entries) =>
      rw [hentry] at h
      exact .inr ⟨_, (Except.error.inj h).symm⟩
  | .ok (.file bytes) =>
      rw [hentry] at h
      cases hd : Text.decode? bytes with
      | some text =>
          rw [textOf, hd] at h
          exact nomatch h
      | none =>
          rw [textOf, hd] at h
          exact .inl ⟨_, (Except.error.inj h).symm⟩

/-- An extraction yields manifests when it succeeds and both can be read. -/
theorem yields_eq_ok {e : Extraction} {p : Profile} {shown : String} {m : ByManifest} :
    e.yields p shown = .ok m ↔ e.failure = none
      ∧ textAt e.made shown p.fileNames.clusterServiceVersion = .ok m.clusterServiceVersion
      ∧ textAt e.made shown p.fileNames.configMap = .ok m.configMap := by
  rw [yields]
  cases e.failure with
  | some failure => exact ⟨fun h => (nomatch h), fun h => (nomatch h.1)⟩
  | none =>
      dsimp only
      cases textAt e.made shown p.fileNames.clusterServiceVersion with
      | error failure => exact ⟨fun h => (nomatch h), fun h => (nomatch h.2.1)⟩
      | ok csv =>
          cases textAt e.made shown p.fileNames.configMap with
          | error failure => exact ⟨fun h => (nomatch h), fun h => (nomatch h.2.2)⟩
          | ok configMap =>
              constructor
              · intro h
                have hm : ⟨csv, configMap⟩ = m := Except.ok.inj h
                rw [← hm]
                exact ⟨rfl, rfl, rfl⟩
              · intro h
                rw [Except.ok.inj h.2.1, Except.ok.inj h.2.2]
                rfl

/-- When nothing can be read, the extractor has failed, or a manifest cannot be read. -/
theorem yields_error {e : Extraction} {p : Profile} {shown : String} {f : Failure}
    (h : e.yields p shown = .error f) :
    e.failure = some f ∨ (∃ reason, f = .io reason) ∨ ∃ path, f = .manifestNotFound path := by
  rw [yields] at h
  cases he : e.failure with
  | some failure =>
      rw [he] at h
      exact .inl (congrArg some (Except.error.inj h))
  | none =>
      rw [he] at h
      dsimp only at h
      cases hcsv : textAt e.made shown p.fileNames.clusterServiceVersion with
      | error failure =>
          rw [hcsv] at h
          have hf : failure = f := Except.error.inj h
          exact .inr (textAt_error (hf ▸ hcsv))
      | ok csv =>
          rw [hcsv] at h
          cases hmap : textAt e.made shown p.fileNames.configMap with
          | error failure =>
              rw [hmap] at h
              have hf : failure = f := Except.error.inj h
              exact .inr (textAt_error (hf ▸ hmap))
          | ok configMap =>
              rw [hmap] at h
              exact nomatch h

/-! ## The steps of an extraction -/

/-- The temporary directory as the extraction holds it. -/
def holding (w : World) (d : Directory) (made : Directory) : World :=
  { w with
    temporary := { w.temporary with
      entries := some (Directory.put (Directory.freshName temporaryStem d)
        (.directory [(manifestsName, .directory made)]) d) } }

/-- A fresh directory is made, with an empty manifests directory in it. -/
theorem exec_makeTemporary {w : World} {d : Directory} (h : w.temporary.entries = some d) :
    makeTemporary.exec w = (.ok (Directory.freshName temporaryStem d), holding w d []) := by
  rw [makeTemporary, exec_bind_ok (exec_get w), h]
  dsimp only
  rw [exec_bind_ok (exec_set _ w), exec_pure, holding]

/-- Without a place for temporary files no extraction begins. -/
theorem exec_makeTemporary_of_none {w : World} (h : w.temporary.entries = none) :
    makeTemporary.exec w = (.error (noPlace w.temporary), w) := by
  rw [makeTemporary, exec_bind_ok (exec_get w), h]
  exact exec_throw _ w

private theorem exec_call {extractor : Extractor} {image source : String} {w : World}
    {e : Extraction} (he : extractor image source (destination w.temporary) = e)
    (d before : Directory) :
    (call extractor (Directory.freshName temporaryStem d) image source).exec (holding w d before)
      = (match e.failure with
          | some failure => .error failure
          | none => .ok (),
        holding ((w.noted e.events).called image source) d e.made) := by
  have hput := Directory.put_put (Directory.freshName temporaryStem d)
    (.directory [(manifestsName, .directory before)])
    (.directory [(manifestsName, .directory e.made)]) d
  have he' : extractor image source
      (Path.join (holding w d before).temporary.shownAs manifestsName) = e := he
  rw [call, exec_bind_ok (exec_get _)]
  dsimp only
  rw [he', exec_bind_ok (exec_set _ _), holding, holding, ← hput]
  cases e.failure with
  | some failure => rfl
  | none => rfl

private theorem exec_readManifest (w : World) (d made : Directory) (fileName : String) :
    (readManifest (Directory.freshName temporaryStem d) fileName).exec (holding w d made)
      = (textAt made w.temporary.shownAs fileName, holding w d made) := by
  have hat : manifestAt (Directory.put (Directory.freshName temporaryStem d)
        (.directory [(manifestsName, .directory made)]) d) (Directory.freshName temporaryStem d)
        fileName = entryAt made fileName := by
    rw [entryAt, manifestAt, manifestAt, Directory.lookup_put, List.lookup_cons_self]
  rw [readManifest, exec_bind_ok (exec_get _)]
  dsimp only
  rw [exec_ofExcept, textAt, ← hat]
  rfl

/-- Extracting and reading, in a temporary directory that is there. -/
theorem exec_readManifests {extractor : Extractor} {p : Profile} {image : String}
    {w : World} {e : Extraction} (he : extractor image p.imagePath (destination w.temporary) = e)
    (d : Directory) :
    ∃ events, (readManifests extractor p image (Directory.freshName temporaryStem d)).exec
        (holding w d [])
      = (e.yields p w.temporary.shownAs,
        holding ((w.noted events).called image p.imagePath) d e.made) := by
  let opening : List Event := [⟨.info, "Extracting " ++ p.imagePath ++ " from " ++ image⟩]
  let closing : List Event := [⟨.debug, "Removing " ++ Text.quoted w.temporary.shownAs⟩]
  -- the world behind the call, whose notes no later step depends on
  let called : World := ((w.noted opening).noted e.events).called image p.imagePath
  have hopen : (Run.note opening).exec (holding w d [])
      = (.ok (), holding (w.noted opening) d []) :=
    exec_note _ _
  have hcall := exec_call (w := w.noted opening) he d []
  have hread : ∀ fileName, (readManifest (Directory.freshName temporaryStem d) fileName).exec
      (holding called d e.made)
      = (textAt e.made w.temporary.shownAs fileName, holding called d e.made) :=
    exec_readManifest called d e.made
  rw [readManifests, exec_bind_ok hopen, yields]
  cases hf : e.failure with
  | some failure =>
      rw [hf] at hcall
      refine ⟨opening ++ e.events, ?_⟩
      rw [exec_bind_error hcall, World.noted_noted]
  | none =>
      rw [hf] at hcall
      rw [exec_bind_ok hcall]
      have hcsv := hread p.fileNames.clusterServiceVersion
      have hmap := hread p.fileNames.configMap
      dsimp only
      cases h1 : textAt e.made w.temporary.shownAs p.fileNames.clusterServiceVersion with
      | error failure =>
          rw [h1] at hcsv
          refine ⟨opening ++ e.events, ?_⟩
          rw [exec_bind_error hcsv, ← World.noted_noted]
          rfl
      | ok csv =>
          rw [h1] at hcsv
          rw [exec_bind_ok hcsv]
          cases h2 : textAt e.made w.temporary.shownAs p.fileNames.configMap with
          | error failure =>
              rw [h2] at hmap
              refine ⟨opening ++ e.events, ?_⟩
              rw [exec_bind_error hmap, ← World.noted_noted]
              rfl
          | ok configMap =>
              rw [h2] at hmap
              refine ⟨opening ++ e.events ++ closing, ?_⟩
              rw [exec_bind_ok hmap, ← World.noted_noted, ← World.noted_noted]
              rfl

/-- Removing the temporary directory leaves the temporary files as they were. -/
theorem removeTemporary_holding {w : World} {d : Directory}
    (h : w.temporary.entries = some d) (made : Directory) :
    removeTemporary (Directory.freshName temporaryStem d) (holding w d made) = w := by
  have hd := Directory.remove_put (Directory.lookup_freshName temporaryStem d)
    (.directory [(manifestsName, .directory made)])
  show { w with temporary := { w.temporary with entries := some (Directory.remove _ _) } } = w
  rw [hd, ← h]

/-- An extraction calls the extractor once and changes nothing else but the log. -/
theorem exec_manifests {extractor : Extractor} {p : Profile} {image : String} {w : World}
    {e : Extraction} {d : Directory} (hd : w.temporary.entries = some d)
    (he : extractor image p.imagePath (destination w.temporary) = e) :
    ∃ events, (manifests extractor p image).exec w
      = (e.yields p w.temporary.shownAs, (w.noted events).called image p.imagePath) := by
  obtain ⟨events, hread⟩ := exec_readManifests he d
  refine ⟨events, ?_⟩
  rw [manifests, exec_bind_ok (exec_makeTemporary hd)]
  show (((readManifests extractor p image _).exec (holding w d [])).1, removeTemporary _
    ((readManifests extractor p image _).exec (holding w d [])).2) = _
  rw [hread, removeTemporary_holding (w := (w.noted events).called image p.imagePath) hd]

/-- Without a place for temporary files an extraction ends before the extractor is called. -/
theorem exec_manifests_of_none {extractor : Extractor} {p : Profile} {image : String} {w : World}
    (hd : w.temporary.entries = none) :
    (manifests extractor p image).exec w = (.error (noPlace w.temporary), w) :=
  exec_bind_error (exec_makeTemporary_of_none hd)

/-- The references of an image: those of its manifests. -/
theorem exec_references (extractor : Extractor) (rs : Rules) (image : String) {w : World}
    {d : Directory} (hd : w.temporary.entries = some d) :
    ∃ events, (references extractor rs image).exec w
      = (((extractor image rs.profile.imagePath (destination w.temporary)).yields rs.profile
          w.temporary.shownAs).map (References.ofManifests rs),
        (w.noted events).called image rs.profile.imagePath) := by
  obtain ⟨events, hread⟩ := exec_manifests (p := rs.profile) hd rfl
  cases hy : (extractor image rs.profile.imagePath (destination w.temporary)).yields rs.profile
      w.temporary.shownAs with
  | error failure =>
      rw [hy] at hread
      exact ⟨events, exec_bind_error hread⟩
  | ok m =>
      rw [hy] at hread
      refine ⟨events ++ References.remarks rs m, ?_⟩
      rw [references, exec_bind_ok hread, ← World.noted_noted]
      rfl

theorem exec_references_of_none {extractor : Extractor} {rs : Rules} {image : String} {w : World}
    (hd : w.temporary.entries = none) :
    (references extractor rs image).exec w = (.error (noPlace w.temporary), w) :=
  exec_bind_error (exec_manifests_of_none hd)

end Extraction

end ReleaseGate
