import ReleaseGate.Proofs.WellFormed

/-!
# Entries — what an extraction reads

Of all that an extractor has made, an extraction reads two entries of the manifests directory: those
that have the file names of the profile. A file name that passes the check of a profile has no
slash, so it leads to an entry of this directory or, with `.` and `..`, to a directory, which is no
manifest. What is found first to be amiss decides how the extraction fails.
-/

namespace ReleaseGate

namespace Extraction

/-! ## One manifest -/

/-- How a manifest is read from a directory that is shown under a path. -/
inductive ReadsAs (d : Directory) (shown fileName : String) : Except Failure String → Prop where
  | text (text : String) :
      d.HasFile fileName (Text.encode text) → ReadsAs d shown fileName (.ok text)
  | noText (content : List UInt8) :
      d.HasFile fileName content → (∀ text, content ≠ Text.encode text) →
      ReadsAs d shown fileName (.error (.io notUtf8Reason))
  | absent :
      (∀ content, ¬ d.HasFile fileName content) →
      ReadsAs d shown fileName (.error (.manifestNotFound (Path.join shown fileName)))

/-- A directory has one file under a name at most. -/
theorem hasFile_unique {d : Directory} {name : String} {a b : List UInt8}
    (ha : d.HasFile name a) (hb : d.HasFile name b) : a = b :=
  Node.file.inj (Option.some.inj (ha.2.symm.trans hb.2))

/-- A manifest is read in one way. -/
theorem ReadsAs.unique {d : Directory} {shown fileName : String} {x y : Except Failure String}
    (hx : ReadsAs d shown fileName x) (hy : ReadsAs d shown fileName y) : x = y := by
  cases hx with
  | text text hfile =>
      cases hy with
      | text text' hfile' => rw [Text.encode_injective (hasFile_unique hfile hfile')]
      | noText content hfile' hno => exact absurd (hasFile_unique hfile' hfile) (hno text)
      | absent hno => exact absurd hfile (hno _)
  | noText content hfile hno =>
      cases hy with
      | text text hfile' => exact absurd (hasFile_unique hfile hfile') (hno text)
      | noText _ _ _ => rfl
      | absent hno' => exact absurd hfile (hno' _)
  | absent hno =>
      cases hy with
      | text text hfile => exact absurd hfile (hno _)
      | noText content hfile _ => exact absurd hfile (hno _)
      | absent _ => rfl

section

variable {fileName : String} (hempty : fileName ≠ "") (hslash : '/' ∉ fileName.toList)
  (made : Directory) (shown : String)

include hempty hslash

/-- The text of a manifest is that of the entry with its name. -/
theorem readsAs_textAt :
    ReadsAs made (Path.join shown manifestsName) fileName (textAt made shown fileName) := by
  have hfile := entryAt_eq_file hempty hslash made
  rw [textAt]
  cases hentry : entryAt made fileName with
  | error fault =>
      refine .absent fun content hhas => ?_
      rw [(hfile content).mpr hhas] at hentry
      cases hentry
  | ok node =>
      cases node with
      | directory entries =>
          refine .absent fun content hhas => ?_
          rw [(hfile content).mpr hhas] at hentry
          cases hentry
      | file bytes =>
          have hhas := (hfile bytes).mp hentry
          rw [textOf]
          cases hd : Text.decode? bytes with
          | some text =>
              rw [Text.decode?_eq_some_iff.mp hd] at hhas
              exact .text text hhas
          | none =>
              refine .noText bytes hhas fun text htext => ?_
              rw [Text.decode?_eq_some_iff.mpr htext] at hd
              cases hd

/-- The text of a manifest is read in the way its entry says, and in no other. -/
theorem textAt_eq_iff {x : Except Failure String} :
    textAt made shown fileName = x ↔ ReadsAs made (Path.join shown manifestsName) fileName x := by
  have hreads := readsAs_textAt hempty hslash made shown
  exact ⟨fun h => h ▸ hreads, hreads.unique⟩

end

/-! ## Both manifests -/

/-- How an extraction ends whose manifests directory is shown under a path: with the failure of the
extractor, with the first fault of a manifest, or with both texts. -/
inductive EndsAs (e : Extraction) (p : Profile) (shown : String) :
    Except Failure ByManifest → Prop where
  | failed (f : Failure) : e.failure = some f → EndsAs e p shown (.error f)
  | csvUnread (f : Failure) :
      e.failure = none → ReadsAs e.made shown p.fileNames.clusterServiceVersion (.error f) →
      EndsAs e p shown (.error f)
  | configMapUnread (csv : String) (f : Failure) :
      e.failure = none → ReadsAs e.made shown p.fileNames.clusterServiceVersion (.ok csv) →
      ReadsAs e.made shown p.fileNames.configMap (.error f) →
      EndsAs e p shown (.error f)
  | read (m : ByManifest) : e.Leaves p m → EndsAs e p shown (.ok m)

/-- Two directories hold the same files under a name, or none. -/
def SameFile (name : String) (d d' : Directory) : Prop :=
  ∀ content, d.HasFile name content ↔ d'.HasFile name content

theorem ReadsAs.congr {d d' : Directory} {shown fileName : String} {x : Except Failure String}
    (hd : SameFile fileName d d') (h : ReadsAs d shown fileName x) : ReadsAs d' shown fileName x := by
  cases h with
  | text text hfile => exact .text text ((hd _).mp hfile)
  | noText content hfile hno => exact .noText content ((hd _).mp hfile) hno
  | absent hno => exact .absent fun content hfile => hno content ((hd _).mpr hfile)

/-- Of what two extractors have made, only the two manifests matter. -/
theorem EndsAs.congr {e e' : Extraction} {p : Profile} {shown : String}
    {x : Except Failure ByManifest} (hfailure : e.failure = e'.failure)
    (hcsv : SameFile p.fileNames.clusterServiceVersion e.made e'.made)
    (hmap : SameFile p.fileNames.configMap e.made e'.made) (h : EndsAs e p shown x) :
    EndsAs e' p shown x := by
  cases h with
  | failed f hf => exact .failed f (hfailure ▸ hf)
  | csvUnread f hnone hread => exact .csvUnread f (hfailure ▸ hnone) (hread.congr hcsv)
  | configMapUnread csv f hnone hread hread' =>
      exact .configMapUnread csv f (hfailure ▸ hnone) (hread.congr hcsv) (hread'.congr hmap)
  | read m hleaves =>
      exact .read m ⟨hfailure ▸ hleaves.succeeded, (hcsv _).mp hleaves.clusterServiceVersion,
        (hmap _).mp hleaves.configMap⟩

section

variable {p : Profile} (hp : p.defect? = none) (e : Extraction) (shown : String)

include hp

/-- The file names of a checked profile lead to entries of the manifests directory. -/
private theorem plain_fileNames :
    (p.fileNames.clusterServiceVersion ≠ "" ∧ '/' ∉ p.fileNames.clusterServiceVersion.toList)
      ∧ p.fileNames.configMap ≠ "" ∧ '/' ∉ p.fileNames.configMap.toList := by
  obtain ⟨-, -, hcsv, hmap, -⟩ := (Profile.defect?_eq_none p).mp hp
  obtain ⟨hcsv, hcsv', -⟩ := (Profile.isFileName_iff _).mp hcsv
  obtain ⟨hmap, hmap', -⟩ := (Profile.isFileName_iff _).mp hmap
  exact ⟨⟨hcsv, hcsv'⟩, hmap, hmap'⟩

/-- What an extraction yields is how it ends. -/
theorem endsAs_yields : EndsAs e p (Path.join shown manifestsName) (e.yields p shown) := by
  obtain ⟨⟨hcsv, hcsv'⟩, hmap, hmap'⟩ := plain_fileNames hp
  have hreadsCsv := readsAs_textAt hcsv hcsv' e.made shown
  have hreadsMap := readsAs_textAt hmap hmap' e.made shown
  cases hyields : e.yields p shown with
  | ok m => exact .read m ((yields_eq_ok_iff_leaves hp shown).mp hyields)
  | error f =>
      rw [yields] at hyields
      cases hfailure : e.failure with
      | some f' =>
          rw [hfailure] at hyields
          exact Except.error.inj hyields ▸ .failed f' hfailure
      | none =>
          rw [hfailure] at hyields
          dsimp only at hyields
          -- the extractor has succeeded, so the fault is in the first manifest or in the second
          cases h1 : textAt e.made shown p.fileNames.clusterServiceVersion with
          | error f' =>
              rw [h1] at hyields hreadsCsv
              exact Except.error.inj hyields ▸ .csvUnread f' hfailure hreadsCsv
          | ok csv =>
              rw [h1] at hyields hreadsCsv
              cases h2 : textAt e.made shown p.fileNames.configMap with
              | error f' =>
                  rw [h2] at hyields hreadsMap
                  exact Except.error.inj hyields ▸
                    .configMapUnread csv f' hfailure hreadsCsv hreadsMap
              | ok configMap =>
                  rw [h2] at hyields
                  cases hyields

/-- There is no other way in which it could end. -/
theorem yields_eq_iff {x : Except Failure ByManifest} :
    e.yields p shown = x ↔ EndsAs e p (Path.join shown manifestsName) x := by
  obtain ⟨⟨hcsv, hcsv'⟩, hmap, hmap'⟩ := plain_fileNames hp
  constructor
  · rintro rfl
    exact endsAs_yields hp e shown
  · intro h
    cases h with
    | failed f hfailure => rw [yields, hfailure]
    | csvUnread f hfailure hread =>
        rw [yields, hfailure]
        dsimp only
        rw [(textAt_eq_iff hcsv hcsv' ..).mpr hread]
        rfl
    | configMapUnread csv f hfailure hread hread' =>
        rw [yields, hfailure]
        dsimp only
        rw [(textAt_eq_iff hcsv hcsv' ..).mpr hread, (textAt_eq_iff hmap hmap' ..).mpr hread']
        rfl
    | read m hleaves => exact (yields_eq_ok_iff_leaves hp shown).mpr hleaves

end

/-- With rules that exist, an extraction calls the extractor once, with the image and the directory
of the profile. It ends as the extractor and the two entries say. Neither what else the extractor
has made nor what other temporary files there are has any influence. -/
theorem reads_two_entries {p : Profile} {rs : Rules} (hrs : p.compile = .ok rs)
    (extractor : Extractor) (image : String) {w : World} (hw : w.temporary.entries ≠ none) :
    ((manifests extractor p image).exec w).2.calls = w.calls ++ [⟨image, p.imagePath⟩]
      ∧ (∀ x, ((manifests extractor p image).exec w).1 = x ↔
        EndsAs (extractor image p.imagePath (destination w.temporary)) p (destination w.temporary)
          x)
      ∧ ∀ (extractor' : Extractor) (w' : World), w'.temporary.entries ≠ none →
        w'.temporary.shownAs = w.temporary.shownAs →
        (extractor' image p.imagePath (destination w'.temporary)).failure
          = (extractor image p.imagePath (destination w.temporary)).failure →
        SameFile p.fileNames.clusterServiceVersion
          (extractor' image p.imagePath (destination w'.temporary)).made
          (extractor image p.imagePath (destination w.temporary)).made →
        SameFile p.fileNames.configMap
          (extractor' image p.imagePath (destination w'.temporary)).made
          (extractor image p.imagePath (destination w.temporary)).made →
        ((manifests extractor' p image).exec w').1 = ((manifests extractor p image).exec w).1 := by
  obtain ⟨rfl, hchecked⟩ := (Profile.compile_eq_ok p rs).mp hrs
  obtain ⟨d, hd⟩ := Option.ne_none_iff_exists'.mp hw
  have hmade : extractor image rs.profile.imagePath (destination w.temporary) = _ := rfl
  obtain ⟨events, hexec⟩ := exec_manifests (p := rs.profile) hd hmade
  rw [hexec]
  refine ⟨rfl, fun x => yields_eq_iff hchecked.sound _ _, ?_⟩
  intro extractor' w' hw' hshown hfailure hcsv hmap
  obtain ⟨d', hd'⟩ := Option.ne_none_iff_exists'.mp hw'
  have hmade' : extractor' image rs.profile.imagePath (destination w'.temporary) = _ := rfl
  obtain ⟨events', hexec'⟩ := exec_manifests (p := rs.profile) hd' hmade'
  rw [hexec']
  refine (yields_eq_iff hchecked.sound _ _).mpr ?_
  rw [hshown]
  exact (endsAs_yields hchecked.sound _ _).congr hfailure.symm
    (fun content => (hcsv content).symm) fun content => (hmap content).symm

namespace Sample

/-- A tool that leaves a directory in the place of the second manifest, with the manifest in it. -/
def nesting : Extractor := fun _ _ _ =>
  ⟨[(Profile.builtIn.fileNames.clusterServiceVersion, .file (Text.encode "csv")),
    (Profile.builtIn.fileNames.configMap,
      .directory [(Profile.builtIn.fileNames.configMap, .file (Text.encode "map"))])], none, []⟩

end Sample

theorem nested_not_read : ∃ rs, Profile.builtIn.compile = .ok rs
    ∧ Validation.Sample.world.temporary.entries ≠ none
    ∧ ((manifests Sample.nesting Profile.builtIn "b").exec Validation.Sample.world).1
      = .error (.manifestNotFound "/tmp/manifests/bpfman-config_v1_configmap.yaml")
    ∧ ((manifests Sample.nesting Profile.builtIn "b").exec Validation.Sample.world).2.calls
      = [⟨"b", "/manifests/"⟩] := by
  obtain ⟨rs, hrs⟩ := Profile.exists_compile_builtIn
  have hw := Validation.Sample.world_ready.temporary
  obtain ⟨hcalls, hends, -⟩ := reads_two_entries hrs Sample.nesting "b" hw
  refine ⟨rs, hrs, hw, (hends _).mpr ?_, hcalls⟩
  refine .configMapUnread "csv" _ rfl (.text "csv" ⟨?_, rfl⟩) ?_
  · exact ⟨by decide, by decide, by decide, by decide, by decide, by decide⟩
  · -- under the name there is a directory
    exact .absent fun content hfile => nomatch hfile.2

end Extraction

end ReleaseGate
