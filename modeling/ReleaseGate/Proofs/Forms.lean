import ReleaseGate.Proofs.Items
import ReleaseGate.Snapshot.Document

/-!
# The form of snapshot documents, said as a relation

Which JSON values are documents, and which document each of them is, is written down case by case:
a field that may be left out, one that may also be null, a component as an object or as an array of
its two fields, a document as an object or as an array of at most two. The fitting functions find
exactly these.
-/

namespace ReleaseGate.Snapshot

/-- A field of a component: left out, null, or a text. -/
inductive TextOrNot : Option Json → Option String → Prop where
  | absent : TextOrNot none none
  | null : TextOrNot (some .null) none
  | text (s : String) : TextOrNot (some (.string s)) (some s)

/-- A value that is a component: an object, or an array of exactly the two fields. -/
inductive IsEntry : Json → Entry → Prop where
  | object {members : List (String × Json)} {name image : Option String} :
      TextOrNot (members.lookup "name") name →
      TextOrNot (members.lookup "containerImage") image →
      IsEntry (.object members) ⟨name, image⟩
  | array {first second : Json} {name image : Option String} :
      TextOrNot (some first) name → TextOrNot (some second) image →
      IsEntry (.array [first, second]) ⟨name, image⟩

/-- The application of a document: left out, or a text. -/
inductive IsApplication : Option Json → String → Prop where
  | absent : IsApplication none ""
  | text (s : String) : IsApplication (some (.string s)) s

/-- The components of a document: left out, or an array of components. -/
inductive AreEntries : Option Json → List Entry → Prop where
  | absent : AreEntries none []
  | array {items : List Json} {entries : List Entry} :
      List.Forall₂ IsEntry items entries → AreEntries (some (.array items)) entries

/-- A value that is a document: an object, or an array of the fields in their order, of which any
number at the end may be left out. -/
inductive IsDocument : Json → Document → Prop where
  | object {members : List (String × Json)} {application : String} {entries : List Entry} :
      IsApplication (members.lookup "application") application →
      AreEntries (members.lookup "components") entries →
      IsDocument (.object members) ⟨application, entries⟩
  | array {items : List Json} {application : String} {entries : List Entry} :
      items.length ≤ 2 → IsApplication items[0]? application → AreEntries items[1]? entries →
      IsDocument (.array items) ⟨application, entries⟩

/-! ## Fitting finds the form -/

theorem optionalText_eq_ok (v : Json) (s : Option String) :
    optionalText v = .ok s ↔ TextOrNot (some v) s := by
  constructor
  · intro h
    cases v with
    | null =>
        rw [← Except.ok.inj h]
        exact .null
    | string t =>
        rw [← Except.ok.inj h]
        exact .text t
    | _ => exact nomatch h
  · intro h
    cases h with
    | null => rfl
    | text t => rfl

/-- A field has a form when its value has, or when it is left out and may be. -/
theorem field_eq_ok {α : Type} {form : Option Json → α → Prop} {absent : α}
    {fit : Json → Except Misfit α} (habsent : ∀ a, form none a ↔ a = absent)
    (hfit : ∀ v a, fit v = .ok a ↔ form (some v) a) (members : List (String × Json))
    (name : String) (a : α) :
    field members name absent fit = .ok a ↔ form (members.lookup name) a := by
  rw [field]
  cases members.lookup name with
  | none =>
      rw [habsent]
      exact ⟨fun h => (Except.ok.inj h).symm, fun h => congrArg Except.ok h.symm⟩
  | some v => exact hfit v a

theorem field_optionalText_eq_ok (members : List (String × Json)) (name : String)
    (s : Option String) :
    field members name none optionalText = .ok s ↔ TextOrNot (members.lookup name) s := by
  refine field_eq_ok ?_ optionalText_eq_ok members name s
  intro a
  constructor
  · intro h
    cases h
    rfl
  · intro h
    rw [h]
    exact .absent

theorem entryOf_eq_ok (v : Json) (e : Entry) : entryOf v = .ok e ↔ IsEntry v e := by
  constructor
  · intro h
    match v with
    | .object members =>
        rw [entryOf] at h
        obtain ⟨image, himage, h⟩ := bind_eq_ok.mp h
        obtain ⟨name, hname, h⟩ := bind_eq_ok.mp h
        rw [← Except.ok.inj h]
        exact .object ((field_optionalText_eq_ok members "name" name).mp hname)
          ((field_optionalText_eq_ok members "containerImage" image).mp himage)
    | .array [] => exact nomatch h
    | .array [first] =>
        -- the one item is fitted before it is told that there are too few
        rw [entryOf] at h
        obtain ⟨name, hname, h⟩ := bind_eq_ok.mp h
        exact nomatch h
    | .array (first :: second :: more) =>
        rw [entryOf] at h
        obtain ⟨name, hname, h⟩ := bind_eq_ok.mp h
        obtain ⟨image, himage, h⟩ := bind_eq_ok.mp h
        cases more with
        | nil =>
            rw [← Except.ok.inj h]
            exact .array ((optionalText_eq_ok first name).mp hname)
              ((optionalText_eq_ok second image).mp himage)
        | cons third more => exact nomatch h
    | .null | .bool _ | .natural _ | .negative _ | .float _ | .string _ => exact nomatch h
  · intro h
    cases h with
    | @object members name image hname himage =>
        rw [entryOf, (field_optionalText_eq_ok members "name" name).mpr hname,
          (field_optionalText_eq_ok members "containerImage" image).mpr himage]
        rfl
    | @array first second name image hname himage =>
        rw [entryOf, (optionalText_eq_ok first name).mpr hname]
        show optionalText second >>= _ = _
        rw [(optionalText_eq_ok second image).mpr himage]
        rfl

theorem entriesOf_eq_ok (v : Json) (entries : List Entry) :
    entriesOf v = .ok entries ↔ AreEntries (some v) entries := by
  have hitems : ∀ items : List Json,
      items.mapM entryOf = .ok entries ↔ List.Forall₂ IsEntry items entries := by
    intro items
    rw [mapM_eq_ok]
    constructor
    · exact List.Forall₂.imp fun v e => (entryOf_eq_ok v e).mp
    · exact List.Forall₂.imp fun v e => (entryOf_eq_ok v e).mpr
  constructor
  · intro h
    cases v with
    | array items => exact .array ((hitems items).mp h)
    | _ => exact nomatch h
  · intro h
    cases h with
    | array hall => exact (hitems _).mpr hall

theorem text_eq_ok (v : Json) (s : String) : text v = .ok s ↔ IsApplication (some v) s := by
  constructor
  · intro h
    cases v with
    | string t =>
        rw [← Except.ok.inj h]
        exact .text t
    | _ => exact nomatch h
  · intro h
    cases h
    rfl

theorem field_text_eq_ok (members : List (String × Json)) (name s : String) :
    field members name "" text = .ok s ↔ IsApplication (members.lookup name) s := by
  refine field_eq_ok ?_ text_eq_ok members name s
  intro a
  constructor
  · intro h
    cases h
    rfl
  · intro h
    rw [h]
    exact .absent

theorem field_entriesOf_eq_ok (members : List (String × Json)) (name : String)
    (entries : List Entry) :
    field members name [] entriesOf = .ok entries ↔ AreEntries (members.lookup name) entries := by
  refine field_eq_ok ?_ entriesOf_eq_ok members name entries
  intro a
  constructor
  · intro h
    cases h
    rfl
  · intro h
    rw [h]
    exact .absent

/-- A value is fitted as a document just when it has the form of one. -/
theorem ofJson_eq_ok (v : Json) (doc : Document) :
    Document.ofJson v = .ok doc ↔ IsDocument v doc := by
  constructor
  · intro h
    match v with
    | .object members =>
        rw [Document.ofJson] at h
        obtain ⟨application, happ, h⟩ := bind_eq_ok.mp h
        obtain ⟨entries, hentries, h⟩ := bind_eq_ok.mp h
        rw [← Except.ok.inj h]
        exact .object ((field_text_eq_ok members "application" application).mp happ)
          ((field_entriesOf_eq_ok members "components" entries).mp hentries)
    | .array [] =>
        rw [← Except.ok.inj h]
        exact .array (Nat.zero_le 2) .absent .absent
    | .array [first] =>
        rw [Document.ofJson] at h
        obtain ⟨application, happ, h⟩ := bind_eq_ok.mp h
        rw [← Except.ok.inj h]
        exact .array (Nat.le_succ 1) ((text_eq_ok first application).mp happ) .absent
    | .array (first :: second :: more) =>
        rw [Document.ofJson] at h
        obtain ⟨application, happ, h⟩ := bind_eq_ok.mp h
        obtain ⟨entries, hentries, h⟩ := bind_eq_ok.mp h
        cases more with
        | nil =>
            rw [← Except.ok.inj h]
            exact .array (Nat.le_refl 2) ((text_eq_ok first application).mp happ)
              ((entriesOf_eq_ok second entries).mp hentries)
        | cons third more => exact nomatch h
    | .null | .bool _ | .natural _ | .negative _ | .float _ | .string _ => exact nomatch h
  · intro h
    cases h with
    | @object members application entries happ hentries =>
        rw [Document.ofJson, (field_text_eq_ok members "application" application).mpr happ]
        show field members "components" [] entriesOf >>= _ = _
        rw [(field_entriesOf_eq_ok members "components" entries).mpr hentries]
        rfl
    | @array items application entries hlen happ hentries =>
        match items with
        | [] =>
            cases happ
            cases hentries
            rfl
        | [first] =>
            cases hentries
            rw [Document.ofJson, (text_eq_ok first application).mpr happ]
            rfl
        | [first, second] =>
            rw [Document.ofJson, (text_eq_ok first application).mpr happ]
            show entriesOf second >>= _ = _
            rw [(entriesOf_eq_ok second entries).mpr hentries]
            rfl
        | first :: second :: third :: more =>
            rw [List.length_cons, List.length_cons, List.length_cons] at hlen
            omega

end ReleaseGate.Snapshot
