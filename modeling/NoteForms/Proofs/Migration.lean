import NoteForms.Proofs.Issues
import NoteForms.Proofs.WellFormed

/-!
# Bringing stored forms to the current version

The checks look at the members of a stored form and at nothing else, so a form that is current
already stays the same when its version is set (`Form.validate_stampVersion`), and whatever passes
the checks has the outline of a form.  Therefore a stored value can be taken in one step, its version
set at once (`Entry.ofJson_eq_ofStamped`), and the version that it names never decides what it
stands for (`Entry.ofJson_classifies`).
-/

namespace NoteForms

open Validated

variable {faultOf : String → Option String} {members others : Members}

/-! ## Stamping -/

theorem lookup_stamped (key : String) (members : Members) :
    lookup key (insertEntry "version" (.str formVersion) members)
      = if "version" = key then some (.str formVersion) else lookup key members :=
  lookup_insertEntry "version" key (.str formVersion) members

/-- Two objects that differ in their version at most are stamped alike. -/
theorem lookup_stamped_eq (h : ∀ key, key ≠ "version" → lookup key members = lookup key others)
    (key : String) :
    lookup key (insertEntry "version" (.str formVersion) members)
      = lookup key (insertEntry "version" (.str formVersion) others) := by
  rw [lookup_stamped, lookup_stamped]
  split
  · rfl
  · rename_i hne
    exact h key (Ne.symm hne)

namespace Form

/-- The checks of an object depend on what is found in it. -/
theorem validate_obj_congr (h : ∀ key, lookup key members = lookup key others) :
    validate faultOf (.obj members) = validate faultOf (.obj others) := by
  have hpresent : ∀ key, members.present? key = others.present? key := by
    intro key
    rw [Members.present?, Members.present?, h]
  simp only [validate, Members.ofJson, Validated.andThen, Members.nonBlankText, Members.text,
    Members.optionalText, Members.literal, fieldsOf, Members.array, templateOf, hpresent]

/-- Setting a version that is the current one already changes nothing. -/
theorem validate_stampVersion_of_lookup (h : lookup "version" members = some (.str formVersion)) :
    validate faultOf (stampVersion (.obj members)) = validate faultOf (.obj members) := by
  refine validate_obj_congr fun key => ?_
  rw [lookup_stamped]
  split
  · rename_i hkey
    rw [← hkey, h]
  · rfl

theorem validate_stampVersion {raw : Json} {f : Form} (h : validate faultOf raw = .valid f) :
    validate faultOf (stampVersion raw) = .valid f := by
  obtain ⟨members, rfl, -, -, -, hversion, -, -⟩ := validate_eq_valid_iff.1 h
  rw [validate_stampVersion_of_lookup (Members.literal_eq_valid_iff.1 hversion), h]

end Form

/-! ## Outlines -/

/-- An object with a title, a name and a list of fields, and a text for its class if anything. -/
def Json.HasOutline (raw : Json) : Prop :=
  ∃ (members : Members) (title name : String) (fields : List Json), raw = .obj members
    ∧ lookup "title" members = some (.str title) ∧ lookup "name" members = some (.str name)
    ∧ lookup "fields" members = some (.arr fields)
    ∧ (lookup "customClassname" members = none ∨ lookup "customClassname" members = some .null
      ∨ ∃ className, lookup "customClassname" members = some (.str className))

theorem Members.exists_optionalText_iff {base : KeyPath} {key : String} :
    (∃ s, members.optionalText base key = .valid s)
      ↔ lookup key members = none ∨ lookup key members = some .null
        ∨ ∃ text, lookup key members = some (.str text) := by
  constructor
  · rintro ⟨s, hs⟩
    rw [Members.optionalText_eq_valid_iff] at hs
    cases s with
    | some text => exact .inr (.inr ⟨text, (Members.present?_eq_some_iff.1 hs).1⟩)
    | none =>
      unfold Members.present? at hs
      split at hs
      · exact .inr (.inl ‹_›)
      · exact .inl hs
  · rintro (h | h | ⟨text, h⟩)
    · exact ⟨none, by simp [Members.optionalText, Members.present?, h]⟩
    · exact ⟨none, by simp [Members.optionalText, Members.present?, h]⟩
    · exact ⟨some text, by simp [Members.optionalText, Members.present?, h]⟩

namespace FormOutline

theorem validate_eq_valid_iff {raw : Json} {o : FormOutline} :
    validate raw = .valid o
      ↔ ∃ members : Members, raw = .obj members ∧ lookup "title" members = some (.str o.title)
          ∧ lookup "name" members = some (.str o.name)
          ∧ members.optionalText [] "customClassname" = .valid o.className
          ∧ lookup "fields" members = some (.arr o.fields) := by
  simp only [validate, andThen_eq_valid_iff, seq_eq_valid_iff, map_eq_valid_iff,
    Members.ofJson_eq_valid_iff, Members.text_eq_valid_iff, Members.array_eq_valid_iff]
  constructor
  · rintro ⟨members, hraw, _, ⟨_, ⟨_, ⟨title, htitle, rfl⟩, name, hname, rfl⟩, className, hclass,
      rfl⟩, fields, hfields, rfl⟩
    exact ⟨members, hraw, htitle, hname, hclass, hfields⟩
  · rintro ⟨members, hraw, htitle, hname, hclass, hfields⟩
    exact ⟨members, hraw, _, ⟨_, ⟨_, ⟨_, htitle, rfl⟩, _, hname, rfl⟩, _, hclass, rfl⟩, _, hfields,
      rfl⟩

theorem exists_validate_iff {raw : Json} : (∃ o, validate raw = .valid o) ↔ raw.HasOutline := by
  constructor
  · rintro ⟨o, ho⟩
    obtain ⟨members, hraw, htitle, hname, hclass, hfields⟩ := validate_eq_valid_iff.1 ho
    exact ⟨members, _, _, _, hraw, htitle, hname, hfields,
      Members.exists_optionalText_iff.1 ⟨_, hclass⟩⟩
  · rintro ⟨members, title, name, fields, hraw, htitle, hname, hfields, hclass⟩
    obtain ⟨className, hclass⟩ := Members.exists_optionalText_iff.2 hclass
    exact ⟨⟨title, name, className, fields⟩,
      validate_eq_valid_iff.2 ⟨members, hraw, htitle, hname, hclass, hfields⟩⟩

/-- Whatever passes the checks once its version is set has the outline of a form. -/
theorem exists_validate_of_stampVersion {raw : Json} {f : Form}
    (h : Form.validate faultOf (stampVersion raw) = .valid f) : ∃ o, validate raw = .valid o := by
  obtain ⟨stamped, hraw, htitle, hname, hclass, -, hfields, -⟩ := Form.validate_eq_valid_iff.1 h
  cases raw with
  | obj members =>
    cases hraw
    obtain ⟨items, hitems, -⟩ := Form.fieldsOf_eq_valid_iff.1 hfields
    have htitle := (Members.nonBlankText_eq_valid_iff.1 htitle).1
    have hname := (Members.nonBlankText_eq_valid_iff.1 hname).1
    have hclass := Members.exists_optionalText_iff.1 ⟨_, hclass⟩
    simp only [lookup_stamped, String.reduceEq, if_false] at htitle hname hitems hclass
    exact exists_validate_iff.2 ⟨members, _, _, _, rfl, htitle, hname, hitems, hclass⟩
  | _ => cases hraw

/-- The outline does not depend on the version. -/
theorem validate_obj_congr (h : ∀ key, key ≠ "version" → lookup key members = lookup key others) :
    validate (.obj members) = validate (.obj others) := by
  have hpresent : ∀ key, key ≠ "version" → members.present? key = others.present? key := by
    intro key hkey
    rw [Members.present?, Members.present?, h key hkey]
  simp only [validate, Members.ofJson, Validated.andThen, Members.text, Members.optionalText,
    Members.array, hpresent "title" (by decide), hpresent "name" (by decide),
    hpresent "customClassname" (by decide), hpresent "fields" (by decide)]

end FormOutline

/-! ## Paths -/

theorem KeyPath.isPrefix_text (key : String) (rest : KeyPath) :
    key.toList <+: (KeyPath.text (key :: rest)).toList := by
  cases rest with
  | nil => simp [KeyPath.text]
  | cons next rest =>
    rw [KeyPath.text, String.intercalate_cons_cons, String.append_assoc, String.toList_append]
    exact List.prefix_append _ _

/-- Nothing is said of the version of a form whose version is set. -/
theorem Form.text_ne_version {i : Issue}
    (h : i ∈ (Form.validate faultOf (stampVersion (.obj members))).issues) :
    i.path.text ≠ "version" := by
  obtain ⟨key, hkey, rest, hpath⟩ :=
    Form.foundUnder_of_mem_issues faultOf (by rw [lookup_stamped, if_pos rfl]) h
  intro hversion
  have hprefix := KeyPath.isPrefix_text key rest
  rw [← hpath, hversion] at hprefix
  have hnone : ∀ key ∈ ["title", "name", "customClassname", "fields", "template"],
      ¬ key.toList <+: "version".toList := by decide
  exact hnone key hkey hprefix

/-! ## Entries -/

namespace Entry

/-- The entry that a stored value stands for, if its version is set at once. -/
def ofStamped (faultOf : String → Option String) (raw : Json) : Except NotAForm Entry :=
  match Form.validate faultOf (stampVersion raw) with
  | .valid form => .ok (.usable form)
  | .invalid issues =>
    match FormOutline.validate raw with
    | .valid outline => .ok (.broken ⟨outline, raw, issues⟩)
    | .invalid outlineIssues => .error ⟨raw, outlineIssues⟩

theorem ofJson_eq_ofStamped (faultOf : String → Option String) (raw : Json) :
    ofJson faultOf raw = ofStamped faultOf raw := by
  unfold ofJson ofStamped
  cases hstrict : Form.validate faultOf raw with
  | valid f => rw [Form.validate_stampVersion hstrict]
  | invalid issues =>
    cases houtline : FormOutline.validate raw with
    | valid o => cases Form.validate faultOf (stampVersion raw) <;> rfl
    | invalid outlineIssues =>
      cases hstamped : Form.validate faultOf (stampVersion raw) with
      | invalid stampedIssues => rfl
      | valid f =>
        obtain ⟨o, ho⟩ := FormOutline.exists_validate_of_stampVersion hstamped
        rw [houtline] at ho
        cases ho

theorem ofJson_eq_usable_iff {raw : Json} {f : Form} :
    ofJson faultOf raw = .ok (.usable f)
      ↔ Form.validate faultOf (stampVersion raw) = .valid f := by
  rw [ofJson_eq_ofStamped, ofStamped]
  split
  · simp_all
  · split <;> simp_all

theorem ofJson_eq_broken_iff {raw : Json} {b : BrokenForm} :
    ofJson faultOf raw = .ok (.broken b)
      ↔ b.raw = raw ∧ FormOutline.validate raw = .valid b.outline
        ∧ Form.validate faultOf (stampVersion raw) = .invalid b.issues := by
  rw [ofJson_eq_ofStamped, ofStamped]
  obtain ⟨outline, stored, issues⟩ := b
  split
  · simp_all
  · split
    · simp_all
      tauto
    · simp_all

theorem ofJson_eq_error_iff {raw : Json} {n : NotAForm} :
    ofJson faultOf raw = .error n
      ↔ n.raw = raw ∧ FormOutline.validate raw = .invalid n.issues := by
  rw [ofJson_eq_ofStamped, ofStamped]
  obtain ⟨stored, issues⟩ := n
  split
  · rename_i f hf
    obtain ⟨o, ho⟩ := FormOutline.exists_validate_of_stampVersion hf
    simp [ho]
  · split
    · simp_all
    · simp_all
      tauto

/-- Found to be the same, whatever was stored. -/
def Alike : Except NotAForm Entry → Except NotAForm Entry → Prop
  | .ok (.usable f), .ok (.usable g) => f = g
  | .ok (.broken b), .ok (.broken c) => b.outline = c.outline ∧ b.issues = c.issues
  | .error n, .error m => n.issues = m.issues
  | _, _ => False

theorem alike_of_lookup_eq (h : ∀ key, key ≠ "version" → lookup key members = lookup key others) :
    Alike (ofJson faultOf (.obj members)) (ofJson faultOf (.obj others)) := by
  have hstamped : Form.validate faultOf (stampVersion (.obj members))
      = Form.validate faultOf (stampVersion (.obj others)) :=
    Form.validate_obj_congr (lookup_stamped_eq h)
  rw [ofJson_eq_ofStamped, ofJson_eq_ofStamped, ofStamped, ofStamped, hstamped,
    FormOutline.validate_obj_congr h]
  cases Form.validate faultOf (stampVersion (.obj others)) with
  | valid f => rfl
  | invalid issues =>
    cases FormOutline.validate (.obj others) with
    | valid o => exact ⟨rfl, rfl⟩
    | invalid outlineIssues => rfl

/-- A stored value is a usable form exactly if it is an object that passes the checks with its
version set.  Otherwise it is a broken form exactly if it has the outline of one, kept as it is with
issues that do not concern the version, and else it is no form and kept as well.  To try the stored
version first makes no difference, and neither does the version. -/
theorem ofJson_classifies (faultOf : String → Option String) :
    (∀ raw f, ofJson faultOf raw = .ok (.usable f)
      ↔ ∃ members, raw = .obj members
          ∧ Form.validate faultOf (.obj (insertEntry "version" (.str "1") members)) = .valid f)
    ∧ (∀ raw, (∀ f, ofJson faultOf raw ≠ .ok (.usable f)) →
        ((∃ b, ofJson faultOf raw = .ok (.broken b)) ↔ raw.HasOutline)
        ∧ (∀ b, ofJson faultOf raw = .ok (.broken b) →
            b.raw = raw ∧ b.issues ≠ [] ∧ ∀ i ∈ b.issues, i.path.text ≠ "version")
        ∧ (¬ raw.HasOutline → ∃ n, ofJson faultOf raw = .error n ∧ n.raw = raw))
    ∧ (∀ raw, ofJson faultOf raw = ofStamped faultOf raw)
    ∧ ∀ members others : Members,
        (∀ key, key ≠ "version" → lookup key members = lookup key others) →
          Alike (ofJson faultOf (.obj members)) (ofJson faultOf (.obj others)) := by
  refine ⟨fun raw f => ?_, fun raw hunusable => ⟨?_, fun b hb => ?_, fun hnone => ?_⟩,
    ofJson_eq_ofStamped faultOf, fun members others h => alike_of_lookup_eq h⟩
  · rw [ofJson_eq_usable_iff]
    constructor
    · intro h
      obtain ⟨o, ho⟩ := FormOutline.exists_validate_of_stampVersion h
      obtain ⟨members, rfl, -⟩ := FormOutline.validate_eq_valid_iff.1 ho
      exact ⟨members, rfl, h⟩
    · rintro ⟨members, rfl, h⟩
      exact h
  · rw [← FormOutline.exists_validate_iff]
    constructor
    · rintro ⟨b, hb⟩
      exact ⟨_, (ofJson_eq_broken_iff.1 hb).2.1⟩
    · rintro ⟨o, ho⟩
      cases hstamped : Form.validate faultOf (stampVersion raw) with
      | valid f => exact absurd (ofJson_eq_usable_iff.2 hstamped) (hunusable f)
      | invalid issues => exact ⟨⟨o, raw, issues⟩, ofJson_eq_broken_iff.2 ⟨rfl, ho, hstamped⟩⟩
  · obtain ⟨hraw, ho, hissues⟩ := ofJson_eq_broken_iff.1 hb
    obtain ⟨members, rfl, -⟩ := FormOutline.validate_eq_valid_iff.1 ho
    refine ⟨hraw, (Form.explained_validate faultOf _).ne_nil hissues, fun i hi => ?_⟩
    have hmem : i ∈ (Form.validate faultOf (stampVersion (.obj members))).issues := by
      rw [hissues]
      exact hi
    exact Form.text_ne_version hmem
  · cases houtline : FormOutline.validate raw with
    | valid o => exact absurd (FormOutline.exists_validate_iff.1 ⟨o, houtline⟩) hnone
    | invalid issues => exact ⟨⟨raw, issues⟩, ofJson_eq_error_iff.2 ⟨rfl, houtline⟩, rfl⟩

/-- A form of an unknown version and the same form without one are broken alike. -/
theorem ofJson_classifies_blank_title :
    let members : Members := [("fields", .arr []), ("name", .str "note"), ("title", .str " ")]
    let versioned : Members := members ++ [("version", .num (.integer 7))]
    let broken (raw : Json) : Entry :=
      .broken ⟨⟨" ", "note", none, []⟩, raw, [⟨["title"], "must not be empty", none⟩]⟩
    (∀ key, key ≠ "version" → lookup key versioned = lookup key members)
      ∧ Alike (ofJson (fun _ => none) (.obj versioned)) (ofJson (fun _ => none) (.obj members))
      ∧ ofJson (fun _ => none) (.obj versioned) = .ok (broken (.obj versioned))
      ∧ (∀ f, ofJson (fun _ => none) (.obj versioned) ≠ .ok (.usable f))
      ∧ (Json.obj versioned).HasOutline := by
  intro members versioned broken
  have hsame : ∀ key, key ≠ "version" → lookup key versioned = lookup key members := by
    intro key hkey
    rw [lookup_append, lookup_cons_ne (Ne.symm hkey), lookup, Option.or_none]
  have hbroken : ofJson (fun _ => none) (.obj versioned) = .ok (broken (.obj versioned)) := by rfl
  have hunusable : ∀ f, ofJson (fun _ => none) (.obj versioned) ≠ .ok (.usable f) := by
    intro f
    rw [hbroken]
    simp [broken]
  have h := ofJson_classifies fun _ => none
  exact ⟨hsame, h.2.2.2 versioned members hsame, hbroken, hunusable,
    (h.2.1 _ hunusable).1.1 ⟨_, hbroken⟩⟩

end Entry

end NoteForms
