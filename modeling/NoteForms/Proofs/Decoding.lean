import Mathlib.Algebra.Group.Int.Defs
import NoteForms.Outcome.Basic
import NoteForms.Proofs.RoundTrip

/-!
# What is written decodes

Decoding asks less than the checks do: names may be blank or used twice, and an option's value may
have blanks around it.  So everything that is written decodes to what was written, well-formed or
not, as long as its bounds are numbers, which JSON can write (`decode_written`).

A decoder finds the members of a written object by name, and takes out those that are a tag before
it goes on to the others.  `Json.Holds` is what is left of the written members at each point.
-/

namespace NoteForms

variable {α β : Type}

namespace Json

/-- Members that hold under each name what others do, sorted. -/
def Holds (found members : List (String × Json)) : Prop :=
  ∀ name, lookup name found = (lookup name members).map sorted

theorem exists_holds (members : List (String × Json)) (h : (members.map (·.1)).Nodup) :
    ∃ found, (Json.obj members).sorted = .obj found ∧ Holds found members :=
  exists_sorted_obj members h

/-- Without the member of one name, the others are still held. -/
theorem Holds.without {found members : List (String × Json)} {name : String} {v : Json}
    (h : Holds found ((name, v) :: members)) (hname : name ∉ members.map (·.1)) :
    Holds (found.filter fun m => m.1 != name) members := by
  intro other
  by_cases hother : name = other
  · subst hother
    rw [lookup_eq_none_iff.2 hname, Option.map_none, lookup_eq_none_iff]
    simp
  · rw [lookup_filter_ne hother, h, lookup_cons_ne hother]

/-- The tag of a written object tells its kind, and what comes next finds the other members. -/
theorem Holds.taggedParts_bind {found members : List (String × Json)} {setAside : Bool}
    {expected tag name : String} {choices : List (String × α)} {a : α} {b : β}
    {next : α × Parts → Decoded β} (h : Holds found ((tag, .str name) :: members))
    (htag : tag ∉ members.map (·.1)) (ha : lookup name choices = some a)
    (hnext : ∀ others, Holds others members → next (a, .named others) = .ok b) :
    (taggedParts setAside expected tag choices (.obj found) >>= next) = .ok b := by
  have hfound : lookup tag found = some (.str name) := by
    rw [h, lookup_cons_self]
    rfl
  rw [taggedParts_of_lookup hfound ha]
  exact hnext _ (h.without htag)

theorem singleOptional_of_lookup (decode : Json → Decoded α) {members : List (String × Json)}
    {name : String} {encode : α → Json} {a : Option α} (hne : ∀ x, encode x ≠ .null)
    (hdecode : ∀ x ∈ a, decode (encode x) = .ok x) (h : lookup name members = a.map encode) :
    (Parts.named members).singleOptional name decode = .ok a := by
  obtain ⟨found, hfound, rfl⟩ := member?_optional decode hne hdecode h
  rw [Parts.singleOptional, hfound]
  rfl

/-- The bound that was written, if it is a number. -/
theorem decodeNumber_ofBound (x : Binary64) : decodeNumber (ofBound (.finite x)) = .ok x := by
  obtain ⟨n, hn, rfl⟩ := exists_ofBinary64 x
  rw [ofBound, hn]
  rfl

end Json

open Json

/-! ## Inputs -/

theorem SelectOption.decode_sorted (o : SelectOption) : decode o.toJson.sorted = .ok o := by
  obtain ⟨found, hobj, hfound⟩ := exists_holds
    (("value", .str o.value) :: Json.optional "label" .str o.label)
    (by cases o.label <;> simp [Json.optional])
  have hvalue : member? found "value" decodeString = .ok (some o.value) :=
    member?_of_lookup (hfound "value") rfl
  have hlabel : lookup "label" found = o.label.map .str := by
    rw [hfound]
    cases o.label <;> rfl
  obtain ⟨label, hlabel, hjoin⟩ :=
    member?_optional decodeString (by simp) (fun _ _ => rfl) hlabel
  rw [toJson, hobj, decode, innerParts]
  simp only [bind, Except.bind, hlabel, hvalue, Json.required, hjoin]
  rfl

theorem SelectSource.decode_of_holds {s : SelectSource} {found : List (String × Json)}
    (h : Holds found s.members) : decode (.named found) = .ok s := by
  cases s with
  | notes folder =>
    refine h.taggedParts_bind (by simp) rfl fun others h => ?_
    simp only [single_of_lookup (h "folder") (decodeString_str folder)]
    rfl
  | fixed options =>
    refine h.taggedParts_bind (by simp) rfl fun others h => ?_
    have hoptions : lookup "options" others
        = some (.arr (options.map fun o => o.toJson.sorted)) := by
      rw [h, ← sorted_arr_map]
      rfl
    have hdecode : decodeList SelectOption.decode (.arr (options.map fun o => o.toJson.sorted))
        = .ok options := decodeItems_map fun o _ => o.decode_sorted
    simp only [single_of_lookup hoptions hdecode]
    rfl

theorem MultiselectSource.decode_of_holds {s : MultiselectSource} {found : List (String × Json)}
    (h : Holds found s.members) : decode (.named found) = .ok s := by
  cases s with
  | notes folder =>
    refine h.taggedParts_bind (by simp) rfl fun others h => ?_
    simp only [single_of_lookup (h "folder") (decodeString_str folder)]
    rfl
  | fixed options allowUnknown =>
    refine h.taggedParts_bind (by simp) rfl fun others h => ?_
    have hallow : member? others "allowUnknownValues" decodeBool = .ok (some allowUnknown) :=
      member?_of_lookup (h "allowUnknownValues") rfl
    have hoptions : lookup "multi_select_options" others = some (ofStrings options) := by
      rw [h]
      exact congrArg some (sorted_ofStrings options)
    simp only [decodeFixed, hallow, member?_of_lookup hoptions (decodeList_ofStrings options)]
    rfl
  | dataview query allowUnknown =>
    refine h.taggedParts_bind (by simp) rfl fun others h => ?_
    have hallow : member? others "allowUnknownValues" decodeBool = .ok (some allowUnknown) :=
      member?_of_lookup (h "allowUnknownValues") rfl
    have hquery : member? others "query" decodeString = .ok (some query) :=
      member?_of_lookup (h "query") rfl
    simp only [decodeDataview, hallow, hquery]
    rfl

namespace Input

/-- An input whose bounds, if it has some, are numbers. -/
def HasFiniteBounds : Input → Prop
  | .slider min max => min.IsFinite ∧ max.IsFinite
  | _ => True

theorem lookup_kind (kind : InputKind) :
    lookup kind.name (InputKind.all.map fun kind => (kind.name, kind)) = some kind := by
  cases kind with
  | basic kind => cases kind <;> rfl
  | _ => rfl

theorem decodeSlider_of_holds {found : List (String × Json)} {x y : Binary64}
    (h : Holds found (slider (.finite x) (.finite y)).members) :
    decodeSlider (.named found) = .ok (.slider (.finite x) (.finite y)) := by
  have hmin : lookup "min" found = some (ofBound (.finite x)) := by
    rw [h, ← sorted_ofBound]
    rfl
  have hmax : lookup "max" found = some (ofBound (.finite y)) := by
    rw [h, ← sorted_ofBound]
    rfl
  rw [decodeSlider, member?_of_lookup hmax (decodeNumber_ofBound y),
    member?_of_lookup hmin (decodeNumber_ofBound x)]
  rfl

theorem decode_sorted {i : Input} (hi : i.HasFiniteBounds) : decode i.toJson.sorted = .ok i := by
  obtain ⟨found, hobj, hfound⟩ := exists_holds _ i.nodup_names
  rw [toJson, hobj]
  refine hfound.taggedParts_bind (List.nodup_cons.1 i.nodup_names).1 (lookup_kind i.kind)
    fun others h => ?_
  cases i with
  | basic plain hidden =>
    have hhidden : lookup "hidden" others = hidden.map .bool := by
      rw [h]
      cases hidden <;> rfl
    simp only [kind, singleOptional_of_lookup decodeBool (by simp)
      (fun _ _ => rfl) hhidden]
    rfl
  | tag exclude =>
    have hexclude : lookup "exclude" others = exclude.map .str := by
      rw [h]
      cases exclude <;> rfl
    simp only [kind, singleOptional_of_lookup decodeString (by simp)
      (fun _ _ => rfl) hexclude]
    rfl
  | slider min max =>
    obtain ⟨⟨x, rfl⟩, y, rfl⟩ := hi
    exact decodeSlider_of_holds h
  | note directory =>
    simp only [kind, single_of_lookup (h "folder") (decodeString_str directory)]
    rfl
  | folder => rfl
  | dataview query =>
    simp only [kind, single_of_lookup (h "query") (decodeString_str query)]
    rfl
  | select source =>
    simp only [kind, SelectSource.decode_of_holds h]
    rfl
  | multiselect source =>
    simp only [kind, MultiselectSource.decode_of_holds h]
    rfl
  | documentBlock body =>
    simp only [kind, single_of_lookup (h "body") (decodeString_str body)]
    rfl

end Input

/-! ## Conditions -/

theorem Test.decodeTest_of_holds {t : Test} (ht : t.WellFormed) {setAside : Bool}
    {found : List (String × Json)}
    (hfound : Holds found (("type", .str t.kind.name) :: t.members)) :
    decodeTest setAside (.obj found) = .ok t := by
  have hkind : lookup t.kind.name (TestKind.all.map fun kind => (kind.name, kind))
      = some t.kind := by cases t <;> rfl
  refine hfound.taggedParts_bind (by cases t <;> simp [members]) hkind fun others h => ?_
  cases t with
  | isSet => rfl
  | startsWith start =>
    simp only [kind, single_of_lookup (h "value") (decodeString_str start)]
    rfl
  | contains needle =>
    simp only [kind, single_of_lookup (h "value") (decodeString_str needle)]
    rfl
  | above bound =>
    obtain ⟨x, rfl⟩ := ht
    have hvalue : lookup "value" others = some (ofBound (.finite x)) := by
      rw [h, ← sorted_ofBound]
      rfl
    simp only [kind, single_of_lookup hvalue (decodeNumber_ofBound x)]
    rfl
  | below bound =>
    obtain ⟨x, rfl⟩ := ht
    have hvalue : lookup "value" others = some (ofBound (.finite x)) := by
      rw [h, ← sorted_ofBound]
      rfl
    simp only [kind, single_of_lookup hvalue (decodeNumber_ofBound x)]
    rfl
  | boolean expected =>
    have hvalue : lookup "value" others = some (.bool expected) := h "value"
    have hdecode : decodeBool (.bool expected) = .ok expected := rfl
    simp only [kind, single_of_lookup hvalue hdecode]
    rfl

theorem Condition.decode_sorted {c : Condition} (hc : c.test.WellFormed) :
    decode c.toJson.sorted = .ok c := by
  obtain ⟨found, hobj, hfound⟩ := exists_holds _ c.nodup_names
  have hname : member? found "dependencyName" decodeString = .ok (some c.dependency) :=
    member?_of_lookup (hfound "dependencyName") rfl
  have htest : Test.decodeTest true (.obj (found.filter fun m => m.1 != "dependencyName"))
      = .ok c.test := Test.decodeTest_of_holds hc
    (hfound.without (List.nodup_cons.1 c.nodup_names).1)
  rw [toJson, hobj, decode]
  simp only [bind, Except.bind, hname, Json.required, htest]
  rfl

/-! ## Fields, templates and forms -/

/-- A field whose input and condition have no bounds but numbers. -/
structure Field.HasFiniteBounds (f : Field) : Prop where
  input : f.input.HasFiniteBounds
  condition : ∀ c ∈ f.condition, c.test.WellFormed

theorem Field.decode_sorted {f : Field} (hf : f.HasFiniteBounds) :
    decode f.toJson.sorted = .ok f := by
  obtain ⟨found, hobj, hfound⟩ := exists_holds _ f.nodup_names
  have hname : member? found "name" decodeString = .ok (some f.name) :=
    member?_of_lookup (hfound "name") rfl
  have hdescription : lookup "description" found = some (.str f.description) := by
    simp [hfound _, members, lookup, lookup_append, lookup_optional, sorted]
  have hinput : lookup "input" found = some f.input.toJson.sorted := by
    simp [hfound _, members, lookup, lookup_append, lookup_optional]
  have hlabel : lookup "label" found = f.label.map .str := by
    simp [hfound _, members, lookup, lookup_append, lookup_optional, Function.comp_def, sorted]
  have hrequired : lookup "isRequired" found = f.required.map .bool := by
    simp [hfound _, members, lookup, lookup_append, lookup_optional, Function.comp_def, sorted]
  have hcondition : lookup "condition" found = f.condition.map fun c => c.toJson.sorted := by
    simp [hfound _, members, lookup, lookup_append, lookup_optional, Function.comp_def]
  obtain ⟨label, hlabel, hlabelJoin⟩ :=
    member?_optional decodeString (by simp) (fun _ _ => rfl) hlabel
  obtain ⟨required, hrequired, hrequiredJoin⟩ :=
    member?_optional decodeBool (by simp) (fun _ _ => rfl) hrequired
  obtain ⟨condition, hcondition, hconditionJoin⟩ :=
    member?_optional Condition.decode (fun c => sorted_ne_null (by simp [Condition.toJson]))
      (fun c hc => Condition.decode_sorted (hf.condition c hc)) hcondition
  rw [toJson, hobj, decode, parts]
  simp only [bind, Except.bind, hcondition, member?_of_lookup hdescription (decodeString_str _),
    member?_of_lookup hinput (Input.decode_sorted hf.input), hrequired, hlabel, hname,
    Json.required, hlabelJoin, hrequiredJoin, hconditionJoin]
  rfl

theorem NoteTemplate.decode_sorted (t : NoteTemplate) : decode t.toJson.sorted = .ok t := by
  obtain ⟨found, hobj, hfound⟩ := exists_holds [("createCommand", .bool t.createCommand),
    ("parsedTemplate", t.template.toJson)] (by simp)
  have hcreate : member? found "createCommand" decodeBool = .ok (some t.createCommand) :=
    member?_of_lookup (hfound "createCommand") rfl
  have htemplate : member? found "parsedTemplate" Template.decode = .ok (some t.template) :=
    member?_of_lookup (hfound "parsedTemplate") t.template.decode_sorted
  rw [toJson, hobj, decode, parts]
  simp only [bind, Except.bind, hcreate, htemplate, Json.required]
  rfl

/-- A form without bounds but numbers. -/
def Form.HasFiniteBounds (f : Form) : Prop := ∀ field ∈ f.fields, field.HasFiniteBounds

theorem Form.decode_sorted {f : Form} (hf : f.HasFiniteBounds) :
    decode f.toJson.sorted = .ok f := by
  obtain ⟨found, hobj, hfound⟩ := exists_holds _ f.nodup_names
  have htitle : member? found "title" decodeString = .ok (some f.title) :=
    member?_of_lookup (hfound "title") rfl
  have hname : member? found "name" decodeString = .ok (some f.name) :=
    member?_of_lookup (hfound "name") rfl
  have hversion : lookup "version" found = some (.str formVersion) := by
    simp [hfound _, members, lookup, lookup_append, lookup_optional, sorted]
  have hcurrent : decodeVersion (.str formVersion) = .ok () := rfl
  have hfields : lookup "fields" found = some (.arr (f.fields.map fun g => g.toJson.sorted)) := by
    rw [← sorted_arr_map]
    simp [hfound _, members, lookup, lookup_append, lookup_optional]
  have hclass : lookup "customClassname" found = f.className.map .str := by
    simp [hfound _, members, lookup, lookup_append, lookup_optional, Function.comp_def, sorted]
  have htemplate : lookup "template" found = f.template.map fun t => t.toJson.sorted := by
    simp [hfound _, members, lookup, lookup_append, lookup_optional, Function.comp_def]
  have hdecode : decodeList Field.decode (.arr (f.fields.map fun g => g.toJson.sorted))
      = .ok f.fields := decodeItems_map fun g hg => Field.decode_sorted (hf g hg)
  obtain ⟨className, hclass, hclassJoin⟩ :=
    member?_optional decodeString (by simp) (fun _ _ => rfl) hclass
  obtain ⟨template, htemplate, htemplateJoin⟩ :=
    member?_optional NoteTemplate.decode (fun t => sorted_ne_null (by simp [NoteTemplate.toJson]))
      (fun t _ => t.decode_sorted) htemplate
  rw [toJson, hobj, decode, parts]
  simp only [bind, Except.bind, hclass, member?_of_lookup hfields hdecode, hname, htemplate,
    htitle, member?_of_lookup hversion hcurrent, Json.required, hclassJoin,
    htemplateJoin]
  rfl

/-! ## Answers and outcomes -/

theorem Table.get?_ofList (name : String) {entries : List (String × α)}
    (h : (entries.map (·.1)).Nodup) : (Table.ofList entries).get? name = lookup name entries := by
  have hentries : (Table.ofList entries).entries
      = entries.foldl (fun sorted e => insertEntry e.1 e.2 sorted) [] :=
    (List.foldl_hom Table.entries fun _ _ => rfl).symm
  rw [Table.get?, hentries, lookup_foldl_insertEntry name entries [] h, lookup, Option.or_none]

/-- A table is made again by putting its entries into one, one after the other. -/
theorem Table.ofList_entries (t : Table α) : Table.ofList t.entries = t :=
  Table.ext_get? fun name => Table.get?_ofList name t.sorted.nodup

theorem Answer.isOrdered_toJson (a : Answer) : a.toJson.IsOrdered := by
  cases a with
  | list items => exact sorted_ofStrings items
  | _ => rfl

theorem Answer.decode_toJson (a : Answer) : decode a.toJson = .ok a := by
  cases a with
  | number x =>
    obtain ⟨n, hn, rfl⟩ := exists_ofBinary64 x
    rw [toJson, hn]
    rfl
  | list items =>
    have hdecode : decodeItems decodeString (items.map .str) = .ok items :=
      decodeItems_map fun _ _ => rfl
    simp only [toJson, ofStrings, decode]
    rw [hdecode]
    rfl
  | _ => rfl

namespace Answers

theorem isOrdered_toJson (answers : Answers) : answers.toJson.IsOrdered := by
  refine isOrdered_obj.2 ⟨List.pairwise_map.2 answers.sorted, fun m hm => ?_⟩
  obtain ⟨e, -, rfl⟩ := List.mem_map.1 hm
  exact e.2.isOrdered_toJson

theorem decodeMembers_map :
    ∀ (entries : List (String × Answer)) (answers : Answers),
      decodeMembers answers (entries.map fun e => (e.1, e.2.toJson))
        = .ok (entries.foldl (fun t e => t.insert e.1 e.2) answers)
  | [], _ => rfl
  | e :: entries, answers => by
    rw [List.map_cons, decodeMembers, e.2.decode_toJson]
    exact decodeMembers_map entries (answers.insert e.1 e.2)

theorem decode_sorted (answers : Answers) : decode answers.toJson.sorted = .ok answers := by
  rw [answers.isOrdered_toJson, toJson, decode, decodeMembers_map]
  exact congrArg _ (Table.ofList_entries answers)

end Answers

theorem Outcome.decode_sorted (o : Outcome) : decode o.toJson.sorted = .ok o := by
  obtain ⟨found, hobj, hfound⟩ := exists_holds
    [("status", .str o.status.name), ("data", o.answers.toJson)] (by simp)
  have hstatus : lookup "status" found = some (.str o.status.name) := hfound "status"
  have hdecode : decodeStatus (.str o.status.name) = .ok o.status := by
    cases o.status <;> rfl
  have hanswers : member? found "data" Answers.decode = .ok (some o.answers) :=
    member?_of_lookup (hfound "data") o.answers.decode_sorted
  rw [toJson, hobj, decode, parts]
  simp only [bind, Except.bind, hanswers, member?_of_lookup hstatus hdecode, Json.required]
  rfl

/-- What is written for an input, a condition, a field, a form, a template, answers or an outcome
decodes to what was written; where there are bounds they must be numbers, as those in answers are. -/
theorem decode_written :
    (∀ i : Input, i.HasFiniteBounds → Input.decode i.toJson.sorted = .ok i)
      ∧ (∀ f : Field, f.HasFiniteBounds → Field.decode f.toJson.sorted = .ok f)
      ∧ (∀ c : Condition, c.test.WellFormed → Condition.decode c.toJson.sorted = .ok c)
      ∧ (∀ f : Form, f.HasFiniteBounds → Form.decode f.toJson.sorted = .ok f)
      ∧ (∀ t : Template, Template.decode t.toJson.sorted = .ok t)
      ∧ (∀ answers : Answers, Answers.decode answers.toJson.sorted = .ok answers)
      ∧ ∀ o : Outcome, Outcome.decode o.toJson.sorted = .ok o :=
  ⟨fun _ => Input.decode_sorted, fun _ => Field.decode_sorted, fun _ => Condition.decode_sorted,
    fun _ => Form.decode_sorted, Template.decode_sorted, Answers.decode_sorted,
    Outcome.decode_sorted⟩

/-- Two fields without a name, and a slider that ends before it begins: the form comes back all the
same. -/
theorem decode_written_nameless :
    let slider : Field := ⟨"", none, "", .slider (.finite (.ofInt (10 ^ 15))) (.finite 0),
      some false, some ⟨"", .above (.finite (.ofInt (-3)))⟩⟩
    let choice : Field := ⟨"", some "", "\n", .multiselect (.fixed [" ", " "] true), none, none⟩
    let f : Form := ⟨"", "", some "", [slider, choice],
      some ⟨true, [.text "", .variable "" (some .trim), .frontmatter ["", ""] []]⟩⟩
    f.HasFiniteBounds ∧ ¬f.WellFormed Pattern.faultOf
      ∧ Form.decode f.toJson.sorted = .ok f := by
  intro slider choice f
  have hslider : slider.HasFiniteBounds := ⟨⟨⟨_, rfl⟩, _, rfl⟩, by rintro _ ⟨⟩; exact ⟨_, rfl⟩⟩
  have hchoice : choice.HasFiniteBounds := ⟨trivial, by rintro _ ⟨⟩⟩
  have hf : f.HasFiniteBounds := by
    intro field hfield
    rcases List.mem_cons.1 hfield with rfl | hfield
    · exact hslider
    · exact List.mem_singleton.1 hfield ▸ hchoice
  obtain ⟨-, -, -, hform, -⟩ := decode_written
  refine ⟨hf, fun h => ?_, hform f hf⟩
  exact (List.pairwise_cons.1 h.distinct).1 choice (List.mem_singleton_self _) rfl

end NoteForms
