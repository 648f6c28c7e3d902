import NoteForms.Form.Encoding
import NoteForms.Pattern.Validity
import NoteForms.Proofs.WellFormed

/-!
# What is written passes

The checks and the writer were made separately; here they are shown to fit.  The members of what is
written have different names, so sorting them changes nothing that a check looks at, and each check
finds the value that was written.  So the checks take what is written for a form back to the form
exactly if the form is well-formed (`Form.validate_toJson_eq_valid_iff`).
-/

namespace NoteForms

variable {α : Type} {faultOf : String → Option String} {base : KeyPath}

namespace Json

/-! ## What is found in a written object -/

/-- A written object, sorted, holds under each name what was written there. -/
theorem exists_sorted_obj (members : List (String × Json)) (h : (members.map (·.1)).Nodup) :
    ∃ found, (Json.obj members).sorted = .obj found
      ∧ ∀ name, lookup name found = (lookup name members).map sorted :=
  ⟨_, rfl, fun name => lookup_sorted name h⟩

theorem lookup_optional (name key : String) (encode : α → Json) (a : Option α) :
    lookup name (Json.optional key encode a) = if key = name then a.map encode else none := by
  cases a <;> simp [optional, lookup]

theorem sorted_ofStrings (items : List String) : (ofStrings items).sorted = ofStrings items := by
  simp [ofStrings, sorted, sortedItems_eq_map]

theorem sorted_ofBound (b : Bound) : (ofBound b).sorted = ofBound b := by
  cases b <;> rfl

theorem sorted_arr_map (encode : α → Json) (as : List α) :
    (Json.arr (as.map encode)).sorted = .arr (as.map fun a => (encode a).sorted) := by
  rw [sorted, sortedItems_eq_map, List.map_map]
  rfl

theorem sorted_ne_null {v : Json} (h : v ≠ .null) : v.sorted ≠ .null := by
  cases v <;> simp_all [sorted]

/-! ## Decoding what is found -/

theorem decodeString_str (s : String) : decodeString (.str s) = .ok s := rfl

theorem member?_of_lookup {members : List (String × Json)} {name : String} {v : Json}
    {decode : Json → Decoded α} {a : α} (h : lookup name members = some v)
    (hdecode : decode v = .ok a) : member? members name decode = .ok (some a) := by
  rw [member?, h]
  simp only [hdecode]
  rfl

theorem member?_of_lookup_none {members : List (String × Json)} {name : String}
    {decode : Json → Decoded α} (h : lookup name members = none) :
    member? members name decode = .ok none := by
  rw [member?, h]

theorem exists_of_member? {members : List (String × Json)} {name : String}
    {decode : Json → Decoded α} {a : α} (h : member? members name decode = .ok (some a)) :
    ∃ v, lookup name members = some v ∧ decode v = .ok a := by
  unfold member? at h
  split at h
  · rename_i v hv
    obtain ⟨b, hdecode, hb⟩ := map_eq_ok_iff.1 h
    cases hb
    exact ⟨v, hv, hdecode⟩
  · cases h

theorem exists_of_item? {items : List Json} {index : Nat} {decode : Json → Decoded α} {a : α}
    (h : item? items index decode = .ok (some a)) : ∃ v ∈ items, decode v = .ok a := by
  unfold item? at h
  split at h
  · rename_i v hv
    obtain ⟨b, hdecode, hb⟩ := map_eq_ok_iff.1 h
    cases hb
    exact ⟨v, List.mem_of_getElem? hv, hdecode⟩
  · cases h

theorem single_of_lookup {members : List (String × Json)} {name expected : String} {v : Json}
    {decode : Json → Decoded α} {a : α} (h : lookup name members = some v)
    (hdecode : decode v = .ok a) : (Parts.named members).single expected name decode = .ok a := by
  simp only [Parts.single, member?_of_lookup h hdecode]
  rfl

/-- A part that may be absent is read from its member, or is absent with it. -/
theorem member?_optional (decode : Json → Decoded α) {members : List (String × Json)}
    {name : String} {encode : α → Json} {a : Option α} (hne : ∀ x, encode x ≠ .null)
    (hdecode : ∀ x ∈ a, decode (encode x) = .ok x) (h : lookup name members = a.map encode) :
    ∃ found, member? members name (decodeOptional decode) = .ok found ∧ found.join = a := by
  cases a with
  | none => exact ⟨none, member?_of_lookup_none h, rfl⟩
  | some x =>
    refine ⟨some (some x), member?_of_lookup h ?_, rfl⟩
    have hx := hdecode x rfl
    have hnull := hne x
    generalize encode x = v at hx hnull
    cases v with
    | null => exact absurd rfl hnull
    | _ => simp only [decodeOptional, hx]; rfl

theorem decodeItems_map {encode : α → Json} {decode : Json → Decoded α} :
    ∀ {as : List α}, (∀ a ∈ as, decode (encode a) = .ok a) →
      decodeItems decode (as.map encode) = .ok as
  | [], _ => rfl
  | a :: as, h => by
    obtain ⟨ha, has⟩ := List.forall_mem_cons.1 h
    rw [List.map_cons, decodeItems, ha, decodeItems_map has]
    rfl

theorem decodeList_ofStrings (items : List String) :
    decodeList decodeString (ofStrings items) = .ok items :=
  decodeItems_map fun _ _ => rfl

/-- The tag tells the kind, and the other members are still found. -/
theorem taggedParts_of_lookup {members : List (String × Json)} {setAside : Bool}
    {expected tag name : String} {choices : List (String × α)} {a : α}
    (htag : lookup tag members = some (.str name)) (ha : lookup name choices = some a) :
    taggedParts setAside expected tag choices (.obj members)
      = .ok (a, .named (members.filter fun m => m.1 != tag)) := by
  simp only [taggedParts, htag, decodeTag, decodeName, ha]
  rfl

end Json

open Json

/-! ## Templates -/

theorem Transform.decode_name (t : Transform) : Transform.decode (.str t.name) = .ok t := by
  cases t <;> rfl

namespace Segment

theorem decodeText_of_lookup {members : List (String × Json)} {value : String}
    (h : lookup "value" members = some (.str value)) :
    decodeText (.named members) = .ok (.text value) := by
  rw [decodeText, single_of_lookup h (decodeString_str value)]
  rfl

theorem decodeVariable_of_lookup {members : List (String × Json)} {name : String}
    {transform : Option Transform} (hname : lookup "value" members = some (.str name))
    (ht : lookup "transformation" members = transform.map fun t => .str t.name) :
    decodeVariable (.named members) = .ok (.variable name transform) := by
  obtain ⟨found, hfound, rfl⟩ :=
    member?_optional Transform.decode (by simp) (fun t _ => t.decode_name) ht
  rw [decodeVariable, hfound, member?_of_lookup hname (decodeString_str name)]
  rfl

theorem decodeFrontmatter_of_lookup {members : List (String × Json)} {picked omitted : List String}
    (hpicked : lookup "pick" members = some (ofStrings picked))
    (homitted : lookup "omit" members = some (ofStrings omitted)) :
    decodeFrontmatter (.named members) = .ok (.frontmatter picked omitted) := by
  rw [decodeFrontmatter, member?_of_lookup homitted (decodeList_ofStrings omitted),
    member?_of_lookup hpicked (decodeList_ofStrings picked)]
  rfl

theorem decode_sorted (s : Segment) : decode s.toJson.sorted = .ok s := by
  cases s with
  | text value =>
    obtain ⟨found, hobj, hfind⟩ :=
      exists_sorted_obj [("tag", .str "text"), ("value", .str value)] (by simp)
    have htag : lookup "tag" found = some (.str "text") := hfind "tag"
    have hvalue : lookup "value" (found.filter fun m => m.1 != "tag") = some (.str value) :=
      (lookup_filter_ne (by simp) found).trans (hfind "value")
    rw [toJson, hobj, decode, taggedParts_of_lookup htag rfl]
    exact decodeText_of_lookup hvalue
  | «variable» name transform =>
    obtain ⟨found, hobj, hfind⟩ := exists_sorted_obj (("tag", .str "variable")
      :: ("value", .str name) :: Json.optional "transformation" (fun t => .str t.name) transform)
      (by cases transform <;> simp [Json.optional])
    have htag : lookup "tag" found = some (.str "variable") := hfind "tag"
    have hname : lookup "value" (found.filter fun m => m.1 != "tag") = some (.str name) :=
      (lookup_filter_ne (by simp) found).trans (hfind "value")
    have ht : lookup "transformation" (found.filter fun m => m.1 != "tag")
        = transform.map fun t => .str t.name := by
      rw [lookup_filter_ne (by simp), hfind]
      cases transform <;> rfl
    rw [toJson, hobj, decode, taggedParts_of_lookup htag rfl]
    exact decodeVariable_of_lookup hname ht
  | frontmatter picked omitted =>
    obtain ⟨found, hobj, hfind⟩ := exists_sorted_obj [("tag", .str "frontmatter-command"),
      ("pick", ofStrings picked), ("omit", ofStrings omitted)] (by simp)
    have htag : lookup "tag" found = some (.str "frontmatter-command") := hfind "tag"
    have hpicked : lookup "pick" (found.filter fun m => m.1 != "tag")
        = some (ofStrings picked) := by
      rw [lookup_filter_ne (by simp), hfind]
      exact congrArg some (sorted_ofStrings picked)
    have homitted : lookup "omit" (found.filter fun m => m.1 != "tag")
        = some (ofStrings omitted) := by
      rw [lookup_filter_ne (by simp), hfind]
      exact congrArg some (sorted_ofStrings omitted)
    rw [toJson, hobj, decode, taggedParts_of_lookup htag rfl]
    exact decodeFrontmatter_of_lookup hpicked homitted

end Segment

theorem Template.decode_sorted (t : Template) : Template.decode t.toJson.sorted = .ok t := by
  rw [Template.toJson, sorted_arr_map]
  exact decodeItems_map fun s _ => s.decode_sorted

theorem NoteTemplate.validate_sorted (t : NoteTemplate) :
    NoteTemplate.validate t.toJson.sorted = .valid t := by
  obtain ⟨found, hobj, hfind⟩ := exists_sorted_obj
    [("createCommand", .bool t.createCommand), ("parsedTemplate", t.template.toJson)] (by simp)
  have hflag : Members.flag found ["template"] "createCommand" = .valid t.createCommand :=
    Members.flag_eq_valid_iff.2 (hfind "createCommand")
  have htemplate : NoteTemplate.segmentsOf found ["template"] = .valid t.template := by
    have hfound : lookup "parsedTemplate" found = some t.template.toJson.sorted :=
      hfind "parsedTemplate"
    simp only [NoteTemplate.segmentsOf, hfound, t.template.decode_sorted]
  rw [NoteTemplate.toJson, hobj, NoteTemplate.validate, validateAt, Members.ofJson,
    Validated.andThen, hflag, htemplate]
  rfl

/-! ## Conditions -/

theorem TestKind.ofName?_name (kind : TestKind) : TestKind.ofName? kind.name = some kind := by
  cases kind <;> rfl

theorem Test.isOrdered_of_mem (t : Test) : ∀ m ∈ t.members, m.2.IsOrdered := by
  cases t <;> simp [Test.members, IsOrdered, sorted, sorted_ofBound]

/-- A number that is written for a bound is read as that bound. -/
theorem Members.number_of_lookup {members : Members} {key : String} {x : Binary64}
    (h : lookup key members = some (ofBound (.finite x))) :
    Members.number members base key = .valid x := by
  obtain ⟨n, hn, hx⟩ := exists_ofBinary64 x
  exact number_eq_valid_iff.2 ⟨n, by rw [h, ofBound, hn], hx⟩

namespace Condition

theorem testOf_of_lookup {members : Members} {t : Test} (ht : t.WellFormed)
    (h : ∀ m ∈ t.members, lookup m.1 members = some m.2) :
    testOf members base t.kind = .valid t := by
  cases t with
  | isSet => rfl
  | startsWith start =>
    have hstart : members.text base "value" = .valid start :=
      Members.text_eq_valid_iff.2 (h _ List.mem_cons_self)
    exact Validated.map_eq_valid_iff.2 ⟨start, hstart, rfl⟩
  | contains needle =>
    have hneedle : members.text base "value" = .valid needle :=
      Members.text_eq_valid_iff.2 (h _ List.mem_cons_self)
    exact Validated.map_eq_valid_iff.2 ⟨needle, hneedle, rfl⟩
  | above bound =>
    obtain ⟨x, rfl⟩ := ht
    exact Validated.map_eq_valid_iff.2 ⟨x, Members.number_of_lookup (h _ List.mem_cons_self), rfl⟩
  | below bound =>
    obtain ⟨x, rfl⟩ := ht
    exact Validated.map_eq_valid_iff.2 ⟨x, Members.number_of_lookup (h _ List.mem_cons_self), rfl⟩
  | boolean expected =>
    have hfound : lookup "value" members = some (.bool expected) := h _ List.mem_cons_self
    refine Validated.map_eq_valid_iff.2 ⟨expected, ?_, rfl⟩
    simp only [expectedFlag, hfound]

theorem nodup_names (c : Condition) : (c.members.map (·.1)).Nodup := by
  unfold members
  cases c.test <;> simp [Test.members]

theorem validate_sorted {c : Condition} (hc : c.WellFormed) :
    validate base c.toJson.sorted = .valid c := by
  obtain ⟨found, hobj, hfind⟩ := exists_sorted_obj _ c.nodup_names
  have hname : Members.nonBlankText found base "dependencyName" = .valid c.dependency :=
    Members.nonBlankText_eq_valid_iff.2 ⟨hfind "dependencyName", hc.dependency⟩
  have hkind : testKind found base = .valid c.test.kind := by
    have htype : Members.text found base "type" = .valid c.test.kind.name :=
      Members.text_eq_valid_iff.2 (hfind "type")
    simp only [testKind, htype, Validated.andThen, TestKind.ofName?_name]
  have htest : testOf found base c.test.kind = .valid c.test := by
    refine testOf_of_lookup hc.test fun m hm => ?_
    have hmem := lookup_of_mem c.nodup_names (List.mem_cons_of_mem _ (List.mem_cons_of_mem _ hm))
    rw [hfind, hmem]
    exact congrArg some (c.test.isOrdered_of_mem m hm)
  rw [toJson, hobj, validate, Members.ofJson, Validated.andThen, hname, hkind, Validated.andThen,
    htest]
  rfl

theorem conditionOf_sorted {members : Members} {c : Option Condition}
    (hc : ∀ d ∈ c, d.WellFormed)
    (h : lookup "condition" members = c.map fun d => d.toJson.sorted) :
    Field.conditionOf members base = .valid c := by
  have hpresent := Members.present?_of_lookup
    (fun d : Condition => sorted_ne_null (by simp [toJson])) h
  refine Field.conditionOf_eq_valid_iff.2 ?_
  cases c with
  | none => exact .inl ⟨hpresent, rfl⟩
  | some d => exact .inr ⟨_, d, hpresent, validate_sorted (hc d rfl), rfl⟩

end Condition

/-! ## Inputs -/

theorem InputKind.ofName?_name (kind : InputKind) : InputKind.ofName? kind.name = some kind := by
  cases kind with
  | basic kind => cases kind <;> rfl
  | _ => rfl

namespace Input

theorem selectOption_sorted {o : SelectOption} (ho : o.WellFormed) :
    selectOption base o.toJson.sorted = .valid o := by
  obtain ⟨found, hobj, hfind⟩ := exists_sorted_obj
    (("value", .str o.value) :: Json.optional "label" .str o.label)
    (by cases o.label <;> simp [Json.optional])
  have hvalue : optionValue found base = .valid o.value :=
    optionValue_eq_valid_iff.2 ⟨_, hfind "value", congrArg some ho.trimmed, ho.ne_empty⟩
  have hlabel : Members.optionalText found base "label" = .valid o.label := by
    refine Members.optionalText_eq_valid_iff.2 (Members.present?_of_lookup (by simp) ?_)
    rw [hfind]
    cases o.label <;> rfl
  rw [SelectOption.toJson, hobj, selectOption, Members.ofJson, Validated.andThen, hvalue, hlabel]
  rfl

theorem selectOptions_sorted {members : Members} {options : List SelectOption}
    (ho : ∀ o ∈ options, o.WellFormed)
    (h : lookup "options" members = some (Json.arr (options.map SelectOption.toJson)).sorted) :
    selectOptions members base = .valid options := by
  rw [sorted_arr_map] at h
  refine selectOptions_eq_valid_iff.2 ⟨_, h, ?_⟩
  rw [List.forall₂_map_left_iff, List.forall₂_same]
  exact fun o hmem => selectOption_sorted (ho o hmem)

theorem textList_of_lookup {members : Members} {key : String} {items : List String}
    (h : lookup key members = some (ofStrings items)) :
    textList members base key = .valid items := by
  refine Validated.andThen_eq_valid_iff.2 ⟨_, Members.array_eq_valid_iff.2 h, ?_⟩
  rw [Validated.items_eq_valid_iff fun _ v _ => (relocates_listedText v).eq_valid_iff,
    List.forall₂_map_left_iff, List.forall₂_same]
  exact fun _ _ => rfl

theorem allowUnknown_of_lookup {members : Members} {b : Bool}
    (h : lookup "allowUnknownValues" members = some (.bool b)) :
    allowUnknown members base = .valid b := by
  have hpresent : members.present? "allowUnknownValues" = (some b).map .bool :=
    Members.present?_eq_some_iff.2 ⟨h, by simp⟩
  exact Validated.map_eq_valid_iff.2 ⟨_, Members.optionalFlag_eq_valid_iff.2 hpresent, rfl⟩

theorem firstMatch_selectShapes {members : Members} {source : SelectSource} (hs : source.WellFormed)
    (h : ∀ m ∈ source.members, lookup m.1 members = some m.2.sorted) :
    firstMatch members base selectShapes = .valid source := by
  cases source with
  | notes folder =>
    have hsource := h ("source", .str "notes") (by simp [SelectSource.members])
    have hfolder := h ("folder", .str folder) (by simp [SelectSource.members])
    refine firstMatch_of_payload (s := selectShapes[0]) hsource ?_ (by decide) (by simp)
    exact Validated.map_eq_valid_iff.2
      ⟨folder, Members.nonBlankText_eq_valid_iff.2 ⟨hfolder, hs⟩, rfl⟩
  | fixed options =>
    have hsource := h ("source", .str "fixed") (by simp [SelectSource.members])
    have hoptions := h ("options", .arr (options.map SelectOption.toJson))
      (by simp [SelectSource.members])
    refine firstMatch_of_payload (s := selectShapes[1]) hsource ?_ (by decide) (by simp)
    exact Validated.map_eq_valid_iff.2 ⟨options, selectOptions_sorted hs hoptions, rfl⟩

theorem firstMatch_multiselectShapes {members : Members} {source : MultiselectSource}
    (hs : source.WellFormed) (h : ∀ m ∈ source.members, lookup m.1 members = some m.2.sorted) :
    firstMatch members base multiselectShapes = .valid source := by
  cases source with
  | notes folder =>
    have hsource := h ("source", .str "notes") (by simp [MultiselectSource.members])
    have hfolder := h ("folder", .str folder) (by simp [MultiselectSource.members])
    refine firstMatch_of_payload (s := multiselectShapes[0]) hsource ?_ (by decide) (by simp)
    exact Validated.map_eq_valid_iff.2
      ⟨folder, Members.nonBlankText_eq_valid_iff.2 ⟨hfolder, hs⟩, rfl⟩
  | fixed options b =>
    have hsource := h ("source", .str "fixed") (by simp [MultiselectSource.members])
    have hoptions := h ("multi_select_options", ofStrings options)
      (by simp [MultiselectSource.members])
    have hb := h ("allowUnknownValues", .bool b) (by simp [MultiselectSource.members])
    rw [sorted_ofStrings] at hoptions
    refine firstMatch_of_payload (s := multiselectShapes[1]) hsource ?_ (by decide) (by simp)
    exact Validated.seq_eq_valid_iff.2 ⟨_, Validated.map_eq_valid_iff.2
      ⟨options, textList_of_lookup hoptions, rfl⟩, b, allowUnknown_of_lookup hb, rfl⟩
  | dataview query b =>
    have hsource := h ("source", .str "dataview") (by simp [MultiselectSource.members])
    have hquery := h ("query", .str query) (by simp [MultiselectSource.members])
    have hb := h ("allowUnknownValues", .bool b) (by simp [MultiselectSource.members])
    refine firstMatch_of_payload (s := multiselectShapes[2]) hsource ?_ (by decide) (by simp)
    exact Validated.seq_eq_valid_iff.2 ⟨_, Validated.map_eq_valid_iff.2
      ⟨query, Members.nonBlankText_eq_valid_iff.2 ⟨hquery, hs⟩, rfl⟩, b, allowUnknown_of_lookup hb,
      rfl⟩

theorem nodup_names (i : Input) :
    ((("type", Json.str i.kind.name) :: i.members).map (·.1)).Nodup := by
  cases i with
  | basic _ hidden => cases hidden <;> simp [members, Json.optional]
  | tag exclude => cases exclude <;> simp [members, Json.optional]
  | select source => cases source <;> simp [members, SelectSource.members]
  | multiselect source => cases source <;> simp [members, MultiselectSource.members]
  | _ => simp [members]

/-- Each payload is read back from what is found under its names. -/
theorem payload_of_lookup {members : Members} {i : Input} (hi : i.WellFormed faultOf)
    (h : ∀ name, lookup name members
      = (lookup name (("type", .str i.kind.name) :: i.members)).map sorted) :
    payload faultOf members base i.kind = .valid i := by
  have hmem : ∀ m ∈ i.members, lookup m.1 members = some m.2.sorted := fun m hm => by
    rw [h, lookup_of_mem i.nodup_names (List.mem_cons_of_mem _ hm)]
    rfl
  cases i with
  | basic kind hidden =>
    have hhidden : members.optionalFlag base "hidden" = .valid hidden := by
      refine Members.optionalFlag_eq_valid_iff.2 (Members.present?_of_lookup (by simp) ?_)
      rw [h]
      cases hidden <;> rfl
    exact Validated.map_eq_valid_iff.2 ⟨hidden, hhidden, rfl⟩
  | tag exclude =>
    have hexclude : members.optionalText base "exclude" = .valid exclude := by
      refine Members.optionalText_eq_valid_iff.2 (Members.present?_of_lookup (by simp) ?_)
      rw [h]
      cases exclude <;> rfl
    exact Validated.map_eq_valid_iff.2 ⟨exclude, pattern_eq_valid_iff.2 ⟨hexclude, hi⟩, rfl⟩
  | slider min max =>
    obtain ⟨⟨x, rfl⟩, y, rfl⟩ := hi
    have hmin := hmem ("min", ofBound (.finite x)) (by simp [Input.members])
    have hmax := hmem ("max", ofBound (.finite y)) (by simp [Input.members])
    rw [sorted_ofBound] at hmin hmax
    exact Validated.seq_eq_valid_iff.2 ⟨_, Validated.map_eq_valid_iff.2
      ⟨x, Members.number_of_lookup hmin, rfl⟩, y, Members.number_of_lookup hmax, rfl⟩
  | note directory =>
    have hfolder := hmem ("folder", .str directory) (by simp [Input.members])
    exact Validated.map_eq_valid_iff.2
      ⟨directory, Members.nonBlankText_eq_valid_iff.2 ⟨hfolder, hi⟩, rfl⟩
  | folder => rfl
  | dataview query =>
    have hquery := hmem ("query", .str query) (by simp [Input.members])
    exact Validated.map_eq_valid_iff.2
      ⟨query, Members.nonBlankText_eq_valid_iff.2 ⟨hquery, hi⟩, rfl⟩
  | select source =>
    exact Validated.map_eq_valid_iff.2 ⟨source, firstMatch_selectShapes hi hmem, rfl⟩
  | multiselect source =>
    exact Validated.map_eq_valid_iff.2 ⟨source, firstMatch_multiselectShapes hi hmem, rfl⟩
  | documentBlock body =>
    have hbody := hmem ("body", .str body) (by simp [Input.members])
    exact Validated.map_eq_valid_iff.2 ⟨body, Members.text_eq_valid_iff.2 hbody, rfl⟩

/-- What is written for a well-formed input passes as that input. -/
theorem validate_sorted {i : Input} (hi : i.WellFormed faultOf) :
    validate faultOf i.toJson.sorted = .ok i := by
  obtain ⟨found, hobj, hfind⟩ := exists_sorted_obj _ i.nodup_names
  exact validate_eq_ok_iff.2 ⟨found, i.kind.name, i.kind, hobj, hfind "type",
    InputKind.ofName?_name i.kind, payload_of_lookup hi hfind⟩

end Input

/-! ## Fields and forms -/

namespace Field

theorem nodup_names (f : Field) : (f.members.map (·.1)).Nodup := by
  unfold members
  cases f.label <;> cases f.required <;> cases f.condition <;> simp [Json.optional]

/-- What is written for a well-formed field passes as that field. -/
theorem check_sorted {f : Field} (hf : f.WellFormed faultOf) :
    check faultOf [] f.toJson.sorted = .valid f := by
  obtain ⟨found, hobj, hfind⟩ := exists_sorted_obj _ f.nodup_names
  have hname : lookup "name" found = some (.str f.name) := hfind "name"
  have hlabel : lookup "label" found = f.label.map .str := by
    simp [hfind, members, lookup, lookup_append, lookup_optional, Function.comp_def, sorted]
  have hdescription : lookup "description" found = some (.str f.description) := by
    simp [hfind, members, lookup, lookup_append, lookup_optional, sorted]
  have hinput : lookup "input" found = some f.input.toJson.sorted := by
    simp [hfind, members, lookup, lookup_append, lookup_optional]
  have hrequired : lookup "isRequired" found = f.required.map .bool := by
    simp [hfind, members, lookup, lookup_append, lookup_optional, Function.comp_def, sorted]
  have hcondition : lookup "condition" found = f.condition.map fun c => c.toJson.sorted := by
    simp [hfind, members, lookup, lookup_append, lookup_optional, Function.comp_def]
  refine check_eq_valid_iff.2 ⟨found, hobj, ?_, ?_, ?_, ?_, ?_, ?_⟩
  · exact Members.nonBlankText_eq_valid_iff.2 ⟨hname, hf.name⟩
  · exact Members.optionalText_eq_valid_iff.2 (Members.present?_of_lookup (by simp) hlabel)
  · have hpresent : Members.present? found "description" = (some f.description).map .str :=
      Members.present?_eq_some_iff.2 ⟨hdescription, by simp⟩
    exact descriptionOf_eq_valid_iff.2 ⟨_, Members.optionalText_eq_valid_iff.2 hpresent, rfl⟩
  · exact Members.optionalFlag_eq_valid_iff.2 (Members.present?_of_lookup (by simp) hrequired)
  · exact inputOf_eq_valid_iff.2 ⟨_, hinput, Input.validate_sorted hf.input⟩
  · exact Condition.conditionOf_sorted hf.condition hcondition

end Field

namespace Form

theorem nodup_names (f : Form) : (f.members.map (·.1)).Nodup := by
  unfold members
  cases f.className <;> cases f.template <;> simp [Json.optional]

theorem fieldsOf_sorted {members : Members} {fields : List Field}
    (hfields : ∀ f ∈ fields, f.WellFormed faultOf)
    (hdistinct : fields.Pairwise fun f g => f.name ≠ g.name)
    (h : lookup "fields" members = some (Json.arr (fields.map Field.toJson)).sorted) :
    fieldsOf faultOf members base = .valid fields := by
  rw [sorted_arr_map] at h
  refine fieldsOf_eq_valid_iff.2 ⟨_, h, ?_, hdistinct⟩
  rw [List.forall₂_map_left_iff, List.forall₂_same]
  exact fun f hf => Field.check_sorted (hfields f hf)

theorem templateOf_sorted {members : Members} {template : Option NoteTemplate}
    (h : lookup "template" members = template.map fun t => t.toJson.sorted) :
    templateOf members = .valid template := by
  have hpresent := Members.present?_of_lookup
    (fun t : NoteTemplate => sorted_ne_null (by simp [NoteTemplate.toJson])) h
  rw [templateOf, hpresent]
  cases template with
  | none => rfl
  | some t => exact Validated.map_eq_valid_iff.2 ⟨t, t.validate_sorted, rfl⟩

/-- What is written for a well-formed form passes as that form. -/
theorem validate_sorted {f : Form} (hf : f.WellFormed faultOf) :
    validate faultOf f.toJson.sorted = .valid f := by
  obtain ⟨found, hobj, hfind⟩ := exists_sorted_obj _ f.nodup_names
  have htitle : lookup "title" found = some (.str f.title) := hfind "title"
  have hname : lookup "name" found = some (.str f.name) := hfind "name"
  have hclass : lookup "customClassname" found = f.className.map .str := by
    simp [hfind, members, lookup, lookup_append, lookup_optional, Function.comp_def, sorted]
  have hversion : lookup "version" found = some (.str formVersion) := by
    simp [hfind, members, lookup, lookup_append, lookup_optional, sorted]
  have hfields : lookup "fields" found = some (Json.arr (f.fields.map Field.toJson)).sorted := by
    simp [hfind, members, lookup, lookup_append, lookup_optional]
  have htemplate : lookup "template" found = f.template.map fun t => t.toJson.sorted := by
    simp [hfind, members, lookup, lookup_append, lookup_optional, Function.comp_def]
  refine validate_eq_valid_iff.2 ⟨found, hobj, ?_, ?_, ?_, ?_, ?_, ?_⟩
  · exact Members.nonBlankText_eq_valid_iff.2 ⟨htitle, hf.title⟩
  · exact Members.nonBlankText_eq_valid_iff.2 ⟨hname, hf.name⟩
  · exact Members.optionalText_eq_valid_iff.2 (Members.present?_of_lookup (by simp) hclass)
  · exact Members.literal_eq_valid_iff.2 hversion
  · exact fieldsOf_sorted hf.fields hf.distinct hfields
  · exact templateOf_sorted htemplate

/-- The checks take what is written for a form back to the form if and only if it is well-formed,
and nothing passes that is not. -/
theorem validate_toJson_eq_valid_iff (faultOf : String → Option String) :
    (∀ f : Form, validate faultOf f.toJson.sorted = .valid f ↔ f.WellFormed faultOf)
      ∧ ∀ (raw : Json) (f : Form), validate faultOf raw = .valid f → f.WellFormed faultOf :=
  ⟨fun _ => ⟨wellFormed_of_validate, validate_sorted⟩, fun _ _ => wellFormed_of_validate⟩

theorem validate_toJson_exampleForm :
    validate Pattern.faultOf exampleForm.toJson.sorted = .valid exampleForm
      ∧ exampleForm.WellFormed Pattern.faultOf := by
  obtain ⟨hiff, hsound⟩ := validate_toJson_eq_valid_iff Pattern.faultOf
  have hvalid := (hiff exampleForm).2 (exampleForm_wellFormed _)
  exact ⟨hvalid, hsound _ _ hvalid⟩

end Form

end NoteForms
