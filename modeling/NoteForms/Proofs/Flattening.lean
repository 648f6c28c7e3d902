import NoteForms.Proofs.Issues

/-!
# Where the issues of an input error are found

An input error is flattened into issues under a place.  That puts the issue of an unknown type there
and leaves all others where they were found, so the place must be the one where the input was looked
at, as it is in a field.  For an input that was looked at by itself, the issues are under the place
exactly if its type is not known (`Input.flattened_under`); a missing query is not
(`Input.flattened_out_of_place`).
-/

namespace NoteForms

/-! ## Places -/

/-- A path that leads to a place or below it, as it is shown. -/
def KeyPath.Within (base path : KeyPath) : Prop :=
  path.text = base.text ∨ ∃ rest, path.text = base.text ++ "." ++ rest

theorem KeyPath.within_append {base : KeyPath} (hbase : base ≠ []) (rest : KeyPath) :
    base.Within (base ++ rest) := by
  by_cases hrest : rest = []
  · exact .inl (by rw [hrest, List.append_nil])
  · exact .inr ⟨rest.text, String.intercalate_append_of_ne_nil hbase hrest⟩

/-- Issues are put elsewhere, if there are any. -/
theorem map_under_ne {base : KeyPath} (hbase : base ≠ []) {issues : List Issue}
    (hissues : issues ≠ []) : issues.map (Issue.under base) ≠ issues := by
  obtain ⟨i, is, rfl⟩ := List.exists_cons_of_ne_nil hissues
  intro h
  have hpath : base ++ i.path = i.path := congrArg Issue.path (List.cons.inj h).1
  exact hbase (List.append_left_eq_self.1 hpath)

/-! ## Errors -/

theorem InputError.within_of_mem {base : KeyPath} (hbase : base ≠ []) {e : InputError} {i : Issue}
    (h : i ∈ (e.under base).issuesUnder base) : base.Within i.path := by
  rw [issuesUnder_under] at h
  obtain ⟨j, -, rfl⟩ := List.mem_map.1 h
  exact KeyPath.within_append hbase j.path

/-- Flattened under another place, the issues stay where they are, but for that of an unknown
type. -/
theorem InputError.issuesUnder_eq_nil {e : InputError} (h : ∀ name, e ≠ .unknownType name)
    (base : KeyPath) : e.issuesUnder base = e.issuesUnder [] := by
  cases e with
  | unknownType name => exact absurd rfl (h name)
  | _ => rfl

namespace Input

variable {faultOf : String → Option String} {raw : Json} {e : InputError}

theorem issuesUnder_eq_iff (h : validate faultOf raw = .error e) {base : KeyPath}
    (hbase : base ≠ []) :
    e.issuesUnder base = (e.under base).issuesUnder base ↔ ∃ name, e = .unknownType name := by
  rw [InputError.issuesUnder_under]
  constructor
  · intro heq
    by_contra hnone
    rw [InputError.issuesUnder_eq_nil (not_exists.1 hnone)] at heq
    exact map_under_ne hbase (issuesUnder_ne_nil faultOf [] h []) heq.symm
  · rintro ⟨name, rfl⟩
    rfl

end Input

/-- A field looks at its input under a key of its own. -/
theorem Field.inputOf_eq_invalid {faultOf : String → Option String} {members : Members}
    {base : KeyPath} {raw : Json} {e : InputError} (hraw : lookup "input" members = some raw)
    (h : Input.validateAt faultOf (base ++ ["input"]) raw = .error e) :
    inputOf faultOf members base = .invalid (e.issuesUnder (base ++ ["input"])) := by
  simp only [inputOf, hraw, h]

/-- An input that is refused by itself is refused at any place, and flattened there the issues are
found at the place or below it; that is what a field says of its input, wherever the field is.
Flattened under the place, the error of the input by itself gives the same issues exactly if the
type is not known, and otherwise leaves them where they are found in the input. -/
theorem Input.flattened_under (faultOf : String → Option String) {raw : Json} {e : InputError}
    (h : validate faultOf raw = .error e) {base : KeyPath} (hbase : base ≠ []) :
    (∃ placed, validateAt faultOf base raw = .error placed
        ∧ placed.issuesUnder base = (e.issuesUnder []).map (Issue.under base)
        ∧ (∀ i ∈ placed.issuesUnder base, base.Within i.path)
        ∧ (e.issuesUnder base = placed.issuesUnder base ↔ ∃ name, e = .unknownType name))
      ∧ (∀ members path, lookup "input" members = some raw →
          ∃ placed, validateAt faultOf (path ++ ["input"]) raw = .error placed
            ∧ Field.inputOf faultOf members path
              = .invalid (placed.issuesUnder (path ++ ["input"])))
      ∧ ((∀ name, e ≠ .unknownType name) → e.issuesUnder base = e.issuesUnder []) := by
  have hplaced : ∀ place, validateAt faultOf place raw = .error (e.under place) :=
    fun place => validateAt_eq_error_iff.2 ⟨e, h, rfl⟩
  exact ⟨⟨e.under base, hplaced base, e.issuesUnder_under base,
      fun _ hi => InputError.within_of_mem hbase hi, issuesUnder_eq_iff h hbase⟩,
    fun _ path hraw => ⟨_, hplaced _, Field.inputOf_eq_invalid hraw (hplaced _)⟩,
    fun hknown => InputError.issuesUnder_eq_nil hknown base⟩

/-- The unknown type of the input of the first field of a form. -/
theorem Input.flattened_under_unknown_type :
    let raw : Json := .obj [("type", .str "colour")]
    let base : KeyPath := ["fields", "0", "input"]
    let issues : List Issue := [⟨["fields", "0", "input", "type"],
      "unknown input type \"colour\"", none⟩]
    validate (fun _ => none) raw = .error (.unknownType "colour") ∧ base ≠ []
      ∧ validateAt (fun _ => none) base raw = .error (.unknownType "colour")
      ∧ (InputError.unknownType "colour").issuesUnder base = issues
      ∧ (∀ i ∈ issues, base.Within i.path)
      ∧ Field.inputOf (fun _ => none) [("input", raw)] ["fields", "0"] = .invalid issues := by
  intro raw base issues
  have h : validate (fun _ => none) raw = .error (.unknownType "colour") := by rfl
  have hbase : base ≠ [] := List.cons_ne_nil _ _
  obtain ⟨⟨placed, hplaced, -, hwithin, hsame⟩, hfield, -⟩ :=
    flattened_under (fun _ => none) h hbase
  obtain ⟨found, hfound, hinput⟩ := hfield [("input", raw)] ["fields", "0"] rfl
  cases hplaced
  cases hfound
  exact ⟨h, hbase, rfl, hsame.2 ⟨_, rfl⟩, hwithin, hinput⟩

/-- A query without its text is missed under its own key, wherever its input is said to be. -/
theorem Input.flattened_out_of_place :
    let raw : Json := .obj [("type", .str "dataview")]
    let alone : InputError := .payload .dataview [⟨["query"], "is required", none⟩]
    let placed : InputError := .payload .dataview [⟨["input", "query"], "is required", none⟩]
    validate (fun _ => none) raw = .error alone
      ∧ validateAt (fun _ => none) ["input"] raw = .error placed
      ∧ placed.issuesUnder ["input"] = [⟨["input", "query"], "is required", none⟩]
      ∧ alone.issuesUnder ["input"] = [⟨["query"], "is required", none⟩]
      ∧ ¬ ∀ i ∈ alone.issuesUnder ["input"], KeyPath.Within ["input"] i.path := by
  refine ⟨rfl, rfl, rfl, rfl, fun h => ?_⟩
  rcases h _ (List.mem_singleton.2 rfl) with htext | ⟨rest, htext⟩
  · exact absurd htext (by decide)
  · have hhead := congrArg (fun s : String => s.toList.head?) htext
    simp [KeyPath.text] at hhead

end NoteForms
