import Mathlib.Data.List.Nodup
import NoteForms.Proofs.InTurn

/-!
# Shapes of a choice are told apart by their source

To try the shapes of a choice in turn comes to the same as looking for a shape that passes and then
for one to report (`Input.firstMatch_eq`).  Only the shape that the source names can pass, so the
order of the shapes matters just if the source names none of them (`Input.choices_told_apart`).
-/

namespace NoteForms.Input

open Validated

variable {α : Type} {members : Members} {base : KeyPath} {shapes order : List (Shape α)}
  {s : Shape α}

/-! ## The shape that the source names -/

theorem sourceOf?_eq_some_iff {source : String} :
    sourceOf? members = some source ↔ lookup "source" members = some (.str source) := by
  unfold sourceOf?
  split <;> simp_all

/-- A shape can only pass if the source names it. -/
theorem named_of_attempt {a : α} (h : s.attempt members base = .valid a) :
    sourceOf? members = some s.source :=
  sourceOf?_eq_some_iff.2 (attempt_eq_valid_iff.1 h).1

/-- What the shape that the source names comes to is what all come to, wherever it stands. -/
theorem firstMatch_of_named (hnodup : (shapes.map (·.source)).Nodup) (hs : s ∈ shapes)
    (hnamed : sourceOf? members = some s.source) :
    firstMatch members base shapes = s.attempt members base := by
  have honly : ∀ t ∈ shapes, sourceOf? members = some t.source → t = s := fun t ht h =>
    List.inj_on_of_nodup_map hnodup ht hs (Option.some.inj (h.symm.trans hnamed))
  cases hattempt : s.attempt members base with
  | valid a =>
    obtain ⟨hsource, ha⟩ := attempt_eq_valid_iff.1 hattempt
    exact firstMatch_of_payload hsource ha hnodup hs
  | invalid issues =>
    have hnone : shapes.findSome? (fun t => (t.attempt members base).value?) = none := by
      refine List.findSome?_eq_none_iff.2 fun t ht => Option.eq_none_iff_forall_ne_some.2 ?_
      intro a ha
      have hpassed := value?_eq_some_iff.1 ha
      rw [honly t ht (named_of_attempt hpassed), hattempt] at hpassed
      cases hpassed
    cases hfound : shapes.find? fun t => sourceOf? members == some t.source with
    | none => exact absurd hnamed (by simpa using List.find?_eq_none.1 hfound s hs)
    | some t =>
      have hname := List.find?_some hfound
      have hts : t = s := honly t (List.mem_of_find?_eq_some hfound) (beq_iff_eq.1 hname)
      rw [firstMatch_eq, firstPassing, hnone, reportedShape?, hfound, Option.some_or,
        Option.map_some, hts, hattempt]
      rfl

/-- Against a member that is not the one text it must be, there is one issue, found there. -/
theorem exists_issue_of_literal {key expected : String}
    (h : lookup key members ≠ some (.str expected)) :
    ∃ i, members.literal base key expected = .invalid [i] ∧ i.path = base ++ [key] := by
  cases hliteral : members.literal base key expected with
  | valid u => exact absurd (Members.literal_eq_valid_iff.1 hliteral) h
  | invalid issues =>
    unfold Members.literal at hliteral
    split at hliteral
    · split at hliteral
      · cases hliteral
      · cases hliteral
        exact ⟨_, rfl, rfl⟩
    · cases hliteral
      exact ⟨_, rfl, rfl⟩
    · cases hliteral
      exact ⟨_, rfl, rfl⟩

/-- Where the source names no shape, the first one is reported, beginning with its source. -/
theorem firstMatch_of_unnamed {others : List (Shape α)}
    (h : ∀ t ∈ s :: others, sourceOf? members ≠ some t.source) :
    ∃ i, members.literal base "source" s.source = .invalid [i] ∧ i.path = base ++ ["source"]
      ∧ firstMatch members base (s :: others) = .invalid (i :: (s.payload members base).issues) := by
  obtain ⟨i, hliteral, hpath⟩ := exists_issue_of_literal
    (mt sourceOf?_eq_some_iff.2 (h s List.mem_cons_self))
  have hissues : (s.attempt members base).issues = i :: (s.payload members base).issues := by
    rw [Shape.attempt, issues_seq, issues_map, hliteral]
    rfl
  have hfound : (s :: others).findSome? (fun t => (t.attempt members base).value?) = none := by
    refine List.findSome?_eq_none_iff.2 fun t ht => Option.eq_none_iff_forall_ne_some.2 ?_
    exact fun a ha => h t ht (named_of_attempt (value?_eq_some_iff.1 ha))
  have hnamed : (s :: others).find? (fun t => sourceOf? members == some t.source) = none :=
    List.find?_eq_none.2 fun t ht => by simpa using h t ht
  refine ⟨i, hliteral, hpath, ?_⟩
  rw [firstMatch_eq, firstPassing, hfound, reportedShape?, hnamed, ← hissues]
  rfl

/-! ## Choices -/

/-- The shapes of a raw choice are told apart: only the one that the source names can pass, so in
any order the same is made of a choice that one of them passes, or whose source names one of them.
If the source names none, the first shape is reported, beginning with its source. -/
structure ToldApart (members : Members) (base : KeyPath) (shapes : List (Shape α)) : Prop where
  named {s : Shape α} {a : α} :
    s ∈ shapes → s.attempt members base = .valid a → sourceOf? members = some s.source
  alone {s t : Shape α} {a b : α} : s ∈ shapes → t ∈ shapes →
    s.attempt members base = .valid a → t.attempt members base = .valid b → s = t
  in_turn (order : List (Shape α)) : firstMatch members base order = firstPassing members base order
  accepted {order : List (Shape α)} {a : α} : order.Perm shapes →
    (firstMatch members base order = .valid a ↔ ∃ s ∈ shapes, s.attempt members base = .valid a)
  reported_named {order : List (Shape α)} {s : Shape α} : order.Perm shapes → s ∈ shapes →
    sourceOf? members = some s.source → firstMatch members base order = s.attempt members base
  reported_first {s : Shape α} {others : List (Shape α)} : (s :: others).Perm shapes →
    (∀ t ∈ shapes, sourceOf? members ≠ some t.source) →
      ∃ i, members.literal base "source" s.source = .invalid [i] ∧ i.path = base ++ ["source"]
        ∧ firstMatch members base (s :: others) = .invalid (i :: (s.payload members base).issues)

theorem toldApart (members : Members) (base : KeyPath)
    (hnodup : (shapes.map (·.source)).Nodup) : ToldApart members base shapes where
  named _ h := named_of_attempt h
  alone hs ht ha hb := List.inj_on_of_nodup_map hnodup hs ht
    (Option.some.inj ((named_of_attempt ha).symm.trans (named_of_attempt hb)))
  in_turn := firstMatch_eq members base
  accepted {order a} horder := by
    have hnodup' : (order.map (·.source)).Nodup := (horder.map _).nodup_iff.2 hnodup
    constructor
    · intro h
      obtain ⟨s, hs, ha⟩ := exists_of_firstMatch h
      exact ⟨s, horder.mem_iff.1 hs, ha⟩
    · rintro ⟨s, hs, ha⟩
      rw [firstMatch_of_named hnodup' (horder.mem_iff.2 hs) (named_of_attempt ha), ha]
  reported_named horder hs hnamed :=
    firstMatch_of_named ((horder.map _).nodup_iff.2 hnodup) (horder.mem_iff.2 hs) hnamed
  reported_first horder h := firstMatch_of_unnamed fun t ht => h t (horder.mem_iff.1 ht)

theorem validateAt_of_type (faultOf : String → Option String) (base : KeyPath) {name : String}
    {kind : InputKind} (htype : lookup "type" members = some (.str name))
    (hkind : InputKind.ofName? name = some kind) :
    validateAt faultOf base (.obj members) =
      match payload faultOf members base kind with
      | .valid input => .ok input
      | .invalid issues => .error (.payload kind issues) := by
  have hname : typeName members base = .valid name := by rw [typeName, htype]
  cases hpayload : payload faultOf members base kind <;>
    simp only [validateAt, Members.ofJson, hname, hkind, hpayload]

/-- A raw choice of either kind is what the shapes of its kind make of it, and those are told apart
by its source, whatever the order in which they are tried and wherever it is found. -/
theorem choices_told_apart (faultOf : String → Option String) (members : Members)
    (base : KeyPath) :
    (lookup "type" members = some (.str "select") → ToldApart members base selectShapes
        ∧ validateAt faultOf base (.obj members) =
          match firstMatch members base selectShapes with
          | .valid source => .ok (.select source)
          | .invalid issues => .error (.payload .select issues))
      ∧ (lookup "type" members = some (.str "multiselect") →
        ToldApart members base multiselectShapes
          ∧ validateAt faultOf base (.obj members) =
            match firstMatch members base multiselectShapes with
            | .valid source => .ok (.multiselect source)
            | .invalid issues => .error (.payload .multiselect issues)) := by
  have hselect : InputKind.ofName? "select" = some .select := by decide
  have hmultiselect : InputKind.ofName? "multiselect" = some .multiselect := by decide
  refine ⟨fun htype => ⟨toldApart members base (by decide), ?_⟩,
    fun htype => ⟨toldApart members base (by decide), ?_⟩⟩
  · rw [validateAt_of_type faultOf base htype hselect, payload]
    cases firstMatch members base selectShapes <;> rfl
  · rw [validateAt_of_type faultOf base htype hmultiselect, payload]
    cases firstMatch members base multiselectShapes <;> rfl

/-- Shapes are tried from the last to the first, for a choice of fixed options that has none, and
for one that names no source. -/
theorem choices_told_apart_reversed :
    let fixed : Members := [("source", .str "fixed"), ("type", .str "select")]
    let unnamed : Members := [("type", .str "multiselect")]
    let missed := fun key : String => (⟨[key], "is required", none⟩ : Issue)
    lookup "type" fixed = some (.str "select") ∧ lookup "type" unnamed = some (.str "multiselect")
      ∧ firstMatch fixed [] selectShapes.reverse = .invalid [missed "options"]
      ∧ ∃ i, i.path = ["source"]
        ∧ firstMatch unnamed [] multiselectShapes.reverse = .invalid [i, missed "query"] := by
  intro fixed unnamed missed
  obtain ⟨hselect, -⟩ := choices_told_apart (fun _ => none) fixed []
  obtain ⟨-, hmultiselect⟩ := choices_told_apart (fun _ => none) unnamed []
  obtain ⟨i, -, hpath, hfirst⟩ :=
    (hmultiselect rfl).1.reported_first (List.reverse_perm multiselectShapes)
      (by simp [unnamed, sourceOf?, lookup])
  refine ⟨rfl, rfl, ?_, i, hpath, hfirst⟩
  exact (hselect rfl).1.reported_named (List.reverse_perm selectShapes)
    (List.mem_cons_of_mem _ List.mem_cons_self) rfl

end NoteForms.Input
