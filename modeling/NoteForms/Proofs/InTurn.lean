import NoteForms.Input.Validation
import NoteForms.Proofs.Checks

/-!
# Trying shapes in turn

The shapes of a choice are tried one after the other, with the issues kept that are to be reported
so far: those against the first shape, until the one comes that the source names.  That comes to the
same as looking for a shape that passes and then for one to report (`Input.firstMatch_eq`).  So a
choice is one of its shapes, and is refused with the issues of one of them.
-/

namespace NoteForms.Input

open Validated

variable {α : Type} {members : Members} {base : KeyPath} {shapes : List (Shape α)} {s : Shape α}

/-! ## Attempts -/

theorem value?_eq_some_iff {x : Validated α} {a : α} : x.value? = some a ↔ x = .valid a := by
  cases x <;> simp [Validated.value?]

theorem attempt_eq_valid_iff {a : α} :
    s.attempt members base = .valid a
      ↔ lookup "source" members = some (.str s.source) ∧ s.payload members base = .valid a := by
  simp only [Shape.attempt, Validated.seq_eq_valid_iff, Validated.map_eq_valid_iff]
  constructor
  · rintro ⟨_, ⟨⟨⟩, hsource, rfl⟩, a, ha, rfl⟩
    exact ⟨Members.literal_eq_valid_iff.1 hsource, ha⟩
  · rintro ⟨hsource, ha⟩
    exact ⟨_, ⟨(), Members.literal_eq_valid_iff.2 hsource, rfl⟩, a, ha, rfl⟩

theorem attempt_eq_invalid (h : (s.attempt members base).value? = none) :
    s.attempt members base = .invalid (s.attempt members base).issues := by
  cases hs : s.attempt members base with
  | valid a => rw [hs] at h; cases h
  | invalid issues => rfl

/-! ## The loop -/

/-- The shape whose issues are reported: the one that the source names, or else the first. -/
def reportedShape? (members : Members) (shapes : List (Shape α)) : Option (Shape α) :=
  (shapes.find? fun s => sourceOf? members == some s.source).or shapes.head?

/-- The first shape that a raw value passes, or the issues of the one reported. -/
def firstPassing (members : Members) (base : KeyPath) (shapes : List (Shape α)) : Validated α :=
  match shapes.findSome? fun s => (s.attempt members base).value? with
  | some a => .valid a
  | none => .invalid (((reportedShape? members shapes).map fun s =>
      (s.attempt members base).issues).getD [])

/-- No shape passes. -/
def AllRefused (members : Members) (base : KeyPath) (shapes : List (Shape α)) : Prop :=
  ∀ s ∈ shapes, s.attempt members base = .invalid (s.attempt members base).issues

theorem tryInTurn_of_found {a : α} : ∀ {shapes : List (Shape α)},
    shapes.findSome? (fun s => (s.attempt members base).value?) = some a →
      ∀ reported, tryInTurn members base reported shapes = .valid a
  | s :: shapes, h, reported => by
    rw [List.findSome?_cons] at h
    rw [tryInTurn]
    cases hs : s.attempt members base with
    | valid b =>
      rw [hs] at h
      cases h
      rfl
    | invalid issues =>
      rw [hs] at h
      exact tryInTurn_of_found h _

/-- Once issues against the named shape are kept, they are reported. -/
theorem tryInTurn_of_named (issues : List Issue) : ∀ {shapes : List (Shape α)},
    AllRefused members base shapes →
      tryInTurn members base (some ⟨issues, true⟩) shapes = .invalid issues
  | [], _ => rfl
  | s :: shapes, h => by
    obtain ⟨hs, hshapes⟩ := List.forall_mem_cons.1 h
    rw [tryInTurn, hs]
    simp only [Reported.next, Bool.not_true, Bool.and_false, Bool.false_eq_true, if_false]
    exact tryInTurn_of_named issues hshapes

/-- Other issues are reported unless a shape is named that is still to come. -/
theorem tryInTurn_of_unnamed (issues : List Issue) : ∀ {shapes : List (Shape α)},
    AllRefused members base shapes → tryInTurn members base (some ⟨issues, false⟩) shapes
      = .invalid (((shapes.find? fun s => sourceOf? members == some s.source).map fun s =>
          (s.attempt members base).issues).getD issues)
  | [], _ => rfl
  | s :: shapes, h => by
    obtain ⟨hs, hshapes⟩ := List.forall_mem_cons.1 h
    rw [tryInTurn, hs]
    cases hnamed : sourceOf? members == some s.source with
    | true =>
      simp only [Reported.next, List.find?_cons, hnamed, Bool.not_false, Bool.and_true, if_true]
      exact tryInTurn_of_named _ hshapes
    | false =>
      simp only [Reported.next, List.find?_cons, hnamed, Bool.not_false, Bool.and_true,
        Bool.false_eq_true, if_false]
      exact tryInTurn_of_unnamed issues hshapes

/-- Trying shapes in turn gives the first that passes, or the issues of the one to report. -/
theorem firstMatch_eq (members : Members) (base : KeyPath) (shapes : List (Shape α)) :
    firstMatch members base shapes = firstPassing members base shapes := by
  unfold firstMatch firstPassing
  cases hfound : shapes.findSome? fun s => (s.attempt members base).value? with
  | some a => exact tryInTurn_of_found hfound none
  | none =>
    have hrefused : AllRefused members base shapes := fun s hs =>
      attempt_eq_invalid (List.findSome?_eq_none_iff.1 hfound s hs)
    cases shapes with
    | nil => rfl
    | cons s shapes =>
      obtain ⟨hs, hshapes⟩ := List.forall_mem_cons.1 hrefused
      rw [tryInTurn, hs, reportedShape?]
      cases hnamed : sourceOf? members == some s.source with
      | true =>
        simp only [Reported.next, List.find?_cons, hnamed]
        exact tryInTurn_of_named _ hshapes
      | false =>
        simp only [Reported.next, List.find?_cons, hnamed]
        rw [tryInTurn_of_unnamed _ hshapes]
        cases shapes.find? fun s => sourceOf? members == some s.source <;> rfl

/-! ## What comes of it -/

theorem exists_of_firstMatch {a : α} (h : firstMatch members base shapes = .valid a) :
    ∃ s ∈ shapes, s.attempt members base = .valid a := by
  rw [firstMatch_eq] at h
  unfold firstPassing at h
  split at h
  · rename_i b hb
    cases h
    obtain ⟨s, hs, hvalue⟩ := List.exists_of_findSome?_eq_some hb
    exact ⟨s, hs, value?_eq_some_iff.1 hvalue⟩
  · cases h

theorem mem_of_reportedShape? (h : reportedShape? members shapes = some s) : s ∈ shapes := by
  rcases Option.or_eq_some_iff.1 h with h | ⟨-, h⟩
  · exact List.mem_of_find?_eq_some h
  · exact List.mem_of_mem_head? h

theorem exists_reportedShape? (members : Members) (hne : shapes ≠ []) :
    ∃ s, reportedShape? members shapes = some s := by
  obtain ⟨s, rest, rfl⟩ := List.exists_cons_of_ne_nil hne
  unfold reportedShape?
  cases (s :: rest).find? fun s => sourceOf? members == some s.source with
  | some found => exact ⟨found, rfl⟩
  | none => exact ⟨s, rfl⟩

/-- A choice is refused with the issues of one of its shapes, and that shape is refused too. -/
theorem exists_of_firstMatch_eq_invalid (hne : shapes ≠ []) {issues : List Issue}
    (h : firstMatch members base shapes = .invalid issues) :
    ∃ s ∈ shapes, s.attempt members base = .invalid issues := by
  rw [firstMatch_eq] at h
  unfold firstPassing at h
  split at h
  · cases h
  · rename_i hnone
    obtain ⟨s, hreported⟩ := exists_reportedShape? members hne
    have hs := mem_of_reportedShape? hreported
    rw [hreported] at h
    cases h
    exact ⟨s, hs, attempt_eq_invalid (List.findSome?_eq_none_iff.1 hnone s hs)⟩

/-- The shape that the source names is the one that is taken, if no two shapes have one name. -/
theorem firstMatch_of_payload {a : α} (hsource : lookup "source" members = some (.str s.source))
    (ha : s.payload members base = .valid a) :
    ∀ {shapes : List (Shape α)}, (shapes.map (·.source)).Nodup → s ∈ shapes →
      firstMatch members base shapes = .valid a := by
  intro shapes hnodup hs
  have hfound : shapes.findSome? (fun s => (s.attempt members base).value?) = some a := by
    induction shapes with
    | nil => cases hs
    | cons t shapes ih =>
      obtain ⟨hname, hnodup⟩ := List.nodup_cons.1 hnodup
      rw [List.findSome?_cons]
      rcases List.mem_cons.1 hs with rfl | hs
      · rw [attempt_eq_valid_iff.2 ⟨hsource, ha⟩]
        rfl
      · have hne : (t.attempt members base).value? = none := by
          refine Option.eq_none_iff_forall_ne_some.2 fun b hb => hname ?_
          have hother := (attempt_eq_valid_iff.1 (value?_eq_some_iff.1 hb)).1
          rw [hsource] at hother
          simp only [Option.some.injEq, Json.str.injEq] at hother
          exact List.mem_map.2 ⟨s, hs, hother⟩
        rw [hne]
        exact ih hnodup hs
  exact tryInTurn_of_found hfound none

end NoteForms.Input
