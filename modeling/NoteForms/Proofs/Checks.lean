import NoteForms.Proofs.Basics
import NoteForms.Proofs.Blanks
import NoteForms.Proofs.Ordered
import NoteForms.Validation.Members

/-!
# When a check passes

A combination of checks passes exactly when its parts do.  A check of a member passes exactly on the
members that hold a value of the right kind under its name, and so depends on nothing but what is
found there.
-/

namespace NoteForms

namespace Validated

variable {α β : Type}

theorem seq_eq_valid_iff {f : Validated (α → β)} {x : Validated α} {b : β} :
    f <*> x = .valid b ↔ ∃ g, f = .valid g ∧ ∃ a, x = .valid a ∧ g a = b := by
  cases f <;> cases x <;> simp [Seq.seq, ap]

theorem map_eq_valid_iff {f : α → β} {x : Validated α} {b : β} :
    f <$> x = .valid b ↔ ∃ a, x = .valid a ∧ f a = b := by
  cases x <;> simp [Functor.map, ap]

theorem andThen_eq_valid_iff {x : Validated α} {f : α → Validated β} {b : β} :
    x.andThen f = .valid b ↔ ∃ a, x = .valid a ∧ f a = .valid b := by
  cases x <;> simp [andThen]

theorem mapIssues_eq_valid_iff {change : Issue → Issue} {x : Validated α} {a : α} :
    x.mapIssues change = .valid a ↔ x = .valid a := by
  cases x <;> simp [mapIssues]

/-- Items pass exactly if each does, where it makes no difference at which index. -/
theorem items_eq_valid_iff {check : KeyPath → α → Validated β} {passes : α → β → Prop}
    (h : ∀ base a b, check base a = .valid b ↔ passes a b) {base : KeyPath} :
    ∀ {i : Nat} {as : List α} {bs : List β},
      items check base i as = .valid bs ↔ List.Forall₂ passes as bs
  | _, [], bs => by
    rw [items, valid.injEq, List.forall₂_nil_left_iff, eq_comm]
  | i, a :: as, bs => by
    rw [items, List.forall₂_cons_left_iff]
    simp only [seq_eq_valid_iff, map_eq_valid_iff, h]
    constructor
    · rintro ⟨_, ⟨b, hb, rfl⟩, bs, hbs, rfl⟩
      exact ⟨b, bs, hb, (items_eq_valid_iff h).1 hbs, rfl⟩
    · rintro ⟨b, bs, hb, hbs, rfl⟩
      exact ⟨_, ⟨b, hb, rfl⟩, bs, (items_eq_valid_iff h).2 hbs, rfl⟩

end Validated

namespace Members

variable {α : Type} {members : Members} {base : KeyPath} {key : String}

theorem ofJson_eq_valid_iff {raw : Json} :
    ofJson base raw = .valid members ↔ raw = .obj members := by
  cases raw <;> simp [ofJson, Validated.issue]

theorem present?_eq_some_iff {v : Json} :
    present? members key = some v ↔ lookup key members = some v ∧ v ≠ .null := by
  unfold present?
  split
  · rename_i h
    simp only [h, reduceCtorEq, Option.some.injEq, false_iff]
    rintro ⟨rfl, hne⟩
    exact hne rfl
  · rename_i hne
    constructor
    · exact fun h => ⟨h, fun hv => hne (hv ▸ h)⟩
    · exact And.left

/-- What an optional value is written as is what is there of it. -/
theorem present?_of_lookup {a : Option α} {encode : α → Json} (hne : ∀ a, encode a ≠ .null)
    (h : lookup key members = a.map encode) : present? members key = a.map encode := by
  cases a with
  | none =>
    rw [present?, h]
    rfl
  | some a => exact present?_eq_some_iff.2 ⟨h, hne a⟩

theorem text_eq_valid_iff {s : String} :
    text members base key = .valid s ↔ lookup key members = some (.str s) := by
  have h : text members base key = .valid s ↔ present? members key = some (.str s) := by
    unfold text
    split <;> simp_all [Validated.issueAt, Validated.issue]
  rw [h, present?_eq_some_iff]
  simp

theorem nonBlankText_eq_valid_iff {s : String} :
    nonBlankText members base key = .valid s
      ↔ lookup key members = some (.str s) ∧ Text.trim s ≠ "" := by
  rw [nonBlankText, Validated.andThen_eq_valid_iff]
  constructor
  · rintro ⟨s', hs', h⟩
    split at h
    · cases h
    · rename_i hblank
      cases h
      exact ⟨text_eq_valid_iff.1 hs', mt Text.isBlankText_iff_trim.2 hblank⟩
  · rintro ⟨hs, hblank⟩
    exact ⟨s, text_eq_valid_iff.2 hs, if_neg (mt Text.isBlankText_iff_trim.1 hblank)⟩

theorem optionalText_eq_valid_iff {s : Option String} :
    optionalText members base key = .valid s ↔ present? members key = s.map .str := by
  unfold optionalText
  cases s <;> split <;> simp_all [Validated.issueAt, Validated.issue]

theorem optionalFlag_eq_valid_iff {b : Option Bool} :
    optionalFlag members base key = .valid b ↔ present? members key = b.map .bool := by
  unfold optionalFlag
  cases b <;> split <;> grind [Validated.issueAt, Validated.issue]

theorem flag_eq_valid_iff {b : Bool} :
    flag members base key = .valid b ↔ lookup key members = some (.bool b) := by
  have h : flag members base key = .valid b ↔ present? members key = some (.bool b) := by
    unfold flag
    split <;> grind [Validated.issueAt, Validated.issue]
  rw [h, present?_eq_some_iff]
  simp

theorem number_eq_valid_iff {x : Binary64} :
    number members base key = .valid x
      ↔ ∃ n : Json.Number, lookup key members = some (.num n) ∧ n.toBinary64 = x := by
  have h : number members base key = .valid x
      ↔ ∃ n : Json.Number, present? members key = some (.num n) ∧ n.toBinary64 = x := by
    unfold number
    split <;> simp_all [Validated.issueAt, Validated.issue]
  simp [h, present?_eq_some_iff]

theorem array_eq_valid_iff {items : List Json} :
    array members base key = .valid items ↔ lookup key members = some (.arr items) := by
  have h : array members base key = .valid items ↔ present? members key = some (.arr items) := by
    unfold array
    split <;> simp_all [Validated.issueAt, Validated.issue]
  rw [h, present?_eq_some_iff]
  simp

theorem literal_eq_valid_iff {expected : String} :
    literal members base key expected = .valid () ↔ lookup key members = some (.str expected) := by
  have h : literal members base key expected = .valid ()
      ↔ present? members key = some (.str expected) := by
    unfold literal
    split
    · split <;> simp_all [Validated.issueAt, Validated.issue]
    · simp_all [Validated.issueAt, Validated.issue]
    · simp_all [Validated.issueAt, Validated.issue]
  rw [h, present?_eq_some_iff]
  simp

end Members

end NoteForms
