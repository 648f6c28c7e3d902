import Mathlib.Data.List.Forall2

/-!
# Results and lists

A computation that may fail gives a value exactly when its parts do.  A list that is mapped to
itself is mapped item by item, and what is written for the items of a list tells them if it does
for each (`Blocks.append_inj`).
-/

namespace NoteForms

variable {α β ε : Type}

theorem map_eq_ok_iff {f : α → β} {x : Except ε α} {b : β} :
    x.map f = .ok b ↔ ∃ a, x = .ok a ∧ f a = b := by
  cases x <;> simp [Except.map]

theorem bind_eq_ok_iff {x : Except ε α} {f : α → Except ε β} {b : β} :
    (x >>= f) = .ok b ↔ ∃ a, x = .ok a ∧ f a = .ok b := by
  cases x <;> simp [bind, Except.bind]

theorem eq_ok_of_toOption {x : Except ε α} {a : α} (h : x.toOption = some a) : x = .ok a := by
  cases x with
  | error e => cases h
  | ok b =>
    cases h
    rfl

theorem map_eq_self_iff {f : α → α} {as : List α} : as.map f = as ↔ ∀ a ∈ as, f a = a := by
  have h : as.map f = as.map id ↔ ∀ a ∈ as, f a = id a := List.map_inj_left
  rwa [List.map_id] at h

/-- Lists are mapped to different ones by what keeps their items apart. -/
theorem eq_of_map_eq {f : α → β} : ∀ {as bs : List α},
    (∀ a ∈ as, ∀ b ∈ bs, f a = f b → a = b) → as.map f = bs.map f → as = bs
  | [], [], _, _ => rfl
  | a :: as, b :: bs, hf, h => by
    obtain ⟨hhead, htail⟩ := List.cons.inj h
    obtain rfl := hf a List.mem_cons_self b List.mem_cons_self hhead
    rw [eq_of_map_eq (fun c hc d hd => hf c (List.mem_cons_of_mem _ hc) d
      (List.mem_cons_of_mem _ hd)) htail]

theorem exists_cons_of_concat {a b : α} {as bs : List α} (h : as ++ [b] = a :: bs) (hne : b ≠ a) :
    ∃ cs, as = a :: cs := by
  cases as with
  | nil => exact absurd (List.cons.inj h).1 hne
  | cons c cs => exact ⟨cs, by rw [(List.cons.inj h).1]⟩

/-- What holds of everything that is related to something holds of all that is related to a list. -/
theorem forall_of_forall₂ {R : α → β → Prop} {P : β → Prop} {as : List α} {bs : List β}
    (h : List.Forall₂ R as bs) (hR : ∀ {a b}, R a b → P b) : ∀ b ∈ bs, P b := by
  induction h with
  | nil => simp
  | cons hab _ ih => exact List.forall_mem_cons.2 ⟨hR hab, ih⟩

/-! ## Blocks that follow one another -/

/-- Written blocks that are told apart: one block tells its item and what comes next, whether that
is a block or the end, and no block is taken for the end. -/
structure Blocks (f : α → List β) (P : α → Prop) (Next End : List β → Prop) : Prop where
  block {a b r q} : P a → P b → Next r → Next q → f a ++ r = f b ++ q → a = b ∧ r = q
  next {a} : P a → ∀ r, Next (f a ++ r)
  last {r} : End r → Next r
  stops {a} : P a → ∀ r, ¬End (f a ++ r)

namespace Blocks

variable {f : α → List β} {P : α → Prop} {Next End : List β → Prop} {r q : List β}

theorem next_flatMap (h : Blocks f P Next End) (hr : End r) {as : List α} (ha : ∀ a ∈ as, P a) :
    Next (as.flatMap f ++ r) := by
  cases as with
  | nil => exact h.last hr
  | cons a as =>
    rw [List.flatMap_cons, List.append_assoc]
    exact h.next (ha a List.mem_cons_self) _

theorem append_inj (h : Blocks f P Next End) (hr : End r) (hq : End q) : ∀ {as bs : List α},
    (∀ a ∈ as, P a) → (∀ b ∈ bs, P b) → as.flatMap f ++ r = bs.flatMap f ++ q → as = bs ∧ r = q
  | [], [], _, _, heq => ⟨rfl, heq⟩
  | [], b :: bs, _, hb, heq => by
    rw [List.flatMap_nil, List.nil_append, List.flatMap_cons, List.append_assoc] at heq
    exact absurd (heq ▸ hr) (h.stops (hb b List.mem_cons_self) _)
  | a :: as, [], ha, _, heq => by
    rw [List.flatMap_nil, List.nil_append, List.flatMap_cons, List.append_assoc] at heq
    exact absurd (heq ▸ hq) (h.stops (ha a List.mem_cons_self) _)
  | a :: as, b :: bs, ha, hb, heq => by
    obtain ⟨ha, has⟩ := List.forall_mem_cons.1 ha
    obtain ⟨hb, hbs⟩ := List.forall_mem_cons.1 hb
    rw [List.flatMap_cons, List.flatMap_cons, List.append_assoc, List.append_assoc] at heq
    obtain ⟨rfl, hrest⟩ := h.block ha hb (h.next_flatMap hr has) (h.next_flatMap hq hbs) heq
    obtain ⟨rfl, hends⟩ := h.append_inj hr hq has hbs hrest
    exact ⟨rfl, hends⟩

end Blocks

end NoteForms
