import Mathlib.Data.List.Find
import NoteForms.Form.Entry

/-!
# Forms by name

Among some entries a form is looked for by its name, and entries of other names are passed over, and
so are broken entries.  If the first entry of a name is a form, it is the form that is found
(`findForm?_of_first_usable`).
-/

namespace NoteForms

variable {name : String} {entries before after : List Entry}

/-- The first entry of a name. -/
def firstOf? (name : String) (entries : List Entry) : Option Entry :=
  entries.find? fun entry => entry.name == name

theorem firstOf?_eq_some_iff {e : Entry} : firstOf? name entries = some e ↔ e.name = name
    ∧ ∃ before after, entries = before ++ e :: after ∧ ∀ a ∈ before, a.name ≠ name := by
  simp [firstOf?, List.find?_eq_some_iff_append]

theorem findForm?_append (before after : List Entry) (name : String) :
    findForm? (before ++ after) name = (findForm? before name).or (findForm? after name) := by
  simp only [findForm?, usableForms, List.filterMap_append, List.find?_append]

theorem findForm?_eq_none_of_ne (h : ∀ a ∈ entries, a.name ≠ name) :
    findForm? entries name = none := by
  refine List.find?_eq_none.2 fun f hf hname => ?_
  obtain ⟨a, ha, hform⟩ := List.mem_filterMap.1 hf
  cases a with
  | usable g =>
    cases hform
    exact h _ ha (beq_iff_eq.1 hname)
  | broken b => cases hform

theorem findForm?_append_of_ne (h : ∀ a ∈ before, a.name ≠ name) :
    findForm? (before ++ after) name = findForm? after name := by
  rw [findForm?_append, findForm?_eq_none_of_ne h, Option.none_or]

theorem findForm?_cons_of_ne {a : Entry} (h : a.name ≠ name) :
    findForm? (a :: entries) name = findForm? entries name := by
  have hfirst : ∀ b ∈ [a], b.name ≠ name := by simpa using h
  exact findForm?_append_of_ne hfirst

theorem findForm?_isSome_iff :
    (findForm? entries name).isSome = true ↔ ∃ f, .usable f ∈ entries ∧ f.name = name := by
  rw [findForm?, List.find?_isSome]
  simp only [usableForms, List.mem_filterMap, beq_iff_eq]
  constructor
  · rintro ⟨f, ⟨a, ha, hform⟩, hname⟩
    cases a with
    | usable g =>
      cases hform
      exact ⟨f, ha, hname⟩
    | broken b => cases hform
  · rintro ⟨f, hf, hname⟩
    exact ⟨f, ⟨_, hf, rfl⟩, hname⟩

theorem findForm?_of_first_usable {f : Form} (h : firstOf? name entries = some (.usable f)) :
    findForm? entries name = some f := by
  obtain ⟨hname, before, after, rfl, hbefore⟩ := firstOf?_eq_some_iff.1 h
  have hself : (f.name == name) = true := by simpa [Entry.name] using hname
  have hfirst : usableForms (.usable f :: after) = f :: usableForms after := rfl
  rw [findForm?_append_of_ne hbefore, findForm?, hfirst]
  exact List.find?_cons_of_pos hself

theorem findForm?_of_first_none (h : firstOf? name entries = none) :
    findForm? entries name = none :=
  findForm?_eq_none_of_ne (by simpa [firstOf?] using h)

end NoteForms
