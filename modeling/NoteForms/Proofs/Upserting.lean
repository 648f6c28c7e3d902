import NoteForms.Proofs.FormsByName
import NoteForms.Settings.Basic

/-!
# Adding a form or replacing one

A form takes the place of the first entry of its name, or stands behind all entries if there is none
(`Placing`).  The first entry of a name may be a broken one that hides a usable one, and looking for
a form passes it over; but once a form is in its place, looking for the form and looking for the
entry find the same, and all else is found as before (`Settings.upsert_places`).
-/

namespace NoteForms

variable {form : Form} {entries : List Entry} {name : String}

/-! ## The place of a form -/

/-- A form among some entries: it stands in the place of the first entry of its name, or behind all
if there is none. -/
structure Placing (form : Form) (entries placed before : List Entry) (replaced : Option Entry)
    (after : List Entry) : Prop where
  entries_eq : entries = before ++ replaced.toList ++ after
  placed_eq : placed = before ++ .usable form :: after
  before_ne : ∀ a ∈ before, a.name ≠ form.name
  replaced_eq : ∀ a ∈ replaced, a.name = form.name
  last : replaced = none → after = []

theorem exists_placing (form : Form) : ∀ entries : List Entry, ∃ before replaced after,
    Placing form entries (Settings.upsertEntry form entries) before replaced after
  | [] => ⟨[], none, [], rfl, rfl, by simp, by simp, fun _ => rfl⟩
  | a :: entries => by
    by_cases ha : a.name = form.name
    · exact ⟨[], some a, entries, rfl, if_pos ha, by simp, by simpa using ha, by simp⟩
    · obtain ⟨before, replaced, after, h⟩ := exists_placing form entries
      refine ⟨a :: before, replaced, after, ?_, ?_, List.forall_mem_cons.2 ⟨ha, h.before_ne⟩,
        h.replaced_eq, h.last⟩
      · rw [h.entries_eq]
        rfl
      · rw [Settings.upsertEntry, if_neg ha, h.placed_eq]
        rfl

namespace Placing

variable {placed before after : List Entry} {replaced : Option Entry}
  (h : Placing form entries placed before replaced after)

include h

theorem firstOf?_eq : firstOf? form.name placed = some (.usable form) :=
  firstOf?_eq_some_iff.2 ⟨rfl, before, after, h.placed_eq, h.before_ne⟩

theorem findForm?_of_ne (hname : name ≠ form.name) :
    findForm? placed name = findForm? entries name := by
  have hreplaced : findForm? replaced.toList name = none :=
    findForm?_eq_none_of_ne fun a ha heq =>
      hname (heq.symm.trans (h.replaced_eq a (Option.mem_toList.1 ha)))
  calc findForm? placed name
      = (findForm? before name).or (findForm? after name) := by
        rw [h.placed_eq, findForm?_append, findForm?_cons_of_ne (Ne.symm hname)]
    _ = findForm? entries name := by
        rw [h.entries_eq, findForm?_append, findForm?_append, hreplaced, Option.or_none]

/-- The names stay as they are, or the name of the form is put behind them. -/
theorem map_name : placed.map Entry.name
    = if form.name ∈ entries.map Entry.name then entries.map Entry.name
      else entries.map Entry.name ++ [form.name] := by
  have hbefore : form.name ∉ before.map Entry.name := fun hmem => by
    obtain ⟨a, ha, heq⟩ := List.mem_map.1 hmem
    exact h.before_ne a ha heq
  have hform : (Entry.usable form).name = form.name := rfl
  rw [h.placed_eq, h.entries_eq]
  cases hreplaced : replaced with
  | none =>
    rw [h.last hreplaced, if_neg (by simpa using hbefore)]
    simp [hform]
  | some a =>
    have ha : a.name = form.name := h.replaced_eq a hreplaced
    rw [if_pos (by simp [ha])]
    simp [hform, ha]

theorem nodup_names (hnodup : (entries.map Entry.name).Nodup) :
    (placed.map Entry.name).Nodup := by
  rw [h.map_name]
  split
  · exact hnodup
  · rename_i hnew
    refine List.nodup_append.2 ⟨hnodup, by simp, fun other hother own hown => ?_⟩
    rw [List.mem_singleton.1 hown]
    exact fun heq => hnew (heq ▸ hother)

/-- A form that has its place is put there again. -/
theorem upsertEntry_eq : Settings.upsertEntry form placed = placed := by
  have hagain : ∀ front : List Entry, (∀ a ∈ front, a.name ≠ form.name) →
      Settings.upsertEntry form (front ++ .usable form :: after)
        = front ++ .usable form :: after := by
    intro front hfront
    induction front with
    | nil => exact if_pos rfl
    | cons a front ih =>
      obtain ⟨ha, hfront⟩ := List.forall_mem_cons.1 hfront
      rw [List.cons_append, Settings.upsertEntry, if_neg ha, ih hfront]
  rw [h.placed_eq, hagain before h.before_ne]

end Placing

/-- A form that is put into settings is found by its name, among the forms and as the first entry of
its name, and forms of other names are found as before.  Of the entries one at most is replaced, the
first of the name; there is one more just if none has the name.  Names that differ still do, and
putting the form there again changes nothing. -/
theorem Settings.upsert_places (s : Settings) (form : Form) :
    (s.upsert form).findForm? form.name = some form
      ∧ firstOf? form.name (s.upsert form).entries = some (.usable form)
      ∧ (∀ name, name ≠ form.name → (s.upsert form).findForm? name = s.findForm? name)
      ∧ (∃ before replaced after,
        Placing form s.entries (s.upsert form).entries before replaced after)
      ∧ (s.upsert form).entries.length
        = s.entries.length + (if ∃ a ∈ s.entries, a.name = form.name then 0 else 1)
      ∧ ((s.entries.map Entry.name).Nodup → ((s.upsert form).entries.map Entry.name).Nodup)
      ∧ (s.upsert form).upsert form = s.upsert form
      ∧ (s.upsert form).position = s.position := by
  obtain ⟨before, replaced, after, h⟩ := exists_placing form s.entries
  have hlength : (s.upsert form).entries.length
      = s.entries.length + (if ∃ a ∈ s.entries, a.name = form.name then 0 else 1) := by
    have hnames := congrArg List.length h.map_name
    simp only [List.mem_map] at hnames
    rw [List.length_map] at hnames
    rw [show (s.upsert form).entries = upsertEntry form s.entries from rfl, hnames]
    split <;> simp
  have hagain : (s.upsert form).upsert form = s.upsert form := by
    rw [upsert, upsert, h.upsertEntry_eq]
  exact ⟨findForm?_of_first_usable h.firstOf?_eq, h.firstOf?_eq, fun name => h.findForm?_of_ne,
    ⟨before, replaced, after, h⟩, hlength, h.nodup_names, hagain, rfl⟩

/-- A form takes the place of one that needs a fix by hand; the form behind that one stays. -/
theorem Settings.upsert_places_repaired :
    let tea : Form := ⟨"Tea", "tea", none, [], none⟩
    let broken : BrokenForm := ⟨⟨" ", "tea", none, []⟩, .null, []⟩
    let s : Settings := ⟨.left, [.broken broken, .usable exampleForm]⟩
    (s.entries.map Entry.name).Nodup ∧ "example-form" ≠ tea.name ∧ s.findForm? "tea" = none
      ∧ (s.upsert tea).findForm? "tea" = some tea
      ∧ (s.upsert tea).findForm? "example-form" = some exampleForm
      ∧ (s.upsert tea).entries.length = 2 ∧ ((s.upsert tea).entries.map Entry.name).Nodup := by
  intro tea broken s
  have hnodup : (s.entries.map Entry.name).Nodup := by decide
  have hexample : s.findForm? "example-form" = some exampleForm := rfl
  obtain ⟨hself, -, hother, -, hlength, hnames, -, -⟩ := s.upsert_places tea
  exact ⟨hnodup, by decide, rfl, hself, (hother _ (by decide)).trans hexample, hlength,
    hnames hnodup⟩

end NoteForms
