/-!
# Tables by name

A table holds one value for each of some names and keeps them in the order of the names, character
by character.  Main statements: what look-ups find after an entry is put in its place, left out or
changed, and that a table is determined by what it finds.
-/

namespace NoteForms

/-! ## Lists of entries -/

/-- The value of the first entry with this name. -/
def lookup (name : String) : List (String × α) → Option α
  | [] => none
  | (key, value) :: entries => if key = name then some value else lookup name entries

/-- Entries in order of name with one more put in its place; an entry of that name is replaced. -/
def insertEntry (name : String) (value : α) : List (String × α) → List (String × α)
  | [] => [(name, value)]
  | (key, old) :: entries =>
    if name = key then (name, value) :: entries
    else if name < key then (name, value) :: (key, old) :: entries
    else (key, old) :: insertEntry name value entries

/-- Each name comes before those that follow it. -/
def SortedByName (entries : List (String × α)) : Prop := entries.Pairwise fun a b => a.1 < b.1

theorem mem_of_mem_insertEntry {name : String} {value : α} {a : String × α} :
    ∀ {entries : List (String × α)}, a ∈ insertEntry name value entries →
      a = (name, value) ∨ a ∈ entries
  | [], h => .inl (List.mem_singleton.1 h)
  | (key, old) :: entries, h => by
    rw [insertEntry] at h
    split at h
    · exact (List.mem_cons.1 h).imp_right (List.mem_cons_of_mem _)
    · split at h
      · exact List.mem_cons.1 h
      · rcases List.mem_cons.1 h with h | h
        · exact .inr (h ▸ List.mem_cons_self)
        · exact (mem_of_mem_insertEntry h).imp_right (List.mem_cons_of_mem _)

theorem sortedByName_insertEntry {name : String} {value : α} :
    ∀ {entries : List (String × α)}, SortedByName entries →
      SortedByName (insertEntry name value entries)
  | [], _ => List.pairwise_singleton _ _
  | (key, old) :: entries, h => by
    obtain ⟨hkey, hrest⟩ := List.pairwise_cons.1 h
    simp only [insertEntry]
    split
    · rename_i heq
      exact List.pairwise_cons.2 ⟨fun a ha => heq ▸ hkey a ha, hrest⟩
    · rename_i hne
      split
      · rename_i hlt
        refine List.pairwise_cons.2 ⟨fun a ha => ?_, h⟩
        rcases List.mem_cons.1 ha with rfl | ha
        · exact hlt
        · exact String.lt_trans hlt (hkey a ha)
      · rename_i hnlt
        have hlt : key < name := Std.lt_of_le_of_ne (String.not_lt.1 hnlt) (Ne.symm hne)
        refine List.pairwise_cons.2 ⟨fun a ha => ?_, sortedByName_insertEntry hrest⟩
        rcases mem_of_mem_insertEntry ha with rfl | h
        · exact hlt
        · exact hkey a h

theorem lookup_insertEntry (name other : String) (value : α) :
    ∀ entries : List (String × α),
      lookup other (insertEntry name value entries)
        = if name = other then some value else lookup other entries
  | [] => rfl
  | (key, old) :: entries => by
    simp only [insertEntry]
    split
    · rename_i heq
      subst heq
      simp only [lookup]
      split <;> rfl
    · split
      · simp only [lookup]
      · simp only [lookup, lookup_insertEntry name other value entries]
        split
        · rename_i hne _ heq
          subst heq
          rw [if_neg hne]
        · rfl

theorem lookup_eq_none_of_lt {name : String} :
    ∀ {entries : List (String × α)}, (∀ a ∈ entries, name < a.1) → lookup name entries = none
  | [], _ => rfl
  | (key, value) :: entries, h => by
    have hkey : name < key := h (key, value) List.mem_cons_self
    rw [lookup, if_neg fun heq : key = name => String.lt_irrefl name (heq ▸ hkey)]
    exact lookup_eq_none_of_lt fun a ha => h a (List.mem_cons_of_mem _ ha)

theorem lookup_cons_ne {name key : String} {value : α} {entries : List (String × α)}
    (h : key ≠ name) : lookup name ((key, value) :: entries) = lookup name entries := by
  rw [lookup, if_neg h]

theorem lookup_cons_self {name : String} {value : α} {entries : List (String × α)} :
    lookup name ((name, value) :: entries) = some value := by
  rw [lookup, if_pos rfl]

theorem lookup_eq_none_iff {name : String} :
    ∀ {entries : List (String × α)}, lookup name entries = none ↔ name ∉ entries.map (·.1)
  | [] => by simp [lookup]
  | (key, value) :: entries => by
    rw [lookup, List.map_cons, List.mem_cons, not_or]
    split
    · rename_i h
      simp [h]
    · rename_i h
      rw [lookup_eq_none_iff]
      simp [Ne.symm h]

theorem mem_of_lookup {name : String} {value : α} :
    ∀ {entries : List (String × α)}, lookup name entries = some value → (name, value) ∈ entries
  | (key, old) :: entries, h => by
    rw [lookup] at h
    split at h
    · rename_i hkey
      cases h
      exact hkey ▸ List.mem_cons_self
    · exact List.mem_cons_of_mem _ (mem_of_lookup h)

/-- Where no name is used twice, every entry is found under its name. -/
theorem lookup_of_mem {name : String} {value : α} :
    ∀ {entries : List (String × α)}, (entries.map (·.1)).Nodup → (name, value) ∈ entries →
      lookup name entries = some value
  | (key, old) :: entries, hnodup, h => by
    obtain ⟨hkey, hnodup⟩ := List.nodup_cons.1 hnodup
    rcases List.mem_cons.1 h with h | h
    · cases h
      exact lookup_cons_self
    · have hne : key ≠ name := fun heq => hkey (List.mem_map.2 ⟨_, h, heq.symm⟩)
      rw [lookup_cons_ne hne]
      exact lookup_of_mem hnodup h

theorem lookup_append (name : String) (others : List (String × α)) :
    ∀ entries : List (String × α),
      lookup name (entries ++ others) = (lookup name entries).or (lookup name others)
  | [] => rfl
  | (key, value) :: entries => by
    rw [List.cons_append, lookup, lookup]
    split
    · rfl
    · exact lookup_append name others entries

theorem lookup_map (f : α → β) (name : String) :
    ∀ entries : List (String × α),
      lookup name (entries.map fun e => (e.1, f e.2)) = (lookup name entries).map f
  | [] => rfl
  | (key, value) :: entries => by
    rw [List.map_cons, lookup, lookup]
    split
    · rfl
    · exact lookup_map f name entries

/-- Leaving out one name keeps what is found under the others. -/
theorem lookup_filter_ne {name other : String} (h : other ≠ name) :
    ∀ entries : List (String × α),
      lookup name (entries.filter fun e => e.1 != other) = lookup name entries
  | [] => rfl
  | (key, value) :: entries => by
    have ih := lookup_filter_ne h entries
    rw [List.filter_cons]
    by_cases hkey : key = other
    · subst hkey
      rw [if_neg (by simp), lookup_cons_ne h, ih]
    · rw [if_pos (by simpa using hkey), lookup, lookup, ih]

/-- Where no name is used twice, what a function makes of the values is found where they were. -/
theorem lookup_filterMap (f : α → Option β) (name : String) :
    ∀ {entries : List (String × α)}, (entries.map (·.1)).Nodup →
      lookup name (entries.filterMap fun e => (f e.2).map fun b => (e.1, b))
        = (lookup name entries).bind f
  | [], _ => rfl
  | (key, value) :: entries, hnodup => by
    obtain ⟨hkey, hnodup⟩ := List.nodup_cons.1 hnodup
    have ih := lookup_filterMap f name hnodup
    cases hf : f value with
    | none =>
      rw [List.filterMap_cons_none (by simp [hf]), ih, lookup]
      split
      · rename_i heq
        subst heq
        rw [lookup_eq_none_iff.2 hkey]
        exact hf.symm
      · rfl
    | some b =>
      rw [List.filterMap_cons_some (by rw [hf]; rfl), lookup, lookup]
      split
      · exact hf.symm
      · exact ih

theorem SortedByName.nodup {entries : List (String × α)} (h : SortedByName entries) :
    (entries.map (·.1)).Nodup := by
  rw [List.nodup_iff_pairwise_ne, List.pairwise_map]
  exact h.imp fun {a b} hlt (heq : a.1 = b.1) => String.lt_irrefl a.1 (heq ▸ hlt)

/-- The first name of a sorted list is that of any sorted list with the same look-ups. -/
theorem not_lt_of_lookup_eq {key : String} {value : α} {other : String × α}
    {entries others : List (String × α)} (ho : SortedByName (other :: others))
    (h : ∀ name, lookup name ((key, value) :: entries) = lookup name (other :: others)) :
    ¬ key < other.1 := fun hlt => by
  have hnone : lookup key (other :: others) = none := by
    refine lookup_eq_none_of_lt fun a ha => ?_
    rcases List.mem_cons.1 ha with rfl | ha
    · exact hlt
    · exact String.lt_trans hlt ((List.pairwise_cons.1 ho).1 a ha)
  rw [← h key, lookup_cons_self] at hnone
  cases hnone

theorem eq_of_lookup_eq : ∀ {xs ys : List (String × α)}, SortedByName xs → SortedByName ys →
    (∀ name, lookup name xs = lookup name ys) → xs = ys
  | [], [], _, _, _ => rfl
  | [], (key, value) :: ys, _, _, h => by
    have h := h key
    rw [lookup_cons_self] at h
    cases h
  | (key, value) :: xs, [], _, _, h => by
    have h := h key
    rw [lookup_cons_self] at h
    cases h
  | (key, value) :: xs, (other, old) :: ys, hx, hy, h => by
    have hkey : key = other := by
      have h1 := not_lt_of_lookup_eq hy h
      have h2 := not_lt_of_lookup_eq hx fun name => (h name).symm
      exact String.le_antisymm (String.not_lt.1 h2) (String.not_lt.1 h1)
    subst hkey
    have hvalue := h key
    rw [lookup_cons_self, lookup_cons_self] at hvalue
    cases hvalue
    obtain ⟨hxs, hx⟩ := List.pairwise_cons.1 hx
    obtain ⟨hys, hy⟩ := List.pairwise_cons.1 hy
    refine congrArg _ (eq_of_lookup_eq hx hy fun name => ?_)
    by_cases hname : key = name
    · subst hname
      rw [lookup_eq_none_of_lt hxs, lookup_eq_none_of_lt hys]
    · have h := h name
      rwa [lookup_cons_ne hname, lookup_cons_ne hname] at h

/-! ## Tables -/

/-- Values by name, in the order of the names. -/
structure Table (α : Type) where
  entries : List (String × α)
  sorted : SortedByName entries
  deriving DecidableEq

namespace Table

variable {α β : Type}

/-- The table without entries. -/
def empty : Table α := ⟨[], .nil⟩

instance : EmptyCollection (Table α) := ⟨empty⟩

instance : Inhabited (Table α) := ⟨empty⟩

/-- The value of a name. -/
def get? (t : Table α) (name : String) : Option α := lookup name t.entries

/-- The table with a value put under a name. -/
def insert (t : Table α) (name : String) (value : α) : Table α :=
  ⟨insertEntry name value t.entries, sortedByName_insertEntry t.sorted⟩

/-- The names, in order. -/
def keys (t : Table α) : List String := t.entries.map (·.1)

/-- The number of entries. -/
def size (t : Table α) : Nat := t.entries.length

/-- Whether a name has a value. -/
def contains (t : Table α) (name : String) : Bool := (t.get? name).isSome

/-- The entries that pass a test. -/
def filter (p : String → α → Bool) (t : Table α) : Table α :=
  ⟨t.entries.filter fun e => p e.1 e.2, t.sorted.filter _⟩

/-- Every value changed by a function. -/
def map (f : α → β) (t : Table α) : Table β :=
  ⟨t.entries.map fun e => (e.1, f e.2), List.pairwise_map.2 (t.sorted.imp fun h => h)⟩

/-- The entries for which a function gives a value, with that value. -/
def filterMap (f : α → Option β) (t : Table α) : Table β :=
  ⟨t.entries.filterMap fun e => (f e.2).map fun b => (e.1, b), by
    refine List.pairwise_filterMap.2 (t.sorted.imp fun {a b} hab c hc d hd => ?_)
    obtain ⟨_, _, rfl⟩ := Option.map_eq_some_iff.1 hc
    obtain ⟨_, _, rfl⟩ := Option.map_eq_some_iff.1 hd
    exact hab⟩

/-- The table of some entries, the last of one name standing. -/
def ofList (entries : List (String × α)) : Table α :=
  entries.foldl (fun t e => t.insert e.1 e.2) empty

theorem get?_insert (t : Table α) (name other : String) (value : α) :
    (t.insert name value).get? other = if name = other then some value else t.get? other :=
  lookup_insertEntry name other value t.entries

theorem get?_map (f : α → β) (t : Table α) (name : String) :
    (t.map f).get? name = (t.get? name).map f := lookup_map f name t.entries

theorem get?_filterMap (f : α → Option β) (t : Table α) (name : String) :
    (t.filterMap f).get? name = (t.get? name).bind f := lookup_filterMap f name t.sorted.nodup

theorem mem_entries_iff {t : Table α} {name : String} {value : α} :
    (name, value) ∈ t.entries ↔ t.get? name = some value :=
  ⟨lookup_of_mem t.sorted.nodup, mem_of_lookup⟩

theorem ext_get? {t u : Table α} (h : ∀ name, t.get? name = u.get? name) : t = u := by
  cases t with
  | mk xs hx =>
    cases u with
    | mk ys hy =>
      have : xs = ys := eq_of_lookup_eq hx hy h
      subst this
      rfl

end Table

end NoteForms
