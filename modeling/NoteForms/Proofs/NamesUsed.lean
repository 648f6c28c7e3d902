import Mathlib.Data.List.Basic
import Mathlib.Data.List.Induction
import NoteForms.Field.Basic
import NoteForms.Template.Render

/-!
# The names a template uses

A template uses the names of its variables, and for each block of frontmatter the picked names that
it does not omit, or every name it does not omit if it picks none.  What it is rendered to is
determined by the answers under the names it uses (`Template.render_congr`).  The names it mentions
are listed once each, in order of first appearance, and where every block picks some they include
all that are used (`Template.rendering_uses`).
-/

namespace NoteForms

/-- The entries that pass a test of their names are found where they were. -/
theorem lookup_filter_name {α : Type} (p : String → Bool) (name : String) :
    ∀ entries : List (String × α),
      lookup name (entries.filter fun e => p e.1) = if p name then lookup name entries else none
  | [] => by simp [lookup]
  | (key, value) :: entries => by
    have ih := lookup_filter_name p name entries
    rw [List.filter_cons]
    by_cases hkey : key = name
    · subst hkey
      by_cases hp : p key
      · rw [if_pos hp, if_pos hp, lookup_cons_self, lookup_cons_self]
      · rw [if_neg hp, ih, if_neg hp, if_neg hp]
    · rw [lookup_cons_ne hkey]
      split
      · rw [lookup_cons_ne hkey, ih]
      · exact ih

/-! ## What a segment uses -/

/-- Whether a block with these names picked and omitted keeps a name. -/
def Answers.Keeps (picked omitted : List String) (name : String) : Prop :=
  (picked = [] ∨ name ∈ picked) ∧ name ∉ omitted

instance (picked omitted : List String) (name : String) :
    Decidable (Answers.Keeps picked omitted name) :=
  inferInstanceAs (Decidable ((picked = [] ∨ name ∈ picked) ∧ name ∉ omitted))

theorem Answers.get?_select (answers : Answers) (picked omitted : List String) (name : String) :
    (answers.select picked omitted).get? name
      = if Keeps picked omitted name then answers.get? name else none := by
  have h := lookup_filter_name
    (fun name => (picked.isEmpty || picked.contains name) && !omitted.contains name) name
    answers.entries
  refine h.trans (if_congr ?_ rfl rfl)
  simp [Keeps]

/-- Whether the answer under a name is used for a segment. -/
def Segment.Uses : Segment → String → Prop
  | .text _, _ => False
  | .variable shown _, name => name = shown
  | .frontmatter picked omitted, name => Answers.Keeps picked omitted name

/-- Whether a segment says which names it uses: a block of frontmatter must pick some. -/
def Segment.IsSelective : Segment → Prop
  | .frontmatter picked _ => picked ≠ []
  | _ => True

theorem Segment.render_congr {a b : Answers} :
    ∀ {s : Segment}, (∀ name, s.Uses name → a.get? name = b.get? name) → s.render a = s.render b
  | .text _, _ => rfl
  | .variable name transform, h => by
    simp only [render, h name rfl]
  | .frontmatter picked omitted, h => by
    have hselect : a.select picked omitted = b.select picked omitted :=
      Table.ext_get? fun name => by
        rw [Answers.get?_select, Answers.get?_select]
        split
        · rename_i hkeeps
          exact h name hkeeps
        · rfl
    simp only [render, hselect]

theorem Segment.mem_names_of_uses {s : Segment} {name : String} (hs : s.IsSelective)
    (h : s.Uses name) : name ∈ s.names := by
  cases s with
  | text _ => exact h.elim
  | «variable» shown _ => exact List.mem_singleton.2 h
  | frontmatter picked omitted => exact List.mem_append_left _ (h.1.resolve_left hs)

/-! ## What a template mentions -/

namespace Template

/-- Whether the answer under a name is used for some segment. -/
def Uses (t : Template) (name : String) : Prop := ∃ s ∈ t, s.Uses name

/-- The names that the segments mention, as often as they do. -/
def mentions (t : Template) : List String := t.flatMap Segment.names

theorem mem_addName {names : List String} {name other : String} :
    other ∈ addName names name ↔ other ∈ names ∨ other = name := by
  unfold addName
  split
  · rename_i h
    have hname : name ∈ names := by simpa using h
    exact ⟨.inl, fun h => h.elim id fun heq => heq ▸ hname⟩
  · rw [List.mem_append, List.mem_singleton]

theorem mem_foldl_addName {name : String} :
    ∀ {mentioned names : List String},
      name ∈ mentioned.foldl addName names ↔ name ∈ names ∨ name ∈ mentioned
  | [], names => by simp
  | other :: mentioned, names => by
    rw [List.foldl_cons, mem_foldl_addName, mem_addName, List.mem_cons, or_assoc]

theorem mem_variableNames {t : Template} {name : String} :
    name ∈ t.variableNames ↔ name ∈ t.mentions := by
  simp [variableNames, mentions, mem_foldl_addName]

/-- Of two names that are listed, the one listed first is mentioned first.  The induction adds one
more mention at the end. -/
theorem pairwise_foldl_addName (mentioned : List String) :
    (mentioned.foldl addName []).Pairwise fun a b => mentioned.idxOf a < mentioned.idxOf b := by
  induction mentioned using List.reverseRecOn with
  | nil => exact .nil
  | append_singleton mentioned name ih =>
    have hmem : ∀ a ∈ mentioned.foldl addName [], a ∈ mentioned := fun a ha => by
      simpa using mem_foldl_addName.1 ha
    have hidx : ∀ a ∈ mentioned.foldl addName [],
        (mentioned ++ [name]).idxOf a = mentioned.idxOf a := fun a ha =>
      List.idxOf_append_of_mem (hmem a ha)
    have hold : (mentioned.foldl addName []).Pairwise fun a b =>
        (mentioned ++ [name]).idxOf a < (mentioned ++ [name]).idxOf b :=
      ih.imp_of_mem fun {a b} ha hb hlt => by rwa [hidx a ha, hidx b hb]
    rw [List.foldl_append, List.foldl_cons, List.foldl_nil, addName]
    split
    · exact hold
    · rename_i hnew
      have hname : name ∉ mentioned := fun h => hnew (by simpa using mem_foldl_addName.2 (.inr h))
      refine List.pairwise_append.2 ⟨hold, List.pairwise_singleton _ _, fun a ha b hb => ?_⟩
      rw [List.mem_singleton.1 hb, hidx a ha, List.idxOf_append_of_notMem hname]
      exact Nat.lt_of_lt_of_le (List.idxOf_lt_length_of_mem (hmem a ha)) (Nat.le_add_right _ _)

theorem nodup_variableNames (t : Template) : t.variableNames.Nodup :=
  List.nodup_iff_pairwise_ne.2 ((pairwise_foldl_addName t.mentions).imp
    fun {a b} hlt (heq : a = b) => Nat.lt_irrefl _ (heq ▸ hlt))

theorem render_congr {t : Template} {a b : Answers}
    (h : ∀ name, t.Uses name → a.get? name = b.get? name) : t.render a = t.render b := by
  unfold render
  congr 1
  exact List.map_congr_left fun s hs => Segment.render_congr fun name hname =>
    h name ⟨s, hs, hname⟩

theorem mem_variableNames_of_uses {t : Template} {name : String}
    (ht : ∀ s ∈ t, s.IsSelective) (h : t.Uses name) : name ∈ t.variableNames := by
  obtain ⟨s, hs, hname⟩ := h
  exact mem_variableNames.2
    (List.mem_flatMap.2 ⟨s, hs, Segment.mem_names_of_uses (ht s hs) hname⟩)

theorem unknownVariables_eq_nil_iff {t : Template} {known : List String} :
    t.unknownVariables known = [] ↔ ∀ name ∈ t.mentions, name ∈ known := by
  simp [unknownVariables, mem_variableNames]

/-- A template is rendered alike for answers that agree on the names it uses.  The names it
mentions are listed once each, in order of first appearance.  Where every block of frontmatter picks
some names, all names that are used are among them; and if each of them is the name of a field, the
answers to the fields determine what the template is rendered to. -/
theorem rendering_uses (t : Template) :
    (∀ a b : Answers, (∀ name, t.Uses name → a.get? name = b.get? name) →
        t.render a = t.render b)
      ∧ t.variableNames.Nodup
      ∧ (∀ name, name ∈ t.variableNames ↔
        (∃ transform, .variable name transform ∈ t)
          ∨ ∃ picked omitted, .frontmatter picked omitted ∈ t ∧ (name ∈ picked ∨ name ∈ omitted))
      ∧ (t.variableNames.Pairwise fun a b => t.mentions.idxOf a < t.mentions.idxOf b)
      ∧ ((∀ s ∈ t, s.IsSelective) →
        (∀ name, t.Uses name → name ∈ t.variableNames)
          ∧ ∀ fields : List Field, t.unknownVariables (fields.map (·.name)) = [] →
            ∀ a b : Answers, (∀ f ∈ fields, a.get? f.name = b.get? f.name) →
              t.render a = t.render b) := by
  refine ⟨fun a b => render_congr, t.nodup_variableNames, fun name => ?_,
    pairwise_foldl_addName t.mentions, fun ht => ⟨fun name => mem_variableNames_of_uses ht, ?_⟩⟩
  · rw [mem_variableNames, mentions, List.mem_flatMap]
    constructor
    · rintro ⟨s, hs, hname⟩
      cases s with
      | text _ => exact absurd hname List.not_mem_nil
      | «variable» shown transform =>
        exact .inl ⟨transform, by rwa [List.mem_singleton.1 hname]⟩
      | frontmatter picked omitted =>
        exact .inr ⟨picked, omitted, hs, List.mem_append.1 hname⟩
    · rintro (⟨transform, hs⟩ | ⟨picked, omitted, hs, hname⟩)
      · exact ⟨_, hs, List.mem_singleton_self _⟩
      · exact ⟨_, hs, List.mem_append.2 hname⟩
  · intro fields hknown a b h
    refine render_congr fun name hname => ?_
    have hmentioned := mem_variableNames.1 (mem_variableNames_of_uses ht hname)
    obtain ⟨f, hf, rfl⟩ := List.mem_map.1 (unknownVariables_eq_nil_iff.1 hknown name hmentioned)
    exact h f hf

/-- The city is omitted, so it is not used: the text is the same for any city. -/
theorem rendering_uses_other_city :
    let t : Template := [.variable "name" (some .upper), .frontmatter ["age", "city"] ["city"]]
    let fields : List Field := ["name", "age", "city"].map fun name =>
      ⟨name, none, "", .basic .text none, none, none⟩
    let a : Answers := .ofList [("name", .text "Ann"), ("age", .number 0), ("city", .text "Rome")]
    let b : Answers := .ofList [("name", .text "Ann"), ("age", .number 0), ("city", .text "Oslo")]
    let c : Answers := a.insert "hair" (.list ["grey"])
    a ≠ b ∧ t.render a = t.render b ∧ t.render b = "ANN---\nage: 0\n---\n"
      ∧ t.Uses "age" ∧ ¬t.Uses "city" ∧ "age" ∈ t.variableNames
      ∧ t.unknownVariables (fields.map (·.name)) = [] ∧ a ≠ c ∧ t.render a = t.render c := by
  intro t fields a b c
  obtain ⟨hrender, -, -, -, hselective⟩ := rendering_uses t
  have ht : ∀ s ∈ t, s.IsSelective := by simp [t, Segment.IsSelective]
  obtain ⟨hlisted, hfields⟩ := hselective ht
  have hage : t.Uses "age" :=
    ⟨_, List.mem_cons_of_mem _ (List.mem_singleton_self _), .inr (by simp), by simp⟩
  have hagree : ∀ name, t.Uses name → a.get? name = b.get? name := by
    rintro name ⟨s, hs, hname⟩
    rcases List.mem_cons.1 hs with rfl | hs
    · rw [show name = "name" from hname]
      rfl
    · rw [List.mem_singleton.1 hs] at hname
      have hkept : (name = "age" ∨ name = "city") ∧ name ≠ "city" := by
        simpa [Segment.Uses, Answers.Keeps] using hname
      rw [hkept.1.resolve_right hkept.2]
      rfl
  have hknown : t.unknownVariables (fields.map (·.name)) = [] := by decide
  refine ⟨by decide, hrender a b hagree, by decide +kernel, hage,
    by simp [t, Uses, Segment.Uses, Answers.Keeps], hlisted _ hage, hknown, by decide,
    hfields fields hknown a c ?_⟩
  simp [fields, c, Table.get?_insert]

end Template

end NoteForms
