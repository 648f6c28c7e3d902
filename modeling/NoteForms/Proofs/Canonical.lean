import Mathlib.Data.List.Chain
import NoteForms.Proofs.Grammar
import NoteForms.Template.Source

/-!
# Templates that survive being written and read

A template is read back from its source exactly if it is canonical: its names are names, its texts
are not empty and open no tag, alone or with what is written behind them, and no two of them are
neighbours.  What is written of a canonical template has the reading that the template spells out
(`reads_source`), and every reading spells out a canonical template (`canonical_merge`), because the
text at its front is a piece of the source, where no tag opens.
-/

namespace NoteForms.Template

open Text

/-! ## Canonical templates -/

/-- A text in which no tag opens. -/
structure IsPlain (cs : List Char) : Prop where
  noVariable : ¬ ['{', '{'] <:+: cs
  noBlankCommand : ∀ c, isBlank c → ¬ ['{', '#', c] <:+: cs
  noCommand : ¬ '{' :: '#' :: "frontmatter".toList <:+: cs

/-- Which segment may stand behind another: no text behind a text, and none at all behind a text
that ends with an opening brace. -/
def MayFollow (s next : Segment) : Prop :=
  ∀ value, s = .text value → (∀ other, next ≠ .text other) ∧ value.toList.getLast? ≠ some '{'

/-- A template in the form in which it is read. -/
structure Canonical (t : Template) : Prop where
  names : ∀ s ∈ t, ∀ name ∈ s.names, IsName name
  texts : ∀ value, Segment.text value ∈ t → value ≠ "" ∧ IsPlain value.toList
  apart : t.IsChain MayFollow

theorem isPlain_iff {cs : List Char} :
    IsPlain cs ↔ ∀ tail, tail <:+ cs → ¬ OpensVariable tail ∧ ¬ OpensCommand tail := by
  constructor
  · rintro ⟨hv, hb, hc⟩ tail htail
    refine ⟨fun h => hv (h.isInfix.trans htail.isInfix), ?_⟩
    rintro (⟨c, hblank, h⟩ | h)
    · exact hb c hblank (h.isInfix.trans htail.isInfix)
    · exact hc (h.isInfix.trans htail.isInfix)
  · intro h
    refine ⟨fun hv => ?_, fun c hblank hb => ?_, fun hc => ?_⟩
    · obtain ⟨tail, hp, hs⟩ := List.infix_iff_prefix_suffix.1 hv
      exact (h tail hs).1 hp
    · obtain ⟨tail, hp, hs⟩ := List.infix_iff_prefix_suffix.1 hb
      exact (h tail hs).2 (.inl ⟨c, hblank, hp⟩)
    · obtain ⟨tail, hp, hs⟩ := List.infix_iff_prefix_suffix.1 hc
      exact (h tail hs).2 (.inr hp)

theorem isPlain_nil : IsPlain [] := by
  refine isPlain_iff.2 fun tail h => ?_
  obtain rfl := List.suffix_nil.1 h
  exact ⟨by simp [OpensVariable], by simp [OpensCommand]⟩

theorem isPlain_cons {c : Char} {cs : List Char} :
    IsPlain (c :: cs) ↔ ¬ OpensVariable (c :: cs) ∧ ¬ OpensCommand (c :: cs) ∧ IsPlain cs := by
  simp only [isPlain_iff, List.suffix_cons_iff]
  constructor
  · intro h
    exact ⟨(h _ (.inl rfl)).1, (h _ (.inl rfl)).2, fun tail ht => h tail (.inr ht)⟩
  · rintro ⟨hv, hc, h⟩ tail (rfl | ht)
    · exact ⟨hv, hc⟩
    · exact h tail ht

/-- The conditions on a segment by itself. -/
def SegmentOk (s : Segment) : Prop :=
  (∀ name ∈ s.names, IsName name) ∧ ∀ value, s = .text value → value ≠ "" ∧ IsPlain value.toList

theorem canonical_nil : Canonical [] := ⟨by simp, by simp, .nil⟩

theorem canonical_cons {s : Segment} {t : Template} :
    Canonical (s :: t) ↔ SegmentOk s ∧ (∀ next ∈ t.head?, MayFollow s next) ∧ Canonical t := by
  constructor
  · rintro ⟨hnames, htexts, hapart⟩
    obtain ⟨hnext, hchain⟩ := List.isChain_cons.1 hapart
    exact ⟨⟨hnames s List.mem_cons_self, fun value hs => htexts value (hs ▸ List.mem_cons_self)⟩,
      hnext, fun s' hs' => hnames s' (List.mem_cons_of_mem _ hs'),
      fun value hv => htexts value (List.mem_cons_of_mem _ hv), hchain⟩
  · rintro ⟨⟨hn, ht⟩, hnext, hnames, htexts, hchain⟩
    refine ⟨List.forall_mem_cons.2 ⟨hn, hnames⟩, fun value hv => ?_,
      List.isChain_cons.2 ⟨hnext, hchain⟩⟩
    rcases List.mem_cons.1 hv with hv | hv
    · exact ht value hv.symm
    · exact htexts value hv

/-! ## What is read is canonical -/

theorem NamesAt.isName {cs rest : List Char} {names : List String} (h : NamesAt cs names rest) :
    ∀ name ∈ names, IsName name := by
  induction h with
  | last _ hn => exact List.forall_mem_singleton.2 hn.toIsName
  | more _ hn _ _ ih => exact List.forall_mem_cons.2 ⟨hn.toIsName, ih⟩

theorem ClausesAt.isName {cs rest : List Char} {clauses : List (Clause × List String)}
    (h : ClausesAt cs clauses rest) (kind : Clause) :
    ∀ name ∈ namesOf kind clauses, IsName name := by
  induction h with
  | close _ => simp [namesOf]
  | @clause _ _ _ _ _ _ kind' names clauses _ _ _ hn _ ih =>
    rw [namesOf, List.lookup_cons]
    split
    · exact hn.isName
    · exact ih

theorem CommandAt.isName {cs rest : List Char} {picked omitted : List String}
    (h : CommandAt cs picked omitted rest) : ∀ name ∈ picked ++ omitted, IsName name := by
  cases h with
  | mk _ _ hc _ =>
    intro name hname
    rcases List.mem_append.1 hname with h | h
    · exact hc.isName _ name h
    · exact hc.isName _ name h

theorem VariableAt.isName {cs rest : List Char} {name : String} {transform : Option Transform}
    (h : VariableAt cs name transform rest) : IsName name := by
  cases h with
  | plain _ hn _ => exact hn.toIsName
  | changed _ hn _ _ _ _ => exact hn.toIsName

/-- What the first segment of a reading says of the source: a text stands at its start, and any
other segment starts with a brace. -/
theorem Reads.front {cs : List Char} {pieces : List Piece} (h : Reads cs pieces) :
    (∀ value t, merge pieces = .text value :: t → value.toList <+: cs)
      ∧ ∀ s t, merge pieces = s :: t → (∀ value, s ≠ .text value) → ['{'] <+: cs := by
  induction h with
  | nil => simp [merge]
  | variableAt h _ _ =>
    obtain ⟨tail, rfl⟩ := h.opensVariable
    exact ⟨by simp [merge], fun _ _ _ _ => ⟨_, rfl⟩⟩
  | commandAt h _ _ =>
    obtain ⟨tail, rfl⟩ := h.opensCommand.exists_eq
    exact ⟨by simp [merge], fun _ _ _ _ => ⟨_, rfl⟩⟩
  | @charAt c cs pieces _ _ _ ih =>
    simp only [merge]
    unfold addFront
    split
    · rename_i value t hmerge
      refine ⟨fun value' t' h => ?_, fun s t' h hs => absurd (List.cons.inj h).1.symm (hs _)⟩
      rw [← Segment.text.inj (List.cons.inj h).1, String.toList_ofList]
      exact List.cons_prefix_cons.2 ⟨rfl, ih.1 value t hmerge⟩
    · refine ⟨fun value' t' h => ?_, fun s t' h hs => absurd (List.cons.inj h).1.symm (hs _)⟩
      rw [← Segment.text.inj (List.cons.inj h).1, String.toList_ofList]
      exact ⟨cs, rfl⟩

theorem OpensVariable.of_isPrefix {cs ds : List Char} (h : OpensVariable cs) (hp : cs <+: ds) :
    OpensVariable ds := List.IsPrefix.trans h hp

theorem OpensCommand.of_isPrefix {cs ds : List Char} (h : OpensCommand cs) (hp : cs <+: ds) :
    OpensCommand ds := by
  rcases h with ⟨c, hc, h⟩ | h
  · exact .inl ⟨c, hc, h.trans hp⟩
  · exact .inr (h.trans hp)

/-- A character in front of a canonical template keeps it canonical where no tag opens. -/
theorem canonical_addFront {c : Char} {cs : List Char} {t : Template} (ht : Canonical t)
    (hv : ¬ OpensVariable (c :: cs)) (hc : ¬ OpensCommand (c :: cs))
    (htext : ∀ value u, t = .text value :: u → value.toList <+: cs)
    (htag : ∀ s u, t = s :: u → (∀ value, s ≠ .text value) → ['{'] <+: cs) :
    Canonical (addFront c t) := by
  unfold addFront
  split
  · rename_i value u
    obtain ⟨⟨hnames, hvalue⟩, hnext, hu⟩ := canonical_cons.1 ht
    obtain ⟨hne, hplain⟩ := hvalue value rfl
    have hprefix : c :: value.toList <+: c :: cs := List.cons_prefix_cons.2 ⟨rfl, htext value u rfl⟩
    refine canonical_cons.2 ⟨⟨by simp [Segment.names], ?_⟩, fun next hmem value' hs => ?_, hu⟩
    · rintro value' hs
      rw [← Segment.text.inj hs, String.toList_ofList]
      refine ⟨by simp, isPlain_cons.2 ⟨fun h => hv (h.of_isPrefix hprefix),
        fun h => hc (h.of_isPrefix hprefix), hplain⟩⟩
    · rw [← Segment.text.inj hs, String.toList_ofList,
        List.getLast?_cons_of_ne_nil (mt String.toList_eq_nil_iff.1 hne)]
      exact hnext next hmem value rfl
  · rename_i hfirst
    have hprefix : [c] <+: c :: cs := ⟨cs, rfl⟩
    refine canonical_cons.2 ⟨⟨by simp [Segment.names], ?_⟩, fun next hmem value' hs => ?_, ht⟩
    · rintro value' hs
      rw [← Segment.text.inj hs, String.toList_ofList]
      exact ⟨by simp, isPlain_cons.2 ⟨fun h => hv (h.of_isPrefix hprefix),
        fun h => hc (h.of_isPrefix hprefix), isPlain_nil⟩⟩
    · obtain ⟨u, rfl⟩ := List.head?_eq_some_iff.1 hmem
      have hnext : ∀ value, next ≠ .text value := fun value h => hfirst value u (by rw [h])
      refine ⟨hnext, fun hlast => hv ?_⟩
      rw [← Segment.text.inj hs, String.toList_ofList] at hlast
      obtain rfl : c = '{' := by simpa using hlast
      exact List.cons_prefix_cons.2 ⟨rfl, htag next u rfl hnext⟩

/-- Every reading spells out a canonical template. -/
theorem canonical_merge {cs : List Char} {pieces : List Piece} (h : Reads cs pieces) :
    Canonical (merge pieces) := by
  induction h with
  | nil => exact canonical_nil
  | variableAt h _ ih =>
    refine canonical_cons.2 ⟨⟨?_, by simp⟩, (fun _ _ value hs => by cases hs), ih⟩
    simpa [Segment.names] using h.isName
  | commandAt h _ ih =>
    refine canonical_cons.2 ⟨⟨?_, by simp⟩, (fun _ _ value hs => by cases hs), ih⟩
    simpa only [Segment.names] using h.isName
  | charAt hv hc hr ih => exact canonical_addFront ih hv hc hr.front.1 hr.front.2

/-! ## What is written is read -/

theorem blanks_space (cs : List Char) : Blanks (' ' :: cs) cs :=
  ⟨[' '], List.all_eq_true.1 (by decide), rfl⟩

theorem noNameChar_space (cs : List Char) : NoNameChar (' ' :: cs) :=
  noNameChar_cons.2 (isNameChar_of_isBlank (by decide))

theorem noNameChar_brace (cs : List Char) : NoNameChar ('}' :: cs) := noNameChar_cons.2 (by decide)

theorem noNameChar_comma (cs : List Char) : NoNameChar (',' :: cs) := noNameChar_cons.2 (by decide)

theorem noNameChar_colon (cs : List Char) : NoNameChar (':' :: cs) := noNameChar_cons.2 (by decide)

theorem isName_transform (t : Transform) : IsName t.name := by
  cases t <;> exact ⟨by decide, List.all_eq_true.1 (by decide)⟩

theorem isName_label (kind : Clause) : IsName kind.label := by
  cases kind <;> exact ⟨by decide, List.all_eq_true.1 (by decide)⟩

theorem isName_frontmatter : IsName "frontmatter" := ⟨by decide, List.all_eq_true.1 (by decide)⟩

theorem variableAt_source {name : String} (hn : IsName name) (transform : Option Transform)
    (rest : List Char) :
    VariableAt ((Segment.variable name transform).source ++ rest) name transform rest := by
  cases transform with
  | none =>
    simp only [Segment.source, List.cons_append, List.append_assoc]
    exact .plain (.refl _) ⟨hn, rfl, noNameChar_brace _⟩ (.refl _)
  | some t =>
    simp only [Segment.source, List.cons_append, List.append_assoc, List.nil_append]
    exact .changed (blanks_space _) ⟨hn, rfl, noNameChar_space _⟩ (blanks_space _) (blanks_space _)
      ⟨isName_transform t, rfl, noNameChar_space _⟩ (blanks_space _)

theorem NamesAt.of_blanks {cs ds rest : List Char} {names : List String} (hb : Blanks cs ds)
    (h : NamesAt ds names rest) : NamesAt cs names rest := by
  cases h with
  | last ha hn => exact .last (hb.trans ha) hn
  | more ha hn hcomma hc => exact .more (hb.trans ha) hn hcomma hc

theorem namesAt_writeNames {rest : List Char} (hr : NoNameChar rest) : ∀ {names : List String},
    names ≠ [] → (∀ name ∈ names, IsName name) → NamesAt (writeNames names ++ rest) names rest
  | [], hne, _ => absurd rfl hne
  | [name], _, hn => .last (.refl _) ⟨hn name List.mem_cons_self, rfl, hr⟩
  | name :: next :: names, _, hn => by
    have ih := namesAt_writeNames hr (List.cons_ne_nil next names)
      fun n h => hn n (List.mem_cons_of_mem _ h)
    simp only [writeNames, List.append_assoc, List.cons_append]
    exact .more (.refl _) ⟨hn name List.mem_cons_self, rfl, noNameChar_comma _⟩ (.refl _)
      (ih.of_blanks (blanks_space _))

/-- The clause that is written for some names: none for no names. -/
def writtenClause (kind : Clause) (names : List String) : List (Clause × List String) :=
  if names.isEmpty then [] else [(kind, names)]

theorem noNameChar_writeClause {label : String} {names : List String} {tail : List Char}
    (h : NoNameChar tail) : NoNameChar (writeClause label names ++ tail) := by
  unfold writeClause
  split
  · exact h
  · exact noNameChar_space _

theorem clausesAt_writeClause (kind : Clause) {names : List String} {tail rest : List Char}
    {clauses : List (Clause × List String)} (hn : ∀ name ∈ names, IsName name)
    (htail : NoNameChar tail) (h : ClausesAt tail clauses rest) :
    ClausesAt (writeClause kind.label names ++ tail) (writtenClause kind names ++ clauses)
      rest := by
  unfold writeClause writtenClause
  split
  · exact h
  · rename_i hne
    simp only [List.cons_append, List.append_assoc, List.nil_append]
    refine .clause (blanks_space _) ⟨isName_label kind, rfl, noNameChar_colon _⟩ (.refl _) ?_ h
    exact (namesAt_writeNames htail (by simpa using hne) hn).of_blanks (blanks_space _)

theorem nodup_writtenClause (picked omitted : List String) :
    ((writtenClause .picked picked ++ writtenClause .omitted omitted).map (·.1)).Nodup := by
  unfold writtenClause
  split <;> split <;> simp

theorem namesOf_writtenClause (picked omitted : List String) :
    namesOf .picked (writtenClause .picked picked ++ writtenClause .omitted omitted) = picked
      ∧ namesOf .omitted (writtenClause .picked picked ++ writtenClause .omitted omitted)
          = omitted := by
  have hpo : (Clause.picked == Clause.omitted) = false := rfl
  have hop : (Clause.omitted == Clause.picked) = false := rfl
  unfold writtenClause namesOf
  cases picked <;> cases omitted <;> simp [List.lookup_cons, hpo, hop]

theorem commandAt_source {picked omitted : List String}
    (hn : ∀ name ∈ picked ++ omitted, IsName name) (rest : List Char) :
    CommandAt ((Segment.frontmatter picked omitted).source ++ rest) picked omitted rest := by
  have hclose : ClausesAt (' ' :: '#' :: '}' :: rest) [] rest := .close (blanks_space _)
  have homit := clausesAt_writeClause .omitted
    (fun name h => hn name (List.mem_append_right _ h)) (noNameChar_space _) hclose
  have hpick := clausesAt_writeClause .picked
    (fun name h => hn name (List.mem_append_left _ h))
    (noNameChar_writeClause (noNameChar_space _)) homit
  rw [List.append_nil] at hpick
  have h := CommandAt.mk (blanks_space _) ⟨isName_frontmatter, rfl,
    noNameChar_writeClause (noNameChar_writeClause (noNameChar_space _))⟩ hpick
    (nodup_writtenClause picked omitted)
  rw [(namesOf_writtenClause picked omitted).1, (namesOf_writtenClause picked omitted).2] at h
  simpa [Segment.source, Clause.label] using h

/-- A prefix of some characters with a brace behind them is one of the characters alone, unless it
goes as far as the brace. -/
theorem prefix_of_prefix_append {w cs rest : List Char} (hcs : cs ≠ [])
    (hbrace : ∀ d ∈ rest.head?, d = '{') (hw : '{' ∉ w.tail) (h : w <+: cs ++ rest) : w <+: cs := by
  rcases List.prefix_or_prefix_of_prefix h (List.prefix_append cs rest) with hp | ⟨x, rfl⟩
  · exact hp
  · cases x with
    | nil => simp
    | cons d x =>
      obtain ⟨c, cs, rfl⟩ := List.exists_cons_of_ne_nil hcs
      obtain ⟨tail, hrest⟩ := (List.prefix_append_right_inj _).1 h
      have hd : d = '{' := hbrace d (by rw [← hrest]; rfl)
      exact absurd (by simp [hd]) hw

theorem not_opensCommand_append {cs rest : List Char} (hcs : cs ≠ [])
    (hbrace : ∀ d ∈ rest.head?, d = '{') (h : ¬ OpensCommand cs) : ¬ OpensCommand (cs ++ rest) := by
  rintro (⟨c, hc, hp⟩ | hp)
  · refine h (.inl ⟨c, hc, prefix_of_prefix_append hcs hbrace ?_ hp⟩)
    have hne : '{' ≠ c := fun hb => absurd (hb ▸ hc) (by decide)
    simp [hne]
  · exact h (.inr (prefix_of_prefix_append hcs hbrace (by decide) hp))

theorem not_opensVariable_append {c : Char} {cs rest : List Char}
    (hbrace : ∀ d ∈ rest.head?, d = '{') (hlast : rest ≠ [] → (c :: cs).getLast? ≠ some '{')
    (h : ¬ OpensVariable (c :: cs)) : ¬ OpensVariable (c :: cs ++ rest) := by
  rintro ⟨tail, hp⟩
  cases cs with
  | nil =>
    cases rest with
    | nil => cases hp
    | cons d rest =>
      obtain ⟨rfl, -⟩ := List.cons.inj hp
      exact hlast (List.cons_ne_nil _ _) rfl
  | cons d cs =>
    simp only [List.cons_append, List.cons.injEq, List.nil_append] at hp
    obtain ⟨rfl, rfl, -⟩ := hp
    exact h ⟨cs, rfl⟩

/-- A text is read character by character up to what is written behind it. -/
theorem reads_text {rest : List Char} {pieces : List Piece} (hr : Reads rest pieces)
    (hbrace : ∀ d ∈ rest.head?, d = '{') : ∀ {cs : List Char}, IsPlain cs →
      (rest ≠ [] → cs.getLast? ≠ some '{') → Reads (cs ++ rest) (cs.map .char ++ pieces)
  | [], _, _ => hr
  | c :: cs, hplain, hlast => by
    obtain ⟨hv, hc, hcs⟩ := isPlain_cons.1 hplain
    refine .charAt (not_opensVariable_append hbrace hlast hv)
      (not_opensCommand_append (List.cons_ne_nil _ _) hbrace hc)
      (reads_text hr hbrace hcs fun hrest => ?_)
    cases cs with
    | nil => simp
    | cons d cs => simpa using hlast hrest

/-- The steps that a segment spells out. -/
def piecesOf : Segment → List Piece
  | .text value => value.toList.map .char
  | .variable name transform => [.variable name transform]
  | .frontmatter picked omitted => [.command picked omitted]

theorem merge_chars {pieces : List Piece} (h : NoTextFirst (merge pieces)) :
    ∀ {cs : List Char}, cs ≠ [] →
      merge (cs.map .char ++ pieces) = .text (String.ofList cs) :: merge pieces
  | [], hne => absurd rfl hne
  | [c], _ => addFront_of_noTextFirst h
  | c :: d :: cs, _ => by
    have ih := merge_chars h (List.cons_ne_nil d cs)
    rw [List.map_cons, List.cons_append, merge, ih, addFront, String.toList_ofList]

theorem Canonical.noTextFirst {value : String} {t : Template}
    (h : Canonical (.text value :: t)) : NoTextFirst t := by
  rintro other u rfl
  exact ((canonical_cons.1 h).2.1 _ rfl value rfl).1 other rfl

theorem head?_source {t : Template} (h : NoTextFirst t) :
    ∀ d ∈ (t.flatMap Segment.source).head?, d = '{' := by
  cases t with
  | nil => simp
  | cons s t =>
    cases s with
    | text value => exact absurd rfl (h value t)
    | «variable» name transform => cases transform <;> simp [Segment.source]
    | frontmatter => simp [Segment.source]

/-- What is written of a canonical template has the reading that the template spells out. -/
theorem reads_source : ∀ {t : Template}, Canonical t →
    Reads (t.flatMap Segment.source) (t.flatMap piecesOf)
      ∧ merge (t.flatMap piecesOf) = t
  | [], _ => ⟨.nil, rfl⟩
  | .text value :: t, h => by
    obtain ⟨⟨-, hvalue⟩, hnext, ht⟩ := canonical_cons.1 h
    obtain ⟨hne, hplain⟩ := hvalue value rfl
    obtain ⟨hreads, hmerge⟩ := reads_source ht
    have hchars := merge_chars (hmerge ▸ h.noTextFirst) (mt String.toList_eq_nil_iff.1 hne)
    rw [hmerge, String.ofList_toList] at hchars
    refine ⟨reads_text hreads (head?_source h.noTextFirst) hplain fun hrest => ?_, hchars⟩
    cases t with
    | nil => exact absurd rfl hrest
    | cons s t => exact (hnext s rfl value rfl).2
  | .variable name transform :: t, h => by
    obtain ⟨⟨hname, -⟩, -, ht⟩ := canonical_cons.1 h
    obtain ⟨hreads, hmerge⟩ := reads_source ht
    have hstands := variableAt_source (hname name (by simp [Segment.names])) transform
    exact ⟨.variableAt (hstands _) hreads, congrArg _ hmerge⟩
  | .frontmatter picked omitted :: t, h => by
    obtain ⟨⟨hnames, -⟩, -, ht⟩ := canonical_cons.1 h
    obtain ⟨hreads, hmerge⟩ := reads_source ht
    exact ⟨.commandAt (commandAt_source hnames _) hreads, congrArg _ hmerge⟩

theorem parse_source_of_canonical {t : Template} (h : Canonical t) : parse t.source = .ok t := by
  obtain ⟨hreads, hmerge⟩ := reads_source h
  rw [parse_eq_ok_iff_readChars, Template.source, String.toList_ofList]
  exact readChars_eq_ok_iff.2 ⟨_, hreads, hmerge⟩

theorem canonical_of_parse {source : String} {t : Template} (h : parse source = .ok t) :
    Canonical t := by
  obtain ⟨pieces, hreads, rfl⟩ := readChars_eq_ok_iff.1 (parse_eq_ok_iff_readChars.1 h)
  exact canonical_merge hreads

/-- A template is read back from its source exactly if it is canonical.  Every template that is read
is, so writing it and reading it again changes nothing. -/
theorem parse_source_eq_ok_iff_canonical :
    (∀ t : Template, parse t.source = .ok t ↔ Canonical t)
      ∧ ∀ (source : String) (t : Template), parse source = .ok t →
          Canonical t ∧ parse t.source = .ok t := by
  refine ⟨fun t => ⟨canonical_of_parse, parse_source_of_canonical⟩, fun source t h => ?_⟩
  have hc := canonical_of_parse h
  exact ⟨hc, parse_source_of_canonical hc⟩

/-- A text may end with a brace where nothing follows, and tags may be neighbours. -/
theorem parse_source_closing_brace :
    let t : Template := [.variable "a" (some .upper), .frontmatter ["x"] ["y"], .text "\x7b#x \x7b"]
    parse "{{a|upper}}{# frontmatter omit:y pick:x#}\x7b#x \x7b" = .ok t
      ∧ Canonical t ∧ parse t.source = .ok t := by
  intro t
  have h : parse "{{a|upper}}{# frontmatter omit:y pick:x#}\x7b#x \x7b" = .ok t := by rfl
  exact ⟨h, parse_source_eq_ok_iff_canonical.2 _ t h⟩

end NoteForms.Template
