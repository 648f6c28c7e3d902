import NoteForms.Proofs.FirstFault

/-!
# Where written segments meet

A template whose names are names and whose texts are no neighbours, are not empty and hold no
opening of a tag is read back from its source if no text that ends with a brace has a tag behind it.
Otherwise that brace and the first one of the tag open a variable that is not there, and the source
of the template is not read at all (`parse_source_of_spelled`).
-/

namespace NoteForms

section Chains

variable {α : Type} {R S : α → α → Prop}

theorem isChain_and {l : List α} (hR : l.IsChain R) (hS : l.IsChain S) :
    l.IsChain fun a b => R a b ∧ S a b := by
  induction l with
  | nil => exact .nil
  | cons a l ih =>
    obtain ⟨hR, hRs⟩ := List.isChain_cons.1 hR
    obtain ⟨hS, hSs⟩ := List.isChain_cons.1 hS
    exact List.isChain_cons.2 ⟨fun b hb => ⟨hR b hb, hS b hb⟩, ih hRs hSs⟩

/-- A list that is no chain is one up to two neighbours. -/
theorem exists_first_break : ∀ {l : List α}, ¬ l.IsChain R →
    ∃ init a b tail, l = init ++ a :: b :: tail ∧ ¬ R a b ∧ (init ++ [a]).IsChain R
  | [], h => absurd .nil h
  | [a], h => absurd (.singleton a) h
  | a :: b :: l, h => by
    by_cases hab : R a b
    · have hrest : ¬ (b :: l).IsChain R := fun hl => h (List.isChain_cons_cons.2 ⟨hab, hl⟩)
      obtain ⟨init, c, d, tail, hl, hcd, hinit⟩ := exists_first_break hrest
      have hhead : (init ++ [c]).head? = some b := by
        have hb : (b :: l).head? = some b := rfl
        rw [← hb, hl]
        cases init <;> rfl
      have hcons : ∀ e ∈ (init ++ [c]).head?, R a e := by
        rw [hhead]
        rintro e ⟨⟩
        exact hab
      exact ⟨a :: init, c, d, tail, by rw [hl, List.cons_append], hcd,
        List.isChain_cons.2 ⟨hcons, hinit⟩⟩
    · exact ⟨[], a, b, l, rfl, hab, .singleton a⟩

end Chains

namespace Template

open Text

/-! ## Templates that are put together by hand -/

/-- A text ends with an opening brace. -/
def EndsInBrace (s : Segment) : Prop :=
  ∃ value, s = .text value ∧ value.toList.getLast? = some '{'

/-- No text that ends with an opening brace has anything behind it. -/
def Seamless (t : Template) : Prop := t.IsChain fun s _ => ¬ EndsInBrace s

/-- Names are names, and texts are no neighbours, are not empty and open no tag by themselves. -/
structure Spelled (t : Template) : Prop where
  names : ∀ s ∈ t, ∀ name ∈ s.names, IsName name
  texts : ∀ value, Segment.text value ∈ t →
    value ≠ "" ∧ ¬ ['{', '{'] <:+: value.toList ∧ ¬ ['{', '#'] <:+: value.toList
  apart : t.IsChain fun s next => ∀ value other, s = .text value → next ≠ .text other

theorem isPlain_of_not_infix {cs : List Char} (hv : ¬ ['{', '{'] <:+: cs)
    (hc : ¬ ['{', '#'] <:+: cs) : IsPlain cs where
  noVariable := hv
  noBlankCommand c _ h := hc (List.IsInfix.trans ⟨[], [c], rfl⟩ h)
  noCommand h := hc (List.IsInfix.trans ⟨[], "frontmatter".toList, rfl⟩ h)

theorem Spelled.isPlain {t : Template} (h : Spelled t) {value : String}
    (hv : Segment.text value ∈ t) : IsPlain value.toList :=
  isPlain_of_not_infix (h.texts value hv).2.1 (h.texts value hv).2.2

theorem Spelled.canonical {t : Template} (h : Spelled t) (hs : Seamless t) : Canonical t where
  names := h.names
  texts value hv := ⟨(h.texts value hv).1, h.isPlain hv⟩
  apart := by
    refine (isChain_and h.apart hs).imp fun s next ⟨hnext, hbrace⟩ value hv => ?_
    exact ⟨fun other => hnext value other hv, fun hlast => hbrace ⟨value, hv, hlast⟩⟩

theorem Spelled.left {t u : Template} (h : Spelled (t ++ u)) : Spelled t where
  names s hs := h.names s (List.mem_append_left _ hs)
  texts value hv := h.texts value (List.mem_append_left _ hv)
  apart := h.apart.left_of_append

/-! ## Reading up to a seam -/

/-- What opens a tag is a brace, and behind it stands neither a blank nor a character of a name. -/
theorem exists_source_of_tag {s : Segment} (hs : ∀ value, s ≠ .text value) :
    ∃ d tail, s.source = '{' :: d :: tail ∧ isBlank d = false ∧ isNameChar d = false := by
  cases s with
  | text value => exact absurd rfl (hs value)
  | «variable» name transform =>
    cases transform with
    | none => exact ⟨'{', _, rfl, by decide, by decide⟩
    | some t => exact ⟨'{', _, rfl, by decide, by decide⟩
  | frontmatter => exact ⟨'#', _, rfl, by decide, by decide⟩

theorem readVariable_of_head {opening cs : List Char} {d : Char} (hb : isBlank d = false)
    (hn : isNameChar d = false) :
    readVariable opening (d :: cs) = fault .expectedName (d :: cs) := by
  have hstart : dropBlanks (d :: cs) = d :: cs := dropBlanks_of_noBlank (noBlank_cons.2 hb)
  have hname : takeName (d :: cs) = [] := by simp [takeName, hn]
  simp [readVariable, hstart, hname]

theorem Reaches.trans {cs mid rest : List Char} (h : Reaches cs mid) (hr : Reaches mid rest) :
    Reaches cs rest := by
  induction h with
  | here => exact hr
  | variableAt h _ ih => exact .variableAt h (ih hr)
  | commandAt h _ ih => exact .commandAt h (ih hr)
  | charAt hv hc _ ih => exact .charAt hv hc (ih hr)

/-- A text is read character by character up to the tag behind it. -/
theorem reaches_text {rest : List Char} (hbrace : ∀ d ∈ rest.head?, d = '{') :
    ∀ {cs : List Char}, IsPlain cs → (rest ≠ [] → cs.getLast? ≠ some '{') →
      Reaches (cs ++ rest) rest
  | [], _, _ => .here rest
  | c :: cs, hplain, hlast => by
    obtain ⟨hv, hc, hcs⟩ := isPlain_cons.1 hplain
    refine .charAt (not_opensVariable_append hbrace hlast hv)
      (not_opensCommand_append (List.cons_ne_nil _ _) hbrace hc)
      (reaches_text hbrace hcs fun hrest => ?_)
    cases cs with
    | nil => simp
    | cons d cs => simpa using hlast hrest

/-- Whatever stands behind the last tag of a template, everything before it is read. -/
theorem reaches_source {rest : List Char} : ∀ {t : Template}, Canonical t →
    (∀ s ∈ t.getLast?, ∀ value, s ≠ .text value) → Reaches (t.flatMap Segment.source ++ rest) rest
  | [], _, _ => .here rest
  | [.text value], _, hlast => absurd rfl (hlast _ rfl value)
  | .text value :: s :: t, h, hlast => by
    obtain ⟨⟨-, hvalue⟩, hnext, ht⟩ := canonical_cons.1 h
    obtain ⟨hs, hbrace⟩ := hnext s rfl value rfl
    obtain ⟨d, tail, hsource, -, -⟩ := exists_source_of_tag hs
    have hrest : Reaches ((s :: t).flatMap Segment.source ++ rest) rest :=
      reaches_source ht (by simpa using hlast)
    rw [List.flatMap_cons, List.append_assoc]
    refine (reaches_text ?_ (hvalue value rfl).2 fun _ => hbrace).trans hrest
    simp [hsource]
  | .variable name transform :: t, h, hlast => by
    obtain ⟨⟨hname, -⟩, -, ht⟩ := canonical_cons.1 h
    rw [List.flatMap_cons, List.append_assoc]
    exact .variableAt (variableAt_source (hname name (by simp [Segment.names])) transform _)
      (reaches_source ht fun s hs => hlast s (List.mem_getLast?_cons hs))
  | .frontmatter picked omitted :: t, h, hlast => by
    obtain ⟨⟨hnames, -⟩, -, ht⟩ := canonical_cons.1 h
    rw [List.flatMap_cons, List.append_assoc]
    exact .commandAt (commandAt_source hnames _)
      (reaches_source ht fun s hs => hlast s (List.mem_getLast?_cons hs))

/-- The brace at the end of a text and the first one of the tag behind it open a variable that is
not there. -/
theorem parse_source_of_brace {init tail : Template} {value : String} {s : Segment}
    (h : Spelled (init ++ .text value :: s :: tail)) (hinit : Seamless (init ++ [.text value]))
    (hbrace : value.toList.getLast? = some '{') :
    let t := init ++ .text value :: s :: tail
    parse t.source
      = .error (Fault.locate t.source.toList
          ⟨.expectedName, ((s :: tail).flatMap Segment.source).tail⟩) := by
  intro t
  obtain ⟨-, hbehind, -⟩ := List.isChain_append_cons_cons.1 h.apart
  have htag : ∀ other, s ≠ .text other := fun other => hbehind value other rfl
  have hlast : ∀ u ∈ init.getLast?, ∀ other, u ≠ .text other := fun u hu other hother =>
    (List.isChain_append.1 h.apart).2.2 u hu (.text value) rfl other value hother rfl
  have hcanonical : Canonical init := h.left.canonical hinit.left_of_append
  -- the text ends with a single brace, so it is read up to that brace
  obtain ⟨front, hvalue⟩ := List.getLast?_eq_some_iff.1 hbrace
  obtain ⟨-, hv, hc⟩ := h.texts value (List.mem_append_right _ List.mem_cons_self)
  rw [hvalue] at hv hc
  have hplain : IsPlain front := isPlain_of_not_infix
    (fun hi => hv (hi.trans (List.infix_append' [] _ _)))
    (fun hi => hc (hi.trans (List.infix_append' [] _ _)))
  have hfront : front.getLast? ≠ some '{' := by
    intro hend
    obtain ⟨first, rfl⟩ := List.getLast?_eq_some_iff.1 hend
    exact hv ⟨first, [], by simp⟩
  obtain ⟨d, rest, hsource, hblank, hname⟩ := exists_source_of_tag htag
  have hwritten : (s :: tail).flatMap Segment.source
      = '{' :: d :: (rest ++ tail.flatMap Segment.source) := by
    rw [List.flatMap_cons, hsource]
    rfl
  have htext : t.source.toList = init.flatMap Segment.source
      ++ (front ++ '{' :: (s :: tail).flatMap Segment.source) := by
    simp [t, Template.source, Segment.source, hvalue]
  refine parse_eq_error_iff.2 ⟨'{' :: (s :: tail).flatMap Segment.source, _, ?_, ?_, rfl⟩
  · rw [htext]
    exact (reaches_source hcanonical hlast).trans (reaches_text (by simp) hplain fun _ => hfront)
  · rw [hwritten]
    exact .inVariable (readVariable_of_head hblank hname)

/-- A template whose names are names, and whose texts are no neighbours, are not empty and open no
tag by themselves, is read back from its source if no text that ends with a brace has a tag behind
it.  Otherwise the source is refused behind the brace that opens the first such tag. -/
theorem parse_source_of_spelled {t : Template} (h : Spelled t) :
    (Seamless t → parse t.source = .ok t)
    ∧ (¬ Seamless t → ∃ init value s tail, t = init ++ .text value :: s :: tail
        ∧ value.toList.getLast? = some '{' ∧ Seamless (init ++ [.text value])
        ∧ parse t.source = .error (Fault.locate t.source.toList
            ⟨.expectedName, ((s :: tail).flatMap Segment.source).tail⟩)) := by
  refine ⟨fun hs => parse_source_of_canonical (h.canonical hs), fun hs => ?_⟩
  obtain ⟨init, s, next, tail, rfl, hbreak, hinit⟩ := exists_first_break hs
  obtain ⟨value, rfl, hbrace⟩ := not_not.1 hbreak
  exact ⟨init, value, next, tail, rfl, hbrace, hinit, parse_source_of_brace h hinit hbrace⟩

/-- A text may end with a brace where nothing follows, and tags may be neighbours. -/
theorem parse_source_of_spelled_brace_last :
    let t : Template := [.variable "a" (some .upper), .frontmatter ["x"] [], .text "\x7d\x7b \x7b"]
    Spelled t ∧ Seamless t ∧ parse t.source = .ok t := by
  intro t
  have hname : ∀ c : Char, isNameChar c = true → IsName (String.ofList [c]) := fun c hc =>
    ⟨by simp, by simpa using hc⟩
  have h : Spelled t := by
    refine ⟨?_, ?_, by simp [t]⟩
    · have hnames : ∀ s ∈ t, ∀ name ∈ s.names, name = "a" ∨ name = "x" := by
        simp [t, Segment.names]
      intro s hs name hmem
      rcases hnames s hs name hmem with rfl | rfl
      · exact hname 'a' (by decide)
      · exact hname 'x' (by decide)
    · intro value hv
      obtain rfl : value = "\x7d\x7b \x7b" := by simpa [t] using hv
      exact ⟨by decide, by decide, by decide⟩
  have hs : Seamless t := by simp [t, Seamless, EndsInBrace]
  exact ⟨h, hs, (parse_source_of_spelled h).1 hs⟩

/-- One brace is no opening of a tag, but it makes one out of the brace behind it. -/
theorem parse_source_brace_before_tag :
    let t : Template := [.text "\x7b", .variable "a" none]
    Spelled t ∧ t.source = "\x7b{{a}}" ∧ parse t.source = .error ⟨.expectedName, 2, 1, 3⟩
      ∧ ¬ ∀ t, Spelled t → parse t.source = .ok t := by
  intro t
  have h : Spelled t := by
    refine ⟨?_, ?_, by simp [t]⟩
    · intro s hs name hmem
      obtain rfl : name = "a" := by
        rcases List.mem_pair.1 hs with rfl | rfl
        · cases hmem
        · exact List.mem_singleton.1 hmem
      exact ⟨by decide, List.all_eq_true.1 (by decide)⟩
    · intro value hv
      obtain rfl : value = "\x7b" := by simpa [t] using hv
      exact ⟨by decide, by decide, by decide⟩
  have herror : parse (Template.source [.text "\x7b", .variable "a" none])
      = .error ⟨.expectedName, 2, 1, 3⟩ := by rfl
  refine ⟨h, by rfl, herror, fun hall => ?_⟩
  exact absurd ((hall t h).symm.trans herror) (by simp)

end Template

end NoteForms
