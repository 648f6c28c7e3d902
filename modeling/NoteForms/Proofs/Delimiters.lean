import NoteForms.Proofs.EntryLines

/-!
# A block of frontmatter ends at its end

A note's frontmatter stands between two lines of three dashes, so none of its own lines may be one.
In fact none begins with three dashes, whatever the answers and their names are
(`Answers.frontmatter_delimited`): what begins a line is a key that no plain style allows to begin
so, or what continues a scalar, or the blanks before an item.
-/

namespace NoteForms

open Text Yaml

/-- The line before and the line behind a block of frontmatter. -/
def delimiter : List Char := ['-', '-', '-']

theorem not_delimiter_of_head? {cs : List Char} (h : ∀ c ∈ cs.head?, c ≠ '-') :
    ¬delimiter <+: cs := by
  rintro ⟨rest, rfl⟩
  exact h '-' rfl rfl

theorem not_delimiter_writeText (s : String) : ¬delimiter <+: writeText s := by
  rcases styled_writeText s with ⟨-, -, hallowed, h⟩ | ⟨-, -, h⟩ | h | ⟨-, -, h⟩ <;> rw [h]
  · rintro ⟨rest, hrest⟩
    have hbegin := (plainAllowed_iff.1 hallowed).1
    rw [← hrest] at hbegin
    simp [delimiter, beginsWithIndicator] at hbegin
  all_goals exact not_delimiter_of_head? (by simp)

theorem not_delimiter_textScalar (s : String) : ¬delimiter <+: textScalar s := fun h =>
  not_delimiter_writeText s (h.trans (dropTrailingBlanks_isPrefix _))

/-- A key that does not begin with three dashes does not with a colon behind it. -/
theorem not_delimiter_append_colon : ∀ {key : List Char}, ¬delimiter <+: key →
    ∀ rest : List Char, ¬delimiter <+: key ++ ':' :: rest
  | [], _, _ => by simp [delimiter]
  | [_], _, _ => by simp [delimiter]
  | [_, _], _, _ => by simp [delimiter]
  | _ :: _ :: _ :: _, h, _ => by simpa [delimiter] using h

theorem ne_dash_of_continues {c : Char} (h : Continues c) : c ≠ '-' := by
  rintro rfl
  rcases h with h | h <;> exact absurd h (by decide)

theorem ne_dash_of_inItem {line : List Char} (h : InItem line) : ∀ c ∈ line.head?, c ≠ '-' := by
  rcases h with rfl | ⟨rest, rfl⟩
  · simp
  · simp [itemIndent]

theorem follow_itemBlock {scalar : List Char} (h : IsScalar scalar) :
    Follow '\n' (· ≠ '-') (itemBlock scalar) := by
  obtain ⟨first, others, -, hfirst, hlines, hblock⟩ := exists_itemBlock h
  have hitem : Follow '\n' (· ≠ '-') (endEach '\n' (first :: others.map continueItem)) :=
    Follow.endEach (by decide) hfirst fun line hline =>
      ⟨(hlines line hline).1, ne_dash_of_inItem (hlines line hline).2⟩
  rw [hblock, ← endEach_cons]
  simpa [follow_cons] using hitem

theorem follow_flatMap_itemBlock : ∀ {scalars : List (List Char)},
    (∀ scalar ∈ scalars, IsScalar scalar) → Follow '\n' (· ≠ '-') (scalars.flatMap itemBlock)
  | [], _ => follow_nil
  | scalar :: scalars, h => by
    obtain ⟨hscalar, hscalars⟩ := List.forall_mem_cons.1 h
    rw [List.flatMap_cons]
    refine (follow_flatMap_itemBlock hscalars).append ?_ (follow_itemBlock hscalar)
    cases scalars with
    | nil => simp
    | cons other scalars => simp [itemBlock]

theorem Written.follow_chars {w : Written} (h : w.AreScalars) : Follow '\n' (· ≠ '-') w.chars := by
  cases w with
  | inline scalar =>
    have hend : Follow '\n' (· ≠ '-') ['\n'] := follow_cons.2 ⟨by simp, follow_nil⟩
    simp only [chars, follow_cons]
    exact ⟨by simp, by simp, hend.append (by simp) (h.follow.imp fun _ => ne_dash_of_continues)⟩
  | items scalars =>
    simp only [chars, follow_cons]
    refine ⟨by simp, fun _ => ?_, follow_flatMap_itemBlock h⟩
    cases scalars with
    | nil => simp
    | cons scalar scalars => simp [itemBlock]

/-- The lines of entries, of which none begins as the delimiter does. -/
theorem exists_lines : ∀ {entries : List (List Char × Written)},
    (∀ e ∈ entries, Follow '\n' (· ≠ '-') e.1 ∧ ¬delimiter <+: e.1 ∧ e.2.AreScalars) →
      ∃ body, entries.flatMap entryChars = endEach '\n' body
        ∧ ∀ line ∈ body, '\n' ∉ line ∧ ¬delimiter <+: line
  | [], _ => ⟨[], rfl, by simp⟩
  | (key, w) :: entries, h => by
    obtain ⟨⟨hkey, hbegin, hw⟩, hentries⟩ := List.forall_mem_cons.1 h
    obtain ⟨body, hbody, hlines⟩ := exists_lines hentries
    obtain ⟨chars, hchars, -⟩ := w.exists_chars
    have hfollow : Follow '\n' (· ≠ '-') (key ++ ':' :: chars) := by
      have hentry : Follow '\n' (· ≠ '-') (key ++ w.chars) :=
        (Written.follow_chars hw).append (by simp [hchars]) hkey
      exact hentry.of_isPrefix ⟨['\n'], by simp [hchars]⟩
    obtain ⟨first, others, hsplit, hfirst, hothers⟩ := exists_splitChars '\n' (key ++ ':' :: chars)
    refine ⟨splitChars '\n' (key ++ ':' :: chars) ++ body, ?_, fun line hline => ?_⟩
    · rw [List.flatMap_cons, hbody, entryChars, hchars, endEach_append, endEach_splitChars]
      simp
    rcases List.mem_append.1 hline with hline | hline
    · refine ⟨notMem_of_mem_splitChars hline, fun hdelimiter => ?_⟩
      rw [hsplit] at hline
      rcases List.mem_cons.1 hline with rfl | hline
      · exact not_delimiter_append_colon hbegin chars (hdelimiter.trans hfirst)
      · obtain ⟨rest, hrest, hpiece⟩ := hothers line hline
        exact not_delimiter_of_head? (hfollow rest hrest) (hdelimiter.trans hpiece)
    · exact hlines line hline

namespace Answers

/-- No line of the answers begins as the delimiter does, so in the block the first line and the last
are the only delimiters. -/
theorem frontmatter_delimited (a : Answers) :
    (∀ line ∈ splitChars '\n' a.yamlLines.toList, ¬delimiter <+: line)
      ∧ ∃ body, splitChars '\n' a.yamlLines.toList = body ++ [[]]
        ∧ splitChars '\n' a.frontmatter.toList = delimiter :: body ++ [delimiter, []]
        ∧ delimiter ∉ body := by
  have hwritten : ∀ e ∈ a.written,
      Follow '\n' (· ≠ '-') e.1 ∧ ¬delimiter <+: e.1 ∧ e.2.AreScalars := fun e he => by
    obtain ⟨entry, -, rfl⟩ := List.mem_map.1 he
    exact ⟨(follow_textScalar entry.1).imp fun _ => ne_dash_of_continues,
      not_delimiter_textScalar entry.1, entry.2.areScalars_written⟩
  obtain ⟨body, hbody, hlines⟩ := exists_lines hwritten
  have hyaml : a.yamlLines.toList = endEach '\n' body := by
    rw [yamlLines, String.toList_ofList, yamlChars_eq, hbody]
  have hsplit : splitChars '\n' a.yamlLines.toList = body ++ [[]] := by
    rw [hyaml, splitChars_endEach fun line hline => (hlines line hline).1]
  have hblock : a.frontmatter.toList = endEach '\n' (delimiter :: body ++ [delimiter]) := by
    simp [frontmatter, hyaml, endEach, delimiter]
  have hnewline : ∀ line ∈ delimiter :: body ++ [delimiter], '\n' ∉ line := by
    simpa [delimiter, or_imp, forall_and] using fun line hline => (hlines line hline).1
  refine ⟨fun line hline => ?_, body, hsplit, ?_, fun hmem => ?_⟩
  · rw [hsplit] at hline
    rcases List.mem_append.1 hline with hline | hline
    · exact (hlines line hline).2
    · rw [List.mem_singleton.1 hline]
      simp [delimiter]
  · rw [hblock, splitChars_endEach hnewline]
    simp
  · exact (hlines delimiter hmem).2 (List.prefix_refl _)

end Answers

end NoteForms
