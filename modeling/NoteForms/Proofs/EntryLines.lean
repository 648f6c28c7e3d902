import NoteForms.Answer.Frontmatter
import NoteForms.Proofs.Basics
import NoteForms.Proofs.Scalars

/-!
# The lines of an entry

An entry is the scalar of its key and what is written for its answer: one scalar behind the key, or
one for each item below it (`Answers.yamlChars_eq`).  An item's scalar keeps its first line, and the
others are moved to the right (`endEach_indentItem`).
-/

namespace NoteForms

open Yaml

namespace Text

theorem dropCarriageReturn_of_notMem {line : List Char} (h : '\r' ∉ line) :
    dropCarriageReturn line = line := by
  unfold dropCarriageReturn
  split
  · rename_i hlast
    exact absurd (List.mem_of_getLast? hlast) h
  · rfl

theorem subset_of_mem_splitChars {sep : Char} {cs piece : List Char}
    (h : piece ∈ splitChars sep cs) : piece ⊆ cs := by
  obtain ⟨first, others, hsplit, hfirst, hothers⟩ := exists_splitChars sep cs
  rw [hsplit] at h
  rcases List.mem_cons.1 h with rfl | h
  · exact hfirst.subset
  · obtain ⟨rest, hrest, hbegin⟩ := hothers piece h
    exact List.Subset.trans hbegin.subset
      (List.Subset.trans (List.subset_cons_self _ _) hrest.subset)

/-- The lines of a scalar are its pieces between line feeds: its last line is not empty, and no
other has a carriage return at its end. -/
theorem lines_of_isScalar {cs : List Char} (h : IsScalar cs) (hne : cs ≠ []) :
    lines cs = splitChars '\n' cs := by
  obtain ⟨last, hlast, hcs⟩ := exists_lastPiece '\n' cs
  have hgetLast := getLast?_splitChars hlast hcs
  have hnonempty : last ≠ [] := by
    rintro rfl
    rcases hcs with rfl | ⟨front, rfl⟩
    · exact hne rfl
    · exact h.openEnd List.getLast?_concat
  have hdrop : (splitChars '\n' cs).dropLast.map dropCarriageReturn
      = (splitChars '\n' cs).dropLast := by
    by_cases hline : '\n' ∈ cs
    · refine map_eq_self_iff.2 fun piece hpiece => dropCarriageReturn_of_notMem fun hmem => ?_
      exact h.lines hline (subset_of_mem_splitChars (List.dropLast_subset _ hpiece) hmem)
    · rw [splitChars_of_notMem hline]
      rfl
  have hpieces : (splitChars '\n' cs).dropLast ++ [last] = splitChars '\n' cs :=
    List.dropLast_append_getLast? last hgetLast
  unfold lines
  simp only [hgetLast, hdrop]
  cases last with
  | nil => exact absurd rfl hnonempty
  | cons c last => exact hpieces

theorem joinChars_append (sep : Char) : ∀ (piece : List Char) (pieces : List (List Char)),
    joinChars [sep] (piece :: pieces) ++ [sep] = endEach sep (piece :: pieces)
  | piece, [] => by simp [joinChars, endEach]
  | piece, other :: pieces => by
    rw [joinChars, endEach_cons, List.append_assoc, joinChars_append sep other pieces]
    · simp
    · simp

end Text

open Text

theorem endEach_indentItem {scalar first : List Char} {others : List (List Char)}
    (h : IsScalar scalar) (hsplit : splitChars '\n' scalar = first :: others) :
    indentItem scalar ++ ['\n'] = endEach '\n' (first :: others.map continueItem) := by
  by_cases hne : scalar = []
  · subst hne
    obtain ⟨rfl, rfl⟩ := List.cons.inj hsplit
    rfl
  · rw [indentItem, lines_of_isScalar h hne, hsplit]
    exact joinChars_append '\n' first _

/-! ## What is written for an answer -/

/-- What is written for an answer: one scalar behind its key, or some below it. -/
inductive Written
  | inline (scalar : List Char)
  | items (scalars : List (List Char))
  deriving DecidableEq

/-- An item of a list, by its scalar. -/
def itemBlock (scalar : List Char) : List Char :=
  [' ', ' ', '-', ' '] ++ (indentItem scalar ++ ['\n'])

/-- The mark of a line that continues an item. -/
def InItem (line : List Char) : Prop := line = [] ∨ itemIndent <+: line

theorem inItem_continueItem (line : List Char) : InItem (continueItem line) := by
  unfold continueItem
  split
  · exact .inl rfl
  · exact .inr (List.prefix_append _ _)

/-- The lines of an item: the first of its scalar, and the others with the mark. -/
theorem exists_itemBlock {scalar : List Char} (h : IsScalar scalar) : ∃ first others,
    splitChars '\n' scalar = first :: others ∧ '\n' ∉ first
      ∧ (∀ line ∈ others.map continueItem, '\n' ∉ line ∧ InItem line)
      ∧ itemBlock scalar
        = [' ', ' ', '-', ' '] ++ (first ++ '\n' :: endEach '\n' (others.map continueItem)) := by
  obtain ⟨first, others, hsplit, -, -⟩ := exists_splitChars '\n' scalar
  have hpieces : ∀ piece ∈ first :: others, '\n' ∉ piece := fun piece hpiece =>
    notMem_of_mem_splitChars (hsplit ▸ hpiece)
  obtain ⟨hfirst, hothers⟩ := List.forall_mem_cons.1 hpieces
  refine ⟨first, others, hsplit, hfirst, fun line hline => ?_, ?_⟩
  · obtain ⟨piece, hpiece, rfl⟩ := List.mem_map.1 hline
    refine ⟨?_, inItem_continueItem piece⟩
    unfold continueItem itemIndent
    split
    · exact List.not_mem_nil
    · simp [hothers piece hpiece]
  · rw [itemBlock, endEach_indentItem h hsplit, endEach_cons]

namespace Written

/-- What follows a key. -/
def chars : Written → List Char
  | .inline scalar => ':' :: ' ' :: (scalar ++ ['\n'])
  | .items scalars => ':' :: '\n' :: scalars.flatMap itemBlock

/-- What is written for an answer is a colon, a space or the end of the line, and ends a line. -/
theorem exists_chars (w : Written) : ∃ body, w.chars = ':' :: (body ++ ['\n'])
    ∧ ∀ rest, ∀ c ∈ (body ++ '\n' :: rest).head?, c = ' ' ∨ c = '\n' := by
  cases w with
  | inline scalar => exact ⟨' ' :: scalar, rfl, by simp⟩
  | items scalars =>
    rcases List.eq_nil_or_concat' scalars with rfl | ⟨front, last, rfl⟩
    · exact ⟨[], rfl, by simp⟩
    · exact ⟨'\n' :: (front.flatMap itemBlock ++ ([' ', ' ', '-', ' '] ++ indentItem last)),
        by simp [chars, itemBlock], by simp⟩

/-- The scalars that are written are scalars. -/
def AreScalars : Written → Prop
  | .inline scalar => IsScalar scalar
  | .items scalars => ∀ scalar ∈ scalars, IsScalar scalar

end Written

/-- The scalars of an answer. -/
def Answer.written : Answer → Written
  | .text s => .inline (textScalar s)
  | .number x => .inline (numberScalar x)
  | .flag b => .inline (boolScalar b)
  | .list [] => .inline ['[', ']']
  | .list (item :: items) => .items ((item :: items).map textScalar)

theorem Answer.areScalars_written : ∀ a : Answer, a.written.AreScalars
  | .text s => isScalar_textScalar s
  | .number x => isScalar_numberScalar x
  | .flag b => isScalar_boolScalar b
  | .list [] => isScalar_of_notMem (by decide)
  | .list (item :: items) => fun scalar h => by
    obtain ⟨s, -, rfl⟩ := List.mem_map.1 h
    exact isScalar_textScalar s

theorem answerLines_eq : ∀ a : Answer, answerLines a = a.written.chars
  | .text _ => rfl
  | .number _ => rfl
  | .flag _ => rfl
  | .list [] => rfl
  | .list (item :: items) => by
    have hblock : itemLines = fun item => itemBlock (textScalar item) := by
      funext item
      rw [itemLines, itemBlock, List.append_assoc]
    rw [Answer.written, Written.chars, answerLines, List.flatMap_map, hblock]

/-- What is written for an entry. -/
def entryChars (e : List Char × Written) : List Char := e.1 ++ e.2.chars

/-- The scalars of each key and its answer. -/
def Answers.written (a : Answers) : List (List Char × Written) :=
  a.entries.map fun e => (textScalar e.1, e.2.written)

theorem Answers.yamlChars_eq (a : Answers) : a.yamlChars = a.written.flatMap entryChars := by
  simp [yamlChars, written, entryChars, List.flatMap_map, answerLines_eq]

end NoteForms
