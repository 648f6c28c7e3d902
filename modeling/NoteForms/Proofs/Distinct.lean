import NoteForms.Proofs.ReadBack
import NoteForms.Proofs.Separated

/-!
# Answers that differ are written differently

How a text is written tells the text (`writeText_inj`), and that it is a text.  Only what is
trimmed behind it can be lost, so answers whose texts keep their ends, under names that take a line
each, are told apart by their lines (`Answers.yamlLines_separates`).
-/

namespace NoteForms

namespace Yaml

/-! ## Texts -/

/-- The style that a scalar begins like. -/
def styleAt : List Char → Style
  | '\'' :: _ => .singleQuoted
  | '"' :: _ => .doubleQuoted
  | '|' :: _ => .literal
  | _ => .plain

/-- How a text is written in a style. -/
def WrittenIn (s : String) : Style → Prop
  | .plain => writeText s = s.toList
  | .singleQuoted => writeText s = '\'' :: (writeSingle false s.toList ++ ['\''])
  | .doubleQuoted => writeText s = '"' :: (s.toList.flatMap writeDoubleChar ++ ['"'])
  | .literal => writeText s
      = '|' :: (indentHint s.toList ++ chompHint s.toList ++ '\n' :: writeLiteral true s.toList)

theorem styleAt_plain {cs : List Char} (h : beginsWithIndicator cs = false) :
    styleAt cs = .plain := by
  unfold styleAt
  split
  · exact absurd rfl (head?_ne_of_isIndicator h (by decide))
  · exact absurd rfl (head?_ne_of_isIndicator h (by decide))
  · exact absurd rfl (head?_ne_of_isIndicator h (by decide))
  · rfl

theorem writtenIn_styleAt (s : String) : WrittenIn s (styleAt (writeText s)) := by
  rcases styled_writeText s with ⟨-, -, hallowed, h⟩ | ⟨-, -, h⟩ | h | ⟨-, -, h⟩
  · rw [h, styleAt_plain (plainAllowed_iff.1 hallowed).1]
    exact h
  all_goals
    rw [h]
    exact h

theorem lineFeed_notMem_header (cs : List Char) : '\n' ∉ indentHint cs ++ chompHint cs := by
  simp [notMem_indentHint, notMem_chompHint]

theorem writeText_inj {s t : String} (h : writeText s = writeText t) : s = t := by
  have hs := writtenIn_styleAt s
  have ht := writtenIn_styleAt t
  rw [← h] at ht
  refine String.toList_inj.1 ?_
  cases hstyle : styleAt (writeText s) with rw [hstyle] at hs ht
  | plain => exact hs.symm.trans (h.trans ht)
  | singleQuoted =>
    have hquoted := (List.cons.inj (hs.symm.trans (h.trans ht))).2
    exact (writeSingle_append_inj (by simp) (by simp) hquoted).1
  | doubleQuoted =>
    have hquoted := (List.cons.inj (hs.symm.trans (h.trans ht))).2
    exact (doubleQuoted_append_inj hquoted).1
  | literal =>
    have hblock := (List.cons.inj (hs.symm.trans (h.trans ht))).2
    exact writeLiteral_inj (Text.append_cons_inj (lineFeed_notMem_header _)
      (lineFeed_notMem_header _) hblock).2

/-! ## Ends -/

/-- Nothing that is written for a text is trimmed, but for the end of its last line. -/
def KeepsEnd (s : String) : Prop :=
  writeText s = textScalar s ∨ writeText s = textScalar s ++ ['\n']

instance (s : String) : Decidable (KeepsEnd s) := inferInstanceAs (Decidable (_ ∨ _))

theorem isBlank_of_isBreak {c : Char} (h : isBreak c = true) : Text.isBlank c = true := by
  simp only [isBreak, Bool.or_eq_true, decide_eq_true_eq] at h
  simp [Text.isBlank, Text.inRanges, Text.blankRanges]
  omega

/-- The header of a block says that its last line does not end if the text does not end one. -/
theorem mem_chompHint_iff {cs : List Char} :
    '-' ∈ chompHint cs ↔ ∀ c ∈ cs.getLast?, isBreak c = false := by
  rw [← List.head?_reverse]
  unfold chompHint
  split
  · rename_i h
    simp [h]
  · rename_i h
    simp only [h]
    split <;> simp_all
  · rename_i h
    simp only [h]
    split_ifs <;> simp_all

theorem getLast?_writeLiteral : ∀ (b : Bool) (cs : List Char),
    (writeLiteral b cs).getLast? = cs.getLast?
  | _, [] => rfl
  | b, c :: cs => by
    rw [writeLiteral]
    split
    · rw [List.getLast?_cons, List.getLast?_cons, getLast?_writeLiteral]
    · rw [List.getLast?_append, List.getLast?_cons, List.getLast?_cons, getLast?_writeLiteral,
        Option.some_or]

theorem getLast?_of_literal {s : String} (hs : WrittenIn s .literal) {c : Char}
    (hc : s.toList.getLast? = some c) : (writeText s).getLast? = some c := by
  have hbody : (writeLiteral true s.toList).getLast? = some c :=
    (getLast?_writeLiteral true _).trans hc
  rw [show writeText s = _ from hs, List.getLast?_cons, List.getLast?_append, List.getLast?_cons,
    hbody]
  rfl

theorem not_isBreak_getLast? {s : String} (h : textScalar s = writeText s)
    (hs : WrittenIn s .literal) : ∀ c ∈ s.toList.getLast?, isBreak c = false := by
  intro c hc
  have hblank := Text.noBlank_reverse_dropTrailingBlanks (writeText s) c (by
    rw [List.head?_reverse, ← textScalar, h]
    exact getLast?_of_literal hs hc)
  by_contra hbreak
  simp [isBlank_of_isBreak (by simpa using hbreak)] at hblank

/-- A text that does not end in a blank keeps its end. -/
theorem keepsEnd_of_noBlank {s : String} (h : Text.NoBlank s.toList.reverse) : KeepsEnd s := by
  rcases styled_writeText s with ⟨-, -, -, hs⟩ | ⟨-, -, hs⟩ | hs | ⟨hlines, -, hs⟩
  · refine .inl (Text.dropTrailingBlanks_of_noBlank ?_).symm
    rwa [hs]
  · exact .inl (textScalar_of_closed hs (by decide)).symm
  · exact .inl (textScalar_of_closed hs (by decide)).symm
  · refine .inl (Text.dropTrailingBlanks_of_noBlank fun c hc => ?_).symm
    obtain ⟨front, last, hcs⟩ := List.eq_nil_or_concat' s.toList |>.resolve_left
      (List.ne_nil_of_mem hlines)
    have hlast : s.toList.getLast? = some last := by rw [hcs, List.getLast?_concat]
    have hwritten := getLast?_of_literal hs hlast
    rw [List.head?_reverse, Option.mem_def, hwritten] at hc
    exact Option.some.inj hc ▸ h last (by rw [List.head?_reverse]; exact hlast)

/-- Texts of which one is written with an end of a line more are written with other headers. -/
theorem writeText_ne_concat {s t : String} (h : textScalar s = writeText s) :
    writeText t ≠ writeText s ++ ['\n'] := by
  -- Both are literal blocks then, but only the header of the second may do without a dash.
  intro hconcat
  have ht : WrittenIn t .literal :=
    (literal_of_mem_writeText (by rw [hconcat]; simp)).2
  have hs : WrittenIn s .literal := by
    have hwritten := writtenIn_styleAt s
    obtain ⟨cs, hcs⟩ := exists_cons_of_concat (hconcat.symm.trans ht) (by decide)
    rwa [hcs] at hwritten
  have hblock : indentHint s.toList ++ chompHint s.toList
        ++ '\n' :: (writeLiteral true s.toList ++ ['\n'])
      = indentHint t.toList ++ chompHint t.toList ++ '\n' :: writeLiteral true t.toList := by
    have hwhole := hconcat.symm.trans ht
    rw [show writeText s = _ from hs] at hwhole
    simpa using hwhole
  obtain ⟨hheader, hbody⟩ := Text.append_cons_inj (lineFeed_notMem_header _)
    (lineFeed_notMem_header _) hblock
  have hdash : '-' ∈ indentHint t.toList ++ chompHint t.toList :=
    hheader ▸ List.mem_append_right _ (mem_chompHint_iff.2 (not_isBreak_getLast? h hs))
  have hlast : t.toList.getLast? = some '\n' := by
    rw [← getLast?_writeLiteral true, ← hbody, List.getLast?_concat]
  rcases List.mem_append.1 hdash with hdash | hdash
  · exact notMem_indentHint (by decide) _ hdash
  · exact absurd (mem_chompHint_iff.1 hdash '\n' hlast) (by decide)

theorem textScalar_inj {s t : String} (hs : KeepsEnd s) (ht : KeepsEnd t)
    (h : textScalar s = textScalar t) : s = t := by
  rcases hs with hs | hs <;> rcases ht with ht | ht
  · exact writeText_inj (hs.trans (h.trans ht.symm))
  · exact absurd (by rw [ht, ← h, ← hs]) (writeText_ne_concat (t := t) hs.symm)
  · exact absurd (by rw [hs, h, ← ht]) (writeText_ne_concat (t := s) ht.symm)
  · exact writeText_inj (by rw [hs, ht, h])

/-! ## Scalars that are not texts -/

/-- The answer that a scalar stands for, if it is not a text. -/
def ofBare? (scalar : List Char) : Option Answer :=
  if scalar = boolScalar true then some (.flag true)
  else if scalar = boolScalar false then some (.flag false)
  else if scalar = ['[', ']'] then some (.list [])
  else (readTyped? scalar).map .number

theorem ofBare?_boolScalar (b : Bool) : ofBare? (boolScalar b) = some (.flag b) := by
  cases b <;> rfl

theorem numberScalar_ne_cons {c : Char} (h : ¬IsNumeral c) (x : Binary64) (cs : List Char) :
    numberScalar x ≠ c :: cs := fun heq =>
  h (NumberLayout.yaml.isNumeralText_write x c (by
    rw [← numberScalar, heq]
    exact List.mem_cons_self))

theorem ofBare?_numberScalar (x : Binary64) : ofBare? (numberScalar x) = some (.number x) := by
  have htrue : numberScalar x ≠ boolScalar true := numberScalar_ne_cons (by decide) x _
  have hfalse : numberScalar x ≠ boolScalar false := numberScalar_ne_cons (by decide) x _
  have hempty : numberScalar x ≠ ['[', ']'] := numberScalar_ne_cons (by decide) x _
  rw [ofBare?, if_neg htrue, if_neg hfalse, if_neg hempty, numberScalar,
    NumberLayout.readTyped?_write]
  rfl

/-- A text that keeps its end is written as it is, as no other answer is, or begins with the mark of
its style. -/
theorem bare_or_marked {s : String} (h : KeepsEnd s) :
    (textScalar s = s.toList ∧ readsAsOther s = false ∧ beginsWithIndicator s.toList = false)
      ∨ ∃ c ∈ ['\'', '"', '|'], ∃ cs, textScalar s = c :: cs := by
  rcases styled_writeText s with ⟨hline, hown, hallowed, hs⟩ | ⟨-, -, hs⟩ | hs | ⟨-, -, hs⟩
  · refine .inl ⟨?_, hown, (plainAllowed_iff.1 hallowed).1⟩
    rcases h with h | h
    · exact h.symm.trans hs
    · exact absurd (by rw [← hs, h]; simp) hline
  · exact .inr ⟨'\'', by simp, _, (textScalar_of_closed hs (by decide)).trans hs⟩
  · exact .inr ⟨'"', by simp, _, (textScalar_of_closed hs (by decide)).trans hs⟩
  · rcases h with h | h
    · exact .inr ⟨'|', by simp, _, h.symm.trans hs⟩
    · exact .inr ⟨'|', by simp, exists_cons_of_concat (h.symm.trans hs) (by decide)⟩

theorem toList_ne_boolScalar {s : String} (h : booleanWords.contains s = false) (b : Bool) :
    s.toList ≠ boolScalar b := by
  intro hs
  have hword : s = String.ofList (boolScalar b) := by rw [← hs, String.ofList_toList]
  rw [hword] at h
  cases b <;> exact absurd h (by decide)

theorem ofBare?_textScalar {s : String} (h : KeepsEnd s) : ofBare? (textScalar s) = none := by
  rcases bare_or_marked h with ⟨hscalar, hown, hbegin⟩ | ⟨c, hc, cs, hscalar⟩
  · simp only [readsAsOther, Bool.or_eq_false_iff] at hown
    obtain ⟨⟨⟨⟨⟨-, hbool⟩, -⟩, -⟩, -⟩, hnumber⟩ := hown
    have hempty : s.toList ≠ ['[', ']'] := fun hs =>
      head?_ne_of_isIndicator hbegin (by decide : isIndicator '[' = true) (by rw [hs]; rfl)
    rw [hscalar, ofBare?, if_neg (toList_ne_boolScalar hbool true),
      if_neg (toList_ne_boolScalar hbool false), if_neg hempty,
      Option.isNone_iff_eq_none.1 (Option.isSome_eq_false_iff.1 hnumber), Option.map_none]
  · simp only [List.mem_cons, List.not_mem_nil, or_false] at hc
    rw [hscalar]
    rcases hc with rfl | rfl | rfl <;>
      simp [ofBare?, boolScalar, readTyped?, readSign, readDecimal?]

end Yaml

open Yaml

/-! ## Answers -/

namespace Answer

/-- The texts of an answer. -/
def texts : Answer → List String
  | .text s => [s]
  | .list items => items
  | _ => []

/-- The texts of an answer keep their ends. -/
def KeepsEnds (a : Answer) : Prop := ∀ s ∈ a.texts, KeepsEnd s

/-- What stands behind a key is a text if it stands for nothing else. -/
theorem of_written_inline {a : Answer} {scalar : List Char} (ha : a.KeepsEnds)
    (h : a.written = .inline scalar) :
    ofBare? scalar = some a
      ∨ ofBare? scalar = none ∧ ∃ s, a = .text s ∧ KeepsEnd s ∧ scalar = textScalar s := by
  cases a with
  | text s =>
    obtain rfl := Written.inline.inj h
    have hs : KeepsEnd s := ha s List.mem_cons_self
    exact .inr ⟨ofBare?_textScalar hs, s, rfl, hs, rfl⟩
  | number x =>
    obtain rfl := Written.inline.inj h
    exact .inl (ofBare?_numberScalar x)
  | flag b =>
    obtain rfl := Written.inline.inj h
    exact .inl (ofBare?_boolScalar b)
  | list items =>
    cases items with
    | nil =>
      obtain rfl := Written.inline.inj h
      exact .inl rfl
    | cons item items => cases h

theorem of_written_items {a : Answer} {scalars : List (List Char)}
    (h : a.written = .items scalars) :
    ∃ items, a = .list items ∧ scalars = items.map textScalar := by
  cases a with
  | list items =>
    cases items with
    | nil => cases h
    | cons item items => exact ⟨item :: items, rfl, (Written.items.inj h).symm⟩
  | _ => cases h

/-- What is written for an answer tells the answer. -/
theorem written_inj {a b : Answer} (ha : a.KeepsEnds) (hb : b.KeepsEnds)
    (h : a.written = b.written) : a = b := by
  cases hwritten : b.written with
  | inline scalar =>
    rcases of_written_inline ha (h.trans hwritten) with hread | ⟨hread, s, rfl, hs, hscalar⟩ <;>
      rcases of_written_inline hb hwritten with hread' | ⟨hread', t, rfl, ht, hscalar'⟩
    · exact Option.some.inj (hread.symm.trans hread')
    · cases hread.symm.trans hread'
    · cases hread.symm.trans hread'
    · rw [textScalar_inj hs ht (hscalar.symm.trans hscalar')]
  | items scalars =>
    obtain ⟨items, rfl, hscalars⟩ := of_written_items (h.trans hwritten)
    obtain ⟨items', rfl, hscalars'⟩ := of_written_items hwritten
    have hitems : items = items' :=
      eq_of_map_eq (fun s hs t ht => textScalar_inj (ha s hs) (hb t ht))
        (hscalars.symm.trans hscalars')
    rw [hitems]

end Answer

namespace Answers

/-- The names and the texts of answers keep their ends. -/
def KeepsEnds (a : Answers) : Prop := ∀ e ∈ a.entries, KeepsEnd e.1 ∧ e.2.KeepsEnds

instance (a : Answers) : Decidable a.KeepsEnds :=
  inferInstanceAs (Decidable (∀ e ∈ a.entries, KeepsEnd e.1 ∧ ∀ s ∈ e.2.texts, KeepsEnd s))

theorem written_inj {a b : Answers} (ha : a.KeepsEnds) (hb : b.KeepsEnds)
    (h : a.written = b.written) : a = b := by
  obtain ⟨entries, hentries⟩ := a
  obtain ⟨entries', hentries'⟩ := b
  congr 1
  refine eq_of_map_eq (fun e he f hf hef => ?_) h
  obtain ⟨hname, hanswer⟩ := Prod.mk.inj hef
  exact Prod.ext (textScalar_inj (ha e he).1 (hb f hf).1 hname)
    (Answer.written_inj (ha e he).2 (hb f hf).2 hanswer)

/-- The lines of answers whose names take a line each tell their scalars, and the answers themselves
if no text of theirs is trimmed behind its last line. -/
theorem yamlLines_separates {a b : Answers} (ha : a.KeysOnOneLine) (hb : b.KeysOnOneLine) :
    (a.yamlLines = b.yamlLines ↔ a.written = b.written)
      ∧ (a.KeepsEnds → b.KeepsEnds → (a.yamlLines = b.yamlLines ↔ a = b)) := by
  refine ⟨yamlLines_eq_iff ha hb, fun hends hends' => ⟨fun h => ?_, congrArg yamlLines⟩⟩
  exact written_inj hends hends' ((yamlLines_eq_iff ha hb).1 h)

/-- A text with an end of a line and one without. -/
theorem yamlLines_separates_lineFeed :
    let a : Answers := Table.ofList [("note", .text "a\n"), ("tags", .list ["x", "y"])]
    let b : Answers := Table.ofList [("note", .text "a"), ("tags", .list ["x", "y"])]
    (a.KeysOnOneLine ∧ b.KeysOnOneLine) ∧ (a.KeepsEnds ∧ b.KeepsEnds)
      ∧ a.yamlLines ≠ b.yamlLines := by
  intro a b
  have hkeys : a.KeysOnOneLine ∧ b.KeysOnOneLine := by decide +kernel
  have hends : a.KeepsEnds ∧ b.KeepsEnds := by decide +kernel
  refine ⟨hkeys, hends, fun h => ?_⟩
  have hsame := ((yamlLines_separates hkeys.1 hkeys.2).2 hends.1 hends.2).1 h
  exact absurd hsame (by decide +kernel)

/-- Ends of lines beyond the first are lost, a text that is trimmed may look like a truth value, and
a name of two lines may begin what another answer goes on with. -/
theorem yamlLines_not_injective :
    let alike (a b : Answers) := a ≠ b ∧ a.yamlLines = b.yamlLines
    alike (Table.ofList [("k", .text "a\n\n")]) (Table.ofList [("k", .text "a\n\n\n")])
      ∧ alike (Table.ofList [("k", .text "true\u00a0")]) (Table.ofList [("k", .flag true)])
      ∧ alike (Table.ofList [("a\nb", .text "foo: bar")])
        (Table.ofList [("a\nb: 'foo", .text "bar'")]) := by
  decide +kernel

end Answers

end NoteForms
