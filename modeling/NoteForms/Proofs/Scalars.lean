import NoteForms.Proofs.Blanks
import NoteForms.Proofs.Pieces
import NoteForms.Proofs.WrittenNumber
import NoteForms.Yaml.Scalar

/-!
# Scalars and their lines

Which style a text is written in tells what its characters are like (`styled_writeText`).  Only a
literal block has more than one line, and its lines behind the first are empty or begin with a blank
or with another end of a line (`follow_writeText`); trimming a scalar changes nothing about that.
-/

namespace NoteForms.Yaml

/-- The ways in which a text is written, each with what its style says of the characters. -/
inductive Styled (s : String) : Prop
  | plain (oneLine : '\n' ∉ s.toList) (own : readsAsOther s = false)
    (allowed : plainAllowed s.toList = true) (written : writeText s = s.toList)
  | singleQuoted (oneLine : '\n' ∉ s.toList) (allowed : singleQuotedAllowed s.toList = true)
    (written : writeText s = '\'' :: writeSingle false s.toList ++ ['\''])
  | doubleQuoted (written : writeText s = '"' :: s.toList.flatMap writeDoubleChar ++ ['"'])
  | literal (lines : '\n' ∈ s.toList) (allowed : literalAllowed s.toList = true)
    (written : writeText s = '|' :: indentHint s.toList ++ chompHint s.toList
      ++ '\n' :: writeLiteral true s.toList)

theorem styled_writeText (s : String) : Styled s := by
  by_cases hline : '\n' ∈ s.toList
  · by_cases hliteral : literalAllowed s.toList = true
    · exact .literal hline hliteral (by simp [writeText, styleOf, hline, hliteral])
    · exact .doubleQuoted (by simp [writeText, styleOf, hline, hliteral])
  · by_cases hplain : readsAsOther s = false ∧ plainAllowed s.toList = true
    · exact .plain hline hplain.1 hplain.2 (by simp [writeText, styleOf, hline, hplain])
    · have hstyle : (!readsAsOther s && plainAllowed s.toList) = false := by
        simpa using hplain
      by_cases hsingle : singleQuotedAllowed s.toList = true
      · refine .singleQuoted hline hsingle ?_
        simp [writeText, styleOf, hline, hstyle, hsingle]
      · exact .doubleQuoted (by simp [writeText, styleOf, hline, hstyle, hsingle])

/-! ## Characters -/

theorem isBreak_lineFeed : isBreak '\n' = true := by decide

theorem isPrintable_carriageReturn : isPrintable '\r' = false := by decide

theorem ne_lineFeed_of_isBreak_eq_false {c : Char} (h : isBreak c = false) : c ≠ '\n' := by
  rintro rfl
  simp [isBreak_lineFeed] at h

/-- What may stand at the beginning of a line that continues a scalar. -/
def Continues (c : Char) : Prop := c = ' ' ∨ isBreak c = true

theorem continues_lineFeed : Continues '\n' := .inr isBreak_lineFeed

/-! ## Lines of the styles -/

theorem mem_of_mem_writeSingle {d : Char} :
    ∀ {b : Bool} {cs : List Char}, d ∈ writeSingle b cs → d ∈ cs ∨ d = ' ' ∨ d = '\''
  | b, [], h => by cases b <;> simp_all [writeSingle, indent]
  | b, c :: cs, h => by
    rw [writeSingle] at h
    split at h
    · rcases List.mem_cons.1 h with rfl | h
      · simp
      · exact (mem_of_mem_writeSingle h).imp_left (List.mem_cons_of_mem _)
    · rcases List.mem_append.1 h with h | h
      · have hd : d = ' ' ∨ d = c := by
          cases b <;> (by_cases hc : c = '\'' <;> simp_all [indent])
        rcases hd with rfl | rfl <;> simp
      · exact (mem_of_mem_writeSingle h).imp_left (List.mem_cons_of_mem _)

theorem head?_writeLiteral : ∀ cs : List Char, ∀ c ∈ (writeLiteral true cs).head?, Continues c
  | [] => by simp [writeLiteral]
  | c :: cs => by
    rw [writeLiteral]
    split
    · rename_i hc
      simpa using show Continues c from .inr hc
    · simp [indent, Continues]

theorem follow_writeLiteral : ∀ (b : Bool) (cs : List Char),
    Text.Follow '\n' Continues (writeLiteral b cs)
  | _, [] => Text.follow_nil
  | b, c :: cs => by
    rw [writeLiteral]
    split
    · exact Text.follow_cons.2 ⟨fun _ => head?_writeLiteral cs, follow_writeLiteral true cs⟩
    · rename_i hc
      have hline : c ≠ '\n' := ne_lineFeed_of_isBreak_eq_false (by simpa using hc)
      have hmore : Text.Follow '\n' Continues (c :: writeLiteral false cs) :=
        Text.follow_cons.2 ⟨fun h => absurd h hline, follow_writeLiteral false cs⟩
      cases b
      · exact hmore
      · simp [indent, Text.follow_cons, hmore]

theorem notMem_indentHint {c : Char} (h : c ≠ '2') (cs : List Char) : c ∉ indentHint cs := by
  unfold indentHint
  split
  · exact List.not_mem_nil
  · split <;> simp [h]

theorem notMem_chompHint {c : Char} (hplus : c ≠ '+') (hminus : c ≠ '-') (cs : List Char) :
    c ∉ chompHint cs := by
  unfold chompHint
  split
  · simp [hminus]
  · split <;> simp [hplus, hminus]
  · split_ifs <;> simp [hplus, hminus]

theorem isBreak_hexDigit : ∀ n < 16, isBreak (hexDigit n) = false := by decide

theorem isBreak_of_mem_hexDigits {c : Char} :
    ∀ {width n : ℕ}, c ∈ hexDigits width n → isBreak c = false
  | width + 1, n, h => by
    rcases List.mem_append.1 h with h | h
    · exact isBreak_of_mem_hexDigits h
    · rw [List.mem_singleton.1 h]
      exact isBreak_hexDigit _ (Nat.mod_lt _ (by decide))

theorem isBreak_of_escapeLetter? {c letter : Char} (h : escapeLetter? c = some letter) :
    isBreak letter = false := by
  unfold escapeLetter? at h
  split at h <;> cases h <;> decide

theorem isBreak_of_mem_writeDoubleChar {c d : Char} (h : d ∈ writeDoubleChar c) :
    isBreak d = false := by
  unfold writeDoubleChar at h
  split at h
  · unfold escape at h
    split at h
    · rename_i letter hletter
      simp only [List.mem_cons, List.not_mem_nil, or_false] at h
      rcases h with rfl | rfl
      · decide
      · exact isBreak_of_escapeLetter? hletter
    · split_ifs at h <;> simp only [List.mem_cons] at h <;> rcases h with rfl | rfl | h <;>
        first | decide | exact isBreak_of_mem_hexDigits h
  · rename_i hc
    rw [List.mem_singleton.1 h]
    simp_all

theorem plainAllowed_iff {cs : List Char} :
    plainAllowed cs = true ↔ beginsWithIndicator cs = false ∧ containsIndicator cs = false
      ∧ (∀ c ∈ cs, isPrintable c = true ∧ isBreak c = false)
      ∧ cs.head? ≠ some ' ' ∧ cs.getLast? ≠ some ' ' := by
  simp [plainAllowed, and_assoc]

theorem lineFeed_notMem_doubleQuoted (cs : List Char) :
    '\n' ∉ '"' :: cs.flatMap writeDoubleChar ++ ['"'] := by
  have hchars : '\n' ∉ cs.flatMap writeDoubleChar := fun h => by
    obtain ⟨c, -, hc⟩ := List.mem_flatMap.1 h
    exact ne_lineFeed_of_isBreak_eq_false (isBreak_of_mem_writeDoubleChar hc) rfl
  simp [hchars]

theorem lineFeed_notMem_singleQuoted {cs : List Char} (h : '\n' ∉ cs) :
    '\n' ∉ '\'' :: writeSingle false cs ++ ['\''] := by
  have hchars : '\n' ∉ writeSingle false cs := fun hmem => by
    rcases mem_of_mem_writeSingle hmem with hmem | hmem | hmem
    · exact h hmem
    · exact absurd hmem (by decide)
    · exact absurd hmem (by decide)
  simp [hchars]

theorem follow_writeText (s : String) : Text.Follow '\n' Continues (writeText s) := by
  rcases styled_writeText s with ⟨hline, -, -, h⟩ | ⟨hline, -, h⟩ | h | ⟨-, -, h⟩ <;> rw [h]
  · exact Text.follow_of_notMem hline
  · exact Text.follow_of_notMem (lineFeed_notMem_singleQuoted hline)
  · exact Text.follow_of_notMem (lineFeed_notMem_doubleQuoted _)
  · have hhead : '\n' ∉ '|' :: indentHint s.toList ++ chompHint s.toList := by
      simp [notMem_indentHint, notMem_chompHint]
    refine Text.Follow.append ?_ (by simp [Continues, isBreak_lineFeed])
      (Text.follow_of_notMem hhead)
    exact Text.follow_cons.2 ⟨fun _ => head?_writeLiteral _, follow_writeLiteral true _⟩

theorem follow_textScalar (s : String) : Text.Follow '\n' Continues (textScalar s) :=
  (follow_writeText s).of_isPrefix (Text.dropTrailingBlanks_isPrefix _)

/-! ## Where a scalar begins and ends -/

/-- Nothing is trimmed from a text that ends in a character of its style. -/
theorem textScalar_of_closed {s : String} {cs : List Char} {c : Char}
    (h : writeText s = cs ++ [c]) (hc : Text.isBlank c = false) : textScalar s = writeText s :=
  Text.dropTrailingBlanks_of_noBlank (by rw [h, List.reverse_concat]; exact Text.noBlank_cons.2 hc)

theorem head?_writeText (s : String) : ∀ c ∈ (writeText s).head?, ¬Continues c := by
  rcases styled_writeText s with ⟨-, -, hallowed, h⟩ | ⟨-, -, h⟩ | h | ⟨-, -, h⟩ <;> rw [h]
  · obtain ⟨-, -, hchars, hblank, -⟩ := plainAllowed_iff.1 hallowed
    intro c hc hcontinues
    rcases hcontinues with rfl | hbreak
    · exact hblank hc
    · simp [(hchars c (List.mem_of_mem_head? hc)).2] at hbreak
  · simp [Continues, show isBreak '\'' = false by decide]
  · simp [Continues, show isBreak '"' = false by decide]
  · simp [Continues, show isBreak '|' = false by decide]

theorem head?_textScalar (s : String) : ∀ c ∈ (textScalar s).head?, ¬Continues c := fun c hc =>
  head?_writeText s c (Text.head?_of_isPrefix (Text.dropTrailingBlanks_isPrefix _) hc)

theorem mem_of_mem_writeLiteral {d : Char} :
    ∀ {b : Bool} {cs : List Char}, d ∈ writeLiteral b cs → d ∈ cs ∨ d = ' '
  | _, [], h => absurd h List.not_mem_nil
  | b, c :: cs, h => by
    rw [writeLiteral] at h
    split at h
    · rcases List.mem_cons.1 h with rfl | h
      · simp
      · exact (mem_of_mem_writeLiteral h).imp_left (List.mem_cons_of_mem _)
    · rcases List.mem_append.1 h with h | h
      · cases b <;> simp_all [indent]
      · rcases List.mem_cons.1 h with rfl | h
        · simp
        · exact (mem_of_mem_writeLiteral h).imp_left (List.mem_cons_of_mem _)

/-- A scalar of more than one line is a literal block. -/
theorem literal_of_mem_writeText {s : String} (hlines : '\n' ∈ writeText s) :
    literalAllowed s.toList = true ∧ writeText s
      = '|' :: indentHint s.toList ++ chompHint s.toList ++ '\n' :: writeLiteral true s.toList := by
  rcases styled_writeText s with ⟨hline, -, -, h⟩ | ⟨hline, -, h⟩ | h | ⟨-, hallowed, h⟩
  · exact absurd (h ▸ hlines) hline
  · exact absurd (h ▸ hlines) (lineFeed_notMem_singleQuoted hline)
  · exact absurd (h ▸ hlines) (lineFeed_notMem_doubleQuoted _)
  · exact ⟨hallowed, h⟩

theorem carriageReturn_notMem_writeText {s : String} (hlines : '\n' ∈ writeText s) :
    '\r' ∉ writeText s := by
  obtain ⟨hallowed, h⟩ := literal_of_mem_writeText hlines
  have hchars : '\r' ∉ s.toList := fun hmem => by
    simp only [literalAllowed, Bool.and_eq_true, List.all_eq_true] at hallowed
    exact absurd (hallowed.1.1 _ hmem) (by simp [isPrintable_carriageReturn])
  have hbody : '\r' ∉ writeLiteral true s.toList := fun hmem => by
    rcases mem_of_mem_writeLiteral hmem with hmem | hmem
    · exact hchars hmem
    · exact absurd hmem (by decide)
  rw [h]
  simp [notMem_indentHint, notMem_chompHint, hbody]

/-- What is true of the characters of any scalar: where its lines begin, and that the last of them
does not end. -/
structure IsScalar (cs : List Char) : Prop where
  follow : Text.Follow '\n' Continues cs
  openEnd : cs.getLast? ≠ some '\n'
  lines : '\n' ∈ cs → '\r' ∉ cs

theorem isScalar_of_notMem {cs : List Char} (h : '\n' ∉ cs) : IsScalar cs :=
  ⟨Text.follow_of_notMem h, fun hlast => h (List.mem_of_getLast? hlast), fun hmem => absurd hmem h⟩

theorem isScalar_textScalar (s : String) : IsScalar (textScalar s) where
  follow := follow_textScalar s
  openEnd hlast := by
    have hblank := Text.noBlank_reverse_dropTrailingBlanks (writeText s) '\n'
      (by rwa [List.head?_reverse])
    simp [show Text.isBlank '\n' = true by decide] at hblank
  lines hmem hreturn := by
    have hsubset := (Text.dropTrailingBlanks_isPrefix (writeText s)).subset
    exact carriageReturn_notMem_writeText (hsubset hmem) (hsubset hreturn)

theorem isScalar_numberScalar (x : Binary64) : IsScalar (numberScalar x) :=
  isScalar_of_notMem fun h => by
    have := (NumberLayout.yaml.isNumeralText_write x '\n' h).not_isBlank
    simp [show Text.isBlank '\n' = true by decide] at this

theorem isScalar_boolScalar (b : Bool) : IsScalar (boolScalar b) := by
  cases b <;> exact isScalar_of_notMem (by decide)

end NoteForms.Yaml
