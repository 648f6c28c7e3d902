import NoteForms.Proofs.EntryLines
import NoteForms.Proofs.Quoting

/-!
# Entries are told apart

The lines of some answers tell the scalars of each key and its answer, as long as every key takes
one line (`Answers.yamlLines_eq_iff`).  A key ends at a colon with a space or the end of the line
behind it, for which there is no room inside one; a value ends at a line that begins with no blank,
and an item at one that is not moved to the right as far as its own lines are.
-/

namespace NoteForms

open Text Yaml

/-! ## Keys -/

/-- A scalar of one line that ends where a colon and a space may follow. -/
inductive IsKey : List Char → Prop
  | bare {cs : List Char} (line : '\n' ∉ cs) (colons : Follow ':' (· ≠ ' ') cs)
    (single : cs.head? ≠ some '\'') (double : cs.head? ≠ some '"') : IsKey cs
  | singleQuoted (cs : List Char) : IsKey ('\'' :: (writeSingle false cs ++ ['\'']))
  | doubleQuoted (cs : List Char) : IsKey ('"' :: (cs.flatMap writeDoubleChar ++ ['"']))

/-- What may stand behind a colon inside a key. -/
def InKey (c : Char) : Prop := c ≠ ' ' ∧ c ≠ '\n'

theorem inKey_colon : InKey ':' := ⟨by decide, by decide⟩

theorem not_inKey {c : Char} (h : c = ' ' ∨ c = '\n') : ¬InKey c := fun hc => h.elim hc.1 hc.2

theorem follow_inKey {cs : List Char} (line : '\n' ∉ cs) (colons : Follow ':' (· ≠ ' ') cs) :
    Follow ':' InKey cs := fun rest hrest c hc =>
  ⟨colons rest hrest c hc, fun h =>
    line (h ▸ hrest.subset (List.mem_cons_of_mem _ (List.mem_of_mem_head? hc)))⟩

theorem head?_append_colon {cs : List Char} {c : Char} (h : cs.head? ≠ some c) (hc : c ≠ ':')
    (rest : List Char) : (cs ++ ':' :: rest).head? ≠ some c := by
  cases cs with
  | nil => simpa using Ne.symm hc
  | cons d cs => exact h

theorem IsKey.append_inj {key other r q : List Char} (hkey : IsKey key) (hother : IsKey other)
    (hr : ∀ c ∈ r.head?, ¬InKey c) (hq : ∀ c ∈ q.head?, ¬InKey c)
    (h : key ++ ':' :: r = other ++ ':' :: q) : key = other ∧ r = q := by
  have hhead := congrArg List.head? h
  cases hkey with
  | bare line colons single double =>
    cases hother with
    | bare line' colons' _ _ =>
      exact Follow.append_cons_inj inKey_colon hr hq (follow_inKey line colons)
        (follow_inKey line' colons') h
    | singleQuoted ds => exact absurd hhead (head?_append_colon single (by decide) r)
    | doubleQuoted ds => exact absurd hhead (head?_append_colon double (by decide) r)
  | singleQuoted cs =>
    cases hother with
    | bare _ _ single _ => exact absurd hhead.symm (head?_append_colon single (by decide) q)
    | singleQuoted ds =>
      simp only [List.cons_append, List.append_assoc, List.nil_append] at h
      obtain ⟨rfl, hends⟩ := writeSingle_append_inj (by simp) (by simp) (List.cons.inj h).2
      exact ⟨rfl, (List.cons.inj hends).2⟩
    | doubleQuoted ds => exact absurd hhead (by simp)
  | doubleQuoted cs =>
    cases hother with
    | bare _ _ _ double => exact absurd hhead.symm (head?_append_colon double (by decide) q)
    | singleQuoted ds => exact absurd hhead (by simp)
    | doubleQuoted ds =>
      simp only [List.cons_append, List.append_assoc, List.nil_append] at h
      obtain ⟨rfl, hends⟩ := doubleQuoted_append_inj (List.cons.inj h).2
      exact ⟨rfl, (List.cons.inj hends).2⟩

theorem follow_colon_tail : ∀ {a : Char} {cs : List Char}, containsIndicator (a :: cs) = false →
    Follow ':' (· ≠ ' ') cs
  | _, [], _ => follow_nil
  | a, b :: cs, h => by
    simp only [containsIndicator, Bool.or_eq_false_iff, Bool.and_eq_false_iff] at h
    refine follow_cons.2 ⟨fun hb => ?_, follow_colon_tail h.2⟩
    have hspace : spaceFollows cs = false := h.1.1.resolve_left (by simp [hb])
    cases cs with
    | nil => simp [spaceFollows] at hspace
    | cons c cs => simpa [spaceFollows] using hspace

theorem follow_colon_plain {cs : List Char} (hbegin : beginsWithIndicator cs = false)
    (hinside : containsIndicator cs = false) : Follow ':' (· ≠ ' ') cs := by
  cases cs with
  | nil => exact follow_nil
  | cons c cs =>
    refine follow_cons.2 ⟨?_, follow_colon_tail hinside⟩
    rintro rfl d hd rfl
    cases cs with
    | nil => cases hd
    | cons e cs =>
      cases hd
      simp [beginsWithIndicator, spaceFollows] at hbegin

theorem beginsWithIndicator_cons {c : Char} (h : isIndicator c = true) (cs : List Char) :
    beginsWithIndicator (c :: cs) = true := by
  unfold beginsWithIndicator
  split <;> simp_all

/-- A plain text begins with none of the characters that begin the other styles. -/
theorem head?_ne_of_isIndicator {cs : List Char} (h : beginsWithIndicator cs = false) {c : Char}
    (hc : isIndicator c = true) : cs.head? ≠ some c := by
  cases cs with
  | nil => simp
  | cons d cs =>
    rintro ⟨⟩
    rw [beginsWithIndicator_cons hc] at h
    cases h

theorem isKey_textScalar {s : String} (h : '\n' ∉ textScalar s) : IsKey (textScalar s) := by
  have hprefix : textScalar s <+: writeText s := dropTrailingBlanks_isPrefix _
  rcases styled_writeText s with ⟨-, -, hallowed, hs⟩ | ⟨-, -, hs⟩ | hs | ⟨-, -, hs⟩
  · obtain ⟨hbegin, hinside, -⟩ := plainAllowed_iff.1 hallowed
    rw [hs] at hprefix
    exact .bare h ((follow_colon_plain hbegin hinside).of_isPrefix hprefix)
      (fun hc => head?_ne_of_isIndicator hbegin (by decide) (head?_of_isPrefix hprefix hc))
      (fun hc => head?_ne_of_isIndicator hbegin (by decide) (head?_of_isPrefix hprefix hc))
  · rw [textScalar_of_closed hs (by decide), hs]
    exact .singleQuoted _
  · rw [textScalar_of_closed hs (by decide), hs]
    exact .doubleQuoted _
  · have hbegin : '|' :: indentHint s.toList ++ chompHint s.toList ++ ['\n'] <+: writeText s :=
      ⟨writeLiteral true s.toList, by simp [hs]⟩
    have hheader : textScalar s <+: '|' :: indentHint s.toList ++ chompHint s.toList ++ ['\n'] := by
      rcases List.prefix_or_prefix_of_prefix hprefix hbegin with hcut | hcut
      · exact hcut
      · exact absurd (hcut.subset (by simp)) h
    have hcolon : ':' ∉ '|' :: indentHint s.toList ++ chompHint s.toList ++ ['\n'] := by
      simp [notMem_indentHint, notMem_chompHint]
    exact .bare h (follow_of_notMem fun hmem => hcolon (hheader.subset hmem))
      (fun hc => by simpa using head?_of_isPrefix hheader hc)
      (fun hc => by simpa using head?_of_isPrefix hheader hc)

/-! ## Items -/

theorem continueItem_inj : ∀ {line other : List Char},
    continueItem line = continueItem other → line = other
  | [], [], _ => rfl
  | [], _ :: _, h => by simp [continueItem, itemIndent] at h
  | _ :: _, [], h => by simp [continueItem, itemIndent] at h
  | _ :: _, _ :: _, h => List.append_cancel_left h

/-- No line that continues an item comes next. -/
def NoItemNext (cs : List Char) : Prop := cs.head? ≠ some '\n' ∧ ¬itemIndent <+: cs

theorem NoItemNext.not_inItem {r : List Char} (h : NoItemNext r) :
    ∀ line rest, r = line ++ '\n' :: rest → ¬InItem line := by
  rintro line rest rfl (rfl | hindent)
  · exact h.1 rfl
  · exact h.2 (hindent.trans (List.prefix_append _ _))

theorem itemBlock_append_inj {scalar other r q : List Char} (hscalar : IsScalar scalar)
    (hother : IsScalar other) (hr : NoItemNext r) (hq : NoItemNext q)
    (h : itemBlock scalar ++ r = itemBlock other ++ q) : scalar = other ∧ r = q := by
  obtain ⟨first, others, hsplit, hfirst, hlines, hblock⟩ := exists_itemBlock hscalar
  obtain ⟨first', others', hsplit', hfirst', hlines', hblock'⟩ := exists_itemBlock hother
  simp only [hblock, hblock', List.append_assoc] at h
  obtain ⟨rfl, hrest⟩ := append_cons_inj hfirst hfirst' (List.append_cancel_left h)
  obtain ⟨hmaps, hends⟩ :=
    (blocks_endEach '\n' InItem).append_inj hr.not_inItem hq.not_inItem hlines hlines' hrest
  obtain rfl := List.map_injective_iff.2 (fun _ _ => continueItem_inj) hmaps
  exact ⟨splitChars_inj (hsplit.trans hsplit'.symm), hends⟩

/-- No line that continues a scalar comes next. -/
def NoScalarNext (cs : List Char) : Prop := ∀ c ∈ cs.head?, ¬Continues c

theorem NoScalarNext.noItemNext {r : List Char} (h : NoScalarNext r) : NoItemNext r := by
  refine ⟨fun hhead => h '\n' hhead continues_lineFeed, ?_⟩
  rintro ⟨rest, rfl⟩
  exact h ' ' rfl (.inl rfl)

theorem blocks_itemBlock : Blocks itemBlock IsScalar NoItemNext NoScalarNext where
  block := itemBlock_append_inj
  next _ r := by constructor <;> simp [itemBlock, itemIndent]
  last := NoScalarNext.noItemNext
  stops _ _ h := h ' ' rfl (.inl rfl)

/-! ## Entries -/

theorem Written.chars_append_inj {v w : Written} {r q : List Char} (hv : v.AreScalars)
    (hw : w.AreScalars) (hr : NoScalarNext r) (hq : NoScalarNext q)
    (h : v.chars ++ r = w.chars ++ q) : v = w ∧ r = q := by
  cases v with
  | inline scalar =>
    cases w with
    | inline other =>
      simp only [chars, List.cons_append, List.append_assoc, List.nil_append] at h
      obtain ⟨rfl, hends⟩ := Follow.append_cons_inj continues_lineFeed hr hq hv.follow hw.follow
        (List.cons.inj (List.cons.inj h).2).2
      exact ⟨rfl, hends⟩
    | items others => simp [chars] at h
  | items scalars =>
    cases w with
    | inline other => simp [chars] at h
    | items others =>
      obtain ⟨rfl, hends⟩ :=
        blocks_itemBlock.append_inj hr hq hv hw (List.cons.inj (List.cons.inj h).2).2
      exact ⟨rfl, hends⟩

/-- An entry whose key takes one line. -/
structure IsEntry (e : List Char × Written) : Prop where
  key : IsKey e.1
  start : NoScalarNext e.1
  areScalars : e.2.AreScalars

theorem IsEntry.noScalarNext {e : List Char × Written} (h : IsEntry e) (rest : List Char) :
    NoScalarNext (entryChars e ++ rest) := by
  obtain ⟨body, hbody, -⟩ := e.2.exists_chars
  have hstart := h.start
  rw [entryChars, hbody]
  generalize e.1 = key at hstart
  cases key with
  | nil =>
    rintro c ⟨⟩ (hc | hc)
    · cases hc
    · exact absurd hc (by decide)
  | cons c key => exact hstart

theorem entryChars_append_inj {e f : List Char × Written} {r q : List Char} (he : IsEntry e)
    (hf : IsEntry f) (hr : NoScalarNext r) (hq : NoScalarNext q)
    (h : entryChars e ++ r = entryChars f ++ q) : e = f ∧ r = q := by
  -- Only behind the key does the colon end something, so it goes back to the answer.
  obtain ⟨body, hbody, hnext⟩ := e.2.exists_chars
  obtain ⟨body', hbody', hnext'⟩ := f.2.exists_chars
  have hkeys : e.1 ++ ':' :: (body ++ '\n' :: r) = f.1 ++ ':' :: (body' ++ '\n' :: q) := by
    simpa [entryChars, hbody, hbody'] using h
  obtain ⟨hkey, hrest⟩ := he.key.append_inj hf.key (fun c hc => not_inKey (hnext r c hc))
    (fun c hc => not_inKey (hnext' q c hc)) hkeys
  have hchars : e.2.chars ++ r = f.2.chars ++ q := by
    simpa [hbody, hbody'] using hrest
  obtain ⟨hwritten, hends⟩ :=
    Written.chars_append_inj he.areScalars hf.areScalars hr hq hchars
  exact ⟨Prod.ext hkey hwritten, hends⟩

theorem blocks_entryChars : Blocks entryChars IsEntry NoScalarNext (· = []) where
  block := entryChars_append_inj
  next := IsEntry.noScalarNext
  last h := by simp [NoScalarNext, h]
  stops {e} _ r := by
    obtain ⟨body, hbody, -⟩ := e.2.exists_chars
    simp [entryChars, hbody]

namespace Answers

/-- Every key is written on one line. -/
def KeysOnOneLine (a : Answers) : Prop := ∀ e ∈ a.entries, '\n' ∉ textScalar e.1

instance (a : Answers) : Decidable a.KeysOnOneLine :=
  inferInstanceAs (Decidable (∀ e ∈ a.entries, '\n' ∉ textScalar e.1))

theorem KeysOnOneLine.isEntry {a : Answers} (h : a.KeysOnOneLine) : ∀ e ∈ a.written, IsEntry e := by
  intro e he
  obtain ⟨entry, hentry, rfl⟩ := List.mem_map.1 he
  exact ⟨isKey_textScalar (h entry hentry), head?_textScalar entry.1, entry.2.areScalars_written⟩

/-- The lines of answers are the same only if all their scalars are. -/
theorem yamlLines_eq_iff {a b : Answers} (ha : a.KeysOnOneLine) (hb : b.KeysOnOneLine) :
    a.yamlLines = b.yamlLines ↔ a.written = b.written := by
  have hlines (a : Answers) : a.yamlLines = String.ofList (a.written.flatMap entryChars) := by
    rw [yamlLines, yamlChars_eq]
  constructor
  · intro h
    rw [hlines, hlines, String.ofList_inj] at h
    exact (blocks_entryChars.append_inj rfl rfl ha.isEntry hb.isEntry (congrArg (· ++ []) h)).1
  · intro h
    rw [hlines, hlines, h]

end Answers

end NoteForms
