import Mathlib.Algebra.Group.Nat.Defs
import NoteForms.Proofs.Pieces
import NoteForms.Yaml.Scalar

/-!
# Quoted texts end at their quotes

What stands between quotes tells the text, and where the text ends, whatever comes behind it: a
quote that is part of the text is written twice between single quotes, and escaped between double
quotes (`writeSingle_append_inj`, `doubleQuoted_append_inj`).  A literal block has no such end, but
what is in it tells the text as well (`writeLiteral_inj`).
-/

namespace NoteForms.Yaml

/-! ## Reading an escape -/

theorem digitIn?_hexDigit : ∀ n < 16, digitIn? 16 (hexDigit n) = some n := by decide

theorem length_hexDigits : ∀ width n : ℕ, (hexDigits width n).length = width
  | 0, _ => rfl
  | width + 1, n => by rw [hexDigits, List.length_append, length_hexDigits width]; rfl

theorem foldlM_hexDigits : ∀ {width n : ℕ}, n < 16 ^ width →
    (hexDigits width n).foldlM (fun m c => (digitIn? 16 c).map fun d => m * 16 + d) 0 = some n
  | 0, n, h => by
    obtain rfl : n = 0 := Nat.lt_one_iff.1 h
    rfl
  | width + 1, n, h => by
    have hfront : n / 16 < 16 ^ width := by rw [Nat.pow_succ] at h; omega
    rw [hexDigits, List.foldlM_append, foldlM_hexDigits hfront]
    simp [digitIn?_hexDigit _ (Nat.mod_lt n (by decide))]
    omega

theorem digitsIn?_hexDigits {width n : ℕ} (hwidth : width ≠ 0) (h : n < 16 ^ width) :
    digitsIn? 16 (hexDigits width n) = some n := by
  have hne : (hexDigits width n).isEmpty = false := by
    rw [List.isEmpty_eq_false_iff, ← List.length_pos_iff, length_hexDigits]
    exact Nat.pos_of_ne_zero hwidth
  rw [digitsIn?, hne, if_neg Bool.false_ne_true, foldlM_hexDigits h]

/-- The character that a letter behind a backslash stands for. -/
def ofEscapeLetter : Char → Char
  | '0' => Char.ofNat 0x00
  | 'a' => Char.ofNat 0x07
  | 'b' => Char.ofNat 0x08
  | 't' => Char.ofNat 0x09
  | 'n' => Char.ofNat 0x0a
  | 'v' => Char.ofNat 0x0b
  | 'f' => Char.ofNat 0x0c
  | 'r' => Char.ofNat 0x0d
  | 'e' => Char.ofNat 0x1b
  | 'N' => Char.ofNat 0x85
  | '_' => Char.ofNat 0xa0
  | 'L' => Char.ofNat 0x2028
  | 'P' => Char.ofNat 0x2029
  | c => c

theorem ofEscapeLetter_of_escapeLetter? {c letter : Char} (h : escapeLetter? c = some letter) :
    ofEscapeLetter letter = c ∧ letter ∉ ['x', 'u', 'U'] := by
  rw [← Char.ofNat_toNat c]
  unfold escapeLetter? at h
  split at h <;> cases h <;> rename_i hc <;> rw [hc] <;> exact ⟨rfl, by decide⟩

/-- A character whose number stands in this many digits, and what follows them. -/
def readCode (width : ℕ) (cs : List Char) : Option (Char × List Char) :=
  (digitsIn? 16 (cs.take width)).map fun n => (Char.ofNat n, cs.drop width)

/-- The first character between double quotes, and what follows it. -/
def readDoubleChar : List Char → Option (Char × List Char)
  | '\\' :: 'x' :: cs => readCode 2 cs
  | '\\' :: 'u' :: cs => readCode 4 cs
  | '\\' :: 'U' :: cs => readCode 8 cs
  | '\\' :: letter :: cs => some (ofEscapeLetter letter, cs)
  | c :: cs => some (c, cs)
  | [] => none

theorem readCode_hexDigits {width : ℕ} {c : Char} (hwidth : width ≠ 0) (h : c.toNat < 16 ^ width)
    (rest : List Char) : readCode width (hexDigits width c.toNat ++ rest) = some (c, rest) := by
  have hlength := length_hexDigits width c.toNat
  rw [readCode, List.take_left' hlength, List.drop_left' hlength, digitsIn?_hexDigits hwidth h,
    Option.map_some, Char.ofNat_toNat]

theorem readDoubleChar_escape (c : Char) (rest : List Char) :
    readDoubleChar (escape c ++ rest) = some (c, rest) := by
  unfold escape
  split
  · rename_i letter hletter
    obtain ⟨hmeaning, hmark⟩ := ofEscapeLetter_of_escapeLetter? hletter
    simp only [List.mem_cons, List.not_mem_nil, or_false, not_or] at hmark
    simp [readDoubleChar, hmark, hmeaning]
  · split_ifs with hbyte hplane
    · exact readCode_hexDigits (by decide) (Nat.lt_succ_of_le hbyte) rest
    · exact readCode_hexDigits (by decide) (Nat.lt_succ_of_le hplane) rest
    · exact readCode_hexDigits (by decide) c.val.toNat_lt rest

theorem readDoubleChar_writeDoubleChar (c : Char) (rest : List Char) :
    readDoubleChar (writeDoubleChar c ++ rest) = some (c, rest) := by
  unfold writeDoubleChar
  split
  · exact readDoubleChar_escape c rest
  · rename_i hc
    have hbackslash : c ≠ '\\' := fun h => hc (by simp [h])
    simp [readDoubleChar, hbackslash]

theorem head?_writeDoubleChar (c : Char) (rest : List Char) :
    (writeDoubleChar c ++ rest).head? ≠ some '"' := by
  unfold writeDoubleChar
  split
  · unfold escape
    split
    · simp
    · split_ifs <;> simp
  · rename_i hc
    have hquote : c ≠ '"' := fun h => hc (by simp [h])
    simpa using hquote

theorem blocks_writeDoubleChar :
    Blocks writeDoubleChar (fun _ => True) (fun _ => True) (fun r => r.head? = some '"') where
  block {c d r q} _ _ _ _ h := by
    have hread := congrArg readDoubleChar h
    rw [readDoubleChar_writeDoubleChar, readDoubleChar_writeDoubleChar] at hread
    exact Prod.mk.inj (Option.some.inj hread)
  next _ _ := trivial
  last _ := trivial
  stops {c} _ r := head?_writeDoubleChar c r

/-- Between double quotes, the text ends at the first quote that is not escaped. -/
theorem doubleQuoted_append_inj {cs ds r q : List Char}
    (h : cs.flatMap writeDoubleChar ++ '"' :: r = ds.flatMap writeDoubleChar ++ '"' :: q) :
    cs = ds ∧ r = q := by
  obtain ⟨hchars, hends⟩ := blocks_writeDoubleChar.append_inj rfl rfl (fun _ _ => trivial)
    (fun _ _ => trivial) h
  exact ⟨hchars, (List.cons.inj hends).2⟩

/-! ## Single quotes -/

/-- A character between single quotes. -/
def quoteChar (c : Char) : List Char := if c = '\'' then ['\'', '\''] else [c]

theorem writeSingle_cons_of_isBreak (b : Bool) {c : Char} (h : isBreak c = true) (cs : List Char) :
    writeSingle b (c :: cs) = c :: writeSingle true cs := by rw [writeSingle, if_pos h]

theorem writeSingle_cons (b : Bool) {c : Char} (h : isBreak c = false) (cs : List Char) :
    writeSingle b (c :: cs)
      = (if b then indent else []) ++ (quoteChar c ++ writeSingle false cs) := by
  rw [writeSingle, if_neg (by simp [h]), List.append_assoc]
  rfl

theorem quoteChar_append_inj {c d : Char} {r q : List Char}
    (h : quoteChar c ++ r = quoteChar d ++ q) : c = d ∧ r = q := by
  unfold quoteChar at h
  split_ifs at h with hc hd hd
  · simpa [hc, hd] using h
  · exact absurd (List.cons.inj h).1.symm hd
  · exact absurd (List.cons.inj h).1 hc
  · exact List.cons.inj h

/-- A quote that is part of a text is not the one that ends it. -/
theorem quote_cons_ne {d : Char} {r q : List Char} (hr : r.head? ≠ some '\'') :
    '\'' :: r ≠ quoteChar d ++ q := by
  unfold quoteChar
  split_ifs with hd
  · rintro h
    exact hr (by rw [(List.cons.inj h).2]; rfl)
  · intro h
    exact hd (List.cons.inj h).1.symm

/-- The end of a line is told from what is indented behind one. -/
theorem break_cons_ne {b : Bool} {c : Char} (hc : isBreak c = true) {r q : List Char}
    (hq : ∀ d ∈ q.head?, isBreak d = false) : c :: r ≠ (if b then indent else []) ++ q := by
  intro h
  have hhead : ∀ d ∈ ((if b then indent else []) ++ q).head?, isBreak d = false := by
    cases b
    · exact hq
    · rintro d ⟨⟩
      rfl
  rw [← h] at hhead
  simp [hhead c rfl] at hc

theorem head?_quoteChar {c : Char} (h : isBreak c = false) (rest : List Char) :
    ∀ d ∈ (quoteChar c ++ rest).head?, isBreak d = false := by
  unfold quoteChar
  split_ifs with hc
  · rintro d ⟨⟩
    exact hc ▸ h
  · rintro d ⟨⟩
    exact h

/-- Between single quotes, the text ends at the first quote that is not written twice. -/
theorem writeSingle_append_inj {r q : List Char} (hr : r.head? ≠ some '\'')
    (hq : q.head? ≠ some '\'') : ∀ {b : Bool} {cs ds : List Char},
      writeSingle b cs ++ '\'' :: r = writeSingle b ds ++ '\'' :: q → cs = ds ∧ r = q
  | b, [], [], h => ⟨rfl, (List.cons.inj (List.append_cancel_left h)).2⟩
  | b, [], d :: ds, h => by
    by_cases hd : isBreak d = true
    · rw [writeSingle_cons_of_isBreak b hd, List.cons_append, writeSingle] at h
      exact absurd h.symm (break_cons_ne hd (by rintro _ ⟨⟩; rfl))
    · rw [writeSingle_cons b (by simpa using hd), writeSingle, List.append_assoc,
        List.append_assoc] at h
      exact absurd (List.append_cancel_left h) (quote_cons_ne hr)
  | b, c :: cs, [], h => by
    by_cases hc : isBreak c = true
    · rw [writeSingle_cons_of_isBreak b hc, List.cons_append, writeSingle] at h
      exact absurd h (break_cons_ne hc (by rintro _ ⟨⟩; rfl))
    · rw [writeSingle_cons b (by simpa using hc), writeSingle, List.append_assoc,
        List.append_assoc] at h
      exact absurd (List.append_cancel_left h).symm (quote_cons_ne hq)
  | b, c :: cs, d :: ds, h => by
    by_cases hc : isBreak c = true <;> by_cases hd : isBreak d = true
    · rw [writeSingle_cons_of_isBreak b hc, writeSingle_cons_of_isBreak b hd] at h
      obtain ⟨rfl, hrest⟩ := List.cons.inj h
      obtain ⟨rfl, hends⟩ := writeSingle_append_inj hr hq hrest
      exact ⟨rfl, hends⟩
    · have hplain : isBreak d = false := by simpa using hd
      rw [writeSingle_cons_of_isBreak b hc, writeSingle_cons b hplain, List.append_assoc,
        List.append_assoc] at h
      exact absurd h (break_cons_ne hc (head?_quoteChar hplain _))
    · have hplain : isBreak c = false := by simpa using hc
      rw [writeSingle_cons_of_isBreak b hd, writeSingle_cons b hplain, List.append_assoc,
        List.append_assoc] at h
      exact absurd h.symm (break_cons_ne hd (head?_quoteChar hplain _))
    · rw [writeSingle_cons b (by simpa using hc), writeSingle_cons b (by simpa using hd)] at h
      simp only [List.append_assoc] at h
      obtain ⟨rfl, hrest⟩ := quoteChar_append_inj (List.append_cancel_left h)
      obtain ⟨rfl, hends⟩ := writeSingle_append_inj hr hq hrest
      exact ⟨rfl, hends⟩

/-! ## Literal blocks -/

theorem writeLiteral_cons_of_isBreak (b : Bool) {c : Char} (h : isBreak c = true)
    (cs : List Char) : writeLiteral b (c :: cs) = c :: writeLiteral true cs := by
  rw [writeLiteral, if_pos h]

theorem writeLiteral_cons (b : Bool) {c : Char} (h : isBreak c = false) (cs : List Char) :
    writeLiteral b (c :: cs) = (if b then indent else []) ++ c :: writeLiteral false cs := by
  rw [writeLiteral, if_neg (by simp [h])]

theorem writeLiteral_eq_nil_iff {b : Bool} {cs : List Char} : writeLiteral b cs = [] ↔ cs = [] := by
  cases cs with
  | nil => simp [writeLiteral]
  | cons c cs =>
    rw [writeLiteral]
    split_ifs <;> simp

theorem writeLiteral_inj : ∀ {b : Bool} {cs ds : List Char},
    writeLiteral b cs = writeLiteral b ds → cs = ds
  | _, [], _, h => (writeLiteral_eq_nil_iff.1 h.symm).symm
  | _, _ :: _, [], h => writeLiteral_eq_nil_iff.1 h
  | b, c :: cs, d :: ds, h => by
    by_cases hc : isBreak c = true <;> by_cases hd : isBreak d = true
    · rw [writeLiteral_cons_of_isBreak b hc, writeLiteral_cons_of_isBreak b hd] at h
      obtain ⟨rfl, hrest⟩ := List.cons.inj h
      rw [writeLiteral_inj hrest]
    · rw [writeLiteral_cons_of_isBreak b hc, writeLiteral_cons b (by simpa using hd)] at h
      exact absurd h (break_cons_ne hc (by rintro _ ⟨⟩; simpa using hd))
    · rw [writeLiteral_cons_of_isBreak b hd, writeLiteral_cons b (by simpa using hc)] at h
      exact absurd h.symm (break_cons_ne hd (by rintro _ ⟨⟩; simpa using hc))
    · rw [writeLiteral_cons b (by simpa using hc), writeLiteral_cons b (by simpa using hd)] at h
      obtain ⟨rfl, hrest⟩ := List.cons.inj (List.append_cancel_left h)
      rw [writeLiteral_inj hrest]

end NoteForms.Yaml
