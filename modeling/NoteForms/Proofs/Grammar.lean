import Mathlib.Data.List.Perm.Subperm
import NoteForms.Proofs.Basics
import NoteForms.Proofs.Blanks

/-!
# What the reader of templates accepts

The grammar of a source is a family of relations between the characters at a place and those left
behind what stands there.  Blanks may be passed in more than one way, but a name is always as long
as it can be, and each kind of tag is decided by its first two or three characters, so a source has
at most one reading (`Reads.unique`).  The reader finds it if there is one
(`exists_reads_of_readSegments`, `exists_readSegments_of_reads`), and its template is the reading
with neighbouring characters put together.
-/

namespace NoteForms

theorem Transform.ofName?_name (t : Transform) : Transform.ofName? t.name = some t := by
  cases t <;> decide

theorem Transform.name_of_ofName? {name : String} {t : Transform}
    (h : Transform.ofName? name = some t) : t.name = name := by
  simpa using List.find?_some h

namespace Template

open Text

/-! ## The grammar -/

/-- Any number of blanks stands before what is left. -/
def Blanks (cs rest : List Char) : Prop := ∃ blanks, (∀ c ∈ blanks, isBlank c) ∧ cs = blanks ++ rest

/-- One character of a name or more, and no others. -/
structure IsName (name : String) : Prop where
  ne_empty : name ≠ ""
  chars : ∀ c ∈ name.toList, isNameChar c

/-- A name stands before what is left, and goes as far as it can. -/
structure NameAt (name : String) (cs rest : List Char) : Prop extends IsName name where
  eq_append : cs = name.toList ++ rest
  maximal : NoNameChar rest

/-- A variable stands here. -/
inductive VariableAt : List Char → String → Option Transform → List Char → Prop
  | plain {cs a b rest : List Char} {name : String} (ha : Blanks cs a) (hn : NameAt name a b)
      (hb : Blanks b ('}' :: '}' :: rest)) : VariableAt ('{' :: '{' :: cs) name none rest
  | changed {cs a b c d e rest : List Char} {name : String} {t : Transform} (ha : Blanks cs a)
      (hn : NameAt name a b) (hb : Blanks b ('|' :: c)) (hc : Blanks c d)
      (ht : NameAt t.name d e) (he : Blanks e ('}' :: '}' :: rest)) :
      VariableAt ('{' :: '{' :: cs) name (some t) rest

/-- Names with commas between them stand here, each with any blanks before it. -/
inductive NamesAt : List Char → List String → List Char → Prop
  | last {cs a rest : List Char} {name : String} (ha : Blanks cs a) (hn : NameAt name a rest) :
      NamesAt cs [name] rest
  | more {cs a b c rest : List Char} {name : String} {names : List String} (ha : Blanks cs a)
      (hn : NameAt name a b) (hb : Blanks b (',' :: c)) (hc : NamesAt c names rest) :
      NamesAt cs (name :: names) rest

/-- The clauses of a command. -/
inductive Clause
  | picked
  | omitted
  deriving DecidableEq

/-- The label of a clause. -/
def Clause.label : Clause → String
  | .picked => "pick"
  | .omitted => "omit"

/-- Any number of clauses and the end of a command stand here. -/
inductive ClausesAt : List Char → List (Clause × List String) → List Char → Prop
  | close {cs rest : List Char} (h : Blanks cs ('#' :: '}' :: rest)) : ClausesAt cs [] rest
  | clause {cs a b c d rest : List Char} {kind : Clause} {names : List String}
      {clauses : List (Clause × List String)} (ha : Blanks cs a) (hl : NameAt kind.label a b)
      (hb : Blanks b (':' :: c)) (hn : NamesAt c names d) (hd : ClausesAt d clauses rest) :
      ClausesAt cs ((kind, names) :: clauses) rest

/-- The names of a clause, none if the clause is absent. -/
def namesOf (kind : Clause) (clauses : List (Clause × List String)) : List String :=
  (clauses.lookup kind).getD []

/-- A command stands here, with each clause at most once. -/
inductive CommandAt : List Char → List String → List String → List Char → Prop
  | mk {cs a b rest : List Char} {clauses : List (Clause × List String)} (ha : Blanks cs a)
      (hn : NameAt "frontmatter" a b) (hc : ClausesAt b clauses rest)
      (once : (clauses.map (·.1)).Nodup) :
      CommandAt ('{' :: '#' :: cs) (namesOf .picked clauses) (namesOf .omitted clauses) rest

/-- Where a variable must stand. -/
def OpensVariable (cs : List Char) : Prop := ['{', '{'] <+: cs

/-- Where a command must stand: a brace and a number sign, with white space or the word of the
command behind them. -/
def OpensCommand (cs : List Char) : Prop :=
  (∃ c, isBlank c ∧ ['{', '#', c] <+: cs) ∨ '{' :: '#' :: "frontmatter".toList <+: cs

/-- One step of a reading: a character of text, or a tag. -/
inductive Piece
  | char (c : Char)
  | variable (name : String) (transform : Option Transform)
  | command (picked omitted : List String)

/-- All characters are read, from left to right. -/
inductive Reads : List Char → List Piece → Prop
  | nil : Reads [] []
  | variableAt {cs rest : List Char} {name : String} {transform : Option Transform}
      {pieces : List Piece} (h : VariableAt cs name transform rest) (hr : Reads rest pieces) :
      Reads cs (.variable name transform :: pieces)
  | commandAt {cs rest : List Char} {picked omitted : List String} {pieces : List Piece}
      (h : CommandAt cs picked omitted rest) (hr : Reads rest pieces) :
      Reads cs (.command picked omitted :: pieces)
  | charAt {c : Char} {cs : List Char} {pieces : List Piece} (hv : ¬ OpensVariable (c :: cs))
      (hc : ¬ OpensCommand (c :: cs)) (hr : Reads cs pieces) : Reads (c :: cs) (.char c :: pieces)

/-- A template with one more character in front, put to the text that it begins with if it does. -/
def addFront (c : Char) : Template → Template
  | .text value :: segments => .text (String.ofList (c :: value.toList)) :: segments
  | segments => .text (String.ofList [c]) :: segments

/-- The segments of a reading, with neighbouring characters put together. -/
def merge : List Piece → Template
  | [] => []
  | .char c :: pieces => addFront c (merge pieces)
  | .variable name transform :: pieces => .variable name transform :: merge pieces
  | .command picked omitted :: pieces => .frontmatter picked omitted :: merge pieces

/-! ## Blanks and names -/

theorem Blanks.refl (cs : List Char) : Blanks cs cs := ⟨[], by simp, rfl⟩

theorem Blanks.trans {a b c : List Char} (hab : Blanks a b) (hbc : Blanks b c) : Blanks a c := by
  obtain ⟨xs, hx, rfl⟩ := hab
  obtain ⟨ys, hy, rfl⟩ := hbc
  refine ⟨xs ++ ys, fun d hd => ?_, by simp⟩
  rcases List.mem_append.1 hd with h | h
  · exact hx d h
  · exact hy d h

theorem blanks_dropBlanks (cs : List Char) : Blanks cs (dropBlanks cs) :=
  exists_append_dropBlanks cs

/-- Whatever blanks the grammar passes over, the reader passes over just as many, unless more
follow. -/
theorem Blanks.dropBlanks_eq {cs rest : List Char} (h : Blanks cs rest) (hr : NoBlank rest) :
    dropBlanks cs = rest := by
  obtain ⟨blanks, hb, rfl⟩ := h
  exact dropBlanks_append hb hr

theorem Blanks.length_le {cs rest : List Char} (h : Blanks cs rest) : rest.length ≤ cs.length := by
  obtain ⟨blanks, -, rfl⟩ := h
  simp

theorem NameAt.noBlank {name : String} {cs rest : List Char} (h : NameAt name cs rest) :
    NoBlank cs := by
  have hne : name.toList ≠ [] := mt String.toList_eq_nil_iff.1 h.ne_empty
  obtain ⟨c, cs', hc⟩ := List.exists_cons_of_ne_nil hne
  have hname := h.chars c (by rw [hc]; exact List.mem_cons_self)
  rw [h.eq_append, hc]
  exact noBlank_cons.2 (isBlank_of_isNameChar hname)

theorem NameAt.take_drop {name : String} {cs rest : List Char} (h : NameAt name cs rest) :
    takeName cs = name.toList ∧ dropName cs = rest := by
  rw [h.eq_append]
  exact takeName_append h.chars h.maximal

theorem NameAt.length_lt {name : String} {cs rest : List Char} (h : NameAt name cs rest) :
    rest.length < cs.length := by
  have hne : name.toList ≠ [] := mt String.toList_eq_nil_iff.1 h.ne_empty
  have := List.length_pos_iff.2 hne
  rw [h.eq_append, List.length_append]
  omega

/-- What the reader takes for a name is one. -/
theorem nameAt_takeName (cs : List Char) (h : (takeName cs).isEmpty = false) :
    NameAt (String.ofList (takeName cs)) cs (dropName cs) where
  ne_empty := fun h0 => by
    have := String.toList_inj.2 h0
    rw [String.toList_ofList] at this
    rw [this] at h
    cases h
  chars := fun c hc => by
    rw [String.toList_ofList] at hc
    exact isNameChar_of_mem_takeName hc
  eq_append := by rw [String.toList_ofList, takeName_append_dropName]
  maximal := noNameChar_dropName cs

theorem NameAt.isEmpty_toList {name : String} {cs rest : List Char} (h : NameAt name cs rest) :
    name.toList.isEmpty = false :=
  List.isEmpty_eq_false_iff.2 (mt String.toList_eq_nil_iff.1 h.ne_empty)

/-! ## Variables -/

theorem noBlank_brace (cs : List Char) : NoBlank ('}' :: cs) := noBlank_cons.2 (by decide)

theorem noBlank_sign (cs : List Char) : NoBlank ('#' :: cs) := noBlank_cons.2 (by decide)

theorem noBlank_bar (cs : List Char) : NoBlank ('|' :: cs) := noBlank_cons.2 (by decide)

theorem noBlank_comma (cs : List Char) : NoBlank (',' :: cs) := noBlank_cons.2 (by decide)

theorem noBlank_colon (cs : List Char) : NoBlank (':' :: cs) := noBlank_cons.2 (by decide)

theorem readVariableEnd_eq_ok_iff {opening cs rest : List Char} {name : String}
    {transform : Option Transform} {s : Segment} :
    readVariableEnd opening name transform cs = .ok (s, rest)
      ↔ s = .variable name transform ∧ cs = '}' :: '}' :: rest := by
  unfold readVariableEnd
  split
  · simp only [Except.ok.injEq, Prod.mk.injEq, List.cons.injEq, true_and]
    exact ⟨fun ⟨h1, h2⟩ => ⟨h1.symm, h2⟩, fun ⟨h1, h2⟩ => ⟨h1.symm, h2⟩⟩
  · simp [fault]
  · rename_i hne _
    simp only [fault, reduceCtorEq, false_iff, not_and]
    rintro - rfl
    exact hne rest rfl

theorem readTransform_eq_ok_iff {opening cs rest : List Char} {name : String} {s : Segment} :
    readTransform opening name cs = .ok (s, rest)
      ↔ ∃ t d e, Blanks cs d ∧ NameAt (Transform.name t) d e ∧ Blanks e ('}' :: '}' :: rest)
          ∧ s = .variable name (some t) := by
  unfold readTransform
  constructor
  · intro h
    simp only at h
    split at h
    · simp [fault] at h
    · rename_i hne
      split at h
      · simp [fault] at h
      · rename_i t ht
        obtain ⟨hs, hend⟩ := readVariableEnd_eq_ok_iff.1 h
        refine ⟨t, _, _, blanks_dropBlanks cs, ?_, hend ▸ blanks_dropBlanks _, hs⟩
        rw [Transform.name_of_ofName? ht]
        exact nameAt_takeName _ (by simpa using hne)
  · rintro ⟨t, d, e, hd, ht, he, rfl⟩
    simp only [hd.dropBlanks_eq ht.noBlank, ht.take_drop, ht.isEmpty_toList, String.ofList_toList,
      Transform.ofName?_name, Bool.false_eq_true, if_false]
    exact readVariableEnd_eq_ok_iff.2 ⟨rfl, he.dropBlanks_eq (noBlank_brace _)⟩

/-- The reader reads a variable where one stands, and nowhere else. -/
theorem readVariable_eq_ok_iff {opening cs rest : List Char} {s : Segment} :
    readVariable opening cs = .ok (s, rest)
      ↔ ∃ name transform, s = .variable name transform
          ∧ VariableAt ('{' :: '{' :: cs) name transform rest := by
  unfold readVariable
  constructor
  · intro h
    simp only at h
    split at h
    · split at h <;> simp [fault] at h
    · rename_i hne
      have hname := nameAt_takeName (dropBlanks cs) (by simpa using hne)
      split at h
      · rename_i c hbar
        obtain ⟨t, d, e, hd, ht, he, rfl⟩ := readTransform_eq_ok_iff.1 h
        have hbehind := hbar ▸ blanks_dropBlanks (dropName (dropBlanks cs))
        exact ⟨_, _, rfl, .changed (blanks_dropBlanks cs) hname hbehind hd ht he⟩
      · obtain ⟨rfl, hend⟩ := readVariableEnd_eq_ok_iff.1 h
        exact ⟨_, _, rfl, .plain (blanks_dropBlanks cs) hname (hend ▸ blanks_dropBlanks _)⟩
  · rintro ⟨name, transform, rfl, h⟩
    cases h with
    | plain ha hn hb =>
      simp only [ha.dropBlanks_eq hn.noBlank, hn.take_drop, hn.isEmpty_toList,
        hb.dropBlanks_eq (noBlank_brace _), String.ofList_toList, Bool.false_eq_true, if_false]
      exact readVariableEnd_eq_ok_iff.2 ⟨rfl, rfl⟩
    | changed ha hn hb hc ht he =>
      simp only [ha.dropBlanks_eq hn.noBlank, hn.take_drop, hn.isEmpty_toList,
        hb.dropBlanks_eq (noBlank_bar _), String.ofList_toList, Bool.false_eq_true, if_false]
      exact readTransform_eq_ok_iff.2 ⟨_, _, _, hc, ht, he, rfl⟩

/-! ## Commands -/

theorem NameAt.exists_cons {name : String} {cs rest : List Char} (h : NameAt name cs rest) :
    ∃ c tail, cs = c :: tail ∧ isNameChar c = true := by
  obtain ⟨c, tail, hc⟩ := List.exists_cons_of_ne_nil (mt String.toList_eq_nil_iff.1 h.ne_empty)
  refine ⟨c, tail ++ rest, by rw [h.eq_append, hc, List.cons_append], h.chars c ?_⟩
  rw [hc]
  exact List.mem_cons_self

theorem NamesAt.length_le {cs rest : List Char} {names : List String} (h : NamesAt cs names rest) :
    names.length + rest.length ≤ cs.length := by
  induction h with
  | last ha hn =>
    have := ha.length_le
    have := hn.length_lt
    simp only [List.length_cons, List.length_nil]
    omega
  | more ha hn hb hc ih =>
    have := ha.length_le
    have := hn.length_lt
    have := hb.length_le
    simp only [List.length_cons] at this ⊢
    omega

theorem names_of_readNames : ∀ {fuel : ℕ} {cs rest : List Char} {names : List String},
    readNames fuel cs = .ok (names, rest) → ∃ mid, NamesAt cs names mid ∧ Blanks mid rest
  | 0, cs, rest, names, h => by simp [readNames, fault] at h
  | fuel + 1, cs, rest, names, h => by
    simp only [readNames] at h
    split at h
    · simp [fault] at h
    · rename_i hne
      have hname := nameAt_takeName (dropBlanks cs) (by simpa using hne)
      split at h
      · rename_i c hcomma
        split at h
        · rename_i names' rest' hr
          simp only [Except.ok.injEq, Prod.mk.injEq] at h
          obtain ⟨rfl, rfl⟩ := h
          obtain ⟨mid, hnames, hmid⟩ := names_of_readNames hr
          have hbehind := hcomma ▸ blanks_dropBlanks (dropName (dropBlanks cs))
          exact ⟨mid, .more (blanks_dropBlanks cs) hname hbehind hnames, hmid⟩
        · cases h
      · simp only [Except.ok.injEq, Prod.mk.injEq] at h
        obtain ⟨rfl, rfl⟩ := h
        exact ⟨_, .last (blanks_dropBlanks cs) hname, blanks_dropBlanks _⟩

/-- The reader takes all names of a list, if no comma follows them. -/
theorem readNames_of_names {cs mid : List Char} {names : List String} (h : NamesAt cs names mid)
    (hmid : ∀ tail, dropBlanks mid ≠ ',' :: tail) {fuel : ℕ} (hfuel : names.length ≤ fuel) :
    readNames fuel cs = .ok (names, dropBlanks mid) := by
  induction h generalizing fuel with
  | last ha hn =>
    obtain ⟨fuel, rfl⟩ : ∃ n, fuel = n + 1 := ⟨fuel - 1, by simp at hfuel; omega⟩
    simp only [readNames, ha.dropBlanks_eq hn.noBlank, hn.take_drop, hn.isEmpty_toList,
      Bool.false_eq_true, if_false, String.ofList_toList]
  | more ha hn hb hc ih =>
    obtain ⟨fuel, rfl⟩ : ∃ n, fuel = n + 1 := ⟨fuel - 1, by simp at hfuel; omega⟩
    simp only [readNames, ha.dropBlanks_eq hn.noBlank, hn.take_drop, hn.isEmpty_toList,
      Bool.false_eq_true, if_false, String.ofList_toList, hb.dropBlanks_eq (noBlank_comma _),
      ih hmid (Nat.le_of_succ_le_succ hfuel)]

theorem clause_of_readClause {cs rest : List Char} {names : List String}
    (h : readClause cs = .ok (names, rest)) :
    ∃ c mid, Blanks cs (':' :: c) ∧ NamesAt c names mid ∧ Blanks mid rest := by
  unfold readClause at h
  split at h
  · rename_i c hcolon
    obtain ⟨mid, hnames, hmid⟩ := names_of_readNames h
    exact ⟨c, mid, hcolon ▸ blanks_dropBlanks cs, hnames, hmid⟩
  · simp [fault] at h

theorem readClause_of_clause {cs c mid : List Char} {names : List String}
    (hcolon : Blanks cs (':' :: c)) (hnames : NamesAt c names mid)
    (hmid : ∀ tail, dropBlanks mid ≠ ',' :: tail) :
    readClause cs = .ok (names, dropBlanks mid) := by
  have := hnames.length_le
  simp only [readClause, hcolon.dropBlanks_eq (noBlank_colon _)]
  exact readNames_of_names hnames hmid (by omega)

/-- Blanks may be put before the clauses of a command and its end. -/
theorem ClausesAt.of_blanks {cs ds rest : List Char} {clauses : List (Clause × List String)}
    (hb : Blanks cs ds) (h : ClausesAt ds clauses rest) : ClausesAt cs clauses rest := by
  cases h with
  | close h => exact .close (hb.trans h)
  | clause ha hl hcolon hn hd => exact .clause (hb.trans ha) hl hcolon hn hd

/-- What a clause can be followed by is no comma. -/
theorem ClausesAt.dropBlanks_ne_comma {cs rest : List Char} {clauses : List (Clause × List String)}
    (h : ClausesAt cs clauses rest) (tail : List Char) : dropBlanks cs ≠ ',' :: tail := by
  intro hcomma
  cases h with
  | close h =>
    rw [h.dropBlanks_eq (noBlank_sign _)] at hcomma
    cases hcomma
  | clause ha hl hb hn hd =>
    obtain ⟨c, cs', rfl, hc⟩ := hl.exists_cons
    rw [ha.dropBlanks_eq hl.noBlank] at hcomma
    cases hcomma
    exact absurd hc (by decide)

/-- Blanks may be skipped before the clauses of a command and its end. -/
theorem ClausesAt.dropBlanks {cs rest : List Char} {clauses : List (Clause × List String)}
    (h : ClausesAt cs clauses rest) : ClausesAt (dropBlanks cs) clauses rest := by
  cases h with
  | close h =>
    rw [h.dropBlanks_eq (noBlank_sign _)]
    exact .close (.refl _)
  | clause ha hl hb hn hd =>
    rw [ha.dropBlanks_eq hl.noBlank]
    exact .clause (.refl _) hl hb hn hd

/-- The names that a clause has been given so far. -/
def given (picked omitted : Option (List String)) : Clause → Option (List String)
  | .picked => picked
  | .omitted => omitted

/-- What the clauses have been given once one more has been read. -/
def give (names : List String) (picked omitted : Option (List String)) :
    Clause → Option (List String) × Option (List String)
  | .picked => (some names, omitted)
  | .omitted => (picked, some names)

theorem given_give (names : List String) (picked omitted : Option (List String))
    (kind other : Clause) :
    given (give names picked omitted kind).1 (give names picked omitted kind).2 other
      = if other = kind then some names else given picked omitted other := by
  cases kind <;> cases other <;> rfl

theorem nameAt_label {cs : List Char} {kind : Clause}
    (h : String.ofList (takeName cs) = kind.label) : NameAt kind.label cs (dropName cs) := by
  rw [← h]
  refine nameAt_takeName _ (List.isEmpty_eq_false_iff.2 fun h0 => ?_)
  rw [h0] at h
  cases kind <;> exact absurd h (by decide)

/-- One step of reading clauses: the end of the command, or a clause that has not been given. -/
theorem readClauses_succ_eq_ok_iff {opening cs rest : List Char} {fuel : ℕ}
    {picked omitted : Option (List String)} {s : Segment} :
    readClauses opening (fuel + 1) picked omitted cs = .ok (s, rest) ↔
      (dropBlanks cs = '#' :: '}' :: rest ∧ s = .frontmatter (picked.getD []) (omitted.getD []))
        ∨ ∃ kind b names d, NameAt (Clause.label kind) (dropBlanks cs) b
          ∧ given picked omitted kind = none ∧ readClause b = .ok (names, d)
          ∧ readClauses opening fuel (give names picked omitted kind).1
              (give names picked omitted kind).2 d = .ok (s, rest) := by
  constructor
  · intro h
    simp only [readClauses] at h
    split at h
    · rename_i tail hend
      simp only [Except.ok.injEq, Prod.mk.injEq] at h
      exact .inl ⟨by rw [hend, h.2], h.1.symm⟩
    · simp [fault] at h
    · split_ifs at h with hpick hgiven homit hgiven hempty
      · simp [fault] at h
      · split at h
        · rename_i names d hclause
          exact .inr ⟨.picked, _, names, d, nameAt_label hpick,
            Option.not_isSome_iff_eq_none.1 hgiven, hclause, h⟩
        · cases h
      · simp [fault] at h
      · split at h
        · rename_i names d hclause
          exact .inr ⟨.omitted, _, names, d, nameAt_label homit,
            Option.not_isSome_iff_eq_none.1 hgiven, hclause, h⟩
        · cases h
      · simp [fault] at h
      · simp [fault] at h
  · rintro (⟨hend, rfl⟩ | ⟨kind, b, names, d, hl, hnone, hclause, h⟩)
    · simp only [readClauses, hend]
    · have hsign : ∀ tail, dropBlanks cs ≠ '#' :: '}' :: tail := by
        intro tail hend
        obtain ⟨c, cs', hc, hchar⟩ := hl.exists_cons
        rw [hc] at hend
        cases hend
        exact absurd hchar (by decide)
      have hnil : dropBlanks cs ≠ [] := by
        obtain ⟨c, cs', hc, -⟩ := hl.exists_cons
        simp [hc]
      simp only [readClauses, hl.take_drop, hclause]
      cases kind with
      | picked =>
        obtain rfl : picked = none := hnone
        simpa [Clause.label, give] using h
      | omitted =>
        obtain rfl : omitted = none := hnone
        simpa [Clause.label, give] using h

/-- The names of a clause, given so far or by the clauses that follow. -/
def allNames (picked omitted : Option (List String)) (clauses : List (Clause × List String))
    (kind : Clause) : List String :=
  ((given picked omitted kind).or (clauses.lookup kind)).getD []

theorem allNames_cons {picked omitted : Option (List String)} {kind : Clause}
    {names : List String} {clauses : List (Clause × List String)}
    (hnone : given picked omitted kind = none) :
    allNames picked omitted ((kind, names) :: clauses)
      = allNames (give names picked omitted kind).1 (give names picked omitted kind).2 clauses := by
  funext k
  rw [allNames, allNames, given_give, List.lookup_cons]
  by_cases hk : k = kind
  · subst hk
    simp [hnone]
  · simp [hk, beq_eq_false_iff_ne.2 hk]

/-- Over all, each clause is given at most once. -/
def Once (picked omitted : Option (List String)) (clauses : List (Clause × List String)) : Prop :=
  (clauses.map (·.1)).Nodup ∧ ∀ kind ∈ clauses.map (·.1), given picked omitted kind = none

theorem once_cons {picked omitted : Option (List String)} {names : List String} {kind : Clause}
    {clauses : List (Clause × List String)} :
    Once picked omitted ((kind, names) :: clauses) ↔ given picked omitted kind = none
      ∧ Once (give names picked omitted kind).1 (give names picked omitted kind).2 clauses := by
  simp only [Once, List.map_cons, List.nodup_cons, List.forall_mem_cons, given_give]
  constructor
  · rintro ⟨⟨hk, honce⟩, hnone, hfresh⟩
    refine ⟨hnone, honce, fun k hkm => ?_⟩
    rw [if_neg fun h : k = kind => hk (h ▸ hkm)]
    exact hfresh k hkm
  · rintro ⟨hnone, honce, hfresh⟩
    refine ⟨⟨fun hk => ?_, honce⟩, hnone, fun k hkm => ?_⟩
    · have := hfresh kind hk
      rw [if_pos rfl] at this
      cases this
    · have := hfresh k hkm
      split at this
      · cases this
      · exact this

theorem clauses_of_readClauses {opening : List Char} :
    ∀ {fuel : ℕ} {picked omitted : Option (List String)} {cs rest : List Char} {s : Segment},
      readClauses opening fuel picked omitted cs = .ok (s, rest) →
      ∃ clauses, ClausesAt cs clauses rest ∧ Once picked omitted clauses
        ∧ s = .frontmatter (allNames picked omitted clauses .picked)
            (allNames picked omitted clauses .omitted)
  | 0, picked, omitted, cs, rest, s, h => by simp [readClauses, fault] at h
  | fuel + 1, picked, omitted, cs, rest, s, h => by
    rcases readClauses_succ_eq_ok_iff.1 h with
      ⟨hend, rfl⟩ | ⟨kind, b, names, d, hl, hnone, hclause, hrest⟩
    · exact ⟨[], .close (hend ▸ blanks_dropBlanks cs), ⟨List.nodup_nil, by simp⟩,
        by simp [allNames, given]⟩
    · obtain ⟨c, mid, hcolon, hnames, hmid⟩ := clause_of_readClause hclause
      obtain ⟨clauses, hd, honce, rfl⟩ := clauses_of_readClauses hrest
      refine ⟨(kind, names) :: clauses, .clause (blanks_dropBlanks cs) hl hcolon hnames
        (hd.of_blanks hmid), once_cons.2 ⟨hnone, honce⟩, ?_⟩
      rw [allNames_cons hnone]

/-- The reader takes the clauses of a command and its end, each clause at most once. -/
theorem readClauses_of_clauses {opening : List Char} :
    ∀ {clauses : List (Clause × List String)} {fuel : ℕ} {picked omitted : Option (List String)}
      {cs rest : List Char}, ClausesAt cs clauses rest → Once picked omitted clauses →
      clauses.length < fuel →
      readClauses opening fuel picked omitted cs
        = .ok (.frontmatter (allNames picked omitted clauses .picked)
            (allNames picked omitted clauses .omitted), rest)
  | _, 0, _, _, _, _, _, _, hfuel => absurd hfuel (Nat.not_lt_zero _)
  | _, fuel + 1, picked, omitted, cs, rest, .close h, _, _ =>
    readClauses_succ_eq_ok_iff.2
      (.inl ⟨h.dropBlanks_eq (noBlank_sign _), by simp [allNames, given]⟩)
  | _, fuel + 1, picked, omitted, cs, rest,
      .clause ha hl hb hn hd, honce, hfuel => by
    obtain ⟨hnone, honce⟩ := once_cons.1 honce
    refine readClauses_succ_eq_ok_iff.2 (.inr ⟨_, _, _, _, ha.dropBlanks_eq hl.noBlank ▸ hl,
      hnone, readClause_of_clause hb hn hd.dropBlanks_ne_comma, ?_⟩)
    rw [readClauses_of_clauses hd.dropBlanks honce (Nat.lt_of_succ_lt_succ hfuel),
      allNames_cons hnone]

theorem length_lt_three {clauses : List (Clause × List String)}
    (once : (clauses.map (·.1)).Nodup) : clauses.length < 3 := by
  have hsub : clauses.map (·.1) ⊆ [Clause.picked, Clause.omitted] := fun kind _ => by
    cases kind <;> simp
  have := (List.subperm_of_subset once hsub).length_le
  rw [List.length_map] at this
  exact Nat.lt_succ_of_le this

theorem frontmatter_toList : "frontmatter".toList = commandWord := by decide

/-- The reader reads a command where one stands, and nowhere else. -/
theorem readCommand_eq_ok_iff {opening cs rest : List Char} {s : Segment} :
    readCommand opening cs = .ok (s, rest)
      ↔ ∃ picked omitted, s = .frontmatter picked omitted
          ∧ CommandAt ('{' :: '#' :: cs) picked omitted rest := by
  unfold readCommand
  constructor
  · intro h
    simp only at h
    split_ifs at h with hempty hword
    · simp [fault] at h
    · obtain ⟨clauses, hc, honce, rfl⟩ := clauses_of_readClauses h
      refine ⟨_, _, rfl, .mk (blanks_dropBlanks cs) ?_ hc honce.1⟩
      have hname := nameAt_takeName (dropBlanks cs) (by rw [hword]; rfl)
      rwa [hword, ← frontmatter_toList, String.ofList_toList] at hname
    · simp [fault] at h
  · rintro ⟨picked, omitted, rfl, h⟩
    cases h with
    | mk ha hn hc once =>
      obtain ⟨c, tail, hcons, -⟩ := hn.exists_cons
      have hone : Once none none _ := ⟨once, fun kind _ => by cases kind <;> rfl⟩
      simp only [ha.dropBlanks_eq hn.noBlank, hn.take_drop, frontmatter_toList,
        readClauses_of_clauses hc hone (length_lt_three once)]
      simp [hcons, allNames, given, namesOf]

/-! ## Readings -/

theorem VariableAt.length_lt {cs rest : List Char} {name : String} {transform : Option Transform}
    (h : VariableAt cs name transform rest) : rest.length < cs.length := by
  cases h with
  | plain ha hn hb =>
    have := ha.length_le
    have := hn.length_lt
    have := hb.length_le
    simp only [List.length_cons] at this ⊢
    omega
  | changed ha hn hb hc ht he =>
    have := ha.length_le
    have := hn.length_lt
    have := hb.length_le
    have := hc.length_le
    have := ht.length_lt
    have := he.length_le
    simp only [List.length_cons] at *
    omega

theorem ClausesAt.length_le {cs rest : List Char} {clauses : List (Clause × List String)}
    (h : ClausesAt cs clauses rest) : rest.length ≤ cs.length := by
  induction h with
  | close h =>
    have := h.length_le
    simp only [List.length_cons] at this
    omega
  | clause ha hl hb hn _ ih =>
    have := ha.length_le
    have := hl.length_lt
    have := hb.length_le
    have := hn.length_le
    simp only [List.length_cons] at *
    omega

theorem CommandAt.length_lt {cs rest : List Char} {picked omitted : List String}
    (h : CommandAt cs picked omitted rest) : rest.length < cs.length := by
  cases h with
  | mk ha hn hc _ =>
    have := ha.length_le
    have := hn.length_lt
    have := hc.length_le
    simp only [List.length_cons]
    omega

theorem VariableAt.opensVariable {cs rest : List Char} {name : String}
    {transform : Option Transform} (h : VariableAt cs name transform rest) : OpensVariable cs := by
  cases h with
  | plain => exact ⟨_, rfl⟩
  | changed => exact ⟨_, rfl⟩

theorem CommandAt.opensCommand {cs rest : List Char} {picked omitted : List String}
    (h : CommandAt cs picked omitted rest) : OpensCommand cs := by
  cases h with
  | mk ha hn _ _ =>
    obtain ⟨blanks, hb, rfl⟩ := ha
    cases blanks with
    | nil => exact .inr ⟨_, by rw [hn.eq_append]; rfl⟩
    | cons c blanks => exact .inl ⟨c, hb c List.mem_cons_self, _, rfl⟩

theorem OpensVariable.not_opensCommand {cs : List Char} (h : OpensVariable cs) :
    ¬ OpensCommand cs := by
  obtain ⟨rest, rfl⟩ := h
  rintro (⟨c, -, tail, h⟩ | ⟨tail, h⟩) <;> cases h

theorem opensCommand_iff {cs : List Char} : opensCommand cs = true ↔ OpensCommand cs := by
  unfold opensCommand
  split
  · rename_i tail
    split
    · simp [OpensCommand]
    · rename_i c tail
      rw [Bool.or_eq_true, List.isPrefixOf_iff_prefix, OpensCommand, frontmatter_toList]
      simp [List.cons_prefix_cons]
  · rename_i hne
    simp only [Bool.false_eq_true, false_iff]
    rintro (⟨c, -, tail, rfl⟩ | ⟨tail, rfl⟩) <;> exact hne _ rfl

theorem VariableAt.unique {cs rest rest' : List Char} {name name' : String}
    {transform transform' : Option Transform} (h : VariableAt cs name transform rest)
    (h' : VariableAt cs name' transform' rest') :
    name = name' ∧ transform = transform' ∧ rest = rest' := by
  obtain ⟨tail, rfl⟩ := h.opensVariable
  have hread : readVariable [] tail = .ok (.variable name transform, rest) :=
    readVariable_eq_ok_iff.2 ⟨_, _, rfl, h⟩
  have hread' : readVariable [] tail = .ok (.variable name' transform', rest') :=
    readVariable_eq_ok_iff.2 ⟨_, _, rfl, h'⟩
  rw [hread'] at hread
  cases hread
  exact ⟨rfl, rfl, rfl⟩

theorem CommandAt.unique {cs rest rest' : List Char} {picked picked' omitted omitted' : List String}
    (h : CommandAt cs picked omitted rest) (h' : CommandAt cs picked' omitted' rest') :
    picked = picked' ∧ omitted = omitted' ∧ rest = rest' := by
  obtain ⟨tail, rfl⟩ : ['{', '#'] <+: cs := by cases h; exact ⟨_, rfl⟩
  have hread : readCommand [] tail = .ok (.frontmatter picked omitted, rest) :=
    readCommand_eq_ok_iff.2 ⟨_, _, rfl, h⟩
  have hread' : readCommand [] tail = .ok (.frontmatter picked' omitted', rest') :=
    readCommand_eq_ok_iff.2 ⟨_, _, rfl, h'⟩
  rw [hread'] at hread
  cases hread
  exact ⟨rfl, rfl, rfl⟩

/-- Two readings of one source are the same. -/
theorem Reads.unique {cs : List Char} {pieces others : List Piece} (h : Reads cs pieces)
    (ho : Reads cs others) : pieces = others := by
  induction h generalizing others with
  | nil =>
    cases ho with
    | nil => rfl
    | variableAt h _ => cases h
    | commandAt h _ => cases h
  | variableAt h hr ih =>
    cases ho with
    | nil => cases h
    | variableAt h' hr' =>
      obtain ⟨rfl, rfl, rfl⟩ := h.unique h'
      rw [ih hr']
    | commandAt h' hr' => exact absurd h'.opensCommand h.opensVariable.not_opensCommand
    | charAt hv hc hr' => exact absurd h.opensVariable hv
  | commandAt h hr ih =>
    cases ho with
    | nil => cases h
    | variableAt h' hr' => exact absurd h.opensCommand h'.opensVariable.not_opensCommand
    | commandAt h' hr' =>
      obtain ⟨rfl, rfl, rfl⟩ := h.unique h'
      rw [ih hr']
    | charAt hv hc hr' => exact absurd h.opensCommand hc
  | charAt hv hc hr ih =>
    cases ho with
    | variableAt h' hr' => exact absurd h'.opensVariable hv
    | commandAt h' hr' => exact absurd h'.opensCommand hc
    | charAt hv' hc' hr' => rw [ih hr']

/-! ## The reader -/

/-- A template that does not begin with a text. -/
def NoTextFirst (t : Template) : Prop := ∀ value tail, t ≠ .text value :: tail

/-- A tail that stands for a template; what is behind its front does not begin with a text. -/
def StandsFor (tail : Tail) (t : Template) : Prop := tail.close = t ∧ NoTextFirst tail.segments

theorem addFront_of_noTextFirst {c : Char} {t : Template} (h : NoTextFirst t) :
    addFront c t = .text (String.ofList [c]) :: t := by
  unfold addFront
  split
  · rename_i value segments
    exact absurd rfl (h value segments)
  · rfl

theorem StandsFor.addChar {tail : Tail} {t : Template} (h : StandsFor tail t) (c : Char) :
    StandsFor (tail.addChar c) (addFront c t) := by
  obtain ⟨rfl, hfirst⟩ := h
  refine ⟨?_, hfirst⟩
  obtain ⟨front, segments⟩ := tail
  cases front with
  | nil => exact (addFront_of_noTextFirst hfirst).symm
  | cons d front => simp [Tail.close, Tail.addChar, addFront]

theorem standsFor_addSegment {tail : Tail} {t : Template} (h : StandsFor tail t) {s : Segment}
    (hs : ∀ value, s ≠ .text value) : StandsFor (tail.addSegment s) (s :: t) := by
  obtain ⟨rfl, -⟩ := h
  refine ⟨rfl, fun value segments h => ?_⟩
  exact hs value (List.cons.inj h).1

theorem OpensCommand.exists_eq {cs : List Char} (h : OpensCommand cs) :
    ∃ tail, cs = '{' :: '#' :: tail := by
  rcases h with ⟨c, -, tail, rfl⟩ | ⟨tail, rfl⟩ <;> exact ⟨_, rfl⟩

/-- One step at a variable. -/
theorem readSegments_variable_eq_ok_iff {fuel : ℕ} {cs : List Char} {tail : Tail} :
    readSegments (fuel + 1) ('{' :: '{' :: cs) = .ok tail ↔ ∃ name transform rest next,
      VariableAt ('{' :: '{' :: cs) name transform rest ∧ readSegments fuel rest = .ok next
        ∧ next.addSegment (.variable name transform) = tail := by
  rw [readSegments]
  constructor
  · intro h
    split at h
    · rename_i s rest hv
      obtain ⟨name, transform, rfl, hat⟩ := readVariable_eq_ok_iff.1 hv
      obtain ⟨next, hr, rfl⟩ := map_eq_ok_iff.1 h
      exact ⟨name, transform, rest, next, hat, hr, rfl⟩
    · cases h
  · rintro ⟨name, transform, rest, next, hat, hr, rfl⟩
    rw [readVariable_eq_ok_iff.2 ⟨_, _, rfl, hat⟩]
    exact map_eq_ok_iff.2 ⟨next, hr, rfl⟩

/-- One step at a command. -/
theorem readSegments_command_eq_ok_iff {fuel : ℕ} {cs : List Char} {tail : Tail}
    (ho : OpensCommand ('{' :: '#' :: cs)) :
    readSegments (fuel + 1) ('{' :: '#' :: cs) = .ok tail ↔ ∃ picked omitted rest next,
      CommandAt ('{' :: '#' :: cs) picked omitted rest ∧ readSegments fuel rest = .ok next
        ∧ next.addSegment (.frontmatter picked omitted) = tail := by
  rw [readSegments, if_pos (opensCommand_iff.2 ho), List.drop_one, List.tail_cons]
  · constructor
    · intro h
      split at h
      · rename_i s rest hc
        obtain ⟨picked, omitted, rfl, hat⟩ := readCommand_eq_ok_iff.1 hc
        obtain ⟨next, hr, rfl⟩ := map_eq_ok_iff.1 h
        exact ⟨picked, omitted, rest, next, hat, hr, rfl⟩
      · cases h
    · rintro ⟨picked, omitted, rest, next, hat, hr, rfl⟩
      rw [readCommand_eq_ok_iff.2 ⟨_, _, rfl, hat⟩]
      exact map_eq_ok_iff.2 ⟨next, hr, rfl⟩
  · rintro tail - h
    cases h

/-- One step at any other place. -/
theorem readSegments_char_eq_ok_iff {fuel : ℕ} {c : Char} {cs : List Char} {tail : Tail}
    (hv : ¬ OpensVariable (c :: cs)) (hc : ¬ OpensCommand (c :: cs)) :
    readSegments (fuel + 1) (c :: cs) = .ok tail
      ↔ ∃ next, readSegments fuel cs = .ok next ∧ next.addChar c = tail := by
  rw [readSegments, if_neg (mt opensCommand_iff.1 hc)]
  · exact map_eq_ok_iff
  · rintro rest rfl rfl
    exact hv ⟨rest, rfl⟩

/-- A source that the reader accepts has a reading, for which the result stands. -/
theorem exists_reads_of_readSegments : ∀ {fuel : ℕ} {cs : List Char} {tail : Tail},
    readSegments fuel cs = .ok tail → ∃ pieces, Reads cs pieces ∧ StandsFor tail (merge pieces)
  | fuel, [], tail, h => by
    rw [readSegments, Except.ok.injEq] at h
    subst h
    exact ⟨[], .nil, rfl, by simp [NoTextFirst, Tail.ofSegments]⟩
  | 0, c :: cs, tail, h => by simp [readSegments, fault] at h
  | fuel + 1, c :: cs, tail, h => by
    by_cases hv : OpensVariable (c :: cs)
    · obtain ⟨cs', hcs⟩ := hv
      rw [← hcs] at h ⊢
      obtain ⟨name, transform, rest, next, hat, hr, rfl⟩ := readSegments_variable_eq_ok_iff.1 h
      obtain ⟨pieces, hreads, hstands⟩ := exists_reads_of_readSegments hr
      exact ⟨_, .variableAt hat hreads, standsFor_addSegment hstands (by simp)⟩
    · by_cases hc : OpensCommand (c :: cs)
      · obtain ⟨cs', hcs⟩ := hc.exists_eq
        rw [hcs] at h hc ⊢
        obtain ⟨picked, omitted, rest, next, hat, hr, rfl⟩ :=
          (readSegments_command_eq_ok_iff hc).1 h
        obtain ⟨pieces, hreads, hstands⟩ := exists_reads_of_readSegments hr
        exact ⟨_, .commandAt hat hreads, standsFor_addSegment hstands (by simp)⟩
      · obtain ⟨next, hr, rfl⟩ := (readSegments_char_eq_ok_iff hv hc).1 h
        obtain ⟨pieces, hreads, hstands⟩ := exists_reads_of_readSegments hr
        exact ⟨_, .charAt hv hc hreads, hstands.addChar c⟩

/-- A source that has a reading is accepted. -/
theorem exists_readSegments_of_reads {cs : List Char} {pieces : List Piece} (h : Reads cs pieces) :
    ∀ fuel : ℕ, cs.length ≤ fuel → ∃ tail, readSegments fuel cs = .ok tail := by
  induction h with
  | nil => exact fun _ _ => ⟨_, by rw [readSegments]⟩
  | variableAt h hr ih =>
    intro fuel hfuel
    have := h.length_lt
    obtain ⟨fuel, rfl⟩ : ∃ n, fuel = n + 1 := ⟨fuel - 1, by omega⟩
    obtain ⟨next, hnext⟩ := ih fuel (by omega)
    obtain ⟨cs', rfl⟩ := h.opensVariable
    exact ⟨_, readSegments_variable_eq_ok_iff.2 ⟨_, _, _, next, h, hnext, rfl⟩⟩
  | commandAt h hr ih =>
    intro fuel hfuel
    have := h.length_lt
    obtain ⟨fuel, rfl⟩ : ∃ n, fuel = n + 1 := ⟨fuel - 1, by omega⟩
    obtain ⟨next, hnext⟩ := ih fuel (by omega)
    obtain ⟨cs', rfl⟩ := h.opensCommand.exists_eq
    exact ⟨_, (readSegments_command_eq_ok_iff h.opensCommand).2 ⟨_, _, _, next, h, hnext, rfl⟩⟩
  | charAt hv hc hr ih =>
    intro fuel hfuel
    obtain ⟨fuel, rfl⟩ : ∃ n, fuel = n + 1 := ⟨fuel - 1, by simp at hfuel; omega⟩
    obtain ⟨next, hnext⟩ := ih fuel (by simpa using hfuel)
    exact ⟨_, (readSegments_char_eq_ok_iff hv hc).2 ⟨next, hnext, rfl⟩⟩

/-- The reader accepts the sources that have a reading, and gives its segments. -/
theorem readChars_eq_ok_iff {source : List Char} {t : Template} :
    readChars source = .ok t ↔ ∃ pieces, Reads source pieces ∧ merge pieces = t := by
  rw [readChars, map_eq_ok_iff]
  constructor
  · rintro ⟨tail, h, rfl⟩
    obtain ⟨pieces, hreads, hclose, -⟩ := exists_reads_of_readSegments h
    exact ⟨pieces, hreads, hclose.symm⟩
  · rintro ⟨pieces, hreads, rfl⟩
    obtain ⟨tail, h⟩ := exists_readSegments_of_reads hreads _ le_rfl
    obtain ⟨others, hreads', hclose, -⟩ := exists_reads_of_readSegments h
    exact ⟨tail, h, by rw [hclose, hreads.unique hreads']⟩

theorem parse_eq_ok_iff_readChars {source : String} {t : Template} :
    parse source = .ok t ↔ readChars source.toList = .ok t := by
  unfold parse
  split
  · rename_i t' h
    simp [h]
  · rename_i f h
    simp [h]

/-- A source is read to a template exactly if the grammar has a reading of all of it with these
segments, and to an error exactly if the grammar has none; it never has two. -/
theorem parse_eq_ok_iff_reads (source : String) :
    (∀ t, parse source = .ok t ↔ ∃ pieces, Reads source.toList pieces ∧ merge pieces = t)
      ∧ ((∃ e, parse source = .error e) ↔ ¬ ∃ pieces, Reads source.toList pieces)
      ∧ ∀ pieces others, Reads source.toList pieces → Reads source.toList others →
          pieces = others := by
  have hok : ∀ t, parse source = .ok t ↔ ∃ pieces, Reads source.toList pieces ∧ merge pieces = t :=
    fun t => parse_eq_ok_iff_readChars.trans readChars_eq_ok_iff
  refine ⟨hok, ⟨?_, fun h => ?_⟩, fun _ _ => Reads.unique⟩
  · rintro ⟨e, he⟩ ⟨pieces, hreads⟩
    rw [(hok _).2 ⟨pieces, hreads, rfl⟩] at he
    cases he
  · cases hp : parse source with
    | error e => exact ⟨e, rfl⟩
    | ok t =>
      obtain ⟨pieces, hreads, -⟩ := (hok t).1 hp
      exact absurd ⟨pieces, hreads⟩ h

/-- A variable has one name: with two there is no reading. -/
theorem parse_eq_ok_iff_reads_two_names :
    (∃ pieces, Reads "{{ a }}".toList pieces ∧ merge pieces = [.variable "a" none])
      ∧ ¬ ∃ pieces, Reads "{{ a b }}".toList pieces := by
  have hone : parse "{{ a }}" = .ok [.variable "a" none] := by rfl
  have htwo : ∃ e, parse "{{ a b }}" = .error e := ⟨_, by rfl⟩
  exact ⟨((parse_eq_ok_iff_reads _).1 _).1 hone, (parse_eq_ok_iff_reads _).2.1.1 htwo⟩

end Template

end NoteForms
