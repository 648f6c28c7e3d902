import Mathlib.Data.String.Basic
import Mathlib.Logic.Relation
import NoteForms.Proofs.Canonical

/-!
# Where the source of a template goes wrong

A source without a reading is read up to a place where a tag must stand and none does, and what the
reader says is what it finds wrong with that tag (`readSegments_eq_error_iff`).  Faults are found at
places of the tag, and one that says that the tag does not end is found where it opens
(`TagFault.within`).  What is read before that place stays as it is when the source is cut off there
(`Reaches.exists_reads`), because no tag depends on what follows it (`VariableAt.closes`,
`CommandAt.closes`).
-/

namespace NoteForms

theorem map_eq_error_iff {α β ε : Type} {f : α → β} {x : Except ε α} {e : ε} :
    x.map f = .error e ↔ x = .error e := by
  cases x <;> simp [Except.map]

namespace Text

theorem foldl_utf8Size (cs : List Char) (n : Nat) :
    cs.foldl (fun n c => n + c.utf8Size) n = n + String.utf8Len cs := by
  induction cs generalizing n with
  | nil => rfl
  | cons c cs ih =>
    rw [List.foldl_cons, ih, String.utf8Len_cons]
    omega

theorem utf8Length_eq (cs : List Char) : utf8Length cs = (String.ofList cs).utf8ByteSize := by
  rw [utf8Length, foldl_utf8Size, String.utf8ByteSize_ofList, Nat.zero_add]

end Text

namespace Template

open Text

/-! ## Faults of one tag -/

/-- Whether a problem is that a tag does not end. -/
def Problem.isUnterminated : Problem → Bool
  | .unterminatedVariable | .unterminatedCommand => true
  | _ => false

/-- A fault is found at a place of what opened somewhere, and there if that does not end. -/
structure Within (opening : List Char) (f : Fault) : Prop where
  isSuffix : f.rest <:+ opening
  unterminated : f.problem.isUnterminated = true → f.rest = opening

section

variable {α : Type} {opening cs rest : List Char} {f : Fault} {problem : Problem}

theorem within_opening (h : (fault problem opening : Except Fault α) = .error f) :
    Within opening f := by
  cases h
  exact ⟨List.suffix_refl _, fun _ => rfl⟩

theorem within_here (hp : problem.isUnterminated = false) (hs : rest <:+ opening)
    (h : (fault problem rest : Except Fault α) = .error f) : Within opening f := by
  cases h
  exact ⟨hs, fun hu => absurd (hp.symm.trans hu) Bool.false_ne_true⟩

theorem dropBlanks_isSuffix (cs : List Char) : dropBlanks cs <:+ cs := List.dropWhile_suffix _

theorem dropName_isSuffix (cs : List Char) : dropName cs <:+ cs := List.dropWhile_suffix _

/-- What stands behind a name and the blanks around it. -/
theorem behindName_isSuffix (cs : List Char) : dropBlanks (dropName (dropBlanks cs)) <:+ cs :=
  (dropBlanks_isSuffix _).trans ((dropName_isSuffix _).trans (dropBlanks_isSuffix _))

theorem within_readVariableEnd {name : String} {transform : Option Transform}
    (hcs : cs <:+ opening) (h : readVariableEnd opening name transform cs = .error f) :
    Within opening f := by
  unfold readVariableEnd at h
  split at h
  · cases h
  · exact within_opening h
  · exact within_here rfl hcs h

theorem within_readTransform {name : String} (hcs : cs <:+ opening)
    (h : readTransform opening name cs = .error f) : Within opening f := by
  simp only [readTransform] at h
  split at h
  · exact within_here rfl ((dropBlanks_isSuffix cs).trans hcs) h
  · split at h
    · exact within_here rfl ((dropBlanks_isSuffix cs).trans hcs) h
    · exact within_readVariableEnd ((behindName_isSuffix cs).trans hcs) h

theorem within_readVariable (hcs : cs <:+ opening) (h : readVariable opening cs = .error f) :
    Within opening f := by
  have hbehind := (behindName_isSuffix cs).trans hcs
  simp only [readVariable] at h
  split at h
  · split at h
    · exact within_opening h
    · exact within_here rfl ((dropBlanks_isSuffix cs).trans hcs) h
  · split at h
    · rename_i rest hbar
      rw [hbar] at hbehind
      exact within_readTransform ((List.suffix_cons _ _).trans hbehind) h
    · exact within_readVariableEnd hbehind h

theorem within_readNames : ∀ {fuel : ℕ} {cs : List Char}, cs <:+ opening →
    readNames fuel cs = .error f → Within opening f
  | 0, _, hcs, h => within_here rfl hcs h
  | fuel + 1, cs, hcs, h => by
    have hbehind := (behindName_isSuffix cs).trans hcs
    simp only [readNames] at h
    split at h
    · exact within_here rfl ((dropBlanks_isSuffix cs).trans hcs) h
    · split at h
      · rename_i rest hcomma
        rw [hcomma] at hbehind
        split at h
        · cases h
        · rename_i g hrest
          cases h
          exact within_readNames ((List.suffix_cons _ _).trans hbehind) hrest
      · cases h

theorem within_readClause (hcs : cs <:+ opening) (h : readClause cs = .error f) :
    Within opening f := by
  have hstart := (dropBlanks_isSuffix cs).trans hcs
  unfold readClause at h
  split at h
  · rename_i rest hcolon
    rw [hcolon] at hstart
    exact within_readNames ((List.suffix_cons _ _).trans hstart) h
  · exact within_here rfl hstart h

theorem Blanks.isSuffix (h : Blanks cs rest) : rest <:+ cs := by
  obtain ⟨blanks, -, rfl⟩ := h
  exact List.suffix_append _ _

theorem NameAt.isSuffix {name : String} (h : NameAt name cs rest) : rest <:+ cs :=
  ⟨name.toList, h.eq_append.symm⟩

theorem NamesAt.isSuffix {names : List String} (h : NamesAt cs names rest) : rest <:+ cs := by
  induction h with
  | last ha hn => exact hn.isSuffix.trans ha.isSuffix
  | more ha hn hb _ ih =>
    have hc := (List.suffix_cons _ _).trans (hb.isSuffix.trans (hn.isSuffix.trans ha.isSuffix))
    exact ih.trans hc

theorem readClause_isSuffix {names : List String} (h : readClause cs = .ok (names, rest)) :
    rest <:+ cs := by
  obtain ⟨c, mid, hcolon, hnames, hmid⟩ := clause_of_readClause h
  exact hmid.isSuffix.trans (hnames.isSuffix.trans
    ((List.suffix_cons _ _).trans hcolon.isSuffix))

theorem within_readClauses : ∀ {fuel : ℕ} {picked omitted : Option (List String)}
    {cs : List Char}, cs <:+ opening → readClauses opening fuel picked omitted cs = .error f →
      Within opening f
  | 0, _, _, _, hcs, h => within_here rfl hcs h
  | fuel + 1, picked, omitted, cs, hcs, h => by
    have hstart := (dropBlanks_isSuffix cs).trans hcs
    have hname := (dropName_isSuffix (dropBlanks cs)).trans hstart
    simp only [readClauses] at h
    split at h
    · cases h
    · exact within_opening h
    · split_ifs at h
      · exact within_here rfl hstart h
      · split at h
        · rename_i hclause
          exact within_readClauses ((readClause_isSuffix hclause).trans hname) h
        · rename_i hclause
          cases h
          exact within_readClause hname hclause
      · exact within_here rfl hstart h
      · split at h
        · rename_i hclause
          exact within_readClauses ((readClause_isSuffix hclause).trans hname) h
        · rename_i hclause
          cases h
          exact within_readClause hname hclause
      · exact within_here rfl hstart h
      · exact within_here rfl hstart h

theorem within_readCommand (hcs : cs <:+ opening) (h : readCommand opening cs = .error f) :
    Within opening f := by
  have hstart := (dropBlanks_isSuffix cs).trans hcs
  simp only [readCommand] at h
  split_ifs at h
  · exact within_opening h
  · exact within_readClauses ((dropName_isSuffix _).trans hstart) h
  · exact within_here rfl hstart h

end

/-! ## What a tag depends on -/

/-- What is taken stands before anything that begins in the same way. -/
def Takes (R : List Char → List Char → Prop) (cs rest : List Char) : Prop :=
  ∃ taken, cs = taken ++ rest ∧ ∀ other, other.head? = rest.head? → R (taken ++ other) other

/-- What is taken stands before anything at all. -/
def Closes (R : List Char → List Char → Prop) (cs rest : List Char) : Prop :=
  ∃ taken, taken ≠ [] ∧ cs = taken ++ rest ∧ ∀ other, R (taken ++ other) other

section

variable {R S T : List Char → List Char → Prop} {cs mid rest : List Char}

theorem head?_append_congr (taken : List Char) {other rest : List Char}
    (h : other.head? = rest.head?) : (taken ++ other).head? = (taken ++ rest).head? := by
  cases taken with
  | nil => exact h
  | cons c taken => rfl

theorem takes_char (c : Char) (cs : List Char) : Takes (fun x y => x = c :: y) (c :: cs) cs :=
  ⟨[c], rfl, fun _ _ => rfl⟩

theorem closes_char (c : Char) (cs : List Char) : Closes (fun x y => x = c :: y) (c :: cs) cs :=
  ⟨[c], List.cons_ne_nil _ _, rfl, fun _ => rfl⟩

theorem Takes.comp (hR : Takes R cs mid) (hS : Takes S mid rest) :
    Takes (Relation.Comp R S) cs rest := by
  obtain ⟨xs, rfl, hR⟩ := hR
  obtain ⟨ys, rfl, hS⟩ := hS
  refine ⟨xs ++ ys, (List.append_assoc _ _ _).symm, fun other ho => ⟨ys ++ other, ?_, hS other ho⟩⟩
  rw [List.append_assoc]
  exact hR _ (head?_append_congr ys ho)

theorem Takes.closes (hR : Takes R cs mid) (hS : Closes S mid rest) :
    Closes (Relation.Comp R S) cs rest := by
  obtain ⟨xs, rfl, hR⟩ := hR
  obtain ⟨ys, hne, rfl, hS⟩ := hS
  refine ⟨xs ++ ys, List.append_ne_nil_of_right_ne_nil _ hne, (List.append_assoc _ _ _).symm,
    fun other => ⟨ys ++ other, ?_, hS other⟩⟩
  rw [List.append_assoc]
  refine hR _ ?_
  rw [List.head?_append_of_ne_nil _ hne, List.head?_append_of_ne_nil _ hne]

theorem Takes.imp (hR : Takes R cs rest) (h : ∀ {x y}, R x y → T x y) : Takes T cs rest := by
  obtain ⟨taken, rfl, hR⟩ := hR
  exact ⟨taken, rfl, fun other ho => h (hR other ho)⟩

theorem Closes.imp (hR : Closes R cs rest) (h : ∀ {x y}, R x y → T x y) : Closes T cs rest := by
  obtain ⟨taken, hne, rfl, hR⟩ := hR
  exact ⟨taken, hne, rfl, fun other => h (hR other)⟩

theorem Blanks.takes (h : Blanks cs rest) : Takes Blanks cs rest := by
  obtain ⟨blanks, hb, rfl⟩ := h
  exact ⟨blanks, rfl, fun other _ => ⟨blanks, hb, rfl⟩⟩

theorem NameAt.takes {name : String} (h : NameAt name cs rest) : Takes (NameAt name) cs rest := by
  refine ⟨name.toList, h.eq_append, fun other ho => ⟨h.toIsName, rfl, ?_⟩⟩
  rw [NoNameChar, ho]
  exact h.maximal

theorem NamesAt.takes {names : List String} (h : NamesAt cs names rest) :
    Takes (NamesAt · names ·) cs rest := by
  induction h with
  | last ha hn => exact (ha.takes.comp hn.takes).imp fun ⟨_, ha, hn⟩ => .last ha hn
  | more ha hn hb _ ih =>
    refine (ha.takes.comp (hn.takes.comp (hb.takes.comp ((takes_char _ _).comp ih)))).imp ?_
    rintro x y ⟨_, ha, _, hn, _, hb, _, rfl, hc⟩
    exact .more ha hn hb hc

theorem ClausesAt.closes {clauses : List (Clause × List String)} (h : ClausesAt cs clauses rest) :
    Closes (ClausesAt · clauses ·) cs rest := by
  induction h with
  | close h =>
    refine (h.takes.closes ((takes_char _ _).closes (closes_char _ _))).imp ?_
    rintro x y ⟨_, h, _, rfl, rfl⟩
    exact .close h
  | clause ha hl hb hn _ ih =>
    refine (ha.takes.closes (hl.takes.closes (hb.takes.closes
      ((takes_char _ _).closes (hn.takes.closes ih))))).imp ?_
    rintro x y ⟨_, ha, _, hl, _, hb, _, rfl, _, hn, hd⟩
    exact .clause ha hl hb hn hd

theorem VariableAt.closes {name : String} {transform : Option Transform}
    (h : VariableAt cs name transform rest) : Closes (VariableAt · name transform ·) cs rest := by
  cases h with
  | plain ha hn hb =>
    refine ((takes_char _ _).closes ((takes_char _ _).closes (ha.takes.closes (hn.takes.closes
      (hb.takes.closes ((takes_char _ _).closes (closes_char _ _))))))).imp ?_
    rintro x y ⟨_, rfl, _, rfl, _, ha, _, hn, _, hb, _, rfl, rfl⟩
    exact .plain ha hn hb
  | changed ha hn hb hc ht he =>
    refine ((takes_char _ _).closes ((takes_char _ _).closes (ha.takes.closes (hn.takes.closes
      (hb.takes.closes ((takes_char _ _).closes (hc.takes.closes (ht.takes.closes (he.takes.closes
        ((takes_char _ _).closes (closes_char _ _))))))))))).imp ?_
    rintro x y ⟨_, rfl, _, rfl, _, ha, _, hn, _, hb, _, rfl, _, hc, _, ht, _, he, _, rfl, rfl⟩
    exact .changed ha hn hb hc ht he

theorem CommandAt.closes {picked omitted : List String} (h : CommandAt cs picked omitted rest) :
    Closes (CommandAt · picked omitted ·) cs rest := by
  cases h with
  | mk ha hn hc once =>
    refine ((takes_char _ _).closes ((takes_char _ _).closes (ha.takes.closes
      (hn.takes.closes hc.closes)))).imp ?_
    rintro x y ⟨_, rfl, _, rfl, _, ha, _, hn, hc⟩
    exact .mk ha hn hc once

end

/-! ## How far a source is read -/

/-- Reading from left to right gets from one place of a source to another. -/
inductive Reaches : List Char → List Char → Prop
  | here (cs : List Char) : Reaches cs cs
  | variableAt {cs mid rest : List Char} {name : String} {transform : Option Transform}
      (h : VariableAt cs name transform mid) (hr : Reaches mid rest) : Reaches cs rest
  | commandAt {cs mid rest : List Char} {picked omitted : List String}
      (h : CommandAt cs picked omitted mid) (hr : Reaches mid rest) : Reaches cs rest
  | charAt {c : Char} {cs rest : List Char} (hv : ¬ OpensVariable (c :: cs))
      (hc : ¬ OpensCommand (c :: cs)) (hr : Reaches cs rest) : Reaches (c :: cs) rest

/-- What was read on the way is read in the same way if nothing follows it. -/
theorem Reaches.exists_reads {cs rest : List Char} (h : Reaches cs rest) :
    ∃ front pieces, cs = front ++ rest ∧ Reads front pieces := by
  induction h with
  | here cs => exact ⟨[], [], rfl, .nil⟩
  | variableAt h _ ih =>
    obtain ⟨front, pieces, rfl, hreads⟩ := ih
    obtain ⟨taken, -, rfl, hclosed⟩ := h.closes
    exact ⟨taken ++ front, _, (List.append_assoc _ _ _).symm, .variableAt (hclosed front) hreads⟩
  | commandAt h _ ih =>
    obtain ⟨front, pieces, rfl, hreads⟩ := ih
    obtain ⟨taken, -, rfl, hclosed⟩ := h.closes
    exact ⟨taken ++ front, _, (List.append_assoc _ _ _).symm, .commandAt (hclosed front) hreads⟩
  | @charAt c cs rest hv hc _ ih =>
    obtain ⟨front, pieces, rfl, hreads⟩ := ih
    have hbegins : c :: front <+: c :: (front ++ rest) := ⟨rest, rfl⟩
    exact ⟨c :: front, _, rfl,
      .charAt (mt (·.of_isPrefix hbegins) hv) (mt (·.of_isPrefix hbegins) hc) hreads⟩

/-- What the reader finds wrong where a tag must stand. -/
inductive TagFault : List Char → Fault → Prop
  | inVariable {cs : List Char} {f : Fault} (h : readVariable ('{' :: '{' :: cs) cs = .error f) :
      TagFault ('{' :: '{' :: cs) f
  | inCommand {cs : List Char} {f : Fault} (ho : OpensCommand ('{' :: '#' :: cs))
      (h : readCommand ('{' :: '#' :: cs) cs = .error f) : TagFault ('{' :: '#' :: cs) f

namespace TagFault

variable {tag : List Char} {f : Fault}

theorem within (h : TagFault tag f) : Within tag f := by
  cases h with
  | inVariable h =>
    exact within_readVariable ((List.suffix_cons _ _).trans (List.suffix_cons _ _)) h
  | inCommand _ h =>
    exact within_readCommand ((List.suffix_cons _ _).trans (List.suffix_cons _ _)) h

theorem opens (h : TagFault tag f) : OpensVariable tag ∨ OpensCommand tag := by
  cases h with
  | inVariable => exact .inl ⟨_, rfl⟩
  | inCommand ho => exact .inr ho

theorem not_variableAt (h : TagFault tag f) (name : String) (transform : Option Transform)
    (rest : List Char) : ¬ VariableAt tag name transform rest := by
  intro hat
  cases h with
  | inVariable h =>
    rw [readVariable_eq_ok_iff.2 ⟨name, transform, rfl, hat⟩] at h
    cases h
  | inCommand ho => exact hat.opensVariable.not_opensCommand ho

theorem not_commandAt (h : TagFault tag f) (picked omitted : List String) (rest : List Char) :
    ¬ CommandAt tag picked omitted rest := by
  intro hat
  cases h with
  | inVariable => exact OpensVariable.not_opensCommand ⟨_, rfl⟩ hat.opensCommand
  | inCommand _ h =>
    rw [readCommand_eq_ok_iff.2 ⟨picked, omitted, rfl, hat⟩] at h
    cases h

end TagFault

theorem readSegments_variable_eq_error_iff {fuel : ℕ} {cs : List Char} {f : Fault} :
    readSegments (fuel + 1) ('{' :: '{' :: cs) = .error f ↔ TagFault ('{' :: '{' :: cs) f
      ∨ ∃ name transform rest, VariableAt ('{' :: '{' :: cs) name transform rest
          ∧ readSegments fuel rest = .error f := by
  rw [readSegments]
  constructor
  · intro h
    split at h
    · rename_i s rest hv
      obtain ⟨name, transform, rfl, hat⟩ := readVariable_eq_ok_iff.1 hv
      exact .inr ⟨name, transform, rest, hat, map_eq_error_iff.1 h⟩
    · rename_i g hv
      cases h
      exact .inl (.inVariable hv)
  · rintro (h | ⟨name, transform, rest, hat, hr⟩)
    · cases h with
      | inVariable hv => rw [hv]
    · rw [readVariable_eq_ok_iff.2 ⟨name, transform, rfl, hat⟩]
      exact map_eq_error_iff.2 hr

theorem readSegments_command_eq_error_iff {fuel : ℕ} {cs : List Char} {f : Fault}
    (ho : OpensCommand ('{' :: '#' :: cs)) :
    readSegments (fuel + 1) ('{' :: '#' :: cs) = .error f ↔ TagFault ('{' :: '#' :: cs) f
      ∨ ∃ picked omitted rest, CommandAt ('{' :: '#' :: cs) picked omitted rest
          ∧ readSegments fuel rest = .error f := by
  rw [readSegments, if_pos (opensCommand_iff.2 ho), List.drop_one, List.tail_cons]
  · constructor
    · intro h
      split at h
      · rename_i s rest hc
        obtain ⟨picked, omitted, rfl, hat⟩ := readCommand_eq_ok_iff.1 hc
        exact .inr ⟨picked, omitted, rest, hat, map_eq_error_iff.1 h⟩
      · rename_i g hc
        cases h
        exact .inl (.inCommand ho hc)
    · rintro (h | ⟨picked, omitted, rest, hat, hr⟩)
      · cases h with
        | inCommand _ hc => rw [hc]
      · rw [readCommand_eq_ok_iff.2 ⟨picked, omitted, rfl, hat⟩]
        exact map_eq_error_iff.2 hr
  · rintro tail - h
    cases h

theorem readSegments_char_eq_error_iff {fuel : ℕ} {c : Char} {cs : List Char} {f : Fault}
    (hv : ¬ OpensVariable (c :: cs)) (hc : ¬ OpensCommand (c :: cs)) :
    readSegments (fuel + 1) (c :: cs) = .error f ↔ readSegments fuel cs = .error f := by
  rw [readSegments, if_neg (mt opensCommand_iff.1 hc)]
  · exact map_eq_error_iff
  · rintro rest rfl rfl
    exact hv ⟨rest, rfl⟩

theorem exists_reaches_of_readSegments : ∀ {fuel : ℕ} {cs : List Char} {f : Fault},
    cs.length ≤ fuel → readSegments fuel cs = .error f → ∃ tag, Reaches cs tag ∧ TagFault tag f
  | fuel, [], f, _, h => by simp [readSegments] at h
  | 0, c :: cs, f, hfuel, _ => by simp at hfuel
  | fuel + 1, c :: cs, f, hfuel, h => by
    by_cases hv : OpensVariable (c :: cs)
    · obtain ⟨cs', hcs⟩ := hv
      rw [← hcs] at h hfuel ⊢
      rcases readSegments_variable_eq_error_iff.1 h with h | ⟨name, transform, rest, hat, hr⟩
      · exact ⟨_, .here _, h⟩
      · have hrest := Nat.le_of_lt_succ (Nat.lt_of_lt_of_le hat.length_lt hfuel)
        obtain ⟨tag, hreach, hfault⟩ := exists_reaches_of_readSegments hrest hr
        exact ⟨tag, .variableAt hat hreach, hfault⟩
    · by_cases hc : OpensCommand (c :: cs)
      · obtain ⟨cs', hcs⟩ := hc.exists_eq
        rw [hcs] at h hc hfuel ⊢
        rcases (readSegments_command_eq_error_iff hc).1 h with
          h | ⟨picked, omitted, rest, hat, hr⟩
        · exact ⟨_, .here _, h⟩
        · have hrest := Nat.le_of_lt_succ (Nat.lt_of_lt_of_le hat.length_lt hfuel)
          obtain ⟨tag, hreach, hfault⟩ := exists_reaches_of_readSegments hrest hr
          exact ⟨tag, .commandAt hat hreach, hfault⟩
      · have hr := (readSegments_char_eq_error_iff hv hc).1 h
        obtain ⟨tag, hreach, hfault⟩ :=
          exists_reaches_of_readSegments (Nat.le_of_succ_le_succ hfuel) hr
        exact ⟨tag, .charAt hv hc hreach, hfault⟩

theorem readSegments_of_reaches {cs tag : List Char} {f : Fault} (h : Reaches cs tag)
    (hf : TagFault tag f) : ∀ fuel : ℕ, cs.length ≤ fuel → readSegments fuel cs = .error f := by
  induction h with
  | here cs =>
    intro fuel hfuel
    cases hf with
    | inVariable h =>
      obtain ⟨fuel, rfl⟩ : ∃ n, fuel = n + 1 := ⟨fuel - 1, by simp at hfuel; omega⟩
      exact readSegments_variable_eq_error_iff.2 (.inl (.inVariable h))
    | inCommand ho h =>
      obtain ⟨fuel, rfl⟩ : ∃ n, fuel = n + 1 := ⟨fuel - 1, by simp at hfuel; omega⟩
      exact (readSegments_command_eq_error_iff ho).2 (.inl (.inCommand ho h))
  | variableAt h _ ih =>
    intro fuel hfuel
    have := h.length_lt
    obtain ⟨fuel, rfl⟩ : ∃ n, fuel = n + 1 := ⟨fuel - 1, by omega⟩
    obtain ⟨cs', rfl⟩ := h.opensVariable
    exact readSegments_variable_eq_error_iff.2 (.inr ⟨_, _, _, h, ih hf fuel (by omega)⟩)
  | commandAt h _ ih =>
    intro fuel hfuel
    have := h.length_lt
    obtain ⟨fuel, rfl⟩ : ∃ n, fuel = n + 1 := ⟨fuel - 1, by omega⟩
    obtain ⟨cs', rfl⟩ := h.opensCommand.exists_eq
    exact (readSegments_command_eq_error_iff h.opensCommand).2
      (.inr ⟨_, _, _, h, ih hf fuel (by omega)⟩)
  | charAt hv hc _ ih =>
    intro fuel hfuel
    obtain ⟨fuel, rfl⟩ : ∃ n, fuel = n + 1 := ⟨fuel - 1, by simp at hfuel; omega⟩
    exact (readSegments_char_eq_error_iff hv hc).2 (ih hf fuel (by simpa using hfuel))

/-- The reader says what is wrong with the first place where a tag must stand and none does. -/
theorem readSegments_eq_error_iff {cs : List Char} {f : Fault} :
    readSegments cs.length cs = .error f ↔ ∃ tag, Reaches cs tag ∧ TagFault tag f :=
  ⟨exists_reaches_of_readSegments le_rfl, fun ⟨_, hreach, hf⟩ =>
    readSegments_of_reaches hreach hf _ le_rfl⟩

theorem parse_eq_error_iff {source : String} {e : SourceError} :
    parse source = .error e ↔
      ∃ tag f, Reaches source.toList tag ∧ TagFault tag f ∧ f.locate source.toList = e := by
  have hread : ∀ f, readChars source.toList = .error f
      ↔ ∃ tag, Reaches source.toList tag ∧ TagFault tag f := fun f =>
    map_eq_error_iff.trans readSegments_eq_error_iff
  unfold parse
  constructor
  · intro h
    split at h
    · cases h
    · rename_i f hf
      obtain ⟨tag, hreach, hfault⟩ := (hread f).1 hf
      exact ⟨tag, f, hreach, hfault, Except.error.inj h⟩
  · rintro ⟨tag, f, hreach, hfault, rfl⟩
    rw [(hread f).2 ⟨tag, hreach, hfault⟩]

/-! ## Lines and columns -/

theorem before_append (past rest : List Char) : before (past ++ rest) rest = past := by
  rw [before, List.length_append, Nat.add_sub_cancel, List.take_left]

/-- The last line of some characters, and what is above it with the end of its last line. -/
theorem exists_last_line (cs : List Char) : ∃ above line, cs = above ++ line ∧ '\n' ∉ line
    ∧ (∀ c ∈ above.getLast?, c = '\n')
    ∧ (cs.reverse.takeWhile (· != '\n')).length = line.length := by
  refine ⟨(cs.reverse.dropWhile (· != '\n')).reverse, (cs.reverse.takeWhile (· != '\n')).reverse,
    ?_, ?_, fun c hc => ?_, List.length_reverse.symm⟩
  · rw [← List.reverse_append, List.takeWhile_append_dropWhile, List.reverse_reverse]
  · intro h
    simpa using List.mem_takeWhile_imp (List.mem_reverse.1 h)
  · rw [List.getLast?_reverse] at hc
    have := List.head?_dropWhile_not (· != '\n') cs.reverse
    rw [Option.mem_def.1 hc] at this
    simpa using this

/-- A source goes wrong in the tag that opens behind `front`, where `past` has been read of it. -/
structure GoesWrong (source : String) (e : SourceError) (front past rest : String) : Prop where
  source_eq : source = front ++ past ++ rest
  front_ok : ∃ t, parse front = .ok t
  opens : OpensVariable (past ++ rest).toList ∨ OpensCommand (past ++ rest).toList
  not_variableAt : ∀ name transform behind, ¬ VariableAt (past ++ rest).toList name transform behind
  not_commandAt : ∀ picked omitted behind, ¬ CommandAt (past ++ rest).toList picked omitted behind
  offset : e.offset = (front ++ past).utf8ByteSize
  unterminated : e.problem = .unterminatedVariable ∨ e.problem = .unterminatedCommand → past = ""
  line : e.line = (front ++ past).toList.count '\n' + 1
  column : ∃ above current : String, front ++ past = above ++ current ∧ '\n' ∉ current.toList
    ∧ (∀ c ∈ above.toList.getLast?, c = '\n') ∧ e.column = current.length + 1

theorem goesWrong_locate {front past : List Char} {f : Fault}
    (hreads : ∃ pieces, Reads front pieces) (hfault : TagFault (past ++ f.rest) f) :
    GoesWrong (String.ofList (front ++ past ++ f.rest)) (f.locate (front ++ past ++ f.rest))
      (String.ofList front) (String.ofList past) (String.ofList f.rest) := by
  have htag : (String.ofList past ++ String.ofList f.rest).toList = past ++ f.rest := by simp
  have hhead : String.ofList front ++ String.ofList past = String.ofList (front ++ past) :=
    String.ofList_append.symm
  constructor
  case source_eq => rw [hhead, ← String.ofList_append]
  case front_ok =>
    obtain ⟨pieces, hreads⟩ := hreads
    refine ⟨merge pieces, parse_eq_ok_iff_readChars.2 ?_⟩
    rw [String.toList_ofList]
    exact readChars_eq_ok_iff.2 ⟨pieces, hreads, rfl⟩
  case opens => exact htag ▸ hfault.opens
  case not_variableAt => exact htag ▸ hfault.not_variableAt
  case not_commandAt => exact htag ▸ hfault.not_commandAt
  case offset => rw [Fault.locate, before_append, utf8Length_eq, hhead]
  case unterminated =>
    intro hproblem
    have hu : f.problem.isUnterminated = true := by
      change f.problem = _ ∨ f.problem = _ at hproblem
      rcases hproblem with hp | hp <;> rw [hp] <;> rfl
    rw [List.append_left_eq_self.1 (hfault.within.unterminated hu).symm]
  case line => rw [Fault.locate, before_append, hhead, String.toList_ofList]
  case column =>
    obtain ⟨above, line, hlines, hline, habove, hcolumn⟩ := exists_last_line (front ++ past)
    refine ⟨String.ofList above, String.ofList line, ?_, ?_, ?_, ?_⟩
    · rw [hhead, hlines, String.ofList_append]
    · rwa [String.toList_ofList]
    · rwa [String.toList_ofList]
    · rw [Fault.locate, before_append, hcolumn, String.length_ofList]

/-- A source that is not read to a template goes wrong in a tag: everything before it is read to
one, no tag stands there although one opens, and the error gives a place in it, as bytes before it,
line and column.  If the tag does not end, that is the place where it opens. -/
theorem parse_error_in_first_bad_tag {source : String} {e : SourceError}
    (h : parse source = .error e) : ∃ front past rest, GoesWrong source e front past rest := by
  obtain ⟨tag, f, hreach, hfault, rfl⟩ := parse_eq_error_iff.1 h
  obtain ⟨front, pieces, hfront, hreads⟩ := hreach.exists_reads
  obtain ⟨past, rfl⟩ := hfault.within.isSuffix
  have hsource : source.toList = front ++ past ++ f.rest :=
    hfront.trans (List.append_assoc _ _ _).symm
  have hwrong := goesWrong_locate ⟨pieces, hreads⟩ hfault
  rw [← hsource, String.ofList_toList] at hwrong
  exact ⟨_, _, _, hwrong⟩

/-- Bytes and characters are counted apart, and the column from the last end of a line. -/
theorem parse_error_in_first_bad_tag_shout :
    parse "\u00e9\n{{ a }} b {{ c | shout }} \x7b\x7b"
        = .error ⟨.unknownTransform "shout", 20, 2, 18⟩
      ∧ ∃ front past rest, GoesWrong "\u00e9\n{{ a }} b {{ c | shout }} \x7b\x7b"
          ⟨.unknownTransform "shout", 20, 2, 18⟩ front past rest := by
  have h : parse "\u00e9\n{{ a }} b {{ c | shout }} \x7b\x7b"
      = .error ⟨.unknownTransform "shout", 20, 2, 18⟩ := by rfl
  exact ⟨h, parse_error_in_first_bad_tag h⟩

end Template

end NoteForms
