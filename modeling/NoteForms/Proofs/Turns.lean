import NoteForms.Proofs.Spending

/-!
# What the turns of an interview show

The questions of an interview and the bodies of its document blocks come up in the turns of its
fields, and nowhere else.  A field is asked for only in a turn in which it is shown.  The body of a
document block is shown in every turn of the first round, whether the block is shown or not
(`Form.interview_turns`).
-/

namespace NoteForms

variable {φ : Type}

/-- Whether a remark is a question, or the body of a document block. -/
def Remark.isOfTurn : Remark → Bool
  | .asked _ => true
  | .notice _ => true
  | _ => false

/-- The turn of a field: the interview as it is when the turn begins, and whether that is in a later
round. -/
structure Turn (φ : Type) where
  again : Bool
  total : Nat
  before : Interview φ
  field : Field
  index : Nat

namespace Turn

/-- The interview after a turn. -/
def after (t : Turn φ) : Interview φ := t.before.turn t.again t.total t.field t.index

/-- What came up in a turn. -/
def remarks (t : Turn φ) : List Remark :=
  t.after.transcript.drop t.before.transcript.length

/-- The questions and bodies that came up in a turn. -/
def shown (t : Turn φ) : List Remark := t.remarks.filter Remark.isOfTurn

/-- Whether the field is shown when its turn begins. -/
def IsVisible (t : Turn φ) : Prop := t.field.visibility t.before.session.state = .ok true

end Turn

namespace Interview

/-! ## The turns -/

/-- The turns of some fields until the interview ends. -/
def turnsOf (again : Bool) (total : Nat) : List (Field × Nat) → Interview φ → List (Turn φ)
  | [], _ => []
  | (field, index) :: rest, s =>
    if s.conclusion.isSome then []
    else
      let t : Turn φ := ⟨again, total, s, field, index⟩
      t :: turnsOf again total rest t.after

/-- The turns of a round. -/
def roundTurns (form : Form) (again : Bool) (s : Interview φ) : List (Turn φ) :=
  turnsOf again form.fields.length form.fields.zipIdx { s with count := 0 }

/-- The turns of rounds until the interview ends, at most so many. -/
def turns (form : Form) : Nat → Bool → Interview φ → List (Turn φ)
  | 0, _, _ => []
  | n + 1, again, s =>
    let next := s.round form again
    s.roundTurns form again ++ if next.conclusion.isSome then [] else turns form n true next

end Interview

/-! ## One turn -/

namespace Question

/-- Asking comes up with the question and with what was refused. -/
theorem mem_ask (q : Question) : ∀ (responses : List (Except φ Response)),
    ∀ remark ∈ (q.ask responses).1, remark = .asked q ∨ ∃ reason, remark = .rejected q.field reason
  | [], remark, h => .inl (List.mem_singleton.1 h)
  | .error reason :: _, remark, h => .inl (List.mem_singleton.1 h)
  | .ok response :: responses, remark, h => by
    by_cases hresponse : response.goesOn = true
    · rw [ask_cons q hresponse] at h
      split at h
      · exact .inl (List.mem_singleton.1 h)
      · exact .inl (List.mem_singleton.1 h)
      · rename_i reason _
        rcases List.mem_cons.1 h with rfl | h
        · exact .inl rfl
        · rcases List.mem_cons.1 h with rfl | h
          · exact .inr ⟨reason, rfl⟩
          · exact mem_ask q responses remark h
    · cases response with
      | cancel => exact .inl (List.mem_singleton.1 h)
      | _ => exact absurd rfl hresponse

end Question

namespace Interview

theorem transcript_put (s : Interview φ) (q : Question) :
    (s.put q).transcript = s.transcript ++ (q.ask s.respondent.responses).1 :=
  transcript_settle _ _ _

theorem transcript_turn (again : Bool) (total : Nat) (s : Interview φ) (field : Field)
    (index : Nat) : s.transcript <+: (s.turn again total field index).transcript := by
  by_cases hdue : s.IsDue again field
  · rw [turn_of_isDue hdue, transcript_put]
    exact List.prefix_append _ _
  · obtain ⟨remarks, hturn, -⟩ := turn_of_not_isDue hdue total index
    rw [hturn]
    exact List.prefix_append _ _

end Interview

namespace Turn

theorem transcript_after (t : Turn φ) :
    t.after.transcript = t.before.transcript ++ t.remarks := by
  exact (List.prefix_iff_eq_append.1 (Interview.transcript_turn _ _ _ _ _)).symm

theorem remarks_of_after {t : Turn φ} {remarks : List Remark}
    (h : t.after.transcript = t.before.transcript ++ remarks) : t.remarks = remarks := by
  rw [Turn.remarks, h, List.drop_left]

theorem remarks_of_note {t : Turn φ} {remarks : List Remark}
    (h : t.after = t.before.note remarks) : t.remarks = remarks :=
  remarks_of_after (by rw [h]; rfl)

theorem remarks_of_unchanged {t : Turn φ} (h : t.after = t.before) : t.remarks = [] :=
  remarks_of_after (by rw [h, List.append_nil])

theorem remarks_of_documentBlock {t : Turn φ} {body : String}
    (h : t.field.input = .documentBlock body) :
    t.remarks = if t.again then [] else [.notice body] := by
  have hafter : t.after = t.before.turn t.again t.total t.field t.index := rfl
  rw [Interview.turn, h] at hafter
  simp only [] at hafter
  split at hafter
  · rename_i hagain
    rw [remarks_of_unchanged hafter, if_pos hagain]
  · rename_i hagain
    rw [remarks_of_note hafter, if_neg hagain]

/-- What can come up in a turn. -/
inductive Says (t : Turn φ) : Remark → Prop
  | asked (q : Question) (field_eq : q.field = t.field) (visible : t.IsVisible) : Says t (.asked q)
  | rejected (reason : Refusal) : Says t (.rejected t.field reason)
  | trouble (reason : String) : Says t (.trouble reason)
  | notice {body : String} (first : t.again = false) (block : t.field.input = .documentBlock body) :
    Says t (.notice body)

theorem says_of_mem {t : Turn φ} {remark : Remark} (h : remark ∈ t.remarks) : t.Says remark := by
  have hafter : t.after = t.before.turn t.again t.total t.field t.index := rfl
  unfold Interview.turn at hafter
  split at hafter
  · rename_i body hblock
    rw [remarks_of_documentBlock hblock] at h
    cases hagain : t.again with
    | true => simp [hagain] at h
    | false =>
      obtain rfl : remark = .notice body := by simpa [hagain] using h
      exact .notice hagain hblock
  · split at hafter
    · rename_i reason _
      rw [remarks_of_note hafter, List.mem_singleton] at h
      exact h ▸ .trouble reason
    · rw [remarks_of_unchanged hafter] at h
      cases h
    · -- Only here is the field asked for, and only here is it known to be shown.
      rename_i hvisible
      simp only [] at hafter
      split at hafter
      · rw [remarks_of_unchanged hafter] at h
        cases h
      · rw [remarks_of_after (by rw [hafter, Interview.transcript_put])] at h
        rcases Question.mem_ask _ _ _ h with rfl | ⟨reason, rfl⟩
        · exact .asked _ rfl hvisible
        · exact .rejected reason

theorem isVisible_of_asked {t : Turn φ} {q : Question} (h : .asked q ∈ t.shown) :
    q.field = t.field ∧ t.IsVisible := by
  cases says_of_mem (List.mem_filter.1 h).1 with
  | asked _ hfield hvisible => exact ⟨hfield, hvisible⟩

/-- A body is shown in a turn of the first round just if it is that of the field. -/
theorem notice_mem_shown_iff {t : Turn φ} {body : String} :
    .notice body ∈ t.shown ↔ t.again = false ∧ t.field.input = .documentBlock body := by
  constructor
  · intro h
    cases says_of_mem (List.mem_filter.1 h).1 with
    | notice hfirst hblock => exact ⟨hfirst, hblock⟩
  · rintro ⟨hfirst, hblock⟩
    refine List.mem_filter.2 ⟨?_, rfl⟩
    rw [remarks_of_documentBlock hblock, hfirst]
    exact List.mem_singleton_self _

end Turn

namespace Interview

/-! ## All turns -/

/-- The questions and bodies that came up so far. -/
def shown (s : Interview φ) : List Remark := s.transcript.filter Remark.isOfTurn

theorem shown_after (t : Turn φ) : t.after.shown = t.before.shown ++ t.shown := by
  rw [shown, t.transcript_after, List.filter_append]
  rfl

theorem turnsOf_of_ended {s : Interview φ} (hs : s.conclusion ≠ none) (again : Bool)
    (total : Nat) : ∀ fields : List (Field × Nat), turnsOf again total fields s = []
  | [] => rfl
  | _ :: _ => if_pos (Option.isSome_iff_ne_none.2 hs)

theorem turnsOf_of_unended {s : Interview φ} (hs : s.conclusion = none) (again : Bool)
    (total : Nat) (field : Field) (index : Nat) (fields : List (Field × Nat)) :
    turnsOf again total ((field, index) :: fields) s = ⟨again, total, s, field, index⟩
      :: turnsOf again total fields (s.turn again total field index) :=
  if_neg (by simp [hs])

theorem shown_turnsOf (again : Bool) (total : Nat) : ∀ (fields : List (Field × Nat))
    (s : Interview φ),
    (fields.foldl (fun s (field, index) => s.andThen fun s => s.turn again total field index)
        s).shown
      = s.shown ++ (turnsOf again total fields s).flatMap Turn.shown
  | [], s => (List.append_nil _).symm
  | (field, index) :: fields, s => by
    rw [List.foldl_cons]
    by_cases hs : s.conclusion = none
    · simp only [andThen_of_unended hs]
      have hturn := shown_after ⟨again, total, s, field, index⟩
      rw [Turn.after] at hturn
      rw [shown_turnsOf again total fields, hturn, turnsOf_of_unended hs, List.flatMap_cons,
        List.append_assoc]
    · simp only [andThen_of_ended hs]
      rw [shown_turnsOf again total fields, turnsOf_of_ended hs, turnsOf_of_ended hs]

theorem shown_askAll (form : Form) (again : Bool) (s : Interview φ) :
    (s.askAll again form.fields).shown
      = s.shown ++ (s.roundTurns form again).flatMap Turn.shown :=
  shown_turnsOf _ _ _ _

/-- Neither the review nor the attempt shows a field. -/
theorem shown_review (s : Interview φ) : s.review.shown = s.shown := by
  have hnote : (s.note [.review s.summary]).shown = s.shown := by
    simp [shown, note, Remark.isOfTurn]
  unfold review
  simp only []
  split <;> exact hnote

theorem shown_submit (s : Interview φ) (fields : List Field) :
    (s.submit fields).shown = s.shown := by
  obtain hended | ⟨reasons, hrefused⟩ := s.submit_cases fields
  · rw [hended]
    rfl
  · have htroubles : (reasons.map Remark.trouble).filter Remark.isOfTurn = [] := by
      simp [List.filter_eq_nil_iff, Remark.isOfTurn]
    rw [hrefused, shown, note, List.filter_append, htroubles, List.append_nil]
    rfl

theorem shown_round (form : Form) (again : Bool) (s : Interview φ) :
    (s.round form again).shown = s.shown ++ (s.roundTurns form again).flatMap Turn.shown := by
  have hrest : (s.round form again).shown = (s.askAll again form.fields).shown := by
    unfold round
    by_cases hasked : (s.askAll again form.fields).conclusion = none
    · rw [andThen_of_unended hasked]
      split
      · rfl
      · by_cases hreviewed : (s.askAll again form.fields).review.conclusion = none
        · rw [andThen_of_unended hreviewed, shown_submit, shown_review]
        · rw [andThen_of_ended hreviewed, shown_review]
    · rw [andThen_of_ended hasked]
  rw [hrest, shown_askAll]

theorem shown_rounds (form : Form) : ∀ (n : Nat) (again : Bool) (s : Interview φ),
    (s.rounds form n again).shown = s.shown ++ (s.turns form n again).flatMap Turn.shown
  | 0, _, s => (List.append_nil _).symm
  | n + 1, again, s => by
    rw [rounds, turns]
    simp only [List.flatMap_append, ← List.append_assoc, ← shown_round]
    by_cases hround : (s.round form again).conclusion = none
    · rw [andThen_of_unended hround, shown_rounds form n true, if_neg (by simp [hround])]
    · rw [andThen_of_ended hround, if_pos (Option.isSome_iff_ne_none.2 hround), List.flatMap_nil,
        List.append_nil]

/-! ## The fields of the turns -/

theorem mem_of_mem_turnsOf {again : Bool} {total : Nat} {t : Turn φ} :
    ∀ {fields : List (Field × Nat)} {s : Interview φ}, t ∈ turnsOf again total fields s →
      (t.field, t.index) ∈ fields
  | [], _, h => by cases h
  | (field, index) :: fields, s, h => by
    by_cases hs : s.conclusion = none
    · rw [turnsOf_of_unended hs] at h
      rcases List.mem_cons.1 h with rfl | h
      · exact List.mem_cons_self
      · exact List.mem_cons_of_mem _ (mem_of_mem_turnsOf h)
    · rw [turnsOf_of_ended hs] at h
      cases h

theorem getElem?_of_mem_turns {form : Form} {t : Turn φ} :
    ∀ {n : Nat} {again : Bool} {s : Interview φ}, t ∈ s.turns form n again →
      form.fields[t.index]? = some t.field
  | 0, _, _, h => by cases h
  | n + 1, again, s, h => by
    rw [turns] at h
    rcases List.mem_append.1 h with h | h
    · exact List.mk_mem_zipIdx_iff_getElem?.1 (mem_of_mem_turnsOf h)
    · split at h
      · cases h
      · exact getElem?_of_mem_turns h

end Interview

/-- All that is asked in an interview and all bodies of document blocks that are shown come up in
the turns of its fields.  A field that is asked for is shown at that time; a body is shown in every
turn of its block in the first round. -/
theorem Form.interview_turns (form : Form) (defaults : Answers) (r : Respondent φ) :
    let turns := (Interview.start form defaults r).turns form (r.responses.length + 2) false
    (form.interview defaults r).2.filter Remark.isOfTurn = turns.flatMap Turn.shown
      ∧ ∀ t ∈ turns, form.fields[t.index]? = some t.field
        ∧ (∀ q, .asked q ∈ t.shown → q.field = t.field ∧ t.IsVisible)
        ∧ ∀ body, .notice body ∈ t.shown
          ↔ t.again = false ∧ t.field.input = .documentBlock body := by
  intro turns
  refine ⟨Interview.shown_rounds form _ false _, fun t ht => ⟨?_, ?_, ?_⟩⟩
  · exact Interview.getElem?_of_mem_turns ht
  · exact fun q => Turn.isVisible_of_asked
  · exact fun body => Turn.notice_mem_shown_iff

/-- A document block is shown to somebody who has just answered so that it is hidden. -/
theorem Form.interview_hidden_block :
    let milk : Field := ⟨"milk", none, "", .basic .toggle none, none, none⟩
    let how : Field := ⟨"how", none, "", .documentBlock "Pour the milk first.", none,
      some ⟨"milk", .boolean true⟩⟩
    let form : Form := ⟨"Tea", "tea", none, [milk, how], none⟩
    let r : Respondent Unit := ⟨[.ok (.typed "no")], []⟩
    let turns := (Interview.start form ∅ r).turns form (r.responses.length + 2) false
    (form.interview ∅ r).2.filter Remark.isOfTurn = turns.flatMap Turn.shown
      ∧ ∃ t ∈ turns, .notice "Pour the milk first." ∈ t.shown
        ∧ t.field.visibility t.before.session.state = .ok false := by
  intro milk how form r turns
  refine ⟨Interview.shown_rounds form _ false _, ?_⟩
  have hsecond : turns[1]?.map (fun t => (t.again, t.field.input,
      (t.field.visibility t.before.session.state).toOption))
        = some (false, how.input, some false) := by
    decide +kernel
  obtain ⟨t, ht, hfacts⟩ := Option.map_eq_some_iff.1 hsecond
  simp only [Prod.mk.injEq] at hfacts
  obtain ⟨hfirst, hinput, hvisibility⟩ := hfacts
  exact ⟨t, List.mem_of_getElem? ht, Turn.notice_mem_shown_iff.2 ⟨hfirst, hinput⟩,
    eq_ok_of_toOption hvisibility⟩

end NoteForms
