import NoteForms.Proofs.Outcomes

/-!
# What an interview spends

Every question takes a response, but for the last one of an interview that ends with it
(`Interview.Spent`).  A round submits the form once or ends the interview, and every round but the
first that submits has asked for something (`Interview.round_cases`).  So an interview comes to its
end, with at most one question and one attempt more than there are responses
(`Form.interview_ends`).
-/

namespace NoteForms

variable {φ : Type}

/-! ## Asking for a field -/

namespace Question.Exchange

variable {q : Question} {responses : List (Except φ Response)} {refused : Nat}
  {remarks : List Remark} {asked : Asked φ}

/-- Only responses are refused. -/
theorem refused_le (h : q.Exchange responses refused remarks asked) :
    refused ≤ responses.length := by
  by_contra hmore
  have hword := h.before responses.length (Nat.lt_of_not_le hmore)
  exact absurd (lt_length_of_wordAt hword) (Nat.lt_irrefl _)

/-- Where asking goes on with the form, every question took a response. -/
theorem length_rest (h : q.Exchange responses refused remarks asked)
    {rest : List (Except φ Response)} (hrest : rest ∈ asked.rest?) :
    refused + 1 + rest.length = responses.length := by
  have hword : asked.word = .ok true := by
    cases asked with
    | answered => rfl
    | skipped => rfl
    | abandoned => cases hrest
    | failed => cases hrest
  have hlt := lt_length_of_wordAt (h.last.trans hword)
  rw [h.rest rest hrest, List.length_drop]
  omega

end Question.Exchange

/-- Whether an action is an attempt to submit. -/
def Action.isSubmit {ε : Type} : Action ε → Bool
  | .submit => true
  | _ => false

namespace Interview

variable {form : Form} {again : Bool} {n : Nat} {s t : Interview φ}

/-! ## Questions and responses -/

/-- All but the last question have taken a response, and the last one as well while the interview
goes on. -/
def Spent (n : Nat) (s : Interview φ) : Prop :=
  Leads (fun s => s.questions.length + s.respondent.responses.length = n)
    (fun s => s.questions.length ≤ n + 1) s

/-- What was asked for in a round is among the questions since it began. -/
def SpentSince (n before : Nat) (s : Interview φ) : Prop :=
  s.questions.length + s.respondent.responses.length = n
    ∧ before + s.count ≤ s.questions.length

/-- A question takes a response each time it is asked, unless it ends the interview. -/
theorem spentSince_put {before : Nat} (hs : s.conclusion = none) (h : SpentSince n before s)
    (q : Question) :
    Leads (SpentSince n before) (fun t => t.questions.length ≤ n + 1) (s.put q) := by
  obtain ⟨refused, hask⟩ := q.exchange_ask s.respondent.responses
  obtain ⟨hspent, hsince⟩ := h
  have hrefused := hask.refused_le
  have hcount : (s.put q).count = s.count + 1 := count_settle _ _ _
  have hquestions : (s.put q).questions.length = s.questions.length + (refused + 1) := by
    have htranscript : (s.put q).transcript
        = s.transcript ++ (q.ask s.respondent.responses).1 := transcript_settle _ _ _
    rw [questions, htranscript, List.filterMap_append, hask.questions, List.length_append,
      List.length_replicate, questions]
  have hended : (s.put q).questions.length ≤ n + 1 := by omega
  -- where the interview goes on, the last question has taken a response as well
  have hgoesOn : ∀ rest ∈ (q.ask s.respondent.responses).2.rest?,
      (s.put q).conclusion = none → (s.put q).respondent.responses = rest →
      Leads (SpentSince n before) (fun t => t.questions.length ≤ n + 1) (s.put q) := by
    intro rest hmem hnone hresponses
    have hrest := hask.length_rest hmem
    refine .of_none hnone ⟨?_, ?_⟩
    · rw [hresponses]
      omega
    · omega
  unfold put at hgoesOn hended ⊢
  generalize q.ask s.respondent.responses = answer at hgoesOn hended ⊢
  obtain ⟨remarks, asked⟩ := answer
  cases asked with
  | answered answer rest => exact hgoesOn rest rfl hs rfl
  | skipped rest => exact hgoesOn rest rfl hs rfl
  | abandoned => exact .of_some rfl hended
  | failed reason => exact .of_some rfl hended

theorem spentSince_turn {before : Nat} (hs : s.conclusion = none) (h : SpentSince n before s)
    (again : Bool) (total : Nat) (field : Field) (index : Nat) :
    Leads (SpentSince n before) (fun t => t.questions.length ≤ n + 1)
      (s.turn again total field index) := by
  by_cases hdue : s.IsDue again field
  · rw [turn_of_isDue hdue]
    exact spentSince_put hs h _
  · obtain ⟨remarks, hturn, hquestions, -⟩ := turn_of_not_isDue hdue total index
    rw [hturn]
    refine .of_none hs ?_
    rw [SpentSince, questions_note, hquestions, List.append_nil]
    exact h

theorem spentSince_turns {before : Nat} (again : Bool) (total : Nat) :
    ∀ (turns : List (Field × Nat)) {s : Interview φ},
      Leads (SpentSince n before) (fun t => t.questions.length ≤ n + 1) s →
      Leads (SpentSince n before) (fun t => t.questions.length ≤ n + 1)
        (turns.foldl (fun s (field, index) =>
          s.andThen fun s => s.turn again total field index) s)
  | [], _, hs => hs
  | (field, index) :: turns, _, hs =>
    spentSince_turns again total turns
      (hs.andThen fun hnone h => spentSince_turn hnone h again total field index)

theorem spentSince_askAll (hs : s.conclusion = none)
    (h : s.questions.length + s.respondent.responses.length = n) (again : Bool)
    (fields : List Field) :
    Leads (SpentSince n s.questions.length) (fun t => t.questions.length ≤ n + 1)
      (s.askAll again fields) :=
  spentSince_turns again _ _ (.of_none hs ⟨h, Nat.le_refl _⟩)

/-- The review takes no response, and neither does the attempt. -/
theorem review_unasked (s : Interview φ) : s.review.questions = s.questions
    ∧ s.review.respondent.responses = s.respondent.responses := by
  have hquestions : (s.note [.review s.summary]).questions = s.questions := by
    rw [questions_note]
    exact List.append_nil _
  unfold review
  simp only []
  split
  all_goals exact ⟨hquestions, rfl⟩

theorem submit_cases (s : Interview φ) (fields : List Field) :
    s.submit fields = (s.act .submit).1.finish ∨ ∃ reasons : List String,
      s.submit fields = (s.act .submit).1.note (reasons.map .trouble) := by
  unfold submit
  rcases s.act .submit with ⟨t, reply⟩
  split
  · rename_i heq
    cases heq
    exact .inl rfl
  · rename_i heq
    cases heq
    exact .inr ⟨_, rfl⟩

theorem submit_unasked (s : Interview φ) (fields : List Field) :
    (s.submit fields).questions = s.questions
      ∧ (s.submit fields).respondent.responses = s.respondent.responses := by
  obtain hended | ⟨reasons, hrefused⟩ := s.submit_cases fields
  · rw [hended]
    exact ⟨rfl, rfl⟩
  · have hnone : (reasons.map Remark.trouble).filterMap Remark.question? = [] := by
      simp [Remark.question?]
    rw [hrefused, questions_note, hnone, List.append_nil]
    exact ⟨rfl, rfl⟩

theorem spent_of_eq (hquestions : t.questions = s.questions)
    (hresponses : t.respondent.responses = s.respondent.responses)
    (h : s.questions.length + s.respondent.responses.length = n) : t.Spent n := by
  refine ⟨fun _ => ?_, fun _ => ?_⟩
  · rw [hquestions, hresponses]
    exact h
  · rw [hquestions]
    omega

theorem spent_round (hs : s.conclusion = none)
    (h : s.questions.length + s.respondent.responses.length = n) (form : Form) (again : Bool) :
    (s.round form again).Spent n := by
  refine (spentSince_askAll hs h again form.fields).andThen fun _ ⟨hasked, _⟩ => ?_
  split
  · exact spent_of_eq rfl rfl hasked
  · obtain ⟨hquestions, hresponses⟩ := review_unasked (s.askAll again form.fields)
    refine (spent_of_eq hquestions hresponses hasked).andThen fun _ hreviewed => ?_
    obtain ⟨hquestions, hresponses⟩ :=
      submit_unasked (s.askAll again form.fields).review form.fields
    exact spent_of_eq hquestions hresponses hreviewed

theorem spent_rounds (form : Form) : ∀ (k : Nat) (again : Bool) {s : Interview φ},
    s.conclusion = none → s.questions.length + s.respondent.responses.length = n →
    (s.rounds form k again).Spent n
  | 0, _, _, hs, h => .of_none hs h
  | k + 1, again, _, hs, h =>
    (spent_round hs h form again).andThen fun hnone h' => spent_rounds form k true hnone h'

/-! ## Attempts -/

/-- The session of one interview comes to that of another by actions, so many of which submit. -/
def Submits (k : Nat) (s t : Interview φ) : Prop :=
  ∃ more, t.actions = s.actions ++ more ∧ t.session = s.session.runAll more
    ∧ more.countP Action.isSubmit = k

namespace Submits

variable {k l : Nat} {u : Interview φ}

theorem ofEq (hactions : t.actions = s.actions) (hsession : t.session = s.session) :
    Submits 0 s t :=
  ⟨[], by rw [hactions, List.append_nil], hsession, rfl⟩

theorem act (s : Interview φ) (action : Action Empty) :
    Submits action.isSubmit.toNat s (s.act action).1 := by
  refine ⟨[action], rfl, rfl, ?_⟩
  cases h : action.isSubmit <;> simp [h]

theorem trans (hst : Submits k s t) (htu : Submits l t u) : Submits (k + l) s u := by
  obtain ⟨first, hactions, hsession, hfirst⟩ := hst
  obtain ⟨second, hactions', hsession', hsecond⟩ := htu
  refine ⟨first ++ second, ?_, ?_, ?_⟩
  · rw [hactions', hactions, List.append_assoc]
  · rw [hsession', hsession, Session.runAll, Session.runAll, Session.runAll, List.foldl_append]
  · rw [List.countP_append, hfirst, hsecond]

theorem andThen {step : Interview φ → Interview φ} (hst : Submits k s t)
    (hstep : Submits 0 t (step t)) : Submits k s (t.andThen step) := by
  unfold Interview.andThen
  split
  · exact hst
  · exact hst.trans hstep

theorem settle (s : Interview φ) (index : Nat) (asked : Asked φ) :
    Submits 0 s (s.settle index asked) := by
  cases asked with
  | answered answer rest => exact act (s.withResponses rest) (.set index answer)
  | skipped rest => exact .ofEq rfl rfl
  | abandoned => exact act s .cancel
  | failed reason => exact .ofEq rfl rfl

theorem turn (again : Bool) (total : Nat) (s : Interview φ) (field : Field) (index : Nat) :
    Submits 0 s (s.turn again total field index) := by
  by_cases hdue : s.IsDue again field
  · rw [turn_of_isDue hdue]
    exact settle { s.note _ with count := s.count + 1 } _ _
  · obtain ⟨remarks, hturn, -⟩ := turn_of_not_isDue hdue total index
    rw [hturn]
    exact .ofEq rfl rfl

theorem turns (again : Bool) (total : Nat) : ∀ (turns : List (Field × Nat)) {t : Interview φ},
    Submits 0 s t → Submits 0 s (turns.foldl (fun s (field, index) =>
      s.andThen fun s => s.turn again total field index) t)
  | [], _, h => h
  | (field, index) :: rest, t, h =>
    turns again total rest (h.andThen (turn again total t field index))

theorem askAll (again : Bool) (fields : List Field) (s : Interview φ) :
    Submits 0 s (s.askAll again fields) :=
  turns again _ _ (.ofEq rfl rfl)

theorem review (s : Interview φ) : Submits 0 s s.review := by
  unfold Interview.review
  simp only []
  split
  · exact .ofEq rfl rfl
  · exact .ofEq rfl rfl
  · exact act (s.note _) .cancel
  · exact .ofEq rfl rfl

theorem submit (fields : List Field) (s : Interview φ) : Submits 1 s (s.submit fields) := by
  obtain hended | ⟨reasons, hrefused⟩ := s.submit_cases fields
  · rw [hended]
    exact act s .submit
  · rw [hrefused]
    exact act s .submit

end Submits

/-- How many more attempts there can be: one for each response left, and the first. -/
def attemptsLeft (again : Bool) (s : Interview φ) : Nat :=
  s.respondent.responses.length + (!again).toNat

/-- A round submits the form once, and leaves room for fewer attempts, or it is the last. -/
theorem round_cases (hs : s.conclusion = none) (form : Form) (again : Bool) :
    let t := s.round form again
    (Submits 1 s t ∧ t.attemptsLeft true < s.attemptsLeft again)
      ∨ Submits 0 s t ∧ t.conclusion ≠ none := by
  intro t
  have hasked := Submits.askAll again form.fields s
  by_cases hgoes : (s.askAll again form.fields).conclusion = none
  · simp only [t]
    rw [round, andThen_of_unended hgoes]
    split
    · exact .inr ⟨hasked.trans (.ofEq rfl rfl), Option.some_ne_none _⟩
    · rename_i hcount
      have hreviewed := hasked.trans (.review _)
      by_cases hconfirmed : (s.askAll again form.fields).review.conclusion = none
      · rw [andThen_of_unended hconfirmed]
        refine .inl ⟨hreviewed.trans (.submit form.fields _), ?_⟩
        obtain ⟨hspent, hsince⟩ := (spentSince_askAll hs rfl again form.fields).ofNone hgoes
        rw [attemptsLeft, attemptsLeft, (submit_unasked _ _).2, (review_unasked _).2]
        -- a later round submits only if it has asked for something
        cases again with
        | false =>
          simp only [Bool.not_true, Bool.not_false, Bool.toNat_true, Bool.toNat_false]
          omega
        | true =>
          have hpos : 0 < (s.askAll true form.fields).count := by
            simpa [Nat.pos_iff_ne_zero] using hcount
          omega
      · rw [andThen_of_ended hconfirmed]
        exact .inr ⟨hreviewed, hconfirmed⟩
  · simp only [t]
    rw [round, andThen_of_ended hgoes]
    exact .inr ⟨hasked, hgoes⟩

theorem exists_submits_rounds (form : Form) : ∀ (m : Nat) (again : Bool) {s : Interview φ},
    s.conclusion = none → ∃ k ≤ s.attemptsLeft again, Submits k s (s.rounds form m again)
  | 0, _, _, _ => ⟨0, Nat.zero_le _, .ofEq rfl rfl⟩
  | m + 1, again, s, hs => by
    rw [rounds]
    by_cases hround : (s.round form again).conclusion = none
    · obtain ⟨hsubmits, hlt⟩ | ⟨-, hended⟩ := round_cases hs form again
      · obtain ⟨k, hk, hrest⟩ := exists_submits_rounds form m true hround
        rw [andThen_of_unended hround]
        exact ⟨1 + k, by omega, hsubmits.trans hrest⟩
      · exact absurd hround hended
    · rw [andThen_of_ended hround]
      obtain ⟨hsubmits, hlt⟩ | ⟨hsubmits, -⟩ := round_cases hs form again
      · exact ⟨1, by omega, hsubmits⟩
      · exact ⟨0, Nat.zero_le _, hsubmits⟩

/-- There is an end as soon as there are more rounds than attempts can be left. -/
theorem conclusion_rounds_ne_none (form : Form) : ∀ (m : Nat) (again : Bool) {s : Interview φ},
    s.conclusion = none → s.attemptsLeft again < m → (s.rounds form m again).conclusion ≠ none
  | 0, _, _, _, hm => absurd hm (Nat.not_lt_zero _)
  | m + 1, again, s, hs, hm => by
    rw [rounds]
    by_cases hround : (s.round form again).conclusion = none
    · obtain ⟨-, hlt⟩ | ⟨-, hended⟩ := round_cases hs form again
      · rw [andThen_of_unended hround]
        exact conclusion_rounds_ne_none form m true hround (by omega)
      · exact absurd hround hended
    · rw [andThen_of_ended hround]
      exact hround

end Interview

/-- An interview comes to its end, which more rounds do not put off.  One who has so many responses
is asked at most one question more.  All that is done to the session is what the interview notes as
done to it, and among that the form is submitted at most once more than there are responses. -/
theorem Form.interview_ends (form : Form) (defaults : Answers) (r : Respondent φ) :
    let n := r.responses.length
    let s := Interview.start form defaults r
    let ended := form.held defaults r
    ended.conclusion ≠ none
      ∧ (∀ m, s.rounds form (n + 2 + m) false = ended)
      ∧ ((form.interview defaults r).2.filterMap Remark.question?).length ≤ n + 1
      ∧ ended.session = s.session.runAll ended.actions
      ∧ ended.actions.countP Action.isSubmit ≤ n + 1 := by
  intro n s ended
  have hs : s.conclusion = none := rfl
  have hended : ended.conclusion ≠ none :=
    Interview.conclusion_rounds_ne_none form (n + 2) false hs (Nat.lt_succ_self (n + 1))
  have hspent : ended.Spent n :=
    Interview.spent_rounds form (n + 2) false hs (Nat.zero_add n)
  obtain ⟨k, hk, more, hactions, hsession, hcount⟩ :=
    Interview.exists_submits_rounds form (n + 2) false hs
  have hactions : ended.actions = more := hactions
  refine ⟨hended, fun m => ?_, hspent.ofSome hended, ?_, ?_⟩
  · rw [Interview.rounds_add form m (n + 2) hs]
    exact Interview.andThen_of_ended hended _
  · rw [hactions]
    exact hsession
  · rw [hactions, hcount]
    exact hk

end NoteForms
