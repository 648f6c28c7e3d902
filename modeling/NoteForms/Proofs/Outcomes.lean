import NoteForms.Proofs.Showing

/-!
# What an interview comes to

An interview ends in one of four ways, and what was said in it and what its session holds tell which
(`Interview.ComesTo`).  After an attempt that was refused, just those fields are asked for in turn
that must be answered, were not, and can be asked for (`Interview.Asking`); if there are none, the
interview is stuck (`Form.interview_comesTo`).
-/

namespace NoteForms

variable {φ : Type}

/-- Whether a field must be answered, is not, and can be asked for. -/
def Field.isOwed (f : Field) (s : SessionState) : Bool :=
  f.isRequired && (s.answers.get? f.name).isNone && !f.input.isHidden
    && f.input.kind != .documentBlock

/-- Questions for some fields in turn, each repeated until it is settled. -/
inductive AskedInTurn : List Field → List Question → Prop
  | nil : AskedInTurn [] []
  | next {fields : List Field} {questions : List Question} (before : AskedInTurn fields questions)
      (q : Question) (refused : Nat) :
      AskedInTurn (fields ++ [q.field]) (questions ++ List.replicate (refused + 1) q)

theorem Field.isOwed_iff {f : Field} {s : SessionState} : f.isOwed s = true
    ↔ f.isRequired = true ∧ s.answers.get? f.name = none ∧ f.input.isHidden = false
      ∧ ∀ body, f.input ≠ .documentBlock body := by
  have hkind : f.input.kind ≠ .documentBlock ↔ ∀ body, f.input ≠ .documentBlock body := by
    cases f.input <;> simp [Input.kind]
  simp only [isOwed, Bool.and_eq_true, Option.isNone_iff_eq_none, Bool.not_eq_true', bne_iff_ne,
    hkind, and_assoc]

namespace Interview

variable {form : Form} {fields : List Field} {r : Respondent φ} {s t u : Interview φ}

/-! ## Asking again -/

/-- What was asked for since an attempt was refused, when the turn of some fields is still to
come. -/
structure Asking (fields : List Field) (u : Interview φ) (todo : List Field) (s : Interview φ) :
    Prop where
  asked : ∃ done questions, fields = done ++ todo ∧ s.questions = u.questions ++ questions
    ∧ AskedInTurn (done.filter (·.isOwed u.session.state)) questions
    ∧ s.count = (done.filter (·.isOwed u.session.state)).length
  idle : s.count = 0 → s.session = u.session
  kept : ∀ f ∈ todo, s.session.state.fields.get? f.name = u.session.state.fields.get? f.name

theorem asking_begun (fields : List Field) (u : Interview φ) :
    Asking fields u fields { u with count := 0 } where
  asked := ⟨[], [], rfl, (List.append_nil _).symm, .nil, rfl⟩
  idle _ := rfl
  kept _ _ := rfl

theorem Asking.askedInTurn (h : Asking fields u [] s) :
    AskedInTurn (fields.filter (·.isOwed u.session.state))
      (s.questions.drop u.questions.length) := by
  obtain ⟨done, questions, hfields, hquestions, hasked, -⟩ := h.asked
  rw [hquestions, List.drop_left, hfields, List.append_nil]
  exact hasked

/-- A field whose state is as it was left is due just if it is owed. -/
theorem isDue_iff_isOwed (hu : u.session.state.Checked fields) {field : Field}
    (hfield : field ∈ fields)
    (hkept : s.session.state.fields.get? field.name = u.session.state.fields.get? field.name) :
    s.IsDue true field ↔ field.isOwed u.session.state = true := by
  rw [IsDue, SessionState.errors_congr hkept, hu field hfield, Field.isOwed_iff,
    Field.visibility_eq_shown_iff]
  constructor
  · rintro ⟨hinput, ⟨hhidden, -⟩, hunmet⟩
    exact ⟨(hunmet rfl).1, (hunmet rfl).2, hhidden, hinput⟩
  · rintro ⟨hrequired, hnone, hhidden, hinput⟩
    exact ⟨hinput, ⟨hhidden, .inl hrequired⟩, fun _ => ⟨hrequired, hnone⟩⟩

theorem keptByTurns_asking (hnames : (fields.map (·.name)).Nodup)
    (hu : u.session.state.Checked fields) : KeptByTurns fields true r (Asking fields u) := by
  intro done field todo s t hfields _ _ hturned h
  obtain ⟨before, questions, hbefore, hquestions, hasked, hcount⟩ := h.asked
  -- the fields that had their turn are those before the one whose turn it is
  obtain rfl : done = before := List.append_cancel_right (hfields.symm.trans hbefore)
  have hdue : s.IsDue true field ↔ field.isOwed u.session.state = true :=
    isDue_iff_isOwed hu (by rw [hfields]; simp) (h.kept field List.mem_cons_self)
  have hkept : ∀ f ∈ todo,
      t.session.state.fields.get? f.name = u.session.state.fields.get? f.name := fun f hf => by
    rw [hturned.get?_ne (name_ne_of_nodup hnames hfields hf)]
    exact h.kept f (List.mem_cons_of_mem _ hf)
  have hnow : fields = (done ++ [field]) ++ todo := by rw [hfields]; simp
  cases hturned with
  | passed hnotDue hsession hsame hcountSame =>
    have hfilter : (done ++ [field]).filter (·.isOwed u.session.state)
        = done.filter (·.isOwed u.session.state) := by
      rw [List.filter_append, List.filter_cons_of_neg (by rwa [← hdue]), List.filter_nil,
        List.append_nil]
    refine ⟨⟨done ++ [field], questions, hnow, hsame.trans hquestions, ?_, ?_⟩, ?_, hkept⟩
    · rw [hfilter]
      exact hasked
    · rw [hfilter, hcountSame]
      exact hcount
    · intro hzero
      exact hsession.trans (h.idle (hcountSame ▸ hzero))
  | @asked q refused hisDue hfield hmore hcountMore _ =>
    have hfilter : (done ++ [field]).filter (·.isOwed u.session.state)
        = done.filter (·.isOwed u.session.state) ++ [q.field] := by
      rw [List.filter_append, List.filter_cons_of_pos (by rwa [← hdue]), List.filter_nil, hfield]
    refine ⟨⟨done ++ [field], questions ++ List.replicate (refused + 1) q, hnow, ?_, ?_, ?_⟩,
      ?_, hkept⟩
    · rw [hmore, hquestions, List.append_assoc]
    · rw [hfilter]
      exact hasked.next q refused
    · rw [hfilter, hcountMore, hcount, List.length_append, List.length_singleton]
    · intro hzero
      omega

/-- Each round but the first begins where an attempt was refused. -/
theorem course_asking (hnames : form.fieldNames.Nodup) (r : Respondent φ) :
    Course form r
      (fun k u => k ≠ 0 → u.session.state.Checked form.fields
        ∧ ∃ f ∈ form.fields, u.session.state.errors f.name ≠ [])
      (fun k todo s => k ≠ 0 → ∃ u : Interview φ, u.session.state.Checked form.fields
        ∧ (∃ f ∈ form.fields, u.session.state.errors f.name ≠ [])
        ∧ Asking form.fields u todo s) where
  begins {_ u} h hk := by
    obtain ⟨hchecked, herrors⟩ := h hk
    exact ⟨u, hchecked, herrors, asking_begun form.fields u⟩
  turned k done field todo s t hfields hs ht hturned h hk := by
    obtain ⟨u, hchecked, herrors, hasking⟩ := h hk
    have hagain : (k != 0) = true := by simpa using hk
    rw [hagain] at hturned
    exact ⟨u, hchecked, herrors, keptByTurns_asking hnames hchecked hfields hs ht hturned hasking⟩
  refused hs hrefused _ _ _ := ⟨hrefused.checked hs, hrefused.exists_errors hs⟩

/-! ## What remains of a run -/

theorem andThen_of_unended (h : s.conclusion = none) (step : Interview φ → Interview φ) :
    s.andThen step = step s :=
  if_neg (by rw [h]; exact Bool.false_ne_true)

theorem andThen_of_ended (h : s.conclusion ≠ none) (step : Interview φ → Interview φ) :
    s.andThen step = s :=
  if_pos (Option.isSome_iff_ne_none.2 h)

/-- More rounds go on where fewer have not come to an end. -/
theorem rounds_add (form : Form) (n : Nat) : ∀ (m : Nat) {again : Bool} {s : Interview φ},
    s.conclusion = none → s.rounds form (m + n) again
      = (s.rounds form m again).andThen (rounds form n (again || m != 0))
  | 0, again, s, hs => by
    rw [Nat.zero_add, rounds, andThen_of_unended hs, bne_self_eq_false, Bool.or_false]
  | m + 1, again, s, _ => by
    have hsucc : (again || (m + 1 != 0)) = true := Bool.or_true again
    rw [Nat.add_right_comm, rounds, rounds, hsucc]
    by_cases hround : (s.round form again).conclusion = none
    · rw [andThen_of_unended hround, andThen_of_unended hround]
      exact rounds_add form n m hround
    · rw [andThen_of_ended hround, andThen_of_ended hround, andThen_of_ended hround]

/-- An interview that has not ended after some rounds goes on with the next one. -/
theorem exists_rounds_held (hnames : form.fieldNames.Nodup) (defaults : Answers)
    (r : Respondent φ) {n : Nat}
    (hu : ((start form defaults r).rounds form n false).conclusion = none) :
    ∃ m, form.held defaults r
      = ((start form defaults r).rounds form n false).rounds form (m + 1) (n != 0) := by
  have hstart : (start form defaults r).conclusion = none := rfl
  rcases Nat.lt_or_ge n (r.responses.length + 2) with hbefore | hafter
  · obtain ⟨m, hm⟩ := Nat.exists_eq_add_of_lt hbefore
    refine ⟨m, ?_⟩
    rw [Form.held, hm, Nat.add_assoc, rounds_add form (m + 1) n hstart, andThen_of_unended hu,
      Bool.false_or]
  · obtain ⟨j, rfl⟩ := Nat.exists_eq_add_of_le hafter
    have hended := conclusion_held hnames defaults r
    rw [Form.held] at hended
    rw [rounds_add form j _ hstart, andThen_of_ended hended] at hu
    exact absurd hu hended

/-! ## What an interview comes to -/

/-- What the end of an interview says of what was said in it, and of what its session holds. -/
structure ComesTo (form : Form) (r : Respondent φ) (s : Interview φ) (c : Conclusion φ) :
    Prop where
  finished : ∀ o, c = .finished o → o = .cancelled ∨ o = .submitted s.session.state.answers
  /-- The form is submitted just if its session accepted that. -/
  submitted_iff : c = .finished (.submitted s.session.state.answers)
    ↔ s.session.state.status = .submitted
  /-- An accepted session has handed over its answers, and every field that must be answered is. -/
  accepted : s.session.state.status = .submitted →
    s.session.events = [.submitted s.session.state.answers]
      ∧ ∀ f ∈ form.fields, f.isRequired = true →
        ∃ a, s.session.state.answers.get? f.name = some a
  /-- The form is cancelled just if the respondent gave it up, or did not confirm it. -/
  cancelled_iff : c = .cancelled ↔ s.Heard r (.ok false)
  failed_iff : ∀ reason, c = .failed reason ↔ s.Heard r (.error reason)
  /-- An interview is stuck on fields that must be answered and cannot be asked for. -/
  stuck : ∀ name, c = .stuck name → name = form.name
    ∧ (∃ f ∈ form.fields, f.isRequired = true ∧ s.session.state.answers.get? f.name = none)
    ∧ ∀ f ∈ form.fields, f.isRequired = true → s.session.state.answers.get? f.name = none →
      f.input.isHidden = true ∨ ∃ body, f.input = .documentBlock body

variable {c : Conclusion φ}

theorem submitted_ne_cancelled (answers : Answers) :
    (.finished (.submitted answers) : Conclusion φ) ≠ .cancelled := by
  simp [Conclusion.cancelled, Outcome.submitted, Outcome.cancelled]

/-- The last word is the only one against going on. -/
theorem HeardLast.heard_iff {last : Except φ Bool} (h : s.HeardLast r last)
    {word : Except φ Bool} (hword : word ≠ .ok true) : s.Heard r word ↔ last = word := by
  refine ⟨fun hheard => ((h.only word hheard).resolve_left hword).symm, ?_⟩
  rintro rfl
  exact h.heard

/-- Whoever only went on neither gave up nor failed. -/
theorem not_heard (h : ∀ word, s.Heard r word → word = .ok true) :
    ¬ s.Heard r (.ok false) ∧ ∀ reason, ¬ s.Heard r (.error reason) := by
  constructor
  · intro hheard
    cases h _ hheard
  · intro reason hheard
    cases h _ hheard

theorem LeftEarly.comesTo (h : LeftEarly r s) (hc : s.conclusion = some c) :
    s.ComesTo form r c := by
  cases h with
  | gaveUp hconclusion hstatus hheard =>
    obtain rfl : Conclusion.cancelled = c := Option.some.inj (hconclusion.symm.trans hc)
    have hnotSubmitted : s.session.state.status ≠ .submitted := by simp [hstatus]
    refine ⟨?_, iff_of_false (submitted_ne_cancelled _).symm hnotSubmitted,
      fun h => absurd h hnotSubmitted, iff_of_true rfl hheard.heard, fun reason => ?_,
      fun name h => by cases h⟩
    · rintro o ⟨⟩
      exact .inl rfl
    · rw [hheard.heard_iff (by simp)]
      simp [Conclusion.cancelled]
  | @failed reason hconclusion hstatus hheard =>
    obtain rfl : Conclusion.failed reason = c := Option.some.inj (hconclusion.symm.trans hc)
    have hnotSubmitted : s.session.state.status ≠ .submitted := by simp [hstatus]
    refine ⟨fun o h => (by cases h), iff_of_false (by simp) hnotSubmitted,
      fun h => absurd h hnotSubmitted, ?_, fun other => ?_, fun name h => by cases h⟩
    · rw [hheard.heard_iff (by simp)]
      simp [Conclusion.cancelled]
    · rw [hheard.heard_iff (by simp), Conclusion.failed.injEq, Except.error.injEq]

theorem Accepted.comesTo (h : Accepted r s t) (hs : s.GoesOn form.fields r)
    (hc : t.conclusion = some c) : t.ComesTo form r c := by
  have hanswers : t.session.state.answers = s.session.state.answers := by
    rw [h.state, SessionState.answers_attempted]
  obtain ⟨hnotGivenUp, hnotFailed⟩ := not_heard h.heard
  obtain rfl := Option.some.inj (h.conclusion.symm.trans hc)
  refine ⟨?_, ?_, fun _ => ⟨?_, ?_⟩, iff_of_false (submitted_ne_cancelled _) hnotGivenUp,
    fun reason => iff_of_false (by simp) (hnotFailed reason), fun name h => by cases h⟩
  · rintro o ⟨⟩
    rw [hanswers]
    exact .inr rfl
  · rw [hanswers]
    exact iff_of_true rfl h.status
  · rw [h.events, hanswers]
  · intro f hf hrequired
    obtain ⟨state, hstate, hrequirement⟩ := hs.session.get? hf
    have hsome : state.requirement.isSome := by
      rw [hrequirement, Field.requirement, if_pos hrequired]
      rfl
    obtain ⟨a, ha, hfull⟩ := FieldState.isMet_iff.1 (h.met f.name state hstate) hsome
    rw [hanswers]
    exact ⟨a, SessionState.get?_answers_iff.2 ⟨state, hstate, ha, hfull⟩⟩

theorem Asking.comesTo (h : Asking form.fields u [] s)
    (hchecked : u.session.state.Checked form.fields)
    (herrors : ∃ f ∈ form.fields, u.session.state.errors f.name ≠ [])
    (hs : s.GoesOn form.fields r) (hcount : s.count = 0) :
    (s.conclude (.stuck form.name)).ComesTo form r (.stuck form.name) := by
  obtain ⟨done, questions, hfields, -, -, howed⟩ := h.asked
  have hsession : (s.conclude (.stuck form.name)).session = u.session := h.idle hcount
  have hnotSubmitted : (s.conclude (.stuck form.name)).session.state.status ≠ .submitted := by
    rw [conclude, hs.session.status]
    simp
  obtain ⟨hnotGivenUp, hnotFailed⟩ := not_heard hs.heard
  refine ⟨fun o h => (by cases h), iff_of_false (by simp) hnotSubmitted,
    fun h => absurd h hnotSubmitted, iff_of_false (by simp [Conclusion.cancelled]) hnotGivenUp,
    fun reason => iff_of_false (by simp) (hnotFailed reason), ?_⟩
  rintro name ⟨⟩
  rw [hsession]
  obtain ⟨f, hf, hleft⟩ := herrors
  refine ⟨rfl, ⟨f, hf, (hchecked f hf).1 hleft⟩, fun g hg hrequired hnone => ?_⟩
  have hnotOwed : g.isOwed u.session.state ≠ true := by
    rw [hcount] at howed
    rw [hfields, List.append_nil] at hg
    exact List.filter_eq_nil_iff.1 (List.length_eq_zero_iff.1 howed.symm) g hg
  by_contra hfree
  obtain ⟨hhidden, hinput⟩ := not_or.1 hfree
  exact hnotOwed (Field.isOwed_iff.2 ⟨hrequired, hnone, by simpa using hhidden,
    fun body hbody => hinput ⟨body, hbody⟩⟩)

end Interview

/-- How an interview ends is told by what was said in it and by what its session holds; and in every
round after an attempt that was refused, unless it is left early, the fields asked for are those
that the attempt left without an answer that they must have, and that can be asked for. -/
theorem Form.interview_comesTo {form : Form} (hnames : form.fieldNames.Nodup)
    (defaults : Answers) (r : Respondent φ) :
    (form.held defaults r).ComesTo form r (form.interview defaults r).1
      ∧ ∀ n, let u := (Interview.start form defaults r).rounds form (n + 1) false
        u.conclusion = none →
          (∃ m, form.held defaults r = u.rounds form (m + 1) true)
          ∧ let t := u.askAll true form.fields
            t.conclusion = none → AskedInTurn (form.fields.filter (·.isOwed u.session.state))
              (t.questions.drop u.questions.length) := by
  obtain ⟨c, hc, hinterview⟩ := Interview.exists_conclusion hnames defaults r
  have hcourse := Interview.course_asking hnames r
  constructor
  · rw [hinterview]
    cases hcourse.held hnames defaults r (absurd rfl) with
    | leftEarly hleft => exact hleft.comesTo hc
    | stuck hgoes hkept hagain hcount heq =>
      obtain ⟨u, hchecked, herrors, hasking⟩ := hkept hagain
      rw [heq] at hc ⊢
      cases hc
      exact hasking.comesTo hchecked herrors hgoes hcount
    | accepted hgoes _ haccepted => exact haccepted.comesTo hgoes hc
  · intro n u hu
    refine ⟨Interview.exists_rounds_held hnames defaults r hu, ?_⟩
    intro t ht
    obtain ⟨hgoes, hbetween⟩ := (hcourse.rounds (n + 1)
      (Interview.goesOn_start hnames defaults r) (absurd rfl)).ofNone hu
    obtain ⟨hchecked, -⟩ := hbetween (by omega)
    obtain ⟨-, hasking⟩ := ((Interview.keptByTurns_asking hnames hchecked).askAll hgoes
      (Interview.asking_begun form.fields u)).ofNone ht
    exact hasking.askedInTurn

/-- A name that is left empty at first and asked for again, and a badge that must be given and is
hidden. -/
theorem Form.interview_comesTo_hidden_badge :
    let name : Field := ⟨"name", none, "", .basic .text none, some true, none⟩
    let badge : Field := ⟨"badge", none, "", .basic .text (some true), some true, none⟩
    let form : Form := ⟨"Visit", "visit", none, [name, badge], none⟩
    let r : Respondent Unit := ⟨[.ok .skip, .ok (.typed "Ada")], []⟩
    let u := (Interview.start form ∅ r).rounds form 1 false
    form.fieldNames.Nodup ∧ (form.interview ∅ r).1 = .stuck "visit"
      ∧ (∃ f ∈ form.fields, f.isRequired = true
        ∧ (form.held ∅ r).session.state.answers.get? f.name = none)
      ∧ AskedInTurn [name] ((u.askAll true form.fields).questions.drop u.questions.length) := by
  intro name badge form r u
  have hnames : form.fieldNames.Nodup := by decide
  have hstuck : (form.interview ∅ r).1 = .stuck "visit" := by decide +kernel
  obtain ⟨hcomes, hrounds⟩ := interview_comesTo hnames ∅ r
  have howed : form.fields.filter (·.isOwed u.session.state) = [name] := by decide +kernel
  have hasked := (hrounds 0 (by decide +kernel)).2 (by decide +kernel)
  rw [howed] at hasked
  exact ⟨hnames, hstuck, (hcomes.stuck "visit" hstuck).2.1, hasked⟩

end NoteForms
