import NoteForms.Proofs.Fitting

/-!
# Answers that are shown

An answer that is put in the place of an empty one, or where there was none, hides no field
(`Field.visibility_setAnswer`): the tests that an empty answer passes are passed by whatever else
fits its input (`Test.passes_of_isEmpty`).  A field is only asked for while it is shown and has no
full answer (`Interview.Showing`), so whatever a submitted form holds is shown in the end
(`Form.interview_answers_shown`).
-/

namespace NoteForms

variable {φ : Type}

/-! ## Tests of empty answers -/

namespace Text

theorem startsWith_of_empty {start : String} (h : startsWith "" start = true) (s : String) :
    startsWith s start = true := by
  have hnil : start.toList = [] := by simpa [startsWith] using h
  rw [startsWith, hnil, List.isPrefixOf_nil_left]

theorem contains_of_empty {needle : String} (h : contains "" needle = true) (s : String) :
    contains s needle = true := by
  have hnil : needle.toList = [] := by simpa [contains, containsChars] using h
  rw [contains, hnil]
  cases s.toList <;> rfl

end Text

namespace Input

variable {input : Input} {b : Answer}

/-- Where a text fits, only texts fit. -/
theorem takes_text {s : String} (h : input.Takes (.text s)) (hb : input.Takes b) :
    ∃ s', b = .text s' := by
  unfold Takes at h hb
  split at h <;> grind

theorem takes_list {items : List String} (h : input.Takes (.list items)) (hb : input.Takes b) :
    ∃ items', b = .list items' := by
  unfold Takes at h hb
  split at h <;> grind

end Input

/-- A test that an empty answer passes is passed by whatever else fits the same input. -/
theorem Test.passes_of_isEmpty {t : Test} {input : Input} {a b : Answer} (ha : input.Takes a)
    (hempty : a.isEmpty = true) (hpasses : t.passes a = true) (hb : input.Takes b) :
    t.passes b = true := by
  cases a with
  | text s =>
    obtain rfl : s = "" := String.isEmpty_iff.1 hempty
    obtain ⟨s', rfl⟩ := Input.takes_text ha hb
    cases t with
    | startsWith start => exact Text.startsWith_of_empty hpasses s'
    | contains needle => exact Text.contains_of_empty hpasses s'
    | _ => cases hpasses
  | list items =>
    obtain ⟨items', rfl⟩ := Input.takes_list ha hb
    cases t with
    | isSet => rfl
    | _ => cases hpasses
  | number x => cases hempty
  | flag x => cases hempty

/-! ## States -/

namespace SessionState

/-- Every field that is answered is shown. -/
def Shows (fields : List Field) (s : SessionState) : Prop :=
  ∀ f ∈ fields, s.answer? f.name ≠ none → f.visibility s = .ok true

end SessionState

namespace Field

variable {s : SessionState} {f : Field}

/-- A field is shown if it is not hidden, and either must be answered or its condition is met. -/
theorem visibility_eq_shown_iff : f.visibility s = .ok true ↔ f.input.isHidden = false
    ∧ (f.isRequired = true ∨ ∀ c ∈ f.condition, ∃ a, s.answer? c.dependency = some a
      ∧ c.test.passes a = true) := by
  unfold visibility
  split
  · simp [*]
  split
  · simp [*]
  split
  · simp [*]
  · rename_i hcondition
    rw [hcondition]
    split
    · rename_i hdependency
      simp [*, SessionState.answer?, Test.holds, Option.any_eq_true]
    · rename_i hnone
      simp [*, SessionState.answer?]

/-- A new answer to a field without a full one hides nothing. -/
theorem visibility_setAnswer {field : Field} {a : Answer}
    (hopen : s.answers.get? field.name = none)
    (hfits : ∀ b, s.answer? field.name = some b → field.input.Takes b)
    (ha : field.input.Takes a) (h : f.visibility s = .ok true) :
    f.visibility (s.setAnswer field.name (some a)) = .ok true := by
  obtain ⟨hhidden, hshown⟩ := visibility_eq_shown_iff.1 h
  refine visibility_eq_shown_iff.2 ⟨hhidden, hshown.imp id fun hmet c hc => ?_⟩
  obtain ⟨b, hb, hpasses⟩ := hmet c hc
  by_cases hname : field.name = c.dependency
  · rw [← hname] at hb ⊢
    refine ⟨a, SessionState.answer?_setAnswer_self hb _, ?_⟩
    exact Test.passes_of_isEmpty (hfits b hb) (SessionState.isEmpty_of_get?_answers hopen hb)
      hpasses ha
  · exact ⟨b, by rw [SessionState.answer?_setAnswer_ne s hname, hb], hpasses⟩

theorem visibility_attempted (h : f.visibility s = .ok true) :
    f.visibility s.attempted = .ok true := by
  rw [visibility_eq_shown_iff] at h ⊢
  simpa only [SessionState.answer?_attempted] using h

end Field

theorem SessionState.Shows.attempted {fields : List Field} {s : SessionState}
    (h : s.Shows fields) : s.attempted.Shows fields := by
  intro f hf ha
  rw [answer?_attempted] at ha
  exact Field.visibility_attempted (h f hf ha)

/-- A field that is shown may be given an answer in the place of one that is not full. -/
theorem SessionState.Shows.setAnswer {fields : List Field} {s : SessionState}
    (h : s.Shows fields) (hnames : (fields.map (·.name)).Nodup) {field : Field}
    (hfield : field ∈ fields) (hshown : field.visibility s = .ok true)
    (hopen : s.answers.get? field.name = none) (hfits : s.Fits fields) {a : Answer}
    (ha : field.input.Takes a) : (s.setAnswer field.name (some a)).Shows fields := by
  intro f hf hanswered
  refine Field.visibility_setAnswer hopen (hfits field hfield) ha ?_
  by_cases heq : field.name = f.name
  · obtain rfl := List.inj_on_of_nodup_map hnames hfield hf heq
    exact hshown
  · rw [answer?_setAnswer_ne s heq] at hanswered
    exact h f hf hanswered

/-! ## Interviews -/

namespace Interview

variable {form : Form} {r : Respondent φ} {s t : Interview φ}

/-- The answers fit and are shown, and the fields that may still be asked for have no full one. -/
structure Showing (again : Bool) (fields todo : List Field) (s : SessionState) : Prop where
  fits : s.Fits fields
  shows : s.Shows fields
  pending : ∀ f ∈ todo, (again = true → s.errors f.name ≠ []) → s.answers.get? f.name = none

theorem Showing.turned {again : Bool} {fields done todo : List Field} {field : Field}
    (h : Showing again fields (field :: todo) s.session.state)
    (hnames : (fields.map (·.name)).Nodup) (hfields : fields = done ++ field :: todo)
    (hturned : Turned again r field s t) (hlists : r.ListsOnly t.questions) :
    Showing again fields todo t.session.state := by
  have hfield : field ∈ fields := by rw [hfields]; simp
  refine ⟨hturned.fits hnames hfield hlists h.fits, ?_, fun f hf => ?_⟩
  · rcases hturned.takes hlists with hstate | ⟨⟨-, hshown, herrors⟩, a, ha, hstate⟩ <;> rw [hstate]
    · exact h.shows
    · -- in the first round it was not answered at all, in a later one it has errors
      exact h.shows.setAnswer hnames hfield hshown (h.pending field List.mem_cons_self herrors)
        h.fits ha
  · have hkept := hturned.get?_ne (name_ne_of_nodup hnames hfields hf)
    rw [SessionState.errors_congr hkept, SessionState.get?_answers_congr hkept]
    exact h.pending f (List.mem_cons_of_mem _ hf)

theorem showing_start (hnames : form.fieldNames.Nodup) (r : Respondent φ) :
    Showing false form.fields form.fields (start form ∅ r).session.state where
  fits := fits_start hnames r
  shows f _ hanswered := absurd (answer?_start hnames r f.name) hanswered
  pending f _ _ := by
    rw [SessionState.get?_answers, answer?_start hnames r f.name]
    rfl

theorem course_showing (hnames : form.fieldNames.Nodup) (r : Respondent φ) :
    Course form r
      (fun k s => r.ListsOnly s.questions →
        Showing (k != 0) form.fields form.fields s.session.state)
      (fun k todo s => r.ListsOnly s.questions →
        Showing (k != 0) form.fields todo s.session.state) where
  begins h := h
  turned _ _ _ _ _ _ hfields _ _ hturned h hlists :=
    (h (hlists.of_isPrefix hturned.isPrefix)).turned hnames hfields hturned hlists
  refused hgoes hrefused h _ hlists := by
    obtain ⟨hfits, hshows, -⟩ := h (hrefused.questions ▸ hlists)
    refine ⟨hrefused.state ▸ hfits.attempted, hrefused.state ▸ hshows.attempted, ?_⟩
    intro f hf herrors
    exact ((hrefused.checked hgoes f hf).1 (herrors rfl)).2

end Interview

/-- Where items are given only for lists, every field that a submitted form holds an answer to is
shown in the end. -/
theorem Form.interview_answers_shown {form : Form} (hnames : form.fieldNames.Nodup)
    {r : Respondent φ}
    (hlists : r.ListsOnly ((form.interview ∅ r).2.filterMap Remark.question?)) {answers : Answers}
    (h : (form.interview ∅ r).1 = .finished (.submitted answers)) :
    ∀ name a, answers.get? name = some a →
      ∃ f ∈ form.fields, f.name = name ∧ f.visibility (form.held ∅ r).session.state = .ok true := by
  obtain ⟨c, hc, hinterview⟩ := Interview.exists_conclusion hnames ∅ r
  rw [hinterview] at hlists h
  cases h
  have hended := (Interview.course_showing hnames r).held hnames ∅ r fun _ =>
    Interview.showing_start hnames r
  obtain ⟨k, s, hgoes, hshowing, haccepted, rfl⟩ := hended.submitted hc
  have hlists' : r.ListsOnly s.questions := haccepted.questions ▸ hlists
  intro name a ha
  obtain ⟨f, hf, hname, hanswer, hfull⟩ := Interview.exists_field_of_get? hgoes ha
  have hshown := (hshowing hlists').shows f hf (by rw [hanswer]; exact Option.some_ne_none a)
  rw [haccepted.state]
  exact ⟨f, hf, hname, Field.visibility_attempted hshown⟩

/-- A field that is shown for any kind, even an empty one, after which the kind is asked for again;
and one that is shown for no such kind and gets no answer. -/
theorem Form.interview_answers_shown_empty_kind :
    let kind : Field := ⟨"kind", none, "", .basic .text none, some true, none⟩
    let extra : Field := ⟨"extra", none, "", .basic .text none, none,
      some ⟨"kind", .startsWith ""⟩⟩
    let sugar : Field := ⟨"sugar", none, "", .basic .text none, none,
      some ⟨"kind", .startsWith "black"⟩⟩
    let form : Form := ⟨"Tea", "tea", none, [kind, extra, sugar], none⟩
    let r : Respondent Unit := ⟨[.ok (.typed ""), .ok (.typed "milk"), .ok (.typed "green")], []⟩
    let answers : Answers := .ofList [("kind", .text "green"), ("extra", .text "milk")]
    r.ListsOnly ((form.interview ∅ r).2.filterMap Remark.question?)
      ∧ (form.interview ∅ r).1 = .finished (.submitted answers)
      ∧ (∃ f ∈ form.fields, f.name = "extra"
        ∧ f.visibility (form.held ∅ r).session.state = .ok true)
      ∧ sugar.visibility (form.held ∅ r).session.state = .ok false
      ∧ answers.get? sugar.name = none := by
  intro kind extra sugar form r answers
  have hlists : r.ListsOnly ((form.interview ∅ r).2.filterMap Remark.question?) := by
    decide +kernel
  have hfinished : (form.interview ∅ r).1 = .finished (.submitted answers) := by decide +kernel
  have hhidden : (sugar.visibility (form.held ∅ r).session.state).toOption = some false := by
    decide +kernel
  have hnames : form.fieldNames.Nodup := by decide
  exact ⟨hlists, hfinished, interview_answers_shown hnames hlists hfinished "extra"
    (.text "milk") (by decide +kernel), eq_ok_of_toOption hhidden, by decide +kernel⟩

end NoteForms
