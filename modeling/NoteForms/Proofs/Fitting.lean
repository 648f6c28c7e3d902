import Mathlib.Data.List.Nodup
import NoteForms.Proofs.Choices
import NoteForms.Proofs.Rounds

/-!
# Answers that fit their fields

What a response is read as fits the input that it was given to (`Input.takes_answerResponse`), and
an input keeps what fits it as it is (`Input.coerce_of_takes`).  So if items are only given where a
list is expected, whatever a submitted form holds is a full answer that fits its field
(`Form.interview_answers_fit`).
-/

namespace NoteForms

variable {φ : Type}

/-! ## Between two bounds -/

namespace Bound

/-- Whether a bound is not greater than a number. -/
def IsAtMost : Bound → Binary64 → Prop
  | .finite b, x => b ≤ x
  | .infinite negative, _ => negative = true
  | .undefined, _ => False

/-- Whether a bound is not less than a number. -/
def IsAtLeast : Bound → Binary64 → Prop
  | .finite b, x => x ≤ b
  | .infinite negative, _ => negative = false
  | .undefined, _ => False

/-- Whether a number lies between two bounds, which may be given in either order.  A bound that is
no number leaves it to the other one, and two of them leave it open. -/
def Encloses (a b : Bound) (x : Binary64) : Prop :=
  a = .undefined ∧ b = .undefined
    ∨ (a.IsAtMost x ∨ b.IsAtMost x) ∧ (a.IsAtLeast x ∨ b.IsAtLeast x)

theorem not_lt_iff {x y : Binary64} : ¬ x < y ↔ y ≤ x := Int.not_lt

theorem isAtMost_of_isAbove {b : Bound} {x : Binary64} (hb : b ≠ .undefined)
    (h : b.isAbove x = false) : b.IsAtMost x := by
  cases b with
  | finite b => exact not_lt_iff.1 (of_decide_eq_false h)
  | infinite negative => exact (Bool.not_eq_false' negative).mp h
  | undefined => exact absurd rfl hb

theorem isAtLeast_of_isBelow {b : Bound} {x : Binary64} (hb : b ≠ .undefined)
    (h : b.isBelow x = false) : b.IsAtLeast x := by
  cases b with
  | finite b => exact not_lt_iff.1 (of_decide_eq_false h)
  | infinite negative => exact h
  | undefined => exact absurd rfl hb

/-- The lesser of two bounds is one of them, and a number unless neither is. -/
theorem least_eq (a b : Bound) :
    (a.least b = a ∨ a.least b = b)
      ∧ (a.least b = .undefined → a = .undefined ∧ b = .undefined) := by
  unfold least Binary64.least
  split <;> grind

theorem greatest_eq (a b : Bound) :
    (a.greatest b = a ∨ a.greatest b = b)
      ∧ (a.greatest b = .undefined → a = .undefined ∧ b = .undefined) := by
  unfold greatest Binary64.greatest
  split <;> grind

/-- What is not below the lesser bound nor above the greater one lies between them. -/
theorem encloses_of_not_outside {a b : Bound} {x : Binary64}
    (hlow : (a.least b).isAbove x = false) (hhigh : (a.greatest b).isBelow x = false) :
    a.Encloses b x := by
  by_cases hnone : a = .undefined ∧ b = .undefined
  · exact .inl hnone
  · obtain ⟨hleast, hnumber⟩ := least_eq a b
    obtain ⟨hgreatest, hnumber'⟩ := greatest_eq a b
    have hmost := isAtMost_of_isAbove (mt hnumber hnone) hlow
    have hover := isAtLeast_of_isBelow (mt hnumber' hnone) hhigh
    refine .inr ⟨?_, ?_⟩
    · rcases hleast with h | h <;> rw [h] at hmost
      · exact .inl hmost
      · exact .inr hmost
    · rcases hgreatest with h | h <;> rw [h] at hover
      · exact .inl hover
      · exact .inr hover

end Bound

/-! ## Inputs and their answers -/

namespace Input

/-- The answers that fit an input, empty ones among them. -/
def Takes : Input → Answer → Prop
  | .basic .toggle _, a => ∃ b, a = .flag b
  | .basic .number _, a => ∃ x, a = .number x
  | .slider min max, a => ∃ x, a = .number x ∧ min.Encloses max x
  | .select (.fixed options), a =>
    ∃ s, a = .text s ∧ (options ≠ [] → ∃ o ∈ options, o.value = s)
  | .multiselect (.fixed options false), a => ∃ items, a = .list items ∧ ∀ i ∈ items, i ∈ options
  | .multiselect _, a => ∃ items, a = .list items
  | .tag _, a => ∃ items, a = .list items
  | .documentBlock _, _ => False
  | _, a => ∃ s, a = .text s

variable {input : Input} {a : Answer}

theorem takes_answerItems {items : List String} (hlist : input.kind.isList = true)
    (h : input.answerItems items = .ok a) : input.Takes a := by
  unfold answerItems at h
  split at h
  · cases h
  · rename_i hknown
    rw [if_pos hlist] at h
    cases h
    cases input with
    | tag exclude => exact ⟨items, rfl⟩
    | multiselect source =>
      cases source with
      | fixed options allowUnknown =>
        cases allowUnknown with
        | true => exact ⟨items, rfl⟩
        | false =>
          refine ⟨items, rfl, fun item hitem => ?_⟩
          simpa using List.find?_eq_none.1 hknown item hitem
      | _ => exact ⟨items, rfl⟩
    | _ => cases hlist

theorem takes_typedBounded {min max : Bound} {typed : String} {x : Binary64}
    (h : typedBounded min max typed = .ok x) : min.Encloses max x := by
  unfold typedBounded at h
  obtain ⟨y, -, h⟩ := bind_eq_ok_iff.1 h
  split at h
  · cases h
  · rename_i hinside
    obtain ⟨hlow, hhigh⟩ := not_or.1 (mt Bool.or_eq_true_iff.2 hinside)
    cases h
    exact Bound.encloses_of_not_outside (by simpa using hlow) (by simpa using hhigh)

theorem takes_answerTyped {typed : String} (hinput : ∀ body, input ≠ .documentBlock body)
    (h : input.answerTyped typed = .ok a) : input.Takes a := by
  unfold answerTyped at h
  split at h
  · exact takes_answerItems ‹_› h
  · rename_i hlist
    split at h
    · obtain ⟨b, -, rfl⟩ := map_eq_ok_iff.1 h
      exact ⟨b, rfl⟩
    · obtain ⟨x, -, rfl⟩ := map_eq_ok_iff.1 h
      exact ⟨x, rfl⟩
    · obtain ⟨x, hx, rfl⟩ := map_eq_ok_iff.1 h
      exact ⟨x, rfl, takes_typedBounded hx⟩
    · split at h
      · rename_i hempty
        cases h
        exact ⟨typed, rfl, fun hne => absurd (List.isEmpty_iff.1 hempty) hne⟩
      · obtain ⟨value, hvalue, rfl⟩ := map_eq_ok_iff.1 h
        exact ⟨value, rfl, fun _ => mem_of_typedOption hvalue⟩
    · -- any other input keeps what is typed
      rename_i htoggle hnumber hslider hselect
      cases h
      cases input with
      | basic kind hidden =>
        cases kind with
        | toggle => exact absurd rfl (htoggle hidden)
        | number => exact absurd rfl (hnumber hidden)
        | _ => exact ⟨typed, rfl⟩
      | slider min max => exact absurd rfl (hslider min max)
      | select source =>
        cases source with
        | notes folder => exact ⟨typed, rfl⟩
        | fixed options => exact absurd rfl (hselect options)
      | tag exclude => exact absurd rfl hlist
      | multiselect source => exact absurd rfl hlist
      | documentBlock body => exact absurd rfl (hinput body)
      | _ => exact ⟨typed, rfl⟩

theorem takes_answerResponse {response : Response} (hinput : ∀ body, input ≠ .documentBlock body)
    (hitems : ∀ items, response = .items items → input.kind.isList = true)
    (h : input.answerResponse response = some (.ok a)) : input.Takes a := by
  cases response with
  | typed text => exact takes_answerTyped hinput (Option.some.inj h)
  | items chosen => exact takes_answerItems (hitems chosen rfl) (Option.some.inj h)
  | _ => cases h

/-- What fits an input is kept as it is: numbers are expected only where texts do not fit. -/
theorem coerce_of_takes (h : input.Takes a) : input.kind.coerce a = a := by
  cases a with
  | text s =>
    have hnumeric : input.kind.isNumeric = false := by
      cases input with
      | basic kind hidden =>
        cases kind with
        | number => obtain ⟨x, hx⟩ := h; cases hx
        | _ => rfl
      | slider min max => obtain ⟨x, hx, -⟩ := h; cases hx
      | _ => rfl
    simp [InputKind.coerce, hnumeric]
  | _ => rfl

end Input

/-! ## Interviews whose answers fit -/

/-- Every answer fits the input of its field. -/
def SessionState.Fits (fields : List Field) (s : SessionState) : Prop :=
  ∀ f ∈ fields, ∀ a, s.answer? f.name = some a → f.input.Takes a

theorem SessionState.Fits.setAnswer {fields : List Field} {s : SessionState} (h : s.Fits fields)
    (hnames : (fields.map (·.name)).Nodup) {field : Field} (hfield : field ∈ fields) {a : Answer}
    (ha : field.input.Takes a) : (s.setAnswer field.name (some a)).Fits fields := by
  intro f hf b hb
  by_cases heq : field.name = f.name
  · obtain rfl := List.inj_on_of_nodup_map hnames hfield hf heq
    cases eq_of_answer?_setAnswer hb
    exact ha
  · rw [answer?_setAnswer_ne s heq] at hb
    exact h f hf b hb

theorem SessionState.Fits.attempted {fields : List Field} {s : SessionState} (h : s.Fits fields) :
    s.attempted.Fits fields := by
  intro f hf a ha
  rw [answer?_attempted] at ha
  exact h f hf a ha

/-- Whether a response may be given to a question: items may only where a list is expected. -/
def Question.admits (q : Question) : Except φ Response → Bool
  | .ok (.items _) => q.field.input.kind.isList
  | _ => true

/-- Items are given only where a list is expected, each response to the question of its place. -/
def Respondent.ListsOnly (r : Respondent φ) (questions : List Question) : Prop :=
  ∀ p ∈ questions.zip r.responses, p.1.admits p.2 = true

instance (r : Respondent φ) (questions : List Question) : Decidable (r.ListsOnly questions) :=
  inferInstanceAs (Decidable (∀ p ∈ questions.zip r.responses, p.1.admits p.2 = true))

theorem Respondent.listsOnly_iff {r : Respondent φ} {questions : List Question} :
    r.ListsOnly questions ↔ ∀ (k : Nat) (q : Question) (response : Except φ Response),
      questions[k]? = some q → r.responses[k]? = some response → q.admits response = true := by
  constructor
  · intro h k q response hq hresponse
    exact h (q, response) (List.mem_iff_getElem?.2
      ⟨k, List.getElem?_zip_eq_some.2 ⟨hq, hresponse⟩⟩)
  · intro h p hp
    obtain ⟨k, hk⟩ := List.mem_iff_getElem?.1 hp
    obtain ⟨hq, hresponse⟩ := List.getElem?_zip_eq_some.1 hk
    exact h k p.1 p.2 hq hresponse

theorem Respondent.ListsOnly.of_isPrefix {r : Respondent φ} {before after : List Question}
    (h : r.ListsOnly after) (hbefore : before <+: after) : r.ListsOnly before := by
  obtain ⟨rest, rfl⟩ := hbefore
  refine listsOnly_iff.2 fun k q response hq => listsOnly_iff.1 h k q response ?_
  rw [List.getElem?_append_left (List.getElem?_eq_some_iff.1 hq).1, hq]

namespace Interview

variable {form : Form} {r : Respondent φ} {s t : Interview φ}

/-- A turn leaves the answers as they are, or the field of the turn is asked for and given an answer
that fits it. -/
theorem Turned.takes {again : Bool} {field : Field} (h : Turned again r field s t)
    (hlists : r.ListsOnly t.questions) :
    t.session.state = s.session.state ∨ s.IsDue again field ∧ ∃ a, field.input.Takes a
      ∧ t.session.state = s.session.state.setAnswer field.name (some a) := by
  cases h with
  | passed _ hsession _ _ => exact .inl (congrArg (·.state) hsession)
  | asked hdue _ _ _ htook =>
    cases htook with
    | nothing hstate => exact .inl hstate
    | answer hquestion hfield hgiven hfits hstate =>
      have hadmits := Respondent.listsOnly_iff.1 hlists _ _ _ hquestion hgiven
      have htakes := Input.takes_answerResponse hdue.1
        (fun items heq => by rw [heq] at hadmits; exact hfield ▸ hadmits) hfits
      rw [Input.coerce_of_takes htakes] at hstate
      exact .inr ⟨hdue, _, htakes, hstate⟩

theorem Turned.fits {again : Bool} {fields : List Field} {field : Field}
    (h : Turned again r field s t) (hnames : (fields.map (·.name)).Nodup)
    (hfield : field ∈ fields) (hlists : r.ListsOnly t.questions)
    (hfits : s.session.state.Fits fields) : t.session.state.Fits fields := by
  rcases h.takes hlists with hstate | ⟨-, a, ha, hstate⟩ <;> rw [hstate]
  · exact hfits
  · exact hfits.setAnswer hnames hfield ha

theorem fits_start (hnames : form.fieldNames.Nodup) (r : Respondent φ) :
    (start form ∅ r).session.state.Fits form.fields := by
  intro f _ a ha
  rw [answer?_start hnames r f.name] at ha
  cases ha

theorem course_fits (hnames : form.fieldNames.Nodup) (r : Respondent φ) :
    Course form r (fun _ s => r.ListsOnly s.questions → s.session.state.Fits form.fields)
      (fun _ _ s => r.ListsOnly s.questions → s.session.state.Fits form.fields) where
  begins h := h
  turned _ done field todo _ _ hfields _ _ hturned h hlists :=
    hturned.fits hnames (by rw [hfields]; simp) hlists (h (hlists.of_isPrefix hturned.isPrefix))
  refused _ hrefused h _ hlists := by
    rw [hrefused.state]
    exact (h (hrefused.questions ▸ hlists)).attempted

/-- What is submitted is the answer to some field. -/
theorem exists_field_of_get? {fields : List Field} (h : s.GoesOn fields r) {name : String}
    {a : Answer} (ha : s.session.state.answers.get? name = some a) :
    ∃ f ∈ fields, f.name = name ∧ s.session.state.answer? f.name = some a ∧ a.isEmpty = false := by
  obtain ⟨f, hf, hanswer, hfull⟩ := SessionState.get?_answers_iff.1 ha
  obtain ⟨field, hfield, rfl, -⟩ := h.session.exists_field hf
  exact ⟨field, hfield, rfl, by rw [SessionState.answer?, hf]; exact hanswer, hfull⟩

end Interview

/-- Where items are given only for lists, whatever a submitted form holds is a full answer to one of
its fields, and fits it. -/
theorem Form.interview_answers_fit {form : Form} (hnames : form.fieldNames.Nodup)
    {r : Respondent φ}
    (hlists : r.ListsOnly ((form.interview ∅ r).2.filterMap Remark.question?)) {answers : Answers}
    (h : (form.interview ∅ r).1 = .finished (.submitted answers)) :
    ∀ name a, answers.get? name = some a →
      ∃ f ∈ form.fields, f.name = name ∧ f.input.Takes a ∧ a.isEmpty = false := by
  obtain ⟨c, hc, hinterview⟩ := Interview.exists_conclusion hnames ∅ r
  rw [hinterview] at hlists h
  cases h
  have hended := (Interview.course_fits hnames r).held hnames ∅ r fun _ =>
    Interview.fits_start hnames r
  obtain ⟨k, s, hgoes, hfits, haccepted, rfl⟩ := hended.submitted hc
  have hlists' : r.ListsOnly s.questions := haccepted.questions ▸ hlists
  intro name a ha
  obtain ⟨f, hf, hname, hanswer, hfull⟩ := Interview.exists_field_of_get? hgoes ha
  exact ⟨f, hf, hname, hfits hlists' f hf a hanswer, hfull⟩

/-- A cup whose strength is given between bounds in reverse order, after a first answer beyond them,
and whose extras are chosen from a list. -/
theorem Form.interview_answers_fit_cup :
    let strength : Field := ⟨"strength", none, "",
      .slider (Binary64.ofInt 5 : Binary64) (Binary64.ofInt 1 : Binary64), none, none⟩
    let extras : Field := ⟨"extras", none, "", .multiselect (.fixed ["milk", "sugar"] false), none,
      none⟩
    let form : Form := ⟨"Cup", "cup", none, [strength, extras], none⟩
    let r : Respondent Unit :=
      ⟨[.ok (.typed "9"), .ok (.typed " 3 "), .ok (.items ["sugar"])], []⟩
    let answers : Answers :=
      .ofList [("strength", .number (.ofInt 3)), ("extras", .list ["sugar"])]
    r.ListsOnly ((form.interview ∅ r).2.filterMap Remark.question?)
      ∧ (form.interview ∅ r).1 = .finished (.submitted answers)
      ∧ ∃ f ∈ form.fields, f.name = "strength" ∧ f.input.Takes (.number (.ofInt 3)) := by
  intro strength extras form r answers
  have hlists : r.ListsOnly ((form.interview ∅ r).2.filterMap Remark.question?) := by
    decide +kernel
  have hfinished : (form.interview ∅ r).1 = .finished (.submitted answers) := by decide +kernel
  have hnames : form.fieldNames.Nodup := by decide
  obtain ⟨f, hf, hname, htakes, -⟩ := interview_answers_fit hnames hlists hfinished "strength"
    (.number (.ofInt 3)) (by decide +kernel)
  exact ⟨hlists, hfinished, f, hf, hname, htakes⟩

end NoteForms
