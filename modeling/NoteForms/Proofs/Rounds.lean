import NoteForms.Proofs.Exchanges
import NoteForms.Proofs.Unwatched

/-!
# The course of an interview

While an interview goes on, its session is open, and the respondent has neither given up nor failed
(`Interview.GoesOn`).  A turn of a field either passes or asks for the field
(`Interview.GoesOn.turn`), and a round ends with an attempt to submit (`Interview.GoesOn.attempt`).
What is true at first and kept by turns and refused attempts can be told of the end of any interview
(`Interview.Course.held`), and every interview comes to an end (`Interview.conclusion_held`).
-/

namespace NoteForms

variable {φ : Type} {fields : List Field}

theorem name_ne_of_nodup {done todo : List Field} {field : Field}
    (hnames : (fields.map (·.name)).Nodup) (hfields : fields = done ++ field :: todo) {f : Field}
    (hf : f ∈ todo) : field.name ≠ f.name := by
  rw [hfields, List.map_append, List.map_cons] at hnames
  have hfresh := (List.nodup_cons.1 (List.nodup_append.1 hnames).2.1).1
  exact fun heq => hfresh (List.mem_map.2 ⟨f, hf, heq.symm⟩)

/-! ## The session behind an interview -/

namespace Session

variable {ε : Type} {s : Session ε}

/-- The session is open for answers to some fields, and only its end is noted. -/
structure Serves (fields : List Field) (s : Session ε) : Prop where
  isOpen : s.isClosed = false
  fields_eq : s.fields = fields
  watchers : s.watchers = []
  onSubmit : s.onSubmit = some ⟨none⟩
  onCancel : s.onCancel = some ⟨none⟩
  events : s.events = []
  status : s.state.status = .draft
  kept : ∀ f ∈ fields, s.state.rule? f.name = some f.requirement
  known : ∀ name, s.state.rule? name ≠ none → ∃ f ∈ fields, f.name = name

theorem Serves.withState (h : s.Serves fields) {state : SessionState}
    (hstatus : state.status = s.state.status)
    (hrule : ∀ name, state.rule? name = s.state.rule? name) :
    Serves fields { s with state := state } where
  isOpen := h.isOpen
  fields_eq := h.fields_eq
  watchers := h.watchers
  onSubmit := h.onSubmit
  onCancel := h.onCancel
  events := h.events
  status := hstatus.trans h.status
  kept f hf := (hrule f.name).trans (h.kept f hf)
  known name hname := h.known name (hrule name ▸ hname)

theorem find?_name (hnames : (fields.map (·.name)).Nodup) {field : Field}
    (hfield : field ∈ fields) : fields.find? (fun f => f.name = field.name) = some field := by
  induction fields with
  | nil => cases hfield
  | cons f fields ih =>
    obtain ⟨hf, hnames⟩ := List.nodup_cons.1 hnames
    rcases List.mem_cons.1 hfield with rfl | hfield
    · rw [List.find?_cons_of_pos (by simp)]
    · have hne : f.name ≠ field.name := fun heq =>
        hf (List.mem_map.2 ⟨field, hfield, heq.symm⟩)
      rw [List.find?_cons_of_neg (by simpa using hne)]
      exact ih hnames hfield

theorem get?_forFields (hnames : (fields.map (·.name)).Nodup) (defaults : Answers)
    (onSubmit onCancel : Option (Ending ε)) (name : String) :
    (forFields fields defaults onSubmit onCancel).state.fields.get? name
      = (fields.find? fun f => f.name = name).map (·.initialState defaults) := by
  rw [forFields_eq]
  refine (SessionState.get?_registerAll defaults name .start hnames).trans ?_
  cases fields.find? fun f => f.name = name <;> rfl

theorem status_registerAll (defaults : Answers) : ∀ (fields : List Field) (s : SessionState),
    (s.registerAll fields defaults).status = s.status
  | [], _ => rfl
  | field :: fields, s => status_registerAll defaults fields (s.register field defaults)

theorem serves_forFields (hnames : (fields.map (·.name)).Nodup) (defaults : Answers) :
    Serves fields (forFields fields defaults (some ⟨none⟩) (some ⟨none⟩) : Session ε) := by
  have hrule : ∀ name, (forFields fields defaults (some ⟨none⟩) (some ⟨none⟩) :
      Session ε).state.rule? name = (fields.find? fun f => f.name = name).map (·.requirement) := by
    intro name
    rw [SessionState.rule?, get?_forFields hnames, Option.map_map]
    rfl
  have heq := forFields_eq fields defaults (some ⟨none⟩) (some (⟨none⟩ : Ending ε))
  refine ⟨by rw [heq]; rfl, by rw [heq], by rw [heq]; rfl, by rw [heq]; rfl, by rw [heq]; rfl,
    by rw [heq]; rfl, by rw [heq]; exact status_registerAll defaults fields .start,
    fun f hf => by rw [hrule, find?_name hnames hf]; rfl, fun name hname => ?_⟩
  rw [hrule] at hname
  cases hfind : fields.find? fun f => f.name = name with
  | none => exact absurd (by rw [hfind]; rfl) hname
  | some f => exact ⟨f, List.mem_of_find?_eq_some hfind, by simpa using List.find?_some hfind⟩

/-- Fields that are answered for are found in the state, with their rules. -/
theorem Serves.get? (h : s.Serves fields) {field : Field} (hfield : field ∈ fields) :
    ∃ f, s.state.fields.get? field.name = some f ∧ f.requirement = field.requirement := by
  have hkept := h.kept field hfield
  rw [SessionState.rule?] at hkept
  exact Option.map_eq_some_iff.1 hkept

/-- Whatever is found in the state belongs to a field. -/
theorem Serves.exists_field (h : s.Serves fields) {name : String} {f : FieldState}
    (hf : s.state.fields.get? name = some f) :
    ∃ field ∈ fields, field.name = name ∧ f.requirement = field.requirement := by
  have hrule : s.state.rule? name = some f.requirement := by rw [SessionState.rule?, hf]; rfl
  obtain ⟨field, hfield, rfl⟩ := h.known name (by rw [hrule]; exact Option.some_ne_none _)
  rw [h.kept field hfield] at hrule
  exact ⟨field, hfield, rfl, (Option.some.inj hrule).symm⟩

end Session

/-- Errors are left just on the fields that must be answered and are not. -/
def SessionState.Checked (fields : List Field) (s : SessionState) : Prop :=
  ∀ f ∈ fields, s.errors f.name ≠ [] ↔ f.isRequired = true ∧ s.answers.get? f.name = none

namespace Interview

/-! ## Going on and ending -/

/-- What is true of an interview while it goes on, and what once it has ended. -/
structure Leads (goesOn ended : Interview φ → Prop) (s : Interview φ) : Prop where
  ofNone : s.conclusion = none → goesOn s
  ofSome : s.conclusion ≠ none → ended s

theorem Leads.of_none {P E : Interview φ → Prop} {s : Interview φ} (h : s.conclusion = none)
    (hP : P s) : Leads P E s := ⟨fun _ => hP, fun hne => absurd h hne⟩

theorem Leads.of_some {P E : Interview φ → Prop} {s : Interview φ} {c : Conclusion φ}
    (h : s.conclusion = some c) (hE : E s) : Leads P E s :=
  ⟨fun hnone => absurd (h.symm.trans hnone) (Option.some_ne_none c), fun _ => hE⟩

theorem Leads.andThen {P Q E : Interview φ → Prop} {s : Interview φ} (h : Leads P E s)
    {step : Interview φ → Interview φ} (hstep : s.conclusion = none → P s → Leads Q E (step s)) :
    Leads Q E (s.andThen step) := by
  unfold Interview.andThen
  split
  · rename_i hsome
    have hne : s.conclusion ≠ none := by rwa [← Option.isSome_iff_ne_none]
    exact ⟨fun hnone => absurd hnone hne, h.ofSome⟩
  · rename_i hnone
    have hnone : s.conclusion = none := by simpa using hnone
    exact hstep hnone (h.ofNone hnone)

theorem Leads.imp {P Q E F : Interview φ → Prop} {s : Interview φ} (h : Leads P E s)
    (hP : s.conclusion = none → P s → Q s) (hE : E s → F s) : Leads Q F s :=
  ⟨fun hnone => hP hnone (h.ofNone hnone), fun hne => hE (h.ofSome hne)⟩

/-- The interview goes on: its session is open, and all that the respondent has said so far is to
go on. -/
structure GoesOn (fields : List Field) (r : Respondent φ) (s : Interview φ) : Prop where
  unended : s.conclusion = none
  session : s.session.Serves fields
  responses : s.respondent.responses = r.responses.drop s.questions.length
  confirmations : s.respondent.confirmations = r.confirmations.drop s.reviews
  heard : ∀ word, s.Heard r word → word = .ok true

/-- All that the respondent has said is to go on, but for one word that ended the interview. -/
structure HeardLast (r : Respondent φ) (s : Interview φ) (word : Except φ Bool) : Prop where
  heard : s.Heard r word
  only : ∀ other, s.Heard r other → other = .ok true ∨ other = word

/-- The interview was ended by the respondent. -/
inductive LeftEarly (r : Respondent φ) (s : Interview φ) : Prop
  | gaveUp (conclusion : s.conclusion = some .cancelled)
      (status : s.session.state.status = .cancelled) (heard : s.HeardLast r (.ok false))
  | failed {reason : φ} (conclusion : s.conclusion = some (.failed reason))
      (status : s.session.state.status = .draft) (heard : s.HeardLast r (.error reason))

variable {r : Respondent φ} {s t : Interview φ}

theorem giveUp_of_serves (h : s.session.Serves fields) :
    s.giveUp.conclusion = some .cancelled ∧ s.giveUp.session.state.status = .cancelled := by
  have hcancel := Session.run_cancel h.watchers h.isOpen h.onCancel
  unfold giveUp finish act Session.outcome
  simp only [hcancel]
  exact ⟨rfl, rfl⟩

/-! ## Questions -/

/-- Asking for a field adds the question as often as it takes, and what was said to it. -/
theorem heard_ask {q : Question} {refused : Nat} {remarks : List Remark} {asked : Asked φ}
    (h : s.GoesOn fields r) (hask : q.Exchange s.respondent.responses refused remarks asked)
    {t : Interview φ} (ht : t.transcript = s.transcript ++ remarks) :
    t.questions = s.questions ++ List.replicate (refused + 1) q ∧ t.reviews = s.reviews
      ∧ t.HeardLast r asked.word := by
  have hquestions : t.questions = s.questions ++ List.replicate (refused + 1) q := by
    rw [questions, ht, List.filterMap_append, hask.questions, questions]
  have hreviews : t.reviews = s.reviews := by
    rw [reviews, ht, List.countP_append, hask.reviews, Nat.add_zero, reviews]
  have hword : ∀ k, wordAt s.respondent.responses k
      = wordAt r.responses (s.questions.length + k) := fun k => by
    rw [h.responses, wordAt_drop]
  have hlength : t.questions.length = s.questions.length + (refused + 1) := by
    rw [hquestions, List.length_append, List.length_replicate]
  refine ⟨hquestions, hreviews, .inl ⟨s.questions.length + refused, by omega, ?_⟩, ?_⟩
  · rw [← hword, hask.last]
  · rintro other (⟨k, hk, hother⟩ | hother)
    · by_cases hbefore : k < s.questions.length
      · exact .inl (h.heard other (.inl ⟨k, hbefore, hother⟩))
      · obtain ⟨j, rfl⟩ := Nat.exists_eq_add_of_le (Nat.le_of_not_lt hbefore)
        rw [← hword] at hother
        by_cases hj : j < refused
        · exact .inl (hother.symm.trans (hask.before j hj))
        · have hj : j = refused := by omega
          rw [hj, hask.last] at hother
          exact .inr hother.symm
    · rw [hreviews] at hother
      exact .inl (h.heard other (.inr hother))

/-- What a question did to the answers: nothing, or the response to it became the answer to the
field. -/
inductive Took (r : Respondent φ) (field : Field) (s t : Interview φ) : Prop
  | nothing (state : t.session.state = s.session.state)
  | answer {k : Nat} {q : Question} {response : Response} {answer : Answer}
      (question : t.questions[k]? = some q) (field_eq : q.field = field)
      (given : r.responses[k]? = some (.ok response))
      (fits : field.input.answerResponse response = some (.ok answer))
      (state : t.session.state
        = s.session.state.setAnswer field.name (some (field.input.kind.coerce answer)))

theorem transcript_settle (s : Interview φ) (index : Nat) (asked : Asked φ) :
    (s.settle index asked).transcript = s.transcript := by
  cases asked <;> rfl

theorem count_settle (s : Interview φ) (index : Nat) (asked : Asked φ) :
    (s.settle index asked).count = s.count := by
  cases asked <;> rfl

/-- The interview goes on just if asking for the field settled it. -/
theorem GoesOn.settle (h : s.GoesOn fields r) {q : Question}
    (hfield : fields[q.index]? = some q.field) {refused : Nat} {remarks : List Remark}
    {asked : Asked φ} (hask : q.Exchange s.respondent.responses refused remarks asked)
    {u : Interview φ} (hsession : u.session = s.session) (hrespondent : u.respondent = s.respondent)
    (hconclusion : u.conclusion = s.conclusion)
    (htranscript : u.transcript = s.transcript ++ remarks) :
    Leads (fun t => t.GoesOn fields r ∧ Took r q.field s t) (LeftEarly r)
      (u.settle q.index asked) := by
  have hunended : u.conclusion = none := hconclusion.trans h.unended
  obtain ⟨hquestions, hreviews, hheard⟩ :=
    heard_ask h hask ((transcript_settle u q.index asked).trans htranscript)
  have hrest : ∀ rest ∈ asked.rest?,
      rest = r.responses.drop (u.settle q.index asked).questions.length := by
    intro rest hmem
    rw [hask.rest rest hmem, h.responses, List.drop_drop, hquestions, List.length_append,
      List.length_replicate]
  have hconfirmations : u.respondent.confirmations
      = r.confirmations.drop (u.settle q.index asked).reviews := by
    rw [hrespondent, h.confirmations, hreviews]
  have hword : asked.word = .ok true →
      ∀ word, (u.settle q.index asked).Heard r word → word = .ok true := by
    intro htrue word hsaid
    exact (hheard.only word hsaid).elim id fun heq => heq.trans htrue
  cases asked with
  | answered answer rest =>
    have hset : (u.settle q.index (.answered answer rest)).session
        = { s.session with
            state := s.session.state.setAnswer q.field.name
              (some (q.field.input.kind.coerce answer)) } := by
      refine Eq.trans (congrArg (fun v : Session Empty => (v.run (.set q.index answer)).1)
        hsession) (Session.run_set h.session.watchers ?_ answer)
      rw [h.session.fields_eq, hfield]
    refine .of_none hunended ⟨⟨hunended, ?_, hrest rest rfl, hconfirmations, hword rfl⟩, ?_⟩
    · rw [hset]
      exact h.session.withState (SessionState.status_setAnswer _ _)
        fun name => SessionState.rule?_setAnswer _ _ _ _
    · obtain ⟨response, hresponse, hfits⟩ := hask.answered answer rest rfl
      rw [h.responses, List.getElem?_drop] at hresponse
      refine .answer (k := s.questions.length + refused) ?_ rfl hresponse hfits (by rw [hset])
      rw [hquestions, List.getElem?_append_right (Nat.le_add_right _ _), Nat.add_sub_cancel_left,
        List.getElem?_replicate, if_pos (Nat.lt_succ_self _)]
  | skipped rest =>
    have hsame : (u.settle q.index (.skipped rest)).session = s.session := hsession
    refine .of_none hunended ⟨⟨hunended, ?_, hrest rest rfl, hconfirmations, hword rfl⟩, ?_⟩
    · rw [hsame]
      exact h.session
    · exact .nothing (by rw [hsame])
  | abandoned =>
    obtain ⟨hended, hstatus⟩ := giveUp_of_serves (s := u) (hsession.symm ▸ h.session)
    exact .of_some hended (.gaveUp hended hstatus hheard)
  | failed reason =>
    refine .of_some rfl (.failed rfl ?_ hheard)
    exact (congrArg (·.state.status) hsession).trans h.session.status

theorem GoesOn.put (h : s.GoesOn fields r) {q : Question}
    (hfield : fields[q.index]? = some q.field) :
    ∃ refused, (s.put q).questions = s.questions ++ List.replicate (refused + 1) q
      ∧ (s.put q).count = s.count + 1
      ∧ Leads (fun t => t.GoesOn fields r ∧ Took r q.field s t) (LeftEarly r) (s.put q) := by
  obtain ⟨refused, hask⟩ := q.exchange_ask s.respondent.responses
  have hput : s.put q = Interview.settle
      { s.note (q.ask s.respondent.responses).1 with count := s.count + 1 } q.index
      (q.ask s.respondent.responses).2 := rfl
  rw [hput]
  exact ⟨refused, (heard_ask h hask (transcript_settle _ _ _)).1, count_settle _ _ _,
    h.settle hfield hask rfl rfl rfl rfl⟩

/-! ## Turns -/

/-- Whether a field is asked for when it has its turn: it is shown, and in a later round it has
errors. -/
def IsDue (again : Bool) (field : Field) (s : Interview φ) : Prop :=
  (∀ body, field.input ≠ .documentBlock body) ∧ field.visibility s.session.state = .ok true
    ∧ (again = true → s.session.state.errors field.name ≠ [])

theorem turn_of_isDue {again : Bool} {field : Field} (h : s.IsDue again field)
    (total index : Nat) :
    s.turn again total field index
      = s.put ⟨field, s.session.state.answer? field.name, s.session.state.errors field.name, index,
          total⟩ := by
  obtain ⟨hinput, hshown, herrors⟩ := h
  unfold turn
  split
  · rename_i body hbody
    exact absurd hbody (hinput body)
  · have hasked : ¬ (again && (s.session.state.errors field.name).isEmpty) = true := by
      simpa using herrors
    simp only [hshown, if_neg hasked]

theorem turn_of_not_isDue {again : Bool} {field : Field} (h : ¬ s.IsDue again field)
    (total index : Nat) :
    ∃ remarks, s.turn again total field index = s.note remarks
      ∧ remarks.filterMap Remark.question? = [] ∧ remarks.countP Remark.isReview = 0 := by
  have hsame : s = s.note [] := by simp [note]
  unfold turn
  split
  · split
    · exact ⟨[], hsame, rfl, rfl⟩
    · exact ⟨_, rfl, rfl, rfl⟩
  · rename_i hinput
    split
    · exact ⟨_, rfl, rfl, rfl⟩
    · exact ⟨[], hsame, rfl, rfl⟩
    · rename_i hshown
      simp only []
      split
      · exact ⟨[], hsame, rfl, rfl⟩
      · rename_i herrors
        exact absurd ⟨hinput, hshown, by simpa using herrors⟩ h

/-- What a turn of a field was: it passed, or the field was asked for. -/
inductive Turned (again : Bool) (r : Respondent φ) (field : Field) (s t : Interview φ) : Prop
  | passed (notDue : ¬ s.IsDue again field) (session : t.session = s.session)
      (questions : t.questions = s.questions) (count : t.count = s.count)
  | asked {q : Question} {refused : Nat} (due : s.IsDue again field) (field_eq : q.field = field)
      (questions : t.questions = s.questions ++ List.replicate (refused + 1) q)
      (count : t.count = s.count + 1) (took : Took r field s t)

theorem Turned.isPrefix {again : Bool} {field : Field} (h : Turned again r field s t) :
    s.questions <+: t.questions := by
  cases h with
  | passed _ _ hquestions _ => exact ⟨[], by rw [hquestions, List.append_nil]⟩
  | asked _ _ hquestions _ _ => exact ⟨_, hquestions.symm⟩

/-- A turn changes no other field. -/
theorem Turned.get?_ne {again : Bool} {field : Field} (h : Turned again r field s t)
    {name : String} (hne : field.name ≠ name) :
    t.session.state.fields.get? name = s.session.state.fields.get? name := by
  cases h with
  | passed _ hsession => rw [hsession]
  | asked _ _ _ _ htook =>
    cases htook with
    | nothing hstate => rw [hstate]
    | answer _ _ _ _ hstate => rw [hstate, SessionState.get?_setAnswer_ne _ hne]

theorem GoesOn.note (h : s.GoesOn fields r) {remarks : List Remark}
    (hquestions : remarks.filterMap Remark.question? = [])
    (hreviews : remarks.countP Remark.isReview = 0) :
    (s.note remarks).GoesOn fields r ∧ (s.note remarks).questions = s.questions
      ∧ (s.note remarks).reviews = s.reviews := by
  have hq : (s.note remarks).questions = s.questions := by
    rw [questions_note, hquestions, List.append_nil]
  have hr : (s.note remarks).reviews = s.reviews := by
    rw [reviews_note, hreviews, Nat.add_zero]
  refine ⟨⟨h.unended, h.session, by rw [hq]; exact h.responses, by rw [hr]; exact h.confirmations,
    fun word hword => h.heard word ?_⟩, hq, hr⟩
  rwa [Heard, hq, hr] at hword

theorem GoesOn.turn (h : s.GoesOn fields r) (again : Bool) {done todo : List Field}
    {field : Field} (hfields : fields = done ++ field :: todo) :
    Leads (fun t => t.GoesOn fields r ∧ Turned again r field s t) (LeftEarly r)
      (s.turn again fields.length field done.length) := by
  by_cases hdue : s.IsDue again field
  · rw [turn_of_isDue hdue]
    obtain ⟨refused, hquestions, hcount, hleads⟩ := h.put (q := ⟨field, _, _, _, _⟩)
      (by rw [hfields, List.getElem?_append_right (Nat.le_refl _), Nat.sub_self]; rfl)
    exact hleads.imp (fun _ ⟨hgoes, htook⟩ =>
      ⟨hgoes, .asked hdue rfl hquestions hcount htook⟩) id
  · obtain ⟨remarks, hturn, hquestions, hreviews⟩ :=
      turn_of_not_isDue hdue fields.length done.length
    rw [hturn]
    obtain ⟨hgoes, hq, -⟩ := h.note hquestions hreviews
    exact Leads.of_none h.unended ⟨hgoes, .passed hdue rfl hq rfl⟩

/-! ## Attempts -/

/-- An attempt that was refused. -/
structure Refused (fields : List Field) (r : Respondent φ) (s t : Interview φ) : Prop where
  goesOn : t.GoesOn fields r
  state : t.session.state = s.session.state.attempted
  questions : t.questions = s.questions
  unmet : ¬ ∀ name f, s.session.state.fields.get? name = some f → f.isMet = true

/-- An attempt that was accepted. -/
structure Accepted (r : Respondent φ) (s t : Interview φ) : Prop where
  conclusion : t.conclusion = some (.finished (.submitted s.session.state.answers))
  state : t.session.state = s.session.state.attempted
  status : t.session.state.status = .submitted
  events : t.session.events = [.submitted s.session.state.answers]
  questions : t.questions = s.questions
  heard : ∀ word, t.Heard r word → word = .ok true
  met : ∀ name f, s.session.state.fields.get? name = some f → f.isMet = true

theorem GoesOn.submit (h : s.GoesOn fields r) :
    Leads (Refused fields r s) (Accepted r s) (s.submit fields) := by
  by_cases hmet : ∀ name f, s.session.state.fields.get? name = some f → f.isMet = true
  · unfold Interview.submit
    rw [act, Session.run_submit_accepted h.session.watchers h.session.isOpen h.session.onSubmit
      hmet]
    refine Leads.of_some rfl ⟨rfl, rfl, ?_, ?_, rfl, h.heard, hmet⟩
    · show s.session.state.attempted.status = .submitted
      rw [SessionState.attempted, if_pos (SessionState.isValid_checkAll_iff.2 hmet)]
    · show Event.submitted _ :: s.session.events = _
      rw [h.session.events]
  · unfold Interview.submit
    rw [act, Session.run_submit_refused h.session.watchers h.session.isOpen hmet]
    have hstatus : s.session.state.attempted.status = s.session.state.status := by
      rw [SessionState.attempted, if_neg (mt SessionState.isValid_checkAll_iff.1 hmet),
        h.session.status]
    have hgoes : GoesOn fields r
        { s with
          session := { s.session with state := s.session.state.attempted }
          actions := s.actions ++ [.submit] } :=
      ⟨h.unended, h.session.withState hstatus (SessionState.rule?_attempted _), h.responses,
        h.confirmations, h.heard⟩
    have htroubles (reasons : List String) :
        (reasons.map Remark.trouble).filterMap Remark.question? = []
          ∧ (reasons.map Remark.trouble).countP Remark.isReview = 0 := by
      simp [Remark.question?, Remark.isReview]
    obtain ⟨hnone, hzero⟩ := htroubles (fields.flatMap fun field =>
      s.session.state.attempted.errors field.name)
    obtain ⟨hgoes, hquestions, -⟩ := hgoes.note hnone hzero
    exact Leads.of_none h.unended ⟨hgoes, rfl, hquestions, hmet⟩

theorem Refused.checked (h : Refused fields r s t) (hs : s.GoesOn fields r) :
    t.session.state.Checked fields := by
  intro field hfield
  obtain ⟨f, hf, hrequirement⟩ := hs.session.get? hfield
  have hsome : f.requirement.isSome = field.isRequired := by
    rw [hrequirement, Field.requirement]
    cases field.isRequired <;> rfl
  have hchecked : t.session.state.fields.get? field.name = some f.checked := by
    rw [h.state, SessionState.get?_attempted, hf]
    rfl
  have hfilled : t.session.state.answers.get? field.name = f.filled? := by
    rw [SessionState.get?_answers, SessionState.answer?, hchecked]
    rfl
  rw [SessionState.errors, hchecked, hfilled, ← hsome]
  show f.faults ≠ [] ↔ _
  unfold FieldState.faults
  cases f.requirement <;> cases f.filled? <;> simp

theorem Refused.exists_errors (h : Refused fields r s t) (hs : s.GoesOn fields r) :
    ∃ f ∈ fields, t.session.state.errors f.name ≠ [] := by
  obtain ⟨name, f, hf, hunmet⟩ : ∃ name f, s.session.state.fields.get? name = some f
      ∧ f.isMet ≠ true := by
    simpa only [not_forall, exists_prop] using h.unmet
  obtain ⟨field, hfield, rfl, -⟩ := hs.session.exists_field hf
  refine ⟨field, hfield, ?_⟩
  rw [h.state, SessionState.errors, SessionState.get?_attempted, hf]
  exact mt FieldState.faults_eq_nil_iff.1 hunmet

/-- A review adds the word that was said to it. -/
theorem heard_review (h : s.GoesOn fields r)
    (ht : t.transcript = s.transcript ++ [.review s.summary]) :
    t.questions = s.questions ∧ t.reviews = s.reviews + 1
      ∧ t.HeardLast r (r.confirmation s.reviews) := by
  have hquestions : t.questions = s.questions := by
    rw [questions, ht, List.filterMap_append]
    exact List.append_nil _
  have hreviews : t.reviews = s.reviews + 1 := by
    rw [reviews, ht, List.countP_append]
    rfl
  refine ⟨hquestions, hreviews, .inr ⟨s.reviews, by omega, rfl⟩, ?_⟩
  rintro other (⟨k, hk, hother⟩ | ⟨k, hk, hother⟩)
  · exact .inl (h.heard other (.inl ⟨k, hquestions ▸ hk, hother⟩))
  · by_cases hbefore : k < s.reviews
    · exact .inl (h.heard other (.inr ⟨k, hbefore, hother⟩))
    · have hk : k = s.reviews := by omega
      exact .inr (hk ▸ hother.symm)

theorem GoesOn.review (h : s.GoesOn fields r) :
    Leads (fun t => t.GoesOn fields r ∧ t.session = s.session ∧ t.questions = s.questions)
      (LeftEarly r) s.review := by
  have hword : r.confirmation s.reviews = s.respondent.confirmations.head?.getD (.ok true) := by
    rw [h.confirmations, List.head?_drop]
    rfl
  have hrest : s.respondent.confirmations.tail = r.confirmations.drop (s.reviews + 1) := by
    rw [h.confirmations, List.tail_drop]
  have hgoesOn : ∀ {t : Interview φ}, t.transcript = s.transcript ++ [.review s.summary] →
      t.session = s.session → t.respondent.responses = s.respondent.responses →
      t.respondent.confirmations = s.respondent.confirmations.tail → t.conclusion = s.conclusion →
      r.confirmation s.reviews = .ok true →
      Leads (fun t => t.GoesOn fields r ∧ t.session = s.session ∧ t.questions = s.questions)
        (LeftEarly r) t := by
    intro t ht hsession hresponses hconfirmations hconclusion htrue
    obtain ⟨hquestions, hreviews, hheard⟩ := heard_review h ht
    have hunended := hconclusion.trans h.unended
    refine .of_none hunended ⟨⟨hunended, hsession ▸ h.session, ?_, ?_, fun word hsaid => ?_⟩,
      hsession, hquestions⟩
    · rw [hresponses, h.responses, hquestions]
    · rw [hconfirmations, hrest, hreviews]
    · exact (hheard.only word hsaid).elim id fun heq => heq.trans htrue
  unfold Interview.review
  simp only []
  generalize hconfirmations : (s.note [.review s.summary]).respondent.confirmations = words
  have hwords : s.respondent.confirmations = words := hconfirmations
  rw [hwords] at hword hgoesOn
  split
  · exact hgoesOn rfl rfl rfl hwords rfl hword
  · rename_i reason _
    have hheard := (heard_review h (t := (s.note [.review s.summary]).conclude (.failed reason))
      rfl).2.2
    rw [hword] at hheard
    exact .of_some rfl (.failed rfl h.session.status hheard)
  · have hheard := (heard_review h (t := (s.note [.review s.summary]).giveUp) rfl).2.2
    rw [hword] at hheard
    obtain ⟨hended, hstatus⟩ := giveUp_of_serves (s := s.note [.review s.summary]) h.session
    exact .of_some hended (.gaveUp hended hstatus hheard)
  · exact hgoesOn rfl rfl rfl rfl rfl hword

/-- The end of a round, once it is known that it gets somewhere. -/
theorem GoesOn.attempt (h : s.GoesOn fields r) :
    Leads (Refused fields r s) (fun t => LeftEarly r t ∨ Accepted r s t)
      (s.review.andThen (Interview.submit fields)) := by
  have hreview : Leads (fun t => t.GoesOn fields r ∧ t.session = s.session
      ∧ t.questions = s.questions) (fun t => LeftEarly r t ∨ Accepted r s t) s.review :=
    h.review.imp (fun _ ht => ht) .inl
  refine hreview.andThen fun _ ⟨hgoes, hsession, hquestions⟩ => ?_
  refine hgoes.submit.imp (fun _ hrefused => ?_) fun haccepted => .inr ?_
  · exact ⟨hrefused.goesOn, hsession ▸ hrefused.state, hrefused.questions.trans hquestions,
      hsession ▸ hrefused.unmet⟩
  · exact ⟨hsession ▸ haccepted.conclusion, hsession ▸ haccepted.state, haccepted.status,
      hsession ▸ haccepted.events, haccepted.questions.trans hquestions, haccepted.heard,
      hsession ▸ haccepted.met⟩

/-! ## Rounds -/

/-- Turn by turn something is kept of an interview when the turn of some fields is still to come. -/
def KeptByTurns (fields : List Field) (again : Bool) (r : Respondent φ)
    (during : List Field → Interview φ → Prop) : Prop :=
  ∀ ⦃done field todo s t⦄, fields = done ++ field :: todo → s.GoesOn fields r →
    t.GoesOn fields r → Turned again r field s t → during (field :: todo) s → during todo t

section

variable {again : Bool} {during : List Field → Interview φ → Prop}

theorem KeptByTurns.turns (h : KeptByTurns fields again r during) :
    ∀ (todo done : List Field) {s : Interview φ}, fields = done ++ todo →
      Leads (fun t => t.GoesOn fields r ∧ during todo t) (LeftEarly r) s →
      Leads (fun t => t.GoesOn fields r ∧ during [] t) (LeftEarly r)
        ((todo.zipIdx done.length).foldl (fun s (field, index) =>
          s.andThen fun s => s.turn again fields.length field index) s)
  | [], _, _, _, hs => hs
  | field :: todo, done, s, hfields, hs => by
    have hnext : Leads (fun t => t.GoesOn fields r ∧ during todo t) (LeftEarly r)
        (s.andThen fun s => s.turn again fields.length field done.length) := by
      refine hs.andThen fun _ ⟨hgoes, hduring⟩ => ?_
      exact (hgoes.turn again hfields).imp
        (fun _ ⟨hgoes', hturned⟩ => ⟨hgoes', h hfields hgoes hgoes' hturned hduring⟩) id
    have hrest := h.turns todo (done ++ [field]) (by simp [hfields]) hnext
    rw [List.length_append] at hrest
    rw [List.zipIdx_cons, List.foldl_cons]
    exact hrest

theorem KeptByTurns.askAll (h : KeptByTurns fields again r during) (hs : s.GoesOn fields r)
    (hbegun : during fields { s with count := 0 }) :
    Leads (fun t => t.GoesOn fields r ∧ during [] t) (LeftEarly r) (s.askAll again fields) := by
  have hgoes : GoesOn fields r { s with count := 0 } :=
    ⟨hs.unended, hs.session, hs.responses, hs.confirmations, hs.heard⟩
  exact h.turns fields [] rfl (.of_none hs.unended ⟨hgoes, hbegun⟩)

end

/-- What is kept all along.  Rounds are counted from zero, and fields are asked for again in all but
that one; `between` speaks of the interview before a round, and `during` of the interview in it. -/
structure Course (form : Form) (r : Respondent φ) (between : Nat → Interview φ → Prop)
    (during : Nat → List Field → Interview φ → Prop) : Prop where
  begins : ∀ {k s}, between k s → during k form.fields { s with count := 0 }
  turned : ∀ k, KeptByTurns form.fields (k != 0) r (during k)
  refused : ∀ {k s t}, s.GoesOn form.fields r → Refused form.fields r s t → during k [] s →
    (k ≠ 0 → s.count ≠ 0) → between (k + 1) t

/-- How an interview ends, after what was kept in its last round. -/
inductive Ended (form : Form) (r : Respondent φ)
    (during : Nat → List Field → Interview φ → Prop) (t : Interview φ) : Prop
  | leftEarly (left : LeftEarly r t)
  | stuck {k : Nat} {s : Interview φ} (goesOn : s.GoesOn form.fields r) (kept : during k [] s)
      (again : k ≠ 0) (count : s.count = 0) (eq : t = s.conclude (.stuck form.name))
  | accepted {k : Nat} {s : Interview φ} (goesOn : s.GoesOn form.fields r)
      (kept : during k [] s) (accepted : Accepted r s t)

/-- Only answers that are accepted are submitted. -/
theorem Ended.submitted {form : Form} {during : Nat → List Field → Interview φ → Prop}
    (h : Ended form r during t) {answers : Answers}
    (hsubmitted : t.conclusion = some (.finished (.submitted answers))) :
    ∃ k s, s.GoesOn form.fields r ∧ during k [] s ∧ Accepted r s t
      ∧ answers = s.session.state.answers := by
  cases h with
  | leftEarly hleft =>
    cases hleft with
    | gaveUp hconclusion => rw [hconclusion] at hsubmitted; cases hsubmitted
    | failed hconclusion => rw [hconclusion] at hsubmitted; cases hsubmitted
  | stuck _ _ _ _ heq => rw [heq] at hsubmitted; cases hsubmitted
  | accepted hgoes hkept haccepted =>
    rw [haccepted.conclusion] at hsubmitted
    cases hsubmitted
    exact ⟨_, _, hgoes, hkept, haccepted, rfl⟩

namespace Course

variable {form : Form} {between : Nat → Interview φ → Prop}
  {during : Nat → List Field → Interview φ → Prop} {k : Nat}

theorem round (h : Course form r between during) (hs : s.GoesOn form.fields r)
    (hbetween : between k s) :
    Leads (fun t => t.GoesOn form.fields r ∧ between (k + 1) t) (Ended form r during)
      (s.round form (k != 0)) := by
  have hasked : Leads (fun t => t.GoesOn form.fields r ∧ during k [] t) (Ended form r during)
      (s.askAll (k != 0) form.fields) :=
    ((h.turned k).askAll hs (h.begins hbetween)).imp (fun _ ht => ht) .leftEarly
  refine hasked.andThen fun _ ⟨hgoes, hduring⟩ => ?_
  split
  · rename_i hstuck
    obtain ⟨hk, hcount⟩ : k ≠ 0 ∧ (s.askAll (k != 0) form.fields).count = 0 := by
      simpa using hstuck
    exact .of_some rfl (.stuck hgoes hduring hk hcount rfl)
  · rename_i hsome
    refine hgoes.attempt.imp (fun _ hrefused => ?_) fun hended => ?_
    · exact ⟨hrefused.goesOn, h.refused hgoes hrefused hduring (by simpa using hsome)⟩
    · exact hended.elim .leftEarly fun haccepted => .accepted hgoes hduring haccepted

theorem rounds (h : Course form r between during) : ∀ (n : Nat) {k : Nat} {s : Interview φ},
    s.GoesOn form.fields r → between k s →
    Leads (fun t => t.GoesOn form.fields r ∧ between (k + n) t) (Ended form r during)
      (s.rounds form n (k != 0))
  | 0, _, _, hs, hbetween => .of_none hs.unended ⟨hs, hbetween⟩
  | n + 1, k, _, hs, hbetween => by
    refine (h.round hs hbetween).andThen fun _ ⟨hgoes, hbetween'⟩ => ?_
    rw [Nat.add_comm n 1, ← Nat.add_assoc]
    exact h.rounds n hgoes hbetween'

end Course

/-! ## The end -/

variable {form : Form} (hnames : form.fieldNames.Nodup) (defaults : Answers) (r : Respondent φ)

include hnames

theorem goesOn_start : (start form defaults r).GoesOn form.fields r where
  unended := rfl
  session := Session.serves_forFields hnames defaults
  responses := rfl
  confirmations := rfl
  heard word := by rintro (⟨k, hk, -⟩ | ⟨k, hk, -⟩) <;> exact absurd hk (Nat.not_lt_zero k)

/-- Without answers to begin with, no field is answered at first. -/
theorem answer?_start (name : String) : (start form ∅ r).session.state.answer? name = none := by
  rw [SessionState.answer?, start, Session.get?_forFields hnames]
  cases form.fields.find? fun f => f.name = name <;> rfl

omit hnames in
/-- Nobody is asked more often than they respond, while the interview goes on. -/
theorem GoesOn.length_le (h : s.GoesOn fields r) :
    s.questions.length ≤ r.responses.length := by
  by_contra hlong
  have hword := h.heard _ (.inl ⟨r.responses.length, by omega, rfl⟩)
  exact absurd (lt_length_of_wordAt hword) (Nat.lt_irrefl _)

omit hnames in
/-- Every round but the first asks for something. -/
theorem course_length (form : Form) (r : Respondent φ) :
    Course form r (fun k s => k ≤ s.questions.length + 1)
      (fun k _ s => k + s.count ≤ s.questions.length + 1) where
  begins h := h
  turned _ _ _ _ _ _ _ _ _ hturned h := by
    cases hturned with
    | passed _ _ hquestions hcount => rw [hquestions, hcount]; exact h
    | asked _ _ hquestions hcount _ =>
      rw [hquestions, hcount, List.length_append, List.length_replicate]
      omega
  refused _ hrefused h hcount := by
    rw [hrefused.questions]
    omega

/-- The interview is held to its end. -/
theorem conclusion_held : (form.held defaults r).conclusion ≠ none := by
  intro hnone
  obtain ⟨hgoes, hlength⟩ := ((course_length form r).rounds (r.responses.length + 2) (k := 0)
    (goesOn_start hnames defaults r) (Nat.zero_le _)).ofNone hnone
  have := hgoes.length_le
  omega

theorem exists_conclusion : ∃ c, (form.held defaults r).conclusion = some c
    ∧ form.interview defaults r = (c, (form.held defaults r).transcript) := by
  obtain ⟨c, hc⟩ := Option.ne_none_iff_exists'.1 (conclusion_held hnames defaults r)
  exact ⟨c, hc, by rw [Form.interview, hc]; rfl⟩

/-- What is true at first and kept all along is told of the end. -/
theorem Course.held {between : Nat → Interview φ → Prop}
    {during : Nat → List Field → Interview φ → Prop} (h : Course form r between during)
    (hstart : between 0 (start form defaults r)) : Ended form r during (form.held defaults r) :=
  (h.rounds (r.responses.length + 2) (goesOn_start hnames defaults r) hstart).ofSome
    (conclusion_held hnames defaults r)

end Interview

end NoteForms
