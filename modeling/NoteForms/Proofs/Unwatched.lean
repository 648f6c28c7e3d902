import NoteForms.Proofs.Submission

/-!
# Sessions that nobody watches

Where nobody watches a session, nothing follows from what is done to it.  A session for a form then
holds its fields as they were registered (`Session.forFields_eq`), and setting an answer, submitting
and cancelling each make their one change (`Session.run_set`, `Session.run_submit_accepted`,
`Session.run_submit_refused`, `Session.run_cancel`).
-/

namespace NoteForms

/-! ## Single changes of a state -/

namespace SessionState

theorem get?_register (s : SessionState) (field : Field) (defaults : Answers) (name : String) :
    (s.register field defaults).fields.get? name
      = if field.name = name then some (field.initialState defaults)
        else s.fields.get? name := Table.get?_insert _ _ _ _

theorem get?_setAnswer (s : SessionState) (name other : String) (answer : Option Answer) :
    (s.setAnswer name answer).fields.get? other
      = if name = other then
          (s.fields.get? other).map fun f => { f with answer := answer, errors := [] }
        else s.fields.get? other := by
  unfold setAnswer
  split
  · rename_i f hf
    rw [Table.get?_insert]
    split
    · rename_i heq
      rw [← heq, hf]
      rfl
    · rfl
  · rename_i hnone
    split
    · rename_i heq
      rw [← heq, hnone]
      rfl
    · rfl

theorem get?_setAnswer_self {s : SessionState} {name : String} {f : FieldState}
    (h : s.fields.get? name = some f) (answer : Option Answer) :
    (s.setAnswer name answer).fields.get? name
      = some { f with answer := answer, errors := [] } := by
  rw [get?_setAnswer, if_pos rfl, h]
  rfl

theorem get?_setAnswer_ne (s : SessionState) {name other : String} (h : name ≠ other)
    (answer : Option Answer) :
    (s.setAnswer name answer).fields.get? other = s.fields.get? other := by
  rw [get?_setAnswer, if_neg h]

theorem answer?_setAnswer_ne (s : SessionState) {name other : String} (h : name ≠ other)
    (answer : Option Answer) : (s.setAnswer name answer).answer? other = s.answer? other := by
  rw [answer?, get?_setAnswer_ne s h, answer?]

theorem eq_of_answer?_setAnswer {s : SessionState} {name : String} {answer : Option Answer}
    {a : Answer} (h : (s.setAnswer name answer).answer? name = some a) : answer = some a := by
  rw [answer?, get?_setAnswer, if_pos rfl] at h
  obtain ⟨f, hf, ha⟩ := Option.bind_eq_some_iff.1 h
  obtain ⟨g, -, rfl⟩ := Option.map_eq_some_iff.1 hf
  exact ha

theorem get?_attempted (s : SessionState) (name : String) :
    s.attempted.fields.get? name = (s.fields.get? name).map FieldState.checked :=
  Table.get?_map FieldState.checked s.fields name

theorem answers_attempted (s : SessionState) : s.attempted.answers = s.answers :=
  answers_checkAll s

theorem answer?_attempted (s : SessionState) (name : String) :
    s.attempted.answer? name = s.answer? name := by
  rw [answer?, answer?, get?_attempted]
  cases s.fields.get? name <;> rfl

theorem get?_answers (s : SessionState) (name : String) :
    s.answers.get? name = (s.answer? name).filter fun a => !a.isEmpty := by
  rw [answers, Table.get?_filterMap, answer?]
  cases s.fields.get? name <;> rfl

theorem isEmpty_of_get?_answers {s : SessionState} {name : String} {a : Answer}
    (h : s.answers.get? name = none) (ha : s.answer? name = some a) : a.isEmpty = true := by
  rw [get?_answers, ha, Option.filter_some] at h
  simpa using h

theorem answer?_setAnswer_self {s : SessionState} {name : String} {a : Answer}
    (h : s.answer? name = some a) (answer : Option Answer) :
    (s.setAnswer name answer).answer? name = answer := by
  obtain ⟨f, hf, -⟩ := Option.bind_eq_some_iff.1 h
  rw [answer?, get?_setAnswer_self hf]
  rfl

theorem errors_congr {s t : SessionState} {name : String}
    (h : t.fields.get? name = s.fields.get? name) : t.errors name = s.errors name := by
  rw [errors, h, errors]

theorem get?_answers_congr {s t : SessionState} {name : String}
    (h : t.fields.get? name = s.fields.get? name) :
    t.answers.get? name = s.answers.get? name := by
  rw [get?_answers, answer?, h, get?_answers, answer?]

/-- What is said of a field that lacks an answer, for the fields that are there. -/
def rule? (s : SessionState) (name : String) : Option (Option String) :=
  (s.fields.get? name).map (·.requirement)

@[simp] theorem rule?_setAnswer (s : SessionState) (name other : String)
    (answer : Option Answer) : (s.setAnswer name answer).rule? other = s.rule? other := by
  rw [rule?, rule?, get?_setAnswer]
  split
  · cases s.fields.get? other <;> rfl
  · rfl

@[simp] theorem rule?_attempted (s : SessionState) (name : String) :
    s.attempted.rule? name = s.rule? name := by
  rw [rule?, rule?, get?_attempted]
  cases s.fields.get? name <;> rfl

/-- The session with fields put in one after the other. -/
def registerAll (s : SessionState) (fields : List Field) (defaults : Answers) : SessionState :=
  fields.foldl (fun s field => s.register field defaults) s

/-- Fields with names of their own are all found as they were put in. -/
theorem get?_registerAll (defaults : Answers) (name : String) :
    ∀ {fields : List Field} (s : SessionState), (fields.map (·.name)).Nodup →
      (s.registerAll fields defaults).fields.get? name
        = ((fields.find? fun f => f.name = name).map (·.initialState defaults)).or
          (s.fields.get? name)
  | [], _, _ => rfl
  | field :: fields, s, hnames => by
    obtain ⟨hfield, hnames⟩ := List.nodup_cons.1 hnames
    have ih := get?_registerAll defaults name (s.register field defaults) hnames
    rw [registerAll, List.foldl_cons]
    refine ih.trans ?_
    rw [register, Table.get?_insert]
    by_cases heq : field.name = name
    · have hnone : fields.find? (fun f => f.name = name) = none :=
        List.find?_eq_none.2 fun f hf hname =>
          hfield (List.mem_map.2 ⟨f, hf, (of_decide_eq_true hname).trans heq.symm⟩)
      rw [if_pos heq, hnone, List.find?_cons_of_pos (by simpa using heq)]
      rfl
    · rw [if_neg heq, List.find?_cons_of_neg (by simpa using heq)]

end SessionState

/-! ## Actions -/

namespace Session

variable {ε : Type} {s : Session ε}

section

variable (act : Action ε → Session ε → Session ε × Reply ε)

theorem change_of_unwatched (h : s.watchers = []) (f : SessionState → SessionState) :
    s.change act f = { s with state := f s.state } := by
  simp [change, publish, h]

theorem conclude_plain (event : Event ε) : s.conclude act event (some ⟨none⟩) = s.note event := rfl

end

theorem run_register (h : s.watchers = []) (field : Field) :
    (s.run (.register field)).1
      = { s with state := s.state.register field s.defaults, fields := s.fields ++ [field] } := by
  rw [run_eq_perform, perform, register, change_of_unwatched _ h]

theorem registerAll_eq : ∀ (fields : List Field) {s : Session ε}, s.watchers = [] →
    s.registerAll fields
      = { s with state := s.state.registerAll fields s.defaults, fields := s.fields ++ fields }
  | [], s, _ => by
    rw [List.append_nil]
    rfl
  | field :: fields, s, h => by
    have hfirst := run_register h field
    have ih := registerAll_eq fields (s := (s.run (.register field)).1) (by rw [hfirst]; exact h)
    refine ih.trans ?_
    rw [hfirst, SessionState.registerAll, SessionState.registerAll, List.foldl_cons,
      List.append_assoc, List.singleton_append]

/-- A session for a form holds its fields, and nothing else has happened in it. -/
theorem forFields_eq (fields : List Field) (defaults : Answers)
    (onSubmit onCancel : Option (Ending ε)) :
    forFields fields defaults onSubmit onCancel
      = { start defaults onSubmit onCancel with
          state := SessionState.start.registerAll fields defaults, fields := fields } :=
  registerAll_eq fields rfl

theorem run_set (h : s.watchers = []) {index : Nat} {field : Field}
    (hfield : s.fields[index]? = some field) (answer : Answer) :
    (s.run (.set index answer)).1
      = { s with state :=
            s.state.setAnswer field.name (some (field.input.kind.coerce answer)) } := by
  rw [run_eq_perform, perform, withField, hfield]
  simp only [writeCoerced, write, Option.map_some, change_of_unwatched _ h]

theorem run_submit_accepted (h : s.watchers = []) (hopen : s.isClosed = false)
    (hend : s.onSubmit = some ⟨none⟩)
    (hmet : ∀ name f, s.state.fields.get? name = some f → f.isMet = true) :
    s.run .submit
      = ({ s with
          state := s.state.attempted, isClosed := true, onSubmit := none,
          events := .submitted s.state.answers :: s.events }, .submitted true) := by
  rw [run_eq_perform, perform, submit, if_neg (by rw [hopen]; exact Bool.false_ne_true),
    if_pos (SessionState.isValid_checkAll_iff.2 hmet), change_of_unwatched _ h, hend,
    conclude_plain, SessionState.answers_attempted]
  rfl

theorem run_submit_refused (h : s.watchers = []) (hopen : s.isClosed = false)
    (hunmet : ¬ ∀ name f, s.state.fields.get? name = some f → f.isMet = true) :
    s.run .submit = ({ s with state := s.state.attempted }, .submitted false) := by
  rw [run_eq_perform, perform, submit, if_neg (by rw [hopen]; exact Bool.false_ne_true),
    if_neg (mt SessionState.isValid_checkAll_iff.1 hunmet), change_of_unwatched _ h]

theorem run_cancel (h : s.watchers = []) (hopen : s.isClosed = false)
    (hend : s.onCancel = some ⟨none⟩) :
    (s.run .cancel).1
      = { s with
          state := s.state.cancelled, isClosed := true, onCancel := none,
          events := .cancelled :: s.events } := by
  rw [run_eq_perform, perform, cancel, if_neg (by rw [hopen]; exact Bool.false_ne_true),
    change_of_unwatched _ h, hend, conclude_plain]
  rfl

end Session

end NoteForms
