import NoteForms.Form.Basic
import NoteForms.Interview.Basic

/-!
# Running an interview

Every field that is shown is asked for until a response fits it.  Since the session is given the
answers as they come, they decide which of the later fields are shown.  When the answers are
confirmed they are submitted; if fields have errors then, only those are asked for again.
-/

namespace NoteForms

variable {φ : Type}

/-- How asking for one field went, and the responses left. -/
inductive Asked (φ : Type)
  | answered (answer : Answer) (rest : List (Except φ Response))
  /-- The field is left as it is. -/
  | skipped (rest : List (Except φ Response))
  /-- The whole form is given up. -/
  | abandoned
  | failed (reason : φ)

namespace Question

/-- Asks until a response fits, which says what came up and how it went. -/
def ask (q : Question) : List (Except φ Response) → List Remark × Asked φ
  | [] => ([.asked q], .abandoned)
  | .error reason :: _ => ([.asked q], .failed reason)
  | .ok .cancel :: _ => ([.asked q], .abandoned)
  | .ok response :: rest =>
    match q.field.input.answerResponse response with
    | none => ([.asked q], .skipped rest)
    | some (.ok answer) => ([.asked q], .answered answer rest)
    | some (.error reason) =>
      let (remarks, asked) := q.ask rest
      (.asked q :: .rejected q.field reason :: remarks, asked)

end Question

/-- An interview under way. -/
structure Interview (φ : Type) where
  session : Session Empty
  /-- What was done to the session since the interview began. -/
  actions : List (Action Empty)
  respondent : Respondent φ
  /-- How many fields were asked for in this round. -/
  count : Nat
  transcript : List Remark
  conclusion : Option (Conclusion φ)

namespace Interview

/-- The interview with more remarks. -/
def note (s : Interview φ) (remarks : List Remark) : Interview φ :=
  { s with transcript := s.transcript ++ remarks }

/-- The interview after something was done to its session, and the reply. -/
def act (s : Interview φ) (action : Action Empty) : Interview φ × Reply Empty :=
  let (session, reply) := s.session.run action
  ({ s with session := session, actions := s.actions ++ [action] }, reply)

/-- The interview, ended. -/
def conclude (s : Interview φ) (c : Conclusion φ) : Interview φ := { s with conclusion := some c }

/-- The interview, ended with what its session came to. -/
def finish (s : Interview φ) : Interview φ := s.conclude (.finished s.session.outcome)

/-- The interview, ended before its form was submitted. -/
def giveUp (s : Interview φ) : Interview φ := (s.act .cancel).1.finish

/-- The interview with these responses left. -/
def withResponses (s : Interview φ) (rest : List (Except φ Response)) : Interview φ :=
  { s with respondent := { s.respondent with responses := rest } }

/-- The interview after one more step, unless it has ended. -/
def andThen (s : Interview φ) (step : Interview φ → Interview φ) : Interview φ :=
  if s.conclusion.isSome then s else step s

/-- The interview after the field of an index was asked for. -/
def settle (s : Interview φ) (index : Nat) : Asked φ → Interview φ
  | .answered answer rest => ((s.withResponses rest).act (.set index answer)).1
  | .skipped rest => s.withResponses rest
  | .abandoned => s.giveUp
  | .failed reason => s.conclude (.failed reason)

/-- The interview after a question. -/
def put (s : Interview φ) (q : Question) : Interview φ :=
  let (remarks, asked) := q.ask s.respondent.responses
  settle { s.note remarks with count := s.count + 1 } q.index asked

/-- The interview after the turn of a field, in the first round or in a later one. -/
def turn (again : Bool) (total : Nat) (s : Interview φ) (field : Field) (index : Nat) :
    Interview φ :=
  match field.input with
  | .documentBlock body => if again then s else s.note [.notice body]
  | _ =>
    match field.visibility s.session.state with
    | .error reason => s.note [.trouble reason]
    | .ok false => s
    | .ok true =>
      let errors := s.session.state.errors field.name
      if again && errors.isEmpty then s
      else s.put ⟨field, s.session.state.answer? field.name, errors, index, total⟩

/-- The interview after every field had its turn. -/
def askAll (again : Bool) (fields : List Field) (s : Interview φ) : Interview φ :=
  fields.zipIdx.foldl (fun s (field, index) =>
    s.andThen fun s => s.turn again fields.length field index) { s with count := 0 }

/-- The answers so far, a line each. -/
def summary (s : Interview φ) : List String :=
  s.session.state.answers.entries.map fun e => e.1 ++ ": " ++ e.2.display

/-- The interview after the answers were shown, which may end it. -/
def review (s : Interview φ) : Interview φ :=
  let s := s.note [.review s.summary]
  match s.respondent.confirmations with
  | [] => s
  | .error reason :: _ => s.conclude (.failed reason)
  | .ok false :: _ => s.giveUp
  | .ok true :: rest => { s with respondent := { s.respondent with confirmations := rest } }

/-- The interview after an attempt to submit, which ends it unless it is refused. -/
def submit (fields : List Field) (s : Interview φ) : Interview φ :=
  match s.act .submit with
  | (s, .submitted true) => s.finish
  | (s, _) => s.note ((fields.flatMap fun field => s.session.state.errors field.name).map .trouble)

/-- The interview after a round: every field, the review and the attempt to submit.  A later round
in which nothing can be asked for gets nowhere. -/
def round (form : Form) (again : Bool) (s : Interview φ) : Interview φ :=
  (s.askAll again form.fields).andThen fun s =>
    if again && s.count = 0 then s.conclude (.stuck form.name)
    else s.review.andThen (submit form.fields)

/-- The interview after rounds until it ends, at most so many. -/
def rounds (form : Form) : Nat → Bool → Interview φ → Interview φ
  | 0, _, s => s
  | n + 1, again, s => (s.round form again).andThen (rounds form n true)

/-- An interview that has not begun.  Both ends of its session are noted, and nothing follows from
them. -/
def start (form : Form) (defaults : Answers) (respondent : Respondent φ) : Interview φ :=
  ⟨.forFields form.fields defaults (some ⟨none⟩) (some ⟨none⟩), [], respondent, 0, [], none⟩

end Interview

/-- The interview for a form, held to its end.  Every round but the first uses up a response or is
the last. -/
def Form.held (form : Form) (defaults : Answers) (respondent : Respondent φ) : Interview φ :=
  (Interview.start form defaults respondent).rounds form (respondent.responses.length + 2) false

/-- The interview for a form: how it ended, and what came up. -/
def Form.interview (form : Form) (defaults : Answers) (respondent : Respondent φ) :
    Conclusion φ × List Remark :=
  let s := form.held defaults respondent
  (s.conclusion.getD .cancelled, s.transcript)

end NoteForms
