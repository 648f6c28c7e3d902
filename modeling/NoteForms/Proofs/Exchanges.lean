import NoteForms.Interview.Run
import NoteForms.Proofs.Basics

/-!
# Questions and responses

A field is asked for until a response fits, so one field may take several questions, and each takes
the next response (`Question.exchange_ask`).  What a respondent has said in an interview is told by
the questions and reviews that came up in it (`Interview.Heard`).
-/

namespace NoteForms

variable {φ : Type}

/-! ## What came up -/

/-- The question that a remark is, if it is one. -/
def Remark.question? : Remark → Option Question
  | .asked q => some q
  | _ => none

/-- Whether a remark shows the answers to be confirmed. -/
def Remark.isReview : Remark → Bool
  | .review _ => true
  | _ => false

namespace Interview

/-- The questions that were asked, in order. -/
def questions (s : Interview φ) : List Question := s.transcript.filterMap Remark.question?

/-- How many times the answers were shown to be confirmed. -/
def reviews (s : Interview φ) : Nat := s.transcript.countP Remark.isReview

@[simp] theorem questions_note (s : Interview φ) (remarks : List Remark) :
    (s.note remarks).questions = s.questions ++ remarks.filterMap Remark.question? :=
  List.filterMap_append

@[simp] theorem reviews_note (s : Interview φ) (remarks : List Remark) :
    (s.note remarks).reviews = s.reviews + remarks.countP Remark.isReview :=
  List.countP_append

end Interview

/-! ## What was said -/

/-- Whether a response goes on with the form. -/
def Response.goesOn : Response → Bool
  | .cancel => false
  | _ => true

/-- Whether the response of an index goes on with the form; one who has no more responses does
not. -/
def wordAt (responses : List (Except φ Response)) (k : Nat) : Except φ Bool :=
  (responses[k]?.getD (.ok .cancel)).map Response.goesOn

theorem wordAt_drop (responses : List (Except φ Response)) (n k : Nat) :
    wordAt (responses.drop n) k = wordAt responses (n + k) := by
  rw [wordAt, wordAt, List.getElem?_drop]

theorem lt_length_of_wordAt {responses : List (Except φ Response)} {k : Nat}
    (h : wordAt responses k = .ok true) : k < responses.length := by
  by_contra hlen
  rw [wordAt, List.getElem?_eq_none (Nat.le_of_not_lt hlen)] at h
  cases h

/-- The word on a review; one who has no more words confirms. -/
def Respondent.confirmation (r : Respondent φ) (k : Nat) : Except φ Bool :=
  r.confirmations[k]?.getD (.ok true)

namespace Interview

/-- What a respondent has said so far: on each question whether they go on with the form, unless
they failed, and a word on each review. -/
def Heard (r : Respondent φ) (s : Interview φ) (word : Except φ Bool) : Prop :=
  (∃ k < s.questions.length, wordAt r.responses k = word)
    ∨ ∃ k < s.reviews, r.confirmation k = word

end Interview

/-! ## Asking for a field -/

namespace Asked

/-- Whether asking for a field goes on with the form. -/
def word : Asked φ → Except φ Bool
  | .answered _ _ => .ok true
  | .skipped _ => .ok true
  | .abandoned => .ok false
  | .failed reason => .error reason

/-- The responses left for the next field. -/
def rest? : Asked φ → Option (List (Except φ Response))
  | .answered _ rest => some rest
  | .skipped rest => some rest
  | _ => none

end Asked

namespace Question

/-- The course of asking: some responses are refused, and the next one settles it. -/
structure Exchange (q : Question) (responses : List (Except φ Response)) (refused : Nat)
    (remarks : List Remark) (asked : Asked φ) : Prop where
  questions : remarks.filterMap Remark.question? = List.replicate (refused + 1) q
  reviews : remarks.countP Remark.isReview = 0
  before : ∀ k < refused, wordAt responses k = .ok true
  last : wordAt responses refused = asked.word
  rest : ∀ rest ∈ asked.rest?, rest = responses.drop (refused + 1)
  answered : ∀ answer rest, asked = .answered answer rest → ∃ response,
    responses[refused]? = some (.ok response)
      ∧ q.field.input.answerResponse response = some (.ok answer)

/-- The first response, where it settles the question. -/
theorem exchange_first {q : Question} {responses : List (Except φ Response)} {asked : Asked φ}
    (hlast : wordAt responses 0 = asked.word)
    (hrest : ∀ rest ∈ asked.rest?, rest = responses.drop 1)
    (hanswered : ∀ answer rest, asked = .answered answer rest → ∃ response,
      responses[0]? = some (.ok response)
        ∧ q.field.input.answerResponse response = some (.ok answer)) :
    q.Exchange responses 0 [.asked q] asked :=
  ⟨rfl, rfl, fun _ hk => absurd hk (Nat.not_lt_zero _), hlast, hrest, hanswered⟩

/-- A refused response, before those that follow. -/
theorem Exchange.cons {q : Question} {responses : List (Except φ Response)} {refused : Nat}
    {remarks : List Remark} {asked : Asked φ} (h : q.Exchange responses refused remarks asked)
    {response : Response} (hresponse : response.goesOn = true) (reason : Refusal) :
    q.Exchange (.ok response :: responses) (refused + 1)
      (.asked q :: .rejected q.field reason :: remarks) asked where
  questions := congrArg (q :: ·) h.questions
  reviews := h.reviews
  before k hk := by
    cases k with
    | zero => exact congrArg Except.ok hresponse
    | succ k => exact h.before k (Nat.lt_of_succ_lt_succ hk)
  last := h.last
  rest := h.rest
  answered := h.answered

/-- A response that goes on either settles the question or is refused. -/
theorem ask_cons (q : Question) {response : Response} (hresponse : response.goesOn = true)
    (responses : List (Except φ Response)) :
    q.ask (.ok response :: responses) =
      match q.field.input.answerResponse response with
      | none => ([.asked q], .skipped responses)
      | some (.ok answer) => ([.asked q], .answered answer responses)
      | some (.error reason) =>
        (.asked q :: .rejected q.field reason :: (q.ask responses).1, (q.ask responses).2) := by
  cases response with
  | cancel => cases hresponse
  | _ => rfl

theorem exchange_ask (q : Question) : ∀ responses : List (Except φ Response),
    ∃ refused, q.Exchange responses refused (q.ask responses).1 (q.ask responses).2
  | [] => by
    rw [ask]
    exact ⟨0, exchange_first rfl (by simp [Asked.rest?]) (by simp)⟩
  | .error reason :: responses => by
    rw [ask]
    exact ⟨0, exchange_first rfl (by simp [Asked.rest?]) (by simp)⟩
  | .ok response :: responses => by
    cases hresponse : response.goesOn with
    | false =>
      cases response with
      | cancel =>
        rw [ask]
        exact ⟨0, exchange_first rfl (by simp [Asked.rest?]) (by simp)⟩
      | _ => cases hresponse
    | true =>
      have hword : wordAt (.ok response :: responses) 0 = .ok true :=
        congrArg Except.ok hresponse
      rw [ask_cons q hresponse]
      split
      · exact ⟨0, exchange_first hword (by simp [Asked.rest?]) (by simp)⟩
      · rename_i answer hanswer
        refine ⟨0, exchange_first hword (by simp [Asked.rest?]) fun answer' rest h => ?_⟩
        cases h
        exact ⟨response, rfl, hanswer⟩
      · rename_i reason _
        obtain ⟨refused, h⟩ := exchange_ask q responses
        exact ⟨refused + 1, h.cons hresponse reason⟩

end Question

end NoteForms
