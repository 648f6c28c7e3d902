import NoteForms.Session.State

/-!
# Acting on a session and watching it

An action is what a front end does to a session.  A watcher is told what it watches, and may answer
with an action of its own.
-/

namespace NoteForms

/-- What can be watched. -/
inductive View
  | answer (name : String)
  | errors (name : String)
  | visibility (field : Field)
  | status
  | validity
  | everything

/-- What a watcher is told. -/
inductive Sight
  | answer (a : Option Answer)
  | errors (messages : List String)
  | visible (shown : Bool)
  | obscured (reason : String)
  | status (s : SessionStatus)
  | validity (valid : Bool)
  | everything (status : SessionStatus) (valid : Bool) (answers : Answers)
  deriving DecidableEq

/-- What a view shows of a state. -/
def View.look (s : SessionState) : View → Sight
  | .answer name => .answer (s.answer? name)
  | .errors name => .errors (s.errors name)
  | .visibility field =>
    match field.visibility s with
    | .ok shown => .visible shown
    | .error reason => .obscured reason
  | .status => .status s.status
  | .validity => .validity s.isValid
  | .everything => .everything s.status s.isValid s.answers

/-- Whether a watcher is told at once and then only of changes.  One that watches everything is told
whenever something is done. -/
def View.isSelective : View → Bool
  | .everything => false
  | _ => true

/-- A view of a field that is named by its handle. -/
inductive HandleView
  | answer
  | errors
  | visibility
  deriving DecidableEq

/-- What a watcher asks for: a view of a field by handle, or a view of the session. -/
inductive Focus
  | field (handle : Nat) (view : HandleView)
  | session (view : View)

mutual

/-- What can be done to a session.  Handles number the fields in the order in which they were
registered.  A refused action was not understood, and is answered with the reason. -/
inductive Action (ε : Type)
  | set (handle : Nat) (answer : Answer)
  | clear (handle : Nat)
  /-- Makes an answer, or none, of the one that is there. -/
  | update (handle : Nat) (f : Option Answer → Option Answer)
  /-- Makes a list of the items that are there. -/
  | updateItems (handle : Nat) (f : List String → List String)
  | read (handle : Nat)
  | register (field : Field)
  | submit
  | cancel
  | answers
  | watch (focus : Focus) (reaction : Option (Reaction ε))
  | stop (watcher : Nat)
  /-- Lets a watcher watch on with no way to stop it. -/
  | release (watcher : Nat)
  | refused (reason : ε)
  /-- Is refused as well, but only if the handle is there. -/
  | refusedAt (handle : Nat) (reason : ε)
  /-- Does one thing and then another, and is answered like the other. -/
  | andThen (first next : Action ε)

/-- What a watcher does when it is told something: nothing the first few times, and then an action
so many times.  Whenever one reaction does nothing, another may stand in for it. -/
inductive Reaction (ε : Type)
  | mk (skip times : Nat) (action : Action ε)
  | or (first other : Reaction ε)

end

namespace Action

variable {ε : Type}

/-- Puts an item behind the others. -/
abbrev push (handle : Nat) (item : String) : Action ε := .updateItems handle (· ++ [item])

/-- Takes every occurrence of an item away. -/
abbrev remove (handle : Nat) (item : String) : Action ε :=
  .updateItems handle (·.filter (· != item))

/-- Turns the order of the items around. -/
abbrev reverse (handle : Nat) : Action ε := .updateItems handle List.reverse

/-- Keeps the answer, or sets one if there is none. -/
abbrev fill (handle : Nat) (answer : Answer) : Action ε := .update handle (·.or (some answer))

/-- Sets an answer in the place of one that is there. -/
abbrev replace (handle : Nat) (answer : Answer) : Action ε :=
  .update handle (·.map fun _ => answer)

end Action

/-- What is answered to an action. -/
inductive Reply (ε : Type)
  | done
  | handle (index : Nat)
  | watcher (id : Nat)
  | submitted (accepted : Bool)
  | answers (a : Answers)
  | field (field : Field) (answer : Option Answer) (errors : List String)
      (visibility : Except String Bool)
  | noSuchHandle
  | noSuchWatcher
  | refused (reason : ε)

/-- What was told to whom, in the order in which it happened. -/
inductive Event (ε : Type)
  | told (watcher : Nat) (sight : Sight)
  | submitted (a : Answers)
  | cancelled
  /-- The answer to an action that a watcher or the end of the session caused. -/
  | caused (reply : Reply ε)

mutual

/-- How many actions an action can cause at most, itself included. -/
def Action.weight {ε : Type} : Action ε → Nat
  | .watch _ (some r) => 1 + r.weight
  | .andThen first next => 1 + first.weight + next.weight
  | _ => 1

/-- How many actions a reaction can cause at most. -/
def Reaction.weight {ε : Type} : Reaction ε → Nat
  | .mk _ times action => times * action.weight
  | .or first other => first.weight + other.weight

end

end NoteForms
