import NoteForms.Session.Action

/-!
# Running a session

Whatever changes a session is told to its watchers right away, to each in the order in which they
began to watch: the state as it was after that change, even if an earlier watcher has changed it
again.  Who is told is settled before the first of them is.  A session is closed by the first
submission that is accepted, or by being cancelled, and stays closed.
-/

namespace NoteForms

/-- A watcher: what it watches, what it was last told, how often it was told something, and whether
it is still told and can still be stopped. -/
structure Watcher (ε : Type) where
  id : Nat
  view : View
  last : Option Sight
  count : Nat
  reaction : Option (Reaction ε)
  isActive : Bool
  isHeld : Bool

/-- What happens when a session ends: it is noted, and an action may follow. -/
structure Ending (ε : Type) where
  action : Option (Action ε)

/-- A session. -/
structure Session (ε : Type) where
  state : SessionState
  fields : List Field
  defaults : Answers
  isClosed : Bool
  watchers : List (Watcher ε)
  nextWatcher : Nat
  onSubmit : Option (Ending ε)
  onCancel : Option (Ending ε)
  /-- What has happened, the last first. -/
  events : List (Event ε)

variable {ε : Type}

namespace Reaction

/-- The action that follows when a watcher is told something for the time of this count. -/
def action? (count : Nat) : Reaction ε → Option (Action ε)
  | .mk skip times action => if skip ≤ count ∧ count < skip + times then some action else none
  | .or first other => (first.action? count).or (other.action? count)

/-- How many actions a reaction can still cause. -/
def remaining (count : Nat) : Reaction ε → Nat
  | .mk skip times action => (times - (count - skip)) * action.weight
  | .or first other => first.remaining count + other.remaining count

end Reaction

namespace Session

/-- A session without fields. -/
def start (defaults : Answers) (onSubmit onCancel : Option (Ending ε)) : Session ε :=
  ⟨.start, [], defaults, false, [], 0, onSubmit, onCancel, []⟩

/-- The session with one more event. -/
def note (s : Session ε) (e : Event ε) : Session ε := { s with events := e :: s.events }

/-- The session with a watcher changed. -/
def updateWatcher (s : Session ε) (id : Nat) (f : Watcher ε → Watcher ε) : Session ε :=
  { s with watchers := s.watchers.map fun w => if w.id = id then f w else w }

/-- The watcher of a number. -/
def watcher? (s : Session ε) (id : Nat) : Option (Watcher ε) := s.watchers.find? fun w => w.id = id

/-- The watcher of a number, if it can still be stopped. -/
def heldWatcher? (s : Session ε) (id : Nat) : Option (Watcher ε) :=
  (s.watcher? id).filter (·.isHeld)

/-! ## Telling

Each step takes the way in which an action that it causes is carried out. -/

section Telling

variable (act : Action ε → Session ε → Session ε × Reply ε)

/-- The session after an action that was caused by something, if there is one. -/
def react (s : Session ε) : Option (Action ε) → Session ε
  | none => s
  | some action =>
    let (s, reply) := act action s
    s.note (.caused reply)

/-- A watcher that has been told something `count` times is told something more. -/
def tell (s : Session ε) (id count : Nat) (reaction : Option (Reaction ε)) (sight : Sight) :
    Session ε :=
  (s.note (.told id sight)).react act (reaction.bind (·.action? count))

/-- A watcher sees a state, and is told of it if that is new to it. -/
def inform (s : Session ε) (snapshot : SessionState) (id : Nat) : Session ε :=
  match s.watcher? id with
  | none => s
  | some w =>
    let sight := w.view.look snapshot
    if w.view.isSelective && w.last = some sight then s
    else
      let s := s.updateWatcher id fun w => { w with last := some sight, count := w.count + 1 }
      s.tell act id w.count w.reaction sight

/-- Every watcher sees the state. -/
def publish (s : Session ε) : Session ε :=
  let ids := (s.watchers.filter (·.isActive)).map (·.id)
  ids.foldl (fun t id => t.inform act s.state id) s

/-- The session with its state changed, and all told of it. -/
def change (s : Session ε) (f : SessionState → SessionState) : Session ε :=
  publish act { s with state := f s.state }

/-! ## Actions -/

/-- The session with another answer to a field. -/
def write (s : Session ε) (field : Field) (answer : Option Answer) : Session ε :=
  s.change act fun state => state.setAnswer field.name answer

/-- The session with another answer to a field, as the input of the field keeps it. -/
def writeCoerced (s : Session ε) (field : Field) (answer : Option Answer) : Session ε :=
  s.write act field (answer.map field.input.kind.coerce)

/-- The items of the answer to a field; anything but a list has none. -/
def items (s : Session ε) (field : Field) : List String :=
  ((s.state.answer? field.name).bind Answer.list?).getD []

/-- The session with other items in the answer to a field. -/
def writeItems (s : Session ε) (field : Field) (f : List String → List String) : Session ε :=
  s.write act field (some (.list (f (s.items field))))

/-- The session with one more field, and the handle of the field. -/
def register (s : Session ε) (field : Field) : Session ε × Reply ε :=
  let s := s.change act fun state => state.register field s.defaults
  ({ s with fields := s.fields ++ [field] }, .handle s.fields.length)

/-- What happens when a session has ended, if anything: it is noted, and an action may follow. -/
def conclude (s : Session ε) (event : Event ε) : Option (Ending ε) → Session ε
  | none => s
  | some ending => (s.note event).react act ending.action

/-- An attempt to submit: refused while a field has errors, and in a closed session. -/
def submit (s : Session ε) : Session ε × Reply ε :=
  if s.isClosed then (s, .submitted false)
  else
    let valid := s.state.checkAll.isValid
    let s := s.change act SessionState.attempted
    if valid then
      ({ s with isClosed := true, onSubmit := none }.conclude act (.submitted s.state.answers)
        s.onSubmit, .submitted true)
    else (s, .submitted false)

/-- The end of a session without a submission. -/
def cancel (s : Session ε) : Session ε :=
  if s.isClosed then s
  else
    let s := s.change act SessionState.cancelled
    { s with isClosed := true, onCancel := none }.conclude act .cancelled s.onCancel

/-- A new watcher, which is told at once unless it watches everything. -/
def watch (s : Session ε) (id : Nat) (view : View) (reaction : Option (Reaction ε)) :
    Session ε × Reply ε :=
  let sight := view.look s.state
  let s := if view.isSelective then s.tell act id 0 reaction sight else s
  let watcher : Watcher ε :=
    ⟨id, view, some sight, if view.isSelective then 1 else 0, reaction, true, true⟩
  ({ s with watchers := s.watchers ++ [watcher] }, .watcher id)

/-- The view that a watcher asks for, if the handle is there. -/
def view? (s : Session ε) : Focus → Option View
  | .session view => some view
  | .field handle view =>
    (s.fields[handle]?).map fun field =>
      match view with
      | .answer => .answer field.name
      | .errors => .errors field.name
      | .visibility => .visibility field

/-- What is read of a field. -/
def describe (s : Session ε) (field : Field) : Reply ε :=
  .field field (s.state.answer? field.name) (s.state.errors field.name) (field.visibility s.state)

/-- Something done to the field of a handle. -/
def withField (s : Session ε) (handle : Nat) (f : Field → Session ε) : Session ε × Reply ε :=
  match s.fields[handle]? with
  | some field => (f field, .done)
  | none => (s, .noSuchHandle)

/-- An action carried out. -/
def perform (action : Action ε) (s : Session ε) : Session ε × Reply ε :=
  match action with
  | .set handle answer => s.withField handle fun field => s.writeCoerced act field (some answer)
  | .clear handle => s.withField handle fun field => s.write act field none
  | .update handle f =>
    s.withField handle fun field => s.writeCoerced act field (f (s.state.answer? field.name))
  | .updateItems handle f => s.withField handle fun field => s.writeItems act field f
  | .read handle =>
    match s.fields[handle]? with
    | some field => (s, s.describe field)
    | none => (s, .noSuchHandle)
  | .register field => s.register act field
  | .submit => s.submit act
  | .cancel => (s.cancel act, .done)
  | .answers => (s, .answers s.state.answers)
  | .watch focus reaction =>
    let id := s.nextWatcher
    let s := { s with nextWatcher := id + 1 }
    match s.view? focus with
    | some view => s.watch act id view reaction
    | none => (s, .noSuchHandle)
  | .stop id =>
    match s.heldWatcher? id with
    | some _ => (s.updateWatcher id fun w => { w with isActive := false, isHeld := false }, .done)
    | none => (s, .noSuchWatcher)
  | .release id =>
    match s.heldWatcher? id with
    | some _ => (s.updateWatcher id fun w => { w with isHeld := false }, .done)
    | none => (s, .noSuchWatcher)
  | .refused reason => (s, .refused reason)
  | .refusedAt handle reason =>
    match s.fields[handle]? with
    | some _ => (s, .refused reason)
    | none => (s, .noSuchHandle)
  | .andThen first next => act next (act first s).1

end Telling

/-! ## Runs -/

/-- An action carried out, in which actions cause others `depth` deep. -/
def performWithin : Nat → Action ε → Session ε → Session ε × Reply ε
  | 0, _, s => (s, .done)
  | depth + 1, action, s => s.perform (performWithin depth) action

/-- How many actions the end of a session can cause. -/
def endingWeight (ending : Option (Ending ε)) : Nat :=
  ((ending.bind (·.action)).map Action.weight).getD 0

/-- How many actions can still be caused in a session. -/
def budget (s : Session ε) : Nat :=
  s.watchers.foldl (fun n w => n + (w.reaction.map (·.remaining w.count)).getD 0) 0
    + endingWeight s.onSubmit + endingWeight s.onCancel

/-- An action carried out with all that it causes. -/
def run (action : Action ε) (s : Session ε) : Session ε × Reply ε :=
  s.performWithin (action.weight + s.budget + 1) action

/-- The session after actions carried out one after the other. -/
def runAll (s : Session ε) (actions : List (Action ε)) : Session ε :=
  actions.foldl (fun s action => (s.run action).1) s

/-- The session with fields registered one after the other. -/
def registerAll (s : Session ε) (fields : List Field) : Session ε :=
  s.runAll (fields.map .register)

/-- A session for a form. -/
def forFields (fields : List Field) (defaults : Answers) (onSubmit onCancel : Option (Ending ε)) :
    Session ε :=
  (start defaults onSubmit onCancel).registerAll fields

end Session

end NoteForms
