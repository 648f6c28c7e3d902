import NoteForms.Proofs.Moments
import NoteForms.Proofs.Unwatched

/-!
# Numbers kept as numbers

A field for numbers keeps a text only if no number can be read of it.  Every answer goes through the
input of a field or is a list, its default as well as what is made of it later through a handle
(`Field.Edits.isRead`).  So while only fields for numbers are registered under a name, no text that
spells a number is kept there, at any moment of any run and whatever watchers do
(`Session.isRead_while_numeric`).
-/

namespace NoteForms

variable {ε : Type}

/-! ## Answers that are read -/

/-- A finite number can be read of the text, but for blanks around it. -/
def SpellsNumber (text : String) : Prop :=
  ∃ x, readTyped? (Text.trimChars text.toList) = some x

/-- A text is left only if no number can be read of it. -/
def Answer.IsRead : Answer → Prop
  | .text words => ¬SpellsNumber words
  | _ => True

theorem InputKind.isRead_coerce {kind : InputKind} (h : kind.isNumeric = true) (a : Answer) :
    (kind.coerce a).IsRead := by
  cases a with
  | text text =>
    rw [coerce, if_pos h]
    split
    · trivial
    · rename_i hnone
      rintro ⟨x, hx⟩
      cases hnone.symm.trans hx
  | _ => trivial

namespace Field

variable {field : Field} {a : Answer}

theorem isRead_initialState (h : field.input.kind.isNumeric = true) {defaults : Answers}
    (ha : (field.initialState defaults).answer = some a) : a.IsRead := by
  obtain ⟨default, -, rfl⟩ := Option.map_eq_some_iff.1 ha
  exact InputKind.isRead_coerce h default

theorem Edits.isRead {edit : Option Answer → Option Answer} (hedit : field.Edits edit)
    (h : field.input.kind.isNumeric = true) {old : Option Answer} (ha : edit old = some a) :
    a.IsRead := by
  cases hedit with
  | kept f =>
    obtain ⟨answer, -, rfl⟩ := Option.map_eq_some_iff.1 ha
    exact InputKind.isRead_coerce h answer
  | listed f =>
    cases ha
    trivial

end Field

/-! ## Fields for numbers -/

namespace SessionState

/-- The answer to the field is read, if there is one. -/
def Reads (s : SessionState) (name : String) : Prop := ∀ a, s.answer? name = some a → a.IsRead

theorem reads_apply {s : SessionState} {name : String} (h : s.Reads name) (defaults : Answers)
    {deed : Deed}
    (hregistered : ∀ field, deed = .registered field → field.name = name →
      field.input.kind.isNumeric = true)
    (hanswered : ∀ edit, deed = .answered name edit →
      ∃ field : Field, field.input.kind.isNumeric = true ∧ field.Edits edit) :
    (deed.apply defaults s).Reads name := by
  intro a ha
  cases deed with
  | registered field =>
    rw [Deed.apply, answer?, get?_register] at ha
    split at ha
    · rename_i hname
      exact Field.isRead_initialState (hregistered field rfl hname) ha
    · exact h a ha
  | answered other edit =>
    by_cases hname : other = name
    · subst hname
      obtain ⟨field, hnumeric, hedit⟩ := hanswered edit rfl
      exact hedit.isRead hnumeric (eq_of_answer?_setAnswer ha)
    · rw [Deed.apply, answer?_setAnswer_ne s hname] at ha
      exact h a ha
  | attempted =>
    rw [Deed.apply, answer?_attempted] at ha
    exact h a ha
  | cancelled => exact h a ha

end SessionState

/-- The field that was registered, if one was. -/
def Deed.field? : Deed → Option Field
  | .registered field => some field
  | _ => none

/-- The fields that were registered at some moments, in order. -/
def registeredIn (ms : List (Moment ε)) : List Field := (deedsOf ms).filterMap Deed.field?

theorem mem_registeredIn {ms : List (Moment ε)} {field : Field} :
    field ∈ registeredIn ms ↔ .registered field ∈ deedsOf ms := by
  rw [registeredIn, List.mem_filterMap]
  constructor
  · rintro ⟨deed, hdeed, hfield⟩
    cases deed with
    | registered other =>
      cases hfield
      exact hdeed
    | _ => cases hfield
  · exact fun h => ⟨_, h, rfl⟩

theorem registeredIn_append (ms ns : List (Moment ε)) :
    registeredIn (ms ++ ns) = registeredIn ms ++ registeredIn ns := by
  rw [registeredIn, deedsOf_append, List.filterMap_append, registeredIn, registeredIn]

/-- All fields of the name that were registered at some moments are for numbers. -/
def IsNumericIn (name : String) (ms : List (Moment ε)) : Prop :=
  ∀ field ∈ registeredIn ms, field.name = name → field.input.kind.isNumeric = true

theorem isNumericIn_append {name : String} {ms ns : List (Moment ε)} :
    IsNumericIn name (ms ++ ns) ↔ IsNumericIn name ms ∧ IsNumericIn name ns := by
  rw [IsNumericIn, registeredIn_append, List.forall_mem_append, IsNumericIn, IsNumericIn]

namespace Session

variable {s : Session ε} {name : String}

/-- All handles of the name are of fields for numbers, and the answer is read. -/
structure Reads (s : Session ε) (name : String) : Prop where
  handles : ∀ field ∈ s.fields, field.name = name → field.input.kind.isNumeric = true
  answer : s.state.Reads name

theorem Reads.of_eq {t : Session ε} (h : s.Reads name) (hfields : t.fields = s.fields)
    (hstate : t.state = s.state) : t.Reads name :=
  ⟨hfields ▸ h.handles, hstate ▸ h.answer⟩

theorem stepwise_reads (D : Discipline ε) (name : String) :
    Stepwise D fun (s : Session ε) ms t => IsNumericIn name ms → s.Reads name → t.Reads name where
  nil _ _ h := h
  append {s t u ms ns} hst htu hnumeric h := by
    obtain ⟨hms, hns⟩ := isNumericIn_append.1 hnumeric
    exact htu hns (hst hms h)
  aside haside hfields _ h := h.of_eq hfields haside.state
  handled {s t ms field} hregistered hst hnumeric h := by
    have hms := (isNumericIn_append.1 hnumeric).1
    have ht := hst hms h
    refine ⟨fun other hother => ?_, ht.answer⟩
    rcases List.mem_append.1 hother with hother | hother
    · exact ht.handles other hother
    · rw [List.mem_singleton.1 hother]
      exact hms field (mem_registeredIn.2 hregistered)
  deeper h hnumeric := by
    rw [IsNumericIn, registeredIn, deedsOf_deeper] at hnumeric
    exact h hnumeric
  did {s deed} hadmits hnumeric h := by
    refine ⟨h.handles, SessionState.reads_apply h.answer s.defaults (fun field hdeed => ?_)
      fun edit hdeed => ?_⟩
    · exact hnumeric field (mem_registeredIn.2 (List.mem_singleton.2 hdeed.symm))
    · subst hdeed
      obtain ⟨field, hfield, hname, hedit⟩ := hadmits
      exact ⟨field, h.handles field hfield hname, hedit⟩
  informed _ _ _ h := h.of_eq rfl rfl
  greeted s view _ h := h.of_eq (fields_greeted s view) (state_greeted s view)
  joined _ _ _ h := h.of_eq rfl rfl

/-- While only fields for numbers are registered under a name, no text is kept there of which a
number can be read. -/
theorem isRead_while_numeric (name : String) (defaults : Answers)
    (onSubmit onCancel : Option (Ending ε)) (actions : List (Action ε))
    {before : List (Moment ε)} {m : Moment ε} {after : List (Moment ε)}
    (heq : .of (start defaults onSubmit onCancel)
      :: (start defaults onSubmit onCancel).allMoments actions = before ++ m :: after)
    (hnumeric : IsNumericIn name (before ++ [m])) : m.session.state.Reads name := by
  have hstart : (start defaults onSubmit onCancel).Reads name :=
    ⟨fun _ hfield => absurd hfield List.not_mem_nil, fun _ ha => by cases ha⟩
  exact ((stepwise_reads anything name).upTo (obeys_anything _) (fun _ _ => trivial) heq hnumeric
    hstart).answer

/-- At every moment up to which each name was registered at most once, a text that is the answer to
a field for numbers is one of which no number can be read.  Answers that are infinite or no numbers
are left out; they would be no texts. -/
theorem numbers_read_throughout (defaults : Answers) (onSubmit onCancel : Option (Ending ε))
    (actions : List (Action ε)) :
    let s := start defaults onSubmit onCancel
    let history := .of s :: s.allMoments actions
    ∀ before m after, history = before ++ m :: after →
      ((registeredIn (before ++ [m])).map (·.name)).Nodup →
      ∀ field ∈ registeredIn (before ++ [m]), field.input.kind.isNumeric = true →
        ∀ text, m.session.state.answer? field.name = some (.text text) → ¬SpellsNumber text := by
  intro s history before m after heq honce field hfield hnumeric text htext
  refine isRead_while_numeric field.name defaults onSubmit onCancel actions heq ?_ _ htext
  intro other hother hname
  rw [List.inj_on_of_nodup_map honce hother hfield hname]
  exact hnumeric

/-- A watcher puts a word in the place of a number. -/
theorem numbers_read_throughout_word :
    let age : Field := ⟨"age", none, "", .basic .number none, none, none⟩
    let s : Session Unit := start (Table.insert ∅ "age" (.text " 7 ")) none none
    let actions : List (Action Unit) :=
      [.register age,
        .watch (.field 0 .answer) (some (.mk 1 1 (.update 0 fun _ => some (.text "old")))),
        .set 0 (.text "8")]
    let history := .of s :: s.allMoments actions
    history.map (fun m => (m.session.state.answer? "age").map Answer.display)
        = [none, some "7", some "7", some "7", some "7", some "8", some "8", some "old",
          some "old", some "old"]
      ∧ ¬SpellsNumber "old" := by
  intro age s actions history
  let m := history.get ⟨7, by decide +kernel⟩
  have hsplit : history = history.take 7 ++ m :: history.drop 8 := by
    simp only [m, List.get_eq_getElem, List.getElem_cons_drop, List.take_append_drop]
  refine ⟨by decide +kernel, ?_⟩
  exact numbers_read_throughout _ none none actions (history.take 7) m (history.drop 8) hsplit
    (by decide +kernel) age (by decide +kernel) rfl "old" (by decide +kernel)

end Session

end NoteForms
