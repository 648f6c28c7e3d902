import NoteForms.Proofs.Filling
import NoteForms.Proofs.Lasting

/-!
# What can be said of visibility

Whether a field is shown can be said once the field that its condition asks about is there, and no
field is ever taken away.  It is a matter of the answer to that field alone, so it stays as it is
while nothing is done to that field (`Field.visibility_applyAll`).  In a session for a form whose
conditions ask about its own fields, all of its fields can always be said to be shown or not,
whatever watchers do and whichever fields are registered later (`Session.visibility_throughout`).
-/

namespace NoteForms

variable {ε : Type}

/-! ## The field that a condition asks about -/

/-- The answer to a field that is there. -/
def SessionState.held? (s : SessionState) (name : String) : Option (Option Answer) :=
  (s.fields.get? name).map (·.answer)

namespace Deed

variable (defaults : Answers) {name : String}

theorem held?_apply {deed : Deed} (h : deed.name? ≠ some name) (s : SessionState) :
    (deed.apply defaults s).held? name = s.held? name := by
  cases deed with
  | registered | answered => exact congrArg (Option.map _) (get?_apply_ne defaults rfl h s)
  | attempted =>
    rw [apply, SessionState.held?, SessionState.get?_attempted, Option.map_map, SessionState.held?]
    rfl
  | cancelled => rfl

theorem held?_applyAll : ∀ {deeds : List Deed}, (∀ deed ∈ deeds, deed.name? ≠ some name) →
    ∀ s : SessionState, (applyAll defaults deeds s).held? name = s.held? name
  | [], _, _ => rfl
  | deed :: deeds, h, s => by
    obtain ⟨hdeed, hrest⟩ := List.forall_mem_cons.1 h
    exact (held?_applyAll hrest (deed.apply defaults s)).trans (held?_apply defaults hdeed s)

end Deed

namespace Field

variable {f : Field} {s t : SessionState}

/-- Only the answer to the field that the condition asks about is taken into account. -/
theorem visibility_congr
    (h : ∀ c ∈ f.condition, t.held? c.dependency = s.held? c.dependency) :
    f.visibility t = f.visibility s := by
  unfold visibility
  split
  · rfl
  split
  · rfl
  split
  · rfl
  · rename_i c hc
    have hheld := h c hc
    cases hs : s.fields.get? c.dependency with
    | none =>
      have ht : t.fields.get? c.dependency = none := by
        simpa [SessionState.held?, hs] using hheld
      rw [ht]
    | some dependency =>
      obtain ⟨other, ht, hanswer⟩ : ∃ other, t.fields.get? c.dependency = some other
          ∧ other.answer = dependency.answer := by
        simpa [SessionState.held?, hs] using hheld
      simp only [ht, hanswer]

theorem visibility_applyAll (defaults : Answers) {deeds : List Deed}
    (h : ∀ c ∈ f.condition, ∀ deed ∈ deeds, deed.name? ≠ some c.dependency) :
    f.visibility (Deed.applyAll defaults deeds s) = f.visibility s :=
  visibility_congr fun c hc => Deed.held?_applyAll defaults (h c hc) s

/-- It can be said whether the field is shown. -/
def IsTold (f : Field) (s : SessionState) : Prop := ∃ shown, f.visibility s = .ok shown

theorem isTold_iff : f.IsTold s ↔ f.input.isHidden = true ∨ f.isRequired = true
    ∨ ∀ c ∈ f.condition, c.dependency ∈ s.fields.keys := by
  unfold IsTold visibility
  split
  · simp [*]
  split
  · simp [*]
  split
  · simp [*]
  · rename_i hcondition
    simp only [hcondition, Option.mem_some_iff, forall_eq', Table.mem_keys_iff]
    split
    · simp [*]
    · simp [*]

theorem IsTold.mono (h : f.IsTold s) (hkeys : s.fields.keys ⊆ t.fields.keys) : f.IsTold t :=
  isTold_iff.2 ((isTold_iff.1 h).imp_right (Or.imp_right fun hdeps c hc => hkeys (hdeps c hc)))

end Field

/-! ## Fields that are there -/

theorem SessionState.isSome_registerAll (defaults : Answers) {name : String} :
    ∀ {fields : List Field} (s : SessionState),
      (∃ f ∈ fields, f.name = name) ∨ (s.fields.get? name).isSome = true →
      ((s.registerAll fields defaults).fields.get? name).isSome = true
  | [], s, h => h.resolve_left fun ⟨_, hf, _⟩ => List.not_mem_nil hf
  | field :: fields, s, h => by
    refine isSome_registerAll defaults (s.register field defaults) ?_
    rw [get?_register]
    rcases h with ⟨f, hf, hname⟩ | hthere
    · rcases List.mem_cons.1 hf with rfl | hf
      · rw [if_pos hname]
        exact .inr rfl
      · exact .inl ⟨f, hf, hname⟩
    · split
      · exact .inr rfl
      · exact .inr hthere

namespace Session

variable {s : Session ε}

/-- A handle is never taken back, nor given for another field. -/
theorem lasts_handles (D : Discipline ε) :
    Lasts D fun (s t : Session ε) => s.fields <+: t.fields where
  trans := List.IsPrefix.trans
  aside h := by
    cases h with
    | handled => exact List.prefix_append _ _
    | _ => exact List.prefix_rfl
  did _ := List.prefix_rfl
  informed _ _ := List.prefix_rfl
  greeted s view := ⟨[], by rw [List.append_nil, fields_greeted]⟩
  joined _ _ := List.prefix_rfl

/-- In a session for a form whose conditions ask about its own fields, it can be said of each of
these fields at every moment whether it is shown.  Of a field registered later it can be said if
the field is hidden or must be answered, or once the field that its condition asks about is there,
and from then on.  This changes only when something is done to the field asked about. -/
theorem visibility_throughout {fields : List Field}
    (hdependencies : ∀ field ∈ fields, ∀ c ∈ field.condition, ∃ f ∈ fields, f.name = c.dependency)
    (defaults : Answers) (onSubmit onCancel : Option (Ending ε)) (actions : List (Action ε)) :
    let s := forFields fields defaults onSubmit onCancel
    let history := .of s :: s.allMoments actions
    (∀ m ∈ history, fields <+: m.session.fields
      ∧ ∀ field ∈ m.session.fields, (∃ shown, field.visibility m.session.state = .ok shown) ↔
        field ∈ fields ∨ field.input.isHidden = true ∨ field.isRequired = true
          ∨ ∀ c ∈ field.condition, c.dependency ∈ m.session.state.fields.keys)
    ∧ (history.Pairwise fun m m' => ∀ field : Field,
        (∃ shown, field.visibility m.session.state = .ok shown) →
          ∃ shown, field.visibility m'.session.state = .ok shown)
    ∧ ∀ before m between m' after, history = before ++ m :: (between ++ m' :: after) →
        ∀ field : Field,
          (∀ c ∈ field.condition, ∀ deed ∈ deedsOf (between ++ [m']),
            deed.name? ≠ some c.dependency) →
          field.visibility m'.session.state = field.visibility m.session.state := by
  intro s history
  have hobeys := obeys_anything s
  have hendures : Along Endures s history (s.runAll actions) :=
    (lasts_endures anything).history hobeys fun _ _ => trivial
  have hhandles : Along (fun s t : Session ε => s.fields <+: t.fields) s history
      (s.runAll actions) := (lasts_handles anything).history hobeys fun _ _ => trivial
  have hs : s = _ := forFields_eq fields defaults onSubmit onCancel
  have hfields : s.fields = fields := by rw [hs]
  have htold : ∀ field ∈ fields, field.IsTold s.state := by
    intro field hfield
    refine Field.isTold_iff.2 (.inr (.inr fun c hc => Table.mem_keys_iff.2 ?_))
    rw [hs]
    exact SessionState.isSome_registerAll defaults _ (.inl (hdependencies field hfield c hc))
  refine ⟨fun m hm => ⟨?_, fun field _ => ⟨fun hsaid => ?_, ?_⟩⟩, ?_, ?_⟩
  · have hkept := hhandles.before m hm
    rwa [hfields] at hkept
  · exact .inr (Field.isTold_iff.1 hsaid)
  · rintro (hfield | hknown)
    · exact (htold field hfield).mono (hendures.before m hm).keys
    · exact Field.isTold_iff.2 hknown
  · exact hendures.pairwise.imp fun h field hsaid => Field.IsTold.mono hsaid h.keys
  · intro before m between m' after heq field huntouched
    rw [(comesOf_between hobeys (fun _ _ => trivial) heq).state]
    exact Field.visibility_applyAll _ huntouched

/-- Two fields ask about each other and one about itself, while a watcher writes and a field is
registered before the one that it asks about. -/
theorem visibility_throughout_in_a_ring :
    let field (name dependency : String) : Field :=
      ⟨name, none, "", .basic .text none, none, some ⟨dependency, .isSet⟩⟩
    let fields := [field "a" "b", field "b" "a", field "c" "c"]
    let s : Session Unit := forFields fields ∅ none none
    let actions : List (Action Unit) :=
      [.watch (.field 0 .answer) (some (.mk 1 1 (.set 1 (.text "y")))), .register (field "d" "e"),
        .set 0 (.text "x"), .register (field "e" "c")]
    (∀ field ∈ fields, ∀ c ∈ field.condition, ∃ f ∈ fields, f.name = c.dependency)
      ∧ (∀ m ∈ .of s :: s.allMoments actions, ∀ field ∈ fields,
        ∃ shown, field.visibility m.session.state = .ok shown)
      ∧ (s.runAll actions).fields.map (fun f => (f.visibility (s.runAll actions).state).toOption)
        = [some true, some true, some false, some false, some false] := by
  intro field fields s actions
  have hdependencies : ∀ field ∈ fields, ∀ c ∈ field.condition,
      ∃ f ∈ fields, f.name = c.dependency := by decide
  refine ⟨hdependencies, fun m hm f hf => ?_, by decide +kernel⟩
  obtain ⟨hkept, htold⟩ := (visibility_throughout hdependencies ∅ none none actions).1 m hm
  exact (htold f (hkept.subset hf)).2 (.inl hf)

/-- A field registered later may ask about one that is not there, and then nothing can be said. -/
theorem visibility_of_orphan :
    let plain : Field := ⟨"a", none, "", .basic .text none, none, none⟩
    let orphan : Field := ⟨"b", none, "", .basic .text none, none, some ⟨"ghost", .isSet⟩⟩
    let s : Session Unit := forFields [plain] ∅ none none
    (∀ field ∈ [plain], ∀ c ∈ field.condition, ∃ f ∈ [plain], f.name = c.dependency)
      ∧ ∃ m ∈ s.allMoments [.register orphan], ∃ field ∈ m.session.fields,
        field.visibility m.session.state
          = .error "Condition dependency 'ghost' not found for field 'b'" := by
  intro plain orphan s
  let m := (s.allMoments [.register orphan]).get ⟨1, by decide +kernel⟩
  exact ⟨by decide, m, List.get_mem _ _, orphan, by decide +kernel, by decide +kernel⟩

end Session

end NoteForms
