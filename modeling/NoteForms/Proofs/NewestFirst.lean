import NoteForms.Proofs.Calendar
import NoteForms.Proofs.StampedNames

/-!
# Names in the order of their stamps

Backups are listed by an order in which no two names are equal, so a listing depends on the names
alone (`newestFirst_perm`): later stamps come first, names without one come last, and of one minute
the name that comes last in the order of names (`pairwise_newestFirst`).
-/

namespace NoteForms

/-! ## Keys -/

namespace Stamp

theorem parts_injective {s t : Stamp} (h : s.parts = t.parts) : s = t := by
  cases s
  cases t
  simpa [parts] using h

theorem IsBefore.trans {s t u : Stamp} (h : s.IsBefore t) (h' : t.IsBefore u) : s.IsBefore u :=
  List.lt_trans h h'

theorem not_isBefore_self (s : Stamp) : ¬ s.IsBefore s := List.lt_irrefl _

end Stamp

theorem stampKey_of_some {name : String} {stamp : Stamp} (h : stampOf? name = some stamp) :
    stampKey name = stamp.parts := by
  rw [stampKey, h]
  rfl

theorem stampKey_of_none {name : String} (h : stampOf? name = none) : stampKey name = [] := by
  rw [stampKey, h]
  rfl

/-! ## The order -/

theorem isListedBefore_iff {a b : String} : isListedBefore a b = true
    ↔ stampKey b < stampKey a ∨ stampKey a = stampKey b ∧ b ≤ a := by
  unfold isListedBefore
  split
  · rename_i hkey
    simp [hkey]
  · rename_i hkey
    simp [hkey]

theorem isListedBefore_trans (a b c : String) (hab : isListedBefore a b = true)
    (hbc : isListedBefore b c = true) : isListedBefore a c = true := by
  rw [isListedBefore_iff] at hab hbc ⊢
  rcases hab with hab | ⟨hab, hba⟩
  · rcases hbc with hbc | ⟨hbc, -⟩
    · exact .inl (List.lt_trans hbc hab)
    · exact .inl (hbc ▸ hab)
  · rcases hbc with hbc | ⟨hbc, hcb⟩
    · exact .inl (hab ▸ hbc)
    · exact .inr ⟨hab.trans hbc, String.le_trans hcb hba⟩

theorem isListedBefore_total (a b : String) :
    (isListedBefore a b || isListedBefore b a) = true := by
  rw [Bool.or_eq_true, isListedBefore_iff, isListedBefore_iff]
  rcases Std.lt_trichotomy (stampKey a) (stampKey b) with hlt | heq | hgt
  · exact .inr (.inl hlt)
  · rcases String.le_total a b with hab | hba
    · exact .inr (.inr ⟨heq.symm, hab⟩)
    · exact .inl (.inr ⟨heq, hba⟩)
  · exact .inl (.inl hgt)

theorem isListedBefore_antisymm {a b : String} (hab : isListedBefore a b = true)
    (hba : isListedBefore b a = true) : a = b := by
  rw [isListedBefore_iff] at hab hba
  rcases hab with hab | ⟨hkey, hle⟩
  · rcases hba with hba | ⟨hkey, -⟩
    · exact absurd (List.lt_trans hab hba) (List.lt_irrefl _)
    · exact absurd (hkey ▸ hab) (List.lt_irrefl _)
  · rcases hba with hba | ⟨-, hle'⟩
    · exact absurd (hkey ▸ hba) (List.lt_irrefl _)
    · exact String.le_antisymm hle' hle

/-- One name stands before another among those of backups: its stamp is later, or the same and the
name comes later in the order of names; names without a stamp come last. -/
def Precedes (a b : String) : Prop :=
  match stampOf? a, stampOf? b with
  | some s, some t => t.IsBefore s ∨ s = t ∧ b < a
  | some _, none => True
  | none, some _ => False
  | none, none => b < a

theorem precedes_of_isListedBefore {a b : String} (h : isListedBefore a b = true) (hne : a ≠ b) :
    Precedes a b := by
  have hlt (hle : b ≤ a) : b < a := Std.lt_of_le_of_ne hle hne.symm
  rw [isListedBefore_iff] at h
  unfold Precedes
  split
  · rename_i s t ha hb
    rw [stampKey_of_some ha, stampKey_of_some hb] at h
    exact h.imp_right fun ⟨hsame, hle⟩ => ⟨Stamp.parts_injective hsame, hlt hle⟩
  · trivial
  · rename_i ha hb
    rw [stampKey_of_none ha, stampKey_of_some hb] at h
    rcases h with h | ⟨h, -⟩
    · exact List.not_lt_nil _ h
    · cases h
  · rename_i ha hb
    rw [stampKey_of_none ha, stampKey_of_none hb] at h
    rcases h with h | ⟨-, h⟩
    · exact absurd h (List.lt_irrefl _)
    · exact hlt h

/-! ## Listings -/

/-- The names of backups among some names, in the order in which they are listed. -/
def newestFirst (names : List String) : List String :=
  (names.filter isBackupName).mergeSort isListedBefore

theorem newestFirst_perm_filter (names : List String) :
    (newestFirst names).Perm (names.filter isBackupName) := List.mergeSort_perm _ _

theorem mem_newestFirst {names : List String} {name : String} :
    name ∈ newestFirst names ↔ name ∈ names ∧ ∃ stem, name = stem ++ backupEnd := by
  rw [(newestFirst_perm_filter names).mem_iff, List.mem_filter, isBackupName_iff]

theorem nodup_newestFirst {names : List String} (h : names.Nodup) : (newestFirst names).Nodup :=
  (newestFirst_perm_filter names).nodup_iff.2 (h.filter _)

theorem pairwise_isListedBefore (names : List String) :
    (newestFirst names).Pairwise fun a b => isListedBefore a b = true :=
  List.pairwise_mergeSort isListedBefore_trans isListedBefore_total _

theorem pairwise_newestFirst {names : List String} (h : names.Nodup) :
    (newestFirst names).Pairwise Precedes :=
  (pairwise_isListedBefore names).imp₂ (fun _ _ hle hne => precedes_of_isListedBefore hle hne)
    (nodup_newestFirst h)

/-- The order in which names are found does not matter. -/
theorem newestFirst_perm {names order : List String} (h : order.Perm names) :
    newestFirst order = newestFirst names := by
  have hperm : (newestFirst order).Perm (newestFirst names) :=
    (newestFirst_perm_filter order).trans ((h.filter _).trans (newestFirst_perm_filter names).symm)
  exact hperm.eq_of_pairwise (fun a b _ _ hab hba => isListedBefore_antisymm hab hba)
    (pairwise_isListedBefore order) (pairwise_isListedBefore names)

/-- Of two backups the one with the later stamp is listed first. -/
theorem exists_newestFirst_eq {names : List String} {earlier later : String}
    (hearlier : earlier ∈ newestFirst names) (hlater : later ∈ newestFirst names) {s t : Stamp}
    (hs : stampOf? earlier = some s) (ht : stampOf? later = some t) (h : s.IsBefore t) :
    ∃ newer between older, newestFirst names = newer ++ later :: between ++ earlier :: older := by
  have hnot : isListedBefore earlier later ≠ true := by
    rw [Ne, isListedBefore_iff, stampKey_of_some hs, stampKey_of_some ht]
    rintro (hlt | ⟨heq, -⟩)
    · exact s.not_isBefore_self (h.trans hlt)
    · exact s.not_isBefore_self (Stamp.parts_injective heq ▸ h)
  obtain ⟨newer, rest, hsplit⟩ := List.append_of_mem hlater
  have hsorted := pairwise_isListedBefore names
  rw [hsplit, List.pairwise_append] at hsorted
  rw [hsplit] at hearlier
  rcases List.mem_append.1 hearlier with hnewer | hrest
  · exact absurd (hsorted.2.2 earlier hnewer later List.mem_cons_self) hnot
  · rcases List.mem_cons.1 hrest with rfl | hrest
    · exact absurd (by simpa using isListedBefore_total earlier earlier) hnot
    · obtain ⟨between, older, rfl⟩ := List.append_of_mem hrest
      exact ⟨newer, between, older, by rw [hsplit, List.append_assoc, List.cons_append]⟩

end NoteForms
