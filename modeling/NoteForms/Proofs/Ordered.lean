import NoteForms.Json.Reader
import NoteForms.Proofs.Basics

/-!
# Values in order

A value is in order when sorting its members changes nothing.  Every sorted value is in order
(`isOrdered_sorted`), and so is every value that is read from text (`isOrdered_of_parse`).  Sorting
an object whose names are all different keeps what is found under each name, apart from sorting that
value too (`lookup_sorted`).
-/

namespace NoteForms

variable {α : Type}

namespace Json

/-! ## Sorting members -/

theorem sortedItems_eq_map : ∀ items : List Json, sortedItems items = items.map sorted
  | [] => rfl
  | v :: vs => by rw [sortedItems, sortedItems_eq_map vs, List.map_cons]

theorem sortedMembers_eq_map :
    ∀ members : List (String × Json), sortedMembers members = members.map fun m => (m.1, m.2.sorted)
  | [] => rfl
  | (k, v) :: ms => by rw [sortedMembers, sortedMembers_eq_map ms, List.map_cons]

/-- What sorting does, one member after the other: an invariant of the members put in place so far
is one of all of them. -/
theorem sortMembers_induction {motive : List (String × Json) → Prop}
    {members : List (String × Json)} (nil : motive [])
    (insert : ∀ m ∈ members, ∀ sorted, motive sorted → motive (insertEntry m.1 m.2 sorted)) :
    motive (sortMembers members) :=
  List.foldlRecOn members _ nil fun sorted h m hm => insert m hm sorted h

theorem sortedByName_sortMembers (members : List (String × Json)) :
    SortedByName (sortMembers members) :=
  sortMembers_induction .nil fun _ _ _ h => sortedByName_insertEntry h

theorem mem_of_mem_sortMembers {members : List (String × Json)} :
    ∀ m ∈ sortMembers members, m ∈ members := by
  refine sortMembers_induction (motive := fun sorted => ∀ m ∈ sorted, m ∈ members) (by simp) ?_
  intro m hm sorted ih a ha
  rcases mem_of_mem_insertEntry ha with rfl | ha
  · exact hm
  · exact ih a ha

theorem lookup_foldl_insertEntry (name : String) :
    ∀ members sorted : List (String × α), (members.map (·.1)).Nodup →
      lookup name (members.foldl (fun sorted m => insertEntry m.1 m.2 sorted) sorted)
        = (lookup name members).or (lookup name sorted)
  | [], sorted, _ => rfl
  | (key, value) :: members, sorted, h => by
    obtain ⟨hkey, h⟩ := List.nodup_cons.1 h
    rw [List.foldl_cons, lookup_foldl_insertEntry name members _ h, lookup_insertEntry, lookup]
    split
    · rename_i heq
      subst heq
      rw [lookup_eq_none_iff.2 hkey]
      rfl
    · rfl

theorem lookup_sortMembers {name : String} {members : List (String × Json)}
    (h : (members.map (·.1)).Nodup) : lookup name (sortMembers members) = lookup name members := by
  rw [sortMembers, lookup_foldl_insertEntry name members [] h, lookup, Option.or_none]

theorem sortMembers_of_sortedByName {members : List (String × Json)} (h : SortedByName members) :
    sortMembers members = members :=
  eq_of_lookup_eq (sortedByName_sortMembers members) h fun _ => lookup_sortMembers h.nodup

/-- Where no name is used twice, the sorted members hold under each name what the members do. -/
theorem lookup_sorted (name : String) {members : List (String × Json)}
    (h : (members.map (·.1)).Nodup) :
    lookup name (sortMembers (sortedMembers members)) = (lookup name members).map sorted := by
  rw [sortedMembers_eq_map, lookup_sortMembers, lookup_map]
  rwa [List.map_map]

/-! ## Values in order -/

/-- The members of every object are in order of name, each name once. -/
def IsOrdered (v : Json) : Prop := v.sorted = v

theorem isOrdered_arr {items : List Json} : IsOrdered (.arr items) ↔ ∀ v ∈ items, IsOrdered v := by
  rw [IsOrdered, sorted, sortedItems_eq_map, Json.arr.injEq, map_eq_self_iff]
  rfl

theorem isOrdered_obj {members : List (String × Json)} :
    IsOrdered (.obj members) ↔ SortedByName members ∧ ∀ m ∈ members, IsOrdered m.2 := by
  rw [IsOrdered, sorted, Json.obj.injEq]
  constructor
  · intro h
    have hsorted : SortedByName members := h ▸ sortedByName_sortMembers _
    refine ⟨hsorted, fun m hm => ?_⟩
    have hfound := lookup_of_mem hsorted.nodup hm
    have hsame := lookup_sorted m.1 hsorted.nodup
    rw [h, hfound] at hsame
    exact (Option.some.inj hsame).symm
  · rintro ⟨hsorted, hvalues⟩
    have hmembers : sortedMembers members = members := by
      rw [sortedMembers_eq_map, map_eq_self_iff]
      exact fun m hm => Prod.ext rfl (hvalues m hm)
    rw [hmembers, sortMembers_of_sortedByName hsorted]

mutual

/-- A sorted value is in order. -/
theorem isOrdered_sorted : ∀ v : Json, v.sorted.IsOrdered
  | .null => rfl
  | .bool _ => rfl
  | .num _ => rfl
  | .str _ => rfl
  | .arr items => by
    rw [sorted, isOrdered_arr]
    exact isOrdered_sortedItems items
  | .obj members => by
    rw [sorted, isOrdered_obj]
    exact ⟨sortedByName_sortMembers _, fun m hm =>
      isOrdered_sortedMembers members m (mem_of_mem_sortMembers m hm)⟩

theorem isOrdered_sortedItems : ∀ (items : List Json), ∀ v ∈ sortedItems items, v.IsOrdered
  | [], _, h => by cases h
  | v :: vs, w, h => by
    rw [sortedItems] at h
    rcases List.mem_cons.1 h with rfl | h
    · exact isOrdered_sorted v
    · exact isOrdered_sortedItems vs w h

theorem isOrdered_sortedMembers :
    ∀ (members : List (String × Json)), ∀ m ∈ sortedMembers members, m.2.IsOrdered
  | [], _, h => by cases h
  | (k, v) :: ms, m, h => by
    rw [sortedMembers] at h
    rcases List.mem_cons.1 h with rfl | h
    · exact isOrdered_sorted v
    · exact isOrdered_sortedMembers ms m h

end

/-! ## Values read from text -/

/-- The items of a list are what is read as one. -/
theorem forall_of_readItems {ε : Type} {embed : Problem → ε}
    {item : List Char → Reading ε (Parsed α)} {P : α → Prop}
    (hitem : ∀ {cs v rest}, item cs = .ok (v, rest) → P v) :
    ∀ {fuel first cs vs rest}, readItems embed item fuel first cs = .ok (vs, rest) → ∀ v ∈ vs, P v
  | 0, _, _, _, _, h => by cases h
  | fuel + 1, first, cs, vs, rest, h => by
    rw [readItems] at h
    obtain ⟨⟨more, start⟩, -, h⟩ := bind_eq_ok_iff.1 h
    cases more with
    | false =>
      cases h
      simp
    | true =>
      obtain ⟨⟨v, behind⟩, hv, h⟩ := bind_eq_ok_iff.1 h
      obtain ⟨⟨others, behind⟩, hvs, h⟩ := bind_eq_ok_iff.1 h
      cases h
      exact List.forall_mem_cons.2 ⟨hitem hv, forall_of_readItems hitem hvs⟩

/-- Members are put in their place as they are read. -/
theorem forall_of_readMembers {ε : Type} {embed : Problem → ε}
    {item : List Char → Reading ε (Parsed α)} {P : α → Prop}
    (hitem : ∀ {cs v rest}, item cs = .ok (v, rest) → P v) :
    ∀ {fuel first before cs members rest}, SortedByName before → (∀ m ∈ before, P m.2) →
      readMembers embed item fuel first before cs = .ok (members, rest) →
      SortedByName members ∧ ∀ m ∈ members, P m.2
  | 0, _, _, _, _, _, _, _, h => by cases h
  | fuel + 1, first, before, cs, members, rest, hsorted, hbefore, h => by
    rw [readMembers] at h
    obtain ⟨⟨more, start⟩, -, h⟩ := bind_eq_ok_iff.1 h
    cases more with
    | false =>
      cases h
      exact ⟨hsorted, hbefore⟩
    | true =>
      obtain ⟨⟨name, behind⟩, -, h⟩ := bind_eq_ok_iff.1 h
      obtain ⟨⟨v, behind⟩, hv, h⟩ := bind_eq_ok_iff.1 h
      refine forall_of_readMembers hitem (sortedByName_insertEntry hsorted) (fun m hm => ?_) h
      rcases mem_of_mem_insertEntry hm with rfl | hm
      · exact hitem hv
      · exact hbefore m hm

theorem isOrdered_of_readWord (v : Json) (hv : v.IsOrdered) :
    ∀ {word cs : List Char} {w : Json} {rest : List Char},
      readWord v word cs = .ok (w, rest) → w.IsOrdered
  | [], _, _, _, h => by cases h; exact hv
  | _ :: _, [], _, _, h => by cases h
  | c :: word, d :: cs, _, _, h => by
    rw [readWord] at h
    split at h
    · exact isOrdered_of_readWord v hv h
    · cases h

theorem isOrdered_of_readValue : ∀ {depth : Nat} {cs : List Char} {v : Json} {rest : List Char},
    readValue depth cs = .ok (v, rest) → v.IsOrdered
  | depth, cs, v, rest, h => by
    rw [readValue] at h
    split at h
    · cases h
    · exact isOrdered_of_readWord .null rfl h
    · exact isOrdered_of_readWord (.bool true) rfl h
    · exact isOrdered_of_readWord (.bool false) rfl h
    · obtain ⟨⟨s, behind⟩, -, h⟩ := bind_eq_ok_iff.1 h
      cases h
      rfl
    · cases depth with
      | zero => cases h
      | succ depth =>
        obtain ⟨⟨vs, behind⟩, hvs, h⟩ := bind_eq_ok_iff.1 h
        cases h
        exact isOrdered_arr.2 (forall_of_readItems isOrdered_of_readValue hvs)
    · cases depth with
      | zero => cases h
      | succ depth =>
        obtain ⟨⟨ms, behind⟩, hms, h⟩ := bind_eq_ok_iff.1 h
        cases h
        exact isOrdered_obj.2 (forall_of_readMembers isOrdered_of_readValue .nil (by simp) hms)
    · obtain ⟨⟨n, behind⟩, -, h⟩ := bind_eq_ok_iff.1 h
      cases h
      rfl
    · split at h
      · obtain ⟨⟨n, behind⟩, -, h⟩ := bind_eq_ok_iff.1 h
        cases h
        rfl
      · cases h

/-- Every value that is read from text is in order. -/
theorem isOrdered_of_parse {text : String} {v : Json} (h : parse text = .ok v) : v.IsOrdered := by
  unfold parse at h
  split at h
  · rename_i w hw
    cases h
    obtain ⟨⟨v, rest⟩, hv, h⟩ := bind_eq_ok_iff.1 hw
    obtain ⟨-, -, h⟩ := bind_eq_ok_iff.1 h
    cases h
    exact isOrdered_of_readValue hv
  · cases h

end Json

end NoteForms
