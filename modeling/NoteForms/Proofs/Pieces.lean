import Mathlib.Data.List.Infix
import NoteForms.Proofs.Basics
import NoteForms.Text.Lines

/-!
# Pieces of a text

Splitting at a separator is undone by putting one behind each piece (`endEach_splitChars`).  What a
text has behind its separators says how its pieces begin, but for the first (`exists_splitChars`),
and is easier to follow through appending and cutting than the pieces are.
-/

namespace NoteForms.Text

variable {sep : Char}

theorem splitChars_ne_nil (sep : Char) (cs : List Char) : splitChars sep cs ≠ [] := by
  cases cs with
  | nil => simp [splitChars]
  | cons c cs =>
    simp only [splitChars]
    split
    · simp
    · split <;> simp

theorem splitChars_of_notMem {sep : Char} : ∀ {cs : List Char}, sep ∉ cs →
    splitChars sep cs = [cs]
  | [], _ => rfl
  | c :: cs, h => by
    rw [List.mem_cons, not_or] at h
    rw [splitChars, if_neg (Ne.symm h.1), splitChars_of_notMem h.2]

theorem splitChars_append_cons (sep : Char) (ds : List Char) : ∀ cs : List Char,
    splitChars sep (cs ++ sep :: ds) = splitChars sep cs ++ splitChars sep ds
  | [] => by simp [splitChars]
  | c :: cs => by
    simp only [List.cons_append, splitChars, splitChars_append_cons sep ds cs]
    split
    · rfl
    · cases h : splitChars sep cs with
      | nil => exact absurd h (splitChars_ne_nil sep cs)
      | cons piece pieces => rfl

/-- What stands behind the last separator. -/
theorem exists_lastPiece (sep : Char) : ∀ cs : List Char,
    ∃ last, sep ∉ last ∧ (cs = last ∨ ∃ front, cs = front ++ sep :: last)
  | [] => ⟨[], List.not_mem_nil, .inl rfl⟩
  | c :: cs => by
    obtain ⟨last, hlast, hcs | ⟨front, hcs⟩⟩ := exists_lastPiece sep cs
    · by_cases hc : c = sep
      · exact ⟨last, hlast, .inr ⟨[], by rw [hc, hcs, List.nil_append]⟩⟩
      · exact ⟨c :: last, by simp [Ne.symm hc, hlast], .inl (by rw [hcs])⟩
    · exact ⟨last, hlast, .inr ⟨c :: front, by rw [hcs, List.cons_append]⟩⟩

theorem getLast?_splitChars {sep : Char} {cs last : List Char} (hlast : sep ∉ last)
    (h : cs = last ∨ ∃ front, cs = front ++ sep :: last) :
    (splitChars sep cs).getLast? = some last := by
  rcases h with rfl | ⟨front, rfl⟩
  · rw [splitChars_of_notMem hlast, List.getLast?_singleton]
  · rw [splitChars_append_cons, splitChars_of_notMem hlast, List.getLast?_concat]

/-- Pieces with a separator behind each of them. -/
def endEach (sep : Char) (pieces : List (List Char)) : List Char :=
  pieces.flatMap fun piece => piece ++ [sep]

theorem endEach_cons (sep : Char) (piece : List Char) (pieces : List (List Char)) :
    endEach sep (piece :: pieces) = piece ++ sep :: endEach sep pieces := by
  simp [endEach]

theorem endEach_append (sep : Char) (xs ys : List (List Char)) :
    endEach sep (xs ++ ys) = endEach sep xs ++ endEach sep ys := List.flatMap_append

theorem endEach_splitChars (sep : Char) : ∀ cs : List Char,
    endEach sep (splitChars sep cs) = cs ++ [sep]
  | [] => rfl
  | c :: cs => by
    have ih := endEach_splitChars sep cs
    rw [splitChars]
    split
    · rename_i hc
      rw [endEach_cons, ih, hc]
      rfl
    · rcases h : splitChars sep cs with _ | ⟨piece, pieces⟩
      · exact absurd h (splitChars_ne_nil sep cs)
      · rw [h, endEach_cons] at ih
        simp only [endEach_cons, List.cons_append, ih]

theorem splitChars_inj {cs ds : List Char} (h : splitChars sep cs = splitChars sep ds) :
    cs = ds := by
  have hpieces := congrArg (endEach sep) h
  rw [endEach_splitChars, endEach_splitChars] at hpieces
  exact List.append_cancel_right hpieces

theorem splitChars_endEach : ∀ {pieces : List (List Char)}, (∀ piece ∈ pieces, sep ∉ piece) →
    splitChars sep (endEach sep pieces) = pieces ++ [[]]
  | [], _ => rfl
  | piece :: pieces, h => by
    obtain ⟨hpiece, hpieces⟩ := List.forall_mem_cons.1 h
    rw [endEach_cons, splitChars_append_cons, splitChars_of_notMem hpiece,
      splitChars_endEach hpieces]
    rfl

theorem splitChars_joinChars : ∀ {pieces : List (List Char)}, pieces ≠ [] →
    (∀ piece ∈ pieces, sep ∉ piece) → splitChars sep (joinChars [sep] pieces) = pieces
  | [], hne, _ => absurd rfl hne
  | [piece], _, h => splitChars_of_notMem (h piece List.mem_cons_self)
  | piece :: second :: pieces, _, h => by
    obtain ⟨hpiece, hrest⟩ := List.forall_mem_cons.1 h
    rw [joinChars, List.append_assoc, List.singleton_append, splitChars_append_cons,
      splitChars_of_notMem hpiece, splitChars_joinChars (List.cons_ne_nil second pieces) hrest]
    · rfl
    · exact List.cons_ne_nil second pieces

theorem notMem_of_mem_splitChars : ∀ {cs piece : List Char}, piece ∈ splitChars sep cs → sep ∉ piece
  | [], piece, h => by
    rw [List.mem_singleton.1 h]
    exact List.not_mem_nil
  | c :: cs, piece, h => by
    rw [splitChars] at h
    split at h
    · rcases List.mem_cons.1 h with rfl | h
      · exact List.not_mem_nil
      · exact notMem_of_mem_splitChars h
    · rename_i hc
      rcases hsplit : splitChars sep cs with _ | ⟨first, others⟩
      · exact absurd hsplit (splitChars_ne_nil sep cs)
      · rw [hsplit] at h
        rcases List.mem_cons.1 h with rfl | h
        · have hfirst : sep ∉ first :=
            notMem_of_mem_splitChars (hsplit ▸ List.mem_cons_self)
          simp [Ne.symm hc, hfirst]
        · exact notMem_of_mem_splitChars (hsplit ▸ List.mem_cons_of_mem _ h)

/-- Two texts that are cut at their first separators are cut alike. -/
theorem append_cons_inj : ∀ {xs ys r q : List Char}, sep ∉ xs → sep ∉ ys →
    xs ++ sep :: r = ys ++ sep :: q → xs = ys ∧ r = q
  | [], [], r, q, _, _, h => ⟨rfl, (List.cons.inj h).2⟩
  | [], y :: ys, r, q, _, hy, h => absurd (List.cons.inj h).1 (List.ne_of_not_mem_cons hy)
  | x :: xs, [], r, q, hx, _, h => absurd (List.cons.inj h).1.symm (List.ne_of_not_mem_cons hx)
  | x :: xs, y :: ys, r, q, hx, hy, h => by
    obtain ⟨hxy, htail⟩ := List.cons.inj h
    obtain ⟨rfl, hr⟩ := append_cons_inj (List.not_mem_of_not_mem_cons hx)
      (List.not_mem_of_not_mem_cons hy) htail
    exact ⟨by rw [hxy], hr⟩

theorem head?_of_isPrefix {cs ds : List Char} {c : Char} (h : cs <+: ds) (hc : cs.head? = some c) :
    ds.head? = some c := by
  obtain ⟨rest, rfl⟩ := h
  rw [List.head?_append, hc, Option.some_or]

/-- Pieces that have a mark in common end where a piece follows that does not. -/
theorem blocks_endEach (sep : Char) (M : List Char → Prop) :
    Blocks (fun piece => piece ++ [sep]) (fun piece => sep ∉ piece ∧ M piece) (fun _ => True)
      (fun r => ∀ piece rest, r = piece ++ sep :: rest → ¬M piece) where
  block ha hb _ _ h := by
    simp only [List.append_assoc] at h
    exact append_cons_inj ha.1 hb.1 h
  next _ _ := trivial
  last _ := trivial
  stops ha r h := h _ r (by simp) ha.2

/-! ## What stands behind a separator -/

/-- Behind each separator stands nothing, or a character of some class. -/
def Follow (sep : Char) (p : Char → Prop) (cs : List Char) : Prop :=
  ∀ rest, sep :: rest <:+ cs → ∀ c ∈ rest.head?, p c

variable {p : Char → Prop}

theorem follow_nil : Follow sep p [] := by simp [Follow]

theorem follow_cons {c : Char} {cs : List Char} :
    Follow sep p (c :: cs) ↔ (c = sep → ∀ d ∈ cs.head?, p d) ∧ Follow sep p cs := by
  constructor
  · intro h
    exact ⟨fun hc => h cs (hc ▸ List.suffix_refl _), fun rest hrest =>
      h rest (hrest.trans (List.suffix_cons c cs))⟩
  · rintro ⟨hc, hcs⟩ _ hrest
    rcases List.suffix_cons_iff.1 hrest with heq | hrest
    · obtain ⟨rfl, rfl⟩ := List.cons.inj heq
      exact hc rfl
    · exact hcs _ hrest

theorem follow_of_notMem {cs : List Char} (h : sep ∉ cs) : Follow sep p cs :=
  fun _ hrest => absurd (hrest.subset List.mem_cons_self) h

theorem Follow.append {ds : List Char} (hds : Follow sep p ds) (hhead : ∀ d ∈ ds.head?, p d) :
    ∀ {cs : List Char}, Follow sep p cs → Follow sep p (cs ++ ds)
  | [], _ => hds
  | c :: cs, h => by
    obtain ⟨hc, hcs⟩ := follow_cons.1 h
    refine follow_cons.2 ⟨fun heq => ?_, Follow.append hds hhead hcs⟩
    cases cs with
    | nil => exact hhead
    | cons d cs => exact hc heq

theorem Follow.of_isPrefix {cs ds : List Char} (h : Follow sep p cs) (hds : ds <+: cs) :
    Follow sep p ds := by
  obtain ⟨t, rfl⟩ := hds
  intro rest hrest c hc
  obtain ⟨front, rfl⟩ := hrest
  refine h (rest ++ t) ⟨front, by simp⟩ c ?_
  rw [List.head?_append, Option.mem_def.1 hc]
  rfl

theorem Follow.imp {q : Char → Prop} {cs : List Char} (h : Follow sep p cs)
    (himp : ∀ c, p c → q c) : Follow sep q cs :=
  fun rest hrest c hc => himp c (h rest hrest c hc)

theorem Follow.endEach {first : List Char} {others : List (List Char)} (hsep : p sep)
    (hfirst : sep ∉ first) (hothers : ∀ piece ∈ others, sep ∉ piece ∧ ∀ c ∈ piece.head?, p c) :
    Follow sep p (endEach sep (first :: others)) := by
  induction others generalizing first with
  | nil =>
    have hend : Follow sep p [sep] := follow_cons.2 ⟨by simp, follow_nil⟩
    simpa [Text.endEach] using hend.append (by simpa using hsep) (follow_of_notMem hfirst)
  | cons second others ih =>
    obtain ⟨⟨hsecond, hhead⟩, hothers⟩ := List.forall_mem_cons.1 hothers
    rw [endEach_cons]
    refine Follow.append (follow_cons.2 ⟨fun _ => ?_, ih hsecond hothers⟩) (by simpa using hsep)
      (follow_of_notMem hfirst)
    rw [endEach_cons]
    cases second with
    | nil => simpa using hsep
    | cons c second => simpa using hhead c rfl

/-- A separator behind which nothing of the class stands is not one inside a text where something
of the class stands behind each. -/
theorem Follow.not_head (hsep : p sep) {cs r q : List Char} (h : Follow sep p (sep :: cs))
    (hr : ∀ c ∈ r.head?, ¬p c) : r ≠ cs ++ sep :: q := by
  rintro rfl
  cases cs with
  | nil => exact hr sep rfl hsep
  | cons c cs => exact hr c rfl ((follow_cons.1 h).1 rfl c rfl)

/-- Two texts are cut alike at the separators that end them, though there may be some inside. -/
theorem Follow.append_cons_inj (hsep : p sep) {r q : List Char} (hr : ∀ c ∈ r.head?, ¬p c)
    (hq : ∀ c ∈ q.head?, ¬p c) : ∀ {xs ys : List Char}, Follow sep p xs → Follow sep p ys →
      xs ++ sep :: r = ys ++ sep :: q → xs = ys ∧ r = q
  | [], [], _, _, h => ⟨rfl, (List.cons.inj h).2⟩
  | [], y :: ys, _, hy, h => by
    obtain ⟨rfl, htail⟩ := List.cons.inj h
    exact absurd htail (hy.not_head hsep hr)
  | x :: xs, [], hx, _, h => by
    obtain ⟨rfl, htail⟩ := List.cons.inj h
    exact absurd htail.symm (hx.not_head hsep hq)
  | x :: xs, y :: ys, hx, hy, h => by
    obtain ⟨rfl, htail⟩ := List.cons.inj h
    obtain ⟨rfl, hends⟩ :=
      Follow.append_cons_inj hsep hr hq (follow_cons.1 hx).2 (follow_cons.1 hy).2 htail
    exact ⟨rfl, hends⟩

/-- The first piece is where the text begins, and any other where some separator ends. -/
theorem exists_splitChars (sep : Char) : ∀ cs : List Char, ∃ first others,
    splitChars sep cs = first :: others ∧ first <+: cs
      ∧ ∀ piece ∈ others, ∃ rest, sep :: rest <:+ cs ∧ piece <+: rest
  | [] => ⟨[], [], rfl, List.prefix_refl _, by simp⟩
  | c :: cs => by
    obtain ⟨first, others, hsplit, hfirst, hothers⟩ := exists_splitChars sep cs
    have hmore : ∀ piece ∈ others, ∃ rest, sep :: rest <:+ c :: cs ∧ piece <+: rest :=
      fun piece hpiece => by
        obtain ⟨rest, hrest, hbegin⟩ := hothers piece hpiece
        exact ⟨rest, hrest.trans (List.suffix_cons c cs), hbegin⟩
    rw [splitChars, hsplit]
    split
    · rename_i hc
      refine ⟨[], first :: others, rfl, List.nil_prefix, ?_⟩
      rintro piece hpiece
      rcases List.mem_cons.1 hpiece with rfl | hpiece
      · exact ⟨cs, hc ▸ List.suffix_refl _, hfirst⟩
      · exact hmore piece hpiece
    · exact ⟨c :: first, others, rfl, List.cons_prefix_cons.2 ⟨rfl, hfirst⟩, hmore⟩

end NoteForms.Text
