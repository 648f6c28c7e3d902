import NoteForms.Proofs.Filing

/-!
# Where paths lead

The directories that are there decide whether a path leads anywhere, but not where: that follows
from the path and the working directory (`FileSystem.eq_destination_of_locate`).  So the places of
the settings, of their draft and of a backup can be told apart before anything is done to them.
-/

namespace NoteForms

/-! ## Places -/

namespace Place

/-- One name further, whether there is a directory or not. -/
def step (place : Place) (name : String) : Place :=
  if name = "." then place else if name = ".." then place.dropLast else place ++ [name]

theorem step_of_isOwnName (place : Place) {name : String} (h : Path.IsOwnName name) :
    step place name = place ++ [name] := by
  rw [step, if_neg h.dot, if_neg h.dots]

theorem length_text_lt (place : Place) {name : String} (h : name.toList ≠ []) :
    (text place).length < (text (place ++ [name])).length := by
  have hname := List.length_pos_iff.2 h
  rw [String.length_toList] at hname
  by_cases hplace : place = []
  · subst hplace
    simpa [text] using hname
  · rw [text_concat name hplace, String.length_append, String.length_append]
    omega

theorem length_text_dropLast_le (place : Place) :
    (text place.dropLast).length ≤ (text place).length := by
  rcases List.eq_nil_or_concat' place with rfl | ⟨front, name, rfl⟩
  · exact le_rfl
  · rw [List.dropLast_concat]
    by_cases hfront : front = []
    · simp [hfront, text]
    · rw [text_concat name hfront, String.length_append, String.length_append]
      omega

/-- A longer name leads to a place that takes more to write. -/
theorem length_text_step_lt (place : Place) (name : String) {ending : String}
    (hending : ending.toList ≠ []) :
    (text (step place name)).length < (text (place ++ [name ++ ending])).length := by
  have hlonger : (name ++ ending).toList ≠ [] := by simp [hending]
  have hlength := List.length_pos_iff.2 hending
  rw [String.length_toList] at hlength
  unfold step
  split
  · exact length_text_lt place hlonger
  · split
    · exact (length_text_dropLast_le place).trans_lt (length_text_lt place hlonger)
    · by_cases hplace : place = []
      · simp [hplace, text, String.length_append, hlength]
      · simp only [text_concat _ hplace, String.length_append]
        omega

/-- A file in a directory and one in a directory of that directory. -/
theorem text_ne_of_deeper (place : Place) {name between last : String} (hname : '/' ∉ name.toList)
    (hlast : '/' ∉ last.toList) (hbetween : between.toList ≠ []) :
    text (place ++ [name]) ≠ text (place ++ [between] ++ [last]) := by
  intro heq
  obtain rfl := eq_of_text_eq hname hlast heq
  have hlength := congrArg String.length heq
  rw [text_concat name (by simp : place ++ [between] ≠ [])] at hlength
  have hlt := length_text_lt place hbetween
  by_cases hplace : place = []
  · subst hplace
    simp [text, String.length_append] at hlength hlt
  · rw [text_concat name hplace] at hlength
    simp only [String.length_append] at hlength
    omega

/-- Where pieces of a path lead. -/
def walk (start : Place) (pieces : List (List Char)) : Place :=
  ((pieces.filter fun piece => !piece.isEmpty).map String.ofList).foldl step start

theorem walk_append (start : Place) (xs ys : List (List Char)) :
    walk start (xs ++ ys) = walk (walk start xs) ys := by
  simp [walk, List.filter_append]

theorem walk_concat (start : Place) (pieces : List (List Char)) {name : String}
    (h : Path.IsOwnName name) :
    walk start (pieces ++ [name.toList]) = walk start pieces ++ [name] := by
  have hkept : name.toList.isEmpty = false := by simpa using h.named
  rw [walk_append]
  simp [walk, hkept, step_of_isOwnName _ h]

theorem walk_of_idle (start : Place) : ∀ {pieces : List (List Char)},
    (∀ piece ∈ pieces, piece = [] ∨ piece = ['.']) → walk start pieces = start
  | [], _ => rfl
  | piece :: pieces, h => by
    obtain ⟨hpiece, hpieces⟩ := List.forall_mem_cons.1 h
    have hfirst : walk start [piece] = start := by
      rcases hpiece with rfl | rfl <;> rfl
    rw [← List.singleton_append, walk_append, hfirst, walk_of_idle start hpieces]

end Place

/-! ## Paths -/

namespace Path

/-- The place to which a path leads if its directories are there. -/
def destination (p : Path) (working : Place) : Place :=
  p.names.foldl Place.step (if p.isAbsolute then [] else working)

theorem destination_eq_walk (p : Path) (working : Place) :
    p.destination working = Place.walk (if p.isAbsolute then [] else working) p.pieces := rfl

theorem EndsIn.exists_pieces {p : Path} {name : String} (h : p.EndsIn name) :
    ∃ front, p.pieces = front ++ [name.toList] :=
  List.getLast?_eq_some_iff.1 (Text.getLast?_splitChars h.slash h.chars)

theorem EndsIn.exists_destination {p : Path} {name : String} (h : p.EndsIn name)
    (working : Place) : ∃ front, p.destination working = front ++ [name] := by
  obtain ⟨pieces, hpieces⟩ := h.exists_pieces
  rw [destination_eq_walk, hpieces, Place.walk_concat _ _ h.toIsOwnName]
  exact ⟨_, rfl⟩

theorem EndsIn.text_destination_ne {p : Path} {own name : String} (h : p.EndsIn own)
    (hslash : '/' ∉ name.toList) (hne : own ≠ name) (working front : Place) :
    Place.text (p.destination working) ≠ Place.text (front ++ [name]) := by
  obtain ⟨start, hstart⟩ := h.exists_destination working
  rw [hstart]
  exact fun heq => hne (Place.eq_of_text_eq h.slash hslash heq)

theorem isAbsolute_iff {p : Path} :
    p.isAbsolute = true ↔ ∃ second others, p.pieces = [] :: second :: others := by
  unfold isAbsolute pieces
  cases h : p.chars with
  | nil => simp [Text.splitChars]
  | cons c cs =>
    rw [Text.splitChars]
    obtain ⟨first, others, hcs⟩ := List.exists_cons_of_ne_nil (Text.splitChars_ne_nil '/' cs)
    by_cases hc : c = '/' <;> simp [hc, hcs]

/-- What stands behind the first piece does not matter, unless it is nothing. -/
theorem isAbsolute_concat {p : Path} {front : List (List Char)} {last : List Char}
    (hpieces : p.pieces = front ++ [last]) (hfront : front ≠ []) :
    p.isAbsolute = true ↔ front.head? = some [] := by
  obtain ⟨first, others, rfl⟩ := List.exists_cons_of_ne_nil hfront
  rw [isAbsolute_iff, hpieces]
  cases others <;> simp

/-! ### The directory of a path -/

theorem exists_dropIdle : ∀ {pieces : List (List Char)}, pieces ≠ [] →
    ∃ idle, pieces = idle ++ dropIdle pieces ∧ dropIdle pieces ≠ []
      ∧ ∀ piece ∈ idle, piece = [] ∨ piece = ['.']
  | [], hne => absurd rfl hne
  | [piece], _ => ⟨[], rfl, List.cons_ne_nil _ _, by simp⟩
  | piece :: second :: pieces, _ => by
    rw [dropIdle]
    · split
      · rename_i hidle
        obtain ⟨idle, hsplit, hne, hall⟩ := exists_dropIdle (List.cons_ne_nil second pieces)
        exact ⟨piece :: idle, by rw [List.cons_append, ← hsplit], hne,
          List.forall_mem_cons.2 ⟨hidle, hall⟩⟩
      · exact ⟨[], rfl, List.cons_ne_nil _ _, by simp⟩
    · exact List.cons_ne_nil second pieces

section

variable {pieces : List (List Char)} (hpieces : pieces ≠ [])
  (hslash : ∀ piece ∈ pieces, '/' ∉ piece)

include hpieces hslash

theorem pieces_ofPieces (hroot : pieces ≠ [[]]) : (ofPieces pieces).pieces = pieces.reverse := by
  have htext : (ofPieces pieces).chars = Text.joinChars ['/'] pieces.reverse := by
    unfold ofPieces
    split
    · exact absurd rfl hroot
    · exact String.toList_ofList
  rw [Path.pieces, htext]
  exact Text.splitChars_joinChars (by simpa using hpieces) (by simpa using hslash)

theorem walk_ofPieces (start : Place) :
    Place.walk start (ofPieces pieces).pieces = Place.walk start pieces.reverse := by
  by_cases hroot : pieces = [[]]
  · subst hroot
    rfl
  · rw [pieces_ofPieces hpieces hslash hroot]

theorem isAbsolute_ofPieces :
    (ofPieces pieces).isAbsolute = true ↔ pieces.reverse.head? = some [] := by
  by_cases hroot : pieces = [[]]
  · subst hroot
    simp [ofPieces, isAbsolute, Path.chars]
  · have hsplit := pieces_ofPieces hpieces hslash hroot
    rcases List.eq_nil_or_concat' pieces.reverse with hnil | ⟨front, last, hfront⟩
    · exact absurd (List.reverse_eq_nil_iff.1 hnil) hpieces
    · by_cases hone : front = []
      · have hlast : last ≠ [] := by
          rintro rfl
          rw [hone, List.nil_append, ← List.reverse_reverse [[]], List.reverse_inj] at hfront
          exact hroot hfront
        rw [isAbsolute_iff, hsplit, hfront, hone]
        simp [hlast]
      · rw [isAbsolute_concat (hsplit.trans hfront) hone, hfront, List.head?_append]
        obtain ⟨first, others, rfl⟩ := List.exists_cons_of_ne_nil hone
        simp

end

/-- The pieces of the directory are those in front of the last piece, without idle ones. -/
theorem exists_idle {front : List (List Char)} (hfront : front ≠ []) :
    ∃ idle, front = (dropIdle front.reverse).reverse ++ idle ∧ dropIdle front.reverse ≠ []
      ∧ ∀ piece ∈ idle, piece = [] ∨ piece = ['.'] := by
  obtain ⟨idle, hsplit, hne, hidle⟩ := exists_dropIdle (List.reverse_ne_nil_iff.2 hfront)
  refine ⟨idle.reverse, ?_, hne, by simpa using hidle⟩
  rw [← List.reverse_append, ← hsplit, List.reverse_reverse]

theorem EndsIn.parent?_eq {p : Path} {name : String} (h : p.EndsIn name)
    {front : List (List Char)} (hpieces : p.pieces = front ++ [name.toList]) :
    p.parent? = some (ofPieces (dropIdle front.reverse)) := by
  have hname : ¬(name.toList = [] ∨ name.toList = ['.']) := by
    rintro (hnil | hdot)
    · exact h.named hnil
    · exact h.dot (String.toList_injective hdot)
  have hkept : dropIdle p.pieces.reverse = name.toList :: front.reverse := by
    rw [hpieces, List.reverse_append, List.reverse_singleton, List.singleton_append]
    cases hfront : front.reverse with
    | nil => rfl
    | cons second rest =>
      rw [dropIdle, if_neg hname]
      exact List.cons_ne_nil second rest
  unfold parent?
  rw [hkept]
  split
  · rename_i heq
    cases heq
  · rename_i heq
    exact absurd (List.cons.inj heq).1 h.named
  · rename_i heq
    rw [(List.cons.inj heq).2]

/-- The directory of a path that ends in a name leads to all of its destination but the name. -/
theorem EndsIn.exists_parent {p : Path} {name : String} (h : p.EndsIn name) :
    ∃ q, p.parent? = some q
      ∧ ∀ working, p.destination working = q.destination working ++ [name] := by
  obtain ⟨front, hpieces⟩ := h.exists_pieces
  refine ⟨_, h.parent?_eq hpieces, fun working => ?_⟩
  by_cases hfront : front = []
  · have hrelative : p.isAbsolute = false := by
      rw [← Bool.not_eq_true, isAbsolute_iff, hpieces, hfront]
      simp
    rw [destination_eq_walk, hrelative, hpieces, Place.walk_concat _ _ h.toIsOwnName, hfront]
    rfl
  · obtain ⟨idle, hsplit, hne, hidle⟩ := exists_idle hfront
    have hslash : ∀ piece ∈ dropIdle front.reverse, '/' ∉ piece := by
      intro piece hpiece
      have hmem : piece ∈ Text.splitChars '/' p.chars := by
        rw [← Path.pieces, hpieces, hsplit]
        simp [hpiece]
      exact Text.notMem_of_mem_splitChars hmem
    have habsolute : p.isAbsolute = (ofPieces (dropIdle front.reverse)).isAbsolute := by
      rw [Bool.eq_iff_iff, isAbsolute_concat hpieces hfront, isAbsolute_ofPieces hne hslash]
      conv_lhs => rw [hsplit, List.head?_append_of_ne_nil _ (by simpa using hne)]
    have hwalk : ∀ start, Place.walk start front
        = Place.walk start (ofPieces (dropIdle front.reverse)).pieces := by
      intro start
      rw [walk_ofPieces hne hslash]
      conv_lhs => rw [hsplit, Place.walk_append, Place.walk_of_idle _ hidle]
    rw [destination_eq_walk, destination_eq_walk, ← habsolute, hpieces,
      Place.walk_concat _ _ h.toIsOwnName, hwalk]

/-! ### Longer paths -/

theorem names_join (p : Path) {name : String} (h : IsOwnName name) :
    (p.join name).names = p.names ++ [name] := by
  have hname := Text.splitChars_of_notMem h.slash
  have hlast (front : List (List Char)) : ((front ++ [name.toList]).filter
      fun piece => !piece.isEmpty).map String.ofList
        = (front.filter fun piece => !piece.isEmpty).map String.ofList ++ [name] := by
    simp [List.filter_append, h.named]
  unfold names pieces
  rcases chars_join p h with ⟨hchars, hjoin⟩ | ⟨front, hchars, hjoin⟩ | ⟨-, hjoin⟩
  · rw [hjoin, hname, hchars, ← List.nil_append [name.toList], hlast]
    rfl
  · rw [hjoin, hchars, Text.splitChars_append_cons, Text.splitChars_append_cons, hname, hlast,
      List.filter_append]
    simp [Text.splitChars]
  · rw [hjoin, Text.splitChars_append_cons, hname, hlast]

theorem isAbsolute_join (p : Path) {name : String} (h : IsOwnName name) :
    (p.join name).isAbsolute = p.isAbsolute := by
  have hname := isAbsolute_of_isOwnName h
  unfold isAbsolute at hname ⊢
  rcases chars_join p h with ⟨hchars, hjoin⟩ | ⟨front, hchars, hjoin⟩ | ⟨hchars, hjoin⟩
  · rw [hjoin, hchars]
    exact hname
  · rw [hjoin, hchars, List.head?_append, List.head?_append]
    rfl
  · rw [hjoin, List.head?_append_of_ne_nil _ hchars]

/-- A name more leads one name further. -/
theorem destination_join (p : Path) {name : String} (h : IsOwnName name) (working : Place) :
    (p.join name).destination working = p.destination working ++ [name] := by
  rw [destination, names_join p h, isAbsolute_join p h, List.foldl_concat,
    Place.step_of_isOwnName _ h, destination]

/-- The last piece of a draft is longer than that of the path, and the others are the same. -/
theorem exists_pieces_draft (p : Path) : ∃ front last, '/' ∉ last
    ∧ p.pieces = front ++ [last] ∧ p.draft.pieces = front ++ [last ++ ".tmp".toList] := by
  have hdraft : p.draft.chars = p.chars ++ ".tmp".toList := String.toList_append
  unfold pieces
  rw [hdraft]
  obtain ⟨last, hlast, hchars⟩ := Text.exists_lastPiece '/' p.chars
  have hsplit := Text.splitChars_of_notMem hlast
  have hlonger : Text.splitChars '/' (last ++ ".tmp".toList) = [last ++ ".tmp".toList] :=
    Text.splitChars_of_notMem (by simp [hlast])
  rcases hchars with hchars | ⟨front, hchars⟩
  · exact ⟨[], last, hlast, by rw [hchars, hsplit]; rfl, by rw [hchars, hlonger]; rfl⟩
  · refine ⟨Text.splitChars '/' front, last, hlast, ?_, ?_⟩
    · rw [hchars, Text.splitChars_append_cons, hsplit]
    · rw [hchars, List.append_assoc, List.cons_append, Text.splitChars_append_cons, hlonger]

theorem isAbsolute_draft (p : Path) : p.draft.isAbsolute = p.isAbsolute := by
  have hdraft : p.draft.chars = p.chars ++ ".tmp".toList := String.toList_append
  unfold isAbsolute
  rw [hdraft, List.head?_append]
  cases p.chars <;> simp

/-- A draft stands where the last piece of the path starts from. -/
theorem exists_destination_draft (p : Path) (working : Place) : ∃ place last,
    p.destination working = Place.walk place [last]
      ∧ p.draft.destination working = place ++ [String.ofList last ++ ".tmp"] := by
  obtain ⟨front, last, hlast, hpieces, hdraft⟩ := p.exists_pieces_draft
  have hown : IsOwnName (String.ofList last ++ ".tmp") :=
    isOwnName_of_getLast? (c := 'p') (by simp [hlast]) (by simp) (by decide)
  refine ⟨Place.walk (if p.isAbsolute then [] else working) front, last, ?_, ?_⟩
  · rw [destination_eq_walk, hpieces, Place.walk_append]
  · have hname : last ++ ".tmp".toList = (String.ofList last ++ ".tmp").toList := by simp
    rw [destination_eq_walk, isAbsolute_draft, hdraft, hname, Place.walk_concat _ _ hown]

theorem length_text_draft (p : Path) (working : Place) :
    (Place.text (p.destination working)).length
      < (Place.text (p.draft.destination working)).length := by
  obtain ⟨place, last, hpath, hdraft⟩ := p.exists_destination_draft working
  rw [hpath, hdraft]
  by_cases hlast : last = []
  · subst hlast
    exact Place.length_text_lt place (by simp)
  · have hstep : Place.walk place [last] = Place.step place (String.ofList last) := by
      simp [Place.walk, hlast]
    rw [hstep]
    exact Place.length_text_step_lt place _ (by decide)

theorem text_draft_ne (p : Path) (working : Place) :
    Place.text (p.draft.destination working) ≠ Place.text (p.destination working) := by
  intro heq
  have hlength := p.length_text_draft working
  rw [heq] at hlength
  exact lt_irrefl _ hlength

/-- The draft of a file that has a name stands beside it. -/
theorem EndsIn.destination_draft {p : Path} {name : String} (h : p.EndsIn name)
    {place working : Place} (hp : p.destination working = place ++ [name]) :
    p.draft.destination working = place ++ [name ++ ".tmp"] := by
  obtain ⟨front, last, hlast, hpieces, hdraft⟩ := p.exists_pieces_draft
  obtain ⟨front', hpieces'⟩ := h.exists_pieces
  rw [hpieces] at hpieces'
  obtain ⟨rfl, hname⟩ := List.append_inj' hpieces' rfl
  obtain rfl := List.singleton_inj.1 hname
  have hown : IsOwnName (name ++ ".tmp") :=
    isOwnName_of_getLast? (c := 'p') (by simp [hlast]) (by simp) (by decide)
  have hsame : name.toList ++ ".tmp".toList = (name ++ ".tmp").toList := by simp
  rw [destination_eq_walk, hpieces, Place.walk_concat _ _ h.toIsOwnName] at hp
  obtain ⟨rfl, -⟩ := List.append_inj' hp rfl
  rw [destination_eq_walk, isAbsolute_draft, hdraft, hsame, Place.walk_concat _ _ hown]

/-- A path that ends in no slash and no dots ends in the name of a file. -/
theorem exists_endsIn {p : Path} (hdots : Filing.endsInDots p = false)
    (hslash : p.endsWithSlash = false) : ∃ name, p.EndsIn name := by
  obtain ⟨last, hlast, hchars⟩ := Text.exists_lastPiece '/' p.chars
  have hne : last ≠ [] := by
    rintro rfl
    rcases hchars with hchars | ⟨front, hchars⟩
    · have hnames : p.names = [] := by
        rw [names, pieces, hchars]
        rfl
      rw [Filing.endsInDots, hnames] at hdots
      cases hdots
    · simp [endsWithSlash, hchars] at hslash
  have hgetLast : p.names.getLast? = some (String.ofList last) := by
    obtain ⟨front, hpieces⟩ := List.getLast?_eq_some_iff.1 (Text.getLast?_splitChars hlast hchars)
    unfold names pieces
    rw [hpieces]
    simp [hne]
  simp only [Filing.endsInDots, hgetLast, Bool.or_eq_false_iff, decide_eq_false_iff_not] at hdots
  exact ⟨String.ofList last, ⟨by simpa using hlast, by simpa using hne, hdots.1, hdots.2⟩,
    by simpa using hchars⟩

end Path

/-! ## Files -/

namespace FileSystem

variable {fs : FileSystem}

theorem eq_step_of_enter {place next : Place} {name : String}
    (h : fs.enter place name = .ok next) : next = Place.step place name := by
  unfold enter at h
  rw [node?_of_enter h] at h
  simp only [] at h
  unfold Place.step
  split_ifs at h ⊢
  all_goals cases h
  all_goals rfl

/-- A path leads nowhere or to its destination. -/
theorem eq_destination_of_locate {p : Path} {place : Place} (h : fs.locate p = .ok place) :
    place = p.destination fs.working := by
  have hwalk : ∀ (names : List String) {start : Place}, names.foldlM fs.enter start = .ok place →
      place = names.foldl Place.step start := by
    intro names
    induction names with
    | nil =>
      rintro start h
      cases h
      rfl
    | cons name names ih =>
      intro start h
      rw [List.foldlM_cons, bind_eq_ok_iff] at h
      obtain ⟨next, hnext, hrest⟩ := h
      rw [List.foldl_cons, ← eq_step_of_enter hnext]
      exact ih hrest
  exact hwalk p.names (locate_eq_ok_iff.1 h).2

theorem exists_of_locate {p : Path} {name : String} {place : Place} (hp : p.EndsIn name)
    (h : fs.locate p = .ok place) : ∃ front, place = front ++ [name] := by
  rw [eq_destination_of_locate h]
  exact hp.exists_destination fs.working

end FileSystem

end NoteForms
