import NoteForms.Pattern.Class
import NoteForms.Text.Alphanumeric

/-!
# Except Fault (Step patterns)

A pattern is read from left to right into branches of pieces.  A repetition applies to the piece
before it, and flags set in a group hold until its end.
-/

namespace NoteForms.Pattern

/-! ## Repetitions -/

/-- Whether a repetition may stand behind an expression. -/
def isRepeatable : Expr → Bool
  | .empty => false
  | .flags _ _ => false
  | _ => true

/-- The last of some pieces and those before it, for a repetition at a cursor. -/
def takeRepeated (c : Cursor) (pieces : List Expr) : Except Fault (Expr × List Expr) :=
  match pieces with
  | e :: before => if isRepeatable e then .ok (e, before) else fail .nothingToRepeat c.here
  | [] => fail .nothingToRepeat c.here

/-- An expression repeated up to a cursor. -/
def repeatTo (e : Expr) (count : Count) (c : Cursor) : Expr :=
  .repeated ⟨e.span.start, c.index⟩ count e

/-- The cursor behind a question mark, if one comes next. -/
def skipLazy (c : Cursor) : Cursor := if c.looksAt '?' then c.bump else c

/-- The greatest count. -/
def countMax : Nat := Nat.pow 2 32 - 1

/-- The digits at a cursor, with the space after each skipped; `fuel` bounds them. -/
def readDigits : Nat → List Char → Cursor → List Char × Cursor
  | 0, digits, c => (digits.reverse, c)
  | fuel + 1, digits, c =>
    match c.rest with
    | d :: _ => if d.isDigit then readDigits fuel (d :: digits) c.next else (digits.reverse, c)
    | [] => (digits.reverse, c)

/-- The cursor behind blanks, which are skipped in every mode. -/
def skipBlanks (c : Cursor) : Cursor := c.skip (c.rest.takeWhile Text.isBlank).length

/-- A count, or what is wrong with it, and the cursor behind it. -/
def readDecimal (c : Cursor) : Except Fault Nat × Cursor :=
  let start := skipBlanks c
  let (digits, close) := readDigits (start.rest.length + 1) [] start
  let value := digits.foldl (fun n d => n * 10 + (d.toNat - 48)) 0
  let after := skipBlanks close
  if digits.isEmpty then (fail .countEmpty (start.spanTo close), after)
  else if countMax < value then (fail .decimalInvalid (start.spanTo close), after)
  else (.ok value, after)

/-- The bounds of a repetition behind its brace: one count, a least one, or both. -/
def readBounds (opening c : Cursor) : Except Fault (Step Count) := do
  let (least, c) := readDecimal c
  if c.atEnd then fail .countUnclosed (opening.spanTo c)
  else if c.looksAt ',' then
    let c := c.next
    if c.atEnd then fail .countUnclosed (opening.spanTo c)
    else if c.looksAt '}' then return (⟨← least, none⟩, c)
    else
      let least ← least
      let (most, c) := readDecimal c
      return (⟨least, some (← most)⟩, c)
  else
    let n ← least
    return (⟨n, some n⟩, c)

/-- A repetition with bounds, from its brace on. -/
def readCounted (e : Expr) (opening : Cursor) : Except Fault (Step Expr) := do
  let c := opening.next
  if c.atEnd then fail .countUnclosed (opening.spanTo c)
  else
    let (count, c) ← readBounds opening c
    if !c.looksAt '}' then fail .countUnclosed (opening.spanTo c)
    else
      let c := skipLazy c.next
      if count.isOrdered then return (repeatTo e count c, c)
      else fail .countOrder (opening.spanTo c)

/-- The count of a mark of repetition. -/
def markCount? (mark : Char) : Option Count :=
  match mark with
  | '?' => some ⟨0, some 1⟩
  | '*' => some ⟨0, none⟩
  | '+' => some ⟨1, none⟩
  | _ => none

/-- A repetition of some pieces, the last first, if one stands at the cursor. -/
def readRepetition (pieces : List Expr) (c : Cursor) (count : Option Count) :
    Except Fault (Step (List Expr)) := do
  let (e, before) ← takeRepeated c pieces
  match count with
  | some count =>
    let after := skipLazy c.bump
    return (repeatTo e count after :: before, after)
  | none =>
    let (e, after) ← readCounted e c
    return (e :: before, after)

/-! ## Groups -/

/-- The flag of a letter. -/
def flag? (letter : Char) : Option Flag :=
  match letter with
  | 'i' => some .caseInsensitive
  | 'm' => some .multiLine
  | 's' => some .dotMatchesNewLine
  | 'U' => some .swapGreed
  | 'u' => some .unicode
  | 'R' => some .crlf
  | 'x' => some .extended
  | _ => none

/-- Flags up to the colon or parenthesis behind them, with the span of each, the last first; `fuel`
bounds them. -/
def readFlags : Nat → List (FlagItem × Span) → Cursor → Except Fault (Step (List (FlagItem × Span)))
  | 0, _, c => fail .flagUnfinished c.here
  | fuel + 1, items, c =>
    match c.rest with
    | [] => fail .flagUnfinished c.here
    | ch :: _ =>
      if ch = ':' ∨ ch = ')' then
        match items with
        | (.negation, span) :: _ => fail .negationDangling span
        | _ => .ok (items, c)
      else
        let item? := if ch = '-' then some .negation else (flag? ch).map .flag
        match item? with
        | none => fail .flagUnknown c.nextSpan
        | some item =>
          match items.find? fun i => i.1 = item with
          | some (_, first) =>
            fail (if ch = '-' then .negationRepeated first else .flagRepeated first) c.nextSpan
          | none => readFlags fuel ((item, c.nextSpan) :: items) c.bump

/-- Whether a character may stand in the name of a group. -/
def isGroupNameChar (first : Bool) (c : Char) : Bool :=
  if first then c = '_' || Text.isAlphabetic c
  else c = '_' || c = '.' || c = '[' || c = ']' || Text.isAlphanumeric c

/-- The characters of the name of a group, up to the angle bracket behind it. -/
def readGroupNameChars : Nat → List Char → Cursor → Except Fault (Step (List Char))
  | 0, _, c => fail .groupNameUnfinished c.here
  | fuel + 1, name, c =>
    match c.rest with
    | [] => fail .groupNameUnfinished c.here
    | '>' :: _ => .ok (name.reverse, c)
    | ch :: _ =>
      if isGroupNameChar name.isEmpty ch then readGroupNameChars fuel (ch :: name) c.bump
      else fail .groupNameInvalid c.nextSpan

/-- The names of the groups before, with the span of each. -/
abbrev GroupNames := List (List Char × Span)

/-- The name of a group, which no group before may have. -/
def readGroupName (names : GroupNames) (c : Cursor) : Except Fault (Step GroupNames) := do
  let (name, close) ← readGroupNameChars (c.rest.length + 1) [] c
  if name.isEmpty then fail .groupNameEmpty c.here
  else
    match names.find? fun n => n.1 = name with
    | some (_, first) => fail (.groupNameRepeated first) (c.spanTo close)
    | none => return ((name, c.spanTo close) :: names, close.bump)

/-- What a parenthesis opens. -/
inductive Opening
  | flags (e : Expr)
  | group (captures : Bool) (flags : List FlagItem)

/-- The marks of an assertion about what is around it. -/
def lookAroundMarks : List (List Char) := [['?', '='], ['?', '!'], ['?', '<', '='], ['?', '<', '!']]

/-- A group without a capture, or flags, behind the question mark. -/
def readFlagGroup (opening mark c : Cursor) : Except Fault (Step Opening) := do
  if c.atEnd then fail .groupUnclosed opening.nextSpan
  else
    let (found, close) ← readFlags (c.rest.length + 1) [] c
    let items := found.reverse.map (·.1)
    if close.looksAt ')' then
      if items.isEmpty then fail .nothingToRepeat mark.here
      else return (.flags (.flags (opening.spanTo close.bump) items), close.bump)
    else return (.group false items, close.bump)

/-- What a parenthesis opens, and the names of the groups so far. -/
def readOpening (names : GroupNames) (opening : Cursor) :
    Except Fault (Step (Opening × GroupNames)) := do
  let mark := opening.bump.skipSpace
  match lookAroundMarks.findSome? mark.behind? with
  | some after => fail .lookAround (opening.spanTo after)
  | none =>
    match (mark.behind? ['?', 'P', '<']).or (mark.behind? ['?', '<']) with
    | some after =>
      let (names, after) ← readGroupName names after
      return ((.group true [], names), after)
    | none =>
      match mark.behind? ['?'] with
      | some after =>
        let (o, after) ← readFlagGroup opening mark after
        return ((o, names), after)
      | none => return ((.group true [], names), mark)

/-! ## Branches -/

/-- The pieces of a branch, and where the branch begins. -/
structure Branch where
  start : Cursor
  pieces : List Expr

/-- A branch that begins at a cursor. -/
def Branch.at (c : Cursor) : Branch := ⟨c, []⟩

/-- The expression of a branch that ends at a cursor. -/
def Branch.close (b : Branch) (c : Cursor) : Expr :=
  match b.pieces with
  | [] => .empty
  | [e] => e
  | pieces => .sequence (b.start.spanTo c) pieces.reverse

/-- The expression of the branches before, the last first, and one that ends at a cursor. -/
def closeBranches (start : Cursor) (before : List Expr) (b : Branch) (c : Cursor) : Expr :=
  match before with
  | [] => b.close c
  | _ => .alternation (start.spanTo c) (before.reverse ++ [b.close c])

/-- A piece of one character or class. -/
def readPiece (c : Cursor) : Except Fault (Step Expr) :=
  match c.rest with
  | [] => fail .escapeUnfinished c.here
  | '\\' :: _ => do
    let (p, after) ← readEscape c
    match p with
    | .literal l => return (.literal l, after)
    | .assertion span => return (.assertion span, after)
    | .dot span => return (.dot span, after)
    | .named span negated kind => return (.named span negated kind, after)
  | '.' :: _ => .ok (.dot c.nextSpan, c.bump)
  | '^' :: _ => .ok (.assertion c.nextSpan, c.bump)
  | '$' :: _ => .ok (.assertion c.nextSpan, c.bump)
  | ch :: _ => .ok (.literal ⟨c.nextSpan, ch, false⟩, c.bump)

/-- The pieces of a branch, the last first, with one more or with the last one repeated. -/
def readPieces (pieces : List Expr) (ch : Char) (c : Cursor) : Except Fault (Step (List Expr)) := do
  if ch = '{' ∨ (markCount? ch).isSome then readRepetition pieces c (markCount? ch)
  else
    let (e, after) ← readPiece c
    return (e :: pieces, after)

/-- The class of a bracket as an expression. -/
def readBracketed (c : Cursor) : Except Fault (Step Expr) := do
  let (set, after) ← readClass c
  match set with
  | .bracketed span negated content => return (.bracketed span negated content, after)
  | set => return (.bracketed set.span false set, after)

/-- The rest of a group, or of the whole pattern if `opening` is none, after the branches before
and the pieces of the branch at hand; `fuel` bounds the pieces read.  The cursor behind a group
stands before its closing parenthesis. -/
def readBranches : Nat → Option Cursor → Cursor → GroupNames → List Expr → Branch → Cursor →
    Except Fault (Step (Expr × GroupNames))
  | 0, _, _, _, _, _, c => fail .groupUnclosed c.here
  | fuel + 1, opening, start, names, before, b, c =>
    let c := c.skipSpace
    match c.rest with
    | [] =>
      match opening with
      | none => .ok ((closeBranches start before b c, names), c)
      | some opening => fail .groupUnclosed opening.nextSpan
    | ch :: _ =>
      match ch with
      | '(' => do
        let ((o, names), after) ← readOpening names c
        match o with
        | .flags e =>
          let extended := (match e with
            | .flags _ items => flagState .extended items
            | _ => none).getD after.extended
          let after := { after with extended := extended }
          readBranches fuel opening start names before { b with pieces := e :: b.pieces } after
        | .group captures flags =>
          let inner := { after with extended := (flagState .extended flags).getD after.extended }
          let ((e, names), close) ← readBranches fuel (some c) inner names [] (.at inner) inner
          let after := { close.bump with extended := c.extended }
          let group := Expr.group (c.spanTo after) captures flags e
          readBranches fuel opening start names before { b with pieces := group :: b.pieces } after
      | ')' =>
        match opening with
        | none => fail .groupUnopened c.nextSpan
        | some _ => .ok ((closeBranches start before b c, names), c)
      | '|' => readBranches fuel opening start names (b.close c :: before) (.at c.bump) c.bump
      | '[' => do
        let (e, after) ← readBracketed c
        readBranches fuel opening start names before { b with pieces := e :: b.pieces } after
      | _ => do
        let (pieces, after) ← readPieces b.pieces ch c
        readBranches fuel opening start names before { b with pieces := pieces } after

/-- The expression of a pattern. -/
def readPattern (source : List Char) : Except Fault Expr := do
  let c := Cursor.start source
  let ((e, _), _) ← readBranches (source.length + 1) none c [] [] (.at c) c
  return e

end NoteForms.Pattern
