import NoteForms.Pattern.Escape

/-!
# Classes in brackets

Between brackets stand characters, ranges, named classes and further brackets, put together by the
operations of intersection, difference and symmetric difference.
-/

namespace NoteForms.Pattern

/-- A piece as part of a class. -/
def Piece.toSet : Piece → Except Fault ClassSet
  | .literal l => .ok (.literal l)
  | .named span negated kind => .ok (.named span negated kind)
  | p => fail .classEscape p.span

/-- A piece as an end of a range. -/
def Piece.toBound : Piece → Except Fault Literal
  | .literal l => .ok l
  | p => fail .classRangeBound p.span

/-- Parts of a class side by side, and where they would begin if there are any. -/
structure Parts where
  start : Span
  items : List ClassSet

namespace Parts

/-- No parts yet, at a cursor. -/
def none (c : Cursor) : Parts := ⟨c.here, []⟩

/-- The parts with one more behind them. -/
def push (p : Parts) (item : ClassSet) : Parts := { p with items := p.items ++ [item] }

/-- The set of all parts. -/
def toSet (p : Parts) : ClassSet :=
  match p.items with
  | [] => .empty p.start
  | [item] => item
  | first :: rest => .union (first.span.to ((rest.getLast?.getD first).span)) (first :: rest)

end Parts

/-- Parts on the right of an operation, and the set on its left if there is one. -/
structure Operands where
  left : Option ClassSet
  right : Parts

namespace Operands

/-- The set of both sides. -/
def toSet (o : Operands) : ClassSet :=
  match o.left with
  | some left => .operation left o.right.toSet
  | none => o.right.toSet

/-- The operands with one more part. -/
def push (o : Operands) (item : ClassSet) : Operands := { o with right := o.right.push item }

/-- All so far becomes the left side of an operation behind which a cursor stands. -/
def operate (o : Operands) (c : Cursor) : Operands := ⟨some o.toSet, .none c⟩

end Operands

/-- A character or an escape of a class. -/
def readClassPiece (c : Cursor) : Except Fault (Step Piece) :=
  match c.rest with
  | [] => fail .classUnclosed c.here
  | '\\' :: _ => readEscape c
  | ch :: _ => .ok (plainLiteral c.nextSpan ch, c.bump)

/-- A character, a named class or a range; `opening` is the span of the brackets around it. -/
def readClassRange (opening : Span) (c : Cursor) : Except Fault (Step ClassSet) := do
  let (first, c) ← readClassPiece c
  let c := c.skipSpace
  if c.atEnd then fail .classUnclosed opening
  else if !c.looksAt '-' || c.secondBehindSpace? == some ']'
      || c.secondBehindSpace? == some '-' then
    return (← first.toSet, c)
  else
    let c := c.next
    if c.atEnd then fail .classUnclosed opening
    else
      let (last, c) ← readClassPiece c
      let a ← first.toBound
      let b ← last.toBound
      if a.char ≤ b.char then return (.range a b, c)
      else fail .classRangeOrder (a.span.to b.span)

/-- The names of the classes of ASCII characters. -/
def asciiClasses : List String :=
  ["alnum", "alpha", "ascii", "blank", "cntrl", "digit", "graph", "lower", "print", "punct",
    "space", "upper", "word", "xdigit"]

/-- A class of ASCII characters in brackets with colons, if one stands here. -/
def readAsciiClass? (c : Cursor) : Option (ClassSet × Cursor) := do
  let inner ← c.behind? ['[', ':']
  let (negated, nameStart) :=
    match inner.behind? ['^'] with
    | some d => (true, d)
    | none => (false, inner)
  let name := nameStart.rest.takeWhile (· != ':')
  let close ← (nameStart.skip name.length).behind? [':', ']']
  if asciiClasses.contains (String.ofList name) then
    some (.ascii (c.spanTo close) negated, close)
  else none

/-- The opening of a class: a bracket, a caret that negates it, and what is literal only there. -/
structure ClassOpening where
  span : Span
  negated : Bool
  parts : Parts

/-- Hyphens in front of everything else; `fuel` bounds them. -/
def readLeadingHyphens (opening : Cursor) : Nat → Parts → Cursor → Except Fault (Step Parts)
  | 0, parts, c => .ok (parts, c)
  | fuel + 1, parts, c =>
    if c.looksAt '-' then
      let after := c.next
      if after.atEnd then fail .classUnclosed opening.here
      else readLeadingHyphens opening fuel (parts.push (.literal ⟨c.nextSpan, '-', false⟩)) after
    else .ok (parts, c)

/-- A bracket in front of everything else, which closes nothing. -/
def readLeadingBracket (opening : Cursor) (parts : Parts) (c : Cursor) :
    Except Fault (Step Parts) :=
  if parts.items.isEmpty && c.looksAt ']' then
    let after := c.next
    if after.atEnd then fail .classUnclosed (opening.spanTo after)
    else .ok (parts.push (.literal ⟨c.nextSpan, ']', false⟩), after)
  else .ok (parts, c)

/-- The opening of a class, from its bracket on. -/
def readClassOpening (opening : Cursor) : Except Fault (Step ClassOpening) := do
  let c := opening.next
  if c.atEnd then fail .classUnclosed (opening.spanTo c)
  else
    let negated := c.looksAt '^'
    let c := if negated then c.next else c
    if c.atEnd then fail .classUnclosed (opening.spanTo c)
    else
      let (parts, c) ← readLeadingHyphens opening (c.rest.length + 1) (.none c) c
      let (parts, c) ← readLeadingBracket opening parts c
      return (⟨opening.spanTo c, negated, parts⟩, c)

/-- The operation that two characters stand for. -/
def startsOperation (c : Cursor) : Bool :=
  ['&', '-', '~'].any fun ch => c.looksAt ch && c.second? == some ch

/-- A class from its bracket on, and the rest of a class behind its opening; `fuel` bounds the
pieces read. -/
def readClassBody : Nat → Cursor → ClassOpening → Operands → Cursor → Except Fault (Step ClassSet)
  | 0, _, o, _, c => fail .classUnclosed (o.span.to c.here)
  | fuel + 1, opening, o, operands, c =>
    let c := c.skipSpace
    match c.rest with
    | [] => fail .classUnclosed o.span
    | ch :: _ =>
      if ch = '[' then
        match readAsciiClass? c with
        | some (set, after) => readClassBody fuel opening o (operands.push set) after
        | none => do
          let (inner, after) ← readClassOpening c
          let (set, after) ← readClassBody fuel c inner ⟨none, inner.parts⟩ after
          readClassBody fuel opening o (operands.push set) after
      else if ch = ']' then
        .ok (.bracketed (opening.spanTo c.bump) o.negated operands.toSet, c.bump)
      else if startsOperation c then
        let after := c.skip 2
        readClassBody fuel opening o (operands.operate after) after
      else do
        let (set, after) ← readClassRange o.span c
        readClassBody fuel opening o (operands.push set) after

/-- A class from its bracket on. -/
def readClass (c : Cursor) : Except Fault (Step ClassSet) := do
  let (o, after) ← readClassOpening c
  readClassBody (c.rest.length + 1) c o ⟨none, o.parts⟩ after

end NoteForms.Pattern
