import NoteForms.Pattern.Property
import NoteForms.Pattern.Reader

/-!
# Checking patterns

A pattern that can be read may still be nested too deep, ask for a property that is not known, or
match single bytes of a character where Unicode is off.  The first of these faults is reported, with
depth before everything else.
-/

namespace NoteForms.Pattern

/-! ## Depth -/

mutual

/-- The first part of a class that is nested too deep, `depth` levels being around it. -/
def ClassSet.tooDeep (depth : Nat) : ClassSet → Option Span
  | .bracketed span _ content =>
    if maxDepth ≤ depth then some span else content.tooDeep (depth + 1)
  | .union span parts => if maxDepth ≤ depth then some span else setsTooDeep (depth + 1) parts
  | .operation left right =>
    if maxDepth ≤ depth then some (left.span.to right.span)
    else (left.tooDeep (depth + 1)).or (right.tooDeep (depth + 1))
  | .empty _ => none
  | .literal _ => none
  | .range _ _ => none
  | .ascii _ _ => none
  | .named _ _ _ => none

/-- The first of some parts that is nested too deep. -/
def setsTooDeep (depth : Nat) : List ClassSet → Option Span
  | [] => none
  | s :: sets => (s.tooDeep depth).or (setsTooDeep depth sets)

end

mutual

/-- The first part of an expression that is nested too deep, `depth` levels being around it. -/
def Expr.tooDeep (depth : Nat) : Expr → Option Span
  | .bracketed span _ content =>
    if maxDepth ≤ depth then some span else content.tooDeep (depth + 1)
  | .repeated span _ e => if maxDepth ≤ depth then some span else e.tooDeep (depth + 1)
  | .group span _ _ e => if maxDepth ≤ depth then some span else e.tooDeep (depth + 1)
  | .alternation span es => if maxDepth ≤ depth then some span else exprsTooDeep (depth + 1) es
  | .sequence span es => if maxDepth ≤ depth then some span else exprsTooDeep (depth + 1) es
  | .empty => none
  | .flags _ _ => none
  | .literal _ => none
  | .dot _ => none
  | .assertion _ => none
  | .named _ _ _ => none

/-- The first of some expressions that is nested too deep. -/
def exprsTooDeep (depth : Nat) : List Expr → Option Span
  | [] => none
  | e :: es => (e.tooDeep depth).or (exprsTooDeep depth es)

end

/-! ## Characters and bytes -/

/-- A literal outside of classes.  Without Unicode, a byte beyond ASCII is no character. -/
def checkLiteral (unicode : Bool) (l : Literal) : Option Fault :=
  if !unicode && l.isByte && 127 < l.char.toNat then some ⟨.invalidUtf8, l.span⟩ else none

/-- A literal of a class.  Without Unicode, only ASCII may stand there. -/
def checkClassLiteral (unicode : Bool) (l : Literal) : Option Fault :=
  (checkLiteral unicode l).or
    (if !unicode && 127 < l.char.toNat then some ⟨.unicodeNotAllowed, l.span⟩ else none)

/-- A class of bytes.  One that is negated has all bytes beyond ASCII. -/
def checkBytes (unicode negated : Bool) (span : Span) : Option Fault :=
  if !unicode && negated then some ⟨.invalidUtf8, span⟩ else none

/-- A class with a name. -/
def checkNamed (unicode negated : Bool) (span : Span) : NamedClass → Option Fault
  | .property query =>
    if unicode then query.problem?.map fun p => ⟨p, span⟩ else some ⟨.unicodeNotAllowed, span⟩
  | .letter _ => checkBytes unicode negated span

mutual

/-- The first fault of what stands between brackets. -/
def ClassSet.fault? (unicode : Bool) : ClassSet → Option Fault
  | .empty _ => none
  | .literal l => checkClassLiteral unicode l
  | .range first last => (checkClassLiteral unicode first).or (checkClassLiteral unicode last)
  | .ascii span negated => checkBytes unicode negated span
  | .named span negated kind => checkNamed unicode negated span kind
  | .bracketed span negated content =>
    (content.fault? unicode).or (checkBytes unicode negated span)
  | .union _ parts => setsFault? unicode parts
  | .operation left right => (left.fault? unicode).or (right.fault? unicode)

/-- The first fault of some parts of a class. -/
def setsFault? (unicode : Bool) : List ClassSet → Option Fault
  | [] => none
  | s :: sets => (s.fault? unicode).or (setsFault? unicode sets)

end

mutual

/-- The first fault of an expression, or whether Unicode is on behind it. -/
def Expr.check (unicode : Bool) : Expr → Except Fault Bool
  | .empty => .ok unicode
  | .flags _ items => .ok ((flagState .unicode items).getD unicode)
  | .literal l => faultOr unicode (checkLiteral unicode l)
  | .dot span => faultOr unicode (if unicode then none else some ⟨.invalidUtf8, span⟩)
  | .assertion _ => .ok unicode
  | .named span negated kind => faultOr unicode (checkNamed unicode negated span kind)
  | .bracketed span negated content =>
    faultOr unicode ((content.fault? unicode).or (checkBytes unicode negated span))
  | .repeated _ _ e => e.check unicode
  | .group _ _ flags e =>
    match e.check ((flagState .unicode flags).getD unicode) with
    | .ok _ => .ok unicode
    | .error f => .error f
  | .alternation _ es => checkExprs unicode es
  | .sequence _ es => checkExprs unicode es
where
  /-- A fault, or what is on if there is none. -/
  faultOr (unicode : Bool) : Option Fault → Except Fault Bool
    | some f => .error f
    | none => .ok unicode

/-- The first fault of expressions one after the other, or whether Unicode is on behind them. -/
def checkExprs (unicode : Bool) : List Expr → Except Fault Bool
  | [] => .ok unicode
  | e :: es =>
    match e.check unicode with
    | .ok unicode => checkExprs unicode es
    | .error f => .error f

end

/-- The fault of an expression that was read. -/
def Expr.fault? (e : Expr) : Option Fault :=
  match e.tooDeep 0 with
  | some span => some ⟨.nestedTooDeep, span⟩
  | none =>
    match e.check true with
    | .ok _ => none
    | .error f => some f

end NoteForms.Pattern
