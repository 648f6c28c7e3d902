import NoteForms.Json.Decode
import NoteForms.Template.Basic

/-!
# Templates as JSON

A template is an array of segments, each an object with a tag.
-/

namespace NoteForms

open Json

/-- A transform from JSON; it is always part of a tagged segment. -/
def Transform.decode : Json → Decoded Transform :=
  decodeChoice true (Transform.all.map fun t => (t.name, t))

namespace Segment

/-- A segment as JSON. -/
def toJson : Segment → Json
  | .text value => .obj [("tag", .str "text"), ("value", .str value)]
  | .variable name transform =>
    .obj (("tag", .str "variable") :: ("value", .str name)
      :: optional "transformation" (fun t => .str t.name) transform)
  | .frontmatter picked omitted =>
    .obj [("tag", .str "frontmatter-command"), ("pick", ofStrings picked),
      ("omit", ofStrings omitted)]

/-- The kinds of segments. -/
inductive Kind
  | text
  | variable
  | frontmatter

/-- The tags of the kinds. -/
def tags : List (String × Kind) :=
  [("text", .text), ("variable", .variable), ("frontmatter-command", .frontmatter)]

/-- A text from its parts. -/
def decodeText (p : Parts) : Decoded Segment :=
  (p.single "struct variant TemplateToken::Text" "value" decodeString).map .text

/-- A variable from its parts. -/
def decodeVariable : Parts → Decoded Segment
  | .named members => do
    let transform ← member? members "transformation" (decodeOptional Transform.decode)
    let name ← member? members "value" decodeString
    return .variable (← required "value" name) transform.join
  | .listed items setAside => do
    let name ← item "struct variant TemplateToken::Variable with 2 elements" items 0 decodeString
    let transform ← item? items 1 (decodeOptional Transform.decode)
    noMoreItems items setAside 2
    return .variable name transform.join

/-- A frontmatter block from its parts. -/
def decodeFrontmatter : Parts → Decoded Segment
  | .named members => do
    let omitted ← member? members "omit" (decodeList decodeString)
    let picked ← member? members "pick" (decodeList decodeString)
    return .frontmatter (picked.getD []) (omitted.getD [])
  | .listed items setAside => do
    let picked ← item? items 0 (decodeList decodeString)
    let omitted ← item? items 1 (decodeList decodeString)
    noMoreItems items setAside 2
    return .frontmatter (picked.getD []) (omitted.getD [])

/-- A segment from JSON. -/
def decode (v : Json) : Decoded Segment := do
  let (kind, p) ← taggedParts false "internally tagged enum TemplateToken" "tag" tags v
  match kind with
  | .text => decodeText p
  | .variable => decodeVariable p
  | .frontmatter => decodeFrontmatter p

end Segment

namespace Template

/-- A template as JSON. -/
def toJson (t : Template) : Json := .arr (t.map Segment.toJson)

/-- A template from JSON. -/
def decode : Json → Decoded Template := decodeList Segment.decode

end Template

end NoteForms
