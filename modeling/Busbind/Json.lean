import Busbind.Definition
import Busbind.Text.Quoted

/-! Structured values as indented text, and a definition as such a value. -/
namespace Busbind

inductive Json
  | null
  | bool (b : Bool)
  | number (n : Nat)
  | text (s : String)
  | list (items : List Json)
  | record (fields : List (String × Json))
  deriving Repr

namespace Json

def escaped (c : Char) : List Char :=
  if c = '"' then ['\\', '"']
  else if c = '\\' then ['\\', '\\']
  else if c = '\x08' then ['\\', 'b']
  else if c = '\x0c' then ['\\', 'f']
  else if c = '\n' then ['\\', 'n']
  else if c = '\r' then ['\\', 'r']
  else if c = '\t' then ['\\', 't']
  else if c.toNat < 0x20 then
    ['\\', 'u', '0', '0', Nat.digitChar (c.toNat / 16), Nat.digitChar (c.toNat % 16)]
  else [c]

def quote (s : String) : List Char := '"' :: s.toList.flatMap escaped ++ ['"']

def newline (depth : Nat) : List Char := '\n' :: List.replicate (2 * depth) ' '

def enclose (opening closing : Char) (depth : Nat) (items : List (List Char)) : List Char :=
  if items.isEmpty then [opening, closing]
  else
    let lines := items.map fun i => newline (depth + 1) ++ i
    opening :: (lines.intersperse [',']).flatten ++ newline depth ++ [closing]

mutual

def chars (depth : Nat) : Json → List Char
  | .null => "null".toList
  | .bool b => (if b then "true" else "false").toList
  | .number n => (toString n).toList
  | .text s => quote s
  | .list items => enclose '[' ']' depth (itemChars (depth + 1) items)
  | .record fields => enclose '\x7b' '\x7d' depth (fieldChars (depth + 1) fields)

def itemChars (depth : Nat) : List Json → List (List Char)
  | [] => []
  | j :: js => chars depth j :: itemChars depth js

def fieldChars (depth : Nat) : List (String × Json) → List (List Char)
  | [] => []
  | (key, j) :: rest => (quote key ++ ':' :: ' ' :: chars depth j) :: fieldChars depth rest

end

/-- The value as text: two spaces a level, a space after each colon, no line feed at the end. -/
def render (j : Json) : String := String.ofList (chars 0 j)

end Json

namespace Import

def json (i : Import) : Json := .record [("path", .text i.path), ("from", .text i.source)]

end Import

namespace PackageClause

def json (p : PackageClause) : Json :=
  .record [("name", .text p.name), ("imports", .list (p.imports.map Import.json))]

end PackageClause

namespace InterfaceClause

def json (i : InterfaceClause) : Json :=
  .record [("name", .text i.name),
    ("description", match i.description with | some d => .text d | none => .null),
    ("major_version", .number i.major.toNat), ("minor_version", .number i.minor.toNat)]

end InterfaceClause

namespace Parameter

def json (p : Parameter) : Json :=
  .record [("description", .text p.description), ("type", .text p.type), ("name", .text p.name),
    ("is_array", .bool p.isArray), ("change_notification", .bool p.changes)]

end Parameter

namespace Attribute

def json (a : Attribute) : Json :=
  .record [("description", .text a.description), ("type", .text a.type), ("name", .text a.name),
    ("is_array", .bool a.isArray)]

end Attribute

namespace Method

def json (m : Method) : Json :=
  .record [("description", .text m.description), ("name", .text m.name),
    ("fire_and_forget", .bool m.fireAndForget),
    ("in_params", .list (m.inputs.map Parameter.json)),
    ("out_params", .list (m.outputs.map Parameter.json))]

end Method

namespace Broadcast

def json (b : Broadcast) : Json :=
  .record [("description", .text b.description), ("name", .text b.name),
    ("selective", .bool b.selective), ("out_params", .list (b.outputs.map Parameter.json))]

end Broadcast

namespace Struct

def json (s : Struct) : Json :=
  .record [("description", .text s.description), ("name", .text s.name),
    ("fields", .list (s.fields.map Parameter.json))]

end Struct

namespace Typedef

def json (t : Typedef) : Json :=
  .record [("description", .text t.description), ("name", .text t.name),
    ("aliased_type", .text t.aliased)]

end Typedef

namespace ArrayAlias

def json (a : ArrayAlias) : Json :=
  .record [("description", .text a.description), ("name", .text a.name),
    ("element_type", .text a.element)]

end ArrayAlias

namespace Definition

def json (d : Definition) : Json :=
  .record [("package", d.package.json), ("interface", d.interface.json),
    ("attributes", .list (d.attributes.map Attribute.json)),
    ("methods", .list (d.methods.map Method.json)),
    ("broadcasts", .list (d.broadcasts.map Broadcast.json)),
    ("structs", .list (d.structs.map Struct.json)),
    ("typedefs", .list (d.typedefs.map Typedef.json)),
    ("arraydefs", .list (d.arrays.map ArrayAlias.json))]

end Definition

end Busbind
