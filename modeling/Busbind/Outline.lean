import Busbind.Definition
import Busbind.Text.Blank
import Busbind.Text.Quoted

/-! The outline of a definition: one line per part, indented by its depth, with documentation as
quoted text. -/
namespace Busbind.Outline

structure Line where
  depth : Nat
  text : String
  deriving DecidableEq, Repr

def Line.render (l : Line) : String :=
  String.ofList (List.replicate (2 * l.depth) ' ') ++ l.text ++ "\n"

def doc (depth : Nat) (description : String) : List Line :=
  let text := Text.trimmed description
  if text.isEmpty then [] else [⟨depth, "doc: " ++ Text.quoted .people text⟩]

def parameter (depth : Nat) (p : Parameter) : List Line :=
  ⟨depth, p.describe⟩ :: doc (depth + 1) p.description

def group (depth : Nat) (label : String) (lines : α → List Line) (members : List α) : List Line :=
  if members.isEmpty then [] else ⟨depth, label⟩ :: members.flatMap lines

def parameters (label : String) (ps : List Parameter) : List Line :=
  group 2 label (parameter 3) ps

def attr (a : Attribute) : List Line :=
  ⟨1, arrayType a.type a.isArray ++ " " ++ a.name⟩ :: doc 2 a.description

def method (m : Method) : List Line :=
  ⟨1, m.name ++ (if m.fireAndForget then " [fireAndForget]" else "")⟩ ::
    doc 2 m.description ++ parameters "in" m.inputs ++ parameters "out" m.outputs

def broadcast (b : Broadcast) : List Line :=
  ⟨1, b.name ++ (if b.selective then " [selective]" else "")⟩ ::
    doc 2 b.description ++ parameters "out" b.outputs

def struct (s : Struct) : List Line :=
  ⟨1, s.name⟩ :: doc 2 s.description ++ s.fields.flatMap (parameter 2)

def typedef (t : Typedef) : List Line :=
  ⟨1, t.name ++ " = " ++ t.aliased⟩ :: doc 2 t.description

def arrayAlias (a : ArrayAlias) : List Line :=
  ⟨1, a.name ++ " = " ++ a.element ++ "[]"⟩ :: doc 2 a.description

def package (p : PackageClause) : List Line :=
  ⟨0, "package " ++ p.name⟩ :: p.imports.map fun i => ⟨1, i.describe⟩

def interface (i : InterfaceClause) : List Line :=
  ⟨0, "interface " ++ i.name ++ " v" ++ toString i.major.toNat ++ "." ++ toString i.minor.toNat⟩ ::
    doc 1 (i.description.getD "")

def lines (d : Definition) : List Line :=
  package d.package ++ interface d.interface ++
    group 0 "attributes" attr d.attributes ++
    group 0 "methods" method d.methods ++
    group 0 "broadcasts" broadcast d.broadcasts ++
    group 0 "structs" struct d.structs ++
    group 0 "typedefs" typedef d.typedefs ++
    group 0 "arrays" arrayAlias d.arrays

end Busbind.Outline

namespace Busbind.Definition

def outline (d : Definition) : String := String.join ((Outline.lines d).map Outline.Line.render)

end Busbind.Definition
