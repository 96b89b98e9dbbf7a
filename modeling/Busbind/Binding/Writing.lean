import Busbind.Binding.Item
import Busbind.Layout
import Busbind.Text.Blank
import Busbind.Text.Quoted

/-! Generated code as text: the document of each item, and of a file. -/
namespace Busbind.Writing
open Layout

def literal (s : String) : Document := word (Text.quoted .compiler s)

def balanced (depth : Nat) : List Char → Bool
  | '/' :: '*' :: cs => balanced (depth + 1) cs
  | '*' :: '/' :: cs => if depth = 0 then false else balanced (depth - 1) cs
  | _ :: cs => balanced depth cs
  | [] => depth = 0

def withoutLastSpaces (cs : List Char) : List Char :=
  (cs.reverse.dropWhile fun c => c = ' ').reverse

def withoutInnerSpaces (cs : List Char) : List Char :=
  let parts := Text.pieces '\n' cs
  let last := parts.getLast?.getD []
  (((parts.dropLast.map withoutLastSpaces) ++ [last]).intersperse ['\n']).flatten

/-- A line of documentation. A text of several lines becomes a block comment, or an annotation where
it would end the comment early. -/
def docLine (s : String) : Document :=
  let cs := s.toList
  if !cs.contains '\n' then
    word "///" ++ word (String.ofList (withoutLastSpaces cs)) ++ newline
  else if balanced 0 cs && cs.getLast? != some '/' then
    word "/**" ++ word (String.ofList (withoutInnerSpaces cs)) ++ word "*/" ++ newline
  else word "#" ++ word "[" ++ word "doc" ++ word " = " ++ literal s ++ word "]" ++ space

def docs (lines : List String) : Document := lines.flatMap docLine

def argumentBox (items : List Document) : Document :=
  evenBox 4 (cut ++ commaList items ++ outdent)

def generic (name argument : Document) : Document :=
  name ++ word "<" ++ argumentBox [argument] ++ word ">"

def valueType : ValueType → Document
  | .builtin .byteBuffer => generic (word "Vec") (word "u8")
  | .builtin type => word type.generated
  | .user name => word name.spelling
  | .vector element => generic (word "Vec") (valueType element)

def valueTypes : List ValueType → Document
  | [type] => valueType type
  | types => word "(" ++ argumentBox (types.map valueType) ++ word ")"

def returns : Returns → Document
  | .values types => valueTypes types
  | .busResult types => generic (word "zbus::Result") (valueTypes types)
  | .constructed => word "Self"
  | .handlerReference => word "&H"

def annotationBox (items : List Document) : Document :=
  word "(" ++ evenBox 4 (cut ++ commaBetween items ++ cut ++ outdent) ++ word ")"

def annotation (path : String) (items : List Document) : Document :=
  word "#[" ++ word path ++ annotationBox items ++ word "]" ++ space

def keyed (key value : String) : Document := word (key ++ " = ") ++ literal value

def busArgument : BusArgument → Document
  | .name member => keyed "name" member
  | .noReply => word "no_reply"
  | .property => word "property"
  | .signal => word "signal"
  | .outArguments names => word "out_args" ++ annotationBox (names.map literal)

def busAttribute (items : List BusArgument) : Document :=
  if items.isEmpty then [] else annotation "zbus" (items.map busArgument)

def argument (a : Argument) : Document :=
  word (a.name.spelling ++ ": ") ++ valueType a.type

def receiver : Receiver → List Document
  | .free => []
  | .self => [word "&self"]
  | .emitter =>
    [generic (word "emitter: &zbus::object_server::SignalEmitter") (word "'_")]

def signature (s : Signature) : Document :=
  word ((if s.isPublic then "pub " else "") ++ (if s.isAsync then "async " else "") ++ "fn ") ++
    word s.name.spelling ++ word "(" ++ anchor ++
    evenBox 0 (cut ++ commaList (receiver s.receiver ++ s.arguments.map argument) ++ outdent) ++
    word ")" ++ evenBox (-4) (word " -> " ++ returns s.returns)

/-- Names that together make the tuple of a signal. A tuple of one name keeps its comma. -/
def tuple (names : List Identifier) : Document :=
  let items : Document :=
    match names with
    | [name] => word name.spelling ++ word "," ++ cut
    | _ => commaList (names.map fun n => word n.spelling)
  word "&(" ++ evenBox 4 (cut ++ items ++ outdent) ++ word ")"

def call (name : String) (arguments : List Document) : Document :=
  word ("." ++ name) ++ evenBox 0 (word "(" ++ argumentBox arguments ++ word ")")

def body : Body → Document
  | .construct => word "Self \x7b handler \x7d"
  | .borrow => word "&self.handler"
  | .forward method arguments =>
    evenBox 4 (evenBox (-4) (word "self") ++ word ".handler" ++ cut ++
      call method.spelling (arguments.map fun a => word a.spelling))
  | .emit member arguments =>
    evenBox 4 (evenBox (-4) (word "emitter") ++ cut ++
      call "emit" [word "INTERFACE_NAME", literal member, tuple arguments] ++ cut ++ word ".await")

def braced (head members : Document) : Document :=
  evenBox 4 (head ++ word " \x7b" ++ fleetingNewline ++ members ++ outdent) ++ word "\x7d" ++
    newline

def function (f : Function) : Document :=
  docs f.docs ++ busAttribute f.bus ++
    match f.body with
    | none => evenBox 4 (signature f.signature ++ word ";") ++ newline
    | some b => braced (signature f.signature) (filledBox 0 (body b) ++ newline)

def functions (fs : List Function) : Document := fs.flatMap function

def field (f : Field) : Document :=
  let rename : Document :=
    match f.rename with
    | some name => annotation "serde" [keyed "rename" name]
    | none => []
  docs f.docs ++ rename ++ word "pub " ++ word f.name.spelling ++ word ": " ++ valueType f.type ++
    word "," ++ newline

def constantType : ConstantValue → String
  | .text _ => "&str"
  | .version .. => "(u32, u32)"

def constantValue : ConstantValue → String
  | .text s => Text.quoted .compiler s
  | .version major minor => "(" ++ toString major.toNat ++ ", " ++ toString minor.toNat ++ ")"

def constant (name : String) (value : ConstantValue) : Document :=
  evenBox 0 (word "pub const " ++ word name ++ word ": " ++ word (constantType value) ++
    word " = " ++ anchor ++ word (constantValue value) ++ word ";") ++ newline

def synonym (name : Identifier) (type : ValueType) : Document :=
  evenBox 4 (word "pub type " ++ word name.spelling ++ word " = " ++ anchor ++
    filledBox (-4) (valueType type) ++ word ";") ++ newline

def typeParameter (indent : Int) (inner : Document) : Document :=
  word "<" ++ evenBox indent (cut ++ inner ++ lastComma ++ outdent) ++ word ">"

def implementationHead (handler server : Identifier) : Document :=
  let bound := word "H" ++ filledBox 4 (word ": " ++ word handler.spelling)
  filledBox (-4) (evenBox 4 (word "impl" ++ typeParameter 0 bound) ++ word " " ++
    word server.spelling ++ typeParameter 4 (word "H"))

def item : Item → Document
  | .constant doc name value => docLine doc ++ constant name value
  | .record lines derives name fields =>
    docs lines ++ annotation "derive" (derives.map word) ++
      braced (word ("pub struct " ++ name.spelling)) (fields.flatMap field)
  | .synonym lines name type => docs lines ++ synonym name type
  | .proxy lines interface path name fs =>
    docs lines ++ annotation "zbus::proxy" [keyed "interface" interface,
        keyed "default_service" interface, keyed "default_path" path] ++
      braced (word ("pub trait " ++ name.spelling)) (functions fs)
  | .handler lines name fs =>
    docs lines ++
      braced (word ("pub trait " ++ name.spelling ++ ": Send + Sync + 'static")) (functions fs)
  | .server lines name =>
    docs lines ++
      braced (word ("pub struct " ++ name.spelling) ++ typeParameter 0 (word "H"))
        (word "handler: H" ++ word "," ++ newline)
  | .implementation exported handler server fs =>
    let exporting : Document :=
      match exported with
      | some interface => annotation "zbus::interface" [keyed "name" interface]
      | none => []
    exporting ++ braced (implementationHead handler server) (functions fs)

def items (module : Option Identifier) (is : List Item) : Document :=
  let all := is.flatMap item
  match module with
  | some name => evenBox 0 (braced (word ("pub mod " ++ name.spelling)) all)
  | none => evenBox 0 all

def headerLine (interface : String) : String :=
  "// Generated by fidlgen v" ++ generatorVersion ++ " from " ++ interface ++
    ". Do not edit.\n\n"

end Busbind.Writing

namespace Busbind.BindingFile

def render (f : BindingFile) : String :=
  (f.header.map Writing.headerLine).getD "" ++ Layout.render (Writing.items f.module f.items)

end Busbind.BindingFile
