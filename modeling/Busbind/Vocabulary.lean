/-! The fixed words of the interface language: keywords, punctuation, builtin types; and the words
that the generated code reserves. Each vocabulary is an enumeration with its members listed in
order, so that a search for a spelling is a search of the list. -/
namespace Busbind

inductive KeywordRole
  | header
  | version
  | declaration
  | direction
  | modifier
  deriving DecidableEq, Repr

def KeywordRole.id : KeywordRole → String
  | .header => "Header"
  | .version => "Version"
  | .declaration => "Declaration"
  | .direction => "Direction"
  | .modifier => "Modifier"

inductive Keyword
  | package
  | imports
  | interface
  | version
  | major
  | minor
  | attr
  | method
  | broadcast
  | struct
  | typedef
  | array
  | input
  | output
  | selective
  | fireAndForget
  deriving DecidableEq, Repr

namespace Keyword

def all : List Keyword :=
  [.package, .imports, .interface, .version, .major, .minor, .attr, .method, .broadcast, .struct,
    .typedef, .array, .input, .output, .selective, .fireAndForget]

def id : Keyword → String
  | .package => "Package"
  | .imports => "Import"
  | .interface => "Interface"
  | .version => "Version"
  | .major => "Major"
  | .minor => "Minor"
  | .attr => "Attribute"
  | .method => "Method"
  | .broadcast => "Broadcast"
  | .struct => "Struct"
  | .typedef => "TypeDef"
  | .array => "ArrayDef"
  | .input => "In"
  | .output => "Out"
  | .selective => "Selective"
  | .fireAndForget => "FireAndForget"

def spelling : Keyword → String
  | .package => "package"
  | .imports => "import"
  | .interface => "interface"
  | .version => "version"
  | .major => "major"
  | .minor => "minor"
  | .attr => "attribute"
  | .method => "method"
  | .broadcast => "broadcast"
  | .struct => "struct"
  | .typedef => "typedef"
  | .array => "array"
  | .input => "in"
  | .output => "out"
  | .selective => "selective"
  | .fireAndForget => "fireAndForget"

def role : Keyword → KeywordRole
  | .package | .imports | .interface => .header
  | .version | .major | .minor => .version
  | .attr | .method | .broadcast | .struct | .typedef | .array => .declaration
  | .input | .output => .direction
  | .selective | .fireAndForget => .modifier

def summary : Keyword → String
  | .package => "Opens the mandatory package clause."
  | .imports => "Imports a (possibly wildcard) path from another model."
  | .interface => "Opens the mandatory interface clause."
  | .version => "Opens the optional interface version block."
  | .major => "Major version entry."
  | .minor => "Minor version entry."
  | .attr => "Declares an interface attribute (D-Bus property)."
  | .method => "Declares a method with in/out parameter groups."
  | .broadcast => "Declares a broadcast (D-Bus signal) with out parameters."
  | .struct => "Declares a struct with a field group."
  | .typedef => "Declares a type alias: `typedef Name is Type`."
  | .array => "Declares an array alias: `array Name of Type`."
  | .input => "Input parameter group."
  | .output => "Output parameter group."
  | .selective => "Marks a broadcast as selective."
  | .fireAndForget => "Marks a method as not expecting a reply."

def ofSpelling? (s : String) : Option Keyword := all.find? fun k => k.spelling == s

theorem spellingFound (k : Keyword) : ofSpelling? k.spelling = some k := by
  cases k <;> decide

end Keyword

inductive Punctuation
  | asterisk
  | comma
  | quote
  | singleQuote
  | circumflex
  | leftBracket
  | rightBracket
  | leftBrace
  | rightBrace
  deriving DecidableEq, Repr

namespace Punctuation

def all : List Punctuation :=
  [.asterisk, .comma, .quote, .singleQuote, .circumflex, .leftBracket, .rightBracket, .leftBrace,
    .rightBrace]

def id : Punctuation → String
  | .asterisk => "Asterisk"
  | .comma => "Comma"
  | .quote => "Quote"
  | .singleQuote => "SingleQuote"
  | .circumflex => "Circumflex"
  | .leftBracket => "LBracket"
  | .rightBracket => "RBracket"
  | .leftBrace => "LBrace"
  | .rightBrace => "RBrace"

def char : Punctuation → Char
  | .asterisk => '*'
  | .comma => ','
  | .quote => '"'
  | .singleQuote => '\''
  | .circumflex => '^'
  | .leftBracket => '['
  | .rightBracket => ']'
  | .leftBrace => '\x7b'
  | .rightBrace => '\x7d'

def ofChar? (c : Char) : Option Punctuation := all.find? fun p => p.char == c

theorem charFound (p : Punctuation) : ofChar? p.char = some p := by cases p <;> decide

end Punctuation

inductive BuiltinType
  | string
  | boolean
  | int8
  | int16
  | int32
  | int64
  | uint8
  | uint16
  | uint32
  | uint64
  | float
  | double
  | byteBuffer
  deriving DecidableEq, Repr

namespace BuiltinType

def all : List BuiltinType :=
  [.string, .boolean, .int8, .int16, .int32, .int64, .uint8, .uint16, .uint32, .uint64, .float,
    .double, .byteBuffer]

def spelling : BuiltinType → String
  | .string => "String"
  | .boolean => "Boolean"
  | .int8 => "Int8"
  | .int16 => "Int16"
  | .int32 => "Int32"
  | .int64 => "Int64"
  | .uint8 => "UInt8"
  | .uint16 => "UInt16"
  | .uint32 => "UInt32"
  | .uint64 => "UInt64"
  | .float => "Float"
  | .double => "Double"
  | .byteBuffer => "ByteBuffer"

def generated : BuiltinType → String
  | .string => "String"
  | .boolean => "bool"
  | .int8 => "i8"
  | .int16 => "i16"
  | .int32 => "i32"
  | .int64 => "i64"
  | .uint8 => "u8"
  | .uint16 => "u16"
  | .uint32 => "u32"
  | .uint64 => "u64"
  | .float => "f64"
  | .double => "f64"
  | .byteBuffer => "Vec<u8>"

def summary : BuiltinType → String
  | .string => "UTF-8 string."
  | .boolean => "Boolean value."
  | .int8 => "Signed 8-bit integer."
  | .int16 => "Signed 16-bit integer."
  | .int32 => "Signed 32-bit integer."
  | .int64 => "Signed 64-bit integer."
  | .uint8 => "Unsigned 8-bit integer."
  | .uint16 => "Unsigned 16-bit integer."
  | .uint32 => "Unsigned 32-bit integer."
  | .uint64 => "Unsigned 64-bit integer."
  | .float => "Floating point value (widened)."
  | .double => "Double precision floating point value."
  | .byteBuffer => "Opaque byte buffer."

def ofSpelling? (s : String) : Option BuiltinType := all.find? fun t => t.spelling == s

theorem spellingFound (t : BuiltinType) : ofSpelling? t.spelling = some t := by
  cases t <;> decide

end BuiltinType

def reservedWords : List String :=
  ["as", "break", "const", "continue", "crate", "else", "enum", "extern", "false", "fn", "for",
    "if", "impl", "in", "let", "loop", "match", "mod", "move", "mut", "pub", "ref", "return",
    "self", "Self", "static", "struct", "super", "trait", "true", "type", "unsafe", "use", "where",
    "while", "async", "await", "dyn", "abstract", "become", "box", "do", "final", "gen", "macro",
    "override", "priv", "typeof", "unsized", "virtual", "yield", "try"]

def unescapableWords : List String := ["crate", "self", "Self", "super"]

def isReserved (s : String) : Bool := reservedWords.contains s

def hasRawForm (s : String) : Bool := !unescapableWords.contains s

def generatorVersion : String := "0.1.0-alpha.4"

end Busbind
