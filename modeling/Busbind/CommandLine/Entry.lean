/-! What a path can name: a file, a folder, or a device of the system. -/
namespace Busbind

inductive FileError
  | missing
  | isDirectory
  | notDirectory
  | nameTooLong
  | noSpace
  | notText
  | other (reason : String)
  deriving DecidableEq, Repr

def FileError.message : FileError → String
  | .missing => "No such file or directory (os error 2)"
  | .isDirectory => "Is a directory (os error 21)"
  | .notDirectory => "Not a directory (os error 20)"
  | .nameTooLong => "File name too long (os error 36)"
  | .noSpace => "No space left on device (os error 28)"
  | .notText => "stream did not contain valid UTF-8"
  | .other reason => reason

inductive Device
  | null
  | full
  | input
  | output
  | error
  deriving DecidableEq, Repr

inductive Entry
  | text (s : String)
  | binary (size : Nat)
  | zeros (size : Nat)
  | folder
  | device (d : Device)
  deriving DecidableEq, Repr

namespace Entry

def ofBytes (bytes : ByteArray) : Entry :=
  match String.fromUTF8? bytes with
  | some s => .text s
  | none => .binary bytes.size

def size : Entry → Nat
  | .text s => s.utf8ByteSize
  | .binary n => n
  | .zeros n => n
  | .folder => 0
  | .device _ => 0

def content : Entry → Except FileError String
  | .text s => .ok s
  | .binary _ => .error .notText
  | .zeros n => .ok (String.ofList (List.replicate n '\x00'))
  | .folder => .error .isDirectory
  | .device _ => .ok ""

end Entry

abbrev Location := List String

structure Said where
  out : String := ""
  err : String := ""
  deriving DecidableEq, Repr

namespace Device

def ofName? : String → Option Device
  | "null" => some .null
  | "full" => some .full
  | "stdin" => some .input
  | "stdout" => some .output
  | "stderr" => some .error
  | _ => none

def accept (d : Device) (text : String) : Except FileError Said :=
  match d with
  | .null | .input => .ok {}
  | .full => .error .noSpace
  | .output => .ok { out := text }
  | .error => .ok { err := text }

end Device

/-- Where a path out of a directory is looked up: from the root of the system, or from so many
folders above the directory. -/
inductive Outside
  | root
  | above (levels : Nat)
  deriving DecidableEq, Repr

/-- What is around a directory: what stands at the places there, and what comes of writing a file at
one of them. -/
structure System where
  entry? : Outside → Location → Option Entry
  admits : Outside → Location → Except FileError Unit

namespace System

def folders : List String :=
  ["bin", "dev", "etc", "home", "lib", "proc", "root", "run", "sys", "tmp", "usr", "var"]

/-- A system of which nothing is known but its own folders and devices, and that files can be
written to the folder for files of anybody and to the one above the directory. -/
def usual : System where
  entry?
    | .root, [name] => if folders.contains name then some .folder else none
    | .root, ["dev", name] => (Device.ofName? name).map .device
    | _, _ => none
  admits
    | .root, ["tmp", _] => .ok ()
    | .above 1, [_] => .ok ()
    | _, _ => .error .missing

end System

end Busbind
