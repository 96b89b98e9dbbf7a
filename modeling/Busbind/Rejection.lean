import Busbind.Token

/-! The causes for which a definition is refused, each with the place in the text that shows it,
and their wording. -/
namespace Busbind

inductive Expected
  | package
  | packageName
  | importPath
  | interface
  | interfaceName
  | interfaceBody
  | versionBody
  | versionEntry
  deriving DecidableEq, Repr

def Expected.describe : Expected → String
  | .package => "`package`"
  | .packageName => "package name"
  | .importPath => "import path"
  | .interface => "`interface`"
  | .interfaceName => "interface name"
  | .interfaceBody => "`\x7b` after the interface name"
  | .versionBody => "`\x7b` after `version`"
  | .versionEntry => "`major`, `minor` or `\x7d`"

inductive NumberFault
  | empty
  | invalidDigit
  | tooLarge
  deriving DecidableEq, Repr

def NumberFault.describe : NumberFault → String
  | .empty => "cannot parse integer from empty string"
  | .invalidDigit => "invalid digit found in string"
  | .tooLarge => "number too large to fit in target type"

inductive VersionField
  | major
  | minor
  deriving DecidableEq, Repr

def VersionField.describe : VersionField → String
  | .major => "major"
  | .minor => "minor"

inductive Rejection
  | unexpected (expected : Expected) (found : Token)
  | invalidNumber (field : VersionField) (found : Token) (fault : NumberFault)
  | unclosedDescription (span : Span)
  | unreadable (reason : String)
  deriving DecidableEq, Repr

namespace Rejection

def message : Rejection → String
  | .unexpected expected found =>
    "expected " ++ expected.describe ++ ", found " ++ found.describe
  | .invalidNumber field found fault =>
    "invalid " ++ field.describe ++ " version `" ++ found.literal ++ "`: " ++ fault.describe
  | .unclosedDescription _ => "unterminated description: `<**` is never closed by `**>`"
  | .unreadable reason => "failed to read input: " ++ reason

def code : Rejection → String
  | .unexpected .. => "fidl::syntax"
  | .invalidNumber .. => "fidl::number_format"
  | .unclosedDescription _ => "fidl::unterminated_description"
  | .unreadable _ => "fidl::io"

def help : Rejection → Option String
  | .invalidNumber .. => some "version entries take a non-negative integer, e.g. `major 1`"
  | .unclosedDescription _ => some "close the description with `**>`"
  | .unexpected .. | .unreadable _ => none

def label : Rejection → Option String
  | .unexpected .. => some "unexpected token"
  | .invalidNumber .. => some "not a valid integer"
  | .unclosedDescription _ => some "description starts here"
  | .unreadable _ => none

def span : Rejection → Option Span
  | .unexpected _ found => some found.span.ordered
  | .invalidNumber _ found _ => some found.span.ordered
  | .unclosedDescription s => some s.ordered
  | .unreadable _ => none

def cause : Rejection → Option String
  | .invalidNumber _ _ fault => some fault.describe
  | _ => none

end Rejection

end Busbind
