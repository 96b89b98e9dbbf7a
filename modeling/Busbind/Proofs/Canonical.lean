import Mathlib.Data.List.Infix
import Busbind.Definition
import Busbind.Scan

/-! Canonical texts: a header and declarations written as words that are joined by single
spaces. -/
namespace Busbind.Canonical

def IsWord (s : String) : Prop :=
  s.toList.head?.any Char.isAlpha = true ∧ s.toList.all isWordPart = true
instance (s) : Decidable (IsWord s) := by unfold IsWord; infer_instance

def IsIdentifier (s : String) : Prop := IsWord s ∧ Keyword.ofSpelling? s = none
instance (s) : Decidable (IsIdentifier s) := by unfold IsIdentifier; infer_instance

def IsName (s : String) : Prop :=
  IsWord s ∧ ∀ k ∈ Keyword.ofSpelling? s, k.role ≠ .declaration ∧ k.role ≠ .header
instance (s) : Decidable (IsName s) := by unfold IsName; infer_instance

def IsDocumentation (d : String) : Prop :=
  ¬['*', '*'] <:+: d.toList ∧ d.toList.getLast? ≠ some '*'
instance (d) : Decidable (IsDocumentation d) := by unfold IsDocumentation; infer_instance

def IsQuotable (q : Punctuation) (s : String) : Prop :=
  (q = .quote ∨ q = .singleQuote) ∧ q.char ∉ s.toList ∧ ¬['<', '*'] <:+: s.toList
instance (q s) : Decidable (IsQuotable q s) := by unfold IsQuotable; infer_instance

inductive Word
  | keyword (k : Keyword)
  | identifier (s : String)
  | name (s : String)
  | number (n : UInt32)
  | mark (p : Punctuation)
  | documentation (d : String)
  | quoted (q : Punctuation) (s : String)

namespace Word

def text : Word → String
  | .keyword k => k.spelling
  | .identifier s | .name s => s
  | .number n => toString n.toNat
  | .mark p => String.ofList [p.char]
  | .documentation d => "<**" ++ d ++ "**>"
  | .quoted q s => String.ofList [q.char] ++ s ++ String.ofList [q.char]

def Proper : Word → Prop
  | .keyword _ | .number _ | .mark _ => True
  | .identifier s => IsIdentifier s
  | .name s => IsName s
  | .documentation d => IsDocumentation d
  | .quoted q s => IsQuotable q s
instance (w) : Decidable (Proper w) := by cases w <;> unfold Proper <;> infer_instance

end Word

structure QuotedImport where
  listed : Import
  quote : Punctuation

structure Heading where
  package : String
  imports : List QuotedImport
  interface : InterfaceClause

def Heading.packageClause (h : Heading) : PackageClause :=
  ⟨h.package, h.imports.map QuotedImport.listed⟩

def base (i : Import) : String :=
  if i.isWildcard then String.ofList i.path.toList.dropLast else i.path

def documented (d : String) : List Word := if d = "" then [] else [.documentation d]

def brackets (isArray : Bool) : List Word :=
  if isArray then [.mark .leftBracket, .mark .rightBracket] else []

def braces (inside : List Word) : List Word :=
  [.mark .leftBrace] ++ inside ++ [.mark .rightBrace]

def sourceWords (i : QuotedImport) : List Word :=
  if i.listed.source = "" then [] else [.identifier "from", .quoted i.quote i.listed.source]

def importWords (i : QuotedImport) : List Word :=
  [.keyword .imports, .identifier (base i.listed)] ++
    (if i.listed.isWildcard then [.mark .asterisk] else []) ++ sourceWords i

def versionWords (i : InterfaceClause) : List Word :=
  [.keyword .version] ++
    braces [.keyword .major, .number i.major, .keyword .minor, .number i.minor]

def interfaceWords (i : InterfaceClause) : List Word :=
  i.description.toList.map Word.documentation ++
    [.keyword .interface, .identifier i.name, .mark .leftBrace] ++ versionWords i

def parameterWords (p : Parameter) : List Word :=
  documented p.description ++ [.identifier p.type] ++ brackets p.isArray ++
    (if p.changes then [.mark .circumflex] else []) ++ [.name p.name]

def listWords (ps : List Parameter) : List Word := braces (ps.flatMap parameterWords)

def partWords : Declaration → List Word
  | .attr a => [.identifier a.type] ++ brackets a.isArray ++ [.name a.name]
  | .method m =>
    [.name m.name] ++ (if m.fireAndForget then [.keyword .fireAndForget] else []) ++
      braces ([.keyword .input] ++ listWords m.inputs ++ [.keyword .output] ++ listWords m.outputs)
  | .broadcast b =>
    [.name b.name] ++ (if b.selective then [.keyword .selective] else []) ++
      braces ([.keyword .output] ++ listWords b.outputs)
  | .struct s => [.name s.name] ++ listWords s.fields
  | .typedef t => [.name t.name, .identifier "is", .identifier t.aliased]
  | .array a => [.name a.name, .identifier "of", .identifier a.element]

def declarationWords (d : Declaration) : List Word :=
  documented d.description ++ [.keyword d.kind.keyword] ++ partWords d

def words (h : Heading) (ds : List Declaration) : List Word :=
  [.keyword .package, .identifier h.package] ++ h.imports.flatMap importWords ++
    interfaceWords h.interface ++ ds.flatMap declarationWords ++ [.mark .rightBrace]

def joined (ws : List Word) : String := " ".intercalate (ws.map Word.text)

def text (h : Heading) (ds : List Declaration) : String := joined (words h ds)

end Busbind.Canonical
