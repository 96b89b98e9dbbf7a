import Busbind.Grammar

/-! The grammar worked off by a reader that scans one token at a time and has a single slot for a
token that it hands back. Handing a token back while the slot is taken stops the reader, and so
does a round of a loop that goes on with no less to read than before. -/
namespace Busbind.Pushback

structure Reader where
  position : Nat
  ahead : List Char
  slot : Option Token
  deriving DecidableEq, Repr

def Reader.unread (r : Reader) : Nat :=
  byteLength r.ahead + (r.slot.map fun t => t.span.length).getD 0

inductive Stop
  | rejected (r : Rejection)
  | slotTaken
  | stalled
  deriving DecidableEq, Repr

abbrev Reading (α : Type) := StateT Reader (Except Stop) α

def refuse {α : Type} (r : Rejection) : Reading α := fun _ => .error (.rejected r)

/-- The token in the slot, or else the next one of the text, white space included. -/
def next : Reading Token := fun r =>
  match r.slot with
  | some t => .ok (t, { r with slot := none })
  | none =>
    match r.ahead with
    | [] => .ok (Token.endOfInput r.position, r)
    | c :: cs =>
      match Lexeme.cut? c cs with
      | none =>
        .error (.rejected (.unclosedDescription ⟨r.position, r.position + byteLength (c :: cs)⟩))
      | some l =>
        let stop := r.position + byteLength l.covered
        .ok (⟨l.kind, String.ofList l.literal, ⟨r.position, stop⟩⟩, ⟨stop, l.rest, none⟩)

/-- Puts a token into the slot, which must be free. -/
def handBack (t : Token) : Reading Unit := fun r =>
  match r.slot with
  | some _ => .error .slotTaken
  | none => .ok ((), { r with slot := some t })

inductive Round (α β : Type)
  | again (a : α)
  | leave (b : β)

/-- Rounds of a loop until one leaves it. Each round that goes on must lower what is unread. -/
def rounds {α β : Type} (round : α → Reading (Round α β)) (a : α) (r : Reader) :
    Except Stop (β × Reader) :=
  match round a r with
  | .error s => .error s
  | .ok (.leave b, r') => .ok (b, r')
  | .ok (.again a', r') =>
    if r'.unread < r.unread then rounds round a' r' else .error .stalled
termination_by r.unread

def visibleRound (_ : Unit) : Reading (Round Unit Token) := do
  let t ← next
  if t.kind = .whitespace then pure (.again ()) else pure (.leave t)

def visible : Reading Token := rounds visibleRound ()

section Header

def demand (kind : TokenKind) (expected : Expected) : Reading Unit := do
  let t ← visible
  if t.kind = kind then pure () else refuse (.unexpected expected t)

def demandIdentifier (expected : Expected) : Reading String := do
  let t ← visible
  if t.kind = .identifier then pure t.literal else refuse (.unexpected expected t)

def takeIf {α : Type} (wanted : TokenKind → Bool) (value : Token → α) (missing : α) : Reading α := do
  let t ← visible
  if wanted t.kind then pure (value t)
  else
    handBack t
    pure missing

def eat (kind : TokenKind) : Reading Bool := takeIf (· == kind) (fun _ => true) false

def documented (t : Token) : Reading (Option String × Token) := do
  if t.kind = .description then
    let u ← visible
    pure (some t.literal, u)
  else pure (none, t)

def quotedRound (close : Punctuation) (text : String) : Reading (Round String String) := do
  let t ← next
  if t.kind = .punctuation close then pure (.leave text)
  else if t.kind = .endOfInput then
    handBack t
    pure (.leave text)
  else pure (.again (text ++ t.literal))

def quoted (close : Punctuation) : Reading String := rounds (quotedRound close) ""

def namedSource : Reading String := do
  let t ← visible
  match Header.quoteOf? t with
  | some q => quoted q
  | none =>
    if t.kind = .identifier then pure t.literal
    else
      handBack t
      pure ""

def source (t : Token) : Reading String :=
  if t.kind = .identifier && t.literal == "from" then namedSource
  else
    match Header.quoteOf? t with
    | some q => quoted q
    | none => do
      handBack t
      pure ""

def importClause : Reading Import := do
  let path ← demandIdentifier .importPath
  let t ← visible
  if t.kind = .punctuation .asterisk then
    let u ← visible
    let from' ← source u
    pure ⟨path ++ "*", from'⟩
  else
    let from' ← source t
    pure ⟨path, from'⟩

def importsRound (is : List Import) : Reading (Round (List Import) (List Import)) := do
  if ← eat (.keyword .imports) then
    let i ← importClause
    pure (.again (is ++ [i]))
  else pure (.leave is)

def packageClause : Reading PackageClause := do
  demand (.keyword .package) .package
  let name ← demandIdentifier .packageName
  let imports ← rounds importsRound []
  pure ⟨name, imports⟩

def versionNumber (field : VersionField) : Reading UInt32 := do
  let t ← visible
  match VersionNumber.ofText t.literal with
  | .ok n => pure n
  | .error fault => refuse (.invalidNumber field t fault)

def entryRound (v : UInt32 × UInt32) : Reading (Round (UInt32 × UInt32) (UInt32 × UInt32)) := do
  let t ← visible
  match Header.entryField? t.kind with
  | some .major =>
    let n ← versionNumber .major
    pure (.again (n, v.2))
  | some .minor =>
    let n ← versionNumber .minor
    pure (.again (v.1, n))
  | none =>
    if t.kind = .punctuation .rightBrace then pure (.leave v)
    else refuse (.unexpected .versionEntry t)

def versionBlock : Reading (UInt32 × UInt32) := do
  if ← eat (.keyword .version) then
    demand (.punctuation .leftBrace) .versionBody
    rounds entryRound (0, 0)
  else pure (0, 0)

def interfaceFrom (d : Option String × Token) : Reading InterfaceClause :=
  if d.2.kind = .keyword .interface then do
    let name ← demandIdentifier .interfaceName
    demand (.punctuation .leftBrace) .interfaceBody
    let version ← versionBlock
    pure ⟨name, d.1, version.1, version.2⟩
  else refuse (.unexpected .interface d.2)

def interfaceClause : Reading InterfaceClause := do
  let t ← visible
  let d ← documented t
  interfaceFrom d

end Header

section Declarations
open Declarations (endsList opens?)

def typeName : Reading String := takeIf (· == .identifier) Token.literal ""

def name : Reading String := takeIf TokenKind.isName Token.literal ""

def arrayMark : Reading Bool := do
  if ← eat (.punctuation .leftBracket) then eat (.punctuation .rightBracket) else pure false

def linkingWord : Reading Unit := do
  let t ← visible
  if t.kind = .endOfInput then handBack t else pure ()

def parameter : Reading (Option Parameter) := do
  let t ← visible
  let (description, t) ← documented t
  if t.kind = .identifier then
    let isArray ← arrayMark
    let changes ← eat (.punctuation .circumflex)
    let name ← name
    pure (some ⟨description.getD "", t.literal, name, isArray, changes⟩)
  else if t.kind = .punctuation .rightBrace || t.kind = .endOfInput || endsList t then
    handBack t
    pure none
  else pure none

def listRound (ps : List Parameter) : Reading (Round (List Parameter) (List Parameter)) := do
  let t ← visible
  if t.kind = .punctuation .rightBrace then pure (.leave ps)
  else if t.kind = .punctuation .leftBrace then pure (.again ps)
  else if t.kind = .endOfInput || endsList t then
    handBack t
    pure (.leave ps)
  else
    handBack t
    let p ← parameter
    pure (.again (ps ++ p.toList))

def parameterList : Reading (List Parameter) := do
  if ← eat (.punctuation .leftBrace) then rounds listRound [] else pure []

def groupsRound (g : Declarations.Groups) :
    Reading (Round Declarations.Groups Declarations.Groups) := do
  let t ← visible
  if t.kind = .keyword .input then
    let ps ← parameterList
    pure (.again ⟨g.inputs ++ ps, g.outputs⟩)
  else if t.kind = .keyword .output then
    let ps ← parameterList
    pure (.again ⟨g.inputs, g.outputs ++ ps⟩)
  else if t.kind = .punctuation .leftBrace then pure (.again g)
  else
    handBack t
    pure (.leave g)

def groups : Reading Declarations.Groups := rounds groupsRound ⟨[], []⟩

def attr (description : String) : Reading Declaration := do
  let type ← typeName
  let isArray ← arrayMark
  let name ← name
  pure (.attr ⟨description, type, name, isArray⟩)

def method (description : String) : Reading Declaration := do
  let name ← name
  let flag ← eat (.keyword .fireAndForget)
  let body ← groups
  pure (.method ⟨description, name, flag, body.inputs, body.outputs⟩)

def broadcast (description : String) : Reading Declaration := do
  let name ← name
  let flag ← eat (.keyword .selective)
  let body ← groups
  pure (.broadcast ⟨description, name, flag, body.outputs⟩)

def struct (description : String) : Reading Declaration := do
  let name ← name
  let fields ← parameterList
  pure (.struct ⟨description, name, fields⟩)

def typedef (description : String) : Reading Declaration := do
  let name ← name
  linkingWord
  let type ← typeName
  pure (.typedef ⟨description, name, type⟩)

def arrayAlias (description : String) : Reading Declaration := do
  let name ← name
  linkingWord
  let type ← typeName
  pure (.array ⟨description, name, type⟩)

def body (kind : DeclarationKind) (description : String) : Reading Declaration :=
  match kind with
  | .attr => attr description
  | .method => method description
  | .broadcast => broadcast description
  | .struct => struct description
  | .typedef => typedef description
  | .array => arrayAlias description

def declarationRound (_ : Unit) : Reading (Round Unit (Option Declaration)) := do
  let t ← visible
  let (description, t) ← documented t
  if t.kind = .endOfInput then pure (.leave none)
  else
    match opens? t with
    | some kind =>
      let d ← body kind (description.getD "")
      pure (.leave (some d))
    | none =>
      if t.kind = .description then
        handBack t
        pure (.again ())
      else pure (.again ())

def nextDeclaration : Reading (Option Declaration) := rounds declarationRound ()

def declarationsRound (ds : List Declaration) :
    Reading (Round (List Declaration) (List Declaration)) := do
  match ← nextDeclaration with
  | some d => pure (.again (ds ++ [d]))
  | none => pure (.leave ds)

end Declarations

def whole : Reading Definition := do
  let package ← packageClause
  let interface ← interfaceClause
  let ds ← rounds declarationsRound []
  pure (.ofDeclarations package interface ds)

def definition (text : String) : Except Stop Definition :=
  (whole ⟨0, text.toList, none⟩).map Prod.fst

end Busbind.Pushback
