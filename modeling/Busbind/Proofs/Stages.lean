import Busbind.Proofs.Openings

/-! Where each token of the declarations stands. One walk over the tokens, with no reader in it,
knows behind each token which part of a declaration may come next: the name and the flag of a method
or broadcast and then its groups, the name of a struct and then its fields, the name of an alias and
then the token in linking position. A list goes from its opening brace to the first closing brace
behind it, or to the next opening keyword. Two things are noted on the way: each opening keyword with
the documentation directly before it, and each type in a list with the descriptions directly before
it. -/
namespace Busbind.Stages
open Declarations Openings

inductive Slot
  | input
  | output
  | field
  deriving DecidableEq, Repr

inductive Point
  | vacant
  | typed
  | bracketed
  | arrayed
  | changing
  deriving DecidableEq, Repr

namespace Point

def marked (t : Token) : Point :=
  if t.kind = .punctuation .circumflex then .changing else .vacant

def next : Point → Token → Point
  | .vacant, t => if t.kind = .identifier then .typed else .vacant
  | .typed, t => if t.kind = .punctuation .leftBracket then .bracketed else marked t
  | .bracketed, t => if t.kind = .punctuation .rightBracket then .arrayed else marked t
  | .arrayed, t => marked t
  | .changing, _ => .vacant

end Point

/-- Where a walk stands: apart from every declaration, where a part of one may come, or in a
list. -/
inductive Stage
  | apart
  | named
  | linking
  | titled (flag : Keyword)
  | flagged (flag : Keyword)
  | grouped
  | labelled
  | due (slot : Slot)
  | inside (slot : Slot) (point : Point)
  deriving DecidableEq, Repr

namespace Stage

def begun : DeclarationKind → Stage
  | .attr => .apart
  | .method => .titled .fireAndForget
  | .broadcast => .titled .selective
  | .struct => .labelled
  | .typedef | .array => .named

def place : Stage → Place
  | .named => .named
  | .linking => .linking
  | _ => .free

def closed : Slot → Stage
  | .input | .output => .grouped
  | .field => .apart

def grouping (t : Token) : Stage :=
  if t.kind = .keyword .input then .due .input
  else if t.kind = .keyword .output then .due .output
  else if t.kind = .punctuation .leftBrace then .grouped
  else .apart

def listing (slot : Slot) (t : Token) : Stage :=
  if t.kind = .punctuation .leftBrace then .inside slot .vacant
  else
    match slot with
    | .input | .output => grouping t
    | .field => .apart

def within : Stage → Token → Stage
  | .apart, _ | .linking, _ => .apart
  | .named, t => if t.kind.isName then .linking else .apart
  | .titled flag, t => if t.kind.isName then .flagged flag else grouping t
  | .flagged flag, t => if t.kind = .keyword flag then .grouped else grouping t
  | .grouped, t => grouping t
  | .labelled, t => if t.kind.isName then .due .field else listing .field t
  | .due slot, t => listing slot t
  | .inside slot point, t =>
    if t.kind = .punctuation .rightBrace then closed slot else .inside slot (point.next t)

def next (s : Stage) (t : Token) : Stage :=
  match s.place.opening? t with
  | some kind => begun kind
  | none => s.within t

def walk (s : Stage) (ts : List Token) : Stage := ts.foldl next s

/-- A description documents the declaration behind it unless it stands in a list or in linking
position. -/
def listens : Stage → Bool
  | .named | .linking | .inside _ _ => false
  | _ => true

def hears (s : Stage) (t : Token) : String :=
  if s.listens ∧ t.kind = .description then t.literal else ""

def begins? : Stage → Token → Option Slot
  | .inside slot .vacant, t => if t.kind = .identifier then some slot else none
  | _, _ => none

end Stage

structure Opening where
  kind : DeclarationKind
  documentation : String
  rest : List Token
  deriving DecidableEq, Repr

open Stage

def opened : Stage → String → List Token → List Opening
  | _, _, [] => []
  | s, heard, t :: ts =>
    match s.place.opening? t with
    | some kind => ⟨kind, heard, ts⟩ :: opened (begun kind) "" ts
    | none => opened (s.within t) (s.hears t) ts

structure Mention where
  slot : Slot
  run : List Token
  type : Token
  deriving DecidableEq, Repr

def grown (run : List Token) (t : Token) : List Token :=
  if t.kind = .description then run ++ [t] else []

def mentions : Stage → List Token → List Token → List Mention
  | _, _, [] => []
  | s, run, t :: ts =>
    match s.place.opening? t with
    | some _ => []
    | none =>
      match s.begins? t with
      | some slot => ⟨slot, run, t⟩ :: mentions (s.within t) (grown run t) ts
      | none => mentions (s.within t) (grown run t) ts

structure Alike (s s' : Stage) (t : Token) : Prop where
  free : s.place = .free ∧ s'.place = .free
  same : opens? t = none →
    s.within t = s'.within t ∧ s.listens = s'.listens ∧ s.begins? t = s'.begins? t

inductive Leads : Stage → List Token → Stage → List Token → Prop
  | ended (s s' : Stage) : Leads s [] s' []
  | alike {s s' : Stage} {t : Token} (same : Alike s s' t) (ts : List Token) :
      Leads s (t :: ts) s' (t :: ts)
  | taken {s : Stage} {t : Token} (closed : opens? t = none) (plain : t.kind ≠ .description)
      (silent : s.begins? t = none) (ts : List Token) : Leads s (t :: ts) (s.within t) ts
  | trans {s s' s'' : Stage} {ts us vs : List Token} (first : Leads s ts s' us)
      (second : Leads s' us s'' vs) : Leads s ts s'' vs

section Walk
variable {s s' : Stage} {t : Token} {ts us : List Token}

theorem begunPlace (kind : DeclarationKind) : (begun kind).place = Place.after kind := by
  cases kind <;> rfl

theorem groupingPlace (t : Token) : (grouping t).place = .free := by
  unfold grouping
  split_ifs <;> rfl

theorem listingPlace (slot : Slot) (t : Token) : (listing slot t).place = .free := by
  unfold listing
  split_ifs
  · rfl
  · cases slot <;> first | exact groupingPlace t | rfl

theorem withinFree (free : s.place = .free) (t : Token) : (s.within t).place = .free := by
  cases s with
  | apart => rfl
  | named | linking => contradiction
  | titled flag => rw [Stage.within, apply_ite place, groupingPlace]; exact ite_self _
  | flagged flag => rw [Stage.within, apply_ite place, groupingPlace]; exact ite_self _
  | grouped => exact groupingPlace t
  | labelled => rw [Stage.within, apply_ite place, listingPlace]; exact ite_self _
  | due slot => exact listingPlace slot t
  | inside slot point => rw [Stage.within, apply_ite place]; cases slot <;> exact ite_self _

theorem nextPlace (s : Stage) (t : Token) : (s.next t).place = s.place.next t := by
  cases place : s.place with
  | free =>
    cases opens : opens? t with
    | some kind => simp [Stage.next, place, Place.opening?, Place.next, opens, begunPlace]
    | none => simp [Stage.next, place, Place.opening?, Place.next, opens, withinFree place]
  | named =>
    cases s <;> cases place
    by_cases name : t.kind.isName = true <;>
      simp [Stage.next, Stage.place, Place.opening?, Place.next, Stage.within, name]
  | linking => cases s <;> cases place; rfl

theorem closedOpens (closed : opens? t = none) (s : Stage) : s.place.opening? t = none := by
  cases h : s.place <;> simp [Place.opening?, closed]

theorem openedOn (closed : s.place.opening? t = none) (heard : String) (ts : List Token) :
    opened s heard (t :: ts) = opened (s.within t) (s.hears t) ts := by
  rw [opened, closed]

theorem hearsPlain (plain : t.kind ≠ .description) (s : Stage) : s.hears t = "" := by
  simp [hears, plain]

theorem openedAlike (same : Alike s s' t) (heard : String) (ts : List Token) :
    opened s heard (t :: ts) = opened s' heard (t :: ts) := by
  obtain ⟨⟨free, free'⟩, same⟩ := same
  rw [opened, opened, free, free']
  cases opens : opens? t with
  | some kind => simp [Place.opening?, opens]
  | none =>
    obtain ⟨within, listens, -⟩ := same opens
    simp [Place.opening?, opens, within, hears, listens]

theorem mentionsAlike (same : Alike s s' t) (run ts : List Token) :
    mentions s run (t :: ts) = mentions s' run (t :: ts) := by
  obtain ⟨⟨free, free'⟩, same⟩ := same
  rw [mentions, mentions, free, free']
  cases opens : opens? t with
  | some kind => simp [Place.opening?, opens]
  | none =>
    obtain ⟨within, -, begins⟩ := same opens
    simp [Place.opening?, opens, within, begins]

theorem openedLeads (leads : Leads s ts s' us) : opened s "" ts = opened s' "" us := by
  induction leads with
  | ended => rfl
  | alike same ts => exact openedAlike same "" ts
  | taken closed plain _ ts =>
    rw [openedOn (closedOpens closed _), hearsPlain plain]
  | trans _ _ first second => exact first.trans second

theorem mentionsLeads (leads : Leads s ts s' us) : mentions s [] ts = mentions s' [] us := by
  induction leads with
  | ended => rfl
  | alike same ts => exact mentionsAlike same [] ts
  | @taken s t closed plain silent ts =>
    rw [mentions, closedOpens closed, silent]
    simp [grown, plain]
  | trans _ _ first second => exact first.trans second

end Walk

section Readers
variable {s s' : Stage} {ts : List Token}

theorem nameCloses {t : Token} (isName : t.kind.isName = true) : opens? t = none := by
  by_contra opens
  obtain ⟨k, kind, role⟩ := barrierHead opens
  simp [kind, TokenKind.isName, role] at isName

theorem nameLeads
    (takes : ∀ t, t.kind.isName = true → s.within t = s' ∧ s.begins? t = none)
    (leaves : ∀ t, t.kind.isName ≠ true → Alike s s' t) (ts : List Token) :
    Leads s ts s' (name ts).2 := by
  cases ts with
  | nil => exact .ended s s'
  | cons t ts =>
    by_cases isName : t.kind.isName = true
    · obtain ⟨moved, silent⟩ := takes t isName
      have plain : t.kind ≠ .description := fun kind => by simp [kind, TokenKind.isName] at isName
      simpa [name, isName, moved] using Leads.taken (nameCloses isName) plain silent ts
    · simpa [name, isName] using Leads.alike (leaves t isName) ts

theorem markLeads {kind : TokenKind} (plain : kind ≠ .description)
    (closed : ∀ t, t.kind = kind → opens? t = none)
    (takes : ∀ t, t.kind = kind → s.within t = s' ∧ s.begins? t = none)
    (leaves : ∀ t, t.kind ≠ kind → Alike s s' t) (ts : List Token) :
    Leads s ts s' (mark kind ts).2 := by
  cases ts with
  | nil => exact .ended s s'
  | cons t ts =>
    by_cases same : t.kind = kind
    · obtain ⟨moved, silent⟩ := takes t same
      simpa [mark, same, moved] using Leads.taken (closed t same) (same ▸ plain) silent ts
    · simpa [mark, same] using Leads.alike (leaves t same) ts

theorem titledLeads {flag : Keyword} (isName : (TokenKind.keyword flag).isName = true)
    (ts : List Token) : Leads (.titled flag) ts (.flagged flag) (name ts).2 := by
  refine nameLeads (fun t taken => by simp [Stage.within, taken, begins?]) (fun t left => ?_) ts
  have other : t.kind ≠ .keyword flag := fun same => left (same ▸ isName)
  exact ⟨⟨rfl, rfl⟩, fun _ => ⟨by simp [Stage.within, left, other], rfl, rfl⟩⟩

theorem flaggedLeads {flag : Keyword} (isName : (TokenKind.keyword flag).isName = true)
    (ts : List Token) : Leads (.flagged flag) ts .grouped (mark (.keyword flag) ts).2 := by
  refine markLeads (by simp) (fun t same => nameCloses (same ▸ isName)) (fun t taken => ?_)
    (fun t left => ?_) ts
  · simp [Stage.within, taken, begins?]
  · exact ⟨⟨rfl, rfl⟩, fun _ => ⟨by simp [Stage.within, left], rfl, rfl⟩⟩

theorem labelledLeads (ts : List Token) : Leads .labelled ts (.due .field) (name ts).2 := by
  refine nameLeads (fun t taken => ?_) (fun t left => ?_) ts
  · simp [Stage.within, taken, begins?]
  · exact ⟨⟨rfl, rfl⟩, fun _ => ⟨by simp [Stage.within, left], rfl, rfl⟩⟩

theorem punctuationCloses (p : Punctuation) (t : Token) (kind : t.kind = .punctuation p) :
    opens? t = none := by
  simp [opens?, kind]

theorem openingAlike {t : Token} (opens : opens? t ≠ none) (free : s.place = .free)
    (free' : s'.place = .free) : Alike s s' t :=
  ⟨⟨free, free'⟩, fun none => absurd none opens⟩

theorem closedPlace (slot : Slot) : (closed slot).place = .free := by
  cases slot <;> rfl

theorem endsOpens {t : Token} (ends : endsList t = true) : opens? t ≠ none := by
  unfold endsList TokenKind.startsDeclaration at ends
  split at ends
  · rename_i k kind
    have declares := (DeclarationKind.opensIffDeclaration k).trans ends
    simpa [opens?, kind, Option.isSome_iff_ne_none] using declares
  · contradiction

theorem goesCloses {t : Token} (goes : ¬endsList t = true) : opens? t = none := by
  by_contra opens
  obtain ⟨k, kind, role⟩ := barrierHead opens
  simp [endsList, TokenKind.startsDeclaration, kind, role] at goes

section Parameter
variable (slot : Slot)

theorem insideAlike {p q : Point} (vacant : p ≠ .vacant) (vacant' : q ≠ .vacant) {t : Token}
    (same : p.next t = q.next t) : Alike (.inside slot p) (.inside slot q) t where
  free := ⟨rfl, rfl⟩
  same _ := ⟨by simp [Stage.within, same], rfl,
    by cases p <;> cases q <;> first | contradiction | rfl⟩

theorem pointLeads {p q : Point} {m : Punctuation} (vacant : p ≠ .vacant) (vacant' : q ≠ .vacant)
    (open' : m ≠ .rightBrace) (takes : ∀ t, t.kind = .punctuation m → p.next t = q)
    (leaves : ∀ t, t.kind ≠ .punctuation m → p.next t = q.next t) (ts : List Token) :
    Leads (.inside slot p) ts (.inside slot q) (mark (.punctuation m) ts).2 := by
  refine markLeads (by simp) (punctuationCloses m) (fun t taken => ⟨?_, ?_⟩)
    (fun t left => insideAlike slot vacant vacant' (leaves t left)) ts
  · simp [Stage.within, taken, takes t taken, open']
  · cases p <;> first | contradiction | rfl

theorem arrayMarkLeads (ts : List Token) :
    Leads (.inside slot .typed) ts (.inside slot .arrayed) (arrayMark ts).2 := by
  cases ts with
  | nil => exact .ended _ _
  | cons t ts =>
    by_cases bracket : t.kind = .punctuation .leftBracket
    · have moved : (Stage.inside slot .typed).within t = .inside slot .bracketed := by
        simp [Stage.within, Point.next, bracket]
      have opening : Leads (.inside slot .typed) (t :: ts)
          ((Stage.inside slot .typed).within t) ts :=
        .taken (punctuationCloses _ t bracket) (by simp [bracket]) rfl ts
      have closing : Leads (.inside slot .bracketed) ts (.inside slot .arrayed)
          (mark (.punctuation .rightBracket) ts).2 :=
        pointLeads slot (by simp) (by simp) (by simp) (fun t taken => by simp [Point.next, taken])
          (fun t left => by simp [Point.next, left]) ts
      simpa [arrayMark, mark, bracket] using (moved ▸ opening).trans closing
    · have same : Point.typed.next t = Point.arrayed.next t := by simp [Point.next, bracket]
      have alike : Alike (.inside slot .typed) (.inside slot .arrayed) t :=
        insideAlike slot (by simp) (by simp) same
      simpa [arrayMark, mark, bracket] using Leads.alike alike ts

theorem changeLeads (ts : List Token) : Leads (.inside slot .arrayed) ts (.inside slot .changing)
    (mark (.punctuation .circumflex) ts).2 :=
  pointLeads slot (by simp) (by simp) (by simp)
    (fun t taken => by simp [Point.next, Point.marked, taken])
    (fun t left => by simp [Point.next, Point.marked, left]) ts

theorem nameInsideLeads (ts : List Token) :
    Leads (.inside slot .changing) ts (.inside slot .vacant) (name ts).2 := by
  refine nameLeads (fun t taken => ⟨?_, rfl⟩) (fun t left => ?_) ts
  · have open' : t.kind ≠ .punctuation .rightBrace := fun kind => by
      simp [kind, TokenKind.isName] at taken
    simp [Stage.within, open', Point.next]
  · have untyped : t.kind ≠ .identifier := fun kind => left (by simp [kind, TokenKind.isName])
    exact ⟨⟨rfl, rfl⟩, fun _ => ⟨by simp [Stage.within, Point.next, untyped], rfl,
      by simp [begins?, untyped]⟩⟩

theorem parameterLeads (description type : String) (ts : List Token) :
    Leads (.inside slot .typed) ts (.inside slot .vacant) (parameter description type ts).2 :=
  (arrayMarkLeads slot ts).trans ((changeLeads slot _).trans (nameInsideLeads slot _))

end Parameter

section Groups
variable {t : Token}

theorem dueAlike (slot : Slot) (missing : t.kind ≠ .punctuation .leftBrace) :
    Alike (.due slot) (closed slot) t where
  free := ⟨rfl, closedPlace slot⟩
  same _ := by cases slot <;> simp [Stage.within, listing, missing, closed, listens, begins?]

theorem groupsAlike (input : t.kind ≠ .keyword .input) (output : t.kind ≠ .keyword .output)
    (brace : t.kind ≠ .punctuation .leftBrace) : Alike .grouped .apart t :=
  ⟨⟨rfl, rfl⟩, fun _ => ⟨by simp [Stage.within, grouping, input, output, brace], rfl, rfl⟩⟩

theorem groupLeads (closed : opens? t = none) (plain : t.kind ≠ .description)
    (moved : grouping t = s) (ts : List Token) : Leads .grouped (t :: ts) s ts := by
  have taken : Leads .grouped (t :: ts) (Stage.grouped.within t) ts := .taken closed plain rfl ts
  exact moved ▸ taken

theorem inputLeads (input : t.kind = .keyword .input) (ts : List Token) :
    Leads .grouped (t :: ts) (.due .input) ts :=
  groupLeads (by simp [opens?, input, DeclarationKind.ofKeyword?]) (by simp [input])
    (by simp [grouping, input]) ts

theorem outputLeads (output : t.kind = .keyword .output) (ts : List Token) :
    Leads .grouped (t :: ts) (.due .output) ts :=
  groupLeads (by simp [opens?, output, DeclarationKind.ofKeyword?]) (by simp [output])
    (by simp [grouping, output]) ts

theorem braceLeads (brace : t.kind = .punctuation .leftBrace) (ts : List Token) :
    Leads .grouped (t :: ts) .grouped ts :=
  groupLeads (punctuationCloses _ t brace) (by simp [brace]) (by simp [grouping, brace]) ts

end Groups

section Apart

theorem apartAlike (t : Token) : Alike .apart .apart t :=
  ⟨⟨rfl, rfl⟩, fun _ => ⟨rfl, rfl, rfl⟩⟩

theorem nameApartLeads (ts : List Token) : Leads .apart ts .apart (name ts).2 :=
  nameLeads (fun _ _ => ⟨rfl, rfl⟩) (fun t _ => apartAlike t) ts

theorem markApartLeads (p : Punctuation) (ts : List Token) :
    Leads .apart ts .apart (mark (.punctuation p) ts).2 :=
  markLeads (by simp) (punctuationCloses p) (fun _ _ => ⟨rfl, rfl⟩) (fun t _ => apartAlike t) ts

theorem arrayMarkApartLeads (ts : List Token) : Leads .apart ts .apart (arrayMark ts).2 := by
  have opening := markApartLeads .leftBracket ts
  unfold arrayMark
  generalize mark (.punctuation .leftBracket) ts = read at opening ⊢
  rcases read with ⟨_ | _, rest⟩
  · exact opening
  · exact opening.trans (markApartLeads .rightBracket rest)

theorem typeNameApartLeads (ts : List Token) : Leads .apart ts .apart (typeName ts).2 := by
  cases ts with
  | nil => exact .ended _ _
  | cons t ts =>
    by_cases kind : t.kind = .identifier
    · rw [typeName, if_pos kind]
      exact .taken (by simp [opens?, kind]) (by simp [kind]) rfl ts
    · simpa [typeName, kind] using Leads.alike (apartAlike t) ts

theorem attrLeads (description : String) (ts : List Token) :
    Leads .apart ts .apart (attr description ts).2 :=
  (typeNameApartLeads ts).trans ((arrayMarkApartLeads _).trans (nameApartLeads _))

end Apart

end Readers

end Busbind.Stages
