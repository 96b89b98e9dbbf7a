import Busbind.Proofs.Pieces
import Busbind.Proofs.Pushback

/-! A reader with a slot stands in front of tokens as the scan gives them. Reading a token gives the
next of them and takes its bytes from what is left to read, and handing it back puts them there
again; no reading meets a full slot or a loop that gets nowhere. -/
namespace Busbind.Pushback
open Header (nextSignificant)

section Rounds
variable {α β : Type} {round : α → Reading (Round α β)} {a a' : α} {b : β} {r r' : Reader}
variable {s : Stop}

theorem roundsLeave (h : round a r = .ok (.leave b, r')) : rounds round a r = .ok (b, r') := by
  rw [rounds, h]

theorem roundsAgain (h : round a r = .ok (.again a', r')) (less : r'.unread < r.unread) :
    rounds round a r = rounds round a' r' := by
  rw [rounds, h]
  exact if_pos less

theorem roundsStop (h : round a r = .error s) : rounds round a r = .error s := by
  rw [rounds, h]

end Rounds

section Standing
variable {e : Ending} {ts us rest : List Token} {t : Token} {r : Reader} {p : Nat} {cs : List Char}

def trimmed (ts : List Token) : List Token := ts.dropWhile fun t => !t.isSignificant

theorem nextTrimmed (e : Ending) (ts : List Token) :
    nextSignificant e ts = Header.next e (trimmed ts) := by
  induction ts with
  | nil => rfl
  | cons t ts ih =>
    cases visible : t.isSignificant <;> simp [nextSignificant, trimmed, visible]
    · exact ih
    · rfl

inductive Stands (e : Ending) (ts : List Token) : Reader → Prop
  | scanning {us : List Token} {p : Nat} {cs : List Char}
      (scan : Scan.fromPosition p cs = ⟨us, e⟩) (same : trimmed us = trimmed ts) :
      Stands e ts ⟨p, cs, none⟩
  | held {us : List Token} {p : Nat} {cs : List Char} {t : Token}
      (scan : Scan.fromPosition p cs = ⟨us, e⟩) (same : trimmed ts = t :: us)
      (weighs : 0 < t.span.length) (more : t.kind ≠ .endOfInput) : Stands e ts ⟨p, cs, some t⟩
  | ended {p : Nat} (complete : e = .complete p) (same : trimmed ts = []) :
      Stands e ts ⟨p, [], some (Token.endOfInput p)⟩

structure Taken (e : Ending) (ts : List Token) (t : Token) (rest : List Token) (r : Reader) :
    Prop where
  free : r.slot = none
  scan : Scan.fromPosition r.position r.ahead = ⟨rest, e⟩
  token : (ts = t :: rest ∧ 0 < t.span.length ∧ t.kind ≠ .endOfInput) ∨
    (ts = [] ∧ rest = [] ∧ t = Token.endOfInput r.position ∧ r.ahead = [] ∧ e = .complete r.position)

def Reads (e : Ending) (ts : List Token) (bound : Nat) (x : Except Stop (Token × Reader)) : Prop :=
  match Header.next e ts with
  | .error refused => x = .error (.rejected refused)
  | .ok (t, rest) => ∃ r, x = .ok (t, r) ∧ Taken e ts t rest r ∧ r.unread + t.span.length ≤ bound

theorem readsMono {n m : Nat} {x : Except Stop (Token × Reader)} (h : Reads e ts n x)
    (le : n ≤ m) : Reads e ts m x := by
  unfold Reads at h ⊢
  split at h
  · exact h
  · obtain ⟨r, read, taken, less⟩ := h
    exact ⟨r, read, taken, less.trans le⟩

theorem takenStands (taken : Taken e ts t rest r) : Stands e rest r := by
  obtain ⟨free, scan, _⟩ := taken
  cases r
  cases free
  exact .scanning scan rfl

theorem takenWeighs (taken : Taken e ts t rest r) (more : t.kind ≠ .endOfInput) :
    0 < t.span.length := by
  rcases taken.token with ⟨_, weighs, _⟩ | ⟨_, _, rfl, _⟩
  · exact weighs
  · exact absurd rfl more

theorem handBackStands (taken : Taken e (trimmed ts) t rest r) :
    ∃ r', handBack t r = .ok ((), r') ∧ Stands e ts r' ∧ r'.unread = r.unread + t.span.length := by
  obtain ⟨free, scan, token⟩ := taken
  cases r
  cases free
  refine ⟨_, rfl, ?_, rfl⟩
  rcases token with ⟨same, weighs, more⟩ | ⟨same, rfl, rfl, rfl, complete⟩
  · exact .held scan same weighs more
  · exact .ended complete same

theorem cutKind {c : Char} {l : Lexeme} (h : Lexeme.cut? c cs = some l) : l.kind ≠ .endOfInput := by
  intro ends
  have forms := Munch.cutForms h
  rw [ends] at forms
  exact forms

theorem nextReads (scan : Scan.fromPosition p cs = ⟨ts, e⟩) :
    Reads e ts (byteLength cs) (next ⟨p, cs, none⟩) := by
  cases cs with
  | nil =>
    rw [Scan.fromPosition] at scan
    cases scan
    refine ⟨_, rfl, ⟨rfl, by rw [Scan.fromPosition], .inr ⟨rfl, rfl, rfl, rfl, rfl⟩⟩, ?_⟩
    simp [Reader.unread, Token.endOfInput, Span.length, byteLength]
  | cons c cs =>
    cases cut : Lexeme.cut? c cs with
    | none =>
      rw [Piece.fromPositionStuck cut] at scan
      cases scan
      simp [Reads, Header.next, next, cut]
    | some l =>
      rw [Piece.fromPositionCut cut] at scan
      cases scan
      have tiles := Lexeme.cutTiles cut
      have covers := byteLengthPositive tiles.2
      have all : byteLength l.covered + byteLength l.rest = byteLength (c :: cs) := by
        rw [← byteLengthAppend, tiles.1]
      refine ⟨_, by simp only [next, cut]; rfl, ⟨rfl, rfl, .inl ⟨rfl, ?_, cutKind cut⟩⟩, ?_⟩
      · simp only [Span.length, Lexeme.piece]
        omega
      · simp only [Reader.unread, Span.length, Lexeme.piece, Option.map_none, Option.getD_none]
        omega

theorem trimmedVisible (h : trimmed ts = t :: us) : t.kind ≠ .whitespace := by
  have head := List.head?_dropWhile_not (fun t => !t.isSignificant) ts
  rw [show ts.dropWhile (fun t => !t.isSignificant) = t :: us from h] at head
  simpa [Token.isSignificant] using head

theorem visibleRoundRead {r' : Reader} (h : next r = .ok (t, r')) :
    visibleRound () r = .ok (if t.kind = .whitespace then .again () else .leave t, r') := by
  simp only [visibleRound, bind, StateT.bind, h, Except.bind]
  split <;> rfl

theorem visibleRoundStop {s : Stop} (h : next r = .error s) : visibleRound () r = .error s := by
  simp only [visibleRound, bind, StateT.bind, h, Except.bind]

theorem visibleNow {r' : Reader} (h : next r = .ok (t, r')) (visible' : t.kind ≠ .whitespace) :
    visible r = .ok (t, r') := by
  have round := visibleRoundRead h
  rw [if_neg visible'] at round
  exact roundsLeave round

theorem visibleScans (scan : Scan.fromPosition p cs = ⟨us, e⟩) :
    Reads e (trimmed us) (byteLength cs) (visible ⟨p, cs, none⟩) := by
  induction us generalizing p cs with
  | nil =>
    have reads := nextReads scan
    cases e with
    | unclosed span => exact roundsStop (visibleRoundStop reads)
    | complete q =>
      obtain ⟨r, read, taken, less⟩ := reads
      exact ⟨r, visibleNow read nofun, taken, less⟩
  | cons u us ih =>
    obtain ⟨⟨q, ds, slot⟩, read, taken, less⟩ := nextReads scan
    cases taken.free
    by_cases space : u.kind = .whitespace
    · have round := visibleRoundRead read
      rw [if_pos space] at round
      have weighs : 0 < u.span.length := by
        rcases taken.token with ⟨_, weighs, _⟩ | ⟨none, _⟩
        · exact weighs
        · contradiction
      have shorter : byteLength ds + u.span.length ≤ byteLength cs := less
      have front : trimmed (u :: us) = trimmed us := by simp [trimmed, Token.isSignificant, space]
      have skipped : visible ⟨p, cs, none⟩ = visible ⟨q, ds, none⟩ :=
        roundsAgain round (show byteLength ds < byteLength cs by omega)
      have reads := ih taken.scan
      rw [front, skipped]
      exact readsMono reads (show byteLength ds ≤ byteLength cs by omega)
    · have front : trimmed (u :: us) = u :: us := by simp [trimmed, Token.isSignificant, space]
      rw [front]
      exact ⟨_, visibleNow read space, taken, less⟩

theorem visibleReads (stands : Stands e ts r) : Reads e (trimmed ts) r.unread (visible r) := by
  cases stands with
  | scanning scan same =>
    rw [← same]
    exact visibleScans scan
  | @held us p cs t scan same weighs more =>
    rw [same]
    refine ⟨⟨p, cs, none⟩, visibleNow rfl (trimmedVisible same), ?_, le_rfl⟩
    exact ⟨rfl, scan, .inl ⟨rfl, weighs, more⟩⟩
  | @ended p complete same =>
    subst complete
    rw [same]
    refine ⟨⟨p, [], none⟩, visibleNow rfl nofun, ?_, le_rfl⟩
    exact ⟨rfl, by rw [Scan.fromPosition], .inr ⟨rfl, rfl, rfl, rfl, rfl⟩⟩

end Standing

/-- A reading ends with a result or refuses the text. It meets no full slot and no stalled loop. -/
def Ends {α : Type} (x : Except Stop (α × Reader)) (refuses : Rejection → Prop)
    (post : α → Reader → Prop) : Prop :=
  match x with
  | .ok (a, r) => post a r
  | .error (.rejected q) => refuses q
  | .error .slotTaken | .error .stalled => False

section Ending
variable {α β : Type} {e : Ending} {ts rest : List Token} {t : Token} {r : Reader}
variable {refuses : Rejection → Prop} {post : β → Reader → Prop}

theorem endsBind {x : Reading α} {k : α → Reading β} {refuses' : Rejection → Prop}
    {first : α → Reader → Prop} (h : Ends (x r) refuses' first)
    (fails : ∀ q, refuses' q → refuses q)
    (goes : ∀ a r', first a r' → Ends (k a r') refuses post) :
    Ends ((x >>= k) r) refuses post := by
  change Ends (x r >>= fun y => k y.1 y.2) refuses post
  cases read : x r with
  | ok y =>
    rw [read] at h
    exact goes y.1 y.2 h
  | error s =>
    rw [read] at h
    cases s with
    | rejected q => exact fails q h
    | slotTaken => exact h
    | stalled => exact h

theorem endsRounds {round : α → Reading (Round α β)} {a : α}
    (h : Ends (round a r) refuses fun o r' => match o with
      | .leave b => post b r'
      | .again a' => r'.unread < r.unread ∧ Ends (rounds round a' r') refuses post) :
    Ends (rounds round a r) refuses post := by
  cases read : round a r with
  | error s =>
    rw [read] at h
    rw [roundsStop read]
    cases s <;> exact h
  | ok y =>
    obtain ⟨o, r'⟩ := y
    rw [read] at h
    cases o with
    | leave b =>
      rw [roundsLeave read]
      exact h
    | again a' =>
      rw [roundsAgain read h.1]
      exact h.2

theorem nextThen {k : Token → Reading β} {p : Nat} {cs : List Char}
    (scan : Scan.fromPosition p cs = ⟨ts, e⟩) (fails : ∀ q, Header.next e ts = .error q → refuses q)
    (goes : ∀ t rest r', Header.next e ts = .ok (t, rest) → Taken e ts t rest r' →
      r'.unread + t.span.length ≤ byteLength cs → Ends (k t r') refuses post) :
    Ends ((next >>= k) ⟨p, cs, none⟩) refuses post := by
  have reads := nextReads scan
  unfold Reads at reads
  change Ends (next _ >>= fun y => k y.1 y.2) refuses post
  split at reads
  · rename_i q read
    rw [reads]
    exact fails q read
  · rename_i t rest read
    obtain ⟨r', read', taken, less⟩ := reads
    rw [read']
    exact goes t rest r' read taken less

theorem visibleThen {k : Token → Reading β} (stands : Stands e ts r)
    (fails : ∀ q, nextSignificant e ts = .error q → refuses q)
    (goes : ∀ t rest r', nextSignificant e ts = .ok (t, rest) → Taken e (trimmed ts) t rest r' →
      r'.unread + t.span.length ≤ r.unread → Ends (k t r') refuses post) :
    Ends ((visible >>= k) r) refuses post := by
  have reads := visibleReads stands
  unfold Reads at reads
  rw [← nextTrimmed] at reads
  change Ends (visible r >>= fun y => k y.1 y.2) refuses post
  split at reads
  · rename_i q next
    rw [reads]
    exact fails q next
  · rename_i t rest next
    obtain ⟨r', read, taken, less⟩ := reads
    rw [read]
    exact goes t rest r' next taken less

theorem handBackThen {k : Unit → Reading β} (taken : Taken e (trimmed ts) t rest r)
    (goes : ∀ r', Stands e ts r' → r'.unread = r.unread + t.span.length →
      Ends (k () r') refuses post) :
    Ends ((handBack t >>= k) r) refuses post := by
  obtain ⟨r', back, stands, same⟩ := handBackStands taken
  change Ends (handBack t r >>= fun y => k y.1 y.2) refuses post
  rw [back]
  exact goes r' stands same

theorem eatThen {k : Bool → Reading β} {kind : TokenKind} (stands : Stands e ts r)
    (proper : kind ≠ .endOfInput) (fails : ∀ q, nextSignificant e ts = .error q → refuses q)
    (used : ∀ t rest r', nextSignificant e ts = .ok (t, rest) → t.kind = kind →
      Stands e rest r' → r'.unread < r.unread → Ends (k true r') refuses post)
    (left : ∀ t rest r', nextSignificant e ts = .ok (t, rest) → t.kind ≠ kind →
      Stands e ts r' → r'.unread ≤ r.unread → Ends (k false r') refuses post) :
    Ends ((eat kind >>= k) r) refuses post := by
  rw [eat, takeIf, bind_assoc]
  refine visibleThen stands fails fun t rest r' next taken less => ?_
  by_cases same : t.kind = kind
  · rw [if_pos (beq_iff_eq.2 same), pure_bind]
    have weighs := takenWeighs taken (by rwa [same])
    exact used t rest r' next same (takenStands taken) (by omega)
  · rw [if_neg (by simpa using same), bind_assoc]
    refine handBackThen taken fun r'' back weighs => ?_
    exact left t rest r'' next same back (by omega)

theorem documentedThen {k : Option String × Token → Reading β}
    (plain : t.kind ≠ .description → Ends (k (none, t) r) refuses post)
    (described : t.kind = .description →
      Ends ((visible >>= fun u => k (some t.literal, u)) r) refuses post) :
    Ends ((documented t >>= k) r) refuses post := by
  by_cases kind : t.kind = .description
  · rw [documented, if_pos kind, bind_assoc]
    simp only [pure_bind]
    exact described kind
  · rw [documented, if_neg kind, pure_bind]
    exact plain kind

def Yields (e : Ending) (bound : Nat) (x : Except Stop (α × Reader))
    (read : Except Rejection (α × List Token)) : Prop :=
  Ends x (fun q => read = .error q) fun a r =>
    ∃ ts, read = .ok (a, ts) ∧ Stands e ts r ∧ r.unread ≤ bound

theorem yieldsBind {x : Reading α} {k : α → Reading β} {n m : Nat}
    {f : Except Rejection (α × List Token)} {g : α × List Token → Except Rejection (β × List Token)}
    (first : Yields e n (x r) f)
    (goes : ∀ a ts r', f = .ok (a, ts) → Stands e ts r' → r'.unread ≤ n →
      Yields e m (k a r') (g (a, ts))) :
    Yields e m ((x >>= k) r) (f >>= g) := by
  refine endsBind first (fun q fails => by rw [fails]; rfl) fun a r' read => ?_
  obtain ⟨ts, read, stands, less⟩ := read
  rw [read]
  exact goes a ts r' read stands less

theorem yieldsMono {x : Except Stop (α × Reader)} {read : Except Rejection (α × List Token)}
    {n m : Nat} (h : Yields e n x read) (le : n ≤ m) : Yields e m x read := by
  unfold Yields Ends at h ⊢
  split at h
  · obtain ⟨ts, read, stands, less⟩ := h
    exact ⟨ts, read, stands, less.trans le⟩
  · exact h
  · exact h
  · exact h

end Ending

end Busbind.Pushback
