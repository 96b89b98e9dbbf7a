import Mathlib.Data.List.Basic
import Busbind.Json
import Busbind.Proofs.Munch
import Busbind.Proofs.QuotedText
import Busbind.Proofs.VersionValue

/-! Structured text as symbols: brackets, commas, colons, texts and words, with blanks between them.
A text is read with its escapes, of which two in a row can stand for one character. A word is a
constant or a decimal number. Of the numbers only the natural ones are taken: a structured value has
no others. -/
namespace Busbind.Json
open Text (hexValue? hexValueDigit)

inductive Symbol
  | openList
  | closeList
  | openRecord
  | closeRecord
  | comma
  | colon
  | text (s : String)
  | number (n : Nat)
  | bool (b : Bool)
  | null
  deriving DecidableEq, Repr

def shortEscape? : Char → Option Char
  | '"' => some '"'
  | '\\' => some '\\'
  | '/' => some '/'
  | 'b' => some '\x08'
  | 'f' => some '\x0c'
  | 'n' => some '\n'
  | 'r' => some '\r'
  | 't' => some '\t'
  | _ => none

inductive CodeUnit
  | character (c : Char)
  | half (high : Nat)
  deriving DecidableEq, Repr

/-- What a code unit comes to after a first half, if there is one. A half needs its other half. -/
def unit? (high : Option Nat) (value : Nat) : Option CodeUnit :=
  match high with
  | none =>
    if value < 0xd800 ∨ 0xdfff < value then some (.character (Char.ofNat value))
    else if value < 0xdc00 then some (.half value)
    else none
  | some first =>
    if 0xdc00 ≤ value ∧ value ≤ 0xdfff then
      some (.character (Char.ofNat (0x10000 + (first - 0xd800) * 0x400 + (value - 0xdc00))))
    else none

inductive Place
  | plain
  | escape
  | unit (value left : Nat)
  deriving DecidableEq, Repr

def withFirst (c : Char) (read : Option (List Char × List Char)) : Option (List Char × List Char) :=
  read.map fun r => (c :: r.1, r.2)

def textFrom (high : Option Nat) : Place → List Char → Option (List Char × List Char)
  | _, [] => none
  | .plain, c :: cs =>
    if c = '\\' then textFrom high .escape cs
    else if high.isSome ∨ c.toNat < 0x20 then none
    else if c = '"' then some ([], cs)
    else withFirst c (textFrom none .plain cs)
  | .escape, c :: cs =>
    if c = 'u' then textFrom high (.unit 0 3) cs
    else if high.isSome then none
    else
      match shortEscape? c with
      | none => none
      | some e => withFirst e (textFrom none .plain cs)
  | .unit value (left + 1), c :: cs =>
    match hexValue? c with
    | none => none
    | some h => textFrom high (.unit (16 * value + h) left) cs
  | .unit value 0, c :: cs =>
    match (hexValue? c).bind fun h => unit? high (16 * value + h) with
    | none => none
    | some (.half first) => textFrom (some first) .plain cs
    | some (.character e) => withFirst e (textFrom none .plain cs)

example : textFrom none .plain "\\ud83d\\ude00\\t\", 1".toList =
    some (['😀', '\t'], ", 1".toList) := by decide

theorem withFirstSome {c : Char} {read : Option (List Char × List Char)} {text rest : List Char}
    (longer : withFirst c read = some (text, rest)) : ∃ shorter, read = some (shorter, rest) := by
  obtain ⟨⟨shorter, _⟩, read, same⟩ := Option.map_eq_some_iff.1 longer
  cases same
  exact ⟨shorter, read⟩

theorem textShortens {high : Option Nat} {place : Place} {cs text rest : List Char}
    (read : textFrom high place cs = some (text, rest)) : rest.length < cs.length := by
  fun_induction textFrom high place cs generalizing text rest with
  | case1 | case3 | case7 | case8 | case10 | case12 => contradiction
  | case2 | case6 | case11 | case13 =>
    rename_i ih
    exact Nat.lt_succ_of_lt (ih read)
  | case4 =>
    cases read
    exact Nat.lt_succ_self _
  | case5 | case9 | case14 =>
    rename_i ih
    obtain ⟨shorter, read⟩ := withFirstSome read
    exact Nat.lt_succ_of_lt (ih read)

def isGap (c : Char) : Bool := c = ' ' || c = '\t' || c = '\n' || c = '\r'

def mark? : Char → Option Symbol
  | '[' => some .openList
  | ']' => some .closeList
  | '\x7b' => some .openRecord
  | '\x7d' => some .closeRecord
  | ',' => some .comma
  | ':' => some .colon
  | _ => none

def isWordPart (c : Char) : Bool := c.isAlphanum || c = '+' || c = '-' || c = '.'

def natural? (cs : List Char) : Option Nat :=
  if cs ≠ [] ∧ cs.all Char.isDigit = true ∧ (cs.head? = some '0' → cs.length = 1) then
    some (Nat.ofDigitChars 10 cs 0)
  else none

def word? (cs : List Char) : Option Symbol :=
  if cs = "null".toList then some .null
  else if cs = "true".toList then some (.bool true)
  else if cs = "false".toList then some (.bool false)
  else (natural? cs).map .number

def symbols : List Char → Option (List Symbol)
  | [] => some []
  | c :: cs =>
    if isGap c then symbols cs
    else
      match mark? c with
      | some mark => (symbols cs).map (mark :: ·)
      | none =>
        if c = '"' then
          match _ : textFrom none .plain cs with
          | none => none
          | some (s, rest) => (symbols rest).map (Symbol.text (String.ofList s) :: ·)
        else
          match word? ((c :: cs).takeWhile isWordPart) with
          | none => none
          | some word => (symbols (cs.dropWhile isWordPart)).map (word :: ·)
termination_by cs => cs.length
decreasing_by
  · exact Nat.lt_succ_self _
  · exact Nat.lt_succ_self _
  · exact Nat.lt_succ_of_lt (textShortens (by assumption))
  · exact Nat.lt_succ_of_le (List.length_dropWhile_le _ _)

section Texts

theorem textNumbered {c : Char} (control : c.toNat < 0x20) (cs : List Char) :
    textFrom none .plain (['\\', 'u', '0', '0', Nat.digitChar (c.toNat / 16),
      Nat.digitChar (c.toNat % 16)] ++ cs) = withFirst c (textFrom none .plain cs) := by
  have high := hexValueDigit (c.toNat / 16) (by omega)
  have low := hexValueDigit (c.toNat % 16) (by omega)
  have below : c.toNat < 0xd800 := Nat.lt_trans control (by decide)
  have unit : unit? none c.toNat = some (.character c) := by
    simp only [unit?, below, true_or, if_true, Char.ofNat_toNat]
  calc textFrom none .plain _
      = textFrom none (.unit 0 1)
          (Nat.digitChar (c.toNat / 16) :: Nat.digitChar (c.toNat % 16) :: cs) := rfl
    _ = textFrom none (.unit (c.toNat / 16) 0) (Nat.digitChar (c.toNat % 16) :: cs) := by
      simp only [textFrom, high, Nat.mul_zero, Nat.zero_add]
    _ = withFirst c (textFrom none .plain cs) := by
      rw [textFrom, low, Option.bind_some, Nat.div_add_mod, unit]

theorem textEscaped (c : Char) (cs : List Char) :
    textFrom none .plain (escaped c ++ cs) = withFirst c (textFrom none .plain cs) := by
  unfold escaped
  split_ifs with quotes slash backspace formFeed lineFeed carriageReturn tab control
  iterate 7
    subst c
    rfl
  · exact textNumbered control cs
  · simp only [List.singleton_append, textFrom, if_neg slash, if_neg quotes, control,
      Option.isSome_none, Bool.false_eq_true, or_self, if_false]

theorem textQuoted (s : String) (rest : List Char) :
    textFrom none .plain (s.toList.flatMap escaped ++ '"' :: rest) = some (s.toList, rest) := by
  induction s.toList with
  | nil => rfl
  | cons c cs ih => rw [List.flatMap_cons, List.append_assoc, textEscaped, ih]; rfl

end Texts

section Words

theorem wordPartPlain {c : Char} (part : isWordPart c = true) :
    isGap c = false ∧ mark? c = none ∧ c ≠ '"' := by
  refine ⟨?_, ?_, ?_⟩
  · by_contra gap
    simp only [isGap, Bool.not_eq_false, Bool.or_eq_true, decide_eq_true_eq] at gap
    obtain ((rfl | rfl) | rfl) | rfl := gap <;> contradiction
  · unfold mark?
    split
    case h_7 => rfl
    all_goals contradiction
  · rintro rfl
    contradiction

theorem zeroFirst {n : Nat} (zero : (Nat.toDigits 10 n).head? = some '0') : n = 0 := by
  induction n using Nat.strong_induction_on with
  | _ n ih =>
    rcases Nat.lt_or_ge n 10 with small | large
    · rw [Nat.toDigits_of_lt_base small, List.head?_cons, Option.some.injEq] at zero
      exact Nat.digitChar_eq_zero.1 zero
    · rw [Nat.toDigits_of_base_le (by decide) large,
        List.head?_append_of_ne_nil _ Nat.toDigits_ne_nil] at zero
      have tenth := ih (n / 10) (Nat.div_lt_self (by omega) (by decide)) zero
      omega

theorem naturalDecimal (n : Nat) : natural? (toString n).toList = some n := by
  have alone : (toString n).toList.head? = some '0' → (toString n).toList.length = 1 := by
    intro zero
    rw [Nat.toString_eq_ofList_toDigits, String.toList_ofList] at zero ⊢
    rw [zeroFirst zero]
    rfl
  rw [natural?, if_pos ⟨VersionNumber.decimalSome n,
    List.all_eq_true.2 (VersionNumber.decimalDigits n), alone⟩, VersionNumber.decimalValue]

theorem wordDecimal (n : Nat) : word? (toString n).toList = some (.number n) := by
  have other {word : String} (letter : ∃ c ∈ word.toList, c.isDigit = false) :
      (toString n).toList ≠ word.toList := by
    obtain ⟨c, mem, none⟩ := letter
    intro same
    have digit := VersionNumber.decimalDigits n c (same ▸ mem)
    rw [none] at digit
    contradiction
  rw [word?, if_neg (other ⟨'n', by decide, rfl⟩), if_neg (other ⟨'t', by decide, rfl⟩),
    if_neg (other ⟨'f', by decide, rfl⟩), naturalDecimal]
  rfl

end Words

section Reading

theorem symbolsGap {c : Char} (gap : isGap c = true) (cs : List Char) :
    symbols (c :: cs) = symbols cs := by
  rw [symbols, if_pos gap]

theorem symbolsNewline (depth : Nat) (rest : List Char) :
    symbols (newline depth ++ rest) = symbols rest := by
  rw [newline, List.cons_append, symbolsGap rfl]
  induction 2 * depth with
  | zero => rfl
  | succ n ih => rw [List.replicate_succ, List.cons_append, symbolsGap rfl, ih]

theorem symbolsMark {c : Char} {mark : Symbol} (marks : mark? c = some mark) (cs : List Char) :
    symbols (c :: cs) = (symbols cs).map (mark :: ·) := by
  have gap : ¬ isGap c = true := by
    intro gap
    simp only [isGap, Bool.or_eq_true, decide_eq_true_eq] at gap
    obtain ((rfl | rfl) | rfl) | rfl := gap <;> contradiction
  rw [symbols, if_neg gap, marks]

theorem symbolsQuote (s : String) (rest : List Char) :
    symbols (quote s ++ rest) = (symbols rest).map (Symbol.text s :: ·) := by
  have read := textQuoted s rest
  have after : quote s ++ rest = '"' :: (s.toList.flatMap escaped ++ '"' :: rest) := by
    simp [quote]
  have unmarked : mark? '"' = none := rfl
  rw [after, symbols, if_neg (by decide), unmarked]
  simp only [if_true]
  split
  · rename_i failed
    rw [failed] at read
    contradiction
  · rename_i succeeded
    rw [succeeded] at read
    cases read
    rw [String.ofList_toList]

theorem symbolsWord {word rest : List Char} {symbol : Symbol}
    (parts : ∀ c ∈ word, isWordPart c = true)
    (stop : ∀ c, rest.head? = some c → isWordPart c = false) (means : word? word = some symbol) :
    symbols (word ++ rest) = (symbols rest).map (symbol :: ·) := by
  have span := Munch.spanOfRun parts stop
  cases word with
  | nil => simp [word?, natural?] at means
  | cons c cs =>
    have first := parts c List.mem_cons_self
    obtain ⟨gap, mark, quote⟩ := wordPartPlain first
    rw [List.cons_append] at span ⊢
    have ends : (cs ++ rest).dropWhile isWordPart = rest := by
      simpa only [List.dropWhile_cons_of_pos first] using span.2
    rw [symbols, gap, mark, if_neg Bool.false_ne_true, if_neg quote, span.1, means, ends]

def ReadsAs (cs : List Char) (ss : List Symbol) : Prop :=
  ∀ rest : List Char, (∀ c, rest.head? = some c → isWordPart c = false) →
    symbols (cs ++ rest) = (symbols rest).map (ss ++ ·)

theorem wordRead {word : List Char} {symbol : Symbol} (parts : word.all isWordPart = true)
    (means : word? word = some symbol) : ReadsAs word [symbol] :=
  fun _ stop => symbolsWord (List.all_eq_true.1 parts) stop means

theorem quoteRead (s : String) : ReadsAs (quote s) [.text s] :=
  fun rest _ => symbolsQuote s rest

theorem numberRead (n : Nat) : ReadsAs (toString n).toList [.number n] := by
  refine wordRead (List.all_eq_true.2 fun c mem => ?_) (wordDecimal n)
  simp [isWordPart, Char.isAlphanum, VersionNumber.decimalDigits n c mem]

theorem fieldRead {value : List Char} {ss : List Symbol} (key : String)
    (read : ReadsAs value ss) :
    ReadsAs (quote key ++ ':' :: ' ' :: value) (.text key :: .colon :: ss) := by
  intro rest stop
  rw [List.append_assoc, symbolsQuote, List.cons_append, symbolsMark rfl, List.cons_append,
    symbolsGap rfl, read rest stop, Option.map_map, Option.map_map]
  rfl

end Reading

section Values

def enclosed (opening closing : Symbol) (parts : List (List Symbol)) : List Symbol :=
  opening :: (parts.intersperse [.comma]).flatten ++ [closing]

mutual

def symbolsOf : Json → List Symbol
  | .null => [.null]
  | .bool b => [.bool b]
  | .number n => [.number n]
  | .text s => [.text s]
  | .list items => enclosed .openList .closeList (itemSymbols items)
  | .record fields => enclosed .openRecord .closeRecord (fieldSymbols fields)

def itemSymbols : List Json → List (List Symbol)
  | [] => []
  | j :: js => symbolsOf j :: itemSymbols js

def fieldSymbols : List (String × Json) → List (List Symbol)
  | [] => []
  | (key, j) :: rest => (.text key :: .colon :: symbolsOf j) :: fieldSymbols rest

end

variable {items : List (List Char)} {parts : List (List Symbol)}

theorem linesRead (depth : Nat) (each : List.Forall₂ ReadsAs items parts) :
    ReadsAs ((items.map fun i => newline depth ++ i).intersperse [',']).flatten
      (parts.intersperse [.comma]).flatten := by
  induction each with
  | nil => exact fun rest _ => by simp
  | @cons item part items parts first later ih =>
    intro rest stop
    cases later with
    | nil => simpa [symbolsNewline] using first rest stop
    | cons _ _ =>
      -- The comma ends the item.
      have comma {more : List Char} :
          symbols (newline depth ++ item ++ ',' :: more) =
            (symbols more).map fun ss => part ++ .comma :: ss := by
        rw [List.append_assoc, symbolsNewline, first _ (by rintro _ ⟨⟩; rfl), symbolsMark rfl,
          Option.map_map]
        rfl
      simp only [List.map_cons, List.intersperse_cons_cons, List.flatten_cons,
        List.append_assoc, List.cons_append, List.nil_append] at ih ⊢
      rw [← List.append_assoc, comma, ih rest stop, Option.map_map]
      rfl

theorem encloseRead {opening closing : Char} {opens closes : Symbol} (depth : Nat)
    (first : mark? opening = some opens) (last : mark? closing = some closes)
    (each : List.Forall₂ ReadsAs items parts) :
    ReadsAs (enclose opening closing depth items) (enclosed opens closes parts) := by
  intro rest stop
  cases each with
  | nil =>
    rw [enclose, List.isEmpty_nil, if_pos rfl, List.cons_append, symbolsMark first,
      List.cons_append, symbolsMark last, Option.map_map]
    rfl
  | cons here later =>
    have lines := linesRead (depth + 1) (.cons here later) (newline depth ++ closing :: rest)
      (by rintro _ ⟨⟩; rfl)
    rw [symbolsNewline, symbolsMark last] at lines
    rw [enclose, List.isEmpty_cons, if_neg Bool.false_ne_true]
    simp only [List.cons_append, List.append_assoc, List.nil_append]
    rw [symbolsMark first, lines]
    simp [enclosed, Function.comp_def]

mutual

theorem charsRead (depth : Nat) : (j : Json) → ReadsAs (chars depth j) (symbolsOf j)
  | .null => wordRead rfl rfl
  | .bool true => wordRead rfl rfl
  | .bool false => wordRead rfl rfl
  | .number n => numberRead n
  | .text s => quoteRead s
  | .list items => encloseRead depth rfl rfl (itemsRead (depth + 1) items)
  | .record fields => encloseRead depth rfl rfl (fieldsRead (depth + 1) fields)

theorem itemsRead (depth : Nat) :
    (js : List Json) → List.Forall₂ ReadsAs (itemChars depth js) (itemSymbols js)
  | [] => .nil
  | j :: js => .cons (charsRead depth j) (itemsRead depth js)

theorem fieldsRead (depth : Nat) : (fields : List (String × Json)) →
    List.Forall₂ ReadsAs (fieldChars depth fields) (fieldSymbols fields)
  | [] => .nil
  | (key, j) :: rest => .cons (fieldRead key (charsRead depth j)) (fieldsRead depth rest)

end

theorem renderSymbols (j : Json) : symbols j.render.toList = some (symbolsOf j) := by
  have read := charsRead 0 j [] nofun
  rw [List.append_nil, symbols, Option.map_some, List.append_nil] at read
  rw [render, String.toList_ofList, read]

end Values

end Busbind.Json
