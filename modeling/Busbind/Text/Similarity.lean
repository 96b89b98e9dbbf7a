/-! How alike two texts are, between 0 and 1: the Jaro measure. Two characters match if they are
equal and stand at about the same place, each at most once; matches in another order count half. -/
namespace Busbind.Text

abbrev Marked := List (Char × Bool)

def claim? (c : Char) (first last position : Nat) : Marked → Option Marked
  | [] => none
  | (d, taken) :: rest =>
    if last ≤ position then none
    else if first ≤ position && d = c && !taken then some ((d, true) :: rest)
    else (claim? c first last (position + 1) rest).map ((d, taken) :: ·)

def matching (range position : Nat) (other : Marked) : List Char → List Char × Marked
  | [] => ([], other)
  | c :: cs =>
    match claim? c (position - range) (position + range + 1) 0 other with
    | some other =>
      let rest := matching range (position + 1) other cs
      (c :: rest.1, rest.2)
    | none => matching range (position + 1) other cs

def similarity (a b : String) : Float :=
  let cs := a.toList
  let ds := b.toList
  if cs.isEmpty && ds.isEmpty then 1
  else
    let range := max cs.length ds.length / 2 - 1
    let found := matching range 0 (ds.map fun d => (d, false)) cs
    let others := (found.2.filter Prod.snd).map Prod.fst
    let count := found.1.length
    let moved := ((found.1.zip others).filter fun p => p.1 ≠ p.2).length / 2
    if count = 0 then 0
    else
      let m := Float.ofNat count
      (m / Float.ofNat cs.length + m / Float.ofNat ds.length + Float.ofNat (count - moved) / m) / 3

end Busbind.Text
