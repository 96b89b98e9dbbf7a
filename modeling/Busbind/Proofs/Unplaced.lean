import Busbind.Proofs.Retold

/-! Tokens without their place. The readers look at kinds and texts alone: where the tokens stand
shows in the places of a rejection and nowhere else. These are retold tokens whose descriptions say
what they said. -/
namespace Busbind

@[reducible] def Token.unplaced (t : Token) : Token := ⟨t.kind, t.literal, ⟨0, 0⟩⟩

def Rejection.unplaced : Rejection → Rejection
  | .unexpected expected found => .unexpected expected found.unplaced
  | .invalidNumber field found fault => .invalidNumber field found.unplaced fault
  | .unclosedDescription _ => .unclosedDescription ⟨0, 0⟩
  | .unreadable reason => .unreadable reason

namespace Unplaced
open Declarations HeaderGrammar
open Retold (told Kept KeptAt)

def left (ts : List Token) : List Token := ts.map Token.unplaced

def reading {α : Type} (r : α × List Token) : α × List Token := (r.1, left r.2)

def outcome {α β : Type} (f : α → β) : Except Rejection α → Except Rejection β
  | .ok a => .ok (f a)
  | .error r => .error r.unplaced

@[simp] theorem leftCons (t : Token) (ts : List Token) : left (t :: ts) = t.unplaced :: left ts := rfl

theorem keptSame (t : Token) : Kept id t := ite_self _

theorem retoldToken (t : Token) : t.retold id = t.unplaced := by
  rw [Token.retold, keptSame]

theorem toldLeft (ts : List Token) : told id ts = left ts :=
  List.map_congr_left fun t _ => retoldToken t

theorem retoldRejection (r : Rejection) : r.retold id = r.unplaced := by
  cases r <;> simp only [Rejection.retold, Rejection.unplaced, retoldToken]

theorem retoldParameters (ps : List Parameter) : ps.map (Parameter.retold id) = ps :=
  List.map_id ps

theorem retoldDeclaration (d : Declaration) : d.retold id = d := by
  cases d <;> simp only [Declaration.retold, Attribute.retold, Method.retold, Broadcast.retold,
    Struct.retold, Typedef.retold, ArrayAlias.retold, retoldParameters, id]

theorem retoldDefinition (d : Definition) : d.retold id = d := by
  have same {α : Type} {f : α → α} (step : ∀ a, f a = a) (as : List α) : as.map f = as :=
    (List.map_congr_left fun a _ => step a).trans (List.map_id as)
  obtain ⟨package, interface, attributes, methods, broadcasts, structs, typedefs, arrays⟩ := d
  simp only [Definition.retold, InterfaceClause.retold, Option.map_id_fun, id, Definition.mk.injEq,
    true_and]
  refine ⟨same (fun _ => rfl) _, same (fun m => ?_) _, same (fun b => ?_) _, same (fun s => ?_) _,
    same (fun _ => rfl) _, same (fun _ => rfl) _⟩
  · rw [Method.retold, retoldParameters, retoldParameters]
    rfl
  · rw [Broadcast.retold, retoldParameters]
    rfl
  · rw [Struct.retold, retoldParameters]
    rfl

theorem retoldOutcome {α β : Type} (f : α → β) (x : Except Rejection α) :
    Retold.outcome id f x = outcome f x := by
  cases x with
  | error r => exact congrArg Except.error (retoldRejection r)
  | ok a => rfl

theorem bodyUnplaced (kind : DeclarationKind) (description : String) (ts : List Token) :
    body kind description (left ts) = reading (body kind description ts) := by
  have told := Retold.bodyRetold (g := id) rfl kind description ts
  rwa [toldLeft, id, Retold.reading, retoldDeclaration, toldLeft] at told

theorem significantUnplaced (ts : List Token) :
    (left ts).filter Token.isSignificant = left (ts.filter Token.isSignificant) := by
  rw [← toldLeft, Retold.significantRetold, toldLeft]

theorem ofScanUnplaced (p : Nat) (ts : List Token) :
    Definition.ofScan ⟨left ts, .complete 0⟩ =
      outcome id (Definition.ofScan ⟨ts, .complete p⟩) := by
  have kept (R : List Token → Token → List Token → Prop) : KeptAt id R (significant ts) :=
    fun _ t _ _ _ => keptSame t
  have told := Retold.ofScanRetold (g := id) rfl p (kept _) (kept _)
  rwa [toldLeft, retoldOutcome, show Definition.retold id = id from funext retoldDefinition] at told

end Unplaced
end Busbind
