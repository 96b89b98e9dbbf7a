import Mathlib.Data.List.Forall2

/-! Steps that may fail, taken one after the other or once for each member of a list. -/
namespace Busbind.Outcome
variable {α β γ ε : Type}

theorem bindOk {x : Except ε α} {f : α → Except ε β} {b : β} (h : x >>= f = .ok b) :
    ∃ a, x = .ok a ∧ f a = .ok b := by
  cases x with
  | error e => contradiction
  | ok a => exact ⟨a, rfl, h⟩

theorem bindError {x : Except ε α} {f : α → Except ε β} {e : ε} (h : x >>= f = .error e) :
    x = .error e ∨ ∃ a, x = .ok a ∧ f a = .error e := by
  cases x with
  | error e' =>
    cases h
    exact .inl rfl
  | ok a => exact .inr ⟨a, rfl, h⟩

theorem mapMAgree {f : α → Except ε β} {g : α → Except ε γ} {h : β → γ}
    (step : ∀ x y, f x = .ok y → g x = .ok (h y)) {xs : List α} {ys : List β}
    (all : xs.mapM f = .ok ys) : xs.mapM g = .ok (ys.map h) := by
  induction xs generalizing ys with
  | nil =>
    cases all
    rfl
  | cons x xs ih =>
    rw [List.mapM_cons] at all
    obtain ⟨y, first, all⟩ := bindOk all
    obtain ⟨zs, later, all⟩ := bindOk all
    cases all
    rw [List.mapM_cons, step x y first, ih later]
    rfl

theorem mapMPaired {f : α → Except ε β} {xs : List α} {ys : List β} (all : xs.mapM f = .ok ys) :
    List.Forall₂ (fun x y => f x = .ok y) xs ys := by
  induction xs generalizing ys with
  | nil =>
    cases all
    exact .nil
  | cons x xs ih =>
    rw [List.mapM_cons] at all
    obtain ⟨y, first, all⟩ := bindOk all
    obtain ⟨zs, later, all⟩ := bindOk all
    cases all
    exact .cons first (ih later)

theorem mapMSource {f : α → Except ε β} {xs : List α} {ys : List β} (all : xs.mapM f = .ok ys) :
    ∀ y ∈ ys, ∃ x, f x = .ok y := by
  have paired := mapMPaired all
  clear all
  induction paired with
  | nil => nofun
  | cons first _ ih => exact List.forall_mem_cons.2 ⟨⟨_, first⟩, ih⟩

theorem mapMKept {f : α → Except ε β} {g : α → γ} {h : β → γ}
    (step : ∀ x y, f x = .ok y → h y = g x) {xs : List α} {ys : List β}
    (all : xs.mapM f = .ok ys) : ys.map h = xs.map g := by
  have paired := mapMPaired all
  clear all
  induction paired with
  | nil => rfl
  | cons first _ ih => rw [List.map_cons, List.map_cons, step _ _ first, ih]

end Busbind.Outcome
