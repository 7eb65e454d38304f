import Mathlib.Data.List.Basic

/-!
# 実行時の失敗と、nb の結果型

Rust の panic（`assert!`、添字と切り出しの範囲外、`unwrap`、`expect`）と、`canadensis_core` の
`OutOfMemoryError`、`nb::Error` を表す。panic しうる関数は `Except Panic` を返す。
-/

namespace Canadensis

/-- Rust の panic。`assertion` は `assert!` の条件式、`expect` はその文言を持つ。 -/
inductive Panic where
  | assertion (condition : String)
  | indexOutOfBounds (len index : Nat)
  | sliceEndIndexOutOfRange (index len : Nat)
  | unwrap
  | expect (message : String)
  deriving DecidableEq, Repr

/-- `canadensis_core::OutOfMemoryError` -/
structure OutOfMemoryError where
  deriving DecidableEq, Repr

/-- `nb::Error<E>`：一時的に進めない `WouldBlock` と、それ以外の失敗。 -/
inductive NbError (E : Type) where
  | wouldBlock
  | other (e : E)
  deriving DecidableEq, Repr

/-- `Result::unwrap`。 -/
def unwrap {ε α : Type} : Except ε α → Except Panic α
  | .ok a => .ok a
  | .error _ => .error .unwrap

/-- `Result::expect`。 -/
def expect {ε α : Type} (message : String) : Except ε α → Except Panic α
  | .ok a => .ok a
  | .error _ => .error (.expect message)

/-- `slice[index]`。範囲外なら panic する。 -/
def index {α : Type} (xs : List α) (i : Nat) : Except Panic α :=
  match xs[i]? with
  | some x => .ok x
  | none => .error (.indexOutOfBounds xs.length i)

/-- `&slice[..end]`。範囲外なら panic する。 -/
def sliceTo {α : Type} (xs : List α) (stop : Nat) : Except Panic (List α) :=
  if stop ≤ xs.length then .ok (xs.take stop) else .error (.sliceEndIndexOutOfRange stop xs.length)

@[simp] theorem ok_bind {ε α β : Type} (a : α) (f : α → Except ε β) : (Except.ok a >>= f) = f a := rfl

@[simp] theorem error_bind {ε α β : Type} (e : ε) (f : α → Except ε β) :
    (Except.error e >>= f) = .error e := rfl

theorem bind_eq_ok {ε α β : Type} {x : Except ε α} {f : α → Except ε β} {b : β} :
    x >>= f = .ok b ↔ ∃ a, x = .ok a ∧ f a = .ok b := by
  cases x <;> simp

theorem map_eq_ok {ε α β : Type} {x : Except ε α} {f : α → β} {b : β} :
    f <$> x = .ok b ↔ ∃ a, x = .ok a ∧ f a = b := by
  cases x <;> simp [Functor.map, Except.map]

@[simp] theorem unwrap_ok {ε α : Type} (a : α) : unwrap (.ok a : Except ε α) = .ok a := rfl

@[simp] theorem expect_ok {ε α : Type} (m : String) (a : α) :
    expect m (.ok a : Except ε α) = .ok a := rfl

theorem index_of_lt {α : Type} {xs : List α} {i : Nat} (h : i < xs.length) :
    index xs i = .ok (xs.get ⟨i, h⟩) := by
  simp [index, List.getElem?_eq_getElem h]

theorem index_of_le {α : Type} {xs : List α} {i : Nat} (h : xs.length ≤ i) :
    index xs i = .error (.indexOutOfBounds xs.length i) := by
  simp [index, List.getElem?_eq_none h]

theorem sliceTo_of_le {α : Type} {xs : List α} {stop : Nat} (h : stop ≤ xs.length) :
    sliceTo xs stop = .ok (xs.take stop) := if_pos h

end Canadensis
