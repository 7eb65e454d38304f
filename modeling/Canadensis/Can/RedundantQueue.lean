import Canadensis.Core.Basic

/-!
# 冗長キュー

`canadensis_can/src/redundant/redundant_queue.rs` の `RedundantQueue<Q0, Q1>`。二つの送信キューを
まとめ、`try_reserve` の結果をキューごとに覚えて、予約に失敗したキューには `push_frame` しない。
入れ子にして三重以上の冗長にできるので、木 `Sink` で表す。葉は任意の `FrameSink` である。

あわせて、冗長キューが何のためにあるかを、葉とその最後の予約の結果の並び（`Flat`）の上の操作として
書く。木がこれを詳細化することは `Can/Theorems.lean` で示す。
-/

namespace Canadensis
namespace Can

/-- `FrameSink<I>`：状態 `L` を持つ任意の送信キュー。フレームの型は `F`（`clone` は値の複製）。 -/
structure FrameSink (L F : Type) where
  tryReserve : L → Nat → Except OutOfMemoryError Unit × L
  pushFrame : L → F → Except OutOfMemoryError Unit × L
  shrinkToFit : L → L

/-- `Result::or`：左が `Ok` なら左、そうでなければ右。 -/
def resultOr (r₀ r₁ : Except OutOfMemoryError Unit) : Except OutOfMemoryError Unit :=
  match r₀ with
  | .ok _ => r₀
  | .error _ => r₁

@[simp] theorem isOk_resultOr (r₀ r₁ : Except OutOfMemoryError Unit) :
    (resultOr r₀ r₁).isOk = (r₀.isOk || r₁.isOk) := by
  cases r₀ <;> rfl

/-- 葉（任意の `FrameSink`）と、入れ子の `RedundantQueue`。`status0`、`status1` は、それぞれの
キューへの最後の `try_reserve` の結果である。 -/
inductive Sink (L : Type) where
  | leaf (queue : L)
  | redundant (queue0 queue1 : Sink L) (status0 status1 : Except OutOfMemoryError Unit)

namespace Sink

variable {L F : Type} (S : FrameSink L F)

/-- `RedundantQueue::new`：どちらの状態も `Ok(())` から始める。 -/
def new (queue0 queue1 : Sink L) : Sink L := .redundant queue0 queue1 (.ok ()) (.ok ())

def tryReserve : Sink L → Nat → Except OutOfMemoryError Unit × Sink L
  | .leaf q, additional =>
    let (r, q) := S.tryReserve q additional
    (r, .leaf q)
  | .redundant queue0 queue1 _ _, additional =>
    let (status0, queue0) := queue0.tryReserve additional
    let (status1, queue1) := queue1.tryReserve additional
    (resultOr status0 status1, .redundant queue0 queue1 status0 status1)

def shrinkToFit : Sink L → Sink L
  | .leaf q => .leaf (S.shrinkToFit q)
  | .redundant queue0 queue1 status0 status1 =>
    .redundant queue0.shrinkToFit queue1.shrinkToFit status0 status1

def pushFrame : Sink L → F → Except OutOfMemoryError Unit × Sink L
  | .leaf q, frame =>
    let (r, q) := S.pushFrame q frame
    (r, .leaf q)
  | .redundant queue0 queue1 status0 status1, frame =>
    let (pushStatus0, queue0) := if status0.isOk then queue0.pushFrame frame else (.error ⟨⟩, queue0)
    let (pushStatus1, queue1) := if status1.isOk then queue1.pushFrame frame else (.error ⟨⟩, queue1)
    (resultOr pushStatus0 pushStatus1, .redundant queue0 queue1 status0 status1)

/-- 葉の状態を左から並べたもの。 -/
def leaves : Sink L → List L
  | .leaf q => [q]
  | .redundant queue0 queue1 _ _ => queue0.leaves ++ queue1.leaves

/-- `new` だけで組んだ木：すべての状態が `Ok(())`。 -/
def Fresh : Sink L → Prop
  | .leaf _ => True
  | .redundant queue0 queue1 status0 status1 =>
    queue0.Fresh ∧ queue1.Fresh ∧ status0 = .ok () ∧ status1 = .ok ()

/-- 木を、それ自身 `FrameSink` として見る。 -/
def frameSink : FrameSink (Sink L) F := ⟨tryReserve S, pushFrame S, shrinkToFit S⟩

end Sink

/-- 根への呼び出し。 -/
inductive Op (F : Type) where
  | tryReserve (additional : Nat)
  | pushFrame (frame : F)
  | shrinkToFit

/-- 根への呼び出しの列を実行する。`shrink_to_fit` は結果を返さない。 -/
def Sink.run {L F : Type} (S : FrameSink L F) :
    Sink L → List (Op F) → List (Option (Except OutOfMemoryError Unit)) × Sink L
  | t, [] => ([], t)
  | t, .tryReserve n :: ops =>
    let (r, t) := t.tryReserve S n
    let (rs, t) := Sink.run S t ops
    (some r :: rs, t)
  | t, .pushFrame f :: ops =>
    let (r, t) := t.pushFrame S f
    let (rs, t) := Sink.run S t ops
    (some r :: rs, t)
  | t, .shrinkToFit :: ops =>
    let (rs, t) := Sink.run S (t.shrinkToFit S) ops
    (none :: rs, t)

/-- 一つのキューに、フレームを順に `push_frame` する。 -/
def FrameSink.pushAll {L F : Type} (S : FrameSink L F) : L → List F → List (Except OutOfMemoryError Unit) × L
  | q, [] => ([], q)
  | q, f :: fs =>
    let (r, q) := S.pushFrame q f
    let (rs, q) := S.pushAll q fs
    (r :: rs, q)

/-- 予約を守るキュー：`try_reserve(n)` が `Ok` なら、その後の高々 `n` 回の `push_frame` はすべて `Ok`。 -/
def FrameSink.Honours {L F : Type} (S : FrameSink L F) : Prop :=
  ∀ q n (fs : List F), (S.tryReserve q n).1 = .ok () → fs.length ≤ n →
    ∀ r ∈ (S.pushAll (S.tryReserve q n).2 fs).1, r = .ok ()

/-! ## 冗長キューの目的：葉と、その最後の予約の結果 -/

namespace Flat

variable {L F : Type} (S : FrameSink L F)

/-- すべての葉に `try_reserve(n)` を一度ずつ呼び、その結果を覚える。一つでも `Ok` なら `Ok`。 -/
def tryReserve (xs : List (L × Bool)) (n : Nat) : Bool × List (L × Bool) :=
  let ys := xs.map fun (q, _) => ((S.tryReserve q n).2, (S.tryReserve q n).1.isOk)
  (ys.any (·.2), ys)

/-- 最後の予約が `Ok` だった葉だけに、フレームを一度ずつ渡す。その一つでも `Ok` なら `Ok`。 -/
def pushFrame (xs : List (L × Bool)) (f : F) : Bool × List (L × Bool) :=
  let ys := xs.map fun (q, ok) => if ok then (((S.pushFrame q f).2, ok), (S.pushFrame q f).1.isOk)
    else ((q, ok), false)
  (ys.any (·.2), ys.map (·.1))

def shrinkToFit (xs : List (L × Bool)) : List (L × Bool) := xs.map fun (q, ok) => (S.shrinkToFit q, ok)

def run : List (L × Bool) → List (Op F) → List (Option Bool) × List (L × Bool)
  | xs, [] => ([], xs)
  | xs, .tryReserve n :: ops =>
    let (rs, ys) := run (tryReserve S xs n).2 ops
    (some (tryReserve S xs n).1 :: rs, ys)
  | xs, .pushFrame f :: ops =>
    let (rs, ys) := run (pushFrame S xs f).2 ops
    (some (pushFrame S xs f).1 :: rs, ys)
  | xs, .shrinkToFit :: ops =>
    let (rs, ys) := run (shrinkToFit S xs) ops
    (none :: rs, ys)

end Flat

end Can
end Canadensis
