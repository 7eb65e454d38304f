import Canadensis.Can.RedundantQueue

/-!
# 冗長キューの木は、葉の並びの上の操作を詳細化する

木の各節が覚える状態は、その部分木の葉の最後の予約の結果の論理和である（`Agrees`）。この不変条件の
もとで、根への `try_reserve`、`push_frame`、`shrink_to_fit` は、`Flat` の操作と同じ結果を返し、
同じように葉を変える。そこから、葉が予約を守れば木も守ること、各葉が予約の後のフレームをすべて
受け取るか一つも受け取らないことを導く。
-/

namespace Canadensis
namespace Can

variable {L F : Type} (S : FrameSink L F)

theorem isOk_iff_eq_ok {r : Except OutOfMemoryError Unit} : r.isOk = true ↔ r = .ok () := by
  cases r <;> simp [Except.isOk, Except.toBool]

@[simp] theorem FrameSink.pushAll_nil (q : L) : S.pushAll q ([] : List F) = ([], q) := rfl

@[simp] theorem FrameSink.pushAll_cons (q : L) (f : F) (fs : List F) :
    S.pushAll q (f :: fs) =
      ((S.pushFrame q f).1 :: (S.pushAll (S.pushFrame q f).2 fs).1, (S.pushAll (S.pushFrame q f).2 fs).2) :=
  rfl

/-! ## `Flat` の操作 -/

namespace Flat

@[simp] theorem pushFrame_fst (xs : List (L × Bool)) (f : F) :
    (pushFrame S xs f).1 = xs.any fun x => x.2 && (S.pushFrame x.1 f).1.isOk := by
  induction xs with
  | nil => rfl
  | cons x xs ih => obtain ⟨q, _ | _⟩ := x <;> simp_all [pushFrame]

@[simp] theorem pushFrame_snd (xs : List (L × Bool)) (f : F) :
    (pushFrame S xs f).2 = xs.map fun x => (if x.2 then (S.pushFrame x.1 f).2 else x.1, x.2) := by
  simp only [pushFrame, List.map_map]
  refine congrArg (xs.map ·) (funext fun ⟨q, b⟩ => ?_)
  cases b <;> rfl

@[simp] theorem map_snd_pushFrame (xs : List (L × Bool)) (f : F) :
    (pushFrame S xs f).2.map Prod.snd = xs.map Prod.snd := by
  simp [Function.comp]

@[simp] theorem tryReserve_fst (xs : List (L × Bool)) (n : Nat) :
    (tryReserve S xs n).1 = xs.any fun x => (S.tryReserve x.1 n).1.isOk := by
  simp only [tryReserve, List.any_map]; rfl

@[simp] theorem tryReserve_snd (xs : List (L × Bool)) (n : Nat) :
    (tryReserve S xs n).2 = xs.map fun x => ((S.tryReserve x.1 n).2, (S.tryReserve x.1 n).1.isOk) := rfl

theorem tryReserve_append (xs ys : List (L × Bool)) (n : Nat) :
    tryReserve S (xs ++ ys) n =
      ((tryReserve S xs n).1 || (tryReserve S ys n).1, (tryReserve S xs n).2 ++ (tryReserve S ys n).2) := by
  simp [tryReserve]

theorem pushFrame_append (xs ys : List (L × Bool)) (f : F) :
    pushFrame S (xs ++ ys) f =
      ((pushFrame S xs f).1 || (pushFrame S ys f).1, (pushFrame S xs f).2 ++ (pushFrame S ys f).2) := by
  simp [pushFrame]

@[simp] theorem map_snd_shrinkToFit (xs : List (L × Bool)) : (shrinkToFit S xs).map Prod.snd = xs.map Prod.snd := by
  simp [shrinkToFit, Function.comp]

theorem any_tryReserve_snd (xs : List (L × Bool)) (n : Nat) :
    ((tryReserve S xs n).2.map Prod.snd).any id = (tryReserve S xs n).1 := by
  induction xs with
  | nil => rfl
  | cons x xs ih => simp_all

@[simp] theorem run_tryReserve (xs : List (L × Bool)) (n : Nat) (ops : List (Op F)) :
    run S xs (.tryReserve n :: ops) =
      (some (tryReserve S xs n).1 :: (run S (tryReserve S xs n).2 ops).1, (run S (tryReserve S xs n).2 ops).2) :=
  rfl

@[simp] theorem run_pushFrame (xs : List (L × Bool)) (f : F) (ops : List (Op F)) :
    run S xs (.pushFrame f :: ops) =
      (some (pushFrame S xs f).1 :: (run S (pushFrame S xs f).2 ops).1, (run S (pushFrame S xs f).2 ops).2) :=
  rfl

theorem run_pushFrames_snd : ∀ (fs : List F) (xs : List (L × Bool)),
    (run S xs (fs.map .pushFrame)).2 = xs.map fun x => (if x.2 then (S.pushAll x.1 fs).2 else x.1, x.2)
  | [], xs => by simp [run]
  | f :: fs, xs => by
    rw [List.map_cons, run_pushFrame, run_pushFrames_snd fs, pushFrame_snd, List.map_map]
    congr 1
    funext ⟨q, b⟩
    cases b <;> rfl

theorem run_pushFrames_ok : ∀ (fs : List F) (xs : List (L × Bool)), (xs.map Prod.snd).any id →
    (∀ x ∈ xs, x.2 → ∀ r ∈ (S.pushAll x.1 fs).1, r = .ok ()) → ∀ r ∈ (run S xs (fs.map .pushFrame)).1, r = some true
  | [], _, _, _ => by simp [run]
  | f :: fs, xs, hany, hok => by
    obtain ⟨x, hx, hx₂⟩ : ∃ x ∈ xs, x.2 = true := by simpa using hany
    have hhead : (S.pushFrame x.1 f).1 = .ok () := hok x hx hx₂ _ (List.mem_cons_self _ _)
    have htail : ∀ y ∈ (pushFrame S xs f).2, y.2 → ∀ r ∈ (S.pushAll y.1 fs).1, r = .ok () := by
      simp only [pushFrame_snd, List.mem_map]
      rintro _ ⟨⟨q, b⟩, hy, rfl⟩ hb r hr
      subst hb
      exact hok _ hy rfl r (List.mem_cons_of_mem _ hr)
    rw [List.map_cons, run_pushFrame]
    rintro r (_ | ⟨_, hr⟩)
    · simp only [pushFrame_fst, Option.some.injEq, List.any_eq_true, Bool.and_eq_true]
      exact ⟨x, hx, hx₂, by rw [hhead]; rfl⟩
    · exact run_pushFrames_ok fs _ (by rwa [map_snd_pushFrame]) htail r hr

end Flat


/-! ## 不変条件 -/

namespace Sink

/-- 各節の状態は、その下の葉の最後の予約の結果 `flags` の論理和である。 -/
def Agrees : Sink L → List Bool → Prop
  | .leaf _, flags => flags.length = 1
  | .redundant queue0 queue1 status0 status1, flags => ∃ f₀ f₁, flags = f₀ ++ f₁ ∧
      queue0.Agrees f₀ ∧ queue1.Agrees f₁ ∧ status0.isOk = f₀.any id ∧ status1.isOk = f₁.any id

variable {S}

theorem Agrees.length : ∀ {t : Sink L} {flags : List Bool}, t.Agrees flags → flags.length = t.leaves.length
  | .leaf _, _, h => h
  | .redundant _ _ _ _, _, ⟨_, _, rfl, h₀, h₁, _, _⟩ => by simp [leaves, h₀.length, h₁.length]

theorem leaves_ne_nil : ∀ t : Sink L, t.leaves ≠ []
  | .leaf _ => by simp [leaves]
  | .redundant q₀ _ _ _ => by simp [leaves, leaves_ne_nil q₀]

theorem any_replicate_leaves (t : Sink L) : (List.replicate t.leaves.length true).any id = true := by
  obtain ⟨k, hk⟩ := Nat.exists_eq_succ_of_ne_zero (List.length_pos.mpr (leaves_ne_nil t)).ne'
  rw [hk]; rfl

theorem agrees_fresh : ∀ {t : Sink L}, t.Fresh → t.Agrees (List.replicate t.leaves.length true)
  | .leaf _, _ => rfl
  | .redundant q₀ q₁ _ _, ⟨h₀, h₁, rfl, rfl⟩ =>
    ⟨List.replicate q₀.leaves.length true, List.replicate q₁.leaves.length true,
      by simp [leaves], agrees_fresh h₀, agrees_fresh h₁,
      (any_replicate_leaves q₀).symm, (any_replicate_leaves q₁).symm⟩

/-- 木 `t` の葉と節の状態が、葉とその最後の予約の結果の並び `xs` と合っている。 -/
def Refines (t : Sink L) (xs : List (L × Bool)) : Prop :=
  t.leaves = xs.map Prod.fst ∧ t.Agrees (xs.map Prod.snd)

/-- 木の操作の結果 `p` は、成否が `Flat` の結果 `r` と同じで、木は `r` の並びと合っている。 -/
def Simulates (p : Except OutOfMemoryError Unit × Sink L) (r : Bool × List (L × Bool)) : Prop :=
  p.1.isOk = r.1 ∧ p.2.Refines r.2

theorem refines_redundant {q₀ q₁ : Sink L} {s₀ s₁ : Except OutOfMemoryError Unit} {xs : List (L × Bool)} :
    (redundant q₀ q₁ s₀ s₁).Refines xs ↔ ∃ xs₀ xs₁, xs = xs₀ ++ xs₁ ∧ q₀.Refines xs₀ ∧ q₁.Refines xs₁ ∧
      s₀.isOk = (xs₀.map Prod.snd).any id ∧ s₁.isOk = (xs₁.map Prod.snd).any id := by
  constructor
  · rintro ⟨hl, f₀, f₁, hf, a₀, a₁, h₀, h₁⟩
    obtain ⟨xs₀, xs₁, rfl, l₀, l₁⟩ := List.map_eq_append_iff.mp hl.symm
    rw [List.map_append] at hf
    obtain ⟨rfl, rfl⟩ := List.append_inj hf (by simp [a₀.length, ← l₀])
    exact ⟨xs₀, xs₁, rfl, ⟨l₀.symm, a₀⟩, ⟨l₁.symm, a₁⟩, h₀, h₁⟩
  · rintro ⟨xs₀, xs₁, rfl, ⟨l₀, a₀⟩, ⟨l₁, a₁⟩, h₀, h₁⟩
    exact ⟨by simp [leaves, l₀, l₁], _, _, List.map_append _ _ _, a₀, a₁, h₀, h₁⟩

theorem refines_fresh {t : Sink L} (h : t.Fresh) : t.Refines (t.leaves.map (·, true)) :=
  ⟨by simp [Function.comp_def], by simpa [Function.comp_def, List.map_const'] using agrees_fresh h⟩

/-! ## 一回の操作 -/

variable (S)

theorem tryReserve_simulates (n : Nat) : ∀ (t : Sink L) (xs : List (L × Bool)), t.leaves = xs.map Prod.fst →
    Simulates (t.tryReserve S n) (Flat.tryReserve S xs n)
  | .leaf q, xs, h => by
    obtain ⟨⟩ | ⟨⟨q', b⟩, _ | _⟩ := xs <;> simp [leaves] at h
    subst h
    exact ⟨by simp [tryReserve], rfl, rfl⟩
  | .redundant q₀ q₁ _ _, xs, h => by
    obtain ⟨xs₀, xs₁, rfl, l₀, l₁⟩ := List.map_eq_append_iff.mp h.symm
    obtain ⟨r₀, h₀⟩ := tryReserve_simulates n q₀ xs₀ l₀.symm
    obtain ⟨r₁, h₁⟩ := tryReserve_simulates n q₁ xs₁ l₁.symm
    refine ⟨by simp only [tryReserve, isOk_resultOr, r₀, r₁, Flat.tryReserve_append],
      refines_redundant.mpr ⟨_, _, Flat.tryReserve_append S xs₀ xs₁ n ▸ rfl, h₀, h₁, ?_, ?_⟩⟩
    · rw [r₀, Flat.any_tryReserve_snd]
    · rw [r₁, Flat.any_tryReserve_snd]

theorem pushFrame_redundant (q₀ q₁ : Sink L) (s₀ s₁ : Except OutOfMemoryError Unit) (f : F) :
    (redundant q₀ q₁ s₀ s₁).pushFrame S f =
      let p₀ := if s₀.isOk then q₀.pushFrame S f else (.error ⟨⟩, q₀)
      let p₁ := if s₁.isOk then q₁.pushFrame S f else (.error ⟨⟩, q₁)
      (resultOr p₀.1 p₁.1, redundant p₀.2 p₁.2 s₀ s₁) := rfl

theorem pushFrame_redundant_of_not_isOk {q₀ q₁ : Sink L} {s₀ s₁ : Except OutOfMemoryError Unit}
    (h₀ : s₀.isOk = false) (h₁ : s₁.isOk = false) (f : F) :
    (redundant q₀ q₁ s₀ s₁).pushFrame S f = (.error ⟨⟩, redundant q₀ q₁ s₀ s₁) := by
  simp [pushFrame_redundant, h₀, h₁, resultOr]

theorem pushFrame_redundant_gate {q₀ q₁ : Sink L} {s₀ s₁ : Except OutOfMemoryError Unit} {xs : List (L × Bool)}
    (h : (redundant q₀ q₁ s₀ s₁).Refines xs) (f : F) :
    (if (xs.map Prod.snd).any id then (redundant q₀ q₁ s₀ s₁).pushFrame S f else (.error ⟨⟩, redundant q₀ q₁ s₀ s₁)) =
      (redundant q₀ q₁ s₀ s₁).pushFrame S f := by
  obtain ⟨xs₀, xs₁, rfl, -, -, h₀, h₁⟩ := refines_redundant.mp h
  split_ifs with hany
  · rfl
  · simp only [List.map_append, List.any_append, Bool.or_eq_true, not_or, Bool.not_eq_true] at hany
    rw [pushFrame_redundant_of_not_isOk S (h₀.trans hany.1) (h₁.trans hany.2)]

/-- 最後の予約の結果の論理和で絞った木への `push_frame` は、`Flat.pushFrame` と同じである。 -/
theorem pushFrame_gated (f : F) : ∀ (t : Sink L) (xs : List (L × Bool)), t.Refines xs →
    Simulates (if (xs.map Prod.snd).any id then t.pushFrame S f else (.error ⟨⟩, t)) (Flat.pushFrame S xs f)
  | .leaf q, xs, ⟨hl, ha⟩ => by
    obtain ⟨⟩ | ⟨⟨q', b⟩, _ | _⟩ := xs <;> simp [leaves, Agrees] at hl ha
    subst hl
    cases b <;> exact ⟨by simp [pushFrame] <;> rfl, rfl, rfl⟩
  | .redundant q₀ q₁ s₀ s₁, xs, h => by
    rw [pushFrame_redundant_gate S h]
    obtain ⟨xs₀, xs₁, rfl, h₀, h₁, hs₀, hs₁⟩ := refines_redundant.mp h
    obtain ⟨r₀, h₀'⟩ := pushFrame_gated f q₀ xs₀ h₀
    obtain ⟨r₁, h₁'⟩ := pushFrame_gated f q₁ xs₁ h₁
    rw [← hs₀] at r₀ h₀'
    rw [← hs₁] at r₁ h₁'
    refine ⟨by simp only [pushFrame_redundant, isOk_resultOr, r₀, r₁, Flat.pushFrame_append],
      refines_redundant.mpr ⟨_, _, Flat.pushFrame_append S xs₀ xs₁ f ▸ rfl, h₀', h₁', ?_, ?_⟩⟩
    · rw [Flat.map_snd_pushFrame, hs₀]
    · rw [Flat.map_snd_pushFrame, hs₁]

theorem pushFrame_simulates {q₀ q₁ : Sink L} {s₀ s₁ : Except OutOfMemoryError Unit} {xs : List (L × Bool)}
    (h : (redundant q₀ q₁ s₀ s₁).Refines xs) (f : F) :
    Simulates ((redundant q₀ q₁ s₀ s₁).pushFrame S f) (Flat.pushFrame S xs f) :=
  pushFrame_redundant_gate S h f ▸ pushFrame_gated S f _ xs h

theorem shrinkToFit_refines : ∀ (t : Sink L) (xs : List (L × Bool)), t.Refines xs →
    (t.shrinkToFit S).Refines (Flat.shrinkToFit S xs)
  | .leaf q, xs, ⟨hl, ha⟩ => by
    obtain ⟨⟩ | ⟨⟨q', b⟩, _ | _⟩ := xs <;> simp [leaves, Agrees] at hl ha
    subst hl
    exact ⟨rfl, rfl⟩
  | .redundant q₀ q₁ s₀ s₁, xs, h => by
    obtain ⟨xs₀, xs₁, rfl, h₀, h₁, hs₀, hs₁⟩ := refines_redundant.mp h
    exact refines_redundant.mpr ⟨Flat.shrinkToFit S xs₀, Flat.shrinkToFit S xs₁, List.map_append _ _ _,
      shrinkToFit_refines q₀ xs₀ h₀, shrinkToFit_refines q₁ xs₁ h₁, by rw [Flat.map_snd_shrinkToFit, hs₀],
      by rw [Flat.map_snd_shrinkToFit, hs₁]⟩

/-! ## 実行 -/

@[simp] theorem run_tryReserve (t : Sink L) (n : Nat) (ops : List (Op F)) :
    t.run S (.tryReserve n :: ops) =
      (some (t.tryReserve S n).1 :: ((t.tryReserve S n).2.run S ops).1, ((t.tryReserve S n).2.run S ops).2) :=
  rfl

@[simp] theorem run_pushFrame (t : Sink L) (f : F) (ops : List (Op F)) :
    t.run S (.pushFrame f :: ops) =
      (some (t.pushFrame S f).1 :: ((t.pushFrame S f).2.run S ops).1, ((t.pushFrame S f).2.run S ops).2) :=
  rfl

@[simp] theorem frameSink_tryReserve (t : Sink L) (n : Nat) :
    (frameSink S : FrameSink (Sink L) F).tryReserve t n = t.tryReserve S n := rfl

@[simp] theorem frameSink_pushFrame (t : Sink L) (f : F) : (frameSink S).pushFrame t f = t.pushFrame S f := rfl

theorem tryReserve_leaf (q : L) (n : Nat) :
    (leaf q).tryReserve S n = ((S.tryReserve q n).1, leaf (S.tryReserve q n).2) := rfl

theorem pushFrame_leaf (q : L) (f : F) : (leaf q).pushFrame S f = ((S.pushFrame q f).1, leaf (S.pushFrame q f).2) :=
  rfl

theorem tryReserve_redundant (q₀ q₁ : Sink L) (s₀ s₁ : Except OutOfMemoryError Unit) (n : Nat) :
    (redundant q₀ q₁ s₀ s₁).tryReserve S n =
      (resultOr (q₀.tryReserve S n).1 (q₁.tryReserve S n).1,
        redundant (q₀.tryReserve S n).2 (q₁.tryReserve S n).2 (q₀.tryReserve S n).1 (q₁.tryReserve S n).1) :=
  rfl

/-- 根が `RedundantQueue` の木へのどの呼び出しの列も、`Flat` の同じ列と同じ結果を返す。 -/
theorem run_simulates : ∀ (ops : List (Op F)) (q₀ q₁ : Sink L) (s₀ s₁ : Except OutOfMemoryError Unit)
    (xs : List (L × Bool)), (redundant q₀ q₁ s₀ s₁).Refines xs →
    ((redundant q₀ q₁ s₀ s₁).run S ops).1.map (Option.map Except.isOk) = (Flat.run S xs ops).1 ∧
      ((redundant q₀ q₁ s₀ s₁).run S ops).2.Refines (Flat.run S xs ops).2
  | [], _, _, _, _, _, h => ⟨rfl, h⟩
  | .tryReserve n :: ops, q₀, q₁, s₀, s₁, xs, h => by
    have hs := tryReserve_simulates S n _ xs h.1
    rw [tryReserve_redundant] at hs
    obtain ⟨ih₁, ih₂⟩ := run_simulates ops _ _ _ _ _ hs.2
    rw [run_tryReserve, tryReserve_redundant, Flat.run_tryReserve]
    exact ⟨by simp only [List.map_cons, Option.map_some', hs.1, ih₁], ih₂⟩
  | .pushFrame f :: ops, q₀, q₁, s₀, s₁, xs, h => by
    have hs := pushFrame_simulates S h f
    simp only [pushFrame_redundant] at hs
    obtain ⟨ih₁, ih₂⟩ := run_simulates ops _ _ _ _ _ hs.2
    rw [run_pushFrame, pushFrame_redundant, Flat.run_pushFrame]
    exact ⟨by simp only [List.map_cons, Option.map_some', hs.1, ih₁], ih₂⟩
  | .shrinkToFit :: ops, q₀, q₁, s₀, s₁, xs, h => by
    obtain ⟨ih₁, ih₂⟩ := run_simulates ops _ _ _ _ _ (shrinkToFit_refines S _ xs h)
    exact ⟨by simp only [run, Flat.run, shrinkToFit, List.map_cons, Option.map_none', ih₁], ih₂⟩

theorem pushAll_eq_run : ∀ (t : Sink L) (fs : List F),
    ((frameSink S).pushAll t fs).1.map some = (t.run S (fs.map .pushFrame)).1 ∧
      ((frameSink S).pushAll t fs).2 = (t.run S (fs.map .pushFrame)).2
  | _, [] => ⟨rfl, rfl⟩
  | t, f :: fs => by
    obtain ⟨ih₁, ih₂⟩ := pushAll_eq_run (t.pushFrame S f).2 fs
    exact ⟨by simp only [FrameSink.pushAll_cons, List.map_cons, run_pushFrame, ← ih₁]; rfl, ih₂⟩

theorem pushAll_leaf (q : L) : ∀ fs : List F,
    (frameSink S).pushAll (leaf q) fs = ((S.pushAll q fs).1, leaf (S.pushAll q fs).2)
  | [] => rfl
  | f :: fs => by
    simp only [FrameSink.pushAll_cons, frameSink_pushFrame, pushFrame_leaf, pushAll_leaf (S.pushFrame q f).2 fs]

theorem frameSink_honours (hS : S.Honours) : (frameSink S : FrameSink (Sink L) F).Honours := by
  rintro (q | ⟨q₀, q₁, s₀, s₁⟩) n fs hres hlen
  · simp only [frameSink_tryReserve, tryReserve_leaf, pushAll_leaf] at hres ⊢
    exact hS q n fs hres hlen
  · have hs := tryReserve_simulates S n (redundant q₀ q₁ s₀ s₁)
      ((redundant q₀ q₁ s₀ s₁).leaves.map (·, true)) (by simp [Function.comp_def])
    obtain ⟨hr, href⟩ := hs
    rw [frameSink_tryReserve] at hres ⊢
    rw [hres] at hr
    simp only [tryReserve_redundant] at href ⊢
    obtain ⟨h₁, -⟩ := run_simulates S (fs.map .pushFrame) _ _ _ _ _ href
    intro r hr'
    have hsome : some r.isOk ∈
        (Flat.run S (Flat.tryReserve S ((redundant q₀ q₁ s₀ s₁).leaves.map (·, true)) n).2 (fs.map .pushFrame)).1 := by
      rw [← h₁, ← (pushAll_eq_run S _ fs).1, List.map_map]
      exact List.mem_map_of_mem _ hr'
    have := Flat.run_pushFrames_ok S fs _ (by rw [Flat.any_tryReserve_snd, ← hr]; rfl) ?_ _ hsome
    · exact isOk_iff_eq_ok.mp (Option.some.inj this)
    · simp only [Flat.tryReserve_snd, List.mem_map]
      rintro _ ⟨⟨q, b⟩, -, rfl⟩ hq
      exact hS q n fs (isOk_iff_eq_ok.mp hq) hlen

/-- `try_reserve(n)` の後に渡したフレームは、予約が `Ok` だった葉にすべて順に届き、他の葉には届かない。 -/
theorem leaves_pushAll_tryReserve (q₀ q₁ : Sink L) (s₀ s₁ : Except OutOfMemoryError Unit) (n : Nat)
    (fs : List F) :
    ((frameSink S).pushAll ((redundant q₀ q₁ s₀ s₁).tryReserve S n).2 fs).2.leaves =
      (redundant q₀ q₁ s₀ s₁).leaves.map fun q =>
        if (S.tryReserve q n).1.isOk then (S.pushAll (S.tryReserve q n).2 fs).2 else (S.tryReserve q n).2 := by
  obtain ⟨-, href⟩ := tryReserve_simulates S n (redundant q₀ q₁ s₀ s₁)
    ((redundant q₀ q₁ s₀ s₁).leaves.map (·, true)) (by simp [Function.comp_def])
  simp only [tryReserve_redundant] at href ⊢
  rw [(pushAll_eq_run S _ fs).2, (run_simulates S _ _ _ _ _ _ href).2.1, Flat.run_pushFrames_snd]
  simp [Function.comp_def]

/-- 入れ子の `RedundantQueue` の木は、葉の並びへの `Flat` の操作を詳細化する。葉が予約を守れば木も守り、
予約の後のフレームは各葉にすべて順に届くか、一つも届かない。 -/
theorem redundant_tree_refines_flat (S : FrameSink L F) :
    (∀ q₀ q₁ : Sink L, q₀.Fresh → q₁.Fresh → ∀ ops : List (Op F),
      ((new q₀ q₁).run S ops).1.map (Option.map Except.isOk) =
          (Flat.run S ((new q₀ q₁).leaves.map (·, true)) ops).1 ∧
        ((new q₀ q₁).run S ops).2.leaves = (Flat.run S ((new q₀ q₁).leaves.map (·, true)) ops).2.map Prod.fst) ∧
    (S.Honours → (frameSink S : FrameSink (Sink L) F).Honours) ∧
    ∀ (q₀ q₁ : Sink L) (s₀ s₁ : Except OutOfMemoryError Unit) (n : Nat) (fs : List F),
      ((frameSink S).pushAll ((redundant q₀ q₁ s₀ s₁).tryReserve S n).2 fs).2.leaves =
        (redundant q₀ q₁ s₀ s₁).leaves.map fun q =>
          if (S.tryReserve q n).1.isOk then (S.pushAll (S.tryReserve q n).2 fs).2 else (S.tryReserve q n).2 := by
  refine ⟨fun q₀ q₁ h₀ h₁ ops => ?_, frameSink_honours S, leaves_pushAll_tryReserve S⟩
  obtain ⟨hr, hl, -⟩ := run_simulates S ops q₀ q₁ _ _ _ 
    (refines_fresh (show (new q₀ q₁).Fresh from ⟨h₀, h₁, rfl, rfl⟩))
  exact ⟨hr, hl⟩

end Sink

end Can
end Canadensis
