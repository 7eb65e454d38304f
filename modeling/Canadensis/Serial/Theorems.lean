import Canadensis.Serial.Transmit

/-!
# シリアル送信器の不変条件

`push` と `flush` をどう呼び合わせても、ドライバが受け取ったバイトとキューの中身をつなげると、
`Ok` を返した `push` のフレーム（区切り、COBS で符号化したデータ、区切り）を呼び出しの順に
つなげたものになる。失敗した `push` はキューを変えず、失敗した `send_byte` はバイトを失いも
重ねもしない。キューの `unwrap` と `expect` は失敗しない。

一回の呼び出しが何をするかを `push_spec` と `flush_spec` で一度だけ言い、実行全体の不変条件は
それから帰納法で導く。
-/

namespace Canadensis
namespace Serial

variable {H σ E : Type} {C : Nat}

/-! ## キューへの書き込み -/

/-- 転送がキューに置くバイト列：区切り、`escape_from_iter` が書いて長さを返したバイト、区切り。 -/
def wireFrame (codec : Codec H) (transfer : Transfer H) : List UInt8 :=
  delimiter :: ((codec.escapeFromIter (dataToEscape codec transfer) (List.replicate (escapedLength codec transfer) 0)).map
    fun written => written.1.take written.2).getD [] ++ [delimiter]

theorem foldlM_pushBack : ∀ (bytes : List UInt8) (q : TransmitQueue C), q.items.length + bytes.length ≤ C →
    ∃ q', bytes.foldlM (fun queue byte => unwrap (queue.pushBack byte)) q = .ok q' ∧ q'.items = q.items ++ bytes
  | [], q, _ => ⟨q, rfl, by simp⟩
  | b :: bytes, q, h => by
    simp only [List.length_cons] at h
    obtain ⟨q', hq', hitems⟩ := foldlM_pushBack bytes ⟨q.items ++ [b], by simp; omega⟩ (by simp; omega)
    refine ⟨q', ?_, by simp [hitems]⟩
    rw [List.foldlM_cons, TransmitQueue.pushBack_of_lt (by omega), unwrap_ok, ok_bind, hq']

section Push

variable (E : Type) (codec : Codec H) (tx : SerialTransmitter C) (t : Transfer H)

theorem push_of_lt_escapedLength (allocates : Bool)
    (h₁ : C - tx.queue.items.length < escapedLength codec t + perFrameUnescapedOverhead) :
    (tx.push codec t allocates : Except Panic (Except (NbError (Error E)) Unit × _)) =
      .ok (.error (.other (.memory ⟨⟩)), tx) := by
  simp only [SerialTransmitter.push, TransmitQueue.capacity, TransmitQueue.len, gt_iff_lt, if_pos h₁]

theorem push_of_not_allocates :
    (tx.push codec t false : Except Panic (Except (NbError (Error E)) Unit × _)) =
      .ok (.error (.other (.memory ⟨⟩)), tx) := by
  simp only [SerialTransmitter.push, TransmitQueue.capacity, TransmitQueue.len, gt_iff_lt, Bool.not_false,
    if_true, ite_self]

variable {codec tx t}

theorem push_of_escapeFromIter_none
    (h₁ : ¬ C - tx.queue.items.length < escapedLength codec t + perFrameUnescapedOverhead)
    (hescaped : codec.escapeFromIter (dataToEscape codec t) (List.replicate (escapedLength codec t) 0) = none) :
    (tx.push codec t true : Except Panic (Except (NbError (Error E)) Unit × _)) =
      .error (.expect "Incorrect escaped length") := by
  simp only [SerialTransmitter.push, TransmitQueue.capacity, TransmitQueue.len, gt_iff_lt, if_neg h₁,
    Bool.not_true, Bool.false_eq_true, if_false, hescaped]

theorem push_of_lt_escaped {buffer : List UInt8} {escapedLength' : Nat}
    (h₁ : ¬ C - tx.queue.items.length < escapedLength codec t + perFrameUnescapedOverhead)
    (hescaped : codec.escapeFromIter (dataToEscape codec t) (List.replicate (escapedLength codec t) 0) =
      some (buffer, escapedLength'))
    (h₂ : C - tx.queue.items.length < escapedLength' + perFrameUnescapedOverhead) :
    (tx.push codec t true : Except Panic (Except (NbError (Error E)) Unit × _)) =
      .ok (.error (.other (.memory ⟨⟩)), tx) := by
  simp only [SerialTransmitter.push, TransmitQueue.capacity, TransmitQueue.len, gt_iff_lt, if_neg h₁,
    Bool.not_true, Bool.false_eq_true, if_false, hescaped, if_pos h₂]

theorem push_of_le {buffer : List UInt8} {escapedLength' : Nat}
    (h₁ : ¬ C - tx.queue.items.length < escapedLength codec t + perFrameUnescapedOverhead)
    (hescaped : codec.escapeFromIter (dataToEscape codec t) (List.replicate (escapedLength codec t) 0) =
      some (buffer, escapedLength'))
    (h₂ : ¬ C - tx.queue.items.length < escapedLength' + perFrameUnescapedOverhead) :
    ∃ tx', (tx.push codec t true : Except Panic (Except (NbError (Error E)) Unit × _)) = .ok (.ok (), tx') ∧
      tx'.queue.items = tx.queue.items ++ wireFrame codec t := by
  have hle := tx.queue.length_le
  have hfree : escapedLength' + 2 ≤ C - tx.queue.items.length := by
    simp only [perFrameUnescapedOverhead] at h₂; omega
  have hslice : escapedLength' ≤ buffer.length := by
    obtain ⟨hlen, hwritten⟩ := codec.escapeFromIter_bounded _ _ _ _ hescaped
    omega
  obtain ⟨q, hq, hitems⟩ := foldlM_pushBack (buffer.take escapedLength')
    (⟨tx.queue.items ++ [delimiter], by simp; omega⟩ : TransmitQueue C) (by simp; omega)
  have hq' : q.items.length < C := by simp [hitems]; omega
  refine ⟨⟨⟨q.items ++ [delimiter], by simp [hitems]; omega⟩⟩, ?_, by simp [wireFrame, hescaped, hitems]⟩
  simp only [SerialTransmitter.push, TransmitQueue.capacity, TransmitQueue.len, gt_iff_lt, if_neg h₁,
    Bool.not_true, Bool.false_eq_true, if_false, hescaped, if_neg h₂,
    TransmitQueue.pushBack_of_lt (show tx.queue.items.length < C by omega), unwrap_ok, ok_bind, sliceTo_of_le hslice,
    hq, TransmitQueue.pushBack_of_lt hq']
  rfl

end Push

/-- `push` は、成功すればフレームをキューの後ろに足し、失敗すればキューを変えない。 -/
theorem push_spec {H : Type} (E : Type) {C : Nat} (codec : Codec H) (tx : SerialTransmitter C) (t : Transfer H)
    (allocates : Bool) :
    (∃ r tx', (tx.push codec t allocates : Except Panic (Except (NbError (Error E)) Unit × _)) = .ok (r, tx') ∧
      ((r = .ok () ∧ tx'.queue.items = tx.queue.items ++ wireFrame codec t) ∨
        (r = .error (.other (.memory ⟨⟩)) ∧ tx' = tx))) ∨
    (tx.push codec t allocates : Except Panic (Except (NbError (Error E)) Unit × _)) =
      .error (.expect "Incorrect escaped length") := by
  by_cases h₁ : C - tx.queue.items.length < escapedLength codec t + perFrameUnescapedOverhead
  · exact .inl ⟨_, _, push_of_lt_escapedLength E codec tx t allocates h₁, .inr ⟨rfl, rfl⟩⟩
  cases allocates
  · exact .inl ⟨_, _, push_of_not_allocates E codec tx t, .inr ⟨rfl, rfl⟩⟩
  rcases hescaped : codec.escapeFromIter (dataToEscape codec t) (List.replicate (escapedLength codec t) 0) with
    _ | ⟨buffer, escapedLength'⟩
  · exact .inr (push_of_escapeFromIter_none E h₁ hescaped)
  by_cases h₂ : C - tx.queue.items.length < escapedLength' + perFrameUnescapedOverhead
  · exact .inl ⟨_, _, push_of_lt_escaped E h₁ hescaped h₂, .inr ⟨rfl, rfl⟩⟩
  obtain ⟨tx', hp, hq⟩ := push_of_le E h₁ hescaped h₂
  exact .inl ⟨_, tx', hp, .inl ⟨rfl, hq⟩⟩

/-- `push` が `OutOfMemory` を返すのは、最悪の場合の長さがキューの空きに入らないか、一時バッファを確保
できないときだけである。符号化の後の二度目の検査は何も退けない。 -/
theorem push_outOfMemory_iff (codec : Codec H) (tx : SerialTransmitter C) (t : Transfer H) (allocates : Bool) :
    (∃ r tx', (tx.push codec t allocates : Except Panic (Except (NbError (Error E)) Unit × _)) = .ok (r, tx') ∧
      (r = .error (.other (.memory ⟨⟩)) ↔
        C - tx.queue.items.length < escapedLength codec t + perFrameUnescapedOverhead ∨ allocates = false)) ∨
    (tx.push codec t allocates : Except Panic (Except (NbError (Error E)) Unit × _)) =
      .error (.expect "Incorrect escaped length") := by
  by_cases h₁ : C - tx.queue.items.length < escapedLength codec t + perFrameUnescapedOverhead
  · exact .inl ⟨_, _, push_of_lt_escapedLength E codec tx t allocates h₁, by simp [h₁]⟩
  cases allocates
  · exact .inl ⟨_, _, push_of_not_allocates E codec tx t, by simp⟩
  rcases hescaped : codec.escapeFromIter (dataToEscape codec t) (List.replicate (escapedLength codec t) 0) with
    _ | ⟨buffer, escapedLength'⟩
  · exact .inr (push_of_escapeFromIter_none E h₁ hescaped)
  have h₂ : ¬ C - tx.queue.items.length < escapedLength' + perFrameUnescapedOverhead := by
    have := (codec.escapeFromIter_bounded _ _ _ _ hescaped).2
    simp only [List.length_replicate] at this
    omega
  obtain ⟨tx', hp, -⟩ := push_of_le E h₁ hescaped h₂
  exact .inl ⟨_, tx', hp, by simp [h₁]⟩

/-- `flush` は panic せず、ドライバが受け取ったバイトとキューに残るバイトをつなげると、もとのキューである。 -/
theorem flush_spec (driver : TransmitDriver σ E) :
    ∀ (tx : SerialTransmitter C) (d : σ), ∃ r tx' d' sent,
      tx.flush driver d = .ok (r, tx', d', sent) ∧ sent ++ tx'.queue.items = tx.queue.items := by
  intro tx
  obtain ⟨n, hn⟩ : ∃ n, tx.queue.items.length = n := ⟨_, rfl⟩
  induction n generalizing tx with
  | zero =>
    intro d
    obtain ⟨⟨_ | _, _⟩⟩ := tx <;> simp at hn
    exact ⟨.ok (), ⟨⟨[], by simp⟩⟩, d, [], by rw [SerialTransmitter.flush]; rfl, rfl⟩
  | succ n ih =>
    intro d
    obtain ⟨⟨_ | ⟨byte, rest⟩, hq⟩⟩ := tx
    · simp at hn
    simp only [List.length_cons, Nat.add_right_cancel_iff] at hn hq
    rcases hs : driver.sendByte d byte with ⟨_ | ⟨⟩, d'⟩
    · constructor
      refine ⟨⟨⟨byte :: rest, by simp; omega⟩⟩, d', [], ?_, rfl⟩
      rw [SerialTransmitter.flush]
      simp only [TransmitQueue.popFront, hs]
      rw [TransmitQueue.pushFront_of_lt (by simp; omega), expect_ok, ok_bind]
      rfl
    · obtain ⟨r, tx', d'', sent, hf, hsent⟩ := ih ⟨⟨rest, by omega⟩⟩ hn d'
      refine ⟨r, tx', d'', byte :: sent, ?_, by simp [hsent]⟩
      rw [SerialTransmitter.flush]
      simp only [TransmitQueue.popFront, hs, hf, ok_bind]
      rfl

theorem flush_drains (driver : TransmitDriver σ E) (P : σ → Prop)
    (hP : ∀ d b, P d → (driver.sendByte d b).1 = .ok () ∧ P (driver.sendByte d b).2) :
    ∀ (tx : SerialTransmitter C) (d : σ), P d → ∃ tx' d',
      tx.flush driver d = .ok (.ok (), tx', d', tx.queue.items) ∧ tx'.queue.items = [] := by
  rintro ⟨⟨items, h⟩⟩ d hd
  induction items generalizing d with
  | nil => exact ⟨_, d, by rw [SerialTransmitter.flush]; rfl, rfl⟩
  | cons byte rest ih =>
    rcases hs : driver.sendByte d byte with ⟨r, d'⟩
    obtain ⟨rfl, hd'⟩ : r = .ok () ∧ P d' := by simpa [hs] using hP d byte hd
    obtain ⟨tx', d'', hf, hempty⟩ := ih (by simp at h; omega) d' hd'
    refine ⟨tx', d'', ?_, hempty⟩
    rw [SerialTransmitter.flush]
    simp only [TransmitQueue.popFront, hs, hf, ok_bind]
    rfl

/-! ## 実行 -/

/-- 送信器への呼び出し。`allocates` は、`push` の一時バッファが確保できるかどうか。 -/
inductive Call (H : Type) where
  | push (transfer : Transfer H) (allocates : Bool)
  | flush

structure System (C : Nat) (σ : Type) where
  tx : SerialTransmitter C
  driver : σ
  sent : List UInt8

def System.init (d : σ) : System C σ := ⟨SerialTransmitter.new, d, []⟩

def step (codec : Codec H) (driver : TransmitDriver σ E) (s : System C σ) :
    Call H → Except Panic (System C σ × Except (NbError (Error E)) Unit)
  | .push t allocates => do
    let (r, tx) ← s.tx.push codec t allocates
    pure (⟨tx, s.driver, s.sent⟩, r)
  | .flush => do
    let (r, tx, d, sent) ← s.tx.flush driver s.driver
    pure (⟨tx, d, s.sent ++ sent⟩, r)

def run (codec : Codec H) (driver : TransmitDriver σ E) :
    System C σ → List (Call H) → Except Panic (System C σ × List (Except (NbError (Error E)) Unit))
  | s, [] => .ok (s, [])
  | s, c :: cs => do
    let (s, r) ← step codec driver s c
    let (s, rs) ← run codec driver s cs
    pure (s, r :: rs)

/-- `Ok` を返した `push` のフレームを、呼び出しの順につなげたもの。 -/
def pushedFrames (codec : Codec H) : List (Call H) → List (Except (NbError (Error E)) Unit) → List UInt8
  | .push t _ :: cs, .ok () :: rs => wireFrame codec t ++ pushedFrames codec cs rs
  | _ :: cs, _ :: rs => pushedFrames codec cs rs
  | _, _ => []

section PushedFrames

variable (codec : Codec H) (cs : List (Call H)) (rs : List (Except (NbError (Error E)) Unit))

@[simp] theorem pushedFrames_nil : pushedFrames codec [] rs = [] := rfl

@[simp] theorem pushedFrames_push_ok (t : Transfer H) (allocates : Bool) :
    pushedFrames codec (.push t allocates :: cs) (.ok () :: rs) = wireFrame codec t ++ pushedFrames codec cs rs := rfl

@[simp] theorem pushedFrames_push_error (t : Transfer H) (allocates : Bool) (e : NbError (Error E)) :
    pushedFrames codec (.push t allocates :: cs) (.error e :: rs) = pushedFrames codec cs rs := rfl

@[simp] theorem pushedFrames_flush (r : Except (NbError (Error E)) Unit) :
    pushedFrames codec (.flush :: cs) (r :: rs) = pushedFrames codec cs rs := rfl

theorem pushedFrames_cons (c : Call H) (r : Except (NbError (Error E)) Unit) :
    pushedFrames codec (c :: cs) (r :: rs) = pushedFrames codec [c] [r] ++ pushedFrames codec cs rs := by
  rcases c with _ | _ <;> rcases r with _ | ⟨⟨⟩⟩ <;> simp

end PushedFrames

theorem step_spec (codec : Codec H) (driver : TransmitDriver σ E) (s : System C σ) (c : Call H) :
    (∃ s' r, step codec driver s c = .ok (s', r) ∧
      s'.sent ++ s'.tx.queue.items = s.sent ++ s.tx.queue.items ++ pushedFrames codec [c] [r]) ∨
    step codec driver s c = .error (.expect "Incorrect escaped length") := by
  cases c with
  | push t allocates =>
    rcases push_spec E codec s.tx t allocates with ⟨r, tx', hp, ⟨rfl, hq⟩ | ⟨rfl, rfl⟩⟩ | hp
    · exact .inl ⟨⟨tx', s.driver, s.sent⟩, _, by simp only [step, hp, ok_bind]; rfl,
        by simp [hq]⟩
    · exact .inl ⟨⟨s.tx, s.driver, s.sent⟩, _, by simp only [step, hp, ok_bind]; rfl, by simp⟩
    · exact .inr (by simp only [step, hp, error_bind])
  | flush =>
    obtain ⟨r, tx', d', sent, hf, hsent⟩ := flush_spec driver s.tx s.driver
    exact .inl ⟨⟨tx', d', s.sent ++ sent⟩, r, by simp only [step, hf, ok_bind]; rfl,
      by simp [← hsent]⟩

theorem run_spec (codec : Codec H) (driver : TransmitDriver σ E) :
    ∀ (calls : List (Call H)) (s : System C σ),
      (∀ s' rs, run codec driver s calls = .ok (s', rs) →
        s'.sent ++ s'.tx.queue.items = s.sent ++ s.tx.queue.items ++ pushedFrames codec calls rs) ∧
      (∀ p, run codec driver s calls = .error p → p = .expect "Incorrect escaped length")
  | [], s => ⟨fun s' rs h => by cases h; simp, fun p h => by cases h⟩
  | c :: cs, s => by
    rcases step_spec codec driver s c with ⟨s₁, r, hs, hinv⟩ | hs
    · obtain ⟨ih₁, ih₂⟩ := run_spec codec driver cs s₁
      refine ⟨fun s' rs h => ?_, fun p h => ?_⟩
      · simp only [run, hs, ok_bind] at h
        rcases hr : run codec driver s₁ cs with p | ⟨s₂, rs₂⟩ <;> rw [hr] at h <;> cases h
        rw [ih₁ _ _ hr, hinv, pushedFrames_cons codec cs, List.append_assoc]
      · simp only [run, hs, ok_bind] at h
        rcases hr : run codec driver s₁ cs with p' | ⟨s₂, rs₂⟩ <;> rw [hr] at h <;> cases h
        exact ih₂ _ hr
    · refine ⟨fun s' rs h => ?_, fun p h => ?_⟩
      · simp [run, hs] at h
      · simp only [run, hs, error_bind] at h; cases h; rfl

/-- どう呼んだ後でも、ドライバがどのバイトも受け付けるなら、次の `flush` で `Ok` の `push` のフレームが
すべて順にちょうど一度ずつ送られ終わり、キューは空になる。 -/
theorem flush_delivers_pushed_frames (codec : Codec H) (driver : TransmitDriver σ E) (P : σ → Prop)
    (hP : ∀ d b, P d → (driver.sendByte d b).1 = .ok () ∧ P (driver.sendByte d b).2) (d : σ)
    (calls : List (Call H)) :
    ∀ s rs, run codec driver (System.init d : System C σ) calls = .ok (s, rs) → P s.driver →
      ∃ s', step codec driver s .flush = .ok (s', .ok ()) ∧ s'.sent = pushedFrames codec calls rs ∧
        s'.tx.queue.items = [] := by
  intro s rs hrun hd
  have hinv := (run_spec codec driver calls (System.init d)).1 s rs hrun
  obtain ⟨tx', d', hf, hempty⟩ := flush_drains driver P hP s.tx s.driver hd
  refine ⟨⟨tx', d', s.sent ++ s.tx.queue.items⟩, by simp only [step, hf, ok_bind]; rfl, ?_, hempty⟩
  simpa [System.init, SerialTransmitter.new, TransmitQueue.new] using hinv

/-- データをそのまま書く符号化で、一つの `push` の後の `flush`。 -/
theorem flush_delivers_pushed_frames_after_one_push :
    let codec : Codec Unit := ⟨fun _ => [1], 1, fun _ => [], fun n => n + 1,
      fun data buffer => if data.length ≤ buffer.length then some (data ++ buffer.drop data.length, data.length) else none,
      fun data buffer buffer' n h => by
        dsimp only at h
        split at h
        · obtain ⟨rfl, rfl⟩ := Prod.mk.inj (Option.some.inj h)
          simp only [List.length_append, List.length_drop]; omega
        · cases h⟩
    let driver : TransmitDriver Unit Empty := ⟨fun d _ => (.ok (), d)⟩
    let s : System 16 Unit := ⟨⟨⟨[0, 1, 7, 0], by decide⟩⟩, (), []⟩
    run codec driver (System.init ()) [.push ⟨(), [7]⟩ true] = .ok (s, [.ok ()]) ∧
    ∃ s', step codec driver s .flush = .ok (s', .ok ()) ∧
      s'.sent = pushedFrames (E := Empty) codec [.push ⟨(), [7]⟩ true] [.ok ()] ∧ s'.tx.queue.items = [] := by
  intro codec driver s
  have hrun : run codec driver (System.init ()) [.push ⟨(), [7]⟩ true] = .ok (s, [.ok ()]) := rfl
  exact ⟨hrun, flush_delivers_pushed_frames codec driver (fun _ => True) (fun _ _ _ => ⟨rfl, trivial⟩) () _ s _
    hrun trivial⟩

/-- `SerialTransmitter::new()` からのどの呼び出しの列でも、受け取られたバイトとキューをつなげたものは `Ok` の
`push` のフレームを順につなげたものであり、panic は `escape_from_iter` の `expect` だけである。 -/
theorem transmit_run_invariant (codec : Codec H) (driver : TransmitDriver σ E) (d : σ)
    (calls : List (Call H)) :
    (∀ s rs, run codec driver (System.init d : System C σ) calls = .ok (s, rs) →
      s.sent ++ s.tx.queue.items = pushedFrames codec calls rs ∧ s.tx.queue.items.length ≤ C) ∧
    (∀ p, run codec driver (System.init d : System C σ) calls = .error p →
      p = .expect "Incorrect escaped length") ∧
    (∀ (tx tx' : SerialTransmitter C) t allocates (r : Except (NbError (Error E)) Unit),
      tx.push codec t allocates = .ok (r, tx') → r ≠ .ok () → tx' = tx) := by
  obtain ⟨h₁, h₂⟩ := run_spec codec driver calls (System.init d)
  refine ⟨fun s rs h => ⟨by simpa [System.init, SerialTransmitter.new, TransmitQueue.new] using h₁ s rs h,
    s.tx.queue.length_le⟩, h₂, fun tx tx' t allocates r h hr => ?_⟩
  rcases push_spec E codec tx t allocates with ⟨r', tx'', hp, ⟨rfl, -⟩ | ⟨-, rfl⟩⟩ | hp <;>
    rw [hp] at h <;> cases h
  · exact absurd rfl hr
  · rfl

end Serial
end Canadensis
