import Canadensis.BxCan.Lemmas.Driver

/-!
# bxCAN の送信メールボックスの不変条件

メールボックスごとに送信を待つ UAVCAN のフレームを抽象的な状態とし、`transmit` と、ハードウェアが
メールボックスを空けることとを、その上の操作として書く。ドライバはこれを詳細化する：どの
メールボックスも、待っているフレームを変換したものを持ち、期限の記録はそのフレームの時刻である。
そこから、追い出されたフレームが元のまま返ること（`transmit_refines`）と、期限を過ぎたフレームが
メールボックスに残らないことを導く。
-/

namespace Canadensis
namespace BxCan

variable {I : Type}

/-! ## 不変条件 -/

/-- メールボックス `m` は空か、待っているフレームを変換したものを持ち、期限の記録がその時刻である。 -/
def MailboxAgrees (s : BxCanDriver I) (m : Mailbox) : Option (Frame I) → Prop
  | none => s.can.mailboxes m = none
  | some frame => ∃ b, uavcanFrameToBxcan frame = .ok b ∧ s.can.mailboxes m = some b ∧
      s.deadlines.get m = some frame.timestamp

def Tracks (p : Mailbox → Option (Frame I)) (s : BxCanDriver I) : Prop := ∀ m, MailboxAgrees s m (p m)

theorem tracks_new (received : List (Except (NbError Unit) BxFrame)) :
    Tracks (fun _ => none) (BxCanDriver.new ⟨fun _ => none, received⟩ : BxCanDriver I) := fun _ => rfl

theorem MailboxAgrees.congr {s s' : BxCanDriver I} {m : Mailbox} {o : Option (Frame I)}
    (h : MailboxAgrees s m o) (hc : s'.can.mailboxes m = s.can.mailboxes m)
    (hd : s'.deadlines.get m = s.deadlines.get m) : MailboxAgrees s' m o := by
  cases o with
  | none => exact hc.trans h
  | some frame =>
    obtain ⟨b, hb, hs, hd'⟩ := h
    exact ⟨b, hb, hc.trans hs, hd.trans hd'⟩

theorem tracks_place {q : Mailbox → Option (Frame I)} {s : BxCanDriver I} (h : Tracks q s) {frame : Frame I}
    {b : BxFrame} (hb : uavcanFrameToBxcan frame = .ok b) (m : Mailbox) :
    Tracks (Function.update q m (some frame))
      ⟨{ s.can with mailboxes := Function.update s.can.mailboxes m (some b) },
        (s.deadlines.replace m frame.timestamp).2⟩ := by
  intro m'
  by_cases hm : m' = m
  · subst hm
    rw [Function.update_same]
    exact ⟨b, hb, by simp, by simp⟩
  · rw [Function.update_noteq hm]
    exact (h m').congr (by simp [hm]) (by simp [hm])

theorem tracks_finish {p : Mailbox → Option (Frame I)} {s : BxCanDriver I} (h : Tracks p s) (m : Mailbox) :
    Tracks (Function.update p m none) { s with can := s.can.abort m } := by
  intro m'
  by_cases hm : m' = m
  · subst hm
    rw [Function.update_same]
    show (s.can.abort m').mailboxes m' = none
    simp
  · rw [Function.update_noteq hm]
    exact (h m').congr (by simp [hm]) rfl

theorem Tracks.mailbox_eq_some {p : Mailbox → Option (Frame I)} {s : BxCanDriver I} (h : Tracks p s)
    {m : Mailbox} {b : BxFrame} (hb : s.can.mailboxes m = some b) :
    ∃ frame, p m = some frame ∧ uavcanFrameToBxcan frame = .ok b ∧ s.deadlines.get m = some frame.timestamp := by
  have hm := h m
  cases hp : p m with
  | none => rw [hp] at hm; exact absurd (hm.symm.trans hb) (Option.noConfusion)
  | some frame =>
    rw [hp] at hm
    obtain ⟨b', hb', hs, hd⟩ := hm
    exact ⟨frame, rfl, (Option.some.inj (hs.symm.trans hb)) ▸ hb', hd⟩

theorem Tracks.mailbox_freed {p q : Mailbox → Option (Frame I)} {s s' : BxCanDriver I} (h : Tracks p s)
    (h' : Tracks q s') (hqp : ∀ m frame, q m = some frame → p m = some frame) (m : Mailbox) :
    s'.can.mailboxes m = none ∨ s'.can.mailboxes m = s.can.mailboxes m := by
  cases hq : q m with
  | none => have hm := h' m; rw [hq] at hm; exact .inl hm
  | some frame =>
    obtain ⟨b, hb, hs, -⟩ : MailboxAgrees s m (some frame) := hqp m frame hq ▸ h m
    obtain ⟨b', hb', hs', -⟩ : MailboxAgrees s' m (some frame) := hq ▸ h' m
    exact .inr (by rw [hs, hs', ← Except.ok.inj (hb.symm.trans hb')])

/-! ## 受信とフィルタ -/

/-- `receive` は UAVCAN のフレームにできないフレームを読み捨て、次の答え（`now` の時刻をつけたフレームか失敗、
尽きれば `WouldBlock`）を返す。送信の側は変えない。 -/
theorem receive_spec (s : BxCanDriver I) (now : I) :
    (s.receive now).2.can.mailboxes = s.can.mailboxes ∧ (s.receive now).2.deadlines = s.deadlines ∧
    ∃ pre, (∀ r ∈ pre, ∃ b, r = .ok b ∧ (bxcanFrameToUavcan b now).isOk = false) ∧
      ((s.can.received = pre ∧ (s.receive now).1 = .error .wouldBlock ∧ (s.receive now).2.can.received = []) ∨
        (∃ b frame rest, s.can.received = pre ++ .ok b :: rest ∧ bxcanFrameToUavcan b now = .ok frame ∧
          frame.timestamp = now ∧ (s.receive now).1 = .ok frame ∧ (s.receive now).2.can.received = rest) ∨
        (∃ e rest, s.can.received = pre ++ .error e :: rest ∧ (s.receive now).1 = .error e ∧
          (s.receive now).2.can.received = rest)) := by
  obtain ⟨pre, hpre, h⟩ := receiveLoop_spec now s.can.received
  refine ⟨rfl, rfl, pre, hpre, ?_⟩
  simp only [BxCanDriver.receive]
  rcases h with ⟨h, hloop⟩ | ⟨b, frame, rest, h, hb, hloop⟩ | ⟨e, rest, h, hloop⟩ <;> rw [hloop]
  · exact .inl ⟨h, rfl, rfl⟩
  · exact .inr (.inl ⟨b, frame, rest, h, hb, (uavcanFrameToBxcan_of_bxcanFrameToUavcan hb).2, rfl, rfl⟩)
  · exact .inr (.inr ⟨e, rest, h, rfl, rfl⟩)

/-- 二つの変換は互いに逆である。`uavcan_frame_to_bxcan` は 8 バイトを超えるフレームでだけ panic し、
`bxcan_frame_to_uavcan` は拡張 ID のデータフレームだけを受け付ける。 -/
theorem frame_conversion_round_trip (frame : Frame I) (b : BxFrame) (t : I) :
    (frame.data.length ≤ 8 → ∃ b', uavcanFrameToBxcan frame = .ok b' ∧
      bxcanFrameToUavcan b' frame.timestamp = .ok frame) ∧
    (8 < frame.data.length → uavcanFrameToBxcan frame = .error (.expect "Frame data more than 8 bytes")) ∧
    ((∃ frame', bxcanFrameToUavcan b t = .ok frame') ↔ (∃ e, b.id = .extended e) ∧ b.data.isSome) ∧
    ∀ frame', bxcanFrameToUavcan b t = .ok frame' → frame'.timestamp = t ∧ uavcanFrameToBxcan frame' = .ok b := by
  refine ⟨fun h => ⟨_, uavcanFrameToBxcan_of_le h, bxcanFrameToUavcan_of_uavcanFrameToBxcan
    (uavcanFrameToBxcan_of_le h)⟩, uavcanFrameToBxcan_of_lt, ?_,
    fun frame' h => (uavcanFrameToBxcan_of_bxcanFrameToUavcan h).symm⟩
  obtain ⟨_ | e, _ | data⟩ := b <;> simp [bxcanFrameToUavcan, CanId.tryFrom, ExtendedId.raw_le]

/-- `apply_filters` が panic しないのは、渡されたフィルタがバンクに収まり 29 ビットで、失敗の後ならバンクが
あるときである。通るフレームは、成功なら渡されたフィルタのどれかが通すもの、失敗ならすべてである。 -/
theorem applyFilters_spec {N S : Type}
    (optimizeFilters : Option N → List S → Nat → Option (List Filter) × Except OutOfMemoryError Unit)
    (localNode : Option N) (subscriptions : List S) (filters : MasterFilters) :
    let result := optimizeFilters localNode subscriptions filters.numBanks
    ((∃ filters', BxCanDriver.applyFilters optimizeFilters localNode subscriptions filters = .ok filters') ↔
      (∀ optimized, result.1 = some optimized → optimized.length ≤ filters.numBanks ∧
        ∀ filter ∈ optimized, filter.id ≤ 0x1FFFFFFF ∧ filter.mask ≤ 0x1FFFFFFF) ∧
      (result.2 = .ok () ∨ 0 < filters.numBanks)) ∧
    (∀ filters', BxCanDriver.applyFilters optimizeFilters localNode subscriptions filters = .ok filters' →
      filters'.numBanks = filters.numBanks ∧
      (result.2 = .ok () → result.1 = none → filters' = filters) ∧
      (result.2 = .ok () → ∀ optimized, result.1 = some optimized →
        ∀ frame, filters'.accepts frame = optimized.any (·.accepts frame)) ∧
      (result.2 ≠ .ok () → ∀ frame, filters'.accepts frame = true)) ∧
    ((∃ filters', BxCanDriver.applyAcceptAll filters = .ok filters') ↔ 0 < filters.numBanks) ∧
    ∀ filters', BxCanDriver.applyAcceptAll filters = .ok filters' →
      filters'.numBanks = filters.numBanks ∧ ∀ frame, filters'.accepts frame = true := by
  refine and_assoc.mp ⟨?_, MasterFilters.acceptAll_spec filters⟩
  dsimp only [BxCanDriver.applyFilters]
  rcases optimizeFilters localNode subscriptions filters.numBanks with ⟨_ | optimized, _ | ⟨⟨⟩⟩⟩ <;> dsimp only
  case mk.none.error =>
    obtain ⟨hok, hspec⟩ := MasterFilters.acceptAll_spec filters
    simp only [pure_bind]
    refine ⟨hok.trans ⟨fun h => ⟨fun _ => nofun, .inr h⟩, fun ⟨_, h⟩ => h.resolve_left nofun⟩, fun filters' h => ?_⟩
    exact ⟨(hspec filters' h).1, nofun, nofun, fun _ => (hspec filters' h).2⟩
  case mk.none.ok =>
    refine ⟨⟨fun _ => ⟨fun _ => nofun, .inl rfl⟩, fun _ => ⟨_, rfl⟩⟩, fun filters' h => ?_⟩
    obtain rfl := Except.ok.inj h
    exact ⟨rfl, fun _ _ => rfl, fun _ _ => nofun, fun h => absurd rfl h⟩
  all_goals obtain ⟨hok, hspec⟩ := enableFilters_clear optimized filters
  case mk.some.ok =>
    rw [bind_pure]
    refine ⟨hok.trans ⟨fun h => ⟨by rintro _ ⟨⟩; exact h, .inl rfl⟩, fun ⟨h, _⟩ => h _ rfl⟩, fun filters' h => ?_⟩
    exact ⟨(hspec filters' h).1, fun _ => nofun, by rintro - _ ⟨⟩; exact (hspec filters' h).2, fun h => absurd rfl h⟩
  rcases hE : enableFilters 0 optimized filters.clear with p | y
  · rw [error_bind]
    refine ⟨⟨nofun, fun ⟨hfits, _⟩ => ?_⟩, nofun⟩
    obtain ⟨_, h⟩ := hok.mpr (hfits _ rfl)
    cases hE.symm.trans h
  obtain ⟨hnum, -⟩ := hspec y hE
  obtain ⟨hok', hspec'⟩ := MasterFilters.acceptAll_spec y
  have hfits := hok.mp ⟨y, hE⟩
  rw [ok_bind]
  refine ⟨hok'.trans ⟨fun h => ⟨by rintro _ ⟨⟩; exact hfits, .inr (hnum ▸ h)⟩, fun ⟨_, h⟩ => hnum ▸ h.resolve_left nofun⟩,
    fun filters' h => ?_⟩
  obtain ⟨hnum', haccepts⟩ := hspec' filters' h
  exact ⟨hnum'.trans hnum, nofun, nofun, fun _ => haccepts⟩

/-! ## 抽象的なメールボックス -/

/-- ドライバへの `transmit` と、ハードウェアがメールボックスを空けること（送り終えたか、やめたか）。 -/
inductive Event (I : Type) where
  | transmit (frame : Frame I) (now : I) (choice : Option Mailbox)
  | finish (mailbox : Mailbox)

def Event.Fits : Event I → Prop
  | .transmit frame _ _ => frame.data.length ≤ 8
  | .finish _ => True

def submitted : List (Event I) → List (Frame I)
  | [] => []
  | .transmit frame _ _ :: events => frame :: submitted events
  | .finish _ :: events => submitted events

variable [Instant I]

namespace Pending

def clean (p : Mailbox → Option (Frame I)) (now : I) : Mailbox → Option (Frame I) :=
  fun m => (p m).filter fun frame => decide (Instant.overflowSafeCompare now frame.timestamp ≠ .gt)

/-- 期限を過ぎた待ちを捨て、期限内のフレームを選ばれたメールボックスに置き、そこで待っていたものを返す。 -/
def transmit (p : Mailbox → Option (Frame I)) (frame : Frame I) (now : I) (choice : Option Mailbox) :
    Except (NbError Empty) (Option (Frame I)) × (Mailbox → Option (Frame I)) :=
  let p := clean p now
  if Instant.overflowSafeCompare frame.timestamp now = .lt then (.ok none, p)
  else
    match choice with
    | none => (.error .wouldBlock, p)
    | some m => (.ok (p m), Function.update p m (some frame))

def step (p : Mailbox → Option (Frame I)) :
    Event I → Option (Except (NbError Empty) (Option (Frame I))) × (Mailbox → Option (Frame I))
  | .transmit frame now choice => ((transmit p frame now choice).1, (transmit p frame now choice).2)
  | .finish m => (none, Function.update p m none)

def run (p : Mailbox → Option (Frame I)) :
    List (Event I) → List (Option (Except (NbError Empty) (Option (Frame I)))) × (Mailbox → Option (Frame I))
  | [] => ([], p)
  | e :: events => ((step p e).1 :: (run (step p e).2 events).1, (run (step p e).2 events).2)

theorem clean_eq_some {p : Mailbox → Option (Frame I)} {now : I} {m : Mailbox} {frame : Frame I} :
    clean p now m = some frame ↔ p m = some frame ∧ Instant.overflowSafeCompare now frame.timestamp ≠ .gt := by
  simp only [clean, Option.filter_eq_some, Option.mem_def, decide_eq_true_eq]

theorem transmit_snd_eq_some {p : Mailbox → Option (Frame I)} {frame frame' : Frame I} {now : I}
    {choice : Option Mailbox} {m : Mailbox} (h : (transmit p frame now choice).2 m = some frame') :
    clean p now m = some frame' ∨ (frame' = frame ∧ Instant.overflowSafeCompare frame.timestamp now ≠ .lt) := by
  unfold transmit at h
  split_ifs at h with hc
  · exact .inl h
  · rcases choice with _ | m'
    · exact .inl h
    · dsimp only at h
      by_cases hm : m = m'
      · subst hm
        simp only [Function.update_same, Option.some.injEq] at h
        exact .inr ⟨h.symm, hc⟩
      · exact .inl (by rwa [Function.update_noteq hm] at h)

theorem run_snd_eq_some : ∀ (events : List (Event I)) (p : Mailbox → Option (Frame I)) (m : Mailbox)
    (frame : Frame I), (run p events).2 m = some frame → (∃ m', p m' = some frame) ∨ frame ∈ submitted events
  | [], _, m, _, h => .inl ⟨m, h⟩
  | .transmit frame now choice :: events, p, m, frame', h => by
    rcases run_snd_eq_some events _ m frame' h with ⟨m', hm'⟩ | hs
    · rcases transmit_snd_eq_some hm' with hc | ⟨rfl, -⟩
      · exact .inl ⟨m', (clean_eq_some.mp hc).1⟩
      · exact .inr (List.mem_cons_self _ _)
    · exact .inr (List.mem_cons_of_mem _ hs)
  | .finish m₀ :: events, p, m, frame', h => by
    rcases run_snd_eq_some events _ m frame' h with ⟨m', hm'⟩ | hs
    · dsimp only [step] at hm'
      by_cases hm : m' = m₀
      · subst hm
        simp at hm'
      · exact .inl ⟨m', by rwa [Function.update_noteq hm] at hm'⟩
    · exact .inr hs

end Pending

/-! ## ドライバの詳細化 -/

theorem isExpired_of_get {deadlines : DeadlineTracker I} {m : Mailbox} {d : I} (h : deadlines.get m = some d)
    (now : I) : isExpired deadlines now m = decide (Instant.overflowSafeCompare now d = .gt) := by
  simp [isExpired, h]

theorem tracks_clean {p : Mailbox → Option (Frame I)} {s : BxCanDriver I} (h : Tracks p s) (now : I) :
    Tracks (Pending.clean p now) { s with can := cleanExpiredFrames s.deadlines s.can now } := by
  intro m
  have hm := h m
  simp only [Pending.clean]
  cases hp : p m with
  | none =>
    rw [hp] at hm
    show (cleanExpiredFrames s.deadlines s.can now).mailboxes m = none
    rw [mailboxes_cleanExpiredFrames, hm, ite_self]
  | some frame =>
    rw [hp] at hm
    obtain ⟨b, hb, hs, hd⟩ := hm
    by_cases hx : Instant.overflowSafeCompare now frame.timestamp = .gt
    · rw [show (some frame).filter _ = none by simp [Option.filter, hx]]
      show (cleanExpiredFrames s.deadlines s.can now).mailboxes m = none
      simp [mailboxes_cleanExpiredFrames, isExpired_of_get hd, hx]
    · simp only [Option.filter, hx, ne_eq, not_false_eq_true, decide_True, if_true]
      exact ⟨b, hb, by simp [mailboxes_cleanExpiredFrames, isExpired_of_get hd, hx, hs], hd⟩

theorem transmit_refines {p : Mailbox → Option (Frame I)} {s : BxCanDriver I} (h : Tracks p s) {frame : Frame I}
    (hfit : frame.data.length ≤ 8) (now : I) (choice : Option Mailbox) :
    ∃ s', s.transmit frame now choice = .ok ((Pending.transmit p frame now choice).1, s') ∧
      Tracks (Pending.transmit p frame now choice).2 s' := by
  have h₁ := tracks_clean h now
  unfold BxCanDriver.transmit Pending.transmit
  cases hc : Instant.overflowSafeCompare frame.timestamp now
  · exact ⟨_, by simp only [hc]; rfl, h₁⟩
  all_goals
    simp only [hc, reduceCtorEq, if_false, uavcanFrameToBxcan_of_le hfit, ok_bind]
    cases choice with
    | none => exact ⟨_, rfl, h₁⟩
    | some m =>
      refine ⟨_, ?_, tracks_place h₁ (uavcanFrameToBxcan_of_le hfit) m⟩
      simp only [Can.transmit, DeadlineTracker.replace_fst]
      have hm := h₁ m
      cases hq : Pending.clean p now m <;> rw [hq] at hm
      · rw [show (cleanExpiredFrames s.deadlines s.can now).mailboxes m = none from hm]
        rfl
      · obtain ⟨b, hb, hs, hd⟩ := hm
        rw [show (cleanExpiredFrames s.deadlines s.can now).mailboxes m = some b from hs,
          show s.deadlines.get m = some _ from hd]
        simp only [bxcanFrameToUavcan_of_uavcanFrameToBxcan hb]
        rfl

def step (s : BxCanDriver I) :
    Event I → Except Panic (Option (Except (NbError Empty) (Option (Frame I))) × BxCanDriver I)
  | .transmit frame now choice => do
    let (r, s) ← s.transmit frame now choice
    pure (some r, s)
  | .finish m => pure (none, { s with can := s.can.abort m })

def run (s : BxCanDriver I) :
    List (Event I) → Except Panic (List (Option (Except (NbError Empty) (Option (Frame I)))) × BxCanDriver I)
  | [] => pure ([], s)
  | e :: events => do
    let (r, s) ← step s e
    let (rs, s) ← run s events
    pure (r :: rs, s)

theorem step_refines {p : Mailbox → Option (Frame I)} {s : BxCanDriver I} (h : Tracks p s) {e : Event I}
    (he : e.Fits) : ∃ s', step s e = .ok ((Pending.step p e).1, s') ∧ Tracks (Pending.step p e).2 s' := by
  cases e with
  | transmit frame now choice =>
    obtain ⟨s', hs, ht⟩ := transmit_refines h he now choice
    exact ⟨s', by simp only [step, hs, ok_bind]; rfl, ht⟩
  | finish m => exact ⟨_, rfl, tracks_finish h m⟩

/-- 8 バイトに収まるフレームだけを送るなら、ドライバはどの実行でも panic せず、抽象的なメールボックスと
同じ結果を返す。 -/
theorem run_refines : ∀ (events : List (Event I)) {p : Mailbox → Option (Frame I)} {s : BxCanDriver I},
    Tracks p s → (∀ e ∈ events, e.Fits) →
      ∃ s', run s events = .ok ((Pending.run p events).1, s') ∧ Tracks (Pending.run p events).2 s'
  | [], _, _, h, _ => ⟨_, rfl, h⟩
  | e :: events, _, _, h, hfit => by
    obtain ⟨s₁, hs₁, h₁⟩ := step_refines h (hfit e (List.mem_cons_self _ _))
    obtain ⟨s₂, hs₂, h₂⟩ := run_refines events h₁ fun e he => hfit e (List.mem_cons_of_mem _ he)
    exact ⟨s₂, by simp only [run, hs₁, hs₂, ok_bind]; rfl, h₂⟩

theorem mem_submitted_of_run {events : List (Event I)} {m : Mailbox} {frame : Frame I}
    (h : (Pending.run (fun _ => none) events).2 m = some frame) : frame ∈ submitted events := by
  rcases Pending.run_snd_eq_some events _ m frame h with ⟨_, h⟩ | h
  · cases h
  · exact h

/-- `BxCanDriver::new` からのどの実行でも、各メールボックスは `transmit` に渡したフレームを変換したものと
その時刻の期限を持ち、追い出されたフレームは元のまま `Ok(Some(g))` で返る。 -/
theorem mailbox_holds_submitted_frame (received : List (Except (NbError Unit) BxFrame)) (events : List (Event I))
    (hfit : ∀ e ∈ events, e.Fits) :
    ∃ results s, run (BxCanDriver.new ⟨fun _ => none, received⟩) events = .ok (results, s) ∧
      (∀ m b, s.can.mailboxes m = some b → ∃ frame ∈ submitted events,
        uavcanFrameToBxcan frame = .ok b ∧ s.deadlines.get m = some frame.timestamp) ∧
      (∀ (frame : Frame I) now m b, frame.data.length ≤ 8 → Instant.overflowSafeCompare frame.timestamp now ≠ .lt →
        (cleanExpiredFrames s.deadlines s.can now).mailboxes m = some b →
        ∃ g ∈ submitted events, uavcanFrameToBxcan g = .ok b ∧ s.deadlines.get m = some g.timestamp ∧
          ∃ s', s.transmit frame now (some m) = .ok (.ok (some g), s')) ∧
      ∀ (frame : Frame I) b, uavcanFrameToBxcan frame = .ok b → bxcanFrameToUavcan b frame.timestamp = .ok frame := by
  obtain ⟨s, hrun, ht⟩ := run_refines events (tracks_new received) hfit
  refine ⟨_, s, hrun, fun m b hb => ?_, fun frame now m b hfr hlt hb => ?_,
    fun _ _ => bxcanFrameToUavcan_of_uavcanFrameToBxcan⟩
  · obtain ⟨frame, hq, hb, hd⟩ := ht.mailbox_eq_some hb
    exact ⟨frame, mem_submitted_of_run hq, hb, hd⟩
  · obtain ⟨g, hq, hg, hd⟩ := (tracks_clean ht now).mailbox_eq_some hb
    obtain ⟨s', hs', -⟩ := transmit_refines ht hfr now (some m)
    refine ⟨g, mem_submitted_of_run (Pending.clean_eq_some.mp hq).1, hg, hd, s', ?_⟩
    rw [hs']
    simp [Pending.transmit, hlt, hq]

theorem mailbox_holds_submitted_frame_after_one_transmit :
    (∀ e ∈ ([.transmit ⟨5#8, ⟨0x10, by decide⟩, [1, 2]⟩ 3#8 (some .mailbox0)] : List (Event (BitVec 8))), e.Fits) ∧
    ∃ results s, run (BxCanDriver.new ⟨fun _ => none, []⟩)
        [.transmit ⟨5#8, ⟨0x10, by decide⟩, [1, 2]⟩ 3#8 (some .mailbox0)] = .ok (results, s) ∧
      (∀ m b, s.can.mailboxes m = some b →
        ∃ frame ∈ submitted [Event.transmit ⟨5#8, ⟨0x10, by decide⟩, [1, 2]⟩ 3#8 (some .mailbox0)],
          uavcanFrameToBxcan frame = .ok b ∧ s.deadlines.get m = some frame.timestamp) ∧
      (∀ (frame : Frame (BitVec 8)) now m b, frame.data.length ≤ 8 →
        Instant.overflowSafeCompare frame.timestamp now ≠ .lt →
        (cleanExpiredFrames s.deadlines s.can now).mailboxes m = some b →
        ∃ g ∈ submitted [Event.transmit ⟨5#8, ⟨0x10, by decide⟩, [1, 2]⟩ 3#8 (some .mailbox0)],
          uavcanFrameToBxcan g = .ok b ∧ s.deadlines.get m = some g.timestamp ∧
          ∃ s', s.transmit frame now (some m) = .ok (.ok (some g), s')) ∧
      ∀ (frame : Frame (BitVec 8)) b, uavcanFrameToBxcan frame = .ok b →
        bxcanFrameToUavcan b frame.timestamp = .ok frame :=
  ⟨by simp [Event.Fits], mailbox_holds_submitted_frame [] _ (by simp [Event.Fits])⟩

/-- 到達できるどの状態からの `transmit(frame, now)` も、期限が `now` より前のフレームを置かず、呼び出しの後、
期限が `now` より前のフレームを持つメールボックスはない。 -/
theorem transmit_leaves_no_expired_frame {w : Nat} (received : List (Except (NbError Unit) BxFrame))
    (events : List (Event (BitVec w))) (hfit : ∀ e ∈ events, e.Fits) (frame : Frame (BitVec w))
    (hframe : frame.data.length ≤ 8) (now : BitVec w) (choice : Option Mailbox) :
    ∃ results s r s', run (BxCanDriver.new ⟨fun _ => none, received⟩) events = .ok (results, s) ∧
      s.transmit frame now choice = .ok (r, s') ∧
      (overflowSafeCompare frame.timestamp now = .lt →
        r = .ok none ∧ ∀ m, s'.can.mailboxes m = none ∨ s'.can.mailboxes m = s.can.mailboxes m) ∧
      ∀ m b, s'.can.mailboxes m = some b → ∃ frame', uavcanFrameToBxcan frame' = .ok b ∧
        s'.deadlines.get m = some frame'.timestamp ∧ overflowSafeCompare now frame'.timestamp ≠ .gt := by
  obtain ⟨s, hrun, ht⟩ := run_refines events (tracks_new received) hfit
  obtain ⟨s', hs', ht'⟩ := transmit_refines ht hframe now choice
  refine ⟨_, s, _, s', hrun, hs', fun hlt => ?_, fun m b hb => ?_⟩
  · have hp : Pending.transmit (Pending.run (fun _ => none) events).2 frame now choice =
        (.ok none, Pending.clean (Pending.run (fun _ => none) events).2 now) := if_pos hlt
    rw [hp] at ht' ⊢
    exact ⟨rfl, ht.mailbox_freed ht' fun _ _ hq => (Pending.clean_eq_some.mp hq).1⟩
  · obtain ⟨frame', hq, hb, hd⟩ := ht'.mailbox_eq_some hb
    refine ⟨frame', hb, hd, ?_⟩
    rcases Pending.transmit_snd_eq_some hq with hc | ⟨rfl, hne⟩
    · exact (Pending.clean_eq_some.mp hc).2
    · exact overflowSafeCompare_swap_ne_gt hne

theorem transmit_leaves_no_expired_frame_after_one_transmit :
    (∀ e ∈ ([.transmit ⟨5#8, ⟨0x10, by decide⟩, [1, 2]⟩ 3#8 (some .mailbox0)] : List (Event (BitVec 8))), e.Fits) ∧
    ([7, 7] : List UInt8).length ≤ 8 ∧
    ∃ results s r s', run (BxCanDriver.new ⟨fun _ => none, []⟩)
        [.transmit ⟨5#8, ⟨0x10, by decide⟩, [1, 2]⟩ 3#8 (some .mailbox0)] = .ok (results, s) ∧
      s.transmit ⟨2#8, ⟨0x11, by decide⟩, [7, 7]⟩ 6#8 (some .mailbox0) = .ok (r, s') ∧
      (overflowSafeCompare (2#8) (6#8) = .lt →
        r = .ok none ∧ ∀ m, s'.can.mailboxes m = none ∨ s'.can.mailboxes m = s.can.mailboxes m) ∧
      ∀ m b, s'.can.mailboxes m = some b → ∃ frame' : Frame (BitVec 8), uavcanFrameToBxcan frame' = .ok b ∧
        s'.deadlines.get m = some frame'.timestamp ∧ overflowSafeCompare (6#8) frame'.timestamp ≠ .gt :=
  ⟨by simp [Event.Fits], by decide,
    transmit_leaves_no_expired_frame [] _ (by simp [Event.Fits]) ⟨2#8, ⟨0x11, by decide⟩, [7, 7]⟩ (by decide) 6#8
      (some .mailbox0)⟩

end BxCan
end Canadensis
