import Canadensis.BxCan.Driver

/-!
# bxCAN ドライバの補題

期限の記録、`clean_expired_frames`、フレームの変換、時刻の比較について、後の証明が定義を
開かずに使う形の補題。
-/

namespace Canadensis
namespace BxCan

variable {I : Type}

/-! ## メールボックスと期限 -/

@[simp] theorem Can.mailboxes_abort (can : Can) (m m' : Mailbox) :
    (can.abort m).mailboxes m' = if m' = m then none else can.mailboxes m' := by
  simp [Can.abort, Function.update_apply]

namespace DeadlineTracker

@[simp] theorem get_new (m : Mailbox) : (new : DeadlineTracker I).get m = none := by
  cases m <;> rfl

@[simp] theorem replace_fst (t : DeadlineTracker I) (m : Mailbox) (d : I) : (t.replace m d).1 = t.get m := rfl

@[simp] theorem get_replace (t : DeadlineTracker I) (m m' : Mailbox) (d : I) :
    (t.replace m d).2.get m' = if m' = m then some d else t.get m' := by
  simp only [replace, get, List.getElem_set]
  by_cases h : m' = m
  · simp [h]
  · simp [h, Ne.symm (mt Mailbox.toNat_injective h)]

end DeadlineTracker

section Expiry

variable [Instant I]

/-- メールボックス `m` の期限の記録が、`now` より前である。 -/
def isExpired (deadlines : DeadlineTracker I) (now : I) (m : Mailbox) : Bool :=
  match deadlines.get m with
  | some deadline => decide (Instant.overflowSafeCompare now deadline = .gt)
  | none => false

theorem mailboxes_abortIfExpired (deadlines : DeadlineTracker I) (now : I) (can : Can) (m m' : Mailbox) :
    (abortIfExpired deadlines now can m).mailboxes m' =
      if m' = m ∧ isExpired deadlines now m then none else can.mailboxes m' := by
  unfold abortIfExpired isExpired
  split <;> [split; skip] <;> simp_all

theorem mailboxes_foldl_abortIfExpired (deadlines : DeadlineTracker I) (now : I) (m : Mailbox) :
    ∀ (l : List Mailbox) (can : Can), (l.foldl (abortIfExpired deadlines now) can).mailboxes m =
      if m ∈ l ∧ isExpired deadlines now m then none else can.mailboxes m
  | [], _ => by simp
  | m' :: l, can => by
    rw [List.foldl_cons, mailboxes_foldl_abortIfExpired deadlines now m l, mailboxes_abortIfExpired]
    rcases eq_or_ne m m' with rfl | hm <;> by_cases h : isExpired deadlines now m <;> simp [h, *]

/-- `clean_expired_frames` は、期限の記録が `now` より前のメールボックスだけを空ける。 -/
theorem mailboxes_cleanExpiredFrames (deadlines : DeadlineTracker I) (can : Can) (now : I) (m : Mailbox) :
    (cleanExpiredFrames deadlines can now).mailboxes m = if isExpired deadlines now m then none else can.mailboxes m := by
  rw [cleanExpiredFrames, mailboxes_foldl_abortIfExpired]
  cases m <;> simp

end Expiry

/-! ## 変換と受信 -/

theorem uavcanFrameToBxcan_of_le {frame : Frame I} (h : frame.data.length ≤ 8) :
    uavcanFrameToBxcan frame = .ok (BxFrame.newData (.extended ⟨frame.id.value, frame.id.value_le⟩) ⟨frame.data, h⟩) := by
  simp [uavcanFrameToBxcan, ExtendedId.new, frame.id.value_le, Data.new, h]

theorem uavcanFrameToBxcan_of_lt {frame : Frame I} (h : 8 < frame.data.length) :
    uavcanFrameToBxcan frame = .error (.expect "Frame data more than 8 bytes") := by
  simp [uavcanFrameToBxcan, ExtendedId.new, frame.id.value_le, Data.new, Nat.not_le.mpr h]

/-- `bxcan_frame_to_uavcan` は `uavcan_frame_to_bxcan` を、時刻を戻して元に戻す。 -/
theorem bxcanFrameToUavcan_of_uavcanFrameToBxcan {frame : Frame I} {b : BxFrame}
    (h : uavcanFrameToBxcan frame = .ok b) : bxcanFrameToUavcan b frame.timestamp = .ok frame := by
  by_cases hl : frame.data.length ≤ 8
  · rw [uavcanFrameToBxcan_of_le hl] at h
    cases h
    simp [bxcanFrameToUavcan, BxFrame.newData, CanId.tryFrom, frame.id.value_le]
  · rw [uavcanFrameToBxcan_of_lt (Nat.lt_of_not_le hl)] at h
    cases h

/-- 逆向き：`bxcan_frame_to_uavcan` が受け付けるフレームは、`uavcan_frame_to_bxcan` で元に戻る。 -/
theorem uavcanFrameToBxcan_of_bxcanFrameToUavcan {b : BxFrame} {t : I} {frame : Frame I}
    (h : bxcanFrameToUavcan b t = .ok frame) : uavcanFrameToBxcan frame = .ok b ∧ frame.timestamp = t := by
  obtain ⟨_ | ⟨raw, hraw⟩, data⟩ := b
  · cases h
  obtain _ | ⟨bytes, hbytes⟩ := data <;> simp only [bxcanFrameToUavcan, CanId.tryFrom, hraw, dite_true] at h <;> cases h
  exact ⟨uavcanFrameToBxcan_of_le hbytes, rfl⟩

/-- `receive` のループは、UAVCAN のフレームにできない列 `pre` を読み捨て、その次の答えで止まる。 -/
theorem receiveLoop_spec (now : I) : ∀ rs : List (Except (NbError Unit) BxFrame), ∃ pre,
    (∀ r ∈ pre, ∃ b, r = .ok b ∧ (bxcanFrameToUavcan b now).isOk = false) ∧
    ((rs = pre ∧ receiveLoop now rs = (.error .wouldBlock, [])) ∨
      (∃ b frame rest, rs = pre ++ .ok b :: rest ∧ bxcanFrameToUavcan b now = .ok frame ∧
        receiveLoop now rs = (.ok frame, rest)) ∨
      (∃ e rest, rs = pre ++ .error e :: rest ∧ receiveLoop now rs = (.error e, rest)))
  | [] => ⟨[], by simp, .inl ⟨rfl, rfl⟩⟩
  | .error e :: rest => ⟨[], by simp, .inr (.inr ⟨e, rest, rfl, by cases e <;> rfl⟩)⟩
  | .ok b :: rest => by
    cases hb : bxcanFrameToUavcan b now with
    | ok frame => exact ⟨[], by simp, .inr (.inl ⟨b, frame, rest, rfl, hb, by rw [receiveLoop, hb]⟩)⟩
    | error err =>
      have hloop : receiveLoop now (.ok b :: rest) = receiveLoop now rest := by rw [receiveLoop, hb]
      obtain ⟨pre, hpre, h⟩ := receiveLoop_spec now rest
      refine ⟨.ok b :: pre, ?_, ?_⟩
      · rintro r (_ | ⟨_, hr⟩)
        · exact ⟨b, rfl, by rw [hb]; rfl⟩
        · exact hpre r hr
      · rw [hloop]
        rcases h with ⟨rfl, h⟩ | ⟨b', frame, rest', rfl, hb', h⟩ | ⟨e, rest', rfl, h⟩
        · exact .inl ⟨rfl, h⟩
        · exact .inr (.inl ⟨b', frame, rest', rfl, hb', h⟩)
        · exact .inr (.inr ⟨e, rest', rfl, h⟩)

/-! ## 受信フィルタ -/

theorem toNat_ofNat_of_lt {i : Nat} (h : i < 256) : (UInt8.ofNat i).toNat = i := by
  rw [UInt8.toNat, UInt8.ofNat]; exact Nat.mod_eq_of_lt h

namespace MasterFilters

theorem numBanks_lt (filters : MasterFilters) : filters.numBanks < 256 := filters.length_banks_lt

@[simp] theorem numBanks_clear (filters : MasterFilters) : filters.clear.numBanks = filters.numBanks := by
  simp [clear, numBanks]

theorem banks_clear (filters : MasterFilters) : filters.clear.banks = List.replicate filters.numBanks none := by
  simp [clear, numBanks, List.map_const']

theorem enableBank_of_lt {filters : MasterFilters} {index : UInt8} (h : index.toNat < filters.numBanks)
    (config : Mask32) :
    ∃ filters', filters.enableBank index config = .ok filters' ∧
      filters'.banks = filters.banks.set index.toNat (some config) :=
  ⟨_, if_pos h, rfl⟩

theorem enableBank_of_le {filters : MasterFilters} {index : UInt8} (h : filters.numBanks ≤ index.toNat)
    (config : Mask32) :
    filters.enableBank index config = .error (.indexOutOfBounds filters.numBanks index.toNat) :=
  if_neg (Nat.not_lt.mpr h)

/-- `clear().enable_bank(0, Mask32::accept_all())` は、バンクがあればすべてのフレームを通す。 -/
theorem acceptAll_spec (filters : MasterFilters) :
    ((∃ filters', filters.clear.enableBank 0 .acceptAll = .ok filters') ↔ 0 < filters.numBanks) ∧
    ∀ filters', filters.clear.enableBank 0 .acceptAll = .ok filters' →
      filters'.numBanks = filters.numBanks ∧ ∀ frame, filters'.accepts frame = true := by
  rcases Nat.eq_zero_or_pos filters.numBanks with h | h
  · have := enableBank_of_le (show filters.clear.numBanks ≤ (0 : UInt8).toNat by simp [h]) .acceptAll
    simp [this, h]
  obtain ⟨filters', h', hbanks⟩ :=
    enableBank_of_lt (show (0 : UInt8).toNat < filters.clear.numBanks by simpa) .acceptAll
  obtain ⟨n, hn⟩ : ∃ n, filters.numBanks = n + 1 := ⟨filters.numBanks - 1, by omega⟩
  rw [banks_clear, hn] at hbanks
  refine ⟨⟨fun _ => h, fun _ => ⟨_, h'⟩⟩, fun filters'' h'' => ?_⟩
  obtain rfl := Except.ok.inj (h'.symm.trans h'')
  exact ⟨by simp [numBanks, hbanks]; exact hn.symm,
    fun frame => by simp [accepts, hbanks, List.replicate_succ, Mask32.accepts]⟩

end MasterFilters

/-- クロージャがフィルタに有効にするバンク。ID かマスクが 29 ビットを超えれば `none`（`unwrap` が panic する）。 -/
def Filter.toBank (filter : Filter) : Option Mask32 :=
  match ExtendedId.new filter.id, ExtendedId.new filter.mask with
  | some id, some mask => some (.framesWithExtId id mask)
  | _, _ => none

/-- 最適化したフィルタが通すフレーム：拡張 ID が、マスクの立つビットでフィルタの ID と一致するもの。 -/
def Filter.accepts (filter : Filter) (frame : BxFrame) : Bool :=
  match frame.id with
  | .extended e => e.raw &&& filter.mask == filter.id &&& filter.mask
  | .standard _ => false

theorem isSome_toBank (filter : Filter) :
    filter.toBank.isSome ↔ filter.id ≤ 0x1FFFFFFF ∧ filter.mask ≤ 0x1FFFFFFF := by
  unfold Filter.toBank ExtendedId.new
  by_cases hid : filter.id ≤ 0x1FFFFFFF <;> by_cases hmask : filter.mask ≤ 0x1FFFFFFF <;> simp [hid, hmask]

theorem accepts_of_toBank {filter : Filter} {config : Mask32} (h : filter.toBank = some config) (frame : BxFrame) :
    config.accepts frame = filter.accepts frame := by
  unfold Filter.toBank ExtendedId.new at h
  split_ifs at h
  cases h
  obtain ⟨_ | e, data⟩ := frame <;> rfl

theorem any_map_toBank {optimized : List Filter} (h : ∀ filter ∈ optimized, filter.toBank.isSome) (frame : BxFrame) :
    (optimized.map Filter.toBank).any (fun bank => bank.any fun config => config.accepts frame) =
      optimized.any (·.accepts frame) := by
  induction optimized with
  | nil => rfl
  | cons filter optimized ih =>
    obtain ⟨config, hconfig⟩ := Option.isSome_iff_exists.mp (h filter (List.mem_cons_self _ _))
    simp [hconfig, accepts_of_toBank hconfig, ih fun f hf => h f (List.mem_cons_of_mem _ hf)]

theorem enableFilters_cons (i : Nat) (filter : Filter) (optimized : List Filter) (filters : MasterFilters) :
    enableFilters i (filter :: optimized) filters = match filter.toBank with
      | some config => filters.enableBank (UInt8.ofNat i) config >>= enableFilters (i + 1) optimized
      | none => .error .unwrap := by
  rcases hid : ExtendedId.new filter.id with _ | id <;> rcases hmask : ExtendedId.new filter.mask with _ | mask <;>
    simp only [enableFilters, Filter.toBank, hid, hmask]

/-- ループは、フィルタがバンクに収まり 29 ビットのときだけ panic せず、バンク `i` から順にフィルタを置く。 -/
theorem enableFilters_spec : ∀ (optimized : List Filter) (i : Nat) (filters : MasterFilters), i ≤ filters.numBanks →
    ((∃ filters', enableFilters i optimized filters = .ok filters') ↔
      i + optimized.length ≤ filters.numBanks ∧ ∀ filter ∈ optimized, filter.toBank.isSome) ∧
    ∀ filters', enableFilters i optimized filters = .ok filters' →
      filters'.banks = filters.banks.take i ++ optimized.map Filter.toBank ++ filters.banks.drop (i + optimized.length)
  | [], i, filters, hi => ⟨⟨fun _ => ⟨by simpa using hi, nofun⟩, fun _ => ⟨_, rfl⟩⟩, fun filters' h => by
    cases h; simp only [List.map_nil, List.append_nil, List.length_nil, Nat.add_zero, List.take_append_drop]⟩
  | filter :: optimized, i, filters, hi => by
    rw [enableFilters_cons]
    rcases hbank : filter.toBank with _ | config
    · refine ⟨⟨nofun, fun ⟨_, hfits⟩ => ?_⟩, nofun⟩
      have := hfits filter (List.mem_cons_self _ _)
      rw [hbank] at this
      cases this
    dsimp only
    have hidx : (UInt8.ofNat i).toNat = i := toNat_ofNat_of_lt (by have := filters.numBanks_lt; omega)
    by_cases hlt : i < filters.banks.length
    case neg =>
      rw [MasterFilters.enableBank_of_le (by rw [hidx]; exact Nat.not_lt.mp hlt)]
      refine ⟨⟨nofun, fun ⟨h, _⟩ => ?_⟩, nofun⟩
      simp only [MasterFilters.numBanks, List.length_cons] at h
      omega
    obtain ⟨filters₁, h₁, hbanks₁⟩ := MasterFilters.enableBank_of_lt (by rw [hidx]; exact hlt) config
    rw [hidx, List.set_eq_take_cons_drop _ hlt] at hbanks₁
    have hmin : min i filters.banks.length = i := Nat.min_eq_left (Nat.le_of_lt hlt)
    have hnum : filters₁.numBanks = filters.numBanks := by
      simp [MasterFilters.numBanks, hbanks₁, hmin]; omega
    rw [h₁, ok_bind]
    obtain ⟨hok, hbanks⟩ := enableFilters_spec optimized (i + 1) filters₁ (by rw [hnum]; exact hlt)
    refine ⟨by rw [hok]; simp [hnum, hbank, Nat.add_assoc, Nat.add_comm 1], fun filters' h => ?_⟩
    rw [hbanks filters' h, hbanks₁]
    have hdrop : (filters.banks.take i).drop (i + (optimized.length + 1)) = [] := List.drop_eq_nil_of_le (by simp)
    simp [hbank, hmin, hdrop, Nat.add_assoc, Nat.add_comm 1, List.take_append_eq_append_take,
      List.drop_append_eq_append_drop, List.drop_drop, List.take_take]

/-- 消したバンクに最適化したフィルタを順に置くと、通るのはどれかのフィルタが通すフレームである。 -/
theorem enableFilters_clear (optimized : List Filter) (filters : MasterFilters) :
    ((∃ filters', enableFilters 0 optimized filters.clear = .ok filters') ↔
      optimized.length ≤ filters.numBanks ∧ ∀ filter ∈ optimized, filter.id ≤ 0x1FFFFFFF ∧ filter.mask ≤ 0x1FFFFFFF) ∧
    ∀ filters', enableFilters 0 optimized filters.clear = .ok filters' →
      filters'.numBanks = filters.numBanks ∧ ∀ frame, filters'.accepts frame = optimized.any (·.accepts frame) := by
  obtain ⟨hok, hbanks⟩ := enableFilters_spec optimized 0 filters.clear (Nat.zero_le _)
  refine ⟨by simp only [hok, Nat.zero_add, MasterFilters.numBanks_clear, isSome_toBank], fun filters' h => ?_⟩
  obtain ⟨hlen, hfits⟩ := hok.mp ⟨_, h⟩
  rw [Nat.zero_add, MasterFilters.numBanks_clear] at hlen
  have hbanks' := hbanks filters' h
  rw [MasterFilters.banks_clear] at hbanks'
  refine ⟨?_, fun frame => ?_⟩
  · have hnum : filters.numBanks = filters.banks.length := rfl
    simp [MasterFilters.numBanks, hbanks']; omega
  · simp [MasterFilters.accepts, hbanks', any_map_toBank hfits, List.any_replicate]

/-! ## 時刻の比較 -/

theorem toNat_neg_eq {w : Nat} (x : BitVec w) : (-x).toNat = if x.toNat = 0 then 0 else 2 ^ w - x.toNat := by
  rw [BitVec.toNat_neg]
  split
  · simp [*]
  · exact Nat.mod_eq_of_lt (by have := x.isLt; omega)

/-- `a` が `b` より前でなければ、`b` は `a` より後ではない（差がちょうど半周なら、どちらも「前」）。 -/
theorem overflowSafeCompare_swap_ne_gt {w : Nat} {a b : BitVec w} (h : overflowSafeCompare a b ≠ .lt) :
    overflowSafeCompare b a ≠ .gt := by
  unfold overflowSafeCompare at *
  rw [← neg_sub a b]
  generalize a - b = x at *
  have hx := x.isLt
  rw [Ne, compare_lt_iff_lt, BitVec.toInt_eq_toNat_cond] at h
  rw [Ne, compare_gt_iff_gt, BitVec.toInt_eq_toNat_cond, toNat_neg_eq]
  split_ifs at h ⊢ <;> omega

end BxCan
end Canadensis
