import Canadensis.Core.Basic
import Mathlib.Data.BitVec

/-!
# bxCAN の送信器と受信器

`canadensis_bxcan/src/lib.rs` の `BxCanDriver`。送信メールボックスごとの期限を `DeadlineTracker` に
覚え、送る前に期限を過ぎたメールボックスを `abort` する。

`bxcan` の `Can` とフィルタバンク、`canadensis_can` の `Frame` と `CanId`、`Instant::overflow_safe_compare` は
`src/` にないので、仕様の言葉から作る。ハードウェアがどのメールボックスを選ぶかは、`transmit` の
引数 `choice` として外から与える。フィルタバンクを読む関数はほかにないので、その状態は `Can` と別に持つ。
-/

namespace Canadensis
namespace BxCan

/-! ## `bxcan` と `canadensis_can` の型 -/

/-- `bxcan::Mailbox`：三つの送信メールボックス。 -/
inductive Mailbox where
  | mailbox0
  | mailbox1
  | mailbox2
  deriving DecidableEq, Repr

/-- `mailbox as usize` -/
def Mailbox.toNat : Mailbox → Nat
  | .mailbox0 => 0
  | .mailbox1 => 1
  | .mailbox2 => 2

theorem Mailbox.toNat_lt (m : Mailbox) : m.toNat < 3 := by
  cases m <;> decide

theorem Mailbox.toNat_injective {m m' : Mailbox} (h : m.toNat = m'.toNat) : m = m' := by
  cases m <;> cases m' <;> first | rfl | cases h

/-- `canadensis_core::InvalidValue` -/
structure InvalidValue where

/-- `bxcan_frame_to_uavcan` の失敗。 -/
structure InvalidFrameFormat where

/-- Modelled from the spec: `canadensis_can::CanId`、29 ビットの CAN ID。 -/
structure CanId where
  value : UInt32
  value_le : value ≤ 0x1FFFFFFF

/-- Modelled from the spec: `CanId::try_from(u32)`。29 ビットに収まらなければ失敗する。 -/
def CanId.tryFrom (bits : UInt32) : Except InvalidValue CanId :=
  if h : bits ≤ 0x1FFFFFFF then .ok ⟨bits, h⟩ else .error ⟨⟩

/-- Modelled from the spec: `canadensis_can::Frame<I>`。時刻は送信の期限を兼ねる。 -/
structure Frame (I : Type) where
  timestamp : I
  id : CanId
  data : List UInt8

/-- Modelled from the spec: `bxcan::ExtendedId`。 -/
structure ExtendedId where
  raw : UInt32
  raw_le : raw ≤ 0x1FFFFFFF

/-- Modelled from the spec: `ExtendedId::new`。 -/
def ExtendedId.new (raw : UInt32) : Option ExtendedId :=
  if h : raw ≤ 0x1FFFFFFF then some ⟨raw, h⟩ else none

/-- Modelled from the spec: `bxcan::Id`。標準 ID の値はどこでも読まない。 -/
inductive Id where
  | standard (raw : UInt16)
  | extended (id : ExtendedId)

/-- Modelled from the spec: `bxcan::Data`、高々 8 バイト。 -/
structure Data where
  bytes : List UInt8
  length_le : bytes.length ≤ 8

/-- Modelled from the spec: `Data::new`。 -/
def Data.new (bytes : List UInt8) : Option Data :=
  if h : bytes.length ≤ 8 then some ⟨bytes, h⟩ else none

/-- Modelled from the spec: `bxcan::Frame`。`data` はリモートフレームなら `none`。 -/
structure BxFrame where
  id : Id
  data : Option Data

def BxFrame.newData (id : Id) (data : Data) : BxFrame := ⟨id, some data⟩

/-- Modelled from the spec: `Can::transmit` の `TransmitStatus`。 -/
structure TransmitStatus where
  mailbox : Mailbox
  dequeuedFrame : Option BxFrame

/-- Modelled from the spec: `bxcan::Can` の状態。三つの送信メールボックスと、`receive` が順に返す答え。 -/
structure Can where
  mailboxes : Mailbox → Option BxFrame
  received : List (Except (NbError Unit) BxFrame)

namespace Can

/-- Modelled from the spec: `Can::transmit`。`choice` が `none` なら `WouldBlock`。`some m` なら
メールボックス `m` にフレームを置き、そこにあったフレームを返す。 -/
def transmit (can : Can) (frame : BxFrame) (choice : Option Mailbox) :
    Except (NbError Empty) TransmitStatus × Can :=
  match choice with
  | none => (.error .wouldBlock, can)
  | some m => (.ok ⟨m, can.mailboxes m⟩, { can with mailboxes := Function.update can.mailboxes m (some frame) })

/-- Modelled from the spec: `Can::abort`。メールボックスは空になる。 -/
def abort (can : Can) (mailbox : Mailbox) : Can :=
  { can with mailboxes := Function.update can.mailboxes mailbox none }

end Can

/-- `canadensis_core::time::Instant` のうち、ここで使う比較。 -/
class Instant (I : Type) where
  overflowSafeCompare : I → I → Ordering

/-- Modelled from the spec: 幅 `w` の時刻の `overflow_safe_compare`。巻き戻りを含む差 `a - b` の
符号で、半周より後ろを「前」とする。差がちょうど半周のとき、このモデルはどちら向きにも `lt` を返すが、
`canadensis_core` の実装はどちら向きにも `Greater` を返す。 -/
def overflowSafeCompare {w : Nat} (a b : BitVec w) : Ordering := compare (a - b).toInt 0

instance {w : Nat} : Instant (BitVec w) := ⟨overflowSafeCompare⟩

/-! ## 期限の記録と変換 -/

/-- `DeadlineTracker<I>`：`[Option<I>; 3]`。 -/
structure DeadlineTracker (I : Type) where
  deadlines : List (Option I)
  length_deadlines : deadlines.length = 3

namespace DeadlineTracker

variable {I : Type}

def new : DeadlineTracker I := ⟨[none, none, none], rfl⟩

def get (t : DeadlineTracker I) (mailbox : Mailbox) : Option I :=
  have : mailbox.toNat < t.deadlines.length := t.length_deadlines ▸ mailbox.toNat_lt
  t.deadlines[mailbox.toNat]

/-- 期限を書き、前の期限（`Option::replace`）を返す。 -/
def replace (t : DeadlineTracker I) (mailbox : Mailbox) (newDeadline : I) : Option I × DeadlineTracker I :=
  (t.get mailbox, ⟨t.deadlines.set mailbox.toNat (some newDeadline), by rw [List.length_set, t.length_deadlines]⟩)

end DeadlineTracker

variable {I : Type}

def uavcanFrameToBxcan (frame : Frame I) : Except Panic BxFrame :=
  match ExtendedId.new frame.id.value, Data.new frame.data with
  | none, _ => .error .unwrap
  | some _, none => .error (.expect "Frame data more than 8 bytes")
  | some bxcanId, some bxcanData => .ok (BxFrame.newData (.extended bxcanId) bxcanData)

def bxcanFrameToUavcan (frame : BxFrame) (timestamp : I) : Except InvalidFrameFormat (Frame I) :=
  match frame.id with
  | .standard _ => .error ⟨⟩
  | .extended extendedId =>
    match CanId.tryFrom extendedId.raw with
    | .error _ => .error ⟨⟩
    | .ok uavcanId =>
      match frame.data with
      | none => .error ⟨⟩
      | some uavcanData => .ok ⟨timestamp, uavcanId, uavcanData.bytes⟩

/-! ## ドライバ -/

/-- `BxCanDriver<I, N>` -/
structure BxCanDriver (I : Type) where
  can : Can
  deadlines : DeadlineTracker I

namespace BxCanDriver

def new (can : Can) : BxCanDriver I := ⟨can, DeadlineTracker.new⟩

/-- メモリ上のキューはないので、一フレームだけ予約できる。 -/
def tryReserve (_ : BxCanDriver I) (frames : Nat) : Except OutOfMemoryError Unit :=
  if frames = 1 then .ok () else .error ⟨⟩

end BxCanDriver

variable [Instant I]

/-- `clean_expired_frames` のループの一回：メールボックスの期限が過ぎていれば `abort` する。 -/
def abortIfExpired (deadlines : DeadlineTracker I) (now : I) (can : Can) (mailbox : Mailbox) : Can :=
  match deadlines.get mailbox with
  | some deadline => if Instant.overflowSafeCompare now deadline = .gt then can.abort mailbox else can
  | none => can

/-- 期限を過ぎたメールボックスを `abort` する。期限の記録は変えない。 -/
def cleanExpiredFrames (deadlines : DeadlineTracker I) (can : Can) (now : I) : Can :=
  [Mailbox.mailbox0, .mailbox1, .mailbox2].foldl (abortIfExpired deadlines now) can

namespace BxCanDriver

/-- `TransmitDriver::transmit`。`choice` は、ハードウェアの `transmit` が選ぶメールボックス。 -/
def transmit (self : BxCanDriver I) (frame : Frame I) (now : I) (choice : Option Mailbox) :
    Except Panic (Except (NbError Empty) (Option (Frame I)) × BxCanDriver I) := do
  let self := { self with can := cleanExpiredFrames self.deadlines self.can now }
  let deadline := frame.timestamp
  match Instant.overflowSafeCompare deadline now with
  | .gt | .eq =>
    let frame ← uavcanFrameToBxcan frame
    match self.can.transmit frame choice with
    | (.ok status, can) =>
      let (replacedDeadline, deadlines) := self.deadlines.replace status.mailbox deadline
      let self : BxCanDriver I := ⟨can, deadlines⟩
      match status.dequeuedFrame, replacedDeadline with
      | some removedFrame, some removedFrameDeadline =>
        match bxcanFrameToUavcan removedFrame removedFrameDeadline with
        | .ok removedFrame => pure (.ok (some removedFrame), self)
        | .error _ => pure (.ok none, self)
      | _, _ => pure (.ok none, self)
    | (.error e, can) => pure (.error e, { self with can := can })
  | .lt => pure (.ok none, self)

def flush (_ : BxCanDriver I) (_ : I) : Except (NbError Empty) Unit := .ok ()

end BxCanDriver

/-- `receive` のループ。引数は `Can::receive` が順に返す答え（尽きたら `WouldBlock`）。UAVCAN の
フレームにできないものは捨てて、次を受け取る。 -/
def receiveLoop (now : I) : List (Except (NbError Unit) BxFrame) →
    Except (NbError Unit) (Frame I) × List (Except (NbError Unit) BxFrame)
  | [] => (.error .wouldBlock, [])
  | .ok frame :: rest =>
    match bxcanFrameToUavcan frame now with
    | .ok frame => (.ok frame, rest)
    | .error _ => receiveLoop now rest
  | .error .wouldBlock :: rest => (.error .wouldBlock, rest)
  | .error (.other e) :: rest => (.error (.other e), rest)

/-- `ReceiveDriver::receive` -/
def BxCanDriver.receive (self : BxCanDriver I) (now : I) : Except (NbError Unit) (Frame I) × BxCanDriver I :=
  let (result, received) := receiveLoop now self.can.received
  (result, { self with can := { self.can with received := received } })

/-! ## 受信フィルタ -/

/-- Modelled from the spec: `bxcan::filter::Mask32` のうち、`apply_filters` が作るもの。 -/
inductive Mask32 where
  | framesWithExtId (id mask : ExtendedId)
  | acceptAll

/-- Modelled from the spec: `Mask32` が通すフレーム。`frames_with_ext_id(id, mask)` は、拡張 ID のフレームのうち、
`mask` の立つビットで ID が `id` と一致するものを通す。 -/
def Mask32.accepts : Mask32 → BxFrame → Bool
  | .framesWithExtId id mask, ⟨.extended e, _⟩ => e.raw &&& mask.raw == id.raw &&& mask.raw
  | .framesWithExtId _ _, ⟨.standard _, _⟩ => false
  | .acceptAll, _ => true

/-- Modelled from the spec: `MasterFilters` のフィルタバンク。各バンクは無効（`none`）か、`Mask32` で有効。
`num_banks()` は `u8` である。 -/
structure MasterFilters where
  banks : List (Option Mask32)
  length_banks_lt : banks.length < 256

namespace MasterFilters

/-- Modelled from the spec: `num_banks()`。 -/
def numBanks (filters : MasterFilters) : Nat := filters.banks.length

/-- Modelled from the spec: `clear()`：すべてのバンクを無効にする。 -/
def clear (filters : MasterFilters) : MasterFilters :=
  ⟨filters.banks.map fun _ => none, by simpa using filters.length_banks_lt⟩

/-- Modelled from the spec: `enable_bank(index, config)`。範囲外の `index` は panic する。 -/
def enableBank (filters : MasterFilters) (index : UInt8) (config : Mask32) : Except Panic MasterFilters :=
  if index.toNat < filters.banks.length then
    .ok ⟨filters.banks.set index.toNat (some config), by simpa using filters.length_banks_lt⟩
  else .error (.indexOutOfBounds filters.banks.length index.toNat)

/-- Modelled from the spec: フィルタを通るフレームは、有効なバンクのどれかが通すものである。 -/
def accepts (filters : MasterFilters) (frame : BxFrame) : Bool :=
  filters.banks.any fun bank => bank.any fun config => config.accepts frame

end MasterFilters

/-- Modelled from the spec: `canadensis_filter_config::Filter`。 -/
structure Filter where
  id : UInt32
  mask : UInt32

/-- `apply_filters` のクロージャの、`optimized.iter().enumerate()` のループ：`i` 番目のフィルタの ID とマスクを
`ExtendedId::new(..).unwrap()` し、バンク `i as u8` を有効にする。 -/
def enableFilters : Nat → List Filter → MasterFilters → Except Panic MasterFilters
  | _, [], filters => .ok filters
  | i, filter :: optimized, filters =>
    match ExtendedId.new filter.id, ExtendedId.new filter.mask with
    | some id, some mask => do
      let filters ← filters.enableBank (UInt8.ofNat i) (.framesWithExtId id mask)
      enableFilters (i + 1) optimized filters
    | _, _ => .error .unwrap

namespace BxCanDriver

/-- `ReceiveDriver::apply_filters`。変わるのは `self.can.modify_filters()` の `filters` だけである。`optimizeFilters` は
`src/` にない `optimize_filters` で、クロージャ（`FnOnce`）を呼んだならその引数と、結果を返す。 -/
def applyFilters {N S : Type}
    (optimizeFilters : Option N → List S → Nat → Option (List Filter) × Except OutOfMemoryError Unit)
    (localNode : Option N) (subscriptions : List S) (filters : MasterFilters) : Except Panic MasterFilters := do
  let (optimized, status) := optimizeFilters localNode subscriptions filters.numBanks
  let filters ← match optimized with
    | some optimized => enableFilters 0 optimized filters.clear
    | none => pure filters
  match status with
  | .ok () => pure filters
  | .error _ => filters.clear.enableBank 0 .acceptAll

/-- `ReceiveDriver::apply_accept_all`。 -/
def applyAcceptAll (filters : MasterFilters) : Except Panic MasterFilters :=
  filters.clear.enableBank 0 .acceptAll

end BxCanDriver

end BxCan
end Canadensis
