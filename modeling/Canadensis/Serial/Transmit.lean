import Canadensis.Core.Basic

/-!
# シリアル送信器

`canadensis_serial/src/tx.rs` の `SerialTransmitter` と、その送信キュー `TransmitQueue`。
キューは `heapless::Deque<u8, C>` で、長さが容量 `C` を超えないことを構造体の欄として持つ。

ヘッダの変換 `SerialHeader::from`、ペイロードの CRC、COBS の `escaped_size` と
`escape_from_iter` は `src/` にないので、`Codec` の欄として外から与える。ドライバは、状態を持つ
任意の `send_byte` である。`flush` は、ドライバが受け取ったバイトの列も返す（観測のためだけに使う）。
-/

namespace Canadensis
namespace Serial

/-- 送信キュー `TransmitQueue<C>`。 -/
structure TransmitQueue (C : Nat) where
  items : List UInt8
  length_le : items.length ≤ C

namespace TransmitQueue

variable {C : Nat}

def new : TransmitQueue C := ⟨[], Nat.zero_le _⟩

def pushBack (q : TransmitQueue C) (item : UInt8) : Except OutOfMemoryError (TransmitQueue C) :=
  if h : q.items.length < C then .ok ⟨q.items ++ [item], by simp; omega⟩ else .error ⟨⟩

def capacity (_ : TransmitQueue C) : Nat := C

def len (q : TransmitQueue C) : Nat := q.items.length

def popFront : TransmitQueue C → Option (UInt8 × TransmitQueue C)
  | ⟨[], _⟩ => none
  | ⟨item :: rest, h⟩ => some (item, ⟨rest, by simp at h; omega⟩)

def pushFront (q : TransmitQueue C) (item : UInt8) : Except OutOfMemoryError (TransmitQueue C) :=
  if h : q.items.length < C then .ok ⟨item :: q.items, by simp; omega⟩ else .error ⟨⟩

theorem pushBack_of_lt {q : TransmitQueue C} (h : q.items.length < C) (item : UInt8) :
    q.pushBack item = .ok ⟨q.items ++ [item], by simp; omega⟩ := dif_pos h

theorem pushFront_of_lt {q : TransmitQueue C} (h : q.items.length < C) (item : UInt8) :
    q.pushFront item = .ok ⟨item :: q.items, by simp; omega⟩ := dif_pos h

theorem popFront_eq_some {q q' : TransmitQueue C} {item : UInt8} (h : q.popFront = some (item, q')) :
    q.items = item :: q'.items := by
  obtain ⟨_ | ⟨x, rest⟩, _⟩ := q <;> simp [popFront] at h
  obtain ⟨rfl, rfl⟩ := h
  rfl

theorem popFront_eq_none {q : TransmitQueue C} (h : q.popFront = none) : q.items = [] := by
  obtain ⟨_ | ⟨x, rest⟩, _⟩ := q <;> simp_all [popFront]

end TransmitQueue

/-- `src/` にない部分：ヘッダの変換、ペイロードの CRC、COBS の符号化。 -/
structure Codec (H : Type) where
  /-- `SerialHeader::from(header).as_bytes()` -/
  headerBytes : H → List UInt8
  /-- `mem::size_of::<SerialHeader>()` -/
  headerSize : Nat
  /-- `make_payload_crc(payload).as_bytes()` -/
  payloadCrc : List UInt8 → List UInt8
  /-- `cobs::escaped_size` -/
  escapedSize : Nat → Nat
  /-- `cobs::escape_from_iter(data, &mut buffer)`：書いた後のバッファと、返したバイト数。`none` はその `Err`。 -/
  escapeFromIter : List UInt8 → List UInt8 → Option (List UInt8 × Nat)
  /-- `escape_from_iter` は `&mut [u8]` に書くので、バッファの長さは変わらず、返すバイト数はその長さを超えない。 -/
  escapeFromIter_bounded : ∀ data buffer buffer' escapedLength,
    escapeFromIter data buffer = some (buffer', escapedLength) → buffer'.length = buffer.length ∧ escapedLength ≤ buffer.length

/-- `Transfer<A, I, SerialTransport>`：ヘッダとペイロード。 -/
structure Transfer (H : Type) where
  header : H
  payload : List UInt8

/-- `canadensis_serial::Error<E>` のうち、送信器が作るもの。 -/
inductive Error (E : Type) where
  | memory (e : OutOfMemoryError)
  | driver (e : E)
  deriving DecidableEq, Repr

/-- `TransmitDriver`：状態 `σ` を持ち、バイトごとに任意の結果を返すドライバ。 -/
structure TransmitDriver (σ E : Type) where
  sendByte : σ → UInt8 → Except (NbError E) Unit × σ

/-- `SerialTransmitter<D, C>`：`C` バイトの送信キュー。 -/
structure SerialTransmitter (C : Nat) where
  queue : TransmitQueue C

def SerialTransmitter.new {C : Nat} : SerialTransmitter C := ⟨TransmitQueue.new⟩

/-- 一フレームごとに符号化の対象に加わる、ヘッダとペイロード CRC のバイト数。 -/
def perFrameEscapedOverhead {H : Type} (codec : Codec H) : Nat := codec.headerSize + 4

/-- 一フレームごとに加わる、符号化しない区切りのバイト数。 -/
def perFrameUnescapedOverhead : Nat := 1 + 1

def delimiter : UInt8 := 0x0

/-- 符号化するバイト列：ヘッダ、ペイロード、ペイロードの CRC。 -/
def dataToEscape {H : Type} (codec : Codec H) (transfer : Transfer H) : List UInt8 :=
  codec.headerBytes transfer.header ++ transfer.payload ++ codec.payloadCrc transfer.payload

/-- 最悪の場合の符号化の長さ。一時バッファはこの長さで確保する。 -/
def escapedLength {H : Type} (codec : Codec H) (transfer : Transfer H) : Nat :=
  codec.escapedSize (transfer.payload.length + perFrameEscapedOverhead codec)

namespace SerialTransmitter

variable {H σ E : Type} {C : Nat}

/-- `Transmitter::push`。`allocates` は、一時バッファ `FallibleVec::try_with_capacity` が確保できるか。
`escapedLength'` は、`escape_from_iter` が返して `escaped_length` を上書きする長さ。 -/
def push (codec : Codec H) (tx : SerialTransmitter C) (transfer : Transfer H) (allocates : Bool) :
    Except Panic (Except (NbError (Error E)) Unit × SerialTransmitter C) :=
  let lengthOnWire := escapedLength codec transfer + perFrameUnescapedOverhead
  if lengthOnWire > tx.queue.capacity - tx.queue.len then .ok (.error (.other (.memory ⟨⟩)), tx)
  else if !allocates then .ok (.error (.other (.memory ⟨⟩)), tx)
  else
    let escapeBuffer := List.replicate (escapedLength codec transfer) 0
    match codec.escapeFromIter (dataToEscape codec transfer) escapeBuffer with
    | none => .error (.expect "Incorrect escaped length")
    | some (escapeBuffer, escapedLength') =>
      let lengthOnWire := escapedLength' + perFrameUnescapedOverhead
      if lengthOnWire > tx.queue.capacity - tx.queue.len then .ok (.error (.other (.memory ⟨⟩)), tx)
      else do
        let queue ← unwrap (tx.queue.pushBack delimiter)
        let escaped ← sliceTo escapeBuffer escapedLength'
        let queue ← escaped.foldlM (fun queue byte => unwrap (queue.pushBack byte)) queue
        let queue ← unwrap (queue.pushBack delimiter)
        pure (.ok (), ⟨queue⟩)

/-- `Transmitter::flush`。四つ目は、この呼び出しでドライバが受け取ったバイトである。 -/
def flush (driver : TransmitDriver σ E) (tx : SerialTransmitter C) (d : σ) :
    Except Panic (Except (NbError (Error E)) Unit × SerialTransmitter C × σ × List UInt8) :=
  match h : tx.queue.popFront with
  | none => .ok (.ok (), tx, d, [])
  | some (byte, queue) =>
    match driver.sendByte d byte with
    | (.ok (), d) => do
      let (result, tx, d, sent) ← flush driver ⟨queue⟩ d
      pure (result, tx, d, byte :: sent)
    | (.error e, d) => do
      let queue ← expect "No space to return byte to queue" (queue.pushFront byte)
      let result : Except (NbError (Error E)) Unit := match e with
        | .wouldBlock => .error .wouldBlock
        | .other e => .error (.other (.driver e))
      pure (result, ⟨queue⟩, d, [])
termination_by tx.queue.items.length
decreasing_by simp [TransmitQueue.popFront_eq_some h]

end SerialTransmitter

end Serial
end Canadensis
