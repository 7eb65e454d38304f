import Canadensis.Encoding.Cursor

/-!
# ビット配列 `BitArray`

`canadensis_encoding/src/bits.rs` の `BitArray<BYTES>` とその操作。`[u8; BYTES]` は長さが
`BYTES` のバイト列で表し、長さ `bit_length` が `BYTES * 8` を超えないことは構造体の欄として持つ
（フィールドは非公開で、`new` の `assert!` だけが長さを決める）。`split_index` の `assert!` と
配列の添字は、`Except Panic` の失敗として残す。
-/

namespace Canadensis

/-- `BitArray<BYTES>` -/
structure BitArray (BYTES : Nat) where
  bytes : List (BitVec 8)
  bitLength : Nat
  length_bytes : bytes.length = BYTES
  bitLength_le : bitLength ≤ BYTES * 8

namespace BitArray

variable {BYTES LBYTES RBYTES : Nat}

/-! ## 操作 -/

def new (bitLength : Nat) : Except Panic (BitArray BYTES) :=
  if h : bitLength ≤ BYTES * 8 then
    .ok ⟨List.replicate BYTES 0#8, bitLength, List.length_replicate _ _, h⟩
  else .error (.assertion "bit_length <= BYTES * 8")

/-- `Default::default`：長さ 0 の配列。 -/
def default : BitArray BYTES := ⟨List.replicate BYTES 0#8, 0, List.length_replicate _ _, Nat.zero_le _⟩

def len (a : BitArray BYTES) : Nat := a.bitLength

def isEmpty (a : BitArray BYTES) : Bool := a.bitLength == 0

def splitIndex (a : BitArray BYTES) (bitIndex : Nat) : Except Panic (Nat × Nat) :=
  if bitIndex < a.bitLength then .ok (bitIndex / 8, bitIndex % 8)
  else .error (.assertion "bit_index < self.bit_length")

def get (a : BitArray BYTES) (bitIndex : Nat) : Except Panic Bool := do
  let (byteIndex, bitInByte) ← a.splitIndex bitIndex
  let byte ← index a.bytes byteIndex
  pure ((byte >>> bitInByte) &&& 1#8 == 1#8)

def set (a : BitArray BYTES) (bitIndex : Nat) (value : Bool) : Except Panic (BitArray BYTES) := do
  let (byteIndex, bitInByte) ← a.splitIndex bitIndex
  let mask := 1#8 <<< bitInByte
  let byte ← index a.bytes byteIndex
  let byte := if value then byte ||| mask else byte &&& ~~~mask
  pure { a with
    bytes := a.bytes.set byteIndex byte
    length_bytes := by rw [List.length_set, a.length_bytes] }

/-- `BitArray` の反復子。`next_index` は `len` を超えない（`iter` が 0 から始め、一つずつ進める）。 -/
structure Iter (BYTES : Nat) where
  array : BitArray BYTES
  nextIndex : Nat
  nextIndex_le : nextIndex ≤ array.bitLength

def Iter.next (it : Iter BYTES) : Except Panic (Option (Bool × Iter BYTES)) :=
  if h : it.nextIndex = it.array.bitLength then .ok none
  else do
    let value ← it.array.get it.nextIndex
    pure (some (value, ⟨it.array, it.nextIndex + 1, by have := it.nextIndex_le; omega⟩))

theorem Iter.next_decreasing {it it' : Iter BYTES} {v : Bool} (h : it.next = .ok (some (v, it'))) :
    it'.array.bitLength - it'.nextIndex < it.array.bitLength - it.nextIndex := by
  unfold next at h
  split at h
  · cases h
  · cases hg : it.array.get it.nextIndex <;> simp only [hg] at h <;> cases h
    have := it.nextIndex_le
    simp only; omega

/-- 反復子が `None` を返すまでに返す値の列。 -/
def Iter.toList (it : Iter BYTES) : Except Panic (List Bool) :=
  match h : it.next with
  | .error e => .error e
  | .ok none => .ok []
  | .ok (some (v, it')) => (v :: ·) <$> it'.toList
termination_by it.array.bitLength - it.nextIndex
decreasing_by exact Iter.next_decreasing h

def iter (a : BitArray BYTES) : Iter BYTES := ⟨a, 0, Nat.zero_le _⟩

/-- `eq` のループ：対になったビットが一つでも違えば `false` を返す。 -/
def bitsEq : List (Bool × Bool) → Bool
  | [] => true
  | (lbit, rbit) :: rest => if lbit != rbit then false else bitsEq rest

/-- `PartialEq::eq`。反復子は副作用を持たないので、二つを先に取り出してから対にしても同じ対が並ぶ。 -/
def eq (lhs : BitArray LBYTES) (rhs : BitArray RBYTES) : Except Panic Bool :=
  if lhs.len = rhs.len then do
    let ls ← lhs.iter.toList
    let rs ← rhs.iter.toList
    pure (bitsEq (ls.zip rs))
  else pure false

/-- `compare` のループ：最初に違うビットで決まり、`false < true` である。 -/
def compareBits : List (Bool × Bool) → Ordering
  | [] => .eq
  | (true, false) :: _ => .gt
  | (false, true) :: _ => .lt
  | _ :: rest => compareBits rest

/-- `Ordering::then_with`：等しいときだけ続きを評価する。 -/
def thenWith (o : Ordering) (f : Unit → Except Panic Ordering) : Except Panic Ordering :=
  match o with
  | .eq => f ()
  | o => .ok o

def compare (lhs : BitArray LBYTES) (rhs : BitArray RBYTES) : Except Panic Ordering :=
  thenWith (Ord.compare lhs.len rhs.len) fun _ => do
    let ls ← lhs.iter.toList
    let rs ← rhs.iter.toList
    pure (compareBits (ls.zip rs))

def partialCmp (lhs : BitArray LBYTES) (rhs : BitArray RBYTES) : Except Panic (Option Ordering) :=
  some <$> compare lhs rhs

def cmp (lhs rhs : BitArray BYTES) : Except Panic Ordering := compare lhs rhs

/-! ## 直列化 -/

def serialize (a : BitArray BYTES) (cursor : WriteCursor) : Except Panic WriteCursor :=
  if a.bitLength == BYTES * 8 && cursor.isAlignedTo8Bits then
    .ok (cursor.writeAlignedBytes a.bytes)
  else
    (List.range a.bitLength).foldlM (fun cursor bitIndex => do
      let value ← a.get bitIndex
      pure (cursor.writeBool value)) cursor

/-- `bytes.fill_with(|| cursor.read_aligned_u8())`：各バイトを順に、読んだバイトで置き換える。 -/
def fillWithReads : List (BitVec 8) → ReadCursor → List (BitVec 8) × ReadCursor
  | [], cursor => ([], cursor)
  | _ :: rest, cursor =>
      let (byte, cursor₁) := cursor.readAlignedU8
      let (bytes, cursor₂) := fillWithReads rest cursor₁
      (byte :: bytes, cursor₂)

@[simp] theorem length_fillWithReads (bytes : List (BitVec 8)) (c : ReadCursor) :
    (fillWithReads bytes c).1.length = bytes.length := by
  induction bytes generalizing c with
  | nil => rfl
  | cons _ _ ih => simp [fillWithReads, ih]

def deserializeInPlace (a : BitArray BYTES) (cursor : ReadCursor) :
    Except Panic (BitArray BYTES × ReadCursor) :=
  if a.bitLength % 8 == 0 && cursor.isAlignedTo8Bits then
    .ok ({ a with
      bytes := (fillWithReads a.bytes cursor).1
      length_bytes := by rw [length_fillWithReads, a.length_bytes] }, (fillWithReads a.bytes cursor).2)
  else
    (List.range a.bitLength).foldlM (fun (array, cursor) i => do
      let (value, cursor) := cursor.readBool
      let array ← array.set i value
      pure (array, cursor)) (a, cursor)

def deserialize (bitLength : Nat) (cursor : ReadCursor) : Except Panic (BitArray BYTES × ReadCursor) := do
  let set ← new bitLength
  set.deserializeInPlace cursor

end BitArray

end Canadensis
