import Canadensis.Core.Basic

/-!
# ビット単位のカーソル

`canadensis_encoding` の `WriteCursor` と `ReadCursor`（`src/` にないので、仕様の言葉から作る）を、位置を持つ
ビット列として表す。
1 バイトの中では下位ビットが先に来る。整列したバイトの読み書きは、連続する 8 回のビットの
読み書きと同じである。読むカーソルは、バッファの終わりより先では `false` を返す（暗黙の
ゼロ拡張）。
-/

namespace Canadensis

/-- バイトのビットを下位から並べたもの。 -/
def byteBits (byte : BitVec 8) : List Bool := (List.range 8).map byte.getLsbD

/-- Modelled from the spec: `WriteCursor`。`bits` はバッファの先頭から現在の位置までに書かれたビットである。 -/
structure WriteCursor where
  bits : List Bool
  deriving DecidableEq, Repr

namespace WriteCursor

/-- Modelled from the spec: `WriteCursor::is_aligned_to_8_bits`。 -/
def isAlignedTo8Bits (c : WriteCursor) : Bool := c.bits.length % 8 == 0

/-- Modelled from the spec: `WriteCursor::write_bool`。 -/
def writeBool (c : WriteCursor) (value : Bool) : WriteCursor := ⟨c.bits ++ [value]⟩

/-- Modelled from the spec: `WriteCursor::write_aligned_bytes`。 -/
def writeAlignedBytes (c : WriteCursor) (bytes : List (BitVec 8)) : WriteCursor :=
  ⟨c.bits ++ bytes.flatMap byteBits⟩

@[simp] theorem writeBool_bits (c : WriteCursor) (v : Bool) : (c.writeBool v).bits = c.bits ++ [v] :=
  rfl

@[simp] theorem writeAlignedBytes_bits (c : WriteCursor) (bytes : List (BitVec 8)) :
    (c.writeAlignedBytes bytes).bits = c.bits ++ bytes.flatMap byteBits := rfl

end WriteCursor

/-- Modelled from the spec: `ReadCursor`。`position` は次に読むビットの番号である。 -/
structure ReadCursor where
  bits : List Bool
  position : Nat
  deriving DecidableEq, Repr

namespace ReadCursor

/-- Modelled from the spec: `ReadCursor::is_aligned_to_8_bits`。 -/
def isAlignedTo8Bits (c : ReadCursor) : Bool := c.position % 8 == 0

/-- Modelled from the spec: `ReadCursor::read_bool`。バッファの外は `false` である。 -/
def readBool (c : ReadCursor) : Bool × ReadCursor :=
  (c.bits[c.position]?.getD false, { c with position := c.position + 1 })

/-- `n` 回 `readBool` して、最初に読んだビットを最下位に置く。 -/
def readBits : (n : Nat) → ReadCursor → BitVec n × ReadCursor
  | 0, c => (0#0, c)
  | n + 1, c =>
      let (b, c₁) := c.readBool
      let (v, c₂) := readBits n c₁
      (v.concat b, c₂)

/-- Modelled from the spec: `ReadCursor::read_aligned_u8`。 -/
def readAlignedU8 (c : ReadCursor) : BitVec 8 × ReadCursor := readBits 8 c

/-- 位置から先の `n` ビット。 -/
def peek (c : ReadCursor) (n : Nat) : List Bool :=
  (List.range n).map fun j => c.bits[c.position + j]?.getD false

def skip (c : ReadCursor) (n : Nat) : ReadCursor := { c with position := c.position + n }

@[simp] theorem skip_bits (c : ReadCursor) (n : Nat) : (c.skip n).bits = c.bits := rfl

@[simp] theorem skip_position (c : ReadCursor) (n : Nat) :
    (c.skip n).position = c.position + n := rfl

theorem skip_skip (c : ReadCursor) (m n : Nat) : (c.skip m).skip n = c.skip (m + n) := by
  simp [skip, Nat.add_assoc]

@[simp] theorem readBool_fst (c : ReadCursor) : c.readBool.1 = c.bits[c.position]?.getD false := rfl

@[simp] theorem readBool_snd (c : ReadCursor) : c.readBool.2 = c.skip 1 := rfl

theorem readBits_snd (n : Nat) (c : ReadCursor) : (readBits n c).2 = c.skip n := by
  induction n generalizing c with
  | zero => rfl
  | succ n ih => simp [readBits, ih, skip_skip, Nat.add_comm]

theorem getLsbD_readBits (n : Nat) (c : ReadCursor) {j : Nat} (hj : j < n) :
    (readBits n c).1.getLsbD j = c.bits[c.position + j]?.getD false := by
  induction n generalizing c j with
  | zero => omega
  | succ n ih =>
    simp only [readBits, BitVec.getLsbD_concat]
    split
    · simp_all
    · rw [ih _ (by omega)]
      simp [Nat.add_assoc, Nat.add_comm 1, Nat.sub_add_cancel (Nat.pos_of_ne_zero ‹_›)]

theorem peek_succ (c : ReadCursor) (n : Nat) :
    c.peek (n + 1) = c.readBool.1 :: (c.skip 1).peek n := by
  simp [peek, List.range_succ_eq_map, Nat.add_comm, Nat.add_left_comm]

theorem peek_add (c : ReadCursor) (m n : Nat) : c.peek (m + n) = c.peek m ++ (c.skip m).peek n := by
  simp [peek, List.range_add, Nat.add_assoc]

theorem readAlignedU8_snd (c : ReadCursor) : c.readAlignedU8.2 = c.skip 8 := readBits_snd 8 c

/-- 整列した 1 バイトの読み出しは、8 ビットを下位から読むことと同じである。 -/
theorem byteBits_readAlignedU8 (c : ReadCursor) : byteBits c.readAlignedU8.1 = c.peek 8 := by
  simp only [byteBits, peek, readAlignedU8]
  refine List.map_congr_left fun j hj => getLsbD_readBits 8 c (List.mem_range.mp hj)

/-- 先頭が `w` であるバッファの、その位置から `w` の長さだけ読めば `w` である。 -/
theorem peek_of_bits {pre w rest : List Bool} :
    (ReadCursor.mk (pre ++ w ++ rest) pre.length).peek w.length = w := by
  refine List.ext_get (by simp [peek]) fun j h₁ h₂ => ?_
  simp [peek, List.getElem?_append_right, List.getElem?_append_left, h₂]

end ReadCursor

end Canadensis
