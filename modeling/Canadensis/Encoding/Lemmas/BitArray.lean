import Canadensis.Encoding.BitArray

/-!
# `BitArray` の意味と、各操作の仕様

配列の意味は、長さ `len` までのビットの列 `bits`（`get(0), …, get(len - 1)`）である。各操作が
`bits` に何をするかを、一つの操作に一つの補題で示す。`len` より上のビット（パディング）は `bit`
では読めるが、`get` からは読めない。
-/

namespace Canadensis
namespace BitArray

variable {BYTES LBYTES RBYTES : Nat}

/-! ## 意味とバイトの中のビット -/

/-- 位置 `i` のビット。`len` 以上でも配列の中なら読める。 -/
def bit (a : BitArray BYTES) (i : Nat) : Bool := (a.bytes[i / 8]?.getD 0#8).getLsbD (i % 8)

/-- 配列の意味：`get(0), …, get(len - 1)`。 -/
def bits (a : BitArray BYTES) : List Bool := (List.range a.bitLength).map a.bit

@[simp] theorem length_bits (a : BitArray BYTES) : a.bits.length = a.bitLength := by simp [bits]

theorem shift_and_one_beq (x : BitVec 8) (n : Nat) : ((x >>> n) &&& 1#8 == 1#8) = x.getLsbD n := by
  rw [Bool.eq_iff_iff, beq_iff_eq]
  constructor
  · intro h
    simpa using congrArg (BitVec.getLsbD · 0) h
  · intro h
    apply BitVec.eq_of_getLsbD_eq
    intro k
    by_cases hk : (k : Nat) = 0 <;> simp [hk, h]

theorem getLsbD_mask {n k : Nat} (hk : k < 8) : (1#8 <<< n).getLsbD k = (k == n) := by
  simp only [BitVec.getLsbD_shiftLeft, BitVec.getLsbD_one]
  rcases Nat.lt_trichotomy k n with h | rfl | h
  · simp [h, Nat.ne_of_lt h]
  · simp [hk]
  · simp [hk, Nat.not_lt.mpr (Nat.le_of_lt h), Nat.sub_ne_zero_of_lt h, Nat.ne_of_gt h]

theorem getLsbD_or_mask (x : BitVec 8) {n k : Nat} (hk : k < 8) :
    (x ||| 1#8 <<< n).getLsbD k = (k == n || x.getLsbD k) := by
  rw [BitVec.getLsbD_or, getLsbD_mask hk, Bool.or_comm]

theorem getLsbD_and_not_mask (x : BitVec 8) {n k : Nat} (hk : k < 8) :
    (x &&& ~~~(1#8 <<< n)).getLsbD k = (!(k == n) && x.getLsbD k) := by
  rw [BitVec.getLsbD_and, BitVec.getLsbD_not, getLsbD_mask hk]
  simp [hk, Bool.and_comm]

/-- バイト列を下位ビットから並べると、`j` 番目は `j / 8` バイト目の `j % 8` ビットである。 -/
theorem flatMap_byteBits (l : List (BitVec 8)) :
    l.flatMap byteBits = (List.range (l.length * 8)).map fun j => (l[j / 8]?.getD 0#8).getLsbD (j % 8) := by
  induction l with
  | nil => rfl
  | cons x l ih =>
    rw [List.flatMap_cons, ih, List.length_cons, Nat.succ_mul, Nat.add_comm, List.range_add,
      List.map_append, List.map_map]
    congr 1
    · refine List.map_congr_left fun j hj => ?_
      have hj : j < 8 := List.mem_range.mp hj
      simp [Nat.div_eq_of_lt hj, Nat.mod_eq_of_lt hj]
    · refine List.map_congr_left fun j _ => ?_
      simp [Nat.add_comm 8 j]

theorem bytes_flatMap_byteBits (a : BitArray BYTES) :
    a.bytes.flatMap byteBits = (List.range (BYTES * 8)).map a.bit := by
  rw [flatMap_byteBits, a.length_bytes]; rfl

/-! ## 添字と反復子 -/

theorem div_lt_length {a : BitArray BYTES} {i : Nat} (h : i < a.bitLength) : i / 8 < a.bytes.length := by
  have := a.length_bytes; have := a.bitLength_le; omega

theorem splitIndex_of_lt {a : BitArray BYTES} {i : Nat} (h : i < a.bitLength) :
    a.splitIndex i = .ok (i / 8, i % 8) := if_pos h

theorem get_of_lt {a : BitArray BYTES} {i : Nat} (h : i < a.bitLength) : a.get i = .ok (a.bit i) := by
  simp [get, splitIndex_of_lt h, index_of_lt (div_lt_length h), bit, shift_and_one_beq,
    List.getElem?_eq_getElem (div_lt_length h)]

/-- `set` は位置 `i` だけを変え、同じバイトの他のビットもパディングも変えない。 -/
theorem set_of_lt {a : BitArray BYTES} {i : Nat} (h : i < a.bitLength) (v : Bool) :
    ∃ b, a.set i v = .ok b ∧ b.bitLength = a.bitLength ∧
      ∀ j, b.bit j = if j = i then v else a.bit j := by
  simp only [set, splitIndex_of_lt h, index_of_lt (div_lt_length h), ok_bind]
  refine ⟨_, rfl, rfl, fun j => ?_⟩
  have hj8 : j % 8 < 8 := Nat.mod_lt _ (by decide)
  simp only [bit, List.getElem?_set]
  by_cases hji : j = i
  · subst hji
    cases v <;> simp [getLsbD_or_mask, getLsbD_and_not_mask, hj8, div_lt_length h]
  · by_cases hd : i / 8 = j / 8
    · have hm : j % 8 ≠ i % 8 := by omega
      have hjl : j / 8 < a.bytes.length := hd ▸ div_lt_length h
      simp only [hd, hjl, if_true, Option.getD_some, hji, if_false, List.getElem?_eq_getElem hjl,
        List.get_eq_getElem]
      cases v
      · rw [if_neg Bool.false_ne_true, getLsbD_and_not_mask _ hj8]; simp [hm]
      · rw [if_pos rfl, getLsbD_or_mask _ hj8]; simp [hm]
    · simp [hd, hji]

theorem new_of_le {n : Nat} (h : n ≤ BYTES * 8) :
    (new n : Except Panic (BitArray BYTES)) =
      .ok ⟨List.replicate BYTES 0#8, n, List.length_replicate _ _, h⟩ := dif_pos h

theorem new_of_lt {n : Nat} (h : BYTES * 8 < n) :
    (new n : Except Panic (BitArray BYTES)) = .error (.assertion "bit_length <= BYTES * 8") :=
  dif_neg (Nat.not_le.mpr h)

theorem Iter.next_of_eq {a : BitArray BYTES} {k : Nat} (hk : k ≤ a.bitLength) (h : k = a.bitLength) :
    (⟨a, k, hk⟩ : Iter BYTES).next = .ok none := dif_pos h

theorem Iter.next_of_lt {a : BitArray BYTES} {k : Nat} (hk : k ≤ a.bitLength) (h : k < a.bitLength) :
    (⟨a, k, hk⟩ : Iter BYTES).next = .ok (some (a.bit k, ⟨a, k + 1, h⟩)) := by
  rw [Iter.next, dif_neg (Nat.ne_of_lt h), get_of_lt h]; rfl

theorem Iter.toList_eq (it : Iter BYTES) :
    it.toList = .ok ((List.range' it.nextIndex (it.array.bitLength - it.nextIndex)).map it.array.bit) := by
  obtain ⟨a, k, hk⟩ := it
  obtain ⟨n, hn⟩ : ∃ n, a.bitLength - k = n := ⟨_, rfl⟩
  induction n generalizing k with
  | zero =>
    obtain rfl : k = a.bitLength := by omega
    rw [toList]
    split <;> simp_all [Iter.next_of_eq]
  | succ n ih =>
    have hlt : k < a.bitLength := by omega
    rw [toList]
    split <;> simp only [Iter.next_of_lt hk hlt, Except.ok.injEq, reduceCtorEq, Option.some.injEq] at *
    rename_i he; obtain ⟨rfl, rfl⟩ := Prod.mk.inj he
    rw [ih (k + 1) hlt (by omega), hn, List.range'_succ, show a.bitLength - (k + 1) = n by omega]
    rfl

theorem iter_toList (a : BitArray BYTES) : a.iter.toList = .ok a.bits := by
  simp [iter, Iter.toList_eq, bits, List.range_eq_range']

theorem bitsEq_zip : ∀ (xs ys : List Bool), xs.length = ys.length → bitsEq (xs.zip ys) = (xs == ys)
  | [], [], _ => rfl
  | x :: xs, y :: ys, h => by
    have ih := bitsEq_zip xs ys (by simpa using h)
    cases x <;> cases y <;> simp [bitsEq, List.zip_cons_cons] <;> simpa using ih

theorem eq_eq (lhs : BitArray LBYTES) (rhs : BitArray RBYTES) : lhs.eq rhs = .ok (lhs.bits == rhs.bits) := by
  unfold eq
  split
  · rename_i h
    simp [iter_toList, bitsEq_zip lhs.bits rhs.bits (by simpa [len] using h)]
  · rename_i h
    have : lhs.bits ≠ rhs.bits := fun e => h (by simpa [len] using congrArg List.length e)
    rw [beq_eq_false_iff_ne.mpr this]; rfl

theorem compare_eq (lhs : BitArray LBYTES) (rhs : BitArray RBYTES) :
    lhs.compare rhs = .ok ((Ord.compare lhs.len rhs.len).then (compareBits (lhs.bits.zip rhs.bits))) := by
  unfold compare thenWith
  split <;> simp_all [iter_toList, Ordering.then]

/-! ## 直列化と逆直列化 -/

theorem foldlM_writeBool (a : BitArray BYTES) :
    ∀ (l : List Nat) (c : WriteCursor), (∀ i ∈ l, i < a.bitLength) →
      l.foldlM (fun cursor bitIndex => do
        let value ← a.get bitIndex
        pure (cursor.writeBool value)) c = .ok ⟨c.bits ++ l.map a.bit⟩
  | [], c, _ => by simp only [List.foldlM, List.map_nil, List.append_nil]; rfl
  | i :: l, c, h => by
    simp only [List.foldlM_cons, get_of_lt (h i (List.mem_cons_self _ _)), ok_bind, pure_bind]
    rw [foldlM_writeBool a l _ fun j hj => h j (List.mem_cons_of_mem _ hj)]
    simp

/-- 速い道でもビットごとの道でも、`serialize` は `bits` をそのまま書く。 -/
theorem serialize_eq (a : BitArray BYTES) (c : WriteCursor) : a.serialize c = .ok ⟨c.bits ++ a.bits⟩ := by
  unfold serialize
  split
  · rename_i h
    have hl : a.bitLength = BYTES * 8 := by simpa using (Bool.and_eq_true _ _).mp h |>.1
    simp [WriteCursor.writeAlignedBytes, bytes_flatMap_byteBits, bits, hl]
  · exact foldlM_writeBool a _ c fun i hi => List.mem_range.mp hi

theorem fillWithReads_snd (bytes : List (BitVec 8)) (c : ReadCursor) :
    (fillWithReads bytes c).2 = c.skip (bytes.length * 8) := by
  induction bytes generalizing c with
  | nil => rfl
  | cons _ rest ih =>
    simp only [fillWithReads, ih, ReadCursor.readAlignedU8_snd, ReadCursor.skip_skip, List.length_cons]
    congr 1
    omega

theorem fillWithReads_flatMap (bytes : List (BitVec 8)) (c : ReadCursor) :
    (fillWithReads bytes c).1.flatMap byteBits = c.peek (bytes.length * 8) := by
  induction bytes generalizing c with
  | nil => rfl
  | cons _ rest ih =>
    simp only [fillWithReads, List.flatMap_cons, ih, ReadCursor.byteBits_readAlignedU8,
      ReadCursor.readAlignedU8_snd, List.length_cons, Nat.succ_mul, Nat.add_comm _ 8, ReadCursor.peek_add]

/-- 速い道で読んだ配列の `j` 番目のビットは、カーソルの位置から `j` 番目のビットである。 -/
theorem bit_fillWithReads (a : BitArray BYTES) (c : ReadCursor) {j : Nat} (hj : j < BYTES * 8) :
    (⟨(fillWithReads a.bytes c).1, a.bitLength, by rw [length_fillWithReads, a.length_bytes],
        a.bitLength_le⟩ : BitArray BYTES).bit j =
      c.bits[c.position + j]?.getD false := by
  have h := congrArg (·[j]?) (fillWithReads_flatMap a.bytes c)
  simp only [flatMap_byteBits, length_fillWithReads, a.length_bytes] at h
  simpa [ReadCursor.peek, hj, bit] using h

theorem foldlM_readBool (a : BitArray BYTES) (c : ReadCursor) :
    ∀ m, m ≤ a.bitLength → ∃ b, (List.range m).foldlM (fun (array, cursor) i => do
        let (value, cursor) := cursor.readBool
        let array ← array.set i value
        pure (array, cursor)) (a, c) = .ok (b, c.skip m) ∧
      b.bitLength = a.bitLength ∧ ∀ j, b.bit j = if j < m then c.bits[c.position + j]?.getD false else a.bit j
  | 0, _ => ⟨a, rfl, rfl, fun j => by simp⟩
  | m + 1, hm => by
    obtain ⟨b, hb, hlen, hbit⟩ := foldlM_readBool a c m (by omega)
    obtain ⟨b', hb', hlen', hbit'⟩ := b.set_of_lt (show m < b.bitLength by omega) (c.bits[c.position + m]?.getD false)
    refine ⟨b', ?_, hlen'.trans hlen, fun j => ?_⟩
    · rw [List.range_succ, List.foldlM_append, hb]
      simp only [ok_bind, List.foldlM_cons, List.foldlM_nil, ReadCursor.readBool_fst,
        ReadCursor.readBool_snd, ReadCursor.skip_position, ReadCursor.skip_bits, hb',
        ReadCursor.skip_skip, bind_pure]
      rfl
    · rw [hbit', hbit]
      by_cases hj : j = m
      · simp [hj]
      · by_cases hj' : j < m
        · simp [hj, hj', Nat.lt_succ_of_lt hj']
        · simp [hj, hj', show ¬ j < m + 1 by omega]

/-- `deserialize_in_place` は `len` ビットを読んで `bits` に置く。カーソルは、速い道では
`BYTES * 8` ビット、ビットごとの道では `len` ビット進む。 -/
theorem deserializeInPlace_eq (a : BitArray BYTES) (c : ReadCursor) :
    ∃ b, a.deserializeInPlace c =
        .ok (b, c.skip (if a.bitLength % 8 = 0 ∧ c.position % 8 = 0 then BYTES * 8 else a.bitLength)) ∧
      b.bitLength = a.bitLength ∧ b.bits = c.peek a.bitLength := by
  unfold deserializeInPlace
  split
  · rename_i h
    have hc : a.bitLength % 8 = 0 ∧ c.position % 8 = 0 := by
      simpa [ReadCursor.isAlignedTo8Bits] using h
    have hskip : c.skip (a.bytes.length * 8) = c.skip (BYTES * 8) := by rw [a.length_bytes]
    refine ⟨⟨(fillWithReads a.bytes c).1, a.bitLength, by rw [length_fillWithReads, a.length_bytes],
      a.bitLength_le⟩, by rw [if_pos hc, fillWithReads_snd, hskip], rfl, ?_⟩
    simp only [bits, ReadCursor.peek]
    refine List.map_congr_left fun j hj => bit_fillWithReads a c ?_
    have := a.bitLength_le; have := List.mem_range.mp hj; omega
  · rename_i h
    have hc : ¬ (a.bitLength % 8 = 0 ∧ c.position % 8 = 0) := by
      simpa [ReadCursor.isAlignedTo8Bits] using h
    obtain ⟨b, hb, hlen, hbit⟩ := foldlM_readBool a c a.bitLength le_rfl
    refine ⟨b, by rw [hb, if_neg hc], hlen, ?_⟩
    simp only [bits, ReadCursor.peek, hlen]
    exact List.map_congr_left fun j hj => by simp [hbit, List.mem_range.mp hj]

end BitArray
end Canadensis
