import Canadensis.Encoding.Lemmas.BitArray

/-!
# `BitArray` の定理

意味 `bits` を通して、操作の振る舞い、比較の法則、直列化の往復を言明する。証明に使う補題は
`Lemmas/BitArray.lean` に置く。

`deserialize_in_place` の速い道は、長さが 8 の倍数で位置が整列していれば、長さに関わらず
`BYTES` バイトをすべて読む。`serialize` の速い道は長さが `BYTES * 8` のときだけなので、往復すると
カーソルの進み方が食い違う。
-/

namespace Canadensis
namespace BitArray

variable {BYTES LBYTES RBYTES : Nat}

/-! ## 比較 -/

theorem compareBits_zip_eq_iff :
    ∀ (xs ys : List Bool), xs.length = ys.length → (compareBits (xs.zip ys) = .eq ↔ xs = ys)
  | [], [], _ => by simp [compareBits]
  | x :: xs, y :: ys, h => by
    have ih := compareBits_zip_eq_iff xs ys (by simpa using h)
    cases x <;> cases y <;> simp [compareBits, List.zip_cons_cons] <;> simpa using ih

theorem compareBits_zip_swap : ∀ (xs ys : List Bool),
    compareBits (ys.zip xs) = (compareBits (xs.zip ys)).swap
  | [], _ => by simp [compareBits, Ordering.swap]
  | _ :: _, [] => by simp [compareBits, Ordering.swap]
  | x :: xs, y :: ys => by
    have ih := compareBits_zip_swap xs ys
    cases x <;> cases y <;> simp [compareBits, List.zip_cons_cons, Ordering.swap] <;> simpa using ih

theorem compareBits_zip_trans : ∀ (xs ys zs : List Bool),
    xs.length = ys.length → ys.length = zs.length →
      compareBits (xs.zip ys) = .lt → compareBits (ys.zip zs) = .lt → compareBits (xs.zip zs) = .lt
  | [], [], [], _, _ => by simp [compareBits]
  | x :: xs, y :: ys, z :: zs, h₁, h₂ => by
    have ih := compareBits_zip_trans xs ys zs (by simpa using h₁) (by simpa using h₂)
    cases x <;> cases y <;> cases z <;> simp [compareBits, List.zip_cons_cons] <;> simpa using ih

/-! ## 意味による振る舞い -/

theorem eq_iff (lhs : BitArray LBYTES) (rhs : BitArray RBYTES) : lhs.eq rhs = .ok true ↔ lhs.bits = rhs.bits := by
  simp [eq_eq]

theorem new_bits {n : Nat} (hn : n ≤ BYTES * 8) :
    ∃ b : BitArray BYTES, new n = .ok b ∧ b.bits = List.replicate n false := by
  refine ⟨_, new_of_le hn, ?_⟩
  have hfalse : ∀ j, (⟨List.replicate BYTES 0#8, n, List.length_replicate _ _, hn⟩ :
      BitArray BYTES).bit j = false := fun j => by
    simp only [bit, List.getElem?_replicate]
    split <;> simp
  simp only [bits]
  rw [List.map_congr_left fun j _ => hfalse j]
  simp

theorem then_eq_lt {o p : Ordering} : o.then p = .lt ↔ o = .lt ∨ (o = .eq ∧ p = .lt) := by
  cases o <;> simp [Ordering.then]

/-- `compare` は長さ、次にビットの辞書式（`false < true`）の全順序で、`==` と一致する。 -/
theorem compare_total_order (a : BitArray LBYTES) (b : BitArray RBYTES) {CBYTES : Nat} (c : BitArray CBYTES) :
    a.compare b = .ok ((Ord.compare a.len b.len).then (compareBits (a.bits.zip b.bits))) ∧
    (a.compare b = .ok .eq ↔ a.eq b = .ok true) ∧
    b.compare a = (a.compare b).map Ordering.swap ∧
    (a.compare b = .ok .lt → b.compare c = .ok .lt → a.compare c = .ok .lt) := by
  have hne : ∀ {LB RB : Nat} {x : BitArray LB} {y : BitArray RB}, x.len ≠ y.len → x.bits ≠ y.bits :=
    fun h e => h (by simpa [len] using congrArg List.length e)
  refine ⟨compare_eq a b, ?_, ?_, ?_⟩
  · rw [compare_eq, eq_iff]
    rcases Nat.lt_trichotomy a.len b.len with h | h | h
    · simp [Ordering.then, Nat.compare_eq_lt.mpr h, hne (Nat.ne_of_lt h)]
    · simp [Ordering.then, Nat.compare_eq_eq.mpr h,
        compareBits_zip_eq_iff a.bits b.bits (by simpa [len] using h)]
    · simp [Ordering.then, Nat.compare_eq_gt.mpr h, hne (Nat.ne_of_gt h)]
  · rw [compare_eq, compare_eq, ← Nat.compare_swap, compareBits_zip_swap]
    cases Ord.compare a.len b.len <;> simp [Ordering.then, Ordering.swap, Except.map]
  · simp only [compare_eq, Except.ok.injEq, then_eq_lt, Nat.compare_eq_lt, Nat.compare_eq_eq]
    rintro (hab | ⟨hab, hab'⟩) (hbc | ⟨hbc, hbc'⟩)
    iterate 3 exact .inl (by omega)
    exact .inr ⟨hab.trans hbc, compareBits_zip_trans _ _ _ (by simpa [len] using hab) (by simpa [len] using hbc) hab' hbc'⟩

/-! ## 直列化の往復 -/

theorem deserialize_after_bits (a : BitArray BYTES) (pre rest : List Bool) :
    ∃ b : BitArray BYTES, deserialize a.len ⟨pre ++ a.bits ++ rest, pre.length⟩ =
        .ok (b, ⟨pre ++ a.bits ++ rest,
          pre.length + if a.len % 8 = 0 ∧ pre.length % 8 = 0 then BYTES * 8 else a.len⟩) ∧
      b.eq a = .ok true := by
  obtain ⟨b, hb, -, hbits⟩ := deserializeInPlace_eq
    (⟨List.replicate BYTES 0#8, a.bitLength, List.length_replicate _ _, a.bitLength_le⟩ : BitArray BYTES)
    ⟨pre ++ a.bits ++ rest, pre.length⟩
  refine ⟨b, ?_, (eq_iff b a).mpr ?_⟩
  · simp only [deserialize, len, new_of_le a.bitLength_le, ok_bind, hb]; rfl
  · rw [hbits, ← length_bits a, ReadCursor.peek_of_bits]

/-- `serialize` が書いた `bits` を同じ長さの `deserialize` で読むと等しい配列が返り、カーソルは、長さが 8 の倍数で
位置が揃っていれば `BYTES * 8` ビット、そうでなければ `len` ビット進む。 -/
theorem deserialize_serialize (a : BitArray BYTES) (w : WriteCursor) (pre rest : List Bool) :
    a.serialize w = .ok ⟨w.bits ++ a.bits⟩ ∧
    ∃ b : BitArray BYTES, deserialize a.len ⟨pre ++ a.bits ++ rest, pre.length⟩ =
        .ok (b, ⟨pre ++ a.bits ++ rest,
          pre.length + if a.len % 8 = 0 ∧ pre.length % 8 = 0 then BYTES * 8 else a.len⟩) ∧
      b.eq a = .ok true :=
  ⟨serialize_eq a w, deserialize_after_bits a pre rest⟩

/-- `BitArray::<2>::new(8)` の直列化は 8 ビットを書くが、`deserialize(8, r)` は `r` を 16 ビット進める。 -/
theorem deserialize_short_array_advances_sixteen :
    ((new 8 : Except Panic (BitArray 2)) >>= fun a => a.serialize ⟨[]⟩) = .ok ⟨List.replicate 8 false⟩ ∧
    ((deserialize 8 ⟨List.replicate 16 false, 0⟩ : Except Panic (BitArray 2 × ReadCursor)).map
      (·.2.position)) = .ok 16 := ⟨rfl, rfl⟩

/-- 長さ 8 の `BitArray<2>` の、揃った位置からの `deserialize_in_place` はカーソルを 16 ビット進める。 -/
theorem deserializeInPlace_fast_path_advances_sixteen :
    ((⟨[0#8, 0#8], 8, rfl, by decide⟩ : BitArray 2).deserializeInPlace
      ⟨List.replicate 16 false, 0⟩).map (·.2.position) = .ok 16 := rfl

end BitArray
end Canadensis
