import Canadensis.Codegen.Lemmas.ModuleTree
import Canadensis.Codegen.ExternalModule
import Canadensis.Codegen.Lemmas.Generate
import Canadensis.Encoding.Theorems

/-!
# コード生成の定理

`from_iter` が作る木の形と `Display` の出力（`Lemmas/ModuleTree.lean` から）、`external_module` が
最も長い外部パッケージを選ぶこと。`generate_code` がいつ panic し、生成した項目をどこに書くか、型の名前が
その場所を指すこと、ゼロコピーの二つの判定の関係、真偽値の配列に選ぶ `BitArray` の容量
（`Lemmas/Generate.lean` から）。
-/

namespace Canadensis
namespace Codegen

/-! ## モジュールの木 -/

namespace ModuleTree

variable {α : Type}

/-- 項目がなくても、根の木はある。 -/
theorem root_exists_without_items :
    ¬ (((fromIter (fun generatedItem : List String => generatedItem) []).find? []).isSome ↔
      ∃ generatedItem ∈ ([] : List (List String)), [] <+: generatedItem) := by
  simp

/-- `from_iter` の木の道 `q` の節は、`q` が空か項目の道の接頭辞のときにあり、道が `q` の項目を入力の順に持つ。
`Display` は各項目をちょうど一度、その道の `pub mod` で囲んで書く。 -/
theorem fromIter_module_tree (path : α → List String) (iter : List α) :
    (∀ q, ((fromIter path iter).find? q).isSome ↔ q = [] ∨ ∃ generatedItem ∈ iter, q <+: path generatedItem) ∧
    (∀ q t, (fromIter path iter).find? q = some t → t.items = iter.filter fun generatedItem => path generatedItem = q) ∧
    ∃ lines, scopes [] (fmt (fromIter path iter)) = some (lines, []) ∧
      lines.Perm (iter.map fun generatedItem => (path generatedItem, generatedItem)) := by
  refine ⟨isSome_find?_fromIter path iter, fun q t h => ?_, _, scopes_fmt_self _, entries_fromIter path iter⟩
  simpa [itemsAt, h] using itemsAt_fromIter path iter q

end ModuleTree

/-! ## 外部パッケージ -/

section ExternalModule

variable (package : List String) (externalPackages : List String → Option (List String))

theorem externalModuleLoop_eq_none : ∀ k, externalModuleLoop package externalPackages k = none ↔
    ∀ i, 1 ≤ i → i ≤ k → externalPackages (package.take i) = none
  | 0 => ⟨fun _ i h₁ h₂ => absurd (h₁.trans h₂) (by omega), fun _ => rfl⟩
  | k + 1 => by
    rw [externalModuleLoop]
    cases hk : externalPackages (package.take (k + 1)) with
    | some rustModule =>
      refine ⟨fun h => (nomatch h), fun h => ?_⟩
      rw [h (k + 1) (by omega) le_rfl] at hk
      cases hk
    | none =>
      dsimp only
      rw [externalModuleLoop_eq_none k]
      refine ⟨fun h i h₁ h₂ => ?_, fun h i h₁ h₂ => h i h₁ (by omega)⟩
      rcases Nat.lt_or_eq_of_le h₂ with h₂ | rfl
      · exact h i h₁ (by omega)
      · exact hk

theorem externalModuleLoop_of_largest {i : Nat} {rustModule : List String} (h₁ : 1 ≤ i)
    (hi : externalPackages (package.take i) = some rustModule) : ∀ k, i ≤ k →
    (∀ j, i < j → j ≤ k → externalPackages (package.take j) = none) →
    externalModuleLoop package externalPackages k = some (rustModule ++ package.drop i)
  | 0, h₂, _ => absurd (h₁.trans h₂) (by omega)
  | k + 1, h₂, hlarger => by
    rw [externalModuleLoop]
    rcases Nat.lt_or_eq_of_le h₂ with h₂ | rfl
    · rw [hlarger (k + 1) h₂ le_rfl]
      exact externalModuleLoop_of_largest h₁ hi k (by omega) fun j hj₁ hj₂ => hlarger j hj₁ (by omega)
    · rw [hi]

/-- `external_module` は、キーである最も長い空でない接頭辞 `package[..i]` の値に残り `package[i..]` を
つなげて返し、そのような接頭辞がなければ `None` を返す。 -/
theorem externalModule_longest_prefix :
    (externalModule package externalPackages = none ↔
      ∀ i, 1 ≤ i → i ≤ package.length → externalPackages (package.take i) = none) ∧
    ∀ i rustModule, 1 ≤ i → i ≤ package.length → externalPackages (package.take i) = some rustModule →
      (∀ j, i < j → j ≤ package.length → externalPackages (package.take j) = none) →
      externalModule package externalPackages = some (rustModule ++ package.drop i) :=
  ⟨externalModuleLoop_eq_none package externalPackages package.length,
    fun _ _ h₁ h₂ hi hlarger => externalModuleLoop_of_largest package externalPackages h₁ hi _ h₂ hlarger⟩

example : externalModule ["uavcan", "more_specific", "even_more", "sub"]
    (fun key => [(["uavcan"], ["canadensis_data_types", "uavcan"]),
      (["uavcan", "more_specific"], ["more_specific_uavcan_module"]),
      (["uavcan", "more_specific", "even_more"], ["even_more_specific_uavcan_module"])].lookup key) =
    some ["even_more_specific_uavcan_module", "sub"] := by
  decide

end ExternalModule

/-! ## 生成 -/

section Generate

variable (heck : Heck) (externalPackages : List String → Option (List String))

/-- `generate_code` は、外部にない型の整数が 64 ビットを超えるときだけ `Integer too large` で panic する。成功すれば
`Display` は panic せず、外部にない型の項目をすべて、それだけを、パッケージと版の `pub mod` の中に書く。 -/
theorem generateCode_module (package : List (TypeKey × CompiledDsdl)) :
    (∀ e, generateCode heck externalPackages package = .error e ↔
      (∃ key dsdl, (key, dsdl) ∈ package ∧ externalModule key.path externalPackages = none ∧
        dsdlFits dsdl = false) ∧ e = "Integer too large") ∧
    ∀ m, generateCode heck externalPackages package = .ok m →
      m.tree.items = [] ∧ (∀ renderType, ∃ s, m.toString renderType = .ok s) ∧
      ModuleTree.scopes [] (ModuleTree.fmt m.tree) = some (ModuleTree.entries m.tree, []) ∧
      (∀ p generated, (p, generated) ∈ ModuleTree.entries m.tree →
        generated.name.internal = true ∧ generated.name.path = p ∧
        ∃ key dsdl items, (key, dsdl) ∈ package ∧ externalModule key.path externalPackages = none ∧
          generateFromDsdl heck externalPackages key dsdl = .ok items ∧ generated ∈ items ∧
          p = key.path.map makeRustIdentifier ++ [versionModule heck key]) ∧
      ∀ key dsdl, (key, dsdl) ∈ package → externalModule key.path externalPackages = none →
        ∃ items, generateFromDsdl heck externalPackages key dsdl = .ok items ∧
          ∀ generated ∈ items, (generated.name.path, generated) ∈ ModuleTree.entries m.tree := by
  refine ⟨fun e => ?_, fun m h => ?_⟩
  · rw [failsIff_generateCode heck externalPackages package e, List.all_eq_false]
    simp only [List.mem_filter, Option.isNone_iff_eq_none, Bool.not_eq_true, Prod.exists, and_assoc]
  obtain ⟨generatedTypes, htree, hfrom, hcover⟩ := mem_generateCode heck externalPackages h
  have hroot : m.tree.items = [] := by
    have hitems : m.tree.itemsAt [] = _ := htree ▸ ModuleTree.itemsAt_fromIter _ generatedTypes []
    refine hitems.trans (List.filter_eq_nil_iff.mpr fun generated hg => ?_)
    obtain ⟨key, -, -, -, -, -, -, -, hpath⟩ := hfrom generated hg
    simp [hpath]
  refine ⟨hroot, fun renderType => ⟨_, by rw [GeneratedModule.toString, if_pos (by simp [hroot])]⟩,
    ModuleTree.scopes_fmt_self _, fun p generated hp => ?_, fun key dsdl hk hext => ?_⟩
  · rw [htree, ModuleTree.mem_entries_fromIter] at hp
    obtain ⟨key, dsdl, items, hk, hext, hgen, hmem, hinternal, hpath⟩ := hfrom generated hp.1
    exact ⟨hinternal, hp.2, key, dsdl, items, hk, hext, hgen, hmem, hp.2 ▸ hpath⟩
  · obtain ⟨items, hgen, hsub⟩ := hcover key dsdl hk hext
    exact ⟨items, hgen, fun generated hg => by rw [htree, ModuleTree.mem_entries_fromIter]; exact ⟨hsub generated hg, rfl⟩⟩

/-- 複合型のフィールドにつける型の名前は、外部にない型なら `generate_code` がその型を書く道とその名前を指し、
外部の型なら `external_module` の道を指す。 -/
theorem composite_reference_resolves (package : List (TypeKey × CompiledDsdl)) (key : TypeKey) (inner : Message) :
    (externalModule key.path externalPackages = none →
      scalarToRustType heck externalPackages (.composite key inner) =
        .ok ("crate::" ++ String.join ((key.path.map makeRustIdentifier ++ [versionModule heck key]).map (· ++ "::")) ++
          makeRustIdentifier key.name) ∧
      ∀ m fixedPortId message, generateCode heck externalPackages package = .ok m →
        (key, ⟨fixedPortId, .message message⟩) ∈ package →
        ∃ ty, (key.path.map makeRustIdentifier ++ [versionModule heck key], GeneratedItem.type ty) ∈
          ModuleTree.entries m.tree ∧ ty.name.typeName = makeRustIdentifier key.name) ∧
    ∀ rustModule, externalModule key.path externalPackages = some rustModule →
      scalarToRustType heck externalPackages (.composite key inner) =
        .ok ("::" ++ String.join ((rustModule ++ [versionModule heck key]).map (· ++ "::")) ++
          makeRustIdentifier key.name) := by
  refine ⟨fun hext => ⟨?_, fun m fixedPortId message h hk => ?_⟩, fun rustModule hext => ?_⟩
  · simp only [scalarToRustType, forMessageType_of_none heck externalPackages hext, RustTypeName.toString, if_true]
  · obtain ⟨generatedTypes, htree, -, hcover⟩ := mem_generateCode heck externalPackages h
    obtain ⟨items, hgen, hsub⟩ := hcover key _ hk hext
    obtain ⟨ty, hty, hname⟩ := type_mem_generateFromDsdl heck externalPackages hgen
    rw [forMessageType_of_none heck externalPackages hext] at hname
    refine ⟨ty, ?_, by rw [hname]⟩
    rw [htree, ModuleTree.mem_entries_fromIter]
    exact ⟨hsub _ hty, by simp [GeneratedItem.name, hname]⟩
  · simp only [scalarToRustType, forMessageType_of_some heck externalPackages hext, RustTypeName.toString]
    rfl

/-- 入れ子の判定を通る構造体は panic せずに生成でき、最上位の判定も通る。二つの判定の違いは、フィールドが常に
揃っているかを最上位の判定が見ないことだけである。 -/
theorem generateRustType_supportsZeroCopy (bitLength : BitLengthSet) (fields : List Field) (rustType : RustTypeName)
    (role : MessageRole) :
    (messageSupportsZeroCopy (.mk bitLength (.struct fields)) = true →
      ∃ ty, generateRustType heck externalPackages (.mk bitLength (.struct fields)) rustType role = .ok ty ∧
        ty.supportsZeroCopy = true) ∧
    ∀ ty, generateRustType heck externalPackages (.mk bitLength (.struct fields)) rustType role = .ok ty →
      messageSupportsZeroCopy (.mk bitLength (.struct fields)) = (ty.supportsZeroCopy && fields.all Field.alwaysAligned) := by
  have heq : ∀ ty, generateRustType heck externalPackages (.mk bitLength (.struct fields)) rustType role = .ok ty →
      messageSupportsZeroCopy (.mk bitLength (.struct fields)) = (ty.supportsZeroCopy && fields.all Field.alwaysAligned) :=
    fun ty h => by
      rw [supportsZeroCopy_generateRustType heck externalPackages h, messageSupportsZeroCopy,
        fieldsSupportZeroCopy_eq_all, Bool.and_assoc]
  refine ⟨fun hm => ?_, heq⟩
  have hfails := failsIff_generateRustType heck externalPackages (.mk bitLength (.struct fields)) rustType role
  rw [messageFits_of_messageSupportsZeroCopy hm] at hfails
  obtain ⟨ty, hty⟩ := hfails.exists_ok
  rw [heq ty hty, Bool.and_eq_true] at hm
  exact ⟨ty, hty, hm.1⟩

/-- 真偽値の配列の `BitArray<(len + 7) / 8>` は `new` が長さ `len` 以下を受け付ける最小の容量で、`deserialize(n)` は
等しい配列を返し、`n` が 8 の倍数で位置が揃っていれば `BYTES * 8` ビット、そうでなければ `n` ビット進む。 -/
theorem boolArray_capacity (len : Nat) :
    toRustType heck externalPackages (.fixedArray (.primitive .boolean) len) =
      .ok ("::canadensis_encoding::bits::BitArray<" ++ toString ((len + 7) / 8) ++ ">") ∧
    toRustType heck externalPackages (.variableArray (.primitive .boolean) len) =
      .ok ("::canadensis_encoding::bits::BitArray<" ++ toString ((len + 7) / 8) ++ ">") ∧
    (∀ n ≤ len, ∃ a : BitArray ((len + 7) / 8), BitArray.new n = .ok a ∧ a.bits = List.replicate n false) ∧
    (∀ BYTES < (len + 7) / 8,
      (BitArray.new len : Except Panic (BitArray BYTES)) = .error (.assertion "bit_length <= BYTES * 8")) ∧
    ∀ (a : BitArray ((len + 7) / 8)) (pre rest : List Bool), a.len ≤ len →
      ∃ (b : BitArray ((len + 7) / 8)) (k : Nat), BitArray.deserialize a.len ⟨pre ++ a.bits ++ rest, pre.length⟩ =
          .ok (b, ⟨pre ++ a.bits ++ rest, pre.length + k⟩) ∧ b.eq a = .ok true ∧
        k = (if a.len % 8 = 0 ∧ pre.length % 8 = 0 then (len + 7) / 8 * 8 else a.len) ∧
        (k = a.len ↔ (a.len % 8 = 0 ∧ pre.length % 8 = 0 → a.len = len ∧ len % 8 = 0)) := by
  refine ⟨rfl, rfl, fun n hn => BitArray.new_bits (by omega), fun BYTES hB => BitArray.new_of_lt (by omega),
    fun a pre rest hlen => ?_⟩
  obtain ⟨b, hb, heq⟩ := BitArray.deserialize_after_bits a pre rest
  refine ⟨b, _, hb, heq, rfl, ?_⟩
  split_ifs with h <;> omega

end Generate

end Codegen
end Canadensis
