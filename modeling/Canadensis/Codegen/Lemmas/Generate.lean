import Canadensis.Codegen.Generate
import Canadensis.Codegen.Lemmas.ModuleTree
import Canadensis.Core.Basic

/-!
# 生成する項目の補題

型の名前 `for_message_type` がどちらの形になるか、どの関数がいつ panic するか（整数の型が 64 ビットを
超えるときだけで、文言は `Integer too large`）、`generate_code` の木がどの項目を持つか、ゼロコピーの二つの
判定がどう関係するかを、関数ごとに示す。
-/

namespace Canadensis
namespace Codegen

/-! ## `mapM` -/

section MapM

variable {ε α β : Type} {f : α → Except ε β}

theorem mapM_cons_eq_ok {x : α} {xs : List α} {ys : List β} :
    (x :: xs).mapM f = .ok ys ↔ ∃ y ys', f x = .ok y ∧ xs.mapM f = .ok ys' ∧ y :: ys' = ys := by
  simp only [List.mapM_cons, bind_eq_ok]
  simp [pure, Except.pure]

theorem mem_of_mapM_eq_ok : ∀ {xs : List α} {ys : List β}, xs.mapM f = .ok ys → ∀ y ∈ ys, ∃ x ∈ xs, f x = .ok y
  | [], ys, h => by rw [List.mapM_nil] at h; cases h; simp
  | x :: xs, ys, h => by
    obtain ⟨y, ys', hy, hys', rfl⟩ := mapM_cons_eq_ok.mp h
    rintro y' (_ | ⟨_, hy'⟩)
    · exact ⟨x, List.mem_cons_self _ _, hy⟩
    · obtain ⟨x', hx', h⟩ := mem_of_mapM_eq_ok hys' y' hy'
      exact ⟨x', List.mem_cons_of_mem _ hx', h⟩

theorem exists_of_mapM_eq_ok : ∀ {xs : List α} {ys : List β}, xs.mapM f = .ok ys → ∀ x ∈ xs, ∃ y ∈ ys, f x = .ok y
  | [], _, _ => by simp
  | x :: xs, ys, h => by
    obtain ⟨y, ys', hy, hys', rfl⟩ := mapM_cons_eq_ok.mp h
    rintro x' (_ | ⟨_, hx'⟩)
    · exact ⟨y, List.mem_cons_self _ _, hy⟩
    · obtain ⟨y', hy', h⟩ := exists_of_mapM_eq_ok hys' x' hx'
      exact ⟨y', List.mem_cons_of_mem _ hy', h⟩

/-- 各要素の写りで `p` と `q` が一致すれば、`mapM` の結果の `all p` はもとの列の `all q` である。 -/
theorem all_eq_of_mapM_eq_ok {p : β → Bool} {q : α → Bool} (hf : ∀ x y, f x = .ok y → p y = q x) :
    ∀ {xs : List α} {ys : List β}, xs.mapM f = .ok ys → ys.all p = xs.all q
  | [], ys, h => by rw [List.mapM_nil] at h; cases h; rfl
  | x :: xs, ys, h => by
    obtain ⟨y, ys', hy, hys', rfl⟩ := mapM_cons_eq_ok.mp h
    simp only [List.all_cons, hf x y hy, all_eq_of_mapM_eq_ok hf hys']

end MapM

/-! ## panic -/

/-- 整数の型のビット数が 64 以下である。`round_up_integer_size` は、そのときだけ panic しない。 -/
def scalarFits : ResolvedScalarType → Bool
  | .primitive (.int bits) | .primitive (.uint bits) => decide (bits ≤ 64)
  | _ => true

def typeFits : ResolvedType → Bool
  | .scalar scalar | .fixedArray scalar _ | .variableArray scalar _ => scalarFits scalar

def fieldFits : Field → Bool
  | .mk (.padding _) _ => true
  | .mk (.data ty _) _ => typeFits ty

def variantFits : Variant → Bool
  | .mk ty _ => typeFits ty

/-- メッセージのどのフィールドと変種の型も、整数なら 64 ビット以下である。複合型の中は見ない
（`to_rust_type` は複合型の名前しか作らない）。 -/
def messageFits : Message → Bool
  | .mk _ (.struct fields) => fields.all fieldFits
  | .mk _ (.union _ variants) => variants.all variantFits

def dsdlFits (dsdl : CompiledDsdl) : Bool :=
  match dsdl.kind with
  | .message message => messageFits message
  | .service request response => messageFits request && messageFits response

/-- `x` が panic するのは `fits = false` のときだけで、その文言は `Integer too large` である。 -/
def FailsIff {α : Type} (x : Except String α) (fits : Bool) : Prop :=
  ∀ e, x = .error e ↔ fits = false ∧ e = "Integer too large"

section FailsIff

variable {α β : Type}

theorem failsIff_ok (a : α) : FailsIff (.ok a) true := fun e => by simp

theorem FailsIff.map {x : Except String α} {fits : Bool} (h : FailsIff x fits) (f : α → β) :
    FailsIff (f <$> x) fits := fun e => by
  rw [← h e]
  cases x <;> simp [Functor.map, Except.map]

theorem FailsIff.bind {x : Except String α} {fits fits' : Bool} {f : α → Except String β} (h : FailsIff x fits)
    (hf : ∀ a, FailsIff (f a) fits') : FailsIff (x >>= f) (fits && fits') := fun e => by
  cases x with
  | error e' =>
    obtain ⟨rfl, rfl⟩ := (h e').mp rfl
    simp [eq_comm]
  | ok a =>
    have : fits = true := by simpa using fun h' => h "Integer too large" |>.mpr ⟨h', rfl⟩
    simpa [this] using hf a e

theorem FailsIff.exists_ok {x : Except String α} (h : FailsIff x true) : ∃ a, x = .ok a := by
  cases x with
  | error e => exact absurd ((h e).mp rfl).1 (by decide)
  | ok a => exact ⟨a, rfl⟩

theorem failsIff_mapM {f : α → Except String β} {fits : α → Bool} (h : ∀ x, FailsIff (f x) (fits x)) :
    ∀ xs : List α, FailsIff (xs.mapM f) (xs.all fits)
  | [] => by rw [List.mapM_nil]; exact failsIff_ok []
  | x :: xs => by
    rw [List.mapM_cons, List.all_cons, ← Bool.and_true (xs.all fits)]
    exact (h x).bind fun _ => (failsIff_mapM h xs).bind fun _ => failsIff_ok _

end FailsIff

theorem failsIff_roundUpIntegerSize (bits : UInt8) : FailsIff (roundUpIntegerSize bits) (decide (bits ≤ 64)) := by
  unfold roundUpIntegerSize
  split_ifs with h₈ h₁₆ h₃₂ h₆₄
  · rw [decide_eq_true (UInt8.le_trans h₈ (by decide))]; exact failsIff_ok _
  · rw [decide_eq_true (UInt8.le_trans h₁₆ (by decide))]; exact failsIff_ok _
  · rw [decide_eq_true (UInt8.le_trans h₃₂ (by decide))]; exact failsIff_ok _
  · rw [decide_eq_true h₆₄]; exact failsIff_ok _
  · rw [decide_eq_false h₆₄]; exact fun e => by simp [eq_comm]

section Generate

variable (heck : Heck) (externalPackages : List String → Option (List String))

theorem failsIff_scalarToRustType (scalar : ResolvedScalarType) :
    FailsIff (scalarToRustType heck externalPackages scalar) (scalarFits scalar) := by
  rcases scalar with _ | (_ | bits | bits | _ | _ | _) | _
  case primitive.int | primitive.uint => exact (failsIff_roundUpIntegerSize bits).map _
  all_goals exact failsIff_ok _

theorem failsIff_toRustType (ty : ResolvedType) :
    FailsIff (toRustType heck externalPackages ty) (typeFits ty) := by
  rcases ty with scalar | ⟨_ | (_ | _ | _ | _ | _ | _) | _, _⟩ | ⟨_ | (_ | _ | _ | _ | _ | _) | _, _⟩
  case scalar => exact failsIff_scalarToRustType heck externalPackages scalar
  case fixedArray.primitive.boolean | variableArray.primitive.boolean => exact failsIff_ok _
  all_goals exact (failsIff_scalarToRustType heck externalPackages _).map _

theorem failsIff_generateRustType (message : Message) (rustType : RustTypeName) (role : MessageRole) :
    FailsIff (generateRustType heck externalPackages message rustType role) (messageFits message) := by
  rcases message with ⟨bitLength, fields | ⟨discriminantBits, variants⟩⟩
  · rw [messageFits, ← Bool.and_true (fields.all fieldFits)]
    refine (failsIff_mapM (fun field => ?_) fields).bind fun _ => failsIff_ok _
    rcases field with ⟨_ | ⟨ty, _⟩, _⟩
    · exact failsIff_ok _
    · exact (failsIff_toRustType heck externalPackages ty).map _
  · rw [messageFits, ← Bool.and_true (variants.all variantFits)]
    refine (failsIff_mapM (fun variant => ?_) variants).bind fun _ => failsIff_ok _
    rcases variant with ⟨ty, _⟩
    exact (failsIff_toRustType heck externalPackages ty).map _

theorem failsIff_generateFromDsdl (key : TypeKey) (dsdl : CompiledDsdl) :
    FailsIff (generateFromDsdl heck externalPackages key dsdl) (dsdlFits dsdl) := by
  rcases dsdl with ⟨fixedPortId, message | ⟨request, response⟩⟩
  · exact (failsIff_generateRustType heck externalPackages message _ _).map _
  · show FailsIff _ (messageFits request && messageFits response)
    rw [← Bool.and_true (messageFits response)]
    exact (failsIff_generateRustType heck externalPackages request _ _).bind fun _ =>
      (failsIff_generateRustType heck externalPackages response _ _).bind fun _ => failsIff_ok _

/-! ## 名前と `generate_code` -/

theorem forMessageType_of_none {key : TypeKey} (h : externalModule key.path externalPackages = none) :
    RustTypeName.forMessageType heck externalPackages key =
      ⟨true, key.path.map makeRustIdentifier ++ [versionModule heck key], makeRustIdentifier key.name⟩ := by
  simp [RustTypeName.forMessageType, h]

theorem forMessageType_of_some {key : TypeKey} {rustModule : List String}
    (h : externalModule key.path externalPackages = some rustModule) :
    RustTypeName.forMessageType heck externalPackages key =
      ⟨false, rustModule ++ [versionModule heck key], makeRustIdentifier key.name⟩ := by
  simp [RustTypeName.forMessageType, h]

theorem name_generateRustType {message : Message} {rustType : RustTypeName} {role : MessageRole}
    {ty : GeneratedType} (h : generateRustType heck externalPackages message rustType role = .ok ty) :
    ty.name = rustType := by
  rcases message with ⟨bitLength, fields | ⟨discriminantBits, variants⟩⟩ <;>
  · obtain ⟨_, -, h⟩ := bind_eq_ok.mp h
    cases h
    rfl

theorem name_of_mem_generateFromDsdl {key : TypeKey} {dsdl : CompiledDsdl} {items : List GeneratedItem}
    (h : generateFromDsdl heck externalPackages key dsdl = .ok items)
    (hkey : externalModule key.path externalPackages = none) :
    ∀ generated ∈ items, generated.name.internal = true ∧
      generated.name.path = key.path.map makeRustIdentifier ++ [versionModule heck key] := by
  have hname := forMessageType_of_none heck externalPackages hkey
  rcases dsdl with ⟨fixedPortId, message | ⟨request, response⟩⟩
  · obtain ⟨ty, hty, rfl⟩ := map_eq_ok.mp h
    have := name_generateRustType heck externalPackages hty
    cases fixedPortId <;> simp [GeneratedItem.name, this, hname]
  · obtain ⟨requestType, hrq, h⟩ := bind_eq_ok.mp h
    obtain ⟨responseType, hrs, h⟩ := bind_eq_ok.mp h
    cases h
    have hrq := name_generateRustType heck externalPackages hrq
    have hrs := name_generateRustType heck externalPackages hrs
    cases fixedPortId <;>
      simp [GeneratedItem.name, hrq, hrs, ServiceTypeNames.forServiceType, hname]

/-- メッセージの型の項目は、`for_message_type` の名前を持つ。 -/
theorem type_mem_generateFromDsdl {key : TypeKey} {fixedPortId : Option Nat} {message : Message}
    {items : List GeneratedItem} (h : generateFromDsdl heck externalPackages key ⟨fixedPortId, .message message⟩ = .ok items) :
    ∃ ty, GeneratedItem.type ty ∈ items ∧ ty.name = RustTypeName.forMessageType heck externalPackages key := by
  obtain ⟨ty, hty, rfl⟩ := map_eq_ok.mp h
  exact ⟨ty, by simp, name_generateRustType heck externalPackages hty⟩

/-- `generate_code` のループ：外部パッケージにない型ごとの項目の列を、順につなげる。 -/
theorem foldlM_generate : ∀ (package : List (TypeKey × CompiledDsdl)) (acc : List GeneratedItem),
    package.foldlM (m := Except String) (fun generatedTypes keyDsdl =>
      if (externalModule keyDsdl.1.path externalPackages).isNone then
        (generatedTypes ++ ·) <$> generateFromDsdl heck externalPackages keyDsdl.1 keyDsdl.2
      else pure generatedTypes) acc =
    (fun lists => acc ++ lists.flatten) <$>
      (package.filter fun (keyDsdl : TypeKey × CompiledDsdl) => (externalModule keyDsdl.1.path externalPackages).isNone).mapM
        fun keyDsdl => generateFromDsdl heck externalPackages keyDsdl.1 keyDsdl.2
  | [], acc => by rw [List.foldlM_nil, List.filter_nil, List.mapM_nil, map_pure, List.flatten_nil, List.append_nil]
  | keyDsdl :: package, acc => by
    rw [List.foldlM_cons]
    by_cases hk : (externalModule keyDsdl.1.path externalPackages).isNone
    · rw [if_pos hk, List.filter_cons, if_pos hk, List.mapM_cons]
      cases generateFromDsdl heck externalPackages keyDsdl.1 keyDsdl.2 with
      | error e => rfl
      | ok items =>
        show List.foldlM _ (acc ++ items) package = _
        rw [foldlM_generate package (acc ++ items)]
        simp only [ok_bind, bind_pure_comp, Functor.map_map]
        congr 1
        funext lists
        simp
    · rw [if_neg hk, List.filter_cons, if_neg hk]
      exact foldlM_generate package acc

theorem generateCode_eq (package : List (TypeKey × CompiledDsdl)) :
    generateCode heck externalPackages package =
      (fun lists => ⟨ModuleTree.fromIter (fun generatedItem => generatedItem.name.path) lists.flatten⟩) <$>
        (package.filter fun (keyDsdl : TypeKey × CompiledDsdl) =>
          (externalModule keyDsdl.1.path externalPackages).isNone).mapM
          fun keyDsdl => generateFromDsdl heck externalPackages keyDsdl.1 keyDsdl.2 := by
  rw [generateCode, foldlM_generate]
  simp only [bind_pure_comp, Functor.map_map, List.nil_append]

theorem failsIff_generateCode (package : List (TypeKey × CompiledDsdl)) :
    FailsIff (generateCode heck externalPackages package)
      ((package.filter fun (keyDsdl : TypeKey × CompiledDsdl) => (externalModule keyDsdl.1.path externalPackages).isNone).all
        fun keyDsdl => dsdlFits keyDsdl.2) := by
  rw [generateCode_eq]
  exact (failsIff_mapM (fun (keyDsdl : TypeKey × CompiledDsdl) =>
    failsIff_generateFromDsdl heck externalPackages keyDsdl.1 keyDsdl.2) _).map _

/-- `generate_code` の木の項目は、外部にない型を `generate_from_dsdl` が作ったものちょうどすべてである。 -/
theorem mem_generateCode {package : List (TypeKey × CompiledDsdl)} {m : GeneratedModule}
    (h : generateCode heck externalPackages package = .ok m) :
    ∃ generatedTypes, m.tree = ModuleTree.fromIter (fun generatedItem => generatedItem.name.path) generatedTypes ∧
      (∀ generated ∈ generatedTypes, ∃ key dsdl items, (key, dsdl) ∈ package ∧
        externalModule key.path externalPackages = none ∧
        generateFromDsdl heck externalPackages key dsdl = .ok items ∧ generated ∈ items ∧
        generated.name.internal = true ∧
        generated.name.path = key.path.map makeRustIdentifier ++ [versionModule heck key]) ∧
      ∀ key dsdl, (key, dsdl) ∈ package → externalModule key.path externalPackages = none →
        ∃ items, generateFromDsdl heck externalPackages key dsdl = .ok items ∧ ∀ generated ∈ items,
          generated ∈ generatedTypes := by
  rw [generateCode_eq] at h
  obtain ⟨lists, hlists, rfl⟩ := map_eq_ok.mp h
  refine ⟨lists.flatten, rfl, fun generated hg => ?_, fun key dsdl hk hext => ?_⟩
  · obtain ⟨items, hitems, hg⟩ := List.mem_flatten.mp hg
    obtain ⟨⟨key, dsdl⟩, hk, hgen⟩ := mem_of_mapM_eq_ok hlists items hitems
    obtain ⟨hk, hext⟩ := List.mem_filter.mp hk
    have hext := Option.isNone_iff_eq_none.mp hext
    exact ⟨key, dsdl, items, hk, hext, hgen, hg, name_of_mem_generateFromDsdl heck externalPackages hgen hext generated hg⟩
  · obtain ⟨items, hitems, hgen⟩ := exists_of_mapM_eq_ok hlists (key, dsdl)
      (List.mem_filter.mpr ⟨hk, Option.isNone_iff_eq_none.mpr hext⟩)
    exact ⟨items, hgen, fun generated hg => List.mem_flatten.mpr ⟨items, hitems, hg⟩⟩

/-! ## ゼロコピー -/

/-- 詰め物でなく、型がゼロコピーにできるフィールド。 -/
def Field.kindSupportsZeroCopy : Field → Bool
  | .mk (.padding _) _ => false
  | .mk (.data ty _) _ => typeSupportsZeroCopy ty

/-- 入れ子の判定のループは、どのフィールドも種類の判定を通り、かつ常に揃っていることを見る。 -/
theorem fieldsSupportZeroCopy_eq_all : ∀ fields : List Field,
    fieldsSupportZeroCopy fields = (fields.all Field.kindSupportsZeroCopy && fields.all Field.alwaysAligned)
  | [] => rfl
  | .mk kind alwaysAligned :: fields => by
    cases kind <;> cases alwaysAligned <;>
      simp [fieldsSupportZeroCopy, Field.kindSupportsZeroCopy, Field.alwaysAligned, fieldsSupportZeroCopy_eq_all fields,
        Bool.and_assoc]

theorem scalarFits_of_scalarSupportsZeroCopy : ∀ {scalar : ResolvedScalarType},
    scalarSupportsZeroCopy scalar = true → scalarFits scalar = true
  | .composite _ _, _ | .primitive .float16, _ | .primitive .float32, _ | .primitive .float64, _ => rfl
  | .primitive .boolean, h | .void _, h => by simp [scalarSupportsZeroCopy] at h
  | .primitive (.int bits), h | .primitive (.uint bits), h => by
    simp only [scalarSupportsZeroCopy] at h
    split at h <;> first | decide | cases h

theorem typeFits_of_typeSupportsZeroCopy {ty : ResolvedType} (h : typeSupportsZeroCopy ty = true) :
    typeFits ty = true := by
  rcases ty with scalar | ⟨scalar, _⟩ | ⟨scalar, _⟩
  · exact scalarFits_of_scalarSupportsZeroCopy h
  · exact scalarFits_of_scalarSupportsZeroCopy h
  · simp [typeSupportsZeroCopy] at h

theorem fieldFits_of_kindSupportsZeroCopy : ∀ {field : Field}, field.kindSupportsZeroCopy = true → fieldFits field = true
  | .mk (.padding _) _, _ => rfl
  | .mk (.data _ _) _, h => typeFits_of_typeSupportsZeroCopy h

theorem messageFits_of_messageSupportsZeroCopy {message : Message} (h : messageSupportsZeroCopy message = true) :
    messageFits message = true := by
  rcases message with ⟨bitLength, fields | _⟩
  · simp only [messageSupportsZeroCopy, fieldsSupportZeroCopy_eq_all, Bool.and_eq_true, List.all_eq_true] at h
    exact List.all_eq_true.mpr fun field hfield => fieldFits_of_kindSupportsZeroCopy (h.2.1 field hfield)
  · simp [messageSupportsZeroCopy] at h

/-- 構造体を生成した型の最上位の判定は、大きさと、フィールドの種類だけを見る。 -/
theorem supportsZeroCopy_generateRustType {bitLength : BitLengthSet} {fields : List Field} {rustType : RustTypeName}
    {role : MessageRole} {ty : GeneratedType}
    (h : generateRustType heck externalPackages (.mk bitLength (.struct fields)) rustType role = .ok ty) :
    ty.supportsZeroCopy = (bitLength.isFixedSize && fields.all Field.kindSupportsZeroCopy) := by
  obtain ⟨generatedFields, hfields, h⟩ := bind_eq_ok.mp h
  cases h
  simp only [GeneratedType.supportsZeroCopy, GeneratedType.new]
  rw [all_eq_of_mapM_eq_ok ?_ hfields]
  rintro ⟨_ | ⟨fieldTy, name⟩, alwaysAligned⟩ generated hgen
  · cases hgen; rfl
  · obtain ⟨rustTy, -, rfl⟩ := map_eq_ok.mp hgen
    rfl

end Generate

end Codegen
end Canadensis
