import Canadensis.Codegen.ModuleTree
import Canadensis.Codegen.ExternalModule

/-!
# 生成する項目

`canadensis_codegen_rust/src/lib.rs` の、DSDL の型から Rust の項目を作ってモジュールの木に集める部分：
型の名前 `RustTypeName::for_message_type` とその `Display`、フィールドの型 `to_rust_type`、ゼロコピーの
判定、`generate_from_dsdl`、`generate_code`、`GeneratedModule` の `Display`。

DSDL の型（`canadensis_dsdl_frontend`）と大文字小文字の変換（`heck`）は `src/` にない。DSDL の型は
このファイルのコードが読む欄だけを持つ型で、`BitLengthSet` はその最小値と最大値で、`heck` の変換は
関数の組 `Heck` で表す。`panic!` は、その文言を持つ `Except String` である。
-/

namespace Canadensis
namespace Codegen

/-! ## DSDL の型 -/

/-- Modelled from the spec: `TypeKey`：パッケージの道 `name().path()`、名前 `name().name()`、版 `version()`。 -/
structure TypeKey where
  path : List String
  name : String
  major : UInt8
  minor : UInt8
  deriving DecidableEq, Repr

/-- Modelled from the spec: `BitLengthSet`：直列化したときのビット数がとりうる値の、最小値と最大値。 -/
structure BitLengthSet where
  minValue : Nat
  maxValue : Nat
  deriving DecidableEq, Repr

/-- Modelled from the spec: `BitLengthSet::is_fixed_size`。 -/
def BitLengthSet.isFixedSize (s : BitLengthSet) : Bool := s.minValue == s.maxValue

/-- Modelled from the spec: `PrimitiveType`。符号なし整数と浮動小数点数の `CastMode` は、どの関数も読まない。 -/
inductive PrimitiveType where
  | boolean
  | int (bits : UInt8)
  | uint (bits : UInt8)
  | float16
  | float32
  | float64
  deriving DecidableEq, Repr

mutual

/-- Modelled from the spec: `ResolvedScalarType`：複合型は、その鍵と中身のメッセージを持つ。 -/
inductive ResolvedScalarType where
  | composite (key : TypeKey) (inner : Message)
  | primitive (primitive : PrimitiveType)
  | void (bits : UInt8)

/-- Modelled from the spec: `ResolvedType`。 -/
inductive ResolvedType where
  | scalar (scalar : ResolvedScalarType)
  | fixedArray (inner : ResolvedScalarType) (len : Nat)
  | variableArray (inner : ResolvedScalarType) (maxLen : Nat)

/-- Modelled from the spec: `FieldKind`。 -/
inductive FieldKind where
  | padding (bits : UInt8)
  | data (ty : ResolvedType) (name : String)

/-- Modelled from the spec: 構造体のフィールド `Field`：その種類と `always_aligned()`。 -/
inductive Field where
  | mk (kind : FieldKind) (alwaysAligned : Bool)

/-- Modelled from the spec: 共用体の変種 `Variant`。 -/
inductive Variant where
  | mk (ty : ResolvedType) (name : String)

/-- Modelled from the spec: `MessageKind`。 -/
inductive MessageKind where
  | struct (fields : List Field)
  | union (discriminantBits : UInt8) (variants : List Variant)

/-- Modelled from the spec: コンパイルしたメッセージ `Message`：`bit_length()` と `kind()`。 -/
inductive Message where
  | mk (bitLength : BitLengthSet) (kind : MessageKind)

end

/-- Modelled from the spec: `Field::always_aligned()`。 -/
def Field.alwaysAligned : Field → Bool
  | .mk _ alwaysAligned => alwaysAligned

/-- Modelled from the spec: `DsdlKind`。 -/
inductive DsdlKind where
  | message (message : Message)
  | service (request response : Message)

/-- Modelled from the spec: `CompiledDsdl`：固定のポート番号と、型の中身。 -/
structure CompiledDsdl where
  fixedPortId : Option Nat
  kind : DsdlKind

/-- Modelled from the spec: `heck` の `to_snake_case` と `to_camel_case`。 -/
structure Heck where
  toSnakeCase : String → String
  toCamelCase : String → String

/-! ## Rust の型の名前 -/

/-- `make_rust_identifier`：`_` だけの識別子は `_0` にする。 -/
def makeRustIdentifier (identifier : String) : String :=
  if identifier = "_" then identifier.push '0' else identifier

/-- `RustTypeName`：`crate::` から始まる内部の型か、`::` から始まる外部の型か、モジュールの道、型の名前。 -/
structure RustTypeName where
  internal : Bool
  path : List String
  typeName : String
  deriving DecidableEq, Repr

/-- `for_message_type` の版のモジュール `format!("{}_{}_{}", …)`。 -/
def versionModule (heck : Heck) (key : TypeKey) : String :=
  heck.toSnakeCase key.name ++ "_" ++ toString key.major ++ "_" ++ toString key.minor

section Names

variable (heck : Heck) (externalPackages : List String → Option (List String))

/-- 外部パッケージの型は `::` と外部のモジュールの道の下に、そうでない型は `crate::` とパッケージの道の
下に、版のモジュールを置く。 -/
def RustTypeName.forMessageType (key : TypeKey) : RustTypeName :=
  let typeName := makeRustIdentifier key.name
  match externalModule key.path externalPackages with
  | some externalModule => ⟨false, externalModule ++ [versionModule heck key], typeName⟩
  | none => ⟨true, key.path.map makeRustIdentifier ++ [versionModule heck key], typeName⟩

structure ServiceTypeNames where
  request : RustTypeName
  response : RustTypeName

def ServiceTypeNames.forServiceType (key : TypeKey) : ServiceTypeNames :=
  let base := RustTypeName.forMessageType heck externalPackages key
  ⟨{ base with typeName := base.typeName ++ "Request" }, { base with typeName := base.typeName ++ "Response" }⟩

end Names

/-- `Display for RustTypeName`。 -/
def RustTypeName.toString (name : RustTypeName) : String :=
  (if name.internal then "crate::" else "::") ++ String.join (name.path.map (· ++ "::")) ++ name.typeName

def roundUpIntegerSize (bits : UInt8) : Except String UInt8 :=
  if bits ≤ 8 then .ok 8
  else if bits ≤ 16 then .ok 16
  else if bits ≤ 32 then .ok 32
  else if bits ≤ 64 then .ok 64
  else .error "Integer too large"

section RustType

variable (heck : Heck) (externalPackages : List String → Option (List String))

def scalarToRustType : ResolvedScalarType → Except String String
  | .composite key _ => .ok (RustTypeName.forMessageType heck externalPackages key).toString
  | .primitive .boolean => .ok "bool"
  | .primitive (.int bits) => (fun size => "i" ++ toString size) <$> roundUpIntegerSize bits
  | .primitive (.uint bits) => (fun size => "u" ++ toString size) <$> roundUpIntegerSize bits
  | .primitive .float16 => .ok "::half::f16"
  | .primitive .float32 => .ok "f32"
  | .primitive .float64 => .ok "f64"
  | .void _ => .ok "()"

/-- 真偽値の配列は、ビット数を切り上げたバイト数の `BitArray` にする。 -/
def toRustType : ResolvedType → Except String String
  | .scalar scalar => scalarToRustType heck externalPackages scalar
  | .fixedArray (.primitive .boolean) len | .variableArray (.primitive .boolean) len =>
    .ok ("::canadensis_encoding::bits::BitArray<" ++ toString ((len + 7) / 8) ++ ">")
  | .fixedArray inner len =>
    (fun ty => "[" ++ ty ++ "; " ++ toString len ++ "]") <$> scalarToRustType heck externalPackages inner
  | .variableArray inner maxLen =>
    (fun ty => "::heapless::Vec<" ++ ty ++ ", " ++ toString maxLen ++ ">") <$>
      scalarToRustType heck externalPackages inner

end RustType

/-! ## ゼロコピー -/

mutual

def typeSupportsZeroCopy : ResolvedType → Bool
  | .scalar scalar => scalarSupportsZeroCopy scalar
  | .fixedArray inner _ => scalarSupportsZeroCopy inner
  | .variableArray _ _ => false

def scalarSupportsZeroCopy : ResolvedScalarType → Bool
  | .composite _ inner => messageSupportsZeroCopy inner
  | .primitive .boolean => false
  | .primitive (.int bits) | .primitive (.uint bits) =>
    match bits with
    | 8 | 16 | 32 | 64 => true
    | _ => false
  | .primitive .float16 | .primitive .float32 | .primitive .float64 => true
  | .void _ => false

/-- 入れ子の複合型の判定：大きさが決まっていて、構造体で、どのフィールドも常に揃っていて、詰め物でなく、
その型がゼロコピーにできる。 -/
def messageSupportsZeroCopy : Message → Bool
  | .mk bitLength (.struct fields) => bitLength.isFixedSize && fieldsSupportZeroCopy fields
  | .mk _ (.union _ _) => false

/-- `message_supports_zero_copy` のフィールドのループ。 -/
def fieldsSupportZeroCopy : List Field → Bool
  | [] => true
  | .mk kind alwaysAligned :: fields =>
    if !alwaysAligned then false
    else
      match kind with
      | .padding _ => false
      | .data ty _ => typeSupportsZeroCopy ty && fieldsSupportZeroCopy fields

end

/-! ## 生成する項目と `Display` -/

inductive MessageRole where
  | message
  | request
  | response
  deriving DecidableEq, Repr

structure GeneratedDataField where
  name : String
  ty : String
  uavcanTy : ResolvedType
  alwaysAligned : Bool

def GeneratedDataField.supportsZeroCopy (field : GeneratedDataField) : Bool := typeSupportsZeroCopy field.uavcanTy

/-- `GeneratedField`：データのフィールドか、ビット数を持つ詰め物。 -/
inductive GeneratedField where
  | data (field : GeneratedDataField)
  | padding (bits : UInt8)

structure GeneratedVariant where
  name : String
  ty : String
  uavcanTy : ResolvedType

/-- `GeneratedTypeKind`：`GeneratedStruct` のフィールド、または `GeneratedEnum` の判別子のビット数と変種。 -/
inductive GeneratedTypeKind where
  | struct (fields : List GeneratedField)
  | enum (discriminantBits : UInt8) (variants : List GeneratedVariant)

/-- `GeneratedType`。`uavcan_name`、`extent`、`constants` は、`src/` にない `impl_*` のモジュールと文書の行
だけが読むので持たない。 -/
structure GeneratedType where
  name : RustTypeName
  size : BitLengthSet
  role : MessageRole
  kind : GeneratedTypeKind

/-- 最上位の判定：大きさが決まっていて、構造体で、どのフィールドも詰め物でなく、その型がゼロコピーに
できる。フィールドが常に揃っているかは見ない。 -/
def GeneratedType.supportsZeroCopy (self : GeneratedType) : Bool :=
  match self.kind with
  | .struct fields => self.size.isFixedSize && fields.all fun
    | .data field => field.supportsZeroCopy
    | .padding _ => false
  | .enum _ _ => false

inductive GeneratedItem where
  | type (ty : GeneratedType)
  | constant (name : RustTypeName) (ty value : String)

def GeneratedItem.name : GeneratedItem → RustTypeName
  | .type ty => ty.name
  | .constant name _ _ => name

section Generate

variable (heck : Heck) (externalPackages : List String → Option (List String))

/-- `GeneratedField::data`（同じ名前の構成子 `GeneratedField.data` があるので `newData` とする）。 -/
def GeneratedField.newData (ty : ResolvedType) (name : String) (alwaysAligned : Bool) : Except String GeneratedField :=
  (fun rustTy => .data ⟨makeRustIdentifier name, rustTy, ty, alwaysAligned⟩) <$> toRustType heck externalPackages ty

def GeneratedVariant.new (ty : ResolvedType) (name : String) : Except String GeneratedVariant :=
  (fun rustTy => ⟨heck.toCamelCase (makeRustIdentifier name), rustTy, ty⟩) <$> toRustType heck externalPackages ty

def GeneratedType.new (name : RustTypeName) (size : BitLengthSet) (role : MessageRole) (kind : GeneratedTypeKind) :
    GeneratedType :=
  ⟨name, size, role, kind⟩

def GeneratedType.newStruct (name : RustTypeName) (size : BitLengthSet) (role : MessageRole) (fields : List Field) :
    Except String GeneratedType := do
  let fields ← fields.mapM fun
    | .mk (.padding bits) _ => pure (.padding bits)
    | .mk (.data ty fieldName) alwaysAligned => GeneratedField.newData heck externalPackages ty fieldName alwaysAligned
  pure (GeneratedType.new name size role (.struct fields))

def GeneratedType.newEnum (name : RustTypeName) (size : BitLengthSet) (role : MessageRole) (discriminantBits : UInt8)
    (variants : List Variant) : Except String GeneratedType := do
  let variants ← variants.mapM fun (.mk ty variantName) => GeneratedVariant.new heck externalPackages ty variantName
  pure (GeneratedType.new name size role (.enum discriminantBits variants))

def generateRustType (message : Message) (rustType : RustTypeName) (role : MessageRole) :
    Except String GeneratedType :=
  match message with
  | .mk bitLength (.struct fields) => GeneratedType.newStruct heck externalPackages rustType bitLength role fields
  | .mk bitLength (.union discriminantBits variants) =>
    GeneratedType.newEnum heck externalPackages rustType bitLength role discriminantBits variants

/-- `generate_from_dsdl` が `items` に足す項目：固定のポート番号があればその定数、そして型（サービスなら要求と
応答の型）。 -/
def generateFromDsdl (key : TypeKey) (dsdl : CompiledDsdl) : Except String (List GeneratedItem) :=
  match dsdl.kind with
  | .message message =>
    let rustType := RustTypeName.forMessageType heck externalPackages key
    let constant : List GeneratedItem := match dsdl.fixedPortId with
      | some subjectId => [.constant ⟨true, rustType.path, "SUBJECT"⟩ "::canadensis_core::SubjectId"
          ("::canadensis_core::SubjectId::from_truncating(" ++ toString subjectId ++ ")")]
      | none => []
    (fun ty => constant ++ [.type ty]) <$> generateRustType heck externalPackages message rustType .message
  | .service request response =>
    let rustType := ServiceTypeNames.forServiceType heck externalPackages key
    let constant : List GeneratedItem := match dsdl.fixedPortId with
      | some serviceId => [.constant ⟨true, rustType.request.path, "SERVICE"⟩ "::canadensis_core::ServiceId"
          ("::canadensis_core::ServiceId::from_truncating(" ++ toString serviceId ++ ")")]
      | none => []
    do
      let requestType ← generateRustType heck externalPackages request rustType.request .request
      let responseType ← generateRustType heck externalPackages response rustType.response .response
      pure (constant ++ [.type requestType, .type responseType])

/-- `GeneratedModule`：生成した項目の木。 -/
structure GeneratedModule where
  tree : ModuleTree GeneratedItem

/-- `generate_code`：外部パッケージにない型だけを生成し、項目をその名前の道の木に集める。 -/
def generateCode (package : List (TypeKey × CompiledDsdl)) : Except String GeneratedModule := do
  let generatedTypes ← package.foldlM (fun generatedTypes keyDsdl =>
    if (externalModule keyDsdl.1.path externalPackages).isNone then
      (generatedTypes ++ ·) <$> generateFromDsdl heck externalPackages keyDsdl.1 keyDsdl.2
    else pure generatedTypes) []
  pure ⟨ModuleTree.fromIter (fun generatedItem => generatedItem.name.path) generatedTypes⟩

end Generate

/-- `Display for GeneratedItem`。型の文字列 `renderType` は、`src/` にない `impl_*` のモジュールが書く。 -/
def GeneratedItem.render (renderType : GeneratedType → String) : GeneratedItem → String
  | .type ty => renderType ty
  | .constant name ty value => "pub const " ++ name.typeName ++ ": " ++ ty ++ " = " ++ value ++ ";\n"

/-- `Display for GeneratedModule`：最上位に項目があれば panic し、なければ最上位のモジュールごとに lint の
属性をつけて書く。 -/
def GeneratedModule.toString (renderType : GeneratedType → String) (m : GeneratedModule) : Except String String :=
  if m.tree.items.isEmpty then
    .ok ("#[cfg(not(target_endian = \"little\"))] compile_error!(\"Zero-copy serialization requires a little-endian target\");\n" ++
      String.join (m.tree.children.map fun (subName, submodule) =>
        "#[allow(unused_variables, unused_braces, unused_parens)]\n" ++ "#[deny(unaligned_references)]\n" ++
          "pub mod " ++ subName ++ " \x7b\n" ++ ModuleTree.toString (GeneratedItem.render renderType) submodule ++
          "\x7d\n"))
  else .error "Top-level types are not allowed"

end Codegen
end Canadensis
