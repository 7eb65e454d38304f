import Mathlib.Data.List.Basic

/-!
# 外部パッケージのモジュール

`canadensis_codegen_rust/src/lib.rs` の `external_module`。`BTreeMap<Vec<String>, Vec<String>>` は、その
`get` である関数 `externalPackages` で表す。
-/

namespace Canadensis
namespace Codegen

/-- `for i in (1..=package.len()).rev()` のループ：`i` から 1 まで、長さ `i` の接頭辞を探す。 -/
def externalModuleLoop (package : List String) (externalPackages : List String → Option (List String)) :
    Nat → Option (List String)
  | 0 => none
  | i + 1 =>
    match externalPackages (package.take (i + 1)) with
    | some rustModule => some (rustModule ++ package.drop (i + 1))
    | none => externalModuleLoop package externalPackages i

def externalModule (package : List String) (externalPackages : List String → Option (List String)) :
    Option (List String) :=
  externalModuleLoop package externalPackages package.length

end Codegen
end Canadensis
