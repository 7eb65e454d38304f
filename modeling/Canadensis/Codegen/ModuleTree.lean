import Mathlib.Data.String.Basic

/-!
# 生成するモジュールの木

`canadensis_codegen_rust/src/module_tree.rs` の `ModuleTree`。生成した項目 `GeneratedItem` は、型 `α` と
そのモジュールの道 `name().path` を返す関数 `path` で表す。子モジュールの `BTreeMap<String, ModuleTree>` は
名前の順に並べた連想リストで、`entry().or_default()` はその順の位置に入れる。`Display` は、`writeln!` が
書く行の列 `fmt` と、行を文字列にする `Line.text` に分ける。
-/

namespace Canadensis
namespace Codegen

/-- `ModuleTree`：この階層の項目と、子モジュール。 -/
inductive ModuleTree (α : Type) where
  | mk (items : List α) (children : List (String × ModuleTree α))

namespace ModuleTree

variable {α : Type}

def items : ModuleTree α → List α
  | mk items _ => items

def children : ModuleTree α → List (String × ModuleTree α)
  | mk _ children => children

/-- `Default::default` -/
def default : ModuleTree α := mk [] []

/-- `BTreeMap::entry(key).or_default()` の木を `f` で書き換える。ないときは、名前の順の位置に入れる。 -/
def updateEntry (key : String) (f : ModuleTree α → ModuleTree α) :
    List (String × ModuleTree α) → List (String × ModuleTree α)
  | [] => [(key, f default)]
  | (k, t) :: rest =>
    if key < k then (key, f default) :: (k, t) :: rest
    else if key = k then (k, f t) :: rest
    else (k, t) :: updateEntry key f rest

def addItem : ModuleTree α → List String → α → ModuleTree α
  | mk items children, [], generated => mk (items ++ [generated]) children
  | mk items children, submodule :: restOfPath, generated =>
    mk items (updateEntry submodule (fun subtree => subtree.addItem restOfPath generated) children)

/-- `FromIterator::from_iter`：項目を順に、その道の位置に足す。 -/
def fromIter (path : α → List String) (iter : List α) : ModuleTree α :=
  iter.foldl (fun tree generatedItem => tree.addItem (path generatedItem) generatedItem) default

/-! ## `Display` -/

/-- `writeln!` の一回が書く行：項目、`pub mod` の開き、閉じ。 -/
inductive Line (α : Type) where
  | item (generated : α)
  | modOpen (name : String)
  | modClose

/-- 行の文字列。項目の文字列 `render` は、`GeneratedItem` の `Display`。 -/
def Line.text (render : α → String) : Line α → String
  | .item generated => render generated
  | .modOpen name => "pub mod " ++ name ++ " \x7b"
  | .modClose => "\x7d"

mutual

def fmt : ModuleTree α → List (Line α)
  | mk items children => items.map .item ++ fmtChildren children

def fmtChildren : List (String × ModuleTree α) → List (Line α)
  | [] => []
  | (subName, submodule) :: rest => .modOpen subName :: fmt submodule ++ [.modClose] ++ fmtChildren rest

end

/-- `Display::fmt` が書く文字列。 -/
def toString (render : α → String) (t : ModuleTree α) : String :=
  String.join ((fmt t).map fun line => line.text render ++ "\n")

end ModuleTree

end Codegen
end Canadensis
