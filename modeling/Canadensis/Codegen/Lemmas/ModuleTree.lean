import Canadensis.Codegen.ModuleTree

/-!
# `ModuleTree` の補題

道をたどって着く木 `find?` と、木が持つ項目とその道 `entries` を定め、`update_entry`、`add_item`、
`from_iter` がそれをどう変えるかを示す。`BTreeMap` の探索の補題は、キーが名前の順に並ぶこと
（`Sorted`）を使う。
-/

namespace Canadensis
namespace Codegen
namespace ModuleTree

variable {α : Type}

/-! ## 子の探索 -/

/-- 道の名前の順に子をたどって着く木。 -/
def find? : ModuleTree α → List String → Option (ModuleTree α)
  | t, [] => some t
  | t, s :: rest => (t.children.lookup s).bind fun sub => sub.find? rest

/-- 道 `p` の木の項目。木がなければ空。 -/
def itemsAt (t : ModuleTree α) (p : List String) : List α := ((t.find? p).map items).getD []

@[simp] theorem find?_nil (t : ModuleTree α) : t.find? [] = some t := rfl

theorem find?_cons (items : List α) (children : List (String × ModuleTree α)) (s : String) (rest : List String) :
    (mk items children).find? (s :: rest) = (children.lookup s).bind fun sub => sub.find? rest := rfl

@[simp] theorem isSome_find?_default (p : List String) : ((default : ModuleTree α).find? p).isSome ↔ p = [] := by
  cases p <;> simp [default, find?_cons]

@[simp] theorem itemsAt_default (p : List String) : (default : ModuleTree α).itemsAt p = [] := by
  cases p <;> rfl

mutual

/-- 子のキーが名前の順に並ぶ（`BTreeMap` の不変条件）。 -/
def Sorted : ModuleTree α → Prop
  | mk _ children => (children.map Prod.fst).Pairwise (· < ·) ∧ SortedChildren children

def SortedChildren : List (String × ModuleTree α) → Prop
  | [] => True
  | (_, t) :: rest => t.Sorted ∧ SortedChildren rest

end

theorem lookup_cons_ite (s k : String) (t : ModuleTree α) (rest : List (String × ModuleTree α)) :
    ((k, t) :: rest).lookup s = if s = k then some t else rest.lookup s := by
  by_cases h : s = k
  · simp [List.lookup_cons, h]
  · rw [List.lookup_cons, beq_false_of_ne h, if_neg h]

theorem lookup_eq_none_of_lt {key : String} : ∀ {children : List (String × ModuleTree α)},
    (∀ p ∈ children, key < p.1) → children.lookup key = none
  | [], _ => rfl
  | (k, t) :: rest, h => by
    rw [lookup_cons_ite, if_neg (h _ (List.mem_cons_self _ _)).ne,
      lookup_eq_none_of_lt fun p hp => h p (List.mem_cons_of_mem _ hp)]

theorem itemsAt_cons (items : List α) (children : List (String × ModuleTree α)) (s : String) (rest : List String) :
    (mk items children).itemsAt (s :: rest) = ((children.lookup s).map fun sub => sub.itemsAt rest).getD [] := by
  simp only [itemsAt, find?_cons]
  cases children.lookup s <;> rfl

theorem sorted_default : (default : ModuleTree α).Sorted := ⟨List.Pairwise.nil, trivial⟩

theorem sorted_of_lookup : ∀ {children : List (String × ModuleTree α)} {s : String} {t : ModuleTree α},
    SortedChildren children → children.lookup s = some t → t.Sorted
  | [], _, _, _, h => by cases h
  | (k, t') :: rest, s, t, ⟨ht', hrest⟩, h => by
    rw [lookup_cons_ite] at h
    split_ifs at h
    · exact Option.some.inj h ▸ ht'
    · exact sorted_of_lookup hrest h

/-! ## `update_entry` -/

section UpdateEntry

variable (key : String) (f : ModuleTree α → ModuleTree α)

theorem mem_keys_updateEntry : ∀ {children : List (String × ModuleTree α)} {x : String},
    x ∈ (updateEntry key f children).map Prod.fst → x = key ∨ x ∈ children.map Prod.fst
  | [], x, h => by simp_all [updateEntry]
  | (k, t) :: rest, x, h => by
    unfold updateEntry at h
    split_ifs at h with h₁ h₂
    · simpa only [List.map_cons, List.mem_cons] using h
    · exact .inr h
    · simp only [List.map_cons, List.mem_cons] at h ⊢
      rcases h with rfl | h
      · exact .inr (.inl rfl)
      · exact (mem_keys_updateEntry h).imp_right .inr

theorem pairwise_updateEntry : ∀ {children : List (String × ModuleTree α)},
    (children.map Prod.fst).Pairwise (· < ·) → ((updateEntry key f children).map Prod.fst).Pairwise (· < ·)
  | [], _ => List.pairwise_singleton _ _
  | (k, t) :: rest, h => by
    rw [List.map_cons, List.pairwise_cons] at h
    unfold updateEntry
    split_ifs with h₁ h₂
    · refine List.Pairwise.cons (fun x hx => ?_) (List.Pairwise.cons h.1 h.2)
      rcases List.mem_cons.mp hx with rfl | hx
      · exact h₁
      · exact h₁.trans (h.1 x hx)
    · exact List.Pairwise.cons h.1 h.2
    · refine List.Pairwise.cons (fun x hx => ?_) (pairwise_updateEntry h.2)
      rcases mem_keys_updateEntry key f hx with rfl | hx
      · exact lt_of_le_of_ne (not_lt.mp h₁) (Ne.symm h₂)
      · exact h.1 x hx

theorem sortedChildren_updateEntry (hf : ∀ t, t.Sorted → (f t).Sorted) : ∀ {children : List (String × ModuleTree α)},
    SortedChildren children → SortedChildren (updateEntry key f children)
  | [], _ => ⟨hf _ sorted_default, trivial⟩
  | (k, t) :: rest, ⟨ht, hrest⟩ => by
    unfold updateEntry
    split_ifs
    · exact ⟨hf _ sorted_default, ht, hrest⟩
    · exact ⟨hf _ ht, hrest⟩
    · exact ⟨ht, sortedChildren_updateEntry hf hrest⟩

/-- 順に並んだ `BTreeMap` では、`entry(key)` の木だけが `f` で変わる（なければ既定の木から作る）。 -/
theorem lookup_updateEntry : ∀ {children : List (String × ModuleTree α)}, (children.map Prod.fst).Pairwise (· < ·) →
    ∀ k, (updateEntry key f children).lookup k =
      if k = key then some (f ((children.lookup key).getD default)) else children.lookup k
  | [], _, k => by by_cases hk : k = key <;> simp [updateEntry, lookup_cons_ite, hk]
  | (k', t) :: rest, h, k => by
    rw [List.map_cons, List.pairwise_cons] at h
    rw [updateEntry]
    by_cases h₁ : key < k'
    · have hnone : rest.lookup key = none :=
        lookup_eq_none_of_lt fun p hp => h₁.trans (h.1 p.1 (List.mem_map_of_mem _ hp))
      rw [if_pos h₁]
      by_cases hk : k = key
      · subst hk
        simp [lookup_cons_ite, hnone, h₁.ne]
      · simp [lookup_cons_ite, hk]
    by_cases h₂ : key = k'
    · rw [if_neg h₁, if_pos h₂]
      subst h₂
      by_cases hk : k = key <;> simp [lookup_cons_ite, hk]
    · rw [if_neg h₁, if_neg h₂, lookup_cons_ite, lookup_updateEntry h.2 k, lookup_cons_ite, lookup_cons_ite,
        if_neg h₂]
      by_cases hk : k = k'
      · subst hk
        simp [Ne.symm h₂]
      · simp [hk]

end UpdateEntry

theorem sorted_getD_lookup {children : List (String × ModuleTree α)} (h : SortedChildren children) (s : String) :
    ((children.lookup s).getD default).Sorted := by
  cases hl : children.lookup s with
  | none => exact sorted_default
  | some t => exact sorted_of_lookup h hl

/-! ## `add_item` と `from_iter` -/

section AddItem

variable (a : α)

theorem addItem_nil (items : List α) (children : List (String × ModuleTree α)) :
    (mk items children).addItem [] a = mk (items ++ [a]) children := rfl

theorem addItem_cons (items : List α) (children : List (String × ModuleTree α)) (s : String) (rest : List String) :
    (mk items children).addItem (s :: rest) a =
      mk items (updateEntry s (fun subtree => subtree.addItem rest a) children) := rfl

theorem sorted_addItem : ∀ (p : List String) (t : ModuleTree α), t.Sorted → (t.addItem p a).Sorted
  | [], mk _ _, h => h
  | s :: rest, mk _ _, ⟨hk, hc⟩ =>
    ⟨pairwise_updateEntry s _ hk, sortedChildren_updateEntry s _ (fun t ht => sorted_addItem rest t ht) hc⟩

/-- `add_item` の後、道 `q` の木があるのは、前からあったか、`q` が `p` の接頭辞であるとき。 -/
theorem isSome_find?_addItem : ∀ (p : List String) (t : ModuleTree α), t.Sorted → ∀ q,
    ((t.addItem p a).find? q).isSome ↔ (t.find? q).isSome ∨ q <+: p
  | _, mk _ _, _, [] => by simp
  | [], mk _ _, _, _ :: _ => by simp [addItem_nil, find?_cons]
  | s :: rest, mk _ children, ⟨hk, hc⟩, s' :: rest' => by
    rw [addItem_cons, find?_cons, find?_cons, lookup_updateEntry s _ hk, List.cons_prefix_cons]
    by_cases hs : s' = s
    · subst hs
      rw [if_pos rfl, Option.some_bind, isSome_find?_addItem rest _ (sorted_getD_lookup hc s') rest']
      cases children.lookup s' with
      | none => simpa using fun h : rest' = [] => h ▸ List.nil_prefix
      | some sub => simp
    · simp [hs]

/-- `add_item` は、道 `p` の木の項目の最後に `a` を足し、他の木の項目を変えない。 -/
theorem itemsAt_addItem : ∀ (p : List String) (t : ModuleTree α), t.Sorted → ∀ q,
    (t.addItem p a).itemsAt q = t.itemsAt q ++ if q = p then [a] else []
  | [], mk _ _, _, [] => by simp [addItem_nil, itemsAt, items]
  | [], mk _ _, _, _ :: _ => by simp [addItem_nil, itemsAt_cons]
  | _ :: _, mk _ _, _, [] => by simp [addItem_cons, itemsAt, items]
  | s :: rest, mk _ children, ⟨hk, hc⟩, s' :: rest' => by
    rw [addItem_cons, itemsAt_cons, itemsAt_cons, lookup_updateEntry s _ hk]
    by_cases hs : s' = s
    · subst hs
      rw [if_pos rfl, Option.map_some', Option.getD_some, itemsAt_addItem rest _ (sorted_getD_lookup hc s') rest']
      cases children.lookup s' <;> simp
    · simp [hs]

end AddItem

section FromIter

variable (path : α → List String)

theorem isSome_find?_foldl_addItem : ∀ (iter : List α) (t : ModuleTree α), t.Sorted → ∀ q,
    ((iter.foldl (fun tree generatedItem => tree.addItem (path generatedItem) generatedItem) t).find? q).isSome ↔
      (t.find? q).isSome ∨ ∃ generatedItem ∈ iter, q <+: path generatedItem
  | [], _, _, _ => by simp
  | generatedItem :: iter, t, h, q => by
    rw [List.foldl_cons, isSome_find?_foldl_addItem iter _ (sorted_addItem _ _ t h) q,
      isSome_find?_addItem _ _ t h q]
    simp only [List.mem_cons, exists_eq_or_imp, or_assoc]

theorem itemsAt_foldl_addItem : ∀ (iter : List α) (t : ModuleTree α), t.Sorted → ∀ q,
    (iter.foldl (fun tree generatedItem => tree.addItem (path generatedItem) generatedItem) t).itemsAt q =
      t.itemsAt q ++ iter.filter fun generatedItem => path generatedItem = q
  | [], _, _, _ => by simp
  | generatedItem :: iter, t, h, q => by
    rw [List.foldl_cons, itemsAt_foldl_addItem iter _ (sorted_addItem _ _ t h) q, itemsAt_addItem _ _ t h q,
      List.filter_cons]
    by_cases hq : path generatedItem = q
    · simp [hq]
    · simp [hq, Ne.symm hq]

theorem isSome_find?_fromIter (iter : List α) (q : List String) :
    ((fromIter path iter).find? q).isSome ↔ q = [] ∨ ∃ generatedItem ∈ iter, q <+: path generatedItem := by
  rw [fromIter, isSome_find?_foldl_addItem path iter _ sorted_default, isSome_find?_default]

theorem itemsAt_fromIter (iter : List α) (q : List String) :
    (fromIter path iter).itemsAt q = iter.filter fun generatedItem => path generatedItem = q := by
  rw [fromIter, itemsAt_foldl_addItem path iter _ sorted_default, itemsAt_default, List.nil_append]

end FromIter

/-! ## `Display` -/

mutual

/-- 木が持つ項目と、その木からの道。 -/
def entries : ModuleTree α → List (List String × α)
  | mk items children => items.map (fun generated => ([], generated)) ++ entriesChildren children

def entriesChildren : List (String × ModuleTree α) → List (List String × α)
  | [] => []
  | (name, sub) :: rest => (entries sub).map (fun e => (name :: e.1, e.2)) ++ entriesChildren rest

end

/-- 書かれた行を読み、各項目を、それを囲む `pub mod` の名前の列（外側が先）とともに返す。開いていない
`pub mod` を閉じれば `none`。`st` は開いている名前で、内側が先。 -/
def scopes : List String → List (Line α) → Option (List (List String × α) × List String)
  | st, [] => some ([], st)
  | st, .item generated :: ls => (scopes st ls).map fun r => ((st.reverse, generated) :: r.1, r.2)
  | st, .modOpen name :: ls => scopes (name :: st) ls
  | [], .modClose :: _ => none
  | _ :: st, .modClose :: ls => scopes st ls

@[simp] theorem scopes_modOpen (st : List String) (name : String) (ls : List (Line α)) :
    scopes st (.modOpen name :: ls) = scopes (name :: st) ls := by
  cases st <;> rfl

@[simp] theorem scopes_modClose (name : String) (st : List String) (ls : List (Line α)) :
    scopes (name :: st) (.modClose :: ls) = scopes st ls := rfl

theorem scopes_items (st : List String) (ls : List (Line α)) : ∀ items : List α,
    scopes st (items.map .item ++ ls) =
      (scopes st ls).map fun r => (items.map (fun generated => (st.reverse, generated)) ++ r.1, r.2)
  | [] => by simp
  | generated :: items => by
    rw [List.map_cons, List.cons_append, scopes, scopes_items st ls items, Option.map_map]
    rfl

mutual

theorem scopes_fmt : ∀ (t : ModuleTree α) (st : List String) (ls : List (Line α)),
    scopes st (fmt t ++ ls) =
      (scopes st ls).map fun r => ((entries t).map (fun e => (st.reverse ++ e.1, e.2)) ++ r.1, r.2)
  | mk items children, st, ls => by
    rw [fmt, entries, List.append_assoc, scopes_items, scopes_fmtChildren children st ls, Option.map_map]
    simp [Function.comp_def]

theorem scopes_fmtChildren : ∀ (children : List (String × ModuleTree α)) (st : List String) (ls : List (Line α)),
    scopes st (fmtChildren children ++ ls) =
      (scopes st ls).map fun r => ((entriesChildren children).map (fun e => (st.reverse ++ e.1, e.2)) ++ r.1, r.2)
  | [], st, ls => by simp [fmtChildren, entriesChildren]
  | (name, sub) :: rest, st, ls => by
    simp only [fmtChildren, List.cons_append, List.append_assoc, scopes_modOpen]
    rw [scopes_fmt sub (name :: st), List.nil_append, scopes_modClose, scopes_fmtChildren rest st ls,
      Option.map_map]
    simp [Function.comp_def, entriesChildren]

end

/-- `Display` は、木の各項目を一度ずつ、その道の `pub mod` で囲んで書き、開いた `pub mod` をすべて閉じる。 -/
theorem scopes_fmt_self (t : ModuleTree α) : scopes [] (fmt t) = some (entries t, []) := by
  simpa [scopes] using scopes_fmt t [] []

theorem entriesChildren_updateEntry (key : String) (f : ModuleTree α → ModuleTree α) (E : List (List String × α))
    (hf : ∀ t, (entries (f t)).Perm (E ++ entries t)) : ∀ children : List (String × ModuleTree α),
    (entriesChildren (updateEntry key f children)).Perm
      (E.map (fun e => (key :: e.1, e.2)) ++ entriesChildren children)
  | [] => by simpa [updateEntry, entriesChildren, default, entries] using (hf default).map _
  | (k, t) :: rest => by
    have hdefault : (entries (f default)).Perm (E ++ []) := hf default
    rw [updateEntry]
    split_ifs with h₁ h₂
    · rw [entriesChildren]
      simpa [default, entries] using (hdefault.map _).append_right _
    · subst h₂
      rw [entriesChildren, entriesChildren, ← List.append_assoc, ← List.map_append]
      exact ((hf t).map _).append_right _
    · rw [entriesChildren, entriesChildren]
      exact ((entriesChildren_updateEntry key f E hf rest).append_left _).trans (List.perm_append_comm_assoc _ _ _)

/-- `add_item` は、項目 `a` を道 `p` とともに一つだけ足す。 -/
theorem entries_addItem (a : α) : ∀ (p : List String) (t : ModuleTree α), (entries (t.addItem p a)).Perm ((p, a) :: entries t)
  | [], mk items children => by
    rw [addItem_nil, entries, entries, List.map_append, List.append_assoc]
    exact List.perm_middle
  | s :: rest, mk items children => by
    rw [addItem_cons, entries, entries]
    refine ((entriesChildren_updateEntry s _ [(rest, a)] (fun t => entries_addItem a rest t) children).append_left _).trans ?_
    exact List.perm_middle

theorem entries_foldl_addItem (path : α → List String) : ∀ (iter : List α) (t : ModuleTree α),
    (entries (iter.foldl (fun tree generatedItem => tree.addItem (path generatedItem) generatedItem) t)).Perm
      (iter.map (fun generatedItem => (path generatedItem, generatedItem)) ++ entries t)
  | [], _ => by simp
  | generatedItem :: iter, t => by
    rw [List.foldl_cons]
    exact (entries_foldl_addItem path iter _).trans (((entries_addItem _ _ t).append_left _).trans List.perm_middle)

theorem entries_fromIter (path : α → List String) (iter : List α) :
    (entries (fromIter path iter)).Perm (iter.map fun generatedItem => (path generatedItem, generatedItem)) := by
  simpa [default, entries, entriesChildren] using entries_foldl_addItem path iter default

theorem mem_entries_fromIter (path : α → List String) (iter : List α) (p : List String) (generated : α) :
    (p, generated) ∈ entries (fromIter path iter) ↔ generated ∈ iter ∧ path generated = p := by
  rw [(entries_fromIter path iter).mem_iff, List.mem_map]
  constructor
  · rintro ⟨g, hg, hpg⟩
    cases hpg
    exact ⟨hg, rfl⟩
  · rintro ⟨hg, rfl⟩
    exact ⟨generated, hg, rfl⟩

end ModuleTree
end Codegen
end Canadensis
