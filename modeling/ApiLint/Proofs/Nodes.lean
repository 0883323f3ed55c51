import ApiLint.Proofs.Pointer
import ApiLint.Value
import Mathlib.Data.List.Nodup

/-!
# The nodes of a document

A document's nodes are the values it is made of, each reached from the root by its own tokens: an
object's keys, and the decimal indexes of a list's items.

## Main definitions

* `Value.Reaches`: tokens lead from a value to a node.
* `Value.nodes`: all nodes of a value with the tokens that lead to them, from the top down.
* `Value.hasDistinctKeys`: whether no object of a value has a key twice.

## Main results

* `Value.mem_nodes_iff`: the nodes are what tokens lead to.
* `Value.nodup_pointers`: different nodes have different pointers.
-/

namespace ApiLint.Value

/-! ## Ways to a node -/

/-- **Tokens lead from a value to a node**: each is a key of an object, or spells in decimal the
index of a list's item. -/
inductive Reaches : Value → List String → Value → Prop
  /-- No token leads to the value itself. -/
  | here (value : Value) : Reaches value [] value
  /-- A key leads into an object. -/
  | key {entries : Entries} {k : String} {child node : Value} {way : List String}
    (hentry : (k, child) ∈ entries) (hway : Reaches child way node) :
    Reaches (.object entries) (k :: way) node
  /-- An index leads into a list. -/
  | index {items : List Value} {i : Nat} {child node : Value} {way : List String}
    (hitem : items[i]? = some child) (hway : Reaches child way node) :
    Reaches (.array items) (toString i :: way) node

mutual

/-- **The nodes of a value**, from the top down, each with the tokens that lead to it. -/
def nodes : Value → List (List String × Value)
  | .object entries => ([], .object entries) :: nodesOfEntries entries
  | .array items => ([], .array items) :: nodesOfItems 0 items
  | .null => [([], .null)]
  | .bool b => [([], .bool b)]
  | .number n => [([], .number n)]
  | .string s => [([], .string s)]

/-- The nodes of the entries of an object. -/
def nodesOfEntries : List (String × Value) → List (List String × Value)
  | [] => []
  | (k, value) :: rest =>
    (nodes value).map (fun (way, node) => (k :: way, node)) ++ nodesOfEntries rest

/-- The nodes of the items of a list, counted from the given index. -/
def nodesOfItems (index : Nat) : List Value → List (List String × Value)
  | [] => []
  | item :: rest =>
    (nodes item).map (fun (way, node) => (toString index :: way, node)) ++
      nodesOfItems (index + 1) rest

end

mutual

/-- Whether no object of a value has a key twice. -/
def hasDistinctKeys : Value → Bool
  | .object entries => decide (entries.map Prod.fst).Nodup && entriesHaveDistinctKeys entries
  | .array items => itemsHaveDistinctKeys items
  | .null | .bool _ | .number _ | .string _ => true

/-- Whether no object in the entries of another one has a key twice. -/
def entriesHaveDistinctKeys : List (String × Value) → Bool
  | [] => true
  | (_, value) :: rest => hasDistinctKeys value && entriesHaveDistinctKeys rest

/-- Whether no object in the items of a list has a key twice. -/
def itemsHaveDistinctKeys : List Value → Bool
  | [] => true
  | item :: rest => hasDistinctKeys item && itemsHaveDistinctKeys rest

end

/-! ## The nodes are what tokens lead to -/

theorem reaches_nil_iff {value node : Value} : value.Reaches [] node ↔ value = node := by
  constructor
  · rintro ⟨⟩
    rfl
  · rintro rfl
    exact .here value

theorem reaches_object_cons_iff {entries : Entries} {token : String} {way : List String}
    {node : Value} :
    (Value.object entries).Reaches (token :: way) node ↔
      ∃ child, (token, child) ∈ entries ∧ child.Reaches way node := by
  constructor
  · rintro (_ | ⟨hentry, hway⟩)
    exact ⟨_, hentry, hway⟩
  · rintro ⟨child, hentry, hway⟩
    exact .key hentry hway

theorem reaches_array_cons_iff {items : List Value} {token : String} {way : List String}
    {node : Value} :
    (Value.array items).Reaches (token :: way) node ↔
      ∃ (i : Nat) (child : Value), toString i = token ∧ items[i]? = some child ∧
        child.Reaches way node := by
  constructor
  · rintro (_ | _ | ⟨hitem, hway⟩)
    exact ⟨_, _, rfl, hitem, hway⟩
  · rintro ⟨i, child, rfl, hitem, hway⟩
    exact .index hitem hway

mutual

/-- **The nodes of a value are what tokens lead to.** -/
theorem mem_nodes_iff (value : Value) (way : List String) (node : Value) :
    (way, node) ∈ value.nodes ↔ value.Reaches way node := by
  match value with
  | .object entries =>
    rw [nodes, List.mem_cons, mem_nodesOfEntries_iff entries]
    cases way with
    | nil => simp [reaches_nil_iff, eq_comm (a := node)]
    | cons token way => simp [reaches_object_cons_iff]
  | .array items =>
    rw [nodes, List.mem_cons, mem_nodesOfItems_iff 0 items]
    cases way with
    | nil => simp [reaches_nil_iff, eq_comm (a := node)]
    | cons token way => simp [reaches_array_cons_iff, eq_comm (a := token)]
  | .null | .bool _ | .number _ | .string _ =>
    rw [nodes, List.mem_singleton]
    constructor
    · rintro ⟨rfl, rfl⟩
      exact .here _
    · rintro ⟨⟩
      rfl

theorem mem_nodesOfEntries_iff (entries : List (String × Value)) (way : List String)
    (node : Value) :
    (way, node) ∈ nodesOfEntries entries ↔
      ∃ k rest child, way = k :: rest ∧ (k, child) ∈ entries ∧ child.Reaches rest node := by
  match entries with
  | [] => simp [nodesOfEntries]
  | (k, value) :: rest =>
    simp only [nodesOfEntries, List.mem_append, List.mem_map, mem_nodesOfEntries_iff rest way node,
      Prod.mk.injEq, Prod.exists, List.mem_cons]
    constructor
    · rintro (⟨below, node, hmem, rfl, rfl⟩ | ⟨k', below, child, rfl, hmem, hway⟩)
      · exact ⟨k, below, value, rfl, .inl ⟨rfl, rfl⟩, (mem_nodes_iff value below node).1 hmem⟩
      · exact ⟨k', below, child, rfl, .inr hmem, hway⟩
    · rintro ⟨k', below, child, rfl, ⟨rfl, rfl⟩ | hmem, hway⟩
      · exact .inl ⟨below, node, (mem_nodes_iff _ below node).2 hway, rfl, rfl⟩
      · exact .inr ⟨k', below, child, rfl, hmem, hway⟩

theorem mem_nodesOfItems_iff (index : Nat) (items : List Value) (way : List String)
    (node : Value) :
    (way, node) ∈ nodesOfItems index items ↔
      ∃ i rest child, way = toString (index + i) :: rest ∧ items[i]? = some child ∧
        child.Reaches rest node := by
  match items with
  | [] => simp [nodesOfItems]
  | item :: items =>
    simp only [nodesOfItems, List.mem_append, List.mem_map,
      mem_nodesOfItems_iff (index + 1) items way node, Prod.mk.injEq, Prod.exists]
    constructor
    · rintro (⟨below, node, hmem, rfl, rfl⟩ | ⟨i, below, child, rfl, hmem, hway⟩)
      · exact ⟨0, below, item, rfl, rfl, (mem_nodes_iff item below node).1 hmem⟩
      · exact ⟨i + 1, below, child, by rw [Nat.add_right_comm, Nat.add_assoc], hmem, hway⟩
    · rintro ⟨_ | i, below, child, rfl, hmem, hway⟩
      · obtain rfl : item = child := by simpa using hmem
        exact .inl ⟨below, node, (mem_nodes_iff item below node).2 hway, rfl, rfl⟩
      · exact .inr ⟨i, below, child, by rw [Nat.add_right_comm, Nat.add_assoc], hmem, hway⟩

end

/-! ## Different nodes have different pointers -/

mutual

theorem nodup_ways (value : Value) (h : value.hasDistinctKeys) :
    (value.nodes.map Prod.fst).Nodup := by
  match value with
  | .object entries =>
    rw [hasDistinctKeys, Bool.and_eq_true, decide_eq_true_eq] at h
    rw [nodes, List.map_cons, List.nodup_cons]
    refine ⟨?_, nodup_waysOfEntries entries h.1 h.2⟩
    simp [mem_nodesOfEntries_iff]
  | .array items =>
    rw [hasDistinctKeys] at h
    rw [nodes, List.map_cons, List.nodup_cons]
    refine ⟨?_, nodup_waysOfItems 0 items h⟩
    simp [mem_nodesOfItems_iff]
  | .null | .bool _ | .number _ | .string _ => exact List.nodup_singleton _

theorem nodup_waysOfEntries (entries : List (String × Value))
    (hkeys : (entries.map Prod.fst).Nodup) (h : entriesHaveDistinctKeys entries) :
    ((nodesOfEntries entries).map Prod.fst).Nodup := by
  match entries with
  | [] => exact List.nodup_nil
  | (k, value) :: rest =>
    rw [entriesHaveDistinctKeys, Bool.and_eq_true] at h
    rw [List.map_cons, List.nodup_cons] at hkeys
    rw [nodesOfEntries, List.map_append, List.nodup_append']
    refine ⟨?_, nodup_waysOfEntries rest hkeys.2 h.2, ?_⟩
    · have := (nodup_ways value h.1).map (List.cons_injective (a := k))
      rwa [List.map_map] at this ⊢
    · simp only [List.disjoint_left, List.mem_map, Prod.exists, mem_nodesOfEntries_iff]
      rintro way ⟨_, _, ⟨below, node, -, heq⟩, rfl⟩ ⟨_, _, ⟨k', below', child, rfl, hmem, -⟩, heq'⟩
      simp only [Prod.mk.injEq] at heq
      obtain ⟨rfl, rfl⟩ := heq
      simp only [List.cons.injEq] at heq'
      obtain ⟨rfl, rfl⟩ := heq'
      exact hkeys.1 (List.mem_map.2 ⟨_, hmem, rfl⟩)

theorem nodup_waysOfItems (index : Nat) (items : List Value) (h : itemsHaveDistinctKeys items) :
    ((nodesOfItems index items).map Prod.fst).Nodup := by
  match items with
  | [] => exact List.nodup_nil
  | item :: rest =>
    rw [itemsHaveDistinctKeys, Bool.and_eq_true] at h
    rw [nodesOfItems, List.map_append, List.nodup_append']
    refine ⟨?_, nodup_waysOfItems (index + 1) rest h.2, ?_⟩
    · have := (nodup_ways item h.1).map (List.cons_injective (a := toString index))
      rwa [List.map_map] at this ⊢
    · simp only [List.disjoint_left, List.mem_map, Prod.exists, mem_nodesOfItems_iff]
      rintro way ⟨_, _, ⟨below, node, -, heq⟩, rfl⟩ ⟨_, _, ⟨i, below', child, rfl, -, -⟩, heq'⟩
      simp only [Prod.mk.injEq] at heq
      obtain ⟨rfl, rfl⟩ := heq
      simp only [List.cons.injEq] at heq'
      have := Pointer.toString_injective heq'.1
      omega

end

/-- **Different nodes have different pointers.** -/
theorem nodup_pointers (value : Value) (h : value.hasDistinctKeys) :
    (value.nodes.map fun node => Pointer.ofTokens node.1).Nodup := by
  have := (nodup_ways value h).map Pointer.ofTokens_injective
  rwa [List.map_map] at this

end ApiLint.Value
