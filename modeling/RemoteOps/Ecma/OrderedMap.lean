import RemoteOps.Ecma.Record

/-!
# Maps that keep the order of insertion

A `Map` with strings for keys. A key that is set again keeps its place, and one that is set
after it was deleted goes to the end. What a map holds after a list of changes is given by
`keys_setAll`, `get?_setAll`, `keys_deleteAll` and `get?_deleteAll`.
-/

namespace Ecma

structure OrderedMap (α : Type*) where
  entries : List (JsString × α)
  nodup : (entries.map Prod.fst).Nodup

namespace OrderedMap

variable {α : Type*}

def empty : OrderedMap α := ⟨[], List.nodup_nil⟩

def keys (m : OrderedMap α) : List JsString := m.entries.map Prod.fst

def get? (m : OrderedMap α) (k : JsString) : Option α := lookup k m.entries

def set (m : OrderedMap α) (k : JsString) (x : α) : OrderedMap α where
  entries := if k ∈ m.keys then replaceProp k x m.entries else m.entries ++ [(k, x)]
  nodup := by
    split_ifs with h
    · rw [map_fst_replaceProp]
      exact m.nodup
    · rw [List.map_append]
      refine List.nodup_append.mpr ⟨m.nodup, List.nodup_singleton k, ?_⟩
      intro a ha b hb heq
      obtain rfl := List.mem_singleton.mp hb
      exact h (heq ▸ ha)

def delete (m : OrderedMap α) (k : JsString) : OrderedMap α where
  entries := m.entries.filter fun p => p.1 ≠ k
  nodup := m.nodup.sublist ((m.entries.filter_sublist).map Prod.fst)

/-- Set keys one after the other. -/
def setAll (m : OrderedMap α) (ps : List (JsString × α)) : OrderedMap α :=
  ps.foldl (fun m p => m.set p.1 p.2) m

def deleteAll (m : OrderedMap α) (ks : List JsString) : OrderedMap α := ks.foldl delete m

/-! ## One change -/

variable (m : OrderedMap α) (k k' : JsString) (x : α)

@[simp] theorem keys_empty : (empty : OrderedMap α).keys = [] := rfl

@[simp] theorem get?_empty : (empty : OrderedMap α).get? k = none := rfl

theorem nodup_keys : m.keys.Nodup := m.nodup

theorem keys_set : (m.set k x).keys = if k ∈ m.keys then m.keys else m.keys ++ [k] := by
  rw [keys, set]
  dsimp only
  split_ifs
  · exact map_fst_replaceProp k x m.entries
  · exact List.map_append

theorem get?_set : (m.set k x).get? k' = if k' = k then some x else m.get? k' := by
  rw [get?, set, get?]
  dsimp only
  split_ifs with hmem heq heq
  · rw [heq]
    exact lookup_replaceProp_self hmem x
  · exact lookup_replaceProp_of_ne heq x m.entries
  · rw [heq, lookup_append, lookup_eq_none_iff.mpr hmem]
    simp [lookup]
  · rw [lookup_append]
    simp [lookup, Ne.symm heq]

theorem keys_delete : (m.delete k).keys = m.keys.filter fun k' => k' ≠ k := by
  rw [keys, delete, keys, List.filter_map]
  rfl

theorem get?_delete : (m.delete k).get? k' = if k' = k then none else m.get? k' :=
  lookup_filter_ne k k' m.entries

/-! ## A list of changes -/

/-- New keys come behind the old ones, in the order of their first occurrence. -/
theorem keys_setAll (ps : List (JsString × α)) :
    (m.setAll ps).keys =
      m.keys ++ ((ps.map Prod.fst).filter fun k => k ∉ m.keys).eraseDups := by
  induction ps generalizing m with
  | nil => exact (List.append_nil _).symm
  | cons p ps ih =>
      have hstep : (m.setAll (p :: ps)).keys = ((m.set p.1 p.2).setAll ps).keys := rfl
      rw [hstep, ih, keys_set, List.map_cons]
      split_ifs with h
      · rw [List.filter_cons_of_neg (by simpa using h)]
      · rw [List.filter_cons_of_pos (by simpa using h), List.eraseDups_cons, List.filter_filter,
          List.append_assoc, List.singleton_append]
        have hkeep : (fun k => decide (k ∉ m.keys ++ [p.1])) =
            fun k => !(k == p.1) && decide (k ∉ m.keys) := by
          funext k
          by_cases hk : k = p.1 <;> simp [hk]
        rw [hkeep]

/-- The last value that a key is given counts. -/
theorem get?_setAll (ps : List (JsString × α)) :
    (m.setAll ps).get? k = (lookup k ps.reverse).or (m.get? k) := by
  induction ps generalizing m with
  | nil => rfl
  | cons p ps ih =>
      have hstep : (m.setAll (p :: ps)).get? k = ((m.set p.1 p.2).setAll ps).get? k := rfl
      rw [hstep, ih, get?_set, List.reverse_cons, lookup_append, Option.or_assoc]
      congr 1
      split_ifs with h
      · simp [lookup, h]
      · simp [lookup, Ne.symm h]

theorem keys_deleteAll (ks : List JsString) :
    (m.deleteAll ks).keys = m.keys.filter fun k => k ∉ ks := by
  induction ks generalizing m with
  | nil => exact (List.filter_eq_self.mpr (by simp)).symm
  | cons k ks ih =>
      have hstep : (m.deleteAll (k :: ks)).keys = ((m.delete k).deleteAll ks).keys := rfl
      rw [hstep, ih, keys_delete, List.filter_filter]
      apply List.filter_congr
      intro k' _
      simp [not_or, Bool.and_comm]

theorem get?_deleteAll (ks : List JsString) :
    (m.deleteAll ks).get? k = if k ∈ ks then none else m.get? k := by
  induction ks generalizing m with
  | nil => simp [deleteAll]
  | cons k₀ ks ih =>
      have hstep : (m.deleteAll (k₀ :: ks)).get? k = ((m.delete k₀).deleteAll ks).get? k := rfl
      rw [hstep, ih, get?_delete]
      by_cases hmem : k ∈ ks <;> by_cases heq : k = k₀ <;> simp [hmem, heq]

end OrderedMap

end Ecma
