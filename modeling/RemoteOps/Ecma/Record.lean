import RemoteOps.Ecma.Json
import Mathlib.Data.List.Induction
import Mathlib.Data.List.Perm.Basic
import Mathlib.Data.List.Nodup

/-!
# Objects used as tables

A `Record α` is an object whose own properties all hold values of one type. No
key occurs twice, which is a field of the structure, so that looking a key up
and enumerating the properties agree (`Record.mem_entries`). Properties keep the
enumeration order of the language. Inherited properties are not part of a
record; whoever looks up a key that an outsider chose has to ask for them
separately.
-/

namespace Ecma

section Props

variable {α : Type*} {k k' : JsString} {x y : α} {ps : List (JsString × α)}

theorem insertProp_perm (k : JsString) (x : α) (ps : List (JsString × α)) :
    (insertProp k x ps).Perm ((k, x) :: ps) := by
  induction ps with
  | nil => exact List.Perm.refl _
  | cons p ps ih =>
      have hlater : (p :: insertProp k x ps).Perm ((k, x) :: p :: ps) :=
        (ih.cons p).trans (List.Perm.swap _ _ _)
      unfold insertProp
      split
      · split_ifs
        · exact List.Perm.refl _
        · exact hlater
      · exact List.Perm.refl _
      · exact hlater

theorem lookup_isSome_iff : (lookup k ps).isSome ↔ k ∈ ps.map Prod.fst := by
  induction ps with
  | nil => simp [lookup]
  | cons p ps ih =>
      rcases eq_or_ne p.1 k with h | h
      · simp [lookup, h]
      · simp only [lookup, if_neg h, ih, List.map_cons, List.mem_cons]
        exact ⟨Or.inr, fun hk => hk.resolve_left fun heq => h heq.symm⟩

theorem lookup_eq_some_iff (hnodup : (ps.map Prod.fst).Nodup) :
    lookup k ps = some x ↔ (k, x) ∈ ps := by
  induction ps with
  | nil => simp [lookup]
  | cons p ps ih =>
      obtain ⟨k', y⟩ := p
      rw [List.map_cons, List.nodup_cons] at hnodup
      obtain ⟨hnot, hnodup⟩ := hnodup
      rcases eq_or_ne k' k with rfl | h
      · have hrest : (k', x) ∉ ps := fun hmem =>
          hnot (List.mem_map.mpr ⟨(k', x), hmem, rfl⟩)
        simp [lookup, hrest, eq_comm]
      · simp [lookup, h, ih hnodup, h.symm]

theorem map_fst_replaceProp (k : JsString) (x : α) (ps : List (JsString × α)) :
    (replaceProp k x ps).map Prod.fst = ps.map Prod.fst := by
  rw [replaceProp, List.map_map]
  apply List.map_congr_left
  intro p _
  simp only [Function.comp_apply]
  split_ifs <;> rfl

theorem nodup_setProp (hnodup : (ps.map Prod.fst).Nodup) :
    ((setProp k x ps).map Prod.fst).Nodup := by
  unfold setProp
  split_ifs with h
  · rw [map_fst_replaceProp]
    exact hnodup
  · rw [((insertProp_perm k x ps).map Prod.fst).nodup_iff, List.map_cons, List.nodup_cons]
    exact ⟨fun hmem => h (lookup_isSome_iff.mpr hmem), hnodup⟩

theorem mem_setProp (hnodup : (ps.map Prod.fst).Nodup) :
    (k', y) ∈ setProp k x ps ↔ k' = k ∧ y = x ∨ k' ≠ k ∧ (k', y) ∈ ps := by
  unfold setProp
  split_ifs with h
  · obtain ⟨z, hz⟩ := Option.isSome_iff_exists.mp h
    have hmem : (k, z) ∈ ps := (lookup_eq_some_iff hnodup).mp hz
    simp only [replaceProp, List.mem_map]
    constructor
    · rintro ⟨⟨k₀, y₀⟩, hp, heq⟩
      rcases eq_or_ne k₀ k with rfl | hne
      · rw [if_pos rfl] at heq
        obtain ⟨rfl, rfl⟩ := Prod.mk.injEq .. ▸ heq
        exact Or.inl ⟨rfl, rfl⟩
      · rw [if_neg hne] at heq
        obtain ⟨rfl, rfl⟩ := Prod.mk.injEq .. ▸ heq
        exact Or.inr ⟨hne, hp⟩
    · rintro (⟨rfl, rfl⟩ | ⟨hne, hp⟩)
      · exact ⟨(k', z), hmem, by simp⟩
      · exact ⟨(k', y), hp, by simp [hne]⟩
  · have hnot : ∀ z, (k, z) ∉ ps := fun z hz =>
      h (lookup_isSome_iff.mpr (List.mem_map.mpr ⟨(k, z), hz, rfl⟩))
    rw [(insertProp_perm k x ps).mem_iff, List.mem_cons, Prod.mk.injEq]
    constructor
    · rintro (heq | hmem)
      · exact Or.inl heq
      · exact Or.inr ⟨fun heq => hnot y (heq ▸ hmem), hmem⟩
    · rintro (heq | ⟨-, hmem⟩)
      · exact Or.inl heq
      · exact Or.inr hmem

theorem lookup_eq_none_iff : lookup k ps = none ↔ k ∉ ps.map Prod.fst := by
  rw [← lookup_isSome_iff, Option.not_isSome_iff_eq_none]

theorem lookup_append (k : JsString) (ps qs : List (JsString × α)) :
    lookup k (ps ++ qs) = (lookup k ps).or (lookup k qs) := by
  induction ps with
  | nil => rfl
  | cons p ps ih =>
      rw [List.cons_append, lookup, lookup, ih]
      split_ifs <;> rfl

theorem lookup_replaceProp_of_ne (h : k' ≠ k) (x : α) (ps : List (JsString × α)) :
    lookup k' (replaceProp k x ps) = lookup k' ps := by
  induction ps with
  | nil => rfl
  | cons p ps ih =>
      obtain ⟨k₀, y⟩ := p
      rw [replaceProp] at ih
      rw [replaceProp, List.map_cons]
      by_cases hk : k₀ = k
      · rw [if_pos hk, lookup, lookup, hk, if_neg h.symm, if_neg h.symm, ih]
      · rw [if_neg hk, lookup, lookup, ih]

theorem lookup_replaceProp_self (h : k ∈ ps.map Prod.fst) (x : α) :
    lookup k (replaceProp k x ps) = some x := by
  induction ps with
  | nil => simp at h
  | cons p ps ih =>
      obtain ⟨k₀, y⟩ := p
      rw [replaceProp] at ih
      rw [replaceProp, List.map_cons]
      by_cases hk : k₀ = k
      · rw [if_pos hk, lookup, if_pos hk]
      · rw [if_neg hk, lookup, if_neg hk]
        exact ih ((List.mem_cons.mp h).resolve_left (Ne.symm hk))

theorem lookup_filter_ne (k k' : JsString) (ps : List (JsString × α)) :
    lookup k' (ps.filter fun p => p.1 ≠ k) = if k' = k then none else lookup k' ps := by
  induction ps with
  | nil => simp [lookup]
  | cons p ps ih =>
      obtain ⟨k₀, y⟩ := p
      by_cases hk : k₀ = k
      · rw [List.filter_cons_of_neg (by simpa using hk), ih, lookup, hk]
        split_ifs with h h' <;> simp_all
      · rw [List.filter_cons_of_pos (by simpa using hk), lookup, ih, lookup]
        split_ifs with h h' <;> simp_all

/-- A key that is no array index goes to the end. -/
theorem insertProp_of_not_index (h : isIndexKey k = none) : insertProp k x ps = ps ++ [(k, x)] := by
  induction ps with
  | nil => rfl
  | cons p ps ih =>
      rw [insertProp, h, ih]
      rfl

theorem le_foldl_digits (us : List CodeUnit) (acc : ℕ) :
    acc * 10 ^ us.length ≤ us.foldl (fun acc v => 10 * acc + (v.toNat - 48)) acc := by
  induction us generalizing acc with
  | nil => simp
  | cons u us ih =>
      rw [List.foldl_cons, List.length_cons]
      calc acc * 10 ^ (us.length + 1) = 10 * acc * 10 ^ us.length := by
            rw [Nat.pow_succ, Nat.mul_comm (10 ^ us.length) 10, ← Nat.mul_assoc,
              Nat.mul_comm acc 10]
        _ ≤ (10 * acc + (u.toNat - 48)) * 10 ^ us.length :=
            Nat.mul_le_mul_right _ (Nat.le_add_right _ _)
        _ ≤ _ := ih _

/-- A numeral of more than ten digits is no array index. -/
theorem isIndexKey_of_length (h : 10 < k.length) : isIndexKey k = none := by
  cases k with
  | nil => rfl
  | cons u us =>
      rw [isIndexKey, if_neg]
      intro hindex
      simp only [Bool.and_eq_true, List.all_cons, decide_eq_true_eq, Bool.or_eq_true, bne_iff_ne,
        List.isEmpty_iff] at hindex
      obtain ⟨⟨⟨hdigit, -⟩, hzero⟩, hbound⟩ := hindex
      have hlength : 10 ≤ us.length := by simpa using h
      have hu : u ≠ unit '0' := hzero.resolve_right fun hnil => by simp [hnil] at hlength
      have hlarge : 1 ≤ u.toNat - 48 := by
        simp only [isDigit, Bool.and_eq_true, decide_eq_true_eq, UInt16.le_iff_toNat_le] at hdigit
        have hne : u.toNat ≠ 48 := fun heq => hu (UInt16.toNat_inj.mp heq)
        have hlow : (unit '0').toNat = 48 := by decide
        omega
      have hpow : 10 ^ 10 ≤ 10 ^ us.length := Nat.pow_le_pow_right (by decide) hlength
      have hfold := le_foldl_digits us (10 * 0 + (u.toNat - 48))
      rw [List.foldl_cons] at hbound
      have hmul : 10 ^ us.length ≤ (10 * 0 + (u.toNat - 48)) * 10 ^ us.length :=
        Nat.le_mul_of_pos_left _ (by omega)
      omega

/-- Properties read in order are the object, when their keys are distinct names. -/
theorem fromEntries_eq_self (hnodup : (ps.map Prod.fst).Nodup)
    (hnames : ∀ key ∈ ps.map Prod.fst, isIndexKey key = none) : fromEntries ps = ps := by
  induction ps using List.reverseRecOn with
  | nil => rfl
  | append_singleton ps p ih =>
      rw [List.map_append, List.nodup_append] at hnodup
      obtain ⟨hps, -, hnew⟩ := hnodup
      have hkey : p.1 ∉ ps.map Prod.fst := fun hmem => hnew _ hmem p.1 (by simp) rfl
      have hrest : fromEntries ps = ps :=
        ih hps fun key hkey => hnames key (by rw [List.map_append]; exact List.mem_append_left _ hkey)
      have hindex : isIndexKey p.1 = none := hnames p.1 (by simp)
      have hstep : fromEntries (ps ++ [p]) = setProp p.1 p.2 (fromEntries ps) := by
        simp [fromEntries]
      rw [hstep, hrest, setProp, lookup_eq_none_iff.mpr hkey, insertProp_of_not_index hindex]
      rfl

end Props

/-- An object all of whose own properties hold an `α`. -/
structure Record (α : Type*) where
  props : List (JsString × α)
  keys_nodup : (props.map Prod.fst).Nodup

namespace Record

variable {α : Type*} {r : Record α} {k k' : JsString} {x y : α}

/-- `{}`. -/
def empty : Record α := ⟨[], List.nodup_nil⟩

/-- The own property `k`. -/
def get? (r : Record α) (k : JsString) : Option α := lookup k r.props

/-- `r[k] = x`. -/
def set (r : Record α) (k : JsString) (x : α) : Record α :=
  ⟨setProp k x r.props, nodup_setProp r.keys_nodup⟩

/-- `Object.entries(r)`. -/
def entries (r : Record α) : List (JsString × α) := r.props

/-- `Object.values(r)`. -/
def values (r : Record α) : List α := r.props.map Prod.snd

/-- `Object.keys(r).length`. -/
def size (r : Record α) : ℕ := r.props.length

/-- Delete every property that fails the test. -/
def filter (r : Record α) (keep : JsString → α → Bool) : Record α where
  props := r.props.filter fun p => keep p.1 p.2
  keys_nodup := r.keys_nodup.sublist (List.filter_sublist.map Prod.fst)

/-- `delete r[k]`. -/
def erase (r : Record α) (k : JsString) : Record α := r.filter fun k' _ => k' != k

/-- Overwrite the value of every property in place. -/
def map (r : Record α) (f : JsString → α → α) : Record α where
  props := r.props.map fun p => (p.1, f p.1 p.2)
  keys_nodup := by
    rw [List.map_map]
    exact r.keys_nodup

/-- Overwrite the value of one property in place, if it is there. -/
def modify (r : Record α) (k : JsString) (f : α → α) : Record α :=
  r.map fun k' x => if k' = k then f x else x

/-- The first property whose value passes the test. -/
def find? (r : Record α) (p : α → Bool) : Option (JsString × α) :=
  r.props.find? fun q => p q.2

theorem mem_entries : (k, x) ∈ r.entries ↔ r.get? k = some x :=
  (lookup_eq_some_iff r.keys_nodup).symm

theorem mem_values : x ∈ r.values ↔ ∃ k, r.get? k = some x := by
  simp only [values, List.mem_map, Prod.exists, exists_eq_right]
  exact exists_congr fun _ => mem_entries

@[simp] theorem get?_empty (k : JsString) : (empty : Record α).get? k = none := rfl

theorem get?_set (r : Record α) (k : JsString) (x : α) (k' : JsString) :
    (r.set k x).get? k' = if k' = k then some x else r.get? k' := by
  apply Option.ext
  intro y
  have hmem : (k', y) ∈ setProp k x r.props ↔ k' = k ∧ y = x ∨ k' ≠ k ∧ (k', y) ∈ r.props :=
    mem_setProp r.keys_nodup
  rw [get?, lookup_eq_some_iff (r.set k x).keys_nodup]
  refine hmem.trans ?_
  split_ifs with h
  · simp [h, eq_comm]
  · simp [h, get?, lookup_eq_some_iff r.keys_nodup]

@[simp] theorem get?_set_self (r : Record α) (k : JsString) (x : α) :
    (r.set k x).get? k = some x := by
  simp [get?_set]

theorem get?_set_of_ne (r : Record α) (x : α) (h : k' ≠ k) :
    (r.set k x).get? k' = r.get? k' := by
  simp [get?_set, h]

/-- Only a new key makes a table longer. -/
theorem size_set (r : Record α) (k : JsString) (x : α) :
    (r.set k x).size = if (r.get? k).isSome then r.size else r.size + 1 := by
  by_cases hold : (r.get? k).isSome = true
  · have hprops : (r.set k x).props = replaceProp k x r.props := if_pos hold
    rw [if_pos hold, size, hprops]
    exact List.length_map _
  · have hprops : (r.set k x).props = insertProp k x r.props := if_neg hold
    rw [if_neg hold, size, hprops]
    exact (insertProp_perm k x r.props).length_eq

theorem get?_filter (r : Record α) (keep : JsString → α → Bool) (k : JsString) :
    (r.filter keep).get? k = (r.get? k).filter (keep k) := by
  apply Option.ext
  intro x
  rw [get?, lookup_eq_some_iff (r.filter keep).keys_nodup, Option.filter_eq_some_iff]
  simp only [filter, List.mem_filter]
  rw [get?, lookup_eq_some_iff r.keys_nodup]

theorem get?_erase (r : Record α) (k k' : JsString) :
    (r.erase k).get? k' = if k' = k then none else r.get? k' := by
  rw [erase, get?_filter]
  split_ifs with h
  · simp [h]
  · cases r.get? k' <;> simp [h]

theorem get?_map (r : Record α) (f : JsString → α → α) (k : JsString) :
    (r.map f).get? k = (r.get? k).map (f k) := by
  apply Option.ext
  intro x
  rw [get?, lookup_eq_some_iff (r.map f).keys_nodup, Option.map_eq_some_iff]
  simp only [map, List.mem_map, Prod.mk.injEq, Prod.exists]
  constructor
  · rintro ⟨k₀, y, hmem, rfl, rfl⟩
    exact ⟨y, mem_entries.mp hmem, rfl⟩
  · rintro ⟨y, hy, rfl⟩
    exact ⟨k, y, mem_entries.mpr hy, rfl, rfl⟩

theorem get?_modify (r : Record α) (k : JsString) (f : α → α) (k' : JsString) :
    (r.modify k f).get? k' = if k' = k then (r.get? k').map f else r.get? k' := by
  rw [modify, get?_map]
  split_ifs with h
  · simp
  · cases r.get? k' <;> rfl

/-- What a filter leaves was there before. -/
theorem get?_of_get?_filter {keep : JsString → α → Bool}
    (h : (r.filter keep).get? k = some x) : r.get? k = some x ∧ keep k x = true := by
  rw [get?_filter, Option.filter_eq_some_iff] at h
  exact h

theorem get?_of_get?_erase (h : (r.erase k).get? k' = some x) : k' ≠ k ∧ r.get? k' = some x := by
  obtain ⟨hget, hne⟩ := get?_of_get?_filter h
  exact ⟨by simpa using hne, hget⟩

theorem filter_eq_self {keep : JsString → α → Bool}
    (h : ∀ k x, r.get? k = some x → keep k x = true) : r.filter keep = r := by
  have hprops : r.props.filter (fun p => keep p.1 p.2) = r.props :=
    List.filter_eq_self.mpr fun p hp => h p.1 p.2 (mem_entries.mp hp)
  obtain ⟨props, hnodup⟩ := r
  simp only [filter, mk.injEq]
  exact hprops

theorem ext_props {r' : Record α} (h : r.props = r'.props) : r = r' := by
  obtain ⟨props, hnodup⟩ := r
  obtain ⟨props', hnodup'⟩ := r'
  cases h
  rfl

theorem props_filter (r : Record α) (keep : JsString → α → Bool) :
    (r.filter keep).props = r.props.filter fun p => keep p.1 p.2 := rfl

theorem filter_comm (r : Record α) (f g : JsString → α → Bool) :
    (r.filter f).filter g = (r.filter g).filter f := by
  apply ext_props
  simp only [props_filter, List.filter_filter]
  congr 1
  funext q
  exact Bool.and_comm _ _

theorem props_set_of_new (hkey : r.get? k = none) (hindex : isIndexKey k = none) (x : α) :
    (r.set k x).props = r.props ++ [(k, x)] := by
  have hprops : (r.set k x).props = insertProp k x r.props :=
    if_neg (by rw [← get?, hkey]; exact Bool.false_ne_true)
  rw [hprops, insertProp_of_not_index hindex]

theorem props_set_of_old (hkey : (r.get? k).isSome = true) (x : α) :
    (r.set k x).props = r.props.map fun p => if p.1 = k then (p.1, x) else p :=
  if_pos hkey

/-- A new property that passes the test comes last before and after a filter. -/
theorem filter_set_of_new {keep : JsString → α → Bool} (hkey : r.get? k = none)
    (hindex : isIndexKey k = none) (hx : keep k x = true) :
    (r.set k x).filter keep = (r.filter keep).set k x := by
  have hkept : (r.filter keep).get? k = none := by
    rw [get?_filter, hkey]
    rfl
  apply ext_props
  rw [props_set_of_new hkept hindex, props_filter, props_filter, props_set_of_new hkey hindex,
    List.filter_append, List.filter_singleton, hx]
  rfl

/-- An overwritten property that passes the test before and after keeps its place. -/
theorem filter_set_of_old {keep : JsString → α → Bool} (hkey : r.get? k = some y)
    (hy : keep k y = true) (hx : keep k x = true) :
    (r.set k x).filter keep = (r.filter keep).set k x := by
  have hold : (r.get? k).isSome = true := by
    rw [hkey]
    rfl
  have hkept : ((r.filter keep).get? k).isSome = true := by
    rw [get?_filter, hkey, Option.filter_some, if_pos hy]
    rfl
  apply ext_props
  rw [props_set_of_old hkept, props_filter, props_filter, props_set_of_old hold, List.filter_map]
  congr 1
  apply List.filter_congr
  rintro ⟨k', z⟩ hmem
  rw [Function.comp_apply]
  split_ifs with hk
  · have hget : r.get? k' = some z := mem_entries.mp hmem
    change k' = k at hk
    rw [hk, hkey] at hget
    rw [← Option.some.inj hget]
    change keep k' x = keep k' y
    rw [hk, hx, hy]
  · rfl

theorem values_erase_of_absent (h : r.get? k = none) : (r.erase k).values = r.values := by
  rw [erase, filter_eq_self]
  intro k' y hget
  rw [bne_iff_ne]
  rintro rfl
  rw [h] at hget
  cases hget

/-- A table that holds `x` under `k`, and otherwise what `r` holds, has the values of
`r` without `k`, and `x`. -/
theorem values_perm_of_get? {r' : Record α}
    (h : ∀ k', r'.get? k' = if k' = k then some x else r.get? k') :
    r'.values.Perm (x :: (r.erase k).values) := by
  have hkeys : (((k, x) :: (r.erase k).props).map Prod.fst).Nodup := by
    rw [List.map_cons, List.nodup_cons]
    refine ⟨fun hmem => ?_, (r.erase k).keys_nodup⟩
    obtain ⟨⟨k', y⟩, hprop, rfl⟩ := List.mem_map.mp hmem
    exact (get?_of_get?_erase (mem_entries.mp hprop)).1 rfl
  have hperm : r'.props.Perm ((k, x) :: (r.erase k).props) := by
    rw [List.perm_ext_iff_of_nodup r'.keys_nodup.of_map hkeys.of_map]
    rintro ⟨k', y⟩
    have hset : (k', y) ∈ r'.props ↔ r'.get? k' = some y := mem_entries
    have herase : (k', y) ∈ (r.erase k).props ↔ (r.erase k).get? k' = some y := mem_entries
    rw [hset, h, List.mem_cons, herase, get?_erase, Prod.mk.injEq]
    split_ifs with hk
    · simp [hk, eq_comm]
    · simp [hk]
  exact hperm.map Prod.snd

theorem values_set_perm (r : Record α) (k : JsString) (x : α) :
    (r.set k x).values.Perm (x :: (r.erase k).values) :=
  values_perm_of_get? (get?_set r k x)

theorem values_perm (h : r.get? k = some x) : r.values.Perm (x :: (r.erase k).values) := by
  apply values_perm_of_get?
  intro k'
  split_ifs with hk
  · rw [hk, h]
  · rfl

theorem find?_some {p : α → Bool} (h : r.find? p = some (k, x)) :
    r.get? k = some x ∧ p x = true := by
  have hmem := List.mem_of_find?_eq_some h
  have hp := List.find?_some h
  exact ⟨mem_entries.mp hmem, by simpa using hp⟩

theorem find?_isSome {p : α → Bool} (hx : r.get? k = some x) (hp : p x = true) :
    ∃ k' y, r.find? p = some (k', y) := by
  have hsome : (r.find? p).isSome := by
    rw [find?, List.find?_isSome]
    exact ⟨(k, x), mem_entries.mpr hx, hp⟩
  obtain ⟨⟨k', y⟩, h⟩ := Option.isSome_iff_exists.mp hsome
  exact ⟨k', y, h⟩

end Record

end Ecma
