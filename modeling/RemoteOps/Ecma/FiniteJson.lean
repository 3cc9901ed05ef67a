import RemoteOps.Ecma.JsonText
import RemoteOps.Ecma.Record

/-!
# Values and what their text keeps of them

Own properties have an order: the index keys first, ascending, and the others as they were
inserted. `Json.Canonical` says it of a value and of all the values in it, and `parse` returns
no other. The text of a canonical value loses one thing, the numbers that are not finite, so
that it is read as `Json.finite`.
-/

namespace Ecma

/-! ## The order of own properties -/

/-- `k` stands before `k'` in an object that has both. -/
def KeyBefore (k k' : JsString) : Prop :=
  k ≠ k' ∧ ∀ m, isIndexKey k' = some m → ∃ n, isIndexKey k = some n ∧ n ≤ m

def OwnOrder (ks : List JsString) : Prop := ks.Pairwise KeyBefore

section Order

variable {α β : Type*} {k : JsString} {x : α} {ps : List (JsString × α)}

/-- A key that comes after all others is inserted at the end. -/
theorem insertProp_of_before (h : ∀ p ∈ ps, KeyBefore p.1 k) :
    insertProp k x ps = ps ++ [(k, x)] := by
  induction ps with
  | nil => rfl
  | cons p ps ih =>
      have hrest := ih fun q hq => h q (List.mem_cons_of_mem _ hq)
      obtain ⟨-, hbefore⟩ := h p List.mem_cons_self
      obtain ⟨k', x'⟩ := p
      unfold insertProp
      split
      · rename_i n m hn hm
        obtain ⟨m', hm', hle⟩ := hbefore n hn
        have hmm : m = m' := Option.some.inj (hm.symm.trans hm')
        rw [if_neg (by omega), hrest, List.cons_append]
      · rename_i n hn hm
        obtain ⟨m', hm', -⟩ := hbefore n hn
        exact absurd (hm.symm.trans hm') (by simp)
      · rw [hrest, List.cons_append]

/-- A new key is inserted in its place. -/
theorem ownOrder_insertProp (hnew : k ∉ ps.map Prod.fst) (h : OwnOrder (ps.map Prod.fst)) :
    OwnOrder ((insertProp k x ps).map Prod.fst) := by
  induction ps with
  | nil => exact List.pairwise_singleton _ _
  | cons p ps ih =>
      obtain ⟨k', x'⟩ := p
      rw [List.map_cons] at hnew h
      obtain ⟨hhead, htail⟩ := List.pairwise_cons.mp h
      have hne : k ≠ k' := fun heq => hnew (heq ▸ List.mem_cons_self)
      have hrest := ih (fun hmem => hnew (List.mem_cons_of_mem _ hmem)) htail
      have hafter (hk : KeyBefore k' k) :
          OwnOrder (((k', x') :: insertProp k x ps).map Prod.fst) := by
        refine List.pairwise_cons.mpr ⟨fun q hq => ?_, hrest⟩
        have hperm := (insertProp_perm k x ps).map Prod.fst
        rcases List.mem_cons.mp (hperm.mem_iff.mp hq) with rfl | hq
        · exact hk
        · exact hhead q hq
      have hbefore (hk : ∀ q ∈ k' :: ps.map Prod.fst, ∀ m, isIndexKey q = some m →
          ∃ n, isIndexKey k = some n ∧ n ≤ m) :
          OwnOrder (((k, x) :: (k', x') :: ps).map Prod.fst) := by
        refine List.pairwise_cons.mpr ⟨fun q hq => ⟨?_, hk q hq⟩, h⟩
        rintro rfl
        exact hnew hq
      unfold insertProp
      split
      · rename_i n m hn hm
        split_ifs with hlt
        · apply hbefore
          intro q hq m' hm'
          refine ⟨n, hn, ?_⟩
          rcases List.mem_cons.mp hq with rfl | hq
          · have hmm : m = m' := Option.some.inj (hm.symm.trans hm')
            omega
          · obtain ⟨m'', hm'', hle⟩ := (hhead q hq).2 m' hm'
            have hmm : m = m'' := Option.some.inj (hm.symm.trans hm'')
            omega
        · apply hafter
          refine ⟨hne.symm, fun n' hn' => ⟨m, hm, ?_⟩⟩
          have hnn : n = n' := Option.some.inj (hn.symm.trans hn')
          omega
      · rename_i n hn hm
        apply hbefore
        intro q hq m' hm'
        rcases List.mem_cons.mp hq with rfl | hq
        · exact absurd (hm.symm.trans hm') (by simp)
        · obtain ⟨m'', hm'', -⟩ := (hhead q hq).2 m' hm'
          exact absurd (hm.symm.trans hm'') (by simp)
      · rename_i hn
        exact hafter ⟨hne.symm, fun n' hn' => absurd (hn.symm.trans hn') (by simp)⟩

theorem ownOrder_setProp (h : OwnOrder (ps.map Prod.fst)) :
    OwnOrder ((setProp k x ps).map Prod.fst) := by
  unfold setProp
  split_ifs with hk
  · rw [map_fst_replaceProp]
    exact h
  · exact ownOrder_insertProp (fun hmem => hk (lookup_isSome_iff.mpr hmem)) h

theorem fromEntries_append_singleton (ps : List (JsString × α)) (p : JsString × α) :
    fromEntries (ps ++ [p]) = setProp p.1 p.2 (fromEntries ps) := by simp [fromEntries]

/-- The properties of an object are in order. -/
theorem ownOrder_fromEntries (ps : List (JsString × α)) :
    OwnOrder ((fromEntries ps).map Prod.fst) := by
  induction ps using List.reverseRecOn with
  | nil => exact List.Pairwise.nil
  | append_singleton ps p ih =>
      rw [fromEntries_append_singleton]
      exact ownOrder_setProp ih

/-- Members in order are read as they are written. -/
theorem fromEntries_eq_self_iff : fromEntries ps = ps ↔ OwnOrder (ps.map Prod.fst) := by
  constructor
  · intro h
    rw [← h]
    exact ownOrder_fromEntries ps
  · intro h
    induction ps using List.reverseRecOn with
    | nil => rfl
    | append_singleton ps p ih =>
        rw [List.map_append] at h
        obtain ⟨hps, -, hlast⟩ := List.pairwise_append.mp h
        have hbefore : ∀ q ∈ ps, KeyBefore q.1 p.1 := fun q hq =>
          hlast q.1 (List.mem_map_of_mem hq) p.1 (by simp)
        have hnew : lookup p.1 ps = none := by
          rw [lookup_eq_none_iff, List.mem_map]
          rintro ⟨q, hq, heq⟩
          exact (hbefore q hq).1 heq
        rw [fromEntries_append_singleton, ih hps, setProp, hnew, insertProp_of_before hbefore]
        rfl

theorem fromEntries_fromEntries (ps : List (JsString × α)) :
    fromEntries (fromEntries ps) = fromEntries ps :=
  fromEntries_eq_self_iff.mpr (ownOrder_fromEntries ps)

/-- A value of the object is a value of one of the members. -/
theorem forall_fromEntries {P : α → Prop} (h : ∀ p ∈ ps, P p.2) : ∀ p ∈ fromEntries ps, P p.2 := by
  induction ps using List.reverseRecOn with
  | nil => exact h
  | append_singleton ps p ih =>
      rw [fromEntries_append_singleton]
      have hps := ih fun q hq => h q (List.mem_append_left _ hq)
      have hp : P p.2 := h p (by simp)
      intro q hq
      unfold setProp at hq
      split_ifs at hq with hk
      · obtain ⟨r, hr, rfl⟩ := List.mem_map.mp hq
        split_ifs
        · exact hp
        · exact hps r hr
      · rcases List.mem_cons.mp ((insertProp_perm _ _ _).mem_iff.mp hq) with rfl | hq
        · exact hp
        · exact hps q hq

/-- The order is one of the keys, whatever becomes of the values. -/
theorem fromEntries_map_snd (f : α → β) (h : fromEntries ps = ps) :
    fromEntries (ps.map (Prod.map id f)) = ps.map (Prod.map id f) := by
  rw [fromEntries_eq_self_iff, List.map_map]
  exact fromEntries_eq_self_iff.mp h

end Order

/-! ## Canonical values -/

/-- The properties of every object in the value stand in their order. -/
inductive Json.Canonical : Json → Prop where
  | null : Canonical .null
  | bool (b : Bool) : Canonical (.bool b)
  | num (x : JsNumber) : Canonical (.num x)
  | str (s : JsString) : Canonical (.str s)
  | arr {xs : List Json} (helements : ∀ x ∈ xs, x.Canonical) : Canonical (.arr xs)
  | obj {ps : List (JsString × Json)} (hmembers : ∀ p ∈ ps, p.2.Canonical)
      (hprops : fromEntries ps = ps) : Canonical (.obj ps)

theorem canonical_obj_iff {ps : List (JsString × Json)} :
    (Json.obj ps).Canonical ↔ (∀ p ∈ ps, p.2.Canonical) ∧ fromEntries ps = ps := by
  constructor
  · intro h
    cases h with
    | obj hmembers hprops => exact ⟨hmembers, hprops⟩
  · intro h
    exact .obj h.1 h.2

theorem canonical_of_parseValue (fuel : ℕ) :
    (∀ cs x rest, parseValue fuel cs = some (x, rest) → x.Canonical) ∧
      (∀ cs xs rest, parseElements fuel cs = some (xs, rest) → ∀ x ∈ xs, x.Canonical) ∧
      ∀ cs ps rest, parseMembers fuel cs = some (ps, rest) → ∀ p ∈ ps, p.2.Canonical := by
  induction fuel with
  | zero =>
      refine ⟨fun cs x rest h => ?_, fun cs xs rest h => ?_, fun cs ps rest h => ?_⟩
      · cases h
      · cases h
      · cases h
  | succ fuel ih =>
      obtain ⟨hvalue, helements, hmembers⟩ := ih
      refine ⟨fun cs x rest h => ?_, fun cs xs rest h => ?_, fun cs ps rest h => ?_⟩
      · unfold parseValue at h
        split at h
        · cases h
          exact .null
        · cases h
          exact .bool true
        · cases h
          exact .bool false
        · obtain ⟨r, hr, heq⟩ := Option.map_eq_some_iff.mp h
          cases heq
          exact .str _
        · split at h
          · cases h
            exact .arr fun x hx => absurd hx List.not_mem_nil
          · obtain ⟨r, hr, heq⟩ := Option.map_eq_some_iff.mp h
            cases heq
            exact .arr (helements _ _ _ hr)
        · split at h
          · cases h
            exact .obj (fun p hp => absurd hp List.not_mem_nil) rfl
          · obtain ⟨r, hr, heq⟩ := Option.map_eq_some_iff.mp h
            cases heq
            exact .obj (forall_fromEntries (hmembers _ _ _ hr)) (fromEntries_fromEntries _)
        · obtain ⟨r, hr, heq⟩ := Option.map_eq_some_iff.mp h
          cases heq
          exact .num _
      · unfold parseElements at h
        obtain ⟨⟨x, rest'⟩, hx, h⟩ := Option.bind_eq_some_iff.mp h
        dsimp only at h
        split at h
        · obtain ⟨r, hr, heq⟩ := Option.map_eq_some_iff.mp h
          cases heq
          exact List.forall_mem_cons.mpr ⟨hvalue _ _ _ hx, helements _ _ _ hr⟩
        · cases h
          exact List.forall_mem_singleton.mpr (hvalue _ _ _ hx)
        · cases h
      · unfold parseMembers at h
        split at h
        · obtain ⟨⟨k, rest'⟩, hk, h⟩ := Option.bind_eq_some_iff.mp h
          dsimp only at h
          split at h
          · obtain ⟨⟨x, rest'⟩, hx, h⟩ := Option.bind_eq_some_iff.mp h
            dsimp only at h
            split at h
            · obtain ⟨r, hr, heq⟩ := Option.map_eq_some_iff.mp h
              cases heq
              exact List.forall_mem_cons.mpr ⟨hvalue _ _ _ hx, hmembers _ _ _ hr⟩
            · cases h
              exact List.forall_mem_singleton.mpr (hvalue _ _ _ hx)
            · cases h
          · cases h
        · cases h

/-- What `JSON.parse` returns is canonical. -/
theorem canonical_of_parse {text : List Char} {x : Json} (h : parse text = some x) :
    x.Canonical := by
  unfold parse at h
  split at h
  · rename_i y rest hy
    split_ifs at h
    rw [← Option.some.inj h]
    exact (canonical_of_parseValue _).1 _ _ _ hy
  · cases h

/-! ## Finite values -/

mutual

/-- The value with `null` for each number that is not finite. -/
def Json.finite : Json → Json
  | .null => .null
  | .bool b => .bool b
  | .num (.finite x) => .num (.finite x)
  | .num _ => .null
  | .str s => .str s
  | .arr xs => .arr (finiteElements xs)
  | .obj ps => .obj (finiteMembers ps)
  termination_by structural x => x

def finiteElements : List Json → List Json
  | [] => []
  | x :: xs => x.finite :: finiteElements xs
  termination_by structural xs => xs

def finiteMembers : List (JsString × Json) → List (JsString × Json)
  | [] => []
  | p :: ps => finiteMember p :: finiteMembers ps
  termination_by structural ps => ps

def finiteMember : JsString × Json → JsString × Json
  | (k, x) => (k, x.finite)
  termination_by structural p => p

end

theorem finiteElements_eq_map (xs : List Json) : finiteElements xs = xs.map Json.finite := by
  induction xs with
  | nil => rfl
  | cons x xs ih => rw [finiteElements, ih, List.map_cons]

theorem finiteMembers_eq_map (ps : List (JsString × Json)) :
    finiteMembers ps = ps.map (Prod.map id Json.finite) := by
  induction ps with
  | nil => rfl
  | cons p ps ih =>
      obtain ⟨k, x⟩ := p
      rw [finiteMembers, ih, List.map_cons]
      rfl

mutual

/-- The text of a value does not tell it from the finite one. -/
theorem stringify_finite : ∀ x : Json, x.finite.stringify = x.stringify
  | .null => rfl
  | .bool _ => rfl
  | .num (.finite _) => rfl
  | .num .nan => rfl
  | .num (.infinite _) => rfl
  | .str _ => rfl
  | .arr xs => by
      rw [Json.finite, Json.stringify, Json.stringify, stringifyElements_finite xs]
  | .obj ps => by
      rw [Json.finite, Json.stringify, Json.stringify, stringifyMembers_finite ps]

theorem stringifyElements_finite : ∀ xs : List Json,
    stringifyElements (finiteElements xs) = stringifyElements xs
  | [] => rfl
  | x :: xs => by
      rw [finiteElements, stringifyElements, stringifyElements, stringify_finite x,
        stringifyRest_finite xs]

theorem stringifyRest_finite : ∀ xs : List Json,
    stringifyRest (finiteElements xs) = stringifyRest xs
  | [] => rfl
  | x :: xs => by
      rw [finiteElements, stringifyRest, stringifyRest, stringify_finite x,
        stringifyRest_finite xs]

theorem stringifyMembers_finite : ∀ ps : List (JsString × Json),
    stringifyMembers (finiteMembers ps) = stringifyMembers ps
  | [] => rfl
  | p :: ps => by
      rw [finiteMembers, stringifyMembers, stringifyMembers, stringifyMember_finite p,
        stringifyMembersRest_finite ps]

theorem stringifyMembersRest_finite : ∀ ps : List (JsString × Json),
    stringifyMembersRest (finiteMembers ps) = stringifyMembersRest ps
  | [] => rfl
  | p :: ps => by
      rw [finiteMembers, stringifyMembersRest, stringifyMembersRest, stringifyMember_finite p,
        stringifyMembersRest_finite ps]

theorem stringifyMember_finite : ∀ p : JsString × Json,
    stringifyMember (finiteMember p) = stringifyMember p
  | (k, x) => by rw [finiteMember, stringifyMember, stringifyMember, stringify_finite x]

end

theorem normalElements_of_forall {xs : List Json} (h : ∀ x ∈ xs, x.Normal) :
    NormalElements xs := by
  induction xs with
  | nil => trivial
  | cons x xs ih =>
      exact ⟨h x List.mem_cons_self, ih fun y hy => h y (List.mem_cons_of_mem _ hy)⟩

/-- A canonical value survives once its numbers are finite. -/
theorem normal_finite {x : Json} (h : x.Canonical) : x.finite.Normal := by
  induction h with
  | null => trivial
  | bool b => trivial
  | num x =>
      cases x with
      | finite d => exact ⟨d, rfl⟩
      | nan => trivial
      | infinite negative => trivial
  | str s => trivial
  | arr _ ih =>
      rw [Json.finite, finiteElements_eq_map]
      apply normalElements_of_forall
      intro y hy
      obtain ⟨x, hx, rfl⟩ := List.mem_map.mp hy
      exact ih x hx
  | obj _ hprops ih =>
      rw [Json.finite, finiteMembers_eq_map]
      refine ⟨normalMembers_of_forall fun q hq => ?_, fromEntries_map_snd _ hprops⟩
      obtain ⟨p, hp, rfl⟩ := List.mem_map.mp hq
      exact ih p hp

/-- `JSON.parse(JSON.stringify(x))`. -/
theorem parse_stringify_finite {x : Json} (h : x.Canonical) :
    parse x.stringify = some x.finite := by
  rw [← stringify_finite]
  exact parse_stringify _ (normal_finite h)

/-- No number in the value is `NaN` or infinite. -/
inductive Json.AllFinite : Json → Prop where
  | null : AllFinite .null
  | bool (b : Bool) : AllFinite (.bool b)
  | num (x : Double) : AllFinite (.num (.finite x))
  | str (s : JsString) : AllFinite (.str s)
  | arr {xs : List Json} (helements : ∀ x ∈ xs, x.AllFinite) : AllFinite (.arr xs)
  | obj {ps : List (JsString × Json)} (hmembers : ∀ p ∈ ps, p.2.AllFinite) : AllFinite (.obj ps)

theorem Json.AllFinite.member {ps : List (JsString × Json)} (h : (Json.obj ps).AllFinite)
    {p : JsString × Json} (hp : p ∈ ps) : p.2.AllFinite := by
  cases h with
  | obj hmembers => exact hmembers p hp

theorem not_allFinite_infinite (negative : Bool) :
    ¬(Json.num (.infinite negative)).AllFinite := by
  intro h
  cases h

mutual

theorem allFinite_finite : ∀ x : Json, x.finite.AllFinite
  | .null => .null
  | .bool b => .bool b
  | .num (.finite x) => .num x
  | .num .nan => .null
  | .num (.infinite _) => .null
  | .str s => .str s
  | .arr xs => .arr (allFinite_finiteElements xs)
  | .obj ps => .obj (allFinite_finiteMembers ps)

theorem allFinite_finiteElements : ∀ xs : List Json, ∀ x ∈ finiteElements xs, x.AllFinite
  | [] => List.forall_mem_nil _
  | x :: xs => List.forall_mem_cons.mpr ⟨allFinite_finite x, allFinite_finiteElements xs⟩

theorem allFinite_finiteMembers : ∀ ps : List (JsString × Json),
    ∀ p ∈ finiteMembers ps, p.2.AllFinite
  | [] => List.forall_mem_nil _
  | p :: ps => List.forall_mem_cons.mpr ⟨allFinite_finiteMember p, allFinite_finiteMembers ps⟩

theorem allFinite_finiteMember : ∀ p : JsString × Json, (finiteMember p).2.AllFinite
  | (_, x) => allFinite_finite x

end

theorem finite_eq_self_iff {x : Json} : x.finite = x ↔ x.AllFinite := by
  constructor
  · intro h
    rw [← h]
    exact allFinite_finite x
  · intro h
    induction h with
    | null => rfl
    | bool b => rfl
    | num x => rfl
    | str s => rfl
    | arr _ ih =>
        rw [Json.finite, finiteElements_eq_map, List.map_congr_left ih, List.map_id']
    | obj _ ih =>
        have hmember : ∀ p ∈ _, Prod.map id Json.finite p = p := fun p hp => Prod.ext rfl (ih p hp)
        rw [Json.finite, finiteMembers_eq_map, List.map_congr_left hmember, List.map_id']

end Ecma
