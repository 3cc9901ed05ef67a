import RemoteOps.DeepHarness.Grants

/-!
# Reading the grant file back

A state whose tables stand under hashes and respect the limits of the reader is what
`normalize` accepts; its file is read back as the same state exactly if it is not
longer than the reader admits (`loadText_fileText`).
-/

namespace RemoteOps

open Ecma

/-! ## Fields -/

theorem readFields_members (i : IdentityFields) (rest : List (JsString × Json)) :
    readFields (.obj (i.members ++ rest)) = some i := by
  have hactor : (Json.obj (i.members ++ rest)).get (js "actor") = some (.str i.actor) := rfl
  have hclient : (Json.obj (i.members ++ rest)).get (js "clientId") = some (.str i.clientId) := rfl
  have hsession : (Json.obj (i.members ++ rest)).get (js "sessionId") =
      some (.str i.sessionId) := rfl
  have hworkspace : (Json.obj (i.members ++ rest)).get (js "workspaceId") =
      some (.str i.workspaceId) := rfl
  have hlead : (Json.obj (i.members ++ rest)).get (js "leadSessionId") =
      some (.str i.leadSessionId) := rfl
  rw [readFields, hactor, hclient, hsession, hworkspace, hlead]
  exact dif_pos i.valid

theorem identityOf_members (i : GrantIdentity) (rest : List (JsString × Json)) :
    identityOf (.obj (i.members ++ rest)) = some i := by
  rw [identityOf, readFields_members]
  exact dif_pos i.own

theorem checked_eq_some {α : Type*} {p : α → Bool} {x : α} (h : p x = true) :
    checked p x = some ⟨x, h⟩ := dif_pos h

theorem readStrings_map (xs : List JsString) : readStrings (xs.map Json.str) = some xs := by
  induction xs with
  | nil => rfl
  | cons x xs ih => rw [List.map_cons, readStrings, ih]; rfl

theorem readSafeInt_toJson (t : SafeInt) : readSafeInt (some t.toJson) = some t := by
  simp only [readSafeInt, SafeInt.toJson, JsNumber.toInt?_ofInt]
  exact dif_pos t.safe

theorem readNullOr_nullOr (t : Option SafeInt) : readNullOr (some (nullOr t)) = some t := by
  cases t with
  | none => rfl
  | some t =>
      have hread : readNullOr (some t.toJson) = (readSafeInt (some t.toJson)).map some := rfl
      rw [nullOr, hread, readSafeInt_toJson]
      rfl

theorem readStatus_text (s : DeliveryStatus) : readStatus (some (.str s.text)) = some s := by
  cases s <;> rfl

theorem readGrant_toJson (g : Grant) : readGrant g.toJson = some g := by
  have hactions : g.toJson.get (js "actions") = some (.arr (g.actions.map Json.str)) := rfl
  have hrevision : g.toJson.get (js "revision") = some (.str g.revision) := rfl
  have hupdated : g.toJson.get (js "updatedAt") = some g.updatedAt.toJson := rfl
  have hrevoked : g.toJson.get (js "revokedAt") = some (nullOr g.revokedAt) := rfl
  have hidentity : identityOf g.toJson = some g.identity := identityOf_members _ _
  have hread : readActions (some (.arr (g.actions.map Json.str))) =
      some ⟨g.actions, g.actionsValid⟩ := by
    rw [readActions, readStrings_map]
    exact checked_eq_some g.actionsValid
  rw [readGrant, hidentity, hactions, hrevision, hupdated, hrevoked, hread, readSafeInt_toJson,
    readNullOr_nullOr]
  simp [strOf, checked_eq_some g.revisionValid]

theorem readDelivery_toJson (d : Delivery) : readDelivery d.toJson = some d := by
  have hpayload : d.toJson.get (js "payloadHash") = some (.str d.payloadHash) := rfl
  have hrevision : d.toJson.get (js "grantRevision") = some (.str d.grantRevision) := rfl
  have hstatus : d.toJson.get (js "status") = some (.str d.status.text) := rfl
  have hreceipt : d.toJson.get (js "receiptId") = some (.str d.receiptId) := rfl
  have hcreated : d.toJson.get (js "createdAt") = some d.createdAt.toJson := rfl
  have haccepted : d.toJson.get (js "acceptedAt") = some (nullOr d.acceptedAt) := rfl
  have hidentity : readFields d.toJson = some d.identity := readFields_members _ _
  rw [readDelivery, hidentity, hpayload, hrevision, hstatus, hreceipt, hcreated, haccepted,
    readStatus_text, readSafeInt_toJson, readNullOr_nullOr]
  simp [strOf, checked_eq_some d.payloadHashValid, checked_eq_some d.grantRevisionValid,
    checked_eq_some d.receiptIdValid]

/-! ## Tables -/

/-- The reader accepts the keys and the number of entries. -/
structure TableOk {α : Type*} (limit : ℕ) (r : Record α) : Prop where
  keys : ∀ k x, r.get? k = some x → isHash k = true
  count : r.size ≤ limit

theorem TableOk.isHash_of_mem {α : Type*} {limit : ℕ} {r : Record α} (h : TableOk limit r)
    {p : JsString × α} (hp : p ∈ r.props) : isHash p.1 = true :=
  h.keys p.1 p.2 (Record.mem_entries.mp hp)

theorem readEntries_map {α : Type*} {read : Json → Option α} {toJson : α → Json}
    (hread : ∀ x, read (toJson x) = some x) {ps : List (JsString × α)}
    (hkeys : ∀ p ∈ ps, isHash p.1 = true) :
    readEntries read (ps.map fun p => (p.1, toJson p.2)) = some ps := by
  induction ps with
  | nil => rfl
  | cons p ps ih =>
      rw [List.map_cons, readEntries, if_pos (hkeys p List.mem_cons_self), hread,
        ih fun q hq => hkeys q (List.mem_cons_of_mem _ hq)]
      rfl

theorem readTable_tableJson {α : Type*} {read : Json → Option α} {toJson : α → Json}
    (hread : ∀ x, read (toJson x) = some x) {limit : ℕ} {r : Record α} (h : TableOk limit r) :
    readTable read limit (some (tableJson toJson r)) = some r := by
  have hcount : ¬limit < (r.props.map fun p => (p.1, toJson p.2)).length := by
    rw [List.length_map]
    exact not_lt.mpr h.count
  rw [tableJson, readTable, if_neg hcount, readEntries_map hread fun p hp => h.isHash_of_mem hp]
  exact dif_pos r.keys_nodup

/-- What every state that the store writes satisfies. -/
structure GrantState.Ok (s : GrantState) : Prop where
  grants : TableOk maxGrants s.grants
  deliveries : TableOk maxDeliveries s.deliveries

theorem normalize_stateJson {s : GrantState} (h : s.Ok) : normalize s.toJson = some s := by
  have hversion : s.toJson.get (js "version") = some (.num (JsNumber.ofInt 1 inRange_one)) := rfl
  have hgrants : s.toJson.get (js "grants") = some (tableJson Grant.toJson s.grants) := rfl
  have hdeliveries : s.toJson.get (js "deliveries") =
      some (tableJson Delivery.toJson s.deliveries) := rfl
  rw [normalize, hversion, hgrants, hdeliveries]
  dsimp only
  rw [if_neg (not_not.mpr (JsNumber.toInt?_ofInt 1 inRange_one)),
    readTable_tableJson readGrant_toJson h.grants,
    readTable_tableJson readDelivery_toJson h.deliveries]
  rfl

/-! ## The text is read back -/

/-- A hash is too long for an array index. -/
theorem isIndexKey_of_isHash {k : JsString} (h : isHash k = true) : isIndexKey k = none := by
  obtain ⟨-, hmin, -⟩ := matchesClass_iff.mp h
  exact isIndexKey_of_length (by omega)

theorem normal_toJson (t : SafeInt) : t.toJson.Normal := ⟨_, rfl⟩

theorem normal_nullOr (t : Option SafeInt) : (nullOr t).Normal := by
  cases t with
  | none => trivial
  | some t => exact normal_toJson t

theorem normal_strings (xs : List JsString) : NormalElements (xs.map Json.str) := by
  induction xs with
  | nil => trivial
  | cons x xs ih => exact ⟨trivial, ih⟩

theorem normalMembers_iff {ps : List (JsString × Json)} :
    NormalMembers ps ↔ ∀ p ∈ ps, p.2.Normal := by
  induction ps with
  | nil => simp [NormalMembers]
  | cons p ps ih =>
      obtain ⟨k, x⟩ := p
      simp [NormalMembers, NormalMember, ih]

/-- Members under distinct names that are no array indices. -/
theorem fromEntries_of_names {ps : List (JsString × Json)} (names : List JsString)
    (hnames : ps.map Prod.fst = names)
    (h : (decide names.Nodup && names.all fun k => (isIndexKey k).isNone) = true) :
    fromEntries ps = ps := by
  rw [Bool.and_eq_true, decide_eq_true_eq] at h
  refine fromEntries_eq_self (hnames ▸ h.1) fun k hk => ?_
  rw [hnames] at hk
  simpa using List.all_eq_true.mp h.2 k hk

def fieldNames : List JsString :=
  [js "actor", js "clientId", js "sessionId", js "workspaceId", js "leadSessionId"]

def grantNames : List JsString :=
  fieldNames ++ [js "actions", js "revision", js "updatedAt", js "revokedAt"]

def deliveryNames : List JsString :=
  fieldNames ++
    [js "payloadHash", js "grantRevision", js "status", js "receiptId", js "createdAt",
      js "acceptedAt"]

theorem normal_grant (g : Grant) : g.toJson.Normal := by
  refine ⟨normalMembers_iff.mpr fun p hp => ?_,
    fromEntries_of_names grantNames rfl (by decide +kernel)⟩
  simp only [IdentityFields.members, List.cons_append, List.nil_append, List.mem_cons,
    List.not_mem_nil, or_false] at hp
  rcases hp with rfl | rfl | rfl | rfl | rfl | rfl | rfl | rfl | rfl
  all_goals first
    | trivial
    | exact normal_strings _
    | exact normal_toJson _
    | exact normal_nullOr _

theorem normal_delivery (d : Delivery) : d.toJson.Normal := by
  refine ⟨normalMembers_iff.mpr fun p hp => ?_,
    fromEntries_of_names deliveryNames rfl (by decide +kernel)⟩
  simp only [IdentityFields.members, List.cons_append, List.nil_append, List.mem_cons,
    List.not_mem_nil, or_false] at hp
  rcases hp with rfl | rfl | rfl | rfl | rfl | rfl | rfl | rfl | rfl | rfl | rfl
  all_goals first
    | trivial
    | exact normal_toJson _
    | exact normal_nullOr _

theorem normal_table {α : Type*} {toJson : α → Json} (hnormal : ∀ x, (toJson x).Normal)
    {limit : ℕ} {r : Record α} (h : TableOk limit r) : (tableJson toJson r).Normal := by
  have hkeys : (r.props.map fun p => (p.1, toJson p.2)).map Prod.fst = r.props.map Prod.fst := by
    rw [List.map_map]
    rfl
  refine ⟨normalMembers_iff.mpr fun p hp => ?_, fromEntries_eq_self ?_ fun k hk => ?_⟩
  · obtain ⟨q, -, rfl⟩ := List.mem_map.mp hp
    exact hnormal q.2
  · rw [hkeys]
    exact r.keys_nodup
  · rw [hkeys] at hk
    obtain ⟨p, hp, rfl⟩ := List.mem_map.mp hk
    exact isIndexKey_of_isHash (h.isHash_of_mem hp)

theorem normal_state {s : GrantState} (h : s.Ok) : s.toJson.Normal := by
  refine ⟨normalMembers_iff.mpr fun p hp => ?_,
    fromEntries_of_names [js "version", js "grants", js "deliveries"] rfl (by decide +kernel)⟩
  simp only [List.mem_cons, List.not_mem_nil, or_false] at hp
  rcases hp with rfl | rfl | rfl
  · exact ⟨_, rfl⟩
  · exact normal_table normal_grant h.grants
  · exact normal_table normal_delivery h.deliveries

theorem loadText_fileText {s : GrantState} (h : s.Ok) :
    loadText s.fileText = if maxFileBytes < textSize s.fileText then none else some s := by
  unfold loadText
  rw [GrantState.fileText, parse_stringify_newline _ (normal_state h)]
  split_ifs
  · rfl
  · exact normalize_stateJson h

/-! ## The size of a text -/

@[simp] theorem textSize_nil : textSize [] = 0 := rfl

end RemoteOps
