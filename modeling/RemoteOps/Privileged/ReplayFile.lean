import RemoteOps.Privileged.Replay

/-!
# A damaged replay file

`loadReplay` reads the replay file inside one `try`: whatever cannot be read or parsed,
and whatever has no object under `nonces`, is an empty table, and an entry that is no
finite number is dropped. Here the file is the text on the disk. On what the broker itself
wrote the two levels agree (`consumeNonceFile_replayText`), so that the difference is only
about damage.
-/

namespace RemoteOps

open Ecma

/-- What `fs.readFileSync(REPLAY_FILE, "utf8")` finds. -/
inductive ReplayFile where
  | absent
  | unreadable
  | text (cs : List Char)

/-- The own properties of `{...x}`. -/
def spreadProps (ps : List (JsString × Json)) : Record Json :=
  ps.foldl (fun r p => r.set p.1 p.2) Record.empty

/-- `{...raw.nonces}`; the elements of an array have their indices as keys. -/
def spreadNonces : ReplayFile → Record Json
  | .text cs =>
      match (parse cs).bind fun raw => raw.get (js "nonces") with
      | some (.obj ps) => spreadProps ps
      | some (.arr xs) => spreadProps (xs.zipIdx.map fun p => (ofChars (Nat.repr p.2).toList, p.1))
      | _ => Record.empty
  | _ => Record.empty

/-- `Number.isFinite(expires)` and not `expires < now - 60000`. -/
def isLiveNonce (now : TimeValue) : Json → Bool
  | .num (.finite x) => !(JsNumber.finite x).lt (now.plus (-60000) (by decide))
  | _ => false

def loadReplayFile (file : ReplayFile) (now : TimeValue) : Record Json :=
  (spreadNonces file).filter fun _ expires => isLiveNonce now expires

/-- The text of `{nonces}`. -/
def noncesText (nonces : Record Json) : List Char :=
  (Json.obj [(js "nonces", .obj nonces.props)]).stringify

/-- A finite number that counts as true. -/
def isTruthyNonce : Json → Bool
  | .num (.finite x) => x.mag != 0
  | _ => false

/-- A nonce has only hexadecimal digits, so that no inherited key comes into question. -/
def consumeNonceFile (ticket : ManagedAdminTicketV1) (file : ReplayFile) (now : TimeValue)
    (persists : Bool) : Except String Unit × ReplayFile :=
  let state := loadReplayFile file now
  if (state.get? ticket.nonce).any isTruthyNonce then (.error "managed_admin_ticket_replayed", file)
  else if persists then (.ok (), .text (noncesText (state.set ticket.nonce (.num ticket.expiresAt))))
  else (.error "replay file write failed", file)

/-! ## Damage -/

def isFiniteNumber : Json → Bool
  | .num (.finite _) => true
  | _ => false

/-- An object with an object of finite numbers under `nonces`. -/
def ReplayFile.Intact (file : ReplayFile) : Prop :=
  ∃ cs raw ps, file = .text cs ∧ parse cs = some raw ∧ raw.get (js "nonces") = some (.obj ps) ∧
    ∀ p ∈ ps, isFiniteNumber p.2 = true

/-- Anything else than absence or an intact table. -/
def ReplayFile.Damaged (file : ReplayFile) : Prop := file ≠ .absent ∧ ¬file.Intact

/-- With a damaged file every ticket is refused. -/
def FileFailsClosed (file : ReplayFile) (ticket : ManagedAdminTicketV1) (now : TimeValue)
    (persists : Bool) : Prop :=
  file.Damaged → ∃ message, (consumeNonceFile ticket file now persists).1 = .error message

/-- The damage has left a nonzero expiry of the nonce that is not past its slack. -/
def StillRecorded (file : ReplayFile) (ticket : ManagedAdminTicketV1) (now : TimeValue) : Prop :=
  ∃ expires, (spreadNonces file).get? ticket.nonce = some expires ∧
    isLiveNonce now expires = true ∧ isTruthyNonce expires = true

theorem any_loadReplayFile_iff {file : ReplayFile} {ticket : ManagedAdminTicketV1}
    {now : TimeValue} :
    ((loadReplayFile file now).get? ticket.nonce).any isTruthyNonce = true ↔
      StillRecorded file ticket now := by
  rw [loadReplayFile, Record.get?_filter, StillRecorded]
  cases hget : (spreadNonces file).get? ticket.nonce with
  | none => simp
  | some expires =>
      rw [Option.filter_some]
      cases hlive : isLiveNonce now expires with
      | false => simp [hlive]
      | true => simp [hlive]

/-- The broker refuses with a damaged file exactly when the entry has survived or the file
cannot be written. -/
theorem fileFailsClosed_iff (file : ReplayFile) (ticket : ManagedAdminTicketV1) (now : TimeValue)
    (persists : Bool) :
    FileFailsClosed file ticket now persists ↔
      (file.Damaged → StillRecorded file ticket now ∨ persists = false) := by
  refine imp_congr_right fun _ => ?_
  rw [← any_loadReplayFile_iff]
  unfold consumeNonceFile
  dsimp only
  cases hrecorded : ((loadReplayFile file now).get? ticket.nonce).any isTruthyNonce with
  | true => simp
  | false => cases persists <;> simp

/-! ## What the broker itself has written -/

section Written

variable {r : ReplayState}

/-- The Number of an integer in range. -/
def nonceNumber (z : ℤ) : JsNumber :=
  if h : z.natAbs < 2 ^ 53 then JsNumber.ofInt z h else JsNumber.nan

/-- A table of the broker as the object it writes. -/
def writtenNonces (r : ReplayState) : Record Json where
  props := r.props.map fun p => (p.1, .num (nonceNumber p.2))
  keys_nodup := by
    rw [List.map_map]
    exact r.keys_nodup

/-- The keys are no array indices and the expiries are in range. -/
structure Storable (r : ReplayState) : Prop where
  names : ∀ k ∈ r.props.map Prod.fst, isIndexKey k = none
  range : ∀ p ∈ r.props, p.2.natAbs < 2 ^ 53

theorem record_ext {α : Type} {r r' : Record α} (h : r.props = r'.props) : r = r' := by
  cases r
  cases r'
  congr

theorem props_spreadProps (ps : List (JsString × Json)) :
    (spreadProps ps).props = fromEntries ps := by
  have hfold : ∀ r : Record Json, (ps.foldl (fun r p => r.set p.1 p.2) r).props =
      ps.foldl (fun acc p => setProp p.1 p.2 acc) r.props := by
    induction ps with
    | nil => exact fun r => rfl
    | cons p ps ih => exact fun r => ih (r.set p.1 p.2)
  exact hfold Record.empty

theorem keys_writtenNonces (r : ReplayState) :
    (writtenNonces r).props.map Prod.fst = r.props.map Prod.fst := by
  rw [writtenNonces, List.map_map]
  rfl

theorem nonceNumber_eq {z : ℤ} (h : z.natAbs < 2 ^ 53) : nonceNumber z = JsNumber.ofInt z h :=
  dif_pos h

theorem parse_noncesText (h : Storable r) :
    parse (noncesText (writtenNonces r)) =
      some (.obj [(js "nonces", .obj (writtenNonces r).props)]) := by
  refine parse_stringify _ ⟨normalMembers_of_forall ?_, rfl⟩
  simp only [List.forall_mem_cons]
  refine ⟨⟨normalMembers_of_forall fun p hp => ?_, ?_⟩, List.forall_mem_nil _⟩
  · obtain ⟨q, hq, rfl⟩ := List.mem_map.mp hp
    exact ⟨_, nonceNumber_eq (h.range q hq)⟩
  · refine fromEntries_eq_self (writtenNonces r).keys_nodup fun k hk => h.names k ?_
    rwa [keys_writtenNonces] at hk

theorem spreadNonces_noncesText (h : Storable r) :
    spreadNonces (.text (noncesText (writtenNonces r))) = writtenNonces r := by
  have hget : (Json.obj [(js "nonces", .obj (writtenNonces r).props)]).get (js "nonces") =
      some (.obj (writtenNonces r).props) := by
    simp [Json.get, lookup]
  unfold spreadNonces
  dsimp only
  rw [parse_noncesText h, Option.bind_some, hget]
  apply record_ext
  rw [props_spreadProps]
  refine fromEntries_eq_self (writtenNonces r).keys_nodup fun k hk => h.names k ?_
  rwa [keys_writtenNonces] at hk

theorem lt_ofInt {z w : ℤ} (hz : z.natAbs < 2 ^ 53) (hw : w.natAbs < 2 ^ 53) :
    (JsNumber.ofInt z hz).lt (JsNumber.ofInt w hw) = decide (z < w) := by
  have hscale : (0 : ℤ) < scale := by exact_mod_cast scale_pos
  simp only [JsNumber.lt, JsNumber.ofInt]
  rw [decide_eq_decide]
  exact Int.mul_lt_mul_right hscale

theorem isLiveNonce_nonceNumber {z : ℤ} (hz : z.natAbs < 2 ^ 53) (now : TimeValue) :
    isLiveNonce now (.num (nonceNumber z)) = !decide (z < now.ms - replaySlackMs) := by
  rw [nonceNumber_eq hz]
  exact congrArg (!·) (lt_ofInt hz _)

/-- Loading what the broker has written is loading its table. -/
theorem loadReplayFile_noncesText (h : Storable r) (now : TimeValue) :
    loadReplayFile (.text (noncesText (writtenNonces r))) now =
      writtenNonces (loadReplay (some r) now.ms) := by
  rw [loadReplayFile, spreadNonces_noncesText h]
  apply record_ext
  simp only [Record.filter, writtenNonces, loadReplay, Option.getD_some, List.filter_map]
  congr 1
  apply List.filter_congr
  intro p hp
  exact isLiveNonce_nonceNumber (h.range p hp) now

theorem lookup_map_snd {α β : Type} (f : α → β) (k : JsString) (ps : List (JsString × α)) :
    lookup k (ps.map fun p => (p.1, f p.2)) = (lookup k ps).map f := by
  induction ps with
  | nil => rfl
  | cons p ps ih =>
      rw [List.map_cons, lookup, lookup, ih]
      split_ifs <;> rfl

theorem setProp_map_snd {α β : Type} (f : α → β) (k : JsString) (x : α)
    (ps : List (JsString × α)) :
    setProp k (f x) (ps.map fun p => (p.1, f p.2)) =
      (setProp k x ps).map fun p => (p.1, f p.2) := by
  have hinsert : insertProp k (f x) (ps.map fun p => (p.1, f p.2)) =
      (insertProp k x ps).map fun p => (p.1, f p.2) := by
    induction ps with
    | nil => rfl
    | cons p ps ih =>
        simp only [List.map_cons, insertProp, ih]
        split
        · split_ifs <;> rfl
        · rfl
        · rfl
  have hreplace : replaceProp k (f x) (ps.map fun p => (p.1, f p.2)) =
      (replaceProp k x ps).map fun p => (p.1, f p.2) := by
    simp only [replaceProp, List.map_map]
    apply List.map_congr_left
    intro p _
    simp only [Function.comp_apply]
    split_ifs <;> rfl
  unfold setProp
  rw [lookup_map_snd, Option.isSome_map, hinsert, hreplace]
  split_ifs <;> rfl

theorem writtenNonces_set (r : ReplayState) (k : JsString) (z : ℤ) :
    (writtenNonces r).set k (.num (nonceNumber z)) = writtenNonces (r.set k z) :=
  record_ext (setProp_map_snd (fun z => Json.num (nonceNumber z)) k z r.props)

theorem get?_writtenNonces (r : ReplayState) (k : JsString) :
    (writtenNonces r).get? k = (r.get? k).map fun z => .num (nonceNumber z) :=
  lookup_map_snd (fun z => Json.num (nonceNumber z)) k r.props

theorem Storable.load (h : Storable r) (now : ℤ) : Storable (loadReplay (some r) now) := by
  have hsub : (loadReplay (some r) now).props ⊆ r.props := (List.filter_sublist).subset
  exact ⟨fun k hk => h.names k (List.map_subset _ hsub hk), fun p hp => h.range p (hsub hp)⟩

theorem isTruthyNonce_nonceNumber {z : ℤ} (hz : z.natAbs < 2 ^ 53) :
    isTruthyNonce (.num (nonceNumber z)) = decide (z ≠ 0) := by
  have hscale : scale ≠ 0 := scale_pos.ne'
  rw [nonceNumber_eq hz]
  show (z * (scale : ℤ) != 0) = decide (z ≠ 0)
  by_cases hzero : z = 0
  · simp [hzero]
  · simp [hzero, hscale]

theorem any_writtenNonces (h : Storable r) (k : JsString) :
    ((writtenNonces r).get? k).any isTruthyNonce = (r.get? k).any fun z => decide (z ≠ 0) := by
  rw [get?_writtenNonces]
  cases hget : r.get? k with
  | none => rfl
  | some z =>
      rw [Option.map_some, Option.any_some, Option.any_some]
      exact isTruthyNonce_nonceNumber (h.range (k, z) ((lookup_eq_some_iff r.keys_nodup).mp hget))

/-- On its own file the broker does what the table of nonces says. -/
theorem consumeNonceFile_noncesText (h : Storable r) (ticket : ManagedAdminTicketV1)
    (hexpiry : ticket.expiresAt = nonceNumber ticket.expiry) (now : TimeValue) (persists : Bool) :
    (consumeNonceFile ticket (.text (noncesText (writtenNonces r))) now persists).1 =
        (consumeNonce ticket (some r) now.ms persists).1 ∧
      ∀ r', (consumeNonce ticket (some r) now.ms persists).2 = some r' →
        (consumeNonceFile ticket (.text (noncesText (writtenNonces r))) now persists).2 =
          .text (noncesText (writtenNonces r')) := by
  have hany := any_writtenNonces (h.load now.ms) ticket.nonce
  unfold consumeNonceFile consumeNonce
  dsimp only
  rw [loadReplayFile_noncesText h, hexpiry, writtenNonces_set, hany]
  cases hget : (loadReplay (some r) now.ms).get? ticket.nonce with
  | none => cases persists <;> simp
  | some expires =>
      by_cases hzero : expires = 0
      · cases persists <;> simp [hzero]
      · simp [hzero]

end Written

/-! ## A truncated file -/

/-- A nonce is recorded, the file is cut short, and the ticket passes again. -/
theorem truncatedFile_failsOpen :
    ¬FileFailsClosed (.text "\x7b\"nonces\":".toList)
      (sampleTicket jsOne (JsNumber.ofInt 1000 inRange_thousand)) ⟨31, by decide⟩ true := by
  intro h
  have hdamaged : ReplayFile.Damaged (.text "\x7b\"nonces\":".toList) := by
    refine ⟨ReplayFile.noConfusion, ?_⟩
    rintro ⟨cs, raw, ps, heq, hparse, -⟩
    obtain rfl := ReplayFile.text.inj heq
    have hnone : (parse "\x7b\"nonces\":".toList).isSome = false := by decide +kernel
    rw [hparse] at hnone
    cases hnone
  obtain ⟨message, hrefused⟩ := h hdamaged
  have hempty : spreadNonces (.text "\x7b\"nonces\":".toList) = Record.empty := by
    have hparse : (parse "\x7b\"nonces\":".toList).isSome = false := by decide +kernel
    have hnone : parse "\x7b\"nonces\":".toList = none := by simpa using hparse
    unfold spreadNonces
    dsimp only
    rw [hnone]
    rfl
  unfold consumeNonceFile loadReplayFile at hrefused
  rw [hempty] at hrefused
  cases hrefused

end RemoteOps
