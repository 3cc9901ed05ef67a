import RemoteOps.State.PairingSteps

/-!
# One pairing for a code

A new pairing gets the first drawn code that no live pairing has, and an approval looks for an
unclaimed pairing by the hash of the code it is given. To the creator a pairing has expired at
the moment of its expiry, to the approver only after it. A pairing that is created at that
moment may therefore get the code of one that can still be approved (`tiedCodes_twoPairings`);
in a run without such a tie a code names one pairing at most (`onePairingPerCode_after`).

The invariant needs that a claimed pairing has its device: a claim that finds none would claim
the pairing again, and a claim at time 0 counts as none.
-/

namespace RemoteOps

open Ecma Transition

/-! ## The property -/

/-- The clock reading of a call. -/
def PairingInput.now : PairingInput → ℤ
  | create _ _ now _ => now
  | approve _ now _ => now
  | claim _ _ _ now _ => now
  | revokeDevice _ now _ => now
  | purgeState now _ => now
  | restart now => now

/-- `approvePairingByCode` accepts the pairing at the time. -/
def StoredPairing.IsApprovable (t : ℤ) (x : StoredPairing) : Prop :=
  x.isClaimed = false ∧ t ≤ x.expiresAt

/-- At the time `t`, a code hash belongs to one approvable pairing at most. -/
def CodesApart (t : ℤ) (pairings : Record StoredPairing) : Prop :=
  ∀ k x k' y, pairings.get? k = some x → pairings.get? k' = some y → x.IsApprovable t →
    y.IsApprovable t → x.codeHash = y.codeHash → k = k'

/-- At the time `t` no two pairings share a code, and an approval by the code of a pairing
reaches that pairing. -/
structure OnePairingPerCode (p : Platform) (upper : UpperCase) (t : ℤ) (live : Live) : Prop where
  apart : CodesApart t live.state.pairings
  approved : ∀ code k x, live.state.pairings.get? k = some x → x.IsApprovable t →
    x.codeHash = p.digest (normalizePairCode upper code) →
      ∃ live', approvePairingByCode p upper code t live =
        .persist live' (some { x with approvedAt := some t })

section Condition

variable (p : Platform) (upper : UpperCase)

/-- An unclaimed pairing with this code expires at this very moment. -/
def codeExpiring (code : JsString) (now : ℤ) (live : Live) : Bool :=
  live.state.pairings.values.any fun x =>
    x.codeHash = p.digest (normalizePairCode upper code) && x.expiresAt = now && !x.isClaimed

/-- The first drawn code that is not in use is not that of an expiring pairing. -/
def PairingInput.Untied (store : Store) : PairingInput → Prop
  | create _ draws now _ =>
      (((draws.codes.map pairingCode).find? fun code =>
        !codeInUse p upper code now (dropStalePairings now store.live)).all fun code =>
          !codeExpiring p upper code now (dropStalePairings now store.live)) = true
  | _ => True

instance decidableUntied (store : Store) : (i : PairingInput) → Decidable (i.Untied p upper store)
  | .create _ _ _ _ => inferInstanceAs (Decidable (_ = true))
  | .approve _ _ _ => inferInstanceAs (Decidable True)
  | .claim _ _ _ _ _ => inferInstanceAs (Decidable True)
  | .revokeDevice _ _ _ => inferInstanceAs (Decidable True)
  | .purgeState _ _ => inferInstanceAs (Decidable True)
  | .restart _ => inferInstanceAs (Decidable True)

end Condition

/-! ## The invariant -/

structure CodesOk (t : ℤ) (s : PersistentState) : Prop where
  apart : CodesApart t s.pairings
  enrolled : ∀ k x, s.pairings.get? k = some x → x.isClaimed = true →
    ∃ d, x.deviceId.bind s.devices.get? = some d

theorem StoredPairing.IsApprovable.earlier {x : StoredPairing} {t t' : ℤ} (h : x.IsApprovable t')
    (ht : t ≤ t') : x.IsApprovable t :=
  ⟨h.1, ht.trans h.2⟩

theorem CodesOk.later {t t' : ℤ} {s : PersistentState} (h : CodesOk t s) (ht : t ≤ t') :
    CodesOk t' s :=
  ⟨fun k x k' y hx hy hax hay => h.apart k x k' y hx hy (hax.earlier ht) (hay.earlier ht),
    h.enrolled⟩

theorem codesOk_empty (t : ℤ) : CodesOk t emptyState := by
  constructor
  · intro k x k' y hx
    cases hx
  · intro k x hx
    cases hx

theorem CodesOk.of_forgets {t : ℤ} {s s' : PersistentState} (h : CodesOk t s)
    (hforgets : Forgets s s') : CodesOk t s' := by
  constructor
  · intro k x k' y hx hy
    exact h.apart k x k' y (hforgets.pairings k x hx) (hforgets.pairings k' y hy)
  · intro k x hx hclaimed
    rw [hforgets.devices]
    exact h.enrolled k x (hforgets.pairings k x hx) hclaimed

/-- A pairing is replaced by one that is approvable only if it was, under the same code. -/
theorem CodesApart.set {t : ℤ} {pairings : Record StoredPairing} (h : CodesApart t pairings)
    {k : JsString} {x y : StoredPairing} (hx : pairings.get? k = some x)
    (hcode : y.codeHash = x.codeHash) (hy : y.IsApprovable t → x.IsApprovable t) :
    CodesApart t (pairings.set k y) := by
  have hold : ∀ j z, (pairings.set k y).get? j = some z → z.IsApprovable t →
      ∃ z', pairings.get? j = some z' ∧ z'.IsApprovable t ∧ z'.codeHash = z.codeHash := by
    intro j z hz happrovable
    rw [Record.get?_set] at hz
    split_ifs at hz with hj
    · obtain rfl := Option.some.inj hz
      exact ⟨x, hj ▸ hx, hy happrovable, hcode.symm⟩
    · exact ⟨z, hz, happrovable, rfl⟩
  intro j z j' z' hz hz' haz haz' hsame
  obtain ⟨w, hw, haw, hwcode⟩ := hold j z hz haz
  obtain ⟨w', hw', haw', hwcode'⟩ := hold j' z' hz' haz'
  exact h j w j' w' hw hw' haw haw' (hwcode.trans (hsame.trans hwcode'.symm))

/-- A pairing with a code of its own is added. -/
theorem CodesApart.set_new {t : ℤ} {pairings : Record StoredPairing} (h : CodesApart t pairings)
    {k : JsString} {y : StoredPairing}
    (hnew : ∀ j z, pairings.get? j = some z → z.IsApprovable t → z.codeHash ≠ y.codeHash) :
    CodesApart t (pairings.set k y) := by
  intro j z j' z' hz hz' haz haz' hsame
  rw [Record.get?_set] at hz hz'
  split_ifs at hz hz' with hj hj' hj'
  · rw [hj, hj']
  · obtain rfl := Option.some.inj hz
    exact absurd hsame.symm (hnew j' z' hz' haz')
  · obtain rfl := Option.some.inj hz'
    exact absurd hsame (hnew j z hz haz)
  · exact h j z j' z' hz hz' haz haz' hsame

/-- Devices are not dropped. -/
theorem bind_get?_set {r : Record StoredDevice} {id : Option JsString} {d : StoredDevice}
    (h : id.bind r.get? = some d) (k : JsString) (e : StoredDevice) :
    ∃ d', id.bind (r.set k e).get? = some d' := by
  obtain ⟨i, rfl, hi⟩ := Option.bind_eq_some_iff.mp h
  rw [Option.bind_some, Record.get?_set]
  split_ifs
  · exact ⟨e, rfl⟩
  · exact ⟨d, hi⟩

theorem CodesOk.set_device {t : ℤ} {s : PersistentState} (h : CodesOk t s) (k : JsString)
    (e : StoredDevice) : CodesOk t { s with devices := s.devices.set k e } := by
  refine ⟨h.apart, fun j x hx hclaimed => ?_⟩
  obtain ⟨d, hd⟩ := h.enrolled j x hx hclaimed
  exact bind_get?_set hd k e

theorem CodesOk.set_pairing {t : ℤ} {s : PersistentState} {k : JsString} {y : StoredPairing}
    (h : CodesOk t s) (hapart : CodesApart t (s.pairings.set k y))
    (hdevice : y.isClaimed = true → ∃ d, y.deviceId.bind s.devices.get? = some d) :
    CodesOk t { s with pairings := s.pairings.set k y } := by
  refine ⟨hapart, fun j x hx hclaimed => ?_⟩
  rw [Record.get?_set] at hx
  split_ifs at hx
  · obtain rfl := Option.some.inj hx
    exact hdevice hclaimed
  · exact h.enrolled j x hx hclaimed

/-! ## One step -/

section Step

variable {p : Platform} {upper : UpperCase} {env : PairingEnv}

theorem codesOk_create {live : Live} {now : ℤ} (info : PairingMeta) {draws : PairingDraws}
    (h : CodesOk now live.state)
    (huntied : (((draws.codes.map pairingCode).find? fun code =>
      !codeInUse p upper code now live).all fun code =>
        !codeExpiring p upper code now live) = true) :
    CodesOk now ((startPairing p upper env info draws now live).live live).state := by
  rw [startPairing]
  split_ifs
  · exact h
  · exact h
  · cases hfind : (draws.codes.map pairingCode).find? fun code =>
        !codeInUse p upper code now live with
    | none => exact h
    | some code =>
        have hfree := List.find?_some hfind
        rw [hfind, Option.all_some, Bool.not_eq_true', codeExpiring, List.any_eq_false] at huntied
        rw [Bool.not_eq_true', codeInUse, List.any_eq_false] at hfree
        refine h.set_pairing (h.apart.set_new fun j z hz haz hcode => ?_) fun hclaimed => ?_
        · have hmem := Record.mem_values.mpr ⟨j, hz⟩
          have hlive := hfree z hmem
          have hexpiring := huntied z hmem
          have hcode' : z.codeHash = p.digest (normalizePairCode upper code) := hcode
          simp only [hcode', haz.1, decide_true, Bool.true_and, Bool.not_false, Bool.and_true,
            decide_eq_true_eq] at hlive hexpiring
          have := haz.2
          omega
        · cases hclaimed

theorem codesOk_approve {live : Live} {now t : ℤ} (code : JsString) (h : CodesOk t live.state) :
    CodesOk t ((approvePairingByCode p upper code now live).live live).state := by
  rw [approvePairingByCode]
  cases hfind : live.state.pairings.find? fun x =>
      x.codeHash = p.digest (normalizePairCode upper code) && !x.isClaimed &&
        now ≤ x.expiresAt with
  | none => exact h
  | some found =>
      obtain ⟨k, x⟩ := found
      have hget := (Record.find?_some hfind).1
      exact h.set_pairing (h.apart.set hget rfl id) fun hclaimed => h.enrolled k x hget hclaimed

theorem codesOk_claim {live : Live} {now t : ℤ} (k pollToken : JsString) (draw : RandomText)
    (h : CodesOk t live.state) :
    CodesOk t ((claimPairing p k pollToken draw now live).live live).state := by
  rw [claimPairing]
  cases hget : live.state.pairings.get? k with
  | none => exact h
  | some x =>
      dsimp only
      split_ifs
      · exact h
      · exact h
      · exact h
      · cases hdevice : x.deviceId.bind live.state.devices.get? with
        | some d => exact h
        | none =>
            -- without a device the pairing has not been claimed
            have hunclaimed : x.isClaimed = false := by
              cases hclaimed : x.isClaimed with
              | false => rfl
              | true =>
                  obtain ⟨d, hd⟩ := h.enrolled k x hget hclaimed
                  rw [hdevice] at hd
                  cases hd
            have hdevices := h.set_device (newDeviceId draw)
              (newDevice p x pollToken (newDeviceId draw) now)
            refine hdevices.set_pairing (h.apart.set hget rfl fun hy => ⟨hunclaimed, hy.2⟩)
              fun _ => ⟨_, Record.get?_set_self _ _ _⟩

theorem codesOk_revokeDevice {live : Live} {now t : ℤ} (id : JsString)
    (h : CodesOk t live.state) :
    CodesOk t ((revokeDevice id now live).live live).state := by
  rw [revokeDevice]
  cases live.realm.slot live.state.devices id with
  | absent => exact h
  | own device =>
      dsimp only
      split_ifs
      · exact h.set_device id _
      · exact h
  | prototype =>
      dsimp only
      split_ifs
      · exact h
      · exact h
  | method name =>
      dsimp only
      split_ifs
      · exact h
      · exact h
  | number =>
      dsimp only
      split_ifs
      · exact h
      · exact h

theorem codesOk_purge {live : Live} {now t : ℤ} (h : CodesOk t live.state) :
    CodesOk t ((purgeState env.store now live).live live).state := by
  rw [purgeState]
  dsimp only
  split_ifs
  · exact h.of_forgets (forgets_purged env.store now live)
  · exact h

/-- Memory and file are in order. -/
structure StoreCodesOk (t : ℤ) (store : Store) : Prop where
  live : CodesOk t store.live.state
  file : CodesOk t store.file

theorem storeCodesOk_run {α : Type} {t : ℤ} {store : Store} (hfile : CodesOk t store.file)
    (op : Live → Effect α) (writes : Bool) (reply : α → PairingReply)
    (h : CodesOk t ((op store.live).live store.live).state) :
    StoreCodesOk t (answered reply (store.run op writes)).2 := by
  rw [answered_snd]
  have hlive : CodesOk t (store.run op writes).2.live.state := by
    rw [Store.run_live]
    exact h
  refine ⟨hlive, ?_⟩
  rcases Store.run_file store op writes with hwritten | hkept
  · rw [hwritten]
    exact hlive
  · rw [hkept]
    exact hfile

theorem storeCodesOk_step {store : Store} {i : PairingInput} (h : StoreCodesOk i.now store)
    (huntied : i.Untied p upper store) : StoreCodesOk i.now (i.step p upper env store).2 := by
  cases i with
  | create info draws now writes =>
      have hdropped := h.live.of_forgets (forgets_dropStalePairings now store.live)
      let dropped : Store := { store with live := dropStalePairings now store.live }
      have hfile : CodesOk now dropped.file := h.file
      exact storeCodesOk_run hfile _ writes _ (codesOk_create info hdropped huntied)
  | approve code now writes => exact storeCodesOk_run h.file _ writes _ (codesOk_approve code h.live)
  | claim k pollToken draw now writes =>
      exact storeCodesOk_run h.file _ writes _ (codesOk_claim k pollToken draw h.live)
  | revokeDevice id now writes =>
      exact storeCodesOk_run h.file _ writes _ (codesOk_revokeDevice id h.live)
  | purgeState now writes => exact storeCodesOk_run h.file _ writes _ (codesOk_purge h.live)
  | restart now => exact ⟨h.file.of_forgets (forgets_restart env.store now store), h.file⟩

end Step

/-! ## Runs -/

section Runs

variable {p : Platform} {upper : UpperCase} {env : PairingEnv}

theorem storeCodesOk_after {is : List PairingInput}
    (hrun : Ascending (fun i : PairingInput => [i.now]) is ∧
      (pairing p upper env).Along (fun store i => i.Untied p upper store) is) :
    ∀ t, (∀ i ∈ is, i.now ≤ t) → StoreCodesOk t ((pairing p upper env).after is) := by
  refine (pairing p upper env).invariant
    ((prefixClosed_ascending _).and ((pairing p upper env).prefixClosed_along _))
    (I := fun is store => ∀ t, (∀ i ∈ is, i.now ≤ t) → StoreCodesOk t store)
    (fun t _ => ⟨codesOk_empty t, codesOk_empty t⟩) ?_ is hrun
  intro is i hrun ih t ht
  have hnow := ih i.now fun j hj =>
    hrun.1.le (by simpa using ⟨j, hj, rfl⟩) (List.mem_singleton.mpr rfl)
  have hstep : StoreCodesOk i.now (i.step p upper env _).2 := storeCodesOk_step hnow hrun.2.last
  have hle := ht i (by simp)
  exact ⟨hstep.live.later hle, hstep.file.later hle⟩

/-- The approval finds the pairing that has the code, since no other has it. -/
theorem approved_of_apart {t : ℤ} {live : Live} (h : CodesApart t live.state.pairings)
    {code k : JsString} {x : StoredPairing} (hx : live.state.pairings.get? k = some x)
    (hax : x.IsApprovable t) (hcode : x.codeHash = p.digest (normalizePairCode upper code)) :
    ∃ live', approvePairingByCode p upper code t live =
      .persist live' (some { x with approvedAt := some t }) := by
  obtain ⟨k', y, hfind⟩ := Record.find?_isSome (p := fun x =>
    x.codeHash = p.digest (normalizePairCode upper code) && !x.isClaimed && t ≤ x.expiresAt) hx
      (by simp [hcode, hax.1, hax.2])
  obtain ⟨hy, hytest⟩ := Record.find?_some hfind
  simp only [Bool.and_eq_true, decide_eq_true_eq, Bool.not_eq_true'] at hytest
  obtain rfl := h k x k' y hx hy hax ⟨hytest.1.2, hytest.2⟩ (hcode.trans hytest.1.1.symm)
  obtain rfl := Option.some.inj (hx.symm.trans hy)
  rw [approvePairingByCode, hfind]
  exact ⟨_, rfl⟩

/-- As long as no pairing is given the code of one that expires at that moment, a code names
one approvable pairing at most. -/
theorem onePairingPerCode_after (is : List PairingInput)
    (hascending : Ascending (fun i : PairingInput => [i.now]) is)
    (huntied : (pairing p upper env).Along (fun store i => i.Untied p upper store) is) (t : ℤ)
    (ht : ∀ i ∈ is, i.now ≤ t) :
    OnePairingPerCode p upper t ((pairing p upper env).after is).live := by
  have hok := (storeCodesOk_after ⟨hascending, huntied⟩ t ht).live
  exact ⟨hok.apart, fun _ _ _ hx hax hcode => approved_of_apart hok.apart hx hax hcode⟩

end Runs

/-! ## A tie -/

def otherUuid : RandomUuid := ⟨js "00000000-0000-4000-8000-00000000000a", by decide⟩

/-- Two hosts start a pairing with the same drawn code; the second one at the time `now`. -/
def twoPairings (now : ℤ) : List PairingInput :=
  [.create ⟨js "host", none, none, none⟩ ⟨[fun _ => 0], samplePoll, sampleUuid⟩ 1000 true,
    .create ⟨js "other", none, none, none⟩ ⟨[fun _ => 0], samplePoll, otherUuid⟩ now true]

theorem onePairingPerCode_twoPairings :
    OnePairingPerCode samplePlatform sampleUpper 601001
      ((pairing samplePlatform sampleUpper samplePairingEnv).after (twoPairings 601001)).live :=
  onePairingPerCode_after (twoPairings 601001) (by unfold Ascending; decide)
    ((Machine.along_iff_alongFrom _ _ _).mpr (by decide +kernel)) 601001 (by decide)

/-- At the moment at which the first pairing expires, both can be approved by one code. -/
theorem tiedCodes_twoPairings :
    Ascending (fun i : PairingInput => [i.now]) (twoPairings 601000) ∧
      ¬OnePairingPerCode samplePlatform sampleUpper 601000
        ((pairing samplePlatform sampleUpper samplePairingEnv).after (twoPairings 601000)).live := by
  refine ⟨by unfold Ascending; decide, fun h => ?_⟩
  have hboth : ∀ id ∈ [sampleUuid.text, otherUuid.text],
      (((pairing samplePlatform sampleUpper samplePairingEnv).after
        (twoPairings 601000)).live.state.pairings.get? id).any (fun x =>
          x.codeHash = samplePlatform.digest (js "WD-AAAA-AAAA") && !x.isClaimed &&
            (601000 : ℤ) ≤ x.expiresAt) = true := by
    decide +kernel
  obtain ⟨x, hx, hxtest⟩ := (Option.any_eq_true _ _).mp (hboth sampleUuid.text (by simp))
  obtain ⟨y, hy, hytest⟩ := (Option.any_eq_true _ _).mp (hboth otherUuid.text (by simp))
  simp only [Bool.and_eq_true, decide_eq_true_eq, Bool.not_eq_true'] at hxtest hytest
  have hsame := h.apart _ x _ y hx hy ⟨hxtest.1.2, hxtest.2⟩ ⟨hytest.1.2, hytest.2⟩
    (hxtest.1.1.trans hytest.1.1.symm)
  revert hsame
  decide

end RemoteOps
