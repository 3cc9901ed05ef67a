import RemoteOps.DeepHarness.Reload

/-!
# One instruction per key

The record of a delivery only ever goes from pending to accepted, on file and across
restarts (`grows_step`). Every call of `submit` and every receipt is backed by such a
record (`Backed`), hence an instruction is committed at most once under its key
(`committedOnce`). Neither the digest nor the generated names matter for this: equal
callers and keys have equal record keys in any case.
-/

namespace RemoteOps

open Ecma Transition

variable {h : HexDigest} {w : GrantWorld}

/-! ## The records on file -/

/-- The delivery that the file has under a key. -/
def GrantWorld.onFile (w : GrantWorld) (key : JsString) : Option Delivery :=
  w.store.file.bind fun s => s.deliveries.get? key

/-- What may become of a record. -/
structure Delivery.Follows (d d' : Delivery) : Prop where
  payloadHash : d'.payloadHash = d.payloadHash
  grantRevision : d'.grantRevision = d.grantRevision
  receiptId : d'.receiptId = d.receiptId
  accepted : d.status = .accepted → d'.status = .accepted

theorem Delivery.Follows.refl (d : Delivery) : d.Follows d := ⟨rfl, rfl, rfl, id⟩

def Grows (f g : JsString → Option Delivery) : Prop :=
  ∀ k d, f k = some d → ∃ d', g k = some d' ∧ d.Follows d'

theorem Grows.refl (f : JsString → Option Delivery) : Grows f f :=
  fun _ d hd => ⟨d, hd, .refl d⟩

theorem onFile_eq (hsteady : Steady h w) (hrunning : w.running = true)
    (hfault : w.store.faulted = false) (key : JsString) :
    w.onFile key = w.store.state.deliveries.get? key := by
  rw [GrantWorld.onFile, hsteady.same hrunning hfault]
  rfl

section Changes

variable {i : GrantInput} {next : GrantState} {events : List GrantEvent}
  {flight : Option CommitInFlight}

theorem Change.calm (hchange : Change h w i next events flight) (hsteady : Steady h w) :
    w.store.faulted = false := by
  cases hchange with
  | granted hfault => exact hfault
  | pending hfault => exact hfault
  | accepted hflight => exact (hsteady.live _ hflight).2.1

theorem grows_set {f : Record Delivery} {key : JsString} {x : Delivery}
    (hx : ∀ d, f.get? key = some d → d.Follows x) : Grows f.get? (f.set key x).get? := by
  intro k d hd
  rw [Record.get?_set]
  split_ifs with heq
  · exact ⟨x, rfl, hx d (heq ▸ hd)⟩
  · exact ⟨d, hd, .refl d⟩

theorem Change.grows (hchange : Change h w i next events flight) (hsteady : Steady h w) :
    Grows w.store.state.deliveries.get? next.deliveries.get? := by
  cases hchange with
  | granted => exact .refl _
  | pending hfault hqueue hidle hrequest hgrant hnew =>
      refine grows_set fun d hd => ?_
      rw [hnew] at hd
      cases hd
  | accepted hflight hgrant =>
      obtain ⟨-, -, hpending, -⟩ := hsteady.live _ hflight
      refine grows_set fun d hd => ?_
      rw [hpending] at hd
      rw [← Option.some.inj hd]
      exact ⟨rfl, rfl, rfl, fun _ => rfl⟩

end Changes

/-- Records are neither lost nor rewritten. -/
theorem grows_step (hsteady : Steady h w) (i : GrantInput) :
    Grows w.onFile (i.step h w).2.onFile := by
  have hcase := worldCase_step (h := h) w i
  generalize i.step h w = x at hcase ⊢
  have hsame : x.2.store = w.store → Grows w.onFile x.2.onFile := by
    intro hstore k d hd
    refine ⟨d, ?_, .refl d⟩
    rw [GrantWorld.onFile, hstore]
    exact hd
  cases hcase with
  | plain hstore => exact hsame hstore
  | opened => exact hsame rfl
  | disclosed => exact hsame rfl
  | resubmitted _ _ _ _ _ _ _ _ _ hstore => exact hsame hstore
  | duplicate _ _ _ _ _ _ hstore => exact hsame hstore
  | ended _ hstore => exact hsame hstore
  | restarted =>
      intro k d hd
      refine ⟨d, ?_, .refl d⟩
      rcases file_restart w _ with hsame | ⟨hnone, -⟩
      · rw [GrantWorld.onFile, hsame]
        exact hd
      · rw [GrantWorld.onFile, hnone] at hd
        cases hd
  | saved hrunning hchange hstore =>
      intro k d hd
      rw [onFile_eq hsteady hrunning (hchange.calm hsteady)] at hd
      rw [GrantWorld.onFile, hstore]
      exact hchange.grows hsteady k d hd
  | failed hrunning hchange hstore =>
      intro k d hd
      rcases hstore with hstore | hstore
      · refine ⟨d, ?_, .refl d⟩
        rw [GrantWorld.onFile, hstore]
        exact hd
      · rw [onFile_eq hsteady hrunning (hchange.calm hsteady)] at hd
        rw [GrantWorld.onFile, hstore]
        exact hchange.grows hsteady k d hd

/-! ## Events and their records -/

theorem instructGrant_eq_some {r : CommitRequest} {state : GrantState} {grant : Grant} :
    instructGrant h r state = some grant ↔
      state.grants.get? (identityKey h r.identity.toIdentityFields) = some grant ∧
        grant.revokedAt = none ∧ js "lead.instruct" ∈ grant.actions ∧
          grant.revision = r.revision := by
  unfold instructGrant
  cases state.grants.get? (identityKey h r.identity.toIdentityFields) with
  | none => simp
  | some current =>
      dsimp only
      constructor
      · intro hgrant
        split at hgrant
        · cases hgrant
        · next hallowed =>
            obtain rfl := Option.some.inj hgrant
            rw [not_or, not_or, not_not, not_ne_iff, Option.isSome_iff_ne_none, not_ne_iff]
              at hallowed
            exact ⟨rfl, hallowed⟩
      · rintro ⟨hget, hlive, haction, hrevision⟩
        obtain rfl := Option.some.inj hget
        exact if_neg fun hdenied => hdenied.elim (fun hdead => by simp [hlive] at hdead)
          fun hdenied => hdenied.elim (fun hnot => hnot haction) fun hne => hne hrevision

/-- The record of a call of `submit`: pending, of this very text and revision. -/
def Submits (r : CommitRequest) (d : Delivery) : Prop :=
  d.payloadHash = r.payloadHash.1 ∧ d.grantRevision = r.revision

/-- The record of a receipt. -/
def Receipts (receipt : CommitReceipt) (d : Delivery) : Prop :=
  d.status = .accepted ∧ d.receiptId = receipt.receiptId

/-- An event and the records on file before and after its step. -/
def Backed (h : HexDigest) (w w' : GrantWorld) : GrantEvent → Prop
  | .submitted r =>
      (∀ d, w.onFile (r.key h) = some d → d.status = .pending) ∧
        ∃ d, w'.onFile (r.key h) = some d ∧ Submits r d
  | .committed r receipt =>
      (receipt.duplicate = false → ∀ d, w.onFile (r.key h) = some d → d.status = .pending) ∧
        ∃ d, w'.onFile (r.key h) = some d ∧ Receipts receipt d
  | _ => True

theorem backed_of_isPlain {w' : GrantWorld} {e : GrantEvent} (he : e.IsPlain) :
    Backed h w w' e := by
  cases e with
  | submitted r => cases he
  | committed r receipt => cases he
  | _ => trivial

theorem Change.backed {w' : GrantWorld} {i : GrantInput} {next : GrantState}
    {events : List GrantEvent} {flight : Option CommitInFlight}
    (hchange : Change h w i next events flight) (hsteady : Steady h w) (hrunning : w.running = true)
    (hafter : ∀ k, w'.onFile k = next.deliveries.get? k) : ∀ e ∈ events, Backed h w w' e := by
  have hbefore := onFile_eq hsteady hrunning (hchange.calm hsteady)
  intro e he
  cases hchange with
  | granted hfault hqueue hidle hcaller hroom hrevision hevent =>
      rw [List.mem_singleton.mp he]
      rcases hevent with rfl | rfl <;> trivial
  | pending hfault hqueue hidle hrequest hgrant hnew =>
      rw [List.mem_singleton.mp he]
      refine ⟨fun d hd => ?_, _, (hafter _).trans (Record.get?_set_self _ _ _), rfl, ?_⟩
      · rw [hbefore, hnew] at hd
        cases hd
      · exact (instructGrant_eq_some.mp hgrant).2.2.2
  | accepted hflight hgrant =>
      obtain ⟨-, -, hpending, hstatus⟩ := hsteady.live _ hflight
      rw [List.mem_singleton.mp he]
      refine ⟨fun _ d hd => ?_, _, (hafter _).trans (Record.get?_set_self _ _ _), rfl, rfl⟩
      rw [hbefore, hpending] at hd
      rw [← Option.some.inj hd]
      exact hstatus

theorem backed_step (hsteady : Steady h w) (i : GrantInput) :
    ∀ e ∈ (i.step h w).1, Backed h w (i.step h w).2 e := by
  have hcase := worldCase_step (h := h) w i
  generalize i.step h w = x at hcase ⊢
  cases hcase with
  | plain hstore hrunning hflight hreads hcalls hevents =>
      exact fun e he => backed_of_isPlain (hevents e he)
  | opened => exact fun e he => by cases he
  | disclosed =>
      intro e he
      rw [List.mem_singleton.mp he]
      trivial
  | restarted => exact fun e he => by cases he
  | failed hrunning hchange hstore hlive hflight hreads hcalls hevents =>
      intro e he
      rw [hevents] at he
      rw [List.mem_singleton.mp he]
      trivial
  | ended hrunning hstore hlive hflight hreads hcalls hevents =>
      intro e he
      rw [hevents] at he
      rw [List.mem_singleton.mp he]
      trivial
  | @saved i next flight x hrunning hchange hstore =>
      have hafter : ∀ k, x.2.onFile k = next.deliveries.get? k := fun k => by
        rw [GrantWorld.onFile, hstore]
        rfl
      exact hchange.backed hsteady hrunning hafter
  | resubmitted hrunning hfault hturn hrequest hgrant hprevious hpending hpayload hrevision hstore
      hlive hflight hreads hcalls hevents =>
      intro e he
      rw [hevents] at he
      rw [List.mem_singleton.mp he]
      have hrecord := (onFile_eq hsteady hrunning hfault _).trans hprevious
      refine ⟨fun d hd => ?_, _, ?_, hpayload, ?_⟩
      · rw [hrecord] at hd
        rw [← Option.some.inj hd]
        exact hpending
      · rw [GrantWorld.onFile, hstore]
        exact hrecord
      · exact hrevision.trans (instructGrant_eq_some.mp hgrant).2.2.2
  | duplicate hrunning hfault hturn hrequest hprevious haccepted hstore hlive hflight hreads hcalls hevents =>
      intro e he
      rw [hevents] at he
      rw [List.mem_singleton.mp he]
      refine ⟨fun hfirst => (by cases hfirst), _, ?_, haccepted, rfl⟩
      rw [GrantWorld.onFile, hstore]
      exact (onFile_eq hsteady hrunning hfault _).trans hprevious

/-! ## Runs -/

/-- What happened in a run. -/
def grantLog (h : HexDigest) (is : List GrantInput) : List GrantEvent :=
  ((grantWorld h).trace is).flatMap Prod.snd

theorem grantLog_concat (h : HexDigest) (is : List GrantInput) (i : GrantInput) :
    grantLog h (is ++ [i]) = grantLog h is ++ (grantWorld h).answer is i := by
  simp [grantLog]

/-- The request is one of this caller under this key. -/
def CommitRequest.For (r : CommitRequest) (identity : GrantIdentity) (key : JsString) : Prop :=
  r.identity = identity ∧ r.idempotencyKey = key

instance decidableFor (r : CommitRequest) (identity : GrantIdentity) (key : JsString) :
    Decidable (r.For identity key) :=
  inferInstanceAs (Decidable (_ ∧ _))

theorem CommitRequest.For.key_eq {r : CommitRequest} {identity : GrantIdentity} {key : JsString}
    (hr : r.For identity key) : r.key h = deliveryKey h identity.toIdentityFields key := by
  rw [CommitRequest.key, hr.1, hr.2]

/-- A receipt under the key that is not marked as a duplicate. -/
def GrantEvent.isFirstReceipt (identity : GrantIdentity) (key : JsString) : GrantEvent → Bool
  | .committed r receipt => !receipt.duplicate && decide (r.For identity key)
  | _ => false

theorem isFirstReceipt_iff {identity : GrantIdentity} {key : JsString} {e : GrantEvent} :
    e.isFirstReceipt identity key = true ↔
      ∃ r receipt, e = .committed r receipt ∧ receipt.duplicate = false ∧ r.For identity key := by
  cases e with
  | committed r receipt =>
      simp only [GrantEvent.isFirstReceipt, Bool.and_eq_true, Bool.not_eq_true', decide_eq_true_eq]
      constructor
      · exact fun hfirst => ⟨r, receipt, rfl, hfirst⟩
      · rintro ⟨r', receipt', heq, hfirst⟩
        cases heq
        exact hfirst
  | _ => simp [GrantEvent.isFirstReceipt]

/-- Every call of `submit` and every receipt of a log is backed by a record on file. -/
structure Recorded (h : HexDigest) (log : List GrantEvent) (w : GrantWorld) : Prop where
  submitted : ∀ r, .submitted r ∈ log → ∃ d, w.onFile (r.key h) = some d ∧ Submits r d
  committed : ∀ r receipt, .committed r receipt ∈ log →
    ∃ d, w.onFile (r.key h) = some d ∧ Receipts receipt d

theorem recorded_step {log : List GrantEvent} (hrecorded : Recorded h log w)
    (hsteady : Steady h w) (i : GrantInput) :
    Recorded h (log ++ (i.step h w).1) (i.step h w).2 := by
  have hgrows := grows_step hsteady i
  have hbacked := backed_step hsteady i
  constructor
  · intro r hr
    rcases List.mem_append.mp hr with hr | hr
    · obtain ⟨d, hd, hpayload, hrevision⟩ := hrecorded.submitted r hr
      obtain ⟨d', hd', hfollows⟩ := hgrows _ d hd
      exact ⟨d', hd', hfollows.payloadHash.trans hpayload, hfollows.grantRevision.trans hrevision⟩
    · exact (hbacked _ hr).2
  · intro r receipt hr
    rcases List.mem_append.mp hr with hr | hr
    · obtain ⟨d, hd, haccepted, hreceipt⟩ := hrecorded.committed r receipt hr
      obtain ⟨d', hd', hfollows⟩ := hgrows _ d hd
      exact ⟨d', hd', hfollows.accepted haccepted, hfollows.receiptId.trans hreceipt⟩
    · exact (hbacked _ hr).2

theorem recorded_after (h : HexDigest) (is : List GrantInput) :
    Recorded h (grantLog h is) ((grantWorld h).after is) := by
  refine (grantWorld h).invariant (E := fun _ => True) (I := fun is => Recorded h (grantLog h is))
    (fun _ _ _ => trivial) ⟨fun r hr => ?_, fun r receipt hr => ?_⟩ (fun is i _ hrecorded => ?_) is
    trivial
  · cases hr
  · cases hr
  · rw [grantLog_concat]
    exact recorded_step hrecorded (steady_after h is) i

/-- A step answers at most one call. -/
theorem firstReceipts_step (identity : GrantIdentity) (key : JsString) (i : GrantInput) :
    ((i.step h w).1.filter (GrantEvent.isFirstReceipt identity key)).length ≤ 1 := by
  have hcase := worldCase_step (h := h) w i
  generalize i.step h w = x at hcase ⊢
  have hone : ∀ e, x.1 = [e] →
      (x.1.filter (GrantEvent.isFirstReceipt identity key)).length ≤ 1 := by
    intro e he
    rw [he]
    exact List.length_filter_le _ [e]
  cases hcase with
  | plain hstore hrunning hflight hreads hcalls hevents =>
      have hnone : x.1.filter (GrantEvent.isFirstReceipt identity key) = [] := by
        refine List.filter_eq_nil_iff.mpr fun e he hfirst => ?_
        obtain ⟨r, receipt, rfl, -⟩ := isFirstReceipt_iff.mp hfirst
        exact hevents _ he
      rw [hnone]
      exact Nat.zero_le _
  | opened => exact Nat.zero_le _
  | restarted => exact Nat.zero_le _
  | disclosed => exact hone _ rfl
  | saved hrunning hchange =>
      generalize x.1 = events at hchange hone ⊢
      cases hchange with
      | granted => exact hone _ rfl
      | pending => exact hone _ rfl
      | accepted => exact hone _ rfl
  | failed _ _ _ _ _ _ _ hevents => exact hone _ hevents
  | resubmitted _ _ _ _ _ _ _ _ _ _ _ _ _ _ hevents => exact hone _ hevents
  | duplicate _ _ _ _ _ _ _ _ _ _ _ hevents => exact hone _ hevents
  | ended _ _ _ _ _ _ hevents => exact hone _ hevents

theorem firstReceipts_after (h : HexDigest) (is : List GrantInput) (identity : GrantIdentity)
    (key : JsString) :
    ((grantLog h is).filter (GrantEvent.isFirstReceipt identity key)).length ≤ 1 := by
  induction is using List.reverseRecOn with
  | nil => exact Nat.zero_le _
  | append_singleton is i ih =>
      rw [grantLog_concat, List.filter_append, List.length_append]
      have hone := firstReceipts_step (h := h) (w := (grantWorld h).after is) identity key i
      cases hnew : ((grantWorld h).answer is i).filter (GrantEvent.isFirstReceipt identity key) with
      | nil => exact ih
      | cons e es =>
          have he : e ∈ ((grantWorld h).answer is i).filter
              (GrantEvent.isFirstReceipt identity key) := by
            rw [hnew]
            exact List.mem_cons_self
          obtain ⟨hmem, hfirst⟩ := List.mem_filter.mp he
          obtain ⟨r, receipt, rfl, hdup, hfor⟩ := isFirstReceipt_iff.mp hfirst
          have hpending := (backed_step (steady_after h is) i _ hmem).1 hdup
          -- an earlier first receipt has left an accepted record
          have hold : (grantLog h is).filter (GrantEvent.isFirstReceipt identity key) = [] := by
            refine List.filter_eq_nil_iff.mpr fun e' he' hfirst' => ?_
            obtain ⟨r', receipt', rfl, -, hfor'⟩ := isFirstReceipt_iff.mp hfirst'
            obtain ⟨d, hd, haccepted, -⟩ := (recorded_after h is).committed r' receipt' he'
            rw [hfor'.key_eq, ← hfor.key_eq] at hd
            rw [hpending d hd] at haccepted
            cases haccepted
          rw [hold, ← hnew, List.length_nil, Nat.zero_add]
          exact hone

/-- What a run does under one key of one caller. -/
structure CommittedOnce (h : HexDigest) (is : List GrantInput) (identity : GrantIdentity)
    (key : JsString) : Prop where
  /-- one receipt at most is not a duplicate -/
  first : ((grantLog h is).filter (GrantEvent.isFirstReceipt identity key)).length ≤ 1
  receipts : ∀ r receipt r' receipt', .committed r receipt ∈ grantLog h is → r.For identity key →
    .committed r' receipt' ∈ grantLog h is → r'.For identity key →
      receipt.receiptId = receipt'.receiptId
  /-- no `submit` once the file says accepted -/
  settled : ∀ pre i post d, is = pre ++ i :: post →
    ((grantWorld h).after pre).onFile (deliveryKey h identity.toIdentityFields key) = some d →
      d.status = .accepted → ∀ r, .submitted r ∈ (grantWorld h).answer pre i → ¬r.For identity key
  /-- `submit` is called with its record on file -/
  persisted : ∀ pre i post r, is = pre ++ i :: post →
    .submitted r ∈ (grantWorld h).answer pre i → r.For identity key →
      ∃ d, ((grantWorld h).after (pre ++ [i])).onFile
        (deliveryKey h identity.toIdentityFields key) = some d ∧ Submits r d
  same : ∀ r r', .submitted r ∈ grantLog h is → r.For identity key →
    .submitted r' ∈ grantLog h is → r'.For identity key →
      r.payloadHash = r'.payloadHash ∧ r.revision = r'.revision

theorem committedOnce (h : HexDigest) (is : List GrantInput) (identity : GrantIdentity)
    (key : JsString) : CommittedOnce h is identity key := by
  have hrecorded := recorded_after h is
  refine ⟨firstReceipts_after h is identity key, ?_, ?_, ?_, ?_⟩
  · intro r receipt r' receipt' hr hfor hr' hfor'
    obtain ⟨d, hd, -, hreceipt⟩ := hrecorded.committed r receipt hr
    obtain ⟨d', hd', -, hreceipt'⟩ := hrecorded.committed r' receipt' hr'
    rw [hfor.key_eq] at hd
    rw [hfor'.key_eq, hd] at hd'
    rw [← hreceipt, ← hreceipt', Option.some.inj hd']
  · intro pre i post d hsplit hd haccepted r hr hfor
    have hpending := (backed_step (steady_after h pre) i _ hr).1 d (hfor.key_eq ▸ hd)
    rw [haccepted] at hpending
    cases hpending
  · intro pre i post r hsplit hr hfor
    have hbacked := (backed_step (steady_after h pre) i _ hr).2
    rw [hfor.key_eq] at hbacked
    rw [Machine.after_concat]
    exact hbacked
  · intro r r' hr hfor hr' hfor'
    obtain ⟨d, hd, hpayload, hrevision⟩ := hrecorded.submitted r hr
    obtain ⟨d', hd', hpayload', hrevision'⟩ := hrecorded.submitted r' hr'
    rw [hfor.key_eq] at hd
    rw [hfor'.key_eq, hd] at hd'
    obtain rfl := Option.some.inj hd'
    exact ⟨Subtype.ext (hpayload.symm.trans hpayload'), hrevision.symm.trans hrevision'⟩

end RemoteOps
