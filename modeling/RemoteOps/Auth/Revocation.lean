import RemoteOps.Auth.Credentials

/-!
# Revocation is final

Once a session or a client has been revoked, no later answer serves it: no access
token of it is let through, no refresh token is redeemed and no authorization
code held by the client is traded for a session.

Revoked records are dropped by the housekeeping and read back by restarts, so the
argument is about what the tables can never hold again. `SessionDead` and
`ClientDead` say that an entry, if there is one, is marked as revoked; evolution
keeps them, and they hold of memory and file as soon as the revoking call has
returned.

A revocation that names `__proto__` marks `Object.prototype`. Until the next
restart every record then reads as revoked, and the calls that mark only what is
not yet revoked leave the records themselves unmarked (`protoRun_not_final`).
-/

namespace RemoteOps

open Ecma Transition

/-! ## The property -/

/-- What is revoked. -/
inductive Subject where
  | session (sessionId : JsString)
  | client (clientId : JsString)

def Subject.id : Subject → JsString
  | session sessionId => sessionId
  | client clientId => clientId

/-- The subject is the one that a pair of client and session belongs to. -/
def Subject.covers (clientId sessionId : JsString) : Subject → Prop
  | session s => sessionId = s
  | client c => clientId = c

/-- The answer hands out tokens of the subject or lets a bearer of one through. -/
def OAuthReply.serves (subject : Subject) : OAuthReply → Prop
  | tokens r => subject.covers r.clientId r.sessionId
  | authorized who => subject.covers who.oauthClientId who.oauthSessionId
  | _ => False

instance decidableCovers (clientId sessionId : JsString) :
    (subject : Subject) → Decidable (subject.covers clientId sessionId)
  | .session s => inferInstanceAs (Decidable (sessionId = s))
  | .client c => inferInstanceAs (Decidable (clientId = c))

instance decidableServes (subject : Subject) :
    (reply : OAuthReply) → Decidable (reply.serves subject)
  | .tokens r => inferInstanceAs (Decidable (subject.covers r.clientId r.sessionId))
  | .authorized who =>
      inferInstanceAs (Decidable (subject.covers who.oauthClientId who.oauthSessionId))
  | .refused _ _ => inferInstanceAs (Decidable False)
  | .failed _ => inferInstanceAs (Decidable False)
  | .registered _ => inferInstanceAs (Decidable False)
  | .redirected _ _ _ => inferInstanceAs (Decidable False)
  | .returned _ => inferInstanceAs (Decidable False)
  | .done => inferInstanceAs (Decidable False)

section Property

variable (p : Platform) (env : OAuthEnv)

/-- The input, coming after `is`, revokes the subject and returns. -/
inductive Revokes (is : List OAuthInput) : OAuthInput → Subject → Prop
  | session {sessionId now writes}
      (h : (oauth p env).answer is (.revokeSession sessionId now writes) = .returned true) :
      Revokes is (.revokeSession sessionId now writes) (.session sessionId)
  | client {clientId now writes}
      (h : (oauth p env).answer is (.revokeClient clientId now writes) = .returned true) :
      Revokes is (.revokeClient clientId now writes) (.client clientId)
  | allClients {clientId now writes}
      (h : (oauth p env).answer is (.revokeAllClients now writes) = .done)
      (hdrawn : clientId ∈ drawnNames is) :
      Revokes is (.revokeAllClients now writes) (.client clientId)

/-- The input, coming after `is`, gains nothing for the subject. -/
structure Barred (is : List OAuthInput) (i : OAuthInput) (subject : Subject) : Prop where
  reply : ¬((oauth p env).answer is i).serves subject
  accessToken : ∀ input r who, i = .bearer input → r ∈ tokensIssued ((oauth p env).trace is) →
    subject.covers r.clientId r.sessionId →
      bearerToken input.authorization = some r.accessToken →
        (oauth p env).answer is i ≠ .authorized who
  refreshToken : ∀ input r r', i = .token input → input.grantType = js "refresh_token" →
    r ∈ tokensIssued ((oauth p env).trace is) → subject.covers r.clientId r.sessionId →
      input.refreshToken = r.refreshToken → (oauth p env).answer is i ≠ .tokens r'
  code : ∀ input clientId, i = .token input → subject = .client clientId →
    (input.code, clientId) ∈ codesIssued ((oauth p env).trace is) →
      (∀ r, input.grantType = js "authorization_code" → (oauth p env).answer is i ≠ .tokens r) ∧
        ∀ k x, ((oauth p env).after (is ++ [i])).live.state.sessions.get? k = some x →
          ((oauth p env).after is).live.state.sessions.get? k ≠ none

/-- After a revocation, every later input is barred from what it revoked. -/
def RevocationIsFinal (is : List OAuthInput) : Prop :=
  ∀ pre i mid j post subject, is = pre ++ i :: mid ++ j :: post →
    Revokes p env pre i subject → Barred p env (pre ++ i :: mid) j subject

end Property

/-- A call that marks only what does not read as revoked meets a prototype
without a mark. -/
def PrototypeUnmarked (store : Store) : OAuthInput → Prop
  | .revokeSession _ _ _ => isSet store.live.realm.revokedAt = false
  | .revokeAllClients _ _ => isSet store.live.realm.revokedAt = false
  | _ => True

instance decidablePrototypeUnmarked (store : Store) :
    (i : OAuthInput) → Decidable (PrototypeUnmarked store i)
  | .revokeSession _ _ _ => inferInstanceAs (Decidable (isSet store.live.realm.revokedAt = false))
  | .revokeAllClients _ _ => inferInstanceAs (Decidable (isSet store.live.realm.revokedAt = false))
  | .register _ => inferInstanceAs (Decidable True)
  | .submit _ => inferInstanceAs (Decidable True)
  | .token _ => inferInstanceAs (Decidable True)
  | .bearer _ => inferInstanceAs (Decidable True)
  | .touchSession _ _ _ => inferInstanceAs (Decidable True)
  | .purgeState _ _ => inferInstanceAs (Decidable True)
  | .revokeClient _ _ _ => inferInstanceAs (Decidable True)
  | .revokeAllSessions _ _ => inferInstanceAs (Decidable True)
  | .revokeDevice _ _ _ => inferInstanceAs (Decidable True)
  | .restart _ => inferInstanceAs (Decidable True)

/-! ## Facts that evolution keeps -/

section Kept

variable {p : Platform} {env : OAuthEnv} {i : OAuthInput} {s s' : PersistentState}

def SessionDead (sessionId : JsString) (s : PersistentState) : Prop :=
  ∀ x, s.sessions.get? sessionId = some x → isSet x.revokedAt = true

def ClientDead (clientId : JsString) (s : PersistentState) : Prop :=
  ∀ c, s.clients.get? clientId = some c → isSet c.revokedAt = true

def Subject.Dead : Subject → PersistentState → Prop
  | session sessionId => SessionDead sessionId
  | client clientId => ClientDead clientId

theorem Evolves.dead (h : Evolves p env i s s') (hi : i.Positive) {subject : Subject}
    (hold : subject.id ∉ i.names) (hs : subject.Dead s) : subject.Dead s' := by
  cases subject with
  | session sessionId =>
      intro x' hx'
      rcases h.sessions sessionId x' hx' with ⟨x, hx, hkept⟩ | hcreated
      · exact hkept.revoked hi (hs x hx)
      · exact absurd hcreated.drawn hold
  | client clientId =>
      intro c' hc'
      rcases h.clients clientId c' hc' with ⟨c, hc, hkept⟩ | ⟨hdrawn, -⟩
      · exact hkept.revoked hi (hs c hc)
      · exact absurd hdrawn hold

end Kept

/-! ## A dead subject is not served -/

section Served

variable {p : Platform} {env : OAuthEnv}

theorem isRevoked_of_isSet {realm : Realm} {own : Option ℤ} (h : isSet own = true) :
    realm.isRevoked own = true := by
  cases own with
  | none => simp [isSet] at h
  | some t => exact h

theorem clientIsUsable_of_dead {clientId : JsString} {live : Live}
    (hdead : ClientDead clientId live.state) (hname : ¬IsInherited clientId) :
    clientIsUsable clientId live = false := by
  rw [clientIsUsable]
  cases hclient : live.state.clients.get? clientId with
  | none => rw [Realm.slot_eq_absent hclient hname]
  | some c =>
      rw [Realm.slot_eq_own hclient]
      simp [isRevoked_of_isSet (hdead c hclient)]

theorem sessionIsActive_spec {sessionId clientId : JsString} {now : ℤ} {live : Live}
    (h : sessionIsActive sessionId clientId now live = true) :
    ∃ x, live.state.sessions.get? sessionId = some x ∧ x.clientId = clientId ∧
      live.realm.isRevoked x.revokedAt = false ∧ clientIsUsable clientId live = true := by
  rw [sessionIsActive] at h
  split at h
  · cases h
  · rename_i x hx
    simp only [Bool.and_eq_true, decide_eq_true_eq, Bool.not_eq_eq_eq_not, Bool.not_true] at h
    obtain ⟨⟨⟨hclient, hrevoked⟩, -⟩, husable⟩ := h
    exact ⟨x, hx, hclient, hrevoked, husable⟩

/-- An active session of a live client covers no dead subject. -/
theorem not_covers_of_active {names : List JsString} {subject : Subject} {live : Live}
    {sessionId clientId : JsString} {x : StoredSession} (hsound : Sound p names live.state)
    (hnames : ∀ n ∈ names, ¬IsInherited n) (hdead : subject.Dead live.state)
    (hx : live.state.sessions.get? sessionId = some x) (hclient : x.clientId = clientId)
    (hrevoked : live.realm.isRevoked x.revokedAt = false)
    (husable : clientIsUsable clientId live = true) : ¬subject.covers clientId sessionId := by
  cases subject with
  | session s =>
      rintro rfl
      rw [isRevoked_of_isSet (hdead x hx)] at hrevoked
      cases hrevoked
  | client c =>
      rintro rfl
      obtain ⟨-, -, hmem, -⟩ := hsound.sessions sessionId x hx
      rw [hclient] at hmem
      rw [clientIsUsable_of_dead hdead (hnames _ hmem)] at husable
      cases husable

theorem not_covers_tokens {names : List JsString} {subject : Subject} {input : TokenInput}
    {store store' : Store} {r : TokenResponse} (hsound : Sound p names store.live.state)
    (hnames : ∀ n ∈ names, ¬IsInherited n) (hdead : subject.Dead store.live.state)
    (hold : subject.id ∉ (OAuthInput.token input).names)
    (h : token p env input store = (.tokens r, store')) :
    ¬subject.covers r.clientId r.sessionId := by
  rcases token_cases h with hidle | ⟨code, htraded⟩ | ⟨session, own, hrotated⟩
  · exact absurd rfl (hidle.reply r)
  · rcases htraded.ended with ⟨hreply, -⟩ | ⟨hreply, -⟩
    · obtain rfl := OAuthReply.tokens.inj hreply
      cases subject with
      | session s =>
          rintro rfl
          exact hold (by simp [Subject.id, OAuthInput.names, tokenResponse])
      | client c =>
          intro hc
          have hmem := (hsound.codes _ _ htraded.stored).1
          have hcode : code.clientId = c := htraded.clientId.trans hc
          have hunusable := clientIsUsable_of_dead hdead (hnames c (hcode ▸ hmem))
          rw [← hc] at hunusable
          exact absurd (htraded.usable.symm.trans hunusable) (by simp)
    · cases hreply
  · obtain ⟨-, rfl⟩ := hrotated.ended r rfl
    exact not_covers_of_active hsound hnames hdead (findSession_spec hsound hrotated.found).1
      hrotated.clientId hrotated.unrevoked hrotated.usable

theorem not_covers_authorized {names : List JsString} {subject : Subject} {input : BearerInput}
    {store : Store} {who : BearerIdentity} (hsound : Sound p names store.live.state)
    (hnames : ∀ n ∈ names, ¬IsInherited n) (hdead : subject.Dead store.live.state)
    (h : (requireBearer p env input store).1 = .authorized who) :
    ¬subject.covers who.oauthClientId who.oauthSessionId := by
  obtain ⟨accessToken, payload, -, hverify, hclientId, hsessionId⟩ := requireBearer_authorized h
  obtain ⟨x, hx, hclient, hrevoked, husable⟩ :=
    sessionIsActive_spec (verifyAccessToken_active hverify)
  rw [hclientId, hsessionId]
  exact not_covers_of_active hsound hnames hdead hx hclient hrevoked husable

theorem not_serves {names : List JsString} {subject : Subject} {i : OAuthInput} {store : Store}
    (hsound : Sound p names store.live.state) (hnames : ∀ n ∈ names, ¬IsInherited n)
    (hdead : subject.Dead store.live.state) (hold : subject.id ∉ i.names) :
    ¬(i.step p env store).1.serves subject := by
  cases hreply : (i.step p env store).1 with
  | tokens r =>
      obtain ⟨input, rfl⟩ := step_eq_tokens hreply
      exact not_covers_tokens hsound hnames hdead hold (Prod.ext hreply rfl)
  | authorized who =>
      obtain ⟨input, rfl⟩ := step_eq_authorized hreply
      exact not_covers_authorized hsound hnames hdead hreply
  | _ => exact id

end Served

/-! ## A revocation that has returned -/

section Returned

variable {p : Platform} {env : OAuthEnv}

/-- A call that returned has written what it left in memory, or has changed
nothing. -/
theorem call_returned {α : Type} {store : Store} {op : Live → Effect α} {writes : Bool}
    {reply : α → OAuthReply} {o : OAuthReply} (ho : ∀ e, o ≠ .failed e)
    (h : (store.call op writes reply).1 = o) :
    ∃ x, reply x = o ∧ (op store.live = .done x ∧ (store.call op writes reply).2 = store ∨
      ∃ live', op store.live = .persist live' x ∧
        (store.call op writes reply).2 = ⟨live', live'.state⟩) := by
  cases hrun : store.run op writes with
  | mk result store' =>
      cases result with
      | error e =>
          simp only [Store.call, hrun] at h
          exact absurd h.symm (ho e)
      | ok x =>
          simp only [Store.call, hrun] at h ⊢
          exact ⟨x, h, Store.run_eq_ok hrun⟩

theorem revokeSession_ne_done (sessionId : JsString) (now : ℤ) (live : Live) :
    revokeSession sessionId now live ≠ .done true := by
  unfold revokeSession
  repeat' split
  all_goals simp

theorem revokeClient_ne_done (clientId : JsString) (now : ℤ) (live : Live) :
    revokeClient clientId now live ≠ .done true := by
  unfold revokeClient
  dsimp only
  repeat' split
  all_goals simp

theorem revokeSession_dead {sessionId : JsString} {now : ℤ} {live live' : Live} (hnow : 0 < now)
    (hunmarked : isSet live.realm.revokedAt = false)
    (h : revokeSession sessionId now live = .persist live' true) :
    SessionDead sessionId live'.state := by
  intro x hx
  cases hsession : live.state.sessions.get? sessionId with
  | some session =>
      rw [revokeSession, Realm.slot_eq_own hsession] at h
      dsimp only at h
      split at h
      · obtain ⟨rfl, -⟩ := Effect.persist.inj h
        dsimp only at hx
        rw [Record.get?_set_self] at hx
        rw [← Option.some.inj hx]
        exact isSet_of_pos hnow
      · rename_i hrevoked
        obtain ⟨rfl, -⟩ := Effect.persist.inj h
        rw [hsession] at hx
        rw [← Option.some.inj hx, ← isRevoked_of_unmarked hunmarked]
        simpa using hrevoked
  | none =>
      have hstate : live'.state = live.state := by
        rw [revokeSession] at h
        split at h
        · cases h
        · rename_i hslot
          rw [Realm.get?_of_slot_eq_own hslot] at hsession
          cases hsession
        · split at h
          · split at h
            · cases h
            · obtain ⟨rfl, -⟩ := Effect.persist.inj h
              rfl
          · obtain ⟨rfl, -⟩ := Effect.persist.inj h
            rfl
      rw [hstate, hsession] at hx
      cases hx

theorem revokeClient_dead {clientId : JsString} {now : ℤ} {live live' : Live} (hnow : 0 < now)
    (h : revokeClient clientId now live = .persist live' true) :
    ClientDead clientId live'.state := by
  intro c hc
  cases hclient : live.state.clients.get? clientId with
  | some client =>
      rw [revokeClient, Realm.slot_eq_own hclient] at h
      obtain ⟨rfl, -⟩ := Effect.persist.inj h
      dsimp only at hc
      rw [Record.get?_modify, if_pos rfl, hclient] at hc
      rw [← Option.some.inj hc]
      exact isSet_of_pos hnow
  | none =>
      have hclients : live'.state.clients = live.state.clients := by
        rw [revokeClient] at h
        dsimp only at h
        split at h
        · cases h
        · rename_i hslot
          rw [Realm.get?_of_slot_eq_own hslot] at hclient
          cases hclient
        · split at h
          · cases h
          · obtain ⟨rfl, -⟩ := Effect.persist.inj h
            rfl
      rw [hclients, hclient] at hc
      cases hc

theorem revokeAllClients_dead {now : ℤ} {live live' : Live} {n : ℕ} (hnow : 0 < now)
    (hunmarked : isSet live.realm.revokedAt = false)
    (h : revokeAllClients now live = .persist live' n) (clientId : JsString) :
    ClientDead clientId live'.state := by
  obtain ⟨rfl, -⟩ := Effect.persist.inj h
  intro c hc
  dsimp only at hc
  rw [Record.get?_map, Option.map_eq_some_iff] at hc
  obtain ⟨client, -, rfl⟩ := hc
  split_ifs with hrevoked
  · exact isSet_of_pos hnow
  · rw [← isRevoked_of_unmarked hunmarked]
    simpa using hrevoked

/-- After a revocation the subject is dead in memory and in the file. -/
theorem dead_of_revokes {is : List OAuthInput} {i : OAuthInput} {subject : Subject}
    (hpos : i.Positive) (hunmarked : PrototypeUnmarked ((oauth p env).after is) i)
    (h : Revokes p env is i subject) :
    subject.Dead ((oauth p env).after (is ++ [i])).live.state ∧
      subject.Dead ((oauth p env).after (is ++ [i])).file := by
  rw [Machine.after_concat]
  cases h with
  | @session sessionId now writes h =>
      obtain ⟨found, hfound, hdone | ⟨live', heffect, hstore⟩⟩ := call_returned (by simp) h
      · obtain rfl := OAuthReply.returned.inj hfound
        exact absurd hdone.1 (revokeSession_ne_done _ _ _)
      · obtain rfl := OAuthReply.returned.inj hfound
        have hdead := revokeSession_dead (hpos _ rfl) hunmarked heffect
        simp only [oauth, OAuthInput.step] at hstore ⊢
        rw [hstore]
        exact ⟨hdead, hdead⟩
  | @client clientId now writes h =>
      obtain ⟨found, hfound, hdone | ⟨live', heffect, hstore⟩⟩ := call_returned (by simp) h
      · obtain rfl := OAuthReply.returned.inj hfound
        exact absurd hdone.1 (revokeClient_ne_done _ _ _)
      · obtain rfl := OAuthReply.returned.inj hfound
        have hdead := revokeClient_dead (hpos _ rfl) heffect
        simp only [oauth, OAuthInput.step] at hstore ⊢
        rw [hstore]
        exact ⟨hdead, hdead⟩
  | @allClients clientId now writes h _ =>
      obtain ⟨n, -, hdone | ⟨live', heffect, hstore⟩⟩ := call_returned (by simp) h
      · cases hdone.1
      · have hdead := revokeAllClients_dead (hpos _ rfl) hunmarked heffect clientId
        simp only [oauth, OAuthInput.step] at hstore ⊢
        rw [hstore]
        exact ⟨hdead, hdead⟩

end Returned

/-! ## Revocation is final -/

section Final

variable {p : Platform} {env : OAuthEnv}

/-- What a revocation found was drawn before, or is an inherited key. -/
theorem Revokes.old {pre : List OAuthInput} {i : OAuthInput} {subject : Subject}
    (h : Revokes p env pre i subject) :
    subject.id ∈ drawnNames pre ∨ IsInherited subject.id := by
  have hsound := (sound_after p env pre).1
  rw [or_iff_not_imp_right]
  intro hname
  cases h with
  | @session sessionId now writes h =>
      cases hsession : ((oauth p env).after pre).live.state.sessions.get? sessionId with
      | some x => exact (hsound.sessions _ x hsession).1
      | none =>
          have hslot : ((oauth p env).after pre).live.realm.slot _ sessionId = .absent :=
            Realm.slot_eq_absent hsession hname
          simp [Machine.answer, oauth, OAuthInput.step, Store.call, Store.run,
            revokeSession] at h hslot
          simp [hslot] at h
  | @client clientId now writes h =>
      cases hclient : ((oauth p env).after pre).live.state.clients.get? clientId with
      | some c => exact (hsound.clients _ c hclient).1
      | none =>
          have hslot : ((oauth p env).after pre).live.realm.slot _ clientId = .absent :=
            Realm.slot_eq_absent hclient hname
          simp [Machine.answer, oauth, OAuthInput.step, Store.call, Store.run,
            revokeClient] at h hslot
          simp [hslot] at h
  | allClients _ hdrawn => exact hdrawn

/-- From its revocation on, the subject is dead and its name is not drawn again. -/
theorem dead_later {pre mid : List OAuthInput} {i j : OAuthInput} {subject : Subject}
    (hfresh : Fresh OAuthInput.names (pre ++ i :: mid ++ [j]))
    (hpos : ∀ k ∈ pre ++ i :: mid ++ [j], k.Positive)
    (hunmarked : PrototypeUnmarked ((oauth p env).after pre) i)
    (h : Revokes p env pre i subject) :
    subject.Dead ((oauth p env).after (pre ++ i :: mid)).live.state ∧ subject.id ∉ j.names := by
  have hnotDrawn : ∀ k : OAuthInput, (∀ n ∈ drawnNames (pre ++ [i]), n ∉ k.names) → subject.id ∉ k.names := by
    intro k hnew hk
    rcases h.old with hdrawn | hinherited
    · refine hnew _ ?_ hk
      rw [drawnNames_concat]
      exact List.mem_append_left _ hdrawn
    · exact (OAuthInput.names_spec hk).1 hinherited
  have hrun := prefixClosed_fresh _ _ _ hfresh
  rw [List.append_cons pre i mid] at hrun hfresh hpos ⊢
  refine ⟨(both_after_append hrun ?_ (dead_of_revokes (hpos i (by simp)) hunmarked h)).1, ?_⟩
  · intro k hk hnew s s' he hs
    exact he.dead (hpos k (by simp [hk])) (hnotDrawn k hnew) hs
  · apply hnotDrawn
    intro n hn hj
    refine hfresh.notMem hj ?_
    rw [List.flatMap_append]
    exact List.mem_append_left _ hn

/-- A dead subject gains nothing. -/
theorem barred_of_dead (hlawful : p.Lawful) (hp : p.CollisionFree) {is : List OAuthInput}
    {i : OAuthInput} {subject : Subject} (hfresh : Fresh OAuthInput.names is)
    (hdead : subject.Dead ((oauth p env).after is).live.state) (hold : subject.id ∉ i.names) :
    Barred p env is i subject := by
  have hsound := (sound_after p env is).1
  have hnames : ∀ n ∈ drawnNames is, ¬IsInherited n := fun n => not_isInherited_of_drawn
  have hreply : ¬((oauth p env).answer is i).serves subject :=
    not_serves hsound hnames hdead hold
  refine ⟨hreply, ?_, ?_, ?_⟩
  · rintro input r who rfl hr hcovers htoken hwho
    obtain ⟨accessToken, payload, hparsed, hverify, hclientId, hsessionId⟩ :=
      requireBearer_authorized hwho
    obtain rfl := Option.some.inj (hparsed.symm.trans htoken)
    obtain ⟨pre, issuing, post, rfl, hanswer⟩ := exists_token_of_mem hr
    rw [List.append_cons] at hfresh
    have hissued := (tokens_spec hp ((prefixClosed_fresh _).of_append hfresh) hanswer).1
    rw [hissued] at hverify
    rw [verifyAccessToken_issued hlawful hverify] at hclientId hsessionId
    have hcid : who.oauthClientId = r.clientId := hclientId
    have hsid : who.oauthSessionId = r.sessionId := hsessionId
    rw [hwho, OAuthReply.serves, hcid, hsid] at hreply
    exact hreply hcovers
  · rintro input r r' rfl hgrant hr hcovers hpresented htokens
    have hresult : token p env input ((oauth p env).after is) = (.tokens r', _) :=
      Prod.ext htokens rfl
    rcases token_cases hresult with hidle | ⟨code, htraded⟩ | ⟨session, own, hrotated⟩
    · exact hidle.reply r' rfl
    · exact absurd (htraded.grantType.symm.trans hgrant) (by decide)
    · obtain ⟨hstored, hhash⟩ := findSession_spec hsound hrotated.found
      rw [hpresented] at hhash
      obtain ⟨hsame, hclient⟩ := refreshOwner_of_mem hp hfresh hr _ _ hstored hhash
      obtain ⟨-, rfl⟩ := hrotated.ended r' rfl
      rw [htokens, OAuthReply.serves] at hreply
      refine hreply ?_
      show subject.covers input.clientId session.sessionId
      rw [hsame, ← hrotated.clientId, hclient]
      exact hcovers
  · rintro input clientId rfl rfl hcode
    have howner := codeOwner_of_mem hp hfresh hcode
    have hnotTraded : ∀ code reply store',
        ¬CodeTraded p env input ((oauth p env).after is) code reply store' := by
      intro code reply store' htraded
      have hclient := howner code htraded.stored
      have hmem := (hsound.codes _ _ htraded.stored).1
      have hunusable := clientIsUsable_of_dead hdead (hnames clientId (hclient ▸ hmem))
      rw [← hclient, htraded.clientId] at hunusable
      exact absurd (htraded.usable.symm.trans hunusable) (by simp)
    have hresult : token p env input ((oauth p env).after is) =
        ((oauth p env).answer is (.token input), ((oauth p env).after (is ++ [.token input]))) := by
      rw [Machine.after_concat]
      rfl
    rcases token_cases hresult with hidle | ⟨code, htraded⟩ | ⟨session, own, hrotated⟩
    · refine ⟨fun r _ => hidle.reply r, fun k x hx => ?_⟩
      rw [← hidle.sessions, hx]
      simp
    · exact absurd htraded (hnotTraded _ _ _)
    · refine ⟨?_, ?_⟩
      · intro r hgrant
        exact absurd (hgrant.symm.trans hrotated.grantType) (by decide)
      · intro k x hx
        rw [hrotated.memory] at hx
        dsimp only at hx
        rw [Record.get?_set] at hx
        split_ifs at hx with hk
        · rw [hk, hrotated.stored]
          simp
        · rw [hx]
          simp

theorem revocationIsFinal_of_unmarked (p : Platform) (env : OAuthEnv) (hlawful : p.Lawful)
    (hp : p.CollisionFree) (is : List OAuthInput) (hfresh : Fresh OAuthInput.names is)
    (hpos : ∀ i ∈ is, i.Positive) (hunmarked : (oauth p env).Along PrototypeUnmarked is) :
    RevocationIsFinal p env is := by
  rintro pre i mid j post subject rfl h
  have hsplit : pre ++ i :: mid ++ j :: post = (pre ++ i :: mid ++ [j]) ++ post := by simp
  have hfreshj : Fresh OAuthInput.names (pre ++ i :: mid ++ [j]) := by
    rw [hsplit] at hfresh
    exact (prefixClosed_fresh _).of_append hfresh
  have hposj : ∀ k ∈ pre ++ i :: mid ++ [j], k.Positive := by
    rw [hsplit] at hpos
    exact fun k hk => hpos k (List.mem_append_left _ hk)
  have hunmarkedi : PrototypeUnmarked ((oauth p env).after pre) i :=
    hunmarked pre i (mid ++ j :: post) (by simp)
  obtain ⟨hdead, hold⟩ := dead_later hfreshj hposj hunmarkedi h
  exact barred_of_dead hlawful hp (prefixClosed_fresh _ _ _ hfreshj) hdead hold

end Final

/-! ## A run in which revocation is not final -/

def sampleRevoke : OAuthInput := .revokeSession (js "sess-A") sampleTime true

/-- The session is revoked, and a refresh token of it is presented after a
restart. -/
def revokedRun : List OAuthInput :=
  sampleLogin ++ sampleRevoke :: [.restart sampleTime] ++ sampleRefresh :: []

theorem revocationIsFinal_revokedRun :
    RevocationIsFinal samplePlatform sampleOAuthEnv revokedRun :=
  revocationIsFinal_of_unmarked _ _ samplePlatform_lawful samplePlatform_collisionFree revokedRun
    (by decide +kernel)
    (by
      intro i hi t ht
      simp only [revokedRun, sampleLogin, List.cons_append, List.nil_append, List.mem_cons,
        List.not_mem_nil, or_false] at hi
      rcases hi with rfl | rfl | rfl | rfl | rfl | rfl <;> cases ht
      decide)
    ((Machine.along_iff_alongFrom _ _ _).mpr (by decide +kernel))

/-- The same, but a device called `__proto__` is revoked before. -/
def protoRun : List OAuthInput :=
  (sampleLogin ++ [.revokeDevice (js "__proto__") sampleTime true]) ++
    sampleRevoke :: [.restart sampleTime] ++ sampleRefresh :: []

theorem protoRun_not_final :
    samplePlatform.Lawful ∧ samplePlatform.CollisionFree ∧ Fresh OAuthInput.names protoRun ∧
      (∀ i ∈ protoRun, i.Positive) ∧
        ¬RevocationIsFinal samplePlatform sampleOAuthEnv protoRun := by
  refine ⟨samplePlatform_lawful, samplePlatform_collisionFree, by decide +kernel, ?_, ?_⟩
  · intro i hi t ht
    simp only [protoRun, sampleLogin, List.cons_append, List.nil_append, List.mem_cons,
      List.not_mem_nil, or_false] at hi
    rcases hi with rfl | rfl | rfl | rfl | rfl | rfl | rfl <;> cases ht <;> decide
  · intro hfinal
    have hrevokes : Revokes samplePlatform sampleOAuthEnv
        (sampleLogin ++ [.revokeDevice (js "__proto__") sampleTime true]) sampleRevoke
          (.session (js "sess-A")) :=
      .session (by decide +kernel)
    have hserved : ((oauth samplePlatform sampleOAuthEnv).answer
        ((sampleLogin ++ [.revokeDevice (js "__proto__") sampleTime true]) ++
          sampleRevoke :: [.restart sampleTime]) sampleRefresh).serves (.session (js "sess-A")) := by
      decide +kernel
    exact (hfinal _ _ _ _ _ _ rfl hrevokes).reply hserved

end RemoteOps
