import RemoteOps.DeepHarness.InForce

/-!
# Listing teams

`listTeams` draws up the list of the Leads whose grants let the caller read their teams, and
reads the teams one after the other, each with two lookups of its own. Anything may happen to
the grants in between.

The revision of a listed grant is not compared with the one that its team is read under, and
no grant is looked up once its team was read. So the answer is what is granted if no listed
grant is replaced before its team is read, nor changed after that (`listsGranted_of_undisturbed`).
-/

namespace RemoteOps

open Ecma Transition

/-! ## Model -/

/-- What happens around a call, which looks grants up and asks the backend; these are its
requests, numbered from 0. -/
structure Surroundings where
  before : List GrantInput
  /-- what comes between the `k`th request and the next -/
  meanwhile : ℕ → List GrantInput
  /-- what the backend answers to the `k`th request -/
  team : ℕ → Authority → Option Json

/-- The inputs up to the `k`th request. -/
def Surroundings.inputs (e : Surroundings) : ℕ → List GrantInput
  | 0 => e.before
  | k + 1 => e.inputs k ++ e.meanwhile k

/-- The store that the `k`th request finds. -/
def Surroundings.store (h : HexDigest) (e : Surroundings) (k : ℕ) : GrantStore :=
  ((grantWorld h).after (e.inputs k)).store

/-- `Object.freeze({ ...principal, workspaceId, action: "team.read" })`. -/
def listerInput (principal : Principal) (workspaceId : JsString) : Json :=
  .obj
    [(js "actor", .str principal.actor), (js "clientId", .str principal.clientId),
      (js "sessionId", .str principal.sessionId), (js "workspaceId", .str workspaceId),
      (js "action", .str (js "team.read"))]

/-- `{ workspaceId, leadSessionId }`. -/
def teamInput (workspaceId leadSessionId : JsString) : Json :=
  .obj [(js "workspaceId", .str workspaceId), (js "leadSessionId", .str leadSessionId)]

/-- The input of `listTeams`, which may name the workspace and nothing else. -/
def readWorkspace (input : Json) : Option JsString :=
  match input with
  | .obj members =>
      if members.any fun p => p.1 ≠ js "workspaceId" then none
      else
        match strOf (input.get (js "workspaceId")) with
        | some workspaceId => if validId workspaceId then some workspaceId else none
        | none => none
  | _ => none

def LeadRow.isOk (workspaceId : JsString) (row : LeadRow) : Bool :=
  row.workspaceId = workspaceId && validId row.leadSessionId && validId row.revision

section Calls

variable (h : HexDigest) (e : Surroundings) (trusted : Json)

/-- `readTeam`, whose first lookup is the `k`th request. -/
def readTeam (input : Json) (k : ℕ) : Option Json :=
  match authority h trusted input (js "team.read") (e.store h k) with
  | none => none
  | some auth =>
      match e.team (k + 1) auth with
      | none => none
      | some result => if recheck h auth (e.store h (k + 2)) then some result else none

/-- The loop of `listTeams`, after `n` teams. -/
def readTeams (workspaceId : JsString) : List JsString → ℕ → Option (List Json)
  | [], _ => some []
  | leadSessionId :: leads, n =>
      match readTeam h e trusted (teamInput workspaceId leadSessionId) (3 * n + 1) with
      | none => none
      | some team => (readTeams workspaceId leads (n + 1)).map (team :: ·)

def listTeams (input : Json) : Option (List Json) :=
  match principalOf trusted, readWorkspace input with
  | some principal, some workspaceId =>
      match listCurrentLeadGrants (listerInput principal workspaceId) (e.store h 0) with
      | none => none
      | some rows =>
          let leads := rows.map LeadRow.leadSessionId
          if 1000 < rows.length then none
          else if rows.any fun row => !row.isOk workspaceId then none
          else if ¬leads.Nodup then none
          else readTeams h e trusted workspaceId leads 0
  | _, _ => none

end Calls

/-! ## The property -/

/-- What the caller reads the team of a Lead under. -/
def Principal.teamAuthority (principal : Principal) (row : LeadRow) : Authority :=
  ⟨principal, ⟨row.workspaceId, row.leadSessionId⟩, js "team.read", row.revision⟩

section Property

variable (h : HexDigest) (e : Surroundings) (trusted input : Json)

/-- The list that the call draws up. -/
structure DrawsUp (principal : Principal) (workspaceId : JsString) (rows : List LeadRow) : Prop where
  caller : principalOf trusted = some principal
  workspace : readWorkspace input = some workspaceId
  listed : listCurrentLeadGrants (listerInput principal workspaceId) (e.store h 0) = some rows

/-- The grant of a listed Lead is the same in both stores. -/
def SameGrant (principal : Principal) (row : LeadRow) (s s' : GrantStore) : Prop :=
  ∀ identity, (principal.teamAuthority row).Names identity →
    s.state.grants.get? (identityKey h identity) = s'.state.grants.get? (identityKey h identity)

/-- No listed grant changes, every lookup is served, and the backend answers. -/
structure Serves (principal : Principal) (rows : List LeadRow) : Prop where
  same : ∀ k, k ≤ 3 * rows.length → ∀ row ∈ rows,
    SameGrant h principal row (e.store h k) (e.store h 0)
  served : ∀ k, 1 ≤ k → k ≤ 3 * rows.length → (e.store h k).faulted = false
  answered : ∀ n row, rows[n]? = some row →
    (e.team (3 * n + 2) (principal.teamAuthority row)).isSome = true

/-- The last lookup of the call is request `3 * rows.length`. -/
structure ListsGranted : Prop where
  current : ∀ principal workspaceId rows teams,
    DrawsUp h e trusted input principal workspaceId rows → listTeams h e trusted input = some teams →
      List.Forall₂ (fun row _ => Holds h (principal.teamAuthority row)
        (e.store h (3 * rows.length))) rows teams
  complete : ∀ principal workspaceId rows,
    DrawsUp h e trusted input principal workspaceId rows → Serves h e principal rows →
      ∃ teams, listTeams h e trusted input = some teams ∧
        teams.map some = rows.mapIdx fun n row => e.team (3 * n + 2) (principal.teamAuthority row)

/-- A listed grant is not replaced by one that allows as much before its team is read, and not
changed between its own second lookup and the last lookup of the call. -/
structure UndisturbedGrants (principal : Principal) (rows : List LeadRow) : Prop where
  asListed : ∀ n row, rows[n]? = some row → ∀ auth,
    authority h trusted (teamInput row.workspaceId row.leadSessionId) (js "team.read")
      (e.store h (3 * n + 1)) = some auth → auth.revision = row.revision
  kept : ∀ n row, rows[n]? = some row →
    SameGrant h principal row (e.store h (3 * rows.length)) (e.store h (3 * n + 3))

end Property

variable {h : HexDigest} {e : Surroundings} {trusted input : Json} {principal : Principal}
  {workspaceId : JsString} {rows : List LeadRow}

/-! ## Lookups -/

/-- The store finds a grant that it has. -/
theorem lookup_of_holds {auth : Authority} {s : GrantStore} (hserved : s.faulted = false)
    {identity : IdentityFields} {g : Grant} (hnames : auth.Names identity)
    (hget : s.state.grants.get? (identityKey h identity) = some g)
    (hforce : g.InForce identity auth.action auth.revision) :
    lookupCurrentGrant h (lookupInput auth.principal auth.scope) s =
      some (some ⟨g.identity, g.actions, g.revision⟩) := by
  have hinput : lookupInput auth.principal auth.scope = .obj (g.identity.members ++ []) := by
    rw [lookupInput, IdentityFields.members, hforce.identity, hnames.actor, hnames.clientId,
      hnames.sessionId, hnames.workspaceId, hnames.leadSessionId]
    rfl
  have hkey : s.state.grants.get? (identityKey h g.identity.toIdentityFields) = some g := by
    rw [hforce.identity]
    exact hget
  rw [lookupCurrentGrant, if_neg (by simp [hserved]), hinput, identityOf_members]
  dsimp only
  rw [hkey]
  dsimp only
  rw [if_neg (by simp [hforce.live])]

theorem matches_of_inForce {auth : Authority} {identity : IdentityFields} {g : Grant}
    (hnames : auth.Names identity) (hforce : g.InForce identity auth.action auth.revision) :
    Matches ⟨g.identity, g.actions, g.revision⟩ auth.principal auth.scope auth.action := by
  have hvalid := g.actionsValid
  rw [validActions, Bool.and_eq_true, Bool.and_eq_true, List.all_eq_true] at hvalid
  have hfields := hforce.identity
  refine ⟨?_, ?_, ?_, ?_, ?_, hforce.action, fun a ha => of_decide_eq_true (hvalid.1.2 a ha),
    g.revisionValid⟩
  · rw [← hnames.actor, ← hfields]
  · rw [← hnames.clientId, ← hfields]
  · rw [← hnames.sessionId, ← hfields]
  · rw [← hnames.workspaceId, ← hfields]
  · rw [← hnames.leadSessionId, ← hfields]

theorem recheck_of_holds {auth : Authority} {s : GrantStore} (hserved : s.faulted = false)
    (hholds : Holds h auth s) : recheck h auth s = true := by
  obtain ⟨identity, g, hnames, hget, hforce⟩ := hholds
  rw [recheck, lookup_of_holds hserved hnames hget hforce]
  dsimp only
  rw [validateGrant]
  dsimp only
  rw [if_pos (matches_of_inForce hnames hforce)]
  exact decide_eq_true hforce.revision

theorem authority_of_holds {auth : Authority} {s : GrantStore} (hserved : s.faulted = false)
    (hcaller : principalOf trusted = some auth.principal) (hscope : scopeOf input = some auth.scope)
    (hholds : Holds h auth s) : authority h trusted input auth.action s = some auth := by
  obtain ⟨identity, g, hnames, hget, hforce⟩ := hholds
  rw [authority, hcaller, hscope]
  simp only [Option.bind_eq_bind, Option.bind_some]
  rw [lookup_of_holds hserved hnames hget hforce, Option.bind_some, validateGrant]
  dsimp only
  rw [if_pos (matches_of_inForce hnames hforce), hforce.revision]

/-- What a lookup finds is the grant that the store has. -/
theorem Holds.eq_of_authority {auth found : Authority} {s : GrantStore} (hholds : Holds h auth s)
    (hprincipal : found.principal = auth.principal) (hscope : found.scope = auth.scope)
    (hfound : Holds h found s) : found.revision = auth.revision := by
  obtain ⟨identity, g, hnames, hget, hforce⟩ := hholds
  obtain ⟨identity', g', hnames', hget', hforce'⟩ := hfound
  have hnames'' : auth.Names identity' := by
    obtain ⟨h1, h2, h3, h4, h5⟩ := hnames'
    rw [hprincipal] at h1 h2 h3
    rw [hscope] at h4 h5
    exact ⟨h1, h2, h3, h4, h5⟩
  obtain rfl := hnames.unique hnames''
  obtain rfl := Option.some.inj (hget.symm.trans hget')
  exact hforce'.revision.symm.trans hforce.revision

theorem Holds.of_same {row : LeadRow} {s s' : GrantStore} (hsame : SameGrant h principal row s s')
    (hholds : Holds h (principal.teamAuthority row) s') :
    Holds h (principal.teamAuthority row) s := by
  obtain ⟨identity, g, hnames, hget, hforce⟩ := hholds
  exact ⟨identity, g, hnames, (hsame identity hnames).trans hget, hforce⟩

/-! ## The list -/

def Grant.isListed (principal : Principal) (workspaceId : JsString) (g : Grant) : Bool :=
  g.revokedAt.isNone && g.identity.actor = principal.actor &&
    g.identity.clientId = principal.clientId && g.identity.sessionId = principal.sessionId &&
      g.identity.workspaceId = workspaceId && g.actions.contains (js "team.read")

def Grant.row (g : Grant) : LeadRow :=
  ⟨g.identity.workspaceId, g.identity.leadSessionId, g.revision⟩

theorem listed_eq {s : GrantStore}
    (hlisted : listCurrentLeadGrants (listerInput principal workspaceId) s = some rows) :
    rows = (s.state.grants.values.filter (Grant.isListed principal workspaceId)).map Grant.row := by
  have hlister : readLister (listerInput principal workspaceId) =
      if validId principal.actor ∧ validId principal.clientId ∧ validId principal.sessionId ∧
          validId workspaceId ∧ principal.actor = oauthActor principal.clientId principal.sessionId ∧
            some (js "team.read") = some (js "team.read") then
        some (principal.actor, principal.clientId, principal.sessionId, workspaceId)
      else none := rfl
  rw [listCurrentLeadGrants, hlister] at hlisted
  split at hlisted
  · cases hlisted
  · next heq =>
      split at heq
      · cases heq
        exact (Option.some.inj hlisted).symm
      · cases heq

/-- A listed grant is in force. -/
theorem holds_of_listed {is : List GrantInput} (hlisted : listCurrentLeadGrants
      (listerInput principal workspaceId) ((grantWorld h).after is).store = some rows)
    {row : LeadRow} (hrow : row ∈ rows) :
    row.isOk workspaceId = true ∧
      Holds h (principal.teamAuthority row) ((grantWorld h).after is).store := by
  rw [listed_eq hlisted] at hrow
  obtain ⟨g, hg, rfl⟩ := List.mem_map.mp hrow
  obtain ⟨hmem, htest⟩ := List.mem_filter.mp hg
  obtain ⟨k, hget⟩ := Record.mem_values.mp hmem
  rw [((tended_after h is).memory k g hget).key] at hget
  simp only [Grant.isListed, Bool.and_eq_true, decide_eq_true_eq, Option.isNone_iff_eq_none,
    List.contains_iff_mem] at htest
  obtain ⟨⟨⟨⟨⟨hlive, hactor⟩, hclient⟩, hsession⟩, hworkspace⟩, haction⟩ := htest
  have hvalid := g.identity.valid
  simp only [Bool.and_eq_true] at hvalid
  constructor
  · simp [LeadRow.isOk, Grant.row, hworkspace, hvalid.2, g.revisionValid]
  · exact ⟨_, g, ⟨hactor, hclient, hsession, rfl, rfl⟩, hget, rfl, hlive, haction, rfl⟩

theorem length_listed {is : List GrantInput} (hlisted : listCurrentLeadGrants
      (listerInput principal workspaceId) ((grantWorld h).after is).store = some rows) :
    rows.length ≤ 1000 := by
  rw [listed_eq hlisted, List.length_map]
  have hcount := (steady_after h is).memory.grants.count
  calc _ ≤ ((grantWorld h).after is).store.state.grants.values.length := List.length_filter_le _ _
    _ = ((grantWorld h).after is).store.state.grants.size := List.length_map ..
    _ ≤ maxGrants := hcount

/-- A caller has one grant for each Lead, since grants stand under the keys of their
identities. -/
theorem nodup_listed {is : List GrantInput} (hlisted : listCurrentLeadGrants
      (listerInput principal workspaceId) ((grantWorld h).after is).store = some rows) :
    (rows.map LeadRow.leadSessionId).Nodup := by
  have hnamed := (tended_after h is).memory
  generalize ((grantWorld h).after is).store = s at hlisted hnamed
  have hleads : rows.map LeadRow.leadSessionId =
      (s.state.grants.props.filter fun p => p.2.isListed principal workspaceId).map
        fun p => p.2.identity.leadSessionId := by
    rw [listed_eq hlisted, Record.values, List.filter_map, List.map_map, List.map_map]
    rfl
  rw [hleads]
  refine List.Nodup.map_on ?_ (s.state.grants.keys_nodup.of_map.filter _)
  rintro ⟨k, g⟩ hg ⟨k', g'⟩ hg' hlead
  obtain ⟨hmem, htest⟩ := List.mem_filter.mp hg
  obtain ⟨hmem', htest'⟩ := List.mem_filter.mp hg'
  have hget : s.state.grants.get? k = some g := Record.mem_entries.mp hmem
  have hget' : s.state.grants.get? k' = some g' := Record.mem_entries.mp hmem'
  simp only [Grant.isListed, Bool.and_eq_true, decide_eq_true_eq] at htest htest'
  obtain ⟨⟨⟨⟨⟨-, hactor⟩, hclient⟩, hsession⟩, hworkspace⟩, -⟩ := htest
  obtain ⟨⟨⟨⟨⟨-, hactor'⟩, hclient'⟩, hsession'⟩, hworkspace'⟩, -⟩ := htest'
  have hkey : k = k' := by
    rw [(hnamed k g hget).key, (hnamed k' g' hget').key, identityKey, identityKey, hactor, hclient,
      hsession, hworkspace, hactor', hclient', hsession', hworkspace', hlead]
  rw [hkey] at hget
  rw [hkey, Option.some.inj (hget.symm.trans hget')]

/-! ## The loop -/

/-- A team that is read was granted at both lookups. -/
theorem holds_of_readTeam {k : ℕ} {team : Json} (hread : readTeam h e trusted input k = some team) :
    ∃ auth, authority h trusted input (js "team.read") (e.store h k) = some auth ∧
      Holds h auth (e.store h (k + 2)) := by
  unfold readTeam at hread
  cases hauth : authority h trusted input (js "team.read") (e.store h k) with
  | none =>
      rw [hauth] at hread
      cases hread
  | some auth =>
      rw [hauth] at hread
      dsimp only at hread
      cases hteam : e.team (k + 1) auth with
      | none =>
          rw [hteam] at hread
          cases hread
      | some result =>
          rw [hteam] at hread
          dsimp only at hread
          split at hread
          · next hrecheck => exact ⟨auth, rfl, holds_of_recheck hrecheck⟩
          · cases hread

theorem readTeam_of_holds {auth : Authority} {k : ℕ} {team : Json}
    (hcaller : principalOf trusted = some auth.principal) (hscope : scopeOf input = some auth.scope)
    (haction : auth.action = js "team.read") (hserved : (e.store h k).faulted = false)
    (hholds : Holds h auth (e.store h k)) (hteam : e.team (k + 1) auth = some team)
    (hserved' : (e.store h (k + 2)).faulted = false) (hholds' : Holds h auth (e.store h (k + 2))) :
    readTeam h e trusted input k = some team := by
  rw [readTeam, ← haction, authority_of_holds hserved hcaller hscope hholds]
  dsimp only
  rw [hteam]
  dsimp only
  rw [if_pos (recheck_of_holds hserved' hholds')]

/-- The loop reads the team of each Lead in turn. -/
theorem forall₂_of_readTeams {R : LeadRow → Json → Prop} {n : ℕ} {teams : List Json}
    (hread : readTeams h e trusted workspaceId (rows.map LeadRow.leadSessionId) n = some teams)
    (hteam : ∀ i row team, rows[i]? = some row →
      readTeam h e trusted (teamInput workspaceId row.leadSessionId) (3 * (n + i) + 1) = some team →
        R row team) :
    List.Forall₂ R rows teams := by
  induction rows generalizing n teams with
  | nil =>
      obtain rfl := Option.some.inj hread
      exact List.Forall₂.nil
  | cons row rows ih =>
      rw [List.map_cons, readTeams] at hread
      cases hfirst : readTeam h e trusted (teamInput workspaceId row.leadSessionId)
          (3 * n + 1) with
      | none =>
          rw [hfirst] at hread
          cases hread
      | some team =>
          rw [hfirst] at hread
          obtain ⟨rest, hrest, rfl⟩ := Option.map_eq_some_iff.mp hread
          refine List.Forall₂.cons (hteam 0 row team rfl hfirst) (ih hrest ?_)
          intro i row' team' hrow' hteam'
          refine hteam (i + 1) row' team' hrow' ?_
          rw [show n + (i + 1) = n + 1 + i by omega]
          exact hteam'

theorem readTeams_of_forall (n : ℕ) (answer : ℕ → LeadRow → Option Json)
    (hanswer : ∀ i row, rows[i]? = some row → ∃ team, answer (n + i) row = some team ∧
      readTeam h e trusted (teamInput workspaceId row.leadSessionId) (3 * (n + i) + 1) =
        some team) :
    ∃ teams, readTeams h e trusted workspaceId (rows.map LeadRow.leadSessionId) n = some teams ∧
      teams.map some = rows.mapIdx fun i row => answer (n + i) row := by
  induction rows generalizing n with
  | nil => exact ⟨[], rfl, rfl⟩
  | cons row rows ih =>
      obtain ⟨team, hteam, hfirst⟩ := hanswer 0 row rfl
      obtain ⟨teams, hread, hteams⟩ := ih (n + 1) fun i row' hrow' => by
        have hnext := hanswer (i + 1) row' hrow'
        rw [show n + (i + 1) = n + 1 + i by omega] at hnext
        exact hnext
      refine ⟨team :: teams, ?_, ?_⟩
      · rw [List.map_cons, readTeams, show 3 * n + 1 = 3 * (n + 0) + 1 from rfl, hfirst]
        dsimp only
        rw [hread]
        rfl
      · rw [List.map_cons, List.mapIdx_cons, hteams, hteam]
        congr 2
        funext i row'
        rw [show n + 1 + i = n + (i + 1) by omega]

/-! ## Calls -/

/-- What a call that answers has done. -/
theorem readTeams_of_listTeams {teams : List Json}
    (hdraws : DrawsUp h e trusted input principal workspaceId rows)
    (hteams : listTeams h e trusted input = some teams) :
    (∀ row ∈ rows, row.isOk workspaceId = true) ∧
      readTeams h e trusted workspaceId (rows.map LeadRow.leadSessionId) 0 = some teams := by
  rw [listTeams, hdraws.caller, hdraws.workspace] at hteams
  dsimp only at hteams
  rw [hdraws.listed] at hteams
  dsimp only at hteams
  split_ifs at hteams with hmany hbad hdouble
  refine ⟨fun row hrow => ?_, hteams⟩
  rw [List.any_eq_true, not_exists] at hbad
  have hok := hbad row
  rw [not_and, Bool.not_eq_true'] at hok
  simpa using hok hrow

theorem scopeOf_teamInput {row : LeadRow} (hvalid : validId workspaceId = true)
    (hok : row.isOk workspaceId = true) :
    scopeOf (teamInput workspaceId row.leadSessionId) =
      some ⟨row.workspaceId, row.leadSessionId⟩ := by
  simp only [LeadRow.isOk, Bool.and_eq_true, decide_eq_true_eq] at hok
  obtain ⟨⟨hworkspace, hlead⟩, -⟩ := hok
  have hscope : scopeOf (teamInput workspaceId row.leadSessionId) =
      if validId workspaceId ∧ validId row.leadSessionId then
        some ⟨workspaceId, row.leadSessionId⟩
      else none := rfl
  rw [hscope, if_pos ⟨hvalid, hlead⟩, hworkspace]

/-- A lookup is for the caller and the Lead that it was asked for. -/
theorem eq_of_authority {action : JsString} {s : GrantStore} {auth : Authority}
    (hauth : authority h trusted input action s = some auth) :
    principalOf trusted = some auth.principal ∧ scopeOf input = some auth.scope ∧
      auth.action = action := by
  simp only [authority, Option.bind_eq_bind, Option.bind_eq_some_iff] at hauth
  obtain ⟨principal, hcaller, scope, hscope, found, hlookup, hvalid⟩ := hauth
  obtain ⟨-, rfl, rfl, haction⟩ := holds_of_lookup hlookup hvalid
  exact ⟨hcaller, hscope, haction⟩

theorem validId_of_readWorkspace (h : readWorkspace input = some workspaceId) :
    validId workspaceId = true := by
  unfold readWorkspace at h
  split at h
  · split at h
    · cases h
    · split at h
      · split at h
        · next hvalid =>
            obtain rfl := Option.some.inj h
            exact hvalid
        · cases h
      · cases h
  · cases h

theorem current_of_undisturbed {teams : List Json}
    (hdraws : DrawsUp h e trusted input principal workspaceId rows)
    (hteams : listTeams h e trusted input = some teams)
    (hundisturbed : UndisturbedGrants h e trusted principal rows) :
    List.Forall₂ (fun row _ => Holds h (principal.teamAuthority row)
      (e.store h (3 * rows.length))) rows teams := by
  obtain ⟨hok, hread⟩ := readTeams_of_listTeams hdraws hteams
  refine forall₂_of_readTeams hread fun n row team hrow hteam => ?_
  rw [Nat.zero_add] at hteam
  have hrowOk := hok row (List.mem_of_getElem? hrow)
  obtain ⟨auth, hauth, hholds⟩ := holds_of_readTeam hteam
  obtain ⟨hcaller, hscope, haction⟩ := eq_of_authority hauth
  rw [scopeOf_teamInput (validId_of_readWorkspace hdraws.workspace) hrowOk] at hscope
  rw [hdraws.caller] at hcaller
  have hworkspace : workspaceId = row.workspaceId := by
    simp only [LeadRow.isOk, Bool.and_eq_true, decide_eq_true_eq] at hrowOk
    exact hrowOk.1.1.symm
  rw [hworkspace] at hauth
  have hrevision := hundisturbed.asListed n row hrow auth hauth
  have hsame : auth = principal.teamAuthority row := by
    obtain ⟨principal', scope, action, revision⟩ := auth
    obtain rfl := Option.some.inj hcaller
    obtain rfl := Option.some.inj hscope
    obtain rfl : action = js "team.read" := haction
    obtain rfl : revision = row.revision := hrevision
    rfl
  rw [hsame] at hholds
  exact hholds.of_same (hundisturbed.kept n row hrow)

/-- If everything is served, the call answers. -/
theorem listTeams_of_serves (hdraws : DrawsUp h e trusted input principal workspaceId rows)
    (hserves : Serves h e principal rows) :
    ∃ teams, listTeams h e trusted input = some teams ∧
      teams.map some = rows.mapIdx fun n row => e.team (3 * n + 2) (principal.teamAuthority row) := by
  have hrows : ∀ row ∈ rows, row.isOk workspaceId = true ∧
      Holds h (principal.teamAuthority row) (e.store h 0) := fun row hrow =>
    holds_of_listed hdraws.listed hrow
  have hbad : ¬(rows.any fun row => !row.isOk workspaceId) = true := by
    rw [List.any_eq_true, not_exists]
    rintro row ⟨hrow, hbad⟩
    rw [(hrows row hrow).1] at hbad
    cases hbad
  rw [listTeams, hdraws.caller, hdraws.workspace]
  dsimp only
  rw [hdraws.listed]
  dsimp only
  rw [if_neg (not_lt.mpr (length_listed hdraws.listed)), if_neg hbad,
    if_neg (not_not.mpr (nodup_listed hdraws.listed))]
  have hteams : ∀ n row, rows[n]? = some row → ∃ team,
      e.team (3 * (0 + n) + 2) (principal.teamAuthority row) = some team ∧
        readTeam h e trusted (teamInput workspaceId row.leadSessionId) (3 * (0 + n) + 1) =
          some team := fun n row hrow => by
      rw [Nat.zero_add]
      have hmem := List.mem_of_getElem? hrow
      have hn : n < rows.length := (List.getElem?_eq_some_iff.mp hrow).1
      obtain ⟨team, hteam⟩ := Option.isSome_iff_exists.mp (hserves.answered n row hrow)
      have hholds : ∀ k, k ≤ 3 * rows.length →
          Holds h (principal.teamAuthority row) (e.store h k) := fun k hk =>
        (hrows row hmem).2.of_same (hserves.same k hk row hmem)
      refine ⟨team, hteam, readTeam_of_holds hdraws.caller ?_ rfl (hserves.served _ ?_ ?_)
        (hholds _ ?_) hteam (hserves.served _ ?_ ?_) (hholds _ ?_)⟩
      · exact scopeOf_teamInput (validId_of_readWorkspace hdraws.workspace) (hrows row hmem).1
      all_goals omega
  have hread := readTeams_of_forall 0
    (fun n row => e.team (3 * n + 2) (principal.teamAuthority row)) hteams
  simpa only [Nat.zero_add] using hread

/-- It is enough that no listed grant changes while the call goes on. -/
theorem undisturbed_of_same (hdraws : DrawsUp h e trusted input principal workspaceId rows)
    (hsame : ∀ k, k ≤ 3 * rows.length → ∀ row ∈ rows,
      SameGrant h principal row (e.store h k) (e.store h 0)) :
    UndisturbedGrants h e trusted principal rows := by
  constructor
  · intro n row hrow auth hauth
    have hmem := List.mem_of_getElem? hrow
    have hn : n < rows.length := (List.getElem?_eq_some_iff.mp hrow).1
    obtain ⟨hok, hholds⟩ := holds_of_listed hdraws.listed hmem
    obtain ⟨hcaller, hscope, -⟩ := eq_of_authority hauth
    have hworkspace : workspaceId = row.workspaceId := by
      simp only [LeadRow.isOk, Bool.and_eq_true, decide_eq_true_eq] at hok
      exact hok.1.1.symm
    rw [hdraws.caller] at hcaller
    rw [← hworkspace, scopeOf_teamInput (validId_of_readWorkspace hdraws.workspace) hok] at hscope
    have hnow := Holds.of_same (hsame (3 * n + 1) (by omega) row hmem) hholds
    exact hnow.eq_of_authority (Option.some.inj hcaller).symm (Option.some.inj hscope).symm
      (holds_of_authority hauth).1
  · intro n row hrow identity hnames
    have hmem := List.mem_of_getElem? hrow
    have hn : n < rows.length := (List.getElem?_eq_some_iff.mp hrow).1
    have hlast := hsame (3 * rows.length) le_rfl row hmem identity hnames
    exact hlast.trans (hsame (3 * n + 3) (by omega) row hmem identity hnames).symm

/-- The answer of `listTeams` is what is granted at its last lookup. -/
theorem listsGranted_of_undisturbed (h : HexDigest) (e : Surroundings) (trusted input : Json)
    (hundisturbed : ∀ principal workspaceId rows,
      DrawsUp h e trusted input principal workspaceId rows →
        UndisturbedGrants h e trusted principal rows) :
    ListsGranted h e trusted input where
  current principal workspaceId rows _ hdraws hteams :=
    current_of_undisturbed hdraws hteams (hundisturbed principal workspaceId rows hdraws)
  complete _ _ _ hdraws hserves := listTeams_of_serves hdraws hserves

/-! ## A grant revoked after its read -/

/-- A digest that tells texts of even length from the others. -/
def parityDigest : HexDigest where
  hash text :=
    if text.length % 2 = 0 then sampleHash
    else js "b4c5f1f3f46cf4e0e0a1a5bb5ed2be4e5d7ed2df74e1d9f1f2b0a0c1d2e3f405"
  isHash text := by
    split
    · exact isHash_sampleHash
    · decide

theorem isUuid_second : isUuid (js "1c1f8b6d-4a8c-4d6a-9b55-3a7e1a4daf22") = true := by decide

theorem isUuid_third : isUuid (js "2d2a9c7e-5b9d-4e7b-8c66-4b8f2b5eba33") = true := by decide

def grantTurn (uuid : Uuid) : GrantInput := .turn { sampleTurn .written with uuid := uuid }

def secondGrantee : Json :=
  .obj (sampleCaller ++
    [(js "leadSessionId", .str (js "lead2")), (js "actions", .arr [.str (js "team.read")])])

/-- Two Leads are granted. While the backend reads the team of the second, `revoked` says whether
the grant of the first is revoked. -/
def twoLeads (revoked : Bool) : Surroundings where
  before :=
    [.restart .written, .call (.putGrant sampleGrantee), .turn (sampleTurn .written),
      .call (.putGrant secondGrantee), grantTurn ⟨_, isUuid_second⟩]
  meanwhile k :=
    if k = 5 ∧ revoked then [.call (.revokeGrant sampleGrantee), grantTurn ⟨_, isUuid_third⟩]
    else []
  team _ auth := some (.str auth.scope.leadSessionId)

def workspaceInput : Json := .obj [(js "workspaceId", .str (js "workspace"))]

def sampleRows : List LeadRow :=
  [⟨js "workspace", js "lead", js "0b0e7a5c-3f7b-4c59-8a44-2f6d0f3c9e11"⟩,
    ⟨js "workspace", js "lead2", js "1c1f8b6d-4a8c-4d6a-9b55-3a7e1a4daf22"⟩]

theorem drawsUp_twoLeads (revoked : Bool) :
    DrawsUp parityDigest (twoLeads revoked) (.obj sampleCaller) workspaceInput
      ⟨js "oauth:client:session", js "client", js "session"⟩ (js "workspace") sampleRows where
  caller := by decide +kernel
  workspace := by decide +kernel
  listed := by
    change listCurrentLeadGrants _ ((grantWorld parityDigest).after (twoLeads true).before).store = _
    decide +kernel

theorem listsGranted_twoLeads :
    ListsGranted parityDigest (twoLeads false) (.obj sampleCaller) workspaceInput ∧
      (listTeams parityDigest (twoLeads false) (.obj sampleCaller) workspaceInput).map
        List.length = some 2 := by
  constructor
  · refine listsGranted_of_undisturbed _ _ _ _ fun principal workspaceId rows hdraws =>
      undisturbed_of_same hdraws fun k _ row _ identity _ => ?_
    have hquiet : ∀ k, (twoLeads false).inputs k = (twoLeads false).inputs 0 := by
      intro k
      induction k with
      | zero => rfl
      | succ k ih =>
          have hnothing : (twoLeads false).meanwhile k = [] := if_neg (by simp)
          change (twoLeads false).inputs k ++ (twoLeads false).meanwhile k = _
          rw [hnothing, List.append_nil, ih]
    have hstore : (twoLeads false).store parityDigest k = (twoLeads false).store parityDigest 0 :=
      congrArg (fun is => ((grantWorld parityDigest).after is).store) (hquiet k)
    rw [hstore]
  · decide +kernel

/-- The team of the first Lead is in the answer, although its grant is revoked. -/
theorem revokedLead_listed :
    ¬ListsGranted parityDigest (twoLeads true) (.obj sampleCaller) workspaceInput := by
  intro hgranted
  have hanswers : (listTeams parityDigest (twoLeads true) (.obj sampleCaller)
      workspaceInput).isSome = true := by decide +kernel
  obtain ⟨teams, hteams⟩ := Option.isSome_iff_exists.mp hanswers
  have hcurrent := hgranted.current _ _ _ teams (drawsUp_twoLeads true) hteams
  rw [show 3 * sampleRows.length = 6 from rfl, sampleRows,
    List.forall₂_cons_left_iff] at hcurrent
  obtain ⟨team, rest, ⟨identity, g, hnames, hget, hforce⟩, -, -⟩ := hcurrent
  have hrevoked : ((twoLeads true).store parityDigest 6).state.grants.values.all (fun g =>
      g.identity.leadSessionId ≠ js "lead" || g.revokedAt.isSome) = true := by decide +kernel
  have hg := List.all_eq_true.mp hrevoked g (Record.mem_values.mpr ⟨_, hget⟩)
  have hlead : g.identity.leadSessionId = js "lead" := by
    rw [hforce.identity]
    exact hnames.leadSessionId
  rw [hlead, hforce.live] at hg
  simp at hg

end RemoteOps
