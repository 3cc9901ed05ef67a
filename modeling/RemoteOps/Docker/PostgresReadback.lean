import RemoteOps.Docker.ReadProxy
import RemoteOps.Ecma.Lines
import RemoteOps.Ecma.Record

/-!
# The pinned PostgreSQL readback

The proxy runs `psql` with a text whose hash is on an allowlist. The text is not run as it is:
two directives of the client are removed line by line, and what is left goes into a read-only
transaction. `pinnedSqlRuns_iff` says for which texts nothing else changes.
-/

namespace RemoteOps

open Ecma

/-! ## Model -/

structure PostgresPinnedReadbackPayload where
  verifierId : JsString
  sql : JsString
  deriving DecidableEq

structure PostgresPinnedReadbackConfig where
  container : JsString
  execUser : JsString
  dbUser : JsString
  dbName : JsString
  verifiers : List (JsString × JsString)

structure PostgresPinnedReadbackExec where
  verifierId : JsString
  sha256 : JsString
  container : JsString
  execUser : JsString
  env : List JsString
  cmd : List JsString
  deriving DecidableEq

/-- `^[a-z0-9][a-z0-9_.-]{1,79}$`. -/
def isVerifierId (s : JsString) : Bool :=
  matchesHeadTail (fun u => isLower u || isDigit u)
    (fun u => isLower u || isDigit u || isOneOf "_.-" u) 1 79 s

/-- `^[a-f0-9]{64}$`. -/
def isSha256 (s : JsString) : Bool := matchesClass isLowerHex 64 64 s

/-- `^[A-Za-z_][A-Za-z0-9_.-]{0,79}$`. -/
def isSafeName (s : JsString) : Bool :=
  matchesHeadTail (fun u => isLower u || isUpper u || isOneOf "_" u)
    (fun u => isAlnum u || isOneOf "_.-" u) 0 79 s

def parseVerifierEntry (entry : JsString) : Except JsString (JsString × JsString) :=
  let sign := entry.idxOf (unit '=')
  if sign = 0 || entry.length ≤ sign + 1 then .error (js "invalid_postgres_verifier_allowlist")
  else
    let verifierId := trim (entry.take sign)
    let sha256 := asciiLower (trim (entry.drop (sign + 1)))
    if !isVerifierId verifierId || !isSha256 sha256 then
      .error (js "invalid_postgres_verifier_allowlist")
    else .ok (verifierId, sha256)

def addVerifier (out : List (JsString × JsString)) (entry : JsString) :
    Except JsString (List (JsString × JsString)) := do
  let verifier ← parseVerifierEntry entry
  if (lookup verifier.1 out).isSome then .error (js "duplicate_postgres_verifier_id")
  else return out ++ [verifier]

def parsePostgresVerifierAllowlist (raw : JsString) : Except JsString (List (JsString × JsString)) :=
  (((splitUnit (unit ',') raw).map trim).filter fun x => x ≠ []).foldlM addVerifier []

/-- `String(raw[key] ?? "")`, which throws on `null` and on what has no primitive form. -/
def payloadText (raw : Json) (key : String) : Except JsString JsString :=
  match raw with
  | .null => .error (js "Cannot read properties of null (reading '" ++ js key ++ js "')")
  | raw =>
      match strOrEmpty (raw.get (js key)) with
      | some s => .ok s
      | none => .error (js "Cannot convert object to primitive value")

def normalizePostgresPinnedReadbackPayload (raw : Json) :
    Except JsString PostgresPinnedReadbackPayload := do
  let verifierId ← payloadText raw "verifierId"
  let sql ← payloadText raw "sql"
  if !isVerifierId verifierId then .error (js "invalid_postgres_verifier_id")
  else if sql.length = 0 || 128 * 1024 < utf8Length sql || sql.contains 0 then
    .error (js "invalid_postgres_verifier_sql")
  else return ⟨verifierId, sql⟩

def approvedDirectives : List JsString := [js "\\set ON_ERROR_STOP on", js "\\pset pager off"]

def isMetaCommand (line : JsString) : Bool := startsWith (trim line) (js "\\")

/-- The lines that the loop pushes. -/
def linesToRun : List JsString → Except JsString (List JsString)
  | [] => .ok []
  | line :: lines =>
      if !isMetaCommand line then do return line :: (← linesToRun lines)
      else if approvedDirectives.contains (trim line) then linesToRun lines
      else .error (js "unsupported_postgres_meta_command")

def postgresSqlAfterApprovedMetaCommands (sql : JsString) : Except JsString JsString := do
  return join (js "\n") (← linesToRun (splitLines sql))

def requireSafeName (value label : JsString) : Except JsString JsString :=
  if isSafeName value then .ok value else .error (js "invalid_" ++ label)

def readOnlyTransaction (sql : JsString) : JsString :=
  js "BEGIN TRANSACTION READ ONLY;\n" ++ sql ++ js "\nROLLBACK;\n"

def readbackEnv : List JsString :=
  [js "PGAPPNAME=wandora-postgres-pinned-readback", js "PGCONNECT_TIMEOUT=5",
    js ("PGOPTIONS=-c default_transaction_read_only=on -c statement_timeout=20000 " ++
      "-c lock_timeout=3000")]

def buildPostgresPinnedReadbackExec (p : Platform) (config : PostgresPinnedReadbackConfig)
    (payload : PostgresPinnedReadbackPayload) : Except JsString PostgresPinnedReadbackExec :=
  let expected := (lookup payload.verifierId config.verifiers).getD []
  let sha256 := p.digest payload.sql
  if expected = [] then .error (js "postgres_verifier_not_allowed")
  else if sha256 ≠ expected then .error (js "postgres_verifier_hash_mismatch")
  else do
    let container ← requireSafeName config.container (js "postgres_container")
    let execUser ← requireSafeName config.execUser (js "postgres_exec_user")
    let dbUser ← requireSafeName config.dbUser (js "postgres_db_user")
    let dbName ← requireSafeName config.dbName (js "postgres_db_name")
    let executableSql ← postgresSqlAfterApprovedMetaCommands payload.sql
    return ⟨payload.verifierId, sha256, container, execUser, readbackEnv,
      [js "psql", js "-w", js "-X", js "-v", js "ON_ERROR_STOP=1", js "-U", dbUser, js "-d",
        dbName, js "-c", readOnlyTransaction executableSql]⟩

/-- What the route makes of the body of a request. -/
def postgresReadbackExec (p : Platform) (config : PostgresPinnedReadbackConfig) (raw : Json) :
    Except JsString ExecSpec := do
  let payload ← normalizePostgresPinnedReadbackPayload raw
  let exec ← buildPostgresPinnedReadbackExec p config payload
  return ⟨exec.cmd, some exec.execUser, exec.env⟩

/-! ## What is claimed of a command -/

/-- The lines of a text that are not approved directives, with their endings. -/
def keptLines (sql : JsString) : List TextLine :=
  (textLines sql).filter fun l => !approvedDirectives.contains (trim l.content)

def withoutDirectives (sql : JsString) : JsString := (keptLines sql).flatMap TextLine.text

/-- A command runs the text that was approved. -/
structure PinnedSqlRuns (p : Platform) (config : PostgresPinnedReadbackConfig)
    (payload : PostgresPinnedReadbackPayload) (exec : PostgresPinnedReadbackExec) : Prop where
  pinned : lookup payload.verifierId config.verifiers = some (p.digest payload.sql)
  /-- no other text has the hash on the allowlist -/
  approved : ∀ sql, lookup payload.verifierId config.verifiers = some (p.digest sql) →
    toChars sql = toChars payload.sql
  fixed : ∀ payload' exec', buildPostgresPinnedReadbackExec p config payload' = .ok exec' →
    exec'.container = exec.container ∧ exec'.execUser = exec.execUser ∧ exec'.env = exec.env ∧
      exec'.cmd.dropLast = exec.cmd.dropLast
  noMetaCommand : ∀ word, exec.cmd.getLast? = some word → ∀ line ∈ splitUnit lineFeed word,
    startsWith (line.dropWhile isWhite) (js "\\") = false
  kept : exec.cmd.getLast? = some (readOnlyTransaction (withoutDirectives payload.sql))

/-! ## The allowlist -/

/-- An allowlist as it was parsed. -/
structure WellFormedAllowlist (verifiers : List (JsString × JsString)) : Prop where
  ids : ∀ v ∈ verifiers, isVerifierId v.1 = true
  hashes : ∀ v ∈ verifiers, isSha256 v.2 = true
  distinct : (verifiers.map Prod.fst).Nodup

theorem parseVerifierEntry_ok {entry : JsString} {v : JsString × JsString}
    (h : parseVerifierEntry entry = .ok v) : isVerifierId v.1 = true ∧ isSha256 v.2 = true := by
  unfold parseVerifierEntry at h
  dsimp only at h
  split at h
  · cases h
  · split at h
    · cases h
    · next hvalid =>
        obtain rfl := Except.ok.inj h
        simpa using hvalid

theorem wellFormedAllowlist_add {out out' : List (JsString × JsString)} {entry : JsString}
    (hout : WellFormedAllowlist out) (h : addVerifier out entry = .ok out') :
    WellFormedAllowlist out' := by
  obtain ⟨v, hv, h⟩ := bind_eq_ok h
  obtain ⟨hid, hhash⟩ := parseVerifierEntry_ok hv
  split at h
  · cases h
  · next hnew =>
      obtain rfl := Except.ok.inj h
      rw [lookup_isSome_iff] at hnew
      constructor
      · exact List.forall_mem_append.mpr ⟨hout.ids, List.forall_mem_singleton.mpr hid⟩
      · exact List.forall_mem_append.mpr ⟨hout.hashes, List.forall_mem_singleton.mpr hhash⟩
      · rw [List.map_append, List.map_singleton, List.nodup_append_comm, List.singleton_append,
          List.nodup_cons]
        exact ⟨hnew, hout.distinct⟩

/-- A parsed allowlist has one hash of 64 digits for each of its ids. -/
theorem parsePostgresVerifierAllowlist_ok {raw : JsString} {verifiers : List (JsString × JsString)}
    (h : parsePostgresVerifierAllowlist raw = .ok verifiers) : WellFormedAllowlist verifiers := by
  have hfold : ∀ (entries : List JsString) (out : List (JsString × JsString)),
      WellFormedAllowlist out → entries.foldlM addVerifier out = .ok verifiers →
        WellFormedAllowlist verifiers := by
    intro entries
    induction entries with
    | nil =>
        intro out hout h
        obtain rfl := Except.ok.inj h
        exact hout
    | cons entry entries ih =>
        intro out hout h
        rw [List.foldlM_cons] at h
        obtain ⟨out', hadd, h⟩ := bind_eq_ok h
        exact ih out' (wellFormedAllowlist_add hout hadd) h
  exact hfold _ [] ⟨List.forall_mem_nil _, List.forall_mem_nil _, List.nodup_nil⟩ h

/-! ## The lines that are run -/

theorem head_trim (s : JsString) : (trim s).head? = (s.dropWhile isWhite).head? := by
  rw [trim]
  cases hrest : s.dropWhile isWhite with
  | nil => rfl
  | cons u t =>
      have hu : isWhite u = false := by
        have hhead := List.head?_dropWhile_not isWhite s
        rw [hrest] at hhead
        simpa using hhead
      rw [List.reverse_cons, List.dropWhile_append]
      split
      · rw [List.dropWhile_cons_of_neg (by rw [hu]; exact Bool.false_ne_true)]
        rfl
      · rw [List.reverse_append]
        rfl

theorem startsWith_singleton (s : JsString) (c : CodeUnit) :
    startsWith s [c] = (s.head? == some c) := by
  cases s with
  | nil => rfl
  | cons u s =>
      rw [startsWith, List.isPrefixOf, List.isPrefixOf, Bool.and_true, List.head?_cons,
        Option.some_beq_some, Bool.beq_comm]

theorem js_backslash : js "\\" = [unit '\\'] := by decide

/-- A meta-command begins with a backslash behind blanks. -/
theorem isMetaCommand_eq (line : JsString) :
    isMetaCommand line = startsWith (line.dropWhile isWhite) (js "\\") := by
  rw [isMetaCommand, js_backslash, startsWith_singleton, startsWith_singleton, head_trim]

theorem isMetaCommand_of_approved {line : JsString}
    (h : approvedDirectives.contains (trim line) = true) : isMetaCommand line = true := by
  have hall : (approvedDirectives.all fun d => startsWith d (js "\\")) = true := by decide
  exact List.all_eq_true.mp hall _ (List.contains_iff_mem.mp h)

/-- The loop drops the approved directives and lets no other meta-command through. -/
theorem linesToRun_ok {lines out : List JsString} (h : linesToRun lines = .ok out) :
    out = lines.filter (fun line => !approvedDirectives.contains (trim line)) ∧
      ∀ line ∈ out, isMetaCommand line = false := by
  induction lines generalizing out with
  | nil =>
      obtain rfl := Except.ok.inj h
      exact ⟨rfl, List.forall_mem_nil _⟩
  | cons line lines ih =>
      rw [linesToRun] at h
      by_cases hmeta : isMetaCommand line = true
      · rw [if_neg (by rw [hmeta]; exact Bool.false_ne_true)] at h
        split at h
        · next happroved =>
            rw [List.filter_cons_of_neg (by rw [happroved]; exact Bool.false_ne_true)]
            exact ih h
        · cases h
      · rw [Bool.not_eq_true] at hmeta
        rw [if_pos (by rw [hmeta]; rfl)] at h
        obtain ⟨rest, hrest, h⟩ := bind_eq_ok h
        obtain rfl := Except.ok.inj h
        obtain ⟨heq, hnone⟩ := ih hrest
        have hkept : approvedDirectives.contains (trim line) = false := by
          rw [← Bool.not_eq_true]
          intro happroved
          rw [isMetaCommand_of_approved happroved] at hmeta
          cases hmeta
        rw [List.filter_cons_of_pos (by rw [hkept]; rfl), ← heq]
        exact ⟨rfl, List.forall_mem_cons.mpr ⟨hmeta, hnone⟩⟩

theorem postgresSqlAfterApprovedMetaCommands_ok {sql text : JsString}
    (h : postgresSqlAfterApprovedMetaCommands sql = .ok text) :
    text = join [lineFeed] ((keptLines sql).map TextLine.content) ∧
      ∀ l ∈ keptLines sql, isMetaCommand l.content = false := by
  have hfeed : js "\n" = [lineFeed] := by decide
  obtain ⟨lines, hlines, h⟩ := bind_eq_ok h
  obtain rfl := Except.ok.inj h
  obtain ⟨rfl, hnone⟩ := linesToRun_ok hlines
  rw [splitLines, List.filter_map] at hnone ⊢
  rw [hfeed]
  exact ⟨rfl, fun l hl => hnone _ (List.mem_map_of_mem hl)⟩

theorem readOnlyTransaction_injective : Function.Injective readOnlyTransaction := by
  intro s t h
  rw [readOnlyTransaction, readOnlyTransaction] at h
  exact List.append_cancel_left (List.append_cancel_right h)

/-- The lines of a transaction around lines without line feeds. -/
theorem splitUnit_readOnlyTransaction {lines : List JsString} (h : ∀ l ∈ lines, lineFeed ∉ l) :
    ∀ line ∈ splitUnit lineFeed (readOnlyTransaction (join [lineFeed] lines)),
      line ∈ lines ∨ line ∈ [js "BEGIN TRANSACTION READ ONLY;", [], js "ROLLBACK;"] := by
  have hbegin : js "BEGIN TRANSACTION READ ONLY;\n" =
      js "BEGIN TRANSACTION READ ONLY;" ++ [lineFeed] := by decide
  have hend : js "\nROLLBACK;\n" = lineFeed :: (js "ROLLBACK;" ++ lineFeed :: []) := by decide
  have hnone : lineFeed ∉ js "BEGIN TRANSACTION READ ONLY;" ∧ lineFeed ∉ js "ROLLBACK;" := by
    decide
  have hjoined : ∀ line ∈ splitUnit lineFeed (join [lineFeed] lines), line ∈ lines ∨ line = [] := by
    by_cases hlines : lines = []
    · intro line hline
      rw [hlines] at hline
      exact Or.inr (List.mem_singleton.mp hline)
    · rw [splitUnit_join hlines h]
      exact fun line hline => Or.inl hline
  intro line hline
  rw [readOnlyTransaction, hbegin, hend, List.append_assoc, List.append_assoc,
    List.singleton_append, splitUnit_append hnone.1, splitUnit_append_separator,
    splitUnit_append hnone.2, List.mem_cons, List.mem_append, List.mem_cons] at hline
  obtain rfl | hline | rfl | hline := hline
  · exact Or.inr (by simp)
  · obtain hmem | rfl := hjoined line hline
    · exact Or.inl hmem
    · exact Or.inr (by simp)
  · exact Or.inr (by simp)
  · rw [List.mem_singleton.mp hline]
    exact Or.inr (by simp)

/-! ## The command -/

theorem requireSafeName_ok {value label name : JsString} (h : requireSafeName value label = .ok name) :
    name = value := by
  rw [requireSafeName] at h
  split at h
  · exact (Except.ok.inj h).symm
  · cases h

/-- What a successful build has seen. -/
theorem buildPostgresPinnedReadbackExec_ok {p : Platform} {config : PostgresPinnedReadbackConfig}
    {payload : PostgresPinnedReadbackPayload} {exec : PostgresPinnedReadbackExec}
    (h : buildPostgresPinnedReadbackExec p config payload = .ok exec) :
    lookup payload.verifierId config.verifiers = some (p.digest payload.sql) ∧
      ∃ text, postgresSqlAfterApprovedMetaCommands payload.sql = .ok text ∧
        exec = ⟨payload.verifierId, p.digest payload.sql, config.container, config.execUser,
          readbackEnv, [js "psql", js "-w", js "-X", js "-v", js "ON_ERROR_STOP=1", js "-U",
            config.dbUser, js "-d", config.dbName, js "-c", readOnlyTransaction text]⟩ := by
  unfold buildPostgresPinnedReadbackExec at h
  dsimp only at h
  split at h
  · cases h
  · next hallowed =>
      split at h
      · cases h
      · next hhash =>
          obtain ⟨container, hcontainer, h⟩ := bind_eq_ok h
          obtain ⟨execUser, hexecUser, h⟩ := bind_eq_ok h
          obtain ⟨dbUser, hdbUser, h⟩ := bind_eq_ok h
          obtain ⟨dbName, hdbName, h⟩ := bind_eq_ok h
          obtain ⟨text, htext, h⟩ := bind_eq_ok h
          obtain rfl := Except.ok.inj h
          rw [requireSafeName_ok hcontainer, requireSafeName_ok hexecUser,
            requireSafeName_ok hdbUser, requireSafeName_ok hdbName]
          refine ⟨?_, text, htext, rfl⟩
          cases hlookup : lookup payload.verifierId config.verifiers with
          | none => exact absurd (by rw [hlookup]; rfl) hallowed
          | some expected =>
              rw [hlookup, Option.getD_some, ne_eq, not_not] at hhash
              rw [hhash]

/-- The route runs only a text whose hash is on the allowlist. -/
theorem postgresReadbackExec_ok {p : Platform} {config : PostgresPinnedReadbackConfig} {raw : Json}
    {spec : ExecSpec} (h : postgresReadbackExec p config raw = .ok spec) :
    ∃ payload exec, normalizePostgresPinnedReadbackPayload raw = .ok payload ∧
      lookup payload.verifierId config.verifiers = some (p.digest payload.sql) ∧
      buildPostgresPinnedReadbackExec p config payload = .ok exec ∧
      spec = ⟨exec.cmd, some exec.execUser, exec.env⟩ := by
  obtain ⟨payload, hpayload, h⟩ := bind_eq_ok h
  obtain ⟨exec, hexec, h⟩ := bind_eq_ok h
  obtain rfl := Except.ok.inj h
  exact ⟨payload, exec, hpayload, (buildPostgresPinnedReadbackExec_ok hexec).1, hexec, rfl⟩

/-- What is run is what was approved exactly if every kept line that a kept line follows ends in a
line feed, and the last one ends the text. -/
theorem pinnedSqlRuns_iff {p : Platform} (hp : p.CollisionFree)
    {config : PostgresPinnedReadbackConfig} {payload : PostgresPinnedReadbackPayload}
    {exec : PostgresPinnedReadbackExec}
    (h : buildPostgresPinnedReadbackExec p config payload = .ok exec) :
    PinnedSqlRuns p config payload exec ↔ EndingsAreFeeds (keptLines payload.sql) := by
  obtain ⟨hpinned, text, htext, rfl⟩ := buildPostgresPinnedReadbackExec_ok h
  obtain ⟨rfl, hnone⟩ := postgresSqlAfterApprovedMetaCommands_ok htext
  have hended : Ended (keptLines payload.sql) := ended_filter (ended_textLines payload.sql) _
  rw [← joinsBack_iff hended]
  constructor
  · intro hruns
    exact readOnlyTransaction_injective (Option.some.inj hruns.kept)
  · intro hkept
    constructor
    · exact hpinned
    · intro sql hsql
      rw [hpinned] at hsql
      exact hp.toChars_eq (Option.some.inj hsql).symm
    · intro payload' exec' h'
      obtain ⟨-, text', -, rfl⟩ := buildPostgresPinnedReadbackExec_ok h'
      exact ⟨rfl, rfl, rfl, rfl⟩
    · intro word hword line hline
      obtain rfl := Option.some.inj hword
      have hfeeds : ∀ l ∈ (keptLines payload.sql).map TextLine.content, lineFeed ∉ l := by
        intro content hcontent
        obtain ⟨l, hl, rfl⟩ := List.mem_map.mp hcontent
        exact lineFeed_notMem_textLines _ l (List.mem_of_mem_filter hl)
      rw [← isMetaCommand_eq]
      obtain hmem | hmem := splitUnit_readOnlyTransaction hfeeds line hline
      · obtain ⟨l, hl, rfl⟩ := List.mem_map.mp hmem
        exact hnone l hl
      · have hwrapper : [js "BEGIN TRANSACTION READ ONLY;", [], js "ROLLBACK;"].all
            (fun l => !isMetaCommand l) = true := by decide
        simpa using List.all_eq_true.mp hwrapper line hmem
    · exact congrArg (fun sql => some (readOnlyTransaction sql)) hkept

/-- A platform with the real hash of one text. No other text has it: their hashes begin with a
zero. -/
def hashOf (sql : JsString) (digest : List UInt8) : Platform :=
  { samplePlatform with
    sha256 := fun bytes =>
      if bytes = utf8 sql then ⟨digest.toArray⟩ else ⟨(0 :: bytes.data.toList).toArray⟩ }

theorem hashOf_collisionFree (sql : JsString) {b : UInt8} (hb : b ≠ 0) (digest : List UInt8) :
    (hashOf sql (b :: digest)).CollisionFree := by
  intro bytes bytes' h
  dsimp only [hashOf] at h
  split at h
  · next heq =>
      split at h
      · next heq' => rw [heq, heq']
      · have hdata := congrArg (fun bytes => bytes.data.toList) h
        exact absurd (List.cons.inj hdata).1 hb
  · split at h
    · have hdata := congrArg (fun bytes => bytes.data.toList) h
      exact absurd (List.cons.inj hdata).1.symm hb
    · have hdata := congrArg (fun bytes => bytes.data.toList) h
      exact ByteArray.ext (Array.toList_inj.mp (List.cons.inj hdata).2)

def sampleReadback (hash : JsString) : PostgresPinnedReadbackConfig where
  container := js "supabase-db"
  execUser := js "postgres"
  dbUser := js "postgres"
  dbName := js "postgres"
  verifiers := [(js "core", hash)]

def sampleCommand (hash sql : JsString) : PostgresPinnedReadbackExec where
  verifierId := js "core"
  sha256 := hash
  container := js "supabase-db"
  execUser := js "postgres"
  env := readbackEnv
  cmd := [js "psql", js "-w", js "-X", js "-v", js "ON_ERROR_STOP=1", js "-U", js "postgres",
    js "-d", js "postgres", js "-c", readOnlyTransaction sql]

def verifierSql : JsString := js "\\pset pager off\nSELECT 1;"

def verifierHash : JsString :=
  js "3fc1f7b0fea2dd09e248d124415d2b1a37fae316a2d8be1dee39828a6221f533"

def verifierPlatform : Platform :=
  hashOf verifierSql
    [0x3f, 0xc1, 0xf7, 0xb0, 0xfe, 0xa2, 0xdd, 0x09, 0xe2, 0x48, 0xd1, 0x24, 0x41, 0x5d, 0x2b,
      0x1a, 0x37, 0xfa, 0xe3, 0x16, 0xa2, 0xd8, 0xbe, 0x1d, 0xee, 0x39, 0x82, 0x8a, 0x62, 0x21,
      0xf5, 0x33]

/-- A directive and a query, with line feeds. -/
theorem verifierSql_runs :
    PinnedSqlRuns verifierPlatform (sampleReadback verifierHash) ⟨js "core", verifierSql⟩
      (sampleCommand verifierHash (js "SELECT 1;")) := by
  have hkept : keptLines verifierSql = [⟨js "SELECT 1;", []⟩] := by decide
  apply (pinnedSqlRuns_iff (hashOf_collisionFree _ (by decide) _) (by decide +kernel)).mpr
  rw [hkept]
  exact ⟨rfl, trivial⟩

/-- A literal with a line ending of two units. -/
def crlfSql : JsString := js "SELECT 'a\r\nb';"

def crlfHash : JsString :=
  js "7fa586effa4b4b44a842ba66a6926b3c5cdf7d12ebd4f7635899c563d522a292"

def crlfPlatform : Platform :=
  hashOf crlfSql
    [0x7f, 0xa5, 0x86, 0xef, 0xfa, 0x4b, 0x4b, 0x44, 0xa8, 0x42, 0xba, 0x66, 0xa6, 0x92, 0x6b,
      0x3c, 0x5c, 0xdf, 0x7d, 0x12, 0xeb, 0xd4, 0xf7, 0x63, 0x58, 0x99, 0xc5, 0x63, 0xd5, 0x22,
      0xa2, 0x92]

theorem crlfSql_changed :
    normalizePostgresPinnedReadbackPayload
        (.obj [(js "verifierId", .str (js "core")), (js "sql", .str crlfSql)]) =
      .ok ⟨js "core", crlfSql⟩ ∧
    buildPostgresPinnedReadbackExec crlfPlatform (sampleReadback crlfHash) ⟨js "core", crlfSql⟩ =
      .ok (sampleCommand crlfHash (js "SELECT 'a\nb';")) ∧
    ¬PinnedSqlRuns crlfPlatform (sampleReadback crlfHash) ⟨js "core", crlfSql⟩
      (sampleCommand crlfHash (js "SELECT 'a\nb';")) := by
  refine ⟨by decide +kernel, by decide +kernel, fun h => ?_⟩
  have hkept := readOnlyTransaction_injective (Option.some.inj h.kept)
  revert hkept
  decide

end RemoteOps
