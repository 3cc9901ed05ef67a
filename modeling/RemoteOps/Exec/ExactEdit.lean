import RemoteOps.Ecma.Utf8
import RemoteOps.Exec.WriteRoots

/-!
# When an edit replaces exactly what was asked

An edit decodes the file, splits the text at the old text, joins the pieces with the new one and
encodes the result. For a file that is UTF-8 this is the replacement of bytes; for any other file
every malformed sequence is written back as `U+FFFD`. `editIsExact_iff` says when the bytes come out
as they should, also when a call fails half way: the file must be UTF-8 and its temporary name no
link, or neither count may be the expected one.
-/

namespace RemoteOps

open Ecma Posix Utf8

/-! ## Edits whose calls fail -/

/-- The call of an edit that fails. -/
inductive EditFault where
  | readFails (e : Errno)
  | openFails (e : Errno)
  /-- after so many bytes have been written -/
  | writeFails (e : Errno) (written : ℕ)
  | renameFails (e : Errno)

section Faults

variable (p : Platform) (b : ExecBroker) (fault : Option EditFault)

def failing {α : Type} (e : Errno) : HostAct BrokerError α :=
  Act.inspect fun _ => .error (.system e)

def readUnder (target : List FileName) : HostAct BrokerError ByteArray :=
  match fault with
  | some (.readFails e) => failing e
  | _ => (readFile b.limit target).mapError .system

/-- Write beside the target, then move it there. -/
def writeOverUnder (target : List FileName) (data : ByteArray) : HostAct BrokerError Unit :=
  match fault with
  | some (.openFails e) => failing e
  | some (.writeFails e written) => do
      (writeFile b.limit (tmpPath b.pid target) fun _ => data.extract 0 written).mapError .system
      failing e
  | some (.renameFails e) => do
      (writeFile b.limit (tmpPath b.pid target) fun _ => data).mapError .system
      failing e
  | _ => writeOver b target data

def workspaceEditUnder (args : List (JsString × Json)) : HostAct BrokerError Json := do
  let target ← Act.inspect fun fs => checkedPath b fs (lookup (js "path") args) true
  let (oldText, newText, expected) ← Act.inspect fun _ => editArguments p args
  let current ← readUnder b fault target
  let updated ← Act.inspect fun _ => replaced (bytesText p current) oldText newText expected
  writeOverUnder b fault target (utf8 updated)
  return .obj [(js "path", .str (placeText target)), (js "replacements", countJson expected)]

end Faults

/-- An edit without a failing call is the operation of the broker. -/
theorem workspaceEditUnder_none (p : Platform) (b : ExecBroker) (args : List (JsString × Json)) :
    workspaceEditUnder p b none args = workspaceEdit p b args := rfl

/-! ## What is asked -/

abbrev ReplacementCount : Type := { z : ℤ // 1 ≤ z ∧ z ≤ 100 }

/-- The request carries these texts, in any base64 that the broker admits, and this count. -/
structure EditAsks (p : Platform) (args : List (JsString × Json)) (oldText newText : JsString)
    (expected : ReplacementCount) : Prop where
  old : ∃ h, decodeB64 p (lookup (js "old_b64") args) = .ok ⟨utf8 oldText, h⟩
  new : ∃ h, decodeB64 p (lookup (js "new_b64") args) = .ok ⟨utf8 newText, h⟩
  count : expectedReplacements (lookup (js "expected_replacements") args) = .ok expected

/-- The edit succeeds when the bytes of the old text occur as often as expected; then just these
occurrences have been replaced, and after any failure the file holds what it held. -/
structure EditIsExact (p : Platform) (b : ExecBroker) (fs : HostFiles)
    (args : List (JsString × Json)) (oldText newText : JsString) (expected : ReplacementCount)
    (target : List FileName) (current : ByteArray) : Prop where
  /-- when the temporary file can be opened -/
  succeeds : ∀ l, fs.landing b.limit (tmpPath b.pid target) = .ok l →
    ((∃ reply, (workspaceEdit p b args fs).result = .ok reply) ↔
      (occurrences (utf8 oldText).data.toList current.data.toList : ℤ) = expected.1)
  replaced : ∀ reply, (workspaceEdit p b args fs).result = .ok reply →
    ∃ updated, (workspaceEdit p b args fs).fs.content target = some updated ∧
      updated.data.toList = substituted (utf8 oldText).data.toList (utf8 newText).data.toList
        current.data.toList
  unchanged : ∀ fault e, (workspaceEditUnder p b fault args fs).result = .error e →
    (workspaceEditUnder p b fault args fs).fs.content target = some current

/-- Once the temporary file can be opened: the file is UTF-8, and what is to be written is written
through no link; or the file is not, and the old text occurs in it neither way as often as
expected. -/
def EditIsClear (b : ExecBroker) (fs : HostFiles) (oldText : JsString) (expected : ReplacementCount)
    (target : List FileName) (current : ByteArray) : Prop :=
  ∀ l, fs.landing b.limit (tmpPath b.pid target) = .ok l →
    Valid current.data.toList ∧
        ((occurrences (utf8 oldText).data.toList current.data.toList : ℤ) = expected.1 →
          fs.isLink (tmpPath b.pid target) = false) ∨
      ¬Valid current.data.toList ∧
        (occurrences (utf8 oldText).data.toList current.data.toList : ℤ) ≠ expected.1 ∧
        (occurrences (toChars oldText) (decode current.data.toList) : ℤ) ≠ expected.1

/-! ## The request of the tool -/

/-- A unit of `base64`, before the padding. -/
def isBase64Digit (u : CodeUnit) : Bool := isAlnum u || isOneOf "+/" u

/-- A digit of the url-safe alphabet in the other one. -/
def plainDigit (u : CodeUnit) : CodeUnit :=
  if u = unit '-' then unit '+' else if u = unit '_' then unit '/' else u

theorem base64_eq (bytes : ByteArray) :
    base64 bytes = (base64url bytes).map plainDigit ++
      List.replicate ((4 - (base64url bytes).length % 4) % 4) (unit '=') := by
  rw [base64, List.length_map]
  rfl

theorem isBase64Digit_plainDigit {u : CodeUnit} (h : isBase64url u = true) :
    isBase64Digit (plainDigit u) = true := by
  rw [isBase64url, Bool.or_eq_true, Bool.or_eq_true, beq_iff_eq, beq_iff_eq] at h
  rcases h with (h | rfl) | rfl
  · have hdash : ¬isAlnum (unit '-') = true := by decide
    have hscore : ¬isAlnum (unit '_') = true := by decide
    have hdash' : u ≠ unit '-' := by
      rintro rfl
      exact hdash h
    have hscore' : u ≠ unit '_' := by
      rintro rfl
      exact hscore h
    rw [plainDigit, if_neg hdash', if_neg hscore', isBase64Digit, h, Bool.true_or]
  · decide
  · decide

theorem dropTrailing_replicate {s : JsString} {c : CodeUnit} (h : c ∉ s) (k : ℕ) :
    dropTrailing c (s ++ List.replicate k c) = s := by
  rw [dropTrailing, List.reverse_append, List.reverse_replicate,
    List.dropWhile_append_of_pos (by simp)]
  rcases List.eq_nil_or_concat s with rfl | ⟨t, u, rfl⟩
  · rfl
  · rw [List.concat_eq_append] at h ⊢
    have hu : u ≠ c := by
      rintro rfl
      simp at h
    rw [List.reverse_concat, List.dropWhile_cons_of_neg (by simpa using hu), List.reverse_cons,
      List.reverse_reverse]

theorem length_base64Digits (bs : List UInt8) : (base64Digits bs).length % 4 ≠ 1 := by
  fun_induction base64Digits bs with
  | case1 => decide
  | case2 a => exact Nat.succ_ne_self 1
  | case3 a b => simp
  | case4 a b c rest ih =>
      simp only [List.length_cons]
      omega

theorem dropTrailing_base64 (bytes : ByteArray) :
    dropTrailing (unit '=') (base64 bytes) = (base64url bytes).map plainDigit := by
  rw [base64_eq]
  apply dropTrailing_replicate
  intro hmem
  obtain ⟨u, hu, heq⟩ := List.mem_map.mp hmem
  have hdigit := isBase64Digit_plainDigit (isBase64url_of_mem hu)
  rw [heq] at hdigit
  revert hdigit
  decide

/-- The broker admits what the tool encodes. -/
theorem isBase64_base64 (bytes : ByteArray) : isBase64 (base64 bytes) = true := by
  rw [isBase64, dropTrailing_base64]
  simp only [Bool.and_eq_true, decide_eq_true_eq, List.all_eq_true]
  constructor
  · have hlength := length_base64Digits bytes.data.toList
    rw [base64_eq, List.length_append, List.length_replicate, List.length_map, base64url,
      List.length_map]
    omega
  · intro u hu
    obtain ⟨v, hv, rfl⟩ := List.mem_map.mp hu
    exact isBase64Digit_plainDigit (isBase64url_of_mem hv)

section Tool

variable {p : Platform} (hbase64 : ∀ bytes, p.fromBase64url (base64 bytes) = bytes)

include hbase64

theorem decodeB64_base64 {bytes : ByteArray} (h : bytes.size ≤ maxWrite) :
    decodeB64 p (some (.str (base64 bytes))) = .ok ⟨bytes, h⟩ := by
  have hsize : (p.fromBase64url (base64 bytes)).size ≤ maxWrite := by rwa [hbase64]
  have hconvert : convert (strOrEmpty (some (.str (base64 bytes)))) = .ok (base64 bytes) := rfl
  rw [decodeB64, hconvert]
  change (if !isBase64 (base64 bytes) then _ else _) = _
  rw [isBase64_base64, Bool.not_true, if_neg Bool.false_ne_true, dif_pos hsize]
  simp only [hbase64]

/-- What `edit_file` sends carries the texts that it was given, and their number. -/
theorem editAsks_of_workspaceArguments {t : TargetConfig} {args request : List (JsString × Json)}
    (h : workspaceArguments t args .edit = .ok request) :
    ∃ oldText newText sent, toolText (lookup (js "old_string") args) = .ok oldText ∧
      toolText (lookup (js "new_string") args) = .ok newText ∧
      toolCount (lookup (js "expected_replacements") args) = .ok sent ∧
      ((utf8 oldText).size ≤ maxWrite → (utf8 newText).size ≤ maxWrite →
        ∀ expected, expectedReplacements (some sent) = .ok expected →
          EditAsks p request oldText newText expected) := by
  obtain ⟨-, -, h⟩ := bind_eq_ok h
  obtain ⟨path, -, h⟩ := bind_eq_ok h
  obtain ⟨oldText, hold, h⟩ := bind_eq_ok h
  obtain ⟨newText, hnew, h⟩ := bind_eq_ok h
  obtain ⟨sent, hsent, h⟩ := bind_eq_ok h
  obtain rfl := Except.ok.inj h
  refine ⟨oldText, newText, sent, hold, hnew, hsent, fun holdSize hnewSize expected hcount => ?_⟩
  refine ⟨⟨holdSize, ?_⟩, ⟨hnewSize, ?_⟩, ?_⟩
  · exact decodeB64_base64 hbase64 holdSize
  · exact decodeB64_base64 hbase64 hnewSize
  · exact hcount

end Tool

/-! ## Splitting and joining -/

theorem splitFrom_eq_piecesFrom (sep : JsString) (k : ℕ) (s : JsString) :
    splitFrom sep k s = piecesFrom sep k s := by
  induction s generalizing k with
  | nil => cases k <;> rfl
  | cons u s ih =>
      cases k with
      | succ k => exact ih k
      | zero =>
          rw [splitFrom, piecesFrom]
          simp only [startsWith_iff]
          split
          · exact congrArg ([] :: ·) (ih _)
          · rw [ih 0]
            cases hpieces : piecesFrom sep 0 s with
            | nil => exact absurd hpieces (piecesFrom_ne_nil sep 0 s)
            | cons w ws => rfl

theorem join_eq_intercalate (sep : JsString) (ws : List JsString) :
    join sep ws = sep.intercalate ws := by
  induction ws with
  | nil => rfl
  | cons w ws ih =>
      cases ws with
      | nil => simp [join]
      | cons v ws => rw [join, ih, List.intercalate_cons_cons]

theorem splitText_eq_pieces {sep : JsString} (h : sep ≠ []) (s : JsString) :
    splitText sep s = pieces sep s := by
  rw [splitText, if_neg h]
  exact splitFrom_eq_piecesFrom sep 0 s

theorem toChars_ne_nil {s : JsString} (h : s ≠ []) : toChars s ≠ [] := by
  cases s with
  | nil => exact absurd rfl h
  | cons u s =>
      cases s with
      | nil => exact List.cons_ne_nil _ _
      | cons v s =>
          rw [toChars]
          split <;> exact List.cons_ne_nil _ _

theorem toList_utf8 (s : JsString) : (utf8 s).data.toList = encode (toChars s) :=
  toList_textBytes (toChars s)

section Replaced

variable {p : Platform} (hutf8 : ∀ bytes, p.fromUtf8 bytes = decode bytes.data.toList)

include hutf8

theorem bytesText_utf8 (s : JsString) : bytesText p (utf8 s) = ofChars (toChars s) := by
  rw [bytesText, hutf8, toList_utf8, decode_encode]

/-- The replacement is one of characters, in the text as it is decoded. -/
theorem replaced_eq {oldText : JsString} (hold : oldText ≠ []) (newText : JsString)
    (current : ByteArray) (expected : ReplacementCount) :
    replaced (bytesText p current) (bytesText p (utf8 oldText)) (bytesText p (utf8 newText))
        expected =
      if (occurrences (toChars oldText) (decode current.data.toList) : ℤ) = expected.1 then
        .ok (ofChars (substituted (toChars oldText) (toChars newText)
          (decode current.data.toList)))
      else throwing ("replacement_count_mismatch:" ++
        toString (occurrences (toChars oldText) (decode current.data.toList) : ℤ)) := by
  have hchars := toChars_ne_nil hold
  have hunits : ofChars (toChars oldText) ≠ [] :=
    unitsOfChar_synchronizing.flatMap_ne_nil hchars
  rw [bytesText_utf8 hutf8, bytesText_utf8 hutf8, bytesText, hutf8]
  generalize toChars oldText = w at hchars hunits
  generalize toChars newText = v
  generalize decode current.data.toList = s
  have hparts : splitText (ofChars w) (ofChars s) = (pieces w s).map ofChars := by
    rw [splitText_eq_pieces hunits]
    exact unitsOfChar_synchronizing.pieces_flatMap hchars s
  have hjoin : join (ofChars v) ((pieces w s).map ofChars) = ofChars (substituted w v s) := by
    rw [← hparts, splitText_eq_pieces hunits, join_eq_intercalate]
    exact unitsOfChar_synchronizing.substituted_flatMap hchars v s
  have hcount : (((pieces w s).map ofChars).length : ℤ) - 1 = occurrences w s := by
    have hpos := List.length_pos_iff.mpr (pieces_ne_nil w s)
    rw [List.length_map, occurrences]
    omega
  rw [replaced, hparts, hjoin, hcount, ite_not]

end Replaced

/-- Where the bytes are UTF-8, the characters are counted and replaced as the bytes are. -/
theorem occurrences_of_valid {w : List Char} (hw : w ≠ []) {bs : List UInt8} (h : Valid bs) :
    occurrences (encode w) bs = occurrences w (decode bs) := by
  conv_lhs => rw [← h]
  exact encodeChar_synchronizing.occurrences_flatMap hw (decode bs)

theorem substituted_of_valid {w : List Char} (hw : w ≠ []) (v : List Char) {bs : List UInt8}
    (h : Valid bs) :
    encode (substituted w v (decode bs)) = substituted (encode w) (encode v) bs := by
  conv_rhs => rw [← h]
  exact (encodeChar_synchronizing.substituted_flatMap hw v (decode bs)).symm

/-- Bytes that are not UTF-8 do not come out as they should, however the old text occurs. -/
theorem substituted_ne_of_not_valid {w : List Char} (hw : w ≠ []) (v : List Char)
    {bs : List UInt8} (h : ¬Valid bs)
    (hcount : occurrences (encode w) bs = occurrences w (decode bs)) :
    encode (substituted w v (decode bs)) ≠ substituted (encode w) (encode v) bs := by
  intro heq
  have hbytes : encode w ≠ [] := encodeChar_synchronizing.flatMap_ne_nil hw
  have hlow := lowCount_lt_of_not_valid h
  -- the low bytes of both sides, counted from the bytes and from the text
  have hasked := countP_substituted hbytes (fun b => b.toNat < 0xF0) (encode v) bs
  have hdone := countP_substituted hbytes (fun b => b.toNat < 0xF0) (encode v)
    (encode (decode bs))
  have hsame : substituted (encode w) (encode v) (encode (decode bs)) =
      encode (substituted w v (decode bs)) :=
    encodeChar_synchronizing.substituted_flatMap hw v (decode bs)
  have htext : occurrences (encode w) (encode (decode bs)) = occurrences w (decode bs) :=
    encodeChar_synchronizing.occurrences_flatMap hw (decode bs)
  rw [hsame, heq, htext, ← hcount] at hdone
  rw [lowCount, lowCount] at hlow
  omega

/-! ## Writing over the target -/

section Writing

variable {b : ExecBroker} {fs : HostFiles} {target : List FileName} {current data : ByteArray}
  {fault : Option EditFault}

theorem tmpName_ne (pid : ℕ) (d : List FileName) (n : FileName) :
    tmpName pid (d ++ [n]) ≠ n := by
  intro heq
  have hlen := congrArg (fun m : FileName => m.text.length) heq
  simp [tmpName, baseName_concat, js_tmp] at hlen

/-- A file stands in a directory under a name of its own. -/
theorem eq_concat_of_content (h : fs.content target = some current) :
    ∃ d n, target = d ++ [n] ∧ fs.isDir d = true := by
  have hdir := FileSystem.isDir_of_content h
  rcases List.eq_nil_or_concat target with rfl | ⟨d, n, rfl⟩
  · rw [fs.isDir_root] at hdir
    cases hdir
  · rw [List.concat_eq_append] at h ⊢
    refine ⟨d, n, rfl, ?_⟩
    have hstands : fs.stands (d ++ [n]) = true := by
      by_contra hnone
      rw [FileSystem.stands, Bool.not_eq_true, Option.isSome_eq_false_iff,
        Option.isNone_iff_eq_none] at hnone
      rw [FileSystem.content, hnone] at h
      cases h
    have hparent := FileSystem.isDir_dropLast_of_stands hstands
    rwa [List.dropLast_concat] at hparent

/-- Writing through a temporary name that is no link leaves the target alone. -/
theorem content_of_writeFile (hcontent : fs.content target = some current)
    (hlink : ∀ l, fs.landing b.limit (tmpPath b.pid target) = .ok l →
      fs.isLink (tmpPath b.pid target) = false) (f : Option ByteArray → ByteArray) :
    (writeFile b.limit (tmpPath b.pid target) f fs).fs.content target = some current := by
  obtain ⟨d, n, rfl, hd⟩ := eq_concat_of_content hcontent
  have hresolve := FileSystem.resolve_downs (FileSystem.found_of_isDir hd false) false b.limit
  rw [writeFile]
  rw [tmpPath, List.dropLast_concat] at hlink ⊢
  cases hland : fs.landing b.limit (d ++ [tmpName b.pid (d ++ [n])]) with
  | error e => exact hcontent
  | ok l =>
      obtain ⟨hparent, hdir, -⟩ := landing_ok hresolve hland
      have hl : l = d ++ [tmpName b.pid (d ++ [n])] :=
        (landing_eq_iff hresolve hd hland).mpr (hlink l hland)
      have hne : d ++ [n] ≠ l := by
        rw [hl]
        intro heq
        rw [List.append_cancel_left_eq, List.cons.injEq] at heq
        exact tmpName_ne b.pid d n heq.1.symm
      dsimp only
      rw [content_put hparent hdir, if_neg hne, hcontent]

/-- Once the temporary file can be opened, the target is replaced: by the data, or by the link that
the temporary name was. -/
theorem writeOver_of_landing (hcontent : fs.content target = some current) {l : List FileName}
    (hland : fs.landing b.limit (tmpPath b.pid target) = .ok l) (data : ByteArray) :
    (writeOver b target data fs).result = .ok () ∧
      (writeOver b target data fs).fs.content target =
        if fs.isLink (tmpPath b.pid target) then none else some data := by
  obtain ⟨d, n, rfl, hd⟩ := eq_concat_of_content hcontent
  have hresolve := FileSystem.resolve_downs (FileSystem.found_of_isDir hd false) false b.limit
  have hnotDir := FileSystem.isDir_of_content hcontent
  rw [tmpPath, List.dropLast_concat] at hland ⊢
  have hrename := rename_written hresolve hd (tmpName_ne b.pid d n) hland data
  rw [hnotDir, if_neg Bool.false_ne_true] at hrename
  have hwrite : writeFile b.limit (d ++ [tmpName b.pid (d ++ [n])]) (fun _ => data) fs =
      ⟨[l], fs.put l (.file data), .ok ()⟩ := by rw [writeFile, hland]
  have hcontentAfter := content_replaced hresolve hd (tmpName_ne b.pid d n) hland data
  rw [writeOver, tmpPath, List.dropLast_concat, ← Act.mapError_bind, Act.mapError,
    Act.bind_of_ok hwrite, hrename]
  exact ⟨rfl, hcontentAfter⟩

theorem writeOver_of_landing_error {e : Errno}
    (hland : fs.landing b.limit (tmpPath b.pid target) = .error e) (data : ByteArray) :
    writeOver b target data fs = ⟨[], fs, .error (.system e)⟩ := by
  have hwrite : writeFile b.limit (tmpPath b.pid target) (fun _ => data) fs =
      ⟨[], fs, .error e⟩ := by rw [writeFile, hland]
  rw [writeOver, ← Act.mapError_bind, Act.mapError, Act.bind_of_error hwrite]
  rfl

theorem writeOverUnder_unchanged (hcontent : fs.content target = some current)
    (hlink : ∀ l, fs.landing b.limit (tmpPath b.pid target) = .ok l →
      fs.isLink (tmpPath b.pid target) = false) {e : BrokerError}
    (herror : (writeOverUnder b fault target data fs).result = .error e) :
    (writeOverUnder b fault target data fs).fs.content target = some current := by
  have hover : (writeOver b target data fs).result = .error e →
      (writeOver b target data fs).fs.content target = some current := by
    intro h
    cases hland : fs.landing b.limit (tmpPath b.pid target) with
    | error e' =>
        rw [writeOver_of_landing_error hland]
        exact hcontent
    | ok l =>
        rw [(writeOver_of_landing hcontent hland data).1] at h
        cases h
  cases fault with
  | none => exact hover herror
  | some fault =>
      cases fault with
      | readFails e => exact hover herror
      | openFails e => exact hcontent
      | writeFails e written =>
          rw [writeOverUnder, failing, Act.fs_bind_inspect]
          exact content_of_writeFile hcontent hlink _
      | renameFails e =>
          rw [writeOverUnder, failing, Act.fs_bind_inspect]
          exact content_of_writeFile hcontent hlink _

end Writing

/-! ## When an edit is exact -/

section Run

variable {p : Platform} {b : ExecBroker} {fs : HostFiles} {args : List (JsString × Json)}
  {oldText newText : JsString} {expected : ReplacementCount} {target : List FileName}
  {current : ByteArray} {fault : Option EditFault}

/-- The reply of an edit. -/
def editReply (target : List FileName) (expected : ReplacementCount) : Json :=
  .obj [(js "path", .str (placeText target)), (js "replacements", countJson expected)]

theorem readFile_of_checked
    (hchecked : checkedPath b fs (lookup (js "path") args) true = .ok target)
    (hcontent : fs.content target = some current) :
    (readFile b.limit target).mapError BrokerError.system fs = ⟨[], fs, .ok current⟩ := by
  obtain ⟨hfound, -⟩ := checkedPath_found hchecked
  rw [Act.mapError, readFile, Act.inspect, FileSystem.resolve_downs hfound]
  simp [bind, Except.bind, Except.mapError, hcontent]

theorem editArguments_of_asks (hasks : EditAsks p args oldText newText expected) :
    editArguments p args =
      .ok (bytesText p (utf8 oldText), bytesText p (utf8 newText), expected) := by
  obtain ⟨⟨hold, hold'⟩, ⟨hnew, hnew'⟩, hcount⟩ := hasks
  rw [editArguments, hold', hnew', hcount]
  rfl

/-- An edit whose file can be read comes down to the replacement and the write. -/
theorem workspaceEditUnder_eq
    (hchecked : checkedPath b fs (lookup (js "path") args) true = .ok target)
    (hasks : EditAsks p args oldText newText expected) (hcontent : fs.content target = some current)
    (hread : ∀ e, fault ≠ some (.readFails e)) :
    workspaceEditUnder p b fault args fs =
      (Act.inspect (fun _ => replaced (bytesText p current) (bytesText p (utf8 oldText))
          (bytesText p (utf8 newText)) expected) >>= fun updated => do
        writeOverUnder b fault target (utf8 updated)
        return editReply target expected) fs := by
  have hfile : readUnder b fault target fs = ⟨[], fs, .ok current⟩ := by
    unfold readUnder
    split
    · next e => exact absurd rfl (hread e)
    · exact readFile_of_checked hchecked hcontent
  rw [workspaceEditUnder, Act.inspect_bind_of_ok hchecked,
    Act.inspect_bind_of_ok (editArguments_of_asks hasks)]
  dsimp only
  rw [Act.bind_of_ok hfile]
  rfl

theorem workspaceEditUnder_readFails
    (hchecked : checkedPath b fs (lookup (js "path") args) true = .ok target)
    (hasks : EditAsks p args oldText newText expected) (e : Errno) :
    workspaceEditUnder p b (some (.readFails e)) args fs = ⟨[], fs, .error (.system e)⟩ := by
  rw [workspaceEditUnder, Act.inspect_bind_of_ok hchecked,
    Act.inspect_bind_of_ok (editArguments_of_asks hasks)]
  rfl

section Decoding

variable (hutf8 : ∀ bytes, p.fromUtf8 bytes = decode bytes.data.toList) (hold : oldText ≠ [])
  (hchecked : checkedPath b fs (lookup (js "path") args) true = .ok target)
  (hasks : EditAsks p args oldText newText expected) (hcontent : fs.content target = some current)

include hutf8 hold hchecked hasks hcontent

/-- Where the text does not contain the old one as often as expected, nothing is done. -/
theorem run_of_mismatch
    (hcount : (occurrences (toChars oldText) (decode current.data.toList) : ℤ) ≠ expected.1)
    (fault : Option EditFault) :
    ∃ e, workspaceEditUnder p b fault args fs = ⟨[], fs, .error e⟩ := by
  by_cases hread : ∃ e, fault = some (.readFails e)
  · obtain ⟨e, rfl⟩ := hread
    exact ⟨_, workspaceEditUnder_readFails hchecked hasks e⟩
  · have hreplaced := replaced_eq hutf8 hold newText current expected
    rw [if_neg hcount] at hreplaced
    rw [workspaceEditUnder_eq hchecked hasks hcontent fun e h => hread ⟨e, h⟩]
    exact ⟨_, Act.inspect_bind_of_error hreplaced⟩

section Match

variable (hcount : (occurrences (toChars oldText) (decode current.data.toList) : ℤ) = expected.1)

include hcount

/-- Where it does, the replaced text is written over the target. -/
theorem run_of_match (fault : Option EditFault) (hread : ∀ e, fault ≠ some (.readFails e)) :
    workspaceEditUnder p b fault args fs =
      (do
        writeOverUnder b fault target (utf8 (ofChars (substituted (toChars oldText)
          (toChars newText) (decode current.data.toList))))
        return editReply target expected : HostAct BrokerError Json) fs := by
  have hreplaced := replaced_eq hutf8 hold newText current expected
  rw [if_pos hcount] at hreplaced
  rw [workspaceEditUnder_eq hchecked hasks hcontent hread, Act.inspect_bind_of_ok hreplaced]

theorem run_of_landing {l : List FileName}
    (hland : fs.landing b.limit (tmpPath b.pid target) = .ok l) :
    (workspaceEdit p b args fs).result = .ok (editReply target expected) ∧
      (workspaceEdit p b args fs).fs.content target =
        if fs.isLink (tmpPath b.pid target) then none
        else some (utf8 (ofChars (substituted (toChars oldText) (toChars newText)
          (decode current.data.toList)))) := by
  rw [← workspaceEditUnder_none, run_of_match hutf8 hold hchecked hasks hcontent hcount none
      (fun _ h => by cases h), Act.bind_pure_eq]
  obtain ⟨hok, hafter⟩ := writeOver_of_landing hcontent hland
    (utf8 (ofChars (substituted (toChars oldText) (toChars newText) (decode current.data.toList))))
  refine ⟨?_, hafter⟩
  change Except.map _ (writeOver b target _ fs).result = _
  rw [hok]
  rfl

theorem run_of_landing_error {e : Errno}
    (hland : fs.landing b.limit (tmpPath b.pid target) = .error e) :
    (workspaceEdit p b args fs).result = .error (.system e) := by
  rw [← workspaceEditUnder_none, run_of_match hutf8 hold hchecked hasks hcontent hcount none
      (fun _ h => by cases h), Act.bind_pure_eq]
  change Except.map _ (writeOver b target _ fs).result = _
  rw [writeOver_of_landing_error hland]
  rfl

/-- Behind no link, the target is left alone by every edit that fails. -/
theorem run_unchanged (hlink : ∀ l, fs.landing b.limit (tmpPath b.pid target) = .ok l →
      fs.isLink (tmpPath b.pid target) = false) {e : BrokerError}
    (herror : (workspaceEditUnder p b fault args fs).result = .error e) :
    (workspaceEditUnder p b fault args fs).fs.content target = some current := by
  by_cases hread : ∃ e, fault = some (.readFails e)
  · obtain ⟨e', rfl⟩ := hread
    rw [workspaceEditUnder_readFails hchecked hasks]
    exact hcontent
  · rw [run_of_match hutf8 hold hchecked hasks hcontent hcount fault fun e h => hread ⟨e, h⟩,
      Act.bind_pure_eq] at herror ⊢
    dsimp only at herror ⊢
    generalize utf8 (ofChars (substituted (toChars oldText) (toChars newText)
      (decode current.data.toList))) = data at herror ⊢
    cases hresult : (writeOverUnder b fault target data fs).result with
    | error e' => exact writeOverUnder_unchanged hcontent hlink hresult
    | ok u =>
        rw [hresult] at herror
        cases herror

end Match

/-- Where the text does not contain the old one as often as expected, neither may the bytes. -/
theorem editIsExact_of_mismatch
    (hcount : (occurrences (toChars oldText) (decode current.data.toList) : ℤ) ≠ expected.1) :
    EditIsExact p b fs args oldText newText expected target current ↔
      ∀ l, fs.landing b.limit (tmpPath b.pid target) = .ok l →
        (occurrences (utf8 oldText).data.toList current.data.toList : ℤ) ≠ expected.1 := by
  have hrun := run_of_mismatch hutf8 hold hchecked hasks hcontent hcount
  have hrefused : ∀ reply, (workspaceEdit p b args fs).result ≠ .ok reply := by
    intro reply hok
    obtain ⟨e, herror⟩ := hrun none
    rw [← workspaceEditUnder_none, herror] at hok
    cases hok
  constructor
  · intro h l hland hbytes
    obtain ⟨reply, hok⟩ := (h.succeeds l hland).mpr hbytes
    exact hrefused reply hok
  · intro h
    refine ⟨fun l hland => ?_, fun reply hok => absurd hok (hrefused reply), fun fault e _ => ?_⟩
    · constructor
      · rintro ⟨reply, hok⟩
        exact absurd hok (hrefused reply)
      · intro hbytes
        exact absurd hbytes (h l hland)
    · obtain ⟨e', herror⟩ := hrun fault
      rw [herror]
      exact hcontent

/-- Where the text does, the bytes must be UTF-8, and the temporary name no link. -/
theorem editIsExact_of_match
    (hcount : (occurrences (toChars oldText) (decode current.data.toList) : ℤ) = expected.1) :
    EditIsExact p b fs args oldText newText expected target current ↔
      ∀ l, fs.landing b.limit (tmpPath b.pid target) = .ok l →
        Valid current.data.toList ∧ fs.isLink (tmpPath b.pid target) = false := by
  have hchars := toChars_ne_nil hold
  constructor
  · intro h l hland
    obtain ⟨hok, hafter⟩ := run_of_landing hutf8 hold hchecked hasks hcontent hcount hland
    have hbytes := (h.succeeds l hland).mp ⟨_, hok⟩
    obtain ⟨updated, hupdated, heq⟩ := h.replaced _ hok
    rw [hafter] at hupdated
    split at hupdated
    · cases hupdated
    · next hlink =>
        obtain rfl := Option.some.inj hupdated
        refine ⟨?_, by rwa [Bool.not_eq_true] at hlink⟩
        by_contra hvalid
        rw [toList_utf8, toList_utf8, toList_utf8, Utf8.toChars_ofChars] at heq
        rw [toList_utf8, ← hcount, Nat.cast_inj] at hbytes
        exact substituted_ne_of_not_valid hchars _ hvalid hbytes heq
  · intro h
    refine ⟨fun l hland => ?_, fun reply hok => ?_, fun fault e herror => ?_⟩
    · obtain ⟨hok, -⟩ := run_of_landing hutf8 hold hchecked hasks hcontent hcount hland
      refine iff_of_true ⟨_, hok⟩ ?_
      rw [toList_utf8, occurrences_of_valid hchars (h l hland).1]
      exact hcount
    · cases hland : fs.landing b.limit (tmpPath b.pid target) with
      | error e =>
          rw [run_of_landing_error hutf8 hold hchecked hasks hcontent hcount hland] at hok
          cases hok
      | ok l =>
          obtain ⟨hvalid, hlink⟩ := h l hland
          obtain ⟨-, hafter⟩ := run_of_landing hutf8 hold hchecked hasks hcontent hcount hland
          rw [hlink, if_neg Bool.false_ne_true] at hafter
          refine ⟨_, hafter, ?_⟩
          rw [toList_utf8, toList_utf8, toList_utf8, Utf8.toChars_ofChars]
          exact substituted_of_valid hchars _ hvalid
    · exact run_unchanged hutf8 hold hchecked hasks hcontent hcount
        (fun l hland => (h l hland).2) herror

theorem editIsExact_iff :
    EditIsExact p b fs args oldText newText expected target current ↔
      EditIsClear b fs oldText expected target current := by
  have hchars := toChars_ne_nil hold
  have hvalidCount : Valid current.data.toList →
      occurrences (utf8 oldText).data.toList current.data.toList =
        occurrences (toChars oldText) (decode current.data.toList) := by
    intro hvalid
    rw [toList_utf8, occurrences_of_valid hchars hvalid]
  by_cases hcount : (occurrences (toChars oldText) (decode current.data.toList) : ℤ) = expected.1
  · rw [editIsExact_of_match hutf8 hold hchecked hasks hcontent hcount]
    refine forall_congr' fun l => forall_congr' fun _ => ?_
    constructor
    · rintro ⟨hvalid, hlink⟩
      exact Or.inl ⟨hvalid, fun _ => hlink⟩
    · rintro (⟨hvalid, hlink⟩ | ⟨-, -, htext⟩)
      · exact ⟨hvalid, hlink (by rwa [hvalidCount hvalid])⟩
      · exact absurd hcount htext
  · rw [editIsExact_of_mismatch hutf8 hold hchecked hasks hcontent hcount]
    refine forall_congr' fun l => forall_congr' fun _ => ?_
    constructor
    · intro hbytes
      by_cases hvalid : Valid current.data.toList
      · exact Or.inl ⟨hvalid, fun heq => absurd heq hbytes⟩
      · exact Or.inr ⟨hvalid, hbytes, hcount⟩
    · rintro (⟨hvalid, -⟩ | ⟨-, hbytes, -⟩)
      · rwa [hvalidCount hvalid]
      · exact hbytes

end Decoding

end Run

/-! ## A byte that is not UTF-8 -/

/-- A platform that decodes base64 in either alphabet, and UTF-8. -/
def decodingPlatform : Platform where
  sha256 := samplePlatform.sha256
  hmacSha256 := samplePlatform.hmacSha256
  fromBase64url s := unbase64url ((dropTrailing (unit '=') s).map fun u =>
    if u = unit '+' then unit '-' else if u = unit '/' then unit '_' else u)
  fromUtf8 bytes := decode bytes.data.toList
  parseUrl := samplePlatform.parseUrl

/-- A workspace with one file. -/
def notesFiles (content : ByteArray) : HostFiles :=
  (FileSystem.empty.put (placeOf "/ws") .dir).put (placeOf "/ws/notes") (.file content)

/-- `x` is to become `y`. -/
def sampleEdit : List (JsString × Json) :=
  [(js "path", .str (js "/ws/notes")), (js "old_b64", .str (js "eA==")),
    (js "new_b64", .str (js "eQ=="))]

def once : ReplacementCount := ⟨1, le_rfl, by norm_num⟩

theorem valid_editIsExact :
    EditIsExact decodingPlatform sampleBroker (notesFiles ⟨#[0x61, 0x78]⟩) sampleEdit (js "x")
      (js "y") once (placeOf "/ws/notes") ⟨#[0x61, 0x78]⟩ := by
  refine (editIsExact_iff (fun _ => rfl) (by decide) (by decide +kernel) ⟨⟨by decide +kernel, ?_⟩,
    ⟨by decide +kernel, ?_⟩, ?_⟩ (by decide +kernel)).mpr fun l _ => Or.inl ⟨?_, fun _ => ?_⟩
  · decide +kernel
  · decide +kernel
  · decide +kernel
  · exact valid_encode ['a', 'x']
  · decide +kernel

theorem malformed_isReplaced :
    ¬EditIsExact decodingPlatform sampleBroker (notesFiles ⟨#[0xFF, 0x78]⟩) sampleEdit (js "x")
      (js "y") once (placeOf "/ws/notes") ⟨#[0xFF, 0x78]⟩ := by
  intro h
  obtain ⟨reply, hok⟩ := (h.succeeds (placeOf "/ws/notes.tmp-7") (by decide +kernel)).mpr
    (by decide +kernel)
  obtain ⟨updated, hupdated, hbytes⟩ := h.replaced reply hok
  have hwritten : (workspaceEdit decodingPlatform sampleBroker sampleEdit
      (notesFiles ⟨#[0xFF, 0x78]⟩)).fs.content (placeOf "/ws/notes") =
        some ⟨#[0xEF, 0xBF, 0xBD, 0x79]⟩ := by
    decide +kernel
  rw [hwritten] at hupdated
  obtain rfl := Option.some.inj hupdated
  revert hbytes
  decide +kernel

end RemoteOps
