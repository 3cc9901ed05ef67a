import RemoteOps.Ecma.Number
import RemoteOps.Ecma.JsonText

/-!
# Bytes, digests and encodings

Hexadecimal and base64url are written out, with the decoders that invert them.
What the runtime computes beyond that (SHA-256, HMAC, the lenient decoders and
the URL parser) is a `Platform`, of which `Platform.Lawful` states the documented
round trips and `Platform.CollisionFree` what is assumed of the hash.
-/

namespace Ecma

/-! ## ASCII strings -/

def isAscii (u : CodeUnit) : Bool := u < 128

theorem isAscii_iff {u : CodeUnit} : isAscii u = true ↔ u.toNat < 128 := by
  simp [isAscii, UInt16.lt_iff_toNat_lt]

/-- A code point below 128 comes from a single unit. -/
theorem toChars_eq_cons {v : CodeUnit} {s : JsString} {c : Char} {cs : List Char}
    (h : toChars (v :: s) = c :: cs) (hc : c.toNat < 128) :
    v.toNat = c.toNat ∧ toChars s = cs := by
  have hunit : ∀ w : CodeUnit,
      (if isSurrogate w then Char.ofNat 0xFFFD else Char.ofNat w.toNat) = c →
        w.toNat = c.toNat := by
    intro w hw
    split at hw
    · rw [← hw] at hc
      exact absurd hc (by decide)
    · rename_i hsurrogate
      rw [← hw, toNat_ofNat]
      have hrange : ¬(0xD800 ≤ w.toNat ∧ w.toNat ≤ 0xDFFF) := by
        simpa [isSurrogate, UInt16.le_iff_toNat_le] using hsurrogate
      have hw16 : w.toNat < 2 ^ 16 := w.toNat_lt
      simp only [Nat.isValidChar]
      omega
  cases s with
  | nil =>
      obtain ⟨hhead, htail⟩ := List.cons.inj h
      exact ⟨hunit v hhead, htail⟩
  | cons lo rest =>
      rw [toChars] at h
      split at h
      · rename_i hpair
        obtain ⟨hhead, -⟩ := List.cons.inj h
        obtain ⟨hhi, hlo⟩ := Bool.and_eq_true_iff.mp hpair
        have hbig := (surrogate_pair hhi hlo).1
        rw [hhead] at hbig
        omega
      · obtain ⟨hhead, htail⟩ := List.cons.inj h
        exact ⟨hunit v hhead, htail⟩

theorem toChars_cons_of_ascii {u : CodeUnit} (hu : isAscii u = true) (s : JsString) :
    toChars (u :: s) = Char.ofNat u.toNat :: toChars s := by
  rw [isAscii_iff] at hu
  have hhigh : isHighSurrogate u = false := by
    rw [← Bool.not_eq_true]
    simp only [isHighSurrogate, Bool.and_eq_true, decide_eq_true_eq, UInt16.le_iff_toNat_le]
    intro h
    have : 0xD800 ≤ u.toNat := h.1
    omega
  have hnone : isSurrogate u = false := by
    rw [← Bool.not_eq_true]
    simp only [isSurrogate, Bool.and_eq_true, decide_eq_true_eq, UInt16.le_iff_toNat_le]
    intro h
    have : 0xD800 ≤ u.toNat := h.1
    omega
  cases s with
  | nil => simp [toChars, hnone]
  | cons v s => simp [toChars, hhigh, hnone]

/-- An ASCII string is determined by its code points, among all strings. -/
theorem eq_of_toChars_eq {s t : JsString} (hs : ∀ u ∈ s, isAscii u = true)
    (h : toChars s = toChars t) : s = t := by
  induction s generalizing t with
  | nil =>
      match t with
      | [] => rfl
      | [v] => simp [toChars] at h
      | v :: w :: rest =>
          rw [toChars, toChars] at h
          split at h <;> simp at h
  | cons u s ih =>
      have hu := hs u List.mem_cons_self
      have hlt := isAscii_iff.mp hu
      have hchar : (Char.ofNat u.toNat).toNat = u.toNat := by
        apply toNat_ofNat
        simp only [Nat.isValidChar]
        omega
      rw [toChars_cons_of_ascii hu] at h
      match t with
      | [] => simp [toChars] at h
      | v :: t =>
          obtain ⟨hv, htail⟩ := toChars_eq_cons h.symm (by omega)
          have hvu : v = u := UInt16.toNat_inj.mp (by omega)
          rw [hvu, ih (fun w hw => hs w (List.mem_cons_of_mem u hw)) htail.symm]

/-! ## Hexadecimal -/

def hexUnitOf (n : ℕ) : CodeUnit := unit (hexChar n)

def hexByte (b : UInt8) : JsString := [hexUnitOf (b.toNat / 16), hexUnitOf (b.toNat % 16)]

/-- `bytes.toString("hex")`. -/
def hexText (bytes : ByteArray) : JsString := bytes.data.toList.flatMap hexByte

theorem hexUnitOf_injOn : ∀ n < 16, ∀ m < 16, hexUnitOf n = hexUnitOf m → n = m := by decide

theorem hexByte_injective {b c : UInt8} (h : hexByte b = hexByte c) : b = c := by
  have hb := b.toNat_lt
  have hc := c.toNat_lt
  obtain ⟨hhi, htail⟩ := List.cons.inj h
  obtain ⟨hlo, -⟩ := List.cons.inj htail
  have hdiv := hexUnitOf_injOn _ (by omega) _ (by omega) hhi
  have hmod := hexUnitOf_injOn _ (by omega) _ (by omega) hlo
  exact UInt8.toNat_inj.mp (by omega)

theorem flatMap_hexByte_injective : ∀ {bs cs : List UInt8},
    bs.flatMap hexByte = cs.flatMap hexByte → bs = cs
  | [], [], _ => rfl
  | [], c :: cs, h => by simp [hexByte] at h
  | b :: bs, [], h => by simp [hexByte] at h
  | b :: bs, c :: cs, h => by
      rw [List.flatMap_cons, List.flatMap_cons] at h
      obtain ⟨hhead, htail⟩ := List.append_inj h rfl
      rw [hexByte_injective hhead, flatMap_hexByte_injective htail]

theorem hexText_injective : Function.Injective hexText := by
  intro a b h
  exact ByteArray.ext (Array.ext' (flatMap_hexByte_injective h))

/-! ## base64url -/

def base64Unit (n : ℕ) : CodeUnit :=
  if n < 26 then UInt16.ofNat (65 + n)
  else if n < 52 then UInt16.ofNat (97 + (n - 26))
  else if n < 62 then UInt16.ofNat (48 + (n - 52))
  else if n = 62 then unit '-'
  else unit '_'

def base64Value (u : CodeUnit) : ℕ :=
  if isUpper u then u.toNat - 65
  else if isLower u then u.toNat - 97 + 26
  else if isDigit u then u.toNat - 48 + 52
  else if u = unit '-' then 62
  else 63

def isBase64url (u : CodeUnit) : Bool := isAlnum u || u == unit '-' || u == unit '_'

/-- Three bytes are four digits; one or two bytes at the end are two or three. -/
def base64Digits : List UInt8 → List ℕ
  | [] => []
  | [a] => [a.toNat / 4, a.toNat % 4 * 16]
  | [a, b] => [a.toNat / 4, a.toNat % 4 * 16 + b.toNat / 16, b.toNat % 16 * 4]
  | a :: b :: c :: rest =>
      a.toNat / 4 :: (a.toNat % 4 * 16 + b.toNat / 16) :: (b.toNat % 16 * 4 + c.toNat / 64) ::
        c.toNat % 64 :: base64Digits rest

def bytesOfDigits : List ℕ → List UInt8
  | p :: q :: r :: s :: rest =>
      UInt8.ofNat (p * 4 + q / 16) :: UInt8.ofNat (q % 16 * 16 + r / 4) ::
        UInt8.ofNat (r % 4 * 64 + s) :: bytesOfDigits rest
  | [p, q, r] => [UInt8.ofNat (p * 4 + q / 16), UInt8.ofNat (q % 16 * 16 + r / 4)]
  | [p, q] => [UInt8.ofNat (p * 4 + q / 16)]
  | _ => []

/-- `bytes.toString("base64url")`. -/
def base64url (bytes : ByteArray) : JsString := (base64Digits bytes.data.toList).map base64Unit

/-- The bytes of a text that `base64url` wrote. -/
def unbase64url (s : JsString) : ByteArray := ⟨(bytesOfDigits (s.map base64Value)).toArray⟩

theorem base64Digits_lt (bs : List UInt8) : ∀ n ∈ base64Digits bs, n < 64 := by
  fun_induction base64Digits bs with
  | case1 => simp
  | case2 a =>
      have ha := a.toNat_lt
      simp only [List.mem_cons, List.not_mem_nil, or_false]
      omega
  | case3 a b =>
      have ha := a.toNat_lt
      have hb := b.toNat_lt
      simp only [List.mem_cons, List.not_mem_nil, or_false]
      omega
  | case4 a b c rest ih =>
      have ha := a.toNat_lt
      have hb := b.toNat_lt
      have hc := c.toNat_lt
      intro n hn
      simp only [List.mem_cons] at hn
      rcases hn with rfl | rfl | rfl | rfl | hn
      · omega
      · omega
      · omega
      · omega
      · exact ih n hn

theorem bytesOfDigits_base64Digits (bs : List UInt8) : bytesOfDigits (base64Digits bs) = bs := by
  have hbyte : ∀ {n : ℕ} {b : UInt8}, n = b.toNat → UInt8.ofNat n = b := by
    rintro n b rfl
    exact UInt8.ofNat_toNat
  fun_induction base64Digits bs with
  | case1 => rfl
  | case2 a =>
      rw [bytesOfDigits, hbyte (b := a) (by omega)]
  | case3 a b =>
      have hb := b.toNat_lt
      rw [bytesOfDigits, hbyte (b := a) (by omega), hbyte (b := b) (by omega)]
  | case4 a b c rest ih =>
      have hb := b.toNat_lt
      have hc := c.toNat_lt
      rw [bytesOfDigits, ih, hbyte (b := a) (by omega), hbyte (b := b) (by omega),
        hbyte (b := c) (by omega)]

theorem base64Unit_spec : ∀ n < 64,
    base64Value (base64Unit n) = n ∧ isBase64url (base64Unit n) = true := by
  decide

theorem unbase64url_base64url (bytes : ByteArray) : unbase64url (base64url bytes) = bytes := by
  have hvalues : (base64url bytes).map base64Value = base64Digits bytes.data.toList := by
    rw [base64url, List.map_map]
    conv_rhs => rw [← List.map_id (base64Digits bytes.data.toList)]
    apply List.map_congr_left
    intro n hn
    exact (base64Unit_spec n (base64Digits_lt _ n hn)).1
  rw [unbase64url, hvalues, bytesOfDigits_base64Digits]

theorem length_base64url_le (bytes : ByteArray) : (base64url bytes).length ≤ 2 * bytes.size := by
  rw [base64url, List.length_map, ← ByteArray.size_data, ← Array.length_toList]
  fun_induction base64Digits bytes.data.toList with
  | case1 => exact le_rfl
  | case2 a => exact le_rfl
  | case3 a b =>
      simp only [List.length_cons, List.length_nil]
      omega
  | case4 a b c rest ih =>
      simp only [List.length_cons]
      omega

theorem isBase64url_of_mem {bytes : ByteArray} {u : CodeUnit} (hu : u ∈ base64url bytes) :
    isBase64url u = true := by
  obtain ⟨n, hn, rfl⟩ := List.mem_map.mp hu
  exact (base64Unit_spec n (base64Digits_lt _ n hn)).2

theorem isAscii_of_isBase64url {u : CodeUnit} (hu : isBase64url u = true) : isAscii u = true := by
  rw [isAscii_iff]
  simp only [isBase64url, isAlnum, isDigit, isLower, isUpper, Bool.or_eq_true, Bool.and_eq_true,
    decide_eq_true_eq, beq_iff_eq, UInt16.le_iff_toNat_le] at hu
  have h9 : (unit '9').toNat = 57 := rfl
  have hz : (unit 'z').toNat = 122 := rfl
  have hZ : (unit 'Z').toNat = 90 := rfl
  rcases hu with (((hu | hu) | hu) | rfl) | rfl
  · omega
  · omega
  · omega
  · decide
  · decide

/-- `bytes.toString("base64")`: the other two digits, and padding to a multiple of four. -/
def base64 (bytes : ByteArray) : JsString :=
  let digits := (base64url bytes).map fun u =>
    if u = unit '-' then unit '+' else if u = unit '_' then unit '/' else u
  digits ++ List.replicate ((4 - digits.length % 4) % 4) (unit '=')

/-! ## Percent encoding -/

/-- The byte that `%xy` stands for. -/
def percentByte : JsString → Option (UInt8 × JsString)
  | percent :: a :: b :: rest => do
      if percent ≠ unit '%' then none
      return (UInt8.ofNat (16 * (← hexDigit a) + (← hexDigit b)), rest)
  | _ => none

def percentBytes : ℕ → JsString → Option (List UInt8 × JsString)
  | 0, s => some ([], s)
  | n + 1, s => do
      let (b, s) ← percentByte s
      let (bs, s) ← percentBytes n s
      return (b :: bs, s)

/-- How many bytes a UTF-8 sequence with this first byte has. -/
def utf8SequenceLength (b : UInt8) : Option ℕ :=
  if b < 0x80 then some 1
  else if 0xC0 ≤ b ∧ b < 0xE0 then some 2
  else if 0xE0 ≤ b ∧ b < 0xF0 then some 3
  else if 0xF0 ≤ b ∧ b < 0xF8 then some 4
  else none

/-- Decode what is left, with one unit of fuel for each code unit. -/
def decodeUnits : ℕ → JsString → Option JsString
  | _, [] => some []
  | 0, _ :: _ => none
  | fuel + 1, u :: us =>
      if u ≠ unit '%' then do return u :: (← decodeUnits fuel us)
      else do
        let (b, _) ← percentByte (u :: us)
        let (bs, rest) ← percentBytes (← utf8SequenceLength b) (u :: us)
        let text ← String.fromUTF8? ⟨bs.toArray⟩
        return ofChars text.toList ++ (← decodeUnits fuel rest)

/-- `decodeURIComponent(s)`, which throws on a malformed escape. -/
def decodeURIComponent (s : JsString) : Option JsString := decodeUnits s.length s

/-! ## Random texts -/

/-- What `randomBytes(n).toString("base64url")` may be. -/
structure RandomText where
  text : JsString
  isBase64url : ∀ u ∈ text, isBase64url u = true

/-! ## The platform -/

structure Url where
  protocol : JsString
  hostname : JsString

/-- What the runtime provides. Strings are hashed as UTF-8. -/
structure Platform where
  sha256 : ByteArray → ByteArray
  hmacSha256 : JsString → JsString → ByteArray
  /-- `Buffer.from(s, "base64url")`, which skips what is no digit -/
  fromBase64url : JsString → ByteArray
  /-- `bytes.toString("utf8")`, which replaces what is malformed -/
  fromUtf8 : ByteArray → List Char
  /-- `new URL(s)` -/
  parseUrl : JsString → Option Url

/-- The decoders read what the encoders wrote. -/
structure Platform.Lawful (p : Platform) : Prop where
  fromBase64url_base64url : ∀ bytes, p.fromBase64url (base64url bytes) = bytes
  fromUtf8_textBytes : ∀ cs, p.fromUtf8 (textBytes cs) = cs

def Platform.CollisionFree (p : Platform) : Prop := Function.Injective p.sha256

/-- `createHash("sha256").update(s, "utf8").digest("hex")`. -/
def Platform.digest (p : Platform) (s : JsString) : JsString := hexText (p.sha256 (utf8 s))

theorem toChars_eq_of_utf8_eq {s t : JsString} (h : utf8 s = utf8 t) : toChars s = toChars t :=
  textBytes_injective h

theorem Platform.CollisionFree.toChars_eq {p : Platform} (hp : p.CollisionFree) {s t : JsString}
    (h : p.digest s = p.digest t) : toChars s = toChars t :=
  toChars_eq_of_utf8_eq (hp (hexText_injective h))

/-- A platform whose hash is the identity. -/
def samplePlatform : Platform where
  sha256 := id
  hmacSha256 _ _ := ⟨#[1]⟩
  fromBase64url := unbase64url
  fromUtf8 bytes :=
    match String.fromUTF8? bytes with
    | some s => s.toList
    | none => []
  parseUrl _ := some ⟨js "https:", js "app"⟩

theorem samplePlatform_lawful : samplePlatform.Lawful where
  fromBase64url_base64url := unbase64url_base64url
  fromUtf8_textBytes cs := by
    have hvalid : (textBytes cs).IsValidUTF8 := (String.ofList cs).isValidUTF8
    have hread : String.fromUTF8? (textBytes cs) = some (String.ofList cs) := by
      rw [String.fromUTF8?, dif_pos hvalid]
      rfl
    simp [samplePlatform, hread]

theorem samplePlatform_collisionFree : samplePlatform.CollisionFree := fun _ _ h => h

end Ecma
