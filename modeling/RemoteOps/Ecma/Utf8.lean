import RemoteOps.Ecma.JsonText
import RemoteOps.Ecma.Occurrences

/-!
# Decoding UTF-8

`decode` is `bytes.toString("utf8")`, byte by byte: what is pending is the beginning of a
sequence, and a byte either continues it or ends it with `U+FFFD` and is read anew. Decoding
gives back what was encoded. Two texts decoded apart are the text decoded at once exactly when
the cut is `Clean`, since any other cut makes the text longer; and encoding what was decoded
gives the same bytes exactly when they were UTF-8, since any replacement adds a low byte.
-/

namespace Ecma

namespace Utf8

/-! ## Characters and units -/

/-- The units of a character are read back, whatever follows. -/
theorem toChars_unitsOfChar_append (c : Char) (s : JsString) :
    toChars (unitsOfChar c ++ s) = c :: toChars s := by
  have hvalid : c.toNat < 0xD800 ∨ 0xDFFF < c.toNat ∧ c.toNat < 0x110000 := c.valid
  have hchar : Char.ofNat c.toNat = c := Char.ofNat_toNat c
  generalize hn : c.toNat = n at hvalid hchar
  by_cases hbmp : n < 0x10000
  · have hunit : (UInt16.ofNat n).toNat = n := by
      rw [UInt16.toNat_ofNat']
      omega
    have hhigh : isHighSurrogate (UInt16.ofNat n) = false := by
      rw [← Bool.not_eq_true, isHighSurrogate, Bool.and_eq_true, decide_eq_true_eq,
        decide_eq_true_eq, UInt16.le_iff_toNat_le, UInt16.le_iff_toNat_le, hunit]
      show ¬(0xD800 ≤ n ∧ n ≤ 0xDBFF)
      omega
    have hplain : isSurrogate (UInt16.ofNat n) = false := by
      rw [← Bool.not_eq_true, isSurrogate, Bool.and_eq_true, decide_eq_true_eq,
        decide_eq_true_eq, UInt16.le_iff_toNat_le, UInt16.le_iff_toNat_le, hunit]
      show ¬(0xD800 ≤ n ∧ n ≤ 0xDFFF)
      omega
    rw [unitsOfChar, hn, if_pos hbmp, List.singleton_append]
    cases s with
    | nil => simp [toChars, hplain, hunit, hchar]
    | cons v s => simp [toChars, hhigh, hplain, hunit, hchar]
  · have hhi : (UInt16.ofNat (0xD800 + (n - 0x10000) / 0x400)).toNat =
        0xD800 + (n - 0x10000) / 0x400 := by
      rw [UInt16.toNat_ofNat']
      omega
    have hlo : (UInt16.ofNat (0xDC00 + (n - 0x10000) % 0x400)).toNat =
        0xDC00 + (n - 0x10000) % 0x400 := by
      rw [UInt16.toNat_ofNat']
      omega
    have hpair : (isHighSurrogate (UInt16.ofNat (0xD800 + (n - 0x10000) / 0x400)) &&
        isLowSurrogate (UInt16.ofNat (0xDC00 + (n - 0x10000) % 0x400))) = true := by
      rw [isHighSurrogate, isLowSurrogate, Bool.and_eq_true, Bool.and_eq_true, Bool.and_eq_true,
        decide_eq_true_eq, decide_eq_true_eq, decide_eq_true_eq, decide_eq_true_eq,
        UInt16.le_iff_toNat_le, UInt16.le_iff_toNat_le, UInt16.le_iff_toNat_le,
        UInt16.le_iff_toNat_le, hhi, hlo]
      show (0xD800 ≤ _ ∧ _ ≤ 0xDBFF) ∧ (0xDC00 ≤ _ ∧ _ ≤ 0xDFFF)
      omega
    have hpoint : 0x10000 + (0xD800 + (n - 0x10000) / 0x400 - 0xD800) * 0x400 +
        (0xDC00 + (n - 0x10000) % 0x400 - 0xDC00) = n := by omega
    rw [unitsOfChar, hn, if_neg hbmp, List.cons_append, List.singleton_append, toChars, if_pos hpair,
      pairChar, hhi, hlo, hpoint, hchar]

theorem toChars_ofChars_append (cs : List Char) (s : JsString) :
    toChars (ofChars cs ++ s) = cs ++ toChars s := by
  induction cs with
  | nil => rfl
  | cons c cs ih =>
      rw [ofChars, List.flatMap_cons, ← ofChars, List.append_assoc, toChars_unitsOfChar_append, ih,
        List.cons_append]

theorem toChars_ofChars (cs : List Char) : toChars (ofChars cs) = cs := by
  have happend := toChars_ofChars_append cs []
  rwa [List.append_nil, toChars, List.append_nil] at happend

theorem ofChars_injective : Function.Injective ofChars :=
  Function.LeftInverse.injective toChars_ofChars

/-- The units of a character that is not ASCII are not ASCII. -/
theorem toNat_of_mem_unitsOfChar {c : Char} {u : CodeUnit} (hu : u ∈ unitsOfChar c)
    (hlow : u.toNat < 128) : c.toNat = u.toNat := by
  unfold unitsOfChar at hu
  split_ifs at hu with hbmp
  · rw [List.mem_singleton] at hu
    rw [hu, UInt16.toNat_ofNat', Nat.mod_eq_of_lt hbmp]
  · have hmax := c.valid
    have hnat : c.toNat < 0x110000 := by
      obtain h | h := hmax
      · exact lt_trans h (by decide)
      · exact h.2
    simp only [List.mem_cons, List.not_mem_nil, or_false] at hu
    obtain rfl | rfl := hu <;>
      rw [UInt16.toNat_ofNat', Nat.mod_eq_of_lt (by omega)] at hlow <;> omega

theorem unit_mem_ofChars_iff {c : Char} (hc : c.toNat < 128) {cs : List Char} :
    unit c ∈ ofChars cs ↔ c ∈ cs := by
  have hunit : (unit c).toNat = c.toNat := by
    rw [unit, UInt16.toNat_ofNat']
    omega
  rw [ofChars, List.mem_flatMap]
  constructor
  · rintro ⟨d, hd, hu⟩
    have heq := toNat_of_mem_unitsOfChar hu (by omega)
    rwa [← Char.toNat_inj.mp (heq.trans hunit)]
  · intro hmem
    have hself : unit c ∈ unitsOfChar c := by
      rw [unitsOfChar, if_pos (by omega)]
      exact List.mem_singleton_self _
    exact ⟨c, hmem, hself⟩

/-! ## The decoder -/

def replacement : Char := Char.ofNat 0xFFFD

/-- How many bytes a sequence with this first byte has, if there is one. -/
def sequenceLength (b : UInt8) : ℕ :=
  if b.toNat < 0x80 then 1
  else if b.toNat < 0xC2 then 0
  else if b.toNat < 0xE0 then 2
  else if b.toNat < 0xF0 then 3
  else if b.toNat < 0xF5 then 4
  else 0

/-- The least byte that may follow a first byte. -/
def lowest (lead : UInt8) : ℕ :=
  if lead.toNat = 0xE0 then 0xA0 else if lead.toNat = 0xF0 then 0x90 else 0x80

/-- The greatest byte that may follow a first byte. -/
def highest (lead : UInt8) : ℕ :=
  if lead.toNat = 0xED then 0x9F else if lead.toNat = 0xF4 then 0x8F else 0xBF

def continues : List UInt8 → UInt8 → Bool
  | [], _ => false
  | [lead], b => lowest lead ≤ b.toNat && b.toNat ≤ highest lead
  | _ :: _ :: _, b => 0x80 ≤ b.toNat && b.toNat ≤ 0xBF

/-- How many bytes the pending sequence is to have. -/
def expected : List UInt8 → ℕ
  | [] => 0
  | lead :: _ => sequenceLength lead

def codePoint : List UInt8 → ℕ
  | [a] => a.toNat
  | [a, b] => a.toNat % 32 * 64 + b.toNat % 64
  | [a, b, c] => a.toNat % 16 * 4096 + b.toNat % 64 * 64 + c.toNat % 64
  | [a, b, c, d] => a.toNat % 8 * 262144 + b.toNat % 64 * 4096 + c.toNat % 64 * 64 + d.toNat % 64
  | _ => 0

/-- What becomes of a sequence that is not completed. -/
def flush : List UInt8 → List Char
  | [] => []
  | _ :: _ => [replacement]

/-- A byte with nothing pending. -/
def start (b : UInt8) : List UInt8 × List Char :=
  if sequenceLength b = 0 then ([], [replacement])
  else if sequenceLength b = 1 then ([], [Char.ofNat b.toNat])
  else ([b], [])

/-- What is pending after a byte, and what the byte completes. -/
def step (pending : List UInt8) (b : UInt8) : List UInt8 × List Char :=
  if continues pending b then
    if pending.length + 1 = expected pending then ([], [Char.ofNat (codePoint (pending ++ [b]))])
    else (pending ++ [b], [])
  else ((start b).1, flush pending ++ (start b).2)

def decodeFrom : List UInt8 → List UInt8 → List Char
  | pending, [] => flush pending
  | pending, b :: bs => (step pending b).2 ++ decodeFrom (step pending b).1 bs

/-- What is pending after the bytes. -/
def pendingAfter : List UInt8 → List UInt8 → List UInt8
  | pending, [] => pending
  | pending, b :: bs => pendingAfter (step pending b).1 bs

/-- What the bytes complete. -/
def emitted : List UInt8 → List UInt8 → List Char
  | _, [] => []
  | pending, b :: bs => (step pending b).2 ++ emitted (step pending b).1 bs

def decode (bs : List UInt8) : List Char := decodeFrom [] bs

def encode (cs : List Char) : List UInt8 := cs.flatMap String.utf8EncodeChar

@[simp] theorem decode_nil : decode [] = [] := rfl

@[simp] theorem continues_nil (b : UInt8) : continues [] b = false := rfl

@[simp] theorem encode_nil : encode [] = [] := rfl

@[simp] theorem encode_cons (c : Char) (cs : List Char) :
    encode (c :: cs) = String.utf8EncodeChar c ++ encode cs := List.flatMap_cons

@[simp] theorem encode_append (cs ds : List Char) : encode (cs ++ ds) = encode cs ++ encode ds :=
  List.flatMap_append

theorem toList_textBytes (cs : List Char) : (textBytes cs).data.toList = encode cs := by
  rw [textBytes, String.toByteArray_ofList, List.utf8Encode, List.data_toByteArray]
  rfl

theorem step_start (b : UInt8) : step [] b = start b := by
  rw [step, continues_nil, if_neg Bool.false_ne_true, flush, List.nil_append]

theorem decodeFrom_eq (pending bs : List UInt8) :
    decodeFrom pending bs = emitted pending bs ++ flush (pendingAfter pending bs) := by
  induction bs generalizing pending with
  | nil => rfl
  | cons b bs ih => rw [decodeFrom, emitted, pendingAfter, ih, List.append_assoc]

theorem decodeFrom_append (pending as bs : List UInt8) :
    decodeFrom pending (as ++ bs) =
      emitted pending as ++ decodeFrom (pendingAfter pending as) bs := by
  induction as generalizing pending with
  | nil => rfl
  | cons a as ih => rw [List.cons_append, decodeFrom, emitted, pendingAfter, ih, List.append_assoc]

/-- A byte that does not continue a sequence is read as if nothing were pending. -/
theorem decodeFrom_of_not_continues {pending bs : List UInt8}
    (h : ∀ b ∈ bs.head?, continues pending b = false) :
    decodeFrom pending bs = flush pending ++ decode bs := by
  cases bs with
  | nil => rw [decode_nil, List.append_nil, decodeFrom]
  | cons b bs =>
      rw [decode, decodeFrom, decodeFrom, step_start, step, h b rfl, if_neg Bool.false_ne_true,
        List.append_assoc]

/-! ## Encoding and decoding -/

theorem toNat_ofNat_of_lt {n : ℕ} (h : n < 256) : (UInt8.ofNat n).toNat = n := by
  rw [UInt8.toNat_ofNat']
  omega

theorem sequenceLength_two {a : UInt8} (h : 0xC2 ≤ a.toNat) (h' : a.toNat < 0xE0) :
    sequenceLength a = 2 := by
  rw [sequenceLength, if_neg (by omega), if_neg (by omega), if_pos h']

theorem sequenceLength_three {a : UInt8} (h : 0xE0 ≤ a.toNat) (h' : a.toNat < 0xF0) :
    sequenceLength a = 3 := by
  rw [sequenceLength, if_neg (by omega), if_neg (by omega), if_neg (by omega), if_pos h']

theorem sequenceLength_four {a : UInt8} (h : 0xF0 ≤ a.toNat) (h' : a.toNat < 0xF5) :
    sequenceLength a = 4 := by
  rw [sequenceLength, if_neg (by omega), if_neg (by omega), if_neg (by omega), if_neg (by omega),
    if_pos h']

theorem start_ascii {a : UInt8} (h : a.toNat < 0x80) : start a = ([], [Char.ofNat a.toNat]) := by
  have hlength : sequenceLength a = 1 := by rw [sequenceLength, if_pos h]
  rw [start, hlength]
  rfl

theorem start_lead {a : UInt8} (h : 2 ≤ sequenceLength a) : start a = ([a], []) := by
  rw [start, if_neg (by omega), if_neg (by omega)]

theorem step_last {p : List UInt8} {b : UInt8} (hb : continues p b = true)
    (h : p.length + 1 = expected p) : step p b = ([], [Char.ofNat (codePoint (p ++ [b]))]) := by
  rw [step, if_pos hb, if_pos h]

theorem step_more {p : List UInt8} {b : UInt8} (hb : continues p b = true)
    (h : p.length + 1 < expected p) : step p b = (p ++ [b], []) := by
  rw [step, if_pos hb, if_neg h.ne]

theorem decode_one {a : UInt8} (h : a.toNat < 0x80) (bs : List UInt8) :
    decode (a :: bs) = Char.ofNat a.toNat :: decode bs := by
  rw [decode, decodeFrom, step_start, start_ascii h]
  rfl

theorem decode_two {a b : UInt8} (ha : sequenceLength a = 2) (hb : continues [a] b = true)
    (bs : List UInt8) : decode (a :: b :: bs) = Char.ofNat (codePoint [a, b]) :: decode bs := by
  rw [decode, decodeFrom, step_start, start_lead (by omega), decodeFrom, step_last hb ha.symm]
  rfl

theorem decode_three {a b c : UInt8} (ha : sequenceLength a = 3) (hb : continues [a] b = true)
    (hc : continues [a, b] c = true) (bs : List UInt8) :
    decode (a :: b :: c :: bs) = Char.ofNat (codePoint [a, b, c]) :: decode bs := by
  rw [decode, decodeFrom, step_start, start_lead (by omega), decodeFrom,
    step_more hb (by simp [expected, ha]), List.singleton_append, decodeFrom,
    step_last hc (by simp [expected, ha])]
  rfl

theorem decode_four {a b c d : UInt8} (ha : sequenceLength a = 4) (hb : continues [a] b = true)
    (hc : continues [a, b] c = true) (hd : continues [a, b, c] d = true) (bs : List UInt8) :
    decode (a :: b :: c :: d :: bs) = Char.ofNat (codePoint [a, b, c, d]) :: decode bs := by
  rw [decode, decodeFrom, step_start, start_lead (by omega), decodeFrom,
    step_more hb (by simp [expected, ha]), List.singleton_append, decodeFrom,
    step_more hc (by simp [expected, ha]), List.cons_append, List.singleton_append, decodeFrom,
    step_last hd (by simp [expected, ha])]
  rfl

theorem continues_lead_iff {a b : UInt8} :
    continues [a] b = true ↔ lowest a ≤ b.toNat ∧ b.toNat ≤ highest a := by
  rw [continues, Bool.and_eq_true, decide_eq_true_eq, decide_eq_true_eq]

theorem continues_tail_iff {a a' b : UInt8} {p : List UInt8} :
    continues (a :: a' :: p) b = true ↔ 0x80 ≤ b.toNat ∧ b.toNat ≤ 0xBF := by
  rw [continues, Bool.and_eq_true, decide_eq_true_eq, decide_eq_true_eq]

theorem decode_encodeChar_append (c : Char) (bs : List UInt8) :
    decode (String.utf8EncodeChar c ++ bs) = c :: decode bs := by
  have hvalid : c.toNat < 0xD800 ∨ 0xDFFF < c.toNat ∧ c.toNat < 0x110000 := c.valid
  have hchar : Char.ofNat c.toNat = c := Char.ofNat_toNat c
  have hval : c.val.toNat = c.toNat := rfl
  generalize c.toNat = n at hvalid hchar hval
  rw [String.utf8EncodeChar]
  simp only [hval]
  split_ifs with h₁ h₂ h₃
  · have hn := toNat_ofNat_of_lt (n := n) (by omega)
    rw [List.singleton_append, decode_one (by omega), hn, hchar]
  · have ha := toNat_ofNat_of_lt (n := n / 64 % 0x20 + 0xc0) (by omega)
    have hb := toNat_ofNat_of_lt (n := n % 0x40 + 0x80) (by omega)
    have hpoint : (n / 64 % 0x20 + 0xc0) % 32 * 64 + (n % 0x40 + 0x80) % 64 = n := by omega
    rw [List.cons_append, List.cons_append, List.nil_append,
      decode_two (sequenceLength_two (by omega) (by omega)), codePoint, ha, hb, hpoint, hchar]
    rw [continues_lead_iff, lowest, highest, ha, hb]
    split_ifs <;> omega
  · have ha := toNat_ofNat_of_lt (n := n / 4096 % 0x10 + 0xe0) (by omega)
    have hb := toNat_ofNat_of_lt (n := n / 64 % 0x40 + 0x80) (by omega)
    have hc := toNat_ofNat_of_lt (n := n % 0x40 + 0x80) (by omega)
    have hpoint : (n / 4096 % 0x10 + 0xe0) % 16 * 4096 + (n / 64 % 0x40 + 0x80) % 64 * 64 +
        (n % 0x40 + 0x80) % 64 = n := by omega
    rw [List.cons_append, List.cons_append, List.cons_append, List.nil_append,
      decode_three (sequenceLength_three (by omega) (by omega)), codePoint, ha, hb, hc, hpoint,
      hchar]
    · rw [continues_lead_iff, lowest, highest, ha, hb]
      split_ifs <;> omega
    · rw [continues_tail_iff, hc]
      omega
  · have ha := toNat_ofNat_of_lt (n := n / 262144 % 0x08 + 0xf0) (by omega)
    have hb := toNat_ofNat_of_lt (n := n / 4096 % 0x40 + 0x80) (by omega)
    have hc := toNat_ofNat_of_lt (n := n / 64 % 0x40 + 0x80) (by omega)
    have hd := toNat_ofNat_of_lt (n := n % 0x40 + 0x80) (by omega)
    have hpoint : (n / 262144 % 0x08 + 0xf0) % 8 * 262144 + (n / 4096 % 0x40 + 0x80) % 64 * 4096 +
        (n / 64 % 0x40 + 0x80) % 64 * 64 + (n % 0x40 + 0x80) % 64 = n := by omega
    rw [List.cons_append, List.cons_append, List.cons_append, List.cons_append, List.nil_append,
      decode_four (sequenceLength_four (by omega) (by omega)), codePoint, ha, hb, hc, hd, hpoint,
      hchar]
    · rw [continues_lead_iff, lowest, highest, ha, hb]
      split_ifs <;> omega
    · rw [continues_tail_iff, hc]
      omega
    · rw [continues_tail_iff, hd]
      omega

/-- Decoding reads what was encoded, whatever follows. -/
theorem decode_encode_append (cs : List Char) (bs : List UInt8) :
    decode (encode cs ++ bs) = cs ++ decode bs := by
  induction cs with
  | nil => rfl
  | cons c cs ih =>
      rw [encode_cons, List.append_assoc, decode_encodeChar_append, ih, List.cons_append]

@[simp] theorem decode_encode (cs : List Char) : decode (encode cs) = cs := by
  have happend := decode_encode_append cs []
  rwa [List.append_nil, decode_nil, List.append_nil] at happend

/-- Bytes below 128 are characters of their own. -/
theorem decode_ascii {bs : List UInt8} (h : ∀ b ∈ bs, b.toNat < 0x80) :
    decode bs = bs.map fun b => Char.ofNat b.toNat := by
  induction bs with
  | nil => rfl
  | cons b bs ih =>
      rw [decode_one (h b List.mem_cons_self), ih fun c hc => h c (List.mem_cons_of_mem _ hc),
        List.map_cons]

/-! ## Cuts -/

/-- No sequence goes on across the cut. -/
def Clean (as bs : List UInt8) : Prop :=
  ∀ b ∈ bs.head?, continues (pendingAfter [] as) b = false

instance decidableClean (as : List UInt8) : ∀ bs, Decidable (Clean as bs)
  | [] => isTrue fun _ hb => by cases hb
  | b :: _ => decidable_of_iff (continues (pendingAfter [] as) b = false) (by simp [Clean])

/-- Every cut between two pieces is clean. -/
def CleanCuts : List (List UInt8) → Prop
  | [] => True
  | piece :: pieces => Clean piece pieces.flatten ∧ CleanCuts pieces

theorem decode_append_of_clean {as bs : List UInt8} (h : Clean as bs) :
    decode (as ++ bs) = decode as ++ decode bs := by
  have hrest := decodeFrom_of_not_continues h
  rw [decode, decodeFrom_append, hrest, ← List.append_assoc, ← decodeFrom_eq]
  rfl

theorem tail_of_continues {p : List UInt8} {b : UInt8} (h : continues p b = true) :
    0x80 ≤ b.toNat ∧ b.toNat ≤ 0xBF := by
  match p with
  | [] => exact absurd h Bool.false_ne_true
  | [lead] =>
      rw [continues_lead_iff] at h
      have hlow : 0x80 ≤ lowest lead := by
        unfold lowest
        split_ifs <;> omega
      have hhigh : highest lead ≤ 0xBF := by
        unfold highest
        split_ifs <;> omega
      omega
  | _ :: _ :: _ => exact continues_tail_iff.mp h

/-- With nothing pending a continuation byte is malformed. -/
theorem decode_tail {b : UInt8} (h : 0x80 ≤ b.toNat ∧ b.toNat ≤ 0xBF) (bs : List UInt8) :
    decode (b :: bs) = replacement :: decode bs := by
  have hlength : sequenceLength b = 0 := by
    rw [sequenceLength, if_neg (by omega), if_pos (by omega)]
  rw [decode, decodeFrom, step_start, start, if_pos hlength]
  rfl

theorem length_flush_le (p : List UInt8) : (flush p).length ≤ 1 := by
  cases p <;> simp [flush]

/-- A byte that continues a sequence makes one character fewer. -/
theorem length_decodeFrom_lt {p : List UInt8} {b : UInt8} (h : continues p b = true)
    (bs : List UInt8) : (decodeFrom p (b :: bs)).length < (decode (b :: bs)).length + 1 := by
  induction bs generalizing p b with
  | nil =>
      rw [decode_tail (tail_of_continues h), decodeFrom, step, if_pos h]
      split_ifs
      · simp [decodeFrom, flush]
      · rw [List.nil_append, decodeFrom]
        have hflush := length_flush_le (p ++ [b])
        rw [decode_nil, List.length_singleton]
        exact Nat.lt_succ_of_le hflush
  | cons b' bs ih =>
      rw [decode_tail (tail_of_continues h), decodeFrom, step, if_pos h, List.length_cons]
      split_ifs
      · rw [List.singleton_append, List.length_cons]
        exact Nat.lt_succ_self _
      · rw [List.nil_append]
        dsimp only
        by_cases hnext : continues (p ++ [b]) b' = true
        · have hlt := ih hnext
          omega
        · have hnot : ∀ c ∈ (b' :: bs).head?, continues (p ++ [b]) c = false := by
            intro c hc
            obtain rfl := Option.some.inj hc
            simpa using hnext
          have hflush := length_flush_le (p ++ [b])
          rw [decodeFrom_of_not_continues hnot, List.length_append]
          omega

theorem length_flush_of_continues {p : List UInt8} {b : UInt8} (h : continues p b = true) :
    (flush p).length = 1 := by
  cases p with
  | nil => exact absurd h Bool.false_ne_true
  | cons a p => rfl

/-- A cut that is not clean makes the text longer. -/
theorem length_decode_append_lt {as bs : List UInt8} (h : ¬Clean as bs) :
    (decode (as ++ bs)).length < (decode as).length + (decode bs).length := by
  cases bs with
  | nil => exact absurd (fun b hb => absurd hb (Option.not_mem_none b)) h
  | cons b bs =>
      have hb : continues (pendingAfter [] as) b = true := by
        by_contra hnot
        apply h
        intro c hc
        obtain rfl := Option.some.inj hc
        simpa using hnot
      have hlt := length_decodeFrom_lt hb bs
      have hflush := length_flush_of_continues hb
      rw [decode, decodeFrom_append, decode, decodeFrom_eq [] as, List.length_append,
        List.length_append]
      omega

theorem length_decode_append_le (as bs : List UInt8) :
    (decode (as ++ bs)).length ≤ (decode as).length + (decode bs).length := by
  by_cases h : Clean as bs
  · rw [decode_append_of_clean h, List.length_append]
  · exact (length_decode_append_lt h).le

theorem decode_append_iff {as bs : List UInt8} :
    decode (as ++ bs) = decode as ++ decode bs ↔ Clean as bs := by
  constructor
  · intro h
    by_contra hnot
    have hlt := length_decode_append_lt hnot
    rw [h, List.length_append] at hlt
    exact lt_irrefl _ hlt
  · exact decode_append_of_clean

theorem length_decode_flatten_le (pieces : List (List UInt8)) :
    (decode pieces.flatten).length ≤ (pieces.flatMap decode).length := by
  induction pieces with
  | nil => simp
  | cons piece pieces ih =>
      have happend := length_decode_append_le piece pieces.flatten
      rw [List.flatten_cons, List.flatMap_cons, List.length_append]
      omega

/-- Pieces decoded apart are the whole decoded at once exactly when every cut is clean. -/
theorem decode_flatten_iff {pieces : List (List UInt8)} :
    decode pieces.flatten = pieces.flatMap decode ↔ CleanCuts pieces := by
  induction pieces with
  | nil => simp [CleanCuts]
  | cons piece pieces ih =>
      rw [List.flatten_cons, List.flatMap_cons, CleanCuts, ← decode_append_iff, ← ih]
      constructor
      · intro h
        have hlength := congrArg List.length h
        have happend := length_decode_append_le piece pieces.flatten
        have hrest := length_decode_flatten_le pieces
        rw [List.length_append] at hlength
        by_cases hclean : Clean piece pieces.flatten
        · rw [decode_append_of_clean hclean] at h ⊢
          exact ⟨rfl, List.append_cancel_left h⟩
        · have hlt := length_decode_append_lt hclean
          omega
      · rintro ⟨hpiece, hpieces⟩
        rw [hpiece, hpieces]

/-! ## Malformed bytes -/

/-- How many of the bytes begin no sequence of four. -/
def lowCount (bs : List UInt8) : ℕ := bs.countP fun b => b.toNat < 0xF0

/-- The bytes are the same, or there are more low ones. -/
def Grows (as bs : List UInt8) : Prop := lowCount as ≤ lowCount bs ∧ (lowCount as = lowCount bs → as = bs)

@[simp] theorem lowCount_append (as bs : List UInt8) :
    lowCount (as ++ bs) = lowCount as + lowCount bs := List.countP_append

theorem Grows.refl (bs : List UInt8) : Grows bs bs := ⟨le_rfl, fun _ => rfl⟩

theorem Grows.of_lt {as bs : List UInt8} (h : lowCount as < lowCount bs) : Grows as bs :=
  ⟨h.le, fun heq => absurd heq h.ne⟩

theorem Grows.append {as as' bs bs' : List UInt8} (h : Grows as bs) (h' : Grows as' bs') :
    Grows (as ++ as') (bs ++ bs') := by
  refine ⟨?_, ?_⟩
  · rw [lowCount_append, lowCount_append]
    exact Nat.add_le_add h.1 h'.1
  · intro heq
    rw [lowCount_append, lowCount_append] at heq
    have hle := h.1
    have hle' := h'.1
    rw [h.2 (by omega), h'.2 (by omega)]

/-- The beginnings of a sequence that may be pending. -/
inductive Partial : List UInt8 → Prop where
  | nil : Partial []
  | one (a : UInt8) (ha : 2 ≤ sequenceLength a) : Partial [a]
  | two (a b : UInt8) (ha : 3 ≤ sequenceLength a) (hb : continues [a] b = true) : Partial [a, b]
  | three (a b c : UInt8) (ha : 4 ≤ sequenceLength a) (hb : continues [a] b = true)
      (hc : continues [a, b] c = true) : Partial [a, b, c]

theorem sequenceLength_le (a : UInt8) : sequenceLength a ≤ 4 := by
  unfold sequenceLength
  split_ifs <;> omega

theorem range_of_two {a : UInt8} (h : sequenceLength a = 2) : 0xC2 ≤ a.toNat ∧ a.toNat < 0xE0 := by
  unfold sequenceLength at h
  split_ifs at h <;> omega

theorem range_of_three {a : UInt8} (h : sequenceLength a = 3) :
    0xE0 ≤ a.toNat ∧ a.toNat < 0xF0 := by
  unfold sequenceLength at h
  split_ifs at h <;> omega

theorem range_of_four {a : UInt8} (h : sequenceLength a = 4) : 0xF0 ≤ a.toNat ∧ a.toNat < 0xF5 := by
  unfold sequenceLength at h
  split_ifs at h <;> omega

theorem ofNat_eq {n : ℕ} {a : UInt8} (h : n = a.toNat) : UInt8.ofNat n = a := by
  rw [h, UInt8.ofNat_toNat]

theorem val_ofNat {n : ℕ} (h : n.isValidChar) : (Char.ofNat n).val.toNat = n := toNat_ofNat h

theorem encodeChar_two {a b : UInt8} (ha : sequenceLength a = 2) (hb : continues [a] b = true) :
    String.utf8EncodeChar (Char.ofNat (codePoint [a, b])) = [a, b] := by
  have hlead := range_of_two ha
  have htail := tail_of_continues hb
  generalize hn : codePoint [a, b] = n
  rw [codePoint] at hn
  have hval : (Char.ofNat n).val.toNat = n := by
    apply val_ofNat
    simp only [Nat.isValidChar]
    omega
  rw [String.utf8EncodeChar]
  simp only [hval]
  rw [if_neg (by omega), if_pos (by omega), ofNat_eq (a := a) (by omega),
    ofNat_eq (a := b) (by omega)]

theorem encodeChar_three {a b c : UInt8} (ha : sequenceLength a = 3)
    (hb : continues [a] b = true) (hc : continues [a, b] c = true) :
    String.utf8EncodeChar (Char.ofNat (codePoint [a, b, c])) = [a, b, c] := by
  have hlead := range_of_three ha
  have htail := tail_of_continues hb
  have htail' := tail_of_continues hc
  have hbounds := continues_lead_iff.mp hb
  have hlow : a.toNat = 0xE0 → 0xA0 ≤ b.toNat := by
    intro h
    rw [lowest, if_pos h] at hbounds
    exact hbounds.1
  have hhigh : a.toNat = 0xED → b.toNat ≤ 0x9F := by
    intro h
    rw [highest, if_pos h] at hbounds
    exact hbounds.2
  generalize hn : codePoint [a, b, c] = n
  rw [codePoint] at hn
  have hval : (Char.ofNat n).val.toNat = n := by
    apply val_ofNat
    simp only [Nat.isValidChar]
    omega
  rw [String.utf8EncodeChar]
  simp only [hval]
  rw [if_neg (by omega), if_neg (by omega), if_pos (by omega), ofNat_eq (a := a) (by omega),
    ofNat_eq (a := b) (by omega), ofNat_eq (a := c) (by omega)]

theorem encodeChar_four {a b c d : UInt8} (ha : sequenceLength a = 4)
    (hb : continues [a] b = true) (hc : continues [a, b] c = true)
    (hd : continues [a, b, c] d = true) :
    String.utf8EncodeChar (Char.ofNat (codePoint [a, b, c, d])) = [a, b, c, d] := by
  have hlead := range_of_four ha
  have htail := tail_of_continues hb
  have htail' := tail_of_continues hc
  have htail'' := tail_of_continues hd
  have hbounds := continues_lead_iff.mp hb
  have hlow : a.toNat = 0xF0 → 0x90 ≤ b.toNat := by
    intro h
    rw [lowest, if_neg (by omega), if_pos h] at hbounds
    exact hbounds.1
  have hhigh : a.toNat = 0xF4 → b.toNat ≤ 0x8F := by
    intro h
    rw [highest, if_neg (by omega), if_pos h] at hbounds
    exact hbounds.2
  generalize hn : codePoint [a, b, c, d] = n
  rw [codePoint] at hn
  have hval : (Char.ofNat n).val.toNat = n := by
    apply val_ofNat
    simp only [Nat.isValidChar]
    omega
  rw [String.utf8EncodeChar]
  simp only [hval]
  rw [if_neg (by omega), if_neg (by omega), if_neg (by omega), ofNat_eq (a := a) (by omega),
    ofNat_eq (a := b) (by omega), ofNat_eq (a := c) (by omega), ofNat_eq (a := d) (by omega)]

/-- A completed sequence is the encoding of the character that it stands for. -/
theorem encodeChar_codePoint {p : List UInt8} {b : UInt8} (hp : Partial p)
    (hb : continues p b = true) (h : p.length + 1 = expected p) :
    String.utf8EncodeChar (Char.ofNat (codePoint (p ++ [b]))) = p ++ [b] := by
  cases hp with
  | nil => exact absurd hb Bool.false_ne_true
  | one a ha => exact encodeChar_two h.symm hb
  | two a a' ha hb' => exact encodeChar_three h.symm hb' hb
  | three a a' a'' ha hb' hb'' => exact encodeChar_four h.symm hb' hb'' hb

theorem Partial.more {p : List UInt8} {b : UInt8} (hp : Partial p) (hb : continues p b = true)
    (h : p.length + 1 ≠ expected p) : Partial (p ++ [b]) := by
  cases hp with
  | nil => exact absurd hb Bool.false_ne_true
  | one a ha =>
      have hne : 2 ≠ sequenceLength a := h
      exact .two a b (by omega) hb
  | two a a' ha hb' =>
      have hne : 3 ≠ sequenceLength a := h
      exact .three a a' b (by omega) hb' hb
  | three a a' a'' ha hb' hb'' =>
      have hle := sequenceLength_le a
      have hne : 4 ≠ sequenceLength a := h
      omega

theorem lowCount_replacement : lowCount (String.utf8EncodeChar replacement) = 3 := by decide

/-- An interrupted sequence has fewer low bytes than what replaces it. -/
theorem grows_flush {p : List UInt8} (hp : Partial p) : Grows p (encode (flush p)) := by
  have hlow : ∀ bs : List UInt8, lowCount bs ≤ bs.length := fun bs => List.countP_le_length
  have hflush : ∀ a q, lowCount (encode (flush (a :: q))) = 3 := by
    intro a q
    rw [flush, encode_cons, encode_nil, List.append_nil, lowCount_replacement]
  cases hp with
  | nil => exact Grows.refl []
  | one a ha =>
      have hle := hlow [a]
      rw [List.length_singleton] at hle
      exact Grows.of_lt (by rw [hflush]; omega)
  | two a b ha hb =>
      have hle := hlow [a, b]
      rw [List.length_cons, List.length_singleton] at hle
      exact Grows.of_lt (by rw [hflush]; omega)
  | three a b c ha hb hc =>
      have hle := sequenceLength_le a
      have hlead := range_of_four (a := a) (by omega)
      have hrest := hlow [b, c]
      have hcount : lowCount [a, b, c] = lowCount [b, c] := by
        rw [lowCount, List.countP_cons_of_neg (by simp; omega), lowCount]
      rw [List.length_cons, List.length_singleton] at hrest
      exact Grows.of_lt (by rw [hflush, hcount]; omega)

/-- What a byte with nothing pending becomes, together with what stays pending. -/
theorem grows_start (b : UInt8) :
    Partial (start b).1 ∧ Grows [b] (encode (start b).2 ++ (start b).1) := by
  have hone : lowCount [b] ≤ 1 := List.countP_le_length
  unfold start
  split_ifs with h₀ h₁
  · refine ⟨.nil, Grows.of_lt ?_⟩
    rw [encode_cons, encode_nil, List.append_nil, List.append_nil, lowCount_replacement]
    omega
  · have hascii : b.toNat < 0x80 := by
      unfold sequenceLength at h₁
      split_ifs at h₁ <;> omega
    have hval : (Char.ofNat b.toNat).val.toNat = b.toNat := by
      apply val_ofNat
      simp only [Nat.isValidChar]
      omega
    refine ⟨.nil, ?_⟩
    rw [encode_cons, encode_nil, List.append_nil, List.append_nil, String.utf8EncodeChar]
    simp only [hval]
    rw [if_pos (by omega), UInt8.ofNat_toNat]
    exact Grows.refl [b]
  · exact ⟨.one b (by omega), Grows.refl [b]⟩

/-- Whatever is replaced, low bytes are added. -/
theorem grows_decodeFrom {p : List UInt8} (hp : Partial p) (bs : List UInt8) :
    Grows (p ++ bs) (encode (decodeFrom p bs)) := by
  induction bs generalizing p with
  | nil =>
      rw [List.append_nil]
      exact grows_flush hp
  | cons b bs ih =>
      have hsplit : p ++ b :: bs = p ++ [b] ++ bs := by rw [List.append_assoc, List.singleton_append]
      by_cases hb : continues p b = true
      · by_cases h : p.length + 1 = expected p
        · rw [decodeFrom, step_last hb h, hsplit, List.singleton_append, encode_cons,
            encodeChar_codePoint hp hb h]
          exact (Grows.refl _).append (ih .nil)
        · rw [decodeFrom, step, if_pos hb, if_neg h, List.nil_append, hsplit]
          exact ih (hp.more hb h)
      · obtain ⟨hcut, hgrows⟩ := grows_start b
        have hrest := ih hcut
        rw [decodeFrom, step, if_neg hb, encode_append, encode_append, hsplit, List.append_assoc,
          List.append_assoc]
        refine (grows_flush hp).append ⟨?_, ?_⟩
        · have hle := hgrows.1
          have hle' := hrest.1
          simp only [lowCount_append] at hle hle' ⊢
          omega
        · intro heq
          have hle := hgrows.1
          have hle' := hrest.1
          simp only [lowCount_append] at heq hle hle'
          have hstart := hgrows.2 (by rw [lowCount_append]; omega)
          have hdecoded := hrest.2 (by rw [lowCount_append]; omega)
          rw [hstart, List.append_assoc, hdecoded]

/-- Bytes are UTF-8 when they are the encoding of a text. -/
def Valid (bs : List UInt8) : Prop := encode (decode bs) = bs

theorem valid_encode (cs : List Char) : Valid (encode cs) := by rw [Valid, decode_encode]

/-- Bytes that are not UTF-8 gain low bytes when they are decoded and encoded again. -/
theorem lowCount_lt_of_not_valid {bs : List UInt8} (h : ¬Valid bs) :
    lowCount bs < lowCount (encode (decode bs)) := by
  obtain ⟨hle, heq⟩ := grows_decodeFrom .nil bs
  rcases hle.lt_or_eq with hlt | hsame
  · exact hlt
  · exact absurd (heq hsame).symm h

/-! ## The encodings keep occurrences -/

/-- A byte that begins a character. -/
def Leads (b : UInt8) : Prop := b.toNat < 0x80 ∨ 0xC0 ≤ b.toNat

theorem not_leads_of_tail {n : ℕ} : ¬Leads (UInt8.ofNat (n % 0x40 + 0x80)) := by
  rw [Leads, toNat_ofNat_of_lt (by omega)]
  omega

theorem encodeChar_begins (c : Char) :
    ∃ a t, String.utf8EncodeChar c = a :: t ∧ Leads a ∧ ∀ b ∈ t, ¬Leads b := by
  have hvalid : c.toNat < 0x110000 := by
    rcases c.valid with h | h
    · exact h.trans (by norm_num)
    · exact h.2
  have hval : c.val.toNat = c.toNat := rfl
  generalize c.toNat = n at hvalid hval
  rw [String.utf8EncodeChar]
  simp only [hval]
  split_ifs with h₁ h₂ h₃
  · refine ⟨_, _, rfl, Or.inl ?_, List.forall_mem_nil _⟩
    rw [toNat_ofNat_of_lt (by omega)]
    omega
  · refine ⟨_, _, rfl, Or.inr ?_, ?_⟩
    · rw [toNat_ofNat_of_lt (by omega)]
      omega
    · simp only [List.forall_mem_cons]
      exact ⟨not_leads_of_tail, List.forall_mem_nil _⟩
  · refine ⟨_, _, rfl, Or.inr ?_, ?_⟩
    · rw [toNat_ofNat_of_lt (by omega)]
      omega
    · simp only [List.forall_mem_cons]
      exact ⟨not_leads_of_tail, not_leads_of_tail, List.forall_mem_nil _⟩
  · refine ⟨_, _, rfl, Or.inr ?_, ?_⟩
    · rw [toNat_ofNat_of_lt (by omega)]
      omega
    · simp only [List.forall_mem_cons]
      exact ⟨not_leads_of_tail, not_leads_of_tail, not_leads_of_tail, List.forall_mem_nil _⟩

theorem encodeChar_synchronizing : Synchronizing String.utf8EncodeChar Leads where
  begins := encodeChar_begins
  separates c d := by
    rintro ⟨t, ht⟩
    have hread := decode_encodeChar_append c t
    have hword := decode_encodeChar_append d []
    rw [ht, ← List.append_nil (String.utf8EncodeChar d), hword] at hread
    exact (List.cons.inj hread).1.symm

theorem unitsOfChar_begins (c : Char) :
    ∃ a t, unitsOfChar c = a :: t ∧ isLowSurrogate a = false ∧
      ∀ b ∈ t, ¬isLowSurrogate b = false := by
  have hvalid : c.toNat < 0xD800 ∨ 0xDFFF < c.toNat ∧ c.toNat < 0x110000 := c.valid
  have hlow : ∀ n, n < 0x10000 →
      (isLowSurrogate (UInt16.ofNat n) = true ↔ 0xDC00 ≤ n ∧ n ≤ 0xDFFF) := by
    intro n hn
    have hunit : (UInt16.ofNat n).toNat = n := by
      rw [UInt16.toNat_ofNat']
      omega
    rw [isLowSurrogate, Bool.and_eq_true, decide_eq_true_eq, decide_eq_true_eq,
      UInt16.le_iff_toNat_le, UInt16.le_iff_toNat_le, hunit]
    rfl
  rw [unitsOfChar]
  split
  · next hbmp =>
      refine ⟨_, _, rfl, ?_, List.forall_mem_nil _⟩
      rw [← Bool.not_eq_true, hlow _ hbmp]
      omega
  · refine ⟨_, _, rfl, ?_, ?_⟩
    · rw [← Bool.not_eq_true, hlow _ (by omega)]
      omega
    · simp only [List.forall_mem_cons, Bool.not_eq_false]
      refine ⟨(hlow _ (by omega)).mpr (by omega), List.forall_mem_nil _⟩

theorem unitsOfChar_synchronizing :
    Synchronizing unitsOfChar (isLowSurrogate · = false) where
  begins := unitsOfChar_begins
  separates c d := by
    rintro ⟨t, ht⟩
    have hread := toChars_unitsOfChar_append c t
    have hword := toChars_unitsOfChar_append d []
    rw [ht, ← List.append_nil (unitsOfChar d), hword] at hread
    exact (List.cons.inj hread).1.symm

end Utf8

end Ecma
