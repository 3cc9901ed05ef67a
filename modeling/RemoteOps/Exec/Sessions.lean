import RemoteOps.Ecma.EscapedSize
import RemoteOps.Ecma.Utf8
import RemoteOps.Transition.Machine

/-!
# The output of a process session

The broker decodes every data event of a child by itself, appends it to the output of the
session and cuts the front off when the output is too large. `process.read` returns a slice
of what is left, from an offset that the reader carries from reply to reply.

The cut is tested in bytes and made in units. It comes to keeping the last `maxOutput` units
of everything appended (`outputAfter_eq`), which gives exactly when the output stays within
its bound (`cutCleanly_iff`), when a reader misses nothing (`outputIsLossless_iff`), and when
the text does not depend on how the bytes were divided into events (`outputIgnoresEvents_iff`).
-/

namespace RemoteOps

open Ecma Transition

/-! ## Model -/

def maxOutput : ℕ := 1024 * 1024

/-- `s.slice(-n)`. -/
def sliceLast (n : ℕ) (s : JsString) : JsString := s.drop (s.length - n)

/-- What the handlers of a child put before what it writes. -/
inductive OutputLabel where
  | stdout
  | stderr
  | error

def OutputLabel.chars : OutputLabel → List Char
  | .stdout => []
  | .stderr => "[stderr] ".toList
  | .error => "[error] ".toList

/-- The arguments of a call of `append`. -/
structure Addition where
  label : OutputLabel
  chunk : List UInt8

/-- `label + chunk.toString("utf8")`. -/
def Addition.text (a : Addition) : JsString := ofChars (a.label.chars ++ Utf8.decode a.chunk)

/-- `append(s, label, chunk)`. -/
def appendOutput (output : JsString) (a : Addition) : JsString :=
  let output := output ++ a.text
  if maxOutput < utf8Length output then sliceLast maxOutput output else output

/-- The output of a session after these calls. -/
def outputAfter (additions : List Addition) : JsString := additions.foldl appendOutput []

/-- Everything that was appended. -/
def appendedText (additions : List Addition) : JsString := additions.flatMap Addition.text

structure Session where
  id : JsString
  output : JsString := []
  exitCode : Option ℤ := none
  closed : Bool := false

structure ReadReply where
  sessionId : JsString
  running : Bool
  exitCode : Option ℤ
  output : JsString
  nextOffset : ℕ
  truncated : Bool

/-- `Math.min(Math.max(Number(max_chars ?? 65536) || 65536, 1), 262144)`. -/
def readLimit (maxChars : Option ℕ) : ℕ :=
  let n := maxChars.getD 65536
  min (max (if n = 0 then 65536 else n) 1) 262144

/-- `process.read`, for the offsets and limits that the tool's schema admits. -/
def processRead (s : Session) (offset : ℕ) (maxChars : Option ℕ) : ReadReply :=
  let out := (s.output.drop offset).take (readLimit maxChars)
  { sessionId := s.id
    running := !s.closed
    exitCode := s.exitCode
    output := out
    nextOffset := offset + out.length
    truncated := offset + out.length < s.output.length }

/-- A session and the offset of its reader. -/
structure Reading where
  session : Session
  offset : ℕ := 0

inductive SessionInput where
  | append (a : Addition)
  | close (code : Option ℤ)
  | read (maxChars : Option ℕ)

def SessionInput.step (r : Reading) : SessionInput → Option ReadReply × Reading
  | .append a =>
      (none, { r with session := { r.session with output := appendOutput r.session.output a } })
  | .close code => (none, { r with session := { r.session with exitCode := code, closed := true } })
  | .read maxChars =>
      let reply := processRead r.session r.offset maxChars
      (some reply, { r with offset := reply.nextOffset })

/-- A session with a reader who starts at the offset 0 and passes on what is returned. -/
def reading (id : JsString) : Machine Reading SessionInput (Option ReadReply) where
  start := { session := { id } }
  step := SessionInput.step

/-! ## The cut -/

theorem length_sliceLast (n : ℕ) (s : JsString) : (sliceLast n s).length = min n s.length := by
  rw [sliceLast, List.length_drop]
  omega

theorem sliceLast_of_le {n : ℕ} {s : JsString} (h : s.length ≤ n) : sliceLast n s = s := by
  rw [sliceLast, Nat.sub_eq_zero_of_le h, List.drop_zero]

theorem sliceLast_suffix (n : ℕ) (s : JsString) : sliceLast n s <:+ s := List.drop_suffix _ s

/-- What is cut off now is cut off later. -/
theorem sliceLast_append (n : ℕ) (s t : JsString) :
    sliceLast n (sliceLast n s ++ t) = sliceLast n (s ++ t) := by
  have hle : s.length - n ≤ s.length := Nat.sub_le _ _
  rw [sliceLast, sliceLast, sliceLast, ← List.drop_append_of_le_length hle, List.drop_drop,
    List.length_drop, List.length_append]
  congr 1
  omega

/-- Whether the bytes overflow or not, what stays is the last units. -/
theorem appendOutput_eq (output : JsString) (a : Addition) :
    appendOutput output a = sliceLast maxOutput (output ++ a.text) := by
  rw [appendOutput]
  by_cases h : maxOutput < utf8Length (output ++ a.text)
  · rw [if_pos h]
  · have hbytes := length_le_utf8Length (output ++ a.text)
    rw [if_neg h, sliceLast_of_le (by omega)]

theorem appendedText_concat (as : List Addition) (a : Addition) :
    appendedText (as ++ [a]) = appendedText as ++ a.text := by
  rw [appendedText, appendedText, List.flatMap_append, List.flatMap_singleton]

/-- The output is the end of everything appended. -/
theorem outputAfter_eq (as : List Addition) :
    outputAfter as = sliceLast maxOutput (appendedText as) := by
  induction as using List.reverseRecOn with
  | nil => rfl
  | append_singleton as a ih =>
      have hstep : outputAfter (as ++ [a]) = appendOutput (outputAfter as) a := by
        rw [outputAfter, outputAfter, List.foldl_concat]
      rw [hstep, appendOutput_eq, ih, sliceLast_append, appendedText_concat]

/-- What the cut is to keep. -/
structure CutCleanly (as : List Addition) : Prop where
  bounded : utf8Length (outputAfter as) ≤ maxOutput
  suffix : outputAfter as <:+ appendedText as
  whole : utf8Length (appendedText as) ≤ maxOutput → outputAfter as = appendedText as

/-- The text fits, or the units that are kept of it are ASCII. -/
def EndsPlainly (s : JsString) : Prop :=
  utf8Length s ≤ maxOutput ∨ maxOutput ≤ s.length ∧ ∀ u ∈ sliceLast maxOutput s, u < 128

theorem bounded_iff (s : JsString) :
    utf8Length (sliceLast maxOutput s) ≤ maxOutput ↔ EndsPlainly s := by
  rw [EndsPlainly]
  by_cases hshort : s.length < maxOutput
  · rw [sliceLast_of_le hshort.le]
    constructor
    · exact fun h => .inl h
    · rintro (h | ⟨hlong, -⟩)
      · exact h
      · omega
  · have hlength := length_sliceLast maxOutput s
    have hbytes := length_le_utf8Length (sliceLast maxOutput s)
    have hascii := utf8Length_eq_length_iff (s := sliceLast maxOutput s)
    rw [hlength, Nat.min_eq_left (not_lt.mp hshort)] at hbytes hascii
    rw [← hascii]
    constructor
    · exact fun h => .inr ⟨not_lt.mp hshort, le_antisymm h hbytes⟩
    · rintro (h | ⟨-, h⟩)
      · have hle := length_le_utf8Length s
        rw [sliceLast_of_le (by omega)]
        exact h
      · exact h.le

/-- The output is cut cleanly along a run exactly if every text that does not fit ends in
`maxOutput` units of ASCII. -/
theorem cutCleanly_iff (as : List Addition) :
    (∀ pre, pre <+: as → CutCleanly pre) ↔ ∀ pre, pre <+: as → EndsPlainly (appendedText pre) := by
  refine forall_congr' fun pre => imp_congr_right fun _ => ?_
  rw [← bounded_iff, ← outputAfter_eq]
  constructor
  · exact fun h => h.bounded
  · intro h
    refine ⟨h, ?_, fun hfits => ?_⟩
    · rw [outputAfter_eq]
      exact sliceLast_suffix _ _
    · have hle := length_le_utf8Length (appendedText pre)
      rw [outputAfter_eq, sliceLast_of_le (by omega)]

/-- Euro signs take three bytes and one unit each. -/
def euroSigns : List Addition := [⟨.stdout, Utf8.encode (List.replicate 400000 '€')⟩]

theorem ofChars_replicate {c : Char} {u : CodeUnit} (h : unitsOfChar c = [u]) (n : ℕ) :
    ofChars (List.replicate n c) = List.replicate n u := by
  induction n with
  | zero => rfl
  | succ n ih =>
      rw [List.replicate_succ, List.replicate_succ, ← ih, ofChars, List.flatMap_cons, h]
      rfl

theorem appendedText_euroSigns : appendedText euroSigns = List.replicate 400000 0x20AC := by
  rw [appendedText, euroSigns, List.flatMap_singleton, Addition.text, Utf8.decode_encode]
  exact ofChars_replicate (by decide) 400000

theorem euroSigns_overflow : ¬CutCleanly euroSigns := by
  intro h
  have hbounded := h.bounded
  have hsize : weigh plainBytes 4 (List.replicate 400000 0x20AC) = 400000 * 3 :=
    weigh_replicate (by decide) 400000
  have hfew : (List.replicate 400000 (0x20AC : CodeUnit)).length ≤ maxOutput := by
    rw [List.length_replicate, maxOutput]
    omega
  rw [outputAfter_eq, appendedText_euroSigns, sliceLast_of_le hfew, utf8Length_eq_weigh, hsize,
    maxOutput] at hbounded
  omega

/-! ## The reader -/

/-- What a run has returned. -/
def delivered (events : List (SessionInput × Option ReadReply)) : JsString :=
  events.flatMap fun e => e.2.elim [] ReadReply.output

def additions (is : List SessionInput) : List Addition :=
  is.filterMap fun
    | .append a => some a
    | _ => none

section Reader

variable (id : JsString)

/-- A reply says only whether there is more, so nothing may be missing before what it returns,
and nothing after it if it says that there is no more. -/
structure ReadLossless (pre : List SessionInput) (maxChars : Option ℕ) : Prop where
  ordered : delivered ((reading id).trace (pre ++ [.read maxChars])) <+: appendedText (additions pre)
  complete : ∀ reply, (reading id).answer pre (.read maxChars) = some reply →
    reply.truncated = false →
      delivered ((reading id).trace (pre ++ [.read maxChars])) = appendedText (additions pre)

def Lossless (is : List SessionInput) : Prop :=
  ∀ pre maxChars, pre ++ [.read maxChars] <+: is → ReadLossless id pre maxChars

end Reader

theorem additions_append (is js : List SessionInput) :
    additions (is ++ js) = additions is ++ additions js := List.filterMap_append

theorem additions_concat_append (is : List SessionInput) (a : Addition) :
    additions (is ++ [.append a]) = additions is ++ [a] := additions_append is _

theorem additions_concat_close (is : List SessionInput) (code : Option ℤ) :
    additions (is ++ [.close code]) = additions is := by
  rw [additions_append]
  exact List.append_nil _

theorem additions_append_reads (is : List SessionInput) (limits : List (Option ℕ)) :
    additions (is ++ limits.map .read) = additions is := by
  have hreads : additions (limits.map SessionInput.read) = [] := by
    induction limits with
    | nil => rfl
    | cons limit limits ih => exact ih
  rw [additions_append, hreads, List.append_nil]

theorem additions_concat_read (is : List SessionInput) (maxChars : Option ℕ) :
    additions (is ++ [.read maxChars]) = additions is := additions_append_reads is [maxChars]

theorem appendedText_mono {is js : List SessionInput} (h : is <+: js) :
    appendedText (additions is) <+: appendedText (additions js) := by
  obtain ⟨post, rfl⟩ := h
  rw [additions_append, appendedText, appendedText, List.flatMap_append]
  exact List.prefix_append _ _

variable {id : JsString}

theorem output_after (is : List SessionInput) :
    ((reading id).after is).session.output = outputAfter (additions is) := by
  induction is using List.reverseRecOn with
  | nil => rfl
  | append_singleton is i ih =>
      rw [Machine.after_concat]
      cases i with
      | append a =>
          rw [additions_concat_append, outputAfter, List.foldl_concat, ← outputAfter, ← ih]
          rfl
      | close code =>
          rw [additions_concat_close, ← ih]
          rfl
      | read maxChars =>
          rw [additions_concat_read, ← ih]
          rfl

theorem delivered_concat (is : List SessionInput) (i : SessionInput) :
    delivered ((reading id).trace (is ++ [i])) =
      delivered ((reading id).trace is) ++ ((reading id).answer is i).elim [] ReadReply.output := by
  rw [Machine.trace_concat, delivered, List.flatMap_append, List.flatMap_singleton]
  rfl

theorem delivered_concat_read (is : List SessionInput) (maxChars : Option ℕ) :
    delivered ((reading id).trace (is ++ [.read maxChars])) =
      delivered ((reading id).trace is) ++
        ((outputAfter (additions is)).drop ((reading id).after is).offset).take
          (readLimit maxChars) := by
  rw [delivered_concat, ← @output_after id]
  rfl

/-- The offset counts what was returned. -/
theorem offset_after (is : List SessionInput) :
    ((reading id).after is).offset = (delivered ((reading id).trace is)).length := by
  induction is using List.reverseRecOn with
  | nil => rfl
  | append_singleton is i ih =>
      rw [Machine.after_concat, delivered_concat, List.length_append, ← ih]
      cases i with
      | append a => rfl
      | close code => rfl
      | read maxChars => rfl

theorem length_outputAfter_le (as : List Addition) : (outputAfter as).length ≤ maxOutput := by
  rw [outputAfter_eq, length_sliceLast]
  exact Nat.min_le_left _ _

theorem processRead_offset_le (s : Session) (offset : ℕ) (maxChars : Option ℕ) :
    (processRead s offset maxChars).nextOffset ≤ max offset s.output.length := by
  simp only [processRead, List.length_take, List.length_drop]
  omega

theorem one_le_readLimit (maxChars : Option ℕ) : 1 ≤ readLimit maxChars := by
  rw [readLimit]
  split <;> omega

/-- A reply that says that there is more has returned something. -/
theorem offset_lt_of_truncated {s : Session} {offset : ℕ} {maxChars : Option ℕ}
    (h : (processRead s offset maxChars).truncated = true) :
    offset < (processRead s offset maxChars).nextOffset ∧
      (processRead s offset maxChars).nextOffset < s.output.length := by
  have hlimit := one_le_readLimit maxChars
  simp only [processRead, List.length_take, List.length_drop, decide_eq_true_eq] at h ⊢
  omega

theorem offset_le (is : List SessionInput) : ((reading id).after is).offset ≤ maxOutput := by
  induction is using List.reverseRecOn with
  | nil => exact Nat.zero_le _
  | append_singleton is i ih =>
      rw [Machine.after_concat]
      cases i with
      | append a => exact ih
      | close code => exact ih
      | read maxChars =>
          have hnext := processRead_offset_le ((reading id).after is).session
            ((reading id).after is).offset maxChars
          have hlength := length_outputAfter_le (additions is)
          rw [output_after] at hnext
          exact hnext.trans (max_le ih hlength)

/-- What was returned is the beginning of a text that is never cut. -/
theorem delivered_beginning (is : List SessionInput)
    (h : (appendedText (additions is)).length ≤ maxOutput) :
    delivered ((reading id).trace is) <+: appendedText (additions is) := by
  induction is using List.reverseRecOn with
  | nil => exact List.prefix_rfl
  | append_singleton is i ih =>
      have hmore := appendedText_mono (List.prefix_append is [i])
      have hbefore := ih (hmore.length_le.trans h)
      cases i with
      | append a =>
          rw [delivered_concat]
          exact (List.append_nil _).symm ▸ hbefore.trans hmore
      | close code =>
          rw [delivered_concat]
          exact (List.append_nil _).symm ▸ hbefore.trans hmore
      | read maxChars =>
          rw [additions_concat_read] at h ⊢
          obtain ⟨rest, hrest⟩ := hbefore
          rw [delivered_concat_read, outputAfter_eq, sliceLast_of_le h, offset_after]
          conv_lhs => rw [← hrest, List.drop_left]
          rw [← hrest]
          exact (List.prefix_append_right_inj _).mpr (List.take_prefix _ _)

/-- A reply that says that there is no more has come to the end of what is left. -/
theorem length_delivered_of_untruncated {pre : List SessionInput} {maxChars : Option ℕ}
    {reply : ReadReply} (hreply : (reading id).answer pre (.read maxChars) = some reply)
    (h : reply.truncated = false) :
    (outputAfter (additions pre)).length ≤
      (delivered ((reading id).trace (pre ++ [.read maxChars]))).length := by
  obtain rfl := Option.some.inj hreply
  rw [← offset_after, Machine.after_concat, ← @output_after id]
  simp only [processRead, decide_eq_false_iff_not, not_lt] at h
  exact h

theorem readLossless_of_short {pre : List SessionInput} (maxChars : Option ℕ)
    (h : (appendedText (additions pre)).length ≤ maxOutput) : ReadLossless id pre maxChars := by
  have hbegins := @delivered_beginning id (pre ++ [.read maxChars])
    (by rwa [additions_concat_read])
  rw [additions_concat_read] at hbegins
  refine ⟨hbegins, fun reply hreply huntruncated => hbegins.eq_of_length_le ?_⟩
  have hlength := length_delivered_of_untruncated hreply huntruncated
  rwa [outputAfter_eq, sliceLast_of_le h] at hlength

/-- Reading on comes to a reply that says that there is no more. -/
theorem exists_untruncated (is : List SessionInput) :
    ∃ limits : List (Option ℕ), (processRead ((reading id).after (is ++ limits.map .read)).session
      ((reading id).after (is ++ limits.map .read)).offset none).truncated = false := by
  generalize hm : maxOutput - ((reading id).after is).offset = m
  induction m using Nat.strong_induction_on generalizing is with
  | _ m ih =>
      cases htruncated : (processRead ((reading id).after is).session ((reading id).after is).offset
        none).truncated with
      | false => exact ⟨[], by rwa [List.map_nil, List.append_nil]⟩
      | true =>
          obtain ⟨hlt, hlast⟩ := offset_lt_of_truncated htruncated
          have hlength := length_outputAfter_le (additions is)
          rw [← @output_after id] at hlength
          have hnext : ((reading id).after (is ++ [.read none])).offset =
              (processRead ((reading id).after is).session ((reading id).after is).offset
                none).nextOffset := by
            rw [Machine.after_concat]
            rfl
          obtain ⟨limits, hlimits⟩ := ih _ (by rw [hnext]; omega) (is ++ [.read none]) rfl
          refine ⟨none :: limits, ?_⟩
          rwa [List.map_cons, ← List.singleton_append, ← List.append_assoc]

/-- A reader who goes on until there is no more misses nothing of a run exactly if no more than
`maxOutput` units were appended. -/
theorem outputIsLossless_iff (id : JsString) (is : List SessionInput) :
    (∀ limits : List (Option ℕ), Lossless id (is ++ limits.map .read)) ↔
      (appendedText (additions is)).length ≤ maxOutput := by
  constructor
  · intro h
    obtain ⟨limits, hlimits⟩ := @exists_untruncated id is
    have hall := h (limits ++ [none])
    have hlast := hall (is ++ limits.map .read) none
      (by rw [List.map_append, List.append_assoc]; exact List.prefix_rfl)
    have hcomplete := hlast.complete _ rfl hlimits
    have hoffset := @offset_le id (is ++ limits.map .read ++ [.read none])
    rwa [offset_after, hcomplete, additions_append_reads] at hoffset
  · intro h limits pre maxChars hpre
    apply readLossless_of_short
    have hmore := appendedText_mono ((List.prefix_append pre [.read maxChars]).trans hpre)
    rw [additions_append_reads] at hmore
    exact hmore.length_le.trans h

/-- One unit more than fits. -/
def oneTooMany : List SessionInput :=
  [.append ⟨.stdout, 120 :: List.replicate maxOutput 97⟩, .read none]

theorem appendedText_oneTooMany :
    appendedText (additions [.append ⟨.stdout, 120 :: List.replicate maxOutput 97⟩]) =
      120 :: List.replicate maxOutput 97 := by
  have hascii : ∀ b ∈ 120 :: List.replicate maxOutput (97 : UInt8), b.toNat < 0x80 := by
    intro b hb
    rcases List.mem_cons.mp hb with rfl | hb
    · decide
    · rw [List.eq_of_mem_replicate hb]
      decide
  rw [show additions [.append _] = [_] from rfl, appendedText, List.flatMap_singleton, Addition.text,
    Utf8.decode_ascii hascii, List.map_cons, List.map_replicate]
  show ofChars (Char.ofNat 120 :: List.replicate maxOutput (Char.ofNat 97)) = _
  rw [ofChars, List.flatMap_cons, ← ofChars, ofChars_replicate (u := 97) (by decide)]
  rfl

/-- The first unit is gone, and the reader is not told. -/
theorem oneTooMany_lossy : ¬Lossless (js "ps_1") oneTooMany := by
  intro h
  have hread := (h [.append _] none List.prefix_rfl).ordered
  have hlast : sliceLast maxOutput (120 :: List.replicate maxOutput 97) =
      List.replicate maxOutput 97 := by
    rw [sliceLast, List.length_cons, List.length_replicate, Nat.add_sub_cancel_left, List.drop_one,
      List.tail_cons]
  have hreturned : delivered ((reading (js "ps_1")).trace oneTooMany) =
      (List.replicate maxOutput 97).take 65536 := by
    have hnone : delivered ((reading (js "ps_1")).trace
        [.append ⟨.stdout, 120 :: List.replicate maxOutput 97⟩]) = [] := rfl
    have hlimit : readLimit none = 65536 := by decide
    rw [oneTooMany, ← List.singleton_append, delivered_concat_read, offset_after, hnone,
      outputAfter_eq, appendedText_oneTooMany, hlast, hlimit, List.length_nil, List.drop_zero,
      List.nil_append]
  rw [oneTooMany] at hreturned
  rw [List.singleton_append, hreturned, appendedText_oneTooMany, List.take_replicate,
    Nat.min_eq_left (by rw [maxOutput]; omega), List.replicate_succ] at hread
  exact absurd (List.cons_prefix_cons.mp hread).1 (by decide)

/-! ## The events of a stream -/

/-- A data event carries at least one byte. -/
abbrev DataEvent : Type := { bytes : List UInt8 // bytes ≠ [] }

inductive ChildStream where
  | stdout
  | stderr

def ChildStream.label : ChildStream → OutputLabel
  | .stdout => .stdout
  | .stderr => .stderr

def streamBytes (events : List DataEvent) : List UInt8 := (events.map Subtype.val).flatten

/-- The text of a stream before it is cut. -/
def streamText (stream : ChildStream) (events : List DataEvent) : JsString :=
  appendedText (events.map fun e => ⟨stream.label, e.1⟩)

/-- The text of the same bytes in a single event. -/
def wholeText (stream : ChildStream) (bytes : List UInt8) : JsString :=
  if h : bytes = [] then [] else streamText stream [⟨bytes, h⟩]

/-- No character is divided and no label is repeated. -/
def ChildStream.Undivided : ChildStream → List DataEvent → Prop
  | .stdout, events => Utf8.CleanCuts (events.map Subtype.val)
  | .stderr, events => events.length ≤ 1

theorem streamText_eq (stream : ChildStream) (events : List DataEvent) :
    streamText stream events =
      ofChars ((events.map Subtype.val).flatMap fun bytes => stream.label.chars ++ Utf8.decode bytes)
    := by
  induction events with
  | nil => rfl
  | cons e events ih =>
      rw [List.map_cons, List.flatMap_cons, ofChars, List.flatMap_append, ← ofChars, ← ofChars, ← ih]
      rfl

theorem wholeText_eq (stream : ChildStream) {bytes : List UInt8} (h : bytes ≠ []) :
    wholeText stream bytes = ofChars (stream.label.chars ++ Utf8.decode bytes) := by
  rw [wholeText, dif_neg h, streamText_eq, List.map_singleton, List.flatMap_singleton]

/-- The text of standard output in a single event is its decoding. -/
theorem wholeText_stdout (bytes : List UInt8) :
    wholeText .stdout bytes = ofChars (Utf8.decode bytes) := by
  by_cases h : bytes = []
  · rw [wholeText, dif_pos h, h]
    rfl
  · rw [wholeText_eq _ h]
    rfl

theorem streamBytes_eq_nil {events : List DataEvent} : streamBytes events = [] ↔ events = [] := by
  cases events with
  | nil => simp [streamBytes]
  | cons e events =>
      have hne := e.2
      simp [streamBytes, hne]

theorem length_labelled (label : List Char) (pieces : List (List UInt8)) :
    (pieces.flatMap fun bytes => label ++ Utf8.decode bytes).length =
      label.length * pieces.length + (pieces.flatMap Utf8.decode).length := by
  induction pieces with
  | nil => simp
  | cons piece pieces ih =>
      rw [List.flatMap_cons, List.flatMap_cons, List.length_append, List.length_append, ih,
        List.length_append, List.length_cons, Nat.mul_succ]
      omega

/-- The output of a stream is the one of its bytes in a single event exactly if no event of
standard output ends inside a character and standard error comes in one event. -/
theorem outputIgnoresEvents_iff (stream : ChildStream) (events : List DataEvent) :
    streamText stream events = wholeText stream (streamBytes events) ↔ stream.Undivided events := by
  cases stream with
  | stdout =>
      rw [wholeText_stdout, streamText_eq, Utf8.ofChars_injective.eq_iff, eq_comm, streamBytes,
        ChildStream.Undivided, ← Utf8.decode_flatten_iff]
      rfl
  | stderr =>
      rw [ChildStream.Undivided]
      by_cases hempty : events = []
      · subst hempty
        exact iff_of_true rfl (Nat.zero_le _)
      · have hbytes := mt streamBytes_eq_nil.mp hempty
        rw [wholeText_eq _ hbytes, streamText_eq, Utf8.ofChars_injective.eq_iff]
        constructor
        · intro h
          have hlength := congrArg List.length h
          have hle := Utf8.length_decode_flatten_le (events.map Subtype.val)
          have hlabel : ChildStream.stderr.label.chars.length = 9 := by decide
          rw [length_labelled, List.length_append, hlabel, List.length_map, streamBytes] at hlength
          omega
        · intro h
          obtain ⟨e, rfl⟩ : ∃ e, events = [e] := by
            apply List.length_eq_one_iff.mp
            have hpos := List.length_pos_iff.mpr hempty
            omega
          simp [streamBytes]

/-- The two bytes of a letter with an accent, in one event and in two. -/
def accentWhole : List DataEvent := [⟨[0xC3, 0xA9], List.cons_ne_nil _ _⟩]

def accentDivided : List DataEvent :=
  [⟨[0xC3], List.cons_ne_nil _ _⟩, ⟨[0xA9], List.cons_ne_nil _ _⟩]

theorem accent_divided :
    streamBytes accentDivided = streamBytes accentWhole ∧
      streamText .stdout accentDivided ≠ streamText .stdout accentWhole := by
  constructor
  · rfl
  · decide +kernel

end RemoteOps
