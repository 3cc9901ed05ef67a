import RemoteOps.Ecma.Utf8

/-!
# Demultiplexing the stream of a Docker exec

The body of an exec is a list of frames, each with a header of eight bytes that names its
stream and the length of its payload. `demuxDockerStream` decodes the frames one by one and
stops at the first that is not complete; a body without any complete frame is taken as plain
text, and `truncated` is never set. `demuxIsExact_iff` says for which bodies that is exact.
-/

namespace RemoteOps

open Ecma

/-! ## Model -/

/-- A frame; the three bytes after the first are not looked at. -/
structure DockerFrame where
  stream : UInt8
  padding : UInt8 × UInt8 × UInt8
  payload : List UInt8
  short : payload.length < 2 ^ 32

/-- `body.readUInt32BE(i)`. -/
def readUInt32BE (a b c d : UInt8) : ℕ :=
  a.toNat * 2 ^ 24 + b.toNat * 2 ^ 16 + c.toNat * 2 ^ 8 + d.toNat

def writeUInt32BE (n : ℕ) : List UInt8 :=
  [UInt8.ofNat (n / 2 ^ 24), UInt8.ofNat (n / 2 ^ 16), UInt8.ofNat (n / 2 ^ 8), UInt8.ofNat n]

def DockerFrame.bytes (f : DockerFrame) : List UInt8 :=
  [f.stream, f.padding.1, f.padding.2.1, f.padding.2.2] ++ writeUInt32BE f.payload.length ++ f.payload

/-- What a round of the loop reads: the stream and the payload of a frame, and the rest. -/
def nextFrame : List UInt8 → Option (UInt8 × List UInt8 × List UInt8)
  | stream :: _ :: _ :: _ :: a :: b :: c :: d :: rest =>
      let len := readUInt32BE a b c d
      if rest.length < len then none else some (stream, rest.take len, rest.drop len)
  | _ => none

structure Demuxed where
  stdout : JsString
  stderr : JsString
  truncated : Bool

def textOfBytes (bytes : List UInt8) : JsString := ofChars (Utf8.decode bytes)

/-- The loop, with a unit of fuel for each byte. -/
def demuxLoop : ℕ → List UInt8 → JsString → JsString → ℕ → JsString × JsString × ℕ
  | 0, _, stdout, stderr, frames => (stdout, stderr, frames)
  | fuel + 1, body, stdout, stderr, frames =>
      match nextFrame body with
      | none => (stdout, stderr, frames)
      | some (stream, payload, rest) =>
          if stream = 2 then demuxLoop fuel rest stdout (stderr ++ textOfBytes payload) (frames + 1)
          else demuxLoop fuel rest (stdout ++ textOfBytes payload) stderr (frames + 1)

def demuxDockerStream (body : List UInt8) : Demuxed :=
  match demuxLoop body.length body [] [] 0 with
  | (stdout, stderr, frames) => ⟨if frames = 0 then textOfBytes body else stdout, stderr, false⟩

/-! ## What is claimed of a body -/

def bodyOf (frames : List DockerFrame) : List UInt8 := frames.flatMap DockerFrame.bytes

/-- The frames that lie within the first `n` bytes. -/
def completeFrames : ℕ → List DockerFrame → List DockerFrame
  | _, [] => []
  | n, f :: frames =>
      if f.bytes.length ≤ n then f :: completeFrames (n - f.bytes.length) frames else []

def payloads (isStderr : Bool) (frames : List DockerFrame) : List (List UInt8) :=
  (frames.filter fun f => (f.stream == 2) == isStderr).map DockerFrame.payload

/-- The streams of the complete frames, decoded as a whole, and whether bytes are left over. -/
structure DemuxIsExact (frames : List DockerFrame) (n : ℕ) : Prop where
  stdout : (demuxDockerStream ((bodyOf frames).take n)).stdout =
    textOfBytes (payloads false (completeFrames n frames)).flatten
  stderr : (demuxDockerStream ((bodyOf frames).take n)).stderr =
    textOfBytes (payloads true (completeFrames n frames)).flatten
  truncated : (demuxDockerStream ((bodyOf frames).take n)).truncated = true ↔
    bodyOf (completeFrames n frames) ≠ (bodyOf frames).take n

/-! ## Reading frames -/

theorem readUInt32BE_write {n : ℕ} (h : n < 2 ^ 32) :
    readUInt32BE (UInt8.ofNat (n / 2 ^ 24)) (UInt8.ofNat (n / 2 ^ 16)) (UInt8.ofNat (n / 2 ^ 8))
      (UInt8.ofNat n) = n := by
  rw [readUInt32BE, UInt8.toNat_ofNat', UInt8.toNat_ofNat', UInt8.toNat_ofNat', UInt8.toNat_ofNat']
  omega

theorem bytes_append (f : DockerFrame) (rest : List UInt8) :
    f.bytes ++ rest = f.stream :: f.padding.1 :: f.padding.2.1 :: f.padding.2.2 ::
      UInt8.ofNat (f.payload.length / 2 ^ 24) :: UInt8.ofNat (f.payload.length / 2 ^ 16) ::
      UInt8.ofNat (f.payload.length / 2 ^ 8) :: UInt8.ofNat f.payload.length ::
      (f.payload ++ rest) := by
  simp [DockerFrame.bytes, writeUInt32BE]

theorem length_bytes (f : DockerFrame) : f.bytes.length = 8 + f.payload.length := by
  simp [DockerFrame.bytes, writeUInt32BE]
  omega

theorem nextFrame_bytes_append (f : DockerFrame) (rest : List UInt8) :
    nextFrame (f.bytes ++ rest) = some (f.stream, f.payload, rest) := by
  rw [bytes_append, nextFrame, readUInt32BE_write f.short]
  rw [if_neg (by rw [List.length_append]; omega), List.take_left, List.drop_left]

/-- A frame that is cut off is not read. -/
theorem nextFrame_take (f : DockerFrame) {n : ℕ} (h : n < f.bytes.length) :
    nextFrame (f.bytes.take n) = none := by
  rw [length_bytes] at h
  have hbytes := bytes_append f []
  rw [List.append_nil, List.append_nil] at hbytes
  rw [hbytes]
  rcases lt_or_ge n 8 with hsmall | hbig
  · interval_cases n <;> rfl
  · obtain ⟨k, rfl⟩ := Nat.exists_eq_add_of_le hbig
    rw [Nat.add_comm]
    simp only [List.take_succ_cons]
    rw [nextFrame, readUInt32BE_write f.short]
    rw [if_pos (by rw [List.length_take]; omega)]

theorem bodyOf_cons (f : DockerFrame) (frames : List DockerFrame) :
    bodyOf (f :: frames) = f.bytes ++ bodyOf frames := List.flatMap_cons

/-- A truncated body is its complete frames and the beginning of one more. -/
theorem take_bodyOf (frames : List DockerFrame) (n : ℕ) :
    ∃ rest, (bodyOf frames).take n = bodyOf (completeFrames n frames) ++ rest ∧
      nextFrame rest = none := by
  induction frames generalizing n with
  | nil => exact ⟨[], by simp [bodyOf, completeFrames], rfl⟩
  | cons f frames ih =>
      by_cases hfits : f.bytes.length ≤ n
      · obtain ⟨rest, htake, hrest⟩ := ih (n - f.bytes.length)
        refine ⟨rest, ?_, hrest⟩
        rw [completeFrames, if_pos hfits, bodyOf_cons, bodyOf_cons, List.take_append,
          List.take_of_length_le hfits, htake, List.append_assoc]
      · have hcut := not_le.mp hfits
        refine ⟨f.bytes.take n, ?_, nextFrame_take f hcut⟩
        rw [completeFrames, if_neg hfits, bodyOf_cons, List.take_append_of_le_length hcut.le]
        rfl

/-! ## The loop -/

/-- The text of frames that are decoded one by one. -/
def frameTexts (isStderr : Bool) (frames : List DockerFrame) : JsString :=
  (payloads isStderr frames).flatMap textOfBytes

theorem frameTexts_cons (isStderr : Bool) (f : DockerFrame) (frames : List DockerFrame) :
    frameTexts isStderr (f :: frames) =
      (if (f.stream == 2) = isStderr then textOfBytes f.payload else []) ++
        frameTexts isStderr frames := by
  rw [frameTexts, payloads, List.filter_cons]
  by_cases h : (f.stream == 2) = isStderr
  · rw [if_pos h, if_pos (by simpa using h), List.map_cons, List.flatMap_cons]
    rfl
  · rw [if_neg h, if_neg (by simpa using h)]
    rfl

theorem demuxLoop_eq (frames : List DockerFrame) {rest : List UInt8} (hrest : nextFrame rest = none)
    {fuel : ℕ} (hfuel : frames.length ≤ fuel) (stdout stderr : JsString) (k : ℕ) :
    demuxLoop fuel (bodyOf frames ++ rest) stdout stderr k =
      (stdout ++ frameTexts false frames, stderr ++ frameTexts true frames, k + frames.length) := by
  induction frames generalizing fuel stdout stderr k with
  | nil =>
      rw [frameTexts, frameTexts, payloads, payloads, bodyOf, List.flatMap_nil, List.nil_append]
      cases fuel with
      | zero => simp [demuxLoop]
      | succ fuel => simp [demuxLoop, hrest]
  | cons f frames ih =>
      cases fuel with
      | zero => simp at hfuel
      | succ fuel =>
          rw [List.length_cons, Nat.succ_le_succ_iff] at hfuel
          rw [bodyOf_cons, List.append_assoc, demuxLoop, nextFrame_bytes_append, frameTexts_cons,
            frameTexts_cons, List.length_cons]
          dsimp only
          by_cases hstream : f.stream = 2
          · rw [if_pos hstream, ih hfuel]
            simp [hstream, Nat.add_comm, Nat.add_left_comm]
          · rw [if_neg hstream, ih hfuel]
            simp [hstream, Nat.add_comm, Nat.add_left_comm]

theorem length_le_bodyOf (frames : List DockerFrame) : frames.length ≤ (bodyOf frames).length := by
  induction frames with
  | nil => exact le_rfl
  | cons f frames ih =>
      rw [bodyOf_cons, List.length_append, List.length_cons, length_bytes]
      omega

/-- The outputs for a body of frames, and bytes behind it that are no frame. -/
theorem demuxDockerStream_eq (frames : List DockerFrame) {rest : List UInt8}
    (hrest : nextFrame rest = none) :
    demuxDockerStream (bodyOf frames ++ rest) =
      ⟨if frames = [] then textOfBytes rest else frameTexts false frames, frameTexts true frames,
        false⟩ := by
  have hfuel : frames.length ≤ (bodyOf frames ++ rest).length := by
    have hle := length_le_bodyOf frames
    rw [List.length_append]
    omega
  rw [demuxDockerStream, demuxLoop_eq frames hrest hfuel, List.nil_append, List.nil_append,
    Nat.zero_add]
  cases frames with
  | nil => rfl
  | cons f frames => simp

theorem frameTexts_eq_iff (isStderr : Bool) (frames : List DockerFrame) :
    frameTexts isStderr frames = textOfBytes (payloads isStderr frames).flatten ↔
      Utf8.CleanCuts (payloads isStderr frames) := by
  have htexts : frameTexts isStderr frames = ofChars ((payloads isStderr frames).flatMap Utf8.decode)
      := by
    rw [frameTexts]
    induction payloads isStderr frames with
    | nil => rfl
    | cons piece pieces ih =>
        rw [List.flatMap_cons, List.flatMap_cons, ih, ofChars, ofChars, List.flatMap_append]
        rfl
  rw [htexts, textOfBytes, Utf8.ofChars_injective.eq_iff, eq_comm, Utf8.decode_flatten_iff]

/-- Demultiplexing is exact exactly if no bytes are left over and no frame of either stream ends
inside a character that the next one of the stream goes on with. -/
theorem demuxIsExact_iff (frames : List DockerFrame) (n : ℕ) :
    DemuxIsExact frames n ↔
      bodyOf (completeFrames n frames) = (bodyOf frames).take n ∧
        Utf8.CleanCuts (payloads false (completeFrames n frames)) ∧
        Utf8.CleanCuts (payloads true (completeFrames n frames)) := by
  obtain ⟨rest, htake, hrest⟩ := take_bodyOf frames n
  have hdemux := demuxDockerStream_eq (completeFrames n frames) hrest
  rw [← htake] at hdemux
  constructor
  · rintro ⟨hstdout, hstderr, htruncated⟩
    rw [hdemux] at hstdout hstderr htruncated
    have hwhole : bodyOf (completeFrames n frames) = (bodyOf frames).take n := by
      by_contra hleft
      exact Bool.false_ne_true (htruncated.mpr hleft)
    refine ⟨hwhole, ?_, (frameTexts_eq_iff true _).mp hstderr⟩
    by_cases hnone : completeFrames n frames = []
    · rw [hnone]
      exact trivial
    · rw [if_neg hnone] at hstdout
      exact (frameTexts_eq_iff false _).mp hstdout
  · rintro ⟨hwhole, hstdout, hstderr⟩
    have hnothing : rest = [] := by
      rw [← hwhole] at htake
      exact List.self_eq_append_right.mp htake
    constructor
    · rw [hdemux]
      dsimp only
      split_ifs with hnone
      · rw [hnone, hnothing]
        rfl
      · exact (frameTexts_eq_iff false _).mpr hstdout
    · rw [hdemux]
      exact (frameTexts_eq_iff true _).mpr hstderr
    · rw [hdemux]
      exact ⟨fun h => Bool.noConfusion h, fun h => absurd hwhole h⟩

/-- A letter with an accent in two frames of standard output. -/
def accentInTwo : List DockerFrame :=
  [⟨1, (0, 0, 0), [0xC3], by decide⟩, ⟨1, (0, 0, 0), [0xA9], by decide⟩]

theorem accentInTwo_not_exact : ¬DemuxIsExact accentInTwo 18 := by
  intro h
  have hstdout := h.stdout
  revert hstdout
  decide +kernel

end RemoteOps
