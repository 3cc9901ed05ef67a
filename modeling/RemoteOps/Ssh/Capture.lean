import Mathlib.Data.List.Basic
import Mathlib.Data.List.Induction
import Mathlib.Data.List.TakeDrop
import Mathlib.Tactic.Common

/-!
# Bounded capture of the output of a command

The SSH pool, the agent and the broker for managed administration keep the beginning of what a
command writes. Each has its own copy of `append`, which adds a chunk to the buffer up to a cap
and sets a flag when it leaves something out. The flag of a command is one for both streams.

The bytes kept are always the beginning of the stream. The flag is also set by an empty chunk
that comes when the buffer is exactly full, although nothing is left out (`capture_iff`).
-/

namespace RemoteOps

/-! ## Model -/

structure Capture where
  bytes : List UInt8 := []
  truncated : Bool := false
  deriving DecidableEq

/-- `append(buf, chunk, cap)`. -/
def append (cap : ℕ) (c : Capture) (chunk : List UInt8) : Capture :=
  if cap ≤ c.bytes.length then { c with truncated := true }
  else if cap < c.bytes.length + chunk.length then
    ⟨c.bytes ++ chunk.take (cap - c.bytes.length), true⟩
  else { c with bytes := c.bytes ++ chunk }

/-- The chunks of one stream, one after the other. -/
def capture (cap : ℕ) (chunks : List (List UInt8)) : Capture := chunks.foldl (append cap) {}

inductive OutputChunk where
  | stdout (bytes : List UInt8)
  | stderr (bytes : List UInt8)

structure CommandOutput where
  stdout : List UInt8 := []
  stderr : List UInt8 := []
  truncated : Bool := false
  deriving DecidableEq

/-- The two handlers of the event `data`. -/
def CommandOutput.receive (outCap errCap : ℕ) (o : CommandOutput) : OutputChunk → CommandOutput
  | .stdout chunk =>
      let c := append outCap ⟨o.stdout, o.truncated⟩ chunk
      { o with stdout := c.bytes, truncated := c.truncated }
  | .stderr chunk =>
      let c := append errCap ⟨o.stderr, o.truncated⟩ chunk
      { o with stderr := c.bytes, truncated := c.truncated }

def commandOutput (outCap errCap : ℕ) (chunks : List OutputChunk) : CommandOutput :=
  chunks.foldl (CommandOutput.receive outCap errCap) {}

/-- `sshExec` and `executeAgentOperation`. -/
def execOutput (maxBytes : ℕ) (chunks : List OutputChunk) : CommandOutput :=
  commandOutput maxBytes (min maxBytes 65536) chunks

/-- The execution of a ticket by the broker. -/
def brokerOutput (maxOutputBytes : ℕ) (chunks : List OutputChunk) : CommandOutput :=
  commandOutput maxOutputBytes maxOutputBytes chunks

/-! ## One stream -/

/-- What the capture of a stream is to be. -/
structure IsBoundedPrefix (cap : ℕ) (stream : List UInt8) (c : Capture) : Prop where
  bytes : c.bytes = stream.take (min stream.length cap)
  truncated : c.truncated = true ↔ cap < stream.length

/-- The stream fills the buffer exactly, and an empty chunk comes after that. -/
def EmptyWhenFull (cap : ℕ) (chunks : List (List UInt8)) : Prop :=
  chunks.flatten.length = cap ∧
    ∃ pre post, chunks = pre ++ [] :: post ∧ pre.flatten.length = cap

@[simp] theorem capture_nil (cap : ℕ) : capture cap [] = {} := rfl

theorem capture_concat (cap : ℕ) (chunks : List (List UInt8)) (chunk : List UInt8) :
    capture cap (chunks ++ [chunk]) = append cap (capture cap chunks) chunk := by
  rw [capture, List.foldl_concat]
  rfl

theorem append_bytes {cap : ℕ} {c : Capture} {stream : List UInt8}
    (h : c.bytes = stream.take cap) (chunk : List UInt8) :
    (append cap c chunk).bytes = (stream ++ chunk).take cap := by
  have hlength : c.bytes.length = min cap stream.length := by rw [h, List.length_take]
  rw [append, List.take_append]
  split_ifs with hfull hover
  · have hnone : cap - stream.length = 0 := by omega
    rw [hnone, List.take_zero, List.append_nil]
    exact h
  · have hwhole : c.bytes.length = stream.length := by omega
    rw [hwhole, h]
  · have hchunk : chunk.length ≤ cap - stream.length := by omega
    rw [List.take_of_length_le hchunk, h]

theorem append_truncated {cap : ℕ} {c : Capture} {stream : List UInt8}
    (h : c.bytes = stream.take cap) (chunk : List UInt8) :
    (append cap c chunk).truncated = true ↔
      c.truncated = true ∨ cap ≤ stream.length ∨ cap < stream.length + chunk.length := by
  have hlength : c.bytes.length = min cap stream.length := by rw [h, List.length_take]
  rw [append]
  split_ifs with hfull hover
  · exact iff_of_true rfl (Or.inr (Or.inl (by omega)))
  · exact iff_of_true rfl (Or.inr (Or.inr (by omega)))
  · constructor
    · exact Or.inl
    · rintro (htruncated | hlong | hlong)
      · exact htruncated
      · omega
      · omega

/-- However the stream is cut into chunks, its beginning is kept. -/
theorem capture_bytes (cap : ℕ) (chunks : List (List UInt8)) :
    (capture cap chunks).bytes = chunks.flatten.take cap := by
  induction chunks using List.reverseRecOn with
  | nil => simp
  | append_singleton chunks chunk ih =>
      rw [capture_concat, append_bytes ih, List.flatten_concat]

theorem emptyWhenFull_concat_nil {cap : ℕ} {chunks : List (List UInt8)} :
    EmptyWhenFull cap (chunks ++ [[]]) ↔ chunks.flatten.length = cap := by
  rw [EmptyWhenFull, List.flatten_concat, List.append_nil]
  constructor
  · exact And.left
  · intro h
    exact ⟨h, chunks, [], rfl, h⟩

/-- A chunk with bytes in it does not come after the buffer was filled. -/
theorem not_emptyWhenFull_concat {cap : ℕ} {chunks : List (List UInt8)} {chunk : List UInt8}
    (hchunk : chunk ≠ []) : ¬EmptyWhenFull cap (chunks ++ [chunk]) := by
  rintro ⟨htotal, pre, post, heq, hpre⟩
  have hpos := List.length_pos_iff.mpr hchunk
  cases post using List.reverseRecOn with
  | nil => exact hchunk (List.singleton_inj.mp (List.append_inj' heq rfl).2)
  | append_singleton post last =>
      rw [← List.cons_append, ← List.append_assoc] at heq
      obtain ⟨rfl, -⟩ := List.append_inj' heq rfl
      rw [List.flatten_concat, List.length_append, List.flatten_append, List.length_append] at htotal
      omega

/-- The flag is set when the stream is too long, and by an empty chunk to a full buffer. -/
theorem capture_truncated (cap : ℕ) (chunks : List (List UInt8)) :
    (capture cap chunks).truncated = true ↔
      cap < chunks.flatten.length ∨ EmptyWhenFull cap chunks := by
  induction chunks using List.reverseRecOn with
  | nil => simp [EmptyWhenFull]
  | append_singleton chunks chunk ih =>
      rw [capture_concat, append_truncated (capture_bytes cap chunks), ih, List.flatten_concat,
        List.length_append]
      by_cases hchunk : chunk = []
      · subst hchunk
        rw [emptyWhenFull_concat_nil, List.length_nil, Nat.add_zero]
        constructor
        · rintro ((hlong | hempty) | hlong | hlong)
          · exact Or.inl hlong
          · exact Or.inr hempty.1
          · omega
          · exact Or.inl hlong
        · omega
      · have hpos := List.length_pos_iff.mpr hchunk
        simp only [not_emptyWhenFull_concat hchunk, or_false]
        constructor
        · rintro ((hlong | hempty) | hlong | hlong)
          · omega
          · have := hempty.1
            omega
          · omega
          · exact hlong
        · exact fun hlong => Or.inr (Or.inr hlong)

/-- The capture is the bounded prefix unless an empty chunk comes to an exactly full buffer. -/
theorem capture_iff (cap : ℕ) (chunks : List (List UInt8)) :
    IsBoundedPrefix cap chunks.flatten (capture cap chunks) ↔ ¬EmptyWhenFull cap chunks := by
  constructor
  · intro h hempty
    have hlong := h.truncated.mp ((capture_truncated cap chunks).mpr (Or.inr hempty))
    have htotal := hempty.1
    omega
  · intro hempty
    refine ⟨?_, ?_⟩
    · rw [capture_bytes, Nat.min_comm, ← List.take_eq_take_min]
    · rw [capture_truncated]
      exact or_iff_left hempty

/-- One byte fills the buffer, and an empty chunk follows. -/
theorem emptyChunk_truncates :
    ¬IsBoundedPrefix 1 [([0] : List UInt8), []].flatten (capture 1 [[0], []]) := by
  intro h
  have hlong := h.truncated.mp (by decide)
  revert hlong
  decide

/-! ## Both streams -/

def OutputChunk.stdout? : OutputChunk → Option (List UInt8)
  | stdout bytes => some bytes
  | stderr _ => none

def OutputChunk.stderr? : OutputChunk → Option (List UInt8)
  | stdout _ => none
  | stderr bytes => some bytes

/-- The flag that is there before stays. -/
theorem append_of_truncated (cap : ℕ) (bytes chunk : List UInt8) (truncated : Bool) :
    append cap ⟨bytes, truncated⟩ chunk =
      ⟨(append cap ⟨bytes, false⟩ chunk).bytes,
        truncated || (append cap ⟨bytes, false⟩ chunk).truncated⟩ := by
  unfold append
  split_ifs <;> simp

theorem capture_concat_eq (cap : ℕ) (chunks : List (List UInt8)) (chunk : List UInt8) :
    capture cap (chunks ++ [chunk]) =
      ⟨(append cap ⟨(capture cap chunks).bytes, false⟩ chunk).bytes,
        (capture cap chunks).truncated ||
          (append cap ⟨(capture cap chunks).bytes, false⟩ chunk).truncated⟩ := by
  rw [capture_concat]
  exact append_of_truncated cap _ chunk (capture cap chunks).truncated

/-- Each stream is captured by itself; the flag is set when one of them sets it. -/
theorem commandOutput_eq (outCap errCap : ℕ) (chunks : List OutputChunk) :
    commandOutput outCap errCap chunks =
      ⟨(capture outCap (chunks.filterMap OutputChunk.stdout?)).bytes,
        (capture errCap (chunks.filterMap OutputChunk.stderr?)).bytes,
        (capture outCap (chunks.filterMap OutputChunk.stdout?)).truncated ||
          (capture errCap (chunks.filterMap OutputChunk.stderr?)).truncated⟩ := by
  induction chunks using List.reverseRecOn with
  | nil => rfl
  | append_singleton chunks chunk ih =>
      have hstep : commandOutput outCap errCap (chunks ++ [chunk]) =
          (commandOutput outCap errCap chunks).receive outCap errCap chunk := by
        rw [commandOutput, List.foldl_concat]
        rfl
      rw [hstep, ih, List.filterMap_append, List.filterMap_append]
      cases chunk with
      | stdout bytes =>
          have hout : [OutputChunk.stdout bytes].filterMap OutputChunk.stdout? = [bytes] := rfl
          have herr : [OutputChunk.stdout bytes].filterMap OutputChunk.stderr? = [] := rfl
          rw [hout, herr, List.append_nil, capture_concat_eq, CommandOutput.receive,
            append_of_truncated, Bool.or_right_comm]
      | stderr bytes =>
          have hout : [OutputChunk.stderr bytes].filterMap OutputChunk.stdout? = [] := rfl
          have herr : [OutputChunk.stderr bytes].filterMap OutputChunk.stderr? = [bytes] := rfl
          rw [hout, herr, List.append_nil, capture_concat_eq, CommandOutput.receive,
            append_of_truncated, Bool.or_assoc]

/-- What a command is to report of its two streams. -/
structure IsBoundedOutput (outCap errCap : ℕ) (chunks : List OutputChunk) (o : CommandOutput) :
    Prop where
  stdout : o.stdout = (chunks.filterMap OutputChunk.stdout?).flatten.take outCap
  stderr : o.stderr = (chunks.filterMap OutputChunk.stderr?).flatten.take errCap
  truncated : o.truncated = true ↔
    outCap < (chunks.filterMap OutputChunk.stdout?).flatten.length ∨
      errCap < (chunks.filterMap OutputChunk.stderr?).flatten.length

/-- An empty chunk to a full buffer goes unnoticed when the other stream is too long. -/
theorem commandOutput_iff (outCap errCap : ℕ) (chunks : List OutputChunk) :
    IsBoundedOutput outCap errCap chunks (commandOutput outCap errCap chunks) ↔
      (EmptyWhenFull outCap (chunks.filterMap OutputChunk.stdout?) →
        errCap < (chunks.filterMap OutputChunk.stderr?).flatten.length) ∧
      (EmptyWhenFull errCap (chunks.filterMap OutputChunk.stderr?) →
        outCap < (chunks.filterMap OutputChunk.stdout?).flatten.length) := by
  have htruncated : (commandOutput outCap errCap chunks).truncated = true ↔
      (outCap < (chunks.filterMap OutputChunk.stdout?).flatten.length ∨
        EmptyWhenFull outCap (chunks.filterMap OutputChunk.stdout?)) ∨
      errCap < (chunks.filterMap OutputChunk.stderr?).flatten.length ∨
        EmptyWhenFull errCap (chunks.filterMap OutputChunk.stderr?) := by
    rw [commandOutput_eq, Bool.or_eq_true, capture_truncated, capture_truncated]
  constructor
  · intro h
    have hflag := htruncated.symm.trans h.truncated
    constructor
    · intro hempty
      have htotal := hempty.1
      exact (hflag.mp (Or.inl (Or.inr hempty))).resolve_left (by omega)
    · intro hempty
      have htotal := hempty.1
      exact (hflag.mp (Or.inr (Or.inr hempty))).resolve_right (by omega)
  · rintro ⟨hout, herr⟩
    refine ⟨?_, ?_, htruncated.trans ⟨?_, ?_⟩⟩
    · rw [commandOutput_eq]
      exact capture_bytes _ _
    · rw [commandOutput_eq]
      exact capture_bytes _ _
    · rintro ((hlong | hempty) | hlong | hempty)
      · exact Or.inl hlong
      · exact Or.inr (hout hempty)
      · exact Or.inr hlong
      · exact Or.inl (herr hempty)
    · exact Or.imp Or.inl Or.inl

theorem execOutput_iff (maxBytes : ℕ) (chunks : List OutputChunk) :
    IsBoundedOutput maxBytes (min maxBytes 65536) chunks (execOutput maxBytes chunks) ↔
      (EmptyWhenFull maxBytes (chunks.filterMap OutputChunk.stdout?) →
        min maxBytes 65536 < (chunks.filterMap OutputChunk.stderr?).flatten.length) ∧
      (EmptyWhenFull (min maxBytes 65536) (chunks.filterMap OutputChunk.stderr?) →
        maxBytes < (chunks.filterMap OutputChunk.stdout?).flatten.length) :=
  commandOutput_iff _ _ chunks

theorem brokerOutput_iff (maxOutputBytes : ℕ) (chunks : List OutputChunk) :
    IsBoundedOutput maxOutputBytes maxOutputBytes chunks (brokerOutput maxOutputBytes chunks) ↔
      (EmptyWhenFull maxOutputBytes (chunks.filterMap OutputChunk.stdout?) →
        maxOutputBytes < (chunks.filterMap OutputChunk.stderr?).flatten.length) ∧
      (EmptyWhenFull maxOutputBytes (chunks.filterMap OutputChunk.stderr?) →
        maxOutputBytes < (chunks.filterMap OutputChunk.stdout?).flatten.length) :=
  commandOutput_iff _ _ chunks

end RemoteOps
