import Beszel.Machinery.PrefixCode
import Mathlib.Data.Nat.Digits.Lemmas
import Mathlib.Data.UInt

/-!
# Agent/DockerLogs — the log stream of a container

    [stream 0 0 0 | length, big endian | payload] [stream 0 0 0 | ⋯

`decodeDockerLogStream` of `agent/docker.go`.  A multiplexed stream is a sequence of frames, of
which the payloads are kept: a frame of more than 1 MiB is an error, and the first frame with which
the payloads would exceed 5 MiB ends the text.  A reader gives its bytes and then either ends or
fails.
-/

namespace Beszel

open Machinery

namespace Agent

namespace DockerLogs

/-- `maxLogFrameSize`. -/
def maxLogFrameSize : ℕ := 1024 * 1024

/-- `maxTotalLogSize`. -/
def maxTotalLogSize : ℕ := 5 * 1024 * 1024

/-- `headerSize`. -/
def headerSize : ℕ := 8

/-- `binary.BigEndian.Uint32`, of the first four bytes. -/
def bigEndian : List UInt8 → ℕ
  | b₀ :: b₁ :: b₂ :: b₃ :: _ =>
    ((b₀.toNat * 256 + b₁.toNat) * 256 + b₂.toNat) * 256 + b₃.toNat
  | _ => 0

/-- The errors: that of the reader, or the text about a frame. -/
inductive LogError (ε : Type)
  | reader (err : ε)
  | frame (text : String)
  deriving DecidableEq

/-- The text about a frame that is too large. -/
def frameSizeText (frameLen : ℕ) : String :=
  s!"log frame size ({frameLen}) exceeds maximum ({maxLogFrameSize})"

variable {ε : Type}

/-- The loop over the frames: what it writes and the error it ends with.  `fails` is how the reader
fails after its bytes, `none` if it ends there. -/
def decodeFrames (fails : Option ε) (bytes : List UInt8) (totalBytesRead : ℕ) :
    List UInt8 × Option (LogError ε) :=
  if bytes.length < headerSize then ([], fails.map .reader)
  else
    let frameLen := bigEndian (bytes.drop 4)
    let rest := bytes.drop headerSize
    if frameLen = 0 then decodeFrames fails rest totalBytesRead
    else if frameLen > maxLogFrameSize then ([], some (.frame (frameSizeText frameLen)))
    else if totalBytesRead + frameLen > maxTotalLogSize then ([], none)
    else if rest.length < frameLen then (rest, fails.map .reader)
    else
      let (written, err) :=
        decodeFrames fails (rest.drop frameLen) (totalBytesRead + frameLen)
      (rest.take frameLen ++ written, err)
termination_by bytes.length
decreasing_by
  all_goals
    simp only [List.length_drop]
    unfold headerSize at *
    omega

/-- **`decodeDockerLogStream`.** -/
def decodeDockerLogStream (fails : Option ε) (bytes : List UInt8) (multiplexed : Bool) :
    List UInt8 × Option (LogError ε) :=
  if multiplexed then decodeFrames fails bytes 0
  else
    (bytes.take maxTotalLogSize,
      if bytes.length < maxTotalLogSize then fails.map .reader else none)

/-! ## Frames -/

/-- A frame: the stream byte, three bytes that are not read, and the payload. -/
structure Frame where
  stream : UInt8
  unread : UInt8 × UInt8 × UInt8
  payload : List UInt8
  fits : payload.length ≤ maxLogFrameSize

/-- `binary.BigEndian.PutUint32`. -/
def putBigEndian (n : ℕ) : List UInt8 :=
  [UInt8.ofNat (n / 16777216), UInt8.ofNat (n / 65536), UInt8.ofNat (n / 256), UInt8.ofNat n]

namespace Frame

/-- The eight bytes before the payload. -/
def header (f : Frame) : List UInt8 :=
  [f.stream, f.unread.1, f.unread.2.1, f.unread.2.2] ++ putBigEndian f.payload.length

/-- The bytes of a frame. -/
def bytes (f : Frame) : List UInt8 := f.header ++ f.payload

/-- The payloads of a list of frames. -/
def text (fs : List Frame) : List UInt8 := fs.flatMap payload

end Frame

/-- The number that four bytes hold. -/
theorem bigEndian_putBigEndian {n : ℕ} (hn : n < 2 ^ 32) (rest : List UInt8) :
    bigEndian (putBigEndian n ++ rest) = n := by
  simp only [putBigEndian, List.cons_append, bigEndian, UInt8.toNat_ofNat']
  omega

/-- A header announces the payload behind it. -/
theorem bigEndian_bytes (f : Frame) (rest : List UInt8) :
    bigEndian ((f.bytes ++ rest).drop 4) = f.payload.length := by
  have hlt : f.payload.length < 2 ^ 32 := f.fits.trans_lt (by decide)
  rw [Frame.bytes, Frame.header, List.append_assoc, List.append_assoc]
  exact bigEndian_putBigEndian hlt _

theorem drop_bytes (f : Frame) (rest : List UInt8) :
    (f.bytes ++ rest).drop headerSize = f.payload ++ rest := by
  rw [Frame.bytes, List.append_assoc]
  rfl

theorem length_bytes (f : Frame) : f.bytes.length = headerSize + f.payload.length := by
  rw [Frame.bytes, List.length_append]
  rfl

/-- **The frames are the words of a prefix code.** -/
def frames : PrefixCode Frame UInt8 where
  word := Frame.bytes
  ne_nil f h := absurd h (List.ne_nil_of_length_pos (by
    rw [length_bytes]
    exact Nat.add_pos_left (by decide) _))
  inj {f g r r'} h := by
    have hlen : f.payload.length = g.payload.length := by
      rw [← bigEndian_bytes f r, h, bigEndian_bytes]
    have hrest : f.payload ++ r = g.payload ++ r' := by rw [← drop_bytes, h, drop_bytes]
    have hfirst : (f.bytes ++ r).take 4 = (g.bytes ++ r').take 4 := congrArg (List.take 4) h
    obtain ⟨stream, unread, payload, fits⟩ := f
    obtain ⟨stream', unread', payload', fits'⟩ := g
    obtain rfl : payload = payload' := (List.append_inj hrest hlen).1
    simp only [Frame.bytes, Frame.header, List.cons_append, List.take_succ_cons, List.take_zero,
      List.cons.injEq, and_true] at hfirst
    obtain ⟨rfl, h₁, h₂, h₃⟩ := hfirst
    obtain rfl : unread = unread' := Prod.ext h₁ (Prod.ext h₂ h₃)
    rfl

/-! ## What is written -/

/-- The length that the header at the front announces. -/
def announced (rest : List UInt8) : ℕ := bigEndian (rest.drop 4)

/-- The part of a truncated frame that is there. -/
def available (rest : List UInt8) : List UInt8 :=
  if announced rest ≤ maxLogFrameSize then rest.drop headerSize else []

/-- **The frames up to the first that would push the total above 5 MiB.** -/
def admitted (total : ℕ) : List Frame → List Frame
  | [] => []
  | f :: fs =>
    if total + f.payload.length ≤ maxTotalLogSize then
      f :: admitted (total + f.payload.length) fs
    else []

variable {fails : Option ε} {rest : List UInt8} {total : ℕ}

@[simp] theorem text_nil : Frame.text [] = [] := rfl

@[simp] theorem text_cons (f : Frame) (fs : List Frame) :
    Frame.text (f :: fs) = f.payload ++ Frame.text fs := List.flatMap_cons

theorem length_text_admitted (htotal : total ≤ maxTotalLogSize) (fs : List Frame) :
    total + (Frame.text (admitted total fs)).length ≤ maxTotalLogSize := by
  induction fs generalizing total with
  | nil => exact htotal
  | cons f fs ih =>
    unfold admitted
    split_ifs with h
    · rw [text_cons, List.length_append, ← add_assoc]
      exact ih h
    · exact htotal

theorem admitted_eq_self {fs : List Frame} (h : total + (Frame.text fs).length ≤ maxTotalLogSize) :
    admitted total fs = fs := by
  induction fs generalizing total with
  | nil => rfl
  | cons f fs ih =>
    rw [text_cons, List.length_append, ← add_assoc] at h
    rw [admitted, if_pos (Nat.le_of_add_right_le h), ih h]

/-- A frame that is cut off is not complete. -/
theorem stuck_of_lt (h : rest.length < headerSize + announced rest) : frames.Stuck rest := by
  rintro f ⟨r, rfl⟩
  have hlen : (f.bytes ++ r).length < headerSize + f.payload.length := by
    rw [← bigEndian_bytes f r]
    exact h
  rw [List.length_append, length_bytes] at hlen
  omega

/-- **Where no complete frame stands at the front**, there is no header, or its frame is too large
or cut off. -/
theorem lt_of_stuck (h : frames.Stuck rest) (hheader : headerSize ≤ rest.length)
    (hmax : announced rest ≤ maxLogFrameSize) : (rest.drop headerSize).length < announced rest := by
  by_contra hlen
  rw [not_lt] at hlen
  obtain ⟨b₀, b₁, b₂, b₃, b₄, b₅, b₆, b₇, rest, rfl⟩ :
      ∃ b₀ b₁ b₂ b₃ b₄ b₅ b₆ b₇ r, rest = b₀ :: b₁ :: b₂ :: b₃ :: b₄ :: b₅ :: b₆ :: b₇ :: r := by
    match rest, hheader with
    | b₀ :: b₁ :: b₂ :: b₃ :: b₄ :: b₅ :: b₆ :: b₇ :: r, _ =>
      exact ⟨b₀, b₁, b₂, b₃, b₄, b₅, b₆, b₇, r, rfl⟩
  set n := announced (b₀ :: b₁ :: b₂ :: b₃ :: b₄ :: b₅ :: b₆ :: b₇ :: rest) with hn
  have htake : (rest.take n).length = n := List.length_take_of_le hlen
  refine h ⟨b₀, (b₁, b₂, b₃), rest.take n, htake.trans_le hmax⟩ ⟨rest.drop n, ?_⟩
  have hput : putBigEndian n = [b₄, b₅, b₆, b₇] := by
    have h₄ := b₄.toNat_lt
    have h₅ := b₅.toNat_lt
    have h₆ := b₆.toNat_lt
    have h₇ := b₇.toNat_lt
    have hval : n = ((b₄.toNat * 256 + b₅.toNat) * 256 + b₆.toNat) * 256 + b₇.toNat := hn
    simp only [putBigEndian, List.cons.injEq, and_true, ← UInt8.toNat_inj, UInt8.toNat_ofNat']
    omega
  change (Frame.bytes _ ++ rest.drop n) = _
  rw [Frame.bytes, Frame.header]
  dsimp only
  rw [htake, hput, List.append_assoc, List.append_assoc, List.take_append_drop]
  rfl

/-! ## The loop -/

/-- **One frame.** -/
theorem decodeFrames_frame (f : Frame) (htotal : total ≤ maxTotalLogSize) :
    decodeFrames fails (f.bytes ++ rest) total =
      if total + f.payload.length ≤ maxTotalLogSize then
        (f.payload ++ (decodeFrames fails rest (total + f.payload.length)).1,
          (decodeFrames fails rest (total + f.payload.length)).2)
      else ([], none) := by
  have hheader : ¬ (f.bytes ++ rest).length < headerSize := by
    rw [List.length_append, length_bytes]
    omega
  have hfits : ¬ f.payload.length > maxLogFrameSize := not_lt.mpr f.fits
  have hlen : ¬ (f.payload ++ rest).length < f.payload.length := by
    rw [List.length_append]
    omega
  rw [decodeFrames, if_neg hheader, bigEndian_bytes, drop_bytes]
  dsimp only
  by_cases hempty : f.payload.length = 0
  · obtain hnil : f.payload = [] := List.length_eq_zero_iff.mp hempty
    rw [if_pos hempty, hempty, add_zero, if_pos htotal, hnil]
    rfl
  · rw [if_neg hempty, if_neg hfits, if_neg hlen, List.drop_left, List.take_left]
    by_cases hlimit : total + f.payload.length ≤ maxTotalLogSize
    · rw [if_pos hlimit, if_neg (not_lt.mpr hlimit)]
    · rw [if_neg hlimit, if_pos (not_le.mp hlimit)]

/-- **A list of frames**: they are written if they fit, else those before the limit are. -/
theorem decodeFrames_encode (fs : List Frame) (htotal : total ≤ maxTotalLogSize) :
    decodeFrames fails (frames.encode fs ++ rest) total =
      if total + (Frame.text fs).length ≤ maxTotalLogSize then
        (Frame.text fs ++ (decodeFrames fails rest (total + (Frame.text fs).length)).1,
          (decodeFrames fails rest (total + (Frame.text fs).length)).2)
      else (Frame.text (admitted total fs), none) := by
  induction fs generalizing total with
  | nil => rw [text_nil, List.length_nil, add_zero, if_pos htotal]; rfl
  | cons f fs ih =>
    rw [PrefixCode.encode_cons, List.append_assoc]
    refine (decodeFrames_frame f htotal).trans ?_
    rw [text_cons, List.length_append, ← add_assoc, admitted]
    by_cases hf : total + f.payload.length ≤ maxTotalLogSize
    · rw [if_pos hf, if_pos hf, ih hf]
      split_ifs
      · rw [List.append_assoc]
      · rw [text_cons]
    · have hfs : ¬ total + f.payload.length + (Frame.text fs).length ≤ maxTotalLogSize :=
        fun h => hf (Nat.le_of_add_right_le h)
      rw [if_neg hf, if_neg hf, if_neg hfs, text_nil]

/-- **What is left behind the last complete frame**: the part of a truncated frame is written unless
the frame would exceed the limit, and a frame that is too large is an error. -/
theorem decodeFrames_stuck (hrest : frames.Stuck rest) :
    decodeFrames fails rest total =
      if rest.length < headerSize then ([], fails.map .reader)
      else if announced rest > maxLogFrameSize then
        ([], some (.frame (frameSizeText (announced rest))))
      else if total + announced rest > maxTotalLogSize then ([], none)
      else (rest.drop headerSize, fails.map .reader) := by
  rw [decodeFrames]
  split_ifs with hheader hmax
  · rfl
  · have hne : announced rest ≠ 0 := Nat.ne_of_gt (Nat.zero_lt_of_lt hmax)
    change (if announced rest = 0 then _ else if announced rest > maxLogFrameSize then _ else _) = _
    rw [if_neg hne, if_pos hmax]
    rfl
  all_goals
    have hlt := lt_of_stuck hrest (not_lt.mp hheader) (not_lt.mp hmax)
    change (if announced rest = 0 then _ else if announced rest > maxLogFrameSize then _
      else if total + announced rest > maxTotalLogSize then _
      else if (rest.drop headerSize).length < announced rest then _ else _) = _
    rw [if_neg (Nat.ne_of_gt (Nat.zero_lt_of_lt hlt)), if_neg hmax]
  · rename_i hlimit
    rw [if_pos hlimit]
  · rename_i hlimit
    rw [if_neg hlimit, if_pos hlt]

/-! ## The stream -/

/-- What is left of a text behind its first frames. -/
def behind (bytes : List UInt8) (fs : List Frame) : List UInt8 :=
  bytes.drop (frames.encode fs).length

/-- **What stands in a text**: the frames before the limit, and behind the last complete one the
part of a truncated frame that would not exceed it. -/
def content (bytes : List UInt8) (fs : List Frame) : List UInt8 :=
  Frame.text (admitted 0 fs) ++
    if (Frame.text fs).length + announced (behind bytes fs) ≤ maxTotalLogSize then
      available (behind bytes fs)
    else []

theorem available_eq_nil (h : rest.length < headerSize) : available rest = [] := by
  unfold available
  split_ifs
  · exact List.drop_eq_nil_iff.mpr h.le
  · rfl

/-- **What decoding writes is what stands in the text.** -/
theorem fst_decodeDockerLogStream (fails : Option ε) (fs : List Frame) (hrest : frames.Stuck rest) :
    (decodeDockerLogStream fails (frames.encode fs ++ rest) true).1 =
      content (frames.encode fs ++ rest) fs := by
  have hbehind : behind (frames.encode fs ++ rest) fs = rest := List.drop_left
  rw [decodeDockerLogStream, if_pos rfl, decodeFrames_encode fs (Nat.zero_le _), zero_add, content,
    hbehind]
  by_cases hfs : (Frame.text fs).length ≤ maxTotalLogSize
  · rw [if_pos hfs, admitted_eq_self (by rwa [zero_add]), decodeFrames_stuck hrest]
    by_cases hheader : rest.length < headerSize
    · rw [if_pos hheader, available_eq_nil hheader, ite_self]
    · rw [if_neg hheader, available]
      by_cases hmax : announced rest > maxLogFrameSize
      · rw [if_pos hmax, if_neg (not_le.mpr hmax), ite_self]
      · rw [if_neg hmax, if_pos (not_lt.mp hmax)]
        by_cases hlimit : (Frame.text fs).length + announced rest ≤ maxTotalLogSize
        · rw [if_pos hlimit, if_neg (not_lt.mpr hlimit)]
        · rw [if_neg hlimit, if_pos (not_le.mp hlimit)]
  · have hlimit : ¬ (Frame.text fs).length + announced rest ≤ maxTotalLogSize :=
      fun h => hfs (Nat.le_of_add_right_le h)
    rw [if_neg hfs, if_neg hlimit, List.append_nil]

/-- **When decoding fails**: the reader does, or a frame behind the complete ones is too large. -/
theorem snd_decodeDockerLogStream (fs : List Frame) (hrest : frames.Stuck rest)
    {err : LogError ε}
    (h : (decodeDockerLogStream fails (frames.encode fs ++ rest) true).2 = some err) :
    (∃ e, fails = some e ∧ err = .reader e) ∨
      headerSize ≤ rest.length ∧ maxLogFrameSize < announced rest ∧
        err = .frame (frameSizeText (announced rest)) := by
  have hreader : fails.map .reader = some err → ∃ e, fails = some e ∧ err = .reader e := by
    intro h
    obtain ⟨e, he, rfl⟩ := Option.map_eq_some_iff.mp h
    exact ⟨e, he, rfl⟩
  rw [decodeDockerLogStream, if_pos rfl, decodeFrames_encode fs (Nat.zero_le _)] at h
  split_ifs at h
  · rw [decodeFrames_stuck hrest] at h
    split_ifs at h with hheader hmax hlimit
    · exact .inl (hreader h)
    · cases h
      exact .inr ⟨not_lt.mp hheader, hmax, rfl⟩
    · exact .inl (hreader h)

theorem length_content_le (bytes : List UInt8) {fs : List Frame}
    (hrest : frames.Stuck (behind bytes fs)) : (content bytes fs).length ≤ maxTotalLogSize := by
  have hadmitted := length_text_admitted (Nat.zero_le maxTotalLogSize) fs
  rw [zero_add] at hadmitted
  rw [content, List.length_append]
  split_ifs with hlimit
  · have hfs : admitted 0 fs = fs := by
      refine admitted_eq_self ?_
      rw [zero_add]
      exact Nat.le_of_add_right_le hlimit
    have havailable : (available (behind bytes fs)).length ≤ announced (behind bytes fs) := by
      by_cases hheader : headerSize ≤ (behind bytes fs).length
      · unfold available
        split_ifs with hmax
        · exact (lt_of_stuck hrest hheader hmax).le
        · exact Nat.zero_le _
      · rw [available_eq_nil (not_le.mp hheader)]
        exact Nat.zero_le _
    rw [hfs]
    exact (Nat.add_le_add_left havailable _).trans hlimit
  · exact hadmitted

/-- **The log stream of a container is decoded.**  Of a list of frames the payloads are written, up
to the first frame that would push the total above 5 MiB.  Of any text at most 5 MiB are written,
namely what stands in it behind its longest run of complete frames and before; an error is that of
the reader or is about a frame of more than 1 MiB. -/
theorem decodeDockerLogStream_frames (fails : Option ε) :
    (∀ fs : List Frame, (decodeDockerLogStream fails (frames.encode fs) true).1 =
        Frame.text (admitted 0 fs)) ∧
      ∀ bytes : List UInt8,
        (decodeDockerLogStream fails bytes true).1.length ≤ maxTotalLogSize ∧
        ∃ fs, frames.Longest fs bytes ∧
          (decodeDockerLogStream fails bytes true).1 = content bytes fs ∧
          ∀ err, (decodeDockerLogStream fails bytes true).2 = some err →
            (∃ e, fails = some e ∧ err = .reader e) ∨
              headerSize ≤ (behind bytes fs).length ∧
                maxLogFrameSize < announced (behind bytes fs) ∧
                err = .frame (frameSizeText (announced (behind bytes fs))) := by
  constructor
  · intro fs
    have hstuck : frames.Stuck [] := stuck_of_lt (by decide)
    have h := fst_decodeDockerLogStream fails fs hstuck
    have hbehind : behind (frames.encode fs ++ []) fs = [] := List.drop_left
    rw [content, hbehind, available_eq_nil (by decide), ite_self, List.append_nil,
      List.append_nil] at h
    exact h
  · intro bytes
    obtain ⟨fs, rest, hstuck, rfl⟩ := frames.exists_stuck bytes
    have hbehind : behind (frames.encode fs ++ rest) fs = rest := List.drop_left
    have hwritten := fst_decodeDockerLogStream fails fs hstuck
    refine ⟨?_, fs, PrefixCode.longest_of_stuck hstuck, hwritten, fun err herr => ?_⟩
    · rw [hwritten]
      exact length_content_le _ (hbehind.symm ▸ hstuck)
    · rw [hbehind]
      exact snd_decodeDockerLogStream fs hstuck herr

/-! ### A truncated frame that would exceed the limit -/

/-- A frame of zeros, two bytes less than 1 MiB. -/
def zeros : Frame := ⟨1, (0, 0, 0), List.replicate (maxLogFrameSize - 2) 0, by simp⟩

theorem length_payload_zeros : zeros.payload.length = maxLogFrameSize - 2 := List.length_replicate

/-- Five bytes of a frame of a hundred. -/
def cutOff : List UInt8 := [1, 0, 0, 0, 0, 0, 0, 100, 1, 2, 3, 4, 5]

/-- **The part of a truncated frame is not always written.** -/
theorem not_available :
    ¬ ∀ (fails : Option Unit) (bytes : List UInt8) (fs : List Frame), frames.Longest fs bytes →
      (decodeDockerLogStream fails bytes true).1 =
        Frame.text (admitted 0 fs) ++ available (behind bytes fs) := by
  intro h
  obtain ⟨fs, hlen⟩ : ∃ fs : List Frame, (Frame.text fs).length = 5 * (maxLogFrameSize - 2) := by
    refine ⟨List.replicate 5 zeros, ?_⟩
    rw [Frame.text, List.length_flatMap, List.map_replicate, List.sum_replicate_nat,
      length_payload_zeros]
  have hstuck : frames.Stuck cutOff := stuck_of_lt (by decide)
  have hbehind : behind (frames.encode fs ++ cutOff) fs = cutOff := List.drop_left
  have hexceeds : ¬ (Frame.text fs).length + announced cutOff ≤ maxTotalLogSize := by
    rw [hlen]
    decide
  have hwritten := h none _ fs (PrefixCode.longest_of_stuck hstuck)
  rw [fst_decodeDockerLogStream none _ hstuck, content, hbehind, if_neg hexceeds] at hwritten
  have hnil := List.append_cancel_left hwritten
  exact absurd hnil (by decide)

end DockerLogs

end Agent

end Beszel
