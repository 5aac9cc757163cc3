import Beszel.Agent.DockerLogs
import Beszel.Machinery.Erase

/-!
# Agent/LogText — the text of a log

    frames ──payloads──▸ bytes ──ansiEscapePattern──▸ text

`getLogs` of `agent/docker.go`: the payloads of the frames are joined, and the escape sequences of
terminals are taken out of what they are together, so a sequence may be cut between two frames.  The
pattern is `\x1b\[[0-9;]*[a-zA-Z]|\x1b\][^\x07]*\x07|\x1b[@-Z\\-_]`.
-/

namespace Beszel

open Machinery

namespace Agent

namespace LogText

open DockerLogs

/-! ## Escape sequences -/

/-- `[0-9;]`. -/
def isParam (b : UInt8) : Bool := 0x30 ≤ b && b ≤ 0x39 || b = 0x3b

/-- `[a-zA-Z]`. -/
def isLetter (b : UInt8) : Bool := 0x61 ≤ b && b ≤ 0x7a || 0x41 ≤ b && b ≤ 0x5a

/-- `[@-Z\\-_]`. -/
def isSimple (b : UInt8) : Bool := 0x40 ≤ b && b ≤ 0x5a || 0x5c ≤ b && b ≤ 0x5f

/-- `\x1b\[[0-9;]*[a-zA-Z]`. -/
def matchCsi : List UInt8 → Option ℕ
  | 0x1b :: 0x5b :: rest =>
    let params := rest.takeWhile isParam
    match rest.drop params.length with
    | c :: _ => if isLetter c then some (params.length + 3) else none
    | [] => none
  | _ => none

/-- `\x1b\][^\x07]*\x07`. -/
def matchOsc : List UInt8 → Option ℕ
  | 0x1b :: 0x5d :: rest =>
    let body := rest.takeWhile (· ≠ 0x07)
    if body.length < rest.length then some (body.length + 3) else none
  | _ => none

/-- `\x1b[@-Z\\-_]`. -/
def matchSimple : List UInt8 → Option ℕ
  | 0x1b :: c :: _ => if isSimple c then some 2 else none
  | _ => none

/-- `ansiEscapePattern`: the first alternative that matches. -/
def ansiEscapePattern (text : List UInt8) : Option ℕ :=
  (matchCsi text).or ((matchOsc text).or (matchSimple text))

/-! ## The log -/

/-- What the request for a log gives; `fails` is how the body fails after its bytes. -/
structure Response (ε : Type) where
  statusCode : ℕ
  status : String
  contentType : String
  body : List UInt8
  fails : Option ε

/-- The errors of `getLogs`: of the request, of another status with the start of the body, and of
the stream. -/
inductive LogsError (ε : Type)
  | request (err : ε)
  | status (status : String) (body : List UInt8)
  | stream (err : LogError ε)

/-- The content type of a stream with frames. -/
def multiplexedStream : String := "application/vnd.docker.multiplexed-stream"

/-- **`getLogs`.** -/
def getLogs {ε : Type} (resp : Except ε (Response ε)) : Except (LogsError ε) (List UInt8) :=
  match resp with
  | .error err => .error (.request err)
  | .ok resp =>
    if resp.statusCode ≠ 200 then .error (.status resp.status (resp.body.take 1024))
    else
      match decodeDockerLogStream resp.fails resp.body (resp.contentType = multiplexedStream) with
      | (_, some err) => .error (.stream err)
      | (logs, none) => .ok (if 0x1b ∈ logs then erase ansiEscapePattern logs else logs)

/-! ## Pieces of a log -/

/-- **A piece of a log**: text without an escape, or a sequence.  The simple sequence that starts
what the second alternative matches is none. -/
inductive Piece
  | text (bytes : List UInt8) (h : 0x1b ∉ bytes)
  | csi (params : List UInt8) (final : UInt8) (hparams : ∀ b ∈ params, isParam b)
      (hfinal : isLetter final)
  | osc (body : List UInt8) (h : 0x07 ∉ body)
  | simple (c : UInt8) (hc : isSimple c) (hosc : c ≠ 0x5d)

/-- The bytes of a piece. -/
def Piece.bytes : Piece → List UInt8
  | text bytes _ => bytes
  | csi params final _ _ => 0x1b :: 0x5b :: (params ++ [final])
  | osc body _ => 0x1b :: 0x5d :: (body ++ [0x07])
  | simple c _ _ => [0x1b, c]

/-- What is to be read of a piece. -/
def Piece.visible : Piece → List UInt8
  | text bytes _ => bytes
  | _ => []

/-- A sequence starts with an escape. -/
theorem ansiEscapePattern_of_ne {c : UInt8} (hc : c ≠ 0x1b) (l : List UInt8) :
    ansiEscapePattern (c :: l) = none := by
  have hcsi : matchCsi (c :: l) = none := by
    unfold matchCsi
    split
    · rename_i heq
      exact absurd (List.cons.inj heq).1 hc
    · rfl
  have hosc : matchOsc (c :: l) = none := by
    unfold matchOsc
    split
    · rename_i heq
      exact absurd (List.cons.inj heq).1 hc
    · rfl
  have hsimple : matchSimple (c :: l) = none := by
    unfold matchSimple
    split
    · rename_i heq
      exact absurd (List.cons.inj heq).1 hc
    · rfl
  rw [ansiEscapePattern, hcsi, hosc, hsimple]
  rfl

theorem isParam_of_isLetter {b : UInt8} (h : isLetter b = true) : isParam b = false := by
  rw [← Bool.not_eq_true]
  intro hparam
  simp only [isLetter, isParam, Bool.or_eq_true, Bool.and_eq_true, decide_eq_true_eq,
    UInt8.le_iff_toNat_le, ← UInt8.toNat_inj, UInt8.reduceToNat] at h hparam
  omega

/-- The parameters of a sequence end at its letter. -/
theorem takeWhile_append_cons {p : UInt8 → Bool} {run : List UInt8} {c : UInt8} (l : List UInt8)
    (hrun : ∀ b ∈ run, p b) (hc : p c = false) : (run ++ c :: l).takeWhile p = run := by
  rw [List.takeWhile_append_of_pos hrun, List.takeWhile_cons_of_neg (by simp [hc]),
    List.append_nil]

/-- **A sequence is matched as a whole**, whatever comes behind it. -/
theorem Piece.ansiEscapePattern_bytes (p : Piece) (hp : p.visible ≠ p.bytes) (l : List UInt8) :
    ansiEscapePattern (p.bytes ++ l) = some p.bytes.length := by
  cases p with
  | text bytes h => exact absurd rfl hp
  | csi params final hparams hfinal =>
    have hrest : Piece.bytes (.csi params final hparams hfinal) ++ l =
        0x1b :: 0x5b :: (params ++ final :: l) := by simp [Piece.bytes]
    have hmatch : matchCsi (0x1b :: 0x5b :: (params ++ final :: l)) = some (params.length + 3) := by
      rw [matchCsi]
      rw [takeWhile_append_cons l hparams (isParam_of_isLetter hfinal), List.drop_left]
      exact if_pos hfinal
    rw [hrest, ansiEscapePattern, hmatch, Option.some_or]
    simp [Piece.bytes]
  | osc body h =>
    have hrest : Piece.bytes (.osc body h) ++ l = 0x1b :: 0x5d :: (body ++ 0x07 :: l) := by
      simp [Piece.bytes]
    have hbody : ∀ b ∈ body, decide (b ≠ 0x07) = true :=
      fun b hb => decide_eq_true fun heq => h (heq ▸ hb)
    have hmatch : matchOsc (0x1b :: 0x5d :: (body ++ 0x07 :: l)) = some (body.length + 3) := by
      rw [matchOsc]
      rw [takeWhile_append_cons l hbody (decide_eq_false (not_not_intro rfl))]
      exact if_pos (by simp)
    rw [hrest, ansiEscapePattern, hmatch, Option.some_or]
    simp [Piece.bytes, matchCsi]
  | simple c hc hosc =>
    have hcsi : matchCsi (0x1b :: c :: l) = none := by
      unfold matchCsi
      split
      · rename_i heq
        obtain rfl := (List.cons.inj (List.cons.inj heq).2).1
        exact absurd hc (by decide)
      · rfl
    have hnone : matchOsc (0x1b :: c :: l) = none := by
      unfold matchOsc
      split
      · rename_i heq
        exact absurd (List.cons.inj (List.cons.inj heq).2).1 hosc
      · rfl
    have hmatch : matchSimple (0x1b :: c :: l) = some 2 := if_pos hc
    have hrest : Piece.bytes (.simple c hc hosc) ++ l = 0x1b :: c :: l := rfl
    rw [hrest, ansiEscapePattern, hcsi, hnone, hmatch]
    rfl

/-- **A piece in front**: it is kept if it is text, and taken out if it is a sequence. -/
theorem Piece.erase_bytes (p : Piece) (l : List UInt8) :
    erase ansiEscapePattern (p.bytes ++ l) = p.visible ++ erase ansiEscapePattern l := by
  cases p with
  | text bytes h =>
    refine erase_append_of_forall fun c hc l n hmatch => ?_
    rw [ansiEscapePattern_of_ne fun heq => h (heq ▸ hc)] at hmatch
    cases hmatch
  | csi params final hparams hfinal =>
    exact erase_append_of_match (List.cons_ne_nil _ _)
      ((Piece.csi params final hparams hfinal).ansiEscapePattern_bytes
        (List.cons_ne_nil _ _).symm l)
  | osc body h =>
    exact erase_append_of_match (List.cons_ne_nil _ _)
      ((Piece.osc body h).ansiEscapePattern_bytes (List.cons_ne_nil _ _).symm l)
  | simple c hc hosc =>
    exact erase_append_of_match (List.cons_ne_nil _ _)
      ((Piece.simple c hc hosc).ansiEscapePattern_bytes (List.cons_ne_nil _ _).symm l)

/-- **The sequences of a log are taken out, and nothing else.** -/
theorem erase_pieces (pieces : List Piece) :
    erase ansiEscapePattern (pieces.flatMap Piece.bytes) = pieces.flatMap Piece.visible := by
  induction pieces with
  | nil => rfl
  | cons p pieces ih => rw [List.flatMap_cons, List.flatMap_cons, p.erase_bytes, ih]

/-- **The short cut for a text without an escape** makes no difference. -/
theorem erase_of_notMem {logs : List UInt8} (h : 0x1b ∉ logs) :
    erase ansiEscapePattern logs = logs := by
  refine erase_eq_self fun c hc l n hmatch => ?_
  rw [ansiEscapePattern_of_ne fun heq => h (heq ▸ hc)] at hmatch
  cases hmatch

/-- All frames of a stream that fits are written. -/
theorem decodeDockerLogStream_encode {ε : Type} {fs : List Frame}
    (hsize : (Frame.text fs).length ≤ maxTotalLogSize) :
    decodeDockerLogStream (none : Option ε) (frames.encode fs) true = (Frame.text fs, none) := by
  have hnil : ∀ total, decodeFrames (none : Option ε) [] total = ([], none) := by
    intro total
    rw [decodeFrames, if_pos (by decide)]
    rfl
  have hall := @decodeFrames_encode ε none [] 0 fs (Nat.zero_le _)
  rw [List.append_nil, Nat.zero_add, if_pos hsize, hnil, List.append_nil] at hall
  exact hall

/-- So are the bytes of a stream without frames. -/
theorem decodeDockerLogStream_plain {ε : Type} {bytes : List UInt8}
    (hsize : bytes.length ≤ maxTotalLogSize) :
    decodeDockerLogStream (none : Option ε) bytes false = (bytes, none) := by
  have htake : bytes.take maxTotalLogSize = bytes := List.take_of_length_le hsize
  rw [decodeDockerLogStream, if_neg Bool.false_ne_true, htake, Option.map_none, ite_self]

/-- **The text of a log is read.**  However the pieces of a log are cut into frames, and also if
there are no frames, `getLogs` gives the text of the log without its sequences. -/
theorem getLogs_pieces {ε : Type} (pieces : List Piece) (fs : List Frame) (status : String)
    (hframes : Frame.text fs = pieces.flatMap Piece.bytes)
    (hsize : (Frame.text fs).length ≤ maxTotalLogSize) :
    (getLogs (.ok ⟨200, status, multiplexedStream, frames.encode fs, (none : Option ε)⟩) =
        .ok (pieces.flatMap Piece.visible)) ∧
      ∀ contentType, contentType ≠ multiplexedStream →
        getLogs (.ok ⟨200, status, contentType, Frame.text fs, (none : Option ε)⟩) =
          .ok (pieces.flatMap Piece.visible) := by
  have hstrip : (if 0x1b ∈ Frame.text fs then erase ansiEscapePattern (Frame.text fs)
      else Frame.text fs) = pieces.flatMap Piece.visible := by
    rw [← erase_pieces, ← hframes]
    split_ifs with hescape
    · rfl
    · exact (erase_of_notMem hescape).symm
  constructor
  · rw [getLogs]
    dsimp only
    rw [if_neg (not_not_intro rfl), decide_eq_true rfl, decodeDockerLogStream_encode hsize]
    exact congrArg Except.ok hstrip
  · intro contentType htype
    rw [getLogs]
    dsimp only
    rw [if_neg (not_not_intro rfl), decide_eq_false htype, decodeDockerLogStream_plain hsize]
    exact congrArg Except.ok hstrip

/-- A color is taken out of a line, also where a frame ends within the sequence. -/
theorem getLogs_pieces_color :
    getLogs (.ok ⟨200, "OK", multiplexedStream,
      frames.encode [⟨1, (0, 0, 0), [0x1b, 0x5b], by decide⟩,
        ⟨1, (0, 0, 0), [0x33, 0x34, 0x6d, 0x48, 0x69], by decide⟩],
      (none : Option String)⟩) = .ok [0x48, 0x69] :=
  (getLogs_pieces (ε := String)
    [.csi [0x33, 0x34] 0x6d (List.all_eq_true.mp (by decide)) (by decide),
      .text [0x48, 0x69] (by decide)]
    [⟨1, (0, 0, 0), [0x1b, 0x5b], by decide⟩,
      ⟨1, (0, 0, 0), [0x33, 0x34, 0x6d, 0x48, 0x69], by decide⟩]
    "OK" (by rfl) (by decide)).1

end LogText

end Agent

end Beszel
