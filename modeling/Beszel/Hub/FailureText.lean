import Beszel.Common.Text
import Beszel.Hub.ApplyResponse
import Beszel.Machinery.TextCut

/-!
# Hub/FailureText — what the hub reads of a failure

    log = before ++ after ──last 1000 bytes──▸ "…" ++ after ──▸ the status of the job
    log ──last 1000 bytes, from inside a character──▸ no text ──▸ an error of the decoder

The texts of `applyLogTail`, `applyErrorMessage`, `finalizeJob` and `setHold` of
`agent/pkgupdate.go`, where what was printed is UTF-8, and what the hub makes of the answers they
are in.  Both cut a text at a byte.
-/

namespace Beszel

open Entities Response
open Transport (GoError)
open Machinery Machinery.Wire
open Encoding (cborFormat text_cbor)

namespace FailureText

/-! ## The texts -/

/-- `maxTail`. -/
def maxTail : ℕ := 1000

/-- `applyLogTail`; the log is `none` if it cannot be read. -/
def applyLogTail (log : Option String) : GoString :=
  let data := log.getD ""
  if data = "" then .inl "apply failed (no log output)"
  else
    let tail := GoText.trimSpace data
    if maxTail < tail.utf8ByteSize then
      TextCut.append (.inl "…") (TextCut.drop tail (tail.utf8ByteSize - maxTail))
    else .inl tail

/-- The message of `finalizeJob`. -/
def finalMessage (timedOut : Bool) (exitCode : ℤ) (log : Option String) : GoString :=
  if exitCode = 0 then .inl ""
  else if exitCode = -1 ∧ timedOut then .inl "apply timed out or was interrupted"
  else applyLogTail log

/-- The status that `finalizeJob` sets, at the time `now`. -/
def finalizeJob (packages : List String) (startedAt now : BitVec 64) (timedOut : Bool)
    (exitCode : ℤ) (log : Option String) : packageApplyStatus.Val
  | ⟨0, _⟩ => .inl (if exitCode = 0 then "done" else "failed")
  | ⟨1, _⟩ => some (packages.map .inl, [])
  | ⟨2, _⟩ => finalMessage timedOut exitCode log
  | ⟨3, _⟩ => startedAt
  | ⟨4, _⟩ => now

/-- What `applyErrorMessage` takes from the output: the last line that is not blank. -/
def lastLine (err output : String) : String :=
  let lines := GoText.split (GoText.trimSpace output) '\n'
  ((lines.reverse.map GoText.trimSpace).find? (· ≠ "")).getD err

/-- The bytes of an error message that are kept. -/
def maxMessage : ℕ := 300

/-- `applyErrorMessage`. -/
def applyErrorMessage (err output : String) : GoString :=
  let msg := lastLine err output
  if maxMessage < msg.utf8ByteSize then TextCut.take msg maxMessage else .inl msg

/-- `"apt-mark " + action + " failed: "`. -/
def holdFailed (hold : Bool) : String :=
  "apt-mark " ++ (if hold then "hold" else "unhold") ++ " failed: "

/-- The error of `setHold` where `apt-mark` fails. -/
def setHoldError (hold : Bool) (err output : String) : GoString :=
  TextCut.append (.inl (holdFailed hold)) (applyErrorMessage err output)

/-! ## Where they are cut -/

/-- **What is kept of the end of a text**, if that is a text: all of it, or the last bytes behind an
ellipsis. -/
def Ending (tail text : String) : Prop :=
  tail.utf8ByteSize ≤ maxTail ∧ text = tail ∨
    maxTail < tail.utf8ByteSize ∧ ∃ before after, tail = before ++ after ∧
      after.utf8ByteSize = maxTail ∧ text = "…" ++ after

/-- **What is kept of the start of a text**, if that is a text. -/
def Start (msg text : String) : Prop :=
  msg.utf8ByteSize ≤ maxMessage ∧ text = msg ∨
    maxMessage < msg.utf8ByteSize ∧ ∃ after, msg = text ++ after ∧ text.utf8ByteSize = maxMessage

/-- What is kept of a log, if that is a text. -/
def LogEnding (log : Option String) (text : String) : Prop :=
  log.getD "" = "" ∧ text = "apply failed (no log output)" ∨
    log.getD "" ≠ "" ∧ Ending (GoText.trimSpace (log.getD "")) text

theorem tail_eq_inl {tail text : String} :
    (if maxTail < tail.utf8ByteSize then
        TextCut.append (.inl "…") (TextCut.drop tail (tail.utf8ByteSize - maxTail))
      else .inl tail) = .inl text ↔ Ending tail text := by
  unfold Ending
  split_ifs with hlong
  · rw [or_iff_right fun h => absurd h.1 (not_le.mpr hlong), and_iff_right hlong,
      TextCut.append_inl_eq_inl]
    constructor
    · rintro ⟨after, hafter, rfl⟩
      obtain ⟨before, hbefore, hsize⟩ := (TextCut.drop_eq_inl (Nat.sub_le _ _)).mp hafter
      have hsum := congrArg String.utf8ByteSize hbefore
      rw [String.utf8ByteSize_append] at hsum
      exact ⟨before, after, hbefore, by omega, rfl⟩
    · rintro ⟨before, after, hbefore, hsize, rfl⟩
      have hsum := congrArg String.utf8ByteSize hbefore
      rw [String.utf8ByteSize_append] at hsum
      exact ⟨after, (TextCut.drop_eq_inl (Nat.sub_le _ _)).mpr ⟨before, hbefore, by omega⟩, rfl⟩
  · rw [or_iff_left fun h => hlong h.1, and_iff_right (not_lt.mp hlong), Sum.inl.injEq, eq_comm]

theorem applyLogTail_eq_inl {log : Option String} {text : String} :
    applyLogTail log = .inl text ↔ LogEnding log text := by
  unfold applyLogTail LogEnding
  dsimp only
  by_cases hempty : log.getD "" = ""
  · rw [if_pos hempty, or_iff_left fun h => h.1 hempty, and_iff_right hempty, Sum.inl.injEq,
      eq_comm]
  · rw [if_neg hempty, or_iff_right fun h => hempty h.1, and_iff_right hempty]
    exact tail_eq_inl

theorem applyErrorMessage_eq_inl {err output text : String} :
    applyErrorMessage err output = .inl text ↔ Start (lastLine err output) text := by
  unfold applyErrorMessage Start
  dsimp only
  split_ifs with hlong
  · rw [or_iff_right fun h => absurd h.1 (not_le.mpr hlong), and_iff_right hlong]
    exact TextCut.take_eq_inl hlong.le
  · rw [or_iff_left fun h => hlong h.1, and_iff_right (not_lt.mp hlong), Sum.inl.injEq, eq_comm]

/-! ## What the hub gets -/

/-- The status has the tail of the log for its message. -/
def Tailed (timedOut : Bool) (exitCode : ℤ) : Prop :=
  exitCode ≠ 0 ∧ ¬ (exitCode = -1 ∧ timedOut = true)

section Status

variable {unmarshalErr : GoError} {sysData : combinedData.Val}
  {requested : (Ty.slice Ty.string : Ty Encoding).Val} {clock : BitVec 64}
  {id : Option (BitVec 32)} {packages : List String} {startedAt now : BitVec 64}
  {timedOut : Bool} {exitCode : ℤ} {log : Option String}

theorem finalMessage_of_tailed (h : Tailed timedOut exitCode) :
    finalMessage timedOut exitCode log = applyLogTail log :=
  (if_neg h.1).trans (if_neg h.2)

/-- Where a job has a message that can be read. -/
theorem exists_finalMessage_iff :
    (∃ text, finalMessage timedOut exitCode log = .inl text) ↔
      (Tailed timedOut exitCode → ∃ text, LogEnding log text) := by
  by_cases htailed : Tailed timedOut exitCode
  · simp only [finalMessage_of_tailed htailed, htailed, true_imp_iff, applyLogTail_eq_inl]
  · refine iff_of_true ?_ fun h => absurd h htailed
    unfold finalMessage
    split_ifs with hzero htimeout
    · exact ⟨_, rfl⟩
    · exact ⟨_, rfl⟩
    · exact absurd ⟨hzero, htimeout⟩ htailed

/-- A status can be read exactly if its message can. -/
theorem readable_finalizeJob :
    packageApplyStatus.Readable cborFormat
        (finalizeJob packages startedAt now timedOut exitCode log) ↔
      ∃ text, finalMessage timedOut exitCode log = .inl text := by
  constructor
  · intro h
    have hmessage : (cborFormat.text (finalMessage timedOut exitCode log)).isLeft := h 2 rfl
    rw [text_cbor] at hmessage
    exact Sum.isLeft_iff.mp hmessage
  · rintro ⟨text, htext⟩ i -
    match i with
    | ⟨0, _⟩ => exact rfl
    | ⟨1, _⟩ =>
      intro w hw a ha
      obtain rfl := Option.some.inj hw
      obtain ⟨name, -, rfl⟩ := List.mem_map.mp ha
      rfl
    | ⟨2, _⟩ =>
      change (cborFormat.text (finalMessage timedOut exitCode log)).isLeft
      rw [htext]
      rfl
    | ⟨3, _⟩ => trivial
    | ⟨4, _⟩ => trivial

/-- A generic field that cannot be decoded is the decoder's error. -/
theorem receive_data_of_dec_none {r : AgentResponse} {action : WebSocketAction} {t : GoType}
    {dest : t.ty.Val} {data : Item} (hdata : r.data = some data) (hr : r.Readable)
    (herr : r.error = .inl "") (hdec : t.ty.dec .cbor dest data = none) :
    receive unmarshalErr r.marshal action t dest =
      .error (.wrap "failed to unmarshal generic response data: " unmarshalErr) := by
  have hnone : r.transferred.error = .inl "" := herr
  have hfield : r.transferred.data = some data := hdata
  unfold receive
  rw [AgentResponse.unmarshal_marshal.mpr ⟨hr, rfl⟩]
  dsimp only
  rw [if_neg (not_not_intro hnone), unmarshalResponse, hfield]
  dsimp only
  rw [hdec]

/-- **When the hub learns that a job is over.**  The request for the status of a job is answered,
with that status, unless the job failed and the tail of its log begins inside a character; then
every request is the decoder's error. -/
theorem status_arrives_iff :
    ((∃ w, fetch unmarshalErr sysData requested clock (newAgentResponse .packageApplyStatus
        (finalizeJob packages startedAt now timedOut exitCode log) id).marshal
          .getPackageUpdateStatus = .ok w) ↔
        (Tailed timedOut exitCode → ∃ text, LogEnding log text)) ∧
      (∀ w, fetch unmarshalErr sysData requested clock (newAgentResponse .packageApplyStatus
          (finalizeJob packages startedAt now timedOut exitCode log) id).marshal
            .getPackageUpdateStatus = .ok w →
        packageApplyStatus.Same w (finalizeJob packages startedAt now timedOut exitCode log) ∧
          (Tailed timedOut exitCode → ∃ text, LogEnding log text ∧ w 2 = .inl text)) ∧
      (¬ (Tailed timedOut exitCode → ∃ text, LogEnding log text) →
        fetch unmarshalErr sysData requested clock (newAgentResponse .packageApplyStatus
          (finalizeJob packages startedAt now timedOut exitCode log) id).marshal
            .getPackageUpdateStatus =
          .error (.wrap "failed to unmarshal generic response data: " unmarshalErr)) := by
  have hfetch : ∀ w, fetch unmarshalErr sysData requested clock
      (newAgentResponse .packageApplyStatus
        (finalizeJob packages startedAt now timedOut exitCode log) id).marshal
          .getPackageUpdateStatus = .ok w ↔
        (Tailed timedOut exitCode → ∃ text, LogEnding log text) ∧
          w = packageApplyStatus.merge cborFormat packageApplyStatus.zero
            (finalizeJob packages startedAt now timedOut exitCode log) := by
    intro w
    rw [fetch_eq_ok (h := .getPackageUpdateStatus), ← exists_finalMessage_iff,
      ← @readable_finalizeJob packages startedAt now]
    exact and_congr_right fun _ => and_iff_right trivial
  refine ⟨?_, ?_, fun hnot => ?_⟩
  · simp only [hfetch]
    exact exists_and_left.trans (and_iff_left ⟨_, rfl⟩)
  · intro w hw
    obtain ⟨hreadable, rfl⟩ := (hfetch w).mp hw
    have hsame := (Ty.same_merge_iff (.inr rfl)).mpr
      (Ty.faithful_zero_iff.mpr
        (carried_status (finalizeJob packages startedAt now timedOut exitCode log)))
    refine ⟨hsame, fun htailed => ?_⟩
    obtain ⟨text, htext⟩ := hreadable htailed
    refine ⟨text, htext, (hsame 2).trans ?_⟩
    exact (finalMessage_of_tailed htailed).trans (applyLogTail_eq_inl.mpr htext)
  · rw [← exists_finalMessage_iff, ← @readable_finalizeJob packages startedAt now] at hnot
    refine receive_data_of_dec_none (t := .packageApplyStatus) rfl (readable_withData id _) rfl ?_
    refine Option.eq_none_iff_forall_ne_some.mpr fun w hw => hnot ?_
    exact ((Ty.dec_eq_some cborFormat (wf_packageApplyStatus .cbor)).mp hw).1

end Status

section Hold

variable {unmarshalErr : GoError} {id : Option (BitVec 32)} {t : GoType} {dest : t.ty.Val}
  {error : GoString}

/-- `common.AgentResponse{Id: requestID, Error: err.Error()}`. -/
def errorResponse (id : Option (BitVec 32)) (error : GoString) : AgentResponse :=
  { AgentResponse.new id with error }

theorem readable_errorResponse : (errorResponse id error).Readable ↔ error.isLeft :=
  ⟨fun h => h.error, fun h => { readable_new id with error := h }⟩

/-- The hub gets the text of an error. -/
theorem receive_error {action : WebSocketAction} {text : String} (hne : text ≠ "") :
    receive unmarshalErr (errorResponse id (.inl text)).marshal action t dest =
      .error (.new text) := by
  unfold receive
  rw [AgentResponse.unmarshal_marshal.mpr ⟨readable_errorResponse.mpr rfl, rfl⟩]
  have herror : (errorResponse id (.inl text)).transferred.error ≠ .inl "" := fun h =>
    hne (Sum.inl.inj h)
  dsimp only
  rw [if_pos herror]
  rfl

/-- The hub cannot read an error that is no text. -/
theorem receive_of_not_readable {action : WebSocketAction} (h : error.isLeft = false) :
    receive unmarshalErr (errorResponse id error).marshal action t dest = .error unmarshalErr := by
  have hnone : AgentResponse.unmarshal (errorResponse id error).marshal = none := by
    refine Option.eq_none_iff_forall_ne_some.mpr fun r hr => ?_
    have hreadable := (AgentResponse.unmarshal_marshal.mp hr).1
    exact Bool.false_ne_true (h.symm.trans (readable_errorResponse.mp hreadable))
  unfold receive
  rw [hnone]

theorem setHoldError_of_start {hold : Bool} {err output text : String}
    (h : Start (lastLine err output) text) :
    setHoldError hold err output = .inl (holdFailed hold ++ text) := by
  rw [setHoldError, TextCut.append_inl_eq_inl]
  exact ⟨text, applyErrorMessage_eq_inl.mpr h, rfl⟩

theorem holdFailed_append_ne (hold : Bool) (text : String) : holdFailed hold ++ text ≠ "" := by
  rw [Ne, String.append_eq_empty_iff]
  have hne : holdFailed hold ≠ "" := by cases hold <;> decide
  exact fun h => hne h.1

/-- **What the hub learns of a failed hold**: the last line that `apt-mark` printed, up to 300
bytes of it, unless the cut is inside a character; then not even that it was `apt-mark`. -/
theorem hold_error_arrives (hold : Bool) (err output : String) :
    (∀ text, Start (lastLine err output) text →
        receive unmarshalErr (errorResponse id (setHoldError hold err output)).marshal
          WebSocketAction.setPackageHold t dest = .error (.new (holdFailed hold ++ text))) ∧
      ((∀ text, ¬ Start (lastLine err output) text) →
        receive unmarshalErr (errorResponse id (setHoldError hold err output)).marshal
          WebSocketAction.setPackageHold t dest = .error unmarshalErr) := by
  constructor
  · intro text htext
    rw [setHoldError_of_start htext]
    exact receive_error (holdFailed_append_ne hold text)
  · intro hnone
    refine receive_of_not_readable (Bool.eq_false_iff.mpr fun hleft => ?_)
    obtain ⟨whole, hwhole⟩ := Sum.isLeft_iff.mp hleft
    obtain ⟨text, htext, -⟩ := TextCut.append_inl_eq_inl.mp hwhole
    exact hnone text (applyErrorMessage_eq_inl.mp htext)

end Hold

end FailureText

end Beszel
