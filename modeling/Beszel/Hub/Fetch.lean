import Beszel.Hub.Response

/-!
# Hub/Fetch — the sample of a system, fetched over WebSocket or SSH into `sys.data`

    sys.data ──WebSocket: AgentResponse, or raw CBOR──▸ sys.data
       │ on error
       ╰────▸ zero ──SSH: AgentResponse, raw CBOR, or JSON──▸ sys.data

`fetchDataFromAgent` of `internal/hub/systems/system.go`.  The SSH path resets `sys.data` before it
decodes; over WebSocket the typed field of a response replaces it, and everything else is decoded
into what is already there.  `fetch_same_iff` says for each path when `sys.data` is the sample
that was sent.
-/

namespace Beszel

namespace Fetch

open Machinery.Wire Entities Response Transport
open Encoding (cborFormat jsonFormat)

/-! ## The agent's side -/

/-- The agent's version, as far as the hub looks at it: older than `MinVersionCbor` (0.12.0), older
than `MinVersionAgentResponse` (0.13.0), or neither. -/
inductive Generation
  | json
  | cbor
  | response
  deriving DecidableEq, Repr

/-- One SSH session: whether the shell was started and `stdin` opened, what the decoder of a
response and the decoder of a bare sample find on `stdout`, and how the session ends. -/
structure Session where
  generation : Generation
  shell : Bool
  stdin : Bool
  response : Option Item
  payload : Option Item
  wait : Bool

/-- One attempt of `runSSHOperation`. -/
inductive SshAttempt
  | noClient
  | noSession
  | session (s : Session)

/-- What happens during a fetch: over WebSocket, if it is connected, a message or none; over SSH,
the attempts. -/
structure Exchange where
  ws : Option (Generation × Option Item)
  ssh : ℕ → SshAttempt

/-! ## The hub's side -/

/-- `fetchDataViaWebSocket`, into a `sys.data` with a content. -/
def fetchDataViaWebSocket (unmarshalErr : GoError) (generation : Generation)
    (message : Option Item) (data : combinedData.Val) : Option combinedData.Val :=
  match message with
  | none => none
  | some message =>
    if generation ≠ .response then combinedData.dec .cbor data message
    else
      (receive unmarshalErr message WebSocketAction.getData .combinedData data).toOption

/-- The typed field of a response on `stdout`, from agents that know responses. -/
def Session.systemData (s : Session) : Option combinedData.Val :=
  if s.generation = .response ∧ s.stdin then
    (s.response.bind AgentResponse.unmarshal).bind AgentResponse.systemData
  else none

/-- A bare sample on `stdout`, decoded after `*sys.data = system.CombinedData{}`. -/
def Session.decoded (s : Session) : Option combinedData.Val :=
  let encoding : Encoding := if s.generation = .json then .json else .cbor
  s.payload.bind (combinedData.dec encoding combinedData.zero)

/-- The operation of `fetchDataViaSSH`: the new `sys.data`, or whether the error allows a retry. -/
def Session.operation (s : Session) : Except Bool combinedData.Val :=
  if s.shell = false then .error false
  else
    match s.systemData <|> s.decoded with
    | none => .error true
    | some data => if s.wait then .ok data else .error false

/-- One round of the loop of `runSSHOperation`; `again` is what the next attempt gives. -/
def SshAttempt.outcome (a : SshAttempt) (again : Option combinedData.Val) :
    Option combinedData.Val :=
  match a with
  | .noClient => none
  | .noSession => again
  | .session s =>
    match s.operation with
    | .ok data => some data
    | .error retry => if retry then again else none

/-- `runSSHOperation`, recursive on the retries that are left. -/
def runSSHOperation : ℕ → (ℕ → SshAttempt) → Option combinedData.Val
  | 0, attempts => (attempts 0).outcome none
  | retries + 1, attempts =>
    (attempts 0).outcome (runSSHOperation retries fun n => attempts (n + 1))

/-- `fetchDataViaSSH`. -/
def fetchDataViaSSH (attempts : ℕ → SshAttempt) : Option combinedData.Val :=
  runSSHOperation 1 attempts

/-- **`fetchDataFromAgent`**: the new content of `sys.data`, which may have been nil. -/
def fetchDataFromAgent (unmarshalErr : GoError) (x : Exchange) (data : Option combinedData.Val) :
    Option combinedData.Val :=
  match x.ws with
  | none => fetchDataViaSSH x.ssh
  | some (generation, message) =>
    match fetchDataViaWebSocket unmarshalErr generation message (data.getD combinedData.zero) with
    | some data => some data
    | none => fetchDataViaSSH x.ssh

/-! ## The paths of a sample

`replace` is what `encoding/json` writes for bytes that are not UTF-8. -/

/-- How a sample gets from the agent to the hub. -/
inductive Path
  | wsSystemData
  | wsData
  | wsRaw
  | sshSystemData
  | sshCbor
  | sshJson
  deriving DecidableEq, Repr

variable (replace : { b : ByteArray // b.validateUTF8 = false } → String)

/-- The agent answers in the session with the sample. -/
def Session.Carries (sample : combinedData.Val) (s : Session) : Path → Prop
  | .sshSystemData => s.generation = .response ∧ s.stdin = true ∧ s.payload = none ∧
      ∃ id, s.response = some (newAgentResponse .combinedData sample id).marshal
  | .sshCbor => s.payload = some (combinedData.enc cborFormat sample) ∧
      (s.generation = .cbor ∨ s.generation = .response ∧ s.stdin = false)
  | .sshJson => s.generation = .json ∧
      s.payload = some (combinedData.enc (jsonFormat replace) sample)
  | _ => False

/-- **The agent answers with the sample on the path.**  A WebSocket message that is not UTF-8 is no
answer, the hub then goes on to SSH. -/
def Exchange.Delivers (x : Exchange) (sample : combinedData.Val) : Path → Prop
  | .wsSystemData => combinedData.Readable cborFormat sample ∧
      ∃ id, x.ws = some (.response, some (newAgentResponse .combinedData sample id).marshal)
  | .wsData => combinedData.Readable cborFormat sample ∧
      ∃ id, x.ws = some (.response,
        some (AgentResponse.withData id (combinedData.enc cborFormat sample)).marshal)
  | .wsRaw => combinedData.Readable cborFormat sample ∧
      ∃ generation, generation ≠ .response ∧
        x.ws = some (generation, some (combinedData.enc cborFormat sample))
  | path => (∀ g, x.ws = some g → g.2 = none) ∧
      ∀ n s, x.ssh n = .session s → s.Carries replace sample path

/-- What `sys.data` holds after a fetch on the path: two of them decode into the old content. -/
def Path.result (data : Option combinedData.Val) (sample : combinedData.Val) :
    Path → combinedData.Val
  | .wsData | .wsRaw => combinedData.merge cborFormat (data.getD combinedData.zero) sample
  | .wsSystemData | .sshSystemData | .sshCbor =>
    combinedData.merge cborFormat combinedData.zero sample
  | .sshJson => combinedData.merge (jsonFormat replace) combinedData.zero sample

/-! ## What a fetch leaves in `sys.data` -/

variable {replace} {unmarshalErr : GoError} {x : Exchange} {path : Path}
  {data : Option combinedData.Val} {sample r : combinedData.Val}

theorem operation_eq_ok {s : Session} (h : s.operation = .ok r) :
    s.systemData = some r ∨ s.systemData = none ∧ s.decoded = some r := by
  have hd : (s.systemData <|> s.decoded) = some r := by
    unfold Session.operation at h
    cases hd : s.systemData <|> s.decoded with
    | none =>
      rw [hd] at h
      dsimp only at h
      split_ifs at h
    | some d =>
      rw [hd] at h
      dsimp only at h
      split_ifs at h
      exact congrArg some (Except.ok.inj h)
  cases ht : s.systemData with
  | some d => exact .inl (by simpa [ht] using hd)
  | none => exact .inr ⟨rfl, by simpa [ht] using hd⟩

/-- **A session** gives the sample of its path, decoded into a zero `sys.data`. -/
theorem operation_eq {s : Session} (hs : s.Carries replace sample path)
    (h : s.operation = .ok r) : r = path.result replace data sample := by
  replace h := operation_eq_ok h
  cases path with
  | sshSystemData =>
    obtain ⟨hg, hin, hp, id, hresp⟩ := hs
    have hdec : s.decoded = none := by simp [Session.decoded, hp]
    obtain h | ⟨-, h⟩ := h
    · simp only [Session.systemData, hg, hin, hresp, and_self, if_true, Option.bind_some,
        Option.bind_eq_some_iff] at h
      obtain ⟨resp, hresp, hr⟩ := h
      obtain ⟨-, rfl⟩ := AgentResponse.unmarshal_marshal.mp hresp
      exact (Option.some.inj hr).symm
    · rw [hdec] at h
      cases h
  | sshCbor =>
    obtain ⟨hp, hg⟩ := hs
    have ht : s.systemData = none := by
      obtain hg | ⟨hg, hin⟩ := hg
      · simp [Session.systemData, hg]
      · simp [Session.systemData, hin]
    have hj : s.generation ≠ .json := by
      obtain hg | ⟨hg, -⟩ := hg <;> simp [hg]
    obtain h | ⟨-, h⟩ := h
    · rw [ht] at h
      cases h
    · simp only [Session.decoded, hp, hj, if_false, Option.bind_some] at h
      exact ((Ty.dec_eq_some cborFormat (wf_combinedData .cbor)).mp h).2
  | sshJson =>
    obtain ⟨hg, hp⟩ := hs
    have ht : s.systemData = none := by simp [Session.systemData, hg]
    obtain h | ⟨-, h⟩ := h
    · rw [ht] at h
      cases h
    · simp only [Session.decoded, hp, hg, if_true, Option.bind_some] at h
      exact ((Ty.dec_eq_some (jsonFormat replace) (wf_combinedData .json)).mp h).2
  | wsSystemData | wsData | wsRaw => cases hs

theorem outcome_eq_some {a : SshAttempt} {again : Option combinedData.Val}
    (h : a.outcome again = some r) :
    (∃ s, a = .session s ∧ s.operation = .ok r) ∨ again = some r := by
  cases a with
  | noClient => cases h
  | noSession => exact .inr h
  | session s =>
    cases ho : s.operation with
    | ok d =>
      simp only [SshAttempt.outcome, ho] at h
      exact .inl ⟨s, rfl, ho.trans (congrArg _ (Option.some.inj h))⟩
    | error retry =>
      simp only [SshAttempt.outcome, ho] at h
      split_ifs at h
      exact .inr h

/-- A successful SSH operation ends with a session that succeeds. -/
theorem runSSHOperation_eq_some {retries : ℕ} {attempts : ℕ → SshAttempt}
    (h : runSSHOperation retries attempts = some r) :
    ∃ n s, attempts n = .session s ∧ s.operation = .ok r := by
  induction retries generalizing attempts with
  | zero =>
    obtain ⟨s, hs, hr⟩ | hr := outcome_eq_some h
    · exact ⟨0, s, hs, hr⟩
    · cases hr
  | succ retries ih =>
    obtain ⟨s, hs, hr⟩ | hr := outcome_eq_some h
    · exact ⟨0, s, hs, hr⟩
    · obtain ⟨n, s, hs, hr⟩ := ih hr
      exact ⟨n + 1, s, hs, hr⟩

theorem fetchDataViaSSH_eq (hx : ∀ n s, x.ssh n = .session s → s.Carries replace sample path)
    (h : fetchDataViaSSH x.ssh = some r) : r = path.result replace data sample := by
  obtain ⟨n, s, hn, hs⟩ := runSSHOperation_eq_some h
  exact operation_eq (hx n s hn) hs

/-- A sample in the generic field is decoded into the old `sys.data`. -/
theorem fetchDataFromAgent_data {id : Option (BitVec 32)}
    (hr : combinedData.Readable cborFormat sample)
    (hws : x.ws = some (.response,
      some (AgentResponse.withData id (combinedData.enc cborFormat sample)).marshal)) :
    fetchDataFromAgent unmarshalErr x data
      = some (combinedData.merge cborFormat (data.getD combinedData.zero) sample) := by
  have hrec : receive unmarshalErr
      (AgentResponse.withData id (combinedData.enc cborFormat sample)).marshal
      WebSocketAction.getData .combinedData (data.getD combinedData.zero)
        = .ok (combinedData.merge cborFormat (data.getD combinedData.zero) sample) :=
    (receive_data (t := .combinedData) rfl (readable_withData _ _) rfl).mpr ⟨hr, rfl⟩
  simp only [fetchDataFromAgent, hws, fetchDataViaWebSocket, hrec]
  rfl

/-- **After a successful fetch** `sys.data` holds the result of the path. -/
theorem fetchDataFromAgent_eq (hx : x.Delivers replace sample path)
    (h : fetchDataFromAgent unmarshalErr x data = some r) :
    r = path.result replace data sample := by
  cases path with
  | wsSystemData =>
    obtain ⟨hr, id, hws⟩ := hx
    have hrec : receive unmarshalErr (newAgentResponse .combinedData sample id).marshal
        WebSocketAction.getData .combinedData (data.getD combinedData.zero)
          = .ok (combinedData.merge cborFormat combinedData.zero sample) :=
      receive_systemData.mpr ⟨hr, rfl⟩
    simp only [fetchDataFromAgent, hws, fetchDataViaWebSocket, hrec] at h
    exact (Option.some.inj h).symm
  | wsData =>
    obtain ⟨hr, id, hws⟩ := hx
    rw [fetchDataFromAgent_data hr hws] at h
    exact (Option.some.inj h).symm
  | wsRaw =>
    obtain ⟨hr, generation, hg, hws⟩ := hx
    have hdec : combinedData.dec .cbor (data.getD combinedData.zero)
        (combinedData.enc cborFormat sample)
          = some (combinedData.merge cborFormat (data.getD combinedData.zero) sample) :=
      (Ty.dec_eq_some cborFormat (wf_combinedData .cbor)).mpr ⟨hr, rfl⟩
    simp only [fetchDataFromAgent, hws, fetchDataViaWebSocket, if_pos hg, hdec] at h
    exact (Option.some.inj h).symm
  | sshSystemData | sshCbor | sshJson =>
    obtain ⟨hws, hssh⟩ := hx
    refine fetchDataViaSSH_eq hssh ?_
    cases hw : x.ws with
    | none => simpa only [fetchDataFromAgent, hw] using h
    | some g =>
      obtain ⟨generation, message⟩ := g
      obtain rfl : message = none := hws _ hw
      simpa only [fetchDataFromAgent, hw, fetchDataViaWebSocket] using h

/-! ## Independence -/

variable (replace) in
/-- **The path delivers the sample as it is**: its encoding has a place for the content, and where
the sample is decoded into the old `sys.data`, that agrees with everything the encoding leaves
out. -/
def Path.Faithful (data : Option combinedData.Val) (sample : combinedData.Val) : Path → Prop
  | .wsData | .wsRaw => combinedData.Faithful cborFormat (data.getD combinedData.zero) sample
  | .wsSystemData | .sshSystemData | .sshCbor => combinedData.Carried cborFormat sample
  | .sshJson => combinedData.Carried (jsonFormat replace) sample

/-- The result of a path is the sample exactly if the path is faithful. -/
theorem same_result_iff :
    combinedData.Same (path.result replace data sample) sample ↔
      path.Faithful replace data sample := by
  cases path with
  | wsData | wsRaw => exact Ty.same_merge_iff (.inl rfl)
  | wsSystemData | sshSystemData | sshCbor =>
    exact (Ty.same_merge_iff (.inr rfl)).trans Ty.faithful_zero_iff
  | sshJson => exact (Ty.same_merge_iff (.inr rfl)).trans Ty.faithful_zero_iff

/-- **When a fetch is independent of what was there before**: for every path, previous content and
sample, `sys.data` is the sample exactly if the path is faithful, and any two fetches on paths that
are — with other contents before — agree. -/
theorem fetch_same_iff {x' : Exchange} {path' : Path} {data' : Option combinedData.Val}
    {r' : combinedData.Val} (hx : x.Delivers replace sample path)
    (h : fetchDataFromAgent unmarshalErr x data = some r)
    (hx' : x'.Delivers replace sample path')
    (h' : fetchDataFromAgent unmarshalErr x' data' = some r') :
    (combinedData.Same r sample ↔ path.Faithful replace data sample) ∧
      (path.Faithful replace data sample → path'.Faithful replace data' sample →
        combinedData.Same r r') := by
  obtain rfl := fetchDataFromAgent_eq hx h
  obtain rfl := fetchDataFromAgent_eq hx' h'
  refine ⟨same_result_iff, fun hf hf' => ?_⟩
  exact Ty.same_trans (same_result_iff.mpr hf) (Ty.same_symm (same_result_iff.mpr hf'))

/-- A sample of a machine with three package updates, otherwise zero. -/
def threeUpdates : combinedData.Val
  | ⟨1, _⟩ => fun
    | ⟨24, _⟩ => (3 : BitVec 16)
    | i => info.zero i
  | i => combinedData.zero i

/-- The zero sample in the generic field of a response. -/
def zeroData : Exchange where
  ws := some (.response,
    some (AgentResponse.withData none (combinedData.enc cborFormat combinedData.zero)).marshal)
  ssh := fun _ => .noClient

theorem readable_zero : combinedData.Readable cborFormat combinedData.zero :=
  Ty.readable_of_isZero (by decide)

/-- All but the info of the sample is zero, and there all but the updates. -/
theorem threeUpdates_zero {i} (hi : i ≠ 1) : threeUpdates i = combinedData.zero i := by
  fin_cases i <;> first | rfl | exact absurd rfl hi

theorem threeUpdates_info_zero {j} (hj : j ≠ 24) : threeUpdates 1 j = info.zero j := by
  fin_cases j <;> first | rfl | exact absurd rfl hj

theorem readable_threeUpdates : combinedData.Readable cborFormat threeUpdates := by
  have hinfo : info.Readable cborFormat info.zero := Ty.readable_of_isZero (by decide)
  intro i hi
  by_cases h1 : i = 1
  · subst h1
    intro j hj
    by_cases h24 : j = 24
    · subst h24
      trivial
    · rw [threeUpdates_info_zero h24]
      exact hinfo j hj
  · rw [threeUpdates_zero h1]
    exact readable_zero i hi

/-- Decoded over a content that is zero but for the updates, the sample is transferred as it is. -/
theorem faithful_threeUpdates {old : combinedData.Val}
    (hold : ∀ i, i ≠ 1 → old i = combinedData.zero i)
    (hinfo : ∀ j, j ≠ 24 → old 1 j = info.zero j) :
    combinedData.Faithful cborFormat old threeUpdates := by
  have hzero : combinedData.Faithful cborFormat combinedData.zero combinedData.zero :=
    Ty.faithful_zero_iff.mpr (Ty.carried_of_isZero (by decide))
  have hinfoZero : info.Faithful cborFormat info.zero info.zero :=
    Ty.faithful_zero_iff.mpr (Ty.carried_of_isZero (by decide))
  intro i
  by_cases h1 : i = 1
  · subst h1
    refine (if_pos rfl).mpr fun j => ?_
    by_cases h24 : j = 24
    · subst h24
      exact (if_pos rfl).mpr trivial
    · have hj := hinfoZero j
      simp only [Ty.sent, threeUpdates_info_zero h24, hinfo j h24] at hj ⊢
      exact hj
  · have hi := hzero i
    simp only [Ty.sent, threeUpdates_zero h1, hold i h1] at hi ⊢
    exact hi

theorem carried_threeUpdates : combinedData.Carried cborFormat threeUpdates :=
  Ty.faithful_zero_iff.mp (faithful_threeUpdates (fun _ _ => rfl) fun _ _ => rfl)

/-- An earlier content, with seven package updates. -/
def sevenUpdates : combinedData.Val
  | ⟨1, _⟩ => fun
    | ⟨24, _⟩ => (7 : BitVec 16)
    | i => info.zero i
  | i => combinedData.zero i

/-- Another one, of a machine that has to be rebooted. -/
def rebootRequired : combinedData.Val
  | ⟨1, _⟩ => fun
    | ⟨25, _⟩ => true
    | i => info.zero i
  | i => combinedData.zero i

/-- The sample in the generic field of a response. -/
def updatesData : Exchange where
  ws := some (.response,
    some (AgentResponse.withData (some 7) (combinedData.enc cborFormat threeUpdates)).marshal)
  ssh := fun _ => .noClient

/-- The sample over SSH, from an agent that sends bare samples. -/
def updatesSsh : Exchange where
  ws := none
  ssh := fun _ => .session
    { generation := .cbor
      shell := true
      stdin := true
      response := none
      payload := some (combinedData.enc cborFormat threeUpdates)
      wait := true }

theorem fetch_same_iff_updates :
    ∃ r r', fetchDataFromAgent (.new "cbor") updatesData (some sevenUpdates) = some r ∧
      fetchDataFromAgent (.new "cbor") updatesSsh (some rebootRequired) = some r' ∧
        combinedData.Same r threeUpdates ∧ combinedData.Same r r' := by
  have hx : updatesData.Delivers (fun _ => "") threeUpdates .wsData :=
    ⟨readable_threeUpdates, some 7, rfl⟩
  have hx' : updatesSsh.Delivers (fun _ => "") threeUpdates .sshCbor :=
    ⟨fun _ h => (nomatch h), fun _ s h => SshAttempt.session.inj h ▸ ⟨rfl, .inl rfl⟩⟩
  have hdec : combinedData.dec .cbor combinedData.zero (combinedData.enc cborFormat threeUpdates) =
      some (combinedData.merge cborFormat combinedData.zero threeUpdates) :=
    (Ty.dec_eq_some cborFormat (wf_combinedData .cbor)).mpr ⟨readable_threeUpdates, rfl⟩
  have h : fetchDataFromAgent (.new "cbor") updatesData (some sevenUpdates) =
      some (combinedData.merge cborFormat sevenUpdates threeUpdates) :=
    fetchDataFromAgent_data readable_threeUpdates (x := updatesData) rfl
  have h' : fetchDataFromAgent (.new "cbor") updatesSsh (some rebootRequired) =
      some (combinedData.merge cborFormat combinedData.zero threeUpdates) := by
    simp only [fetchDataFromAgent, updatesSsh, fetchDataViaSSH, runSSHOperation,
      SshAttempt.outcome, Session.operation, Session.systemData, Session.decoded, reduceCtorEq,
      false_and, if_false, Option.bind_some, hdec]
    rfl
  have hfaithful : Path.Faithful (fun _ => "") (some sevenUpdates) threeUpdates .wsData :=
    faithful_threeUpdates (fun i hi => by fin_cases i <;> first | rfl | exact absurd rfl hi)
      fun j hj => by fin_cases j <;> first | rfl | exact absurd rfl hj
  obtain ⟨hsame, hagree⟩ := fetch_same_iff hx h hx' h'
  exact ⟨_, _, h, h', hsame.mpr hfaithful, hagree hfaithful carried_threeUpdates⟩

/-- The three package updates of the sample before stay in `sys.data` when the next sample, in the
generic field, has none. -/
theorem not_same_staleUpdates :
    zeroData.Delivers (fun _ => "") combinedData.zero .wsData ∧
      ∃ r, fetchDataFromAgent (.new "cbor") zeroData (some threeUpdates) = some r ∧
        r 1 24 = (3 : BitVec 16) ∧ ¬ combinedData.Same r combinedData.zero := by
  refine ⟨⟨readable_zero, none, rfl⟩, _, fetchDataFromAgent_data readable_zero rfl, rfl, ?_⟩
  intro h
  have h24 : (3 : BitVec 16) = 0 := h 1 24
  exact absurd h24 (by decide)

end Fetch

end Beszel
