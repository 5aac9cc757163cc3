import Beszel.Hub.Response

/-!
# Hub/ApplyResponse — the two answers to a request for package updates

    agent ──PackageApplyStatus──▸ keys 0, 1, 2, 3, 4 ──▸ that status
    agent ──map[package]errMsg──▸ keys that are texts ──▸ "done", or "failed" with the messages

`ApplyPackageUpdatesOnAgent` of `internal/hub/systems/system.go` tries the one decoder and then the
other on the same bytes.  The fields of a status have integer keys and the keys of a map are texts;
whether a decoder lets the text `"0"` stand for the key 0 of a field is left open here, and
`answers` says what is needed of the map if it does.
-/

namespace Beszel

namespace Response

open Entities Transport
open Machinery Machinery.Wire
open Encoding (cborFormat text_cbor)

/-! ## Keys -/

/-- The integer key that a text spells. -/
def spelled : Key → Key
  | .text (.inl s) =>
    match ["0", "1", "2", "3", "4"].findIdx? (· = s) with
    | some n => .int n
    | none => .text (.inl s)
  | key => key

/-- The map as a decoder sees it that finds the fields of a struct by name: `byName` says that it
does. -/
def respelled (byName : Bool) : Item → Item
  | .map entries => .map (if byName then entries.map fun e => (spelled e.1, e.2) else entries)
  | item => item

/-- `cbor.Unmarshal` into a new `PackageApplyStatus`. -/
def unmarshalStatus (byName : Bool) (item : Item) : Option packageApplyStatus.Val :=
  packageApplyStatus.dec .cbor packageApplyStatus.zero (respelled byName item)

/-- `ApplyPackageUpdatesOnAgent`, from the message on, with such a decoder. -/
def applyPackageUpdatesBy (byName : Bool) (unmarshalErr : GoError)
    (packages : (Ty.slice Ty.string : Ty Encoding).Val) (now : BitVec 64) (message : Item) :
    Except GoError packageApplyStatus.Val :=
  match receive unmarshalErr message WebSocketAction.applyPackageUpdates .rawMessage none with
  | .error err => .error err
  | .ok raw =>
    match unmarshalStatus byName (raw.getD .null) with
    | some status =>
      if applyState status ≠ .inl "" then .ok status
      else applyPackageUpdatesOnAgent.legacy packages now raw
    | none => applyPackageUpdatesOnAgent.legacy packages now raw

/-- A decoder that keeps integers and texts apart. -/
theorem applyPackageUpdatesBy_false (unmarshalErr : GoError)
    (packages : (Ty.slice Ty.string : Ty Encoding).Val) (now : BitVec 64) (message : Item) :
    applyPackageUpdatesBy false unmarshalErr packages now message =
      applyPackageUpdatesOnAgent unmarshalErr packages now message := by
  have hdec : ∀ item, unmarshalStatus false item =
      packageApplyStatus.dec .cbor packageApplyStatus.zero item := by
    intro item
    cases item <;> rfl
  unfold applyPackageUpdatesOnAgent
  simp only [← hdec]
  rfl

/-! ## The two answers -/

/-- The map of a legacy agent: package names and error messages, empty where there was no error. -/
abbrev LegacyMap := AList fun _ : GoString => GoString

/-- The answer of this agent. -/
def statusMessage (id : Option (BitVec 32)) (status : packageApplyStatus.Val) : Item :=
  (newAgentResponse .packageApplyStatus status id).marshal

/-- The answer of a legacy agent. -/
def legacyItem (legacy : LegacyMap) : Item := (Ty.map Ty.string).enc cborFormat (some legacy)

/-- …in its message. -/
def legacyMessage (id : Option (BitVec 32)) (legacy : LegacyMap) : Item :=
  (AgentResponse.withData id (legacyItem legacy)).marshal

/-- The text of the map is UTF-8. -/
def LegacyMap.Utf8 (legacy : LegacyMap) : Prop :=
  ∀ e ∈ legacy.entries, e.1.isLeft ∧ e.2.isLeft

/-- The lines of the packages that failed. -/
def failures (legacy : LegacyMap) : List String :=
  legacy.entries.filterMap fun e => match e.1, e.2 with
    | .inl pkg, .inl msg => if msg ≠ "" then some (pkg ++ ": " ++ msg) else none
    | _, _ => none

/-- **What is to become of a map**: it is `done` if and only if there are no messages, and else
`failed`, with the lines of the packages that failed, in order. -/
structure Converted (packages : (Ty.slice Ty.string : Ty Encoding).Val) (now : BitVec 64)
    (legacy : LegacyMap) (status : packageApplyStatus.Val) : Prop where
  done_iff : applyState status = .inl "done" ↔ ∀ e ∈ legacy.entries, e.2 = .inl ""
  done_or_failed : applyState status = .inl "done" ∨ applyState status = .inl "failed"
  message : ∃ lines : List String, lines.Pairwise (· ≤ ·) ∧ lines.Perm (failures legacy) ∧
    status 2 = .inl ("\n".intercalate lines)
  packages : status 1 = packages
  finishedAt : status 3 = (0 : BitVec 64) ∧ status 4 = now

/-! ## A status -/

variable {byName : Bool} {unmarshalErr : GoError}
  {packages : (Ty.slice Ty.string : Ty Encoding).Val} {now : BitVec 64}
  {id : Option (BitVec 32)}

/-- The keys of a status are integers. -/
theorem exists_int_key {status : packageApplyStatus.Val} {entries : List (Key × Item)}
    (h : packageApplyStatus.enc cborFormat status = .map entries) :
    ∀ e ∈ entries, ∃ n, e.1 = .int n := by
  obtain rfl := Item.map.inj h
  intro e he
  obtain ⟨i, -, hi⟩ := List.mem_filterMap.mp he
  fin_cases i <;> obtain ⟨-, hi⟩ := Option.ite_none_left_eq_some.mp hi <;>
    exact ⟨_, (congrArg Prod.fst (Option.some.inj hi)).symm⟩

/-- …so a decoder that goes by names sees the same. -/
theorem respelled_enc (status : packageApplyStatus.Val) :
    respelled byName (packageApplyStatus.enc cborFormat status) =
      packageApplyStatus.enc cborFormat status := by
  have henc : ∃ entries, packageApplyStatus.enc cborFormat status = .map entries := ⟨_, rfl⟩
  obtain ⟨entries, henc⟩ := henc
  rw [henc, respelled]
  split_ifs
  · refine congrArg Item.map ((List.map_congr_left fun e he => ?_).trans (List.map_id _))
    obtain ⟨n, hn⟩ := exists_int_key henc e he
    refine Prod.ext ?_ rfl
    change spelled e.1 = e.1
    rw [hn]
    rfl
  · rfl

/-- Everything in a status has a place in CBOR. -/
theorem carried_status (status : packageApplyStatus.Val) :
    packageApplyStatus.Carried cborFormat status := by
  intro i
  fin_cases i
  · exact text_cbor (status 0)
  · exact fun _ _ a _ => text_cbor a
  · exact text_cbor (status 2)
  · trivial
  · trivial

/-- **A status arrives as it is.** -/
theorem applyPackageUpdatesBy_status {status : packageApplyStatus.Val}
    (hstate : applyState status ≠ .inl "") (hutf8 : packageApplyStatus.Readable cborFormat status) :
    ∃ w, applyPackageUpdatesBy byName unmarshalErr packages now (statusMessage id status) = .ok w ∧
      packageApplyStatus.Same w status := by
  refine ⟨packageApplyStatus.merge cborFormat packageApplyStatus.zero status, ?_,
    (Ty.same_merge_iff (.inr rfl)).mpr (Ty.faithful_zero_iff.mpr (carried_status status))⟩
  have hraw : receive unmarshalErr (statusMessage id status)
      WebSocketAction.applyPackageUpdates .rawMessage none
        = .ok (some (packageApplyStatus.enc cborFormat status)) :=
    receive_eq_ok.mpr ⟨readable_newAgentResponse.mpr nofun, rfl, rfl⟩
  have hdec : unmarshalStatus byName (packageApplyStatus.enc cborFormat status) =
      some (packageApplyStatus.merge cborFormat packageApplyStatus.zero status) := by
    rw [unmarshalStatus, respelled_enc]
    exact (Ty.dec_eq_some cborFormat (wf_packageApplyStatus .cbor)).mpr ⟨hutf8, rfl⟩
  have hmerged : applyState (packageApplyStatus.merge cborFormat packageApplyStatus.zero status) =
      applyState status := text_cbor (applyState status)
  rw [applyPackageUpdatesBy, hraw]
  dsimp only
  rw [Option.getD_some, hdec]
  dsimp only
  rw [if_pos (hmerged ▸ hstate)]

/-! ## A map -/

variable {legacy : LegacyMap}

/-- Only the text `"0"` spells the key 0. -/
theorem eq_of_spelled {text : GoString} (h : spelled (.text text) = .int 0) : text = .inl "0" := by
  cases text with
  | inr bytes => cases h
  | inl s =>
    unfold spelled at h
    cases hindex : ["0", "1", "2", "3", "4"].findIdx? (· = s) with
    | none =>
      simp only [hindex] at h
      cases h
    | some n =>
      simp only [hindex] at h
      obtain rfl := Key.int.inj h
      obtain ⟨_, hs, -⟩ := List.findIdx?_eq_some_iff_getElem.mp hindex
      exact congrArg Sum.inl (of_decide_eq_true hs).symm

/-- What is found in a map for the key 0. -/
theorem lookup_respelled
    (hname : byName = true → ∀ msg ∈ legacy.lookup (.inl "0"), msg = .inl "")
    {entries : List (Key × Item)} (h : respelled byName (legacyItem legacy) = .map entries)
    {item : Item} (hitem : Item.lookup (.int 0) entries = some item) : item = .text (.inl "") := by
  obtain ⟨e, hfind, rfl⟩ := Option.map_eq_some_iff.mp hitem
  have hkey : e.1 = .int 0 := by simpa using List.find?_some hfind
  have hmem := List.mem_of_find?_eq_some hfind
  obtain rfl := Item.map.inj h
  cases byName with
  | false =>
    obtain ⟨e', -, rfl⟩ := List.mem_map.mp hmem
    cases hkey
  | true =>
    rw [if_pos rfl, List.map_map] at hmem
    obtain ⟨e', he', rfl⟩ := List.mem_map.mp hmem
    have hzero : cborFormat.text e'.1 = .inl "0" := eq_of_spelled hkey
    rw [text_cbor] at hzero
    have hmsg := hname rfl e'.2 (hzero ▸ AList.mem_lookup_iff.mpr he')
    exact congrArg Item.text ((text_cbor e'.2).trans hmsg)

/-- **A map is no status**: the key 0 is not there, or without a message. -/
theorem applyState_legacy (hname : byName = true → ∀ msg ∈ legacy.lookup (.inl "0"), msg = .inl "")
    {status : packageApplyStatus.Val}
    (h : unmarshalStatus byName (legacyItem legacy) = some status) :
    applyState status = .inl "" := by
  have henc : ∃ entries, respelled byName (legacyItem legacy) = .map entries := ⟨_, rfl⟩
  obtain ⟨entries, henc⟩ := henc
  rw [unmarshalStatus, henc] at h
  cases hlookup : Item.lookup (.int 0) entries with
  | none => exact Ty.dec_struct_absent h (i := 0) rfl hlookup
  | some item =>
    obtain rfl := lookup_respelled hname henc hlookup
    exact (Option.some.inj (Ty.dec_struct_present h (i := 0) rfl hlookup)).symm

/-- The map that is decoded. -/
theorem dec_legacyItem (hutf8 : legacy.Utf8) :
    ∃ decoded : LegacyMap, decoded.entries.Perm legacy.entries ∧
      (Ty.map Ty.string : Ty Encoding).dec .cbor none (legacyItem legacy) =
        some (some decoded) := by
  have hwf : (Ty.map Ty.string : Ty Encoding).Wf cborFormat.index := trivial
  have htext : ∀ e ∈ legacy.entries, cborFormat.text e.1 = e.1 := fun e _ => text_cbor e.1
  have hreadable : (Ty.map Ty.string : Ty Encoding).Readable cborFormat (some legacy) := by
    intro m hm e he
    obtain rfl := Option.some.inj hm
    obtain ⟨hpkg, hmsg⟩ := hutf8 e he
    refine ⟨(text_cbor e.1).symm ▸ hpkg, ?_⟩
    change (cborFormat.text e.2).isLeft = true
    rw [text_cbor]
    exact hmsg
  have hlookup : ∀ pkg, (insertAll ∅ (legacy.entries.map fun e =>
      (cborFormat.text e.1, cborFormat.text e.2))).lookup pkg = legacy.lookup pkg := by
    intro pkg
    refine (Ty.lookup_merge_map (t := (Ty.string : Ty Encoding)) (d := none) htext pkg).trans ?_
    cases legacy.lookup pkg with
    | none => rfl
    | some msg => exact congrArg some (text_cbor msg)
  refine ⟨_, ?_, (Ty.dec_eq_some cborFormat hwf).mpr ⟨hreadable, rfl⟩⟩
  refine List.lookup_ext (AList.nodupKeys _) legacy.nodupKeys fun pkg msg => ?_
  exact Iff.of_eq (congrArg (msg ∈ ·) (hlookup pkg))

/-- **What `legacyApplyStatus` makes of a map.** -/
theorem converted_legacyApplyStatus {decoded : LegacyMap}
    (hperm : decoded.entries.Perm legacy.entries) (hutf8 : legacy.Utf8) :
    Converted packages now legacy (legacyApplyStatus packages now decoded) := by
  have hfailures : (failures decoded).Perm (failures legacy) := hperm.filterMap _
  have hstate : applyState (legacyApplyStatus packages now decoded) =
      if failures decoded = [] then .inl "done" else .inl "failed" := rfl
  have hnone : failures decoded = [] ↔ ∀ e ∈ legacy.entries, e.2 = .inl "" := by
    rw [← List.length_eq_zero_iff, hfailures.length_eq, List.length_eq_zero_iff, failures,
      List.filterMap_eq_nil_iff]
    refine forall₂_congr fun e he => ?_
    obtain ⟨hpkg, hmsg⟩ := hutf8 e he
    obtain ⟨pkg, hpkg⟩ := Sum.isLeft_iff.mp hpkg
    obtain ⟨msg, hmsg⟩ := Sum.isLeft_iff.mp hmsg
    rw [hpkg, hmsg]
    simp
  refine ⟨?_, ?_, ⟨(failures decoded).mergeSort fun a b => decide (a ≤ b), ?_, ?_, rfl⟩, rfl,
    rfl, rfl⟩
  · rw [hstate, ← hnone]
    split_ifs with h <;> simp [h]
  · rw [hstate]
    split_ifs
    · exact .inl rfl
    · exact .inr rfl
  · have hsorted : ((failures decoded).mergeSort fun a b => decide (a ≤ b)).Pairwise
        fun a b => decide (a ≤ b) = true :=
      List.pairwise_mergeSort
        (fun a b c hab hbc => decide_eq_true
          ((of_decide_eq_true hab).trans (of_decide_eq_true hbc)))
        (fun a b => by simpa using le_total a b) (failures decoded)
    exact hsorted.imp fun h => of_decide_eq_true h
  · exact (List.mergeSort_perm _ _).trans hfailures

/-- **A map arrives as its conversion.** -/
theorem applyPackageUpdatesBy_legacy (hne : legacy.entries ≠ []) (hutf8 : legacy.Utf8)
    (hname : byName = true → ∀ msg ∈ legacy.lookup (.inl "0"), msg = .inl "") :
    ∃ w, applyPackageUpdatesBy byName unmarshalErr packages now (legacyMessage id legacy) = .ok w ∧
      Converted packages now legacy w := by
  obtain ⟨decoded, hperm, hdec⟩ := dec_legacyItem hutf8
  refine ⟨legacyApplyStatus packages now decoded, ?_, converted_legacyApplyStatus hperm hutf8⟩
  have hraw : receive unmarshalErr (legacyMessage id legacy)
      WebSocketAction.applyPackageUpdates .rawMessage none = .ok (some (legacyItem legacy)) :=
    receive_eq_ok.mpr ⟨readable_withData id _, rfl, rfl⟩
  have hlegacy : applyPackageUpdatesOnAgent.legacy packages now (some (legacyItem legacy)) =
      .ok (legacyApplyStatus packages now decoded) := by
    have hdecoded : decoded.entries ≠ [] := fun h => hne (List.nil_perm.mp (h ▸ hperm))
    unfold applyPackageUpdatesOnAgent.legacy
    rw [Option.getD_some, hdec]
    exact if_neg hdecoded
  unfold applyPackageUpdatesBy
  rw [hraw]
  dsimp only
  rw [Option.getD_some, hlegacy]
  cases hstatus : unmarshalStatus byName (legacyItem legacy) with
  | none => rfl
  | some status => exact if_neg (not_not.mpr (applyState_legacy hname hstatus))

/-- **The answers are told apart**, where their text is UTF-8: a status is what the hub returns, and
a map becomes `done` or `failed`; if the decoder goes by names, the package `0` may not have
failed. -/
theorem answers (byName : Bool) (unmarshalErr : GoError)
    (packages : (Ty.slice Ty.string : Ty Encoding).Val) (now : BitVec 64)
    (id : Option (BitVec 32)) :
    (∀ status, applyState status ≠ .inl "" → packageApplyStatus.Readable cborFormat status →
      ∃ w, applyPackageUpdatesBy byName unmarshalErr packages now (statusMessage id status) =
          .ok w ∧ packageApplyStatus.Same w status) ∧
    ∀ legacy : LegacyMap, legacy.entries ≠ [] → legacy.Utf8 →
      (byName = true → ∀ msg ∈ legacy.lookup (.inl "0"), msg = .inl "") →
      ∃ w, applyPackageUpdatesBy byName unmarshalErr packages now (legacyMessage id legacy) =
          .ok w ∧ Converted packages now legacy w :=
  ⟨fun _ => applyPackageUpdatesBy_status, fun _ => applyPackageUpdatesBy_legacy⟩

/-- The map of one package. -/
def legacyOf (pkg : String) (msg : GoString) : LegacyMap := AList.singleton (.inl pkg) msg

/-- A map in which one package failed. -/
theorem answers_nginx :
    ∃ w, applyPackageUpdatesBy true (.new "cbor") none 0
        (legacyMessage (some 1) (legacyOf "nginx" (.inl "exit status 100"))) = .ok w ∧
      Converted none 0 (legacyOf "nginx" (.inl "exit status 100")) w := by
  refine (answers true (.new "cbor") none 0 (some 1)).2 _ (List.cons_ne_nil _ _) ?_ fun _ => ?_
  · intro e he
    obtain rfl := List.mem_singleton.mp he
    exact ⟨rfl, rfl⟩
  · decide

/-- A message that is not UTF-8 is no map to the hub, and if the decoder goes by names, the failure
of a package `0` is taken for a status. -/
theorem not_answers :
    (¬ ∃ w, applyPackageUpdatesBy false (.new "cbor") none 0
      (legacyMessage (some 1) (legacyOf "nginx" (.inr ⟨⟨#[0xff]⟩, by decide +kernel⟩))) = .ok w) ∧
    ∃ w, applyPackageUpdatesBy true (.new "cbor") none 0
        (legacyMessage (some 1) (legacyOf "0" (.inl "exit status 100"))) = .ok w ∧
      applyState w = .inl "exit status 100" := by
  refine ⟨?_, _, rfl, rfl⟩
  rintro ⟨w, hw⟩
  cases hw

end Response

end Beszel
