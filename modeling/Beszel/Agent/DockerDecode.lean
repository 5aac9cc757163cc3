import Beszel.Common.Json
import Beszel.Machinery.Run

/-!
# Agent/DockerDecode — the responses of docker are decoded by one decoder

    body ──ReadFrom──▸ buf ──decoder──▸ value
                        ╰──Reset

`dockerManager.decode` of `agent/docker.go`.  The decoder is made once, for a buffer that is emptied
after each response: what the decoder has read from it by then, and its error, stay.
-/

namespace Beszel

open Machinery

namespace Agent

namespace DockerDecode

/-- `decodeState.unmarshal`: what a value does to its target, and whether that is an error.  Blanks
in front of the value are passed over. -/
structure Unmarshal (δ ρ : Type) where
  unmarshal : δ → List UInt8 → ρ
  unmarshal_blank : ∀ d c text, Json.isSpace c = true →
    unmarshal d (c :: text) = unmarshal d text

/-- Why a response is not decoded: its body cannot be read, or there is no value in what the decoder
has. -/
inductive DecodeError
  | read
  | decoder (e : Failure Json.SyntaxError)

/-- A response that is decoded into a target; `none` is a body that cannot be read.  The decoder
reads as far beyond the value as it likes. -/
structure Response (δ : Type) where
  body : Option (List UInt8)
  d : δ
  readAhead : ℕ

/-- The part of `dockerManager` that decodes; the buffer is empty between the calls. -/
structure DockerManager where
  decoder : Option (Decoder UInt8 Json.SyntaxError)

/-- A manager that has decoded nothing. -/
def DockerManager.new : DockerManager := ⟨none⟩

section Decode

variable {δ ρ : Type} (u : Unmarshal δ ρ)

/-- **`dockerManager.decode`.** -/
def DockerManager.decode (dm : DockerManager) (resp : Response δ) :
    DockerManager × Except DecodeError ρ :=
  let decoder := dm.decoder.getD .new
  match resp.body with
  | none => (⟨some decoder⟩, .error .read)
  | some body =>
    let (decoder, result) :=
      Json.scanner.decode (u.unmarshal resp.d) decoder body resp.readAhead
    (⟨some decoder⟩, result.mapError .decoder)

/-- The responses one after the other. -/
def step (dm : DockerManager) (resp : Response δ) : Option DockerManager :=
  some (dm.decode u resp).1

/-- **A response leaves nothing behind**: its body cannot be read, or it starts with a value beyond
which the decoder read blanks only. -/
def Response.Whole (resp : Response δ) : Prop :=
  ∀ body ∈ resp.body, Json.scanner.Whole body resp.readAhead

/-- **Nothing is left of the past**: every response is answered as by a new manager. -/
def DockerManager.Independent (dm : DockerManager) : Prop :=
  ∀ resp : Response δ, (dm.decode u resp).2 = (DockerManager.new.decode u resp).2

variable {u} {dm : DockerManager} {resp : Response δ}

/-- The decoder of a manager is clean. -/
def DockerManager.Clean (dm : DockerManager) : Prop := Json.scanner.Clean (dm.decoder.getD .new)

theorem clean_new : DockerManager.new.Clean := Scanner.clean_new

/-- **A clean manager is independent of the past.** -/
theorem DockerManager.Clean.independent (h : dm.Clean) : dm.Independent u := by
  intro resp
  unfold decode
  dsimp only
  cases resp.body with
  | none => rfl
  | some body =>
    exact congrArg (Except.mapError DecodeError.decoder)
      (Scanner.decode_of_clean (fun c text hc => u.unmarshal_blank resp.d c text hc) h body _ _)

/-- A clean manager stays clean on a response that leaves nothing behind, and on no other. -/
theorem DockerManager.Clean.decode_iff (h : dm.Clean) :
    (dm.decode u resp).1.Clean ↔ resp.Whole := by
  unfold decode Response.Whole
  dsimp only
  cases resp.body with
  | none => exact ⟨fun _ _ hbody => (nomatch hbody), fun _ => h⟩
  | some body =>
    refine (Scanner.clean_decode h body resp.readAhead).trans ?_
    exact ⟨fun hwhole _ hbody => Option.some.inj hbody ▸ hwhole, fun hwhole => hwhole body rfl⟩

/-- **A manager that is not clean answers some response like no new one.** -/
theorem DockerManager.clean_of_independent (d : δ) (h : dm.Independent u) : dm.Clean := by
  by_contra hclean
  obtain ⟨body, hne⟩ := Scanner.exists_ne_of_not_clean (u.unmarshal d)
    Json.readValue_exists hclean
  have hsame := h ⟨some body, d, 0⟩
  unfold decode at hsame
  dsimp only at hsame
  refine hne 0 0 ?_
  generalize (Json.scanner.decode (u.unmarshal d) (dm.decoder.getD .new) body 0).2 = r at *
  have hnew : (DockerManager.new.decoder.getD .new : Decoder UInt8 Json.SyntaxError) = .new := rfl
  rw [hnew] at hsame
  generalize (Json.scanner.decode (u.unmarshal d) .new body 0).2 = r' at *
  cases r <;> cases r'
  · exact congrArg Except.error (DecodeError.decoder.inj (Except.error.inj hsame))
  · cases hsame
  · cases hsame
  · exact congrArg Except.ok (Except.ok.inj hsame)

/-- **Decoding is independent of the past all along if and only if no response leaves anything
behind.** -/
theorem independent_iff (u : Unmarshal δ ρ) (responses : List (Response δ)) :
    (∀ earlier, earlier <+: responses → ∀ dm ∈ run (step u) .new earlier, dm.Independent u) ↔
      ∀ resp ∈ responses, resp.Whole := by
  rw [← along_iff_forall (s := .new) fun _ _ => (rfl : (step u _ _).isSome)]
  refine forall_prefix_iff_along (I := DockerManager.Clean) (fun h => h.independent)
    (fun h hwhole hs => ?_) (fun {_ resp} h hnot => ?_) clean_new
  · obtain rfl := Option.some.inj hs
    exact h.decode_iff.mpr hwhole
  · refine ⟨_, rfl, fun hindependent => hnot ?_⟩
    exact h.decode_iff.mp (DockerManager.clean_of_independent resp.d hindependent)

end Decode

/-! ### A body that is malformed -/

/-- Values are kept as they are, without the blanks in front of them. -/
def textOf : Unmarshal Unit (List UInt8) where
  unmarshal _ text := text.dropWhile Json.isSpace
  unmarshal_blank _ _ _ hc := List.dropWhile_cons_of_pos hc

/-- **After a body that is malformed a list of no containers is not decoded.** -/
theorem not_independent :
    ¬ ∀ (δ ρ : Type) (u : Unmarshal δ ρ) (responses : List (Response δ)),
      ∀ earlier, earlier <+: responses → ∀ dm ∈ run (step u) .new earlier, dm.Independent u := by
  intro h
  have hsame := h Unit (List UInt8) textOf [⟨some [0x5d], (), 0⟩] [⟨some [0x5d], (), 0⟩]
    List.prefix_rfl _ rfl ⟨some [0x5b, 0x5d], (), 0⟩
  -- a new manager decodes it, this one repeats its error
  exact nomatch hsame

end DockerDecode

end Agent

end Beszel
