import Beszel.Machinery.Run
import Mathlib.Data.Nat.Notation
import Mathlib.Tactic.SplitIfs

/-!
# Hub/SshKey — the key of the hub

    ReadFile ──key──▸ answer
        ╰──no file──▸ made ──open──▸ opened ──write──▸ answer

`GetSSHKey` of `internal/hub/hub.go`.  It is called for every agent that connects and for the
configuration of the SSH client, so calls may overlap, and the first of them make the key.  The
forms of keys are those of a library: `parse` and `marshal`.
-/

namespace Beszel

open Machinery

namespace SshKey

/-- The private key file, `pubKey` as the key that it is of, the calls that made a key and are about
to open the file, those that opened it, and the keys that calls returned, newest first. -/
structure State (κ : Type) where
  file : Option (List UInt8)
  pubKey : Option κ
  made : List κ
  opened : List κ
  answers : List κ

/-- A hub that starts, with the file that is there. -/
def State.init {κ : Type} (file : Option (List UInt8)) : State κ := ⟨file, none, [], [], []⟩

/-- What can happen next.  `read` is a call up to the key that it makes, if it makes one: `fails` is
an error of reading that is not that there is no file, and `generated` what `ed25519.GenerateKey`
and `ssh.MarshalPrivateKey` would give.  `write` is the rest of a call that opened the file, with
the number of bytes that are written. -/
inductive Event (κ : Type)
  | read (fails : Bool) (generated : Option κ)
  | refuse (key : κ)
  | truncate (key : κ)
  | write (key : κ) (n : ℕ)

section Step

variable {κ : Type} [DecidableEq κ] (parse : List UInt8 → Option κ) (marshal : κ → List UInt8)

/-- A call returns a key. -/
def State.answer (s : State κ) (key : κ) : State κ :=
  { s with pubKey := some key, answers := key :: s.answers }

/-- **One step.** -/
def step (s : State κ) : Event κ → Option (State κ)
  | .read fails generated =>
    if fails then some s
    else
      match s.file with
      | some existingKey =>
        match parse existingKey with
        | some key => some (s.answer key)
        | none => some s
      | none =>
        match generated with
        | some key => some { s with made := key :: s.made }
        | none => some s
  | .refuse key => if key ∈ s.made then some { s with made := s.made.erase key } else none
  | .truncate key =>
    if key ∈ s.made then
      some { s with file := some [], made := s.made.erase key, opened := key :: s.opened }
    else none
  | .write key n =>
    if key ∈ s.opened then
      -- the bytes are written from the start, over those that another call wrote
      let file := (marshal key).take n ++ (s.file.getD []).drop n
      let s := { s with file := some file, opened := s.opened.erase key }
      if (marshal key).length ≤ n then some (s.answer key) else some s
    else none

end Step

/-! ## One key -/

section Runs

variable {κ : Type} {parse : List UInt8 → Option κ} {s s' : State κ}

/-- A call that finds no file is the only one that makes a key. -/
def Alone (s : State κ) : Event κ → Prop
  | .read .. => s.file = none → s.made = []
  | _ => True

/-- **What every such run keeps**: what was returned is what the file gives. -/
structure Inv (parse : List UInt8 → Option κ) (s : State κ) : Prop where
  answers : ∀ key ∈ s.answers, s.file.bind parse = some key ∧ s.pubKey = some key
  missing : s.file = none → s.opened = [] ∧ s.made.length ≤ 1
  present : s.file.isSome → s.made = []
  opened : ∀ key ∈ s.opened, s.opened = [key] ∧ s.file = some []

theorem Inv.answers_eq_nil (h : Inv parse s) (hnone : s.file.bind parse = none) :
    s.answers = [] := by
  refine List.eq_nil_iff_forall_not_mem.mpr fun key hkey => ?_
  have hfile := (h.answers key hkey).1
  rw [hnone] at hfile
  cases hfile

/-- What the file gives is returned. -/
theorem Inv.answer {key : κ} (h : Inv parse s) (hkey : s.file.bind parse = some key) :
    Inv parse (s.answer key) := by
  refine { h with answers := List.forall_mem_cons.mpr ⟨⟨hkey, rfl⟩, fun other hother => ?_⟩ }
  have hother := (h.answers other hother).1
  obtain rfl : key = other := Option.some.inj (hkey.symm.trans hother)
  exact ⟨hkey, rfl⟩

/-- A key that is made is the only one, and there is no file. -/
theorem Inv.of_mem_made {key : κ} (h : Inv parse s) (hkey : key ∈ s.made) :
    s.file = none ∧ s.made = [key] ∧ s.opened = [] := by
  have hfile : s.file = none := by
    rw [← Option.not_isSome_iff_eq_none]
    exact fun hsome => List.not_mem_nil (h.present hsome ▸ hkey)
  obtain ⟨hopened, hlength⟩ := h.missing hfile
  refine ⟨hfile, ?_, hopened⟩
  obtain ⟨other, hother⟩ := List.length_eq_one_iff.mp
    (Nat.le_antisymm hlength (List.length_pos_of_mem hkey))
  rw [hother, List.mem_singleton] at hkey
  rw [hother, hkey]

variable [DecidableEq κ] {marshal : κ → List UInt8}

theorem Inv.read {fails : Bool} {generated : Option κ} (h : Inv parse s)
    (halone : Alone s (.read fails generated))
    (hs : step parse marshal s (.read fails generated) = some s') : Inv parse s' := by
  dsimp only [step] at hs
  split_ifs at hs
  · obtain rfl := Option.some.inj hs
    exact h
  · cases hfile : s.file with
    | some existingKey =>
      rw [hfile] at hs
      dsimp only at hs
      cases hparse : parse existingKey with
      | some key =>
        rw [hparse] at hs
        obtain rfl := Option.some.inj hs
        exact h.answer (by rw [hfile]; exact hparse)
      | none =>
        rw [hparse] at hs
        obtain rfl := Option.some.inj hs
        exact h
    | none =>
      rw [hfile] at hs
      dsimp only at hs
      cases generated with
      | none =>
        obtain rfl := Option.some.inj hs
        exact h
      | some key =>
        obtain rfl := Option.some.inj hs
        have hanswers := h.answers
        rw [hfile] at hanswers
        refine ⟨hanswers, fun _ => ⟨(h.missing hfile).1, ?_⟩, nofun, ?_⟩
        · rw [halone hfile]
          exact Nat.le_refl 1
        · rw [(h.missing hfile).1]
          exact fun _ h => nomatch h

theorem Inv.refuse {key : κ} (h : Inv parse s)
    (hs : step parse marshal s (.refuse key) = some s') : Inv parse s' := by
  obtain ⟨hkey, rfl⟩ := guard_eq_some hs
  obtain ⟨hfile, hmade, hopened⟩ := h.of_mem_made hkey
  refine { h with missing := fun _ => ⟨hopened, ?_⟩, present := fun hsome => ?_ }
  · rw [hmade, List.erase_cons_head]
    exact Nat.zero_le 1
  · rw [hfile] at hsome
    cases hsome

theorem Inv.truncate {key : κ} (h : Inv parse s)
    (hs : step parse marshal s (.truncate key) = some s') : Inv parse s' := by
  obtain ⟨hkey, rfl⟩ := guard_eq_some hs
  obtain ⟨hfile, hmade, hopened⟩ := h.of_mem_made hkey
  have hanswers : s.answers = [] := h.answers_eq_nil (by rw [hfile]; rfl)
  refine ⟨?_, nofun, fun _ => ?_, ?_⟩
  · rw [hanswers]
    exact fun _ h => nomatch h
  · rw [hmade, List.erase_cons_head]
  · rw [hopened]
    exact List.forall_mem_singleton.mpr ⟨rfl, rfl⟩

theorem Inv.write {key : κ} {n : ℕ} (hround : ∀ key, parse (marshal key) = some key)
    (hempty : parse [] = none) (h : Inv parse s)
    (hs : step parse marshal s (.write key n) = some s') : Inv parse s' := by
  dsimp only [step] at hs
  split_ifs at hs with hkey hwhole
  all_goals
    obtain ⟨hopened, hfile⟩ := h.opened key hkey
    obtain rfl := Option.some.inj hs
    have hanswers : s.answers = [] := h.answers_eq_nil (by rw [hfile]; exact hempty)
    have hmade : s.made = [] := h.present (by rw [hfile]; rfl)
    have hwritten : Inv parse { s with
        file := some ((marshal key).take n ++ (s.file.getD []).drop n)
        opened := s.opened.erase key } := by
      refine ⟨?_, nofun, fun _ => hmade, ?_⟩
      · rw [hanswers]
        exact fun _ h => nomatch h
      · rw [hopened, List.erase_cons_head]
        exact fun _ h => nomatch h
  · refine hwritten.answer ?_
    rw [hfile, List.take_of_length_le hwhole, Option.getD_some, List.drop_nil, List.append_nil]
    exact hround key
  · exact hwritten

/-- **The hub has one key.**  Where the calls that find no file do not overlap, every call that
returns a key returns the one that is in the file, and the public key that is shown is that of it:
so all calls return the same, whichever of them fail and wherever a write ends. -/
theorem answers_eq_file {file : Option (List UInt8)} {events : List (Event κ)}
    (hround : ∀ key, parse (marshal key) = some key) (hempty : parse [] = none)
    (halone : Along (step parse marshal) Alone (.init file) events)
    (h : run (step parse marshal) (.init file) events = some s) :
    ∀ key ∈ s.answers, s.file.bind parse = some key ∧ s.pubKey = some key := by
  refine (inv_of_along (I := Inv parse) ?_ ?_ halone h).answers
  · intro s e s' hinv halone hs
    cases e with
    | read fails generated => exact hinv.read halone hs
    | refuse key => exact hinv.refuse hs
    | truncate key => exact hinv.truncate hs
    | write key n => exact hinv.write hround hempty hs
  · exact
      { answers := fun _ h => nomatch h
        missing := fun _ => ⟨rfl, Nat.zero_le 1⟩
        present := fun _ => rfl
        opened := fun _ h => nomatch h }

/-- The first call makes a key, and a second one reads it. -/
theorem answers_eq_file_second :
    ∃ s, run (step List.head? fun key : UInt8 => [key]) (.init none)
        [.read false (some 7), .truncate 7, .write 7 1, .read false none] = some s ∧
      s.answers = [7, 7] ∧ ∀ key ∈ s.answers, s.file.bind List.head? = some key := by
  have halone : Along (step List.head? fun key : UInt8 => [key]) Alone (.init none)
      [.read false (some 7), .truncate 7, .write 7 1, .read false none] :=
    .cons (fun _ => rfl) rfl (.cons trivial rfl (.cons trivial rfl
      (.cons (fun h => nomatch h) rfl trivial)))
  refine ⟨_, rfl, rfl, fun key hkey => ?_⟩
  exact (answers_eq_file (by exact fun _ => rfl) rfl halone rfl key hkey).1

end Runs

end SshKey

end Beszel
