import Mathlib.Data.List.Basic
import Mathlib.Data.List.Induction
import Mathlib.Data.Nat.Notation

/-!
# Machinery/Shell — the part of the POSIX shell language that needs no expansion

    characters ──lex──▸ words and operators ──parse──▸ simple commands ──expand──▸ argument vectors

Words of plain characters, of text in single quotes and of `$?`, redirections of the output, and
sequences of simple commands.  Whatever else the shell would read, a newline, a parameter, a
pattern, another quote, operator or comment, a reserved word or an assignment, is not read at all:
`parse` then has no result.
-/

namespace Machinery

namespace Shell

abbrev Text := List Char

/-! ## Tokens -/

/-- A character that is itself, in a word without quotes. -/
def isPlain (c : Char) : Bool :=
  c.isAlphanum || c ∈ ['.', '+', ':', '_', '-', '/', '=', ',', '@']

/-- A part of a word: a character, without or with quotes, or `$?`. -/
inductive Part
  | plain (c : Char)
  | quoted (c : Char)
  | status
  deriving DecidableEq, Repr

abbrev Word := List Part

/-- A word, `;`, `>` with the number of what is redirected, and the `&` that may follow it. -/
inductive Token
  | word (w : Word)
  | semicolon
  | great (fd : ℕ)
  | ampersand
  deriving DecidableEq, Repr

/-- The word that is being read ends. -/
def flush : Option Word → List Token
  | none => []
  | some w => [.word w]

/-- The digits of a word that is a number. -/
def digits (w : Word) : Option (List ℕ) :=
  w.mapM fun
    | .plain c => if c.isDigit then some (c.toNat - '0'.toNat) else none
    | _ => none

/-- The word that is being read ends before `>`: a number is that of what is redirected. -/
def flushRedirect : Option Word → List Token × ℕ
  | none => ([], 1)
  | some w =>
    match digits w with
    | none => ([.word w], 1)
    | some ds => if ds = [] then ([.word w], 1) else ([], ds.foldl (10 * · + ·) 0)

/-- Outside of quotes, with the word that is being read, right after `>` or not; inside; or after
`$`. -/
inductive Mode
  | out (word : Option Word) (great : Bool)
  | quote (word : Word)
  | dollar (word : Word)

/-- **Characters become tokens.** -/
def lex : Mode → Text → Option (List Token)
  | .out word _, [] => some (flush word)
  | .out word great, c :: cs =>
    if c = ' ' ∨ c = '\t' then (lex (.out none false) cs).map (flush word ++ ·)
    else if c = ';' then (lex (.out none false) cs).map (flush word ++ .semicolon :: ·)
    else if c = '\'' then lex (.quote (word.getD [])) cs
    else if c = '$' then lex (.dollar (word.getD [])) cs
    else if c = '>' then
      if great then none
      else (lex (.out none true) cs).map
        ((flushRedirect word).1 ++ .great (flushRedirect word).2 :: ·)
    else if c = '&' then
      if great then (lex (.out none false) cs).map (.ampersand :: ·) else none
    else if isPlain c then lex (.out (some (word.getD [] ++ [.plain c])) false) cs
    else none
  | .quote _, [] => none
  | .quote word, c :: cs =>
    if c = '\'' then lex (.out (some word) false) cs else lex (.quote (word ++ [.quoted c])) cs
  | .dollar _, [] => none
  | .dollar word, c :: cs =>
    if c = '?' then lex (.out (some (word ++ [.status])) false) cs else none

/-! ## Commands -/

/-- A redirection to a file, or to what another number stands for. -/
inductive Redirect (α : Type)
  | file (fd : ℕ) (target : α)
  | copy (fd : ℕ) (target : α)
  deriving DecidableEq, Repr

/-- **A simple command.** -/
structure Command (α : Type) where
  argv : List α
  redirects : List (Redirect α)
  deriving DecidableEq, Repr

/-- The words that are no command. -/
def reserved : List Text :=
  ["!", "\x7b", "\x7d", "case", "do", "done", "elif", "else", "esac", "fi", "for", "if", "in",
    "then", "until", "while"].map String.toList

/-- The characters of a word without quotes and parameters. -/
def plainText (w : Word) : Option Text :=
  w.mapM fun
    | .plain c => some c
    | _ => none

/-- A word names a command: it is no assignment and not reserved. -/
def isName (w : Word) : Bool :=
  match plainText w with
  | none => false
  | some name => decide ('=' ∉ name ∧ name ∉ reserved)

/-- Tokens between semicolons. -/
def command : List Token → Option (Command Word)
  | [] => some ⟨[], []⟩
  | .word w :: ts => (command ts).map fun c => { c with argv := w :: c.argv }
  | .great fd :: .word w :: ts =>
    (command ts).map fun c => { c with redirects := .file fd w :: c.redirects }
  | .great fd :: .ampersand :: .word w :: ts =>
    (command ts).map fun c => { c with redirects := .copy fd w :: c.redirects }
  | _ => none

/-- …that begin with the name of a command. -/
def simpleCommand (ts : List Token) : Option (Command Word) :=
  (command ts).filter fun c => c.argv.head?.any isName

/-- **The commands of a script**, one after the other. -/
def parse (script : Text) : Option (List (Command Word)) :=
  (lex (.out none false) script).bind fun ts => (ts.splitOn .semicolon).mapM simpleCommand

/-! ## Expansion -/

/-- A part of a word, after a command with an exit status. -/
def Part.expand (status : Text) : Part → Text
  | .plain c => [c]
  | .quoted c => [c]
  | .status => status

/-- A word, which stays one: an exit status has no blanks, and quotes are removed last. -/
def expandWord (status : Text) (w : Word) : Text := w.flatMap (·.expand status)

def Redirect.map {α β : Type} (f : α → β) : Redirect α → Redirect β
  | .file fd target => .file fd (f target)
  | .copy fd target => .copy fd (f target)

/-- A command as it is run. -/
def Command.expand (status : Text) (c : Command Word) : Command Text :=
  ⟨c.argv.map (expandWord status), c.redirects.map (·.map (expandWord status))⟩

/-! ## What is read of words -/

/-- A word of plain characters. -/
structure IsPlain (s : Text) : Prop where
  ne_nil : s ≠ []
  plain : ∀ c ∈ s, isPlain c = true

variable {w : Word} {s rest : Text} {c : Char}

theorem lex_plain_cons (word : Option Word) (great : Bool) (hc : isPlain c = true) (rest : Text) :
    lex (.out word great) (c :: rest) =
      lex (.out (some (word.getD [] ++ [.plain c])) false) rest := by
  have hne (d : Char) (hd : isPlain d = false) : c ≠ d := by
    rintro rfl
    rw [hc] at hd
    cases hd
  rw [lex, if_neg (not_or.mpr ⟨hne ' ' (by decide), hne '\t' (by decide)⟩),
    if_neg (hne ';' (by decide)), if_neg (hne '\'' (by decide)), if_neg (hne '$' (by decide)),
    if_neg (hne '>' (by decide)), if_neg (hne '&' (by decide)), if_pos hc]

/-- **Plain characters join the word.** -/
theorem lex_plain (word : Option Word) (great : Bool) (hs : IsPlain s) (rest : Text) :
    lex (.out word great) (s ++ rest) =
      lex (.out (some (word.getD [] ++ s.map .plain)) false) rest := by
  obtain ⟨hne, hplain⟩ := hs
  induction s generalizing word great with
  | nil => exact absurd rfl hne
  | cons c s ih =>
    obtain ⟨hc, hplain⟩ := List.forall_mem_cons.mp hplain
    rw [List.cons_append, lex_plain_cons word great hc]
    by_cases hs : s = []
    · rw [hs]
      rfl
    · rw [ih _ _ hs hplain, Option.getD_some, List.append_assoc]
      rfl

/-- **Quoted text joins the word**, whatever its characters are. -/
theorem lex_quoted (hs : '\'' ∉ s) (w : Word) (rest : Text) :
    lex (.quote w) (s ++ '\'' :: rest) = lex (.out (some (w ++ s.map .quoted)) false) rest := by
  induction s generalizing w with
  | nil =>
    rw [List.nil_append, lex, if_pos rfl, List.map_nil, List.append_nil]
  | cons c s ih =>
    obtain ⟨hc, hs⟩ := not_or.mp (mt List.mem_cons.mpr hs)
    rw [List.cons_append, lex, if_neg (Ne.symm hc), ih hs, List.append_assoc]
    rfl

/-- A word ends with a blank. -/
theorem lex_blank (word : Option Word) (great : Bool) (rest : Text) :
    lex (.out word great) (' ' :: rest) = (lex (.out none false) rest).map (flush word ++ ·) := by
  rw [lex, if_pos (.inl rfl)]

/-- …or a semicolon. -/
theorem lex_semicolon (word : Option Word) (great : Bool) (rest : Text) :
    lex (.out word great) (';' :: rest) =
      (lex (.out none false) rest).map (flush word ++ .semicolon :: ·) := by
  rw [lex, if_neg (by decide), if_pos rfl]

/-- A redirection of the output, or of what has the number that comes before. -/
theorem lex_great (word : Option Word) (rest : Text) :
    lex (.out word false) ('>' :: rest) = (lex (.out none true) rest).map
      ((flushRedirect word).1 ++ .great (flushRedirect word).2 :: ·) := by
  rw [lex, if_neg (by decide), if_neg (by decide), if_neg (by decide), if_neg (by decide),
    if_pos rfl, if_neg Bool.false_ne_true]

theorem lex_ampersand (word : Option Word) (rest : Text) :
    lex (.out word true) ('&' :: rest) = (lex (.out none false) rest).map (.ampersand :: ·) := by
  rw [lex, if_neg (by decide), if_neg (by decide), if_neg (by decide), if_neg (by decide),
    if_neg (by decide), if_pos rfl, if_pos rfl]

/-- The exit status. -/
theorem lex_status (word : Option Word) (great : Bool) (rest : Text) :
    lex (.out word great) ('$' :: '?' :: rest) =
      lex (.out (some (word.getD [] ++ [.status])) false) rest := by
  rw [lex, if_neg (by decide), if_neg (by decide), if_neg (by decide), if_pos rfl, lex, if_pos rfl]

theorem lex_quote (great : Bool) (hs : '\'' ∉ s) (rest : Text) :
    lex (.out none great) ('\'' :: (s ++ '\'' :: rest)) =
      lex (.out (some (s.map .quoted)) false) rest := by
  rw [lex, if_neg (by decide), if_neg (by decide), if_pos rfl]
  exact lex_quoted hs [] rest

/-- **Words with blanks between them** are read one by one. -/
theorem lex_words {words : List Text} (hwords : ∀ s ∈ words, IsPlain s) (hne : words ≠ [])
    (rest : Text) : lex (.out none false) ([' '].intercalate words ++ ' ' :: rest) =
      (lex (.out none false) rest).map (words.map (fun s => .word (s.map .plain)) ++ ·) := by
  have hword {s : Text} (hs : IsPlain s) (rest : Text) : lex (.out none false) (s ++ ' ' :: rest) =
      (lex (.out none false) rest).map (.word (s.map .plain) :: ·) := by
    rw [lex_plain none false hs, lex_blank]
    rfl
  induction words with
  | nil => exact absurd rfl hne
  | cons s words ih =>
    obtain ⟨hs, hwords⟩ := List.forall_mem_cons.mp hwords
    by_cases hnil : words = []
    · rw [hnil, List.intercalate_singleton, hword hs]
      rfl
    · rw [List.intercalate_cons_of_ne_nil hnil, List.append_assoc, List.append_assoc]
      change lex _ (s ++ ' ' :: ([' '].intercalate words ++ ' ' :: rest)) = _
      rw [hword hs, ih hwords hnil, Option.map_map]
      rfl

/-! ## What is read of commands -/

/-- Words come first in a command. -/
theorem command_words (words : List Word) (ts : List Token) :
    command (words.map .word ++ ts) =
      (command ts).map fun c => { c with argv := words ++ c.argv } := by
  induction words with
  | nil => exact (congrFun Option.map_id _).symm
  | cons w words ih =>
    rw [List.map_cons, List.cons_append, command, ih, Option.map_map]
    rfl

theorem simpleCommand_words {words : List Word} {ts : List Token} {redirects : List (Redirect Word)}
    (hts : command ts = some ⟨[], redirects⟩) (hname : words.head?.any isName = true) :
    simpleCommand (words.map .word ++ ts) = some ⟨words, redirects⟩ := by
  unfold simpleCommand
  rw [command_words, hts, Option.map_some, List.append_nil]
  exact Option.filter_some_pos hname

/-- **A script is read command by command.** -/
theorem parse_eq {script : Text} {commands : List (List Token)}
    (hlex : lex (.out none false) script = some ([.semicolon].intercalate commands))
    (hne : commands ≠ []) (hsemicolon : ∀ ts ∈ commands, .semicolon ∉ ts) :
    parse script = commands.mapM simpleCommand := by
  unfold parse
  rw [hlex, Option.bind_some, List.splitOn_intercalate _ hsemicolon hne]

/-! ## What is run -/

theorem expandWord_plain (status s : Text) : expandWord status (s.map .plain) = s := by
  unfold expandWord
  rw [List.flatMap_map]
  exact List.flatMap_pure_eq_map _ _ |>.trans (List.map_id s)

theorem expandWord_quoted (status s : Text) : expandWord status (s.map .quoted) = s := by
  unfold expandWord
  rw [List.flatMap_map]
  exact List.flatMap_pure_eq_map _ _ |>.trans (List.map_id s)

end Shell

end Machinery
