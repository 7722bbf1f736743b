import Corebank.Text

/-!
# SQL scripts

`_statements` of `scripts/migrate.py`, and what a script of statements is by the lexical structure of
SQL.
-/

namespace Corebank
open Library

def commentLine (line : List Char) : Bool := ['-', '-'].isPrefixOf (strip line)

def keptLines (sql : List Char) : List (List Char) := (splitlines sql).filter (!commentLine ·)

/-- `_statements`. -/
def statements (sql : List Char) : List (List Char) :=
  Text.fields isSpace ';' (['\n'].intercalate (keptLines sql))

/-! ## The lexical structure of SQL

Where the server is in a text: in code, perhaps after a `-`, a `--` or a `/`, in a quoted string or
identifier, perhaps after a backslash, or in a comment. -/

inductive Quote where
  | single | double | backtick
  deriving DecidableEq, Repr

def Quote.mark : Quote → Char
  | .single => '\''
  | .double => '"'
  | .backtick => '`'

inductive Lexing where
  | code | dash | dashes | slash
  | quoted (q : Quote)
  | escaped (q : Quote)
  | line
  | block | star
  deriving DecidableEq, Repr

def sqlSpace (c : Char) : Bool := (0x09 ≤ c.toNat && c.toNat ≤ 0x0d) || c = ' '

def isControl (c : Char) : Bool := c.toNat < 0x20 || c.toNat = 0x7f

def Lexing.inCode (c : Char) : Lexing :=
  if c = '\'' then .quoted .single
  else if c = '"' then .quoted .double
  else if c = '`' then .quoted .backtick
  else if c = '#' then .line
  else if c = '-' then .dash
  else if c = '/' then .slash
  else .code

def Lexing.next : Lexing → Char → Lexing
  | .code, c => inCode c
  | .dash, c => if c = '-' then .dashes else inCode c
  -- `--` opens a comment only before white space or a control character
  | .dashes, c =>
      if c = '\n' then .code
      else if c = ' ' || isControl c then .line
      else if c = '-' then .dashes
      else inCode c
  | .slash, c => if c = '*' then .block else inCode c
  -- a doubled quote closes the string and opens it again
  | .quoted q, c =>
      if c = q.mark then .code else if c = '\\' ∧ q ≠ .backtick then .escaped q else .quoted q
  | .escaped q, _ => .quoted q
  | .line, c => if c = '\n' then .code else .line
  | .block, c => if c = '*' then .star else .block
  | .star, c => if c = '/' then .code else if c = '*' then .star else .block

/-- A `;` outside strings, identifiers and comments ends the statement. -/
def Lexing.terminated : Lexing → Char → Bool
  | .code, c | .dash, c | .dashes, c | .slash, c => c = ';'
  | _, _ => false

/-- The state after a text in which no statement ends. -/
def Lexing.after : Lexing → List Char → Option Lexing
  | state, [] => some state
  | state, c :: cs => if state.terminated c then none else (state.next c).after cs

/-! ## Scripts -/

/-- The terminator, which has to stand on a line of its own after a `--` comment. -/
def terminator (ownLine : Bool) : List Char := if ownLine then ['\n', ';', '\n'] else [';', '\n']

def isStatement (text : List Char) (ownLine : Bool) : Bool :=
  text.head?.any (!sqlSpace ·) && text.getLast?.any (!sqlSpace ·) &&
    !(['-', '-'].isPrefixOf text) &&
    (Lexing.code.after (text ++ if ownLine then ['\n'] else [])).any (·.terminated ';')

/-- A statement as a script has it: its text begins and ends with a token, and a full-line comment
in front of it stands between the statements. -/
structure SqlStatement where
  text : List Char
  ownLine : Bool
  proper : isStatement text ownLine

/-- Blank, or a full-line `--` comment. -/
def isFiller (text : List Char) : Bool :=
  !text.contains '\n' &&
    match text.dropWhile sqlSpace with
    | [] => true
    | '-' :: '-' :: body => body.head?.all fun c => c = ' ' || isControl c
    | _ => false

structure Filler where
  text : List Char
  proper : isFiller text

structure Script where
  entries : List (List Filler × SqlStatement)
  trailer : List Filler

def Filler.line (filler : Filler) : List Char := filler.text ++ ['\n']

def SqlStatement.written (s : SqlStatement) : List Char := s.text ++ terminator s.ownLine

def Script.text (script : Script) : List Char :=
  (script.entries.flatMap fun e => e.1.flatMap Filler.line ++ e.2.written) ++
    script.trailer.flatMap Filler.line

def Script.texts (script : Script) : List (List Char) := script.entries.map fun e => e.2.text

end Corebank
