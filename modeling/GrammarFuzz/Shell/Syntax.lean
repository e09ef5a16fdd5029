/-!
# Shell scripts

The parts of a shell script: words that are expanded when they are used, redirections of the
streams of a command, and commands put together by pipes, lists and compound
commands.
-/

namespace GrammarFuzz.Shell

/-- A part of a word.  What is quoted is neither split nor read as a pattern. -/
inductive Part where
  | literal (quoted : Bool) (text : List Char)
  /-- The value of a parameter, or another text where it is unset or empty. -/
  | parameter (quoted : Bool) (name : List Char) (otherwise : Option (List Char))
  /-- The length of the value of a parameter. -/
  | length (name : List Char)
  /-- The output of a script. -/
  | output (quoted : Bool) (script : List Char)
  deriving Repr

/-- A word. -/
abbrev Word := List Part

/-- How a stream is redirected. -/
inductive Direction where
  | input
  | output
  | append
  | duplicate
  deriving DecidableEq, Repr

/-- A redirected stream: its descriptor and where it leads. -/
structure Redirection where
  descriptor : Nat
  direction : Direction
  target : Word
  deriving Repr

/-- A script. -/
inductive Script where
  /-- Does nothing. -/
  | skip
  /-- Assignments, words and redirections on a line. -/
  | simple (line : Nat) (assignments : List (List Char × Word)) (words : List Word)
      (redirections : List Redirection)
  | pipe (first second : Script)
  | negated (body : Script)
  | andThen (first second : Script)
  | orElse (first second : Script)
  | sequence (first second : Script)
  | conditional (test yes no : Script)
  /-- Repeats the body while the test gives what it should. -/
  | loop (holds : Bool) (test body : Script)
  /-- Runs the body for each word. -/
  | each (name : List Char) (words : List Word) (body : Script)
  /-- Runs the first body that has a pattern for the word. -/
  | select (word : Word) (clauses : List (List Word × Script))
  | subshell (body : Script) (redirections : List Redirection)
  | group (body : Script) (redirections : List Redirection)
  deriving Inhabited

end GrammarFuzz.Shell
