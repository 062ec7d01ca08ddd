import Assay.Sandbox.Octets

/-!
Shell scripts as trees.
-/

namespace Assay.Sandbox.Shell

/-- What a redirection does with its descriptor. -/
inductive Redirect where
  | input
  | output
  | append
  /-- Opened for reading and writing. -/
  | both
  /-- Made the same as another descriptor, or closed. -/
  | duplicate
  deriving DecidableEq, Repr

/-- How the commands of a list hang together. -/
inductive Joint where
  | ifSuccess
  | ifFailure
  deriving DecidableEq, Repr

mutual

/-- A part of a word. -/
inductive Piece where
  | literal (text : Octets) (quoted : Bool)
  | parameter (name : Octets) (use : Use) (quoted : Bool)
  | substitution (script : List Item) (quoted : Bool)
  | arithmetic (expression : List Piece) (quoted : Bool)
  /-- A tilde at the start of a word. -/
  | home

/-- What is made of a parameter. -/
inductive Use where
  | value
  | length
  /-- Another word in the place of a parameter that is unset, or also of one that is `empty`. -/
  | orElse (empty : Bool) (word : List Piece)
  | orAssign (empty : Bool) (word : List Piece)
  | orFail (empty : Bool) (word : List Piece)
  | ifSet (empty : Bool) (word : List Piece)
  | withoutStart (longest : Bool) (pattern : List Piece)
  | withoutEnd (longest : Bool) (pattern : List Piece)
  /-- Something that means nothing. -/
  | bad

inductive Redirection where
  | file (descriptor : Nat) (how : Redirect) (target : List Piece)
  | here (descriptor : Nat) (body : List Piece)

inductive Command where
  | simple (line : Nat) (assignments : List (Octets × List Piece)) (words : List (List Piece))
      (redirections : List Redirection)
  | subshell (body : List Item) (redirections : List Redirection)
  | group (body : List Item) (redirections : List Redirection)
  | choice (branches : List (List Item × List Item)) (otherwise : List Item)
      (redirections : List Redirection)
  | loop (wanted : Bool) (test body : List Item) (redirections : List Redirection)
  | forEach (name : Octets) (words : Option (List (List Piece))) (body : List Item)
      (redirections : List Redirection)
  | select (line : Nat) (word : List Piece) (cases : List (List (List Piece) × List Item))
      (redirections : List Redirection)
  | define (name : Octets) (body : Command)

inductive Pipeline where
  | mk (negated : Bool) (stages : List Command)

/-- Pipelines in a row, run one after another, or all of it in the background. -/
inductive Item where
  | mk (first : Pipeline) (rest : List (Joint × Pipeline)) (background : Bool)

end

/-- A word of a script. -/
abbrev Word := List Piece

abbrev Body := List Item

/-- The text of a word that is plain, such as a keyword. -/
def plainText? : Word → Option Octets
  | [.literal text false] => some text
  | _ => none

end Assay.Sandbox.Shell
