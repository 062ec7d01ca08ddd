import Assay.Draw.Dictionary
import Assay.Draw.Value
import Mathlib

/-!
What a program that reads a value token by token gets to see. However deep its arrays are nested, a
value is written as its tokens with one space between any two of them, and an array without items is
an empty token.
-/

namespace Assay.Draw.Value

variable {v : Value} {items : List Value}

mutual

/-- The texts of a value from left to right; an array without items is written as nothing. -/
def tokens : Value → List String
  | .int n => [intText n]
  | .float x => [floatText x]
  | .text s => [s]
  | .array [] => [""]
  | .array (item :: rest) => item.tokens ++ tokensOf rest

def tokensOf : List Value → List String
  | [] => []
  | item :: rest => item.tokens ++ tokensOf rest

end

mutual

/-- The values in a value that are not arrays, depth first. -/
def leaves : Value → List Value
  | .array items => leavesOf items
  | leaf => [leaf]

def leavesOf : List Value → List Value
  | [] => []
  | item :: rest => item.leaves ++ leavesOf rest

end

theorem tokens_ne_nil : (v : Value) → v.tokens ≠ []
  | .int _ | .float _ | .text _ | .array [] => by simp [tokens]
  | .array (item :: rest) => by
    rw [tokens]
    exact List.append_ne_nil_of_left_ne_nil (tokens_ne_nil item) _

theorem writeItems_cons_cons (before : String) (item next : Value) (rest : List Value) :
    writeItems before (item :: next :: rest) =
      writeItems (item.write before ++ " ") (next :: rest) := by
  rw [writeItems]
  exact nofun

mutual

theorem write_eq (before : String) : (v : Value) →
    v.write before = before ++ " ".intercalate v.tokens
  | .int n => by rw [write, tokens, String.intercalate_singleton]
  | .float x => by rw [write, tokens, String.intercalate_singleton]
  | .text s => by rw [write, tokens, String.intercalate_singleton]
  | .array [] => by rw [write, writeItems, tokens, String.intercalate_singleton, String.append_empty]
  | .array (item :: rest) => by
    rw [write, writeItems_eq before (item :: rest), tokens, tokensOf]

theorem writeItems_eq (before : String) : (items : List Value) →
    writeItems before items = before ++ " ".intercalate (tokensOf items)
  | [] => by rw [writeItems, tokensOf, String.intercalate_nil, String.append_empty]
  | [item] => by rw [writeItems, write_eq before item, tokensOf, tokensOf, List.append_nil]
  | item :: next :: rest => by
    have hnext : tokensOf (next :: rest) ≠ [] := by
      rw [tokensOf]
      exact List.append_ne_nil_of_left_ne_nil (tokens_ne_nil next) _
    have hitems : tokensOf (item :: next :: rest) = item.tokens ++ tokensOf (next :: rest) := by
      rw [tokensOf]
    rw [writeItems_cons_cons, writeItems_eq _ (next :: rest), write_eq before item, hitems,
      String.intercalate_append_of_ne_nil (tokens_ne_nil item) hnext]
    simp only [String.append_assoc]

end

/-- Cut a text at every space. -/
def words (s : String) : List String := ((s.split ' ').toList).map fun word => word.copy

/-- Arrays without items leave their spaces behind. -/
example : format (.array [.array [], .int 1, .array [.array [], .array []]]) = " 1  " := by
  decide

end Assay.Draw.Value
