import Assay.Chain.Call
import Assay.Proofs.Chain.Numeral

/-!
How chains are written. A rendering is a source with its calls, arguments and white space told
apart; the white space is free and nothing else depends on it.
-/

namespace Assay.Chain

open Number (Binary64)
open Text

structure Name where
  first : Char
  rest : List Char
  starts : isNameStart first = true
  goesOn : ∀ c ∈ rest, isWordChar c = true

def Name.text (n : Name) : List Char := n.first :: n.rest

/-- Two points between two numbers. -/
structure Interval (digit : Char → Bool) where
  low : Numeral digit
  left : Blanks
  right : Blanks
  high : Numeral digit

def Interval.text {digit : Char → Bool} (r : Interval digit) : List Char :=
  r.low.text ++ r.left ++ '.' :: '.' :: (r.right ++ r.high.text)

def HasNumberShape (cs : List Char) : Prop := ∃ n : Numeral isDecimalDigit, n.text = cs

def HasRangeShape (cs : List Char) : Prop := ∃ r : Interval isDecimalDigit, r.text = cs

def HasOptionShape (cs : List Char) : Prop :=
  ∃ (key : Name) (gap : Blanks) (rest : List Char),
    rest ≠ [] ∧ cs = key.text ++ gap ++ '=' :: rest

/-- A text that can stand between two commas. -/
structure Plain (cs : List Char) : Prop where
  ne_nil : cs ≠ []
  trimmed : Trimmed cs
  unmarked : ∀ c ∈ cs, c ≠ '(' ∧ c ≠ ')' ∧ c ≠ ','

instance (cs : List Char) : Decidable (Plain cs) :=
  decidable_of_iff (cs ≠ [] ∧ Trimmed cs ∧
      cs.all (fun c => c != '(' && c != ')' && c != ',') = true) <| by
    constructor
    · rintro ⟨hne, htrimmed, hall⟩
      exact ⟨hne, htrimmed, fun c hc => by simpa [and_assoc] using List.all_eq_true.1 hall c hc⟩
    · rintro ⟨hne, htrimmed, hunmarked⟩
      exact ⟨hne, htrimmed, List.all_eq_true.2 fun c hc => by simpa [and_assoc] using hunmarked c hc⟩

/-- A text that is read as an option value of no other kind. -/
structure ValueText (cs : List Char) : Prop extends Plain cs where
  notTrue : cs ≠ "true".toList
  notFalse : cs ≠ "false".toList
  notNumber : ¬ HasNumberShape cs

/-- A text that is read as an argument of no other kind. -/
structure ArgumentText (cs : List Char) : Prop extends Plain cs where
  notRange : ¬ HasRangeShape cs
  notOption : ¬ HasOptionShape cs
  notNumber : ¬ HasNumberShape cs

/-- An option value as written. -/
inductive ValueForm where
  | flag (b : Bool)
  | number (n : Numeral Char.isDigit)
  | plain (cs : List Char) (h : ValueText cs)

namespace ValueForm

def text : ValueForm → List Char
  | flag b => if b then "true".toList else "false".toList
  | number n => n.text
  | plain cs _ => cs

def value : ValueForm → OptionValue
  | flag b => .flag b
  | number n => .number n.value
  | plain cs _ => .text (String.ofList cs)

end ValueForm

/-- An argument as written. -/
inductive ArgumentForm where
  | range (r : Interval Char.isDigit)
  | option (key : Name) (left right : Blanks) (value : ValueForm)
  | number (n : Numeral Char.isDigit)
  | plain (cs : List Char) (h : ArgumentText cs)

namespace ArgumentForm

def text : ArgumentForm → List Char
  | range r => r.text
  | option key left right value => key.text ++ left ++ '=' :: (right ++ value.text)
  | number n => n.text
  | plain cs _ => cs

def argument : ArgumentForm → Argument
  | range r => .range r.low.value r.high.value
  | option key _ _ value => .option (String.ofList key.text) value.value
  | number n => .literal (.number n.value)
  | plain cs _ => .literal (.text (String.ofList cs))

end ArgumentForm

/-- Something written between blanks. -/
structure Spaced (α : Type) where
  before : Blanks
  body : α
  after : Blanks

def Spaced.text {α : Type} (write : α → List Char) (s : Spaced α) : List Char :=
  s.before ++ write s.body ++ s.after

/-- A call as written. -/
structure CallForm where
  name : Name
  gap : Blanks
  opening : Blanks
  arguments : List (Spaced ArgumentForm)
  closing : Blanks

namespace CallForm

/-- What stands between the parentheses. -/
def inner (f : CallForm) : List Char :=
  f.opening ++ [','].intercalate (f.arguments.map (Spaced.text ArgumentForm.text)) ++ f.closing

def text (f : CallForm) : List Char := f.name.text ++ f.gap ++ '(' :: (f.inner ++ [')'])

def call (f : CallForm) : Call where
  name := String.ofList f.name.text
  arguments := f.arguments.map fun a => a.body.argument

end CallForm

/-- White space and points after the last call. -/
abbrev Ending := {cs : List Char // ∀ c ∈ cs, c = '.' ∨ isBlank c = true}

/-- A source as written. -/
structure Rendering where
  calls : List (Spaced CallForm)
  calls_ne_nil : calls ≠ []
  ending : Ending

namespace Rendering

def text (r : Rendering) : List Char :=
  ['.'].intercalate (r.calls.map (Spaced.text CallForm.text)) ++ r.ending

/-- The calls that the source stands for. -/
def meaning (r : Rendering) : List Call := r.calls.map fun c => c.body.call

end Rendering

/-- White space for an argument: around it, and around its points or its equals sign. -/
structure ArgumentSpacing where
  before : Blanks
  left : Blanks
  right : Blanks
  after : Blanks

/-- White space for a call and each of its arguments. -/
structure CallSpacing where
  before : Blanks
  gap : Blanks
  opening : Blanks
  argument : Nat → ArgumentSpacing
  closing : Blanks
  after : Blanks

/-- White space for a whole source, and what follows its last call. -/
structure Spacing where
  call : Nat → CallSpacing
  ending : Ending

def ArgumentForm.respace (spacing : ArgumentSpacing) : ArgumentForm → ArgumentForm
  | range r => range { r with left := spacing.left, right := spacing.right }
  | option key _ _ value => option key spacing.left spacing.right value
  | number n => number n
  | plain cs h => plain cs h

def CallForm.respace (spacing : CallSpacing) (f : CallForm) : CallForm where
  name := f.name
  gap := spacing.gap
  opening := spacing.opening
  arguments := f.arguments.mapIdx fun i a =>
    ⟨(spacing.argument i).before, a.body.respace (spacing.argument i), (spacing.argument i).after⟩
  closing := spacing.closing

/-- The same source with other white space. -/
def Rendering.respace (spacing : Spacing) (r : Rendering) : Rendering where
  calls := r.calls.mapIdx fun i c =>
    ⟨(spacing.call i).before, c.body.respace (spacing.call i), (spacing.call i).after⟩
  calls_ne_nil := by simpa using r.calls_ne_nil
  ending := spacing.ending

@[simp] theorem ArgumentForm.argument_respace (spacing : ArgumentSpacing) (f : ArgumentForm) :
    (f.respace spacing).argument = f.argument := by
  cases f with
  | range r => rfl
  | option key left right value => rfl
  | number n => rfl
  | plain cs h => rfl

@[simp] theorem CallForm.call_respace (spacing : CallSpacing) (f : CallForm) :
    (f.respace spacing).call = f.call := by
  unfold call
  congr 1
  refine List.ext_getElem (by simp [respace]) fun i h₁ h₂ => ?_
  simp [respace]

/-- White space means nothing. -/
@[simp] theorem Rendering.meaning_respace (spacing : Spacing) (r : Rendering) :
    (r.respace spacing).meaning = r.meaning := by
  refine List.ext_getElem (by simp [meaning, respace]) fun i h₁ h₂ => ?_
  simp [meaning, respace]

/-- A value that can be written. -/
def OptionValue.Expressible : OptionValue → Prop
  | .flag _ => True
  | .number x => x ≠ .nan
  | .text s => ValueText s.toList

/-- An argument that can be written. -/
def Argument.Expressible : Argument → Prop
  | .literal (.number x) => x ≠ .nan
  | .literal (.text s) => ArgumentText s.toList
  | .range low high => low ≠ .nan ∧ high ≠ .nan
  | .option key value => (∃ n : Name, n.text = key.toList) ∧ value.Expressible

/-- A call that can be written. -/
def Call.Expressible (c : Call) : Prop :=
  (∃ n : Name, n.text = c.name.toList) ∧ ∀ a ∈ c.arguments, a.Expressible

/-- No white space. -/
abbrev tight : Blanks := ⟨[], by simp⟩

theorem OptionValue.Expressible.exists_form {v : OptionValue} (h : v.Expressible) :
    ∃ f : ValueForm, f.value = v := by
  cases v with
  | flag b => exact ⟨.flag b, rfl⟩
  | number x =>
    obtain ⟨n, rfl⟩ := Numeral.exists_value h
    exact ⟨.number n, rfl⟩
  | text s => exact ⟨.plain s.toList h, congrArg OptionValue.text String.ofList_toList⟩

theorem Argument.Expressible.exists_form {a : Argument} (h : a.Expressible) :
    ∃ f : ArgumentForm, f.argument = a := by
  match a, h with
  | .literal (.number x), h =>
    obtain ⟨n, rfl⟩ := Numeral.exists_value h
    exact ⟨.number n, rfl⟩
  | .literal (.text s), h =>
    exact ⟨.plain s.toList h, congrArg (fun s => Argument.literal (.text s)) String.ofList_toList⟩
  | .range low high, ⟨hlow, hhigh⟩ =>
    obtain ⟨m, rfl⟩ := Numeral.exists_value hlow
    obtain ⟨n, rfl⟩ := Numeral.exists_value hhigh
    exact ⟨.range ⟨m, tight, tight, n⟩, rfl⟩
  | .option key value, ⟨⟨n, hn⟩, hvalue⟩ =>
    obtain ⟨f, rfl⟩ := hvalue.exists_form
    refine ⟨.option n tight tight f, ?_⟩
    rw [ArgumentForm.argument, hn, String.ofList_toList]

/-- A list of parts that can each be written can be written between blanks. -/
theorem exists_spaced {α β : Type} {meaning : α → β} {parts : List β}
    (h : ∀ b ∈ parts, ∃ a, meaning a = b) :
    ∃ forms : List (Spaced α), forms.map (fun s => meaning s.body) = parts := by
  induction parts with
  | nil => exact ⟨[], rfl⟩
  | cons b parts ih =>
    obtain ⟨a, ha⟩ := h b List.mem_cons_self
    obtain ⟨forms, hforms⟩ := ih fun b hb => h b (List.mem_cons_of_mem _ hb)
    exact ⟨⟨tight, a, tight⟩ :: forms, by rw [List.map_cons, ha, hforms]⟩

theorem Call.Expressible.exists_form {c : Call} (h : c.Expressible) :
    ∃ f : CallForm, f.call = c := by
  obtain ⟨⟨n, hn⟩, harguments⟩ := h
  obtain ⟨forms, hforms⟩ := exists_spaced fun a ha => (harguments a ha).exists_form
  refine ⟨⟨n, tight, tight, forms, tight⟩, ?_⟩
  rw [CallForm.call, hforms, hn, String.ofList_toList]

/-- Every list of calls that can be written, is. -/
theorem exists_rendering {calls : List Call} (hne : calls ≠ []) (h : ∀ c ∈ calls, c.Expressible) :
    ∃ r : Rendering, r.meaning = calls := by
  obtain ⟨forms, rfl⟩ := exists_spaced fun c hc => (h c hc).exists_form
  exact ⟨⟨forms, fun hnil => hne (by rw [hnil]; rfl), ⟨[], by simp⟩⟩, rfl⟩

end Assay.Chain
