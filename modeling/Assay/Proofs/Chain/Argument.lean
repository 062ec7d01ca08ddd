import Assay.Proofs.Chain.Rendering
import Assay.Proofs.Result

/-!
Reading one argument. The four kinds are told apart by the texts alone, so a token is read as an
argument exactly when it is one of the ways to write it.
-/

namespace Assay.Chain

open Number (Binary64)
open Text

/-! ### Names, ranges and options -/

theorem takeName_append (n : Name) {rest : List Char}
    (hrest : ∀ c ∈ rest.head?, isWordChar c = false) :
    takeName (n.text ++ rest) = some (n.text, rest) := by
  simp only [Name.text, List.cons_append, takeName, n.starts, if_true,
    takeWhile_run n.goesOn hrest, dropWhile_run n.goesOn hrest]

theorem takeName_eq_some {cs name rest : List Char} (h : takeName cs = some (name, rest)) :
    ∃ n : Name, n.text = name ∧ cs = name ++ rest := by
  unfold takeName at h
  split at h
  next => cases h
  next c cs =>
    split at h
    next hc =>
      cases h
      exact ⟨⟨c, cs.takeWhile isWordChar, hc, fun d hd => mem_takeWhile hd⟩, rfl,
        congrArg _ List.takeWhile_append_dropWhile.symm⟩
    next => cases h

/-- The first character after a name and blanks, unless it goes on with a name. -/
theorem head?_blanks_append {p : Char → Bool} {d : Char} (hp : ∀ c, isBlank c = true → p c = false)
    (hd : p d = false) (gap : Blanks) (rest : List Char) :
    ∀ c ∈ (gap.1 ++ d :: rest).head?, p c = false := by
  obtain ⟨gap, hgap⟩ := gap
  cases gap with
  | nil =>
    intro c hc
    cases hc
    exact hd
  | cons b gap =>
    intro c hc
    cases hc
    exact hp b (hgap b List.mem_cons_self)

theorem dropWhile_blanks_append {d : Char} (hd : isBlank d = false) (gap : Blanks)
    (rest : List Char) : (gap.1 ++ d :: rest).dropWhile isBlank = d :: rest :=
  dropWhile_run gap.2 (by simpa using hd)

/-- What `dropWhile` leaves stands behind blanks. -/
theorem exists_blanks (cs : List Char) : ∃ gap : Blanks, cs = gap ++ cs.dropWhile isBlank :=
  exists_trimLeft cs

/-- A number stops before two points, with or without blanks before them. -/
theorem stops_points (gap : Blanks) (rest : List Char) : Stops (gap.1 ++ '.' :: '.' :: rest) := by
  have hpoint : isDecimalDigit '.' = false := isDecimalDigit_of_mem_marks (by decide)
  refine ⟨head?_blanks_append (fun _ => isDecimalDigit_of_isBlank) hpoint gap _, ?_⟩
  obtain ⟨gap, hgap⟩ := gap
  intro rest' h
  cases gap with
  | nil =>
    cases h
    intro c hc
    cases hc
    exact hpoint
  | cons b gap =>
    have hb := hgap b List.mem_cons_self
    rw [(List.cons.inj h).1] at hb
    exact absurd hb (by decide)

/-! ### Numbers stand between commas -/

namespace Numeral

theorem mem_text {digit : Char → Bool} {n : Numeral digit} {c : Char} (h : c ∈ n.text) :
    c = '-' ∨ c = '.' ∨ digit c = true := by
  have hunsigned : ∀ c ∈ n.unsigned, c = '.' ∨ digit c = true := by
    intro c hc
    rcases List.mem_append.1 hc with hc | hc
    · exact .inr (n.digits c (List.mem_append_left _ hc))
    · have hdigit := fun hc => n.digits c (List.mem_append_right _ hc)
      cases hf : n.fraction with
      | nil =>
        rw [hf] at hc
        cases hc
      | cons d ds =>
        rw [hf] at hc hdigit
        exact (List.mem_cons.1 hc).imp_right hdigit
  cases hneg : n.negative with
  | true =>
    rw [text_of_negative hneg] at h
    exact (List.mem_cons.1 h).imp_right (hunsigned c)
  | false =>
    rw [text_of_positive hneg] at h
    exact .inr (hunsigned c h)

theorem isBlank_of_mem_text {n : Numeral isDecimalDigit} {c : Char} (h : c ∈ n.text) :
    isBlank c = false := by
  rcases mem_text h with rfl | rfl | hc
  · decide
  · decide
  · exact isBlank_of_isDecimalDigit hc

theorem exists_text_eq_cons (n : Numeral isDecimalDigit) :
    ∃ c cs, n.text = c :: cs ∧ (c = '-' ∨ isDecimalDigit c = true) := by
  cases hneg : n.negative with
  | true => exact ⟨'-', n.unsigned, text_of_negative hneg, .inl rfl⟩
  | false =>
    obtain ⟨d, ds, hds⟩ := List.exists_cons_of_ne_nil n.whole_ne_nil
    refine ⟨d, ds ++ fractionText n.fraction, ?_, ?_⟩
    · rw [text_of_positive hneg, unsigned, hds, List.cons_append]
    · exact .inr (n.isDecimalDigit_whole d (by rw [hds]; exact List.mem_cons_self))

theorem plain (n : Numeral isDecimalDigit) : Plain n.text where
  ne_nil := by
    obtain ⟨c, cs, h, -⟩ := n.exists_text_eq_cons
    rw [h]
    exact List.cons_ne_nil c cs
  trimmed := trimmed_of_forall fun c hc => isBlank_of_mem_text hc
  unmarked c hc := by
    rcases mem_text hc with rfl | rfl | hc
    · decide
    · decide
    · exact ⟨ne_mark_of_isDecimalDigit hc (by decide), ne_mark_of_isDecimalDigit hc (by decide),
        ne_mark_of_isDecimalDigit hc (by decide)⟩

end Numeral

theorem blanks_unmarked (gap : Blanks) : ∀ c ∈ gap.1, c ≠ '(' ∧ c ≠ ')' ∧ c ≠ ',' := by
  intro c hc
  have hblank := gap.2 c hc
  refine ⟨?_, ?_, ?_⟩ <;> rintro rfl <;> exact absurd hblank (by decide)

theorem matchRange?_text (r : Interval isDecimalDigit) :
    matchRange? r.text = some (r.low.text, r.high.text) := by
  have hlow := takeNumber_append r.low (stops_points r.left (r.right ++ r.high.text))
  have hhigh := takeNumber_append r.high stops_nil
  have hright : (r.right.1 ++ r.high.text).dropWhile isBlank = r.high.text := by
    exact dropWhile_run r.right.2 fun c hc => Numeral.isBlank_of_mem_text (List.mem_of_mem_head? hc)
  rw [List.append_nil] at hhigh
  unfold matchRange? Interval.text
  rw [List.append_assoc, hlow]
  simp only [dropWhile_blanks_append (show isBlank '.' = false by decide), hright, hhigh]

theorem matchRange?_eq_some {cs low high : List Char} (h : matchRange? cs = some (low, high)) :
    ∃ r : Interval isDecimalDigit, r.text = cs ∧ r.low.text = low ∧ r.high.text = high := by
  unfold matchRange? at h
  split at h
  next => cases h
  next low' rest hlow =>
    split at h
    next rest' hpoints =>
      split at h
      next high' hhigh =>
        cases h
        obtain ⟨m, rfl, rfl⟩ := takeNumber_eq_some hlow
        obtain ⟨n, rfl, hn⟩ := takeNumber_eq_some hhigh
        obtain ⟨left, hleft⟩ := exists_blanks rest
        obtain ⟨right, hright⟩ := exists_blanks rest'
        refine ⟨⟨m, left, right, n⟩, ?_, rfl, rfl⟩
        rw [Interval.text, hleft, hpoints, hright, hn, List.append_nil, List.append_assoc]
      next => cases h
    next => cases h

theorem hasRangeShape_iff {cs : List Char} : HasRangeShape cs ↔ (matchRange? cs).isSome = true := by
  constructor
  · rintro ⟨r, rfl⟩
    rw [matchRange?_text]
    rfl
  · intro h
    obtain ⟨⟨low, high⟩, hlow⟩ := Option.isSome_iff_exists.1 h
    obtain ⟨r, hr, -⟩ := matchRange?_eq_some hlow
    exact ⟨r, hr⟩

/-- The name and the trimmed rest of a text in the shape of an option. -/
theorem matchOption?_text (key : Name) (gap : Blanks) {rest : List Char} (hrest : rest ≠ []) :
    matchOption? (key.text ++ gap ++ '=' :: rest) = some (key.text, trim rest) := by
  have hkey := takeName_append key
    (head?_blanks_append (fun _ => isWordChar_of_isBlank)
      (show isWordChar '=' = false from isWordChar_of_mem_marks (by decide)) gap rest)
  have hempty : rest.isEmpty = false := by simpa using hrest
  unfold matchOption?
  rw [List.append_assoc, hkey]
  simp only [dropWhile_blanks_append (show isBlank '=' = false by decide), hempty,
    Bool.false_eq_true, if_false]

theorem matchOption?_eq_some {cs name raw : List Char} (h : matchOption? cs = some (name, raw)) :
    ∃ (key : Name) (gap : Blanks) (rest : List Char), rest ≠ [] ∧
      cs = key.text ++ gap ++ '=' :: rest ∧ key.text = name ∧ trim rest = raw := by
  unfold matchOption? at h
  split at h
  next => cases h
  next name' rest hname =>
    split at h
    next value hvalue =>
      split at h
      next => cases h
      next hne =>
        cases h
        obtain ⟨key, rfl, rfl⟩ := takeName_eq_some hname
        obtain ⟨gap, hgap⟩ := exists_blanks rest
        refine ⟨key, gap, value, by simpa using hne, ?_, rfl, rfl⟩
        rw [List.append_assoc, ← hvalue, ← hgap]
    next => cases h

theorem hasOptionShape_iff {cs : List Char} :
    HasOptionShape cs ↔ (matchOption? cs).isSome = true := by
  constructor
  · rintro ⟨key, gap, rest, hrest, rfl⟩
    rw [matchOption?_text key gap hrest]
    rfl
  · intro h
    obtain ⟨⟨name, raw⟩, hname⟩ := Option.isSome_iff_exists.1 h
    obtain ⟨key, gap, rest, hrest, hcs, -⟩ := matchOption?_eq_some hname
    exact ⟨key, gap, rest, hrest, hcs⟩

instance (cs : List Char) : Decidable (HasNumberShape cs) := decidable_of_iff _ isNumber_iff

instance (cs : List Char) : Decidable (HasRangeShape cs) := decidable_of_iff _ hasRangeShape_iff.symm

instance (cs : List Char) : Decidable (HasOptionShape cs) :=
  decidable_of_iff _ hasOptionShape_iff.symm

instance (cs : List Char) : Decidable (ValueText cs) :=
  decidable_of_iff (Plain cs ∧ cs ≠ "true".toList ∧ cs ≠ "false".toList ∧ ¬ HasNumberShape cs)
    ⟨fun ⟨hplain, htrue, hfalse, hnumber⟩ => ⟨hplain, htrue, hfalse, hnumber⟩,
      fun ⟨hplain, htrue, hfalse, hnumber⟩ => ⟨hplain, htrue, hfalse, hnumber⟩⟩

instance (cs : List Char) : Decidable (ArgumentText cs) :=
  decidable_of_iff (Plain cs ∧ ¬ HasRangeShape cs ∧ ¬ HasOptionShape cs ∧ ¬ HasNumberShape cs)
    ⟨fun ⟨hplain, hrange, hoption, hnumber⟩ => ⟨hplain, hrange, hoption, hnumber⟩,
      fun ⟨hplain, hrange, hoption, hnumber⟩ => ⟨hplain, hrange, hoption, hnumber⟩⟩

/-! ### The kinds exclude each other -/

theorem matchRange?_numeral (n : Numeral isDecimalDigit) : matchRange? n.text = none := by
  have h := takeNumber_append n stops_nil
  rw [List.append_nil] at h
  unfold matchRange?
  rw [h]
  rfl

theorem matchOption?_numeral (n : Numeral isDecimalDigit) : matchOption? n.text = none := by
  obtain ⟨c, cs, htext, hc⟩ := n.exists_text_eq_cons
  have hstart : isNameStart c = false := by
    cases hname : isNameStart c with
    | false => rfl
    | true =>
      rcases hc with rfl | hc
      · exact absurd hname (by decide)
      · rw [isDecimalDigit_of_isNameStart hname] at hc
        cases hc
  simp only [matchOption?, htext, takeName, hstart, Bool.false_eq_true, if_false]

theorem matchRange?_name (key : Name) (rest : List Char) : matchRange? (key.text ++ rest) = none := by
  have hfirst : isDecimalDigit key.first = false := isDecimalDigit_of_isNameStart key.starts
  have hdigits : takeDigits (key.text ++ rest) = none := by
    refine takeDigits_of_head? fun c hc => ?_
    cases hc
    exact hfirst
  have hnumber : takeNumber (key.text ++ rest) = none := by
    unfold takeNumber
    split
    next cs h =>
      have hminus := key.starts
      rw [(List.cons.inj h).1] at hminus
      exact absurd hminus (by decide)
    next => rw [takeUnsigned, hdigits]
  rw [matchRange?, hnumber]

/-! ### Option values -/

namespace ValueForm

theorem plain_text (f : ValueForm) : Plain f.text := by
  cases f with
  | flag b =>
    cases b with
    | true => exact by decide
    | false => exact by decide
  | number n => exact n.shape.plain
  | plain cs h => exact h.toPlain

end ValueForm

theorem isNumber_numeral (n : Numeral isDecimalDigit) : isNumber n.text = true :=
  isNumber_iff.2 ⟨n, rfl⟩

theorem readOptionValue_numeral (n : Numeral isDecimalDigit) :
    readOptionValue n.text = (readNumber n.text).map .number := by
  have hflag : ∀ cs, isNumber cs = false → n.text ≠ cs := by
    rintro cs hcs rfl
    rw [isNumber_numeral] at hcs
    cases hcs
  unfold readOptionValue
  rw [if_neg (hflag _ (by decide)), if_neg (hflag _ (by decide)),
    if_pos (isNumber_numeral n)]

theorem readOptionValue_text (f : ValueForm) : readOptionValue f.text = .ok f.value := by
  cases f with
  | flag b =>
    cases b with
    | true => rfl
    | false => rfl
  | number n =>
    have h : readOptionValue n.text = (readNumber n.text).map .number :=
      readOptionValue_numeral n.shape
    rw [ValueForm.text, h, readNumber_text]
    rfl
  | plain cs h =>
    have hnumber : isNumber cs ≠ true := fun hn => h.notNumber (isNumber_iff.1 hn)
    unfold readOptionValue ValueForm.text
    rw [if_neg h.notTrue, if_neg h.notFalse, if_neg hnumber]
    rfl

theorem exists_of_readOptionValue {cs : List Char} (hcs : Plain cs) {v : OptionValue}
    (h : readOptionValue cs = .ok v) : ∃ f : ValueForm, f.text = cs ∧ f.value = v := by
  unfold readOptionValue at h
  split at h
  next htrue =>
    cases h
    exact ⟨.flag true, htrue.symm, rfl⟩
  next htrue =>
    split at h
    next hfalse =>
      cases h
      exact ⟨.flag false, hfalse.symm, rfl⟩
    next hfalse =>
      split at h
      next hnumber =>
        obtain ⟨n, rfl⟩ := isNumber_iff.1 hnumber
        obtain ⟨x, hread, rfl⟩ := exists_of_map_eq_ok h
        obtain ⟨m, hm, rfl⟩ := exists_of_readNumber hread
        exact ⟨.number m, hm, rfl⟩
      next hnumber =>
        cases h
        exact ⟨.plain cs ⟨hcs, htrue, hfalse, fun hn => hnumber (isNumber_iff.2 hn)⟩, rfl, rfl⟩

/-! ### Arguments -/

theorem Name.isWordChar_of_mem {n : Name} {c : Char} (h : c ∈ n.text) : isWordChar c = true := by
  rcases List.mem_cons.1 h with rfl | h
  · exact isWordChar_of_isNameStart n.starts
  · exact n.goesOn c h

theorem Name.plain_text (n : Name) : Plain n.text where
  ne_nil := List.cons_ne_nil _ _
  trimmed := trimmed_of_forall fun _ hc => isBlank_of_isWordChar (n.isWordChar_of_mem hc)
  unmarked c hc := by
    have hword := n.isWordChar_of_mem hc
    exact ⟨ne_mark_of_isWordChar hword (by decide), ne_mark_of_isWordChar hword (by decide),
      ne_mark_of_isWordChar hword (by decide)⟩

/-- Plain texts with unmarked characters between them are a plain text. -/
theorem Plain.append {first middle last : List Char} (hfirst : Plain first) (hlast : Plain last)
    (hmiddle : ∀ c ∈ middle, c ≠ '(' ∧ c ≠ ')' ∧ c ≠ ',') : Plain (first ++ (middle ++ last)) where
  ne_nil := by simp [hfirst.ne_nil]
  trimmed := trimmed_append hfirst.ne_nil hlast.ne_nil hfirst.trimmed hlast.trimmed
  unmarked c hc := by
    rcases List.mem_append.1 hc with hc | hc
    · exact hfirst.unmarked c hc
    · exact (List.mem_append.1 hc).elim (hmiddle c) (hlast.unmarked c)

theorem unmarked_around {signs : List Char} (h : ∀ c ∈ signs, c ≠ '(' ∧ c ≠ ')' ∧ c ≠ ',')
    (left right : Blanks) : ∀ c ∈ left.1 ++ (signs ++ right), c ≠ '(' ∧ c ≠ ')' ∧ c ≠ ',' := by
  intro c hc
  rcases List.mem_append.1 hc with hc | hc
  · exact blanks_unmarked left c hc
  · exact (List.mem_append.1 hc).elim (h c) (blanks_unmarked right c)

namespace Interval

/-- The same interval over the digits of every script. -/
def shape (r : Interval Char.isDigit) : Interval isDecimalDigit :=
  ⟨r.low.shape, r.left, r.right, r.high.shape⟩

theorem plain_text (r : Interval isDecimalDigit) : Plain r.text := by
  have h : r.text = r.low.text ++ ((r.left ++ (['.', '.'] ++ r.right.1)) ++ r.high.text) := by
    simp [text]
  rw [h]
  exact r.low.plain.append r.high.plain (unmarked_around (by simp) r.left r.right)

end Interval

theorem ArgumentForm.plain_text (f : ArgumentForm) : Plain f.text := by
  cases f with
  | range r => exact r.shape.plain_text
  | option key left right value =>
    have h : (option key left right value).text =
        key.text ++ ((left ++ (['='] ++ right.1)) ++ value.text) := by simp [text]
    rw [h]
    exact key.plain_text.append value.plain_text (unmarked_around (by simp) left right)
  | number n => exact n.shape.plain
  | plain cs h => exact h.toPlain

theorem readArgument_text (f : ArgumentForm) : readArgument f.text = .ok f.argument := by
  have hempty : f.text.isEmpty ≠ true := by simpa using f.plain_text.ne_nil
  rw [readArgument, if_neg hempty]
  cases f with
  | range r =>
    have h : matchRange? r.text = some (r.low.text, r.high.text) := matchRange?_text r.shape
    simp only [ArgumentForm.text, h, readNumber_text]
    rfl
  | option key left right value =>
    -- a value such as `1..2` does not make an option a range: the key comes first
    have hrange : matchRange? (ArgumentForm.option key left right value).text = none := by
      rw [ArgumentForm.text, List.append_assoc]
      exact matchRange?_name key _
    have hrest : right.1 ++ value.text ≠ [] := by simp [value.plain_text.ne_nil]
    have hoption := matchOption?_text key left hrest
    rw [trim_blanks_append, value.plain_text.trimmed.trim_eq] at hoption
    rw [hrange]
    simp only [ArgumentForm.text, hoption, readOptionValue_text]
    rfl
  | number n =>
    have hrange : matchRange? n.text = none := matchRange?_numeral n.shape
    have hoption : matchOption? n.text = none := matchOption?_numeral n.shape
    have hnumber : isNumber n.text = true := isNumber_numeral n.shape
    simp only [ArgumentForm.text, hrange, hoption, hnumber, readNumber_text, if_true]
    rfl
  | plain cs h =>
    have hrange : matchRange? cs = none := by
      simpa using mt hasRangeShape_iff.2 h.notRange
    have hoption : matchOption? cs = none := by
      simpa using mt hasOptionShape_iff.2 h.notOption
    have hnumber : isNumber cs = false := by
      simpa using fun hn => h.notNumber (isNumber_iff.1 hn)
    simp only [ArgumentForm.text, hrange, hoption, hnumber, Bool.false_eq_true, if_false]
    rfl

/-- The value of an option, behind blanks, ends where the trimmed token ends. -/
theorem plain_trim_of_option {first rest : List Char} (hrest : rest ≠ [])
    (h : Plain (first ++ '=' :: rest)) : Plain (trim rest) ∧ ∃ right : Blanks,
      rest = right ++ trim rest := by
  have hlast : ∀ c ∈ rest.getLast?, isBlank c = false := by
    intro c hc
    refine h.trimmed.2 c ?_
    have hsome := List.getLast?_eq_some_getLast hrest
    rw [List.getLast?_append, List.getLast?_cons_of_ne_nil hrest, hsome, Option.some_or, ← hsome]
    exact hc
  obtain ⟨hne, right, hright⟩ := exists_trim_of_getLast? hrest hlast
  refine ⟨⟨hne, trimmed_trim rest, fun c hc => h.unmarked c ?_⟩, right, hright⟩
  refine List.mem_append_right _ (List.mem_cons_of_mem _ ?_)
  rw [hright]
  exact List.mem_append_right _ hc

theorem exists_of_readArgument {cs : List Char} (htrimmed : Trimmed cs)
    (hunmarked : ∀ c ∈ cs, c ≠ '(' ∧ c ≠ ')' ∧ c ≠ ',') {a : Argument}
    (h : readArgument cs = .ok a) : ∃ f : ArgumentForm, f.text = cs ∧ f.argument = a := by
  unfold readArgument at h
  split at h
  next => cases h
  next hne =>
    have hplain : Plain cs := ⟨by simpa using hne, htrimmed, hunmarked⟩
    split at h
    next low high hrange =>
      obtain ⟨r, rfl, rfl, rfl⟩ := matchRange?_eq_some hrange
      obtain ⟨x, hlow, h⟩ := exists_of_bind_eq_ok h
      obtain ⟨y, hhigh, h⟩ := exists_of_bind_eq_ok h
      cases h
      obtain ⟨m, hm, rfl⟩ := exists_of_readNumber hlow
      obtain ⟨n, hn, rfl⟩ := exists_of_readNumber hhigh
      refine ⟨.range ⟨m, r.left, r.right, n⟩, ?_, rfl⟩
      simp only [ArgumentForm.text, Interval.text, hm, hn]
    next hrange =>
      split at h
      next name raw hoption =>
        obtain ⟨key, gap, rest, hrest, rfl, rfl, rfl⟩ := matchOption?_eq_some hoption
        obtain ⟨hraw, right, hright⟩ := plain_trim_of_option hrest hplain
        obtain ⟨v, hvalue, h⟩ := exists_of_bind_eq_ok h
        cases h
        obtain ⟨f, hf, rfl⟩ := exists_of_readOptionValue hraw hvalue
        refine ⟨.option key gap right f, ?_, rfl⟩
        rw [ArgumentForm.text, hf, ← hright]
      next hoption =>
        split at h
        next hnumber =>
          obtain ⟨n, rfl⟩ := isNumber_iff.1 hnumber
          obtain ⟨x, hread, h⟩ := exists_of_bind_eq_ok h
          cases h
          obtain ⟨m, hm, rfl⟩ := exists_of_readNumber hread
          exact ⟨.number m, hm, rfl⟩
        next hnumber =>
          cases h
          refine ⟨.plain cs ⟨hplain, fun hr => ?_, fun ho => ?_, fun hn => ?_⟩, rfl, rfl⟩
          · rw [hasRangeShape_iff, hrange] at hr
            cases hr
          · rw [hasOptionShape_iff, hoption] at ho
            cases ho
          · exact hnumber (isNumber_iff.2 hn)

/-! ### Digits without a value -/

/-- Some digit is not an ASCII one. -/
def HasForeignDigit (cs : List Char) : Prop :=
  ∃ c ∈ cs, isDecimalDigit c = true ∧ c.isDigit = false

/-- A token that has the shape of a number, of a range or of an option with a number, but whose
digits are not all ASCII digits. -/
inductive Foreign : List Char → Prop where
  | number {cs : List Char} : HasNumberShape cs → HasForeignDigit cs → Foreign cs
  | range {cs : List Char} : HasRangeShape cs → HasForeignDigit cs → Foreign cs
  | option (key : Name) (left right : Blanks) {value : List Char} :
      HasNumberShape value → HasForeignDigit value →
      Foreign (key.text ++ left ++ '=' :: (right ++ value))

theorem readNumber_of_foreign {n : Numeral isDecimalDigit} (h : HasForeignDigit n.text) :
    ∃ defect, readNumber n.text = .error defect := by
  cases hread : readNumber n.text with
  | error defect => exact ⟨defect, rfl⟩
  | ok x =>
    obtain ⟨m, hm, -⟩ := exists_of_readNumber hread
    obtain ⟨c, hc, hdigit, hforeign⟩ := h
    rw [← hm] at hc
    rcases Numeral.mem_text hc with rfl | rfl | hascii
    · exact absurd rfl (ne_mark_of_isDecimalDigit hdigit (by decide))
    · exact absurd rfl (ne_mark_of_isDecimalDigit hdigit (by decide))
    · rw [hascii] at hforeign
      cases hforeign

/-- One of the two numbers of a range has the digit that is not an ASCII one. -/
theorem Interval.foreign_text {r : Interval isDecimalDigit} (h : HasForeignDigit r.text) :
    HasForeignDigit r.low.text ∨ HasForeignDigit r.high.text := by
  obtain ⟨c, hc, hdigit, hforeign⟩ := h
  have hblank : ∀ gap : Blanks, c ∉ gap.1 := by
    intro gap hgap
    rw [isDecimalDigit_of_isBlank (gap.2 c hgap)] at hdigit
    cases hdigit
  have hpoint : c ≠ '.' := ne_mark_of_isDecimalDigit hdigit (by decide)
  simp only [text, List.mem_append, List.mem_cons, hblank, hpoint, false_or, or_false] at hc
  exact hc.imp (fun hc => ⟨c, hc, hdigit, hforeign⟩) fun hc => ⟨c, hc, hdigit, hforeign⟩

theorem readArgument_of_foreign {cs : List Char} (h : Foreign cs) :
    ∃ defect, readArgument cs = .error defect := by
  cases h with
  | number hshape hforeign =>
    obtain ⟨n, rfl⟩ := hshape
    obtain ⟨defect, hread⟩ := readNumber_of_foreign hforeign
    have hempty : n.text.isEmpty ≠ true := by simpa using n.plain.ne_nil
    rw [readArgument, if_neg hempty]
    simp only [matchRange?_numeral, matchOption?_numeral, isNumber_numeral, if_true, hread]
    exact ⟨defect, rfl⟩
  | range hshape hforeign =>
    obtain ⟨r, rfl⟩ := hshape
    have hempty : r.text.isEmpty ≠ true := by simpa using r.plain_text.ne_nil
    rw [readArgument, if_neg hempty]
    simp only [matchRange?_text]
    rcases r.foreign_text hforeign with hlow | hhigh
    · obtain ⟨defect, hread⟩ := readNumber_of_foreign hlow
      rw [hread]
      exact ⟨defect, rfl⟩
    · obtain ⟨defect, hread⟩ := readNumber_of_foreign hhigh
      rw [hread]
      cases readNumber r.low.text with
      | error defect' => exact ⟨defect', rfl⟩
      | ok x => exact ⟨defect, rfl⟩
  | option key left right hshape hforeign =>
    obtain ⟨n, rfl⟩ := hshape
    obtain ⟨defect, hread⟩ := readNumber_of_foreign hforeign
    have hrest : right.1 ++ n.text ≠ [] := by simp [n.plain.ne_nil]
    have hrange : matchRange? (key.text ++ left ++ '=' :: (right ++ n.text)) = none := by
      rw [List.append_assoc]
      exact matchRange?_name key _
    have hvalue : readOptionValue n.text = .error defect := by
      rw [readOptionValue_numeral, hread]
      rfl
    have hempty : (key.text ++ left ++ '=' :: (right ++ n.text)).isEmpty ≠ true := by simp
    rw [readArgument, if_neg hempty]
    simp only [hrange, matchOption?_text key left hrest, trim_blanks_append,
      n.plain.trimmed.trim_eq, hvalue]
    exact ⟨defect, rfl⟩

end Assay.Chain
