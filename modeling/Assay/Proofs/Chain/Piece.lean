import Assay.Proofs.Chain.Argument
import Assay.Proofs.Text.Joined

/-!
Reading one call: its name, its argument list cut at the commas, and the arguments.
-/

namespace Assay.Chain

open Text

theorem commasFrom_eq_splitOn (cs : List Char) : commasFrom [] cs = cs.splitOn ',' :=
  eq_splitOnPPrepend (fun _ => rfl) (fun _ _ _ => rfl) [] cs

theorem commasFrom_append {part : List Char} (h : ∀ c ∈ part, c ≠ ',') (pending cs : List Char) :
    commasFrom pending (part ++ cs) = commasFrom (part.reverse ++ pending) cs := by
  induction part generalizing pending with
  | nil => rfl
  | cons c part ih =>
    rw [List.cons_append, commasFrom, if_neg (h c List.mem_cons_self),
      ih fun d hd => h d (List.mem_cons_of_mem c hd)]
    simp

theorem blank_ne_comma (gap : Blanks) : ∀ c ∈ gap.1, c ≠ ',' :=
  fun c hc => (blanks_unmarked gap c hc).2.2

/-- Blanks behind the open token do not show in the trimmed tokens. -/
theorem map_trim_commasFrom_blanks (pending : List Char) (gap : Blanks) (cs : List Char) :
    (commasFrom (pending ++ gap) cs).map trim = (commasFrom pending cs).map trim := by
  have hhead : ∀ pending : List Char, trim (pending ++ gap).reverse = trim pending.reverse := by
    intro pending
    rw [List.reverse_append]
    exact trim_blanks_append ⟨gap.1.reverse, fun c hc => gap.2 c (List.mem_reverse.1 hc)⟩ _
  induction cs generalizing pending with
  | nil => rw [commasFrom, commasFrom, List.map_singleton, List.map_singleton, hhead]
  | cons c cs ih =>
    rw [commasFrom, commasFrom]
    split
    next => rw [List.map_cons, List.map_cons, hhead]
    next => exact ih (c :: pending)

theorem map_trim_commasFrom_append_blanks (pending cs : List Char) (gap : Blanks) :
    (commasFrom pending (cs ++ gap)).map trim = (commasFrom pending cs).map trim := by
  induction cs generalizing pending with
  | nil =>
    have h := commasFrom_append (blank_ne_comma gap) pending []
    rw [List.append_nil] at h
    simp only [List.nil_append, h, commasFrom, List.map_cons, List.map_nil, List.reverse_append,
      List.reverse_reverse, trim_append_blanks]
  | cons c cs ih =>
    rw [List.cons_append, commasFrom, commasFrom]
    split
    next => rw [List.map_cons, List.map_cons, ih]
    next => exact ih _

/-- Cutting a trimmed list gives the same trimmed tokens as cutting the list itself. -/
theorem map_trim_splitOn_trim (cs : List Char) :
    ((trim cs).splitOn ',').map trim = (cs.splitOn ',').map trim := by
  obtain ⟨before, after, h⟩ := exists_trim cs
  have hbefore := map_trim_commasFrom_blanks [] ⟨before.1.reverse, by simpa using before.2⟩ (trim cs)
  rw [← commasFrom_eq_splitOn, ← commasFrom_eq_splitOn]
  calc (commasFrom [] (trim cs)).map trim
    _ = (commasFrom (before.1.reverse ++ []) (trim cs)).map trim := by
        rw [List.append_nil]
        exact hbefore.symm
    _ = (commasFrom [] (before ++ trim cs)).map trim := by
        rw [commasFrom_append (blank_ne_comma before)]
    _ = (commasFrom [] (before ++ trim cs ++ after)).map trim :=
        (map_trim_commasFrom_append_blanks [] _ after).symm
    _ = (commasFrom [] cs).map trim := by rw [← h]

theorem mem_commasFrom {pending cs token : List Char} (h : token ∈ commasFrom pending cs) {c : Char}
    (hc : c ∈ token) : c ∈ pending ∨ c ∈ cs ∧ c ≠ ',' := by
  induction cs generalizing pending with
  | nil =>
    rw [commasFrom, List.mem_singleton] at h
    rw [h, List.mem_reverse] at hc
    exact .inl hc
  | cons d cs ih =>
    rw [commasFrom] at h
    split at h
    next =>
      rcases List.mem_cons.1 h with rfl | h
      · exact .inl (List.mem_reverse.1 hc)
      · rcases ih h with hnil | ⟨hmem, hne⟩
        · cases hnil
        · exact .inr ⟨List.mem_cons_of_mem d hmem, hne⟩
    next hd =>
      rcases ih h with hpending | ⟨hmem, hne⟩
      · rcases List.mem_cons.1 hpending with rfl | hpending
        · exact .inr ⟨List.mem_cons_self, hd⟩
        · exact .inl hpending
      · exact .inr ⟨List.mem_cons_of_mem d hmem, hne⟩

/-- The characters of a token are characters of the list, and none is a comma. -/
theorem mem_of_mem_splitOn {cs token : List Char} (h : token ∈ cs.splitOn ',') {c : Char}
    (hc : c ∈ token) : c ∈ cs ∧ c ≠ ',' := by
  rw [← commasFrom_eq_splitOn] at h
  rcases mem_commasFrom h hc with hnil | hmem
  · cases hnil
  · exact hmem

/-- The name and the argument list of a text in the shape of a call. -/
theorem matchCall?_text (n : Name) (gap : Blanks) (inner : List Char) :
    matchCall? (n.text ++ gap ++ '(' :: (inner ++ [')'])) = some (n.text, inner) := by
  have hname := takeName_append n (head?_blanks_append (fun _ => isWordChar_of_isBlank)
    (show isWordChar '(' = false from isWordChar_of_mem_marks (by decide)) gap (inner ++ [')']))
  unfold matchCall?
  rw [List.append_assoc, hname]
  simp only [dropWhile_blanks_append (show isBlank '(' = false by decide), List.reverse_append,
    List.reverse_cons, List.reverse_nil, List.nil_append, List.singleton_append,
    List.reverse_reverse]

theorem matchCall?_eq_some {cs name inner : List Char} (h : matchCall? cs = some (name, inner)) :
    ∃ (n : Name) (gap : Blanks), n.text = name ∧ cs = n.text ++ gap ++ '(' :: (inner ++ [')']) := by
  unfold matchCall? at h
  split at h
  next => cases h
  next name' rest hname =>
    split at h
    next inner' hinner =>
      split at h
      next body hbody =>
        cases h
        obtain ⟨n, rfl, rfl⟩ := takeName_eq_some hname
        obtain ⟨gap, hgap⟩ := exists_blanks rest
        refine ⟨n, gap, rfl, ?_⟩
        have hclose : inner' = body.reverse ++ [')'] := by
          rw [← List.reverse_reverse inner', hbody, List.reverse_cons]
        rw [List.append_assoc, ← hclose, ← hinner, ← hgap]
      next => cases h
    next => cases h

/-- The trimmed tokens between the commas; none if there is nothing but blanks. -/
theorem argumentTokens_trim (inner : List Char) : argumentTokens (trim inner) =
    if trim inner = [] then [] else (inner.splitOn ',').map trim := by
  unfold argumentTokens
  rw [commasFrom_eq_splitOn, map_trim_splitOn_trim]
  simp only [List.isEmpty_iff]

/-- If every trimmed part that is read has a written form, a list of parts that is read has one,
with the white space around the parts. -/
theorem exists_spaced_of_mapM {α β ε : Type} {f : List Char → Except ε β} (write : α → List Char)
    (meaning : α → β) {parts : List (List Char)}
    (h : ∀ part ∈ parts, ∀ b, f (trim part) = .ok b → ∃ a, write a = trim part ∧ meaning a = b)
    {bs : List β} (hread : (parts.map trim).mapM f = .ok bs) :
    ∃ forms : List (Spaced α),
      forms.map (Spaced.text write) = parts ∧ forms.map (fun s => meaning s.body) = bs := by
  induction parts generalizing bs with
  | nil =>
    cases hread
    exact ⟨[], rfl, rfl⟩
  | cons part parts ih =>
    rw [List.map_cons, List.mapM_cons] at hread
    obtain ⟨b, hpart, hread⟩ := exists_of_bind_eq_ok hread
    obtain ⟨rest, hrest, hread⟩ := exists_of_bind_eq_ok hread
    cases hread
    obtain ⟨before, after, hsplit⟩ := exists_trim part
    obtain ⟨a, ha, rfl⟩ := h part List.mem_cons_self b hpart
    obtain ⟨forms, hforms, rfl⟩ := ih (fun p hp => h p (List.mem_cons_of_mem part hp)) hrest
    refine ⟨⟨before, a, after⟩ :: forms, ?_, rfl⟩
    rw [List.map_cons, hforms, Spaced.text, ha, ← hsplit]

theorem mem_of_mem_trim {cs : List Char} {c : Char} (h : c ∈ trim cs) : c ∈ cs := by
  obtain ⟨before, after, hsplit⟩ := exists_trim cs
  rw [hsplit]
  exact List.mem_append_left _ (List.mem_append_right _ h)

/-- Neither the text of an argument nor the blanks around it have a mark in them. -/
theorem Spaced.unmarked (a : Spaced ArgumentForm) :
    ∀ c ∈ a.text ArgumentForm.text, c ≠ '(' ∧ c ≠ ')' ∧ c ≠ ',' := by
  intro c hc
  rcases List.mem_append.1 hc with hc | hc
  · rcases List.mem_append.1 hc with hc | hc
    · exact blanks_unmarked a.before c hc
    · exact a.body.plain_text.unmarked c hc
  · exact blanks_unmarked a.after c hc

theorem Spaced.trim_text {α : Type} {write : α → List Char} (s : Spaced α)
    (h : Trimmed (write s.body)) : trim (s.text write) = write s.body := by
  rw [text, trim_between, h.trim_eq]

namespace CallForm

/-- No parenthesis stands inside the parentheses. -/
theorem flat_inner (f : CallForm) : ∀ c ∈ f.inner, c ≠ '(' ∧ c ≠ ')' := by
  intro c hc
  rcases List.mem_append.1 hc with hc | hc
  · rcases List.mem_append.1 hc with hc | hc
    · exact ⟨(blanks_unmarked _ c hc).1, (blanks_unmarked _ c hc).2.1⟩
    · rcases mem_of_mem_intercalate hc with rfl | ⟨part, hpart, hc⟩
      · decide
      · obtain ⟨a, -, rfl⟩ := List.mem_map.1 hpart
        exact ⟨(a.unmarked c hc).1, (a.unmarked c hc).2.1⟩
  · exact ⟨(blanks_unmarked _ c hc).1, (blanks_unmarked _ c hc).2.1⟩

theorem trim_inner (f : CallForm) :
    trim f.inner = trim ([','].intercalate (f.arguments.map (Spaced.text ArgumentForm.text))) :=
  trim_between f.opening f.closing _

/-- The tokens of a written call are the texts of its arguments. -/
theorem argumentTokens_inner (f : CallForm) :
    argumentTokens (trim f.inner) = f.arguments.map fun a => a.body.text := by
  rw [argumentTokens_trim, ← map_trim_splitOn_trim, f.trim_inner, map_trim_splitOn_trim]
  cases harguments : f.arguments with
  | nil => rfl
  | cons a rest =>
    -- only a list without arguments may be blank: every argument has a character that is not
    have hnotBlank : trim ([','].intercalate ((a :: rest).map (Spaced.text ArgumentForm.text))) ≠
        [] := by
      intro hnil
      obtain ⟨c, cs, hcons⟩ := List.exists_cons_of_ne_nil a.body.plain_text.ne_nil
      have hmem : c ∈ a.text ArgumentForm.text := by
        rw [Spaced.text, hcons]
        simp
      have hblank := trim_eq_nil_iff.1 hnil c
        (mem_intercalate (List.mem_map_of_mem List.mem_cons_self) hmem)
      rw [a.body.plain_text.trimmed.1 c (by rw [hcons]; rfl)] at hblank
      cases hblank
    have hcomma : ∀ part ∈ (a :: rest).map (Spaced.text ArgumentForm.text), ',' ∉ part := by
      intro part hpart hc
      obtain ⟨b, -, rfl⟩ := List.mem_map.1 hpart
      exact (b.unmarked ',' hc).2.2 rfl
    rw [if_neg hnotBlank, List.splitOn_intercalate ',' hcomma (by simp), List.map_map]
    exact List.map_congr_left fun b _ => b.trim_text b.body.plain_text.trimmed

end CallForm

theorem any_parenthesis_eq_false_iff {cs : List Char} :
    (cs.any fun c => c = '(' ∨ c = ')') = false ↔ ∀ c ∈ cs, c ≠ '(' ∧ c ≠ ')' := by
  simp

/-- A written call is read back. -/
theorem readCall_text (f : CallForm) : readCall f.text = .ok f.call := by
  have hflat : ((trim f.inner).any fun c => c = '(' ∨ c = ')') = false := by
    exact any_parenthesis_eq_false_iff.2 fun c hc => f.flat_inner c (mem_of_mem_trim hc)
  have hread : (f.arguments.map fun a => a.body.text).mapM readArgument =
      .ok (f.arguments.map fun a => a.body.argument) :=
    mapM_map_eq_ok (fun a => readArgument_text a.body) f.arguments
  simp only [readCall, CallForm.text, matchCall?_text, hflat, Bool.false_eq_true, if_false,
    f.argumentTokens_inner, hread]
  rfl

/-- What is read as a call is a way to write it. -/
theorem exists_of_readCall {cs : List Char} {call : Call} (h : readCall cs = .ok call) :
    ∃ f : CallForm, f.text = cs ∧ f.call = call := by
  unfold readCall at h
  split at h
  next => cases h
  next name inner hmatch =>
    obtain ⟨n, gap, rfl, rfl⟩ := matchCall?_eq_some hmatch
    dsimp only at h
    split at h
    next => cases h
    next hany =>
      have hflat := any_parenthesis_eq_false_iff.1 (Bool.not_eq_true _ ▸ hany)
      obtain ⟨before, after, hinner⟩ := exists_trim inner
      obtain ⟨arguments, hread, h⟩ := exists_of_bind_eq_ok h
      cases h
      obtain ⟨forms, hforms, rfl⟩ : ∃ forms : List (Spaced ArgumentForm),
          [','].intercalate (forms.map (Spaced.text ArgumentForm.text)) = trim inner ∧
            forms.map (fun a => a.body.argument) = arguments := by
        by_cases hnil : trim inner = []
        · rw [hnil] at hread
          cases hread
          exact ⟨[], hnil.symm, rfl⟩
        · have hempty : (trim inner).isEmpty ≠ true := by simpa using hnil
          rw [argumentTokens, if_neg hempty, commasFrom_eq_splitOn] at hread
          obtain ⟨forms, hforms, hmeaning⟩ :=
            exists_spaced_of_mapM ArgumentForm.text ArgumentForm.argument
            (fun token htoken a => exists_of_readArgument (trimmed_trim token) fun c hc => by
              obtain ⟨hmem, hcomma⟩ := mem_of_mem_splitOn htoken (mem_of_mem_trim hc)
              exact ⟨(hflat c hmem).1, (hflat c hmem).2, hcomma⟩) hread
          exact ⟨forms, by rw [hforms, List.intercalate_splitOn], hmeaning⟩
      refine ⟨⟨n, gap, before, forms, after⟩, ?_, rfl⟩
      rw [CallForm.text, CallForm.inner, hforms, ← hinner]

/-! ### Tokens with a foreign digit -/

theorem Foreign.plain {cs : List Char} (h : Foreign cs) : Plain cs := by
  cases h with
  | number hshape =>
    obtain ⟨n, rfl⟩ := hshape
    exact n.plain
  | range hshape =>
    obtain ⟨r, rfl⟩ := hshape
    exact r.plain_text
  | option key left right hshape =>
    obtain ⟨n, rfl⟩ := hshape
    have h : key.text ++ left.1 ++ '=' :: (right ++ n.text) =
        key.text ++ ((left ++ (['='] ++ right.1)) ++ n.text) := by simp
    rw [h]
    exact key.plain_text.append n.plain (unmarked_around (by simp) left right)

/-- A token with a foreign digit spoils its call. -/
theorem readCall_of_foreign (n : Name) (gap : Blanks) {tokens : List (List Char)}
    {token : List Char} (htoken : token ∈ tokens) (hforeign : Foreign (trim token)) :
    ∃ defect, readCall (n.text ++ gap ++ '(' :: ([','].intercalate tokens ++ [')'])) =
      .error defect := by
  cases hread : readCall (n.text ++ gap ++ '(' :: ([','].intercalate tokens ++ [')'])) with
  | error defect => exact ⟨defect, rfl⟩
  | ok call =>
    obtain ⟨before, after, hsplit⟩ := exists_trim token
    have hcomma : ',' ∉ token := by
      intro hc
      rw [hsplit] at hc
      rcases List.mem_append.1 hc with hc | hc
      · rcases List.mem_append.1 hc with hc | hc
        · exact blank_ne_comma before _ hc rfl
        · exact (hforeign.plain.unmarked _ hc).2.2 rfl
      · exact blank_ne_comma after _ hc rfl
    have hinner : trim ([','].intercalate tokens) ≠ [] := by
      intro hnil
      have hblank : trim token = [] := trim_eq_nil_iff.2 fun c hc =>
        trim_eq_nil_iff.1 hnil c (mem_intercalate htoken hc)
      exact hforeign.plain.ne_nil hblank
    have hmem : trim token ∈ argumentTokens (trim ([','].intercalate tokens)) := by
      rw [argumentTokens_trim, if_neg hinner]
      exact List.mem_map_of_mem (mem_splitOn_intercalate htoken hcomma)
    obtain ⟨defect, herror⟩ := readArgument_of_foreign hforeign
    rw [readCall, matchCall?_text] at hread
    dsimp only at hread
    split at hread
    next => cases hread
    next =>
      obtain ⟨arguments, hmap, -⟩ := exists_of_bind_eq_ok hread
      obtain ⟨a, ha⟩ := ok_of_mapM_eq_ok hmap _ hmem
      rw [herror] at ha
      cases ha

end Assay.Chain
