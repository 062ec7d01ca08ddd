import Assay.Proofs.Chain.Pieces
import Assay.Proofs.Text.Joined

/-!
Which points separate. A source is cut at exactly those points before which as many parentheses
are opened as closed, whatever the parentheses are, and splitting the joined pieces of a source
gives the pieces again.
-/

namespace Assay.Chain

open Text

/-- Opened minus closed parentheses. -/
def excess (cs : List Char) : Int := cs.count '(' - cs.count ')'

/-- As many parentheses are opened as closed, in whatever order. -/
def Balanced (cs : List Char) : Prop := cs.count '(' = cs.count ')'

instance (cs : List Char) : Decidable (Balanced cs) := inferInstanceAs (Decidable (_ = _))

theorem balanced_iff {cs : List Char} : Balanced cs ↔ excess cs = 0 := by
  unfold Balanced excess
  omega

@[simp] theorem excess_nil : excess [] = 0 := rfl

@[simp] theorem excess_append (cs ds : List Char) : excess (cs ++ ds) = excess cs + excess ds := by
  simp only [excess, List.count_append]
  omega

theorem excess_cons (c : Char) (cs : List Char) : excess (c :: cs) = excess [c] + excess cs :=
  excess_append [c] cs

theorem depthAfter_eq (depth : Int) (c : Char) : depthAfter depth c = depth + excess [c] := by
  unfold depthAfter excess
  split
  next h =>
    subst h
    rfl
  next hopen =>
    split
    next h =>
      subst h
      rfl
    next hclose => simp [hopen, hclose]

theorem foldl_depthAfter (depth : Int) (cs : List Char) :
    cs.foldl depthAfter depth = depth + excess cs := by
  induction cs generalizing depth with
  | nil => simp
  | cons c cs ih =>
    rw [List.foldl_cons, ih, depthAfter_eq, excess_cons c cs]
    omega

/-- The counter never leaves the range that the number of parentheses allows. -/
theorem natAbs_foldl_depthAfter {before source : List Char} (h : before <+: source) :
    (before.foldl depthAfter 0).natAbs ≤ source.count '(' + source.count ')' := by
  have hopen := h.sublist.count_le '('
  have hclose := h.sublist.count_le ')'
  rw [foldl_depthAfter, excess]
  omega

/-- Cutting goes on afresh behind a point that separates. -/
theorem cutFrom_append_point {depth : Int} {part : List Char} (h : depth + excess part = 0)
    (pending rest : List Char) :
    cutFrom depth pending (part ++ '.' :: rest) = cutFrom depth pending part ++ cut rest := by
  induction part generalizing depth pending with
  | nil =>
    have hdepth : depth = 0 := by simpa using h
    subst hdepth
    rfl
  | cons c part ih =>
    have hrest : depthAfter depth c + excess part = 0 := by
      rw [excess_cons c part] at h
      rw [depthAfter_eq]
      omega
    rw [List.cons_append, cutFrom, cutFrom]
    split
    next hcut =>
      have hpoint : depthAfter depth c = depth := by
        rw [hcut.1]
        rfl
      rw [hpoint] at hrest
      rw [ih hrest, List.cons_append]
    next => rw [ih hrest]

theorem cut_append {before : List Char} (h : Balanced before) (after : List Char) :
    cut (before ++ '.' :: after) = cut before ++ cut after := by
  apply cutFrom_append_point
  rw [balanced_iff.1 h]
  rfl

/-- No point inside separates. -/
def Whole (part : List Char) : Prop :=
  ∀ before after, part = before ++ '.' :: after → ¬Balanced before

theorem whole_nil : Whole [] := fun _ _ h => absurd h (by simp)

theorem Whole.concat {part : List Char} {c : Char} (h : Whole part)
    (hc : ¬(c = '.' ∧ excess part = 0)) : Whole (part ++ [c]) := by
  intro before after heq hbalanced
  rcases List.eq_nil_or_concat after with rfl | ⟨after, d, rfl⟩
  · obtain ⟨rfl, hpoint⟩ := List.append_inj' heq rfl
    have hpoint : c = '.' := by simpa using hpoint
    exact hc ⟨hpoint, balanced_iff.1 hbalanced⟩
  · have hinner : part ++ [c] = (before ++ '.' :: after) ++ [d] := by simpa using heq
    exact h before after (List.append_inj' hinner rfl).1 hbalanced

/-- The invariant of the pass: the depth counts the open piece, and no point of it separates. -/
theorem cutFrom_parts {depth : Int} {pending : List Char} (cs : List Char)
    (hdepth : depth = excess pending.reverse) (hwhole : Whole pending.reverse) :
    (∀ part ∈ (cutFrom depth pending cs).dropLast, Balanced part) ∧
      ∀ part ∈ cutFrom depth pending cs, Whole part := by
  induction cs generalizing depth pending with
  | nil => simpa [cutFrom] using hwhole
  | cons c cs ih =>
    rw [cutFrom]
    split
    next hcut =>
      have hrest := @ih depth [] hcut.2 whole_nil
      rw [List.dropLast_cons_of_ne_nil (cutFrom_ne_nil _ _ _), List.forall_mem_cons,
        List.forall_mem_cons]
      exact ⟨⟨balanced_iff.2 (hdepth.symm.trans hcut.2), hrest.1⟩, hwhole, hrest.2⟩
    next hcut =>
      apply ih
      · rw [depthAfter_eq, List.reverse_cons, excess_append, hdepth]
      · rw [List.reverse_cons]
        exact hwhole.concat (hdepth ▸ hcut)

theorem cut_parts (source : List Char) :
    (∀ part ∈ (cut source).dropLast, Balanced part) ∧ ∀ part ∈ cut source, Whole part := by
  apply cutFrom_parts
  · rfl
  · exact whole_nil

theorem cutFrom_of_whole {depth : Int} {pending : List Char} (cs : List Char)
    (hdepth : depth = excess pending.reverse) (h : Whole (pending.reverse ++ cs)) :
    cutFrom depth pending cs = [pending.reverse ++ cs] := by
  induction cs generalizing depth pending with
  | nil => rw [cutFrom, List.append_nil]
  | cons c cs ih =>
    have hcut : ¬(c = '.' ∧ depth = 0) := by
      rintro ⟨rfl, hzero⟩
      exact h _ _ rfl (balanced_iff.2 (hdepth.symm.trans hzero))
    have hopen : (c :: pending).reverse ++ cs = pending.reverse ++ c :: cs := by simp
    rw [cutFrom, if_neg hcut, ih _ (hopen ▸ h), hopen]
    rw [depthAfter_eq, List.reverse_cons, excess_append, hdepth]

theorem Whole.cut_eq {part : List Char} (h : Whole part) : cut part = [part] :=
  cutFrom_of_whole part rfl h

/-- Parts that are balanced, the last one apart, and have no separating point inside are cut out
again where they were joined. -/
theorem cut_intercalate {parts : List (List Char)} (hne : parts ≠ [])
    (hbalanced : ∀ part ∈ parts.dropLast, Balanced part) (hwhole : ∀ part ∈ parts, Whole part) :
    cut (['.'].intercalate parts) = parts := by
  induction parts with
  | nil => exact absurd rfl hne
  | cons part parts ih =>
    obtain ⟨hpart, hparts⟩ := List.forall_mem_cons.1 hwhole
    by_cases hnil : parts = []
    · subst hnil
      rw [List.intercalate_singleton, hpart.cut_eq]
    · rw [List.dropLast_cons_of_ne_nil hnil, List.forall_mem_cons] at hbalanced
      rw [List.intercalate_cons_of_ne_nil hnil, List.append_assoc, List.singleton_append,
        cut_append hbalanced.1, hpart.cut_eq, ih hnil hbalanced.2 hparts, List.singleton_append]

theorem balanced_intercalate {parts : List (List Char)} (h : ∀ part ∈ parts, Balanced part) :
    Balanced (['.'].intercalate parts) := by
  induction parts with
  | nil => rfl
  | cons part parts ih =>
    obtain ⟨hpart, hparts⟩ := List.forall_mem_cons.1 h
    have hrest := balanced_iff.1 (ih hparts)
    rw [balanced_iff] at hpart ⊢
    by_cases hnil : parts = []
    · rw [hnil, List.intercalate_singleton, hpart]
    · rw [List.intercalate_cons_of_ne_nil hnil, excess_append, excess_append, hpart, hrest]
      rfl

/-- Two neighbouring parts meet at the point between these two texts. -/
def MeetAt (parts : List (List Char)) (before after : List Char) : Prop :=
  ∃ front back, parts = front ++ back ∧ front ≠ [] ∧ back ≠ [] ∧
    ['.'].intercalate front = before ∧ ['.'].intercalate back = after

section Meeting

variable {part before after : List Char} {parts : List (List Char)}

theorem not_meetAt_singleton : ¬MeetAt [part] before after := by
  rintro ⟨front, back, heq, hfront, hback, -⟩
  obtain ⟨first, front, rfl⟩ := List.exists_cons_of_ne_nil hfront
  have hrest : front ++ back = [] := (List.cons.inj heq).2.symm
  exact hback (List.append_eq_nil_iff.1 hrest).2

theorem meetAt_first (hne : parts ≠ []) :
    MeetAt (part :: parts) part (['.'].intercalate parts) :=
  ⟨[part], parts, rfl, List.cons_ne_nil _ _, hne, List.intercalate_singleton, rfl⟩

theorem MeetAt.starts (h : MeetAt (part :: parts) before after) : part <+: before := by
  obtain ⟨front, back, heq, hfront, -, rfl, -⟩ := h
  obtain ⟨first, front, rfl⟩ := List.exists_cons_of_ne_nil hfront
  obtain ⟨rfl, -⟩ := List.cons.inj heq
  exact ⟨_, (intercalate_cons '.' part front).symm⟩

theorem meetAt_cons_iff :
    MeetAt (part :: parts) (part ++ '.' :: before) after ↔ MeetAt parts before after := by
  constructor
  · rintro ⟨front, back, heq, hfront, hback, hbefore, hafter⟩
    obtain ⟨first, front, rfl⟩ := List.exists_cons_of_ne_nil hfront
    obtain ⟨rfl, rfl⟩ := List.cons.inj heq
    have hne : front ≠ [] := by
      rintro rfl
      simp [List.intercalate_singleton] at hbefore
    rw [List.intercalate_cons_of_ne_nil hne, List.append_assoc] at hbefore
    have hrest := (List.cons.inj (List.append_cancel_left hbefore)).2
    exact ⟨front, back, rfl, hne, hback, hrest, hafter⟩
  · rintro ⟨front, back, rfl, hfront, hback, rfl, hafter⟩
    refine ⟨part :: front, back, rfl, List.cons_ne_nil _ _, hback, ?_, hafter⟩
    rw [List.intercalate_cons_of_ne_nil hfront, List.append_assoc, List.singleton_append]

/-- A text and the points at which its parts meet determine the parts. -/
theorem eq_of_meetAt {parts' : List (List Char)} (hne : parts ≠ []) (hne' : parts' ≠ [])
    (hjoined : ['.'].intercalate parts = ['.'].intercalate parts')
    (h : ∀ before after, MeetAt parts before after ↔ MeetAt parts' before after) :
    parts = parts' := by
  induction parts generalizing parts' with
  | nil => exact absurd rfl hne
  | cons part parts ih =>
    obtain ⟨part', parts', rfl⟩ := List.exists_cons_of_ne_nil hne'
    by_cases hlast : parts = []
    · subst hlast
      by_cases hlast' : parts' = []
      · subst hlast'
        rw [List.intercalate_singleton, List.intercalate_singleton] at hjoined
        rw [hjoined]
      · exact absurd ((h _ _).2 (meetAt_first hlast')) not_meetAt_singleton
    · have hmeet := (h _ _).1 (meetAt_first hlast)
      have hlast' : parts' ≠ [] := by
        rintro rfl
        exact not_meetAt_singleton hmeet
      have hfirst := ((h _ _).2 (meetAt_first hlast')).starts
      obtain rfl := hfirst.eq_of_length_le hmeet.starts.length_le
      rw [List.intercalate_cons_of_ne_nil hlast, List.intercalate_cons_of_ne_nil hlast',
        List.append_cancel_left_eq] at hjoined
      have htail (before after : List Char) :
          MeetAt parts before after ↔ MeetAt parts' before after := by
        rw [← @meetAt_cons_iff part, h, meetAt_cons_iff]
      rw [ih hlast hlast' hjoined htail]

end Meeting

/-- The source is cut at the points that have a balanced text before them, and nowhere else. -/
structure IsCut (source : List Char) (parts : List (List Char)) : Prop where
  ne_nil : parts ≠ []
  joined : ['.'].intercalate parts = source
  meets : ∀ before after, source = before ++ '.' :: after →
    (MeetAt parts before after ↔ Balanced before)

theorem MeetAt.joined {parts : List (List Char)} {before after : List Char}
    (h : MeetAt parts before after) : ['.'].intercalate parts = before ++ '.' :: after := by
  obtain ⟨front, back, rfl, hfront, hback, rfl, rfl⟩ := h
  obtain ⟨first, back, rfl⟩ := List.exists_cons_of_ne_nil hback
  rw [intercalate_append hfront, intercalate_cons, List.flatMap_cons, List.cons_append]

theorem isCut_cut (source : List Char) : IsCut source (cut source) := by
  refine ⟨cutFrom_ne_nil _ _ _, intercalate_cut source, ?_⟩
  rintro before after rfl
  constructor
  · rintro ⟨front, back, heq, -, hback, rfl, -⟩
    apply balanced_intercalate
    intro part hpart
    apply (cut_parts _).1
    rw [heq, List.dropLast_append_of_ne_nil hback]
    exact List.mem_append_left _ hpart
  · intro h
    exact ⟨cut before, cut after, cut_append h after, cutFrom_ne_nil _ _ _, cutFrom_ne_nil _ _ _,
      intercalate_cut before, intercalate_cut after⟩

theorem isCut_iff {source : List Char} {parts : List (List Char)} :
    IsCut source parts ↔ parts = cut source := by
  constructor
  · intro h
    have hcut := isCut_cut source
    apply eq_of_meetAt h.ne_nil hcut.ne_nil (h.joined.trans hcut.joined.symm)
    intro before after
    constructor
    · intro hmeet
      have hsource := h.joined.symm.trans hmeet.joined
      exact (hcut.meets before after hsource).2 ((h.meets before after hsource).1 hmeet)
    · intro hmeet
      have hsource := hcut.joined.symm.trans hmeet.joined
      exact (h.meets before after hsource).2 ((hcut.meets before after hsource).1 hmeet)
  · rintro rfl
    exact isCut_cut source

theorem excess_blanks (blanks : Blanks) : excess blanks.1 = 0 := by
  have hopen : '(' ∉ blanks.1 := fun h => absurd (blanks.2 _ h) (by decide)
  have hclose : ')' ∉ blanks.1 := fun h => absurd (blanks.2 _ h) (by decide)
  rw [excess, List.count_eq_zero.2 hopen, List.count_eq_zero.2 hclose]
  rfl

theorem excess_trim (cs : List Char) : excess (trim cs) = excess cs := by
  obtain ⟨before, after, h⟩ := exists_trim cs
  have hsum := congrArg excess h
  rw [excess_append, excess_append, excess_blanks, excess_blanks] at hsum
  omega

/-- Trimming a part moves no cut: a blank is no parenthesis and no point. -/
theorem Whole.trim {part : List Char} (h : Whole part) : Whole (trim part) := by
  intro before after heq hbalanced
  obtain ⟨left, right, hpart⟩ := exists_trim part
  refine h (left ++ before) (after ++ right) ?_ ?_
  · rw [hpart, heq]
    simp
  · rw [balanced_iff] at hbalanced ⊢
    rw [excess_append, excess_blanks, hbalanced]
    rfl

theorem getLast?_dropEmptyEnd (parts : List (List Char)) :
    ∀ part ∈ (dropEmptyEnd parts).getLast?, part ≠ [] := by
  unfold dropEmptyEnd
  rw [List.getLast?_reverse]
  intro part hpart
  simpa using head?_dropWhile_false List.isEmpty parts.reverse part hpart

theorem mem_dropLast_append {α : Type} {xs : List α} {a : α} (h : a ∈ xs.dropLast)
    (rest : List α) : a ∈ (xs ++ rest).dropLast := by
  by_cases hnil : rest = []
  · rwa [hnil, List.append_nil]
  · rw [List.dropLast_append_of_ne_nil hnil]
    exact List.mem_append_left _ (xs.dropLast_subset h)

/-- The pieces can be cut again: they are trimmed parts of a cut. -/
theorem pieces_parts (source : List Char) :
    (∀ part ∈ (pieces source).dropLast, Balanced part) ∧
      ∀ part ∈ pieces source, Whole part ∧ Trimmed part := by
  obtain ⟨k, hk⟩ := exists_dropEmptyEnd ((cut source).map trim)
  have hkept : (cut source).map trim = pieces source ++ List.replicate k [] := hk
  constructor
  · intro part hpart
    have hmem := mem_dropLast_append hpart (List.replicate k [])
    rw [← hkept, ← List.map_dropLast] at hmem
    obtain ⟨uncut, huncut, rfl⟩ := List.mem_map.1 hmem
    rw [balanced_iff, excess_trim, ← balanced_iff]
    exact (cut_parts source).1 uncut huncut
  · intro part hpart
    have hmem : part ∈ (cut source).map trim := hkept ▸ List.mem_append_left _ hpart
    obtain ⟨uncut, huncut, rfl⟩ := List.mem_map.1 hmem
    exact ⟨((cut_parts source).2 uncut huncut).trim, trimmed_trim uncut⟩

theorem pieces_intercalate (source : List Char) :
    pieces (['.'].intercalate (pieces source)) = pieces source := by
  by_cases hnil : pieces source = []
  · rw [hnil]
    rfl
  · obtain ⟨hbalanced, hparts⟩ := pieces_parts source
    have hcut := cut_intercalate hnil hbalanced fun part hpart => (hparts part hpart).1
    have htrim : (pieces source).map trim = pieces source := by
      rw [List.map_congr_left fun part hpart => (hparts part hpart).2.trim_eq, List.map_id']
    have hlast : dropEmptyEnd (pieces source) = pieces source :=
      dropEmptyEnd_of_getLast? (getLast?_dropEmptyEnd _)
    rw [pieces, hcut, htrim, hlast]

theorem map_toList_split (source : String) :
    (split source).map String.toList = pieces source.toList := by
  simp [split, Function.comp_def]

/-- A source is cut at exactly the points that have a balanced text before them. Joined by points
the uncut pieces are the source, each but the last is balanced, and the pieces of two texts joined
by a separating point are those of the one and then those of the other. The pieces are freed of the
white space around them and the empty ones at the end dropped, and splitting the joined result
changes nothing. The counter of a source with fewer than `2 ^ 31` parentheses fits into a word of
32 bits throughout. -/
theorem split_cuts_where_balanced (source : String) :
    (∀ parts, IsCut source.toList parts ↔ parts = cut source.toList) ∧
      ['.'].intercalate (cut source.toList) = source.toList ∧
      (∀ part ∈ (cut source.toList).dropLast, Balanced part) ∧
      (∀ before after, Balanced before →
        cut (before ++ '.' :: after) = cut before ++ cut after) ∧
      (∀ part ∈ cut source.toList, Trimmed (trim part) ∧
        ∃ left right : Blanks, part = left ++ trim part ++ right) ∧
      (∃ k, (cut source.toList).map trim =
        (split source).map String.toList ++ List.replicate k []) ∧
      (∀ piece ∈ (split source).getLast?, piece ≠ "") ∧
      split (".".intercalate (split source)) = split source ∧
      (source.toList.count '(' + source.toList.count ')' < 2 ^ 31 →
        ∀ before, before <+: source.toList →
          -(2 ^ 31) < before.foldl depthAfter 0 ∧ before.foldl depthAfter 0 < 2 ^ 31) := by
  refine ⟨fun _ => isCut_iff, intercalate_cut _, (cut_parts _).1,
    fun _ after h => cut_append h after, ?_, ?_, ?_, ?_, ?_⟩
  · intro part _
    exact ⟨trimmed_trim part, exists_trim part⟩
  · rw [map_toList_split]
    exact exists_dropEmptyEnd _
  · rintro piece hpiece rfl
    have hlast := List.getLast?_map (f := String.toList) (l := split source)
    rw [map_toList_split, Option.mem_def.1 hpiece] at hlast
    exact getLast?_dropEmptyEnd _ [] hlast rfl
  · rw [split, String.toList_intercalate, map_toList_split,
      show ".".toList = ['.'] from rfl, pieces_intercalate, split]
  · intro hcount before hbefore
    have hle := natAbs_foldl_depthAfter hbefore
    omega

/-- A text that closes a parenthesis before it opens one, with an empty piece in its middle and
blank ones at its end. -/
theorem split_cuts_where_balanced_dipping :
    cut ") . ( .f(a.b).. g . ".toList = cut ") . ( ".toList ++ cut "f(a.b).. g . ".toList ∧
      split (".".intercalate (split ") . ( .f(a.b).. g . ")) = [") . (", "f(a.b)", "", "g"] ∧
      ∀ before, before <+: ") . ( .f(a.b).. g . ".toList →
        -(2 ^ 31) < before.foldl depthAfter 0 ∧ before.foldl depthAfter 0 < 2 ^ 31 := by
  obtain ⟨-, -, -, happend, -, -, -, hstable, hcounter⟩ :=
    split_cuts_where_balanced ") . ( .f(a.b).. g . "
  refine ⟨happend ") . ( ".toList _ (by decide), ?_, hcounter (by decide)⟩
  rw [hstable]
  decide

end Assay.Chain
