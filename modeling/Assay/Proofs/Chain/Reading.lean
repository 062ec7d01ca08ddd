import Assay.Proofs.Chain.Piece
import Assay.Proofs.Chain.Pieces

/-!
Reading a whole source: the renderings are exactly the sources that are read, each as the calls
it stands for, and every other source fails at its first piece that is not a call.
-/

namespace Assay.Chain

open Text

namespace CallForm

theorem trimmed_text (f : CallForm) : Trimmed f.text := by
  have h : f.text = f.name.text ++ ((f.gap ++ '(' :: f.inner) ++ [')']) := by simp [text]
  rw [h]
  exact trimmed_append f.name.plain_text.ne_nil (List.cons_ne_nil _ _) f.name.plain_text.trimmed
    (by decide)

theorem text_ne_nil (f : CallForm) : f.text ≠ [] := List.cons_ne_nil _ _

end CallForm

theorem Name.flat (n : Name) : Flat 0 n.text := by
  intro c hc
  refine ⟨(n.plain_text.unmarked c hc).1, (n.plain_text.unmarked c hc).2.1, ?_⟩
  have hpoint : c ≠ '.' := ne_mark_of_isWordChar (n.isWordChar_of_mem hc) (by decide)
  exact fun hc => absurd hc hpoint

theorem flat_blanks (gap : Blanks) : Flat 0 gap.1 := by
  intro c hc
  refine ⟨(blanks_unmarked gap c hc).1, (blanks_unmarked gap c hc).2.1, ?_⟩
  rintro rfl
  exact absurd (gap.2 _ hc) (by decide)

/-- Nothing inside a written call separates. -/
theorem Spaced.cutFrom_append (a : Spaced CallForm) (pending rest : List Char) :
    cutFrom 0 pending (a.text CallForm.text ++ rest) =
      cutFrom 0 ((a.text CallForm.text).reverse ++ pending) rest := by
  obtain ⟨before, f, after⟩ := a
  have hinner : Flat 1 f.inner := fun c hc =>
    ⟨(f.flat_inner c hc).1, (f.flat_inner c hc).2, fun _ => by decide⟩
  have hopen : ∀ pending rest, cutFrom 0 pending ('(' :: rest) = cutFrom 1 ('(' :: pending) rest :=
    fun _ _ => rfl
  have hclose : ∀ pending rest, cutFrom 1 pending (')' :: rest) = cutFrom 0 (')' :: pending) rest :=
    fun _ _ => rfl
  simp only [text, CallForm.text, List.append_assoc, List.cons_append, List.nil_append]
  rw [(flat_blanks before).cutFrom_append, f.name.flat.cutFrom_append,
    (flat_blanks f.gap).cutFrom_append, hopen, hinner.cutFrom_append, hclose,
    (flat_blanks after).cutFrom_append]
  simp

/-- The trimmed pieces of a rendering are the texts of its calls, before empty ones. -/
theorem map_trim_cut_text {calls : List (Spaced CallForm)} (hne : calls ≠ []) (ending : Ending) :
    ∃ k, (cut (['.'].intercalate (calls.map (Spaced.text CallForm.text)) ++ ending)).map trim =
      calls.map (fun c => c.body.text) ++ List.replicate k [] := by
  have htrim : ∀ a : Spaced CallForm, trim (a.text CallForm.text) = a.body.text :=
    fun a => a.trim_text a.body.trimmed_text
  induction calls with
  | nil => exact absurd rfl hne
  | cons a rest ih =>
    -- the last call runs into the ending, every other one is cut off at its point
    cases rest with
    | nil =>
      obtain ⟨k, hk⟩ := map_trim_cutFrom_ending ((a.text CallForm.text).reverse) ending.2
      refine ⟨k, ?_⟩
      rw [List.map_singleton, List.intercalate_singleton, cut, a.cutFrom_append, List.append_nil,
        hk, List.reverse_reverse, htrim]
      rfl
    | cons b rest =>
      obtain ⟨k, hk⟩ := ih (List.cons_ne_nil b rest)
      refine ⟨k, ?_⟩
      have hpoint : ∀ pending rest, cutFrom 0 pending ('.' :: rest) = pending.reverse :: cut rest :=
        fun _ _ => rfl
      rw [List.map_cons, List.map_cons, List.intercalate_cons_cons, ← List.map_cons,
        List.append_assoc, List.append_assoc, List.singleton_append, cut, a.cutFrom_append, hpoint,
        List.map_cons, hk, List.append_nil, List.reverse_reverse, htrim]
      rfl

/-- The pieces of a rendering are the texts of its calls. -/
theorem pieces_text (r : Rendering) : pieces r.text = r.calls.map fun c => c.body.text := by
  obtain ⟨k, hk⟩ := map_trim_cut_text r.calls_ne_nil r.ending
  rw [pieces, Rendering.text, hk, dropEmptyEnd_append_replicate, dropEmptyEnd_of_getLast?]
  intro part hpart
  obtain ⟨c, -, rfl⟩ := List.mem_map.1 (List.mem_of_getLast? hpart)
  exact c.body.text_ne_nil

theorem readPiece_text (f : CallForm) : readPiece f.text = .ok f.call := by
  rw [readPiece, readCall_text]

theorem exists_of_readPiece {piece : List Char} {call : Call} (h : readPiece piece = .ok call) :
    ∃ f : CallForm, f.text = piece ∧ f.call = call := by
  unfold readPiece at h
  split at h
  next call' hread =>
    cases h
    exact exists_of_readCall hread
  next => cases h

theorem read_eq_mapM {source : String} (h : pieces source.toList ≠ []) :
    read source = (pieces source.toList).mapM readPiece := by
  unfold read
  split
  next hnil => exact absurd hnil h
  next piece rest hpieces => rw [hpieces]

/-- A rendering is read as the calls it stands for. -/
theorem read_of_text {source : String} {r : Rendering} (h : r.text = source.toList) :
    read source = .ok r.meaning := by
  have hpieces : pieces source.toList = r.calls.map fun c => c.body.text := by
    rw [← h, pieces_text]
  have hne : pieces source.toList ≠ [] := by
    rw [hpieces]
    simpa using r.calls_ne_nil
  rw [read_eq_mapM hne, hpieces]
  exact mapM_map_eq_ok (fun c => readPiece_text c.body) r.calls

/-- A source that is read is a rendering of the calls that it is read as. -/
theorem exists_rendering_of_read {source : String} {calls : List Call}
    (h : read source = .ok calls) : ∃ r : Rendering, r.text = source.toList ∧ r.meaning = calls := by
  have hne : pieces source.toList ≠ [] := by
    intro hnil
    unfold read at h
    rw [hnil] at h
    cases h
  rw [read_eq_mapM hne] at h
  obtain ⟨k, hk⟩ := exists_dropEmptyEnd ((cut source.toList).map trim)
  obtain ⟨front, back, hcut, hfront, hback⟩ := List.map_eq_append_iff.1 hk
  rw [show dropEmptyEnd ((cut source.toList).map trim) = pieces source.toList from rfl] at hfront
  rw [← hfront] at h hne
  obtain ⟨forms, hforms, hmeaning⟩ := exists_spaced_of_mapM CallForm.text CallForm.call
    (fun part _ call => exists_of_readPiece) h
  have hforms_ne : front ≠ [] := by simpa using hne
  -- the dropped pieces are blank, so with the points before them they are an ending
  have hending : ∀ c ∈ back.flatMap ('.' :: ·), c = '.' ∨ isBlank c = true := by
    intro c hc
    obtain ⟨part, hpart, hc⟩ := List.mem_flatMap.1 hc
    have hblank : trim part = [] := by
      have hmem := List.mem_map_of_mem (f := trim) hpart
      rw [hback] at hmem
      exact List.eq_of_mem_replicate hmem
    exact (List.mem_cons.1 hc).imp_right (trim_eq_nil_iff.1 hblank c)
  refine ⟨⟨forms, ?_, ⟨_, hending⟩⟩, ?_, hmeaning⟩
  · rintro rfl
    exact hforms_ne hforms.symm
  · rw [Rendering.text, hforms, ← intercalate_append hforms_ne, ← hcut, intercalate_cut]

/-- The first piece that is not a call decides, and the source itself if it has no pieces. -/
theorem read_cases (source : String) :
    (∃ calls, read source = .ok calls) ∨
      (split source = [] ∧ ∃ defect, read source = .error (.malformed source defect)) ∨
      ∃ before piece after defect, split source = before ++ piece :: after ∧
        (∀ p ∈ before, ∃ f : CallForm, f.text = p.toList) ∧
        (¬ ∃ f : CallForm, f.text = piece.toList) ∧
        read source = .error (.malformed piece defect) := by
  by_cases hne : pieces source.toList = []
  · refine .inr (.inl ⟨by rw [split, hne]; rfl, .emptyExpression, ?_⟩)
    unfold read
    rw [hne]
  · rw [read_eq_mapM hne]
    rcases mapM_cases readPiece (pieces source.toList) with
      ⟨calls, hcalls, -⟩ | ⟨before, piece, after, fault, hpieces, hbefore, hpiece, hfault⟩
    · exact .inl ⟨calls, hcalls⟩
    · obtain ⟨defect, rfl⟩ : ∃ defect, fault = .malformed (String.ofList piece) defect := by
        unfold readPiece at hpiece
        split at hpiece
        next => cases hpiece
        next defect _ =>
          cases hpiece
          exact ⟨defect, rfl⟩
      refine .inr (.inr ⟨before.map String.ofList, String.ofList piece, after.map String.ofList,
        defect, ?_, ?_, ?_, hfault⟩)
      · rw [split, hpieces, List.map_append, List.map_cons]
      · intro p hp
        obtain ⟨q, hq, rfl⟩ := List.mem_map.1 hp
        obtain ⟨call, hcall⟩ := hbefore q hq
        obtain ⟨f, hf, -⟩ := exists_of_readPiece hcall
        exact ⟨f, by rw [hf, String.toList_ofList]⟩
      · rintro ⟨f, hf⟩
        rw [String.toList_ofList] at hf
        rw [← hf, readPiece_text] at hpiece
        cases hpiece

theorem exists_error_of_foreign {source piece : String} {n : Name} {gap : Blanks}
    {tokens : List (List Char)} {token : List Char} (hpiece : piece ∈ split source)
    (htext : piece.toList = n.text ++ gap ++ '(' :: ([','].intercalate tokens ++ [')']))
    (htoken : token ∈ tokens) (hforeign : Foreign (trim token)) :
    ∃ named defect, read source = .error (.malformed named defect) := by
  rcases read_cases source with ⟨calls, hcalls⟩ | ⟨-, defect, h⟩ | ⟨-, named, -, defect, -, -, -, h⟩
  · obtain ⟨cs, hcs, rfl⟩ := List.mem_map.1 hpiece
    rw [String.toList_ofList] at htext
    have hne : pieces source.toList ≠ [] := List.ne_nil_of_mem hcs
    rw [read_eq_mapM hne] at hcalls
    obtain ⟨call, hcall⟩ := ok_of_mapM_eq_ok hcalls cs hcs
    obtain ⟨defect, hdefect⟩ := readCall_of_foreign n gap htoken hforeign
    rw [readPiece, htext, hdefect] at hcall
    cases hcall
  · exact ⟨source, defect, h⟩
  · exact ⟨named, defect, h⟩

/-- A source is read exactly if it is a rendering, as the calls that it stands for. Otherwise the
fault names the first piece that is no call, or the source if there are no pieces. A digit that is
not an ASCII digit spoils every number it stands in, and every list of calls that can be written
is read back from each of its renderings, whatever the white space.

The number of parentheses needs no bound: no parenthesis stands inside another one in a rendering,
so a counter of any size can tell where a rendering is to be cut. -/
theorem read_characterized (source : String) :
    (∀ calls, read source = .ok calls ↔
      ∃ r : Rendering, r.text = source.toList ∧ r.meaning = calls) ∧
    ((¬ ∃ r : Rendering, r.text = source.toList) →
      (split source = [] ∧ ∃ defect, read source = .error (.malformed source defect)) ∨
      ∃ before piece after defect, split source = before ++ piece :: after ∧
        (∀ p ∈ before, ∃ f : CallForm, f.text = p.toList) ∧
        (¬ ∃ f : CallForm, f.text = piece.toList) ∧
        read source = .error (.malformed piece defect)) ∧
    (∀ piece ∈ split source, ∀ (n : Name) (gap : Blanks) (tokens : List (List Char)),
      piece.toList = n.text ++ gap ++ '(' :: ([','].intercalate tokens ++ [')']) →
      ∀ token ∈ tokens, Foreign (trim token) →
        ∃ named defect, read source = .error (.malformed named defect)) ∧
    (∀ calls : List Call, calls ≠ [] → (∀ c ∈ calls, c.Expressible) →
      ∃ r : Rendering, r.meaning = calls ∧
        ∀ spacing, read (String.ofList (r.respace spacing).text) = .ok calls) := by
  refine ⟨fun calls => ⟨exists_rendering_of_read, ?_⟩, ?_, ?_, ?_⟩
  · rintro ⟨r, htext, rfl⟩
    exact read_of_text htext
  · intro hnone
    rcases read_cases source with ⟨calls, hcalls⟩ | hfault
    · obtain ⟨r, hr, -⟩ := exists_rendering_of_read hcalls
      exact absurd ⟨r, hr⟩ hnone
    · exact hfault
  · intro piece hpiece n gap tokens htext token htoken hforeign
    exact exists_error_of_foreign hpiece htext htoken hforeign
  · intro calls hne hcalls
    obtain ⟨r, rfl⟩ := exists_rendering hne hcalls
    refine ⟨r, rfl, fun spacing => ?_⟩
    rw [← r.meaning_respace spacing]
    exact read_of_text String.toList_ofList.symm

/-- A source whose only number is the Arabic-Indic digit one, and calls of every kind of argument
that can be written. -/
theorem read_characterized_digit :
    ((split "f(\u0661)" = [] ∧ ∃ defect, read "f(\u0661)" = .error (.malformed "f(\u0661)" defect)) ∨
      ∃ before piece after defect, split "f(\u0661)" = before ++ piece :: after ∧
        (∀ p ∈ before, ∃ f : CallForm, f.text = p.toList) ∧
        (¬ ∃ f : CallForm, f.text = piece.toList) ∧
        read "f(\u0661)" = .error (.malformed piece defect)) ∧
    (∃ named defect, read "f(\u0661)" = .error (.malformed named defect)) ∧
    ∃ r : Rendering,
      r.meaning = [⟨"f", [.range 1 9, .option "k" (.text "x y"), .literal (.text "=")]⟩] ∧
      ∀ spacing, read (String.ofList (r.respace spacing).text) =
        .ok [⟨"f", [.range 1 9, .option "k" (.text "x y"), .literal (.text "=")]⟩] := by
  let name (c : Char) (h : isNameStart c = true) : Name := ⟨c, [], h, by simp⟩
  have hnone : (read "f(\u0661)").toOption = none := by decide +kernel
  refine ⟨(read_characterized "f(\u0661)").2.1 ?_, ?_, ?_⟩
  · rintro ⟨r, hr⟩
    rw [((read_characterized "f(\u0661)").1 r.meaning).2 ⟨r, hr, rfl⟩] at hnone
    cases hnone
  · refine (read_characterized "f(\u0661)").2.2.1 "f(\u0661)" (by decide +kernel)
      (name 'f' (by decide)) tight [['\u0661']] (by decide +kernel) ['\u0661'] (by simp)
      (.number ?_ ?_)
    · decide +kernel
    · exact ⟨'\u0661', by decide +kernel, by decide +kernel, by decide +kernel⟩
  · refine (read_characterized "").2.2.2 _ (by simp) ?_
    intro c hc
    cases List.mem_singleton.1 hc
    have hvalue : ValueText "x y".toList := by decide +kernel
    have htext : ArgumentText "=".toList := by decide +kernel
    refine ⟨⟨name 'f' (by decide), by decide⟩, List.forall_mem_cons.2 ⟨?_, ?_⟩⟩
    · exact ⟨by decide +kernel, by decide +kernel⟩
    · exact List.forall_mem_cons.2
        ⟨⟨⟨name 'k' (by decide), by decide⟩, hvalue⟩, List.forall_mem_singleton.2 htext⟩

end Assay.Chain
