import Assay.Proofs.Draw.Printed
import Assay.Proofs.Text.Lines
import Assay.Runner.StdinCursor

/-!
Reading an input line by line and handing on the rest loses nothing but the carriage returns of
line ends.
-/

namespace Assay.Runner.StdinCursor

open Text (Lined finalNewline unifyEnds)

variable {c : StdinCursor} {line : String} {rest : List String} (s : String) (k : Nat)

/-- What the next `k` reads return, and the cursor after them. -/
def reads : Nat → StdinCursor → List (Option String) × StdinCursor
  | 0, c => ([], c)
  | k + 1, c =>
    let (line, c) := c.next
    let (lines, c) := reads k c
    (line :: lines, c)

/-- The lines that have not been read. -/
def unread (c : StdinCursor) : List String := c.lines.drop c.position

theorem length_unread (c : StdinCursor) : c.unread.length = c.remaining := List.length_drop

/-- At the end a read changes nothing. -/
theorem next_of_unread_nil (h : c.unread = []) : c.next = (none, c) := by
  have hend : c.lines[c.position]? = none :=
    List.getElem?_eq_none (List.drop_eq_nil_iff.1 h)
  rw [next, hend]

/-- Before the end a read takes the first unread line. -/
theorem next_of_unread_cons (h : c.unread = line :: rest) :
    c.next = (some line, { c with position := c.position + 1 }) := by
  have hline : c.lines[c.position]? = some line := by
    rw [← List.head?_drop]
    exact congrArg List.head? h
  rw [next, hline]

theorem unread_advance (h : c.unread = line :: rest) :
    unread { c with position := c.position + 1 } = rest := by
  have htail : (c.lines.drop c.position).tail = rest := congrArg List.tail h
  rwa [List.tail_drop] at htail

/-- Writing goes on behind what is written with every unread line. -/
theorem writeLines_some (c : StdinCursor) (text : String) :
    c.writeLines (some text) = some ("\n".intercalate (text :: c.unread)) := by
  generalize hlines : c.unread = lines
  induction lines generalizing c text with
  | nil =>
    rw [writeLines, next_of_unread_nil hlines]
    rfl
  | cons line rest ih =>
    rw [writeLines, next_of_unread_cons hlines]
    dsimp only
    rw [ih _ _ (unread_advance hlines), String.intercalate_cons_append,
      String.intercalate_cons_cons]

/-- What is fed are the unread lines with newlines between them, and one more at the end if the
input had it and there is a line to end. -/
theorem feed_eq (c : StdinCursor) :
    c.feed = "\n".intercalate c.unread ++
      if c.endsWithNewline = true ∧ c.unread ≠ [] then "\n" else "" := by
  cases hlines : c.unread with
  | nil =>
    rw [feed, writeLines, next_of_unread_nil hlines]
    simp
  | cons line rest =>
    rw [feed, writeLines, next_of_unread_cons hlines]
    dsimp only
    rw [writeLines_some, unread_advance hlines]
    by_cases hends : c.endsWithNewline = true
    · simp [hends]
    · simp [hends]

/-- The reads go through the unread lines and then stay at the end. -/
theorem reads_eq (k : Nat) (c : StdinCursor) :
    reads k c =
      ((c.unread.take k).map some ++ List.replicate (k - c.remaining) none,
        { c with position := c.position + min k c.remaining }) := by
  rw [← length_unread]
  induction k generalizing c with
  | zero => simp [reads]
  | succ k ih =>
    cases hunread : c.unread with
    | nil =>
      have hrest := ih c
      rw [hunread] at hrest
      rw [reads, next_of_unread_nil hunread]
      simp [hrest, List.replicate_succ]
    | cons line rest =>
      have hrest := ih { c with position := c.position + 1 }
      rw [unread_advance hunread] at hrest
      rw [reads, next_of_unread_cons hunread]
      simp [hrest, Nat.add_assoc, Nat.add_comm 1]

/-- The cursor after `k` reads of an input. -/
def after : StdinCursor := (reads k (ofString s)).2

theorem reads_ofString :
    (reads k (ofString s)).1 = ((Text.lines s).take k).map some ++
      List.replicate (k - (Text.lines s).length) none := by
  rw [reads_eq]
  rfl

theorem after_eq : after s k =
    { ofString s with position := min k (Text.lines s).length } := by
  have hremaining : (ofString s).remaining = (Text.lines s).length := rfl
  rw [after, reads_eq, hremaining]
  simp [ofString]

theorem unread_after : (after s k).unread = (Text.lines s).drop k := by
  rw [after_eq]
  change (Text.lines s).drop (min k (Text.lines s).length) = (Text.lines s).drop k
  by_cases hle : k ≤ (Text.lines s).length
  · rw [Nat.min_eq_left hle]
  · have hge : (Text.lines s).length ≤ k := by omega
    rw [Nat.min_eq_right hge, List.drop_length, List.drop_eq_nil_of_le hge]

theorem feed_after : (after s k).feed = "\n".intercalate ((Text.lines s).drop k) ++
    if s.toList.getLast? = some '\n' ∧ k < (Text.lines s).length then "\n" else "" := by
  have hends : (after s k).endsWithNewline = (s.toList.getLast? == some '\n') := by
    rw [after_eq]
    rfl
  rw [feed_eq, unread_after, hends]
  simp

theorem lined_lines : Lined s.toList ((Text.lines s).map String.toList) := by
  rw [Text.lined_iff, Text.lines, List.map_map]
  have hid : String.toList ∘ String.ofList = id := funext fun cs => String.toList_ofList
  rw [hid, List.map_id]

/-- While a line is left, what was read and what is fed make up the whole text. -/
theorem read_append_feed (hk : k < (Text.lines s).length) :
    String.join (((Text.lines s).take k).map (· ++ "\n")) ++ (after s k).feed =
      String.ofList (unifyEnds s.toList) := by
  have hleft : ((Text.lines s).drop k).map String.toList ≠ [] := by simpa using hk
  have hread : (String.join (((Text.lines s).take k).map (· ++ "\n"))).toList =
      (((Text.lines s).take k).map String.toList).flatMap (· ++ ['\n']) := by
    rw [String.toList_join, List.flatMap_map, List.flatMap_map]
    exact List.flatMap_congr fun line _ => String.toList_append
  have hfeed : (after s k).feed.toList =
      ['\n'].intercalate (((Text.lines s).drop k).map String.toList) ++ finalNewline s.toList := by
    rw [feed_after, String.toList_append, String.toList_intercalate, finalNewline]
    by_cases hlast : s.toList.getLast? = some '\n'
    · simp [hlast, hk]
    · simp [hlast]
  apply String.toList_inj.1
  calc (String.join (((Text.lines s).take k).map (· ++ "\n")) ++ (after s k).feed).toList
      = (((Text.lines s).take k).map String.toList).flatMap (· ++ ['\n']) ++
          (['\n'].intercalate (((Text.lines s).drop k).map String.toList) ++
            finalNewline s.toList) := by
        rw [String.toList_append, hread, hfeed]
    _ = ['\n'].intercalate ((Text.lines s).map String.toList) ++ finalNewline s.toList := by
        rw [← List.append_assoc, Text.flatMap_append_intercalate hleft, ← List.map_append,
          List.take_append_drop]
    _ = (String.ofList (unifyEnds s.toList)).toList := by
        rw [← (lined_lines s).unifyEnds_eq, String.toList_ofList]

theorem feed_ofString : (ofString s).feed = String.ofList (unifyEnds s.toList) := by
  by_cases hk : 0 < (Text.lines s).length
  · have hwhole := read_append_feed s 0 hk
    simpa [after, reads] using hwhole
  · have hnil : Text.lines s = [] := List.length_eq_zero_iff.1 (by omega)
    have hlined : Lined s.toList [] := by
      have hlines := lined_lines s
      rwa [hnil] at hlines
    have hfeed : (ofString s).feed = "" := by
      simp [feed_eq, unread, ofString, hnil]
    rw [hfeed, hlined.eq_nil]
    rfl

theorem feed_of_not_infix (h : ¬ ['\r', '\n'] <:+: s.toList) : (ofString s).feed = s := by
  rw [feed_ofString, Text.unifyEnds_of_not_infix h, String.ofList_toList]

theorem feed_of_printed (h : Number.Printed s.toList) : (ofString s).feed = s := by
  apply feed_of_not_infix
  intro hin
  have hreturn : Number.isPrinted '\r' = true := h _ (hin.subset List.mem_cons_self)
  cases hreturn

/-- Reads return the lines of the input in order and then nothing more, and what is fed at any
point is the rest of the input. Only `\r\n` comes out differently, as `\n`; so an input without it,
such as the text of a drawn value, is fed as it is. -/
theorem input_fed_without_loss :
    (∀ s : String,
      (∀ ls, Lined s.toList ls ↔ ls = (Text.lines s).map String.toList) ∧
      (ofString s).feed = String.ofList (unifyEnds s.toList) ∧
      (¬ ['\r', '\n'] <:+: s.toList → (ofString s).feed = s) ∧
      ∀ k : Nat,
        (reads k (ofString s)).1 = ((Text.lines s).take k).map some ++
          List.replicate (k - (Text.lines s).length) none ∧
        (after s k).position ≤ (after s k).lines.length ∧
        (after s k).remaining = (Text.lines s).length - min k (Text.lines s).length ∧
        (after s k).feed = "\n".intercalate ((Text.lines s).drop k) ++
          (if s.toList.getLast? = some '\n' ∧ k < (Text.lines s).length then "\n" else "") ∧
        (k < (Text.lines s).length →
          String.join (((Text.lines s).take k).map (· ++ "\n")) ++ (after s k).feed =
            String.ofList (unifyEnds s.toList))) ∧
    ∀ (limits : Draw.DrawLimits) (calls : List Chain.Call) (σ : Draw.Sampler),
      (Draw.Vocabulary.standard limits).evaluate calls = .ok σ →
      ∀ (source : Random.Source) (count : Nat) (v : Draw.Value),
        .ok v ∈ (Draw.Generator.mk σ σ.start source).results count →
          (ofString v.format).feed = v.format := by
  constructor
  · intro s
    refine ⟨?_, feed_ofString s, feed_of_not_infix s, ?_⟩
    · intro ls
      rw [Text.lined_iff, ← (lined_lines s).linesFrom_eq]
    · intro k
      have hafter := after_eq s k
      refine ⟨reads_ofString s k, ?_, ?_, feed_after s k, read_append_feed s k⟩
      · rw [hafter]
        exact Nat.min_le_right _ _
      · rw [hafter]
        rfl
  · intro limits calls σ hcalls source count v hv
    exact feed_of_printed _ (Draw.printed_of_mem_results hcalls hv)

/-- An input with both kinds of line ends, a carriage return inside a line and an empty line, after
one read. -/
theorem input_fed_without_loss_mixed :
    1 < (Text.lines "a\r\n\nb\rc\n").length ∧
      String.join (((Text.lines "a\r\n\nb\rc\n").take 1).map (· ++ "\n")) ++
        (after "a\r\n\nb\rc\n" 1).feed = "a\n\nb\rc\n" := by
  have hleft : 1 < (Text.lines "a\r\n\nb\rc\n").length := by decide
  obtain ⟨-, -, -, hreads⟩ := input_fed_without_loss.1 "a\r\n\nb\rc\n"
  obtain ⟨-, -, -, -, hwhole⟩ := hreads 1
  refine ⟨hleft, (hwhole hleft).trans ?_⟩
  decide

end Assay.Runner.StdinCursor
