import Assay.Files.Tree

/-!
Where a file tree has a directory after a directory was made, a file was written or something was
removed, and that making and writing keep its programs.
-/

namespace Assay.Files.Tree

variable {t t' : Tree} {p q : Path} {node : Node}

section Replace

variable {nodes : List (Path × Node)}

theorem lookup_replace_self (h : (nodes.lookup p).isSome) :
    (nodes.map fun e => if e.1 == p then (p, node) else e).lookup p = some node := by
  induction nodes with
  | nil => cases h
  | cons e nodes ih =>
    obtain ⟨k, other⟩ := e
    by_cases hk : k = p
    · subst hk
      simp
    · have hkey : (p == k) = false := beq_eq_false_iff_ne.mpr (Ne.symm hk)
      have hkept : (k == p) = false := beq_eq_false_iff_ne.mpr hk
      rw [List.lookup_cons, hkey] at h
      rw [List.map_cons, hkept, if_neg Bool.false_ne_true, List.lookup_cons, hkey]
      exact ih h

theorem lookup_replace_of_ne (hne : q ≠ p) :
    (nodes.map fun e => if e.1 == p then (p, node) else e).lookup q = nodes.lookup q := by
  induction nodes with
  | nil => rfl
  | cons e nodes ih =>
    obtain ⟨k, other⟩ := e
    by_cases hk : k = p
    · have hkey : (q == p) = false := beq_eq_false_iff_ne.mpr hne
      subst hk
      rw [List.map_cons, beq_self_eq_true, if_pos rfl, List.lookup_cons, List.lookup_cons, hkey]
      exact ih
    · have hkept : (k == p) = false := beq_eq_false_iff_ne.mpr hk
      rw [List.map_cons, hkept, if_neg Bool.false_ne_true, List.lookup_cons, List.lookup_cons, ih]

theorem lookup_within (p : Path) :
    (nodes.filter fun e => !isWithin p e.1).lookup p = none := by
  rw [List.lookup_eq_none_iff]
  rintro ⟨k, other⟩ hmem
  have hkept : isWithin p k = false := by simpa using (List.mem_filter.mp hmem).2
  rw [bne_iff_ne]
  rintro rfl
  have hself : isWithin p p = true := List.isPrefixOf_iff_prefix.mpr (List.prefix_refl p)
  rw [hself] at hkept
  cases hkept

end Replace

theorem find?_put_self (hp : p ≠ []) : (t.put p node).find? p = some node := by
  have hroot : p.isEmpty = false := by simpa using hp
  unfold find? put
  rw [hroot, if_neg Bool.false_ne_true]
  split
  · next h => exact lookup_replace_self h
  · next h =>
    have hnone : t.nodes.lookup p = none := by rwa [Option.not_isSome_iff_eq_none] at h
    rw [List.lookup_append, hnone, Option.none_or, List.lookup_cons, beq_self_eq_true]

theorem find?_put_of_ne (hne : q ≠ p) : (t.put p node).find? q = t.find? q := by
  have hkey : (q == p) = false := beq_eq_false_iff_ne.mpr hne
  unfold find? put
  split
  · rfl
  · split
    · exact lookup_replace_of_ne hne
    · rw [List.lookup_append, List.lookup_cons, hkey, List.lookup_nil, Option.or_none]

/-- Writing a file makes no directory and takes none away. -/
theorem isDirectory_write {content : List UInt8} (h : t.write p content = .ok t') (q : Path) :
    t'.isDirectory q = t.isDirectory q := by
  have hput : ∃ executable, t' = t.put p (.file content executable) ∧
      t.isDirectory p = false := by
    unfold write at h
    split at h
    · cases h
    · next executable hfile =>
      cases h
      exact ⟨executable, rfl, by rw [isDirectory, hfile]; rfl⟩
    · next hnone =>
      split at h
      · cases h
      · cases h
        exact ⟨false, rfl, by rw [isDirectory, hnone]; rfl⟩
  obtain ⟨executable, rfl, hbefore⟩ := hput
  by_cases hq : q = p
  · subst hq
    have hne : q ≠ [] := by
      rintro rfl
      cases hbefore
    rw [hbefore, isDirectory, find?_put_self hne]
    rfl
  · rw [isDirectory, isDirectory, find?_put_of_ne hq]

/-- Making directories on the way to a path makes one at the path. -/
theorem isDirectory_makeDirectories (h : t.makeDirectories p = .ok t') :
    t'.isDirectory p = true := by
  unfold makeDirectories at h
  rw [List.range_succ, List.foldl_append, List.foldl_cons, List.foldl_nil] at h
  split at h
  · cases h
  · next before _ =>
    rw [List.take_length] at h
    split at h
    · next hthere =>
      cases h
      rw [isDirectory, hthere]
      rfl
    · cases h
    · next hnone =>
      cases h
      have hne : p ≠ [] := by
        rintro rfl
        cases hnone
      rw [isDirectory, find?_put_self hne]
      rfl

/-- What is removed is there no more. -/
theorem isDirectory_removeAll (hp : p ≠ []) (h : t.removeAll p = .ok t') :
    t'.isDirectory p = false := by
  have hroot : p.isEmpty = false := by simpa using hp
  unfold removeAll at h
  split at h
  · cases h
  · cases h
    rw [isDirectory, find?, hroot, if_neg Bool.false_ne_true, lookup_within]
    rfl

/-- Making directories leaves alone what is there. -/
theorem find?_makeDirectories (h : t.find? q = some node) (hmake : t.makeDirectories p = .ok t') :
    t'.find? q = some node := by
  unfold makeDirectories at hmake
  let Keeps (result : Except SystemError Tree) : Prop :=
    ∀ t, result = .ok t → t.find? q = some node
  refine List.foldlRecOn (motive := Keeps) (List.range (p.length + 1)) _ ?_ ?_ t' hmake
  · intro first hfirst
    cases hfirst
    exact h
  · intro result hresult k _ made hmade
    cases result with
    | error e => cases hmade
    | ok before =>
      have hbefore := hresult before rfl
      dsimp only at hmade
      split at hmade
      · exact hresult made hmade
      · cases hmade
      · next hnone =>
        cases hmade
        rw [find?_put_of_ne, hbefore]
        rintro rfl
        rw [hnone] at hbefore
        cases hbefore

section Follow

variable {here : Path} {name : String} {names : List String}

theorem locate_of_isDirectory (h : t.isDirectory p = true) : t.locate p = .ok .directory := by
  rw [locate, eq_of_beq h]

/-- An empty name, such as the one before a leading slash, leads nowhere else. -/
theorem follow_empty (h : t.isDirectory here = true) :
    t.follow here ("" :: names) = t.follow here names := by
  rw [follow, locate_of_isDirectory h]
  exact if_pos (.inl rfl)

theorem follow_name (h : t.isDirectory here = true) (hdots : name ∉ ["", "."])
    (hup : name ≠ "..") (hsize : name.utf8ByteSize ≤ 255) :
    t.follow here (name :: names) = t.follow (here ++ [name]) names := by
  have hplain : ¬ (name = "" ∨ name = ".") := by simpa using hdots
  rw [follow, locate_of_isDirectory h]
  dsimp only
  rw [if_neg hplain, if_neg hup, if_neg (by omega)]

end Follow

/-- There is a file at the path that can be executed. -/
def HasProgram (t : Tree) (p : Path) : Prop := ∃ content, t.find? p = some (.file content true)

/-- Writing a file leaves the other programs alone, and a program that is written over is still
one. -/
theorem HasProgram.write {content : List UInt8} (h : t.HasProgram p)
    (hwrite : t.write q content = .ok t') : t'.HasProgram p := by
  obtain ⟨old, hp⟩ := h
  unfold Tree.write at hwrite
  split at hwrite
  · cases hwrite
  · next executable hfile =>
    cases hwrite
    by_cases hpq : p = q
    · subst hpq
      have hne : p ≠ [] := by
        rintro rfl
        cases hp
      rw [hp] at hfile
      cases hfile
      exact ⟨content, find?_put_self hne⟩
    · exact ⟨old, (find?_put_of_ne hpq).trans hp⟩
  · next hnone =>
    split at hwrite
    · cases hwrite
    · cases hwrite
      have hpq : p ≠ q := by
        rintro rfl
        rw [hp] at hnone
        cases hnone
      exact ⟨old, (find?_put_of_ne hpq).trans hp⟩

end Assay.Files.Tree
