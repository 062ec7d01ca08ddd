import Assay.Proofs.Files.Tree
import Assay.Runner.CommandRunner
import Assay.Runner.WorkDirectory
import Mathlib.Data.List.Induction

/-!
Work directories leak in one case only: the execution is dropped while it waits for its directory,
when the pool still makes it and there is no handle that would remove it. What a task is said to
leave is what it leaves in a file tree.
-/

namespace Assay.Runner.WorkDirectory

variable {s t : State} {place : Nat} {event : Event} {events : List Event} {lost : Prop}

/-- Among the events, the execution is dropped while it waits for its directory. -/
def DroppedWhileMaking (events : List Event) : Prop :=
  ∃ before after s, events = before ++ .drop :: after ∧ State.initial.steps before = some s ∧
    s.phase = .making

/-- The states that events lead to. `lost` says whether the execution was dropped while it waited
for its directory. -/
inductive Sound (lost : Prop) : State → Prop where
  | starting : ¬ lost → Sound lost ⟨.starting, none, [], false⟩
  | asked : ¬ lost → Sound lost ⟨.making, none, [.make], false⟩
  | made : ¬ lost → Sound lost ⟨.making, none, [], true⟩
  | unwritten : ¬ lost → Sound lost ⟨.writing, some false, [.write], true⟩
  | written : ¬ lost → Sound lost ⟨.writing, some false, [], true⟩
  | running : ¬ lost → Sound lost ⟨.running, some false, [], true⟩
  | givenUp : ¬ lost → Sound lost ⟨.removing, some true, [.remove], true⟩
  | removed : ¬ lost → Sound lost ⟨.removing, some true, [], false⟩
  | ended (tasks : List Task) (present : Bool) : ¬ lost → .make ∉ tasks →
      (present = true → .remove ∈ tasks) → Sound lost ⟨.over, none, tasks, present⟩
  | leaking : lost → Sound lost ⟨.over, none, [.make], false⟩
  | leaked : lost → Sound lost ⟨.over, none, [], true⟩

theorem exists_of_work (h : s.work place = some t) : ∃ task, s.tasks[place]? = some task ∧
    t = { s with tasks := s.tasks.eraseIdx place, present := task.leaves s.present } := by
  obtain ⟨task, htask, ht⟩ := Option.map_eq_some_iff.1 h
  exact ⟨task, htask, ht.symm⟩

/-- A single task can only be done first. -/
theorem eq_of_work_singleton {task : Task} (htasks : s.tasks = [task]) (h : s.work place = some t) :
    t = { s with tasks := [], present := task.leaves s.present } := by
  obtain ⟨task', htask', rfl⟩ := exists_of_work h
  rw [htasks] at htask' ⊢
  cases place with
  | zero =>
    rw [Option.some.inj htask']
    rfl
  | succ place => cases htask'

theorem not_work_nil (htasks : s.tasks = []) : s.work place ≠ some t := by
  intro h
  obtain ⟨task, htask, -⟩ := exists_of_work h
  rw [htasks] at htask
  cases htask

theorem Sound.work (hs : Sound lost s) (h : s.work place = some t) : Sound lost t := by
  cases hs with
  | starting | made | written | running | removed | leaked => exact absurd h (not_work_nil rfl)
  | asked hlost =>
    rw [eq_of_work_singleton rfl h]
    exact .made hlost
  | unwritten hlost =>
    rw [eq_of_work_singleton rfl h]
    exact .written hlost
  | givenUp hlost =>
    rw [eq_of_work_singleton rfl h]
    exact .removed hlost
  | leaking hlost =>
    rw [eq_of_work_singleton rfl h]
    exact .leaked hlost
  | ended tasks present hlost hmake hpresent =>
    obtain ⟨task, htask, rfl⟩ := exists_of_work h
    refine .ended _ _ hlost (fun hmem => hmake (List.mem_of_mem_eraseIdx hmem)) ?_
    cases task with
    | make => exact absurd (List.mem_of_getElem? htask) hmake
    | remove => nofun
    | write =>
      -- The removal is still pending, because it was another task that was done.
      intro hleft
      obtain ⟨i, hi⟩ := List.mem_iff_getElem?.1 (hpresent hleft)
      refine List.mem_eraseIdx_iff_getElem?.2 ⟨i, ?_, hi⟩
      rintro rfl
      cases htask.symm.trans hi

theorem Sound.proceed (hs : Sound lost s) (h : s.proceed = some t) : Sound lost t := by
  cases hs with
  | starting hlost =>
    cases h
    exact .asked hlost
  | made hlost =>
    cases h
    exact .unwritten hlost
  | written hlost =>
    cases h
    exact .running hlost
  | running hlost =>
    cases h
    exact .givenUp hlost
  | removed hlost =>
    cases h
    exact .ended _ _ hlost nofun nofun
  | asked | unwritten | givenUp | ended | leaking | leaked => cases h

/-- Dropping hands over the removal exactly if there is a handle that has not given up the
directory. There is none yet while the directory is made. -/
theorem Sound.drop (hs : Sound lost s) (h : s.drop = some t) :
    Sound (lost ∨ s.phase = .making) t := by
  cases hs with
  | asked hlost =>
    cases h
    exact .leaking (.inr rfl)
  | made hlost =>
    cases h
    exact .leaked (.inr rfl)
  | ended | leaking | leaked => cases h
  | starting hlost =>
    cases h
    exact .ended _ _ (by simpa using hlost) (by simp) (by simp)
  | unwritten hlost | written hlost | running hlost | givenUp hlost | removed hlost =>
    cases h
    exact .ended _ _ (by simpa using hlost) (by simp) (by simp)

theorem Sound.step (hs : Sound lost s) (h : s.step event = some t) :
    Sound (lost ∨ (event = .drop ∧ s.phase = .making)) t := by
  cases event with
  | work place => simpa using hs.work h
  | proceed => simpa using hs.proceed h
  | drop => simpa using hs.drop h

theorem steps_append_singleton (s : State) (events : List Event) (event : Event) :
    s.steps (events ++ [event]) = (s.steps events).bind fun t => t.step event := by
  simp [State.steps, List.foldlM_append]

theorem droppedWhileMaking_append_singleton (h : State.initial.steps events = some s) :
    DroppedWhileMaking (events ++ [event]) ↔
      DroppedWhileMaking events ∨ (event = .drop ∧ s.phase = .making) := by
  constructor
  · rintro ⟨before, after, t, hsplit, ht, hphase⟩
    rcases List.eq_nil_or_concat after with rfl | ⟨after, last, rfl⟩
    · obtain ⟨rfl, hlast⟩ := List.append_inj' hsplit rfl
      cases h.symm.trans ht
      exact .inr ⟨List.singleton_inj.1 hlast, hphase⟩
    · have hsplit' : events ++ [event] = (before ++ .drop :: after) ++ [last] := by
        simpa using hsplit
      obtain ⟨hevents, -⟩ := List.append_inj' hsplit' rfl
      exact .inl ⟨before, after, t, hevents, ht, hphase⟩
  · rintro (⟨before, after, t, rfl, ht, hphase⟩ | ⟨rfl, hphase⟩)
    · exact ⟨before, after ++ [event], t, by simp, ht, hphase⟩
    · exact ⟨events, [], s, rfl, h, hphase⟩

/-- Whatever happens in whatever order, the state is sound. -/
theorem sound_steps (h : State.initial.steps events = some s) :
    Sound (DroppedWhileMaking events) s := by
  induction events using List.reverseRecOn generalizing s with
  | nil =>
    cases h
    refine .starting ?_
    rintro ⟨before, after, t, hsplit, -⟩
    simp at hsplit
  | append_singleton events event ih =>
    rw [steps_append_singleton] at h
    obtain ⟨t, ht, hstep⟩ := Option.bind_eq_some_iff.1 h
    rw [propext (droppedWhileMaking_append_singleton ht)]
    exact (ih ht).step hstep

/-- The pool can do everything that it was handed, whatever the execution does. -/
theorem steps_drain (s : State) :
    s.steps (List.replicate s.tasks.length (.work 0)) = some s.drain := by
  obtain ⟨phase, removed, tasks, present⟩ := s
  induction tasks generalizing present with
  | nil => rfl
  | cons task tasks ih => exact ih (task.leaves present)

theorem foldl_leaves {tasks : List Task} {present : Bool} (hmake : .make ∉ tasks)
    (hremove : present = true → .remove ∈ tasks) : tasks.foldl Task.leaves present = false := by
  induction tasks generalizing present with
  | nil =>
    cases present with
    | false => rfl
    | true => cases hremove rfl
  | cons task tasks ih =>
    have hrest : .make ∉ tasks := fun hmem => hmake (List.mem_cons_of_mem _ hmem)
    cases task with
    | make => exact absurd List.mem_cons_self hmake
    | write => exact ih hrest fun hpresent => by simpa using hremove hpresent
    | remove => exact ih hrest nofun

theorem Sound.present_drain (hs : Sound lost s) (hover : s.phase = .over) :
    s.drain.present = true ↔ lost := by
  cases hs with
  | starting | asked | made | unwritten | written | running | givenUp | removed => cases hover
  | leaking hlost | leaked hlost => exact iff_of_true rfl hlost
  | ended tasks present hlost hmake hremove =>
    have hdrained : tasks.foldl Task.leaves present = false := foldl_leaves hmake hremove
    exact iff_of_false (fun hpresent => by cases hdrained.symm.trans hpresent) hlost

section Files

open Files (Path Tree)

variable {path : Path} {files files' : Tree}

/-- What a task does to a file tree, for a directory at `path`. -/
inductive Task.Does (path : Path) : Task → Tree → Tree → Prop where
  | make {files files' : Tree} (h : files.makeDirectories path = .ok files') :
      Does path .make files files'
  | write {files files' : Tree} {source : Path} {content : List UInt8}
      (h : files.write source content = .ok files') : Does path .write files files'
  | remove {files files' : Tree} (h : files.removeAll path = .ok files') :
      Does path .remove files files'

/-- What several tasks do, one after another. -/
inductive DoneAll (path : Path) : List Task → Tree → Tree → Prop where
  | nil (files : Tree) : DoneAll path [] files files
  | cons {task : Task} {tasks : List Task} {files between files' : Tree}
      (h : task.Does path files between) (hrest : DoneAll path tasks between files') :
      DoneAll path (task :: tasks) files files'

theorem Task.Does.isDirectory_eq {task : Task} (hpath : path ≠ [])
    (h : task.Does path files files') :
    files'.isDirectory path = task.leaves (files.isDirectory path) := by
  cases h with
  | make h => exact Tree.isDirectory_makeDirectories h
  | write h => exact Tree.isDirectory_write h path
  | remove h => exact Tree.isDirectory_removeAll hpath h

theorem DoneAll.isDirectory_eq {tasks : List Task} (hpath : path ≠ [])
    (h : DoneAll path tasks files files') :
    files'.isDirectory path = tasks.foldl Task.leaves (files.isDirectory path) := by
  induction h with
  | nil => rfl
  | cons h _ ih => rw [ih, h.isDirectory_eq hpath, List.foldl_cons]

/-- When the pool has done its work, the directory is there if it is in the state. -/
theorem DoneAll.present_drain (hpath : path ≠ []) (hpresent : s.present = files.isDirectory path)
    (h : DoneAll path s.tasks files files') : s.drain.present = files'.isDirectory path := by
  rw [h.isDirectory_eq hpath, ← hpresent]
  rfl

theorem exists_of_prepare {r : CommandRunner} {host : Host} {code : String}
    (h : r.prepare host code = .ok files) :
    ∃ made source, host.files.makeDirectories (r.workDirectory host) = .ok made ∧
      made.write source (Text.Utf8.encode code) = .ok files := by
  unfold CommandRunner.prepare at h
  dsimp only at h
  split at h
  · cases h
  · next made hmake =>
    split at h
    · cases h
    · next source _ =>
      cases hwrite : made.write source (Text.Utf8.encode code) with
      | error e =>
        rw [hwrite] at h
        cases h
      | ok written =>
        rw [hwrite] at h
        cases h
        exact ⟨made, source, hmake, hwrite⟩

/-- Before the programs of an execution run, its directory was made and its source file written. -/
theorem doneAll_prepare {r : CommandRunner} {host : Host} {code : String}
    (h : r.prepare host code = .ok files) :
    DoneAll (r.workDirectory host) [.make, .write] host.files files := by
  obtain ⟨made, source, hmake, hwrite⟩ := exists_of_prepare h
  exact .cons (.make hmake) (.cons (.write hwrite) (.nil _))

namespace Handle

variable {h : Handle} {root : Path} {name : String}

theorem create_eq_ok (hcreate : create files root name = .ok (h, files')) :
    h.path = root ++ [name] ∧ h.removed = false ∧ Task.make.Does h.path files files' := by
  unfold create at hcreate
  dsimp only at hcreate
  split at hcreate
  · cases hcreate
  · next hmake =>
    cases hcreate
    exact ⟨rfl, rfl, .make hmake⟩

/-- A directory that was given up is not removed again. -/
theorem letGo_of_removed (hremoved : h.removed = true) : h.letGo files = (files, h) :=
  if_pos hremoved

/-- A directory that was made is removed when its handle is let go of, which gives it up. -/
theorem letGo_of_create (hcreate : create files root name = .ok (h, files')) :
    Task.remove.Does h.path files' (h.letGo files').1 ∧ (h.letGo files').2.removed = true := by
  obtain ⟨hpath, hremoved, hmake⟩ := create_eq_ok hcreate
  have hdirectory : files'.isDirectory h.path = true := hmake.isDirectory_eq (by simp [hpath])
  have hfound : files'.find? h.path = some .directory := eq_of_beq hdirectory
  obtain ⟨rest, hrest⟩ : ∃ rest, files'.removeAll h.path = .ok rest := by
    unfold Tree.removeAll Tree.locate
    rw [hfound]
    exact ⟨_, rfl⟩
  have hgone : h.letGo files' = (rest, { h with removed := true }) := by
    rw [letGo, hremoved, hrest]
    rfl
  rw [hgone]
  exact ⟨.remove hrest, rfl⟩

/-- Removing a directory gives it up, so letting go of the handle then changes nothing. -/
theorem letGo_remove (h : Handle) (files files' : Tree) :
    ((h.remove files).2.letGo files').1 = files' := by
  rw [letGo_of_removed rfl]

end Handle

end Files

/-- A directory that is there is held by a handle or going to be removed, unless the execution has
no handle yet. So an execution that is over leaves nothing behind when the pool has done its work,
in any order, except if it was dropped while it waited for its directory; then it always does. -/
theorem leaks_if_dropped_while_making (events : List Event) (s : State)
    (h : State.initial.steps events = some s) :
    (s.present = true → s.removed = some false ∨ .remove ∈ s.tasks ∨ s.phase = .making ∨
      (s.phase = .over ∧ DroppedWhileMaking events)) ∧
    (s.phase = .over → s.tasks = [] → (s.present = true ↔ DroppedWhileMaking events)) ∧
    (s.phase = .over → (leavesNothing events = true ↔ ¬ DroppedWhileMaking events)) ∧
    ∃ count, s.steps (List.replicate count (.work 0)) = some s.drain := by
  have hsound := sound_steps h
  refine ⟨?_, ?_, ?_, s.tasks.length, steps_drain s⟩
  · intro hpresent
    cases hsound with
    | starting | asked | removed | leaking => cases hpresent
    | made => exact .inr (.inr (.inl rfl))
    | unwritten | written | running => exact .inl rfl
    | givenUp => exact .inr (.inl List.mem_cons_self)
    | ended tasks present hlost hmake hremove => exact .inr (.inl (hremove hpresent))
    | leaked hlost => exact .inr (.inr (.inr ⟨rfl, hlost⟩))
  · intro hover htasks
    have hdrain : s.drain.present = s.present := by simp [State.drain, htasks]
    rw [← hdrain]
    exact hsound.present_drain hover
  · intro hover
    have hleaves : leavesNothing events = !s.drain.present := by simp [leavesNothing, h, hover]
    rw [hleaves, ← hsound.present_drain hover, Bool.not_eq_true', Bool.not_eq_true]

/-- The worker makes the directory after the execution was dropped. -/
theorem leaks_if_dropped_while_making_late :
    ∃ s, State.initial.steps (droppedInMaking ++ [.work 0]) = some s ∧
      (s.present = true ↔ DroppedWhileMaking (droppedInMaking ++ [.work 0])) := by
  refine ⟨⟨.over, none, [], true⟩, rfl, ?_⟩
  obtain ⟨-, hleft, -, -⟩ := leaks_if_dropped_while_making (droppedInMaking ++ [.work 0])
    ⟨.over, none, [], true⟩ rfl
  exact hleft rfl rfl

/-- An execution that is over, a pool that has nothing left to do, and a directory. -/
theorem exists_leak : ∃ s, State.initial.steps (droppedInMaking ++ [.work 0]) = some s ∧
    s.phase = .over ∧ s.tasks = [] ∧ s.present = true :=
  ⟨⟨.over, none, [], true⟩, rfl, rfl, rfl, rfl⟩

end Assay.Runner.WorkDirectory
