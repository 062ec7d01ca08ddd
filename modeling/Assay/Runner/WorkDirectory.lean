import Assay.Files.Tree

/-!
The life of a work directory: made for one execution and removed after it, also when the execution
is dropped on the way. Making and removing are tasks of a pool of workers, which finishes what it
was handed even if nobody waits for it any more.
-/

namespace Assay.Runner.WorkDirectory

open Files (Path SystemError Tree)

/-- What the pool can be handed. -/
inductive Task where
  | make
  /-- Write the source file. -/
  | write
  | remove
  deriving DecidableEq, Repr

/-- How far the execution has come. -/
inductive Phase where
  | starting
  /-- It waits for its directory and has no handle on it yet. -/
  | making
  /-- It waits for its source file. -/
  | writing
  /-- Its programs run. -/
  | running
  /-- It waits for the removal. -/
  | removing
  /-- It has returned or was dropped. -/
  | over
  deriving DecidableEq, Repr

/-- An execution, the pool, and whether the directory is there. -/
structure State where
  phase : Phase
  /-- Whether the handle has given up the directory, as long as there is a handle. -/
  removed : Option Bool
  /-- Tasks that the pool was handed and has not done. -/
  tasks : List Task
  present : Bool
  deriving DecidableEq, Repr

def State.initial : State := ⟨.starting, none, [], false⟩

/-- What can happen next. -/
inductive Event where
  /-- A worker of the pool does one of the tasks. -/
  | work (place : Nat)
  /-- The execution goes on. -/
  | proceed
  /-- The execution is dropped, because its time is over. -/
  | drop
  deriving DecidableEq, Repr

/-- Whether the directory is there after a task, if `present` says whether it was before. -/
def Task.leaves (present : Bool) : Task → Bool
  | .make => true
  | .write => present
  | .remove => false

namespace State

/-- A worker does the task at a place. Tasks that are pending together are done in any order. -/
def work (s : State) (place : Nat) : Option State :=
  s.tasks[place]?.map fun task =>
    { s with tasks := s.tasks.eraseIdx place, present := task.leaves s.present }

/-- The execution goes on, as soon as nothing keeps it waiting. The handle comes to exist when the
making is over; the one that waits for the removal has given up the directory. -/
def proceed (s : State) : Option State :=
  match s.phase with
  | .starting => some { s with phase := .making, tasks := s.tasks ++ [.make] }
  | .making =>
    if s.tasks.contains .make then none
    else some { s with phase := .writing, removed := some false, tasks := s.tasks ++ [.write] }
  | .writing => if s.tasks.contains .write then none else some { s with phase := .running }
  | .running =>
    some { s with phase := .removing, removed := some true, tasks := s.tasks ++ [.remove] }
  | .removing =>
    if s.tasks.contains .remove then none else some { s with phase := .over, removed := none }
  | .over => none

/-- The execution is dropped. A handle that has not given up the directory hands over its removal. -/
def drop (s : State) : Option State :=
  if s.phase = .over then none
  else
    let tasks := if s.removed = some false then s.tasks ++ [.remove] else s.tasks
    some { s with phase := .over, removed := none, tasks }

/-- The state after an event, if the event can happen. -/
def step (s : State) : Event → Option State
  | .work place => s.work place
  | .proceed => s.proceed
  | .drop => s.drop

/-- The state after several events, if they can happen in this order. -/
def steps (s : State) (events : List Event) : Option State := events.foldlM step s

/-- The pool does everything that it was handed. -/
def drain (s : State) : State :=
  { s with tasks := [], present := s.tasks.foldl Task.leaves s.present }

end State

/-- An execution that is dropped before it takes hold of the directory that it asked for. -/
def droppedInMaking : List Event := [.proceed, .drop]

/-- Whether nothing is left of an execution when it is over and the pool has done its work. -/
def leavesNothing (events : List Event) : Bool :=
  match State.initial.steps events with
  | some s => s.phase == .over && !s.drain.present
  | none => false

/-- A directory in a file tree, held by an execution or given up. -/
structure Handle where
  path : Path
  removed : Bool
  deriving DecidableEq, Repr

namespace Handle

/-- Make a directory of a new name under `root`. -/
def create (files : Tree) (root : Path) (name : String) : Except SystemError (Handle × Tree) :=
  let path := root ++ [name]
  match files.makeDirectories path with
  | .error e => .error e
  | .ok files => .ok (⟨path, false⟩, files)

/-- Remove the directory and everything in it. Whatever comes of it, it is not tried again. -/
def remove (h : Handle) (files : Tree) : Except SystemError Tree × Handle :=
  (files.removeAll h.path, { h with removed := true })

/-- Let go of the directory: it is removed, unless that was done before. -/
def letGo (h : Handle) (files : Tree) : Tree × Handle :=
  if h.removed then (files, h)
  else ((files.removeAll h.path).toOption.getD files, { h with removed := true })

end Handle

end Assay.Runner.WorkDirectory
