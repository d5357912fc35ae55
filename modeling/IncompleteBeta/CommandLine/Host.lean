/-
**What the commands ask of the system they run on.**

* `Host`: the operations on files, on the two streams and on the clock, in any monad;
* `Scene`: a tree of files, and what has been printed;
* `Host.ofTree`: these operations on a scene.
-/

import IncompleteBeta.Files.Tree
import IncompleteBeta.Time.Clock

namespace IncompleteBeta.CommandLine

open Files (FileTree)

/-- A system that commands run on. -/
structure Host (m : Type → Type) where
  /-- The names in the directory at a path, if a directory stands there. -/
  list : PathName → m (Except SystemFault (Option (List FileName)))
  read : PathName → m Content
  /-- Write a file from its start. -/
  write : PathName → List UInt8 → m (Except SystemFault Unit)
  /-- Write to the standard output. -/
  print : String → m Unit
  /-- Write to the standard error. -/
  say : String → m Unit
  /-- Do something, and tell when it was done and how many milliseconds it took. -/
  timed : {α : Type} → m α → m (α × Clock × Nat)

/-- A tree of files, and what has been printed over it. -/
structure Scene where
  tree : FileTree
  output : String := ""
  errors : String := ""
  /-- How often something was timed. -/
  timed : Nat := 0

/-- The system that is a tree of files. What is timed as number `n` is done at the time and in the
milliseconds that `timing n` tells. -/
def Host.ofTree (timing : Nat → Clock × Nat) : Host (StateM Scene) where
  list path := fun scene => (.ok (scene.tree.listing path), scene)
  read path := fun scene => (scene.tree.read path, scene)
  write path bytes := fun scene =>
    match scene.tree.write path bytes with
    | .ok tree => (.ok (), { scene with tree })
    | .error fault => (.error fault, scene)
  print text := fun scene => ((), { scene with output := scene.output ++ text })
  say text := fun scene => ((), { scene with errors := scene.errors ++ text })
  timed act := fun scene =>
    let (done, scene) := act scene
    ((done, timing scene.timed), { scene with timed := scene.timed + 1 })

end IncompleteBeta.CommandLine
