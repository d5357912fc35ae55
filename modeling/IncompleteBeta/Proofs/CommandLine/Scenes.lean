/-
**Programs over a tree of files.**

What a program does over a scene is told step by step: a step that goes well is followed by the
rest of the program, over the scene that it leaves, and a step that breaks off by nothing.

* `run_bind_ok`, `run_bind_error`: a step, and what comes after it;
* `broken`, `over_perform_ok`, `over_perform_error`: what a command leaves behind;
* `over_perform_wording`: the wording of faults in texts does not matter;
* `writeTo`, **`run_save`**: outputs;
* `verifyAll_cons`: one file, and those after it.
-/

import IncompleteBeta.CommandLine.Run

namespace IncompleteBeta.CommandLine

open Files (FileTree)

/-! ### Steps -/

section Steps

variable {α β : Type} {act : ExceptT RunFault (StateM Scene) α}
  {next : α → ExceptT RunFault (StateM Scene) β} {scene later : Scene}

theorem run_bind (act : ExceptT RunFault (StateM Scene) α)
    (next : α → ExceptT RunFault (StateM Scene) β) (scene : Scene) :
    (act >>= next).run scene =
      match act.run scene with
      | (.ok value, later) => (next value).run later
      | (.error fault, later) => (.error fault, later) := by
  show (match act.run scene with | (outcome, later) => ExceptT.bindCont next outcome later) = _
  rcases act.run scene with ⟨⟨⟩, later⟩ <;> rfl

theorem run_bind_ok {value : α} (done : act.run scene = (.ok value, later)) :
    (act >>= next).run scene = (next value).run later := by
  rw [run_bind, done]

theorem run_bind_error {fault : RunFault} (breaks : act.run scene = (.error fault, later)) :
    (act >>= next).run scene = (.error fault, later) := by
  rw [run_bind, breaks]

theorem run_lift (act : StateM Scene α) (scene : Scene) :
    (liftM act : ExceptT RunFault (StateM Scene) α).run scene =
      let (value, later) := act scene
      (.ok value, later) := rfl

theorem run_except (outcome : Except RunFault α) (scene : Scene) :
    (liftM outcome : ExceptT RunFault (StateM Scene) α).run scene = (outcome, scene) := rfl

end Steps

/-! ### Commands -/

/-- A run that broke off over a tree, after something was said. -/
def broken (wording : Wording) (said : String) (fault : RunFault) (tree : FileTree) : Result :=
  { exit := 1
    output := ""
    errors := said ++ ("Error: " ++ fault.describe wording ++ "\n")
    tree }

section Commands

variable (timing : Nat → Clock × Nat) (wording : Wording) {tree : FileTree} {later : Scene}
  {command : ExceptT RunFault (StateM Scene) Bool}

theorem perform_eq (scene : Scene) : (Host.ofTree timing).perform wording command scene =
    let (outcome, later) := command.run scene
    (Host.ofTree timing).conclude wording outcome later := rfl

theorem over_perform_ok {succeeded : Bool} (done : command.run { tree } = (.ok succeeded, later)) :
    Result.over tree ((Host.ofTree timing).perform wording command) =
      { exit := if succeeded then 0 else 1
        output := later.output
        errors := later.errors
        tree := later.tree } := by
  rw [Result.over, perform_eq, done]
  rfl

theorem over_perform_error {fault : RunFault} {left : FileTree} {said : String} {timed : Nat}
    (breaks : command.run { tree } = (.error fault, { tree := left, errors := said, timed })) :
    Result.over tree ((Host.ofTree timing).perform wording command) =
      broken wording said fault left := by
  rw [Result.over, perform_eq, breaks]
  rfl

/-- **The wording of faults in texts changes what is told of them**, and nothing else. -/
theorem over_perform_wording (wording other : Wording) (tree : FileTree)
    (command : ExceptT RunFault (StateM Scene) Bool) :
    ∃ errors, Result.over tree ((Host.ofTree timing).perform wording command) =
      { Result.over tree ((Host.ofTree timing).perform other command) with errors } := by
  rw [Result.over, Result.over, perform_eq, perform_eq]
  rcases command.run { tree } with ⟨_ | _, _⟩ <;> exact ⟨_, rfl⟩

end Commands

/-! ### Outputs -/

/-- What writing an output makes of a tree, if it is asked for. -/
def writeTo (tree : FileTree) (output : Option PathName) (text : String) :
    Except RunFault FileTree :=
  match output with
  | none => .ok tree
  | some path => (tree.write path (Text.utf8Bytes text)).mapError .output

section Outputs

variable (timing : Nat → Clock × Nat) {scene : Scene} {tree : FileTree}
  {output : Option PathName} {text : String} {fault : RunFault}

theorem run_save (timing : Nat → Clock × Nat) (output : Option PathName) (text : String)
    (scene : Scene) :
    ((Host.ofTree timing).save output text).run scene =
      match writeTo scene.tree output text with
      | .ok tree => (.ok (), { scene with tree })
      | .error fault => (.error fault, scene) := by
  cases output with
  | none => rfl
  | some path =>
    have asked : ((Host.ofTree timing).save (some path) text).run scene =
        let (outcome, later) := (Host.ofTree timing).write path (Text.utf8Bytes text) scene
        (outcome.mapError .output, later) := rfl
    rw [asked]
    simp only [Host.ofTree, writeTo]
    cases scene.tree.write path (Text.utf8Bytes text) <;> rfl

end Outputs

/-! ### Files -/

/-- A directory is listed, and the scene is left as it is. -/
theorem run_listing (timing : Nat → Clock × Nat) (fixture : PathName) (scene : Scene) :
    ((Host.ofTree timing).listing fixture).run scene =
      (.ok (scene.tree.listing fixture), scene) := rfl

/-- **One file, and those after it.** -/
theorem verifyAll_cons (timing : Nat → Clock × Nat) (path : PathName) (rest : List PathName)
    (run : Verification) (scene : Scene) :
    (Host.ofTree timing).verifyAll (path :: rest) run scene =
      match verifyFile path (scene.tree.read path) with
      | .error fault => ((run, some (.load fault)), { scene with timed := scene.timed + 1 })
      | .ok report =>
        let (clock, elapsed) := timing scene.timed
        (Host.ofTree timing).verifyAll rest (run.record clock elapsed report)
          { scene with
            errors := scene.errors ++ reportLines path report
            timed := scene.timed + 1 } := by
  rw [Host.verifyAll]
  show (match verifyFile path (scene.tree.read path) with
    | .error fault => _
    | .ok report => _ : StateM Scene (Verification × Option RunFault)) _ = _
  cases verifyFile path (scene.tree.read path) <;> rfl

end IncompleteBeta.CommandLine
