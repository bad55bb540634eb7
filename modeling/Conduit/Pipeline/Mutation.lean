import Conduit.Pipeline.Context

/-!
# Changing a Pipeline

Handlers come and go while a pipeline is at work. Each learns of it through four
hooks, and each hook may object by failing. An objection before the change
prevents it. An objection after an addition takes the handler out again, which
the handler may object to in turn; any other objection after the change comes
too late and is only reported.

Everything that can be checked is checked before the first hook is called. Hooks
may change the pipeline themselves, so what was checked is checked again before
it is relied on.

A handler at either end is replaced by removing it and adding the other one at
that end. Elsewhere the two change places in one step.

## Main definitions

* `World.add`: Adds a handler.
* `World.remove`, `World.removeFirst`, `World.removeLast`, `World.removeHandler`:
  Take one out.
* `World.replace`: Puts one in the place of another.
-/

namespace Conduit.World

variable {σ : Type}

/-- Fails if a name cannot be that of a handler. -/
def checkName (name : String) : Except Error Unit :=
  if name.isEmpty then .error (.argument .emptyName) else .ok ()

/-- Fails if a handler asks to see nothing. -/
def checkEvents (h : Handler) : Except Error Unit :=
  if h.events.isInbound || h.events.isOutbound then .ok ()
  else .error (.argument (.noEvents h.typeName))

/-- Makes a context that is not linked yet. -/
def newContext (w : World σ) (p : PipelineId) (name : String) (h : Handler) :
    ContextId × World σ :=
  (w.contexts.length,
    { w with contexts := w.contexts ++ [{ pipeline := p, name, handler := h }] })

/-- Calls a hook of the handler of a context. -/
def callHook (w : World σ) (call : Caller σ) (c : ContextId) (hook : Hook) :
    Outcome × World σ :=
  call (.handler c (.hook hook)) w

/-- The type of the handler of a context. -/
def handlerType (w : World σ) (c : ContextId) : String := (w.context c).handler.typeName

/-- Marks a context as one that has been unlinked. -/
def markRemoved (w : World σ) (c : ContextId) : World σ :=
  w.updateContext c ({ · with removed := true })

/-! ### Taking a handler out -/

/-- Unlinks a context, unless its handler objects or it is not linked any more. -/
def removeContext (w : World σ) (call : Caller σ) (p : PipelineId) (c : ContextId) :
    Outcome × World σ :=
  match w.callHook call c .beforeRemove with
  | (.error cause, w) => (.error (.lifecycle (.notRemoved (w.handlerType c)) cause), w)
  | (.ok _, w) =>
    -- The hook may have removed its own handler already.
    let (linked, chain) := (w.chain p).unlink c
    let w := w.setChain p chain
    if !linked then (.error (.noSuchElement (.named (w.context c).name)), w)
    else
      match (w.markRemoved c).callHook call c .afterRemove with
      | (.error cause, w) => (.error (.lifecycle (.late (w.handlerType c) .afterRemove) cause), w)
      | (.ok _, w) => (.ok (), w)

/-- Removes a context that was looked for, and says which; fails with `absence` if
    there is none. -/
def removeFound (w : World σ) (call : Caller σ) (p : PipelineId) (found : Option ContextId)
    (absence : AbsenceFault) : Except Error ContextId × World σ :=
  match found with
  | none => (.error (.noSuchElement absence), w)
  | some c =>
    let (outcome, w) := w.removeContext call p c
    (outcome.map fun _ => c, w)

/-- Removes the handler with a name. -/
def remove (w : World σ) (call : Caller σ) (p : PipelineId) (name : String) :
    Except Error ContextId × World σ :=
  w.removeFound call p ((w.chain p).find? name) (.named name)

/-- Removes the handler at the head. -/
def removeFirst (w : World σ) (call : Caller σ) (p : PipelineId) :
    Except Error ContextId × World σ :=
  w.removeFound call p (w.chain p).head .emptyPipeline

/-- Removes the handler at the tail. -/
def removeLast (w : World σ) (call : Caller σ) (p : PipelineId) :
    Except Error ContextId × World σ :=
  w.removeFound call p (w.chain p).tail .emptyPipeline

/-- Removes the handler of a context, wherever it is linked. -/
def removeHandler (w : World σ) (call : Caller σ) (p : PipelineId) (c : ContextId) :
    Except Error ContextId × World σ :=
  w.removeFound call p ((w.chain p).toList.find? (· == c)) (.named (w.handlerType c))

/-! ### Putting a handler in -/

/-- Takes out a context whose handler failed after it was added, and reports both. -/
def undoAdd [Journal σ] (w : World σ) (call : Caller σ) (p : PipelineId) (c : ContextId)
    (cause : Error) : Outcome × World σ :=
  match w.removeContext call p c with
  | (.ok _, w) => (.error (.lifecycle (.addUndone (w.handlerType c)) cause), w)
  | (.error second, w) =>
    (.error (.lifecycle (.addStuck (w.handlerType c)) cause),
      w.notice (.rollbackFailed (w.context c).name second))

/-- Links a context, unless its handler objects. -/
def addContext [Journal σ] (w : World σ) (call : Caller σ) (p : PipelineId)
    (position : Position) (c : ContextId) : Outcome × World σ :=
  match (w.chain p).checkInsert (w.context c).name position with
  | .error cause => (.error cause, w)
  | .ok _ =>
    match w.callHook call c .beforeAdd with
    | (.error cause, w) => (.error (.lifecycle (.notAdded (w.handlerType c)) cause), w)
    | (.ok _, w) =>
      -- The hook may have changed the chain, so the insertion can still fail.
      let x := w.context c
      let (inserted, chain) := (w.chain p).insert c x.name x.handler.events position
      let w := w.setChain p chain
      match inserted with
      | .error cause => (.error cause, w)
      | .ok _ =>
        match w.callHook call c .afterAdd with
        | (.ok _, w) => (.ok (), w)
        | (.error cause, w) => w.undoAdd call p c cause

/-- Fails if a handler cannot be added under a name at a position. -/
def checkAdd (w : World σ) (p : PipelineId) (position : Position) (name : String)
    (h : Handler) : Except Error Unit := do
  checkName name
  (w.chain p).checkInsert name position
  checkEvents h

/-- Adds a handler. -/
def add [Journal σ] (w : World σ) (call : Caller σ) (p : PipelineId) (position : Position)
    (name : String) (h : Handler) : Outcome × World σ :=
  match w.checkAdd p position name h with
  | .error cause => (.error cause, w)
  | .ok _ =>
    let (c, w) := w.newContext p name h
    w.addContext call p position c

/-! ### Replacing a handler -/

/-- Replaces a context at an end of the chain: removes it and adds the other one there. -/
def replaceAtEnd [Journal σ] (w : World σ) (call : Caller σ) (p : PipelineId)
    (position : Position) (old new : ContextId) : Outcome × World σ :=
  match w.removeContext call p old with
  | (.error cause, w) => (.error cause, w)
  | (.ok _, w) => w.addContext call p position new

/-- Tells both handlers that they have changed places, and reports who objects. -/
def settleReplacement [Journal σ] (w : World σ) (call : Caller σ) (old new : ContextId) :
    Outcome × World σ :=
  let (removed, w) := w.callHook call old .afterRemove
  let (added, w) := w.callHook call new .afterAdd
  match removed, added with
  | .ok _, .ok _ => (.ok (), w)
  | .error cause, .ok _ =>
    (.error (.lifecycle (.late (w.handlerType old) .afterRemove) cause), w)
  | .ok _, .error cause =>
    (.error (.lifecycle (.late (w.handlerType new) .afterAdd) cause), w)
  | .error first, .error second =>
    let w := w.notice (.lateHookFailed (w.handlerType old) .afterRemove first)
    let w := w.notice (.lateHookFailed (w.handlerType new) .afterAdd second)
    (.error (.lifecycle (.lateBoth (w.handlerType old) (w.handlerType new)) second), w)

/-- Replaces a context between two others. -/
def replaceBetween [Journal σ] (w : World σ) (call : Caller σ) (p : PipelineId)
    (old new : ContextId) : Outcome × World σ :=
  match w.callHook call old .beforeRemove with
  | (.error cause, w) =>
    (.error (.lifecycle (.notReplaced (w.handlerType old) .beforeRemove) cause), w)
  | (.ok _, w) =>
    match w.callHook call new .beforeAdd with
    | (.error cause, w) =>
      (.error (.lifecycle (.notReplaced (w.handlerType new) .beforeAdd) cause), w)
    | (.ok _, w) =>
      let x := w.context new
      -- Either hook may have changed the chain.
      let (replaced, chain) := (w.chain p).replace old new x.name x.handler.events
      let w := w.setChain p chain
      match replaced with
      | .error cause => (.error cause, w)
      | .ok _ => (w.markRemoved old).settleReplacement call old new

/-- The context to replace; fails if there is none, or if `h` cannot take its place
    under `newName`. -/
def checkReplace (w : World σ) (p : PipelineId) (oldName newName : String) (h : Handler) :
    Except Error ContextId := do
  checkName newName
  let old ← (w.chain p).idOf oldName
  if newName ≠ oldName ∧ (w.chain p).names.contains newName then
    throw (.argument (.duplicateName newName))
  checkEvents h
  return old

/-- Replaces the handler named `oldName` by another one, and says which it was. -/
def replace [Journal σ] (w : World σ) (call : Caller σ) (p : PipelineId)
    (oldName newName : String) (h : Handler) : Except Error ContextId × World σ :=
  match w.checkReplace p oldName newName h with
  | .error cause => (.error cause, w)
  | .ok old =>
    let (new, w) := w.newContext p newName h
    let (outcome, w) :=
      if (w.chain p).isFirst old then w.replaceAtEnd call p .first old new
      else if (w.chain p).isLast old then w.replaceAtEnd call p .last old new
      else w.replaceBetween call p old new
    (outcome.map fun _ => old, w)

end Conduit.World
