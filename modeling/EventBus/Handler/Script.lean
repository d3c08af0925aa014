import EventBus.Duration
import EventBus.Handler.LogWriter

/-!
# Scripted handlers

A handler given as a list of actions, for trials of a configuration. Each call is noted in a trace,
with what the handler saw when it was entered, and so is every raise that it makes. The actions run in
order until one of them ends the call; a call that runs off the end of its list is a success.

Raises are passed over while more than `maxDepth` scripted calls are in progress, so that handlers that
raise events to each other come to an end.
-/

namespace EventBus

/-- One step of a scripted handler. -/
inductive Action (c : Catalog) where
  | answer (status : Status)
  /-- Ends the call, with success exactly if there is an out-structure. -/
  | answerIfView
  /-- Ends the call with a byte of the payload, taken as a signed number; a failure if it has none. -/
  | answerByte (index : Nat)
  /-- Sets the checksum to the sum of the payload's bytes. -/
  | sumPayload
  | addChecksum (n : UInt32)
  | append (bytes : Bytes)
  | clear
  | reverse
  /-- Activates or deactivates a subscriber by name. -/
  | setActivated (name : String) (on : Bool)
  | sleep (span : Duration)
  /-- Raises an event; with `answers` its status ends the call. -/
  | raise (answers : Bool) (origin : SubscriberId) (kind : c.Kind) (payload : Bytes)
  /-- Ends the call as the log writer does. -/
  | writeLog
  | panic (ending : Ending)

/-- Something that a scripted handler left behind. -/
inductive TraceEntry (c : Catalog) where
  /-- A call, with what the handler saw. -/
  | called (tag : String) (event : Event c) (view : Option EventOut)
  /-- A raise, with its status. -/
  | raised (tag : String) (kind : c.Kind) (status : Status)

/-- What scripted handlers share. -/
structure Stage (c : Catalog) where
  /-- What they left behind, newest first. -/
  trace : List (TraceEntry c) := []
  depth : Nat := 0
  clock : Duration := .zero

namespace Stage

variable {c : Catalog}

def leave (entry : TraceEntry c) (stage : Stage c) : Stage c :=
  { stage with trace := entry :: stage.trace }

def enterCall (tag : String) (event : Event c) (view : Option EventOut) (stage : Stage c) : Stage c :=
  { stage.leave (.called tag event view) with depth := stage.depth + 1 }

def exitCall (stage : Stage c) : Stage c :=
  { stage with depth := stage.depth - 1 }

def sleep (span : Duration) (stage : Stage c) : Stage c :=
  { stage with clock := ⟨stage.clock.nanoseconds + span.nanoseconds⟩ }

/-- The entries in the order they were left, and the stage without them. -/
def takeTrace (stage : Stage c) : List (TraceEntry c) × Stage c :=
  (stage.trace.reverse, { stage with trace := [] })

end Stage

namespace Action

variable {c : Catalog}

/-- Whether an action needs a bus around the handler. -/
def needsBus : Action c → Bool
  | setActivated .. | raise .. => true
  | _ => false

def edit (event : Event c) (out : EventOut) : Action c → EventOut
  | sumPayload => { out with checksum := event.payload.foldl (fun sum b => sum + b.toUInt32) 0 }
  | addChecksum n => { out with checksum := out.checksum + n }
  | append bytes => { out with data := out.data ++ bytes }
  | clear => { out with data := [] }
  | reverse => { out with data := out.data.reverse }
  | _ => out

end Action

namespace Handler.Script

variable {c : Catalog} {σ : Type}

/-- Raises are passed over while more calls than these are in progress. -/
def maxDepth : Nat := 4

/-- Where the stage is found in the world. -/
structure StageIn (c : Catalog) (σ : Type) where
  get : σ → Stage c
  set : Stage c → σ → σ

def modifyStage (place : StageIn c σ) (f : Stage c → Stage c) (next : Program c σ) : Program c σ :=
  .change (fun world => place.set (f (place.get world)) world) next

def exit (place : StageIn c σ) (ending : Ending) (view : Option EventOut) : Program c σ :=
  modifyStage place Stage.exitCall (.finish ⟨ending, view⟩)

/-- The status that a byte of the payload stands for. -/
def byteStatus (event : Event c) (index : Nat) : Status :=
  match event.payload[index]? with
  | some b => ⟨b.toInt8.toInt32⟩
  | none => .failure

def run (place : StageIn c σ) (tag : String) (event : Event c) :
    List (Action c) → Option EventOut → Program c σ
  | [], view => exit place (.returned .ok) view
  | action :: rest, view =>
    match action with
    | .answer status => exit place (.returned status) view
    | .answerIfView => exit place (.returned (.ofBool view.isSome)) view
    | .answerByte index => exit place (.returned (byteStatus event index)) view
    | .panic ending => exit place ending view
    | .writeLog =>
      match logRecord? event with
      | some record => .note record (exit place (.returned .ok) view)
      | none => exit place (.returned .ok) view
    | .setActivated name on => .setActivated name on fun _ => run place tag event rest view
    | .sleep span => modifyStage place (·.sleep span) (run place tag event rest view)
    | .raise answers origin kind payload =>
      .look fun world =>
        if maxDepth < (place.get world).depth then run place tag event rest view
        else
          let raised : Event c := ⟨origin, kind, payload⟩
          .raise raised raised.freshOut fun status _ =>
            modifyStage place (·.leave (.raised tag kind status))
              (if answers then exit place (.returned status) view else run place tag event rest view)
    | action => run place tag event rest (view.map fun out => action.edit event out)

end Handler.Script

def Handler.script {c : Catalog} {σ : Type} (place : Handler.Script.StageIn c σ) (tag : String)
    (actions : List (Action c)) : Handler c σ where
  name := tag
  handle event view :=
    Handler.Script.modifyStage place (·.enterCall tag event view)
      (Handler.Script.run place tag event actions view)

end EventBus
