import PagePress.Build.Basic

/-!
# The builder

A builder works on one build at a time and turns others away meanwhile. A build that is let in holds
the builder until it lets go: when it returns, whatever with, when it crashes, or when it is given
up. The save of its archive is a task of its own. It goes on when the build is given up.

Builds and saves advance independently of each other. `Builder.advance` makes one move of one of
them, and `Builder.follow` makes moves in any order and keeps a log of what is seen of them.
-/
namespace PagePress

/-- What a builder tells about itself. -/
inductive BuildState where
  | idle
  | building
  /-- The last build did not end well. -/
  | failed
  deriving DecidableEq, Repr

def BuildState.name : BuildState → String
  | idle => "Idle"
  | building => "Building"
  | failed => "Failed"

/-- How the save of an archive ends. -/
inductive SaveOutcome where
  | stored
  | refused (error : BundleError)
  | crashed
  deriving DecidableEq, Repr

/-- How far a build has come that holds the builder. -/
inductive Progress where
  | preparing (source themeId : String)
  /-- The archive is with its save. -/
  | waiting
  /-- The save is over, but the build has not returned yet. -/
  | settled (result : Except BuildFailure Job)

/-- A build that holds the builder. Its ticket says how many were let in before it. -/
structure Holder where
  ticket : Nat
  progress : Progress

/-- The task that saves the archive of a build. -/
structure Save where
  ticket : Nat
  job : Job
  /-- Whether the save target has been called. -/
  running : Bool := false

structure Builder where
  options : BuildOptions
  state : BuildState := .idle
  holders : List Holder := []
  /-- The saves that are not over, oldest first. -/
  saves : List Save := []
  /-- How many builds have been let in so far. -/
  admitted : Nat := 0

/-- What can happen next around a builder. -/
inductive Move where
  /-- A build is called for. -/
  | start (source themeId : String)
  /-- A build does everything up to the hand-off of its archive. -/
  | prepare (ticket : Nat)
  /-- A save calls the save target. -/
  | callSave (ticket : Nat)
  /-- The save target comes to an end. -/
  | endSave (ticket : Nat) (outcome : SaveOutcome)
  /-- A save is dropped before it has called the save target. -/
  | cancelSave (ticket : Nat)
  /-- A build whose save is over returns. -/
  | conclude (ticket : Nat)
  /-- A build is given up after the hand-off. -/
  | giveUp (ticket : Nat)
  deriving DecidableEq, Repr

/-- What is seen of a move. -/
inductive Occurrence where
  | turnedAway
  | letIn (ticket : Nat)
  | handedOff (ticket : Nat)
  | saveCalled (ticket : Nat) (job : Job)
  | saveEnded (ticket : Nat) (job : Job) (outcome : SaveOutcome)
  | saveCancelled (ticket : Nat)
  /-- A build has returned or crashed. -/
  | ended (ticket : Nat) (result : Except BuildFailure Job)
  | givenUp (ticket : Nat)

namespace Builder

/-- The result of a build whose save has ended. -/
def result (job : Job) : SaveOutcome → Except BuildFailure Job
  | .stored => .ok job
  | .refused error => .error (.bundle error)
  | .crashed => .error .interrupted

/-- The state that a build leaves behind when it returns. -/
def stateAfter : Except BuildFailure Job → BuildState
  | .ok _ => .idle
  | .error _ => .failed

/-- How far the build with a ticket has come, if it holds the builder. -/
def progress? (b : Builder) (ticket : Nat) : Option Progress :=
  (b.holders.find? (·.ticket == ticket)).map Holder.progress

/-- The save with a ticket, if it is not over. -/
def save? (b : Builder) (ticket : Nat) : Option Save := b.saves.find? (·.ticket == ticket)

/-- Lets a build in, unless the state says that another one is at work. -/
def letIn? (b : Builder) (source themeId : String) : Option Builder :=
  if b.state = .building then none
  else
    some { b with
      state := .building
      holders := b.holders ++ [⟨b.admitted, .preparing source themeId⟩]
      admitted := b.admitted + 1 }

/-- A build lets go of the builder and leaves a state behind. -/
def letGo (b : Builder) (ticket : Nat) (state : BuildState) : Builder :=
  { b with state, holders := b.holders.filter (·.ticket != ticket) }

/-- Notes how far a build has come. Without effect on a build that has let go. -/
def note (b : Builder) (ticket : Nat) (progress : Progress) : Builder :=
  { b with
    holders := b.holders.map fun holder =>
      if holder.ticket = ticket then { holder with progress } else holder }

def addSave (b : Builder) (ticket : Nat) (job : Job) : Builder :=
  { b with saves := b.saves ++ [{ ticket, job }] }

def runSave (b : Builder) (ticket : Nat) : Builder :=
  { b with
    saves := b.saves.map fun save =>
      if save.ticket = ticket then { save with running := true } else save }

def dropSave (b : Builder) (ticket : Nat) : Builder :=
  { b with saves := b.saves.filter (·.ticket != ticket) }

/-- A build returns. -/
def finish (b : Builder) (ticket : Nat) (result : Except BuildFailure Job) : Builder × Occurrence :=
  (b.letGo ticket (stateAfter result), .ended ticket result)

/-- Makes a move, if it can be made. -/
def advance (b : Builder) : Move → Option (Builder × Occurrence)
  | .start source themeId =>
    match b.letIn? source themeId with
    | none => some (b, .turnedAway)
    | some next => some (next, .letIn b.admitted)
  | .prepare ticket =>
    match b.progress? ticket with
    | some (.preparing source themeId) =>
      match b.options.prepare source themeId with
      | .error failure => some (b.finish ticket (.error failure))
      | .ok job => some ((b.note ticket .waiting).addSave ticket job, .handedOff ticket)
    | _ => none
  | .callSave ticket =>
    match b.save? ticket with
    | some ⟨_, job, false⟩ => some (b.runSave ticket, .saveCalled ticket job)
    | _ => none
  | .endSave ticket outcome =>
    match b.save? ticket with
    | some ⟨_, job, true⟩ =>
      some ((b.dropSave ticket).note ticket (.settled (result job outcome)),
        .saveEnded ticket job outcome)
    | _ => none
  | .cancelSave ticket =>
    match b.save? ticket with
    | some ⟨_, _, false⟩ =>
      some ((b.dropSave ticket).note ticket (.settled (.error .interrupted)),
        .saveCancelled ticket)
    | _ => none
  | .conclude ticket =>
    match b.progress? ticket with
    | some (.settled result) => some (b.finish ticket result)
    | _ => none
  | .giveUp ticket =>
    match b.progress? ticket with
    | some .waiting | some (.settled _) => some (b.letGo ticket .failed, .givenUp ticket)
    | _ => none

/-- The saves whose builds have let go, oldest first. -/
def strays (b : Builder) : List Save :=
  b.saves.filter fun save => !b.holders.any (·.ticket == save.ticket)

/-- The saves that are inside the save target. -/
def running (b : Builder) : List Save := b.saves.filter (·.running)

end Builder

/-- A builder and what has been seen of its moves, oldest first. -/
structure Trail where
  builder : Builder
  log : List Occurrence := []

namespace Trail

/-- Makes a move. One that cannot be made is passed over. -/
def move (t : Trail) (m : Move) : Trail :=
  match t.builder.advance m with
  | none => t
  | some (builder, occurrence) => ⟨builder, t.log ++ [occurrence]⟩

def follow (t : Trail) (moves : List Move) : Trail := moves.foldl move t

/-- The result with which a call for a build has returned. -/
def result? (t : Trail) : Option (Except BuildFailure Job) :=
  t.log.findSome? fun
    | .turnedAway => some (.error .busy)
    | .ended _ result => some result
    | _ => none

/-- The job whose archive has come to the save target. -/
def called? (t : Trail) : Option Job :=
  t.log.findSome? fun
    | .saveCalled _ job => some job
    | _ => none

/-- The jobs whose archives have been stored, in order. -/
def stored (t : Trail) : List Job :=
  t.log.filterMap fun
    | .saveEnded _ job .stored => some job
    | _ => none

end Trail

namespace Builder

/-- The builder after some moves, and what is seen of them. -/
def follow (b : Builder) (moves : List Move) : Trail := Trail.follow ⟨b, []⟩ moves

/-- The moves of a build up to the moment at which its archive comes to the save target. -/
def towardsSave (ticket : Nat) (source themeId : String) : List Move :=
  [.start source themeId, .prepare ticket, .callSave ticket]

/-- The moves of a build from the end of its save on. -/
def fromSave (ticket : Nat) (outcome : SaveOutcome) : List Move :=
  [.endSave ticket outcome, .conclude ticket]

end Builder

end PagePress
