import PagePress.Build.Builder

/-!
# Sessions

A session is a run of requests to one builder that keeps the archives in memory. A request says how
the save that it brings about behaves, also that it asks for another build before it ends.
-/
namespace PagePress

/-- Things kept in memory under names, oldest first. A name may come up more than once. -/
structure MemoryStore (α : Type) where
  saved : List (String × α) := []

def MemoryStore.save {α : Type} (store : MemoryStore α) (name : String) (a : α) :
    MemoryStore α :=
  ⟨store.saved ++ [(name, a)]⟩

/-- How a save behaves. -/
inductive SaveMode where
  | stores
  | refuses (reason : String)
  | failsToWrite (reason : String)
  | crashes
  /-- Asks for another build, then stores. -/
  | asksFirst (source themeId : String)
  deriving DecidableEq, Repr

def SaveMode.outcome (archiveName : String) : SaveMode → SaveOutcome
  | stores | asksFirst .. => .stored
  | refuses reason => .refused (.save archiveName reason)
  | failsToWrite reason => .refused (.io reason)
  | crashes => .crashed

inductive Request where
  | build (source themeId : String) (mode : SaveMode)
  /-- Starts a build and stays in its save. -/
  | begin (source themeId : String)
  /-- The save of the current build ends. -/
  | finish (outcome : SaveOutcome)
  /-- Gives up the current build while its archive is being saved. -/
  | abandon
  /-- The oldest save without a build ends. -/
  | release (outcome : SaveOutcome)
  deriving DecidableEq, Repr

/-- The result of a build that a save asked for, and the state at that moment. -/
structure Inner where
  result : Except BuildFailure Job
  state : BuildState

inductive Reply where
  | ended (result : Except BuildFailure Bundle) (inner : Option Inner)
  | pending
  | abandoned
  | released
  /-- There is nothing that the request could be about. -/
  | nothing

structure Session where
  builder : Builder
  store : MemoryStore Archive := {}

namespace Session

def state (s : Session) : BuildState := s.builder.state

/-- The session after some moves of its builder: the archives that they stored are kept. -/
def after (s : Session) (t : Trail) : Session where
  builder := t.builder
  store := t.stored.foldl (fun store job => store.save job.bundle.archiveName job.archive) s.store

/-- What a request is told when its build has returned. -/
def reply (t : Trail) (inner : Option Inner) : Reply :=
  match t.result? with
  | some result => .ended (result.map Job.bundle) inner
  | none => .nothing

/-- A build from its call to its return, with a save that stores. -/
def buildThrough (b : Builder) (source themeId : String) : Trail :=
  b.follow (Builder.towardsSave b.admitted source themeId ++ Builder.fromSave b.admitted .stored)

/-- What a save does before it ends. -/
def duringSave (s : Session) : SaveMode → Session × Option Inner
  | .asksFirst source themeId =>
    let t := buildThrough s.builder source themeId
    (s.after t, t.result?.map fun result => ⟨result, t.builder.state⟩)
  | _ => (s, none)

/-- Ends the save of a build, and the build with it. -/
def leave (s : Session) (ticket : Nat) (outcome : SaveOutcome) (inner : Option Inner) :
    Session × Reply :=
  let t := s.builder.follow (Builder.fromSave ticket outcome)
  (s.after t, reply t inner)

def step (s : Session) : Request → Session × Reply
  | .build source themeId mode =>
    let ticket := s.builder.admitted
    let t := s.builder.follow (Builder.towardsSave ticket source themeId)
    match t.called? with
    | none => (s.after t, reply t none)
    | some job =>
      let (s, inner) := duringSave (s.after t) mode
      s.leave ticket (mode.outcome job.bundle.archiveName) inner
  | .begin source themeId =>
    let t := s.builder.follow (Builder.towardsSave s.builder.admitted source themeId)
    match t.called? with
    | none => (s.after t, reply t none)
    | some _ => (s.after t, .pending)
  | .finish outcome =>
    match s.builder.holders with
    | [] => (s, .nothing)
    | holder :: _ => s.leave holder.ticket outcome none
  | .abandon =>
    match s.builder.holders with
    | [] => (s, .nothing)
    | holder :: _ => (s.after (s.builder.follow [.giveUp holder.ticket]), .abandoned)
  | .release outcome =>
    match s.builder.strays with
    | [] => (s, .nothing)
    | save :: _ => (s.after (s.builder.follow [.endSave save.ticket outcome]), .released)

/-- The replies to a run of requests. -/
def run (s : Session) : List Request → List Reply
  | [] => []
  | request :: rest =>
    let (s, reply) := s.step request
    reply :: run s rest

end Session

end PagePress
