import SkillNode.Pipeline

/-!
# Sessions

A session keeps a catalog, a reader of behaviour descriptions, and the models that
were read and resolved last. A step that fails leaves the session as it was, but
for what the reader remembers of a description that it started to take in.
-/

namespace SkillNode

open Generation (Options Sources)
open Interface (Catalog Description SectionKind)
open Statechart (Memory RawModel TypedModel)

/-- What a session keeps. -/
structure Session where
  catalog : Catalog
  memory : Memory
  raw? : Option RawModel
  typed? : Option TypedModel

namespace Session

/-- The session before any step. -/
def start : Session := ⟨.empty, {}, none, none⟩

/-- What can be asked of a session. -/
inductive Step
  | addText (description : Description)
  | lookUp (key : Interface.Key) (field : Text) (kind : SectionKind)
  | fields (key : Interface.Key) (kind : SectionKind)
  | contains (key : Interface.Key)
  | keys
  | read (source text : Text)
  | recall
  | variableOf (id : Text)
  | resolve
  | generate (options : Options)
  deriving DecidableEq, Repr

/-- What a session answers. -/
inductive Answer
  /-- An interface was added; the catalog has so many. -/
  | added (key : Interface.Key) (size : Nat)
  | fieldType (type? : Option Interface.FieldType)
  | fields (fields : List Interface.Field)
  | contained (isThere : Bool)
  | keys (keys : List Interface.Key)
  | raw (model : RawModel)
  | memory (memory : Memory)
  | declared (declared? : Option Statechart.Variable)
  | typed (model : TypedModel)
  | sources (sources : Sources)
  deriving DecidableEq, Repr

/-- A model that has to be there. -/
def need {α : Type} : Option α → Run α
  | some model => .ofResult model
  | none => .fail .noModel

/-- The session after a run that may give it something new. -/
def after {α : Type} (session : Session) (run : Run α) (keep : Session → α → Session) : Session :=
  match run.outcome with
  | .ok result => keep session result
  | .error _ => session

/-- Take one step. -/
def step (session : Session) : Step → Session × Run Answer
  | .addText description =>
      let run := session.catalog.addDescription description
      (session.after run fun session catalog => { session with catalog := catalog },
        do return .added description.key (← run).size)
  | .lookUp key field kind =>
      (session, .ofResult (.fieldType (session.catalog.fieldType? key field kind)))
  | .fields key kind => (session, .ofResult (.fields (session.catalog.fields key kind)))
  | .contains key => (session, .ofResult (.contained (session.catalog.contains key)))
  | .keys => (session, .ofResult (.keys session.catalog.keys))
  | .read source text =>
      let reading := Statechart.readText source text session.memory
      let run := Statechart.runOf reading
      let reader := { session with memory := session.memory.after reading }
      (reader.after run fun session model => { session with raw? := some model },
        do return .raw (← run))
  | .recall => (session, .ofResult (.memory session.memory))
  | .variableOf id =>
      (session, do return .declared ((← need session.raw?).variableNamed? id))
  | .resolve =>
      let run := do Statechart.typed session.catalog (← need session.raw?)
      (session.after run fun session model => { session with typed? := some model },
        do return .typed (← run))
  | .generate options =>
      (session, do
        match options.fault? with
        | some fault => Run.fail (.generation (.badOptions fault))
        | none =>
            let model ← need session.typed?
            let sources ← Run.ofExcept .generation
              (Generation.generate Generation.bundledFolder [] options model)
            return .sources sources)

/-- Take steps in order. -/
def run (session : Session) : List Step → List (Run Answer)
  | [] => []
  | first :: rest =>
      let (next, answer) := session.step first
      answer :: next.run rest

end Session
end SkillNode
