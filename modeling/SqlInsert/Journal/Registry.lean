import SqlInsert.Journal.Setup
/-!
# The sources of entries

A part of the library asks for its source of entries by a name. The sources are kept, and all of
them stand below one root that holds their threshold. A setup can be asked for at any time. If none
was made when the first source is asked for, one is made from what the environment says.
-/

namespace SqlInsert.Journal

/-- What becomes of a file that entries are to go to. -/
inductive FileOutcome
  | opens
  /-- Its folder cannot be made. -/
  | noFolder
  /-- Its folder is there, and it cannot be opened. -/
  | noFile
deriving DecidableEq, Repr

/-- What a call meets outside of the library. -/
structure Circumstances where
  environment : Environment
  /-- What becomes of the file with a path. -/
  file : String → FileOutcome

/-- Why a setup is not made. -/
inductive SetupFault
  | refused (error : SetupError)
  | noFolder
  | noFile
deriving DecidableEq, Repr

/-- The setup that a request comes to. The folder of its file is made before anything is looked at,
and the file is opened before its own threshold is read. -/
def prepare (around : Circumstances) (request : Request) : Except SetupFault Configuration :=
  let file := ((nonempty? request.logFile).map around.file).getD .opens
  match file, configure around.environment request with
  | .noFolder, _ => .error .noFolder
  | .noFile, .error .fileLevel => .error .noFile
  | _, .error error => .error (.refused error)
  | .noFile, .ok _ => .error .noFile
  | .opens, .ok configuration => .ok configuration

/-- The sources that were asked for, and what the setups left. -/
structure Registry where
  /-- The names that were asked for, with their sources. -/
  sources : List (String × String)
  /-- A setup was made. -/
  isConfigured : Bool
  /-- The threshold of the root, which is that of every source below it. -/
  threshold : Threshold

/-- What a call leaves and what it answers. -/
structure Effect (α : Type) where
  registry : Registry
  /-- The setup that was made on the way, of which an entry tells. -/
  made : Option Configuration
  answer : Except SetupFault α

namespace Registry

/-- The state before anything was asked for. -/
def initial : Registry := ⟨[], false, .inherited⟩

/-- The state with a setup in force. -/
def withSetup (registry : Registry) (configuration : Configuration) : Registry :=
  { registry with isConfigured := true, threshold := configuration.threshold }

/-- The state with the source of one more name. -/
def withSource (registry : Registry) (name source : String) : Registry :=
  { registry with sources := registry.sources ++ [(name, source)] }

/-- Makes a setup on request. -/
def setUp (around : Circumstances) (request : Request) (registry : Registry) : Effect Unit :=
  match prepare around request with
  | .error fault => ⟨registry, none, .error fault⟩
  | .ok configuration => ⟨registry.withSetup configuration, some configuration, .ok ()⟩

/-- Makes the setup without any request, unless one was made. -/
def setUpIfNeeded (around : Circumstances) (registry : Registry) : Effect Unit :=
  if registry.isConfigured then ⟨registry, none, .ok ()⟩ else registry.setUp around .standard

/-- The source of a name. -/
def source (around : Circumstances) (name : String) (registry : Registry) : Effect String :=
  match registry.sources.lookup name with
  | some source => ⟨registry, none, .ok source⟩
  | none =>
    let ready := registry.setUpIfNeeded around
    match ready.answer with
    | .error fault => ⟨ready.registry, ready.made, .error fault⟩
    | .ok () =>
      let source := rootSource ++ "." ++ name
      ⟨ready.registry.withSource name source, ready.made, .ok source⟩

end Registry

end SqlInsert.Journal
