import Proctor.Duration
import Proctor.OrderedMap
import Proctor.Path
import Proctor.Text.Blank

/-! What the runner is set up to do: the programs it starts, the marker of a warning, and its
limits. -/
namespace Proctor

abbrev Environment := List (String × String)

namespace Environment

def get? (environment : Environment) (name : String) : Option String :=
  OrderedMap.get? name environment

def filled? (environment : Environment) (name : String) : Option String :=
  (environment.get? name).filter (· ≠ "")

end Environment

/-- A program and its first arguments; those of a call come after them. -/
structure Invocation where
  program : String
  args : List String
deriving DecidableEq, Repr

def Invocation.describe (invocation : Invocation) : String :=
  " ".intercalate (invocation.program :: invocation.args)

structure Config where
  /-- Runs one target; a call adds the request and the target. -/
  interpreter : Invocation
  detector : Invocation
  /-- Output of the detector that contains the marker makes a target suspicious. -/
  marker : String
  scan : Bool
  timeout? : Option Nanoseconds
  /-- Where the request is written, if not in the usual place for temporary files. -/
  tempDir? : Option String
deriving DecidableEq, Repr

def Environment.tempDir (environment : Environment) : String :=
  (environment.get? "TMPDIR").getD "/tmp"

namespace Config

def defaultProgram : String := "python"

def scriptsDirName : String := "python_scripts"

def testScript : String := "test.py"

def detectorScript : String := "detection_script.py"

def programVariable : String := "SCRIPTEST_PYTHON"

def scriptsDirVariable : String := "SCRIPTEST_SCRIPTS_DIR"

def withScriptsDir (config : Config) (dir : String) : Config :=
  { config with
    interpreter := { config.interpreter with args := [Path.join dir testScript] }
    detector := { config.detector with args := [Path.join dir detectorScript] } }

def withProgram (config : Config) (program : String) : Config :=
  { config with
    interpreter := { config.interpreter with program }
    detector := { config.detector with program } }

def standard : Config :=
  let config : Config :=
    { interpreter := ⟨defaultProgram, []⟩
      detector := ⟨defaultProgram, []⟩
      marker := "Warning:"
      scan := true
      timeout? := none
      tempDir? := none }
  config.withScriptsDir scriptsDirName

/-- The directory of the two scripts: that of the environment, the one in the current directory, or
the one in a directory near the program. -/
def findScriptsDir (environment : Environment) (isDirectory : String → Bool)
    (near : List String) : Option String :=
  let candidates :=
    (environment.get? scriptsDirVariable).toList ++ [scriptsDirName] ++
      near.map (Path.join · scriptsDirName)
  candidates.find? isDirectory

def ofFound (scriptsDir? program? : Option String) : Config :=
  let config := (scriptsDir?.map standard.withScriptsDir).getD standard
  (program?.map config.withProgram).getD config

def ofEnvironment (environment : Environment) (isDirectory : String → Bool)
    (near : List String) : Config :=
  ofFound (findScriptsDir environment isDirectory near) (environment.filled? programVariable)

end Config

/-! ### Editors -/

def defaultOpener : String := "xdg-open"

def editorCommand (command? : Option String) (environment : Environment) : List String :=
  let chosen? := (command? <|> environment.filled? "VISUAL") <|> environment.filled? "EDITOR"
  match Text.words (chosen?.getD "").toList with
  | [] => [defaultOpener]
  | words => words.map String.ofList

end Proctor
