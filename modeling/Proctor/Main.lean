import Proctor.Cli.Commands

/-! The command line. Programs run on a machine that starts with the files below the current
directory; nothing outside that machine is changed. -/
namespace Proctor

def searchDepth : Nat := 16

def loadEntry : Nat → Machine.Place → Machine.Files → IO.FS.DirEntry → IO Machine.Files
  | 0, _, files, _ => return files
  | depth + 1, place, files, entry => do
    let place := place ++ [Machine.Octets.ofString entry.fileName]
    if ← entry.path.isDir then
      (← entry.path.readDir).foldlM (loadEntry depth place) (files.addDirectory place)
    else
      let bytes ← IO.FS.readBinFile entry.path
      let octets := Machine.Octets.ofBytes bytes.toList
      return files.add place ⟨.file octets, Machine.Files.fileMode, 0⟩

def loadEnvironment : IO Environment := do
  let names := [Config.programVariable, Config.scriptsDirVariable, "TMPDIR", "VISUAL", "EDITOR"]
  let found ← names.mapM fun name => do
    return (← IO.getEnv name).map (name, ·)
  return found.reduceOption

def loadMachine : IO Machine := do
  let current ← IO.currentDir
  let place := (Text.fields '/' (Machine.Octets.ofString current.toString)).filter (· ≠ [])
  let files ← (← current.readDir).foldlM (loadEntry searchDepth place)
    (Machine.standardFiles place)
  let input ← (← IO.getStdin).readToEnd
  let stamp ← IO.monoNanosNow
  return ⟨files, ← loadEnvironment, 0, Text.Utf8.encode input.toList, [], toString stamp⟩

end Proctor

open Proctor in
def main (arguments : List String) : IO UInt32 := do
  let finished := Cli.program (← loadMachine) arguments
  IO.print finished.output
  IO.eprint finished.error
  return UInt32.ofNat finished.code
