import FlowProbe.Capture
import FlowProbe.Program

set_option autoImplicit false

namespace FlowProbe.Machine

def look (path : String) : IO (Option FileNode) := do
  try
    return some (.file (← IO.FS.readBinFile path).toList)
  catch
    | .noFileOrDirectory .. => return none
    | _ => return some .directory

def visit (tree : FileTree) (path : String) : IO FileTree := do
  match ← look path with
  | some node => return tree.store path node
  | none => return tree

def configOf? (tree : FileTree) (path : String) : Option Config :=
  match tree.readText path with
  | .ok source => (Config.parse path source).toOption
  | .error _ => none

def survey (arguments : List String) : IO (FileTree × List String) := do
  let here := FileTree.resolve [] (← IO.currentDir).toString
  let empty : FileTree := ⟨[(here, .directory)], here⟩
  match CommandLine.parse arguments with
  | .ok (.probe path) =>
    let tree ← visit empty path
    match configOf? tree path with
    | none => return (tree, [])
    | some config =>
      let tree ← config.meter.databases.foldlM visit tree
      let device := config.capture.device
      return (tree, if (← look ("/sys/class/net/" ++ device)).isSome then [device] else [])
  | _ => return (empty, [])

def unsupported : SystemFault := ⟨"Operation not supported (os error 95)"⟩

def grants (octets : Nat) : Bool :=
  octets < 140737488355328

end FlowProbe.Machine

open FlowProbe in
def main (arguments : List String) : IO UInt32 := do
  let (files, present) ← Machine.survey arguments
  let setting : Program.Setting Unit :=
    ⟨files, ⟨.error Machine.unsupported, fun _ => .error Machine.unsupported⟩, 1, Ring.pageSize,
      Machine.grants, Interface.capture Ring.pageSize present, ()⟩
  let outcome := Program.run setting ((← IO.appPath).toString :: arguments)
  (← IO.getStdout).putStr outcome.output
  (← IO.getStderr).putStr outcome.complaint
  return (outcome.exitCode?.getD 0).toUInt32
