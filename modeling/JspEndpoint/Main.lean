import JspEndpoint.CommandLine.Run

/-!
The command line: looks at the files that the arguments name, and does what the run decides.
-/

namespace JspEndpoint.CommandLine

/-- What is at a path, if anything is. -/
def lookAt (path : String) : IO (Option Entry) := do
  try
    if ← (← IO.FS.realPath path).isDir then return some .directory
    else return some (.file (Content.ofBytes (← IO.FS.readBinFile path)))
  catch _ => return none

def pathText (place : List Text) : String := String.ofList (['/'].intercalate place)

/-- The part of the files that some paths lead through. -/
def lookAtAll (paths : List Text) : IO FileTree := do
  let mut entries := []
  for place in (paths.flatMap FileTree.placesOf).eraseDups do
    if !place.isEmpty then
      if let some entry ← lookAt (pathText place) then
        entries := entries ++ [(place, entry)]
  return ⟨entries⟩

end JspEndpoint.CommandLine

open JspEndpoint.CommandLine in
def main (args : List String) : IO UInt32 := do
  let args := args.map String.toList
  let tree ← lookAtAll (pathsOf args)
  let action := prepare tree args
  let result := action.perform tree
  if let .save path code := action then
    if result.exit = 0 then IO.FS.writeFile (String.ofList path) (String.ofList code)
  IO.print (String.ofList result.stdout)
  IO.eprint (String.ofList result.stderr)
  return result.exit.toUInt32
