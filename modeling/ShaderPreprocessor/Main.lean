/-
The command line tool on the files of the machine. What a run does is settled on a tree of files
that holds what has been seen of the disk; a run that opens a path not yet seen is begun again with
that path added, so the last run has seen all that it needs.
-/
import ShaderPreprocessor.CommandLine.Run

namespace ShaderPreprocessor.CommandLine

/-- What has been seen of the disk: the places that were looked at, and what stands there. -/
structure Sight where
  /-- What was found. -/
  tree : FileTree
  /-- The places that were looked at. -/
  seen : List (List String)

namespace Sight

/-- The places that a path goes through, from a directory on. -/
def route : List String → List String → List (List String)
  | place, [] => [place]
  | place, part :: parts => place :: route (Path.descend place part) parts

/-- The places that a path goes through, from the root on. -/
def placesOf (home : List String) (path : Path) : List (List String) :=
  if path.anchor = .relative then route [] home ++ route home path.parts
  else route [] path.parts

/-- A place looked at. What cannot be read because it is no file is a directory. -/
def look (sight : Sight) (place : List String) : IO Sight := do
  if place ∈ sight.seen then return sight
  let seen := place :: sight.seen
  let found : Option Node ←
    try
      let data ← IO.FS.readBinFile ("/" ++ "/".intercalate place)
      pure (some (.file data.toList))
    catch
      | .inappropriateType .. => pure (some .directory)
      | _ => pure none
  match found with
  | some node =>
    return { tree := sight.tree.add place node, seen }
  | none => return { sight with seen }

/-- The places that a path goes through looked at, as far as they are directories. -/
def follow (sight : Sight) (path : Path) : IO Sight := do
  let mut sight := sight
  for place in placesOf sight.tree.home path do
    if sight.tree.node? place.dropLast = some .directory then
      sight ← sight.look place
  return sight

end Sight

/-- The last run for a command line, begun with what has been seen so far. -/
partial def settleRun (sight : Sight) (arguments : List String) : IO Report := do
  let report := run sight.tree arguments
  let output := match Request.ofArguments arguments with
    | .ok request => request.output.toList
    | .error _ => []
  let mut next := sight
  for path in report.opened ++ output do
    next ← next.follow path
  if next.seen.length = sight.seen.length then return report
  settleRun next arguments

/-- A report carried out: what it shows and says, and the file it writes. -/
def carryOut (report : Report) : IO UInt32 := do
  (← IO.getStderr).putStr report.stderr
  let stdout ← IO.getStdout
  stdout.write ⟨report.stdout.toArray⟩
  stdout.flush
  match report.written with
  | some (path, data) => IO.FS.writeBinFile path.toText ⟨data.toArray⟩
  | none => pure ()
  match report.exit with
  | .status code => return UInt32.ofNat code
  | .escaped failure =>
    (← IO.getStderr).putStrLn failure.message
    return 1

end ShaderPreprocessor.CommandLine

open ShaderPreprocessor ShaderPreprocessor.CommandLine in
/-- Preprocesses the file that the command line names. -/
def main (arguments : List String) : IO UInt32 := do
  let here ← IO.currentDir
  let home := (Path.ofText here.toString).parts
  carryOut (← settleRun ⟨.empty home, []⟩ arguments)
