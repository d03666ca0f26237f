/-
Earley.Main — the program.

It reads the files that a command names, and the standard input if the command needs it, and prints
the report of the run.
-/
import Earley.CommandLine.Run

namespace Earley.CommandLine

/-- How the program is called. -/
def usage : String :=
  "usage: earley check FILE [-D]\n" ++
  "       earley lex FILE (--text TEXT | --input PATH)\n" ++
  "       earley recognize FILE [--input PATH] [-q] [-D]"

/-- The problem that an error of the file system stands for. Codes come with either sign. -/
def FileProblem.ofError? : IO.Error → Option FileProblem
  | .noFileOrDirectory _ _ _ => some .notFound
  | .permissionDenied _ _ _ => some .notPermitted
  | .inappropriateType _ code _ =>
    if code = 20 ∨ code = -20 then some .notDirectory else some .isDirectory
  | .invalidArgument _ code _ => if code = 36 ∨ code = -36 then some .nameTooLong else none
  | _ => none

/-- Reads a file. -/
def readPath (path : String) : IO (Except FileProblem (List UInt8)) := do
  try
    return .ok (← IO.FS.readBinFile path).toList
  catch e =>
    match FileProblem.ofError? e with
    | some problem => return .error problem
    | none => throw e

/-- Reads a stream to its end. -/
partial def readRest (input : IO.FS.Stream) (before : ByteArray) : IO ByteArray := do
  let block ← input.read 8192
  if block.isEmpty then return before else readRest input (before ++ block)

/-- Prints a report; the answer is the exit code. -/
def Report.print (r : Report) : IO UInt32 := do
  IO.print r.output
  IO.eprint r.errors
  match r.ending with
  | .code n => return n.toUInt32
  | .exit .help =>
    IO.println usage
    return 0
  | .exit .usage =>
    IO.eprintln usage
    return 2
  | .breakdown b =>
    IO.eprintln b.message
    return 1

end Earley.CommandLine

open Earley.CommandLine in
/-- Runs the program on the arguments of the command line. -/
def main (arguments : List String) : IO UInt32 := do
  match Command.ofArguments arguments with
  | .error e => (Report.silent (.exit e)).print
  | .ok command =>
    let known ← command.paths.mapM fun path => return (path, ← readPath path)
    let stdin ← if command.readsInput then readRest (← IO.getStdin) .empty else pure .empty
    (command.run (.ofList known) stdin.toList).print
