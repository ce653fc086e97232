import Lexis.Command.Report

namespace Lexis
namespace Command

/-!
The command line program.

It reads the named file and the user's settings, and prints the report.  The
settings are in the directory of the program's own name below `.config` in the
user's home directory.
-/

def faultOf (error : IO.Error) : ReadFault :=
  match error with
  | .noFileOrDirectory .. => .missing
  | .inappropriateType _ code _ =>
      if code = 20 then .notDirectory else if code = 21 then .isDirectory else .other error.toString
  | _ => .other error.toString

def readBytes (file : String) : IO (Except ReadFault (List UInt8)) := do
  try
    return .ok (← IO.FS.readBinFile file).toList
  catch error =>
    return .error (faultOf error)

/-- The name under which the program was started. -/
def programName : IO String := do
  return (← IO.appPath).fileStem.getD "lexis"

def readSettings : IO FileContent := do
  match ← IO.getEnv "HOME" with
  | none => return .missing
  | some home =>
      match ← readBytes s!"{home}/.config/{← programName}/config.toml" with
      | .ok bytes => return .bytes bytes
      | .error .missing => return .missing
      | .error _ => return .unreadable

def usage (program : String) : String :=
  s!"Usage: {program} <file> [--language <id>] [--edit <start>:<end>:<text>]... " ++
    "[--only <category|keywords>]... [--no-trivia]"

def printReport (report : Report) : IO UInt32 := do
  for message in report.messages do
    IO.eprintln s!"[{message.level.name}] {message.text}"
  for line in report.lines do
    IO.println line
  match report.failure with
  | none => return 0
  | some failure =>
      IO.eprintln s!"Error: {failure.message}"
      return 1

end Command
end Lexis

open Lexis.Command in
def main (arguments : List String) : IO UInt32 := do
  match Options.ofArguments arguments with
  | .error error =>
      IO.eprintln s!"Error: {error.message}"
      IO.eprintln (usage (← programName))
      return 1
  | .ok options =>
      let content ← readBytes (String.ofList options.file)
      printReport (report options content (← readSettings))
