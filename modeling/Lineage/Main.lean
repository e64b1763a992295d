import Lineage.Command.Run

/-! # The program

    Hands the arguments and the real files to `Command.run`, and prints what
    it gives. -/

namespace Lineage

/-- The files of the machine. -/
def realFiles : Files IO where
  read path := do
    try
      return some (← IO.FS.readBinFile path)
    catch _ =>
      return none
  write path text := do
    try
      IO.FS.writeFile path text
      return true
    catch _ =>
      return false

end Lineage

def main (args : List String) : IO UInt32 := do
  let outcome ← Lineage.Command.run Lineage.realFiles args
  IO.print outcome.stdout
  IO.eprint outcome.stderr
  return outcome.code.toUInt32
