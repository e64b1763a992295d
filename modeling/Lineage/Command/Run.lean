import Lineage.Command.Line
import Lineage.Command.Report
import Lineage.Inspection.Load
import Lineage.Analysis.Exclusion

/-! # Running a command line

    A run reads the catalog, answers, and may write one file.  It works over
    any `Files`, so what it does is a function of the files it is given. -/

namespace Lineage.Command

/-- What a run leaves behind, beside a file. -/
structure Outcome where
  code : Nat
  stdout : String := ""
  stderr : String := ""
  deriving DecidableEq, Repr

/-- The outcome of arguments that cannot be read. -/
def usageOutcome : Outcome := { code := 2, stderr := "error: unusable arguments\n" }

/-- What is printed for the version. -/
def versionText : String := "tvtool 0.1.0\n"

/-- What is printed for help. -/
def helpText : String :=
  linesText [
    "Usage: tvtool [OPTIONS] <FACTS> <COMMAND>",
    "",
    "Commands:",
    "  summary  Print node and edge counts per module",
    "  search   Find types whose id contains a pattern (case-insensitive)",
    "  dot      Render the neighborhood of one type as DOT",
    "  graph    Render the whole relationship graph as DOT",
    "  export   Print the neighborhood document of one type as JSON"]

/-- The outcome of trouble, after some output. -/
def failed (stdout : String) (t : Trouble) : Outcome :=
  { code := 1, stdout, stderr := troubleText t }

/-- The options of an analysis; the pattern for namespaces to leave out may be
    no pattern. -/
def Invocation.options (inv : Invocation) : Except Trouble Options := do
  let exclude? ← match inv.exclude? with
    | none => pure none
    | some pattern =>
        match Exclusion.ofPattern? pattern with
        | some e => pure (some e)
        | none => throw (.during "Invalid --exclude pattern" .badPattern)
  let base : Options := {}
  return { base with
    ignoreStd := inv.ignoreStd
    stdNamespace := inv.stdNamespace?.getD base.stdNamespace
    exclude? }

variable {m : Type → Type} [Monad m]

/-- Does what a command asks for. -/
def Action.run (files : Files m) (i : Inspection) : Action → m Outcome
  | summary => return { code := 0, stdout := summaryText i.summary }
  | search pattern limit? =>
      return match i.search pattern limit? with
        | .ok r => { code := 0, stdout := searchHeading pattern ++ searchText limit? r }
        | .error f => failed (searchHeading pattern) (.failed f)
  | draw request none =>
      return match (i.render request).verdict with
        | .ok r => { code := 0, stdout := r.dot }
        | .error t => failed "" t
  | draw request (some path) => do
      return match (← i.renderToFile files request path).verdict with
        | .ok count => { code := 0, stderr := writtenText count path }
        | .error t => failed "" t
  | exportDocument id clusterByNamespace =>
      return match (i.document id clusterByNamespace).verdict with
        | .ok d => { code := 0, stdout := Json.Form.documentExport.pretty d.exported ++ "\n" }
        | .error t => failed "" t

/-- Does what a command line asks for. -/
def Invocation.run (files : Files m) (inv : Invocation) : m Outcome := do
  match inv.options with
  | .error t => return failed "" t
  | .ok o =>
      match (← Inspection.load files o inv.facts).verdict with
      | .error t => return failed "" t
      | .ok i => inv.action.run files i

/-- Runs the program on its arguments. -/
def run (files : Files m) (args : List String) : m Outcome :=
  match readLine args with
  | none => return usageOutcome
  | some .version => return { code := 0, stdout := versionText }
  | some .help => return { code := 0, stdout := helpText }
  | some (.done inv) => inv.run files

end Lineage.Command
