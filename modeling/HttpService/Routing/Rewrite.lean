import HttpService.Files
import HttpService.Log
import HttpService.Routing.Template
import HttpService.Routing.Trie
import HttpService.Target

/-!
Contract: rewrite rules, which replace the path of a target once before routing.

Owns:
- the lines of a rule file, and what is wrong with a line;
- the table of rules, matched with the priorities of routes;
- applying the table to a target.

Does not own: where the rule file is configured.
-/

namespace HttpService.Routing

open Text

structure Destination where
  raw : String
  segments : List String
  query : Option String
deriving DecidableEq, Repr

namespace Destination

/-- The part of a target in front of its query, and the query. -/
def splitQuery (chars : List Char) : List Char × Option (List Char) :=
  match cut? '?' chars with
  | some (path, query) => (path, some query)
  | none => (chars, none)

def ofString (raw : String) : Destination :=
  let (path, query) := splitQuery raw.toList
  ⟨raw, (splitPath path).map String.ofList, query.map String.ofList⟩

/-- The path with captures filled in, segment by segment. -/
def path (destination : Destination) (params : List (String × String)) : List String :=
  destination.segments.map (fillTemplate params id)

/-- The raw query with captures filled in, escaped so that they stay text. -/
def rawQuery (destination : Destination) (params : List (String × String)) : Option String :=
  destination.query.map (fillTemplate params Percent.encode)

end Destination

/-- What is wrong with a line of a rule file. -/
inductive LineFault where
  | entryCount (found : Nat)
  | sourceWithQuery (source : String)
  | noLeadingSlash (path : String)
  | trailingSlash (path : String)
  | emptySegment (path : String)
  | malformedQuery (target : String)
  | invalidReference (target reference : String)
  | pattern (error : PatternError)
  | duplicateSource (source : String)
deriving DecidableEq, Repr

def LineFault.message : LineFault → String
  | entryCount found => "expected 2 entries, found " ++ toString found
  | sourceWithQuery source => "source " ++ source ++ " must not contain a query"
  | noLeadingSlash path => path ++ " must start with /"
  | trailingSlash path => path ++ " must not end with /"
  | emptySegment path => path ++ " contains an empty segment"
  | malformedQuery target => "malformed query in target " ++ target
  | invalidReference target reference =>
      "target " ++ target ++ " may only reference captures by name, found " ++ reference
  | pattern error => error.message
  | duplicateSource source => "duplicate rewrite source " ++ source

/-- Why a rule file is refused. Lines count from one. -/
inductive RewriteError where
  | invalidExtension (path : String)
  | unreadable (error : FileError)
  | line (number : Nat) (fault : LineFault)
deriving DecidableEq, Repr

def RewriteError.message : RewriteError → String
  | invalidExtension path =>
      "rewrite file " ++ Quoted.text path ++ " must have a .conf extension"
  | unreadable error => "failed to read rewrite file: " ++ error.message
  | line number fault => "line " ++ toString number ++ ": " ++ fault.message

inductive Line where
  /-- Nothing, or a comment only. -/
  | blank
  /-- A path sent to itself, which is no rule. -/
  | same (path : String)
  | rule (source target : String)
deriving DecidableEq, Repr

/-- Checks the path of a source or a target. -/
def checkPath (path : List Char) : Except LineFault Unit :=
  match path with
  | ['/'] => .ok ()
  | '/' :: inner =>
      if inner.getLast? = some '/' then .error (.trailingSlash (String.ofList path))
      else if [] ∈ inner.splitOn '/' then .error (.emptySegment (String.ofList path))
      else .ok ()
  | _ => .error (.noLeadingSlash (String.ofList path))

def checkQuery (target : List Char) (query : Option (List Char)) : Except LineFault Unit :=
  match query with
  | none => .ok ()
  | some query =>
      if '?' ∈ query ∨ '/' ∈ query then .error (.malformedQuery (String.ofList target)) else .ok ()

/-- Checks that a target refers to captures by their bare names. -/
def checkReferences (target : List Char) : Except LineFault Unit :=
  match firstInvalidReference? (String.ofList target) with
  | some reference => .error (.invalidReference (String.ofList target) reference)
  | none => .ok ()

/-- Checks a target: its path, then its query, then its references. -/
def checkTarget (target : List Char) : Except LineFault Unit :=
  match checkPath (Destination.splitQuery target).1 with
  | .error fault => .error fault
  | .ok () =>
      match checkQuery target (Destination.splitQuery target).2 with
      | .error fault => .error fault
      | .ok () => checkReferences target

def readRule (source target : List Char) : Except LineFault Line :=
  if '?' ∈ source then .error (.sourceWithQuery (String.ofList source))
  else
    match checkPath source with
    | .error fault => .error fault
    | .ok () =>
        match checkTarget target with
        | .error fault => .error fault
        | .ok () =>
            if source = target then .ok (.same (String.ofList source))
            else .ok (.rule (String.ofList source) (String.ofList target))

/-- Reads a line. A comment starts at the first `#`. -/
def readLine (line : List Char) : Except LineFault Line :=
  match trim (before '#' line) with
  | [] => .ok .blank
  | content =>
      match blankSeparated content with
      | [source, target] => readRule source target
      | entries => .error (.entryCount entries.length)

structure RewriteTable where
  rules : Trie Destination

namespace RewriteTable

def empty : RewriteTable := ⟨.empty⟩

instance : Inhabited RewriteTable := ⟨empty⟩

def size (table : RewriteTable) : Nat :=
  table.rules.size

def isEmpty (table : RewriteTable) : Bool :=
  table.rules.isEmpty

/-- Adds a rule; no two sources may have the same structure. -/
def addRule (table : RewriteTable) (source target : String) : Except LineFault RewriteTable :=
  match Pattern.ofRewrite source with
  | .error error => .error (.pattern error)
  | .ok pattern =>
      if table.rules.contains pattern then .error (.duplicateSource source)
      else .ok ⟨(table.rules.insert pattern (Destination.ofString target)).2⟩

def addLine (table : RewriteTable) (line : List Char) : Except LineFault RewriteTable :=
  match readLine line with
  | .error fault => .error fault
  | .ok .blank => .ok table
  | .ok (.same _) => .ok table
  | .ok (.rule source target) => table.addRule source target

/-- Adds lines in turn, the first one with the given number. -/
def addLines (table : RewriteTable) (number : Nat) :
    List (List Char) → Except RewriteError RewriteTable
  | [] => .ok table
  | line :: rest =>
      match table.addLine line with
      | .error fault => .error (.line number fault)
      | .ok table => addLines table (number + 1) rest

def lines (contents : String) : List (List Char) :=
  contents.toList.splitOn '\n'

def parse (contents : String) : Except RewriteError RewriteTable :=
  empty.addLines 1 (lines contents)

/-- The reports made while lines are read: paths sent to themselves are skipped. -/
def skipReports (table : RewriteTable) : List (List Char) → List LogRecord
  | [] => []
  | line :: rest =>
      let report := match readLine line with
        | .ok (.same path) => [⟨.debug, "Skipping rewrite from " ++ path ++ " to itself"⟩]
        | _ => []
      match table.addLine line with
      | .error _ => report
      | .ok table => report ++ skipReports table rest

/-- The reports of reading a rule file. -/
def parseReports (contents : String) : List LogRecord :=
  skipReports empty (lines contents)

/-- Loads a rule file, and reports on it. -/
def load (files : Files) (path : String) :
    Except RewriteError RewriteTable × List LogRecord :=
  if Files.extension? path ≠ some "conf" then (.error (.invalidExtension path), [])
  else
    match files.readText path with
    | .error error => (.error (.unreadable error), [])
    | .ok contents =>
        match parse contents with
        | .error error => (.error error, parseReports contents)
        | .ok table =>
            let loaded := "Loaded " ++ toString table.size ++ " URL rewrites from " ++ path
            (.ok table, parseReports contents ++ [⟨.info, loaded⟩])

/-- The outcome of applying a table. The target is changed even if the query of
the destination cannot be read. -/
structure Rewritten where
  target : Target
  result : Except RequestError Bool
  reports : List LogRecord

/-- Applies the rule that matches the path as it arrived. Parameters of the
destination's query are added to those of the target. -/
def rewrite (table : RewriteTable) (target : Target) : Rewritten :=
  if target.isAsterisk then ⟨target, .ok false, []⟩
  else
    match table.rules.find? target.edgePath with
    | none => ⟨target, .ok false, []⟩
    | some found =>
        let path := found.value.path found.params
        let moved := { target with rewrittenPath := some path }
        let reports :=
          [⟨.debug, "Rewriting " ++ target.edgePathText ++ " to " ++ Target.joinPath path⟩]
        match found.value.rawQuery found.params with
        | none => ⟨moved, .ok true, reports⟩
        | some raw =>
            match moved.query.extend raw with
            | .error error => ⟨moved, .error error, reports⟩
            | .ok query => ⟨{ moved with query := query }, .ok true, reports⟩

end RewriteTable

end HttpService.Routing
