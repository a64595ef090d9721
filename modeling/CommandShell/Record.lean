import CommandShell.Pipeline
import CommandShell.Text.Quoted

/-!
# Values as records

A tree or a pipeline on one line, for reports: a value is the name of its kind and its fields
between parentheses, texts are quoted, and a row with one member ends in a comma.
-/
namespace CommandShell
open Text

namespace Record

/-- A value of a kind, with its fields in order. -/
def fields (kind : String) (entries : List (String × String)) : String :=
  kind ++ "(" ++ String.intercalate ", " (entries.map fun e => e.1 ++ "=" ++ e.2) ++ ")"

def row : List String → String
  | [] => "()"
  | [x] => "(" ++ x ++ ",)"
  | xs => "(" ++ String.intercalate ", " xs ++ ")"

def list (xs : List String) : String := "[" ++ String.intercalate ", " xs ++ "]"

end Record

def Redirect.record (op : Redirect) : String :=
  "<RedirectionOp." ++ op.label ++ ": " ++ quoted op.symbol ++ ">"

def Path.record (p : Path) : String := "PosixPath(" ++ quoted p.text ++ ")"

def Clause.record (c : Clause) : String :=
  Record.fields "Redirection"
    [("op", c.op.record), ("targets", Record.row (c.targets.map Path.record))]

def Stage.record (s : Stage) : String :=
  Record.fields "CommandStage"
    [("command", quoted s.command), ("args", quotedAll s.args),
      ("redirection", (s.clause.map Clause.record).getD "None")]

def Pipeline.record (p : Pipeline) : String :=
  Record.fields "Pipeline" [("stages", Record.list (p.stages.map Stage.record))]

/-- The pipe of a pipe expression is written last. -/
def Node.record (node : Node) : String :=
  match node with
  | command name => Record.fields "Command" [("name", quoted name)]
  | file name => Record.fields "File" [("name", quoted name)]
  | pipe => "Pipe()"
  | redirect op => Record.fields "RedirectionOpNode" [("op", op.record)]
  | commandExpr c files =>
    Record.fields "CommandExpr"
      [("command", c.record), ("files", Record.row (files.map record))]
  | redirectExpr op first rest =>
    Record.fields "RedirectionExpr"
      [("op", op.record), ("files", Record.row (first.record :: rest.map record))]
  | pipeExpr p c none =>
    Record.fields "PipeExpr" [("command_expr", c.record), ("tail", "None"), ("pipe", p.record)]
  | pipeExpr p c (some t) =>
    Record.fields "PipeExpr" [("command_expr", c.record), ("tail", t.record), ("pipe", p.record)]
  | expr c none => Record.fields "Expr" [("command_expr", c.record), ("tail", "None")]
  | expr c (some t) => Record.fields "Expr" [("command_expr", c.record), ("tail", t.record)]

end CommandShell
