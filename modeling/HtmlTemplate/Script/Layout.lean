/-
This file lays out the statements of render functions as modules of JavaScript.
-/

import HtmlTemplate.Script.Statement
import HtmlTemplate.Text.Rewrite

namespace HtmlTemplate.Script

/-- The widest step of indentation, in spaces. -/
def widestIndent : Nat := 16

/-- The width of indentation is kept in a word of 32 bits. -/
def greatestWidth : Nat := 0xFFFFFFFF

/-- The spaces before a line at the given depth. -/
def indentation (options : Options) (depth : Nat) : String :=
  String.ofList (List.replicate (min (depth * min options.indent widestIndent) greatestWidth) ' ')

/-- A line of the module at the given depth. -/
def line (options : Options) (depth : Nat) (text : String) : String :=
  indentation options depth ++ text ++ "\n"

def Clause.write : Clause → String
  | .ifTrue condition => "if (" ++ condition ++ ") \x7b"
  | .elseIf condition => "\x7d else if (" ++ condition ++ ") \x7b"
  | .otherwise => "\x7d else \x7b"

mutual

/-- The lines of a statement at the given depth. -/
def write (options : Options) (depth : Nat) : Statement → String
  | .literal html => line options depth ("__html.push(" ++ Text.quoted html ++ ");")
  | .escaped expression => line options depth ("__html.push(__escape(" ++ expression ++ "));")
  | .loop iterator source block =>
      line options depth ("for (const " ++ iterator ++ " of " ++ source ++ ") \x7b") ++
        writeBlock options (depth + 1) block ++ line options depth "\x7d"
  | .conditional arms => writeArms options depth arms ++ line options depth "\x7d"
  | .marker directive =>
      line options depth ("/* litewing: stray '" ++ directive ++ "' branch skipped */")

def writeBlock (options : Options) (depth : Nat) : List Statement → String
  | [] => ""
  | statement :: rest => write options depth statement ++ writeBlock options depth rest

def writeArms (options : Options) (depth : Nat) : List (Arm Statement) → String
  | [] => ""
  | arm :: rest =>
      line options depth arm.clause.write ++ writeBlock options (depth + 1) arm.block ++
        writeArms options depth rest

end

/-- The import, the head of the function and the choice of the escaper. -/
def header (options : Options) (name : String) : String :=
  "import escape from " ++ Text.quoted options.escaperImport ++ ";\n\n" ++
  "export function " ++ name ++ "(data, escapeOverride) \x7b\n" ++
  line options 1 "const __html = [];" ++
  line options 1 "const __escape =" ++
  line options 2 "escapeOverride === undefined || escapeOverride === null" ++
  line options 3 "? escape" ++
  line options 3 ": escapeOverride === false" ++
  line options 4 "? (s) => s" ++
  line options 4 ": escapeOverride;"

def footer (options : Options) : String := line options 1 "return __html.join(\"\");" ++ "\x7d\n"

/-- The module with the render function of the given name and block. -/
def writeModule (options : Options) (name : String) (block : List Statement) : String :=
  header options name ++ writeBlock options 1 block ++ footer options

end HtmlTemplate.Script
