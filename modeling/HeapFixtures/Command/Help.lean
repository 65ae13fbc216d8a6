/-
# Help

Two columns, the options and their purposes, two blanks past the longest option.
-/

import HeapFixtures.Command.Looks
import HeapFixtures.Command.Program

namespace HeapFixtures
namespace Command

structure Row where
  label : String
  written : String
  description : String

def Choice.description (choice : Choice) : String :=
  match choice.absent with
  | some value => choice.purpose ++ " [default: " ++ value ++ "]"
  | none => choice.purpose

/-- A long name with what follows it, as a line shows it that is to be typed. -/
def Topic.written (topic : Topic) : String :=
  Looks.literal.on topic.typed ++ topic.placeholder

/-- The row of an option.  Options without a short name stand where those with one have
their long name. -/
def Choice.row (choice : Choice) : Row :=
  let key := choice.key
  ⟨"      " ++ key.shown, "      " ++ (Topic.option key).written, choice.description⟩

/-- The row of a request that has a short name and a long one. -/
def Row.ofNames (short long description : String) : Row :=
  ⟨"  " ++ short ++ ", " ++ long,
    "  " ++ Looks.literal.on short ++ ", " ++ Looks.literal.on long, description⟩

def Program.rows (program : Program) : List Row :=
  program.choices.map Choice.row ++
    [.ofNames "-h" "--help" "Print help", .ofNames "-V" "--version" "Print version"]

/-- A row whose right column begins at a width. -/
def Row.line (width : Nat) (row : Row) : String :=
  let gap := List.replicate (width - row.label.length) ' '
  row.written ++ String.ofList gap ++ row.description

def Topic.bracketed (topic : Topic) : String := "<" ++ topic.shown ++ ">"

/-- How a program is called, with all its options or with some of them and some groups. -/
def Program.usage (program : Program) (topics groups : List Topic) : String :=
  let named := topics.map Topic.written ++ groups.map Topic.bracketed
  let options := if named = [] then ["[OPTIONS]"] else named
  " ".intercalate (Looks.heading.on "Usage:" :: Looks.literal.on program.name :: options)

def Program.help (program : Program) : String :=
  let rows := program.rows
  let width := (rows.map fun row => row.label.length).foldl max 0 + 2
  let lines := [program.about, "", program.usage [] [], "", Looks.heading.on "Options:"] ++
    rows.map (Row.line width)
  String.join (lines.map (· ++ "\n"))

def Program.version (program : Program) : String := program.name ++ " 0.0.0\n"

end Command
end HeapFixtures
