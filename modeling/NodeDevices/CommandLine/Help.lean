import NodeDevices.CommandLine.Option
/-! The help of a command: what it is for, how it is used, and its parts with what they mean.
The meanings stand in a column beside the parts, or below them where the column gets narrow.
-/

namespace NodeDevices.CommandLine

/-- A part of a command: how it is written, and what it means. -/
structure HelpEntry where
  form : String
  meaning : String
  deriving DecidableEq, Repr

/-- Parts of a command under a heading. -/
structure HelpSection where
  heading : String
  entries : List HelpEntry
  deriving DecidableEq, Repr

/-- What the help of a command tells. -/
structure Help where
  about : String := ""
  usage : String
  sections : List HelpSection
  deriving DecidableEq, Repr

/-- The name that stands for the value of an option. -/
def Spec.valueName (spec : Spec) : String :=
  spec.name.map fun c => if c = '-' then '_' else c.toUpper

/-- The option as it is written in a command line. -/
def Spec.form (spec : Spec) : String :=
  match spec.kind with
  | some _ => "--" ++ spec.name ++ " <" ++ spec.valueName ++ ">"
  | none => "--" ++ spec.name

/-- What an option means, and where its value comes from. -/
def Spec.entry (environment : List (String × String)) (spec : Spec) : HelpEntry where
  form := "    " ++ spec.form
  meaning := String.intercalate " " ([spec.help]
    ++ (spec.variableName.map fun name =>
      "[env: " ++ name ++ "=" ++ (environment.lookup name).getD "" ++ "]").toList
    ++ (spec.fallback.map fun text => "[default: " ++ text ++ "]").toList
    ++ (if spec.kind = some .truth then ["[possible values: true, false]"] else []))

namespace HelpEntry

/-- The option that asks for help. -/
def help : HelpEntry := ⟨"-h, --help", "Print help"⟩

/-- The option that asks for the version. -/
def version : HelpEntry := ⟨"-V, --version", "Print version"⟩

end HelpEntry

namespace HelpSection

/-- The columns of a help text. -/
def columns : Nat := 100

/-- The columns that a part of a command takes besides its form. -/
def margin : Nat := 12

/-- The length of the longest form. -/
def longest (part : HelpSection) : Nat :=
  (part.entries.map (·.form.length)).foldl max 2

/-- Says whether the meanings stand below: their column has less than three fifths of the
width, and one of them is too long for it.
-/
def isNarrow (part : HelpSection) : Bool :=
  let taken := part.longest + margin
  taken ≤ columns && 2 * columns < 5 * taken
    && part.entries.any fun entry => columns - taken < entry.meaning.length

/-- The lines of a section. -/
def lines (part : HelpSection) : List String :=
  (part.heading ++ ":") :: part.entries.flatMap fun entry =>
    if part.isNarrow then ["  " ++ entry.form, "          " ++ entry.meaning]
    else
      let gap := String.ofList (List.replicate (part.longest - entry.form.length + 2) ' ')
      ["  " ++ entry.form ++ gap ++ entry.meaning]

end HelpSection

/-- The text of a help. -/
def Help.render (help : Help) : String :=
  let about := if help.about = "" then [] else [help.about, ""]
  String.intercalate "\n" (about ++ ["Usage: " ++ help.usage]
    ++ help.sections.flatMap fun part => "" :: part.lines) ++ "\n"

end NodeDevices.CommandLine
