import ObjectAssembly.Object

/-!
# Help — one line per option, descriptions in one column

A line starts with the head, `    --name label`, with `...` after the label of an option that
accumulates.  The descriptions stand two columns past the longest head of the list, counted in
characters; an option without description has its head as the whole line.
-/

namespace ObjectAssembly

namespace OptionInfo

/-- The head of the option's line. -/
def head (i : OptionInfo) : String :=
  "    --" ++ i.name ++ " " ++ i.typeLabel ++ (if i.collection then "..." else "")

/-- The option's line, descriptions starting two columns past `width`. -/
def line (width : Nat) (i : OptionInfo) : String :=
  if i.description.isEmpty then i.head
  else i.head ++ String.ofList (List.replicate (width - i.head.length) ' ') ++ "  " ++ i.description

end OptionInfo

/-- The length of the longest head. -/
def headWidth (infos : List OptionInfo) : Nat := (infos.map (·.head.length)).foldl max 0

/-- The lines of a list of options. -/
def helpLines (infos : List OptionInfo) : List String :=
  infos.map (·.line (headWidth infos))

/-- Texts as lines, each with its line end. -/
def unlines (lines : List String) : String := String.join (lines.map (· ++ "\n"))

/-- The help text of a list of options. -/
def optionHelp (infos : List OptionInfo) : String := unlines (helpLines infos)

end ObjectAssembly
