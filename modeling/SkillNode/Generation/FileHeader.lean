import SkillNode.Text.Blank

/-!
# Header of generated files

The comment at the top of every generated file: licence, generator, the name of
the behaviour description, and a notice.
-/

namespace SkillNode
namespace Generation

/-- The line that names the generator. -/
def generatorLine : Text := "Generated by SCXML Skill Code Generator"

/-- The lines of the header before they become comments. -/
def fileHeaderLines (sourceName : Text) : List Text :=
  let named : Text := if sourceName.isEmpty then "unknown.scxml" else sourceName
  ["SPDX-License-Identifier: MIT",
    "SPDX-FileCopyrightText: [Author of input SCXML file]",
    "",
    generatorLine,
    "From: " ++ named,
    "",
    "Do not edit: this file is overwritten on every generation run."]

/-- The header as comment lines, without blanks at their ends. -/
def fileHeader (sourceName comment : Text) : Text :=
  Text.join "\n"
    ((fileHeaderLines sourceName).map fun line => Text.trimEnd (comment ++ " " ++ line))

/-- The comment marker of the generated code. -/
def lineComment : Text := "//"

end Generation
end SkillNode
