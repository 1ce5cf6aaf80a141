/-!
# Outlines

An outline is the text of a value with its structure: an atom, a value wrapped
in a name, or a record.  It is laid out on one line, or with every field on a
line of its own.
-/

namespace OpenAddressing

mutual

/-- The structure of a text. -/
inductive Outline where
  /-- A text without structure. -/
  | atom (text : String)
  /-- A name with one value in parentheses. -/
  | wrapped (name : String) (value : Outline)
  /-- A name with fields in braces. -/
  | record (name : String) (fields : Outline.Fields)

/-- The fields of a record. -/
inductive Outline.Fields where
  /-- All fields have been listed. -/
  | done
  /-- There are more fields, which are not listed. -/
  | andMore
  /-- A field and those after it. -/
  | field (name : String) (value : Outline) (rest : Outline.Fields)

end

namespace Outline

mutual

/-- The layout on one line. -/
def line : Outline → String
  | atom text => text
  | wrapped name value => name ++ "(" ++ line value ++ ")"
  | record name fields => name ++ " \x7b " ++ lineFields fields ++ "\x7d"

/-- The fields of a record on one line, each followed by a blank. -/
def lineFields : Fields → String
  | .done => ""
  | .andMore => ".. "
  | .field name value .done => name ++ ": " ++ line value ++ " "
  | .field name value rest => name ++ ": " ++ line value ++ ", " ++ lineFields rest

end

/-- Moves lines one level to the right. -/
def indent (lines : List String) : List String :=
  lines.map ("    " ++ ·)

/-- Writes a text before the first line. -/
def lead (text : String) : List String → List String
  | [] => [text]
  | first :: rest => (text ++ first) :: rest

/-- Writes a comma after the last line. -/
def trail : List String → List String
  | [] => []
  | [last] => [last ++ ","]
  | first :: rest => first :: trail rest

mutual

/-- The layout with every field on a line of its own. -/
def lines : Outline → List String
  | atom text => [text]
  | wrapped name value => [name ++ "("] ++ indent (trail (lines value)) ++ [")"]
  | record name fields => [name ++ " \x7b"] ++ indent (fieldLines fields) ++ ["\x7d"]

/-- The lines of the fields of a record. -/
def fieldLines : Fields → List String
  | .done => []
  | .andMore => [".."]
  | .field name value rest =>
    trail (lead (name ++ ": ") (lines value)) ++ fieldLines rest

end

/-- The layout with every field on a line of its own, as one text. -/
def page (outline : Outline) : String :=
  String.intercalate "\n" outline.lines

end Outline
end OpenAddressing
