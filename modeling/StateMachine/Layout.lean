namespace StateMachine

inductive Layout.Shape where
  | record
  | map
  | tuple
  deriving DecidableEq, Repr

/-- A tree of named groups, which can be laid out on one line or with every item of a group on a
line of its own. -/
inductive Layout where
  | text (content : String)
  | labelled (label body : Layout)
  | group (shape : Layout.Shape) (head : String) (items : List Layout)

namespace Layout

def fields (head : String) (fields : List (String × Layout)) : Layout :=
  group .record head (fields.map fun (label, body) => labelled (text label) body)

def option : Option Layout → Layout
  | none => text "None"
  | some item => group .tuple "Some" [item]

def truth (value : Bool) : Layout := text (if value then "true" else "false")

mutual

def inline : Layout → String
  | text content => content
  | labelled label body => s!"{label.inline}: {body.inline}"
  | group .record head [] => head
  | group .record head items =>
    head ++ " \x7b " ++ ", ".intercalate (inlineAll items) ++ " \x7d"
  | group .map _ items => "\x7b" ++ ", ".intercalate (inlineAll items) ++ "\x7d"
  | group .tuple head items => head ++ "(" ++ ", ".intercalate (inlineAll items) ++ ")"

def inlineAll : List Layout → List String
  | [] => []
  | item :: rest => item.inline :: inlineAll rest

end

def indent (content : String) : String :=
  let (indented, _) := content.toList.foldl (fun (done, start) c =>
    ((if start then done.append "    " else done).push c, c == '\n')) ("", true)
  indented

mutual

def spread : Layout → String
  | text content => content
  | labelled label body => s!"{label.spread}: {body.spread}"
  | group .record head [] => head
  | group .map _ [] => "\x7b\x7d"
  | group .tuple head [] => head ++ "()"
  | group .record head items => head ++ " \x7b\n" ++ spreadAll items ++ "\x7d"
  | group .map _ items => "\x7b\n" ++ spreadAll items ++ "\x7d"
  | group .tuple head items => head ++ "(\n" ++ spreadAll items ++ ")"

def spreadAll : List Layout → String
  | [] => ""
  | item :: rest => indent (item.spread ++ ",\n") ++ spreadAll rest

end

end Layout

end StateMachine
