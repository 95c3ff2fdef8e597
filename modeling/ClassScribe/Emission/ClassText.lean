import ClassScribe.Emission.Context
import ClassScribe.Schema.EnumTable

/-! # Texts of classes

The text of a class from its specification alone: what stands in it, line by line, with no template
between the two. -/

namespace ClassScribe.ClassText

/-! ### All classes -/

/-- The comment that every text starts with. -/
def header : String := "/* Generated by classgen. Do not edit. */\n\n"

/-- The line of an import. -/
def importLine (i : Import) : String :=
  "import \x7b " ++ i.what ++ " \x7d from '" ++ i.wherefrom ++ "';\n"

/-- The imports, with a blank line behind them if there are any. -/
def imports (is : List Import) : String :=
  String.join (is.map importLine) ++ if is.isEmpty then "" else "\n"

/-- The line that opens a class. -/
def classLine (s : ClassSpec) : String :=
  "class " ++ s.name ++ (if s.parent.isEmpty then "" else " extends " ++ s.parent) ++ " \x7b\n"

/-- The constructor of a kind. -/
def constructor (s : ClassSpec) : String :=
  match s.kind with
  | .struct => "    constructor (parameters) \x7b\n        super(parameters);\n    \x7d\n"
  | .enum => "    constructor () \x7b\n        super();\n    \x7d\n"
  | .function =>
    "    constructor (store) \x7b\n        super(store);\n" ++
      "        this.setFunctionName(FunctionID." ++ Context.functionName s ++ ");\n    \x7d\n"

/-- The constructor with its comment. -/
def constructorLines (s : ClassSpec) : String :=
  "    /**\n     * @constructor\n     */\n" ++ constructor s

/-- The line that exports a class, below a blank line. -/
def exportLine (s : ClassSpec) : String := "\nexport \x7b " ++ s.name ++ " \x7d;\n"

/-- A type in a comment. -/
def braced (type : String) : String := "\x7b" ++ type ++ "\x7d"

/-- A text with every line that is not blank moved to the right. -/
def indented (width : Nat) (text : String) : String :=
  String.ofList (Text.indent (List.replicate width ' ') true text.toList)

/-! ### Structures and functions -/

/-- The comment on a class that has a description. -/
def description (s : ClassSpec) : String :=
  if s.description.isEmpty then "" else "/**\n * " ++ s.description ++ "\n */\n"

/-- A script below a blank line, with its margin moved into the class. -/
def script (code : String) : String :=
  "\n" ++ indented 4 (String.ofList (Text.dedent code.toList)) ++ "\n"

/-- The column of the further comment lines on an argument. -/
def column (m : Method) : Nat := m.type.tag.length + m.argument.length + 12

/-- The comment lines on an argument. -/
def argumentLines (m : Method) : String :=
  let argument := braced m.type.tag ++ " " ++ m.argument
  match m.description with
  | [] => "     * @param " ++ argument ++ "\n"
  | line :: more =>
    "     * @param " ++ argument ++ "  " ++ line ++ "\n" ++
      String.join (more.map fun line => "     * " ++ indented (column m) line ++ "\n")

/-- The check of a setter, if it has one. -/
def check (m : Method) (plan : AccessorPlan) : String :=
  match plan.validate with
  | some type => "        this.validateType(" ++ type ++ ", " ++ m.argument ++ ");\n"
  | none => ""

/-- The call that stores an argument as a value: an object, or a parameter. -/
def storage : Storage → String
  | .object => "        this.setValue("
  | .parameter => "        this.setParameter("

/-- The setter of a method in a class of a name. -/
def setter (name : String) (m : Method) (plan : AccessorPlan) : String :=
  "    set" ++ m.title ++ " (" ++ m.argument ++ ") \x7b\n" ++ check m plan ++
    storage plan.storage ++ name ++ ".KEY_" ++ m.key ++ ", " ++ m.argument ++ ");\n" ++
    "        return this;\n    \x7d\n"

/-- The call that reads a value: an object of a foreign type, or a parameter. -/
def reading : Read → String
  | .object foreign => "        return this.getObject(" ++ foreign ++ ", "
  | .parameter => "        return this.getParameter("

@[simp] theorem reading_object (foreign : String) :
    reading (.object foreign) = "        return this.getObject(" ++ foreign ++ ", " := rfl

/-- The getter of a method in a class of a name. -/
def getter (name : String) (m : Method) (plan : AccessorPlan) : String :=
  "    get" ++ m.title ++ " () \x7b\n" ++ reading plan.read ++ name ++ ".KEY_" ++ m.key ++
    ");\n    \x7d\n"

/-- The setter and the getter of a method, each below a blank line and its comment. -/
def method (name : String) (m : Method) (plan : AccessorPlan) : String :=
  "\n    /**\n" ++ argumentLines m ++ "     * @return " ++ braced name ++ "\n     */\n" ++
    setter name m plan ++
    "\n    /**\n     * @return " ++ braced m.type.tag ++ "\n     */\n" ++ getter name m plan

/-- The lines of the parameter constants, below a blank line if there are any. -/
def constants (s : ClassSpec) : String :=
  if s.params.isEmpty then ""
  else
    "\n" ++ String.join (s.params.map fun p =>
      s.name ++ ".KEY_" ++ p.key ++ " = " ++ p.value.literal ++ ";\n")

/-- The text of a structure or a function, with the decisions on its methods. -/
def accessors (s : ClassSpec) (plans : List AccessorPlan) : String :=
  header ++ imports s.imports ++ description s ++ classLine s ++ constructorLines s ++
    String.join (s.scripts.map script) ++
    String.join (List.zipWith (method s.name) s.methods plans) ++
    "\x7d\n" ++ constants s ++ exportLine s

/-! ### Enumerations -/

/-- The comment on an enumeration. -/
def typedef (s : ClassSpec) : String :=
  "/**\n" ++ (if s.description.isEmpty then "" else " * " ++ s.description ++ "\n") ++
    " * @typedef " ++ braced s.parent ++ " " ++ s.name ++ "\n * @property \x7bObject\x7d _MAP\n */\n"

/-- The getter of an entry. -/
structure EntryGetter where
  key : String
  type : String
  comment : List String

/-- The text of a getter in a class of a name. -/
def EntryGetter.text (name : String) (g : EntryGetter) : String :=
  "\n    /**\n" ++ String.join (g.comment.map fun line => "     * " ++ line ++ "\n") ++
    "     * @return " ++ braced g.type ++ "\n     */\n    static get " ++ g.key ++
    " () \x7b\n        return " ++ name ++ "._MAP." ++ g.key ++ ";\n    \x7d\n"

/-- The getters of parameter constants. -/
def getters (params : List Param) : List EntryGetter :=
  params.map fun p => ⟨p.key, p.value.tag, p.description⟩

/-- An entry of the map. -/
structure MapEntry where
  key : String
  literal : String

/-- The line of an entry. -/
def MapEntry.text (e : MapEntry) : String := "    '" ++ e.key ++ "': " ++ e.literal ++ ",\n"

/-- The entries of parameter constants. -/
def entries (params : List Param) : List MapEntry := params.map fun p => ⟨p.key, p.value.literal⟩

/-- The lookup of a key by the text of its value, below a blank line and its comment. -/
def valueForString (name : String) : String :=
  "\n    /**\n     * Get the key whose value matches, in declaration order\n" ++
    "     * @param \x7bString\x7d value\n" ++
    "     * @return \x7bnull|String\x7d - Returns null if no enum value matches\n     */\n" ++
    "    static valueForString (value) \x7b\n" ++
    "        for (const key in " ++ name ++ "._MAP) \x7b\n" ++
    "            if (String(" ++ name ++ "._MAP[key]) === value) \x7b\n" ++
    "                return key;\n            \x7d\n        \x7d\n        return null;\n    \x7d\n"

/-- The map of an enumeration, below a blank line. -/
def map (s : ClassSpec) : String :=
  "\n" ++ s.name ++ "._MAP = Object.freeze(\x7b\n" ++
    String.join ((entries s.params).map MapEntry.text) ++ "\x7d);\n"

/-- The text of an enumeration. -/
def enumeration (s : ClassSpec) : String :=
  header ++ imports s.imports ++ typedef s ++ classLine s ++ constructorLines s ++
    String.join ((getters s.params).map (EntryGetter.text s.name)) ++ valueForString s.name ++
    "\x7d\n" ++ map s ++ exportLine s

end ClassScribe.ClassText
