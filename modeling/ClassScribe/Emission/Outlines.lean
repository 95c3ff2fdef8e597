import ClassScribe.Template.Composition
import ClassScribe.Template.Outline

/-! # Outlines of the shipped templates

What the shipped templates say, line by line of the class that they make: each group of nodes below
stands for one piece of a class. -/

namespace ClassScribe.Shipped
open ClassScribe.Template (Node Resolved)

/-- A field of a loop item. -/
def field (item name : String) : Expr := .attr (.var item) name

/-- A text between braces, as type comments show it. -/
def braced (e : Expr) : Expr := .filter (.literal (.text "\x7b%s\x7d")) "format" [e]

/-! ### The frame -/

/-- The line of an import, with a blank line behind the last one. -/
def importRound : List Node :=
  [.text "import \x7b ", .output (field "i" "what"), .text " \x7d from '",
    .output (field "i" "wherefrom"), .text "';\n",
    .choice [(field "loop" "last", [.text "\n"])] []]

/-- A line for every import. -/
def importNodes : List Node := [.loop "i" (.var "imports") importRound]

/-- The line that opens the class. -/
def classNodes : List Node :=
  [.text "class ", .output (.var "name"),
    .choice [(.var "extends", [.text " extends ", .output (.var "extends")])] [], .text " \x7b\n"]

/-- The line that exports the class. -/
def exportNodes : List Node := [.text "\nexport \x7b ", .output (.var "name"), .text " \x7d;\n"]

/-- The frame of every class. -/
def baseNodes : List Node :=
  .text "/* Generated by classgen. Do not edit. */\n\n" :: importNodes ++
    .block "typedef" false [] :: classNodes ++
    [.block "body" true [], .text "\x7d\n", .block "properties" false []] ++ exportNodes

/-! ### Structures and functions -/

/-- The comment of a class that has a description. -/
def descriptionNodes : List Node :=
  [.choice [(.var "description",
    [.text "/**\n * ", .output (.var "description"), .text "\n */\n"])] []]

/-- A hand-written script. -/
def scriptRound : List Node :=
  [.text "\n",
    .output (.filter (.filter (.var "s") "dedent" []) "indent"
      [.literal (.number (.int 4)), .literal (.bool true)]),
    .text "\n"]

/-- The column that the further lines of an argument's description start in. -/
def widthExpr : Expr :=
  .binary .add
    (.binary .add (.filter (field "e" "type") "length" [])
      (.filter (field "e" "param_name") "length" []))
    (.literal (.number (.int 12)))

/-- The type and the name of an argument. -/
def argumentExpr : Expr :=
  .filter (.literal (.text "\x7b%s\x7d %s")) "format" [field "e" "type", field "e" "param_name"]

/-- A comment line on an argument. -/
def argumentRound : List Node :=
  [.choice [(field "loop" "first",
      [.text "     * @param ", .output argumentExpr, .text "  ", .output (.var "d"), .text "\n"])]
    [.text "     * ", .output (.filter (.var "d") "indent" [.var "width", .literal (.bool true)]),
      .text "\n"]]

/-- The comment lines on an argument. -/
def argumentNodes : List Node :=
  [.loop "d" (field "e" "description") argumentRound,
    .choice [(.not (field "e" "description"),
      [.text "     * @param ", .output argumentExpr, .text "\n"])] []]

/-- The head of a setter, with the end of its comment. -/
def setterNodes : List Node :=
  [.text "     * @return ", .output (braced (.var "name")), .text "\n     */\n    set",
    .output (field "e" "method_title"), .text " (", .output (field "e" "param_name"),
    .text ") \x7b\n"]

/-- The check of a setter. -/
def checkNodes : List Node :=
  [.choice [(field "e" "validate_type",
    [.text "        this.validateType(", .output (field "e" "validate_type"), .text ", ",
      .output (field "e" "param_name"), .text ");\n"])] []]

/-- What a setter stores under its key, and the end of the call. -/
def storedNodes : List Node :=
  [.output (.var "name"), .text ".KEY_", .output (field "e" "key"), .text ", ",
    .output (field "e" "param_name"), .text ");\n"]

/-- The storing of a setter. -/
def storeNodes : List Node :=
  [.choice [(field "e" "object_keyed", .text "        this.setValue(" :: storedNodes)]
    (.text "        this.setParameter(" :: storedNodes)]

/-- The end of a setter, and the head of the getter with its comment. -/
def getterNodes : List Node :=
  [.text "        return this;\n    \x7d\n\n    /**\n     * @return ",
    .output (braced (field "e" "type")), .text "\n     */\n    get",
    .output (field "e" "method_title"), .text " () \x7b\n"]

/-- The key that a getter reads, and the end of the call. -/
def keyNodes : List Node :=
  [.output (.var "name"), .text ".KEY_", .output (field "e" "key"), .text ");\n"]

/-- The reading of a getter, with its end. -/
def readNodes : List Node :=
  [.choice [(field "e" "read_type",
      .text "        return this.getObject(" :: .output (field "e" "read_type") :: .text ", " ::
        keyNodes)]
    (.text "        return this.getParameter(" :: keyNodes),
    .text "    \x7d\n"]

/-- A setter and a getter, where the column is known. -/
def pairNodes : List Node :=
  .text "\n    /**\n" :: (argumentNodes ++ (setterNodes ++ (checkNodes ++ (storeNodes ++
    (getterNodes ++ readNodes)))))

/-- A setter and a getter. -/
def methodNodes : List Node := .assign "width" widthExpr :: pairNodes

/-- What stands between the constructor of a structure or function and the end of the class. -/
def memberNodes : List Node :=
  [.loop "s" (.var "scripts") scriptRound, .loop "e" (.var "methods") methodNodes]

/-- The line of a parameter constant. -/
def constantRound : List Node :=
  [.output (.var "name"), .text ".KEY_", .output (field "p" "key"), .text " = ",
    .output (field "p" "value"), .text ";\n"]

/-- The lines of the parameter constants. -/
def constantNodes : List Node :=
  [.choice [(.var "params", [.text "\n", .loop "p" (.var "params") constantRound])] []]

/-- The comment line on a constructor. -/
def constructorComment : String := "    /**\n     * @constructor\n     */\n"

/-- The body of structures and functions. -/
def accessorsBody : List Node :=
  .text constructorComment :: .block "constructor" true [] :: memberNodes

/-- The layout of structures and functions. -/
def accessorsNodes : List Node :=
  [.block "typedef" false descriptionNodes, .text "\n", .block "body" false accessorsBody,
    .text "\n", .block "properties" false constantNodes]

/-- The constructor of a structure. -/
def structConstructor : List Node :=
  [.text "    constructor (parameters) \x7b\n        super(parameters);\n    \x7d\n"]

/-- The constructor of a function message. -/
def functionConstructor : List Node :=
  [.text "    constructor (store) \x7b\n        super(store);\n        this.setFunctionName(FunctionID.",
    .output (.var "func"), .text ");\n    \x7d\n"]

/-- The template of structures. -/
def structNodes : List Node := [.block "constructor" false structConstructor]

/-- The template of functions. -/
def functionNodes : List Node := [.block "constructor" false functionConstructor]

/-! ### Enumerations -/

/-- The comment of an enumeration. -/
def typedefNodes : List Node :=
  [.text "/**\n",
    .choice [(.var "description", [.text " * ", .output (.var "description"), .text "\n"])] [],
    .text " * @typedef ", .output (braced (.var "extends")), .text " ", .output (.var "name"),
    .text "\n * @property \x7bObject\x7d _MAP\n */\n"]

/-- The getter of an entry. -/
def entryNodes : List Node :=
  [.text "\n    /**\n",
    .loop "d" (field "p" "description") [.text "     * ", .output (.var "d"), .text "\n"],
    .text "     * @return ", .output (braced (field "p" "type")), .text "\n     */\n    static get ",
    .output (field "p" "key"), .text " () \x7b\n        return ", .output (.var "name"),
    .text "._MAP.", .output (field "p" "key"), .text ";\n    \x7d\n"]

/-- The comment on the lookup by text, and its loop over the keys. -/
def lookupNodes : List Node :=
  [.text ("\n    /**\n     * Get the key whose value matches, in declaration order\n" ++
      "     * @param \x7bString\x7d value\n" ++
      "     * @return \x7bnull|String\x7d - Returns null if no enum value matches\n     */\n" ++
      "    static valueForString (value) \x7b\n        for (const key in "),
    .output (.var "name"), .text "._MAP) \x7b\n            if (String(", .output (.var "name"),
    .text ("._MAP[key]) === value) \x7b\n                return key;\n            \x7d\n" ++
      "        \x7d\n        return null;\n    \x7d\n")]

/-- The line of an entry of the map. -/
def mapRound : List Node :=
  [.text "    '", .output (field "p" "key"), .text "': ", .output (field "p" "value"), .text ",\n"]

/-- The map from keys to values. -/
def mapNodes : List Node :=
  [.text "\n", .output (.var "name"), .text "._MAP = Object.freeze(\x7b\n",
    .loop "p" (.var "params") mapRound, .text "\x7d);\n"]

/-- The constructor of an enumeration. -/
def enumConstructor : String := "    constructor () \x7b\n        super();\n    \x7d\n"

/-- The body of enumerations. -/
def enumerationBody : List Node :=
  .text (constructorComment ++ enumConstructor) :: .loop "p" (.var "params") entryNodes :: lookupNodes

/-- The template of enumerations. -/
def enumerationNodes : List Node :=
  [.block "typedef" false typedefNodes, .text "\n", .block "body" false enumerationBody, .text "\n",
    .block "properties" false mapNodes]

/-! ### Templates -/

/-- The shipped templates in the order of their names. -/
def templates : List Template :=
  [Template.ofOutline "base_struct_function" (some "base_template") accessorsNodes,
    Template.ofOutline "base_template" none baseNodes,
    Template.ofOutline "enum_template" (some "base_template") enumerationNodes,
    Template.ofOutline "function_template" (some "base_struct_function") functionNodes,
    Template.ofOutline "struct_template" (some "base_struct_function") structNodes]

/-- The composed template of structures and functions: its last layer has the constructor. -/
def composedAccessors (leaf : String) (constructor : List Node) : Resolved :=
  ⟨⟨"base_template", ["base_struct_function", leaf]⟩, Node.elements baseNodes,
    [⟨"typedef", "base_struct_function", Node.elements descriptionNodes⟩,
      ⟨"body", "base_struct_function", Node.elements accessorsBody⟩,
      ⟨"properties", "base_struct_function", Node.elements constantNodes⟩,
      ⟨"constructor", leaf, Node.elements constructor⟩]⟩

/-- The composed template of enumerations. -/
def composedEnumeration : Resolved :=
  ⟨⟨"base_template", ["enum_template"]⟩, Node.elements baseNodes,
    [⟨"typedef", "enum_template", Node.elements typedefNodes⟩,
      ⟨"body", "enum_template", Node.elements enumerationBody⟩,
      ⟨"properties", "enum_template", Node.elements mapNodes⟩]⟩

end ClassScribe.Shipped
