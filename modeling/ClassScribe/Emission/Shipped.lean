import ClassScribe.Template.Library

/-! # Shipped templates

The templates that a class is generated from unless others are given: a frame, the layouts of the
kinds of classes on top of it, and the constructors. Each is a list of lines; a brace is written by
its code. -/

namespace ClassScribe.Shipped

/-- The frame of every class: comment, imports, class, properties and export. -/
def base : List String :=
  ["/* Generated by classgen. Do not edit. */",
   "",
   "\x7b% for i in imports %\x7d",
   "import \x7b \x7b\x7b i.what \x7d\x7d \x7d from '\x7b\x7b i.wherefrom \x7d\x7d';",
   "\x7b% if loop.last %\x7d",
   "",
   "\x7b% endif %\x7d",
   "\x7b% endfor %\x7d",
   "\x7b% block typedef %\x7d\x7b% endblock %\x7d",
   "class \x7b\x7b name \x7d\x7d\x7b% if extends %\x7d extends \x7b\x7b extends \x7d\x7d\x7b% endif %\x7d \x7b",
   "\x7b% block body required %\x7d\x7b% endblock %\x7d",
   "\x7d",
   "\x7b% block properties %\x7d\x7b% endblock %\x7d",
   "",
   "export \x7b \x7b\x7b name \x7d\x7d \x7d;"]

/-- The accessors and parameter constants of structures and functions. -/
def accessors : List String :=
  ["\x7b% extends \"base_template\" %\x7d",
   "\x7b# Accessor layout shared by structs and functions #\x7d",
   "\x7b% block typedef %\x7d",
   "\x7b% if description %\x7d",
   "/**",
   " * \x7b\x7b description \x7d\x7d",
   " */",
   "\x7b% endif %\x7d",
   "\x7b% endblock %\x7d",
   "",
   "\x7b% block body %\x7d",
   "    /**",
   "     * @constructor",
   "     */",
   "\x7b% block constructor required %\x7d\x7b% endblock %\x7d",
   "\x7b% for s in scripts %\x7d",
   "",
   "\x7b\x7b s|dedent|indent(4, true) \x7d\x7d",
   "\x7b% endfor %\x7d",
   "\x7b% for e in methods %\x7d",
   "\x7b% set width = e.type|length + e.param_name|length + 12 %\x7d",
   "",
   "    /**",
   "\x7b% for d in e.description %\x7d",
   "\x7b% if loop.first %\x7d",
   "     * @param \x7b\x7b \"\x7b%s\x7d %s\"|format(e.type, e.param_name) \x7d\x7d  \x7b\x7b d \x7d\x7d",
   "\x7b% else %\x7d",
   "     * \x7b\x7b d|indent(width, true) \x7d\x7d",
   "\x7b% endif %\x7d",
   "\x7b% endfor %\x7d",
   "\x7b% if not e.description %\x7d",
   "     * @param \x7b\x7b \"\x7b%s\x7d %s\"|format(e.type, e.param_name) \x7d\x7d",
   "\x7b% endif %\x7d",
   "     * @return \x7b\x7b \"\x7b%s\x7d\"|format(name) \x7d\x7d",
   "     */",
   "    set\x7b\x7b e.method_title \x7d\x7d (\x7b\x7b e.param_name \x7d\x7d) \x7b",
   "\x7b% if e.validate_type %\x7d",
   "        this.validateType(\x7b\x7b e.validate_type \x7d\x7d, \x7b\x7b e.param_name \x7d\x7d);",
   "\x7b% endif %\x7d",
   "\x7b% if e.object_keyed %\x7d",
   "        this.setValue(\x7b\x7b name \x7d\x7d.KEY_\x7b\x7b e.key \x7d\x7d, \x7b\x7b e.param_name \x7d\x7d);",
   "\x7b% else %\x7d",
   "        this.setParameter(\x7b\x7b name \x7d\x7d.KEY_\x7b\x7b e.key \x7d\x7d, \x7b\x7b e.param_name \x7d\x7d);",
   "\x7b% endif %\x7d",
   "        return this;",
   "    \x7d",
   "",
   "    /**",
   "     * @return \x7b\x7b \"\x7b%s\x7d\"|format(e.type) \x7d\x7d",
   "     */",
   "    get\x7b\x7b e.method_title \x7d\x7d () \x7b",
   "\x7b% if e.read_type %\x7d",
   "        return this.getObject(\x7b\x7b e.read_type \x7d\x7d, \x7b\x7b name \x7d\x7d.KEY_\x7b\x7b e.key \x7d\x7d);",
   "\x7b% else %\x7d",
   "        return this.getParameter(\x7b\x7b name \x7d\x7d.KEY_\x7b\x7b e.key \x7d\x7d);",
   "\x7b% endif %\x7d",
   "    \x7d",
   "\x7b% endfor %\x7d",
   "\x7b% endblock %\x7d",
   "",
   "\x7b% block properties %\x7d",
   "\x7b% if params %\x7d",
   "",
   "\x7b% for p in params %\x7d",
   "\x7b\x7b name \x7d\x7d.KEY_\x7b\x7b p.key \x7d\x7d = \x7b\x7b p.value \x7d\x7d;",
   "\x7b% endfor %\x7d",
   "\x7b% endif %\x7d",
   "\x7b% endblock %\x7d"]

/-- The constructor of a structure. -/
def struct : List String :=
  ["\x7b% extends \"base_struct_function\" %\x7d",
   "\x7b% block constructor %\x7d",
   "    constructor (parameters) \x7b",
   "        super(parameters);",
   "    \x7d",
   "\x7b% endblock %\x7d"]

/-- The constructor of a function message. -/
def function : List String :=
  ["\x7b% extends \"base_struct_function\" %\x7d",
   "\x7b% block constructor %\x7d",
   "    constructor (store) \x7b",
   "        super(store);",
   "        this.setFunctionName(FunctionID.\x7b\x7b func \x7d\x7d);",
   "    \x7d",
   "\x7b% endblock %\x7d"]

/-- The getters, the reverse lookup and the map of an enumeration. -/
def enumeration : List String :=
  ["\x7b% extends \"base_template\" %\x7d",
   "\x7b% block typedef %\x7d",
   "/**",
   "\x7b% if description %\x7d",
   " * \x7b\x7b description \x7d\x7d",
   "\x7b% endif %\x7d",
   " * @typedef \x7b\x7b \"\x7b%s\x7d\"|format(extends) \x7d\x7d \x7b\x7b name \x7d\x7d",
   " * @property \x7bObject\x7d _MAP",
   " */",
   "\x7b% endblock %\x7d",
   "",
   "\x7b% block body %\x7d",
   "    /**",
   "     * @constructor",
   "     */",
   "    constructor () \x7b",
   "        super();",
   "    \x7d",
   "\x7b% for p in params %\x7d",
   "",
   "    /**",
   "\x7b% for d in p.description %\x7d",
   "     * \x7b\x7b d \x7d\x7d",
   "\x7b% endfor %\x7d",
   "     * @return \x7b\x7b \"\x7b%s\x7d\"|format(p.type) \x7d\x7d",
   "     */",
   "    static get \x7b\x7b p.key \x7d\x7d () \x7b",
   "        return \x7b\x7b name \x7d\x7d._MAP.\x7b\x7b p.key \x7d\x7d;",
   "    \x7d",
   "\x7b% endfor %\x7d",
   "",
   "    /**",
   "     * Get the key whose value matches, in declaration order",
   "     * @param \x7bString\x7d value",
   "     * @return \x7bnull|String\x7d - Returns null if no enum value matches",
   "     */",
   "    static valueForString (value) \x7b",
   "        for (const key in \x7b\x7b name \x7d\x7d._MAP) \x7b",
   "            if (String(\x7b\x7b name \x7d\x7d._MAP[key]) === value) \x7b",
   "                return key;",
   "            \x7d",
   "        \x7d",
   "        return null;",
   "    \x7d",
   "\x7b% endblock %\x7d",
   "",
   "\x7b% block properties %\x7d",
   "",
   "\x7b\x7b name \x7d\x7d._MAP = Object.freeze(\x7b",
   "\x7b% for p in params %\x7d",
   "    '\x7b\x7b p.key \x7d\x7d': \x7b\x7b p.value \x7d\x7d,",
   "\x7b% endfor %\x7d",
   "\x7d);",
   "\x7b% endblock %\x7d"]

/-- Lines with their line ends. -/
def source (lines : List String) : String := String.join (lines.map (· ++ "\n"))

/-- The names and sources of all shipped templates. -/
def all : List (String × String) :=
  [("base_template", source base), ("base_struct_function", source accessors),
   ("struct_template", source struct), ("function_template", source function),
   ("enum_template", source enumeration)]

/-- The library of the shipped templates. -/
def library (options : Template.Spacing) : Except Template.Error Template.Library :=
  Template.Library.empty.addAll options all

end ClassScribe.Shipped
