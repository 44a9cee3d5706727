import TreeBridge.Foreign.Tree
import TreeBridge.Interchange.Read
/-!
# Foreign trees as documents

The document of a shape names its form and has a field for every part of
it. The parts of the shape are documents themselves.
-/

namespace TreeBridge

namespace Foreign

open Json (asOption asList asText asNat asNamed)

/-! ## Words -/

/-- The name of a kind of class. -/
def ClassKind.name : ClassKind → String
  | classType => "Class"
  | interfaceType => "Interface"
  | enumType => "Enum"
  | recordType => "Record"
  | annotationType => "AnnotationType"

/-- Reads a kind of class. -/
def ClassKind.read (j : Json) : ClassKind :=
  j.asNamed classType [interfaceType, enumType, recordType, annotationType] name

/-- The name of a bound. -/
def BoundKind.name : BoundKind → String
  | unbound => "Unbound"
  | upper => "Extends"
  | lower => "Super"

/-- Reads a bound. -/
def BoundKind.read (j : Json) : BoundKind :=
  j.asNamed unbound [upper, lower] name

/-- The name of a mode of reference. -/
def ReferenceMode.name : ReferenceMode → String
  | invoke => "Invoke"
  | create => "New"

/-- Reads a mode of reference. -/
def ReferenceMode.read (j : Json) : ReferenceMode :=
  j.asNamed invoke [create] name

/-- Reads a tag. -/
def readTag (j : Json) : Tag :=
  j.asNamed .unit Tag.all Tag.name

/-- Reads a type tag. -/
def readTypeTag (j : Json) : TypeTag :=
  j.asNamed .int TypeTag.all TypeTag.name

/-! ## Shapes -/

/-- An optional part. -/
def optional (part : Option Json) : Json :=
  part.getD .null

/-- The document of modifiers. -/
def Modifiers.document (m : Modifiers Json) : Json :=
  .object [("flags", .number m.flags.toNat), ("annotations", .array m.annotations),
    ("start", .number m.start), ("end", .number m.stop)]

/-- Reads modifiers; without a document there are none. -/
def Modifiers.ofDocument (j : Json) : Modifiers Json :=
  match j with
  | .null => .empty
  | _ =>
    ⟨UInt64.ofNat (j.field "flags").asNat, (j.field "annotations").asList,
      (j.field "start").asInt, (j.field "end").asInt⟩

namespace Shape

/-- The form of a shape and its parts by name. -/
def document : Shape Json → String × List (String × Json)
  | .unit clause imports members =>
    ("CompilationUnit", [("package", optional clause), ("imports", .array imports),
      ("defs", .array members)])
  | .package annotations name => ("Package", [("annotations", .array annotations), ("pid", name)])
  | .importing name isStatic => ("Import", [("qualid", name), ("is_static", .bool isStatic)])
  | .classDef mods name classKind typeParameters extending implementing permitting members =>
    ("ClassDef", [("mods", mods.document), ("name", .text name),
      ("class_kind", .text classKind.name), ("typarams", .array typeParameters),
      ("extending", optional extending), ("implementing", .array implementing),
      ("permitting", .array permitting), ("defs", .array members)])
  | .methodDef mods name typeParameters returnType parameters dims thrown body defaultValue =>
    ("MethodDef", [("mods", mods.document), ("name", .text name),
      ("typarams", .array typeParameters), ("restype", optional returnType),
      ("params", .array parameters), ("dims", .number dims), ("thrown", .array thrown),
      ("body", optional body), ("default_value", optional defaultValue)])
  | .varDef mods name type dims value =>
    ("VarDef", [("mods", mods.document), ("name", .text name), ("vartype", optional type),
      ("dims", .number dims), ("init", optional value)])
  | .skip => ("Skip", [])
  | .block isStatic statements =>
    ("Block", [("is_static", .bool isStatic), ("stats", .array statements)])
  | .doLoop body condition => ("DoLoop", [("body", body), ("cond", condition)])
  | .whileLoop condition body => ("WhileLoop", [("cond", condition), ("body", body)])
  | .forLoop initial condition step body =>
    ("ForLoop", [("init", .array initial), ("cond", optional condition), ("step", .array step),
      ("body", body)])
  | .foreachLoop binder expression body =>
    ("ForeachLoop", [("var", binder), ("expr", expression), ("body", body)])
  | .labelled label body => ("Labelled", [("label", .text label), ("body", body)])
  | .switch selector cases => ("Switch", [("selector", selector), ("cases", .array cases)])
  | .switchExpression selector cases =>
    ("SwitchExpression", [("selector", selector), ("cases", .array cases)])
  | .switchCase labels isDefault rule statements =>
    ("Case", [("labels", .array labels), ("is_default", .bool isDefault), ("rule", .bool rule),
      ("stats", .array statements)])
  | .synchronized lock body => ("Synchronized", [("lock", lock), ("body", body)])
  | .tryBlock resources body catchers finalizer =>
    ("Try", [("resources", .array resources), ("body", body), ("catchers", .array catchers),
      ("finalizer", optional finalizer)])
  | .catcher param body => ("Catch", [("param", param), ("body", body)])
  | .conditional condition whenTrue whenFalse =>
    ("Conditional", [("cond", condition), ("truepart", whenTrue), ("falsepart", whenFalse)])
  | .branch condition thenPart elsePart =>
    ("If", [("cond", condition), ("thenpart", thenPart), ("elsepart", optional elsePart)])
  | .execute expression => ("Exec", [("expr", expression)])
  | .breakTo label => ("Break", [("label", optional (label.map .text))])
  | .yieldValue value => ("Yield", [("value", value)])
  | .continueTo label => ("Continue", [("label", optional (label.map .text))])
  | .returnValue expression => ("Return", [("expr", optional expression)])
  | .throwing expression => ("Throw", [("expr", expression)])
  | .assertion condition detail => ("Assert", [("cond", condition), ("detail", optional detail)])
  | .call typeArguments method arguments =>
    ("Apply", [("typeargs", .array typeArguments), ("meth", method), ("args", .array arguments)])
  | .newClass enclosing typeArguments type arguments body =>
    ("NewClass", [("encl", optional enclosing), ("typeargs", .array typeArguments),
      ("clazz", type), ("args", .array arguments), ("def", optional body)])
  | .newArray elementType dims extraDims elements =>
    ("NewArray", [("elemtype", optional elementType), ("dims", .array dims),
      ("extra_dims", .number extraDims), ("elems", optional (elements.map .array))])
  | .lambda parameters body parenthesized =>
    ("Lambda", [("params", .array parameters), ("body", body),
      ("parenthesized", .bool parenthesized)])
  | .parens expression => ("Parens", [("expr", expression)])
  | .assign left right => ("Assign", [("lhs", left), ("rhs", right)])
  | .assignOp operator left right =>
    ("AssignOp", [("op", .text operator.name), ("lhs", left), ("rhs", right)])
  | .unary operator operand => ("Unary", [("op", .text operator.name), ("arg", operand)])
  | .binary operator left right =>
    ("Binary", [("op", .text operator.name), ("lhs", left), ("rhs", right)])
  | .typeCast type expression => ("TypeCast", [("clazz", type), ("expr", expression)])
  | .typeTest expression pattern => ("InstanceOf", [("expr", expression), ("pattern", pattern)])
  | .bindingPattern binder => ("BindingPattern", [("var", binder)])
  | .recordPattern deconstructor nested =>
    ("RecordPattern", [("deconstructor", deconstructor), ("nested", .array nested)])
  | .anyPattern => ("AnyPattern", [])
  | .indexed array index => ("Indexed", [("indexed", array), ("index", index)])
  | .select selected name => ("Select", [("selected", selected), ("name", .text name)])
  | .reference mode name expression typeArguments =>
    ("Reference", [("mode", .text mode.name), ("name", .text name), ("expr", expression),
      ("typeargs", .array typeArguments)])
  | .ident name => ("Ident", [("name", .text name)])
  | .literal type value => ("Literal", [("typetag", .text type.name), ("value", .text value)])
  | .typeIdent type => ("TypeIdent", [("typetag", .text type.name)])
  | .typeArray elementType => ("TypeArray", [("elemtype", elementType)])
  | .typeApply type arguments => ("TypeApply", [("clazz", type), ("arguments", .array arguments)])
  | .typeUnion alternatives => ("TypeUnion", [("alternatives", .array alternatives)])
  | .typeIntersection bounds => ("TypeIntersection", [("bounds", .array bounds)])
  | .typeParameter name annotations bounds =>
    ("TypeParameter", [("name", .text name), ("annotations", .array annotations),
      ("bounds", .array bounds)])
  | .wildcard kind inner => ("Wildcard", [("kind", .text kind.name), ("inner", optional inner)])
  | .annotationUse type arguments =>
    ("Annotation", [("annotation_type", type), ("args", .array arguments)])
  | .annotatedType annotations underlying =>
    ("AnnotatedType", [("annotations", .array annotations), ("underlying", underlying)])
  | .erroneous salvaged => ("Erroneous", [("errs", .array salvaged)])

/-- Reads a shape of a form; an unknown form is an empty statement. -/
def ofDocument (form : String) (j : Json) : Shape Json :=
  match form with
  | "CompilationUnit" =>
    .unit (j.field "package").asOption (j.field "imports").asList (j.field "defs").asList
  | "Package" => .package (j.field "annotations").asList (j.field "pid")
  | "Import" => .importing (j.field "qualid") (j.field "is_static").asBool
  | "ClassDef" =>
    .classDef (.ofDocument (j.field "mods")) (j.field "name").asText
      (.read (j.field "class_kind")) (j.field "typarams").asList (j.field "extending").asOption
      (j.field "implementing").asList (j.field "permitting").asList (j.field "defs").asList
  | "MethodDef" =>
    .methodDef (.ofDocument (j.field "mods")) (j.field "name").asText (j.field "typarams").asList
      (j.field "restype").asOption (j.field "params").asList (j.field "dims").asNat
      (j.field "thrown").asList (j.field "body").asOption (j.field "default_value").asOption
  | "VarDef" =>
    .varDef (.ofDocument (j.field "mods")) (j.field "name").asText (j.field "vartype").asOption
      (j.field "dims").asNat (j.field "init").asOption
  | "Skip" => .skip
  | "Block" => .block (j.field "is_static").asBool (j.field "stats").asList
  | "DoLoop" => .doLoop (j.field "body") (j.field "cond")
  | "WhileLoop" => .whileLoop (j.field "cond") (j.field "body")
  | "ForLoop" =>
    .forLoop (j.field "init").asList (j.field "cond").asOption (j.field "step").asList
      (j.field "body")
  | "ForeachLoop" => .foreachLoop (j.field "var") (j.field "expr") (j.field "body")
  | "Labelled" => .labelled (j.field "label").asText (j.field "body")
  | "Switch" => .switch (j.field "selector") (j.field "cases").asList
  | "SwitchExpression" => .switchExpression (j.field "selector") (j.field "cases").asList
  | "Case" =>
    .switchCase (j.field "labels").asList (j.field "is_default").asBool (j.field "rule").asBool
      (j.field "stats").asList
  | "Synchronized" => .synchronized (j.field "lock") (j.field "body")
  | "Try" =>
    .tryBlock (j.field "resources").asList (j.field "body") (j.field "catchers").asList
      (j.field "finalizer").asOption
  | "Catch" => .catcher (j.field "param") (j.field "body")
  | "Conditional" => .conditional (j.field "cond") (j.field "truepart") (j.field "falsepart")
  | "If" => .branch (j.field "cond") (j.field "thenpart") (j.field "elsepart").asOption
  | "Exec" => .execute (j.field "expr")
  | "Break" => .breakTo (j.field "label").asText?
  | "Yield" => .yieldValue (j.field "value")
  | "Continue" => .continueTo (j.field "label").asText?
  | "Return" => .returnValue (j.field "expr").asOption
  | "Throw" => .throwing (j.field "expr")
  | "Assert" => .assertion (j.field "cond") (j.field "detail").asOption
  | "Apply" => .call (j.field "typeargs").asList (j.field "meth") (j.field "args").asList
  | "NewClass" =>
    .newClass (j.field "encl").asOption (j.field "typeargs").asList (j.field "clazz")
      (j.field "args").asList (j.field "def").asOption
  | "NewArray" =>
    .newArray (j.field "elemtype").asOption (j.field "dims").asList (j.field "extra_dims").asNat
      ((j.field "elems").asOption.map asList)
  | "Lambda" =>
    .lambda (j.field "params").asList (j.field "body") (j.field "parenthesized").asBool
  | "Parens" => .parens (j.field "expr")
  | "Assign" => .assign (j.field "lhs") (j.field "rhs")
  | "AssignOp" => .assignOp (readTag (j.field "op")) (j.field "lhs") (j.field "rhs")
  | "Unary" => .unary (readTag (j.field "op")) (j.field "arg")
  | "Binary" => .binary (readTag (j.field "op")) (j.field "lhs") (j.field "rhs")
  | "TypeCast" => .typeCast (j.field "clazz") (j.field "expr")
  | "InstanceOf" => .typeTest (j.field "expr") (j.field "pattern")
  | "BindingPattern" => .bindingPattern (j.field "var")
  | "RecordPattern" => .recordPattern (j.field "deconstructor") (j.field "nested").asList
  | "AnyPattern" => .anyPattern
  | "Indexed" => .indexed (j.field "indexed") (j.field "index")
  | "Select" => .select (j.field "selected") (j.field "name").asText
  | "Reference" =>
    .reference (.read (j.field "mode")) (j.field "name").asText (j.field "expr")
      (j.field "typeargs").asList
  | "Ident" => .ident (j.field "name").asText
  | "Literal" => .literal (readTypeTag (j.field "typetag")) (j.field "value").asText
  | "TypeIdent" => .typeIdent (readTypeTag (j.field "typetag"))
  | "TypeArray" => .typeArray (j.field "elemtype")
  | "TypeApply" => .typeApply (j.field "clazz") (j.field "arguments").asList
  | "TypeUnion" => .typeUnion (j.field "alternatives").asList
  | "TypeIntersection" => .typeIntersection (j.field "bounds").asList
  | "TypeParameter" =>
    .typeParameter (j.field "name").asText (j.field "annotations").asList
      (j.field "bounds").asList
  | "Wildcard" => .wildcard (.read (j.field "kind")) (j.field "inner").asOption
  | "Annotation" => .annotationUse (j.field "annotation_type") (j.field "args").asList
  | "AnnotatedType" => .annotatedType (j.field "annotations").asList (j.field "underlying")
  | "Erroneous" => .erroneous (j.field "errs").asList
  | _ => .skip

end Shape

/-! ## Trees -/

/-- The document of one tree, in which other trees are ids. -/
def Tree.document (t : Tree) : Json :=
  let (form, fields) := (t.shape.map (fun c => Json.number c.id)).document
  .object ([("id", .number t.id), ("t", .text form), ("start", .number t.start),
    ("pos", .number t.position), ("end", .number t.stop)] ++ fields)

/-- The tree with an id among the documents of trees, down to a depth.
An unknown end is not recorded. -/
def Tree.read (documents : List Json) : Nat → Json → Tree
  | 0, _ => default
  | depth + 1, id =>
    match documents.find? (fun j => (j.field "id").asNat == id.asNat) with
    | none => default
    | some j =>
      let stop := (j.field "end").asInt
      .node id.asNat (j.field "start").asInt (j.field "pos").asInt (if stop < 0 then -1 else stop)
        ((Shape.ofDocument (j.field "t").asText j).map (read documents depth))

/-- The document of a tree and of all trees below it, in the order of
their ids. -/
def Tree.documents (root : Tree) : List (String × Json) :=
  [("root", .number root.id),
    ("trees", .array ((root.preorder.mergeSort (fun s t => decide (s.id ≤ t.id))).map
      document))]

/-- Reads a tree from the documents of all trees in it. No path down a
tree is longer than their number. -/
def Tree.ofDocuments (j : Json) : Tree :=
  let documents := (j.field "trees").asList
  read documents documents.length (j.field "root")

end Foreign

end TreeBridge
