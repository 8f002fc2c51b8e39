import ShaderSynth.Glsl.Statement

/-!
# Shader sources

A shader source is a list of items at file level: declarations of what the
stage exchanges with its surroundings, definitions, and functions.
-/

namespace ShaderSynth.Glsl

/-- Interpolation of a value between stages. -/
inductive Interpolation where
  | noperspective
  | flat
deriving DecidableEq, Repr

/-- The keyword of an interpolation. -/
def Interpolation.keyword : Interpolation → String
  | noperspective => "noperspective"
  | flat => "flat"

/-- Direction of a value at a stage boundary, as the stage sees it. -/
inductive Direction where
  | input
  | output
deriving DecidableEq, Repr

/-- The keyword of a direction. -/
def Direction.keyword : Direction → String
  | input => "in"
  | output => "out"

/-- Where the braces of a function stand. -/
inductive Braces where
  | sameLine
  | ownLine
  /-- The whole function on one line. -/
  | inline
deriving DecidableEq, Repr

/-- A function definition. -/
structure Function where
  result : Ty
  name : String
  parameters : List (Ty × String)
  braces : Braces
  body : List Line
deriving DecidableEq, Repr

/-- The head of a function definition. -/
def Function.signature (function : Function) : String :=
  let parameters := function.parameters.map fun (type, name) =>
    type.keyword ++ " " ++ name
  function.result.keyword ++ " " ++ function.name ++ "(" ++
    ", ".intercalate parameters ++ ")"

/-- The text of a function definition. -/
def Function.text (function : Function) : String :=
  match function.braces with
  | .sameLine =>
      function.signature ++ " \x7b\n" ++ linesText function.body ++ "\x7d\n"
  | .ownLine =>
      function.signature ++ "\n\x7b\n" ++ linesText function.body ++ "\x7d\n"
  | .inline =>
      let statements := function.body.map fun line => line.statement.text
      function.signature ++ " \x7b " ++ " ".intercalate statements ++ " \x7d\n"

/-- Items of a shader source. -/
inductive Item where
  | version
  | blank
  | comment (text : String)
  /-- A uniform, or an array of `count` uniforms. -/
  | uniform (type : Ty) (name : String) (count : Option Nat)
  /-- A value exchanged with the neighbouring stage; an array has one per vertex. -/
  | varying (interpolation : Interpolation) (direction : Direction)
      (type : Ty) (name : String) (array : Bool)
  | vertexInput (location : Nat) (type : Ty) (name : String)
  | target (type : Ty) (name : String)
  | primitiveIn (primitive : String)
  | primitiveOut (primitive : String) (maxVertices : Nat)
  /-- A textual definition; the head is filled up to a width. -/
  | define (head : String) (width : Nat) (replacement : String)
  | global (type : Ty) (name : String) (value : Option Expr)
  | function (definition : Function)
  /-- Lines of a fixed table. -/
  | verbatim (lines : List String)
deriving DecidableEq, Repr

/-- A text filled up with blanks to a width. -/
def padded (text : String) (width : Nat) : String :=
  text ++ blanks (width - text.length)

/-- The text of an item, with its line end. -/
def Item.text : Item → String
  | version => "#version 400\n"
  | blank => "\n"
  | comment text => commentText text ++ "\n"
  | uniform type name none =>
      "uniform " ++ type.keyword ++ " " ++ name ++ ";\n"
  | uniform type name (some count) =>
      "uniform " ++ type.keyword ++ " " ++ name ++ "[" ++ toString count ++
        "];\n"
  | varying interpolation direction type name array =>
      interpolation.keyword ++ " " ++ direction.keyword ++ " " ++
        type.keyword ++ " " ++ name ++ (if array then "[]" else "") ++ ";\n"
  | vertexInput location type name =>
      "layout(location = " ++ toString location ++ ") in " ++
        type.keyword ++ " " ++ name ++ ";\n"
  | target type name => "out " ++ type.keyword ++ " " ++ name ++ ";\n"
  | primitiveIn primitive => "layout(" ++ primitive ++ ") in;\n"
  | primitiveOut primitive maxVertices =>
      "layout(" ++ primitive ++ ", max_vertices = " ++
        toString maxVertices ++ ") out;\n"
  | define head width replacement =>
      "#define " ++ padded head width ++ " " ++ replacement ++ "\n"
  | global type name none => type.keyword ++ " " ++ name ++ ";\n"
  | global type name (some value) =>
      type.keyword ++ " " ++ name ++ " = " ++ value.text ++ ";\n"
  | function definition => definition.text
  | verbatim lines => String.join (lines.map fun line => line ++ "\n")

/-- The text of a list of items. -/
def itemsText (items : List Item) : String :=
  String.join (items.map Item.text)

/-- The main function of a stage. -/
def mainFunction (body : List Line) : Item :=
  .function
    { result := .void
      name := "main"
      parameters := []
      braces := .sameLine
      body := body }

/-- The text between a constant array and an index. -/
def elementText (array : String) (index : Nat) : String :=
  array ++ "[" ++ toString index ++ "]"

end ShaderSynth.Glsl
