import ShaderSynth.Glsl.Expr

/-!
# Shader statements

The body of a shader function is a flat list of lines.  Blocks are opened and
closed by lines of their own, so the order of the list is the textual order of
the function.
-/

namespace ShaderSynth.Glsl

/-- Kinds of texture samplers. -/
inductive Sampler where
  | flat
  | rectangle
  | volume
  | cube
deriving DecidableEq, Repr

/-- Types of the shading language. -/
inductive Ty where
  | void
  | bool
  | int
  | uint
  | float
  | vec2
  | vec3
  | vec4
  | ivec4
  | mat2
  | mat4
  | sampler (kind : Sampler)
deriving DecidableEq, Repr

/-- The keyword of a type. -/
def Ty.keyword : Ty → String
  | void => "void"
  | bool => "bool"
  | int => "int"
  | uint => "uint"
  | float => "float"
  | vec2 => "vec2"
  | vec3 => "vec3"
  | vec4 => "vec4"
  | ivec4 => "ivec4"
  | mat2 => "mat2"
  | mat4 => "mat4"
  | sampler .flat => "sampler2D"
  | sampler .rectangle => "sampler2DRect"
  | sampler .volume => "sampler3D"
  | sampler .cube => "samplerCube"

/-- Assignment operators. -/
inductive Assignment where
  | set
  | add
  | sub
  | mul
deriving DecidableEq, Repr

/-- The sign of an assignment operator. -/
def Assignment.symbol : Assignment → String
  | set => "="
  | add => "+="
  | sub => "-="
  | mul => "*="

/-- Statements that leave the current flow. -/
inductive Jump where
  | discard
  | break
  | return
deriving DecidableEq, Repr

/-- The keyword of a jump. -/
def Jump.keyword : Jump → String
  | .discard => "discard"
  | .break => "break"
  | .return => "return"

/-- What opens a block. -/
inductive Opening where
  | when (condition : Expr)
  | otherwise
  | otherwiseWhen (condition : Expr)
  | scope (note : Option String)
  /-- Counts from zero up to a bound. -/
  | count (counter : String) (bound : Nat)
deriving DecidableEq, Repr

/-- Ways to write a conditional jump on one line. -/
inductive GuardStyle where
  /-- In braces. -/
  | braced
  /-- In braces, with a semicolon after them. -/
  | terminated
  /-- As `terminated`, without the blank after `if`. -/
  | tight
  /-- Without braces. -/
  | bare
deriving DecidableEq, Repr

/-- Statements. -/
inductive Statement where
  | blank
  | comment (text : String)
  | remark (text : String)
  | declare (type : Ty) (name : String) (value : Option Expr)
      (note : Option String)
  | assign (target : Expr) (operator : Assignment) (value : Expr)
  | invoke (function : String) (arguments : Option Expr)
  | jump (kind : Jump)
  | guard (style : GuardStyle) (condition : Expr) (kind : Jump)
  | enter (opening : Opening)
  | leave
  /-- A line of a fixed helper function. -/
  | verbatim (text : String)
deriving DecidableEq, Repr

/-- A comment in the text. -/
def commentText (text : String) : String :=
  "/* " ++ text ++ " */"

/-- The text of a block's opening line. -/
def Opening.text : Opening → String
  | when condition => "if (" ++ condition.text ++ ") \x7b"
  | otherwise => "\x7d else \x7b"
  | otherwiseWhen condition =>
      "\x7d else if (" ++ condition.text ++ ") \x7b"
  | scope none => "\x7b"
  | scope (some note) => commentText note ++ " \x7b"
  | count counter bound =>
      "for (int " ++ counter ++ " = 0; " ++ counter ++ " < " ++
        toString bound ++ "; " ++ counter ++ "++) \x7b"

/-- The text of a conditional jump. -/
def GuardStyle.text (condition : Expr) (kind : Jump) : GuardStyle → String
  | braced =>
      "if (" ++ condition.text ++ ") \x7b " ++ kind.keyword ++ "; \x7d"
  | terminated =>
      "if (" ++ condition.text ++ ") \x7b " ++ kind.keyword ++ "; \x7d;"
  | tight =>
      "if(" ++ condition.text ++ ") \x7b " ++ kind.keyword ++ "; \x7d;"
  | bare => "if (" ++ condition.text ++ ") " ++ kind.keyword ++ ";"

namespace Statement

/-- The text of a statement, without indentation and line end. -/
def text : Statement → String
  | blank => ""
  | comment text => commentText text
  | remark text => "// " ++ text
  | declare type name value note =>
      let initial :=
        match value with
        | none => ""
        | some value => " = " ++ value.text
      let trailing :=
        match note with
        | none => ""
        | some note => " " ++ commentText note
      type.keyword ++ " " ++ name ++ initial ++ ";" ++ trailing
  | assign target operator value =>
      target.text ++ " " ++ operator.symbol ++ " " ++ value.text ++ ";"
  | invoke function none => function ++ "();"
  | invoke function (some arguments) =>
      function ++ "(" ++ arguments.text ++ ");"
  | jump kind => kind.keyword ++ ";"
  | guard style condition kind => style.text condition kind
  | enter opening => opening.text
  | leave => "\x7d"
  | verbatim text => text

/-- A declaration with its value. -/
def define (type : Ty) (name : String) (value : Expr) : Statement :=
  declare type name (some value) none

/-- A declaration without a value. -/
def declareEmpty (type : Ty) (name : String) : Statement :=
  declare type name none none

/-- A plain assignment. -/
def set (target value : Expr) : Statement :=
  assign target .set value

end Statement

/-- A statement with its indentation. -/
structure Line where
  indent : Nat
  statement : Statement
deriving DecidableEq, Repr

/-- The text of a line, with its end. -/
def Line.text (line : Line) : String :=
  blanks line.indent ++ line.statement.text ++ "\n"

/-- Statements at one indentation. -/
def indented (indent : Nat) (statements : List Statement) : List Line :=
  statements.map (Line.mk indent)

/-- The text of a list of lines. -/
def linesText (lines : List Line) : String :=
  String.join (lines.map Line.text)

end ShaderSynth.Glsl
