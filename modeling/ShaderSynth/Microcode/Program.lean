import ShaderSynth.Hex
import ShaderSynth.Microcode.Prelude
import ShaderSynth.Microcode.Statement
import ShaderSynth.Varying

/-!
# Vertex programs

A program runs from its first token to the first one marked final.  `scan`
decodes that run and says how it ended; `lines` turns it into the body of
the vertex stage, or reports the first fault; `translate` adds it to the texts
of a stage in the making.
-/

namespace ShaderSynth.Microcode

open Glsl

/-- How many tokens the hardware has room for. -/
def maxProgramLength : Nat := 136

/-- A vertex program as uploaded. -/
structure Program where
  tokens : List Token
  /-- Whether the depth coordinate replaces the depth value. -/
  zPerspective : Bool
deriving DecidableEq, Inhabited, Repr

/-- A decoded instruction with its place in the program. -/
structure Slot where
  index : Nat
  token : Token
  instruction : Instruction

/-- How a run of instructions ended. -/
inductive Ending where
  | final
  | exhausted
  | fault (index : Nat) (fault : Fault)

/-- The instructions decoded before the run ended. -/
structure Scan where
  slots : List Slot
  ending : Ending

/-- Decodes tokens up to the first final or faulty one. -/
def scan (index : Nat) : List Token → Scan
  | [] => ⟨[], .exhausted⟩
  | token :: rest =>
      match Instruction.decode token with
      | .error fault => ⟨[], .fault index fault⟩
      | .ok instruction =>
          let slot := ⟨index, token, instruction⟩
          if Field.final.get token != 0 then ⟨[slot], .final⟩
          else
            let remaining := scan (index + 1) rest
            ⟨slot :: remaining.slots, remaining.ending⟩

/-- Why a program is refused. -/
inductive ProgramError where
  | missingFinal (length : Nat)
  | tooLong (length : Nat)
  | slot (index : Nat) (fault : Fault)
deriving DecidableEq, Repr

/-- The message of an error. -/
def ProgramError.message : ProgramError → String
  | missingFinal length =>
      s!"vertex program of {length} instructions has no FINAL instruction"
  | tooLong length =>
      s!"vertex program of {length} instructions exceeds {maxProgramLength} slots"
  | slot index (.macOpcode opcode) =>
      s!"slot {index}: invalid MAC opcode {opcode.toNat}"
  | slot index (.operand operand) =>
      s!"slot {index}: input {operand.letter} has invalid register mux"
  | slot index .constantOutput =>
      s!"slot {index}: writes to constant registers are not supported"
  | slot index (.reservedOutput address) =>
      s!"slot {index}: output register {address.toNat} is reserved"

/-- A word in the comment of a slot. -/
def wordText (word : UInt32) : String :=
  "0x" ++ Hex.upper 8 word.toNat

/-- The lines of a slot: a comment with its token, its statements, a blank line. -/
def Slot.lines (slot : Slot) : List Line :=
  let words := " ".intercalate (slot.token.toList.map wordText)
  ⟨2, .comment s!"Slot {slot.index}: {words}"⟩ ::
    indented 2 (slot.instruction.statements.map Statement.shader)
    ++ [⟨0, .blank⟩]

/-- Half of a coordinate of the surface. -/
def halfSurface (component : String) : Expr :=
  .of "surfaceSize" component * 0.5

/-- A screen coordinate turned into clip space. -/
def clipSpace (component : String) (scale : Expr) : Expr :=
  scale * .group (.of "oPos" component - halfSurface component)
    / .of "surfaceSize" component

/-- The width of the depth range. -/
def clipWidth : Expr :=
  .group (.of "clipRange" "y" - .of "clipRange" "x")

/--
Turns the position a program leaves in screen space back into clip space.
-/
def epilogue (zPerspective : Bool) : List Line :=
  inverseWLines
    ++ [⟨2, .set (.of "oPos" "x") (clipSpace "x" 2.0)⟩,
      ⟨2, .set (.of "oPos" "y") (clipSpace "y" (-2.0))⟩]
    ++ (if zPerspective then [⟨2, .set (.of "oPos" "z") (.of "oPos" "w")⟩]
      else [])
    ++ [⟨2, .enter (.when
        (.compare .notEqual (.of "clipRange" "y") (.of "clipRange" "x")))⟩,
      ⟨4, .set (.of "oPos" "z")
        (.binary .div .tight
            (.group (.of "oPos" "z" - .of "clipRange" "x"))
            (.group (.binary .mul .tight 0.5 clipWidth))
          - .int 1)⟩,
      ⟨2, .leave⟩,
      ⟨2, .enter (.when (.compare .less (.of "oPos" "w") 0.0))⟩,
      ⟨4, .assign (.of "oPos" "xyz") .mul (.of "oPos" "w")⟩,
      ⟨2, .enter .otherwise⟩,
      ⟨4, .set (.of "oPos" "w") 1.0⟩,
      ⟨2, .leave⟩]

/-- The run of a program; one that is too long is not looked at. -/
def Program.scan (program : Program) : Option Scan :=
  if program.tokens.length ≤ maxProgramLength then
    some (Microcode.scan 0 program.tokens)
  else none

/-- The body of the vertex stage for a program. -/
def Program.lines (program : Program) : Except ProgramError (List Line) :=
  match program.scan with
  | none => .error (.tooLong program.tokens.length)
  | some scan =>
      match scan.ending with
      | .final =>
          .ok (scan.slots.flatMap Slot.lines ++ epilogue program.zPerspective)
      | .exhausted => .error (.missingFinal program.tokens.length)
      | .fault index fault => .error (.slot index fault)

/-- The slots whose address load is routed to an output. -/
def Program.routedAddresses (program : Program) : List Nat :=
  match program.scan with
  | none => []
  | some scan =>
      (scan.slots.filter fun slot => slot.instruction.routesAddress).map
        Slot.index

/-- The texts of a vertex stage in the making. -/
structure Draft where
  header : String
  body : String
deriving DecidableEq, Repr

/--
Adds a program to a stage in the making: its declarations to the header, its
lines to the body.  A program that is refused leaves both as they are.
-/
def Program.translate (program : Program) (draft : Draft) :
    Except ProgramError Unit × Draft :=
  match program.lines with
  | .ok lines =>
      (.ok (),
        { header := draft.header ++ itemsText declarations
          body := draft.body ++ linesText lines })
  | .error error => (.error error, draft)

end ShaderSynth.Microcode
