import ShaderSynth.Device.Interface
import ShaderSynth.Image
import ShaderSynth.Text.Quoted
import ShaderSynth.Text.Utf8

/-!
# Stored programs

An entry holds the binary of a program and the configuration it was built
for, under the stamp of the software and the device that made it.  Entries
can be read only under the stamp they were written under.
-/

namespace ShaderSynth.Store

/-- Who a stored program is of use to. -/
structure Stamp where
  version : String
  vendor : String
deriving DecidableEq, Repr

/-- A stored program. -/
structure Entry where
  state : PipelineState
  binary : ProgramBinary
deriving DecidableEq, Repr

/-- The parts of an entry. -/
inductive Part where
  | version
  | vendor
  | format
  | state
  | payload
deriving DecidableEq, Repr

/-- The name of a part in messages. -/
def Part.text : Part → String
  | version => "version stamp"
  | vendor => "vendor stamp"
  | format => "binary format"
  | state => "shader state"
  | payload => "program binary"

/-- Why bytes are no entry under a stamp. -/
inductive EntryError where
  | truncated (part : Part) (offset : Nat)
  | overlong (part : Part) (length : Nat)
  | version (found : List UInt8) (expected : String)
  | vendor (found : List UInt8) (expected : String)
  | state (error : Image.ImageError)
  | trailingBytes (remaining : Nat)
deriving DecidableEq, Repr

/-- The message of an error. -/
def EntryError.message : EntryError → String
  | truncated part offset => "truncated " ++ part.text ++ s!" at offset {offset}"
  | overlong part length => part.text ++ s!" length {length} is implausible"
  | version found expected =>
      "version stamp mismatch: entry has " ++ Text.quoted (Utf8.lossy found) ++
        ", running " ++ Text.quoted expected
  | vendor found expected =>
      "vendor stamp mismatch: entry has " ++ Text.quoted (Utf8.lossy found) ++
        ", host is " ++ Text.quoted expected
  | state error => "decoding shader state: " ++ error.message
  | trailingBytes remaining =>
      s!"{remaining} trailing bytes after program binary"

/-- Longer fields are a sign of damage. -/
def maxFieldLength : Nat := 256 * 1024 * 1024

/-- A part that is a byte string. -/
def field (part : Part) : Format EntryError (List UInt8) :=
  .sized (.truncated part) maxFieldLength (.overlong part)

/-- A part that has to be a certain text. -/
def fixedText
    (part : Part) (expected : String)
    (mismatch : List UInt8 → String → EntryError) :
    Format EntryError Unit :=
  (field part).refine
    (fun found =>
      if found = Utf8.encode expected then .ok ()
      else .error (mismatch found expected))
    (fun _ => Utf8.encode expected)

/-- The configuration of an entry. -/
def stateField : Format EntryError PipelineState :=
  (field .state).refine
    (fun bytes => (PipelineState.ofBytes bytes).mapError .state)
    PipelineState.toBytes

/-- An entry under a stamp. -/
def format (stamp : Stamp) : Format EntryError Entry :=
  ((fixedText .version stamp.version .version).pair
    ((fixedText .vendor stamp.vendor .vendor).pair
    ((Format.uint32 (.truncated .format)).pair
    (stateField.pair
    (field .payload))))).map
    (fun (_, _, format, state, payload) => ⟨state, ⟨format, payload⟩⟩)
    (fun entry =>
      ((), (), entry.binary.format, entry.state, entry.binary.bytes))

/-- The bytes of an entry. -/
def Entry.toBytes (stamp : Stamp) (entry : Entry) : List UInt8 :=
  (format stamp).write entry

/-- The entry that bytes hold. -/
def Entry.ofBytes (stamp : Stamp) (bytes : List UInt8) :
    Except EntryError Entry :=
  (format stamp).readAll .trailingBytes bytes

end ShaderSynth.Store
