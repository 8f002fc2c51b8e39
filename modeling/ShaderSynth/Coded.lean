/-!
# Enumerations with register codes

The configuration registers carry enumerations as small codes.  `Coded` ties
an enumeration to its codes and to the label under which each member is
reported, and `Coded.ofCode?` recovers a member from a raw code.  The law
carried by the class says that no two members share a code.
-/

namespace ShaderSynth

/-- An enumeration whose members are carried in a register field as codes. -/
class Coded (member : Type) where
  /-- Every member, in the order of the codes. -/
  members : List member
  /-- The code a register carries for a member. -/
  code : member → UInt8
  /-- The name under which a member is reported. -/
  label : member → String
  /-- A member is found again under its code. -/
  find_code : ∀ chosen : member,
    members.find? (fun candidate => code candidate == code chosen) =
      some chosen := by
    intro chosen
    cases chosen <;> rfl

namespace Coded

variable {member : Type} [Coded member]

/-- The member that a raw code stands for, if the code is in use. -/
def ofCode? (raw : UInt8) : Option member :=
  members.find? fun candidate => code candidate == raw

@[simp]
theorem ofCode?_code (chosen : member) :
    ofCode? (code chosen) = some chosen :=
  find_code chosen

theorem code_of_ofCode? {raw : UInt8} {chosen : member}
    (found : ofCode? raw = some chosen) :
    code chosen = raw := by
  simpa using List.find?_some found

end Coded

end ShaderSynth
