import ShaderSynth.Proofs.Image
import ShaderSynth.Store.Entry

/-!
# Entries are read back

An entry is exact under its stamp as long as its fields are not too long.  The
image of a configuration never is: what is long about it is the vertex
program, and programs that are too long are not storable in the first place.
-/

namespace ShaderSynth

theorem Image.vertexProgram_length
    {program : VertexProgram} (storable : program.Storable) :
    (vertexProgram.write program).length ≤
      6 + 16 * Microcode.maxProgramLength := by
  cases program with
  | microcode program =>
      have short : program.tokens.length ≤ Microcode.maxProgramLength :=
        storable
      have body := token_width.flatMap program.tokens
      have written :
          (vertexProgram.write (.microcode program)).length =
            1 + (1 + (4 + (program.tokens.flatMap token.write).length)) := by
        rw [vertexProgram_write_microcode]
        show (uint8.write 0 ++ (bool.write program.zPerspective ++
          tokens.write program.tokens)).length = _
        rw [List.length_append, List.length_append, uint8_width, bool_width,
          tokens_write, List.length_append, uint32_width]
      rw [written, body]
      omega
  | fixedFunction settings =>
      rw [vertexProgram_write_fixedFunction, List.length_append, uint8_width,
        fixedFunction_width]
      decide

theorem Image.toBytes_length
    {state : PipelineState} (storable : state.vertex.program.Storable) :
    state.toBytes.length ≤ 0x1000 := by
  have program := vertexProgram_length storable
  have limit : Microcode.maxProgramLength = 136 := rfl
  rw [toBytes_eq, List.length_cons, List.length_append, List.length_append,
    vertexSettings_width, otherStages_width]
  omega

namespace Store

/-- The texts of a stamp are not too long. -/
structure Stamp.Fits (stamp : Stamp) : Prop where
  version : (Utf8.encode stamp.version).length ≤ maxFieldLength
  vendor : (Utf8.encode stamp.vendor).length ≤ maxFieldLength

/-- No part of an entry is too long. -/
structure Entry.Fits (stamp : Stamp) (entry : Entry) : Prop where
  stamp : stamp.Fits
  state : entry.state.vertex.program.Storable
  binary : entry.binary.bytes.length ≤ maxFieldLength

theorem field_exact (part : Part) :
    (field part).Exact fun bytes => bytes.length ≤ maxFieldLength :=
  Format.sized_exact _ _ (by decide)

theorem fixedText_exact
    (part : Part) (expected : String)
    (mismatch : List UInt8 → String → EntryError) :
    (fixedText part expected mismatch).Exact fun _ =>
      (Utf8.encode expected).length ≤ maxFieldLength := by
  refine ((field_exact part).refine (fun _ => True) ?_).congr (by simp)
  intro found item
  by_cases same : found = Utf8.encode expected <;> simp [same]

theorem stateField_exact :
    stateField.Exact fun state => state.vertex.program.Storable := by
  refine
    ((field_exact .state).refine
      (fun state => state.vertex.program.Storable) ?_).congr ?_
  · intro bytes state
    rw [mapError_eq_ok_iff, Image.ofBytes_eq_ok_iff]
  · intro state
    refine and_iff_right_of_imp fun storable => ?_
    exact Nat.le_trans (Image.toBytes_length storable) (by decide)

theorem format_exact (stamp : Stamp) :
    (format stamp).Exact fun entry => entry.Fits stamp := by
  refine
    (((fixedText_exact _ _ _).pair
      ((fixedText_exact _ _ _).pair
      ((Format.uint32_exact _).pair
      (stateField_exact.pair
      (field_exact _))))).map (fun _ => rfl) (fun _ => rfl)).congr ?_
  intro entry
  constructor
  · rintro ⟨version, vendor, -, state, binary⟩
    exact ⟨⟨version, vendor⟩, state, binary⟩
  · rintro ⟨⟨version, vendor⟩, state, binary⟩
    exact ⟨version, vendor, trivial, state, binary⟩

theorem Entry.ofBytes_toBytes
    {stamp : Stamp} {entry : Entry} (fits : entry.Fits stamp) :
    Entry.ofBytes stamp (entry.toBytes stamp) = .ok entry :=
  (format_exact stamp).readAll_eq_ok_iff.mpr ⟨rfl, fits⟩

end Store

end ShaderSynth
