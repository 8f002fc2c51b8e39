import ShaderSynth.Image
import ShaderSynth.Proofs.Format

/-!
# Images are canonical

Every configuration has one image, and every byte string that is accepted as
an image is the image of the configuration it is read as.  The exception is a
program that is longer than the hardware holds: it has an image that tells it
apart from all other configurations, but that image is refused.
-/

namespace ShaderSynth

/-- Whether a vertex program can be read back from its image. -/
def VertexProgram.Storable : VertexProgram → Prop
  | .microcode program =>
      program.tokens.length ≤ Microcode.maxProgramLength
  | .fixedFunction _ => True

namespace Image

open Format

/-! ## Fields -/

theorem uint8_exact : uint8.Exact fun _ => True :=
  Format.uint8_exact _

theorem uint16_exact : uint16.Exact fun _ => True :=
  Format.uint16_exact _

theorem uint32_exact : uint32.Exact fun _ => True :=
  Format.uint32_exact _

theorem uint8_width : uint8.Width 1 :=
  Format.uint8_width _

theorem uint16_width : uint16.Width 2 :=
  Format.uint16_width _

theorem uint32_width : uint32.Width 4 :=
  Format.uint32_width _

theorem bool_exact : bool.Exact fun _ => True := by
  refine (uint8_exact.refine (fun _ => True) ?_).congr (by simp)
  intro form item
  constructor
  · intro passed
    split at passed
    · cases passed
      exact ⟨rfl, trivial⟩
    · cases passed
      exact ⟨rfl, trivial⟩
    · cases passed
  · rintro ⟨rfl, -⟩
    cases item <;> rfl

theorem bool_width : bool.Width 1 :=
  uint8_width.refine _ _

theorem coded_exact {member : Type} [Coded member] (field : String) :
    (coded field : Format ImageError member).Exact fun _ => True := by
  refine (uint8_exact.refine (fun _ => True) ?_).congr (by simp)
  intro form item
  constructor
  · intro passed
    split at passed
    · rename_i chosen found
      cases passed
      exact ⟨(Coded.code_of_ofCode? found).symm, trivial⟩
    · cases passed
  · rintro ⟨rfl, -⟩
    simp

theorem coded_width {member : Type} [Coded member] (field : String) :
    (coded field : Format ImageError member).Width 1 :=
  uint8_width.refine _ _

theorem single_exact : single.Exact fun _ => True :=
  uint32_exact.map (fun _ => rfl) (fun _ => rfl)

theorem single_width : single.Width 4 :=
  uint32_width.map _ _

theorem version_exact : version.Exact fun _ => True := by
  refine (uint8_exact.refine (fun _ => True) ?_).congr (by simp)
  intro form item
  by_cases same : form = layoutVersion
  · simp [same]
  · simp [same]

/-! ## The vertex program -/

theorem token_exact : token.Exact fun _ => True :=
  (uint32_exact.vector 4).congr (by simp)

theorem token_width : token.Width 16 :=
  uint32_width.vector 4

theorem tokens_write (items : List Microcode.Token) :
    tokens.write items =
      uint32.write (UInt32.ofNat items.length) ++
        items.flatMap token.write :=
  rfl

theorem tokens_read
    {cursor next : Cursor} {count : UInt32}
    (counted : uint32.read cursor = .ok (count, next))
    (fits : count.toNat ≤ Microcode.maxProgramLength) :
    tokens.read cursor = token.readMany count.toNat next := by
  simp [tokens, counted, fits, bind, Except.bind]

theorem tokens_read_error
    {cursor next : Cursor} {count : UInt32}
    (counted : uint32.read cursor = .ok (count, next))
    (long : ¬ count.toNat ≤ Microcode.maxProgramLength) :
    tokens.read cursor =
      .error (.invalidValue "program length" count.toNat) := by
  simp [tokens, counted, long, bind, Except.bind]

theorem toNat_ofNat_tokenCount
    {items : List Microcode.Token} (small : items.length < 0x100000000) :
    (UInt32.ofNat items.length).toNat = items.length :=
  UInt32.toNat_ofNat_of_lt' small

theorem tokens_exact :
    tokens.Exact fun items =>
      items.length ≤ Microcode.maxProgramLength where
  read_write := by
    intro items fits offset rest
    have small : items.length < 0x100000000 :=
      Nat.lt_of_le_of_lt fits (by decide)
    have count := toNat_ofNat_tokenCount small
    have counted :=
      uint32_exact.read_write (UInt32.ofNat items.length) trivial offset
        (items.flatMap token.write ++ rest)
    rw [tokens_write, List.append_assoc,
      tokens_read counted (by rw [count]; exact fits), count,
      token_exact.readMany_write items (fun _ _ => trivial),
      List.length_append, Nat.add_assoc]
  write_of_read := by
    intro offset bytes items next done
    obtain ⟨⟨count, inner⟩, counted, body⟩ := bind_eq_ok_iff.mp done
    obtain ⟨-, written, moved⟩ := uint32_exact.write_of_read counted
    by_cases fits : count.toNat ≤ Microcode.maxProgramLength
    · simp only [fits, if_true] at body
      obtain ⟨length, -, split, ended⟩ := token_exact.readMany_eq_ok body
      have word : UInt32.ofNat items.length = count := by
        rw [length, UInt32.ofNat_toNat]
      refine ⟨length ▸ fits, ?_, ?_⟩
      · rw [tokens_write, word, List.append_assoc, ← split]
        exact written
      · rw [tokens_write, word, List.length_append, ended, moved,
          Nat.add_assoc]
    · simp [fits] at body

/-- Programs of any length are told apart, whatever their number reads as. -/
theorem tokens_write_injective : Function.Injective tokens.write := by
  intro left right equal
  have parts :=
    List.append_inj
      (equal :
        uint32.write (UInt32.ofNat left.length) ++
            left.flatMap token.write =
          uint32.write (UInt32.ofNat right.length) ++
            right.flatMap token.write)
      ((uint32_width _).trans (uint32_width _).symm)
  exact flatMap_write_injective token_exact.write_injective token_width
    (by decide) parts.2

theorem microcode_exact :
    microcode.Exact fun program =>
      program.tokens.length ≤ Microcode.maxProgramLength :=
  ((bool_exact.pair tokens_exact).map (fun _ => rfl) (fun _ => rfl)).congr
    (by simp)

theorem microcode_write_injective : Function.Injective microcode.write := by
  rintro ⟨leftTokens, leftDepth⟩ ⟨rightTokens, rightDepth⟩ equal
  have parts :=
    List.append_inj
      (equal :
        bool.write leftDepth ++ tokens.write leftTokens =
          bool.write rightDepth ++ tokens.write rightTokens)
      ((bool_width _).trans (bool_width _).symm)
  have depths : leftDepth = rightDepth :=
    bool_exact.write_injective parts.1
  have programs : leftTokens = rightTokens :=
    tokens_write_injective parts.2
  rw [depths, programs]

theorem fixedFunction_exact : fixedFunction.Exact fun _ => True :=
  (((coded_exact _).pair
    (bool_exact.pair
    ((bool_exact.vector 4).pair
    ((((coded_exact _).vector 4).vector 4).pair
    (bool_exact.pair
    (((coded_exact _).vector 8).pair
    ((coded_exact _).pair
    ((coded_exact _).pair
    ((coded_exact _).pair
    (coded_exact _)))))))))).map (fun _ => rfl) (fun _ => rfl)).congr
    (by simp)

theorem fixedFunction_width : fixedFunction.Width 35 :=
  ((coded_width _).pair
    (bool_width.pair
    ((bool_width.vector 4).pair
    ((((coded_width _).vector 4).vector 4).pair
    (bool_width.pair
    (((coded_width _).vector 8).pair
    ((coded_width _).pair
    ((coded_width _).pair
    ((coded_width _).pair
    (coded_width _)))))))))).map _ _

theorem vertexProgram_write_microcode (program : Microcode.Program) :
    vertexProgram.write (.microcode program) =
      uint8.write 0 ++ microcode.write program :=
  rfl

theorem vertexProgram_write_fixedFunction (settings : FixedFunction) :
    vertexProgram.write (.fixedFunction settings) =
      uint8.write 1 ++ fixedFunction.write settings :=
  rfl

theorem vertexProgram_read_microcode (offset : Nat) (rest : List UInt8) :
    vertexProgram.read ⟨offset, uint8.write 0 ++ rest⟩ = (do
      let (program, cursor) ← microcode.read ⟨offset + 1, rest⟩
      return (.microcode program, cursor)) :=
  rfl

theorem vertexProgram_read_fixedFunction
    (offset : Nat) (rest : List UInt8) :
    vertexProgram.read ⟨offset, uint8.write 1 ++ rest⟩ = (do
      let (settings, cursor) ← fixedFunction.read ⟨offset + 1, rest⟩
      return (.fixedFunction settings, cursor)) :=
  rfl

theorem vertexProgram_exact :
    vertexProgram.Exact VertexProgram.Storable where
  read_write := by
    intro program storable offset rest
    cases program with
    | microcode program =>
        have read :=
          microcode_exact.read_write program storable (offset + 1) rest
        rw [vertexProgram_write_microcode, List.append_assoc,
          vertexProgram_read_microcode, read, List.length_append,
          uint8_width, ← Nat.add_assoc]
        rfl
    | fixedFunction settings =>
        have read :=
          fixedFunction_exact.read_write settings trivial (offset + 1) rest
        rw [vertexProgram_write_fixedFunction, List.append_assoc,
          vertexProgram_read_fixedFunction, read, List.length_append,
          uint8_width, ← Nat.add_assoc]
        rfl
  write_of_read := by
    intro offset bytes item next done
    obtain ⟨⟨tag, inner⟩, tagRead, body⟩ := bind_eq_ok_iff.mp done
    obtain ⟨-, tagWritten, tagMoved⟩ := uint8_exact.write_of_read tagRead
    simp only at body
    split at body
    · obtain ⟨⟨program, last⟩, read, same⟩ := bind_eq_ok_iff.mp body
      simp only [pure, Except.pure, Except.ok.injEq, Prod.mk.injEq] at same
      obtain ⟨rfl, rfl⟩ := same
      obtain ⟨storable, written, moved⟩ := microcode_exact.write_of_read read
      refine ⟨storable, ?_, ?_⟩
      · rw [tagWritten, written, vertexProgram_write_microcode,
          List.append_assoc]
      · rw [moved, tagMoved, vertexProgram_write_microcode,
          List.length_append, Nat.add_assoc]
    · obtain ⟨⟨settings, last⟩, read, same⟩ := bind_eq_ok_iff.mp body
      simp only [pure, Except.pure, Except.ok.injEq, Prod.mk.injEq] at same
      obtain ⟨rfl, rfl⟩ := same
      obtain ⟨-, written, moved⟩ := fixedFunction_exact.write_of_read read
      refine ⟨trivial, ?_, ?_⟩
      · rw [tagWritten, written, vertexProgram_write_fixedFunction,
          List.append_assoc]
      · rw [moved, tagMoved, vertexProgram_write_fixedFunction,
          List.length_append, Nat.add_assoc]
    · simp at body

/-- The first byte tells the kinds apart, and the rest what is of a kind. -/
theorem vertexProgram_write_injective :
    Function.Injective vertexProgram.write := by
  intro left right equal
  cases left with
  | microcode leftProgram =>
      cases right with
      | microcode rightProgram =>
          have same : leftProgram = rightProgram :=
            microcode_write_injective (List.cons.inj equal).2
          rw [same]
      | fixedFunction settings =>
          exact absurd (List.cons.inj equal).1 (by decide)
  | fixedFunction leftSettings =>
      cases right with
      | microcode program =>
          exact absurd (List.cons.inj equal).1 (by decide)
      | fixedFunction rightSettings =>
          have same : leftSettings = rightSettings :=
            fixedFunction_exact.write_injective (List.cons.inj equal).2
          rw [same]

/-! ## The other parts -/

theorem fog_exact : fog.Exact fun _ => True :=
  ((bool_exact.pair ((coded_exact _).pair (coded_exact _))).map
    (fun _ => rfl) (fun _ => rfl)).congr (by simp)

theorem point_exact : point.Exact fun _ => True :=
  ((bool_exact.pair (single_exact.pair (single_exact.vector 8))).map
    (fun _ => rfl) (fun _ => rfl)).congr (by simp)

theorem geometry_exact : geometry.Exact fun _ => True :=
  (((coded_exact _).pair ((coded_exact _).pair (coded_exact _))).map
    (fun _ => rfl) (fun _ => rfl)).congr (by simp)

theorem texture_exact : texture.Exact fun _ => True :=
  ((bool_exact.pair
    (bool_exact.pair
    (bool_exact.pair
    (bool_exact.pair
    ((bool_exact.vector 4).pair
    ((coded_exact _).pair
    ((single_exact.vector 3).pair
    (single_exact.vector 3)))))))).map (fun _ => rfl) (fun _ => rfl)).congr
    (by simp)

theorem stageWords_exact : stageWords.Exact fun _ => True :=
  (uint32_exact.vector 8).congr (by simp)

theorem pixel_exact : pixel.Exact fun _ => True :=
  ((uint32_exact.pair
    (uint32_exact.pair
    (uint32_exact.pair
    (uint32_exact.pair
    (uint32_exact.pair
    (stageWords_exact.pair
    (stageWords_exact.pair
    (stageWords_exact.pair
    (stageWords_exact.pair
    ((texture_exact.vector 4).pair
    ((coded_exact _).pair
    (bool_exact.pair
    ((coded_exact _).pair
    (bool_exact.pair
    bool_exact)))))))))))))).map (fun _ => rfl) (fun _ => rfl)).congr
    (by simp)

/-- What follows the program in the vertex configuration. -/
def vertexSettings :
    Format ImageError (UInt16 × UInt32 × FogState × PointState) :=
  uint16.pair (uint32.pair (fog.pair point))

/-- What follows the vertex configuration. -/
def otherStages :
    Format ImageError (GeometryState × PixelState × Bool) :=
  geometry.pair (pixel.pair bool)

theorem vertexSettings_exact : vertexSettings.Exact fun _ => True :=
  (uint16_exact.pair (uint32_exact.pair (fog_exact.pair point_exact))).congr
    (by simp)

theorem otherStages_exact : otherStages.Exact fun _ => True :=
  (geometry_exact.pair (pixel_exact.pair bool_exact)).congr (by simp)

theorem fog_width : fog.Width 3 :=
  (bool_width.pair ((coded_width _).pair (coded_width _))).map _ _

theorem point_width : point.Width 37 :=
  (bool_width.pair (single_width.pair (single_width.vector 8))).map _ _

theorem geometry_width : geometry.Width 3 :=
  ((coded_width _).pair ((coded_width _).pair (coded_width _))).map _ _

theorem texture_width : texture.Width 33 :=
  (bool_width.pair
    (bool_width.pair
    (bool_width.pair
    (bool_width.pair
    ((bool_width.vector 4).pair
    ((coded_width _).pair
    ((single_width.vector 3).pair
    (single_width.vector 3)))))))).map _ _

theorem stageWords_width : stageWords.Width 32 :=
  uint32_width.vector 8

theorem pixel_width : pixel.Width 285 :=
  (uint32_width.pair
    (uint32_width.pair
    (uint32_width.pair
    (uint32_width.pair
    (uint32_width.pair
    (stageWords_width.pair
    (stageWords_width.pair
    (stageWords_width.pair
    (stageWords_width.pair
    ((texture_width.vector 4).pair
    ((coded_width _).pair
    (bool_width.pair
    ((coded_width _).pair
    (bool_width.pair
    bool_width)))))))))))))).map _ _

theorem vertexSettings_width : vertexSettings.Width 46 :=
  uint16_width.pair (uint32_width.pair (fog_width.pair point_width))

theorem otherStages_width : otherStages.Width 289 :=
  geometry_width.pair (pixel_width.pair bool_width)

/-! ## The whole image -/

theorem vertex_exact :
    vertex.Exact fun state => state.program.Storable :=
  ((vertexProgram_exact.pair vertexSettings_exact).map
    (fun _ => rfl) (fun _ => rfl)).congr (by simp)

theorem fields_exact :
    fields.Exact fun state => state.vertex.program.Storable :=
  ((vertex_exact.pair otherStages_exact).map
    (fun _ => rfl) (fun _ => rfl)).congr (by simp)

theorem state_exact :
    state.Exact fun state => state.vertex.program.Storable :=
  ((version_exact.pair fields_exact).map
    (fun _ => rfl) (fun _ => rfl)).congr (by simp)

/-- An image, part by part. -/
theorem toBytes_eq (state : PipelineState) :
    state.toBytes =
      layoutVersion ::
        (vertexProgram.write state.vertex.program ++
          vertexSettings.write
            (state.vertex.compressedAttributes, state.vertex.surfaceScale,
              state.vertex.fog, state.vertex.point) ++
          otherStages.write
            (state.geometry, state.pixel, state.smoothShading)) :=
  rfl

theorem toBytes_injective : Function.Injective PipelineState.toBytes := by
  rintro ⟨⟨leftProgram, leftAttributes, leftScale, leftFog, leftPoint⟩,
    leftGeometry, leftPixel, leftSmooth⟩
  rintro ⟨⟨rightProgram, rightAttributes, rightScale, rightFog, rightPoint⟩,
    rightGeometry, rightPixel, rightSmooth⟩ equal
  rw [toBytes_eq, toBytes_eq] at equal
  -- Only the program has no fixed width, and everything else comes after it.
  obtain ⟨vertexEqual, othersEqual⟩ :=
    List.append_inj' (List.cons.inj equal).2
      ((otherStages_width _).trans (otherStages_width _).symm)
  obtain ⟨programEqual, settingsEqual⟩ :=
    List.append_inj' vertexEqual
      ((vertexSettings_width _).trans (vertexSettings_width _).symm)
  have programs := vertexProgram_write_injective programEqual
  have settings := vertexSettings_exact.write_injective settingsEqual
  have others := otherStages_exact.write_injective othersEqual
  simp only [Prod.mk.injEq] at programs settings others
  simp [programs, settings, others]

theorem ofBytes_eq_ok_iff {bytes : List UInt8} {state : PipelineState} :
    PipelineState.ofBytes bytes = .ok state ↔
      bytes = state.toBytes ∧ state.vertex.program.Storable :=
  state_exact.readAll_eq_ok_iff

/-- The number of tokens is refused before any token is read. -/
theorem tokens_read_overlong
    {items : List Microcode.Token}
    (long : Microcode.maxProgramLength < items.length)
    (small : items.length < 0x100000000)
    (offset : Nat) (rest : List UInt8) :
    tokens.read ⟨offset, tokens.write items ++ rest⟩ =
      .error (.invalidValue "program length" items.length) := by
  have count := toNat_ofNat_tokenCount small
  have counted :=
    uint32_exact.read_write (UInt32.ofNat items.length) trivial offset
      (items.flatMap token.write ++ rest)
  rw [tokens_write, List.append_assoc,
    tokens_read_error counted (by rw [count]; omega), count]

theorem vertexProgram_read_overlong
    {program : Microcode.Program}
    (long : Microcode.maxProgramLength < program.tokens.length)
    (small : program.tokens.length < 0x100000000)
    (offset : Nat) (rest : List UInt8) :
    vertexProgram.read
        ⟨offset, vertexProgram.write (.microcode program) ++ rest⟩ =
      .error (.invalidValue "program length" program.tokens.length) := by
  have depthRead :=
    bool_exact.read_write program.zPerspective trivial (offset + 1)
      (tokens.write program.tokens ++ rest)
  have refused :=
    tokens_read_overlong long small
      (offset + 1 + (bool.write program.zPerspective).length) rest
  have failed :
      microcode.read ⟨offset + 1, microcode.write program ++ rest⟩ =
        .error (.invalidValue "program length" program.tokens.length) := by
    rw [show microcode.write program ++ rest =
        bool.write program.zPerspective ++
          (tokens.write program.tokens ++ rest) from
      List.append_assoc _ _ _]
    exact map_read_error _ _ (pair_read_right_error depthRead refused)
  rw [vertexProgram_write_microcode, List.append_assoc,
    vertexProgram_read_microcode, failed]
  rfl

theorem ofBytes_toBytes_overlong
    {state : PipelineState} {program : Microcode.Program}
    (uploaded : state.vertex.program = .microcode program)
    (long : Microcode.maxProgramLength < program.tokens.length)
    (small : program.tokens.length < 0x100000000) :
    PipelineState.ofBytes state.toBytes =
      .error (.invalidValue "program length" program.tokens.length) := by
  have failed := vertexProgram_read_overlong long small 1
    (vertexSettings.write
        (state.vertex.compressedAttributes, state.vertex.surfaceScale,
          state.vertex.fog, state.vertex.point) ++
      otherStages.write (state.geometry, state.pixel, state.smoothShading))
  have versionRead (rest : List UInt8) :
      version.read ⟨0, layoutVersion :: rest⟩ = .ok ((), ⟨1, rest⟩) := rfl
  rw [toBytes_eq, uploaded, List.append_assoc]
  apply readAll_error
  apply map_read_error
  apply pair_read_right_error (versionRead _)
  exact map_read_error _ _
    (pair_read_left_error otherStages
      (map_read_error _ _ (pair_read_left_error vertexSettings failed)))

end Image

/--
The image of a configuration is exact and canonical.  A byte string is read as
a configuration if and only if it is the image of it, and its program fits the
hardware.  Images tell all configurations apart, those with longer programs
among them, and the image of a program that is too long is refused for its
length.
-/
theorem PipelineState.image_canonical :
    (∀ (bytes : List UInt8) (state : PipelineState),
      PipelineState.ofBytes bytes = .ok state ↔
        bytes = state.toBytes ∧ state.vertex.program.Storable) ∧
    (∀ left right : PipelineState,
      left.toBytes = right.toBytes ↔ left = right) ∧
    (∀ (state : PipelineState) (program : Microcode.Program),
      state.vertex.program = .microcode program →
        Microcode.maxProgramLength < program.tokens.length →
          program.tokens.length < 0x100000000 →
            PipelineState.ofBytes state.toBytes =
              .error (.invalidValue "program length"
                program.tokens.length)) := by
  refine ⟨?_, ?_, ?_⟩
  · intro bytes state
    exact Image.ofBytes_eq_ok_iff
  · intro left right
    exact ⟨fun equal => Image.toBytes_injective equal,
      fun equal => congrArg PipelineState.toBytes equal⟩
  · intro state program uploaded long small
    exact Image.ofBytes_toBytes_overlong uploaded long small

/-- A configuration with a program of so many empty tokens. -/
def PipelineState.ofTokenCount (count : Nat) : PipelineState :=
  { (default : PipelineState) with
    vertex :=
      { (default : VertexState) with
        program :=
          .microcode ⟨List.replicate count (Vector.replicate 4 0), false⟩ } }

/-- The longest program is read back, and one more token is refused. -/
theorem PipelineState.image_canonical_longest :
    PipelineState.ofBytes (PipelineState.ofTokenCount 136).toBytes =
        .ok (PipelineState.ofTokenCount 136) ∧
      PipelineState.ofBytes (PipelineState.ofTokenCount 137).toBytes =
        .error (.invalidValue "program length" 137) := by
  obtain ⟨accepted, -, refused⟩ := PipelineState.image_canonical
  constructor
  · refine (accepted _ _).mpr ⟨rfl, ?_⟩
    simp [PipelineState.ofTokenCount, VertexProgram.Storable,
      Microcode.maxProgramLength]
  · have failed :=
      refused (PipelineState.ofTokenCount 137) _ rfl
        (by simp [Microcode.maxProgramLength]) (by simp)
    rw [List.length_replicate] at failed
    exact failed

end ShaderSynth
