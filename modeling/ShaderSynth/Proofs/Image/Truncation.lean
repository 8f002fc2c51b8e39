import ShaderSynth.Proofs.Image

/-!
# Images that end early or late

An image is a row of fields, each of one, two or four bytes.  A cut through
the row falls inside one field, and reading what is left of the image runs
out of bytes at the start of that field.  No check made on the way fails
first: all fields before the cut are whole, and are those of an image.

`EndsAt` says this of a reader and the bytes it is meant to read.  It is kept
by putting readers one after the other, so that it needs a proof only for the
numbers; how the fields of an image lie is written out in
`PipelineState.fieldWidths`.  Bytes behind an image are counted.
-/

namespace ShaderSynth.Format

variable {error value first second source target : Type}

/-! ## Rows of fields -/

/-- The number of bytes that fields of these widths take. -/
def span : List Nat → Nat
  | [] => 0
  | width :: widths => width + span widths

@[simp]
theorem span_append (left right : List Nat) :
    span (left ++ right) = span left + span right := by
  induction left with
  | nil => simp [span]
  | cons width widths ih => simp [span, ih, Nat.add_assoc]

/-- Each cut of a row falls inside one field. -/
theorem exists_field_of_lt_span
    (widths : List Nat) (cut : Nat) (short : cut < span widths) :
    ∃ before width after,
      widths = before ++ width :: after ∧ span before ≤ cut ∧
        cut < span before + width := by
  induction widths generalizing cut with
  | nil => exact absurd short (Nat.not_lt_zero cut)
  | cons width widths ih =>
      by_cases inside : cut < width
      · exact ⟨[], width, widths, rfl, Nat.zero_le cut, by simpa [span]⟩
      · have shorter : cut - width < span widths := by
          simp only [span] at short
          omega
        obtain ⟨before, found, after, rfl, left, right⟩ :=
          ih (cut - width) shorter
        refine ⟨width :: before, found, after, rfl, ?_, ?_⟩
        · simp only [span]
          omega
        · simp only [span]
          omega

/-- A field of two rows together is one of the first or one of the second. -/
theorem field_append
    {left right before after : List Nat} {width : Nat}
    (split : left ++ right = before ++ width :: after) :
    (∃ others, left = before ++ width :: others) ∨
      ∃ others,
        before = left ++ others ∧ right = others ++ width :: after := by
  rcases List.append_eq_append_iff.mp split with
    ⟨others, start, rest⟩ | ⟨others, start, rest⟩
  · exact .inr ⟨others, start, rest⟩
  · cases others with
    | nil => exact .inr ⟨[], by simpa using start.symm, rest.symm⟩
    | cons found others =>
        obtain ⟨rfl, -⟩ := List.cons.inj rest
        exact .inl ⟨others, start⟩

/-! ## Readers of rows -/

/--
These bytes are a row of fields, and whenever they are cut inside a field,
the reader finds the end at the start of that field.
-/
structure EndsAt
    (ended : Nat → error) (read : Cursor → Except error value)
    (bytes : List UInt8) (widths : List Nat) : Prop where
  length : bytes.length = span widths
  read_cut :
    ∀ (offset : Nat) (before : List Nat) (width : Nat) (after : List Nat)
        (kept : Nat),
      widths = before ++ width :: after → kept < width →
        read ⟨offset, bytes.take (span before + kept)⟩ =
          .error (ended (offset + span before))

/-- A reader of one field only has to find the end at its own start. -/
theorem EndsAt.single
    {ended : Nat → error} {read : Cursor → Except error value}
    {bytes : List UInt8} {width : Nat}
    (length : bytes.length = width)
    (read_cut :
      ∀ offset kept, kept < width →
        read ⟨offset, bytes.take kept⟩ = .error (ended offset)) :
    EndsAt ended read bytes [width] where
  length := length
  read_cut := by
    intro offset before found after kept split inside
    cases before with
    | nil =>
        obtain ⟨rfl, -⟩ := List.cons.inj split
        simpa [span] using read_cut offset kept inside
    | cons head others => simp at split

theorem EndsAt.empty
    (ended : Nat → error) (read : Cursor → Except error value) :
    EndsAt ended read [] [] where
  length := rfl
  read_cut := by
    intro offset before width after kept split
    simp at split

/-- What is done with the fields afterwards does not matter. -/
theorem EndsAt.andThen
    {ended : Nat → error} {read : Cursor → Except error source}
    {bytes : List UInt8} {widths : List Nat}
    (ends : EndsAt ended read bytes widths)
    (continuation : source → Except error target) :
    EndsAt ended (fun cursor => read cursor >>= continuation) bytes
      widths where
  length := ends.length
  read_cut := by
    intro offset before width after kept split inside
    simp [ends.read_cut offset before width after kept split inside, bind,
      Except.bind]

/--
Two rows, the second one read after the first.  A cut in the second row leaves
the first one whole, so that it is read as it was written.
-/
theorem EndsAt.append
    {ended : Nat → error} {read : Cursor → Except error (first × Cursor)}
    {next : first × Cursor → Except error target}
    {item : first} {left right : List UInt8}
    {leftWidths rightWidths : List Nat}
    (leftEnds : EndsAt ended read left leftWidths)
    (whole :
      ∀ offset rest,
        read ⟨offset, left ++ rest⟩ =
          .ok (item, ⟨offset + left.length, rest⟩))
    (rightEnds :
      EndsAt ended (fun cursor => next (item, cursor)) right rightWidths) :
    EndsAt ended (fun cursor => read cursor >>= next) (left ++ right)
      (leftWidths ++ rightWidths) where
  length := by
    rw [List.length_append, leftEnds.length, rightEnds.length, span_append]
  read_cut := by
    intro offset before width after kept split inside
    rcases field_append split with ⟨others, rfl⟩ | ⟨others, rfl, rest⟩
    · have short : span before + kept ≤ left.length := by
        rw [leftEnds.length, span_append]
        simp only [span]
        omega
      rw [List.take_append_of_le_length short,
        leftEnds.read_cut offset before width others kept rfl inside]
      rfl
    · have cut :
          (left ++ right).take (span (leftWidths ++ others) + kept) =
            left ++ right.take (span others + kept) := by
        rw [span_append, ← leftEnds.length, Nat.add_assoc,
          List.take_length_add_append]
      rw [cut, whole, span_append, ← leftEnds.length, ← Nat.add_assoc]
      exact rightEnds.read_cut _ others width after kept rest inside

/-! ## Formats of rows -/

/-- Valid values are written as rows of fields, and read field by field. -/
def Diagnoses
    (format : Format error value) (ended : Nat → error)
    (valid : value → Prop) (widths : value → List Nat) : Prop :=
  ∀ item, valid item →
    EndsAt ended format.read (format.write item) (widths item)

theorem uint8_diagnoses (ended : Nat → error) :
    (uint8 ended).Diagnoses ended (fun _ => True) fun _ => [1] := by
  intro item _
  refine EndsAt.single rfl ?_
  intro offset kept inside
  match kept with
  | 0 => rfl

theorem uint16_diagnoses (ended : Nat → error) :
    (uint16 ended).Diagnoses ended (fun _ => True) fun _ => [2] := by
  intro item _
  refine EndsAt.single rfl ?_
  intro offset kept inside
  match kept with
  | 0 => rfl
  | 1 => rfl

theorem uint32_diagnoses (ended : Nat → error) :
    (uint32 ended).Diagnoses ended (fun _ => True) fun _ => [4] := by
  intro item _
  refine EndsAt.single rfl ?_
  intro offset kept inside
  match kept with
  | 0 => rfl
  | 1 => rfl
  | 2 => rfl
  | 3 => rfl

theorem Diagnoses.congr
    {format : Format error value} {ended : Nat → error}
    {valid accepted : value → Prop} {widths layout : value → List Nat}
    (diagnoses : format.Diagnoses ended valid widths)
    (fewer : ∀ item, accepted item → valid item)
    (same : ∀ item, widths item = layout item) :
    format.Diagnoses ended accepted layout := by
  intro item acceptable
  rw [← same item]
  exact diagnoses item (fewer item acceptable)

theorem Diagnoses.map
    {format : Format error source} {ended : Nat → error}
    {valid : source → Prop} {widths : source → List Nat}
    (diagnoses : format.Diagnoses ended valid widths)
    (forward : source → target) (backward : target → source) :
    (format.map forward backward).Diagnoses ended
      (fun item => valid (backward item))
      fun item => widths (backward item) := by
  intro item acceptable
  exact (diagnoses (backward item) acceptable).andThen _

/-- A check is made only on what has been read. -/
theorem Diagnoses.refine
    {format : Format error source} {ended : Nat → error}
    {valid : source → Prop} {widths : source → List Nat}
    (diagnoses : format.Diagnoses ended valid widths)
    (forward : source → Except error target) (backward : target → source) :
    (format.refine forward backward).Diagnoses ended
      (fun item => valid (backward item))
      fun item => widths (backward item) := by
  intro item acceptable
  exact (diagnoses (backward item) acceptable).andThen _

theorem Diagnoses.pair
    {left : Format error first} {right : Format error second}
    {ended : Nat → error}
    {leftValid : first → Prop} {rightValid : second → Prop}
    {leftWidths : first → List Nat} {rightWidths : second → List Nat}
    (leftDiagnoses : left.Diagnoses ended leftValid leftWidths)
    (exact : left.Exact leftValid)
    (rightDiagnoses : right.Diagnoses ended rightValid rightWidths) :
    (left.pair right).Diagnoses ended
      (fun item => leftValid item.1 ∧ rightValid item.2)
      fun item => leftWidths item.1 ++ rightWidths item.2 := by
  rintro ⟨head, tail⟩ ⟨headValid, tailValid⟩
  refine EndsAt.append (leftDiagnoses head headValid)
    (exact.read_write head headValid) ?_
  exact (rightDiagnoses tail tailValid).andThen _

/-- Items that all have the same layout, one after the other. -/
theorem Diagnoses.vector
    {format : Format error value} {ended : Nat → error}
    {valid : value → Prop} {widths : List Nat}
    (diagnoses : format.Diagnoses ended valid fun _ => widths)
    (exact : format.Exact valid) (size : Nat) :
    (format.vector size).Diagnoses ended
      (fun items => ∀ item ∈ items, valid item)
      fun _ => (List.replicate size widths).flatten := by
  induction size with
  | zero =>
      intro items _
      have none : items = #v[] := Vector.eq_empty
      subst none
      exact EndsAt.empty ended _
  | succ size ih =>
      intro items allValid
      -- The reader takes the last item off after all the others.
      obtain ⟨others, last, rfl⟩ :
          ∃ others last, items = Vector.push others last :=
        ⟨items.pop, items.back, (Vector.push_pop_back items).symm⟩
      rw [vector_write_push, List.replicate_succ', List.flatten_append,
        List.flatten_singleton]
      have othersValid : ∀ item ∈ others, valid item :=
        fun item member => allValid item (by simp [member])
      refine EndsAt.append (ih others othersValid)
        ((exact.vector size).read_write others othersValid) ?_
      exact (diagnoses last (allValid last (by simp))).andThen _

theorem Diagnoses.readMany
    {format : Format error value} {ended : Nat → error}
    {widths : List Nat}
    (diagnoses : format.Diagnoses ended (fun _ => True) fun _ => widths)
    (exact : format.Exact fun _ => True) (items : List value) :
    EndsAt ended (format.readMany items.length) (items.flatMap format.write)
      (List.replicate items.length widths).flatten := by
  induction items with
  | nil => exact EndsAt.empty ended _
  | cons item others ih =>
      refine EndsAt.append (diagnoses item trivial)
        (exact.read_write item trivial) ?_
      exact ih.andThen _

/-- Cutting an image anywhere is found out at the field that is cut. -/
theorem Diagnoses.readAll_take
    {format : Format error value} {ended : Nat → error}
    {valid : value → Prop} {widths : value → List Nat}
    (diagnoses : format.Diagnoses ended valid widths)
    (leftOver : Nat → error)
    {item : value} (acceptable : valid item)
    {cut : Nat} (short : cut < (format.write item).length) :
    ∃ before width after,
      widths item = before ++ width :: after ∧ span before ≤ cut ∧
        cut < span before + width ∧
        format.readAll leftOver ((format.write item).take cut) =
          .error (ended (span before)) := by
  have ends := diagnoses item acceptable
  obtain ⟨before, width, after, split, left, right⟩ :=
    exists_field_of_lt_span (widths item) cut (ends.length ▸ short)
  refine ⟨before, width, after, split, left, right, ?_⟩
  have failed :=
    ends.read_cut 0 before width after (cut - span before) split (by omega)
  rw [Nat.add_sub_cancel' left, Nat.zero_add] at failed
  exact readAll_error leftOver failed

/-- Bytes behind an image are counted. -/
theorem Exact.readAll_append
    {format : Format error value} {valid : value → Prop}
    (exact : format.Exact valid) (leftOver : Nat → error)
    {item : value} (acceptable : valid item)
    {rest : List UInt8} (more : rest ≠ []) :
    format.readAll leftOver (format.write item ++ rest) =
      .error (leftOver rest.length) := by
  simp [readAll, exact.read_write item acceptable 0 rest, more, bind,
    Except.bind]

end ShaderSynth.Format

namespace ShaderSynth

/-! ## The layout of an image -/

/-- The fields of a vertex program: its kind, and what it is made of. -/
def VertexProgram.fieldWidths : VertexProgram → List Nat
  | .microcode program =>
      [1] ++ ([1, 4] ++ List.replicate (4 * program.tokens.length) 4)
  | .fixedFunction _ => [1] ++ List.replicate 35 1

/-- The fields behind the program in the vertex configuration. -/
def Image.vertexSettingsWidths : List Nat :=
  [2, 4, 1, 1, 1, 1] ++ List.replicate 9 4

/-- The fields of a texture unit. -/
def Image.textureWidths : List Nat :=
  List.replicate 9 1 ++ List.replicate 6 4

/-- The fields of the pixel configuration. -/
def Image.pixelWidths : List Nat :=
  List.replicate 37 4 ++ (List.replicate 4 textureWidths).flatten ++
    List.replicate 5 1

/-- The fields of an image, in their order. -/
def PipelineState.fieldWidths (state : PipelineState) : List Nat :=
  [1] ++ state.vertex.program.fieldWidths ++ Image.vertexSettingsWidths ++
    [1, 1, 1] ++ Image.pixelWidths ++ [1]

theorem PipelineState.mem_fieldWidths
    {state : PipelineState} {width : Nat}
    (member : width ∈ state.fieldWidths) :
    width = 1 ∨ width = 2 ∨ width = 4 := by
  have program :
      width ∈ state.vertex.program.fieldWidths → width = 1 ∨ width = 4 := by
    intro among
    cases drives : state.vertex.program with
    | microcode program =>
        rw [drives] at among
        simp only [VertexProgram.fieldWidths, List.mem_append, List.mem_cons,
          List.not_mem_nil, or_false, List.mem_replicate] at among
        omega
    | fixedFunction settings =>
        rw [drives] at among
        simp only [VertexProgram.fieldWidths, List.mem_append, List.mem_cons,
          List.not_mem_nil, or_false, List.mem_replicate] at among
        omega
  simp only [fieldWidths, Image.vertexSettingsWidths, Image.pixelWidths,
    Image.textureWidths, List.mem_append, List.mem_cons, List.not_mem_nil,
    or_false, List.mem_replicate, List.mem_flatten] at member
  grind

namespace Image

open Format

theorem uint8_diagnoses :
    uint8.Diagnoses .unexpectedEnd (fun _ => True) fun _ => [1] :=
  Format.uint8_diagnoses _

theorem uint16_diagnoses :
    uint16.Diagnoses .unexpectedEnd (fun _ => True) fun _ => [2] :=
  Format.uint16_diagnoses _

theorem uint32_diagnoses :
    uint32.Diagnoses .unexpectedEnd (fun _ => True) fun _ => [4] :=
  Format.uint32_diagnoses _

theorem bool_diagnoses :
    bool.Diagnoses .unexpectedEnd (fun _ => True) fun _ => [1] :=
  uint8_diagnoses.refine _ _

theorem coded_diagnoses {member : Type} [Coded member] (field : String) :
    (coded field : Format ImageError member).Diagnoses .unexpectedEnd
      (fun _ => True) fun _ => [1] :=
  uint8_diagnoses.refine _ _

theorem single_diagnoses :
    single.Diagnoses .unexpectedEnd (fun _ => True) fun _ => [4] :=
  uint32_diagnoses.map _ _

theorem version_diagnoses :
    version.Diagnoses .unexpectedEnd (fun _ => True) fun _ => [1] :=
  uint8_diagnoses.refine _ _

/-! ## The vertex program -/

theorem token_diagnoses :
    token.Diagnoses .unexpectedEnd (fun _ => True) fun _ => [4, 4, 4, 4] :=
  (uint32_diagnoses.vector uint32_exact 4).congr (by simp) (fun _ => rfl)

theorem flatten_replicate_tokens (count : Nat) :
    (List.replicate count [4, 4, 4, 4]).flatten =
      List.replicate (4 * count) 4 := by
  induction count with
  | zero => rfl
  | succ count ih =>
      rw [List.replicate_succ, List.flatten_cons, ih]
      rfl

theorem tokens_diagnoses :
    tokens.Diagnoses .unexpectedEnd
      (fun items => items.length ≤ Microcode.maxProgramLength)
      fun items => 4 :: List.replicate (4 * items.length) 4 := by
  intro items fits
  have small : items.length < 0x100000000 :=
    Nat.lt_of_le_of_lt fits (by decide)
  have count := toNat_ofNat_tokenCount small
  have body := token_diagnoses.readMany token_exact items
  rw [flatten_replicate_tokens] at body
  refine EndsAt.append (uint32_diagnoses (UInt32.ofNat items.length) trivial)
    (uint32_exact.read_write _ trivial) ?_
  -- The number is the one that was written, so it passes the check.
  simpa [count, fits] using body

theorem microcode_diagnoses :
    microcode.Diagnoses .unexpectedEnd
      (fun program => program.tokens.length ≤ Microcode.maxProgramLength)
      fun program =>
        [1, 4] ++ List.replicate (4 * program.tokens.length) 4 :=
  ((bool_diagnoses.pair bool_exact tokens_diagnoses).map _ _).congr
    (by simp) (fun _ => rfl)

theorem fixedFunction_diagnoses :
    fixedFunction.Diagnoses .unexpectedEnd (fun _ => True)
      fun _ => List.replicate 35 1 :=
  (((coded_diagnoses _).pair (coded_exact _)
    (bool_diagnoses.pair bool_exact
    ((bool_diagnoses.vector bool_exact 4).pair (bool_exact.vector 4)
    ((((coded_diagnoses _).vector (coded_exact _) 4).vector
        ((coded_exact _).vector 4) 4).pair
      (((coded_exact _).vector 4).vector 4)
    (bool_diagnoses.pair bool_exact
    (((coded_diagnoses _).vector (coded_exact _) 8).pair
      ((coded_exact _).vector 8)
    ((coded_diagnoses _).pair (coded_exact _)
    ((coded_diagnoses _).pair (coded_exact _)
    ((coded_diagnoses _).pair (coded_exact _)
    (coded_diagnoses _)))))))))).map _ _).congr (by simp) (fun _ => rfl)

theorem vertexProgram_diagnoses :
    vertexProgram.Diagnoses .unexpectedEnd VertexProgram.Storable
      VertexProgram.fieldWidths := by
  intro program storable
  cases program with
  | microcode program =>
      refine EndsAt.append (uint8_diagnoses 0 trivial)
        (uint8_exact.read_write 0 trivial) ?_
      exact (microcode_diagnoses program storable).andThen _
  | fixedFunction settings =>
      refine EndsAt.append (uint8_diagnoses 1 trivial)
        (uint8_exact.read_write 1 trivial) ?_
      exact (fixedFunction_diagnoses settings trivial).andThen _

/-! ## The other parts -/

theorem fog_diagnoses :
    fog.Diagnoses .unexpectedEnd (fun _ => True) fun _ => [1, 1, 1] :=
  ((bool_diagnoses.pair bool_exact
    ((coded_diagnoses _).pair (coded_exact _)
    (coded_diagnoses _))).map _ _).congr (by simp) (fun _ => rfl)

theorem point_diagnoses :
    point.Diagnoses .unexpectedEnd (fun _ => True)
      fun _ => 1 :: List.replicate 9 4 :=
  ((bool_diagnoses.pair bool_exact
    (single_diagnoses.pair single_exact
    (single_diagnoses.vector single_exact 8))).map _ _).congr
    (by simp) (fun _ => rfl)

theorem vertexSettings_diagnoses :
    vertexSettings.Diagnoses .unexpectedEnd (fun _ => True)
      fun _ => vertexSettingsWidths :=
  (uint16_diagnoses.pair uint16_exact
    (uint32_diagnoses.pair uint32_exact
    (fog_diagnoses.pair fog_exact point_diagnoses))).congr
    (by simp) (fun _ => rfl)

theorem geometry_diagnoses :
    geometry.Diagnoses .unexpectedEnd (fun _ => True) fun _ => [1, 1, 1] :=
  (((coded_diagnoses _).pair (coded_exact _)
    ((coded_diagnoses _).pair (coded_exact _)
    (coded_diagnoses _))).map _ _).congr (by simp) (fun _ => rfl)

theorem texture_diagnoses :
    texture.Diagnoses .unexpectedEnd (fun _ => True)
      fun _ => textureWidths :=
  ((bool_diagnoses.pair bool_exact
    (bool_diagnoses.pair bool_exact
    (bool_diagnoses.pair bool_exact
    (bool_diagnoses.pair bool_exact
    ((bool_diagnoses.vector bool_exact 4).pair (bool_exact.vector 4)
    ((coded_diagnoses _).pair (coded_exact _)
    ((single_diagnoses.vector single_exact 3).pair (single_exact.vector 3)
    (single_diagnoses.vector single_exact 3)))))))).map _ _).congr
    (by simp) (fun _ => rfl)

theorem stageWords_diagnoses :
    stageWords.Diagnoses .unexpectedEnd (fun _ => True)
      fun _ => List.replicate 8 4 :=
  (uint32_diagnoses.vector uint32_exact 8).congr (by simp) (fun _ => rfl)

theorem pixel_diagnoses :
    pixel.Diagnoses .unexpectedEnd (fun _ => True) fun _ => pixelWidths :=
  ((uint32_diagnoses.pair uint32_exact
    (uint32_diagnoses.pair uint32_exact
    (uint32_diagnoses.pair uint32_exact
    (uint32_diagnoses.pair uint32_exact
    (uint32_diagnoses.pair uint32_exact
    (stageWords_diagnoses.pair stageWords_exact
    (stageWords_diagnoses.pair stageWords_exact
    (stageWords_diagnoses.pair stageWords_exact
    (stageWords_diagnoses.pair stageWords_exact
    ((texture_diagnoses.vector texture_exact 4).pair (texture_exact.vector 4)
    ((coded_diagnoses _).pair (coded_exact _)
    (bool_diagnoses.pair bool_exact
    ((coded_diagnoses _).pair (coded_exact _)
    (bool_diagnoses.pair bool_exact
    bool_diagnoses)))))))))))))).map _ _).congr (by simp) (fun _ => rfl)

theorem otherStages_diagnoses :
    otherStages.Diagnoses .unexpectedEnd (fun _ => True)
      fun _ => [1, 1, 1] ++ (pixelWidths ++ [1]) :=
  (geometry_diagnoses.pair geometry_exact
    (pixel_diagnoses.pair pixel_exact bool_diagnoses)).congr
    (by simp) (fun _ => rfl)

theorem vertex_diagnoses :
    vertex.Diagnoses .unexpectedEnd (fun state => state.program.Storable)
      fun state => state.program.fieldWidths ++ vertexSettingsWidths :=
  ((vertexProgram_diagnoses.pair vertexProgram_exact
    vertexSettings_diagnoses).map _ _).congr (by simp) (fun _ => rfl)

theorem state_diagnoses :
    state.Diagnoses .unexpectedEnd
      (fun state => state.vertex.program.Storable)
      PipelineState.fieldWidths :=
  ((version_diagnoses.pair version_exact
    ((vertex_diagnoses.pair vertex_exact
      otherStages_diagnoses).map _ _)).map _ _).congr
    (by simp) (fun state => by simp [PipelineState.fieldWidths])

end Image

/--
An image that ends too early or too late is told exactly.  The bytes of an
image are those of its fields.  Whatever is cut off, the error names the start
of the field that is cut, which has one, two or four bytes; and whatever is
added, the error says how much.
-/
theorem PipelineState.ofBytes_cut_or_extended
    (state : PipelineState) (storable : state.vertex.program.Storable) :
    state.toBytes.length = Format.span state.fieldWidths ∧
    (∀ cut < state.toBytes.length,
      ∃ before width after,
        state.fieldWidths = before ++ width :: after ∧
          (width = 1 ∨ width = 2 ∨ width = 4) ∧
          Format.span before ≤ cut ∧ cut < Format.span before + width ∧
          PipelineState.ofBytes (state.toBytes.take cut) =
            .error (.unexpectedEnd (Format.span before))) ∧
    (∀ rest : List UInt8, rest ≠ [] →
      PipelineState.ofBytes (state.toBytes ++ rest) =
        .error (.trailingBytes rest.length)) := by
  refine ⟨(Image.state_diagnoses state storable).length, ?_, ?_⟩
  · intro cut short
    obtain ⟨before, width, after, split, left, right, failed⟩ :=
      Image.state_diagnoses.readAll_take .trailingBytes storable short
    have member : width ∈ state.fieldWidths := by simp [split]
    exact ⟨before, width, after, split,
      PipelineState.mem_fieldWidths member, left, right, failed⟩
  · intro rest more
    exact Image.state_exact.readAll_append .trailingBytes storable more

/-- A program that is cut in its second token, and one with a byte behind. -/
theorem PipelineState.ofBytes_cut_or_extended_tokens :
    (PipelineState.ofTokenCount 2).vertex.program.Storable ∧
    (∃ offset, offset ≤ 30 ∧ 30 < offset + 4 ∧
      PipelineState.ofBytes
          ((PipelineState.ofTokenCount 2).toBytes.take 30) =
        .error (.unexpectedEnd offset)) ∧
    PipelineState.ofBytes ((PipelineState.ofTokenCount 2).toBytes ++ [0]) =
      .error (.trailingBytes 1) := by
  have storable : (PipelineState.ofTokenCount 2).vertex.program.Storable := by
    simp [PipelineState.ofTokenCount, VertexProgram.Storable,
      Microcode.maxProgramLength]
  obtain ⟨length, cut, extended⟩ :=
    PipelineState.ofBytes_cut_or_extended _ storable
  have short : 30 < (PipelineState.ofTokenCount 2).toBytes.length := by
    rw [length]
    decide +kernel
  obtain ⟨before, width, after, -, small, left, right, failed⟩ := cut 30 short
  exact ⟨storable, ⟨Format.span before, left, by omega, failed⟩,
    extended [0] (by simp)⟩

end ShaderSynth
