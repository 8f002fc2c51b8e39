import Mathlib.Data.List.Cycle
import Mathlib.Data.List.Nodup
import Mathlib.Data.Sym.Sym2.Order
import ShaderSynth.Proofs.Stage.Primitives

/-!
# Faces of a draw

What a draw through a geometry stage leaves to be rasterised, for any number of
vertices.  The host makes primitives of the vertices and runs the stage once
for each of them.  Segments are drawn from strips of lines and triangles from
strips of triangles.

An outline consists of the edges of all faces, each of them drawn once.  In a
strip or a fan the faces share edges: a face leaves out the edge that the face
before it has drawn.  Quads are filled by two triangles each, which wind as the
quad does.
-/

namespace ShaderSynth

/-! ## Primitives of the host -/

namespace Assembly

/-- The primitives that a stage declares to receive. -/
def received : Assembly → String
  | points => "points"
  | lines | lineLoop | lineStrip => "lines"
  | triangles | triangleStrip | triangleFan => "triangles"
  | linesAdjacency | lineStripAdjacency => "lines_adjacency"

/-- The number of primitives.  Points and lines need no geometry stage. -/
def count (vertices : Nat) : Assembly → Nat
  | triangles => vertices / 3
  | triangleStrip | triangleFan => vertices - 2
  | linesAdjacency => vertices / 4
  | lineStripAdjacency => vertices - 3
  | points | lines | lineLoop | lineStrip => 0

/-- The vertices of a primitive.  Odd triangles of a strip are turned round. -/
def corners (number : Nat) : Assembly → List Nat
  | triangles => [3 * number, 3 * number + 1, 3 * number + 2]
  | triangleStrip =>
      if number % 2 = 0 then [number, number + 1, number + 2]
      else [number, number + 2, number + 1]
  | triangleFan => [0, number + 1, number + 2]
  | linesAdjacency =>
      [4 * number, 4 * number + 1, 4 * number + 2, 4 * number + 3]
  | lineStripAdjacency => [number, number + 1, number + 2, number + 3]
  | points | lines | lineLoop | lineStrip => []

/-- The primitives of a draw. -/
def primitives (assembly : Assembly) (vertices : Nat) :
    List Geometry.Primitive :=
  (List.range (assembly.count vertices)).map fun number =>
    ⟨number, assembly.corners number⟩

end Assembly

/-- The faces of a draw, each by its corners in order. -/
def PrimitiveMode.faces (vertices : Nat) : PrimitiveMode → List (List Nat)
  | triangles =>
      (List.range (vertices / 3)).map fun face =>
        [3 * face, 3 * face + 1, 3 * face + 2]
  | triangleStrip =>
      (List.range (vertices - 2)).map fun face => [face, face + 1, face + 2]
  | triangleFan =>
      (List.range (vertices - 2)).map fun face => [0, face + 1, face + 2]
  | quads =>
      (List.range (vertices / 4)).map fun face =>
        [4 * face, 4 * face + 1, 4 * face + 2, 4 * face + 3]
  | quadStrip =>
      (List.range ((vertices - 2) / 2)).map fun face =>
        [2 * face, 2 * face + 1, 2 * face + 3, 2 * face + 2]
  | polygon => if vertices < 3 then [] else [List.range vertices]
  | invalid | points | lines | lineLoop | lineStrip => []

namespace Geometry

open Glsl

/-! ## Strips -/

/-- The segments of a strip of lines. -/
def segmentsOf (strip : List Nat) : List (Sym2 Nat) :=
  (strip.zip strip.tail).map fun (first, second) => s(first, second)

@[simp]
theorem segmentsOf_singleton (vertex : Nat) : segmentsOf [vertex] = [] := rfl

@[simp]
theorem segmentsOf_cons_cons (first second : Nat) (rest : List Nat) :
    segmentsOf (first :: second :: rest) =
      s(first, second) :: segmentsOf (second :: rest) := rfl

/-- The triangles of a strip, every second one turned round. -/
def trianglesFrom (turned : Bool) : List Nat → List (Cycle Nat)
  | first :: second :: third :: rest =>
      (if turned then [second, first, third] else [first, second, third]) ::
        trianglesFrom (!turned) (second :: third :: rest)
  | _ => []

/-- What is rasterised; triangles are told by their winding. -/
inductive Drawing where
  | segments (ends : List (Sym2 Nat))
  | triangles (corners : List (Cycle Nat))

/-- What strips of a kind leave to be rasterised. -/
def Drawing.ofStrips? (kind : String) (strips : List (List Nat)) :
    Option Drawing :=
  if kind = "line_strip" then
    some (.segments (strips.flatMap segmentsOf))
  else if kind = "triangle_strip" then
    some (.triangles (strips.flatMap (trianglesFrom false)))
  else none

/-- What a draw through a geometry stage leaves to be rasterised. -/
def drawing? (state : GeometryState) (shading : Shading) (vertices : Nat) :
    Option Drawing :=
  match plan state shading with
  | .ok ⟨assembly, some layout⟩ =>
      let items := layout.source shading
      if input? items = some assembly.received then do
        let strips ← (assembly.primitives vertices).mapM (strips? items)
        let (kind, _) ← output? items
        Drawing.ofStrips? kind strips.flatten
      else none
  | _ => none

/-! ## Faces -/

/-- The edges of a face. -/
def edgesOf (corners : List Nat) : List (Sym2 Nat) :=
  (corners.zip (corners.rotate 1)).map fun (first, second) => s(first, second)

/-- Segments that are the edges of faces, each of them once. -/
structure Outlines (faces : List (List Nat)) (segments : List (Sym2 Nat)) :
    Prop where
  once : segments.Nodup
  edges : ∀ edge, edge ∈ segments ↔ ∃ face ∈ faces, edge ∈ edgesOf face

/-- Two triangles that split a quad along a diagonal and wind as it does. -/
def Splits (quad : Cycle Nat) (triangles : List (Cycle Nat)) : Prop :=
  ∃ first second third fourth : Nat,
    quad = [first, second, third, fourth] ∧
      triangles = [↑[first, second, third], ↑[third, fourth, first]]

/-- Triangles that split quads, two for each of them and no others. -/
def Fills (quads : List (List Nat)) (triangles : List (Cycle Nat)) : Prop :=
  ∃ parts : List (List (Cycle Nat)),
    triangles = parts.flatten ∧
      List.Forall₂ (fun (quad : List Nat) part => Splits quad part) quads parts

/-! ## Draws as a whole -/

theorem mapM_eq_some_map {α β : Type} {items : List α}
    {result : α → Option β} {value : α → β}
    (each : ∀ item ∈ items, result item = some (value item)) :
    items.mapM result = some (items.map value) := by
  induction items with
  | nil => rfl
  | cons item rest ih =>
      rw [List.mapM_cons, each item (.head _),
        ih fun other member => each other (.tail _ member)]
      rfl

/-- What is rasterised, from what each run of the stage emits. -/
theorem drawing_of_strips
    {state : GeometryState} {shading : Shading} {assembly : Assembly}
    {layout : Layout} {strips : Nat → List (List Nat)} (vertices : Nat)
    (planned : plan state shading = .ok ⟨assembly, some layout⟩)
    (fits : layout.input = assembly.received)
    (each : ∀ number,
      strips? (layout.source shading) ⟨number, assembly.corners number⟩ =
        some (strips number)) :
    drawing? state shading vertices =
      Drawing.ofStrips? layout.output
        ((List.range (assembly.count vertices)).flatMap strips) := by
  have emitted :
      (assembly.primitives vertices).mapM (strips? (layout.source shading)) =
        some ((assembly.primitives vertices).map fun primitive =>
          strips primitive.number) := by
    apply mapM_eq_some_map
    intro primitive member
    rcases List.mem_map.mp member with ⟨number, _, rfl⟩
    exact each number
  have accepted :
      input? (layout.source shading) = some assembly.received :=
    congrArg some fits
  have announced :
      output? (layout.source shading) =
        some (layout.output, layout.maxVertices) := rfl
  simp only [drawing?, planned, accepted, if_true, emitted, announced,
    Option.bind_eq_bind, Option.bind_some]
  rw [Assembly.primitives, List.map_map, List.flatMap_def]
  rfl

section Draws

variable {state : GeometryState} {shading : Shading} {assembly : Assembly}
  {layout : Layout} {strip : Nat → List Nat} (vertices : Nat)

/-- What a kind of strips leaves of the strips of a draw. -/
theorem flatMap_strips {α : Type} (draws : List Nat → List α)
    (none : draws [] = []) (idle : Nat → Prop) [DecidablePred idle]
    (numbers : List Nat) :
    (numbers.flatMap fun number =>
        if idle number then [[]] else [strip number, []]).flatMap draws =
      numbers.flatMap fun number =>
        if idle number then [] else draws (strip number) := by
  rw [List.flatMap_assoc]
  congr 1
  funext number
  split <;> simp [none]

variable (planned : plan state shading = .ok ⟨assembly, some layout⟩)
  (fits : layout.input = assembly.received)
  (found : ∀ number,
    (layout.emission.indices number).mapM ((assembly.corners number)[·]?) =
      some (strip number))
  (few : ∀ number, (strip number).length ≤ layout.maxVertices)

include planned fits found few

theorem drawing_segments (kind : layout.output = "line_strip") :
    drawing? state shading vertices =
      some (.segments ((List.range (assembly.count vertices)).flatMap
        fun number =>
          if layout.emission.evenOnly ∧ number % 2 = 1 then []
          else segmentsOf (strip number))) := by
  have drawn := drawing_of_strips vertices planned fits fun number =>
    strips_source layout shading _ (found number) (few number)
  rw [kind] at drawn
  rw [← flatMap_strips segmentsOf rfl]
  exact drawn

theorem drawing_triangles (kind : layout.output = "triangle_strip") :
    drawing? state shading vertices =
      some (.triangles ((List.range (assembly.count vertices)).flatMap
        fun number =>
          if layout.emission.evenOnly ∧ number % 2 = 1 then []
          else trianglesFrom false (strip number))) := by
  have drawn := drawing_of_strips vertices planned fits fun number =>
    strips_source layout shading _ (found number) (few number)
  rw [kind] at drawn
  rw [← flatMap_strips (trianglesFrom false) rfl]
  exact drawn

end Draws

/-- Where every second primitive counts, half of them are left. -/
theorem flatMap_even {α : Type} (drawn : Nat → List α) (count : Nat) :
    ((List.range count).flatMap fun number =>
        if number % 2 = 1 then [] else drawn number) =
      (List.range ((count + 1) / 2)).flatMap fun half => drawn (2 * half) := by
  induction count with
  | zero => rfl
  | succ count ih =>
      rw [List.range_succ, List.flatMap_append, ih, List.flatMap_singleton]
      rcases Nat.mod_two_eq_zero_or_one count with even | odd
      · have half : (count + 1) / 2 = count / 2 := by omega
        have next : (count + 1 + 1) / 2 = count / 2 + 1 := by omega
        have twice : 2 * (count / 2) = count := by omega
        rw [half, next, List.range_succ, List.flatMap_append,
          List.flatMap_singleton, twice, if_neg (by omega)]
      · have same : (count + 1 + 1) / 2 = (count + 1) / 2 := by omega
        rw [same, if_pos odd, List.append_nil]

/-! ## Outlines -/

theorem outlines_nil : Outlines [] [] :=
  ⟨List.nodup_nil, by simp⟩

/-- One more face adds the edges that have not been drawn. -/
theorem Outlines.add
    {faces : List (List Nat)} {segments drawn : List (Sym2 Nat)}
    {face : List Nat} (before : Outlines faces segments)
    (once : drawn.Nodup) (apart : segments.Disjoint drawn)
    (only : drawn ⊆ edgesOf face)
    (all : ∀ edge ∈ edgesOf face, edge ∈ segments ∨ edge ∈ drawn) :
    Outlines (faces ++ [face]) (segments ++ drawn) where
  once := List.nodup_append'.mpr ⟨before.once, once, apart⟩
  edges edge := by
    rw [List.mem_append, before.edges]
    constructor
    · rintro (⟨other, listed, member⟩ | new)
      · exact ⟨other, List.mem_append_left _ listed, member⟩
      · exact ⟨face, by simp, only new⟩
    · rintro ⟨other, listed, member⟩
      rcases List.mem_append.mp listed with earlier | last
      · exact .inl ⟨other, earlier, member⟩
      · rw [List.mem_singleton] at last
        subst last
        rw [← before.edges]
        exact all edge member

/--
An edge is drawn once if it tells which face draws it, and at all if no later
face leaves it to another one.
-/
theorem outlines_range {face : Nat → List Nat}
    {drawn : Nat → List (Sym2 Nat)} (drawer : Sym2 Nat → Nat)
    (once : ∀ number, (drawn number).Nodup)
    (told : ∀ number, ∀ edge ∈ drawn number, drawer edge = number)
    (only : ∀ number, drawn number ⊆ edgesOf (face number))
    (all : ∀ number, ∀ edge ∈ edgesOf (face number),
      (∃ earlier < number, edge ∈ drawn earlier) ∨ edge ∈ drawn number)
    (count : Nat) :
    Outlines ((List.range count).map face)
      ((List.range count).flatMap drawn) := by
  induction count with
  | zero => exact outlines_nil
  | succ count ih =>
      have listed (edge : Sym2 Nat) :
          edge ∈ (List.range count).flatMap drawn ↔
            ∃ earlier < count, edge ∈ drawn earlier := by
        simp
      rw [List.range_succ, List.map_append, List.flatMap_append,
        List.flatMap_singleton]
      apply ih.add (once count) _ (only count)
      · intro edge member
        rw [listed]
        exact all count edge member
      · intro edge earlier later
        rcases (listed edge).mp earlier with ⟨number, before, member⟩
        have same : number = count :=
          (told number edge member).symm.trans (told count edge later)
        exact before.ne same

/-- Faces that share no edges. -/
theorem outlines_separate {face : Nat → List Nat} (drawer : Sym2 Nat → Nat)
    (once : ∀ number, (edgesOf (face number)).Nodup)
    (told : ∀ number, ∀ edge ∈ edgesOf (face number), drawer edge = number)
    (count : Nat) :
    Outlines ((List.range count).map face)
      ((List.range count).flatMap fun number => edgesOf (face number)) := by
  apply outlines_range drawer once told
  · intro number
    exact List.Subset.refl _
  · intro number edge member
    exact .inr member

/--
Faces that share an edge each with the face before them.  Only the first face
draws its leading edge.
-/
theorem outlines_shared {face : Nat → List Nat} {lead : Nat → Sym2 Nat}
    {own : Nat → List (Sym2 Nat)} (drawer : Sym2 Nat → Nat)
    (edges : ∀ number, edgesOf (face number) = lead number :: own number)
    (shared : ∀ number, lead (number + 1) ∈ own number)
    (once : ∀ number, (lead number :: own number).Nodup)
    (told : ∀ number, ∀ edge ∈ own number, drawer edge = number)
    (first : drawer (lead 0) = 0) (count : Nat) :
    Outlines ((List.range count).map face)
      ((List.range count).flatMap fun number =>
        (if number = 0 then [lead number] else []) ++ own number) := by
  have drawn (number : Nat) (edge : Sym2 Nat) :
      edge ∈ (if number = 0 then [lead number] else []) ++ own number ↔
        number = 0 ∧ edge = lead number ∨ edge ∈ own number := by
    simp
  apply outlines_range drawer
  · intro number
    split
    · exact once number
    · exact (List.nodup_cons.mp (once number)).2
  · intro number edge member
    rcases (drawn number edge).mp member with ⟨rfl, rfl⟩ | member
    · exact first
    · exact told number edge member
  · intro number edge member
    rw [edges, List.mem_cons]
    exact ((drawn number edge).mp member).imp_left And.right
  · intro number edge member
    simp only [drawn]
    rw [edges, List.mem_cons] at member
    rcases member with rfl | member
    · cases number with
      | zero => exact .inr (.inl ⟨rfl, rfl⟩)
      | succ before =>
          exact .inl ⟨before, Nat.lt_succ_self before, .inr (shared before)⟩
    · exact .inr (.inr member)

/-- The leading vertex of a strip that only the first primitive emits. -/
theorem segmentsOf_lead (number lead next : Nat) (rest : List Nat) :
    segmentsOf ((if number = 0 then [lead] else []) ++ next :: rest) =
      (if number = 0 then [s(lead, next)] else []) ++
        segmentsOf (next :: rest) := by
  split <;> rfl

/-! The last vertex of an edge tells which face draws it. -/

theorem outlines_triangles (vertices : Nat) :
    Outlines (PrimitiveMode.triangles.faces vertices)
      ((List.range (vertices / 3)).flatMap fun number =>
        segmentsOf [3 * number, 3 * number + 1, 3 * number + 2,
          3 * number]) := by
  apply outlines_separate fun edge : Sym2 Nat => edge.sup / 3
  · intro number
    simp [edgesOf]
  · intro number
    have within (corner : Nat) (small : corner < 3) :
        (3 * number + corner) / 3 = number := by
      omega
    simp [edgesOf, within]

theorem outlines_quads (vertices : Nat) :
    Outlines (PrimitiveMode.quads.faces vertices)
      ((List.range (vertices / 4)).flatMap fun number =>
        segmentsOf [4 * number, 4 * number + 1, 4 * number + 2,
          4 * number + 3, 4 * number]) := by
  apply outlines_separate fun edge : Sym2 Nat => edge.sup / 4
  · intro number
    simp [edgesOf]
  · intro number
    have within (corner : Nat) (small : corner < 4) :
        (4 * number + corner) / 4 = number := by
      omega
    simp [edgesOf, within]

theorem outlines_triangleStrip (vertices : Nat) :
    Outlines (PrimitiveMode.triangleStrip.faces vertices)
      ((List.range (vertices - 2)).flatMap fun number =>
        segmentsOf ((if number = 0 then [number] else []) ++
          [number + 1, number + 2, number])) := by
  simp only [segmentsOf_lead]
  apply outlines_shared fun edge : Sym2 Nat => edge.sup - 2
  · intro number
    rfl
  · intro number
    simp
  · intro number
    simp
  · intro number
    simp
  · rfl

theorem outlines_triangleFan (vertices : Nat) :
    Outlines (PrimitiveMode.triangleFan.faces vertices)
      ((List.range (vertices - 2)).flatMap fun number =>
        segmentsOf ((if number = 0 then [0] else []) ++
          [number + 1, number + 2, 0])) := by
  simp only [segmentsOf_lead]
  apply outlines_shared fun edge : Sym2 Nat => edge.sup - 2
  · intro number
    rfl
  · intro number
    simp
  · intro number
    simp
  · intro number
    simp
  · rfl

theorem outlines_quadStrip (vertices : Nat) :
    Outlines (PrimitiveMode.quadStrip.faces vertices)
      ((List.range ((vertices - 2) / 2)).flatMap fun number =>
        segmentsOf ((if number = 0 then [2 * number] else []) ++
          [2 * number + 1, 2 * number + 3, 2 * number + 2, 2 * number])) := by
  simp only [segmentsOf_lead]
  apply outlines_shared fun edge : Sym2 Nat => (edge.sup - 2) / 2
  · intro number
    rfl
  · intro number
    have next : 2 * (number + 1) = 2 * number + 2 := by omega
    simp [next]
  · intro number
    simp
  · intro number
    have half : (2 * number + 1) / 2 = number := by omega
    simp [half]
  · rfl

/-! ## Outlined faces -/

theorem drawing_triangles_line (shading : Shading) (vertices : Nat) :
    drawing? ⟨.triangles, .line, .line⟩ shading vertices =
      some (.segments ((List.range (vertices / 3)).flatMap fun number =>
        segmentsOf [3 * number, 3 * number + 1, 3 * number + 2,
          3 * number])) := by
  have planned :
      plan ⟨.triangles, .line, .line⟩ shading =
        .ok ⟨.triangles,
          some ⟨"triangles", "line_strip", 4, .triangleOutline⟩⟩ := rfl
  exact drawing_segments vertices planned rfl (fun _ => rfl)
    (fun _ => Nat.le_refl _) rfl

theorem drawing_triangleStrip_line (shading : Shading) (vertices : Nat) :
    drawing? ⟨.triangleStrip, .line, .line⟩ shading vertices =
      some (.segments ((List.range (vertices - 2)).flatMap fun number =>
        segmentsOf ((if number = 0 then [number] else []) ++
          [number + 1, number + 2, number]))) := by
  have planned :
      plan ⟨.triangleStrip, .line, .line⟩ shading =
        .ok ⟨.triangleStrip,
          some ⟨"triangles", "line_strip", 4, .triangleStripOutline⟩⟩ := rfl
  apply drawing_segments vertices planned rfl
  · intro number
    rcases Nat.mod_two_eq_zero_or_one number with even | odd
    · simp only [Emission.indices, Emission.triangleStripOutline,
        List.flatMap_singleton, Part.indices, if_pos even, Assembly.corners]
      cases number <;> rfl
    · have later : number ≠ 0 := by
        rintro rfl
        contradiction
      have turned : number % 2 ≠ 0 := by omega
      simp only [Emission.indices, Emission.triangleStripOutline,
        List.flatMap_singleton, Part.indices, if_neg turned, if_neg later,
        Assembly.corners]
      rfl
  · intro number
    split <;> simp
  · rfl

theorem drawing_triangleFan_line (shading : Shading) (vertices : Nat) :
    drawing? ⟨.triangleFan, .line, .line⟩ shading vertices =
      some (.segments ((List.range (vertices - 2)).flatMap fun number =>
        segmentsOf ((if number = 0 then [0] else []) ++
          [number + 1, number + 2, 0]))) := by
  have planned :
      plan ⟨.triangleFan, .line, .line⟩ shading =
        .ok ⟨.triangleFan,
          some ⟨"triangles", "line_strip", 4, .triangleFanOutline⟩⟩ := rfl
  apply drawing_segments vertices planned rfl
  · intro number
    cases number <;> rfl
  · intro number
    split <;> simp
  · rfl

theorem drawing_quads_line (shading : Shading) (vertices : Nat) :
    drawing? ⟨.quads, .line, .line⟩ shading vertices =
      some (.segments ((List.range (vertices / 4)).flatMap fun number =>
        segmentsOf [4 * number, 4 * number + 1, 4 * number + 2,
          4 * number + 3, 4 * number])) := by
  have planned :
      plan ⟨.quads, .line, .line⟩ shading =
        .ok ⟨.linesAdjacency,
          some ⟨"lines_adjacency", "line_strip", 5, .quadOutline⟩⟩ := rfl
  exact drawing_segments vertices planned rfl (fun _ => rfl)
    (fun _ => Nat.le_refl _) rfl

theorem drawing_quadStrip_line (shading : Shading) (vertices : Nat) :
    drawing? ⟨.quadStrip, .line, .line⟩ shading vertices =
      some (.segments ((List.range ((vertices - 2) / 2)).flatMap fun number =>
        segmentsOf ((if number = 0 then [2 * number] else []) ++
          [2 * number + 1, 2 * number + 3, 2 * number + 2,
            2 * number]))) := by
  have planned :
      plan ⟨.quadStrip, .line, .line⟩ shading =
        .ok ⟨.lineStripAdjacency,
          some ⟨"lines_adjacency", "line_strip", 5, .quadStripOutline⟩⟩ := rfl
  have found (number : Nat) :
      (Emission.quadStripOutline.indices number).mapM
          ((Assembly.lineStripAdjacency.corners number)[·]?) =
        some ((if number = 0 then [number] else []) ++
          [number + 1, number + 3, number + 2, number]) := by
    cases number <;> rfl
  have drawn := drawing_segments vertices planned rfl found
    (fun number => by split <;> simp) rfl
  have half : (vertices - 3 + 1) / 2 = (vertices - 2) / 2 := by omega
  have zero (number : Nat) : 2 * number = 0 ↔ number = 0 := by omega
  simp only [Emission.quadStripOutline, true_and, Assembly.count,
    flatMap_even, half, zero] at drawn
  exact drawn

/-! ## Filled quads -/

theorem fills_range {quad : Nat → List Nat}
    {drawn : Nat → List (Cycle Nat)}
    (splits : ∀ number, Splits (quad number) (drawn number)) (count : Nat) :
    Fills ((List.range count).map quad)
      ((List.range count).flatMap drawn) := by
  refine ⟨(List.range count).map drawn, List.flatMap_def, ?_⟩
  rw [List.forall₂_map_left_iff, List.forall₂_map_right_iff,
    List.forall₂_same]
  intro number _
  exact splits number

theorem drawing_quads_fill (shading : Shading) (vertices : Nat) :
    drawing? ⟨.quads, .fill, .fill⟩ shading vertices =
      some (.triangles ((List.range (vertices / 4)).flatMap fun number =>
        trianglesFrom false [4 * number + 3, 4 * number, 4 * number + 2,
          4 * number + 1])) := by
  have planned :
      plan ⟨.quads, .fill, .fill⟩ shading =
        .ok ⟨.linesAdjacency,
          some ⟨"lines_adjacency", "triangle_strip", 4, .quadFill⟩⟩ := rfl
  exact drawing_triangles vertices planned rfl (fun _ => rfl)
    (fun _ => Nat.le_refl _) rfl

theorem drawing_quadStrip_fill (shading : Shading) (vertices : Nat) :
    drawing? ⟨.quadStrip, .fill, .fill⟩ shading vertices =
      some (.triangles ((List.range ((vertices - 2) / 2)).flatMap
        fun number =>
          trianglesFrom false [2 * number, 2 * number + 1, 2 * number + 2,
            2 * number + 3])) := by
  have planned :
      plan ⟨.quadStrip, .fill, .fill⟩ shading =
        .ok ⟨.lineStripAdjacency,
          some ⟨"lines_adjacency", "triangle_strip", 4, .quadStripFill⟩⟩ := rfl
  have found (number : Nat) :
      (Emission.quadStripFill.indices number).mapM
          ((Assembly.lineStripAdjacency.corners number)[·]?) =
        some [number, number + 1, number + 2, number + 3] := rfl
  have drawn := drawing_triangles vertices planned rfl found
    (fun _ => Nat.le_refl _) rfl
  have half : (vertices - 3 + 1) / 2 = (vertices - 2) / 2 := by omega
  simp only [Emission.quadStripFill, true_and, Assembly.count, flatMap_even,
    half] at drawn
  exact drawn

/-- The strip of a quad splits it along the diagonal from its first corner. -/
theorem splits_quad (first second third fourth : Nat) :
    Splits [first, second, third, fourth]
      (trianglesFrom false [fourth, first, third, second]) := by
  refine ⟨third, fourth, first, second, ?_, ?_⟩
  · exact Cycle.coe_eq_coe.mpr ⟨2, rfl⟩
  · have before : ([fourth, first, third] : Cycle Nat) =
        [third, fourth, first] := Cycle.coe_eq_coe.mpr ⟨2, rfl⟩
    have after : ([third, first, second] : Cycle Nat) =
        [first, second, third] := Cycle.coe_eq_coe.mpr ⟨1, rfl⟩
    rw [← before, ← after]
    rfl

/-- The strip of a strip's quad splits it along the other diagonal. -/
theorem splits_strip (first second third fourth : Nat) :
    Splits [first, second, fourth, third]
      (trianglesFrom false [first, second, third, fourth]) := by
  refine ⟨third, first, second, fourth, ?_, ?_⟩
  · exact Cycle.coe_eq_coe.mpr ⟨3, rfl⟩
  · have before : ([first, second, third] : Cycle Nat) =
        [third, first, second] := Cycle.coe_eq_coe.mpr ⟨2, rfl⟩
    have after : ([third, second, fourth] : Cycle Nat) =
        [second, fourth, third] := Cycle.coe_eq_coe.mpr ⟨1, rfl⟩
    rw [← before, ← after]
    rfl

/--
Draws of any number of vertices realise their faces.  Outlines consist of the
edges of all faces, each drawn once, and every complete quad is filled by two
triangles that wind as it does.
-/
theorem faces_realised (shading : Shading) (vertices : Nat) :
    (∀ mode ∈ [PrimitiveMode.triangles, .triangleStrip, .triangleFan, .quads,
        .quadStrip],
      ∃ segments,
        drawing? ⟨mode, .line, .line⟩ shading vertices =
            some (.segments segments) ∧
          Outlines (mode.faces vertices) segments) ∧
      ∀ mode ∈ [PrimitiveMode.quads, .quadStrip],
        ∃ triangles,
          drawing? ⟨mode, .fill, .fill⟩ shading vertices =
              some (.triangles triangles) ∧
            Fills (mode.faces vertices) triangles := by
  constructor
  · intro mode listed
    simp only [List.mem_cons, List.not_mem_nil, or_false] at listed
    rcases listed with rfl | rfl | rfl | rfl | rfl
    · exact ⟨_, drawing_triangles_line shading vertices,
        outlines_triangles vertices⟩
    · exact ⟨_, drawing_triangleStrip_line shading vertices,
        outlines_triangleStrip vertices⟩
    · exact ⟨_, drawing_triangleFan_line shading vertices,
        outlines_triangleFan vertices⟩
    · exact ⟨_, drawing_quads_line shading vertices,
        outlines_quads vertices⟩
    · exact ⟨_, drawing_quadStrip_line shading vertices,
        outlines_quadStrip vertices⟩
  · intro mode listed
    simp only [List.mem_cons, List.not_mem_nil, or_false] at listed
    rcases listed with rfl | rfl
    · exact ⟨_, drawing_quads_fill shading vertices,
        fills_range (fun _ => splits_quad ..) _⟩
    · exact ⟨_, drawing_quadStrip_fill shading vertices,
        fills_range (fun _ => splits_strip ..) _⟩

/-- Seven vertices make two quads of a strip, which share an edge. -/
theorem faces_realised_seven :
    PrimitiveMode.quadStrip.faces 7 = [[0, 1, 3, 2], [2, 3, 5, 4]] ∧
      (∃ segments,
        drawing? ⟨.quadStrip, .line, .line⟩ .flat 7 =
            some (.segments segments) ∧
          Outlines [[0, 1, 3, 2], [2, 3, 5, 4]] segments) ∧
      ∃ triangles,
        drawing? ⟨.quadStrip, .fill, .fill⟩ .flat 7 =
            some (.triangles triangles) ∧
          Fills [[0, 1, 3, 2], [2, 3, 5, 4]] triangles := by
  have realised := faces_realised .flat 7
  constructor
  · rfl
  · constructor
    · exact realised.1 .quadStrip (by decide)
    · exact realised.2 .quadStrip (by decide)

end Geometry

end ShaderSynth
