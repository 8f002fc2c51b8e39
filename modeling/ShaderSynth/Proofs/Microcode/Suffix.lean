import ShaderSynth.Microcode.Prelude
import ShaderSynth.Proofs.Glsl.Locals
import ShaderSynth.Proofs.Microcode.Execution

/-!
# Suffixes of component selections

A suffix is written after a register and read as a component selection of the
shading language; without one all components are taken.  The functions `_in`
of the prelude then fill up what was selected to four components.  Read in
this way, the suffix of a selection makes that selection.

A suffix is parsed by the same reading: it selects from the vector of the
places, so the parser returns the selection that the suffix makes.  The
suffix of a selection is a shortest one among those that are parsed to it.
-/

namespace ShaderSynth.Microcode

open Glsl

variable {scalar : Type}

/-! ## The functions that fill up a selection -/

/-- The expression that a line of a helper function returns. -/
def returned? : Glsl.Statement → Option (List Char)
  | .verbatim text => do
      let rest ← "return ".toList.isPrefixOf? text.toList
      if rest.getLast? = some ';' then some rest.dropLast else none
  | _ => none

/-- The value of an expression in the components of the parameter `v`. -/
def parameterValue? (values : List scalar) (expression : List Char) :
    Option (List scalar) :=
  if expression = "vec4(v)".toList then
    match values with
    | [value] => some (List.replicate 4 value)
    | _ => none
  else
    match expression with
    | 'v' :: '.' :: letters => pick coordinates letters values
    | _ => none

/-- The result of calling a function by its name, if it takes the argument. -/
def called? (name : String) (values : List scalar) :
    Item → Option (List scalar)
  | .function definition =>
      match definition.parameters, definition.body with
      | [(type, "v")], [line] =>
          if definition.name = name ∧ type.width? = some values.length then
            returned? line.statement >>= parameterValue? values
          else none
      | _, _ => none
  | _ => none

/-- The components that the functions `_in` of the prelude make of an input. -/
def widened? (values : List scalar) : Option (List scalar) :=
  declarations.findSome? (called? "_in" values)

/-- The functions `_in` fill up with the last component. -/
theorem widened?_eq (values : List scalar) :
    widened? values = (Vec4.widen values).map Vec4.toList := by
  rcases values with _ | ⟨_, _ | ⟨_, _ | ⟨_, _ | ⟨_, _ | ⟨_, _⟩⟩⟩⟩⟩ <;> rfl

/-! ## What a suffix selects -/

/-- The components that a suffix selects; without one, all of them. -/
def selectedBy? (suffix : String) (values : List scalar) :
    Option (List scalar) :=
  match suffix.toList with
  | [] => some values
  | '.' :: letters => pick coordinates letters values
  | _ => none

namespace Swizzle

theorem letterCount_eq_zero_iff (swizzle : Swizzle) :
    swizzle.letterCount = 0 ↔ swizzle = identity := by
  unfold letterCount
  by_cases plain : swizzle = identity
  · simp [plain]
  · rw [if_neg plain]
    repeat' split
    all_goals simp [plain]

theorem toList_suffix {swizzle : Swizzle} (written : swizzle ≠ identity) :
    swizzle.suffix.toList = '.' :: swizzle.letters := by
  have nonempty : swizzle.letters ≠ [] := by
    simp [letters, toList, letterCount_eq_zero_iff, written]
  unfold suffix
  split
  · contradiction
  · rw [String.toList_ofList]

end Swizzle

/-- The suffix of a selection makes it, once it is filled up. -/
theorem selectedBy?_suffix (swizzle : Swizzle) (vector : Vec4 scalar) :
    (selectedBy? swizzle.suffix vector.toList >>= Vec4.widen) =
      some (vector.swizzle swizzle) := by
  unfold selectedBy?
  by_cases plain : swizzle = .identity
  · subst plain
    rfl
  · rw [Swizzle.toList_suffix plain]
    show (pick coordinates swizzle.letters vector.toList >>= Vec4.widen) = _
    rw [Swizzle.letters, pick_letters]
    exact widen_selected vector plain

/-! ## Parsing as a selection -/

/-- The vector whose components are their own places. -/
def Vec4.places : Vec4 UInt8 := ⟨0, 1, 2, 3⟩

/-- The selection with these selectors. -/
def Swizzle.ofVector (selectors : Vec4 UInt8) : Swizzle :=
  ⟨selectors.x, selectors.y, selectors.z, selectors.w⟩

theorem pick_places (letters : List Char) :
    pick coordinates letters Vec4.places.toList =
      letters.mapM Swizzle.ofLetter? := by
  unfold pick
  congr 1
  funext letter
  unfold Swizzle.ofLetter?
  split
  case h_5 notX notY notZ notW =>
    have absent : coordinates.idxOf? letter = none := by
      simpa [coordinates] using ⟨notX, notY, notZ, notW⟩
    rw [absent]
    rfl
  all_goals rfl

theorem ofLetters?_eq (letters : List Char) :
    Swizzle.ofLetters? letters =
      (pick coordinates letters Vec4.places.toList >>= Vec4.widen).map
        .ofVector := by
  rw [pick_places]
  -- One case for each number of letters; neither side takes five or more.
  rcases letters with _ | ⟨x, _ | ⟨y, _ | ⟨z, _ | ⟨w, _ | ⟨v, rest⟩⟩⟩⟩⟩
  all_goals simp only [Swizzle.ofLetters?, List.mapM_cons, List.mapM_nil]
  · rfl
  · cases Swizzle.ofLetter? x <;> rfl
  · cases Swizzle.ofLetter? x <;> cases Swizzle.ofLetter? y <;> rfl
  · cases Swizzle.ofLetter? x <;> cases Swizzle.ofLetter? y <;>
      cases Swizzle.ofLetter? z <;> rfl
  · cases Swizzle.ofLetter? x <;> cases Swizzle.ofLetter? y <;>
      cases Swizzle.ofLetter? z <;> cases Swizzle.ofLetter? w <;> rfl
  · cases Swizzle.ofLetter? x <;> cases Swizzle.ofLetter? y <;>
      cases Swizzle.ofLetter? z <;> cases Swizzle.ofLetter? w <;>
      cases Swizzle.ofLetter? v <;> cases rest.mapM Swizzle.ofLetter? <;> rfl

/-- A suffix is parsed by selecting from the places. -/
theorem ofSuffix?_eq (text : String) :
    Swizzle.ofSuffix? text =
      (selectedBy? text Vec4.places.toList >>= Vec4.widen).map .ofVector := by
  unfold Swizzle.ofSuffix? selectedBy?
  rcases text.toList with _ | ⟨first, letters⟩
  · rfl
  · by_cases dot : first = '.'
    · subst dot
      exact ofLetters?_eq letters
    · simp [dot]

/-- Parsed selectors fill up one to four places that the text selects. -/
theorem exists_of_ofSuffix? {text : String} {swizzle : Swizzle}
    (accepted : Swizzle.ofSuffix? text = some swizzle) :
    ∃ selectors vector, selectedBy? text Vec4.places.toList = some selectors ∧
      Vec4.widen selectors = some vector ∧ .ofVector vector = swizzle := by
  rw [ofSuffix?_eq] at accepted
  obtain ⟨vector, selected, rfl⟩ := Option.map_eq_some_iff.mp accepted
  obtain ⟨selectors, picked, widened⟩ := Option.bind_eq_some_iff.mp selected
  exact ⟨selectors, vector, picked, widened, rfl⟩

/-! ## Selectors that are parsed -/

theorem mem_of_selectedBy? {suffix : String} {values picked : List scalar}
    (found : selectedBy? suffix values = some picked) :
    ∀ value ∈ picked, value ∈ values := by
  unfold selectedBy? at found
  split at found
  · cases found
    exact fun _ member => member
  · exact (picked_of_pick found).2
  · cases found

theorem mem_of_widen {values : List scalar} {vector : Vec4 scalar}
    (widened : Vec4.widen values = some vector) :
    ∀ value ∈ vector.toList, value ∈ values := by
  rcases values with _ | ⟨_, _ | ⟨_, _ | ⟨_, _ | ⟨_, _ | ⟨_, _⟩⟩⟩⟩⟩ <;>
    cases widened <;> simp [Vec4.toList]

namespace Swizzle

/-- Selectors that were parsed name components. -/
theorem mem_places_of_ofSuffix? {text : String} {swizzle : Swizzle}
    (accepted : ofSuffix? text = some swizzle) :
    ∀ selector ∈ swizzle.toList, selector ∈ Vec4.places.toList := by
  obtain ⟨selectors, vector, picked, widened, rfl⟩ :=
    exists_of_ofSuffix? accepted
  intro selector member
  exact mem_of_selectedBy? picked selector
    (mem_of_widen widened selector member)

/-- A selection from the places is itself. -/
theorem ofVector_swizzle_places {swizzle : Swizzle}
    (named : ∀ selector ∈ swizzle.toList, selector ∈ Vec4.places.toList) :
    ofVector (Vec4.places.swizzle swizzle) = swizzle := by
  have own : ∀ selector ∈ Vec4.places.toList,
      Vec4.places.component selector = selector := by
    simp only [Vec4.places, Vec4.toList, List.forall_mem_cons]
    exact ⟨rfl, rfl, rfl, rfl, List.forall_mem_nil _⟩
  obtain ⟨x, y, z, w⟩ := swizzle
  simp only [toList, List.forall_mem_cons] at named
  obtain ⟨hx, hy, hz, hw, -⟩ := named
  simp only [ofVector, Vec4.swizzle, own x hx, own y hy, own z hz, own w hw]

/-! ## The length of a suffix -/

theorem letterCount_le_of_widen {selectors : List UInt8} {vector : Vec4 UInt8}
    (widened : Vec4.widen selectors = some vector) :
    (ofVector vector).letterCount ≤ selectors.length := by
  -- What was filled up repeats the last selector, which the count leaves out.
  rcases selectors with _ | ⟨_, _ | ⟨_, _ | ⟨_, _ | ⟨_, _ | ⟨_, _⟩⟩⟩⟩⟩ <;>
    cases widened
  all_goals
    unfold letterCount ofVector
    repeat' split
  all_goals simp_all

theorem length_suffix_le {swizzle : Swizzle} (written : swizzle ≠ identity) :
    swizzle.suffix.length ≤ swizzle.letterCount + 1 := by
  rw [← String.length_toList, toList_suffix written, List.length_cons,
    letters, List.length_map]
  exact Nat.succ_le_succ (List.length_take_le _ _)

/-- No text that is parsed to a selection is shorter than its suffix. -/
theorem length_suffix_le_of_ofSuffix? {text : String} {swizzle : Swizzle}
    (accepted : ofSuffix? text = some swizzle) :
    swizzle.suffix.length ≤ text.length := by
  by_cases plain : swizzle = identity
  · subst plain
    exact Nat.zero_le _
  obtain ⟨selectors, vector, picked, widened, rfl⟩ :=
    exists_of_ofSuffix? accepted
  have count := letterCount_le_of_widen widened
  have size := length_suffix_le plain
  unfold selectedBy? at picked
  split at picked
  · cases picked
    cases widened
    exact absurd rfl plain
  · rename_i letters written
    have length : text.length = selectors.length + 1 := by
      rw [← String.length_toList, written, List.length_cons,
        (picked_of_pick picked).1]
    omega
  · cases picked

end Swizzle

/--
A suffix that is parsed selects components.  They are parsed from their own
suffix again, which is no longer than the one they came from.  After a vector
this suffix takes exactly these components, once the prelude has filled up
what it selects.
-/
theorem Swizzle.suffix_faithful_and_shortest (text : String)
    (swizzle : Swizzle) (accepted : Swizzle.ofSuffix? text = some swizzle) :
    (∀ selector ∈ swizzle.toList, selector < 4) ∧
      Swizzle.ofSuffix? swizzle.suffix = some swizzle ∧
      swizzle.suffix.length ≤ text.length ∧
      ∀ (scalar : Type) (vector : Vec4 scalar),
        (selectedBy? swizzle.suffix vector.toList >>= widened?) =
          some (vector.swizzle swizzle).toList := by
  have named := mem_places_of_ofSuffix? accepted
  refine ⟨fun selector member => ?_, ?_, ?_, fun scalar vector => ?_⟩
  · have small : ∀ place ∈ Vec4.places.toList, place < 4 := by
      simp only [Vec4.places, Vec4.toList, List.forall_mem_cons]
      exact ⟨by decide, by decide, by decide, by decide,
        List.forall_mem_nil _⟩
    exact small selector (named selector member)
  · rw [ofSuffix?_eq, selectedBy?_suffix, Option.map_some,
      ofVector_swizzle_places named]
  · exact length_suffix_le_of_ofSuffix? accepted
  · obtain ⟨values, selected, filled⟩ :=
      Option.bind_eq_some_iff.mp (selectedBy?_suffix swizzle vector)
    rw [selected]
    show widened? values = _
    rw [widened?_eq, filled, Option.map_some]

theorem Swizzle.suffix_faithful_and_shortest_repeated :
    Swizzle.ofSuffix? ".wzyy" = some ⟨3, 2, 1, 1⟩ ∧
      (⟨3, 2, 1, 1⟩ : Swizzle).suffix = ".wzy" ∧
      Swizzle.ofSuffix? ".wzy" = some ⟨3, 2, 1, 1⟩ ∧
      (selectedBy? ".wzy" [10, 11, 12, 13] >>= widened?) =
        some [13, 12, 11, 11] := by
  have accepted : Swizzle.ofSuffix? ".wzyy" = some ⟨3, 2, 1, 1⟩ := by decide
  have short : (⟨3, 2, 1, 1⟩ : Swizzle).suffix = ".wzy" := by decide
  obtain ⟨-, parsed, -, selected⟩ :=
    Swizzle.suffix_faithful_and_shortest _ _ accepted
  rw [short] at parsed selected
  exact ⟨accepted, short, parsed, selected Nat ⟨10, 11, 12, 13⟩⟩

end ShaderSynth.Microcode
