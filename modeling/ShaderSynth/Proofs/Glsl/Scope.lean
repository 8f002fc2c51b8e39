import ShaderSynth.Proofs.Glsl.Locals

/-!
# Variables in scope

A line may use the variables that lines before it declare.  `awaits` collects
the variables that lines use before they declare them, so that something before
these lines has to.
-/

namespace ShaderSynth.Glsl

/-! ## Uses -/

/-- The variables of an expression. -/
def Expr.names : Expr → List String
  | .name identifier => [identifier]
  | .number _ | .literal _ => []
  | .select inner _ | .call _ inner | .negate inner | .not inner
  | .group inner | .broken _ inner => inner.names
  | .element first second | .comma _ first second
  | .binary _ _ first second => first.names ++ second.names
  | .choose condition whenTrue whenFalse =>
      condition.names ++ whenTrue.names ++ whenFalse.names

/-- The variables in the head of a block; a counter is declared there. -/
def Opening.uses : Opening → List String
  | .when condition | .otherwiseWhen condition => condition.names
  | .otherwise | .scope _ | .count _ _ => []

/--
The variables that a statement uses, which does not include one that it
declares.  A verbatim line counts as a use of its own text.
-/
def Statement.uses : Statement → List String
  | .declare _ _ value _ => value.toList.flatMap Expr.names
  | .assign target _ value => target.names ++ value.names
  | .invoke _ arguments => arguments.toList.flatMap Expr.names
  | .guard _ condition _ => condition.names
  | .enter opening => opening.uses
  | .blank | .comment _ | .remark _ | .jump _ | .leave => []
  | .verbatim text => [text]

theorem Statement.uses_define (type : Ty) (name : String) (value : Expr) :
    (Statement.define type name value).uses = value.names :=
  List.append_nil _

/-! ## Variables from outside -/

/-- The names that lines declare. -/
def declared (lines : List Line) : List String :=
  (locals lines).map Prod.fst

@[simp]
theorem declared_append (lines rest : List Line) :
    declared (lines ++ rest) = declared lines ++ declared rest := by
  rw [declared, locals_append, List.map_append]
  rfl

/-- The variables that lines use before they declare them. -/
def awaits : List Line → List String
  | [] => []
  | line :: rest =>
      line.statement.uses
        ++ (awaits rest).filter fun name => name ∉ declared [line]

theorem mem_awaits_cons {line : Line} {rest : List Line} {name : String} :
    name ∈ awaits (line :: rest) ↔
      name ∈ line.statement.uses ∨
        name ∈ awaits rest ∧ name ∉ declared [line] := by
  rw [awaits, List.mem_append, List.mem_filter, decide_eq_true_iff]

theorem mem_awaits_append {lines rest : List Line} {name : String} :
    name ∈ awaits (lines ++ rest) ↔
      name ∈ awaits lines ∨ name ∈ awaits rest ∧ name ∉ declared lines := by
  induction lines with
  | nil => simp [awaits, declared]
  | cons line lines ih =>
      have split : declared (line :: lines) = declared [line] ++ declared lines :=
        declared_append [line] lines
      rw [List.cons_append, mem_awaits_cons, mem_awaits_cons, ih, split,
        List.mem_append, not_or]
      tauto

/-- Lines in several pieces, each of which may rely on those before it. -/
theorem mem_awaits_flatMap {index : Type} {list : List index}
    {lines : index → List Line} {name : String} :
    name ∈ awaits (list.flatMap lines) ↔
      ∃ before piece after,
        list = before ++ piece :: after ∧ name ∈ awaits (lines piece) ∧
          ∀ earlier ∈ before, name ∉ declared (lines earlier) := by
  induction list with
  | nil => simp [awaits]
  | cons first list ih =>
      rw [List.flatMap_cons, mem_awaits_append, ih]
      constructor
      · rintro (here | ⟨⟨before, piece, after, rfl, there, apart⟩, fresh⟩)
        · exact ⟨[], first, list, rfl, here, by simp⟩
        · exact ⟨first :: before, piece, after, rfl, there,
            List.forall_mem_cons.mpr ⟨fresh, apart⟩⟩
      · rintro ⟨before, piece, after, split, there, apart⟩
        cases before with
        | nil =>
            cases split
            exact .inl there
        | cons other before =>
            cases split
            rw [List.forall_mem_cons] at apart
            exact .inr ⟨⟨before, piece, after, rfl, there, apart.2⟩, apart.1⟩

/-- Some line uses a variable that no line before it declares. -/
theorem mem_awaits_iff {lines : List Line} {name : String} :
    name ∈ awaits lines ↔
      ∃ before line after,
        lines = before ++ line :: after ∧ name ∈ line.statement.uses ∧
          name ∉ declared before := by
  have pieces : lines.flatMap (fun line => [line]) = lines :=
    List.flatMap_singleton' lines
  have single (line : Line) : awaits [line] = line.statement.uses := by
    simp [awaits]
  have apart (before : List Line) :
      (∀ earlier ∈ before, name ∉ declared [earlier]) ↔
        name ∉ declared before := by
    induction before with
    | nil => simp [declared]
    | cons line rest ih =>
        rw [List.forall_mem_cons, ih, ← not_or, ← List.mem_append,
          ← declared_append]
        rfl
  rw [← pieces, mem_awaits_flatMap]
  simp only [single, apart, pieces]

end ShaderSynth.Glsl
