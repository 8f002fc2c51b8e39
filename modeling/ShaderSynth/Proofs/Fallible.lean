/-!
# Computations that may fail

Inversion of the ways in which fallible computations are put together: each
statement says what has to have succeeded for the whole to succeed.
-/

namespace ShaderSynth

variable {error other source target : Type}

theorem bind_eq_ok_iff
    {computation : Except error source}
    {continuation : source → Except error target}
    {result : target} :
    (computation >>= continuation) = .ok result ↔
      ∃ intermediate,
        computation = .ok intermediate ∧
          continuation intermediate = .ok result := by
  cases computation with
  | error cause => simp [bind, Except.bind]
  | ok intermediate => simp [bind, Except.bind]

theorem map_eq_ok_iff
    {computation : Except error source}
    {change : source → target}
    {result : target} :
    computation.map change = .ok result ↔
      ∃ intermediate,
        computation = .ok intermediate ∧ change intermediate = result := by
  cases computation with
  | error cause => simp [Except.map]
  | ok intermediate => simp [Except.map]

theorem mapError_ok (change : error → other) (result : source) :
    (Except.ok result).mapError change = .ok result :=
  rfl

theorem mapError_eq_ok_iff
    {computation : Except error source}
    {change : error → other}
    {result : source} :
    computation.mapError change = .ok result ↔ computation = .ok result := by
  cases computation with
  | error cause => exact ⟨nofun, nofun⟩
  | ok intermediate => simp [mapError_ok]

end ShaderSynth
