import Mathlib.Data.List.Perm.Subperm
import ShaderSynth.Proofs.Cache.Accounts
import ShaderSynth.Proofs.Device.Journal

/-!
# Objects that are linked

While a linker collects the shader objects of a program, room for a later
stage may have to be made at the cost of an earlier one.  Whether this happens
depends on nothing but the number of stages: the objects of a program are all
there when they are linked just if the linker has room for that many.

If there is room, the objects of the program are the ones that were used last
(`prefix_objectsOf`), whatever was built before.  If there is not, then they
are too many for the linker, which has every object that is there.
-/

namespace ShaderSynth

/-! ## Objects on record -/

/-- An object that was handed out is held until it is deleted. -/
theorem Ledger.Settled.mem_held_iff
    {object : Type} [DecidableEq object] {ledger : Ledger object}
    {held : List object} {item : object}
    (settled : ledger.Settled held) (issued : item ∈ ledger.issued) :
    item ∈ held ↔ item ∉ ledger.deleted := by
  have somewhere := settled.balanced.mem_iff.mp issued
  have apart := List.disjoint_of_nodup_append settled.nodup_append
  constructor
  · intro holds deleted
    exact apart holds deleted
  · intro kept
    exact (List.mem_append.mp somewhere).resolve_right kept

/-- The journal has the making of an object from the source of a stage. -/
def Watched.Compiled
    {device : Type} (watched : Watched device)
    (key : StageKey) (shader : ShaderId) : Prop :=
  ∃ source,
    key.source = .ok source ∧
      Call.compile key.kind source (some shader) ∈ watched.journal

theorem Watched.Compiled.mono
    {device : Type} {before after : Watched device} {key : StageKey}
    {shader : ShaderId}
    (compiled : before.Compiled key shader)
    (grows : before.journal <:+ after.journal) :
    after.Compiled key shader := by
  obtain ⟨source, generated, entered⟩ := compiled
  exact ⟨source, generated, grows.subset entered⟩

theorem Watched.exists_compiled
    {device : Type} {watched : Watched device} {keys : List StageKey}
    {shaders : List ShaderId} {shader : ShaderId}
    (compiled : List.Forall₂ watched.Compiled keys shaders)
    (member : shader ∈ shaders) :
    ∃ key ∈ keys, watched.Compiled key shader := by
  induction compiled with
  | nil => cases member
  | @cons key first rest others made compiled ih =>
      rcases List.mem_cons.mp member with rfl | later
      · exact ⟨key, List.mem_cons_self, made⟩
      · obtain ⟨other, known, found⟩ := ih later
        exact ⟨other, List.mem_cons_of_mem key known, found⟩

/-- Stages of different kinds have different objects. -/
theorem Watched.nodup_of_compiled
    {device : Type} {watched : Watched device} {keys : List StageKey}
    {shaders : List ShaderId}
    (fresh : (ledgerOf watched.journal).issued.Nodup)
    (kinds : (keys.map StageKey.kind).Nodup)
    (compiled : List.Forall₂ watched.Compiled keys shaders) :
    shaders.Nodup := by
  induction compiled with
  | nil => exact List.nodup_nil
  | @cons key shader rest others made compiled ih =>
      obtain ⟨different, kinds⟩ := List.nodup_cons.mp kinds
      refine List.nodup_cons.mpr ⟨?_, ih kinds⟩
      intro again
      obtain ⟨source, -, first⟩ := made
      obtain ⟨other, member, text, -, second⟩ :=
        exists_compiled compiled again
      have same := eq_of_made fresh first rfl second rfl
      rw [(Call.compile.inj same).1] at different
      exact different (List.mem_map_of_mem member)

/-! ## What building enters in the journal -/

namespace Linker

variable {device : Type}

/-- The objects of a linker are on record, and there is room for them. -/
structure Traced (linker : Linker) (watched : Watched device) : Prop where
  compiled :
    ∀ entry ∈ linker.objects.entries, watched.Compiled entry.1 entry.2
  fits : linker.objects.size ≤ linker.objects.capacity.size

/-- How building goes on from a linker and a device to others. -/
structure Leads
    (linker : Linker) (watched : Watched device)
    (next : Linker) (after : Watched device) : Prop where
  grows : watched.journal <:+ after.journal
  traced : linker.Traced watched → next.Traced after
  capacity : next.objects.capacity = linker.objects.capacity

theorem Leads.trans
    {first second third : Linker}
    {before between after : Watched device}
    (left : first.Leads before second between)
    (right : second.Leads between third after) :
    first.Leads before third after where
  grows := left.grows.trans right.grows
  traced traced := right.traced (left.traced traced)
  capacity := right.capacity.trans left.capacity

/-- A linker that is left alone while the device goes on. -/
theorem Leads.of_grows
    {linker : Linker} {watched after : Watched device}
    (grows : watched.journal <:+ after.journal) :
    linker.Leads watched linker after where
  grows := grows
  traced traced :=
    ⟨fun entry member => (traced.compiled entry member).mono grows,
      traced.fits⟩
  capacity := rfl

section Journal

variable [Device device] {linker : Linker}
  {watched : Watched device}

theorem journal_of_compile_ok
    {after : Watched device} {stage : StageKind} {source : String}
    {shader : ShaderId}
    (done : compile watched stage source = (.ok shader, after)) :
    after.journal =
      Call.compile stage source (some shader) :: watched.journal := by
  obtain ⟨compiled, rfl⟩ := Prod.mk.inj done
  have made := mapError_eq_ok_iff.mp compiled
  exact congrArg
    (fun result =>
      Call.compile stage source result.toOption :: watched.journal) made

theorem grows_compile
    (watched : Watched device) (stage : StageKind) (source : String) :
    watched.journal <:+ (compile watched stage source).2.journal :=
  List.suffix_cons _ _

theorem journal_link
    (watched : Watched device) (shaders : List ShaderId) :
    (link watched shaders).2.journal =
      Call.link shaders :: watched.journal :=
  rfl

theorem grows_keep
    (linker : Linker) (watched : Watched device) (key : StageKey)
    (shader : ShaderId) :
    watched.journal <:+ (linker.keep watched key shader).2.journal := by
  unfold keep
  dsimp only
  split
  · exact List.suffix_cons _ _
  · exact List.suffix_refl _

/-- Getting a program ready enters nothing. -/
theorem journal_prepare
    (watched : Watched device) (program : ProgramId) (assembly : Assembly) :
    (LinkedProgram.prepare watched program assembly).2.journal =
      watched.journal := by
  refine
    LinkedProgram.prepare_invariant
      (fun current : Watched device => current.journal = watched.journal)
      ?_ ?_ assembly rfl
  · intro current name kept
    exact kept
  · intro current location unit kept
    exact kept

theorem object_leads
    (linker : Linker) (watched : Watched device) (key : StageKey) :
    linker.Leads watched (linker.object watched key).linker
      (linker.object watched key).host := by
  unfold object
  split
  · exact
      { grows := List.suffix_refl _
        traced := fun traced =>
          ⟨fun entry member =>
              traced.compiled entry (Lru.mem_of_mem_touch member),
            Lru.fits_touch key traced.fits⟩
        capacity := Lru.capacity_touch _ _ }
  · dsimp only
    split
    · exact .of_grows (List.suffix_refl _)
    · rename_i source generated
      have grows := grows_compile watched key.kind source
      split
      · rename_i failed
        rw [failed] at grows
        exact .of_grows grows
      · rename_i shader after done
        rw [done] at grows
        have kept := grows_keep linker after key shader
        have made : after.Compiled key shader :=
          ⟨source, generated, by simp [journal_of_compile_ok done]⟩
        refine ⟨grows.trans kept, fun traced => ⟨?_, ?_⟩,
          Lru.capacity_insert _ _ _⟩
        · intro entry member
          rcases Lru.mem_of_mem_insert member with rfl | old
          · exact made.mono kept
          · exact (traced.compiled entry old).mono (grows.trans kept)
        · exact Lru.fits_insert key shader traced.fits

theorem objectsOf_leads
    (linker : Linker) (watched : Watched device) (keys : List StageKey) :
    linker.Leads watched (linker.objectsOf watched keys).linker
      (linker.objectsOf watched keys).host := by
  induction keys generalizing linker watched with
  | nil => exact .of_grows (List.suffix_refl _)
  | cons key rest ih =>
      have first := linker.object_leads watched key
      unfold objectsOf
      dsimp only
      split
      · exact first
      · exact first.trans (ih _ _)

/-- The stages that are there are linked, and nothing else is entered. -/
theorem journal_build
    {stages : Stages} {shaders : List ShaderId}
    (collected :
      (linker.objectsOf watched stages.toList).result = .ok shaders) :
    (linker.build watched stages).host.journal =
      Call.link shaders ::
        (linker.objectsOf watched stages.toList).host.journal := by
  have linking :=
    journal_link (linker.objectsOf watched stages.toList).host shaders
  unfold build
  dsimp only
  rw [collected]
  dsimp only
  split
  · rename_i failed
    rw [failed] at linking
    exact linking
  · rename_i program after done
    rw [done] at linking
    have ready := journal_prepare after program stages.assembly
    generalize LinkedProgram.prepare after program stages.assembly = prepared
      at ready ⊢
    exact ready.trans linking

theorem build_leads
    (linker : Linker) (watched : Watched device) (stages : Stages) :
    linker.Leads watched (linker.build watched stages).linker
      (linker.build watched stages).host := by
  have objects := linker.objectsOf_leads watched stages.toList
  cases collected : (linker.objectsOf watched stages.toList).result with
  | error error =>
      have same :
          (linker.build watched stages).linker =
              (linker.objectsOf watched stages.toList).linker ∧
            (linker.build watched stages).host =
              (linker.objectsOf watched stages.toList).host := by
        unfold build
        simp [collected]
      rwa [same.1, same.2]
  | ok shaders =>
      have same :
          (linker.build watched stages).linker =
            (linker.objectsOf watched stages.toList).linker := by
        unfold build
        dsimp only
        rw [collected]
        dsimp only
        split <;> rfl
      rw [same]
      refine objects.trans (.of_grows ?_)
      rw [journal_build collected]
      exact List.suffix_cons _ _

theorem grows_buildFallback
    (watched : Watched device) (assembly : Assembly) :
    watched.journal <:+ (buildFallback watched assembly).2.journal := by
  refine
    buildFallback_invariant
      (fun after : Watched device => watched.journal <:+ after.journal)
      ?_ ?_ ?_ assembly ?_ (List.suffix_refl _)
  · exact fun _ _ _ grown => grown.trans (List.suffix_cons _ _)
  · exact fun _ _ grown => grown.trans (List.suffix_cons _ _)
  · exact fun _ _ grown => grown.trans (List.suffix_cons _ _)
  · intro after program grown
    rwa [journal_prepare]

/-- Building the program of a configuration starts with its stages. -/
theorem build_leads_assemble
    (linker : Linker) (watched : Watched device) {state : PipelineState}
    {stages : Stages} (staged : state.stages = .ok stages) :
    (linker.build watched stages).linker.Leads
      (linker.build watched stages).host
      (linker.assemble watched state).linker
      (linker.assemble watched state).host := by
  unfold assemble
  rw [staged]
  dsimp only
  split
  · exact .of_grows (List.suffix_refl _)
  · split
    · exact .of_grows (grows_buildFallback _ _)
    · exact .of_grows (List.suffix_refl _)

theorem assemble_leads
    (linker : Linker) (watched : Watched device) (state : PipelineState) :
    linker.Leads watched (linker.assemble watched state).linker
      (linker.assemble watched state).host := by
  cases staged : state.stages with
  | error error =>
      unfold assemble
      rw [staged]
      exact .of_grows (List.suffix_refl _)
  | ok stages =>
      exact (linker.build_leads watched stages).trans
        (linker.build_leads_assemble watched staged)

/-! ## What was used last -/

/-- An object that was asked for is the one that was used last. -/
theorem prefix_object
    {key : StageKey} {shader : ShaderId} {recent : List (StageKey × ShaderId)}
    (first : recent <+: linker.objects.entries)
    (other : key ∉ recent.map Prod.fst)
    (room : recent.length < linker.objects.capacity.size)
    (done : (linker.object watched key).result = .ok shader) :
    (key, shader) :: recent <+:
      (linker.object watched key).linker.objects.entries := by
  revert done
  unfold object
  split
  · rename_i found
    rintro ⟨⟩
    exact Lru.prefix_touch first other found
  · dsimp only
    split
    · rintro ⟨⟩
    · split
      · rintro ⟨⟩
      · rintro ⟨⟩
        exact Lru.prefix_insert _ first other room

/--
As long as there is room, the objects of stages come to stand first, before
the ones that stood there.
-/
theorem prefix_objectsOf
    {keys : List StageKey} {shaders : List ShaderId}
    {recent : List (StageKey × ShaderId)}
    (first : recent <+: linker.objects.entries)
    (distinct : (keys ++ recent.map Prod.fst).Nodup)
    (room : keys.length + recent.length ≤ linker.objects.capacity.size)
    (done : (linker.objectsOf watched keys).result = .ok shaders) :
    (keys.zip shaders).reverse ++ recent <+:
      (linker.objectsOf watched keys).linker.objects.entries := by
  induction keys generalizing linker watched shaders recent with
  | nil => simpa [objectsOf] using first
  | cons key rest ih =>
      have capacity := (linker.object_leads watched key).capacity
      revert done
      unfold objectsOf
      dsimp only
      split
      · rintro ⟨⟩
      · rename_i shader found
        intro done
        obtain ⟨others, collected, rfl⟩ := map_eq_ok_iff.mp done
        rw [List.cons_append, List.nodup_cons, List.mem_append,
          not_or] at distinct
        rw [List.length_cons] at room
        have next := prefix_object first distinct.1.2 (by omega) found
        have apart :
            (rest ++ ((key, shader) :: recent).map Prod.fst).Nodup := by
          rw [List.map_cons, List.nodup_middle, List.nodup_cons,
            List.mem_append, not_or]
          exact distinct
        have all :=
          ih next apart (by rw [capacity, List.length_cons]; omega) collected
        simpa using all

/-- Every object was made from the source of its stage. -/
theorem compiled_objectsOf
    {keys : List StageKey} {shaders : List ShaderId}
    (traced : linker.Traced watched)
    (done : (linker.objectsOf watched keys).result = .ok shaders) :
    List.Forall₂ (linker.objectsOf watched keys).host.Compiled keys
      shaders := by
  induction keys generalizing linker watched shaders with
  | nil =>
      cases done
      exact .nil
  | cons key rest ih =>
      have next := (linker.object_leads watched key).traced traced
      revert done
      unfold objectsOf
      dsimp only
      split
      · rintro ⟨⟩
      · rename_i shader found
        intro done
        obtain ⟨others, collected, rfl⟩ := map_eq_ok_iff.mp done
        have kept :=
          prefix_object List.nil_prefix (by simp)
            linker.objects.capacity.size_pos found
        have made := next.compiled _ (kept.subset List.mem_cons_self)
        exact .cons (made.mono (objectsOf_leads _ _ rest).grows)
          (ih next collected)

end Journal

/-! ## Building one program after the other -/

/-- Builds the programs of configurations, whatever comes of each. -/
def assembleAll [Device device] (linker : Linker) (host : device) :
    List PipelineState → Linker × device
  | [] => (linker, host)
  | state :: rest =>
      let built := linker.assemble host state
      built.linker.assembleAll built.host rest

theorem assembleAll_leads [Device device]
    (linker : Linker) (watched : Watched device)
    (states : List PipelineState) :
    linker.Leads watched (linker.assembleAll watched states).1
      (linker.assembleAll watched states).2 := by
  induction states generalizing linker watched with
  | nil => exact .of_grows (List.suffix_refl _)
  | cons state rest ih =>
      exact (linker.assemble_leads watched state).trans (ih _ _)

section Accounts

variable [Device device] [RecordedDevice device] {linker : Linker}

theorem Owns.assembleAll
    {host : device} {programs : List ProgramId}
    (states : List PipelineState) (owns : linker.Owns host programs) :
    ∃ more,
      (linker.assembleAll host states).1.Owns
        (linker.assembleAll host states).2 more := by
  induction states generalizing linker host programs with
  | nil => exact ⟨programs, owns⟩
  | cons state rest ih => exact ih (owns.assemble state)

theorem Owns.nodup_issued
    {watched : Watched device} {programs : List ProgramId}
    (owns : linker.Owns watched programs) :
    (ledgerOf watched.journal).issued.Nodup := by
  have seen : watched.Seen := owns.holds.possible
  rw [← seen.ledger]
  exact owns.holds.shaders.fresh

/-- A linker has the objects that were made and not deleted. -/
theorem Owns.mem_values_iff
    {watched : Watched device} {programs : List ProgramId} {key : StageKey}
    {shader : ShaderId}
    (owns : linker.Owns watched programs)
    (compiled : watched.Compiled key shader) :
    shader ∈ linker.objects.values ↔
      Call.deleteShader shader ∉ watched.journal := by
  have seen : watched.Seen := owns.holds.possible
  have settled := owns.holds.shaders
  obtain ⟨source, -, entered⟩ := compiled
  have issued : shader ∈ (ledgerOf watched.journal).issued := by
    rw [issued_ledgerOf]
    exact List.mem_filterMap.mpr ⟨_, entered, rfl⟩
  rw [← seen.ledger] at issued
  rw [deleteShader_mem_iff, ← seen.ledger]
  exact settled.mem_held_iff issued

variable {watched : Watched device} {programs : List ProgramId}
  {keys : List StageKey} {shaders : List ShaderId}

/-- Different objects that are all there are no more than there is room for. -/
theorem Owns.length_le_of_live
    (owns : linker.Owns watched programs) (traced : linker.Traced watched)
    (kinds : (keys.map StageKey.kind).Nodup)
    (compiled : List.Forall₂ watched.Compiled keys shaders)
    (live : ∀ shader ∈ shaders, Call.deleteShader shader ∉ watched.journal) :
    keys.length ≤ linker.objects.capacity.size := by
  have among : shaders ⊆ linker.objects.values := by
    intro shader member
    obtain ⟨key, -, made⟩ := Watched.exists_compiled compiled member
    exact (owns.mem_values_iff made).mpr (live shader member)
  have nodup := Watched.nodup_of_compiled owns.nodup_issued kinds compiled
  calc
    keys.length
      = shaders.length := compiled.length_eq
    _ ≤ linker.objects.values.length := (nodup.subperm among).length_le
    _ = linker.objects.size := List.length_map _
    _ ≤ linker.objects.capacity.size := traced.fits

/-- Objects that were used last are there. -/
theorem Owns.live_of_prefix
    (owns : linker.Owns watched programs)
    (compiled : List.Forall₂ watched.Compiled keys shaders)
    (first : (keys.zip shaders).reverse <+: linker.objects.entries) :
    ∀ shader ∈ shaders, Call.deleteShader shader ∉ watched.journal := by
  intro shader member
  obtain ⟨key, -, made⟩ := Watched.exists_compiled compiled member
  rw [← owns.mem_values_iff made]
  have recent : shader ∈ (keys.zip shaders).map Prod.snd := by
    rwa [List.map_snd_zip compiled.length_eq.ge]
  obtain ⟨entry, used, rfl⟩ := List.mem_map.mp recent
  exact List.mem_map_of_mem (first.subset (List.mem_reverse.mpr used))

end Accounts

end Linker

/-- A program has a vertex stage, maybe a geometry stage, a fragment stage. -/
theorem PipelineState.kinds_of_stages
    {state : PipelineState} {stages : Stages}
    (staged : state.stages = .ok stages) :
    stages.toList.map StageKey.kind =
      StageKind.vertex ::
        (stages.geometry.map fun _ => StageKind.geometry).toList ++
          [StageKind.fragment] := by
  unfold PipelineState.stages at staged
  split at staged
  · cases staged
  · rename_i plan _
    cases staged
    cases plan.layout <;> rfl

namespace Linker

open Cache (quadrilaterals)
open RecordedDevice (accounts Possible)

variable {device : Type} [Device device] [RecordedDevice device]

/--
However many programs a new linker has built before, when it comes to link
the stages of a configuration, it has objects for the vertex stage, the
geometry stage if there is one, and the fragment stage, each made from the
source of that stage.  None of them has been deleted just if the linker has
room for as many objects as there are stages.
-/
theorem linked_live_iff_room
    {host : device}
    (possible : Possible host) (unused : accounts host = ⟨[], []⟩)
    (capacity : Capacity) (fallback : Bool) (earlier : List PipelineState)
    {state : PipelineState} {stages : Stages} {shaders : List ShaderId}
    (staged : state.stages = .ok stages) :
    let (linker, watched) :=
      (Linker.new capacity fallback).assembleAll (Watched.new host) earlier
    let collecting := linker.objectsOf watched stages.toList
    collecting.result = .ok shaders →
      Call.link shaders :: collecting.host.journal <:+
          (linker.assemble watched state).host.journal ∧
        stages.toList.map StageKey.kind =
          StageKind.vertex ::
            (stages.geometry.map fun _ => StageKind.geometry).toList ++
              [StageKind.fragment] ∧
        List.Forall₂ collecting.host.Compiled stages.toList shaders ∧
        ((∀ shader ∈ shaders,
            Call.deleteShader shader ∉ collecting.host.journal) ↔
          stages.toList.length ≤ capacity.size) := by
  have fresh : (Linker.new capacity fallback).Owns (Watched.new host) [] :=
    ⟨.unused (Watched.Seen.new possible unused) unused, List.nodup_nil⟩
  have empty : (Linker.new capacity fallback).Traced (Watched.new host) :=
    ⟨by simp [Linker.new, Lru.empty], Nat.zero_le _⟩
  have leads :=
    (Linker.new capacity fallback).assembleAll_leads (Watched.new host) earlier
  obtain ⟨programs, owned⟩ := fresh.assembleAll earlier
  generalize
    (Linker.new capacity fallback).assembleAll (Watched.new host) earlier =
      reached at leads owned ⊢
  obtain ⟨linker, watched⟩ := reached
  intro collected
  have kinds := PipelineState.kinds_of_stages staged
  have distinct : (stages.toList.map StageKey.kind).Nodup := by
    rw [kinds]
    cases stages.geometry <;> simp
  have step := linker.objectsOf_leads watched stages.toList
  have traced := step.traced (leads.traced empty)
  have size : linker.objects.capacity = capacity := leads.capacity
  have compiled := compiled_objectsOf (leads.traced empty) collected
  have owns := owned.objectsOf stages.toList
  refine ⟨?_, kinds, compiled, ?_, ?_⟩
  · have started := (linker.build_leads_assemble watched staged).grows
    rwa [journal_build collected] at started
  · intro live
    have fewer := owns.length_le_of_live traced distinct compiled live
    rwa [step.capacity, size] at fewer
  · intro room
    have first :=
      prefix_objectsOf List.nil_prefix (by simpa using distinct.of_map _)
        (by simpa [size] using room) collected
    exact owns.live_of_prefix compiled (by simpa using first)

/--
A linker with room for two objects of a program with three stages: when the
program is built again after a failure to link, an object has been deleted
by the time that it is linked.
-/
theorem linked_live_iff_room_quadrilaterals :
    ∃ stages : Stages,
      quadrilaterals.stages = .ok stages ∧
        let host : SimulatedDevice :=
          { vendor := "", switches := { failLinks := 1 } }
        let (linker, watched) :=
          (Linker.new ⟨2, by decide⟩ false).assembleAll (Watched.new host)
            [quadrilaterals]
        let collecting := linker.objectsOf watched stages.toList
        collecting.result = .ok [⟨4⟩, ⟨5⟩, ⟨6⟩] ∧
          Call.link [⟨4⟩, ⟨5⟩, ⟨6⟩] :: collecting.host.journal <:+
            (linker.assemble watched quadrilaterals).host.journal ∧
          ∃ shader ∈ [⟨4⟩, ⟨5⟩, ⟨6⟩],
            Call.deleteShader shader ∈ collecting.host.journal := by
  obtain ⟨stages, staged, three⟩ := Cache.stages_quadrilaterals
  have possible :
      Possible
        ({ vendor := "", switches := { failLinks := 1 } } : SimulatedDevice) :=
    SimulatedDevice.Coherent.new _ _
  have collected :
      let (linker, watched) :=
        (Linker.new ⟨2, by decide⟩ false).assembleAll
          (Watched.new
            ({ vendor := "", switches := { failLinks := 1 } } :
              SimulatedDevice))
          [quadrilaterals]
      (linker.objectsOf watched stages.toList).result =
        .ok [⟨4⟩, ⟨5⟩, ⟨6⟩] := by
    cases staged
    rfl
  obtain ⟨linked, -, -, live⟩ :=
    linked_live_iff_room possible rfl ⟨2, by decide⟩ false [quadrilaterals]
      staged collected
  refine ⟨stages, staged, collected, linked, ?_⟩
  rw [three] at live
  by_contra none
  push Not at none
  exact absurd (live.mp none) (by decide)

end Linker

end ShaderSynth
