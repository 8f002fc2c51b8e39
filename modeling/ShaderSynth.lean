import ShaderSynth.Cache.Effect
import ShaderSynth.Cache.Lookup
import ShaderSynth.Cache.Settings
import ShaderSynth.Coded
import ShaderSynth.Combiner.Final
import ShaderSynth.Combiner.Operand
import ShaderSynth.Combiner.Register
import ShaderSynth.Combiner.Settings
import ShaderSynth.Combiner.Stage
import ShaderSynth.Device.Interface
import ShaderSynth.Device.Simulated
import ShaderSynth.Digest
import ShaderSynth.FileTree
import ShaderSynth.Format
import ShaderSynth.Glsl.Expr
import ShaderSynth.Glsl.Source
import ShaderSynth.Glsl.Statement
import ShaderSynth.Hex
import ShaderSynth.Image
import ShaderSynth.Linker
import ShaderSynth.Lru
import ShaderSynth.Microcode.Instruction
import ShaderSynth.Microcode.Opcode
import ShaderSynth.Microcode.Operand
import ShaderSynth.Microcode.Prelude
import ShaderSynth.Microcode.Program
import ShaderSynth.Microcode.Statement
import ShaderSynth.Microcode.Token
import ShaderSynth.Program.Linked
import ShaderSynth.Program.Stages
import ShaderSynth.Proofs.Cache.Accounts
import ShaderSynth.Proofs.Cache.Background
import ShaderSynth.Proofs.Cache.Backing
import ShaderSynth.Proofs.Cache.Conservation
import ShaderSynth.Proofs.Cache.Counting
import ShaderSynth.Proofs.Cache.Discipline
import ShaderSynth.Proofs.Cache.Faithful
import ShaderSynth.Proofs.Cache.Kept
import ShaderSynth.Proofs.Cache.Listing
import ShaderSynth.Proofs.Cache.Orderly
import ShaderSynth.Proofs.Cache.Persistence
import ShaderSynth.Proofs.Cache.Recency
import ShaderSynth.Proofs.Cache.Refusals
import ShaderSynth.Proofs.Cache.Requests
import ShaderSynth.Proofs.Cache.Saving
import ShaderSynth.Proofs.Cache.Transparency
import ShaderSynth.Proofs.Combiner.Commit
import ShaderSynth.Proofs.Combiner.Execution
import ShaderSynth.Proofs.Combiner.Final
import ShaderSynth.Proofs.Combiner.Machine
import ShaderSynth.Proofs.Combiner.References
import ShaderSynth.Proofs.Device.Dedicated
import ShaderSynth.Proofs.Device.Journal
import ShaderSynth.Proofs.Device.Laws
import ShaderSynth.Proofs.Device.Ledger
import ShaderSynth.Proofs.Device.Simulated
import ShaderSynth.Proofs.Fallible
import ShaderSynth.Proofs.FileTree
import ShaderSynth.Proofs.FileTree.Actions
import ShaderSynth.Proofs.FileTree.Locality
import ShaderSynth.Proofs.Format
import ShaderSynth.Proofs.Glsl.Flow
import ShaderSynth.Proofs.Glsl.Locals
import ShaderSynth.Proofs.Glsl.Names
import ShaderSynth.Proofs.Glsl.Scope
import ShaderSynth.Proofs.Hex
import ShaderSynth.Proofs.Image
import ShaderSynth.Proofs.Image.Truncation
import ShaderSynth.Proofs.Linker
import ShaderSynth.Proofs.Linker.Liveness
import ShaderSynth.Proofs.Lru
import ShaderSynth.Proofs.Microcode.Acceptance
import ShaderSynth.Proofs.Microcode.Commit
import ShaderSynth.Proofs.Microcode.Decoding
import ShaderSynth.Proofs.Microcode.Emission
import ShaderSynth.Proofs.Microcode.Execution
import ShaderSynth.Proofs.Microcode.Fields
import ShaderSynth.Proofs.Microcode.Machine
import ShaderSynth.Proofs.Microcode.Position
import ShaderSynth.Proofs.Microcode.Range
import ShaderSynth.Proofs.Microcode.Suffix
import ShaderSynth.Proofs.Program.Constants
import ShaderSynth.Proofs.Stage.Chains
import ShaderSynth.Proofs.Stage.Interface
import ShaderSynth.Proofs.Stage.Lighting
import ShaderSynth.Proofs.Stage.Primitives
import ShaderSynth.Proofs.Stage.Registers
import ShaderSynth.Proofs.Stage.Textures
import ShaderSynth.Proofs.Stage.Topology
import ShaderSynth.Proofs.Stage.Uniforms
import ShaderSynth.Proofs.Store.Entry
import ShaderSynth.Proofs.Store.Files
import ShaderSynth.Proofs.Store.Framing
import ShaderSynth.Proofs.Store.Ladder
import ShaderSynth.Proofs.Store.Locality
import ShaderSynth.Proofs.Store.Plans
import ShaderSynth.Proofs.Store.Preload
import ShaderSynth.Proofs.Store.Tasks
import ShaderSynth.Proofs.Store.Whole
import ShaderSynth.Proofs.Texture.Chains
import ShaderSynth.Proofs.Texture.Parts
import ShaderSynth.Proofs.Texture.Units
import ShaderSynth.Scalar
import ShaderSynth.Session
import ShaderSynth.Single
import ShaderSynth.Stage.Fragment
import ShaderSynth.Stage.Geometry
import ShaderSynth.Stage.Vertex
import ShaderSynth.State.Pipeline
import ShaderSynth.State.Pixel
import ShaderSynth.State.Primitive
import ShaderSynth.State.Vertex
import ShaderSynth.Store.Entry
import ShaderSynth.Store.Files
import ShaderSynth.Text.Quoted
import ShaderSynth.Text.Shown
import ShaderSynth.Text.Utf8
import ShaderSynth.Texture.Fetch
import ShaderSynth.Texture.Settings
import ShaderSynth.Transform.Body
import ShaderSynth.Transform.Layout
import ShaderSynth.Transform.Lighting
import ShaderSynth.Uniform
import ShaderSynth.Varying
import ShaderSynth.Warning
