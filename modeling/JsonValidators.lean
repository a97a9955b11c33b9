import JsonValidators.Entries
import JsonValidators.Binary64
import JsonValidators.Binary64.Decimal
import JsonValidators.Json
import JsonValidators.Json.Number
import JsonValidators.Json.Equality
import JsonValidators.Json.Text
import JsonValidators.Json.Reader
import JsonValidators.Kind
import JsonValidators.Path
import JsonValidators.Path.Registers
import JsonValidators.Reason
import JsonValidators.Fault
import JsonValidators.Outcome
import JsonValidators.Output
import JsonValidators.Run
import JsonValidators.Check.Scalar
import JsonValidators.Check.Sequence
import JsonValidators.Check.Record
import JsonValidators.Check.Choice
import JsonValidators.Check.Location
import JsonValidators.Validator
import JsonValidators.Validator.Interpret
import JsonValidators.Memory
import JsonValidators.Failure
import JsonValidators.Session
import JsonValidators.CharSet
import JsonValidators.Unicode.Decoding
import JsonValidators.Unicode.CategoryTable
import JsonValidators.Unicode.Category
import JsonValidators.Unicode.ScriptTable
import JsonValidators.Unicode.ScriptExtensionTable
import JsonValidators.Unicode.Script
import JsonValidators.Unicode.AgeTable
import JsonValidators.Unicode.Age
import JsonValidators.Unicode.PropertyTable
import JsonValidators.Unicode.CasingTable
import JsonValidators.Unicode.BinaryProperty
import JsonValidators.Unicode.Segmentation
import JsonValidators.Unicode.Property
import JsonValidators.Unicode.FoldingTable
import JsonValidators.Unicode.CaseFolding
import JsonValidators.Pattern.AsciiClass
import JsonValidators.Pattern.Assertion
import JsonValidators.Pattern
import JsonValidators.Pattern.Expr
import JsonValidators.Pattern.Escape
import JsonValidators.Pattern.Bracket
import JsonValidators.Pattern.Reader
import JsonValidators.Pattern.Flags
import JsonValidators.Pattern.Meaning
import JsonValidators.Pattern.Matching
import JsonValidators.Pattern.Automaton.Bytes
import JsonValidators.Pattern.Automaton.Draft
import JsonValidators.Pattern.Automaton.Chars
import JsonValidators.Pattern.Automaton.Words
import JsonValidators.Pattern.Automaton
import JsonValidators.Pattern.Admission
import JsonValidators.Description
import JsonValidators.Description.Predicate
import JsonValidators.Description.Relation
import JsonValidators.Description.Mapping
import JsonValidators.Proofs.Declared
import JsonValidators.Proofs.DistinctKeys
import JsonValidators.Proofs.Parts
import JsonValidators.Proofs.Lockstep
import JsonValidators.Proofs.LockstepMeaning
import JsonValidators.Proofs.Stages
import JsonValidators.Proofs.Meaning
import JsonValidators.Proofs.MemoCells
import JsonValidators.Proofs.Replacement
import JsonValidators.Proofs.Scenario
import JsonValidators.Proofs.Forgetting
import JsonValidators.Proofs.Findings
import JsonValidators.Proofs.FirstFault
import JsonValidators.Proofs.Guarded
import JsonValidators.Proofs.Runs
import JsonValidators.Proofs.Endings
import JsonValidators.Proofs.Outputs
import JsonValidators.Proofs.Unfolding
import JsonValidators.Proofs.Origins
import JsonValidators.Proofs.Rereading
import JsonValidators.Proofs.Idempotence
import JsonValidators.Proofs.Locations
import JsonValidators.Proofs.Messages
import JsonValidators.Proofs.Equality
import JsonValidators.Proofs.Projection
import JsonValidators.Proofs.Selection
import JsonValidators.Proofs.Reordering
import JsonValidators.Proofs.KeyOrder
import JsonValidators.Proofs.Reading
import JsonValidators.Proofs.Quoting
import JsonValidators.Proofs.Unmatched
import JsonValidators.Proofs.MemorySteps
import JsonValidators.Proofs.Replays
import JsonValidators.Proofs.FixedPoints
import JsonValidators.Proofs.Denotation
import JsonValidators.Proofs.Constants
import JsonValidators.Proofs.Declarations
import JsonValidators.Proofs.Decisions
import JsonValidators.Proofs.Splitting
import JsonValidators.Proofs.Walks
import JsonValidators.Proofs.Grouping
import JsonValidators.Proofs.PathComposition
import JsonValidators.Proofs.KeyPaths
import JsonValidators.Proofs.Traversals
import JsonValidators.Proofs.Alternatives
import JsonValidators.Proofs.Equivalence
import JsonValidators.Proofs.Erasure
import JsonValidators.Proofs.Accumulation
import JsonValidators.Proofs.EntryPoints
import JsonValidators.Proofs.PathText
import JsonValidators.Proofs.PathBuilding
