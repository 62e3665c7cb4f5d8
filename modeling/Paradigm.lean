import Paradigm.Data.FileTree
import Paradigm.Main
import Paradigm.Proofs.Generation.Product
import Paradigm.Proofs.Generation.Refusals
import Paradigm.Proofs.Generation.Termination
import Paradigm.Proofs.Generation.Triple
import Paradigm.Proofs.Generation.Ledger
import Paradigm.Proofs.Generation.Engine
import Paradigm.Proofs.Generation.Atomicity
import Paradigm.Proofs.Generation.Outline
import Paradigm.Proofs.Generation.Statistics
import Paradigm.Proofs.Regex.Anchored
import Paradigm.Proofs.Regex.Groups
import Paradigm.Proofs.Regex.Abreast
import Paradigm.Proofs.Regex.Atoms
import Paradigm.Proofs.Regex.Enclosed
import Paradigm.Proofs.Substitution
import Paradigm.Proofs.Inheritance
import Paradigm.Proofs.Template.Tokens
import Paradigm.Proofs.Template.Parsing
import Paradigm.Proofs.Table.Merge
import Paradigm.Proofs.Table.Vocabulary
import Paradigm.Proofs.Generation.Alternatives
import Paradigm.Proofs.Generation.Branches
import Paradigm.Proofs.Table.NormalForm
import Paradigm.Proofs.Table.Lines
import Paradigm.Proofs.Table.OwnRules
import Paradigm.Proofs.Table.Union
import Paradigm.Proofs.Template.Writing
import Paradigm.Proofs.Compilation
import Paradigm.Proofs.Generation.Seeding
import Paradigm.Proofs.Generation.Locality
import Paradigm.Proofs.ChainLimit
import Paradigm.Proofs.Table.Isolation
import Paradigm.Proofs.Table.Rows
import Paradigm.Proofs.Colour
import Paradigm.Proofs.Regex.Greedy
import Paradigm.Proofs.Table.GlossPattern
import Paradigm.Proofs.Table.Entries
import Paradigm.Proofs.Values
import Paradigm.Proofs.Yaml.Scanning
import Paradigm.Proofs.Yaml.Blank
import Paradigm.Proofs.Loading
import Paradigm.Proofs.Generation.Failures
