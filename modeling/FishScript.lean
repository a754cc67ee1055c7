import FishScript.Main
import FishScript.Script.SymbolStore
import FishScript.Server.Assembly
import FishScript.Proofs.Block.Document
import FishScript.Proofs.Script.LineEndings
import FishScript.Proofs.Declaration.Recognized
import FishScript.Proofs.Diagnostic.Findings
import FishScript.Proofs.Session.Interleaving
import FishScript.Proofs.Session.Indexing
import FishScript.Proofs.Session.Publishing
import FishScript.Proofs.Session.Together
import FishScript.Proofs.Declaration.Counted
import FishScript.Proofs.Diagnostic.Lines
import FishScript.Proofs.CommandLine.Grammar
import FishScript.Proofs.Block.Positions
import FishScript.Proofs.Declaration.Seams
import FishScript.Proofs.Hook.Isolation
import FishScript.Proofs.Registry.Retries
import FishScript.Proofs.Registry.History
import FishScript.Proofs.Registry.Completion
import FishScript.Proofs.Completion.Snippet
import FishScript.Proofs.Session.Insertion
import FishScript.Proofs.CommandLine.Spellings
import FishScript.Proofs.Text.Lines
import FishScript.Proofs.Text.Units
import FishScript.Proofs.CommandLine.Leftovers
import FishScript.Proofs.CommandLine.Calls
