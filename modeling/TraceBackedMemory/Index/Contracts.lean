import TraceBackedMemory.Foundation.Json
import TraceBackedMemory.Foundation.Raising

namespace TraceBackedMemory

open Text Raising

namespace Index

inductive IndexError where
  | contract (code message : Str)
  | query (code message : Str)
  deriving DecidableEq

def invalid (message : Str) : IndexError := .contract (lit "TBM_MANAGED_INDEX_INVALID") message

def metadataMaxChars : Nat := 512

structure ManagedGitEdge where
  childCommitSha : Str
  parentCommitSha : Str
  deriving DecidableEq

def maxTextBytes : Nat := 64 * 1024

def maxTokensPerCandidate : Nat := 4096

def boundedText (value : Str) (name : String) (maximumBytes : Nat) : Except IndexError Unit := do
  let encoded ← demand (encodedBytes value) (invalid (lit name ++ lit " must be valid UTF-8"))
  raiseIf (encoded = 0 ∨ maximumBytes < encoded) (invalid (lit name ++ lit " must be bounded non-empty text"))

-- the index text of a candidate, with whether its content is confidential or restricted
structure ManagedIndexSource where
  indexText : Option Str
  sensitive : Bool
  deriving DecidableEq

def ManagedIndexSource.check (s : ManagedIndexSource) : Except IndexError Unit := do
  s.indexText.elim (.ok ()) (fun text => boundedText text "index_text" maxTextBytes)
  raiseIf (s.sensitive = true ∧ s.indexText.isSome = true)
    (invalid (lit "sensitive candidates cannot place content-derived data in managed indexes"))

end Index

end TraceBackedMemory
