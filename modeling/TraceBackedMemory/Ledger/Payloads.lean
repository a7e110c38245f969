import TraceBackedMemory.Ledger.Events
import TraceBackedMemory.Foundation.JsonText

namespace TraceBackedMemory

open Text Raising Json

section Copies

structure CopyPolicy (ε : Type) where
  maxDepth : Nat
  maxNodes : Nat
  checksText : Bool
  depthExceeded : ε
  nodesExceeded : ε
  badKey : ε
  badKeyText : ε
  badText : ε
  badNumber : ε

def maxKeyLength : Nat := 256

def utf8 (s : Str) : Bool := (encodedBytes s).isSome

namespace CopyPolicy

variable {ε : Type} (p : CopyPolicy ε)

def enter (depth nodes : Nat) : Except ε Nat := do
  raiseIf (p.maxDepth < depth) p.depthExceeded
  raiseIf (p.maxNodes < nodes + 1) p.nodesExceeded
  return nodes + 1

-- a container that cannot fit is refused before its first child
def reserve (children nodes : Nat) : Except ε Unit :=
  raiseIf (p.checksText = true ∧ p.maxNodes - nodes < children) p.nodesExceeded

def checkText (s : Str) (e : ε) : Except ε Unit :=
  raiseIf (p.checksText = true ∧ utf8 s = false) e

def checkKey (key : Str) : Except ε Unit := do
  raiseIf (key = [] ∨ maxKeyLength < key.length) p.badKey
  p.checkText key p.badKeyText

mutual

-- The copy equals the value, so a copy is its check with the number of nodes seen so far.
def copy (depth nodes : Nat) : Json → Except ε Nat
  | .null => p.enter depth nodes
  | .bool _ => p.enter depth nodes
  | .num n => do
    let nodes ← p.enter depth nodes
    raiseIf (n.isFinite = false) p.badNumber
    return nodes
  | .str s => do
    let nodes ← p.enter depth nodes
    p.checkText s p.badText
    return nodes
  | .arr items => do
    let nodes ← p.enter depth nodes
    p.reserve items.length nodes
    copyItems depth nodes items
  | .obj fields => do
    let nodes ← p.enter depth nodes
    p.reserve fields.length nodes
    copyFields depth nodes fields

def copyItems (depth nodes : Nat) : List Json → Except ε Nat
  | [] => .ok nodes
  | v :: items => do
    let nodes ← copy (depth + 1) nodes v
    copyItems depth nodes items

def copyFields (depth nodes : Nat) : List (Str × Json) → Except ε Nat
  | [] => .ok nodes
  | (key, v) :: fields => do
    p.checkKey key
    let nodes ← copy (depth + 1) nodes v
    copyFields depth nodes fields

end

end CopyPolicy

end Copies

section Secrets

def forbiddenSecretKeys : List Str :=
  [lit "accesstoken", lit "apikey", lit "authorization", lit "authorizationheader",
    lit "bearertoken", lit "clientsecret", lit "credential", lit "credentials", lit "passphrase",
    lit "password", lit "privatekey", lit "refreshtoken", lit "secret", lit "token", lit "xapikey"]

-- the code points outside ASCII whose case folding holds an ASCII letter
def foldedLetters : List (Nat × Str) :=
  [(0xdf, lit "ss"), (0x130, lit "i"), (0x149, lit "n"), (0x17f, lit "s"), (0x1f0, lit "j"),
    (0x1e96, lit "h"), (0x1e97, lit "t"), (0x1e98, lit "w"), (0x1e99, lit "y"), (0x1e9a, lit "a"),
    (0x1e9e, lit "ss"), (0x212a, lit "k"), (0xfb00, lit "ff"), (0xfb01, lit "fi"),
    (0xfb02, lit "fl"), (0xfb03, lit "ffi"), (0xfb04, lit "ffl"), (0xfb05, lit "st"),
    (0xfb06, lit "st")]

def normalizedPoint (c : CodePoint) : Str :=
  if (97 ≤ c.val ∧ c.val ≤ 122) ∨ (48 ≤ c.val ∧ c.val ≤ 57) then [c]
  else if 65 ≤ c.val ∧ c.val ≤ 90 then [c + 32]
  else ((foldedLetters.find? (fun f => decide (f.1 = c.val))).map Prod.snd).getD []

def normalizedKey (key : Str) : Str := key.flatMap normalizedPoint

mutual

def hasSecretKey : Json → Bool
  | .arr items => hasSecretItem items
  | .obj fields => hasSecretField fields
  | _ => false

def hasSecretItem : List Json → Bool
  | [] => false
  | v :: items => hasSecretKey v || hasSecretItem items

def hasSecretField : List (Str × Json) → Bool
  | [] => false
  | (key, v) :: fields =>
    decide (normalizedKey key ∈ forbiddenSecretKeys) || hasSecretKey v || hasSecretField fields

end

end Secrets

section Bytes

def maxIntDigits : Nat := 4300

def textualNumber : Number → Bool
  | .int n => decide ((decimal n.natAbs).length ≤ maxIntDigits)
  | .float x => x.isFinite

variable (floatText : Double → Str)

def canonicalBytes (v : Json) : Option Nat :=
  if shaped (fun _ _ => true) textualNumber (fun _ => true) v = true then
    encodedBytes (canonicalText floatText v)
  else none

def nonCanonicalEvent : LedgerError :=
  ⟨.eventContract, lit "TBM_EVENT_NON_CANONICAL_JSON",
    lit "value cannot be encoded as finite canonical JSON"⟩

def eventPayloadMaxBytes : Nat := 512 * 1024

def eventCopy : CopyPolicy LedgerError where
  maxDepth := 24
  maxNodes := 8192
  checksText := true
  depthExceeded := invalidEvent (lit "payload exceeds maximum depth")
  nodesExceeded := invalidEvent (lit "payload exceeds maximum node count")
  badKey := invalidEvent (lit "payload keys must be bounded non-empty strings")
  badKeyText := invalidEvent (lit "payload key must be valid UTF-8")
  badText := invalidEvent (lit "payload string must be valid UTF-8")
  badNumber := invalidEvent (lit "payload contains a non-finite number")

def validateEventPayload (payload : Json) : Except LedgerError Unit := do
  match payload with
  | .obj _ => .ok ()
  | _ => .error (invalidEvent (lit "payload must be a JSON object"))
  let _ ← eventCopy.copy 0 0 payload
  let size ← demand (canonicalBytes floatText payload) nonCanonicalEvent
  raiseIf (eventPayloadMaxBytes < size) (invalidEvent (lit "payload exceeds canonical byte limit"))
  raiseIf (hasSecretKey payload = true)
    (invalidEvent (lit "payload contains forbidden secret metadata key"))

end Bytes

end TraceBackedMemory
