import TraceBackedMemory.Semantic.Attempts
import TraceBackedMemory.Ledger.Interleaving

namespace TraceBackedMemory

open Text Raising

-- SHA-256 of raw bytes, in lowercase hexadecimal.
structure ContentHash where
  hexdigest : List UInt8 → Str
  length_hexdigest : ∀ content, (hexdigest content).length = 64
  hex_hexdigest : ∀ content, (hexdigest content).all isLowerHex = true

def ContentHash.digest (hash : ContentHash) (content : List UInt8) : Str :=
  lit "sha256:" ++ hash.hexdigest content

namespace Replay

section Checks

def invalidReplay (message : Str) : GateError := ⟨.contract, lit "TBM_REPLAY_INVALID", message⟩

def artifactMaxBytes : Nat := 64 * 1024 * 1024

def required (limit : Nat) (value name : Str) : Except GateError Unit := do
  raiseIf (isBlank value = true ∨ limit < value.length)
    (invalidReplay (name ++ lit " must be a nonblank string of at most " ++ decimal limit ++
      lit " characters"))
  raiseIf (encodedBytes value = none) (invalidReplay (name ++ lit " must contain valid Unicode"))

def requiredIdentifier : Str → Str → Except GateError Unit := required 128

def requiredMetadata : Str → Str → Except GateError Unit := required 512

def replayDigest (value name : Str) : Except GateError Unit :=
  raiseIf (validDigest value = false)
    (invalidReplay (name ++ lit " must be an algorithm-tagged SHA-256 digest"))

end Checks

section Artifacts

def artifactIdFromSha256 (contentSha256 : Str) : Str :=
  lit "artifact_sha256_" ++ contentSha256.drop 7

structure ArtifactFields where
  contentSha256 : Str
  sizeBytes : Nat
  mediaType : Str
  classification : EventClassification
  createdAt : CanonicalTime
  encryptionKeyId : Option Str := none
  redactionPolicyId : Option Str := none
  deriving DecidableEq

-- artifact_id is the one its digest gives; any other value is refused.
def ArtifactFields.artifactId (a : ArtifactFields) : Str := artifactIdFromSha256 a.contentSha256

def ArtifactFields.check (a : ArtifactFields) : Except GateError Unit := do
  replayDigest a.contentSha256 (lit "content_sha256")
  raiseIf (artifactMaxBytes < a.sizeBytes)
    (invalidReplay (lit "size_bytes must be an integer from 0 to " ++ decimal artifactMaxBytes))
  requiredMetadata a.mediaType (lit "media_type")
  a.encryptionKeyId.elim (.ok ()) (fun v => requiredIdentifier v (lit "encryption_key_id"))
  a.redactionPolicyId.elim (.ok ()) (fun v => requiredIdentifier v (lit "redaction_policy_id"))
  raiseIf ((a.classification = .confidential ∨ a.classification = .restricted) ∧
      a.encryptionKeyId = none)
    (invalidReplay (lit "confidential and restricted artifacts require encryption_key_id"))

structure ContentAddressedArtifact extends ArtifactFields where
  checked : toArtifactFields.check = .ok ()
  deriving DecidableEq

def ArtifactFields.accept (a : ArtifactFields) : Except GateError ContentAddressedArtifact :=
  match h : a.check with
  | .ok _ => .ok ⟨a, h⟩
  | .error e => .error e

def createContentAddressedArtifact (hash : ContentHash) (content : List UInt8) (mediaType : Str)
    (classification : EventClassification) (createdAt : CanonicalTime)
    (redactionPolicyId : Option Str) : Except GateError ContentAddressedArtifact := do
  raiseIf (artifactMaxBytes < content.length)
    (invalidReplay (lit "content exceeds maximum size of " ++ decimal artifactMaxBytes ++ lit " bytes"))
  ArtifactFields.accept {
    contentSha256 := hash.digest content
    sizeBytes := content.length
    mediaType := mediaType
    classification := classification
    createdAt := createdAt
    redactionPolicyId := redactionPolicyId }

def verifyArtifactContent (hash : ContentHash) (a : ContentAddressedArtifact) (content : List UInt8) :
    Bool :=
  decide (content.length = a.sizeBytes ∧ hash.digest content = a.contentSha256)

end Artifacts

section Accepted

variable {hash : ContentHash}

theorem accept_eq_ok {fields : ArtifactFields} {a : ContentAddressedArtifact} :
    fields.accept = .ok a ↔ a.toArtifactFields = fields := by
  unfold ArtifactFields.accept
  split
  · rename_i h
    constructor
    · intro ha
      cases ha
      rfl
    · rintro rfl
      rfl
  · rename_i error h
    constructor
    · intro ha
      cases ha
    · rintro rfl
      rw [a.checked] at h
      cases h

theorem createContentAddressedArtifact_eq_ok {content : List UInt8} {mediaType : Str}
    {classification : EventClassification} {createdAt : CanonicalTime} {redactionPolicyId : Option Str}
    {a : ContentAddressedArtifact}
    (h : createContentAddressedArtifact hash content mediaType classification createdAt
      redactionPolicyId = .ok a) :
    a.toArtifactFields = ⟨hash.digest content, content.length, mediaType, classification, createdAt,
      none, redactionPolicyId⟩ := by
  simp only [createContentAddressedArtifact, bind_eq_ok, exists_unit, accept_eq_ok] at h
  exact h.2

end Accepted

section Sample

def sampleHash : ContentHash where
  hexdigest content :=
    let sum := content.foldl (fun a c => a * 257 + c.toNat + 1) 0
    (List.range 64).map (fun i => hexDigit (sum / 16 ^ i % 16))
  length_hexdigest content := by simp
  hex_hexdigest content := by
    simp only [List.all_map, List.all_eq_true]
    intro i _
    exact isLowerHex_hexDigit (Nat.mod_lt _ (by decide))

theorem canonical_sampleTime : canonicalRfc3339 (lit "2024-05-01T12:00:00Z") =
    .ok (lit "2024-05-01T12:00:00Z") := by
  decide +kernel

def sampleTime : CanonicalTime :=
  ⟨lit "2024-05-01T12:00:00Z", GateEvents.canonicalText_of_ok canonical_sampleTime⟩

end Sample

end Replay

end TraceBackedMemory
