import Mathlib.Data.List.MinMax
import MiniRay.Protocol
import MiniRay.Store.ObjectStore

/-! What a node answers to one local demand for an object: use the local replica, start a transfer,
join the one in flight, wait for a location, or report the failure. -/

namespace MiniRay

open Checked

inductive PullAction
  | localReady
  | startPull
  | joinPull
  | waitForLocation
  | failed
  deriving DecidableEq

inductive PullState
  | waitingForLocation
  | pulling
  | ready
  | failed
  deriving DecidableEq

def PullState.value : PullState → String
  | .waitingForLocation => "WAITING_FOR_LOCATION"
  | .pulling => "PULLING"
  | .ready => "READY"
  | .failed => "FAILED"

/-- `_stable_location_key`: the type name and the rendered value of a location. -/
class StableLocationKey (ℓ : Type) where
  stableLocationKey : ℓ → String × String

export StableLocationKey (stableLocationKey)

instance : StableLocationKey NodeID := ⟨fun node => ("NodeID", node.value.hex)⟩

/-- A side-effect-free answer to one local demand. -/
structure PullDecision (ℓ ω : Type) where
  objectId : ObjectID
  action : PullAction
  sourceLocation : Option ℓ := none
  transferId : Option String := none
  waiterToken : Option ω := none
  reason : String := ""

section Policy

variable {ℓ ω : Type} [DecidableEq ℓ] [StableLocationKey ℓ]

/-- Choose a deterministic remote source. -/
def chooseObjectLocation (locations : List ℓ) (requesterLocation : Option ℓ)
    (excludedLocations : List ℓ) : Option ℓ :=
  let excluded := excludedLocations ++ requesterLocation.toList
  (locations.filter (· ∉ excluded)).argmin fun location => toLex (stableLocationKey location)

/-- Compute whether to use, start, join, or defer a pull. -/
def decidePull (objectId : ObjectID) (localReady : Bool) (locations : List ℓ)
    (requesterLocation : Option ℓ) (activeTransferId : Option String)
    (activeSourceLocation : Option ℓ) (failed : Bool) (excludedLocations : List ℓ) :
    PullDecision ℓ ω :=
  if localReady = true then
    { objectId := objectId, action := .localReady, reason := "sealed locally" }
  else if failed = true then
    { objectId := objectId, action := .failed, reason := "prior pull failed" }
  else if activeTransferId.isSome = true then
    { objectId := objectId, action := .joinPull, sourceLocation := activeSourceLocation
      transferId := activeTransferId, reason := "joined existing object transfer" }
  else match chooseObjectLocation locations requesterLocation excludedLocations with
    | none => { objectId := objectId, action := .waitForLocation
                reason := "no usable sealed source location" }
    | some source => { objectId := objectId, action := .startPull, sourceLocation := some source
                       reason := "remote source selected" }

theorem decidePull_start {o : ObjectID} {localReady failed : Bool} {locations excluded : List ℓ}
    {requester activeSource : Option ℓ} {active : Option String}
    (h : (decidePull (ω := ω) o localReady locations requester active activeSource failed
      excluded).action = .startPull) : failed = false ∧ active = none := by
  unfold decidePull at h
  split at h
  · cases h
  split at h
  · cases h
  split at h
  · cases h
  · next _ hfailed hactive => exact ⟨by simpa using hfailed, by simpa using hactive⟩

end Policy

/-! ## Checks -/

inductive ObjectManagerError
  | unknownPull (message : String)
  | pullNotReady (message : String)
  | pullState (message : String)
  | conflictingPull (message : String)
  | incompletePull (message : String)
  | pullChecksum (message : String)
  | stalePull (message : String)
  | valueError (message : String)
  | store (error : ObjectStoreError)
  | publish (message : String)
  | assertion

/-- `str` of a raised error. -/
def ObjectManagerError.message : ObjectManagerError → String
  | .unknownPull m | .pullNotReady m | .pullState m | .conflictingPull m | .incompletePull m
  | .pullChecksum m | .stalePull m | .valueError m | .publish m => m
  | .store error => error.message
  | .assertion => ""

/-- The blanks `bytes.fromhex` skips between two bytes. -/
def isAsciiBlank (c : Char) : Bool := c = ' ' || ('\t' ≤ c && c ≤ '\r')

/-- Whether `bytes.fromhex` accepts the text. -/
def parsesFromhex : List Char → Bool
  | [] => true
  | [c] => isAsciiBlank c
  | c :: d :: rest =>
    if isAsciiBlank c = true then parsesFromhex (d :: rest)
    else isHexDigit c && isHexDigit d && parsesFromhex rest

def validateSize (sizeBytes : Int) : Except ObjectManagerError Unit :=
  raiseIf (sizeBytes < 0) (.valueError "size_bytes must be a non-negative integer")

def validateChecksum (checksum : String) : Except ObjectManagerError Unit :=
  raiseIf (checksum.toList.length ≠ 64 ∨ parsesFromhex checksum.toList = false)
    (.valueError "checksum must be a SHA-256 hexadecimal digest")

def normalizeChecksum (checksum : String) : Except ObjectManagerError String := do
  validateChecksum checksum
  return lowerHex checksum

theorem toLower_toLower (c : Char) : c.toLower.toLower = c.toLower := by
  by_cases h : c.val ≥ 'A'.val ∧ c.val ≤ 'Z'.val
  · have hval : c.toLower.val = c.val + 32 := congrArg Char.val (dif_pos h)
    refine dif_neg ?_
    simp only [ge_iff_le, UInt32.le_iff_toNat_le] at h
    rw [hval]
    simp only [ge_iff_le, UInt32.le_iff_toNat_le, UInt32.toNat_add]
    have : 'A'.val.toNat = 65 ∧ 'Z'.val.toNat = 90 ∧ (32 : UInt32).toNat = 32 := by decide
    omega
  · have hsame : c.toLower = c := dif_neg h
    rw [hsame, hsame]

theorem lowerHex_lowerHex (text : String) : lowerHex (lowerHex text) = lowerHex text := by
  simp only [lowerHex, String.toList_ofList, List.map_map]
  congr 1
  exact List.map_congr_left fun c _ => toLower_toLower c

end MiniRay
