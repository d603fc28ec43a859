import WaveFlow.Shared.Effects
import WaveFlow.Shared.Requests

/-!
# Signature check and merge events

Third-party code is a parameter, `Crates`: the HMAC, the JSON parser, the texts of its errors, and
`Uuid::new_v4`. The rest of `webhook.rs`, and what the handler reads of a request, is defined here.
-/

namespace WaveFlow

open Postgres

structure Crates where
  uuids : UuidSource
  /-- HMAC-SHA256, defined for keys of every length. -/
  hmacSha256 : (key message : List UInt8) → Vector UInt8 32
  /-- `serde_json::from_slice`, and the text of its error. -/
  fromSlice : List UInt8 → Except String Json
  /-- The text of the error of `serde_json::from_value` on a payload of another shape. -/
  fromValueError : Json → String

/-! ### Requests -/

namespace Request

variable (req : Request)

def signature : String := (req.header "x-hub-signature-256").getD ""

def eventType : String := (req.header "x-github-event").getD "unknown"

def deliveryId : Option String := req.header "x-github-delivery"

end Request

/-! ### Signatures -/

/-- The value of a hex digit. -/
def hexValue (c : Char) : Option UInt8 :=
  if '0' ≤ c ∧ c ≤ '9' then some (c.toNat - '0'.toNat).toUInt8
  else if 'a' ≤ c ∧ c ≤ 'f' then some (c.toNat - 'a'.toNat + 10).toUInt8
  else if 'A' ≤ c ∧ c ≤ 'F' then some (c.toNat - 'A'.toNat + 10).toUInt8
  else none

/-- `hex::decode` -/
def hexDecode : List Char → Option (List UInt8)
  | [] => some []
  | [_] => none
  | a :: b :: rest => do
      let hi ← hexValue a
      let lo ← hexValue b
      return (hi * 16 + lo) :: (← hexDecode rest)

variable (C : Crates)

def verifyGithubSignature (secret : String) (body : List UInt8) (signatureHeader : String) :
    Except WaveFlowError Unit :=
  if !signatureHeader.startsWith "sha256=" then
    .error (.webhook "missing sha256 prefix")
  else
    match hexDecode (signatureHeader.toList.drop 7) with
    | none => .error (.webhook "invalid signature hex")
    | some provided =>
      if provided = (C.hmacSha256 secret.toUTF8.data.toList body).toList then .ok ()
      else .error (.unauthorized "invalid webhook signature")

/-- The request carries the signature of its body. -/
def Request.Signed (config : AppConfig) (req : Request) : Prop :=
  verifyGithubSignature C config.githubWebhookSecret req.body req.signature = .ok ()

instance (config : AppConfig) (req : Request) : Decidable (req.Signed C config) := by
  unfold Request.Signed
  cases verifyGithubSignature C config.githubWebhookSecret req.body req.signature with
  | error e => exact isFalse (by simp)
  | ok u => exact isTrue rfl

/-! ### Merge events -/

structure MergeAttestation where
  githubRepo : String
  githubUsername : String
  prNumber : UInt64
  points : UInt32
  deriving DecidableEq

/-- The attestation of a pull request that was merged into the default branch. -/
def parseMergeEvent (payload : GitHubPullRequestEvent) : Except WaveFlowError MergeAttestation :=
  if payload.action ≠ "closed" then .error (.validation "ignored non-closed action")
  else if !payload.pullRequest.merged then .error (.validation "PR not merged")
  else if payload.pullRequest.base.refName ≠ payload.repository.defaultBranch then
    .error (.validation "PR not merged to default branch")
  else .ok
    { githubRepo := payload.repository.fullName
      githubUsername := payload.pullRequest.user.login
      prNumber := payload.number
      points := 1 }

theorem points_of_parseMergeEvent {payload : GitHubPullRequestEvent} {merge : MergeAttestation}
    (h : parseMergeEvent payload = .ok merge) : merge.points = 1 := by
  unfold parseMergeEvent at h
  split_ifs at h
  cases h
  rfl

/-! ### Bytes as text -/

/-- A continuation byte. -/
def isContinuation (b : UInt8) : Bool := 0x80 ≤ b && b ≤ 0xBF

/-- The code point of the bytes of a sequence, without their tags. -/
def codePoint (bytes : List UInt8) : Char :=
  Char.ofNat (bytes.foldl (fun n b => n * 64 + b.toNat) 0)

/-- Whether `b` can follow the first byte `a` of a sequence of three or four. -/
def secondByte (a b : UInt8) : Bool :=
  if a = 0xE0 then 0xA0 ≤ b && b ≤ 0xBF
  else if a = 0xED then 0x80 ≤ b && b ≤ 0x9F
  else if a = 0xF0 then 0x90 ≤ b && b ≤ 0xBF
  else if a = 0xF4 then 0x80 ≤ b && b ≤ 0x8F
  else isContinuation b

/-- The first character of a text, or the replacement character for the longest start of a sequence
that is broken off, and the number of bytes this takes. -/
def lossyChar (a : UInt8) (rest : List UInt8) : Char × ℕ :=
  if a < 0x80 then (Char.ofNat a.toNat, 1)
  else if 0xC2 ≤ a && a ≤ 0xDF then
    match rest with
    | b :: _ => if isContinuation b then (codePoint [a - 0xC0, b - 0x80], 2) else ('\uFFFD', 1)
    | [] => ('\uFFFD', 1)
  else if 0xE0 ≤ a && a ≤ 0xEF then
    match rest with
    | b :: rest =>
      if !secondByte a b then ('\uFFFD', 1)
      else match rest with
        | c :: _ =>
          if isContinuation c then (codePoint [a - 0xE0, b - 0x80, c - 0x80], 3) else ('\uFFFD', 2)
        | [] => ('\uFFFD', 2)
    | [] => ('\uFFFD', 1)
  else if 0xF0 ≤ a && a ≤ 0xF4 then
    match rest with
    | b :: rest =>
      if !secondByte a b then ('\uFFFD', 1)
      else match rest with
        | c :: rest =>
          if !isContinuation c then ('\uFFFD', 2)
          else match rest with
            | d :: _ =>
              if isContinuation d then (codePoint [a - 0xF0, b - 0x80, c - 0x80, d - 0x80], 4)
              else ('\uFFFD', 3)
            | [] => ('\uFFFD', 3)
        | [] => ('\uFFFD', 2)
    | [] => ('\uFFFD', 1)
  else ('\uFFFD', 1)

/-- `String::from_utf8_lossy`; every byte that a character takes beyond its first is skipped. -/
def lossyChars : ℕ → List UInt8 → List Char
  | _, [] => []
  | skip + 1, _ :: rest => lossyChars skip rest
  | 0, a :: rest =>
      let (c, width) := lossyChar a rest
      c :: lossyChars (width - 1) rest

def fromUtf8Lossy (bytes : List UInt8) : String := String.ofList (lossyChars 0 bytes)

end WaveFlow
